/-!
# Socket addresses

An address is an IPv4 or an IPv6 address with a port. The IPv6 form also carries a scope and a flow
label, which tell two addresses apart but never travel in a message.
-/

namespace SumCluster

/-- The four octets of an IPv4 address, in written order. -/
structure IPv4 where
  a : UInt8
  b : UInt8
  c : UInt8
  d : UInt8
  deriving DecidableEq, Repr, Inhabited

/-- The eight groups of an IPv6 address, in written order. -/
structure IPv6 where
  a : UInt16
  b : UInt16
  c : UInt16
  d : UInt16
  e : UInt16
  f : UInt16
  g : UInt16
  h : UInt16
  deriving DecidableEq, Repr, Inhabited

/-- The octets as a list. -/
def IPv4.octets (ip : IPv4) : List UInt8 :=
  [ip.a, ip.b, ip.c, ip.d]

/-- The groups as a list. -/
def IPv6.groups (ip : IPv6) : List UInt16 :=
  [ip.a, ip.b, ip.c, ip.d, ip.e, ip.f, ip.g, ip.h]

/-- The address with the given groups, if there are eight. -/
def IPv6.ofGroups? : List UInt16 → Option IPv6
  | [a, b, c, d, e, f, g, h] => some ⟨a, b, c, d, e, f, g, h⟩
  | _ => none

/-- The group made of two octets, the more significant one first. -/
def joinOctets (high low : UInt8) : UInt16 :=
  UInt16.ofNat (256 * high.toNat + low.toNat)

/-- The more significant octet of a group. -/
def highOctet (group : UInt16) : UInt8 :=
  UInt8.ofNat (group.toNat / 256)

/-- The less significant octet of a group. -/
def lowOctet (group : UInt16) : UInt8 :=
  UInt8.ofNat (group.toNat % 256)

/-- The two groups that an IPv4 address fills at the end of an IPv6 address. -/
def IPv4.groups (ip : IPv4) : List UInt16 :=
  [joinOctets ip.a ip.b, joinOctets ip.c ip.d]

/-- The IPv4 address that an IPv6 address stands for, if it has the form `::ffff:0:0/96`. -/
def IPv6.mapped? (ip : IPv6) : Option IPv4 :=
  if ip.groups.take 6 = [0, 0, 0, 0, 0, 0xFFFF] then
    some ⟨highOctet ip.g, lowOctet ip.g, highOctet ip.h, lowOctet ip.h⟩
  else none

/-- A socket address. -/
inductive Address
  | v4 (ip : IPv4) (port : UInt16)
  | v6 (ip : IPv6) (port : UInt16) (flow : UInt32) (scope : UInt32)
  deriving DecidableEq, Repr, Inhabited

namespace Address

/-- The port. -/
def port : Address → UInt16
  | v4 _ port => port
  | v6 _ port _ _ => port

/-- The same IP address with another port; flow label and scope are cleared. -/
def atPort (port : UInt16) : Address → Address
  | v4 ip _ => v4 ip port
  | v6 ip _ _ _ => v6 ip port 0 0

/-- The part of an address that travels in a message: all but flow label and scope. -/
def bare : Address → Address
  | v4 ip port => v4 ip port
  | v6 ip port _ _ => v6 ip port 0 0

/-- Whether nothing of the address is lost in a message. -/
def IsBare (address : Address) : Prop :=
  address.bare = address

instance (address : Address) : Decidable address.IsBare :=
  inferInstanceAs (Decidable (address.bare = address))

@[simp] theorem bare_bare (address : Address) : address.bare.bare = address.bare := by
  cases address <;> rfl

end Address

end SumCluster
