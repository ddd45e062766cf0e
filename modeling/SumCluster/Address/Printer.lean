import SumCluster.Address.Basic
import SumCluster.Text.Numeral

/-!
# Printing socket addresses

IPv4 octets are decimal. IPv6 groups are lower-case hexadecimal without leading zeros; the longest
run of two or more zero groups, the first one if two are equally long, is written `::`. A scope
other than zero follows a percent sign, and an IPv6 address stands in brackets before its port.
-/

namespace SumCluster

/-- The octets in decimal, with dots between them. -/
def IPv4.render (ip : IPv4) : List Char :=
  ['.'].intercalate (ip.octets.map fun octet => Numeral.render octet.toNat)

namespace IPv6

/-- Groups in hexadecimal, with colons between them. -/
def renderGroups (groups : List UInt16) : List Char :=
  [':'].intercalate (groups.map fun group => Nat.toDigits 16 group.toNat)

/-- Length of the run of zero groups at the start. -/
def leadingZeros (groups : List UInt16) : Nat :=
  (groups.takeWhile (· == 0)).length

/-- Start and length of the longest run of zero groups, the first one if several are longest.
`start` is the position of the list in the whole address. -/
def longestRun : Nat → List UInt16 → Nat × Nat
  | start, [] => (start, 0)
  | start, group :: rest =>
    let here := leadingZeros (group :: rest)
    let later := longestRun (start + 1) rest
    if later.2 ≤ here then (start, here) else later

/-- The text of an IPv6 address. -/
def render (ip : IPv6) : List Char :=
  match ip.mapped? with
  | some inner => "::ffff:".toList ++ inner.render
  | none =>
    let (start, length) := longestRun 0 ip.groups
    if length ≤ 1 then renderGroups ip.groups
    else
      renderGroups (ip.groups.take start) ++ [':', ':'] ++
        renderGroups (ip.groups.drop (start + length))

end IPv6

namespace Address

/-- The text of a socket address; a flow label is not shown. -/
def render : Address → List Char
  | v4 ip port => ip.render ++ ':' :: Numeral.render port.toNat
  | v6 ip port _ scope =>
    let zone := if scope = 0 then [] else '%' :: Numeral.render scope.toNat
    '[' :: ip.render ++ zone ++ [']', ':'] ++ Numeral.render port.toNat

instance : ToString Address where
  toString address := String.ofList address.render

end Address

end SumCluster
