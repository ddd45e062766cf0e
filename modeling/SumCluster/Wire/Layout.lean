import SumCluster.Message

/-!
# Binary layouts

A layout says how the values of a type stand in a sequence of bytes: how one is written, and how
one is read off the front of a sequence. Numbers have a fixed width and start with the least
significant byte; an optional value follows a byte 0 or 1; a list follows the number of its members
in eight bytes.
-/

namespace SumCluster.Wire

/-- A sequence of bytes. -/
abbrev Bytes : Type := List UInt8

/-- Why bytes cannot be read as a value. -/
inductive Fault
  /-- The bytes end inside the value. -/
  | endOfData
  /-- No variant has this number; there are `count` of them. -/
  | variant (found count : Nat)
  /-- Neither of the two kinds of addresses has this number. -/
  | family (found : Nat)
  /-- The byte before an optional value is neither 0 nor 1. -/
  | presence (found : Nat)
  /-- The byte of a truth value is neither 0 nor 1. -/
  | truth (found : Nat)
  deriving DecidableEq, Repr

/-- The wording of a fault. -/
def Fault.message : Fault → String
  | endOfData => "io error: unexpected end of file"
  | variant found count =>
    s!"invalid value: integer `{found}`, expected variant index 0 <= i < {count}"
  | family found => s!"invalid value: integer `{found}`, expected `V4` or `V6`"
  | presence found => s!"tag for enum is not valid, found {found}"
  | truth found => s!"invalid u8 while decoding bool, expected 0 or 1, found {found}"

/-- A step of reading: the value and the bytes after it, or a fault. -/
abbrev Reader (α : Type) : Type :=
  Bytes → Except Fault (α × Bytes)

/-- Reads a value and converts it. -/
def Reader.map {α β : Type} (f : α → β) (reader : Reader α) : Reader β := fun bytes => do
  let (a, bytes) ← reader bytes
  return (f a, bytes)

/-- How the values of a type stand in a sequence of bytes. -/
structure Layout (α : Type) where
  write : α → Bytes
  read : Reader α

/-- The lowest `width` bytes of a number, the least significant one first. -/
def writeWord : Nat → Nat → Bytes
  | 0, _ => []
  | width + 1, n => UInt8.ofNat n :: writeWord width (n / 256)

/-- The number with the given bytes, the least significant one first. -/
def wordOf : Bytes → Nat
  | [] => 0
  | byte :: rest => byte.toNat + 256 * wordOf rest

/-- Reads a number of `width` bytes. -/
def readWord (width : Nat) : Reader Nat := fun bytes =>
  let word := bytes.take width
  if word.length < width then .error .endOfData else .ok (wordOf word, bytes.drop width)

namespace Layout

/-- A type laid out as the type it is converted to. -/
def via {α β : Type} (layout : Layout β) (into : α → β) (back : β → α) : Layout α where
  write a := layout.write (into a)
  read := layout.read.map back

/-- One value after another. -/
def pair {α β : Type} (first : Layout α) (second : Layout β) : Layout (α × β) where
  write p := first.write p.1 ++ second.write p.2
  read bytes := do
    let (a, bytes) ← first.read bytes
    let (b, bytes) ← second.read bytes
    return ((a, b), bytes)

/-- A number of `width` bytes. -/
def word (width : Nat) : Layout Nat where
  write := writeWord width
  read := readWord width

/-- A byte. -/
def byte : Layout UInt8 := (word 1).via UInt8.toNat UInt8.ofNat

/-- Two bytes. -/
def word16 : Layout UInt16 := (word 2).via UInt16.toNat UInt16.ofNat

/-- Four bytes. -/
def word32 : Layout UInt32 := (word 4).via UInt32.toNat UInt32.ofNat

/-- Eight bytes. -/
def word64 : Layout UInt64 := (word 8).via UInt64.toNat UInt64.ofNat

/-- Eight bytes, in two's complement. -/
def int64 : Layout Int64 := word64.via Int64.toUInt64 UInt64.toInt64

/-- A truth value. -/
def bool : Layout Bool where
  write b := [if b then 1 else 0]
  read bytes := do
    let (n, bytes) ← readWord 1 bytes
    match n with
    | 0 => return (false, bytes)
    | 1 => return (true, bytes)
    | n => .error (.truth n)

/-- A value that may be missing. -/
def option {α : Type} (layout : Layout α) : Layout (Option α) where
  write
    | none => [0]
    | some a => 1 :: layout.write a
  read bytes := do
    let (n, bytes) ← readWord 1 bytes
    match n with
    | 0 => return (none, bytes)
    | 1 =>
      let (a, bytes) ← layout.read bytes
      return (some a, bytes)
    | n => .error (.presence n)

/-- Reads a given number of values. -/
def readMany {α : Type} (layout : Layout α) : Nat → Reader (List α)
  | 0, bytes => .ok ([], bytes)
  | count + 1, bytes => do
    let (a, bytes) ← layout.read bytes
    let (rest, bytes) ← readMany layout count bytes
    return (a :: rest, bytes)

/-- A list with its length in front. -/
def list {α : Type} (layout : Layout α) : Layout (List α) where
  write as := writeWord 8 as.length ++ as.flatMap layout.write
  read bytes := do
    let (count, bytes) ← readWord 8 bytes
    readMany layout count bytes

/-- The four octets of an IPv4 address. -/
def ipv4 : Layout IPv4 :=
  (byte.pair (byte.pair (byte.pair byte))).via
    (fun ip => (ip.a, ip.b, ip.c, ip.d))
    (fun (a, b, c, d) => ⟨a, b, c, d⟩)

/-- A group of an IPv6 address, the more significant octet first. -/
def group : Layout UInt16 :=
  (byte.pair byte).via
    (fun group => (highOctet group, lowOctet group))
    (fun (high, low) => joinOctets high low)

/-- The sixteen octets of an IPv6 address. -/
def ipv6 : Layout IPv6 :=
  (group.pair (group.pair (group.pair (group.pair
      (group.pair (group.pair (group.pair group))))))).via
    (fun ip => (ip.a, ip.b, ip.c, ip.d, ip.e, ip.f, ip.g, ip.h))
    (fun (a, b, c, d, e, f, g, h) => ⟨a, b, c, d, e, f, g, h⟩)

/-- A socket address without scope and flow label: the number 0 or 1 of its family in four bytes,
the IP address and the port. -/
def address : Layout Address where
  write
    | .v4 ip port => writeWord 4 0 ++ ipv4.write ip ++ word16.write port
    | .v6 ip port _ _ => writeWord 4 1 ++ ipv6.write ip ++ word16.write port
  read bytes := do
    let (family, bytes) ← readWord 4 bytes
    match family with
    | 0 =>
      let (ip, bytes) ← ipv4.read bytes
      let (port, bytes) ← word16.read bytes
      return (.v4 ip port, bytes)
    | 1 =>
      let (ip, bytes) ← ipv6.read bytes
      let (port, bytes) ← word16.read bytes
      return (.v6 ip port 0 0, bytes)
    | n => .error (.family n)

/-- One line of a table of nodes. -/
def entry : Layout PeerEntry :=
  (word32.pair (address.pair (bool.pair word64))).via
    (fun entry => (entry.id, entry.address, entry.isAlive, entry.age))
    (fun (id, address, isAlive, age) => ⟨id, address, isAlive, age⟩)

end Layout

end SumCluster.Wire
