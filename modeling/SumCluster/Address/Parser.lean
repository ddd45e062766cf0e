import SumCluster.Address.Basic
import SumCluster.Text.Numeral
import SumCluster.Text.Scan

/-!
# Reading socket addresses

The accepted texts are `a.b.c.d:port` and `[v6]:port`. Octets have no leading zeros; ports and
scopes may have any number of them; an IPv6 group has one to four digits of either case. One `::`
stands for one or more zero groups, and the last two groups may be written as an IPv4 address, but
not right before a `::`.
-/

namespace SumCluster

/-- How a number is written inside an address. -/
structure NumberForm where
  base : Nat
  maxDigits : Option Nat
  leadingZeros : Bool
  bound : Nat

namespace NumberForm

/-- One of the four octets of an IPv4 address. -/
def octet : NumberForm := ⟨10, some 3, false, 255⟩

/-- One of the eight groups of an IPv6 address. -/
def group : NumberForm := ⟨16, some 4, true, 65535⟩

/-- The port. -/
def port : NumberForm := ⟨10, none, true, 65535⟩

/-- The scope of an IPv6 address. -/
def scope : NumberForm := ⟨10, none, true, 4294967295⟩

/-- Whether this many digits are too many. -/
def tooLong (form : NumberForm) (length : Nat) : Bool :=
  match form.maxDigits with
  | none => false
  | some most => most < length

/-- Reads as many digits as there are; fails if they do not have the form. -/
def scan (form : NumberForm) : Scan Nat := fun cs =>
  let digits := cs.takeWhile fun c => (Numeral.digit? form.base c).isSome
  let rest := cs.dropWhile fun c => (Numeral.digit? form.base c).isSome
  let value := digits.foldl (fun acc c => form.base * acc + (Numeral.digit? form.base c).getD 0) 0
  if digits.isEmpty || form.tooLong digits.length then none
  else if !form.leadingZeros && digits.head? == some '0' && 1 < digits.length then none
  else if form.bound < value then none
  else some (value, rest)

end NumberForm

/-- Reads four octets with dots between them. -/
def IPv4.scan : Scan IPv4 := fun cs => do
  let (a, cs) ← NumberForm.octet.scan cs
  let cs ← skip '.' cs
  let (b, cs) ← NumberForm.octet.scan cs
  let cs ← skip '.' cs
  let (c, cs) ← NumberForm.octet.scan cs
  let cs ← skip '.' cs
  let (d, cs) ← NumberForm.octet.scan cs
  return (⟨UInt8.ofNat a, UInt8.ofNat b, UInt8.ofNat c, UInt8.ofNat d⟩, cs)

namespace IPv6

/-- Reads a part of an IPv6 address; every part but the first follows a colon. -/
def scanPart {α : Type} (first : Bool) (part : Scan α) : Scan α := fun cs =>
  if first then part cs else (skip ':' cs).bind part

/-- Reads at most `room` groups. The flag tells whether an IPv4 address ended them. -/
def scanGroups : Nat → Bool → List Char → List UInt16 × Bool × List Char
  | 0, _, cs => ([], false, cs)
  | room + 1, first, cs =>
    match if 0 < room then scanPart first IPv4.scan cs else none with
    | some (ip, rest) => (ip.groups, true, rest)
    | none =>
      match scanPart first NumberForm.group.scan cs with
      | none => ([], false, cs)
      | some (group, rest) =>
        let (groups, ended, rest) := scanGroups room false rest
        (UInt16.ofNat group :: groups, ended, rest)

/-- Reads an IPv6 address. -/
def scan : Scan IPv6 := fun cs =>
  let (head, ended, rest) := scanGroups 8 true cs
  if head.length = 8 then (ofGroups? head).map (·, rest)
  else if ended then none
  else do
    let rest ← skip ':' rest
    let rest ← skip ':' rest
    let (tail, _, rest) := scanGroups (7 - head.length) true rest
    let zeros := List.replicate (8 - head.length - tail.length) 0
    let ip ← ofGroups? (head ++ zeros ++ tail)
    return (ip, rest)

end IPv6

namespace Address

/-- Reads a colon and a port. -/
def scanPort : Scan UInt16 := fun cs => do
  let cs ← skip ':' cs
  let (port, cs) ← NumberForm.port.scan cs
  return (UInt16.ofNat port, cs)

/-- Reads an IPv4 socket address. -/
def scanV4 : Scan Address := fun cs => do
  let (ip, cs) ← IPv4.scan cs
  let (port, cs) ← scanPort cs
  return (v4 ip port, cs)

/-- Reads a percent sign and a scope, or nothing. -/
def scanScope (cs : List Char) : UInt32 × List Char :=
  match (skip '%' cs).bind NumberForm.scope.scan with
  | some (scope, rest) => (UInt32.ofNat scope, rest)
  | none => (0, cs)

/-- Reads an IPv6 socket address. -/
def scanV6 : Scan Address := fun cs => do
  let cs ← skip '[' cs
  let (ip, cs) ← IPv6.scan cs
  let (scope, cs) := scanScope cs
  let cs ← skip ']' cs
  let (port, cs) ← scanPort cs
  return (v6 ip port 0 scope, cs)

/-- The address that a whole text denotes. -/
def parse? (cs : List Char) : Option Address :=
  match (scanV4 cs).or (scanV6 cs) with
  | some (address, []) => some address
  | _ => none

/-- Why a text is no address. -/
def faultMessage : String :=
  "invalid socket address syntax"

end Address

end SumCluster
