/-!
# Decimal numerals

An unsigned number below a bound is read digit by digit. A leading plus sign is allowed, a minus
sign is not, and leading zeros do not count. The first digit that carries the value over the bound
and the first character that is no digit are faults; whichever comes first is reported.
-/

namespace SumCluster.Numeral

/-- Why a text is no number below the bound. -/
inductive Fault
  | empty
  | invalidDigit
  | tooLarge
  deriving DecidableEq, Repr

/-- The wording of a fault. -/
def Fault.message : Fault → String
  | .empty => "cannot parse integer from empty string"
  | .invalidDigit => "invalid digit found in string"
  | .tooLarge => "number too large to fit in target type"

/-- The value of a digit in a base of at most sixteen; letters of both cases count from ten. -/
def digit? (base : Nat) (c : Char) : Option Nat :=
  let value :=
    if '0' ≤ c ∧ c ≤ '9' then c.toNat - '0'.toNat
    else if 'a' ≤ c ∧ c ≤ 'f' then c.toNat - 'a'.toNat + 10
    else if 'A' ≤ c ∧ c ≤ 'F' then c.toNat - 'A'.toNat + 10
    else base
  if value < base then some value else none

/-- Reads decimal digits onto the value `acc` read so far. -/
def readDigits (bound : Nat) : Nat → List Char → Except Fault Nat
  | acc, [] => .ok acc
  | acc, c :: rest =>
    match digit? 10 c with
    | none => .error .invalidDigit
    | some d =>
      if 10 * acc + d ≤ bound then readDigits bound (10 * acc + d) rest else .error .tooLarge

/-- Reads a whole text as a number of at most `bound`. -/
def read (bound : Nat) : List Char → Except Fault Nat
  | [] => .error .empty
  | ['+'] => .error .invalidDigit
  | '+' :: digits => readDigits bound 0 digits
  | digits => readDigits bound 0 digits

/-- The decimal digits of a number, without leading zeros. -/
def render (n : Nat) : List Char :=
  Nat.toDigits 10 n

end SumCluster.Numeral
