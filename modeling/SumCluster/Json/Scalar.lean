import SumCluster.Text.Numeral
import SumCluster.Text.Scan

/-!
# Texts and numbers in JSON

Quoted texts with their escapes, and numbers. A number without fraction and exponent that fits a
word of 64 bits is an integer. Any other is a double: of its digits those count that fit an unsigned
word, and one multiplication or division by a power of ten puts the point in its place.
-/

namespace SumCluster.Json

/-! ## Texts -/

/-- The value of four hexadecimal digits. -/
def hex4? (a b c d : Char) : Option Nat := do
  let a ← Numeral.digit? 16 a
  let b ← Numeral.digit? 16 b
  let c ← Numeral.digit? 16 c
  let d ← Numeral.digit? 16 d
  return ((a * 16 + b) * 16 + c) * 16 + d

/-- The character that a letter after a backslash stands for. -/
def escaped? : Char → Option Char
  | '"' => some '"'
  | '\\' => some '\\'
  | '/' => some '/'
  | 'b' => some '\x08'
  | 'f' => some '\x0c'
  | 'n' => some '\n'
  | 'r' => some '\r'
  | 't' => some '\t'
  | _ => none

/-- The character of a code point, unless it is half of a pair. -/
def scalar? (code : Nat) : Option Char :=
  if code < 0xD800 ∨ 0xE000 ≤ code then some (Char.ofNat code) else none

/-- The character of a pair of halves. -/
def paired? (high low : Nat) : Option Char :=
  if 0xD800 ≤ high ∧ high < 0xDC00 ∧ 0xDC00 ≤ low ∧ low < 0xE000 then
    some (Char.ofNat (0x10000 + (high - 0xD800) * 0x400 + (low - 0xDC00)))
  else none

/-- Reads a text up to its closing quote; `acc` holds what was read of it, the last first. -/
def scanText (acc : List Char) : Scan String
  | [] => none
  | '"' :: rest => some (String.ofList acc.reverse, rest)
  | '\\' :: 'u' :: a :: b :: c :: d :: '\\' :: 'u' :: e :: f :: g :: h :: rest => do
    let first ← hex4? a b c d
    match scalar? first with
    | some char => scanText (char :: acc) ('\\' :: 'u' :: e :: f :: g :: h :: rest)
    | none => scanText ((← paired? first (← hex4? e f g h)) :: acc) rest
  | '\\' :: 'u' :: a :: b :: c :: d :: rest => do
    scanText ((← scalar? (← hex4? a b c d)) :: acc) rest
  | '\\' :: c :: rest => do scanText ((← escaped? c) :: acc) rest
  | c :: rest => scanText (c :: acc) rest
termination_by text => text.length

/-! ## Numbers -/

/-- Takes the digits off a text. -/
def digits (text : List Char) : List Nat × List Char :=
  ((text.takeWhile Char.isDigit).filterMap (Numeral.digit? 10), text.dropWhile Char.isDigit)

/-- The number with the given decimal digits. -/
def ofDigits (ds : List Nat) : Nat :=
  ds.foldl (fun acc d => 10 * acc + d) 0

/-- The value of the leading digits that fit an unsigned word, and how many these are. -/
def significand (ds : List Nat) : Nat × Nat :=
  go ds 0 0
where
  go : List Nat → Nat → Nat → Nat × Nat
    | [], acc, taken => (acc, taken)
    | d :: rest, acc, taken =>
      if 10 * acc + d < UInt64.size then go rest (10 * acc + d) (taken + 1) else (acc, taken)

/-- The greatest exponent of a power of ten that is a double. -/
def greatestExponent : Nat := 308

/-- A double divided by a power of ten, in steps that are powers of ten themselves. -/
def scaleDown (x : Float) (exponent : Nat) : Float :=
  if exponent ≤ greatestExponent then x / Float.ofScientific 1 false exponent
  else if x == 0.0 then x
  else scaleDown (x / Float.ofScientific 1 false greatestExponent) (exponent - greatestExponent)
termination_by exponent
decreasing_by simp only [greatestExponent] at *; omega

/-- A double times a power of ten. -/
def scale (x : Float) : Int → Float
  | .ofNat exponent => if x == 0.0 then x else x * Float.ofScientific 1 false exponent
  | .negSucc exponent => scaleDown x (exponent + 1)

/-- Takes the fraction off a text, if it goes on with one. -/
def fraction : List Char → List Nat × List Char
  | '.' :: rest => digits rest
  | text => ([], text)

/-- Takes the exponent off a text, if it goes on with one. -/
def exponent? : List Char → Option Int × List Char
  | 'e' :: rest | 'E' :: rest =>
    let (sign, rest) : Int × List Char :=
      match rest with
      | '-' :: rest => (-1, rest)
      | '+' :: rest => (1, rest)
      | rest => (1, rest)
    let (ds, rest) := digits rest
    (some (sign * ofDigits ds), rest)
  | text => (none, text)

/-- The double of a number. -/
def double (isNegative : Bool) (whole part : List Nat) (exponent : Int) : Float :=
  let (value, taken) := significand (whole ++ part)
  let x := scale (Float.ofScientific value false 0) (exponent + whole.length - taken)
  if isNegative then -x else x

/-- Whether an integer fits a word of 64 bits, signed or not; zero has no sign. -/
def fitsWord (isNegative : Bool) (value : Nat) : Bool :=
  if isNegative then decide (0 < value ∧ Int64.minValue.toInt ≤ -value)
  else decide (value < UInt64.size)

/-- Takes a number off a text: an integer or a double. -/
def scanNumber (text : List Char) : Option ((Int ⊕ Float) × List Char) :=
  let (isNegative, rest) : Bool × List Char :=
    match text with
    | '-' :: rest => (true, rest)
    | text => (false, text)
  match digits rest with
  | ([], _) => none
  | (whole, rest) =>
    let (part, rest) := fraction rest
    let (exponent, rest) := exponent? rest
    let value := ofDigits whole
    if part.isEmpty && exponent.isNone && fitsWord isNegative value then
      some (.inl (if isNegative then -value else value), rest)
    else some (.inr (double isNegative whole part (exponent.getD 0)), rest)

end SumCluster.Json
