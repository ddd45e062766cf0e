import SumCluster.Settings.Value
import SumCluster.Text.Scan

/-!
# TOML scalars

Strings in their four forms, and the words that stand for numbers, truth values, dates and times.
Line ends are single line feeds here; the document reader sees to that.
-/

namespace SumCluster.Toml

/-- Space or tab. -/
def isSpace (c : Char) : Bool :=
  c == ' ' || c == '\t'

/-- The text after spaces and tabs. -/
def skipSpaces (cs : List Char) : List Char :=
  cs.dropWhile isSpace

/-- A character that a line may hold: no control but the tab. -/
def isInline (c : Char) : Bool :=
  c == '\t' || (0x20 ≤ c.toNat && c.toNat != 0x7F)

/-! ## Strings -/

/-- The character that a one-letter escape stands for. -/
def shortEscape? : Char → Option Char
  | 'b' => some '\x08'
  | 't' => some '\t'
  | 'n' => some '\n'
  | 'f' => some '\x0c'
  | 'r' => some '\r'
  | '"' => some '"'
  | '\\' => some '\\'
  | _ => none

/-- The character whose code point is given in hexadecimal; surrogates are no characters. -/
def codePoint? (digits : List Char) : Option Char := do
  let values ← digits.mapM (Numeral.digit? 16)
  let code := values.foldl (fun acc d => 16 * acc + d) 0
  if code < 0xD800 ∨ (0xDFFF < code ∧ code < 0x110000) then some (Char.ofNat code) else none

/-- Reads a string up to its closing quote; `acc` holds what came before, last character first. -/
def scanBasic (acc : List Char) : Scan (List Char)
  | [] => none
  | '"' :: rest => some (acc.reverse, rest)
  | '\\' :: 'u' :: a :: b :: c :: d :: rest =>
    (codePoint? [a, b, c, d]).bind fun e => scanBasic (e :: acc) rest
  | '\\' :: 'U' :: a :: b :: c :: d :: e :: f :: g :: h :: rest =>
    (codePoint? [a, b, c, d, e, f, g, h]).bind fun e => scanBasic (e :: acc) rest
  | '\\' :: c :: rest => (shortEscape? c).bind fun e => scanBasic (e :: acc) rest
  | c :: rest => if isInline c && c != '\\' then scanBasic (c :: acc) rest else none

/-- Reads a literal string up to its closing quote. -/
def scanLiteral (acc : List Char) : Scan (List Char)
  | [] => none
  | '\'' :: rest => some (acc.reverse, rest)
  | c :: rest => if isInline c then scanLiteral (c :: acc) rest else none

/-- Where the reader of a string over several lines stands: inside the text, between a backslash
and the line end that has to follow it, or in the white space skipped after that line end. -/
inductive Fold
  | inside
  | awaiting
  | skipping

/-- Reads a string over several lines up to its closing quotes. One or two quotes right before the
closing ones belong to the text. -/
def scanMultiBasic (fold : Fold) (acc : List Char) : Scan (List Char)
  | [] => none
  | c :: rest =>
    match fold, c, rest with
    | .awaiting, '\n', rest => scanMultiBasic .skipping acc rest
    | .awaiting, c, rest => if isSpace c then scanMultiBasic .awaiting acc rest else none
    | .skipping, '\n', rest => scanMultiBasic .skipping acc rest
    | .skipping, ' ', rest => scanMultiBasic .skipping acc rest
    | .skipping, '\t', rest => scanMultiBasic .skipping acc rest
    | _, '"', '"' :: '"' :: '"' :: '"' :: rest => some (('"' :: '"' :: acc).reverse, rest)
    | _, '"', '"' :: '"' :: '"' :: rest => some (('"' :: acc).reverse, rest)
    | _, '"', '"' :: '"' :: rest => some (acc.reverse, rest)
    | _, '\\', 'u' :: a :: b :: c :: d :: rest =>
      (codePoint? [a, b, c, d]).bind fun e => scanMultiBasic .inside (e :: acc) rest
    | _, '\\', 'U' :: a :: b :: c :: d :: e :: f :: g :: h :: rest =>
      (codePoint? [a, b, c, d, e, f, g, h]).bind fun e => scanMultiBasic .inside (e :: acc) rest
    | _, '\\', '\n' :: rest => scanMultiBasic .skipping acc rest
    | _, '\\', ' ' :: rest => scanMultiBasic .awaiting acc rest
    | _, '\\', '\t' :: rest => scanMultiBasic .awaiting acc rest
    | _, '\\', c :: rest =>
      (shortEscape? c).bind fun e => scanMultiBasic .inside (e :: acc) rest
    | _, c, rest =>
      if (isInline c && c != '\\') || c == '\n' then scanMultiBasic .inside (c :: acc) rest
      else none

/-- Reads a literal string over several lines up to its closing quotes. -/
def scanMultiLiteral (acc : List Char) : Scan (List Char)
  | [] => none
  | '\'' :: '\'' :: '\'' :: '\'' :: '\'' :: rest => some (('\'' :: '\'' :: acc).reverse, rest)
  | '\'' :: '\'' :: '\'' :: '\'' :: rest => some (('\'' :: acc).reverse, rest)
  | '\'' :: '\'' :: '\'' :: rest => some (acc.reverse, rest)
  | c :: rest => if isInline c || c == '\n' then scanMultiLiteral (c :: acc) rest else none

/-- The text after a line feed, if there is one. -/
def skipFirstLineEnd : List Char → List Char
  | '\n' :: rest => rest
  | cs => cs

/-- Reads a string within one line. -/
def scanLineString : Scan (List Char)
  | '"' :: rest => scanBasic [] rest
  | '\'' :: rest => scanLiteral [] rest
  | _ => none

/-- Reads a string in any of its forms. -/
def scanString : Scan (List Char)
  | '"' :: '"' :: '"' :: rest => scanMultiBasic .inside [] (skipFirstLineEnd rest)
  | '\'' :: '\'' :: '\'' :: rest => scanMultiLiteral [] (skipFirstLineEnd rest)
  | cs => scanLineString cs

/-! ## Numbers -/

/-- The digits of a group with single underscores between them. -/
def digitGroup? (base : Nat) : List Char → Option (List Nat)
  | [] => none
  | [c] => (Numeral.digit? base c).map ([·])
  | c :: '_' :: rest => do
    let d ← Numeral.digit? base c
    let ds ← digitGroup? base rest
    return d :: ds
  | c :: rest => do
    let d ← Numeral.digit? base c
    let ds ← digitGroup? base rest
    return d :: ds

/-- The number with the given digits. -/
def valueOf (base : Nat) (digits : List Nat) : Nat :=
  digits.foldl (fun acc d => base * acc + d) 0

/-- Decimal digits without a superfluous leading zero. -/
def decimalGroup? (cs : List Char) : Option (List Nat) := do
  let digits ← digitGroup? 10 cs
  if digits.head? = some 0 ∧ 1 < cs.length then none else some digits

/-- The sign in front of a word, and the rest of the word. -/
def splitSign : List Char → Bool × List Char
  | '+' :: rest => (false, rest)
  | '-' :: rest => (true, rest)
  | cs => (false, cs)

/-- An integer of 64 bits. Only decimal ones may have a sign. -/
def integer? (word : List Char) : Option Int := do
  match word with
  | '0' :: 'x' :: rest => inRange (valueOf 16 (← digitGroup? 16 rest))
  | '0' :: 'o' :: rest => inRange (valueOf 8 (← digitGroup? 8 rest))
  | '0' :: 'b' :: rest => inRange (valueOf 2 (← digitGroup? 2 rest))
  | _ =>
    let (negative, rest) := splitSign word
    let n := valueOf 10 (← decimalGroup? rest)
    inRange (if negative then -(n : Int) else n)
where
  inRange (n : Int) : Option Int :=
    if Int64.minValue.toInt ≤ n ∧ n ≤ Int64.maxValue.toInt then some n else none

/-- The double nearest to `mantissa · 10 ^ exponent`, for a mantissa of `count` digits. -/
def nearestScaled (mantissa count : Nat) (exponent : Int) : Float :=
  if mantissa = 0 ∨ exponent + count < -400 then 0.0
  else if 400 < exponent then 1.0 / 0.0
  else Float.ofScientific mantissa (exponent < 0) exponent.natAbs

/-- The exponent after its letter. -/
def exponent? (cs : List Char) : Option Int := do
  let (negative, rest) := splitSign cs
  let n := valueOf 10 (← digitGroup? 10 rest)
  return if negative then -(n : Int) else n

/-- Splits a word at its first exponent letter. -/
def splitExponent (cs : List Char) : List Char × Option (List Char) :=
  let mantissa := cs.takeWhile fun c => c != 'e' && c != 'E'
  match cs.drop mantissa.length with
  | [] => (mantissa, none)
  | _ :: rest => (mantissa, some rest)

/-- A real number without sign: with a fraction, an exponent, or both. One too great for a double is
none. -/
def magnitude? (word : List Char) : Option Float := do
  let (mantissa, scale) := splitExponent word
  let whole := mantissa.takeWhile (· != '.')
  let exponent ← (scale.map exponent?).getD (some 0)
  match mantissa.drop whole.length with
  | [] =>
    let digits ← decimalGroup? whole
    if scale.isNone then none
    else some (nearestScaled (valueOf 10 digits) digits.length exponent)
  | _ :: fraction =>
    let digits ← decimalGroup? whole
    let places ← digitGroup? 10 fraction
    some (nearestScaled (valueOf 10 (digits ++ places)) (digits.length + places.length)
      (exponent - places.length))

/-- A real number. The positive ones must fit a double. -/
def real? (word : List Char) : Option Float :=
  let (negative, rest) := splitSign word
  let signed (x : Float) : Float := if negative then -x else x
  if rest = ['i', 'n', 'f'] then some (signed (1.0 / 0.0))
  else if rest = ['n', 'a', 'n'] then some (0.0 / 0.0)
  else
    match magnitude? rest with
    | none => none
    | some x => if x.isInf && !negative then none else some (signed x)

/-! ## Dates and times -/

/-- The number in a row of exactly two digits. -/
def twoDigits? : List Char → Option Nat
  | [a, b] => return 10 * (← Numeral.digit? 10 a) + (← Numeral.digit? 10 b)
  | _ => none

/-- Days in a month. -/
def daysIn (year month : Nat) : Nat :=
  let leap := year % 4 = 0 ∧ (year % 100 ≠ 0 ∨ year % 400 = 0)
  if month = 2 then (if leap then 29 else 28)
  else if month = 4 ∨ month = 6 ∨ month = 9 ∨ month = 11 then 30
  else 31

/-- Whether a text of ten characters is a date. -/
def isDate : List Char → Bool
  | [a, b, c, d, '-', e, f, '-', g, h] =>
    match twoDigits? [a, b], twoDigits? [c, d], twoDigits? [e, f], twoDigits? [g, h] with
    | some century, some year, some month, some day =>
      1 ≤ month && month ≤ 12 && 1 ≤ day && day ≤ daysIn (100 * century + year) month
    | _, _, _, _ => false
  | _ => false

/-- Whether a text of two digits is a number of at most `bound`. -/
def isUpTo (bound : Nat) (cs : List Char) : Bool :=
  (twoDigits? cs).any (· ≤ bound)

/-- Whether a text is a difference from universal time. -/
def isOffset : List Char → Bool
  | ['Z'] | ['z'] => true
  | [sign, a, b, ':', c, d] =>
    (sign == '+' || sign == '-') && isUpTo 23 [a, b] && isUpTo 59 [c, d]
  | _ => false

/-- Whether a text is nothing, or a difference from universal time where one is allowed. -/
def isEnd (offset : Bool) (cs : List Char) : Bool :=
  cs.isEmpty || (offset && isOffset cs)

/-- Whether a text is a time of day, maybe with a difference from universal time. -/
def isTime (offset : Bool) : List Char → Bool
  | a :: b :: ':' :: c :: d :: ':' :: e :: f :: rest =>
    isUpTo 23 [a, b] && isUpTo 59 [c, d] && isUpTo 60 [e, f] &&
      match rest with
      | '.' :: fraction =>
        let places := fraction.takeWhile Char.isDigit
        !places.isEmpty && isEnd offset (fraction.drop places.length)
      | rest => isEnd offset rest
  | _ => false

/-- Whether a word is a date, a time of day, or both. -/
def isMoment (word : List Char) : Bool :=
  isTime false word ||
    isDate (word.take 10) &&
      match word.drop 10 with
      | [] => true
      | c :: time => (c == 'T' || c == 't') && isTime true time

/-! ## Words -/

/-- A character of a word. -/
def isWordChar (c : Char) : Bool :=
  c.isAlphanum || c == '+' || c == '-' || c == '_' || c == '.' || c == ':'

/-- The value that a word stands for. -/
def ofWord? (word : List Char) : Option Setting :=
  if word = "true".toList then some (.truth true)
  else if word = "false".toList then some (.truth false)
  else if isMoment word then some .moment
  else ((integer? word).map Setting.integer).or ((real? word).map Setting.real)

/-- Reads a word. A date and a time of day may have a space between them. -/
def scanWord : Scan Setting := fun cs => do
  let word := cs.takeWhile isWordChar
  let rest := cs.drop word.length
  let value ← ofWord? word
  match rest with
  | ' ' :: more =>
    let time := more.takeWhile isWordChar
    if isDate word && isTime true time then return (.moment, more.drop time.length)
    else return (value, rest)
  | _ => return (value, rest)

end SumCluster.Toml
