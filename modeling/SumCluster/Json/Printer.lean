import SumCluster.Settings.Value

/-!
# Printing JSON

The compact JSON notation of a tree of settings, with the fields of a table in ascending order of
their names. A double is written with all its decimal digits, so that it reads back as it is.
-/

namespace SumCluster.Json

/-- A character inside a text. -/
def renderChar (c : Char) : List Char :=
  match c with
  | '"' => ['\\', '"']
  | '\\' => ['\\', '\\']
  | '\n' => ['\\', 'n']
  | '\r' => ['\\', 'r']
  | '\t' => ['\\', 't']
  | c =>
    if c.toNat < 32 then
      ['\\', 'u', '0', '0'] ++ (if c.toNat < 16 then ['0'] else []) ++ Nat.toDigits 16 c.toNat
    else [c]

/-- A text in quotes. -/
def renderText (s : String) : String :=
  (s.foldl (fun acc c => (renderChar c).foldl String.push acc) "\"").push '"'

/-- The decimal notation of `mantissa / 2 ^ places`, without needless zeros at its end. -/
def renderFraction (mantissa places : Nat) : String :=
  let digits := Nat.toDigits 10 (mantissa * Nat.pow 5 places)
  let digits := List.replicate (places + 1 - digits.length) '0' ++ digits
  let whole := digits.take (digits.length - places)
  let part := (digits.drop (digits.length - places)).reverse.dropWhile (· == '0')
  String.ofList (whole ++ '.' :: if part.isEmpty then ['0'] else part.reverse)

/-- A double; one that is no number is null. The 64 bits of a double are its sign, eleven bits of an
exponent and 52 bits of a fraction. -/
def renderReal (x : Float) : String :=
  let bits := x.toBits
  let sign := if bits >>> 63 = 1 then "-" else ""
  let exponent := ((bits >>> 52) &&& 0x7FF).toNat
  let fraction := (bits &&& 0xFFFFFFFFFFFFF).toNat
  if exponent = 0x7FF then "null"
  else
    let mantissa := if exponent = 0 then fraction else fraction + 0x10000000000000
    let exponent := max exponent 1
    sign ++
      if 1075 ≤ exponent then toString (mantissa <<< (exponent - 1075)) ++ ".0"
      else renderFraction mantissa (1075 - exponent)

mutual

/-- The notation of a tree. -/
def render : Setting → String
  | .null | .moment => "null"
  | .truth true => "true"
  | .truth false => "false"
  | .integer n => toString n
  | .real x => renderReal x
  | .text s => renderText s
  | .list items => "[" ++ ",".intercalate (renderItems items) ++ "]"
  | .table fields =>
    let fields := (renderFields fields).mergeSort fun a b => decide (a.1 ≤ b.1)
    "\x7b" ++ ",".intercalate (fields.map fun (name, value) => renderText name ++ ":" ++ value) ++
      "\x7d"

/-- The notations of several trees. -/
def renderItems : List Setting → List String
  | [] => []
  | item :: rest => render item :: renderItems rest

/-- The notations of the values of several fields. -/
def renderFields : List (String × Setting) → List (String × String)
  | [] => []
  | (name, value) :: rest => (name, render value) :: renderFields rest

end

end SumCluster.Json
