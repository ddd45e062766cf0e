import SumCluster.Json.Scalar
import SumCluster.Settings.Value

/-!
# Reading JSON

A tree of settings from its JSON notation. Fields stay in the order in which they are written.
-/

namespace SumCluster.Json

/-- The text without the blanks at its front. -/
def skipBlanks (text : List Char) : List Char :=
  text.dropWhile fun c => c == ' ' || c == '\n' || c == '\t' || c == '\r'

mutual

/-- Takes a value off a text, in a number of steps at most. -/
def scanValue : Nat → Scan Setting
  | 0, _ => none
  | fuel + 1, text =>
    match skipBlanks text with
    | '"' :: rest => (scanText [] rest).map fun (s, rest) => (.text s, rest)
    | '[' :: rest =>
      match skipBlanks rest with
      | ']' :: rest => some (.list [], rest)
      | rest => (scanItems fuel [] rest).map fun (items, rest) => (.list items, rest)
    | '\x7b' :: rest =>
      match skipBlanks rest with
      | '\x7d' :: rest => some (.table [], rest)
      | rest => (scanFields fuel [] rest).map fun (fields, rest) => (.table fields, rest)
    | 'n' :: 'u' :: 'l' :: 'l' :: rest => some (.null, rest)
    | 't' :: 'r' :: 'u' :: 'e' :: rest => some (.truth true, rest)
    | 'f' :: 'a' :: 'l' :: 's' :: 'e' :: rest => some (.truth false, rest)
    | text =>
      (scanNumber text).map fun (number, rest) =>
        (match number with
          | .inl n => .integer n
          | .inr x => .real x, rest)

/-- Takes the items of a list and its end off a text; `acc` holds the items before, the last
first. -/
def scanItems : Nat → List Setting → Scan (List Setting)
  | 0, _, _ => none
  | fuel + 1, acc, text => do
    let (item, rest) ← scanValue fuel text
    match skipBlanks rest with
    | ',' :: rest => scanItems fuel (item :: acc) rest
    | ']' :: rest => return ((item :: acc).reverse, rest)
    | _ => none

/-- Takes the fields of a table and its end off a text. -/
def scanFields : Nat → List (String × Setting) → Scan (List (String × Setting))
  | 0, _, _ => none
  | fuel + 1, acc, text => do
    let rest ← skip '"' (skipBlanks text)
    let (name, rest) ← scanText [] rest
    let rest ← skip ':' (skipBlanks rest)
    let (value, rest) ← scanValue fuel rest
    match skipBlanks rest with
    | ',' :: rest => scanFields fuel ((name, value) :: acc) rest
    | '\x7d' :: rest => return (((name, value) :: acc).reverse, rest)
    | _ => none

end

/-- Reads a whole text. Every step takes at least one character, so the length is enough fuel. -/
def parse? (text : String) : Option Setting := do
  let chars := text.toList
  let (value, rest) ← scanValue (chars.length + 1) chars
  if (skipBlanks rest).isEmpty then some value else none

end SumCluster.Json
