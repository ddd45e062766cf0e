import SumCluster.Toml.Scalar

/-!
# TOML values and tables

Keys, values and the tables that they build. A table remembers how it came about, since that decides
whether more may be added to it: by a header, as a step of a longer header, or as a step of a dotted
key. A value, an inline table included, is complete where it stands.
-/

namespace SumCluster.Toml

/-- How a table came about. -/
inductive Origin
  /-- By a header of its own. -/
  | header
  /-- As a step of a longer header. -/
  | step
  /-- As a step of a dotted key. -/
  | dotted
  deriving DecidableEq, Repr

/-- What a key stands for. -/
inductive Item
  | value (value : Setting)
  | table (origin : Origin) (fields : List (String × Item))
  /-- The tables of a repeated header, in order. -/
  | tables (members : List (List (String × Item)))
  deriving Inhabited

/-- Tables by key. -/
abbrev Fields : Type :=
  List (String × Item)

namespace Fields

/-- Sets what a key stands for. -/
def set (key : String) (item : Item) : Fields → Fields
  | [] => [(key, item)]
  | (k, old) :: rest => if k = key then (key, item) :: rest else (k, old) :: set key item rest

end Fields

/-- Changes the last member of a list, if there is one. -/
def changeLast? {α : Type} (change : α → Option α) : List α → Option (List α)
  | [] => none
  | [a] => (change a).map ([·])
  | a :: rest => (changeLast? change rest).map (a :: ·)

/-- Changes the table at the end of the path of a header. Steps that do not exist are made; a step
into a repeated header leads to its last table. -/
def changeAt? (change : Fields → Option Fields) : List String → Fields → Option Fields
  | [], fields => change fields
  | key :: path, fields =>
    match fields.lookup key with
    | none => do
      let inner ← changeAt? change path []
      return Fields.set key (.table .step inner) fields
    | some (.value _) => none
    | some (.table origin inner) => do
      let inner ← changeAt? change path inner
      return Fields.set key (.table origin inner) fields
    | some (.tables members) => do
      let members ← changeLast? (changeAt? change path) members
      return Fields.set key (.tables members) fields

/-- Adds a value under a key that is not taken. -/
def addValue? (key : String) (value : Setting) (fields : Fields) : Option Fields :=
  if (fields.lookup key).isSome then none else some (fields ++ [(key, .value value)])

/-- Adds a value under a dotted key. The last table on the way has to be one of dotted keys; one
with a header of its own is closed to them. -/
def addDotted? (key : String) (value : Setting) : List String → Fields → Option Fields
  | [], fields => addValue? key value fields
  | step :: path, fields =>
    match fields.lookup step with
    | none => do
      let inner ← addDotted? key value path []
      return Fields.set step (.table .dotted inner) fields
    | some (.table .dotted inner) => do
      let inner ← addDotted? key value path inner
      return Fields.set step (.table .dotted inner) fields
    | some (.table .step inner) =>
      if path.isEmpty then none
      else do
        let inner ← addDotted? key value path inner
        return Fields.set step (.table .step inner) fields
    | some (.tables members) =>
      if path.isEmpty then none
      else do
        let members ← changeLast? (addDotted? key value path) members
        return Fields.set step (.tables members) fields
    | some _ => none

mutual

/-- An item as a setting. -/
def Item.toSetting : Item → Setting
  | .value value => value
  | .table _ fields => .table (settingsOf fields)
  | .tables members => .list (tablesOf members)

/-- Fields as settings. -/
def settingsOf : List (String × Item) → List (String × Setting)
  | [] => []
  | (key, item) :: rest => (key, item.toSetting) :: settingsOf rest

/-- The tables of a repeated header as settings. -/
def tablesOf : List (List (String × Item)) → List Setting
  | [] => []
  | fields :: rest => .table (settingsOf fields) :: tablesOf rest

end

/-! ## Keys -/

/-- A character of a key without quotes. -/
def isBareChar (c : Char) : Bool :=
  c.isAlphanum || c == '_' || c == '-'

/-- Reads one part of a key. -/
def scanKeyPart : Scan String := fun cs =>
  match cs with
  | '"' :: _ | '\'' :: _ => (scanLineString cs).map fun (key, rest) => (String.ofList key, rest)
  | _ =>
    let key := cs.takeWhile isBareChar
    if key.isEmpty then none else some (String.ofList key, cs.drop key.length)

/-- Reads the parts of a dotted key; at most `limit` of them. -/
def scanKeyParts : Nat → Scan (List String)
  | 0, _ => none
  | limit + 1, cs => do
    let (part, rest) ← scanKeyPart (skipSpaces cs)
    match skipSpaces rest with
    | '.' :: more =>
      let (parts, rest) ← scanKeyParts limit more
      return (part :: parts, rest)
    | rest => return ([part], rest)

/-- Nesting of values and of keys is limited. -/
def depthLimit : Nat := 79

/-- Reads a dotted key: the steps on the way, and the last part. -/
def scanKey : Scan (List String × String) := fun cs => do
  let (parts, rest) ← scanKeyParts depthLimit cs
  let last ← parts.getLast?
  return ((parts.dropLast, last), rest)

/-! ## Values -/

/-- The text after a comment. A comment holds no controls. -/
def skipComment (cs : List Char) : Option (List Char) :=
  match cs with
  | '#' :: rest =>
    match rest.dropWhile isInline with
    | [] => some []
    | '\n' :: more => some ('\n' :: more)
    | _ => none
  | _ => some cs

/-- The text after blanks, line ends and comments; `fuel` bounds the number of lines. -/
def skipLines : Nat → List Char → Option (List Char)
  | 0, cs => some cs
  | fuel + 1, cs => do
    match ← skipComment (skipSpaces cs) with
    | '\n' :: rest => skipLines fuel rest
    | rest => return rest

mutual

/-- Reads a value that may hold others `depth` levels deep; `fuel` bounds the number of steps. -/
def scanValue : Nat → Nat → Scan Setting
  | 0, _, _ => none
  | fuel + 1, depth, cs =>
    match cs with
    | '"' :: _ | '\'' :: _ =>
      (scanString cs).map fun (text, rest) => (.text (String.ofList text), rest)
    | '[' :: rest =>
      match depth with
      | 0 => none
      | depth + 1 =>
        (scanItems fuel depth rest).map fun (items, rest) => (.list items, rest)
    | '\x7b' :: rest =>
      match depth with
      | 0 => none
      | depth + 1 => do
        match skipSpaces rest with
        | '\x7d' :: rest => return (.table [], rest)
        | rest =>
          let (fields, rest) ← scanFields fuel depth [] rest
          return (.table (settingsOf fields), rest)
    | _ => scanWord cs

/-- Reads the rest of a list. -/
def scanItems : Nat → Nat → Scan (List Setting)
  | 0, _, _ => none
  | fuel + 1, depth, cs => do
    let cs ← skipLines cs.length cs
    match cs with
    | ']' :: rest => return ([], rest)
    | cs =>
      let (item, rest) ← scanValue fuel depth cs
      let rest ← skipLines rest.length rest
      match rest with
      | ',' :: rest =>
        let (items, rest) ← scanItems fuel depth rest
        return (item :: items, rest)
      | ']' :: rest => return ([item], rest)
      | _ => none

/-- Reads the rest of an inline table onto the fields read so far. -/
def scanFields : Nat → Nat → Fields → Scan Fields
  | 0, _, _, _ => none
  | fuel + 1, depth, fields, cs => do
    let ((path, key), rest) ← scanKey cs
    let rest ← skip '=' rest
    let (value, rest) ← scanValue fuel depth (skipSpaces rest)
    let fields ← addDotted? key value path fields
    match skipSpaces rest with
    | ',' :: rest => scanFields fuel depth fields rest
    | '\x7d' :: rest => return (fields, rest)
    | _ => none

end

end SumCluster.Toml
