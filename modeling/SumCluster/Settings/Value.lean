import SumCluster.Address.Parser

/-!
# Settings

A configuration is written down as a tree of named values, in one of two formats. This module holds
the tree, which both formats share, and the reading of single values from it. Whether a value is
there and fits is all that is asked; a value that does not fit gives `none`.
-/

namespace SumCluster

/-- A node of a tree of settings. -/
inductive Setting
  | null
  | truth (value : Bool)
  | integer (value : Int)
  | real (value : Float)
  | text (value : String)
  /-- A date or a time of day, of which no setting makes use. -/
  | moment
  | list (items : List Setting)
  | table (fields : List (String × Setting))
  deriving Repr, Inhabited

/-- The format that a tree was written in. The formats differ in two rules. -/
inductive SettingFormat
  | json
  | toml
  deriving DecidableEq, Repr

namespace Setting

/-- A whole number of at most `bound`. -/
def nat? (bound : Nat) : Setting → Option Nat
  | integer n => if 0 ≤ n ∧ n ≤ bound then some n.toNat else none
  | _ => none

/-- A number of 32 bits. -/
def word32? : Setting → Option Nat :=
  nat? 4294967295

/-- A number of 64 bits. -/
def word64? : Setting → Option Nat :=
  nat? 18446744073709551615

/-- The double nearest to an integer. -/
def realOfInt (n : Int) : Float :=
  if n < 0 then -Float.ofScientific n.natAbs false 0 else Float.ofScientific n.natAbs false 0

/-- A real number; whole numbers count. -/
def real? : Setting → Option Float
  | real x => some x
  | integer n => some (realOfInt n)
  | _ => none

/-- A text. -/
def text? : Setting → Option String
  | text s => some s
  | _ => none

/-- A socket address. -/
def address? (setting : Setting) : Option Address :=
  setting.text?.bind fun s => Address.parse? s.toList

/-- A list, each of whose items is read. -/
def list? {α : Type} (item? : Setting → Option α) : Setting → Option (List α)
  | list items => items.mapM item?
  | _ => none

/-- Whether a value says nothing: the way to name a choice as the only key of a table. -/
def isUnit : SettingFormat → Setting → Bool
  | .json, null => true
  | .toml, list items => items.isEmpty
  | .toml, table fields => fields.isEmpty
  | _, _ => false

/-- One of several named choices, as a text or as the only key of a table. -/
def choice? {α : Type} (format : SettingFormat) (choices : List (String × α)) :
    Setting → Option α
  | text s => choices.lookup s
  | table [(key, value)] => if isUnit format value then choices.lookup key else none
  | _ => none

/-- The named values of a record. A record may also be written as the list of its values in order;
the last ones may be missing, and surplus ones are ignored in one format only. A moment counts as a
record without any of the names. -/
def record? (format : SettingFormat) (names : List String) :
    Setting → Option (List (String × Setting))
  | table fields => some fields
  | list items =>
    if items.length ≤ names.length ∨ format = .toml then some (names.zip items) else none
  | moment => some []
  | _ => none

/-- A field that has to be there. -/
def field? {α : Type} (fields : List (String × Setting)) (name : String)
    (read? : Setting → Option α) : Option α :=
  (fields.lookup name).bind read?

/-- A field that has a default. -/
def fieldD {α : Type} (fields : List (String × Setting)) (name : String)
    (read? : Setting → Option α) (default : α) : Option α :=
  match fields.lookup name with
  | none => some default
  | some value => read? value

/-- A value that may be null. -/
def optional? {α : Type} (read? : Setting → Option α) : Setting → Option (Option α)
  | null => some none
  | value => (read? value).map some

/-- Replaces and adds fields. -/
def override (fields changes : List (String × Setting)) : List (String × Setting) :=
  fields.filter (fun (name, _) => (changes.lookup name).isNone) ++ changes

end Setting

end SumCluster
