import SumCluster.Toml.Value

/-!
# TOML documents

A document is a sequence of lines: keys with values, headers that say which table the following keys
belong to, blank lines and comments. It denotes one table.
-/

namespace SumCluster.Toml

/-- Which table the keys of a section belong to. -/
inductive Header
  /-- The table of the whole document. -/
  | document
  /-- The table with this path, which has no header yet. -/
  | table (path : List String) (key : String)
  /-- One more table of the list with this path. -/
  | member (path : List String) (key : String)

/-- A header and the keys below it. -/
structure Section where
  header : Header
  fields : Fields

namespace Section

/-- Puts the fields of a section in their place in the table of the document. -/
def addTo? (part : Section) (document : Fields) : Option Fields :=
  match part.header with
  | .document => some part.fields
  | .table path key =>
    changeAt? (fun fields => some (Fields.set key (.table .header part.fields) fields)) path
      document
  | .member path key =>
    changeAt?
      (fun fields =>
        match fields.lookup key with
        | none => some (Fields.set key (.tables [part.fields]) fields)
        | some (.tables members) =>
          some (Fields.set key (.tables (members ++ [part.fields])) fields)
        | some _ => none)
      path document

end Section

/-- The table at the end of the path of a header; none if the path leads nowhere yet. -/
def tableAt? : List String → Fields → Option Fields
  | [], fields => some fields
  | key :: path, fields =>
    match fields.lookup key with
    | some (.table _ inner) => tableAt? path inner
    | some (.tables members) => members.getLast?.bind (tableAt? path)
    | _ => none

/-- Opens the section of a header. A table may be opened once, also if a longer header came first;
tables of dotted keys are closed to headers. -/
def openSection? (header : Header) (document : Fields) : Option Section :=
  match header with
  | .document => some ⟨.document, document⟩
  | .member _ _ => some ⟨header, []⟩
  | .table path key =>
    match (tableAt? path document).bind (·.lookup key) with
    | none => some ⟨header, []⟩
    | some (.table .step fields) => some ⟨header, fields⟩
    | some _ => none

/-- Reads the end of a line: blanks, maybe a comment, and a line end or the end of the text. -/
def skipLineEnd (cs : List Char) : Option (List Char) :=
  match skipComment (skipSpaces cs) with
  | some [] => some []
  | some ('\n' :: rest) => some rest
  | _ => none

/-- Reads a header after its opening bracket. -/
def scanHeader : Scan Header := fun cs => do
  match cs with
  | '[' :: rest =>
    let ((path, key), rest) ← scanKey rest
    let rest ← skip ']' rest
    let rest ← skip ']' rest
    return (.member path key, rest)
  | _ =>
    let ((path, key), rest) ← scanKey cs
    let rest ← skip ']' rest
    return (.table path key, rest)

/-- Reads the rest of a document, given the section it stands in and the table built before that
section; `fuel` bounds the number of lines. -/
def scanSections : Nat → Section → Fields → List Char → Option Fields
  | 0, _, _, _ => none
  | fuel + 1, part, document, cs => do
    match skipSpaces cs with
    | [] => part.addTo? document
    | '[' :: rest =>
      let document ← part.addTo? document
      let (header, rest) ← scanHeader rest
      let part ← openSection? header document
      let rest ← skipLineEnd rest
      scanSections fuel part document rest
    | '\n' :: rest => scanSections fuel part document rest
    | '#' :: rest =>
      let rest ← skipLineEnd ('#' :: rest)
      scanSections fuel part document rest
    | cs =>
      let ((path, key), rest) ← scanKey cs
      let rest ← skip '=' rest
      let rest := skipSpaces rest
      let (value, rest) ← scanValue (2 * rest.length + 2) depthLimit rest
      let fields ← addDotted? key value path part.fields
      let rest ← skipLineEnd rest
      scanSections fuel { part with fields } document rest

/-- A text with single line feeds for its line ends. -/
def unifyLineEnds : List Char → List Char
  | '\r' :: '\n' :: rest => '\n' :: unifyLineEnds rest
  | c :: rest => c :: unifyLineEnds rest
  | [] => []

/-- A text without the mark that may open it. -/
def dropMark : List Char → List Char
  | '\uFEFF' :: rest => rest
  | cs => cs

/-- The table that a document denotes, if it is well-formed. -/
def parse? (text : String) : Option Setting := do
  let cs := unifyLineEnds (dropMark text.toList)
  let fields ← scanSections (cs.length + 1) ⟨.document, []⟩ [] cs
  return .table (settingsOf fields)

end SumCluster.Toml
