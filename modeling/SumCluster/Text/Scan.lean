/-!
# Scanning

Reading a text from its front: a step takes a value off and leaves the rest.
-/

namespace SumCluster

/-- A step of reading: the value and the text after it, or nothing. -/
abbrev Scan (α : Type) : Type :=
  List Char → Option (α × List Char)

/-- The text after an expected first character. -/
def skip (c : Char) : List Char → Option (List Char)
  | [] => none
  | d :: rest => if d = c then some rest else none

end SumCluster
