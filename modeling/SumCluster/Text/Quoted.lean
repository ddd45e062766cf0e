import SumCluster.Text.Printable

/-!
# Quoted text

How a configured value is shown inside an error message: between double quotes, with a backslash
before quotes and backslashes, short escapes for four controls and `\u` with the code point in
lower-case hexadecimal for every other character that is not printable.
-/

namespace SumCluster.Text

/-- The form of one character inside quotes. -/
def quoteChar (c : Char) : List Char :=
  if c = '"' then ['\\', '"']
  else if c = '\\' then ['\\', '\\']
  else if c = '\n' then ['\\', 'n']
  else if c = '\r' then ['\\', 'r']
  else if c = '\t' then ['\\', 't']
  else if c = '\x00' then ['\\', '0']
  else if isPrintable c then [c]
  else ['\\', 'u', '\x7b'] ++ Nat.toDigits 16 c.toNat ++ ['\x7d']

/-- A text between double quotes. -/
def quote (cs : List Char) : String :=
  String.ofList ('"' :: cs.flatMap quoteChar ++ ['"'])

end SumCluster.Text
