import SumCluster.Text.Numeral

/-!
# Bytes as text

Bytes are written as pairs of lower-case hexadecimal digits without separators; both cases are read.
-/

namespace SumCluster.Hex

/-- The digit of a number below sixteen. -/
def digit (n : Nat) : Char :=
  (Nat.toDigits 16 n).headD '0'

/-- The two digits of a byte, the higher one first. -/
def digits (byte : UInt8) : Char × Char :=
  (digit (byte.toNat / 16), digit (byte.toNat % 16))

/-- The text of some bytes. -/
def render (bytes : List UInt8) : String :=
  bytes.foldl (fun acc byte => (acc.push (digits byte).1).push (digits byte).2) ""

/-- The bytes of a text. -/
def read? : List Char → Option (List UInt8)
  | [] => some []
  | [_] => none
  | high :: low :: rest => do
    let high ← Numeral.digit? 16 high
    let low ← Numeral.digit? 16 low
    return UInt8.ofNat (high * 16 + low) :: (← read? rest)

end SumCluster.Hex
