/-!
# Checksum

CRC-32 with the reflected polynomial `0xEDB88320`, all ones before the first bit and inverted at
the end.
-/

namespace SumCluster.Checksum

/-- The reflected generator polynomial. -/
def polynomial : UInt32 := 0xEDB88320

/-- One step of the division: the lowest bit leaves the remainder. -/
def shift (remainder : UInt32) : UInt32 :=
  if remainder &&& 1 = 1 then (remainder >>> 1) ^^^ polynomial else remainder >>> 1

/-- Takes one byte into the remainder. -/
def feed (remainder : UInt32) (byte : UInt8) : UInt32 :=
  Nat.repeat shift 8 (remainder ^^^ byte.toUInt32)

/-- The checksum of a list of bytes. -/
def crc32 (bytes : List UInt8) : UInt32 :=
  ~~~bytes.foldl feed 0xFFFFFFFF

-- The check value of the checksum: its result on the digits from one to nine.
example : crc32 [49, 50, 51, 52, 53, 54, 55, 56, 57] = 0xCBF43926 := by
  decide +kernel

end SumCluster.Checksum
