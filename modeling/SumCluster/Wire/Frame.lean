import SumCluster.Checksum
import SumCluster.Wire.Payload

/-!
# Frames

One message travels in one frame: a byte for its kind, the length of the payload in four bytes, the
payload, and the checksum of all before it in four bytes. A frame has at most 65536 bytes. Bytes
after a complete payload are ignored, as long as length and checksum cover them.
-/

namespace SumCluster

namespace Wire

/-- The largest frame that is sent. -/
def frameLimit : Nat := 65536

/-- The bytes of a frame beside its payload. -/
def frameOverhead : Nat := 9

/-- Why a frame cannot be made or read. -/
inductive FrameFault
  | tooLarge (size : Nat)
  | tooShort
  | checksum (stored computed : UInt32)
  | unknownKind (code : UInt8)
  | length (stated carried : Nat)
  | payload (fault : Fault)
  | kind (stated found : MessageKind)
  deriving DecidableEq, Repr

/-- A checksum in lower-case hexadecimal, without leading zeros. -/
def hexadecimal (word : UInt32) : String :=
  String.ofList (Nat.toDigits 16 word.toNat)

/-- The wording of a fault. -/
def FrameFault.message : FrameFault → String
  | tooLarge size => s!"Message too large: {size} bytes"
  | tooShort => "Message too short"
  | checksum stored computed =>
    "CRC mismatch: expected " ++ hexadecimal stored ++ ", got " ++ hexadecimal computed
  | unknownKind code => s!"Unknown message type: {code.toNat}"
  | length stated carried =>
    s!"Length mismatch: header says {stated}, frame carries {carried}"
  | .payload fault => "Deserialization failed: " ++ fault.message
  | kind stated found => s!"Type mismatch: header {stated.name}, payload {found.name}"

/-- Puts the checksum after a sequence of bytes. -/
def withChecksum (bytes : Bytes) : Bytes :=
  bytes ++ writeWord 4 (Checksum.crc32 bytes).toNat

end Wire

open Wire

namespace MessageKind

/-- The kind that opens a frame with the given byte. -/
def ofCode (byte : UInt8) : Except FrameFault MessageKind :=
  match ofCode? byte with
  | some kind => .ok kind
  | none => .error (.unknownKind byte)

end MessageKind

namespace Message

/-- The frame of a message. -/
def encode (message : Message) : Except FrameFault Bytes :=
  let body := payload.write message
  let size := body.length + frameOverhead
  if frameLimit < size then .error (.tooLarge size)
  else .ok (withChecksum (message.kind.code :: writeWord 4 body.length ++ body))

/-- The message in a frame. The checksum is looked at first, then the kind, the length, the payload
and last whether the payload is of that kind. -/
def decode (frame : Bytes) : Except FrameFault Message := do
  if frame.length < frameOverhead then throw .tooShort
  let covered := frame.take (frame.length - 4)
  let stored := UInt32.ofNat (wordOf (frame.drop (frame.length - 4)))
  let computed := Checksum.crc32 covered
  if stored ≠ computed then throw (.checksum stored computed)
  let kind ← MessageKind.ofCode (covered.headD 0)
  let stated := wordOf ((covered.drop 1).take 4)
  let body := covered.drop 5
  if stated ≠ body.length then throw (.length stated body.length)
  match payload.read body with
  | .error fault => throw (.payload fault)
  | .ok (message, _) =>
    if message.kind ≠ kind then throw (.kind kind message.kind)
    return message

end Message

end SumCluster
