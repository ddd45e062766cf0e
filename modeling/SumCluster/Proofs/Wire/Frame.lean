import SumCluster.Carrier.Basic
import SumCluster.Proofs.Message
import SumCluster.Proofs.Wire.Payload

/-!
# Frames are exact

A frame that is read has the form of a frame of the message it is read as (`Wire.Frames`), and every
frame of that form is read.  What is refused is refused with a fault of the codec.  Reading takes
nothing from beyond the end of a frame: with every access checked (`Message.inspect`) it is the same
function.
-/

namespace SumCluster

open Wire

namespace Wire

/-! ## The form of a frame -/

/-- A frame with a message inside: its kind, the size of what is carried, the message with some rest
behind it, and the checksum of all that. -/
structure Frames (frame : Bytes) (message : Message) (size : Nat) (rest : Bytes) : Prop where
  length : frame.length = frameOverhead + size
  kind : frame[0]? = some message.kind.code
  stated : wordOf ((frame.drop 1).take 4) = size
  checksum : frame.drop (5 + size) = writeWord 4 (Checksum.crc32 (frame.take (5 + size))).toNat
  payload : (frame.drop 5).take size = payload.write message ++ rest
  bare : message.IsBare

/-- Whether a frame ends with the checksum of what stands before it. -/
def Sealed (frame : Bytes) : Prop :=
  UInt32.ofNat (wordOf (frame.drop (frame.length - 4))) =
    Checksum.crc32 (frame.take (frame.length - 4))

instance (frame : Bytes) : Decidable (Sealed frame) :=
  inferInstanceAs (Decidable (_ = _))

theorem ofNat_wordOf_eq_iff {tail : Bytes} (length : tail.length = 4) {word : UInt32} :
    UInt32.ofNat (wordOf tail) = word ↔ tail = writeWord 4 word.toNat := by
  have small : wordOf tail < 2 ^ 32 := by
    have bound := wordOf_lt tail
    rw [length] at bound
    exact bound
  constructor
  · rintro rfl
    rw [UInt32.toNat_ofNat_of_lt' small, ← length, writeWord_wordOf]
  · intro same
    rw [same, wordOf_writeWord word.toNat_lt, UInt32.ofNat_toNat]

theorem length_sub_eq {frame : Bytes} {size : Nat}
    (length : frame.length = frameOverhead + size) : frame.length - 4 = 5 + size := by
  rw [length, frameOverhead]
  omega

theorem sealed_iff {frame : Bytes} {size : Nat} (length : frame.length = frameOverhead + size) :
    Sealed frame ↔
      frame.drop (5 + size) = writeWord 4 (Checksum.crc32 (frame.take (5 + size))).toNat := by
  unfold Sealed
  rw [length_sub_eq length]
  refine ofNat_wordOf_eq_iff ?_
  rw [List.length_drop, length, frameOverhead]
  omega

theorem sealed_withChecksum (bytes : Bytes) : Sealed (withChecksum bytes) := by
  have place : (withChecksum bytes).length - 4 = bytes.length := by simp [withChecksum]
  unfold Sealed
  rw [place, withChecksum, List.take_left, List.drop_left]
  exact (ofNat_wordOf_eq_iff (length_writeWord ..)).2 rfl

end Wire

/-! ## Reading -/

theorem MessageKind.ofCode_eq_ok_iff {byte : UInt8} {kind : MessageKind} :
    MessageKind.ofCode byte = .ok kind ↔ kind.code = byte := by
  constructor
  · intro found
    unfold MessageKind.ofCode MessageKind.ofCode? at found
    split at found
    · rename_i kind' same
      obtain rfl := Except.ok.inj found
      simpa using List.find?_some same
    · exact nomatch found
  · rintro rfl
    rw [MessageKind.ofCode, MessageKind.ofCode?_code]

namespace Message

variable {frame : Bytes} {message : Message}

/-- What is read of a frame whose checksum is right, from the part that it covers. -/
def unwrap (covered : Bytes) : Except FrameFault Message := do
  let kind ← MessageKind.ofCode (covered.headD 0)
  if wordOf ((covered.drop 1).take 4) ≠ (covered.drop 5).length then
    throw (.length (wordOf ((covered.drop 1).take 4)) (covered.drop 5).length)
  match payload.read (covered.drop 5) with
  | .error fault => throw (.payload fault)
  | .ok (message, _) =>
    if message.kind ≠ kind then throw (.kind kind message.kind)
    return message

theorem decode_of_short (short : frame.length < frameOverhead) :
    decode frame = .error .tooShort :=
  if_pos short

theorem decode_of_not_sealed (long : frameOverhead ≤ frame.length) (broken : ¬Sealed frame) :
    decode frame = .error (.checksum (UInt32.ofNat (wordOf (frame.drop (frame.length - 4))))
      (Checksum.crc32 (frame.take (frame.length - 4)))) := by
  unfold decode
  rw [if_neg (Nat.not_lt.2 long)]
  exact if_pos broken

theorem decode_of_sealed (long : frameOverhead ≤ frame.length) (closed : Sealed frame) :
    decode frame = unwrap (frame.take (frame.length - 4)) := by
  unfold decode
  rw [if_neg (Nat.not_lt.2 long)]
  exact if_neg (not_not_intro closed)

theorem unwrap_eq_ok_iff {covered : Bytes} :
    unwrap covered = .ok message ↔
      message.kind.code = covered.headD 0 ∧
      wordOf ((covered.drop 1).take 4) = (covered.drop 5).length ∧
      ∃ rest, payload.read (covered.drop 5) = .ok (message, rest) := by
  refine bind_eq_ok_iff.trans ⟨?_, ?_⟩
  · rintro ⟨kind, found, goesOn⟩
    by_cases stated : wordOf ((covered.drop 1).take 4) ≠ (covered.drop 5).length
    · rw [if_pos stated] at goesOn
      exact nomatch goesOn
    · rw [if_neg stated] at goesOn
      cases reads : payload.read (covered.drop 5) with
      | error fault =>
        rw [reads] at goesOn
        exact nomatch goesOn
      | ok carried =>
        obtain ⟨message', rest⟩ := carried
        simp only [reads] at goesOn
        by_cases same : message'.kind ≠ kind
        · rw [if_pos same] at goesOn
          exact nomatch goesOn
        · rw [if_neg same] at goesOn
          obtain rfl := Except.ok.inj goesOn
          rw [Decidable.not_not] at stated same
          exact ⟨same ▸ MessageKind.ofCode_eq_ok_iff.1 found, stated, rest, rfl⟩
  · rintro ⟨code, stated, rest, reads⟩
    refine ⟨message.kind, MessageKind.ofCode_eq_ok_iff.2 code, ?_⟩
    simp only
    rw [if_neg (not_not_intro stated), reads]
    exact if_neg (not_not_intro rfl)

theorem decode_eq_ok_iff :
    decode frame = .ok message ↔
      frameOverhead ≤ frame.length ∧ Sealed frame ∧
      unwrap (frame.take (frame.length - 4)) = .ok message := by
  by_cases long : frameOverhead ≤ frame.length
  · by_cases closed : Sealed frame
    · rw [decode_of_sealed long closed]
      exact ⟨fun reads => ⟨long, closed, reads⟩, fun ⟨_, _, reads⟩ => reads⟩
    · rw [decode_of_not_sealed long closed]
      exact ⟨nofun, fun ⟨_, closed', _⟩ => absurd closed' closed⟩
  · rw [decode_of_short (Nat.lt_of_not_le long)]
    exact ⟨nofun, fun ⟨long', _⟩ => absurd long' long⟩

section Places

variable {size : Nat} (length : frame.length = frameOverhead + size)

include length

theorem getElem?_zero_eq : frame[0]? = some ((frame.take (5 + size)).headD 0) := by
  obtain ⟨first, others, rfl⟩ := List.exists_cons_of_length_pos (l := frame) (by
    rw [length, frameOverhead]
    omega)
  rw [Nat.add_comm, List.take_succ_cons]
  rfl

omit length in
theorem take_drop_take_eq : ((frame.take (5 + size)).drop 1).take 4 = (frame.drop 1).take 4 := by
  rw [List.drop_take, List.take_take, Nat.min_eq_left (by omega)]

omit length in
theorem drop_take_eq : (frame.take (5 + size)).drop 5 = (frame.drop 5).take size := by
  rw [List.drop_take, Nat.add_sub_cancel_left]

theorem length_take_drop_eq : ((frame.drop 5).take size).length = size := by
  rw [List.length_take, List.length_drop, length, frameOverhead]
  omega

/-- What is covered, in the places of the frame. -/
theorem unwrap_take_eq_ok_iff :
    unwrap (frame.take (5 + size)) = .ok message ↔
      frame[0]? = some message.kind.code ∧ wordOf ((frame.drop 1).take 4) = size ∧
      ∃ rest, payload.read ((frame.drop 5).take size) = .ok (message, rest) := by
  rw [unwrap_eq_ok_iff, getElem?_zero_eq length, take_drop_take_eq, drop_take_eq,
    length_take_drop_eq length, Option.some_inj, eq_comm (a := message.kind.code)]

end Places

/-! ## What is read has the form of a frame -/

theorem decode_eq_ok_iff_exists_frames :
    decode frame = .ok message ↔ ∃ size rest, Frames frame message size rest := by
  constructor
  · intro reads
    obtain ⟨long, closed, unwraps⟩ := decode_eq_ok_iff.1 reads
    obtain ⟨size, length⟩ := Nat.exists_eq_add_of_le long
    rw [length_sub_eq length, unwrap_take_eq_ok_iff length] at unwraps
    obtain ⟨kind, stated, rest, reads⟩ := unwraps
    obtain ⟨arrives, carried⟩ := (exact_payload ..).1 reads
    exact ⟨size, rest, length, kind, stated, (sealed_iff length).1 closed, carried,
      arrives.isBare⟩
  · rintro ⟨size, rest, frames⟩
    have length := frames.length
    refine decode_eq_ok_iff.2 ⟨length ▸ Nat.le_add_right .., (sealed_iff length).2 frames.checksum, ?_⟩
    rw [length_sub_eq length, unwrap_take_eq_ok_iff length]
    refine ⟨frames.kind, frames.stated, rest, (exact_payload ..).2 ⟨?_, frames.payload⟩⟩
    -- a size is stated in four bytes, so no list in the payload has more entries than eight count
    have small : size < 256 ^ 4 := by
      rw [← frames.stated]
      exact Nat.lt_of_lt_of_le (wordOf_lt _)
        (Nat.pow_le_pow_right (by decide) (List.length_take_le ..))
    refine arrives_of_isBare frames.bare (Nat.lt_of_le_of_lt ?_ (Nat.lt_trans small (by decide)))
    have carried := congrArg List.length frames.payload
    rw [List.length_append] at carried
    exact Nat.le_trans (Nat.le_trans (Nat.le_add_right ..) (Nat.le_of_eq carried.symm))
      (List.length_take_le ..)

/-! ## What is written is read -/

/-- The frame of a message that is not too large. -/
theorem encode_eq_ok_iff :
    encode message = .ok frame ↔
      (payload.write message).length + frameOverhead ≤ frameLimit ∧
      frame = withChecksum (message.kind.code ::
        writeWord 4 (payload.write message).length ++ payload.write message) := by
  unfold encode
  simp only
  split
  · rename_i large
    exact ⟨nofun, fun ⟨fits, _⟩ => absurd fits (Nat.not_le.2 large)⟩
  · rename_i fits
    rw [Except.ok.injEq]
    exact ⟨fun same => ⟨Nat.le_of_not_lt fits, same.symm⟩, fun ⟨_, same⟩ => same.symm⟩

theorem sealed_of_encode (encodes : encode message = .ok frame) :
    frameOverhead ≤ frame.length ∧ Sealed frame := by
  obtain ⟨-, rfl⟩ := encode_eq_ok_iff.1 encodes
  refine ⟨?_, sealed_withChecksum _⟩
  simp [withChecksum, frameOverhead]
  omega

theorem frames_of_encode (encodes : encode message = .ok frame) :
    Frames frame message.bare (payload.write message).length [] := by
  obtain ⟨long, closed⟩ := sealed_of_encode encodes
  obtain ⟨fits, rfl⟩ := encode_eq_ok_iff.1 encodes
  have length : (withChecksum (message.kind.code :: writeWord 4 (payload.write message).length ++
      payload.write message)).length = frameOverhead + (payload.write message).length := by
    simp [withChecksum, frameOverhead]
    omega
  refine ⟨length, ?_, ?_, (sealed_iff length).1 closed, ?_, bare_bare message⟩
  · rw [kind_bare]
    rfl
  · have small : (payload.write message).length < 256 ^ 4 := by
      rw [frameOverhead, frameLimit] at fits
      omega
    simp [withChecksum, wordOf_writeWord small]
  · simp [withChecksum, write_payload_bare]

end Message

/-! ## Nothing is taken from beyond the end -/

namespace Wire

/-- The bytes from one place up to another, if both places lie in order within. -/
def slice? (bytes : Bytes) (start stop : Nat) : Option Bytes :=
  if start ≤ stop ∧ stop ≤ bytes.length then some ((bytes.take stop).drop start) else none

theorem slice?_eq_some {bytes : Bytes} {start stop : Nat} (ordered : start ≤ stop)
    (inside : stop ≤ bytes.length) :
    slice? bytes start stop = some ((bytes.take stop).drop start) :=
  if_pos ⟨ordered, inside⟩

/-- The word in the first four bytes, if there are so many. -/
def word32? (bytes : Bytes) : Option Nat :=
  (slice? bytes 0 4).map wordOf

theorem word32?_eq_some {bytes : Bytes} (long : 4 ≤ bytes.length) :
    word32? bytes = some (wordOf (bytes.take 4)) := by
  rw [word32?, slice?_eq_some (Nat.zero_le _) long]
  rfl

end Wire

namespace Message

/-- Reads a frame with every access to it checked: nothing at all if one lies outside. The size of
what is carried is compared before it is used. -/
def inspect (frame : Bytes) : Option (Except FrameFault Message) := do
  if frame.length < frameOverhead then return .error .tooShort
  let stored ← word32? (← slice? frame (frame.length - 4) frame.length)
  let covered ← slice? frame 0 (frame.length - 4)
  let computed := Checksum.crc32 covered
  if UInt32.ofNat stored ≠ computed then
    return .error (.checksum (UInt32.ofNat stored) computed)
  match MessageKind.ofCode (← frame[0]?) with
  | .error fault => return .error fault
  | .ok kind =>
    let stated ← word32? (← slice? frame 1 5)
    if frame.length ≠ frameOverhead + stated then
      return .error (.length stated (frame.length - frameOverhead))
    match payload.read (← slice? frame 5 (5 + stated)) with
    | .error fault => return .error (.payload fault)
    | .ok (message, _) =>
      if message.kind ≠ kind then return .error (.kind kind message.kind)
      return .ok message

section Fields

variable {frame : Bytes} {size : Nat} (length : frame.length = frameOverhead + size)

include length

theorem slice?_tail : slice? frame (5 + size) frame.length = some (frame.drop (5 + size)) := by
  rw [slice?_eq_some (by rw [length, frameOverhead]; omega) (Nat.le_refl _), List.take_length]

theorem word32?_tail :
    word32? (frame.drop (5 + size)) = some (wordOf (frame.drop (5 + size))) := by
  have four : (frame.drop (5 + size)).length = 4 := by
    rw [List.length_drop, length, frameOverhead]
    omega
  rw [word32?_eq_some (Nat.le_of_eq four.symm), List.take_of_length_le (Nat.le_of_eq four)]

theorem slice?_covered : slice? frame 0 (5 + size) = some (frame.take (5 + size)) :=
  slice?_eq_some (Nat.zero_le _) (by rw [length, frameOverhead]; omega)

theorem slice?_header : slice? frame 1 5 = some ((frame.drop 1).take 4) := by
  rw [slice?_eq_some (by decide) (by rw [length, frameOverhead]; omega), List.drop_take]

theorem word32?_header :
    word32? ((frame.drop 1).take 4) = some (wordOf ((frame.drop 1).take 4)) := by
  rw [word32?_eq_some (by simp [length, frameOverhead]; omega), List.take_take, Nat.min_self]

end Fields

/-- No access lies outside, and the checks do not change what is read. -/
theorem inspect_eq (frame : Bytes) : inspect frame = some (decode frame) := by
  by_cases short : frame.length < frameOverhead
  · rw [decode_of_short short]
    exact if_pos short
  have long := Nat.le_of_not_lt short
  obtain ⟨size, length⟩ := Nat.exists_eq_add_of_le long
  unfold inspect
  rw [if_neg short, length_sub_eq length]
  simp only [slice?_tail length, word32?_tail length, slice?_covered length, slice?_header length,
    word32?_header length, Option.bind_eq_bind, Option.bind_some]
  by_cases closed : Sealed frame
  · rw [decode_of_sealed long closed, length_sub_eq length]
    rw [Sealed, length_sub_eq length] at closed
    rw [if_neg (not_not_intro closed), getElem?_zero_eq length, Option.bind_some, unwrap,
      take_drop_take_eq, drop_take_eq, length_take_drop_eq length]
    cases MessageKind.ofCode ((frame.take (5 + size)).headD 0) with
    | error fault => rfl
    | ok kind =>
      simp only [length, bind, Except.bind]
      by_cases same : wordOf ((frame.drop 1).take 4) = size
      · have carried : slice? frame 5 (5 + size) = some ((frame.drop 5).take size) := by
          rw [slice?_eq_some (by omega) (by rw [length, frameOverhead]; omega), drop_take_eq]
        rw [same, if_neg (not_not_intro rfl), if_neg (not_not_intro rfl), carried,
          Option.bind_some]
        cases payload.read ((frame.drop 5).take size) with
        | error fault => rfl
        | ok content =>
          simp only
          split <;> rfl
      · rw [if_pos (by omega), if_pos same, Nat.add_sub_cancel_left]
        rfl
  · rw [decode_of_not_sealed long closed, length_sub_eq length]
    rw [Sealed, length_sub_eq length] at closed
    exact if_pos closed

/-! ## Frames as a whole -/

/-- Reading accepts exactly the frames, refuses every other sequence of bytes with a fault of the
codec, takes nothing from beyond the end, and gives back what was written, up to scopes and flow
labels. -/
theorem decode_exact :
    (∀ frame message, decode frame = .ok message ↔ ∃ size rest, Frames frame message size rest) ∧
    (∀ frame, (¬∃ message size rest, Frames frame message size rest) →
      ∃ fault, decode frame = .error fault ∧
        ∀ source, Arrival.ofFrame frame source = .error (.codec fault.message)) ∧
    (∀ frame, inspect frame = some (decode frame)) ∧
    ∀ message frame, encode message = .ok frame → decode frame = .ok message.bare := by
  refine ⟨fun _ _ => decode_eq_ok_iff_exists_frames, fun frame none => ?_, inspect_eq,
    fun _ _ encodes => decode_eq_ok_iff_exists_frames.2 ⟨_, _, frames_of_encode encodes⟩⟩
  cases reads : decode frame with
  | ok message => exact absurd ⟨message, decode_eq_ok_iff_exists_frames.1 reads⟩ none
  | error fault => exact ⟨fault, rfl, fun source => by rw [Arrival.ofFrame, reads]⟩

/-- A listed address arrives without its scope and flow label. -/
theorem decode_exact_scoped :
    let table (flow scope : UInt32) : Message :=
      .replicaList 1 (some 3) [⟨2, .v6 ⟨0xFE80, 0, 0, 0, 0, 0, 0, 1⟩ 7000 flow scope, true, 250⟩]
    ∃ frame, encode (table 5 4) = .ok frame ∧ decode frame = .ok (table 0 0) := by
  intro table
  refine ⟨_, rfl, ?_⟩
  exact decode_exact.2.2.2 (table 5 4) _ rfl

end Message

end SumCluster
