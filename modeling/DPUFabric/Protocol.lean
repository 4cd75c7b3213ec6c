import DPUFabric.WireGrammar

/-!
# Frames

A frame is a header of 16 bytes, with the length and the CRC-32 of the payload,
and the payload.  `decode` takes the bytes of exactly one frame: it accepts what
`encode` writes and nothing else.  It does not look at the type.
-/

namespace DPUFabric.Proto

open Exceptions
open Grammar
open Codec
open DPUFabric.Wire
open DPUFabric.Persistence

def kMagic : UInt32 := 0x44504657

def kVersion : UInt16 := 1

/-- magic(4) version(2) type(2) payload_len(4) crc(4). -/
def kHeaderSize : Nat := 16

/-- 4 MiB. -/
def kMaxPayload : Nat := 4 * 1024 * 1024

def kMaxFrameSize : Nat := kHeaderSize + kMaxPayload

/-! ## Message types -/

inductive MsgType where
  | hello | ping | pong | registerDevice | publishEvidence | command | result
  | errorMsg | ack | notify | bye | unknownType | endMarker
deriving DecidableEq, Repr

namespace MsgType

def code : MsgType → UInt16
  | hello => 1
  | ping => 2
  | pong => 3
  | registerDevice => 4
  | publishEvidence => 5
  | command => 6
  | result => 7
  | errorMsg => 8
  | ack => 9
  | notify => 10
  | bye => 11
  | unknownType => 999
  | endMarker => 1000

def all : List MsgType :=
  [hello, ping, pong, registerDevice, publishEvidence, command, result, errorMsg, ack,
    notify, bye, unknownType, endMarker]

def ofCode? (code : UInt16) : Option MsgType :=
  all.find? fun type => type.code == code

theorem code_of_ofCode? {code : UInt16} {type : MsgType} (found : ofCode? code = some type) :
    type.code = code := by
  simpa using List.find?_some found

theorem ofCode?_code (type : MsgType) : ofCode? type.code = some type := by
  cases type <;> rfl

end MsgType

/-- The content of a type field: any 16 bits, cast without a check. -/
inductive FrameType where
  | declared (type : MsgType)
  | undeclared (code : UInt16) (outside : MsgType.ofCode? code = none)
deriving DecidableEq

namespace FrameType

/-- `static_cast<MsgType>(code)`. -/
def ofCode (code : UInt16) : FrameType :=
  match found : MsgType.ofCode? code with
  | some type => declared type
  | none => undeclared code found

def code : FrameType → UInt16
  | declared type => type.code
  | undeclared code _ => code

@[simp]
theorem code_ofCode (code : UInt16) : (ofCode code).code = code := by
  unfold ofCode
  split
  · rename_i type found
    exact MsgType.code_of_ofCode? found
  · rfl

@[simp]
theorem ofCode_code (type : FrameType) : ofCode type.code = type := by
  unfold ofCode
  cases type with
  | declared type =>
      split
      · rename_i other found
        rw [code, MsgType.ofCode?_code] at found
        cases found
        rfl
      · rename_i missing
        rw [code, MsgType.ofCode?_code] at missing
        cases missing
  | undeclared code outside =>
      split
      · rename_i other found
        exact absurd (outside.symm.trans found) (by simp)
      · rfl

end FrameType

/-! ## Encoding and decoding -/

structure Frame where
  type : FrameType
  payload : List UInt8
  checksum : UInt32
deriving DecidableEq

/-- The fields of a frame, in order. -/
def writeFrame (type : FrameType) (payload : List UInt8) : WriterM Unit := do
  Writer.u32 kMagic
  Writer.u16 kVersion
  Writer.u16 type.code
  Writer.u32 (UInt32.ofNat payload.length)
  Writer.u32 (crc32 payload)
  Writer.raw payload

def encode (type : FrameType) (payload : List UInt8) : Except Fault (List UInt8) :=
  if payload.length > kMaxPayload then
    .error (.error .frameTooLarge "payload exceeds frame bound")
  else
    match writeFrame type payload [] with
    | .ok _ bytes => .ok bytes
    | .error fault _ => .error fault

/-- `if (condition) throw_error(...)`. -/
def throwIf (condition : Prop) [Decidable condition] (fault : Fault) : ReaderM Unit :=
  fun ahead => if condition then .error fault ahead else .ok () ahead

def readFrame : ReaderM Frame := do
  let magic ← u32
  throwIf (magic ≠ kMagic) (.error .protocolError "bad frame magic")
  let ver ← u16
  throwIf (ver ≠ kVersion) (.error .protocolError "unsupported frame version")
  let rawType ← u16
  let plen ← u32
  throwIf (plen.toNat > kMaxPayload) (.error .frameTooLarge "payload length exceeds bound")
  let ahead ← get
  -- `r.remaining() - 4u` in 64 unsigned bits.
  throwIf (plen.toNat > (ahead.length + (2 ^ 64 - 4)) % 2 ^ 64)
    (.error .protocolError "truncated payload")
  let declaredCrc ← u32
  let payload ← take plen.toNat
  throwIf (payload.length ≠ plen.toNat) (.error .protocolError "payload length mismatch")
  throwIf (crc32 payload ≠ declaredCrc) (.error .checksumFailure "frame checksum mismatch")
  expectEnd
  return { type := .ofCode rawType, payload, checksum := declaredCrc }

def decode (buf : List UInt8) : Except Fault Frame :=
  if buf.length < kHeaderSize then
    .error (.error .protocolError "frame shorter than header")
  else if buf.length > kMaxFrameSize then
    .error (.error .frameTooLarge "frame exceeds bound")
  else
    match readFrame buf with
    | .ok frame _ => .ok frame
    | .error fault _ => .error fault

/-! ## The bytes of a frame -/

def header (type : FrameType) (payload : List UInt8) : List UInt8 :=
  le32 kMagic ++ le16 kVersion ++ le16 type.code ++ le32 (UInt32.ofNat payload.length) ++
    le32 (crc32 payload)

def frameBytes (type : FrameType) (payload : List UInt8) : List UInt8 :=
  header type payload ++ payload

theorem length_header (type : FrameType) (payload : List UInt8) :
    (header type payload).length = kHeaderSize :=
  rfl

theorem length_frameBytes (type : FrameType) (payload : List UInt8) :
    (frameBytes type payload).length = kHeaderSize + payload.length := by
  rw [frameBytes, List.length_append, length_header]

theorem writeFrame_writes (type : FrameType) (payload : List UInt8) :
    Writes (writeFrame type payload) (frameBytes type payload) True := by
  have fields := (u32_writes_le32 kMagic).bind <| (u16_writes kVersion).bind <|
    (u16_writes type.code).bind <| (u32_writes_le32 (UInt32.ofNat payload.length)).bind <|
    (u32_writes_le32 (crc32 payload)).bind (raw_writes payload)
  simp only [and_true] at fields
  rw [writeFrame, frameBytes, header]
  simpa only [List.append_assoc] using fields

/-- What a frame that is not too long is written as. -/
theorem encode_eq (type : FrameType) {payload : List UInt8}
    (bound : payload.length ≤ kMaxPayload) :
    encode type payload = .ok (frameBytes type payload) := by
  rw [encode, if_neg (by omega), (writeFrame_writes type payload).appends trivial,
    List.nil_append]

@[simp]
theorem throwIf_eq_ok_iff {condition : Prop} [Decidable condition] {fault : Fault}
    {ahead rest : List UInt8} {value : Unit} :
    throwIf condition fault ahead = .ok value rest ↔ ¬ condition ∧ ahead = rest := by
  unfold throwIf
  split_ifs with refused
  · simp [refused]
  · simp [refused]

@[simp]
theorem expectEnd_eq_ok_iff {ahead rest : List UInt8} {value : Unit} :
    expectEnd ahead = .ok value rest ↔ ahead = [] ∧ rest = [] := by
  cases ahead with
  | nil => exact ⟨fun returned => by cases returned; exact ⟨rfl, rfl⟩, fun ⟨_, empty⟩ => by
      rw [empty]
      rfl⟩
  | cons byte more =>
      refine ⟨fun returned => ?_, fun ⟨empty, _⟩ => by cases empty⟩
      cases returned

/-- Exactly the frames are read, and their payloads and checksums with them. -/
theorem readFrame_eq_ok_iff {buf rest : List UInt8} {frame : Frame}
    (long : kHeaderSize ≤ buf.length) (short : buf.length ≤ kMaxFrameSize) :
    readFrame buf = .ok frame rest ↔
      frame.payload.length ≤ kMaxPayload ∧ frame.checksum = crc32 frame.payload ∧
        buf = frameBytes frame.type frame.payload ∧ rest = [] := by
  have bound : kMaxFrameSize < 2 ^ 32 := by decide
  have size : kHeaderSize = 16 := rfl
  unfold readFrame
  simp only [bind_eq_ok_iff, throwIf_eq_ok_iff, expectEnd_eq_ok_iff, u32_eq_ok_iff,
    u16_eq_ok_iff, take_eq_ok_iff, ne_eq, not_not, gt_iff_lt, not_lt]
  constructor
  · rintro ⟨_, _, rfl, _, _, ⟨rfl, rfl⟩, _, _, rfl, _, _, ⟨rfl, rfl⟩, rawType, _, rfl, plen, _,
      rfl, _, _, ⟨small, rfl⟩, _, _, asked, _, _, ⟨held, rfl⟩, _, _, rfl, payload, _,
      ⟨length, rfl⟩, _, _, ⟨-, rfl⟩, _, _, ⟨rfl, rfl⟩, _, _, ⟨rfl, rfl⟩, made⟩
    cases asked
    cases made
    refine ⟨length ▸ small, rfl, ?_, rfl⟩
    simp only [frameBytes, header, FrameType.code_ofCode, length, UInt32.ofNat_toNat,
      List.append_assoc, List.append_nil]
  · rintro ⟨small, checked, rfl, rfl⟩
    obtain ⟨type, payload, checksum⟩ := frame
    change payload.length ≤ kMaxPayload at small
    change checksum = crc32 payload at checked
    have width : (UInt32.ofNat payload.length).toNat = payload.length := by
      have limit : kMaxPayload < 2 ^ 32 := by decide
      rw [UInt32.toNat_ofNat', Nat.mod_eq_of_lt (by omega)]
    rw [length_frameBytes] at long short
    simp only [frameBytes, header, List.append_assoc]
    generalize UInt32.ofNat payload.length = plen at width ⊢
    refine ⟨kMagic, _, rfl, (), _, ⟨rfl, rfl⟩, kVersion, _, rfl, (), _, ⟨rfl, rfl⟩, type.code, _,
      rfl, plen, _, rfl, (), _, ⟨width ▸ small, rfl⟩, _, _, rfl, (), _, ⟨?_, rfl⟩, checksum, _,
      by rw [checked], payload, [], ⟨width.symm, (List.append_nil payload).symm⟩, (), _,
      ⟨width.symm, rfl⟩, (), _, ⟨checked.symm, rfl⟩, (), _, ⟨rfl, rfl⟩, ?_⟩
    · have limit : kMaxPayload < 2 ^ 32 := by decide
      rw [List.length_append, length_le32]
      omega
    · rw [FrameType.ofCode_code]
      rfl

/-- Decoding accepts exactly the frames. -/
theorem decode_eq_ok_iff {buf : List UInt8} {frame : Frame} :
    decode buf = .ok frame ↔
      frame.payload.length ≤ kMaxPayload ∧ frame.checksum = crc32 frame.payload ∧
        buf = frameBytes frame.type frame.payload := by
  unfold decode
  constructor
  · intro decoded
    split_ifs at decoded with short long
    cases read : readFrame buf with
    | error fault rest =>
        rw [read] at decoded
        cases decoded
    | ok found rest =>
        rw [read] at decoded
        cases decoded
        obtain ⟨small, checked, whole, -⟩ :=
          (readFrame_eq_ok_iff (by omega) (by omega)).mp read
        exact ⟨small, checked, whole⟩
  · rintro ⟨small, checked, rfl⟩
    have length := length_frameBytes frame.type frame.payload
    have limit : kMaxFrameSize = kHeaderSize + kMaxPayload := rfl
    rw [if_neg (by omega), if_neg (by omega),
      (readFrame_eq_ok_iff (by omega) (by omega)).mpr ⟨small, checked, rfl, rfl⟩]

end DPUFabric.Proto
