import DPUFabric.Library.Exceptions
import DPUFabric.Protocol

/-!
# The frame codec on a span

`DPUFabric.Protocol` keeps the bytes that are still ahead of a reader.  The code
keeps the whole buffer and a position, and computes what remains in 64-bit sizes.
Here is `decode` on such a span, over an arithmetic of sizes that either wraps, as
the code's does, or traps where it would wrap, and with reads that are undefined
outside of the span.  All of them agree, so no difference of sizes wraps and no read
leaves the buffer.
-/

namespace DPUFabric.Proto

open Exceptions
open DPUFabric.Wire
open DPUFabric.Persistence

/-- A buffer: its size is a `size_t`. -/
structure Span where
  bytes : List UInt8
  sized : bytes.length < 2 ^ 64

namespace Span

def size (data : Span) : UInt64 := UInt64.ofNat data.bytes.length

@[simp]
theorem toNat_size (data : Span) : data.size.toNat = data.bytes.length := by
  rw [size, UInt64.toNat_ofNat', Nat.mod_eq_of_lt data.sized]

end Span

/-- A read at a position of a span: a typed error or a value, and the next position. -/
abbrev SpanM := EStateM Fault UInt64

/-- Sizes wrap in the code; a trap shows where they would. -/
inductive SizeArithmetic where
  | wraps | traps
deriving DecidableEq, Repr

namespace SizeArithmetic

def sub (sizes : SizeArithmetic) (left right : UInt64) : SpanM UInt64 := fun pos =>
  match sizes with
  | wraps => .ok (left - right) pos
  | traps => if right ≤ left then .ok (left - right) pos else .error .undefinedBehavior pos

def add (sizes : SizeArithmetic) (left right : UInt64) : SpanM UInt64 := fun pos =>
  match sizes with
  | wraps => .ok (left + right) pos
  | traps =>
      if left.toNat + right.toNat < 2 ^ 64 then .ok (left + right) pos
      else .error .undefinedBehavior pos

variable (sizes : SizeArithmetic)

theorem sub_apply {left right : UInt64} (covered : right ≤ left) (pos : UInt64) :
    sizes.sub left right pos = .ok (left - right) pos := by
  cases sizes with
  | wraps => rfl
  | traps => exact if_pos covered

theorem add_apply {left right : UInt64} (fits : left.toNat + right.toNat < 2 ^ 64)
    (pos : UInt64) : sizes.add left right pos = .ok (left + right) pos := by
  cases sizes with
  | wraps => rfl
  | traps => exact if_pos fits

end SizeArithmetic

/-! ## The reader -/

namespace Span

section Reader

variable (sizes : SizeArithmetic) (data : Span)

/-- `data_.size() - pos_`. -/
def remaining : SpanM UInt64 := do
  sizes.sub data.size (← get)

/-- `if (condition) throw_error(...)`. -/
def throwIf (condition : Prop) [Decidable condition] (fault : Fault) : SpanM Unit := fun pos =>
  if condition then .error fault pos else .ok () pos

/-- `require(n)`. -/
def require (n : UInt64) : SpanM Unit := do
  let rest ← remaining sizes data
  throwIf (n > rest) (.error .protocolError "truncated message")

/-- The `n` bytes from the position on; past the end there are none. -/
def bytesAt (n : UInt64) : SpanM (List UInt8) := fun pos =>
  if pos.toNat + n.toNat ≤ data.bytes.length then
    .ok ((data.bytes.drop pos.toNat).take n.toNat) pos
  else .error .undefinedBehavior pos

/-- `raw(n)`, and the byte reads of `u16` and `u32`. -/
def take (n : UInt64) : SpanM (List UInt8) := do
  require sizes data n
  let bytes ← bytesAt data n
  let next ← sizes.add (← get) n
  set next
  return bytes

def u16 : SpanM UInt16 := do
  return UInt16.ofNat (littleEndian (← take sizes data 2))

def u32 : SpanM UInt32 := do
  return UInt32.ofNat (littleEndian (← take sizes data 4))

/-- `expect_end`. -/
def expectEnd : SpanM Unit := do
  throwIf (¬ (← get) ≥ data.size) (.error .protocolError "trailing bytes after message")

def readFrame : SpanM Frame := do
  let magic ← u32 sizes data
  throwIf (magic ≠ kMagic) (.error .protocolError "bad frame magic")
  let ver ← u16 sizes data
  throwIf (ver ≠ kVersion) (.error .protocolError "unsupported frame version")
  let rawType ← u16 sizes data
  let plen ← u32 sizes data
  throwIf (plen.toNat > kMaxPayload) (.error .frameTooLarge "payload length exceeds bound")
  let behind ← sizes.sub (← remaining sizes data) 4
  throwIf (plen.toUInt64 > behind) (.error .protocolError "truncated payload")
  let declaredCrc ← u32 sizes data
  let payload ← take sizes data plen.toUInt64
  throwIf (payload.length ≠ plen.toNat) (.error .protocolError "payload length mismatch")
  throwIf (crc32 payload ≠ declaredCrc) (.error .checksumFailure "frame checksum mismatch")
  expectEnd data
  return { type := .ofCode rawType, payload, checksum := declaredCrc }

/-- `decode`, on the span that it is given. -/
def decode : Except Fault Frame :=
  if data.size < UInt64.ofNat kHeaderSize then
    .error (.error .protocolError "frame shorter than header")
  else if data.size > UInt64.ofNat kMaxFrameSize then
    .error (.error .frameTooLarge "frame exceeds bound")
  else
    match readFrame sizes data 0 with
    | .ok frame _ => .ok frame
    | .error fault _ => .error fault

end Reader

/-! ## The bytes ahead of a position -/

/-- The same value or the same typed error; the bytes ahead are those behind the position. -/
inductive Mirrored {α : Type} (data : Span) :
    EStateM.Result Fault UInt64 α → EStateM.Result Fault (List UInt8) α → Prop
  | ok {value : α} {pos : UInt64} (within : pos.toNat ≤ data.bytes.length) :
      Mirrored data (.ok value pos) (.ok value (data.bytes.drop pos.toNat))
  | error {error : DpuError} {pos : UInt64} {ahead : List UInt8} :
      Mirrored data (.error (.thrown error) pos) (.error (.thrown error) ahead)

/-- A read that a position mirrors returns or throws a typed error. -/
theorem Mirrored.typed {α : Type} {data : Span} {here : EStateM.Result Fault UInt64 α}
    {read : EStateM.Result Fault (List UInt8) α} (mirrored : Mirrored data here read) :
    (∃ value rest, read = .ok value rest) ∨ ∃ error rest, read = .error (.thrown error) rest := by
  cases mirrored with
  | ok => exact .inl ⟨_, _, rfl⟩
  | error => exact .inr ⟨_, _, rfl⟩

/-- The read at this position does what the read of the bytes behind it does. -/
def Mirrors {α : Type} (data : Span) (pos : UInt64) (here : SpanM α) (read : ReaderM α) : Prop :=
  Mirrored data (here pos) (read (data.bytes.drop pos.toNat))

section Rules

variable {sizes : SizeArithmetic} {data : Span} {pos : UInt64} {α : Type}
  {next : List UInt8 → SpanM α} {next' : List UInt8 → ReaderM α}

theorem remaining_apply (within : pos.toNat ≤ data.bytes.length) :
    remaining sizes data pos = .ok (data.size - pos) pos :=
  sizes.sub_apply (UInt64.le_iff_toNat_le.mpr (by rwa [toNat_size])) pos

theorem toNat_remaining (within : pos.toNat ≤ data.bytes.length) :
    (data.size - pos).toNat = (data.bytes.drop pos.toNat).length := by
  rw [UInt64.toNat_sub_of_le _ _ (UInt64.le_iff_toNat_le.mpr (by rwa [toNat_size])), toNat_size,
    List.length_drop]

theorem Mirrors.throwIf {condition condition' : Prop} [Decidable condition]
    [Decidable condition'] {error : DpuError} {rest : Unit → SpanM α}
    {rest' : Unit → ReaderM α}
    (same : condition ↔ condition')
    (passed : ¬ condition → Mirrors data pos (rest ()) (rest' ())) :
    Mirrors data pos (throwIf condition (.thrown error) >>= rest)
      (Proto.throwIf condition' (.thrown error) >>= rest') := by
  change Mirrored data (EStateM.bind _ _ _) (EStateM.bind _ _ _)
  by_cases refused : condition
  · simp only [EStateM.bind, Span.throwIf, Proto.throwIf, if_pos refused, if_pos (same.mp refused)]
    exact .error
  · simp only [EStateM.bind, Span.throwIf, Proto.throwIf, if_neg refused,
      if_neg (mt same.mpr refused)]
    exact passed refused

theorem require_apply {n : UInt64} (within : pos.toNat ≤ data.bytes.length) :
    require sizes data n pos =
      if data.bytes.length < pos.toNat + n.toNat then
        .error (.error .protocolError "truncated message") pos
      else .ok () pos := by
  have length := toNat_remaining within
  rw [List.length_drop] at length
  rw [require, bind_of_ok (remaining_apply within), throwIf]
  refine if_congr ?_ rfl rfl
  rw [gt_iff_lt, UInt64.lt_iff_toNat_lt]
  omega

theorem take_apply {n : UInt64} (fits : pos.toNat + n.toNat ≤ data.bytes.length) :
    take sizes data n pos = .ok ((data.bytes.drop pos.toNat).take n.toNat) (pos + n) := by
  have sized := data.sized
  have required : require sizes data n pos = .ok () pos := by
    rw [require_apply (by omega), if_neg (by omega)]
  have read : bytesAt data n pos = .ok ((data.bytes.drop pos.toNat).take n.toNat) pos :=
    if_pos fits
  have position : (get : SpanM UInt64) pos = .ok pos pos := rfl
  have moved : sizes.add pos n pos = .ok (pos + n) pos := sizes.add_apply (by omega) pos
  rw [take, bind_of_ok required, bind_of_ok read, bind_of_ok position, bind_of_ok moved]
  rfl

/-- A read of `n` bytes, and what follows it `n` bytes on. -/
theorem Mirrors.take {n : UInt64} (within : pos.toNat ≤ data.bytes.length)
    (passed : ∀ bytes (later : UInt64), later.toNat = pos.toNat + n.toNat →
      later.toNat ≤ data.bytes.length → Mirrors data later (next bytes) (next' bytes)) :
    Mirrors data pos (take sizes data n >>= next) (Wire.take n.toNat >>= next') := by
  have length : (data.bytes.drop pos.toNat).length = data.bytes.length - pos.toNat :=
    List.length_drop
  rw [Mirrors]
  by_cases fits : pos.toNat + n.toNat ≤ data.bytes.length
  · have sized := data.sized
    have moved : (pos + n).toNat = pos.toNat + n.toNat := by
      rw [UInt64.toNat_add, Nat.mod_eq_of_lt (by omega)]
    have taken : Wire.take n.toNat (data.bytes.drop pos.toNat) =
        .ok ((data.bytes.drop pos.toNat).take n.toNat) (data.bytes.drop (pos + n).toNat) := by
      rw [Wire.take, if_neg (by omega), List.drop_drop, moved]
    rw [bind_of_ok (take_apply fits), bind_of_ok taken]
    exact passed _ _ moved (by omega)
  · have refused : Span.take sizes data n pos =
        .error (.error .protocolError "truncated message") pos := by
      rw [Span.take, bind_of_error]
      rw [require_apply within, if_pos (by omega)]
    have short : Wire.take n.toNat (data.bytes.drop pos.toNat) =
        .error (.error .protocolError "truncated message") (data.bytes.drop pos.toNat) := by
      rw [Wire.take, if_pos (by omega)]
    rw [bind_of_error refused, bind_of_error short]
    exact .error

theorem Mirrors.u16 {next : UInt16 → SpanM α} {next' : UInt16 → ReaderM α}
    (within : pos.toNat ≤ data.bytes.length)
    (passed : ∀ value (later : UInt64), later.toNat = pos.toNat + 2 →
      later.toNat ≤ data.bytes.length → Mirrors data later (next value) (next' value)) :
    Mirrors data pos (u16 sizes data >>= next) (Wire.u16 >>= next') := by
  simp only [Span.u16, Wire.u16, bind_assoc, pure_bind]
  exact Mirrors.take (n := 2) within fun bytes => passed _

theorem Mirrors.u32 {next : UInt32 → SpanM α} {next' : UInt32 → ReaderM α}
    (within : pos.toNat ≤ data.bytes.length)
    (passed : ∀ value (later : UInt64), later.toNat = pos.toNat + 4 →
      later.toNat ≤ data.bytes.length → Mirrors data later (next value) (next' value)) :
    Mirrors data pos (u32 sizes data >>= next) (Wire.u32 >>= next') := by
  simp only [Span.u32, Wire.u32, bind_assoc, pure_bind]
  exact Mirrors.take (n := 4) within fun bytes => passed _

theorem Mirrors.expectEnd {rest : Unit → SpanM α} {rest' : Unit → ReaderM α}
    (passed : Mirrors data pos (rest ()) (rest' ())) :
    Mirrors data pos (expectEnd data >>= rest) (Wire.expectEnd >>= rest') := by
  have ends : Wire.expectEnd = (do
      let ahead ← get
      Proto.throwIf (¬ ahead.isEmpty) (.error .protocolError "trailing bytes after message")) := by
    funext ahead
    cases ahead <;> rfl
  rw [ends]
  refine Mirrors.throwIf ?_ fun _ => passed
  rw [ge_iff_le, UInt64.le_iff_toNat_le, toNat_size, List.isEmpty_iff, List.drop_eq_nil_iff]

/-- What remains behind the next `n` bytes. -/
theorem Mirrors.behind {n : UInt64} {next : UInt64 → SpanM α} {next' : List UInt8 → ReaderM α}
    (room : pos.toNat + n.toNat ≤ data.bytes.length)
    (passed : ∀ behind : UInt64, behind.toNat = data.bytes.length - pos.toNat - n.toNat →
      Mirrors data pos (next behind) (next' (data.bytes.drop pos.toNat))) :
    Mirrors data pos (remaining sizes data >>= fun rest => sizes.sub rest n >>= next)
      (get >>= next') := by
  have within : pos.toNat ≤ data.bytes.length := by omega
  have length := toNat_remaining within
  rw [List.length_drop] at length
  have covered : n ≤ data.size - pos := by
    rw [UInt64.le_iff_toNat_le]
    omega
  rw [Mirrors, bind_of_ok (remaining_apply within), bind_of_ok (sizes.sub_apply covered pos)]
  exact passed _ (by rw [UInt64.toNat_sub_of_le _ _ covered, length])

end Rules

/-! ## Decoding -/

/-- A frame is read at a position as it is from the bytes behind it. -/
theorem readFrame_mirrors (sizes : SizeArithmetic) (data : Span)
    (long : kHeaderSize ≤ data.bytes.length) :
    Mirrors data 0 (readFrame sizes data) Proto.readFrame := by
  have header : kHeaderSize = 16 := rfl
  have start : (0 : UInt64).toNat = 0 := rfl
  have crcSize : (4 : UInt64).toNat = 4 := rfl
  unfold readFrame Proto.readFrame
  refine Mirrors.u32 (by omega) fun magic magicEnd _ _ => ?_
  refine Mirrors.throwIf Iff.rfl fun _ => ?_
  refine Mirrors.u16 (by omega) fun ver versionEnd _ _ => ?_
  refine Mirrors.throwIf Iff.rfl fun _ => ?_
  refine Mirrors.u16 (by omega) fun rawType typeEnd _ _ => ?_
  refine Mirrors.u32 (by omega) fun plen lengthEnd _ _ => ?_
  refine Mirrors.throwIf Iff.rfl fun _ => ?_
  -- The header is there in full, so the four bytes of the checksum remain.
  refine Mirrors.behind (by omega) fun behind size => ?_
  refine Mirrors.throwIf ?_ fun _ => ?_
  · have sized := data.sized
    simp only [gt_iff_lt, UInt64.lt_iff_toNat_lt, UInt32.toNat_toUInt64, size, List.length_drop]
    omega
  refine Mirrors.u32 (by omega) fun declaredCrc crcEnd _ within => ?_
  refine Mirrors.take within fun payload payloadEnd _ within => ?_
  refine Mirrors.throwIf Iff.rfl fun _ => ?_
  refine Mirrors.throwIf Iff.rfl fun _ => ?_
  refine Mirrors.expectEnd ?_
  exact .ok within

theorem decode_eq (sizes : SizeArithmetic) (data : Span) :
    data.decode sizes = Proto.decode data.bytes := by
  have least : (UInt64.ofNat kHeaderSize).toNat = kHeaderSize := rfl
  have most : (UInt64.ofNat kMaxFrameSize).toNat = kMaxFrameSize := rfl
  have short : data.size < UInt64.ofNat kHeaderSize ↔ data.bytes.length < kHeaderSize := by
    rw [UInt64.lt_iff_toNat_lt, toNat_size, least]
  have long : data.size > UInt64.ofNat kMaxFrameSize ↔ data.bytes.length > kMaxFrameSize := by
    rw [gt_iff_lt, UInt64.lt_iff_toNat_lt, toNat_size, most]
  rw [decode, Proto.decode]
  by_cases tooShort : data.bytes.length < kHeaderSize
  · rw [if_pos (short.mpr tooShort), if_pos tooShort]
  rw [if_neg (mt short.mp tooShort), if_neg tooShort]
  by_cases tooLong : data.bytes.length > kMaxFrameSize
  · rw [if_pos (long.mpr tooLong), if_pos tooLong]
  rw [if_neg (mt long.mp tooLong), if_neg tooLong]
  have mirrored : Mirrored data (readFrame sizes data 0) (Proto.readFrame data.bytes) :=
    readFrame_mirrors sizes data (not_lt.mp tooShort)
  generalize readFrame sizes data 0 = here at mirrored ⊢
  generalize Proto.readFrame data.bytes = read at mirrored ⊢
  cases mirrored <;> rfl

end Span

/-! ## The codec -/

theorem decode_encode (type : FrameType) {payload : List UInt8}
    (bound : payload.length ≤ kMaxPayload) :
    ∃ bytes, encode type payload = .ok bytes ∧
      decode bytes = .ok ⟨type, payload, crc32 payload⟩ :=
  ⟨frameBytes type payload, encode_eq type bound, decode_eq_ok_iff.mpr ⟨bound, rfl, rfl⟩⟩

theorem encode_decode {buf : List UInt8} {frame : Frame} (decoded : decode buf = .ok frame) :
    encode frame.type frame.payload = .ok buf := by
  obtain ⟨bound, -, rfl⟩ := decode_eq_ok_iff.mp decoded
  exact encode_eq frame.type bound

/-- What is not a frame is refused with a typed error. -/
theorem decode_refuses (buf : List UInt8) :
    (∃ frame, decode buf = .ok frame) ∨ ∃ error, decode buf = .error (.thrown error) := by
  rw [decode]
  split_ifs with short long
  · exact .inr ⟨_, rfl⟩
  · exact .inr ⟨_, rfl⟩
  have bound : kMaxFrameSize < 2 ^ 64 := by decide
  have mirrored : Span.Mirrored ⟨buf, by omega⟩ _ (readFrame buf) :=
    Span.readFrame_mirrors .wraps ⟨buf, by omega⟩ (not_lt.mp short)
  rcases mirrored.typed with ⟨frame, rest, read⟩ | ⟨error, rest, read⟩
  · exact .inl ⟨frame, by rw [read]⟩
  · exact .inr ⟨error, by rw [read]⟩

/--
The codec is a bijection between the typed payloads of at most 4 MiB and the buffers
that `decode` accepts.  Every other buffer is refused with a typed error, and on no
buffer does a difference of sizes wrap or a read leave the span.
-/
theorem codec_bijective :
    (∀ (type : UInt16) (payload : List UInt8), payload.length ≤ kMaxPayload →
      ∃ bytes, encode (.ofCode type) payload = .ok bytes ∧
        decode bytes = .ok ⟨.ofCode type, payload, crc32 payload⟩) ∧
    (∀ (buf : List UInt8) (frame : Frame), decode buf = .ok frame →
      encode frame.type frame.payload = .ok buf) ∧
    (∀ buf : List UInt8, (∃ type payload, encode type payload = .ok buf) ∨
      ∃ error, decode buf = .error (.thrown error)) ∧
    ∀ (data : Span) (sizes : SizeArithmetic), data.decode sizes = decode data.bytes := by
  refine ⟨fun type payload bound => decode_encode (.ofCode type) bound,
    fun buf frame => encode_decode, fun buf => ?_, fun data sizes => data.decode_eq sizes⟩
  rcases decode_refuses buf with ⟨frame, decoded⟩ | refused
  · exact .inl ⟨frame.type, frame.payload, encode_decode decoded⟩
  · exact .inr refused

end DPUFabric.Proto
