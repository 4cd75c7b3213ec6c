import DPUFabric.FrameCodec
import DPUFabric.Library.ShiftRegister
import DPUFabric.RoundTrip

/-!
# What the checksums of a state file detect

A state file holds two blocks that end with their CRC-32: the header of sixteen bytes,
and the payload.  A modification of at most four consecutive bytes changes each block
by a burst that fits into the register of the CRC, so that no changed block is accepted.
A file that is cut or extended keeps its header and has another size.
-/

namespace DPUFabric.Persistence

open ShiftRegister
open DPUFabric.Wire
open DPUFabric.Proto (Span)

/-! ## The CRC as a shift register -/

def crcPolynomial : BitVec 32 := 0xEDB88320

theorem crcPolynomial_msb : crcPolynomial.msb = true := by decide

theorem crcBit_toBitVec (crc : UInt32) :
    (crcBit crc).toBitVec = shift crcPolynomial crc.toBitVec := by
  have low : (crc &&& 1).toBitVec =
      (BitVec.ofBool (crc.toBitVec.getLsbD 0)).setWidth 32 := by
    rw [UInt32.toBitVec_and]
    exact BitVec.and_one_eq_setWidth_ofBool_getLsbD
  have moved : (crc >>> 1).toBitVec = crc.toBitVec >>> 1 := by
    rw [UInt32.toBitVec_shiftRight]
    rfl
  rw [crcBit, shift, UInt32.toBitVec_xor, moved, UInt32.toBitVec_and, UInt32.toBitVec_sub, low]
  cases crc.toBitVec.getLsbD 0 <;> rfl

theorem crcByte_toBitVec (crc : UInt32) (byte : UInt8) :
    (crcByte crc byte).toBitVec = feed crcPolynomial crc.toBitVec byte.toBitVec := by
  have moves : ∀ (n : ℕ) (crc : UInt32),
      (Nat.repeat crcBit n crc).toBitVec = (shift crcPolynomial)^[n] crc.toBitVec := by
    intro n crc
    induction n with
    | zero => rfl
    | succ n ih => rw [Nat.repeat, crcBit_toBitVec, ih, Function.iterate_succ_apply']
  rw [crcByte, moves, UInt32.toBitVec_xor]
  rfl

/-- The register after these bytes. -/
def register (bytes : List UInt8) : BitVec 32 :=
  run crcPolynomial (BitVec.allOnes 32) (bytes.map UInt8.toBitVec)

theorem crc32_toBitVec (bytes : List UInt8) : (crc32 bytes).toBitVec = ~~~ register bytes := by
  have folded : ∀ crc : UInt32, (bytes.foldl crcByte crc).toBitVec =
      run crcPolynomial crc.toBitVec (bytes.map UInt8.toBitVec) := by
    induction bytes with
    | nil => exact fun crc => rfl
    | cons byte rest ih =>
        intro crc
        rw [List.foldl_cons, ih, crcByte_toBitVec]
        rfl
  rw [crc32, UInt32.toBitVec_not, folded]
  rfl

theorem value_toBitVec (bytes : List UInt8) :
    value (bytes.map UInt8.toBitVec) = littleEndian bytes := by
  induction bytes with
  | nil => rfl
  | cons byte rest ih => rw [List.map_cons, value_cons, ih]; rfl

/-! ## Blocks -/

/-- A block with its stored checksum. -/
structure Checked (block trailer : List UInt8) : Prop where
  width : trailer.length = 4
  sum : (crc32 block).toNat = littleEndian trailer

/-- Every block with its checksum leaves the same register. -/
theorem Checked.register_eq {block trailer : List UInt8} (checked : Checked block trailer) :
    register (block ++ trailer) = (shift crcPolynomial)^[32] (BitVec.allOnes 32) := by
  rw [register, List.map_append]
  refine run_append_masked _ _ _ (by rw [List.length_map, checked.width]) ?_
  have stored : BitVec.ofNat 32 (littleEndian trailer) = (crc32 block).toBitVec := by
    rw [← checked.sum, ← UInt32.toNat_toBitVec, BitVec.ofNat_toNat, BitVec.setWidth_eq]
  rw [value_toBitVec, stored, crc32_toBitVec, register, BitVec.xor_allOnes]

/-- No burst of four bytes turns a block with its checksum into another one. -/
theorem Checked.eq_of_burst {block trailer block' trailer' : List UInt8}
    (checked : Checked block trailer) (checked' : Checked block' trailer')
    (burst : Burst 4 (block ++ trailer) (block' ++ trailer')) :
    block ++ trailer = block' ++ trailer' := by
  have same : register (block ++ trailer) = register (block' ++ trailer') := by
    rw [checked.register_eq, checked'.register_eq]
  have bits := (burst.map UInt8.toBitVec).detected crcPolynomial_msb (by decide) same
  exact List.map_injective_iff.mpr (fun _ _ => UInt8.toBitVec_inj.mp) bits

/-! ## Files -/

/-- The two blocks of a file are intact, and it has the size that its header declares. -/
structure Sealed (buf : List UInt8) : Prop where
  header : Checked (buf.take kHeaderCrcLen) ((buf.drop 16).take 4)
  size : buf.length = kFixedHead + littleEndian ((buf.drop 8).take 8) + kTrailerFixed
  payload : ∃ payload trailer,
    buf.drop kFixedHead = payload ++ trailer ∧ Checked payload trailer

theorem header_block (buf : List UInt8) :
    buf.take kHeaderCrcLen ++ (buf.drop 16).take 4 = buf.take kFixedHead :=
  (List.take_add (i := 16) (j := 4)).symm

/-- The declared length stands in the first twenty bytes. -/
theorem Sealed.length_eq {buf buf' : List UInt8} (whole : Sealed buf) (whole' : Sealed buf')
    (heads : buf.take kFixedHead = buf'.take kFixedHead) : buf.length = buf'.length := by
  have field : ∀ buf : List UInt8,
      (buf.drop 8).take 8 = ((buf.take kFixedHead).drop 8).take 8 := by
    intro buf
    rw [List.drop_take, List.take_take]
    rfl
  rw [whole.size, whole'.size, field buf, field buf', heads]

theorem Sealed.eq_of_burst {buf buf' : List UInt8} (whole : Sealed buf) (whole' : Sealed buf')
    (burst : Burst 4 buf buf') : buf = buf' := by
  have heads : buf.take kFixedHead = buf'.take kFixedHead := by
    rw [← header_block, ← header_block]
    refine whole.header.eq_of_burst whole'.header ?_
    rw [header_block, header_block]
    exact burst.take kFixedHead
  have tails : buf.drop kFixedHead = buf'.drop kFixedHead := by
    obtain ⟨payload, trailer, split, checked⟩ := whole.payload
    obtain ⟨payload', trailer', split', checked'⟩ := whole'.payload
    have moved := burst.drop kFixedHead
    rw [split, split'] at moved ⊢
    exact checked.eq_of_burst checked' moved
  rw [← List.take_append_drop kFixedHead buf, heads, tails, List.take_append_drop]

theorem container_sealed {payload : List UInt8} (sized : payload.length < 2 ^ 64) :
    Sealed (container payload) := by
  obtain ⟨-, -, -, declared, stored, front, tail⟩ := container_fields payload
  refine ⟨⟨?_, ?_⟩, ?_, payload, le32 (crc32 payload), tail, rfl, ?_⟩
  · rw [stored, length_le32]
  · rw [front, stored, littleEndian_le32]
  · rw [length_container, declared, littleEndian_le64, UInt64.toNat_ofNat',
      Nat.mod_eq_of_lt sized]
  · rw [littleEndian_le32]

/-- One check of a container: it refuses with a typed error, or the next one follows. -/
theorem refused_or {kept condition : Prop} [Decidable condition] {error : DpuError}
    {rest : Except Fault (List UInt8)}
    (passed : ¬ condition → kept ∨ ∃ error, rest = .error (.thrown error)) :
    kept ∨ ∃ error', (if condition then .error (.thrown error) else rest) =
      (.error (.thrown error') : Except Fault (List UInt8)) := by
  by_cases refused : condition
  · exact .inr ⟨error, if_pos refused⟩
  · rw [if_neg refused]
    exact passed refused

/-- A container is opened only if it is sealed, and refused with a typed error. -/
theorem openContainer_cases (buf : List UInt8) :
    Sealed buf ∨ ∃ error, openContainer buf = .error (.thrown error) := by
  have head20 : kFixedHead = 20 := rfl
  have tail4 : kTrailerFixed = 4 := rfl
  unfold openContainer
  dsimp only
  refine refused_or fun _ => refused_or fun _ => refused_or fun long => ?_
  refine refused_or fun _ => refused_or fun _ => refused_or fun _ => refused_or fun _ => ?_
  refine refused_or fun header => refused_or fun size => refused_or fun payload => .inl ?_
  rw [not_ne_iff] at header size payload
  generalize declared : littleEndian ((buf.drop 8).take 8) = payloadLen at size payload
  refine ⟨⟨?_, header⟩, declared ▸ size, (buf.drop kFixedHead).take payloadLen,
    (buf.drop kFixedHead).drop payloadLen, (List.take_append_drop _ _).symm, ?_, ?_⟩
  · rw [List.length_take, List.length_drop]
    omega
  · rw [List.drop_drop, List.length_drop]
    omega
  · rw [List.drop_drop]
    exact payload

/-! ## Damage -/

/-- A changed run of at most four bytes, a proper prefix, or more bytes at the end. -/
inductive Damaged (file : List UInt8) : List UInt8 → Prop
  | changed {found : List UInt8} (burst : Burst 4 file found) (differs : found ≠ file) :
      Damaged file found
  | cut {n : ℕ} (short : n < file.length) : Damaged file (file.take n)
  | extended {extra : List UInt8} (more : extra ≠ []) : Damaged file (file ++ extra)

/-- Damage breaks a seal. -/
theorem Damaged.not_sealed {file found : List UInt8} (damaged : Damaged file found)
    (whole : Sealed file) : ¬ Sealed found := by
  intro whole'
  have room := whole.size
  have room' := whole'.size
  have head20 : kFixedHead = 20 := rfl
  cases damaged with
  | changed burst differs => exact differs (whole.eq_of_burst whole' burst).symm
  | @cut n short =>
      rw [List.length_take] at room'
      have heads : (file.take n).take kFixedHead = file.take kFixedHead := by
        rw [List.take_take, Nat.min_eq_left (by omega)]
      have length := whole'.length_eq whole heads
      rw [List.length_take] at length
      omega
  | @extended extra more =>
      have heads : (file ++ extra).take kFixedHead = file.take kFixedHead :=
        List.take_append_of_le_length (by omega)
      have length := whole'.length_eq whole heads
      rw [List.length_append] at length
      exact more (List.eq_nil_of_length_eq_zero (by omega))

/-- Of a saved file, no damage is loaded: an error is thrown and nothing is filled in. -/
theorem load_damaged {s : Snapshot} {file : Span} {found : List UInt8}
    (saved : serialize s = .ok file.bytes) (damaged : Damaged file.bytes found)
    (out : LiveState) : ∃ error, load (some found) out = .error (.thrown error) out := by
  obtain ⟨payload, whole⟩ : ∃ payload, file.bytes = container payload := by
    unfold serialize at saved
    split at saved
    · rename_i payload written
      exact ⟨payload, (Except.ok.inj saved).symm⟩
    · cases saved
  have sized : payload.length < 2 ^ 64 := by
    have length := length_container payload
    have bound := file.sized
    rw [← whole] at length
    omega
  rw [whole] at damaged
  rcases openContainer_cases found with whole' | ⟨error, refused⟩
  · exact absurd whole' (damaged.not_sealed (container_sealed sized))
  · exact ⟨error, by rw [load, refused]⟩

theorem load_damaged_fresh : ∃ (file : Span) (error : DpuError),
    serialize (makeSnapshot (Engine.fresh ⟨1⟩ (Policy.defaults ⟨1⟩)).state) = .ok file.bytes ∧
      load (some (file.bytes ++ [0])) (Engine.fresh ⟨1⟩ (Policy.defaults ⟨1⟩)).state =
        .error (.thrown error) (Engine.fresh ⟨1⟩ (Policy.defaults ⟨1⟩)).state := by
  have consistent := consistent_fresh ⟨1⟩ (Policy.defaults ⟨1⟩)
  obtain ⟨file, saved⟩ := (serialize_ok_iff consistent.devicesCounted).mpr (by decide)
  have sized : file.length < 2 ^ 64 := by
    obtain ⟨payload, rfl, read⟩ := payload_of_serialize consistent.devicesCounted saved
    rw [length_container, read.length]
    decide
  let span : Span := ⟨file, sized⟩
  obtain ⟨error, refused⟩ := @load_damaged _ span _ saved (.extended (List.cons_ne_nil 0 []))
    (Engine.fresh ⟨1⟩ (Policy.defaults ⟨1⟩)).state
  exact ⟨span, error, saved, refused⟩

end DPUFabric.Persistence
