import DPUFabric.Agreement
import DPUFabric.Library.Grammar

/-!
# What the wire readers accept

The language of every reader: numbers of a fixed width, length-prefixed strings,
and counted lists.  What a reader makes of the bytes does not matter here, but for
the lengths and counts that decide how much it consumes.
-/

namespace DPUFabric.Wire

open Exceptions
open Grammar
open DPUFabric.Persistence

/-! ## Numbers -/

theorem littleEndian_injective {first second : List UInt8} (width : first.length = second.length)
    (same : littleEndian first = littleEndian second) : first = second := by
  induction first generalizing second with
  | nil => exact (List.length_eq_zero_iff.mp width.symm).symm
  | cons low high ih =>
      cases second with
      | nil => cases width
      | cons low' high' =>
          have bound := low.toNat_lt
          have bound' := low'.toNat_lt
          change low.toNat + 256 * littleEndian high = low'.toNat + 256 * littleEndian high' at same
          have lows : low.toNat = low'.toNat := by omega
          have highs : littleEndian high = littleEndian high' := by omega
          rw [UInt8.toNat_inj.mp lows, ih (Nat.succ_injective width) highs]

theorem littleEndian_lt (bytes : List UInt8) : littleEndian bytes < 256 ^ bytes.length := by
  induction bytes with
  | nil => decide
  | cons low high ih =>
      have bound := low.toNat_lt
      change low.toNat + 256 * littleEndian high < _
      rw [List.length_cons, pow_succ]
      omega

theorem take_eq_ok_iff {n : Nat} {ahead bytes rest : List UInt8} :
    take n ahead = .ok bytes rest ↔ bytes.length = n ∧ ahead = bytes ++ rest := by
  unfold take
  constructor
  · intro returned
    split_ifs at returned with short
    cases returned
    refine ⟨?_, (List.take_append_drop n ahead).symm⟩
    rw [List.length_take]
    omega
  · rintro ⟨rfl, rfl⟩
    simp

/-- A number is read from the bytes that stand for it. -/
theorem parses_number {α : Type} {n : Nat} (number : List UInt8 → α) (code : α → List UInt8)
    (width : ∀ v, (code v).length = n) (decodes : ∀ v, number (code v) = v)
    (encodes : ∀ bytes, bytes.length = n → code (number bytes) = bytes) :
    Parses (take n >>= fun bytes => (pure (number bytes) : ReaderM α)) fun v => {code v} := by
  intro ahead v rest
  rw [bind_eq_ok_iff]
  constructor
  · rintro ⟨bytes, middle, begun, returned⟩
    obtain ⟨length, rfl⟩ := take_eq_ok_iff.mp begun
    cases returned
    exact ⟨bytes, (encodes bytes length).symm, rfl⟩
  · rintro ⟨_, rfl, rfl⟩
    refine ⟨code v, rest, take_eq_ok_iff.mpr ⟨width v, rfl⟩, ?_⟩
    rw [decodes]
    rfl

theorem le16_littleEndian {bytes : List UInt8} (length : bytes.length = 2) :
    le16 (UInt16.ofNat (littleEndian bytes)) = bytes := by
  have bound : littleEndian bytes < 2 ^ 16 := by
    simpa [length] using littleEndian_lt bytes
  refine littleEndian_injective length.symm ?_
  rw [littleEndian_le16, UInt16.toNat_ofNat', Nat.mod_eq_of_lt bound]

theorem toNat_littleEndian {bytes : List UInt8} (length : bytes.length = 4) :
    (UInt32.ofNat (littleEndian bytes)).toNat = littleEndian bytes := by
  have bound : littleEndian bytes < 2 ^ 32 := by
    simpa [length] using littleEndian_lt bytes
  rw [UInt32.toNat_ofNat', Nat.mod_eq_of_lt bound]

theorem le32_littleEndian {bytes : List UInt8} (length : bytes.length = 4) :
    le32 (UInt32.ofNat (littleEndian bytes)) = bytes := by
  refine littleEndian_injective length.symm ?_
  rw [littleEndian_le32, toNat_littleEndian length]

theorem parses_u16 : Parses u16 fun v => {le16 v} := by
  refine parses_number (fun bytes => UInt16.ofNat (littleEndian bytes)) le16 length_le16 ?_
    fun _ => le16_littleEndian
  intro v
  rw [littleEndian_le16, UInt16.ofNat_toNat]

theorem parses_u32 : Parses u32 fun v => {le32 v} := by
  refine parses_number (fun bytes => UInt32.ofNat (littleEndian bytes)) le32 length_le32 ?_
    fun _ => le32_littleEndian
  intro v
  rw [littleEndian_le32, UInt32.ofNat_toNat]

theorem u16_eq_ok_iff {ahead rest : List UInt8} {v : UInt16} :
    u16 ahead = .ok v rest ↔ ahead = le16 v ++ rest := by
  rw [parses_u16]
  exact exists_eq_left

theorem u32_eq_ok_iff {ahead rest : List UInt8} {v : UInt32} :
    u32 ahead = .ok v rest ↔ ahead = le32 v ++ rest := by
  rw [parses_u32]
  exact exists_eq_left

theorem u16_append (bytes : List UInt8) {rest : List UInt8} (length : bytes.length = 2) :
    u16 (bytes ++ rest) = .ok (UInt16.ofNat (littleEndian bytes)) rest :=
  u16_eq_ok_iff.mpr (by rw [le16_littleEndian length])

theorem u32_append (bytes : List UInt8) {rest : List UInt8} (length : bytes.length = 4) :
    u32 (bytes ++ rest) = .ok (UInt32.ofNat (littleEndian bytes)) rest :=
  u32_eq_ok_iff.mpr (by rw [le32_littleEndian length])

/-- The four bytes that `u32` appends. -/
theorem u32_writes_le32 (v : UInt32) : Codec.Writes (Writer.u32 v) (le32 v) True := by
  have halves : le16 (v &&& 0xFFFF).toUInt16 ++ le16 ((v >>> 16) &&& 0xFFFF).toUInt16 =
      le32 v := by
    have square : 256 ^ 2 = 2 ^ 16 := by norm_num
    refine littleEndian_injective rfl ?_
    rw [littleEndian_append, littleEndian_le16, littleEndian_le16, length_le16, square, halves32,
      littleEndian_le32]
  rw [← halves]
  exact u32_writes v

/-! ## Fields of a fixed width -/

/-- Any bytes, of this number. -/
def fixed (n : Nat) : Language UInt8 := {code | code.length = n}

theorem fixed_mul_fixed (m n : Nat) : fixed m * fixed n = fixed (m + n) := by
  ext code
  rw [Language.mem_mul]
  constructor
  · rintro ⟨first, length, second, length', rfl⟩
    change (first ++ second).length = m + n
    rw [List.length_append, length, length']
  · intro length
    change code.length = m + n at length
    refine ⟨code.take m, ?_, code.drop m, ?_, List.take_append_drop m code⟩
    · change (code.take m).length = m
      rw [List.length_take]
      omega
    · change (code.drop m).length = n
      rw [List.length_drop]
      omega

theorem accepts_take (n : Nat) : Accepts (take n) (fixed n) := by
  intro ahead rest
  simp only [take_eq_ok_iff]
  exact Iff.rfl

theorem accepts_u8 : Accepts u8 (fixed 1) :=
  (accepts_take 1).last

theorem accepts_u64 : Accepts u64 (fixed 8) := by
  have u32 : Accepts u32 (fixed 4) := (accepts_take 4).last
  exact (u32.bind fun _ => u32.last).congr (fixed_mul_fixed 4 4)

theorem accepts_flag : Accepts flag (fixed 1) :=
  accepts_u8.last

theorem accepts_id {tag : IdTag} : Accepts (readId : ReaderM (Id tag)) (fixed 8) :=
  accepts_u64.last

theorem accepts_enum {E : Type} [Enumerator E] : Accepts (readEnum (E := E)) (fixed 1) :=
  accepts_u8.last

theorem accepts_resourceCap : Accepts readResourceCap (fixed 40) := by
  unfold readResourceCap
  refine Accepts.congr
    (.bind accepts_u64 fun _ => .bind accepts_u64 fun _ => .bind accepts_u64 fun _ =>
      .bind accepts_u64 fun _ => .last accepts_u64) ?_
  simp only [fixed_mul_fixed]

/-! ## Strings -/

/-- A string behind its length. -/
def prefixed (s : Text) : List UInt8 := le32 (UInt32.ofNat s.length) ++ s

/-- The strings that are short enough, and meet a condition. -/
def string (valid : Text → Prop) : Language UInt8 :=
  {code | ∃ s, s.length ≤ kMaxStringBytes ∧ valid s ∧ code = prefixed s}

/-- What `str` returns, and when. -/
theorem str_eq_ok_iff {ahead s rest : List UInt8} :
    str ahead = .ok s rest ↔
      s.length ≤ kMaxStringBytes ∧ ahead = prefixed s ++ rest := by
  have bound : kMaxStringBytes < 2 ^ 32 := by decide
  have steps : str = u32 >>= fun len =>
      if len.toNat > kMaxStringBytes then
        throw (.error .invalidArgument "string length exceeds bound")
      else take len.toNat :=
    rfl
  rw [steps, bind_eq_ok_iff]
  constructor
  · rintro ⟨len, middle, begun, returned⟩
    rw [u32_eq_ok_iff] at begun
    subst begun
    split_ifs at returned with long
    · cases returned
    · obtain ⟨length, rfl⟩ := take_eq_ok_iff.mp returned
      refine ⟨by omega, ?_⟩
      rw [prefixed, length, UInt32.ofNat_toNat, List.append_assoc]
  · rintro ⟨short, rfl⟩
    have width : (UInt32.ofNat s.length).toNat = s.length := by
      rw [UInt32.toNat_ofNat', Nat.mod_eq_of_lt (by omega)]
    refine ⟨_, s ++ rest, u32_eq_ok_iff.mpr (List.append_assoc ..), ?_⟩
    rw [if_neg (by omega)]
    exact take_eq_ok_iff.mpr ⟨width.symm, rfl⟩

theorem accepts_str : Accepts str (string fun _ => True) := by
  intro ahead rest
  simp only [str_eq_ok_iff]
  constructor
  · rintro ⟨s, short, rfl⟩
    exact ⟨prefixed s, ⟨s, short, trivial, rfl⟩, rfl⟩
  · rintro ⟨_, ⟨s, short, -, rfl⟩, rfl⟩
    exact ⟨s, short, rfl⟩

theorem readKey_eq_ok_iff {ahead rest : List UInt8} :
    (∃ key, readKey ahead = .ok key rest) ↔
      ∃ s, isValidKey s = true ∧ str ahead = .ok s rest := by
  unfold readKey
  simp only [bind_eq_ok_iff]
  constructor
  · rintro ⟨key, s, middle, begun, returned⟩
    unfold CapabilityKey.ofText at returned
    split_ifs at returned with valid
    · cases returned
      exact ⟨s, valid, begun⟩
    · cases returned
  · rintro ⟨s, valid, begun⟩
    refine ⟨⟨s, Or.inr valid⟩, s, rest, begun, ?_⟩
    rw [CapabilityKey.ofText, dif_pos valid]
    rfl

theorem accepts_key : Accepts readKey (string fun s => isValidKey s = true) := by
  intro ahead rest
  simp only [readKey_eq_ok_iff, str_eq_ok_iff]
  constructor
  · rintro ⟨s, valid, short, rfl⟩
    exact ⟨prefixed s, ⟨s, short, valid, rfl⟩, rfl⟩
  · rintro ⟨_, ⟨s, short, valid, rfl⟩, rfl⟩
    exact ⟨s, valid, short, rfl⟩

/-! ## Lists -/

/-- At most `bound` words of a language, behind their number. -/
def counted (bound : Nat) (language : Language UInt8) : Language UInt8 :=
  {code | ∃ n ≤ bound, ∃ items ∈ language ^ n, code = le32 (UInt32.ofNat n) ++ items}

theorem accepts_many {α : Type} {read : ReaderM α} {language : Language UInt8}
    (accepts : Accepts read language) (n : Nat) : Accepts (many read n) (language ^ n) := by
  induction n with
  | zero => exact .pure []
  | succ n ih =>
      have items : Accepts
          (read >>= fun first => many read n >>= fun rest => pure (first :: rest))
          (language * language ^ n) :=
        accepts.bind fun _ => ih.last
      exact items.congr (pow_succ' language n).symm

theorem readCount_eq_ok_iff {bound : Nat} {detail : String} (small : bound < 2 ^ 32)
    {ahead rest : List UInt8} {n : Nat} :
    readCount bound detail ahead = .ok n rest ↔
      n ≤ bound ∧ ahead = le32 (UInt32.ofNat n) ++ rest := by
  have steps : readCount bound detail = u32 >>= fun n =>
      if n.toNat > bound then throw (.error .corruptState detail) else pure n.toNat :=
    rfl
  rw [steps, bind_eq_ok_iff]
  constructor
  · rintro ⟨count, middle, begun, returned⟩
    rw [u32_eq_ok_iff] at begun
    subst begun
    split_ifs at returned with many
    · cases returned
    · cases returned
      exact ⟨by omega, by rw [UInt32.ofNat_toNat]⟩
  · rintro ⟨few, rfl⟩
    have width : (UInt32.ofNat n).toNat = n := by
      rw [UInt32.toNat_ofNat', Nat.mod_eq_of_lt (by omega)]
    refine ⟨_, rest, u32_eq_ok_iff.mpr rfl, ?_⟩
    rw [width, if_neg (by omega)]
    rfl

/-- A counted list, and what follows it. -/
theorem accepts_counted {α δ : Type} {read : ReaderM α} {next : Nat → List α → ReaderM δ}
    {language language' : Language UInt8} {bound : Nat} {detail : String}
    (small : bound < 2 ^ 32) (item : Accepts read language)
    (rest : ∀ n items, Accepts (next n items) language') :
    Accepts (readCount bound detail >>= fun n => many read n >>= next n)
      (counted bound language * language') := by
  intro ahead left
  have items : ∀ n, Accepts (many read n >>= next n) (language ^ n * language') := fun n =>
    (accepts_many item n).bind (rest n)
  constructor
  · rintro ⟨result, returned⟩
    obtain ⟨n, middle, begun, ended⟩ := bind_eq_ok_iff.mp returned
    obtain ⟨few, rfl⟩ := (readCount_eq_ok_iff small).mp begun
    obtain ⟨_, member, rfl⟩ := (items n _ _).mp ⟨result, ended⟩
    obtain ⟨code, listed, code', after, rfl⟩ := Language.mem_mul.mp member
    refine ⟨_, Language.append_mem_mul ⟨n, few, code, listed, rfl⟩ after, ?_⟩
    simp only [List.append_assoc]
  · rintro ⟨_, member, rfl⟩
    obtain ⟨_, ⟨n, few, code, listed, rfl⟩, code', after, rfl⟩ := Language.mem_mul.mp member
    obtain ⟨result, ended⟩ := (items n _ left).mpr
      ⟨code ++ code', Language.append_mem_mul listed after, rfl⟩
    refine ⟨result, bind_eq_ok_iff.mpr ⟨n, _, (readCount_eq_ok_iff small).mpr ⟨few, ?_⟩, ended⟩⟩
    simp only [List.append_assoc]

end DPUFabric.Wire
