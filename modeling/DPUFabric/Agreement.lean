import DPUFabric.Format
import DPUFabric.Library.Codec

/-!
# The writer and the reader agree on every record

Each writer of `DPUFabric.Save` agrees with its reader: the theorem of a record
names its size on disk, the strings that have to be short enough to be written,
and what the reader checks.
-/

namespace DPUFabric.Persistence

open Std
open Codec
open DPUFabric.Wire

/-- A record writer and a record reader agree; counts take four bytes. -/
abbrev Codes {α : Type} (write : WriterM Unit) (read : ReaderM α) (size : Nat)
    (fits valid : Prop) (value : α) : Prop :=
  Agrees (2 ^ 32) write read size fits valid value id

/-! ## Numbers -/

/-- One byte of a number. -/
theorem toNat_byte (v s : UInt32) (inside : s.toNat < 32) :
    ((v >>> s) &&& 0xFF).toUInt8.toNat = v.toNat / 2 ^ s.toNat % 256 := by
  have low : (0xFF : UInt32).toNat = 2 ^ 8 - 1 := rfl
  rw [UInt32.toNat_toUInt8, UInt32.toNat_and, low, Nat.and_two_pow_sub_one_eq_mod,
    UInt32.toNat_shiftRight, Nat.shiftRight_eq_div_pow, Nat.mod_eq_of_lt inside]
  omega

theorem littleEndian_le32 (v : UInt32) : littleEndian (le32 v) = v.toNat := by
  have bound := v.toNat_lt
  have byte0 : (v &&& 0xFF).toUInt8.toNat = v.toNat % 256 := by
    have byte := toNat_byte v 0 (by decide)
    simpa using byte
  have byte1 : ((v >>> 8) &&& 0xFF).toUInt8.toNat = v.toNat / 256 % 256 :=
    toNat_byte v 8 (by decide)
  have byte2 : ((v >>> 16) &&& 0xFF).toUInt8.toNat = v.toNat / 65536 % 256 :=
    toNat_byte v 16 (by decide)
  have byte3 : ((v >>> 24) &&& 0xFF).toUInt8.toNat = v.toNat / 16777216 % 256 :=
    toNat_byte v 24 (by decide)
  simp only [le32, littleEndian, List.foldr, byte0, byte1, byte2, byte3]
  omega

theorem length_le16 (v : UInt16) : (le16 v).length = 2 :=
  rfl

theorem length_le32 (v : UInt32) : (le32 v).length = 4 :=
  rfl

theorem littleEndian_le16 (v : UInt16) : littleEndian (le16 v) = v.toNat := by
  have bound := v.toNat_lt
  have low : (0xFF : UInt16).toNat = 2 ^ 8 - 1 := rfl
  have byte0 : (v &&& 0xFF).toUInt8.toNat = v.toNat % 256 := by
    rw [UInt16.toNat_toUInt8, UInt16.toNat_and, low, Nat.and_two_pow_sub_one_eq_mod]
    omega
  have shift : (8 : UInt16).toNat % 16 = 8 := rfl
  have byte1 : ((v >>> 8) &&& 0xFF).toUInt8.toNat = v.toNat / 256 % 256 := by
    rw [UInt16.toNat_toUInt8, UInt16.toNat_and, low, Nat.and_two_pow_sub_one_eq_mod,
      UInt16.toNat_shiftRight, Nat.shiftRight_eq_div_pow, shift]
    omega
  simp only [le16, littleEndian, List.foldr, byte0, byte1]
  omega

theorem littleEndian_append (low high : List UInt8) :
    littleEndian (low ++ high) = littleEndian low + 256 ^ low.length * littleEndian high := by
  induction low with
  | nil => simp [littleEndian]
  | cons byte rest ih =>
      change byte.toNat + 256 * littleEndian (rest ++ high) =
        byte.toNat + 256 * littleEndian rest + _
      rw [ih, List.length_cons, pow_succ]
      ring

/-- Two halves of a 32-bit number. -/
theorem halves32 (v : UInt32) :
    (v &&& 0xFFFF).toUInt16.toNat + 2 ^ 16 * ((v >>> 16) &&& 0xFFFF).toUInt16.toNat =
      v.toNat := by
  have bound := v.toNat_lt
  have low : (0xFFFF : UInt32).toNat = 2 ^ 16 - 1 := rfl
  have shift : (16 : UInt32).toNat % 32 = 16 := rfl
  rw [UInt32.toNat_toUInt16, UInt32.toNat_toUInt16, UInt32.toNat_and, UInt32.toNat_and, low,
    Nat.and_two_pow_sub_one_eq_mod, Nat.and_two_pow_sub_one_eq_mod, UInt32.toNat_shiftRight,
    Nat.shiftRight_eq_div_pow, shift]
  omega

/-- Two halves of a 64-bit number. -/
theorem halves64 (v : UInt64) :
    (v &&& 0xFFFFFFFF).toUInt32.toNat + 2 ^ 32 * ((v >>> 32) &&& 0xFFFFFFFF).toUInt32.toNat =
      v.toNat := by
  have bound := v.toNat_lt
  have low : (0xFFFFFFFF : UInt64).toNat = 2 ^ 32 - 1 := rfl
  have shift : (32 : UInt64).toNat % 64 = 32 := rfl
  rw [UInt64.toNat_toUInt32, UInt64.toNat_toUInt32, UInt64.toNat_and, UInt64.toNat_and, low,
    Nat.and_two_pow_sub_one_eq_mod, Nat.and_two_pow_sub_one_eq_mod, UInt64.toNat_shiftRight,
    Nat.shiftRight_eq_div_pow, shift]
  omega

/-! ## Writes and reads of numbers -/

theorem raw_writes (s : List UInt8) : Writes (Writer.raw s) s True where
  appends := fun _ _ => rfl
  throws := fun unfit => (unfit trivial).elim

theorem u8_writes (v : UInt8) : Writes (Writer.u8 v) [v] True :=
  raw_writes [v]

theorem u16_writes (v : UInt16) : Writes (Writer.u16 v) (le16 v) True := by
  have both := (u8_writes (v &&& 0xFF).toUInt8).bind (u8_writes ((v >>> 8) &&& 0xFF).toUInt8)
  rw [and_true] at both
  exact both

theorem u32_writes (v : UInt32) :
    Writes (Writer.u32 v)
      (le16 (v &&& 0xFFFF).toUInt16 ++ le16 ((v >>> 16) &&& 0xFFFF).toUInt16) True := by
  have both := (u16_writes (v &&& 0xFFFF).toUInt16).bind
    (u16_writes ((v >>> 16) &&& 0xFFFF).toUInt16)
  rw [and_true] at both
  exact both

/-- Bytes that are ahead are taken. -/
theorem take_reads (code : List UInt8) {n : Nat} (length : code.length = n) :
    Reads (take n) code True code id where
  accepts := by
    intro _ rest _
    change take n (code ++ rest) = .ok code rest
    rw [take, if_neg (by simp [length]), ← length]
    simp
  refuses := fun invalid => (invalid trivial).elim

theorem codes_u8 (v : UInt8) : Codes (Writer.u8 v) u8 1 True True v := by
  refine ⟨[v], rfl, u8_writes v, fun _ _ => ?_⟩
  have read : Reads u8 ([v] ++ []) (True ∧ True) (UInt8.ofNat (littleEndian [v])) (id ∘ id) :=
    (take_reads [v] rfl).bind (.pure _)
  have same : UInt8.ofNat (littleEndian [v]) = v := by simp [littleEndian]
  rw [same, and_true, List.append_nil] at read
  exact read

theorem codes_u32 (v : UInt32) : Codes (Writer.u32 v) u32 4 True True v := by
  refine ⟨_, rfl, u32_writes v, fun _ _ => ?_⟩
  generalize coded : le16 (v &&& 0xFFFF).toUInt16 ++ le16 ((v >>> 16) &&& 0xFFFF).toUInt16 = code
  have length : code.length = 4 := by rw [← coded]; rfl
  have read : Reads u32 (code ++ []) (True ∧ True) (UInt32.ofNat (littleEndian code))
      (id ∘ id) :=
    (take_reads code length).bind (.pure _)
  have same : UInt32.ofNat (littleEndian code) = v := by
    have square : 256 ^ 2 = 2 ^ 16 := by norm_num
    rw [← coded, littleEndian_append, littleEndian_le16, littleEndian_le16, length_le16,
      square, halves32, UInt32.ofNat_toNat]
  rw [same, and_true, List.append_nil] at read
  exact read

theorem codes_u64 (v : UInt64) : Codes (Writer.u64 v) u64 8 True True v := by
  unfold Writer.u64 u64
  refine Agrees.congr (.bind (codes_u32 _) (.last (codes_u32 _) _)) rfl (by simp) (by simp) ?_
  intro _
  rw [halves64, UInt64.ofNat_toNat]

theorem codes_i32 (v : Int32) : Codes (Writer.i32 v) i32 4 True True v :=
  (codes_u32 v.toUInt32).last UInt32.toInt32

theorem codes_id {tag : IdTag} (id : Id tag) : Codes (writeId id) readId 8 True True id :=
  (codes_u64 id.value).last Id.mk

theorem codes_flag (b : Bool) : Codes (Writer.flag b) flag 1 True True b := by
  unfold Writer.flag flag
  refine Agrees.congr (.last (codes_u8 _) _) rfl .rfl .rfl ?_
  intro _
  cases b <;> rfl

/-- A string is written and read when it is at most `kMaxStringBytes` long. -/
theorem codes_str (s : Text) :
    Codes (Writer.str s) str (4 + s.length) (s.length ≤ kMaxStringBytes) True s := by
  rcases codes_u32 (UInt32.ofNat s.length) with ⟨code, size, writes, reads⟩
  refine ⟨code ++ s, by rw [List.length_append, size], ⟨?_, ?_⟩, ?_⟩
  · intro fit buffer
    have guarded : Writer.str s =
        Writer.u32 (UInt32.ofNat s.length) >>= fun _ => Writer.raw s := by
      rw [Writer.str, if_neg (by omega)]
    rw [guarded]
    exact (writes.bind (raw_writes s)).appends ⟨trivial, trivial⟩ buffer
  · intro unfit buffer
    rw [Writer.str, if_pos (by omega)]
    exact ⟨_, buffer, rfl⟩
  · intro fit _
    have small : s.length < 2 ^ 32 := by
      have bound : kMaxStringBytes < 2 ^ 32 := by decide
      omega
    have length : s.length = (UInt32.ofNat s.length).toNat := by
      rw [UInt32.toNat_ofNat', Nat.mod_eq_of_lt small]
    have both : Reads (u32 >>= fun len =>
        if len.toNat > kMaxStringBytes then
          throw (.error .invalidArgument "string length exceeds bound")
        else take len.toNat) (code ++ s) (True ∧ True) s (id ∘ id) := by
      refine (reads trivial (by decide)).bind ?_
      rw [if_neg (by omega)]
      exact take_reads s length
    rw [and_true] at both
    exact both

/-! ## Enumerations and keys -/

theorem ofCode?_code {E : Type} [Enumerator E] [DecidableEq E]
    (small : (Enumerator.all (E := E)).length < 256) (value : E) :
    Enumerator.ofCode? (Enumerator.code value) = some value := by
  have place := List.idxOf_lt_length_of_mem (Enumerator.mem_all value)
  have written : (Enumerator.code value).toNat = Enumerator.all.idxOf value + 1 := by
    rw [Enumerator.code, UInt8.toNat_ofNat']
    exact Nat.mod_eq_of_lt (by omega)
  have nonzero : Enumerator.code value ≠ 0 := by
    intro zero
    rw [zero] at written
    simp at written
  rw [Enumerator.ofCode?, if_neg nonzero, written, Nat.add_sub_cancel,
    List.getElem?_eq_getElem place, List.getElem_idxOf place]

theorem ofCode_code {E : Type} [Enumerator E] [DecidableEq E]
    (small : (Enumerator.all (E := E)).length < 256) (raw : RawEnum E) :
    RawEnum.ofCode raw.code = raw := by
  cases raw with
  | declared value =>
      have found := ofCode?_code small value
      simp only [RawEnum.code, RawEnum.ofCode]
      split
      · rename_i other found'
        rw [found] at found'
        cases found'
        rfl
      · rename_i missing
        rw [found] at missing
        cases missing
  | undeclared code outside =>
      simp only [RawEnum.code, RawEnum.ofCode]
      split
      · rename_i other found
        rw [outside] at found
        cases found
      · rfl

/-- A raw enumeration field keeps any byte. -/
theorem codes_enum {E : Type} [Enumerator E] [DecidableEq E] (raw : RawEnum E)
    (small : (Enumerator.all (E := E)).length < 256 := by decide) :
    Codes (writeEnum raw) readEnum 1 True True raw :=
  Agrees.congr (.last (codes_u8 raw.code) RawEnum.ofCode) rfl .rfl .rfl
    fun _ => ofCode_code small raw

/-- A checked enumeration field keeps the declared values only. -/
theorem codes_declared {E : Type} [Enumerator E] [DecidableEq E] (raw : RawEnum E)
    (other : E) (detail : String)
    (small : (Enumerator.all (E := E)).length < 256 := by decide) :
    Codes (writeEnum raw) (readDeclared detail) 1 True (raw.isDeclared = true)
      (raw.getD other) := by
  refine Agrees.congr (.check (codes_u8 raw.code) _ ?_) rfl .rfl (Iff.of_eq (true_and _))
    fun _ => rfl
  cases raw with
  | declared value =>
      rw [RawEnum.code, ofCode?_code small]
      exact (Reads.pure value).congr (by simp [RawEnum.isDeclared])
  | undeclared code outside =>
      rw [RawEnum.code, outside]
      exact (Reads.throw _ other).congr (by simp [RawEnum.isDeclared])

/-- A key is read back unless it is the default-constructed one. -/
theorem codes_key (key : CapabilityKey) :
    Codes (writeKey key) readKey (4 + key.value.length) True (isValidKey key.value = true)
      key := by
  have short : key.value.length ≤ kMaxStringBytes := by
    have bound : 64 ≤ kMaxStringBytes := by decide
    rcases key.wellFormed with empty | valid
    · rw [empty]
      exact Nat.zero_le _
    · simp only [isValidKey, Bool.and_eq_true, decide_eq_true_eq] at valid
      omega
  refine Agrees.congr (.check (codes_str key.value) _ ?_) rfl (iff_true_intro short)
    (Iff.of_eq (true_and _)) fun _ => rfl
  by_cases valid : isValidKey key.value = true
  · rw [CapabilityKey.ofText, dif_pos valid]
    exact (Reads.pure key).congr (by simp [valid])
  · rw [CapabilityKey.ofText, dif_neg valid]
    exact (Reads.throw _ key).congr (by simp [valid])

/-! ## Lists -/

/-- Element after element, as many as were written, each as the reader makes it. -/
theorem codes_manyAs {α β : Type} {write : α → WriterM Unit} {read : ReaderM β}
    {size : α → Nat} {fits valid : α → Prop} (asRead : α → β) {elements : List α}
    (each : ∀ x ∈ elements, Codes (write x) read (size x) (fits x) (valid x) (asRead x)) :
    Codes (elements.forM write) (many read elements.length) (elements.map size).sum
      (∀ x ∈ elements, fits x) (∀ x ∈ elements, valid x) (elements.map asRead) := by
  induction elements with
  | nil => exact (Agrees.pure []).congr rfl (by simp) (by simp) fun _ => rfl
  | cons head tail ih =>
      have rest := ih fun x member => each x (List.mem_cons_of_mem head member)
      refine Agrees.congr (.bind (each head List.mem_cons_self) (.last rest (asRead head :: ·)))
        (by simp) (by simp) (by simp) fun _ => rfl

/-- The same where the reader makes of each element what was written. -/
theorem codes_many {α : Type} {write : α → WriterM Unit} {read : ReaderM α}
    {size : α → Nat} {fits valid : α → Prop} {elements : List α}
    (each : ∀ x ∈ elements, Codes (write x) read (size x) (fits x) (valid x) x) :
    Codes (elements.forM write) (many read elements.length) (elements.map size).sum
      (∀ x ∈ elements, fits x) (∀ x ∈ elements, valid x) elements :=
  (codes_manyAs (fun x => x) each).congr rfl .rfl .rfl fun _ => List.map_id' elements

/-- A count that fits in its four bytes is read back unless it exceeds the bound. -/
theorem codes_count {n : Nat} (small : n < 2 ^ 32) (bound : Nat) (detail : String) :
    Codes (Writer.u32 (UInt32.ofNat n)) (readCount bound detail) 4 True (n ≤ bound) n := by
  have unwrapped : (UInt32.ofNat n).toNat = n := by
    rw [UInt32.toNat_ofNat', Nat.mod_eq_of_lt small]
  refine Agrees.congr (.check (codes_u32 _) _ ?_) rfl .rfl (Iff.of_eq (true_and _)) fun _ => rfl
  rw [unwrapped]
  by_cases inside : n ≤ bound
  · rw [if_neg (by omega)]
    exact (Reads.pure n).congr (by simp [inside])
  · rw [if_pos (by omega)]
    exact (Reads.throw _ n).congr (by simp [inside])

/--
A count in front of its elements.  Elements take at least one byte each, so a
count that does not fit in four bytes stands in front of a code over the limit.
-/
theorem counted_agrees {σ γ α δ : Type} [Input UInt8 γ σ] {write : α → WriterM Unit}
    {elements : List α} {count : EStateM Fault σ Nat} {loop : Nat → EStateM Fault σ δ}
    {size bound : Nat} {fits valid : Prop} {value : δ} {effect : γ → γ}
    (counts : elements.length < 2 ^ 32 →
      Agrees (2 ^ 32) (Writer.u32 (UInt32.ofNat elements.length)) count 4 True
        (elements.length ≤ bound) elements.length id)
    (listed : Agrees (2 ^ 32) (elements.forM write) (loop elements.length) size fits valid
      value effect)
    (nonempty : elements.length ≤ size) :
    Agrees (2 ^ 32) (Writer.counted write elements) (count >>= loop) (4 + size) fits
      (elements.length ≤ bound ∧ valid) value effect := by
  by_cases small : 4 + size < 2 ^ 32
  · exact ((counts (by omega)).bind listed).congr rfl (by simp) .rfl fun _ => rfl
  · rcases codes_u32 (UInt32.ofNat elements.length) with ⟨code, width, writes, -⟩
    rcases listed with ⟨code', width', writes', -⟩
    have both := writes.bind writes'
    rw [true_and] at both
    exact ⟨code ++ code', by rw [List.length_append, width, width'], both,
      fun _ smaller => absurd smaller small⟩

theorem length_le_sum {α : Type} {size : α → Nat} (elements : List α)
    (nonempty : ∀ x, 0 < size x) : elements.length ≤ (elements.map size).sum := by
  have atLeast := List.length_le_sum_of_one_le (elements.map size) (by
    rintro entry member
    rcases List.mem_map.mp member with ⟨x, _, rfl⟩
    exact nonempty x)
  rwa [List.length_map] at atLeast

/-- A count of at most `bound` elements and the elements, each of at least one byte. -/
theorem codes_countedAs {α β : Type} {write : α → WriterM Unit} {read : ReaderM β}
    {size : α → Nat} {fits valid : α → Prop} (asRead : α → β) (elements : List α) (bound : Nat)
    (detail : String)
    (each : ∀ x, Codes (write x) read (size x) (fits x) (valid x) (asRead x))
    (nonempty : ∀ x, 0 < size x) :
    Codes (Writer.counted write elements)
      (readCount bound detail >>= fun n => many read n) (4 + (elements.map size).sum)
      (∀ x ∈ elements, fits x)
      (elements.length ≤ bound ∧ ∀ x ∈ elements, valid x) (elements.map asRead) :=
  counted_agrees (fun small => codes_count small bound detail)
    (codes_manyAs asRead fun x _ => each x) (length_le_sum elements nonempty)

theorem codes_counted {α : Type} {write : α → WriterM Unit} {read : ReaderM α}
    {size : α → Nat} {fits valid : α → Prop} (elements : List α) (bound : Nat)
    (detail : String)
    (each : ∀ x, Codes (write x) read (size x) (fits x) (valid x) x)
    (nonempty : ∀ x, 0 < size x) :
    Codes (Writer.counted write elements)
      (readCount bound detail >>= fun n => many read n) (4 + (elements.map size).sum)
      (∀ x ∈ elements, fits x)
      (elements.length ≤ bound ∧ ∀ x ∈ elements, valid x) elements :=
  (codes_countedAs (fun x => x) elements bound detail each nonempty).congr rfl .rfl .rfl
    fun _ => List.map_id' elements

/-- The same for elements of a fixed size that always survive. -/
theorem codes_plain {α : Type} {write : α → WriterM Unit} {read : ReaderM α} {size : Nat}
    (elements : List α) (bound : Nat) (detail : String)
    (each : ∀ x, Codes (write x) read size True True x) (nonempty : 0 < size) :
    Codes (Writer.counted write elements)
      (readCount bound detail >>= fun n => many read n) (4 + size * elements.length)
      True (elements.length ≤ bound) elements :=
  (codes_counted elements bound detail each fun _ => nonempty).congr
    (by simp [mul_comm]) (by simp) (by simp) fun _ => rfl

/-! ## Records -/

theorem codes_sha (a : Vector UInt8 32) : Codes (writeSha a) readSha 32 True True a := by
  have listed : Codes (a.toList.forM Writer.u8) (many u8 a.toList.length)
      (a.toList.map fun _ => 1).sum (∀ x ∈ a.toList, True) (∀ x ∈ a.toList, True) a.toList :=
    codes_many fun x _ => codes_u8 x
  have length : a.toList.length = 32 := by simp
  rw [length] at listed
  refine Agrees.congr (.last listed _) (by simp) (by simp) (by simp) fun _ => ?_
  apply Vector.ext
  intro i inside
  simp

theorem codes_cap (c : Capability) :
    Codes (writeCap c) readCap c.encodedSize (IsShort c.detail) c.Storable c := by
  unfold writeCap readCap
  refine Agrees.congr
    (.bind (codes_key _) <| .bind (codes_declared _ .unknown _) <| .bind (codes_id _) <|
      .bind (codes_u64 _) <| .bind (codes_id _) <| .bind (codes_id _) <|
      .bind (codes_u64 _) <| .bind (codes_flag _) <| .bind (codes_enum _) <|
      .last (codes_str _) _)
    ?_ ?_ ?_ ?_
  · simp only [Capability.encodedSize]
    omega
  · simp only [true_and, IsShort]
  · simp only [and_true]
    exact ⟨fun ⟨key, state⟩ => ⟨key, state⟩, fun storable => ⟨storable.key, storable.state⟩⟩
  · rintro ⟨-, known, -⟩
    rw [RawEnum.declared_getD known]

theorem codes_capreq (cr : CapabilityRequirement) :
    Codes (writeCapreq cr) readCapreq cr.encodedSize True cr.Storable cr := by
  unfold writeCapreq readCapreq
  refine Agrees.congr
    (.bind (codes_key _) <| .bind (codes_flag _) <| .last (codes_u64 _) _) ?_ ?_ ?_ ?_
  · simp only [CapabilityRequirement.encodedSize]
    omega
  · simp only [and_true]
  · simp only [and_true, CapabilityRequirement.Storable]
  · intro _
    rfl

theorem codes_resourceReq (rr : ResourceRequest) :
    Codes (writeResourceReq rr) readResourceReq 40 True True rr := by
  unfold writeResourceReq readResourceReq
  exact Agrees.congr
    (.bind (codes_u64 _) <| .bind (codes_u64 _) <| .bind (codes_u64 _) <|
      .bind (codes_u64 _) <| .last (codes_u64 _) _)
    rfl (by simp) (by simp) fun _ => rfl

theorem codes_resourceCap (p : ResourceProfile) :
    Codes (writeResourceCap p) readResourceCap 40 True True p := by
  unfold writeResourceCap readResourceCap
  exact Agrees.congr
    (.bind (codes_u64 _) <| .bind (codes_u64 _) <| .bind (codes_u64 _) <|
      .bind (codes_u64 _) <| .last (codes_u64 _) _)
    rfl (by simp) (by simp) fun _ => rfl

theorem codes_usage (u : Usage) : Codes (writeUsage u) readUsage 40 True True u := by
  unfold writeUsage readUsage
  exact Agrees.congr
    (.bind (codes_u64 _) <| .bind (codes_u64 _) <| .bind (codes_u64 _) <|
      .bind (codes_u64 _) <| .last (codes_u64 _) _)
    rfl (by simp) (by simp) fun _ => rfl

theorem codes_isolation (iso : IsolationSpec) :
    Codes (writeIsolation iso) readIsolation iso.encodedSize
      (IsShort iso.trustDomain ∧ IsShort iso.securityDomain) True iso := by
  unfold writeIsolation readIsolation
  refine Agrees.congr
    (.bind (codes_enum _) <| .bind (codes_id _) <| .bind (codes_id _) <|
      .bind (codes_str _) <| .bind (codes_str _) <| .last (codes_enum _) _)
    ?_ ?_ ?_ ?_
  · simp only [IsolationSpec.encodedSize]
    omega
  · simp only [true_and, and_true, IsShort]
  · simp only [and_true]
  · intro _
    rfl

theorem codes_device (d : DeviceRecord) :
    Codes (writeDevice d) readDevice d.encodedSize d.Writable d.Storable d.rekeyed := by
  unfold writeDevice readDevice
  refine Agrees.congr
    (.bind (codes_id _) <| .bind (codes_id _) <| .bind (codes_id _) <|
      .bind (codes_str _) <| .bind (codes_str _) <| .bind (codes_declared _ .unknownDevice _) <|
      .bind (codes_str _) <| .bind (codes_str _) <| .bind (codes_id _) <|
      .bind (codes_str _) <| .bind (codes_id _) <| .bind (codes_str _) <|
      .bind (codes_id _) <| .bind (codes_str _) <|
      .bind (codes_u64 _) <| .bind (codes_u64 _) <| .bind (codes_u64 _) <|
      .bind (codes_resourceCap _) <|
      .bindNested (codes_plain d.ports _ _ codes_id (by decide)) <|
      .bindNested (codes_plain d.functions _ _ codes_id (by decide)) <|
      .bindNested (codes_counted d.capabilities.records _ _ codes_cap fun c => by
        simp only [Capability.encodedSize]; omega) <|
      .bindNested (codes_plain d.offloadClasses _ _ (codes_enum ·) (by decide)) <|
      .bindNested (codes_plain d.executionModels _ _ (codes_enum ·) (by decide)) <|
      .bindNested (codes_counted d.programFormats _ _ codes_str fun s => by omega) <|
      .bind (codes_flag _) <| .bind (codes_flag _) <| .bind (codes_str _) <|
      .bind (codes_flag _) <| .bind (codes_id _) <| .bind (codes_id _) <|
      .bind (codes_flag _) <| .bind (codes_enum _) <| .bind (codes_declared _ .unknown _) <|
      .bind (codes_declared _ .discovered _) <| .bind (codes_enum _) <| .bind (codes_id _) <|
      .bind (codes_flag _) <| .bind (codes_str _) <| .bind (codes_id _) <|
      .last (codes_id _) _)
    ?_ ?_ ?_ ?_
  · simp only [DeviceRecord.encodedSize, lengths, DeviceRecord.labels, List.map_cons,
      List.map_nil, List.sum_cons, List.sum_nil]
    omega
  · simp only [true_and, and_true]
    constructor
    · rintro ⟨vendor, model, pci, parent, firmware, runtime, architecture, capabilities,
        formats, host, detail⟩
      refine ⟨?_, capabilities, formats⟩
      simp only [DeviceRecord.labels, List.forall_mem_cons]
      exact ⟨vendor, model, pci, parent, firmware, runtime, architecture, host, detail,
        List.forall_mem_nil _⟩
    · rintro ⟨labels, capabilities, formats⟩
      simp only [DeviceRecord.labels, List.forall_mem_cons] at labels
      rcases labels with ⟨vendor, model, pci, parent, firmware, runtime, architecture, host,
        detail, -⟩
      exact ⟨vendor, model, pci, parent, firmware, runtime, architecture, capabilities,
        formats, host, detail⟩
  · simp only [true_and, and_true]
    constructor
    · rintro ⟨deviceClass, ports, functions, ⟨count, capabilities⟩, classes, models,
        ⟨formats, -⟩, health, lifecycle⟩
      exact ⟨deviceClass, ports, functions, count, capabilities, classes, models, formats,
        health, lifecycle⟩
    · rintro ⟨deviceClass, ports, functions, count, capabilities, classes, models, formats,
        health, lifecycle⟩
      exact ⟨deviceClass, ports, functions, ⟨count, capabilities⟩, classes, models,
        ⟨formats, fun _ _ => trivial⟩, health, lifecycle⟩
  · simp only [true_and, and_true]
    rintro ⟨deviceClass, -, -, -, -, -, -, health, lifecycle⟩
    rw [RawEnum.declared_getD deviceClass, RawEnum.declared_getD health,
      RawEnum.declared_getD lifecycle]
    rfl

theorem codes_service (s : ServiceDefinition) :
    Codes (writeService s) readService s.encodedSize s.Writable s.Storable s := by
  have positive : ∀ cr : CapabilityRequirement, 0 < cr.encodedSize := by
    intro cr
    simp only [CapabilityRequirement.encodedSize]
    omega
  unfold writeService readService
  refine Agrees.congr
    (.bind (codes_id _) <| .bind (codes_id _) <|
      .bind (codes_declared (.declared s.offloadClass) s.offloadClass _) <|
      .bindNested (codes_counted s.requiredCaps _ _ codes_capreq positive) <|
      .bindNested (codes_counted s.optionalCaps _ _ codes_capreq positive) <|
      .bind (codes_isolation _) <| .bind (codes_resourceReq _) <| .bind (codes_enum _) <|
      .bind (codes_id _) <| .bind (codes_id _) <| .bind (codes_id _) <|
      .bind (codes_str _) <| .bind (codes_enum _) <| .bind (codes_flag _) <|
      .bindNested (codes_plain s.allowedFallbackClasses _ _ (codes_enum ·) (by decide)) <|
      .bind (codes_str _) <|
      .lastNested (codes_plain s.dependencies _ _ codes_id (by decide)) _)
    ?_ ?_ ?_ ?_
  · simp only [ServiceDefinition.encodedSize, IsolationSpec.encodedSize, lengths,
      ServiceDefinition.labels, List.map_cons, List.map_nil, List.sum_cons, List.sum_nil]
    omega
  · simp only [true_and, and_true, imp_true_iff]
    constructor
    · rintro ⟨⟨trust, security⟩, abi, failure⟩
      simp only [ServiceDefinition.Writable, ServiceDefinition.labels, List.forall_mem_cons]
      exact ⟨trust, security, abi, failure, List.forall_mem_nil _⟩
    · intro labels
      simp only [ServiceDefinition.Writable, ServiceDefinition.labels,
        List.forall_mem_cons] at labels
      rcases labels with ⟨trust, security, abi, failure, -⟩
      exact ⟨⟨trust, security⟩, abi, failure⟩
  · simp only [true_and, RawEnum.isDeclared]
    constructor
    · rintro ⟨⟨requiredCount, required⟩, ⟨optionalCount, optional⟩, fallback, dependencies⟩
      exact ⟨requiredCount, required, optionalCount, optional, fallback, dependencies⟩
    · rintro ⟨requiredCount, required, optionalCount, optional, fallback, dependencies⟩
      exact ⟨⟨requiredCount, required⟩, ⟨optionalCount, optional⟩, fallback, dependencies⟩
  · intro _
    rfl

theorem codes_program (p : ProgramArtifact) :
    Codes (writeProgram p) readProgram p.encodedSize p.Writable p.Storable p := by
  unfold writeProgram readProgram
  refine Agrees.congr
    (.bind (codes_id _) <| .bind (codes_id _) <| .bind (codes_id _) <| .bind (codes_id _) <|
      .bind (codes_enum _) <| .bind (codes_str _) <| .bind (codes_sha _) <|
      .bind (codes_str _) <| .bind (codes_str _) <|
      .bindNested (codes_counted p.requiredCaps _ _ codes_capreq fun cr => by
        simp only [CapabilityRequirement.encodedSize]; omega) <|
      .bind (codes_id _) <| .bind (codes_str _) <| .last (codes_str _) _)
    ?_ ?_ ?_ ?_
  · simp only [ProgramArtifact.encodedSize, lengths, ProgramArtifact.labels, List.map_cons,
      List.map_nil, List.sum_cons, List.sum_nil]
    omega
  · simp only [true_and, imp_true_iff, ProgramArtifact.Writable,
      ProgramArtifact.labels, List.forall_mem_cons, IsShort]
    constructor
    · rintro ⟨version, architecture, abi, provenance, hint⟩
      exact ⟨version, architecture, abi, provenance, hint, List.forall_mem_nil _⟩
    · rintro ⟨version, architecture, abi, provenance, hint, -⟩
      exact ⟨version, architecture, abi, provenance, hint⟩
  · simp only [true_and, and_true]
    exact ⟨fun ⟨count, required⟩ => ⟨count, required⟩,
      fun storable => ⟨storable.requiredCount, storable.required⟩⟩
  · intro _
    rfl

/-- The link of a deployment, behind its flag. -/
theorem codes_link (activation : Option ActivationId) :
    Codes (writeLink activation)
      (if activation.isSome then some <$> readId else pure none)
      (activation.elim 0 fun _ => 8) True True activation := by
  cases activation with
  | none => exact .pure none
  | some aid =>
      have linked : (some <$> readId : ReaderM (Option ActivationId)) =
          readId >>= fun aid => pure (some aid) := (bind_pure_comp some readId).symm
      change Codes (writeId aid) (some <$> readId) 8 True True (some aid)
      rw [linked]
      exact (codes_id aid).last some

/-- The link in front of the rest, in the branches the reader has for it. -/
theorem bindLink {α : Type} (activation : Option ActivationId) {write : WriterM Unit}
    {next : Option ActivationId → ReaderM α} {size : Nat} {fits valid : Prop} {value : α}
    (rest : Codes write (next activation) size fits valid value) :
    Codes (writeLink activation >>= fun _ => write)
      (if activation.isSome then (some <$> readId) >>= next else pure none >>= next)
      ((activation.elim 0 fun _ => 8) + size) fits valid value := by
  have both := (codes_link activation).bind rest
  simp only [true_and] at both
  cases activation with
  | none => exact both
  | some aid => exact both

theorem codes_deployment (d : Deployment) :
    Codes (writeDeployment d) readDeployment d.encodedSize True True d := by
  unfold writeDeployment readDeployment
  refine Agrees.congr
    (.bind (codes_id _) <| .bind (codes_id _) <| .bind (codes_id _) <| .bind (codes_id _) <|
      .bind (codes_id _) <| .bind (codes_id _) <| .bind (codes_id _) <| .bind (codes_id _) <|
      .bind (codes_id _) <| .bind (codes_id _) <| .bind (codes_id _) <| .bind (codes_id _) <|
      .bind (codes_id _) <| .bind (codes_id _) <| .bind (codes_resourceReq _) <|
      .bind (codes_declared (.declared d.state) d.state _) <| .bind (codes_flag _) <|
      bindLink d.activation <| .bind (codes_id _) <| .bind (codes_id _) <|
      .bind (codes_id _) <| .bind (codes_id _) <| .bind (codes_id _) <|
      .bind (codes_flag _) <| .bind (codes_u64 _) <| .last (codes_u64 _) _)
    ?_ ?_ ?_ ?_
  · simp only [Deployment.encodedSize]
    omega
  · simp only [and_true]
  · simp only [RawEnum.isDeclared, and_true]
  · intro _
    rfl

end DPUFabric.Persistence
