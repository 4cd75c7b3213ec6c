import DPUFabric.Identity
import DPUFabric.Library.Numeral

/-!
# Identities as text

`Id::encode` writes the sixteen lower-case hexadecimal digits of the value, and
`Id::decode` reads one to sixteen digits of either case.  The loop of `decode` tests
for an overflow before each multiplication.  After `k` digits the value is below
`16 ^ k`, so the test refuses nothing and nothing wraps.
-/

namespace DPUFabric

/-! ## The rules of a tag -/

/-- `std::numeric_limits<uint64_t>::max()`. -/
def maxUInt64 : UInt64 := 0xFFFFFFFFFFFFFFFF

/-- `IdTraits<Tag>::allow_zero`. -/
def IdTag.allowZero : IdTag → Bool
  | deviceGeneration | serviceGeneration | programGeneration | artifactGeneration
  | deploymentGeneration | activationGeneration | evidenceGeneration | policyGeneration
  | coordinatorEpoch | workerBoot | deviceBoot | firmwareGeneration | runtimeGeneration
  | bootGeneration | deploymentAttempt | capability => false
  | _ => true

/-- `IdTraits<Tag>::max_value`, which no tag lowers. -/
def IdTag.maxValue : IdTag → UInt64
  | _ => maxUInt64

namespace Id

variable {tag : IdTag}

def valid (id : Id tag) : Bool :=
  if !tag.allowZero && id.value == 0 then false
  else if tag.maxValue != maxUInt64 && id.value > tag.maxValue then false
  else true

/-- Only zero may be invalid. -/
theorem valid_eq_true_iff (id : Id tag) :
    id.valid = true ↔ tag.allowZero = true ∨ id.value ≠ 0 := by
  have unlimited : (tag.maxValue != maxUInt64) = false := bne_self_eq_false _
  rw [valid, unlimited]
  cases tag.allowZero <;> simp

/-! ## The codec -/

/-- A character literal; all of them are ASCII. -/
def byte (character : Char) : UInt8 := UInt8.ofNat character.toNat

/-- `digits` of `encode`. -/
def hexDigits : Text := text "0123456789abcdef"

/-- The loop of `encode`, with `i` positions to go: the last digit goes to the last of them. -/
def encodeDigits : Nat → UInt64 → Text → Text
  | 0, _, out => out
  | i + 1, v, out => encodeDigits i (v >>> 4) (out.set i (hexDigits.getD (v &&& 0xF).toNat 0))

def encode (id : Id tag) : Text := encodeDigits 16 id.value (List.replicate 16 (byte '0'))

/-- The branches of the loop of `decode`; a byte from 128 on is in none, `char` signed or not. -/
def digitValue (c : UInt8) : Option UInt64 :=
  if byte '0' ≤ c && c ≤ byte '9' then some (c - byte '0').toUInt64
  else if byte 'a' ≤ c && c ≤ byte 'f' then some (c - byte 'a' + 10).toUInt64
  else if byte 'A' ≤ c && c ≤ byte 'F' then some (c - byte 'A' + 10).toUInt64
  else none

/-- The loop of `decode`. -/
def decodeDigits (v : UInt64) : Text → Option UInt64
  | [] => some v
  | c :: rest => do
      let d ← digitValue c
      if v > (maxUInt64 - d) / 16 then none
      else decodeDigits (v * 16 + d) rest

def decode (sv : Text) : Option (Id tag) := do
  if sv.length > 16 then none
  else if sv.isEmpty then none
  else
    let v ← decodeDigits 0 sv
    let id : Id tag := ⟨v⟩
    if !id.valid then none else some id

/-! ## Hexadecimal numerals -/

/-- The character is the hexadecimal digit of this value, in lower or upper case. -/
def HexDigit (c : UInt8) (d : Nat) : Prop :=
  hexDigits[d]? = some c ∨ (text "0123456789ABCDEF")[d]? = some c

instance (c : UInt8) (d : Nat) : Decidable (HexDigit c d) :=
  inferInstanceAs (Decidable (_ ∨ _))

/-- The text is a hexadecimal numeral of this value. -/
def Spells (sv : Text) (n : Nat) : Prop :=
  ∃ digits, List.Forall₂ HexDigit sv digits ∧ n = Numeral.value 16 digits

theorem HexDigit.lt {c : UInt8} {d : Nat} (digit : HexDigit c d) : d < 16 := by
  rcases digit with lower | upper
  · exact (List.getElem?_eq_some_iff.mp lower).1
  · exact (List.getElem?_eq_some_iff.mp upper).1

theorem HexDigit.toNat_ofNat {c : UInt8} {d : Nat} (digit : HexDigit c d) :
    (UInt64.ofNat d).toNat = d := by
  have single := digit.lt
  rw [UInt64.toNat_ofNat', Nat.mod_eq_of_lt (by omega)]

/-- A digit is read with its value. -/
theorem HexDigit.digitValue {c : UInt8} {d : Nat} (digit : HexDigit c d) :
    digitValue c = some (UInt64.ofNat d) := by
  have lower : ∀ d < 16, Id.digitValue (hexDigits.getD d 0) = some (UInt64.ofNat d) := by
    decide
  have upper : ∀ d < 16,
      Id.digitValue ((text "0123456789ABCDEF").getD d 0) = some (UInt64.ofNat d) := by
    decide
  have single := digit.lt
  rcases digit with found | found
  · rw [← lower d single, List.getD_eq_getElem?_getD, found]
    rfl
  · rw [← upper d single, List.getD_eq_getElem?_getD, found]
    rfl

/-- Nothing but a digit is read. -/
theorem hexDigit_of_digitValue {c : UInt8} {d : UInt64} (read : digitValue c = some d) :
    HexDigit c d.toNat := by
  have digits : ∀ code < 256, (digitValue (UInt8.ofNat code)).all
      fun d => decide (HexDigit (UInt8.ofNat code) d.toNat) := by
    decide +kernel
  have digit := digits c.toNat c.toNat_lt
  rw [UInt8.ofNat_toNat, read, Option.all_some] at digit
  exact of_decide_eq_true digit

theorem hexDigits_lt {sv : Text} {digits : List Nat} (spelled : List.Forall₂ HexDigit sv digits) :
    ∀ d ∈ digits, d < 16 := by
  induction spelled with
  | nil => nofun
  | cons digit _ ih => exact List.forall_mem_cons.mpr ⟨digit.lt, ih⟩

/-! ## Writing -/

theorem toNat_shiftRight_four (v : UInt64) : (v >>> 4).toNat = v.toNat / 16 := by
  rw [UInt64.toNat_shiftRight, Nat.shiftRight_eq_div_pow]
  rfl

theorem toNat_and_fifteen (v : UInt64) : (v &&& 0xF).toNat = v.toNat % 16 := by
  rw [UInt64.toNat_and]
  exact Nat.and_two_pow_sub_one_eq_mod v.toNat 4

/-- The loop writes the last digits over the first positions. -/
theorem encodeDigits_eq (i : Nat) (v : UInt64) {out : Text} (within : i ≤ out.length) :
    encodeDigits i v out =
      (Numeral.lastDigits 16 i v.toNat).map (hexDigits.getD · 0) ++ out.drop i := by
  induction i generalizing v out with
  | zero => rfl
  | succ i ih =>
      have inside : i < out.length := within
      rw [encodeDigits, ih _ (by rw [List.length_set]; omega), toNat_shiftRight_four,
        toNat_and_fifteen, Numeral.lastDigits, List.map_append, List.append_assoc,
        List.set_eq_take_append_cons_drop, if_pos inside,
        List.drop_left' (List.length_take_of_le inside.le)]
      rfl

theorem encode_spells (id : Id tag) :
    List.Forall₂ HexDigit id.encode (Numeral.lastDigits 16 16 id.value.toNat) := by
  have lower : ∀ d < 16, hexDigits[d]? = some (hexDigits.getD d 0) := by
    decide
  rw [encode, encodeDigits_eq 16 _ (by decide), List.drop_eq_nil_of_le (by decide),
    List.append_nil, List.forall₂_map_left_iff]
  apply List.forall₂_same.mpr
  intro d listed
  exact Or.inl (lower d (Numeral.lastDigits_lt (by decide) _ _ d listed))

/-! ## Reading -/

/-- After fewer than sixteen digits the next one passes the test, and its step does not wrap. -/
theorem next_digit {before : List Nat} (bounded : ∀ d ∈ before, d < 16)
    (room : before.length < 16) {v : UInt64} (read : v.toNat = Numeral.value 16 before)
    {d : UInt64} (single : d.toNat < 16) :
    ¬ v > (maxUInt64 - d) / 16 ∧
      (v * 16 + d).toNat = v.toNat * 16 + d.toNat ∧
      (v * 16 + d).toNat = Numeral.value 16 (before ++ [d.toNat]) := by
  have limit : maxUInt64.toNat = 2 ^ 64 - 1 := rfl
  have small : v.toNat * 16 + d.toNat < 2 ^ 64 :=
    calc v.toNat * 16 + d.toNat
      _ = Numeral.value 16 (before ++ [d.toNat]) := by rw [Numeral.value_concat, read]
      _ < 16 ^ (before ++ [d.toNat]).length :=
        Numeral.value_lt (by decide)
          (List.forall_mem_append.mpr ⟨bounded, List.forall_mem_singleton.mpr single⟩)
      _ ≤ 16 ^ 16 := by
        apply Nat.pow_le_pow_right (by decide)
        rw [List.length_append, List.length_singleton]
        exact room
  have covered : d ≤ maxUInt64 := by
    rw [UInt64.le_iff_toNat_le]
    omega
  have step : (v * 16 + d).toNat = v.toNat * 16 + d.toNat := by
    rw [UInt64.toNat_add, UInt64.toNat_mul]
    show (v.toNat * 16 % 2 ^ 64 + d.toNat) % 2 ^ 64 = _
    omega
  refine ⟨?_, step, by rw [step, Numeral.value_concat, read]⟩
  have quotient : ((maxUInt64 - d) / 16).toNat = (maxUInt64.toNat - d.toNat) / 16 := by
    rw [UInt64.toNat_div, UInt64.toNat_sub_of_le _ _ covered]
    rfl
  rw [gt_iff_lt, UInt64.lt_iff_toNat_lt, quotient,
    Numeral.exceeds_iff (by decide) (by omega)]
  omega

/-- Digits that fit are all taken in. -/
theorem decodeDigits_spelled {sv : Text} {digits : List Nat}
    (spelled : List.Forall₂ HexDigit sv digits) {before : List Nat}
    (bounded : ∀ d ∈ before, d < 16) (short : before.length + sv.length ≤ 16) {v : UInt64}
    (read : v.toNat = Numeral.value 16 before) :
    ∃ w, decodeDigits v sv = some w ∧ w.toNat = Numeral.value 16 (before ++ digits) := by
  induction spelled generalizing before v with
  | nil => exact ⟨v, rfl, by rw [List.append_nil, read]⟩
  | @cons c d rest more digit _ ih =>
      rw [List.length_cons] at short
      have single : (UInt64.ofNat d).toNat < 16 := by
        rw [digit.toNat_ofNat]
        exact digit.lt
      obtain ⟨passes, -, step⟩ := next_digit bounded (by omega) read single
      rw [digit.toNat_ofNat] at step
      obtain ⟨w, rest_read, total⟩ :=
        ih (List.forall_mem_append.mpr ⟨bounded, List.forall_mem_singleton.mpr digit.lt⟩)
          (by rw [List.length_append, List.length_singleton]; omega) step
      refine ⟨w, ?_, by rw [total, List.append_assoc]; rfl⟩
      rw [decodeDigits, digit.digitValue, Option.bind_eq_bind, Option.bind_some, if_neg passes]
      exact rest_read

theorem decodeDigits_numeral {sv : Text} {digits : List Nat}
    (spelled : List.Forall₂ HexDigit sv digits) (short : sv.length ≤ 16) :
    ∃ w, decodeDigits 0 sv = some w ∧ w.toNat = Numeral.value 16 digits := by
  have none_before : ∀ d ∈ ([] : List Nat), d < 16 := nofun
  exact decodeDigits_spelled spelled none_before (by rwa [List.length_nil, Nat.zero_add]) rfl

/-- Whatever the loop takes in is digits. -/
theorem spelled_of_decodeDigits {sv : Text} {v w : UInt64} (read : decodeDigits v sv = some w) :
    ∃ digits, List.Forall₂ HexDigit sv digits := by
  induction sv generalizing v with
  | nil => exact ⟨[], .nil⟩
  | cons c rest ih =>
      rw [decodeDigits] at read
      obtain ⟨d, digit, read⟩ := Option.bind_eq_some_iff.mp read
      split_ifs at read
      obtain ⟨digits, spelled⟩ := ih read
      exact ⟨_, .cons (hexDigit_of_digitValue digit) spelled⟩

theorem decodeDigits_eq_some_iff {sv : Text} (short : sv.length ≤ 16) {w : UInt64} :
    decodeDigits 0 sv = some w ↔ Spells sv w.toNat := by
  constructor
  · intro read
    obtain ⟨digits, spelled⟩ := spelled_of_decodeDigits read
    obtain ⟨w', read', total⟩ := decodeDigits_numeral spelled short
    cases read.symm.trans read'
    exact ⟨digits, spelled, total⟩
  · rintro ⟨digits, spelled, total⟩
    obtain ⟨w', read, total'⟩ := decodeDigits_numeral spelled short
    rw [read, UInt64.toNat_inj.mp (total.trans total'.symm)]

/-! ## The codec -/

theorem decode_eq_some_iff {sv : Text} {id : Id tag} :
    decode sv = some id ↔
      1 ≤ sv.length ∧ sv.length ≤ 16 ∧ Spells sv id.value.toNat ∧ id.valid = true := by
  rw [decode]
  split_ifs with long empty
  · exact iff_of_false nofun fun ⟨_, short, _⟩ => by omega
  · rw [List.isEmpty_iff.mp empty]
    exact iff_of_false nofun fun ⟨positive, _⟩ => by cases positive
  have positive : 1 ≤ sv.length := List.length_pos_iff.mpr fun none => empty (by rw [none]; rfl)
  have short : sv.length ≤ 16 := not_lt.mp long
  rw [← decodeDigits_eq_some_iff short]
  constructor
  · intro read
    obtain ⟨v, digits, read⟩ := Option.bind_eq_some_iff.mp read
    dsimp only at read
    split_ifs at read with invalid
    cases read
    exact ⟨positive, short, digits, by simpa using invalid⟩
  · rintro ⟨-, -, digits, valid⟩
    refine Option.bind_eq_some_iff.mpr ⟨id.value, digits, ?_⟩
    exact if_neg (by rw [valid]; decide)

theorem decode_encode (id : Id tag) :
    decode id.encode = if id.valid then some id else none := by
  have length : id.encode.length = 16 := by
    rw [id.encode_spells.length_eq, Numeral.length_lastDigits]
  have spelled : Spells id.encode id.value.toNat := by
    refine ⟨_, id.encode_spells, ?_⟩
    rw [Numeral.value_lastDigits]
    exact (Nat.mod_eq_of_lt id.value.toNat_lt).symm
  split_ifs with valid
  · exact decode_eq_some_iff.mpr ⟨by omega, by omega, spelled, valid⟩
  · refine Option.eq_none_iff_forall_ne_some.mpr fun id' read => ?_
    obtain ⟨-, short, spelled', valid'⟩ := decode_eq_some_iff.mp read
    have same := (decodeDigits_eq_some_iff short).mpr spelled
    rw [(decodeDigits_eq_some_iff short).mpr spelled'] at same
    obtain rfl : id' = id := congrArg Id.mk (Option.some.inj same)
    exact valid valid'

example : (⟨0x5A1⟩ : DeviceId).encode = text "00000000000005a1" := by decide

/--
The text codec of identities.  The value that is written is read back when it is valid.
What is read are the numerals of one to sixteen hexadecimal digits with a valid value.
On a numeral of that length the test of the loop refuses no digit, and no step wraps.
-/
theorem text_codec (tag : IdTag) :
    (∀ id : Id tag, decode id.encode = if id.valid then some id else none) ∧
    (∀ (sv : Text) (id : Id tag), decode sv = some id ↔
      1 ≤ sv.length ∧ sv.length ≤ 16 ∧ Spells sv id.value.toNat ∧ id.valid = true) ∧
    ∀ (before : Text) (c : UInt8) (rest : Text) (n : Nat), Spells (before ++ c :: rest) n →
      (before ++ c :: rest).length ≤ 16 →
        ∃ v d, decodeDigits 0 before = some v ∧ digitValue c = some d ∧
          ¬ v > (maxUInt64 - d) / 16 ∧ (v * 16 + d).toNat = v.toNat * 16 + d.toNat := by
  refine ⟨decode_encode, fun sv id => decode_eq_some_iff, ?_⟩
  rintro before c rest n ⟨digits, spelled, -⟩ short
  rw [List.length_append, List.length_cons] at short
  have first := List.forall₂_take before.length spelled
  have behind := List.forall₂_drop before.length spelled
  rw [List.take_left] at first
  rw [List.drop_left] at behind
  obtain ⟨d, more, digit, -, -⟩ := List.forall₂_cons_left_iff.mp behind
  obtain ⟨v, read, total⟩ := decodeDigits_numeral first (by omega)
  have single : (UInt64.ofNat d).toNat < 16 := by
    rw [digit.toNat_ofNat]
    exact digit.lt
  have room : (digits.take before.length).length < 16 := by
    rw [← first.length_eq]
    omega
  obtain ⟨passes, step, -⟩ := next_digit (hexDigits_lt first) room total single
  exact ⟨v, UInt64.ofNat d, read, digit.digitValue, passes, step⟩

end Id

end DPUFabric
