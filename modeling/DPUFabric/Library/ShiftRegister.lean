import Mathlib

/-!
# Shift registers with feedback

A register of `w` bits moves down by one place and, when a one falls out, takes in
a feedback polynomial.  Symbols of `s` bits are added to its low end, each followed
by `s` moves.  The moves are linear, and they lose nothing when the polynomial has
its highest bit.  So two inputs that differ only in a window of at most `w` bits
never leave the register in the same state.
-/

namespace ShiftRegister

variable {w s : ℕ} (poly : BitVec w)

/-- One move. -/
def shift (c : BitVec w) : BitVec w :=
  (c >>> 1) ^^^ if c.getLsbD 0 then poly else 0#w

/-- A symbol is added, and moved through. -/
def feed (c : BitVec w) (symbol : BitVec s) : BitVec w :=
  (shift poly)^[s] (c ^^^ symbol.setWidth w)

def run (c : BitVec w) (symbols : List (BitVec s)) : BitVec w :=
  symbols.foldl (feed poly) c

theorem run_append (c : BitVec w) (front back : List (BitVec s)) :
    run poly c (front ++ back) = run poly (run poly c front) back :=
  List.foldl_append

/-! ## Linearity -/

theorem shift_xor (a b : BitVec w) : shift poly (a ^^^ b) = shift poly a ^^^ shift poly b := by
  have feedback : (if (a ^^^ b).getLsbD 0 then poly else 0#w) =
      (if a.getLsbD 0 then poly else 0#w) ^^^ if b.getLsbD 0 then poly else 0#w := by
    rw [BitVec.getLsbD_xor]
    cases a.getLsbD 0 <;> cases b.getLsbD 0 <;> simp
  rw [shift, shift, shift, feedback, BitVec.ushiftRight_xor_distrib]
  ac_rfl

theorem iterate_shift_xor (n : ℕ) (a b : BitVec w) :
    (shift poly)^[n] (a ^^^ b) = (shift poly)^[n] a ^^^ (shift poly)^[n] b := by
  induction n with
  | zero => rfl
  | succ n ih => simp only [Function.iterate_succ_apply', ih, shift_xor]

/-- Bits that only move down. -/
theorem shift_shiftLeft {c : BitVec w} (room : c.toNat * 2 < 2 ^ w) :
    shift poly (c <<< 1) = c := by
  have low : (c <<< 1).getLsbD 0 = false := by simp
  have moved : (c <<< 1).toNat = c.toNat * 2 := by
    rw [BitVec.toNat_shiftLeft, Nat.shiftLeft_eq, pow_one, Nat.mod_eq_of_lt room]
  rw [shift, low, if_neg (by simp), BitVec.xor_zero]
  apply BitVec.eq_of_toNat_eq
  rw [BitVec.toNat_ushiftRight, moved, Nat.shiftRight_eq_div_pow, pow_one,
    Nat.mul_div_cancel _ two_pos]

theorem iterate_shift_shiftLeft {n : ℕ} {c : BitVec w} (room : c.toNat * 2 ^ n < 2 ^ w) :
    (shift poly)^[n] (c <<< n) = c := by
  induction n with
  | zero => simp
  | succ n ih =>
      have less : c.toNat * 2 ^ n * 2 < 2 ^ w := by rwa [mul_assoc, ← pow_succ]
      have moved : (c <<< n).toNat = c.toNat * 2 ^ n := by
        rw [BitVec.toNat_shiftLeft, Nat.shiftLeft_eq, Nat.mod_eq_of_lt (by omega)]
      rw [Function.iterate_succ_apply, BitVec.shiftLeft_add, shift_shiftLeft poly (by rwa [moved]),
        ih (by omega)]

/-! ## Nothing is lost -/

section Injective

variable {poly} (highest : poly.msb = true)
include highest

/-- A one that falls out comes back at the top. -/
theorem eq_zero_of_shift_eq_zero {c : BitVec w} (gone : shift poly c = 0#w) : c = 0#w := by
  cases low : c.getLsbD 0 with
  | true =>
      have top : (shift poly c).msb = true := by
        rw [shift, low, if_pos rfl, BitVec.msb_xor, highest, BitVec.msb_ushiftRight]
        simp
      rw [gone] at top
      simp at top
  | false =>
      rw [shift, low, if_neg (by simp), BitVec.xor_zero] at gone
      apply BitVec.eq_of_getLsbD_eq
      intro i _
      cases i with
      | zero => simpa using low
      | succ i =>
          have bit := congrArg (fun c => c.getLsbD i) gone
          simpa [add_comm] using bit

theorem shift_injective : Function.Injective (shift poly) := by
  intro a b same
  have gone : shift poly (a ^^^ b) = 0#w := by rw [shift_xor, same, BitVec.xor_self]
  have zero := eq_zero_of_shift_eq_zero highest gone
  exact BitVec.xor_eq_zero_iff.mp zero

theorem feed_injective (symbol : BitVec s) : Function.Injective fun c => feed poly c symbol := by
  intro a b same
  have before := (shift_injective highest).iterate s same
  exact (BitVec.xor_left_inj _).mp before

theorem run_injective (symbols : List (BitVec s)) :
    Function.Injective fun c => run poly c symbols := by
  induction symbols with
  | nil => exact fun a b same => same
  | cons symbol rest ih => exact fun a b same => feed_injective highest symbol (ih same)

end Injective

/-! ## Windows -/

/-- The number with these digits, the lowest first. -/
def value (symbols : List (BitVec s)) : ℕ :=
  Nat.ofDigits (2 ^ s) (symbols.map BitVec.toNat)

theorem value_cons (symbol : BitVec s) (rest : List (BitVec s)) :
    value (symbol :: rest) = symbol.toNat + 2 ^ s * value rest := by
  simp [value, Nat.ofDigits_cons]

theorem value_lt (symbols : List (BitVec s)) : value symbols < 2 ^ (s * symbols.length) := by
  induction symbols with
  | nil => simp [value]
  | cons symbol rest ih =>
      have digit := symbol.isLt
      have whole : 2 ^ (s * (symbol :: rest).length) = 2 ^ s * 2 ^ (s * rest.length) := by
        rw [List.length_cons, mul_add, mul_one, pow_add, mul_comm]
      rw [value_cons, whole]
      nlinarith

theorem value_injective {front back : List (BitVec s)} (length : front.length = back.length)
    (same : value front = value back) : front = back := by
  induction front generalizing back with
  | nil => exact (List.eq_nil_of_length_eq_zero length.symm).symm
  | cons symbol rest ih =>
      cases back with
      | nil => cases length
      | cons symbol' rest' =>
          rw [value_cons, value_cons] at same
          have digit : symbol.toNat = symbol'.toNat := by
            have low := congrArg (· % 2 ^ s) same
            simpa [Nat.mod_eq_of_lt symbol.isLt, Nat.mod_eq_of_lt symbol'.isLt] using low
          have higher : value rest = value rest' := by
            have positive : 0 < 2 ^ s := by positivity
            rw [digit] at same
            exact Nat.eq_of_mul_eq_mul_left positive (Nat.add_left_cancel same)
          rw [BitVec.eq_of_toNat_eq digit, ih (Nat.succ.inj length) higher]

/-- The lowest digit stands below the others. -/
theorem ofNat_value_cons (symbol : BitVec s) (rest : List (BitVec s)) :
    BitVec.ofNat w (value (symbol :: rest)) =
      symbol.setWidth w ^^^ BitVec.ofNat w (value rest) <<< s := by
  apply BitVec.eq_of_getLsbD_eq
  intro i inside
  rw [value_cons, add_comm, BitVec.getLsbD_xor, BitVec.getLsbD_shiftLeft, BitVec.getLsbD_setWidth,
    BitVec.getLsbD_ofNat, BitVec.getLsbD_ofNat, Nat.testBit_two_pow_mul_add _ symbol.isLt]
  by_cases low : i < s
  · simp [low, inside, BitVec.getLsbD]
  · have above : symbol.getLsbD i = false := BitVec.getLsbD_of_ge symbol i (by omega)
    simp [low, inside, above]
    omega

/-- What a window of symbols does to the register: one addition, and the moves. -/
theorem run_eq (c : BitVec w) {symbols : List (BitVec s)} (room : s * symbols.length ≤ w) :
    run poly c symbols =
      (shift poly)^[s * symbols.length] (c ^^^ BitVec.ofNat w (value symbols)) := by
  induction symbols generalizing c with
  | nil => simp [run, value]
  | cons symbol rest ih =>
      have length : s * (symbol :: rest).length = s * rest.length + s := by
        rw [List.length_cons, mul_add, mul_one]
      have fits : value rest * 2 ^ s < 2 ^ w := by
        have bound := value_lt (symbol :: rest)
        have wide := Nat.pow_le_pow_right two_pos room
        rw [value_cons] at bound
        nlinarith
      have later : (shift poly)^[s] (BitVec.ofNat w (value rest) <<< s) =
          BitVec.ofNat w (value rest) := by
        apply iterate_shift_shiftLeft
        rw [BitVec.toNat_ofNat]
        exact lt_of_le_of_lt (Nat.mul_le_mul_right _ (Nat.mod_le _ _)) fits
      have fed : feed poly c symbol ^^^ BitVec.ofNat w (value rest) =
          (shift poly)^[s] (c ^^^ BitVec.ofNat w (value (symbol :: rest))) := by
        rw [ofNat_value_cons, ← BitVec.xor_assoc, iterate_shift_xor, later, feed]
      calc run poly c (symbol :: rest)
          = run poly (feed poly c symbol) rest := rfl
        _ = (shift poly)^[s * rest.length]
              (feed poly c symbol ^^^ BitVec.ofNat w (value rest)) := ih _ (by omega)
        _ = _ := by rw [fed, length, Function.iterate_add_apply]

/-- A block that ends with its own register, up to a mask, leaves a constant. -/
theorem run_append_masked (c mask : BitVec w) {block trailer : List (BitVec s)}
    (width : s * trailer.length = w)
    (closed : BitVec.ofNat w (value trailer) = run poly c block ^^^ mask) :
    run poly c (block ++ trailer) = (shift poly)^[w] mask := by
  rw [run_append, run_eq poly _ width.le, width, closed, ← BitVec.xor_assoc, BitVec.xor_self,
    BitVec.zero_xor]

/-! ## Bursts -/

section Bursts

variable {α : Type*} {width : ℕ} {front back : List α}

/-- Two lists of one length that agree outside of a window. -/
structure Burst (width : ℕ) (front back : List α) : Prop where
  length : front.length = back.length
  outside : ∃ start, ∀ i, i < start ∨ start + width ≤ i → front[i]? = back[i]?

theorem Burst.take (burst : Burst width front back) (n : ℕ) :
    Burst width (front.take n) (back.take n) where
  length := by rw [List.length_take, List.length_take, burst.length]
  outside := by
    obtain ⟨start, outside⟩ := burst.outside
    refine ⟨start, fun i away => ?_⟩
    rw [List.getElem?_take, List.getElem?_take, outside i away]

theorem Burst.drop (burst : Burst width front back) (n : ℕ) :
    Burst width (front.drop n) (back.drop n) where
  length := by rw [List.length_drop, List.length_drop, burst.length]
  outside := by
    obtain ⟨start, outside⟩ := burst.outside
    refine ⟨start - n, fun i away => ?_⟩
    rw [List.getElem?_drop, List.getElem?_drop]
    exact outside (n + i) (by omega)

theorem Burst.map {β : Type*} (burst : Burst width front back) (f : α → β) :
    Burst width (front.map f) (back.map f) where
  length := by rw [List.length_map, List.length_map, burst.length]
  outside := by
    obtain ⟨start, outside⟩ := burst.outside
    refine ⟨start, fun i away => ?_⟩
    rw [List.getElem?_map, List.getElem?_map, outside i away]

/-- The two windows, between what the lists have in common. -/
theorem Burst.windows (burst : Burst width front back) :
    ∃ before window window' after, front = before ++ (window ++ after) ∧
      back = before ++ (window' ++ after) ∧ window.length = window'.length ∧
      window.length ≤ width := by
  obtain ⟨start, outside⟩ := burst.outside
  have before : front.take start = back.take start := by
    apply List.ext_getElem?
    intro i
    rw [List.getElem?_take, List.getElem?_take]
    split_ifs with inside
    · exact outside i (.inl inside)
    · rfl
  have after : (front.drop start).drop width = (back.drop start).drop width := by
    apply List.ext_getElem?
    intro i
    rw [List.drop_drop, List.drop_drop, List.getElem?_drop, List.getElem?_drop]
    exact outside _ (.inr (by omega))
  refine ⟨front.take start, (front.drop start).take width, (back.drop start).take width,
    (front.drop start).drop width, ?_, ?_, ?_, List.length_take_le _ _⟩
  · rw [List.take_append_drop, List.take_append_drop]
  · rw [before, after, List.take_append_drop, List.take_append_drop]
  · rw [List.length_take, List.length_take, List.length_drop, List.length_drop, burst.length]

end Bursts

/-- Every burst that fits into the register is detected. -/
theorem Burst.detected {poly} (highest : poly.msb = true) {width : ℕ} (room : s * width ≤ w)
    {front back : List (BitVec s)} (burst : Burst width front back) {c : BitVec w}
    (same : run poly c front = run poly c back) : front = back := by
  obtain ⟨before, window, window', after, rfl, rfl, length, bound⟩ := burst.windows
  have fits : s * window.length ≤ w := (Nat.mul_le_mul_left s bound).trans room
  have fits' : s * window'.length ≤ w := length ▸ fits
  simp only [run_append] at same
  have windows := run_injective highest after same
  rw [run_eq poly _ fits, run_eq poly _ fits', length] at windows
  have added := (BitVec.xor_right_inj _).mp ((shift_injective highest).iterate _ windows)
  have small : ∀ symbols : List (BitVec s), s * symbols.length ≤ w →
      (BitVec.ofNat w (value symbols)).toNat = value symbols := by
    intro symbols narrow
    rw [BitVec.toNat_ofNat]
    exact Nat.mod_eq_of_lt ((value_lt symbols).trans_le (Nat.pow_le_pow_right two_pos narrow))
  have values : value window = value window' := by
    rw [← small window fits, added, small window' fits']
  rw [value_injective length values]

end ShiftRegister
