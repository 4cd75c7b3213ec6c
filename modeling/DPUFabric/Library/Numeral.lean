import Mathlib

/-!
# Numerals, the most significant digit first

A numeral is read from the left: each digit follows the value so far times the base.
The reader may refuse a digit that would take the value over a limit, and tests that
by a division before it multiplies.
-/

namespace Numeral

variable {base : ℕ}

/-- The value of a numeral. -/
def value (base : ℕ) (digits : List ℕ) : ℕ := Nat.ofDigits base digits.reverse

@[simp]
theorem value_nil : value base [] = 0 :=
  rfl

/-- The next digit follows the value so far times the base. -/
theorem value_concat (digits : List ℕ) (digit : ℕ) :
    value base (digits ++ [digit]) = value base digits * base + digit := by
  rw [value, List.reverse_append, List.reverse_singleton, List.singleton_append,
    Nat.ofDigits_cons, ← value, mul_comm base, Nat.add_comm]

theorem value_lt (wide : 1 < base) {digits : List ℕ} (bounded : ∀ digit ∈ digits, digit < base) :
    value base digits < base ^ digits.length := by
  rw [value, ← List.length_reverse]
  apply Nat.ofDigits_lt_base_pow_length wide
  intro digit listed
  exact bounded digit (List.mem_reverse.mp listed)

/-- The test before the multiplication. -/
theorem exceeds_iff (positive : 0 < base) {limit digit : ℕ} (single : digit ≤ limit) (v : ℕ) :
    (limit - digit) / base < v ↔ limit < v * base + digit := by
  rw [Nat.div_lt_iff_lt_mul positive]
  omega

/-! ## Numerals of a fixed width -/

/-- The last digits of a number. -/
def lastDigits (base : ℕ) : ℕ → ℕ → List ℕ
  | 0, _ => []
  | width + 1, n => lastDigits base width (n / base) ++ [n % base]

@[simp]
theorem length_lastDigits (width n : ℕ) : (lastDigits base width n).length = width := by
  induction width generalizing n with
  | zero => rfl
  | succ width ih => rw [lastDigits, List.length_append, ih, List.length_singleton]

theorem lastDigits_lt (positive : 0 < base) (width n : ℕ) :
    ∀ digit ∈ lastDigits base width n, digit < base := by
  induction width generalizing n with
  | zero => nofun
  | succ width ih =>
      intro digit listed
      rcases List.mem_append.mp listed with earlier | last
      · exact ih (n / base) digit earlier
      · rw [List.mem_singleton.mp last]
        exact Nat.mod_lt n positive

theorem value_lastDigits (width n : ℕ) :
    value base (lastDigits base width n) = n % base ^ width := by
  induction width generalizing n with
  | zero => exact (Nat.mod_one n).symm
  | succ width ih =>
      rw [lastDigits, value_concat, ih, pow_succ', Nat.mod_mul, Nat.mul_comm, Nat.add_comm]

end Numeral
