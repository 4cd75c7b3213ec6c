import Mathlib

/-!
# Programs that return or throw

A program over a state returns or throws.  `Throws` bounds both what it throws
and how it changes the state, on either way out; `Yields` bounds what it
returns.  The rules follow the program, one step after another.  A program that
throws nothing returns.
-/

namespace Exceptions

variable {ε σ α β : Type}

/-- The program returns or throws one of `faults`, and changes the state as allowed. -/
structure Throws (changes : σ → σ → Prop) (faults : ε → Prop) (program : EStateM ε σ α) :
    Prop where
  outcome : ∀ start, match program start with
    | .ok _ final => changes start final
    | .error fault final => faults fault ∧ changes start final

section Rules

variable {changes : σ → σ → Prop} {faults : ε → Prop} {program : EStateM ε σ α}
  {next : α → EStateM ε σ β}

/-- A program that throws nothing returns. -/
theorem Throws.returns (throws : Throws changes (fun _ : ε => False) program) (start : σ) :
    ∃ value final, program start = .ok value final ∧ changes start final := by
  have outcome := throws.outcome start
  cases result : program start with
  | ok value final =>
      rw [result] at outcome
      exact ⟨value, final, rfl, outcome⟩
  | error fault final =>
      rw [result] at outcome
      exact outcome.1.elim

/-! ## Single runs -/

theorem bind_of_ok {start middle : σ} {value : α} (returned : program start = .ok value middle) :
    (program >>= next) start = next value middle := by
  show EStateM.bind program next start = _
  simp only [EStateM.bind, returned]

theorem bind_of_error {start middle : σ} {fault : ε}
    (thrown : program start = .error fault middle) :
    (program >>= next) start = .error fault middle := by
  show EStateM.bind program next start = _
  simp only [EStateM.bind, thrown]

/-- A sequence returns if both its parts do. -/
theorem bind_eq_ok_iff {start final : σ} {result : β} :
    (program >>= next) start = .ok result final ↔
      ∃ value middle, program start = .ok value middle ∧ next value middle = .ok result final := by
  change EStateM.bind program next start = _ ↔ _
  unfold EStateM.bind
  constructor
  · intro returned
    cases first : program start with
    | ok value middle =>
        rw [first] at returned
        exact ⟨value, middle, rfl, returned⟩
    | error fault middle =>
        rw [first] at returned
        cases returned
  · rintro ⟨value, middle, first, returned⟩
    rw [first]
    exact returned

/-! ## Single steps -/

section Reflexive

variable [Std.Refl changes]

theorem Throws.pure (value : α) : Throws changes faults (pure value : EStateM ε σ α) :=
  ⟨fun start => Std.Refl.refl start⟩

theorem Throws.get : Throws changes faults (get : EStateM ε σ σ) :=
  ⟨fun start => Std.Refl.refl start⟩

theorem Throws.throw {fault : ε} (allowed : faults fault) :
    Throws changes faults (throw fault : EStateM ε σ α) :=
  ⟨fun start => ⟨allowed, Std.Refl.refl start⟩⟩

end Reflexive

theorem Throws.modify {change : σ → σ} (allowed : ∀ start, changes start (change start)) :
    Throws changes faults (modify change : EStateM ε σ PUnit) :=
  ⟨allowed⟩

/-! ## Sequences -/

theorem Throws.bind [IsTrans σ changes] (first : Throws changes faults program)
    (second : ∀ value, Throws changes faults (next value)) :
    Throws changes faults (program >>= next) := by
  constructor
  intro start
  have begun := first.outcome start
  show match EStateM.bind program next start with
    | .ok _ final => changes start final
    | .error fault final => faults fault ∧ changes start final
  cases result : program start with
  | error fault middle =>
      rw [result] at begun
      simpa only [EStateM.bind, result] using begun
  | ok value middle =>
      rw [result] at begun
      have ended := (second value).outcome middle
      simp only [EStateM.bind, result]
      cases last : next value middle with
      | ok value' final =>
          rw [last] at ended
          exact IsTrans.trans _ _ _ begun ended
      | error fault final =>
          rw [last] at ended
          exact ⟨ended.1, IsTrans.trans _ _ _ begun ended.2⟩

end Rules

/-! ## What is returned -/

/-- Whatever the program returns has the property. -/
def Yields (program : EStateM ε σ α) (post : α → Prop) : Prop :=
  ∀ ⦃start : σ⦄ ⦃value : α⦄ ⦃final : σ⦄, program start = .ok value final → post value

section Yields

variable {program : EStateM ε σ α} {next : α → EStateM ε σ β} {pre : α → Prop}
  {post : β → Prop}

theorem Yields.pure {value : β} (holds : post value) :
    Yields (pure value : EStateM ε σ β) post := by
  intro start result final returned
  cases returned
  exact holds

theorem Yields.bind (first : Yields program pre)
    (second : ∀ value, pre value → Yields (next value) post) :
    Yields (program >>= next) post := by
  intro start result final returned
  rcases bind_eq_ok_iff.mp returned with ⟨value, middle, begun, ended⟩
  exact second value (first begun) ended

/-- A step whose value does not matter. -/
theorem Yields.after (second : ∀ value, Yields (next value) post) :
    Yields (program >>= next) post := by
  intro start result final returned
  rcases bind_eq_ok_iff.mp returned with ⟨value, middle, begun, ended⟩
  exact second value ended

end Yields

end Exceptions
