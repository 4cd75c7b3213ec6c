import Mathlib

/-!
# Runs of a deterministic transition system

A system is given by its step function `step : σ → α → σ`: labels are the
calls a client makes, and a refused call is a step which leaves the state as
it is.  A run is the state after a list of labels, so a statement about every
list of labels is a statement about every interleaving of every client's
calls.
-/

namespace TransitionRun

universe u v

variable {σ : Type u} {α : Type v} (step : σ → α → σ)

/-- The state after a list of labels. -/
def run (start : σ) (labels : List α) : σ :=
  labels.foldl step start

@[simp]
theorem run_nil (start : σ) : run step start [] = start :=
  rfl

@[simp]
theorem run_cons (start : σ) (label : α) (rest : List α) :
    run step start (label :: rest) = run step (step start label) rest :=
  rfl

theorem run_append (start : σ) (first second : List α) :
    run step start (first ++ second) =
      run step (run step start first) second := by
  simp [run]

/-- `P` holds of every step a run takes, with the state it is taken in. -/
def Every (P : σ → α → Prop) : σ → List α → Prop
  | _, [] => True
  | state, label :: rest => P state label ∧ Every P (step state label) rest

variable {step}

@[simp]
theorem every_nil (P : σ → α → Prop) (start : σ) :
    Every step P start [] :=
  trivial

@[simp]
theorem every_cons
    (P : σ → α → Prop) (start : σ) (label : α) (rest : List α) :
    Every step P start (label :: rest) ↔
      P start label ∧ Every step P (step start label) rest :=
  Iff.rfl

theorem every_append
    (P : σ → α → Prop) (start : σ) (first second : List α) :
    Every step P start (first ++ second) ↔
      Every step P start first ∧
        Every step P (run step start first) second := by
  induction first generalizing start with
  | nil => simp
  | cons label rest ih => simp [ih, and_assoc]

theorem Every.mono
    {P Q : σ → α → Prop} (implies : ∀ state label, P state label → Q state label)
    {start : σ} {labels : List α} (every : Every step P start labels) :
    Every step Q start labels := by
  induction labels generalizing start with
  | nil => trivial
  | cons label rest ih => exact ⟨implies _ _ every.1, ih every.2⟩

theorem every_congr
    {P Q : σ → α → Prop} (agree : ∀ state label, P state label ↔ Q state label)
    (start : σ) (labels : List α) :
    Every step P start labels ↔ Every step Q start labels :=
  ⟨Every.mono fun state label => (agree state label).mp,
    Every.mono fun state label => (agree state label).mpr⟩

/-- A condition on labels alone holds along a run when all labels meet it. -/
theorem every_of_forall_mem
    {P : α → Prop} (start : σ) {labels : List α}
    (all : ∀ label ∈ labels, P label) :
    Every step (fun _ label => P label) start labels := by
  induction labels generalizing start with
  | nil => trivial
  | cons label rest ih =>
      exact ⟨all label List.mem_cons_self,
        ih _ fun other member => all other (List.mem_cons_of_mem _ member)⟩

/-! ## Invariants -/

/-- An invariant kept by every step that meets `P` survives every such run. -/
theorem run_invariant
    {P : σ → α → Prop} (invariant : σ → Prop)
    (keeps : ∀ state label, P state label → invariant state →
      invariant (step state label))
    {start : σ} {labels : List α}
    (holds : invariant start) (every : Every step P start labels) :
    invariant (run step start labels) := by
  induction labels generalizing start with
  | nil => exact holds
  | cons label rest ih => exact ih (keeps _ _ every.1 holds) every.2

/-- An invariant kept by every step holds after every run. -/
theorem run_invariant_of_step
    (invariant : σ → Prop)
    (keeps : ∀ state label, invariant state → invariant (step state label))
    {start : σ} (holds : invariant start) (labels : List α) :
    invariant (run step start labels) :=
  run_invariant (P := fun _ _ => True) invariant
    (fun state label _ => keeps state label) holds
    (every_of_forall_mem (P := fun _ => True) start fun _ _ => trivial)

/--
Where two conditions on steps agree under an invariant that one of them keeps,
they hold along the same runs.
-/
theorem every_iff_of_invariant
    {P Q : σ → α → Prop} (invariant : σ → Prop)
    (agree : ∀ state label, invariant state → (P state label ↔ Q state label))
    (keeps : ∀ state label, P state label → invariant state →
      invariant (step state label))
    {start : σ} (holds : invariant start) (labels : List α) :
    Every step P start labels ↔ Every step Q start labels := by
  induction labels generalizing start with
  | nil => simp
  | cons label rest ih =>
      rw [every_cons, every_cons, ← agree start label holds]
      exact and_congr_right fun meets => ih (keeps start label meets holds)

/-- What holds at every point of a run holds at its start and after each of its steps. -/
theorem forall_prefix_iff (P : σ → Prop) (start : σ) (labels : List α) :
    (∀ middle, middle <+: labels → P (run step start middle)) ↔
      P start ∧ Every step (fun state label => P (step state label)) start labels := by
  induction labels generalizing start with
  | nil => simp
  | cons label rest ih =>
      constructor
      · intro points
        have later := (ih (step start label)).mp fun middle isPrefix =>
          points (label :: middle) ((List.prefix_cons_inj label).mpr isPrefix)
        exact ⟨points [] List.nil_prefix, later.1, later.2⟩
      · rintro ⟨first, next, later⟩ middle isPrefix
        cases middle with
        | nil => exact first
        | cons other middle =>
            obtain ⟨rfl, shorter⟩ := List.cons_prefix_cons.mp isPrefix
            exact (ih (step start other)).mpr ⟨next, later⟩ middle shorter

/-- A monotone reading of the state grows along every run. -/
theorem run_mono
    {β : Type v} [Preorder β] (reading : σ → β)
    (grows : ∀ state label, reading state ≤ reading (step state label))
    (start : σ) (labels : List α) :
    reading start ≤ reading (run step start labels) :=
  run_invariant_of_step (fun state => reading start ≤ reading state)
    (fun state label below => below.trans (grows state label)) le_rfl labels

/-! ## Entering a set of states -/

/--
A run that ends in `P` without starting in it entered `P` for the last time at
some step, and stayed in it from there on.
-/
theorem last_entry
    (P : σ → Prop) {start : σ} {labels : List α}
    (outside : ¬ P start) (inside : P (run step start labels)) :
    ∃ before label after, labels = before ++ label :: after ∧
      ¬ P (run step start before) ∧
      ∀ middle, middle <+: after →
        P (run step (step (run step start before) label) middle) := by
  induction labels using List.reverseRecOn with
  | nil => exact (outside inside).elim
  | append_singleton front last ih =>
      by_cases already : P (run step start front)
      · obtain ⟨before, label, after, rfl, enters, stays⟩ := ih already
        refine ⟨before, label, after ++ [last], by simp, enters, ?_⟩
        intro middle isPrefix
        rcases List.prefix_concat_iff.mp isPrefix with whole | shorter
        · subst whole
          simpa [run_append] using inside
        · exact stays middle shorter
      · refine ⟨front, last, [], rfl, already, ?_⟩
        intro middle isPrefix
        rw [List.prefix_nil.mp isPrefix]
        simpa [run_append] using inside

/-! ## Reachability -/

/-- The second state is reached from the first by labels that are all allowed. -/
def Reaches (step : σ → α → σ) (allowed : α → Prop) (start final : σ) : Prop :=
  ∃ labels, (∀ label ∈ labels, allowed label) ∧ run step start labels = final

namespace Reaches

variable {allowed allowed' : α → Prop}

theorem refl (start : σ) : Reaches step allowed start start :=
  ⟨[], by simp, rfl⟩

theorem single {start : σ} {label : α} (allows : allowed label) :
    Reaches step allowed start (step start label) :=
  ⟨[label], by simpa using allows, rfl⟩

theorem trans {first second third : σ} (begun : Reaches step allowed first second)
    (continued : Reaches step allowed second third) : Reaches step allowed first third := by
  obtain ⟨before, allows, rfl⟩ := begun
  obtain ⟨after, allows', rfl⟩ := continued
  refine ⟨before ++ after, ?_, run_append step first before after⟩
  intro label member
  rcases List.mem_append.mp member with early | late
  · exact allows label early
  · exact allows' label late

instance : Std.Refl (Reaches step allowed) := ⟨refl⟩

instance : IsTrans σ (Reaches step allowed) := ⟨fun _ _ _ => trans⟩

theorem mono (implies : ∀ label, allowed label → allowed' label) {start final : σ}
    (reaches : Reaches step allowed start final) : Reaches step allowed' start final := by
  obtain ⟨labels, allows, ended⟩ := reaches
  exact ⟨labels, fun label member => implies label (allows label member), ended⟩

/-- What every allowed step keeps is kept on the way. -/
theorem invariant (invariant : σ → Prop)
    (keeps : ∀ state label, allowed label → invariant state → invariant (step state label))
    {start final : σ} (reaches : Reaches step allowed start final) (holds : invariant start) :
    invariant final := by
  obtain ⟨labels, allows, rfl⟩ := reaches
  exact run_invariant (P := fun _ label => allowed label) invariant keeps holds
    (every_of_forall_mem start allows)

end Reaches

end TransitionRun
