import Mathlib

/-!
# One computation run from two states

A computation with state and errors is parallel for a relation when, from
related states, both runs end the same way in related states.  The judgement
is closed under the monad's operations, so a program is shown parallel by
following its text.
-/

namespace ParallelRun

universe u

variable {ε σ α β : Type u} {related : σ → σ → Prop}

/-- Two results with the same value or error, and related states. -/
inductive Agree (related : σ → σ → Prop) :
    EStateM.Result ε σ α → EStateM.Result ε σ α → Prop
  | ok {value : α} {left right : σ} (states : related left right) :
      Agree related (.ok value left) (.ok value right)
  | error {fault : ε} {left right : σ} (states : related left right) :
      Agree related (.error fault left) (.error fault right)

/-- Both runs of the computation agree from related states. -/
def Parallel (related : σ → σ → Prop) (program : EStateM ε σ α) : Prop :=
  ∀ left right, related left right → Agree related (program left) (program right)

theorem parallel_pure (value : α) :
    Parallel related (pure value : EStateM ε σ α) :=
  fun _ _ states => .ok states

theorem parallel_modify {change : σ → σ}
    (keeps : ∀ left right, related left right → related (change left) (change right)) :
    Parallel related (fun s => .ok PUnit.unit (change s) : EStateM ε σ PUnit) :=
  fun left right states => .ok (keeps left right states)

theorem parallel_bind {first : EStateM ε σ α} {next : α → EStateM ε σ β}
    (head : Parallel related first) (tail : ∀ value, Parallel related (next value)) :
    Parallel related (first >>= next) := by
  intro left right states
  change Agree related (EStateM.bind first next left) (EStateM.bind first next right)
  unfold EStateM.bind
  have both := head left right states
  revert both
  cases first left <;> cases first right <;> intro both <;> cases both
  · rename_i states'
    exact tail _ _ _ states'
  · rename_i states'
    exact .error states'

end ParallelRun
