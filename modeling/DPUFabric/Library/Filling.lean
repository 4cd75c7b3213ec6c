import DPUFabric.Library.Codec
import DPUFabric.Library.Exceptions

/-!
# Parsers that store what they read

Some parsers write every field into its place as soon as they have read it.  A
plain reader of the same fields returns them as one value and builds nothing.
`Fills` says that the parser returns where the reader does, and that what it
has built by then is a function of the value that the reader returns.

The rules follow the parser, and the reader grows along with it.
-/

namespace Filling

open Codec
open Exceptions

variable {ε β γ σ α δ : Type} [Input β γ σ]

/-- A step of the parser that reads and builds nothing. -/
def IsReading (step : EStateM ε σ α) (read : EStateM ε (List β) α) : Prop :=
  ∀ (ahead : List β) (built : γ) (value : α) (final : σ),
    step (Input.state ahead built) = .ok value final ↔
      ∃ rest, read ahead = .ok value rest ∧ final = Input.state rest built

/-- The parser returns where the reader does, and has then built `target` of its value. -/
def Fills (parse : EStateM ε σ Unit) (read : EStateM ε (List β) α) (built : γ)
    (target : α → γ) : Prop :=
  ∀ (ahead : List β) (final : σ),
    parse (Input.state ahead built) = .ok () final ↔
      ∃ value rest, read ahead = .ok value rest ∧ final = Input.state rest (target value)

namespace Fills

variable {parse parse' : EStateM ε σ Unit} {step : EStateM ε σ α} {next : α → EStateM ε σ Unit}
  {read : EStateM ε (List β) α} {more : α → EStateM ε (List β) δ} {built : γ}
  {target : α → γ} {target' : δ → γ}

theorem congr {target' : α → γ} (fills : Fills parse read built target)
    (same : ∀ value, target value = target' value) : Fills parse read built target' := by
  rwa [← funext same]

/-- Nothing is left to read, and everything is in its place. -/
theorem done {value : α} (reached : target value = built) :
    Fills (pure () : EStateM ε σ Unit) (pure value) built target := by
  intro ahead final
  constructor
  · intro returned
    cases returned
    exact ⟨value, ahead, rfl, by rw [reached]⟩
  · rintro ⟨result, rest, returned, rfl⟩
    cases returned
    rw [reached]
    rfl

/-- A field in front of the rest. -/
theorem field (reads : IsReading step read)
    (rest : ∀ value, Fills (next value) (more value) built target') :
    Fills (step >>= next) (read >>= more) built target' := by
  intro ahead final
  constructor
  · intro returned
    rcases bind_eq_ok_iff.mp returned with ⟨value, middle, begun, ended⟩
    rcases (reads ahead built value middle).mp begun with ⟨behind, first, rfl⟩
    rcases (rest value behind final).mp ended with ⟨result, rest', last, reached⟩
    exact ⟨result, rest', bind_eq_ok_iff.mpr ⟨value, behind, first, last⟩, reached⟩
  · rintro ⟨result, rest', returned, reached⟩
    rcases bind_eq_ok_iff.mp returned with ⟨value, behind, first, last⟩
    have begun := (reads ahead built value _).mpr ⟨behind, first, rfl⟩
    have ended := (rest value behind final).mpr ⟨result, rest', last, reached⟩
    exact bind_eq_ok_iff.mpr ⟨value, _, begun, ended⟩

/-- A last step that builds nothing. -/
theorem check {step : EStateM ε σ Unit} {read : EStateM ε (List β) Unit}
    (reads : IsReading step read) : Fills step read built fun _ => built := by
  intro ahead final
  rw [reads ahead built () final]
  constructor
  · rintro ⟨rest, returned, reached⟩
    exact ⟨(), rest, returned, reached⟩
  · rintro ⟨_, rest, returned, reached⟩
    exact ⟨rest, returned, reached⟩

/-- A field that is stored at once, with nothing behind it. -/
theorem record (reads : IsReading step read)
    (stores : ∀ value ahead,
      next value (Input.state ahead built) = .ok () (Input.state ahead (target value))) :
    Fills (step >>= next) read built target := by
  intro ahead final
  constructor
  · intro returned
    rcases bind_eq_ok_iff.mp returned with ⟨value, middle, begun, ended⟩
    rcases (reads ahead built value middle).mp begun with ⟨rest, first, rfl⟩
    rw [stores] at ended
    cases ended
    exact ⟨value, rest, first, rfl⟩
  · rintro ⟨value, rest, first, rfl⟩
    have begun := (reads ahead built value _).mpr ⟨rest, first, rfl⟩
    exact bind_eq_ok_iff.mpr ⟨value, _, begun, stores value rest⟩

/-- A step in front of the rest that stores and reads nothing. -/
theorem store {write : EStateM ε σ Unit} {built' : γ}
    (stores : ∀ ahead, write (Input.state ahead built) = .ok () (Input.state ahead built'))
    (rest : Fills parse read built' target) :
    Fills (write >>= fun _ => parse) read built target := by
  intro ahead final
  rw [← rest ahead final, bind_eq_ok_iff]
  constructor
  · rintro ⟨value, middle, begun, ended⟩
    rw [stores] at begun
    cases begun
    exact ended
  · intro ended
    exact ⟨(), _, stores ahead, ended⟩

/-- One part after another. -/
theorem seq (first : Fills parse read built target)
    (second : ∀ value, Fills parse' (more value) (target value) target') :
    Fills (parse >>= fun _ => parse') (read >>= more) built target' := by
  intro ahead final
  constructor
  · intro returned
    rcases bind_eq_ok_iff.mp returned with ⟨_, middle, begun, ended⟩
    rcases (first ahead middle).mp begun with ⟨value, behind, read', rfl⟩
    rcases (second value behind final).mp ended with ⟨result, rest, last, reached⟩
    exact ⟨result, rest, bind_eq_ok_iff.mpr ⟨value, behind, read', last⟩, reached⟩
  · rintro ⟨result, rest, returned, reached⟩
    rcases bind_eq_ok_iff.mp returned with ⟨value, behind, read', last⟩
    have begun := (first ahead _).mpr ⟨value, behind, read', rfl⟩
    have ended := (second value behind final).mpr ⟨result, rest, last, reached⟩
    exact bind_eq_ok_iff.mpr ⟨(), _, begun, ended⟩

/-- The reader puts together what it has read. -/
theorem map (make : α → δ)
    (fills : Fills parse read built fun value => target' (make value)) :
    Fills parse (read >>= fun value => Pure.pure (make value)) built target' := by
  intro ahead final
  rw [fills ahead final]
  constructor
  · rintro ⟨value, rest, returned, reached⟩
    exact ⟨make value, rest, bind_eq_ok_iff.mpr ⟨value, rest, returned, rfl⟩, reached⟩
  · rintro ⟨result, rest, returned, reached⟩
    rcases bind_eq_ok_iff.mp returned with ⟨value, middle, first, last⟩
    cases last
    exact ⟨value, _, first, reached⟩

end Fills

end Filling
