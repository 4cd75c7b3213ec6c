import Mathlib

/-!
# Writers and readers that agree

A writer appends symbols to a buffer, and a reader consumes the symbols ahead
of it while it builds a result.  Both may throw.  `Agrees` says what the two
make of one value: the writer throws unless the value fits, the code it
appends has a known size, and the reader turns that code back into the value
if the value is valid and throws otherwise.

The rules follow the way such programs are put together: field after field,
one list after another, and a step of the reader that only builds.  They carry
the size and the two conditions along, so that the rule for a record states
exactly which values survive.

A count is written in a word of bounded width, so the reader's side is only
claimed for codes below a limit on their size.
-/

namespace Codec

variable {ε β γ σ α δ : Type}

/-- A parser state holds the symbols ahead and what was built so far. -/
class Input (β γ : outParam Type) (σ : Type) where
  state : List β → γ → σ

/-- A parser that is nothing but the symbols ahead builds nothing. -/
instance : Input β Unit (List β) := ⟨fun ahead _ => ahead⟩

/-! ## Writers -/

/-- The writer appends `code` if the value fits, and throws otherwise. -/
structure Writes (write : EStateM ε (List β) Unit) (code : List β) (fits : Prop) : Prop where
  appends : fits → ∀ buffer, write buffer = .ok () (buffer ++ code)
  throws : ¬ fits → ∀ buffer, ∃ fault buffer', write buffer = .error fault buffer'

theorem Writes.pure : Writes (pure () : EStateM ε (List β) Unit) [] True where
  appends := by
    intro _ buffer
    rw [List.append_nil]
    rfl
  throws := fun unfit => (unfit trivial).elim

theorem Writes.bind {write write' : EStateM ε (List β) Unit} {code code' : List β}
    {fits fits' : Prop} (first : Writes write code fits) (next : Writes write' code' fits') :
    Writes (write >>= fun _ => write') (code ++ code') (fits ∧ fits') where
  appends := by
    rintro ⟨fit, fit'⟩ buffer
    change EStateM.bind write (fun _ => write') buffer = _
    simp only [EStateM.bind, first.appends fit, next.appends fit', List.append_assoc]
  throws := by
    intro unfit buffer
    change ∃ fault buffer', EStateM.bind write (fun _ => write') buffer = .error fault buffer'
    by_cases fit : fits
    · have unfit' : ¬ fits' := fun fit' => unfit ⟨fit, fit'⟩
      rcases next.throws unfit' (buffer ++ code) with ⟨fault, buffer', thrown⟩
      exact ⟨fault, buffer', by simp only [EStateM.bind, first.appends fit, thrown]⟩
    · rcases first.throws fit buffer with ⟨fault, buffer', thrown⟩
      exact ⟨fault, buffer', by simp only [EStateM.bind, thrown]⟩

/-- The writer appends some code, or throws. -/
def Appending (write : EStateM ε (List β) Unit) : Prop :=
  ∃ code fits, Writes write code fits

theorem Appending.bind {write write' : EStateM ε (List β) Unit} (first : Appending write)
    (next : Appending write') : Appending (write >>= fun _ => write') := by
  rcases first with ⟨code, fits, writes⟩
  rcases next with ⟨code', fits', writes'⟩
  exact ⟨code ++ code', fits ∧ fits', writes.bind writes'⟩

/-- What was in the buffer stays in front of what is written. -/
theorem Appending.ok {write : EStateM ε (List β) Unit} (appending : Appending write)
    {buffer buffer' : List β} {value : Unit} (written : write buffer = .ok value buffer') :
    ∃ code, buffer' = buffer ++ code := by
  rcases appending with ⟨code, fits, writes⟩
  by_cases fit : fits
  · rw [writes.appends fit] at written
    cases written
    exact ⟨code, rfl⟩
  · rcases writes.throws fit buffer with ⟨fault, buffer'', thrown⟩
    rw [written] at thrown
    cases thrown

/-! ## Readers -/

variable [Input β γ σ]

/-- The reader turns `code` into `value` if the value is valid, and throws otherwise. -/
structure Reads (read : EStateM ε σ α) (code : List β) (valid : Prop) (value : α)
    (effect : γ → γ) : Prop where
  accepts : valid → ∀ (rest : List β) (built : γ),
    read (Input.state (code ++ rest) built) = .ok value (Input.state rest (effect built))
  refuses : ¬ valid → ∀ (rest : List β) (built : γ), ∃ fault state,
    read (Input.state (code ++ rest) built) = .error fault state

theorem Reads.pure (value : α) :
    Reads (pure value : EStateM ε σ α) ([] : List β) True value id where
  accepts := fun _ _ _ => rfl
  refuses := fun invalid => (invalid trivial).elim

/-- A reader that gives up refuses every code. -/
theorem Reads.throw (fault : ε) (value : α) :
    Reads (throw fault : EStateM ε σ α) ([] : List β) False value id where
  accepts := fun valid => valid.elim
  refuses := fun _ rest built => ⟨fault, Input.state rest built, rfl⟩

theorem Reads.congr {read : EStateM ε σ α} {code : List β} {valid valid' : Prop} {value : α}
    {effect : γ → γ} (reads : Reads read code valid value effect) (same : valid ↔ valid') :
    Reads read code valid' value effect where
  accepts := fun good => reads.accepts (same.mpr good)
  refuses := fun bad => reads.refuses fun good => bad (same.mp good)

theorem Reads.bind {read : EStateM ε σ α} {next : α → EStateM ε σ δ} {code code' : List β}
    {valid valid' : Prop} {value : α} {value' : δ} {effect effect' : γ → γ}
    (first : Reads read code valid value effect)
    (second : Reads (next value) code' valid' value' effect') :
    Reads (read >>= next) (code ++ code') (valid ∧ valid') value' (effect' ∘ effect) where
  accepts := by
    rintro ⟨good, good'⟩ rest built
    change EStateM.bind read next _ = _
    simp only [EStateM.bind, List.append_assoc, first.accepts good, second.accepts good']
    rfl
  refuses := by
    intro bad rest built
    change ∃ fault state, EStateM.bind read next _ = .error fault state
    by_cases good : valid
    · have bad' : ¬ valid' := fun good' => bad ⟨good, good'⟩
      rcases second.refuses bad' rest (effect built) with ⟨fault, state, thrown⟩
      refine ⟨fault, state, ?_⟩
      simp only [EStateM.bind, List.append_assoc, first.accepts good, thrown]
    · rcases first.refuses good (code' ++ rest) built with ⟨fault, state, thrown⟩
      refine ⟨fault, state, ?_⟩
      simp only [EStateM.bind, List.append_assoc, thrown]

/-! ## Agreement -/

/-- The writer and the reader agree about one value and its code, up to a limit on its size. -/
def Agrees (limit : Nat) (write : EStateM ε (List β) Unit) (read : EStateM ε σ α)
    (size : Nat) (fits valid : Prop) (value : α) (effect : γ → γ) : Prop :=
  ∃ code : List β, code.length = size ∧ Writes write code fits ∧
    (fits → size < limit → Reads read code valid value effect)

namespace Agrees

variable {limit size size' : Nat} {fits fits' valid valid' : Prop}
  {write write' : EStateM ε (List β) Unit} {read : EStateM ε σ α}
  {next : α → EStateM ε σ δ} {value : α} {value' : δ} {effect effect' : γ → γ}

theorem pure (value : α) :
    Agrees limit (Pure.pure ()) (Pure.pure value : EStateM ε σ α) 0 True True value id :=
  ⟨[], rfl, .pure, fun _ _ => .pure value⟩

theorem appending (agrees : Agrees limit write read size fits valid value effect) :
    Appending write := by
  rcases agrees with ⟨code, -, writes, -⟩
  exact ⟨code, fits, writes⟩

/-- One part after another, where both may build. -/
theorem seq (first : Agrees limit write read size fits valid value effect)
    (second : Agrees limit write' (next value) size' fits' valid' value' effect') :
    Agrees limit (write >>= fun _ => write') (read >>= next) (size + size')
      (fits ∧ fits') (valid ∧ valid') value' (effect' ∘ effect) := by
  rcases first with ⟨code, length, writes, reads⟩
  rcases second with ⟨code', length', writes', reads'⟩
  refine ⟨code ++ code', by rw [List.length_append, length, length'],
    writes.bind writes', ?_⟩
  rintro ⟨fit, fit'⟩ small
  exact (reads fit (by omega)).bind (reads' fit' (by omega))

/-- A field in front of the rest. -/
theorem bind (first : Agrees limit write read size fits valid value id)
    (second : Agrees limit write' (next value) size' fits' valid' value' effect') :
    Agrees limit (write >>= fun _ => write') (read >>= next) (size + size')
      (fits ∧ fits') (valid ∧ valid') value' effect' :=
  first.seq second

/-- A last step of the reader that consumes nothing and may refuse. -/
theorem check (first : Agrees limit write read size fits valid value id)
    (next : α → EStateM ε σ δ)
    (checks : Reads (next value) ([] : List β) valid' value' effect') :
    Agrees limit write (read >>= next) size fits (valid ∧ valid') value' effect' := by
  rcases first with ⟨code, length, writes, reads⟩
  refine ⟨code, length, writes, fun fit small => ?_⟩
  have both := (reads fit small).bind checks
  rw [List.append_nil] at both
  exact both

/-- A last step of the reader that only builds. -/
theorem andThen (first : Agrees limit write read size fits valid value id)
    (next : α → EStateM ε σ δ)
    (builds : ∀ (rest : List β) (built : γ),
      next value (Input.state rest built) = .ok value' (Input.state rest (effect' built))) :
    Agrees limit write (read >>= next) size fits valid value' effect' := by
  have checks : Reads (next value) ([] : List β) True value' effect' :=
    ⟨fun _ => builds, fun bad => (bad trivial).elim⟩
  have both := first.check next checks
  rw [and_true] at both
  exact both

/-- The last field of a record. -/
theorem last (first : Agrees limit write read size fits valid value id) (make : α → δ) :
    Agrees limit write (read >>= fun value => Pure.pure (make value)) size fits valid
      (make value) id :=
  first.andThen (fun value => Pure.pure (make value)) fun _ _ => rfl

/-- A step of the reader in front of the rest that only builds. -/
theorem building {build : EStateM ε σ α} {next : α → EStateM ε σ δ}
    (builds : ∀ (rest : List β) (built : γ),
      build (Input.state rest built) = .ok value (Input.state rest (effect built)))
    (second : Agrees limit write (next value) size fits valid value' effect') :
    Agrees limit write (build >>= next) size fits valid value' (effect' ∘ effect) := by
  rcases second with ⟨code, length, writes, reads⟩
  refine ⟨code, length, writes, fun fit small => ?_⟩
  have step : Reads build ([] : List β) True value effect :=
    ⟨fun _ => builds, fun bad => (bad trivial).elim⟩
  exact (step.bind (reads fit small)).congr (Iff.of_eq (true_and _))

/-- A field that is read in two steps, in front of the rest. -/
theorem bindNested {ζ : Type} {body : α → EStateM ε σ δ} {next : δ → EStateM ε σ ζ} {value : δ}
    {value' : ζ} (first : Agrees limit write (read >>= body) size fits valid value id)
    (second : Agrees limit write' (next value) size' fits' valid' value' effect') :
    Agrees limit (write >>= fun _ => write') (read >>= fun x => body x >>= next)
      (size + size') (fits ∧ fits') (valid ∧ valid') value' effect' := by
  have both := first.bind second
  rw [bind_assoc] at both
  exact both

/-- A last field that is read in two steps. -/
theorem lastNested {ζ : Type} {body : α → EStateM ε σ δ} {value : δ}
    (first : Agrees limit write (read >>= body) size fits valid value id) (make : δ → ζ) :
    Agrees limit write (read >>= fun x => body x >>= fun value => Pure.pure (make value))
      size fits valid (make value) id := by
  have both := first.last make
  rw [bind_assoc] at both
  exact both

/-- The size, the conditions and the value may be put in other words. -/
theorem congr {value' : α} (agrees : Agrees limit write read size fits valid value effect)
    (sameSize : size = size') (sameFits : fits ↔ fits') (sameValid : valid ↔ valid')
    (sameValue : valid → value = value') :
    Agrees limit write read size' fits' valid' value' effect := by
  rcases agrees with ⟨code, length, writes, reads⟩
  refine ⟨code, length.trans sameSize, ?_, ?_⟩
  · exact ⟨fun fit => writes.appends (sameFits.mpr fit),
      fun unfit => writes.throws fun fit => unfit (sameFits.mp fit)⟩
  · intro fit small
    have both := reads (sameFits.mpr fit) (by omega)
    refine ⟨?_, fun bad => both.refuses fun good => bad (sameValid.mp good)⟩
    intro good
    rw [← sameValue (sameValid.mpr good)]
    exact both.accepts (sameValid.mpr good)

theorem congrEffect (agrees : Agrees limit write read size fits valid value effect)
    (same : ∀ built, effect built = effect' built) :
    Agrees limit write read size fits valid value effect' := by
  rwa [← funext same]

end Agrees

end Codec
