import DPUFabric.PartialRecovery

/-!
# Engines that recover while they run

`recover_from` is a public call, so an engine may be told to recover at any time
and from any file, not only by the process that has just built it.  The file is
then laid over the tables that are there.  Nothing that was proved of the start of
a process is left for such an engine: its device order may list a device twice,
and it may persist that.
-/

namespace DPUFabric

open Std
open ParallelRun
open Persistence

/-! ## Which files are accepted -/

namespace Persistence

/-- Whether a load accepts the file; what it is loaded over does not matter. -/
def isAccepted (file : Option (List UInt8)) : Bool :=
  match load file {} with
  | .ok existed _ => existed
  | .error _ _ => false

theorem load_ok_iff (file : Option (List UInt8)) (s : LiveState) :
    (∃ out, load file s = .ok true out) ↔ isAccepted file = true := by
  have alike : Parallel (fun _ _ => True) (load file) :=
    parallel_load (fun _ _ _ _ => trivial) (fun _ _ _ => trivial) file
  have both := alike {} s trivial
  unfold isAccepted
  revert both
  cases load file {} <;> cases load file s <;> intro both <;> cases both <;> simp

theorem isMalformed_of_isAccepted {file : Option (List UInt8)}
    (accepted : isAccepted file = true) : isMalformed file = false := by
  rcases (load_ok_iff file {}).mpr accepted with ⟨out, loaded⟩
  cases load_cases file {} with
  | missing absent result =>
      rw [loaded] at result
      cases result
  | rejected empty wellFormed result => exact wellFormed
  | malformed isMalformed overlay result =>
      rw [loaded] at result
      cases result
  | accepted wellFormed overlay result => exact wellFormed

/-- An accepted file holds an epoch, and the load writes it. -/
theorem load_epoch {file : Option (List UInt8)} {s out : LiveState}
    (loaded : load file s = .ok true out) :
    ∃ epoch, persistedEpoch file = some epoch ∧ out.epoch = ⟨max epoch 1⟩ := by
  cases file with
  | none => cases loaded
  | some buf =>
      cases opened : openContainer buf with
      | error refusal =>
          simp only [load, opened] at loaded
          cases loaded
      | ok payload =>
          simp only [load, opened, loadPayload_apply] at loaded
          by_cases short : payload.length < 8
          · rcases loadSections_of_short short s with ⟨fault, ahead, refused⟩
            rw [refused] at loaded
            cases loaded
          · rcases u64_of_long (by omega : 8 ≤ payload.length) with ⟨epoch, ahead, found⟩
            have written := loadSections_of_long found s
            refine ⟨epoch, by simp [persistedEpoch, opened, found], ?_⟩
            cases read : loadSections ⟨payload, s⟩ with
            | error fault reached =>
                rw [read] at loaded
                cases loaded
            | ok value reached =>
                rw [read] at loaded written
                cases loaded
                cases written with
                | ok states => exact states.2

end Persistence

namespace Engine

theorem recoverFrom_ok_iff (file : Option (List UInt8)) (e : Engine) :
    (∃ e', recoverFrom file e = .ok true e') ↔ isAccepted file = true := by
  rw [← load_ok_iff file e.state]
  unfold recoverFrom
  cases loaded : load file e.state with
  | ok existed out => cases existed <;> simp
  | error fault out => simp

theorem step_of_recovered {file : Option (List UInt8)} {existed : Bool} {e e' : Engine}
    (recovered : recoverFrom file e = .ok existed e') : e.step (.recoverFrom file) = e' := by
  rw [step, exec, after, discard_apply, recovered]

/-- A recovery takes the epoch after that of the file, whatever the engine's was. -/
theorem recoverFrom_epoch {file : Option (List UInt8)} {e e' : Engine}
    (recovered : recoverFrom file e = .ok true e') :
    ∃ epoch, persistedEpoch file = some epoch ∧
      e'.state.epoch = ⟨nextGeneration (max epoch 1)⟩ := by
  unfold recoverFrom at recovered
  cases loaded : load file e.state with
  | error fault out =>
      rw [loaded] at recovered
      cases recovered
  | ok existed out =>
      rw [loaded] at recovered
      cases existed with
      | false => cases recovered
      | true =>
          cases recovered
          rcases load_epoch loaded with ⟨epoch, persisted, written⟩
          refine ⟨epoch, persisted, ?_⟩
          rw [if_pos rfl, LiveState.rebuildLedgers_eq, written]

/-- A recovery that returns has found its file, if there is one. -/
theorem recoverFrom_existed {bytes : List UInt8} {existed : Bool} {e e' : Engine}
    (recovered : recoverFrom (some bytes) e = .ok existed e') : existed = true := by
  unfold recoverFrom at recovered
  cases load_cases (some bytes) e.state with
  | missing absent result => cases absent
  | rejected empty wellFormed result =>
      rw [result] at recovered
      cases recovered
  | malformed isMalformed overlay result =>
      rw [result] at recovered
      cases recovered
  | accepted wellFormed overlay result =>
      rw [result] at recovered
      cases recovered
      rfl

/-- It publishes the state it leaves. -/
theorem recoverFrom_published {file : Option (List UInt8)} {existed : Bool} {e e' : Engine}
    (recovered : recoverFrom file e = .ok existed e') : Published e' := by
  unfold recoverFrom at recovered
  cases loaded : load file e.state with
  | error fault out =>
      rw [loaded] at recovered
      cases recovered
  | ok existed out =>
      rw [loaded] at recovered
      cases recovered
      rfl

/-- What a process starts with. -/
theorem boot_eq_some {file : Option (List UInt8)} {epoch : CoordinatorEpoch} {policy : Policy}
    {e : Engine} (booted : boot file epoch policy = some e) :
    file = none ∧ e = fresh epoch policy ∨ recoverFrom file (fresh epoch policy) = .ok true e := by
  cases file with
  | none =>
      rw [boot_missing] at booted
      cases booted
      exact .inl ⟨rfl, rfl⟩
  | some bytes =>
      right
      unfold boot at booted
      cases recovered : recoverFrom (some bytes) (fresh epoch policy) with
      | error fault e' =>
          rw [recovered] at booted
          cases booted
      | ok existed e' =>
          rw [recovered] at booted
          cases booted
          rw [recoverFrom_existed recovered]

end Engine

/-! ## Incidents -/

/-- What can happen to incarnations, when a running engine may recover from any file. -/
inductive Incident where
  | event (event : Event)
  | recover (file : Option (List UInt8))

namespace World

def happen (w : World) : Incident → World
  | .event event => w.step event
  | .recover file => { w with engine := w.engine.map (·.step (.recoverFrom file)) }

/-- The world after a list of incidents. -/
abbrev endure (w : World) (incidents : List Incident) : World :=
  TransitionRun.run happen w incidents

theorem endure_append (w : World) (first second : List Incident) :
    w.endure (first ++ second) = (w.endure first).endure second :=
  TransitionRun.run_append happen w first second

/-- Incarnations that recover at their start only are such worlds. -/
theorem endure_events (w : World) (events : List Event) :
    w.endure (events.map .event) = w.run events := by
  induction events generalizing w with
  | nil => rfl
  | cons event rest ih => exact ih (w.step event)

/-- Where the engine comes from that runs after an incident. -/
theorem happen_engine {w : World} {incident : Incident} {e : Engine}
    (running : (w.happen incident).engine = some e) :
    (∃ event, incident = .event event ∧ Origin w event e) ∨
      ∃ file old, incident = .recover file ∧ w.engine = some old ∧
        e = old.step (.recoverFrom file) := by
  cases incident with
  | event event => exact .inl ⟨event, rfl, origin running⟩
  | recover file =>
      rcases Option.map_eq_some_iff.mp running with ⟨old, before, rfl⟩
      exact .inr ⟨file, old, rfl, before, rfl⟩

end World

end DPUFabric
