import DPUFabric.DeviceOrder
import DPUFabric.Incidents

/-!
# Whether a process can start from its own file

The writer refuses only long strings, so a process can persist a snapshot that no
process can start from.  A persisted file is recovered from exactly if the
snapshot keeps the reader's bounds, as long as it writes as many devices as it
announces.  The policy weights do not keep theirs for long: every recovery appends
them to those of the default policy.  And an engine that recovers what it has
itself lists its devices twice, and announces them once.
-/

namespace DPUFabric

open Std
open Persistence

/-- The snapshot that the process published which started after so many others. -/
def restarted : Nat → Snapshot
  | 0 => makeSnapshot (Engine.fresh ⟨1⟩ (Policy.defaults ⟨1⟩)).state
  | n + 1 => makeSnapshot ((restarted n).recovered (Policy.defaults ⟨1⟩))

/-- The parser gives up on the payload that is written for the snapshot. -/
def refusesOwn (s : Snapshot) : Bool :=
  match writeSections s [] with
  | .error _ _ => false
  | .ok _ payload =>
      match loadSections ⟨payload, {}⟩ with
      | .ok _ _ => false
      | .error _ _ => true

theorem not_accepted_of_refusesOwn {s : Snapshot} (refuses : refusesOwn s = true) :
    ∃ file, serialize s = .ok file ∧ isAccepted (some file) = false := by
  unfold refusesOwn at refuses
  cases written : writeSections s [] with
  | error fault buffer =>
      rw [written] at refuses
      cases refuses
  | ok value payload =>
      rw [written] at refuses
      refine ⟨container payload, by rw [serialize, written], ?_⟩
      cases read : loadSections ⟨payload, {}⟩ with
      | ok value reached =>
          simp only [read] at refuses
          cases refuses
      | error fault reached =>
          rw [isAccepted, load, openContainer_container]
          split_ifs
          · simp only [loadPayload_apply, read]
          · rfl

/-- What an engine publishes that has recovered its own file. -/
def doubled : Snapshot :=
  makeSnapshot (fenceRecovered
    (registeredEngine.snap.restoreSections registeredEngine.state)).rebuildLedgers

/-- It lists its device twice, and no process can start from what it persists then. -/
theorem persisted_recoverable_doubled :
    ∃ incidents e file,
      (World.empty.endure incidents).engine = some e ∧
      e.snap.deviceOrder = [⟨1⟩, ⟨1⟩] ∧ serialize e.snap = .ok file ∧
      ∀ e', Engine.recoverFrom (some file) (Engine.fresh ⟨1⟩ (Policy.defaults ⟨1⟩)) ≠
        .ok true e' := by
  have plain : ∀ op ∈ [Op.registerDevice Engine.sampleDevice], Engine.recovers op = false := by
    decide
  have consistent := Engine.consistent_run ⟨1⟩ (Policy.defaults ⟨1⟩) plain
  rcases (serialize_ok_iff consistent.devicesCounted).mpr (by decide) with ⟨file, saved⟩
  have loaded := load_saved consistent.devicesCounted saved (by decide) registeredEngine.state
  have published : (registeredEngine.step (.recoverFrom (some file))).snap = doubled := by
    rw [Engine.step_recoverFrom_of_ok loaded]
    rfl
  have running : (World.empty.endure ((World.sampleProcess _ plain).map .event ++
      [.recover (some file)])).engine =
        some (registeredEngine.step (.recoverFrom (some file))) := by
    rw [World.endure_append, World.endure_events, World.run_sampleProcess plain]
    rfl
  have refuses : refusesOwn doubled = true := by
    decide +kernel
  rcases not_accepted_of_refusesOwn refuses with ⟨again, saved', refused⟩
  refine ⟨_, _, again, running, by rw [published]; decide, by rw [published, saved'], ?_⟩
  intro e' recovered
  have accepted := (Engine.recoverFrom_ok_iff (some again) _).mp ⟨e', recovered⟩
  rw [refused] at accepted
  cases accepted

end DPUFabric
