import DPUFabric.Pipeline

/-!
# What the calls of the coordinator throw

The engine calls that the coordinator makes for its peers throw short typed errors
only, whatever the engine holds.  No such call runs into undefined behaviour: the
pipeline finds what its own earlier calls have just written.
-/

namespace DPUFabric

open Std
open LiveState
open Exceptions
open EngineM

/-! ## Short errors -/

/-- A typed error whose message is no longer than a string on the wire. -/
def Fault.IsBrief : Fault → Prop
  | .thrown error => (text error.detail).length ≤ Wire.kMaxStringBytes
  | .undefinedBehavior => False

instance (fault : Fault) : Decidable fault.IsBrief :=
  match fault with
  | .thrown error => inferInstanceAs (Decidable ((text error.detail).length ≤ _))
  | .undefinedBehavior => inferInstanceAs (Decidable False)

/-- A program may change its state in any way. -/
abbrev AnyChange {σ : Type} (_ _ : σ) : Prop := True

instance {σ : Type} : Std.Refl (@AnyChange σ) := ⟨fun _ => trivial⟩

instance {σ : Type} : IsTrans σ AnyChange := ⟨fun _ _ _ _ _ => trivial⟩

/-! ## The steps of a call -/

section Steps

variable {faults : Fault → Prop}

theorem EngineM.throwIf_throws {condition : Bool} {fault : Fault} (allowed : faults fault) :
    Throws AnyChange faults (throwIf condition fault) := by
  constructor
  intro e
  cases condition with
  | false => trivial
  | true => exact ⟨allowed, trivial⟩

theorem EngineM.find_throws {κ α : Type} {cmp : κ → κ → Ordering} [TransCmp cmp]
    {table : ExtTreeMap κ α cmp} {key : κ} {fault : Fault} (allowed : faults fault) :
    Throws AnyChange faults (find table key fault) := by
  constructor
  intro e
  unfold find
  cases table[key]? with
  | none => exact ⟨allowed, trivial⟩
  | some value => trivial

theorem EngineM.live_throws : Throws AnyChange faults live :=
  ⟨fun _ => trivial⟩

theorem EngineM.nextId_throws {tag : IdTag} :
    Throws AnyChange faults (nextId : EngineM (Id tag)) :=
  ⟨fun _ => trivial⟩

theorem EngineM.write_throws (change : LiveState → LiveState) :
    Throws AnyChange faults (write change) :=
  ⟨fun _ => trivial⟩

theorem EngineM.rebuildSnapshot_throws : Throws AnyChange faults rebuildSnapshot :=
  ⟨fun _ => trivial⟩

theorem Engine.namedService_throws {s : LiveState} {req : OffloadRequest}
    (allowed : faults (.error .notFound "service not found")) :
    Throws AnyChange faults (Engine.namedService s req) := by
  unfold Engine.namedService
  split
  · exact .pure none
  · exact (find_throws allowed).bind fun _ => .pure _

end Steps

/-! ## The calls -/

theorem Engine.registerWorker_throws (worker : WorkerId) (boot : WorkerBootId) :
    Throws AnyChange Fault.IsBrief (Engine.registerWorker worker boot) := by
  unfold Engine.registerWorker
  refine (throwIf_throws (by decide)).bind fun _ => (throwIf_throws (by decide)).bind fun _ =>
    live_throws.bind fun s => ?_
  split
  · exact throwIf_throws (by decide)
  · exact (write_throws _).bind fun _ => rebuildSnapshot_throws

theorem Engine.registerDevice_throws (record : DeviceRecord) :
    Throws AnyChange Fault.IsBrief (Engine.registerDevice record) :=
  (throwIf_throws (by decide)).bind fun _ => live_throws.bind fun _ =>
    (throwIf_throws (by decide)).bind fun _ => (write_throws _).bind fun _ =>
    rebuildSnapshot_throws.bind fun _ => .pure _

theorem Engine.updateDevice_throws (record : DeviceRecord) :
    Throws AnyChange Fault.IsBrief (Engine.updateDevice record) :=
  (throwIf_throws (by decide)).bind fun _ => live_throws.bind fun _ =>
    (find_throws (by decide)).bind fun _ => (throwIf_throws (by decide)).bind fun _ =>
    (write_throws _).bind fun _ => rebuildSnapshot_throws.bind fun _ => .pure _

theorem Engine.reserveDeployment_throws (req : OffloadRequest) (selected : Option DeviceId) :
    Throws AnyChange Fault.IsBrief (Engine.reserveDeployment req selected) := by
  unfold Engine.reserveDeployment
  split
  · exact .throw (by decide)
  refine live_throws.bind fun s => (find_throws (by decide)).bind fun dev =>
    (throwIf_throws (by decide)).bind fun _ =>
    (Engine.namedService_throws (by decide)).bind fun svc =>
    nextId_throws.bind fun id => nextId_throws.bind fun attempt =>
    (find_throws (by decide)).bind fun ledger => (throwIf_throws (by decide)).bind fun _ => ?_
  split
  · rename_i fault refused
    unfold ResourceLedger.tryReserve at refused
    split_ifs at refused
    cases refused
    exact .throw (by decide)
  · exact (write_throws _).bind fun _ => rebuildSnapshot_throws.bind fun _ => .pure id

theorem evaluate_throws {F : Type} [ScoreArith F] {e : Engine} {req : OffloadRequest}
    {fault : Fault} (thrown : e.evaluate F req = .error fault) : fault.IsBrief := by
  unfold Engine.evaluate evaluateOffload at thrown
  split_ifs at thrown with low calm
  · cases thrown
    decide
  · cases thrown
    decide
  · simp only at thrown
    split at thrown <;> cases thrown

/-- On any engine, the pipeline throws no more than a short typed error. -/
theorem Engine.createDeployment_throws (F : Type) [ScoreArith F] (req : OffloadRequest) :
    Throws AnyChange Fault.IsBrief (Engine.createDeployment F req) := by
  constructor
  intro e
  cases evaluated : e.evaluate F req with
  | error fault =>
      rw [createDeployment_of_error evaluated]
      exact ⟨evaluate_throws evaluated, trivial⟩
  | ok elig =>
  cases chosen : elig.selected with
  | none =>
      rw [createDeployment_of_unselected evaluated chosen]
      trivial
  | some did =>
  cases returned : Engine.reserveDeployment req (some did) e with
  | error fault e' =>
      have brief := (Engine.reserveDeployment_throws req (some did)).outcome e
      rw [returned] at brief
      rw [createDeployment_of_selected evaluated chosen, Exceptions.bind_of_error returned]
      exact brief
  | ok id e' =>
      obtain ⟨dev, svc, ledger, dep, reserves⟩ := Engine.reserves_of_returns returned
      obtain ⟨e₄, reached, state₄⟩ :=
        createDeployment_of_reserves evaluated chosen returned reserves
      have located : e.state.devices[dep.device]? = some dev := by
        rw [reserves.device]
        exact reserves.present
      rw [reached]
      cases current : Engine.programIsCurrent e.state dep with
      | true =>
          obtain ⟨e₅, committed, -⟩ :=
            Engine.commitDeployment_returns state₄ rfl located reserves.ready current rfl
          rw [Exceptions.bind_of_ok committed]
          trivial
      | false =>
          have thrown := Engine.commitDeployment_stale state₄ rfl located reserves.ready current
          rw [Exceptions.bind_of_error thrown]
          exact ⟨by decide, trivial⟩

end DPUFabric
