import DPUFabric.Footprint
import DPUFabric.Recovery

/-!
# Boot identities of a worker

A worker process names itself with a boot identity, and a restarted one with a new
one.  The engine keeps the boot of a registered worker only: it refuses another
boot while the worker is registered, and forgets the boot when the worker is lost.
`Registrar` runs the engine next to the registrations that it has accepted, which
it would have to remember.
-/

namespace DPUFabric

open Std
open LiveState
open Persistence

/-! ## The calls of a worker -/

/-- The worker and the boot that a call is made for. -/
def Op.boot : Op → Option (WorkerId × WorkerBootId)
  | .registerWorker worker boot => some (worker, boot)
  | .workerHeartbeat worker boot => some (worker, boot)
  | _ => none

section Calls

variable (e : Engine) (worker : WorkerId) (boot : WorkerBootId)

theorem Engine.registerWorker_succeeds_iff :
    Engine.succeeds (Engine.exec (.registerWorker worker boot)) e = true ↔
      worker ≠ .null ∧ boot ≠ .null ∧
        ∀ known, e.state.workers[worker]? = some known → known = boot := by
  by_cases named : worker = .null
  · simp [Engine.succeeds, Engine.exec, Engine.registerWorker, named]
  by_cases booted : boot = .null
  · simp [Engine.succeeds, Engine.exec, Engine.registerWorker, named, booted]
  cases found : e.state.workers[worker]? with
  | none => simp [Engine.succeeds, Engine.exec, Engine.registerWorker, named, booted, found]
  | some known =>
      by_cases same : known = boot <;>
        simp [Engine.succeeds, Engine.exec, Engine.registerWorker, named, booted, found, same]

theorem Engine.workerHeartbeat_succeeds_iff :
    Engine.succeeds (Engine.exec (.workerHeartbeat worker boot)) e = true ↔
      e.state.workers[worker]? = some boot := by
  by_cases known : e.state.workers[worker]? = some boot <;>
    simp [Engine.succeeds, Engine.exec, Engine.workerHeartbeat, known]

end Calls

/-- A state file does not name the registered workers. -/
theorem keptByRecovery_workers (workers : ExtTreeMap WorkerId WorkerBootId) :
    KeptByRecovery fun s => s.workers = workers where
  writes := by
    intro change writes out same
    cases writes <;> exact same
  fences := fun _ same => same
  rebuilds := by
    intro out same
    rw [rebuildLedgers_eq]
    exact same

/-- A worker is known with the boot it had, or with the one it has just registered. -/
theorem Engine.worker_of_present (e : Engine) (op : Op) {worker : WorkerId}
    {boot : WorkerBootId} (present : (e.step op).state.workers[worker]? = some boot) :
    e.state.workers[worker]? = some boot ∨
      op = .registerWorker worker boot ∧ Engine.succeeds (Engine.exec op) e = true := by
  have plainCase : ∀ (e : Engine) (op : Op), op.isPlain = true →
      (e.step op).state.workers[worker]? = some boot →
      e.state.workers[worker]? = some boot ∨
        op = .registerWorker worker boot ∧ Engine.succeeds (Engine.exec op) e = true := by
    intro e op plain present
    rcases Engine.step_cases e plain with ⟨s, seq, accepted, result⟩ | ⟨-, quiet⟩
    · rw [result] at present
      rcases accepted.worker_of_present present with known | ⟨registers, -⟩
      · exact Or.inl known
      · exact Or.inr ⟨registers, Engine.succeeds_of_accepted plain accepted⟩
    · rw [quiet.state] at present
      exact Or.inl present
  cases op with
  | recoverFrom file =>
      rw [Engine.step_recoverFrom_keeps (keptByRecovery_workers e.state.workers) rfl] at present
      exact Or.inl present
  | runAllBackends discovered =>
      left
      rw [Engine.step_runAllBackends] at present
      revert present
      refine TransitionRun.run_invariant_of_step
        (fun reached : Engine => reached.state.workers[worker]? = some boot →
          e.state.workers[worker]? = some boot) ?_ id _
      intro reached record before after
      rcases plainCase reached _ (Engine.importCall_isPlain reached record) after with
        known | ⟨registers, -⟩
      · exact before known
      · unfold Engine.importCall at registers
        split at registers <;> cases registers
  | _ => exact plainCase e _ rfl present

/-! ## The log of registrations -/

/-- An engine, and the registrations it has accepted, the oldest first. -/
structure Registrar where
  engine : Engine
  log : List (WorkerId × WorkerBootId)

namespace Registrar

def logged (r : Registrar) : Op → List (WorkerId × WorkerBootId)
  | .registerWorker worker boot =>
      if Engine.succeeds (Engine.exec (.registerWorker worker boot)) r.engine = true then
        r.log ++ [(worker, boot)]
      else r.log
  | _ => r.log

def step (r : Registrar) (op : Op) : Registrar where
  engine := r.engine.step op
  log := r.logged op

end Registrar

/-- Another boot of the worker was registered after this one. -/
def Superseded (log : List (WorkerId × WorkerBootId)) (worker : WorkerId)
    (boot : WorkerBootId) : Prop :=
  ∃ before after other, log = before ++ (worker, boot) :: after ∧
    (worker, other) ∈ after ∧ other ≠ boot

theorem Superseded.mem {log : List (WorkerId × WorkerBootId)} {worker : WorkerId}
    {boot : WorkerBootId} (superseded : Superseded log worker boot) : (worker, boot) ∈ log := by
  obtain ⟨before, after, other, rfl, -⟩ := superseded
  simp

/-- One registration more supersedes the other boots of its worker, and no more. -/
theorem superseded_append {log : List (WorkerId × WorkerBootId)} {worker last : WorkerId}
    {boot newest : WorkerBootId}
    (superseded : Superseded (log ++ [(last, newest)]) worker boot) :
    Superseded log worker boot ∨ last = worker ∧ newest ≠ boot := by
  obtain ⟨before, after, other, whole, later, differs⟩ := superseded
  rcases List.eq_nil_or_concat after with rfl | ⟨front, final, rfl⟩
  · cases later
  · rw [List.concat_eq_append, ← List.cons_append, ← List.append_assoc] at whole
    obtain ⟨split, same⟩ := List.append_inj' whole rfl
    cases same
    rw [List.concat_eq_append] at later
    rcases List.mem_append.mp later with early | late
    · exact Or.inl ⟨before, front, other, split, early, differs⟩
    · cases List.mem_singleton.mp late
      exact Or.inr ⟨rfl, differs⟩

/-! ## The property -/

/-- A call for a superseded boot does not succeed. -/
def NeverReturns (r : Registrar) (op : Op) : Prop :=
  ∀ worker boot, op.boot = some (worker, boot) →
    Engine.succeeds (Engine.exec op) r.engine = true → ¬ Superseded r.log worker boot

/-- A worker that is not registered does not register a superseded boot. -/
def FreshBoot (r : Registrar) : Op → Prop
  | .registerWorker worker boot =>
      r.engine.state.workers[worker]? = none → ¬ Superseded r.log worker boot
  | _ => True

/-- What the log says of the workers that are registered. -/
structure Current (r : Registrar) : Prop where
  boots : ∀ (worker : WorkerId) (boot : WorkerBootId),
    r.engine.state.workers[worker]? = some boot → ¬ Superseded r.log worker boot
  named : ∀ worker boot, (worker, boot) ∈ r.log → worker ≠ .null ∧ boot ≠ .null

theorem Current.neverReturns_iff {r : Registrar} (current : Current r) (op : Op) :
    NeverReturns r op ↔ FreshBoot r op := by
  cases op with
  | registerWorker worker boot =>
      constructor
      · intro never absent superseded
        obtain ⟨named, booted⟩ := current.named worker boot superseded.mem
        refine never worker boot rfl ?_ superseded
        rw [Engine.registerWorker_succeeds_iff]
        refine ⟨named, booted, fun known present => ?_⟩
        rw [absent] at present
        cases present
      · rintro fresh _ _ ⟨⟩ succeeds
        cases found : r.engine.state.workers[worker]? with
        | none => exact fresh found
        | some known =>
            have same := ((Engine.registerWorker_succeeds_iff _ _ _).mp succeeds).2.2 known found
            rw [← same]
            exact current.boots worker known found
  | workerHeartbeat worker boot =>
      refine iff_of_true ?_ trivial
      rintro _ _ ⟨⟩ succeeds
      exact current.boots worker boot ((Engine.workerHeartbeat_succeeds_iff _ _ _).mp succeeds)
  | _ => exact iff_of_true (by rintro _ _ ⟨⟩) trivial

theorem Current.step {r : Registrar} {op : Op} (never : NeverReturns r op)
    (current : Current r) : Current (r.step op) := by
  -- The log grows by a registration that succeeds.
  have grown : (r.step op).log = r.log ∨
      ∃ worker boot, op = .registerWorker worker boot ∧
        Engine.succeeds (Engine.exec op) r.engine = true ∧
        (r.step op).log = r.log ++ [(worker, boot)] := by
    cases op with
    | registerWorker worker boot =>
        simp only [Registrar.step, Registrar.logged]
        split_ifs with succeeds
        · exact Or.inr ⟨worker, boot, rfl, succeeds, rfl⟩
        · exact Or.inl rfl
    | _ => exact Or.inl rfl
  constructor
  · intro worker boot present superseded
    have before : ¬ Superseded r.log worker boot := by
      rcases r.engine.worker_of_present op present with known | ⟨rfl, succeeds⟩
      · exact current.boots worker boot known
      · exact never worker boot rfl succeeds
    rcases grown with same | ⟨last, newest, rfl, succeeds, longer⟩
    · rw [same] at superseded
      exact before superseded
    · rw [longer] at superseded
      rcases superseded_append superseded with old | ⟨rfl, differs⟩
      · exact before old
      · rcases r.engine.worker_of_present _ present with known | ⟨registers, -⟩
        · exact differs (((Engine.registerWorker_succeeds_iff _ _ _).mp succeeds).2.2
            boot known).symm
        · cases registers
          exact differs rfl
  · intro worker boot member
    rcases grown with same | ⟨last, newest, rfl, succeeds, longer⟩
    · rw [same] at member
      exact current.named worker boot member
    · rw [longer] at member
      rcases List.mem_append.mp member with old | new
      · exact current.named worker boot old
      · cases List.mem_singleton.mp new
        obtain ⟨named, booted, -⟩ := (Engine.registerWorker_succeeds_iff _ _ _).mp succeeds
        exact ⟨named, booted⟩

/--
In every run, no call for a superseded boot succeeds exactly when no worker that is
not registered at the time registers a superseded boot.
-/
theorem supersededBoot_returns_iff (e : Engine) (ops : List Op) :
    TransitionRun.Every Registrar.step NeverReturns ⟨e, []⟩ ops ↔
      TransitionRun.Every Registrar.step FreshBoot ⟨e, []⟩ ops := by
  refine TransitionRun.every_iff_of_invariant Current
    (fun r op current => current.neverReturns_iff op)
    (fun r op never current => current.step never) ?_ ops
  constructor
  · rintro worker boot - superseded
    cases superseded.mem
  · intro worker boot member
    cases member

/-- A worker comes back under the boot it had before the last one. -/
theorem supersededBoot_returns :
    ∃ ops, (∀ op ∈ ops, op.boot.isSome = true ∨ ∃ worker, op = .markWorkerLost worker) ∧
      ¬ TransitionRun.Every Registrar.step NeverReturns ⟨Engine.sampleEngine, []⟩ ops := by
  refine ⟨[.registerWorker ⟨1⟩ ⟨100⟩, .markWorkerLost ⟨1⟩, .registerWorker ⟨1⟩ ⟨200⟩,
    .markWorkerLost ⟨1⟩, .registerWorker ⟨1⟩ ⟨100⟩], ?_, ?_⟩
  · intro op member
    fin_cases member
    all_goals first | exact Or.inl rfl | exact Or.inr ⟨_, rfl⟩
  · rintro ⟨-, -, -, -, never, -⟩
    exact never ⟨1⟩ ⟨100⟩ rfl (by decide) ⟨[], _, ⟨200⟩, rfl, by decide, by decide⟩

end DPUFabric
