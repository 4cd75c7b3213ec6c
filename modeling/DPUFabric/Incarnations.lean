import DPUFabric.AtomicReplace
import DPUFabric.Publication
import DPUFabric.RoundTrip

/-!
# Coordinator incarnations over one state file

A coordinator process starts with a fresh engine, recovers from the state file if
there is one, serves calls, and persists at any moment.  It may crash at any
moment too, also between two steps of a save; the next process then finds the
file as it was left.  An error of the recovery ends the process, as in the
coordinator's `main`.

Whatever happened before, the state file is missing or was written by `save` for
a snapshot whose tables fit together.  So every recovery of such a process is the
one `Snapshot.recovered` describes, or it is refused.
-/

namespace DPUFabric

open Std
open Persistence

/-! ## What a recovery makes of a saved snapshot -/

namespace Snapshot

/-- The live state of a fresh engine that recovered from the snapshot's file. -/
def recovered (s : Snapshot) (base : Policy) : LiveState :=
  (s.restored base).rebuildLedgers

theorem recovered_eq (s : Snapshot) (base : Policy) :
    s.recovered base =
      { s.restored base with
        epoch := ⟨nextGeneration (max s.epoch.value 1)⟩
        ledgers := (s.recovered base).ledgers
        usage := (s.recovered base).usage } :=
  (s.restored base).rebuildLedgers_eq

section Tables

variable (s : Snapshot) (base : Policy)

theorem recovered_epoch :
    (s.recovered base).epoch = ⟨nextGeneration (max s.epoch.value 1)⟩ := by
  rw [recovered_eq]

theorem recovered_policy : (s.recovered base).policy = s.restoredPolicy base := by
  rw [recovered_eq]
  rfl

theorem recovered_devices :
    (s.recovered base).devices = s.devices.map fun _ d => fenceRecoveredDevice d.rekeyed := by
  rw [recovered_eq]
  rfl

theorem recovered_deployments :
    (s.recovered base).deployments =
      s.deployments.map fun _ dep => fenceRecoveredDeployment dep := by
  rw [recovered_eq]
  rfl

end Tables

theorem fenceRecoveredDevice_deviceId (d : DeviceRecord) :
    (fenceRecoveredDevice d.rekeyed).deviceId = d.deviceId := by
  simp only [fenceRecoveredDevice]
  split_ifs <;> rfl

theorem fenceRecoveredDeployment_deploymentId (dep : Deployment) :
    (fenceRecoveredDeployment dep).deploymentId = dep.deploymentId := by
  simp only [fenceRecoveredDeployment]
  split_ifs <;> rfl

/-- A recovery keeps the tables together. -/
theorem Consistent.recovered {s : Snapshot} (consistent : s.Consistent) (base : Policy) :
    (makeSnapshot (s.recovered base)).Consistent := by
  rw [recovered_eq]
  refine { consistent with listed := ?_, devices := ?_, deployments := ?_ }
  · intro id
    change id ∈ s.deviceOrder ↔
      ∃ d, (s.devices.map fun _ d => fenceRecoveredDevice d.rekeyed)[id]? = some d
    rw [consistent.listed]
    simp [ExtTreeMap.getElem?_map]
  · intro id d present
    change (s.devices.map fun _ d => fenceRecoveredDevice d.rekeyed)[id]? = some d at present
    rw [ExtTreeMap.getElem?_map, Option.map_eq_some_iff] at present
    rcases present with ⟨old, present, rfl⟩
    rw [fenceRecoveredDevice_deviceId]
    exact consistent.devices id old present
  · intro id dep present
    change (s.deployments.map fun _ dep => fenceRecoveredDeployment dep)[id]? = some dep
      at present
    rw [ExtTreeMap.getElem?_map, Option.map_eq_some_iff] at present
    rcases present with ⟨old, present, rfl⟩
    rw [fenceRecoveredDeployment_deploymentId]
    exact consistent.deployments id old present

end Snapshot

namespace Engine

/-- A fresh engine that has recovered from the snapshot's file. -/
def successor (s : Snapshot) (policy : Policy) : Engine :=
  { state := s.recovered policy, snap := makeSnapshot (s.recovered policy) }

@[simp]
theorem successor_state (s : Snapshot) (policy : Policy) :
    (successor s policy).state = s.recovered policy :=
  rfl

/-- A fresh engine that recovers from the state file; an error ends the process. -/
def boot (file : Option (List UInt8)) (epoch : CoordinatorEpoch) (policy : Policy) :
    Option Engine :=
  match recoverFrom file (fresh epoch policy) with
  | .ok _ e => some e
  | .error _ _ => none

/-- Without a state file the process starts as it was built. -/
theorem boot_missing (epoch : CoordinatorEpoch) (policy : Policy) :
    boot none epoch policy = some (fresh epoch policy) :=
  rfl

variable {s : Snapshot} {file : List UInt8}

theorem recoverFrom_saved (consistent : s.Consistent) (saved : serialize s = .ok file)
    (storable : s.Storable) (epoch : CoordinatorEpoch) (policy : Policy) :
    recoverFrom (some file) (fresh epoch policy) = .ok true (successor s policy) := by
  have loaded := load_fresh consistent saved storable epoch policy
  simp only [recoverFrom, fresh, loaded]
  rfl

theorem recoverFrom_refused (counted : s.DevicesCounted) (saved : serialize s = .ok file)
    (unfit : ¬ s.Storable) (epoch : CoordinatorEpoch) (policy : Policy) :
    ∃ fault e, recoverFrom (some file) (fresh epoch policy) = .error fault e := by
  rcases load_refuses counted saved unfit { epoch := epoch, policy := policy } with
    ⟨fault, out, refused⟩
  refine ⟨fault, { fresh epoch policy with state := out }, ?_⟩
  simp only [recoverFrom, fresh, refused]

/-- A saved file is recovered from exactly if it is storable. -/
theorem recoverFrom_succeeds_iff (counted : s.DevicesCounted) (saved : serialize s = .ok file)
    (epoch : CoordinatorEpoch) (policy : Policy) :
    (∃ e, recoverFrom (some file) (fresh epoch policy) = .ok true e) ↔ s.Storable := by
  constructor
  · rintro ⟨e, recovered⟩
    by_contra unfit
    rcases recoverFrom_refused counted saved unfit epoch policy with ⟨fault, e', refused⟩
    rw [recovered] at refused
    cases refused
  · intro storable
    have loaded := load_saved counted saved storable { epoch := epoch, policy := policy }
    simp only [recoverFrom, fresh, loaded]
    exact ⟨_, rfl⟩

/-- What is recovered from a file does not depend on the snapshot that it was saved for. -/
theorem restored_of_same_file {s' : Snapshot} (consistent : s.Consistent)
    (consistent' : s'.Consistent) (saved : serialize s = .ok file)
    (saved' : serialize s' = .ok file) (storable : s.Storable) (base : Policy) :
    s'.Storable ∧ s.restored base = s'.restored base := by
  have recovered := (recoverFrom_succeeds_iff consistent.devicesCounted saved ⟨1⟩ base).mpr storable
  have storable' := (recoverFrom_succeeds_iff consistent'.devicesCounted saved' ⟨1⟩ base).mp recovered
  have loaded := load_fresh consistent saved storable ⟨1⟩ base
  rw [load_fresh consistent' saved' storable' ⟨1⟩ base, EStateM.Result.ok.injEq] at loaded
  exact ⟨storable', loaded.2.symm⟩

theorem boot_saved (consistent : s.Consistent) (saved : serialize s = .ok file)
    (storable : s.Storable) (epoch : CoordinatorEpoch) (policy : Policy) :
    boot (some file) epoch policy = some (successor s policy) := by
  rw [boot, recoverFrom_saved consistent saved storable]

theorem boot_refused (consistent : s.Consistent) (saved : serialize s = .ok file)
    (unfit : ¬ s.Storable) (epoch : CoordinatorEpoch) (policy : Policy) :
    boot (some file) epoch policy = none := by
  rcases recoverFrom_refused consistent.devicesCounted saved unfit epoch policy with
    ⟨fault, e, refused⟩
  rw [boot, refused]

/-- The epoch a call commits an authority under. -/
def granted (e : Engine) (op : Op) : List CoordinatorEpoch :=
  match op with
  | .commitDeployment id => if succeeds (commitDeployment id) e then [e.state.epoch] else []
  | _ => []

/-- The epochs that a run commits under, the last one first. -/
def grantedAlong (e : Engine) : List Op → List CoordinatorEpoch
  | [] => []
  | op :: rest => (e.step op).grantedAlong rest ++ e.granted op

end Engine

/-! ## Incarnations -/

/-- The files, and the engine of the process that runs, if one does. -/
structure World where
  disk : Disk := {}
  engine : Option Engine := none
  /-- The deployments the running process started with. -/
  inherited : ExtTreeMap DeploymentId Deployment := ∅
  /-- The epochs under which authority was committed, by any process so far. -/
  committed : List CoordinatorEpoch := []

/-- What can happen next; a recovery is made at the start of a process only. -/
inductive Event where
  | start (epoch : CoordinatorEpoch) (policy : Policy)
  | call (op : Op) (ordinary : Engine.recovers op = false)
  /-- A save runs to its end, or the process crashes after some of its steps. -/
  | persist (fault : SaveFault) (crash : Option Nat)
  | crash

namespace World

def step (w : World) : Event → World
  | .start epoch policy =>
      let engine := Engine.boot w.disk.path epoch policy
      { w with
        engine := engine
        inherited := engine.elim ∅ (·.state.deployments) }
  | .call op _ =>
      match w.engine with
      | none => w
      | some e =>
          { w with
            engine := some (e.step op)
            committed := e.granted op ++ w.committed }
  | .persist fault crash =>
      match w.engine with
      | none => w
      | some e =>
          let plan := save e.snap fault
          { w with
            disk := w.disk.after (plan.steps.take (crash.getD plan.steps.length))
            engine := if crash.isSome then none else some e }
  | .crash => { w with engine := none }

/-- The world after a list of events. -/
abbrev run (w : World) (events : List Event) : World := TransitionRun.run step w events

/-- Calls that no process start lies between. -/
def calls (ops : List Op) (ordinary : ∀ op ∈ ops, Engine.recovers op = false) : List Event :=
  ops.pmap .call ordinary

/-- A world without a state file, in which no process runs. -/
def empty : World := {}

/-- How the engine that runs after an event came to run. -/
inductive Origin (w : World) : Event → Engine → Prop
  | started {epoch : CoordinatorEpoch} {policy : Policy} {e : Engine}
      (booted : Engine.boot w.disk.path epoch policy = some e)
      (inherits : (w.step (.start epoch policy)).inherited = e.state.deployments) :
      Origin w (.start epoch policy) e
  | called {op : Op} {ordinary : Engine.recovers op = false} {e : Engine}
      (running : w.engine = some e)
      (result : w.step (.call op ordinary) =
        { w with engine := some (e.step op), committed := e.granted op ++ w.committed }) :
      Origin w (.call op ordinary) (e.step op)
  | persisted {fault : SaveFault} {e : Engine} (running : w.engine = some e)
      (result : w.step (.persist fault none) =
        { w with disk := w.disk.after (save e.snap fault).steps }) :
      Origin w (.persist fault none) e

theorem origin {w : World} {event : Event} {e : Engine}
    (running : (w.step event).engine = some e) : Origin w event e := by
  cases event with
  | start epoch policy =>
      change Engine.boot w.disk.path epoch policy = some e at running
      refine .started running ?_
      simp only [step, running, Option.elim_some]
  | call op ordinary =>
      cases before : w.engine with
      | none =>
          simp only [step, before] at running
          cases running
      | some old =>
          simp only [step, before] at running
          cases running
          exact .called before (by simp only [step, before])
  | persist fault crash =>
      cases before : w.engine with
      | none =>
          simp only [step, before] at running
          cases running
      | some old =>
          cases crash with
          | none =>
              simp only [step, before] at running
              cases running
              refine .persisted before ?_
              simp [step, before]
          | some point =>
              simp only [step, before] at running
              cases running
  | crash => cases running

/-- Calls are a run of the engine, and leave the files alone. -/
theorem run_calls {w : World} {e : Engine} (running : w.engine = some e) {ops : List Op}
    (ordinary : ∀ op ∈ ops, Engine.recovers op = false) :
    w.run (calls ops ordinary) =
      { w with
        engine := some (e.run ops)
        committed := e.grantedAlong ops ++ w.committed } := by
  induction ops generalizing w e with
  | nil =>
      change w = { w with engine := some e }
      rw [← running]
  | cons op rest ih =>
      have here : w.step (.call op (ordinary op List.mem_cons_self)) =
          { w with engine := some (e.step op), committed := e.granted op ++ w.committed } := by
        simp only [step, running]
      change (w.step (.call op _)).run (calls rest _) = _
      rw [here, ih rfl fun other member => ordinary other (List.mem_cons_of_mem op member)]
      simp [Engine.grantedAlong, Engine.run]

/-- A process that starts and serves calls. -/
theorem run_process {w : World} {epoch : CoordinatorEpoch} {policy : Policy} {e : Engine}
    (started : Engine.boot w.disk.path epoch policy = some e) {ops : List Op}
    (ordinary : ∀ op ∈ ops, Engine.recovers op = false) :
    w.run (.start epoch policy :: calls ops ordinary) =
      { disk := w.disk
        engine := some (e.run ops)
        inherited := e.state.deployments
        committed := e.grantedAlong ops ++ w.committed } := by
  have running : (w.step (.start epoch policy)).engine = some e := started
  change (w.step (.start epoch policy)).run (calls ops ordinary) = _
  rw [run_calls running ordinary]
  simp only [step, started, Option.elim_some]

/-- A save that meets no fault leaves the bytes of the published snapshot. -/
theorem step_persist {w : World} {e : Engine} (running : w.engine = some e)
    {file : List UInt8} (saved : serialize e.snap = .ok file) :
    w.step (.persist .noFault none) = { w with disk := { path := some file, tmp := none } } := by
  have plan : save e.snap .noFault = replaceFile file .noFault := by rw [save, saved]
  simp only [step, running, plan, Option.getD_none, List.take_length]
  rw [← running]
  rfl

/-! ## What holds in every world -/

/-- The file was written for a snapshot whose tables fit together. -/
def IsSaved (file : List UInt8) : Prop :=
  ∃ s : Snapshot, s.Consistent ∧ serialize s = .ok file

/-- The engine's tables fit together and its snapshot is current. -/
structure Coherent (e : Engine) : Prop where
  consistent : (makeSnapshot e.state).Consistent
  published : Published e

theorem Coherent.snap {e : Engine} (coherent : Coherent e) : e.snap.Consistent := by
  rw [coherent.published]
  exact coherent.consistent

structure Sound (w : World) : Prop where
  file : ∀ file, w.disk.path = some file → IsSaved file
  engine : ∀ e, w.engine = some e → Coherent e

/-- A process that has started is one that was built, or that recovered. -/
theorem boot_cases {file : Option (List UInt8)}
    (isSaved : ∀ bytes, file = some bytes → IsSaved bytes)
    {epoch : CoordinatorEpoch} {policy : Policy} {e : Engine}
    (started : Engine.boot file epoch policy = some e) :
    file = none ∧ e = Engine.fresh epoch policy ∨
      ∃ (bytes : List UInt8) (s : Snapshot), file = some bytes ∧ s.Consistent ∧ s.Storable ∧
        serialize s = .ok bytes ∧ e = Engine.successor s policy := by
  cases file with
  | none =>
      rw [Engine.boot_missing] at started
      cases started
      exact Or.inl ⟨rfl, rfl⟩
  | some bytes =>
      rcases isSaved bytes rfl with ⟨s, consistent, saved⟩
      by_cases storable : s.Storable
      · rw [Engine.boot_saved consistent saved storable] at started
        cases started
        exact Or.inr ⟨bytes, s, rfl, consistent, storable, saved, rfl⟩
      · rw [Engine.boot_refused consistent saved storable] at started
        cases started

/-- After a save the state file is missing, the one it was, or the new one. -/
theorem path_after_save (d : Disk) (s : Snapshot) (fault : SaveFault) (crash : Nat)
    {file : List UInt8}
    (found : (d.after ((save s fault).steps.take crash)).path = some file) :
    d.path = some file ∨ serialize s = .ok file := by
  rw [path_save] at found
  cases written : serialize s with
  | error thrown =>
      rw [written] at found
      exact Or.inl found
  | ok new =>
      simp only [written] at found
      split_ifs at found
      · cases found
        exact Or.inr rfl
      · exact Or.inl found

/-- The state file changes in a save only, to the bytes of the published snapshot. -/
theorem path_step {w : World} {event : Event} {file : List UInt8}
    (found : (w.step event).disk.path = some file) :
    w.disk.path = some file ∨
      ∃ fault crash e, event = .persist fault crash ∧ w.engine = some e ∧
        serialize e.snap = .ok file := by
  cases event with
  | start epoch policy => exact Or.inl found
  | call op ordinary =>
      cases running : w.engine with
      | none =>
          simp only [step, running] at found
          exact Or.inl found
      | some e =>
          simp only [step, running] at found
          exact Or.inl found
  | persist fault crash =>
      cases running : w.engine with
      | none =>
          simp only [step, running] at found
          exact Or.inl found
      | some e =>
          simp only [step, running] at found
          rcases path_after_save _ _ _ _ found with old | saved
          · exact Or.inl old
          · exact Or.inr ⟨fault, crash, e, rfl, rfl, saved⟩
  | crash => exact Or.inl found

theorem Sound.step {w : World} (sound : Sound w) (event : Event) : Sound (w.step event) := by
  constructor
  · intro file found
    rcases path_step found with old | ⟨-, -, e, -, running, saved⟩
    · exact sound.file file old
    · exact ⟨e.snap, (sound.engine e running).snap, saved⟩
  · intro e running
    cases origin running with
    | started booted inherits =>
        rename_i epoch policy
        rcases boot_cases sound.file booted with
          ⟨-, rfl⟩ | ⟨bytes, s, -, consistent, -, -, rfl⟩
        · exact ⟨consistent_fresh epoch policy, rfl⟩
        · exact ⟨consistent.recovered policy, rfl⟩
    | called before result =>
        rename_i op ordinary old
        have coherent := sound.engine old before
        exact ⟨Engine.consistent_step ordinary coherent.consistent,
          Engine.step_snap old ordinary coherent.published⟩
    | persisted before result => exact sound.engine e before

theorem sound_run (events : List Event) : Sound (empty.run events) := by
  refine TransitionRun.run_invariant_of_step Sound (fun w event sound => sound.step event) ?_
    events
  constructor
  · intro file found
    cases found
  · intro e running
    cases running

/-! ## A sample restart -/

/-- A process with the default policy starts and serves calls. -/
def sampleProcess (ops : List Op) (plain : ∀ op ∈ ops, Engine.recovers op = false) :
    List Event :=
  .start ⟨1⟩ (Policy.defaults ⟨1⟩) :: calls ops plain

/-- Such a process persists at last, and another one takes over. -/
def sampleRestart (ops again : List Op) (plain : ∀ op ∈ ops, Engine.recovers op = false)
    (plain' : ∀ op ∈ again, Engine.recovers op = false) : List Event :=
  sampleProcess ops plain ++ .persist .noFault none :: sampleProcess again plain'

theorem run_sampleProcess {ops : List Op} (plain : ∀ op ∈ ops, Engine.recovers op = false) :
    empty.run (sampleProcess ops plain) =
      { engine := some (Engine.sampleEngine.run ops)
        committed := Engine.sampleEngine.grantedAlong ops } := by
  have served := run_process (w := empty) (Engine.boot_missing ⟨1⟩ (Policy.defaults ⟨1⟩)) plain
  rw [sampleProcess, served]
  simp [empty, Engine.sampleEngine, Engine.fresh]

theorem run_sampleRestart {ops again : List Op}
    (plain : ∀ op ∈ ops, Engine.recovers op = false)
    (plain' : ∀ op ∈ again, Engine.recovers op = false) {s : Snapshot}
    (published : (Engine.sampleEngine.run ops).snap = s) (writable : s.Writable)
    (storable : s.Storable) :
    ∃ file, serialize s = .ok file ∧
      empty.run (sampleRestart ops again plain plain') =
        { disk := { path := some file }
          engine := some ((Engine.successor s (Policy.defaults ⟨1⟩)).run again)
          inherited := (Engine.successor s (Policy.defaults ⟨1⟩)).state.deployments
          committed :=
            (Engine.successor s (Policy.defaults ⟨1⟩)).grantedAlong again ++
              Engine.sampleEngine.grantedAlong ops } := by
  have first := run_sampleProcess plain
  have running : (empty.run (sampleProcess ops plain)).engine =
      some (Engine.sampleEngine.run ops) := by rw [first]
  have consistent := ((sound_run (sampleProcess ops plain)).engine _ running).snap
  rw [published] at consistent
  rcases (serialize_ok_iff consistent.devicesCounted).mpr writable with ⟨file, saved⟩
  have persisted := step_persist running (published ▸ saved)
  rw [first] at persisted
  have started := Engine.boot_saved consistent saved storable ⟨1⟩ (Policy.defaults ⟨1⟩)
  refine ⟨file, saved, ?_⟩
  rw [sampleRestart, run, TransitionRun.run_append, TransitionRun.run_cons]
  change (step (empty.run (sampleProcess ops plain)) _).run _ = _
  rw [first, persisted, sampleProcess, run_process started plain']

end World

end DPUFabric
