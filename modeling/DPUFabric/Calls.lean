import DPUFabric.Engine
import DPUFabric.Library.Exceptions

/-!
# What a call can do

`Accepted` lists, for every call, the conditions under which it is accepted
and the live state it then leaves.  `step_cases` says that a step is either
accepted, with a freshly published snapshot, or refused, and that a refused
call consumes at most identities.  Invariants are proved from these two facts;
no later proof opens the code of a call again.

`run_all_backends` and `recover_from` have their own lemmas.
-/

namespace DPUFabric

open Std

/-! ## The calls grouped -/

/-- The three calls which only move a deployment along the table. -/
def Op.moves : Op → Option (DeploymentId × DeploymentState)
  | .stageDeployment id => some (id, .staging)
  | .loadDeployment id => some (id, .loaded)
  | .validateDeployment id => some (id, .validating)
  | _ => none

/-- The five calls which end a deployment's use of its device. -/
def Op.ends : Op → Option (DeploymentId × LiveState.Ending)
  | .cancelDeployment id => some (id, LiveState.cancelEnding)
  | .rollbackDeployment id => some (id, LiveState.rollbackEnding)
  | .drainDeployment id => some (id, LiveState.drainEnding)
  | .retireDeployment id => some (id, LiveState.retireEnding)
  | .failDeployment id _ _ => some (id, LiveState.failEnding)
  | _ => none

/-- Every call but the backend loop and recovery from a file. -/
def Op.isPlain : Op → Bool
  | .runAllBackends _ => false
  | .recoverFrom _ => false
  | _ => true

/-- The services a request can name: none, or a registered one. -/
def Offers (s : LiveState) (req : OffloadRequest) (svc : Option ServiceDefinition) :
    Prop :=
  match req.service with
  | none => svc = none
  | some id => ∃ found, s.services[id]? = some found ∧ svc = some found

/-- The accepted calls, with the live state and the identity counter they leave. -/
inductive Accepted (s : LiveState) (seq : Nat) : Op → LiveState → Nat → Prop
  | registerDevice {rec : DeviceRecord}
      (named : rec.deviceId ≠ .null) (absent : s.devices[rec.deviceId]? = none) :
      Accepted s seq (.registerDevice rec) (s.registerDevice rec) seq
  | updateDevice {rec old : DeviceRecord}
      (named : rec.deviceId ≠ .null) (present : s.devices[rec.deviceId]? = some old)
      (agrees : Engine.conflicts old rec = false) :
      Accepted s seq (.updateDevice rec) (s.updateDevice rec) seq
  | retireDevice {id : DeviceId} {dev : DeviceRecord}
      (present : s.devices[id]? = some dev) :
      Accepted s seq (.retireDevice id) (s.retireDevice id) seq
  | transitionDevice {id : DeviceId} {target : DeviceLifecycle} {dev : DeviceRecord}
      (present : s.devices[id]? = some dev)
      (valid : validDeviceTransition dev.lifecycle (.declared target) = true) :
      Accepted s seq (.transitionDevice id target) (s.transitionDevice id target) seq
  | setDeviceState {id : DeviceId} {state : CapabilityState} {cap : CapabilityKey}
      {dev : DeviceRecord} (present : s.devices[id]? = some dev) :
      Accepted s seq (.setDeviceState id state cap) (s.setDeviceState id state cap) seq
  | fenceDevice {id : DeviceId} {reason : Text} {dev : DeviceRecord}
      (present : s.devices[id]? = some dev) :
      Accepted s seq (.fenceDevice id reason) (s.fenceDevice id reason) seq
  | registerService {svc : ServiceDefinition}
      (named : svc.serviceId ≠ .null) (absent : s.services[svc.serviceId]? = none) :
      Accepted s seq (.registerService svc) (s.registerService svc) seq
  | registerProgram {art : ProgramArtifact}
      (named : art.programId ≠ .null) (versioned : art.programGen ≠ .null) :
      Accepted s seq (.registerProgram art) (s.registerProgram art) seq
  | retireProgram {id : ProgramId} (present : s.programs.contains id = true) :
      Accepted s seq (.retireProgram id) (s.retireProgram id) seq
  | registerWorker {worker : WorkerId} {boot : WorkerBootId}
      (named : worker ≠ .null) (booted : boot ≠ .null)
      (absent : s.workers[worker]? = none) :
      Accepted s seq (.registerWorker worker boot) (s.registerWorker worker boot) seq
  | markWorkerLost {worker : WorkerId} :
      Accepted s seq (.markWorkerLost worker) (s.markWorkerLost worker) seq
  | reserveDeployment {req : OffloadRequest} {device : DeviceId} {dev : DeviceRecord}
      {svc : Option ServiceDefinition} {ledger : ResourceLedger} {dep : Deployment}
      (present : s.devices[device]? = some dev) (ready : dev.isReadyForOffload = true)
      (offered : Offers s req svc) (accounted : s.ledgers[device]? = some ledger)
      (made : dep = s.reservedDeployment req device dev svc
        ⟨UInt64.ofNat seq⟩ ⟨UInt64.ofNat (seq + 1)⟩)
      (admitted : ledger.canReserve dep.resources = true) :
      Accepted s seq (.reserveDeployment req (some device))
        (s.reserveDeployment (ledger.apply dep.resources) dep) (seq + 2)
  | moveDeployment {op : Op} {id : DeploymentId} {target : DeploymentState}
      {dep : Deployment} (moves : op.moves = some (id, target))
      (present : s.deployments[id]? = some dep)
      (valid : validDeploymentTransition dep.state target = true) :
      Accepted s seq op (s.doDeployTransition id target) seq
  | activateDeployment {id : DeploymentId} {dep : Deployment}
      (present : s.deployments[id]? = some dep)
      (valid : validDeploymentTransition dep.state .activating = true) :
      Accepted s seq (.activateDeployment id)
        ((s.doDeployTransition id .activating).activateDeployment id
          (LiveState.pendingActivation dep id ⟨UInt64.ofNat seq⟩)) (seq + 1)
  | commitDeployment {id : DeploymentId} {dep : Deployment} {dev : DeviceRecord}
      {aid : ActivationId} {act : ActivationRecord}
      (present : s.deployments[id]? = some dep)
      (activating : dep.state = .activating)
      (located : s.devices[dep.device]? = some dev)
      (ready : dev.isReadyForOffload = true)
      (current : Engine.programIsCurrent s dep = true)
      (linked : dep.activation = some aid)
      (recorded : s.activations[aid]? = some act) :
      Accepted s seq (.commitDeployment id)
        (s.commitDeployment id aid (s.grantedAuthority dep dev)) seq
  | endDeployment {op : Op} {id : DeploymentId} {ending : LiveState.Ending}
      {dep : Deployment} (ends : op.ends = some (id, ending))
      (present : s.deployments[id]? = some dep)
      (allowed : ending.allows dep.state = true) :
      Accepted s seq op (s.endDeployment ending id dep) seq
  | advanceEpoch : Accepted s seq .advanceEpoch s.advanceEpoch seq
  | applyRecovery {p : RecoveryPolicy} :
      Accepted s seq (.applyRecovery p) (s.applyRecovery p) seq

/-- What an accepted registration found, and what it leaves. -/
theorem Accepted.of_registerDevice {s s' : LiveState} {seq seq' : Nat} {rec : DeviceRecord}
    (accepted : Accepted s seq (.registerDevice rec) s' seq') :
    rec.deviceId ≠ .null ∧ s.devices[rec.deviceId]? = none ∧ s' = s.registerDevice rec := by
  cases accepted with
  | registerDevice named absent => exact ⟨named, absent, rfl⟩
  | moveDeployment moves => cases moves
  | endDeployment ends => cases ends

/-- What an accepted commit found of the deployment. -/
theorem Accepted.of_commitDeployment {s s' : LiveState} {seq seq' : Nat} {id : DeploymentId}
    {dep : Deployment} (accepted : Accepted s seq (.commitDeployment id) s' seq')
    (present : s.deployments[id]? = some dep) :
    dep.state = .activating ∧ Engine.programIsCurrent s dep = true ∧
      ∃ dev, s.devices[dep.device]? = some dev ∧ dev.isReadyForOffload = true := by
  cases accepted with
  | commitDeployment found activating located ready current =>
      rw [present] at found
      cases found
      exact ⟨activating, current, _, located, ready⟩
  | moveDeployment moves => cases moves
  | endDeployment ends => cases ends

/-- Identities are only ever consumed. -/
theorem Accepted.seq_le
    {s s' : LiveState} {seq seq' : Nat} {op : Op}
    (accepted : Accepted s seq op s' seq') :
    seq ≤ seq' := by
  cases accepted <;> omega

namespace Engine

open EngineM LiveState

/-! ## Calls step by step -/

section Calls

variable {α β : Type} (e : Engine)

@[simp]
theorem live_bind (next : LiveState → EngineM β) :
    (live >>= next) e = next e.state e :=
  rfl

@[simp]
theorem throwIf_bind (condition : Bool) (fault : Fault) (next : Unit → EngineM β) :
    (throwIf condition fault >>= next) e =
      if condition = true then .error fault e else next () e := by
  cases condition <;> rfl

@[simp]
theorem throwIf_apply (condition : Bool) (fault : Fault) :
    throwIf condition fault e =
      if condition = true then .error fault e else .ok () e :=
  rfl

theorem find_bind_none {κ : Type} {cmp : κ → κ → Ordering} [TransCmp cmp]
    {table : ExtTreeMap κ α cmp} {key : κ} (absent : table[key]? = none)
    (fault : Fault) (next : α → EngineM β) :
    (find table key fault >>= next) e = .error fault e := by
  have missing : find table key fault e = .error fault e := by simp [find, absent]
  exact Exceptions.bind_of_error missing

theorem find_bind_some {κ : Type} {cmp : κ → κ → Ordering} [TransCmp cmp]
    {table : ExtTreeMap κ α cmp} {key : κ} {value : α}
    (present : table[key]? = some value)
    (fault : Fault) (next : α → EngineM β) :
    (find table key fault >>= next) e = next value e := by
  have found : find table key fault e = .ok value e := by simp [find, present]
  exact Exceptions.bind_of_ok found

@[simp]
theorem write_bind (change : LiveState → LiveState) (next : Unit → EngineM β) :
    (write change >>= next) e = next () { e with state := change e.state } :=
  rfl

@[simp]
theorem rebuildSnapshot_bind (next : Unit → EngineM β) :
    (rebuildSnapshot >>= next) e = next () { e with snap := makeSnapshot e.state } :=
  rfl

@[simp]
theorem rebuildSnapshot_apply :
    rebuildSnapshot e = .ok () { e with snap := makeSnapshot e.state } :=
  rfl

@[simp]
theorem nextId_bind {tag : IdTag} (next : Id tag → EngineM β) :
    (nextId >>= next) e =
      next ⟨UInt64.ofNat e.idSeq⟩ { e with idSeq := e.idSeq + 1 } :=
  rfl

@[simp]
theorem return_apply (value : α) : (pure value : EngineM α) e = .ok value e :=
  rfl

@[simp]
theorem throw_apply (fault : Fault) : (throw fault : EngineM α) e = .error fault e :=
  rfl

@[simp]
theorem map_apply (change : α → β) (call : EngineM α) :
    (change <$> call) e =
      match call e with
      | .ok value e => .ok (change value) e
      | .error fault e => .error fault e := by
  change EStateM.map change call e = _
  unfold EStateM.map
  cases call e <;> rfl

@[simp]
theorem discard_apply (call : EngineM α) :
    discard call e =
      match call e with
      | .ok _ e => .ok () e
      | .error fault e => .error fault e := by
  change EStateM.map (Function.const α PUnit.unit) call e = _
  unfold EStateM.map
  cases call e <;> rfl

end Calls

/-! ## Accepted or refused -/

/-- A refused call leaves the live state and the snapshot as they were. -/
structure Quiet (e e' : Engine) : Prop where
  state : e'.state = e.state
  snap : e'.snap = e.snap
  idSeq : e.idSeq ≤ e'.idSeq

theorem Quiet.refl (e : Engine) : Quiet e e :=
  ⟨rfl, rfl, le_rfl⟩

/-- The calls that may return without writing: they only check a worker's boot. -/
def mayIdle : Op → Bool
  | .registerWorker _ _ => true
  | .workerHeartbeat _ _ => true
  | _ => false

/-- The three ways a call can go. -/
inductive Outcome (e : Engine) (op : Op) : Prop
  | accepted {s : LiveState} {seq : Nat} (accepted : Accepted e.state e.idSeq op s seq)
      (result : exec op e =
        .ok () { state := s, snap := makeSnapshot s, idSeq := seq })
  | thrown {fault : Fault} {e' : Engine}
      (refused : ∀ s seq, ¬ Accepted e.state e.idSeq op s seq)
      (result : exec op e = .error fault e') (quiet : Quiet e e')
  | idle (idles : mayIdle op = true)
      (refused : ∀ s seq, ¬ Accepted e.state e.idSeq op s seq)
      (result : exec op e = .ok () e)

section Outcomes

variable {e : Engine}

attribute [local simp] exec Op.moves Op.ends

theorem Outcome.of_error {op : Op} {fault : Fault}
    (refused : ∀ s seq, ¬ Accepted e.state e.idSeq op s seq)
    (result : exec op e = .error fault e) :
    Outcome e op :=
  .thrown refused result (.refl e)

theorem registerDevice_outcome (rec : DeviceRecord) :
    Outcome e (.registerDevice rec) := by
  by_cases named : rec.deviceId = .null
  · refine .of_error ?_ (by simp [registerDevice, named]; rfl)
    rintro _ _ ⟨⟩ <;> simp_all
  · cases found : e.state.devices[rec.deviceId]? with
    | none =>
        have unknown := (OrderedMap.contains_eq_false_iff _ _).mpr found
        refine .accepted (.registerDevice named found) ?_
        simp [registerDevice, named, unknown]
    | some old =>
        have known := (OrderedMap.contains_eq_true_iff _ _).mpr ⟨old, found⟩
        refine .of_error ?_ (by simp [registerDevice, named, known]; rfl)
        rintro _ _ ⟨⟩ <;> simp_all

theorem updateDevice_outcome (rec : DeviceRecord) :
    Outcome e (.updateDevice rec) := by
  by_cases named : rec.deviceId = .null
  · refine .of_error ?_ (by simp [updateDevice, named]; rfl)
    rintro _ _ ⟨⟩ <;> simp_all
  · cases found : e.state.devices[rec.deviceId]? with
    | none =>
        refine .of_error ?_
          (by simp [updateDevice, named, find_bind_none _ found]; rfl)
        rintro _ _ ⟨⟩ <;> simp_all
    | some old =>
        cases clash : conflicts old rec with
        | true =>
            refine .of_error ?_ (by
              simp [updateDevice, named, find_bind_some _ found, clash]; rfl)
            rintro _ _ ⟨⟩ <;> simp_all
        | false =>
            refine .accepted (.updateDevice named found clash) ?_
            simp [updateDevice, named, find_bind_some _ found, clash]

theorem retireDevice_outcome (id : DeviceId) :
    Outcome e (.retireDevice id) := by
  cases found : e.state.devices[id]? with
  | none =>
      refine .of_error ?_ (by simp [retireDevice, find_bind_none _ found]; rfl)
      rintro _ _ ⟨⟩ <;> simp_all
  | some dev =>
      refine .accepted (.retireDevice found) ?_
      simp [retireDevice, find_bind_some _ found]

theorem transitionDevice_outcome (id : DeviceId) (target : DeviceLifecycle) :
    Outcome e (.transitionDevice id target) := by
  cases found : e.state.devices[id]? with
  | none =>
      refine .of_error ?_
        (by simp [transitionDevice, find_bind_none _ found]; rfl)
      rintro _ _ ⟨⟩ <;> simp_all
  | some dev =>
      cases valid : validDeviceTransition dev.lifecycle (.declared target) with
      | false =>
          refine .of_error ?_
            (by simp [transitionDevice, find_bind_some _ found, valid]; rfl)
          rintro _ _ ⟨⟩ <;> simp_all
      | true =>
          refine .accepted (.transitionDevice found valid) ?_
          simp [transitionDevice, find_bind_some _ found, valid]

theorem setDeviceState_outcome (id : DeviceId) (state : CapabilityState)
    (cap : CapabilityKey) :
    Outcome e (.setDeviceState id state cap) := by
  cases found : e.state.devices[id]? with
  | none =>
      refine .of_error ?_
        (by simp [setDeviceState, find_bind_none _ found]; rfl)
      rintro _ _ ⟨⟩ <;> simp_all
  | some dev =>
      refine .accepted (.setDeviceState found) ?_
      simp [setDeviceState, find_bind_some _ found]

theorem fenceDevice_outcome (id : DeviceId) (reason : Text) :
    Outcome e (.fenceDevice id reason) := by
  cases found : e.state.devices[id]? with
  | none =>
      refine .of_error ?_ (by simp [fenceDevice, find_bind_none _ found]; rfl)
      rintro _ _ ⟨⟩ <;> simp_all
  | some dev =>
      refine .accepted (.fenceDevice found) ?_
      simp [fenceDevice, find_bind_some _ found]

theorem registerService_outcome (svc : ServiceDefinition) :
    Outcome e (.registerService svc) := by
  by_cases named : svc.serviceId = .null
  · refine .of_error ?_ (by simp [registerService, named]; rfl)
    rintro _ _ ⟨⟩ <;> simp_all
  · cases found : e.state.services[svc.serviceId]? with
    | none =>
        have unknown := (OrderedMap.contains_eq_false_iff _ _).mpr found
        refine .accepted (.registerService named found) ?_
        simp [registerService, named, unknown]
    | some old =>
        have known := (OrderedMap.contains_eq_true_iff _ _).mpr ⟨old, found⟩
        refine .of_error ?_ (by simp [registerService, named, known]; rfl)
        rintro _ _ ⟨⟩ <;> simp_all

theorem registerProgram_outcome (art : ProgramArtifact) :
    Outcome e (.registerProgram art) := by
  by_cases named : art.programId = .null
  · refine .of_error ?_ (by simp [registerProgram, named]; rfl)
    rintro _ _ ⟨⟩ <;> simp_all
  · by_cases versioned : art.programGen = .null
    · refine .of_error ?_ (by simp [registerProgram, named, versioned]; rfl)
      rintro _ _ ⟨⟩ <;> simp_all
    · refine .accepted (.registerProgram named versioned) ?_
      simp [registerProgram, named, versioned]

theorem retireProgram_outcome (id : ProgramId) :
    Outcome e (.retireProgram id) := by
  cases known : e.state.programs.contains id with
  | false =>
      refine .of_error ?_ (by simp [retireProgram, known]; rfl)
      rintro _ _ ⟨⟩ <;> simp_all
  | true =>
      refine .accepted (.retireProgram known) ?_
      simp [retireProgram, known]

theorem registerWorker_outcome (worker : WorkerId) (boot : WorkerBootId) :
    Outcome e (.registerWorker worker boot) := by
  by_cases named : worker = .null
  · refine .of_error ?_ (by simp [registerWorker, named]; rfl)
    rintro _ _ ⟨⟩ <;> simp_all
  by_cases booted : boot = .null
  · refine .of_error ?_ (by simp [registerWorker, named, booted]; rfl)
    rintro _ _ ⟨⟩ <;> simp_all
  cases found : e.state.workers[worker]? with
  | none =>
      refine .accepted (.registerWorker named booted found) ?_
      simp [registerWorker, named, booted, found]
  | some known =>
      have refused : ∀ s seq, ¬ Accepted e.state e.idSeq (.registerWorker worker boot) s seq := by
        rintro _ _ ⟨⟩ <;> simp_all
      by_cases same : known = boot
      · refine .idle rfl refused ?_
        simp [registerWorker, named, booted, found, same]
      · refine .of_error refused
          (by simp [registerWorker, named, booted, found, same]; rfl)

theorem workerHeartbeat_outcome (worker : WorkerId) (boot : WorkerBootId) :
    Outcome e (.workerHeartbeat worker boot) := by
  have refused : ∀ s seq, ¬ Accepted e.state e.idSeq (.workerHeartbeat worker boot) s seq := by
    rintro _ _ ⟨⟩ <;> simp_all
  by_cases known : e.state.workers[worker]? = some boot
  · exact .idle rfl refused (by simp [workerHeartbeat, known])
  · exact .of_error refused (by simp [workerHeartbeat, known]; rfl)

theorem markWorkerLost_outcome (worker : WorkerId) :
    Outcome e (.markWorkerLost worker) :=
  .accepted .markWorkerLost (by simp [markWorkerLost])

theorem advanceEpoch_outcome : Outcome e .advanceEpoch :=
  .accepted .advanceEpoch (by simp [advanceEpoch])

theorem applyRecovery_outcome (p : RecoveryPolicy) : Outcome e (.applyRecovery p) :=
  .accepted .applyRecovery (by simp [applyRecovery])

/-- The calls that move a deployment run `do_deploy_transition`. -/
theorem moveDeployment_outcome {op : Op} {id : DeploymentId} {target : DeploymentState}
    (moves : op.moves = some (id, target))
    (code : exec op = doDeployTransition id target) :
    Outcome e op := by
  have apart : op.ends = none := by
    cases op <;> first | rfl | cases moves
  cases found : e.state.deployments[id]? with
  | none =>
      refine .of_error ?_
        (by rw [code]; simp [doDeployTransition, find_bind_none _ found]; rfl)
      rintro _ _ ⟨⟩ <;> simp_all
  | some dep =>
      cases valid : validDeploymentTransition dep.state target with
      | false =>
          refine .of_error ?_ (by
            rw [code]; simp [doDeployTransition, find_bind_some _ found, valid]; rfl)
          rintro _ _ ⟨⟩ <;> simp_all
      | true =>
          refine .accepted (.moveDeployment moves found valid) ?_
          rw [code]
          simp [doDeployTransition, find_bind_some _ found, valid]

/-- The calls that end a deployment differ in their `Ending` and their refusal. -/
theorem endDeployment_outcome {op : Op} {id : DeploymentId} {ending : Ending}
    {refusal : Fault} (ends : op.ends = some (id, ending))
    (code : exec op = endDeployment ending refusal id) :
    Outcome e op := by
  have apart : op.moves = none := by
    cases op <;> first | rfl | cases ends
  cases found : e.state.deployments[id]? with
  | none =>
      refine .of_error ?_
        (by rw [code]; simp [endDeployment, find_bind_none _ found]; rfl)
      rintro _ _ ⟨⟩ <;> simp_all
  | some dep =>
      cases allowed : ending.allows dep.state with
      | false =>
          refine .of_error ?_ (by
            rw [code]; simp [endDeployment, find_bind_some _ found, allowed]; rfl)
          rintro _ _ ⟨⟩ <;> simp_all
      | true =>
          refine .accepted (.endDeployment ends found allowed) ?_
          rw [code]
          simp [endDeployment, find_bind_some _ found, allowed]

theorem activateDeployment_outcome (id : DeploymentId) :
    Outcome e (.activateDeployment id) := by
  cases found : e.state.deployments[id]? with
  | none =>
      refine .of_error ?_ (by
        simp [activateDeployment, doDeployTransition, bind_assoc,
          find_bind_none _ found]
        rfl)
      rintro _ _ ⟨⟩ <;> simp_all
  | some dep =>
      cases valid : validDeploymentTransition dep.state .activating with
      | false =>
          refine .of_error ?_ (by
            simp [activateDeployment, doDeployTransition, bind_assoc,
              find_bind_some _ found, valid]
            rfl)
          rintro _ _ ⟨⟩ <;> simp_all
      | true =>
          refine .accepted (.activateDeployment found valid) ?_
          have moved :
              (e.state.doDeployTransition id .activating).deployments[id]? =
                some { dep with state := .activating, authoritative := false } := by
            simp [LiveState.doDeployTransition, modifyDeployment, found]
          simp [activateDeployment, doDeployTransition, bind_assoc,
            find_bind_some _ found, find_bind_some _ moved, valid, pendingActivation]

/-- The service a request names, if it is registered. -/
theorem offered_or_unknown (s : LiveState) (req : OffloadRequest) :
    (∃ svc, Offers s req svc) ∨ ∃ id, req.service = some id ∧ s.services[id]? = none := by
  unfold Offers
  cases req.service with
  | none => exact Or.inl ⟨none, rfl⟩
  | some id =>
      cases found : s.services[id]? with
      | none => exact Or.inr ⟨id, rfl, found⟩
      | some svc => exact Or.inl ⟨some svc, svc, found, rfl⟩

theorem namedService_bind {β : Type} {s : LiveState} {req : OffloadRequest}
    {svc : Option ServiceDefinition} (offered : Offers s req svc)
    (next : Option ServiceDefinition → EngineM β) (e : Engine) :
    (namedService s req >>= next) e = next svc e := by
  unfold Offers at offered
  unfold namedService
  cases named : req.service with
  | none =>
      rw [named] at offered
      rw [offered]
      rfl
  | some id =>
      rw [named] at offered
      obtain ⟨found, present, rfl⟩ := offered
      simp [map_eq_pure_bind, bind_assoc, find_bind_some _ present, -bind_pure_comp]

theorem namedService_bind_unknown {β : Type} {s : LiveState} {req : OffloadRequest}
    {id : ServiceId} (named : req.service = some id) (absent : s.services[id]? = none)
    (next : Option ServiceDefinition → EngineM β) (e : Engine) :
    (namedService s req >>= next) e =
      .error (.error .notFound "service not found") e := by
  simp [namedService, named, map_eq_pure_bind, bind_assoc, find_bind_none _ absent,
    -bind_pure_comp]

/-- At most one service is offered. -/
theorem offers_unique {s : LiveState} {req : OffloadRequest}
    {left right : Option ServiceDefinition}
    (first : Offers s req left) (second : Offers s req right) : left = right := by
  unfold Offers at first second
  cases named : req.service with
  | none =>
      rw [named] at first second
      exact first.trans second.symm
  | some id =>
      rw [named] at first second
      obtain ⟨found, present, rfl⟩ := first
      obtain ⟨other, again, rfl⟩ := second
      rw [present] at again
      exact again

theorem reserveDeployment_outcome (req : OffloadRequest) (selected : Option DeviceId) :
    Outcome e (.reserveDeployment req selected) := by
  cases selected with
  | none =>
      refine .of_error ?_ (by simp [reserveDeployment]; rfl)
      rintro _ _ ⟨⟩ <;> simp_all
  | some device =>
  cases found : e.state.devices[device]? with
  | none =>
      refine .of_error ?_
        (by simp [reserveDeployment, find_bind_none _ found]; rfl)
      rintro _ _ ⟨⟩ <;> simp_all
  | some dev =>
  cases ready : dev.isReadyForOffload with
  | false =>
      refine .of_error ?_
        (by simp [reserveDeployment, find_bind_some _ found, ready]; rfl)
      rintro _ _ ⟨⟩ <;> simp_all
  | true =>
  rcases offered_or_unknown e.state req with ⟨svc, offered⟩ | ⟨id, named, unknown⟩
  · have quiet : Quiet e { e with idSeq := e.idSeq + 1 + 1 } :=
      ⟨rfl, rfl, Nat.le_add_right e.idSeq 2⟩
    cases accounted : e.state.ledgers[device]? with
    | none =>
        refine .thrown ?_ (by
          simp [reserveDeployment, find_bind_some _ found, ready,
            namedService_bind offered, find_bind_none _ accounted]
          rfl) quiet
        rintro _ _ ⟨⟩ <;> simp_all
    | some ledger =>
        cases admitted : ledger.canReserve (e.state.reservedDeployment req device dev svc
            ⟨UInt64.ofNat e.idSeq⟩ ⟨UInt64.ofNat (e.idSeq + 1)⟩).resources with
        | false =>
            refine .thrown ?_ (by
              simp only [exec, reserveDeployment, discard_apply, live_bind,
                find_bind_some _ found, throwIf_bind, ready,
                namedService_bind offered, nextId_bind,
                find_bind_some _ accounted, admitted]
              rfl) quiet
            intro s seq accepted
            cases accepted with
            | reserveDeployment present _ offered' accounted' made fits =>
                have same := offers_unique offered' offered
                simp_all
            | moveDeployment moves => cases moves
            | endDeployment ends => cases ends
        | true =>
            obtain ⟨reservation, reserved, kept⟩ :=
              ResourceLedger.tryReserve_commit admitted
            refine .accepted (.reserveDeployment found ready offered accounted rfl admitted) ?_
            simp only [exec, reserveDeployment, discard_apply, live_bind,
              find_bind_some _ found, throwIf_bind, ready,
              namedService_bind offered, nextId_bind,
              find_bind_some _ accounted, admitted, reserved, kept]
            rfl
  · refine .of_error ?_ (by
      simp [reserveDeployment, find_bind_some _ found, ready,
        namedService_bind_unknown named unknown]
      rfl)
    rintro _ _ ⟨⟩
    case reserveDeployment => simp_all [Offers]
    all_goals simp_all

theorem commitDeployment_outcome (id : DeploymentId) :
    Outcome e (.commitDeployment id) := by
  cases found : e.state.deployments[id]? with
  | none =>
      refine .of_error ?_
        (by simp [commitDeployment, find_bind_none _ found]; rfl)
      rintro _ _ ⟨⟩ <;> simp_all
  | some dep =>
  by_cases activating : dep.state = .activating
  case neg =>
      refine .of_error ?_
        (by simp [commitDeployment, find_bind_some _ found, activating]; rfl)
      rintro _ _ ⟨⟩ <;> simp_all
  cases located : e.state.devices[dep.device]? with
  | none =>
      refine .of_error ?_ (by
        simp [commitDeployment, find_bind_some _ found, activating,
          find_bind_none _ located]
        rfl)
      rintro _ _ ⟨⟩ <;> simp_all
  | some dev =>
  cases ready : dev.isReadyForOffload with
  | false =>
      refine .of_error ?_ (by
        simp [commitDeployment, find_bind_some _ found, activating,
          find_bind_some _ located, ready]
        rfl)
      rintro _ _ ⟨⟩ <;> simp_all
  | true =>
  cases current : programIsCurrent e.state dep with
  | false =>
      refine .of_error ?_ (by
        simp [commitDeployment, find_bind_some _ found, activating,
          find_bind_some _ located, ready, current]
        rfl)
      rintro _ _ ⟨⟩ <;> simp_all
  | true =>
  cases linked : dep.activation with
  | none =>
      refine .of_error ?_ (by
        simp [commitDeployment, find_bind_some _ found, activating,
          find_bind_some _ located, ready, current, linked]
        rfl)
      rintro _ _ ⟨⟩ <;> simp_all
  | some aid =>
  cases recorded : e.state.activations[aid]? with
  | none =>
      refine .of_error ?_ (by
        simp [commitDeployment, find_bind_some _ found, activating,
          find_bind_some _ located, ready, current, linked,
          find_bind_none _ recorded]
        rfl)
      rintro _ _ ⟨⟩ <;> simp_all
  | some act =>
      refine .accepted
        (.commitDeployment found activating located ready current linked recorded) ?_
      simp [commitDeployment, find_bind_some _ found, activating,
        find_bind_some _ located, ready, current, linked,
        find_bind_some _ recorded]

/-- Every plain call is accepted, throws or idles. -/
theorem outcome (e : Engine) {op : Op} (plain : op.isPlain = true) : Outcome e op := by
  cases op with
  | registerDevice rec => exact registerDevice_outcome rec
  | updateDevice rec => exact updateDevice_outcome rec
  | runAllBackends discovered => cases plain
  | retireDevice id => exact retireDevice_outcome id
  | transitionDevice id target => exact transitionDevice_outcome id target
  | setDeviceState id state cap => exact setDeviceState_outcome id state cap
  | fenceDevice id reason => exact fenceDevice_outcome id reason
  | registerService svc => exact registerService_outcome svc
  | registerProgram art => exact registerProgram_outcome art
  | retireProgram id => exact retireProgram_outcome id
  | registerWorker worker boot => exact registerWorker_outcome worker boot
  | workerHeartbeat worker boot => exact workerHeartbeat_outcome worker boot
  | markWorkerLost worker => exact markWorkerLost_outcome worker
  | reserveDeployment req selected => exact reserveDeployment_outcome req selected
  | stageDeployment id => exact moveDeployment_outcome rfl rfl
  | loadDeployment id => exact moveDeployment_outcome rfl rfl
  | validateDeployment id => exact moveDeployment_outcome rfl rfl
  | activateDeployment id => exact activateDeployment_outcome id
  | commitDeployment id => exact commitDeployment_outcome id
  | cancelDeployment id => exact endDeployment_outcome rfl rfl
  | rollbackDeployment id => exact endDeployment_outcome rfl rfl
  | drainDeployment id => exact endDeployment_outcome rfl rfl
  | retireDeployment id => exact endDeployment_outcome rfl rfl
  | failDeployment id code reason => exact endDeployment_outcome rfl rfl
  | advanceEpoch => exact advanceEpoch_outcome
  | applyRecovery p => exact applyRecovery_outcome p
  | recoverFrom file => cases plain

end Outcomes

/-! ## Steps -/

theorem after_of_ok {α : Type} {call : EngineM α} {e e' : Engine} {value : α}
    (result : call e = .ok value e') : after call e = e' := by
  rw [after, result]

theorem after_of_error {α : Type} {call : EngineM α} {e e' : Engine} {fault : Fault}
    (result : call e = .error fault e') : after call e = e' := by
  rw [after, result]

/-- A step is accepted, or it leaves everything but the identity counter. -/
theorem step_cases (e : Engine) {op : Op} (plain : op.isPlain = true) :
    (∃ s seq, Accepted e.state e.idSeq op s seq ∧
        step e op = { state := s, snap := makeSnapshot s, idSeq := seq }) ∨
      (∀ s seq, ¬ Accepted e.state e.idSeq op s seq) ∧ Quiet e (step e op) := by
  cases outcome e plain with
  | accepted accepted result =>
      exact Or.inl ⟨_, _, accepted, after_of_ok result⟩
  | thrown refused result quiet =>
      exact Or.inr ⟨refused, by rw [step, after_of_error result]; exact quiet⟩
  | idle _ refused result =>
      exact Or.inr ⟨refused, by rw [step, after_of_ok result]; exact .refl e⟩

/-- A call that returns without having been free to idle was accepted. -/
theorem accepted_of_succeeds (e : Engine) {op : Op} (plain : op.isPlain = true)
    (writes : mayIdle op = false) (returned : succeeds (exec op) e = true) :
    ∃ s seq, Accepted e.state e.idSeq op s seq ∧
      step e op = { state := s, snap := makeSnapshot s, idSeq := seq } := by
  cases outcome e plain with
  | accepted accepted result => exact ⟨_, _, accepted, after_of_ok result⟩
  | thrown refused result quiet => simp [succeeds, result] at returned
  | idle idles => simp [writes] at idles

/-- A call whose conditions hold returns. -/
theorem succeeds_of_accepted {e : Engine} {op : Op} {s : LiveState} {seq : Nat}
    (plain : op.isPlain = true) (accepted : Accepted e.state e.idSeq op s seq) :
    succeeds (exec op) e = true := by
  cases outcome e plain with
  | accepted _ result => rw [succeeds, result]
  | thrown refused => exact (refused s seq accepted).elim
  | idle _ _ result => rw [succeeds, result]

theorem eq_ok_of_succeeds {α : Type} {call : EngineM α} {e : Engine}
    (returned : succeeds call e = true) :
    ∃ value, call e = .ok value (after call e) := by
  unfold succeeds at returned
  unfold after
  cases result : call e with
  | ok value e' => exact ⟨value, rfl⟩
  | error fault e' =>
      rw [result] at returned
      cases returned

/-- A reservation that returns was accepted, and returns the counter's value. -/
theorem reserveDeployment_returns {e e' : Engine} {req : OffloadRequest}
    {selected : Option DeviceId} {id : DeploymentId}
    (reserved : Engine.reserveDeployment req selected e = .ok id e') :
    id = ⟨UInt64.ofNat e.idSeq⟩ ∧
      Accepted e.state e.idSeq (.reserveDeployment req selected) e'.state e'.idSeq := by
  have executed : exec (.reserveDeployment req selected) e = .ok () e' := by
    rw [exec, discard_apply, reserved]
  have returned : succeeds (exec (.reserveDeployment req selected)) e = true := by
    rw [succeeds, executed]
  rcases accepted_of_succeeds e rfl rfl returned with ⟨s, seq, accepted, result⟩
  have same : e' = { state := s, snap := makeSnapshot s, idSeq := seq } := by
    rw [← result, step, after, executed]
  refine ⟨?_, by rw [same]; exact accepted⟩
  cases accepted with
  | reserveDeployment present ready offered accounted made admitted =>
      rcases ResourceLedger.tryReserve_commit (made ▸ admitted) with ⟨reservation, charged, kept⟩
      simp only [Engine.reserveDeployment, live_bind, find_bind_some _ present,
        throwIf_bind, ready, namedService_bind offered, nextId_bind,
        find_bind_some _ accounted, made ▸ admitted, charged, kept] at reserved
      cases reserved
      rfl
  | moveDeployment moves => cases moves
  | endDeployment ends => cases ends

/-! ## The backend loop -/

/-- The call `run_all_backends` makes for one discovered record. -/
def importCall (e : Engine) (rec : DeviceRecord) : Op :=
  if e.state.devices.contains rec.deviceId then .updateDevice rec
  else .registerDevice rec

/-- Registration and update only ever throw typed errors. -/
theorem registerDevice_typed (rec : DeviceRecord) (e : Engine) :
    (∃ e', registerDevice rec e = .ok rec.deviceId e') ∨
      ∃ error e', registerDevice rec e = .error (.thrown error) e' := by
  cases named : rec.deviceId.isNull with
  | true => simp [registerDevice, named, Fault.error]
  | false =>
      cases known : e.state.devices.contains rec.deviceId <;>
        simp [registerDevice, named, known, Fault.error]

theorem updateDevice_typed (rec : DeviceRecord) (e : Engine) :
    (∃ e', updateDevice rec e = .ok rec.deviceId e') ∨
      ∃ error e', updateDevice rec e = .error (.thrown error) e' := by
  cases named : rec.deviceId.isNull with
  | true => simp [updateDevice, named, Fault.error]
  | false =>
      cases found : e.state.devices[rec.deviceId]? with
      | none => simp [updateDevice, named, find_bind_none _ found, Fault.error]
      | some old =>
          cases clash : conflicts old rec <;>
            simp [updateDevice, named, find_bind_some _ found, clash, Fault.error]

/-- The step `run_all_backends` takes for one discovered record. -/
def importStep (e : Engine) (rec : DeviceRecord) : Engine :=
  step e (importCall e rec)

theorem importRecord_apply (e : Engine) (rec : DeviceRecord) :
    importRecord rec e = .ok () (importStep e rec) := by
  unfold importRecord importStep importCall
  cases e.state.devices.contains rec.deviceId with
  | true =>
      rcases updateDevice_typed rec e with ⟨e', result⟩ | ⟨error, e', result⟩
      · simp [step, exec, after, result]
      · simp [step, exec, after, result]
  | false =>
      rcases registerDevice_typed rec e with ⟨e', result⟩ | ⟨error, e', result⟩
      · simp [step, exec, after, result]
      · simp [step, exec, after, result]

theorem forM_importRecord (records : List DeviceRecord) (e : Engine) :
    records.forM importRecord e =
      .ok () (TransitionRun.run importStep e records) := by
  induction records generalizing e with
  | nil => rfl
  | cons rec rest ih =>
      have first := importRecord_apply e rec
      exact (Exceptions.bind_of_ok first).trans (ih _)

theorem runAllBackends_apply (discovered : List (List DeviceRecord)) (e : Engine) :
    runAllBackends discovered e =
      .ok () (TransitionRun.run importStep e discovered.flatten) := by
  unfold runAllBackends
  induction discovered generalizing e with
  | nil => rfl
  | cons records rest ih =>
      have first := forM_importRecord records e
      rw [List.flatten_cons, TransitionRun.run_append]
      exact (Exceptions.bind_of_ok first).trans (ih _)

/-- `run_all_backends` is the run of the calls it makes. -/
theorem step_runAllBackends (e : Engine) (discovered : List (List DeviceRecord)) :
    step e (.runAllBackends discovered) =
      TransitionRun.run importStep e discovered.flatten :=
  after_of_ok (runAllBackends_apply discovered e)

theorem importCall_isPlain (e : Engine) (rec : DeviceRecord) :
    (importCall e rec).isPlain = true := by
  unfold importCall
  split <;> rfl

/-- `P` holds of each single call a step makes, in the state it is made in. -/
def EachCall (P : Engine → Op → Prop) (e : Engine) : Op → Prop
  | .runAllBackends discovered =>
      TransitionRun.Every importStep (fun e rec => P e (importCall e rec)) e
        discovered.flatten
  | op => P e op

theorem eachCall_congr {P Q : Engine → Op → Prop} (agree : ∀ e op, P e op ↔ Q e op)
    (e : Engine) (op : Op) : EachCall P e op ↔ EachCall Q e op := by
  cases op with
  | runAllBackends discovered =>
      exact TransitionRun.every_congr (fun e rec => agree e (importCall e rec)) _ _
  | _ => exact agree e _

/-- Every call but the backend loop, which is a sequence of calls. -/
def isSingle : Op → Bool
  | .runAllBackends _ => false
  | _ => true

theorem importCall_isSingle (e : Engine) (rec : DeviceRecord) :
    isSingle (importCall e rec) = true := by
  unfold importCall
  split <;> rfl

/-- What each single call keeps when it meets `P`, a step of such calls keeps. -/
theorem eachCall_invariant {P : Engine → Op → Prop} (invariant : Engine → Prop)
    (keeps : ∀ e op, isSingle op = true → P e op → invariant e → invariant (step e op))
    {e : Engine} {op : Op} (each : EachCall P e op) (holds : invariant e) :
    invariant (step e op) := by
  cases op with
  | runAllBackends discovered =>
      rw [step_runAllBackends]
      exact TransitionRun.run_invariant invariant
        (fun e rec => keeps e _ (importCall_isSingle e rec)) holds each
  | _ => exact keeps e _ rfl each holds

/-- Two conditions on single calls which agree under an invariant agree along runs. -/
theorem every_eachCall_iff {P Q : Engine → Op → Prop} (invariant : Engine → Prop)
    (agree : ∀ e op, isSingle op = true → invariant e → (P e op ↔ Q e op))
    (keeps : ∀ e op, isSingle op = true → P e op → invariant e → invariant (step e op))
    {e : Engine} (holds : invariant e) (ops : List Op) :
    TransitionRun.Every step (EachCall P) e ops ↔
      TransitionRun.Every step (EachCall Q) e ops := by
  refine TransitionRun.every_iff_of_invariant invariant ?_
    (fun e op => eachCall_invariant invariant keeps) holds ops
  intro e op holds
  cases op with
  | runAllBackends discovered =>
      exact TransitionRun.every_iff_of_invariant invariant
        (fun e rec => agree e _ (importCall_isSingle e rec))
        (fun e rec => keeps e _ (importCall_isSingle e rec)) holds _
  | _ => exact agree e _ rfl holds

/-! ## Recovery from a file -/

theorem step_recoverFrom_of_error
    {e : Engine} {file : Option (List UInt8)} {fault : Fault} {s : LiveState}
    (rejected : Persistence.load file e.state = .error fault s) :
    step e (.recoverFrom file) = { e with state := s } := by
  simp [step, after, exec, recoverFrom, rejected]

theorem step_recoverFrom_of_ok
    {e : Engine} {file : Option (List UInt8)} {existed : Bool} {s : LiveState}
    (loaded : Persistence.load file e.state = .ok existed s) :
    step e (.recoverFrom file) =
      { e with
        state := if existed then s.rebuildLedgers else s
        snap := makeSnapshot (if existed then s.rebuildLedgers else s) } := by
  simp [step, after, exec, recoverFrom, loaded]

/-! ## Invariants of the live state -/

/-- Whether a call is `recover_from`. -/
def recovers : Op → Bool
  | .recoverFrom _ => true
  | _ => false

/-- What every plain call keeps, every call but `recover_from` keeps. -/
theorem step_invariant (invariant : Engine → Prop)
    (plainCase : ∀ e op, op.isPlain = true → invariant e → invariant (step e op))
    {e : Engine} {op : Op} (ordinary : recovers op = false) (holds : invariant e) :
    invariant (step e op) := by
  cases op with
  | recoverFrom file => cases ordinary
  | runAllBackends discovered =>
      rw [step_runAllBackends]
      exact TransitionRun.run_invariant_of_step invariant
        (fun e rec => plainCase e _ (importCall_isPlain e rec)) holds _
  | _ => exact plainCase e _ rfl holds

/--
What every accepted call keeps, every call but `recover_from` keeps.  The
property may speak about the identity counter, which a refused reservation
advances.
-/
theorem step_keeps (holdsAt : LiveState → Nat → Prop)
    (grows : ∀ {s : LiveState} {seq seq' : Nat}, seq ≤ seq' →
      holdsAt s seq → holdsAt s seq')
    (keeps : ∀ {s s' : LiveState} {seq seq' : Nat} {op : Op},
      Accepted s seq op s' seq' → holdsAt s seq → holdsAt s' seq')
    (e : Engine) {op : Op} (ordinary : recovers op = false)
    (holds : holdsAt e.state e.idSeq) :
    holdsAt (step e op).state (step e op).idSeq := by
  refine step_invariant (fun e : Engine => holdsAt e.state e.idSeq) ?_ ordinary holds
  intro e op plain holds
  rcases step_cases e plain with ⟨s, seq, accepted, result⟩ | ⟨-, quiet⟩
  · rw [result]
    exact keeps accepted holds
  · rw [quiet.state]
    exact grows quiet.idSeq holds

/-- The published snapshot is current before and after every such call. -/
theorem step_snap (e : Engine) {op : Op} (ordinary : recovers op = false)
    (current : e.snap = makeSnapshot e.state) :
    (step e op).snap = makeSnapshot (step e op).state := by
  refine step_invariant (fun e : Engine => e.snap = makeSnapshot e.state) ?_ ordinary current
  intro e op plain current
  rcases step_cases e plain with ⟨s, seq, -, result⟩ | ⟨-, quiet⟩
  · rw [result]
  · rw [quiet.snap, quiet.state, current]

/-- The identity counter never goes back, whatever is called. -/
theorem idSeq_le_step (e : Engine) (op : Op) : e.idSeq ≤ (step e op).idSeq := by
  have plainCase : ∀ (e : Engine) (op : Op), op.isPlain = true →
      e.idSeq ≤ (step e op).idSeq := by
    intro e op plain
    rcases step_cases e plain with ⟨s, seq, accepted, result⟩ | ⟨-, quiet⟩
    · rw [result]
      exact accepted.seq_le
    · exact quiet.idSeq
  cases op with
  | recoverFrom file =>
      cases loaded : Persistence.load file e.state with
      | error fault s => rw [step_recoverFrom_of_error loaded]
      | ok existed s => rw [step_recoverFrom_of_ok loaded]
  | runAllBackends discovered =>
      rw [step_runAllBackends]
      exact TransitionRun.run_mono Engine.idSeq
        (fun e rec => plainCase e _ (importCall_isPlain e rec)) e _
  | _ => exact plainCase e _ rfl

end Engine

end DPUFabric
