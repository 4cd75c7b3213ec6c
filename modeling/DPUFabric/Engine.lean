import DPUFabric.Effects
import DPUFabric.Eligibility
import DPUFabric.Library.TransitionRun
import DPUFabric.Persistence

/-!
# The coordinator engine

`Engine` is the single authority over the live state.  Every mutating call
holds the mutex from its first read to its last write, so a call is one step;
`Op` lists the calls and `step` takes one, whoever makes it.  A call which
throws keeps what it had written before.

`run_all_backends` releases the mutex between two records.  It is the sequence
of the calls it makes, and other clients' calls in between are ordinary calls
of a run.
-/

namespace DPUFabric

open Std

/-- The coordinator engine behind its mutex. -/
structure Engine where
  state : LiveState
  snap : Snapshot
  /-- The number of ids issued, plus one; `id_seq_` is this number modulo `2 ^ 64`. -/
  idSeq : Nat := 1

/-- An engine call: it may throw, and then the writes made so far stay. -/
abbrev EngineM := EStateM Fault Engine

namespace EngineM

/-- The live state. -/
def live : EngineM LiveState := fun e => .ok e.state e

/-- `if (condition) throw_error(...)`. -/
def throwIf (condition : Bool) (fault : Fault) : EngineM Unit := fun e =>
  if condition then .error fault e else .ok () e

/-- A lookup whose failure throws. -/
def find {κ α : Type} {cmp : κ → κ → Ordering} [TransCmp cmp]
    (table : ExtTreeMap κ α cmp) (key : κ) (fault : Fault) : EngineM α := fun e =>
  match table[key]? with
  | none => .error fault e
  | some value => .ok value e

/-- A write to the live state. -/
def write (change : LiveState → LiveState) : EngineM Unit := fun e =>
  .ok () { e with state := change e.state }

/-- `rebuild_snapshot`. -/
def rebuildSnapshot : EngineM Unit := fun e =>
  .ok () { e with snap := makeSnapshot e.state }

/-- `next_id`. -/
def nextId {tag : IdTag} : EngineM (Id tag) := fun e =>
  .ok ⟨UInt64.ofNat e.idSeq⟩ { e with idSeq := e.idSeq + 1 }

end EngineM

namespace Engine

open EngineM LiveState

/-- The constructor of the engine. -/
def fresh (epoch : CoordinatorEpoch) (policy : Policy) : Engine :=
  let state : LiveState := { epoch := epoch, policy := policy }
  { state := state, snap := makeSnapshot state }

/-! ## Devices -/

def registerDevice (rec : DeviceRecord) : EngineM DeviceId := do
  throwIf rec.deviceId.isNull (.error .invalidArgument "device id must be set")
  let s ← live
  throwIf (s.devices.contains rec.deviceId)
    (.error .alreadyExists "device already registered")
  write (·.registerDevice rec)
  rebuildSnapshot
  return rec.deviceId

/-- Both records name a PCI address, and not the same one. -/
def conflicts (old rec : DeviceRecord) : Bool :=
  !old.pciReference.isEmpty && !rec.pciReference.isEmpty &&
    old.pciReference != rec.pciReference

def updateDevice (rec : DeviceRecord) : EngineM DeviceId := do
  throwIf rec.deviceId.isNull (.error .invalidArgument "device id must be set")
  let s ← live
  let old ← find s.devices rec.deviceId (.error .notFound "device not found")
  throwIf (conflicts old rec)
    (.error .alreadyExists "conflicting immutable device identity (pci_reference)")
  write (·.updateDevice rec)
  rebuildSnapshot
  return rec.deviceId

/-- The loop body of `run_all_backends`: every typed error is swallowed. -/
def importRecord (rec : DeviceRecord) : EngineM Unit := fun e =>
  let call := if e.state.devices.contains rec.deviceId then updateDevice rec
    else registerDevice rec
  match call e with
  | .ok _ e => .ok () e
  | .error (.thrown _) e => .ok () e
  | .error .undefinedBehavior e => .error .undefinedBehavior e

/-- `run_all_backends`, given the records each backend discovers. -/
def runAllBackends (discovered : List (List DeviceRecord)) : EngineM Unit :=
  discovered.forM fun records => records.forM importRecord

def retireDevice (id : DeviceId) : EngineM Unit := do
  let s ← live
  let _ ← find s.devices id (.error .notFound "device not found")
  write (·.retireDevice id)
  rebuildSnapshot

def transitionDevice (id : DeviceId) (target : DeviceLifecycle) : EngineM Unit := do
  let s ← live
  let dev ← find s.devices id (.error .notFound "device not found")
  throwIf (!validDeviceTransition dev.lifecycle (.declared target))
    (.error .invalidTransition "invalid device lifecycle transition")
  write (·.transitionDevice id target)
  rebuildSnapshot

def setDeviceState (id : DeviceId) (state : CapabilityState) (cap : CapabilityKey) :
    EngineM Unit := do
  let s ← live
  let _ ← find s.devices id (.error .notFound "device not found")
  write (·.setDeviceState id state cap)
  rebuildSnapshot

def fenceDevice (id : DeviceId) (reason : Text) : EngineM Unit := do
  let s ← live
  let _ ← find s.devices id (.error .notFound "device not found")
  write (·.fenceDevice id reason)
  rebuildSnapshot

/-! ## Services and programs -/

def registerService (svc : ServiceDefinition) : EngineM ServiceId := do
  throwIf svc.serviceId.isNull (.error .invalidArgument "service id must be set")
  let s ← live
  throwIf (s.services.contains svc.serviceId)
    (.error .alreadyExists "service already registered")
  write (·.registerService svc)
  rebuildSnapshot
  return svc.serviceId

def registerProgram (art : ProgramArtifact) : EngineM ProgramId := do
  throwIf art.programId.isNull (.error .invalidArgument "program id must be set")
  throwIf art.programGen.isNull
    (.error .invalidArgument "program generation must be set")
  write (·.registerProgram art)
  rebuildSnapshot
  return art.programId

def retireProgram (id : ProgramId) : EngineM Unit := do
  let s ← live
  throwIf (!s.programs.contains id) (.error .notFound "program not found")
  write (·.retireProgram id)
  rebuildSnapshot

/-! ## Workers -/

def registerWorker (worker : WorkerId) (boot : WorkerBootId) : EngineM Unit := do
  throwIf worker.isNull (.error .invalidArgument "worker id must be set")
  throwIf boot.isNull (.error .invalidArgument "worker boot id must be set")
  let s ← live
  match s.workers[worker]? with
  | some known =>
      -- Idempotent with the same boot; the snapshot is not rebuilt.
      throwIf (known != boot)
        (.error .staleWorker "worker already registered with a different boot id")
  | none =>
      write (·.registerWorker worker boot)
      rebuildSnapshot

def workerHeartbeat (worker : WorkerId) (boot : WorkerBootId) : EngineM Unit := do
  let s ← live
  throwIf (s.workers[worker]? != some boot)
    (.error .staleWorker "unknown worker or stale boot id")

def markWorkerLost (worker : WorkerId) : EngineM Unit := do
  write (·.markWorkerLost worker)
  rebuildSnapshot

/-! ## Evaluation -/

/-- `evaluate` reads the published snapshot. -/
def evaluate (F : Type) [ScoreArith F] (e : Engine) (req : OffloadRequest) :
    Except Fault (EligibilityResult F) :=
  evaluateOffload F e.snap req

structure PlanResult (F : Type) where
  deploymentId : DeploymentId := .null
  device : DeviceId := .null
  planned : Bool
  eligibility : EligibilityResult F
  note : Text

/-- `plan_deployment` changes nothing. -/
def planDeployment (F : Type) [ScoreArith F] (e : Engine) (req : OffloadRequest) :
    Except Fault (PlanResult F) := do
  let elig ← e.evaluate F req
  match elig.selected with
  | some device =>
      return {
        planned := true, eligibility := elig, device := device
        note := text "eligible device found" }
  | none =>
      if req.mode = .offloadPreferred ∧ req.allowHostFallback then
        return { planned := true, eligibility := elig, note := text "host fallback" }
      else
        return {
          planned := false, eligibility := elig
          note := text "no eligible offload candidate" }

/-! ## Deployments -/

def doDeployTransition (id : DeploymentId) (target : DeploymentState) :
    EngineM Unit := do
  let s ← live
  let dep ← find s.deployments id (.error .notFound "deployment not found")
  throwIf (!validDeploymentTransition dep.state target)
    (.error .invalidTransition "invalid deployment state transition")
  write (·.doDeployTransition id target)
  rebuildSnapshot

/-- The service a request names; an unknown one is an error. -/
def namedService (s : LiveState) (req : OffloadRequest) :
    EngineM (Option ServiceDefinition) :=
  match req.service with
  | none => return none
  | some id => some <$> find s.services id (.error .notFound "service not found")

/-- `reserve_deployment`, which reads the result's selected device only. -/
def reserveDeployment (req : OffloadRequest) (selected : Option DeviceId) :
    EngineM DeploymentId := do
  match selected with
  | none =>
      throw (.error .invalidState "cannot reserve without a selected offload device")
  | some device =>
      let s ← live
      let dev ← find s.devices device
        (.error .deviceNotReady "selected device is not ready")
      throwIf (!dev.isReadyForOffload)
        (.error .deviceNotReady "selected device is not ready")
      let svc ← namedService s req
      -- Both ids are consumed even when the ledger then refuses.
      let deploymentId ← nextId
      let attemptId ← nextId
      let dep := s.reservedDeployment req device dev svc deploymentId attemptId
      let ledger ← find s.ledgers device (.error .invalidState "no ledger for device")
      throwIf (!ledger.canReserve dep.resources)
        (.error .resourceExhausted "device resource budget exhausted")
      match ledger.tryReserve dep.resources with
      | .error fault => throw fault
      | .ok (charged, reservation) =>
          write (·.reserveDeployment (reservation.commit.destroy charged) dep)
          rebuildSnapshot
          return deploymentId

def stageDeployment (id : DeploymentId) : EngineM Unit :=
  doDeployTransition id .staging

def loadDeployment (id : DeploymentId) : EngineM Unit :=
  doDeployTransition id .loaded

def validateDeployment (id : DeploymentId) : EngineM Unit :=
  doDeployTransition id .validating

def activateDeployment (id : DeploymentId) : EngineM ActivationId := do
  doDeployTransition id .activating
  let s ← live
  -- The transition has just found the deployment.
  let dep ← find s.deployments id .undefinedBehavior
  let aid ← nextId
  write (·.activateDeployment id (pendingActivation dep id aid))
  rebuildSnapshot
  return aid

/-- Whether the program of a deployment, if it has one, is still current. -/
def programIsCurrent (s : LiveState) (dep : Deployment) : Bool :=
  dep.program.isNull || s.currentProgramGen[dep.program]? == some dep.programGen

/-- `commit_deployment`; its test of the service generation has an empty body. -/
def commitDeployment (id : DeploymentId) : EngineM Unit := do
  let s ← live
  let dep ← find s.deployments id (.error .notFound "deployment not found")
  throwIf (dep.state != .activating)
    (.error .invalidState "deployment must be ACTIVATING to commit")
  let dev ← find s.devices dep.device
    (.error .deviceNotReady "device not ready for active authority")
  throwIf (!dev.isReadyForOffload)
    (.error .deviceNotReady "device not ready for active authority")
  throwIf (!programIsCurrent s dep)
    (.error .staleProgramGeneration "program generation no longer current")
  match dep.activation with
  | none => throw .undefinedBehavior
  | some aid =>
      let _ ← find s.activations aid (.error .invalidState "activation missing")
      write (·.commitDeployment id aid (s.grantedAuthority dep dev))
      rebuildSnapshot

/-- The five calls that end a deployment's use of its device. -/
def endDeployment (ending : Ending) (refusal : Fault) (id : DeploymentId) :
    EngineM Unit := do
  let s ← live
  let dep ← find s.deployments id (.error .notFound "deployment not found")
  throwIf (!ending.allows dep.state) refusal
  write (·.endDeployment ending id dep)
  rebuildSnapshot

def cancelDeployment (id : DeploymentId) : EngineM Unit :=
  endDeployment cancelEnding
    (.error .invalidState "cannot cancel in current state") id

def rollbackDeployment (id : DeploymentId) : EngineM Unit :=
  endDeployment rollbackEnding
    (.error .invalidState "cannot rollback in current state") id

def drainDeployment (id : DeploymentId) : EngineM Unit :=
  endDeployment drainEnding
    (.error .invalidState
      "only active/degraded/revalidation-required deployment can drain") id

def retireDeployment (id : DeploymentId) : EngineM Unit :=
  endDeployment retireEnding
    (.error .invalidState "cannot retire in current state") id

/-- `fail_deployment` ignores its code and its reason. -/
def failDeployment (id : DeploymentId) (_code : ErrorCode) (_reason : Text) :
    EngineM Unit :=
  endDeployment failEnding
    (.error .invalidTransition "cannot fail in current state") id

/-! ## Restart and recovery -/

def advanceEpoch : EngineM Unit := do
  write (·.advanceEpoch)
  rebuildSnapshot

def applyRecovery (p : RecoveryPolicy) : EngineM Unit := do
  write (·.applyRecovery p)
  rebuildSnapshot

/-- `recover_from`, given the file found at the path. -/
def recoverFrom (file : Option (List UInt8)) : EngineM Bool := fun e =>
  match Persistence.load file e.state with
  | .error fault s => .error fault { e with state := s }
  | .ok existed s =>
      let s := if existed then s.rebuildLedgers else s
      .ok existed { e with state := s, snap := makeSnapshot s }

end Engine

/-! ## Calls and runs -/

/-- The mutating calls of the engine. -/
inductive Op where
  | registerDevice (rec : DeviceRecord)
  | updateDevice (rec : DeviceRecord)
  | runAllBackends (discovered : List (List DeviceRecord))
  | retireDevice (id : DeviceId)
  | transitionDevice (id : DeviceId) (target : DeviceLifecycle)
  | setDeviceState (id : DeviceId) (state : CapabilityState) (cap : CapabilityKey)
  | fenceDevice (id : DeviceId) (reason : Text)
  | registerService (svc : ServiceDefinition)
  | registerProgram (art : ProgramArtifact)
  | retireProgram (id : ProgramId)
  | registerWorker (worker : WorkerId) (boot : WorkerBootId)
  | workerHeartbeat (worker : WorkerId) (boot : WorkerBootId)
  | markWorkerLost (worker : WorkerId)
  | reserveDeployment (req : OffloadRequest) (selected : Option DeviceId)
  | stageDeployment (id : DeploymentId)
  | loadDeployment (id : DeploymentId)
  | validateDeployment (id : DeploymentId)
  | activateDeployment (id : DeploymentId)
  | commitDeployment (id : DeploymentId)
  | cancelDeployment (id : DeploymentId)
  | rollbackDeployment (id : DeploymentId)
  | drainDeployment (id : DeploymentId)
  | retireDeployment (id : DeploymentId)
  | failDeployment (id : DeploymentId) (code : ErrorCode) (reason : Text)
  | advanceEpoch
  | applyRecovery (p : RecoveryPolicy)
  | recoverFrom (file : Option (List UInt8))

namespace Engine

/-- Make a call and drop what it returns. -/
def exec : Op → EngineM Unit
  | .registerDevice rec => discard (registerDevice rec)
  | .updateDevice rec => discard (updateDevice rec)
  | .runAllBackends discovered => runAllBackends discovered
  | .retireDevice id => retireDevice id
  | .transitionDevice id target => transitionDevice id target
  | .setDeviceState id state cap => setDeviceState id state cap
  | .fenceDevice id reason => fenceDevice id reason
  | .registerService svc => discard (registerService svc)
  | .registerProgram art => discard (registerProgram art)
  | .retireProgram id => retireProgram id
  | .registerWorker worker boot => registerWorker worker boot
  | .workerHeartbeat worker boot => workerHeartbeat worker boot
  | .markWorkerLost worker => markWorkerLost worker
  | .reserveDeployment req selected => discard (reserveDeployment req selected)
  | .stageDeployment id => stageDeployment id
  | .loadDeployment id => loadDeployment id
  | .validateDeployment id => validateDeployment id
  | .activateDeployment id => discard (activateDeployment id)
  | .commitDeployment id => commitDeployment id
  | .cancelDeployment id => cancelDeployment id
  | .rollbackDeployment id => rollbackDeployment id
  | .drainDeployment id => drainDeployment id
  | .retireDeployment id => retireDeployment id
  | .failDeployment id code reason => failDeployment id code reason
  | .advanceEpoch => advanceEpoch
  | .applyRecovery p => applyRecovery p
  | .recoverFrom file => discard (recoverFrom file)

/-- The engine a call leaves behind, whether it returns or throws. -/
def after {α : Type} (call : EngineM α) (e : Engine) : Engine :=
  match call e with
  | .ok _ e => e
  | .error _ e => e

/-- Whether a call returns. -/
def succeeds {α : Type} (call : EngineM α) (e : Engine) : Bool :=
  match call e with
  | .ok _ _ => true
  | .error _ _ => false

/-- One step of the engine. -/
def step (e : Engine) (op : Op) : Engine := after (exec op) e

/-- The engine after a list of calls, made by any number of clients. -/
abbrev run (e : Engine) (ops : List Op) : Engine := TransitionRun.run step e ops

theorem run_append (e : Engine) (first second : List Op) :
    e.run (first ++ second) = (e.run first).run second :=
  TransitionRun.run_append step e first second

/-! ## A sample run -/

/-- A device that is ready, with fresh evidence and unbounded resources. -/
def sampleDevice : DeviceRecord :=
  { deviceId := ⟨1⟩
    generation := ⟨1⟩
    bootId := ⟨1⟩
    lifecycle := .declared .ready
    evidenceGen := ⟨1⟩
    evidenceFresh := true }

/-- An engine built with the default policy. -/
def sampleEngine : Engine := fresh ⟨1⟩ (Policy.defaults ⟨1⟩)

/-- From `reserve` to `commit` on a device, for the given next identity. -/
def deployOn (device : DeviceId) (id : DeploymentId) : List Op :=
  [.reserveDeployment {} (some device), .stageDeployment id, .loadDeployment id,
    .validateDeployment id, .activateDeployment id, .commitDeployment id]

/-- One device with one committed deployment; its activation has identity three. -/
def sampleRun : List Op := .registerDevice sampleDevice :: deployOn ⟨1⟩ ⟨1⟩

example :
    (run sampleEngine sampleRun).state.deployments[(⟨1⟩ : DeploymentId)]?.map
      (fun dep => (dep.state, dep.activation)) = some (.active, some ⟨3⟩) := by
  decide

end Engine

end DPUFabric
