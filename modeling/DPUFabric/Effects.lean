import DPUFabric.Library.OrderedMap
import DPUFabric.Registry

/-!
# What the engine's calls write

Each definition here is the writing part of one engine call, under the call's
name: what it does to the live state once its checks have passed.  The checks
are in `DPUFabric.Engine`.

Three loops over the deployment table occur.  They share the body that fences
one deployment, and the closed forms of the loops are stated beside them.
-/

namespace DPUFabric

open Std

/-- A deployment whose activation is pending. -/
def Deployment.activating (dep : Deployment) (aid : ActivationId) : Deployment :=
  { dep with
    state := .activating
    authoritative := false
    activation := some aid
    activationGen := ⟨nextGeneration dep.activationGen.value⟩ }

namespace LiveState

/-! ## Devices -/

/-- `register_device`. -/
def registerDevice (s : LiveState) (rec : DeviceRecord) : LiveState :=
  { s with
    devices := s.devices.insert rec.deviceId rec
    deviceOrder := s.deviceOrder ++ [rec.deviceId]
    ledgers := s.ledgers.insertIfNew rec.deviceId ⟨rec.resourceCapacity, {}⟩
    usage := s.usage.insert rec.deviceId {}
    portOwner :=
      rec.ports.foldl (fun owner p => owner.insert p rec.deviceId) s.portOwner
    functionOwner :=
      rec.functions.foldl (fun owner f => owner.insert f rec.deviceId)
        s.functionOwner }

/-- `update_device`: the record is replaced, the ledger is not. -/
def updateDevice (s : LiveState) (rec : DeviceRecord) : LiveState :=
  { s with devices := s.devices.insert rec.deviceId rec }

/-- A write to the record of one device. -/
def modifyDevice (s : LiveState) (id : DeviceId)
    (change : DeviceRecord → DeviceRecord) : LiveState :=
  { s with devices := s.devices.modify id change }

/-- A write to one deployment. -/
def modifyDeployment (s : LiveState) (id : DeploymentId)
    (change : Deployment → Deployment) : LiveState :=
  { s with deployments := s.deployments.modify id change }

/-! ## Fencing -/

/-- An activation record in a new state. -/
def marked (state : ActivationState) (act : ActivationRecord) : ActivationRecord :=
  { act with state := state }

/-- `if (dep.activation)`: mark the current activation of a deployment. -/
def markActivation (s : LiveState) (link : Option ActivationId)
    (state : ActivationState) : LiveState :=
  { s with activations := OrderedMap.modifyLinked s.activations link (marked state) }

/-- `release_resources`. -/
def releaseResources (s : LiveState) (id : DeploymentId) : LiveState :=
  match s.deployments[id]? with
  | none => s
  | some dep =>
      match s.ledgers[dep.device]? with
      | none => s
      | some ledger =>
          { s with
            ledgers := s.ledgers.insert dep.device (ledger.release dep.resources)
            usage :=
              s.usage.insert dep.device (ledger.release dep.resources).current }

/-- A deployment whose authority is taken away. -/
def fenced (dep : Deployment) : Deployment :=
  { dep with state := .revalidationRequired, authoritative := false }

/-- The body of the fencing loops, for the deployment they stand on. -/
def fenceDeployment (s : LiveState) (id : DeploymentId) (dep : Deployment) :
    LiveState :=
  markActivation { s with deployments := s.deployments.insert id (fenced dep) }
    dep.activation .stale

/-- A loop that fences every deployment it selects. -/
def fenceDeployments (s : LiveState) (selects : Deployment → Bool) : LiveState :=
  OrderedMap.sweep s.deployments
    (fun s id dep => if selects dep then fenceDeployment s id dep else s) s

/-- The states the fencing loops of a device look for. -/
def runsOn (id : DeviceId) (dep : Deployment) : Bool :=
  dep.device == id && (dep.state == .active || dep.state == .degraded)

/-- The deployments `retire_device` looks for. -/
def occupies (id : DeviceId) (dep : Deployment) : Bool :=
  dep.device == id &&
    (dep.state == .active || dep.state == .degraded || dep.state == .draining)

/-- The body of the loop of `retire_device`, which also gives resources back. -/
def evictDeployment (s : LiveState) (id : DeploymentId) (dep : Deployment) :
    LiveState :=
  let dep :=
    if validDeploymentTransition dep.state .revalidationRequired then
      { dep with state := .revalidationRequired }
    else dep
  let dep := { dep with authoritative := false }
  let s := { s with deployments := s.deployments.insert id dep }
  releaseResources (markActivation s dep.activation .stale) id

/-- The loop of `retire_device`. -/
def evictDeployments (s : LiveState) (id : DeviceId) : LiveState :=
  OrderedMap.sweep s.deployments
    (fun s depId dep => if occupies id dep then evictDeployment s depId dep else s) s

/-- `retire_device`. -/
def retireDevice (s : LiveState) (id : DeviceId) : LiveState :=
  (s.evictDeployments id).modifyDevice id fun dev =>
    { dev with lifecycle := .declared .retired, evidenceFresh := false }

/-- The targets of `transition_device` that withdraw the device's evidence. -/
def isFencingTarget (target : DeviceLifecycle) : Bool :=
  target == .revalidationRequired || target == .offline || target == .failed

/-- `transition_device`. -/
def transitionDevice (s : LiveState) (id : DeviceId) (target : DeviceLifecycle) :
    LiveState :=
  let s :=
    if isFencingTarget target then
      (s.modifyDevice id fun dev => { dev with evidenceFresh := false }).fenceDeployments
        (runsOn id)
    else s
  s.modifyDevice id fun dev => { dev with lifecycle := .declared target }

/-- `set_device_state`. -/
def setDeviceState (s : LiveState) (id : DeviceId) (state : CapabilityState)
    (cap : CapabilityKey) : LiveState :=
  s.modifyDevice id fun dev =>
    { dev with capabilities := dev.capabilities.setState cap (.declared state) }

/-- What `fence_device` writes to the device record. -/
def fencedRecord (reason : Text) (dev : DeviceRecord) : DeviceRecord :=
  let dev := { dev with evidenceFresh := false, discoveryDetail := reason }
  if dev.lifecycle ≠ .declared .retired ∧ dev.lifecycle ≠ .declared .offline ∧
      dev.lifecycle ≠ .declared .failed then
    { dev with lifecycle := .declared .revalidationRequired }
  else dev

/-- `fence_device`. -/
def fenceDevice (s : LiveState) (id : DeviceId) (reason : Text) : LiveState :=
  (s.modifyDevice id (fencedRecord reason)).fenceDeployments (runsOn id)

/-! ## Services, programs and workers -/

/-- `register_service`. -/
def registerService (s : LiveState) (svc : ServiceDefinition) : LiveState :=
  { s with services := s.services.insert svc.serviceId svc }

/-- Whether a registration makes its artifact's generation the current one. -/
def supersedes (s : LiveState) (art : ProgramArtifact) : Bool :=
  match s.currentProgramGen[art.programId]? with
  | none => true
  | some cur => art.programGen.value > cur.value

/-- `register_program`. -/
def registerProgram (s : LiveState) (art : ProgramArtifact) : LiveState :=
  { s with
    programs :=
      s.programs.insert art.programId
        ((s.programs.getD art.programId ∅).insert art.programGen art)
    currentProgramGen :=
      if s.supersedes art then
        s.currentProgramGen.insert art.programId art.programGen
      else s.currentProgramGen }

/-- `retire_program`. -/
def retireProgram (s : LiveState) (id : ProgramId) : LiveState :=
  { s with currentProgramGen := s.currentProgramGen.erase id }

/-- `register_worker`. -/
def registerWorker (s : LiveState) (worker : WorkerId) (boot : WorkerBootId) :
    LiveState :=
  { s with
    workers := s.workers.insert worker boot
    workerSeq :=
      s.workerSeq.insert worker (UInt64.ofNat s.workerSeq.size + 1) }

/-- What `mark_worker_lost` writes to the devices of the worker. -/
def orphaned (worker : WorkerId) (dev : DeviceRecord) : DeviceRecord :=
  if dev.owningWorker = worker ∧ dev.lifecycle ≠ .declared .retired then
    { dev with evidenceFresh := false, lifecycle := .declared .revalidationRequired }
  else dev

/-- The deployments `mark_worker_lost` looks for. -/
def boundTo (boot : WorkerBootId) (dep : Deployment) : Bool :=
  dep.workerBoot == boot && dep.state == .active

/-- `mark_worker_lost`. -/
def markWorkerLost (s : LiveState) (worker : WorkerId) : LiveState :=
  let s := { s with devices := s.devices.map fun _ dev => orphaned worker dev }
  match s.workers[worker]? with
  | none => s
  | some oldBoot =>
      let s := s.fenceDeployments (boundTo oldBoot)
      { s with
        workers := s.workers.erase worker
        workerSeq := s.workerSeq.erase worker }

/-! ## Deployments -/

/-- The deployment that `reserve_deployment` creates. -/
def reservedDeployment (s : LiveState) (req : OffloadRequest) (device : DeviceId)
    (dev : DeviceRecord) (svc : Option ServiceDefinition)
    (deploymentId : DeploymentId) (attemptId : DeploymentAttemptId) : Deployment :=
  let program := req.requiredProgram.getD (svc.elim .null (·.requiredProgram))
  { deploymentId := deploymentId
    generation := ⟨1⟩
    attemptId := attemptId
    service := req.service.getD .null
    serviceGen := svc.elim .null (·.serviceGen)
    program := program
    programGen :=
      if program.isNull then .null else s.currentProgramGen.getD program .null
    artifact := .null
    device := device
    deviceGen := dev.generation
    deviceBoot := dev.bootId
    tenant := req.tenant
    isolationDomain := req.isolationDomain
    resources := svc.elim req.resource (·.resource)
    state := .reserved
    authoritative := false }

/-- `reserve_deployment`: store the charged ledger and the deployment. -/
def reserveDeployment (s : LiveState) (charged : ResourceLedger) (dep : Deployment) :
    LiveState :=
  { s with
    ledgers := s.ledgers.insert dep.device charged
    usage := s.usage.insert dep.device charged.current
    deployments := s.deployments.insert dep.deploymentId dep }

/-- `do_deploy_transition`. -/
def doDeployTransition (s : LiveState) (id : DeploymentId)
    (target : DeploymentState) : LiveState :=
  s.modifyDeployment id fun dep =>
    { dep with state := target, authoritative := target == .active }

/-- The record that `activate_deployment` creates. -/
def pendingActivation (dep : Deployment) (id : DeploymentId) (aid : ActivationId) :
    ActivationRecord :=
  { activationId := aid
    activationGen := ⟨nextGeneration dep.activationGen.value⟩
    deploymentId := id
    deploymentGen := dep.generation
    state := .pending }

/-- `activate_deployment`, after its transition to `ACTIVATING`. -/
def activateDeployment (s : LiveState) (id : DeploymentId) (act : ActivationRecord) :
    LiveState :=
  let s := s.modifyDeployment id fun dep =>
    { dep with
      activation := some act.activationId
      activationGen := act.activationGen }
  { s with activations := s.activations.insert act.activationId act }

/-- The token that `commit_deployment` grants. -/
def grantedAuthority (s : LiveState) (dep : Deployment) (dev : DeviceRecord) :
    ActivationAuthority :=
  { epoch := s.epoch
    worker := .null
    workerBoot := dep.workerBoot
    device := dep.device
    deviceBoot := dep.deviceBoot
    deviceGen := dep.deviceGen
    serviceGen := dep.serviceGen
    programGen := dep.programGen
    deploymentGen := dep.generation
    activationGen := dep.activationGen
    policyGen := s.policy.generation
    evidenceGen := dev.evidenceGen }

/-- `commit_deployment`. -/
def commitDeployment (s : LiveState) (id : DeploymentId) (aid : ActivationId)
    (token : ActivationAuthority) : LiveState :=
  let s :=
    { s with
      activations := s.activations.modify aid fun act =>
        { act with authority := token, state := .active, reason := text "committed" } }
  s.modifyDeployment id fun dep =>
    { dep with state := .active, authoritative := true, epoch := s.epoch }

/--
How one of the five ending calls treats a deployment: the states it accepts,
those in which it gives the resources back, those in which it marks the
activation, the mark, and the state it ends in.
-/
structure Ending where
  allows : DeploymentState → Bool
  releases : DeploymentState → Bool
  marks : DeploymentState → Bool
  mark : ActivationState
  target : DeploymentState

/-- A deployment after one of these calls. -/
def ended (ending : Ending) (dep : Deployment) : Deployment :=
  { dep with state := ending.target, authoritative := false }

/-- The writes of `cancel`, `rollback`, `drain`, `retire` and `fail_deployment`. -/
def endDeployment (s : LiveState) (ending : Ending) (id : DeploymentId)
    (dep : Deployment) : LiveState :=
  let s := if ending.releases dep.state then s.releaseResources id else s
  let s :=
    if ending.marks dep.state then s.markActivation dep.activation ending.mark
    else s
  s.modifyDeployment id (ended ending)

/-- `cancel_deployment`. -/
def cancelEnding : Ending where
  allows state :=
    state == .planned || state == .reserved || state == .staging ||
      state == .loaded || state == .validating || state == .activating
  releases _ := true
  marks _ := true
  mark := .cancelled
  target := .aborted

/-- `rollback_deployment`, which also accepts `FAILED`. -/
def rollbackEnding : Ending where
  allows state :=
    state == .failed || state == .reserved || state == .staging ||
      state == .loaded || state == .validating || state == .activating
  releases _ := true
  marks _ := true
  mark := .cancelled
  target := .aborted

/-- `drain_deployment`, which keeps the resources. -/
def drainEnding : Ending where
  allows state :=
    state == .active || state == .degraded || state == .revalidationRequired
  releases _ := false
  marks _ := true
  mark := .draining
  target := .draining

/-- The states in which `retire_deployment` still finds something to take back. -/
def retireEnds (state : DeploymentState) : Bool :=
  state == .active || state == .degraded || state == .draining ||
    state == .revalidationRequired

/-- `retire_deployment`; its release comes after the mark. -/
def retireEnding : Ending where
  allows state :=
    state == .draining || state == .failed || state == .aborted ||
      state == .revalidationRequired || state == .active || state == .degraded
  releases := retireEnds
  marks := retireEnds
  mark := .retired
  target := .retired

/-- `fail_deployment`, which consults the lifecycle table. -/
def failEnding : Ending where
  allows state := validDeploymentTransition state .failed
  releases _ := true
  marks _ := true
  mark := .stale
  target := .failed

/-! ## Restart and recovery -/

/-- `advance_epoch`. -/
def advanceEpoch (s : LiveState) : LiveState :=
  { s with epoch := ⟨nextGeneration s.epoch.value⟩ }

/-- What `apply_recovery` writes to a capability. -/
def distrusted (cap : Capability) : Capability :=
  if cap.state = .declared .supported then
    { cap with state := .declared .revalidationRequired }
  else cap

/-- What `apply_recovery` writes to a device record. -/
def recoveredRecord (p : RecoveryPolicy) (dev : DeviceRecord) : DeviceRecord :=
  if dev.lifecycle = .declared .retired then dev
  else
    let dev := { dev with evidenceFresh := false }
    let dev :=
      if dev.lifecycle ≠ .declared .failed ∧ dev.lifecycle ≠ .declared .offline then
        { dev with lifecycle := .declared .revalidationRequired }
      else dev
    if p = .fenceAllDynamic then
      { dev with capabilities := dev.capabilities.map fun _ cap => distrusted cap }
    else dev

/-- The deployments `apply_recovery` looks for. -/
def isRunning (dep : Deployment) : Bool :=
  dep.state == .active || dep.state == .degraded

/-- `apply_recovery`. -/
def applyRecovery (s : LiveState) (p : RecoveryPolicy) : LiveState :=
  fenceDeployments
    { s with devices := s.devices.map fun _ dev => recoveredRecord p dev } isRunning

/-- What `recover_from` does after a successful load. -/
def rebuildLedgers (s : LiveState) : LiveState :=
  let s := { s with epoch := ⟨nextGeneration s.epoch.value⟩ }
  OrderedMap.sweep s.devices
    (fun s did dev =>
      { s with
        ledgers := s.ledgers.insertIfNew did ⟨dev.resourceCapacity, {}⟩
        usage := s.usage.insert did {} }) s

/-! ## Closed forms of the loops -/

/-- The link a fencing loop follows from a deployment. -/
def fencedLink (selects : Deployment → Bool) (dep : Deployment) :
    Option ActivationId :=
  if selects dep then dep.activation else none

/-- The activation table after a loop which fences the selected deployments. -/
def staleActivations (s : LiveState) (selects : Deployment → Bool) :
    ExtTreeMap ActivationId ActivationRecord :=
  OrderedMap.sweep s.deployments
    (fun activations _ dep =>
      OrderedMap.modifyLinked activations (fencedLink selects dep) (marked .stale))
    s.activations

open Classical in
/-- Exactly the records linked from a selected deployment become stale. -/
theorem lookup_staleActivations
    (s : LiveState) (selects : Deployment → Bool) (probe : ActivationId) :
    (s.staleActivations selects)[probe]? =
      if ∃ (id : DeploymentId) (dep : Deployment), s.deployments[id]? = some dep ∧
          selects dep = true ∧ dep.activation = some probe then
        s.activations[probe]?.map (marked .stale)
      else s.activations[probe]? := by
  rw [staleActivations, OrderedMap.sweep_modifyLinked_lookup
    (fun (_ : DeploymentId) dep => fencedLink selects dep) (marked .stale)
    (fun _ => rfl)]
  simp [fencedLink]

/-- What a fencing loop leaves of each deployment. -/
def fencedWhere (selects : Deployment → Bool) (dep : Deployment) : Deployment :=
  if selects dep then fenced dep else dep

theorem fenceDeployments_eq (s : LiveState) (selects : Deployment → Bool) :
    s.fenceDeployments selects =
      { s with
        deployments := s.deployments.map fun _ dep => fencedWhere selects dep
        activations := s.staleActivations selects } := by
  have frame : s.fenceDeployments selects =
      { s with
        deployments := (s.fenceDeployments selects).deployments
        activations := (s.fenceDeployments selects).activations } := by
    refine OrderedMap.sweep_invariant (fun reached : LiveState => reached =
      { s with
        deployments := reached.deployments
        activations := reached.activations }) rfl ?_
    intro reached id dep _ same
    split_ifs
    · rw [same]
      rfl
    · exact same
  have deployments : (s.fenceDeployments selects).deployments =
      s.deployments.map fun _ dep => fencedWhere selects dep := by
    rw [fenceDeployments, OrderedMap.sweep_component
      (fun reached : LiveState => reached.deployments)
      (fun deployments id dep =>
        if selects dep then deployments.insert id (fenced dep) else deployments)
      (by intro reached id dep; split_ifs <;> rfl)]
    exact OrderedMap.sweep_rewrite (fun _ dep => selects dep) (fun _ dep => fenced dep)
      s.deployments
  have activations : (s.fenceDeployments selects).activations =
      s.staleActivations selects := by
    rw [fenceDeployments, OrderedMap.sweep_component
      (fun reached : LiveState => reached.activations)
      (fun activations _ dep =>
        OrderedMap.modifyLinked activations (fencedLink selects dep) (marked .stale))
      (by
        intro reached id dep
        rw [fencedLink]
        split_ifs <;> rfl)]
    rfl
  rw [frame, deployments, activations]

/-- A release writes the two resource tables only. -/
theorem releaseResources_eq (s : LiveState) (id : DeploymentId) :
    s.releaseResources id =
      { s with
        ledgers := (s.releaseResources id).ledgers
        usage := (s.releaseResources id).usage } := by
  unfold releaseResources
  split
  · rfl
  · split <;> rfl

/-- A release reaches the ledger of the deployment's device. -/
theorem lookup_releaseResources
    {s : LiveState} {id : DeploymentId} {dep : Deployment}
    (present : s.deployments[id]? = some dep) (probe : DeviceId) :
    (s.releaseResources id).ledgers[probe]? =
      if dep.device = probe then
        s.ledgers[probe]?.map fun ledger => ledger.release dep.resources
      else s.ledgers[probe]? := by
  simp only [releaseResources, present]
  cases found : s.ledgers[dep.device]? with
  | none =>
      split_ifs with here
      · simp [← here, found]
      · rfl
  | some ledger =>
      rw [OrderedMap.lookup_insert]
      split_ifs with here
      · simp [← here, found]
      · rfl

/-- An ending writes the deployment, its activation and its device's ledger. -/
theorem endDeployment_eq (s : LiveState) (ending : Ending) (id : DeploymentId)
    (dep : Deployment) :
    s.endDeployment ending id dep =
      { s with
        deployments := s.deployments.modify id (ended ending)
        activations :=
          if ending.marks dep.state then
            OrderedMap.modifyLinked s.activations dep.activation (marked ending.mark)
          else s.activations
        ledgers :=
          if ending.releases dep.state then (s.releaseResources id).ledgers
          else s.ledgers
        usage :=
          if ending.releases dep.state then (s.releaseResources id).usage
          else s.usage } := by
  unfold endDeployment
  rw [releaseResources_eq]
  split_ifs <;> rfl

/-! ## What an activation and a commit leave in the tables -/

section Activation

variable {s : LiveState} {id : DeploymentId} {dep : Deployment} {aid : ActivationId}

theorem deployments_activateDeployment (present : s.deployments[id]? = some dep)
    (aid : ActivationId) (probe : DeploymentId) :
    ((s.doDeployTransition id .activating).activateDeployment id
        (pendingActivation dep id aid)).deployments[probe]? =
      if id = probe then some (dep.activating aid) else s.deployments[probe]? := by
  simp only [activateDeployment, doDeployTransition, modifyDeployment, OrderedMap.lookup_modify]
  split_ifs with here
  · rw [← here, present]
    rfl
  · rfl

theorem activations_activateDeployment (s : LiveState) (id : DeploymentId)
    (act : ActivationRecord) (probe : ActivationId) :
    (s.activateDeployment id act).activations[probe]? =
      if act.activationId = probe then some act else s.activations[probe]? :=
  OrderedMap.lookup_insert _ _ _ _

theorem deployments_commitDeployment (present : s.deployments[id]? = some dep)
    (aid : ActivationId) (token : ActivationAuthority) (probe : DeploymentId) :
    (s.commitDeployment id aid token).deployments[probe]? =
      if id = probe then
        some { dep with state := .active, authoritative := true, epoch := s.epoch }
      else s.deployments[probe]? := by
  simp only [commitDeployment, modifyDeployment, OrderedMap.lookup_modify]
  split_ifs with here
  · rw [← here, present]
    rfl
  · rfl

theorem activations_commitDeployment {act : ActivationRecord}
    (recorded : s.activations[aid]? = some act) (id : DeploymentId)
    (token : ActivationAuthority) (probe : ActivationId) :
    (s.commitDeployment id aid token).activations[probe]? =
      if aid = probe then
        some { act with authority := token, state := .active, reason := text "committed" }
      else s.activations[probe]? := by
  simp only [commitDeployment, modifyDeployment, OrderedMap.lookup_modify]
  split_ifs with here
  · rw [← here, recorded]
    rfl
  · rfl

end Activation

/-- Every state that `retire_device` looks for may become revalidation-required. -/
theorem evictDeployment_of_occupies
    {id : DeviceId} {dep : Deployment} (chosen : occupies id dep = true)
    (s : LiveState) (depId : DeploymentId) :
    evictDeployment s depId dep = (s.fenceDeployment depId dep).releaseResources depId := by
  have allowed : validDeploymentTransition dep.state .revalidationRequired = true := by
    simp only [occupies, Bool.and_eq_true, Bool.or_eq_true, beq_iff_eq] at chosen
    rcases chosen.2 with (running | running) | running <;> simp [running, validDeploymentTransition]
  simp [evictDeployment, allowed, fenceDeployment, fenced]

/-- The ledger that a release of each selected deployment leaves, in key order. -/
def evictedLedger (s : LiveState) (id : DeviceId) (ledger : ResourceLedger) :
    ResourceLedger :=
  OrderedMap.sweep s.deployments
    (fun ledger _ dep => if occupies id dep then ledger.release dep.resources else ledger)
    ledger

theorem evictDeployments_eq (s : LiveState) (id : DeviceId) :
    s.evictDeployments id =
      { s with
        deployments := s.deployments.map fun _ dep => fencedWhere (occupies id) dep
        activations := s.staleActivations (occupies id)
        ledgers := (s.evictDeployments id).ledgers
        usage := (s.evictDeployments id).usage } := by
  have frame : s.evictDeployments id =
      { s with
        deployments := (s.evictDeployments id).deployments
        activations := (s.evictDeployments id).activations
        ledgers := (s.evictDeployments id).ledgers
        usage := (s.evictDeployments id).usage } := by
    refine OrderedMap.sweep_invariant (fun reached : LiveState => reached =
      { s with
        deployments := reached.deployments
        activations := reached.activations
        ledgers := reached.ledgers
        usage := reached.usage }) rfl ?_
    intro reached depId dep _ same
    split_ifs with chosen
    · rw [evictDeployment_of_occupies chosen, releaseResources_eq, same]
      rfl
    · exact same
  have deployments : (s.evictDeployments id).deployments =
      s.deployments.map fun _ dep => fencedWhere (occupies id) dep := by
    rw [evictDeployments, OrderedMap.sweep_component
      (fun reached : LiveState => reached.deployments)
      (fun deployments depId dep =>
        if occupies id dep then deployments.insert depId (fenced dep) else deployments)
      (by
        intro reached depId dep
        split_ifs with chosen
        · rw [evictDeployment_of_occupies chosen, releaseResources_eq]
          rfl
        · rfl)]
    exact OrderedMap.sweep_rewrite (fun _ dep => occupies id dep)
      (fun _ dep => fenced dep) s.deployments
  have activations : (s.evictDeployments id).activations =
      s.staleActivations (occupies id) := by
    rw [evictDeployments, OrderedMap.sweep_component
      (fun reached : LiveState => reached.activations)
      (fun activations _ dep =>
        OrderedMap.modifyLinked activations (fencedLink (occupies id) dep)
          (marked .stale))
      (by
        intro reached depId dep
        rw [fencedLink]
        split_ifs with chosen
        · rw [evictDeployment_of_occupies chosen, releaseResources_eq]
          rfl
        · rfl)]
    rfl
  rw [frame, deployments, activations]

/-- The evicted resources are given back to the ledger of that device alone. -/
theorem lookup_evictDeployments
    (s : LiveState) (id probe : DeviceId) :
    (s.evictDeployments id).ledgers[probe]? =
      if id = probe then s.ledgers[probe]?.map (s.evictedLedger id)
      else s.ledgers[probe]? := by
  have visit : ∀ (reached : LiveState) (depId : DeploymentId) (dep : Deployment),
      (if occupies id dep then evictDeployment reached depId dep
        else reached).ledgers[probe]? =
        if id = probe ∧ occupies id dep = true then
          reached.ledgers[probe]?.map fun ledger => ledger.release dep.resources
        else reached.ledgers[probe]? := by
    intro reached depId dep
    by_cases chosen : occupies id dep = true
    · have onDevice : dep.device = id := by
        simp only [occupies, Bool.and_eq_true, beq_iff_eq] at chosen
        exact chosen.1
      have written : (reached.fenceDeployment depId dep).deployments[depId]? =
          some (fenced dep) := by
        simp [fenceDeployment, markActivation]
      rw [if_pos chosen, evictDeployment_of_occupies chosen,
        lookup_releaseResources written]
      simp [fenced, onDevice, chosen, fenceDeployment, markActivation]
    · simp [chosen]
  rw [evictDeployments, OrderedMap.sweep_component
    (fun reached : LiveState => (reached.ledgers[probe]? : Option ResourceLedger))
    (fun found _ dep =>
      if id = probe ∧ occupies id dep = true then
        found.map fun ledger => ledger.release dep.resources
      else found) visit]
  by_cases here : id = probe
  · simp only [here, true_and, if_true]
    cases s.ledgers[probe]? with
    | none =>
        refine OrderedMap.sweep_invariant
          (fun found : Option ResourceLedger => found = none) rfl ?_
        rintro found _ dep _ rfl
        simp
    | some ledger =>
        have started : some (s.evictedLedger probe ledger) = _ :=
          OrderedMap.sweep_component some
            (fun found _ dep =>
              if occupies probe dep = true then
                found.map fun ledger => ledger.release dep.resources
              else found)
            (by intro ledger _ dep; split_ifs <;> rfl) ledger
        exact started.symm
  · simp only [here, false_and, if_false]
    exact OrderedMap.sweep_invariant
      (fun found : Option ResourceLedger => found = s.ledgers[probe]?) rfl
      fun _ _ _ _ kept => kept

end LiveState

end DPUFabric
