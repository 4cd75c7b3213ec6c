import DPUFabric.Footprint

/-!
# Authority needs a ready device

`ActiveReady` ties the deployment table to the device table: authority is the
state `ACTIVE`, and an active deployment runs on a ready device.  It survives
every call except those that take a device out of `READY` without fencing.
Which calls these are, and what they leave live, is the second half.
-/

namespace DPUFabric

open Std
open LiveState

/-- Authority is the state `ACTIVE`, and needs a ready device. -/
structure ActiveReady (s : LiveState) : Prop where
  authority : ∀ (id : DeploymentId) (dep : Deployment),
    s.deployments[id]? = some dep →
      (dep.authoritative = true ↔ dep.state = .active)
  ready : ∀ (id : DeploymentId) (dep : Deployment),
    s.deployments[id]? = some dep → dep.state = .active →
      ∃ dev, s.devices[dep.device]? = some dev ∧ dev.isReadyForOffload = true

/-! ## The calls that keep it -/

/-- The lifecycle targets `transition_device` may be given. -/
def isSafeTarget (target : DeviceLifecycle) : Bool :=
  target == .ready || target == .available || isFencingTarget target

/-- The calls which never take a device out of `READY` without fencing it. -/
def Op.isSafe : Op → Bool
  | .transitionDevice _ target => isSafeTarget target
  | .updateDevice _ => false
  | .runAllBackends _ => false
  | .markWorkerLost _ => false
  | .recoverFrom _ => false
  | _ => true

theorem Op.ends_target_ne_active {op : Op} {id : DeploymentId} {ending : Ending}
    (ends : op.ends = some (id, ending)) :
    ending.target ≠ .active := by
  cases op <;> cases ends <;> decide

theorem Op.moves_target_ne_active {op : Op} {id : DeploymentId}
    {target : DeploymentState} (moves : op.moves = some (id, target)) :
    target ≠ .active := by
  cases op <;> cases moves <;> decide

/-- After any step, authority is again the state `ACTIVE`. -/
theorem DeploymentStep.authority
    {s : LiveState} {seq : Nat} {op : Op} {id : DeploymentId} {dep dep' : Deployment}
    (taken : DeploymentStep s seq op id dep dep')
    (before : dep.authoritative = true ↔ dep.state = .active) :
    dep'.authoritative = true ↔ dep'.state = .active := by
  cases taken with
  | kept => exact before
  | fenced => simp [LiveState.fenced]
  | replaced => simp [reservedDeployment]
  | moved => simp
  | activated => simp
  | committed => simp
  | ended ends => simp [LiveState.ended, Op.ends_target_ne_active ends]

/-- A deployment that is active after a step was active and unfenced, or was committed. -/
theorem DeploymentStep.of_active
    {s : LiveState} {seq : Nat} {op : Op} {id : DeploymentId} {dep dep' : Deployment}
    (taken : DeploymentStep s seq op id dep dep') (active : dep'.state = .active) :
    (dep' = dep ∧ op.fences s dep = false) ∨
      op = .commitDeployment id ∧ dep.state = .activating ∧ dep'.device = dep.device ∧
        ∃ dev, s.devices[dep.device]? = some dev ∧ dev.isReadyForOffload = true := by
  cases taken with
  | kept unfenced => exact Or.inl ⟨rfl, unfenced⟩
  | fenced => simp [LiveState.fenced] at active
  | replaced => simp [reservedDeployment] at active
  | moved moves => exact absurd active (Op.moves_target_ne_active moves)
  | activated => simp at active
  | committed commits activating located ready =>
      exact Or.inr ⟨commits, activating, rfl, _, located, ready⟩
  | ended ends => exact absurd active (Op.ends_target_ne_active ends)

/-- A safe call leaves the device of an unfenced active deployment ready. -/
theorem Accepted.rewritten_ready
    {s s' : LiveState} {seq seq' : Nat} {op : Op} (accepted : Accepted s seq op s' seq')
    (safe : op.isSafe = true) {dep : Deployment} {dev : DeviceRecord}
    (located : s.devices[dep.device]? = some dev)
    (active : dep.state = .active) (unfenced : op.fences s dep = false)
    (ready : dev.isReadyForOffload = true) :
    (op.rewritten dep.device dev).isReadyForOffload = true := by
  have condition := (DeviceRecord.isReadyForOffload_eq_true_iff dev).mp ready
  cases accepted with
  | updateDevice => cases safe
  | markWorkerLost => cases safe
  | retireDevice =>
      rename_i id dev' present
      have elsewhere : id ≠ dep.device := by
        rintro rfl
        simp [Op.fences, occupies, active] at unfenced
      simpa [Op.rewritten, elsewhere] using ready
  | transitionDevice present valid =>
      rename_i id target dev'
      by_cases here : id = dep.device
      · subst here
        rw [located] at present
        cases present
        -- From `READY` the table only leads to targets that fence or are unsafe.
        rw [condition.1] at valid
        cases target <;>
          simp_all [Op.isSafe, isSafeTarget, isFencingTarget, Op.fences, runsOn,
            validDeviceTransition]
      · simpa [Op.rewritten, here] using ready
  | setDeviceState =>
      rw [DeviceRecord.isReadyForOffload_eq_true_iff, Op.rewritten]
      split_ifs <;> exact condition
  | fenceDevice =>
      rename_i id reason dev' present
      have elsewhere : id ≠ dep.device := by
        rintro rfl
        simp [Op.fences, runsOn, active] at unfenced
      simpa [Op.rewritten, elsewhere] using ready
  | applyRecovery => simp [Op.fences, isRunning, active] at unfenced
  | moveDeployment moves => cases op <;> first | exact ready | cases moves
  | endDeployment ends => cases op <;> first | exact ready | cases ends
  | _ => exact ready

theorem Accepted.activeReady
    {s s' : LiveState} {seq seq' : Nat} {op : Op} (accepted : Accepted s seq op s' seq')
    (safe : op.isSafe = true) (holds : ActiveReady s) :
    ActiveReady s' := by
  constructor
  · intro id dep' present'
    cases present : s.deployments[id]? with
    | none =>
        rcases accepted.deployment_of_absent present with
          gone | ⟨req, device, dev, svc, attempt, -, -, -, -, -, created⟩
        · rw [gone] at present'
          cases present'
        · rw [created] at present'
          cases present'
          simp [reservedDeployment]
    | some dep =>
        obtain ⟨found, present'', taken⟩ := accepted.deployment_of_present present
        rw [present''] at present'
        cases present'
        exact taken.authority (holds.authority id dep present)
  · intro id dep' present' active
    cases present : s.deployments[id]? with
    | none =>
        rcases accepted.deployment_of_absent present with
          gone | ⟨req, device, dev, svc, attempt, -, -, -, -, -, created⟩
        · rw [gone] at present'
          cases present'
        · rw [created] at present'
          cases present'
          simp [reservedDeployment] at active
    | some dep =>
        obtain ⟨found, present'', taken⟩ := accepted.deployment_of_present present
        rw [present''] at present'
        cases present'
        rcases taken.of_active active with
          ⟨rfl, unfenced⟩ | ⟨rfl, activating, device, dev, located, ready⟩
        · obtain ⟨dev, located, ready⟩ := holds.ready id _ present active
          exact ⟨_, accepted.device_of_present located,
            accepted.rewritten_ready safe located active unfenced ready⟩
        · rw [device]
          exact ⟨_, accepted.device_of_present located, ready⟩

/-- Authority needs a ready device, in every state that safe calls reach. -/
theorem activeReady_run (epoch : CoordinatorEpoch) (policy : Policy) (ops : List Op)
    (safe : ∀ op ∈ ops, op.isSafe = true) :
    ActiveReady (Engine.run (Engine.fresh epoch policy) ops).state := by
  refine TransitionRun.run_invariant (P := fun _ op => op.isSafe = true)
    (fun e : Engine => ActiveReady e.state) ?_ ?_
    (TransitionRun.every_of_forall_mem _ safe)
  · intro e op safe holds
    have plain : op.isPlain = true := by
      cases op <;> first | rfl | cases safe
    rcases Engine.step_cases e plain with ⟨s, seq, accepted, result⟩ | ⟨-, quiet⟩
    · rw [result]
      exact accepted.activeReady safe holds
    · rw [quiet.state]
      exact holds
  · constructor <;> simp [Engine.fresh]

/-- A run that deploys, loses the device's evidence and deploys again. -/
theorem activeReady_run_sample :
    ActiveReady (Engine.run (Engine.fresh ⟨1⟩ (Policy.defaults ⟨1⟩))
      (Engine.sampleRun ++ ([.fenceDevice ⟨1⟩ [], .transitionDevice ⟨1⟩ .ready,
        .validateDeployment ⟨1⟩] : List Op))).state :=
  activeReady_run _ _ _ (by decide)

/-! ## What a sweep leaves live on a device -/

/-- No deployment on the device is active or authoritative, nor any activation. -/
structure NothingLive (s : LiveState) (device : DeviceId) : Prop where
  deployments : ∀ (id : DeploymentId) (dep : Deployment),
    s.deployments[id]? = some dep → dep.device = device →
      dep.state ≠ .active ∧ dep.authoritative = false
  activations : ∀ (aid : ActivationId) (act : ActivationRecord) (dep : Deployment),
    s.activations[aid]? = some act →
      s.deployments[act.deploymentId]? = some dep → dep.device = device →
        act.state ≠ .active

/--
A loop selects every live deployment on the device and follows a link to every
live activation.
-/
structure SweepReaches (s : LiveState) (selects : Deployment → Bool)
    (device : DeviceId) : Prop where
  deployments : ∀ (id : DeploymentId) (dep : Deployment),
    s.deployments[id]? = some dep → dep.device = device →
      dep.state = .active ∨ dep.authoritative = true → selects dep = true
  activations : ∀ (aid : ActivationId) (act : ActivationRecord) (dep : Deployment),
    s.activations[aid]? = some act →
      s.deployments[act.deploymentId]? = some dep → dep.device = device →
        act.state = .active →
          ∃ (id : DeploymentId) (other : Deployment), s.deployments[id]? = some other ∧
            selects other = true ∧ other.activation = some aid

/-- A loop that selects nothing reaches everything when there is nothing live. -/
theorem sweepReaches_of_none {s : LiveState} {selects : Deployment → Bool}
    (nothing : ∀ dep, selects dep = false) (device : DeviceId) :
    SweepReaches s selects device ↔ NothingLive s device := by
  constructor
  · intro reaches
    constructor
    · intro id dep present here
      have unselected := nothing dep
      constructor
      · intro active
        have chosen := reaches.deployments id dep present here (Or.inl active)
        simp [unselected] at chosen
      · by_contra authority
        have chosen := reaches.deployments id dep present here
          (Or.inr (by simpa using authority))
        simp [unselected] at chosen
    · intro aid act dep recorded present here active
      obtain ⟨id, other, -, chosen, -⟩ :=
        reaches.activations aid act dep recorded present here active
      simp [nothing other] at chosen
  · intro quiet
    constructor
    · intro id dep present here live
      obtain ⟨inactive, unauthorized⟩ := quiet.deployments id dep present here
      rcases live with active | authority
      · exact absurd active inactive
      · simp [unauthorized] at authority
    · intro aid act dep recorded present here active
      exact absurd active (quiet.activations aid act dep recorded present here)

@[simp]
theorem fencedWhere_device (selects : Deployment → Bool) (dep : Deployment) :
    (fencedWhere selects dep).device = dep.device := by
  unfold fencedWhere
  split_ifs <;> rfl

/-- After the loop nothing is live on the device exactly when the loop reached all that was. -/
theorem nothingLive_swept_iff {s s' : LiveState} {selects : Deployment → Bool}
    (deployments : s'.deployments =
      s.deployments.map fun _ dep => fencedWhere selects dep)
    (activations : s'.activations = s.staleActivations selects) (device : DeviceId) :
    NothingLive s' device ↔ SweepReaches s selects device := by
  have after : ∀ (id : DeploymentId) (dep : Deployment), s.deployments[id]? = some dep →
      s'.deployments[id]? = some (fencedWhere selects dep) := by
    intro id dep present
    simp [deployments, present]
  have before : ∀ (id : DeploymentId) (dep' : Deployment), s'.deployments[id]? = some dep' →
      ∃ dep, s.deployments[id]? = some dep ∧ dep' = fencedWhere selects dep := by
    intro id dep' present
    rw [deployments, ExtTreeMap.getElem?_map, Option.map_eq_some_iff] at present
    obtain ⟨dep, found, rfl⟩ := present
    exact ⟨dep, found, rfl⟩
  constructor
  · intro quiet
    constructor
    · intro id dep present here live
      by_contra unselected
      have kept : fencedWhere selects dep = dep := by simp [fencedWhere, unselected]
      obtain ⟨inactive, unauthorized⟩ :=
        quiet.deployments id _ (after id dep present) (by simpa using here)
      rw [kept] at inactive unauthorized
      rcases live with active | authority
      · exact inactive active
      · simp [unauthorized] at authority
    · intro aid act dep recorded present here active
      by_contra unreached
      have kept : s'.activations[aid]? = some act := by
        rw [activations, lookup_staleActivations, if_neg unreached]
        exact recorded
      exact quiet.activations aid act _ kept (after _ dep present) (by simpa using here) active
  · intro reaches
    constructor
    · intro id dep' present' here
      obtain ⟨dep, present, rfl⟩ := before id dep' present'
      rw [fencedWhere_device] at here
      by_cases chosen : selects dep = true
      · simp [fencedWhere, chosen, fenced]
      · have idle : ¬ (dep.state = .active ∨ dep.authoritative = true) :=
          fun live => chosen (reaches.deployments id dep present here live)
        simpa [fencedWhere, chosen] using idle
    · intro aid act dep' recorded' present' here
      obtain ⟨dep, present, rfl⟩ := before _ dep' present'
      rw [fencedWhere_device] at here
      rw [activations, lookup_staleActivations] at recorded'
      split_ifs at recorded' with linked
      · obtain ⟨old, -, rfl⟩ := Option.map_eq_some_iff.mp recorded'
        simp [marked]
      · intro active
        exact linked (reaches.activations aid act dep recorded' present here active)

/-! ## Losing readiness -/

/-- The accepted calls that leave a device other than ready. -/
inductive LosesReadiness (s : LiveState) : Op → DeviceId → Prop
  | transition {id : DeviceId} {target : DeviceLifecycle} {dev : DeviceRecord}
      (present : s.devices[id]? = some dev)
      (valid : validDeviceTransition dev.lifecycle (.declared target) = true)
      (leaves : target ≠ .ready) :
      LosesReadiness s (.transitionDevice id target) id
  | update {rec old : DeviceRecord}
      (named : rec.deviceId ≠ .null) (present : s.devices[rec.deviceId]? = some old)
      (agrees : Engine.conflicts old rec = false)
      (unready : rec.isReadyForOffload = false) :
      LosesReadiness s (.updateDevice rec) rec.deviceId

/-- After the call nothing is live on a device it made other than ready. -/
def FencesLoss (e : Engine) (op : Op) : Prop :=
  ∀ device, LosesReadiness e.state op device → NothingLive (e.step op).state device

/-- The loop of the call reaches all that is live on such a device. -/
def ReachesLoss (e : Engine) (op : Op) : Prop :=
  ∀ device, LosesReadiness e.state op device →
    SweepReaches e.state (op.fences e.state) device

theorem fencesLoss_iff (e : Engine) (op : Op) : FencesLoss e op ↔ ReachesLoss e op := by
  refine forall₂_congr fun device loses => ?_
  obtain ⟨s, seq, accepted⟩ : ∃ s seq, Accepted e.state e.idSeq op s seq := by
    cases loses with
    | transition present valid => exact ⟨_, _, .transitionDevice present valid⟩
    | update named present agrees => exact ⟨_, _, .updateDevice named present agrees⟩
  have plain : op.isPlain = true := by cases loses <;> rfl
  have sweeps : op.sweeps = true := by cases loses <;> rfl
  rcases Engine.step_cases e plain with ⟨s, seq, accepted, result⟩ | ⟨refused, -⟩
  · obtain ⟨deployments, activations⟩ := accepted.swept sweeps
    rw [result]
    exact nothingLive_swept_iff deployments activations device
  · exact absurd accepted (refused s seq)

/-- A device that degrades keeps its active deployment. -/
theorem degraded_keepsActive :
    LosesReadiness (Engine.run Engine.sampleEngine Engine.sampleRun).state
        (.transitionDevice ⟨1⟩ .degraded) ⟨1⟩ ∧
      ¬ NothingLive
        ((Engine.run Engine.sampleEngine Engine.sampleRun).step
          (.transitionDevice ⟨1⟩ .degraded)).state ⟨1⟩ := by
  constructor
  · have found : ((Engine.run Engine.sampleEngine Engine.sampleRun).state.devices[
        (⟨1⟩ : DeviceId)]?.map (·.lifecycle)) = some (.declared .ready) := by
      decide
    obtain ⟨dev, present, ready⟩ := Option.map_eq_some_iff.mp found
    exact .transition present (by rw [ready]; rfl) (by decide)
  · intro quiet
    have live : (((Engine.run Engine.sampleEngine Engine.sampleRun).step
        (.transitionDevice ⟨1⟩ .degraded)).state.deployments[(⟨1⟩ : DeploymentId)]?.map
          fun dep => (dep.device, dep.state)) = some (⟨1⟩, .active) := by
      decide
    obtain ⟨dep, present, facts⟩ := Option.map_eq_some_iff.mp live
    rw [Prod.mk.injEq] at facts
    exact (quiet.deployments _ dep present facts.1).1 facts.2

/--
In every run, each loss of readiness fences the device exactly when the loop
of that call reaches all that is live on it.
-/
theorem readinessLoss_fences_iff (epoch : CoordinatorEpoch) (policy : Policy)
    (ops : List Op) :
    TransitionRun.Every Engine.step (Engine.EachCall FencesLoss)
        (Engine.fresh epoch policy) ops ↔
      TransitionRun.Every Engine.step (Engine.EachCall ReachesLoss)
        (Engine.fresh epoch policy) ops :=
  TransitionRun.every_congr (Engine.eachCall_congr fencesLoss_iff) _ _

end DPUFabric
