import DPUFabric.Authority
import DPUFabric.DeploymentLifecycle

/-!
# Late completions

A reservation captures the device's boot and generation, the service's
generation and the program's.  A commit compares only the last with what is
current then, so it checks the captured values only as far as no call in
between has changed the others.
-/

namespace DPUFabric

open Std
open LiveState

/-- The two deployments captured the same values. -/
structure SameCaptured (dep captured : Deployment) : Prop where
  device : dep.device = captured.device
  deviceBoot : dep.deviceBoot = captured.deviceBoot
  deviceGen : dep.deviceGen = captured.deviceGen
  service : dep.service = captured.service
  serviceGen : dep.serviceGen = captured.serviceGen
  program : dep.program = captured.program
  programGen : dep.programGen = captured.programGen

theorem SameCaptured.refl (dep : Deployment) : SameCaptured dep dep := by
  constructor <;> rfl

theorem SameCaptured.trans {first second third : Deployment}
    (left : SameCaptured first second) (right : SameCaptured second third) :
    SameCaptured first third where
  device := left.device.trans right.device
  deviceBoot := left.deviceBoot.trans right.deviceBoot
  deviceGen := left.deviceGen.trans right.deviceGen
  service := left.service.trans right.service
  serviceGen := left.serviceGen.trans right.serviceGen
  program := left.program.trans right.program
  programGen := left.programGen.trans right.programGen

/-- The device is still the captured one. -/
def DeviceUnmoved (s : LiveState) (captured : Deployment) : Prop :=
  ∃ dev, s.devices[captured.device]? = some dev ∧ dev.bootId = captured.deviceBoot ∧
    dev.generation = captured.deviceGen

/-- The service, if there is one, is still the captured one. -/
def ServiceUnmoved (s : LiveState) (captured : Deployment) : Prop :=
  captured.service ≠ .null →
    ∃ svc, s.services[captured.service]? = some svc ∧ svc.serviceGen = captured.serviceGen

/-- The world is as the reservation captured it. -/
structure Unmoved (s : LiveState) (captured : Deployment) : Prop where
  device : DeviceUnmoved s captured
  service : ServiceUnmoved s captured
  program : captured.program ≠ .null →
    s.currentProgramGen[captured.program]? = some captured.programGen

/-- A commit here finds the captured world, or throws and leaves the state unchanged. -/
def ChecksCaptured (e : Engine) (id : DeploymentId) (captured : Deployment) : Prop :=
  Unmoved e.state captured ∨
    ∃ fault e', Engine.commitDeployment id e = .error fault e' ∧
      e'.state = e.state ∧ e'.snap = e.snap

/-! ## The calls in between -/

/-- The deployment is in the table with the captured values, which the world still has. -/
structure StillCaptured (s : LiveState) (id : DeploymentId) (captured : Deployment) :
    Prop where
  deployment : ∃ dep, s.deployments[id]? = some dep ∧ SameCaptured dep captured
  device : DeviceUnmoved s captured
  service : ServiceUnmoved s captured

/-- What an accepted call may do to the device and the entry of a deployment. -/
structure KeepsCaptured (seq : Nat) (id : DeploymentId) (captured : Deployment) (op : Op) :
    Prop where
  updated : ∀ rec, op = .updateDevice rec → rec.deviceId = captured.device →
    rec.bootId = captured.deviceBoot ∧ rec.generation = captured.deviceGen
  reserved : ∀ req selected, op = .reserveDeployment req selected → id ≠ ⟨UInt64.ofNat seq⟩

/-- The records of a file agree with the captured values. -/
structure RecordsAgree (own : LiveState) (id : DeploymentId) (captured : Deployment) :
    Prop where
  device : ∀ dev, own.devices[captured.device]? = some dev →
    dev.bootId = captured.deviceBoot ∧ dev.generation = captured.deviceGen
  service : ∀ svc, own.services[captured.service]? = some svc →
    svc.serviceGen = captured.serviceGen
  deployment : ∀ dep, own.deployments[id]? = some dep → SameCaptured dep captured

/-- The call, if it has any effect, leaves the captured values in place. -/
def CompletionCondition (id : DeploymentId) (captured : Deployment) (e : Engine) (op : Op) :
    Prop :=
  ((∃ s seq, Accepted e.state e.idSeq op s seq) → KeepsCaptured e.idSeq id captured op) ∧
    ∀ file, op = .recoverFrom file → RecordsAgree (Persistence.records file) id captured

/-- Only a reservation under the same identity replaces the captured values. -/
theorem DeploymentStep.sameCaptured {s : LiveState} {seq : Nat} {op : Op} {id : DeploymentId}
    {dep dep' : Deployment} (taken : DeploymentStep s seq op id dep dep')
    (reserved : ∀ req selected, op = .reserveDeployment req selected →
      id ≠ ⟨UInt64.ofNat seq⟩) : SameCaptured dep' dep := by
  cases taken with
  | replaced reserves taken => exact absurd taken (reserved _ _ reserves)
  | _ => constructor <;> rfl

theorem Accepted.stillCaptured {s s' : LiveState} {seq seq' : Nat} {op : Op}
    (accepted : Accepted s seq op s' seq') {id : DeploymentId} {captured : Deployment}
    (keeps : KeepsCaptured seq id captured op) (still : StillCaptured s id captured) :
    StillCaptured s' id captured := by
  obtain ⟨dep, present, same⟩ := still.deployment
  obtain ⟨dep', present', taken⟩ := accepted.deployment_of_present present
  refine ⟨⟨dep', present', (taken.sameCaptured keeps.reserved).trans same⟩, ?_, ?_⟩
  · obtain ⟨dev, located, boot, generation⟩ := still.device
    refine ⟨_, accepted.device_of_present located, ?_⟩
    by_cases replaced : ∃ rec, op = .updateDevice rec ∧ rec.deviceId = captured.device
    · obtain ⟨rec, rfl, here⟩ := replaced
      simpa [Op.rewritten, here] using keeps.updated rec rfl here
    · have incarnation : SameIncarnation (op.rewritten captured.device dev) dev :=
        Op.rewritten_sameIncarnation dev fun rec updates here =>
          absurd ⟨rec, updates, here⟩ replaced
      exact ⟨incarnation.boot.trans boot, incarnation.generation.trans generation⟩
  · intro named
    obtain ⟨svc, offered, generation⟩ := still.service named
    exact ⟨svc, accepted.registry_eq.2.2 _ svc offered, generation⟩

/-- Records that agree may be laid over the tables. -/
theorem StillCaptured.overlaid {base own out : LiveState} {id : DeploymentId}
    {captured : Deployment} (overlay : Persistence.Overlay base own out)
    (agree : RecordsAgree own id captured) (still : StillCaptured base id captured) :
    StillCaptured out id captured := by
  constructor
  · rw [overlay.deployments]
    cases loaded : own.deployments[id]? with
    | none => exact still.deployment
    | some dep => exact ⟨dep, rfl, agree.deployment dep loaded⟩
  · unfold DeviceUnmoved
    rw [overlay.devices]
    cases loaded : own.devices[captured.device]? with
    | none => exact still.device
    | some dev => exact ⟨dev, rfl, agree.device dev loaded⟩
  · intro named
    rw [overlay.services]
    cases loaded : own.services[captured.service]? with
    | none => exact still.service named
    | some svc => exact ⟨svc, rfl, agree.service svc loaded⟩

theorem StillCaptured.recovered {s : LiveState} {id : DeploymentId} {captured : Deployment}
    (still : StillCaptured s id captured) :
    StillCaptured (Persistence.fenceRecovered s).rebuildLedgers id captured := by
  rw [rebuildLedgers_eq]
  obtain ⟨dep, present, same⟩ := still.deployment
  obtain ⟨dev, located, boot, generation⟩ := still.device
  refine ⟨⟨Persistence.fenceRecoveredDeployment dep, ?_, ?_⟩,
    ⟨Persistence.fenceRecoveredDevice dev, ?_, ?_⟩, still.service⟩
  · simp [Persistence.fenceRecovered, present]
  · unfold Persistence.fenceRecoveredDeployment
    split_ifs <;> exact ⟨same.device, same.deviceBoot, same.deviceGen, same.service,
      same.serviceGen, same.program, same.programGen⟩
  · simp [Persistence.fenceRecovered, located]
  · unfold Persistence.fenceRecoveredDevice
    dsimp only
    split_ifs <;> exact ⟨boot, generation⟩

theorem StillCaptured.step {e : Engine} {op : Op} (single : Engine.isSingle op = true)
    {id : DeploymentId} {captured : Deployment} (condition : CompletionCondition id captured e op)
    (still : StillCaptured e.state id captured) :
    StillCaptured (e.step op).state id captured := by
  have plainCase : op.isPlain = true → StillCaptured (e.step op).state id captured := by
    intro plain
    rcases Engine.step_cases e plain with ⟨s, seq, accepted, result⟩ | ⟨-, quiet⟩
    · rw [result]
      exact accepted.stillCaptured (condition.1 ⟨s, seq, accepted⟩) still
    · rw [quiet.state]
      exact still
  cases op with
  | runAllBackends discovered => cases single
  | recoverFrom file =>
      have agree := condition.2 file rfl
      cases recoverFrom_cases file e with
      | missing absent result => rw [result]; exact still
      | rejected empty wellFormed result => rw [result]; exact still
      | malformed malformed overlay thrown result =>
          rw [result]
          exact still.overlaid overlay agree
      | accepted wellFormed overlay result =>
          rw [result]
          exact (still.overlaid overlay agree).recovered
  | _ => exact plainCase rfl

/-- A reservation captures the world it is made in. -/
theorem Accepted.reserved_stillCaptured {s s' : LiveState} {seq seq' : Nat}
    {req : OffloadRequest} {selected : Option DeviceId}
    (accepted : Accepted s seq (.reserveDeployment req selected) s' seq')
    {captured : Deployment}
    (created : s'.deployments[(⟨UInt64.ofNat seq⟩ : DeploymentId)]? = some captured) :
    StillCaptured s' ⟨UInt64.ofNat seq⟩ captured := by
  cases accepted with
  | reserveDeployment present ready offered accounted made admitted =>
      rename_i device dev svc ledger dep
      have issued : dep.deploymentId = ⟨UInt64.ofNat seq⟩ := by rw [made]; rfl
      have stored : captured = dep := by
        rw [LiveState.reserveDeployment, OrderedMap.lookup_insert, if_pos issued] at created
        exact (Option.some.inj created).symm
      refine ⟨⟨captured, created, .refl captured⟩, ?_, ?_⟩ <;> rw [stored, made]
      · exact ⟨dev, present, rfl, rfl⟩
      intro named
      unfold Offers at offered
      cases requested : req.service with
      | none => simp [reservedDeployment, requested] at named
      | some service =>
          rw [requested] at offered
          obtain ⟨found, known, rfl⟩ := offered
          refine ⟨found, ?_, rfl⟩
          simpa [LiveState.reserveDeployment, reservedDeployment, requested] using known
  | moveDeployment moves => cases moves
  | endDeployment ends => cases ends

/-! ## The commit -/

/-- A commit itself checks the program, and nothing else that was captured. -/
theorem StillCaptured.checks {e : Engine} {id : DeploymentId} {captured : Deployment}
    (still : StillCaptured e.state id captured) : ChecksCaptured e id captured := by
  have plain : (Op.commitDeployment id).isPlain = true := rfl
  cases Engine.outcome e plain with
  | accepted accepted result =>
      refine Or.inl ⟨still.device, still.service, fun named => ?_⟩
      obtain ⟨dep, present, same⟩ := still.deployment
      obtain ⟨-, current, -⟩ := accepted.of_commitDeployment present
      rw [← same.program] at named ⊢
      rw [← same.programGen]
      simpa [Engine.programIsCurrent, named] using current
  | thrown refused result quiet =>
      exact Or.inr ⟨_, _, result, quiet.state, quiet.snap⟩
  | idle idles => cases idles

/-- An engine with one ready device. -/
def readyEngine : Engine := Engine.run Engine.sampleEngine [.registerDevice Engine.sampleDevice]

/-- The deployment that a first reservation creates there. -/
def capturedDeployment : Deployment :=
  readyEngine.state.reservedDeployment {} ⟨1⟩ Engine.sampleDevice none ⟨1⟩ ⟨2⟩

/-- The calls that take it up to the commit. -/
def inFlight : List Op :=
  [.stageDeployment ⟨1⟩, .loadDeployment ⟨1⟩, .validateDeployment ⟨1⟩,
    .activateDeployment ⟨1⟩]

/-- The engine when the device has rebooted meanwhile. -/
def rebootedEngine : Engine :=
  (readyEngine.step (.reserveDeployment {} (some ⟨1⟩))).run
    (inFlight ++ [.updateDevice { Engine.sampleDevice with bootId := ⟨2⟩ }])

/-- The commit does not notice: it succeeds, under the captured boot. -/
theorem rebootedDevice_commits :
    (readyEngine.step (.reserveDeployment {} (some ⟨1⟩))).state.deployments[
        (⟨1⟩ : DeploymentId)]? = some capturedDeployment ∧
      ¬ ChecksCaptured rebootedEngine ⟨1⟩ capturedDeployment := by
  refine ⟨by decide, ?_⟩
  rintro (⟨⟨dev, located, boot, -⟩, -, -⟩ | ⟨fault, e', refused, -⟩)
  · have rebooted : rebootedEngine.state.devices[capturedDeployment.device]?.map
        (fun dev => dev.bootId) = some ⟨2⟩ := by
      decide
    have captured : capturedDeployment.deviceBoot = ⟨1⟩ := by decide
    rw [located, Option.map_some, boot, captured] at rebooted
    exact absurd rebooted (by decide)
  · have returned : Engine.succeeds (Engine.commitDeployment ⟨1⟩) rebootedEngine = true := by
      decide
    rw [Engine.succeeds, refused] at returned
    cases returned

/--
Between a reservation and the commit of its deployment, as long as every call
leaves the captured device and service in place, the commit finds the captured
world or throws and leaves the state unchanged.
-/
theorem commit_checksCaptured (e : Engine) (req : OffloadRequest) (selected : Option DeviceId)
    (middle : List Op) (captured : Deployment)
    (reserved : Engine.succeeds (Engine.exec (.reserveDeployment req selected)) e = true)
    (created : (e.step (.reserveDeployment req selected)).state.deployments[
      (⟨UInt64.ofNat e.idSeq⟩ : DeploymentId)]? = some captured)
    (condition : TransitionRun.Every Engine.step
      (Engine.EachCall (CompletionCondition ⟨UInt64.ofNat e.idSeq⟩ captured))
      (e.step (.reserveDeployment req selected)) middle) :
    ChecksCaptured ((e.step (.reserveDeployment req selected)).run middle)
      ⟨UInt64.ofNat e.idSeq⟩ captured := by
  obtain ⟨s, seq, accepted, result⟩ := Engine.accepted_of_succeeds e (by rfl) (by rfl) reserved
  have start : StillCaptured (e.step (.reserveDeployment req selected)).state
      ⟨UInt64.ofNat e.idSeq⟩ captured := by
    rw [result] at created ⊢
    exact accepted.reserved_stillCaptured created
  refine StillCaptured.checks ?_
  refine TransitionRun.run_invariant
    (fun reached : Engine => StillCaptured reached.state ⟨UInt64.ofNat e.idSeq⟩ captured)
    (fun reached op each still => ?_) start condition
  exact Engine.eachCall_invariant
    (fun reached : Engine => StillCaptured reached.state ⟨UInt64.ofNat e.idSeq⟩ captured)
    (fun reached op single condition still => still.step single condition) each still

/-- The same calls while the device's record is only replaced by an equal one. -/
theorem commit_checksCaptured_sample :
    ChecksCaptured
      ((readyEngine.step (.reserveDeployment {} (some ⟨1⟩))).run
        (.updateDevice Engine.sampleDevice :: inFlight)) ⟨1⟩ capturedDeployment := by
  have harmless : ∀ (e : Engine) (op : Op), op.moves.isSome = true ∨ op.issues = true →
      (∀ req selected, op ≠ .reserveDeployment req selected) →
        CompletionCondition ⟨1⟩ capturedDeployment e op := by
    intro e op pipeline unreserved
    refine ⟨fun _ => ⟨?_, fun req selected same => absurd same (unreserved req selected)⟩, ?_⟩
    · rintro rec rfl
      simp [Op.moves, Op.issues] at pipeline
    · rintro file rfl
      simp [Op.moves, Op.issues] at pipeline
  refine commit_checksCaptured readyEngine {} (some ⟨1⟩) _ capturedDeployment
    (by decide) (by decide) ⟨⟨fun _ => ⟨?_, by simp⟩, by simp⟩, ?_⟩
  · rintro rec ⟨⟩ -
    exact ⟨rfl, rfl⟩
  · exact ⟨harmless _ _ (by decide) (by simp), harmless _ _ (by decide) (by simp),
      harmless _ _ (by decide) (by simp), harmless _ _ (by decide) (by simp), trivial⟩

end DPUFabric
