import DPUFabric.Footprint
import DPUFabric.Format

/-!
# The tables of the coordinator fit together

The writer follows the device order and the reader files every record under its
own identity, so a snapshot can only survive if its tables fit together.  They
do so after every run of calls.
-/

namespace DPUFabric

open Std
open LiveState

/-! ## The registry -/

/-- The four calls that write the device order, the services or the programs. -/
def Op.registers : Op → Bool
  | .registerDevice _ => true
  | .registerService _ => true
  | .registerProgram _ => true
  | .retireProgram _ => true
  | _ => false

/-- The tables that only these calls write. -/
structure SameRegistry (s s' : LiveState) : Prop where
  deviceOrder : s'.deviceOrder = s.deviceOrder
  services : s'.services = s.services
  programs : s'.programs = s.programs
  currentProgramGen : s'.currentProgramGen = s.currentProgramGen

section Calls

variable {s s' : LiveState} {seq seq' : Nat} {op : Op}

theorem Accepted.sameRegistry (accepted : Accepted s seq op s' seq')
    (other : op.registers = false) : SameRegistry s s' := by
  cases accepted with
  | registerDevice => cases other
  | registerService => cases other
  | registerProgram => cases other
  | retireProgram => cases other
  | retireDevice =>
      rw [LiveState.retireDevice, evictDeployments_eq]
      exact ⟨rfl, rfl, rfl, rfl⟩
  | transitionDevice =>
      rename_i id target dev present valid
      rw [LiveState.transitionDevice, fenceDeployments_eq]
      cases isFencingTarget target <;> exact ⟨rfl, rfl, rfl, rfl⟩
  | fenceDevice =>
      rw [LiveState.fenceDevice, fenceDeployments_eq]
      exact ⟨rfl, rfl, rfl, rfl⟩
  | markWorkerLost =>
      rename_i worker
      cases known : s.workers[worker]? with
      | none =>
          simp only [LiveState.markWorkerLost, known]
          exact ⟨rfl, rfl, rfl, rfl⟩
      | some boot =>
          simp only [LiveState.markWorkerLost, known, fenceDeployments_eq]
          exact ⟨rfl, rfl, rfl, rfl⟩
  | endDeployment =>
      rw [endDeployment_eq]
      exact ⟨rfl, rfl, rfl, rfl⟩
  | applyRecovery =>
      rw [LiveState.applyRecovery, fenceDeployments_eq]
      exact ⟨rfl, rfl, rfl, rfl⟩
  | _ => exact ⟨rfl, rfl, rfl, rfl⟩

theorem fencedRecord_deviceId (reason : Text) (dev : DeviceRecord) :
    (fencedRecord reason dev).deviceId = dev.deviceId := by
  simp only [fencedRecord]
  split_ifs <;> rfl

theorem orphaned_deviceId (worker : WorkerId) (dev : DeviceRecord) :
    (orphaned worker dev).deviceId = dev.deviceId := by
  simp only [orphaned]
  split_ifs <;> rfl

theorem recoveredRecord_deviceId (p : RecoveryPolicy) (dev : DeviceRecord) :
    (recoveredRecord p dev).deviceId = dev.deviceId := by
  simp only [recoveredRecord]
  split_ifs <;> rfl

/-- No call renames a device record. -/
theorem Op.rewritten_deviceId (op : Op) {id : DeviceId} {dev : DeviceRecord}
    (named : dev.deviceId = id) : (op.rewritten id dev).deviceId = id := by
  cases op with
  | updateDevice rec =>
      simp only [Op.rewritten]
      split_ifs with same
      · exact same
      · exact named
  | retireDevice =>
      simp only [Op.rewritten]
      split_ifs <;> exact named
  | transitionDevice =>
      simp only [Op.rewritten]
      split_ifs <;> exact named
  | setDeviceState =>
      simp only [Op.rewritten]
      split_ifs <;> exact named
  | fenceDevice target reason =>
      simp only [Op.rewritten]
      split_ifs
      · exact (fencedRecord_deviceId reason dev).trans named
      · exact named
  | markWorkerLost worker => exact (orphaned_deviceId worker dev).trans named
  | applyRecovery p => exact (recoveredRecord_deviceId p dev).trans named
  | _ => exact named

/-- No call renames a deployment. -/
theorem DeploymentStep.deploymentId {id : DeploymentId} {dep dep' : Deployment}
    (taken : DeploymentStep s seq op id dep dep') (named : dep.deploymentId = id) :
    dep'.deploymentId = id := by
  cases taken <;> first | exact named | rfl

/-! ## One call -/

theorem Accepted.deviceIds (accepted : Accepted s seq op s' seq')
    (holds : ∀ (id : DeviceId) (d : DeviceRecord), s.devices[id]? = some d → d.deviceId = id)
    (id : DeviceId) (d : DeviceRecord) (present : s'.devices[id]? = some d) :
    d.deviceId = id := by
  cases old : s.devices[id]? with
  | some dev =>
      have after := accepted.device_of_present old
      rw [present] at after
      cases after
      exact op.rewritten_deviceId (holds id dev old)
  | none =>
      rcases accepted.device_of_absent old with absent | ⟨rec, -, named, found⟩
      · rw [present] at absent
        cases absent
      · rw [present] at found
        cases found
        exact named

theorem Accepted.deploymentIds (accepted : Accepted s seq op s' seq')
    (holds : ∀ (id : DeploymentId) (dep : Deployment),
      s.deployments[id]? = some dep → dep.deploymentId = id)
    (id : DeploymentId) (dep' : Deployment) (present : s'.deployments[id]? = some dep') :
    dep'.deploymentId = id := by
  cases old : s.deployments[id]? with
  | some dep =>
      rcases accepted.deployment_of_present old with ⟨after, found, taken⟩
      rw [present] at found
      cases found
      exact taken.deploymentId (holds id dep old)
  | none =>
      rcases accepted.deployment_of_absent old with
        absent | ⟨req, device, dev, svc, attempt, -, -, -, -, -, found⟩
      · rw [present] at absent
        cases absent
      · rw [present] at found
        cases found
        rfl

/-- A device stays registered, and only a registration adds one. -/
theorem Accepted.registered_iff (accepted : Accepted s seq op s' seq') (id : DeviceId) :
    (∃ d, s'.devices[id]? = some d) ↔
      (∃ d, s.devices[id]? = some d) ∨ ∃ rec, op = .registerDevice rec ∧ rec.deviceId = id := by
  constructor
  · rintro ⟨d, present⟩
    cases old : s.devices[id]? with
    | some dev => exact Or.inl ⟨dev, rfl⟩
    | none =>
        rcases accepted.device_of_absent old with absent | ⟨rec, registers, named, -⟩
        · rw [present] at absent
          cases absent
        · exact Or.inr ⟨rec, registers, named⟩
  · rintro (⟨dev, present⟩ | ⟨rec, rfl, named⟩)
    · exact ⟨_, accepted.device_of_present present⟩
    · obtain ⟨-, -, rfl⟩ := accepted.of_registerDevice
      exact ⟨rec, by simp [LiveState.registerDevice, named]⟩

theorem Accepted.deviceOrder_eq (accepted : Accepted s seq op s' seq')
    (other : ∀ rec, op ≠ .registerDevice rec) : s'.deviceOrder = s.deviceOrder := by
  cases registers : op.registers with
  | false => exact (accepted.sameRegistry registers).deviceOrder
  | true =>
      cases accepted with
      | registerDevice => exact absurd rfl (other _)
      | registerService => rfl
      | registerProgram => rfl
      | retireProgram => rfl
      | moveDeployment moves => cases op <;> first | cases moves; done | cases registers
      | endDeployment ends => cases op <;> first | cases ends; done | cases registers
      | _ => cases registers

/-- A registration lists its device, and the table and the order stay in step. -/
theorem Accepted.enumerates (accepted : Accepted s seq op s' seq')
    (enumerates : Enumerates s.deviceOrder s.devices) :
    Enumerates s'.deviceOrder s'.devices := by
  by_cases registers : ∃ rec, op = .registerDevice rec
  · obtain ⟨rec, rfl⟩ := registers
    have order : s'.deviceOrder = s.deviceOrder ++ [rec.deviceId] ∧
        s.devices[rec.deviceId]? = none := by
      obtain ⟨-, absent, rfl⟩ := accepted.of_registerDevice
      exact ⟨rfl, absent⟩
    have unlisted : rec.deviceId ∉ s.deviceOrder := by
      intro member
      obtain ⟨d, present⟩ := (enumerates.listed rec.deviceId).mp member
      rw [order.2] at present
      cases present
    constructor
    · rw [order.1, List.nodup_append]
      refine ⟨enumerates.nodup, List.nodup_singleton _, ?_⟩
      rintro id member other here rfl
      rw [List.mem_singleton.mp here] at member
      exact unlisted member
    · intro id
      rw [order.1, accepted.registered_iff id, List.mem_append, List.mem_singleton]
      refine or_congr (enumerates.listed id) ⟨?_, ?_⟩
      · rintro rfl
        exact ⟨rec, rfl, rfl⟩
      · rintro ⟨other, same, rfl⟩
        cases same
        rfl
  · have other : ∀ rec, op ≠ .registerDevice rec := fun rec same => registers ⟨rec, same⟩
    constructor
    · rw [accepted.deviceOrder_eq other]
      exact enumerates.nodup
    · intro id
      have unregistered : ¬ ∃ rec, op = .registerDevice rec ∧ rec.deviceId = id :=
        fun ⟨rec, same, _⟩ => other rec same
      rw [accepted.deviceOrder_eq other, accepted.registered_iff id, or_iff_left unregistered]
      exact enumerates.listed id

theorem Accepted.consistent_of_sameRegistry (accepted : Accepted s seq op s' seq')
    (other : op.registers = false) (holds : (makeSnapshot s).Consistent) :
    (makeSnapshot s').Consistent := by
  have same := accepted.sameRegistry other
  have enumerates := accepted.enumerates holds.enumerates
  refine { order := enumerates.nodup, listed := enumerates.listed, devices := ?_,
           services := ?_, generations := ?_, current := ?_, deployments := ?_ }
  · exact accepted.deviceIds holds.devices
  · intro id svc
    change s'.services[id]? = some svc → _
    rw [same.services]
    exact holds.services id svc
  · intro pid gens
    change s'.programs[pid]? = some gens → _
    rw [same.programs]
    exact holds.generations pid gens
  · intro pid g
    change s'.currentProgramGen[pid]? = some g → ∃ gens, s'.programs[pid]? = some gens ∧ _
    rw [same.programs, same.currentProgramGen]
    exact holds.current pid g
  · exact accepted.deploymentIds holds.deployments

theorem consistent_registerDevice {rec : DeviceRecord} (named : rec.deviceId ≠ .null)
    (absent : s.devices[rec.deviceId]? = none) (holds : (makeSnapshot s).Consistent) :
    (makeSnapshot (s.registerDevice rec)).Consistent := by
  have accepted : Accepted s 0 (.registerDevice rec) (s.registerDevice rec) 0 :=
    .registerDevice named absent
  have enumerates := accepted.enumerates holds.enumerates
  exact { holds with
    order := enumerates.nodup
    listed := enumerates.listed
    devices := accepted.deviceIds holds.devices }

/-- A registered artifact joins the generations of its program. -/
theorem lookup_registerProgram (s : LiveState) (art : ProgramArtifact) (pid : ProgramId) :
    (s.registerProgram art).programs[pid]? =
      if art.programId = pid then
        some ((s.programs.getD art.programId ∅).insert art.programGen art)
      else s.programs[pid]? :=
  OrderedMap.lookup_insert _ _ _ _

theorem consistent_registerProgram (s : LiveState) (art : ProgramArtifact)
    (holds : (makeSnapshot s).Consistent) :
    (makeSnapshot (s.registerProgram art)).Consistent := by
  refine { holds with generations := ?_, current := ?_ }
  · intro pid gens stored
    change (s.registerProgram art).programs[pid]? = some gens at stored
    rw [lookup_registerProgram] at stored
    split_ifs at stored
    · cases stored
      exact ⟨art.programGen, art, by simp⟩
    · exact holds.generations pid gens stored
  · intro pid g present
    change (s.registerProgram art).currentProgramGen[pid]? = some g at present
    change ∃ gens, (s.registerProgram art).programs[pid]? = some gens ∧
      ∃ found : ProgramArtifact, gens[g]? = some found
    rw [lookup_registerProgram]
    -- The new generation is current, or the one that was current before still is.
    have either : art.programId = pid ∧ art.programGen = g ∨
        s.currentProgramGen[pid]? = some g := by
      simp only [LiveState.registerProgram] at present
      split_ifs at present with newer
      · rw [OrderedMap.lookup_insert] at present
        split_ifs at present with same
        · exact Or.inl ⟨same, by cases present; rfl⟩
        · exact Or.inr present
      · exact Or.inr present
    rcases either with ⟨same, rfl⟩ | old
    · rw [if_pos same]
      exact ⟨_, rfl, art, by simp⟩
    · rcases holds.current pid g old with ⟨gens, stored, found, at_g⟩
      change s.programs[pid]? = some gens at stored
      split_ifs with same
      · subst same
        refine ⟨_, rfl, ?_⟩
        rw [ExtTreeMap.getD_eq_getD_getElem?, stored, Option.getD_some,
          OrderedMap.lookup_insert]
        split_ifs
        · exact ⟨art, rfl⟩
        · exact ⟨found, at_g⟩
      · exact ⟨gens, stored, found, at_g⟩

theorem Accepted.consistent (accepted : Accepted s seq op s' seq')
    (holds : (makeSnapshot s).Consistent) : (makeSnapshot s').Consistent := by
  cases other : op.registers with
  | false => exact accepted.consistent_of_sameRegistry other holds
  | true =>
      cases accepted with
      | registerDevice named absent =>
          exact consistent_registerDevice named absent holds
      | registerService named absent =>
          rename_i svc
          refine { holds with services := ?_ }
          intro id found present
          change (s.services.insert svc.serviceId svc)[id]? = some found at present
          rw [OrderedMap.lookup_insert] at present
          split_ifs at present with same
          · cases present
            exact same
          · exact holds.services id found present
      | registerProgram named versioned => exact consistent_registerProgram s _ holds
      | retireProgram present =>
          rename_i id
          refine { holds with current := ?_ }
          intro pid g found
          change (s.currentProgramGen.erase id)[pid]? = some g at found
          rw [ExtTreeMap.getElem?_erase] at found
          split_ifs at found
          exact holds.current pid g found
      | moveDeployment moves => cases op <;> first | cases moves; done | cases other
      | endDeployment ends => cases op <;> first | cases ends; done | cases other
      | _ => cases other

end Calls

/-! ## Runs -/

theorem consistent_fresh (epoch : CoordinatorEpoch) (policy : Policy) :
    (makeSnapshot (Engine.fresh epoch policy).state).Consistent := by
  constructor <;> simp [Engine.fresh, makeSnapshot]

/-- The tables fit together after every call that does not read a state file. -/
theorem Engine.consistent_step {e : Engine} {op : Op} (ordinary : Engine.recovers op = false)
    (holds : (makeSnapshot e.state).Consistent) :
    (makeSnapshot (e.step op).state).Consistent :=
  Engine.step_keeps (fun s _ => (makeSnapshot s).Consistent) (fun _ holds => holds)
    (fun accepted holds => accepted.consistent holds) e ordinary holds

theorem Engine.consistent_run (epoch : CoordinatorEpoch) (policy : Policy) {ops : List Op}
    (ordinary : ∀ op ∈ ops, Engine.recovers op = false) :
    (makeSnapshot (Engine.run (Engine.fresh epoch policy) ops).state).Consistent :=
  TransitionRun.run_invariant (P := fun _ op => Engine.recovers op = false)
    (fun e : Engine => (makeSnapshot e.state).Consistent)
    (fun _ _ ordinary holds => Engine.consistent_step ordinary holds)
    (consistent_fresh epoch policy) (TransitionRun.every_of_forall_mem _ ordinary)

end DPUFabric
