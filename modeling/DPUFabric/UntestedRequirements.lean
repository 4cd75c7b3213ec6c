import DPUFabric.Selection

/-!
# Requirements that are declared and not tested

A request declares a headroom, a queue pressure and a policy generation of its own,
a capability records the firmware and the runtime that it needs, and a service names
an ABI.  The evaluation compares none of them with the device, the policy or the
program: it tests the bounds of the policy, the floors of the service and of the
program, and the ABI of the request.  A selection keeps such a requirement where what
is tested covers it, or where the selected device happens to meet it.

Requirements speak of exact percentages and tests are made in the score type, so a
bound of the policy covers one of the request only where its test is not rounded
away.
-/

namespace DPUFabric

/-! ## Requirements -/

inductive Requirement where
  | headroom | queuePressure | policyGeneration | capabilityFloors | serviceAbi
deriving DecidableEq, Repr

namespace Snapshot

/-- The program that a request runs, when its current artifact is registered. -/
def usedProgram (snap : Snapshot) (req : OffloadRequest) : Option ProgramArtifact :=
  snap.checkedArtifact req (snap.requestedService req)

/-- A capability that the request, its service, its program or the policy requires. -/
inductive Requires (snap : Snapshot) (req : OffloadRequest) : CapabilityKey → Prop
  | collected {c : CapabilityRequirement}
      (listed : c ∈ collectRequiredCaps req (snap.requestedService req) (snap.usedProgram req))
      (required : c.isOptional = false) : Requires snap req c.key
  | policy {c : CapabilityRequirement} (listed : c ∈ snap.policy.hardCaps) :
      Requires snap req c.key

/-- The firmware that the service and the program ask for. -/
def firmwareFloor (snap : Snapshot) (req : OffloadRequest) : UInt64 :=
  max ((snap.requestedService req).elim 0 (·.minFirmwareGen.value))
    ((snap.usedProgram req).elim 0 (·.minFirmwareGen.value))

/-- The runtime that the service asks for. -/
def runtimeFloor (snap : Snapshot) (req : OffloadRequest) : UInt64 :=
  (snap.requestedService req).elim 0 (·.minRuntimeGen.value)

end Snapshot

namespace Requirement

section Meaning

variable (F : Type) [ScoreArith F] (snap : Snapshot) (req : OffloadRequest) (did : DeviceId)
  (dev : DeviceRecord)

/-- What a requirement says about a device, with exact percentages. -/
def Holds : Requirement → Prop
  | headroom =>
      ofAmount ℚ req.minHeadroom ≤ headroomPct ℚ dev (snap.deviceUsage.getD did {})
  | queuePressure =>
      req.maxQueuePressure ≠ 0 →
        DPUFabric.queuePressure ℚ dev (snap.deviceUsage.getD did {}) * 100 ≤
          ofAmount ℚ req.maxQueuePressure
  | policyGeneration => req.minPolicyGen.value ≤ snap.policy.generation.value
  | capabilityFloors =>
      ∀ key, snap.Requires req key → ∀ capability, dev.capabilities[key]? = some capability →
        capability.minFirmwareGen.value ≤ dev.firmwareGen.value ∧
          capability.minRuntimeGen.value ≤ dev.runtimeGen.value
  | serviceAbi =>
      ∀ s, snap.requestedService req = some s → s.requiredAbi ≠ [] →
        ∀ art, snap.usedProgram req = some art →
          art.runtimeAbi = [] ∨ art.runtimeAbi = s.requiredAbi

/-- The policy's headroom is tested on the device as it would be in exact arithmetic. -/
def HeadroomExact : Prop :=
  ScoreArith.lt (headroomPct F dev (snap.deviceUsage.getD did {}))
      (ofAmount F snap.policy.minHeadroom) =
    ScoreArith.lt (headroomPct ℚ dev (snap.deviceUsage.getD did {}))
      (ofAmount ℚ snap.policy.minHeadroom)

/-- So is the policy's queue pressure. -/
def PressureExact : Prop :=
  ScoreArith.lt (ofAmount F snap.policy.maxQueuePressure)
      (DPUFabric.queuePressure F dev (snap.deviceUsage.getD did {}) * ScoreArith.ofInt 100) =
    ScoreArith.lt (ofAmount ℚ snap.policy.maxQueuePressure)
      (DPUFabric.queuePressure ℚ dev (snap.deviceUsage.getD did {}) * ScoreArith.ofInt 100)

/--
What is tested in place of a requirement covers it, or the device happens to have what
is missing.
-/
def Granted : Requirement → Prop
  | headroom =>
      req.minHeadroom ≤ snap.policy.minHeadroom ∧ HeadroomExact F snap did dev ∨
        ∀ dim, dev.resourceCapacity.amount dim ≠ 0 →
          req.minHeadroom.toNat * (dev.resourceCapacity.amount dim).toNat ≤
            100 * ((dev.resourceCapacity.amount dim).toNat -
              ((snap.deviceUsage.getD did {}).amount dim).toNat)
  | queuePressure =>
      req.maxQueuePressure = 0 ∨
        snap.policy.maxQueuePressure ≤ req.maxQueuePressure ∧ PressureExact F snap did dev ∨
        100 * min (snap.deviceUsage.getD did {}).queues.toNat dev.resourceCapacity.queues.toNat ≤
          req.maxQueuePressure.toNat * dev.resourceCapacity.queues.toNat
  | policyGeneration => req.minPolicyGen.value ≤ snap.policy.generation.value
  | capabilityFloors =>
      ∀ key, snap.Requires req key → ∀ capability, dev.capabilities[key]? = some capability →
        (capability.minFirmwareGen.value ≤ snap.firmwareFloor req ∨
          capability.minFirmwareGen.value ≤ dev.firmwareGen.value) ∧
        (capability.minRuntimeGen.value ≤ snap.runtimeFloor req ∨
          capability.minRuntimeGen.value ≤ dev.runtimeGen.value)
  | serviceAbi =>
      ∀ s, snap.requestedService req = some s →
        s.requiredAbi = [] ∨ s.requiredAbi = req.requiredAbi ∨
          ∀ art, snap.usedProgram req = some art →
            art.runtimeAbi = [] ∨ art.runtimeAbi = s.requiredAbi

end Meaning

/-! ## What the tests cover -/

section Covered

variable {F : Type} [ScoreArith F] {snap : Snapshot} {req : OffloadRequest} {did : DeviceId}
  {dev : DeviceRecord} (suits : Suits F snap req (snap.requestedService req) did dev)
include suits

theorem headroom_iff (bound : req.minHeadroom ≤ 100) :
    headroom.Holds snap req did dev ↔ headroom.Granted F snap req did dev := by
  have small : req.minHeadroom.toNat ≤ 100 := UInt64.le_iff_toNat_le.mp bound
  have exactly := DPUFabric.headroom_iff dev (snap.deviceUsage.getD did {}) req.minHeadroom
  rw [lt_eq_false_iff] at exactly
  rw [Holds, Granted, exactly]
  constructor
  · exact fun reached => .inr reached.2
  · rintro (⟨covered, agrees⟩ | reached)
    · rw [← exactly]
      have tested := (lt_eq_false_iff _ _).mp (agrees.symm.trans suits.headroom)
      rw [ofAmount_eq] at tested ⊢
      refine le_trans ?_ tested
      exact_mod_cast UInt64.le_iff_toNat_le.mp covered
    · exact ⟨small, reached⟩

theorem queuePressure_iff :
    queuePressure.Holds snap req did dev ↔ queuePressure.Granted F snap req did dev := by
  have exactly := DPUFabric.queuePressure_iff dev (snap.deviceUsage.getD did {})
    req.maxQueuePressure
  rw [lt_eq_false_iff, ofInt_hundred] at exactly
  rw [Holds, Granted, exactly, ← or_iff_not_imp_left]
  refine or_congr_right ⟨.inr, ?_⟩
  rintro (⟨covered, agrees⟩ | reached)
  · have tested := (DPUFabric.queuePressure_iff dev (snap.deviceUsage.getD did {})
      snap.policy.maxQueuePressure).mp (agrees.symm.trans suits.queuePressure)
    exact tested.trans (Nat.mul_le_mul_right _ (UInt64.le_iff_toNat_le.mp covered))
  · exact reached

theorem capabilityFloors_iff :
    capabilityFloors.Holds snap req did dev ↔ capabilityFloors.Granted F snap req did dev := by
  have firmware : snap.firmwareFloor req ≤ dev.firmwareGen.value := by
    rw [Snapshot.firmwareFloor, max_le_iff_both, elim_le_iff, elim_le_iff]
    exact ⟨suits.serviceFirmware, suits.programFirmware⟩
  have runtime : snap.runtimeFloor req ≤ dev.runtimeGen.value := by
    rw [Snapshot.runtimeFloor, elim_le_iff]
    exact suits.serviceRuntime
  constructor
  · intro floors key required capability found
    obtain ⟨first, second⟩ := floors key required capability found
    exact ⟨.inr first, .inr second⟩
  · intro floors key required capability found
    obtain ⟨first, second⟩ := floors key required capability found
    exact ⟨first.elim (UInt64.le_trans · firmware) id,
      second.elim (UInt64.le_trans · runtime) id⟩

theorem serviceAbi_iff :
    serviceAbi.Holds snap req did dev ↔ serviceAbi.Granted F snap req did dev := by
  constructor
  · intro kept s service
    by_cases unnamed : s.requiredAbi = []
    · exact .inl unnamed
    · exact .inr (.inr (kept s service unnamed))
  · intro granted s service named art used
    rcases granted s service with unnamed | same | kept
    · exact absurd unnamed named
    · -- The ABI of the request is the one that is tested.
      obtain ⟨pid, wanted, found⟩ := Option.bind_eq_some_iff.mp used
      obtain ⟨art', found', runs⟩ := suits.program pid wanted
      have record : art' = art := Option.some.inj (found'.symm.trans found)
      rw [record] at runs
      rcases runs.abi with free | unset | agrees
      · exact absurd (same.trans free) named
      · exact .inl unset
      · exact .inr (agrees.trans same.symm)
    · exact kept art used

theorem holds_iff_granted (bound : req.minHeadroom ≤ 100) (requirement : Requirement) :
    requirement.Holds snap req did dev ↔ requirement.Granted F snap req did dev := by
  cases requirement with
  | headroom => exact headroom_iff suits bound
  | queuePressure => exact queuePressure_iff suits
  | policyGeneration => exact Iff.rfl
  | capabilityFloors => exact capabilityFloors_iff suits
  | serviceAbi => exact serviceAbi_iff suits

end Covered

end Requirement

/--
The selected device meets all requirements exactly if the device that is ranked first,
where there is one, is granted them.
-/
theorem requirements_hold_iff (F : Type) [ScoreArith F] [LawfulScoreArith F] (snap : Snapshot)
    (req : OffloadRequest) :
    (∀ (result : EligibilityResult F) did, evaluateOffload F snap req = .ok result →
      result.selected = some did →
      ∃ dev, snap.devices[did]? = some dev ∧
        ∀ requirement : Requirement, requirement.Holds snap req did dev) ↔
    (req.minHeadroom ≤ 100 → req.maxQueuePressure ≤ 100 →
      ∀ did dev, FirstChoice F snap req did dev →
        ∀ requirement : Requirement, requirement.Granted F snap req did dev) := by
  constructor
  · intro kept low calm did dev choice requirement
    have evaluated := (evaluateOffload_eq_ok_iff snap req (outcome F snap req)).mpr
      ⟨⟨low, calm⟩, rfl⟩
    obtain ⟨dev', registered, holds⟩ :=
      kept _ did evaluated ((selected_eq_some_iff evaluated).mpr ⟨dev, choice⟩)
    rw [choice.passes.registered] at registered
    cases registered
    exact (requirement.holds_iff_granted choice.passes.suits low).mp (holds requirement)
  · intro granted result did evaluated selected
    obtain ⟨⟨low, calm⟩, -⟩ := (evaluateOffload_eq_ok_iff snap req result).mp evaluated
    obtain ⟨dev, choice⟩ := (selected_eq_some_iff evaluated).mp selected
    refine ⟨dev, choice.passes.registered, fun requirement => ?_⟩
    exact (requirement.holds_iff_granted choice.passes.suits low).mpr
      (granted low calm did dev choice requirement)

/-! ## An example -/

/-- Half of the queues of this device are free, and its capability needs a later firmware. -/
def demandingDevice : DeviceRecord :=
  { deviceId := ⟨1⟩
    health := .declared .healthy
    lifecycle := .declared .ready
    evidenceFresh := true
    resourceCapacity := { queues := 100 }
    capabilities := Std.ExtTreeMap.insert ∅ default
      { state := .declared .supported, minFirmwareGen := ⟨7⟩, minRuntimeGen := ⟨7⟩ } }

def demandingSnapshot : Snapshot :=
  { policy := Policy.defaults ⟨1⟩
    devices := Std.ExtTreeMap.insert ∅ ⟨1⟩ demandingDevice
    services := Std.ExtTreeMap.insert ∅ ⟨90⟩
      { serviceId := ⟨90⟩, requiredProgram := ⟨5⟩, requiredAbi := text "DOCA_2.x" }
    programs := Std.ExtTreeMap.insert ∅ ⟨5⟩ (Std.ExtTreeMap.insert ∅ ⟨1⟩
      { programId := ⟨5⟩, programGen := ⟨1⟩, runtimeAbi := text "host-abi" })
    currentProgramGen := Std.ExtTreeMap.insert ∅ ⟨5⟩ ⟨1⟩
    deviceUsage := Std.ExtTreeMap.insert ∅ ⟨1⟩ { queues := 50 }
    deviceOrder := [⟨1⟩] }

def demandingRequest : OffloadRequest :=
  { service := some ⟨90⟩
    requiredCaps := [{}]
    minPolicyGen := ⟨2⟩
    minHeadroom := 60
    maxQueuePressure := 40 }

theorem demandingDevice_passes :
    Passes ℚ demandingSnapshot demandingRequest ⟨1⟩ demandingDevice where
  listed := List.mem_cons_self
  registered := OrderedMap.lookup_insert _ _ _ _
  clean := by decide +kernel

/-- More than the policy asks for, and no more than the device has. -/
def modestRequest : OffloadRequest :=
  { minPolicyGen := ⟨1⟩, minHeadroom := 40, maxQueuePressure := 60 }

theorem modestRequest_passes :
    Passes ℚ demandingSnapshot modestRequest ⟨1⟩ demandingDevice where
  listed := List.mem_cons_self
  registered := OrderedMap.lookup_insert _ _ _ _
  clean := by decide +kernel

theorem requirements_hold_iff_modest :
    ∃ result, evaluateOffload ℚ demandingSnapshot modestRequest = .ok result ∧
      result.selected = some ⟨1⟩ ∧
      ∃ dev, demandingSnapshot.devices[(⟨1⟩ : DeviceId)]? = some dev ∧
        ∀ requirement : Requirement,
          requirement.Holds demandingSnapshot modestRequest ⟨1⟩ dev := by
  have evaluated :=
    evaluateOffload_only rfl ⟨by decide, by decide⟩ modestRequest_passes
  refine ⟨_, evaluated, rfl, (requirements_hold_iff ℚ _ _).mpr ?_ _ _ evaluated rfl⟩
  intro low calm did dev choice requirement
  have here : did = ⟨1⟩ := List.mem_singleton.mp choice.passes.listed
  subst here
  have record : demandingDevice = dev :=
    Option.some.inj (modestRequest_passes.registered.symm.trans choice.passes.registered)
  subst record
  cases requirement with
  | headroom =>
      refine .inr fun dim bounded => ?_
      cases dim with
      | queues => decide
      | _ => exact absurd rfl bounded
  | queuePressure => exact .inr (.inr (by decide))
  | policyGeneration => simp only [Requirement.Granted]; decide
  | capabilityFloors =>
      intro key required
      cases required with
      | collected listed optional => cases listed
      | policy listed => cases listed
  | serviceAbi =>
      intro s service
      cases service

/-- A device is selected that meets none of the requirements. -/
theorem not_requirements_hold :
    ∃ (snap : Snapshot) (req : OffloadRequest) (result : EligibilityResult ℚ)
      (did : DeviceId) (dev : DeviceRecord),
      evaluateOffload ℚ snap req = .ok result ∧ result.selected = some did ∧
        snap.devices[did]? = some dev ∧
        ∀ requirement : Requirement, ¬ requirement.Holds snap req did dev := by
  have suits := demandingDevice_passes.suits
  refine ⟨demandingSnapshot, demandingRequest, _, ⟨1⟩, demandingDevice,
    evaluateOffload_only rfl ⟨by decide, by decide⟩ demandingDevice_passes, rfl,
    demandingDevice_passes.registered, fun requirement => ?_⟩
  rw [requirement.holds_iff_granted suits (by decide)]
  have artifact : demandingSnapshot.usedProgram demandingRequest = some
      { programId := ⟨5⟩, programGen := ⟨1⟩, runtimeAbi := text "host-abi" } := by
    rfl
  have service : demandingSnapshot.requestedService demandingRequest = some
      { serviceId := ⟨90⟩, requiredProgram := ⟨5⟩, requiredAbi := text "DOCA_2.x" } := by
    rfl
  cases requirement with
  | headroom =>
      rintro (⟨covered, -⟩ | reached)
      · revert covered
        decide
      · have queues := reached .queues (by decide)
        revert queues
        decide
  | queuePressure =>
      rintro (unasked | ⟨covered, -⟩ | reached)
      · revert unasked
        decide
      · revert covered
        decide
      · revert reached
        decide
  | policyGeneration => simp only [Requirement.Granted]; decide
  | capabilityFloors =>
      intro floors
      have required : demandingSnapshot.Requires demandingRequest default :=
        .collected (c := {}) (by decide) rfl
      have floor := (floors default required _ (OrderedMap.lookup_insert _ _ _ _)).1
      revert floor
      decide
  | serviceAbi =>
      intro granted
      rcases granted _ service with unnamed | same | kept
      · revert unnamed
        decide
      · revert same
        decide
      · revert kept
        rw [artifact]
        decide

end DPUFabric
