import DPUFabric.Eligibility
import DPUFabric.Library.OrderedMap

/-!
# The hard constraints of an offload

The evaluation collects one rejection reason for every constraint that a device
fails.  The constraints are stated here as conditions on the snapshot, the
request and the device record, and a device is reported as passing exactly when
all of them hold.

`Suits` holds the constraints that only an evaluation tests.  The pin and the
readiness of the device are kept apart from it, because a reservation tests the
readiness again and the pin cannot change.
-/

namespace DPUFabric

/-! ## What an evaluation reads -/

namespace Snapshot

/-- The service of a request, when it is registered. -/
def requestedService (snap : Snapshot) (req : OffloadRequest) : Option ServiceDefinition :=
  req.service.bind (snap.services[·]?)

/-- The artifact whose compatibility is checked. -/
def checkedArtifact (snap : Snapshot) (req : OffloadRequest)
    (svc : Option ServiceDefinition) : Option ProgramArtifact :=
  (wantedProgram req svc).bind fun pid => findCurrentProgram snap pid (snap.currentGen pid)

/-- No artifact is stored under the null generation. -/
def NoNullArtifact (snap : Snapshot) : Prop :=
  ∀ pid : ProgramId, findCurrentProgram snap pid .null = none

end Snapshot

/-- The isolation a service asks for, or a request without a service. -/
def requestedIsolation (req : OffloadRequest) (svc : Option ServiceDefinition) :
    IsolationSpec :=
  svc.elim req.isolation (·.isolation)

/-- The resources a service asks for, or a request without a service. -/
def requestedResources (req : OffloadRequest) (svc : Option ServiceDefinition) :
    ResourceRequest :=
  svc.elim req.resource (·.resource)

/-! ## Single constraints -/

/-- Two identities that do not name two different things. -/
def Id.Agrees {tag : IdTag} (left right : Id tag) : Prop :=
  left = .null ∨ right = .null ∨ left = right

/-- What an isolation spec asks of a device, level by level. -/
def IsolationSpec.Met (spec : IsolationSpec) (proven : Bool) (domain : IsolationDomainId)
    (tenant : TenantId) : Prop :=
  match spec.level with
  | .declared .none => True
  | .declared .securityDomain =>
      (spec.security = .declared .secure ∨ spec.security = .declared .isolated) ∧
        proven = true
  | .declared .dedicatedDevice => tenant = .null ∨ spec.tenant ≠ .null ∧ tenant = spec.tenant
  | _ => proven = true ∧ spec.isolationDomain.Agrees domain ∧ spec.tenant.Agrees tenant

theorem IsolationSpec.satisfiedBy_eq_true_iff (spec : IsolationSpec) (proven : Bool)
    (domain : IsolationDomainId) (tenant : TenantId) :
    spec.satisfiedBy proven domain tenant = true ↔ spec.Met proven domain tenant := by
  have shared :
      (if !proven then false
        else if spec.domainScoped && !domain.isNull && domain != spec.isolationDomain then
          false
        else if spec.tenantScoped && !tenant.isNull && tenant != spec.tenant then false
        else true) = true ↔
        proven = true ∧ spec.isolationDomain.Agrees domain ∧ spec.tenant.Agrees tenant := by
    simp only [domainScoped, tenantScoped, Id.Agrees]
    grind [Id.isNull_eq_true_iff, Id.isNull_eq_false_iff]
  unfold satisfiedBy Met
  cases level : spec.level with
  | undeclared code outside => simpa using shared
  | declared value =>
      cases value with
      | none => simp
      | securityDomain =>
          by_cases secure : spec.security = .declared .secure <;>
            by_cases isolated : spec.security = .declared .isolated <;>
              simp [secure, isolated]
      | dedicatedDevice => simp
      | _ => simpa using shared

/-- The requirement is met by a supported capability of a sufficient version. -/
def CapabilityRequirement.MetBy (c : CapabilityRequirement) (set : CapabilitySet) : Prop :=
  ∃ capability, set[c.key]? = some capability ∧ capability.state = .declared .supported ∧
    c.minVersion ≤ capability.version

/-- What an evaluation asks of the artifact of a program's current generation. -/
structure RunsOn (req : OffloadRequest) (dev : DeviceRecord) (cur : ProgramGeneration)
    (art : ProgramArtifact) : Prop where
  current : art.programGen = cur
  architecture : dev.architecture = [] ∨ art.targetArchitecture = [] ∨
    dev.architecture = art.targetArchitecture ∨ art.targetArchitecture = text "any"
  abi : req.requiredAbi = [] ∨ art.runtimeAbi = [] ∨ art.runtimeAbi = req.requiredAbi

/-- The isolation evidence of a device counts while it is fresh. -/
def DeviceRecord.isoProven (dev : DeviceRecord) : Bool :=
  dev.hardwareIsolation && dev.isolationProven && dev.evidenceFresh

@[simp]
theorem rejectWhen_eq_nil_iff (condition : Bool) (reason : RejectionReason) :
    rejectWhen condition reason = [] ↔ condition = false := by
  cases condition <;> simp [rejectWhen]

theorem capabilityRejections_eq_nil_iff (dev : DeviceRecord) (c : CapabilityRequirement) :
    capabilityRejections dev c = [] ↔ (c.isOptional = false → c.MetBy dev.capabilities) := by
  unfold capabilityRejections CapabilityRequirement.MetBy CapabilitySet.stateOf
  cases c.isOptional with
  | true => simp
  | false =>
      cases found : dev.capabilities[c.key]? with
      | none => simp
      | some capability =>
          rcases state : capability.state with value | code
          · cases value <;> simp [state]
          · simp [state]

theorem programRejections_eq_nil_iff (req : OffloadRequest) (dev : DeviceRecord)
    (cur : ProgramGeneration) (prog : Option ProgramArtifact) :
    programRejections req dev cur prog = [] ↔
      ∃ art, prog = some art ∧ RunsOn req dev cur art := by
  cases prog with
  | none => simp [programRejections]
  | some art =>
      have parts : RunsOn req dev cur art ↔ art.programGen = cur ∧
          (dev.architecture = [] ∨ art.targetArchitecture = [] ∨
            dev.architecture = art.targetArchitecture ∨
            art.targetArchitecture = text "any") ∧
          (req.requiredAbi = [] ∨ art.runtimeAbi = [] ∨
            art.runtimeAbi = req.requiredAbi) :=
        ⟨fun runs => ⟨runs.1, runs.2, runs.3⟩, fun ⟨cur, arch, abi⟩ => ⟨cur, arch, abi⟩⟩
      simp only [Option.some.injEq, exists_eq_left', parts, programRejections]
      split_ifs with stale
      · simp [stale]
      · simp only [List.append_eq_nil_iff, rejectWhen_eq_nil_iff]
        grind

theorem canAdmit_eq_true_iff (cap : ResourceProfile) (u : Usage) (r : ResourceRequest) :
    canAdmit cap u r = true ↔ cap.Admits u r :=
  ResourceLedger.canReserve_eq_true_iff ⟨cap, u⟩ r

theorem max_le_iff_both (x left right : UInt64) :
    max left right ≤ x ↔ left ≤ x ∧ right ≤ x := by
  have chosen : max left right = if left ≤ right then right else left := rfl
  rw [chosen]
  split_ifs with order
  · exact ⟨fun below => ⟨UInt64.le_trans order below, below⟩, And.right⟩
  · rw [UInt64.not_le] at order
    exact ⟨fun below => ⟨below, UInt64.le_trans (UInt64.le_of_lt order) below⟩, And.left⟩

/-- A floor that is zero where nothing asks for one. -/
theorem elim_le_iff {α : Type} (option : Option α) (floor : α → UInt64) (x : UInt64) :
    option.elim 0 floor ≤ x ↔ ∀ value, option = some value → floor value ≤ x := by
  cases option <;> simp

theorem any_eq_false_iff {α : Type} (p : α → Bool) (option : Option α) :
    option.any p = false ↔ ∀ value, option = some value → p value = false := by
  cases option <;> simp

theorem disagree_eq_false_iff {tag : IdTag} (left right : Id tag) :
    (!left.isNull && !right.isNull && left != right) = false ↔ left.Agrees right := by
  simp only [Id.Agrees]
  grind [Id.isNull_eq_true_iff, Id.isNull_eq_false_iff]

theorem isolation_met_iff (spec : IsolationSpec) (proven : Bool)
    (domain : IsolationDomainId) (tenant : TenantId) :
    (spec.level = .declared .none ∨ spec.satisfiedBy proven domain tenant = true) ↔
      spec.Met proven domain tenant := by
  rw [← spec.satisfiedBy_eq_true_iff]
  by_cases free : spec.level = .declared .none
  · simp [free, IsolationSpec.satisfiedBy]
  · simp [free]

theorem securityRefused_eq_false_iff (mode : SecurityMode) (proven : Bool) :
    ((mode == .secure || mode == .isolated) && !proven) = false ↔
      (mode = .secure ∨ mode = .isolated → proven = true) := by
  cases mode <;> simp

theorem exempt_eq_false_iff {α : Type} [DecidableEq α] (value exempt : α) (refused : Bool) :
    (value != exempt && refused) = false ↔ value = exempt ∨ refused = false := by
  by_cases same : value = exempt <;> simp [same]

/-! ## All constraints -/

section Constraints

variable (F : Type) [ScoreArith F]

/-- What a device must offer besides being ready and the one the request pins. -/
structure Suits (snap : Snapshot) (req : OffloadRequest) (svc : Option ServiceDefinition)
    (did : DeviceId) (dev : DeviceRecord) : Prop where
  deviceClass : ∀ c, req.requiredDeviceClass = some c → .declared c = dev.deviceClass
  health : healthMeetsPolicy dev.health snap.policy.minDeviceHealth = true
  offloadClass : req.offloadClass = .declared .customInfrastructureService ∨
    dev.supportsClass req.offloadClass = true
  program : ∀ pid, wantedProgram req svc = some pid →
    ∃ art, findCurrentProgram snap pid (snap.currentGen pid) = some art ∧
      RunsOn req dev (snap.currentGen pid) art
  serviceFirmware : ∀ s, svc = some s → s.minFirmwareGen.value ≤ dev.firmwareGen.value
  programFirmware : ∀ art, snap.checkedArtifact req svc = some art →
    art.minFirmwareGen.value ≤ dev.firmwareGen.value
  serviceRuntime : ∀ s, svc = some s → s.minRuntimeGen.value ≤ dev.runtimeGen.value
  capabilities : ∀ c ∈ collectRequiredCaps req svc (snap.checkedArtifact req svc),
    c.isOptional = false → c.MetBy dev.capabilities
  hardCaps : ∀ c ∈ snap.policy.hardCaps,
    dev.capabilities.stateOf c.key = .declared .supported
  isolation : (requestedIsolation req svc).Met dev.isoProven dev.isolationDomain dev.tenant
  isolationDomain : req.isolationDomain.Agrees dev.isolationDomain
  tenant : req.tenant.Agrees dev.tenant
  port : ∀ p, req.requiredPort = some p → p ∈ dev.ports
  function : ∀ f, req.requiredFunction = some f → f ∈ dev.functions
  headroom : ScoreArith.lt (headroomPct F dev (snap.deviceUsage.getD did {}))
    (ofAmount F snap.policy.minHeadroom) = false
  queuePressure : ScoreArith.lt (ofAmount F snap.policy.maxQueuePressure)
    (queuePressure F dev (snap.deviceUsage.getD did {}) * ScoreArith.ofInt 100) = false
  security : req.security = .secure ∨ req.security = .isolated → dev.isoProven = true
  locality : req.minLocality = .unknown ∨
    ScoreArith.lt (localityValue F dev.locality)
      (localityValue F (.declared req.minLocality)) = false
  dependencies : ∀ s, svc = some s → ∀ dep ∈ s.dependencies,
    snap.services.contains dep = true
  resources : dev.resourceCapacity.Admits (snap.deviceUsage.getD did {})
    (requestedResources req svc)

/-- All hard constraints of a request on a device. -/
structure Eligible (snap : Snapshot) (req : OffloadRequest) (did : DeviceId)
    (dev : DeviceRecord) : Prop where
  pinned : ∀ pin, req.pinnedDevice = some pin → pin = did
  lifecycle : dev.lifecycle = .declared .ready
  fresh : dev.evidenceFresh = true
  /-- A program without a current generation cannot be offloaded. -/
  recorded : ∀ pid, wantedProgram req (snap.requestedService req) = some pid →
    snap.currentProgramGen[pid]?.isSome = true
  suits : Suits F snap req (snap.requestedService req) did dev

variable {F}

/-- A device raises no rejection exactly when it is ready, not pinned away and suits. -/
theorem rejections_eq_nil_iff (snap : Snapshot) (req : OffloadRequest)
    (svc : Option ServiceDefinition) (did : DeviceId) (dev : DeviceRecord) :
    rejections F snap req svc did dev = [] ↔
      (∀ pin, req.pinnedDevice = some pin → pin = did) ∧ dev.isReadyForOffload = true ∧
        Suits F snap req svc did dev := by
  have artifact : ((wantedProgram req svc).bind fun pid =>
      findCurrentProgram snap pid (snap.currentGen pid)) = snap.checkedArtifact req svc := rfl
  have runs :
      (∀ pid, wantedProgram req svc = some pid →
        programRejections req dev (snap.currentGen pid) (snap.checkedArtifact req svc) = []) ↔
      ∀ pid, wantedProgram req svc = some pid →
        ∃ art, findCurrentProgram snap pid (snap.currentGen pid) = some art ∧
          RunsOn req dev (snap.currentGen pid) art := by
    refine forall_congr' fun pid => imp_congr_right fun wanted => ?_
    rw [programRejections_eq_nil_iff, Snapshot.checkedArtifact, wanted, Option.bind_some]
  rw [rejections, List.flatten_eq_nil_iff, artifact]
  simp only [List.forall_mem_cons, List.not_mem_nil, false_imp_iff, implies_true, and_true,
    rejectWhen_eq_nil_iff, lifecycleRejections_eq_nil_iff, wantedRejections_eq_nil_iff,
    any_eq_false_iff,
    bne_eq_false_iff_eq, exempt_eq_false_iff, Bool.not_eq_false', decide_eq_false_iff_not,
    UInt64.not_lt, max_le_iff_both, elim_le_iff, List.flatMap_eq_nil_iff,
    capabilityRejections_eq_nil_iff, isolation_met_iff, disagree_eq_false_iff,
    securityRefused_eq_false_iff, List.contains_iff_mem, List.any_eq_false,
    Bool.not_eq_true', Bool.not_eq_false, canAdmit_eq_true_iff]
  constructor
  · rintro ⟨deviceClass, pinned, ready, health, offloadClass, program,
      ⟨serviceFirmware, programFirmware⟩, serviceRuntime, capabilities, hardCaps, isolation,
      isolationDomain, tenant, port, function, headroom, queuePressure, security, locality,
      dependencies, resources⟩
    have lifecycle := (dev.isReadyForOffload_eq_true_iff.mp ready).1
    have healthy : healthMeetsPolicy dev.health snap.policy.minDeviceHealth = true := by
      simpa [lifecycle] using health
    exact ⟨pinned, ready, deviceClass, healthy, offloadClass, runs.mp program, serviceFirmware,
      programFirmware, serviceRuntime, capabilities, hardCaps, isolation, isolationDomain,
      tenant, port, function, headroom, queuePressure, security, locality, dependencies,
      resources⟩
  · rintro ⟨pinned, ready, suits⟩
    have health : (dev.lifecycle == .declared .ready &&
        !healthMeetsPolicy dev.health snap.policy.minDeviceHealth) = false := by
      simp [suits.health]
    exact ⟨suits.deviceClass, pinned, ready, health, suits.offloadClass,
      runs.mpr suits.program,
      ⟨suits.serviceFirmware, suits.programFirmware⟩, suits.serviceRuntime,
      suits.capabilities, suits.hardCaps, suits.isolation, suits.isolationDomain,
      suits.tenant, suits.port, suits.function, suits.headroom, suits.queuePressure,
      suits.security, suits.locality, suits.dependencies, suits.resources⟩

theorem eligible_iff {snap : Snapshot} (nonnull : snap.NoNullArtifact)
    (req : OffloadRequest) (did : DeviceId) (dev : DeviceRecord) :
    Eligible F snap req did dev ↔
      rejections F snap req (snap.requestedService req) did dev = [] := by
  rw [rejections_eq_nil_iff, dev.isReadyForOffload_eq_true_iff]
  constructor
  · intro eligible
    exact ⟨eligible.pinned, ⟨eligible.lifecycle, eligible.fresh⟩, eligible.suits⟩
  · rintro ⟨pinned, ⟨lifecycle, fresh⟩, suits⟩
    refine ⟨pinned, lifecycle, fresh, fun pid wanted => ?_, suits⟩
    obtain ⟨art, found, -⟩ := suits.program pid wanted
    cases recorded : snap.currentProgramGen[pid]? with
    | some gen => rfl
    | none =>
        have current : snap.currentGen pid = .null := by rw [Snapshot.currentGen, recorded]
        rw [current, nonnull] at found
        cases found

/-! ## Reports -/

variable (F) in
/-- The reports that passed, best first. -/
def ranking (snap : Snapshot) (req : OffloadRequest) : List (CandidateReport F) :=
  ((candidateReports F snap req (snap.requestedService req)).filter (·.passedHard)).mergeSort
    fun a b => !precedes F snap b a

variable (F) in
/-- What the evaluation makes of the ranking. -/
def outcome (snap : Snapshot) (req : OffloadRequest) : EligibilityResult F :=
  let all := candidateReports F snap req (snap.requestedService req)
  match ranking F snap req with
  | best :: _ => selectedResult F snap req all best.device
  | [] => rejectedResult F req all

theorem evaluateOffload_eq_ok_iff (snap : Snapshot) (req : OffloadRequest)
    (result : EligibilityResult F) :
    evaluateOffload F snap req = .ok result ↔
      (req.minHeadroom ≤ 100 ∧ req.maxQueuePressure ≤ 100) ∧ outcome F snap req = result := by
  have body : ∀ low : ¬ req.minHeadroom > 100, ∀ calm : ¬ req.maxQueuePressure > 100,
      evaluateOffload F snap req = .ok (outcome F snap req) := by
    intro low calm
    rw [evaluateOffload, if_neg low, if_neg calm, outcome, ranking, Snapshot.requestedService]
    dsimp only
    generalize List.mergeSort _ _ = ranked
    cases ranked <;> rfl
  by_cases low : req.minHeadroom > 100
  · simp [evaluateOffload, low, ← UInt64.not_lt]
  · by_cases calm : req.maxQueuePressure > 100
    · simp [evaluateOffload, low, calm, ← UInt64.not_lt]
    · rw [body low calm]
      simp [UInt64.not_lt.mp low, UInt64.not_lt.mp calm]

@[simp]
theorem outcome_candidates (snap : Snapshot) (req : OffloadRequest) :
    (outcome F snap req).candidates =
      candidateReports F snap req (snap.requestedService req) := by
  unfold outcome
  dsimp only
  split
  · rfl
  · unfold rejectedResult
    split_ifs <;> rfl

theorem mem_candidateReports_iff {snap : Snapshot} {req : OffloadRequest}
    {svc : Option ServiceDefinition} {report : CandidateReport F} :
    report ∈ candidateReports F snap req svc ↔
      ∃ did ∈ snap.deviceOrder, ∃ dev, snap.devices[did]? = some dev ∧
        candidateReport F snap req svc did dev = report := by
  simp [candidateReports, List.mem_filterMap, Option.map_eq_some_iff]

/--
Eligibility is exactly the conjunction of the hard constraints.  The evaluation
reports every listed device that is registered, and its report passed exactly
when the device is eligible.
-/
theorem passedHard_iff (F : Type) [ScoreArith F] (snap : Snapshot) (req : OffloadRequest)
    (nonnull : snap.NoNullArtifact) (headroom : req.minHeadroom ≤ 100)
    (pressure : req.maxQueuePressure ≤ 100) :
    ∃ result, evaluateOffload F snap req = .ok result ∧
      ∀ (did : DeviceId) (dev : DeviceRecord), did ∈ snap.deviceOrder →
        snap.devices[did]? = some dev →
          (∃ report ∈ result.candidates, report.device = did) ∧
            ∀ report ∈ result.candidates, report.device = did →
              (report.passedHard = true ↔ Eligible F snap req did dev) := by
  refine ⟨outcome F snap req,
    (evaluateOffload_eq_ok_iff snap req _).mpr ⟨⟨headroom, pressure⟩, rfl⟩, ?_⟩
  intro did dev listed present
  rw [outcome_candidates]
  refine ⟨⟨_, mem_candidateReports_iff.mpr ⟨did, listed, dev, present, rfl⟩, rfl⟩, ?_⟩
  intro report reported here
  obtain ⟨did', -, dev', present', rfl⟩ := mem_candidateReports_iff.mp reported
  have same : did' = did := here
  subst same
  rw [present] at present'
  cases present'
  rw [eligible_iff nonnull]
  exact List.isEmpty_iff

/-- One ready device, and a service with the program it runs. -/
def offloadSnapshot : Snapshot :=
  { policy := Policy.defaults ⟨1⟩
    devices := Std.ExtTreeMap.insert ∅ ⟨1⟩
      { deviceId := ⟨1⟩
        health := .declared .healthy
        lifecycle := .declared .ready
        evidenceFresh := true }
    services := Std.ExtTreeMap.insert ∅ ⟨90⟩ { serviceId := ⟨90⟩, requiredProgram := ⟨5⟩ }
    programs := Std.ExtTreeMap.insert ∅ ⟨5⟩
      (Std.ExtTreeMap.insert ∅ ⟨1⟩ { programId := ⟨5⟩, programGen := ⟨1⟩ })
    currentProgramGen := Std.ExtTreeMap.insert ∅ ⟨5⟩ ⟨1⟩
    deviceOrder := [⟨1⟩] }

theorem noNullArtifact_offloadSnapshot : offloadSnapshot.NoNullArtifact := by
  intro pid
  have programs : offloadSnapshot.programs[pid]? =
      if (⟨5⟩ : ProgramId) = pid then
        some (Std.ExtTreeMap.insert ∅ ⟨1⟩ { programId := ⟨5⟩, programGen := ⟨1⟩ })
      else none := OrderedMap.lookup_insert _ _ _ _
  rw [findCurrentProgram, programs]
  split_ifs with here
  · exact OrderedMap.lookup_insert _ _ _ _
  · rfl

theorem passedHard_iff_sample :
    ∃ result, evaluateOffload ℚ offloadSnapshot { service := some ⟨90⟩ } = .ok result ∧
      ∀ (did : DeviceId) (dev : DeviceRecord), did ∈ offloadSnapshot.deviceOrder →
        offloadSnapshot.devices[did]? = some dev →
          (∃ report ∈ result.candidates, report.device = did) ∧
            ∀ report ∈ result.candidates, report.device = did →
              (report.passedHard = true ↔
                Eligible ℚ offloadSnapshot { service := some ⟨90⟩ } did dev) :=
  passedHard_iff ℚ offloadSnapshot { service := some ⟨90⟩ } noNullArtifact_offloadSnapshot
    (by decide) (by decide)

end Constraints

/-! ## Exact arithmetic -/

section Exact

theorem lt_eq_false_iff (left right : ℚ) : ScoreArith.lt left right = false ↔ right ≤ left := by
  simp [ScoreArith.lt]

theorem tenths_ten : (ScoreArith.tenths 10 : ℚ) = 1 := by
  norm_num [ScoreArith.tenths]

theorem ofInt_hundred : (ScoreArith.ofInt 100 : ℚ) = 100 := by
  simp [ScoreArith.ofInt]

theorem ofAmount_eq (amount : UInt64) : ofAmount ℚ amount = (amount.toNat : ℚ) := by
  simp [ofAmount, ScoreArith.ofInt]

theorem toNat_pos_of_ne_zero {amount : UInt64} (nonzero : amount ≠ 0) : 0 < amount.toNat :=
  Nat.pos_of_ne_zero fun same => nonzero (UInt64.toNat_inj.mp same)

theorem minScore_eq (left right : ℚ) : minScore ℚ left right = min left right := by
  simp only [minScore, ScoreArith.lt, decide_eq_true_eq, min_def]
  split_ifs with below order order
  · linarith
  · rfl
  · rfl
  · linarith

theorem le_headroomFraction_iff {floor : ℚ} (positive : 0 ≤ floor) (used cap : UInt64) :
    floor ≤ headroomFraction ℚ used cap ↔
      if cap = 0 then floor ≤ 1
      else floor * cap.toNat ≤ ((cap.toNat - used.toNat : ℕ) : ℚ) := by
  unfold headroomFraction
  by_cases unbounded : cap = 0
  · simp [unbounded, tenths_ten]
  · have bound : (0 : ℚ) < cap.toNat := by exact_mod_cast toNat_pos_of_ne_zero unbounded
    rw [if_neg unbounded, if_neg unbounded]
    by_cases full : used ≥ cap
    · have covered := UInt64.le_iff_toNat_le.mp full
      have zero : (ScoreArith.tenths 0 : ℚ) = 0 := by norm_num [ScoreArith.tenths]
      rw [if_pos full, zero, Nat.sub_eq_zero_of_le covered, Nat.cast_zero]
      constructor
      · intro low
        have nothing : floor = 0 := low.antisymm positive
        simp [nothing]
      · intro low
        exact nonpos_of_mul_nonpos_left low bound
    · have partly : used ≤ cap := UInt64.le_of_lt (UInt64.not_le.mp full)
      rw [if_neg full, ofAmount_eq, ofAmount_eq, le_div_iff₀ bound,
        UInt64.toNat_sub_of_le _ _ partly]

/-- The headroom reaches a percentage when it does in every bounded dimension. -/
theorem headroom_iff (dev : DeviceRecord) (u : Usage) (floor : UInt64) :
    ScoreArith.lt (headroomPct ℚ dev u) (ofAmount ℚ floor) = false ↔
      floor.toNat ≤ 100 ∧ ∀ dim, dev.resourceCapacity.amount dim ≠ 0 →
        floor.toNat * (dev.resourceCapacity.amount dim).toNat ≤
          100 * ((dev.resourceCapacity.amount dim).toNat - (u.amount dim).toNat) := by
  have scale : ∀ h : ℚ, (ofAmount ℚ floor ≤ h * ScoreArith.ofInt 100 ↔
      (floor.toNat : ℚ) / 100 ≤ h) := by
    intro h
    rw [ofAmount_eq, ofInt_hundred, div_le_iff₀ (by norm_num)]
  have start : (floor.toNat : ℚ) / 100 ≤ ScoreArith.tenths 10 ↔ floor.toNat ≤ 100 := by
    rw [tenths_ten, div_le_iff₀ (by norm_num), one_mul]
    exact_mod_cast Iff.rfl
  have each : ∀ used cap : UInt64,
      (floor.toNat : ℚ) / 100 ≤ headroomFraction ℚ used cap ↔
        if cap = 0 then floor.toNat ≤ 100
        else floor.toNat * cap.toNat ≤ 100 * (cap.toNat - used.toNat) := by
    intro used cap
    rw [le_headroomFraction_iff (by positivity)]
    split_ifs with unbounded
    · rw [div_le_iff₀ (by norm_num), one_mul]
      exact_mod_cast Iff.rfl
    · rw [div_mul_eq_mul_div, div_le_iff₀ (by norm_num), mul_comm _ (100 : ℚ)]
      exact_mod_cast Iff.rfl
  rw [lt_eq_false_iff, headroomPct, Dimension.forall_iff, scale]
  simp only [minScore_eq, le_min_iff, start, each, ResourceProfile.amount, Usage.amount]
  grind

/-- The queue pressure stays within a percentage; a full queue counts as one hundred. -/
theorem queuePressure_iff (dev : DeviceRecord) (u : Usage) (bound : UInt64) :
    ScoreArith.lt (ofAmount ℚ bound) (queuePressure ℚ dev u * ScoreArith.ofInt 100) = false ↔
      100 * min u.queues.toNat dev.resourceCapacity.queues.toNat ≤
        bound.toNat * dev.resourceCapacity.queues.toNat := by
  rw [lt_eq_false_iff, queuePressure, ofInt_hundred]
  simp only [ofAmount_eq]
  by_cases unbounded : dev.resourceCapacity.queues = 0
  · simp [unbounded, ScoreArith.tenths]
  · have nonzero := toNat_pos_of_ne_zero unbounded
    have positive : (0 : ℚ) < dev.resourceCapacity.queues.toNat := by exact_mod_cast nonzero
    rw [if_neg unbounded]
    by_cases full : u.queues ≥ dev.resourceCapacity.queues
    · have covered := UInt64.le_iff_toNat_le.mp full
      rw [if_pos full, Nat.min_eq_right covered, Nat.mul_le_mul_right_iff nonzero,
        tenths_ten, one_mul]
      exact_mod_cast Iff.rfl
    · have below := UInt64.le_iff_toNat_le.mp (UInt64.le_of_lt (UInt64.not_le.mp full))
      rw [if_neg full, Nat.min_eq_left below, div_mul_eq_mul_div, div_le_iff₀ positive,
        mul_comm _ (100 : ℚ)]
      exact_mod_cast Iff.rfl

end Exact

end DPUFabric
