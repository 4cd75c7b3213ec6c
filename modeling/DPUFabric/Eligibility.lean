import DPUFabric.Registry

/-!
# Eligibility evaluation

`evaluateOffload` applies the hard constraints to every device in registration
order, scores the devices which pass, and selects the best one.  It reads a
snapshot only.

Scores are computed in the `double` type of the source.  The evaluation is
generic in that type: `ScoreArith` lists the operations it uses, and the
rationals are the exact instance.
-/

namespace DPUFabric

open Std

/-! ## Score arithmetic -/

/-- The operations of the score type. -/
class ScoreArith (F : Type) extends Add F, Sub F, Mul F, Div F, BEq F where
  ofInt : Int → F
  /-- The decimal literal `n / 10`. -/
  tenths : Nat → F
  lt : F → F → Bool
  /-- `(int)x`: the integer part, towards zero. -/
  trunc : F → Int

instance : ScoreArith ℚ where
  ofInt := Int.cast
  tenths n := n / 10
  lt left right := decide (left < right)
  trunc x := if 0 ≤ x then ⌊x⌋ else ⌈x⌉

/-! ## Rejection reasons -/

inductive RejectionReason where
  | none | deviceNotFound | deviceNotReady | deviceDraining | deviceFailed
  | deviceEvidenceStale | deviceGenerationStale | deviceBootStale
  | deviceHealthThreshold | requiredCapabilityUnsupported
  | requiredCapabilityUnknown | requiredCapabilityStale
  | capabilityVersionMismatch | firmwareIncompatible | runtimeIncompatible
  | artifactIncompatible | architectureIncompatible | abiIncompatible
  | isolationDomainMismatch | tenantMismatch | dedicatedIsolationUnavailable
  | isolationUnproven | portMismatch | functionMismatch | deviceClassMismatch
  | resourceInsufficient | queuePressureHigh | headroomLow
  | dependencyUnavailable | policyDisallowed | securityModeIncompatible
  | localityInsufficient | pinnedDeviceMismatch | programGenerationStale
  | serviceGenerationStale | deploymentGenerationStale
  | offloadRequiredUnavailable
deriving DecidableEq, Repr

structure FactorScore (F : Type) where
  factor : RankFactor
  normalized : F
  weighted : F
  note : Text

structure CandidateReport (F : Type) where
  device : DeviceId
  passedHard : Bool
  rejected : List RejectionReason
  scores : List (FactorScore F)
  total : F
  detail : Text

structure EligibilityResult (F : Type) where
  mode : OffloadMode
  execution : ExecutionClass
  selected : Option DeviceId
  hardPass : Bool
  fallbackUsed : Bool
  globalRejections : List RejectionReason
  candidates : List (CandidateReport F)
  fallbackReason : Text
  explanation : Text

/-! ## Auxiliary readings -/

def healthSeverity : RawEnum DeviceHealth → Nat
  | .declared .healthy => 1
  | .declared .warn => 2
  | .declared .degraded => 3
  | .declared .failed => 4
  | .declared .unknown => 5
  | .undeclared _ _ => 5

def healthMeetsPolicy (h min : RawEnum DeviceHealth) : Bool :=
  healthSeverity h ≤ healthSeverity min

def localityQualityName : RawEnum LocalityQuality → Text
  | .declared .sameDevice => text "SAME_DEVICE"
  | .declared .sameFunction => text "SAME_FUNCTION"
  | .declared .sameNic => text "SAME_NIC"
  | .declared .sameRoot => text "SAME_ROOT"
  | .declared .remote => text "REMOTE"
  | .declared .unknown => text "UNKNOWN"
  | .undeclared _ _ => text "UNKNOWN"

def rankFactorName : RankFactor → Text
  | .warmService => text "WARM_SERVICE"
  | .locality => text "LOCALITY"
  | .headroom => text "HEADROOM"
  | .queuePressure => text "QUEUE_PRESSURE"
  | .deviceLoad => text "DEVICE_LOAD"
  | .stateTransfer => text "STATE_TRANSFER"
  | .hostCpuSavings => text "HOST_CPU_SAVINGS"
  | .offloadValue => text "OFFLOAD_VALUE"
  | .failureRisk => text "FAILURE_RISK"
  | .energy => text "ENERGY"
  | .policyPreference => text "POLICY_PREFERENCE"
  | .tiebreakId => text "TIEBREAK_ID"

/-- `find_current_program`. -/
def findCurrentProgram (snap : Snapshot) (pid : ProgramId)
    (gen : ProgramGeneration) : Option ProgramArtifact :=
  match snap.programs[pid]? with
  | none => none
  | some gens => gens[gen]?

/-- `can_admit`, the reservation test on a snapshot's usage. -/
def canAdmit (cap : ResourceProfile) (u : Usage) (r : ResourceRequest) : Bool :=
  if cap.memoryBytes ≠ 0 ∧ u.memoryBytes + r.memoryBytes > cap.memoryBytes then false
  else if cap.queues ≠ 0 ∧ u.queues + r.queues > cap.queues then false
  else if cap.functions ≠ 0 ∧ u.functions + r.functions > cap.functions then false
  else if cap.slots ≠ 0 ∧ u.slots + r.slots > cap.slots then false
  else if cap.contexts ≠ 0 ∧ u.contexts + r.contexts > cap.contexts then false
  else true

/-- The position of a device, past the end when it is not listed. -/
def deviceOrderIndex (snap : Snapshot) (id : DeviceId) : Nat :=
  snap.deviceOrder.idxOf id

def collectRequiredCaps (req : OffloadRequest) (svc : Option ServiceDefinition)
    (prog : Option ProgramArtifact) : List CapabilityRequirement :=
  req.requiredCaps ++
    (match svc with
      | some svc => svc.requiredCaps ++ svc.optionalCaps
      | none => []) ++
    (match prog with
      | some prog => prog.requiredCaps
      | none => [])

section Scores

variable (F : Type) [ScoreArith F]

def localityValue : RawEnum LocalityQuality → F
  | .declared .sameDevice => ScoreArith.tenths 10
  | .declared .sameFunction => ScoreArith.tenths 9
  | .declared .sameNic => ScoreArith.tenths 8
  | .declared .sameRoot => ScoreArith.tenths 6
  | .declared .remote => ScoreArith.tenths 3
  | .declared .unknown => ScoreArith.tenths 2
  | .undeclared _ _ => ScoreArith.tenths 2

/-- `static_cast<double>(amount)`. -/
def ofAmount (amount : UInt64) : F := ScoreArith.ofInt amount.toNat

def queuePressure (d : DeviceRecord) (u : Usage) : F :=
  let cap := d.resourceCapacity.queues
  if cap = 0 then ScoreArith.tenths 0
  else if u.queues ≥ cap then ScoreArith.tenths 10
  else ofAmount F u.queues / ofAmount F cap

def deviceLoad (d : DeviceRecord) (u : Usage) : F :=
  let slots := d.resourceCapacity.slots
  if slots = 0 then ScoreArith.tenths 5
  else if u.slots ≥ slots then ScoreArith.tenths 10
  else ofAmount F u.slots / ofAmount F slots

/-- The free fraction of one dimension. -/
def headroomFraction (used cap : UInt64) : F :=
  if cap = 0 then ScoreArith.tenths 10
  else if used ≥ cap then ScoreArith.tenths 0
  else ofAmount F (cap - used) / ofAmount F cap

/-- `std::min(left, right)`. -/
def minScore (left right : F) : F :=
  if ScoreArith.lt right left then right else left

def headroomPct (d : DeviceRecord) (u : Usage) : F :=
  let cap := d.resourceCapacity
  let h := ScoreArith.tenths 10
  let h := minScore F h (headroomFraction F u.memoryBytes cap.memoryBytes)
  let h := minScore F h (headroomFraction F u.queues cap.queues)
  let h := minScore F h (headroomFraction F u.functions cap.functions)
  let h := minScore F h (headroomFraction F u.slots cap.slots)
  let h := minScore F h (headroomFraction F u.contexts cap.contexts)
  h * ScoreArith.ofInt 100

/-! ## Hard constraints -/

/-- `if (condition) rejected.push_back(reason)`. -/
def rejectWhen (condition : Bool) (reason : RejectionReason) :
    List RejectionReason :=
  if condition then [reason] else []

/-- The readiness checks. -/
def lifecycleRejections (dev : DeviceRecord) : List RejectionReason :=
  if dev.lifecycle = .declared .draining then [.deviceDraining]
  else if dev.lifecycle = .declared .failed then [.deviceFailed]
  else if dev.lifecycle = .declared .revalidationRequired ∨ !dev.evidenceFresh then
    [.deviceEvidenceStale]
  else if dev.lifecycle ≠ .declared .ready then [.deviceNotReady]
  else []

/-- The checks of the wanted program's current artifact. -/
def programRejections (req : OffloadRequest) (dev : DeviceRecord)
    (cur : ProgramGeneration) (prog : Option ProgramArtifact) :
    List RejectionReason :=
  match prog with
  | none => [.artifactIncompatible]
  | some prog =>
      if prog.programGen ≠ cur then [.programGenerationStale]
      else
        rejectWhen
          (!dev.architecture.isEmpty && !prog.targetArchitecture.isEmpty &&
            dev.architecture != prog.targetArchitecture &&
            prog.targetArchitecture != text "any") .architectureIncompatible ++
        rejectWhen
          (!req.requiredAbi.isEmpty && !prog.runtimeAbi.isEmpty &&
            prog.runtimeAbi != req.requiredAbi) .abiIncompatible

/-- The check of one required capability. -/
def capabilityRejections (dev : DeviceRecord) (c : CapabilityRequirement) :
    List RejectionReason :=
  if c.isOptional then []
  else
    match dev.capabilities.stateOf c.key with
    | .declared .supported =>
        match dev.capabilities[c.key]? with
        | some cp => rejectWhen (cp.version < c.minVersion) .capabilityVersionMismatch
        | none => []
    | .declared .unknown => [.requiredCapabilityUnknown]
    | .declared .revalidationRequired => [.requiredCapabilityStale]
    | _ => [.requiredCapabilityUnsupported]

/-- The program an offload would run: the service's when it names one. -/
def wantedProgram (req : OffloadRequest) (svc : Option ServiceDefinition) :
    Option ProgramId :=
  match svc with
  | some svc =>
      if svc.requiredProgram.isNull then req.requiredProgram
      else some svc.requiredProgram
  | none => req.requiredProgram

/-- Every rejection of a device, in the order of the checks. -/
def rejections (snap : Snapshot) (req : OffloadRequest)
    (svc : Option ServiceDefinition) (did : DeviceId) (dev : DeviceRecord) :
    List RejectionReason :=
  let policy := snap.policy
  let wanted := wantedProgram req svc
  let prog := wanted.bind fun pid => findCurrentProgram snap pid (snap.currentGen pid)
  let fwFloor :=
    max (svc.elim 0 (·.minFirmwareGen.value)) (prog.elim 0 (·.minFirmwareGen.value))
  let rtFloor := svc.elim 0 (·.minRuntimeGen.value)
  let u := snap.deviceUsage.getD did {}
  let isoProven := dev.hardwareIsolation && dev.isolationProven && dev.evidenceFresh
  let iso := svc.elim req.isolation (·.isolation)
  let hr := headroomPct F dev u
  let qp := queuePressure F dev u
  let rr := svc.elim req.resource (·.resource)
  List.flatten [
    rejectWhen
      (req.requiredDeviceClass.any fun c => .declared c != dev.deviceClass)
      .deviceClassMismatch,
    rejectWhen (req.pinnedDevice.any (· != did)) .pinnedDeviceMismatch,
    lifecycleRejections dev,
    rejectWhen
      (dev.lifecycle == .declared .ready &&
        !healthMeetsPolicy dev.health policy.minDeviceHealth)
      .deviceHealthThreshold,
    rejectWhen
      (req.offloadClass != .declared .customInfrastructureService &&
        !dev.supportsClass req.offloadClass)
      .requiredCapabilityUnsupported,
    (match wanted with
      | some pid => programRejections req dev (snap.currentGen pid) prog
      | none => []),
    rejectWhen (dev.firmwareGen.value < fwFloor) .firmwareIncompatible,
    rejectWhen (dev.runtimeGen.value < rtFloor) .runtimeIncompatible,
    (collectRequiredCaps req svc prog).flatMap (capabilityRejections dev),
    policy.hardCaps.flatMap (fun c =>
      rejectWhen (dev.capabilities.stateOf c.key != .declared .supported)
        .requiredCapabilityUnsupported),
    rejectWhen
      (iso.level != .declared .none &&
        !iso.satisfiedBy isoProven dev.isolationDomain dev.tenant)
      .isolationUnproven,
    rejectWhen
      (!req.isolationDomain.isNull && !dev.isolationDomain.isNull &&
        req.isolationDomain != dev.isolationDomain)
      .isolationDomainMismatch,
    rejectWhen
      (!req.tenant.isNull && !dev.tenant.isNull && req.tenant != dev.tenant)
      .tenantMismatch,
    rejectWhen (req.requiredPort.any fun p => !dev.ports.contains p) .portMismatch,
    rejectWhen (req.requiredFunction.any fun f => !dev.functions.contains f)
      .functionMismatch,
    rejectWhen (ScoreArith.lt hr (ofAmount F policy.minHeadroom)) .headroomLow,
    rejectWhen
      (ScoreArith.lt (ofAmount F policy.maxQueuePressure)
        (qp * ScoreArith.ofInt 100))
      .queuePressureHigh,
    rejectWhen
      ((req.security == .secure || req.security == .isolated) && !isoProven)
      .securityModeIncompatible,
    rejectWhen
      (req.minLocality != .unknown &&
        ScoreArith.lt (localityValue F dev.locality)
          (localityValue F (.declared req.minLocality)))
      .localityInsufficient,
    rejectWhen
      (svc.any fun svc =>
        svc.dependencies.any fun dep => !snap.services.contains dep)
      .dependencyUnavailable,
    rejectWhen (!canAdmit dev.resourceCapacity u rr) .resourceInsufficient]

/-! ## Scoring -/

/-- Whether an active deployment of the service already runs on the device. -/
def isWarm (snap : Snapshot) (svc : Option ServiceDefinition) (did : DeviceId) : Bool :=
  snap.deployments.toList.any fun (_, depl) =>
    depl.device == did && svc.all (depl.service == ·.serviceId) &&
      depl.state == .active

def scores (snap : Snapshot) (req : OffloadRequest)
    (svc : Option ServiceDefinition) (did : DeviceId) (dev : DeviceRecord) :
    List (FactorScore F) :=
  let u := snap.deviceUsage.getD did {}
  let hr := headroomPct F dev u
  let qp := queuePressure F dev u
  let warm := isWarm snap svc did
  let pref := snap.policy.preferredDevices.contains did
  let one : F := ScoreArith.tenths 10
  let percent (x : F) : Text :=
    text (toString (ScoreArith.trunc (x * ScoreArith.ofInt 100)))
  let add (f : RankFactor) (norm : F) (note : Text) : FactorScore F :=
    { factor := f
      normalized := norm
      weighted := norm * ScoreArith.ofInt (snap.policy.weightOf f).toInt
      note := note }
  let hostSave : F :=
    if req.offloadClass = .declared .encryption ∨
        req.offloadClass = .declared .compression then
      ScoreArith.tenths 8
    else ScoreArith.tenths 5
  [add .warmService (if warm then one else ScoreArith.tenths 0)
      (if warm then text "warm=YES" else text "warm=NO"),
    add .locality (localityValue F dev.locality) (localityQualityName dev.locality),
    add .headroom (hr / ScoreArith.ofInt 100)
      (text (toString (ScoreArith.trunc hr))),
    add .queuePressure (one - qp) (percent qp),
    add .deviceLoad (one - deviceLoad F dev u) (percent (deviceLoad F dev u)),
    add .stateTransfer (if warm then one else ScoreArith.tenths 4)
      (if warm then text "low" else text "high"),
    add .hostCpuSavings hostSave (text "estimated"),
    add .offloadValue (if warm then ScoreArith.tenths 7 else ScoreArith.tenths 5)
      (text "estimated"),
    add .failureRisk
      (ScoreArith.ofInt (healthSeverity dev.health) / ScoreArith.ofInt 5)
      (text "estimated"),
    add .energy (ScoreArith.tenths 5) (text "unset"),
    add .policyPreference (if pref then one else ScoreArith.tenths 0)
      (if pref then text "YES" else text "NO"),
    add .tiebreakId (ScoreArith.tenths 0) (text "identity")]

/-- The report of one device. -/
def candidateReport (snap : Snapshot) (req : OffloadRequest)
    (svc : Option ServiceDefinition) (did : DeviceId) (dev : DeviceRecord) :
    CandidateReport F :=
  let rejected := rejections F snap req svc did dev
  let passedHard := rejected.isEmpty
  let scored := if passedHard then scores F snap req svc did dev else []
  { device := did
    passedHard := passedHard
    rejected := rejected
    scores := scored
    total := scored.foldl (fun total s => total + s.weighted) (ScoreArith.tenths 0)
    detail := text "device=" ++ dev.model ++ text " / " ++ dev.pciReference }

/-! ## Selection -/

/-- The comparator of the sort: a greater total first, then the earlier device. -/
def precedes (snap : Snapshot) (a b : CandidateReport F) : Bool :=
  if a.total != b.total then ScoreArith.lt b.total a.total
  else deviceOrderIndex snap a.device < deviceOrderIndex snap b.device

/-- `build_explanation` of a result that selects a device. -/
def buildExplanation (snap : Snapshot) (candidates : List (CandidateReport F))
    (selected : DeviceId) : Text :=
  let scored :=
    match candidates.find? (·.device == selected) with
    | some cand =>
        cand.scores.flatMap fun fs =>
          rankFactorName fs.factor ++ text "=" ++
            (if fs.factor = .warmService then
              if ScoreArith.lt (ScoreArith.tenths 5) fs.normalized then text "YES"
              else text "NO"
            else
              text (toString (ScoreArith.trunc (fs.normalized * ScoreArith.ofInt 100)))) ++
            text " "
    | none => []
  text "SELECTED: hard_constraints=PASS " ++ scored ++
    (match snap.devices[selected]? with
      | some dev => text "device=" ++ dev.model
      | none => []) ++
    text " fallback_not_required"

def executionOf (dev : DeviceRecord) : ExecutionClass :=
  if dev.deviceClass = .declared .dpu then .dpuOffload
  else if dev.deviceClass = .declared .smartnic then .smartnicOffload
  else if dev.deviceClass = .declared .infraProcessor then .infraProcessorOffload
  else .hostFallback

/-- The reports of all listed devices, in registration order. -/
def candidateReports (snap : Snapshot) (req : OffloadRequest)
    (svc : Option ServiceDefinition) : List (CandidateReport F) :=
  snap.deviceOrder.filterMap fun did =>
    snap.devices[did]?.map (candidateReport F snap req svc did)

/-- The result when no device passed: an explicit fallback or a rejection. -/
def rejectedResult (req : OffloadRequest) (all : List (CandidateReport F)) :
    EligibilityResult F :=
  let outcome : EligibilityResult F :=
    { mode := req.mode
      execution := .unsupported
      selected := none
      hardPass := false
      fallbackUsed := false
      globalRejections := []
      candidates := all
      fallbackReason := []
      explanation := [] }
  if req.mode = .offloadRequired then
    { outcome with
      globalRejections := [.offloadRequiredUnavailable]
      explanation := text "OFFLOAD_REQUIRED: no authoritative offload candidate; host fallback not permitted" }
  else if req.allowHostFallback then
    { outcome with
      execution := .hostFallback
      fallbackUsed := true
      fallbackReason := text "DPU_CAPABILITY_UNAVAILABLE"
      explanation := text "OFFLOAD_PREFERRED: insufficient authoritative DPU candidates; explicit host fallback selected" }
  else
    { outcome with
      explanation := text "OFFLOAD_PREFERRED: no authoritative offload candidate and fallback not permitted" }

/-- The result that selects the best passing device. -/
def selectedResult (snap : Snapshot) (req : OffloadRequest)
    (all : List (CandidateReport F)) (best : DeviceId) : EligibilityResult F :=
  { mode := req.mode
    execution := snap.devices[best]?.elim .unsupported executionOf
    selected := some best
    hardPass := true
    fallbackUsed := false
    globalRejections := []
    candidates := all
    fallbackReason := []
    explanation := buildExplanation F snap all best }

/-- Evaluate an offload request against an immutable snapshot. -/
def evaluateOffload (snap : Snapshot) (req : OffloadRequest) :
    Except Fault (EligibilityResult F) :=
  if req.minHeadroom > 100 then
    .error (.error .invalidArgument "min_headroom out of range")
  else if req.maxQueuePressure > 100 then
    .error (.error .invalidArgument "max_queue_pressure out of range")
  else
    let svc := req.service.bind (snap.services[·]?)
    let all := candidateReports F snap req svc
    let passed := all.filter (·.passedHard)
    match passed.mergeSort (fun a b => !precedes F snap b a) with
    | best :: _ => .ok (selectedResult F snap req all best.device)
    | [] => .ok (rejectedResult F req all)

end Scores

/-! ## What a selection implies -/

/-- Without a wanted program nothing is checked. -/
theorem wantedRejections_eq_nil_iff (wanted : Option ProgramId)
    (reasons : ProgramId → List RejectionReason) :
    (match wanted with
      | some pid => reasons pid
      | none => []) = [] ↔ ∀ pid, wanted = some pid → reasons pid = [] := by
  cases wanted <;> simp

section Selection

variable {F : Type} [ScoreArith F]

/-- A device that is ready raises no readiness rejection, and only such a one. -/
theorem lifecycleRejections_eq_nil_iff (dev : DeviceRecord) :
    lifecycleRejections dev = [] ↔ dev.isReadyForOffload = true := by
  rw [DeviceRecord.isReadyForOffload_eq_true_iff, lifecycleRejections]
  split_ifs with draining failed stale unready
  · simp [draining]
  · simp [failed]
  · simp only [false_iff, not_and, Bool.not_eq_true]
    intro ready
    simpa [ready] using stale
  · simp [unready]
  · simp only [not_or, not_not] at stale unready
    simpa [unready] using stale.2

theorem isReadyForOffload_of_rejections_eq_nil
    {snap : Snapshot} {req : OffloadRequest} {svc : Option ServiceDefinition}
    {did : DeviceId} {dev : DeviceRecord}
    (clean : rejections F snap req svc did dev = []) :
    dev.isReadyForOffload = true := by
  rw [rejections, List.flatten_eq_nil_iff] at clean
  exact (lifecycleRejections_eq_nil_iff dev).mp (clean _
    (List.mem_cons_of_mem _ (List.mem_cons_of_mem _ List.mem_cons_self)))

omit [ScoreArith F] in
@[simp]
theorem rejectedResult_selected
    (req : OffloadRequest) (all : List (CandidateReport F)) :
    (rejectedResult F req all).selected = none := by
  unfold rejectedResult
  split_ifs <;> rfl

/-- The selected device is a listed one whose report passed. -/
theorem selected_passed
    {snap : Snapshot} {req : OffloadRequest} {result : EligibilityResult F}
    {did : DeviceId}
    (evaluated : evaluateOffload F snap req = .ok result)
    (chosen : result.selected = some did) :
    did ∈ snap.deviceOrder ∧ ∃ dev, snap.devices[did]? = some dev ∧
      rejections F snap req (req.service.bind (snap.services[·]?)) did dev = [] := by
  unfold evaluateOffload at evaluated
  split_ifs at evaluated
  simp only at evaluated
  split at evaluated
  · rename_i best rest sorted
    have result_eq := Except.ok.inj evaluated
    subst result_eq
    have same : best.device = did := Option.some.inj chosen
    have listed : best ∈ (candidateReports F snap req
        (req.service.bind (snap.services[·]?))).filter (·.passedHard) := by
      rw [← List.mem_mergeSort, sorted]
      exact List.mem_cons_self
    obtain ⟨member, passed⟩ := List.mem_filter.mp listed
    obtain ⟨id, ordered, found⟩ := List.mem_filterMap.mp member
    obtain ⟨dev, present, rfl⟩ := Option.map_eq_some_iff.mp found
    subst same
    exact ⟨ordered, dev, present, List.isEmpty_iff.mp passed⟩
  · have result_eq := Except.ok.inj evaluated
    rw [← result_eq, rejectedResult_selected] at chosen
    cases chosen

/-- Evaluation only ever selects a device that is ready for offload. -/
theorem selected_isReady
    {snap : Snapshot} {req : OffloadRequest} {result : EligibilityResult F}
    {did : DeviceId}
    (evaluated : evaluateOffload F snap req = .ok result)
    (chosen : result.selected = some did) :
    ∃ dev, snap.devices[did]? = some dev ∧ dev.isReadyForOffload = true := by
  obtain ⟨-, dev, present, clean⟩ := selected_passed evaluated chosen
  exact ⟨dev, present, isReadyForOffload_of_rejections_eq_nil clean⟩

end Selection

end DPUFabric
