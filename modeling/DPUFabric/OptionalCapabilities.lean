import DPUFabric.HardConstraints

/-!
# Optional capabilities

A service lists required and optional capabilities, and each entry has a flag of its
own which is not set by default.  The evaluation merges the lists and looks at the flag
only, so an entry of the optional list whose flag is not set is a hard requirement.
-/

namespace DPUFabric

/-- A snapshot in which the optional capabilities of one service are replaced. -/
def Snapshot.withOptionalCaps (snap : Snapshot) (sid : ServiceId)
    (caps : List CapabilityRequirement) : Snapshot :=
  { snap with
    services := snap.services.modify sid fun svc => { svc with optionalCaps := caps } }

/-- A hard constraint outcome: the device, whether it passed, and why it was rejected. -/
abbrev Verdict := DeviceId × Bool × List RejectionReason

section Verdicts

variable (F : Type) [ScoreArith F]

def CandidateReport.verdict {F : Type} (report : CandidateReport F) : Verdict :=
  (report.device, report.passedHard, report.rejected)

/-- The verdicts on all candidates. -/
def verdicts (snap : Snapshot) (req : OffloadRequest) : Except Fault (List Verdict) :=
  (evaluateOffload F snap req).map fun result => result.candidates.map (·.verdict)

variable {F}

theorem candidateReports_verdicts (snap : Snapshot) (req : OffloadRequest)
    (svc : Option ServiceDefinition) :
    (candidateReports F snap req svc).map (·.verdict) =
      snap.deviceOrder.filterMap fun did => snap.devices[did]?.map fun dev =>
        (did, (rejections F snap req svc did dev).isEmpty, rejections F snap req svc did dev) := by
  rw [candidateReports, List.map_filterMap]
  congr 1
  funext did
  rw [Option.map_map]
  rfl

theorem verdicts_eq {snap : Snapshot} {req : OffloadRequest} (low : req.minHeadroom ≤ 100)
    (calm : req.maxQueuePressure ≤ 100) :
    verdicts F snap req = .ok ((candidateReports F snap req (snap.requestedService req)).map
      (·.verdict)) := by
  have evaluated := (evaluateOffload_eq_ok_iff snap req (outcome F snap req)).mpr ⟨⟨low, calm⟩, rfl⟩
  rw [verdicts, evaluated, Except.map, outcome_candidates]

/-- Whether the ranges of a request are refused does not depend on the snapshot. -/
theorem verdicts_refused {snap snap' : Snapshot} {req : OffloadRequest}
    (range : ¬ (req.minHeadroom ≤ 100 ∧ req.maxQueuePressure ≤ 100)) :
    verdicts F snap req = verdicts F snap' req := by
  unfold verdicts evaluateOffload
  by_cases low : req.minHeadroom > 100
  · rw [if_pos low, if_pos low]
  · have high : req.maxQueuePressure > 100 :=
      UInt64.not_le.mp fun calm => range ⟨UInt64.not_lt.mp low, calm⟩
    rw [if_neg low, if_pos high, if_neg low, if_pos high]

/-- The verdicts agree when every listed device is rejected for the same reasons. -/
theorem verdicts_eq_iff {snap snap' : Snapshot} {req : OffloadRequest}
    {svc svc' : Option ServiceDefinition} (devices : snap'.devices = snap.devices)
    (order : snap'.deviceOrder = snap.deviceOrder) :
    (candidateReports F snap' req svc').map (·.verdict) =
        (candidateReports F snap req svc).map (·.verdict) ↔
      ∀ did ∈ snap.deviceOrder, ∀ dev, snap.devices[did]? = some dev →
        rejections F snap' req svc' did dev = rejections F snap req svc did dev := by
  rw [candidateReports_verdicts, candidateReports_verdicts, order, devices]
  induction snap.deviceOrder with
  | nil => simp
  | cons did rest ih =>
      cases found : snap.devices[did]? with
      | none => simp [found, ih]
      | some dev => simp [found, ih]; grind

/-- Only the entries of the optional list itself make a difference. -/
theorem rejections_optionalCaps_iff {snap : Snapshot} {req : OffloadRequest} {did : DeviceId}
    {dev : DeviceRecord} {svc : ServiceDefinition} {caps caps' : List CapabilityRequirement} :
    rejections F snap req (some { svc with optionalCaps := caps }) did dev =
        rejections F snap req (some { svc with optionalCaps := caps' }) did dev ↔
      caps.flatMap (capabilityRejections dev) = caps'.flatMap (capabilityRejections dev) := by
  dsimp only [rejections, wantedProgram, collectRequiredCaps, Option.elim_some, Option.any_some]
  simp only [List.flatten_cons, List.flatten_nil, List.flatMap_append, List.append_assoc,
    List.append_cancel_left_eq]
  -- The decisions on the two floors mention the lists, though they do not read them.
  erw [List.append_cancel_left_eq, List.append_cancel_left_eq]
  simp only [List.append_cancel_left_eq, List.append_cancel_right_eq]

/-! ## Replacing the list -/

theorem rejections_withOptionalCaps (snap : Snapshot) (req : OffloadRequest)
    (svc : Option ServiceDefinition) (did : DeviceId) (dev : DeviceRecord) (sid : ServiceId)
    (caps : List CapabilityRequirement) :
    rejections F (snap.withOptionalCaps sid caps) req svc did dev =
      rejections F snap req svc did dev := by
  have services : ∀ dep, (snap.withOptionalCaps sid caps).services.contains dep =
      snap.services.contains dep := by
    intro dep
    rw [Snapshot.withOptionalCaps, Std.ExtTreeMap.contains_modify]
  unfold rejections
  simp only [services]
  rfl

/-- The lists matter where the request asks for the service. -/
theorem verdicts_withOptionalCaps_iff {snap : Snapshot} {req : OffloadRequest}
    (low : req.minHeadroom ≤ 100) (calm : req.maxQueuePressure ≤ 100) {sid : ServiceId}
    {caps : List CapabilityRequirement} :
    verdicts F (snap.withOptionalCaps sid caps) req = verdicts F snap req ↔
      (req.service = some sid → ∀ svc, snap.services[sid]? = some svc →
        ∀ did ∈ snap.deviceOrder, ∀ dev, snap.devices[did]? = some dev →
          caps.flatMap (capabilityRejections dev) =
            svc.optionalCaps.flatMap (capabilityRejections dev)) := by
  rw [verdicts_eq low calm, verdicts_eq low calm, Except.ok.injEq]
  refine (verdicts_eq_iff (by rfl) (by rfl)).trans ?_
  simp only [rejections_withOptionalCaps]
  have found : ∀ id, (snap.withOptionalCaps sid caps).services[id]? =
      if sid = id then snap.services[id]?.map fun svc => { svc with optionalCaps := caps }
      else snap.services[id]? := fun id => OrderedMap.lookup_modify _ _ _ _
  by_cases used : ∃ svc, req.service = some sid ∧ snap.services[sid]? = some svc
  · obtain ⟨svc, asked, registered⟩ := used
    have service : snap.requestedService req = some svc := by
      rw [Snapshot.requestedService, asked, Option.bind_some, registered]
    have service' : (snap.withOptionalCaps sid caps).requestedService req =
        some { svc with optionalCaps := caps } := by
      rw [Snapshot.requestedService, asked, Option.bind_some, found, if_pos rfl, registered,
        Option.map_some]
    rw [service, service']
    simp only [asked, registered, Option.some.injEq, forall_const, forall_eq']
    refine forall_congr' fun did => imp_congr_right fun _ => forall_congr' fun dev =>
      imp_congr_right fun _ => ?_
    exact rejections_optionalCaps_iff
  · have service : (snap.withOptionalCaps sid caps).requestedService req =
        snap.requestedService req := by
      rw [Snapshot.requestedService, Snapshot.requestedService]
      cases asked : req.service with
      | none => rfl
      | some id =>
          rw [Option.bind_some, Option.bind_some, found]
          split_ifs with same
          · subst same
            cases registered : snap.services[sid]? with
            | none => rfl
            | some svc => exact absurd ⟨svc, asked, registered⟩ used
          · rfl
    rw [service]
    exact ⟨fun _ asked svc registered => absurd ⟨svc, asked, registered⟩ used,
      fun _ _ _ _ _ => rfl⟩

theorem flatMap_capabilityRejections_eq_nil_iff (caps : List CapabilityRequirement)
    (dev : DeviceRecord) :
    caps.flatMap (capabilityRejections dev) = [] ↔
      ∀ c ∈ caps, c.isOptional = false → c.MetBy dev.capabilities := by
  simp only [List.flatMap_eq_nil_iff, capabilityRejections_eq_nil_iff]

/--
Neither the empty list nor another one in place of the optional capabilities of a
service changes a verdict, exactly if every device that is looked at meets all entries
of both lists whose flag is not set.
-/
theorem optionalCaps_never_block_iff (F : Type) [ScoreArith F] (snap : Snapshot)
    (req : OffloadRequest) (sid : ServiceId) (caps : List CapabilityRequirement) :
    (∀ other, other = [] ∨ other = caps →
      verdicts F (snap.withOptionalCaps sid other) req = verdicts F snap req) ↔
    (req.minHeadroom ≤ 100 → req.maxQueuePressure ≤ 100 → req.service = some sid →
      ∀ svc, snap.services[sid]? = some svc →
        ∀ did ∈ snap.deviceOrder, ∀ dev, snap.devices[did]? = some dev →
          ∀ c ∈ svc.optionalCaps ++ caps, c.isOptional = false → c.MetBy dev.capabilities) := by
  by_cases range : req.minHeadroom ≤ 100 ∧ req.maxQueuePressure ≤ 100
  · obtain ⟨low, calm⟩ := range
    simp only [verdicts_withOptionalCaps_iff low calm, forall_eq_or_imp, forall_eq, low, calm,
      forall_const, List.flatMap_nil]
    constructor
    · rintro ⟨empty, replaced⟩ asked svc registered did listed dev present
      have own := (empty asked svc registered did listed dev present).symm
      have others := (replaced asked svc registered did listed dev present).trans own
      rw [flatMap_capabilityRejections_eq_nil_iff] at own others
      exact fun c member => (List.mem_append.mp member).elim (own c) (others c)
    · intro met
      have none_blocks : ∀ svc, req.service = some sid → snap.services[sid]? = some svc →
          ∀ did ∈ snap.deviceOrder, ∀ dev, snap.devices[did]? = some dev →
            (svc.optionalCaps ++ caps).flatMap (capabilityRejections dev) = [] :=
        fun svc asked registered did listed dev present =>
          (flatMap_capabilityRejections_eq_nil_iff _ dev).mpr
            (met asked svc registered did listed dev present)
      simp only [List.flatMap_append, List.append_eq_nil_iff] at none_blocks
      refine ⟨fun asked svc registered did listed dev present => ?_,
        fun asked svc registered did listed dev present => ?_⟩
      · exact (none_blocks svc asked registered did listed dev present).1.symm
      · obtain ⟨own, others⟩ := none_blocks svc asked registered did listed dev present
        rw [own, others]
  · have refused : ∀ snap', verdicts F snap' req = verdicts F snap req :=
      fun snap' => verdicts_refused range
    exact ⟨fun _ low calm => absurd ⟨low, calm⟩ range, fun _ other _ => refused _⟩

/-- A ready device, and a service with one optional capability whose flag is not set. -/
def optionalCapsSnapshot : Snapshot :=
  { policy := Policy.defaults ⟨1⟩
    devices := Std.ExtTreeMap.insert ∅ ⟨1⟩
      { deviceId := ⟨1⟩
        health := .declared .healthy
        lifecycle := .declared .ready
        evidenceFresh := true }
    services := Std.ExtTreeMap.insert ∅ ⟨90⟩ { serviceId := ⟨90⟩, optionalCaps := [{}] }
    deviceOrder := [⟨1⟩] }

/-- The device is rejected for lacking the capability, and passes without the entry. -/
theorem not_optionalCaps_never_block :
    ∃ (snap : Snapshot) (req : OffloadRequest) (sid : ServiceId) (did : DeviceId),
      verdicts ℚ snap req = .ok [(did, false, [.requiredCapabilityUnsupported])] ∧
        verdicts ℚ (snap.withOptionalCaps sid []) req = .ok [(did, true, [])] := by
  refine ⟨optionalCapsSnapshot, { service := some ⟨90⟩ }, ⟨90⟩, ⟨1⟩, ?_, ?_⟩
  · rw [verdicts_eq (by decide) (by decide), candidateReports_verdicts]
    exact congrArg Except.ok (by decide +kernel)
  · rw [verdicts_eq (by decide) (by decide), candidateReports_verdicts]
    exact congrArg Except.ok (by decide +kernel)

end Verdicts

end DPUFabric
