import DPUFabric.HardConstraints
import DPUFabric.Library.Ranking

/-!
# Selection and host execution

The passing devices are ranked by score, and by registration order where scores
tie.  The evaluation selects the first of them, and derives the execution class
from that device's class; only without a passing device does it look at the mode
of the request.

A host processor, a network adapter or an unclassified device may pass the hard
constraints like any other.  Host execution is an explicit fallback exactly when
none of these is ranked first.
-/

namespace DPUFabric

open Ranking

/--
Scores compare as numbers do: `lt` ranks them, and two of them are equal when it
does not separate them.  Sums of finite weights are such scores in `double` too.
-/
class LawfulScoreArith (F : Type) [ScoreArith F] : Prop where
  ranks : Ranks fun left right : F => ScoreArith.lt left right
  beq_iff : ∀ left right : F,
    (left == right) = true ↔
      ScoreArith.lt left right = false ∧ ScoreArith.lt right left = false

instance : LawfulScoreArith ℚ where
  ranks :=
    { asymm := by
        intro a b smaller
        simp only [ScoreArith.lt, decide_eq_true_eq, decide_eq_false_iff_not] at smaller ⊢
        exact smaller.not_gt
      cotrans := by
        intro a c smaller b
        simp only [ScoreArith.lt, decide_eq_true_eq] at smaller ⊢
        exact (lt_or_ge a b).imp_right fun above => above.trans_lt smaller }
  beq_iff := by
    intro left right
    simp only [ScoreArith.lt, decide_eq_false_iff_not, not_lt, beq_iff_eq]
    exact ⟨fun same => ⟨same.ge, same.le⟩, fun ⟨ge, le⟩ => le.antisymm ge⟩

section Selection

variable (F : Type) [ScoreArith F]

/-! ## The first choice -/

/-- A listed device which meets all hard constraints. -/
structure Passes (snap : Snapshot) (req : OffloadRequest) (did : DeviceId)
    (dev : DeviceRecord) : Prop where
  listed : did ∈ snap.deviceOrder
  registered : snap.devices[did]? = some dev
  clean : rejections F snap req (snap.requestedService req) did dev = []

/-- The weighted sum of the ranking factors. -/
def score (snap : Snapshot) (req : OffloadRequest) (did : DeviceId) (dev : DeviceRecord) :
    F :=
  (scores F snap req (snap.requestedService req) did dev).foldl
    (fun total s => total + s.weighted) (ScoreArith.tenths 0)

/-- A greater score ranks higher, and an earlier registration where scores tie. -/
def Outranks (snap : Snapshot) (req : OffloadRequest) (did : DeviceId) (dev : DeviceRecord)
    (did' : DeviceId) (dev' : DeviceRecord) : Prop :=
  if score F snap req did dev == score F snap req did' dev' then
    deviceOrderIndex snap did < deviceOrderIndex snap did'
  else
    ScoreArith.lt (score F snap req did' dev') (score F snap req did dev) = true

/-- The passing device that no other one outranks. -/
structure FirstChoice (snap : Snapshot) (req : OffloadRequest) (did : DeviceId)
    (dev : DeviceRecord) : Prop where
  passes : Passes F snap req did dev
  first : ∀ did' dev', Passes F snap req did' dev' →
    ¬ Outranks F snap req did' dev' did dev

variable {F}

/-- The report of a device, as the evaluation writes it. -/
abbrev reportOf (snap : Snapshot) (req : OffloadRequest) (did : DeviceId)
    (dev : DeviceRecord) : CandidateReport F :=
  candidateReport F snap req (snap.requestedService req) did dev

theorem Passes.total {snap : Snapshot} {req : OffloadRequest} {did : DeviceId}
    {dev : DeviceRecord} (passes : Passes F snap req did dev) :
    (reportOf (F := F) snap req did dev).total = score F snap req did dev := by
  simp [candidateReport, passes.clean, score]

theorem Passes.suits {snap : Snapshot} {req : OffloadRequest} {did : DeviceId}
    {dev : DeviceRecord} (passes : Passes F snap req did dev) :
    Suits F snap req (snap.requestedService req) did dev :=
  ((rejections_eq_nil_iff snap req _ did dev).mp passes.clean).2.2

theorem mem_passed_iff {snap : Snapshot} {req : OffloadRequest} {report : CandidateReport F} :
    report ∈ (candidateReports F snap req (snap.requestedService req)).filter (·.passedHard) ↔
      ∃ did dev, Passes F snap req did dev ∧ reportOf snap req did dev = report := by
  rw [List.mem_filter, mem_candidateReports_iff]
  constructor
  · rintro ⟨⟨did, listed, dev, registered, rfl⟩, passed⟩
    exact ⟨did, dev, ⟨listed, registered, List.isEmpty_iff.mp passed⟩, rfl⟩
  · rintro ⟨did, dev, passes, rfl⟩
    exact ⟨⟨did, passes.listed, dev, passes.registered, rfl⟩,
      List.isEmpty_iff.mpr passes.clean⟩

theorem precedes_iff_outranks {snap : Snapshot} {req : OffloadRequest} {did did' : DeviceId}
    {dev dev' : DeviceRecord} (passes : Passes F snap req did dev)
    (passes' : Passes F snap req did' dev') :
    precedes F snap (reportOf snap req did dev) (reportOf snap req did' dev') = true ↔
      Outranks F snap req did dev did' dev' := by
  rw [precedes, passes.total, passes'.total, Outranks]
  cases tie : score F snap req did dev == score F snap req did' dev' with
  | true => simp [bne, tie, candidateReport]
  | false => simp [bne, tie]

theorem precedes_ranks [LawfulScoreArith F] (snap : Snapshot) :
    Ranks (precedes F snap) := by
  have better : Ranks fun a b : CandidateReport F => ScoreArith.lt b.total a.total :=
    (LawfulScoreArith.ranks.comap CandidateReport.total).flip
  have earlier : Ranks fun a b : CandidateReport F =>
      decide (deviceOrderIndex snap a.device < deviceOrderIndex snap b.device) :=
    Ranks.lt.comap fun report : CandidateReport F => deviceOrderIndex snap report.device
  have tied : ∀ a b : CandidateReport F, (a.total == b.total) = true ↔
      ScoreArith.lt b.total a.total = false ∧ ScoreArith.lt a.total b.total = false :=
    fun a b => (LawfulScoreArith.beq_iff a.total b.total).trans and_comm
  have both := better.thenBy earlier tied
  convert both using 3 with a b
  rw [precedes]
  cases tie : a.total == b.total <;> simp [bne, tie]

theorem FirstChoice.unique [LawfulScoreArith F] {snap : Snapshot} {req : OffloadRequest}
    {did did' : DeviceId} {dev dev' : DeviceRecord}
    (one : FirstChoice F snap req did dev) (other : FirstChoice F snap req did' dev') :
    did = did' := by
  have forth := one.first did' dev' other.passes
  have back := other.first did dev one.passes
  unfold Outranks at forth back
  have ties := LawfulScoreArith.beq_iff (score F snap req did dev) (score F snap req did' dev')
  have ties' := LawfulScoreArith.beq_iff (score F snap req did' dev') (score F snap req did dev)
  cases tie : score F snap req did dev == score F snap req did' dev' with
  | true =>
      have tie' := ties'.mpr (ties.mp tie).symm
      rw [if_pos tie', not_lt] at forth
      rw [if_pos tie, not_lt] at back
      exact List.idxOf_inj one.passes.listed |>.mp (back.antisymm forth).symm
  | false =>
      have tie' : ¬ (score F snap req did' dev' == score F snap req did dev) = true := by
        intro tie'
        rw [ties.mpr (ties'.mp tie').symm] at tie
        cases tie
      rw [if_neg tie', Bool.not_eq_true] at forth
      rw [if_neg (by simp [tie]), Bool.not_eq_true] at back
      rw [ties.mpr ⟨forth, back⟩] at tie
      cases tie

/-- The evaluation selects the first choice, and nothing when no device passes. -/
theorem outcome_cases [LawfulScoreArith F] (snap : Snapshot) (req : OffloadRequest) :
    (∃ did dev, FirstChoice F snap req did dev ∧
      outcome F snap req = selectedResult F snap req
        (candidateReports F snap req (snap.requestedService req)) did) ∨
    ((∀ did dev, ¬ Passes F snap req did dev) ∧
      outcome F snap req =
        rejectedResult F req (candidateReports F snap req (snap.requestedService req))) := by
  cases sorted : ranking F snap req with
  | nil =>
      refine Or.inr ⟨fun did dev passes => ?_, by rw [outcome, sorted]⟩
      have listed : reportOf snap req did dev ∈ ranking F snap req :=
        List.mem_mergeSort.mpr (mem_passed_iff.mpr ⟨did, dev, passes, rfl⟩)
      rw [sorted] at listed
      cases listed
  | cons best rest =>
      obtain ⟨member, ahead⟩ := head_mergeSort (precedes_ranks snap) sorted
      obtain ⟨did, dev, passes, rfl⟩ := mem_passed_iff.mp member
      refine Or.inl ⟨did, dev, ⟨passes, fun did' dev' passes' outranks => ?_⟩, ?_⟩
      · have behind := ahead _ (mem_passed_iff.mpr ⟨did', dev', passes', rfl⟩)
        rw [(precedes_iff_outranks passes' passes).mpr outranks] at behind
        cases behind
      · rw [outcome, sorted]
        rfl

/-- The selected device is the first choice. -/
theorem selected_eq_some_iff [LawfulScoreArith F] {snap : Snapshot} {req : OffloadRequest}
    {result : EligibilityResult F} (evaluated : evaluateOffload F snap req = .ok result)
    {did : DeviceId} :
    result.selected = some did ↔ ∃ dev, FirstChoice F snap req did dev := by
  obtain ⟨-, rfl⟩ := (evaluateOffload_eq_ok_iff snap req result).mp evaluated
  rcases outcome_cases (F := F) snap req with ⟨best, dev, choice, selects⟩ | ⟨none_passes, rejects⟩
  · rw [selects]
    constructor
    · intro selected
      cases selected
      exact ⟨dev, choice⟩
    · rintro ⟨dev', choice'⟩
      rw [choice'.unique choice]
      rfl
  · rw [rejects, rejectedResult_selected]
    constructor
    · intro selected
      cases selected
    · rintro ⟨dev, choice⟩
      exact (none_passes did dev choice.passes).elim

theorem selected_eq_none_iff [LawfulScoreArith F] {snap : Snapshot} {req : OffloadRequest}
    {result : EligibilityResult F} (evaluated : evaluateOffload F snap req = .ok result) :
    result.selected = none ↔ ∀ did dev, ¬ Passes F snap req did dev := by
  obtain ⟨-, rfl⟩ := (evaluateOffload_eq_ok_iff snap req result).mp evaluated
  rcases outcome_cases (F := F) snap req with ⟨best, dev, choice, selects⟩ | ⟨none_passes, rejects⟩
  · rw [selects]
    constructor
    · intro nothing
      cases nothing
    · intro none_passes
      exact (none_passes best dev choice.passes).elim
  · rw [rejects, rejectedResult_selected]
    exact ⟨fun _ => none_passes, fun _ => rfl⟩

/-- The only listed device is selected when it passes. -/
theorem evaluateOffload_only [LawfulScoreArith F] {snap : Snapshot} {req : OffloadRequest}
    {did : DeviceId} {dev : DeviceRecord} (only : snap.deviceOrder = [did])
    (bounds : req.minHeadroom ≤ 100 ∧ req.maxQueuePressure ≤ 100)
    (passes : Passes F snap req did dev) :
    evaluateOffload F snap req = .ok (selectedResult F snap req
      (candidateReports F snap req (snap.requestedService req)) did) := by
  rw [evaluateOffload_eq_ok_iff]
  refine ⟨bounds, ?_⟩
  rcases outcome_cases (F := F) snap req with ⟨did', dev', choice, selects⟩ | ⟨none_passes, -⟩
  · have same : did' = did := by
      have listed := choice.passes.listed
      rw [only] at listed
      exact List.mem_singleton.mp listed
    rw [selects, same]
  · exact (none_passes did dev passes).elim

/-! ## Host execution -/

/-- The classes of device whose execution is an offload. -/
def DeviceRecord.IsAccelerator (dev : DeviceRecord) : Prop :=
  dev.deviceClass = .declared .dpu ∨ dev.deviceClass = .declared .smartnic ∨
    dev.deviceClass = .declared .infraProcessor

/-- An execution class other than the host's. -/
def ExecutionClass.IsOffload (execution : ExecutionClass) : Prop :=
  execution = .dpuOffload ∨ execution = .smartnicOffload ∨ execution = .infraProcessorOffload

/-- Host execution is only ever an explicit, permitted fallback. -/
structure HostOnlyAsFallback (req : OffloadRequest) (result : EligibilityResult F) :
    Prop where
  explicit : result.execution = .hostFallback →
    req.mode = .offloadPreferred ∧ req.allowHostFallback = true ∧
      result.fallbackUsed = true ∧ result.fallbackReason ≠ [] ∧ result.selected = none
  required : req.mode = .offloadRequired →
    (∃ did, result.selected = some did) ∧ result.execution.IsOffload ∨
      result.selected = none ∧ result.execution = .unsupported ∧
        .offloadRequiredUnavailable ∈ result.globalRejections

variable (F) in
/-- The device ranked first, if any device passes, is an accelerator. -/
def AcceleratorFirst (snap : Snapshot) (req : OffloadRequest) : Prop :=
  ∀ did dev, FirstChoice F snap req did dev → dev.IsAccelerator

theorem executionOf_isOffload_iff (dev : DeviceRecord) :
    (executionOf dev).IsOffload ↔ dev.IsAccelerator := by
  unfold executionOf ExecutionClass.IsOffload DeviceRecord.IsAccelerator
  split_ifs <;> simp_all

theorem executionOf_eq_hostFallback_iff (dev : DeviceRecord) :
    executionOf dev = .hostFallback ↔ ¬ dev.IsAccelerator := by
  unfold executionOf DeviceRecord.IsAccelerator
  split_ifs <;> simp_all

theorem selectedResult_execution {snap : Snapshot} {req : OffloadRequest}
    {all : List (CandidateReport F)} {did : DeviceId} {dev : DeviceRecord}
    (registered : snap.devices[did]? = some dev) :
    (selectedResult F snap req all did).execution = executionOf dev := by
  simp [selectedResult, registered]

omit [ScoreArith F] in
/-- Without a passing device, the host runs the request as an explicit fallback only. -/
theorem rejectedResult_hostOnlyAsFallback (req : OffloadRequest)
    (all : List (CandidateReport F)) :
    HostOnlyAsFallback req (rejectedResult F req all) := by
  constructor
  · intro host
    unfold rejectedResult at host ⊢
    split_ifs at host ⊢ with required allowed
    have stated : text "DPU_CAPABILITY_UNAVAILABLE" ≠ [] := by decide
    refine ⟨?_, allowed, rfl, stated, rfl⟩
    cases mode : req.mode with
    | offloadRequired => exact (required mode).elim
    | offloadPreferred => rfl
  · intro required
    right
    simp [rejectedResult, required]

theorem selectedResult_hostOnlyAsFallback_iff {snap : Snapshot} {req : OffloadRequest}
    {all : List (CandidateReport F)} {did : DeviceId} {dev : DeviceRecord}
    (registered : snap.devices[did]? = some dev) :
    HostOnlyAsFallback req (selectedResult F snap req all did) ↔ dev.IsAccelerator := by
  have execution : (selectedResult F snap req all did).execution = executionOf dev :=
    selectedResult_execution registered
  constructor
  · intro fallback
    by_contra host
    have nothing := (fallback.explicit
      (execution.trans ((executionOf_eq_hostFallback_iff dev).mpr host))).2.2.2.2
    cases nothing
  · intro accelerator
    constructor
    · intro host
      rw [execution, executionOf_eq_hostFallback_iff] at host
      exact (host accelerator).elim
    · intro required
      left
      rw [execution]
      exact ⟨⟨did, rfl⟩, (executionOf_isOffload_iff dev).mpr accelerator⟩

/--
Host execution is an explicit, permitted fallback exactly when the device ranked
first, if there is one, is an accelerator.
-/
theorem hostOnlyAsFallback_iff (F : Type) [ScoreArith F] [LawfulScoreArith F]
    (snap : Snapshot) (req : OffloadRequest) (result : EligibilityResult F)
    (evaluated : evaluateOffload F snap req = .ok result) :
    HostOnlyAsFallback req result ↔ AcceleratorFirst F snap req := by
  obtain ⟨-, rfl⟩ := (evaluateOffload_eq_ok_iff snap req result).mp evaluated
  rcases outcome_cases (F := F) snap req with ⟨did, dev, choice, selects⟩ | ⟨none_passes, rejects⟩
  · rw [selects, selectedResult_hostOnlyAsFallback_iff choice.passes.registered]
    constructor
    · intro accelerator did' dev' choice'
      have same := choice.unique choice'
      subst same
      have record := choice.passes.registered.symm.trans choice'.passes.registered
      cases record
      exact accelerator
    · intro first
      exact first did dev choice
  · rw [rejects]
    constructor
    · intro _ did dev choice
      exact (none_passes did dev choice.passes).elim
    · intro _
      exact rejectedResult_hostOnlyAsFallback req _

/-- A host processor, as the system backend registers one. -/
def hostProcessor : DeviceRecord :=
  { deviceId := ⟨9001⟩
    deviceClass := .declared .hostProcessor
    health := .declared .healthy
    lifecycle := .declared .ready
    evidenceFresh := true }

/-- Nothing but a host processor is registered. -/
def hostSnapshot : Snapshot :=
  { policy := Policy.defaults ⟨1⟩
    devices := Std.ExtTreeMap.insert ∅ ⟨9001⟩ hostProcessor
    deviceOrder := [⟨9001⟩] }

theorem hostProcessor_passes :
    Passes ℚ hostSnapshot { mode := .offloadRequired } ⟨9001⟩ hostProcessor where
  listed := List.mem_cons_self
  registered := OrderedMap.lookup_insert _ _ _ _
  clean := by decide +kernel

theorem evaluateOffload_hostSnapshot :
    ∃ result, evaluateOffload ℚ hostSnapshot { mode := .offloadRequired } = .ok result ∧
      result.selected = some ⟨9001⟩ ∧ result.execution = .hostFallback := by
  exact ⟨_, evaluateOffload_only rfl ⟨by decide, by decide⟩ hostProcessor_passes, rfl,
    selectedResult_execution hostProcessor_passes.registered⟩

/-- A request that must be offloaded is run by the host processor, and not as a fallback. -/
theorem not_hostOnlyAsFallback :
    ∃ (snap : Snapshot) (req : OffloadRequest) (result : EligibilityResult ℚ),
      req.mode = .offloadRequired ∧ evaluateOffload ℚ snap req = .ok result ∧
        ¬ HostOnlyAsFallback req result := by
  obtain ⟨result, evaluated, selected, host⟩ := evaluateOffload_hostSnapshot
  refine ⟨hostSnapshot, { mode := .offloadRequired }, result, rfl, evaluated, ?_⟩
  intro fallback
  have nothing := (fallback.explicit host).2.2.2.2
  rw [selected] at nothing
  cases nothing

theorem hostOnlyAsFallback_iff_host :
    ∃ result, evaluateOffload ℚ hostSnapshot { mode := .offloadRequired } = .ok result ∧
      (HostOnlyAsFallback { mode := .offloadRequired } result ↔
        AcceleratorFirst ℚ hostSnapshot { mode := .offloadRequired }) := by
  obtain ⟨result, evaluated, -⟩ := evaluateOffload_hostSnapshot
  exact ⟨result, evaluated, hostOnlyAsFallback_iff ℚ _ _ result evaluated⟩

end Selection

end DPUFabric
