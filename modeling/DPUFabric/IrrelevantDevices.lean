import DPUFabric.Selection

/-!
# Devices that do not matter to a selection

The verdict on a device, its score and its rank among the others are computed from the
device itself and from tables that list no devices.  So a device that is not selected
can be removed, and one that fails a hard constraint can be added anywhere in the
order: the selected device and the reports of all others stay as they are.
-/

namespace DPUFabric

open Ranking

namespace Snapshot

/-- The device is taken out of the table and the order. -/
def withoutDevice (snap : Snapshot) (did : DeviceId) : Snapshot :=
  { snap with
    devices := snap.devices.erase did
    deviceOrder := snap.deviceOrder.erase did }

/-- The device is put into the table, and into the order at some position. -/
def withDevice (snap : Snapshot) (position : Nat) (did : DeviceId) (dev : DeviceRecord) :
    Snapshot :=
  { snap with
    devices := snap.devices.insert did dev
    deviceOrder := snap.deviceOrder.insertIdx position did }

/-- Two snapshots that differ in one device and its place only. -/
structure AgreeBut (did : DeviceId) (snap snap' : Snapshot) : Prop where
  rest : snap' = { snap with devices := snap'.devices, deviceOrder := snap'.deviceOrder }
  lookup : ∀ other, other ≠ did → snap'.devices[other]? = snap.devices[other]?
  order : snap'.deviceOrder.filter (· != did) = snap.deviceOrder.filter (· != did)

theorem agreeBut_withoutDevice {snap : Snapshot} (nodup : snap.deviceOrder.Nodup)
    (did : DeviceId) : AgreeBut did snap (snap.withoutDevice did) where
  rest := rfl
  lookup other different := by
    simp [withoutDevice, Std.ExtTreeMap.getElem?_erase, Ne.symm different]
  order := by
    rw [withoutDevice, nodup.erase_eq_filter, List.filter_filter]
    simp

theorem agreeBut_withDevice {snap : Snapshot} {did : DeviceId} (position : Nat)
    (dev : DeviceRecord) : AgreeBut did snap (snap.withDevice position did dev) where
  rest := rfl
  lookup other different := by
    rw [withDevice, OrderedMap.lookup_insert, if_neg (Ne.symm different)]
  order := by
    rw [withDevice]
    induction snap.deviceOrder generalizing position with
    | nil => cases position <;> simp
    | cons first rest ih =>
        cases position with
        | zero => rw [List.insertIdx_zero, List.filter_cons_of_neg (by simp)]
        | succ position => simp only [List.insertIdx_succ_cons, List.filter_cons, ih]

end Snapshot

/-! ## What stays -/

section Others

variable {F : Type} [ScoreArith F] {did : DeviceId} {snap snap' : Snapshot}
  (agree : snap.AgreeBut did snap') {req : OffloadRequest}
include agree

theorem Snapshot.AgreeBut.reportOf_eq (other : DeviceId) (dev : DeviceRecord) :
    reportOf (F := F) snap' req other dev = reportOf snap req other dev := by
  rw [agree.rest]
  rfl

theorem Snapshot.AgreeBut.score_eq (other : DeviceId) (dev : DeviceRecord) :
    score F snap' req other dev = score F snap req other dev := by
  rw [agree.rest]
  rfl

theorem Snapshot.AgreeBut.mem_iff {other : DeviceId} (different : other ≠ did) :
    other ∈ snap'.deviceOrder ↔ other ∈ snap.deviceOrder := by
  have same := congrArg (other ∈ ·) agree.order
  simpa [different] using same

theorem Snapshot.AgreeBut.passes_iff {other : DeviceId} (different : other ≠ did)
    {dev : DeviceRecord} : Passes F snap' req other dev ↔ Passes F snap req other dev := by
  have rejected : rejections F snap' req (snap'.requestedService req) other dev =
      rejections F snap req (snap.requestedService req) other dev :=
    congrArg CandidateReport.rejected (agree.reportOf_eq other dev)
  constructor
  · rintro ⟨listed, registered, clean⟩
    exact ⟨(agree.mem_iff different).mp listed, agree.lookup other different ▸ registered,
      rejected ▸ clean⟩
  · rintro ⟨listed, registered, clean⟩
    exact ⟨(agree.mem_iff different).mpr listed, (agree.lookup other different).trans registered,
      rejected.trans clean⟩

theorem Snapshot.AgreeBut.outranks_iff {a b : DeviceId} (other : a ≠ did) (other' : b ≠ did)
    {dev dev' : DeviceRecord} :
    Outranks F snap' req a dev b dev' ↔ Outranks F snap req a dev b dev' := by
  have place : deviceOrderIndex snap' a < deviceOrderIndex snap' b ↔
      deviceOrderIndex snap a < deviceOrderIndex snap b := by
    unfold deviceOrderIndex
    have kept : ∀ entries : List DeviceId,
        (entries.filter (· != did)).idxOf a < (entries.filter (· != did)).idxOf b ↔
          entries.idxOf a < entries.idxOf b :=
      idxOf_filter_lt_iff (bne_iff_ne.mpr other) (bne_iff_ne.mpr other')
    rw [← kept, agree.order, kept]
  rw [Outranks, Outranks, agree.score_eq, agree.score_eq, place]

/-- The reports of the other devices. -/
theorem Snapshot.AgreeBut.candidateReports_eq :
    (candidateReports F snap' req (snap'.requestedService req)).filter (·.device != did) =
      (candidateReports F snap req (snap.requestedService req)).filter (·.device != did) := by
  have kept : ∀ snap : Snapshot,
      (candidateReports F snap req (snap.requestedService req)).filter (·.device != did) =
        (snap.deviceOrder.filter (· != did)).filterMap fun other =>
          snap.devices[other]?.map (reportOf snap req other) := by
    intro snap
    rw [candidateReports, List.filter_filterMap, List.filterMap_filter]
    refine List.filterMap_congr fun other _ => ?_
    cases snap.devices[other]? with
    | none => simp
    | some dev => by_cases same : other = did <;> simp [same, candidateReport]
  rw [kept, kept, agree.order]
  refine List.filterMap_congr fun other listed => ?_
  have different : other ≠ did := bne_iff_ne.mp (List.mem_filter.mp listed).2
  rw [agree.lookup other different]
  exact Option.map_congr fun dev _ => agree.reportOf_eq other dev

/-- The first choice stays, unless the device that was changed passes. -/
theorem Snapshot.AgreeBut.firstChoice {best : DeviceId} {dev : DeviceRecord}
    (choice : FirstChoice F snap req best dev) (other : best ≠ did)
    (fails : ∀ dev', ¬ Passes F snap' req did dev') : FirstChoice F snap' req best dev where
  passes := (agree.passes_iff other).mpr choice.passes
  first := by
    intro did' dev' passes outranks
    by_cases same : did' = did
    · subst same
      exact fails dev' passes
    · exact choice.first did' dev' ((agree.passes_iff same).mp passes)
        ((agree.outranks_iff same other).mp outranks)

/-- The selection stays, unless the device that was changed is selected or passes. -/
theorem Snapshot.AgreeBut.selection [LawfulScoreArith F] {result : EligibilityResult F}
    (evaluated : evaluateOffload F snap req = .ok result) (other : result.selected ≠ some did)
    (fails : ∀ dev', ¬ Passes F snap' req did dev') :
    ∃ result', evaluateOffload F snap' req = .ok result' ∧ result'.selected = result.selected ∧
      result'.candidates.filter (·.device != did) =
        result.candidates.filter (·.device != did) := by
  obtain ⟨bounds, made⟩ := (evaluateOffload_eq_ok_iff snap req result).mp evaluated
  have evaluated' := (evaluateOffload_eq_ok_iff snap' req (outcome F snap' req)).mpr ⟨bounds, rfl⟩
  refine ⟨_, evaluated', ?_, ?_⟩
  · cases selected : result.selected with
    | some best =>
        obtain ⟨dev, choice⟩ := (selected_eq_some_iff evaluated).mp selected
        have different : best ≠ did := fun same => other (same ▸ selected)
        exact (selected_eq_some_iff evaluated').mpr ⟨dev, agree.firstChoice choice different fails⟩
    | none =>
        have none_passes := (selected_eq_none_iff evaluated).mp selected
        refine (selected_eq_none_iff evaluated').mpr fun id dev passes => ?_
        by_cases same : id = did
        · subst same
          exact fails dev passes
        · exact none_passes id dev ((agree.passes_iff same).mp passes)
  · rw [← made, outcome_candidates, outcome_candidates]
    exact agree.candidateReports_eq

end Others

/-! ## The selection -/

section Selection

variable {snap : Snapshot} {req : OffloadRequest}

theorem candidateReports_unlisted (F : Type) [ScoreArith F] {did : DeviceId}
    (absent : did ∉ snap.deviceOrder) :
    (candidateReports F snap req (snap.requestedService req)).filter (·.device != did) =
      candidateReports F snap req (snap.requestedService req) := by
  refine List.filter_eq_self.mpr fun report member => ?_
  obtain ⟨other, listed, dev, -, rfl⟩ := mem_candidateReports_iff.mp member
  rw [bne_iff_ne]
  rintro rfl
  exact absent listed

/-- No passing device has a greater score than the first choice. -/
theorem FirstChoice.score_le {best other : DeviceId} {dev dev' : DeviceRecord}
    (choice : FirstChoice ℚ snap req best dev) (passes : Passes ℚ snap req other dev') :
    score ℚ snap req other dev' ≤ score ℚ snap req best dev := by
  have behind := choice.first other dev' passes
  unfold Outranks at behind
  split_ifs at behind with tie
  · exact (beq_iff_eq.mp tie).le
  · exact (lt_eq_false_iff _ _).mp (Bool.not_eq_true _ ▸ behind)

theorem selected_optimal {result : EligibilityResult ℚ}
    (evaluated : evaluateOffload ℚ snap req = .ok result)
    (some_passes : ∃ report ∈ result.candidates, report.passedHard = true) :
    ∃ best ∈ result.candidates, result.selected = some best.device ∧ best.passedHard = true ∧
      ∀ report ∈ result.candidates, report.passedHard = true → report.total ≤ best.total := by
  obtain ⟨-, made⟩ := (evaluateOffload_eq_ok_iff snap req result).mp evaluated
  have passed : ∀ report, report ∈ result.candidates ∧ report.passedHard = true ↔
      ∃ did dev, Passes ℚ snap req did dev ∧ reportOf snap req did dev = report := by
    intro report
    rw [← mem_passed_iff, List.mem_filter, ← made, outcome_candidates]
  cases selected : result.selected with
  | none =>
      obtain ⟨report, member, clean⟩ := some_passes
      obtain ⟨did, dev, passes, -⟩ := (passed report).mp ⟨member, clean⟩
      exact ((selected_eq_none_iff evaluated).mp selected did dev passes).elim
  | some best =>
      obtain ⟨dev, choice⟩ := (selected_eq_some_iff evaluated).mp selected
      obtain ⟨member, clean⟩ := (passed _).mpr ⟨best, dev, choice.passes, rfl⟩
      refine ⟨_, member, rfl, clean, fun report member' clean' => ?_⟩
      obtain ⟨did', dev', passes', rfl⟩ := (passed report).mp ⟨member', clean'⟩
      rw [choice.passes.total, passes'.total]
      exact choice.score_le passes'

/--
The selected device passes with the greatest total.  Taking out another device, or
putting in one that fails a hard constraint, changes neither the selection nor the
reports of the remaining devices.
-/
theorem selection_optimal_and_local {result : EligibilityResult ℚ}
    (nodup : snap.deviceOrder.Nodup) (evaluated : evaluateOffload ℚ snap req = .ok result) :
    ((∃ report ∈ result.candidates, report.passedHard = true) →
      ∃ best ∈ result.candidates, result.selected = some best.device ∧ best.passedHard = true ∧
        ∀ report ∈ result.candidates, report.passedHard = true → report.total ≤ best.total) ∧
    (∀ did, result.selected ≠ some did →
      ∃ result', evaluateOffload ℚ (snap.withoutDevice did) req = .ok result' ∧
        result'.selected = result.selected ∧
        result'.candidates = result.candidates.filter (·.device != did)) ∧
    (∀ position did dev, did ∉ snap.deviceOrder →
      rejections ℚ snap req (snap.requestedService req) did dev ≠ [] →
      ∃ result', evaluateOffload ℚ (snap.withDevice position did dev) req = .ok result' ∧
        result'.selected = result.selected ∧
        result'.candidates.filter (·.device != did) = result.candidates) := by
  refine ⟨selected_optimal evaluated, ?_, ?_⟩
  · intro did other
    have absent : did ∉ (snap.withoutDevice did).deviceOrder := nodup.not_mem_erase
    obtain ⟨result', evaluated', selected, reports⟩ :=
      (Snapshot.agreeBut_withoutDevice nodup did).selection evaluated other
        fun dev passes => absent passes.listed
    refine ⟨result', evaluated', selected, ?_⟩
    obtain ⟨-, rfl⟩ := (evaluateOffload_eq_ok_iff _ req result').mp evaluated'
    rw [← reports, outcome_candidates, candidateReports_unlisted ℚ absent]
  · intro position did dev absent fails
    have agree : snap.AgreeBut did (snap.withDevice position did dev) :=
      Snapshot.agreeBut_withDevice position dev
    have other : result.selected ≠ some did := by
      intro selected
      obtain ⟨dev', choice⟩ := (selected_eq_some_iff evaluated).mp selected
      exact absent choice.passes.listed
    obtain ⟨result', evaluated', selected, reports⟩ :=
      agree.selection evaluated other fun dev' passes => by
        have record : dev' = dev := by
          have registered := passes.registered
          rw [Snapshot.withDevice, OrderedMap.lookup_insert, if_pos rfl] at registered
          exact (Option.some.inj registered).symm
        subst record
        exact fails passes.clean
    refine ⟨result', evaluated', selected, ?_⟩
    obtain ⟨-, rfl⟩ := (evaluateOffload_eq_ok_iff snap req result).mp evaluated
    rw [reports, outcome_candidates, candidateReports_unlisted ℚ absent]

/-- A ready device with a locality. -/
def placedDevice (did : DeviceId) (locality : LocalityQuality) : DeviceRecord :=
  { hostProcessor with deviceId := did, locality := .declared locality }

/-- A remote device, one on the same NIC, and one that has failed. -/
def mixedSnapshot : Snapshot :=
  { policy := Policy.defaults ⟨1⟩
    devices := ((Std.ExtTreeMap.insert ∅ ⟨1⟩ (placedDevice ⟨1⟩ .remote)).insert ⟨2⟩
      (placedDevice ⟨2⟩ .sameNic)).insert ⟨3⟩
        { placedDevice ⟨3⟩ .sameDevice with health := .declared .failed }
    deviceOrder := [⟨1⟩, ⟨2⟩, ⟨3⟩] }

theorem mixedSnapshot_reports :
    ∃ report ∈ candidateReports ℚ mixedSnapshot {} none, report.passedHard = true ∧
      ∀ other ∈ candidateReports ℚ mixedSnapshot {} none, other.passedHard = true →
        report.total ≤ other.total → other.device = ⟨2⟩ := by
  decide +kernel

/--
Of two devices that pass, the nearer one is selected; it stays selected when the failed
one is removed, and when an unclassified one is put in front of all.
-/
theorem selection_optimal_and_local_mixed :
    ∃ result, evaluateOffload ℚ mixedSnapshot {} = .ok result ∧
      result.selected = some ⟨2⟩ ∧
      (∃ result', evaluateOffload ℚ (mixedSnapshot.withoutDevice ⟨3⟩) {} = .ok result' ∧
        result'.selected = some ⟨2⟩ ∧
        result'.candidates = result.candidates.filter (·.device != ⟨3⟩)) ∧
      ∃ result', evaluateOffload ℚ (mixedSnapshot.withDevice 0 ⟨7⟩ {}) {} = .ok result' ∧
        result'.selected = some ⟨2⟩ ∧
        result'.candidates.filter (·.device != ⟨7⟩) = result.candidates := by
  have evaluated := (evaluateOffload_eq_ok_iff mixedSnapshot {}
    (outcome ℚ mixedSnapshot {})).mpr ⟨⟨by decide, by decide⟩, rfl⟩
  obtain ⟨optimal, removed, added⟩ := selection_optimal_and_local (by decide) evaluated
  obtain ⟨report, listed, passed, second⟩ := mixedSnapshot_reports
  rw [outcome_candidates] at optimal
  obtain ⟨best, member, chosen, clean, most⟩ := optimal ⟨report, listed, passed⟩
  rw [second best member clean (most report listed passed)] at chosen
  refine ⟨_, evaluated, chosen, ?_, ?_⟩
  · have other : (outcome ℚ mixedSnapshot {}).selected ≠ some ⟨3⟩ := by
      rw [chosen]
      decide
    rw [← chosen]
    exact removed ⟨3⟩ other
  · rw [← chosen]
    exact added 0 ⟨7⟩ {} (by decide) (by decide +kernel)

end Selection

end DPUFabric
