import DPUFabric.ArrivalOrder
import DPUFabric.IrrelevantDevices

/-!
# Ties between devices

Among the passing devices with the greatest total the evaluation takes the one that
was listed first.  So a group of devices registered in another order changes the
selection exactly when two of them share the greatest total and no device listed
before them has it.
-/

namespace DPUFabric

open Ranking

/-! ## The first of the best -/

section Best

variable {snap : Snapshot} {req : OffloadRequest}

/-- A passing device with the greatest total. -/
def Best (snap : Snapshot) (req : OffloadRequest) (did : DeviceId) : Prop :=
  ∃ dev, Passes ℚ snap req did dev ∧ ∀ did' dev', Passes ℚ snap req did' dev' →
    score ℚ snap req did' dev' ≤ score ℚ snap req did dev

theorem FirstChoice.best {did : DeviceId} {dev : DeviceRecord}
    (choice : FirstChoice ℚ snap req did dev) : Best snap req did :=
  ⟨dev, choice.passes, fun _ _ passes => choice.score_le passes⟩

theorem FirstChoice.idxOf_le {did other : DeviceId} {dev : DeviceRecord}
    (choice : FirstChoice ℚ snap req did dev) (best : Best snap req other) :
    snap.deviceOrder.idxOf did ≤ snap.deviceOrder.idxOf other := by
  obtain ⟨dev', passes, greatest⟩ := best
  have tie : score ℚ snap req other dev' = score ℚ snap req did dev :=
    le_antisymm (choice.score_le passes) (greatest did dev choice.passes)
  have behind := choice.first other dev' passes
  rw [Outranks, if_pos (beq_iff_eq.mpr tie)] at behind
  exact not_lt.mp behind

open Classical in
/-- The evaluation goes down the order to the first device with the greatest total. -/
theorem selected_eq_find? {result : EligibilityResult ℚ}
    (evaluated : evaluateOffload ℚ snap req = .ok result) :
    result.selected = snap.deviceOrder.find? fun did => decide (Best snap req did) := by
  rcases outcome_cases (F := ℚ) snap req with ⟨did, dev, choice, -⟩ | ⟨none_passes, -⟩
  · rw [(selected_eq_some_iff evaluated).mpr ⟨dev, choice⟩]
    refine (find?_eq_some_of_first choice.passes.listed (decide_eq_true choice.best) ?_).symm
    intro other best
    exact choice.idxOf_le (of_decide_eq_true best)
  · rw [(selected_eq_none_iff evaluated).mpr none_passes, eq_comm, List.find?_eq_none]
    intro did _ best
    obtain ⟨dev, passes, -⟩ := of_decide_eq_true best
    exact none_passes did dev passes

end Best

/-! ## Registrations -/

namespace Engine

/-- A registration of the record is accepted. -/
def takesIn (e : Engine) (rec : DeviceRecord) : Bool :=
  !rec.deviceId.isNull && !e.state.devices.contains rec.deviceId

theorem step_registerDevice (e : Engine) (rec : DeviceRecord) :
    e.step (.registerDevice rec) =
      if e.takesIn rec then
        { e with
          state := e.state.registerDevice rec
          snap := makeSnapshot (e.state.registerDevice rec) }
      else e := by
  cases named : rec.deviceId.isNull with
  | true => simp [Engine.step, after, exec, registerDevice, takesIn, named]
  | false =>
      cases known : e.state.devices.contains rec.deviceId with
      | true => simp [Engine.step, after, exec, registerDevice, takesIn, named, known]
      | false => simp [Engine.step, after, exec, registerDevice, takesIn, named, known]

/-- Registering the records one after the other. -/
def enroll (e : Engine) (records : List DeviceRecord) : Engine :=
  if records = [] then e
  else
    { e with
      state := records.foldl LiveState.registerDevice e.state
      snap := makeSnapshot (records.foldl LiveState.registerDevice e.state) }

theorem run_registrations {e : Engine} {block : List DeviceRecord}
    (distinct : (block.map (·.deviceId)).Nodup) :
    e.run (block.map .registerDevice) = e.enroll (block.filter e.takesIn) := by
  induction block generalizing e with
  | nil => rfl
  | cons rec rest ih =>
      rw [List.map_cons, List.nodup_cons] at distinct
      obtain ⟨fresh, distinct⟩ := distinct
      change (e.step (.registerDevice rec)).run (rest.map .registerDevice) = _
      rw [ih distinct, step_registerDevice]
      cases taken : e.takesIn rec with
      | false => rw [List.filter_cons_of_neg (by simp [taken]), if_neg (by simp)]
      | true =>
          rw [List.filter_cons_of_pos taken, if_pos rfl]
          have others : ∀ other ∈ rest, takesIn
              { e with
                state := e.state.registerDevice rec
                snap := makeSnapshot (e.state.registerDevice rec) } other = e.takesIn other := by
            intro other listed
            have different : rec.deviceId ≠ other.deviceId := fun same =>
              fresh (same ▸ List.mem_map_of_mem listed)
            have apart : (compare rec.deviceId other.deviceId == .eq) = false :=
              beq_eq_false_iff_ne.mpr fun same => different (Std.LawfulEqCmp.eq_of_compare same)
            simp [takesIn, LiveState.registerDevice, apart]
          rw [List.filter_congr others]
          unfold enroll
          rw [if_neg (List.cons_ne_nil _ _)]
          split
          · next none => rw [none]; rfl
          · rfl

end Engine

/-! ## Registrations in another order -/

namespace LiveState

/-- A live state without what depends on the order of registrations. -/
def unordered (s : LiveState) : LiveState :=
  { s with deviceOrder := [], functionOwner := ∅, portOwner := ∅ }

/-- Registrations of different devices commute, but for the order they leave. -/
theorem unordered_comm (s : LiveState) {one other : DeviceRecord}
    (different : one.deviceId ≠ other.deviceId) :
    ((s.registerDevice one).registerDevice other).unordered =
      ((s.registerDevice other).registerDevice one).unordered := by
  have devices := OrderedMap.insert_comm s.devices different one other
  have ledgers := OrderedMap.insertIfNew_comm s.ledgers different
    ⟨one.resourceCapacity, {}⟩ ⟨other.resourceCapacity, {}⟩
  have usage := OrderedMap.insert_comm s.usage different {} {}
  simp only [unordered, registerDevice, devices, ledgers, usage]

theorem unordered_foldl (s : LiveState) (records : List DeviceRecord) :
    (records.foldl registerDevice s).unordered =
      records.foldl (fun s rec => (s.registerDevice rec).unordered) s.unordered := by
  induction records generalizing s with
  | nil => rfl
  | cons rec rest ih => exact ih (s.registerDevice rec)

theorem deviceOrder_foldl (s : LiveState) (records : List DeviceRecord) :
    (records.foldl registerDevice s).deviceOrder =
      s.deviceOrder ++ records.map (·.deviceId) := by
  induction records generalizing s with
  | nil => simp
  | cons rec rest ih =>
      rw [List.foldl_cons, ih, List.map_cons]
      exact List.append_assoc _ [rec.deviceId] _

theorem rearranged_of_unordered {s s' : LiveState} {first block block' : List DeviceId}
    (same : s'.unordered = s.unordered) (one : s.deviceOrder = first ++ block)
    (other : s'.deviceOrder = first ++ block') : s.Rearranged first block block' s' := by
  have shape : s' = { s with
      deviceOrder := s'.deviceOrder
      functionOwner := s'.functionOwner
      portOwner := s'.portOwner } := by
    cases s
    cases s'
    simpa [unordered] using same
  rw [shape]
  exact @LiveState.Rearranged.intro _ _ _ s [] _ _ _ (by simpa using one) (by simpa using other)

/-- Records of different devices, registered in two orders. -/
theorem rearranged_foldl (s : LiveState) {records records' : List DeviceRecord}
    (distinct : (records.map (·.deviceId)).Nodup) (rearranged : records'.Perm records) :
    (records.foldl registerDevice s).Rearranged s.deviceOrder (records.map (·.deviceId))
      (records'.map (·.deviceId)) (records'.foldl registerDevice s) := by
  refine rearranged_of_unordered ?_ (deviceOrder_foldl s _) (deviceOrder_foldl s _)
  rw [unordered_foldl, unordered_foldl]
  refine rearranged.foldl_eq' (fun one listed other listed' s => ?_) _
  by_cases same : one.deviceId = other.deviceId
  · have equal : one = other := List.inj_on_of_nodup_map distinct
      (rearranged.subset listed) (rearranged.subset listed') same
    rw [equal]
  · exact unordered_comm s same

end LiveState

theorem Engine.enroll_rearranged (e : Engine) {records records' : List DeviceRecord}
    (distinct : (records.map (·.deviceId)).Nodup) (rearranged : records'.Perm records)
    (some : records ≠ []) :
    (e.enroll records).Rearranged e.state.deviceOrder (records.map (·.deviceId))
      (records'.map (·.deviceId)) (e.enroll records') := by
  have some' : records' ≠ [] := fun none =>
    some (List.perm_nil.mp (none ▸ rearranged.symm))
  have states := LiveState.rearranged_foldl e.state distinct rearranged
  rw [enroll, enroll, if_neg some, if_neg some']
  exact ⟨states, states.makeSnapshot, rfl⟩

/-! ## Selections -/

namespace Snapshot

variable {snap snap' : Snapshot} {first block block' : List DeviceId}

theorem Rearranged.orders (snaps : snap.Rearranged first block block' snap') :
    ∃ later, snap.deviceOrder = first ++ block ++ later ∧
      snap'.deviceOrder = first ++ block' ++ later := by
  obtain ⟨one, other⟩ := snaps
  exact ⟨_, one, other⟩

theorem Rearranged.best_iff (snaps : snap.Rearranged first block block' snap')
    (rearranged : block'.Perm block) (req : OffloadRequest) (did : DeviceId) :
    Best snap' req did ↔ Best snap req did := by
  obtain @⟨later, order, one, other⟩ := snaps
  have listed : ∀ did, did ∈ order ↔ did ∈ snap.deviceOrder := by
    intro did
    rw [one, other]
    simp only [List.mem_append, rearranged.mem_iff]
  have passes_iff : ∀ did dev, Passes ℚ { snap with deviceOrder := order } req did dev ↔
      Passes ℚ snap req did dev := by
    intro did dev
    constructor
    · rintro ⟨member, registered, clean⟩
      exact ⟨(listed did).mp member, registered, clean⟩
    · rintro ⟨member, registered, clean⟩
      exact ⟨(listed did).mpr member, registered, clean⟩
  unfold Best
  simp only [passes_iff]
  rfl

end Snapshot

/-- The device that `evaluate` selects, with scores in exact arithmetic. -/
def Engine.selection (e : Engine) (req : OffloadRequest) : Except Fault (Option DeviceId) :=
  (e.evaluate ℚ req).map (·.selected)

open Classical in
theorem Engine.selection_eq (e : Engine) {req : OffloadRequest}
    (bounds : req.minHeadroom ≤ 100 ∧ req.maxQueuePressure ≤ 100) :
    e.selection req = .ok (e.snap.deviceOrder.find? fun did => decide (Best e.snap req did)) := by
  have evaluated : e.evaluate ℚ req = .ok (DPUFabric.outcome ℚ e.snap req) :=
    (evaluateOffload_eq_ok_iff e.snap req _).mpr ⟨bounds, rfl⟩
  rw [selection, evaluated, ← selected_eq_find? evaluated]
  rfl

theorem Engine.selection_refused (e e' : Engine) {req : OffloadRequest}
    (refused : ¬ (req.minHeadroom ≤ 100 ∧ req.maxQueuePressure ≤ 100)) :
    e'.selection req = e.selection req := by
  unfold selection evaluate evaluateOffload
  split_ifs with headroom pressure
  · rfl
  · rfl
  · exact (refused ⟨UInt64.not_lt.mp headroom, UInt64.not_lt.mp pressure⟩).elim

/--
Of the devices in `block` only one has the greatest total, or one that was listed
before them has it too.
-/
def Untied (snap : Snapshot) (req : OffloadRequest) (first block : List DeviceId) : Prop :=
  (∃ did ∈ first, Best snap req did) ∨
    ∀ did ∈ block, ∀ did' ∈ block, Best snap req did → Best snap req did' → did = did'

open Classical in
/-- Records of different devices, all of them accepted, before any further calls. -/
theorem Engine.selection_enroll_iff (e : Engine) {records : List DeviceRecord}
    (distinct : (records.map (·.deviceId)).Nodup) (after : List Op) {req : OffloadRequest}
    (bounds : req.minHeadroom ≤ 100 ∧ req.maxQueuePressure ≤ 100) :
    (∀ records' : List DeviceRecord, records'.Perm records →
      ((e.enroll records').run after).selection req =
        ((e.enroll records).run after).selection req) ↔
    Untied ((e.enroll records).run after).snap req e.state.deviceOrder
      (records.map (·.deviceId)) := by
  by_cases none : records = []
  · subst none
    constructor
    · intro _
      exact .inr fun did listed => by cases listed
    · intro _ records' rearranged
      rw [List.perm_nil.mp rearranged]
  · have snaps : ∀ records' : List DeviceRecord, records'.Perm records →
        Snapshot.Rearranged e.state.deviceOrder (records.map (·.deviceId))
          (records'.map (·.deviceId)) ((e.enroll records).run after).snap
          ((e.enroll records').run after).snap :=
      fun records' rearranged => ((e.enroll_rearranged distinct rearranged none).run after).snap
    generalize reached_eq : (e.enroll records).run after = reached at snaps ⊢
    let best (did : DeviceId) : Bool := decide (Best reached.snap req did)
    obtain ⟨later, listed, -⟩ := (snaps records (.refl _)).orders
    -- The group is one stretch of the final order, and the rest of it is the same.
    have searched : ∀ records' : List DeviceRecord, records'.Perm records →
        ((e.enroll records').run after).selection req =
          .ok ((e.state.deviceOrder ++ records'.map (·.deviceId) ++ later).find? best) := by
      intro records' rearranged
      have same := (snaps records' rearranged).best_iff (rearranged.map _) req
      obtain ⟨later', listed', order⟩ := (snaps records' rearranged).orders
      have rest : later' = later := List.append_cancel_left (listed'.symm.trans listed)
      rw [selection_eq _ bounds, order, rest]
      simp only [same, best]
    have first := searched records (.refl _)
    rw [reached_eq] at first
    have iff := find?_perm_iff best e.state.deviceOrder later (·.deviceId) records
    simp only [best, decide_eq_true_eq] at iff
    rw [Untied, ← iff, first]
    refine forall₂_congr fun records' rearranged => ?_
    rw [searched records' rearranged, Except.ok.injEq]

/-! ## Runs -/

/-- Calls that register a group of devices, one after the other, and others around them. -/
def arrivals (before : List Op) (block : List DeviceRecord) (after : List Op) : List Op :=
  before ++ block.map .registerDevice ++ after

theorem Engine.run_arrivals (e : Engine) (before : List Op) {block : List DeviceRecord}
    (distinct : (block.map (·.deviceId)).Nodup) (after : List Op) :
    e.run (arrivals before block after) =
      ((e.run before).enroll (block.filter (e.run before).takesIn)).run after := by
  rw [arrivals, run_append, run_append, run_registrations distinct]

/--
A group of devices may register in any order without a change to the selection
exactly when at most one of those accepted has the greatest total, or a device
listed before them has it.
-/
theorem selection_any_order_iff (epoch : CoordinatorEpoch) (policy : Policy) (before : List Op)
    (block : List DeviceRecord) (distinct : (block.map (·.deviceId)).Nodup) (after : List Op)
    (req : OffloadRequest) :
    (∀ block' : List DeviceRecord, block'.Perm block →
      ((Engine.fresh epoch policy).run (arrivals before block' after)).selection req =
        ((Engine.fresh epoch policy).run (arrivals before block after)).selection req) ↔
    (req.minHeadroom ≤ 100 → req.maxQueuePressure ≤ 100 →
      Untied ((Engine.fresh epoch policy).run (arrivals before block after)).snap req
        ((Engine.fresh epoch policy).run before).state.deviceOrder
        ((block.filter ((Engine.fresh epoch policy).run before).takesIn).map (·.deviceId))) := by
  generalize Engine.fresh epoch policy = start
  by_cases bounds : req.minHeadroom ≤ 100 ∧ req.maxQueuePressure ≤ 100
  · have accepted_distinct : ((block.filter (start.run before).takesIn).map (·.deviceId)).Nodup :=
      distinct.sublist (List.filter_sublist.map _)
    have accepted_iff := (start.run before).selection_enroll_iff accepted_distinct after bounds
    rw [← Engine.run_arrivals start before distinct after] at accepted_iff
    rw [← and_imp, imp_iff_right bounds, ← accepted_iff]
    constructor
    · intro any records rearranged
      -- The refused records may follow in any order.
      let refused := block.filter fun rec => !(start.run before).takesIn rec
      have whole : (records ++ refused).Perm block :=
        (rearranged.append_right _).trans (List.filter_append_perm _ block)
      have distinct' : ((records ++ refused).map (·.deviceId)).Nodup :=
        (whole.map _).nodup_iff.mpr distinct
      have kept : (records ++ refused).filter (start.run before).takesIn = records := by
        rw [List.filter_append, List.filter_filter]
        have taken : ∀ rec ∈ records, (start.run before).takesIn rec = true :=
          fun rec listed => (List.mem_filter.mp (rearranged.subset listed)).2
        simp [List.filter_eq_self.mpr taken]
      have same := any _ whole
      rwa [Engine.run_arrivals start before distinct' after, kept] at same
    · intro any block' rearranged
      have distinct' : (block'.map (·.deviceId)).Nodup :=
        (rearranged.map _).nodup_iff.mpr distinct
      rw [Engine.run_arrivals start before distinct' after]
      exact any _ (rearranged.filter _)
  · constructor
    · intro _ headroom pressure
      exact (bounds ⟨headroom, pressure⟩).elim
    · intro _ block' _
      exact Engine.selection_refused _ _ bounds

/-- Host processors that differ in their identity only. -/
def twin (id : DeviceId) : DeviceRecord := { hostProcessor with deviceId := id }

/-- Two of them, registered one after the other. -/
def twinEngine (one other : DeviceId) : Engine :=
  (Engine.fresh ⟨1⟩ (Policy.defaults ⟨1⟩)).run (arrivals [] [twin one, twin other] [])

open Classical in
theorem selection_twinEngine {one other : DeviceId}
    (order : (twinEngine one other).snap.deviceOrder = [one, other])
    (listed : (twinEngine one other).snap.devices[one]? = some (twin one))
    (listed' : (twinEngine one other).snap.devices[other]? = some (twin other))
    (clean : rejections ℚ (twinEngine one other).snap {} none one (twin one) = [])
    (tie : score ℚ (twinEngine one other).snap {} other (twin other) =
      score ℚ (twinEngine one other).snap {} one (twin one)) :
    (twinEngine one other).selection {} = .ok (some one) := by
  have best : Best (twinEngine one other).snap {} one := by
    refine ⟨twin one, ⟨by rw [order]; exact List.mem_cons_self, listed, clean⟩, ?_⟩
    intro did dev passes
    have registered := passes.registered
    have member := passes.listed
    rw [order, List.mem_pair] at member
    rcases member with rfl | rfl
    · rw [listed] at registered
      cases registered
      exact le_refl _
    · rw [listed'] at registered
      cases registered
      exact tie.le
  rw [Engine.selection_eq _ ⟨by decide, by decide⟩, order, List.find?_cons_of_pos]
  exact decide_eq_true best

/-- A device that nothing is known of ties with no other one. -/
theorem selection_any_order_iff_unknown :
    ([twin ⟨1⟩, { deviceId := ⟨2⟩ }].map (·.deviceId)).Nodup ∧
      ((Engine.fresh ⟨1⟩ (Policy.defaults ⟨1⟩)).run
          (arrivals [] [{ deviceId := ⟨2⟩ }, twin ⟨1⟩] [])).selection {} =
        ((Engine.fresh ⟨1⟩ (Policy.defaults ⟨1⟩)).run
          (arrivals [] [twin ⟨1⟩, { deviceId := ⟨2⟩ }] [])).selection {} := by
  have distinct : ([twin ⟨1⟩, { deviceId := ⟨2⟩ }].map (·.deviceId)).Nodup := by decide
  refine ⟨distinct, (selection_any_order_iff ⟨1⟩ (Policy.defaults ⟨1⟩) [] _ distinct [] {}).mpr
    (fun _ _ => .inr ?_) _ (List.Perm.swap _ _ _)⟩
  have only : ∀ did : DeviceId, did ∈ [⟨1⟩, ⟨2⟩] →
      Best ((Engine.fresh ⟨1⟩ (Policy.defaults ⟨1⟩)).run
        (arrivals [] [twin ⟨1⟩, { deviceId := ⟨2⟩ }] [])).snap {} did → did = ⟨1⟩ := by
    intro did listed best
    obtain ⟨dev, passes, -⟩ := best
    rcases List.mem_pair.mp listed with rfl | rfl
    · rfl
    · have unknown : dev = { deviceId := ⟨2⟩ } := Option.some.inj passes.registered.symm
      have clean := passes.clean
      rw [unknown] at clean
      exact absurd clean (by decide +kernel)
  intro did listed did' listed' best best'
  rw [only did listed best, only did' listed' best']

/-- Two equal devices: whichever registers first is selected. -/
theorem not_selection_any_order :
    ∃ block block' : List DeviceRecord, (block.map (·.deviceId)).Nodup ∧ block'.Perm block ∧
      ((Engine.fresh ⟨1⟩ (Policy.defaults ⟨1⟩)).run (arrivals [] block [])).selection {} =
        .ok (some ⟨1⟩) ∧
      ((Engine.fresh ⟨1⟩ (Policy.defaults ⟨1⟩)).run (arrivals [] block' [])).selection {} =
        .ok (some ⟨2⟩) := by
  refine ⟨[twin ⟨1⟩, twin ⟨2⟩], [twin ⟨2⟩, twin ⟨1⟩], by decide, List.Perm.swap _ _ _, ?_, ?_⟩
  · exact selection_twinEngine (by decide +kernel) rfl rfl (by decide +kernel) (by decide +kernel)
  · exact selection_twinEngine (by decide +kernel) rfl rfl (by decide +kernel) (by decide +kernel)

end DPUFabric
