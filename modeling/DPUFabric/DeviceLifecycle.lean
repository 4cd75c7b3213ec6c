import DPUFabric.Footprint
import DPUFabric.Recovery

/-!
# The device lifecycle across all calls

Only `transition_device` consults the lifecycle table.  `leaves` is the record
every call leaves of a registered device, refused or not, and from it follows
which of the other writes the table allows.
-/

namespace DPUFabric

open Std
open LiveState

/-! ## One device across one step -/

/-- The record of a device after a new record was offered for some device. -/
def DeviceRecord.accept (id : DeviceId) (dev rec : DeviceRecord) : DeviceRecord :=
  if rec.deviceId = id ∧ id ≠ .null ∧ Engine.conflicts dev rec = false then rec
  else dev

/-- The record that a call, accepted or not, leaves of a registered device. -/
def Op.leaves (op : Op) (id : DeviceId) (dev : DeviceRecord) : DeviceRecord :=
  match op with
  | .updateDevice rec => DeviceRecord.accept id dev rec
  | .runAllBackends discovered => discovered.flatten.foldl (DeviceRecord.accept id) dev
  | .transitionDevice _ lifecycle =>
      if validDeviceTransition dev.lifecycle (.declared lifecycle) then
        op.rewritten id dev
      else dev
  | op => op.rewritten id dev

theorem Accepted.rewritten_eq_leaves
    {s s' : LiveState} {seq seq' : Nat} {op : Op} (accepted : Accepted s seq op s' seq')
    {id : DeviceId} {dev : DeviceRecord} (present : s.devices[id]? = some dev) :
    op.rewritten id dev = op.leaves id dev := by
  cases accepted with
  | updateDevice named known agrees =>
      simp only [Op.rewritten, Op.leaves, DeviceRecord.accept]
      split_ifs with here offered offered
      · rfl
      · subst here
        rw [known] at present
        cases present
        exact absurd ⟨rfl, named, agrees⟩ offered
      · exact absurd offered.1 here
      · rfl
  | transitionDevice known valid =>
      rename_i target lifecycle dev'
      simp only [Op.leaves]
      split_ifs with allowed
      · rfl
      · have elsewhere : target ≠ id := by
          rintro rfl
          rw [known] at present
          cases present
          exact allowed valid
        simp [Op.rewritten, elsewhere]
  | moveDeployment moves => cases op <;> first | rfl | cases moves
  | endDeployment ends => cases op <;> first | rfl | cases ends
  | _ => rfl

theorem Op.leaves_of_refused {op : Op} {s : LiveState} {seq : Nat}
    (plain : op.isPlain = true) (refused : ∀ s' seq', ¬ Accepted s seq op s' seq')
    {id : DeviceId} {dev : DeviceRecord} (present : s.devices[id]? = some dev) :
    op.leaves id dev = dev := by
  cases op with
  | updateDevice rec =>
      rw [Op.leaves, DeviceRecord.accept, if_neg]
      rintro ⟨rfl, named, agrees⟩
      exact refused _ _ (.updateDevice named present agrees)
  | runAllBackends discovered => cases plain
  | retireDevice target =>
      have elsewhere : target ≠ id := by
        rintro rfl
        exact refused _ _ (.retireDevice present)
      simp [Op.leaves, Op.rewritten, elsewhere]
  | transitionDevice target lifecycle =>
      simp only [Op.leaves]
      split_ifs with allowed
      · have elsewhere : target ≠ id := by
          rintro rfl
          exact refused _ _ (.transitionDevice present allowed)
        simp [Op.rewritten, elsewhere]
      · rfl
  | setDeviceState target state cap =>
      have elsewhere : target ≠ id := by
        rintro rfl
        exact refused _ _ (.setDeviceState present)
      simp [Op.leaves, Op.rewritten, elsewhere]
  | fenceDevice target reason =>
      have elsewhere : target ≠ id := by
        rintro rfl
        exact refused _ _ (.fenceDevice present)
      simp [Op.leaves, Op.rewritten, elsewhere]
  | markWorkerLost worker => exact absurd .markWorkerLost (refused _ _)
  | applyRecovery p => exact absurd .applyRecovery (refused _ _)
  | _ => rfl

theorem Engine.plain_device_step (e : Engine) {op : Op} (plain : op.isPlain = true)
    {id : DeviceId} {dev : DeviceRecord} (present : e.state.devices[id]? = some dev) :
    (e.step op).state.devices[id]? = some (op.leaves id dev) := by
  rcases Engine.step_cases e plain with ⟨s, seq, accepted, result⟩ | ⟨refused, quiet⟩
  · rw [result, ← accepted.rewritten_eq_leaves present]
    exact accepted.device_of_present present
  · rw [quiet.state, Op.leaves_of_refused plain refused present, present]

/-- One record of the backend loop is an update of the device it names. -/
theorem Engine.import_device_step (e : Engine) (rec : DeviceRecord)
    {id : DeviceId} {dev : DeviceRecord} (present : e.state.devices[id]? = some dev) :
    (e.importStep rec).state.devices[id]? = some (DeviceRecord.accept id dev rec) := by
  rw [Engine.importStep,
    Engine.plain_device_step e (Engine.importCall_isPlain e rec) present]
  unfold Engine.importCall
  split
  · rfl
  · rename_i unknown
    have elsewhere : rec.deviceId ≠ id := by
      rintro rfl
      exact unknown ((OrderedMap.contains_eq_true_iff _ _).mpr ⟨dev, present⟩)
    simp [Op.leaves, Op.rewritten, DeviceRecord.accept, elsewhere]

/-- A registered device keeps its entry across every call but `recover_from`. -/
theorem Engine.device_step (e : Engine) {op : Op} (ordinary : Engine.recovers op = false)
    {id : DeviceId} {dev : DeviceRecord} (present : e.state.devices[id]? = some dev) :
    (e.step op).state.devices[id]? = some (op.leaves id dev) := by
  cases op with
  | recoverFrom file => cases ordinary
  | runAllBackends discovered =>
      rw [Engine.step_runAllBackends, Op.leaves]
      generalize discovered.flatten = records
      induction records generalizing e dev with
      | nil => exact present
      | cons rec rest ih => exact ih _ (Engine.import_device_step e rec present)
  | _ => exact Engine.plain_device_step e rfl present

/-! ## The table and the other writes -/

/-- The lifecycle after a call is the one before, or one the table allows. -/
def Follows (before after : RawEnum DeviceLifecycle) : Prop :=
  after = before ∨ validDeviceTransition before after = true

instance (before after : RawEnum DeviceLifecycle) : Decidable (Follows before after) :=
  inferInstanceAs (Decidable (_ ∨ _))

/--
Whether the table lets a fence answer this lifecycle: it leads to
`REVALIDATION_REQUIRED`, or it is one the fences leave alone.
-/
def isSettled : RawEnum DeviceLifecycle → Bool
  | .declared .discovered => false
  | .declared .provisioning => false
  | .declared .draining => false
  | .undeclared _ _ => false
  | .declared _ => true

theorem follows_fenced_iff (lifecycle : RawEnum DeviceLifecycle) :
    Follows lifecycle
        (if lifecycle ≠ .declared .retired ∧ lifecycle ≠ .declared .offline ∧
            lifecycle ≠ .declared .failed then
          .declared .revalidationRequired
        else lifecycle) ↔
      isSettled lifecycle = true := by
  cases lifecycle with
  | declared value => cases value <;> decide
  | undeclared code outside => simp [Follows, isSettled, validDeviceTransition]

theorem follows_fencedRecord_iff (reason : Text) (dev : DeviceRecord) :
    Follows dev.lifecycle (fencedRecord reason dev).lifecycle ↔
      isSettled dev.lifecycle = true := by
  rw [← follows_fenced_iff]
  simp only [fencedRecord]
  split_ifs <;> rfl

theorem follows_recoveredRecord_iff (p : RecoveryPolicy) (dev : DeviceRecord) :
    Follows dev.lifecycle (recoveredRecord p dev).lifecycle ↔
      isSettled dev.lifecycle = true := by
  have written : (recoveredRecord p dev).lifecycle =
      if dev.lifecycle ≠ .declared .retired ∧ dev.lifecycle ≠ .declared .offline ∧
          dev.lifecycle ≠ .declared .failed then
        .declared .revalidationRequired
      else dev.lifecycle := by
    by_cases retired : dev.lifecycle = .declared .retired
    · simp [recoveredRecord, retired]
    · by_cases failed : dev.lifecycle = .declared .failed
      · by_cases all : p = .fenceAllDynamic <;> simp [recoveredRecord, failed, all]
      · by_cases offline : dev.lifecycle = .declared .offline
        · by_cases all : p = .fenceAllDynamic <;> simp [recoveredRecord, offline, all]
        · by_cases all : p = .fenceAllDynamic <;>
            simp [recoveredRecord, retired, failed, offline, all]
  rw [written, follows_fenced_iff]

theorem follows_orphaned_iff (worker : WorkerId) (dev : DeviceRecord) :
    Follows dev.lifecycle (orphaned worker dev).lifecycle ↔
      (dev.owningWorker = worker → isSettled dev.lifecycle = true ∧
        dev.lifecycle ≠ .declared .failed ∧ dev.lifecycle ≠ .declared .offline) := by
  by_cases owned : dev.owningWorker = worker
  · have written : (orphaned worker dev).lifecycle =
        if dev.lifecycle ≠ .declared .retired then .declared .revalidationRequired
        else dev.lifecycle := by
      simp only [orphaned, owned, true_and]
      split_ifs <;> rfl
    rw [written]
    simp only [owned, true_imp_iff]
    cases dev.lifecycle with
    | declared value => cases value <;> decide
    | undeclared code outside => simp [Follows, isSettled, validDeviceTransition]
  · simp [orphaned, owned, Follows]

theorem follows_retired_iff (lifecycle : RawEnum DeviceLifecycle) :
    Follows lifecycle (.declared .retired) ↔ ∃ value, lifecycle = .declared value := by
  cases lifecycle with
  | declared value => cases value <;> simp [Follows, validDeviceTransition]
  | undeclared code outside => simp [Follows, validDeviceTransition]

/--
The table governs a step: every registered device keeps its entry, with a
lifecycle that follows.  Recovery replaces the tables, and then the demand is
that a retired device stays retired.
-/
def Governs (e : Engine) (op : Op) : Prop :=
  ∀ (id : DeviceId) (dev : DeviceRecord), e.state.devices[id]? = some dev →
    ∃ dev', (e.step op).state.devices[id]? = some dev' ∧
      if Engine.recovers op then
        dev.lifecycle = .declared .retired → dev'.lifecycle = .declared .retired
      else Follows dev.lifecycle dev'.lifecycle

/-- What the writes beside `transition_device` must find for the table to allow them. -/
def LifecycleCondition (e : Engine) : Op → Prop
  | .updateDevice rec =>
      ∀ dev, e.state.devices[rec.deviceId]? = some dev → rec.deviceId ≠ .null →
        Engine.conflicts dev rec = false → Follows dev.lifecycle rec.lifecycle
  | .runAllBackends discovered =>
      ∀ (id : DeviceId) (dev : DeviceRecord), e.state.devices[id]? = some dev →
        Follows dev.lifecycle
          (discovered.flatten.foldl (DeviceRecord.accept id) dev).lifecycle
  | .retireDevice id =>
      ∀ dev, e.state.devices[id]? = some dev → ∃ value, dev.lifecycle = .declared value
  | .fenceDevice id _ =>
      ∀ dev, e.state.devices[id]? = some dev → isSettled dev.lifecycle = true
  | .markWorkerLost worker =>
      ∀ (id : DeviceId) (dev : DeviceRecord), e.state.devices[id]? = some dev →
        dev.owningWorker = worker → isSettled dev.lifecycle = true ∧
          dev.lifecycle ≠ .declared .failed ∧ dev.lifecycle ≠ .declared .offline
  | .applyRecovery _ =>
      ∀ (id : DeviceId) (dev : DeviceRecord), e.state.devices[id]? = some dev →
        isSettled dev.lifecycle = true
  | .recoverFrom file =>
      ∀ (id : DeviceId) (dev rec : DeviceRecord), e.state.devices[id]? = some dev →
        dev.lifecycle = .declared .retired →
          (Persistence.records file).devices[id]? = some rec →
            rec.lifecycle = .declared .retired
  | _ => True

/-- A call whose record follows for every device it names, and for no other changes anything. -/
theorem governs_iff_leaves (e : Engine) {op : Op} (ordinary : Engine.recovers op = false) :
    Governs e op ↔
      ∀ (id : DeviceId) (dev : DeviceRecord), e.state.devices[id]? = some dev →
        Follows dev.lifecycle (op.leaves id dev).lifecycle := by
  refine forall₃_congr fun id dev present => ?_
  rw [Engine.device_step e ordinary present, ordinary]
  simp

theorem forall_device_iff {e : Engine} {target : DeviceId}
    {claimed : DeviceRecord → Prop} {allowed : DeviceRecord → Prop}
    (here : ∀ dev, claimed dev ↔ allowed dev) :
    (∀ (id : DeviceId) (dev : DeviceRecord), e.state.devices[id]? = some dev →
        target = id → claimed dev) ↔
      ∀ dev, e.state.devices[target]? = some dev → allowed dev := by
  constructor
  · intro all dev present
    exact (here dev).mp (all target dev present rfl)
  · rintro all id dev present rfl
    exact (here dev).mpr (all dev present)

theorem fenceRecoveredDevice_retired_iff (dev : DeviceRecord) :
    (Persistence.fenceRecoveredDevice dev).lifecycle = .declared .retired ↔
      dev.lifecycle = .declared .retired := by
  simp only [Persistence.fenceRecoveredDevice]
  split_ifs with moves
  · simp [moves.1]
  · rfl

/--
A table of records laid over the devices keeps the retired ones exactly when its
records are retired.
-/
theorem overlay_keepsRetired_iff {base own out : LiveState}
    (overlay : Persistence.Overlay base own out) :
    (∀ (id : DeviceId) (dev : DeviceRecord), base.devices[id]? = some dev →
        ∃ dev', out.devices[id]? = some dev' ∧
          (dev.lifecycle = .declared .retired → dev'.lifecycle = .declared .retired)) ↔
      ∀ (id : DeviceId) (dev rec : DeviceRecord), base.devices[id]? = some dev →
        dev.lifecycle = .declared .retired → own.devices[id]? = some rec →
          rec.lifecycle = .declared .retired := by
  constructor
  · intro keeps id dev rec present retired recorded
    obtain ⟨dev', present', stays⟩ := keeps id dev present
    rw [overlay.devices, recorded] at present'
    cases present'
    exact stays retired
  · intro condition id dev present
    rw [overlay.devices]
    cases recorded : own.devices[id]? with
    | none => exact ⟨dev, by simp [present], fun retired => retired⟩
    | some rec =>
        exact ⟨rec, by simp, fun retired => condition id dev rec present retired recorded⟩

theorem governs_recoverFrom_iff (e : Engine) (file : Option (List UInt8)) :
    Governs e (.recoverFrom file) ↔ LifecycleCondition e (.recoverFrom file) := by
  unfold Governs LifecycleCondition
  simp only [Engine.recovers, if_true]
  cases recoverFrom_cases file e with
  | missing absent result =>
      subst absent
      rw [result]
      exact overlay_keepsRetired_iff (Persistence.Overlay.refl e.state)
  | rejected empty wellFormed result =>
      rw [result, empty]
      exact overlay_keepsRetired_iff (Persistence.Overlay.refl e.state)
  | malformed malformed overlay thrown result =>
      rw [result]
      exact overlay_keepsRetired_iff overlay
  | accepted wellFormed overlay result =>
      rw [result, ← overlay_keepsRetired_iff overlay]
      refine forall₃_congr fun id dev present => ?_
      rw [rebuildLedgers_eq]
      simp only [Persistence.fenceRecovered, ExtTreeMap.getElem?_map]
      constructor
      · rintro ⟨dev', present', stays⟩
        obtain ⟨rec, found, rfl⟩ := Option.map_eq_some_iff.mp present'
        rw [fenceRecoveredDevice_retired_iff] at stays
        exact ⟨rec, found, stays⟩
      · rintro ⟨rec, found, stays⟩
        refine ⟨Persistence.fenceRecoveredDevice rec, by rw [found]; rfl, ?_⟩
        rw [fenceRecoveredDevice_retired_iff]
        exact stays

/-- A step is governed by the table exactly when its condition holds. -/
theorem governs_iff (e : Engine) (op : Op) : Governs e op ↔ LifecycleCondition e op := by
  cases op with
  | recoverFrom file => exact governs_recoverFrom_iff e file
  | updateDevice rec =>
      rw [governs_iff_leaves e rfl]
      constructor
      · intro all dev present named agrees
        have follows := all rec.deviceId dev present
        rwa [Op.leaves, DeviceRecord.accept, if_pos ⟨rfl, named, agrees⟩] at follows
      · intro condition id dev present
        simp only [Op.leaves, DeviceRecord.accept]
        split_ifs with offered
        · obtain ⟨rfl, named, agrees⟩ := offered
          exact condition dev present named agrees
        · exact Or.inl rfl
  | runAllBackends discovered => exact governs_iff_leaves e rfl
  | retireDevice target =>
      rw [governs_iff_leaves e rfl, LifecycleCondition,
        ← forall_device_iff fun dev => follows_retired_iff dev.lifecycle]
      refine forall₃_congr fun id dev present => ?_
      simp only [Op.leaves, Op.rewritten]
      split_ifs with here <;> simp [here, Follows]
  | transitionDevice target lifecycle =>
      rw [governs_iff_leaves e rfl]
      refine iff_of_true (fun id dev present => ?_) trivial
      simp only [Op.leaves, Op.rewritten]
      split_ifs with allowed here
      · exact Or.inr allowed
      · exact Or.inl rfl
      · exact Or.inl rfl
  | setDeviceState target state cap =>
      rw [governs_iff_leaves e rfl]
      refine iff_of_true (fun id dev present => Or.inl ?_) trivial
      simp only [Op.leaves, Op.rewritten]
      split_ifs <;> rfl
  | fenceDevice target reason =>
      rw [governs_iff_leaves e rfl, LifecycleCondition,
        ← forall_device_iff fun dev => follows_fencedRecord_iff reason dev]
      refine forall₃_congr fun id dev present => ?_
      simp only [Op.leaves, Op.rewritten]
      split_ifs with here <;> simp [here, Follows]
  | markWorkerLost worker =>
      rw [governs_iff_leaves e rfl]
      exact forall₃_congr fun id dev present => follows_orphaned_iff worker dev
  | applyRecovery p =>
      rw [governs_iff_leaves e rfl]
      exact forall₃_congr fun id dev present => follows_recoveredRecord_iff p dev
  | _ =>
      rw [governs_iff_leaves e rfl]
      exact iff_of_true (fun id dev present => Or.inl rfl) trivial

/-! ## Whole runs -/

/-- Where the table governs a step, a retired device stays retired. -/
theorem Governs.keepsRetired {e : Engine} {op : Op} (governs : Governs e op)
    {id : DeviceId}
    (retired : ∃ dev, e.state.devices[id]? = some dev ∧ dev.lifecycle = .declared .retired) :
    ∃ dev, (e.step op).state.devices[id]? = some dev ∧
      dev.lifecycle = .declared .retired := by
  obtain ⟨dev, present, isRetired⟩ := retired
  obtain ⟨dev', present', follows⟩ := governs id dev present
  refine ⟨dev', present', ?_⟩
  split_ifs at follows
  · exact follows isRetired
  · rw [isRetired] at follows
    rcases follows with same | allowed
    · exact same
    · rw [not_validDeviceTransition_of_retired] at allowed
      cases allowed

/-- A retired device that a backend or a worker reports again. -/
def rediscoveredRun : List Op := [.registerDevice Engine.sampleDevice, .retireDevice ⟨1⟩]

/-- A record update takes a retired device back to `READY`. -/
theorem update_revivesRetired :
    ¬ Governs (Engine.run Engine.sampleEngine rediscoveredRun)
      (.updateDevice Engine.sampleDevice) := by
  intro governs
  have retired : ((Engine.run Engine.sampleEngine rediscoveredRun).state.devices[
      (⟨1⟩ : DeviceId)]?.map (·.lifecycle)) = some (.declared .retired) := by
    decide
  have revived : (((Engine.run Engine.sampleEngine rediscoveredRun).step
      (.updateDevice Engine.sampleDevice)).state.devices[(⟨1⟩ : DeviceId)]?.map
        (·.lifecycle)) = some (.declared .ready) := by
    decide
  obtain ⟨dev, present, isRetired⟩ := Option.map_eq_some_iff.mp retired
  obtain ⟨dev', present', stays⟩ := governs.keepsRetired ⟨dev, present, isRetired⟩
  rw [present', Option.map_some, stays] at revived
  exact absurd revived (by decide)

/--
In every run, the table governs every step exactly when the writes beside
`transition_device` find a lifecycle that may lead to what they write; and
along a run of such steps a retired device stays retired.
-/
theorem deviceLifecycle_governed_iff (epoch : CoordinatorEpoch) (policy : Policy)
    (ops : List Op) :
    (TransitionRun.Every Engine.step Governs (Engine.fresh epoch policy) ops ↔
        TransitionRun.Every Engine.step LifecycleCondition
          (Engine.fresh epoch policy) ops) ∧
      (TransitionRun.Every Engine.step LifecycleCondition
          (Engine.fresh epoch policy) ops →
        ∀ before after, ops = before ++ after → ∀ id : DeviceId,
          (∃ dev, (Engine.run (Engine.fresh epoch policy) before).state.devices[id]? =
              some dev ∧ dev.lifecycle = .declared .retired) →
            ∃ dev, (Engine.run (Engine.fresh epoch policy) ops).state.devices[id]? =
              some dev ∧ dev.lifecycle = .declared .retired) := by
  refine ⟨TransitionRun.every_congr governs_iff _ _, ?_⟩
  rintro every before after rfl id retired
  rw [TransitionRun.every_append] at every
  rw [Engine.run, TransitionRun.run_append]
  exact TransitionRun.run_invariant
    (fun e : Engine => ∃ dev, e.state.devices[id]? = some dev ∧
      dev.lifecycle = .declared .retired)
    (fun e op condition => Governs.keepsRetired ((governs_iff e op).mpr condition))
    retired every.2

end DPUFabric
