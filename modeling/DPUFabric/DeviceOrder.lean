import DPUFabric.Recovery
import DPUFabric.RoundTrip
import DPUFabric.Publication
import DPUFabric.HardConstraints

/-!
# The device order

The order of the devices is kept beside their table.  A registration extends both, and
refuses a device that is there.  A recovery appends every identity of the file to the
order, but overwrites the record of a device that is there.  So the order enumerates
the table exactly as long as each recovered file lists new devices, each of them once.
-/

namespace DPUFabric

open Std
open Persistence
open Wire

/-! ## What the order is used for -/

/-- The reports name the devices in their order. -/
theorem candidateReports_devices {F : Type} [ScoreArith F] {snap : Snapshot}
    (enumerates : Enumerates snap.deviceOrder snap.devices) (req : OffloadRequest)
    (svc : Option ServiceDefinition) :
    (candidateReports F snap req svc).map (·.device) = snap.deviceOrder := by
  have found : ∀ id ∈ snap.deviceOrder, ∃ d, snap.devices[id]? = some d :=
    fun id member => (enumerates.listed id).mp member
  unfold candidateReports
  generalize snap.deviceOrder = order at found
  induction order with
  | nil => rfl
  | cons id rest ih =>
      obtain ⟨d, present⟩ := found id List.mem_cons_self
      have later := ih fun other member => found other (List.mem_cons_of_mem _ member)
      rw [List.filterMap_cons, present]
      simpa [candidateReport] using later

/--
The order enumerates the devices, for clients and for readers: an evaluation reports
each device once, and a save writes as many records as it says.
-/
structure DevicesEnumerated (e : Engine) : Prop where
  live : Enumerates e.state.deviceOrder e.state.devices
  published : Enumerates e.snap.deviceOrder e.snap.devices
  reports : ∀ (F : Type) [ScoreArith F] (req : OffloadRequest) (result : EligibilityResult F),
    e.evaluate F req = .ok result → Enumerates (result.candidates.map (·.device)) e.snap.devices
  count : e.snap.orderedDevices.length = e.snap.devices.size
  saves : writeDevices e.snap = Writer.counted writeDevice e.snap.orderedDevices

theorem devicesEnumerated_iff (e : Engine) :
    DevicesEnumerated e ↔ Enumerates e.state.deviceOrder e.state.devices ∧
      Enumerates e.snap.deviceOrder e.snap.devices := by
  constructor
  · intro enumerated
    exact ⟨enumerated.live, enumerated.published⟩
  · rintro ⟨live, published⟩
    refine ⟨live, published, ?_, Snapshot.length_orderedDevices published,
      writeDevices_eq_counted (Snapshot.length_orderedDevices published)⟩
    intro F _ req result evaluated
    obtain ⟨-, rfl⟩ := (evaluateOffload_eq_ok_iff e.snap req result).mp evaluated
    rw [outcome_candidates, candidateReports_devices published]
    exact published

/-! ## Recoveries -/

/-- The devices after a load: the order of the file behind the one there was. -/
structure Appended (base own out : LiveState) : Prop where
  order : out.deviceOrder = base.deviceOrder ++ own.deviceOrder
  devices : ∀ id : DeviceId, out.devices[id]? = own.devices[id]?.or base.devices[id]?
  listed : ∀ id : DeviceId, id ∈ own.deviceOrder ↔ ∃ d, own.devices[id]? = some d

theorem Appended.refl (base : LiveState) : Appended base {} base := by
  constructor <;> simp

theorem appended_write {base own out : LiveState} {change : LiveState → LiveState}
    (writes : ParserWrite change) (appended : Appended base own out) :
    Appended base (change own) (change out) := by
  cases writes with
  | device d =>
      constructor
      · change out.deviceOrder ++ [d.deviceId] = _
        rw [appended.order, List.append_assoc]
      · intro id
        simp only [OrderedMap.lookup_insert]
        split_ifs
        · rfl
        · exact appended.devices id
      · intro id
        simp only [OrderedMap.lookup_insert, List.mem_append, List.mem_singleton,
          appended.listed]
        split_ifs with same
        · simp [same]
        · simp [Ne.symm same]
  | _ => exact { appended with }

/-- The file lists each of its devices once, and none that is registered. -/
structure ListsNewDevices (s : LiveState) (file : Option (List UInt8)) : Prop where
  once : (records file).deviceOrder.Nodup
  new : ∀ id ∈ (records file).deviceOrder, s.devices[id]? = none

theorem listsNewDevices_of_empty {s : LiveState} {file : Option (List UInt8)}
    (empty : records file = {}) : ListsNewDevices s file := by
  constructor <;> simp [empty]

theorem Appended.enumerates_iff {s out : LiveState} {file : Option (List UInt8)}
    (appended : Appended s (records file) out)
    (enumerates : Enumerates s.deviceOrder s.devices) :
    Enumerates out.deviceOrder out.devices ↔ ListsNewDevices s file := by
  have listed : ∀ id : DeviceId, id ∈ out.deviceOrder ↔ ∃ d, out.devices[id]? = some d := by
    intro id
    rw [appended.order, appended.devices, List.mem_append, enumerates.listed, appended.listed]
    cases (records file).devices[id]? <;> simp
  have unlisted : ∀ id : DeviceId, id ∉ s.deviceOrder ↔ s.devices[id]? = none := by
    intro id
    rw [enumerates.listed, not_exists, Option.eq_none_iff_forall_ne_some]
  constructor
  · intro after
    have nodup := after.nodup
    rw [appended.order, List.nodup_append] at nodup
    obtain ⟨-, once, apart⟩ := nodup
    exact ⟨once, fun id member => (unlisted id).mp fun old => apart id old id member rfl⟩
  · intro lists
    refine ⟨?_, listed⟩
    rw [appended.order, List.nodup_append]
    refine ⟨enumerates.nodup, lists.once, ?_⟩
    rintro id old other member rfl
    exact (unlisted id).mpr (lists.new id member) old

theorem enumerates_recovered_iff (out : LiveState) :
    Enumerates (fenceRecovered out).rebuildLedgers.deviceOrder
        (fenceRecovered out).rebuildLedgers.devices ↔
      Enumerates out.deviceOrder out.devices := by
  rw [LiveState.rebuildLedgers_eq]
  have same : ∀ id : DeviceId, (∃ d, (fenceRecovered out).devices[id]? = some d) ↔
      ∃ d, out.devices[id]? = some d := by
    intro id
    simp [fenceRecovered]
  constructor
  · rintro ⟨nodup, listed⟩
    exact ⟨nodup, fun id => (listed id).trans (same id)⟩
  · rintro ⟨nodup, listed⟩
    exact ⟨nodup, fun id => (listed id).trans (same id).symm⟩

/-! ## Runs -/

/-- A recovery reads a file that lists new devices. -/
def KeepsOrder (e : Engine) : Op → Prop
  | .recoverFrom file => ListsNewDevices e.state file
  | _ => True

theorem DevicesEnumerated.ordinary {e : Engine} {op : Op}
    (ordinary : Engine.recovers op = false) (enumerated : DevicesEnumerated e) :
    DevicesEnumerated (e.step op) := by
  refine Engine.step_invariant DevicesEnumerated ?_ ordinary enumerated
  intro e op plain enumerated
  rw [devicesEnumerated_iff]
  rcases Engine.step_cases e plain with ⟨s, seq, accepted, result⟩ | ⟨-, quiet⟩
  · rw [result]
    have enumerates := accepted.enumerates enumerated.live
    exact ⟨enumerates, enumerates⟩
  · rw [quiet.state, quiet.snap]
    exact ⟨enumerated.live, enumerated.published⟩

theorem devicesEnumerated_step_iff {e : Engine} (op : Op) (enumerated : DevicesEnumerated e) :
    DevicesEnumerated (e.step op) ↔ KeepsOrder e op := by
  cases ordinary : Engine.recovers op with
  | false =>
      have kept := enumerated.ordinary ordinary
      cases op <;> first | exact iff_of_true kept trivial | cases ordinary
  | true =>
      cases op <;> try cases ordinary
      rename_i file
      change _ ↔ ListsNewDevices e.state file
      rw [devicesEnumerated_iff]
      cases recoverFrom_cases_related (fun writes _ _ => appended_write writes)
        (Appended.refl e.state) file with
      | missing absent result =>
          rw [result]
          refine iff_of_true ⟨enumerated.live, enumerated.live⟩ (listsNewDevices_of_empty ?_)
          rw [absent]
          rfl
      | rejected empty wellFormed result =>
          rw [result]
          exact iff_of_true ⟨enumerated.live, enumerated.published⟩
            (listsNewDevices_of_empty empty)
      | malformed malformed appended thrown result =>
          rw [result, ← appended.enumerates_iff enumerated.live]
          exact and_iff_left enumerated.published
      | accepted wellFormed appended result =>
          rw [result, ← appended.enumerates_iff enumerated.live]
          exact and_self_iff.trans (enumerates_recovered_iff _)

/--
The order enumerates the devices at every point of a run exactly when each file that
the run recovers lists new devices, each of them once.
-/
theorem devicesEnumerated_run_iff (epoch : CoordinatorEpoch) (policy : Policy)
    (ops : List Op) :
    (∀ reached, reached <+: ops →
      DevicesEnumerated ((Engine.fresh epoch policy).run reached)) ↔
    TransitionRun.Every Engine.step KeepsOrder (Engine.fresh epoch policy) ops := by
  have start : DevicesEnumerated (Engine.fresh epoch policy) := by
    rw [devicesEnumerated_iff]
    constructor <;> constructor <;> simp [Engine.fresh, makeSnapshot]
  rw [TransitionRun.forall_prefix_iff DevicesEnumerated, and_iff_right start]
  exact TransitionRun.every_iff_of_invariant DevicesEnumerated
    (fun _ op enumerated => devicesEnumerated_step_iff op enumerated)
    (fun _ _ kept _ => kept) start ops

/-- One device is registered. -/
def registeredEngine : Engine := Engine.sampleEngine.run [.registerDevice Engine.sampleDevice]

/-- An engine that recovers the file it persisted lists its device twice. -/
theorem not_devicesEnumerated :
    ∃ file, serialize registeredEngine.snap = .ok file ∧
      (registeredEngine.step (.recoverFrom (some file))).snap.deviceOrder = [⟨1⟩, ⟨1⟩] ∧
      (registeredEngine.step (.recoverFrom (some file))).snap.devices.size = 1 ∧
      ¬ DevicesEnumerated (registeredEngine.step (.recoverFrom (some file))) := by
  have consistent : registeredEngine.snap.Consistent :=
    @Engine.consistent_run ⟨1⟩ (Policy.defaults ⟨1⟩) [.registerDevice Engine.sampleDevice]
      (by decide)
  obtain ⟨file, saved⟩ := (serialize_ok_iff consistent.devicesCounted).mpr (by decide)
  have loaded := load_saved consistent.devicesCounted saved (by decide) registeredEngine.state
  have order : (registeredEngine.step (.recoverFrom (some file))).snap.deviceOrder =
      [⟨1⟩, ⟨1⟩] := by
    rw [Engine.step_recoverFrom_of_ok loaded, if_pos rfl, LiveState.rebuildLedgers_eq]
    rfl
  have size : (registeredEngine.step (.recoverFrom (some file))).snap.devices.size = 1 := by
    rw [Engine.step_recoverFrom_of_ok loaded, if_pos rfl, LiveState.rebuildLedgers_eq]
    rfl
  refine ⟨file, saved, order, size, fun enumerated => ?_⟩
  have nodup := enumerated.published.nodup
  rw [order] at nodup
  exact absurd nodup (by decide)

end DPUFabric
