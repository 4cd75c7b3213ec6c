import DPUFabric.Conservation
import DPUFabric.Incarnations

/-!
# What a recovery makes of the accounting

Deployments are recovered with the resources they hold, and the ledgers are built
anew, empty.  So the ledgers of a recovered engine hold what its deployments hold
only if those hold nothing.
-/

namespace DPUFabric

open Std
open LiveState
open Persistence

namespace Snapshot

variable {s : Snapshot}

/-- Every device of a recovered engine has an empty ledger. -/
theorem recovered_ledgers (s : Snapshot) (base : Policy) :
    (s.recovered base).ledgers = s.devices.map fun _ d => ⟨d.resourceCapacity, {}⟩ := by
  change (s.restored base).rebuildLedgers.ledgers = (s.restored base).ledgers
  refine OrderedMap.sweep_invariant
    (fun reached : LiveState => reached.ledgers = (s.restored base).ledgers) rfl ?_
  intro reached did dev present same
  change (s.devices.map fun _ d => fenceRecoveredDevice d.rekeyed)[did]? = some dev at present
  rw [ExtTreeMap.getElem?_map, Option.map_eq_some_iff] at present
  rcases present with ⟨d, present, -⟩
  have ledgered : (s.restored base).ledgers[did]? = some ⟨d.resourceCapacity, {}⟩ := by
    change (s.devices.map fun _ d => (⟨d.resourceCapacity, {}⟩ : ResourceLedger))[did]? = _
    rw [ExtTreeMap.getElem?_map, present]
    rfl
  change reached.ledgers.insertIfNew did _ = _
  rw [same, OrderedMap.insertIfNew_of_present ledgered]

/-- The fencing of a recovery does not end a deployment's hold on its resources. -/
theorem fenceRecoveredDeployment_charge (dep : Deployment) (device : DeviceId)
    (dim : Dimension) :
    (fenceRecoveredDeployment dep).charge device dim = dep.charge device dim := by
  have holds : (fenceRecoveredDeployment dep).state.holds = dep.state.holds := by
    rw [fenceRecoveredDeployment_eq]
    change DeploymentState.holds (if _ then _ else _) = _
    split_ifs with running
    · rcases running with state | state | state <;> rw [state] <;> rfl
    · rfl
  refine charge_congr _ dep ?_ ?_ holds device dim
  · rw [fenceRecoveredDeployment_eq]
  · rw [fenceRecoveredDeployment_eq]

/-- So as much is held of a device as before. -/
theorem recovered_held (s : Snapshot) (base : Policy) (device : DeviceId) (dim : Dimension) :
    (s.recovered base).held device dim =
      OrderedMap.total (fun _ dep => dep.charge device dim) s.deployments := by
  unfold LiveState.held
  rw [recovered_deployments, OrderedMap.total_map]
  simp only [fenceRecoveredDeployment_charge]

/-- No deployment on a registered device holds anything. -/
def HoldsNothing (s : Snapshot) : Prop :=
  ∀ (id : DeploymentId) (dep : Deployment), s.deployments[id]? = some dep →
    dep.state.holds = true → s.devices.contains dep.device = true →
      ∀ dim, (dep.resources.amount dim).toNat = 0

/-- Nothing is held of the registered devices exactly if every charge is zero. -/
theorem holdsNothing_iff (s : Snapshot) :
    s.HoldsNothing ↔ ∀ (device : DeviceId) (d : DeviceRecord), s.devices[device]? = some d →
      ∀ dim, OrderedMap.total (fun _ dep => dep.charge device dim) s.deployments = 0 := by
  constructor
  · intro nothing device d found dim
    refine OrderedMap.total_eq_zero_iff.mpr fun id dep present => ?_
    unfold Deployment.charge
    split_ifs with holding
    · refine nothing id dep present holding.2 ?_ dim
      rw [holding.1]
      exact (OrderedMap.contains_eq_true_iff _ _).mpr ⟨d, found⟩
    · rfl
  · intro weightless id dep present holds located dim
    rcases (OrderedMap.contains_eq_true_iff _ _).mp located with ⟨d, found⟩
    have charge := OrderedMap.total_eq_zero_iff.mp (weightless dep.device d found dim) id dep
      present
    rwa [Deployment.charge, if_pos ⟨rfl, holds⟩] at charge

/-- The empty ledgers hold what the recovered deployments hold only if that is nothing. -/
theorem recovered_conserved_iff (s : Snapshot) (base : Policy) :
    Conserved (s.recovered base) ↔ s.HoldsNothing := by
  have unused : ∀ (d : DeviceRecord) (dim : Dimension),
      ((⟨d.resourceCapacity, {}⟩ : ResourceLedger).used.amount dim).toNat = 0 := by
    intro d dim
    cases dim <;> rfl
  have ledger : ∀ (device : DeviceId) (d : DeviceRecord), s.devices[device]? = some d →
      (s.recovered base).ledgers[device]? = some ⟨d.resourceCapacity, {}⟩ := by
    intro device d found
    rw [recovered_ledgers, ExtTreeMap.getElem?_map, found]
    rfl
  rw [holdsNothing_iff]
  constructor
  · intro conserved device d found dim
    have recorded : (s.recovered base).devices[device]? =
        some (fenceRecoveredDevice d.rekeyed) := by
      rw [recovered_devices, ExtTreeMap.getElem?_map, found]
      rfl
    rcases conserved device _ recorded with ⟨empty, ledgered, balance⟩
    rw [ledger device d found] at ledgered
    cases ledgered
    rw [← recovered_held s base, ← balance dim, unused]
  · intro weightless device dev recorded
    rw [recovered_devices, ExtTreeMap.getElem?_map, Option.map_eq_some_iff] at recorded
    rcases recorded with ⟨d, found, -⟩
    refine ⟨_, ledger device d found, fun dim => ?_⟩
    rw [recovered_held, weightless device d found dim, unused]

end Snapshot

/--
Whatever incarnations did before, an engine that recovers from what a process
persisted accounts for the recovered deployments exactly if none of them holds
anything.
-/
theorem recovered_resources_conserved_iff (events : List Event) {e e' : Engine}
    (running : (World.empty.run events).engine = some e) {file : List UInt8}
    (saved : serialize e.snap = .ok file) (epoch : CoordinatorEpoch) (policy : Policy)
    (recovered : Engine.recoverFrom (some file) (Engine.fresh epoch policy) = .ok true e') :
    Conserved e'.state ↔ e.snap.HoldsNothing := by
  have coherent := (World.sound_run events).engine e running
  have storable := (Engine.recoverFrom_succeeds_iff coherent.snap.devicesCounted saved epoch policy).mp
    ⟨e', recovered⟩
  rw [Engine.recoverFrom_saved coherent.snap saved storable] at recovered
  cases recovered
  exact e.snap.recovered_conserved_iff policy

/-- A device with a reservation that asks for nothing. -/
def weightlessRun : List Op :=
  [.registerDevice Engine.sampleDevice,
    .reserveDeployment { resource := { slots := 0, contexts := 0 } } (some ⟨1⟩)]

theorem recovered_resources_conserved_iff_sample :
    ∃ file e', serialize (Engine.sampleEngine.run weightlessRun).snap = .ok file ∧
      Engine.recoverFrom (some file) (Engine.fresh ⟨1⟩ {}) = .ok true e' ∧
      (e'.state.deployments[(⟨1⟩ : DeploymentId)]?.map fun dep =>
        (dep.device, dep.state.holds)) = some (⟨1⟩, true) ∧
      Conserved e'.state := by
  have plain : ∀ op ∈ weightlessRun, Engine.recovers op = false := by
    decide
  have consistent := Engine.consistent_run ⟨1⟩ (Policy.defaults ⟨1⟩) plain
  rcases (serialize_ok_iff consistent.devicesCounted).mpr (by decide) with ⟨file, saved⟩
  have recovered := Engine.recoverFrom_saved consistent saved (by decide) ⟨1⟩ {}
  have running := congrArg World.engine (World.run_sampleProcess plain)
  have weightless : ∀ entry ∈ (Engine.sampleEngine.run weightlessRun).snap.deployments.toList,
      entry.2.resources = { slots := 0, contexts := 0 } := by
    decide
  refine ⟨file, _, saved, recovered, by decide,
    (recovered_resources_conserved_iff _ running saved ⟨1⟩ {} recovered).mpr ?_⟩
  intro id dep present holds located dim
  rw [weightless (id, dep) (ExtTreeMap.mem_toList_iff_getElem?_eq_some.mpr present)]
  cases dim <;> rfl

/-- The deployment that is active before the restart holds a slot of an empty ledger. -/
theorem recovered_resources_forgotten :
    ∃ events e file e', (World.empty.run events).engine = some e ∧
      serialize e.snap = .ok file ∧
      Engine.recoverFrom (some file) (Engine.fresh ⟨1⟩ {}) = .ok true e' ∧
      ¬ Conserved e'.state := by
  have plain : ∀ op ∈ Engine.sampleRun, Engine.recovers op = false := by
    decide
  have consistent := Engine.consistent_run ⟨1⟩ (Policy.defaults ⟨1⟩) plain
  rcases (serialize_ok_iff consistent.devicesCounted).mpr (by decide) with ⟨file, saved⟩
  have recovered := Engine.recoverFrom_saved consistent saved (by decide) ⟨1⟩ {}
  refine ⟨_, _, file, _, congrArg World.engine (World.run_sampleProcess plain), saved,
    recovered, ?_⟩
  rw [Engine.successor, Snapshot.recovered_conserved_iff]
  intro nothing
  have present : ((Engine.run Engine.sampleEngine Engine.sampleRun).snap.deployments[
      (⟨1⟩ : DeploymentId)]?.map fun dep => (dep.device, dep.state.holds,
        dep.resources.slots)) = some (⟨1⟩, true, 1) := by
    decide
  rw [Option.map_eq_some_iff] at present
  rcases present with ⟨dep, present, fields⟩
  simp only [Prod.mk.injEq] at fields
  rcases fields with ⟨device, holds, slots⟩
  have none := nothing ⟨1⟩ dep present holds (by rw [device]; decide) .slots
  change dep.resources.slots.toNat = 0 at none
  rw [slots] at none
  exact absurd none (by decide)

end DPUFabric
