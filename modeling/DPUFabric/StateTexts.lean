import DPUFabric.DeclaredEnums
import DPUFabric.Routing

/-!
# What the peers send can be saved

`save` refuses strings of more than a mebibyte.  No peer gets one past the coordinator:
its reader refuses them too, and the other records are those that `main` makes itself.
So a process that started without a state file can save at any time.
-/

namespace DPUFabric

open Std
open Exceptions
open LiveState (orphaned)
open DPUFabric.Wire
open DPUFabric.Persistence
open DPUFabric.Proto
open DPUFabric.Mp
open DPUFabric.Mpproto

/-! ## The reader of a device -/

theorem yields_str : Yields str IsShort := by
  unfold str
  refine .after fun len => ?_
  intro start value final returned
  by_cases long : len.toNat > kMaxStringBytes
  · rw [if_pos long] at returned
    cases returned
  · rw [if_neg long] at returned
    change take len.toNat start = _ at returned
    unfold take at returned
    split_ifs at returned with missing
    cases returned
    rw [IsShort, List.length_take]
    omega

theorem yields_getCap : Yields getCap fun c => IsShort c.detail := by
  unfold getCap
  iterate 5 refine .after fun _ => ?_
  exact .pure (Nat.zero_le _)

/-- The strings of a device that is read are short, and it has no others. -/
theorem yields_getDevice : Yields getDevice DeviceRecord.Writable := by
  have none : IsShort [] := Nat.zero_le _
  unfold getDevice
  iterate 3 refine .after fun _ => ?_
  refine yields_str.bind fun vendor vendorShort => ?_
  refine yields_str.bind fun model modelShort => ?_
  refine .after fun _ => ?_
  refine yields_str.bind fun pciReference pciShort => ?_
  iterate 2 refine .after fun _ => ?_
  refine yields_str.bind fun architecture architectureShort => ?_
  iterate 7 refine .after fun _ => ?_
  refine (yields_many yields_getCap _).bind fun caps details => ?_
  iterate 11 refine .after fun _ => ?_
  refine yields_str.bind fun discoveryDetail detailShort => .pure ?_
  constructor
  case labels =>
    simp only [DeviceRecord.labels, List.forall_mem_cons]
    exact ⟨vendorShort, modelShort, pciShort, none, none, none, architectureShort, none, detailShort,
      fun _ member => absurd member List.not_mem_nil⟩
  case capabilities => exact fun c member => details c (mem_records_of_added member)
  case programFormats => exact fun _ member => absurd member List.not_mem_nil

/-! ## Live states that can be saved -/

/-- The strings of the live state are short; it has no programs. -/
structure Savable (s : LiveState) : Prop where
  devices : ∀ (id : DeviceId) (dev : DeviceRecord), s.devices[id]? = some dev → dev.Writable
  services : ∀ (id : ServiceId) (svc : ServiceDefinition), s.services[id]? = some svc → svc.Writable
  programs : s.programs = ∅

theorem Savable.writable {s : LiveState} (savable : Savable s) : (makeSnapshot s).Writable where
  devices := by
    intro dev member
    obtain ⟨id, -, present⟩ := List.mem_filterMap.mp member
    exact savable.devices id dev present
  services := by
    rintro ⟨id, svc⟩ member
    exact savable.services id svc (ExtTreeMap.mem_toList_iff_getElem?_eq_some.mp member)
  programs := by
    rintro ⟨id, generations⟩ member
    have present : s.programs[id]? = some generations :=
      ExtTreeMap.mem_toList_iff_getElem?_eq_some.mp member
    rw [savable.programs] at present
    cases present

/-- Other devices, which can be saved too. -/
theorem Savable.with_devices {s s' : LiveState} (savable : Savable s)
    (services : s'.services = s.services) (programs : s'.programs = s.programs)
    (devices : ∀ (id : DeviceId) (dev : DeviceRecord), s'.devices[id]? = some dev →
      dev.Writable) : Savable s' where
  devices := devices
  services := by
    rw [services]
    exact savable.services
  programs := programs.trans savable.programs

/-- The record that a call brings along has the property. -/
def Op.Brings (P : DeviceRecord → Prop) : Op → Prop
  | .registerDevice rec => P rec
  | .updateDevice rec => P rec
  | _ => True

theorem orphaned_writable {dev : DeviceRecord} (worker : WorkerId) (writable : dev.Writable) :
    (orphaned worker dev).Writable := by
  unfold orphaned
  split_ifs
  · exact ⟨writable.labels, writable.capabilities, writable.programFormats⟩
  · exact writable

theorem Accepted.savable {s s' : LiveState} {seq seq' : Nat} {op : Op} {role : Role}
    (accepted : Accepted s seq op s' seq') (causes : Causes role op) (sweeps : op.sweeps = true)
    (brings : op.Brings DeviceRecord.Writable) (unbound : Unbound s) (savable : Savable s) :
    Savable s' := by
  have control := (accepted.sameControl causes sweeps unbound).1
  have inserted : ∀ rec : DeviceRecord, rec.Writable → ∀ (id : DeviceId) (dev : DeviceRecord),
      (s.devices.insert rec.deviceId rec)[id]? = some dev → dev.Writable := by
    intro rec writable id dev present
    rw [OrderedMap.lookup_insert] at present
    split_ifs at present with same
    · cases present
      exact writable
    · exact savable.devices id dev present
  apply savable.with_devices control.services control.programs
  cases accepted with
  | registerDevice => exact inserted _ brings
  | updateDevice => exact inserted _ brings
  | registerWorker => exact savable.devices
  | markWorkerLost =>
      intro id dev present
      rw [markWorkerLost_devices, ExtTreeMap.getElem?_map, Option.map_eq_some_iff] at present
      obtain ⟨old, found, rfl⟩ := present
      exact orphaned_writable _ (savable.devices id old found)
  | moveDeployment moves => rw [Op.not_sweeps_of_moves moves] at sweeps; cases sweeps
  | endDeployment ends => rw [Op.not_sweeps_of_ends ends] at sweeps; cases sweeps
  | reserveDeployment => cases sweeps
  | activateDeployment => cases sweeps
  | commitDeployment => cases sweeps
  | _ => rcases causes with _ | _ | _ | _ | ⟨-, ⟨⟩⟩

theorem Engine.step_savable {e : Engine} {op : Op} {role : Role} (causes : Causes role op)
    (sweeps : op.sweeps = true) (brings : op.Brings DeviceRecord.Writable)
    (unbound : Unbound e.state) (savable : Savable e.state) : Savable (e.step op).state := by
  rcases Engine.step_cases e causes.plain with ⟨s, seq, accepted, result⟩ | ⟨-, quiet⟩
  · rw [result]
    exact accepted.savable causes sweeps brings unbound savable
  · rw [quiet.state]
    exact savable

/-- An administrator's turn brings no records. -/
theorem EngineTurn.savable {e e' : Engine} (turn : EngineTurn .admin e e')
    (unbound : Unbound e.state) (savable : Savable e.state) : Savable e'.state := by
  cases turn with
  | quiet state =>
      rw [state]
      exact savable
  | @reported op causes sweeps =>
      have brings : op.Brings DeviceRecord.Writable := by
        cases causes with
        | lost => trivial
        | deploys privileged deploys => cases deploys <;> trivial
      exact Engine.step_savable causes sweeps brings unbound savable
  | deployed privileged deployed =>
      rw [deployed.differs]
      exact ⟨savable.devices, savable.services, savable.programs⟩

/-! ## Turns -/

namespace Coordinator

variable {F : Type} [ScoreArith F] {s : Socket} {c c' : Coordinator}

theorem WorkerOutcome.savable {wid : WorkerId} {f : Frame} (outcome : WorkerOutcome wid f c c')
    (published : Published c.engine) (unbound : Unbound c.engine.state)
    (savable : Savable c.engine.state) : Savable c'.engine.state := by
  cases outcome with
  | @device dev ahead type read =>
      have writable := yields_getDevice read
      have owned : (ownedBy c wid dev).Writable :=
        ⟨writable.labels, writable.capabilities, writable.programFormats⟩
      show Savable (Engine.after (registerOrUpdate c (ownedBy c wid dev)) c.engine).state
      unfold registerOrUpdate
      split_ifs
      · rw [← Engine.after_discard]
        exact Engine.step_savable (Causes.knownDevice _) rfl owned unbound savable
      · rw [← Engine.after_discard]
        exact Engine.step_savable (Causes.newDevice _) rfl owned unbound savable
  | @evidence did eg fresh ahead known type read present =>
      rw [published] at present
      have writable := savable.devices did known present
      have renewed : (withEvidence known eg fresh).Writable :=
        ⟨writable.labels, writable.capabilities, writable.programFormats⟩
      show Savable (Engine.after (Engine.updateDevice _) c.engine).state
      rw [← Engine.after_discard]
      exact Engine.step_savable (Causes.knownDevice _) rfl renewed unbound savable
  | _ => exact savable

theorem Dispatched.savable {role : Role} {result : RecvResult}
    (dispatched : Dispatched F s c role result c') (regular : Regular c.engine)
    (room : c.engine.idSeq ≤ 2 ^ 64) (unbound : Unbound c.engine.state)
    (savable : Savable c.engine.state) : Savable c'.engine.state := by
  cases dispatched with
  | idle => exact savable
  | closed lost =>
      unfold withoutConn
      split
      · exact savable
      · exact Engine.step_savable (@Causes.lost role _) rfl trivial unbound savable
  | @greeted f wk boot label ahead e greets read registered =>
      show Savable e.state
      rw [← Engine.after_of_ok registered]
      exact Engine.step_savable (Causes.greeting ⟨wk⟩ ⟨boot⟩) rfl trivial unbound savable
  | @refused f wk boot label ahead fault e greets read thrown =>
      show Savable e.state
      rw [← Engine.after_of_error thrown]
      exact Engine.step_savable (Causes.greeting ⟨wk⟩ ⟨boot⟩) rfl trivial unbound savable
  | admin privileged outcome =>
      have engine := engine_asAdmin c s role
      have notWorker : Role.admin ≠ .worker := by decide
      have turn := outcome.engineTurn notWorker (engine.symm ▸ regular) (engine.symm ▸ room)
      rw [engine] at turn
      exact turn.savable unbound savable
  | worker outcome => exact outcome.savable regular.published unbound savable

end Coordinator

namespace MainLoop

variable {F : Type} [ScoreArith F] {epoch : CoordinatorEpoch} {l l' : MainLoop}

theorem start_savable (epoch : CoordinatorEpoch) :
    Savable (MainLoop.start epoch).coordinator.engine.state := by
  have fresh : Savable (Engine.fresh epoch (Policy.defaults ⟨1⟩)).state := by
    refine ⟨?_, ?_, rfl⟩
    · intro id dev present
      cases present
    · intro id svc present
      cases present
  have plain : (Op.registerService dpuAService).isPlain = true := rfl
  change Savable ((Engine.fresh epoch (Policy.defaults ⟨1⟩)).step (.registerService dpuAService)).state
  rcases Engine.step_cases (Engine.fresh epoch (Policy.defaults ⟨1⟩)) plain with
    ⟨s, seq, accepted, result⟩ | ⟨-, quiet⟩
  · rw [result]
    cases accepted with
    | registerService named absent =>
        refine ⟨fresh.devices, ?_, fresh.programs⟩
        intro id svc present
        change ((∅ : ExtTreeMap ServiceId ServiceDefinition).insert _ dpuAService)[id]? = _ at present
        rw [OrderedMap.lookup_insert] at present
        split_ifs at present
        · cases present
          show ∀ t ∈ dpuAService.labels, IsShort t
          decide
        · cases present
    | moveDeployment moves => cases moves
    | endDeployment ends => cases ends
  · rw [quiet.state]
    exact fresh

theorem step_savable {event : Event} (booted : Booted epoch l.coordinator.engine)
    (room : l.coordinator.engine.idSeq ≤ 2 ^ 64)
    (stepped : step F (.returns l) event = .returns l')
    (savable : Savable l.coordinator.engine.state) : Savable l'.coordinator.engine.state := by
  cases event with
  | accept s peer => rcases accepted stepped with rfl | rfl <;> exact savable
  | poll s arrived sends =>
      cases polled stepped with
      | idle => exact savable
      | turn registered received dispatched =>
          exact dispatched.savable (booted.regular room) room booted.unbound savable

end MainLoop

end DPUFabric
