import DPUFabric.Conservation
import DPUFabric.Consistency
import DPUFabric.Freshness
import DPUFabric.Recovery
import DPUFabric.Selection

/-!
# Reservation on what an evaluation found

`evaluate` reads a published snapshot without the mutex, and any calls may come
before the reservation that uses its result.  The reservation tests the device's
readiness, the named service and the ledger again, and trusts the result for the
rest.

`StillSuits` is what it does not test.  Most calls cannot affect it, and those
that withdraw the device's evidence make the reservation fail; `Touches` lists
the calls that remain.
-/

namespace DPUFabric

open Std
open LiveState

/-! ## Reservations that return -/

/-- What a reservation that returns has found, made and written. -/
structure Reserves (e : Engine) (req : OffloadRequest) (did : DeviceId) (id : DeploymentId)
    (e' : Engine) (dev : DeviceRecord) (svc : Option ServiceDefinition)
    (ledger : ResourceLedger) (dep : Deployment) : Prop where
  present : e.state.devices[did]? = some dev
  ready : dev.isReadyForOffload = true
  offered : Offers e.state req svc
  accounted : e.state.ledgers[did]? = some ledger
  made : dep = e.state.reservedDeployment req did dev svc ⟨UInt64.ofNat e.idSeq⟩
    ⟨UInt64.ofNat (e.idSeq + 1)⟩
  admitted : ledger.canReserve dep.resources = true
  issued : id = ⟨UInt64.ofNat e.idSeq⟩
  state : e'.state = e.state.reserveDeployment (ledger.apply dep.resources) dep
  idSeq : e'.idSeq = e.idSeq + 2

/-- A reservation without a selected device throws. -/
theorem Engine.selected_of_returns {e e' : Engine} {req : OffloadRequest}
    {selected : Option DeviceId} {id : DeploymentId}
    (reserved : Engine.reserveDeployment req selected e = .ok id e') :
    ∃ did, selected = some did := by
  cases selected with
  | none => cases reserved
  | some did => exact ⟨did, rfl⟩

/-- A reservation that throws leaves the live state as it was. -/
theorem Engine.quiet_of_reserve_throws {e e' : Engine} {req : OffloadRequest}
    {selected : Option DeviceId} {fault : Fault}
    (thrown : Engine.reserveDeployment req selected e = .error fault e') :
    Engine.Quiet e e' := by
  have executed : Engine.exec (.reserveDeployment req selected) e = .error fault e' := by
    rw [Engine.exec, Engine.discard_apply, thrown]
  have plain : (Op.reserveDeployment req selected).isPlain = true := rfl
  cases Engine.outcome e plain with
  | accepted _ result =>
      rw [executed] at result
      cases result
  | thrown _ result quiet =>
      rw [executed] at result
      cases result
      exact quiet
  | idle idles => cases idles

theorem Engine.reserves_of_returns {e e' : Engine} {req : OffloadRequest} {did : DeviceId}
    {id : DeploymentId} (reserved : Engine.reserveDeployment req (some did) e = .ok id e') :
    ∃ dev svc ledger dep, Reserves e req did id e' dev svc ledger dep := by
  obtain ⟨issued, accepted⟩ := Engine.reserveDeployment_returns reserved
  generalize after : e'.state = s' at accepted
  generalize counted : e'.idSeq = seq' at accepted
  cases accepted with
  | reserveDeployment present ready offered accounted made admitted =>
      exact ⟨_, _, _, _, present, ready, offered, accounted, made, admitted, issued, after,
        counted⟩
  | moveDeployment moves => cases moves
  | endDeployment ends => cases ends

namespace Reserves

variable {e e' : Engine} {req : OffloadRequest} {did : DeviceId} {id : DeploymentId}
  {dev : DeviceRecord} {svc : Option ServiceDefinition} {ledger : ResourceLedger}
  {dep : Deployment}

theorem device (reserves : Reserves e req did id e' dev svc ledger dep) : dep.device = did := by
  rw [reserves.made]
  rfl

theorem deployment (reserves : Reserves e req did id e' dev svc ledger dep) :
    e'.state.deployments[id]? = some dep := by
  rw [reserves.state, LiveState.reserveDeployment, OrderedMap.lookup_insert, if_pos]
  rw [reserves.made, reserves.issued]
  rfl

theorem ledgers (reserves : Reserves e req did id e' dev svc ledger dep) :
    e'.state.ledgers[did]? = some (ledger.apply dep.resources) := by
  rw [reserves.state, LiveState.reserveDeployment, OrderedMap.lookup_insert,
    if_pos reserves.device]

theorem usage (reserves : Reserves e req did id e' dev svc ledger dep) :
    e'.state.usage[did]? = some (ledger.apply dep.resources).current := by
  rw [reserves.state, LiveState.reserveDeployment, OrderedMap.lookup_insert,
    if_pos reserves.device]

end Reserves

/-- What is offered is what an evaluation of the same state finds. -/
theorem Offers.eq_requestedService {s : LiveState} {req : OffloadRequest}
    {svc : Option ServiceDefinition} (offered : Offers s req svc) :
    svc = (makeSnapshot s).requestedService req := by
  unfold Offers at offered
  unfold Snapshot.requestedService
  cases named : req.service with
  | none =>
      rw [named] at offered
      exact offered
  | some id =>
      rw [named] at offered
      obtain ⟨found, present, rfl⟩ := offered
      exact present.symm

/-! ## Registered devices are listed -/

/-- Every registered device is in the device order. -/
def Listed (s : LiveState) : Prop :=
  ∀ (did : DeviceId) (dev : DeviceRecord), s.devices[did]? = some dev → did ∈ s.deviceOrder

theorem Accepted.listed {s s' : LiveState} {seq seq' : Nat} {op : Op}
    (accepted : Accepted s seq op s' seq') (listed : Listed s) : Listed s' := by
  intro did dev present
  have order : ∀ {id}, id ∈ s.deviceOrder → id ∈ s'.deviceOrder := by
    intro id member
    cases registers : op.registers with
    | false => rw [(accepted.sameRegistry registers).deviceOrder]; exact member
    | true =>
        cases accepted with
        | registerDevice => exact List.mem_append_left _ member
        | moveDeployment => exact member
        | endDeployment => rw [endDeployment_eq]; exact member
        | registerService => exact member
        | registerProgram => exact member
        | retireProgram => exact member
        | _ => cases registers
  rcases (accepted.registered_iff did).mp ⟨dev, present⟩ with ⟨old, before⟩ | ⟨rec, rfl, rfl⟩
  · exact order (listed did old before)
  · obtain ⟨-, -, rfl⟩ := accepted.of_registerDevice
    exact List.mem_append_right _ List.mem_cons_self

theorem keptByRecovery_listed : KeptByRecovery Listed where
  writes := by
    intro change writes out listed did dev present
    cases writes with
    | device d =>
        simp only [OrderedMap.lookup_insert] at present
        split_ifs at present with here
        · exact List.mem_append_right _ (List.mem_singleton.mpr here.symm)
        · exact List.mem_append_left _ (listed did dev present)
    | _ => exact listed did dev present
  fences := by
    intro out listed did dev present
    simp only [Persistence.fenceRecovered, ExtTreeMap.getElem?_map] at present
    obtain ⟨old, before, -⟩ := Option.map_eq_some_iff.mp present
    exact listed did old before
  rebuilds := by
    intro out listed did dev present
    rw [rebuildLedgers_eq] at present ⊢
    exact listed did dev present

theorem Engine.listed_run (epoch : CoordinatorEpoch) (policy : Policy) (ops : List Op) :
    Listed (Engine.run (Engine.fresh epoch policy) ops).state := by
  refine TransitionRun.run_invariant_of_step (fun e : Engine => Listed e.state) ?_ ?_ ops
  · intro e op listed
    exact e.step_keeps_recovering keptByRecovery_listed (fun accepted => accepted.listed) op listed
  · intro did dev present
    simp [Engine.fresh] at present

/-! ## What a call leaves of what an evaluation reads -/

/-- A call that the evaluation of a request on a device may notice, besides readiness. -/
inductive Touches (req : OffloadRequest) (did : DeviceId) (e : Engine) : Op → Prop
  | updateDevice {rec : DeviceRecord} (here : rec.deviceId = did) :
      Touches req did e (.updateDevice rec)
  | setDeviceState (state : CapabilityState) (cap : CapabilityKey) :
      Touches req did e (.setDeviceState did state cap)
  | registerService {svc : ServiceDefinition} (named : req.service = some svc.serviceId) :
      Touches req did e (.registerService svc)
  | registerProgram {art : ProgramArtifact}
      (wanted : wantedProgram req ((makeSnapshot e.state).requestedService req) =
        some art.programId) :
      Touches req did e (.registerProgram art)
  | retireProgram {pid : ProgramId}
      (wanted : wantedProgram req ((makeSnapshot e.state).requestedService req) = some pid) :
      Touches req did e (.retireProgram pid)
  | reserveDeployment (other : OffloadRequest) :
      Touches req did e (.reserveDeployment other (some did))
  | endDeployment {op : Op} {id : DeploymentId} {ending : Ending} {dep : Deployment}
      (ends : op.ends = some (id, ending)) (present : e.state.deployments[id]? = some dep)
      (here : dep.device = did) : Touches req did e op
  /-- A recovery that throws leaves a part of the file in the live state. -/
  | recoverFrom {file : Option (List UInt8)}
      (thrown : Engine.succeeds (Engine.exec (.recoverFrom file)) e = false) :
      Touches req did e (.recoverFrom file)

/-- Two states between which an evaluation of the request on the device sees no change. -/
structure SameReading (req : OffloadRequest) (did : DeviceId) (s s' : LiveState) : Prop where
  policy : s'.policy = s.policy
  service : (makeSnapshot s').requestedService req = (makeSnapshot s).requestedService req
  services : ∀ id : ServiceId, s.services.contains id = true → s'.services.contains id = true
  programs : ∀ pid, wantedProgram req ((makeSnapshot s).requestedService req) = some pid →
    s'.programs[pid]? = s.programs[pid]? ∧
      s'.currentProgramGen[pid]? = s.currentProgramGen[pid]?
  usage : s'.usage[did]? = s.usage[did]?

theorem SameReading.of_registry {req : OffloadRequest} {did : DeviceId} {s s' : LiveState}
    (registry : SameRegistry s s') (policy : s'.policy = s.policy)
    (usage : s'.usage[did]? = s.usage[did]?) : SameReading req did s s' where
  policy := policy
  service := by
    simp only [Snapshot.requestedService, makeSnapshot, registry.services]
  services := by
    intro id known
    rw [registry.services]
    exact known
  programs := by
    intro pid _
    rw [registry.programs, registry.currentProgramGen]
    exact ⟨rfl, rfl⟩
  usage := usage

/-- A call that does not touch the device gives back nothing on it. -/
theorem usage_evictDeployments (s : LiveState) {id probe : DeviceId} (other : id ≠ probe) :
    (s.evictDeployments id).usage[probe]? = s.usage[probe]? := by
  refine OrderedMap.sweep_invariant
    (fun reached : LiveState => reached.usage[probe]? = s.usage[probe]?) rfl ?_
  intro reached depId dep _ kept
  split_ifs with chosen
  · have onDevice : dep.device = id := by
      simp only [occupies, Bool.and_eq_true, beq_iff_eq] at chosen
      exact chosen.1
    rw [evictDeployment_of_occupies chosen, releaseResources]
    split
    · exact kept
    · rename_i found written
      have same : found.device = id := by
        simp only [fenceDeployment, markActivation, OrderedMap.lookup_insert,
          if_true, Option.some.injEq] at written
        rw [← written]
        exact onDevice
      split
      · exact kept
      · rw [OrderedMap.lookup_insert, if_neg (by rw [same]; exact other)]
        exact kept
  · exact kept

/-- An ending gives back the resources of its deployment's device only. -/
theorem usage_endDeployment {s : LiveState} {ending : Ending} {id : DeploymentId}
    {dep : Deployment} (present : s.deployments[id]? = some dep) {probe : DeviceId}
    (other : dep.device ≠ probe) :
    (s.endDeployment ending id dep).usage[probe]? = s.usage[probe]? := by
  rw [endDeployment_eq]
  dsimp only
  split_ifs
  · rw [releaseResources, present]
    dsimp only
    split
    · rfl
    · rw [OrderedMap.lookup_insert, if_neg other]
  · rfl

/-- The usage of a device changes with its deployments only. -/
theorem Accepted.usage_eq {e : Engine} {s' : LiveState} {seq' : Nat} {op : Op}
    {req : OffloadRequest} {did : DeviceId} {dev : DeviceRecord}
    (accepted : Accepted e.state e.idSeq op s' seq')
    (present : e.state.devices[did]? = some dev)
    (untouched : ¬ Touches req did e op)
    (kept : op ≠ .retireDevice did) :
    s'.usage[did]? = e.state.usage[did]? := by
  cases charges : op.charges with
  | false => rw [(accepted.sameAccounts charges).usage]
  | true =>
  cases accepted with
  | registerDevice named absent =>
      rename_i rec
      have other : rec.deviceId ≠ did := by
        rintro rfl
        rw [absent] at present
        cases present
      rw [LiveState.registerDevice, OrderedMap.lookup_insert, if_neg other]
  | retireDevice =>
      rename_i id dev' known
      have other : id ≠ did := by
        rintro rfl
        exact kept rfl
      exact usage_evictDeployments e.state other
  | reserveDeployment found ready offered accounted made =>
      rename_i other device dev' svc ledger dep admitted
      have elsewhere : device ≠ did := by
        rintro rfl
        exact untouched (.reserveDeployment other)
      rw [LiveState.reserveDeployment, OrderedMap.lookup_insert, made]
      exact if_neg elsewhere
  | endDeployment ends found =>
      rename_i id ending dep allowed
      exact usage_endDeployment found fun here => untouched (.endDeployment ends found here)
  | moveDeployment moves => rw [Op.not_charges_of_moves moves] at charges; cases charges
  | _ => cases charges

/-- No accepted call changes the policy. -/
theorem Accepted.policy_eq {s s' : LiveState} {seq seq' : Nat} {op : Op}
    (accepted : Accepted s seq op s' seq') : s'.policy = s.policy := by
  cases accepted with
  | retireDevice => rw [LiveState.retireDevice, evictDeployments_eq]; rfl
  | transitionDevice =>
      rename_i id target dev known valid
      rw [LiveState.transitionDevice, fenceDeployments_eq]
      cases isFencingTarget target <;> rfl
  | fenceDevice => rw [LiveState.fenceDevice, fenceDeployments_eq]; rfl
  | markWorkerLost =>
      rename_i worker
      cases known : s.workers[worker]? with
      | none => simp only [LiveState.markWorkerLost, known]
      | some boot => simp only [LiveState.markWorkerLost, known, fenceDeployments_eq]
  | endDeployment => rw [endDeployment_eq]
  | applyRecovery => rw [LiveState.applyRecovery, fenceDeployments_eq]
  | _ => rfl

/-- A call that does not touch the device leaves what an evaluation reads besides it. -/
theorem Accepted.sameReading {e : Engine} {s' : LiveState} {seq' : Nat} {op : Op}
    {req : OffloadRequest} {did : DeviceId} {dev : DeviceRecord}
    (accepted : Accepted e.state e.idSeq op s' seq')
    (present : e.state.devices[did]? = some dev)
    (untouched : ¬ Touches req did e op) (kept : op ≠ .retireDevice did) :
    SameReading req did e.state s' := by
  have usage := accepted.usage_eq present untouched kept
  have policy := accepted.policy_eq
  cases registers : op.registers with
  | false => exact .of_registry (accepted.sameRegistry registers) policy usage
  | true =>
  cases op with
  | registerDevice rec =>
      obtain ⟨-, -, rfl⟩ := accepted.of_registerDevice
      exact ⟨policy, rfl, fun _ => id, fun _ _ => ⟨rfl, rfl⟩, usage⟩
  | registerService svc =>
      cases accepted with
      | registerService named absent =>
          have service : (makeSnapshot (e.state.registerService svc)).requestedService req =
              (makeSnapshot e.state).requestedService req := by
            simp only [Snapshot.requestedService]
            refine Option.bind_congr fun id requested => ?_
            have other : svc.serviceId ≠ id := by
              rintro rfl
              exact untouched (.registerService requested)
            change (e.state.services.insert svc.serviceId svc)[id]? = e.state.services[id]?
            rw [OrderedMap.lookup_insert, if_neg other]
          refine ⟨policy, service, fun id known => ?_, fun _ _ => ⟨rfl, rfl⟩, usage⟩
          change (e.state.services.insert svc.serviceId svc).contains id = true
          simp [known]
      | moveDeployment moves => cases moves
      | endDeployment ends => cases ends
  | registerProgram art =>
      cases accepted with
      | registerProgram named versioned =>
          refine ⟨policy, rfl, fun _ => id, fun pid wanted => ?_, usage⟩
          have other : art.programId ≠ pid := by
            rintro rfl
            exact untouched (.registerProgram wanted)
          constructor
          · rw [LiveState.registerProgram, OrderedMap.lookup_insert, if_neg other]
          · rw [LiveState.registerProgram]
            dsimp only
            split_ifs
            · rw [OrderedMap.lookup_insert, if_neg other]
            · rfl
      | moveDeployment moves => cases moves
      | endDeployment ends => cases ends
  | retireProgram pid =>
      cases accepted with
      | retireProgram known =>
          refine ⟨policy, rfl, fun _ => id, fun pid' wanted => ⟨rfl, ?_⟩, usage⟩
          have other : pid ≠ pid' := by
            rintro rfl
            exact untouched (.retireProgram wanted)
          rw [LiveState.retireProgram, ExtTreeMap.getElem?_erase]
          simp [other]
      | moveDeployment moves => cases moves
      | endDeployment ends => cases ends
  | _ => cases registers

/-- Such a call, when it leaves the evidence fresh, rewrites the lifecycle at most. -/
theorem Op.rewritten_of_fresh {req : OffloadRequest} {did : DeviceId} {dev : DeviceRecord}
    {e : Engine} {op : Op} (untouched : ¬ Touches req did e op)
    (fresh : (op.rewritten did dev).evidenceFresh = true) :
    op.rewritten did dev = { dev with lifecycle := (op.rewritten did dev).lifecycle } := by
  cases op with
  | updateDevice rec =>
      have elsewhere : rec.deviceId ≠ did := fun here => untouched (.updateDevice here)
      simp [Op.rewritten, elsewhere]
  | retireDevice target =>
      simp only [Op.rewritten] at fresh ⊢
      split_ifs at fresh ⊢
      rfl
  | transitionDevice target lifecycle =>
      simp only [Op.rewritten] at fresh ⊢
      split_ifs at fresh ⊢
      · simp only [Bool.and_eq_true] at fresh
        simp [fresh.1, fresh.2]
      · rfl
  | setDeviceState target state cap =>
      have elsewhere : target ≠ did := by
        rintro rfl
        exact untouched (.setDeviceState state cap)
      simp [Op.rewritten, elsewhere]
  | fenceDevice target reason =>
      simp only [Op.rewritten] at fresh ⊢
      split_ifs at fresh ⊢
      · rw [fencedRecord_evidenceFresh] at fresh
        cases fresh
      · rfl
  | markWorkerLost worker =>
      simp only [Op.rewritten, orphaned] at fresh ⊢
      split_ifs at fresh ⊢
      rfl
  | applyRecovery p =>
      by_cases serves : dev.lifecycle = .declared .retired
      · have same : (Op.applyRecovery p).rewritten did dev = dev := by
          simp [Op.rewritten, recoveredRecord, serves]
        rw [same]
      · rw [Op.rewritten, recoveredRecord_evidenceFresh p dev serves] at fresh
        cases fresh
  | _ => rfl

/-! ## What a reservation trusts -/

section Trust

variable {F : Type} [ScoreArith F]

/-- The constraints of a request hold on a device, but for the pin and the readiness. -/
def StillSuits (F : Type) [ScoreArith F] (s : LiveState) (req : OffloadRequest)
    (did : DeviceId) : Prop :=
  ∀ dev, s.devices[did]? = some dev → dev.evidenceFresh = true →
    Suits F (makeSnapshot s) req ((makeSnapshot s).requestedService req) did dev

/-- The constraints do not notice a change that an evaluation does not read. -/
theorem Suits.of_sameReading {req : OffloadRequest} {did : DeviceId} {s s' : LiveState}
    {dev : DeviceRecord} (same : SameReading req did s s')
    (lifecycle : RawEnum DeviceLifecycle)
    (suits : Suits F (makeSnapshot s) req ((makeSnapshot s).requestedService req) did dev) :
    Suits F (makeSnapshot s') req ((makeSnapshot s').requestedService req) did
      { dev with lifecycle := lifecycle } := by
  have policy : (makeSnapshot s').policy = (makeSnapshot s).policy := same.policy
  have usage : (makeSnapshot s').deviceUsage.getD did {} =
      (makeSnapshot s).deviceUsage.getD did {} := by
    simp only [ExtTreeMap.getD_eq_getD_getElem?]
    exact congrArg (·.getD {}) same.usage
  have current : ∀ pid, wantedProgram req ((makeSnapshot s).requestedService req) = some pid →
      (makeSnapshot s').currentGen pid = (makeSnapshot s).currentGen pid ∧
        findCurrentProgram (makeSnapshot s') pid ((makeSnapshot s').currentGen pid) =
          findCurrentProgram (makeSnapshot s) pid ((makeSnapshot s).currentGen pid) := by
    intro pid wanted
    have gen : (makeSnapshot s').currentGen pid = (makeSnapshot s).currentGen pid := by
      simp only [Snapshot.currentGen, makeSnapshot, (same.programs pid wanted).2]
    refine ⟨gen, ?_⟩
    rw [gen]
    simp only [findCurrentProgram, makeSnapshot, (same.programs pid wanted).1]
  have artifact : (makeSnapshot s').checkedArtifact req
      ((makeSnapshot s).requestedService req) =
        (makeSnapshot s).checkedArtifact req ((makeSnapshot s).requestedService req) :=
    Option.bind_congr fun pid wanted => (current pid wanted).2
  rw [same.service]
  refine { suits with
    health := ?_, program := ?_, programFirmware := ?_, capabilities := ?_, hardCaps := ?_
    headroom := ?_, queuePressure := ?_, dependencies := ?_, resources := ?_ }
  · rw [policy]
    exact suits.health
  · intro pid wanted
    rw [(current pid wanted).2, (current pid wanted).1]
    obtain ⟨art, found, runs⟩ := suits.program pid wanted
    exact ⟨art, found, { runs with }⟩
  · rw [artifact]
    exact suits.programFirmware
  · rw [artifact]
    exact suits.capabilities
  · rw [policy]
    exact suits.hardCaps
  · rw [policy, usage]
    exact suits.headroom
  · rw [policy, usage]
    exact suits.queuePressure
  · intro svc requested dep member
    exact same.services dep (suits.dependencies svc requested dep member)
  · rw [usage]
    exact suits.resources

/-- Where a call touches the device, it leaves the constraints true. -/
def Spares (F : Type) [ScoreArith F] (req : OffloadRequest) (did : DeviceId) (e : Engine)
    (op : Op) : Prop :=
  Touches req did e op → StillSuits F (e.step op).state req did

theorem StillSuits.accepted {e : Engine} {s' : LiveState} {seq' : Nat} {op : Op}
    {req : OffloadRequest} {did : DeviceId} {dev : DeviceRecord}
    (accepted : Accepted e.state e.idSeq op s' seq')
    (present : e.state.devices[did]? = some dev)
    (untouched : ¬ Touches req did e op) (suits : StillSuits F e.state req did) :
    StillSuits F s' req did := by
  intro dev' present' fresh
  rw [accepted.device_of_present present] at present'
  cases present'
  have lifecycle := Op.rewritten_of_fresh untouched fresh
  have kept : op ≠ .retireDevice did := by
    rintro rfl
    simp [Op.rewritten] at fresh
  have before : dev.evidenceFresh = true := by
    rw [lifecycle] at fresh
    exact fresh
  rw [lifecycle]
  exact (suits dev present before).of_sameReading
    (accepted.sameReading present untouched kept) _

/-- A registered device stays registered. -/
def Registered (did : DeviceId) (s : LiveState) : Prop :=
  ∃ dev, s.devices[did]? = some dev

theorem keptByRecovery_registered (did : DeviceId) : KeptByRecovery (Registered did) where
  writes := by
    rintro change writes out ⟨dev, present⟩
    cases writes with
    | device d =>
        rw [Registered, OrderedMap.lookup_insert]
        split_ifs
        · exact ⟨d, rfl⟩
        · exact ⟨dev, present⟩
    | _ => exact ⟨dev, present⟩
  fences := by
    rintro out ⟨dev, present⟩
    exact ⟨_, by rw [Persistence.fenceRecovered, ExtTreeMap.getElem?_map, present]; rfl⟩
  rebuilds := by
    rintro out ⟨dev, present⟩
    exact ⟨dev, by rw [rebuildLedgers_eq]; exact present⟩

theorem Registered.step {did : DeviceId} {e : Engine} (registered : Registered did e.state)
    (op : Op) : Registered did (e.step op).state :=
  e.step_keeps_recovering (keptByRecovery_registered did)
    (fun accepted => by
      rintro ⟨dev, present⟩
      exact ⟨_, accepted.device_of_present present⟩) op registered

/-- A single call keeps the constraints unless it touches the device. -/
theorem StillSuits.step {e : Engine} {op : Op} {req : OffloadRequest} {did : DeviceId}
    (single : Engine.isSingle op = true) (spares : Spares F req did e op)
    (registered : Registered did e.state) (suits : StillSuits F e.state req did) :
    StillSuits F (e.step op).state req did := by
  by_cases touches : Touches req did e op
  · exact spares touches
  cases plain : op.isPlain with
  | true =>
      rcases Engine.step_cases e plain with ⟨s, seq, accepted, result⟩ | ⟨-, quiet⟩
      · obtain ⟨dev, present⟩ := registered
        rw [result]
        exact suits.accepted accepted present touches
      · rw [quiet.state]
        exact suits
  | false =>
      cases op <;> try cases plain
      · cases single
      · rename_i file
        cases recoverFrom_cases file e with
        | missing absent result => rw [result]; exact suits
        | rejected empty wellFormed result => rw [result]; exact suits
        | malformed malformed overlay thrown result => exact (touches (.recoverFrom thrown)).elim
        | accepted wellFormed overlay result =>
            intro dev present fresh
            rw [(stale_of_recovered result did).live dev present] at fresh
            cases fresh

theorem StillSuits.run {e : Engine} {ops : List Op} {req : OffloadRequest} {did : DeviceId}
    (every : TransitionRun.Every Engine.step (Engine.EachCall (Spares F req did)) e ops)
    (registered : Registered did e.state) (suits : StillSuits F e.state req did) :
    StillSuits F (e.run ops).state req did := by
  refine (TransitionRun.run_invariant
    (fun e : Engine => Registered did e.state ∧ StillSuits F e.state req did) ?_
    ⟨registered, suits⟩ every).2
  intro e op each both
  exact Engine.eachCall_invariant
    (fun e : Engine => Registered did e.state ∧ StillSuits F e.state req did)
    (fun e op single spares both => ⟨both.1.step op, both.2.step single spares both.1⟩)
    each both

/-! ## The reservation -/

/-- An evaluation of the request on the state reports the device as passing. -/
def ReportsPassing (F : Type) [ScoreArith F] (s : LiveState) (req : OffloadRequest)
    (did : DeviceId) : Prop :=
  ∃ result, evaluateOffload F (makeSnapshot s) req = .ok result ∧
    ∃ report ∈ result.candidates, report.device = did ∧ report.passedHard = true

theorem reportsPassing_iff {s : LiveState} {req : OffloadRequest} {did : DeviceId}
    (listed : Listed s) (bounds : req.minHeadroom ≤ 100 ∧ req.maxQueuePressure ≤ 100) :
    ReportsPassing F s req did ↔
      ∃ dev, s.devices[did]? = some dev ∧
        rejections F (makeSnapshot s) req ((makeSnapshot s).requestedService req) did dev =
          [] := by
  constructor
  · rintro ⟨result, evaluated, report, reported, here, passed⟩
    obtain ⟨-, rfl⟩ := (evaluateOffload_eq_ok_iff _ _ _).mp evaluated
    rw [outcome_candidates] at reported
    obtain ⟨did', -, dev, present, rfl⟩ := mem_candidateReports_iff.mp reported
    have same : did' = did := here
    subst same
    exact ⟨dev, present, List.isEmpty_iff.mp passed⟩
  · rintro ⟨dev, present, clean⟩
    refine ⟨_, (evaluateOffload_eq_ok_iff _ _ _).mpr ⟨bounds, rfl⟩, ?_⟩
    rw [outcome_candidates]
    exact ⟨_, mem_candidateReports_iff.mpr
      ⟨did, listed did dev present, dev, present, rfl⟩, rfl, List.isEmpty_iff.mpr clean⟩

/--
A reservation is decided on current facts exactly when the constraints that it
does not test still hold of the device.  They do when every call since the
evaluation that touches the device, the requested service or the wanted program
has left them true; no other call matters.
-/
theorem reservation_current_iff (F : Type) [ScoreArith F] (epoch : CoordinatorEpoch)
    (policy : Policy) (before between : List Op) (req : OffloadRequest) (did : DeviceId)
    (result : EligibilityResult F)
    (evaluated : (Engine.run (Engine.fresh epoch policy) before).evaluate F req = .ok result)
    (chosen : result.selected = some did)
    (reserved : Engine.succeeds (Engine.reserveDeployment req result.selected)
      (Engine.run (Engine.fresh epoch policy) (before ++ between)) = true) :
    (ReportsPassing F (Engine.run (Engine.fresh epoch policy) (before ++ between)).state req did ↔
      StillSuits F (Engine.run (Engine.fresh epoch policy) (before ++ between)).state req did) ∧
    (RecoveriesReturn (Engine.fresh epoch policy) before →
      TransitionRun.Every Engine.step (Engine.EachCall (Spares F req did))
        (Engine.run (Engine.fresh epoch policy) before) between →
      ReportsPassing F (Engine.run (Engine.fresh epoch policy) (before ++ between)).state
        req did) := by
  obtain ⟨bounds, -⟩ := (evaluateOffload_eq_ok_iff _ _ _).mp evaluated
  obtain ⟨-, dev₀, published, clean⟩ := selected_passed evaluated chosen
  obtain ⟨pinned, -, suits₀⟩ := (rejections_eq_nil_iff _ _ _ _ _).mp clean
  rw [chosen] at reserved
  obtain ⟨id, returned⟩ := Engine.eq_ok_of_succeeds reserved
  obtain ⟨dev, _, _, _, reserves⟩ := Engine.reserves_of_returns returned
  have fresh := (dev.isReadyForOffload_eq_true_iff.mp reserves.ready).2
  have exact_condition :
      ReportsPassing F (Engine.run (Engine.fresh epoch policy) (before ++ between)).state req did ↔
        StillSuits F (Engine.run (Engine.fresh epoch policy) (before ++ between)).state
          req did := by
    rw [reportsPassing_iff (Engine.listed_run epoch policy _) bounds]
    constructor
    · rintro ⟨dev', present', clean'⟩ dev'' present'' -
      rw [present'] at present''
      cases present''
      exact ((rejections_eq_nil_iff _ _ _ _ _).mp clean').2.2
    · intro suits
      exact ⟨dev, reserves.present, (rejections_eq_nil_iff _ _ _ _ _).mpr
        ⟨pinned, reserves.ready, suits dev reserves.present fresh⟩⟩
  refine ⟨exact_condition, fun returns every => exact_condition.mpr ?_⟩
  have current := snap_run epoch policy returns
  rw [Engine.run_append]
  refine StillSuits.run every ⟨dev₀, ?_⟩ ?_
  · rw [current] at published
    exact published
  · intro dev' present' _
    rw [current] at published suits₀
    have same : dev₀ = dev' := Option.some.inj (published.symm.trans present')
    subst same
    exact suits₀

end Trust

/-! ## A capability withdrawn in between -/

def cryptoKey : CapabilityKey := ⟨text "crypto", Or.inr (by decide)⟩

/-- A ready accelerator that supports one capability. -/
def cryptoDevice : DeviceRecord :=
  { Engine.sampleDevice with
    deviceClass := .declared .dpu
    health := .declared .healthy
    capabilities :=
      ExtTreeMap.insert ∅ cryptoKey { key := cryptoKey, state := .declared .supported } }

def cryptoRequest : OffloadRequest := { requiredCaps := [{ key := cryptoKey }] }

def cryptoEngine : Engine := Engine.run Engine.sampleEngine [.registerDevice cryptoDevice]

theorem cryptoDevice_passes : Passes ℚ cryptoEngine.snap cryptoRequest ⟨1⟩ cryptoDevice where
  listed := List.mem_cons_self
  registered := rfl
  clean := by decide +kernel

theorem evaluate_cryptoEngine :
    ∃ result, cryptoEngine.evaluate ℚ cryptoRequest = .ok result ∧
      result.selected = some ⟨1⟩ :=
  ⟨_, evaluateOffload_only rfl ⟨by decide, by decide⟩ cryptoDevice_passes, rfl⟩

theorem reservation_current_iff_sample :
    ∃ result, cryptoEngine.evaluate ℚ cryptoRequest = .ok result ∧
      ReportsPassing ℚ cryptoEngine.state cryptoRequest ⟨1⟩ := by
  obtain ⟨result, evaluated, chosen⟩ := evaluate_cryptoEngine
  have reserved : Engine.succeeds (Engine.reserveDeployment cryptoRequest result.selected)
      cryptoEngine = true := by
    rw [chosen]
    decide
  have returns : RecoveriesReturn (Engine.fresh ⟨1⟩ (Policy.defaults ⟨1⟩))
      [.registerDevice cryptoDevice] := by
    simp [RecoveriesReturn, Engine.recovers]
  exact ⟨result, evaluated,
    (reservation_current_iff ℚ ⟨1⟩ (Policy.defaults ⟨1⟩) [.registerDevice cryptoDevice] []
      cryptoRequest ⟨1⟩ result evaluated chosen reserved).2 returns trivial⟩

/-- The capability a request requires is withdrawn, and the reservation still succeeds. -/
theorem reservation_not_current :
    ∃ (before between : List Op) (req : OffloadRequest) (result : EligibilityResult ℚ)
      (did : DeviceId),
      (Engine.sampleEngine.run before).evaluate ℚ req = .ok result ∧
        result.selected = some did ∧
        Engine.succeeds (Engine.reserveDeployment req result.selected)
          (Engine.sampleEngine.run (before ++ between)) = true ∧
        ¬ ReportsPassing ℚ (Engine.sampleEngine.run (before ++ between)).state req did := by
  obtain ⟨result, evaluated, chosen⟩ := evaluate_cryptoEngine
  refine ⟨[.registerDevice cryptoDevice], [.setDeviceState ⟨1⟩ .unsupported cryptoKey],
    cryptoRequest, result, ⟨1⟩, evaluated, chosen, ?_, ?_⟩
  · rw [chosen]
    decide
  · intro reports
    obtain ⟨dev, present, clean⟩ := (reportsPassing_iff
      (Engine.listed_run ⟨1⟩ (Policy.defaults ⟨1⟩) _) ⟨by decide, by decide⟩).mp reports
    have capability := ((rejections_eq_nil_iff _ _ _ _ _).mp clean).2.2.capabilities
      { key := cryptoKey } List.mem_cons_self rfl
    obtain ⟨found, known, supported, -⟩ := capability
    cases present
    cases known
    cases supported

end DPUFabric
