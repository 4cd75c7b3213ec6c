import DPUFabric.Recovery

/-!
# Devices that arrived in another order

Two engines that took in a group of devices in two orders hold the same tables.  They
differ in one stretch of the device order, and in who owns a port or a function that
several records of the group name.  No call reads either, so whatever is called
afterwards goes the same way in both.
-/

namespace DPUFabric

open Std
open EngineM
open LiveState
open ParallelRun

/-! ## Rearranged states -/

section Rearranged

variable (first block block' : List DeviceId)

/-- The order has `block` in one state and `block'` in the other, between the same ids. -/
inductive LiveState.Rearranged : LiveState → LiveState → Prop
  | intro {s : LiveState} {later order : List DeviceId}
      {functionOwner : ExtTreeMap FunctionId DeviceId} {portOwner : ExtTreeMap PortId DeviceId}
      (one : s.deviceOrder = first ++ block ++ later) (other : order = first ++ block' ++ later) :
      Rearranged s
        { s with
          deviceOrder := order
          functionOwner := functionOwner
          portOwner := portOwner }

inductive Snapshot.Rearranged : Snapshot → Snapshot → Prop
  | intro {snap : Snapshot} {later order : List DeviceId}
      (one : snap.deviceOrder = first ++ block ++ later)
      (other : order = first ++ block' ++ later) :
      Rearranged snap { snap with deviceOrder := order }

structure Engine.Rearranged (e e' : Engine) : Prop where
  state : LiveState.Rearranged first block block' e.state e'.state
  snap : Snapshot.Rearranged first block block' e.snap e'.snap
  idSeq : e'.idSeq = e.idSeq

end Rearranged

variable {first block block' : List DeviceId}

theorem LiveState.Rearranged.devices {s s' : LiveState}
    (states : s.Rearranged first block block' s') : s'.devices = s.devices := by
  cases states
  rfl

theorem LiveState.Rearranged.makeSnapshot {s s' : LiveState}
    (states : s.Rearranged first block block' s') :
    (makeSnapshot s).Rearranged first block block' (makeSnapshot s') := by
  obtain ⟨one, other⟩ := states
  exact .intro one other

/-! ## Writes -/

/-- A write keeps what two rearranged states have in common. -/
def Blind (first block block' : List DeviceId) (change : LiveState → LiveState) : Prop :=
  ∀ s s', s.Rearranged first block block' s' →
    (change s).Rearranged first block block' (change s')

section Writes

/-- A write that neither reads nor writes what arrivals write. -/
theorem Blind.of_frame {change : LiveState → LiveState}
    (frame : ∀ s order functionOwner portOwner,
      change { s with deviceOrder := order, functionOwner, portOwner } =
        { change s with deviceOrder := order, functionOwner, portOwner })
    (keeps : ∀ s, (change s).deviceOrder = s.deviceOrder) : Blind first block block' change := by
  rintro s _ @⟨later, order, functionOwner, portOwner, one, other⟩
  rw [frame s order functionOwner portOwner]
  exact .intro ((keeps s).trans one) other

theorem blind_registerDevice (rec : DeviceRecord) :
    Blind first block block' (·.registerDevice rec) := by
  rintro s _ @⟨later, order, _, _, one, other⟩
  refine @LiveState.Rearranged.intro _ _ _ (s.registerDevice rec) (later ++ [rec.deviceId])
    (order ++ [rec.deviceId]) _ _ ?_ ?_
  · change s.deviceOrder ++ [rec.deviceId] = _
    rw [one, List.append_assoc]
  · rw [other, List.append_assoc]

theorem blind_modifyDevice (id : DeviceId) (change : DeviceRecord → DeviceRecord) :
    Blind first block block' (·.modifyDevice id change) :=
  .of_frame (fun _ _ _ _ => rfl) fun _ => rfl

theorem blind_modifyDeployment (id : DeploymentId) (change : Deployment → Deployment) :
    Blind first block block' (·.modifyDeployment id change) :=
  .of_frame (fun _ _ _ _ => rfl) fun _ => rfl

theorem blind_markActivation (link : Option ActivationId) (state : ActivationState) :
    Blind first block block' (·.markActivation link state) :=
  .of_frame (fun _ _ _ _ => rfl) fun _ => rfl

theorem blind_releaseResources (id : DeploymentId) :
    Blind first block block' (·.releaseResources id) := by
  refine .of_frame (fun s order functionOwner portOwner => ?_) fun s => ?_
  · unfold releaseResources
    dsimp only
    split
    · rfl
    · split <;> rfl
  · unfold releaseResources
    split
    · rfl
    · split <;> rfl

theorem blind_fenceDeployments (selects : Deployment → Bool) :
    Blind first block block' (·.fenceDeployments selects) := by
  refine .of_frame (fun s order functionOwner portOwner => ?_) fun s => ?_
  · simp only [fenceDeployments_eq]
    rfl
  · rw [fenceDeployments_eq]

theorem blind_evictDeployments (id : DeviceId) :
    Blind first block block' (·.evictDeployments id) := by
  rintro s _ ⟨one, other⟩
  refine OrderedMap.sweep_related (fun left right depId dep states => ?_) (.intro one other)
  split
  · refine blind_releaseResources depId _ _ (blind_markActivation _ _ _ _ ?_)
    have inserts : ∀ dep, Blind first block block' fun s =>
        { s with deployments := s.deployments.insert depId dep } :=
      fun _ => .of_frame (fun _ _ _ _ => rfl) fun _ => rfl
    exact inserts _ _ _ states
  · exact states

theorem blind_retireDevice (id : DeviceId) : Blind first block block' (·.retireDevice id) :=
  fun _ _ states => blind_modifyDevice id _ _ _ (blind_evictDeployments id _ _ states)

theorem blind_transitionDevice (id : DeviceId) (target : DeviceLifecycle) :
    Blind first block block' (·.transitionDevice id target) := by
  intro s s' states
  unfold transitionDevice
  dsimp only
  split
  · exact blind_modifyDevice id _ _ _
      (blind_fenceDeployments _ _ _ (blind_modifyDevice id _ _ _ states))
  · exact blind_modifyDevice id _ _ _ states

theorem blind_fenceDevice (id : DeviceId) (reason : Text) :
    Blind first block block' (·.fenceDevice id reason) :=
  fun _ _ states => blind_fenceDeployments _ _ _ (blind_modifyDevice id _ _ _ states)

theorem blind_markWorkerLost (worker : WorkerId) :
    Blind first block block' (·.markWorkerLost worker) := by
  refine .of_frame (fun s order functionOwner portOwner => ?_) fun s => ?_
  · simp only [markWorkerLost, fenceDeployments_eq]
    split <;> rfl
  · simp only [markWorkerLost, fenceDeployments_eq]
    split <;> rfl

theorem blind_endDeployment (ending : Ending) (id : DeploymentId) (dep : Deployment) :
    Blind first block block' (·.endDeployment ending id dep) := by
  intro s s' states
  have released : LiveState.Rearranged first block block'
      (if ending.releases dep.state then s.releaseResources id else s)
      (if ending.releases dep.state then s'.releaseResources id else s') := by
    split
    · exact blind_releaseResources id s s' states
    · exact states
  refine blind_modifyDeployment id _ _ _ ?_
  split
  · exact blind_markActivation _ _ _ _ released
  · exact released

theorem blind_applyRecovery (p : RecoveryPolicy) :
    Blind first block block' (·.applyRecovery p) := by
  intro s s' states
  have distrusts : Blind first block block' fun s =>
      { s with devices := s.devices.map fun _ dev => recoveredRecord p dev } :=
    .of_frame (fun _ _ _ _ => rfl) fun _ => rfl
  exact blind_fenceDeployments _ _ _ (distrusts _ _ states)

end Writes

/-! ## Calls -/

section Calls

variable {α : Type}

/-- A call goes the same way in two engines that differ in the order of arrival. -/
abbrev SameEitherWay (first block block' : List DeviceId) (call : EngineM α) : Prop :=
  Parallel (Engine.Rearranged first block block') call

theorem throwIf_same (condition : Bool) (fault : Fault) :
    SameEitherWay first block block' (throwIf condition fault) := by
  intro e e' states
  cases condition with
  | false => exact .ok states
  | true => exact .error states

theorem throw_same (fault : Fault) :
    SameEitherWay first block block' (throw fault : EngineM α) :=
  fun _ _ states => .error states

theorem find_same {κ β : Type} {cmp : κ → κ → Ordering} [TransCmp cmp]
    (table : ExtTreeMap κ β cmp) (key : κ) (fault : Fault) :
    SameEitherWay first block block' (find table key fault) := by
  intro e e' states
  unfold find
  cases table[key]? with
  | none => exact .error states
  | some value => exact .ok states

theorem write_same {change : LiveState → LiveState} (blind : Blind first block block' change) :
    SameEitherWay first block block' (write change) :=
  fun _ _ states => .ok { states with state := blind _ _ states.state }

theorem nextId_same {tag : IdTag} :
    SameEitherWay first block block' (nextId : EngineM (Id tag)) := by
  intro e e' states
  unfold nextId
  rw [states.idSeq]
  exact .ok { states with idSeq := rfl }

theorem rebuildSnapshot_same : SameEitherWay first block block' rebuildSnapshot := by
  intro e e' states
  exact .ok ⟨states.state, states.state.makeSnapshot, states.idSeq⟩

/-- The live state is read, but not what arrivals write. -/
theorem live_same {next : LiveState → EngineM α}
    (reads : ∀ s order functionOwner portOwner,
      next { s with deviceOrder := order, functionOwner, portOwner } = next s)
    (tail : ∀ s, SameEitherWay first block block' (next s)) :
    SameEitherWay first block block' (live >>= next) := by
  rintro ⟨s, snap, idSeq⟩ ⟨s', snap', idSeq'⟩ states
  have same : next s' = next s := by
    obtain ⟨⟨one, other⟩, -, -⟩ := states
    exact reads s _ _ _
  change Agree _ (next s ⟨s, snap, idSeq⟩) (next s' ⟨s', snap', idSeq'⟩)
  rw [same]
  exact tail s _ _ states

theorem discard_same {call : EngineM α} (same : SameEitherWay first block block' call) :
    SameEitherWay first block block' (discard call) := by
  intro e e' states
  have both := same e e' states
  rw [Engine.discard_apply, Engine.discard_apply]
  revert both
  cases call e <;> cases call e' <;> intro both <;> cases both
  · rename_i states'
    exact .ok states'
  · rename_i states'
    exact .error states'

theorem forM_same {β : Type} {body : β → EngineM Unit} (entries : List β)
    (each : ∀ entry, SameEitherWay first block block' (body entry)) :
    SameEitherWay first block block' (entries.forM body) := by
  induction entries with
  | nil => exact parallel_pure ()
  | cons entry rest ih => exact parallel_bind (each entry) fun _ => ih

end Calls

namespace Engine

theorem registerDevice_same (rec : DeviceRecord) :
    SameEitherWay first block block' (registerDevice rec) :=
  parallel_bind (throwIf_same _ _) fun _ => live_same (fun _ _ _ _ => rfl) fun _ =>
    parallel_bind (throwIf_same _ _) fun _ =>
    parallel_bind (write_same (blind_registerDevice rec)) fun _ =>
    parallel_bind rebuildSnapshot_same fun _ => parallel_pure _

theorem updateDevice_same (rec : DeviceRecord) :
    SameEitherWay first block block' (updateDevice rec) :=
  parallel_bind (throwIf_same _ _) fun _ => live_same (fun _ _ _ _ => rfl) fun _ =>
    parallel_bind (find_same _ _ _) fun _ => parallel_bind (throwIf_same _ _) fun _ =>
    parallel_bind (write_same (.of_frame (fun _ _ _ _ => rfl) fun _ => rfl)) fun _ =>
    parallel_bind rebuildSnapshot_same fun _ => parallel_pure _

theorem doDeployTransition_same (id : DeploymentId) (target : DeploymentState) :
    SameEitherWay first block block' (doDeployTransition id target) :=
  live_same (fun _ _ _ _ => rfl) fun _ => parallel_bind (find_same _ _ _) fun _ =>
    parallel_bind (throwIf_same _ _) fun _ =>
    parallel_bind (write_same (blind_modifyDeployment _ _)) fun _ => rebuildSnapshot_same

theorem endDeployment_same (ending : Ending) (refusal : Fault) (id : DeploymentId) :
    SameEitherWay first block block' (endDeployment ending refusal id) :=
  live_same (fun _ _ _ _ => rfl) fun _ => parallel_bind (find_same _ _ _) fun _ =>
    parallel_bind (throwIf_same _ _) fun _ =>
    parallel_bind (write_same (blind_endDeployment _ _ _)) fun _ => rebuildSnapshot_same

theorem namedService_same (s : LiveState) (req : OffloadRequest) :
    SameEitherWay first block block' (namedService s req) := by
  unfold namedService
  split
  · exact parallel_pure none
  · exact parallel_bind (find_same _ _ _) fun _ => parallel_pure _

theorem reserveDeployment_same (req : OffloadRequest) (selected : Option DeviceId) :
    SameEitherWay first block block' (reserveDeployment req selected) := by
  unfold reserveDeployment
  split
  · exact throw_same _
  refine live_same (fun _ _ _ _ => rfl) fun s => parallel_bind (find_same _ _ _) fun dev =>
    parallel_bind (throwIf_same _ _) fun _ => parallel_bind (namedService_same s req) fun svc =>
    parallel_bind nextId_same fun id => parallel_bind nextId_same fun attempt =>
    parallel_bind (find_same _ _ _) fun ledger => parallel_bind (throwIf_same _ _) fun _ => ?_
  split
  · exact throw_same _
  · exact parallel_bind (write_same (.of_frame (fun _ _ _ _ => rfl) fun _ => rfl)) fun _ =>
      parallel_bind rebuildSnapshot_same fun _ => parallel_pure _

theorem activateDeployment_same (id : DeploymentId) :
    SameEitherWay first block block' (activateDeployment id) :=
  parallel_bind (doDeployTransition_same id _) fun _ => live_same (fun _ _ _ _ => rfl) fun _ =>
    parallel_bind (find_same _ _ _) fun _ => parallel_bind nextId_same fun _ =>
    parallel_bind (write_same (.of_frame (fun _ _ _ _ => rfl) fun _ => rfl)) fun _ =>
    parallel_bind rebuildSnapshot_same fun _ => parallel_pure _

theorem commitDeployment_same (id : DeploymentId) :
    SameEitherWay first block block' (commitDeployment id) := by
  refine live_same (fun _ _ _ _ => rfl) fun s => parallel_bind (find_same _ _ _) fun dep =>
    parallel_bind (throwIf_same _ _) fun _ => parallel_bind (find_same _ _ _) fun dev =>
    parallel_bind (throwIf_same _ _) fun _ => parallel_bind (throwIf_same _ _) fun _ => ?_
  split
  · exact throw_same _
  · exact parallel_bind (find_same _ _ _) fun _ =>
      parallel_bind (write_same (.of_frame (fun _ _ _ _ => rfl) fun _ => rfl)) fun _ =>
      rebuildSnapshot_same

theorem registerWorker_same (worker : WorkerId) (boot : WorkerBootId) :
    SameEitherWay first block block' (registerWorker worker boot) := by
  refine parallel_bind (throwIf_same _ _) fun _ => parallel_bind (throwIf_same _ _) fun _ =>
    live_same (fun _ _ _ _ => rfl) fun s => ?_
  split
  · exact throwIf_same _ _
  · exact parallel_bind (write_same (.of_frame (fun _ _ _ _ => rfl) fun _ => rfl)) fun _ =>
      rebuildSnapshot_same

theorem importRecord_same (rec : DeviceRecord) :
    SameEitherWay first block block' (importRecord rec) := by
  intro e e' states
  have known : e'.state.devices.contains rec.deviceId = e.state.devices.contains rec.deviceId := by
    rw [states.state.devices]
  have call : SameEitherWay first block block'
      (if e.state.devices.contains rec.deviceId then updateDevice rec else registerDevice rec) := by
    split
    · exact updateDevice_same rec
    · exact registerDevice_same rec
  have both := call e e' states
  unfold importRecord
  dsimp only
  rw [known]
  generalize (if e.state.devices.contains rec.deviceId then updateDevice rec
    else registerDevice rec) = call at both
  revert both
  cases call e <;> cases call e' <;> intro both <;> cases both
  · rename_i states'
    exact .ok states'
  · rename_i fault _ _ states'
    cases fault with
    | thrown error => exact .ok states'
    | undefinedBehavior => exact .error states'

theorem runAllBackends_same (discovered : List (List DeviceRecord)) :
    SameEitherWay first block block' (runAllBackends discovered) :=
  forM_same _ fun records => forM_same records importRecord_same

end Engine

/-! ## Recovery -/

theorem blind_parserWrite {change : LiveState → LiveState}
    (writes : Persistence.ParserWrite change) : Blind first block block' change := by
  cases writes with
  | device d =>
      rintro s _ @⟨later, order, _, _, one, other⟩
      refine @LiveState.Rearranged.intro _ _ _
        { s with
          devices := s.devices.insert d.deviceId d
          deviceOrder := s.deviceOrder ++ [d.deviceId]
          ledgers := s.ledgers.insertIfNew d.deviceId ⟨d.resourceCapacity, {}⟩ }
        (later ++ [d.deviceId]) (order ++ [d.deviceId]) _ _ ?_ ?_
      · change s.deviceOrder ++ [d.deviceId] = _
        rw [one, List.append_assoc]
      · rw [other, List.append_assoc]
  | _ => exact .of_frame (fun _ _ _ _ => rfl) fun _ => rfl

theorem blind_fenceRecovered : Blind first block block' Persistence.fenceRecovered :=
  .of_frame (fun _ _ _ _ => rfl) fun _ => rfl

theorem blind_rebuildLedgers : Blind first block block' (·.rebuildLedgers) := by
  rintro s _ ⟨one, other⟩
  have visit : ∀ (did : DeviceId) (dev : DeviceRecord), Blind first block block' fun s =>
      { s with
        ledgers := s.ledgers.insertIfNew did ⟨dev.resourceCapacity, {}⟩
        usage := s.usage.insert did {} } :=
    fun _ _ => .of_frame (fun _ _ _ _ => rfl) fun _ => rfl
  refine OrderedMap.sweep_related (fun left right did dev states => visit did dev _ _ states) ?_
  exact .intro (s := { s with epoch := _ }) one other

theorem load_same (file : Option (List UInt8)) :
    Parallel (LiveState.Rearranged first block block') (Persistence.load file) :=
  Persistence.parallel_load (fun writes => blind_parserWrite writes) blind_fenceRecovered file

namespace Engine

theorem recoverFrom_same (file : Option (List UInt8)) :
    SameEitherWay first block block' (recoverFrom file) := by
  intro e e' states
  have both := load_same file _ _ states.state
  unfold recoverFrom
  revert both
  cases Persistence.load file e.state <;> cases Persistence.load file e'.state <;>
    intro both <;> cases both
  · rename_i existed s s' loaded
    have rebuilt : LiveState.Rearranged first block block'
        (if existed then s.rebuildLedgers else s) (if existed then s'.rebuildLedgers else s') := by
      split
      · exact blind_rebuildLedgers _ _ loaded
      · exact loaded
    exact .ok ⟨rebuilt, rebuilt.makeSnapshot, states.idSeq⟩
  · rename_i loaded
    exact .error ⟨loaded, states.snap, states.idSeq⟩

/-! ## Runs -/

theorem exec_same (op : Op) : SameEitherWay first block block' (exec op) := by
  cases op with
  | registerDevice rec => exact discard_same (registerDevice_same rec)
  | updateDevice rec => exact discard_same (updateDevice_same rec)
  | runAllBackends discovered => exact runAllBackends_same discovered
  | reserveDeployment req selected => exact discard_same (reserveDeployment_same req selected)
  | activateDeployment id => exact discard_same (activateDeployment_same id)
  | commitDeployment id => exact commitDeployment_same id
  | registerWorker worker boot => exact registerWorker_same worker boot
  | recoverFrom file => exact discard_same (recoverFrom_same file)
  | stageDeployment id => exact doDeployTransition_same id _
  | loadDeployment id => exact doDeployTransition_same id _
  | validateDeployment id => exact doDeployTransition_same id _
  | cancelDeployment id => exact endDeployment_same _ _ id
  | rollbackDeployment id => exact endDeployment_same _ _ id
  | drainDeployment id => exact endDeployment_same _ _ id
  | retireDeployment id => exact endDeployment_same _ _ id
  | failDeployment id code reason => exact endDeployment_same _ _ id
  | retireDevice id =>
      exact live_same (fun _ _ _ _ => rfl) fun _ => parallel_bind (find_same _ _ _) fun _ =>
        parallel_bind (write_same (blind_retireDevice id)) fun _ => rebuildSnapshot_same
  | transitionDevice id target =>
      exact live_same (fun _ _ _ _ => rfl) fun _ => parallel_bind (find_same _ _ _) fun _ =>
        parallel_bind (throwIf_same _ _) fun _ =>
        parallel_bind (write_same (blind_transitionDevice id target)) fun _ =>
        rebuildSnapshot_same
  | setDeviceState id state cap =>
      exact live_same (fun _ _ _ _ => rfl) fun _ => parallel_bind (find_same _ _ _) fun _ =>
        parallel_bind (write_same (blind_modifyDevice id _)) fun _ => rebuildSnapshot_same
  | fenceDevice id reason =>
      exact live_same (fun _ _ _ _ => rfl) fun _ => parallel_bind (find_same _ _ _) fun _ =>
        parallel_bind (write_same (blind_fenceDevice id reason)) fun _ => rebuildSnapshot_same
  | registerService svc =>
      exact discard_same <| parallel_bind (throwIf_same _ _) fun _ =>
        live_same (fun _ _ _ _ => rfl) fun _ => parallel_bind (throwIf_same _ _) fun _ =>
        parallel_bind (write_same (.of_frame (fun _ _ _ _ => rfl) fun _ => rfl)) fun _ =>
        parallel_bind rebuildSnapshot_same fun _ => parallel_pure _
  | registerProgram art =>
      exact discard_same <| parallel_bind (throwIf_same _ _) fun _ =>
        parallel_bind (throwIf_same _ _) fun _ =>
        parallel_bind (write_same (.of_frame (fun _ _ _ _ => rfl) fun _ => rfl)) fun _ =>
        parallel_bind rebuildSnapshot_same fun _ => parallel_pure _
  | retireProgram id =>
      exact live_same (fun _ _ _ _ => rfl) fun _ => parallel_bind (throwIf_same _ _) fun _ =>
        parallel_bind (write_same (.of_frame (fun _ _ _ _ => rfl) fun _ => rfl)) fun _ =>
        rebuildSnapshot_same
  | workerHeartbeat worker boot =>
      exact live_same (fun _ _ _ _ => rfl) fun _ => throwIf_same _ _
  | markWorkerLost worker =>
      exact parallel_bind (write_same (blind_markWorkerLost worker)) fun _ =>
        rebuildSnapshot_same
  | advanceEpoch =>
      exact parallel_bind (write_same (.of_frame (fun _ _ _ _ => rfl) fun _ => rfl)) fun _ =>
        rebuildSnapshot_same
  | applyRecovery p =>
      exact parallel_bind (write_same (blind_applyRecovery p)) fun _ => rebuildSnapshot_same

/-- No call takes two engines apart that differ in the order of arrival only. -/
theorem Rearranged.step {e e' : Engine} (states : e.Rearranged first block block' e') (op : Op) :
    (e.step op).Rearranged first block block' (e'.step op) := by
  have both := exec_same op e e' states
  unfold Engine.step after
  revert both
  cases exec op e <;> cases exec op e' <;> intro both <;> cases both <;> assumption

theorem Rearranged.run {e e' : Engine} (states : e.Rearranged first block block' e')
    (ops : List Op) : (e.run ops).Rearranged first block block' (e'.run ops) := by
  induction ops generalizing e e' with
  | nil => exact states
  | cons op rest ih => exact ih (states.step op)

end Engine

end DPUFabric
