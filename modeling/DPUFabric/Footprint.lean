import DPUFabric.Calls

/-!
# What an accepted call leaves of each record

Most calls touch the deployment table in one way only: they fence the
deployments they select and make the linked activations stale.  The registry
calls select none.  Five kinds of call concern one deployment each.  `Shape`
is this division, so that a property of the two tables has six cases.

`rewritten` gives the record each call leaves of a registered device.
-/

namespace DPUFabric

open Std
open LiveState

/-! ## Devices -/

/-- The record that an accepted call leaves of a registered device. -/
def Op.rewritten (op : Op) (id : DeviceId) (dev : DeviceRecord) : DeviceRecord :=
  match op with
  | .updateDevice rec => if rec.deviceId = id then rec else dev
  | .retireDevice target =>
      if target = id then
        { dev with lifecycle := .declared .retired, evidenceFresh := false }
      else dev
  | .transitionDevice target lifecycle =>
      if target = id then
        { dev with
          lifecycle := .declared lifecycle
          evidenceFresh := !isFencingTarget lifecycle && dev.evidenceFresh }
      else dev
  | .setDeviceState target state cap =>
      if target = id then
        { dev with
          capabilities := dev.capabilities.setState cap (.declared state) }
      else dev
  | .fenceDevice target reason =>
      if target = id then fencedRecord reason dev else dev
  | .markWorkerLost worker => orphaned worker dev
  | .applyRecovery p => recoveredRecord p dev
  | _ => dev

/-- The deployments that a call fences, in the state it is made in. -/
def Op.fences (op : Op) (s : LiveState) (dep : Deployment) : Bool :=
  match op with
  | .retireDevice id => occupies id dep
  | .transitionDevice id target => isFencingTarget target && runsOn id dep
  | .fenceDevice id _ => runsOn id dep
  | .markWorkerLost worker =>
      match s.workers[worker]? with
      | none => false
      | some boot => boundTo boot dep
  | .applyRecovery _ => isRunning dep
  | _ => false

namespace LiveState

/-! ## Sweeps which select nothing -/

theorem map_fencedWhere_of_none (s : LiveState) {selects : Deployment → Bool}
    (nothing : ∀ dep, selects dep = false) :
    (s.deployments.map fun _ dep => fencedWhere selects dep) = s.deployments := by
  apply ExtTreeMap.ext_getElem?
  intro id
  rw [ExtTreeMap.getElem?_map]
  cases s.deployments[id]? <;> simp [fencedWhere, nothing]

theorem staleActivations_of_none (s : LiveState) {selects : Deployment → Bool}
    (nothing : ∀ dep, selects dep = false) :
    s.staleActivations selects = s.activations := by
  apply ExtTreeMap.ext_getElem?
  intro aid
  rw [lookup_staleActivations, if_neg]
  rintro ⟨id, dep, -, chosen, -⟩
  rw [nothing] at chosen
  cases chosen

end LiveState

/-! ## The two tables -/

/-- How an accepted call changes the deployment and activation tables. -/
inductive Shape (s : LiveState) (seq : Nat) : Op → LiveState → Nat → Prop
  | swept {op : Op} {s' : LiveState}
      (deployments : s'.deployments =
        s.deployments.map fun _ dep => fencedWhere (op.fences s) dep)
      (activations : s'.activations = s.staleActivations (op.fences s)) :
      Shape s seq op s' seq
  | reserved {req : OffloadRequest} {device : DeviceId} {dev : DeviceRecord}
      {svc : Option ServiceDefinition} {ledger : ResourceLedger} {dep : Deployment}
      (present : s.devices[device]? = some dev) (ready : dev.isReadyForOffload = true)
      (offered : Offers s req svc) (accounted : s.ledgers[device]? = some ledger)
      (made : dep = s.reservedDeployment req device dev svc
        ⟨UInt64.ofNat seq⟩ ⟨UInt64.ofNat (seq + 1)⟩)
      (admitted : ledger.canReserve dep.resources = true) :
      Shape s seq (.reserveDeployment req (some device))
        (s.reserveDeployment (ledger.apply dep.resources) dep) (seq + 2)
  | moved {op : Op} {id : DeploymentId} {target : DeploymentState} {dep : Deployment}
      (moves : op.moves = some (id, target))
      (present : s.deployments[id]? = some dep)
      (valid : validDeploymentTransition dep.state target = true) :
      Shape s seq op (s.doDeployTransition id target) seq
  | activated {id : DeploymentId} {dep : Deployment}
      (present : s.deployments[id]? = some dep)
      (valid : validDeploymentTransition dep.state .activating = true) :
      Shape s seq (.activateDeployment id)
        ((s.doDeployTransition id .activating).activateDeployment id
          (pendingActivation dep id ⟨UInt64.ofNat seq⟩)) (seq + 1)
  | committed {id : DeploymentId} {dep : Deployment} {dev : DeviceRecord}
      {aid : ActivationId} {act : ActivationRecord}
      (present : s.deployments[id]? = some dep)
      (activating : dep.state = .activating)
      (located : s.devices[dep.device]? = some dev)
      (ready : dev.isReadyForOffload = true)
      (current : Engine.programIsCurrent s dep = true)
      (linked : dep.activation = some aid)
      (recorded : s.activations[aid]? = some act) :
      Shape s seq (.commitDeployment id)
        (s.commitDeployment id aid (s.grantedAuthority dep dev)) seq
  | ended {op : Op} {id : DeploymentId} {ending : Ending} {dep : Deployment}
      (ends : op.ends = some (id, ending))
      (present : s.deployments[id]? = some dep)
      (allowed : ending.allows dep.state = true) :
      Shape s seq op (s.endDeployment ending id dep) seq

/-- A call which selects no deployment and writes neither table. -/
theorem Shape.of_untouched {s s' : LiveState} {seq : Nat} {op : Op}
    (nothing : ∀ dep, op.fences s dep = false)
    (deployments : s'.deployments = s.deployments)
    (activations : s'.activations = s.activations) :
    Shape s seq op s' seq :=
  .swept (by rw [deployments, map_fencedWhere_of_none s nothing])
    (by rw [activations, staleActivations_of_none s nothing])

theorem Accepted.shape {s s' : LiveState} {seq seq' : Nat} {op : Op}
    (accepted : Accepted s seq op s' seq') :
    Shape s seq op s' seq' := by
  cases accepted with
  | registerDevice => exact .of_untouched (fun _ => rfl) rfl rfl
  | updateDevice => exact .of_untouched (fun _ => rfl) rfl rfl
  | retireDevice =>
      rw [LiveState.retireDevice, evictDeployments_eq]
      exact .swept rfl rfl
  | transitionDevice =>
      rename_i id target dev present valid
      cases withdraws : isFencingTarget target with
      | true =>
          have chosen : (Op.transitionDevice id target).fences s = runsOn id := by
            funext dep
            simp [Op.fences, withdraws]
          rw [LiveState.transitionDevice, if_pos withdraws, fenceDeployments_eq]
          exact .swept (by rw [chosen]; rfl) (by rw [chosen]; rfl)
      | false =>
          refine .of_untouched (fun _ => ?_) ?_ ?_
          · simp [Op.fences, withdraws]
          · simp [LiveState.transitionDevice, withdraws, modifyDevice]
          · simp [LiveState.transitionDevice, withdraws, modifyDevice]
  | setDeviceState => exact .of_untouched (fun _ => rfl) rfl rfl
  | fenceDevice =>
      rw [LiveState.fenceDevice, fenceDeployments_eq]
      exact .swept rfl rfl
  | registerService => exact .of_untouched (fun _ => rfl) rfl rfl
  | registerProgram => exact .of_untouched (fun _ => rfl) rfl rfl
  | retireProgram => exact .of_untouched (fun _ => rfl) rfl rfl
  | registerWorker => exact .of_untouched (fun _ => rfl) rfl rfl
  | markWorkerLost =>
      rename_i worker
      cases known : s.workers[worker]? with
      | none =>
          refine .of_untouched (fun _ => ?_) ?_ ?_
          · simp [Op.fences, known]
          · simp [LiveState.markWorkerLost, known]
          · simp [LiveState.markWorkerLost, known]
      | some boot =>
          have chosen : (Op.markWorkerLost worker).fences s = boundTo boot := by
            funext dep
            simp [Op.fences, known]
          simp only [LiveState.markWorkerLost, known, fenceDeployments_eq]
          exact .swept (by rw [chosen]) (by rw [chosen]; rfl)
  | reserveDeployment present ready offered accounted made admitted =>
      exact .reserved present ready offered accounted made admitted
  | moveDeployment moves present valid => exact .moved moves present valid
  | activateDeployment present valid => exact .activated present valid
  | commitDeployment present activating located ready current linked recorded =>
      exact .committed present activating located ready current linked recorded
  | endDeployment ends present allowed => exact .ended ends present allowed
  | advanceEpoch => exact .of_untouched (fun _ => rfl) rfl rfl
  | applyRecovery =>
      rw [LiveState.applyRecovery, fenceDeployments_eq]
      exact .swept rfl rfl

/-- The calls which concern no single deployment. -/
def Op.sweeps : Op → Bool
  | .reserveDeployment _ _ => false
  | .activateDeployment _ => false
  | .commitDeployment _ => false
  | op => op.moves.isNone && op.ends.isNone

theorem Op.not_sweeps_of_moves {op : Op} {target : DeploymentId × DeploymentState}
    (moves : op.moves = some target) : op.sweeps = false := by
  cases op <;> first | rfl | cases moves

theorem Op.not_sweeps_of_ends {op : Op} {target : DeploymentId × Ending}
    (ends : op.ends = some target) : op.sweeps = false := by
  cases op <;> first | rfl | cases ends

/-- Such a call only fences what it selects. -/
theorem Accepted.swept {s s' : LiveState} {seq seq' : Nat} {op : Op}
    (accepted : Accepted s seq op s' seq') (sweeps : op.sweeps = true) :
    (s'.deployments = s.deployments.map fun _ dep => fencedWhere (op.fences s) dep) ∧
      s'.activations = s.staleActivations (op.fences s) := by
  cases accepted.shape with
  | swept deployments activations => exact ⟨deployments, activations⟩
  | reserved => cases sweeps
  | moved moves => simp [Op.not_sweeps_of_moves moves] at sweeps
  | activated => cases sweeps
  | committed => cases sweeps
  | ended ends => simp [Op.not_sweeps_of_ends ends] at sweeps

/-! ## One deployment -/

/-- What an accepted call can make of a deployment that is in the table. -/
inductive DeploymentStep (s : LiveState) (seq : Nat) (op : Op) (id : DeploymentId)
    (dep : Deployment) : Deployment → Prop
  | kept (unfenced : op.fences s dep = false) : DeploymentStep s seq op id dep dep
  | fenced (chosen : op.fences s dep = true) :
      DeploymentStep s seq op id dep (fenced dep)
  /-- A reservation under an identity that is already taken. -/
  | replaced {req : OffloadRequest} {device : DeviceId} {dev : DeviceRecord}
      {svc : Option ServiceDefinition} {attempt : DeploymentAttemptId}
      (reserves : op = .reserveDeployment req (some device))
      (taken : id = ⟨UInt64.ofNat seq⟩) :
      DeploymentStep s seq op id dep
        (s.reservedDeployment req device dev svc id attempt)
  | moved {target : DeploymentState} (moves : op.moves = some (id, target))
      (valid : validDeploymentTransition dep.state target = true) :
      DeploymentStep s seq op id dep
        { dep with state := target, authoritative := target == .active }
  | activated (activates : op = .activateDeployment id)
      (valid : validDeploymentTransition dep.state .activating = true) :
      DeploymentStep s seq op id dep
        { dep with
          state := .activating
          authoritative := false
          activation := some ⟨UInt64.ofNat seq⟩
          activationGen := ⟨nextGeneration dep.activationGen.value⟩ }
  | committed {dev : DeviceRecord} (commits : op = .commitDeployment id)
      (activating : dep.state = .activating)
      (located : s.devices[dep.device]? = some dev)
      (ready : dev.isReadyForOffload = true)
      (current : Engine.programIsCurrent s dep = true) :
      DeploymentStep s seq op id dep
        { dep with state := .active, authoritative := true, epoch := s.epoch }
  | ended {ending : Ending} (ends : op.ends = some (id, ending))
      (allowed : ending.allows dep.state = true) :
      DeploymentStep s seq op id dep (ended ending dep)

/-- Only the sweeping calls fence anything. -/
theorem Op.not_fences_of_moves {op : Op} {target : DeploymentId × DeploymentState}
    (moves : op.moves = some target) (s : LiveState) (dep : Deployment) :
    op.fences s dep = false := by
  cases op <;> first | rfl | cases moves

theorem Op.not_fences_of_ends {op : Op} {target : DeploymentId × Ending}
    (ends : op.ends = some target) (s : LiveState) (dep : Deployment) :
    op.fences s dep = false := by
  cases op <;> first | rfl | cases ends

/-- A deployment in the table stays there, and takes one of these steps. -/
theorem Accepted.deployment_of_present {s s' : LiveState} {seq seq' : Nat} {op : Op}
    (accepted : Accepted s seq op s' seq') {id : DeploymentId} {dep : Deployment}
    (present : s.deployments[id]? = some dep) :
    ∃ dep', s'.deployments[id]? = some dep' ∧ DeploymentStep s seq op id dep dep' := by
  cases accepted.shape with
  | swept deployments activations =>
      rw [deployments, ExtTreeMap.getElem?_map, present]
      refine ⟨fencedWhere (op.fences s) dep, rfl, ?_⟩
      unfold fencedWhere
      split_ifs with chosen
      · exact .fenced chosen
      · exact .kept (by simpa using chosen)
  | reserved located ready offered accounted made admitted =>
      simp only [LiveState.reserveDeployment, OrderedMap.lookup_insert]
      split_ifs with taken
      · refine ⟨_, rfl, ?_⟩
        rw [made] at taken ⊢
        cases taken
        exact .replaced rfl rfl
      · exact ⟨dep, present, .kept rfl⟩
  | moved moves found valid =>
      rename_i target dep' id'
      simp only [LiveState.doDeployTransition, modifyDeployment, OrderedMap.lookup_modify]
      split_ifs with here
      · cases here
        rw [found] at present
        cases present
        exact ⟨_, by rw [found]; rfl, .moved moves valid⟩
      · exact ⟨dep, present, .kept (Op.not_fences_of_moves moves s dep)⟩
  | activated found valid =>
      rw [deployments_activateDeployment found]
      split_ifs with here
      · cases here
        rw [found] at present
        cases present
        exact ⟨_, rfl, .activated rfl valid⟩
      · exact ⟨dep, present, .kept rfl⟩
  | committed found activating located ready current linked recorded =>
      rw [deployments_commitDeployment found]
      split_ifs with here
      · cases here
        rw [found] at present
        cases present
        exact ⟨_, rfl, .committed rfl activating located ready current⟩
      · exact ⟨dep, present, .kept rfl⟩
  | ended ends found allowed =>
      simp only [endDeployment_eq, OrderedMap.lookup_modify]
      split_ifs with here
      · cases here
        rw [found] at present
        cases present
        exact ⟨_, by rw [found]; rfl, .ended ends allowed⟩
      · exact ⟨dep, present, .kept (Op.not_fences_of_ends ends s dep)⟩

/-- A deployment appears only by being reserved. -/
theorem Accepted.deployment_of_absent {s s' : LiveState} {seq seq' : Nat} {op : Op}
    (accepted : Accepted s seq op s' seq') {id : DeploymentId}
    (absent : s.deployments[id]? = none) :
    s'.deployments[id]? = none ∨
      ∃ req device dev svc attempt, op = .reserveDeployment req (some device) ∧
        id = ⟨UInt64.ofNat seq⟩ ∧ s.devices[device]? = some dev ∧
        dev.isReadyForOffload = true ∧ Offers s req svc ∧
        s'.deployments[id]? =
          some (s.reservedDeployment req device dev svc id attempt) := by
  cases accepted.shape with
  | swept deployments activations =>
      rw [deployments, ExtTreeMap.getElem?_map, absent]
      exact Or.inl rfl
  | reserved located ready offered accounted made admitted =>
      simp only [LiveState.reserveDeployment, OrderedMap.lookup_insert]
      split_ifs with taken
      · rw [made] at taken ⊢
        cases taken
        exact Or.inr ⟨_, _, _, _, _, rfl, rfl, located, ready, offered, rfl⟩
      · exact Or.inl absent
  | moved moves found valid =>
      left
      simp only [LiveState.doDeployTransition, modifyDeployment, OrderedMap.lookup_modify]
      split_ifs <;> simp [absent]
  | activated found valid =>
      left
      simp only [LiveState.activateDeployment, LiveState.doDeployTransition,
        modifyDeployment, OrderedMap.lookup_modify]
      split_ifs <;> simp [absent]
  | committed found activating located ready current linked recorded =>
      left
      simp only [LiveState.commitDeployment, modifyDeployment, OrderedMap.lookup_modify]
      split_ifs <;> simp [absent]
  | ended ends found allowed =>
      left
      simp only [endDeployment_eq, OrderedMap.lookup_modify]
      split_ifs <;> simp [absent]

/-- A reservation leaves every deployment but the one it adds. -/
theorem Accepted.reserved_elsewhere {s s' : LiveState} {seq seq' : Nat}
    {req : OffloadRequest} {selected : Option DeviceId}
    (accepted : Accepted s seq (.reserveDeployment req selected) s' seq')
    {other : DeploymentId} (differs : other ≠ ⟨UInt64.ofNat seq⟩) :
    s'.deployments[other]? = s.deployments[other]? := by
  cases accepted with
  | reserveDeployment present ready offered accounted made admitted =>
      rw [LiveState.reserveDeployment, OrderedMap.lookup_insert, made]
      exact if_neg (Ne.symm differs)
  | moveDeployment moves => cases moves
  | endDeployment ends => cases ends

/-! ## The other tables -/

section Frame

variable {s s' : LiveState} {seq seq' : Nat} {op : Op}

/-- A registered device keeps its entry, with the record the call leaves of it. -/
theorem Accepted.device_of_present
    (accepted : Accepted s seq op s' seq') {id : DeviceId} {dev : DeviceRecord}
    (present : s.devices[id]? = some dev) :
    s'.devices[id]? = some (op.rewritten id dev) := by
  cases accepted with
  | registerDevice named absent =>
      rename_i rec
      have apart : rec.deviceId ≠ id := by
        rintro rfl
        rw [absent] at present
        cases present
      simp [LiveState.registerDevice, OrderedMap.lookup_insert, apart, present,
        Op.rewritten]
  | updateDevice named known agrees =>
      simp only [LiveState.updateDevice, OrderedMap.lookup_insert, Op.rewritten]
      split_ifs
      · rfl
      · exact present
  | retireDevice known =>
      rw [LiveState.retireDevice, evictDeployments_eq]
      simp only [modifyDevice, OrderedMap.lookup_modify, present, Op.rewritten]
      split_ifs <;> rfl
  | transitionDevice known valid =>
      rename_i id' target dev'
      cases withdraws : isFencingTarget target with
      | true =>
          rw [LiveState.transitionDevice, if_pos withdraws, fenceDeployments_eq]
          simp only [modifyDevice, OrderedMap.lookup_modify, present, Op.rewritten,
            withdraws]
          split_ifs <;> rfl
      | false =>
          simp only [LiveState.transitionDevice, withdraws, modifyDevice,
            OrderedMap.lookup_modify, Op.rewritten]
          split_ifs <;> simp_all
  | setDeviceState known =>
      simp only [LiveState.setDeviceState, modifyDevice, OrderedMap.lookup_modify,
        present, Op.rewritten]
      split_ifs <;> rfl
  | fenceDevice known =>
      rw [LiveState.fenceDevice, fenceDeployments_eq]
      simp only [modifyDevice, OrderedMap.lookup_modify, present, Op.rewritten]
      split_ifs <;> rfl
  | markWorkerLost =>
      rename_i worker
      cases known : s.workers[worker]? with
      | none => simp [LiveState.markWorkerLost, known, present, Op.rewritten]
      | some boot =>
          simp [LiveState.markWorkerLost, known, fenceDeployments_eq, present,
            Op.rewritten]
  | moveDeployment moves =>
      have same : op.rewritten id dev = dev := by
        cases op <;> first | rfl | cases moves
      rw [same]
      exact present
  | endDeployment ends =>
      have same : op.rewritten id dev = dev := by
        cases op <;> first | rfl | cases ends
      rw [same, endDeployment_eq]
      exact present
  | applyRecovery =>
      rw [LiveState.applyRecovery, fenceDeployments_eq]
      simp [present, Op.rewritten]
  | _ => exact present

/-- A device appears only by being registered. -/
theorem Accepted.device_of_absent
    (accepted : Accepted s seq op s' seq') {id : DeviceId}
    (absent : s.devices[id]? = none) :
    s'.devices[id]? = none ∨
      ∃ rec, op = .registerDevice rec ∧ rec.deviceId = id ∧
        s'.devices[id]? = some rec := by
  cases accepted with
  | registerDevice named free =>
      rename_i rec
      by_cases here : rec.deviceId = id
      · exact Or.inr ⟨rec, rfl, here, by simp [LiveState.registerDevice, here]⟩
      · exact Or.inl (by
          simp [LiveState.registerDevice, OrderedMap.lookup_insert, here, absent])
  | updateDevice named known agrees =>
      rename_i rec old
      have apart : rec.deviceId ≠ id := by
        rintro rfl
        rw [absent] at known
        cases known
      exact Or.inl (by
        simp [LiveState.updateDevice, OrderedMap.lookup_insert, apart, absent])
  | retireDevice known =>
      rw [LiveState.retireDevice, evictDeployments_eq]
      exact Or.inl (by simp [modifyDevice, OrderedMap.lookup_modify, absent])
  | transitionDevice known valid =>
      rename_i id' target dev'
      left
      cases withdraws : isFencingTarget target with
      | true =>
          rw [LiveState.transitionDevice, if_pos withdraws, fenceDeployments_eq]
          simp [modifyDevice, OrderedMap.lookup_modify, absent]
      | false =>
          simp [LiveState.transitionDevice, withdraws, modifyDevice,
            OrderedMap.lookup_modify, absent]
  | setDeviceState known =>
      exact Or.inl (by
        simp [LiveState.setDeviceState, modifyDevice, OrderedMap.lookup_modify, absent])
  | fenceDevice known =>
      rw [LiveState.fenceDevice, fenceDeployments_eq]
      exact Or.inl (by simp [modifyDevice, OrderedMap.lookup_modify, absent])
  | markWorkerLost =>
      rename_i worker
      left
      cases known : s.workers[worker]? with
      | none => simp [LiveState.markWorkerLost, known, absent]
      | some boot =>
          simp [LiveState.markWorkerLost, known, fenceDeployments_eq, absent]
  | endDeployment ends =>
      rw [endDeployment_eq]
      exact Or.inl absent
  | applyRecovery =>
      rw [LiveState.applyRecovery, fenceDeployments_eq]
      exact Or.inl (by simp [absent])
  | _ => exact Or.inl absent

/-- A worker is known with the boot it registered. -/
theorem Accepted.worker_of_present
    (accepted : Accepted s seq op s' seq') {worker : WorkerId} {boot : WorkerBootId}
    (present : s'.workers[worker]? = some boot) :
    s.workers[worker]? = some boot ∨
      op = .registerWorker worker boot ∧ boot ≠ .null := by
  cases accepted with
  | registerWorker named booted absent =>
      rename_i worker' boot'
      rw [LiveState.registerWorker, OrderedMap.lookup_insert] at present
      split_ifs at present with here
      · cases here
        cases present
        exact Or.inr ⟨rfl, booted⟩
      · exact Or.inl present
  | markWorkerLost =>
      rename_i worker'
      left
      cases known : s.workers[worker']? with
      | none => simpa [LiveState.markWorkerLost, known] using present
      | some boot' =>
          simp only [LiveState.markWorkerLost, known, fenceDeployments_eq,
            ExtTreeMap.getElem?_erase] at present
          split_ifs at present
          exact present
  | retireDevice =>
      rw [LiveState.retireDevice, evictDeployments_eq] at present
      exact Or.inl present
  | transitionDevice =>
      rename_i id target dev known valid
      left
      cases withdraws : isFencingTarget target with
      | true =>
          rw [LiveState.transitionDevice, if_pos withdraws, fenceDeployments_eq] at present
          exact present
      | false => simpa [LiveState.transitionDevice, withdraws, modifyDevice] using present
  | fenceDevice =>
      rw [LiveState.fenceDevice, fenceDeployments_eq] at present
      exact Or.inl present
  | applyRecovery =>
      rw [LiveState.applyRecovery, fenceDeployments_eq] at present
      exact Or.inl present
  | endDeployment =>
      rw [endDeployment_eq] at present
      exact Or.inl present
  | _ => exact Or.inl present

end Frame

end DPUFabric
