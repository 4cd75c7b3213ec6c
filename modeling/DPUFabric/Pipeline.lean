import DPUFabric.AdmittedResources
import DPUFabric.DeployedProgram
import DPUFabric.Library.Exceptions

/-!
# The deployment pipeline

`CREATE_DEPLOYMENT` evaluates a request and takes the deployment to `ACTIVE` in
six more calls, with nothing in between.  An error path only replies, so a call
that threw half way would leave a reservation behind.  None does: what the
evaluation found is what the later calls test again.
-/

namespace DPUFabric

open Std
open LiveState

/-! ## The pipeline -/

/-- The engine calls of `CREATE_DEPLOYMENT`: the new deployment and its device, if any. -/
def Engine.createDeployment (F : Type) [ScoreArith F] (req : OffloadRequest) :
    EngineM (Option (DeploymentId × DeviceId)) := do
  let e ← get
  match e.evaluate F req with
  | .error fault => throw fault
  | .ok elig =>
      match elig.selected with
      | none => return none
      | some device =>
          let dep ← Engine.reserveDeployment req elig.selected
          Engine.stageDeployment dep
          Engine.loadDeployment dep
          Engine.validateDeployment dep
          let _ ← Engine.activateDeployment dep
          Engine.commitDeployment dep
          return some (dep, device)

theorem Engine.get_bind {β : Type} (next : Engine → EngineM β) (e : Engine) :
    ((get : EngineM Engine) >>= next) e = next e e :=
  rfl

/-! ## One deployment on its way -/

/-- The live state with one deployment written over. -/
def LiveState.withDeployment (s : LiveState) (id : DeploymentId) (dep : Deployment) : LiveState :=
  { s with deployments := s.deployments.insert id dep }

/-- The live state with one activation written over. -/
def LiveState.withActivation (s : LiveState) (act : ActivationRecord) : LiveState :=
  { s with activations := s.activations.insert act.activationId act }

/-- The live state with a ledger written over. -/
def LiveState.charged (s : LiveState) (device : DeviceId) (ledger : ResourceLedger) : LiveState :=
  { s with
    ledgers := s.ledgers.insert device ledger
    usage := s.usage.insert device ledger.current }

@[simp]
theorem lookup_withDeployment (s : LiveState) (id : DeploymentId) (dep : Deployment) :
    (s.withDeployment id dep).deployments[id]? = some dep := by
  simp [LiveState.withDeployment]

theorem modifyDeployment_withDeployment (s : LiveState) (id : DeploymentId) (dep : Deployment)
    (change : Deployment → Deployment) :
    (s.withDeployment id dep).modifyDeployment id change =
      s.withDeployment id (change dep) := by
  simp only [LiveState.withDeployment, modifyDeployment, OrderedMap.modify_insert_self]

section Way

variable {e : Engine} {base : LiveState} {id : DeploymentId} {dep : Deployment}

theorem Engine.doDeployTransition_returns {target : DeploymentState}
    (state : e.state = base.withDeployment id dep)
    (valid : validDeploymentTransition dep.state target = true) :
    ∃ e', Engine.doDeployTransition id target e = .ok () e' ∧ e'.idSeq = e.idSeq ∧
      e'.state = base.withDeployment id
        { dep with state := target, authoritative := target == .active } := by
  have present : e.state.deployments[id]? = some dep := by
    rw [state, lookup_withDeployment]
  refine ⟨{ e with
    state := e.state.doDeployTransition id target
    snap := makeSnapshot (e.state.doDeployTransition id target) }, ?_, rfl, ?_⟩
  · simp [Engine.doDeployTransition, Engine.find_bind_some _ present, valid]
  · change e.state.doDeployTransition id target = _
    rw [state, LiveState.doDeployTransition, modifyDeployment_withDeployment]

theorem Engine.activateDeployment_returns (state : e.state = base.withDeployment id dep)
    (valid : validDeploymentTransition dep.state .activating = true) :
    ∃ e', Engine.activateDeployment id e = .ok ⟨UInt64.ofNat e.idSeq⟩ e' ∧
      e'.state =
        (base.withActivation (pendingActivation dep id ⟨UInt64.ofNat e.idSeq⟩)).withDeployment id
          (dep.activating ⟨UInt64.ofNat e.idSeq⟩) := by
  obtain ⟨e₁, moved, counted, state₁⟩ := Engine.doDeployTransition_returns state valid
  have present : e₁.state.deployments[id]? =
      some { dep with state := .activating, authoritative := false } := by
    rw [state₁, lookup_withDeployment]
    rfl
  have written : e₁.state.activateDeployment id
        (pendingActivation { dep with state := .activating, authoritative := false } id
          ⟨UInt64.ofNat e.idSeq⟩) =
      (base.withActivation (pendingActivation dep id ⟨UInt64.ofNat e.idSeq⟩)).withDeployment id
        (dep.activating ⟨UInt64.ofNat e.idSeq⟩) := by
    rw [state₁, LiveState.activateDeployment, modifyDeployment_withDeployment]
    rfl
  generalize after : e₁.state.activateDeployment id _ = s at written
  refine ⟨{ state := s, snap := makeSnapshot s, idSeq := e.idSeq + 1 }, ?_, written⟩
  rw [Engine.activateDeployment, Exceptions.bind_of_ok moved]
  simp [Engine.find_bind_some _ present, counted, after]

theorem Engine.commitDeployment_returns {dev : DeviceRecord} {act : ActivationRecord}
    (state : e.state = (base.withActivation act).withDeployment id dep)
    (activating : dep.state = .activating)
    (located : base.devices[dep.device]? = some dev) (ready : dev.isReadyForOffload = true)
    (current : Engine.programIsCurrent base dep = true)
    (linked : dep.activation = some act.activationId) :
    ∃ e', Engine.commitDeployment id e = .ok () e' ∧
      e'.state =
        (base.withActivation
          { act with
            authority := base.grantedAuthority dep dev
            state := .active
            reason := text "committed" }).withDeployment id
          { dep with state := .active, authoritative := true, epoch := base.epoch } := by
  have present : e.state.deployments[id]? = some dep := by
    rw [state, lookup_withDeployment]
  have found : e.state.devices[dep.device]? = some dev := by
    rw [state]
    exact located
  have checked : Engine.programIsCurrent e.state dep = true := by
    rw [state]
    exact current
  have recorded : e.state.activations[act.activationId]? = some act := by
    rw [state]
    simp [LiveState.withActivation, LiveState.withDeployment]
  have written : e.state.commitDeployment id act.activationId (e.state.grantedAuthority dep dev) =
      (base.withActivation
        { act with
          authority := base.grantedAuthority dep dev
          state := .active
          reason := text "committed" }).withDeployment id
        { dep with state := .active, authoritative := true, epoch := base.epoch } := by
    rw [LiveState.commitDeployment, state]
    simp only [LiveState.withActivation, LiveState.withDeployment, modifyDeployment,
      OrderedMap.modify_insert_self]
    rfl
  generalize after : e.state.commitDeployment id act.activationId _ = s at written
  refine ⟨{ state := s, snap := makeSnapshot s, idSeq := e.idSeq }, ?_, written⟩
  simp [Engine.commitDeployment, Engine.find_bind_some _ present, activating,
    Engine.find_bind_some _ found, ready, checked, linked, Engine.find_bind_some _ recorded,
    after]

/-- The other way a commit can end, if the device is ready. -/
theorem Engine.commitDeployment_stale {dev : DeviceRecord}
    (state : e.state = base.withDeployment id dep) (activating : dep.state = .activating)
    (located : base.devices[dep.device]? = some dev) (ready : dev.isReadyForOffload = true)
    (stale : Engine.programIsCurrent base dep = false) :
    Engine.commitDeployment id e =
      .error (.error .staleProgramGeneration "program generation no longer current") e := by
  have present : e.state.deployments[id]? = some dep := by
    rw [state, lookup_withDeployment]
  have found : e.state.devices[dep.device]? = some dev := by
    rw [state]
    exact located
  have checked : Engine.programIsCurrent e.state dep = false := by
    rw [state]
    exact stale
  simp [Engine.commitDeployment, Engine.find_bind_some _ present, activating,
    Engine.find_bind_some _ found, ready, checked]

end Way

/-! ## What runs without recovery guarantee -/

/-- No artifact is stored under the null generation. -/
def Versioned (s : LiveState) : Prop :=
  ∀ (pid : ProgramId) (gens : ExtTreeMap ProgramGeneration ProgramArtifact),
    s.programs[pid]? = some gens → gens[(.null : ProgramGeneration)]? = none

theorem Accepted.versioned {s s' : LiveState} {seq seq' : Nat} {op : Op}
    (accepted : Accepted s seq op s' seq') (versioned : Versioned s) : Versioned s' := by
  cases registers : op.registers with
  | false =>
      intro pid gens stored
      rw [(accepted.sameRegistry registers).programs] at stored
      exact versioned pid gens stored
  | true =>
      cases accepted with
      | registerDevice => exact versioned
      | registerService => exact versioned
      | retireProgram => exact versioned
      | registerProgram named nonnull =>
          rename_i art
          intro pid gens stored
          rw [lookup_registerProgram] at stored
          split_ifs at stored with same
          · cases stored
            rw [OrderedMap.lookup_insert, if_neg nonnull, ExtTreeMap.getD_eq_getD_getElem?]
            cases known : s.programs[art.programId]? with
            | none => simp
            | some gens => exact versioned _ gens known
          · exact versioned pid gens stored
      | moveDeployment => exact versioned
      | endDeployment => rw [endDeployment_eq]; exact versioned
      | _ => cases registers

theorem Versioned.noNullArtifact {s : LiveState} (versioned : Versioned s) :
    (makeSnapshot s).NoNullArtifact := by
  intro pid
  unfold findCurrentProgram
  split
  · rfl
  · rename_i gens stored
    exact versioned pid gens stored

/--
Deployments are numbered from 1, and activations from 3: the first identities go to
a deployment and its attempt.
-/
structure Numbered (s : LiveState) (seq : Nat) : Prop where
  positive : 1 ≤ seq
  deployments : ∀ (id : DeploymentId) (dep : Deployment),
    s.deployments[id]? = some dep → 1 ≤ id.value.toNat ∧ 3 ≤ seq
  activations : ∀ (aid : ActivationId) (act : ActivationRecord),
    s.activations[aid]? = some act → 3 ≤ aid.value.toNat

theorem Numbered.mono {s : LiveState} {seq seq' : Nat} (grows : seq ≤ seq')
    (numbered : Numbered s seq) : Numbered s seq' where
  positive := numbered.positive.trans grows
  deployments id dep present :=
    ⟨(numbered.deployments id dep present).1, (numbered.deployments id dep present).2.trans grows⟩
  activations := numbered.activations

theorem Accepted.numbered {s s' : LiveState} {seq seq' : Nat} {op : Op}
    (accepted : Accepted s seq op s' seq') (room : seq' ≤ 2 ^ 64)
    (numbered : Numbered s seq) : Numbered s' seq' := by
  refine ⟨numbered.positive.trans accepted.seq_le, ?_, ?_⟩
  · intro id dep' present'
    cases present : s.deployments[id]? with
    | some dep =>
        obtain ⟨positive, three⟩ := numbered.deployments id dep present
        exact ⟨positive, three.trans accepted.seq_le⟩
    | none =>
        rcases accepted.deployment_of_absent present with
          gone | ⟨req, device, dev, svc, attempt, rfl, rfl, -⟩
        · rw [gone] at present'
          cases present'
        · have positive := numbered.positive
          have consumed : seq' = seq + 2 := by
            cases accepted with
            | reserveDeployment => rfl
            | moveDeployment moves => cases moves
            | endDeployment ends => cases ends
          rw [toNat_ofNat_of_lt (by omega)]
          exact ⟨positive, by omega⟩
  · intro aid act' recorded'
    cases recorded : s.activations[aid]? with
    | some act => exact numbered.activations aid act recorded
    | none =>
        obtain ⟨rfl, consumed, id, dep, present⟩ :=
          accepted.activation_of_absent recorded recorded'
        rw [toNat_ofNat_of_lt (consumed.trans_le room)]
        exact (numbered.deployments id dep present).2

/-- What the pipeline relies on. -/
structure Regular (e : Engine) : Prop where
  published : e.snap = makeSnapshot e.state
  versioned : Versioned e.state
  numbered : Numbered e.state e.idSeq
  linked : Linked e.state e.idSeq

theorem Engine.regular_run (epoch : CoordinatorEpoch) (policy : Policy) {ops : List Op}
    (ordinary : ∀ op ∈ ops, Engine.recovers op = false)
    (room : (Engine.run (Engine.fresh epoch policy) ops).idSeq ≤ 2 ^ 64) :
    Regular (Engine.run (Engine.fresh epoch policy) ops) := by
  suffices invariant : (Engine.run (Engine.fresh epoch policy) ops).snap =
        makeSnapshot (Engine.run (Engine.fresh epoch policy) ops).state ∧
      Versioned (Engine.run (Engine.fresh epoch policy) ops).state ∧
      ((Engine.run (Engine.fresh epoch policy) ops).idSeq ≤ 2 ^ 64 →
        Numbered (Engine.run (Engine.fresh epoch policy) ops).state
          (Engine.run (Engine.fresh epoch policy) ops).idSeq) by
    obtain ⟨published, versioned, numbered⟩ := invariant
    exact ⟨published, versioned, numbered room,
      (Engine.linked_run epoch policy ordinary room).1⟩
  refine TransitionRun.run_invariant (P := fun _ op => Engine.recovers op = false)
    (fun e : Engine => e.snap = makeSnapshot e.state ∧ Versioned e.state ∧
      (e.idSeq ≤ 2 ^ 64 → Numbered e.state e.idSeq)) ?_ ?_
    (TransitionRun.every_of_forall_mem _ ordinary)
  · rintro e op ordinary ⟨published, versioned, numbered⟩
    refine ⟨e.step_snap ordinary published, ?_, ?_⟩
    · exact Engine.step_keeps (fun s _ => Versioned s) (fun _ holds => holds)
        (fun accepted holds => accepted.versioned holds) e ordinary versioned
    · exact Engine.step_keeps (fun s seq => seq ≤ 2 ^ 64 → Numbered s seq)
        (fun grows holds room => (holds (grows.trans room)).mono grows)
        (fun accepted holds room =>
          accepted.numbered room (holds (accepted.seq_le.trans room))) e ordinary numbered
  · refine ⟨rfl, ?_, fun _ => ⟨?_, ?_, ?_⟩⟩ <;> simp [Versioned, Engine.fresh]

/-! ## New identities -/

section Fresh

variable {s : LiveState} {seq : Nat}

/-- The counter stands on no deployment, even where it has just wrapped. -/
theorem fresh_deployment (numbered : Numbered s seq) (linked : Linked s seq)
    (room : seq ≤ 2 ^ 64) : s.deployments[(⟨UInt64.ofNat seq⟩ : DeploymentId)]? = none := by
  cases present : s.deployments[(⟨UInt64.ofNat seq⟩ : DeploymentId)]? with
  | none => rfl
  | some dep =>
      have below := linked.deploymentIds _ dep present
      have positive := (numbered.deployments _ dep present).1
      simp only [UInt64.toNat_ofNat'] at below positive
      omega

/-- Nor on an activation, two identities later. -/
theorem fresh_activation (numbered : Numbered s seq) (linked : Linked s seq)
    (room : seq ≤ 2 ^ 64) :
    s.activations[(⟨UInt64.ofNat (seq + 2)⟩ : ActivationId)]? = none := by
  cases recorded : s.activations[(⟨UInt64.ofNat (seq + 2)⟩ : ActivationId)]? with
  | none => rfl
  | some act =>
      have below := linked.activationIds _ act recorded
      have three := numbered.activations _ act recorded
      simp only [UInt64.toNat_ofNat'] at below three
      omega

end Fresh

/-! ## The outcome -/

/-- The request names no program of its own, so the program is the one that was checked. -/
theorem programIsCurrent_of_suits {F : Type} [ScoreArith F] {e e' : Engine}
    {req : OffloadRequest} {did : DeviceId} {id : DeploymentId} {dev : DeviceRecord}
    {svc : Option ServiceDefinition} {ledger : ResourceLedger} {dep : Deployment}
    (unset : req.requiredProgram = none) (versioned : Versioned e.state)
    (reserves : Reserves e req did id e' dev svc ledger dep)
    (suits : Suits F (makeSnapshot e.state) req svc did dev) :
    Engine.programIsCurrent e.state dep = true := by
  have program : dep.program = boundProgram req svc := by
    rw [reserves.made]
    rfl
  have one : NamesOneProgram req svc := by
    intro p named
    rw [unset] at named
    cases named
  unfold Engine.programIsCurrent
  by_cases null : dep.program = .null
  · simp [null]
  have wanted : wantedProgram req svc = some dep.program := by
    rw [wantedProgram_eq_boundProgram one, ← program, if_neg null]
  obtain ⟨art, found, -⟩ := suits.program _ wanted
  have bound : dep.programGen = (makeSnapshot e.state).currentGen dep.program := by
    rw [← getD_eq_currentGen, program, reserves.made]
    have nonnull : (boundProgram req svc).isNull = false := by
      rw [← program]
      exact (Id.isNull_eq_false_iff _).mpr null
    change (if (boundProgram req svc).isNull then _ else _) = _
    rw [nonnull]
    rfl
  cases recorded : e.state.currentProgramGen[dep.program]? with
  | none =>
      rw [← getD_eq_currentGen, ExtTreeMap.getD_eq_getD_getElem?, recorded, Option.getD_none,
        versioned.noNullArtifact dep.program] at found
      cases found
  | some gen =>
      rw [bound, ← getD_eq_currentGen, ExtTreeMap.getD_eq_getD_getElem?, recorded]
      simp

/-- One deployment more on a device, which is active, and nothing else changed. -/
structure Deployed (s : LiveState) (req : OffloadRequest) (did : DeviceId) (id : DeploymentId)
    (s' : LiveState) (dep : Deployment) (act : ActivationRecord) (ledger : ResourceLedger) :
    Prop where
  differs : s' =
    { s with
      deployments := s.deployments.insert id dep
      activations := s.activations.insert act.activationId act
      ledgers := s.ledgers.insert did (ledger.apply dep.resources)
      usage := s.usage.insert did (ledger.apply dep.resources).current }
  newDeployment : s.deployments[id]? = none
  newActivation : s.activations[act.activationId]? = none
  deploymentId : dep.deploymentId = id
  device : dep.device = did
  active : dep.state = .active
  authoritative : dep.authoritative = true
  resources : dep.resources = requestedResources req ((makeSnapshot s).requestedService req)
  accounted : s.ledgers[did]? = some ledger
  admitted : ledger.canReserve dep.resources = true
  linked : dep.activation = some act.activationId
  owner : act.deploymentId = id
  granted : act.state = .active
  epoch : act.authority.epoch = s.epoch
  /-- The activation is the only one of the deployment. -/
  only : ∀ (aid : ActivationId) (other : ActivationRecord),
    s.activations[aid]? = some other → other.deploymentId ≠ id

/-- The ways the pipeline can end: at the first two calls, or with a deployment. -/
inductive PipelineOutcome (F : Type) [ScoreArith F] (req : OffloadRequest) (e : Engine) : Prop
  | evaluateThrows {fault : Fault} (thrown : e.evaluate F req = .error fault)
      (result : Engine.createDeployment F req e = .error fault e)
  | nothingSelected {elig : EligibilityResult F} (evaluated : e.evaluate F req = .ok elig)
      (unselected : elig.selected = none)
      (result : Engine.createDeployment F req e = .ok none e)
  | reserveThrows {elig : EligibilityResult F} {fault : Fault} {e' : Engine}
      (evaluated : e.evaluate F req = .ok elig)
      (thrown : Engine.reserveDeployment req elig.selected e = .error fault e')
      (result : Engine.createDeployment F req e = .error fault e')
      (state : e'.state = e.state) (snap : e'.snap = e.snap)
  | deployed {elig : EligibilityResult F} {did : DeviceId} {id : DeploymentId} {e' : Engine}
      {dep : Deployment} {act : ActivationRecord} {ledger : ResourceLedger}
      (evaluated : e.evaluate F req = .ok elig) (chosen : elig.selected = some did)
      (result : Engine.createDeployment F req e = .ok (some (id, did)) e')
      (deployed : Deployed e.state req did id e'.state dep act ledger)

section Outcome

variable {F : Type} [ScoreArith F] {e : Engine} {req : OffloadRequest}

theorem createDeployment_of_error {fault : Fault} (thrown : e.evaluate F req = .error fault) :
    Engine.createDeployment F req e = .error fault e := by
  rw [Engine.createDeployment, Engine.get_bind, thrown]
  rfl

theorem createDeployment_of_unselected {elig : EligibilityResult F}
    (evaluated : e.evaluate F req = .ok elig) (unselected : elig.selected = none) :
    Engine.createDeployment F req e = .ok none e := by
  rw [Engine.createDeployment, Engine.get_bind, evaluated]
  simp only [unselected]
  rfl

theorem createDeployment_of_selected {elig : EligibilityResult F} {did : DeviceId}
    (evaluated : e.evaluate F req = .ok elig) (chosen : elig.selected = some did) :
    Engine.createDeployment F req e =
      (do
        let dep ← Engine.reserveDeployment req (some did)
        Engine.stageDeployment dep
        Engine.loadDeployment dep
        Engine.validateDeployment dep
        let _ ← Engine.activateDeployment dep
        Engine.commitDeployment dep
        return some (dep, did) : EngineM (Option (DeploymentId × DeviceId))) e := by
  rw [Engine.createDeployment, Engine.get_bind, evaluated]
  simp only [chosen]

/-- Once the reservation has returned, the pipeline gets as far as the commit. -/
theorem createDeployment_of_reserves {e' : Engine} {elig : EligibilityResult F} {did : DeviceId}
    {id : DeploymentId} {dev : DeviceRecord} {svc : Option ServiceDefinition}
    {ledger : ResourceLedger} {dep : Deployment}
    (evaluated : e.evaluate F req = .ok elig) (chosen : elig.selected = some did)
    (returned : Engine.reserveDeployment req (some did) e = .ok id e')
    (reserves : Reserves e req did id e' dev svc ledger dep) :
    ∃ e₄, Engine.createDeployment F req e =
        (do
          Engine.commitDeployment id
          return some (id, did) : EngineM (Option (DeploymentId × DeviceId))) e₄ ∧
      e₄.state =
        ((e.state.charged did (ledger.apply dep.resources)).withActivation
          (pendingActivation dep id ⟨UInt64.ofNat (e.idSeq + 2)⟩)).withDeployment id
          (dep.activating ⟨UInt64.ofNat (e.idSeq + 2)⟩) := by
  have named : dep.deploymentId = id := by
    rw [reserves.made, reserves.issued]
    rfl
  have reserved : dep.state = .reserved := by rw [reserves.made]; rfl
  have state : e'.state =
      (e.state.charged did (ledger.apply dep.resources)).withDeployment id dep := by
    rw [reserves.state, LiveState.reserveDeployment, reserves.device, named]
    rfl
  have stages : validDeploymentTransition dep.state .staging = true := by rw [reserved]; rfl
  have loads : validDeploymentTransition .staging .loaded = true := rfl
  have validates : validDeploymentTransition .loaded .validating = true := rfl
  obtain ⟨e₁, staged, seq₁, state₁⟩ := Engine.doDeployTransition_returns state stages
  obtain ⟨e₂, loaded, seq₂, state₂⟩ := Engine.doDeployTransition_returns state₁ loads
  obtain ⟨e₃, validated, seq₃, state₃⟩ := Engine.doDeployTransition_returns state₂ validates
  obtain ⟨e₄, activated, state₄⟩ := Engine.activateDeployment_returns state₃ rfl
  have seq₄ : e₃.idSeq = e.idSeq + 2 := by
    rw [seq₃, seq₂, seq₁, reserves.idSeq]
  rw [seq₄] at activated state₄
  refine ⟨e₄, ?_, state₄⟩
  rw [createDeployment_of_selected evaluated chosen, Exceptions.bind_of_ok returned,
    Engine.stageDeployment, Exceptions.bind_of_ok staged,
    Engine.loadDeployment, Exceptions.bind_of_ok loaded,
    Engine.validateDeployment, Exceptions.bind_of_ok validated,
    Exceptions.bind_of_ok activated]

/-- If the program is the one that was checked, the commit returns as well. -/
theorem createDeployment_of_current {e' : Engine} {elig : EligibilityResult F} {did : DeviceId}
    {id : DeploymentId} {dev : DeviceRecord} {svc : Option ServiceDefinition}
    {ledger : ResourceLedger} {dep : Deployment}
    (evaluated : e.evaluate F req = .ok elig) (chosen : elig.selected = some did)
    (returned : Engine.reserveDeployment req (some did) e = .ok id e')
    (reserves : Reserves e req did id e' dev svc ledger dep)
    (current : Engine.programIsCurrent e.state dep = true)
    (regular : Regular e) (room : e.idSeq ≤ 2 ^ 64) : PipelineOutcome F req e := by
  have named : dep.deploymentId = id := by
    rw [reserves.made, reserves.issued]
    rfl
  have located : e.state.devices[dep.device]? = some dev := by
    rw [reserves.device]
    exact reserves.present
  obtain ⟨e₄, reached, state₄⟩ := createDeployment_of_reserves evaluated chosen returned reserves
  obtain ⟨e₅, committed, state₅⟩ :=
    Engine.commitDeployment_returns state₄ rfl located reserves.ready current rfl
  have result : Engine.createDeployment F req e = .ok (some (id, did)) e₅ := by
    rw [reached, Exceptions.bind_of_ok committed]
    rfl
  refine .deployed evaluated chosen result
    { differs := state₅
      newDeployment := ?_
      newActivation := fresh_activation regular.numbered regular.linked room
      deploymentId := named
      device := reserves.device
      active := rfl
      authoritative := rfl
      resources := ?_
      accounted := reserves.accounted
      admitted := reserves.admitted
      linked := rfl
      owner := rfl
      granted := rfl
      epoch := rfl
      only := ?_ }
  · rw [reserves.issued]
    exact fresh_deployment regular.numbered regular.linked room
  · change dep.resources = _
    rw [reserves.made, ← reserves.offered.eq_requestedService]
    rfl
  · rintro aid other recorded rfl
    obtain ⟨owner, present, -⟩ := regular.linked.owner aid other recorded
    rw [reserves.issued, fresh_deployment regular.numbered regular.linked room] at present
    cases present

end Outcome

/--
The pipeline is a transaction: it ends at the evaluation or at the reservation and
leaves the live state as it was, or it ends with one active deployment more.
-/
theorem createDeployment_atomic (F : Type) [ScoreArith F] (epoch : CoordinatorEpoch)
    (policy : Policy) (ops : List Op) (ordinary : ∀ op ∈ ops, Engine.recovers op = false)
    (room : (Engine.run (Engine.fresh epoch policy) ops).idSeq ≤ 2 ^ 64)
    (req : OffloadRequest) (unset : req.requiredProgram = none) :
    PipelineOutcome F req (Engine.run (Engine.fresh epoch policy) ops) := by
  have regular := Engine.regular_run epoch policy ordinary room
  generalize Engine.run (Engine.fresh epoch policy) ops = e at room regular ⊢
  cases evaluated : e.evaluate F req with
  | error fault => exact .evaluateThrows evaluated (createDeployment_of_error evaluated)
  | ok elig =>
  cases chosen : elig.selected with
  | none => exact .nothingSelected evaluated chosen (createDeployment_of_unselected evaluated chosen)
  | some did =>
  cases returned : Engine.reserveDeployment req (some did) e with
  | error fault e' =>
      have quiet := Engine.quiet_of_reserve_throws returned
      refine .reserveThrows evaluated (by rw [chosen]; exact returned) ?_ quiet.state quiet.snap
      rw [createDeployment_of_selected evaluated chosen, Exceptions.bind_of_error returned]
  | ok id e' =>
      obtain ⟨dev, svc, ledger, dep, reserves⟩ := Engine.reserves_of_returns returned
      obtain ⟨-, found, published, clean⟩ := selected_passed evaluated chosen
      obtain ⟨-, -, suits⟩ := (rejections_eq_nil_iff _ _ _ _ _).mp clean
      rw [regular.published] at published suits
      have same : found = dev := Option.some.inj (published.symm.trans reserves.present)
      change Suits F (makeSnapshot e.state) req ((makeSnapshot e.state).requestedService req)
        did found at suits
      rw [same, ← reserves.offered.eq_requestedService] at suits
      exact createDeployment_of_current evaluated chosen returned reserves
        (programIsCurrent_of_suits unset regular.versioned reserves suits) regular room

theorem createDeployment_atomic_sample :
    ∃ id e' dep act ledger,
      Engine.createDeployment ℚ cryptoRequest cryptoEngine = .ok (some (id, ⟨1⟩)) e' ∧
        Deployed cryptoEngine.state cryptoRequest ⟨1⟩ id e'.state dep act ledger := by
  obtain ⟨result, evaluated, selected⟩ := evaluate_cryptoEngine
  cases createDeployment_atomic ℚ ⟨1⟩ (Policy.defaults ⟨1⟩) [.registerDevice cryptoDevice]
    (by decide) (by decide) cryptoRequest rfl with
  | evaluateThrows thrown =>
      cases evaluated.symm.trans thrown
  | nothingSelected again unselected =>
      cases evaluated.symm.trans again
      cases selected.symm.trans unselected
  | reserveThrows again thrown =>
      cases evaluated.symm.trans again
      have reserved : Engine.succeeds (Engine.reserveDeployment cryptoRequest result.selected)
          cryptoEngine = true := by
        rw [selected]
        decide
      rw [Engine.succeeds] at reserved
      change Engine.reserveDeployment cryptoRequest result.selected cryptoEngine = _ at thrown
      rw [thrown] at reserved
      cases reserved
  | deployed again chosen created deployed =>
      cases evaluated.symm.trans again
      cases selected.symm.trans chosen
      exact ⟨_, _, _, _, _, created, deployed⟩

end DPUFabric
