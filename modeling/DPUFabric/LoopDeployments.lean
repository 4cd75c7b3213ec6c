import DPUFabric.LoopRuns
import DPUFabric.PublishedUsage
import DPUFabric.WorkerLoss

/-!
# The deployments of a coordinator process

A coordinator without a state file starts from a fresh engine and registers one
service.  What its loop does to the engine from there on is little: a turn makes one
report of a worker, or one deployment, or nothing.  No turn takes a deployment back,
so the deployments of a process are in service for as long as it runs, and each
role has its own part of the state.
-/

namespace DPUFabric

open Std
open LiveState
open TransitionRun (Reaches)
open DPUFabric.Proto
open DPUFabric.Mp
open DPUFabric.Mpproto

/-! ## Engines of a process -/

/-- The engine of a process that started without a state file. -/
def Booted (epoch : CoordinatorEpoch) (e : Engine) : Prop :=
  Reaches Engine.step (fun op => Engine.recovers op = false)
    (Engine.fresh epoch (Policy.defaults ⟨1⟩)) e

theorem Causes.plain {role : Role} {op : Op} (causes : Causes role op) : op.isPlain = true := by
  cases causes with
  | deploys privileged deploys => cases deploys <;> rfl
  | _ => rfl

theorem Causes.ordinary {role : Role} {op : Op} (causes : Causes role op) :
    Engine.recovers op = false := by
  cases causes with
  | deploys privileged deploys => cases deploys <;> rfl
  | _ => rfl

namespace Booted

variable {epoch : CoordinatorEpoch} {e e' : Engine}

theorem start (epoch : CoordinatorEpoch) :
    Booted epoch (MainLoop.start epoch).coordinator.engine :=
  ⟨[.registerService dpuAService], by simp [Engine.recovers], rfl⟩

theorem reaches (booted : Booted epoch e) {allowed : Op → Prop}
    (ordinary : ∀ op, allowed op → Engine.recovers op = false)
    (reached : Reaches Engine.step allowed e e') : Booted epoch e' :=
  Reaches.trans booted (reached.mono ordinary)

theorem regular (booted : Booted epoch e) (room : e.idSeq ≤ 2 ^ 64) : Regular e := by
  obtain ⟨ops, ordinary, rfl⟩ := booted
  exact Engine.regular_run epoch _ ordinary room

theorem unbound (booted : Booted epoch e) : Unbound e.state := by
  obtain ⟨ops, ordinary, rfl⟩ := booted
  exact unbound_run epoch _ ordinary

theorem mirrored (booted : Booted epoch e) : Mirrored e.state := by
  obtain ⟨ops, ordinary, rfl⟩ := booted
  exact Engine.run_keeps_ordinary (fun accepted mirrored => mirrored.accepted accepted)
    (Mirrored.fresh epoch _) ordinary

end Booted

/-! ## The pipeline, on a regular engine -/

theorem Engine.pipeline_outcome (F : Type) [ScoreArith F] {e : Engine} (req : OffloadRequest)
    (unset : req.requiredProgram = none) (regular : Regular e) (room : e.idSeq ≤ 2 ^ 64) :
    PipelineOutcome F req e := by
  cases evaluated : e.evaluate F req with
  | error fault => exact .evaluateThrows evaluated (createDeployment_of_error evaluated)
  | ok elig =>
  cases chosen : elig.selected with
  | none => exact .nothingSelected evaluated chosen (createDeployment_of_unselected evaluated chosen)
  | some did =>
  cases returned : Engine.reserveDeployment req (some did) e with
  | error fault e' =>
      have quiet := Engine.quiet_of_reserve_throws returned
      refine .reserveThrows evaluated (by rw [chosen]; exact returned) ?_ quiet.state quiet.snap
      rw [createDeployment_of_selected evaluated chosen, Exceptions.bind_of_error returned]
  | ok id e' =>
      obtain ⟨dev, svc, ledger, dep, reserves⟩ := Engine.reserves_of_returns returned
      obtain ⟨-, found, published, clean⟩ := selected_passed evaluated chosen
      obtain ⟨-, -, suits⟩ := (rejections_eq_nil_iff _ _ _ _ _).mp clean
      rw [regular.published] at published suits
      have same : found = dev := Option.some.inj (published.symm.trans reserves.present)
      change Suits F (makeSnapshot e.state) req ((makeSnapshot e.state).requestedService req)
        did found at suits
      rw [same, ← reserves.offered.eq_requestedService] at suits
      exact createDeployment_of_current evaluated chosen returned reserves
        (programIsCurrent_of_suits unset regular.versioned reserves suits) regular room

namespace PipelineOutcome

variable {F : Type} [ScoreArith F] {req : OffloadRequest} {e e' : Engine}

/-- A pipeline that throws has written nothing. -/
theorem state_of_error (outcome : PipelineOutcome F req e) {fault : Fault}
    (thrown : Engine.createDeployment F req e = .error fault e') : e'.state = e.state := by
  cases outcome with
  | evaluateThrows _ result => cases thrown.symm.trans result; rfl
  | nothingSelected _ _ result => cases thrown.symm.trans result
  | reserveThrows _ _ result state => cases thrown.symm.trans result; exact state
  | deployed _ _ result => cases thrown.symm.trans result

theorem state_of_none (outcome : PipelineOutcome F req e)
    (created : Engine.createDeployment F req e = .ok none e') : e'.state = e.state := by
  cases outcome with
  | evaluateThrows _ result => cases created.symm.trans result
  | nothingSelected _ _ result => cases created.symm.trans result; rfl
  | reserveThrows _ _ result => cases created.symm.trans result
  | deployed _ _ result => cases created.symm.trans result

theorem deployed_of_some (outcome : PipelineOutcome F req e) {id : DeploymentId} {did : DeviceId}
    (created : Engine.createDeployment F req e = .ok (some (id, did)) e') :
    ∃ dep act ledger, Deployed e.state req did id e'.state dep act ledger := by
  cases outcome with
  | evaluateThrows _ result => cases created.symm.trans result
  | nothingSelected _ _ result => cases created.symm.trans result
  | reserveThrows _ _ result => cases created.symm.trans result
  | deployed _ _ result deployed =>
      cases created.symm.trans result
      exact ⟨_, _, _, deployed⟩

end PipelineOutcome

/-! ## What a turn does to the engine -/

/-- A turn changes nothing, or makes one report, or one deployment. -/
inductive EngineTurn (role : Role) (e : Engine) : Engine → Prop
  | quiet {e' : Engine} (state : e'.state = e.state) : EngineTurn role e e'
  | reported {op : Op} (causes : Causes role op) (sweeps : op.sweeps = true) :
      EngineTurn role e (e.step op)
  | deployed {sid : ServiceId} {oc : RawEnum OffloadClass} {did : DeviceId} {id : DeploymentId}
      {e' : Engine} {dep : Deployment} {act : ActivationRecord} {ledger : ResourceLedger}
      (privileged : role ≠ .worker)
      (deployed : Deployed e.state (Coordinator.deploymentRequest sid oc) did id e'.state
        dep act ledger) : EngineTurn role e e'

namespace Coordinator

variable {F : Type} [ScoreArith F] {s : Socket} {c c' : Coordinator}

theorem AdminOutcome.engineTurn {payload : List UInt8}
    (outcome : AdminOutcome F s payload c c') {role : Role} (privileged : role ≠ .worker)
    (regular : Regular c.engine) (room : c.engine.idSeq ≤ 2 ^ 64) :
    EngineTurn role c.engine c'.engine := by
  have pipeline := fun sid oc =>
    Engine.pipeline_outcome F (deploymentRequest sid oc) rfl regular room
  cases outcome with
  | failed _ _ thrown => exact .quiet ((pipeline _ _).state_of_error thrown)
  | rejected _ _ created => exact .quiet ((pipeline _ _).state_of_none created)
  | deployed _ _ created =>
      rw [engine_commanded]
      obtain ⟨dep, act, ledger, deployed⟩ := (pipeline _ _).deployed_of_some created
      exact .deployed privileged deployed
  | _ => exact .quiet rfl

theorem WorkerOutcome.engineTurn {wid : WorkerId} {f : Frame}
    (outcome : WorkerOutcome wid f c c') : EngineTurn .worker c.engine c'.engine := by
  cases outcome with
  | @device dev =>
      show EngineTurn _ _ (Engine.after (registerOrUpdate c (ownedBy c wid dev)) c.engine)
      unfold registerOrUpdate
      split_ifs
      · rw [← Engine.after_discard]
        exact .reported (Causes.knownDevice _) rfl
      · rw [← Engine.after_discard]
        exact .reported (Causes.newDevice _) rfl
  | evidence =>
      show EngineTurn _ _ (Engine.after (Engine.updateDevice _) c.engine)
      rw [← Engine.after_discard]
      exact .reported (Causes.knownDevice _) rfl
  | _ => exact .quiet rfl

theorem Dispatched.engineTurn {role : Role} {result : RecvResult}
    (dispatched : Dispatched F s c role result c') (regular : Regular c.engine)
    (room : c.engine.idSeq ≤ 2 ^ 64) : EngineTurn role c.engine c'.engine := by
  cases dispatched with
  | idle => exact .quiet rfl
  | closed lost =>
      unfold withoutConn
      split
      · exact .quiet rfl
      · exact .reported (Causes.lost _) rfl
  | @greeted f wk boot label ahead e greets read registered =>
      have called : e = c.engine.step (.registerWorker ⟨wk⟩ ⟨boot⟩) := by
        simp only [Engine.step, Engine.exec, Engine.after, registered]
      show EngineTurn _ _ e
      rw [called]
      exact .reported (Causes.greeting _ _) rfl
  | @refused f wk boot label ahead fault e greets read thrown =>
      have called : e = c.engine.step (.registerWorker ⟨wk⟩ ⟨boot⟩) := by
        simp only [Engine.step, Engine.exec, Engine.after, thrown]
      show EngineTurn _ _ e
      rw [called]
      exact .reported (Causes.greeting _ _) rfl
  | admin privileged outcome =>
      have notWorker : role ≠ .worker := by
        rintro rfl
        simp at privileged
      have turn := outcome.engineTurn notWorker (by rw [engine_asAdmin]; exact regular)
        (by rw [engine_asAdmin]; exact room)
      rwa [engine_asAdmin] at turn
  | worker outcome => exact outcome.engineTurn

end Coordinator

/-! ## What a report leaves alone -/

/-- Everything but the devices and the workers, and the accounts of the known devices. -/
structure SameControl (s s' : LiveState) : Prop where
  epoch : s'.epoch = s.epoch
  policy : s'.policy = s.policy
  services : s'.services = s.services
  programs : s'.programs = s.programs
  currentProgramGen : s'.currentProgramGen = s.currentProgramGen
  deployments : s'.deployments = s.deployments
  activations : s'.activations = s.activations
  accounts : ∀ did : DeviceId, s.devices[did]?.isSome = true →
    s'.ledgers[did]? = s.ledgers[did]? ∧ s'.usage[did]? = s.usage[did]?

theorem SameControl.refl (s : LiveState) : SameControl s s :=
  ⟨rfl, rfl, rfl, rfl, rfl, rfl, rfl, fun _ _ => ⟨rfl, rfl⟩⟩

/-- A fencing loop that finds nothing writes nothing. -/
theorem fenceDeployments_of_none {s : LiveState} {selects : Deployment → Bool}
    (nothing : ∀ (id : DeploymentId) (dep : Deployment), s.deployments[id]? = some dep →
      selects dep = false) : s.fenceDeployments selects = s := by
  have deployments : (s.deployments.map fun _ dep => fencedWhere selects dep) = s.deployments := by
    apply ExtTreeMap.ext_getElem?
    intro id
    rw [ExtTreeMap.getElem?_map]
    cases present : s.deployments[id]? with
    | none => rfl
    | some dep => simp [fencedWhere, nothing id dep present]
  have activations : s.staleActivations selects = s.activations := by
    apply ExtTreeMap.ext_getElem?
    intro aid
    rw [lookup_staleActivations, if_neg]
    rintro ⟨id, dep, present, chosen, -⟩
    rw [nothing id dep present] at chosen
    cases chosen
  rw [fenceDeployments_eq, deployments, activations]

/-- The loss of a worker fences its devices, and no deployment. -/
theorem markWorkerLost_sameControl {s : LiveState} (unbound : Unbound s) (worker : WorkerId) :
    SameControl s (s.markWorkerLost worker) := by
  cases known : s.workers[worker]? with
  | none =>
      simp only [LiveState.markWorkerLost, known]
      exact ⟨rfl, rfl, rfl, rfl, rfl, rfl, rfl, fun _ _ => ⟨rfl, rfl⟩⟩
  | some boot =>
      have booted := unbound.workers worker boot known
      have nothing : ∀ (id : DeploymentId) (dep : Deployment),
          s.deployments[id]? = some dep → boundTo boot dep = false := by
        intro id dep present
        have different : dep.workerBoot ≠ boot := by
          rw [unbound.deployments id dep present]
          exact fun same => booted same.symm
        simp [boundTo, different]
      have fences := @fenceDeployments_of_none
        { s with devices := s.devices.map fun _ dev => orphaned worker dev } _ nothing
      simp only [LiveState.markWorkerLost, known, fences]
      exact ⟨rfl, rfl, rfl, rfl, rfl, rfl, rfl, fun _ _ => ⟨rfl, rfl⟩⟩

theorem Accepted.sameControl {s s' : LiveState} {seq seq' : Nat} {op : Op} {role : Role}
    (accepted : Accepted s seq op s' seq') (causes : Causes role op) (sweeps : op.sweeps = true)
    (unbound : Unbound s) : SameControl s s' ∧ seq' = seq := by
  cases accepted with
  | registerDevice named absent =>
      rename_i rec
      refine ⟨⟨rfl, rfl, rfl, rfl, rfl, rfl, rfl, ?_⟩, rfl⟩
      intro did known
      have elsewhere : rec.deviceId ≠ did := by
        rintro rfl
        rw [absent] at known
        cases known
      constructor
      · rw [LiveState.registerDevice, OrderedMap.lookup_insertIfNew, if_neg (by simp [elsewhere])]
      · rw [LiveState.registerDevice, OrderedMap.lookup_insert, if_neg elsewhere]
  | updateDevice =>
      exact ⟨⟨rfl, rfl, rfl, rfl, rfl, rfl, rfl, fun _ _ => ⟨rfl, rfl⟩⟩, rfl⟩
  | registerWorker =>
      exact ⟨⟨rfl, rfl, rfl, rfl, rfl, rfl, rfl, fun _ _ => ⟨rfl, rfl⟩⟩, rfl⟩
  | markWorkerLost => exact ⟨markWorkerLost_sameControl unbound _, rfl⟩
  | moveDeployment moves => rw [Op.not_sweeps_of_moves moves] at sweeps; cases sweeps
  | endDeployment ends => rw [Op.not_sweeps_of_ends ends] at sweeps; cases sweeps
  | reserveDeployment => cases sweeps
  | activateDeployment => cases sweeps
  | commitDeployment => cases sweeps
  | _ => rcases causes with _ | _ | _ | _ | ⟨-, ⟨⟩⟩

theorem EngineTurn.sameControl_of_reported {role : Role} {e : Engine} {op : Op}
    (causes : Causes role op) (sweeps : op.sweeps = true) (unbound : Unbound e.state) :
    SameControl e.state (e.step op).state := by
  rcases Engine.step_cases e causes.plain with ⟨s, seq, accepted, result⟩ | ⟨-, quiet⟩
  · rw [result]
    exact (accepted.sameControl causes sweeps unbound).1
  · rw [quiet.state]
    exact .refl _

/-! ## In service -/

/-- An active deployment, and the activation it was committed with. -/
structure InService (s : LiveState) (id : DeploymentId) (dep : Deployment) : Prop where
  present : s.deployments[id]? = some dep
  active : dep.state = .active
  authoritative : dep.authoritative = true
  activated : ∃ act : ActivationRecord, s.activations[act.activationId]? = some act ∧
    dep.activation = some act.activationId ∧ act.deploymentId = id ∧ act.state = .active ∧
      act.authority.epoch = s.epoch

/-- Every deployment is in service. -/
def AllInService (s : LiveState) : Prop :=
  ∀ (id : DeploymentId) (dep : Deployment), s.deployments[id]? = some dep → InService s id dep

theorem InService.of_sameControl {s s' : LiveState} (same : SameControl s s') {id : DeploymentId}
    {dep : Deployment} (serves : InService s id dep) : InService s' id dep where
  present := by rw [same.deployments]; exact serves.present
  active := serves.active
  authoritative := serves.authoritative
  activated := by
    rw [same.activations, same.epoch]
    exact serves.activated

section Deployed

variable {s s' : LiveState} {req : OffloadRequest} {did : DeviceId} {new : DeploymentId}
  {newDep : Deployment} {newAct : ActivationRecord} {ledger : ResourceLedger}

theorem InService.of_deployed (deployed : Deployed s req did new s' newDep newAct ledger)
    {id : DeploymentId} {dep : Deployment} (serves : InService s id dep) :
    InService s' id dep := by
  have differs := deployed.differs
  have other : new ≠ id := by
    rintro rfl
    have absent := deployed.newDeployment
    rw [serves.present] at absent
    cases absent
  refine ⟨?_, serves.active, serves.authoritative, ?_⟩
  · rw [differs]
    dsimp only
    rw [OrderedMap.lookup_insert, if_neg other]
    exact serves.present
  · obtain ⟨act, recorded, linked, owner, granted, epoch⟩ := serves.activated
    have elsewhere : newAct.activationId ≠ act.activationId := by
      intro same
      have absent := deployed.newActivation
      rw [same, recorded] at absent
      cases absent
    refine ⟨act, ?_, linked, owner, granted, ?_⟩
    · rw [differs]
      dsimp only
      rw [OrderedMap.lookup_insert, if_neg elsewhere]
      exact recorded
    · rw [differs]
      exact epoch

/-- The new deployment is in service as well. -/
theorem Deployed.inService (deployed : Deployed s req did new s' newDep newAct ledger) :
    InService s' new newDep where
  present := by
    rw [deployed.differs]
    dsimp only
    rw [OrderedMap.lookup_insert, if_pos rfl]
  active := deployed.active
  authoritative := deployed.authoritative
  activated := by
    refine ⟨newAct, ?_, deployed.linked, deployed.owner, deployed.granted, ?_⟩
    · rw [deployed.differs]
      dsimp only
      rw [OrderedMap.lookup_insert, if_pos rfl]
    · rw [deployed.differs]
      exact deployed.epoch

theorem AllInService.of_deployed (deployed : Deployed s req did new s' newDep newAct ledger)
    (all : AllInService s) : AllInService s' := by
  intro id dep present
  by_cases here : new = id
  · subst here
    have serves := deployed.inService
    cases serves.present.symm.trans present
    exact serves
  · refine (all id dep ?_).of_deployed deployed
    rw [deployed.differs] at present
    dsimp only at present
    rwa [OrderedMap.lookup_insert, if_neg here] at present

end Deployed

/-- A turn keeps what is in service, and adds to it only what is. -/
theorem EngineTurn.inService {role : Role} {e e' : Engine} (turn : EngineTurn role e e')
    (unbound : Unbound e.state) (all : AllInService e.state) :
    AllInService e'.state ∧
      ∀ id dep, InService e.state id dep → InService e'.state id dep := by
  cases turn with
  | quiet state =>
      rw [state]
      exact ⟨all, fun _ _ serves => serves⟩
  | reported causes sweeps =>
      have same := sameControl_of_reported causes sweeps unbound
      refine ⟨fun id dep present => ?_, fun _ _ serves => serves.of_sameControl same⟩
      rw [same.deployments] at present
      exact (all id dep present).of_sameControl same
  | deployed _ deployed =>
      exact ⟨all.of_deployed deployed, fun _ _ serves => serves.of_deployed deployed⟩

/-! ## Runs -/

namespace MainLoop

variable {F : Type} [ScoreArith F] {epoch : CoordinatorEpoch} {l l' : MainLoop}

/-- A step acts on the engine by the role of its connection. -/
theorem step_engineTurn {event : Event} (booted : Booted epoch l.coordinator.engine)
    (room : l.coordinator.engine.idSeq ≤ 2 ^ 64)
    (stepped : step F (.returns l) event = .returns l') :
    ∃ role, EngineTurn role l.coordinator.engine l'.coordinator.engine ∧
      ∀ s arrived sends, event = .poll s arrived sends →
        ∀ known, l.coordinator.conns[s]? = some known → role = known := by
  cases event with
  | accept s peer =>
      refine ⟨.unknown, ?_, by simp⟩
      rcases accepted stepped with rfl | rfl <;> exact .quiet rfl
  | poll s arrived sends =>
      cases polled stepped with
      | idle =>
          refine ⟨l.coordinator.conns[s]?.getD .unknown, .quiet rfl, ?_⟩
          rintro _ _ _ ⟨⟩ known found
          rw [found]
          rfl
      | @turn role result rest c registered received dispatched =>
          refine ⟨role, dispatched.engineTurn (booted.regular room) room, ?_⟩
          rintro _ _ _ ⟨⟩ known found
          exact Option.some.inj (registered.symm.trans found)

theorem step_booted {event : Event} (booted : Booted epoch l.coordinator.engine)
    (stepped : step F (.returns l) event = .returns l') : Booted epoch l'.coordinator.engine := by
  refine booted.reaches ?_ (step_reaches stepped)
  intro op caused
  obtain ⟨role, causes⟩ := caused.served
  exact causes.ordinary

/-- Identities are only ever consumed. -/
theorem idSeq_le_step {event : Event} (stepped : step F (.returns l) event = .returns l') :
    l.coordinator.engine.idSeq ≤ l'.coordinator.engine.idSeq := by
  obtain ⟨ops, -, ended⟩ := step_reaches stepped
  rw [← ended]
  exact TransitionRun.run_mono Engine.idSeq Engine.idSeq_le_step _ ops

/-- What is kept by the steps that meet a condition, where identities are not reused. -/
theorem booted_invariant_on {P : MainLoop → Event → Prop} (invariant : MainLoop → Prop)
    (keeps : ∀ l event l', P l event → Booted epoch l.coordinator.engine →
      l'.coordinator.engine.idSeq ≤ 2 ^ 64 → invariant l →
        step F (.returns l) event = .returns l' → invariant l')
    (booted : Booted epoch l.coordinator.engine) (holds : invariant l) {events : List Event}
    (every : TransitionRun.Every (step F) (OnLoop P) (.returns l) events)
    (ended : TransitionRun.run (step F) (.returns l) events = .returns l')
    (room : l'.coordinator.engine.idSeq ≤ 2 ^ 64) :
    Booted epoch l'.coordinator.engine ∧ invariant l' := by
  have both := run_invariant
    (fun middle => Booted epoch middle.coordinator.engine ∧
      (middle.coordinator.engine.idSeq ≤ 2 ^ 64 → invariant middle)) ?_
    ⟨booted, fun _ => holds⟩ every ended
  · exact ⟨both.1, both.2 room⟩
  · rintro l event l' meets ⟨booted, holds⟩ stepped
    refine ⟨step_booted booted stepped, fun room => ?_⟩
    exact keeps l event l' meets booted room (holds ((idSeq_le_step stepped).trans room)) stepped

/-- The same without a condition. -/
theorem booted_invariant (invariant : MainLoop → Prop)
    (keeps : ∀ l event l', Booted epoch l.coordinator.engine →
      l'.coordinator.engine.idSeq ≤ 2 ^ 64 → invariant l →
        step F (.returns l) event = .returns l' → invariant l')
    (booted : Booted epoch l.coordinator.engine) (holds : invariant l) {events : List Event}
    (ended : TransitionRun.run (step F) (.returns l) events = .returns l')
    (room : l'.coordinator.engine.idSeq ≤ 2 ^ 64) :
    Booted epoch l'.coordinator.engine ∧ invariant l' :=
  booted_invariant_on (P := fun _ _ => True) invariant (fun l event l' _ => keeps l event l')
    booted holds (every_onLoop (fun _ _ => trivial) _ events) ended room

end MainLoop

/--
A process that started without a state file never takes a deployment back: a deployment
that it has made is active, holds authority, and is linked to an active activation of
the same epoch, and so it is at any later time, whatever the peers send.
-/
theorem deployments_stay_inService (F : Type) [ScoreArith F] (epoch : CoordinatorEpoch)
    (first second : List MainLoop.Event) (l₁ l₂ : MainLoop)
    (begun : TransitionRun.run (MainLoop.step F) (.returns (.start epoch)) first = .returns l₁)
    (continued : TransitionRun.run (MainLoop.step F) (.returns l₁) second = .returns l₂)
    (room : l₂.coordinator.engine.idSeq ≤ 2 ^ 64) (id : DeploymentId) (dep : Deployment)
    (present : l₁.coordinator.engine.state.deployments[id]? = some dep) :
    InService l₁.coordinator.engine.state id dep ∧
      InService l₂.coordinator.engine.state id dep := by
  have roomBefore : l₁.coordinator.engine.idSeq ≤ 2 ^ 64 := by
    obtain ⟨ops, -, ended⟩ := MainLoop.run_reaches continued
    have grows := TransitionRun.run_mono Engine.idSeq Engine.idSeq_le_step
      l₁.coordinator.engine ops
    rw [ended] at grows
    exact grows.trans room
  obtain ⟨booted, all⟩ := MainLoop.booted_invariant
    (fun l => AllInService l.coordinator.engine.state)
    (fun l event l' booted room all stepped => by
      obtain ⟨role, turn, -⟩ := MainLoop.step_engineTurn booted
        ((MainLoop.idSeq_le_step stepped).trans room) stepped
      exact (turn.inService booted.unbound all).1)
    (.start epoch) (by intro id dep found; cases found) begun roomBefore
  have serves := all id dep present
  refine ⟨serves, ?_⟩
  have kept := MainLoop.booted_invariant
    (fun l => AllInService l.coordinator.engine.state ∧
      InService l.coordinator.engine.state id dep)
    (fun l event l' booted room holds stepped => by
      obtain ⟨role, turn, -⟩ := MainLoop.step_engineTurn booted
        ((MainLoop.idSeq_le_step stepped).trans room) stepped
      obtain ⟨everything, one⟩ := turn.inService booted.unbound holds.1
      exact ⟨everything, one id dep holds.2⟩)
    booted ⟨all, serves⟩ continued room
  exact kept.2.2

/-- The deployment of a session survives the loss of its worker. -/
theorem deployments_stay_inService_session :
    ∃ l₁ l₂ dep,
      TransitionRun.run (MainLoop.step ℚ) (.returns (.start ⟨1⟩)) Session.events = .returns l₁ ∧
      TransitionRun.run (MainLoop.step ℚ) (.returns l₁) [.poll 3 true] = .returns l₂ ∧
        l₂.coordinator.connWorker.isEmpty = true ∧
        InService l₂.coordinator.engine.state ⟨1⟩ dep := by
  obtain ⟨_, _, l₁, steps⟩ := Session.steps
  have begun := steps.run_events
  have coordinator₁ := steps.deployed
  obtain ⟨l₂, continued, coordinator₂⟩ :=
    Session.step_closed coordinator₁ steps.bytes steps.ending
  have present : (Session.deployed.engine.state.deployments[(⟨1⟩ : DeploymentId)]?).isSome = true := by
    decide +kernel
  obtain ⟨dep, found⟩ := Option.isSome_iff_exists.mp present
  have gone : (Session.deployed.withoutConn 3).connWorker.isEmpty = true := by decide +kernel
  have room : (Session.deployed.withoutConn 3).engine.idSeq ≤ 2 ^ 64 := by decide +kernel
  refine ⟨l₁, l₂, dep, begun, continued, by rw [coordinator₂]; exact gone, ?_⟩
  exact (deployments_stay_inService ℚ ⟨1⟩ Session.events [.poll 3 true] l₁ l₂ begun continued
    (by rw [coordinator₂]; exact room) ⟨1⟩ dep (by rw [coordinator₁]; exact found)).2

/-! ## Resources -/

theorem Causes.releasesOnce {role : Role} {op : Op} (causes : Causes role op) (s : LiveState) :
    ReleasesOnce s op := by
  cases causes with
  | deploys privileged deploys => cases deploys <;> trivial
  | _ => trivial

theorem Causes.isSingle {role : Role} {op : Op} (causes : Causes role op) :
    Engine.isSingle op = true := by
  cases causes with
  | deploys privileged deploys => cases deploys <;> rfl
  | _ => rfl

theorem Booted.accounted {epoch : CoordinatorEpoch} {e : Engine} (booted : Booted epoch e)
    (room : e.idSeq ≤ 2 ^ 64) : Accounted e.state e.idSeq := by
  obtain ⟨ops, ordinary, rfl⟩ := booted
  refine TransitionRun.run_invariant (P := fun _ op => Engine.recovers op = false)
    (fun e : Engine => e.idSeq ≤ 2 ^ 64 → Accounted e.state e.idSeq) ?_ ?_
    (TransitionRun.every_of_forall_mem _ ordinary) room
  · intro e op ordinary holds
    refine Engine.step_keeps (fun s seq => seq ≤ 2 ^ 64 → Accounted s seq) ?_ ?_ e ordinary holds
    · intro s seq seq' grows holds room
      have before := holds (grows.trans room)
      exact { before with
        issued := fun id dep present => (before.issued id dep present).trans_le grows }
    · exact fun accepted holds room =>
        accepted.accounted room (holds (accepted.seq_le.trans room))
  · intro _
    constructor <;> simp [Engine.fresh]

section Held

variable {s s' : LiveState} {req : OffloadRequest} {did : DeviceId} {id : DeploymentId}
  {dep : Deployment} {act : ActivationRecord} {ledger : ResourceLedger}

theorem Deployed.held (deployed : Deployed s req did id s' dep act ledger) (device : DeviceId)
    (dim : Dimension) : s'.held device dim = s.held device dim + dep.charge device dim := by
  have trade := OrderedMap.total_insert (fun _ dep => Deployment.charge device dim dep)
    s.deployments id dep
  rw [deployed.newDeployment] at trade
  rw [deployed.differs]
  exact trade

theorem Deployed.sumsBelow (deployed : Deployed s req did id s' dep act ledger)
    (below : SumsBelow s') : SumsBelow s := by
  intro device dim
  have sum := below device dim
  rw [deployed.held] at sum
  omega

/-- The new deployment holds what its ledger is charged with. -/
theorem Deployed.balanced (deployed : Deployed s req did id s' dep act ledger)
    (below : SumsBelow s') (balanced : Balanced s) : Balanced s' := by
  -- The tables of accounts are those that the reservation has left.
  let reserved := { dep with state := DeploymentState.reserved }
  have fresh : s.deployments[reserved.deploymentId]? = none := by
    change s.deployments[dep.deploymentId]? = none
    rw [deployed.deploymentId]
    exact deployed.newDeployment
  have accounts : s.ledgers[reserved.device]? = some ledger := by
    change s.ledgers[dep.device]? = _
    rw [deployed.device]
    exact deployed.accounted
  have alike : ∀ device dim, s'.held device dim =
      (s.reserveDeployment (ledger.apply reserved.resources) reserved).held device dim := by
    intro device dim
    have trade := OrderedMap.total_insert (fun _ dep => Deployment.charge device dim dep)
      s.deployments reserved.deploymentId reserved
    rw [fresh] at trade
    have holds : dep.state.holds = reserved.state.holds := by
      rw [deployed.active]
      rfl
    rw [deployed.held, charge_congr dep reserved rfl rfl holds]
    exact trade.symm
  have same : s'.ledgers =
      (s.reserveDeployment (ledger.apply reserved.resources) reserved).ledgers := by
    rw [deployed.differs]
    change s.ledgers.insert did _ = s.ledgers.insert dep.device _
    rw [deployed.device]
  refine (balanced_iff_of_same same alike).mpr (balanced_reserved fresh rfl accounts balanced ?_)
  intro device dim
  rw [← alike]
  exact below device dim

end Held

theorem SameControl.held {s s' : LiveState} (same : SameControl s s') (device : DeviceId)
    (dim : Dimension) : s'.held device dim = s.held device dim := by
  unfold LiveState.held
  rw [same.deployments]

theorem EngineTurn.balanced {role : Role} {e e' : Engine} (turn : EngineTurn role e e')
    (unbound : Unbound e.state) (accounted : Accounted e.state e.idSeq)
    (room : e'.idSeq ≤ 2 ^ 64) (below : SumsBelow e'.state)
    (balanced : SumsBelow e.state → Balanced e.state) : Balanced e'.state := by
  cases turn with
  | quiet state =>
      rw [state] at below ⊢
      exact balanced below
  | @reported op causes sweeps =>
      have same := sameControl_of_reported causes sweeps unbound
      have before : SumsBelow e.state := by
        intro device dim
        rw [← same.held]
        exact below device dim
      have fits : SumsFit e op := ⟨causes.ordinary, room, below⟩
      have conserved := (Engine.conserved_step_iff causes.isSingle fits accounted
        (accounted.conserved_iff.mpr (balanced before))).mpr fun _ => causes.releasesOnce _
      exact (accounted.step fits).conserved_iff.mp conserved
  | deployed _ deployed => exact deployed.balanced below (balanced (deployed.sumsBelow below))

end DPUFabric
