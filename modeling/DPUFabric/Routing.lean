import DPUFabric.Connections

/-!
# Who may do what, and who hears of it

The role of a connection decides what its turns may change.  A worker's turns leave
alone what administrators have set up, answer nothing and stop nothing; an
administrator's turns leave alone what the workers have reported.

A frame that the loop sends is an acknowledgement or an answer on the connection that
is polled, or a command to the worker that owns the device of a new deployment.
-/

namespace DPUFabric

open Std
open LiveState
open TransitionRun (Reaches)
open DPUFabric.Wire
open DPUFabric.Persistence
open DPUFabric.Proto
open DPUFabric.Mp
open DPUFabric.Mpproto

/-! ## Workers -/

/-- The connections that are polled have the role. -/
def PollsOnly (role : Role) (l : MainLoop) : MainLoop.Event → Prop
  | .accept _ _ => True
  | .poll s _ _ => l.coordinator.conns[s]? = some role

theorem markWorkerLost_devices (s : LiveState) (worker : WorkerId) :
    (s.markWorkerLost worker).devices = s.devices.map fun _ dev => orphaned worker dev := by
  cases known : s.workers[worker]? with
  | none => simp only [LiveState.markWorkerLost, known]
  | some boot => simp only [LiveState.markWorkerLost, known, fenceDeployments_eq]

/-- A known device is never forgotten. -/
theorem Accepted.knows {s s' : LiveState} {seq seq' : Nat} {op : Op} {role : Role}
    (accepted : Accepted s seq op s' seq') (causes : Causes role op) (sweeps : op.sweeps = true)
    {did : DeviceId} (known : s.devices[did]?.isSome = true) :
    s'.devices[did]?.isSome = true := by
  cases accepted with
  | registerDevice named absent =>
      rename_i rec
      show (s.devices.insert rec.deviceId rec)[did]?.isSome = true
      rw [OrderedMap.lookup_insert]
      split_ifs with same
      · rfl
      · exact known
  | @updateDevice rec old =>
      show (s.devices.insert rec.deviceId rec)[did]?.isSome = true
      rw [OrderedMap.lookup_insert]
      split_ifs with same
      · rfl
      · exact known
  | registerWorker => exact known
  | markWorkerLost =>
      rename_i worker
      rw [markWorkerLost_devices, ExtTreeMap.getElem?_map, Option.isSome_map]
      exact known
  | moveDeployment moves => rw [Op.not_sweeps_of_moves moves] at sweeps; cases sweeps
  | endDeployment ends => rw [Op.not_sweeps_of_ends ends] at sweeps; cases sweeps
  | reserveDeployment => cases sweeps
  | activateDeployment => cases sweeps
  | commitDeployment => cases sweeps
  | _ => rcases causes with _ | _ | _ | _ | ⟨-, ⟨⟩⟩

theorem SameControl.trans {first second third : LiveState} (begun : SameControl first second)
    (ended : SameControl second third)
    (knows : ∀ did : DeviceId, first.devices[did]?.isSome = true →
      second.devices[did]?.isSome = true) : SameControl first third where
  epoch := ended.epoch.trans begun.epoch
  policy := ended.policy.trans begun.policy
  services := ended.services.trans begun.services
  programs := ended.programs.trans begun.programs
  currentProgramGen := ended.currentProgramGen.trans begun.currentProgramGen
  deployments := ended.deployments.trans begun.deployments
  activations := ended.activations.trans begun.activations
  accounts := by
    intro did known
    obtain ⟨ledger, usage⟩ := begun.accounts did known
    obtain ⟨ledger', usage'⟩ := ended.accounts did (knows did known)
    exact ⟨ledger'.trans ledger, usage'.trans usage⟩

/-- What a worker's turn does to the engine. -/
theorem EngineTurn.of_worker {e e' : Engine} (turn : EngineTurn .worker e e')
    (unbound : Unbound e.state) :
    SameControl e.state e'.state ∧ ∀ did : DeviceId, e.state.devices[did]?.isSome = true →
      e'.state.devices[did]?.isSome = true := by
  cases turn with
  | quiet state =>
      rw [state]
      exact ⟨.refl _, fun _ known => known⟩
  | reported causes sweeps =>
      refine ⟨sameControl_of_reported causes sweeps unbound, fun did known => ?_⟩
      rcases Engine.step_cases e causes.plain with ⟨s, seq, accepted, result⟩ | ⟨-, quiet⟩
      · rw [result]
        exact accepted.knows causes sweeps known
      · rw [quiet.state]
        exact known
  | deployed privileged => exact absurd rfl privileged

namespace Coordinator

variable {F : Type} [ScoreArith F] {s : Socket} {c c' : Coordinator}

theorem withoutConn_quiet (c : Coordinator) (s : Socket) :
    (c.withoutConn s).running = c.running ∧ (c.withoutConn s).sent = c.sent := by
  unfold withoutConn
  split <;> exact ⟨rfl, rfl⟩

/-- A worker is not answered, and it stops nothing. -/
theorem Dispatched.worker_quiet {result : RecvResult}
    (dispatched : Dispatched F s c .worker result c') :
    c'.running = c.running ∧ c'.sent = c.sent := by
  cases dispatched with
  | idle => exact ⟨rfl, rfl⟩
  | closed lost => exact withoutConn_quiet c s
  | admin privileged outcome => simp at privileged
  | worker outcome => cases outcome <;> exact ⟨rfl, rfl⟩

/-- An administrator's turn makes deployments only, and closing its connection does nothing. -/
theorem Dispatched.of_admin {result : RecvResult}
    (dispatched : Dispatched F s c .admin result c') (wired : Wired c)
    (registered : c.conns[s]? = some .admin) :
    SameInventory c.engine.state c'.engine.state ∧ c'.connWorker = c.connWorker ∧
      c'.sockByWorker = c.sockByWorker := by
  cases dispatched with
  | idle => exact ⟨.refl _, rfl, rfl⟩
  | closed lost =>
      have unfiled : c.connWorker[s]? = none := by
        cases filed : c.connWorker[s]? with
        | none => rfl
        | some worker =>
            have role := (wired.roles s).mp (by rw [filed]; rfl)
            rw [registered] at role
            cases role
      have absent : c.connWorker.erase s = c.connWorker := by
        apply ExtTreeMap.ext_getElem?
        intro other
        rw [lookup_erase]
        split_ifs with same
        · rw [← same, unfiled]
        · rfl
      unfold withoutConn
      rw [unfiled]
      exact ⟨.refl _, absent, rfl⟩
  | admin privileged outcome =>
      obtain ⟨-, connWorker, sockByWorker⟩ := outcome.tables
      exact ⟨sameInventory_of_reaches outcome.reaches, connWorker, sockByWorker⟩

end Coordinator

/--
Workers cannot touch what administrators have set up: through any turns of workers that
return, however many, the policy, the services, the deployments, their activations and
the accounts of the known devices stay as they are, no frame is written, and the loop is
not told to stop.
-/
theorem workers_keep_control (F : Type) [ScoreArith F] (epoch : CoordinatorEpoch)
    (first second : List MainLoop.Event) (l₁ l₂ : MainLoop)
    (begun : TransitionRun.run (MainLoop.step F) (.returns (.start epoch)) first = .returns l₁)
    (continued : TransitionRun.run (MainLoop.step F) (.returns l₁) second = .returns l₂)
    (workers : TransitionRun.Every (MainLoop.step F) (MainLoop.OnLoop (PollsOnly .worker))
      (.returns l₁) second)
    (room : l₂.coordinator.engine.idSeq ≤ 2 ^ 64) :
    SameControl l₁.coordinator.engine.state l₂.coordinator.engine.state ∧
      l₂.coordinator.running = l₁.coordinator.running ∧
        l₂.coordinator.sent = l₁.coordinator.sent := by
  have booted : Booted epoch l₁.coordinator.engine :=
    MainLoop.run_invariant_of_step (fun l => Booted epoch l.coordinator.engine)
      (fun _ _ _ booted stepped => MainLoop.step_booted booted stepped) (.start epoch) begun
  have kept := MainLoop.booted_invariant_on
    (fun l => (SameControl l₁.coordinator.engine.state l.coordinator.engine.state ∧
      ∀ did : DeviceId, l₁.coordinator.engine.state.devices[did]?.isSome = true →
        l.coordinator.engine.state.devices[did]?.isSome = true) ∧
      l.coordinator.running = l₁.coordinator.running ∧ l.coordinator.sent = l₁.coordinator.sent)
    ?_ booted ⟨⟨.refl _, fun _ known => known⟩, rfl, rfl⟩ workers continued room
  · exact ⟨kept.2.1.1, kept.2.2⟩
  · rintro l event l' meets booted room ⟨⟨same, knows⟩, running, sent⟩ stepped
    cases event with
    | accept s peer =>
        rcases MainLoop.accepted stepped with rfl | rfl <;>
          exact ⟨⟨same, knows⟩, running, sent⟩
    | poll s arrived sends =>
        have before := (MainLoop.idSeq_le_step stepped).trans room
        cases MainLoop.polled stepped with
        | idle => exact ⟨⟨same, knows⟩, running, sent⟩
        | @turn role result rest c registered received dispatched =>
            cases meets.symm.trans registered
            obtain ⟨control, knows'⟩ :=
              (dispatched.engineTurn (booted.regular before) before).of_worker booted.unbound
            obtain ⟨running', sent'⟩ := dispatched.worker_quiet
            exact ⟨⟨same.trans control knows, fun did known => knows' did (knows did known)⟩,
              running'.trans running, sent'.trans sent⟩

/-- The worker of a session reports its device, and is gone. -/
theorem workers_keep_control_session :
    ∃ l₁ l₂ : MainLoop,
      TransitionRun.run (MainLoop.step ℚ) (.returns l₁) [.poll 3 true] = .returns l₂ ∧
        l₁.coordinator.engine.state.deployments.size = 1 ∧
        l₂.coordinator.engine.state.deployments = l₁.coordinator.engine.state.deployments := by
  obtain ⟨_, _, l₁, steps⟩ := Session.steps
  obtain ⟨l₂, continued, coordinator₂⟩ :=
    Session.step_closed steps.deployed steps.bytes steps.ending
  have one : Session.deployed.engine.state.deployments.size = 1 := by decide +kernel
  have room : (Session.deployed.withoutConn 3).engine.idSeq ≤ 2 ^ 64 := by decide +kernel
  have polls : TransitionRun.Every (MainLoop.step ℚ) (MainLoop.OnLoop (PollsOnly .worker))
      (.returns l₁) [.poll 3 true] := by
    refine ⟨?_, trivial⟩
    rintro l ⟨⟩
    show l₁.coordinator.conns[(3 : Socket)]? = some .worker
    rw [steps.deployed]
    exact Session.deployed_conns
  obtain ⟨same, -⟩ := workers_keep_control ℚ ⟨1⟩ Session.events [.poll 3 true] l₁ l₂
    steps.run_events continued polls (by rw [coordinator₂]; exact room)
  exact ⟨l₁, l₂, continued, by rw [steps.deployed]; exact one, same.deployments⟩

/-! ## Administrators -/

/--
Administrators cannot touch what the workers have reported: through any turns of
administrators the devices, the workers and the connections of the workers stay as they
are, and so do the policy, the services and the programs.
-/
theorem administrators_keep_inventory (F : Type) [ScoreArith F] (epoch : CoordinatorEpoch)
    (first second : List MainLoop.Event) (l₁ l₂ : MainLoop)
    (begun : TransitionRun.run (MainLoop.step F) (.returns (.start epoch)) first = .returns l₁)
    (continued : TransitionRun.run (MainLoop.step F) (.returns l₁) second = .returns l₂)
    (fresh : TransitionRun.Every (MainLoop.step F) (MainLoop.OnLoop FreshDescriptor)
      (.returns (.start epoch)) first)
    (admins : TransitionRun.Every (MainLoop.step F)
      (MainLoop.OnLoop fun l event => FreshDescriptor l event ∧ PollsOnly .admin l event)
      (.returns l₁) second) :
    SameInventory l₁.coordinator.engine.state l₂.coordinator.engine.state ∧
      l₂.coordinator.connWorker = l₁.coordinator.connWorker ∧
        l₂.coordinator.sockByWorker = l₁.coordinator.sockByWorker := by
  have kept := MainLoop.run_invariant
    (fun l => l.coordinator.Wired ∧
      SameInventory l₁.coordinator.engine.state l.coordinator.engine.state ∧
        l.coordinator.connWorker = l₁.coordinator.connWorker ∧
          l.coordinator.sockByWorker = l₁.coordinator.sockByWorker)
    ?_ ⟨MainLoop.run_wired fresh begun, .refl _, rfl, rfl⟩ admins continued
  · exact kept.2
  · rintro l event l' ⟨unused, polls⟩ ⟨wired, same, connWorker, sockByWorker⟩ stepped
    refine ⟨MainLoop.step_wired unused wired stepped, ?_⟩
    cases event with
    | accept s peer =>
        rcases MainLoop.accepted stepped with rfl | rfl <;>
          exact ⟨same, connWorker, sockByWorker⟩
    | poll s arrived sends =>
        cases MainLoop.polled stepped with
        | idle => exact ⟨same, connWorker, sockByWorker⟩
        | @turn role result rest c registered received dispatched =>
            cases polls.symm.trans registered
            obtain ⟨same', connWorker', sockByWorker'⟩ := dispatched.of_admin wired registered
            exact ⟨same.trans same', connWorker'.trans connWorker,
              sockByWorker'.trans sockByWorker⟩

namespace Session

/-- An administrator that asks for two deployments. -/
def asksTwice : Stream :=
  ⟨[frameBytes (.declared .command) createPayload,
    frameBytes (.declared .command) createPayload], .silent⟩

theorem asks_message {role : Role} (privileged : role ≠ .worker) {bytes rest : List UInt8}
    (framed : bytes = frameBytes (.declared .command) createPayload ++ rest) :
    Message role bytes (.declared .command) createPayload rest where
  framed := framed
  bound := by decide
  fields := by
    have fields := create_message.fields
    cases role with
    | worker => exact absurd rfl privileged
    | unknown => exact fields
    | admin => exact fields

/-- The state after the second question. -/
def deployedTwice : Coordinator :=
  deployed.turned ℚ 4 .admin (.ok (received (.declared .command, createPayload)))

/-- The session, with an administrator whose first question makes the connection its own. -/
def questions : List MainLoop.Event :=
  events.take 3 ++ [.accept 4 asksTwice, .poll 4 true]

theorem steps_twice : ∃ l₁ l₂,
    TransitionRun.run (MainLoop.step ℚ) (.returns (.start ⟨1⟩)) questions = .returns l₁ ∧
    TransitionRun.run (MainLoop.step ℚ) (.returns l₁) [.poll 4 true] = .returns l₂ ∧
      l₁.coordinator = deployed ∧ l₂.coordinator = deployedTwice ∧
      TransitionRun.Every (MainLoop.step ℚ) (MainLoop.OnLoop FreshDescriptor)
        (.returns (.start ⟨1⟩)) questions := by
  obtain ⟨_, l, _, steps⟩ := Session.steps
  have bytes : asksTwice.bytes = frameBytes (.declared .command) createPayload ++
      frameBytes (.declared .command) createPayload := by
    simp [Stream.bytes, asksTwice]
  have peer := MainLoop.accept_streams l 4 asksTwice
  have running : l.coordinator.running = true := by
    rw [steps.reported]
    exact still_running.2.1
  have connects := MainLoop.accept_of_running (F := ℚ) running 4 asksTwice
  obtain ⟨l₁, first, coordinator₁, behind, -⟩ := MainLoop.step_of_message (F := ℚ)
    (l := l.accept 4 asksTwice) running (accepted_conns 4 l.coordinator)
    (peer.symm ▸ asks_message (by decide) bytes)
  have deployed₁ : l₁.coordinator = deployed := by
    rw [coordinator₁]
    show (accepted 4 l.coordinator).turned ℚ 4 .unknown _ = _
    rw [steps.reported, deployed]
  have role : l₁.coordinator.conns[(4 : Socket)]? = some .admin := by
    rw [deployed₁]
    decide +kernel
  obtain ⟨l₂, second, coordinator₂, -⟩ := MainLoop.step_of_message (F := ℚ)
    (by rw [deployed₁]; exact still_running.2.2) role
    (asks_message (by decide) (behind.trans (List.append_nil _).symm))
  refine ⟨l₁, l₂, ?_, second, deployed₁, ?_, ?_⟩
  · rw [questions, TransitionRun.run_append, steps.run_report]
    show MainLoop.step ℚ (MainLoop.step ℚ (.returns l) (.accept 4 asksTwice)) (.poll 4 true) = _
    rw [connects, first]
  · rw [coordinator₂, deployed₁, deployedTwice]
  · obtain ⟨accepts, greets, reports, connect, -⟩ := steps.fresh
    exact ⟨accepts, greets, reports, connect, fun _ _ => trivial, trivial⟩

end Session

/-- The second question of an administrator makes a second deployment, and nothing else. -/
theorem administrators_keep_inventory_twice :
    ∃ l₁ l₂ : MainLoop,
      TransitionRun.run (MainLoop.step ℚ) (.returns l₁) [.poll 4 true] = .returns l₂ ∧
        (l₁.coordinator.engine.state.devices.size = 1 ∧
          l₁.coordinator.engine.state.workers.size = 1 ∧
          l₁.coordinator.engine.state.deployments.size = 1) ∧
        l₂.coordinator.engine.state.deployments.size = 2 ∧
        SameInventory l₁.coordinator.engine.state l₂.coordinator.engine.state := by
  obtain ⟨l₁, l₂, begun, continued, deployed, twice, fresh⟩ := Session.steps_twice
  have before : Session.deployed.engine.state.devices.size = 1 ∧
      Session.deployed.engine.state.workers.size = 1 ∧
      Session.deployed.engine.state.deployments.size = 1 := by
    decide +kernel
  have after : Session.deployedTwice.engine.state.deployments.size = 2 := by decide +kernel
  have admin : Session.deployed.conns[(4 : Socket)]? = some .admin := by decide +kernel
  refine ⟨l₁, l₂, continued, by rw [deployed]; exact before, by rw [twice]; exact after, ?_⟩
  refine (administrators_keep_inventory ℚ ⟨1⟩ Session.questions [.poll 4 true] l₁ l₂ begun
    continued fresh ⟨?_, trivial⟩).1
  rintro l ⟨⟩
  refine ⟨trivial, ?_⟩
  show l₁.coordinator.conns[(4 : Socket)]? = _
  rw [deployed]
  exact admin

/-! ## What is sent -/

namespace Coordinator

/-- The socket of the worker that owns a device. -/
def workerSocket (c : Coordinator) (did : DeviceId) : Option Socket :=
  c.engine.state.devices[did]?.bind fun dev => c.sockByWorker[dev.owningWorker.value]?

/-- A command to the worker that owns a device, if it is connected. -/
def announcement (c : Coordinator) (did : DeviceId) : List (Socket × List UInt8) :=
  (c.workerSocket did).toList.map fun w => (w, commandFrame c.cmdSeq (text "ACTIVATE"))

theorem commanded_sent (c : Coordinator) (did : DeviceId)
    (published : c.engine.snap = makeSnapshot c.engine.state) :
    (c.commanded did).sent = c.sent ++ c.announcement did := by
  have same : c.engine.snap.devices = c.engine.state.devices := by
    rw [published]
    rfl
  unfold commanded announcement workerSocket
  rw [same]
  cases c.engine.state.devices[did]? with
  | none => simp
  | some dev =>
      cases found : c.sockByWorker[dev.owningWorker.value]? with
      | none => simp [found]
      | some sock => simp [found]

end Coordinator

/-- What a turn of a connection sends, and where. -/
inductive Sends (l : MainLoop) (s : Socket) (l' : MainLoop) : List (Socket × List UInt8) → Prop
  | nothing : Sends l s l' []
  | acknowledged {payload rest ahead : List UInt8} {wk boot : UInt64} {label : Text}
      (asked : Framed (l.streams s).bytes (.declared .hello) payload rest)
      (read : decodeHello payload = .ok (wk, boot, label) ahead)
      (role : l'.coordinator.conns[s]? = some .worker)
      (filed : l'.coordinator.sockByWorker[wk]? = some s) :
      Sends l s l' [(s, ackFrame l'.coordinator.engine.state.epoch)]
  | answered {type : FrameType} {payload rest ahead : List UInt8} {cmdId : UInt64}
      {ctype : UInt8} {ok : Bool} {message : Text}
      (asked : Framed (l.streams s).bytes type payload rest)
      (read : readCommand payload = .ok (cmdId, ctype) ahead)
      (role : l'.coordinator.conns[s]? = some .admin)
      (unchanged : l'.coordinator.engine.state = l.coordinator.engine.state) :
      Sends l s l' [(s, resultFrame cmdId ok message)]
  | deployed {type : FrameType} {payload rest ahead : List UInt8} {cmdId : UInt64}
      {dep : Deployment} (asked : Framed (l.streams s).bytes type payload rest)
      (read : readCommand payload = .ok (cmdId, Enumerator.code Cmd.createDeployment) ahead)
      (role : l'.coordinator.conns[s]? = some .admin)
      (new : l.coordinator.engine.state.deployments[dep.deploymentId]? = none)
      (made : l'.coordinator.engine.state.deployments[dep.deploymentId]? = some dep)
      (owner : ∀ w, l'.coordinator.workerSocket dep.device = some w →
        l'.coordinator.conns[w]? = some .worker) :
      Sends l s l' ((s, resultFrame cmdId true (Coordinator.deployedText dep.deploymentId dep.device)) ::
        (l'.coordinator.workerSocket dep.device).toList.map fun w =>
          (w, commandFrame l.coordinator.cmdSeq (text "ACTIVATE")))

namespace Coordinator

variable {F : Type} [ScoreArith F] {s : Socket} {c c' : Coordinator}

@[simp]
theorem workerSocket_commanded (c : Coordinator) (dev did : DeviceId) :
    (c.commanded dev).workerSocket did = c.workerSocket did := by
  rw [workerSocket, engine_commanded, (commanded_tables c dev).2.2]
  rfl

/-- An administrator gets one answer; a deployment is announced to the device's worker. -/
theorem AdminOutcome.answers {payload : List UInt8} (outcome : AdminOutcome F s payload c c')
    (regular : Regular c.engine) (room : c.engine.idSeq ≤ 2 ^ 64)
    (published : c'.engine.snap = makeSnapshot c'.engine.state) :
    ∃ cmdId ctype ahead, readCommand payload = .ok (cmdId, ctype) ahead ∧
      ((∃ ok message, c'.sent = c.sent ++ [(s, resultFrame cmdId ok message)] ∧
          c'.engine.state = c.engine.state) ∨
        ∃ dep : Deployment, ctype = Enumerator.code Cmd.createDeployment ∧
          c.engine.state.deployments[dep.deploymentId]? = none ∧
          c'.engine.state.deployments[dep.deploymentId]? = some dep ∧
          c'.sent = c.sent ++
            (s, resultFrame cmdId true (deployedText dep.deploymentId dep.device)) ::
              (c'.workerSocket dep.device).toList.map fun w =>
                (w, commandFrame c.cmdSeq (text "ACTIVATE"))) := by
  have pipeline := fun sid oc =>
    Engine.pipeline_outcome F (deploymentRequest sid oc) rfl regular room
  cases outcome with
  | status read => exact ⟨_, _, _, read, Or.inl ⟨_, _, rfl, rfl⟩⟩
  | statusTooLong read => exact ⟨_, _, _, read, Or.inl ⟨_, _, rfl, rfl⟩⟩
  | badTarget read => exact ⟨_, _, _, read, Or.inl ⟨_, _, rfl, rfl⟩⟩
  | shutdown read => exact ⟨_, _, _, read, Or.inl ⟨_, _, rfl, rfl⟩⟩
  | unknown read => exact ⟨_, _, _, read, Or.inl ⟨_, _, rfl, rfl⟩⟩
  | failed read _ thrown =>
      exact ⟨_, _, _, read, Or.inl ⟨_, _, rfl, (pipeline _ _).state_of_error thrown⟩⟩
  | rejected read _ created =>
      exact ⟨_, _, _, read, Or.inl ⟨_, _, rfl, (pipeline _ _).state_of_none created⟩⟩
  | @deployed cmdId _ _ sid oc id did e read _ created =>
      refine ⟨_, _, _, read, Or.inr ?_⟩
      obtain ⟨dep, act, ledger, deployed⟩ := (pipeline _ _).deployed_of_some created
      rw [engine_commanded] at published ⊢
      refine ⟨dep, rfl, ?_, ?_, ?_⟩
      · rw [deployed.deploymentId]
        exact deployed.newDeployment
      · show e.state.deployments[dep.deploymentId]? = some dep
        rw [deployed.differs]
        dsimp only
        rw [OrderedMap.lookup_insert, if_pos deployed.deploymentId.symm]
      · rw [commanded_sent _ _ published, workerSocket_commanded, deployed.deploymentId,
          deployed.device]
        exact List.append_assoc _ _ _

end Coordinator

namespace MainLoop

variable {F : Type} [ScoreArith F] {epoch : CoordinatorEpoch} {l l' : MainLoop} {s : Socket}
  {arrived : Bool}

theorem step_sends (booted : Booted epoch l.coordinator.engine) (wired : l.coordinator.Wired)
    {sends : List Sending}
    (stepped : step F (.returns l) (.poll s arrived sends) = .returns l')
    (room : l'.coordinator.engine.idSeq ≤ 2 ^ 64) :
    ∃ frames, l'.coordinator.sent = l.coordinator.sent ++ frames ∧ Sends l s l' frames := by
  have before := (idSeq_le_step stepped).trans room
  have published := ((step_booted booted stepped).regular room).published
  have polls : FreshDescriptor l (.poll s arrived sends) := trivial
  have wired' : l'.coordinator.Wired := step_wired polls wired stepped
  have quiet : ∀ {m : MainLoop}, m.coordinator.sent = l.coordinator.sent →
      ∃ frames, m.coordinator.sent = l.coordinator.sent ++ frames ∧ Sends l s m frames :=
    fun same => ⟨[], by rw [same, List.append_nil], .nothing⟩
  cases polled stepped with
  | idle => exact quiet rfl
  | @turn role result rest c registered received dispatched =>
      cases dispatched with
      | idle => exact quiet rfl
      | closed lost => exact quiet (Coordinator.withoutConn_quiet _ _).2
      | refused => exact quiet rfl
      | worker outcome =>
          have worker : Coordinator.Dispatched F s l.coordinator .worker (.ok _) c :=
            .worker outcome
          exact quiet worker.worker_quiet.2
      | @greeted f wk boot label ahead e greets read accepted =>
          have asked := framed_of_recvFrame received
          rw [greets] at asked
          have epoch : e.snap.epoch = e.state.epoch := by
            have same : e.snap = makeSnapshot e.state := published
            rw [same]
            rfl
          refine ⟨_, rfl, ?_⟩
          rw [epoch]
          refine .acknowledged asked read ?_ ?_
          · show (l.coordinator.conns.insert s .worker)[s]? = _
            rw [OrderedMap.lookup_insert, if_pos rfl]
          · show (l.coordinator.sockByWorker.insert wk s)[wk]? = _
            rw [OrderedMap.lookup_insert, if_pos rfl]
      | @admin _ f _ privileged outcome =>
          have asked := framed_of_recvFrame received
          have role' : c.conns[s]? = some .admin := by
            rw [outcome.tables.1]
            rcases privileged with rfl | ⟨rfl, -⟩
            · exact registered
            · show (l.coordinator.conns.insert s .admin)[s]? = _
              rw [OrderedMap.lookup_insert, if_pos rfl]
          have engine := Coordinator.engine_asAdmin l.coordinator s role
          have kept : (l.coordinator.asAdmin s role).sent = l.coordinator.sent ∧
              (l.coordinator.asAdmin s role).cmdSeq = l.coordinator.cmdSeq := by
            cases role <;> exact ⟨rfl, rfl⟩
          obtain ⟨cmdId, ctype, ahead, read, answer⟩ := outcome.answers
            (by rw [engine]; exact booted.regular before) (by rw [engine]; exact before) published
          rw [engine, kept.1, kept.2] at answer
          rcases answer with ⟨ok, message, sent, unchanged⟩ | ⟨dep, creates, new, made, sent⟩
          · exact ⟨_, sent, .answered asked read role' unchanged⟩
          · subst creates
            refine ⟨_, sent, .deployed asked read role' new made ?_⟩
            intro w socket
            obtain ⟨dev, -, found⟩ := Option.bind_eq_some_iff.mp socket
            have filed := wired'.sockets _ w found
            exact (wired'.roles w).mp (by rw [filed]; rfl)

end MainLoop

/--
Every frame that the loop writes is one of three: an acknowledgement to the worker whose
`HELLO` it has just accepted, the answer to the administrator whose command it has just
read, with the identity of that command, or the announcement of a new deployment, which
goes to the live connection of the worker that owns the device.
-/
theorem frames_routed (F : Type) [ScoreArith F] (epoch : CoordinatorEpoch)
    (events : List MainLoop.Event) (l l' : MainLoop) (s : Socket) (arrived : Bool)
    (sends : List Sending)
    (fresh : TransitionRun.Every (MainLoop.step F) (MainLoop.OnLoop FreshDescriptor)
      (.returns (.start epoch)) events)
    (ended : TransitionRun.run (MainLoop.step F) (.returns (.start epoch)) events = .returns l)
    (stepped : MainLoop.step F (.returns l) (.poll s arrived sends) = .returns l')
    (room : l'.coordinator.engine.idSeq ≤ 2 ^ 64) :
    ∃ frames, l'.coordinator.sent = l.coordinator.sent ++ frames ∧ Sends l s l' frames :=
  MainLoop.step_sends
    (MainLoop.run_invariant_of_step (fun l => Booted epoch l.coordinator.engine)
      (fun _ _ _ booted stepped => MainLoop.step_booted booted stepped) (.start epoch) ended)
    (MainLoop.run_wired fresh ended) stepped room

/-- The administrator of a session gets its answer, and the worker its command. -/
theorem frames_routed_session :
    ∃ (l l' : MainLoop) (frames : List (Socket × List UInt8)),
      MainLoop.step ℚ (.returns l) (.poll 4 true) = .returns l' ∧ Sends l 4 l' frames ∧
        frames.length = 2 := by
  obtain ⟨l₁, l₂, l₃, steps⟩ := Session.steps
  have reached : TransitionRun.run (MainLoop.step ℚ) (.returns (.start ⟨1⟩))
      (Session.events.take 4) = .returns (l₂.accept 4 Session.admin) := by
    calc TransitionRun.run (MainLoop.step ℚ) (.returns (.start ⟨1⟩)) (Session.events.take 4)
        = MainLoop.step ℚ (TransitionRun.run (MainLoop.step ℚ) (.returns (.start ⟨1⟩))
            (Session.events.take 3)) (.accept 4 Session.admin) := rfl
      _ = .returns (l₂.accept 4 Session.admin) := by rw [steps.run_report, steps.connect]
  have fresh := steps.fresh
  have room : Session.deployed.engine.idSeq ≤ 2 ^ 64 := by decide +kernel
  have one : Session.reported.sent.length = 1 := by decide +kernel
  have three : Session.deployed.sent.length = 3 := by decide +kernel
  obtain ⟨frames, sent, sends⟩ := frames_routed ℚ ⟨1⟩ (Session.events.take 4)
    (l₂.accept 4 Session.admin) l₃ 4 true [] ⟨fresh.1, fresh.2.1, fresh.2.2.1, fresh.2.2.2.1, trivial⟩
    reached steps.create (by rw [steps.deployed]; exact room)
  refine ⟨_, _, frames, steps.create, sends, ?_⟩
  have lengths := congrArg List.length sent
  change l₃.coordinator.sent.length = (l₂.coordinator.sent ++ frames).length at lengths
  rw [steps.deployed, steps.reported, List.length_append, three, one] at lengths
  omega

end DPUFabric
