import DPUFabric.Containment
import DPUFabric.WorkerProcess

/-!
# Runs of the main loop

The loop is a client of the engine: whatever its peers send, and in whatever order the
loop takes them up, the engine only ever gets calls of a few kinds.  `Causes` lists
them by the role of the connection.  So the engine of a coordinator is always one that
some run of these calls reaches, and what every call keeps holds in the process.
-/

namespace DPUFabric

open Std
open Exceptions
open TransitionRun (Reaches)
open DPUFabric.Wire
open DPUFabric.Persistence
open DPUFabric.Proto
open DPUFabric.Mp
open DPUFabric.Mpproto

/-! ## The start of the process -/

/-- The service that `main` registers before its loop. -/
def dpuAService : ServiceDefinition :=
  { serviceId := ⟨90⟩
    serviceGen := ⟨1⟩
    offloadClass := .securityService
    requiredCaps := [{ key := capEncryption }, { key := capNetwork }]
    resource :=
      { memoryBytes := (64 : UInt64) <<< 20, queues := 1, functions := 0, slots := 1,
        contexts := 1 } }

/-- The variables of `main` in front of its loop; an error of the registration is dropped. -/
def Coordinator.boot (e : Engine) : Coordinator where
  engine := e.step (.registerService dpuAService)

/-- The variables of `main` after a turn, whether it has returned or thrown. -/
def Coordinator.turned (F : Type) [ScoreArith F] (s : Socket) (role : Role) (result : RecvResult)
    (c : Coordinator) : Coordinator :=
  match process F s role result c with
  | .ok _ c => c
  | .error _ c => c

/-- A process without a state file, before any connection. -/
def MainLoop.start (epoch : CoordinatorEpoch) : MainLoop where
  coordinator := .boot (.fresh epoch (Policy.defaults ⟨1⟩))
  streams := fun _ => ⟨[], .silent⟩

/-! ## Steps that stay in the loop -/

namespace MainLoop

variable {F : Type} [ScoreArith F] {l l' : MainLoop} {s : Socket} {arrived : Bool}

/-- What a poll has done that has returned, or that came behind the end of the loop. -/
theorem polled {sends : List Sending}
    (stepped : step F (.returns l) (.poll s arrived sends) = .returns l') :
    Polled F l s arrived l' := by
  change (if l.admits _ = true then l.poll F s arrived sends else .returns l) = _ at stepped
  split_ifs at stepped with admitted
  · exact polled_of_turn (poll_eq_returns_iff.mp stepped).1
  · cases stepped
    exact .idle

theorem accepted {peer : Stream} (stepped : step F (.returns l) (.accept s peer) = .returns l') :
    l' = l ∨ l' = l.accept s peer := by
  change (if l.admits _ = true then Turn.returns (l.accept s peer) else .returns l) = _ at stepped
  split_ifs at stepped with admitted
  · cases stepped
    exact Or.inr rfl
  · cases stepped
    exact Or.inl rfl

/-- How a write ends that returns makes no difference to the loop. -/
theorem poll_of_returns {sends : List Sending} (returns : sends.all Sending.returns = true)
    (l : MainLoop) (s : Socket) (arrived : Bool) :
    l.poll F s arrived sends = l.turn F s arrived := by
  cases turned : l.turn F s arrived with
  | returns l' =>
      refine poll_eq_returns_iff.mpr ⟨turned, fun write member => ?_⟩
      exact List.all_eq_true.mp returns _ (List.of_mem_zip member).2
  | throws fault => rw [poll, turned, Turn.throws_bind]
  | blocks => rw [poll, turned, Turn.blocks_bind]
  | signalled => rw [poll, turned, Turn.signalled_bind]

/-- While the loop runs it takes up everything. -/
theorem step_of_running (running : l.coordinator.running = true) (sends : List Sending) :
    step F (.returns l) (.poll s arrived sends) = l.poll F s arrived sends := by
  apply if_pos
  rw [admits, running]
  rfl

theorem accept_of_running (running : l.coordinator.running = true) (s : Socket) (peer : Stream) :
    step F (.returns l) (.accept s peer) = .returns (l.accept s peer) :=
  if_pos running

theorem accept_streams (l : MainLoop) (s : Socket) (peer : Stream) :
    (l.accept s peer).streams s = peer :=
  Function.update_self ..

/-- Every write that is made returns. -/
def Event.writesReturn : Event → Bool
  | .accept _ _ => true
  | .poll _ _ sends => sends.all Sending.returns

theorem step_of_writesReturn {sends : List Sending}
    (returns : (Event.poll s arrived sends).writesReturn = true) (p : Turn MainLoop) :
    step F p (.poll s arrived sends) = step F p (.poll s arrived) := by
  cases p with
  | returns l =>
      show (if l.admits _ = true then l.poll F s arrived sends else _) =
        if l.admits _ = true then l.poll F s arrived [] else _
      rw [poll_of_returns returns, poll_of_returns rfl]
      rfl
  | throws fault => rfl
  | blocks => rfl
  | signalled => rfl

/-- A message that has arrived is handled, and taken off its own stream only. -/
theorem step_of_message {role : Role} {type : FrameType} {payload more : List UInt8}
    (running : l.coordinator.running = true) (registered : l.coordinator.conns[s]? = some role)
    (next : Message role (l.streams s).bytes type payload more) :
    ∃ l', step F (.returns l) (.poll s true) = .returns l' ∧
      l'.coordinator = l.coordinator.turned F s role (.ok (received (type, payload))) ∧
      (l'.streams s).bytes = more ∧ (l'.streams s).ending = (l.streams s).ending ∧
      ∀ other, other ≠ s → l'.streams other = l.streams other := by
  obtain ⟨rest, read, behind, ending⟩ := recvFrame_of_framed next.isFramed
  have stops : role ≠ .worker →
      Coordinator.IsShutdown (received (type, payload)).payload → True := fun _ _ => trivial
  have handles : Exceptions.Throws (Confined s True) (fun _ : Fault => False)
      (Coordinator.process F s role (.ok (received (type, payload)))) :=
    Coordinator.process_throws F next.fields stops
  obtain ⟨_, c, handled, -⟩ := handles.returns l.coordinator
  refine ⟨{ coordinator := c, streams := Function.update l.streams s rest, visited := s },
    ?_, ?_, ?_, ?_, ?_⟩
  · rw [step_of_running running, poll_of_returns rfl, turn_of_recvFrame registered read,
      handled]
  · rw [Coordinator.turned, handled]
  · show (Function.update l.streams s rest s).bytes = more
    rw [Function.update_self, behind]
  · show (Function.update l.streams s rest s).ending = _
    rw [Function.update_self, ending]
  · intro other differs
    exact Function.update_of_ne differs _ _

/-- A condition on the steps that the loop takes. -/
def OnLoop (P : MainLoop → Event → Prop) (p : Turn MainLoop) (event : Event) : Prop :=
  ∀ l, p = .returns l → P l event

/-- An ended process stays ended. -/
theorem returns_of_step {p : Turn MainLoop} {event : Event} (stepped : step F p event = .returns l') :
    ∃ l, p = .returns l := by
  cases p with
  | returns l => exact ⟨l, rfl⟩
  | throws fault => cases stepped
  | blocks => cases stepped
  | signalled => cases stepped

/-- An invariant that every step in the loop keeps holds as long as the process is in its loop. -/
theorem run_invariant {P : MainLoop → Event → Prop} (invariant : MainLoop → Prop)
    (keeps : ∀ l event l', P l event → invariant l →
      step F (.returns l) event = .returns l' → invariant l')
    (holds : invariant l) {events : List Event}
    (every : TransitionRun.Every (step F) (OnLoop P) (.returns l) events)
    (ended : TransitionRun.run (step F) (.returns l) events = .returns l') : invariant l' := by
  refine TransitionRun.run_invariant (P := OnLoop P)
    (fun p => ∀ l, p = .returns l → invariant l) ?_ (fun l same => ?_) every l' ended
  · intro p event meets before l' stepped
    obtain ⟨l, rfl⟩ := returns_of_step stepped
    exact keeps l event l' (meets l rfl) (before l rfl) stepped
  · cases same
    exact holds

/-- What holds of every step in the loop holds along every run. -/
theorem every_onLoop {P : MainLoop → Event → Prop} (all : ∀ l event, P l event)
    (p : Turn MainLoop) (events : List Event) :
    TransitionRun.Every (step F) (OnLoop P) p events :=
  (TransitionRun.every_of_forall_mem (P := fun _ => True) p fun _ _ => trivial).mono
    fun _ event _ l _ => all l event

/-- The same without a condition. -/
theorem run_invariant_of_step (invariant : MainLoop → Prop)
    (keeps : ∀ l event l', invariant l → step F (.returns l) event = .returns l' → invariant l')
    (holds : invariant l) {events : List Event}
    (ended : TransitionRun.run (step F) (.returns l) events = .returns l') : invariant l' :=
  run_invariant (P := fun _ _ => True) invariant (fun l event l' _ => keeps l event l') holds
    (every_onLoop (fun _ _ => trivial) _ events) ended

end MainLoop

/-! ## The calls of a turn -/

/-- The calls of the deployment pipeline. -/
inductive Deploys : Op → Prop
  | reserve (sid : ServiceId) (oc : RawEnum OffloadClass) (selected : Option DeviceId) :
      Deploys (.reserveDeployment (Coordinator.deploymentRequest sid oc) selected)
  | stage (id : DeploymentId) : Deploys (.stageDeployment id)
  | load (id : DeploymentId) : Deploys (.loadDeployment id)
  | validate (id : DeploymentId) : Deploys (.validateDeployment id)
  | activate (id : DeploymentId) : Deploys (.activateDeployment id)
  | commit (id : DeploymentId) : Deploys (.commitDeployment id)

/-- The calls of the engine that a turn may make, by the role of its connection. -/
inductive Causes : Role → Op → Prop
  | greeting (worker : WorkerId) (boot : WorkerBootId) :
      Causes .unknown (.registerWorker worker boot)
  | newDevice (rec : DeviceRecord) : Causes .worker (.registerDevice rec)
  | knownDevice (rec : DeviceRecord) : Causes .worker (.updateDevice rec)
  | lost {role : Role} (worker : WorkerId) : Causes role (.markWorkerLost worker)
  | deploys {role : Role} {op : Op} (privileged : role ≠ .worker) (deploys : Deploys op) :
      Causes role op

namespace Engine

variable {allowed : Op → Prop} {α : Type}

/-- A call whose writes are those of an operation. -/
theorem call_reaches {call : EngineM α} {op : Op} (same : ∀ e, after call e = step e op)
    (allows : allowed op) : Throws (Reaches step allowed) (fun _ => True) call := by
  constructor
  intro e
  have reaches : Reaches step allowed e (after call e) := by
    rw [same e]
    exact .single allows
  unfold after at reaches
  cases result : call e with
  | ok value e' =>
      rw [result] at reaches
      exact reaches
  | error fault e' =>
      rw [result] at reaches
      exact ⟨trivial, reaches⟩

theorem after_discard (call : EngineM α) (e : Engine) : after (discard call) e = after call e := by
  rw [after, discard_apply, after]
  cases call e <;> rfl

/-- The pipeline is made of deployment calls. -/
theorem createDeployment_reaches (F : Type) [ScoreArith F] (sid : ServiceId)
    (oc : RawEnum OffloadClass) :
    Throws (Reaches step Deploys) (fun _ => True)
      (createDeployment F (Coordinator.deploymentRequest sid oc)) := by
  unfold createDeployment
  refine Throws.get.bind fun e => ?_
  split
  · exact .throw trivial
  split
  · exact .pure none
  refine (call_reaches (fun e => (after_discard _ e).symm)
    (Deploys.reserve sid oc _)).bind fun dep => ?_
  refine (call_reaches (fun _ => rfl) (Deploys.stage dep)).bind fun _ => ?_
  refine (call_reaches (fun _ => rfl) (Deploys.load dep)).bind fun _ => ?_
  refine (call_reaches (fun _ => rfl) (Deploys.validate dep)).bind fun _ => ?_
  refine (call_reaches (fun e => (after_discard _ e).symm)
    (Deploys.activate dep)).bind fun _ => ?_
  exact (call_reaches (fun _ => rfl) (Deploys.commit dep)).bind fun _ => .pure _

end Engine

namespace Coordinator

variable {F : Type} [ScoreArith F] {s : Socket} {c c' : Coordinator}

@[simp]
theorem engine_commanded (c : Coordinator) (dev : DeviceId) :
    (c.commanded dev).engine = c.engine := by
  unfold commanded
  split
  · rfl
  · split <;> rfl

theorem engine_asAdmin (c : Coordinator) (s : Socket) (role : Role) :
    (c.asAdmin s role).engine = c.engine := by
  cases role <;> rfl

/-- Only the pipeline calls the engine for an administrator. -/
theorem AdminOutcome.reaches {payload : List UInt8} (outcome : AdminOutcome F s payload c c') :
    Reaches Engine.step Deploys c.engine c'.engine := by
  have pipeline := fun sid oc => (Engine.createDeployment_reaches F sid oc).outcome c.engine
  cases outcome with
  | @failed _ _ _ sid oc _ _ _ _ thrown =>
      have called := pipeline sid oc
      rw [thrown] at called
      exact called.2
  | @rejected _ _ _ sid oc _ _ _ created =>
      have called := pipeline sid oc
      rw [created] at called
      exact called
  | @deployed _ _ _ sid oc _ _ _ _ _ created =>
      have called := pipeline sid oc
      rw [created] at called
      simpa [replied] using called
  | _ => exact .refl _

theorem WorkerOutcome.reaches {wid : WorkerId} {f : Frame} (outcome : WorkerOutcome wid f c c') :
    Reaches Engine.step (Causes .worker) c.engine c'.engine := by
  cases outcome with
  | @device dev =>
      show Reaches _ _ _ (Engine.after (registerOrUpdate c (ownedBy c wid dev)) c.engine)
      unfold registerOrUpdate
      split_ifs
      · rw [← Engine.after_discard]
        exact .single (Causes.knownDevice _)
      · rw [← Engine.after_discard]
        exact .single (Causes.newDevice _)
  | evidence =>
      show Reaches _ _ _ (Engine.after (Engine.updateDevice _) c.engine)
      rw [← Engine.after_discard]
      exact .single (Causes.knownDevice _)
  | _ => exact .refl _

theorem engine_withoutConn (c : Coordinator) (s : Socket) (role : Role) :
    Reaches Engine.step (Causes role) c.engine (c.withoutConn s).engine := by
  unfold withoutConn
  split
  · exact .refl _
  · exact .single (Causes.lost _)

/-- A turn makes calls of its connection's role only. -/
theorem Dispatched.reaches {role : Role} {result : RecvResult}
    (dispatched : Dispatched F s c role result c') :
    Reaches Engine.step (Causes role) c.engine c'.engine := by
  cases dispatched with
  | idle => exact .refl _
  | closed lost => exact engine_withoutConn c s role
  | @greeted f wk boot label ahead e greets read registered =>
      have called : e = c.engine.step (.registerWorker ⟨wk⟩ ⟨boot⟩) := by
        simp only [Engine.step, Engine.exec, Engine.after, registered]
      show Reaches _ _ _ e
      rw [called]
      exact .single (Causes.greeting _ _)
  | @refused f wk boot label ahead fault e greets read thrown =>
      have called : e = c.engine.step (.registerWorker ⟨wk⟩ ⟨boot⟩) := by
        simp only [Engine.step, Engine.exec, Engine.after, thrown]
      show Reaches _ _ _ e
      rw [called]
      exact .single (Causes.greeting _ _)
  | admin privileged outcome =>
      have notWorker : role ≠ .worker := by
        rintro rfl
        simp at privileged
      have reaches := outcome.reaches
      rw [engine_asAdmin] at reaches
      exact reaches.mono fun _ => Causes.deploys notWorker
  | worker outcome => exact outcome.reaches

end Coordinator

/-! ## A session -/

namespace Session

open Worker (helloPayload devicePayload decodeHello_helloPayload getDevice_devicePayload)

def args : WorkerArgs := { worker := 7, boot := 9 }

/-- A worker greets, reports its device, and is gone. -/
def worker : Stream :=
  ⟨[frameBytes (.declared .hello) (helloPayload args),
    frameBytes (.declared .registerDevice) (devicePayload args)], .closed⟩

/-- `CREATE_DEPLOYMENT`, for the service of the coordinator. -/
def createPayload : List UInt8 :=
  le64 5 ++ [Enumerator.code Cmd.createDeployment] ++
    (le64 90 ++ [Enumerator.code OffloadClass.securityService])

def admin : Stream := ⟨[frameBytes (.declared .command) createPayload], .silent⟩

/-- The worker is heard first, and then the administrator. -/
def events : List MainLoop.Event :=
  [.accept 3 worker, .poll 3 true, .poll 3 true, .accept 4 admin, .poll 4 true]

def accepted (s : Socket) (c : Coordinator) : Coordinator :=
  { c with conns := c.conns.insert s .unknown }

/-- The variables of `main` after the first message. -/
def greeted : Coordinator :=
  (accepted 3 (MainLoop.start ⟨1⟩).coordinator).turned ℚ 3 .unknown
    (.ok (received (.declared .hello, helloPayload args)))

def reported : Coordinator :=
  greeted.turned ℚ 3 .worker (.ok (received (.declared .registerDevice, devicePayload args)))

def deployed : Coordinator :=
  (accepted 4 reported).turned ℚ 4 .unknown (.ok (received (.declared .command, createPayload)))

theorem greeted_conns : greeted.conns[(3 : Socket)]? = some .worker := by decide +kernel

theorem still_running : greeted.running = true ∧ reported.running = true ∧
    deployed.running = true := by
  decide +kernel

theorem hello_message : Message .unknown worker.bytes (.declared .hello) (helloPayload args)
    (frameBytes (.declared .registerDevice) (devicePayload args)) where
  framed := by simp [Stream.bytes, worker]
  bound := by
    rw [Worker.length_helloPayload]
    decide
  fields := (accepts_decodeHello.returns_iff _).mp
    ⟨_, _, decodeHello_helloPayload (by decide)⟩

theorem device_message : Message .worker (frameBytes (.declared .registerDevice) (devicePayload args))
    (.declared .registerDevice) (devicePayload args) [] where
  framed := (List.append_nil _).symm
  bound := by
    rw [Worker.length_devicePayload]
    decide
  fields := (accepts_getDevice.returns_iff _).mp ⟨_, _, getDevice_devicePayload args⟩

theorem create_message : Message .unknown admin.bytes (.declared .command) createPayload [] where
  framed := by simp [Stream.bytes, admin]
  bound := by decide
  fields := by
    have read : readCommand createPayload = .ok (5, Enumerator.code Cmd.createDeployment)
        (le64 90 ++ [Enumerator.code OffloadClass.securityService]) := rfl
    exact (accepts_readCommand.returns_iff _).mp ⟨_, _, read⟩

theorem accepted_conns (s : Socket) (c : Coordinator) :
    (accepted s c).conns[s]? = some .unknown := by
  rw [accepted, OrderedMap.lookup_insert, if_pos rfl]

theorem step_hello : ∃ l, MainLoop.step ℚ (.returns ((MainLoop.start ⟨1⟩).accept 3 worker))
      (.poll 3 true) = .returns l ∧ l.coordinator = greeted ∧
    (l.streams 3).bytes = frameBytes (.declared .registerDevice) (devicePayload args) ∧
      (l.streams 3).ending = .closed := by
  have peer := MainLoop.accept_streams (.start ⟨1⟩) 3 worker
  obtain ⟨l, stepped, coordinator, bytes, ending, -⟩ := MainLoop.step_of_message (F := ℚ) rfl
    (accepted_conns 3 (MainLoop.start ⟨1⟩).coordinator) (peer.symm ▸ hello_message)
  rw [peer] at ending
  exact ⟨l, stepped, coordinator, bytes, ending⟩

theorem step_device {l : MainLoop} (coordinator : l.coordinator = greeted)
    (bytes : (l.streams 3).bytes =
      frameBytes (.declared .registerDevice) (devicePayload args)) :
    ∃ l', MainLoop.step ℚ (.returns l) (.poll 3 true) = .returns l' ∧
      l'.coordinator = reported ∧ (l'.streams 3).bytes = [] ∧
        (l'.streams 3).ending = (l.streams 3).ending := by
  have registered : l.coordinator.conns[(3 : Socket)]? = some .worker := by
    rw [coordinator]
    exact greeted_conns
  have running : l.coordinator.running = true := by
    rw [coordinator]
    exact still_running.1
  obtain ⟨l', stepped, coordinator', bytes', ending, -⟩ := MainLoop.step_of_message (F := ℚ)
    running registered (bytes.symm ▸ device_message)
  rw [coordinator] at coordinator'
  exact ⟨l', stepped, coordinator', bytes', ending⟩

theorem step_create {l : MainLoop} (coordinator : l.coordinator = reported) :
    ∃ l', MainLoop.step ℚ (.returns (l.accept 4 admin)) (.poll 4 true) = .returns l' ∧
      l'.coordinator = deployed ∧ l'.streams 3 = l.streams 3 := by
  have peer := MainLoop.accept_streams l 4 admin
  have running : (l.accept 4 admin).coordinator.running = true := by
    show l.coordinator.running = true
    rw [coordinator]
    exact still_running.2.1
  obtain ⟨l', stepped, coordinator', -, -, others⟩ := MainLoop.step_of_message (F := ℚ)
    running (accepted_conns 4 l.coordinator) (peer.symm ▸ create_message)
  refine ⟨l', stepped, ?_, ?_⟩
  · rw [coordinator']
    show (accepted 4 l.coordinator).turned ℚ 4 .unknown _ = _
    rw [coordinator, deployed]
  · have other : (3 : Socket) ≠ 4 := by decide
    rw [others 3 other]
    exact Function.update_of_ne other admin l.streams

/-- The states after the three messages. -/
structure Steps (l₁ l₂ l₃ : MainLoop) : Prop where
  hello : MainLoop.step ℚ (.returns ((MainLoop.start ⟨1⟩).accept 3 worker)) (.poll 3 true) =
    .returns l₁
  device : MainLoop.step ℚ (.returns l₁) (.poll 3 true) = .returns l₂
  create : MainLoop.step ℚ (.returns (l₂.accept 4 admin)) (.poll 4 true) = .returns l₃
  greeted : l₁.coordinator = greeted
  reported : l₂.coordinator = reported
  deployed : l₃.coordinator = deployed
  bytes : (l₃.streams 3).bytes = []
  ending : (l₃.streams 3).ending = .closed

theorem steps : ∃ l₁ l₂ l₃, Steps l₁ l₂ l₃ := by
  obtain ⟨l₁, first, coordinator₁, bytes₁, ending₁⟩ := step_hello
  obtain ⟨l₂, second, coordinator₂, bytes₂, ending₂⟩ := step_device coordinator₁ bytes₁
  obtain ⟨l₃, third, coordinator₃, others⟩ := step_create coordinator₂
  exact ⟨l₁, l₂, l₃, first, second, third, coordinator₁, coordinator₂, coordinator₃,
    by rw [others, bytes₂], by rw [others, ending₂, ending₁]⟩

section Steps

variable {l₁ l₂ l₃ : MainLoop}

theorem Steps.connect (steps : Steps l₁ l₂ l₃) :
    MainLoop.step ℚ (.returns l₂) (.accept 4 admin) = .returns (l₂.accept 4 admin) := by
  apply MainLoop.accept_of_running
  rw [steps.reported]
  exact still_running.2.1

/-- Before the administrator connects. -/
theorem Steps.run_report (steps : Steps l₁ l₂ l₃) :
    TransitionRun.run (MainLoop.step ℚ) (.returns (.start ⟨1⟩)) (events.take 3) =
      .returns l₂ := by
  calc TransitionRun.run (MainLoop.step ℚ) (.returns (.start ⟨1⟩)) (events.take 3)
      = MainLoop.step ℚ (MainLoop.step ℚ
          (.returns ((MainLoop.start ⟨1⟩).accept 3 worker)) (.poll 3 true)) (.poll 3 true) := rfl
    _ = .returns l₂ := by rw [steps.hello, steps.device]

/-- The session stays in the loop. -/
theorem Steps.run_events (steps : Steps l₁ l₂ l₃) :
    TransitionRun.run (MainLoop.step ℚ) (.returns (.start ⟨1⟩)) events = .returns l₃ := by
  calc TransitionRun.run (MainLoop.step ℚ) (.returns (.start ⟨1⟩)) events
      = MainLoop.step ℚ (MainLoop.step ℚ
          (TransitionRun.run (MainLoop.step ℚ) (.returns (.start ⟨1⟩)) (events.take 3))
          (.accept 4 admin)) (.poll 4 true) := rfl
    _ = MainLoop.step ℚ (.returns (l₂.accept 4 admin)) (.poll 4 true) := by
          rw [steps.run_report, steps.connect]
    _ = .returns l₃ := steps.create

end Steps

theorem deployed_conns : deployed.conns[(3 : Socket)]? = some .worker := by decide +kernel

/-- The next turn of the worker's connection finds its end. -/
theorem step_closed {l : MainLoop} (coordinator : l.coordinator = deployed)
    (bytes : (l.streams 3).bytes = []) (ending : (l.streams 3).ending = .closed) :
    ∃ l', MainLoop.step ℚ (.returns l) (.poll 3 true) = .returns l' ∧
      l'.coordinator = deployed.withoutConn 3 := by
  have registered : l.coordinator.conns[(3 : Socket)]? = some .worker := by
    rw [coordinator]
    exact deployed_conns
  obtain ⟨c, closed, -⟩ := Coordinator.closeConn_eq (s := 3) l.coordinator
  have handled : Coordinator.process ℚ 3 .worker .closed l.coordinator = .ok () c := closed
  have running : l.coordinator.running = true := by
    rw [coordinator]
    exact still_running.2.2
  refine ⟨{ coordinator := c, streams := Function.update l.streams 3 (l.streams 3), visited := 3 },
    ?_, ?_⟩
  · rw [MainLoop.step_of_running running, MainLoop.poll_of_returns rfl,
      turn_of_recvFrame registered (recvFrame_closed bytes ending), handled]
  · rw [← coordinator]
    cases Coordinator.process_outcome handled with
    | closed => rfl

end Session

/-! ## The engine of a process -/

/-- A call that some turn may make. -/
def Served (op : Op) : Prop :=
  ∃ role, Causes role op

/-- The calls that a step may make: those of the role of the connection that is polled. -/
def CausedBy (l : MainLoop) : MainLoop.Event → Op → Prop
  | .accept _ _, _ => False
  | .poll s _ _, op => ∃ role, l.coordinator.conns[s]? = some role ∧ Causes role op

theorem CausedBy.served {l : MainLoop} {event : MainLoop.Event} {op : Op}
    (caused : CausedBy l event op) : Served op := by
  cases event with
  | accept s peer => exact caused.elim
  | poll s arrived sends =>
      obtain ⟨role, -, causes⟩ := caused
      exact ⟨role, causes⟩

namespace MainLoop

variable {F : Type} [ScoreArith F] {l l' : MainLoop}

theorem step_reaches {event : Event} (stepped : step F (.returns l) event = .returns l') :
    Reaches Engine.step (CausedBy l event) l.coordinator.engine l'.coordinator.engine := by
  cases event with
  | accept s peer => rcases accepted stepped with rfl | rfl <;> exact .refl _
  | poll s arrived sends =>
      cases polled stepped with
      | idle => exact .refl _
      | @turn role result rest c registered received dispatched =>
          exact dispatched.reaches.mono fun op causes => ⟨role, registered, causes⟩

theorem run_reaches {events : List Event}
    (ended : TransitionRun.run (step F) (.returns l) events = .returns l') :
    Reaches Engine.step Served l.coordinator.engine l'.coordinator.engine :=
  run_invariant_of_step
    (fun middle => Reaches Engine.step Served l.coordinator.engine middle.coordinator.engine)
    (fun _ _ _ reached stepped =>
      reached.trans ((step_reaches stepped).mono fun _ => CausedBy.served))
    (.refl _) ended

end MainLoop

/--
The loop refines the engine: each step makes a run of calls that the role of the
polled connection may cause, so a whole run of the loop is a run of these calls.
-/
theorem mainLoop_refines_engine (F : Type) [ScoreArith F] (l l' : MainLoop)
    (events : List MainLoop.Event)
    (ended : TransitionRun.run (MainLoop.step F) (.returns l) events = .returns l') :
    TransitionRun.Every (MainLoop.step F)
        (MainLoop.OnLoop fun middle event => ∀ next,
          MainLoop.step F (.returns middle) event = .returns next →
            Reaches Engine.step (CausedBy middle event)
              middle.coordinator.engine next.coordinator.engine)
        (.returns l) events ∧
      ∃ ops, (∀ op ∈ ops, Served op) ∧
        Engine.run l.coordinator.engine ops = l'.coordinator.engine := by
  refine ⟨?_, MainLoop.run_reaches ended⟩
  exact MainLoop.every_onLoop (fun _ _ _ stepped => MainLoop.step_reaches stepped) _ events

/-- The session ends with a deployment, which a run of the engine's calls has made. -/
theorem mainLoop_refines_engine_session :
    ∃ l ops, TransitionRun.run (MainLoop.step ℚ) (.returns (.start ⟨1⟩)) Session.events =
        .returns l ∧
      (∀ op ∈ ops, Served op) ∧
        (Engine.run (MainLoop.start ⟨1⟩).coordinator.engine ops).state.deployments.size = 1 := by
  obtain ⟨l₁, l₂, l, steps⟩ := Session.steps
  obtain ⟨-, ops, served, reached⟩ := mainLoop_refines_engine ℚ _ _ _ steps.run_events
  refine ⟨l, ops, steps.run_events, served, ?_⟩
  rw [reached, steps.deployed]
  decide +kernel

end DPUFabric
