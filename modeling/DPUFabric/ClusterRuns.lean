import DPUFabric.ClusterBook

/-!
# Runs of a cluster

What holds of every book of requests holds of every run of a cluster, whatever its
order: of the workers' steps, of the coordinator's turns, of what arrives by then, and
of the losses of processes.
-/

namespace DPUFabric

open Std
open Codec
open Requests
open Cluster (delivered_bytes sentTo_nil sentTo_cons afterTurn)
open DPUFabric.Wire
open DPUFabric.Persistence
open DPUFabric.Proto
open DPUFabric.Mp
open DPUFabric.Mpproto

/-! ## Runs -/

/-- Nothing that was sent is taken back. -/
theorem Coordinator.Dispatched.sent_grows {F : Type} [ScoreArith F] {s : Socket}
    {c c' : Coordinator} {role : Role} {result : RecvResult}
    (dispatched : Dispatched F s c role result c') : c.sent <+: c'.sent := by
  rcases dispatched.writes with ⟨-, frames, sent, -⟩ | ⟨f, -, frames, sent, -⟩
  · rw [sent]
    exact List.prefix_append _ _
  · rw [sent]
    exact List.prefix_append _ _

namespace Cluster

variable {F : Type} [ScoreArith F] {k k' : Cluster} {b : Book Socket}

/-- A condition on the steps that a cluster takes. -/
def OnCluster (P : Cluster → Event → Prop) (t : Turn Cluster) (event : Event) : Prop :=
  ∀ k, t = .returns k → P k event

theorem returns_of_step {t : Turn Cluster} {event : Event}
    (stepped : step F t event = .returns k') : ∃ k, t = .returns k := by
  obtain ⟨k, returned, -⟩ := Turn.bind_eq_returns stepped
  exact ⟨k, returned⟩

theorem connect_eq {args : WorkerArgs} (short : args.label.length ≤ kMaxStringBytes)
    {sends : List Sending} (taken : ∀ sending ∈ sends, sending = .sent) (k : Cluster) (s : Socket) :
    k.connect s args sends = .returns
      ⟨k.loop.accept s ⟨[frameBytes (.declared .hello) (Worker.helloPayload args)], .silent⟩,
        Function.update k.processes s (some { args := args })⟩ := by
  rw [connect, Worker.greet_eq short, List.nil_append]
  dsimp only
  have submitted := (Worker.submit_returns_iff [(FrameType.declared .hello,
    Worker.helloPayload args)] sends).mpr fun write member => taken _ (List.of_mem_zip member).2
  rw [submitted]
  rfl

/-- What a step has done that has returned. -/
inductive Stepped (F : Type) [ScoreArith F] (k : Cluster) : Event → Cluster → Prop
  | idle {event : Event} : Stepped F k event k
  | connect {s : Socket} {args : WorkerArgs} {sends : List Sending} :
      Stepped F k (.connect s args sends)
        ⟨k.loop.accept s ⟨[frameBytes (.declared .hello) (Worker.helloPayload args)], .silent⟩,
          Function.update k.processes s (some { args := args })⟩
  | visit {s : Socket} {peer : Stream} : Stepped F k (.visit s peer) (k.visit s peer)
  | poll {s : Socket} {arrived : Bool} {sends : List Sending} {k' : Cluster}
      (polled : k.poll F s arrived sends = .returns k') : Stepped F k (.poll s arrived sends) k'
  | work {s : Socket} {arrived : Bool} {sends : List Sending} {said : List Letter} {k' : Cluster}
      (taken : k.takeUp s arrived = .returns (said, k')) : Stepped F k (.work s arrived sends) k'
  | kill {s : Socket} {kept : ℕ} {reset : Bool} :
      Stepped F k (.kill s kept reset) (k.kill s kept reset)
  | finish : Stepped F k .finish k.finish

theorem stepped_of_step {event : Event} (admissible : Admissible F k event)
    (stepped : step F (.returns k) event = .returns k') : Stepped F k event k' := by
  cases event with
  | connect s args sends =>
      change (if k.loop.coordinator.running = true then k.connect s args sends
        else .returns k) = _ at stepped
      split_ifs at stepped with running
      · rw [connect_eq admissible.2.1 admissible.2.2] at stepped
        cases stepped
        exact .connect
      · cases stepped
        exact .idle
  | visit s peer =>
      change Turn.returns (if k.loop.coordinator.running = true then k.visit s peer else k) = _
        at stepped
      split_ifs at stepped with running
      · cases stepped
        exact .visit
      · cases stepped
        exact .idle
  | poll s arrived sends =>
      change (if k.loop.admits (.poll s arrived sends) = true then k.poll F s arrived sends
        else .returns k) = _ at stepped
      split_ifs at stepped with admitted
      · exact .poll stepped
      · cases stepped
        exact .idle
  | work s arrived sends =>
      change k.work s arrived sends = .returns k' at stepped
      obtain ⟨⟨said, after⟩, taken, submitted⟩ := Turn.bind_eq_returns stepped
      have written : (Worker.submit said sends >>= fun _ => Turn.returns after) = .returns k' :=
        submitted
      obtain ⟨_, -, same⟩ := Turn.bind_eq_returns written
      cases same
      exact .work taken
  | kill s kept reset =>
      cases stepped
      exact .kill
  | finish =>
      change Turn.returns (if k.loop.coordinator.running = true then k else k.finish) = _ at stepped
      split_ifs at stepped with running
      · cases stepped
        exact .idle
      · cases stepped
        exact .finish

/-- A worker process leaves the coordinator alone. -/
theorem takeUp_coordinator {s : Socket} {arrived : Bool} {said : List Letter}
    (taken : k.takeUp s arrived = .returns (said, k')) :
    k'.loop.coordinator = k.loop.coordinator := by
  unfold takeUp at taken
  cases known : k.processes s with
  | none =>
      rw [known] at taken
      cases taken
      rfl
  | some p =>
      simp only [known] at taken
      split_ifs at taken with stopped
      · cases taken
        rfl
      · obtain ⟨⟨result, rest⟩, -, taken⟩ := Turn.bind_eq_returns taken
        cases received : Worker.receive p.args p.phase result [] with
        | error fault said => simp [received] at taken
        | ok phase said =>
            simp only [received] at taken
            cases taken
            rfl

theorem Stepped.sent_le {event : Event} (stepped : Stepped F k event k') :
    k.loop.coordinator.sent.length ≤ k'.loop.coordinator.sent.length := by
  cases stepped with
  | idle => exact le_rfl
  | connect => exact le_rfl
  | visit => exact le_rfl
  | finish => exact le_rfl
  | kill =>
      unfold Cluster.kill
      split <;> exact le_rfl
  | work taken => rw [takeUp_coordinator taken]
  | poll polled =>
      obtain ⟨loop, returned, polled⟩ := Turn.bind_eq_returns polled
      obtain ⟨got, -, polled⟩ := Turn.bind_eq_returns polled
      cases polled
      cases MainLoop.polled_of_turn (MainLoop.poll_eq_returns_iff.mp returned).1 with
      | idle => exact le_rfl
      | turn registered received dispatched => exact dispatched.sent_grows.length_le

/-- Every step is a few entries of the book. -/
theorem Stepped.tracks {event : Event} (stepped : Stepped F k event k') (tracks : Tracks k b)
    (admissible : Admissible F k event) (room : k'.loop.coordinator.sent.length < 2 ^ 64) :
    ∃ entries, Tracks k' (TransitionRun.run Book.step b entries) := by
  have before := stepped.sent_le.trans_lt room
  cases stepped with
  | idle => exact ⟨[], tracks⟩
  | @connect s args sends =>
      obtain ⟨absent, short, -⟩ := admissible
      refine ⟨[], tracks.accept absent ?_ (by simp)⟩
      rintro p ⟨⟩
      have greeted : Stream.bytes ⟨[frameBytes (.declared .hello) (Worker.helloPayload args)], .silent⟩ =
          wireBytes ([Said.hello].map (Said.letter args)) ++ [] := by
        simp [Stream.bytes, wireBytes, Said.letter]
      exact ⟨short, .waiting ⟨⟨[], greeted, short_nil, fun _ => rfl⟩, fun _ => rfl⟩ (Or.inl rfl)
        fun _ => ⟨rfl, rfl⟩⟩
  | visit =>
      obtain ⟨absent, notGreeting⟩ := admissible
      exact ⟨[], tracks.accept absent (by simp) fun _ => notGreeting⟩
  | poll polled => exact tracks.poll before admissible polled
  | @work s arrived sends said _ taken =>
      obtain ⟨said', after, entries, taken', -, kept⟩ := tracks.takeUp s arrived
      cases taken.symm.trans taken'
      exact ⟨entries, kept⟩
  | kill => exact tracks.kill _ _ _
  | finish => exact ⟨[], tracks.finish⟩

theorem run_tracks {epoch : CoordinatorEpoch} {events : List Event}
    (admissible : TransitionRun.Every (step F) (OnCluster (Admissible F))
      (.returns (.start epoch)) events)
    (ended : TransitionRun.run (step F) (.returns (.start epoch)) events = .returns k)
    (room : k.loop.coordinator.sent.length < 2 ^ 64) :
    ∃ entries, Tracks k (TransitionRun.run Book.step (.start 1) entries) := by
  refine TransitionRun.run_invariant (P := OnCluster (Admissible F))
    (fun t => ∀ k, t = .returns k → k.loop.coordinator.sent.length < 2 ^ 64 →
      ∃ entries, Tracks k (TransitionRun.run Book.step (.start 1) entries)) ?_ ?_ admissible k
    ended room
  · intro t event meets before k' stepped room
    obtain ⟨k, rfl⟩ := returns_of_step stepped
    have stepped := stepped_of_step (meets k rfl) stepped
    obtain ⟨earlier, tracks⟩ := before k rfl (stepped.sent_le.trans_lt room)
    obtain ⟨entries, after⟩ := stepped.tracks tracks (meets k rfl) room
    refine ⟨earlier ++ entries, ?_⟩
    rw [TransitionRun.run_append]
    exact after
  · rintro k ⟨⟩ -
    exact ⟨[], .start epoch⟩

end Cluster

/-! ## A session -/

namespace Cluster

variable {F : Type} [ScoreArith F] {k : Cluster} {s : Socket}

/-- While the coordinator runs it takes up everything. -/
theorem step_of_running (running : k.loop.coordinator.running = true) :
    (∀ args sends, step F (.returns k) (.connect s args sends) = k.connect s args sends) ∧
      (∀ peer, step F (.returns k) (.visit s peer) = .returns (k.visit s peer)) ∧
      ∀ arrived sends, step F (.returns k) (.poll s arrived sends) = k.poll F s arrived sends := by
  refine ⟨fun args sends => if_pos running, fun peer => ?_, fun arrived sends => if_pos ?_⟩
  · exact congrArg Turn.returns (if_pos running)
  · rw [MainLoop.admits, running]
    rfl

/-- A message that has arrived is handled. -/
theorem poll_of_message {role : Role} {type : FrameType} {payload more : List UInt8}
    (registered : k.loop.coordinator.conns[s]? = some role)
    (next : Message role (k.loop.streams s).bytes type payload more) :
    ∃ c rest frames, c = k.loop.coordinator.turned F s role (.ok (received (type, payload))) ∧
      rest.bytes = more ∧ c.sent = k.loop.coordinator.sent ++ frames ∧
      k.poll F s true [] = .returns (k.afterTurn s c rest frames) := by
  obtain ⟨rest, read, behind, -⟩ := recvFrame_of_framed next.isFramed
  have handles : Exceptions.Throws (Confined s True) (fun _ : Fault => False)
      (Coordinator.process F s role (.ok (received (type, payload)))) :=
    Coordinator.process_throws F next.fields fun _ _ => trivial
  obtain ⟨_, c, handled, -⟩ := handles.returns k.loop.coordinator
  obtain ⟨frames, sent⟩ := (Coordinator.process_outcome handled).sent_grows
  exact ⟨c, rest, frames, by rw [Coordinator.turned, handled], behind, sent.symm,
    poll_eq registered read handled sent.symm⟩

theorem every_cons_returns {P : Cluster → Event → Prop} {k k' : Cluster} {event : Event}
    {more : List Event} (meets : P k event) (stepped : step F (.returns k) event = .returns k')
    (every : TransitionRun.Every (step F) (OnCluster P) (.returns k') more) :
    TransitionRun.Every (step F) (OnCluster P) (.returns k) (event :: more) := by
  refine ⟨?_, by rwa [stepped]⟩
  rintro _ ⟨⟩
  exact meets

namespace Session

open DPUFabric.Session (args admin accepted greeted reported deployed)

/-- A worker greets and reports its device; an administrator asks for a deployment. -/
def events : List Event :=
  [.connect 3 args, .poll 3 true, .work 3 true, .poll 3 true, .visit 4 admin, .poll 4 true]

/-- The coordinator, the worker, and what is on its way between them. -/
structure At (k : Cluster) (c : Coordinator) (phase : WorkerPhase) (said told : List Letter) :
    Prop where
  coordinator : k.loop.coordinator = c
  process : ∃ p, k.processes 3 = some p ∧ p.args = args ∧ p.phase = phase ∧ p.killed = false ∧
    p.incoming.bytes = wireBytes told
  bytes : (k.loop.streams 3).bytes = wireBytes said

variable {c c' : Coordinator} {phase phase' : WorkerPhase} {said told more letters : List Letter}

/-- Someone is heard, and the worker gets what the coordinator sends it. -/
theorem At.poll (here : At k c phase said told) {role : Role} {one : Letter} {next : List UInt8}
    (running : c.running = true) (registered : c.conns[s]? = some role)
    (message : Message role (k.loop.streams s).bytes one.1 one.2 next)
    (turned : c.turned ℚ s role (.ok (received one)) = c')
    (sent : sentTo 3 (c'.sent.drop c.sent.length) = letters.map fun l => frameBytes l.1 l.2)
    (left : (if 3 = s then next else wireBytes said) = wireBytes more) :
    ∃ k', step ℚ (.returns k) (.poll s true) = .returns k' ∧
      At k' c' phase more (told ++ letters) := by
  rw [← here.coordinator] at running registered
  obtain ⟨c₁, rest, frames, handled, behind, grown, polled⟩ := poll_of_message (F := ℚ)
    registered message
  rw [here.coordinator, turned] at handled
  subst handled
  rw [here.coordinator] at grown
  obtain ⟨p, known, worker, inPhase, alive, incoming⟩ := here.process
  have got : sentTo 3 frames = letters.map fun l => frameBytes l.1 l.2 := by
    rw [← sent, grown, List.drop_left]
  refine ⟨_, ((step_of_running running).2.2 true []).trans polled, rfl,
    ⟨delivered frames c₁ 3 p, ?_, worker, inPhase, alive, ?_⟩, ?_⟩
  · show (k.processes 3).map _ = _
    rw [known]
    rfl
  · rw [delivered_bytes, incoming, got, flatten_frames, wireBytes_append]
  · rw [← left, ← behind, ← here.bytes]
    show Stream.bytes (Function.update k.loop.streams s rest 3) = _
    rw [Function.update_apply, apply_ite Stream.bytes]

/-- The worker takes up what it was told. -/
theorem At.work {one : Letter} (here : At k c phase said (one :: told))
    (bound : one.2.length ≤ kMaxPayload) (serves : phase.hasExited = false)
    (receives : Worker.receive args phase (.ok (received one)) [] = .ok phase' letters)
    (serves' : phase'.hasExited = false) :
    ∃ k', step ℚ (.returns k) (.work 3 true) = .returns k' ∧
      At k' c phase' (said ++ letters) told := by
  obtain ⟨p, known, worker, inPhase, alive, incoming⟩ := here.process
  rw [wireBytes_cons] at incoming
  obtain ⟨rest, read, behind, -⟩ := recvFrame_of_framed ⟨incoming, bound⟩
  have running : p.isRunning = true := by
    rw [Process.isRunning, alive, inPhase, serves]
    rfl
  rw [← worker, ← inPhase] at receives
  have taken := takeUp_eq known running read receives
  have worked : step ℚ (.returns k) (.work 3 true) =
      .returns (k.afterWork 3 p phase' letters rest) := by
    show (k.takeUp 3 true >>= fun taken => Worker.submit taken.1 [] >>= fun _ => .returns taken.2) = _
    rw [taken, Turn.returns_bind, (Worker.submit_returns_iff letters []).mpr (by simp)]
    rfl
  refine ⟨_, worked, here.coordinator,
    ⟨{ p with phase := phase', incoming := rest }, ?_, worker, rfl, alive, behind⟩, ?_⟩
  · simp [afterWork]
  · show Stream.bytes (Function.update k.loop.streams 3 (if phase'.hasExited then _ else _) 3) = _
    rw [Function.update_self, serves', if_neg Bool.false_ne_true, Stream.more_bytes,
      flatten_frames, here.bytes, wireBytes_append]

/-- Another connection is accepted. -/
theorem At.visit (here : At k c phase said told) {s : Socket} (other : 3 ≠ s) (peer : Stream) :
    At (k.visit s peer) (accepted s c) phase said told := by
  obtain ⟨p, known, rest⟩ := here.process
  refine ⟨congrArg (accepted s) here.coordinator, ⟨p, ?_, rest⟩, ?_⟩
  · exact (Function.update_of_ne other _ _).trans known
  · rw [← here.bytes]
    exact congrArg Stream.bytes (Function.update_of_ne other _ _)

/-- A worker starts. -/
theorem connects : ∃ k, step ℚ (.returns (.start ⟨1⟩)) (.connect 3 args) = .returns k ∧
    At k (accepted 3 (MainLoop.start ⟨1⟩).coordinator) .greeting [Said.hello.letter args] [] := by
  have short : args.label.length ≤ kMaxStringBytes := by decide
  have ran : (Cluster.start ⟨1⟩).loop.coordinator.running = true := rfl
  refine ⟨_, ((step_of_running ran).1 args []).trans (connect_eq short (by simp) _ _), rfl,
    ⟨{ args := args }, ?_, rfl, rfl, rfl, rfl⟩, ?_⟩
  · simp
  · exact congrArg Stream.bytes (MainLoop.accept_streams (.start ⟨1⟩) 3 _)

/-- The frame at the front of a stream is what it is. -/
theorem not_greeting {s : Stream} {type : FrameType} {payload rest : List UInt8}
    (framed : Framed s.bytes type payload rest) (other : type ≠ .declared .hello) :
    NotGreeting s := by
  intro payload' rest' greets
  have split := framed.split greets.framed
    (by rw [length_frameBytes, greets.declares])
  have decoded : decode (frameBytes type payload) = .ok (received (type, payload)) :=
    decode_eq_ok_iff.mpr ⟨framed.bound, rfl, rfl⟩
  have decoded' : decode (frameBytes (.declared .hello) payload') =
      .ok (received (.declared .hello, payload')) :=
    decode_eq_ok_iff.mpr ⟨greets.bound, rfl, rfl⟩
  rw [split.1, decoded] at decoded'
  injection decoded' with frame
  injection frame with same
  exact other same

/-- The worker's messages, as its connection expects them. -/
theorem said_message {role : Role} (said : Said) (more : List UInt8)
    (suits : if said = .hello then role = .unknown else role = .worker) :
    Message role (frameBytes (said.letter args).1 (said.letter args).2 ++ more)
      (said.letter args).1 (said.letter args).2 more := by
  have short : args.label.length ≤ kMaxStringBytes := by decide
  exact ⟨rfl, said.bounded short, said.fields short suits⟩

/-- The worker is heard. -/
theorem At.hear {one : Said} {role : Role} (here : At k c phase (one.letter args :: more) told)
    (running : c.running = true) (registered : c.conns[(3 : Socket)]? = some role)
    (suits : if one = .hello then role = .unknown else role = .worker)
    (turned : c.turned ℚ 3 role (.ok (received (one.letter args))) = c')
    (sent : sentTo 3 (c'.sent.drop c.sent.length) = letters.map fun l => frameBytes l.1 l.2) :
    ∃ k', step ℚ (.returns k) (.poll 3 true) = .returns k' ∧
      At k' c' phase more (told ++ letters) := by
  refine here.poll running registered ?_ turned sent (if_pos rfl)
  rw [here.bytes, wireBytes_cons]
  exact said_message one _ suits

/-- The administrator is heard. -/
theorem At.hear_admin (here : At k (accepted 4 reported) phase said told)
    (bytes : (k.loop.streams 4).bytes = admin.bytes) :
    ∃ k', step ℚ (.returns k) (.poll 4 true) = .returns k' ∧
      At k' deployed phase said (told ++ [(Told.command 1).letter]) := by
  have sent : sentTo 3 (deployed.sent.drop (accepted 4 reported).sent.length) =
      [(Told.command 1).letter].map fun l => frameBytes l.1 l.2 := by
    decide +kernel
  have other : (3 : Socket) ≠ 4 := by decide
  have message := DPUFabric.Session.create_message
  rw [← bytes] at message
  have running : (accepted 4 reported).running = true := by decide +kernel
  exact here.poll running
    (DPUFabric.Session.accepted_conns 4 reported) message rfl sent (if_neg other)

theorem greeted_sent :
    sentTo 3 (greeted.sent.drop (accepted 3 (MainLoop.start ⟨1⟩).coordinator).sent.length) =
      [(Told.ack ⟨1⟩).letter].map fun l => frameBytes l.1 l.2 := by
  decide +kernel

theorem reported_sent : sentTo 3 (reported.sent.drop greeted.sent.length) =
    ([] : List Letter).map fun l => frameBytes l.1 l.2 := by
  decide +kernel

/-- The worker's evidence is on its way, and the command for it. -/
theorem ends : ∃ k, At k deployed .serving [Said.evidence.letter args] [(Told.command 1).letter] ∧
    TransitionRun.Every (step ℚ) (OnCluster (Admissible ℚ)) (.returns (.start ⟨1⟩)) events ∧
      TransitionRun.run (step ℚ) (.returns (.start ⟨1⟩)) events = .returns k := by
  have runs₂ : (accepted 3 (MainLoop.start ⟨1⟩).coordinator).running = true := by decide +kernel
  obtain ⟨runs₃, runs₄, -⟩ := DPUFabric.Session.still_running
  obtain ⟨k₁, first, at₁⟩ := connects
  obtain ⟨k₂, second, at₂⟩ :=
    at₁.hear runs₂ (DPUFabric.Session.accepted_conns 3 _) rfl rfl greeted_sent
  obtain ⟨k₃, third, at₃⟩ := at₂.work (Told.all_bounded [.ack ⟨1⟩] _ (List.mem_singleton_self _))
    rfl (Worker.receive_ack args ⟨1⟩) rfl
  obtain ⟨k₄, fourth, at₄⟩ :=
    at₃.hear runs₃ DPUFabric.Session.greeted_conns rfl rfl reported_sent
  have other : (3 : Socket) ≠ 4 := by decide
  have at₅ := at₄.visit other admin
  have fifth : step ℚ (.returns k₄) (.visit 4 admin) = .returns (k₄.visit 4 admin) := by
    apply (step_of_running _).2.1
    rw [at₄.coordinator]
    exact runs₄
  have peer : (k₄.visit 4 admin).loop.streams 4 = admin := MainLoop.accept_streams k₄.loop 4 admin
  obtain ⟨k₆, sixth, at₆⟩ := at₅.hear_admin (congrArg Stream.bytes peer)
  have free₃ : (Cluster.start ⟨1⟩).loop.coordinator.conns[(3 : Socket)]? = none := by
    decide +kernel
  have free₄ : k₄.loop.coordinator.conns[(4 : Socket)]? = none := by
    rw [at₄.coordinator]
    decide +kernel
  have stranger : NotGreeting admin :=
    not_greeting (DPUFabric.Session.create_message.isFramed) (by decide)
  have short : args.label.length ≤ kMaxStringBytes := by decide
  have polls : ∀ k s, Admissible ℚ k (.poll s true) := by
    intro k s loop _ write member
    simp at member
  have works : ∀ k, Admissible ℚ k (.work 3 true) := by
    intro k _ _ sending member
    cases member
  refine ⟨k₆, at₆, ?_, ?_⟩
  · exact every_cons_returns ⟨free₃, short, by simp⟩ first <|
      every_cons_returns (polls _ _) second <| every_cons_returns (works _) third <|
      every_cons_returns (polls _ _) fourth <| every_cons_returns ⟨free₄, stranger⟩ fifth <|
      every_cons_returns (polls _ _) sixth trivial
  · calc TransitionRun.run (step ℚ) (.returns (.start ⟨1⟩)) events
        = step ℚ (step ℚ (step ℚ (step ℚ (step ℚ (step ℚ (.returns (.start ⟨1⟩))
            (.connect 3 args)) (.poll 3 true)) (.work 3 true)) (.poll 3 true))
            (.visit 4 admin)) (.poll 4 true) := rfl
      _ = .returns k₆ := by rw [first, second, third, fourth, fifth, sixth]

end Session

end Cluster

/--
Every run of a cluster keeps a book of requests: the coordinator's list of pending
commands is what the book has without an answer, and what each worker process can still
answer is what it owes in the book.  So a command that is pending is on its way to one
worker process, or its answer is on its way back from it, or it was lost with it.
-/
theorem commands_refine_requests (F : Type) [ScoreArith F] (epoch : CoordinatorEpoch)
    (events : List Cluster.Event) (k : Cluster)
    (admissible : TransitionRun.Every (Cluster.step F) (Cluster.OnCluster (Cluster.Admissible F))
      (.returns (.start epoch)) events)
    (ended : TransitionRun.run (Cluster.step F) (.returns (.start epoch)) events = .returns k)
    (room : k.loop.coordinator.sent.length < 2 ^ 64) :
    ∃ entries, Tracks k (TransitionRun.run Book.step (.start 1) entries) :=
  Cluster.run_tracks admissible ended room

/-- One command is pending, and its answer is to come. -/
theorem commands_refine_requests_session : ∃ k,
    TransitionRun.run (Cluster.step ℚ) (.returns (.start ⟨1⟩)) Cluster.Session.events =
      .returns k ∧ k.loop.coordinator.pending.keys = [1] ∧
    ∃ entries, Tracks k (TransitionRun.run Book.step (.start 1) entries) := by
  obtain ⟨k, here, admissible, ended⟩ := Cluster.Session.ends
  have pending : k.loop.coordinator.pending.keys = [1] := by
    rw [here.coordinator]
    decide +kernel
  have room : k.loop.coordinator.sent.length < 2 ^ 64 := by
    rw [here.coordinator]
    decide +kernel
  exact ⟨k, ended, pending, commands_refine_requests ℚ ⟨1⟩ _ k admissible ended room⟩

/-! ## Turns that return -/

section Returns

variable {F : Type} [ScoreArith F] {k : Cluster} {b : Book Socket} {s : Socket}

theorem MainLoop.turn_of_handled {l : MainLoop} {role : Role} {arrived : Bool}
    {result : RecvResult} {rest : Stream} {c : Coordinator}
    (registered : l.coordinator.conns[s]? = some role)
    (read : recvFrame (l.streams s) arrived = .returns (result, rest))
    (handled : Coordinator.process F s role result l.coordinator = .ok () c) :
    ∃ l', l.turn F s arrived = .returns l' := by
  rw [turn_of_recvFrame registered read, handled]
  exact ⟨_, rfl⟩

/-- Whatever a worker process has done, its turn returns. -/
theorem Tracks.turn_returns (tracks : Tracks k b) {p : Process} (known : k.processes s = some p)
    (arrived : Bool) : ∃ l', k.loop.turn F s arrived = .returns l' := by
  cases registered : k.loop.coordinator.conns[s]? with
  | none =>
      rw [MainLoop.turn, registered]
      exact ⟨_, rfl⟩
  | some role =>
  obtain ⟨short, link⟩ := tracks.links s p known
  rw [registered] at link
  have handles : ∀ {said : List Said}, OnTheWay p (k.loop.streams s) said →
      (∀ one ∈ said, if one = .hello then role = .unknown else role = .worker) →
        ∃ l', k.loop.turn F s arrived = .returns l' := by
    intro said outgoing suits
    obtain ⟨tail, bytes, shortTail, whole⟩ := outgoing.bytes
    have reads := recvFrame_reads (Said.all_bounded short said) bytes shortTail whole arrived
    generalize returned : recvFrame (k.loop.streams s) arrived = turn at reads
    cases reads with
    | idle =>
        have handled : Coordinator.process F s role .timeout k.loop.coordinator =
            .ok () k.loop.coordinator := rfl
        exact MainLoop.turn_of_handled registered returned handled
    | gone none ended lost =>
        obtain ⟨c, closed, -⟩ := Coordinator.closeConn_eq (s := s) k.loop.coordinator
        rcases lost with rfl | rfl
        · have handled : Coordinator.process F s role .closed k.loop.coordinator = .ok () c := closed
          exact MainLoop.turn_of_handled registered returned handled
        · have handled : Coordinator.process F s role .err k.loop.coordinator = .ok () c := closed
          exact MainLoop.turn_of_handled registered returned handled
    | letter next behind ending =>
        obtain ⟨first, others, rfl, rfl, rfl⟩ := List.map_eq_cons_iff.mp next
        have fields := first.fields short (suits first List.mem_cons_self)
        have runs : Exceptions.Throws (Confined s True) (fun _ : Fault => False)
            (Coordinator.process F s role (.ok (received (first.letter p.args)))) :=
          Coordinator.process_throws F fields fun _ _ => trivial
        obtain ⟨_, c, handled, -⟩ := runs.returns k.loop.coordinator
        exact MainLoop.turn_of_handled registered returned handled
  generalize b.owed s = owed at link
  cases link with
  | waiting outgoing greets =>
      refine handles outgoing fun one member => ?_
      rcases greets with rfl | ⟨rfl, -⟩
      · rw [List.mem_singleton.mp member, if_pos rfl]
      · cases member
  | registered outgoing greeted =>
      refine handles outgoing fun one member => ?_
      rw [if_neg]
      rintro rfl
      exact greeted member

/-- As long as the coordinator serves, whatever a worker process does returns. -/
theorem Tracks.work_returns (tracks : Tracks k b) {arrived : Bool} {sends : List Sending}
    (running : k.loop.coordinator.running = true)
    (next : Cluster.Admissible F k (.work s arrived sends)) :
    ∃ k', k.work s arrived sends = .returns k' := by
  obtain ⟨said, k', -, taken, heard, -⟩ := tracks.takeUp s arrived
  refine (Cluster.work_eq_returns_iff taken).mpr fun write member => ?_
  have spoke : said ≠ [] := by
    rintro rfl
    cases member
  refine next running ?_ write.2 (List.of_mem_zip member).2
  rw [ExtTreeMap.contains_eq_isSome_getElem?, heard spoke]
  rfl

/-- A turn that the loop returns from, with all its writes, is one of the cluster. -/
theorem Cluster.poll_returns {arrived : Bool} {sends : List Sending} {l' : MainLoop}
    (turned : k.loop.turn F s arrived = .returns l')
    (returns : ∀ write ∈ (k.loop.written l').zip sends, write.2.returns = true) :
    ∃ k', k.poll F s arrived sends = .returns k' := by
  obtain ⟨taken, transmitted⟩ := (transmit_returns_iff _ _).mpr returns
  have polled := MainLoop.poll_eq_returns_iff.mpr ⟨turned, returns⟩
  refine ⟨⟨l', fun other =>
    (k.processes other).map (Cluster.delivered taken l'.coordinator other)⟩, ?_⟩
  rw [Cluster.poll, polled, Turn.returns_bind, transmitted]
  rfl

end Returns

/-- How a step of a cluster may fail that everybody else keeps to the rules for. -/
inductive Failure (F : Type) [ScoreArith F] (k : Cluster) : Cluster.Event → Prop
  | stranger {s : Socket} {arrived : Bool} {sends : List Sending}
      (unknown : k.processes s = none)
      (registered : k.loop.coordinator.conns[s]?.isSome = true)
      (fails : ∀ l', k.loop.turn F s arrived ≠ .returns l') : Failure F k (.poll s arrived sends)
  | unread {s w : Socket} {arrived : Bool} {sends : List Sending} {l' : MainLoop}
      {bytes : List UInt8} {sending : Sending} (turned : k.loop.turn F s arrived = .returns l')
      (write : ((w, bytes), sending) ∈ (k.loop.written l').zip sends)
      (fails : sending = .signalled ∨ sending = .stuck) (gone : k.runs w = false) :
      Failure F k (.poll s arrived sends)
  | orphaned {s : Socket} {arrived : Bool} {sends : List Sending}
      (ended : k.loop.coordinator.running = false) : Failure F k (.work s arrived sends)

section Failures

variable {F : Type} [ScoreArith F] {k : Cluster} {b : Book Socket} {s : Socket} {arrived : Bool}
  {sends : List Sending}

/-- What the loop reads it fails at only if a stranger has sent it. -/
theorem Failure.of_reading (tracks : Tracks k b)
    (fails : ∀ l', k.loop.turn F s arrived ≠ .returns l') :
    Failure F k (.poll s arrived sends) := by
  refine .stranger ?_ ?_ fails
  · cases known : k.processes s with
    | none => rfl
    | some p =>
        obtain ⟨l', turned⟩ := tracks.turn_returns (F := F) known arrived
        exact absurd turned (fails l')
  · cases registered : k.loop.coordinator.conns[s]? with
    | some role => rfl
    | none =>
        refine absurd ?_ (fails k.loop)
        rw [MainLoop.turn, registered]
        rfl

/-- What the loop writes it fails at only if nobody reads it. -/
theorem Failure.of_writing (next : Cluster.Admissible F k (.poll s arrived sends)) {l' : MainLoop}
    (turned : k.loop.turn F s arrived = .returns l')
    (fails : ∀ k', k.poll F s arrived sends ≠ .returns k') :
    Failure F k (.poll s arrived sends) := by
  have unsent : ¬ ∀ write ∈ (k.loop.written l').zip sends, write.2.returns = true := by
    intro returns
    obtain ⟨k', polled⟩ := Cluster.poll_returns turned returns
    exact fails k' polled
  push Not at unsent
  obtain ⟨⟨⟨w, bytes⟩, sending⟩, member, stays⟩ := unsent
  refine .unread turned member ?_ ?_
  · cases sending with
    | sent => exact absurd rfl stays
    | failed => exact absurd rfl stays
    | signalled => exact Or.inl rfl
    | stuck => exact Or.inr rfl
  · by_contra runs
    have sent := next l' turned _ member (Bool.eq_true_of_not_eq_false runs)
    rw [sent] at stays
    exact stays rfl

end Failures

/--
No worker process that runs ends or blocks the coordinator, and none dies itself as long
as the coordinator runs, whenever others are killed and however much of their last
frames arrives.  A step that does not return is a turn of a stranger's connection, a
turn that writes to somebody who is a stranger or is gone, or a step of a worker that
the coordinator has left behind.
-/
theorem only_strangers_fail (F : Type) [ScoreArith F] (epoch : CoordinatorEpoch)
    (events : List Cluster.Event) (k : Cluster)
    (admissible : TransitionRun.Every (Cluster.step F) (Cluster.OnCluster (Cluster.Admissible F))
      (.returns (.start epoch)) events)
    (ended : TransitionRun.run (Cluster.step F) (.returns (.start epoch)) events = .returns k)
    (room : k.loop.coordinator.sent.length < 2 ^ 64) (event : Cluster.Event)
    (next : Cluster.Admissible F k event)
    (fails : ∀ k', Cluster.step F (.returns k) event ≠ .returns k') : Failure F k event := by
  obtain ⟨entries, tracks⟩ := Cluster.run_tracks admissible ended room
  cases event with
  | connect s args sends =>
      by_cases running : k.loop.coordinator.running = true
      · have connected := (Cluster.step_of_running (F := F) (s := s) running).1 args sends
        exact absurd (connected.trans (Cluster.connect_eq next.2.1 next.2.2 k s)) (fails _)
      · have same : Cluster.step F (.returns k) (.connect s args sends) = .returns k :=
          if_neg running
        exact absurd same (fails k)
  | visit s peer => exact absurd rfl (fails _)
  | kill s kept reset => exact absurd rfl (fails _)
  | finish => exact absurd rfl (fails _)
  | work s arrived sends =>
      cases running : k.loop.coordinator.running with
      | false => exact .orphaned running
      | true =>
          obtain ⟨k', worked⟩ := tracks.work_returns running next
          exact absurd worked (fails k')
  | poll s arrived sends =>
      cases admitted : k.loop.admits (.poll s arrived sends) with
      | false =>
          have same : Cluster.step F (.returns k) (.poll s arrived sends) = .returns k :=
            if_neg (by rw [admitted]; exact Bool.false_ne_true)
          exact absurd same (fails k)
      | true =>
          have step : Cluster.step F (.returns k) (.poll s arrived sends) =
              k.poll F s arrived sends := if_pos admitted
          by_cases turns : ∃ l', k.loop.turn F s arrived = .returns l'
          · obtain ⟨l', turned⟩ := turns
            exact .of_writing next turned fun k' polled => fails k' (step.trans polled)
          · exact .of_reading tracks fun l' turned => turns ⟨l', turned⟩

/-- Whoever sends garbage, but nobody else. -/
theorem only_strangers_fail_garbage :
    Failure ℚ ((Cluster.start ⟨1⟩).visit 3 garbage) (.poll 3 true) := by
  have free : (Cluster.start ⟨1⟩).loop.coordinator.conns[(3 : Socket)]? = none := by
    decide +kernel
  have stranger : NotGreeting garbage := by
    intro payload rest greets
    obtain ⟨_, returned, -⟩ := recvFrame_of_framed greets
    rw [recvFrame_garbage] at returned
    cases returned
  have peer := MainLoop.accept_streams (.start ⟨1⟩) 3 garbage
  have throws : ((MainLoop.start ⟨1⟩).accept 3 garbage).poll ℚ 3 true [] =
      .throws (.error .protocolError "bad frame magic") := by
    have registered : ((MainLoop.start ⟨1⟩).accept 3 garbage).coordinator.conns[(3 : Socket)]? =
        some .unknown := DPUFabric.Session.accepted_conns 3 (MainLoop.start ⟨1⟩).coordinator
    rw [MainLoop.poll, MainLoop.turn, registered]
    simp only [peer, recvFrame_garbage, Turn.throws_bind]
  refine only_strangers_fail ℚ ⟨1⟩ [.visit 3 garbage] _ ⟨?_, trivial⟩ rfl (by decide) (.poll 3 true)
    ?_ ?_
  · rintro _ ⟨⟩
    exact ⟨free, stranger⟩
  · intro loop _ write member
    simp at member
  · intro k' returned
    change (Turn.bind (((MainLoop.start ⟨1⟩).accept 3 garbage).poll ℚ 3 true []) _) = _ at returned
    rw [throws] at returned
    cases returned

end DPUFabric
