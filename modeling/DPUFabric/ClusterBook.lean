import DPUFabric.ClusterLinks
import DPUFabric.Routing

/-!
# The book of a cluster

The coordinator numbers its commands, a worker answers each of them with its number,
and the coordinator strikes out what is answered.  `Tracks` relates this to a book of
requests: what a worker still owes is in its frames on the way to the coordinator and
in the coordinator's frames on the way to it.  Every step of a cluster is a few entries
of the book.
-/

namespace DPUFabric

open Std
open Codec
open Requests
open Cluster (delivered_bytes sentTo_nil sentTo_cons afterTurn)
open DPUFabric.Wire
open DPUFabric.Persistence
open DPUFabric.Proto
open DPUFabric.Mp
open DPUFabric.Mpproto

/-! ## What a turn notes -/

namespace Coordinator

variable {F : Type} [ScoreArith F] {s : Socket} {c c' : Coordinator}

theorem withoutConn_facts (c : Coordinator) (s : Socket) :
    (c.withoutConn s).conns = c.conns.erase s ∧ (c.withoutConn s).cmdSeq = c.cmdSeq ∧
      (c.withoutConn s).pending = c.pending ∧ (c.withoutConn s).sent = c.sent := by
  unfold withoutConn
  split <;> exact ⟨rfl, rfl, rfl, rfl⟩

/-- What an administrator's turn sends, and what it notes. -/
theorem AdminOutcome.issues {payload : List UInt8} (outcome : AdminOutcome F s payload c c') :
    ∃ answer, (c'.cmdSeq = c.cmdSeq ∧ c'.pending = c.pending ∧ c'.sent = c.sent ++ [(s, answer)]) ∨
      ∃ (wk : UInt64) (w : Socket), c.sockByWorker[wk]? = some w ∧ c'.cmdSeq = c.cmdSeq + 1 ∧
        c'.pending = c.pending.insert c.cmdSeq activate ∧
        c'.sent = c.sent ++ [(s, answer), (w, commandFrame c.cmdSeq activate)] := by
  cases outcome with
  | @deployed cmdId _ _ sid oc dep dev e _ _ created =>
      refine ⟨resultFrame cmdId true (deployedText dep dev), ?_⟩
      unfold commanded
      split
      · exact Or.inl ⟨rfl, rfl, rfl⟩
      · split
        · exact Or.inl ⟨rfl, rfl, rfl⟩
        · rename_i device found w socket
          exact Or.inr ⟨_, w, socket, rfl, rfl, List.append_assoc _ _ _⟩
  | _ => exact ⟨_, Or.inl ⟨rfl, rfl, rfl⟩⟩

/-- A worker's turn strikes out a command if it is an answer, and notes nothing else. -/
theorem WorkerOutcome.notes {wid : WorkerId} {f : Frame} (outcome : WorkerOutcome wid f c c') :
    (c'.conns = c.conns ∧ c'.cmdSeq = c.cmdSeq ∧ c'.sent = c.sent) ∧
      (f.type ≠ .declared .result → c'.pending = c.pending) ∧
      ∀ cid ok detail ahead, f.type = .declared .result →
        readResult f.payload = .ok (cid, ok, detail) ahead →
          c'.pending = c.pending.erase cid := by
  cases outcome with
  | device type =>
      refine ⟨⟨rfl, rfl, rfl⟩, fun _ => rfl, ?_⟩
      intro _ _ _ _ result
      rw [type] at result
      cases result
  | evidence type =>
      refine ⟨⟨rfl, rfl, rfl⟩, fun _ => rfl, ?_⟩
      intro _ _ _ _ result
      rw [type] at result
      cases result
  | evidenceUnknown type =>
      refine ⟨⟨rfl, rfl, rfl⟩, fun _ => rfl, ?_⟩
      intro _ _ _ _ result
      rw [type] at result
      cases result
  | result type read =>
      refine ⟨⟨rfl, rfl, rfl⟩, fun other => absurd type other, ?_⟩
      intro _ _ _ _ _ again
      rw [read] at again
      cases again
      rfl
  | ignored _ _ other => exact ⟨⟨rfl, rfl, rfl⟩, fun _ => rfl, fun _ _ _ _ result => absurd result other⟩

end Coordinator

/-! ## The book of a cluster -/

/-- A peer that does not begin with a greeting. -/
def NotGreeting (s : Stream) : Prop :=
  ∀ payload rest, ¬ Framed s.bytes (.declared .hello) payload rest

/-- What a cluster has in common with a book of requests. -/
structure Tracks (k : Cluster) (b : Book Socket) : Prop where
  sound : b.Sound 1
  begun : 1 ≤ b.next
  counted : b.next ≤ k.loop.coordinator.sent.length + 1
  wired : k.loop.coordinator.Wired
  cmdSeq : k.loop.coordinator.cmdSeq = UInt64.ofNat b.next
  pending : ∀ cid : UInt64, k.loop.coordinator.pending[cid]?.isSome = true ↔
    ∃ n, b.Unanswered 1 n ∧ UInt64.ofNat n = cid
  links : ∀ (s : Socket) (p : Process), k.processes s = some p →
    p.args.label.length ≤ kMaxStringBytes ∧
      Link p (k.loop.streams s) k.loop.coordinator.conns[s]? (b.owed s)
  strangers : ∀ s : Socket, k.processes s = none →
    b.owed s = [] ∧ k.loop.coordinator.conns[s]? ≠ some .worker ∧
      (k.loop.coordinator.conns[s]? = some .unknown → NotGreeting (k.loop.streams s))

namespace Tracks

theorem start (epoch : CoordinatorEpoch) : Tracks (.start epoch) (.start 1) where
  sound := Book.start_sound 1
  begun := le_rfl
  counted := le_rfl
  wired := MainLoop.start_wired epoch
  cmdSeq := rfl
  pending cid := by
    have empty : (Cluster.start epoch).loop.coordinator.pending = ∅ := rfl
    rw [empty]
    refine iff_of_false (by simp) ?_
    rintro ⟨n, ⟨⟨low, high⟩, -⟩, -⟩
    have first : (Book.start 1 : Book Socket).next = 1 := rfl
    omega
  links s p known := by cases known
  strangers s unknown := ⟨rfl, by
    have empty : (Cluster.start epoch).loop.coordinator.conns = ∅ := rfl
    rw [empty]
    simp⟩

variable {F : Type} [ScoreArith F] {k k' : Cluster} {b : Book Socket} {s : Socket}

/-- Of the bytes that processes have got, only those of the processes that run count. -/
theorem congr (tracks : Tracks k b) (coordinator : k'.loop.coordinator = k.loop.coordinator)
    (streams : k'.loop.streams = k.loop.streams)
    (known : ∀ s p', k'.processes s = some p' → ∃ p, k.processes s = some p ∧
      p'.args = p.args ∧ p'.phase = p.phase ∧ p'.killed = p.killed ∧
        (p.isRunning = true → p'.incoming.bytes = p.incoming.bytes))
    (unknown : ∀ s, k'.processes s = none → k.processes s = none) : Tracks k' b where
  sound := tracks.sound
  begun := tracks.begun
  counted := by rw [coordinator]; exact tracks.counted
  wired := by rw [coordinator]; exact tracks.wired
  cmdSeq := by rw [coordinator]; exact tracks.cmdSeq
  pending := by rw [coordinator]; exact tracks.pending
  links s p' found := by
    obtain ⟨p, before, args, phase, killed, bytes⟩ := known s p' found
    obtain ⟨short, link⟩ := tracks.links s p before
    rw [coordinator, streams, args]
    exact ⟨short, link.congr args phase killed bytes⟩
  strangers s absent := by
    rw [coordinator, streams]
    exact tracks.strangers s (unknown s absent)

/-- The end of the coordinator says nothing to its workers. -/
theorem finish (tracks : Tracks k b) : Tracks k.finish b := by
  refine tracks.congr rfl rfl ?_ fun s absent => Option.map_eq_none_iff.mp absent
  intro s p' found
  obtain ⟨p, known, rfl⟩ := Option.map_eq_some_iff.mp found
  exact ⟨p, known, rfl, rfl, rfl, fun _ => rfl⟩

/-- A descriptor that is not in use owes nothing. -/
theorem owed_of_absent (tracks : Tracks k b) (absent : k.loop.coordinator.conns[s]? = none) :
    b.owed s = [] := by
  cases known : k.processes s with
  | none => exact (tracks.strangers s known).1
  | some p =>
      have link := (tracks.links s p known).2
      rw [absent] at link
      generalize b.owed s = owed at link
      cases link
      rfl

/-- A new connection, of a process that has greeted or of a stranger. -/
theorem accept (tracks : Tracks k b) (absent : k.loop.coordinator.conns[s]? = none)
    {peer : Stream} {process : Option Process}
    (joins : ∀ p, process = some p → p.args.label.length ≤ kMaxStringBytes ∧
      Link p peer (some .unknown) [])
    (visits : process = none → NotGreeting peer) :
    Tracks ⟨k.loop.accept s peer, Function.update k.processes s process⟩ b where
  sound := tracks.sound
  begun := tracks.begun
  counted := tracks.counted
  wired := by
    exact MainLoop.accept_wired absent tracks.wired
  cmdSeq := tracks.cmdSeq
  pending := tracks.pending
  links other p known := by
    show _ ∧ Link p (Function.update k.loop.streams s peer other)
      (k.loop.coordinator.conns.insert s .unknown)[other]? _
    change Function.update k.processes s process other = some p at known
    rw [OrderedMap.lookup_insert]
    by_cases same : other = s
    · subst same
      rw [Function.update_self] at known ⊢
      rw [if_pos rfl, tracks.owed_of_absent absent]
      exact joins p known
    · rw [Function.update_of_ne same] at known ⊢
      rw [if_neg fun equal => same equal.symm]
      exact tracks.links other p known
  strangers other unknown := by
    show _ ∧ (k.loop.coordinator.conns.insert s .unknown)[other]? ≠ _ ∧
      ((k.loop.coordinator.conns.insert s .unknown)[other]? = _ →
        NotGreeting (Function.update k.loop.streams s peer other))
    change Function.update k.processes s process other = none at unknown
    rw [OrderedMap.lookup_insert]
    by_cases same : other = s
    · subst same
      rw [Function.update_self] at unknown ⊢
      rw [if_pos rfl]
      exact ⟨tracks.owed_of_absent absent, by simp, fun _ => visits unknown⟩
    · rw [Function.update_of_ne same] at unknown ⊢
      rw [if_neg fun equal => same equal.symm]
      exact tracks.strangers other unknown

/-- A process goes on, at its own end of the connection. -/
theorem replace (tracks : Tracks k b) {p : Process} {up : Stream} {kept : ℕ}
    (short : p.args.label.length ≤ kMaxStringBytes)
    (link : Link p up k.loop.coordinator.conns[s]? ((b.owed s).take kept))
    (known : (k.processes s).isSome = true) :
    Tracks ⟨{ k.loop with streams := Function.update k.loop.streams s up },
      Function.update k.processes s (some p)⟩ (b.step (.lose s kept)) where
  sound := tracks.sound.lose s kept
  begun := tracks.begun
  counted := tracks.counted
  wired := tracks.wired
  cmdSeq := tracks.cmdSeq
  pending := tracks.pending
  links other q found := by
    show _ ∧ Link q (Function.update k.loop.streams s up other) _
      (Function.update b.owed s ((b.owed s).take kept) other)
    change Function.update k.processes s (some p) other = some q at found
    by_cases same : other = s
    · subst same
      rw [Function.update_self] at found ⊢
      rw [Function.update_self]
      cases found
      exact ⟨short, link⟩
    · rw [Function.update_of_ne same] at found ⊢
      rw [Function.update_of_ne same]
      exact tracks.links other q found
  strangers other unknown := by
    show Function.update b.owed s ((b.owed s).take kept) other = [] ∧ _ ∧
      (_ → NotGreeting (Function.update k.loop.streams s up other))
    change Function.update k.processes s (some p) other = none at unknown
    have differs : other ≠ s := by
      rintro rfl
      rw [Function.update_self] at unknown
      cases unknown
    rw [Function.update_of_ne differs] at unknown ⊢
    rw [Function.update_of_ne differs]
    exact tracks.strangers other unknown

theorem kill (tracks : Tracks k b) (s : Socket) (kept : ℕ) (reset : Bool) :
    ∃ events, Tracks (k.kill s kept reset) (TransitionRun.run Book.step b events) := by
  unfold Cluster.kill
  cases known : k.processes s with
  | none => exact ⟨[], tracks⟩
  | some p =>
      obtain ⟨short, link⟩ := tracks.links s p known
      have dead : ({ p with killed := true } : Process).isRunning = false := rfl
      have ended : (if reset then Ending.reset else .closed) ≠ .silent := by
        cases reset <;> decide
      have fewer : ∀ said : List Said, OnTheWay p (k.loop.streams s) said →
          ∃ j tail, Stream.bytes
              ⟨[(k.loop.streams s).bytes.take kept], if reset then .reset else .closed⟩ =
                wireBytes ((said.take j).map (Said.letter p.args)) ++ tail ∧ Short tail := by
        intro said outgoing
        obtain ⟨tail, bytes, whole, -⟩ := outgoing.bytes
        obtain ⟨j, tail', taken, short'⟩ :=
          take_wireBytes (Said.all_bounded short said) whole kept
        rw [← List.map_take] at taken
        refine ⟨j, tail', ?_, short'⟩
        rw [← taken, ← bytes]
        simp [Stream.bytes]
      have args : ({ p with killed := true } : Process).args = p.args := rfl
      obtain ⟨left, after⟩ := link.stopped args dead ended fewer
      exact ⟨[.lose s left], tracks.replace short after (by rw [known]; rfl)⟩

/-- A process that has exited closes its socket; what it has sent arrives. -/
theorem exits (tracks : Tracks k b) {p : Process} (known : k.processes s = some p) (code : ℕ)
    (rest : Stream) :
    ∃ kept, Tracks (k.afterWork s p (.exited code) [] rest) (b.step (.lose s kept)) := by
  obtain ⟨short, link⟩ := tracks.links s p known
  have dead : ({ p with phase := .exited code, incoming := rest } : Process).isRunning = false := by
    simp [Process.isRunning, WorkerPhase.hasExited]
  have same : Stream.bytes { (k.loop.streams s).more [] with ending := .closed } =
      (k.loop.streams s).bytes := by
    simp [Stream.bytes, Stream.more]
  have fewer : ∀ said : List Said, OnTheWay p (k.loop.streams s) said →
      ∃ j tail, Stream.bytes { (k.loop.streams s).more [] with ending := .closed } =
        wireBytes ((said.take j).map (Said.letter p.args)) ++ tail ∧ Short tail := by
    intro said outgoing
    obtain ⟨tail, bytes, whole, -⟩ := outgoing.bytes
    exact ⟨said.length, tail, by rw [same, bytes, List.take_length], whole⟩
  have ended : Ending.closed ≠ .silent := by decide
  have args : ({ p with phase := .exited code, incoming := rest } : Process).args = p.args := rfl
  obtain ⟨kept, after⟩ := link.stopped args dead ended fewer
  exact ⟨kept, tracks.replace short after (by rw [known]; rfl)⟩

/-- A process that takes up a letter goes on to serve. -/
theorem serves (tracks : Tracks k b) {p : Process} (known : k.processes s = some p)
    (new : List Said) {rest : Stream}
    (link : Link { p with phase := .serving, incoming := rest }
      ((k.loop.streams s).more ((new.map (Said.letter p.args)).map fun l => frameBytes l.1 l.2))
      k.loop.coordinator.conns[s]? (b.owed s))
    {result : RecvResult} {arrived : Bool} (running : p.isRunning = true)
    (read : recvFrame p.incoming arrived = .returns (result, rest))
    (received : Worker.receive p.args p.phase result [] =
      .ok .serving (new.map (Said.letter p.args))) :
    ∃ k' events, k.takeUp s arrived = .returns (new.map (Said.letter p.args), k') ∧
      Tracks k' (TransitionRun.run Book.step b events) := by
  have short := (tracks.links s p known).1
  have all : (b.owed s).take (b.owed s).length = b.owed s := List.take_length
  rw [← all] at link
  have after := tracks.replace (p := { p with phase := .serving, incoming := rest }) short link
    (by rw [known]; rfl)
  exact ⟨_, [.lose s (b.owed s).length], Cluster.takeUp_eq known running read received, after⟩

/-- A process dies of nothing that it takes up, and only a registered one has an answer. -/
theorem takeUp (tracks : Tracks k b) (s : Socket) (arrived : Bool) :
    ∃ said k' events, k.takeUp s arrived = .returns (said, k') ∧
      (said ≠ [] → k.loop.coordinator.conns[s]? = some .worker) ∧
      Tracks k' (TransitionRun.run Book.step b events) := by
  cases known : k.processes s with
  | none => exact ⟨[], k, [], by simp [Cluster.takeUp, known], by simp, tracks⟩
  | some p =>
  cases running : p.isRunning with
  | false => exact ⟨[], k, [], by simp [Cluster.takeUp, known, running], by simp, tracks⟩
  | true =>
  have alive : p.phase.hasExited = false := by
    rw [Process.isRunning, Bool.and_eq_true] at running
    simpa using running.2
  -- A process that hears nothing, or the end, exits.
  have leaves : ∀ {result : RecvResult} {rest : Stream},
      recvFrame p.incoming arrived = .returns (result, rest) → (∀ f, result ≠ .ok f) →
        ∃ said k' events, k.takeUp s arrived = .returns (said, k') ∧
          (said ≠ [] → k.loop.coordinator.conns[s]? = some .worker) ∧
          Tracks k' (TransitionRun.run Book.step b events) := by
    intro result rest read nothing
    obtain ⟨code, received⟩ := Worker.receive_nothing p.args alive nothing
    obtain ⟨kept, after⟩ := tracks.exits known code rest
    exact ⟨[], _, [.lose s kept], Cluster.takeUp_eq known running read received, by simp, after⟩
  have unheard : p.incoming.bytes = [] → ∃ said k' events,
      k.takeUp s arrived = .returns (said, k') ∧
        (said ≠ [] → k.loop.coordinator.conns[s]? = some .worker) ∧
        Tracks k' (TransitionRun.run Book.step b events) := by
    intro empty
    have reads : Reads p.incoming [] [] (recvFrame p.incoming arrived) :=
      recvFrame_reads (by simp) empty short_nil (fun _ => rfl) arrived
    generalize read : recvFrame p.incoming arrived = turn at reads
    cases reads with
    | idle => exact leaves read (by simp)
    | gone none ended lost => exact leaves read (by rintro f rfl; rcases lost with lost | lost <;> cases lost)
    | letter next => cases next
  obtain ⟨short, link⟩ := tracks.links s p known
  obtain ⟨role, onRole⟩ : ∃ role, k.loop.coordinator.conns[s]? = role := ⟨_, rfl⟩
  rw [onRole] at link
  generalize owes : b.owed s = owed at link
  cases link with
  | waiting outgoing greets nothing => exact unheard (nothing running).2
  | released nothing => exact unheard (nothing running).2
  | @registered said told outgoing greeted incoming =>
      obtain ⟨bytes, turn⟩ := incoming running
      have reads : Reads p.incoming (told.map Told.letter) [] (recvFrame p.incoming arrived) :=
        recvFrame_reads (Told.all_bounded told) (bytes.trans (List.append_nil _).symm) short_nil
          (fun _ => rfl) arrived
      generalize read : recvFrame p.incoming arrived = turn' at reads
      cases reads with
      | idle => exact leaves read (by simp)
      | gone none ended lost =>
          exact leaves read (by rintro f rfl; rcases lost with lost | lost <;> cases lost)
      | @letter l more rest next behind ending =>
          obtain ⟨first, others, rfl, rfl, rfl⟩ := List.map_eq_cons_iff.mp next
          rw [List.append_nil] at behind
          obtain ⟨new, ns, rfl, received, plain, numbers⟩ := turn.receives p.args
          suffices linked : Link { p with phase := .serving, incoming := rest }
              ((k.loop.streams s).more
                ((new.map (Said.letter p.args)).map fun l => frameBytes l.1 l.2))
              k.loop.coordinator.conns[s]? (b.owed s) by
            obtain ⟨k', events, taken, after⟩ := tracks.serves known new linked running read received
            exact ⟨_, k', events, taken, fun _ => onRole, after⟩
          have link := Link.serves outgoing running greeted new plain behind
          have moved : (said ++ new).filterMap Said.number ++ ns = said.filterMap Said.number ++
              (first :: ns.map Told.command).filterMap Told.number := by
            rw [List.filterMap_append, numbers, List.append_assoc, Told.numbers_cons,
              Told.numbers_commands]
          rw [onRole, owes, running, if_pos rfl, ← moved]
          exact link

end Tracks

/-! ## Turns of the coordinator -/

namespace Tracks

variable {F : Type} [ScoreArith F] {k k' : Cluster} {b b' : Book Socket} {s : Socket}
  {c : Coordinator} {rest : Stream} {frames : List (Socket × List UInt8)}
/-- The connections that have no part in a turn stay as they were. -/
theorem turn (tracks : Tracks k b) (sound : b'.Sound 1) (begun : 1 ≤ b'.next)
    (counted : b'.next ≤ c.sent.length + 1) (wired : c.Wired)
    (cmdSeq : c.cmdSeq = UInt64.ofNat b'.next)
    (pending : ∀ cid : UInt64, c.pending[cid]?.isSome = true ↔
      ∃ n, b'.Unanswered 1 n ∧ UInt64.ofNat n = cid)
    (conns : ∀ other, other ≠ s → c.conns[other]? = k.loop.coordinator.conns[other]?)
    (own : ∀ p, k.processes s = some p →
      Link (Cluster.delivered frames c s p) rest c.conns[s]? (b'.owed s))
    (stranger : k.processes s = none → b'.owed s = [] ∧ c.conns[s]? ≠ some .worker ∧
      (c.conns[s]? = some .unknown → NotGreeting rest))
    (elsewhere : ∀ other p, other ≠ s → k.processes other = some p →
      Link (Cluster.delivered frames c other p) (k.loop.streams other)
        k.loop.coordinator.conns[other]? (b'.owed other))
    (others : ∀ other, other ≠ s → k.processes other = none → b'.owed other = []) :
    Tracks (afterTurn k s c rest frames) b' where
  sound := sound
  begun := begun
  counted := counted
  wired := wired
  cmdSeq := cmdSeq
  pending := pending
  links other q found := by
    obtain ⟨p, known, rfl⟩ := Option.map_eq_some_iff.mp found
    refine ⟨(tracks.links other p known).1, ?_⟩
    show Link _ (Function.update k.loop.streams s rest other) c.conns[other]? _
    by_cases same : other = s
    · subst same
      rw [Function.update_self]
      exact own p known
    · rw [Function.update_of_ne same, conns other same]
      exact elsewhere other p same known
  strangers other unknown := by
    show _ ∧ c.conns[other]? ≠ _ ∧
      (c.conns[other]? = _ → NotGreeting (Function.update k.loop.streams s rest other))
    have absent : k.processes other = none := Option.map_eq_none_iff.mp unknown
    by_cases same : other = s
    · subst same
      rw [Function.update_self]
      exact stranger absent
    · rw [Function.update_of_ne same, conns other same]
      exact ⟨others other same absent, (tracks.strangers other absent).2⟩

/-- A turn that sends nothing, or to its own connection only. -/
theorem own_turn (tracks : Tracks k b) (sound : b'.Sound 1) (next : b'.next = b.next)
    (owed : ∀ other, other ≠ s → b'.owed other = b.owed other)
    (sent : c.sent = k.loop.coordinator.sent ++ frames)
    (own : ∀ other, other ≠ s → Cluster.sentTo other frames = [])
    (wired : c.Wired) (cmdSeq : c.cmdSeq = k.loop.coordinator.cmdSeq)
    (pending : ∀ cid : UInt64, c.pending[cid]?.isSome = true ↔
      ∃ n, b'.Unanswered 1 n ∧ UInt64.ofNat n = cid)
    (conns : ∀ other, other ≠ s → c.conns[other]? = k.loop.coordinator.conns[other]?)
    (process : ∀ p, k.processes s = some p →
      Link (Cluster.delivered frames c s p) rest c.conns[s]? (b'.owed s))
    (stranger : k.processes s = none → b'.owed s = [] ∧ c.conns[s]? ≠ some .worker ∧
      (c.conns[s]? = some .unknown → NotGreeting rest)) :
    Tracks (afterTurn k s c rest frames) b' := by
  refine tracks.turn sound (by rw [next]; exact tracks.begun) ?_ wired ?_ pending conns process
    stranger ?_ ?_
  · have counted := tracks.counted
    rw [next, sent, List.length_append]
    omega
  · rw [cmdSeq, next]
    exact tracks.cmdSeq
  · intro other p differs known
    rw [owed other differs]
    exact (tracks.links other p known).2.undelivered c (own other differs)
  · intro other differs absent
    rw [owed other differs]
    exact (tracks.strangers other absent).1

/-- A command goes out, and the book has one more request. -/
theorem command_turn (tracks : Tracks k b) {answer : List UInt8} {w : Socket}
    (absent : k.processes s = none) (worker : k.loop.coordinator.conns[w]? = some .worker)
    (sent : c.sent = k.loop.coordinator.sent ++
      [(s, answer), (w, commandFrame k.loop.coordinator.cmdSeq activate)])
    (wired : c.Wired) (cmdSeq : c.cmdSeq = k.loop.coordinator.cmdSeq + 1)
    (pending : c.pending =
      k.loop.coordinator.pending.insert k.loop.coordinator.cmdSeq activate)
    (conns : ∀ other, other ≠ s → c.conns[other]? = k.loop.coordinator.conns[other]?)
    (stranger : c.conns[s]? ≠ some .worker ∧
      (c.conns[s]? = some .unknown → NotGreeting rest)) :
    ∃ events, Tracks (afterTurn k s c rest
        [(s, answer), (w, commandFrame k.loop.coordinator.cmdSeq activate)])
      (TransitionRun.run Book.step b events) := by
  obtain ⟨p, known⟩ : ∃ p, k.processes w = some p := by
    cases known : k.processes w with
    | some p => exact ⟨p, rfl⟩
    | none => exact absurd worker (tracks.strangers w known).2.1
  have differs : w ≠ s := by
    rintro rfl
    rw [absent] at known
    cases known
  -- A worker that is gone will not answer: it has lost the command at once.
  obtain ⟨events, ran⟩ := b.post_eq_run w p.isRunning
  refine ⟨events, ?_⟩
  rw [← ran]
  refine tracks.turn (tracks.sound.post tracks.begun w _) ?_ ?_ wired ?_ ?_ conns ?_ ?_ ?_ ?_
  · rw [Book.next_post]
    exact tracks.begun.trans (Nat.le_succ _)
  · have counted := tracks.counted
    rw [Book.next_post, sent, List.length_append]
    simp only [List.length_cons]
    omega
  · rw [cmdSeq, tracks.cmdSeq, Book.next_post, UInt64.ofNat_add]
    rfl
  · intro cid
    rw [pending, OrderedMap.lookup_insert, tracks.cmdSeq]
    simp only [Book.unanswered_post tracks.sound tracks.begun]
    split_ifs with newest
    · exact iff_of_true rfl ⟨b.next, Or.inr rfl, newest⟩
    · rw [tracks.pending]
      refine exists_congr fun n => and_congr_left fun same => ⟨Or.inl, ?_⟩
      rintro (before | rfl)
      · exact before
      · exact absurd same newest
  · intro q found
    rw [absent] at found
    cases found
  · intro _
    rw [Book.owed_post_other (Ne.symm differs)]
    exact ⟨(tracks.strangers s absent).1, stranger⟩
  · intro other q away found
    by_cases here : other = w
    · subst here
      cases known.symm.trans found
      have link := (tracks.links other p known).2
      rw [worker] at link ⊢
      rw [Book.owed_post_self]
      refine link.commanded rfl rfl rfl ?_
      rw [delivered_bytes, sentTo_cons, if_neg (Ne.symm differs), sentTo_cons, if_pos rfl,
        sentTo_nil, List.flatten_singleton, tracks.cmdSeq]
    · rw [Book.owed_post_other here]
      refine (tracks.links other q found).2.undelivered c ?_
      rw [sentTo_cons, if_neg (Ne.symm away), sentTo_cons, if_neg (Ne.symm here), sentTo_nil]
  · intro other away unknown
    have here : other ≠ w := by
      rintro rfl
      rw [known] at unknown
      cases unknown
    rw [Book.owed_post_other here]
    exact (tracks.strangers other unknown).1

/-- A turn that changes nothing. -/
theorem idle_turn (tracks : Tracks k b) :
    Tracks (afterTurn k s k.loop.coordinator (k.loop.streams s) []) b := by
  refine tracks.own_turn tracks.sound rfl (fun _ _ => rfl) (List.append_nil _).symm
    (fun _ _ => sentTo_nil _) tracks.wired rfl tracks.pending (fun _ _ => rfl) ?_ ?_
  · intro p known
    exact (tracks.links s p known).2.undelivered _ (sentTo_nil s)
  · exact tracks.strangers s

/-- A connection is forgotten. -/
theorem forgets (tracks : Tracks k b) (conns : c.conns = k.loop.coordinator.conns.erase s)
    (cmdSeq : c.cmdSeq = k.loop.coordinator.cmdSeq)
    (pending : c.pending = k.loop.coordinator.pending)
    (sent : c.sent = k.loop.coordinator.sent) (wired : c.Wired) (owes : b.owed s = [])
    (unheard : ∀ p, k.processes s = some p → p.isRunning = true →
      p.phase = .greeting ∧ p.incoming.bytes = []) :
    Tracks (afterTurn k s c rest []) b := by
  have gone : c.conns[s]? = none := by
    rw [conns, lookup_erase, if_pos rfl]
  refine tracks.own_turn tracks.sound rfl (fun _ _ => rfl) (by rw [sent, List.append_nil])
    (fun _ _ => sentTo_nil _) wired cmdSeq (by rw [pending]; exact tracks.pending) ?_ ?_ ?_
  · intro other differs
    rw [conns, lookup_erase, if_neg (Ne.symm differs)]
  · intro p known
    rw [gone, owes]
    exact (Link.released (unheard p known)).undelivered _ (sentTo_nil s)
  · intro _
    rw [gone]
    exact ⟨owes, by simp, by simp⟩

/-- The first frame of a process is its greeting. -/
theorem greeting_turn (tracks : Tracks k b) {p : Process} (known : k.processes s = some p)
    (registered : k.loop.coordinator.conns[s]? = some .unknown)
    (unheard : p.isRunning = true → p.phase = .greeting ∧ p.incoming.bytes = [])
    {tail : List UInt8} (bytes : rest.bytes = tail) (short : Short tail)
    (whole : rest.ending = .silent → tail = []) (running : p.isRunning = true → rest.ending = .silent)
    {payload : List UInt8}
    (dispatched : Coordinator.Dispatched F s k.loop.coordinator .unknown
      (.ok (received (.declared .hello, payload))) c) :
    ∃ frames, c.sent = k.loop.coordinator.sent ++ frames ∧
      Tracks (afterTurn k s c rest frames) b := by
  have owes : b.owed s = [] := by
    have link := (tracks.links s p known).2
    rw [registered] at link
    generalize b.owed s = owed at link
    cases link
    rfl
  have wired := dispatched.wired tracks.wired registered
  have only : ∀ q, k.processes s = some q → q = p := fun q found =>
    Option.some.inj (found.symm.trans known)
  cases dispatched with
  | closed lost => rcases lost with lost | lost <;> cases lost
  | admin privileged => simp [received] at privileged
  | refused =>
      refine ⟨[], (List.append_nil _).symm, tracks.forgets rfl rfl rfl rfl wired owes ?_⟩
      intro q found
      rw [only q found]
      exact unheard
  | @greeted f wk boot label ahead e greets read accepted =>
      refine ⟨[(s, ackFrame e.snap.epoch)], rfl, ?_⟩
      have role : (k.loop.coordinator.greeted s wk e).conns[s]? = some .worker := by
        show (k.loop.coordinator.conns.insert s .worker)[s]? = _
        rw [OrderedMap.lookup_insert, if_pos rfl]
      refine tracks.own_turn tracks.sound rfl (fun _ _ => rfl) rfl ?_ wired rfl tracks.pending ?_ ?_ ?_
      · intro other differs
        rw [sentTo_cons, if_neg (Ne.symm differs), sentTo_nil]
      · intro other differs
        show (k.loop.coordinator.conns.insert s .worker)[other]? = _
        rw [OrderedMap.lookup_insert, if_neg (Ne.symm differs)]
      · intro q found
        rw [only q found, role, owes]
        have owed : ([] : List Said).filterMap Said.number ++
            (if (Cluster.delivered [(s, ackFrame e.snap.epoch)]
                (k.loop.coordinator.greeted s wk e) s p).isRunning then
              [Told.ack e.snap.epoch].filterMap Told.number else []) = [] := by
          split_ifs <;> rfl
        rw [← owed]
        refine .registered ⟨⟨tail, bytes, short, whole⟩, running⟩ (by simp) ?_
        intro runs
        obtain ⟨greeting, nothing⟩ := unheard runs
        refine ⟨?_, ?_⟩
        · rw [delivered_bytes, nothing, sentTo_cons, if_pos rfl, sentTo_nil]
          rfl
        · show InTurn [] [Told.ack e.snap.epoch] p.phase
          rw [greeting]
          exact ⟨rfl, e.snap.epoch, [], rfl⟩
      · intro absent
        rw [known] at absent
        cases absent

theorem ofNat_injective {m n : ℕ} (small : m < 2 ^ 64) (small' : n < 2 ^ 64)
    (same : UInt64.ofNat m = UInt64.ofNat n) : m = n := by
  have values := congrArg UInt64.toNat same
  rwa [UInt64.toNat_ofNat', UInt64.toNat_ofNat', Nat.mod_eq_of_lt small,
    Nat.mod_eq_of_lt small'] at values

/-- A number that was given out is a 64-bit number. -/
theorem number_lt (tracks : Tracks k b) (room : k.loop.coordinator.sent.length < 2 ^ 64) {n : ℕ}
    (unanswered : b.Unanswered 1 n) : n < 2 ^ 64 := by
  have counted := tracks.counted
  have below := unanswered.1.2
  omega

/-- What a registered process sends is a report or the answer to a command. -/
theorem worker_turn (tracks : Tracks k b) (room : k.loop.coordinator.sent.length < 2 ^ 64)
    {p : Process} (known : k.processes s = some p)
    (registered : k.loop.coordinator.conns[s]? = some .worker) {first : Said} {others : List Said}
    {told : List Told} (greeted : Said.hello ∉ first :: others)
    (outgoing : OnTheWay p rest others)
    (incoming : p.isRunning = true →
      p.incoming.bytes = wireBytes (told.map Told.letter) ∧ InTurn others told p.phase)
    (owes : b.owed s = (first :: others).filterMap Said.number ++
      if p.isRunning then told.filterMap Told.number else [])
    (dispatched : Coordinator.Dispatched F s k.loop.coordinator .worker
      (.ok (received (first.letter p.args))) c) :
    c.sent = k.loop.coordinator.sent ∧ ∃ events,
      Tracks (afterTurn k s c rest []) (TransitionRun.run Book.step b events) := by
  have wired := dispatched.wired tracks.wired registered
  have plain : Said.hello ∉ others := fun member => greeted (List.mem_cons_of_mem _ member)
  have link : Link (Cluster.delivered [] c s p) rest (some .worker)
      (others.filterMap Said.number ++
        if p.isRunning then told.filterMap Told.number else []) :=
    (Link.registered outgoing plain incoming).undelivered c (sentTo_nil s)
  cases dispatched with
  | closed lost => rcases lost with lost | lost <;> cases lost
  | admin privileged => simp at privileged
  | worker outcome =>
  obtain ⟨⟨conns, cmdSeq, sent⟩, report, result⟩ := outcome.notes
  have role : c.conns[s]? = some .worker := by
    rw [conns]
    exact registered
  have stranger : ∀ {b' : Book Socket}, k.processes s = none → b'.owed s = [] ∧
      c.conns[s]? ≠ some .worker ∧ (c.conns[s]? = some .unknown → NotGreeting rest) := by
    intro b' absent
    rw [known] at absent
    cases absent
  have only : ∀ q, k.processes s = some q → q = p := fun q found =>
    Option.some.inj (found.symm.trans known)
  refine ⟨sent, ?_⟩
  cases numbered : first.number with
  | none =>
      have kept : c.pending = k.loop.coordinator.pending := by
        refine report ?_
        cases first <;> simp_all [Said.number, Said.letter, received]
      refine ⟨[], tracks.own_turn tracks.sound rfl (fun _ _ => rfl)
        (by rw [sent]; exact (List.append_nil _).symm) (fun _ _ => sentTo_nil _) wired cmdSeq
        (by rw [kept]; exact tracks.pending) (fun other _ => by rw [conns]) ?_ stranger⟩
      intro q found
      rw [only q found, role]
      rw [List.filterMap_cons_none numbered] at owes
      show Link _ _ _ (b.owed s)
      rw [owes]
      exact link
  | some n =>
      obtain rfl : first = .result n := by
        cases first <;> simp_all [Said.number]
      have brief : (Worker.handledText activate).length ≤ kMaxStringBytes := by decide
      have struck : c.pending = k.loop.coordinator.pending.erase (UInt64.ofNat n) :=
        result _ _ _ _ rfl (Worker.readResult_resultPayload (UInt64.ofNat n) true brief)
      rw [List.filterMap_cons_some numbered, List.cons_append] at owes
      have unsettled := tracks.sound.unanswered s n (by rw [owes]; exact List.mem_cons_self)
      refine ⟨[.answer s], tracks.own_turn (tracks.sound.answer s) rfl
        (fun other differs => Function.update_of_ne differs _ _)
        (by rw [sent]; exact (List.append_nil _).symm) (fun _ _ => sentTo_nil _) wired cmdSeq
        ?_ (fun other _ => by rw [conns]) ?_ stranger⟩
      · intro cid
        show _ ↔ ∃ m, (b.step (.answer s)).Unanswered 1 m ∧ _
        simp only [Book.unanswered_answer owes]
        rw [struck, lookup_erase]
        split_ifs with same
        · refine iff_of_false (by simp) ?_
          rintro ⟨m, ⟨before, differs⟩, name⟩
          exact differs (ofNat_injective (tracks.number_lt room before)
            (tracks.number_lt room unsettled) (name.trans same.symm))
        · rw [tracks.pending]
          refine exists_congr fun m => and_congr_left fun name => ⟨fun before => ⟨before, ?_⟩, And.left⟩
          rintro rfl
          exact same name
      · intro q found
        rw [only q found, role]
        show Link _ _ _ (Function.update b.owed s (b.owed s).tail s)
        rw [Function.update_self, owes, List.tail_cons]
        exact link

/-- A turn of a connection that is not a worker's. -/
theorem stranger_turn (tracks : Tracks k b) (absent : k.processes s = none) {role : Role}
    (registered : k.loop.coordinator.conns[s]? = some role) {arrived : Bool} {result : RecvResult}
    (returned : recvFrame (k.loop.streams s) arrived = .returns (result, rest))
    (dispatched : Coordinator.Dispatched F s k.loop.coordinator role result c) :
    ∃ frames events, c.sent = k.loop.coordinator.sent ++ frames ∧
      Tracks (afterTurn k s c rest frames) (TransitionRun.run Book.step b events) := by
  have wired := dispatched.wired tracks.wired registered
  obtain ⟨owes, notWorker, notGreeting⟩ := tracks.strangers s absent
  have never : ∀ {P : Prop} (q : Process), k.processes s = some q → P := by
    intro P q found
    rw [absent] at found
    cases found
  cases dispatched with
  | idle =>
      rw [timeout_consumes_nothing returned]
      exact ⟨[], [], (List.append_nil _).symm, tracks.idle_turn⟩
  | closed lost =>
      obtain ⟨conns, cmdSeq, pending, sent⟩ := Coordinator.withoutConn_facts k.loop.coordinator s
      refine ⟨[], [], by rw [sent, List.append_nil], ?_⟩
      exact tracks.forgets conns cmdSeq pending sent wired owes fun q found => never q found
  | worker => exact absurd registered notWorker
  | greeted greets =>
      have asked := framed_of_recvFrame returned
      rw [greets] at asked
      exact absurd asked (notGreeting registered _ _)
  | refused greets =>
      have asked := framed_of_recvFrame returned
      rw [greets] at asked
      exact absurd asked (notGreeting registered _ _)
  | admin privileged outcome =>
      have became : c.conns[s]? = some .admin ∧ ∀ other, other ≠ s →
          c.conns[other]? = k.loop.coordinator.conns[other]? := by
        rw [outcome.tables.1]
        rcases privileged with rfl | ⟨rfl, -⟩
        · exact ⟨registered, fun _ _ => rfl⟩
        · show (k.loop.coordinator.conns.insert s .admin)[s]? = _ ∧ ∀ other, other ≠ s →
            (k.loop.coordinator.conns.insert s .admin)[other]? = _
          refine ⟨by rw [OrderedMap.lookup_insert, if_pos rfl], fun other differs => ?_⟩
          rw [OrderedMap.lookup_insert, if_neg (Ne.symm differs)]
      have kept : (k.loop.coordinator.asAdmin s role).sent = k.loop.coordinator.sent ∧
          (k.loop.coordinator.asAdmin s role).cmdSeq = k.loop.coordinator.cmdSeq ∧
          (k.loop.coordinator.asAdmin s role).pending = k.loop.coordinator.pending ∧
          (k.loop.coordinator.asAdmin s role).sockByWorker = k.loop.coordinator.sockByWorker := by
        cases role <;> exact ⟨rfl, rfl, rfl, rfl⟩
      obtain ⟨sent₀, cmdSeq₀, pending₀, socks⟩ := kept
      obtain ⟨answer, ⟨cmdSeq, pending, sent⟩ | ⟨wk, w, socket, cmdSeq, pending, sent⟩⟩ :=
        outcome.issues
      · rw [cmdSeq₀] at cmdSeq
        rw [pending₀] at pending
        rw [sent₀] at sent
        refine ⟨_, [], sent, tracks.own_turn tracks.sound rfl (fun _ _ => rfl) sent ?_ wired cmdSeq
          (by rw [pending]; exact tracks.pending) became.2 (fun q found => never q found)
          fun _ => ⟨owes, by rw [became.1]; simp, by rw [became.1]; simp⟩⟩
        intro other differs
        rw [sentTo_cons, if_neg (Ne.symm differs), sentTo_nil]
      · rw [socks] at socket
        rw [cmdSeq₀] at cmdSeq sent pending
        rw [pending₀] at pending
        rw [sent₀] at sent
        have filed := tracks.wired.sockets wk w socket
        obtain ⟨events, after⟩ := tracks.command_turn absent
          ((tracks.wired.roles w).mp (by rw [filed]; rfl)) sent wired cmdSeq pending became.2
          ⟨by rw [became.1]; simp, by rw [became.1]; simp⟩
        exact ⟨_, events, sent, after⟩

/-- A turn of a worker process. -/
theorem process_turn (tracks : Tracks k b) (room : k.loop.coordinator.sent.length < 2 ^ 64)
    {p : Process} (known : k.processes s = some p) {role : Role}
    (registered : k.loop.coordinator.conns[s]? = some role) {arrived : Bool} {result : RecvResult}
    (returned : recvFrame (k.loop.streams s) arrived = .returns (result, rest))
    (dispatched : Coordinator.Dispatched F s k.loop.coordinator role result c) :
    ∃ frames events, c.sent = k.loop.coordinator.sent ++ frames ∧
      Tracks (afterTurn k s c rest frames) (TransitionRun.run Book.step b events) := by
  obtain ⟨short, link⟩ := tracks.links s p known
  have wired := dispatched.wired tracks.wired registered
  have only : ∀ q, k.processes s = some q → q = p := fun q found =>
    Option.some.inj (found.symm.trans known)
  have ends : result = .closed ∨ result = .err → b.owed s = [] →
      (p.isRunning = true → p.phase = .greeting ∧ p.incoming.bytes = []) →
        ∃ frames events, c.sent = k.loop.coordinator.sent ++ frames ∧
          Tracks (afterTurn k s c rest frames) (TransitionRun.run Book.step b events) := by
    intro lost owes unheard
    have closed : c = k.loop.coordinator.withoutConn s := by
      rcases lost with rfl | rfl <;> cases dispatched <;> rfl
    subst closed
    obtain ⟨conns, cmdSeq, pending, sent⟩ := Coordinator.withoutConn_facts k.loop.coordinator s
    refine ⟨[], [], by rw [sent, List.append_nil], ?_⟩
    exact tracks.forgets conns cmdSeq pending sent wired owes
      fun q found => by rw [only q found]; exact unheard
  have stays : result = .timeout → rest = k.loop.streams s →
      ∃ frames events, c.sent = k.loop.coordinator.sent ++ frames ∧
        Tracks (afterTurn k s c rest frames) (TransitionRun.run Book.step b events) := by
    rintro rfl rfl
    cases dispatched with
    | closed lost => rcases lost with lost | lost <;> cases lost
    | idle => exact ⟨[], [], (List.append_nil _).symm, tracks.idle_turn⟩
  rw [registered] at link
  generalize owes : b.owed s = owed at link
  cases link with
  | @waiting said outgoing greets unheard =>
      obtain ⟨tail, bytes, shortTail, whole⟩ := outgoing.bytes
      have reads := recvFrame_reads (Said.all_bounded short said) bytes shortTail whole arrived
      rw [returned] at reads
      cases reads with
      | idle => exact stays rfl rfl
      | gone none ended lost => exact ends lost owes unheard
      | letter next behind ending =>
          obtain ⟨first, others, rfl, rfl, rfl⟩ := List.map_eq_cons_iff.mp next
          obtain ⟨rfl, rfl⟩ : first = .hello ∧ others = [] := by
            rcases greets with greets | ⟨nothing, -⟩
            · exact List.cons.inj greets
            · cases nothing
          obtain ⟨frames, sent, after⟩ := tracks.greeting_turn known registered unheard behind
            shortTail (fun silent => whole (ending ▸ silent))
            (fun runs => ending.trans (outgoing.running runs)) dispatched
          exact ⟨frames, [], sent, after⟩
  | @registered said told outgoing greeted incoming =>
      obtain ⟨tail, bytes, shortTail, whole⟩ := outgoing.bytes
      have reads := recvFrame_reads (Said.all_bounded short said) bytes shortTail whole arrived
      rw [returned] at reads
      cases reads with
      | idle => exact stays rfl rfl
      | gone none ended lost =>
          have dead : ¬ p.isRunning = true := fun runs => ended (outgoing.running runs)
          refine ends lost ?_ fun runs => absurd runs dead
          rw [owes, if_neg dead, List.map_eq_nil_iff.mp none]
          rfl
      | letter next behind ending =>
          obtain ⟨first, others, rfl, rfl, rfl⟩ := List.map_eq_cons_iff.mp next
          have later : OnTheWay p rest others :=
            ⟨⟨tail, behind, shortTail, fun silent => whole (ending ▸ silent)⟩,
              fun runs => ending.trans (outgoing.running runs)⟩
          have fewer : p.isRunning = true →
              p.incoming.bytes = wireBytes (told.map Told.letter) ∧ InTurn others told p.phase := by
            intro runs
            obtain ⟨heard, turn⟩ := incoming runs
            refine ⟨heard, ?_⟩
            cases now : p.phase with
            | greeting =>
                rw [now] at turn
                cases turn.1
            | serving =>
                rw [now] at turn
                exact turn
            | exited code =>
                rw [now] at turn
                exact turn.elim
          obtain ⟨sent, events, after⟩ := tracks.worker_turn room known registered greeted later fewer
            owes dispatched
          exact ⟨[], events, by rw [sent, List.append_nil], after⟩

/-- What a process does not get that no longer runs makes no difference. -/
theorem taken (tracks : Tracks (afterTurn k s c rest frames) b)
    {got : List (Socket × List UInt8)}
    (same : ∀ other, k.runs other = true → Cluster.sentTo other got = Cluster.sentTo other frames) :
    Tracks (afterTurn k s c rest got) b := by
  refine tracks.congr rfl rfl ?_ fun other absent => ?_
  · intro other p' found
    obtain ⟨p, known, rfl⟩ := Option.map_eq_some_iff.mp found
    refine ⟨Cluster.delivered frames c other p, ?_, rfl, rfl, rfl, fun running => ?_⟩
    · show (k.processes other).map _ = _
      rw [known]
      rfl
    · have runs : k.runs other = true := by
        rw [Cluster.runs, known]
        exact running
      rw [delivered_bytes, delivered_bytes, same other runs]
  · exact Option.map_eq_none_iff.mpr (Option.map_eq_none_iff.mp absent)

theorem poll (tracks : Tracks k b) (room : k.loop.coordinator.sent.length < 2 ^ 64)
    {arrived : Bool} {sends : List Sending}
    (admissible : Cluster.Admissible F k (.poll s arrived sends))
    (stepped : k.poll F s arrived sends = .returns k') :
    ∃ events, Tracks k' (TransitionRun.run Book.step b events) := by
  obtain ⟨loop, returned, stepped⟩ := Turn.bind_eq_returns stepped
  obtain ⟨got, transmitted, stepped⟩ := Turn.bind_eq_returns stepped
  cases stepped
  obtain ⟨turned, -⟩ := MainLoop.poll_eq_returns_iff.mp returned
  have settled : ∀ other, k.runs other = true →
      Cluster.sentTo other got = Cluster.sentTo other (k.loop.written loop) := by
    intro other runs
    refine congrArg (List.map (·.2)) (transmit_filter ?_ transmitted)
    intro write member same
    refine admissible loop turned write member ?_
    rw [eq_of_beq same]
    exact runs
  cases MainLoop.polled_of_turn turned with
  | idle =>
      have nothing : k.loop.written k.loop = [] := List.drop_length
      rw [nothing] at transmitted settled
      have idle := (tracks.idle_turn (s := s)).taken settled
      exact ⟨[], idle.congr rfl (Function.update_eq_self s k.loop.streams).symm
        (fun other p known => ⟨p, known, rfl, rfl, rfl, fun _ => rfl⟩) fun _ absent => absent⟩
  | @turn role result rest c registered received dispatched =>
      have turned : ∃ frames events, c.sent = k.loop.coordinator.sent ++ frames ∧
          Tracks (afterTurn k s c rest frames) (TransitionRun.run Book.step b events) := by
        cases known : k.processes s with
        | none => exact tracks.stranger_turn known registered received dispatched
        | some p => exact tracks.process_turn room known registered received dispatched
      obtain ⟨frames, events, sent, after⟩ := turned
      rw [MainLoop.written_of_append sent] at settled
      exact ⟨events, after.taken settled⟩

end Tracks

end DPUFabric
