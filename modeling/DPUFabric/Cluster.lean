import DPUFabric.Connections
import DPUFabric.Library.Requests

/-!
# The coordinator and its workers

The programs are put together: a coordinator, worker processes at the other end of
some of its connections, and strangers, who send any bytes but a greeting, at the end
of the others.  A worker runs at any time, is heard at any time, and may be killed at
any time, when only a part of what it has sent arrives.

A step that some process does not survive ends the run.  Where a peer is gone, that may
be a step that only writes to it.
-/

namespace DPUFabric

open Std
open Exceptions
open DPUFabric.Wire
open DPUFabric.Persistence
open DPUFabric.Proto
open DPUFabric.Mp
open DPUFabric.Mpproto

/-! ## Processes -/

/-- The type and the payload of a frame. -/
abbrev Letter := FrameType × List UInt8

/-- A stream to which more is written. -/
def Mp.Stream.more (s : Stream) (frames : List (List UInt8)) : Stream :=
  { s with segments := s.segments ++ frames }

def WorkerPhase.hasExited : WorkerPhase → Bool
  | .exited _ => true
  | _ => false

/-- A worker process, and what is still to come to it from the coordinator. -/
structure Process where
  args : WorkerArgs
  phase : WorkerPhase := .greeting
  killed : Bool := false
  incoming : Stream := ⟨[], .silent⟩

def Process.isRunning (p : Process) : Bool := !p.killed && !p.phase.hasExited

/-- The coordinator, and who is at the other end of its connections. -/
structure Cluster where
  loop : MainLoop
  processes : Socket → Option Process

namespace Cluster

/-- What a coordinator has on its wires to one socket. -/
def sentTo (s : Socket) (sent : List (Socket × List UInt8)) : List (List UInt8) :=
  (sent.filter fun frame => frame.1 == s).map (·.2)

/-- A worker process starts, connects and greets. -/
def connect (k : Cluster) (s : Socket) (args : WorkerArgs) (sends : List Sending) :
    Turn Cluster :=
  match Worker.greet args [] with
  | .error fault _ => .throws fault
  | .ok _ said => do
      Worker.submit said sends
      return {
        loop := k.loop.accept s ⟨said.map fun l => frameBytes l.1 l.2, .silent⟩
        processes := Function.update k.processes s (some { args := args }) }

/-- A connection of someone else. -/
def visit (k : Cluster) (s : Socket) (peer : Stream) : Cluster where
  loop := k.loop.accept s peer
  processes := Function.update k.processes s none

/-- What a process gets of a turn of the coordinator. -/
def delivered (taken : List (Socket × List UInt8)) (c : Coordinator) (s : Socket) (p : Process) :
    Process :=
  let incoming := p.incoming.more (sentTo s taken)
  { p with
    incoming :=
      if c.conns.contains s then incoming else { incoming with ending := .closed } }

/-- A turn of the coordinator. -/
def poll (F : Type) [ScoreArith F] (k : Cluster) (s : Socket) (arrived : Bool)
    (sends : List Sending) : Turn Cluster := do
  let loop ← k.loop.poll F s arrived sends
  let taken ← transmit (k.loop.written loop) sends
  return {
    loop := loop
    processes := fun other => (k.processes other).map (delivered taken loop.coordinator other) }

/--
A worker process takes up what its `recv` returns, and what it writes then; a process
that exits closes its socket.
-/
def takeUp (k : Cluster) (s : Socket) (arrived : Bool) : Turn (List Letter × Cluster) :=
  match k.processes s with
  | none => return ([], k)
  | some p =>
      if !p.isRunning then return ([], k)
      else do
        let (result, rest) ← recvFrame p.incoming arrived
        match Worker.receive p.args p.phase result [] with
        | .error fault _ => .throws fault
        | .ok phase said =>
            let outgoing := (k.loop.streams s).more (said.map fun l => frameBytes l.1 l.2)
            return (said, {
              loop :=
                { k.loop with
                  streams := Function.update k.loop.streams s
                    (if phase.hasExited then { outgoing with ending := .closed } else outgoing) }
              processes := Function.update k.processes s
                (some { p with phase := phase, incoming := rest }) })

/-- A step of a worker process, and how its writes end. -/
def work (k : Cluster) (s : Socket) (arrived : Bool) (sends : List Sending) : Turn Cluster := do
  let (said, k') ← k.takeUp s arrived
  Worker.submit said sends
  return k'

/-- A worker process is gone; of what it has sent only the first bytes arrive. -/
def kill (k : Cluster) (s : Socket) (kept : ℕ) (reset : Bool) : Cluster :=
  match k.processes s with
  | none => k
  | some p =>
      { loop :=
          { k.loop with
            streams := Function.update k.loop.streams s
              ⟨[(k.loop.streams s).bytes.take kept], if reset then .reset else .closed⟩ }
        processes := Function.update k.processes s (some { p with killed := true }) }

/-- The coordinator's `main` returns, which closes its sockets. -/
def finish (k : Cluster) : Cluster :=
  { k with
    processes := fun s => (k.processes s).map fun p =>
      { p with incoming := { p.incoming with ending := .closed } } }

inductive Event where
  | connect (s : Socket) (args : WorkerArgs) (sends : List Sending := [])
  | visit (s : Socket) (peer : Stream)
  | poll (s : Socket) (arrived : Bool) (sends : List Sending := [])
  | work (s : Socket) (arrived : Bool) (sends : List Sending := [])
  | kill (s : Socket) (kept : ℕ) (reset : Bool)
  | finish

def step (F : Type) [ScoreArith F] (t : Turn Cluster) (event : Event) : Turn Cluster := do
  let k ← t
  match event with
  | .connect s args sends =>
      if k.loop.coordinator.running then k.connect s args sends else return k
  | .visit s peer => return if k.loop.coordinator.running then k.visit s peer else k
  | .poll s arrived sends =>
      if k.loop.admits (.poll s arrived sends) then k.poll F s arrived sends else return k
  | .work s arrived sends => k.work s arrived sends
  | .kill s kept reset => return k.kill s kept reset
  | .finish => return if k.loop.coordinator.running then k else k.finish

/-- A coordinator without a state file, before any connection. -/
def start (epoch : CoordinatorEpoch) : Cluster where
  loop := .start epoch
  processes _ := none

/-- A worker process at the other end of a connection, which still runs. -/
def runs (k : Cluster) (s : Socket) : Bool := (k.processes s).any Process.isRunning

/--
What the operating system and the users keep to: a descriptor in use is not handed out
again, a label can be encoded, nobody but a worker process greets, and what is written to
a process is taken as long as it runs: a worker reads until it is gone, and so does the
coordinator as long as it keeps the connection.
-/
def Admissible (F : Type) [ScoreArith F] (k : Cluster) : Event → Prop
  | .connect s args sends =>
      k.loop.coordinator.conns[s]? = none ∧ args.label.length ≤ kMaxStringBytes ∧
        ∀ sending ∈ sends, sending = .sent
  | .visit s peer =>
      k.loop.coordinator.conns[s]? = none ∧
        ∀ payload rest, ¬ Framed peer.bytes (.declared .hello) payload rest
  | .poll s arrived sends =>
      ∀ loop, k.loop.turn F s arrived = .returns loop →
        ∀ write ∈ (k.loop.written loop).zip sends, k.runs write.1.1 = true → write.2 = .sent
  | .work s _ sends =>
      k.loop.coordinator.running = true → k.loop.coordinator.conns.contains s = true →
        ∀ sending ∈ sends, sending = .sent
  | .kill _ _ _ => True
  | .finish => True

end Cluster

/-! ## Streams of letters -/

namespace Mp

theorem Stream.more_bytes (s : Stream) (frames : List (List UInt8)) :
    (s.more frames).bytes = s.bytes ++ frames.flatten := by
  simp [Stream.bytes, Stream.more]

theorem flatten_frames (letters : List Letter) :
    (letters.map fun l => frameBytes l.1 l.2).flatten = wireBytes letters := by
  rw [wireBytes, List.flatMap_def]

theorem wireBytes_cons (letter : Letter) (more : List Letter) :
    wireBytes (letter :: more) = frameBytes letter.1 letter.2 ++ wireBytes more := by
  rw [wireBytes, wireBytes, List.flatMap_cons]

theorem wireBytes_append (first second : List Letter) :
    wireBytes (first ++ second) = wireBytes first ++ wireBytes second := by
  rw [wireBytes, wireBytes, wireBytes, List.flatMap_append]

theorem short_nil : Short [] :=
  Or.inl (by decide)

/-- A header says the same, however much of what follows it is there. -/
theorem declaredLength_take {n : ℕ} (headed : kHeaderSize ≤ n) (bytes : List UInt8) :
    declaredLength (bytes.take n) = declaredLength bytes := by
  have size : kHeaderSize = 16 := rfl
  rw [declaredLength, declaredLength, List.drop_take, List.take_take, Nat.min_eq_left (by omega)]

/-- A part of a frame is short. -/
theorem short_take_frame (type : FrameType) {payload : List UInt8}
    (bound : payload.length ≤ kMaxPayload) {n : ℕ} (cut : n < kHeaderSize + payload.length) :
    Short ((frameBytes type payload).take n) := by
  have length : ((frameBytes type payload).take n).length = n := by
    rw [List.length_take, length_frameBytes]
    omega
  have declared := declaredLength_frameBytes type bound []
  rw [List.append_nil] at declared
  by_cases headless : n < kHeaderSize
  · exact Or.inl (by omega)
  · have same := declaredLength_take (Nat.le_of_not_lt headless) (frameBytes type payload)
    exact Or.inr ⟨by omega, by omega⟩

theorem short_take {bytes : List UInt8} (short : Short bytes) (n : ℕ) : Short (bytes.take n) := by
  have length : (bytes.take n).length = min n bytes.length := List.length_take
  rcases short with headless | ⟨small, cut⟩
  · exact Or.inl (by omega)
  · by_cases headed : n < kHeaderSize
    · exact Or.inl (by omega)
    · have same := declaredLength_take (Nat.le_of_not_lt headed) bytes
      exact Or.inr ⟨by omega, by omega⟩

/-- Letters that were cut off somewhere are fewer letters, and a part of the next one. -/
theorem take_wireBytes {letters : List Letter}
    (bounded : ∀ l ∈ letters, l.2.length ≤ kMaxPayload) {tail : List UInt8} (short : Short tail)
    (n : ℕ) : ∃ j tail', (wireBytes letters ++ tail).take n = wireBytes (letters.take j) ++ tail' ∧
      Short tail' := by
  induction letters generalizing n with
  | nil => exact ⟨0, tail.take n, rfl, short_take short n⟩
  | cons letter more ih =>
      obtain ⟨bound, others⟩ := List.forall_mem_cons.mp bounded
      have length := length_frameBytes letter.1 letter.2
      rw [wireBytes_cons, List.append_assoc, List.take_append]
      by_cases cut : n < kHeaderSize + letter.2.length
      · refine ⟨0, (frameBytes letter.1 letter.2).take n, ?_, short_take_frame _ bound cut⟩
        rw [Nat.sub_eq_zero_of_le (by omega), List.take_zero, List.append_nil]
        rfl
      · obtain ⟨j, tail', taken, short'⟩ := ih others (n - (frameBytes letter.1 letter.2).length)
        refine ⟨j + 1, tail', ?_, short'⟩
        rw [taken, List.take_of_length_le (by omega), List.take_succ_cons, wireBytes_cons,
          List.append_assoc]

/-- How a `recv_frame` ends on letters, and a part of one after them. -/
inductive Reads (s : Stream) (letters : List Letter) (tail : List UInt8) :
    Turn (RecvResult × Stream) → Prop
  | idle : Reads s letters tail (.returns (.timeout, s))
  | gone {result : RecvResult} {rest : Stream} (none : letters = []) (ended : s.ending ≠ .silent)
      (lost : result = .closed ∨ result = .err) : Reads s letters tail (.returns (result, rest))
  | letter {letter : Letter} {more : List Letter} {rest : Stream} (next : letters = letter :: more)
      (bytes : rest.bytes = wireBytes more ++ tail) (ending : rest.ending = s.ending) :
      Reads s letters tail (.returns (.ok (received letter), rest))

theorem recvFrame_reads {s : Stream} {letters : List Letter}
    (bounded : ∀ l ∈ letters, l.2.length ≤ kMaxPayload) {tail : List UInt8}
    (bytes : s.bytes = wireBytes letters ++ tail) (short : Short tail)
    (whole : s.ending = .silent → tail = []) (arrived : Bool) :
    Reads s letters tail (recvFrame s arrived) := by
  cases readable : waitReadable s arrived with
  | false =>
      rw [recvFrame, readable]
      exact .idle
  | true =>
  cases letters with
  | nil =>
      have outcome := recvFrame_outcome readable
      have short' : Short s.bytes := by
        rw [bytes]
        exact short
      generalize recvFrame s arrived = turn at outcome
      cases outcome with
      | gone ended _ lost => exact .gone rfl ended lost
      | stuck silent _ =>
          rw [waitReadable, bytes, whole silent, silent] at readable
          simp [wireBytes] at readable
      | tooLarge headed large =>
          rcases short' with headless | ⟨small, -⟩ <;> omega
      | malformed advances complete refused =>
          have split := congrArg List.length advances.bytes
          rw [List.length_append] at split
          rcases short' with headless | ⟨-, cut⟩ <;> omega
      | @received frame data rest advances decoded =>
          obtain ⟨bound, -, rfl⟩ := decode_eq_ok_iff.mp decoded
          have framed : Framed s.bytes frame.type frame.payload rest.bytes :=
            ⟨advances.bytes, bound⟩
          exact absurd short' framed.not_short
  | cons letter more =>
      have now : arrived = true := by
        rw [waitReadable, Bool.and_eq_true] at readable
        exact readable.1
      subst now
      have next : Framed s.bytes letter.1 letter.2 (wireBytes more ++ tail) :=
        ⟨by rw [bytes, wireBytes_cons, List.append_assoc], bounded letter List.mem_cons_self⟩
      obtain ⟨rest, returned, behind, ending⟩ := recvFrame_of_framed next
      rw [returned]
      exact .letter rfl behind ending

end Mp

/-! ## What a step comes to -/

namespace Cluster

theorem delivered_bytes (frames : List (Socket × List UInt8)) (c : Coordinator) (s : Socket)
    (p : Process) : (delivered frames c s p).incoming.bytes =
      p.incoming.bytes ++ (sentTo s frames).flatten := by
  rw [← Stream.more_bytes]
  unfold delivered
  dsimp only
  split_ifs <;> rfl

theorem sentTo_nil (s : Socket) : sentTo s [] = [] :=
  rfl

theorem sentTo_cons (s t : Socket) (bytes : List UInt8) (frames : List (Socket × List UInt8)) :
    sentTo s ((t, bytes) :: frames) =
      if t = s then bytes :: sentTo s frames else sentTo s frames := by
  unfold sentTo
  by_cases same : t = s <;> simp [same]

/-- The cluster after a turn of the coordinator. -/
def afterTurn (k : Cluster) (s : Socket) (c : Coordinator) (rest : Stream)
    (taken : List (Socket × List UInt8)) : Cluster where
  loop := { coordinator := c, streams := Function.update k.loop.streams s rest, visited := s }
  processes other := (k.processes other).map (Cluster.delivered taken c other)

variable {F : Type} [ScoreArith F] {k : Cluster} {s : Socket} {arrived : Bool}

/-- A turn that is handled, and whose frames are taken. -/
theorem poll_eq {role : Role} {result : RecvResult} {rest : Stream} {c : Coordinator}
    {frames : List (Socket × List UInt8)}
    (registered : k.loop.coordinator.conns[s]? = some role)
    (read : recvFrame (k.loop.streams s) arrived = .returns (result, rest))
    (handled : Coordinator.process F s role result k.loop.coordinator = .ok () c)
    (sent : c.sent = k.loop.coordinator.sent ++ frames) :
    k.poll F s arrived [] = .returns (k.afterTurn s c rest frames) := by
  have turned : k.loop.poll F s arrived [] = .returns (k.afterTurn s c rest frames).loop := by
    rw [MainLoop.poll_eq_returns_iff, turn_of_recvFrame registered read, handled]
    exact ⟨rfl, by simp⟩
  rw [poll, turned, Turn.returns_bind, MainLoop.written_of_append sent, transmit_nil]
  rfl

/-- The cluster after a process has taken something up. -/
def afterWork (k : Cluster) (s : Socket) (p : Process) (phase : WorkerPhase) (said : List Letter)
    (rest : Stream) : Cluster where
  loop :=
    { k.loop with
      streams := Function.update k.loop.streams s
        (if phase.hasExited then
          { (k.loop.streams s).more (said.map fun l => frameBytes l.1 l.2) with ending := .closed }
        else (k.loop.streams s).more (said.map fun l => frameBytes l.1 l.2)) }
  processes := Function.update k.processes s (some { p with phase := phase, incoming := rest })

theorem takeUp_eq {p : Process} {result : RecvResult} {rest : Stream} {phase : WorkerPhase}
    {said : List Letter} (known : k.processes s = some p) (running : p.isRunning = true)
    (read : recvFrame p.incoming arrived = .returns (result, rest))
    (received : Worker.receive p.args p.phase result [] = .ok phase said) :
    k.takeUp s arrived = .returns (said, k.afterWork s p phase said rest) := by
  simp only [takeUp, known, running, read, received, Turn.returns_bind]
  rfl

/-- A step of a worker process returns if all that it writes is taken. -/
theorem work_eq_returns_iff {said : List Letter} {k' : Cluster} {sends : List Sending}
    (taken : k.takeUp s arrived = .returns (said, k')) :
    (∃ k'', k.work s arrived sends = .returns k'') ↔
      ∀ write ∈ said.zip sends, write.2 = .sent := by
  rw [← Worker.submit_returns_iff, work, taken, Turn.returns_bind]
  constructor
  · rintro ⟨k'', returned⟩
    obtain ⟨_, submitted, -⟩ := Turn.bind_eq_returns returned
    exact submitted
  · intro submitted
    refine ⟨k', ?_⟩
    show (Worker.submit said sends >>= fun _ => Turn.returns k') = _
    rw [submitted]
    rfl

end Cluster

end DPUFabric
