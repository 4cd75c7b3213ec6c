import DPUFabric.Dispatch
import DPUFabric.Framing

/-!
# What contains a peer

From any state, the process stays in its loop, and a turn concerns its own connection
only, exactly if two things hold of every turn: what it reads is orderly, and what it
writes is taken or refused.  A peer that sends anything else ends the process or stops
it, and so does one that is gone, or does not read, when it is written to.
-/

namespace DPUFabric

open Std
open DPUFabric.Wire
open DPUFabric.Persistence
open DPUFabric.Proto
open DPUFabric.Mp
open DPUFabric.Mpproto

/-! ## Who is written to -/

namespace Coordinator

variable (F : Type) [ScoreArith F] (s : Socket)

/-- The socket of the worker of a device that was deployed on. -/
def commandSocket (c : Coordinator) (dev : DeviceId) : Option Socket :=
  c.engine.snap.devices[dev]?.bind fun device => c.sockByWorker[device.owningWorker.value]?

/-- The sockets that the handler of an administrator's frame writes to: its own, and a worker's. -/
def adminWrites (c : Coordinator) (payload : List UInt8) : List Socket :=
  match readCommand payload with
  | .error _ _ => []
  | .ok (_, ctype) ahead =>
      s :: if ctype = Enumerator.code Cmd.createDeployment then
        match readTarget ahead with
        | .error _ _ => []
        | .ok (sid, oc) _ =>
            match Engine.createDeployment F (deploymentRequest sid oc) c.engine with
            | .ok (some (_, dev)) e => ({ c with engine := e }.commandSocket dev).toList
            | _ => []
      else []

/-- The sockets that a turn writes to for a frame. -/
def writes (c : Coordinator) : Role → FrameType → List UInt8 → List Socket
  | .worker, _, _ => []
  | .admin, _, payload => adminWrites F s c payload
  | .unknown, type, payload =>
      if type = .declared .hello then
        match decodeHello payload with
        | .error _ _ => []
        | .ok (wk, boot, _) _ =>
            match Engine.registerWorker ⟨wk⟩ ⟨boot⟩ c.engine with
            | .ok _ _ => [s]
            | .error _ _ => []
      else adminWrites F s c payload

variable {F s} {c c' : Coordinator}

/-- What a part of `main` has written, and to whom. -/
def Writes (c c' : Coordinator) (sockets : List Socket) : Prop :=
  ∃ frames, c'.sent = c.sent ++ frames ∧ frames.map (·.1) = sockets

theorem Writes.nothing (same : c'.sent = c.sent) : Writes c c' [] :=
  ⟨[], by rw [same, List.append_nil], rfl⟩

theorem Writes.one {w : Socket} {bytes : List UInt8} (sent : c'.sent = c.sent ++ [(w, bytes)]) :
    Writes c c' [w] :=
  ⟨[(w, bytes)], sent, rfl⟩

theorem Writes.trans {c'' : Coordinator} {first second : List Socket} (begun : Writes c c' first)
    (ended : Writes c' c'' second) : Writes c c'' (first ++ second) := by
  obtain ⟨frames, sent, targets⟩ := begun
  obtain ⟨frames', sent', targets'⟩ := ended
  refine ⟨frames ++ frames', ?_, ?_⟩
  · rw [sent', sent, List.append_assoc]
  · rw [List.map_append, targets, targets']

theorem commanded_writes (c : Coordinator) (dev : DeviceId) :
    Writes c (c.commanded dev) (c.commandSocket dev).toList := by
  unfold commanded commandSocket
  cases c.engine.snap.devices[dev]? with
  | none => exact .nothing rfl
  | some device =>
      dsimp only [Option.bind_some]
      cases c.sockByWorker[device.owningWorker.value]? with
      | none => exact .nothing rfl
      | some sock => exact .one rfl

theorem AdminOutcome.writes {payload : List UInt8} (outcome : AdminOutcome F s payload c c') :
    Writes c c' (adminWrites F s c payload) := by
  have create : ∀ {cmdId : UInt64} {ahead : List UInt8},
      readCommand payload = .ok (cmdId, Enumerator.code Cmd.createDeployment) ahead →
        adminWrites F s c payload = s :: match readTarget ahead with
          | .error _ _ => []
          | .ok (sid, oc) _ =>
              match Engine.createDeployment F (deploymentRequest sid oc) c.engine with
              | .ok (some (_, dev)) e => ({ c with engine := e }.commandSocket dev).toList
              | _ => [] := by
    intro cmdId ahead read
    simp only [adminWrites, read, if_true]
  have other : ∀ {cmdId : UInt64} {ctype : UInt8} {ahead : List UInt8},
      readCommand payload = .ok (cmdId, ctype) ahead →
        ctype ≠ Enumerator.code Cmd.createDeployment → adminWrites F s c payload = [s] := by
    intro cmdId ctype ahead read differs
    simp only [adminWrites, read, if_neg differs]
  cases outcome with
  | status read =>
      rw [other read (by decide)]
      exact .one rfl
  | statusTooLong read =>
      rw [other read (by decide)]
      exact .one rfl
  | shutdown read =>
      rw [other read (by decide)]
      exact .one rfl
  | unknown read _ differs =>
      rw [other read differs]
      exact .one rfl
  | badTarget read thrown =>
      simp only [create read, thrown]
      exact .one rfl
  | failed read target thrown =>
      simp only [create read, target, thrown]
      exact .one rfl
  | rejected read target created =>
      simp only [create read, target, created]
      exact .one rfl
  | @deployed cmdId _ _ _ _ dep dev e read target created =>
      simp only [create read, target, created]
      let answered := { c with engine := e }.replied s cmdId true (deployedText dep dev)
      have answers : Writes c answered [s] := .one rfl
      exact answers.trans (commanded_writes answered dev)

/-- A turn writes for a frame, and only then. -/
theorem Dispatched.writes {role : Role} {result : RecvResult}
    (dispatched : Dispatched F s c role result c') :
    (∀ f, result ≠ .ok f) ∧ Writes c c' [] ∨
      ∃ f, result = .ok f ∧ Writes c c' (c.writes F s role f.type f.payload) := by
  cases dispatched with
  | idle => exact Or.inl ⟨nofun, .nothing rfl⟩
  | closed lost =>
      refine Or.inl ⟨?_, .nothing ?_⟩
      · rintro f rfl
        rcases lost with lost | lost <;> cases lost
      · unfold withoutConn
        split <;> rfl
  | @greeted f wk boot label ahead e greets read registered =>
      refine Or.inr ⟨f, rfl, ?_⟩
      simp only [Coordinator.writes, greets, read, registered, if_true]
      exact .one rfl
  | @refused f wk boot label ahead fault e greets read thrown =>
      refine Or.inr ⟨f, rfl, ?_⟩
      simp only [Coordinator.writes, greets, read, thrown, if_true]
      exact .nothing rfl
  | @admin _ f _ privileged outcome =>
      refine Or.inr ⟨f, rfl, ?_⟩
      have written := outcome.writes
      rcases privileged with rfl | ⟨rfl, other⟩
      · exact written
      · simp only [Coordinator.writes, if_neg other]
        exact written
  | @worker f _ outcome =>
      refine Or.inr ⟨f, rfl, .nothing ?_⟩
      cases outcome <;> rfl

end Coordinator

/-! ## Turns that return -/

namespace MainLoop

variable {F : Type} [ScoreArith F] {l l' : MainLoop} {s : Socket} {arrived : Bool}

/-- What a turn has done that has returned. -/
inductive Polled (F : Type) [ScoreArith F] (l : MainLoop) (s : Socket) (arrived : Bool) :
    MainLoop → Prop
  | idle : Polled F l s arrived l
  | turn {role : Role} {result : RecvResult} {rest : Stream} {c : Coordinator}
      (registered : l.coordinator.conns[s]? = some role)
      (received : recvFrame (l.streams s) arrived = .returns (result, rest))
      (dispatched : Coordinator.Dispatched F s l.coordinator role result c) :
      Polled F l s arrived
        { coordinator := c, streams := Function.update l.streams s rest, visited := s }

theorem polled_of_turn (returned : l.turn F s arrived = .returns l') : Polled F l s arrived l' := by
  cases registered : l.coordinator.conns[s]? with
  | none =>
      rw [turn, registered] at returned
      cases returned
      exact .idle
  | some role =>
      cases received : recvFrame (l.streams s) arrived with
      | throws fault => simp [turn, registered, received] at returned
      | blocks => simp [turn, registered, received] at returned
      | signalled => simp [turn, registered, received] at returned
      | returns both =>
          obtain ⟨result, rest⟩ := both
          rw [turn_of_recvFrame registered received] at returned
          cases handled : Coordinator.process F s role result l.coordinator with
          | error fault c =>
              rw [handled] at returned
              cases returned
          | ok value c =>
              rw [handled] at returned
              cases returned
              exact .turn registered received (Coordinator.process_outcome handled)

theorem written_of_append {frames : List (Socket × List UInt8)}
    (sent : l'.coordinator.sent = l.coordinator.sent ++ frames) : l.written l' = frames := by
  rw [written, sent, List.drop_left]

/-- A poll returns if its turn does, and each write of it. -/
theorem poll_eq_returns_iff {sends : List Sending} :
    l.poll F s arrived sends = .returns l' ↔ l.turn F s arrived = .returns l' ∧
      ∀ write ∈ (l.written l').zip sends, write.2.returns = true := by
  constructor
  · intro returned
    obtain ⟨middle, turned, returned⟩ := Turn.bind_eq_returns returned
    obtain ⟨taken, transmitted, same⟩ := Turn.bind_eq_returns returned
    cases same
    exact ⟨turned, (transmit_returns_iff _ _).mp ⟨taken, transmitted⟩⟩
  · rintro ⟨turned, returns⟩
    obtain ⟨taken, transmitted⟩ := (transmit_returns_iff _ _).mpr returns
    rw [poll, turned, Turn.returns_bind, transmitted]
    rfl

end MainLoop

/-! ## Runs -/

/-- The process is in its loop, and the next step leaves it there. -/
def StaysInLoop (F : Type) [ScoreArith F] (p : Turn MainLoop) (event : MainLoop.Event) : Prop :=
  ∃ l l', p = .returns l ∧ MainLoop.step F p event = .returns l' ∧
    match event with
    | .accept s peer => l' = l.accept s peer ∨ l.coordinator.running = false ∧ l' = l
    | .poll s _ _ => Contained l s l'

/--
The stream of a connection is orderly, and if it begins with a frame, each write that
the handling of this frame makes returns.
-/
structure OrderlyTurn (F : Type) [ScoreArith F] (l : MainLoop) (s : Socket) (role : Role)
    (sends : List Sending) : Prop where
  reads : Orderly role (l.streams s)
  writes : ∀ type payload rest, Framed (l.streams s).bytes type payload rest →
    ∀ write ∈ (l.coordinator.writes F s role type payload).zip sends,
      write.2.returns = true

/-- A connection that is polled, and has something to read, has an orderly turn. -/
def OrderlyStep (F : Type) [ScoreArith F] (p : Turn MainLoop) (event : MainLoop.Event) : Prop :=
  match p, event with
  | .returns l, .poll s arrived sends =>
      l.admits event = true → ∀ role, l.coordinator.conns[s]? = some role →
        waitReadable (l.streams s) arrived = true → OrderlyTurn F l s role sends
  | _, _ => True

section Runs

variable {F : Type} [ScoreArith F] {l l' : MainLoop} {s : Socket} {arrived : Bool} {role : Role}
  {sends : List Sending}

/-- How the writes of a turn end does not depend on what is written. -/
theorem returns_iff_of_sockets {frames : List (Socket × List UInt8)} {sockets : List Socket}
    (targets : frames.map (·.1) = sockets) :
    (∀ write ∈ sockets.zip sends, write.2.returns = true) ↔
      ∀ write ∈ frames.zip sends, write.2.returns = true := by
  rw [← targets, List.zip_map_left, List.forall_mem_map]
  rfl

theorem readable_of_received {rest : Stream} {f : Frame}
    (received : recvFrame (l.streams s) arrived = .returns (.ok f, rest)) :
    waitReadable (l.streams s) arrived = true := by
  by_contra idle
  rw [recvFrame, Bool.eq_false_of_not_eq_true idle] at received
  cases received

theorem poll_contained (registered : l.coordinator.conns[s]? = some role)
    (orderly : waitReadable (l.streams s) arrived = true → OrderlyTurn F l s role sends) :
    ∃ l', l.poll F s arrived sends = .returns l' ∧ Contained l s l' := by
  obtain ⟨l', turned, contained⟩ :=
    turn_of_orderly (F := F) registered fun readable => (orderly readable).reads
  refine ⟨l', MainLoop.poll_eq_returns_iff.mpr ⟨turned, ?_⟩, contained⟩
  cases MainLoop.polled_of_turn turned with
  | idle => simp [MainLoop.written]
  | @turn role' result rest c registered' received' dispatched =>
      cases registered.symm.trans registered'
      rcases dispatched.writes with ⟨-, frames, sent, targets⟩ | ⟨f, rfl, frames, sent, targets⟩
      · rw [MainLoop.written_of_append sent, ← returns_iff_of_sockets targets]
        simp
      · rw [MainLoop.written_of_append sent, ← returns_iff_of_sockets targets]
        exact (orderly (readable_of_received received')).writes _ _ _ (framed_of_recvFrame received')

theorem orderly_of_poll (registered : l.coordinator.conns[s]? = some role)
    (returned : l.poll F s arrived sends = .returns l')
    (readable : waitReadable (l.streams s) arrived = true) : OrderlyTurn F l s role sends := by
  obtain ⟨turned, returns⟩ := MainLoop.poll_eq_returns_iff.mp returned
  refine ⟨orderly_of_turn registered turned readable, fun type payload rest framed => ?_⟩
  obtain ⟨later, received, -⟩ := recvFrame_of_framed framed
  have arrives : arrived = true := by
    rw [waitReadable, Bool.and_eq_true] at readable
    exact readable.1
  subst arrives
  rw [turn_of_recvFrame registered received] at turned
  cases handled : Coordinator.process F s role (.ok (Mp.received (type, payload))) l.coordinator with
  | error fault c =>
      rw [handled] at turned
      cases turned
  | ok value c =>
      rw [handled] at turned
      cases turned
      rcases (Coordinator.process_outcome handled).writes with
        ⟨none_read, -⟩ | ⟨f, same, frames, sent, targets⟩
      · exact absurd rfl (none_read _)
      · cases same
        rw [MainLoop.written_of_append sent] at returns
        exact (returns_iff_of_sockets targets).mpr returns

theorem staysInLoop_iff (event : MainLoop.Event) :
    StaysInLoop F (.returns l) event ↔ OrderlyStep F (.returns l) event := by
  cases admitted : l.admits event with
  | false =>
      have same : MainLoop.step F (.returns l) event = .returns l := by
        show (if l.admits event = true then _ else _) = _
        rw [admitted, if_neg Bool.false_ne_true]
        rfl
      cases event with
      | accept s peer => exact iff_of_true ⟨l, l, rfl, same, Or.inr ⟨admitted, rfl⟩⟩ trivial
      | poll s arrived sends =>
          refine iff_of_true ⟨l, l, rfl, same, fun _ _ => rfl, fun _ _ => rfl, .idle rfl rfl⟩ ?_
          intro admits
          cases admitted.symm.trans admits
  | true =>
      cases event with
      | accept s peer =>
          have accepted : MainLoop.step F (.returns l) (.accept s peer) = .returns (l.accept s peer) :=
            if_pos admitted
          exact iff_of_true ⟨l, _, rfl, accepted, Or.inl rfl⟩ trivial
      | poll s arrived sends =>
          have polls : MainLoop.step F (.returns l) (.poll s arrived sends) =
              l.poll F s arrived sends := if_pos admitted
          constructor
          · rintro ⟨_, l', same, returned, -⟩ - role registered readable
            cases same
            exact orderly_of_poll registered (polls.symm.trans returned) readable
          · intro orderly
            cases registered : l.coordinator.conns[s]? with
            | none =>
                have turned : l.turn F s arrived = .returns l := by
                  rw [MainLoop.turn, registered]
                  rfl
                refine ⟨l, l, rfl, ?_, fun _ _ => rfl, fun _ _ => rfl, .idle rfl rfl⟩
                rw [polls, MainLoop.poll_eq_returns_iff]
                exact ⟨turned, by simp [MainLoop.written]⟩
            | some role =>
                obtain ⟨l', returned, contained⟩ :=
                  poll_contained registered (orderly admitted role registered)
                exact ⟨l, l', rfl, polls.trans returned, contained⟩

end Runs

/--
From any state of the loop, the process stays in the loop, and every turn concerns its
own connection only, exactly as long as every turn is orderly.
-/
theorem mainLoop_contained_iff (F : Type) [ScoreArith F] (l : MainLoop)
    (events : List MainLoop.Event) :
    TransitionRun.Every (MainLoop.step F) (StaysInLoop F) (.returns l) events ↔
      TransitionRun.Every (MainLoop.step F) (OrderlyStep F) (.returns l) events := by
  refine TransitionRun.every_iff_of_invariant (fun p => ∃ l, p = .returns l) ?_ ?_ ⟨l, rfl⟩ events
  · rintro _ event ⟨l, rfl⟩
    exact staysInLoop_iff event
  · rintro p event ⟨-, l', -, returned, -⟩ -
    exact ⟨l', returned⟩

/-! ## A stranger -/

/-- A coordinator that has just started. -/
def freshLoop : MainLoop where
  coordinator := { engine := Engine.sampleEngine }
  streams := fun _ => ⟨[], .silent⟩

/-- Sixteen bytes that are no header. -/
def garbage : Stream := ⟨[List.replicate 16 0], .closed⟩

theorem recvFrame_garbage :
    recvFrame garbage true = .throws (.error .protocolError "bad frame magic") := by
  have header : recv kHeaderSize garbage = .bytes (List.replicate 16 0) ⟨[[]], .closed⟩ := rfl
  have length : readPayloadLength (List.replicate 16 0) = .ok 0 [] := rfl
  have refused : decode (List.replicate 16 0) =
      .error (.error .protocolError "bad frame magic") := rfl
  have payload : recvPayload (List.replicate 16 0) ⟨[[]], .closed⟩ =
      .throws (.error .protocolError "bad frame magic") := by
    rw [recvPayload, length]
    show (recvN 0 _ >>= _) = _
    rw [recvN_zero, Turn.returns_bind]
    simp only [List.append_nil, refused]
  unfold recvFrame
  rw [header]
  show (recvN 0 _ >>= _) = _
  rw [recvN_zero]
  exact payload

/-- Whoever connects and sends them ends the process. -/
theorem garbage_escapes :
    TransitionRun.run (MainLoop.step ℚ) (.returns freshLoop)
        [.accept 5 garbage, .poll 5 true] =
      .throws (.error .protocolError "bad frame magic") ∧
    ¬ TransitionRun.Every (MainLoop.step ℚ) (StaysInLoop ℚ) (.returns freshLoop)
        [.accept 5 garbage, .poll 5 true] := by
  have accepted : (freshLoop.accept 5 garbage).streams 5 = garbage := by
    show Function.update freshLoop.streams 5 garbage 5 = garbage
    rw [Function.update_self]
  have escapes : (freshLoop.accept 5 garbage).poll ℚ 5 true [] =
      .throws (.error .protocolError "bad frame magic") := by
    have registered : (freshLoop.accept 5 garbage).coordinator.conns[(5 : Socket)]? =
        some .unknown := by
      show ((∅ : ExtTreeMap Socket Role).insert 5 .unknown)[(5 : Socket)]? = _
      rw [OrderedMap.lookup_insert, if_pos rfl]
    rw [MainLoop.poll, MainLoop.turn, registered]
    simp only [accepted, recvFrame_garbage, Turn.throws_bind]
  refine ⟨escapes, ?_⟩
  rintro ⟨-, ⟨l, l', same, returned, -⟩, -⟩
  cases same
  change (freshLoop.accept 5 garbage).poll ℚ 5 true [] = _ at returned
  rw [escapes] at returned
  cases returned

end DPUFabric
