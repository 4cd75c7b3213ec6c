import DPUFabric.CallFaults
import DPUFabric.Coordinator

/-!
# Hostile bytes

Which bytes of a peer the main loop survives.  The frame reader throws on a
malformed frame, and each handler reads the first fields of a payload before its
`try` block, so most malformed input ends the process; a peer that stops in the
middle of a frame, and stays, makes the loop wait for ever.  Everything behind those
reads is handled: the engine throws short typed errors only, and a reply that
carries one is always written.
-/

namespace DPUFabric

open Std
open Grammar
open Codec
open Exceptions
open DPUFabric.Wire
open DPUFabric.Persistence
open DPUFabric.Proto
open DPUFabric.Mp
open DPUFabric.Mpproto

/-! ## What a part of the loop may change -/

/-- The other connections stay as they were, and the loop goes on unless it is told to stop. -/
structure Confined (s : Socket) (stops : Prop) (c c' : Coordinator) : Prop where
  others : ∀ other, other ≠ s → c'.conns[other]? = c.conns[other]?
  running : stops ∨ c'.running = c.running

namespace Coordinator

instance (s : Socket) (stops : Prop) : Std.Refl (Confined s stops) :=
  ⟨fun _ => ⟨fun _ _ => rfl, Or.inr rfl⟩⟩

instance (s : Socket) (stops : Prop) : IsTrans Coordinator (Confined s stops) where
  trans := by
    intro first second third begun ended
    refine ⟨fun other differs => (ended.others other differs).trans (begun.others other differs), ?_⟩
    rcases begun.running with stop | same
    · exact Or.inl stop
    · rcases ended.running with stop | same'
      · exact Or.inl stop
      · exact Or.inr (same'.trans same)

section Steps

variable {s : Socket} {stops : Prop} {faults faults' : Fault → Prop} {α β : Type}

theorem engineCall_throws {call : EngineM α} (throws : Throws AnyChange faults call) :
    Throws (Confined s stops) faults (engineCall call) := by
  constructor
  intro c
  have outcome := throws.outcome c.engine
  unfold engineCall
  cases result : call c.engine with
  | ok value e => exact ⟨fun _ _ => rfl, Or.inr rfl⟩
  | error fault e =>
      rw [result] at outcome
      exact ⟨outcome.1, fun _ _ => rfl, Or.inr rfl⟩

theorem catching_throws {body : CoordinatorM α} {handler : DpuError → CoordinatorM α}
    (throws : Throws (Confined s stops) faults body) (typed : ¬ faults .undefinedBehavior)
    (handles : ∀ error, faults (.thrown error) → Throws (Confined s stops) faults' (handler error)) :
    Throws (Confined s stops) faults' (catching body handler) := by
  constructor
  intro c
  have outcome := throws.outcome c
  unfold catching
  cases result : body c with
  | ok value middle =>
      rw [result] at outcome
      exact outcome
  | error fault middle =>
      rw [result] at outcome
      obtain ⟨allowed, begun⟩ := outcome
      cases fault with
      | undefinedBehavior => exact (typed allowed).elim
      | thrown error =>
          have handled := (handles error allowed).outcome middle
          simp only
          cases last : handler error middle with
          | ok value final =>
              rw [last] at handled
              exact IsTrans.trans _ _ _ begun handled
          | error fault final =>
              rw [last] at handled
              exact ⟨handled.1, IsTrans.trans _ _ _ begun handled.2⟩

theorem compose_bind {write : WriterM Unit} {code : List UInt8} (writes : Writes write code True)
    (next : List UInt8 → CoordinatorM β) : compose write >>= next = next code := by
  funext c
  have written := writes.appends trivial []
  have composed : compose write c = .ok code c := by simp [compose, written]
  exact bind_of_ok composed

theorem compose_throws {write : WriterM Unit} (throws : Throws AnyChange faults write) :
    Throws (Confined s stops) faults (compose write) := by
  constructor
  intro c
  have outcome := throws.outcome []
  unfold compose
  cases result : write [] with
  | ok _ bytes => exact ⟨fun _ _ => rfl, Or.inr rfl⟩
  | error fault bytes =>
      rw [result] at outcome
      exact ⟨outcome.1, fun _ _ => rfl, Or.inr rfl⟩

theorem writeFrame_throws {target : Socket} {type : MsgType} {payload : List UInt8}
    (bound : payload.length ≤ kMaxPayload) :
    Throws (Confined s stops) faults (writeFrame target type payload) := by
  constructor
  intro c
  rw [writeFrame, encode_eq _ bound]
  exact ⟨fun _ _ => rfl, Or.inr rfl⟩

/-- The only error of `write_frame` is about a payload that is too long. -/
theorem writeFrame_brief {target : Socket} {type : MsgType} {payload : List UInt8} :
    Throws (Confined s stops) Fault.IsBrief (writeFrame target type payload) := by
  by_cases bound : payload.length ≤ kMaxPayload
  · exact writeFrame_throws bound
  · constructor
    intro c
    rw [writeFrame, encode, if_pos (by omega)]
    exact ⟨by decide, fun _ _ => rfl, Or.inr rfl⟩

/-! ## Reads -/

theorem parse_brief {read : ReaderM α} (throws : Throws AnyChange faults read)
    (payload : List UInt8) : Throws (Confined s stops) faults (parse read payload) := by
  constructor
  intro c
  have outcome := throws.outcome payload
  unfold parse
  cases result : read payload with
  | ok value ahead => exact ⟨fun _ _ => rfl, Or.inr rfl⟩
  | error fault ahead =>
      rw [result] at outcome
      exact ⟨outcome.1, fun _ _ => rfl, Or.inr rfl⟩

theorem parse_throws {read : ReaderM α} {language : Language UInt8} {payload : List UInt8}
    (accepts : Accepts read language) (holds : payload ∈ language * ⊤)
    {next : α × List UInt8 → CoordinatorM β}
    (throws : ∀ value ahead, read payload = .ok value ahead →
      Throws (Confined s stops) faults (next (value, ahead))) :
    Throws (Confined s stops) faults (parse read payload >>= next) := by
  obtain ⟨value, ahead, returned⟩ := (accepts.returns_iff payload).mpr holds
  have run : parse read payload >>= next = next (value, ahead) := by
    funext c
    have parsed : parse read payload c = .ok (value, ahead) c := by simp only [parse, returned]
    exact bind_of_ok parsed
  rw [run]
  exact throws value ahead returned

theorem parse_fails {read : ReaderM α} {language : Language UInt8} {payload : List UInt8}
    (accepts : Accepts read language) (lacks : payload ∉ language * ⊤)
    (next : α × List UInt8 → CoordinatorM β) (c : Coordinator) :
    ∃ fault, (parse read payload >>= next) c = .error fault c := by
  cases result : read payload with
  | ok value ahead => exact (lacks ((accepts.returns_iff payload).mp ⟨value, ahead, result⟩)).elim
  | error fault ahead =>
      have failed : parse read payload c = .error fault c := by simp only [parse, result]
      exact ⟨fault, bind_of_error failed⟩

end Steps

/-! ## Workers -/

section Handlers

variable {s : Socket} {stops : Prop} {faults : Fault → Prop}

theorem brief_typed : ¬ Fault.IsBrief .undefinedBehavior :=
  id

/-- What a worker's payload begins with, by the type of the frame. -/
def workerLayout : FrameType → Language UInt8
  | .declared .registerDevice => deviceLayout
  | .declared .publishEvidence => evidenceLayout
  | .declared .result => resultLayout
  | _ => 1

theorem handleWorkerMsg_throws {f : Frame} (wid : WorkerId)
    (holds : f.payload ∈ workerLayout f.type * ⊤) :
    Throws (Confined s stops) faults (handleWorkerMsg f wid) := by
  have swallowed : ∀ (call : EngineM DeviceId), Throws AnyChange Fault.IsBrief call →
      Throws (Confined s stops) faults
        (catching (discard (engineCall call)) fun _ => return) := by
    intro call throws
    exact catching_throws ((engineCall_throws throws).bind fun _ => .pure _) brief_typed
      fun _ _ => .pure _
  obtain ⟨type, payload, checksum⟩ := f
  unfold handleWorkerMsg
  cases type with
  | undeclared code outside => exact .pure _
  | declared type =>
      cases type with
      | registerDevice =>
          refine parse_throws accepts_getDevice holds fun dev ahead _ =>
            Throws.get.bind fun c => swallowed _ ?_
          unfold registerOrUpdate
          split_ifs
          · exact Engine.updateDevice_throws _
          · exact Engine.registerDevice_throws _
      | publishEvidence =>
          refine parse_throws accepts_readEvidence holds fun evidence ahead _ =>
            Throws.get.bind fun c => ?_
          obtain ⟨did, eg, fresh⟩ := evidence
          dsimp only
          split
          · exact .pure _
          · exact swallowed _ (Engine.updateDevice_throws _)
      | result =>
          exact parse_throws accepts_readResult holds fun _ _ _ =>
            .modify fun _ => ⟨fun _ _ => rfl, Or.inr rfl⟩
      | _ => exact .pure _

theorem handleWorkerMsg_fails {f : Frame} (wid : WorkerId)
    (lacks : f.payload ∉ workerLayout f.type * ⊤) (c : Coordinator) :
    ∃ fault, handleWorkerMsg f wid c = .error fault c := by
  obtain ⟨type, payload, checksum⟩ := f
  have anything : payload ∈ (1 : Language UInt8) * ⊤ := by
    rw [one_mul]
    trivial
  unfold handleWorkerMsg
  cases type with
  | undeclared code outside => exact (lacks anything).elim
  | declared type =>
      cases type with
      | registerDevice => exact parse_fails accepts_getDevice lacks _ c
      | publishEvidence => exact parse_fails accepts_readEvidence lacks _ c
      | result => exact parse_fails accepts_readResult lacks _ c
      | _ => exact (lacks anything).elim

/-! ## Administrators -/

theorem raw_throws (bytes : List UInt8) : Throws AnyChange faults (Writer.raw bytes) :=
  ⟨fun _ => trivial⟩

theorem u64_throws (v : UInt64) : Throws AnyChange faults (Writer.u64 v) :=
  ⟨fun _ => trivial⟩

/-- A string that is too long is refused with a message that is not. -/
theorem str_brief (message : Text) : Throws AnyChange Fault.IsBrief (Writer.str message) := by
  unfold Writer.str
  split_ifs
  · exact (Throws.throw (by decide)).bind fun _ => ⟨fun _ => trivial⟩
  · exact ⟨fun _ => trivial⟩

theorem str_throws {message : Text} (short : message.length ≤ kMaxStringBytes) :
    Throws AnyChange faults (Writer.str message) := by
  rw [Writer.str, if_neg (by omega)]
  exact ⟨fun _ => trivial⟩

theorem reply_of_str {target : Socket} {cmdId : UInt64} {ok : Bool} {message : Text}
    (written : Throws AnyChange faults (Writer.str message)) :
    Throws (Confined s stops) faults (reply target cmdId ok message) :=
  (compose_throws ((u64_throws _).bind fun _ => (raw_throws _).bind fun _ => written)).bind
    fun _ => catching_throws writeFrame_brief brief_typed fun _ _ => .pure _

theorem commandWorker_throws (dev : DeviceId) :
    Throws (Confined s stops) faults (commandWorker dev) := by
  refine Throws.get.bind fun c => ?_
  cases c.engine.snap.devices[dev]? with
  | none => exact .pure _
  | some device =>
      dsimp only
      split
      · exact .pure _
      · refine (compose_throws
          ((u64_throws _).bind fun _ => str_throws (by decide))).bind fun _ => ?_
        refine catching_throws (writeFrame_brief.bind fun _ => ?_) brief_typed fun _ _ => .pure _
        exact .modify fun _ => ⟨fun _ _ => rfl, Or.inr rfl⟩

theorem take_brief (n : Nat) : Throws AnyChange Fault.IsBrief (take n) := by
  constructor
  intro ahead
  unfold take
  split_ifs
  · exact ⟨by decide, trivial⟩
  · trivial

theorem readTarget_brief : Throws AnyChange Fault.IsBrief readTarget := by
  have u8 : Throws AnyChange Fault.IsBrief u8 := (take_brief 1).bind fun _ => .pure _
  have u32 : Throws AnyChange Fault.IsBrief u32 := (take_brief 4).bind fun _ => .pure _
  have u64 : Throws AnyChange Fault.IsBrief u64 := u32.bind fun _ => u32.bind fun _ => .pure _
  exact (u64.bind fun _ => .pure _).bind fun _ => (u8.bind fun _ => .pure _).bind fun _ => .pure _

variable (F : Type) [ScoreArith F]

theorem adminCommand_throws (target : Socket) (cmdId : UInt64) {ctype : UInt8}
    (ahead : List UInt8) (stop : ctype = Enumerator.code Cmd.shutdown → stops) :
    Throws (Confined s stops) Fault.IsBrief (adminCommand F target cmdId ctype ahead) := by
  unfold adminCommand
  split_ifs with status create shutdown
  · exact Throws.get.bind fun c => reply_of_str (str_brief _)
  · refine (parse_brief readTarget_brief ahead).bind fun target => ?_
    refine (engineCall_throws (Engine.createDeployment_throws F _)).bind fun created => ?_
    cases created with
    | none => exact reply_of_str (str_brief _)
    | some deployed => exact (reply_of_str (str_brief _)).bind fun _ => commandWorker_throws _
  · refine (reply_of_str (str_brief _)).bind fun _ => .modify fun _ => ?_
    exact ⟨fun _ _ => rfl, Or.inl (stop shutdown)⟩
  · exact reply_of_str (str_brief _)

/-- The payload is a `SHUTDOWN` command. -/
def IsShutdown (payload : List UInt8) : Prop :=
  ∃ cmdId ahead, readCommand payload = .ok (cmdId, Enumerator.code Cmd.shutdown) ahead

/-- Whatever a command throws is answered. -/
theorem handleAdminMsg_throws {f : Frame} (holds : f.payload ∈ commandLayout * ⊤)
    (stop : IsShutdown f.payload → stops) :
    Throws (Confined s stops) faults (handleAdminMsg F s f) := by
  refine parse_throws accepts_readCommand holds fun command ahead read => ?_
  obtain ⟨cmdId, ctype⟩ := command
  refine catching_throws (adminCommand_throws F s cmdId ahead ?_) brief_typed
    fun error brief => reply_of_str (str_throws brief)
  rintro rfl
  exact stop ⟨cmdId, ahead, read⟩

theorem handleAdminMsg_fails {f : Frame} (lacks : f.payload ∉ commandLayout * ⊤)
    (c : Coordinator) : ∃ fault, handleAdminMsg F s f c = .error fault c :=
  parse_fails accepts_readCommand lacks _ c

/-! ## The loop -/

theorem lookup_insert_conns (conns : ExtTreeMap Socket Role) (role : Role) {other : Socket}
    (differs : other ≠ s) : (conns.insert s role)[other]? = conns[other]? := by
  rw [OrderedMap.lookup_insert, if_neg differs.symm]

theorem lookup_erase_conns (conns : ExtTreeMap Socket Role) {other : Socket}
    (differs : other ≠ s) : (conns.erase s)[other]? = conns[other]? := by
  rw [ExtTreeMap.getElem?_erase, if_neg]
  intro same
  exact differs (LawfulEqCmp.eq_of_compare same).symm

/-- An acknowledgement is always written. -/
theorem acknowledge_throws (epoch : UInt64) :
    Throws (Confined s stops) faults
      (do
        let p ← compose do
          Writer.u64 epoch
          Writer.u8 1
        writeFrame s .ack p) := by
  obtain ⟨code, length, writes, -⟩ := codes_u64 epoch
  have both := writes.bind (u8_writes 1)
  rw [and_true] at both
  rw [compose_bind both]
  refine writeFrame_throws ?_
  rw [List.length_append, length]
  decide

theorem hello_throws {f : Frame} (holds : f.payload ∈ helloLayout * ⊤) :
    Throws (Confined s stops) faults (hello s f) := by
  refine parse_throws accepts_decodeHello holds fun greeting ahead _ => ?_
  obtain ⟨wk, boot, label⟩ := greeting
  have registers : Throws (Confined s stops) Fault.IsBrief
      (do
        engineCall (Engine.registerWorker ⟨wk⟩ ⟨boot⟩)
        return true) :=
    (engineCall_throws (Engine.registerWorker_throws _ _)).bind fun _ => .pure _
  refine (catching_throws registers brief_typed fun _ _ => .pure _).bind fun ok => ?_
  cases ok with
  | true =>
      refine Throws.bind (.modify fun c => ⟨fun _ => lookup_insert_conns _ _, Or.inr rfl⟩)
        fun _ => Throws.get.bind fun c => ?_
      have acknowledged := (acknowledge_throws c.engine.snap.epoch.value).bind fun _ =>
        (.modify fun _ => ⟨fun _ _ => rfl, Or.inr rfl⟩ :
          Throws (Confined s stops) faults
            (modify fun c => { c with sockByWorker := c.sockByWorker.insert wk s }))
      simpa only [bind_assoc] using acknowledged
  | false => exact .modify fun c => ⟨fun _ => lookup_erase_conns _, Or.inr rfl⟩

theorem hello_fails {f : Frame} (lacks : f.payload ∉ helloLayout * ⊤) (c : Coordinator) :
    ∃ fault, hello s f c = .error fault c :=
  parse_fails accepts_decodeHello lacks _ c

/-- What a payload begins with, by the role of the connection and the type of the frame. -/
def layout : Role → FrameType → Language UInt8
  | .unknown, .declared .hello => helloLayout
  | .unknown, _ => commandLayout
  | .worker, type => workerLayout type
  | .admin, _ => commandLayout

theorem layout_unknown {type : FrameType} (other : type ≠ .declared .hello) :
    layout .unknown type = commandLayout := by
  cases type with
  | undeclared code outside => rfl
  | declared type => cases type <;> first | rfl | exact (other rfl).elim

/-- A frame whose payload begins as it should is handled, whatever it asks for. -/
theorem process_throws {role : Role} {f : Frame} (holds : f.payload ∈ layout role f.type * ⊤)
    (stop : role ≠ .worker → IsShutdown f.payload → stops) :
    Throws (Confined s stops) faults (process F s role (.ok f)) := by
  cases role with
  | unknown =>
      unfold process
      simp only
      split_ifs with greets
      · rw [greets] at holds
        exact hello_throws holds
      · rw [layout_unknown greets] at holds
        exact Throws.bind (.modify fun c => ⟨fun _ => lookup_insert_conns _ _, Or.inr rfl⟩)
          fun _ => handleAdminMsg_throws F holds (stop (by decide))
  | worker =>
      refine Throws.bind ?_ fun wid => handleWorkerMsg_throws wid holds
      exact Throws.bind (.modify fun _ => ⟨fun _ _ => rfl, Or.inr rfl⟩) fun _ =>
        Throws.get.bind fun _ => .pure _
  | admin => exact handleAdminMsg_throws F holds (stop (by decide))

theorem process_fails {role : Role} {f : Frame} (lacks : f.payload ∉ layout role f.type * ⊤)
    (c : Coordinator) : ∃ fault c', process F s role (.ok f) c = .error fault c' := by
  cases role with
  | unknown =>
      unfold process
      simp only
      split_ifs with greets
      · rw [greets] at lacks
        obtain ⟨fault, thrown⟩ := hello_fails (s := s) lacks c
        exact ⟨fault, c, thrown⟩
      · rw [layout_unknown greets] at lacks
        obtain ⟨fault, thrown⟩ := handleAdminMsg_fails (s := s) F lacks
          { c with conns := c.conns.insert s .admin }
        exact ⟨fault, _, thrown⟩
  | worker =>
      obtain ⟨fault, thrown⟩ := handleWorkerMsg_fails
        ⟨(c.connWorker.insertIfNew s 0).getD s 0⟩ lacks
        { c with connWorker := c.connWorker.insertIfNew s 0 }
      exact ⟨fault, _, thrown⟩
  | admin =>
      obtain ⟨fault, thrown⟩ := handleAdminMsg_fails (s := s) F lacks c
      exact ⟨fault, c, thrown⟩

theorem get_bind {β : Type} (next : Coordinator → CoordinatorM β) (c : Coordinator) :
    ((get : CoordinatorM Coordinator) >>= next) c = next c c :=
  rfl

/-- A connection that is over is forgotten, and with it the registration of its worker. -/
theorem closeConn_eq (c : Coordinator) :
    ∃ c', closeConn s c = .ok () c' ∧ c'.conns = c.conns.erase s ∧ c'.running = c.running ∧
      (c'.engine = c.engine ∨ ∃ worker, c.connWorker[s]? = some worker ∧
        c'.engine = c.engine.step (.markWorkerLost ⟨worker⟩)) := by
  unfold closeConn
  rw [get_bind]
  cases known : c.connWorker[s]? with
  | none => exact ⟨_, rfl, rfl, rfl, Or.inl rfl⟩
  | some worker => exact ⟨_, rfl, rfl, rfl, Or.inr ⟨worker, rfl, rfl⟩⟩

end Handlers

end Coordinator

/-! ## The bytes of a peer -/

open Coordinator (layout IsShutdown)

/-- The next bytes are a frame, whose payload begins as the role of the connection asks. -/
structure Message (role : Role) (bytes : List UInt8) (type : FrameType)
    (payload rest : List UInt8) : Prop where
  framed : bytes = frameBytes type payload ++ rest
  bound : payload.length ≤ kMaxPayload
  fields : payload ∈ layout role type * ⊤

/-- A message is next, or the connection is over before the next frame is complete. -/
inductive Orderly (role : Role) (s : Stream) : Prop
  | message {type : FrameType} {payload rest : List UInt8}
      (next : Message role s.bytes type payload rest)
  | gone (short : Short s.bytes) (ended : s.ending ≠ .silent)

namespace Message

variable {role : Role} {bytes : List UInt8} {type : FrameType} {payload rest : List UInt8}

theorem isFramed (next : Message role bytes type payload rest) :
    Framed bytes type payload rest :=
  ⟨next.framed, next.bound⟩

/-- The bytes decide what the frame is. -/
theorem decodes (next : Message role bytes type payload rest) {data more : List UInt8}
    (split : bytes = data ++ more)
    (complete : data.length = kHeaderSize + declaredLength bytes) :
    decode data = .ok ⟨type, payload, crc32 payload⟩ :=
  decode_eq_ok_iff.mpr ⟨next.bound, rfl, (next.isFramed.split split complete).1⟩

end Message

/-- The frame reader returns, and a frame that it returns can be handled. -/
def Survives (role : Role) : Turn (RecvResult × Stream) → Prop
  | .returns (.ok frame, _) => frame.payload ∈ layout role frame.type * ⊤
  | .returns _ => True
  | .throws _ => False
  | .blocks => False
  | .signalled => False

theorem orderly_iff_survives {role : Role} {s : Stream} {turn : Turn (RecvResult × Stream)}
    (outcome : FrameOutcome s turn) : Orderly role s ↔ Survives role turn := by
  cases outcome with
  | gone ended short lost =>
      refine iff_of_true (.gone short ended) ?_
      rcases lost with rfl | rfl <;> trivial
  | stuck silent short =>
      refine iff_of_false ?_ id
      rintro (next | ⟨-, ended⟩)
      · exact next.isFramed.not_short short
      · exact ended silent
  | tooLarge headed large =>
      refine iff_of_false ?_ id
      rintro (next | ⟨headless | ⟨small, -⟩, -⟩)
      · have declares := next.isFramed.declares
        have bound := next.bound
        omega
      · omega
      · omega
  | malformed advances complete refused =>
      refine iff_of_false ?_ id
      rintro (next | ⟨headless | ⟨-, cut⟩, -⟩)
      · rw [next.decodes advances.bytes complete] at refused
        cases refused
      all_goals
        have split := congrArg List.length advances.bytes
        rw [List.length_append] at split
        omega
  | @received frame data rest advances decoded =>
      obtain ⟨bound, checked, rfl⟩ := decode_eq_ok_iff.mp decoded
      have framed : Framed s.bytes frame.type frame.payload rest.bytes :=
        ⟨advances.bytes, bound⟩
      constructor
      · rintro (next | ⟨short, -⟩)
        · have complete : (frameBytes frame.type frame.payload).length =
              kHeaderSize + declaredLength s.bytes := by
            rw [length_frameBytes, framed.declares]
          have same := next.decodes advances.bytes complete
          rw [decoded] at same
          cases same
          exact next.fields
        · exact (framed.not_short short).elim
      · intro fields
        exact .message ⟨advances.bytes, bound, fields⟩

/-! ## One turn -/

/-- What a turn of a connection may come to. -/
inductive Effect (l : MainLoop) (s : Socket) (l' : MainLoop) : Prop
  | idle (coordinator : l'.coordinator = l.coordinator) (streams : l'.streams = l.streams)
  | closed (ended : (l.streams s).ending ≠ .silent)
      (conns : l'.coordinator.conns = l.coordinator.conns.erase s)
      (running : l'.coordinator.running = l.coordinator.running)
      (engine : l'.coordinator.engine = l.coordinator.engine ∨
        ∃ worker, l.coordinator.connWorker[s]? = some worker ∧
          l'.coordinator.engine = l.coordinator.engine.step (.markWorkerLost ⟨worker⟩))
  | handled {role : Role} {type : FrameType} {payload : List UInt8}
      (registered : l.coordinator.conns[s]? = some role)
      (next : Message role (l.streams s).bytes type payload (l'.streams s).bytes)
      (running : role ≠ .worker ∧ IsShutdown payload ∨
        l'.coordinator.running = l.coordinator.running)

/-- A turn that concerns its own connection only. -/
structure Contained (l : MainLoop) (s : Socket) (l' : MainLoop) : Prop where
  conns : ∀ other, other ≠ s → l'.coordinator.conns[other]? = l.coordinator.conns[other]?
  streams : ∀ other, other ≠ s → l'.streams other = l.streams other
  effect : Effect l s l'

section Turn

variable {F : Type} [ScoreArith F] {l : MainLoop} {s : Socket} {arrived : Bool} {role : Role}

theorem turn_of_recvFrame (registered : l.coordinator.conns[s]? = some role)
    {result : RecvResult} {rest : Stream}
    (received : recvFrame (l.streams s) arrived = .returns (result, rest)) :
    l.turn F s arrived =
      match Coordinator.process F s role result l.coordinator with
      | .error fault _ => .throws fault
      | .ok _ c => .returns
          { coordinator := c, streams := Function.update l.streams s rest, visited := s } := by
  unfold MainLoop.turn
  rw [registered]
  simp only [received, Turn.returns_bind]
  rfl

/-- A turn on an orderly stream is contained. -/
theorem turn_of_orderly (registered : l.coordinator.conns[s]? = some role)
    (orderly : waitReadable (l.streams s) arrived = true → Orderly role (l.streams s)) :
    ∃ l', l.turn F s arrived = .returns l' ∧ Contained l s l' := by
  have elsewhere : ∀ (rest : Stream) (other : Socket), other ≠ s →
      Function.update l.streams s rest other = l.streams other :=
    fun rest other differs => Function.update_of_ne differs rest l.streams
  cases readable : waitReadable (l.streams s) arrived with
  | false =>
      have received : recvFrame (l.streams s) arrived = .returns (.timeout, l.streams s) := by
        rw [recvFrame, readable]
        rfl
      refine ⟨{ l with visited := s }, ?_, fun _ _ => rfl, fun _ _ => rfl, .idle rfl rfl⟩
      rw [turn_of_recvFrame registered received, Function.update_eq_self]
      rfl
  | true =>
      have outcome := recvFrame_outcome readable
      have survives := (orderly_iff_survives outcome).mp (orderly readable)
      generalize received : recvFrame (l.streams s) arrived = turn at outcome survives
      cases outcome with
      | @gone result rest ended short lost =>
          obtain ⟨c, closed, conns, running, engine⟩ :=
            Coordinator.closeConn_eq (s := s) l.coordinator
          have returned : l.turn F s arrived = .returns
              { coordinator := c, streams := Function.update l.streams s rest, visited := s } := by
            rw [turn_of_recvFrame registered received]
            rcases lost with rfl | rfl <;> simp only [Coordinator.process, closed]
          refine ⟨_, returned, ?_, elsewhere rest, .closed ended conns running engine⟩
          intro other differs
          show c.conns[other]? = _
          rw [conns, Coordinator.lookup_erase_conns _ differs]
      | stuck => exact survives.elim
      | tooLarge => exact survives.elim
      | malformed => exact survives.elim
      | @received frame data rest advances decoded =>
          obtain ⟨bound, -, rfl⟩ := decode_eq_ok_iff.mp decoded
          have handles : Throws (Confined s (role ≠ .worker ∧ IsShutdown frame.payload))
              (fun _ : Fault => False) (Coordinator.process F s role (.ok frame)) :=
            Coordinator.process_throws F survives fun privileged shuts => ⟨privileged, shuts⟩
          obtain ⟨_, c, handled, confined⟩ := handles.returns l.coordinator
          refine ⟨{ coordinator := c, streams := Function.update l.streams s rest, visited := s },
            ?_, confined.others, elsewhere rest, .handled registered ⟨?_, bound, survives⟩
            confined.running⟩
          · rw [turn_of_recvFrame registered received, handled]
          · show _ = _ ++ (Function.update l.streams s rest s).bytes
            rw [Function.update_self]
            exact advances.bytes

/-- A turn that returns had an orderly stream. -/
theorem orderly_of_turn (registered : l.coordinator.conns[s]? = some role)
    {l' : MainLoop} (returned : l.turn F s arrived = .returns l')
    (readable : waitReadable (l.streams s) arrived = true) : Orderly role (l.streams s) := by
  have outcome := recvFrame_outcome readable
  refine (orderly_iff_survives outcome).mpr ?_
  cases received : recvFrame (l.streams s) arrived with
  | throws fault =>
      simp [MainLoop.turn, registered, received] at returned
  | blocks =>
      simp [MainLoop.turn, registered, received] at returned
  | signalled =>
      simp [MainLoop.turn, registered, received] at returned
  | returns both =>
      obtain ⟨result, rest⟩ := both
      cases result with
      | timeout => trivial
      | closed => trivial
      | err => trivial
      | ok frame =>
          by_contra lacks
          obtain ⟨fault, c, thrown⟩ :=
            Coordinator.process_fails (s := s) F lacks l.coordinator
          rw [turn_of_recvFrame registered received, thrown] at returned
          cases returned

end Turn

end DPUFabric
