import DPUFabric.HostileBytes
import DPUFabric.RoundTrip

/-!
# What a turn of the main loop does

`Dispatched` says once what a turn that returns has done to the coordinator: which
calls it made of the engine, what it noted about its connections, and which frames
it sent.  Every invariant of the loop is read off this relation.

An administrator's frame is answered by exactly one `RESULT`.  A reply that cannot be
written throws before it sends anything, and the handler's own reply then takes its
place.
-/

namespace DPUFabric

open Std
open Exceptions
open Codec
open DPUFabric.Wire
open DPUFabric.Persistence
open DPUFabric.Proto
open DPUFabric.Mp
open DPUFabric.Mpproto

/-! ## The frames of the coordinator -/

theorem Wire.u64_writes_le64 (v : UInt64) : Writes (Writer.u64 v) (le64 v) True := by
  have square : 256 ^ 4 = 2 ^ 32 := by norm_num
  have halves : le32 (v &&& 0xFFFFFFFF).toUInt32 ++ le32 ((v >>> 32) &&& 0xFFFFFFFF).toUInt32 =
      le64 v := by
    refine littleEndian_injective (by rw [length_le64]; rfl) ?_
    rw [littleEndian_append, littleEndian_le32, littleEndian_le32, length_le32, square, halves64,
      littleEndian_le64]
  have both := (u32_writes_le32 (v &&& 0xFFFFFFFF).toUInt32).bind
    (u32_writes_le32 ((v >>> 32) &&& 0xFFFFFFFF).toUInt32)
  rw [and_true, halves] at both
  exact both

theorem Wire.str_writes_prefixed (s : Text) :
    Writes (Writer.str s) (prefixed s) (s.length ≤ kMaxStringBytes) where
  appends := by
    intro short buffer
    rw [Writer.str, if_neg (by omega)]
    exact ((u32_writes_le32 _).bind (raw_writes s)).appends ⟨trivial, trivial⟩ buffer
  throws := by
    intro long buffer
    rw [Writer.str, if_pos (by omega)]
    exact ⟨_, _, rfl⟩

/-- What acknowledges a `HELLO`. -/
def ackFrame (epoch : CoordinatorEpoch) : List UInt8 :=
  frameBytes (.declared .ack) (le64 epoch.value ++ [1])

/-- The payload of a `RESULT`. -/
def resultPayload (cmdId : UInt64) (ok : Bool) (message : Text) : List UInt8 :=
  le64 cmdId ++ ([if ok then 1 else 0] ++ prefixed message)

def resultFrame (cmdId : UInt64) (ok : Bool) (message : Text) : List UInt8 :=
  frameBytes (.declared .result) (resultPayload cmdId ok message)

/-- The payload of a `COMMAND` for a worker. -/
def commandPayload (cmdId : UInt64) (action : Text) : List UInt8 :=
  le64 cmdId ++ prefixed action

def commandFrame (cmdId : UInt64) (action : Text) : List UInt8 :=
  frameBytes (.declared .command) (commandPayload cmdId action)

theorem length_prefixed (s : Text) : (prefixed s).length = 4 + s.length := by
  rw [prefixed, List.length_append, length_le32]

theorem length_resultPayload (cmdId : UInt64) (ok : Bool) (message : Text) :
    (resultPayload cmdId ok message).length = 13 + message.length := by
  simp only [resultPayload, List.length_append, length_le64, length_prefixed, List.length_singleton]
  omega

theorem length_commandPayload (cmdId : UInt64) (action : Text) :
    (commandPayload cmdId action).length = 12 + action.length := by
  simp only [commandPayload, List.length_append, length_le64, length_prefixed]
  omega

namespace Coordinator

/-! ## Steps of a handler, on one state -/

section Steps

variable {α : Type} {c : Coordinator}

theorem modify_bind (change : Coordinator → Coordinator) (next : Unit → CoordinatorM α) :
    (modify change >>= next) c = next () (change c) :=
  rfl

theorem compose_of_fits {write : WriterM Unit} {code : List UInt8} {fits : Prop}
    (writes : Writes write code fits) (fit : fits) : compose write c = .ok code c := by
  simp [compose, writes.appends fit []]

theorem writeFrame_of_short {s : Socket} (type : MsgType) {payload : List UInt8}
    (bound : payload.length ≤ kMaxPayload) :
    writeFrame s type payload c =
      .ok () { c with sent := c.sent ++ [(s, frameBytes (.declared type) payload)] } := by
  rw [writeFrame, encode_eq _ bound]

theorem catching_of_ok {body : CoordinatorM α} {handler : DpuError → CoordinatorM α} {value : α}
    {c' : Coordinator} (returned : body c = .ok value c') :
    catching body handler c = .ok value c' := by
  simp only [catching, returned]

theorem catching_of_error {body : CoordinatorM α} {handler : DpuError → CoordinatorM α}
    {error : DpuError} {c' : Coordinator} (thrown : body c = .error (.thrown error) c') :
    catching body handler c = handler error c' := by
  simp only [catching, thrown]

theorem parse_eq_ok {read : ReaderM α} {payload rest : List UInt8} {value : α}
    (returned : read payload = .ok value rest) :
    parse read payload c = .ok (value, rest) c := by
  simp only [parse, returned]

theorem parse_eq_error {read : ReaderM α} {payload rest : List UInt8} {fault : Fault}
    (thrown : read payload = .error fault rest) : parse read payload c = .error fault c := by
  simp only [parse, thrown]

theorem engineCall_of_ok {call : EngineM α} {value : α} {e : Engine}
    (returned : call c.engine = .ok value e) :
    engineCall call c = .ok value { c with engine := e } := by
  simp only [engineCall, returned]

theorem engineCall_of_error {call : EngineM α} {fault : Fault} {e : Engine}
    (thrown : call c.engine = .error fault e) :
    engineCall call c = .error fault { c with engine := e } := by
  simp only [engineCall, thrown]

end Steps

/-! ## Replies -/

/-- The state after a reply. -/
def replied (c : Coordinator) (s : Socket) (cmdId : UInt64) (ok : Bool) (message : Text) :
    Coordinator :=
  { c with sent := c.sent ++ [(s, resultFrame cmdId ok message)] }

theorem result_writes (cmdId : UInt64) (ok : Bool) (message : Text) :
    Writes (do
        Writer.u64 cmdId
        Writer.u8 (if ok then 1 else 0)
        Writer.str message)
      (resultPayload cmdId ok message) (message.length ≤ kMaxStringBytes) := by
  have fields := (u64_writes_le64 cmdId).bind <|
    (u8_writes (if ok then 1 else 0)).bind (str_writes_prefixed message)
  rw [true_and, true_and] at fields
  exact fields

theorem reply_of_short {s : Socket} {cmdId : UInt64} {ok : Bool} {message : Text}
    (short : message.length ≤ kMaxStringBytes) (c : Coordinator) :
    reply s cmdId ok message c = .ok () (c.replied s cmdId ok message) := by
  have bound : (resultPayload cmdId ok message).length ≤ kMaxPayload := by
    have limit : 13 + kMaxStringBytes ≤ kMaxPayload := by decide
    rw [length_resultPayload]
    omega
  rw [reply, bind_of_ok (compose_of_fits (result_writes cmdId ok message) short)]
  exact catching_of_ok (writeFrame_of_short .result bound)

theorem reply_of_long {s : Socket} {cmdId : UInt64} {ok : Bool} {message : Text}
    (long : kMaxStringBytes < message.length) (c : Coordinator) :
    reply s cmdId ok message c =
      .error (.error .invalidArgument "string too long to encode") c := by
  have refused : compose (do
      Writer.u64 cmdId
      Writer.u8 (if ok then 1 else 0)
      Writer.str message) c = .error (.error .invalidArgument "string too long to encode") c := by
    rw [compose, bind_of_ok ((u64_writes_le64 cmdId).appends trivial []),
      bind_of_ok ((u8_writes (if ok then 1 else 0)).appends trivial _), Writer.str, if_pos long]
    rfl
  rw [reply, bind_of_error refused]

/-! ## Commands -/

/-- The state after `commandWorker`. -/
def commanded (c : Coordinator) (dev : DeviceId) : Coordinator :=
  match c.engine.snap.devices[dev]? with
  | none => c
  | some device =>
      match c.sockByWorker[device.owningWorker.value]? with
      | none => c
      | some sock =>
          { c with
            sent := c.sent ++ [(sock, commandFrame c.cmdSeq (text "ACTIVATE"))]
            pending := c.pending.insert c.cmdSeq (text "ACTIVATE")
            cmdSeq := c.cmdSeq + 1 }

theorem command_writes (cmdId : UInt64) :
    Writes (do
        Writer.u64 cmdId
        Writer.str (text "ACTIVATE"))
      (commandPayload cmdId (text "ACTIVATE")) True := by
  have fields := (u64_writes_le64 cmdId).bind (str_writes_prefixed (text "ACTIVATE"))
  have short : (text "ACTIVATE").length ≤ kMaxStringBytes := by decide
  rw [true_and, iff_true_intro short] at fields
  exact fields

theorem commandWorker_eq (dev : DeviceId) (c : Coordinator) :
    commandWorker dev c = .ok () (c.commanded dev) := by
  unfold commandWorker commanded
  rw [get_bind]
  cases c.engine.snap.devices[dev]? with
  | none => rfl
  | some device =>
      simp only
      cases c.sockByWorker[device.owningWorker.value]? with
      | none => rfl
      | some sock =>
          have bound : (commandPayload c.cmdSeq (text "ACTIVATE")).length ≤ kMaxPayload := by
            rw [length_commandPayload]
            decide
          simp only
          rw [bind_of_ok (compose_of_fits (command_writes c.cmdSeq) trivial)]
          refine catching_of_ok ?_
          rw [bind_of_ok (writeFrame_of_short .command bound)]
          rfl

/-! ## Administrators -/

/-- The reply to a deployment. -/
def deployedText (dep : DeploymentId) (dev : DeviceId) : Text :=
  text "dep=" ++ dep.encode ++ text " device=" ++ dev.encode

/-- What the handler of an administrator's frame may come to. -/
inductive AdminOutcome (F : Type) [ScoreArith F] (s : Socket) (payload : List UInt8)
    (c : Coordinator) : Coordinator → Prop
  | status {cmdId : UInt64} {ahead : List UInt8}
      (read : readCommand payload = .ok (cmdId, Enumerator.code Cmd.status) ahead)
      (short : c.engine.describe.length ≤ kMaxStringBytes) :
      AdminOutcome F s payload c (c.replied s cmdId true c.engine.describe)
  | statusTooLong {cmdId : UInt64} {ahead : List UInt8}
      (read : readCommand payload = .ok (cmdId, Enumerator.code Cmd.status) ahead)
      (long : kMaxStringBytes < c.engine.describe.length) :
      AdminOutcome F s payload c
        (c.replied s cmdId false (text "string too long to encode"))
  | badTarget {cmdId : UInt64} {ahead rest : List UInt8} {error : DpuError}
      (read : readCommand payload = .ok (cmdId, Enumerator.code Cmd.createDeployment) ahead)
      (thrown : readTarget ahead = .error (.thrown error) rest) :
      AdminOutcome F s payload c (c.replied s cmdId false (text error.detail))
  | failed {cmdId : UInt64} {ahead rest : List UInt8} {sid : ServiceId}
      {oc : RawEnum OffloadClass} {error : DpuError} {e : Engine}
      (read : readCommand payload = .ok (cmdId, Enumerator.code Cmd.createDeployment) ahead)
      (target : readTarget ahead = .ok (sid, oc) rest)
      (thrown : Engine.createDeployment F (deploymentRequest sid oc) c.engine =
        .error (.thrown error) e) :
      AdminOutcome F s payload c
        ({ c with engine := e }.replied s cmdId false (text error.detail))
  | rejected {cmdId : UInt64} {ahead rest : List UInt8} {sid : ServiceId}
      {oc : RawEnum OffloadClass} {e : Engine}
      (read : readCommand payload = .ok (cmdId, Enumerator.code Cmd.createDeployment) ahead)
      (target : readTarget ahead = .ok (sid, oc) rest)
      (created : Engine.createDeployment F (deploymentRequest sid oc) c.engine = .ok none e) :
      AdminOutcome F s payload c
        ({ c with engine := e }.replied s cmdId false (text "REJECTED_NO_DEVICE"))
  | deployed {cmdId : UInt64} {ahead rest : List UInt8} {sid : ServiceId}
      {oc : RawEnum OffloadClass} {dep : DeploymentId} {dev : DeviceId} {e : Engine}
      (read : readCommand payload = .ok (cmdId, Enumerator.code Cmd.createDeployment) ahead)
      (target : readTarget ahead = .ok (sid, oc) rest)
      (created : Engine.createDeployment F (deploymentRequest sid oc) c.engine =
        .ok (some (dep, dev)) e) :
      AdminOutcome F s payload c
        (({ c with engine := e }.replied s cmdId true (deployedText dep dev)).commanded dev)
  | shutdown {cmdId : UInt64} {ahead : List UInt8}
      (read : readCommand payload = .ok (cmdId, Enumerator.code Cmd.shutdown) ahead) :
      AdminOutcome F s payload c
        { c.replied s cmdId true (text "SHUTDOWN_OK") with running := false }
  | unknown {cmdId : UInt64} {ctype : UInt8} {ahead : List UInt8}
      (read : readCommand payload = .ok (cmdId, ctype) ahead)
      (status : ctype ≠ Enumerator.code Cmd.status)
      (create : ctype ≠ Enumerator.code Cmd.createDeployment)
      (shutdown : ctype ≠ Enumerator.code Cmd.shutdown) :
      AdminOutcome F s payload c (c.replied s cmdId false (text "UNKNOWN_CMD"))

section Administrators

variable {F : Type} [ScoreArith F] {s : Socket} {f : Frame} {c c' : Coordinator}

theorem length_encode {tag : IdTag} (id : Id tag) : id.encode.length = 16 := by
  rw [id.encode_spells.length_eq, Numeral.length_lastDigits]

/-- Two identities and their labels are a short reply. -/
theorem deployedText_short (dep : DeploymentId) (dev : DeviceId) :
    (deployedText dep dev).length ≤ kMaxStringBytes := by
  simp only [deployedText, List.length_append, length_encode]
  decide

theorem eq_of_reply_ok {cmdId : UInt64} {ok : Bool} {message : Text}
    (returned : reply s cmdId ok message c = .ok () c') : c' = c.replied s cmdId ok message := by
  by_cases short : message.length ≤ kMaxStringBytes
  · rw [reply_of_short short] at returned
    cases returned
    rfl
  · rw [reply_of_long (by omega)] at returned
    cases returned

/-- A caught block returned, or it threw and the handler returned. -/
theorem catching_eq_ok {α : Type} {body : CoordinatorM α} {handler : DpuError → CoordinatorM α}
    {value : α} (returned : catching body handler c = .ok value c') :
    body c = .ok value c' ∨
      ∃ error middle, body c = .error (.thrown error) middle ∧
        handler error middle = .ok value c' := by
  unfold catching at returned
  cases result : body c with
  | ok value' final =>
      rw [result] at returned
      exact Or.inl returned
  | error fault middle =>
      rw [result] at returned
      cases fault with
      | thrown error => exact Or.inr ⟨error, middle, rfl, returned⟩
      | undefinedBehavior => cases returned

/-- A `CREATE_DEPLOYMENT`, once the target is read and the pipeline has run. -/
theorem adminCommand_create {cmdId : UInt64} {ahead rest : List UInt8} {sid : ServiceId}
    {oc : RawEnum OffloadClass} (target : readTarget ahead = .ok (sid, oc) rest) :
    (∀ fault e, Engine.createDeployment F (deploymentRequest sid oc) c.engine = .error fault e →
      adminCommand F s cmdId (Enumerator.code Cmd.createDeployment) ahead c =
        .error fault { c with engine := e }) ∧
    (∀ e, Engine.createDeployment F (deploymentRequest sid oc) c.engine = .ok none e →
      adminCommand F s cmdId (Enumerator.code Cmd.createDeployment) ahead c =
        .ok () ({ c with engine := e }.replied s cmdId false (text "REJECTED_NO_DEVICE"))) ∧
    ∀ dep dev e,
      Engine.createDeployment F (deploymentRequest sid oc) c.engine = .ok (some (dep, dev)) e →
      adminCommand F s cmdId (Enumerator.code Cmd.createDeployment) ahead c =
        .ok () (({ c with engine := e }.replied s cmdId true
          (deployedText dep dev)).commanded dev) := by
  have other : Enumerator.code Cmd.createDeployment ≠ Enumerator.code Cmd.status := by decide
  unfold adminCommand
  rw [if_neg other, if_pos rfl, bind_of_ok (parse_eq_ok target)]
  dsimp only
  refine ⟨?_, ?_, ?_⟩
  · intro fault e created
    exact bind_of_error (engineCall_of_error created)
  · intro e created
    have short : (text "REJECTED_NO_DEVICE").length ≤ kMaxStringBytes := by decide
    rw [bind_of_ok (engineCall_of_ok created)]
    exact reply_of_short short _
  · intro dep dev e created
    rw [bind_of_ok (engineCall_of_ok created)]
    exact (bind_of_ok (reply_of_short (deployedText_short dep dev) _)).trans
      (commandWorker_eq dev _)

theorem createCommand_outcome {cmdId : UInt64} {ahead : List UInt8}
    (read : readCommand f.payload = .ok (cmdId, Enumerator.code Cmd.createDeployment) ahead)
    (handled : catching (adminCommand F s cmdId (Enumerator.code Cmd.createDeployment) ahead)
      (fun error => reply s cmdId false (text error.detail)) c = .ok () c') :
    AdminOutcome F s f.payload c c' := by
  cases target : readTarget ahead with
  | error fault rest =>
      have failed : adminCommand F s cmdId (Enumerator.code Cmd.createDeployment) ahead c =
          .error fault c := by
        have other : Enumerator.code Cmd.createDeployment ≠ Enumerator.code Cmd.status := by decide
        rw [adminCommand, if_neg other, if_pos rfl, bind_of_error (parse_eq_error target)]
      rcases catching_eq_ok handled with returned | ⟨error, middle, thrown, answered⟩
      · rw [failed] at returned
        cases returned
      · rw [failed] at thrown
        cases thrown
        rw [eq_of_reply_ok answered]
        exact .badTarget read target
  | ok found rest =>
  obtain ⟨sid, oc⟩ := found
  have run := @adminCommand_create F _ s c cmdId ahead rest sid oc target
  obtain ⟨fails, rejects, deploys⟩ := run
  cases created : Engine.createDeployment F (deploymentRequest sid oc) c.engine with
  | error fault e =>
      rcases catching_eq_ok handled with returned | ⟨error, middle, thrown, answered⟩
      · rw [fails fault e created] at returned
        cases returned
      · rw [fails fault e created] at thrown
        cases thrown
        rw [eq_of_reply_ok answered]
        exact .failed read target created
  | ok result e =>
      cases result with
      | none =>
          rw [catching_of_ok (rejects e created)] at handled
          cases handled
          exact .rejected read target created
      | some deployed =>
          rw [catching_of_ok (deploys _ _ e created)] at handled
          cases handled
          exact .deployed read target created

theorem handleAdminMsg_outcome (handled : handleAdminMsg F s f c = .ok () c') :
    AdminOutcome F s f.payload c c' := by
  unfold handleAdminMsg at handled
  cases read : readCommand f.payload with
  | error fault rest =>
      rw [bind_of_error (parse_eq_error read)] at handled
      cases handled
  | ok command ahead =>
  obtain ⟨cmdId, ctype⟩ := command
  rw [bind_of_ok (parse_eq_ok read)] at handled
  dsimp only at handled
  by_cases status : ctype = Enumerator.code Cmd.status
  · subst status
    unfold adminCommand at handled
    rw [if_pos rfl] at handled
    rcases catching_eq_ok handled with returned | ⟨error, middle, thrown, answered⟩
    · rw [get_bind] at returned
      by_cases short : c.engine.describe.length ≤ kMaxStringBytes
      · rw [eq_of_reply_ok returned]
        exact .status read short
      · rw [reply_of_long (by omega)] at returned
        cases returned
    · rw [get_bind] at thrown
      by_cases short : c.engine.describe.length ≤ kMaxStringBytes
      · rw [reply_of_short short] at thrown
        cases thrown
      · rw [reply_of_long (by omega)] at thrown
        cases thrown
        rw [eq_of_reply_ok answered]
        exact .statusTooLong read (by omega)
  by_cases create : ctype = Enumerator.code Cmd.createDeployment
  · subst create
    exact createCommand_outcome read handled
  unfold adminCommand at handled
  rw [if_neg status, if_neg create] at handled
  split_ifs at handled with shutdown
  · subst shutdown
    have short : (text "SHUTDOWN_OK").length ≤ kMaxStringBytes := by decide
    rcases catching_eq_ok handled with returned | ⟨error, middle, thrown, -⟩
    · rw [bind_of_ok (reply_of_short short c)] at returned
      cases returned
      exact .shutdown read
    · rw [bind_of_ok (reply_of_short short c)] at thrown
      cases thrown
  · have short : (text "UNKNOWN_CMD").length ≤ kMaxStringBytes := by decide
    rw [catching_of_ok (reply_of_short short c)] at handled
    cases handled
    exact .unknown read status create shutdown

end Administrators

/-! ## Workers -/

/-- What the handler of a worker's frame may come to. -/
inductive WorkerOutcome (wid : WorkerId) (f : Frame) (c : Coordinator) : Coordinator → Prop
  | device {dev : DeviceRecord} {ahead : List UInt8}
      (type : f.type = .declared .registerDevice)
      (read : getDevice f.payload = .ok dev ahead) :
      WorkerOutcome wid f c
        { c with engine := Engine.after (registerOrUpdate c (ownedBy c wid dev)) c.engine }
  | evidence {did : DeviceId} {eg : EvidenceGeneration} {fresh : Bool} {ahead : List UInt8}
      {known : DeviceRecord} (type : f.type = .declared .publishEvidence)
      (read : readEvidence f.payload = .ok (did, eg, fresh) ahead)
      (present : c.engine.snap.devices[did]? = some known) :
      WorkerOutcome wid f c
        { c with engine := Engine.after (Engine.updateDevice (withEvidence known eg fresh)) c.engine }
  | evidenceUnknown {did : DeviceId} {eg : EvidenceGeneration} {fresh : Bool} {ahead : List UInt8}
      (type : f.type = .declared .publishEvidence)
      (read : readEvidence f.payload = .ok (did, eg, fresh) ahead)
      (absent : c.engine.snap.devices[did]? = none) : WorkerOutcome wid f c c
  | result {cid : UInt64} {ok : UInt8} {detail : Text} {ahead : List UInt8}
      (type : f.type = .declared .result)
      (read : readResult f.payload = .ok (cid, ok, detail) ahead) :
      WorkerOutcome wid f c { c with pending := c.pending.erase cid }
  | ignored (device : f.type ≠ .declared .registerDevice)
      (evidence : f.type ≠ .declared .publishEvidence) (result : f.type ≠ .declared .result) :
      WorkerOutcome wid f c c

section Workers

variable {s : Socket} {f : Frame} {c c' : Coordinator}

/-- A call whose error is dropped. -/
theorem swallowed_eq {α : Type} {call : EngineM α}
    (returned : catching (discard (engineCall call)) (fun _ => return) c = .ok () c') :
    c' = { c with engine := Engine.after call c.engine } := by
  cases result : call c.engine with
  | ok value e =>
      have quiet : discard (engineCall call) c = .ok PUnit.unit { c with engine := e } :=
        bind_of_ok (engineCall_of_ok result)
      rw [catching_of_ok quiet] at returned
      cases returned
      simp only [Engine.after, result]
  | error fault e =>
      have failed : discard (engineCall call) c = .error fault { c with engine := e } :=
        bind_of_error (engineCall_of_error result)
      rcases catching_eq_ok returned with done | ⟨error, middle, thrown, done⟩
      · rw [failed] at done
        cases done
      · rw [failed] at thrown
        cases thrown
        cases done
        simp only [Engine.after, result]

theorem handleWorkerMsg_outcome {wid : WorkerId} (handled : handleWorkerMsg f wid c = .ok () c') :
    WorkerOutcome wid f c c' := by
  obtain ⟨type, payload, checksum⟩ := f
  unfold handleWorkerMsg at handled
  cases type with
  | undeclared code outside =>
      cases handled
      exact .ignored (by simp) (by simp) (by simp)
  | declared type =>
  cases type with
  | registerDevice =>
      dsimp only at handled
      cases read : getDevice payload with
      | error fault rest =>
          rw [bind_of_error (parse_eq_error read)] at handled
          cases handled
      | ok dev ahead =>
          rw [bind_of_ok (parse_eq_ok read)] at handled
          dsimp only at handled
          rw [get_bind] at handled
          rw [swallowed_eq handled]
          exact .device rfl read
  | publishEvidence =>
      dsimp only at handled
      cases read : readEvidence payload with
      | error fault rest =>
          rw [bind_of_error (parse_eq_error read)] at handled
          cases handled
      | ok evidence ahead =>
          obtain ⟨did, eg, fresh⟩ := evidence
          rw [bind_of_ok (parse_eq_ok read)] at handled
          dsimp only at handled
          rw [get_bind] at handled
          cases present : c.engine.snap.devices[did]? with
          | none =>
              rw [present] at handled
              cases handled
              exact .evidenceUnknown rfl read present
          | some known =>
              rw [present] at handled
              rw [swallowed_eq handled]
              exact .evidence rfl read present
  | result =>
      dsimp only at handled
      cases read : readResult payload with
      | error fault rest =>
          rw [bind_of_error (parse_eq_error read)] at handled
          cases handled
      | ok answer ahead =>
          obtain ⟨cid, ok, detail⟩ := answer
          rw [bind_of_ok (parse_eq_ok read)] at handled
          cases handled
          exact .result rfl read
  | _ =>
      cases handled
      exact .ignored (by simp) (by simp) (by simp)

end Workers

/-! ## A turn -/

/-- The state after the end of a connection. -/
def withoutConn (c : Coordinator) (s : Socket) : Coordinator :=
  match c.connWorker[s]? with
  | none => { c with connWorker := c.connWorker.erase s, conns := c.conns.erase s }
  | some worker =>
      { c with
        engine := c.engine.step (.markWorkerLost ⟨worker⟩)
        sockByWorker := c.sockByWorker.erase worker
        connWorker := c.connWorker.erase s
        conns := c.conns.erase s }

/-- The state after a `HELLO` that the engine has accepted. -/
def greeted (c : Coordinator) (s : Socket) (wk : UInt64) (e : Engine) : Coordinator :=
  { c with
    engine := e
    conns := c.conns.insert s .worker
    connWorker := c.connWorker.insert s wk
    sockByWorker := c.sockByWorker.insert wk s
    sent := c.sent ++ [(s, ackFrame e.snap.epoch)] }

/-- The first frame of an administrator decides its role. -/
def asAdmin (c : Coordinator) (s : Socket) : Role → Coordinator
  | .unknown => { c with conns := c.conns.insert s .admin }
  | _ => c

/-- What a turn of a connection has done, by its role and by what was received. -/
inductive Dispatched (F : Type) [ScoreArith F] (s : Socket) (c : Coordinator) :
    Role → RecvResult → Coordinator → Prop
  | idle {role : Role} : Dispatched F s c role .timeout c
  | closed {role : Role} {result : RecvResult} (lost : result = .closed ∨ result = .err) :
      Dispatched F s c role result (c.withoutConn s)
  | greeted {f : Frame} {wk boot : UInt64} {label : Text} {ahead : List UInt8} {e : Engine}
      (greets : f.type = .declared .hello)
      (read : decodeHello f.payload = .ok (wk, boot, label) ahead)
      (registered : Engine.registerWorker ⟨wk⟩ ⟨boot⟩ c.engine = .ok () e) :
      Dispatched F s c .unknown (.ok f) (c.greeted s wk e)
  | refused {f : Frame} {wk boot : UInt64} {label : Text} {ahead : List UInt8} {fault : Fault}
      {e : Engine} (greets : f.type = .declared .hello)
      (read : decodeHello f.payload = .ok (wk, boot, label) ahead)
      (thrown : Engine.registerWorker ⟨wk⟩ ⟨boot⟩ c.engine = .error fault e) :
      Dispatched F s c .unknown (.ok f) { c with engine := e, conns := c.conns.erase s }
  | admin {role : Role} {f : Frame} {c' : Coordinator}
      (privileged : role = .admin ∨ role = .unknown ∧ f.type ≠ .declared .hello)
      (outcome : AdminOutcome F s f.payload (c.asAdmin s role) c') :
      Dispatched F s c role (.ok f) c'
  | worker {f : Frame} {c' : Coordinator}
      (outcome : WorkerOutcome ⟨(c.connWorker.insertIfNew s 0).getD s 0⟩ f
        { c with connWorker := c.connWorker.insertIfNew s 0 } c') :
      Dispatched F s c .worker (.ok f) c'

section Process

variable {F : Type} [ScoreArith F] {s : Socket} {f : Frame} {c c' : Coordinator}

theorem ack_writes (epoch : UInt64) :
    Writes (do
        Writer.u64 epoch
        Writer.u8 1)
      (le64 epoch ++ [1]) True := by
  have fields := (u64_writes_le64 epoch).bind (u8_writes 1)
  rw [true_and] at fields
  exact fields

theorem hello_outcome (greets : f.type = .declared .hello) (handled : hello s f c = .ok () c') :
    Dispatched F s c .unknown (.ok f) c' := by
  unfold hello at handled
  cases read : decodeHello f.payload with
  | error fault rest =>
      rw [bind_of_error (parse_eq_error read)] at handled
      cases handled
  | ok greeting ahead =>
  obtain ⟨wk, boot, label⟩ := greeting
  rw [bind_of_ok (parse_eq_ok read)] at handled
  dsimp only at handled
  cases called : Engine.registerWorker ⟨wk⟩ ⟨boot⟩ c.engine with
  | ok value e =>
      have accepted : catching (do
          engineCall (Engine.registerWorker ⟨wk⟩ ⟨boot⟩)
          return true) (fun _ => return false) c = .ok true { c with engine := e } :=
        catching_of_ok (bind_of_ok (engineCall_of_ok called))
      have bound : (le64 e.snap.epoch.value ++ [1]).length ≤ kMaxPayload := by
        rw [List.length_append, length_le64]
        decide
      rw [bind_of_ok accepted, if_pos rfl, modify_bind, get_bind,
        bind_of_ok (compose_of_fits (ack_writes _) trivial),
        bind_of_ok (writeFrame_of_short .ack bound)] at handled
      cases handled
      exact .greeted greets read called
  | error fault e =>
      have failed : (do
          engineCall (Engine.registerWorker ⟨wk⟩ ⟨boot⟩)
          return true : CoordinatorM Bool) c = .error fault { c with engine := e } :=
        bind_of_error (engineCall_of_error called)
      cases fault with
      | thrown error =>
          have refused : catching (do
              engineCall (Engine.registerWorker ⟨wk⟩ ⟨boot⟩)
              return true) (fun _ => return false) c = .ok false { c with engine := e } :=
            catching_of_error failed
          rw [bind_of_ok refused, if_neg (by decide)] at handled
          cases handled
          exact .refused greets read called
      | undefinedBehavior =>
          have escaped : catching (do
              engineCall (Engine.registerWorker ⟨wk⟩ ⟨boot⟩)
              return true) (fun _ => return false) c =
              .error .undefinedBehavior { c with engine := e } := by
            simp only [catching, failed]
          rw [bind_of_error escaped] at handled
          cases handled

theorem process_outcome {role : Role} {result : RecvResult}
    (returned : process F s role result c = .ok () c') : Dispatched F s c role result c' := by
  have ended : ∀ {c' : Coordinator}, closeConn s c = .ok () c' → c' = c.withoutConn s := by
    intro c' closed
    unfold closeConn at closed
    rw [get_bind] at closed
    unfold withoutConn
    cases known : c.connWorker[s]? with
    | none =>
        rw [known] at closed
        cases closed
        rfl
    | some worker =>
        rw [known] at closed
        cases closed
        rfl
  cases result with
  | timeout =>
      cases returned
      exact .idle
  | closed =>
      rw [ended returned]
      exact .closed (Or.inl rfl)
  | err =>
      rw [ended returned]
      exact .closed (Or.inr rfl)
  | ok f =>
  cases role with
  | unknown =>
      unfold process at returned
      dsimp only at returned
      split_ifs at returned with greets
      · exact hello_outcome greets returned
      · rw [modify_bind] at returned
        exact .admin (Or.inr ⟨rfl, greets⟩) (handleAdminMsg_outcome returned)
  | worker => exact .worker (handleWorkerMsg_outcome returned)
  | admin => exact .admin (Or.inl rfl) (handleAdminMsg_outcome returned)

end Process

end Coordinator

end DPUFabric
