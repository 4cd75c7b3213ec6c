import DPUFabric.IdentityText
import DPUFabric.Messages
import DPUFabric.Pipeline
import DPUFabric.Transport

/-!
# The coordinator process

The coordinator accepts connections and reads one frame after another from each of
them.  The first frame decides whether a connection belongs to a worker or to an
administrator.  An exception that no handler takes leaves `main` and ends the
process.

No caller looks at what `write_frame` returns, so a handler notes the frames that it
writes, and what becomes of them is decided behind it: each is taken, is lost, blocks
the process for ever, or ends it.

The model leaves out what is printed, and the state file: a failed `persist` is
caught, and neither outcome changes the coordinator.
-/

namespace DPUFabric

open Std
open DPUFabric.Wire
open DPUFabric.Proto
open DPUFabric.Mp
open DPUFabric.Mpproto

/-! ## State -/

inductive Role where
  | unknown | worker | admin
deriving DecidableEq, Repr

/-- `DSH_SOCKET_T`. -/
abbrev Socket := UInt64

/-- The variables of `main`. -/
structure Coordinator where
  engine : Engine
  conns : ExtTreeMap Socket Role := ∅
  connWorker : ExtTreeMap Socket UInt64 := ∅
  sockByWorker : ExtTreeMap UInt64 Socket := ∅
  running : Bool := true
  cmdSeq : UInt64 := 1
  pending : ExtTreeMap UInt64 Text := ∅
  /-- The frames that were given to `send_n`, the oldest first. -/
  sent : List (Socket × List UInt8) := []

/-- A part of `main`: it may throw. -/
abbrev CoordinatorM := EStateM Fault Coordinator

/-- The commands of an administrator. -/
inductive Cmd where
  | createDeployment | status | drain | shutdown | finish
deriving DecidableEq, Repr

instance : Enumerator Cmd where
  all := [.createDeployment, .status, .drain, .shutdown, .finish]
  mem_all := by intro value; cases value <;> decide
  nodup_all := by decide

/-! ## Texts -/

def decimal (n : Nat) : Text := text (toString n)

def Engine.describe (e : Engine) : Text :=
  text "epoch=" ++ e.snap.epoch.encode ++
    text " devices=" ++ decimal e.snap.devices.size ++
    text " services=" ++ decimal e.snap.services.size ++
    text " programs=" ++ decimal e.snap.programs.size ++
    text " deployments=" ++ decimal e.snap.deployments.size ++
    text " activations=" ++ decimal e.snap.activations.size

/-! ## Steps of a handler -/

namespace Coordinator

/-- A call of the engine. -/
def engineCall {α : Type} (call : EngineM α) : CoordinatorM α := fun c =>
  match call c.engine with
  | .ok value e => .ok value { c with engine := e }
  | .error fault e => .error fault { c with engine := e }

/-- Reads from a payload, and what they leave of it. -/
def parse {α : Type} (read : ReaderM α) (payload : List UInt8) :
    CoordinatorM (α × List UInt8) := fun c =>
  match read payload with
  | .ok value ahead => .ok (value, ahead) c
  | .error fault _ => .error fault c

/-- Writes into an empty buffer. -/
def compose (write : WriterM Unit) : CoordinatorM (List UInt8) := fun c =>
  match write [] with
  | .ok _ bytes => .ok bytes c
  | .error fault _ => .error fault c

/-- `mp::write_frame`, up to `send_n`: how that ends, a turn finds out in `transmit`. -/
def writeFrame (s : Socket) (type : MsgType) (payload : List UInt8) : CoordinatorM Unit := fun c =>
  match encode (.declared type) payload with
  | .ok bytes => .ok () { c with sent := c.sent ++ [(s, bytes)] }
  | .error fault => .error fault c

/-- `try { body } catch (const DpuError& e) { handler }`. -/
def catching {α : Type} (body : CoordinatorM α) (handler : DpuError → CoordinatorM α) :
    CoordinatorM α := fun c =>
  match body c with
  | .ok value c => .ok value c
  | .error (.thrown error) c => handler error c
  | .error .undefinedBehavior c => .error .undefinedBehavior c

/-! ## Workers -/

/-- The device of a message, as its worker's; the boot identity is made up. -/
def ownedBy (c : Coordinator) (wid : WorkerId) (dev : DeviceRecord) : DeviceRecord :=
  { dev with
    owningWorker := wid
    ownerWorkerBoot := ⟨if c.sockByWorker.contains wid.value then wid.value + 1 else 0⟩ }

def registerOrUpdate (c : Coordinator) (dev : DeviceRecord) : EngineM DeviceId :=
  if c.engine.snap.devices.contains dev.deviceId then Engine.updateDevice dev
  else Engine.registerDevice dev

/-- A device with new evidence; fresh evidence makes it ready. -/
def withEvidence (known : DeviceRecord) (eg : EvidenceGeneration) (fresh : Bool) :
    DeviceRecord :=
  { known with
    evidenceGen := eg
    evidenceFresh := fresh
    lifecycle := if fresh then .declared .ready else known.lifecycle }

/-- `handle_worker_msg`. -/
def handleWorkerMsg (f : Frame) (wid : WorkerId) : CoordinatorM Unit := do
  match f.type with
  | .declared .registerDevice =>
      let (dev, _) ← parse getDevice f.payload
      let c ← get
      catching (discard (engineCall (registerOrUpdate c (ownedBy c wid dev)))) fun _ => return
  | .declared .publishEvidence =>
      let ((did, eg, fresh), _) ← parse readEvidence f.payload
      let c ← get
      match c.engine.snap.devices[did]? with
      | none => return
      | some known =>
          catching (discard (engineCall (Engine.updateDevice (withEvidence known eg fresh))))
            fun _ => return
  | .declared .result =>
      let ((cid, _, _), _) ← parse readResult f.payload
      modify fun c => { c with pending := c.pending.erase cid }
  | _ => return

/-! ## Administrators -/

/-- `reply`, inside `handle_admin_msg`. -/
def reply (s : Socket) (cmdId : UInt64) (ok : Bool) (message : Text) : CoordinatorM Unit := do
  let p ← compose do
    Writer.u64 cmdId
    Writer.u8 (if ok then 1 else 0)
    Writer.str message
  catching (writeFrame s .result p) fun _ => return

/-- A command for the worker of the device that was deployed on. -/
def commandWorker (dev : DeviceId) : CoordinatorM Unit := do
  let c ← get
  match c.engine.snap.devices[dev]? with
  | none => return
  | some device =>
      match c.sockByWorker[device.owningWorker.value]? with
      | none => return
      | some sock =>
          let cp ← compose do
            Writer.u64 c.cmdSeq
            Writer.str (text "ACTIVATE")
          catching
            (do
              writeFrame sock .command cp
              modify fun c =>
                { c with
                  pending := c.pending.insert c.cmdSeq (text "ACTIVATE")
                  cmdSeq := c.cmdSeq + 1 })
            fun _ => return

/-- What `CREATE_DEPLOYMENT` asks of the engine. -/
def deploymentRequest (sid : ServiceId) (oc : RawEnum OffloadClass) : OffloadRequest :=
  { offloadClass := oc, service := some sid, mode := .offloadRequired }

/-- The commands of `handle_admin_msg`, in its `try` block. -/
def adminCommand (F : Type) [ScoreArith F] (s : Socket) (cmdId : UInt64) (ctype : UInt8)
    (ahead : List UInt8) : CoordinatorM Unit := do
  if ctype = Enumerator.code Cmd.status then
    let c ← get
    reply s cmdId true c.engine.describe
  else if ctype = Enumerator.code Cmd.createDeployment then
    let ((sid, oc), _) ← parse readTarget ahead
    match ← engineCall (Engine.createDeployment F (deploymentRequest sid oc)) with
    | none => reply s cmdId false (text "REJECTED_NO_DEVICE")
    | some (dep, dev) =>
        reply s cmdId true (text "dep=" ++ dep.encode ++ text " device=" ++ dev.encode)
        commandWorker dev
  else if ctype = Enumerator.code Cmd.shutdown then
    reply s cmdId true (text "SHUTDOWN_OK")
    modify fun c => { c with running := false }
  else
    reply s cmdId false (text "UNKNOWN_CMD")

/-- `handle_admin_msg`. -/
def handleAdminMsg (F : Type) [ScoreArith F] (s : Socket) (f : Frame) : CoordinatorM Unit := do
  let ((cmdId, ctype), ahead) ← parse readCommand f.payload
  catching (adminCommand F s cmdId ctype ahead) fun error =>
    reply s cmdId false (text error.detail)

/-! ## The main loop -/

/-- `close_conn`, and the erasure that follows it. -/
def closeConn (s : Socket) : CoordinatorM Unit := do
  let c ← get
  match c.connWorker[s]? with
  | none => pure ()
  | some worker =>
      engineCall (Engine.markWorkerLost ⟨worker⟩)
      modify fun c => { c with sockByWorker := c.sockByWorker.erase worker }
  modify fun c => { c with connWorker := c.connWorker.erase s, conns := c.conns.erase s }

/-- The first frame of a connection, if it is a `HELLO`. -/
def hello (s : Socket) (f : Frame) : CoordinatorM Unit := do
  let ((wk, boot, _), _) ← parse decodeHello f.payload
  let ok ← catching
    (do
      engineCall (Engine.registerWorker ⟨wk⟩ ⟨boot⟩)
      return true)
    fun _ => return false
  if ok then
    modify fun c =>
      { c with conns := c.conns.insert s .worker, connWorker := c.connWorker.insert s wk }
    let c ← get
    let p ← compose do
      Writer.u64 c.engine.snap.epoch.value
      Writer.u8 1
    writeFrame s .ack p
    modify fun c => { c with sockByWorker := c.sockByWorker.insert wk s }
  else
    modify fun c => { c with conns := c.conns.erase s }

/-- `conn_worker[s]`, which files a zero where there is none. -/
def workerOf (s : Socket) : CoordinatorM WorkerId := do
  modify fun c => { c with connWorker := c.connWorker.insertIfNew s 0 }
  let c ← get
  return ⟨c.connWorker.getD s 0⟩

/-- What the loop does for one connection once `recv_frame` has returned. -/
def process (F : Type) [ScoreArith F] (s : Socket) (role : Role) :
    RecvResult → CoordinatorM Unit
  | .timeout => return
  | .closed => closeConn s
  | .err => closeConn s
  | .ok f => do
      match role with
      | .unknown =>
          -- A `HELLO` is not handled again; any other frame makes an administrator.
          if f.type = .declared .hello then hello s f
          else
            modify fun c => { c with conns := c.conns.insert s .admin }
            handleAdminMsg F s f
      | .worker =>
          let wid ← workerOf s
          handleWorkerMsg f wid
      | .admin => handleAdminMsg F s f

end Coordinator

/-- The coordinator, what is still to come from each peer, and how far its round has come. -/
structure MainLoop where
  coordinator : Coordinator
  streams : Socket → Stream
  /-- The connection that had the last turn. -/
  visited : Socket := 0

namespace MainLoop

/-- One connection's turn in the loop, with what had arrived by then, up to its writes. -/
def turn (F : Type) [ScoreArith F] (l : MainLoop) (s : Socket) (arrived : Bool) :
    Turn MainLoop :=
  match l.coordinator.conns[s]? with
  | none => return l
  | some role => do
      let (result, rest) ← recvFrame (l.streams s) arrived
      match Coordinator.process F s role result l.coordinator with
      | .error fault _ => .throws fault
      | .ok _ c =>
          return { coordinator := c, streams := Function.update l.streams s rest, visited := s }

/-- What was given to `send_n` since an earlier state. -/
def written (l l' : MainLoop) : List (Socket × List UInt8) :=
  l'.coordinator.sent.drop l.coordinator.sent.length

/-- One connection's turn in the loop, and how its writes end. -/
def poll (F : Type) [ScoreArith F] (l : MainLoop) (s : Socket) (arrived : Bool)
    (sends : List Sending) : Turn MainLoop := do
  let l' ← l.turn F s arrived
  let _ ← transmit (l.written l') sends
  return l'

/-- A new connection, whose peer is going to send these bytes. -/
def accept (l : MainLoop) (s : Socket) (peer : Stream) : MainLoop :=
  { l with
    coordinator := { l.coordinator with conns := l.coordinator.conns.insert s .unknown }
    streams := Function.update l.streams s peer }

/--
What the loop does next.  It accepts at most one connection, then polls all of them
in order; here both may happen at any time.
-/
inductive Event where
  | accept (s : Socket) (peer : Stream)
  | poll (s : Socket) (arrived : Bool) (sends : List Sending := [])

/-- `while (running)`: after a `SHUTDOWN` only the connections behind it still have a turn. -/
def admits (l : MainLoop) : Event → Bool
  | .accept _ _ => l.coordinator.running
  | .poll s _ _ => l.coordinator.running || decide (l.visited < s)

/-- The process: in its loop or past it, ended by a fault, or waiting for ever. -/
def step (F : Type) [ScoreArith F] (p : Turn MainLoop) (event : Event) : Turn MainLoop := do
  let l ← p
  if l.admits event then
    match event with
    | .accept s peer => return l.accept s peer
    | .poll s arrived sends => l.poll F s arrived sends
  else return l

end MainLoop

end DPUFabric
