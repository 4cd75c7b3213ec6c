import DPUFabric.Dispatch
import DPUFabric.Framing
import DPUFabric.Synthetic

/-!
# The worker process

A worker greets the coordinator, waits for the acknowledgement, reports its device and
the evidence for it, and then obeys commands until it is told to stop or hears nothing
for five seconds.  What its `main` sends is noted, and how the writes end is decided
behind it: one that fails throws, and nothing in `main` catches that.  What it prints is
left out.

The two programs agree about their messages: whatever the coordinator sends to a
worker, the worker can read, and each answer is one that the coordinator can read.
-/

namespace DPUFabric

open Std
open Grammar
open Codec
open Exceptions
open DPUFabric.Wire
open DPUFabric.Persistence
open DPUFabric.Proto
open DPUFabric.Mp
open DPUFabric.Mpproto

/-! ## Messages -/

namespace Mpproto

def encodeHello (worker boot : UInt64) (label : Text) : WriterM Unit := do
  Writer.u64 worker
  Writer.u64 boot
  Writer.str label

def decodeCommand : ReaderM (UInt64 × Text) := do
  let cmdId ← u64
  let action ← str
  return (cmdId, action)

end Mpproto

/-! ## The process -/

/-- The arguments of the worker that its `main` reads. -/
structure WorkerArgs where
  worker : UInt64 := 1
  boot : UInt64 := 0
  label : Text := text "worker"

/-- How far `main` has come: before the acknowledgement, in its loop, or at a `return`. -/
inductive WorkerPhase where
  | greeting | serving
  | exited (code : Nat)
deriving DecidableEq

namespace Worker

/-- A part of `main`: it may throw.  The state is what was sent, as types and payloads. -/
abbrev WorkerM := EStateM Fault (List (FrameType × List UInt8))

/-- `TcpClient::send`, of what is written into an empty buffer, up to its `send_n`. -/
def send (type : MsgType) (write : WriterM Unit) : WorkerM Unit := fun sent =>
  match write [] with
  | .error fault _ => .error fault sent
  | .ok _ payload =>
      match encode (.declared type) payload with
      | .error fault => .error fault sent
      | .ok _ => .ok () (sent ++ [(.declared type, payload)])

/-- How the writes of `TcpClient::send` end, one after another. -/
def submit {α : Type} : List α → List Sending → Turn Unit
  | [], _ => return
  | _, [] => return
  | _ :: letters, .sent :: sends => submit letters sends
  | _ :: _, .failed :: _ => .throws (.error .ioError "send failed")
  | _ :: _, .signalled :: _ => .signalled
  | _ :: _, .stuck :: _ => .blocks

/-- Reads from the start of a payload. -/
def parse {α : Type} (read : ReaderM α) (payload : List UInt8) : WorkerM α := fun sent =>
  match read payload with
  | .ok value _ => .ok value sent
  | .error fault _ => .error fault sent

/-- The one device of the worker. -/
def device (args : WorkerArgs) : DeviceRecord :=
  { makeDpu ⟨1⟩ (text "DPU-A") [capNetwork, capEncryption, capSteering]
      { memoryBytes := (256 : UInt64) <<< 20, queues := 8, functions := 2, slots := 16,
        contexts := 16 }
      ⟨0xA1⟩ [.networkService, .securityService, .packetSteering] with
    owningWorker := ⟨args.worker⟩
    ownerWorkerBoot := ⟨args.boot⟩ }

def greet (args : WorkerArgs) : WorkerM Unit :=
  send .hello (encodeHello args.worker args.boot args.label)

/-- What follows the acknowledgement. -/
def report (args : WorkerArgs) : WorkerM Unit := do
  send .registerDevice (putDevice (device args))
  send .publishEvidence do
    Writer.u64 (device args).deviceId.value
    Writer.u64 (device args).evidenceGen.value
    Writer.u8 1

/-- The answer to a command. -/
def handledText (action : Text) : Text := text "worker-handled:" ++ action

/-- The body of the loop, for a frame: whether the loop goes on. -/
def handle (f : Frame) : WorkerM Bool := do
  match f.type with
  | .declared .command =>
      let (cmdId, action) ← parse decodeCommand f.payload
      send .result do
        Writer.u64 cmdId
        Writer.u8 1
        Writer.str (handledText action)
      return true
  | .declared .bye => return false
  | .declared .ping =>
      send .pong (Writer.u64 0)
      return true
  | _ => return true

/-- What `main` does with what `client.recv` has returned; a frame is all it can see. -/
def receive (args : WorkerArgs) : WorkerPhase → RecvResult → WorkerM WorkerPhase
  | .greeting, .ok f => do
      if f.type = .declared .ack then
        report args
        return .serving
      else return .exited 2
  | .greeting, _ => return .exited 2
  | .serving, .ok f => do
      if ← handle f then return .serving else return .exited 0
  | .serving, _ => return .exited 0
  | .exited code, _ => return .exited code

/-! ## What it sends -/

/-- A process goes on if all that it has written is taken. -/
theorem submit_returns_iff {α : Type} (letters : List α) (sends : List Sending) :
    submit letters sends = .returns () ↔ ∀ write ∈ letters.zip sends, write.2 = .sent := by
  induction letters generalizing sends with
  | nil => exact iff_of_true rfl (by simp)
  | cons letter letters ih =>
      cases sends with
      | nil => exact iff_of_true rfl (by simp)
      | cons sending sends =>
          rw [List.zip_cons_cons, List.forall_mem_cons]
          cases sending with
          | sent => exact (ih sends).trans ⟨fun all => ⟨rfl, all⟩, fun all => all.2⟩
          | failed => exact iff_of_false (fun ended => by cases ended) fun all => by cases all.1
          | signalled => exact iff_of_false (fun ended => by cases ended) fun all => by cases all.1
          | stuck => exact iff_of_false (fun ended => by cases ended) fun all => by cases all.1

theorem send_of_fits {type : MsgType} {write : WriterM Unit} {code : List UInt8} {fits : Prop}
    (writes : Writes write code fits) (fit : fits) (bound : code.length ≤ kMaxPayload)
    (sent : List (FrameType × List UInt8)) :
    send type write sent = .ok () (sent ++ [(.declared type, code)]) := by
  have written := writes.appends fit []
  rw [List.nil_append] at written
  simp only [send, written, encode_eq _ bound]

/-- A writer and the reader that agrees with it, on a code that is known. -/
theorem read_of_writes {α : Type} {write : WriterM Unit} {read : ReaderM α} {size : Nat}
    {fits valid : Prop} {value : α} {code : List UInt8}
    (codes : Codes write read size fits valid value) (writes : Writes write code fits)
    (fit : fits) (good : valid) (small : size < 2 ^ 32) : read code = .ok value [] := by
  obtain ⟨code', -, writes', reads⟩ := codes
  have same : code = code' := by
    have left := writes.appends fit []
    rw [writes'.appends fit [], List.nil_append, List.nil_append] at left
    cases left
    rfl
  have run := (reads fit small).accepts good [] ()
  rw [List.append_nil, ← same] at run
  exact run

/-- The payload of a `HELLO`. -/
def helloPayload (args : WorkerArgs) : List UInt8 :=
  le64 args.worker ++ (le64 args.boot ++ prefixed args.label)

theorem encodeHello_writes (args : WorkerArgs) :
    Writes (encodeHello args.worker args.boot args.label) (helloPayload args)
      (args.label.length ≤ kMaxStringBytes) := by
  have fields := (u64_writes_le64 args.worker).bind <|
    (u64_writes_le64 args.boot).bind (str_writes_prefixed args.label)
  rw [true_and, true_and] at fields
  exact fields

theorem length_helloPayload (args : WorkerArgs) :
    (helloPayload args).length = 20 + args.label.length := by
  simp only [helloPayload, List.length_append, length_le64, length_prefixed]
  omega

theorem greet_eq {args : WorkerArgs} (short : args.label.length ≤ kMaxStringBytes)
    (sent : List (FrameType × List UInt8)) :
    greet args sent = .ok () (sent ++ [(.declared .hello, helloPayload args)]) := by
  refine send_of_fits (encodeHello_writes args) short ?_ sent
  have limit : 20 + kMaxStringBytes ≤ kMaxPayload := by decide
  rw [length_helloPayload]
  omega

theorem codes_encodeHello (args : WorkerArgs) :
    Codes (encodeHello args.worker args.boot args.label) decodeHello (20 + args.label.length)
      (args.label.length ≤ kMaxStringBytes) True (args.worker, args.boot, args.label) := by
  unfold encodeHello decodeHello
  refine Agrees.congr
    (.bind (codes_u64 _) <| .bind (codes_u64 _) <| .last (codes_str _) _) ?_ ?_ ?_ ?_
  · omega
  · simp only [true_and]
  · simp only [and_true]
  · intro _
    rfl

/-- The coordinator reads the greeting as it was meant. -/
theorem decodeHello_helloPayload {args : WorkerArgs}
    (short : args.label.length ≤ kMaxStringBytes) :
    decodeHello (helloPayload args) = .ok (args.worker, args.boot, args.label) [] := by
  have limit : 20 + kMaxStringBytes < 2 ^ 32 := by decide
  exact read_of_writes (codes_encodeHello args) (encodeHello_writes args) short trivial (by omega)

/-! ## Its device -/

/-- Only the owner depends on the arguments, and it is not sent. -/
theorem device_withinCodec (args : WorkerArgs) : WithinCodec (device args) := by
  have own : WithinCodec (device {}) :=
    { labels := by decide
      ports := by decide
      functions := by decide
      capabilityCount := by decide
      capabilities := by decide
      offloadClasses := by decide
      keyed := by decide }
  exact ⟨own.labels, own.ports, own.functions, own.capabilityCount, own.capabilities,
    own.offloadClasses, own.keyed⟩

/-- The payload of a `REGISTER_DEVICE`. -/
def devicePayload (args : WorkerArgs) : List UInt8 :=
  match putDevice (device args) [] with
  | .ok _ payload => payload
  | .error _ _ => []

theorem putDevice_writes (args : WorkerArgs) :
    Writes (putDevice (device args)) (devicePayload args) (∀ t ∈ sentLabels (device args), IsShort t) := by
  obtain ⟨code, -, writes, -⟩ := codes_putDevice (device args)
  have written := writes.appends (device_withinCodec args).labels []
  have same : devicePayload args = code := by
    simp only [devicePayload, written, List.nil_append]
  rw [same]
  exact writes

theorem length_devicePayload (args : WorkerArgs) :
    (devicePayload args).length = sentSize (device args) := by
  obtain ⟨code, length, writes, -⟩ := codes_putDevice (device args)
  have written := writes.appends (device_withinCodec args).labels []
  rw [← length]
  simp only [devicePayload, written, List.nil_append]

/-- The record that the coordinator gets of it. -/
theorem getDevice_devicePayload (args : WorkerArgs) :
    getDevice (devicePayload args) = .ok (transmitted (device args)) [] := by
  obtain ⟨bytes, written, read⟩ := getDevice_putDevice (device_withinCodec args)
  have same : devicePayload args = bytes := by
    simp only [devicePayload, written]
  rw [same]
  exact read

/-- The payload of a `PUBLISH_EVIDENCE`. -/
def evidencePayload : List UInt8 := le64 1 ++ (le64 42 ++ [1])

theorem evidence_writes (args : WorkerArgs) :
    Writes (do
        Writer.u64 (device args).deviceId.value
        Writer.u64 (device args).evidenceGen.value
        Writer.u8 1)
      evidencePayload True := by
  have fields := (u64_writes_le64 (device args).deviceId.value).bind <|
    (u64_writes_le64 (device args).evidenceGen.value).bind (u8_writes 1)
  rw [true_and, true_and] at fields
  exact fields

/-- What follows the acknowledgement. -/
def reportMessages (args : WorkerArgs) : List (FrameType × List UInt8) :=
  [(.declared .registerDevice, devicePayload args), (.declared .publishEvidence, evidencePayload)]

theorem report_eq (args : WorkerArgs) (sent : List (FrameType × List UInt8)) :
    report args sent = .ok () (sent ++ reportMessages args) := by
  have limit : sentSize (device args) ≤ kMaxPayload := by
    have own : sentSize (device {}) ≤ kMaxPayload := by decide
    exact own
  rw [report, bind_of_ok (send_of_fits (putDevice_writes args) (device_withinCodec args).labels
      (by rw [length_devicePayload]; exact limit) sent),
    send_of_fits (evidence_writes args) trivial (by decide), List.append_assoc]
  rfl

/-! ## Its answers -/

theorem codes_command (cmdId : UInt64) (action : Text) :
    Codes (do
        Writer.u64 cmdId
        Writer.str action) decodeCommand (12 + action.length)
      (action.length ≤ kMaxStringBytes) True (cmdId, action) := by
  unfold decodeCommand
  refine Agrees.congr (.bind (codes_u64 _) <| .last (codes_str _) _) ?_ ?_ ?_ ?_
  · omega
  · simp only [true_and]
  · simp only [and_true]
  · intro _
    rfl

/-- The worker reads a command as it was meant. -/
theorem decodeCommand_commandPayload (cmdId : UInt64) {action : Text}
    (short : action.length ≤ kMaxStringBytes) :
    decodeCommand (commandPayload cmdId action) = .ok (cmdId, action) [] := by
  have writes := (u64_writes_le64 cmdId).bind (str_writes_prefixed action)
  rw [true_and] at writes
  have limit : 12 + kMaxStringBytes < 2 ^ 32 := by decide
  exact read_of_writes (codes_command cmdId action) writes short trivial (by omega)

/-- A command is answered with its own identity. -/
theorem handle_command {f : Frame} {cmdId : UInt64} {action : Text}
    (commands : f.type = .declared .command) (payload : f.payload = commandPayload cmdId action)
    (short : (handledText action).length ≤ kMaxStringBytes)
    (sent : List (FrameType × List UInt8)) :
    handle f sent = .ok true
      (sent ++ [(.declared .result, resultPayload cmdId true (handledText action))]) := by
  have brief : action.length ≤ kMaxStringBytes := by
    rw [handledText, List.length_append] at short
    omega
  have parsed : parse decodeCommand f.payload sent = .ok (cmdId, action) sent := by
    simp only [parse, payload, decodeCommand_commandPayload cmdId brief]
  have bound : (resultPayload cmdId true (handledText action)).length ≤ kMaxPayload := by
    have limit : 13 + kMaxStringBytes ≤ kMaxPayload := by decide
    rw [length_resultPayload]
    omega
  obtain ⟨type, payload', checksum⟩ := f
  cases commands
  unfold handle
  dsimp only
  rw [bind_of_ok parsed]
  dsimp only
  exact bind_of_ok (send_of_fits (Coordinator.result_writes cmdId true _) short bound sent)

theorem codes_result (cmdId : UInt64) (ok : Bool) (message : Text) :
    Codes (do
        Writer.u64 cmdId
        Writer.u8 (if ok then 1 else 0)
        Writer.str message) readResult (13 + message.length)
      (message.length ≤ kMaxStringBytes) True (cmdId, if ok then 1 else 0, message) := by
  unfold readResult
  refine Agrees.congr
    (.bind (codes_u64 _) <| .bind (codes_u8 _) <| .last (codes_str _) _) ?_ ?_ ?_ ?_
  · omega
  · simp only [true_and]
  · simp only [and_true]
  · intro _
    rfl

/-- The coordinator reads an answer as it was meant. -/
theorem readResult_resultPayload (cmdId : UInt64) (ok : Bool) {message : Text}
    (short : message.length ≤ kMaxStringBytes) :
    readResult (resultPayload cmdId ok message) = .ok (cmdId, if ok then 1 else 0, message) [] := by
  have limit : 13 + kMaxStringBytes < 2 ^ 32 := by decide
  exact read_of_writes (codes_result cmdId ok message)
    (Coordinator.result_writes cmdId ok message) short trivial (by omega)

end Worker

end DPUFabric
