import DPUFabric.Protocol
import DPUFabric.WorkerProtocol

/-!
# The payloads that the coordinator reads

Each message type has a layout, which `mpproto` and the handlers of the coordinator
spell out as a sequence of reads.  Here are those reads and the languages they accept.
Bytes behind the last field are ignored.
-/

namespace DPUFabric.Mpproto

open Grammar
open DPUFabric.Wire
open DPUFabric.Persistence
open DPUFabric.Proto

/-! ## The reads -/

def decodeHello : ReaderM (UInt64 × UInt64 × Text) := do
  let worker ← u64
  let boot ← u64
  let label ← str
  return (worker, boot, label)

/-- A device, its evidence generation, and whether the evidence is fresh. -/
def readEvidence : ReaderM (DeviceId × EvidenceGeneration × Bool) := do
  let did ← readId
  let eg ← readId
  let fresh ← flag
  return (did, eg, fresh)

/-- A command identity, whether the worker obeyed, and a detail. -/
def readResult : ReaderM (UInt64 × UInt8 × Text) := do
  let cid ← u64
  let ok ← u8
  let detail ← str
  return (cid, ok, detail)

/-- The command identity and the command type of an administrator's message. -/
def readCommand : ReaderM (UInt64 × UInt8) := do
  let cmdId ← u64
  let ctype ← u8
  return (cmdId, ctype)

/-- What follows in a `CREATE_DEPLOYMENT`: a service and an offload class. -/
def readTarget : ReaderM (ServiceId × RawEnum OffloadClass) := do
  let sid ← readId
  let oc ← readEnum
  return (sid, oc)

/-! ## The languages -/

/-- A string of any content. -/
def anyString : Language UInt8 := string fun _ => True

def helloLayout : Language UInt8 := fixed 16 * anyString

def capLayout : Language UInt8 := string (fun s => isValidKey s = true) * fixed 11

/-- The fields of a device, as `get_device` reads them. -/
def deviceLayout : Language UInt8 :=
  [fixed 24, anyString, anyString, fixed 1, anyString, fixed 16, anyString, fixed 48,
    counted kMaxContainerCount (fixed 8), counted kMaxContainerCount (fixed 8),
    counted kMaxContainerCount capLayout, counted 64 (fixed 1), fixed 30, anyString].prod

def evidenceLayout : Language UInt8 := fixed 17

def resultLayout : Language UInt8 := fixed 9 * anyString

def commandLayout : Language UInt8 := fixed 9

theorem accepts_decodeHello : Accepts decodeHello helloLayout := by
  refine Accepts.congr
    (.bind accepts_u64 fun _ => .bind accepts_u64 fun _ => .last accepts_str) ?_
  rw [← mul_assoc, fixed_mul_fixed]
  rfl

theorem accepts_readEvidence : Accepts readEvidence evidenceLayout := by
  refine Accepts.congr
    (.bind accepts_id fun _ => .bind accepts_id fun _ => .last accepts_flag) ?_
  simp only [fixed_mul_fixed]
  rfl

theorem accepts_readResult : Accepts readResult resultLayout := by
  refine Accepts.congr
    (.bind accepts_u64 fun _ => .bind accepts_u8 fun _ => .last accepts_str) ?_
  rw [← mul_assoc, fixed_mul_fixed]
  rfl

theorem accepts_readCommand : Accepts readCommand commandLayout := by
  refine Accepts.congr (.bind accepts_u64 fun _ => .last accepts_u8) ?_
  rw [fixed_mul_fixed]
  rfl

theorem accepts_getCap : Accepts getCap capLayout := by
  unfold getCap
  refine Accepts.congr
    (.bind accepts_key fun _ => .bind accepts_enum fun _ => .bind accepts_u64 fun _ =>
      .bind accepts_flag fun _ => .last accepts_enum) ?_
  simp only [fixed_mul_fixed]
  rfl

theorem accepts_getDevice : Accepts getDevice deviceLayout := by
  unfold getDevice
  refine Accepts.congr
    (.bind accepts_id fun _ => .bind accepts_id fun _ => .bind accepts_id fun _ =>
      .bind accepts_str fun _ => .bind accepts_str fun _ => .bind accepts_enum fun _ =>
      .bind accepts_str fun _ => .bind accepts_id fun _ => .bind accepts_id fun _ =>
      .bind accepts_str fun _ => .bind accepts_u64 fun _ => .bind accepts_resourceCap fun _ =>
      accepts_counted (by decide) accepts_id fun _ _ =>
      accepts_counted (by decide) accepts_id fun _ _ =>
      accepts_counted (by decide) accepts_getCap fun _ _ =>
      accepts_counted (by decide) accepts_enum fun _ _ =>
      .bind accepts_enum fun _ => .bind accepts_enum fun _ => .bind accepts_flag fun _ =>
      .bind accepts_enum fun _ => .bind accepts_id fun _ => .bind accepts_id fun _ =>
      .bind accepts_id fun _ => .bind accepts_flag fun _ => .bind accepts_enum fun _ =>
      .last accepts_str) ?_
  -- Neighbouring fields of fixed widths are one field.
  have widths : ∀ (m n : Nat) (language : Language UInt8),
      fixed m * (fixed n * language) = fixed (m + n) * language := by
    intro m n language
    rw [← mul_assoc, fixed_mul_fixed]
  simp only [widths, deviceLayout, List.prod_cons, List.prod_nil, mul_one, anyString]

end DPUFabric.Mpproto
