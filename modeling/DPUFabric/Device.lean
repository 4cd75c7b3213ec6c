import DPUFabric.Resource

/-!
# Capabilities and devices

A capability key is validated when it is built, so the type carries the fact;
the default-constructed key of the source is the empty one.  A device record
is what evidence says about one programmable device.
-/

namespace DPUFabric

open Std

/-! ## Capabilities -/

/-- `CapabilityKey::is_valid`. -/
def isValidKey (s : Text) : Bool :=
  !s.isEmpty && s.length ≤ 64 &&
    s.all fun c =>
      (65 ≤ c && c ≤ 90) || (97 ≤ c && c ≤ 122) || (48 ≤ c && c ≤ 57) ||
        c == 95 || c == 45

/-- A vendor-neutral capability name. -/
structure CapabilityKey where
  value : Text
  wellFormed : value = [] ∨ isValidKey value = true
deriving DecidableEq, Repr

namespace CapabilityKey

instance : Inhabited CapabilityKey := ⟨⟨[], Or.inl rfl⟩⟩

/-- The validating constructor. -/
def ofText (s : Text) : Except Fault CapabilityKey :=
  if valid : isValidKey s = true then .ok ⟨s, Or.inr valid⟩
  else .error (.error .invalidArgument "invalid capability key")

instance : Ord CapabilityKey :=
  ⟨fun left right => compare left.value right.value⟩

instance : TransOrd CapabilityKey where
  eq_swap := by
    intro left right
    exact @OrientedCmp.eq_swap Text compare _ left.value right.value
  isLE_trans := by
    intro left middle right first second
    exact @TransCmp.isLE_trans Text compare _
      left.value middle.value right.value first second

instance : LawfulEqOrd CapabilityKey where
  compare_self := by
    intro key
    exact @ReflCmp.compare_self Text compare _ key.value
  eq_of_compare := by
    rintro ⟨left, _⟩ ⟨right, _⟩ same
    congr 1
    exact @LawfulEqCmp.eq_of_compare Text compare _ left right same

end CapabilityKey

/-- One capability as reported by evidence. -/
structure Capability where
  key : CapabilityKey := default
  state : RawEnum CapabilityState := .declared .unknown
  evidenceGen : EvidenceGeneration := .null
  version : UInt64 := 0
  minFirmwareGen : FirmwareGeneration := .null
  minRuntimeGen : RuntimeGeneration := .null
  maxScale : UInt64 := 0
  requiresIsolation : Bool := false
  source : RawEnum ProvenanceSource := .declared .configured
  detail : Text := []
deriving DecidableEq

structure CapabilityRequirement where
  key : CapabilityKey := default
  isOptional : Bool := false
  minVersion : UInt64 := 0
deriving DecidableEq

/-- Capability records by key. -/
abbrev CapabilitySet := ExtTreeMap CapabilityKey Capability

namespace CapabilitySet

/-- An absent capability counts as unsupported. -/
def stateOf (set : CapabilitySet) (key : CapabilityKey) :
    RawEnum CapabilityState :=
  match set[key]? with
  | none => .declared .unsupported
  | some capability => capability.state

def add (set : CapabilitySet) (capability : Capability) : CapabilitySet :=
  set.insert capability.key capability

def setState (set : CapabilitySet) (key : CapabilityKey)
    (state : RawEnum CapabilityState) : CapabilitySet :=
  match set[key]? with
  | none =>
      if state ≠ .declared .supported then set
      else set.insert key { key := key, state := state }
  | some capability => set.insert key { capability with state := state }

end CapabilitySet

/-! ## Devices -/

/-- The vendor-neutral device record. -/
structure DeviceRecord where
  deviceId : DeviceId := .null
  generation : DeviceGeneration := .null
  bootId : DeviceBootId := .null
  vendor : Text := []
  model : Text := []
  deviceClass : RawEnum DeviceClass := .declared .unknownDevice
  pciReference : Text := []
  parentNicReference : Text := []
  parentFunction : FunctionId := .null
  firmwareVersion : Text := []
  firmwareGen : FirmwareGeneration := .null
  runtimeVersion : Text := []
  runtimeGen : RuntimeGeneration := .null
  architecture : Text := []
  processingUnits : UInt64 := 0
  memoryBytes : UInt64 := 0
  availableProgrammableMemory : UInt64 := 0
  resourceCapacity : ResourceProfile := {}
  ports : List PortId := []
  functions : List FunctionId := []
  capabilities : CapabilitySet := ∅
  offloadClasses : List (RawEnum OffloadClass) := []
  executionModels : List (RawEnum ExecutionModel) := []
  programFormats : List Text := []
  supportsDma : Bool := false
  rdmaAdjacent : Bool := false
  hostComm : Text := []
  hardwareIsolation : Bool := false
  isolationDomain : IsolationDomainId := .null
  tenant : TenantId := .null
  isolationProven : Bool := false
  locality : RawEnum LocalityQuality := .declared .unknown
  health : RawEnum DeviceHealth := .declared .unknown
  lifecycle : RawEnum DeviceLifecycle := .declared .discovered
  discoverySource : RawEnum ProvenanceSource := .declared .configured
  evidenceGen : EvidenceGeneration := .null
  evidenceFresh : Bool := false
  discoveryDetail : Text := []
  owningWorker : WorkerId := .null
  ownerWorkerBoot : WorkerBootId := .null

namespace DeviceRecord

def isReadyForOffload (device : DeviceRecord) : Bool :=
  device.lifecycle == .declared .ready && device.evidenceFresh

def supportsClass (device : DeviceRecord) (c : RawEnum OffloadClass) : Bool :=
  device.offloadClasses.any (· == c)

theorem isReadyForOffload_eq_true_iff (device : DeviceRecord) :
    device.isReadyForOffload = true ↔
      device.lifecycle = .declared .ready ∧ device.evidenceFresh = true := by
  simp [isReadyForOffload]

end DeviceRecord

/--
The device lifecycle table.  A target that is no declared lifecycle is never
allowed, and nothing is allowed from such a source.
-/
def validDeviceTransition (source target : RawEnum DeviceLifecycle) : Bool :=
  match source with
  | .declared .discovered =>
      target == .declared .available || target == .declared .failed ||
        target == .declared .retired || target == .declared .offline
  | .declared .available =>
      target == .declared .provisioning || target == .declared .ready ||
        target == .declared .revalidationRequired ||
        target == .declared .failed || target == .declared .offline ||
        target == .declared .retired || target == .declared .degraded
  | .declared .provisioning =>
      target == .declared .ready || target == .declared .available ||
        target == .declared .failed || target == .declared .offline ||
        target == .declared .retired || target == .declared .degraded
  | .declared .ready =>
      target == .declared .degraded || target == .declared .failed ||
        target == .declared .draining ||
        target == .declared .revalidationRequired ||
        target == .declared .offline || target == .declared .retired
  | .declared .degraded =>
      target == .declared .ready || target == .declared .failed ||
        target == .declared .draining ||
        target == .declared .revalidationRequired ||
        target == .declared .offline || target == .declared .retired
  | .declared .draining =>
      target == .declared .available || target == .declared .offline ||
        target == .declared .retired || target == .declared .failed ||
        target == .declared .ready
  | .declared .revalidationRequired =>
      target == .declared .ready || target == .declared .available ||
        target == .declared .failed || target == .declared .offline ||
        target == .declared .retired || target == .declared .degraded
  | .declared .failed =>
      target == .declared .offline || target == .declared .retired ||
        target == .declared .available
  | .declared .offline =>
      target == .declared .available || target == .declared .retired ||
        target == .declared .discovered
  | .declared .retired => false
  | .undeclared _ _ => false

/-- `RETIRED` is terminal. -/
theorem not_validDeviceTransition_of_retired
    (target : RawEnum DeviceLifecycle) :
    validDeviceTransition (.declared .retired) target = false :=
  rfl

end DPUFabric
