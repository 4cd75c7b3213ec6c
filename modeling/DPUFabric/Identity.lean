import Mathlib

/-!
# Strong typed identities and typed errors

`Id<Tag>` is a 64-bit value whose tag keeps a device identity from ever being
used as a service identity, a generation or a boot identity.  The tags are an
enumeration here, so that the per-tag rule `allow_zero` is a function of the
tag.  Identities key the coordinator's ordered maps, hence the order.

Strings are `std::string`, that is, byte strings.
-/

namespace DPUFabric

open Std

/-- The bytes of a `std::string`. -/
abbrev Text := List UInt8

/-- A string literal of the source; all of them are ASCII. -/
def text (literal : String) : Text :=
  literal.toList.map fun character => UInt8.ofNat character.toNat

/-! ## Identities -/

/-- The identity tags. -/
inductive IdTag where
  | device | service | program | artifact | deployment | activation
  | executionContext | resourceContext | port | function | queue | tenant
  | isolationDomain | worker | lease | deploymentAttempt | capability
  | deviceGeneration | workerBoot | coordinatorEpoch | evidenceGeneration
  | policyGeneration | serviceGeneration | programGeneration
  | artifactGeneration | deploymentGeneration | activationGeneration
  | firmwareGeneration | runtimeGeneration | bootGeneration | deviceBoot
deriving DecidableEq, Repr

/-- An identity of one kind. -/
structure Id (tag : IdTag) where
  value : UInt64
deriving DecidableEq, Repr

namespace Id

variable {tag : IdTag}

/-- The null identity, which is also the default-constructed one. -/
def null : Id tag := ⟨0⟩

def isNull (id : Id tag) : Bool := id.value == 0

instance : Inhabited (Id tag) := ⟨null⟩

instance : Ord (Id tag) := ⟨fun left right => compare left.value right.value⟩

instance : TransOrd (Id tag) where
  eq_swap := by
    intro left right
    exact @OrientedCmp.eq_swap UInt64 compare _ left.value right.value
  isLE_trans := by
    intro left middle right first second
    exact @TransCmp.isLE_trans UInt64 compare _
      left.value middle.value right.value first second

instance : LawfulEqOrd (Id tag) where
  compare_self := by
    intro id
    exact @ReflCmp.compare_self UInt64 compare _ id.value
  eq_of_compare := by
    rintro ⟨left⟩ ⟨right⟩ same
    congr 1
    exact @LawfulEqCmp.eq_of_compare UInt64 compare _ left right same

@[simp]
theorem isNull_null : (null : Id tag).isNull = true :=
  rfl

@[simp]
theorem isNull_eq_true_iff (id : Id tag) :
    id.isNull = true ↔ id = null := by
  cases id
  simp [isNull, null]

@[simp]
theorem isNull_eq_false_iff (id : Id tag) :
    id.isNull = false ↔ id ≠ null := by
  rw [← Bool.not_eq_true, isNull_eq_true_iff]

end Id

abbrev DeviceId := Id .device
abbrev ServiceId := Id .service
abbrev ProgramId := Id .program
abbrev ArtifactId := Id .artifact
abbrev DeploymentId := Id .deployment
abbrev DeploymentAttemptId := Id .deploymentAttempt
abbrev ActivationId := Id .activation
abbrev ExecutionContextId := Id .executionContext
abbrev PortId := Id .port
abbrev FunctionId := Id .function
abbrev TenantId := Id .tenant
abbrev IsolationDomainId := Id .isolationDomain
abbrev WorkerId := Id .worker

abbrev DeviceGeneration := Id .deviceGeneration
abbrev ServiceGeneration := Id .serviceGeneration
abbrev ProgramGeneration := Id .programGeneration
abbrev ArtifactGeneration := Id .artifactGeneration
abbrev DeploymentGeneration := Id .deploymentGeneration
abbrev ActivationGeneration := Id .activationGeneration
abbrev EvidenceGeneration := Id .evidenceGeneration
abbrev PolicyGeneration := Id .policyGeneration
abbrev CoordinatorEpoch := Id .coordinatorEpoch
abbrev WorkerBootId := Id .workerBoot
abbrev DeviceBootId := Id .deviceBoot
abbrev FirmwareGeneration := Id .firmwareGeneration
abbrev RuntimeGeneration := Id .runtimeGeneration

/-- The next generation, which saturates at the largest 64-bit value. -/
def nextGeneration (current : UInt64) : UInt64 :=
  if current = 0xFFFFFFFFFFFFFFFF then current else current + 1

theorem nextGeneration_eq_self_iff (current : UInt64) :
    nextGeneration current = current ↔ current = 0xFFFFFFFFFFFFFFFF := by
  unfold nextGeneration
  split_ifs with saturated
  · simp [saturated]
  · simp [saturated]

theorem toNat_nextGeneration
    {current : UInt64} (room : current.toNat + 1 < 2 ^ 64) :
    (nextGeneration current).toNat = current.toNat + 1 := by
  have unsaturated : current ≠ 0xFFFFFFFFFFFFFFFF := by
    rintro rfl
    simp at room
  rw [nextGeneration, if_neg unsaturated, UInt64.toNat_add]
  simpa using Nat.mod_eq_of_lt room

/-- The larger of a number and one. -/
theorem toNat_max_one (current : UInt64) : (max current 1).toNat = max current.toNat 1 := by
  have chosen : max current 1 = if current ≤ 1 then 1 else current := rfl
  have one : (1 : UInt64).toNat = 1 := rfl
  rw [chosen]
  split_ifs with small
  · rw [UInt64.le_iff_toNat_le] at small
    omega
  · rw [UInt64.le_iff_toNat_le] at small
    omega

/-! ## Errors -/

/-- The stable error codes. -/
inductive ErrorCode where
  | ok | notFound | alreadyExists | invalidArgument | invalidState
  | invalidTransition | unsupported | unknownCapability | capabilityStale
  | capabilityMismatch | deviceNotReady | deviceFailed | deviceDraining
  | deviceRevalidationRequired | firmwareIncompatible | runtimeIncompatible
  | artifactIncompatible | isolationMismatch | tenantMismatch
  | resourceExhausted | noEligibleDevice | offloadRequiredUnavailable
  | staleEpoch | staleWorker | staleDeviceBoot | staleDeviceGeneration
  | staleServiceGeneration | staleProgramGeneration | staleDeployment
  | staleActivation | authorityRejected | checksumFailure | corruptState
  | protocolError | frameTooLarge | ioError | backendError | cancelled
deriving DecidableEq, Repr

/-- A thrown `DpuError`: its code and its message. -/
structure DpuError where
  code : ErrorCode
  detail : String
deriving DecidableEq, Repr

/-- How a call can end without returning. -/
inductive Fault where
  | thrown (error : DpuError)
  /-- The code has no defined behaviour here (a null optional is read). -/
  | undefinedBehavior
deriving DecidableEq, Repr

/-- `throw_error(code, message)`. -/
def Fault.error (code : ErrorCode) (detail : String) : Fault :=
  .thrown ⟨code, detail⟩

end DPUFabric
