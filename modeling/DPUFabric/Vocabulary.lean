import DPUFabric.Identity

/-!
# The semantic enumerations

Every persisted enumeration of the source numbers its values from one in
declaration order, so an `Enumerator` instance is the list of its values in
that order.  `END_MARKER` is a bound, not a value, and is not listed.

A field that some reader fills by a raw cast can hold a byte which is no
declared value.  Such a field has type `RawEnum E`; a field whose readers all
check the byte has type `E`.
-/

namespace DPUFabric

/-- An enumeration with its declared values in order, numbered from one. -/
class Enumerator (E : Type) where
  all : List E
  mem_all : ∀ value, value ∈ all
  nodup_all : all.Nodup

namespace Enumerator

variable {E : Type} [Enumerator E]

/-- The underlying integer of a declared value. -/
def code [DecidableEq E] (value : E) : UInt8 :=
  UInt8.ofNat (all.idxOf value + 1)

/-- The declared value with this underlying integer, if there is one. -/
def ofCode? (code : UInt8) : Option E :=
  if code = 0 then none else all[code.toNat - 1]?

end Enumerator

/-- The content of an enumeration-typed field that may be no declared value. -/
inductive RawEnum (E : Type) [Enumerator E] where
  | declared (value : E)
  | undeclared (code : UInt8) (outside : Enumerator.ofCode? (E := E) code = none)
deriving DecidableEq

namespace RawEnum

variable {E : Type} [Enumerator E]

instance : Coe E (RawEnum E) := ⟨declared⟩

/-- `static_cast<E>(code)`. -/
def ofCode (code : UInt8) : RawEnum E :=
  match found : Enumerator.ofCode? (E := E) code with
  | some value => declared value
  | none => undeclared code found

/-- The underlying byte. -/
def code [DecidableEq E] : RawEnum E → UInt8
  | declared value => Enumerator.code value
  | undeclared code _ => code

def isDeclared : RawEnum E → Bool
  | declared _ => true
  | undeclared _ _ => false

/-- The declared value of a field, or `other` if it holds none. -/
def getD (raw : RawEnum E) (other : E) : E :=
  match raw with
  | declared value => value
  | undeclared _ _ => other

theorem declared_getD {raw : RawEnum E} (known : raw.isDeclared = true) (other : E) :
    declared (raw.getD other) = raw := by
  cases raw with
  | declared value => rfl
  | undeclared code outside => cases known

end RawEnum

/-! ## Offload and capability vocabulary -/

inductive OffloadClass where
  | networkService | dataMovement | storageService | securityService
  | telemetryService | compression | checksum | encryption
  | packetClassification | packetSteering | virtualSwitching
  | firewallService | storagePathProcessing | transportAssist
  | controlPlaneService | customInfrastructureService
deriving DecidableEq, Repr

instance : Enumerator OffloadClass where
  all := [.networkService, .dataMovement, .storageService, .securityService,
    .telemetryService, .compression, .checksum, .encryption,
    .packetClassification, .packetSteering, .virtualSwitching,
    .firewallService, .storagePathProcessing, .transportAssist,
    .controlPlaneService, .customInfrastructureService]
  mem_all := by intro value; cases value <;> decide
  nodup_all := by decide

inductive CapabilityState where
  | supported | unsupported | unknown | revalidationRequired
deriving DecidableEq, Repr

instance : Enumerator CapabilityState where
  all := [.supported, .unsupported, .unknown, .revalidationRequired]
  mem_all := by intro value; cases value <;> decide
  nodup_all := by decide

inductive ProvenanceSource where
  | realOsDiscovery | realVendorApi | synthetic | configured
  | recoveredStale | derived | unsupported
deriving DecidableEq, Repr

instance : Enumerator ProvenanceSource where
  all := [.realOsDiscovery, .realVendorApi, .synthetic, .configured,
    .recoveredStale, .derived, .unsupported]
  mem_all := by intro value; cases value <;> decide
  nodup_all := by decide

inductive ExecutionClass where
  | dpuOffload | smartnicOffload | infraProcessorOffload | hostFallback
  | unsupported
deriving DecidableEq, Repr

inductive OffloadMode where
  | offloadRequired | offloadPreferred
deriving DecidableEq, Repr

/-! ## Device vocabulary -/

inductive DeviceClass where
  | dpu | smartnic | infraProcessor | hostProcessor | nicAdjacent
  | unknownDevice
deriving DecidableEq, Repr

instance : Enumerator DeviceClass where
  all := [.dpu, .smartnic, .infraProcessor, .hostProcessor, .nicAdjacent,
    .unknownDevice]
  mem_all := by intro value; cases value <;> decide
  nodup_all := by decide

inductive DeviceLifecycle where
  | discovered | available | provisioning | ready | degraded | draining
  | revalidationRequired | failed | offline | retired
deriving DecidableEq, Repr

instance : Enumerator DeviceLifecycle where
  all := [.discovered, .available, .provisioning, .ready, .degraded,
    .draining, .revalidationRequired, .failed, .offline, .retired]
  mem_all := by intro value; cases value <;> decide
  nodup_all := by decide

inductive DeviceHealth where
  | healthy | warn | degraded | failed | unknown
deriving DecidableEq, Repr

instance : Enumerator DeviceHealth where
  all := [.healthy, .warn, .degraded, .failed, .unknown]
  mem_all := by intro value; cases value <;> decide
  nodup_all := by decide

inductive LocalityQuality where
  | sameDevice | sameFunction | sameNic | sameRoot | remote | unknown
deriving DecidableEq, Repr

instance : Enumerator LocalityQuality where
  all := [.sameDevice, .sameFunction, .sameNic, .sameRoot, .remote, .unknown]
  mem_all := by intro value; cases value <;> decide
  nodup_all := by decide

inductive ExecutionModel where
  | nativeDataPlane | firmwareAccelerated | hostAuxiliary | unknown
deriving DecidableEq, Repr

instance : Enumerator ExecutionModel where
  all := [.nativeDataPlane, .firmwareAccelerated, .hostAuxiliary, .unknown]
  mem_all := by intro value; cases value <;> decide
  nodup_all := by decide

/-! ## Service, program and deployment vocabulary -/

inductive IsolationRequirement where
  | dedicatedDevice | dedicatedFunction | dedicatedQueue
  | dedicatedExecutionContext | sharedIsolatedContext
  | tenantCompatibleShared | securityDomain | trustDomain | none
deriving DecidableEq, Repr

instance : Enumerator IsolationRequirement where
  all := [.dedicatedDevice, .dedicatedFunction, .dedicatedQueue,
    .dedicatedExecutionContext, .sharedIsolatedContext,
    .tenantCompatibleShared, .securityDomain, .trustDomain, .none]
  mem_all := by intro value; cases value <;> decide
  nodup_all := by decide

inductive SecurityMode where
  | secure | isolated | hybrid | unverified
deriving DecidableEq, Repr

instance : Enumerator SecurityMode where
  all := [.secure, .isolated, .hybrid, .unverified]
  mem_all := by intro value; cases value <;> decide
  nodup_all := by decide

inductive Statefulness where
  | stateless | stateful
deriving DecidableEq, Repr

instance : Enumerator Statefulness where
  all := [.stateless, .stateful]
  mem_all := by intro value; cases value <;> decide
  nodup_all := by decide

inductive ArtifactType where
  | firmwareImage | rteProgram | configuration | runtimeExtension | synthetic
  | unknown
deriving DecidableEq, Repr

instance : Enumerator ArtifactType where
  all := [.firmwareImage, .rteProgram, .configuration, .runtimeExtension,
    .synthetic, .unknown]
  mem_all := by intro value; cases value <;> decide
  nodup_all := by decide

inductive DeploymentState where
  | planned | reserved | staging | loaded | validating | activating | active
  | degraded | draining | failed | aborted | retired | revalidationRequired
deriving DecidableEq, Repr

instance : Enumerator DeploymentState where
  all := [.planned, .reserved, .staging, .loaded, .validating, .activating,
    .active, .degraded, .draining, .failed, .aborted, .retired,
    .revalidationRequired]
  mem_all := by intro value; cases value <;> decide
  nodup_all := by decide

inductive ActivationState where
  | pending | active | draining | retired | stale | cancelled
deriving DecidableEq, Repr

/-- The ranking factors, in the order in which a candidate is scored. -/
inductive RankFactor where
  | warmService | locality | headroom | queuePressure | deviceLoad
  | stateTransfer | hostCpuSavings | offloadValue | failureRisk | energy
  | policyPreference | tiebreakId
deriving DecidableEq, Repr

instance : Enumerator RankFactor where
  all := [.warmService, .locality, .headroom, .queuePressure, .deviceLoad,
    .stateTransfer, .hostCpuSavings, .offloadValue, .failureRisk, .energy,
    .policyPreference, .tiebreakId]
  mem_all := by intro value; cases value <;> decide
  nodup_all := by decide

/-- How conservative `apply_recovery` is. -/
inductive RecoveryPolicy where
  | fenceAllDynamic | fenceAuthorityOnly
deriving DecidableEq, Repr

end DPUFabric
