import DPUFabric.Deployment

/-!
# Services, programs, policy and the coordinator state

`LiveState` is the mutable state behind the engine's mutex.  `Snapshot` is the
immutable view readers evaluate against; `makeSnapshot` publishes one from the
other.
-/

namespace DPUFabric

open Std

/-! ## Isolation -/

structure IsolationSpec where
  level : RawEnum IsolationRequirement := .declared .none
  isolationDomain : IsolationDomainId := .null
  tenant : TenantId := .null
  trustDomain : Text := []
  securityDomain : Text := []
  security : RawEnum SecurityMode := .declared .unverified
deriving DecidableEq

namespace IsolationSpec

def tenantScoped (spec : IsolationSpec) : Bool := !spec.tenant.isNull

def domainScoped (spec : IsolationSpec) : Bool := !spec.isolationDomain.isNull

/-- Whether a device's isolation configuration satisfies the spec. -/
def satisfiedBy (spec : IsolationSpec) (hardwareIsolationProven : Bool)
    (deviceDomain : IsolationDomainId) (deviceTenant : TenantId) : Bool :=
  if spec.level = .declared .none then true
  else if spec.level = .declared .securityDomain then
    if spec.security ≠ .declared .secure ∧ spec.security ≠ .declared .isolated then
      false
    else hardwareIsolationProven
  else if spec.level = .declared .dedicatedDevice then
    deviceTenant.isNull || (!spec.tenant.isNull && deviceTenant == spec.tenant)
  else if !hardwareIsolationProven then false
  else if spec.domainScoped && !deviceDomain.isNull &&
      deviceDomain != spec.isolationDomain then false
  else if spec.tenantScoped && !deviceTenant.isNull &&
      deviceTenant != spec.tenant then false
  else true

end IsolationSpec

/-! ## Programs and services -/

structure ProgramArtifact where
  programId : ProgramId := .null
  programGen : ProgramGeneration := .null
  artifactId : ArtifactId := .null
  artifactGen : ArtifactGeneration := .null
  artifactType : RawEnum ArtifactType := .declared .unknown
  version : Text := []
  contentHash : Vector UInt8 32 := Vector.replicate 32 0
  targetArchitecture : Text := []
  runtimeAbi : Text := []
  requiredCaps : List CapabilityRequirement := []
  minFirmwareGen : FirmwareGeneration := .null
  provenance : Text := []
  sizeHint : Text := []

structure ServiceDefinition where
  serviceId : ServiceId := .null
  serviceGen : ServiceGeneration := .null
  offloadClass : OffloadClass := .customInfrastructureService
  requiredCaps : List CapabilityRequirement := []
  optionalCaps : List CapabilityRequirement := []
  isolation : IsolationSpec := {}
  resource : ResourceRequest := {}
  executionModel : RawEnum ExecutionModel := .declared .unknown
  minFirmwareGen : FirmwareGeneration := .null
  minRuntimeGen : RuntimeGeneration := .null
  requiredProgram : ProgramId := .null
  requiredAbi : Text := []
  statefulness : RawEnum Statefulness := .declared .stateless
  recoverable : Bool := false
  allowedFallbackClasses : List (RawEnum OffloadClass) := []
  failurePolicy : Text := []
  dependencies : List ServiceId := []

/-! ## Policy -/

structure RankFactorWeight where
  factor : RawEnum RankFactor := .declared .tiebreakId
  weight : Int64 := 1
deriving DecidableEq

structure Policy where
  generation : PolicyGeneration := .null
  version : UInt64 := 0
  hardCaps : List CapabilityRequirement := []
  preferredDevices : List DeviceId := []
  preferWarmDeployments : Bool := true
  requireAuthoritativeEvidence : Bool := true
  minHeadroom : UInt64 := 10
  maxQueuePressure : UInt64 := 90
  minDeviceHealth : RawEnum DeviceHealth := .declared .warn
  allowHostFallback : Bool := false
  requireOffloadForRequired : Bool := true
  preferDedicatedIsolation : Bool := false
  preferredStatefulness : Statefulness := .stateless
  weights : List RankFactorWeight := []

namespace Policy

/-- The weight of the first entry for a factor. -/
def weightOf (policy : Policy) (f : RankFactor) : Int64 :=
  match policy.weights.find? (·.factor = .declared f) with
  | some entry => entry.weight
  | none => if f = .tiebreakId then 1 else 0

def defaults (gen : PolicyGeneration) : Policy :=
  { generation := gen
    version := 1
    weights :=
      [⟨.declared .warmService, 4⟩, ⟨.declared .locality, 3⟩,
        ⟨.declared .headroom, 2⟩, ⟨.declared .queuePressure, 2⟩,
        ⟨.declared .deviceLoad, 1⟩, ⟨.declared .stateTransfer, 1⟩,
        ⟨.declared .hostCpuSavings, 2⟩, ⟨.declared .offloadValue, 1⟩,
        ⟨.declared .failureRisk, -3⟩, ⟨.declared .energy, 0⟩,
        ⟨.declared .policyPreference, 3⟩, ⟨.declared .tiebreakId, 1⟩] }

end Policy

/-! ## Requests -/

/-- The part of a typed offload request that the coordinator's code reads. -/
structure OffloadRequest where
  offloadClass : RawEnum OffloadClass := .declared .customInfrastructureService
  requiredCaps : List CapabilityRequirement := []
  optionalCaps : List CapabilityRequirement := []
  requiredDeviceClass : Option DeviceClass := none
  pinnedDevice : Option DeviceId := none
  requiredPort : Option PortId := none
  requiredFunction : Option FunctionId := none
  minLocality : LocalityQuality := .unknown
  tenant : TenantId := .null
  isolationDomain : IsolationDomainId := .null
  isolation : IsolationSpec := {}
  resource : ResourceRequest := {}
  security : SecurityMode := .unverified
  service : Option ServiceId := none
  requiredProgram : Option ProgramId := none
  requiredAbi : Text := []
  mode : OffloadMode := .offloadRequired
  allowHostFallback : Bool := false
  minPolicyGen : PolicyGeneration := .null
  minHeadroom : UInt64 := 0
  maxQueuePressure : UInt64 := 0

/-! ## Coordinator state -/

/-- The immutable view of the coordinator state. -/
structure Snapshot where
  epoch : CoordinatorEpoch := .null
  policy : Policy := {}
  devices : ExtTreeMap DeviceId DeviceRecord := ∅
  services : ExtTreeMap ServiceId ServiceDefinition := ∅
  programs : ExtTreeMap ProgramId (ExtTreeMap ProgramGeneration ProgramArtifact) := ∅
  currentProgramGen : ExtTreeMap ProgramId ProgramGeneration := ∅
  deployments : ExtTreeMap DeploymentId Deployment := ∅
  activations : ExtTreeMap ActivationId ActivationRecord := ∅
  deviceUsage : ExtTreeMap DeviceId Usage := ∅
  deviceOrder : List DeviceId := []

/-- `current_gen`: null when the program has no current generation. -/
def Snapshot.currentGen (snap : Snapshot) (id : ProgramId) : ProgramGeneration :=
  match snap.currentProgramGen[id]? with
  | none => .null
  | some gen => gen

/-- The live coordinator state. -/
structure LiveState where
  epoch : CoordinatorEpoch := .null
  policy : Policy := {}
  devices : ExtTreeMap DeviceId DeviceRecord := ∅
  services : ExtTreeMap ServiceId ServiceDefinition := ∅
  programs : ExtTreeMap ProgramId (ExtTreeMap ProgramGeneration ProgramArtifact) := ∅
  currentProgramGen : ExtTreeMap ProgramId ProgramGeneration := ∅
  deployments : ExtTreeMap DeploymentId Deployment := ∅
  activations : ExtTreeMap ActivationId ActivationRecord := ∅
  ledgers : ExtTreeMap DeviceId ResourceLedger := ∅
  usage : ExtTreeMap DeviceId Usage := ∅
  deviceOrder : List DeviceId := []
  functionOwner : ExtTreeMap FunctionId DeviceId := ∅
  portOwner : ExtTreeMap PortId DeviceId := ∅
  workers : ExtTreeMap WorkerId WorkerBootId := ∅
  workerSeq : ExtTreeMap WorkerId UInt64 := ∅

/-- Publish an immutable snapshot from live state. -/
def makeSnapshot (s : LiveState) : Snapshot :=
  { epoch := s.epoch
    policy := s.policy
    devices := s.devices
    services := s.services
    programs := s.programs
    currentProgramGen := s.currentProgramGen
    deployments := s.deployments
    activations := s.activations
    deviceUsage := s.usage
    deviceOrder := s.deviceOrder }

end DPUFabric
