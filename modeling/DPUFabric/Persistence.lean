import DPUFabric.Wire
import DPUFabric.Registry

/-!
# Loading the durable state file

`PersistenceStore::load` checks the container, parses the payload into the
live state it was given, and fences everything dynamic once the last byte was
consumed.  The parser writes into that state while it reads, so a payload that
turns out malformed has already changed it; the model keeps those writes.

The file is the byte content found at the path, or `none` when it cannot be
opened.  Errors of the operating system while the bytes are read are not
modelled.
-/

namespace DPUFabric.Persistence

open Std
open DPUFabric.Wire

/-! ## Record readers -/

/-- `rd_id<IdT>(r)`. -/
def readId {tag : IdTag} : ReaderM (Id tag) := do
  return ⟨← u64⟩

/-- A byte cast to an enumeration without a range check. -/
def readEnum {E : Type} [Enumerator E] : ReaderM (RawEnum E) := do
  return RawEnum.ofCode (← u8)

/-- A byte cast to an enumeration, then checked to be a declared value. -/
def readDeclared {E : Type} [Enumerator E] (detail : String) : ReaderM E := do
  match Enumerator.ofCode? (← u8) with
  | some value => return value
  | none => throw (.error .corruptState detail)

/-- A count with its bound. -/
def readCount (bound : Nat) (detail : String) : ReaderM Nat := do
  let n ← u32
  if n.toNat > bound then throw (.error .corruptState detail)
  return n.toNat

def readKey : ReaderM CapabilityKey := do
  match CapabilityKey.ofText (← str) with
  | .ok key => return key
  | .error fault => throw fault

def readSha : ReaderM (Vector UInt8 32) := do
  let bytes ← many u8 32
  return Vector.ofFn fun i => bytes.getD i 0

def readCap : ReaderM Capability := do
  let key ← readKey
  let state ← readDeclared "bad capability state"
  let evidenceGen ← readId
  let version ← u64
  let minFirmwareGen ← readId
  let minRuntimeGen ← readId
  let maxScale ← u64
  let requiresIsolation ← flag
  let source ← readEnum
  let detail ← str
  return {
    key, state := .declared state, evidenceGen, version, minFirmwareGen,
    minRuntimeGen, maxScale, requiresIsolation, source, detail }

def readCapreq : ReaderM CapabilityRequirement := do
  let key ← readKey
  let isOptional ← flag
  let minVersion ← u64
  return { key, isOptional, minVersion }

def readResourceReq : ReaderM ResourceRequest := do
  let memoryBytes ← u64
  let queues ← u64
  let functions ← u64
  let slots ← u64
  let contexts ← u64
  return { memoryBytes, queues, functions, slots, contexts }

def readResourceCap : ReaderM ResourceProfile := do
  let memoryBytes ← u64
  let queues ← u64
  let functions ← u64
  let slots ← u64
  let contexts ← u64
  return { memoryBytes, queues, functions, slots, contexts }

def readUsage : ReaderM Usage := do
  let memoryBytes ← u64
  let queues ← u64
  let functions ← u64
  let slots ← u64
  let contexts ← u64
  return { memoryBytes, queues, functions, slots, contexts }

def readIsolation : ReaderM IsolationSpec := do
  let level ← readEnum
  let isolationDomain ← readId
  let tenant ← readId
  let trustDomain ← str
  let securityDomain ← str
  let security ← readEnum
  return { level, isolationDomain, tenant, trustDomain, securityDomain, security }

def readDevice : ReaderM DeviceRecord := do
  let deviceId ← readId
  let generation ← readId
  let bootId ← readId
  let vendor ← str
  let model ← str
  let deviceClass ← readDeclared "bad device class"
  let pciReference ← str
  let parentNicReference ← str
  let parentFunction ← readId
  let firmwareVersion ← str
  let firmwareGen ← readId
  let runtimeVersion ← str
  let runtimeGen ← readId
  let architecture ← str
  let processingUnits ← u64
  let memoryBytes ← u64
  let availableProgrammableMemory ← u64
  let resourceCapacity ← readResourceCap
  let nports ← readCount kMaxContainerCount "port count out of bounds"
  let ports ← many readId nports
  let nfun ← readCount kMaxContainerCount "function count out of bounds"
  let functions ← many readId nfun
  let ncap ← readCount kMaxContainerCount "capability count out of bounds"
  let caps ← many readCap ncap
  let nclass ← readCount 64 "offload class count out of bounds"
  let offloadClasses ← many readEnum nclass
  let nem ← readCount 16 "execution model count out of bounds"
  let executionModels ← many readEnum nem
  let npf ← readCount kMaxContainerCount "program format count out of bounds"
  let programFormats ← many str npf
  let supportsDma ← flag
  let rdmaAdjacent ← flag
  let hostComm ← str
  let hardwareIsolation ← flag
  let isolationDomain ← readId
  let tenant ← readId
  let isolationProven ← flag
  let locality ← readEnum
  let health ← readDeclared "bad device health"
  let lifecycle ← readDeclared "bad device lifecycle"
  let discoverySource ← readEnum
  let evidenceGen ← readId
  let evidenceFresh ← flag
  let discoveryDetail ← str
  let owningWorker ← readId
  let ownerWorkerBoot ← readId
  return {
    deviceId, generation, bootId, vendor, model
    deviceClass := .declared deviceClass
    pciReference, parentNicReference, parentFunction
    firmwareVersion, firmwareGen, runtimeVersion, runtimeGen, architecture
    processingUnits, memoryBytes, availableProgrammableMemory
    resourceCapacity, ports, functions
    capabilities := caps.foldl CapabilitySet.add ∅
    offloadClasses, executionModels, programFormats
    supportsDma, rdmaAdjacent, hostComm, hardwareIsolation
    isolationDomain, tenant, isolationProven, locality
    health := .declared health
    lifecycle := .declared lifecycle
    discoverySource, evidenceGen, evidenceFresh, discoveryDetail
    owningWorker, ownerWorkerBoot }

def readService : ReaderM ServiceDefinition := do
  let serviceId ← readId
  let serviceGen ← readId
  let offloadClass ← readDeclared "bad offload class"
  let nreq ← readCount kMaxContainerCount "required cap count out of bounds"
  let requiredCaps ← many readCapreq nreq
  let nopt ← readCount kMaxContainerCount "optional cap count out of bounds"
  let optionalCaps ← many readCapreq nopt
  let isolation ← readIsolation
  let resource ← readResourceReq
  let executionModel ← readEnum
  let minFirmwareGen ← readId
  let minRuntimeGen ← readId
  let requiredProgram ← readId
  let requiredAbi ← str
  let statefulness ← readEnum
  let recoverable ← flag
  let nfall ← readCount 32 "fallback class count out of bounds"
  let allowedFallbackClasses ← many readEnum nfall
  let failurePolicy ← str
  let ndeps ← readCount kMaxContainerCount "dependency count out of bounds"
  let dependencies ← many readId ndeps
  return {
    serviceId, serviceGen, offloadClass, requiredCaps, optionalCaps, isolation
    resource, executionModel, minFirmwareGen, minRuntimeGen, requiredProgram
    requiredAbi, statefulness, recoverable, allowedFallbackClasses
    failurePolicy, dependencies }

def readProgram : ReaderM ProgramArtifact := do
  let programId ← readId
  let programGen ← readId
  let artifactId ← readId
  let artifactGen ← readId
  let artifactType ← readEnum
  let version ← str
  let contentHash ← readSha
  let targetArchitecture ← str
  let runtimeAbi ← str
  let n ← readCount kMaxContainerCount "program cap count out of bounds"
  let requiredCaps ← many readCapreq n
  let minFirmwareGen ← readId
  let provenance ← str
  let sizeHint ← str
  return {
    programId, programGen, artifactId, artifactGen, artifactType, version
    contentHash, targetArchitecture, runtimeAbi, requiredCaps, minFirmwareGen
    provenance, sizeHint }

def readDeployment : ReaderM Deployment := do
  let deploymentId ← readId
  let generation ← readId
  let attemptId ← readId
  let service ← readId
  let serviceGen ← readId
  let program ← readId
  let programGen ← readId
  let artifact ← readId
  let artifactGen ← readId
  let device ← readId
  let deviceGen ← readId
  let deviceBoot ← readId
  let tenant ← readId
  let isolationDomain ← readId
  let resources ← readResourceReq
  let state ← readDeclared "bad deployment state"
  let hasActivation ← flag
  let activation ← if hasActivation then some <$> readId else pure none
  let activationGen ← readId
  let epoch ← readId
  let workerBoot ← readId
  let evidenceGen ← readId
  let policyGen ← readId
  let authoritative ← flag
  let createdMs ← u64
  let updatedMs ← u64
  return {
    deploymentId, generation, attemptId, service, serviceGen, program
    programGen, artifact, artifactGen, device, deviceGen, deviceBoot, tenant
    isolationDomain, resources, state, activation, activationGen, epoch
    workerBoot, evidenceGen, policyGen, authoritative, createdMs, updatedMs }

/-! ## The payload -/

/-- The parser's position together with the live state it fills. -/
structure LoadState where
  ahead : List UInt8
  out : LiveState

abbrev LoadM := EStateM Fault LoadState

/-- Run a record reader at the parser's position. -/
def reading {α : Type} (read : ReaderM α) : LoadM α := fun s =>
  match read s.ahead with
  | .ok value ahead => .ok value { s with ahead := ahead }
  | .error fault ahead => .error fault { s with ahead := ahead }

/-- Write into the live state. -/
def fill (change : LiveState → LiveState) : LoadM Unit := fun s =>
  .ok () { s with out := change s.out }

/-- `for (i = 0; i < n; ++i) body`. -/
def times (body : LoadM Unit) : Nat → LoadM Unit
  | 0 => return ()
  | n + 1 => do
      body
      times body n

def loadPolicy : LoadM Unit := do
  let persistedEpoch ← reading u64
  fill fun out => { out with epoch := ⟨max persistedEpoch 1⟩ }
  let policy (change : Policy → Policy) : LoadM Unit :=
    fill fun out => { out with policy := change out.policy }
  let generation ← reading readId
  policy fun p => { p with generation := generation }
  let version ← reading u64
  policy fun p => { p with version := version }
  let allowHostFallback ← reading flag
  policy fun p => { p with allowHostFallback := allowHostFallback }
  let requireAuthoritativeEvidence ← reading flag
  policy fun p =>
    { p with requireAuthoritativeEvidence := requireAuthoritativeEvidence }
  let preferWarmDeployments ← reading flag
  policy fun p => { p with preferWarmDeployments := preferWarmDeployments }
  let preferDedicatedIsolation ← reading flag
  policy fun p => { p with preferDedicatedIsolation := preferDedicatedIsolation }
  let requireOffloadForRequired ← reading flag
  policy fun p => { p with requireOffloadForRequired := requireOffloadForRequired }
  let minHeadroom ← reading u64
  policy fun p => { p with minHeadroom := minHeadroom }
  let maxQueuePressure ← reading u64
  policy fun p => { p with maxQueuePressure := maxQueuePressure }
  let minDeviceHealth ← reading readEnum
  policy fun p => { p with minDeviceHealth := minDeviceHealth }
  let nweights ← reading (readCount 64 "policy weight count out of bounds")
  -- The weights are appended to those the policy already has.
  times (do
    let factor ← reading readEnum
    let weight ← reading i32
    policy fun p =>
      { p with weights := p.weights ++ [{ factor, weight := weight.toInt64 }] })
    nweights

def loadDevices : LoadM Unit := do
  let ndev ← reading (readCount kMaxContainerCount "device count out of bounds")
  times (do
    let d ← reading readDevice
    fill fun out =>
      { out with
        devices := out.devices.insert d.deviceId d
        deviceOrder := out.deviceOrder ++ [d.deviceId]
        ledgers := out.ledgers.insertIfNew d.deviceId ⟨d.resourceCapacity, {}⟩ })
    ndev

def loadServices : LoadM Unit := do
  let nsvc ← reading (readCount kMaxContainerCount "service count out of bounds")
  times (do
    let s ← reading readService
    fill fun out => { out with services := out.services.insert s.serviceId s })
    nsvc

def loadPrograms : LoadM Unit := do
  let nprog ← reading (readCount kMaxContainerCount "program count out of bounds")
  times (do
    let pid ← reading readId
    let ng ← reading (readCount 256 "program generation count out of bounds")
    times (do
      let g ← reading readId
      let art ← reading readProgram
      let cur ← reading flag
      fill fun out =>
        { out with
          programs :=
            out.programs.insert pid ((out.programs.getD pid ∅).insert g art) }
      if cur then
        fill fun out =>
          { out with currentProgramGen := out.currentProgramGen.insert pid g })
      ng)
    nprog

def loadDeployments : LoadM Unit := do
  let ndep ← reading (readCount kMaxContainerCount "deployment count out of bounds")
  times (do
    let d ← reading readDeployment
    fill fun out =>
      { out with deployments := out.deployments.insert d.deploymentId d })
    ndep

def loadUsage : LoadM Unit := do
  let nusage ← reading (readCount kMaxContainerCount "usage count out of bounds")
  times (do
    let did ← reading readId
    let u ← reading readUsage
    fill fun out => { out with usage := out.usage.insert did u })
    nusage

/-- What conservative recovery leaves of a device. -/
def fenceRecoveredDevice (d : DeviceRecord) : DeviceRecord :=
  let d := { d with evidenceFresh := false }
  if d.lifecycle ≠ .declared .retired ∧ d.lifecycle ≠ .declared .failed ∧
      d.lifecycle ≠ .declared .offline then
    { d with lifecycle := .declared .revalidationRequired }
  else d

/-- What conservative recovery leaves of a deployment. -/
def fenceRecoveredDeployment (dep : Deployment) : Deployment :=
  let dep :=
    if dep.state = .active ∨ dep.state = .degraded ∨ dep.state = .draining then
      { dep with state := .revalidationRequired }
    else dep
  { dep with authoritative := false, activation := none }

/-- No live authority survives a restart as fresh. -/
def fenceRecovered (out : LiveState) : LiveState :=
  { out with
    devices := out.devices.map fun _ d => fenceRecoveredDevice d
    deployments := out.deployments.map fun _ dep => fenceRecoveredDeployment dep
    activations := ∅ }

/-- The sections of the payload, to its last byte. -/
def loadSections : LoadM Unit := do
  loadPolicy
  loadDevices
  loadServices
  loadPrograms
  loadDeployments
  loadUsage
  reading expectEnd

def loadPayload : LoadM Unit := do
  loadSections
  fill fenceRecovered

/-! ## The container -/

/-- `kMagic`. -/
def kMagic : UInt32 := 0x44504652

def kFormatVersion : UInt16 := 1

/-- `kMaxFileBytes`, 1 GiB. -/
def kMaxFileBytes : Nat := 2 ^ 30

def kFixedHead : Nat := 20

def kHeaderCrcLen : Nat := 16

def kTrailerFixed : Nat := 4

/-- The payload of a file whose container is intact. -/
def openContainer (buf : List UInt8) : Except Fault (List UInt8) :=
  let corrupt (detail : String) : Except Fault (List UInt8) :=
    .error (.error .corruptState detail)
  if buf.length = 0 then corrupt "empty state file"
  else if buf.length > kMaxFileBytes then corrupt "state file exceeds bound"
  else if buf.length < kFixedHead + kTrailerFixed then corrupt "state file too small"
  else
    let magic := littleEndian (buf.take 4)
    let ver := littleEndian ((buf.drop 4).take 2)
    let reserved := littleEndian ((buf.drop 6).take 2)
    let payloadLen := littleEndian ((buf.drop 8).take 8)
    let headerCrc := littleEndian ((buf.drop 16).take 4)
    if magic ≠ kMagic.toNat then corrupt "bad state magic"
    else if ver ≠ kFormatVersion.toNat then corrupt "unsupported state version"
    else if reserved ≠ 0 then corrupt "bad reserved field"
    else if payloadLen > kMaxFileBytes then corrupt "payload length exceeds bound"
    else if (crc32 (buf.take kHeaderCrcLen)).toNat ≠ headerCrc then
      .error (.error .checksumFailure "state header checksum mismatch")
    else if buf.length ≠ kFixedHead + payloadLen + kTrailerFixed then
      corrupt "state file has trailing or missing bytes"
    else
      let payload := (buf.drop kFixedHead).take payloadLen
      let payloadCrc := littleEndian (buf.drop (kFixedHead + payloadLen))
      if (crc32 payload).toNat ≠ payloadCrc then
        .error (.error .checksumFailure "state payload checksum mismatch")
      else .ok payload

/--
`PersistenceStore::load`: false when the file does not exist, an error with
the state as far as it was filled, or true with the fenced state.
-/
def load (file : Option (List UInt8)) : EStateM Fault LiveState Bool := fun out =>
  match file with
  | none => .ok false out
  | some buf =>
      match openContainer buf with
      | .error fault => .error fault out
      | .ok payload =>
          match loadPayload { ahead := payload, out := out } with
          | .ok _ s => .ok true s.out
          | .error fault s => .error fault s.out

end DPUFabric.Persistence
