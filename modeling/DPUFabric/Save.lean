import DPUFabric.Persistence

/-!
# Writing the durable state file

`PersistenceStore::save` serializes a snapshot into a payload, section by
section, puts the payload into a container with two checksums, and replaces the
file.  Here are the bytes; how the file is replaced is in
`DPUFabric.AtomicReplace`.

The writers are the counterparts of the readers in `DPUFabric.Persistence`, field
by field.  They check nothing but the lengths of strings.
-/

namespace DPUFabric.Persistence

open Std
open DPUFabric.Wire

/-! ## Record writers -/

/-- `write_id(w, id.as_u64())`. -/
def writeId {tag : IdTag} (id : Id tag) : WriterM Unit := Writer.u64 id.value

/-- `w.u8(static_cast<uint8_t>(value))`. -/
def writeEnum {E : Type} [Enumerator E] [DecidableEq E] (value : RawEnum E) : WriterM Unit :=
  Writer.u8 value.code

/-- `write_string(w, key.str())`. -/
def writeKey (key : CapabilityKey) : WriterM Unit := Writer.str key.value

def writeSha (a : Vector UInt8 32) : WriterM Unit := a.toList.forM Writer.u8

def writeCap (c : Capability) : WriterM Unit := do
  writeKey c.key
  writeEnum c.state
  writeId c.evidenceGen
  Writer.u64 c.version
  writeId c.minFirmwareGen
  writeId c.minRuntimeGen
  Writer.u64 c.maxScale
  Writer.flag c.requiresIsolation
  writeEnum c.source
  Writer.str c.detail

def writeCapreq (cr : CapabilityRequirement) : WriterM Unit := do
  writeKey cr.key
  Writer.flag cr.isOptional
  Writer.u64 cr.minVersion

def writeResourceReq (rr : ResourceRequest) : WriterM Unit := do
  Writer.u64 rr.memoryBytes
  Writer.u64 rr.queues
  Writer.u64 rr.functions
  Writer.u64 rr.slots
  Writer.u64 rr.contexts

def writeResourceCap (p : ResourceProfile) : WriterM Unit := do
  Writer.u64 p.memoryBytes
  Writer.u64 p.queues
  Writer.u64 p.functions
  Writer.u64 p.slots
  Writer.u64 p.contexts

def writeUsage (u : Usage) : WriterM Unit := do
  Writer.u64 u.memoryBytes
  Writer.u64 u.queues
  Writer.u64 u.functions
  Writer.u64 u.slots
  Writer.u64 u.contexts

def writeIsolation (iso : IsolationSpec) : WriterM Unit := do
  writeEnum iso.level
  writeId iso.isolationDomain
  writeId iso.tenant
  Writer.str iso.trustDomain
  Writer.str iso.securityDomain
  writeEnum iso.security

def writeDevice (d : DeviceRecord) : WriterM Unit := do
  writeId d.deviceId
  writeId d.generation
  writeId d.bootId
  Writer.str d.vendor
  Writer.str d.model
  writeEnum d.deviceClass
  Writer.str d.pciReference
  Writer.str d.parentNicReference
  writeId d.parentFunction
  Writer.str d.firmwareVersion
  writeId d.firmwareGen
  Writer.str d.runtimeVersion
  writeId d.runtimeGen
  Writer.str d.architecture
  Writer.u64 d.processingUnits
  Writer.u64 d.memoryBytes
  Writer.u64 d.availableProgrammableMemory
  writeResourceCap d.resourceCapacity
  Writer.counted writeId d.ports
  Writer.counted writeId d.functions
  Writer.counted writeCap (d.capabilities.toList.map Prod.snd)
  Writer.counted writeEnum d.offloadClasses
  Writer.counted writeEnum d.executionModels
  Writer.counted Writer.str d.programFormats
  Writer.flag d.supportsDma
  Writer.flag d.rdmaAdjacent
  Writer.str d.hostComm
  Writer.flag d.hardwareIsolation
  writeId d.isolationDomain
  writeId d.tenant
  Writer.flag d.isolationProven
  writeEnum d.locality
  writeEnum d.health
  writeEnum d.lifecycle
  writeEnum d.discoverySource
  writeId d.evidenceGen
  Writer.flag d.evidenceFresh
  Writer.str d.discoveryDetail
  writeId d.owningWorker
  writeId d.ownerWorkerBoot

def writeService (s : ServiceDefinition) : WriterM Unit := do
  writeId s.serviceId
  writeId s.serviceGen
  writeEnum (.declared s.offloadClass)
  Writer.counted writeCapreq s.requiredCaps
  Writer.counted writeCapreq s.optionalCaps
  writeIsolation s.isolation
  writeResourceReq s.resource
  writeEnum s.executionModel
  writeId s.minFirmwareGen
  writeId s.minRuntimeGen
  writeId s.requiredProgram
  Writer.str s.requiredAbi
  writeEnum s.statefulness
  Writer.flag s.recoverable
  Writer.counted writeEnum s.allowedFallbackClasses
  Writer.str s.failurePolicy
  Writer.counted writeId s.dependencies

def writeProgram (p : ProgramArtifact) : WriterM Unit := do
  writeId p.programId
  writeId p.programGen
  writeId p.artifactId
  writeId p.artifactGen
  writeEnum p.artifactType
  Writer.str p.version
  writeSha p.contentHash
  Writer.str p.targetArchitecture
  Writer.str p.runtimeAbi
  Writer.counted writeCapreq p.requiredCaps
  writeId p.minFirmwareGen
  Writer.str p.provenance
  Writer.str p.sizeHint

/-- `if (d.activation) write_id(w, d.activation->as_u64())`. -/
def writeLink (activation : Option ActivationId) : WriterM Unit :=
  match activation with
  | none => return ()
  | some aid => writeId aid

def writeDeployment (d : Deployment) : WriterM Unit := do
  writeId d.deploymentId
  writeId d.generation
  writeId d.attemptId
  writeId d.service
  writeId d.serviceGen
  writeId d.program
  writeId d.programGen
  writeId d.artifact
  writeId d.artifactGen
  writeId d.device
  writeId d.deviceGen
  writeId d.deviceBoot
  writeId d.tenant
  writeId d.isolationDomain
  writeResourceReq d.resources
  writeEnum (.declared d.state)
  Writer.flag d.activation.isSome
  writeLink d.activation
  writeId d.activationGen
  writeId d.epoch
  writeId d.workerBoot
  writeId d.evidenceGen
  writeId d.policyGen
  Writer.flag d.authoritative
  Writer.u64 d.createdMs
  Writer.u64 d.updatedMs

/-! ## The payload -/

/-- A weight is written in 32 bits. -/
def writeWeight (wt : RankFactorWeight) : WriterM Unit := do
  writeEnum wt.factor
  Writer.i32 wt.weight.toInt32

/-- The epoch and the policy; `hard_caps` and `preferred_devices` are not written. -/
def writePolicy (s : Snapshot) : WriterM Unit := do
  writeId s.epoch
  writeId s.policy.generation
  Writer.u64 s.policy.version
  Writer.flag s.policy.allowHostFallback
  Writer.flag s.policy.requireAuthoritativeEvidence
  Writer.flag s.policy.preferWarmDeployments
  Writer.flag s.policy.preferDedicatedIsolation
  Writer.flag s.policy.requireOffloadForRequired
  Writer.u64 s.policy.minHeadroom
  Writer.u64 s.policy.maxQueuePressure
  writeEnum s.policy.minDeviceHealth
  Writer.counted writeWeight s.policy.weights

/-- The count is that of the table, the records follow the device order. -/
def writeDevices (s : Snapshot) : WriterM Unit := do
  Writer.u32 (UInt32.ofNat s.devices.size)
  s.deviceOrder.forM fun id =>
    match s.devices[id]? with
    | none => return ()
    | some d => writeDevice d

def writeServices (s : Snapshot) : WriterM Unit :=
  Writer.counted (fun entry => writeService entry.2) s.services.toList

/-- Whether a generation is the current one of its program. -/
def isCurrentGen (s : Snapshot) (pid : ProgramId) (g : ProgramGeneration) : Bool :=
  match s.currentProgramGen[pid]? with
  | none => false
  | some cur => cur == g

/-- One generation of a program, with the mark of the current one. -/
def writeGeneration (s : Snapshot) (pid : ProgramId)
    (entry : ProgramGeneration × ProgramArtifact) : WriterM Unit := do
  writeId entry.1
  writeProgram entry.2
  Writer.flag (isCurrentGen s pid entry.1)

def writePrograms (s : Snapshot) : WriterM Unit :=
  Writer.counted (fun entry => do
    writeId entry.1
    Writer.counted (writeGeneration s entry.1) entry.2.toList) s.programs.toList

def writeDeployments (s : Snapshot) : WriterM Unit :=
  Writer.counted (fun entry => writeDeployment entry.2) s.deployments.toList

def writeUsages (s : Snapshot) : WriterM Unit :=
  Writer.counted (fun entry => do
    writeId entry.1
    writeUsage entry.2) s.deviceUsage.toList

/-- The sections of the payload. -/
def writeSections (s : Snapshot) : WriterM Unit := do
  writePolicy s
  writeDevices s
  writeServices s
  writePrograms s
  writeDeployments s
  writeUsages s

/-! ## The container -/

/-- The two, four or eight bytes of a number, the low one first. -/
def le16 (v : UInt16) : List UInt8 :=
  [(v &&& 0xFF).toUInt8, ((v >>> 8) &&& 0xFF).toUInt8]

def le32 (v : UInt32) : List UInt8 :=
  [(v &&& 0xFF).toUInt8, ((v >>> 8) &&& 0xFF).toUInt8,
    ((v >>> 16) &&& 0xFF).toUInt8, ((v >>> 24) &&& 0xFF).toUInt8]

def le64 (v : UInt64) : List UInt8 :=
  (List.range 8).map fun i => ((v >>> UInt64.ofNat (8 * i)) &&& 0xFF).toUInt8

def kReserved : UInt16 := 0

/-- The file around a payload. -/
def container (payload : List UInt8) : List UInt8 :=
  let file := le32 kMagic ++ le16 kFormatVersion ++ le16 kReserved ++
    le64 (UInt64.ofNat payload.length)
  let headerCrc := crc32 (file.take kHeaderCrcLen)
  file ++ le32 headerCrc ++ payload ++ le32 (crc32 payload)

/-- The bytes that `PersistenceStore::save` writes for a snapshot. -/
def serialize (s : Snapshot) : Except Fault (List UInt8) :=
  match writeSections s [] with
  | .ok _ payload => .ok (container payload)
  | .error fault _ => .error fault

end DPUFabric.Persistence
