import DPUFabric.Save

/-!
# What the state file can hold

The writer refuses only long strings; the reader checks counts, capability keys
and some enumerations.  For every record this module names its strings, what
the reader checks of it, and its size on disk.
-/

namespace DPUFabric

open Std
open DPUFabric.Wire

/-- The writer takes a string of this length. -/
def IsShort (t : Text) : Prop := t.length ≤ kMaxStringBytes

/-- The total length of some strings. -/
def lengths (texts : List Text) : Nat := (texts.map List.length).sum

/-! ## Capabilities -/

def Capability.encodedSize (c : Capability) : Nat :=
  51 + c.key.value.length + c.detail.length

/-- The reader takes the capability: its key is one and its state is declared. -/
@[mk_iff]
structure Capability.Storable (c : Capability) : Prop where
  key : isValidKey c.key.value = true
  state : c.state.isDeclared = true

def CapabilityRequirement.encodedSize (cr : CapabilityRequirement) : Nat :=
  13 + cr.key.value.length

def CapabilityRequirement.Storable (cr : CapabilityRequirement) : Prop :=
  isValidKey cr.key.value = true

/-- The records of a capability set, as they are written. -/
def CapabilitySet.records (set : CapabilitySet) : List Capability :=
  set.toList.map Prod.snd

/-! ## Devices -/

namespace DeviceRecord

/-- The strings of the record itself. -/
def labels (d : DeviceRecord) : List Text :=
  [d.vendor, d.model, d.pciReference, d.parentNicReference, d.firmwareVersion,
    d.runtimeVersion, d.architecture, d.hostComm, d.discoveryDetail]

def encodedSize (d : DeviceRecord) : Nat :=
  222 + lengths d.labels + 8 * d.ports.length + 8 * d.functions.length +
    (d.capabilities.records.map Capability.encodedSize).sum + d.offloadClasses.length +
    d.executionModels.length + (d.programFormats.map fun s => 4 + s.length).sum

/-- All strings of the record are short. -/
@[mk_iff]
structure Writable (d : DeviceRecord) : Prop where
  labels : ∀ t ∈ d.labels, IsShort t
  capabilities : ∀ c ∈ d.capabilities.records, IsShort c.detail
  programFormats : ∀ t ∈ d.programFormats, IsShort t

/-- What `read_device` checks. -/
@[mk_iff]
structure Storable (d : DeviceRecord) : Prop where
  deviceClass : d.deviceClass.isDeclared = true
  ports : d.ports.length ≤ kMaxContainerCount
  functions : d.functions.length ≤ kMaxContainerCount
  capabilityCount : d.capabilities.records.length ≤ kMaxContainerCount
  capabilities : ∀ c ∈ d.capabilities.records, c.Storable
  offloadClasses : d.offloadClasses.length ≤ 64
  executionModels : d.executionModels.length ≤ 16
  programFormats : d.programFormats.length ≤ kMaxContainerCount
  health : d.health.isDeclared = true
  lifecycle : d.lifecycle.isDeclared = true

/-- Every capability is filed under its own key. -/
def Keyed (d : DeviceRecord) : Prop :=
  ∀ entry ∈ d.capabilities.toList, entry.2.key = entry.1

/-- The record as it is read back: the capabilities are filed under their own keys. -/
def rekeyed (d : DeviceRecord) : DeviceRecord :=
  { d with capabilities := d.capabilities.records.foldl CapabilitySet.add ∅ }

end DeviceRecord

/-! ## Services and programs -/

def IsolationSpec.encodedSize (iso : IsolationSpec) : Nat :=
  26 + iso.trustDomain.length + iso.securityDomain.length

namespace ServiceDefinition

def labels (s : ServiceDefinition) : List Text :=
  [s.isolation.trustDomain, s.isolation.securityDomain, s.requiredAbi, s.failurePolicy]

def encodedSize (s : ServiceDefinition) : Nat :=
  134 + lengths s.labels +
    (s.requiredCaps.map CapabilityRequirement.encodedSize).sum +
    (s.optionalCaps.map CapabilityRequirement.encodedSize).sum +
    s.allowedFallbackClasses.length + 8 * s.dependencies.length

def Writable (s : ServiceDefinition) : Prop := ∀ t ∈ s.labels, IsShort t

/-- What `read_service` checks. -/
@[mk_iff]
structure Storable (s : ServiceDefinition) : Prop where
  requiredCount : s.requiredCaps.length ≤ kMaxContainerCount
  required : ∀ cr ∈ s.requiredCaps, cr.Storable
  optionalCount : s.optionalCaps.length ≤ kMaxContainerCount
  optional : ∀ cr ∈ s.optionalCaps, cr.Storable
  fallback : s.allowedFallbackClasses.length ≤ 32
  dependencies : s.dependencies.length ≤ kMaxContainerCount

end ServiceDefinition

namespace ProgramArtifact

def labels (p : ProgramArtifact) : List Text :=
  [p.version, p.targetArchitecture, p.runtimeAbi, p.provenance, p.sizeHint]

def encodedSize (p : ProgramArtifact) : Nat :=
  97 + lengths p.labels + (p.requiredCaps.map CapabilityRequirement.encodedSize).sum

def Writable (p : ProgramArtifact) : Prop := ∀ t ∈ p.labels, IsShort t

/-- What `read_program` checks. -/
@[mk_iff]
structure Storable (p : ProgramArtifact) : Prop where
  requiredCount : p.requiredCaps.length ≤ kMaxContainerCount
  required : ∀ cr ∈ p.requiredCaps, cr.Storable

end ProgramArtifact

/-! ## Deployments -/

def Deployment.encodedSize (d : Deployment) : Nat :=
  211 + d.activation.elim 0 fun _ => 8

/-! ## The payload -/

/-- A list of identities names every entry of a device table once, and nothing else. -/
structure Enumerates (order : List DeviceId) (devices : ExtTreeMap DeviceId DeviceRecord) :
    Prop where
  nodup : order.Nodup
  listed : ∀ id : DeviceId, id ∈ order ↔ ∃ d, devices[id]? = some d

namespace Snapshot

/-- The device records in the order in which they are written. -/
def orderedDevices (s : Snapshot) : List DeviceRecord :=
  s.deviceOrder.filterMap fun id => s.devices[id]?

/-- All strings of the snapshot are short. -/
@[mk_iff]
structure Writable (s : Snapshot) : Prop where
  devices : ∀ d ∈ s.orderedDevices, d.Writable
  services : ∀ entry ∈ s.services.toList, entry.2.Writable
  programs : ∀ entry ∈ s.programs.toList, ∀ gen ∈ entry.2.toList, gen.2.Writable

/-- What `PersistenceStore::load` checks of the sections. -/
@[mk_iff]
structure SectionsStorable (s : Snapshot) : Prop where
  weights : s.policy.weights.length ≤ 64
  deviceCount : s.orderedDevices.length ≤ kMaxContainerCount
  devices : ∀ d ∈ s.orderedDevices, d.Storable
  serviceCount : s.services.toList.length ≤ kMaxContainerCount
  services : ∀ entry ∈ s.services.toList, entry.2.Storable
  programCount : s.programs.toList.length ≤ kMaxContainerCount
  generationCounts : ∀ entry ∈ s.programs.toList, entry.2.toList.length ≤ 256
  programs : ∀ entry ∈ s.programs.toList, ∀ gen ∈ entry.2.toList, gen.2.Storable
  deploymentCount : s.deployments.toList.length ≤ kMaxContainerCount
  usageCount : s.deviceUsage.toList.length ≤ kMaxContainerCount

/-- The size of the payload. -/
def encodedSize (s : Snapshot) : Nat :=
  (50 + 5 * s.policy.weights.length) +
    (4 + (s.orderedDevices.map DeviceRecord.encodedSize).sum) +
    (4 + (s.services.toList.map fun entry => entry.2.encodedSize).sum) +
    (4 + (s.programs.toList.map fun entry =>
      12 + (entry.2.toList.map fun gen => 9 + gen.2.encodedSize).sum).sum) +
    (4 + (s.deployments.toList.map fun entry => entry.2.encodedSize).sum) +
    (4 + 48 * s.deviceUsage.toList.length)

/-- What `PersistenceStore::load` checks of the whole file. -/
@[mk_iff]
structure Storable (s : Snapshot) : Prop where
  sections : s.SectionsStorable
  fileSize : Persistence.kFixedHead + s.encodedSize + Persistence.kTrailerFixed ≤
    Persistence.kMaxFileBytes

/-- The number written in front of the devices is that of the records written behind it. -/
def DevicesCounted (s : Snapshot) : Prop :=
  s.orderedDevices.length = s.devices.size

/--
The tables of a snapshot fit together: records are filed under their own
identities, the device order lists exactly the devices, a program has a
generation, and a current generation is a stored one.
-/
structure Consistent (s : Snapshot) : Prop where
  order : s.deviceOrder.Nodup
  listed : ∀ id : DeviceId, id ∈ s.deviceOrder ↔ ∃ d, s.devices[id]? = some d
  devices : ∀ (id : DeviceId) (d : DeviceRecord), s.devices[id]? = some d → d.deviceId = id
  services : ∀ (id : ServiceId) (svc : ServiceDefinition),
    s.services[id]? = some svc → svc.serviceId = id
  generations : ∀ (pid : ProgramId) (gens : ExtTreeMap ProgramGeneration ProgramArtifact),
    s.programs[pid]? = some gens → ∃ (g : ProgramGeneration) (art : ProgramArtifact),
      gens[g]? = some art
  current : ∀ (pid : ProgramId) (g : ProgramGeneration),
    s.currentProgramGen[pid]? = some g →
      ∃ gens, s.programs[pid]? = some gens ∧ ∃ art : ProgramArtifact, gens[g]? = some art
  deployments : ∀ (id : DeploymentId) (dep : Deployment),
    s.deployments[id]? = some dep → dep.deploymentId = id

theorem Consistent.enumerates {s : Snapshot} (consistent : s.Consistent) :
    Enumerates s.deviceOrder s.devices :=
  ⟨consistent.order, consistent.listed⟩

end Snapshot

/-! ## The conditions can be evaluated -/

instance (t : Text) : Decidable (IsShort t) :=
  inferInstanceAs (Decidable (_ ≤ _))

instance (s : Snapshot) : Decidable s.DevicesCounted :=
  inferInstanceAs (Decidable (_ = _))

instance (c : Capability) : Decidable c.Storable :=
  decidable_of_iff _ (Capability.storable_iff c).symm

instance (cr : CapabilityRequirement) : Decidable cr.Storable :=
  inferInstanceAs (Decidable (_ = true))

instance (d : DeviceRecord) : Decidable d.Writable :=
  decidable_of_iff _ (DeviceRecord.writable_iff d).symm

instance (d : DeviceRecord) : Decidable d.Storable :=
  decidable_of_iff _ (DeviceRecord.storable_iff d).symm

instance (d : DeviceRecord) : Decidable d.Keyed :=
  inferInstanceAs (Decidable (∀ _ ∈ _, _))

instance (s : ServiceDefinition) : Decidable s.Writable :=
  inferInstanceAs (Decidable (∀ _ ∈ _, _))

instance (s : ServiceDefinition) : Decidable s.Storable :=
  decidable_of_iff _ (ServiceDefinition.storable_iff s).symm

instance (p : ProgramArtifact) : Decidable p.Writable :=
  inferInstanceAs (Decidable (∀ _ ∈ _, _))

instance (p : ProgramArtifact) : Decidable p.Storable :=
  decidable_of_iff _ (ProgramArtifact.storable_iff p).symm

instance (s : Snapshot) : Decidable s.Writable :=
  decidable_of_iff _ (Snapshot.writable_iff s).symm

instance (s : Snapshot) : Decidable s.SectionsStorable :=
  decidable_of_iff _ (Snapshot.sectionsStorable_iff s).symm

instance (s : Snapshot) : Decidable s.Storable :=
  decidable_of_iff _ (Snapshot.storable_iff s).symm

end DPUFabric
