import DPUFabric.Recovery
import DPUFabric.Sections
import DPUFabric.Library.Filling

/-!
# What a state file contains

`PersistenceStore::load` writes every record into the live state as soon as it
has read it.  Here the same bytes are read as a value, the `Contents` of the
file, and a load is what its contents make of the live state: the policy laid
over the one that was there, and the records written one after the other.
-/

namespace DPUFabric

open Std
open Codec
open Filling
open DPUFabric.Wire

/-! ## The records of a file, in order -/

/-- A program generation as it stands in the file. -/
structure StoredGeneration where
  programId : ProgramId
  generation : ProgramGeneration
  artifact : ProgramArtifact
  isCurrent : Bool

/-- What the generation is stored under. -/
def StoredGeneration.key (stored : StoredGeneration) : ProgramId × ProgramGeneration :=
  (stored.programId, stored.generation)

/-- The records that a payload holds. -/
structure Contents where
  epoch : UInt64
  /-- The fields of the policy that are stored; the weights are those of the file. -/
  policy : Policy
  devices : List DeviceRecord
  services : List ServiceDefinition
  programs : List StoredGeneration
  deployments : List Deployment
  usage : List (DeviceId × Usage)

namespace Persistence

/-- A bounded count and as many elements. -/
def readCounted {α : Type} (bound : Nat) (detail : String) (read : ReaderM α) :
    ReaderM (List α) :=
  readCount bound detail >>= many read

def readWeight : ReaderM RankFactorWeight := do
  let factor ← readEnum
  let weight ← i32
  return { factor, weight := weight.toInt64 }

/-- The epoch and the policy, which share a section. -/
def readPolicy : ReaderM (UInt64 × Policy) := do
  let epoch ← u64
  let generation ← readId
  let version ← u64
  let allowHostFallback ← flag
  let requireAuthoritativeEvidence ← flag
  let preferWarmDeployments ← flag
  let preferDedicatedIsolation ← flag
  let requireOffloadForRequired ← flag
  let minHeadroom ← u64
  let maxQueuePressure ← u64
  let minDeviceHealth ← readEnum
  let weights ← readCounted 64 "policy weight count out of bounds" readWeight
  return (epoch, {
    generation, version, allowHostFallback, requireAuthoritativeEvidence
    preferWarmDeployments, preferDedicatedIsolation, requireOffloadForRequired
    minHeadroom, maxQueuePressure, minDeviceHealth, weights })

def readGeneration (programId : ProgramId) : ReaderM StoredGeneration := do
  let generation ← readId
  let artifact ← readProgram
  let isCurrent ← flag
  return { programId, generation, artifact, isCurrent }

/-- The generations of one program. -/
def readGenerations : ReaderM (List StoredGeneration) := do
  let programId ← readId
  readCounted 256 "program generation count out of bounds" (readGeneration programId)

def readDeviceUsage : ReaderM (DeviceId × Usage) := do
  let did ← readId
  let u ← readUsage
  return (did, u)

def readContents : ReaderM Contents := do
  let head ← readPolicy
  let devices ← readCounted kMaxContainerCount "device count out of bounds" readDevice
  let services ← readCounted kMaxContainerCount "service count out of bounds" readService
  let programs ← readCounted kMaxContainerCount "program count out of bounds" readGenerations
  let deployments ←
    readCounted kMaxContainerCount "deployment count out of bounds" readDeployment
  let usage ← readCounted kMaxContainerCount "usage count out of bounds" readDeviceUsage
  expectEnd
  return {
    epoch := head.1, policy := head.2, devices, services, programs := programs.flatten
    deployments, usage }

/-- The contents of a file whose container is intact and whose payload is well formed. -/
def fileContents (buf : List UInt8) : Option Contents :=
  match openContainer buf with
  | .error _ => none
  | .ok payload =>
      match readContents payload with
      | .error _ _ => none
      | .ok contents _ => some contents

end Persistence

/-! ## What they make of a live state -/

/-- The stored fields of `policy` over `base`; the weights come behind those of `base`. -/
def Policy.laidOver (policy base : Policy) : Policy :=
  { base with
    generation := policy.generation
    version := policy.version
    allowHostFallback := policy.allowHostFallback
    requireAuthoritativeEvidence := policy.requireAuthoritativeEvidence
    preferWarmDeployments := policy.preferWarmDeployments
    preferDedicatedIsolation := policy.preferDedicatedIsolation
    requireOffloadForRequired := policy.requireOffloadForRequired
    minHeadroom := policy.minHeadroom
    maxQueuePressure := policy.maxQueuePressure
    minDeviceHealth := policy.minDeviceHealth
    weights := base.weights ++ policy.weights }

namespace LiveState

def appendWeight (wt : RankFactorWeight) (out : LiveState) : LiveState :=
  { out with policy := { out.policy with weights := out.policy.weights ++ [wt] } }

theorem foldl_appendWeight (weights : List RankFactorWeight) (out : LiveState) :
    weights.foldl (fun out wt => out.appendWeight wt) out =
      { out with policy := { out.policy with weights := out.policy.weights ++ weights } } := by
  induction weights generalizing out with
  | nil => simp
  | cons wt rest ih =>
      rw [List.foldl_cons, ih]
      simp [appendWeight]

def layPolicy (epoch : UInt64) (policy : Policy) (out : LiveState) : LiveState :=
  { out with epoch := ⟨max epoch 1⟩, policy := policy.laidOver out.policy }

def layDevices (devices : List DeviceRecord) (out : LiveState) : LiveState :=
  devices.foldl (fun out d => out.addDevice d) out

def layServices (services : List ServiceDefinition) (out : LiveState) : LiveState :=
  services.foldl (fun out svc => out.addService svc) out

def addStored (stored : StoredGeneration) (out : LiveState) : LiveState :=
  out.addGeneration stored.programId stored.generation stored.artifact stored.isCurrent

def layPrograms (programs : List StoredGeneration) (out : LiveState) : LiveState :=
  programs.foldl (fun out stored => out.addStored stored) out

def layDeployments (deployments : List Deployment) (out : LiveState) : LiveState :=
  deployments.foldl (fun out d => out.addDeployment d) out

def layUsage (usage : List (DeviceId × Usage)) (out : LiveState) : LiveState :=
  usage.foldl (fun out entry => out.addUsage entry.1 entry.2) out

end LiveState

/-- The contents, laid over a live state section after section. -/
def Contents.laidOver (c : Contents) (out : LiveState) : LiveState :=
  (((((out.layPolicy c.epoch c.policy).layDevices c.devices).layServices c.services).layPrograms
    c.programs).layDeployments c.deployments).layUsage c.usage

/-! ## What is found in it then -/

namespace LiveState

/-- The artifact stored for a generation of a program. -/
def artifactOf (out : LiveState) (key : ProgramId × ProgramGeneration) :
    Option ProgramArtifact :=
  (out.programs.getD key.1 ∅)[key.2]?

variable (out : LiveState)

theorem layDevices_eq (devices : List DeviceRecord) :
    out.layDevices devices =
      { out with
        devices := devices.foldl (fun table d => table.insert d.deviceId d) out.devices
        deviceOrder := out.deviceOrder ++ devices.map (·.deviceId)
        ledgers := devices.foldl
          (fun table d => table.insertIfNew d.deviceId ⟨d.resourceCapacity, {}⟩)
          out.ledgers } := by
  unfold layDevices
  induction devices generalizing out with
  | nil => simp
  | cons d rest ih =>
      rw [List.foldl_cons, ih]
      simp [addDevice]

theorem layServices_eq (services : List ServiceDefinition) :
    out.layServices services =
      { out with
        services :=
          services.foldl (fun table svc => table.insert svc.serviceId svc) out.services } := by
  unfold layServices
  induction services generalizing out with
  | nil => rfl
  | cons head rest ih =>
      rw [List.foldl_cons, ih]
      rfl

/-- The generations of all programs. -/
theorem layPrograms_eq (programs : List StoredGeneration) :
    out.layPrograms programs =
      { out with
        programs := programs.foldl
          (fun table stored => table.insert stored.programId
            ((table.getD stored.programId ∅).insert stored.generation stored.artifact))
          out.programs
        currentProgramGen := programs.foldl
          (fun table stored =>
            if stored.isCurrent then table.insert stored.programId stored.generation else table)
          out.currentProgramGen } := by
  unfold layPrograms
  induction programs generalizing out with
  | nil => rfl
  | cons stored rest ih =>
      rw [List.foldl_cons, ih, addStored, addGeneration_eq]
      rfl

theorem layDeployments_eq (deployments : List Deployment) :
    out.layDeployments deployments =
      { out with
        deployments :=
          deployments.foldl (fun table d => table.insert d.deploymentId d) out.deployments } := by
  unfold layDeployments
  induction deployments generalizing out with
  | nil => rfl
  | cons head rest ih =>
      rw [List.foldl_cons, ih]
      rfl

theorem layUsage_eq (usage : List (DeviceId × Usage)) :
    out.layUsage usage =
      { out with
        usage := usage.foldl (fun table entry => table.insert entry.1 entry.2) out.usage } := by
  unfold layUsage
  induction usage generalizing out with
  | nil => rfl
  | cons head rest ih =>
      rw [List.foldl_cons, ih]
      rfl

end LiveState

namespace Contents

variable (c : Contents) (out : LiveState)

/-- Table by table. -/
theorem laidOver_eq :
    c.laidOver out =
      { out with
        epoch := ⟨max c.epoch 1⟩
        policy := c.policy.laidOver out.policy
        devices := c.devices.foldl (fun table d => table.insert d.deviceId d) out.devices
        deviceOrder := out.deviceOrder ++ c.devices.map (·.deviceId)
        ledgers := c.devices.foldl
          (fun table d => table.insertIfNew d.deviceId ⟨d.resourceCapacity, {}⟩) out.ledgers
        services := c.services.foldl (fun table svc => table.insert svc.serviceId svc) out.services
        programs := c.programs.foldl
          (fun table stored => table.insert stored.programId
            ((table.getD stored.programId ∅).insert stored.generation stored.artifact))
          out.programs
        currentProgramGen := c.programs.foldl
          (fun table stored =>
            if stored.isCurrent then table.insert stored.programId stored.generation else table)
          out.currentProgramGen
        deployments :=
          c.deployments.foldl (fun table d => table.insert d.deploymentId d) out.deployments
        usage := c.usage.foldl (fun table entry => table.insert entry.1 entry.2) out.usage } := by
  rw [laidOver, LiveState.layDevices_eq, LiveState.layServices_eq, LiveState.layPrograms_eq,
    LiveState.layDeployments_eq, LiveState.layUsage_eq]
  rfl

/-- A stored generation is found under its key. -/
theorem lookup_generation
    (table : ExtTreeMap ProgramId (ExtTreeMap ProgramGeneration ProgramArtifact))
    (stored : StoredGeneration) (key : ProgramId × ProgramGeneration) :
    ((table.insert stored.programId
        ((table.getD stored.programId ∅).insert stored.generation stored.artifact)).getD
          key.1 ∅)[key.2]? =
      if stored.key = key then some stored.artifact else (table.getD key.1 ∅)[key.2]? := by
  rcases key with ⟨pid, g⟩
  simp only [ExtTreeMap.getD_eq_getD_getElem?, OrderedMap.lookup_insert, StoredGeneration.key,
    Prod.mk.injEq]
  by_cases same : stored.programId = pid
  · simp [same, OrderedMap.lookup_insert]
  · simp [same]

/-- What holds of every device: the last record of each identity, and the untouched ones. -/
theorem forall_devices_laidOver_iff (holds : DeviceRecord → Prop) :
    (∀ (id : DeviceId) (d : DeviceRecord), (c.laidOver out).devices[id]? = some d → holds d) ↔
      (∀ d, OrderedMap.IsLast DeviceRecord.deviceId c.devices d → holds d) ∧
        ∀ (id : DeviceId) (d : DeviceRecord), out.devices[id]? = some d →
          (∀ d' ∈ c.devices, d'.deviceId ≠ id) → holds d := by
  rw [laidOver_eq]
  exact OrderedMap.forall_lookup_foldl_iff (fun table (id : DeviceId) => table[id]?)
    (fun table d id => OrderedMap.lookup_insert table d.deviceId id d) c.devices out.devices holds

/-- So of every service. -/
theorem forall_services_laidOver_iff (holds : ServiceDefinition → Prop) :
    (∀ (id : ServiceId) (svc : ServiceDefinition),
        (c.laidOver out).services[id]? = some svc → holds svc) ↔
      (∀ svc, OrderedMap.IsLast ServiceDefinition.serviceId c.services svc → holds svc) ∧
        ∀ (id : ServiceId) (svc : ServiceDefinition), out.services[id]? = some svc →
          (∀ svc' ∈ c.services, svc'.serviceId ≠ id) → holds svc := by
  rw [laidOver_eq]
  exact OrderedMap.forall_lookup_foldl_iff (fun table (id : ServiceId) => table[id]?)
    (fun table svc id => OrderedMap.lookup_insert table svc.serviceId id svc) c.services
    out.services holds

/-- And of every program generation. -/
theorem forall_programs_laidOver_iff (holds : ProgramArtifact → Prop) :
    (∀ (key : ProgramId × ProgramGeneration) (art : ProgramArtifact),
        (c.laidOver out).artifactOf key = some art → holds art) ↔
      (∀ stored, OrderedMap.IsLast StoredGeneration.key c.programs stored →
        holds stored.artifact) ∧
        ∀ (key : ProgramId × ProgramGeneration) (art : ProgramArtifact),
          out.artifactOf key = some art → (∀ stored ∈ c.programs, stored.key ≠ key) →
            holds art := by
  rw [laidOver_eq]
  exact OrderedMap.forall_lookup_foldl_iff
    (fun table (key : ProgramId × ProgramGeneration) => (table.getD key.1 ∅)[key.2]?)
    lookup_generation c.programs out.programs holds

end Contents

namespace Persistence

/-! ## The parser fills them in -/

theorem isReading {α : Type} (read : ReaderM α) : IsReading (reading read) read := by
  intro ahead built value final
  change reading read ⟨ahead, built⟩ = _ ↔ ∃ rest, _ ∧ final = ⟨rest, built⟩
  unfold reading
  dsimp only
  cases read ahead with
  | ok found rest =>
      constructor
      · intro returned
        cases returned
        exact ⟨rest, rfl, rfl⟩
      · rintro ⟨rest', returned, rfl⟩
        cases returned
        rfl
  | error fault rest =>
      constructor
      · intro returned
        cases returned
      · rintro ⟨rest', returned, -⟩
        cases returned

variable {α : Type} {body : LoadM Unit} {read : ReaderM α} {effect : α → LiveState → LiveState}

/-- Element after element. -/
theorem fills_times (each : ∀ out, Fills body read out fun value => effect value out) (n : Nat)
    (out : LiveState) :
    Fills (times body n) (many read n) out fun values =>
      values.foldl (fun out value => effect value out) out := by
  induction n generalizing out with
  | zero => exact .done rfl
  | succ n ih => exact (each out).seq fun value => (ih (effect value out)).map (value :: ·)

/-- A bounded count and as many elements. -/
theorem fills_counted (bound : Nat) (detail : String)
    (each : ∀ out, Fills body read out fun value => effect value out) (out : LiveState) :
    Fills (reading (readCount bound detail) >>= fun n => times body n)
      (readCounted bound detail read) out fun values =>
        values.foldl (fun out value => effect value out) out :=
  .field (isReading _) fun n => fills_times each n out

/-- A field that is stored at once, in front of the rest. -/
theorem fills_stored {δ : Type} {change : α → LiveState → LiveState} {next : α → LoadM Unit}
    {more : α → ReaderM δ} {target : δ → LiveState} {out : LiveState}
    (rest : ∀ value, Fills (next value) (more value) (change value out) target) :
    Fills (reading read >>= fun x => fill (change x) >>= fun _ => next x) (read >>= more) out
      target :=
  .field (isReading _) fun value => .store (fun _ => rfl) (rest value)

theorem fills_weight (out : LiveState) :
    Fills
      (do
        let factor ← reading readEnum
        let weight ← reading i32
        fill fun out =>
          { out with
            policy :=
              { out.policy with
                weights := out.policy.weights ++ [{ factor, weight := weight.toInt64 }] } })
      readWeight out fun wt => out.appendWeight wt := by
  unfold readWeight
  exact .field (isReading _) fun factor => .map _ (.record (isReading _) fun _ _ => rfl)

theorem fills_policy (out : LiveState) :
    Fills loadPolicy readPolicy out fun head => out.layPolicy head.1 head.2 := by
  unfold loadPolicy readPolicy
  dsimp only
  refine fills_stored fun epoch => fills_stored fun generation => fills_stored fun version =>
    fills_stored fun allowHostFallback => fills_stored fun requireAuthoritativeEvidence =>
    fills_stored fun preferWarmDeployments => fills_stored fun preferDedicatedIsolation =>
    fills_stored fun requireOffloadForRequired => fills_stored fun minHeadroom =>
    fills_stored fun maxQueuePressure => fills_stored fun minDeviceHealth => .map _ ?_
  refine (fills_counted 64 _ fills_weight _).congr fun weights => ?_
  rw [LiveState.foldl_appendWeight]
  rfl

theorem fills_devices (out : LiveState) :
    Fills loadDevices
      (readCounted kMaxContainerCount "device count out of bounds" readDevice) out
      fun devices => out.layDevices devices := by
  unfold loadDevices
  refine fills_counted _ _ (fun out => ?_) out
  exact .record (isReading _) fun _ _ => rfl

theorem fills_services (out : LiveState) :
    Fills loadServices
      (readCounted kMaxContainerCount "service count out of bounds" readService) out
      fun services => out.layServices services := by
  unfold loadServices
  refine fills_counted _ _ (fun out => ?_) out
  exact .record (isReading _) fun _ _ => rfl

/-- The generations of one program. -/
theorem fills_generations (pid : ProgramId) (out : LiveState) :
    Fills
      (reading (readCount 256 "program generation count out of bounds") >>=
        times (do
          let g ← reading readId
          let art ← reading readProgram
          let cur ← reading flag
          fill fun out =>
            { out with
              programs :=
                out.programs.insert pid ((out.programs.getD pid ∅).insert g art) }
          if cur then
            fill fun out =>
              { out with currentProgramGen := out.currentProgramGen.insert pid g }))
      (readCounted 256 "program generation count out of bounds" (readGeneration pid)) out
      fun gens => out.layPrograms gens := by
  unfold readGeneration
  refine fills_counted 256 _ (fun out => ?_) out
  refine .field (isReading _) fun g => .field (isReading _) fun art => .map _ ?_
  refine .record (isReading _) fun cur ahead => ?_
  cases cur with
  | true => rfl
  | false => rfl

theorem fills_programs (out : LiveState) :
    Fills loadPrograms
      (readCounted kMaxContainerCount "program count out of bounds" readGenerations) out
      fun programs => out.layPrograms programs.flatten := by
  unfold loadPrograms readGenerations
  have programs := fills_counted kMaxContainerCount "program count out of bounds"
    (fun out => .field (isReading readId) fun pid => fills_generations pid out) out
  refine programs.congr fun programs => ?_
  exact List.foldl_flatten.symm

theorem fills_deployments (out : LiveState) :
    Fills loadDeployments
      (readCounted kMaxContainerCount "deployment count out of bounds" readDeployment) out
      fun deployments => out.layDeployments deployments := by
  unfold loadDeployments
  refine fills_counted _ _ (fun out => ?_) out
  exact .record (isReading _) fun _ _ => rfl

theorem fills_usage (out : LiveState) :
    Fills loadUsage
      (readCounted kMaxContainerCount "usage count out of bounds" readDeviceUsage) out
      fun usage => out.layUsage usage := by
  unfold loadUsage readDeviceUsage
  exact fills_counted _ _
    (fun out => .field (isReading _) fun did => .map _ (.record (isReading _) fun _ _ => rfl)) out

/-- The sections are the contents, laid over the live state. -/
theorem fills_sections (out : LiveState) :
    Fills loadSections readContents out fun c => c.laidOver out := by
  unfold loadSections readContents
  refine (fills_policy out).seq fun head => (fills_devices _).seq fun devices =>
    (fills_services _).seq fun services => (fills_programs _).seq fun programs =>
    (fills_deployments _).seq fun deployments => (fills_usage _).seq fun usage => ?_
  exact .map _ (.check (isReading expectEnd))

/-! ## A load -/

theorem load_eq_true_iff {buf : List UInt8} {s s' : LiveState} :
    load (some buf) s = .ok true s' ↔
      ∃ payload final, openContainer buf = .ok payload ∧
        loadSections ⟨payload, s⟩ = .ok () final ∧ s' = fenceRecovered final.out := by
  cases opened : openContainer buf with
  | error fault => simp [load, opened]
  | ok payload =>
      cases sections : loadSections ⟨payload, s⟩ with
      | error fault final => simp [load, opened, loadPayload_apply, sections]
      | ok _ final => simp [load, opened, loadPayload_apply, sections, eq_comm]

theorem fileContents_eq_some_iff {buf : List UInt8} {c : Contents} :
    fileContents buf = some c ↔
      ∃ payload rest, openContainer buf = .ok payload ∧ readContents payload = .ok c rest := by
  cases opened : openContainer buf with
  | error fault => simp [fileContents, opened]
  | ok payload =>
      cases contents : readContents payload with
      | error fault rest => simp [fileContents, opened, contents]
      | ok found rest => simp [fileContents, opened, contents]

/-- A load is accepted if the file has contents, and then leaves them laid over and fenced. -/
theorem load_accepted_iff {buf : List UInt8} {s s' : LiveState} :
    load (some buf) s = .ok true s' ↔
      ∃ c, fileContents buf = some c ∧ s' = fenceRecovered (c.laidOver s) := by
  rw [load_eq_true_iff]
  constructor
  · rintro ⟨payload, final, opened, loaded, rfl⟩
    rcases (fills_sections s payload final).mp loaded with ⟨c, rest, contents, rfl⟩
    exact ⟨c, fileContents_eq_some_iff.mpr ⟨payload, rest, opened, contents⟩, rfl⟩
  · rintro ⟨c, found, rfl⟩
    rcases fileContents_eq_some_iff.mp found with ⟨payload, rest, opened, contents⟩
    have loaded := (fills_sections s payload _).mpr ⟨c, rest, contents, rfl⟩
    exact ⟨payload, _, opened, loaded, rfl⟩

end Persistence

end DPUFabric
