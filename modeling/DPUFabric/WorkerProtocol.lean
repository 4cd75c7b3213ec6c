import DPUFabric.Agreement
import DPUFabric.HardConstraints

/-!
# Device records on the worker protocol

A worker process sends the records of its devices to the coordinator.  The message
carries a part of the record only, and the coordinator fills the rest with
defaults: `transmitted` is the record that arrives.  Most of what an evaluation
reads is sent; `hardware_isolation` is not, though `isolation_proven` is, and the
two count together only.
-/

namespace DPUFabric.Mpproto

open Std
open Codec
open DPUFabric.Wire
open DPUFabric.Persistence

/-! ## The codec -/

def putCap (c : Capability) : WriterM Unit := do
  writeKey c.key
  writeEnum c.state
  Writer.u64 c.version
  Writer.flag c.requiresIsolation
  writeEnum c.source

def getCap : ReaderM Capability := do
  let key ← readKey
  let state ← readEnum
  let version ← u64
  let requiresIsolation ← flag
  let source ← readEnum
  return { key, state, version, requiresIsolation, source }

def putDevice (d : DeviceRecord) : WriterM Unit := do
  writeId d.deviceId
  writeId d.generation
  writeId d.bootId
  Writer.str d.vendor
  Writer.str d.model
  writeEnum d.deviceClass
  Writer.str d.pciReference
  writeId d.firmwareGen
  writeId d.runtimeGen
  Writer.str d.architecture
  Writer.u64 d.memoryBytes
  writeResourceCap d.resourceCapacity
  Writer.counted writeId d.ports
  Writer.counted writeId d.functions
  Writer.counted putCap d.capabilities.records
  Writer.counted writeEnum d.offloadClasses
  writeEnum d.health
  writeEnum d.lifecycle
  Writer.flag d.evidenceFresh
  writeEnum d.discoverySource
  writeId d.evidenceGen
  writeId d.isolationDomain
  writeId d.tenant
  Writer.flag d.isolationProven
  writeEnum d.locality
  Writer.str d.discoveryDetail

def getDevice : ReaderM DeviceRecord := do
  let deviceId ← readId
  let generation ← readId
  let bootId ← readId
  let vendor ← str
  let model ← str
  let deviceClass ← readEnum
  let pciReference ← str
  let firmwareGen ← readId
  let runtimeGen ← readId
  let architecture ← str
  let memoryBytes ← u64
  let resourceCapacity ← readResourceCap
  let np ← readCount kMaxContainerCount "port count"
  let ports ← many readId np
  let nf ← readCount kMaxContainerCount "function count"
  let functions ← many readId nf
  let nc ← readCount kMaxContainerCount "capability count"
  let caps ← many getCap nc
  let nocl ← readCount 64 "offload class count"
  let offloadClasses ← many readEnum nocl
  let health ← readEnum
  let lifecycle ← readEnum
  let evidenceFresh ← flag
  let discoverySource ← readEnum
  let evidenceGen ← readId
  let isolationDomain ← readId
  let tenant ← readId
  let isolationProven ← flag
  let locality ← readEnum
  let discoveryDetail ← str
  return {
    deviceId, generation, bootId, vendor, model, deviceClass, pciReference
    firmwareGen, runtimeGen, architecture, memoryBytes, resourceCapacity, ports, functions
    capabilities := caps.foldl CapabilitySet.add ∅
    offloadClasses, health, lifecycle, evidenceFresh, discoverySource, evidenceGen
    isolationDomain, tenant, isolationProven, locality, discoveryDetail }

/-! ## What arrives -/

/-- The fields of a capability that are sent. -/
def transmittedCap (c : Capability) : Capability :=
  { key := c.key
    state := c.state
    version := c.version
    requiresIsolation := c.requiresIsolation
    source := c.source }

/-- The fields of a record that are sent. -/
def transmitted (d : DeviceRecord) : DeviceRecord :=
  { deviceId := d.deviceId
    generation := d.generation
    bootId := d.bootId
    vendor := d.vendor
    model := d.model
    deviceClass := d.deviceClass
    pciReference := d.pciReference
    firmwareGen := d.firmwareGen
    runtimeGen := d.runtimeGen
    architecture := d.architecture
    memoryBytes := d.memoryBytes
    resourceCapacity := d.resourceCapacity
    ports := d.ports
    functions := d.functions
    capabilities := (d.capabilities.records.map transmittedCap).foldl CapabilitySet.add ∅
    offloadClasses := d.offloadClasses
    health := d.health
    lifecycle := d.lifecycle
    evidenceFresh := d.evidenceFresh
    discoverySource := d.discoverySource
    evidenceGen := d.evidenceGen
    isolationDomain := d.isolationDomain
    tenant := d.tenant
    isolationProven := d.isolationProven
    locality := d.locality
    discoveryDetail := d.discoveryDetail }

/-- The strings of a record that are sent. -/
def sentLabels (d : DeviceRecord) : List Text :=
  [d.vendor, d.model, d.pciReference, d.architecture, d.discoveryDetail]

def capSize (c : Capability) : Nat := 15 + c.key.value.length

def sentSize (d : DeviceRecord) : Nat :=
  155 + lengths (sentLabels d) + 8 * d.ports.length + 8 * d.functions.length +
    (d.capabilities.records.map capSize).sum + d.offloadClasses.length

/-- What the codec asks of a record. -/
structure WithinCodec (d : DeviceRecord) : Prop where
  labels : ∀ t ∈ sentLabels d, IsShort t
  ports : d.ports.length ≤ kMaxContainerCount
  functions : d.functions.length ≤ kMaxContainerCount
  capabilityCount : d.capabilities.records.length ≤ kMaxContainerCount
  capabilities : ∀ c ∈ d.capabilities.records, isValidKey c.key.value = true
  offloadClasses : d.offloadClasses.length ≤ 64
  /-- `CapabilitySet::add` files every capability under its own key. -/
  keyed : d.Keyed

theorem codes_putCap (c : Capability) :
    Codes (putCap c) getCap (capSize c) True (isValidKey c.key.value = true)
      (transmittedCap c) := by
  unfold putCap getCap
  refine Agrees.congr
    (.bind (codes_key _) <| .bind (codes_enum _) <| .bind (codes_u64 _) <|
      .bind (codes_flag _) <| .last (codes_enum _) _) ?_ ?_ ?_ ?_
  · simp only [capSize]
    omega
  · simp only [and_true]
  · simp only [and_true]
  · intro _
    rfl

theorem codes_putDevice (d : DeviceRecord) :
    Codes (putDevice d) getDevice (sentSize d) (∀ t ∈ sentLabels d, IsShort t)
      (d.ports.length ≤ kMaxContainerCount ∧ d.functions.length ≤ kMaxContainerCount ∧
        (d.capabilities.records.length ≤ kMaxContainerCount ∧
          ∀ c ∈ d.capabilities.records, isValidKey c.key.value = true) ∧
        d.offloadClasses.length ≤ 64)
      (transmitted d) := by
  unfold putDevice getDevice
  refine Agrees.congr
    (.bind (codes_id _) <| .bind (codes_id _) <| .bind (codes_id _) <|
      .bind (codes_str _) <| .bind (codes_str _) <| .bind (codes_enum _) <|
      .bind (codes_str _) <| .bind (codes_id _) <| .bind (codes_id _) <|
      .bind (codes_str _) <| .bind (codes_u64 _) <| .bind (codes_resourceCap _) <|
      .bindNested (codes_plain d.ports _ _ codes_id (by decide)) <|
      .bindNested (codes_plain d.functions _ _ codes_id (by decide)) <|
      .bindNested (codes_countedAs transmittedCap d.capabilities.records _ _ codes_putCap fun c => by
        simp only [capSize]; omega) <|
      .bindNested (codes_plain d.offloadClasses _ _ (codes_enum ·) (by decide)) <|
      .bind (codes_enum _) <| .bind (codes_enum _) <| .bind (codes_flag _) <|
      .bind (codes_enum _) <| .bind (codes_id _) <| .bind (codes_id _) <|
      .bind (codes_id _) <| .bind (codes_flag _) <| .bind (codes_enum _) <|
      .last (codes_str _) _)
    ?_ ?_ ?_ ?_
  · simp only [sentSize, lengths, sentLabels, List.map_cons, List.map_nil, List.sum_cons,
      List.sum_nil]
    omega
  · simp only [true_and, and_true, sentLabels, List.forall_mem_cons, List.not_mem_nil,
      IsShort, implies_true, false_implies]
  · simp only [true_and, and_true]
  · intro _
    rfl

theorem length_le_of_validKey {key : Text} (valid : isValidKey key = true) :
    key.length ≤ 64 := by
  simp only [isValidKey, Bool.and_eq_true, decide_eq_true_eq] at valid
  exact valid.1.2

/-- A message within the bounds is far from the sizes at which a count is cut. -/
theorem sentSize_lt {d : DeviceRecord} (bounds : WithinCodec d) : sentSize d < 2 ^ 32 := by
  obtain ⟨labels, ports, functions, count, keys, classes, -⟩ := bounds
  have caps : (d.capabilities.records.map capSize).sum ≤
      (d.capabilities.records.map capSize).length * 79 := by
    refine List.sum_le_card_nsmul _ _ ?_
    intro size member
    obtain ⟨c, listed, rfl⟩ := List.mem_map.mp member
    have short := length_le_of_validKey (keys c listed)
    simp only [capSize]
    omega
  rw [List.length_map] at caps
  have strings : lengths (sentLabels d) ≤ 5 * kMaxStringBytes := by
    simp only [sentLabels, List.forall_mem_cons, IsShort] at labels
    simp only [lengths, sentLabels, List.map_cons, List.map_nil, List.sum_cons, List.sum_nil]
    omega
  have bound : kMaxContainerCount = 2 ^ 20 := rfl
  have bound' : kMaxStringBytes = 2 ^ 20 := rfl
  unfold sentSize
  omega

/-- A record within the bounds arrives, and nothing of it is left over. -/
theorem getDevice_putDevice {d : DeviceRecord} (bounds : WithinCodec d) :
    ∃ bytes, putDevice d [] = .ok () bytes ∧ getDevice bytes = .ok (transmitted d) [] := by
  obtain ⟨code, -, writes, reads⟩ := codes_putDevice d
  have read := (reads bounds.labels (sentSize_lt bounds)).accepts
    ⟨bounds.ports, bounds.functions, ⟨bounds.capabilityCount, bounds.capabilities⟩,
      bounds.offloadClasses⟩ [] ()
  rw [List.append_nil] at read
  exact ⟨code, writes.appends bounds.labels [], read⟩

/-! ## What an evaluation reads of the record that arrives -/

theorem lookup_transmitted {d : DeviceRecord} (keyed : d.Keyed) (key : CapabilityKey) :
    (transmitted d).capabilities[key]? = d.capabilities[key]?.map transmittedCap := by
  have filled : (transmitted d).capabilities =
      d.capabilities.map fun _ c => transmittedCap c := by
    change (d.capabilities.records.map transmittedCap).foldl CapabilitySet.add ∅ = _
    refine OrderedMap.foldl_insert_fills Capability.key (fun c => c) ?_ ?_
      (OrderedMap.Below.empty _)
    · intro c member
      obtain ⟨sent, listed, rfl⟩ := List.mem_map.mp member
      obtain ⟨⟨key, value⟩, entry, rfl⟩ := List.mem_map.mp listed
      have own : value.key = key := keyed _ entry
      have present := ExtTreeMap.mem_toList_iff_getElem?_eq_some.mp entry
      rw [ExtTreeMap.getElem?_map]
      change (d.capabilities[value.key]?).map _ = _
      rw [own, present]
      rfl
    · intro key value present
      rw [ExtTreeMap.getElem?_map] at present
      obtain ⟨c, found, rfl⟩ := Option.map_eq_some_iff.mp present
      have entry := ExtTreeMap.mem_toList_iff_getElem?_eq_some.mpr found
      exact ⟨transmittedCap c, List.mem_map.mpr ⟨c, List.mem_map.mpr ⟨_, entry, rfl⟩, rfl⟩,
        keyed _ entry⟩
  rw [filled, ExtTreeMap.getElem?_map]

theorem stateOf_transmitted {d : DeviceRecord} (keyed : d.Keyed) (key : CapabilityKey) :
    (transmitted d).capabilities.stateOf key = d.capabilities.stateOf key := by
  unfold CapabilitySet.stateOf
  rw [lookup_transmitted keyed]
  cases d.capabilities[key]? <;> rfl

theorem capabilityRejections_transmitted {d : DeviceRecord} (keyed : d.Keyed)
    (c : CapabilityRequirement) :
    capabilityRejections (transmitted d) c = capabilityRejections d c := by
  unfold capabilityRejections
  rw [stateOf_transmitted keyed, lookup_transmitted keyed]
  cases d.capabilities[c.key]? <;> rfl

section Rejections

variable (F : Type) [ScoreArith F] (snap : Snapshot) (req : OffloadRequest)
  (svc : Option ServiceDefinition) (did : DeviceId)

/-- The record that arrives is judged as one that claims no hardware isolation. -/
theorem rejections_transmitted {d : DeviceRecord} (keyed : d.Keyed) :
    rejections F snap req svc did (transmitted d) =
      rejections F snap req svc did { d with hardwareIsolation := false } := by
  have checks : capabilityRejections (transmitted d) =
      capabilityRejections { d with hardwareIsolation := false } :=
    funext fun c => capabilityRejections_transmitted keyed c
  have states : ∀ key, (transmitted d).capabilities.stateOf key =
      d.capabilities.stateOf key := stateOf_transmitted keyed
  unfold rejections
  rw [checks]
  simp only [states]
  rfl

/-- The request decides alike about a device with and without proven isolation. -/
def Indifferent (req : OffloadRequest) (svc : Option ServiceDefinition) (d : DeviceRecord) :
    Prop :=
  (requestedIsolation req svc).satisfiedBy false d.isolationDomain d.tenant =
      (requestedIsolation req svc).satisfiedBy true d.isolationDomain d.tenant ∧
    req.security ≠ .secure ∧ req.security ≠ .isolated

theorem mem_rejectWhen_iff (condition : Bool) (reason reason' : RejectionReason) :
    reason ∈ rejectWhen condition reason' ↔ condition = true ∧ reason = reason' := by
  cases condition <;> simp [rejectWhen]

/-- The reasons that a proof of isolation may remove. -/
def AboutProof (reason : RejectionReason) : Prop :=
  reason = .isolationUnproven ∨ reason = .securityModeIncompatible

theorem lifecycleRejections_notAboutProof {d : DeviceRecord} {reason : RejectionReason}
    (about : AboutProof reason) : reason ∉ lifecycleRejections d := by
  unfold lifecycleRejections
  rcases about with rfl | rfl <;> split_ifs <;> simp

theorem programRejections_notAboutProof {d : DeviceRecord} {gen : ProgramGeneration}
    {prog : Option ProgramArtifact} {reason : RejectionReason} (about : AboutProof reason) :
    reason ∉ programRejections req d gen prog := by
  unfold programRejections
  rcases about with rfl | rfl <;> split <;> try split_ifs
  all_goals simp [mem_rejectWhen_iff]

theorem capabilityRejections_notAboutProof {d : DeviceRecord} {c : CapabilityRequirement}
    {reason : RejectionReason} (about : AboutProof reason) :
    reason ∉ capabilityRejections d c := by
  unfold capabilityRejections
  rcases about with rfl | rfl <;> split_ifs <;> try split
  all_goals try split
  all_goals simp [mem_rejectWhen_iff]

theorem mem_rejections_isolationUnproven_iff (d : DeviceRecord) :
    .isolationUnproven ∈ rejections F snap req svc did d ↔
      (requestedIsolation req svc).level ≠ .declared .none ∧
        (requestedIsolation req svc).satisfiedBy d.isoProven d.isolationDomain d.tenant =
          false := by
  have about : AboutProof .isolationUnproven := Or.inl rfl
  unfold rejections
  cases wantedProgram req svc <;>
    simp [mem_rejectWhen_iff, lifecycleRejections_notAboutProof about,
      programRejections_notAboutProof req about, capabilityRejections_notAboutProof about,
      requestedIsolation, DeviceRecord.isoProven]

theorem mem_rejections_securityModeIncompatible_iff (d : DeviceRecord) :
    .securityModeIncompatible ∈ rejections F snap req svc did d ↔
      (req.security = .secure ∨ req.security = .isolated) ∧ d.isoProven = false := by
  have about : AboutProof .securityModeIncompatible := Or.inr rfl
  have proof : (d.hardwareIsolation && d.isolationProven && d.evidenceFresh) = d.isoProven := rfl
  unfold rejections
  simp only [proof]
  cases wantedProgram req svc <;>
    simp [mem_rejectWhen_iff, lifecycleRejections_notAboutProof about,
      programRejections_notAboutProof req about, capabilityRejections_notAboutProof about]

/-- Where the proof does not matter, the claim can be left out. -/
theorem rejections_unclaimed {d : DeviceRecord}
    (indifferent : d.isoProven = true → Indifferent req svc d) :
    rejections F snap req svc did { d with hardwareIsolation := false } =
      rejections F snap req svc did d := by
  -- The other checks do not read the claim.
  have lifecycle : lifecycleRejections { d with hardwareIsolation := false } =
      lifecycleRejections d := rfl
  have classes : DeviceRecord.supportsClass { d with hardwareIsolation := false } =
      d.supportsClass := rfl
  have program : programRejections req { d with hardwareIsolation := false } =
      programRejections req d := rfl
  have capabilities : capabilityRejections { d with hardwareIsolation := false } =
      capabilityRejections d := rfl
  have headroom : headroomPct F { d with hardwareIsolation := false } =
      headroomPct F d := rfl
  have pressure : queuePressure F { d with hardwareIsolation := false } =
      queuePressure F d := rfl
  have proof : d.isoProven = (d.hardwareIsolation && d.isolationProven && d.evidenceFresh) := rfl
  have spec : svc.elim req.isolation (·.isolation) = requestedIsolation req svc := rfl
  unfold rejections
  simp only [lifecycle, classes, program, capabilities, headroom, pressure, ← proof, spec,
    Bool.false_and]
  cases proven : d.isoProven with
  | false => rfl
  | true =>
      obtain ⟨alike, notSecure, notIsolated⟩ := indifferent proven
      have unsecured : (req.security == .secure || req.security == .isolated) = false := by
        simp [notSecure, notIsolated]
      simp only [alike, unsecured, Bool.false_and]

/-- The record that arrives is judged alike exactly where the proof does not matter. -/
theorem rejections_transmitted_iff {d : DeviceRecord} (keyed : d.Keyed) :
    rejections F snap req svc did (transmitted d) = rejections F snap req svc did d ↔
      (d.isoProven = true → Indifferent req svc d) := by
  rw [rejections_transmitted F snap req svc did keyed]
  refine ⟨fun same proven => ?_, rejections_unclaimed F snap req svc did⟩
  have isolation := mem_rejections_isolationUnproven_iff F snap req svc did
    { d with hardwareIsolation := false }
  have security := mem_rejections_securityModeIncompatible_iff F snap req svc did
    { d with hardwareIsolation := false }
  have unproven : DeviceRecord.isoProven { d with hardwareIsolation := false } = false := rfl
  rw [same, mem_rejections_isolationUnproven_iff, unproven, proven] at isolation
  rw [same, mem_rejections_securityModeIncompatible_iff, unproven, proven] at security
  refine ⟨?_, ?_, ?_⟩
  · by_cases none : (requestedIsolation req svc).level = .declared .none
    · simp [IsolationSpec.satisfiedBy, none]
    · have both := and_congr_right_iff.mp isolation none
      rw [Bool.eq_iff_iff, ← not_iff_not, Bool.not_eq_true, Bool.not_eq_true]
      exact both.symm
  · intro secure
    simp [secure] at security
  · intro isolated
    simp [isolated] at security

end Rejections

/-! ## The verdict on a device -/

section Verdict

variable (F : Type) [ScoreArith F]

/-- What an evaluation reports of a device: whether it passed, and why not. -/
def verdicts (snap : Snapshot) (req : OffloadRequest) (did : DeviceId) :
    Except Fault (List (Bool × List RejectionReason)) :=
  (evaluateOffload F snap req).map fun result =>
    (result.candidates.filter (·.device == did)).map fun report =>
      (report.passedHard, report.rejected)

/-- The snapshot with another record of a device. -/
def replaceDevice (snap : Snapshot) (did : DeviceId) (d : DeviceRecord) : Snapshot :=
  { snap with devices := snap.devices.insert did d }

/-- The evaluation does not refuse the request itself. -/
def InRange (req : OffloadRequest) : Prop :=
  req.minHeadroom ≤ 100 ∧ req.maxQueuePressure ≤ 100

variable {F}

theorem candidateReports_filter {snap : Snapshot} {req : OffloadRequest}
    {svc : Option ServiceDefinition} {did : DeviceId} {d : DeviceRecord}
    (registered : snap.devices[did]? = some d) :
    (candidateReports F snap req svc).filter (·.device == did) =
      (snap.deviceOrder.filter (· == did)).map fun _ =>
        candidateReport F snap req svc did d := by
  unfold candidateReports
  induction snap.deviceOrder with
  | nil => rfl
  | cons first rest ih =>
      rw [List.filterMap_cons, List.filter_cons]
      by_cases here : first = did
      · subst here
        rw [registered]
        simp only [Option.map_some, beq_self_eq_true, if_true, List.map_cons, ← ih]
        rw [List.filter_cons_of_pos]
        simp [candidateReport]
      · rw [if_neg (by simpa using here), ← ih]
        cases snap.devices[first]? with
        | none => rfl
        | some other =>
            rw [Option.map_some]
            dsimp only
            rw [List.filter_cons_of_neg]
            simpa [candidateReport] using here

/-- A device in the device order has the same verdict for every entry there. -/
theorem verdicts_eq {snap : Snapshot} {req : OffloadRequest} (inRange : InRange req)
    {did : DeviceId} {d : DeviceRecord} (registered : snap.devices[did]? = some d) :
    verdicts F snap req did =
      .ok ((snap.deviceOrder.filter (· == did)).map fun _ =>
        ((rejections F snap req (snap.requestedService req) did d).isEmpty,
          rejections F snap req (snap.requestedService req) did d)) := by
  have evaluated := (evaluateOffload_eq_ok_iff snap req (outcome F snap req)).mpr ⟨inRange, rfl⟩
  rw [verdicts, evaluated, Except.map, outcome_candidates, candidateReports_filter registered,
    List.map_map]
  rfl

theorem verdicts_replace_iff {snap : Snapshot} {req : OffloadRequest} (inRange : InRange req)
    {did : DeviceId} {d : DeviceRecord} (keyed : d.Keyed)
    (registered : snap.devices[did]? = some d) (listed : did ∈ snap.deviceOrder) :
    verdicts F (replaceDevice snap did (transmitted d)) req did = verdicts F snap req did ↔
      (d.isoProven = true → Indifferent req (snap.requestedService req) d) := by
  have replaced : (replaceDevice snap did (transmitted d)).devices[did]? =
      some (transmitted d) := by
    rw [replaceDevice, OrderedMap.lookup_insert, if_pos rfl]
  rw [verdicts_eq inRange replaced, verdicts_eq inRange registered,
    ← rejections_transmitted_iff F snap req (snap.requestedService req) did keyed]
  change Except.ok ((snap.deviceOrder.filter (· == did)).map fun _ =>
    ((rejections F snap req (snap.requestedService req) did (transmitted d)).isEmpty,
      rejections F snap req (snap.requestedService req) did (transmitted d))) = _ ↔ _
  constructor
  · intro same
    have member : did ∈ snap.deviceOrder.filter (· == did) := by simp [listed]
    have both := List.map_eq_map_iff.mp (Except.ok.inj same) did member
    exact congrArg Prod.snd both
  · intro same
    rw [same]

/-- A request that is refused is refused on every snapshot. -/
theorem verdicts_of_outOfRange {req : OffloadRequest} (outOfRange : ¬ InRange req)
    (first second : Snapshot) (did : DeviceId) :
    verdicts F first req did = verdicts F second req did := by
  unfold verdicts evaluateOffload
  by_cases low : req.minHeadroom > 100
  · rw [if_pos low, if_pos low]
  · by_cases calm : req.maxQueuePressure > 100
    · rw [if_neg low, if_neg low, if_pos calm, if_pos calm]
    · exact (outOfRange ⟨UInt64.not_lt.mp low, UInt64.not_lt.mp calm⟩).elim

end Verdict

/--
The coordinator decides about a record that arrived as it would about the record
itself exactly when the request is refused anyway, the device proves no isolation,
or the request decides alike about it with and without the proof.
-/
theorem verdicts_transmitted_iff (F : Type) [ScoreArith F] (snap : Snapshot)
    (req : OffloadRequest) (did : DeviceId) (d : DeviceRecord) (bounds : WithinCodec d)
    (registered : snap.devices[did]? = some d) (listed : did ∈ snap.deviceOrder) :
    ∃ bytes received, putDevice d [] = .ok () bytes ∧ getDevice bytes = .ok received [] ∧
      (verdicts F (replaceDevice snap did received) req did = verdicts F snap req did ↔
        (InRange req → d.isoProven = true →
          Indifferent req (snap.requestedService req) d)) := by
  obtain ⟨bytes, written, read⟩ := getDevice_putDevice bounds
  refine ⟨bytes, transmitted d, written, read, ?_⟩
  by_cases inRange : InRange req
  · rw [verdicts_replace_iff inRange bounds.keyed registered listed]
    exact ⟨fun alike _ => alike, fun alike => alike inRange⟩
  · exact iff_of_true (verdicts_of_outOfRange inRange _ _ _) fun within => (inRange within).elim

/-! ## An isolated device -/

/-- A ready device with proven hardware isolation. -/
def isolatedDevice : DeviceRecord :=
  { deviceId := ⟨1⟩
    health := .declared .healthy
    lifecycle := .declared .ready
    hardwareIsolation := true
    isolationProven := true
    evidenceFresh := true }

def isolatedSnapshot : Snapshot := replaceDevice offloadSnapshot ⟨1⟩ isolatedDevice

theorem isolatedDevice_withinCodec : WithinCodec isolatedDevice where
  labels := by decide
  ports := by decide
  functions := by decide
  capabilityCount := by decide
  capabilities := by decide
  offloadClasses := by decide
  keyed := by
    intro entry member
    cases member

theorem verdicts_transmitted_iff_sample :
    ∃ bytes received, putDevice isolatedDevice [] = .ok () bytes ∧
      getDevice bytes = .ok received [] ∧
      verdicts ℚ (replaceDevice isolatedSnapshot ⟨1⟩ received) {} ⟨1⟩ =
        verdicts ℚ isolatedSnapshot {} ⟨1⟩ := by
  obtain ⟨bytes, received, written, read, alike⟩ :=
    verdicts_transmitted_iff ℚ isolatedSnapshot {} ⟨1⟩ isolatedDevice
      isolatedDevice_withinCodec rfl List.mem_cons_self
  exact ⟨bytes, received, written, read, alike.mpr fun _ _ => ⟨rfl, by decide, by decide⟩⟩

/-- A request for the secure mode is rejected only after the record was sent. -/
theorem verdicts_transmitted_ne :
    ∃ (req : OffloadRequest) (bytes : List UInt8) (received : DeviceRecord),
      isolatedSnapshot.devices[(⟨1⟩ : DeviceId)]? = some isolatedDevice ∧
      WithinCodec isolatedDevice ∧ putDevice isolatedDevice [] = .ok () bytes ∧
      getDevice bytes = .ok received [] ∧
      verdicts ℚ (replaceDevice isolatedSnapshot ⟨1⟩ received) req ⟨1⟩ ≠
        verdicts ℚ isolatedSnapshot req ⟨1⟩ := by
  obtain ⟨bytes, written, read⟩ := getDevice_putDevice isolatedDevice_withinCodec
  refine ⟨{ security := .secure }, bytes, transmitted isolatedDevice, rfl,
    isolatedDevice_withinCodec, written, read, ?_⟩
  intro same
  obtain ⟨-, notSecure, -⟩ := (verdicts_replace_iff ⟨by decide, by decide⟩
    isolatedDevice_withinCodec.keyed rfl List.mem_cons_self).mp same rfl
  exact notSecure rfl

end DPUFabric.Mpproto
