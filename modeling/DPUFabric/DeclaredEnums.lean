import DPUFabric.Contents
import DPUFabric.Eligibility
import DPUFabric.RoundTrip

/-!
# Undeclared values in a state file

Every enumeration is one byte on disk.  The record readers compare some of the
bytes with the range of their enumeration and cast the others as they are, so
a file can carry values that no enumerator stands for past the parser.  This
module separates the two kinds of fields and says when a load leaves only
declared values behind: the ranges that the readers leave unchecked must hold
in the file itself, wherever a later record does not replace the value.
-/

namespace DPUFabric

open Std
open DPUFabric.Wire
open Exceptions

/-- The range that the `is_valid_*` helpers test: a cast from it, and no other, is declared. -/
theorem RawEnum.isDeclared_ofCode_iff {E : Type} [Enumerator E] (code : UInt8) :
    (RawEnum.ofCode (E := E) code).isDeclared = true ↔
      1 ≤ code.toNat ∧ code.toNat ≤ (Enumerator.all (E := E)).length := by
  have inside : (Enumerator.ofCode? (E := E) code).isSome = true ↔
      1 ≤ code.toNat ∧ code.toNat ≤ (Enumerator.all (E := E)).length := by
    unfold Enumerator.ofCode?
    split_ifs with zero
    · simp [zero]
    · have positive : code.toNat ≠ 0 := fun none => zero (UInt8.toNat_inj.mp none)
      rw [isSome_getElem?]
      omega
  rw [← inside]
  unfold RawEnum.ofCode
  split
  · rename_i found
    simp [found, isDeclared]
  · rename_i found
    simp [found, isDeclared]

/-! ## The fields of a record -/

/-- The fields that `read_device` casts and does not check. -/
structure DeviceRecord.CastsDeclared (d : DeviceRecord) : Prop where
  capabilitySources : ∀ c ∈ d.capabilities.records, c.source.isDeclared = true
  offloadClasses : ∀ k ∈ d.offloadClasses, k.isDeclared = true
  executionModels : ∀ m ∈ d.executionModels, m.isDeclared = true
  locality : d.locality.isDeclared = true
  discoverySource : d.discoverySource.isDeclared = true

/-- The fields that it checks, but the lifecycle. -/
structure DeviceRecord.ChecksDeclared (d : DeviceRecord) : Prop where
  deviceClass : d.deviceClass.isDeclared = true
  capabilityStates : ∀ c ∈ d.capabilities.records, c.state.isDeclared = true
  health : d.health.isDeclared = true

structure DeviceRecord.EnumsDeclared (d : DeviceRecord) : Prop
    extends DeviceRecord.CastsDeclared d, DeviceRecord.ChecksDeclared d where
  lifecycle : d.lifecycle.isDeclared = true

/-- The fields of a service but its offload class, which is checked and has a type of its own. -/
structure ServiceDefinition.EnumsDeclared (svc : ServiceDefinition) : Prop where
  isolationLevel : svc.isolation.level.isDeclared = true
  security : svc.isolation.security.isDeclared = true
  executionModel : svc.executionModel.isDeclared = true
  statefulness : svc.statefulness.isDeclared = true
  allowedFallbackClasses : ∀ k ∈ svc.allowedFallbackClasses, k.isDeclared = true

def ProgramArtifact.EnumsDeclared (art : ProgramArtifact) : Prop :=
  art.artifactType.isDeclared = true

structure Policy.EnumsDeclared (policy : Policy) : Prop where
  minDeviceHealth : policy.minDeviceHealth.isDeclared = true
  factors : ∀ wt ∈ policy.weights, wt.factor.isDeclared = true

/-- Every enumerated field of the live state; the state of a deployment is one by its type. -/
structure LiveState.EnumsDeclared (s : LiveState) : Prop where
  policy : s.policy.EnumsDeclared
  devices : ∀ (id : DeviceId) (d : DeviceRecord), s.devices[id]? = some d → d.EnumsDeclared
  services : ∀ (id : ServiceId) (svc : ServiceDefinition),
    s.services[id]? = some svc → svc.EnumsDeclared
  programs : ∀ (key : ProgramId × ProgramGeneration) (art : ProgramArtifact),
    s.artifactOf key = some art → art.EnumsDeclared

/-! ## The conditions -/

/-- The values of a file that the parser casts are declared, unless they are replaced. -/
structure Contents.CastsDeclared (c : Contents) : Prop where
  policy : c.policy.EnumsDeclared
  devices : ∀ d, OrderedMap.IsLast DeviceRecord.deviceId c.devices d → d.CastsDeclared
  services : ∀ svc, OrderedMap.IsLast ServiceDefinition.serviceId c.services svc →
    svc.EnumsDeclared
  programs : ∀ stored, OrderedMap.IsLast StoredGeneration.key c.programs stored →
    stored.artifact.EnumsDeclared

/--
The values that a live state had before are declared, unless a record of the
file replaces them.  The fence after the load gives every device a declared
lifecycle.
-/
structure Contents.KeepsDeclared (c : Contents) (s : LiveState) : Prop where
  factors : ∀ wt ∈ s.policy.weights, wt.factor.isDeclared = true
  devices : ∀ (id : DeviceId) (d : DeviceRecord), s.devices[id]? = some d →
    (∀ d' ∈ c.devices, d'.deviceId ≠ id) → d.CastsDeclared ∧ d.ChecksDeclared
  services : ∀ (id : ServiceId) (svc : ServiceDefinition), s.services[id]? = some svc →
    (∀ svc' ∈ c.services, svc'.serviceId ≠ id) → svc.EnumsDeclared
  programs : ∀ (key : ProgramId × ProgramGeneration) (art : ProgramArtifact),
    s.artifactOf key = some art → (∀ stored ∈ c.programs, stored.key ≠ key) →
      art.EnumsDeclared

open Persistence

namespace Persistence

/-! ## What the readers check -/

variable {α : Type} {read : ReaderM α} {post : α → Prop}

theorem yields_many (each : Yields read post) (n : Nat) :
    Yields (many read n) fun values => ∀ value ∈ values, post value := by
  induction n with
  | zero => exact .pure (by simp)
  | succ n ih =>
      refine each.bind fun first holds => ih.bind fun rest all => .pure ?_
      intro value member
      rcases List.mem_cons.mp member with rfl | later
      · exact holds
      · exact all value later

theorem yields_counted (bound : Nat) (detail : String) (each : Yields read post) :
    Yields (readCounted bound detail read) fun values => ∀ value ∈ values, post value :=
  .after fun n => yields_many each n

theorem yields_cap : Yields readCap fun c => c.state.isDeclared = true := by
  unfold readCap
  iterate 10 refine .after fun _ => ?_
  exact .pure rfl

/-- A capability set holds nothing that was not added to it. -/
theorem mem_records_of_added {caps : List Capability} {c : Capability}
    (member : c ∈ (caps.foldl CapabilitySet.add ∅).records) : c ∈ caps := by
  rcases List.mem_map.mp member with ⟨⟨key, found⟩, listed, rfl⟩
  have present := ExtTreeMap.mem_toList_iff_getElem?_eq_some.mp listed
  rcases (OrderedMap.lookup_foldl_iff (fun (set : CapabilitySet) (key : CapabilityKey) => set[key]?)
    (fun set c key => OrderedMap.lookup_insert set c.key key c) caps ∅ key found).mp present with
    ⟨x, last, -, rfl⟩ | ⟨-, empty⟩
  · exact last.mem
  · simp at empty

/-- Whatever `read_device` returns has passed its checks. -/
theorem yields_device : Yields readDevice DeviceRecord.ChecksDeclared := by
  unfold readDevice
  iterate 22 refine .after fun _ => ?_
  refine .after fun ncap => (yields_many yields_cap ncap).bind fun caps states => ?_
  iterate 22 refine .after fun _ => ?_
  refine .pure ?_
  constructor
  case deviceClass => rfl
  case capabilityStates => exact fun c member => states c (mem_records_of_added member)
  case health => rfl

theorem checksDeclared_of_fileContents {buf : List UInt8} {c : Contents}
    (found : fileContents buf = some c) : ∀ d ∈ c.devices, d.ChecksDeclared := by
  have yields : Yields readContents fun c => ∀ d ∈ c.devices, d.ChecksDeclared := by
    unfold readContents
    refine .after fun head => (yields_counted _ _ yields_device).bind fun devices checked => ?_
    iterate 5 refine .after fun _ => ?_
    exact .pure checked
  rcases fileContents_eq_some_iff.mp found with ⟨payload, rest, -, contents⟩
  exact yields contents

end Persistence

/-! ## What a load leaves -/

/-- The fence gives a device a declared lifecycle and changes no other enumerated field. -/
theorem fenceRecoveredDevice_enumsDeclared_iff (d : DeviceRecord) :
    (fenceRecoveredDevice d).EnumsDeclared ↔ d.CastsDeclared ∧ d.ChecksDeclared := by
  rw [fenceRecoveredDevice_eq]
  constructor
  · rintro ⟨casts, checks, -⟩
    exact ⟨{ casts with }, { checks with }⟩
  · rintro ⟨casts, checks⟩
    refine ⟨{ casts with }, { checks with }, ?_⟩
    dsimp only
    split_ifs with settled
    · rcases settled with retired | failed | offline
      · rw [retired]
        rfl
      · rw [failed]
        rfl
      · rw [offline]
        rfl
    · rfl

/-- So for all devices of a live state. -/
theorem forall_devices_fenceRecovered_iff (out : LiveState) :
    (∀ (id : DeviceId) (d : DeviceRecord),
        (fenceRecovered out).devices[id]? = some d → d.EnumsDeclared) ↔
      ∀ (id : DeviceId) (d : DeviceRecord),
        out.devices[id]? = some d → d.CastsDeclared ∧ d.ChecksDeclared := by
  refine forall_congr' fun id => ?_
  have fenced : (fenceRecovered out).devices[id]? = out.devices[id]?.map fenceRecoveredDevice :=
    ExtTreeMap.getElem?_map
  rw [fenced]
  cases out.devices[id]? with
  | none => simp
  | some d => simp [fenceRecoveredDevice_enumsDeclared_iff]

theorem Policy.laidOver_enumsDeclared_iff (policy base : Policy) :
    (policy.laidOver base).EnumsDeclared ↔
      policy.EnumsDeclared ∧ ∀ wt ∈ base.weights, wt.factor.isDeclared = true := by
  constructor
  · rintro ⟨minDeviceHealth, factors⟩
    refine ⟨⟨minDeviceHealth, fun wt member => factors wt ?_⟩, fun wt member => factors wt ?_⟩
    · exact List.mem_append_right _ member
    · exact List.mem_append_left _ member
  · rintro ⟨⟨minDeviceHealth, factors⟩, before⟩
    refine ⟨minDeviceHealth, fun wt member => ?_⟩
    rcases List.mem_append.mp member with early | late
    · exact before wt early
    · exact factors wt late

/-- Section by section, what the parser and the fence leave of a file and a live state. -/
theorem enumsDeclared_laidOver_iff {c : Contents} (s : LiveState)
    (checked : ∀ d ∈ c.devices, d.ChecksDeclared) :
    (fenceRecovered (c.laidOver s)).EnumsDeclared ↔ c.CastsDeclared ∧ c.KeepsDeclared s := by
  have policy : (fenceRecovered (c.laidOver s)).policy = c.policy.laidOver s.policy := by
    rw [c.laidOver_eq]
    rfl
  have devices := (forall_devices_fenceRecovered_iff (c.laidOver s)).trans
    (c.forall_devices_laidOver_iff s fun d => d.CastsDeclared ∧ d.ChecksDeclared)
  have services := c.forall_services_laidOver_iff s ServiceDefinition.EnumsDeclared
  have programs := c.forall_programs_laidOver_iff s ProgramArtifact.EnumsDeclared
  constructor
  · intro declared
    have whole := declared.policy
    rw [policy, Policy.laidOver_enumsDeclared_iff] at whole
    have eachDevice := devices.mp declared.devices
    have eachService := services.mp declared.services
    have eachProgram := programs.mp declared.programs
    constructor
    · exact ⟨whole.1, fun d last => (eachDevice.1 d last).1, eachService.1, eachProgram.1⟩
    · exact ⟨whole.2, eachDevice.2, eachService.2, eachProgram.2⟩
  · rintro ⟨casts, keeps⟩
    have written : ∀ d, OrderedMap.IsLast DeviceRecord.deviceId c.devices d →
        d.CastsDeclared ∧ d.ChecksDeclared :=
      fun d last => ⟨casts.devices d last, checked d last.mem⟩
    constructor
    case policy =>
      rw [policy, Policy.laidOver_enumsDeclared_iff]
      exact ⟨casts.policy, keeps.factors⟩
    case devices => exact devices.mpr ⟨written, keeps.devices⟩
    case services => exact services.mpr ⟨casts.services, keeps.services⟩
    case programs => exact programs.mpr ⟨casts.programs, keeps.programs⟩

namespace Persistence

/--
A load leaves only declared values if and only if the unchecked bytes of the
file hold declared values wherever no later record replaces them, and so does
what the load leaves in place.
-/
theorem load_enumsDeclared_iff {buf : List UInt8} {s s' : LiveState}
    (loaded : load (some buf) s = .ok true s') :
    s'.EnumsDeclared ↔
      ∃ c, fileContents buf = some c ∧ c.CastsDeclared ∧ c.KeepsDeclared s := by
  rcases load_accepted_iff.mp loaded with ⟨c, found, rfl⟩
  rw [enumsDeclared_laidOver_iff s (checksDeclared_of_fileContents found)]
  constructor
  · intro both
    exact ⟨c, found, both⟩
  · rintro ⟨c', found', both⟩
    rw [found] at found'
    cases found'
    exact both

/-- A payload without records, and the health threshold of its policy. -/
def thresholdPayload (code : UInt8) : List UInt8 :=
  List.replicate 45 0 ++ code :: List.replicate 24 0

def thresholdContents (code : UInt8) : Contents :=
  { epoch := 0
    policy :=
      { preferWarmDeployments := false
        requireAuthoritativeEvidence := false
        minHeadroom := 0
        maxQueuePressure := 0
        minDeviceHealth := RawEnum.ofCode code
        requireOffloadForRequired := false }
    devices := []
    services := []
    programs := []
    deployments := []
    usage := [] }

theorem fileContents_threshold {code : UInt8}
    (read : readContents (thresholdPayload code) = .ok (thresholdContents code) []) :
    fileContents (container (thresholdPayload code)) = some (thresholdContents code) := by
  refine fileContents_eq_some_iff.mpr ⟨_, [], ?_, read⟩
  rw [openContainer_container, if_pos]
  simp [thresholdPayload, kFixedHead, kTrailerFixed, kMaxFileBytes]

/-- Such a file with a declared threshold leaves declared values in a fresh live state. -/
theorem load_enumsDeclared_iff_warn :
    ∃ s', load (some (container (thresholdPayload 2))) {} = .ok true s' ∧
      s'.EnumsDeclared := by
  have found := fileContents_threshold (show readContents (thresholdPayload 2) = _ from rfl)
  have loaded : load (some (container (thresholdPayload 2))) {} = .ok true _ :=
    load_accepted_iff.mpr ⟨_, found, rfl⟩
  refine ⟨_, loaded, (load_enumsDeclared_iff loaded).mpr ⟨_, found, ?_, ?_⟩⟩
  · constructor
    case policy => exact ⟨rfl, fun wt member => (List.not_mem_nil member).elim⟩
    case devices => exact fun d last => (List.not_mem_nil last.mem).elim
    case services => exact fun svc last => (List.not_mem_nil last.mem).elim
    case programs => exact fun stored last => (List.not_mem_nil last.mem).elim
  · constructor
    case factors => exact fun wt member => (List.not_mem_nil member).elim
    case devices => simp
    case services => simp
    case programs => simp [LiveState.artifactOf]

/-- A threshold of no declared value excludes no device. -/
theorem healthMeetsPolicy_of_undeclared {min : RawEnum DeviceHealth}
    (undeclared : min.isDeclared = false) (h : RawEnum DeviceHealth) :
    healthMeetsPolicy h min = true := by
  cases min with
  | declared value => cases undeclared
  | undeclared code outside =>
      rcases h with value | ⟨code', outside'⟩
      · cases value <;> rfl
      · rfl

/-- A threshold outside the range is loaded, and no device is too unhealthy for it. -/
theorem load_leaves_undeclared :
    ∃ s', load (some (container (thresholdPayload 99))) {} = .ok true s' ∧
      ¬ s'.EnumsDeclared ∧
      ∀ health, healthMeetsPolicy health s'.policy.minDeviceHealth = true := by
  have found := fileContents_threshold (show readContents (thresholdPayload 99) = _ from rfl)
  have undeclared : (fenceRecovered ((thresholdContents 99).laidOver
      {})).policy.minDeviceHealth.isDeclared = false := rfl
  refine ⟨_, load_accepted_iff.mpr ⟨_, found, rfl⟩, ?_, healthMeetsPolicy_of_undeclared undeclared⟩
  intro declared
  have present := declared.policy.minDeviceHealth
  rw [undeclared] at present
  cases present

end Persistence

end DPUFabric
