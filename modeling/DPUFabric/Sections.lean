import DPUFabric.Agreement

/-!
# The writer and the reader agree on every section

A section of the payload is read into the live state, entry after entry.  Here
each section agrees with its writer as far as the snapshot is consistent; what
the reader makes of it is a function on live states, `Snapshot.restorePolicy`
and its companions.
-/

namespace DPUFabric

open Std
open DPUFabric.Wire

/-! ## What an entry does to the live state -/

/-- A weight as it is read back from 32 bits. -/
def RankFactorWeight.narrowed (wt : RankFactorWeight) : RankFactorWeight :=
  { wt with weight := wt.weight.toInt32.toInt64 }

namespace LiveState

def addWeight (wt : RankFactorWeight) (out : LiveState) : LiveState :=
  { out with policy := { out.policy with weights := out.policy.weights ++ [wt.narrowed] } }

def addDevice (d : DeviceRecord) (out : LiveState) : LiveState :=
  { out with
    devices := out.devices.insert d.deviceId d
    deviceOrder := out.deviceOrder ++ [d.deviceId]
    ledgers := out.ledgers.insertIfNew d.deviceId ⟨d.resourceCapacity, {}⟩ }

def addService (svc : ServiceDefinition) (out : LiveState) : LiveState :=
  { out with services := out.services.insert svc.serviceId svc }

def addGeneration (pid : ProgramId) (g : ProgramGeneration) (art : ProgramArtifact)
    (cur : Bool) (out : LiveState) : LiveState :=
  let out :=
    { out with
      programs := out.programs.insert pid ((out.programs.getD pid ∅).insert g art) }
  if cur then { out with currentProgramGen := out.currentProgramGen.insert pid g } else out

theorem addGeneration_eq (pid : ProgramId) (g : ProgramGeneration) (art : ProgramArtifact)
    (cur : Bool) (out : LiveState) :
    out.addGeneration pid g art cur =
      { out with
        programs := out.programs.insert pid ((out.programs.getD pid ∅).insert g art)
        currentProgramGen :=
          if cur then out.currentProgramGen.insert pid g else out.currentProgramGen } := by
  unfold addGeneration
  cases cur with
  | true => rfl
  | false => rfl

def addDeployment (d : Deployment) (out : LiveState) : LiveState :=
  { out with deployments := out.deployments.insert d.deploymentId d }

def addUsage (did : DeviceId) (u : Usage) (out : LiveState) : LiveState :=
  { out with usage := out.usage.insert did u }

end LiveState

/-! ## What a section does to the live state -/

namespace Snapshot

/-- The policy of the file over the policy the engine was built with. -/
def restoredPolicy (s : Snapshot) (base : Policy) : Policy :=
  { base with
    generation := s.policy.generation
    version := s.policy.version
    allowHostFallback := s.policy.allowHostFallback
    requireAuthoritativeEvidence := s.policy.requireAuthoritativeEvidence
    preferWarmDeployments := s.policy.preferWarmDeployments
    preferDedicatedIsolation := s.policy.preferDedicatedIsolation
    requireOffloadForRequired := s.policy.requireOffloadForRequired
    minHeadroom := s.policy.minHeadroom
    maxQueuePressure := s.policy.maxQueuePressure
    minDeviceHealth := s.policy.minDeviceHealth
    weights := base.weights ++ s.policy.weights.map RankFactorWeight.narrowed }

def restorePolicy (s : Snapshot) (out : LiveState) : LiveState :=
  { out with epoch := ⟨max s.epoch.value 1⟩, policy := s.restoredPolicy out.policy }

def restoreDevices (s : Snapshot) (out : LiveState) : LiveState :=
  s.orderedDevices.foldl (fun out d => out.addDevice d.rekeyed) out

def restoreServices (s : Snapshot) (out : LiveState) : LiveState :=
  s.services.toList.foldl (fun out entry => out.addService entry.2) out

def restorePrograms (s : Snapshot) (out : LiveState) : LiveState :=
  s.programs.toList.foldl
    (fun out entry =>
      entry.2.toList.foldl
        (fun out gen =>
          out.addGeneration entry.1 gen.1 gen.2 (Persistence.isCurrentGen s entry.1 gen.1))
        out)
    out

def restoreDeployments (s : Snapshot) (out : LiveState) : LiveState :=
  s.deployments.toList.foldl (fun out entry => out.addDeployment entry.2) out

def restoreUsage (s : Snapshot) (out : LiveState) : LiveState :=
  s.deviceUsage.toList.foldl (fun out entry => out.addUsage entry.1 entry.2) out

/-- The sections, read into a live state and not yet fenced. -/
def restoreSections (s : Snapshot) (out : LiveState) : LiveState :=
  s.restoreUsage (s.restoreDeployments (s.restorePrograms (s.restoreServices
    (s.restoreDevices (s.restorePolicy out)))))

/-- The count in front of the devices is right where the order enumerates them. -/
theorem length_orderedDevices {s : Snapshot} (enumerates : Enumerates s.deviceOrder s.devices) :
    s.orderedDevices.length = s.devices.size := by
  have found : ∀ id ∈ s.deviceOrder, (s.devices[id]?).isSome = true := by
    intro id member
    rcases (enumerates.listed id).mp member with ⟨d, present⟩
    rw [present]
    rfl
  have same : s.deviceOrder.Perm s.devices.keys := by
    rw [List.perm_ext_iff_of_nodup enumerates.nodup ExtTreeMap.nodup_keys]
    intro id
    rw [enumerates.listed, ExtTreeMap.mem_keys, ExtTreeMap.mem_iff_contains,
      ExtTreeMap.contains_eq_isSome_getElem?, Option.isSome_iff_exists]
  have whole : s.orderedDevices.length = s.deviceOrder.length := by
    rw [orderedDevices, List.length_filterMap_eq_countP, List.countP_eq_length]
    exact found
  rw [whole, same.length_eq, ExtTreeMap.length_keys]

theorem Consistent.devicesCounted {s : Snapshot} (consistent : s.Consistent) :
    s.DevicesCounted :=
  length_orderedDevices consistent.enumerates

end Snapshot

namespace Persistence

open Codec

/-! ## Reading into the live state -/

instance : Input UInt8 LiveState LoadState := ⟨fun ahead out => ⟨ahead, out⟩⟩

/-- A writer and a part of the parser agree; counts take four bytes. -/
abbrev Builds (write : WriterM Unit) (load : LoadM Unit) (size : Nat) (fits valid : Prop)
    (effect : LiveState → LiveState) : Prop :=
  Agrees (2 ^ 32) write load size fits valid () effect

variable {α : Type} {write write' : WriterM Unit} {read : ReaderM α} {size size' : Nat}
  {fits fits' valid valid' : Prop} {value : α} {effect : LiveState → LiveState}

/-- A record reader builds nothing by itself. -/
theorem agrees_reading (codes : Codes write read size fits valid value) :
    Agrees (2 ^ 32) write (reading read) size fits valid value (id : LiveState → LiveState) := by
  rcases codes with ⟨code, length, writes, reads⟩
  refine ⟨code, length, writes, fun fit small => ?_⟩
  have both := reads fit small
  constructor
  · intro good rest built
    have accepted : read (code ++ rest) = .ok value rest := both.accepts good rest ()
    change reading read ⟨code ++ rest, built⟩ = .ok value ⟨rest, built⟩
    rw [reading, accepted]
  · intro bad rest built
    rcases both.refuses bad rest () with ⟨fault, ahead, refused⟩
    have refused' : read (code ++ rest) = .error fault ahead := refused
    refine ⟨fault, ⟨ahead, built⟩, ?_⟩
    change reading read ⟨code ++ rest, built⟩ = .error fault ⟨ahead, built⟩
    rw [reading, refused']

/-- A field that is stored at once, in front of the rest. -/
theorem bindFill {change : α → LiveState → LiveState} {next : α → LoadM Unit}
    (field : Codes write read size fits valid value)
    (rest : Builds write' (next value) size' fits' valid' effect) :
    Builds (write >>= fun _ => write')
      (reading read >>= fun x => fill (change x) >>= fun _ => next x)
      (size + size') (fits ∧ fits') (valid ∧ valid') (effect ∘ change value) :=
  (agrees_reading field).bind (.building (fun _ _ => rfl) rest)

/-- The last field of an entry, with what is stored of the entry. -/
theorem lastFill {build : α → LoadM Unit} (effect : LiveState → LiveState)
    (field : Codes write read size fits valid value)
    (builds : ∀ ahead out, build value ⟨ahead, out⟩ = .ok () ⟨ahead, effect out⟩) :
    Builds write (reading read >>= build) size fits valid effect :=
  (agrees_reading field).andThen build builds

/-- Entry after entry, as many as were written. -/
theorem builds_times {δ : Type} {write : δ → WriterM Unit} {body : LoadM Unit} {size : δ → Nat}
    {fits valid : δ → Prop} {effect : δ → LiveState → LiveState} {elements : List δ}
    (each : ∀ x ∈ elements, Builds (write x) body (size x) (fits x) (valid x) (effect x)) :
    Builds (elements.forM write) (times body elements.length) (elements.map size).sum
      (∀ x ∈ elements, fits x) (∀ x ∈ elements, valid x)
      (fun out => elements.foldl (fun out x => effect x out) out) := by
  induction elements with
  | nil => exact (Agrees.pure ()).congr rfl (by simp) (by simp) fun _ => rfl
  | cons head tail ih =>
      have rest := ih fun x member => each x (List.mem_cons_of_mem head member)
      have both : Builds (write head >>= fun _ => tail.forM write)
          (body >>= fun _ => times body tail.length) _ _ _ _ :=
        (each head List.mem_cons_self).seq rest
      exact both.congr (by simp) (by simp) (by simp) fun _ => rfl

/-- A bounded count and as many entries, each of at least one byte. -/
theorem builds_counted {δ : Type} {write : δ → WriterM Unit} {body : LoadM Unit}
    {size : δ → Nat} {fits valid : δ → Prop} {effect : δ → LiveState → LiveState}
    (elements : List δ) (bound : Nat) (detail : String)
    (each : ∀ x, Builds (write x) body (size x) (fits x) (valid x) (effect x))
    (nonempty : ∀ x, 0 < size x) :
    Builds (Writer.counted write elements)
      (reading (readCount bound detail) >>= fun n => times body n)
      (4 + (elements.map size).sum) (∀ x ∈ elements, fits x)
      (elements.length ≤ bound ∧ ∀ x ∈ elements, valid x)
      (fun out => elements.foldl (fun out x => effect x out) out) :=
  counted_agrees (fun small => agrees_reading (codes_count small bound detail))
    (builds_times fun x _ => each x) (length_le_sum elements nonempty)

/-! ## Policy and devices -/

theorem builds_weight (wt : RankFactorWeight) :
    Builds (writeWeight wt)
      (do
        let factor ← reading readEnum
        let weight ← reading i32
        fill fun out =>
          { out with
            policy :=
              { out.policy with
                weights := out.policy.weights ++ [{ factor, weight := weight.toInt64 }] } })
      5 True True (LiveState.addWeight wt) := by
  unfold writeWeight
  exact Agrees.congr
    (.bind (agrees_reading (codes_enum wt.factor)) <|
      lastFill (LiveState.addWeight wt) (codes_i32 wt.weight.toInt32) fun _ _ => rfl)
    rfl (by simp) (by simp) fun _ => rfl

theorem foldl_addWeight (weights : List RankFactorWeight) (out : LiveState) :
    weights.foldl (fun out wt => out.addWeight wt) out =
      { out with
        policy :=
          { out.policy with
            weights := out.policy.weights ++ weights.map RankFactorWeight.narrowed } } := by
  induction weights generalizing out with
  | nil => simp
  | cons wt rest ih =>
      rw [List.foldl_cons, ih]
      simp [LiveState.addWeight]

theorem builds_policy (s : Snapshot) :
    Builds (writePolicy s) loadPolicy (50 + 5 * s.policy.weights.length) True
      (s.policy.weights.length ≤ 64) s.restorePolicy := by
  unfold writePolicy loadPolicy
  dsimp only
  refine Agrees.congrEffect (Agrees.congr
    (bindFill (codes_u64 _) <| bindFill (codes_id _) <| bindFill (codes_u64 _) <|
      bindFill (codes_flag _) <| bindFill (codes_flag _) <| bindFill (codes_flag _) <|
      bindFill (codes_flag _) <| bindFill (codes_flag _) <| bindFill (codes_u64 _) <|
      bindFill (codes_u64 _) <| bindFill (codes_enum _) <|
      builds_counted s.policy.weights 64 _ builds_weight fun _ => by decide)
    ?_ ?_ ?_ fun _ => rfl) ?_
  · simp
    omega
  · simp
  · simp
  · intro built
    simp only [Function.comp_apply, foldl_addWeight]
    rfl

theorem codes_device_nonempty (d : DeviceRecord) : 0 < d.encodedSize := by
  simp only [DeviceRecord.encodedSize]
  omega

/-- The loop over the device order writes the records it finds. -/
theorem forM_deviceOrder (s : Snapshot) (order : List DeviceId) :
    (order.forM fun id =>
      match s.devices[id]? with
      | none => (pure () : WriterM Unit)
      | some d => writeDevice d) =
      (order.filterMap fun id => s.devices[id]?).forM writeDevice := by
  induction order with
  | nil => rfl
  | cons id rest ih =>
      rw [List.forM_eq_forM, List.forM_cons, ← List.forM_eq_forM, ih]
      cases present : s.devices[id]? with
      | none => rw [List.filterMap_cons_none present, pure_bind]
      | some d =>
          rw [List.filterMap_cons_some present, List.forM_eq_forM, List.forM_cons]

/-- The number of the table, and then the records in the device order. -/
theorem writeDevices_eq (s : Snapshot) :
    writeDevices s =
      (Writer.u32 (UInt32.ofNat s.devices.size) >>= fun _ => s.orderedDevices.forM writeDevice) :=
  congrArg (Writer.u32 (UInt32.ofNat s.devices.size) >>= fun _ => ·)
    (forM_deviceOrder s s.deviceOrder)

theorem writeDevices_eq_counted {s : Snapshot} (counted : s.DevicesCounted) :
    writeDevices s = Writer.counted writeDevice s.orderedDevices := by
  rw [writeDevices_eq, ← counted]
  rfl

theorem builds_device (d : DeviceRecord) :
    Builds (writeDevice d)
      (do
        let d ← reading readDevice
        fill (LiveState.addDevice d))
      d.encodedSize d.Writable d.Storable (LiveState.addDevice d.rekeyed) :=
  lastFill (LiveState.addDevice d.rekeyed) (codes_device d) fun _ _ => rfl

theorem builds_devices {s : Snapshot} (counted : s.DevicesCounted) :
    Builds (writeDevices s) loadDevices
      (4 + (s.orderedDevices.map DeviceRecord.encodedSize).sum)
      (∀ d ∈ s.orderedDevices, d.Writable)
      (s.orderedDevices.length ≤ kMaxContainerCount ∧ ∀ d ∈ s.orderedDevices, d.Storable)
      s.restoreDevices := by
  rw [writeDevices_eq_counted counted]
  unfold loadDevices
  exact builds_counted s.orderedDevices _ _ builds_device codes_device_nonempty

/-! ## Services, programs, deployments and usage -/

theorem builds_services (s : Snapshot) :
    Builds (writeServices s) loadServices
      (4 + (s.services.toList.map fun entry => entry.2.encodedSize).sum)
      (∀ entry ∈ s.services.toList, entry.2.Writable)
      (s.services.toList.length ≤ kMaxContainerCount ∧
        ∀ entry ∈ s.services.toList, entry.2.Storable)
      s.restoreServices := by
  unfold writeServices loadServices
  refine builds_counted s.services.toList _ _ (fun entry => ?_) fun entry => ?_
  · exact lastFill (LiveState.addService entry.2) (codes_service entry.2) fun _ _ => rfl
  · simp only [ServiceDefinition.encodedSize]
    omega

/-- The three fields of a generation, and what is stored of it. -/
theorem builds_generation (s : Snapshot) (pid : ProgramId)
    (gen : ProgramGeneration × ProgramArtifact) :
    Builds (writeGeneration s pid gen)
      (do
        let g ← reading readId
        let art ← reading readProgram
        let cur ← reading flag
        fill fun out =>
          { out with
            programs :=
              out.programs.insert pid ((out.programs.getD pid ∅).insert g art) }
        if cur then
          fill fun out =>
            { out with currentProgramGen := out.currentProgramGen.insert pid g })
      (9 + gen.2.encodedSize) gen.2.Writable gen.2.Storable
      (LiveState.addGeneration pid gen.1 gen.2 (isCurrentGen s pid gen.1)) := by
  unfold writeGeneration
  refine Agrees.congr
    (.bind (agrees_reading (codes_id gen.1)) <| .bind (agrees_reading (codes_program gen.2)) <|
      lastFill _ (codes_flag _) ?_)
    (by omega) (by simp) (by simp) fun _ => rfl
  intro ahead out
  cases isCurrentGen s pid gen.1 with
  | true => rfl
  | false => rfl

theorem builds_programs (s : Snapshot) :
    Builds (writePrograms s) loadPrograms
      (4 + (s.programs.toList.map fun entry =>
        12 + (entry.2.toList.map fun gen => 9 + gen.2.encodedSize).sum).sum)
      (∀ entry ∈ s.programs.toList, ∀ gen ∈ entry.2.toList, gen.2.Writable)
      (s.programs.toList.length ≤ kMaxContainerCount ∧
        ∀ entry ∈ s.programs.toList, entry.2.toList.length ≤ 256 ∧
          ∀ gen ∈ entry.2.toList, gen.2.Storable)
      s.restorePrograms := by
  unfold writePrograms loadPrograms
  refine builds_counted s.programs.toList _ _ (fun entry => ?_) fun entry => by omega
  refine Agrees.congr
    (.bind (agrees_reading (codes_id entry.1)) <|
      builds_counted entry.2.toList 256 _ (builds_generation s entry.1) fun gen => by omega)
    (by omega) (by simp) (by simp) fun _ => rfl

theorem builds_deployment (d : Deployment) :
    Builds (writeDeployment d)
      (do
        let d ← reading readDeployment
        fill fun out => { out with deployments := out.deployments.insert d.deploymentId d })
      d.encodedSize True True (LiveState.addDeployment d) :=
  lastFill _ (codes_deployment d) fun _ _ => rfl

theorem builds_deployments (s : Snapshot) :
    Builds (writeDeployments s) loadDeployments
      (4 + (s.deployments.toList.map fun entry => entry.2.encodedSize).sum) True
      (s.deployments.toList.length ≤ kMaxContainerCount) s.restoreDeployments := by
  unfold writeDeployments loadDeployments
  refine Agrees.congr
    (builds_counted s.deployments.toList _ _ (fun entry => builds_deployment entry.2)
      fun entry => ?_)
    rfl (by simp) (by simp) fun _ => rfl
  simp only [Deployment.encodedSize]
  omega

theorem builds_usage (did : DeviceId) (u : Usage) :
    Builds (do
        writeId did
        writeUsage u)
      (do
        let did ← reading readId
        let u ← reading readUsage
        fill fun out => { out with usage := out.usage.insert did u })
      48 True True (LiveState.addUsage did u) :=
  Agrees.congr
    (.bind (agrees_reading (codes_id did)) <|
      lastFill (LiveState.addUsage did u) (codes_usage u) fun _ _ => rfl)
    rfl (by simp) (by simp) fun _ => rfl

theorem builds_usages (s : Snapshot) :
    Builds (writeUsages s) loadUsage (4 + 48 * s.deviceUsage.toList.length) True
      (s.deviceUsage.toList.length ≤ kMaxContainerCount) s.restoreUsage := by
  unfold writeUsages loadUsage
  exact Agrees.congr
    (builds_counted s.deviceUsage.toList _ _ (fun entry => builds_usage entry.1 entry.2)
      fun entry => by decide)
    (by simp [mul_comm]) (by simp) (by simp) fun _ => rfl

/-! ## The payload -/

/-- The sections but the check that nothing follows them. -/
def loadRecords : LoadM Unit :=
  loadPolicy >>= fun _ => loadDevices >>= fun _ => loadServices >>= fun _ =>
    loadPrograms >>= fun _ => loadDeployments >>= fun _ => loadUsage

theorem loadSections_eq : loadSections = loadRecords >>= fun _ => reading expectEnd := by
  simp only [loadSections, loadRecords, bind_assoc]

theorem builds_sections {s : Snapshot} (counted : s.DevicesCounted) :
    Builds (writeSections s) loadRecords s.encodedSize s.Writable s.SectionsStorable
      s.restoreSections := by
  unfold writeSections loadRecords
  refine Agrees.congrEffect (Agrees.congr
    (.seq (builds_policy s) <| .seq (builds_devices counted) <|
      .seq (builds_services s) <| .seq (builds_programs s) <|
      .seq (builds_deployments s) (builds_usages s))
    ?_ ?_ ?_ fun _ => rfl) fun _ => rfl
  · simp only [Snapshot.encodedSize]
    omega
  · constructor
    · rintro ⟨-, devices, services, programs, -, -⟩
      exact ⟨devices, services, programs⟩
    · rintro ⟨devices, services, programs⟩
      exact ⟨trivial, devices, services, programs, trivial, trivial⟩
  · constructor
    · rintro ⟨weights, ⟨deviceCount, devices⟩, ⟨serviceCount, services⟩,
        ⟨programCount, programs⟩, deploymentCount, usageCount⟩
      exact ⟨weights, deviceCount, devices, serviceCount, services, programCount,
        fun entry member => (programs entry member).1,
        fun entry member => (programs entry member).2, deploymentCount, usageCount⟩
    · rintro ⟨weights, deviceCount, devices, serviceCount, services, programCount,
        generationCounts, programs, deploymentCount, usageCount⟩
      exact ⟨weights, ⟨deviceCount, devices⟩, ⟨serviceCount, services⟩,
        ⟨programCount, fun entry member =>
          ⟨generationCounts entry member, programs entry member⟩⟩,
        deploymentCount, usageCount⟩

end Persistence

end DPUFabric
