import DPUFabric.Contents
import DPUFabric.Consistency

/-!
# What is read back from the state file

A snapshot is written, and the file is loaded into a live state.  The container
gives back the payload, the sections agree, and the entries rebuild the tables
they were taken from, so a load into a fresh live state ends in
`Snapshot.restored`: the snapshot with its capabilities under their own keys, its
policy laid over the engine's, and everything dynamic fenced.
-/

namespace DPUFabric.Persistence

open Std
open Codec
open DPUFabric.Wire

/-! ## The container -/

theorem toNat_byte64 (v s : UInt64) (inside : s.toNat < 64) :
    ((v >>> s) &&& 0xFF).toUInt8.toNat = v.toNat / 2 ^ s.toNat % 256 := by
  have low : (0xFF : UInt64).toNat = 2 ^ 8 - 1 := rfl
  rw [UInt64.toNat_toUInt8, UInt64.toNat_and, low, Nat.and_two_pow_sub_one_eq_mod,
    UInt64.toNat_shiftRight, Nat.shiftRight_eq_div_pow, Nat.mod_eq_of_lt inside]
  omega

/-- The lowest digits to the base 256 make up the rest modulo their weight. -/
theorem foldr_digits (n w : Nat) :
    ((List.range w).map fun i => n / 256 ^ i % 256).foldr
      (fun digit rest => digit + 256 * rest) 0 = n % 256 ^ w := by
  induction w generalizing n with
  | zero => simp [Nat.mod_one]
  | succ w ih =>
      have shifted : (List.range w).map ((fun i => n / 256 ^ i % 256) ∘ Nat.succ) =
          (List.range w).map fun i => n / 256 / 256 ^ i % 256 := by
        refine List.map_congr_left fun i _ => ?_
        rw [Function.comp_apply, Nat.succ_eq_add_one, pow_succ', Nat.div_div_eq_div_mul]
      rw [List.range_succ_eq_map, List.map_cons, List.map_map, List.foldr_cons, shifted, ih,
        pow_zero, Nat.div_one, pow_succ', Nat.mod_mul]

theorem littleEndian_le64 (v : UInt64) : littleEndian (le64 v) = v.toNat := by
  have bytes : (le64 v).map UInt8.toNat = (List.range 8).map fun i => v.toNat / 256 ^ i % 256 := by
    rw [le64, List.map_map]
    refine List.map_congr_left fun i inside => ?_
    have small := List.mem_range.mp inside
    have shift : (UInt64.ofNat (8 * i)).toNat = 8 * i := by
      rw [UInt64.toNat_ofNat']
      omega
    rw [Function.comp_apply, toNat_byte64 v _ (by omega), shift, pow_mul]
    rfl
  have digits : littleEndian (le64 v) =
      ((le64 v).map UInt8.toNat).foldr (fun digit rest => digit + 256 * rest) 0 := by
    rw [List.foldr_map]
    rfl
  rw [digits, bytes, foldr_digits]
  exact Nat.mod_eq_of_lt v.toNat_lt

theorem length_le64 (v : UInt64) : (le64 v).length = 8 := by
  simp [le64]

/-- The sixteen bytes in front of the header checksum. -/
def header (payload : List UInt8) : List UInt8 :=
  le32 kMagic ++ le16 kFormatVersion ++ le16 kReserved ++ le64 (UInt64.ofNat payload.length)

theorem length_header (payload : List UInt8) : (header payload).length = 16 := by
  simp [header, length_le64, length_le32, length_le16]

theorem container_eq (payload : List UInt8) :
    container payload =
      header payload ++ (le32 (crc32 (header payload)) ++ (payload ++ le32 (crc32 payload))) := by
  have whole : (header payload).take kHeaderCrcLen = header payload :=
    List.take_of_length_le (by rw [length_header]; decide)
  change header payload ++ le32 (crc32 ((header payload).take kHeaderCrcLen)) ++ payload ++
    le32 (crc32 payload) = _
  rw [whole, List.append_assoc, List.append_assoc]

theorem length_container (payload : List UInt8) :
    (container payload).length = kFixedHead + payload.length + kTrailerFixed := by
  rw [container_eq]
  simp only [List.length_append, length_header, length_le32, kFixedHead, kTrailerFixed]
  omega

/-- Where the fields of a container stand. -/
theorem container_fields (payload : List UInt8) :
    (container payload).take 4 = le32 kMagic ∧
      ((container payload).drop 4).take 2 = le16 kFormatVersion ∧
      ((container payload).drop 6).take 2 = le16 kReserved ∧
      ((container payload).drop 8).take 8 = le64 (UInt64.ofNat payload.length) ∧
      ((container payload).drop 16).take 4 = le32 (crc32 (header payload)) ∧
      (container payload).take kHeaderCrcLen = header payload ∧
      (container payload).drop kFixedHead = payload ++ le32 (crc32 payload) := by
  rw [container_eq]
  generalize le32 (crc32 payload) = trailer
  generalize crc32 (header payload) = headerCrc
  exact ⟨rfl, rfl, rfl, rfl, rfl, rfl, rfl⟩

/-- Only the size of its file can keep a payload from being taken out of its container. -/
theorem openContainer_container (payload : List UInt8) :
    openContainer (container payload) =
      if kFixedHead + payload.length + kTrailerFixed ≤ kMaxFileBytes then .ok payload
      else .error (.error .corruptState "state file exceeds bound") := by
  have length := length_container payload
  rcases container_fields payload with ⟨magic, ver, reserved, payloadLen, headerCrc, head, rest⟩
  have head20 : kFixedHead = 20 := rfl
  have tail4 : kTrailerFixed = 4 := rfl
  have file30 : kMaxFileBytes = 2 ^ 30 := rfl
  unfold openContainer
  simp only
  rw [if_neg (by omega)]
  by_cases fits : kFixedHead + payload.length + kTrailerFixed ≤ kMaxFileBytes
  · have whole : (UInt64.ofNat payload.length).toNat = payload.length := by
      rw [UInt64.toNat_ofNat']
      omega
    have trailer : (container payload).drop (kFixedHead + payload.length) =
        le32 (crc32 payload) := by
      rw [← List.drop_drop, rest, List.drop_left]
    rw [if_pos fits, if_neg (by omega), if_neg (by omega), magic, ver, reserved, payloadLen,
      headerCrc, head, rest, littleEndian_le32, littleEndian_le16, littleEndian_le16,
      littleEndian_le64, littleEndian_le32, whole, trailer, littleEndian_le32, List.take_left]
    rw [if_neg (by simp), if_neg (by simp), if_neg (by decide), if_neg (by omega),
      if_neg (by simp), if_neg (by omega), if_neg (by simp)]
  · rw [if_neg fits, if_pos (by omega)]

/-! ## The payload -/

/-- A snapshot is written unless one of its strings is too long. -/
theorem serialize_ok_iff {s : Snapshot} (counted : s.DevicesCounted) :
    (∃ file, serialize s = .ok file) ↔ s.Writable := by
  rcases builds_sections counted with ⟨code, -, writes, -⟩
  unfold serialize
  constructor
  · rintro ⟨file, saved⟩
    by_contra unfit
    rcases writes.throws unfit [] with ⟨fault, buffer, thrown⟩
    rw [thrown] at saved
    cases saved
  · intro fit
    rw [writes.appends fit []]
    exact ⟨_, rfl⟩

/-- The payload a snapshot is written as, and what the sections make of it. -/
structure Payload (s : Snapshot) (payload : List UInt8) : Prop where
  written : writeSections s [] = .ok () payload
  length : payload.length = s.encodedSize
  reads : s.encodedSize < 2 ^ 32 →
    Reads loadRecords payload s.SectionsStorable () s.restoreSections

/-- A saved file is the container of such a payload. -/
theorem payload_of_serialize {s : Snapshot} (counted : s.DevicesCounted) {file : List UInt8}
    (saved : serialize s = .ok file) : ∃ payload, file = container payload ∧ Payload s payload := by
  have fit := (serialize_ok_iff counted).mp ⟨file, saved⟩
  rcases builds_sections counted with ⟨code, length, writes, reads⟩
  have written : writeSections s [] = .ok () code := writes.appends fit []
  rw [serialize, written] at saved
  cases saved
  exact ⟨code, rfl, written, length, reads fit⟩

/-- The bytes behind the sections decide whether a storable payload is accepted. -/
theorem loadSections_append {s : Snapshot} {payload : List UInt8} (read : Payload s payload)
    (storable : s.SectionsStorable) (small : s.encodedSize < 2 ^ 32) (rest : List UInt8)
    (base : LiveState) :
    loadSections ⟨payload ++ rest, base⟩ =
      if rest.isEmpty then .ok () ⟨rest, s.restoreSections base⟩
      else .error (.error .protocolError "trailing bytes after message")
        ⟨rest, s.restoreSections base⟩ := by
  have accepted : loadRecords ⟨payload ++ rest, base⟩ = .ok () ⟨rest, s.restoreSections base⟩ :=
    (read.reads small).accepts storable rest base
  rw [loadSections_eq, Exceptions.bind_of_ok accepted]
  cases rest with
  | nil => rfl
  | cons byte rest => rfl

/-- A payload that is not storable is refused. -/
theorem loadSections_refuses {s : Snapshot} {payload : List UInt8} (read : Payload s payload)
    (unfit : ¬ s.SectionsStorable) (small : s.encodedSize < 2 ^ 32) (base : LiveState) :
    ∃ fault reached, loadSections ⟨payload, base⟩ = .error fault reached := by
  rcases (read.reads small).refuses unfit [] base with ⟨fault, reached, refused⟩
  rw [List.append_nil] at refused
  have refused' : loadRecords ⟨payload, base⟩ = .error fault reached := refused
  rw [loadSections_eq]
  exact ⟨fault, reached, Exceptions.bind_of_error refused'⟩

/-! ## Loading a saved file -/

theorem encodedSize_small {s : Snapshot}
    (fileSize : kFixedHead + s.encodedSize + kTrailerFixed ≤ kMaxFileBytes) :
    s.encodedSize < 2 ^ 32 := by
  have file30 : kMaxFileBytes = 2 ^ 30 := rfl
  omega

theorem load_saved {s : Snapshot} (counted : s.DevicesCounted) {file : List UInt8}
    (saved : serialize s = .ok file) (storable : s.Storable) (base : LiveState) :
    load (some file) base = .ok true (fenceRecovered (s.restoreSections base)) := by
  rcases payload_of_serialize counted saved with ⟨payload, rfl, read⟩
  have small := encodedSize_small storable.fileSize
  have sections := loadSections_append read storable.sections small [] base
  rw [List.append_nil] at sections
  have opened : openContainer (container payload) = .ok payload := by
    rw [openContainer_container, read.length, if_pos storable.fileSize]
  simp [load, opened, loadPayload_apply, sections]

theorem load_refuses {s : Snapshot} (counted : s.DevicesCounted) {file : List UInt8}
    (saved : serialize s = .ok file) (unfit : ¬ s.Storable) (base : LiveState) :
    ∃ fault out, load (some file) base = .error fault out := by
  rcases payload_of_serialize counted saved with ⟨payload, rfl, read⟩
  by_cases fileSize : kFixedHead + s.encodedSize + kTrailerFixed ≤ kMaxFileBytes
  · have opened : openContainer (container payload) = .ok payload := by
      rw [openContainer_container, read.length, if_pos fileSize]
    rcases loadSections_refuses read (fun sections => unfit ⟨sections, fileSize⟩)
      (encodedSize_small fileSize) base with ⟨fault, reached, refused⟩
    exact ⟨fault, reached.out, by simp [load, opened, loadPayload_apply, refused]⟩
  · have opened : openContainer (container payload) =
        .error (.error .corruptState "state file exceeds bound") := by
      rw [openContainer_container, read.length, if_neg fileSize]
    exact ⟨_, base, by rw [load, opened]⟩

end DPUFabric.Persistence

namespace DPUFabric

open Std
open Persistence

/-! ## The entries rebuild the tables -/

section Entries

variable (out : LiveState)

theorem foldl_addDevice (devices : List DeviceRecord) :
    devices.foldl (fun out d => out.addDevice d.rekeyed) out =
      { out with
        devices := devices.foldl (fun table d => table.insert d.deviceId d.rekeyed) out.devices
        deviceOrder := out.deviceOrder ++ devices.map (·.deviceId)
        ledgers := devices.foldl
          (fun table d => table.insertIfNew d.deviceId ⟨d.resourceCapacity, {}⟩) out.ledgers } := by
  have laid := out.layDevices_eq (devices.map DeviceRecord.rekeyed)
  rwa [LiveState.layDevices, List.foldl_map, List.foldl_map, List.foldl_map, List.map_map] at laid

theorem foldl_addService (entries : List (ServiceId × ServiceDefinition)) :
    entries.foldl (fun out entry => out.addService entry.2) out =
      { out with
        services :=
          entries.foldl (fun table entry => table.insert entry.2.serviceId entry.2)
            out.services } := by
  have laid := out.layServices_eq (entries.map Prod.snd)
  rwa [LiveState.layServices, List.foldl_map, List.foldl_map] at laid

theorem foldl_addDeployment (entries : List (DeploymentId × Deployment)) :
    entries.foldl (fun out entry => out.addDeployment entry.2) out =
      { out with
        deployments :=
          entries.foldl (fun table entry => table.insert entry.2.deploymentId entry.2)
            out.deployments } := by
  have laid := out.layDeployments_eq (entries.map Prod.snd)
  rwa [LiveState.layDeployments, List.foldl_map, List.foldl_map] at laid

/-- The generations of one program, written one after the other. -/
theorem foldl_addGeneration (pid : ProgramId) (mark : ProgramGeneration → Bool)
    (gens : List (ProgramGeneration × ProgramArtifact)) (nonempty : gens ≠ []) :
    gens.foldl (fun out gen => out.addGeneration pid gen.1 gen.2 (mark gen.1)) out =
      { out with
        programs := out.programs.insert pid
          (gens.foldl (fun table gen => table.insert gen.1 gen.2) (out.programs.getD pid ∅))
        currentProgramGen := gens.foldl
          (fun table gen => if mark gen.1 then table.insert pid gen.1 else table)
          out.currentProgramGen } := by
  induction gens generalizing out with
  | nil => exact (nonempty rfl).elim
  | cons gen rest ih =>
      rw [List.foldl_cons, List.foldl_cons, List.foldl_cons, LiveState.addGeneration_eq]
      cases rest with
      | nil => rfl
      | cons next rest =>
          rw [ih _ (List.cons_ne_nil next rest)]
          have twice : ∀ first second : ExtTreeMap ProgramGeneration ProgramArtifact,
              (out.programs.insert pid first).insert pid second =
                out.programs.insert pid second := by
            intro first second
            apply ExtTreeMap.ext_getElem?
            intro probe
            simp only [OrderedMap.lookup_insert]
            split_ifs <;> rfl
          simp [twice]

/-- The programs, one after the other. -/
theorem foldl_addProgram (s : Snapshot)
    (entries : List (ProgramId × ExtTreeMap ProgramGeneration ProgramArtifact))
    (nonempty : ∀ entry ∈ entries, entry.2.toList ≠ []) :
    entries.foldl
        (fun out entry =>
          entry.2.toList.foldl
            (fun out gen =>
              out.addGeneration entry.1 gen.1 gen.2 (isCurrentGen s entry.1 gen.1))
            out)
        out =
      { out with
        programs := entries.foldl
          (fun table entry => table.insert entry.1
            (entry.2.toList.foldl (fun table gen => table.insert gen.1 gen.2)
              (table.getD entry.1 ∅)))
          out.programs
        currentProgramGen := entries.foldl
          (fun table entry => entry.2.toList.foldl
            (fun table gen =>
              if isCurrentGen s entry.1 gen.1 then table.insert entry.1 gen.1 else table)
            table)
          out.currentProgramGen } := by
  induction entries generalizing out with
  | nil => rfl
  | cons entry rest ih =>
      rw [List.foldl_cons, ih _ fun other member => nonempty other (List.mem_cons_of_mem _ member),
        foldl_addGeneration out entry.1 (isCurrentGen s entry.1) entry.2.toList
          (nonempty entry List.mem_cons_self)]
      rfl

end Entries

namespace Snapshot

open OrderedMap

variable {s : Snapshot}

theorem Consistent.mem_orderedDevices (consistent : s.Consistent) {d : DeviceRecord} :
    d ∈ s.orderedDevices ↔ s.devices[d.deviceId]? = some d := by
  rw [orderedDevices, List.mem_filterMap]
  constructor
  · rintro ⟨id, -, present⟩
    rwa [consistent.devices id d present]
  · intro present
    exact ⟨d.deviceId, (consistent.listed d.deviceId).mpr ⟨d, present⟩, present⟩

theorem Consistent.order_eq (consistent : s.Consistent) :
    s.orderedDevices.map (·.deviceId) = s.deviceOrder := by
  have found : ∀ id ∈ s.deviceOrder, ∃ d, s.devices[id]? = some d :=
    fun id member => (consistent.listed id).mp member
  unfold orderedDevices
  generalize s.deviceOrder = order at found
  induction order with
  | nil => rfl
  | cons id rest ih =>
      rcases found id List.mem_cons_self with ⟨d, present⟩
      rw [List.filterMap_cons_some present, List.map_cons, consistent.devices id d present,
        ih fun other member => found other (List.mem_cons_of_mem _ member)]

/-- Any table computed from the device records is filled by the records in order. -/
theorem Consistent.fill_devices {α : Type} (consistent : s.Consistent)
    (made : DeviceRecord → α) :
    s.orderedDevices.foldl (fun table d => table.insert d.deviceId (made d)) ∅ =
      s.devices.map fun _ d => made d := by
  refine foldl_insert_fills DeviceRecord.deviceId made ?_ ?_ (.empty _)
  · intro d member
    rw [ExtTreeMap.getElem?_map, consistent.mem_orderedDevices.mp member]
    rfl
  · intro id value present
    rw [ExtTreeMap.getElem?_map, Option.map_eq_some_iff] at present
    rcases present with ⟨d, present, -⟩
    have named := consistent.devices id d present
    exact ⟨d, consistent.mem_orderedDevices.mpr (by rwa [named]), named⟩

theorem Consistent.fill_ledgers (consistent : s.Consistent) :
    s.orderedDevices.foldl
        (fun table d => table.insertIfNew d.deviceId (⟨d.resourceCapacity, {}⟩ : ResourceLedger))
        ∅ =
      s.devices.map fun _ d => ⟨d.resourceCapacity, {}⟩ := by
  have listed : ∀ d ∈ s.orderedDevices,
      (s.devices.map fun _ d => (⟨d.resourceCapacity, {}⟩ : ResourceLedger))[d.deviceId]? =
        some ⟨d.resourceCapacity, {}⟩ := by
    intro d member
    rw [ExtTreeMap.getElem?_map, consistent.mem_orderedDevices.mp member]
    rfl
  refine foldl_fills ?_ ?_ (.empty _)
  · intro table below d member
    rw [below.insertIfNew_eq (listed d member)]
    exact ⟨below.insert_above (listed d member), below.insert (listed d member)⟩
  · intro id value present
    rw [ExtTreeMap.getElem?_map, Option.map_eq_some_iff] at present
    rcases present with ⟨d, present, rfl⟩
    have named := consistent.devices id d present
    have member := consistent.mem_orderedDevices.mpr (show s.devices[d.deviceId]? = some d by
      rwa [named])
    refine ⟨d, member, fun table below => ?_⟩
    rw [below.insertIfNew_eq (listed d member), lookup_insert, if_pos named]

theorem Consistent.fill_services (consistent : s.Consistent) :
    s.services.toList.foldl (fun table entry => table.insert entry.2.serviceId entry.2) ∅ =
      s.services := by
  refine foldl_insert_fills
    (fun entry : ServiceId × ServiceDefinition => entry.2.serviceId) Prod.snd ?_ ?_ (.empty _)
  · rintro ⟨id, svc⟩ member
    have present := ExtTreeMap.mem_toList_iff_getElem?_eq_some.mp member
    rwa [consistent.services id svc present]
  · intro id svc present
    exact ⟨(id, svc), ExtTreeMap.mem_toList_iff_getElem?_eq_some.mpr present,
      consistent.services id svc present⟩

theorem Consistent.fill_deployments (consistent : s.Consistent) :
    s.deployments.toList.foldl (fun table entry => table.insert entry.2.deploymentId entry.2) ∅ =
      s.deployments := by
  refine foldl_insert_fills
    (fun entry : DeploymentId × Deployment => entry.2.deploymentId) Prod.snd ?_ ?_ (.empty _)
  · rintro ⟨id, dep⟩ member
    have present := ExtTreeMap.mem_toList_iff_getElem?_eq_some.mp member
    rwa [consistent.deployments id dep present]
  · intro id dep present
    exact ⟨(id, dep), ExtTreeMap.mem_toList_iff_getElem?_eq_some.mpr present,
      consistent.deployments id dep present⟩

theorem fill_programs (s : Snapshot) :
    s.programs.toList.foldl
        (fun table entry => table.insert entry.1
          (entry.2.toList.foldl (fun table gen => table.insert gen.1 gen.2)
            (table.getD entry.1 ∅)))
        ∅ =
      s.programs := by
  -- Below the table, what is there of a program is nothing or all of it.
  have whole : ∀ table, Below table s.programs → ∀ entry ∈ s.programs.toList,
      entry.2.toList.foldl (fun table gen => table.insert gen.1 gen.2)
        (table.getD entry.1 ∅) = entry.2 := by
    rintro table below ⟨pid, gens⟩ member
    have present := ExtTreeMap.mem_toList_iff_getElem?_eq_some.mp member
    apply foldl_toList_fills
    rw [ExtTreeMap.getD_eq_getD_getElem?]
    cases old : table[pid]? with
    | none => exact .empty _
    | some found =>
        have same := below pid found old
        rw [present] at same
        cases same
        exact .refl _
  refine foldl_fills ?_ ?_ (.empty _)
  · intro table below entry member
    rw [whole table below entry member]
    have present := ExtTreeMap.mem_toList_iff_getElem?_eq_some.mp member
    exact ⟨below.insert_above present, below.insert present⟩
  · intro pid gens present
    have member := ExtTreeMap.mem_toList_iff_getElem?_eq_some.mpr present
    refine ⟨(pid, gens), member, fun table below => ?_⟩
    rw [whole table below _ member, lookup_insert, if_pos rfl]

theorem isCurrentGen_eq_true_iff (s : Snapshot) (pid : ProgramId) (g : ProgramGeneration) :
    isCurrentGen s pid g = true ↔ s.currentProgramGen[pid]? = some g := by
  unfold isCurrentGen
  cases s.currentProgramGen[pid]? <;> simp

theorem Consistent.fill_current (consistent : s.Consistent) :
    s.programs.toList.foldl
        (fun table entry => entry.2.toList.foldl
          (fun table gen =>
            if isCurrentGen s entry.1 gen.1 then table.insert entry.1 gen.1 else table)
          table)
        ∅ =
      s.currentProgramGen := by
  have keeps : ∀ (pid : ProgramId) table, Below table s.currentProgramGen →
      ∀ gen : ProgramGeneration × ProgramArtifact,
        Below table (if isCurrentGen s pid gen.1 then table.insert pid gen.1 else table) ∧
          Below (if isCurrentGen s pid gen.1 then table.insert pid gen.1 else table)
            s.currentProgramGen := by
    intro pid table below gen
    split_ifs with mark
    · have present := (isCurrentGen_eq_true_iff s pid gen.1).mp mark
      exact ⟨below.insert_above present, below.insert present⟩
    · exact ⟨.refl _, below⟩
  refine foldl_fills ?_ ?_ (.empty _)
  · intro table below entry _
    exact foldl_below (fun table below gen _ => keeps entry.1 table below gen) below
  · intro pid g present
    rcases consistent.current pid g present with ⟨gens, stored, art, found⟩
    refine ⟨(pid, gens), ExtTreeMap.mem_toList_iff_getElem?_eq_some.mpr stored,
      fun table below => ?_⟩
    refine foldl_adds (fun table below gen _ => keeps pid table below gen)
      (ExtTreeMap.mem_toList_iff_getElem?_eq_some.mpr found) (fun table below => ?_) below
    rw [if_pos ((isCurrentGen_eq_true_iff s pid g).mpr present), lookup_insert, if_pos rfl]

/-- What a load of the snapshot's file leaves of a live state that had only a policy. -/
def restored (s : Snapshot) (base : Policy) : LiveState :=
  { epoch := ⟨max s.epoch.value 1⟩
    policy := s.restoredPolicy base
    devices := s.devices.map fun _ d => fenceRecoveredDevice d.rekeyed
    services := s.services
    programs := s.programs
    currentProgramGen := s.currentProgramGen
    deployments := s.deployments.map fun _ dep => fenceRecoveredDeployment dep
    ledgers := s.devices.map fun _ d => ⟨d.resourceCapacity, {}⟩
    usage := s.deviceUsage
    deviceOrder := s.deviceOrder }

/-- The sections rebuild the tables, unfenced. -/
theorem Consistent.restoreSections_eq (consistent : s.Consistent) (epoch : CoordinatorEpoch)
    (base : Policy) :
    s.restoreSections { epoch := epoch, policy := base } =
      { s.restored base with
        devices := s.devices.map fun _ d => d.rekeyed
        deployments := s.deployments } := by
  have nonempty : ∀ entry ∈ s.programs.toList, entry.2.toList ≠ [] := by
    rintro ⟨pid, gens⟩ member
    have present := ExtTreeMap.mem_toList_iff_getElem?_eq_some.mp member
    rcases consistent.generations pid gens present with ⟨g, art, found⟩
    exact List.ne_nil_of_mem (ExtTreeMap.mem_toList_iff_getElem?_eq_some.mpr found)
  simp only [restoreSections, restorePolicy, restoreDevices, restoreServices, restorePrograms,
    restoreDeployments, restoreUsage]
  rw [foldl_addDevice, foldl_addService, foldl_addProgram _ _ _ nonempty, foldl_addDeployment]
  rw [← LiveState.layUsage, LiveState.layUsage_eq]
  simp only [consistent.fill_devices, consistent.fill_ledgers, consistent.fill_services,
    fill_programs, consistent.fill_current, consistent.fill_deployments,
    foldl_toList_fills (.empty s.deviceUsage), consistent.order_eq, List.nil_append]
  rfl

end Snapshot

/-- A load into a fresh live state ends in `restored`. -/
theorem Persistence.load_fresh {s : Snapshot} (consistent : s.Consistent) {file : List UInt8}
    (saved : serialize s = .ok file) (storable : s.Storable) (epoch : CoordinatorEpoch)
    (base : Policy) :
    load (some file) { epoch := epoch, policy := base } = .ok true (s.restored base) := by
  have devices : (s.devices.map fun _ d => d.rekeyed).map (fun _ d => fenceRecoveredDevice d) =
      s.devices.map fun _ d => fenceRecoveredDevice d.rekeyed := by
    apply ExtTreeMap.ext_getElem?
    intro id
    simp only [ExtTreeMap.getElem?_map, Option.map_map]
    rfl
  rw [load_saved consistent.devicesCounted saved storable, consistent.restoreSections_eq, fenceRecovered]
  simp only [devices]
  rfl

/-! ## The round trip -/

/-- Capabilities that are filed under their own keys are filed there again. -/
theorem DeviceRecord.Keyed.rekeyed_eq {d : DeviceRecord} (keyed : d.Keyed) : d.rekeyed = d := by
  have same : d.capabilities.records.foldl CapabilitySet.add ∅ = d.capabilities := by
    refine OrderedMap.foldl_insert_fills Capability.key id ?_ ?_ (.empty _)
    · intro c member
      rcases List.mem_map.mp member with ⟨⟨key, found⟩, listed, rfl⟩
      rw [keyed (key, found) listed]
      exact ExtTreeMap.mem_toList_iff_getElem?_eq_some.mp listed
    · intro key c present
      have listed := ExtTreeMap.mem_toList_iff_getElem?_eq_some.mpr present
      exact ⟨c, List.mem_map.mpr ⟨(key, c), listed, rfl⟩, keyed (key, c) listed⟩
  rw [rekeyed, same]

/-- Nothing of a recovered device counts as proven. -/
theorem fenceRecoveredDevice_eq (d : DeviceRecord) :
    fenceRecoveredDevice d =
      { d with
        evidenceFresh := false
        lifecycle :=
          if d.lifecycle = .declared .retired ∨ d.lifecycle = .declared .failed ∨
              d.lifecycle = .declared .offline then d.lifecycle
          else .declared .revalidationRequired } := by
  unfold fenceRecoveredDevice
  simp only
  split_ifs with settled other other
  · rcases other with retired | failed | offline
    · exact (settled.1 retired).elim
    · exact (settled.2.1 failed).elim
    · exact (settled.2.2 offline).elim
  · rfl
  · rfl
  · refine (settled ⟨?_, ?_, ?_⟩).elim
    · exact fun retired => other (Or.inl retired)
    · exact fun failed => other (Or.inr (Or.inl failed))
    · exact fun offline => other (Or.inr (Or.inr offline))

/-- Nothing of a recovered deployment is live. -/
theorem fenceRecoveredDeployment_eq (dep : Deployment) :
    fenceRecoveredDeployment dep =
      { dep with
        state :=
          if dep.state = .active ∨ dep.state = .degraded ∨ dep.state = .draining then
            .revalidationRequired
          else dep.state
        authoritative := false
        activation := none } := by
  unfold fenceRecoveredDeployment
  split_ifs <;> rfl

/--
A snapshot whose strings are short, that keeps the reader's bounds and whose
tables fit together is written, and a fresh live state gets back exactly its
records, except for the conservative fencing.
-/
theorem load_serialize_roundTrip (s : Snapshot) (consistent : s.Consistent)
    (keyed : ∀ d ∈ s.orderedDevices, d.Keyed) (writable : s.Writable) (storable : s.Storable)
    (epoch : CoordinatorEpoch) (base : Policy) :
    ∃ (file : List UInt8) (out : LiveState), serialize s = .ok file ∧
      load (some file) { epoch := epoch, policy := base } = .ok true out ∧
      out.devices = s.devices.map (fun _ d =>
        { d with
          evidenceFresh := false
          lifecycle :=
            if d.lifecycle = .declared .retired ∨ d.lifecycle = .declared .failed ∨
                d.lifecycle = .declared .offline then d.lifecycle
            else .declared .revalidationRequired }) ∧
      out.deviceOrder = s.deviceOrder ∧
      out.services = s.services ∧
      out.programs = s.programs ∧
      out.currentProgramGen = s.currentProgramGen ∧
      out.deployments = s.deployments.map (fun _ dep =>
        { dep with
          state :=
            if dep.state = .active ∨ dep.state = .degraded ∨ dep.state = .draining then
              .revalidationRequired
            else dep.state
          authoritative := false
          activation := none }) ∧
      out.activations = ∅ := by
  rcases (serialize_ok_iff consistent.devicesCounted).mpr writable with ⟨file, saved⟩
  refine ⟨file, s.restored base, saved, load_fresh consistent saved storable epoch base,
    ?_, rfl, rfl, rfl, rfl, ?_, rfl⟩
  · apply ExtTreeMap.ext_getElem?
    intro id
    simp only [Snapshot.restored, ExtTreeMap.getElem?_map]
    cases present : s.devices[id]? with
    | none => rfl
    | some d =>
        have named := consistent.devices id d present
        have listed : d ∈ s.orderedDevices :=
          consistent.mem_orderedDevices.mpr (by rwa [named])
        rw [Option.map_some, Option.map_some, (keyed d listed).rekeyed_eq,
          fenceRecoveredDevice_eq]
  · simp only [Snapshot.restored, fenceRecoveredDeployment_eq]

/-- A run that leaves a device, a service, two program generations and a deployment. -/
def sampleRegistryRun : List Op :=
  Engine.sampleRun ++ [.registerService { serviceId := ⟨5⟩, serviceGen := ⟨1⟩ },
    .registerProgram { programId := ⟨6⟩, programGen := ⟨1⟩ },
    .registerProgram { programId := ⟨6⟩, programGen := ⟨2⟩ }]

theorem load_serialize_roundTrip_sample :
    ∃ (file : List UInt8) (out : LiveState),
      serialize (makeSnapshot (Engine.run Engine.sampleEngine sampleRegistryRun).state) =
        .ok file ∧
      load (some file) {} = .ok true out ∧
      (out.deployments[(⟨1⟩ : DeploymentId)]?.map fun dep => (dep.state, dep.activation)) =
        some (.revalidationRequired, none) := by
  rcases load_serialize_roundTrip
    (makeSnapshot (Engine.run Engine.sampleEngine sampleRegistryRun).state)
    (Engine.consistent_run _ _ (by decide)) (by decide) (by decide) (by decide) .null {} with
    ⟨file, out, saved, loaded, -, -, -, -, -, deployments, -⟩
  refine ⟨file, out, saved, loaded, ?_⟩
  rw [deployments]
  decide

end DPUFabric
