import DPUFabric.AdmittedResources
import DPUFabric.Publication
import DPUFabric.RegistrationOrder

/-!
# Published usage

A device gets a ledger when it is registered, with the capacity of its record at that
time, and the published usage is a copy that every change of the ledger refreshes.
Whatever is admitted is within that capacity, though the sums wrap: it is the wrapped
sum that is compared, and stored.
-/

namespace DPUFabric

open Std

/-! ## Bounds -/

namespace ResourceLedger

/-- No bounded amount in use is above its bound. -/
def Within (ledger : ResourceLedger) : Prop :=
  ∀ dim, ledger.cap.amount dim ≠ 0 → ledger.used.amount dim ≤ ledger.cap.amount dim

theorem within_opened (cap : ResourceProfile) : Within ⟨cap, {}⟩ := by
  intro dim _
  rw [UInt64.le_iff_toNat_le]
  cases dim <;> exact Nat.zero_le _

theorem within_apply {ledger : ResourceLedger} {r : ResourceRequest}
    (admitted : ledger.canReserve r = true) : (ledger.apply r).Within := by
  intro dim bounded
  have fits := ((ledger.canReserve_eq_true_iff r).mp admitted dim).resolve_left bounded
  rw [UInt64.le_iff_toNat_le, apply_amount, ← UInt64.toNat_add, ← UInt64.le_iff_toNat_le]
  exact fits

theorem Within.release {ledger : ResourceLedger} (within : ledger.Within)
    (r : ResourceRequest) : (ledger.release r).Within := by
  intro dim bounded
  rw [release_cap] at bounded ⊢
  have lowered := ledger.release_amount_le r dim
  have below := within dim bounded
  rw [UInt64.le_iff_toNat_le] at below ⊢
  exact lowered.trans below

theorem Evolves.within {ledger ledger' : ResourceLedger} (evolves : ledger.Evolves ledger')
    (within : ledger.Within) : ledger'.Within := by
  induction evolves with
  | refl => exact within
  | apply _ admitted _ => exact within_apply admitted
  | release _ r ih => exact ih.release r

end ResourceLedger

/-! ## Ledgers of registered devices -/

/-- Every registered device has a ledger within its bounds, and the usage copies it. -/
structure Mirrored (s : LiveState) : Prop where
  ledgered : ∀ device : DeviceId, s.ledgers[device]?.isSome = s.devices[device]?.isSome
  usage : ∀ did : DeviceId, s.usage[did]? = s.ledgers[did]?.map (·.used)
  within : ∀ (did : DeviceId) (ledger : ResourceLedger), s.ledgers[did]? = some ledger →
    ledger.Within

theorem Mirrored.fresh (epoch : CoordinatorEpoch) (policy : Policy) :
    Mirrored (Engine.fresh epoch policy).state := by
  constructor
  · intro device
    simp [Engine.fresh]
  · intro did
    simp [Engine.fresh]
  · intro did ledger present
    simp [Engine.fresh] at present

theorem Mirrored.accepted {s s' : LiveState} {seq seq' : Nat} {op : Op} (mirrored : Mirrored s)
    (accepted : Accepted s seq op s' seq') : Mirrored s' where
  ledgered device := accepted.ledgered device (mirrored.ledgered device)
  usage did := by
    cases accepted.account mirrored.ledgered did with
    | opened _ _ after usage => rw [after, usage]; rfl
    | kept rewritten =>
        cases rewritten with
        | untouched ledgers usage => rw [ledgers, usage]; exact mirrored.usage did
        | published _ _ after usage => rw [after, usage]; rfl
  within did ledger' present := by
    cases accepted.account mirrored.ledgered did with
    | opened _ _ after _ =>
        cases after.symm.trans present
        exact ResourceLedger.within_opened _
    | kept rewritten =>
        cases rewritten with
        | untouched ledgers _ => exact mirrored.within did ledger' (ledgers.symm.trans present)
        | published before evolves after _ =>
            cases after.symm.trans present
            exact evolves.within (mirrored.within did _ before)

/-- The ledger of the device has the given capacity. -/
structure Capped (did : DeviceId) (cap : ResourceProfile) (s : LiveState) : Prop where
  mirrored : Mirrored s
  ledger : ∃ ledger, s.ledgers[did]? = some ledger ∧ ledger.cap = cap

theorem Capped.accepted {did : DeviceId} {cap : ResourceProfile} {s s' : LiveState}
    {seq seq' : Nat} {op : Op} (capped : Capped did cap s)
    (accepted : Accepted s seq op s' seq') : Capped did cap s' where
  mirrored := capped.mirrored.accepted accepted
  ledger := by
    obtain ⟨ledger, present, same⟩ := capped.ledger
    obtain ⟨ledger', present', kept⟩ := accepted.ledger_cap capped.mirrored.ledgered present
    exact ⟨ledger', present', kept.trans same⟩

namespace Engine

/-- What accepted calls keep, runs without a recovery keep. -/
theorem run_keeps_ordinary {holds : LiveState → Prop}
    (keeps : ∀ {s s' : LiveState} {seq seq' : Nat} {op : Op}, Accepted s seq op s' seq' →
      holds s → holds s') {e : Engine} (start : holds e.state) {ops : List Op}
    (ordinary : ∀ op ∈ ops, recovers op = false) : holds (e.run ops).state :=
  TransitionRun.run_invariant (P := fun _ op => recovers op = false)
    (fun e : Engine => holds e.state)
    (fun e _ ordinary => step_keeps (fun s _ => holds s) (fun _ => id) keeps e ordinary) start
    (TransitionRun.every_of_forall_mem _ ordinary)

theorem importRun_keeps {holds : LiveState → Prop}
    (keeps : ∀ {s s' : LiveState} {seq seq' : Nat} {op : Op}, Accepted s seq op s' seq' →
      holds s → holds s') {e : Engine} (start : holds e.state) (records : List DeviceRecord) :
    holds (TransitionRun.run importStep e records).state :=
  TransitionRun.run_invariant_of_step (fun e : Engine => holds e.state)
    (fun e rec => step_keeps (fun s _ => holds s) (fun _ => id) keeps e
      (by unfold importCall; split <;> rfl)) start records

/-! ## Registrations -/

/-- The run registers the device with this record, by a call of its own or in the backend loop. -/
inductive RegisteredAs (start : Engine) (rec : DeviceRecord) : List Op → Prop
  | called {before after : List Op} (accepted : (start.run before).takesIn rec = true) :
      RegisteredAs start rec (before ++ .registerDevice rec :: after)
  | discovered {before after : List Op} {discovered : List (List DeviceRecord)}
      {earlier later : List DeviceRecord} (found : discovered.flatten = earlier ++ rec :: later)
      (accepted :
        (TransitionRun.run importStep (start.run before) earlier).takesIn rec = true) :
      RegisteredAs start rec (before ++ .runAllBackends discovered :: after)

theorem RegisteredAs.append {start : Engine} {rec : DeviceRecord} {ops : List Op}
    (registered : RegisteredAs start rec ops) (more : List Op) :
    RegisteredAs start rec (ops ++ more) := by
  cases registered with
  | called accepted =>
      rw [List.append_assoc, List.cons_append]
      exact .called accepted
  | discovered found accepted =>
      rw [List.append_assoc, List.cons_append]
      exact .discovered found accepted

theorem takesIn_eq_true_iff (e : Engine) (rec : DeviceRecord) :
    e.takesIn rec = true ↔ rec.deviceId ≠ .null ∧ e.state.devices[rec.deviceId]? = none := by
  rw [takesIn, Bool.and_eq_true, Bool.not_eq_true', Bool.not_eq_true', Id.isNull_eq_false_iff,
    OrderedMap.contains_eq_false_iff]

/-- A registration opens a ledger with the capacity of the record. -/
theorem capped_registerDevice {e : Engine} {rec : DeviceRecord} (mirrored : Mirrored e.state)
    (accepted : e.takesIn rec = true) :
    Capped rec.deviceId rec.resourceCapacity (e.step (.registerDevice rec)).state := by
  obtain ⟨named, absent⟩ := (takesIn_eq_true_iff e rec).mp accepted
  have registers : Accepted e.state e.idSeq (.registerDevice rec) (e.state.registerDevice rec)
      e.idSeq := .registerDevice named absent
  rw [step_registerDevice, if_pos accepted]
  refine ⟨mirrored.accepted registers, ⟨rec.resourceCapacity, {}⟩, ?_, rfl⟩
  have unaccounted := unaccounted_of_absent mirrored.ledgered absent
  rw [LiveState.registerDevice, OrderedMap.insertIfNew_of_absent unaccounted,
    OrderedMap.lookup_insert, if_pos rfl]

theorem importStep_of_takesIn {e : Engine} {rec : DeviceRecord} (accepted : e.takesIn rec = true) :
    importStep e rec = e.step (.registerDevice rec) := by
  have absent := ((takesIn_eq_true_iff e rec).mp accepted).2
  have unknown := (OrderedMap.contains_eq_false_iff _ _).mpr absent
  rw [importStep, importCall, unknown, if_neg Bool.false_ne_true]

/-- However a device was registered, its ledger keeps the capacity of the record. -/
theorem RegisteredAs.capped {start : Engine} {rec : DeviceRecord} {ops : List Op}
    (registered : RegisteredAs start rec ops) (mirrored : Mirrored start.state)
    (ordinary : ∀ op ∈ ops, recovers op = false) :
    Capped rec.deviceId rec.resourceCapacity (start.run ops).state := by
  have capped_run : ∀ {e : Engine} {ops : List Op},
      Capped rec.deviceId rec.resourceCapacity e.state → (∀ op ∈ ops, recovers op = false) →
      Capped rec.deviceId rec.resourceCapacity (e.run ops).state :=
    fun capped => run_keeps_ordinary (fun accepted capped => capped.accepted accepted) capped
  have mirrored_run : ∀ {before : List Op}, (∀ op ∈ before, recovers op = false) →
      Mirrored (start.run before).state :=
    run_keeps_ordinary (fun accepted mirrored => mirrored.accepted accepted) mirrored
  cases registered with
  | @called before after accepted =>
      have reached : Mirrored (start.run before).state :=
        mirrored_run fun op listed => ordinary op (List.mem_append_left _ listed)
      rw [run_append]
      exact capped_run (e := (start.run before).step (.registerDevice rec))
        (capped_registerDevice reached accepted)
        fun op listed => ordinary op (List.mem_append_right _ (List.mem_cons_of_mem _ listed))
  | @discovered before after discovered earlier later found accepted =>
      have reached : Mirrored (TransitionRun.run importStep (start.run before) earlier).state :=
        importRun_keeps (fun accepted mirrored => mirrored.accepted accepted)
          (mirrored_run fun op listed => ordinary op (List.mem_append_left _ listed)) earlier
      have registers := capped_registerDevice reached accepted
      rw [← importStep_of_takesIn accepted] at registers
      have capped : Capped rec.deviceId rec.resourceCapacity
          ((start.run before).step (.runAllBackends discovered)).state := by
        rw [step_runAllBackends, found, TransitionRun.run_append]
        exact importRun_keeps (fun accepted capped => capped.accepted accepted) registers later
      rw [run_append]
      exact capped_run (e := (start.run before).step (.runAllBackends discovered)) capped
        fun op listed => ordinary op (List.mem_append_right _ (List.mem_cons_of_mem _ listed))

/-- Only an accepted registration brings a device in. -/
theorem registers_of_enters {e : Engine} {op : Op} (plain : op.isPlain = true) {did : DeviceId}
    (absent : e.state.devices[did]? = none)
    (present : ((e.step op).state.devices[did]?).isSome = true) :
    ∃ rec, op = .registerDevice rec ∧ rec.deviceId = did ∧ e.takesIn rec = true := by
  rcases step_cases e plain with ⟨s, seq, accepted, result⟩ | ⟨-, quiet⟩
  · rw [result] at present
    rcases accepted.device_of_absent absent with gone | ⟨rec, rfl, here, -⟩
    · rw [gone] at present
      cases present
    · refine ⟨rec, rfl, here, (takesIn_eq_true_iff e rec).mpr ⟨?_, here ▸ absent⟩⟩
      exact accepted.of_registerDevice.1
  · rw [quiet.state, absent] at present
    cases present

/-- A device that comes in through the backend loop is registered by one of its calls. -/
theorem discovered_of_enters {e : Engine} {discovered : List (List DeviceRecord)}
    {did : DeviceId} (absent : e.state.devices[did]? = none)
    (present : ((e.step (.runAllBackends discovered)).state.devices[did]?).isSome = true) :
    ∃ earlier rec later, discovered.flatten = earlier ++ rec :: later ∧ rec.deviceId = did ∧
      (TransitionRun.run importStep e earlier).takesIn rec = true := by
  rw [step_runAllBackends] at present
  obtain ⟨earlier, rec, later, found, outside, inside⟩ :=
    TransitionRun.last_entry (fun e : Engine => (e.state.devices[did]?).isSome = true)
      (by simp [absent]) present
  have enters := inside [] (List.nil_prefix)
  rw [Bool.not_eq_true, Option.isSome_eq_false_iff, Option.isNone_iff_eq_none] at outside
  obtain ⟨rec', called, here, accepted⟩ :=
    registers_of_enters (importCall_isPlain _ rec) outside enters
  have same : rec' = rec := by
    unfold importCall at called
    split at called <;> cases called
    rfl
  subst same
  exact ⟨earlier, rec', later, found, here, accepted⟩

theorem registeredAs_of_present {start : Engine} {did : DeviceId}
    (absent : start.state.devices[did]? = none) {ops : List Op}
    (ordinary : ∀ op ∈ ops, recovers op = false)
    (present : ((start.run ops).state.devices[did]?).isSome = true) :
    ∃ rec, rec.deviceId = did ∧ RegisteredAs start rec ops := by
  induction ops using List.reverseRecOn with
  | nil =>
      rw [show start.run [] = start from rfl, absent] at present
      cases present
  | append_singleton front last ih =>
      rw [List.forall_mem_append] at ordinary
      cases before : (start.run front).state.devices[did]? with
      | some dev =>
          obtain ⟨rec, here, registered⟩ := ih ordinary.1 (by rw [before]; rfl)
          exact ⟨rec, here, registered.append [last]⟩
      | none =>
          rw [run_append] at present
          cases plain : last.isPlain with
          | true =>
              obtain ⟨rec, rfl, here, accepted⟩ := registers_of_enters plain before present
              exact ⟨rec, here, .called accepted⟩
          | false =>
              cases last <;> try cases plain
              · rename_i discovered
                obtain ⟨earlier, rec, later, found, here, accepted⟩ :=
                  discovered_of_enters before present
                exact ⟨rec, here, .discovered found accepted⟩
              · have impossible := ordinary.2 _ (List.mem_singleton_self _)
                cases impossible

/-! ## Runs -/

/--
In every state that is reached without a recovery, the published usage of a
registered device is what its ledger has in use, and within the capacity that the
device was registered with.
-/
theorem usage_published (epoch : CoordinatorEpoch) (policy : Policy) (ops : List Op)
    (ordinary : ∀ op ∈ ops, recovers op = false) (did : DeviceId) (dev : DeviceRecord)
    (registered : ((fresh epoch policy).run ops).state.devices[did]? = some dev) :
    ∃ ledger, ((fresh epoch policy).run ops).state.ledgers[did]? = some ledger ∧
      ((fresh epoch policy).run ops).snap.deviceUsage[did]? = some ledger.used ∧
      (∃ rec, rec.deviceId = did ∧ RegisteredAs (fresh epoch policy) rec ops) ∧
      ∀ rec, rec.deviceId = did → RegisteredAs (fresh epoch policy) rec ops →
        ∀ dim, rec.resourceCapacity.amount dim ≠ 0 →
          ledger.used.amount dim ≤ rec.resourceCapacity.amount dim := by
  have mirrored : Mirrored ((fresh epoch policy).run ops).state :=
    run_keeps_ordinary (fun accepted mirrored => mirrored.accepted accepted)
      (Mirrored.fresh epoch policy) ordinary
  have published : ((fresh epoch policy).run ops).snap =
      makeSnapshot ((fresh epoch policy).run ops).state :=
    TransitionRun.run_invariant (P := fun _ op => recovers op = false) Published
      (fun e _ ordinary => step_snap e ordinary) rfl
      (TransitionRun.every_of_forall_mem _ ordinary)
  have known : ((fresh epoch policy).run ops).state.ledgers[did]?.isSome = true := by
    rw [mirrored.ledgered, registered]
    rfl
  obtain ⟨ledger, accounted⟩ := Option.isSome_iff_exists.mp known
  refine ⟨ledger, accounted, ?_, ?_, ?_⟩
  · rw [published]
    change ((fresh epoch policy).run ops).state.usage[did]? = _
    rw [mirrored.usage, accounted]
    rfl
  · refine registeredAs_of_present (by simp [fresh]) ordinary ?_
    rw [registered]
    rfl
  · rintro rec rfl enrolled dim bounded
    obtain ⟨-, opened, present, cap⟩ :=
      enrolled.capped (Mirrored.fresh epoch policy) ordinary
    cases present.symm.trans accounted
    rw [← cap] at bounded ⊢
    exact mirrored.within rec.deviceId ledger accounted dim bounded

/-- The only slot of a device is reserved. -/
def slottedRun : List Op :=
  [.registerDevice (slottedDevice 1), .reserveDeployment {} (some ⟨1⟩)]

theorem usage_published_slotted :
    ∃ used, (sampleEngine.run slottedRun).snap.deviceUsage[(⟨1⟩ : DeviceId)]? = some used ∧
      used.slots ≤ 1 := by
  have registered : (sampleEngine.run slottedRun).state.devices[(⟨1⟩ : DeviceId)]? =
      some (slottedDevice 1) := rfl
  obtain ⟨ledger, -, published, -, bounded⟩ := usage_published ⟨1⟩ (Policy.defaults ⟨1⟩) slottedRun
    (by decide) ⟨1⟩ _ registered
  have enrolled : RegisteredAs sampleEngine (slottedDevice 1) slottedRun :=
    @RegisteredAs.called _ _ [] _ (by decide +kernel)
  exact ⟨ledger.used, published, bounded _ rfl enrolled .slots (by decide)⟩

end Engine

end DPUFabric
