import DPUFabric.Conservation
import DPUFabric.Reservation

/-!
# Admitted and reserved resources

An evaluation admits a request under the capacity of the device record and the
published usage; a reservation charges the ledger, which has a capacity of its
own.  The two agree as long as the ledger covers the record's capacity and the
usage is the ledger's, and then only the lookup of the named service can still
separate them: the evaluation reads an unknown service as none.
-/

namespace DPUFabric

open Std
open LiveState

/-! ## Ledgers and usage -/

/-- The usage of a device is what its ledger has in use. -/
def Synced (s : LiveState) : Prop :=
  ∀ (did : DeviceId) (ledger : ResourceLedger), s.ledgers[did]? = some ledger →
    s.usage.getD did {} = ledger.used

/-- What reservations and releases make of a ledger. -/
inductive ResourceLedger.Evolves (ledger : ResourceLedger) : ResourceLedger → Prop
  | refl : Evolves ledger ledger
  | apply {reached : ResourceLedger} {r : ResourceRequest} (evolves : Evolves ledger reached)
      (admitted : reached.canReserve r = true) : Evolves ledger (reached.apply r)
  | release {reached : ResourceLedger} (evolves : Evolves ledger reached)
      (r : ResourceRequest) : Evolves ledger (reached.release r)

theorem ResourceLedger.Evolves.trans {ledger middle ledger' : ResourceLedger}
    (first : ledger.Evolves middle) (second : middle.Evolves ledger') :
    ledger.Evolves ledger' := by
  induction second with
  | refl => exact first
  | apply _ admitted ih => exact ih.apply admitted
  | release _ r ih => exact ih.release r

theorem ResourceLedger.Evolves.cap_eq {ledger ledger' : ResourceLedger}
    (evolves : ledger.Evolves ledger') : ledger'.cap = ledger.cap := by
  induction evolves with
  | refl => rfl
  | apply _ _ ih => exact ih
  | release _ r ih => exact (release_cap _ r).trans ih

/-- The account of a device is untouched, or it is rewritten and its usage published. -/
inductive Rewritten (did : DeviceId) (s s' : LiveState) : Prop
  | untouched (ledgers : s'.ledgers[did]? = s.ledgers[did]?)
      (usage : s'.usage[did]? = s.usage[did]?)
  | published {ledger ledger' : ResourceLedger} (before : s.ledgers[did]? = some ledger)
      (evolves : ledger.Evolves ledger') (after : s'.ledgers[did]? = some ledger')
      (usage : s'.usage[did]? = some ledger'.used)

theorem Rewritten.trans {did : DeviceId} {s middle s' : LiveState}
    (first : Rewritten did s middle) (second : Rewritten did middle s') :
    Rewritten did s s' := by
  cases second with
  | untouched ledgers usage =>
      cases first with
      | untouched ledgers' usage' => exact .untouched (ledgers.trans ledgers') (usage.trans usage')
      | published before evolves after published =>
          exact .published before evolves (ledgers.trans after) (usage.trans published)
  | published before evolves after usage =>
      cases first with
      | untouched ledgers _ => exact .published (ledgers.symm.trans before) evolves after usage
      | published before' evolves' after' _ =>
          cases after'.symm.trans before
          exact .published before' (evolves'.trans evolves) after usage

theorem rewritten_releaseResources (s : LiveState) (id : DeploymentId) (did : DeviceId) :
    Rewritten did s (s.releaseResources id) := by
  unfold releaseResources
  split
  · exact .untouched rfl rfl
  · rename_i dep found
    split
    · exact .untouched rfl rfl
    · rename_i ledger known
      by_cases here : dep.device = did
      · subst here
        refine .published known (.release .refl dep.resources) ?_ ?_
        · rw [OrderedMap.lookup_insert, if_pos rfl]
        · rw [OrderedMap.lookup_insert, if_pos rfl, ResourceLedger.current]
      · refine .untouched ?_ ?_
        · rw [OrderedMap.lookup_insert, if_neg here]
        · rw [OrderedMap.lookup_insert, if_neg here]

theorem rewritten_evictDeployments (s : LiveState) (id did : DeviceId) :
    Rewritten did s (s.evictDeployments id) := by
  refine OrderedMap.sweep_invariant (Rewritten did s) (.untouched rfl rfl) ?_
  intro reached depId dep _ kept
  split_ifs with chosen
  · have fenced : Rewritten did s (reached.fenceDeployment depId dep) :=
      kept.trans (.untouched rfl rfl)
    rw [evictDeployment_of_occupies chosen]
    exact fenced.trans (rewritten_releaseResources _ depId did)
  · exact kept

/-- The account of a device across a call. -/
inductive AccountStep (did : DeviceId) (s s' : LiveState) : Prop
  | kept (rewritten : Rewritten did s s')
  | opened {rec : DeviceRecord} (registers : rec.deviceId = did)
      (before : s.ledgers[did]? = none)
      (after : s'.ledgers[did]? = some ⟨rec.resourceCapacity, {}⟩)
      (usage : s'.usage[did]? = some {})

section Accounts

variable {s s' : LiveState} {seq seq' : Nat} {op : Op}

theorem unaccounted_of_absent
    (ledgered : ∀ device : DeviceId, s.ledgers[device]?.isSome = s.devices[device]?.isSome)
    {did : DeviceId} (absent : s.devices[did]? = none) : s.ledgers[did]? = none := by
  have both := ledgered did
  rw [absent] at both
  exact Option.isSome_eq_false_iff.mp both |> Option.isNone_iff_eq_none.mp

theorem Accepted.account (accepted : Accepted s seq op s' seq')
    (ledgered : ∀ device : DeviceId, s.ledgers[device]?.isSome = s.devices[device]?.isSome)
    (did : DeviceId) : AccountStep did s s' := by
  cases charges : op.charges with
  | false =>
      have same := accepted.sameAccounts charges
      exact .kept (.untouched (by rw [same.ledgers]) (by rw [same.usage]))
  | true =>
  cases accepted with
  | registerDevice named absent =>
      rename_i rec
      have unaccounted := unaccounted_of_absent ledgered absent
      rw [LiveState.registerDevice, OrderedMap.insertIfNew_of_absent unaccounted]
      by_cases here : rec.deviceId = did
      · subst here
        refine .opened rfl unaccounted ?_ ?_
        · rw [OrderedMap.lookup_insert, if_pos rfl]
        · rw [OrderedMap.lookup_insert, if_pos rfl]
      · refine .kept (.untouched ?_ ?_)
        · rw [OrderedMap.lookup_insert, if_neg here]
        · rw [OrderedMap.lookup_insert, if_neg here]
  | retireDevice =>
      exact .kept ((rewritten_evictDeployments s _ did).trans (.untouched rfl rfl))
  | reserveDeployment found ready offered accounted made admitted =>
      rename_i ledger dep
      rw [LiveState.reserveDeployment]
      by_cases here : dep.device = did
      · have held : s.ledgers[did]? = some ledger := by
          rw [← here, made]
          exact accounted
        refine .kept (.published held (.apply .refl admitted) ?_ ?_)
        · rw [OrderedMap.lookup_insert, if_pos here]
        · rw [OrderedMap.lookup_insert, if_pos here, ResourceLedger.current]
      · refine .kept (.untouched ?_ ?_)
        · rw [OrderedMap.lookup_insert, if_neg here]
        · rw [OrderedMap.lookup_insert, if_neg here]
  | endDeployment ends found =>
      rename_i id ending dep allowed
      rw [endDeployment_eq]
      cases ending.releases dep.state with
      | true => exact .kept ((rewritten_releaseResources s id did).trans (.untouched rfl rfl))
      | false => exact .kept (.untouched rfl rfl)
  | moveDeployment moves => rw [Op.not_charges_of_moves moves] at charges; cases charges
  | _ => cases charges

theorem Accepted.synced (accepted : Accepted s seq op s' seq')
    (ledgered : ∀ device : DeviceId, s.ledgers[device]?.isSome = s.devices[device]?.isSome)
    (synced : Synced s) : Synced s' := by
  intro did ledger' present
  rw [ExtTreeMap.getD_eq_getD_getElem?]
  cases accepted.account ledgered did with
  | kept rewritten =>
      cases rewritten with
      | untouched ledgers usage =>
          rw [usage, ← ExtTreeMap.getD_eq_getD_getElem?]
          exact synced did ledger' (ledgers.symm.trans present)
      | published before evolves after usage =>
          cases after.symm.trans present
          rw [usage]
          rfl
  | opened registers before after usage =>
      cases after.symm.trans present
      rw [usage]
      rfl

theorem Accepted.ledger_cap (accepted : Accepted s seq op s' seq')
    (ledgered : ∀ device : DeviceId, s.ledgers[device]?.isSome = s.devices[device]?.isSome)
    {did : DeviceId} {ledger : ResourceLedger} (present : s.ledgers[did]? = some ledger) :
    ∃ ledger', s'.ledgers[did]? = some ledger' ∧ ledger'.cap = ledger.cap := by
  cases accepted.account ledgered did with
  | kept rewritten =>
      cases rewritten with
      | untouched ledgers usage => exact ⟨ledger, ledgers.trans present, rfl⟩
      | published before evolves after usage =>
          cases before.symm.trans present
          exact ⟨_, after, evolves.cap_eq⟩
  | opened registers before after usage =>
      rw [present] at before
      cases before

end Accounts

/-- The record of a device keeps its capacity, unless a new record replaces it. -/
theorem Op.rewritten_resourceCapacity (op : Op) (did : DeviceId) (dev : DeviceRecord) :
    (op.rewritten did dev).resourceCapacity = dev.resourceCapacity ∨
      ∃ rec, op = .updateDevice rec ∧ rec.deviceId = did ∧ op.rewritten did dev = rec := by
  cases op with
  | updateDevice rec =>
      by_cases here : rec.deviceId = did
      · exact Or.inr ⟨rec, rfl, here, by simp [rewritten, here]⟩
      · exact Or.inl (by simp [rewritten, here])
  | retireDevice id => left; simp only [rewritten]; split_ifs <;> rfl
  | transitionDevice id target => left; simp only [rewritten]; split_ifs <;> rfl
  | setDeviceState id state cap => left; simp only [rewritten]; split_ifs <;> rfl
  | fenceDevice id reason => left; simp only [rewritten, fencedRecord]; split_ifs <;> rfl
  | markWorkerLost worker => left; simp only [rewritten, orphaned]; split_ifs <;> rfl
  | applyRecovery p => left; simp only [rewritten, recoveredRecord]; split_ifs <;> rfl
  | _ => exact Or.inl rfl

/-! ## Room -/

/-- What a ledger admits is at least what an evaluation admits. -/
structure Roomy (s : LiveState) : Prop where
  ledgered : ∀ device : DeviceId, s.ledgers[device]?.isSome = s.devices[device]?.isSome
  synced : Synced s
  covers : ∀ (did : DeviceId) (dev : DeviceRecord) (ledger : ResourceLedger),
    s.devices[did]? = some dev → s.ledgers[did]? = some ledger →
      ledger.cap.Covers dev.resourceCapacity

theorem Roomy.fresh (epoch : CoordinatorEpoch) (policy : Policy) :
    Roomy (Engine.fresh epoch policy).state := by
  constructor
  · intro device
    simp [Engine.fresh]
  · intro did ledger present
    simp [Engine.fresh] at present
  · intro did dev ledger present
    simp [Engine.fresh] at present

/-- An update that lifts no bound of the device's ledger. -/
def UpdateCovered (s : LiveState) (rec : DeviceRecord) : Prop :=
  ∀ ledger, s.ledgers[rec.deviceId]? = some ledger → ledger.cap.Covers rec.resourceCapacity

theorem Roomy.accepted {s s' : LiveState} {seq seq' : Nat} {op : Op} (room : Roomy s)
    (accepted : Accepted s seq op s' seq')
    (covered : ∀ rec, op = .updateDevice rec → UpdateCovered s rec) : Roomy s' where
  ledgered device := accepted.ledgered device (room.ledgered device)
  synced := accepted.synced room.ledgered room.synced
  covers := by
    intro did dev' ledger' present' accounted'
    cases present : s.devices[did]? with
    | none =>
        rcases accepted.device_of_absent present with gone | ⟨record, rfl, rfl, here⟩
        · rw [gone] at present'
          cases present'
        · cases here.symm.trans present'
          obtain ⟨-, absent, rfl⟩ := accepted.of_registerDevice
          have unaccounted := unaccounted_of_absent room.ledgered absent
          rw [LiveState.registerDevice, OrderedMap.insertIfNew_of_absent unaccounted,
            OrderedMap.lookup_insert, if_pos rfl] at accounted'
          cases accounted'
          exact .refl _
    | some dev =>
        have known : s.ledgers[did]?.isSome = true := by rw [room.ledgered, present]; rfl
        obtain ⟨ledger, accounted⟩ := Option.isSome_iff_exists.mp known
        obtain ⟨kept, still, cap⟩ := accepted.ledger_cap room.ledgered accounted
        cases still.symm.trans accounted'
        cases (accepted.device_of_present present).symm.trans present'
        rw [cap]
        rcases op.rewritten_resourceCapacity did dev with same | ⟨record, rfl, rfl, replaced⟩
        · rw [same]
          exact room.covers did dev ledger present accounted
        · rw [replaced]
          exact covered record rfl ledger accounted

/-! ## Recoveries -/

/-- The ledgers after a load: those there were, and those of the records of the file. -/
structure LedgersUnder (base own out : LiveState) : Prop where
  devices : ∀ id : DeviceId, out.devices[id]? = own.devices[id]?.or base.devices[id]?
  ledgers : ∀ id : DeviceId, out.ledgers[id]? = base.ledgers[id]?.or own.ledgers[id]?
  /-- The records of a file come with ledgers that have nothing in use. -/
  idle : ∀ (id : DeviceId) (ledger : ResourceLedger), own.ledgers[id]? = some ledger →
    ledger.used = {}
  ledgered : ∀ id : DeviceId, own.ledgers[id]?.isSome = own.devices[id]?.isSome

theorem LedgersUnder.refl (base : LiveState) : LedgersUnder base {} base := by
  constructor <;> simp

theorem lookup_insertIfNew (table : ExtTreeMap DeviceId ResourceLedger) (key probe : DeviceId)
    (value : ResourceLedger) :
    (table.insertIfNew key value)[probe]? =
      table[probe]?.or (if key = probe then some value else none) := by
  rw [OrderedMap.lookup_insertIfNew]
  split_ifs with here
  · cases table[probe]? with
    | none => rfl
    | some old => rfl
  · simp

theorem ledgersUnder_write {base own out : LiveState} {change : LiveState → LiveState}
    (writes : Persistence.ParserWrite change) (under : LedgersUnder base own out) :
    LedgersUnder base (change own) (change out) := by
  cases writes with
  | device d =>
      constructor
      · intro id
        simp only [OrderedMap.lookup_insert]
        split_ifs
        · rfl
        · exact under.devices id
      · intro id
        simp only [lookup_insertIfNew, under.ledgers, Option.or_assoc]
      · intro id ledger present
        simp only [lookup_insertIfNew] at present
        cases known : own.ledgers[id]? with
        | some old =>
            rw [known] at present
            cases present
            exact under.idle id ledger known
        | none =>
            rw [known, Option.none_or] at present
            split_ifs at present
            cases present
            rfl
      · intro id
        simp only [lookup_insertIfNew, OrderedMap.lookup_insert]
        split_ifs
        · simp
        · simpa using under.ledgered id
  | _ => exact { under with }

/-- The container of a file is intact. -/
def IsIntact (file : Option (List UInt8)) : Prop :=
  ∃ buf payload, file = some buf ∧ Persistence.openContainer buf = .ok payload

/-- A file that is recovered onto ledgers which have nothing in use and cover its records. -/
structure RecoveryCovered (s : LiveState) (file : Option (List UInt8)) : Prop where
  wellFormed : Persistence.isMalformed file = false
  idle : IsIntact file → ∀ (did : DeviceId) (ledger : ResourceLedger),
    s.ledgers[did]? = some ledger → ledger.used = {}
  covers : ∀ (did : DeviceId) (dev : DeviceRecord) (ledger : ResourceLedger),
    (Persistence.records file).devices[did]? = some dev →
      s.ledgers[did]?.or (Persistence.records file).ledgers[did]? = some ledger →
        ledger.cap.Covers dev.resourceCapacity

/-- What the loop of `recover_from` does for one device. -/
def LiveState.rebuildLedger (s : LiveState) (did : DeviceId) (dev : DeviceRecord) : LiveState :=
  { s with
    ledgers := s.ledgers.insertIfNew did ⟨dev.resourceCapacity, {}⟩
    usage := s.usage.insert did {} }

theorem rebuildLedgers_usage {s : LiveState} {did : DeviceId} {dev : DeviceRecord}
    (present : s.devices[did]? = some dev) : s.rebuildLedgers.usage[did]? = some {} := by
  have apart : ∀ (state : LiveState) (key : DeviceId) (other : DeviceRecord), key ≠ did →
      (state.rebuildLedger key other).usage[did]? = state.usage[did]? := by
    intro state key other differs
    rw [rebuildLedger, OrderedMap.lookup_insert, if_neg differs]
  obtain ⟨reached, -, visited⟩ := OrderedMap.sweep_at
    (fun reached : LiveState => reached.usage[did]?) present apart
    { s with epoch := ⟨nextGeneration s.epoch.value⟩ }
  exact visited.trans (by simp [rebuildLedger])

theorem rebuildLedgers_ledgers {s : LiveState}
    (ledgered : ∀ id : DeviceId, s.ledgers[id]?.isSome = s.devices[id]?.isSome) :
    s.rebuildLedgers.ledgers = s.ledgers := by
  refine OrderedMap.sweep_invariant
    (fun reached : LiveState => reached.ledgers = s.ledgers) rfl ?_
  intro reached did dev present same
  have known : s.ledgers[did]?.isSome = true := by
    rw [ledgered]
    exact Option.isSome_iff_exists.mpr ⟨dev, present⟩
  obtain ⟨ledger, accounted⟩ := Option.isSome_iff_exists.mp known
  change reached.ledgers.insertIfNew did _ = _
  rw [same, OrderedMap.insertIfNew_of_present accounted]

theorem fenceRecoveredDevice_resourceCapacity (d : DeviceRecord) :
    (Persistence.fenceRecoveredDevice d).resourceCapacity = d.resourceCapacity := by
  simp only [Persistence.fenceRecoveredDevice]
  split_ifs <;> rfl

theorem Roomy.recovered {s out : LiveState} {file : Option (List UInt8)} (room : Roomy s)
    (covered : RecoveryCovered s file) (intact : IsIntact file)
    (under : LedgersUnder s (Persistence.records file) out) :
    Roomy (Persistence.fenceRecovered out).rebuildLedgers := by
  have ledgered : ∀ id : DeviceId, out.ledgers[id]?.isSome = out.devices[id]?.isSome := by
    intro id
    rw [under.ledgers, under.devices, Option.isSome_or, Option.isSome_or, room.ledgered,
      under.ledgered, Bool.or_comm]
  have fenced : ∀ id : DeviceId, (Persistence.fenceRecovered out).ledgers[id]?.isSome =
      (Persistence.fenceRecovered out).devices[id]?.isSome := by
    intro id
    rw [Persistence.fenceRecovered, ExtTreeMap.getElem?_map, Option.isSome_map]
    exact ledgered id
  have ledgers : (Persistence.fenceRecovered out).rebuildLedgers.ledgers = out.ledgers :=
    rebuildLedgers_ledgers fenced
  have devices : (Persistence.fenceRecovered out).rebuildLedgers.devices =
      out.devices.map fun _ d => Persistence.fenceRecoveredDevice d := by
    rw [rebuildLedgers_eq]
    rfl
  refine ⟨?_, ?_, ?_⟩
  · intro id
    rw [ledgers, devices, ExtTreeMap.getElem?_map, Option.isSome_map]
    exact ledgered id
  · intro did ledger accounted
    rw [ledgers] at accounted
    have known : (Persistence.fenceRecovered out).devices[did]?.isSome = true := by
      rw [← fenced]
      exact Option.isSome_iff_exists.mpr ⟨ledger, accounted⟩
    obtain ⟨dev, present⟩ := Option.isSome_iff_exists.mp known
    rw [ExtTreeMap.getD_eq_getD_getElem?, rebuildLedgers_usage present]
    rw [under.ledgers] at accounted
    cases old : s.ledgers[did]? with
    | some kept =>
        rw [old] at accounted
        cases accounted
        exact (covered.idle intact did ledger old).symm
    | none =>
        rw [old, Option.none_or] at accounted
        exact (under.idle did ledger accounted).symm
  · intro did dev' ledger present accounted
    rw [ledgers, under.ledgers] at accounted
    rw [devices, ExtTreeMap.getElem?_map] at present
    obtain ⟨dev, found, rfl⟩ := Option.map_eq_some_iff.mp present
    rw [fenceRecoveredDevice_resourceCapacity]
    rw [under.devices] at found
    cases own : (Persistence.records file).devices[did]? with
    | some mine =>
        rw [own] at found
        cases found
        exact covered.covers did dev ledger own accounted
    | none =>
        rw [own, Option.none_or] at found
        have unowned : (Persistence.records file).ledgers[did]? = none :=
          unaccounted_of_absent under.ledgered own
        rw [unowned, Option.or_none] at accounted
        exact room.covers did dev ledger found accounted

/-! ## Runs -/

/-- A call that leaves every ledger covering what an evaluation admits. -/
def KeepsRoom (e : Engine) : Op → Prop
  | .updateDevice rec => UpdateCovered e.state rec
  | .recoverFrom file => RecoveryCovered e.state file
  | _ => True

/-- The ledgers have room for what an evaluation of the published snapshot admits. -/
structure Coherent (e : Engine) : Prop where
  room : Roomy e.state
  published : e.snap = makeSnapshot e.state

theorem isIntact_of_load {file : Option (List UInt8)} {s s' : LiveState}
    (loaded : Persistence.load file s = .ok true s') : IsIntact file := by
  cases file with
  | none => cases loaded
  | some buf =>
      cases opened : Persistence.openContainer buf with
      | error fault => simp [Persistence.load, opened] at loaded
      | ok payload => exact ⟨buf, payload, rfl, opened⟩

theorem Coherent.recovered {e : Engine} (coherent : Coherent e) {file : Option (List UInt8)}
    (covered : RecoveryCovered e.state file) : Coherent (e.step (.recoverFrom file)) := by
  cases Persistence.load_cases file e.state with
  | missing absent loaded =>
      rw [Engine.step_recoverFrom_of_ok loaded]
      exact ⟨coherent.room, rfl⟩
  | rejected empty wellFormed refused =>
      rw [Engine.step_recoverFrom_of_error refused]
      exact coherent
  | malformed malformed overlay refused =>
      rw [covered.wellFormed] at malformed
      cases malformed
  | accepted wellFormed overlay loaded =>
      obtain ⟨out, under, same⟩ := Persistence.load_ok_related
        (fun writes _ _ => ledgersUnder_write writes) (LedgersUnder.refl e.state) loaded
      rw [Engine.step_recoverFrom_of_ok loaded, same]
      exact ⟨coherent.room.recovered covered (isIntact_of_load loaded) under, rfl⟩

theorem Coherent.step {e : Engine} {op : Op} (single : Engine.isSingle op = true)
    (keeps : KeepsRoom e op) (coherent : Coherent e) : Coherent (e.step op) := by
  cases plain : op.isPlain with
  | true =>
      rcases Engine.step_cases e plain with ⟨s, seq, accepted, result⟩ | ⟨-, quiet⟩
      · rw [result]
        refine ⟨coherent.room.accepted accepted ?_, rfl⟩
        rintro record rfl
        exact keeps
      · exact ⟨by rw [quiet.state]; exact coherent.room,
          by rw [quiet.snap, quiet.state]; exact coherent.published⟩
  | false =>
      cases op <;> try cases plain
      · cases single
      · exact coherent.recovered keeps

theorem Engine.coherent_run (epoch : CoordinatorEpoch) (policy : Policy) {ops : List Op}
    (room : TransitionRun.Every Engine.step (Engine.EachCall KeepsRoom)
      (Engine.fresh epoch policy) ops) :
    Coherent (Engine.run (Engine.fresh epoch policy) ops) :=
  TransitionRun.run_invariant Coherent
    (fun _ _ each coherent => Engine.eachCall_invariant Coherent
      (fun _ _ single keeps coherent => coherent.step single keeps) each coherent)
    ⟨.fresh epoch policy, rfl⟩ room

/-! ## Evaluation and reservation -/

section Agreement

variable {F : Type} [ScoreArith F]

/-- The reservation succeeds and charges the device what the evaluation admitted. -/
def ReservesAdmitted (e : Engine) (req : OffloadRequest) (did : DeviceId) : Prop :=
  ∃ id e' dep ledger, Engine.reserveDeployment req (some did) e = .ok id e' ∧
    e'.state.deployments[id]? = some dep ∧ dep.device = did ∧
    dep.resources = requestedResources req (e.snap.requestedService req) ∧
    e.state.ledgers[did]? = some ledger ∧
    e'.state.ledgers[did]? = some (ledger.apply dep.resources) ∧
    e'.state.usage[did]? = some (ledger.apply dep.resources).current

/-- The service a request names, if any, is registered. -/
def ServiceKnown (s : LiveState) (req : OffloadRequest) : Prop :=
  ∀ id, req.service = some id → s.services.contains id = true

theorem offers_iff (s : LiveState) (req : OffloadRequest) :
    (∃ svc, Offers s req svc) ↔ ServiceKnown s req := by
  unfold Offers ServiceKnown
  cases req.service with
  | none => simp
  | some id =>
      constructor
      · rintro ⟨_, found, present, rfl⟩ id' named
        cases named
        exact (OrderedMap.contains_eq_true_iff _ _).mpr ⟨found, present⟩
      · intro known
        obtain ⟨found, present⟩ := (OrderedMap.contains_eq_true_iff _ _).mp (known id rfl)
        exact ⟨some found, found, present, rfl⟩

/-- A reservation that returns has charged what the service or the request asks for. -/
theorem reservesAdmitted_of_returns {e e' : Engine} {req : OffloadRequest} {did : DeviceId}
    {id : DeploymentId} (published : e.snap = makeSnapshot e.state)
    (reserved : Engine.reserveDeployment req (some did) e = .ok id e') :
    ReservesAdmitted e req did := by
  obtain ⟨dev, svc, ledger, dep, reserves⟩ := Engine.reserves_of_returns reserved
  refine ⟨id, e', dep, ledger, reserved, reserves.deployment, reserves.device, ?_,
    reserves.accounted, reserves.ledgers, reserves.usage⟩
  rw [reserves.made, published, ← reserves.offered.eq_requestedService]
  rfl

/--
Along runs that leave every ledger covering the record's capacity, reserving what
an evaluation selects succeeds, with the resources it admitted, exactly when the
named service is registered.
-/
theorem reservation_agrees_iff (F : Type) [ScoreArith F] (epoch : CoordinatorEpoch)
    (policy : Policy) (ops : List Op)
    (room : TransitionRun.Every Engine.step (Engine.EachCall KeepsRoom)
      (Engine.fresh epoch policy) ops)
    (req : OffloadRequest) (result : EligibilityResult F) (did : DeviceId)
    (evaluated : (Engine.run (Engine.fresh epoch policy) ops).evaluate F req = .ok result)
    (chosen : result.selected = some did) :
    ReservesAdmitted (Engine.run (Engine.fresh epoch policy) ops) req did ↔
      ServiceKnown (Engine.run (Engine.fresh epoch policy) ops).state req := by
  have coherent := Engine.coherent_run epoch policy room
  generalize Engine.run (Engine.fresh epoch policy) ops = e at coherent evaluated ⊢
  obtain ⟨-, dev, registered, clean⟩ := selected_passed evaluated chosen
  obtain ⟨-, ready, suits⟩ := (rejections_eq_nil_iff _ _ _ _ _).mp clean
  rw [coherent.published] at registered suits
  rw [← offers_iff]
  constructor
  · rintro ⟨id, e', _, _, reserved, -⟩
    obtain ⟨_, svc, _, _, reserves⟩ := Engine.reserves_of_returns reserved
    exact ⟨svc, reserves.offered⟩
  · rintro ⟨svc, offered⟩
    have known : e.state.ledgers[did]?.isSome = true := by
      rw [coherent.room.ledgered]
      exact Option.isSome_iff_exists.mpr ⟨dev, registered⟩
    obtain ⟨ledger, accounted⟩ := Option.isSome_iff_exists.mp known
    have admits : ledger.canReserve (requestedResources req svc) = true := by
      have resources := suits.resources
      change dev.resourceCapacity.Admits (e.state.usage.getD did {})
        (requestedResources req ((makeSnapshot e.state).requestedService req)) at resources
      rw [coherent.room.synced did ledger accounted, ← offered.eq_requestedService] at resources
      rw [ResourceLedger.canReserve_eq_true_iff]
      exact resources.of_covers (coherent.room.covers did dev ledger registered accounted)
    have accepted : Accepted e.state e.idSeq (.reserveDeployment req (some did)) _ _ :=
      .reserveDeployment registered ready offered accounted rfl admits
    have returned := Engine.succeeds_of_accepted rfl accepted
    rw [Engine.exec, Engine.succeeds_discard] at returned
    obtain ⟨id, reserved⟩ := Engine.eq_ok_of_succeeds returned
    exact reservesAdmitted_of_returns coherent.published reserved

end Agreement

theorem reservation_agrees_iff_sample :
    ∃ result, cryptoEngine.evaluate ℚ cryptoRequest = .ok result ∧
      ReservesAdmitted cryptoEngine cryptoRequest ⟨1⟩ := by
  obtain ⟨result, evaluated, chosen⟩ := evaluate_cryptoEngine
  have room : TransitionRun.Every Engine.step (Engine.EachCall KeepsRoom)
      (Engine.fresh ⟨1⟩ (Policy.defaults ⟨1⟩)) [.registerDevice cryptoDevice] :=
    ⟨trivial, trivial⟩
  have known : ServiceKnown cryptoEngine.state cryptoRequest := by
    rintro id ⟨⟩
  exact ⟨result, evaluated, (reservation_agrees_iff ℚ ⟨1⟩ (Policy.defaults ⟨1⟩)
    [.registerDevice cryptoDevice] room cryptoRequest result ⟨1⟩ evaluated chosen).mpr known⟩

/-- A device with room for a given number of slots. -/
def slottedDevice (slots : UInt64) : DeviceRecord :=
  { cryptoDevice with resourceCapacity := { slots := slots } }

/-- The only slot is reserved, and then an update announces four. -/
def raisedRun : List Op :=
  [.registerDevice (slottedDevice 1), .reserveDeployment {} (some ⟨1⟩),
    .updateDevice (slottedDevice 4)]

theorem raisedRun_passes :
    Passes ℚ (Engine.sampleEngine.run raisedRun).snap {} ⟨1⟩ (slottedDevice 4) where
  listed := List.mem_cons_self
  registered := rfl
  clean := by decide +kernel

theorem unknownService_passes :
    Passes ℚ cryptoEngine.snap { service := some ⟨9⟩ } ⟨1⟩ cryptoDevice where
  listed := List.mem_cons_self
  registered := rfl
  clean := by decide +kernel

/--
What an evaluation selects cannot be reserved: once because an update raised the
capacity that the ledger keeps, once because the named service is unknown.
-/
theorem reservation_disagrees :
    (∃ (ops : List Op) (result : EligibilityResult ℚ),
      (Engine.sampleEngine.run ops).evaluate ℚ {} = .ok result ∧
        result.selected = some ⟨1⟩ ∧
        Engine.succeeds (Engine.reserveDeployment {} result.selected)
          (Engine.sampleEngine.run ops) = false) ∧
    ∃ (ops : List Op) (result : EligibilityResult ℚ),
      (Engine.sampleEngine.run ops).evaluate ℚ { service := some ⟨9⟩ } = .ok result ∧
        result.selected = some ⟨1⟩ ∧
        Engine.succeeds (Engine.reserveDeployment { service := some ⟨9⟩ } result.selected)
          (Engine.sampleEngine.run ops) = false := by
  constructor
  · exact ⟨raisedRun, _, evaluateOffload_only rfl ⟨by decide, by decide⟩ raisedRun_passes, rfl,
      by decide⟩
  · exact ⟨[.registerDevice cryptoDevice], _,
      evaluateOffload_only rfl ⟨by decide, by decide⟩ unknownService_passes, rfl, by decide⟩

end DPUFabric
