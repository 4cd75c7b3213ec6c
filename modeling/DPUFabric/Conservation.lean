import DPUFabric.DeploymentLifecycle

/-!
# Resources given back once

A device's ledger should hold what the deployments on it hold.  The ending
calls give a deployment's resources back when it leaves the holding states, and
the ledger ignores a release it cannot cover, so a release too many takes
another deployment's share without an error.  Two calls release too often:
`retire_device`, whose deployments go on holding, and the rollback of a failed
deployment, which no longer holds anything.
-/

namespace DPUFabric

open Std
open LiveState

/-! ## What deployments hold -/

/-- The states in which a deployment holds its resources. -/
def DeploymentState.holds : DeploymentState → Bool
  | .planned => false
  | .failed => false
  | .aborted => false
  | .retired => false
  | _ => true

/-- What a deployment holds of a device. -/
def Deployment.charge (device : DeviceId) (dim : Dimension) (dep : Deployment) : Nat :=
  if dep.device = device ∧ dep.state.holds = true then (dep.resources.amount dim).toNat else 0

/-- What all deployments hold of a device. -/
def LiveState.held (s : LiveState) (device : DeviceId) (dim : Dimension) : Nat :=
  OrderedMap.total (fun _ dep => dep.charge device dim) s.deployments

/-- The ledger of every registered device holds what the deployments on it hold. -/
def Conserved (s : LiveState) : Prop :=
  ∀ (device : DeviceId) (dev : DeviceRecord), s.devices[device]? = some dev →
    ∃ ledger, s.ledgers[device]? = some ledger ∧
      ∀ dim, (ledger.used.amount dim).toNat = s.held device dim

/-- The same of every ledger. -/
def Balanced (s : LiveState) : Prop :=
  ∀ (device : DeviceId) (ledger : ResourceLedger), s.ledgers[device]? = some ledger →
    ∀ dim, (ledger.used.amount dim).toNat = s.held device dim

/-- What the accounting relies on; `seq` is the identity counter. -/
structure Accounted (s : LiveState) (seq : Nat) : Prop where
  /-- The registered devices are those with a ledger. -/
  ledgered : ∀ device : DeviceId, s.ledgers[device]?.isSome = s.devices[device]?.isSome
  located : ∀ (id : DeploymentId) (dep : Deployment),
    s.deployments[id]? = some dep → s.devices[dep.device]?.isSome = true
  issued : ∀ (id : DeploymentId) (dep : Deployment),
    s.deployments[id]? = some dep → id.value.toNat < seq
  unplanned : ∀ (id : DeploymentId) (dep : Deployment),
    s.deployments[id]? = some dep → dep.state ≠ .planned

theorem Accounted.conserved_iff {s : LiveState} {seq : Nat} (accounted : Accounted s seq) :
    Conserved s ↔ Balanced s := by
  constructor
  · intro conserved device ledger present
    have registered := accounted.ledgered device
    rw [present, Option.isSome_some, eq_comm, Option.isSome_iff_exists] at registered
    obtain ⟨dev, located⟩ := registered
    obtain ⟨ledger', present', balance⟩ := conserved device dev located
    rw [present] at present'
    cases present'
    exact balance
  · intro balanced device dev located
    have ledgered := accounted.ledgered device
    rw [located, Option.isSome_some, Option.isSome_iff_exists] at ledgered
    obtain ⟨ledger, present⟩ := ledgered
    exact ⟨ledger, present, balanced device ledger present⟩

/-- What one deployment holds is part of what all hold. -/
theorem charge_le_held {s : LiveState} {id : DeploymentId} {dep : Deployment}
    (present : s.deployments[id]? = some dep) (device : DeviceId) (dim : Dimension) :
    dep.charge device dim ≤ s.held device dim :=
  OrderedMap.weight_le_total (fun _ dep => dep.charge device dim) present

/-- Two deployments of the same resources on the same device hold alike while both hold. -/
theorem charge_congr (dep' dep : Deployment) (device : dep'.device = dep.device)
    (resources : dep'.resources = dep.resources)
    (holds : dep'.state.holds = dep.state.holds) (probe : DeviceId) (dim : Dimension) :
    dep'.charge probe dim = dep.charge probe dim := by
  unfold Deployment.charge
  rw [device, resources, holds]

theorem held_modify {s s' : LiveState} {id : DeploymentId} {dep : Deployment}
    {change : Deployment → Deployment}
    (deployments : s'.deployments = s.deployments.modify id change)
    (present : s.deployments[id]? = some dep) (device : DeviceId) (dim : Dimension) :
    s'.held device dim + dep.charge device dim =
      s.held device dim + (change dep).charge device dim := by
  unfold LiveState.held
  rw [deployments]
  exact OrderedMap.total_modify (fun _ dep => dep.charge device dim) present change

/-- The fenced deployments go on holding what they held. -/
theorem held_swept {s s' : LiveState} {op : Op}
    (deployments : s'.deployments =
      s.deployments.map fun _ dep => fencedWhere (op.fences s) dep)
    (device : DeviceId) (dim : Dimension) : s'.held device dim = s.held device dim := by
  unfold LiveState.held
  rw [deployments, OrderedMap.total_map]
  refine OrderedMap.total_congr fun id dep present => ?_
  unfold fencedWhere
  split_ifs with chosen
  · have holds : (fenced dep).state.holds = dep.state.holds := by
      rcases Op.fences_running chosen with state | state | state <;> rw [state] <;> rfl
    exact charge_congr (fenced dep) dep rfl rfl holds device dim
  · rfl

/-! ## The ledgers along a call -/

/-- A change of the tables that keeps the ledgers and what is held keeps the balance. -/
theorem balanced_iff_of_same {s s' : LiveState} (ledgers : s'.ledgers = s.ledgers)
    (held : ∀ device dim, s'.held device dim = s.held device dim) :
    Balanced s' ↔ Balanced s := by
  unfold Balanced
  simp only [ledgers, held]

/-- The calls that may write the ledgers or the usage. -/
def Op.charges : Op → Bool
  | .registerDevice _ => true
  | .retireDevice _ => true
  | .reserveDeployment _ _ => true
  | op => op.ends.isSome

theorem Op.charges_of_ends {op : Op} {target : DeploymentId × Ending}
    (ends : op.ends = some target) : op.charges = true := by
  cases op <;> first | rfl | cases ends

theorem Op.not_charges_of_moves {op : Op} {target : DeploymentId × DeploymentState}
    (moves : op.moves = some target) : op.charges = false := by
  cases op <;> first | rfl | cases moves

/-- The two tables of resource accounts are those of the other state. -/
structure SameAccounts (s s' : LiveState) : Prop where
  ledgers : s'.ledgers = s.ledgers
  usage : s'.usage = s.usage

/-- Only four kinds of call write an account. -/
theorem Accepted.sameAccounts {s s' : LiveState} {seq seq' : Nat} {op : Op}
    (accepted : Accepted s seq op s' seq') (other : op.charges = false) :
    SameAccounts s s' := by
  cases accepted with
  | registerDevice => cases other
  | retireDevice => cases other
  | reserveDeployment => cases other
  | endDeployment ends => rw [Op.charges_of_ends ends] at other; cases other
  | transitionDevice =>
      rename_i id target dev present valid
      rw [LiveState.transitionDevice, fenceDeployments_eq]
      cases isFencingTarget target <;> exact ⟨rfl, rfl⟩
  | fenceDevice =>
      rw [LiveState.fenceDevice, fenceDeployments_eq]
      exact ⟨rfl, rfl⟩
  | markWorkerLost =>
      rename_i worker
      cases known : s.workers[worker]? with
      | none => simp only [LiveState.markWorkerLost, known]; exact ⟨rfl, rfl⟩
      | some boot =>
          simp only [LiveState.markWorkerLost, known, fenceDeployments_eq]
          exact ⟨rfl, rfl⟩
  | applyRecovery =>
      rw [LiveState.applyRecovery, fenceDeployments_eq]
      exact ⟨rfl, rfl⟩
  | _ => exact ⟨rfl, rfl⟩

/-- Only four kinds of call write a ledger. -/
theorem Accepted.ledgers_eq {s s' : LiveState} {seq seq' : Nat} {op : Op}
    (accepted : Accepted s seq op s' seq') (sweeps : op.sweeps = true)
    (notRegister : ∀ rec, op ≠ .registerDevice rec) (notRetire : ∀ id, op ≠ .retireDevice id) :
    s'.ledgers = s.ledgers := by
  have other : op.charges = false := by
    cases op with
    | registerDevice rec => exact absurd rfl (notRegister rec)
    | retireDevice id => exact absurd rfl (notRetire id)
    | _ => first | rfl | cases sweeps
  exact (accepted.sameAccounts other).ledgers

/-- An ending gives back what the deployment held, or neither side changes. -/
theorem Op.ends_accounting {op : Op} {id : DeploymentId} {ending : Ending}
    (ends : op.ends = some (id, ending)) {state : DeploymentState}
    (allowed : ending.allows state = true) (unplanned : state ≠ .planned) :
    (ending.releases state = true ∧ state.holds = true ∧ ending.target.holds = false) ∨
      (ending.releases state = false ∧ ending.target.holds = state.holds) ∨
      (op = .rollbackDeployment id ∧ state = .failed) := by
  cases op <;> cases ends <;> cases state <;>
    first
    | exact absurd rfl unplanned
    | exact Or.inl ⟨rfl, rfl, rfl⟩
    | exact Or.inr (Or.inl ⟨rfl, rfl⟩)
    | exact Or.inr (Or.inr ⟨rfl, rfl⟩)
    | cases allowed

/-! ## The calls that keep the balance -/

/-- The request asks for nothing in any dimension. -/
def ResourceRequest.IsZero (r : ResourceRequest) : Prop :=
  ∀ dim, r.amount dim = 0

/-- The call gives no resources back that are still held, or no longer. -/
def ReleasesOnce (s : LiveState) : Op → Prop
  | .retireDevice device =>
      ∀ (id : DeploymentId) (dep : Deployment), s.deployments[id]? = some dep →
        occupies device dep = true → dep.resources.IsZero
  | .rollbackDeployment id =>
      ∀ (dep : Deployment) (ledger : ResourceLedger), s.deployments[id]? = some dep →
        dep.state = .failed → s.ledgers[dep.device]? = some ledger →
          dep.resources.IsZero ∨ ledger.underflows dep.resources = true
  | _ => True

/-- A release changes nothing exactly when it asks for nothing or cannot be covered. -/
theorem release_kept_iff (ledger : ResourceLedger) (r : ResourceRequest) :
    (∀ dim, ((ledger.release r).used.amount dim).toNat = (ledger.used.amount dim).toNat) ↔
      r.IsZero ∨ ledger.underflows r = true := by
  cases low : ledger.underflows r with
  | true => simp [ResourceLedger.release_of_underflow low]
  | false =>
      have enough := (ResourceLedger.underflows_eq_false_iff ledger r).mp low
      simp only [ResourceLedger.release_amount low, ResourceRequest.IsZero, or_false,
        Bool.false_eq_true]
      refine forall_congr' fun dim => ?_
      have covered := enough dim
      rw [← UInt64.toNat_inj]
      simp only [UInt64.toNat_zero]
      omega

/-- What the loop of `retire_device` gives back. -/
def LiveState.evicted (s : LiveState) (device : DeviceId) (dim : Dimension) : Nat :=
  OrderedMap.total
    (fun _ dep => if occupies device dep = true then (dep.resources.amount dim).toNat else 0)
    s.deployments

theorem evicted_le_held (s : LiveState) (device : DeviceId) (dim : Dimension) :
    s.evicted device dim ≤ s.held device dim := by
  refine OrderedMap.total_mono fun id dep => ?_
  split_ifs with chosen
  · have holding : dep.device = device ∧ dep.state.holds = true := by
      simp only [occupies, Bool.and_eq_true, Bool.or_eq_true, beq_iff_eq] at chosen
      obtain ⟨here, (state | state) | state⟩ := chosen <;> exact ⟨here, by rw [state]; rfl⟩
    rw [Deployment.charge, if_pos holding]
  · exact Nat.zero_le _

theorem evictedLedger_amount {s : LiveState} {device : DeviceId} {ledger : ResourceLedger}
    (balance : ∀ dim, (ledger.used.amount dim).toNat = s.held device dim) (dim : Dimension) :
    ((s.evictedLedger device ledger).used.amount dim).toNat =
      (ledger.used.amount dim).toNat - s.evicted device dim := by
  unfold LiveState.evictedLedger LiveState.evicted
  refine OrderedMap.sweep_subtract (fun (ledger : ResourceLedger) dim =>
      (ledger.used.amount dim).toNat)
    (fun dim _ dep => if occupies device dep = true then (dep.resources.amount dim).toNat else 0)
    ?_ ledger ?_ dim
  · intro ledger id dep covered dim
    by_cases chosen : occupies device dep = true
    · simp only [chosen, if_true] at covered ⊢
      exact ResourceLedger.release_amount
        ((ResourceLedger.underflows_eq_false_iff _ _).mpr covered) dim
    · simp [chosen]
  · intro dim
    rw [balance]
    exact evicted_le_held s device dim

theorem evicted_eq_zero_iff (s : LiveState) (device : DeviceId) :
    (∀ dim, s.evicted device dim = 0) ↔ ReleasesOnce s (.retireDevice device) := by
  unfold LiveState.evicted
  simp only [OrderedMap.total_eq_zero_iff]
  constructor
  · intro nothing id dep present chosen dim
    have zero := nothing dim id dep present
    rw [if_pos chosen] at zero
    exact UInt64.toNat_inj.mp zero
  · intro releases dim id dep present
    split_ifs with chosen
    · rw [releases id dep present chosen dim]
      rfl
    · rfl

/-- So does changing a deployment that goes on holding what it held. -/
theorem balanced_iff_of_modified {s s' : LiveState} {id : DeploymentId} {dep : Deployment}
    (change : Deployment → Deployment)
    (deployments : s'.deployments = s.deployments.modify id change)
    (ledgers : s'.ledgers = s.ledgers) (present : s.deployments[id]? = some dep)
    (device : (change dep).device = dep.device)
    (resources : (change dep).resources = dep.resources)
    (holds : (change dep).state.holds = dep.state.holds) : Balanced s' ↔ Balanced s := by
  refine balanced_iff_of_same ledgers fun probe dim => ?_
  have trade := held_modify deployments present probe dim
  rw [charge_congr _ _ device resources holds] at trade
  exact Nat.add_right_cancel trade

theorem balanced_moved {s : LiveState} {id : DeploymentId} {dep : Deployment}
    {target : DeploymentState} (present : s.deployments[id]? = some dep)
    (holds : target.holds = dep.state.holds) (balanced : Balanced s) :
    Balanced (s.doDeployTransition id target) := by
  have step : Balanced (s.doDeployTransition id target) ↔ Balanced s :=
    balanced_iff_of_modified
      (fun dep => { dep with state := target, authoritative := target == .active })
      rfl rfl present rfl rfl holds
  exact step.mpr balanced

theorem balanced_activated {s : LiveState} {id : DeploymentId} {dep : Deployment}
    (act : ActivationRecord) (present : s.deployments[id]? = some dep)
    (balanced : Balanced s) : Balanced (s.activateDeployment id act) := by
  have step : Balanced (s.activateDeployment id act) ↔ Balanced s :=
    balanced_iff_of_modified
      (fun dep =>
        { dep with activation := some act.activationId, activationGen := act.activationGen })
      rfl rfl present rfl rfl rfl
  exact step.mpr balanced

theorem balanced_committed {s : LiveState} {id : DeploymentId} {dep : Deployment}
    (aid : ActivationId) (token : ActivationAuthority)
    (present : s.deployments[id]? = some dep) (activating : dep.state = .activating)
    (balanced : Balanced s) : Balanced (s.commitDeployment id aid token) := by
  have step : Balanced (s.commitDeployment id aid token) ↔ Balanced s :=
    balanced_iff_of_modified
      (fun dep => { dep with state := .active, authoritative := true, epoch := s.epoch })
      rfl rfl present rfl rfl (by rw [activating]; rfl)
  exact step.mpr balanced

/-- The sum of what is held of a device fits in 64 bits. -/
def SumsBelow (s : LiveState) : Prop :=
  ∀ device dim, s.held device dim < 2 ^ 64

/-- A reservation charges the ledger with what its deployment goes on to hold. -/
theorem balanced_reserved {s : LiveState} {ledger : ResourceLedger} {dep : Deployment}
    (fresh : s.deployments[dep.deploymentId]? = none) (reserved : dep.state = .reserved)
    (present : s.ledgers[dep.device]? = some ledger) (balanced : Balanced s)
    (below : SumsBelow (s.reserveDeployment (ledger.apply dep.resources) dep)) :
    Balanced (s.reserveDeployment (ledger.apply dep.resources) dep) := by
  have held : ∀ device dim,
      (s.reserveDeployment (ledger.apply dep.resources) dep).held device dim =
        s.held device dim + dep.charge device dim := by
    intro device dim
    have trade := OrderedMap.total_insert (fun _ dep => Deployment.charge device dim dep)
      s.deployments dep.deploymentId dep
    rw [fresh] at trade
    exact trade
  intro device found lookup dim
  rw [LiveState.reserveDeployment, OrderedMap.lookup_insert] at lookup
  rw [held]
  split_ifs at lookup with here
  · cases lookup
    subst here
    have charge : dep.charge dep.device dim = (dep.resources.amount dim).toNat := by
      rw [Deployment.charge, if_pos ⟨rfl, by rw [reserved]; rfl⟩]
    have fits := below dep.device dim
    rw [held, charge] at fits
    rw [ResourceLedger.apply_amount, balanced _ ledger present, charge]
    exact Nat.mod_eq_of_lt fits
  · have elsewhere : dep.charge device dim = 0 := by
      rw [Deployment.charge, if_neg fun both => here both.1]
    rw [elsewhere, Nat.add_zero]
    exact balanced device found lookup dim

/-- The one ending that may release too often is the rollback of a failed deployment. -/
theorem releasesOnce_of_ends {s : LiveState} {op : Op} {id : DeploymentId} {ending : Ending}
    {dep : Deployment} (ends : op.ends = some (id, ending))
    (present : s.deployments[id]? = some dep)
    (running : op = .rollbackDeployment id → dep.state ≠ .failed) : ReleasesOnce s op := by
  cases op with
  | rollbackDeployment id' =>
      cases ends
      intro dep' ledger found failed
      rw [present] at found
      cases found
      exact absurd failed (running rfl)
  | retireDevice => cases ends
  | _ => trivial

section Released

variable {s s' : LiveState} {id : DeploymentId} {dep : Deployment} {ledger : ResourceLedger}

/-- What a deployment held is taken off both sides. -/
theorem balanced_of_released {change : Deployment → Deployment}
    (deployments : s'.deployments = s.deployments.modify id change)
    (ledgers : ∀ device : DeviceId, s'.ledgers[device]? =
      if dep.device = device then
        s.ledgers[device]?.map fun ledger => ledger.release dep.resources
      else s.ledgers[device]?)
    (present : s.deployments[id]? = some dep) (known : s.ledgers[dep.device]? = some ledger)
    (holds : dep.state.holds = true) (freed : (change dep).state.holds = false)
    (balanced : Balanced s) : Balanced s' := by
  intro device found lookup dim
  have trade := held_modify deployments present device dim
  have gone : (change dep).charge device dim = 0 := by
    rw [Deployment.charge, if_neg]
    rintro ⟨-, holding⟩
    rw [freed] at holding
    cases holding
  rw [ledgers] at lookup
  split_ifs at lookup with here
  · subst here
    rw [known] at lookup
    cases lookup
    have charge : ∀ dim, dep.charge dep.device dim = (dep.resources.amount dim).toNat :=
      fun dim => if_pos ⟨rfl, holds⟩
    have covered : ledger.underflows dep.resources = false := by
      rw [ResourceLedger.underflows_eq_false_iff]
      intro dim
      rw [balanced _ ledger known, ← charge]
      exact charge_le_held present _ dim
    rw [ResourceLedger.release_amount covered, balanced _ ledger known, ← charge]
    omega
  · have elsewhere : dep.charge device dim = 0 := if_neg fun both => here both.1
    rw [balanced device found lookup dim]
    omega

/-- Where the deployments hold what they held, a release must change nothing. -/
theorem balanced_iff_of_released
    (held : ∀ device dim, s'.held device dim = s.held device dim)
    (ledgers : ∀ device : DeviceId, s'.ledgers[device]? =
      if dep.device = device then
        s.ledgers[device]?.map fun ledger => ledger.release dep.resources
      else s.ledgers[device]?)
    (known : s.ledgers[dep.device]? = some ledger) (balanced : Balanced s) :
    Balanced s' ↔ dep.resources.IsZero ∨ ledger.underflows dep.resources = true := by
  rw [← release_kept_iff]
  constructor
  · intro balanced' dim
    have released : s'.ledgers[dep.device]? = some (ledger.release dep.resources) := by
      rw [ledgers, if_pos rfl, known]
      rfl
    rw [balanced' dep.device _ released dim, held, balanced dep.device ledger known]
  · intro unchanged device found lookup dim
    rw [ledgers] at lookup
    rw [held]
    split_ifs at lookup with here
    · subst here
      rw [known] at lookup
      cases lookup
      rw [unchanged]
      exact balanced _ ledger known dim
    · exact balanced device found lookup dim

end Released

theorem balanced_ended {s : LiveState} {op : Op} {id : DeploymentId} {ending : Ending}
    {dep : Deployment} (ends : op.ends = some (id, ending))
    (present : s.deployments[id]? = some dep) (allowed : ending.allows dep.state = true)
    (unplanned : dep.state ≠ .planned) (ledgered : s.ledgers[dep.device]?.isSome = true)
    (balanced : Balanced s) :
    Balanced (s.endDeployment ending id dep) ↔ ReleasesOnce s op := by
  obtain ⟨ledger, known⟩ := Option.isSome_iff_exists.mp ledgered
  generalize result : s.endDeployment ending id dep = s'
  have deployments : s'.deployments = s.deployments.modify id (ended ending) := by
    rw [← result, endDeployment_eq]
  have ledgers : ending.releases dep.state = true → ∀ device, s'.ledgers[device]? =
      if dep.device = device then
        s.ledgers[device]?.map fun ledger => ledger.release dep.resources
      else s.ledgers[device]? := by
    intro releases device
    rw [← result, endDeployment_eq]
    simp [releases, lookup_releaseResources present]
  rcases Op.ends_accounting ends allowed unplanned with
    ⟨releases, holds, freed⟩ | ⟨keeps, holds⟩ | ⟨rolledBack, failed⟩
  · have running : dep.state ≠ .failed := by
      intro failed
      rw [failed] at holds
      cases holds
    refine iff_of_true ?_ (releasesOnce_of_ends ends present fun _ => running)
    exact balanced_of_released deployments (ledgers releases) present known holds freed balanced
  · have same : s'.ledgers = s.ledgers := by
      rw [← result, endDeployment_eq]
      simp [keeps]
    refine iff_of_true ?_ (releasesOnce_of_ends ends present ?_)
    · exact (balanced_iff_of_modified (ended ending) deployments same present rfl rfl
        holds).mpr balanced
    · rintro rfl
      cases ends
      cases keeps
  · -- Nothing is held before or after.
    subst rolledBack
    cases ends
    have held : ∀ device dim, s'.held device dim = s.held device dim := by
      intro device dim
      have trade := held_modify deployments present device dim
      rw [charge_congr (ended rollbackEnding dep) dep rfl rfl (by rw [failed]; rfl)] at trade
      exact Nat.add_right_cancel trade
    rw [balanced_iff_of_released held (ledgers rfl) known balanced]
    constructor
    · intro kept dep' ledger' found _ known'
      rw [present] at found
      cases found
      rw [known] at known'
      cases known'
      exact kept
    · intro releases
      exact releases dep ledger present failed known

/-- A new device has a new ledger, and no deployment on it. -/
theorem balanced_registered {s : LiveState} {seq : Nat} {rec : DeviceRecord}
    (accounted : Accounted s seq) (absent : s.devices[rec.deviceId]? = none)
    (balanced : Balanced s) : Balanced (s.registerDevice rec) := by
  intro device ledger lookup dim
  simp only [LiveState.registerDevice, ExtTreeMap.getElem?_insertIfNew] at lookup
  split_ifs at lookup with new
  · cases lookup
    have here : rec.deviceId = device := by simpa using new.1
    have nothing : s.held device dim = 0 := by
      refine OrderedMap.total_eq_zero_iff.mpr fun id dep present => ?_
      rw [Deployment.charge, if_neg]
      rintro ⟨onDevice, -⟩
      have located := accounted.located id dep present
      rw [onDevice, ← here, absent] at located
      cases located
    change _ = s.held device dim
    rw [nothing]
    cases dim <;> rfl
  · exact balanced device ledger lookup dim

/-- A retired device keeps the balance exactly when its loop had nothing to give back. -/
theorem balanced_retired {s : LiveState} {seq : Nat} {id : DeviceId} {dev : DeviceRecord}
    (accounted : Accounted s seq) (present : s.devices[id]? = some dev)
    (balanced : Balanced s) :
    Balanced (s.retireDevice id) ↔ ReleasesOnce s (.retireDevice id) := by
  rw [← evicted_eq_zero_iff]
  have swept : (s.retireDevice id).deployments =
      s.deployments.map fun _ dep => fencedWhere ((Op.retireDevice id).fences s) dep := by
    rw [LiveState.retireDevice, evictDeployments_eq]
    rfl
  have held : ∀ device dim, (s.retireDevice id).held device dim = s.held device dim :=
    held_swept swept
  have ledgers : ∀ device, (s.retireDevice id).ledgers[device]? =
      if id = device then s.ledgers[device]?.map (s.evictedLedger id)
      else s.ledgers[device]? := lookup_evictDeployments s id
  obtain ⟨ledger, known⟩ : ∃ ledger, s.ledgers[id]? = some ledger := by
    rw [← Option.isSome_iff_exists, accounted.ledgered, present]
    rfl
  have amounts := evictedLedger_amount (balanced id ledger known)
  constructor
  · intro balanced' dim
    have after := balanced' id (s.evictedLedger id ledger)
      (by rw [ledgers, if_pos rfl, known]; rfl) dim
    have bound := evicted_le_held s id dim
    rw [amounts, held, balanced id ledger known] at after
    omega
  · intro nothing device found lookup dim
    rw [ledgers] at lookup
    rw [held]
    split_ifs at lookup with here
    · subst here
      rw [known] at lookup
      cases lookup
      rw [amounts, nothing, Nat.sub_zero]
      exact balanced id ledger known dim
    · exact balanced device found lookup dim

theorem Accepted.balanced_iff {s s' : LiveState} {seq seq' : Nat} {op : Op}
    (accepted : Accepted s seq op s' seq') (room : seq' ≤ 2 ^ 64) (below : SumsBelow s')
    (accounted : Accounted s seq) (balanced : Balanced s) :
    Balanced s' ↔ ReleasesOnce s op := by
  have swept := accepted.swept
  have ledgers := accepted.ledgers_eq
  cases accepted with
  | registerDevice named absent =>
      exact iff_of_true (balanced_registered accounted absent balanced) trivial
  | retireDevice present => exact balanced_retired accounted present balanced
  | reserveDeployment present ready offered accounts made admitted =>
      rename_i device dev svc ledger dep
      have issued : dep.deploymentId = ⟨UInt64.ofNat seq⟩ := by rw [made]; rfl
      have onDevice : dep.device = device := by rw [made]; rfl
      have fresh : s.deployments[dep.deploymentId]? = none := by
        cases taken : s.deployments[dep.deploymentId]? with
        | none => rfl
        | some old =>
            have older := accounted.issued _ old taken
            exact absurd issued.symm (ne_of_issued (by omega) older)
      have state : dep.state = .reserved := by rw [made]; rfl
      rw [← onDevice] at accounts
      exact iff_of_true (balanced_reserved fresh state accounts balanced below) trivial
  | moveDeployment moves present valid =>
      rename_i id target dep
      have holds : target.holds = dep.state.holds := by
        cases op <;> cases moves <;> revert valid <;> cases dep.state <;>
          first | (intro; rfl) | (intro valid; cases valid)
      have releases : ReleasesOnce s op := by cases op <;> trivial
      exact iff_of_true (balanced_moved present holds balanced) releases
  | activateDeployment present valid =>
      rename_i id dep
      have holds : DeploymentState.activating.holds = dep.state.holds := by
        revert valid
        cases dep.state <;> first | (intro; rfl) | (intro valid; cases valid)
      have found : (s.doDeployTransition id .activating).deployments[id]? =
          some { dep with state := .activating, authoritative := false } := by
        simp [LiveState.doDeployTransition, modifyDeployment, present]
      exact iff_of_true
        (balanced_activated _ found (balanced_moved present holds balanced)) trivial
  | commitDeployment present activating =>
      exact iff_of_true (balanced_committed _ _ present activating balanced) trivial
  | endDeployment ends present allowed =>
      refine balanced_ended ends present allowed (accounted.unplanned _ _ present) ?_ balanced
      rw [accounted.ledgered]
      exact accounted.located _ _ present
  | _ =>
      obtain ⟨deployments, -⟩ := swept rfl
      have same := ledgers rfl (by simp) (by simp)
      exact iff_of_true ((balanced_iff_of_same same (held_swept deployments)).mpr balanced) trivial

/-! ## Runs -/

/-- Only a registration adds a device. -/
theorem Accepted.device_isSome {s s' : LiveState} {seq seq' : Nat} {op : Op}
    (accepted : Accepted s seq op s' seq') (notRegister : ∀ rec, op ≠ .registerDevice rec)
    (device : DeviceId) : s'.devices[device]?.isSome = s.devices[device]?.isSome := by
  cases present : s.devices[device]? with
  | some dev => rw [accepted.device_of_present present]; rfl
  | none =>
      rcases accepted.device_of_absent present with gone | ⟨rec, registers, -, -⟩
      · rw [gone]
      · exact absurd registers (notRegister rec)

/-- The two tables of devices gain entries only together. -/
theorem Accepted.ledgered {s s' : LiveState} {seq seq' : Nat} {op : Op}
    (accepted : Accepted s seq op s' seq') (device : DeviceId)
    (ledgered : s.ledgers[device]?.isSome = s.devices[device]?.isSome) :
    s'.ledgers[device]?.isSome = s'.devices[device]?.isSome := by
  have devices := accepted.device_isSome
  have ledgers := accepted.ledgers_eq
  cases accepted with
  | registerDevice named absent =>
      rename_i rec
      simp only [LiveState.registerDevice, OrderedMap.lookup_insert,
        ExtTreeMap.getElem?_insertIfNew]
      by_cases here : rec.deviceId = device
      · subst here
        have missing : rec.deviceId ∉ s.ledgers := by
          intro known
          rw [absent, ExtTreeMap.isSome_getElem?_iff_mem.mpr known] at ledgered
          cases ledgered
        simp [missing]
      · simp [here, ledgered]
  | retireDevice =>
      rw [devices (by simp), ← ledgered, LiveState.retireDevice]
      change Option.isSome (s.evictDeployments _).ledgers[device]? = _
      rw [lookup_evictDeployments]
      split_ifs <;> simp
  | reserveDeployment present ready offered accounts =>
      rename_i device' dev svc ledger dep made admitted
      rw [devices (by simp), ← ledgered, LiveState.reserveDeployment, OrderedMap.lookup_insert]
      split_ifs with here
      · rw [← here, made]
        exact (congrArg Option.isSome accounts).symm
      · rfl
  | moveDeployment => exact ledgered
  | activateDeployment => exact ledgered
  | commitDeployment => exact ledgered
  | endDeployment ends present =>
      rename_i id ending dep allowed
      rw [endDeployment_eq]
      dsimp only
      split_ifs
      · rw [lookup_releaseResources present]
        split_ifs <;> simp [ledgered]
      · exact ledgered
  | _ => rw [ledgers rfl (by simp) (by simp), devices (by simp), ledgered]

/-- A deployment keeps its device and is never planned again, unless identities repeat. -/
theorem DeploymentStep.keepsPlace {s : LiveState} {seq : Nat} {op : Op} {id : DeploymentId}
    {dep dep' : Deployment} (taken : DeploymentStep s seq op id dep dep')
    (unplanned : dep.state ≠ .planned)
    (issued : ∀ req device, op = .reserveDeployment req (some device) →
      id ≠ ⟨UInt64.ofNat seq⟩) :
    dep'.device = dep.device ∧ dep'.state ≠ .planned := by
  cases taken with
  | kept => exact ⟨rfl, unplanned⟩
  | fenced => exact ⟨rfl, by simp [LiveState.fenced]⟩
  | replaced reserves taken => exact absurd taken (issued _ _ reserves)
  | moved moves => exact ⟨rfl, by cases op <;> cases moves <;> simp⟩
  | activated => exact ⟨rfl, by simp⟩
  | committed => exact ⟨rfl, by simp⟩
  | ended ends => exact ⟨rfl, by cases op <;> cases ends <;> rintro ⟨⟩⟩

theorem Accepted.accounted {s s' : LiveState} {seq seq' : Nat} {op : Op}
    (accepted : Accepted s seq op s' seq') (room : seq' ≤ 2 ^ 64)
    (accounted : Accounted s seq) : Accounted s' seq' := by
  have entry : ∀ (id : DeploymentId) (dep' : Deployment), s'.deployments[id]? = some dep' →
      s.devices[dep'.device]?.isSome = true ∧ id.value.toNat < seq' ∧
        dep'.state ≠ .planned := by
    intro id dep' present'
    cases present : s.deployments[id]? with
    | none =>
        rcases accepted.deployment_of_absent present with
          gone | ⟨req, device, dev, svc, attempt, rfl, here, located, -, -, created⟩
        · rw [gone] at present'
          cases present'
        · rw [created] at present'
          cases present'
          have consumed := accepted.seq_lt_of_issues rfl
          refine ⟨by rw [reservedDeployment, located]; rfl, ?_, by simp [reservedDeployment]⟩
          rw [here, toNat_ofNat_of_lt (consumed.trans_le room)]
          exact consumed
    | some dep =>
        obtain ⟨found, present'', taken⟩ := accepted.deployment_of_present present
        rw [present''] at present'
        cases present'
        have below := accounted.issued id dep present
        obtain ⟨device, unplanned⟩ := taken.keepsPlace (accounted.unplanned id dep present) (by
          rintro req device rfl
          exact (ne_of_issued ((accepted.seq_lt_of_issues rfl).trans_le room) below).symm)
        exact ⟨by rw [device]; exact accounted.located id dep present,
          below.trans_le accepted.seq_le, unplanned⟩
  refine ⟨fun device => accepted.ledgered device (accounted.ledgered device), ?_,
    fun id dep' present' => (entry id dep' present').2.1,
    fun id dep' present' => (entry id dep' present').2.2⟩
  intro id dep' present'
  obtain ⟨dev, located⟩ := Option.isSome_iff_exists.mp (entry id dep' present').1
  rw [accepted.device_of_present located]
  rfl

/-- The call recovers from no file, reuses no identity and leaves sums that fit in 64 bits. -/
structure SumsFit (e : Engine) (op : Op) : Prop where
  ordinary : Engine.recovers op = false
  issued : (e.step op).idSeq ≤ 2 ^ 64
  below : SumsBelow (e.step op).state

theorem Accounted.step {e : Engine} {op : Op} (fits : SumsFit e op)
    (accounted : Accounted e.state e.idSeq) :
    Accounted (e.step op).state (e.step op).idSeq := by
  refine Engine.step_keeps (fun s seq => seq ≤ 2 ^ 64 → Accounted s seq) ?_ ?_ e
    fits.ordinary (fun _ => accounted) fits.issued
  · intro s seq seq' grows holds room
    have before := holds (grows.trans room)
    exact { before with
      issued := fun id dep present => (before.issued id dep present).trans_le grows }
  · exact fun accepted holds room =>
      accepted.accounted room (holds (accepted.seq_le.trans room))

/-- The calls of which each ended deployment's resources are given back once. -/
def GivesBackOnce (e : Engine) (op : Op) : Prop :=
  (∃ s seq, Accepted e.state e.idSeq op s seq) → ReleasesOnce e.state op

theorem Engine.conserved_step_iff {e : Engine} {op : Op} (single : Engine.isSingle op = true)
    (fits : SumsFit e op) (accounted : Accounted e.state e.idSeq)
    (conserved : Conserved e.state) :
    Conserved (e.step op).state ↔ GivesBackOnce e op := by
  have ordinary := fits.ordinary
  have plain : op.isPlain = true := by
    cases op with
    | runAllBackends discovered => cases single
    | recoverFrom file => cases ordinary
    | _ => rfl
  rcases Engine.step_cases e plain with ⟨s, seq, accepted, result⟩ | ⟨refused, quiet⟩
  · have accounted' := accounted.step fits
    have room := fits.issued
    have below := fits.below
    rw [result] at accounted' room below ⊢
    rw [accounted'.conserved_iff, accepted.balanced_iff room below accounted
      (accounted.conserved_iff.mp conserved)]
    exact ⟨fun releases _ => releases, fun releases => releases ⟨s, seq, accepted⟩⟩
  · rw [quiet.state]
    exact ⟨fun _ ⟨s, seq, accepted⟩ => absurd accepted (refused s seq), fun _ => conserved⟩

/-- A second deployment is reserved beside a first one, which fails and is rolled back. -/
def rolledBackRun : List Op :=
  Engine.sampleRun ++ [.reserveDeployment {} (some ⟨1⟩), .failDeployment ⟨1⟩ .backendError [],
    .rollbackDeployment ⟨1⟩]

/--
A retired device has given back what its deployment still holds; and a rollback
after a failure takes away what the other deployment holds.
-/
theorem resources_lost :
    ¬ Conserved (Engine.run Engine.sampleEngine
        (Engine.sampleRun ++ [.retireDevice ⟨1⟩])).state ∧
      ¬ Conserved (Engine.run Engine.sampleEngine rolledBackRun).state := by
  -- In both states one slot of the first device is held, and its ledger is empty.
  have unbalanced : ∀ s : LiveState, s.devices.contains ⟨1⟩ = true →
      s.ledgers[(⟨1⟩ : DeviceId)]?.map (fun ledger => ledger.used.slots) = some 0 →
      s.held ⟨1⟩ .slots = 1 → ¬ Conserved s := by
    intro s registered empty held conserved
    obtain ⟨dev, located⟩ := (OrderedMap.contains_eq_true_iff _ _).mp registered
    obtain ⟨ledger, present, balance⟩ := conserved ⟨1⟩ dev located
    rw [present] at empty
    have unused : ledger.used.slots = 0 := Option.some.inj empty
    have slots := balance .slots
    rw [held, Usage.amount, unused] at slots
    exact absurd slots (by decide)
  exact ⟨unbalanced _ (by decide) (by decide) (by decide),
    unbalanced _ (by decide) (by decide) (by decide)⟩

/--
Along runs without recovery from a file, with sums that fit in 64 bits, the
ledgers hold what the deployments hold after every single call exactly when no
call gives resources back that are still held, or gives them back again.
-/
theorem resources_conserved_iff (epoch : CoordinatorEpoch) (policy : Policy) (ops : List Op) :
    TransitionRun.Every Engine.step
        (Engine.EachCall fun e op => SumsFit e op ∧ Conserved (e.step op).state)
        (Engine.fresh epoch policy) ops ↔
      TransitionRun.Every Engine.step
        (Engine.EachCall fun e op => SumsFit e op ∧ GivesBackOnce e op)
        (Engine.fresh epoch policy) ops := by
  refine Engine.every_eachCall_iff
    (fun e => Accounted e.state e.idSeq ∧ Conserved e.state) ?_ ?_ ?_ ops
  · rintro e op single ⟨accounted, conserved⟩
    exact and_congr_right fun fits =>
      Engine.conserved_step_iff single fits accounted conserved
  · rintro e op single ⟨fits, conserved⟩ ⟨accounted, -⟩
    exact ⟨accounted.step fits, conserved⟩
  · refine ⟨?_, ?_⟩
    · constructor <;> simp [Engine.fresh]
    · simp [Engine.fresh, Conserved]

end DPUFabric
