import DPUFabric.Readiness

/-!
# Deployments and their activations

The two tables are linked by optional identities.  `Linked` is what holds of
the links whatever states the records are in; identities come from one
counter, so it holds as long as the counter does not wrap.  `Live` adds what
the states say about each other.
-/

namespace DPUFabric

open Std
open LiveState

/-! ## The links -/

/-- The links between the two tables; `seq` is the identity counter. -/
structure Linked (s : LiveState) (seq : Nat) : Prop where
  deploymentIds : ∀ (id : DeploymentId) (dep : Deployment),
    s.deployments[id]? = some dep → id.value.toNat < seq
  activationIds : ∀ (aid : ActivationId) (act : ActivationRecord),
    s.activations[aid]? = some act → aid.value.toNat < seq
  /-- Every activation counts in an activation generation of its deployment. -/
  owner : ∀ (aid : ActivationId) (act : ActivationRecord),
    s.activations[aid]? = some act →
      ∃ dep, s.deployments[act.deploymentId]? = some dep ∧
        act.activationGen.value.toNat ≤ dep.activationGen.value.toNat
  linked : ∀ (id : DeploymentId) (dep : Deployment) (aid : ActivationId),
    s.deployments[id]? = some dep → dep.activation = some aid →
      ∃ act, s.activations[aid]? = some act ∧ act.deploymentId = id
  /-- Each activation consumed an identity, so generations never saturate. -/
  counted : ∀ (id : DeploymentId) (dep : Deployment),
    s.deployments[id]? = some dep → dep.activationGen.value.toNat < seq
  increasing : ∀ (older newer : ActivationId) (first second : ActivationRecord),
    s.activations[older]? = some first → s.activations[newer]? = some second →
      first.deploymentId = second.deploymentId → older.value.toNat < newer.value.toNat →
        first.activationGen.value.toNat < second.activationGen.value.toNat

theorem Linked.mono {s : LiveState} {seq seq' : Nat} (grows : seq ≤ seq')
    (holds : Linked s seq) : Linked s seq' :=
  { holds with
    deploymentIds := fun id dep present =>
      (holds.deploymentIds id dep present).trans_le grows
    activationIds := fun aid act present =>
      (holds.activationIds aid act present).trans_le grows
    counted := fun id dep present => (holds.counted id dep present).trans_le grows }

/-- No activation is the current one of two deployments. -/
theorem Linked.link_unique {s : LiveState} {seq : Nat} (holds : Linked s seq)
    {left right : DeploymentId} {depLeft depRight : Deployment} {aid : ActivationId}
    (presentLeft : s.deployments[left]? = some depLeft)
    (presentRight : s.deployments[right]? = some depRight)
    (linkLeft : depLeft.activation = some aid) (linkRight : depRight.activation = some aid) :
    left = right := by
  obtain ⟨act, recorded, named⟩ := holds.linked left depLeft aid presentLeft linkLeft
  obtain ⟨act', recorded', named'⟩ := holds.linked right depRight aid presentRight linkRight
  rw [recorded] at recorded'
  cases recorded'
  exact named.symm.trans named'

def SameLink (dep' dep : Deployment) : Prop :=
  dep'.activation = dep.activation ∧ dep'.activationGen = dep.activationGen

def SameOwner (act' act : ActivationRecord) : Prop :=
  act'.deploymentId = act.deploymentId ∧ act'.activationGen = act.activationGen

/-- A change of the tables that keeps their keys, the links and the generations. -/
structure Relabels (s s' : LiveState) : Prop where
  deployments : ∀ id : DeploymentId, ∃ change : Deployment → Deployment,
    (∀ dep, SameLink (change dep) dep) ∧
      s'.deployments[id]? = s.deployments[id]?.map change
  activations : ∀ aid : ActivationId, ∃ change : ActivationRecord → ActivationRecord,
    (∀ act, SameOwner (change act) act) ∧
      s'.activations[aid]? = s.activations[aid]?.map change

namespace Relabels

variable {s s' : LiveState}

theorem deployment_after (relabels : Relabels s s') {id : DeploymentId} {dep : Deployment}
    (present : s.deployments[id]? = some dep) :
    ∃ dep', s'.deployments[id]? = some dep' ∧ SameLink dep' dep := by
  obtain ⟨change, keeps, same⟩ := relabels.deployments id
  exact ⟨change dep, by rw [same, present]; rfl, keeps dep⟩

theorem deployment_before (relabels : Relabels s s') {id : DeploymentId} {dep' : Deployment}
    (present : s'.deployments[id]? = some dep') :
    ∃ dep, s.deployments[id]? = some dep ∧ SameLink dep' dep := by
  obtain ⟨change, keeps, same⟩ := relabels.deployments id
  obtain ⟨dep, found, rfl⟩ := Option.map_eq_some_iff.mp (same.symm.trans present)
  exact ⟨dep, found, keeps dep⟩

theorem activation_after (relabels : Relabels s s') {aid : ActivationId}
    {act : ActivationRecord} (recorded : s.activations[aid]? = some act) :
    ∃ act', s'.activations[aid]? = some act' ∧ act'.deploymentId = act.deploymentId := by
  obtain ⟨change, keeps, same⟩ := relabels.activations aid
  exact ⟨change act, by rw [same, recorded]; rfl, (keeps act).1⟩

theorem activation_before (relabels : Relabels s s') {aid : ActivationId}
    {act' : ActivationRecord} (recorded : s'.activations[aid]? = some act') :
    ∃ act, s.activations[aid]? = some act ∧ SameOwner act' act := by
  obtain ⟨change, keeps, same⟩ := relabels.activations aid
  obtain ⟨act, found, rfl⟩ := Option.map_eq_some_iff.mp (same.symm.trans recorded)
  exact ⟨act, found, keeps act⟩

/-- Such a change keeps all links. -/
theorem linked (relabels : Relabels s s') {seq : Nat} (holds : Linked s seq) :
    Linked s' seq := by
  constructor
  · intro id dep' present'
    obtain ⟨dep, present, -, -⟩ := relabels.deployment_before present'
    exact holds.deploymentIds id dep present
  · intro aid act' recorded'
    obtain ⟨act, recorded, -, -⟩ := relabels.activation_before recorded'
    exact holds.activationIds aid act recorded
  · intro aid act' recorded'
    obtain ⟨act, recorded, named, generation⟩ := relabels.activation_before recorded'
    obtain ⟨dep, present, bound⟩ := holds.owner aid act recorded
    obtain ⟨dep', present', -, same⟩ := relabels.deployment_after present
    exact ⟨dep', by rw [named]; exact present', by rw [generation, same]; exact bound⟩
  · intro id dep' aid present' link
    obtain ⟨dep, present, same, -⟩ := relabels.deployment_before present'
    obtain ⟨act, recorded, named⟩ := holds.linked id dep aid present (same.symm.trans link)
    obtain ⟨act', recorded', named'⟩ := relabels.activation_after recorded
    exact ⟨act', recorded', named'.trans named⟩
  · intro id dep' present'
    obtain ⟨dep, present, -, same⟩ := relabels.deployment_before present'
    rw [same]
    exact holds.counted id dep present
  · intro older newer first' second' presentOlder presentNewer sameOwner earlier
    obtain ⟨first, foundOlder, namedOlder, genOlder⟩ := relabels.activation_before presentOlder
    obtain ⟨second, foundNewer, namedNewer, genNewer⟩ := relabels.activation_before presentNewer
    rw [genOlder, genNewer]
    exact holds.increasing older newer first second foundOlder foundNewer
      (namedOlder.symm.trans (sameOwner.trans namedNewer)) earlier

theorem map_modify {κ α : Type} {cmp : κ → κ → Ordering} [TransCmp cmp] [LawfulEqCmp cmp]
    [DecidableEq κ] (table : ExtTreeMap κ α cmp) (key probe : κ) {keeps : α → α → Prop}
    (same : ∀ value, keeps value value) {change : α → α}
    (kept : ∀ value, keeps (change value) value) :
    ∃ change' : α → α, (∀ value, keeps (change' value) value) ∧
      (table.modify key change)[probe]? = table[probe]?.map change' := by
  rw [OrderedMap.lookup_modify]
  split_ifs
  · exact ⟨change, kept, rfl⟩
  · exact ⟨id, same, by simp⟩

theorem of_swept {selects : Deployment → Bool}
    (deployments : s'.deployments =
      s.deployments.map fun _ dep => fencedWhere selects dep)
    (activations : s'.activations = s.staleActivations selects) :
    Relabels s s' := by
  constructor
  · intro id
    refine ⟨fencedWhere selects, fun dep => ?_, by rw [deployments, ExtTreeMap.getElem?_map]⟩
    unfold fencedWhere
    split_ifs <;> exact ⟨rfl, rfl⟩
  · intro aid
    rw [activations, lookup_staleActivations]
    split_ifs
    · exact ⟨marked .stale, fun act => ⟨rfl, rfl⟩, rfl⟩
    · exact ⟨id, fun act => ⟨rfl, rfl⟩, by simp⟩

theorem of_moved (s : LiveState) (id : DeploymentId) (target : DeploymentState) :
    Relabels s (s.doDeployTransition id target) where
  deployments _ := map_modify _ _ _ (fun _ => ⟨rfl, rfl⟩) fun _ => ⟨rfl, rfl⟩
  activations aid := ⟨fun act => act, fun _ => ⟨rfl, rfl⟩, by
    simp [LiveState.doDeployTransition, modifyDeployment]⟩

theorem of_committed (s : LiveState) (id : DeploymentId) (aid : ActivationId)
    (token : ActivationAuthority) : Relabels s (s.commitDeployment id aid token) where
  deployments _ := map_modify _ _ _ (fun _ => ⟨rfl, rfl⟩) fun _ => ⟨rfl, rfl⟩
  activations _ := map_modify _ _ _ (fun _ => ⟨rfl, rfl⟩) fun _ => ⟨rfl, rfl⟩

theorem of_ended (s : LiveState) (ending : Ending) (id : DeploymentId) (dep : Deployment) :
    Relabels s (s.endDeployment ending id dep) := by
  rw [endDeployment_eq]
  constructor
  · intro probe
    exact map_modify _ _ _ (fun _ => ⟨rfl, rfl⟩) fun _ => ⟨rfl, rfl⟩
  · intro aid
    have unmarked : ∃ change : ActivationRecord → ActivationRecord,
        (∀ act, SameOwner (change act) act) ∧
          s.activations[aid]? = s.activations[aid]?.map change :=
      ⟨fun act => act, fun _ => ⟨rfl, rfl⟩, by simp⟩
    dsimp only
    split_ifs
    · rw [OrderedMap.lookup_modifyLinked]
      split_ifs
      · exact ⟨marked ending.mark, fun act => ⟨rfl, rfl⟩, rfl⟩
      · exact unmarked
    · exact unmarked

end Relabels

/-! ## New entries -/

theorem toNat_ofNat_of_lt {seq : Nat} (room : seq < 2 ^ 64) :
    (UInt64.ofNat seq).toNat = seq := by
  simpa using Nat.mod_eq_of_lt room

/-- A fresh identity is not below the counter it was taken from. -/
theorem ne_of_issued {tag : IdTag} {id : Id tag} {seq : Nat} (room : seq < 2 ^ 64)
    (old : id.value.toNat < seq) : (⟨UInt64.ofNat seq⟩ : Id tag) ≠ id := by
  rintro rfl
  rw [toNat_ofNat_of_lt room] at old
  exact lt_irrefl seq old

theorem Linked.reserved {s : LiveState} {seq : Nat} (room : seq + 2 ≤ 2 ^ 64)
    {dep : Deployment} {charged : ResourceLedger}
    (issued : dep.deploymentId = ⟨UInt64.ofNat seq⟩) (unlinked : dep.activation = none)
    (uncounted : dep.activationGen = .null) (holds : Linked s seq) :
    Linked (s.reserveDeployment charged dep) (seq + 2) := by
  have wide : seq < 2 ^ 64 := by omega
  have apart : ∀ (id : DeploymentId) (old : Deployment),
      s.deployments[id]? = some old → dep.deploymentId ≠ id := by
    intro id old present
    rw [issued]
    exact ne_of_issued wide (holds.deploymentIds id old present)
  have lookup : ∀ id : DeploymentId,
      (s.reserveDeployment charged dep).deployments[id]? =
        if dep.deploymentId = id then some dep else s.deployments[id]? :=
    fun id => OrderedMap.lookup_insert _ _ _ _
  have grown := holds.mono (Nat.le_add_right seq 2)
  constructor
  · intro id found present
    rw [lookup] at present
    split_ifs at present with here
    · rw [← here, issued, toNat_ofNat_of_lt wide]
      omega
    · exact grown.deploymentIds id found present
  · exact grown.activationIds
  · intro aid act recorded
    obtain ⟨old, present, bound⟩ := holds.owner aid act recorded
    exact ⟨old, by rw [lookup, if_neg (apart _ _ present)]; exact present, bound⟩
  · intro id found aid present link
    rw [lookup] at present
    split_ifs at present with here
    · cases present
      rw [unlinked] at link
      cases link
    · exact holds.linked id found aid present link
  · intro id found present
    rw [lookup] at present
    split_ifs at present with here
    · cases present
      rw [uncounted]
      exact Nat.succ_pos _
    · exact grown.counted id found present
  · exact holds.increasing

theorem Linked.activated {s : LiveState} {seq : Nat} (room : seq + 1 ≤ 2 ^ 64)
    {id : DeploymentId} {dep : Deployment} (present : s.deployments[id]? = some dep)
    (holds : Linked s seq) :
    Linked ((s.doDeployTransition id .activating).activateDeployment id
      (pendingActivation dep id ⟨UInt64.ofNat seq⟩)) (seq + 1) := by
  have wide : seq < 2 ^ 64 := by omega
  have next : (nextGeneration dep.activationGen.value).toNat =
      dep.activationGen.value.toNat + 1 := by
    apply toNat_nextGeneration
    have counted := holds.counted id dep present
    omega
  have apart : ∀ (aid : ActivationId) (act : ActivationRecord),
      s.activations[aid]? = some act → (⟨UInt64.ofNat seq⟩ : ActivationId) ≠ aid :=
    fun aid act recorded => ne_of_issued wide (holds.activationIds aid act recorded)
  generalize result : (s.doDeployTransition id .activating).activateDeployment id
    (pendingActivation dep id ⟨UInt64.ofNat seq⟩) = s'
  have here : s'.deployments[id]? = some (dep.activating ⟨UInt64.ofNat seq⟩) := by
    rw [← result, deployments_activateDeployment present, if_pos rfl]
  have elsewhere : ∀ other : DeploymentId, id ≠ other →
      s'.deployments[other]? = s.deployments[other]? := by
    intro other differs
    rw [← result, deployments_activateDeployment present, if_neg differs]
  have recorded : ∀ aid : ActivationId, s'.activations[aid]? =
      if (⟨UInt64.ofNat seq⟩ : ActivationId) = aid then
        some (pendingActivation dep id ⟨UInt64.ofNat seq⟩)
      else s.activations[aid]? := by
    intro aid
    rw [← result, activations_activateDeployment]
    rfl
  constructor
  · intro other found lookup
    by_cases same : id = other
    · subst same
      exact (holds.deploymentIds id dep present).trans (Nat.lt_succ_self seq)
    · rw [elsewhere other same] at lookup
      exact (holds.deploymentIds other found lookup).trans (Nat.lt_succ_self seq)
  · intro aid act lookup
    rw [recorded] at lookup
    split_ifs at lookup with same
    · rw [← same, toNat_ofNat_of_lt wide]
      exact Nat.lt_succ_self seq
    · exact (holds.activationIds aid act lookup).trans (Nat.lt_succ_self seq)
  · intro aid act lookup
    rw [recorded] at lookup
    split_ifs at lookup with same
    · cases lookup
      exact ⟨_, here, le_rfl⟩
    · obtain ⟨old, found, bound⟩ := holds.owner aid act lookup
      by_cases mine : id = act.deploymentId
      · rw [← mine, present] at found
        cases found
        refine ⟨_, by rw [← mine]; exact here, ?_⟩
        simp only [Deployment.activating, next]
        omega
      · exact ⟨old, by rw [elsewhere _ mine]; exact found, bound⟩
  · intro other found aid lookup link
    by_cases same : id = other
    · subst same
      rw [here] at lookup
      cases lookup
      cases link
      exact ⟨_, by rw [recorded, if_pos rfl], rfl⟩
    · rw [elsewhere other same] at lookup
      obtain ⟨act, old, named⟩ := holds.linked other found aid lookup link
      exact ⟨act, by rw [recorded, if_neg (apart aid act old)]; exact old, named⟩
  · intro other found lookup
    by_cases same : id = other
    · subst same
      rw [here] at lookup
      cases lookup
      simp only [Deployment.activating, next]
      have counted := holds.counted id dep present
      omega
    · rw [elsewhere other same] at lookup
      exact (holds.counted other found lookup).trans (Nat.lt_succ_self seq)
  · intro older newer first second lookupOlder lookupNewer sameOwner earlier
    rw [recorded] at lookupOlder lookupNewer
    split_ifs at lookupNewer with newest
    · cases lookupNewer
      -- The newest record counts one past every record of its deployment.
      have differs : (⟨UInt64.ofNat seq⟩ : ActivationId) ≠ older := by
        rintro rfl
        rw [← newest] at earlier
        exact lt_irrefl _ earlier
      rw [if_neg differs] at lookupOlder
      obtain ⟨old, found, bound⟩ := holds.owner older first lookupOlder
      rw [sameOwner] at found
      have same : old = dep := by
        rw [pendingActivation, present] at found
        exact (Option.some.inj found).symm
      rw [same] at bound
      simp only [pendingActivation, next]
      omega
    · split_ifs at lookupOlder with oldest
      · have later := holds.activationIds newer second lookupNewer
        rw [← oldest, toNat_ofNat_of_lt wide] at earlier
        omega
      · exact holds.increasing older newer first second lookupOlder lookupNewer sameOwner
          earlier

theorem Accepted.linked {s s' : LiveState} {seq seq' : Nat} {op : Op}
    (accepted : Accepted s seq op s' seq') (room : seq' ≤ 2 ^ 64) (holds : Linked s seq) :
    Linked s' seq' := by
  cases accepted.shape with
  | swept deployments activations =>
      exact (Relabels.of_swept deployments activations).linked holds
  | reserved present ready offered accounted made admitted =>
      subst made
      exact holds.reserved room rfl rfl rfl
  | moved moves present valid => exact (Relabels.of_moved _ _ _).linked holds
  | activated present valid => exact holds.activated room present
  | committed present activating located ready current linked recorded =>
      exact (Relabels.of_committed _ _ _ _).linked holds
  | ended ends present allowed => exact (Relabels.of_ended _ _ _ _).linked holds

/-! ## The states -/

/-- The token of an active deployment repeats the deployment's own fields. -/
structure Matches (dep : Deployment) (token : ActivationAuthority) : Prop where
  device : token.device = dep.device
  deviceBoot : token.deviceBoot = dep.deviceBoot
  deviceGen : token.deviceGen = dep.deviceGen
  serviceGen : token.serviceGen = dep.serviceGen
  programGen : token.programGen = dep.programGen
  deploymentGen : token.deploymentGen = dep.generation
  activationGen : token.activationGen = dep.activationGen
  epoch : token.epoch = dep.epoch

/-- What the states of the two tables say about each other. -/
structure Live (s : LiveState) : Prop where
  running : ∀ (id : DeploymentId) (dep : Deployment),
    s.deployments[id]? = some dep → dep.state = .activating ∨ dep.state = .active →
      ∃ aid, dep.activation = some aid
  granted : ∀ (id : DeploymentId) (dep : Deployment) (aid : ActivationId)
      (act : ActivationRecord),
    s.deployments[id]? = some dep → dep.state = .active → dep.activation = some aid →
      s.activations[aid]? = some act → act.state = .active ∧ Matches dep act.authority
  current : ∀ (aid : ActivationId) (act : ActivationRecord),
    s.activations[aid]? = some act → act.state = .active →
      ∃ dep, s.deployments[act.deploymentId]? = some dep ∧
        dep.activation = some aid ∧ dep.state = .active

namespace Live

variable {s s' : LiveState} {seq : Nat}

theorem swept (linked : Linked s seq) (holds : Live s) {selects : Deployment → Bool}
    (deployments : s'.deployments =
      s.deployments.map fun _ dep => fencedWhere selects dep)
    (activations : s'.activations = s.staleActivations selects) :
    Live s' := by
  -- A deployment which is not revalidation-required after the loop was not selected.
  have before : ∀ (id : DeploymentId) (dep' : Deployment), s'.deployments[id]? = some dep' →
      dep'.state ≠ .revalidationRequired →
        s.deployments[id]? = some dep' ∧ selects dep' = false := by
    intro id dep' present running
    rw [deployments, ExtTreeMap.getElem?_map] at present
    obtain ⟨dep, found, rfl⟩ := Option.map_eq_some_iff.mp present
    by_cases chosen : selects dep = true
    · exact absurd (by simp [fencedWhere, chosen, fenced]) running
    · have kept : fencedWhere selects dep = dep := by simp [fencedWhere, chosen]
      rw [kept]
      exact ⟨found, by simpa using chosen⟩
  constructor
  · intro id dep' present state
    obtain ⟨found, -⟩ := before id dep' present (by rcases state with same | same <;> simp [same])
    exact holds.running id dep' found state
  · intro id dep' aid act' present active link recorded
    obtain ⟨found, unselected⟩ := before id dep' present (by simp [active])
    rw [activations, lookup_staleActivations] at recorded
    split_ifs at recorded with reached
    · obtain ⟨other, dep, present', chosen, link'⟩ := reached
      have same := linked.link_unique found present' link link'
      rw [same, present'] at found
      cases found
      rw [chosen] at unselected
      cases unselected
    · exact holds.granted id dep' aid act' found active link recorded
  · intro aid act' recorded active
    rw [activations, lookup_staleActivations] at recorded
    split_ifs at recorded with reached
    · obtain ⟨act, -, rfl⟩ := Option.map_eq_some_iff.mp recorded
      simp [marked] at active
    · obtain ⟨dep, present, link, running⟩ := holds.current aid act' recorded active
      have unselected : fencedWhere selects dep = dep := by
        have notChosen : ¬ selects dep = true := fun chosen =>
          reached ⟨_, dep, present, chosen, link⟩
        simp [fencedWhere, notChosen]
      refine ⟨dep, ?_, link, running⟩
      rw [deployments, ExtTreeMap.getElem?_map, present, Option.map_some, unselected]

/-- Writing one deployment that is not live, before and after, and no live activation. -/
theorem of_idle_write (holds : Live s) {id : DeploymentId} {dep : Deployment}
    (dep' : Deployment) (present : s.deployments[id]? = some dep) (idle : dep.state ≠ .active)
    (idle' : dep'.state ≠ .active)
    (running : dep'.state = .activating → ∃ aid, dep'.activation = some aid)
    (here : s'.deployments[id]? = some dep')
    (elsewhere : ∀ other : DeploymentId, id ≠ other →
      s'.deployments[other]? = s.deployments[other]?)
    (recorded : ∀ (aid : ActivationId) (act : ActivationRecord),
      s'.activations[aid]? = some act → act.state = .active →
        s.activations[aid]? = some act)
    (kept : ∀ (other : DeploymentId) (old : Deployment) (aid : ActivationId)
        (act : ActivationRecord),
      id ≠ other → s.deployments[other]? = some old → old.activation = some aid →
        s'.activations[aid]? = some act → s.activations[aid]? = some act) :
    Live s' := by
  constructor
  · intro other found lookup state
    by_cases same : id = other
    · subst same
      rw [here] at lookup
      cases lookup
      rcases state with activating | active
      · exact running activating
      · exact absurd active idle'
    · rw [elsewhere other same] at lookup
      exact holds.running other found lookup state
  · intro other found aid act lookup active link recorded'
    by_cases same : id = other
    · subst same
      rw [here] at lookup
      cases lookup
      exact absurd active idle'
    · rw [elsewhere other same] at lookup
      exact holds.granted other found aid act lookup active link
        (kept other found aid act same lookup link recorded')
  · intro aid act recorded' active
    obtain ⟨old, found, link, state⟩ :=
      holds.current aid act (recorded aid act recorded' active) active
    have differs : id ≠ act.deploymentId := by
      rintro same
      rw [← same, present] at found
      cases found
      exact idle state
    exact ⟨old, by rw [elsewhere _ differs]; exact found, link, state⟩

theorem moved (holds : Live s) {op : Op} {id : DeploymentId} {target : DeploymentState}
    {dep : Deployment} (moves : op.moves = some (id, target))
    (present : s.deployments[id]? = some dep)
    (valid : validDeploymentTransition dep.state target = true) :
    Live (s.doDeployTransition id target) := by
  have facts : target ≠ .active ∧ target ≠ .activating ∧ dep.state ≠ .active := by
    have idle : ∀ state, state = .staging ∨ state = .loaded ∨ state = .validating →
        validDeploymentTransition .active state = false := by
      rintro state (rfl | rfl | rfl) <;> rfl
    cases op <;> cases moves <;>
      exact ⟨by decide, by decide, fun active => by
        rw [active, idle _ (by simp)] at valid; cases valid⟩
  obtain ⟨notActive, notActivating, idle⟩ := facts
  refine holds.of_idle_write
    { dep with state := target, authoritative := target == .active } present idle
    notActive (fun activating => absurd activating notActivating) ?_ ?_
    (fun _ _ recorded _ => recorded) (fun _ _ _ _ _ _ _ recorded => recorded)
  · simp [LiveState.doDeployTransition, modifyDeployment, present]
  · intro other differs
    simp [LiveState.doDeployTransition, modifyDeployment, OrderedMap.lookup_modify, differs]

theorem reserved (linked : Linked s seq) (holds : Live s) (room : seq + 2 ≤ 2 ^ 64)
    {dep : Deployment} {charged : ResourceLedger}
    (issued : dep.deploymentId = ⟨UInt64.ofNat seq⟩) (state : dep.state = .reserved) :
    Live (s.reserveDeployment charged dep) := by
  have wide : seq < 2 ^ 64 := by omega
  have lookup : ∀ id : DeploymentId,
      (s.reserveDeployment charged dep).deployments[id]? =
        if dep.deploymentId = id then some dep else s.deployments[id]? :=
    fun id => OrderedMap.lookup_insert _ _ _ _
  constructor
  · intro id found present running
    rw [lookup] at present
    split_ifs at present
    · cases present
      simp [state] at running
    · exact holds.running id found present running
  · intro id found aid act present active link recorded
    rw [lookup] at present
    split_ifs at present
    · cases present
      simp [state] at active
    · exact holds.granted id found aid act present active link recorded
  · intro aid act recorded active
    obtain ⟨old, found, link, running⟩ := holds.current aid act recorded active
    have differs : dep.deploymentId ≠ act.deploymentId := by
      rw [issued]
      exact ne_of_issued wide (linked.deploymentIds _ old found)
    exact ⟨old, by rw [lookup, if_neg differs]; exact found, link, running⟩

theorem activated (linked : Linked s seq) (holds : Live s) (room : seq + 1 ≤ 2 ^ 64)
    {id : DeploymentId} {dep : Deployment} (present : s.deployments[id]? = some dep)
    (valid : validDeploymentTransition dep.state .activating = true) :
    Live ((s.doDeployTransition id .activating).activateDeployment id
      (pendingActivation dep id ⟨UInt64.ofNat seq⟩)) := by
  have wide : seq < 2 ^ 64 := by omega
  have idle : dep.state ≠ .active := by
    intro active
    rw [active] at valid
    cases valid
  have recorded : ∀ (aid : ActivationId) (act : ActivationRecord),
      ((s.doDeployTransition id .activating).activateDeployment id
        (pendingActivation dep id ⟨UInt64.ofNat seq⟩)).activations[aid]? = some act →
        ⟨UInt64.ofNat seq⟩ = aid ∧ act.state = .pending ∨ s.activations[aid]? = some act := by
    intro aid act lookup
    rw [activations_activateDeployment] at lookup
    split_ifs at lookup with newest
    · cases lookup
      exact Or.inl ⟨newest, rfl⟩
    · exact Or.inr lookup
  refine holds.of_idle_write (dep.activating ⟨UInt64.ofNat seq⟩) present idle
    nofun (fun _ => ⟨_, rfl⟩) ?_ ?_ ?_ ?_
  · rw [deployments_activateDeployment present, if_pos rfl]
  · intro other differs
    rw [deployments_activateDeployment present, if_neg differs]
  · intro aid act lookup active
    rcases recorded aid act lookup with ⟨-, pending⟩ | old
    · rw [pending] at active
      cases active
    · exact old
  · intro other old aid act differs found link lookup
    rcases recorded aid act lookup with ⟨newest, -⟩ | kept
    · obtain ⟨act', recorded', -⟩ := linked.linked other old aid found link
      exact absurd newest (ne_of_issued wide (linked.activationIds aid act' recorded'))
    · exact kept

theorem committed (linked : Linked s seq) (holds : Live s)
    {id : DeploymentId} {dep : Deployment} {dev : DeviceRecord} {aid : ActivationId}
    {act : ActivationRecord} (present : s.deployments[id]? = some dep)
    (activating : dep.state = .activating) (link : dep.activation = some aid)
    (recorded : s.activations[aid]? = some act) :
    Live (s.commitDeployment id aid (s.grantedAuthority dep dev)) := by
  generalize result : s.commitDeployment id aid (s.grantedAuthority dep dev) = s'
  have here : s'.deployments[id]? = some { dep with
      state := .active, authoritative := true, epoch := s.epoch } := by
    rw [← result, deployments_commitDeployment present, if_pos rfl]
  have elsewhere : ∀ other : DeploymentId, id ≠ other →
      s'.deployments[other]? = s.deployments[other]? := by
    intro other differs
    rw [← result, deployments_commitDeployment present, if_neg differs]
  have granted : s'.activations[aid]? = some { act with
      authority := s.grantedAuthority dep dev, state := .active
      reason := text "committed" } := by
    rw [← result, activations_commitDeployment recorded, if_pos rfl]
  have others : ∀ probe : ActivationId, aid ≠ probe →
      s'.activations[probe]? = s.activations[probe]? := by
    intro probe differs
    rw [← result, activations_commitDeployment recorded, if_neg differs]
  obtain ⟨act', recorded', named⟩ := linked.linked id dep aid present link
  have owned : act.deploymentId = id := by
    rw [recorded] at recorded'
    cases recorded'
    exact named
  constructor
  · intro other found lookup state
    by_cases same : id = other
    · subst same
      rw [here] at lookup
      cases lookup
      exact ⟨aid, link⟩
    · rw [elsewhere other same] at lookup
      exact holds.running other found lookup state
  · intro other found aid' act'' lookup active link' recorded''
    by_cases same : id = other
    · subst same
      rw [here] at lookup
      cases lookup
      have sameLink : aid = aid' := Option.some.inj (link.symm.trans link')
      subst sameLink
      rw [granted] at recorded''
      cases recorded''
      exact ⟨rfl, ⟨rfl, rfl, rfl, rfl, rfl, rfl, rfl, rfl⟩⟩
    · rw [elsewhere other same] at lookup
      have differs : aid ≠ aid' := by
        rintro rfl
        exact same (linked.link_unique present lookup link link')
      rw [others aid' differs] at recorded''
      exact holds.granted other found aid' act'' lookup active link' recorded''
  · intro probe act'' recorded'' active
    by_cases same : aid = probe
    · subst same
      rw [granted] at recorded''
      cases recorded''
      exact ⟨{ dep with state := .active, authoritative := true, epoch := s.epoch },
        by rw [← here, ← owned], link, rfl⟩
    · rw [others probe same] at recorded''
      obtain ⟨old, found, link', running⟩ := holds.current probe act'' recorded'' active
      have differs : id ≠ act''.deploymentId := by
        rintro rfl
        rw [present] at found
        cases found
        rw [activating] at running
        cases running
      exact ⟨old, by rw [elsewhere _ differs]; exact found, link', running⟩

end Live

/-- An ending that accepts an active deployment marks its activation. -/
theorem Op.ends_marks_active {op : Op} {id : DeploymentId} {ending : Ending}
    (ends : op.ends = some (id, ending)) :
    ending.mark ≠ .active ∧ ending.target ≠ .active ∧ ending.target ≠ .activating ∧
      (ending.allows .active = true → ending.marks .active = true) := by
  cases op <;> cases ends <;> decide

theorem Live.ended {s : LiveState} {seq : Nat} (linked : Linked s seq) (holds : Live s)
    {op : Op} {id : DeploymentId} {ending : Ending} {dep : Deployment}
    (ends : op.ends = some (id, ending)) (present : s.deployments[id]? = some dep)
    (allowed : ending.allows dep.state = true) :
    Live (s.endDeployment ending id dep) := by
  obtain ⟨markIdle, targetIdle, targetNotActivating, marksActive⟩ := Op.ends_marks_active ends
  rw [endDeployment_eq]
  generalize result : (if ending.marks dep.state = true then
      OrderedMap.modifyLinked s.activations dep.activation (marked ending.mark)
    else s.activations) = activations'
  -- Only the deployment's own activation can have been marked.
  have lookup : ∀ aid : ActivationId, activations'[aid]? =
      if ending.marks dep.state = true ∧ dep.activation = some aid then
        s.activations[aid]?.map (marked ending.mark)
      else s.activations[aid]? := by
    intro aid
    rw [← result]
    by_cases marking : ending.marks dep.state = true
    · simp [marking, OrderedMap.lookup_modifyLinked]
    · simp [marking]
  have others : ∀ (other : DeploymentId) (old : Deployment) (aid : ActivationId),
      id ≠ other → s.deployments[other]? = some old → old.activation = some aid →
        activations'[aid]? = s.activations[aid]? := by
    intro other old aid differs found link
    rw [lookup, if_neg]
    rintro ⟨-, link'⟩
    exact differs (linked.link_unique present found link' link)
  have unmarked : ∀ (aid : ActivationId) (act : ActivationRecord),
      activations'[aid]? = some act → act.state = .active →
        s.activations[aid]? = some act ∧
          ¬ (ending.marks dep.state = true ∧ dep.activation = some aid) := by
    intro aid act recorded active
    rw [lookup] at recorded
    split_ifs at recorded with touched
    · obtain ⟨old, -, rfl⟩ := Option.map_eq_some_iff.mp recorded
      exact absurd active markIdle
    · exact ⟨recorded, touched⟩
  constructor
  · intro other found lookup' state
    simp only [OrderedMap.lookup_modify] at lookup'
    split_ifs at lookup' with same
    · obtain ⟨old, -, rfl⟩ := Option.map_eq_some_iff.mp lookup'
      rcases state with activating | active
      · exact absurd activating targetNotActivating
      · exact absurd active targetIdle
    · exact holds.running other found lookup' state
  · intro other found aid act lookup' active link recorded
    simp only [OrderedMap.lookup_modify] at lookup'
    split_ifs at lookup' with same
    · obtain ⟨old, -, rfl⟩ := Option.map_eq_some_iff.mp lookup'
      exact absurd active targetIdle
    · refine holds.granted other found aid act lookup' active link ?_
      rw [← others other found aid same lookup' link]
      exact recorded
  · intro aid act recorded active
    obtain ⟨old, notMarked⟩ := unmarked aid act recorded active
    obtain ⟨owner, found, link, running⟩ := holds.current aid act old active
    have differs : id ≠ act.deploymentId := by
      rintro rfl
      rw [present] at found
      cases found
      rw [running] at allowed notMarked
      exact notMarked ⟨marksActive allowed, link⟩
    exact ⟨owner, by simpa [OrderedMap.lookup_modify, differs] using found, link, running⟩

theorem Accepted.live {s s' : LiveState} {seq seq' : Nat} {op : Op}
    (accepted : Accepted s seq op s' seq') (room : seq' ≤ 2 ^ 64)
    (linked : Linked s seq) (holds : Live s) :
    Live s' := by
  cases accepted.shape with
  | swept deployments activations => exact holds.swept linked deployments activations
  | reserved present ready offered accounted made admitted =>
      subst made
      exact holds.reserved linked room rfl rfl
  | moved moves present valid => exact holds.moved moves present valid
  | activated present valid => exact holds.activated linked room present valid
  | committed present activating located ready current link recorded =>
      exact holds.committed linked present activating link recorded
  | ended ends present allowed => exact holds.ended linked ends present allowed

/-! ## Runs -/

theorem Linked.fresh {epoch : CoordinatorEpoch} {policy : Policy} :
    Linked (Engine.fresh epoch policy).state (Engine.fresh epoch policy).idSeq := by
  constructor <;> simp [Engine.fresh]

theorem Linked.step {e : Engine} {op : Op} (linked : Linked e.state e.idSeq)
    (ordinary : Engine.recovers op = false) (room : (e.step op).idSeq ≤ 2 ^ 64) :
    Linked (e.step op).state (e.step op).idSeq := by
  refine Engine.step_keeps (fun s seq => seq ≤ 2 ^ 64 → Linked s seq) ?_ ?_ e ordinary
    (fun _ => linked) room
  · exact fun grows holds room => (holds (grows.trans room)).mono grows
  · exact fun accepted holds room =>
      accepted.linked room (holds (accepted.seq_le.trans room))

/-- `Linked` and `Live`, as long as the identity counter has not wrapped. -/
theorem Engine.linked_run (epoch : CoordinatorEpoch) (policy : Policy) {ops : List Op}
    (ordinary : ∀ op ∈ ops, Engine.recovers op = false)
    (room : (Engine.run (Engine.fresh epoch policy) ops).idSeq ≤ 2 ^ 64) :
    Linked (Engine.run (Engine.fresh epoch policy) ops).state
        (Engine.run (Engine.fresh epoch policy) ops).idSeq ∧
      Live (Engine.run (Engine.fresh epoch policy) ops).state := by
  refine TransitionRun.run_invariant (P := fun _ op => Engine.recovers op = false)
    (fun e : Engine => e.idSeq ≤ 2 ^ 64 → Linked e.state e.idSeq ∧ Live e.state)
    ?_ ?_ (TransitionRun.every_of_forall_mem _ ordinary) room
  · intro e op ordinary holds
    refine Engine.step_keeps (fun s seq => seq ≤ 2 ^ 64 → Linked s seq ∧ Live s)
      ?_ ?_ e ordinary holds
    · intro s seq seq' grows holds room
      obtain ⟨linked, live⟩ := holds (grows.trans room)
      exact ⟨linked.mono grows, live⟩
    · intro s s' seq seq' op accepted holds room
      obtain ⟨linked, live⟩ := holds (accepted.seq_le.trans room)
      exact ⟨accepted.linked room linked, accepted.live room linked live⟩
  · exact fun _ => ⟨.fresh, by constructor <;> simp [Engine.fresh]⟩

/-- An activation appears only for a deployment, under the identity that its call consumes. -/
theorem Accepted.activation_of_absent {s s' : LiveState} {seq seq' : Nat} {op : Op}
    (accepted : Accepted s seq op s' seq') {aid : ActivationId} {act : ActivationRecord}
    (absent : s.activations[aid]? = none) (recorded : s'.activations[aid]? = some act) :
    aid = ⟨UInt64.ofNat seq⟩ ∧ seq < seq' ∧
      ∃ (id : DeploymentId) (dep : Deployment), s.deployments[id]? = some dep := by
  have kept : ∀ {s' : LiveState}, Relabels s s' → s'.activations[aid]? = some act →
      aid = ⟨UInt64.ofNat seq⟩ ∧ seq < seq' ∧
        ∃ (id : DeploymentId) (dep : Deployment), s.deployments[id]? = some dep := by
    intro s' relabels recorded
    obtain ⟨act', found, -⟩ := relabels.activation_before recorded
    rw [absent] at found
    cases found
  cases accepted.shape with
  | swept deployments activations => exact kept (.of_swept deployments activations) recorded
  | reserved =>
      rw [LiveState.reserveDeployment, absent] at recorded
      cases recorded
  | moved => exact kept (.of_moved _ _ _) recorded
  | activated present valid =>
      have same := recorded.symm.trans (OrderedMap.lookup_insert _ _ _ _)
      split_ifs at same with newest
      · exact ⟨newest.symm, Nat.lt_succ_self seq, _, _, present⟩
      · exact absurd (same.trans absent) (by simp)
  | committed => exact kept (.of_committed _ _ _ _) recorded
  | ended => exact kept (.of_ended _ _ _ _) recorded

/-- An activation stays in the table. -/
theorem Accepted.activation_of_present {s s' : LiveState} {seq seq' : Nat} {op : Op}
    (accepted : Accepted s seq op s' seq') {aid : ActivationId} {act : ActivationRecord}
    (recorded : s.activations[aid]? = some act) : ∃ act', s'.activations[aid]? = some act' := by
  have kept : ∀ {s' : LiveState}, Relabels s s' → ∃ act', s'.activations[aid]? = some act' := by
    intro s' relabels
    rcases relabels.activation_after recorded with ⟨act', recorded', -⟩
    exact ⟨act', recorded'⟩
  cases accepted.shape with
  | swept deployments activations => exact kept (.of_swept deployments activations)
  | reserved => exact ⟨act, recorded⟩
  | moved => exact kept (.of_moved _ _ _)
  | activated =>
      rename_i id dep present valid
      by_cases newest : (⟨UInt64.ofNat seq⟩ : ActivationId) = aid
      · exact ⟨_, (OrderedMap.lookup_insert _ _ _ _).trans (if_pos newest)⟩
      · exact ⟨act, ((OrderedMap.lookup_insert _ _ _ _).trans (if_neg newest)).trans recorded⟩
  | committed => exact kept (.of_committed _ _ _ _)
  | ended => exact kept (.of_ended _ _ _ _)

/-- An activation made after a point of a run has an identity issued after it. -/
theorem Engine.activation_issued_later {e : Engine} {ops : List Op}
    (ordinary : ∀ op ∈ ops, Engine.recovers op = false)
    (room : (Engine.run e ops).idSeq ≤ 2 ^ 64) {aid : ActivationId} {act : ActivationRecord}
    (absent : e.state.activations[aid]? = none)
    (recorded : (Engine.run e ops).state.activations[aid]? = some act) :
    e.idSeq ≤ aid.value.toNat := by
  let issuedLater (s : LiveState) (seq : Nat) : Prop :=
    e.idSeq ≤ seq ∧ (seq ≤ 2 ^ 64 → s.activations[aid]? ≠ none → e.idSeq ≤ aid.value.toNat)
  have later : issuedLater (Engine.run e ops).state (Engine.run e ops).idSeq := by
    refine TransitionRun.run_invariant (P := fun _ op => Engine.recovers op = false)
      (fun e' : Engine => issuedLater e'.state e'.idSeq) ?_ ?_
      (TransitionRun.every_of_forall_mem _ ordinary)
    · intro e' op ordinary holds
      refine Engine.step_keeps issuedLater ?_ ?_ e' ordinary holds
      · intro s seq seq' grows holds
        exact ⟨holds.1.trans grows, fun room => holds.2 (grows.trans room)⟩
      · intro s s' seq seq' op accepted holds
        refine ⟨holds.1.trans accepted.seq_le, fun room present => ?_⟩
        obtain ⟨act', recorded⟩ := Option.ne_none_iff_exists'.mp present
        by_cases absent : s.activations[aid]? = none
        · obtain ⟨rfl, consumed, -⟩ := accepted.activation_of_absent absent recorded
          rw [toNat_ofNat_of_lt (consumed.trans_le room)]
          exact holds.1
        · exact holds.2 (accepted.seq_le.trans room) absent
    · exact ⟨le_rfl, fun _ present => absurd absent present⟩
  exact later.2 room (by simp [recorded])

/-- Deployments and activations correspond. -/
structure Corresponds (s : LiveState) : Prop where
  running : ∀ (id : DeploymentId) (dep : Deployment),
    s.deployments[id]? = some dep → dep.state = .activating ∨ dep.state = .active →
      ∃ (aid : ActivationId) (act : ActivationRecord), dep.activation = some aid ∧
        s.activations[aid]? = some act ∧ act.deploymentId = id ∧
        (dep.state = .active → act.state = .active ∧ Matches dep act.authority)
  current : ∀ (aid : ActivationId) (act : ActivationRecord),
    s.activations[aid]? = some act → act.state = .active →
      ∃ dep, s.deployments[act.deploymentId]? = some dep ∧
        dep.activation = some aid ∧ dep.state = .active

theorem Linked.corresponds {s : LiveState} {seq : Nat} (linked : Linked s seq)
    (live : Live s) : Corresponds s where
  running id dep present state := by
    obtain ⟨aid, link⟩ := live.running id dep present state
    obtain ⟨act, recorded, named⟩ := linked.linked id dep aid present link
    exact ⟨aid, act, link, recorded, named, fun active =>
      live.granted id dep aid act present active link recorded⟩
  current := live.current

/-- So a deployment never has two live activations. -/
theorem Corresponds.live_unique {s : LiveState} (corresponds : Corresponds s)
    {left right : ActivationId} {first second : ActivationRecord}
    (recordedLeft : s.activations[left]? = some first)
    (recordedRight : s.activations[right]? = some second)
    (activeLeft : first.state = .active) (activeRight : second.state = .active)
    (same : first.deploymentId = second.deploymentId) :
    left = right := by
  obtain ⟨dep, present, link, -⟩ := corresponds.current left first recordedLeft activeLeft
  obtain ⟨dep', present', link', -⟩ := corresponds.current right second recordedRight activeRight
  rw [same, present'] at present
  cases present
  exact Option.some.inj (link.symm.trans link')

/-- Of two activations of one deployment, the one made later counts higher. -/
def GenerationsIncrease (e : Engine) (ops : List Op) : Prop :=
  ∀ (before after : List Op) (older newer : ActivationId) (first second : ActivationRecord),
    ops = before ++ after →
      (Engine.run e before).state.activations[older]?.isSome = true →
      (Engine.run e before).state.activations[newer]? = none →
      (Engine.run e ops).state.activations[older]? = some first →
      (Engine.run e ops).state.activations[newer]? = some second →
      first.deploymentId = second.deploymentId →
        first.activationGen.value < second.activationGen.value

/--
In every state that calls other than `recover_from` reach, with fewer than
`2 ^ 64` identities issued, deployments and activations correspond, and the
activations of a deployment count up in the order they are made in.
-/
theorem correspondence_run (epoch : CoordinatorEpoch) (policy : Policy) (ops : List Op)
    (ordinary : ∀ op ∈ ops, Engine.recovers op = false)
    (room : (Engine.run (Engine.fresh epoch policy) ops).idSeq ≤ 2 ^ 64) :
    Corresponds (Engine.run (Engine.fresh epoch policy) ops).state ∧
      GenerationsIncrease (Engine.fresh epoch policy) ops := by
  obtain ⟨linked, live⟩ := Engine.linked_run epoch policy ordinary room
  refine ⟨linked.corresponds live, ?_⟩
  rintro before after older newer first second rfl made unmade recorded recorded' same
  rw [Engine.run_append] at room recorded recorded' linked
  have room' := (TransitionRun.run_mono Engine.idSeq Engine.idSeq_le_step _ _).trans room
  obtain ⟨linkedBefore, -⟩ := Engine.linked_run epoch policy
    (fun op member => ordinary op (List.mem_append_left after member)) room'
  obtain ⟨old, present⟩ := Option.isSome_iff_exists.mp made
  have earlier := linkedBefore.activationIds older old present
  have later := Engine.activation_issued_later
    (fun op member => ordinary op (List.mem_append_right before member)) room unmade recorded'
  exact linked.increasing older newer first second recorded recorded' same
    (earlier.trans_le later)

/-- A run that fences an active deployment and activates it again. -/
theorem correspondence_run_sample :
    Corresponds (Engine.run (Engine.fresh ⟨1⟩ (Policy.defaults ⟨1⟩))
        (Engine.sampleRun ++ ([.fenceDevice ⟨1⟩ [], .validateDeployment ⟨1⟩,
          .activateDeployment ⟨1⟩] : List Op))).state ∧
      GenerationsIncrease (Engine.fresh ⟨1⟩ (Policy.defaults ⟨1⟩))
        (Engine.sampleRun ++ ([.fenceDevice ⟨1⟩ [], .validateDeployment ⟨1⟩,
          .activateDeployment ⟨1⟩] : List Op)) :=
  correspondence_run _ _ _ (by decide) (by decide)

end DPUFabric
