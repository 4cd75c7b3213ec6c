import DPUFabric.Correspondence
import DPUFabric.Recovery

/-!
# Authority and the world it was granted in

A token records the epoch, the device's boot and generations and the program's
generation it was granted under.  Nothing compares it again: the calls that
change one of these find no deployment to fence.  `keepsContext` says, for each
call and each deployment, when the call leaves the deployment's context as it
was; authority stays current along a run exactly when every call does so for
every authoritative deployment, and every commit finds the device of the
reservation.
-/

namespace DPUFabric

open Std
open LiveState

/-! ## Current tokens -/

/-- What a token is compared with; where the state knows nothing, the token's own value. -/
def LiveState.contextOf (s : LiveState) (dep : Deployment) (dev : DeviceRecord)
    (token : ActivationAuthority) : AuthorityContext :=
  { epoch := s.epoch
    workerBoot := token.workerBoot
    worker := token.worker
    deviceBoot := dev.bootId
    deviceGen := dev.generation
    serviceGen := token.serviceGen
    programGen :=
      if dep.program = .null then token.programGen
      else s.currentProgramGen.getD dep.program .null
    deploymentGen := token.deploymentGen
    activationGen := token.activationGen
    policyGen := token.policyGen
    evidenceGen := dev.evidenceGen }

/-- The token is current, on a registered device and for a program that has a generation. -/
def LiveState.Honours (s : LiveState) (dep : Deployment) (token : ActivationAuthority) :
    Prop :=
  (dep.program ≠ .null → s.currentProgramGen[dep.program]?.isSome = true) ∧
    ∃ dev, s.devices[dep.device]? = some dev ∧
      token.isCurrent (s.contextOf dep dev token) = true

/-- No authoritative deployment holds a token that is not current. -/
def AuthorityCurrent (s : LiveState) : Prop :=
  ∀ (id : DeploymentId) (dep : Deployment),
    s.deployments[id]? = some dep → dep.authoritative = true →
      ∃ (aid : ActivationId) (act : ActivationRecord), dep.activation = some aid ∧
        s.activations[aid]? = some act ∧ s.Honours dep act.authority

/-- The parts of a device record that a token repeats. -/
structure SameIncarnation (dev' dev : DeviceRecord) : Prop where
  boot : dev'.bootId = dev.bootId
  generation : dev'.generation = dev.generation
  evidence : dev'.evidenceGen = dev.evidenceGen

/-- What a token repeats of the state, component by component. -/
theorem LiveState.honours_iff (s : LiveState) (dep : Deployment)
    (token : ActivationAuthority) :
    s.Honours dep token ↔
      token.epoch = s.epoch ∧
      (dep.program ≠ .null → s.currentProgramGen[dep.program]? = some token.programGen) ∧
      ∃ dev, s.devices[dep.device]? = some dev ∧ token.deviceBoot = dev.bootId ∧
        token.deviceGen = dev.generation ∧ token.evidenceGen = dev.evidenceGen := by
  have compare : ∀ dev, token.isCurrent (s.contextOf dep dev token) = true ↔
      token.epoch = s.epoch ∧ token.deviceBoot = dev.bootId ∧
        token.deviceGen = dev.generation ∧
        (dep.program ≠ .null → token.programGen = s.currentProgramGen.getD dep.program .null) ∧
        token.evidenceGen = dev.evidenceGen := by
    intro dev
    by_cases named : dep.program = .null <;>
      simp [ActivationAuthority.isCurrent, contextOf, named]
  constructor
  · rintro ⟨known, dev, located, current⟩
    obtain ⟨epoch, boot, generation, program, evidence⟩ := (compare dev).mp current
    refine ⟨epoch, fun named => ?_, dev, located, boot, generation, evidence⟩
    obtain ⟨gen, present⟩ := Option.isSome_iff_exists.mp (known named)
    rw [program named, ExtTreeMap.getD_eq_getD_getElem?, present]
    rfl
  · rintro ⟨epoch, program, dev, located, boot, generation, evidence⟩
    refine ⟨fun named => by rw [program named]; rfl, dev, located, (compare dev).mpr
      ⟨epoch, boot, generation, fun named => ?_, evidence⟩⟩
    rw [ExtTreeMap.getD_eq_getD_getElem?, program named]
    rfl

/-! ## The context of a deployment -/

/-- The second state agrees with the first in all that a token of the deployment repeats. -/
structure SameContext (s s' : LiveState) (dep : Deployment) : Prop where
  epoch : s'.epoch = s.epoch
  device : ∀ dev, s.devices[dep.device]? = some dev →
    ∃ dev', s'.devices[dep.device]? = some dev' ∧ SameIncarnation dev' dev
  program : dep.program ≠ .null →
    s'.currentProgramGen[dep.program]? = s.currentProgramGen[dep.program]?

/-- A current token stays current exactly as long as the context is the same. -/
theorem honours_after_iff {s s' : LiveState} {dep : Deployment} {token : ActivationAuthority}
    (current : s.Honours dep token) : s'.Honours dep token ↔ SameContext s s' dep := by
  obtain ⟨epoch, program, dev, located, boot, generation, evidence⟩ :=
    (s.honours_iff dep token).mp current
  rw [s'.honours_iff]
  constructor
  · rintro ⟨epoch', program', dev', located', boot', generation', evidence'⟩
    refine ⟨epoch'.symm.trans epoch, fun old present => ?_, fun named => ?_⟩
    · rw [located] at present
      cases present
      exact ⟨dev', located', boot'.symm.trans boot, generation'.symm.trans generation,
        evidence'.symm.trans evidence⟩
    · rw [program named, program' named]
  · intro same
    obtain ⟨dev', located', incarnation⟩ := same.device dev located
    exact ⟨epoch.trans same.epoch.symm, fun named => (same.program named).trans (program named),
      dev', located', boot.trans incarnation.boot.symm,
      generation.trans incarnation.generation.symm, evidence.trans incarnation.evidence.symm⟩

/-- The epoch that an accepted call leaves. -/
def Op.nextEpoch (op : Op) (s : LiveState) : CoordinatorEpoch :=
  match op with
  | .advanceEpoch => ⟨nextGeneration s.epoch.value⟩
  | _ => s.epoch

/-- The current program generations that an accepted call leaves. -/
def Op.nextProgramGen (op : Op) (s : LiveState) : ExtTreeMap ProgramId ProgramGeneration :=
  match op with
  | .registerProgram art =>
      if s.supersedes art then s.currentProgramGen.insert art.programId art.programGen
      else s.currentProgramGen
  | .retireProgram id => s.currentProgramGen.erase id
  | _ => s.currentProgramGen

/-- Only three calls write the epoch, the current generations or the services. -/
theorem Accepted.registry_eq {s s' : LiveState} {seq seq' : Nat} {op : Op}
    (accepted : Accepted s seq op s' seq') :
    s'.epoch = op.nextEpoch s ∧ s'.currentProgramGen = op.nextProgramGen s ∧
      ∀ (id : ServiceId) (svc : ServiceDefinition),
        s.services[id]? = some svc → s'.services[id]? = some svc := by
  cases accepted with
  | registerService named absent =>
      rename_i svc'
      refine ⟨rfl, rfl, fun id svc present => ?_⟩
      have apart : svc'.serviceId ≠ id := by
        rintro rfl
        rw [absent] at present
        cases present
      simpa [LiveState.registerService, OrderedMap.lookup_insert, apart] using present
  | retireDevice =>
      rw [LiveState.retireDevice, evictDeployments_eq]
      exact ⟨rfl, rfl, fun _ _ present => present⟩
  | transitionDevice =>
      rename_i id target dev present valid
      cases withdraws : isFencingTarget target with
      | true =>
          rw [LiveState.transitionDevice, if_pos withdraws, fenceDeployments_eq]
          exact ⟨rfl, rfl, fun _ _ present => present⟩
      | false =>
          simp only [LiveState.transitionDevice, withdraws]
          exact ⟨rfl, rfl, fun _ _ present => present⟩
  | fenceDevice =>
      rw [LiveState.fenceDevice, fenceDeployments_eq]
      exact ⟨rfl, rfl, fun _ _ present => present⟩
  | markWorkerLost =>
      rename_i worker
      cases known : s.workers[worker]? with
      | none =>
          simp only [LiveState.markWorkerLost, known]
          exact ⟨rfl, rfl, fun _ _ present => present⟩
      | some boot =>
          simp only [LiveState.markWorkerLost, known, fenceDeployments_eq]
          exact ⟨rfl, rfl, fun _ _ present => present⟩
  | moveDeployment moves =>
      cases op <;> cases moves <;> exact ⟨rfl, rfl, fun _ _ present => present⟩
  | endDeployment ends =>
      rw [endDeployment_eq]
      cases op <;> cases ends <;> exact ⟨rfl, rfl, fun _ _ present => present⟩
  | applyRecovery =>
      rw [LiveState.applyRecovery, fenceDeployments_eq]
      exact ⟨rfl, rfl, fun _ _ present => present⟩
  | _ => exact ⟨rfl, rfl, fun _ _ present => present⟩

/-- Every call but a record update keeps what tokens repeat of a device. -/
theorem Op.rewritten_sameIncarnation {op : Op} {id : DeviceId} (dev : DeviceRecord)
    (keeps : ∀ rec, op = .updateDevice rec → rec.deviceId = id → SameIncarnation rec dev) :
    SameIncarnation (op.rewritten id dev) dev := by
  cases op with
  | updateDevice rec =>
      simp only [Op.rewritten]
      split_ifs with here
      · exact keeps rec rfl here
      · exact ⟨rfl, rfl, rfl⟩
  | retireDevice target => simp only [Op.rewritten]; split_ifs <;> exact ⟨rfl, rfl, rfl⟩
  | transitionDevice target lifecycle =>
      simp only [Op.rewritten]; split_ifs <;> exact ⟨rfl, rfl, rfl⟩
  | setDeviceState target state cap =>
      simp only [Op.rewritten]; split_ifs <;> exact ⟨rfl, rfl, rfl⟩
  | fenceDevice target reason =>
      simp only [Op.rewritten, fencedRecord]; split_ifs <;> exact ⟨rfl, rfl, rfl⟩
  | markWorkerLost worker =>
      simp only [Op.rewritten, orphaned]; split_ifs <;> exact ⟨rfl, rfl, rfl⟩
  | applyRecovery p =>
      simp only [Op.rewritten, recoveredRecord]; split_ifs <;> exact ⟨rfl, rfl, rfl⟩
  | _ => exact ⟨rfl, rfl, rfl⟩

/-- Whether an accepted call leaves the context of a deployment as it was. -/
def Op.keepsContext (op : Op) (s : LiveState) (dep : Deployment) : Prop :=
  match op with
  | .advanceEpoch => nextGeneration s.epoch.value = s.epoch.value
  | .registerProgram art => dep.program = art.programId → s.supersedes art = false
  | .retireProgram id => dep.program = id → id = .null
  | .updateDevice rec =>
      ∀ dev, dep.device = rec.deviceId → s.devices[rec.deviceId]? = some dev →
        SameIncarnation rec dev
  | _ => True

theorem Accepted.program_named {s s' : LiveState} {seq seq' : Nat} {art : ProgramArtifact}
    (accepted : Accepted s seq (.registerProgram art) s' seq') : art.programId ≠ .null := by
  cases accepted with
  | registerProgram named => exact named
  | moveDeployment moves => cases moves
  | endDeployment ends => cases ends

/-- This is exact for a deployment whose token is current. -/
theorem Accepted.sameContext_iff {s s' : LiveState} {seq seq' : Nat} {op : Op}
    (accepted : Accepted s seq op s' seq') {dep : Deployment} {token : ActivationAuthority}
    (current : s.Honours dep token) :
    SameContext s s' dep ↔ op.keepsContext s dep := by
  obtain ⟨-, program, dev, located, -⟩ := (s.honours_iff dep token).mp current
  obtain ⟨epoch', programGen', -⟩ := accepted.registry_eq
  have located' := accepted.device_of_present located
  have rebuild : op.nextEpoch s = s.epoch →
      (∀ rec, op = .updateDevice rec → rec.deviceId = dep.device → SameIncarnation rec dev) →
      (dep.program ≠ .null →
        (op.nextProgramGen s)[dep.program]? = s.currentProgramGen[dep.program]?) →
      SameContext s s' dep := by
    intro sameEpoch sameDevice sameProgram
    refine ⟨epoch'.trans sameEpoch, fun old present => ?_, ?_⟩
    · rw [located] at present
      cases present
      exact ⟨_, located', Op.rewritten_sameIncarnation dev sameDevice⟩
    · rw [programGen']
      exact sameProgram
  cases op with
  | advanceEpoch =>
      constructor
      · intro same
        have advanced := epoch'.symm.trans same.epoch
        simp only [Op.nextEpoch] at advanced
        rw [Op.keepsContext]
        exact congrArg (fun epoch : CoordinatorEpoch => epoch.value) advanced
      · intro keeps
        rw [Op.keepsContext] at keeps
        refine rebuild ?_ ?_ ?_
        · rw [Op.nextEpoch, keeps]
        · rintro rec ⟨⟩
        · exact fun _ => rfl
  | registerProgram art =>
      refine ⟨fun same registered => ?_,
        fun keeps => rebuild rfl (by rintro rec ⟨⟩) fun named => ?_⟩
      · by_contra replaces
        have supersedes : s.supersedes art = true := by simpa using replaces
        have named : dep.program ≠ .null := by
          rw [registered]
          exact accepted.program_named
        have older := program named
        have newer := same.program named
        rw [programGen', Op.nextProgramGen, if_pos supersedes, older, ← registered,
          OrderedMap.lookup_insert, if_pos rfl] at newer
        rw [registered] at older
        rw [LiveState.supersedes, older, Option.some.inj newer] at supersedes
        simp at supersedes
      · by_cases registered : art.programId = dep.program
        · rw [Op.nextProgramGen, keeps registered.symm]
          rfl
        · simp only [Op.nextProgramGen]
          split_ifs
          · rw [OrderedMap.lookup_insert, if_neg registered]
          · rfl
  | retireProgram id =>
      refine ⟨fun same retired => ?_, fun keeps => rebuild rfl (by rintro rec ⟨⟩) fun named => ?_⟩
      · by_contra unnamed
        have named : dep.program ≠ .null := by rwa [retired]
        have gone := same.program named
        rw [programGen', Op.nextProgramGen, program named, retired] at gone
        simp at gone
      · have other : id ≠ dep.program := by
          intro retired
          exact named (retired.symm.trans (keeps retired.symm))
        simp [Op.nextProgramGen, ExtTreeMap.getElem?_erase, other]
  | updateDevice rec =>
      refine ⟨fun same old here present => ?_, fun keeps => rebuild rfl ?_ fun _ => rfl⟩
      · rw [← here, located] at present
        cases present
        obtain ⟨dev', present', incarnation⟩ := same.device dev located
        rw [located'] at present'
        cases present'
        simpa [Op.rewritten, here] using incarnation
      · rintro _ ⟨⟩ here
        exact keeps dev here.symm (by rw [here]; exact located)
  | _ => exact ⟨fun _ => trivial, fun _ => rebuild rfl (by rintro rec ⟨⟩) fun _ => rfl⟩

/-! ## The links of the tokens -/

/-- Links are below the identity counter, and no two deployments share one. -/
structure LinksBelow (s : LiveState) (seq : Nat) : Prop where
  below : ∀ (id : DeploymentId) (dep : Deployment) (aid : ActivationId),
    s.deployments[id]? = some dep → dep.activation = some aid → aid.value.toNat < seq
  unique : ∀ (left right : DeploymentId) (depLeft depRight : Deployment) (aid : ActivationId),
    s.deployments[left]? = some depLeft → s.deployments[right]? = some depRight →
      depLeft.activation = some aid → depRight.activation = some aid → left = right

theorem LinksBelow.mono {s : LiveState} {seq seq' : Nat} (grows : seq ≤ seq')
    (links : LinksBelow s seq) : LinksBelow s seq' where
  below id dep aid present link := (links.below id dep aid present link).trans_le grows
  unique := links.unique

theorem LinksBelow.of_unlinked {s : LiveState} {seq : Nat}
    (unlinked : ∀ (id : DeploymentId) (dep : Deployment),
      s.deployments[id]? = some dep → dep.activation = none) : LinksBelow s seq where
  below id dep aid present link := by
    rw [unlinked id dep present] at link
    cases link
  unique left right depLeft depRight aid present _ link := by
    rw [unlinked left depLeft present] at link
    cases link

/-- It is enough that every link was there before, or is the one new link. -/
theorem LinksBelow.of_origin {s s' : LiveState} {seq seq' : Nat} (grows : seq ≤ seq')
    (links : LinksBelow s seq) (fresh : Option (DeploymentId × ActivationId))
    (issued : ∀ id aid, fresh = some (id, aid) → seq ≤ aid.value.toNat ∧ aid.value.toNat < seq')
    (origin : ∀ (id : DeploymentId) (dep' : Deployment) (aid : ActivationId),
      s'.deployments[id]? = some dep' → dep'.activation = some aid →
        fresh = some (id, aid) ∨
          ∃ dep, s.deployments[id]? = some dep ∧ dep.activation = some aid) :
    LinksBelow s' seq' := by
  constructor
  · intro id dep' aid present link
    rcases origin id dep' aid present link with new | ⟨dep, found, old⟩
    · exact (issued id aid new).2
    · exact (links.below id dep aid found old).trans_le grows
  · intro left right depLeft depRight aid presentLeft presentRight linkLeft linkRight
    rcases origin left depLeft aid presentLeft linkLeft with newLeft | ⟨old, found, link⟩
    · rcases origin right depRight aid presentRight linkRight with newRight | ⟨old, found, link⟩
      · rw [newLeft] at newRight
        cases newRight
        rfl
      · have below := links.below right old aid found link
        have above := (issued left aid newLeft).1
        omega
    · rcases origin right depRight aid presentRight linkRight with newRight | ⟨old', found', link'⟩
      · have below := links.below left old aid found link
        have above := (issued right aid newRight).1
        omega
      · exact links.unique left right old old' aid found found' link link'

theorem Relabels.linksBelow {s s' : LiveState} {seq : Nat} (relabels : Relabels s s')
    (links : LinksBelow s seq) : LinksBelow s' seq := by
  refine links.of_origin le_rfl none nofun fun id dep' aid present' link => Or.inr ?_
  obtain ⟨dep, present, same, -⟩ := relabels.deployment_before present'
  exact ⟨dep, present, same.symm.trans link⟩

theorem Accepted.linksBelow {s s' : LiveState} {seq seq' : Nat} {op : Op}
    (accepted : Accepted s seq op s' seq')
    (issued : ∀ id, op = .activateDeployment id → seq < 2 ^ 64)
    (links : LinksBelow s seq) : LinksBelow s' seq' := by
  cases accepted.shape with
  | swept deployments activations =>
      exact (Relabels.of_swept deployments activations).linksBelow links
  | reserved present ready offered accounted made admitted =>
      refine links.of_origin (by omega) none nofun fun id dep' aid present' link => Or.inr ?_
      simp only [LiveState.reserveDeployment, OrderedMap.lookup_insert] at present'
      split_ifs at present' with here
      · cases present'
        rw [made] at link
        cases link
      · exact ⟨dep', present', link⟩
  | moved moves present valid => exact (Relabels.of_moved _ _ _).linksBelow links
  | activated present valid =>
      rename_i id dep
      have wide := toNat_ofNat_of_lt (issued id rfl)
      refine links.of_origin (Nat.le_succ seq) (some (id, ⟨UInt64.ofNat seq⟩)) ?_ ?_
      · rintro _ _ ⟨⟩
        simp only [wide]
        omega
      · intro other dep' aid present' link
        rw [deployments_activateDeployment present] at present'
        split_ifs at present' with here
        · cases present'
          cases link
          rw [here]
          exact Or.inl rfl
        · exact Or.inr ⟨dep', present', link⟩
  | committed => exact (Relabels.of_committed _ _ _ _).linksBelow links
  | ended => exact (Relabels.of_ended _ _ _ _).linksBelow links

/-! ## Where authority comes from -/

/-- An activation keeps its token unless its own deployment is committed. -/
def TokenKept (s s' : LiveState) (aid : ActivationId) : Prop :=
  ∀ act, s.activations[aid]? = some act →
    ∃ act', s'.activations[aid]? = some act' ∧ act'.authority = act.authority

theorem TokenKept.of_same {s s' : LiveState} {aid : ActivationId}
    (same : s'.activations[aid]? = s.activations[aid]?) : TokenKept s s' aid :=
  fun act recorded => ⟨act, same.trans recorded, rfl⟩

theorem TokenKept.of_marked {s s' : LiveState} {aid : ActivationId} {state : ActivationState}
    (same : s'.activations[aid]? = s.activations[aid]?.map (marked state)) :
    TokenKept s s' aid :=
  fun act recorded => ⟨marked state act, by rw [same, recorded]; rfl, rfl⟩

/-- An authoritative deployment was authoritative with the same token, or is being committed. -/
theorem Accepted.authority_origin {s s' : LiveState} {seq seq' : Nat} {op : Op}
    (accepted : Accepted s seq op s' seq')
    (issued : ∀ id, op = .activateDeployment id → seq < 2 ^ 64) (links : LinksBelow s seq)
    {id : DeploymentId} {dep' : Deployment} (present' : s'.deployments[id]? = some dep')
    (authority : dep'.authoritative = true) :
    (s.deployments[id]? = some dep' ∧
        ∀ aid, dep'.activation = some aid → TokenKept s s' aid) ∨
      ∃ dep dev aid act, op = .commitDeployment id ∧ s.deployments[id]? = some dep ∧
        s.devices[dep.device]? = some dev ∧ Engine.programIsCurrent s dep = true ∧
        dep.activation = some aid ∧ s.activations[aid]? = some act ∧
        s' = s.commitDeployment id aid (s.grantedAuthority dep dev) := by
  cases accepted.shape with
  | swept deployments activations =>
      rw [deployments, ExtTreeMap.getElem?_map] at present'
      obtain ⟨dep, found, rfl⟩ := Option.map_eq_some_iff.mp present'
      unfold fencedWhere at authority ⊢
      split_ifs at authority ⊢ with chosen
      · simp [LiveState.fenced] at authority
      · refine Or.inl ⟨found, fun aid link => ?_⟩
        have stale := lookup_staleActivations s (op.fences s) aid
        rw [← activations] at stale
        split_ifs at stale
        · exact .of_marked stale
        · exact .of_same stale
  | reserved present ready offered accounted made admitted =>
      simp only [LiveState.reserveDeployment, OrderedMap.lookup_insert] at present'
      split_ifs at present' with here
      · cases present'
        rw [made] at authority
        cases authority
      · exact Or.inl ⟨present', fun aid link => .of_same rfl⟩
  | moved moves present valid =>
      simp only [LiveState.doDeployTransition, modifyDeployment,
        OrderedMap.lookup_modify] at present'
      split_ifs at present' with here
      · obtain ⟨dep, found, rfl⟩ := Option.map_eq_some_iff.mp present'
        simp [Op.moves_target_ne_active moves] at authority
      · exact Or.inl ⟨present', fun aid link => .of_same rfl⟩
  | activated present valid =>
      rename_i id' dep
      rw [deployments_activateDeployment present] at present'
      split_ifs at present' with here
      · cases present'
        cases authority
      · refine Or.inl ⟨present', fun aid link => .of_same ?_⟩
        exact (activations_activateDeployment _ _ _ _).trans
          (if_neg (ne_of_issued (issued id' rfl) (links.below id dep' aid present' link)))
  | committed present activating located ready current link recorded =>
      rename_i id' dep dev aid act
      by_cases here : id' = id
      · subst here
        exact Or.inr ⟨dep, dev, aid, act, rfl, present, located, current, link, recorded, rfl⟩
      · rw [deployments_commitDeployment present, if_neg here] at present'
        refine Or.inl ⟨present', fun aid' link' => .of_same ?_⟩
        have apart : aid ≠ aid' := by
          rintro rfl
          exact here (links.unique _ _ _ _ _ present present' link link')
        rw [activations_commitDeployment recorded, if_neg apart]
  | ended ends present allowed =>
      rename_i id' ending dep
      simp only [endDeployment_eq, OrderedMap.lookup_modify] at present'
      split_ifs at present' with here
      · obtain ⟨old, -, rfl⟩ := Option.map_eq_some_iff.mp present'
        simp [LiveState.ended] at authority
      · refine Or.inl ⟨present', fun aid link => ?_⟩
        have apart : dep.activation ≠ some aid := fun link' =>
          here (links.unique _ _ _ _ _ present present' link' link)
        refine .of_same ?_
        rw [endDeployment_eq]
        dsimp only
        split_ifs
        · rw [OrderedMap.lookup_modifyLinked, if_neg apart]
        · rfl

/-! ## The calls that keep authority current -/

/-- What a call must respect so that no authoritative deployment holds a stale token. -/
structure KeepsAuthority (s : LiveState) (op : Op) : Prop where
  granted : ∀ (id : DeploymentId) (dep : Deployment),
    s.deployments[id]? = some dep → dep.authoritative = true → op.keepsContext s dep
  captured : ∀ (id : DeploymentId) (dep : Deployment) (dev : DeviceRecord),
    op = .commitDeployment id → s.deployments[id]? = some dep →
      s.devices[dep.device]? = some dev →
        dep.deviceBoot = dev.bootId ∧ dep.deviceGen = dev.generation

/-- The four calls that change a context write neither table. -/
theorem Accepted.tables_of_context {s s' : LiveState} {seq seq' : Nat} {op : Op}
    (accepted : Accepted s seq op s' seq') {dep : Deployment}
    (changes : ¬ op.keepsContext s dep) :
    s'.deployments = s.deployments ∧ s'.activations = s.activations := by
  have frame : op.sweeps = true ∧ ∀ dep, op.fences s dep = false := by
    cases op <;> first | exact ⟨rfl, fun _ => rfl⟩ | exact absurd trivial changes
  obtain ⟨deployments, activations⟩ := accepted.swept frame.1
  rw [map_fencedWhere_of_none s frame.2] at deployments
  rw [staleActivations_of_none s frame.2] at activations
  exact ⟨deployments, activations⟩

/-- The token of a commit is current if the deployment captured the device as it is. -/
theorem honours_granted_iff {s s' : LiveState} {dep : Deployment} {dev : DeviceRecord}
    (epoch : s'.epoch = s.epoch) (devices : s'.devices = s.devices)
    (programGen : s'.currentProgramGen = s.currentProgramGen)
    (located : s.devices[dep.device]? = some dev)
    (current : Engine.programIsCurrent s dep = true) :
    s'.Honours { dep with state := .active, authoritative := true, epoch := s.epoch }
        (s.grantedAuthority dep dev) ↔
      dep.deviceBoot = dev.bootId ∧ dep.deviceGen = dev.generation := by
  rw [LiveState.honours_iff, epoch, devices, programGen]
  constructor
  · rintro ⟨-, -, dev', located', boot, generation, -⟩
    rw [located] at located'
    cases located'
    exact ⟨boot, generation⟩
  · rintro ⟨boot, generation⟩
    refine ⟨rfl, fun named => ?_, dev, located, boot, generation, rfl⟩
    have known : s.currentProgramGen[dep.program]? = some dep.programGen := by
      simpa [Engine.programIsCurrent, named] using current
    exact known

/-- The two entries that a commit writes. -/
theorem lookup_commitDeployment {s : LiveState} {id : DeploymentId} {dep : Deployment}
    {aid : ActivationId} {act : ActivationRecord} (token : ActivationAuthority)
    (present : s.deployments[id]? = some dep) (recorded : s.activations[aid]? = some act) :
    (s.commitDeployment id aid token).deployments[id]? =
        some { dep with state := .active, authoritative := true, epoch := s.epoch } ∧
      (s.commitDeployment id aid token).activations[aid]? =
        some { act with authority := token, state := .active, reason := text "committed" } := by
  rw [deployments_commitDeployment present, activations_commitDeployment recorded, if_pos rfl,
    if_pos rfl]
  exact ⟨rfl, rfl⟩

/-- An accepted call keeps authority current exactly when it respects these conditions. -/
theorem Accepted.keepsAuthority_iff {s s' : LiveState} {seq seq' : Nat} {op : Op}
    (accepted : Accepted s seq op s' seq')
    (issued : ∀ id, op = .activateDeployment id → seq < 2 ^ 64) (links : LinksBelow s seq)
    (current : AuthorityCurrent s) : AuthorityCurrent s' ↔ KeepsAuthority s op := by
  constructor
  · intro current'
    constructor
    · intro id dep present authority
      by_contra changes
      obtain ⟨deployments, activations⟩ := accepted.tables_of_context changes
      obtain ⟨aid, act, link, recorded, honours⟩ := current id dep present authority
      obtain ⟨aid', act', link', recorded', honours'⟩ :=
        current' id dep (by rw [deployments]; exact present) authority
      rw [link] at link'
      cases link'
      rw [activations, recorded] at recorded'
      cases recorded'
      exact changes
        ((accepted.sameContext_iff honours).mp ((honours_after_iff honours).mp honours'))
    · rintro id dep dev rfl present located
      cases accepted with
      | commitDeployment found activating located' ready program link recorded =>
          rw [present] at found
          cases found
          rw [located] at located'
          cases located'
          obtain ⟨here, granted⟩ :=
            lookup_commitDeployment (s.grantedAuthority dep dev) present recorded
          obtain ⟨aid', act', link', recorded', honours⟩ := current' id _ here rfl
          rw [show aid' = _ from Option.some.inj (link'.symm.trans link), granted] at recorded'
          cases recorded'
          exact (honours_granted_iff rfl rfl rfl located program).mp honours
      | moveDeployment moves => cases moves
      | endDeployment ends => cases ends
  · intro keeps id dep' present' authority
    rcases accepted.authority_origin issued links present' authority with
      ⟨present, kept⟩ | ⟨dep, dev, aid, act, rfl, present, located, program, link, recorded, rfl⟩
    · obtain ⟨aid, act, link, recorded, honours⟩ := current id dep' present authority
      obtain ⟨act', recorded', token⟩ := kept aid link act recorded
      refine ⟨aid, act', link, recorded', ?_⟩
      rw [token]
      exact (honours_after_iff honours).mpr
        ((accepted.sameContext_iff honours).mpr (keeps.granted id dep' present authority))
    · obtain ⟨here, granted⟩ :=
        lookup_commitDeployment (s.grantedAuthority dep dev) present recorded
      rw [here] at present'
      cases present'
      exact ⟨aid, _, link, granted, (honours_granted_iff rfl rfl rfl located program).mpr
        (keeps.captured id dep dev rfl present located)⟩

/-! ## Runs -/

/-- The call repeats no identity and loads no malformed payload. -/
def Intact (e : Engine) : Op → Prop
  | .activateDeployment _ => e.idSeq < 2 ^ 64
  | .recoverFrom file => Persistence.isMalformed file = false
  | _ => True

/-- If the call is accepted, it respects the conditions above. -/
def AuthorityCondition (e : Engine) (op : Op) : Prop :=
  (∃ s seq, Accepted e.state e.idSeq op s seq) → KeepsAuthority e.state op

/-- What an intact recovery leaves: the links are gone or the state is the same. -/
theorem recoverFrom_intact {e : Engine} {file : Option (List UInt8)}
    (intact : Persistence.isMalformed file = false) :
    (e.step (.recoverFrom file)).idSeq = e.idSeq ∧
      ((e.step (.recoverFrom file)).state = e.state ∨
        ∀ (id : DeploymentId) (dep : Deployment),
          (e.step (.recoverFrom file)).state.deployments[id]? = some dep →
            dep.activation = none ∧ dep.authoritative = false) := by
  cases recoverFrom_cases file e with
  | missing absent result => exact ⟨by rw [result], Or.inl (by rw [result])⟩
  | rejected empty wellFormed result => exact ⟨by rw [result], Or.inl (by rw [result])⟩
  | malformed malformed =>
      rw [intact] at malformed
      cases malformed
  | accepted wellFormed overlay result =>
      refine ⟨by rw [result], Or.inr fun id dep present => ?_⟩
      rw [result, rebuildLedgers_eq] at present
      simp only [Persistence.fenceRecovered, ExtTreeMap.getElem?_map] at present
      obtain ⟨old, -, rfl⟩ := Option.map_eq_some_iff.mp present
      exact ⟨rfl, rfl⟩

theorem LinksBelow.step {e : Engine} {op : Op} (single : Engine.isSingle op = true)
    (intact : Intact e op) (links : LinksBelow e.state e.idSeq) :
    LinksBelow (e.step op).state (e.step op).idSeq := by
  have plainCase : op.isPlain = true → LinksBelow (e.step op).state (e.step op).idSeq := by
    intro plain
    rcases Engine.step_cases e plain with ⟨s, seq, accepted, result⟩ | ⟨-, quiet⟩
    · rw [result]
      refine accepted.linksBelow ?_ links
      rintro id rfl
      exact intact
    · rw [quiet.state]
      exact links.mono quiet.idSeq
  cases op with
  | runAllBackends discovered => cases single
  | recoverFrom file =>
      obtain ⟨counter, same | unlinked⟩ := recoverFrom_intact intact
      · rw [counter, same]
        exact links
      · exact .of_unlinked fun id dep present => (unlinked id dep present).1
  | _ => exact plainCase rfl

/-- An intact call keeps authority current exactly under the condition. -/
theorem Engine.authorityCurrent_step_iff {e : Engine} {op : Op}
    (single : Engine.isSingle op = true) (intact : Intact e op)
    (links : LinksBelow e.state e.idSeq) (current : AuthorityCurrent e.state) :
    AuthorityCurrent (e.step op).state ↔ AuthorityCondition e op := by
  have plainCase : op.isPlain = true →
      (AuthorityCurrent (e.step op).state ↔ AuthorityCondition e op) := by
    intro plain
    rcases Engine.step_cases e plain with ⟨s, seq, accepted, result⟩ | ⟨refused, quiet⟩
    · have issued : ∀ id, op = .activateDeployment id → e.idSeq < 2 ^ 64 := by
        rintro id rfl
        exact intact
      rw [result, accepted.keepsAuthority_iff issued links current]
      exact ⟨fun keeps _ => keeps, fun keeps => keeps ⟨s, seq, accepted⟩⟩
    · rw [quiet.state]
      exact ⟨fun _ ⟨s, seq, accepted⟩ => absurd accepted (refused s seq), fun _ => current⟩
  cases op with
  | runAllBackends discovered => cases single
  | recoverFrom file =>
      refine ⟨fun _ ⟨s, seq, accepted⟩ => ?_, fun _ => ?_⟩
      · cases accepted with
        | moveDeployment moves => cases moves
        | endDeployment ends => cases ends
      · obtain ⟨-, same | unlinked⟩ := recoverFrom_intact intact
        · rw [same]
          exact current
        · intro id dep present authority
          rw [(unlinked id dep present).2] at authority
          cases authority
  | _ => exact plainCase rfl

/-- Advancing the epoch leaves an authoritative deployment with the token of the old one. -/
theorem advanceEpoch_keepsStale :
    ¬ AuthorityCurrent
      ((Engine.run Engine.sampleEngine Engine.sampleRun).step .advanceEpoch).state := by
  have deployed : ((Engine.run Engine.sampleEngine Engine.sampleRun).step
      .advanceEpoch).state.deployments[(⟨1⟩ : DeploymentId)]?.map
        (fun dep => (dep.authoritative, dep.activation)) = some (true, some ⟨3⟩) := by
    decide
  have granted : ((Engine.run Engine.sampleEngine Engine.sampleRun).step
      .advanceEpoch).state.activations[(⟨3⟩ : ActivationId)]?.map
        (fun act => act.authority.epoch) = some ⟨1⟩ := by
    decide
  have advanced : ((Engine.run Engine.sampleEngine Engine.sampleRun).step
      .advanceEpoch).state.epoch = ⟨2⟩ := by
    decide
  intro current
  obtain ⟨dep, present, facts⟩ := Option.map_eq_some_iff.mp deployed
  rw [Prod.mk.injEq] at facts
  obtain ⟨aid, act, link, recorded, honours⟩ := current _ dep present facts.1
  rw [facts.2] at link
  cases link
  rw [recorded] at granted
  have old : act.authority.epoch = ⟨1⟩ := Option.some.inj granted
  have stale := ((LiveState.honours_iff _ dep act.authority).mp honours).1
  rw [old, advanced] at stale
  exact absurd stale (by decide)

/--
Along intact runs, authority is current after every single call exactly when
every accepted call keeps the context of every authoritative deployment and
every commit finds the device its reservation captured.
-/
theorem authorityCurrent_iff (epoch : CoordinatorEpoch) (policy : Policy) (ops : List Op) :
    TransitionRun.Every Engine.step
        (Engine.EachCall fun e op => Intact e op ∧ AuthorityCurrent (e.step op).state)
        (Engine.fresh epoch policy) ops ↔
      TransitionRun.Every Engine.step
        (Engine.EachCall fun e op => Intact e op ∧ AuthorityCondition e op)
        (Engine.fresh epoch policy) ops := by
  refine Engine.every_eachCall_iff
    (fun e => LinksBelow e.state e.idSeq ∧ AuthorityCurrent e.state) ?_ ?_ ?_ ops
  · rintro e op single ⟨links, current⟩
    exact and_congr_right fun intact =>
      Engine.authorityCurrent_step_iff single intact links current
  · rintro e op single ⟨intact, current⟩ ⟨links, -⟩
    exact ⟨links.step single intact, current⟩
  · refine ⟨.of_unlinked ?_, ?_⟩ <;> simp [Engine.fresh, AuthorityCurrent]

end DPUFabric
