import DPUFabric.Correspondence

/-!
# The deployment table refined

Only three calls consult the deployment table; the others write the state
under guards of their own.  All of them follow it, so `RETIRED` is terminal,
and the table has one way into `ACTIVE` that a call takes: a commit from
`ACTIVATING`.  Walking a run backwards from there gives the calls that a
fenced deployment needs to become authoritative again.
-/

namespace DPUFabric

open Std
open LiveState

/-! ## One deployment along a call -/

/-- The backend loop leaves the deployment table alone. -/
theorem Engine.step_runAllBackends_deployments (e : Engine)
    (discovered : List (List DeviceRecord)) :
    (e.step (.runAllBackends discovered)).state.deployments = e.state.deployments := by
  rw [Engine.step_runAllBackends]
  refine TransitionRun.run_invariant_of_step
    (fun reached : Engine => reached.state.deployments = e.state.deployments) ?_ rfl _
  intro reached rec same
  have sweeps : (Engine.importCall reached rec).sweeps = true := by
    unfold Engine.importCall
    split <;> rfl
  have unfenced : ∀ dep, (Engine.importCall reached rec).fences reached.state dep = false := by
    unfold Engine.importCall
    split <;> exact fun _ => rfl
  rw [← same]
  unfold Engine.importStep
  rcases Engine.step_cases reached (Engine.importCall_isPlain reached rec) with
    ⟨s, seq, accepted, result⟩ | ⟨-, quiet⟩
  · rw [result, (accepted.swept sweeps).1, map_fencedWhere_of_none _ unfenced]
  · rw [quiet.state]

/-- A deployment is as it was, or the call was accepted and took it a step. -/
def Engine.Takes (e : Engine) (op : Op) (id : DeploymentId) (dep dep' : Deployment) : Prop :=
  dep' = dep ∨
    (∃ s, Accepted e.state e.idSeq op s (e.step op).idSeq) ∧
      DeploymentStep e.state e.idSeq op id dep dep'

/-- What any call but `recover_from` can make of a deployment in the table. -/
theorem Engine.deployment_step (e : Engine) {op : Op}
    (ordinary : Engine.recovers op = false) {id : DeploymentId} {dep : Deployment}
    (present : e.state.deployments[id]? = some dep) :
    ∃ dep', (e.step op).state.deployments[id]? = some dep' ∧ e.Takes op id dep dep' := by
  have plainCase : op.isPlain = true →
      ∃ dep', (e.step op).state.deployments[id]? = some dep' ∧ e.Takes op id dep dep' := by
    intro plain
    rcases Engine.step_cases e plain with ⟨s, seq, accepted, result⟩ | ⟨-, quiet⟩
    · obtain ⟨dep', present', taken⟩ := accepted.deployment_of_present present
      exact ⟨dep', by rw [result]; exact present',
        Or.inr ⟨⟨s, by rw [result]; exact accepted⟩, taken⟩⟩
    · exact ⟨dep, by rw [quiet.state]; exact present, Or.inl rfl⟩
  cases op with
  | recoverFrom file => cases ordinary
  | runAllBackends discovered =>
      exact ⟨dep, by rw [Engine.step_runAllBackends_deployments]; exact present, Or.inl rfl⟩
  | _ => exact plainCase rfl

/-- A deployment that such a call adds is reserved. -/
theorem Engine.deployment_added (e : Engine) {op : Op}
    (ordinary : Engine.recovers op = false) {id : DeploymentId} {dep' : Deployment}
    (absent : e.state.deployments[id]? = none)
    (present' : (e.step op).state.deployments[id]? = some dep') :
    dep'.state = .reserved ∧ dep'.authoritative = false := by
  have plainCase : op.isPlain = true →
      dep'.state = .reserved ∧ dep'.authoritative = false := by
    intro plain
    rcases Engine.step_cases e plain with ⟨s, seq, accepted, result⟩ | ⟨-, quiet⟩
    · rw [result] at present'
      rcases accepted.deployment_of_absent absent with
        gone | ⟨req, device, dev, svc, attempt, -, -, -, -, -, created⟩
      · rw [gone] at present'
        cases present'
      · rw [created] at present'
        cases present'
        exact ⟨rfl, rfl⟩
    · rw [quiet.state, absent] at present'
      cases present'
  cases op with
  | recoverFrom file => cases ordinary
  | runAllBackends discovered =>
      rw [Engine.step_runAllBackends_deployments, absent] at present'
      cases present'
  | _ => exact plainCase rfl

/-! ## The table -/

/-- The states a fencing loop selects. -/
theorem Op.fences_running {op : Op} {s : LiveState} {dep : Deployment}
    (chosen : op.fences s dep = true) :
    dep.state = .active ∨ dep.state = .degraded ∨ dep.state = .draining := by
  cases op with
  | retireDevice id =>
      simp only [Op.fences, occupies, Bool.and_eq_true, Bool.or_eq_true, beq_iff_eq] at chosen
      tauto
  | transitionDevice id target =>
      simp only [Op.fences, runsOn, Bool.and_eq_true, Bool.or_eq_true, beq_iff_eq] at chosen
      tauto
  | fenceDevice id reason =>
      simp only [Op.fences, runsOn, Bool.and_eq_true, Bool.or_eq_true, beq_iff_eq] at chosen
      tauto
  | markWorkerLost worker =>
      simp only [Op.fences] at chosen
      split at chosen
      · cases chosen
      · simp only [boundTo, Bool.and_eq_true, beq_iff_eq] at chosen
        tauto
  | applyRecovery p =>
      simp only [Op.fences, isRunning, Bool.or_eq_true, beq_iff_eq] at chosen
      tauto
  | _ => cases chosen

/-- Each of them may become revalidation-required. -/
theorem Op.fences_valid {op : Op} {s : LiveState} {dep : Deployment}
    (chosen : op.fences s dep = true) :
    validDeploymentTransition dep.state .revalidationRequired = true := by
  rcases Op.fences_running chosen with state | state | state <;> rw [state] <;> rfl

/-- The guards of the ending calls are within the table. -/
theorem Op.ends_valid {op : Op} {id : DeploymentId} {ending : Ending}
    (ends : op.ends = some (id, ending)) {state : DeploymentState}
    (allowed : ending.allows state = true) :
    validDeploymentTransition state ending.target = true := by
  cases op <;> cases ends
  case failDeployment => exact allowed
  all_goals cases state <;> first | rfl | cases allowed

/-- A step keeps the state or takes one edge of the table, unless identities repeat. -/
theorem DeploymentStep.follows {s : LiveState} {seq : Nat} {op : Op} {id : DeploymentId}
    {dep dep' : Deployment} (taken : DeploymentStep s seq op id dep dep')
    (issued : ∀ req device, op = .reserveDeployment req (some device) →
      id ≠ ⟨UInt64.ofNat seq⟩) :
    dep'.state = dep.state ∨ validDeploymentTransition dep.state dep'.state = true := by
  cases taken with
  | kept => exact Or.inl rfl
  | fenced chosen => exact Or.inr (Op.fences_valid chosen)
  | replaced reserves taken => exact absurd taken (issued _ _ reserves)
  | moved moves valid => exact Or.inr valid
  | activated activates valid => exact Or.inr valid
  | committed commits activating =>
      rw [activating]
      exact Or.inr rfl
  | ended ends allowed => exact Or.inr (Op.ends_valid ends allowed)

/-- The calls that consume identities when they are accepted. -/
def Op.issues : Op → Bool
  | .reserveDeployment _ _ => true
  | .activateDeployment _ => true
  | _ => false

theorem Accepted.seq_lt_of_issues {s s' : LiveState} {seq seq' : Nat} {op : Op}
    (accepted : Accepted s seq op s' seq') (issues : op.issues = true) : seq < seq' := by
  cases accepted with
  | reserveDeployment => omega
  | activateDeployment => omega
  | moveDeployment moves => cases op <;> cases moves <;> cases issues
  | endDeployment ends => cases op <;> cases ends <;> cases issues
  | _ => cases issues

/-- After the call every deployment is where it was or one edge of the table on. -/
def FollowsTable (e : Engine) (op : Op) : Prop :=
  ∀ (id : DeploymentId) (dep : Deployment), e.state.deployments[id]? = some dep →
    ∃ dep', (e.step op).state.deployments[id]? = some dep' ∧
      (dep'.state = dep.state ∨ validDeploymentTransition dep.state dep'.state = true)

/-- A deployment that is active after the call and was not before has just been committed. -/
def EntersByCommit (e : Engine) (op : Op) : Prop :=
  ∀ (id : DeploymentId) (dep' : Deployment),
    (e.step op).state.deployments[id]? = some dep' → dep'.state = .active →
      (∀ dep, e.state.deployments[id]? = some dep → dep.state ≠ .active) →
        op = .commitDeployment id ∧
          ∃ dep dev, e.state.deployments[id]? = some dep ∧ dep.state = .activating ∧
            e.state.devices[dep.device]? = some dev ∧ dev.isReadyForOffload = true

theorem Linked.followsTable {e : Engine} (linked : Linked e.state e.idSeq) {op : Op}
    (ordinary : Engine.recovers op = false) (room : (e.step op).idSeq ≤ 2 ^ 64) :
    FollowsTable e op := by
  intro id dep present
  obtain ⟨dep', present', same | ⟨⟨s, accepted⟩, taken⟩⟩ := e.deployment_step ordinary present
  · exact ⟨dep', present', Or.inl (by rw [same])⟩
  · refine ⟨dep', present', taken.follows ?_⟩
    rintro req device rfl
    have consumed := accepted.seq_lt_of_issues rfl
    exact (ne_of_issued (consumed.trans_le room) (linked.deploymentIds id dep present)).symm

theorem Engine.entersByCommit (e : Engine) {op : Op} (ordinary : Engine.recovers op = false) :
    EntersByCommit e op := by
  intro id dep' present' active idle
  cases present : e.state.deployments[id]? with
  | none =>
      obtain ⟨reserved, -⟩ := e.deployment_added ordinary present present'
      rw [active] at reserved
      cases reserved
  | some dep =>
      obtain ⟨found, present'', same | ⟨-, taken⟩⟩ := e.deployment_step ordinary present
      · rw [present''] at present'
        cases present'
        exact absurd (by rw [← same]; exact active) (idle dep present)
      · rw [present''] at present'
        cases present'
        rcases taken.of_active active with
          ⟨same, -⟩ | ⟨commits, activating, -, dev, located, ready⟩
        · exact absurd (by rw [← same]; exact active) (idle dep present)
        · exact ⟨commits, dep, dev, rfl, activating, located, ready⟩

/-! ## Authority along runs -/

/-- Without recovery from a file, authority is the state `ACTIVE`. -/
theorem Engine.authority_run (epoch : CoordinatorEpoch) (policy : Policy) {ops : List Op}
    (ordinary : ∀ op ∈ ops, Engine.recovers op = false) {id : DeploymentId}
    {dep : Deployment}
    (present : (Engine.run (Engine.fresh epoch policy) ops).state.deployments[id]? =
      some dep) :
    dep.authoritative = true ↔ dep.state = .active := by
  refine TransitionRun.run_invariant (P := fun _ op => Engine.recovers op = false)
    (fun e : Engine => ∀ dep, e.state.deployments[id]? = some dep →
      (dep.authoritative = true ↔ dep.state = .active)) ?_ ?_
    (TransitionRun.every_of_forall_mem _ ordinary) dep present
  · intro e op ordinary holds dep' present'
    cases present : e.state.deployments[id]? with
    | none =>
        obtain ⟨reserved, unauthorized⟩ := e.deployment_added ordinary present present'
        simp [reserved, unauthorized]
    | some dep =>
        obtain ⟨found, present'', same | ⟨-, taken⟩⟩ := e.deployment_step ordinary present
        · rw [present''] at present'
          cases present'
          rw [same]
          exact holds dep present
        · rw [present''] at present'
          cases present'
          exact taken.authority (holds dep present)
  · simp [Engine.fresh]

/-! ## The way back into `ACTIVE` -/

/-- The deployment is in the table, in this state and with this activation. -/
def Engine.StandsAt (e : Engine) (id : DeploymentId) (state : DeploymentState)
    (link : Option ActivationId) : Prop :=
  ∃ dep, e.state.deployments[id]? = some dep ∧ dep.state = state ∧ dep.activation = link

/-- A deployment that takes up a state other than `RESERVED` was there before the call. -/
theorem Engine.StandsAt.entered {e : Engine} {op : Op}
    (ordinary : Engine.recovers op = false) {id : DeploymentId} {state : DeploymentState}
    {link : Option ActivationId} (unreserved : state ≠ .reserved)
    (after : (e.step op).StandsAt id state link) (outside : ¬ e.StandsAt id state link) :
    ∃ dep dep', e.state.deployments[id]? = some dep ∧ dep'.state = state ∧
      dep'.activation = link ∧ dep' ≠ dep ∧
      (∃ s, Accepted e.state e.idSeq op s (e.step op).idSeq) ∧
      DeploymentStep e.state e.idSeq op id dep dep' := by
  obtain ⟨dep', present', stands, link'⟩ := after
  cases present : e.state.deployments[id]? with
  | none =>
      obtain ⟨reserved, -⟩ := e.deployment_added ordinary present present'
      exact absurd (stands.symm.trans reserved) unreserved
  | some dep =>
      obtain ⟨found, present'', step⟩ := e.deployment_step ordinary present
      rw [present''] at present'
      cases present'
      have moved : dep' ≠ dep := by
        rintro rfl
        exact outside ⟨dep', present, stands, link'⟩
      exact ⟨dep, dep', rfl, stands, link', moved, step.resolve_left moved⟩

/-- `ACTIVE` is entered by a commit, which keeps the activation. -/
theorem Engine.StandsAt.committed {e : Engine} {op : Op}
    (ordinary : Engine.recovers op = false) {id : DeploymentId} {link : Option ActivationId}
    (after : (e.step op).StandsAt id .active link)
    (outside : ¬ e.StandsAt id .active link) :
    op = .commitDeployment id ∧ e.StandsAt id .activating link := by
  obtain ⟨dep, dep', present, active, link', moved, -, taken⟩ :=
    after.entered ordinary (by simp) outside
  cases taken with
  | kept => exact absurd rfl moved
  | fenced => simp [LiveState.fenced] at active
  | replaced => simp [reservedDeployment] at active
  | moved moves => exact absurd active (Op.moves_target_ne_active moves)
  | activated => simp at active
  | committed commits activating => exact ⟨commits, dep, present, activating, link'⟩
  | ended ends => exact absurd active (Op.ends_target_ne_active ends)

/-- A deployment that is activating after a step was before, or has just been activated. -/
theorem DeploymentStep.of_activating {s : LiveState} {seq : Nat} {op : Op} {id : DeploymentId}
    {dep dep' : Deployment} (taken : DeploymentStep s seq op id dep dep')
    (activating : dep'.state = .activating) :
    dep' = dep ∨ op = .activateDeployment id ∧ dep.state = .validating ∧
      dep'.activation = some ⟨UInt64.ofNat seq⟩ := by
  cases taken with
  | kept => exact Or.inl rfl
  | fenced => simp [LiveState.fenced] at activating
  | replaced => simp [reservedDeployment] at activating
  | moved moves =>
      cases op <;> cases moves <;> cases activating
  | activated activates valid =>
      refine Or.inr ⟨activates, ?_, rfl⟩
      revert valid
      cases dep.state <;> first | (intro; rfl) | (intro valid; cases valid)
  | committed => simp at activating
  | ended ends => exact absurd activating (Op.ends_marks_active ends).2.2.1

/-- `ACTIVATING` is entered from `VALIDATING` by an activation under a fresh identity. -/
theorem Engine.StandsAt.activated {e : Engine} {op : Op}
    (ordinary : Engine.recovers op = false) {id : DeploymentId} {link : Option ActivationId}
    (after : (e.step op).StandsAt id .activating link)
    (outside : ¬ e.StandsAt id .activating link) :
    op = .activateDeployment id ∧ link = some ⟨UInt64.ofNat e.idSeq⟩ ∧
      e.idSeq < (e.step op).idSeq ∧ ∃ link', e.StandsAt id .validating link' := by
  obtain ⟨dep, dep', present, activating, link', moved, ⟨s, accepted⟩, taken⟩ :=
    after.entered ordinary (by simp) outside
  rcases taken.of_activating activating with same | ⟨rfl, validating, issued⟩
  · exact absurd same moved
  · exact ⟨rfl, link'.symm.trans issued, accepted.seq_lt_of_issues rfl, dep.activation, dep,
      present, validating, rfl⟩

/-- `VALIDATING` is entered by a validation. -/
theorem Engine.StandsAt.validated {e : Engine} {op : Op}
    (ordinary : Engine.recovers op = false) {id : DeploymentId} {link : Option ActivationId}
    (after : (e.step op).StandsAt id .validating link)
    (outside : ¬ e.StandsAt id .validating link) :
    op = .validateDeployment id := by
  obtain ⟨dep, dep', present, validating, link', moved, -, taken⟩ :=
    after.entered ordinary (by simp) outside
  cases taken with
  | kept => exact absurd rfl moved
  | fenced => simp [LiveState.fenced] at validating
  | replaced => simp [reservedDeployment] at validating
  | moved moves => cases op <;> cases moves <;> first | rfl | cases validating
  | activated => simp at validating
  | committed => simp at validating
  | ended ends =>
      cases op <;> cases ends <;> cases validating

/-- The call takes the deployment there. -/
def Engine.Enters (e : Engine) (op : Op) (id : DeploymentId) (state : DeploymentState)
    (link : Option ActivationId) : Prop :=
  ¬ e.StandsAt id state link ∧ (e.step op).StandsAt id state link

/--
The calls that lead a deployment into `ACTIVE` along a run: a validation, then
an activation which makes a record unknown before the run, then a commit of
that activation, in this order.
-/
def Engine.Revalidates (e : Engine) (ops : List Op) (id : DeploymentId) : Prop :=
  ∃ (first second third rest : List Op) (link : Option ActivationId) (aid : ActivationId),
    ops = first ++ .validateDeployment id :: second ++ .activateDeployment id :: third ++
        .commitDeployment id :: rest ∧
      e.state.activations[aid]? = none ∧
      (e.run first).Enters (.validateDeployment id) id .validating link ∧
      (e.run (first ++ .validateDeployment id :: second)).Enters
        (.activateDeployment id) id .activating (some aid) ∧
      (e.run (first ++ .validateDeployment id :: second ++ .activateDeployment id ::
        third)).Enters (.commitDeployment id) id .active (some aid)

theorem Linked.revalidates {e : Engine} (linked : Linked e.state e.idSeq) {ops : List Op}
    (ordinary : ∀ op ∈ ops, Engine.recovers op = false)
    (room : (e.run ops).idSeq ≤ 2 ^ 64) {id : DeploymentId} {link : Option ActivationId}
    (start : ∀ state link, state = .validating ∨ state = .activating ∨ state = .active →
      ¬ e.StandsAt id state link)
    (active : (e.run ops).StandsAt id .active link) :
    e.Revalidates ops id := by
  obtain ⟨upToCommit, commit, rest, rfl, outside, entered⟩ :=
    TransitionRun.last_entry (fun e : Engine => e.StandsAt id .active link)
      (start _ _ (by simp)) active
  have commits := entered [] List.nil_prefix
  obtain ⟨rfl, activating⟩ := commits.committed (ordinary _ (by simp)) outside
  obtain ⟨upToActivate, activate, third, rfl, outside', entered'⟩ :=
    TransitionRun.last_entry (fun e : Engine => e.StandsAt id .activating link)
      (start _ _ (by simp)) activating
  have activates := entered' [] List.nil_prefix
  obtain ⟨rfl, rfl, consumed, link', validating⟩ :=
    activates.activated (ordinary _ (by simp)) outside'
  obtain ⟨first, validate, second, rfl, outside'', entered''⟩ :=
    TransitionRun.last_entry (fun e : Engine => e.StandsAt id .validating link')
      (start _ _ (by simp)) validating
  have validates := entered'' [] List.nil_prefix
  obtain rfl := validates.validated (ordinary _ (by simp)) outside''
  refine ⟨first, second, third, rest, link', _, rfl, ?_, ⟨outside'', validates⟩,
    ⟨outside', activates⟩, ⟨outside, commits⟩⟩
  -- The identity of the activation was issued after the run began.
  cases recorded : e.state.activations[(⟨UInt64.ofNat
      (e.run (first ++ .validateDeployment id :: second)).idSeq⟩ : ActivationId)]? with
  | none => rfl
  | some act =>
      have older := linked.activationIds _ act recorded
      have grows := TransitionRun.run_mono Engine.idSeq Engine.idSeq_le_step e
        (first ++ .validateDeployment id :: second)
      have later : ((e.run (first ++ .validateDeployment id :: second)).step
          (.activateDeployment id)).idSeq ≤ 2 ^ 64 := by
        refine Nat.le_trans ?_ room
        have rest' := TransitionRun.run_mono Engine.idSeq Engine.idSeq_le_step
          ((e.run (first ++ .validateDeployment id :: second)).step (.activateDeployment id))
          (third ++ .commitDeployment id :: rest)
        simpa [Engine.run, TransitionRun.run_append] using rest'
      rw [toNat_ofNat_of_lt (consumed.trans_le later)] at older
      exact absurd older (Nat.not_lt.mpr grows)

/-! ## Runs -/

/-- Once retired, a deployment stays retired. -/
def RetiredStays (e : Engine) (ops : List Op) : Prop :=
  ∀ (before after : List Op) (id : DeploymentId) (dep : Deployment), ops = before ++ after →
    (e.run before).state.deployments[id]? = some dep → dep.state = .retired →
      ∃ dep', (e.run ops).state.deployments[id]? = some dep' ∧ dep'.state = .retired

/-- A deployment that waits for revalidation is authoritative again only by being revalidated. -/
def ReauthorizedByRevalidation (e : Engine) (ops : List Op) : Prop :=
  ∀ (before after : List Op) (id : DeploymentId) (dep dep' : Deployment),
    ops = before ++ after →
      (e.run before).state.deployments[id]? = some dep →
        dep.state = .revalidationRequired →
          (e.run ops).state.deployments[id]? = some dep' → dep'.authoritative = true →
            (e.run before).Revalidates after id

theorem retiredStays_of_followsTable {e : Engine} {ops : List Op}
    (follows : TransitionRun.Every Engine.step FollowsTable e ops) :
    RetiredStays e ops := by
  rintro before after id dep rfl present retired
  rw [Engine.run_append]
  refine TransitionRun.run_invariant (P := FollowsTable)
    (fun e : Engine => ∃ dep, e.state.deployments[id]? = some dep ∧ dep.state = .retired)
    ?_ ⟨dep, present, retired⟩ ((TransitionRun.every_append _ _ _ _).mp follows).2
  rintro e op follows ⟨dep, present, retired⟩
  obtain ⟨dep', present', kept | valid⟩ := follows id dep present
  · exact ⟨dep', present', kept.trans retired⟩
  · rw [retired, not_validDeploymentTransition_of_retired] at valid
    cases valid

theorem Engine.every_followsTable {e : Engine} {ops : List Op}
    (ordinary : ∀ op ∈ ops, Engine.recovers op = false) (room : (e.run ops).idSeq ≤ 2 ^ 64)
    (linked : Linked e.state e.idSeq) :
    TransitionRun.Every Engine.step (fun e op => FollowsTable e op ∧ EntersByCommit e op)
      e ops := by
  induction ops generalizing e with
  | nil => trivial
  | cons op rest ih =>
      have first : Engine.recovers op = false := ordinary op List.mem_cons_self
      have grows := TransitionRun.run_mono Engine.idSeq Engine.idSeq_le_step (e.step op) rest
      refine ⟨⟨linked.followsTable first (grows.trans room), e.entersByCommit first⟩, ?_⟩
      refine ih (fun other member => ordinary other (List.mem_cons_of_mem _ member)) room ?_
      exact linked.step first (grows.trans room)

/--
In every run of calls other than `recover_from`, with fewer than `2 ^ 64`
identities issued, each call moves each deployment along the table or leaves
its state, and `ACTIVE` is entered by a commit on a ready device.  So a fenced
deployment is authoritative again only after it has been revalidated.
-/
theorem deploymentTable_refined (epoch : CoordinatorEpoch) (policy : Policy) (ops : List Op)
    (ordinary : ∀ op ∈ ops, Engine.recovers op = false)
    (room : (Engine.run (Engine.fresh epoch policy) ops).idSeq ≤ 2 ^ 64) :
    TransitionRun.Every Engine.step (fun e op => FollowsTable e op ∧ EntersByCommit e op)
        (Engine.fresh epoch policy) ops ∧
      RetiredStays (Engine.fresh epoch policy) ops ∧
      ReauthorizedByRevalidation (Engine.fresh epoch policy) ops := by
  have every := Engine.every_followsTable ordinary room Linked.fresh
  refine ⟨every, retiredStays_of_followsTable (every.mono fun e op both => both.1), ?_⟩
  rintro before after id dep dep' rfl present waiting present' authority
  have active := (Engine.authority_run epoch policy ordinary present').mp authority
  rw [Engine.run_append] at present' room
  have room' := (TransitionRun.run_mono Engine.idSeq Engine.idSeq_le_step _ after).trans room
  obtain ⟨linked, -⟩ := Engine.linked_run epoch policy
    (fun op member => ordinary op (List.mem_append_left after member)) room'
  refine linked.revalidates (fun op member => ordinary op (List.mem_append_right before member))
    room ?_ ⟨dep', present', active, rfl⟩
  rintro state link busy ⟨other, found, stands, -⟩
  rw [present] at found
  cases found
  rw [waiting] at stands
  rcases busy with same | same | same <;> simp [same] at stands

/-- A run that fences an active deployment and takes it back to `ACTIVE`. -/
theorem deploymentTable_refined_sample :
    TransitionRun.Every Engine.step (fun e op => FollowsTable e op ∧ EntersByCommit e op)
        (Engine.fresh ⟨1⟩ (Policy.defaults ⟨1⟩))
        (Engine.sampleRun ++ ([.applyRecovery .fenceAllDynamic,
          .updateDevice Engine.sampleDevice, .validateDeployment ⟨1⟩,
          .activateDeployment ⟨1⟩, .commitDeployment ⟨1⟩] : List Op)) ∧
      RetiredStays (Engine.fresh ⟨1⟩ (Policy.defaults ⟨1⟩))
        (Engine.sampleRun ++ ([.applyRecovery .fenceAllDynamic,
          .updateDevice Engine.sampleDevice, .validateDeployment ⟨1⟩,
          .activateDeployment ⟨1⟩, .commitDeployment ⟨1⟩] : List Op)) ∧
      ReauthorizedByRevalidation (Engine.fresh ⟨1⟩ (Policy.defaults ⟨1⟩))
        (Engine.sampleRun ++ ([.applyRecovery .fenceAllDynamic,
          .updateDevice Engine.sampleDevice, .validateDeployment ⟨1⟩,
          .activateDeployment ⟨1⟩, .commitDeployment ⟨1⟩] : List Op)) :=
  deploymentTable_refined _ _ _ (by decide) (by decide +kernel)

end DPUFabric
