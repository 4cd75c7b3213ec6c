import DPUFabric.Reservation

/-!
# Dedicated devices

A service, or a request without one, may demand a device for its tenant alone.
The demand is tested once, against the tenant in the device record, and nothing
records it: a reservation does not set the device's tenant, and a deployment
does not carry the isolation it was admitted under.  `Tracked` runs the engine
next to a record of the demands, which the code does not keep.
-/

namespace DPUFabric

open Std
open LiveState
open Persistence

/-! ## Demands -/

/-- The spec demands a device for one tenant, and the other tenant is another one. -/
def IsolationSpec.Excludes (spec : IsolationSpec) (other : TenantId) : Prop :=
  spec.level = .declared .dedicatedDevice ∧ spec.tenant ≠ .null ∧
    other ≠ .null ∧ other ≠ spec.tenant

/-- An engine, and what each deployment's service or request demanded of its device. -/
structure Tracked where
  engine : Engine
  demand : DeploymentId → IsolationSpec

namespace Tracked

def fresh (epoch : CoordinatorEpoch) (policy : Policy) : Tracked where
  engine := Engine.fresh epoch policy
  demand _ := {}

/--
The demands after a call.  A state file names the service of a deployment and not
its request, so a file changes the demand of the deployments with a known service.
-/
def demanded (t : Tracked) : Op → DeploymentId → IsolationSpec
  | .reserveDeployment req selected =>
      match Engine.reserveDeployment req selected t.engine with
      | .ok id _ =>
          Function.update t.demand id
            (requestedIsolation req ((makeSnapshot t.engine.state).requestedService req))
      | .error _ _ => t.demand
  | .recoverFrom file => fun id =>
      match (records file).deployments[id]? with
      | none => t.demand id
      | some dep =>
          ((records file).services[dep.service]?.or t.engine.state.services[dep.service]?).elim
            (t.demand id) (·.isolation)
  | _ => t.demand

def step (t : Tracked) (op : Op) : Tracked where
  engine := t.engine.step op
  demand := t.demanded op

end Tracked

/-! ## Deployments that keep apart -/

/-- No deployment that holds a device excludes the tenant of another one that holds it. -/
def Apart (deployments : DeploymentId → Option Deployment)
    (demand : DeploymentId → IsolationSpec) : Prop :=
  ∀ (id id' : DeploymentId) (dep dep' : Deployment), id' ≠ id →
    deployments id = some dep → deployments id' = some dep' →
    dep.state.holds = true → dep'.state.holds = true → dep'.device = dep.device →
    ¬ (demand id).Excludes dep'.tenant

/-- Dedicated devices are exclusive. -/
def Exclusive (t : Tracked) : Prop :=
  Apart (fun id => t.engine.state.deployments[id]?) t.demand

/-- What `Apart` reads of a deployment is what it reads of another. -/
structure SameHold (dep dep' : Deployment) : Prop where
  device : dep'.device = dep.device
  tenant : dep'.tenant = dep.tenant
  holds : dep.state.holds = true

/-- Deployments keep apart if each of those that hold already held. -/
theorem Apart.of_origin {before after : DeploymentId → Option Deployment}
    {demand : DeploymentId → IsolationSpec}
    (origin : ∀ id dep', after id = some dep' → dep'.state.holds = true →
      ∃ dep, before id = some dep ∧ SameHold dep dep')
    (apart : Apart before demand) : Apart after demand := by
  intro id id' dep dep' differs present present' holds holds' shared
  obtain ⟨old, known, same⟩ := origin id dep present holds
  obtain ⟨old', known', same'⟩ := origin id' dep' present' holds'
  rw [same'.tenant]
  refine apart id id' old old' differs known known' same.holds same'.holds ?_
  rw [← same.device, ← same'.device, shared]

/-! ## The calls that admit nothing -/

/-- A call that only takes a deployment a step does not make it hold its device. -/
theorem DeploymentStep.sameHold {s : LiveState} {seq : Nat} {op : Op} {id : DeploymentId}
    {dep dep' : Deployment} (taken : DeploymentStep s seq op id dep dep')
    (unreserved : ∀ req selected, op ≠ .reserveDeployment req selected)
    (holds : dep'.state.holds = true) : SameHold dep dep' := by
  cases taken with
  | kept => exact ⟨rfl, rfl, holds⟩
  | fenced chosen =>
      refine ⟨rfl, rfl, ?_⟩
      rcases Op.fences_running chosen with active | degraded | draining
      · rw [active]; rfl
      · rw [degraded]; rfl
      · rw [draining]; rfl
  | replaced reserves => exact absurd reserves (unreserved _ _)
  | moved moves valid =>
      refine ⟨rfl, rfl, ?_⟩
      cases op <;> cases moves <;> cases state : dep.state <;> rw [state] at valid <;>
        first | rfl | cases valid
  | activated activates valid =>
      refine ⟨rfl, rfl, ?_⟩
      cases state : dep.state <;> rw [state] at valid <;> first | rfl | cases valid
  | committed commits activating =>
      refine ⟨rfl, rfl, ?_⟩
      rw [activating]
      rfl
  | ended ends allowed =>
      refine ⟨rfl, rfl, ?_⟩
      cases op <;> cases ends <;> cases holds
      cases state : dep.state <;> rw [state] at allowed <;> first | rfl | cases allowed

theorem Engine.holding_origin (e : Engine) {op : Op} (ordinary : Engine.recovers op = false)
    (unreserved : ∀ req selected, op ≠ .reserveDeployment req selected)
    {id : DeploymentId} {dep' : Deployment}
    (present' : (e.step op).state.deployments[id]? = some dep')
    (holds : dep'.state.holds = true) :
    ∃ dep, e.state.deployments[id]? = some dep ∧ SameHold dep dep' := by
  cases present : e.state.deployments[id]? with
  | some dep =>
      obtain ⟨dep'', known, takes⟩ := e.deployment_step ordinary present
      rw [known] at present'
      cases present'
      refine ⟨dep, rfl, ?_⟩
      rcases takes with rfl | ⟨-, taken⟩
      · exact ⟨rfl, rfl, holds⟩
      · exact taken.sameHold unreserved holds
  | none =>
      cases plain : op.isPlain with
      | true =>
          rcases Engine.step_cases e plain with ⟨s, seq, accepted, result⟩ | ⟨-, quiet⟩
          · rw [result] at present'
            rcases accepted.deployment_of_absent present with
              gone | ⟨req, device, -, -, -, reserves, -⟩
            · rw [gone] at present'
              cases present'
            · exact absurd reserves (unreserved _ _)
          · rw [quiet.state, present] at present'
            cases present'
      | false =>
          cases op <;> try cases plain
          · rw [Engine.step_runAllBackends_deployments, present] at present'
            cases present'
          · cases ordinary

/-! ## Reservations and recoveries -/

/-- The deployments that stand after the records of a file were laid over the live ones. -/
def Tracked.laid (t : Tracked) (file : Option (List UInt8)) (id : DeploymentId) :
    Option Deployment :=
  (records file).deployments[id]?.or t.engine.state.deployments[id]?

/-- Fencing a recovered deployment takes nothing from it that `Apart` reads. -/
theorem fenceRecoveredDeployment_sameHold (dep : Deployment) :
    (fenceRecoveredDeployment dep).device = dep.device ∧
      (fenceRecoveredDeployment dep).tenant = dep.tenant ∧
      (fenceRecoveredDeployment dep).state.holds = dep.state.holds := by
  unfold fenceRecoveredDeployment
  split_ifs with running
  · refine ⟨rfl, rfl, ?_⟩
    rcases running with active | degraded | draining
    · rw [active]; rfl
    · rw [degraded]; rfl
    · rw [draining]; rfl
  · exact ⟨rfl, rfl, rfl⟩

/-- What a recovery leaves of the deployments, up to what `Apart` reads. -/
theorem Tracked.apart_recovered_iff (t : Tracked) (file : Option (List UInt8))
    (demand : DeploymentId → IsolationSpec) :
    Apart (fun id => (t.engine.step (.recoverFrom file)).state.deployments[id]?) demand ↔
      Apart (t.laid file) demand := by
  have unread : records file = {} → t.laid file = fun id => t.engine.state.deployments[id]? := by
    intro empty
    funext id
    simp [Tracked.laid, empty]
  cases recoverFrom_cases file t.engine with
  | missing absent result =>
      rw [result, unread (by rw [absent]; rfl)]
  | rejected empty wellFormed result =>
      rw [result, unread empty]
  | malformed malformed overlay thrown result =>
      rw [result]
      have same : (fun id : DeploymentId => _) = t.laid file :=
        funext fun id => overlay.deployments id
      rw [same]
  | @accepted out wellFormed overlay result =>
      have fenced : ∀ id : DeploymentId,
          (t.engine.step (.recoverFrom file)).state.deployments[id]? =
            (t.laid file id).map fenceRecoveredDeployment := by
        intro id
        rw [result, rebuildLedgers_eq]
        simp only [fenceRecovered, ExtTreeMap.getElem?_map, Tracked.laid, overlay.deployments id]
      constructor
      · refine Apart.of_origin fun id dep present holds => ?_
        obtain ⟨device, tenant, holding⟩ := fenceRecoveredDeployment_sameHold dep
        exact ⟨fenceRecoveredDeployment dep, by rw [fenced, present]; rfl,
          device.symm, tenant.symm, by rw [holding]; exact holds⟩
      · refine Apart.of_origin fun id dep' present' holds => ?_
        rw [fenced] at present'
        obtain ⟨dep, present, rfl⟩ := Option.map_eq_some_iff.mp present'
        obtain ⟨device, tenant, holding⟩ := fenceRecoveredDeployment_sameHold dep
        exact ⟨dep, present, device, tenant, by rw [← holding]; exact holds⟩

/--
A reservation finds no other deployment on the device that excludes its tenant, or
whose tenant it excludes; a file leaves none.
-/
def KeepsApart (t : Tracked) : Op → Prop
  | .reserveDeployment req selected =>
      ∀ id e', Engine.reserveDeployment req selected t.engine = .ok id e' →
        ∀ (other : DeploymentId) (dep : Deployment), other ≠ id →
          t.engine.state.deployments[other]? = some dep → dep.state.holds = true →
          selected = some dep.device →
          ¬ (t.demand other).Excludes req.tenant ∧
            ¬ (requestedIsolation req
              ((makeSnapshot t.engine.state).requestedService req)).Excludes dep.tenant
  | .recoverFrom file => Apart (t.laid file) (t.demanded (.recoverFrom file))
  | _ => True

/-- A reservation that returns adds one deployment to those that kept apart. -/
theorem Tracked.exclusive_reserved_iff {t : Tracked} (exclusive : Exclusive t)
    {req : OffloadRequest} {selected : Option DeviceId} {id : DeploymentId} {e' : Engine}
    (returned : Engine.reserveDeployment req selected t.engine = .ok id e') :
    Exclusive (t.step (.reserveDeployment req selected)) ↔
      KeepsApart t (.reserveDeployment req selected) := by
  have after : t.engine.step (.reserveDeployment req selected) = e' :=
    Engine.after_of_ok (by rw [Engine.exec, Engine.discard_apply, returned])
  have demand : (t.step (.reserveDeployment req selected)).demand =
      Function.update t.demand id
        (requestedIsolation req ((makeSnapshot t.engine.state).requestedService req)) := by
    simp only [Tracked.step, Tracked.demanded, returned]
  obtain ⟨did, rfl⟩ := Engine.selected_of_returns returned
  obtain ⟨dev, svc, ledger, dep, reserves⟩ := Engine.reserves_of_returns returned
  have holds : dep.state.holds = true := by rw [reserves.made]; rfl
  have tenant : dep.tenant = req.tenant := by rw [reserves.made]; rfl
  have kept : ∀ other : DeploymentId, other ≠ id →
      e'.state.deployments[other]? = t.engine.state.deployments[other]? := by
    intro other differs
    obtain ⟨issued, accepted⟩ := Engine.reserveDeployment_returns returned
    exact accepted.reserved_elsewhere (by rw [← issued]; exact differs)
  have table : (fun id : DeploymentId =>
      (t.step (.reserveDeployment req (some did))).engine.state.deployments[id]?) =
        fun id => e'.state.deployments[id]? := by
    simp only [Tracked.step, after]
  unfold Exclusive
  rw [table, demand]
  constructor
  · intro apart id' e'' returned' other dep' differs present holds' here
    rw [returned] at returned'
    cases returned'
    cases here
    have unchanged := (kept other differs).trans present
    constructor
    · have outer := apart other id dep' dep differs.symm unchanged reserves.deployment holds'
        holds reserves.device
      rw [Function.update_of_ne differs, tenant] at outer
      exact outer
    · have inner := apart id other dep dep' differs reserves.deployment unchanged holds holds'
        reserves.device.symm
      rw [Function.update_self] at inner
      exact inner
  · intro keeps first second dep₁ dep₂ differs present₁ present₂ holds₁ holds₂ shared
    by_cases newFirst : first = id
    · subst newFirst
      have same : dep = dep₁ := Option.some.inj (reserves.deployment.symm.trans present₁)
      subst same
      rw [Function.update_self]
      refine (keeps first e' returned second dep₂ differs
        ((kept second differs).symm.trans present₂) holds₂ ?_).2
      rw [shared, reserves.device]
    · rw [Function.update_of_ne newFirst]
      have before₁ := (kept first newFirst).symm.trans present₁
      by_cases newSecond : second = id
      · subst newSecond
        have same : dep = dep₂ := Option.some.inj (reserves.deployment.symm.trans present₂)
        subst same
        rw [tenant]
        refine (keeps second e' returned first dep₁ newFirst before₁ holds₁ ?_).1
        rw [← shared, reserves.device]
      · exact exclusive first second dep₁ dep₂ differs before₁
          ((kept second newSecond).symm.trans present₂) holds₁ holds₂ shared

theorem Tracked.exclusive_step_iff {t : Tracked} (exclusive : Exclusive t) (op : Op) :
    Exclusive (t.step op) ↔ KeepsApart t op := by
  have otherwise : Engine.recovers op = false →
      (∀ req selected, op ≠ .reserveDeployment req selected) →
      t.demanded op = t.demand → Exclusive (t.step op) := by
    intro ordinary unreserved same
    unfold Exclusive
    simp only [Tracked.step, same]
    exact exclusive.of_origin fun id dep' present' holds =>
      t.engine.holding_origin ordinary unreserved present' holds
  cases op with
  | recoverFrom file => exact t.apart_recovered_iff file _
  | reserveDeployment req selected =>
      cases returned : Engine.reserveDeployment req selected t.engine with
      | ok id e' => exact exclusive_reserved_iff exclusive returned
      | error fault e' =>
          have unchanged : (t.engine.step (.reserveDeployment req selected)).state =
              t.engine.state := by
            rw [Engine.step, Engine.exec, Engine.after, Engine.discard_apply, returned]
            exact (Engine.quiet_of_reserve_throws returned).state
          have same : (t.step (.reserveDeployment req selected)).demand = t.demand := by
            simp only [Tracked.step, Tracked.demanded, returned]
          refine iff_of_true ?_ ?_
          · unfold Exclusive
            rw [same]
            simp only [Tracked.step, unchanged]
            exact exclusive
          · rintro id e'' returned'
            rw [returned] at returned'
            cases returned'
  | _ => exact iff_of_true (otherwise rfl (by simp) rfl) trivial

/--
Dedicated devices are exclusive in every state that a run reaches exactly when no
reservation of the run finds, among the deployments that hold the device, one that
excludes its tenant or whose tenant it excludes, and no state file contains one.
-/
theorem dedicated_exclusive_iff (epoch : CoordinatorEpoch) (policy : Policy)
    (ops : List Op) :
    TransitionRun.Every Tracked.step (fun t op => Exclusive (t.step op))
        (Tracked.fresh epoch policy) ops ↔
      TransitionRun.Every Tracked.step KeepsApart (Tracked.fresh epoch policy) ops := by
  refine TransitionRun.every_iff_of_invariant Exclusive
    (fun t op exclusive => t.exclusive_step_iff exclusive op)
    (fun t op after _ => after) ?_ ops
  intro id id' dep dep' differs present
  simp [Tracked.fresh, Engine.fresh] at present

/-! ## Two tenants on one device -/

def dedicatedRequest (tenant : TenantId) : OffloadRequest :=
  { tenant := tenant
    isolation := { level := .declared .dedicatedDevice, tenant := tenant } }

def dedicatedRun : List Op :=
  [.registerDevice cryptoDevice, .reserveDeployment (dedicatedRequest ⟨7⟩) (some ⟨1⟩)]

/-- A run in which every reservation uses what an evaluation of its state selects. -/
def ReservesEvaluated (F : Type) [ScoreArith F] : Engine → List Op → Prop :=
  TransitionRun.Every Engine.step fun e op =>
    ∀ req selected, op = .reserveDeployment req selected →
      ∃ result : EligibilityResult F, e.evaluate F req = .ok result ∧ result.selected = selected

theorem dedicatedRequest_passes :
    Passes ℚ cryptoEngine.snap (dedicatedRequest ⟨7⟩) ⟨1⟩ cryptoDevice where
  listed := List.mem_cons_self
  registered := rfl
  clean := by decide +kernel

theorem dedicatedRequest_passes_again :
    Passes ℚ (Engine.sampleEngine.run dedicatedRun).snap (dedicatedRequest ⟨8⟩) ⟨1⟩
      cryptoDevice where
  listed := List.mem_cons_self
  registered := rfl
  clean := by decide +kernel

/-- Two tenants each demand the device for themselves, and both get it. -/
theorem dedicated_not_exclusive :
    ∃ ops, ReservesEvaluated ℚ Engine.sampleEngine ops ∧
      ¬ Exclusive (TransitionRun.run Tracked.step
        (Tracked.fresh ⟨1⟩ (Policy.defaults ⟨1⟩)) ops) := by
  refine ⟨dedicatedRun ++ [.reserveDeployment (dedicatedRequest ⟨8⟩) (some ⟨1⟩)], ?_, ?_⟩
  · refine ⟨fun req selected reserves => (by cases reserves), ?_, ?_, trivial⟩
    · rintro req selected ⟨⟩
      exact ⟨_, evaluateOffload_only rfl ⟨by decide, by decide⟩ dedicatedRequest_passes, rfl⟩
    · rintro req selected ⟨⟩
      exact ⟨_, evaluateOffload_only rfl ⟨by decide, by decide⟩ dedicatedRequest_passes_again,
        rfl⟩
  · intro exclusive
    refine exclusive ⟨1⟩ ⟨3⟩ _ _ (by decide) rfl rfl rfl rfl rfl ⟨rfl, ?_, ?_, ?_⟩ <;> decide

end DPUFabric
