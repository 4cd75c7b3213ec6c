import DPUFabric.Readiness

/-!
# Losing a worker

`mark_worker_lost` selects devices by their owning worker, and deployments by
the worker boot they recorded.  The second selection reaches what is live on
the devices of the first only if the boot was captured, which neither
`reserve` nor `commit` does.
-/

namespace DPUFabric

open Std
open LiveState

/-- After a worker is lost nothing is live on the devices it owns. -/
def FencesLostWorker (e : Engine) (op : Op) : Prop :=
  ∀ (worker : WorkerId) (boot : WorkerBootId) (device : DeviceId) (dev : DeviceRecord),
    op = .markWorkerLost worker → e.state.workers[worker]? = some boot →
      e.state.devices[device]? = some dev → dev.owningWorker = worker →
        NothingLive (e.step op).state device

/-- The deployments bound to the worker's boot account for all that is live there. -/
def ReachesLostWorker (e : Engine) (op : Op) : Prop :=
  ∀ (worker : WorkerId) (boot : WorkerBootId) (device : DeviceId) (dev : DeviceRecord),
    op = .markWorkerLost worker → e.state.workers[worker]? = some boot →
      e.state.devices[device]? = some dev → dev.owningWorker = worker →
        SweepReaches e.state (boundTo boot) device

theorem fencesLostWorker_iff (e : Engine) (op : Op) :
    FencesLostWorker e op ↔ ReachesLostWorker e op := by
  refine forall₄_congr fun worker boot device dev => ?_
  refine forall₄_congr fun lost known present owned => ?_
  subst lost
  have chosen : (Op.markWorkerLost worker).fences e.state = boundTo boot := by
    funext dep
    simp [Op.fences, known]
  have plain : (Op.markWorkerLost worker).isPlain = true := rfl
  rcases Engine.step_cases e plain with
    ⟨s, seq, accepted, result⟩ | ⟨refused, -⟩
  · obtain ⟨deployments, activations⟩ := accepted.swept rfl
    rw [result]
    rw [chosen] at deployments activations
    exact nothingLive_swept_iff deployments activations device
  · exact absurd .markWorkerLost (refused _ _)

/-- A device whose worker registered before the deployment was made. -/
def ownedRun : List Op :=
  [.registerWorker ⟨7⟩ ⟨9⟩,
    .registerDevice { Engine.sampleDevice with owningWorker := ⟨7⟩, ownerWorkerBoot := ⟨9⟩ }] ++
    Engine.deployOn ⟨1⟩ ⟨1⟩

/-- The deployment stays active when its device's worker is lost. -/
theorem lostWorker_keepsActive :
    ¬ FencesLostWorker (Engine.run Engine.sampleEngine ownedRun) (.markWorkerLost ⟨7⟩) := by
  intro fences
  have known : (Engine.run Engine.sampleEngine ownedRun).state.workers[(⟨7⟩ : WorkerId)]? =
      some ⟨9⟩ := by
    decide
  have owned : ((Engine.run Engine.sampleEngine ownedRun).state.devices[
      (⟨1⟩ : DeviceId)]?.map (·.owningWorker)) = some ⟨7⟩ := by
    decide
  have live : (((Engine.run Engine.sampleEngine ownedRun).step
      (.markWorkerLost ⟨7⟩)).state.deployments[(⟨1⟩ : DeploymentId)]?.map
        fun dep => (dep.device, dep.state)) = some (⟨1⟩, .active) := by
    decide
  obtain ⟨dev, present, owner⟩ := Option.map_eq_some_iff.mp owned
  obtain ⟨dep, found, facts⟩ := Option.map_eq_some_iff.mp live
  rw [Prod.mk.injEq] at facts
  have quiet := fences ⟨7⟩ ⟨9⟩ ⟨1⟩ dev rfl known present owner
  exact (quiet.deployments _ dep found facts.1).1 facts.2

/--
In every run, the loss of a worker fences the devices it owns exactly when
the deployments that recorded its boot account for all that is live on them.
-/
theorem workerLoss_fences_iff (epoch : CoordinatorEpoch) (policy : Policy)
    (ops : List Op) :
    TransitionRun.Every Engine.step (Engine.EachCall FencesLostWorker)
        (Engine.fresh epoch policy) ops ↔
      TransitionRun.Every Engine.step (Engine.EachCall ReachesLostWorker)
        (Engine.fresh epoch policy) ops :=
  TransitionRun.every_congr (Engine.eachCall_congr fencesLostWorker_iff) _ _

/-! ## No boot is ever captured -/

/-- No deployment recorded a boot, and no worker registered the null one. -/
structure Unbound (s : LiveState) : Prop where
  deployments : ∀ (id : DeploymentId) (dep : Deployment),
    s.deployments[id]? = some dep → dep.workerBoot = .null
  workers : ∀ (worker : WorkerId) (boot : WorkerBootId),
    s.workers[worker]? = some boot → boot ≠ .null

theorem DeploymentStep.workerBoot
    {s : LiveState} {seq : Nat} {op : Op} {id : DeploymentId} {dep dep' : Deployment}
    (taken : DeploymentStep s seq op id dep dep') (unbound : dep.workerBoot = .null) :
    dep'.workerBoot = .null := by
  cases taken <;> first | exact unbound | rfl

theorem Accepted.unbound
    {s s' : LiveState} {seq seq' : Nat} {op : Op} (accepted : Accepted s seq op s' seq')
    (holds : Unbound s) : Unbound s' := by
  constructor
  · intro id dep' present'
    cases present : s.deployments[id]? with
    | none =>
        rcases accepted.deployment_of_absent present with
          gone | ⟨req, device, dev, svc, attempt, -, -, -, -, -, created⟩
        · rw [gone] at present'
          cases present'
        · rw [created] at present'
          cases present'
          rfl
    | some dep =>
        obtain ⟨found, present'', taken⟩ := accepted.deployment_of_present present
        rw [present''] at present'
        cases present'
        exact taken.workerBoot (holds.deployments id dep present)
  · intro worker boot present'
    rcases accepted.worker_of_present present' with present | ⟨-, booted⟩
    · exact holds.workers worker boot present
    · exact booted

theorem unbound_run (epoch : CoordinatorEpoch) (policy : Policy) {ops : List Op}
    (ordinary : ∀ op ∈ ops, Engine.recovers op = false) :
    Unbound (Engine.run (Engine.fresh epoch policy) ops).state := by
  refine TransitionRun.run_invariant (P := fun _ op => Engine.recovers op = false)
    (fun e : Engine => Unbound e.state) ?_ ?_
    (TransitionRun.every_of_forall_mem _ ordinary)
  · intro e op ordinary holds
    exact Engine.step_keeps (fun s _ => Unbound s) (fun _ kept => kept)
      (fun accepted kept => accepted.unbound kept) e ordinary holds
  · constructor <;> simp [Engine.fresh]

/--
Along a run without recovery the loop over the deployments selects nothing,
so the loss of a worker fences its devices only if nothing was live on them.
-/
theorem reachesLostWorker_iff_of_ordinary
    (epoch : CoordinatorEpoch) (policy : Policy) {ops : List Op}
    (ordinary : ∀ op ∈ ops, Engine.recovers op = false)
    {worker : WorkerId} {boot : WorkerBootId}
    (known : (Engine.run (Engine.fresh epoch policy) ops).state.workers[worker]? = some boot)
    (device : DeviceId) :
    SweepReaches (Engine.run (Engine.fresh epoch policy) ops).state (boundTo boot) device ↔
      NothingLive (Engine.run (Engine.fresh epoch policy) ops).state device := by
  have unbound := unbound_run epoch policy ordinary
  have selectsNone : ∀ dep, (fun _ : Deployment => false) dep = false := fun _ => rfl
  refine Iff.trans ?_ (sweepReaches_of_none selectsNone device)
  have booted := unbound.workers worker boot known
  have nothing : ∀ (id : DeploymentId) (dep : Deployment),
      (Engine.run (Engine.fresh epoch policy) ops).state.deployments[id]? = some dep →
        boundTo boot dep = false := by
    intro id dep present
    have different : dep.workerBoot ≠ boot := by
      rw [unbound.deployments id dep present]
      exact fun same => booted same.symm
    simp [boundTo, different]
  constructor
  · intro reaches
    refine ⟨fun id dep present here live => ?_, fun aid act dep recorded present here active => ?_⟩
    · rw [← nothing id dep present]
      exact reaches.deployments id dep present here live
    · obtain ⟨id, other, found, chosen, linked⟩ :=
        reaches.activations aid act dep recorded present here active
      exact ⟨id, other, found, by rw [nothing id other found] at chosen; exact chosen, linked⟩
  · intro reaches
    refine ⟨fun id dep present here live => ?_, fun aid act dep recorded present here active => ?_⟩
    · cases reaches.deployments id dep present here live
    · obtain ⟨id, other, found, chosen, linked⟩ :=
        reaches.activations aid act dep recorded present here active
      cases chosen

end DPUFabric
