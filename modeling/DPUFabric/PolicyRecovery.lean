import DPUFabric.Incarnations

/-!
# What a restart makes of the policy

The state file holds most fields of the policy, and a recovery writes them over
the policy the engine was built with.  The hard capabilities and the preferred
devices are not in the file, and the weights of the file come behind those of
the engine's own policy, where no lookup finds them.
-/

namespace DPUFabric

open Std
open Persistence

/-- Two policies with the same generation, rules, thresholds and factor weights. -/
structure Policy.DecidesAs (p q : Policy) : Prop where
  generation : p.generation = q.generation
  preferWarmDeployments : p.preferWarmDeployments = q.preferWarmDeployments
  requireAuthoritativeEvidence :
    p.requireAuthoritativeEvidence = q.requireAuthoritativeEvidence
  allowHostFallback : p.allowHostFallback = q.allowHostFallback
  requireOffloadForRequired : p.requireOffloadForRequired = q.requireOffloadForRequired
  preferDedicatedIsolation : p.preferDedicatedIsolation = q.preferDedicatedIsolation
  minHeadroom : p.minHeadroom = q.minHeadroom
  maxQueuePressure : p.maxQueuePressure = q.maxQueuePressure
  minDeviceHealth : p.minDeviceHealth = q.minDeviceHealth
  hardCaps : p.hardCaps = q.hardCaps
  preferredDevices : p.preferredDevices = q.preferredDevices
  weights : ∀ f : RankFactor, p.weightOf f = q.weightOf f

/-- An evaluation under such policies ends alike, in its reports and its choice. -/
theorem Policy.DecidesAs.evaluateOffload_eq {p q : Policy} (same : p.DecidesAs q)
    (F : Type) [ScoreArith F] (snap : Snapshot) (req : OffloadRequest) :
    evaluateOffload F { snap with policy := p } req =
      evaluateOffload F { snap with policy := q } req := by
  have report : ∀ svc did dev,
      candidateReport F { snap with policy := p } req svc did dev =
        candidateReport F { snap with policy := q } req svc did dev := by
    intro svc did dev
    have rejected : rejections F { snap with policy := p } req svc did dev =
        rejections F { snap with policy := q } req svc did dev := by
      simp only [rejections, same.minDeviceHealth, same.hardCaps, same.minHeadroom,
        same.maxQueuePressure]
      rfl
    have scored : scores F { snap with policy := p } req svc did dev =
        scores F { snap with policy := q } req svc did dev := by
      simp only [scores, same.preferredDevices, same.weights]
      rfl
    simp only [candidateReport, rejected, scored]
  have reports : ∀ svc, candidateReports F { snap with policy := p } req svc =
      candidateReports F { snap with policy := q } req svc := by
    intro svc
    simp only [candidateReports, funext (report svc _)]
  simp only [evaluateOffload, reports]
  rfl

/-- The default policy names every factor, so nothing behind its weights counts. -/
theorem weightOf_restoredPolicy (s : Snapshot) (gen : PolicyGeneration) (f : RankFactor) :
    (s.restoredPolicy (Policy.defaults gen)).weightOf f = (Policy.defaults gen).weightOf f := by
  cases f <;> rfl

/-- What keeps a policy as it was: it says no more than the default policy does. -/
structure Policy.IsOrdinary (p : Policy) (gen : PolicyGeneration) : Prop where
  hardCaps : p.hardCaps = []
  preferredDevices : p.preferredDevices = []
  weights : ∀ f : RankFactor, p.weightOf f = (Policy.defaults gen).weightOf f

theorem restoredPolicy_decidesAs_iff (s : Snapshot) (gen : PolicyGeneration) :
    (s.restoredPolicy (Policy.defaults gen)).DecidesAs s.policy ↔ s.policy.IsOrdinary gen := by
  constructor
  · intro same
    refine ⟨same.hardCaps.symm, same.preferredDevices.symm, fun f => ?_⟩
    rw [← same.weights f, weightOf_restoredPolicy]
  · intro ordinary
    refine ⟨rfl, rfl, rfl, rfl, rfl, rfl, rfl, rfl, rfl, ordinary.hardCaps.symm,
      ordinary.preferredDevices.symm, fun f => ?_⟩
    rw [weightOf_restoredPolicy, ordinary.weights f]

/--
Whatever incarnations did before, a fresh engine with the default policy that
recovers from what a process persisted decides as that process did exactly if
its policy says no more than the default one: no hard capabilities, no preferred
devices, and the default weights.
-/
theorem recovered_policy_decidesAs_iff (events : List Event) {e e' : Engine}
    (running : (World.empty.run events).engine = some e) {file : List UInt8}
    (saved : serialize e.snap = .ok file) (epoch : CoordinatorEpoch) (gen : PolicyGeneration)
    (recovered : Engine.recoverFrom (some file) (Engine.fresh epoch (Policy.defaults gen)) =
      .ok true e') :
    (e'.state.policy.DecidesAs e.snap.policy ↔ e.snap.policy.IsOrdinary gen) ∧
      (e.snap.policy.IsOrdinary gen →
        ∀ (F : Type) [ScoreArith F] (snap : Snapshot) (req : OffloadRequest),
          evaluateOffload F { snap with policy := e'.state.policy } req =
            evaluateOffload F { snap with policy := e.snap.policy } req) := by
  have coherent := (World.sound_run events).engine e running
  have storable := (Engine.recoverFrom_succeeds_iff coherent.snap.devicesCounted saved epoch
    (Policy.defaults gen)).mp ⟨e', recovered⟩
  have policy : e'.state.policy = e.snap.restoredPolicy (Policy.defaults gen) := by
    rw [Engine.recoverFrom_saved coherent.snap saved storable] at recovered
    cases recovered
    exact e.snap.recovered_policy (Policy.defaults gen)
  rw [policy]
  have same := restoredPolicy_decidesAs_iff e.snap gen
  exact ⟨same, fun ordinary F _ snap req => (same.mpr ordinary).evaluateOffload_eq F snap req⟩

/-- A process with a hard capability and a policy that ranks by failure risk alone. -/
def strictPolicy : Policy :=
  { Policy.defaults ⟨1⟩ with
    hardCaps := [{}]
    weights := [⟨.declared .failureRisk, -3000000000⟩] }

/-- What the process with a policy persists, and who recovers from it. -/
theorem recovered_of_policy (policy : Policy)
    (storable : (makeSnapshot (Engine.fresh ⟨1⟩ policy).state).Storable) :
    ∃ file e', serialize (Engine.fresh ⟨1⟩ policy).snap = .ok file ∧
      Engine.recoverFrom (some file) (Engine.fresh ⟨1⟩ (Policy.defaults ⟨1⟩)) = .ok true e' ∧
      e'.state.policy =
        (Engine.fresh ⟨1⟩ policy).snap.restoredPolicy (Policy.defaults ⟨1⟩) := by
  have consistent := consistent_fresh ⟨1⟩ policy
  have writable : (makeSnapshot (Engine.fresh ⟨1⟩ policy).state).Writable := by
    constructor <;> simp [Engine.fresh, makeSnapshot, Snapshot.orderedDevices]
  rcases (serialize_ok_iff consistent.devicesCounted).mpr writable with ⟨file, saved⟩
  exact ⟨file, _, saved,
    Engine.recoverFrom_saved consistent saved storable ⟨1⟩ (Policy.defaults ⟨1⟩),
    (Engine.fresh ⟨1⟩ policy).snap.recovered_policy (Policy.defaults ⟨1⟩)⟩

theorem recovered_policy_decidesAs_iff_sample :
    ∃ file e', serialize (Engine.fresh ⟨1⟩ (Policy.defaults ⟨1⟩)).snap = .ok file ∧
      Engine.recoverFrom (some file) (Engine.fresh ⟨1⟩ (Policy.defaults ⟨1⟩)) = .ok true e' ∧
      e'.state.policy.DecidesAs (Policy.defaults ⟨1⟩) := by
  rcases recovered_of_policy (Policy.defaults ⟨1⟩) (by decide) with
    ⟨file, e', saved, recovered, -⟩
  have running : (World.empty.run [.start ⟨1⟩ (Policy.defaults ⟨1⟩)]).engine =
      some (Engine.fresh ⟨1⟩ (Policy.defaults ⟨1⟩)) := rfl
  exact ⟨file, e', saved, recovered,
    (recovered_policy_decidesAs_iff _ running saved ⟨1⟩ ⟨1⟩ recovered).1.mpr
      ⟨rfl, rfl, fun _ => rfl⟩⟩

/-- The hard capability is lost, and the ranking is that of the default policy. -/
theorem recovered_policy_loses :
    ∃ e file e', (World.empty.run [.start ⟨1⟩ strictPolicy]).engine = some e ∧
      serialize e.snap = .ok file ∧
      Engine.recoverFrom (some file) (Engine.fresh ⟨1⟩ (Policy.defaults ⟨1⟩)) = .ok true e' ∧
      e.snap.policy.hardCaps ≠ [] ∧ e'.state.policy.hardCaps = [] ∧
      e.snap.policy.weightOf .failureRisk = -3000000000 ∧
      e'.state.policy.weightOf .failureRisk = -3 := by
  rcases recovered_of_policy strictPolicy (by decide) with
    ⟨file, e', saved, recovered, restored⟩
  refine ⟨Engine.fresh ⟨1⟩ strictPolicy, file, e', rfl, saved, recovered, ?_, ?_, ?_, ?_⟩
  · decide
  · rw [restored]
    rfl
  · decide
  · rw [restored, weightOf_restoredPolicy]
    decide

end DPUFabric
