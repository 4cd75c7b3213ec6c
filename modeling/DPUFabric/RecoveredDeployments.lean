import DPUFabric.DeploymentLifecycle
import DPUFabric.Incidents

/-!
# Deployments that a process did not make itself

A process starts its identity counter anew, and with no activations, but it
takes over the deployments of the state file.  So the counter may name one of
them again, and one that was persisted between `activate` and `commit` is still
activating without an activation.
-/

namespace DPUFabric

open Std
open LiveState
open Persistence

/-! ## Identities -/

/-- The keys of the deployment table: those taken over, and those issued since. -/
structure Drawn (inherited : ExtTreeMap DeploymentId Deployment) (s : LiveState) (seq : Nat) :
    Prop where
  kept : ∀ (id : DeploymentId) (dep : Deployment), inherited[id]? = some dep →
    ∃ dep', s.deployments[id]? = some dep'
  drawn : seq ≤ 2 ^ 64 → ∀ (id : DeploymentId) (dep : Deployment),
    s.deployments[id]? = some dep → inherited[id]? = none → id.value.toNat < seq

namespace Drawn

variable {inherited : ExtTreeMap DeploymentId Deployment} {s s' : LiveState} {seq seq' : Nat}

theorem start (s : LiveState) (seq : Nat) : Drawn s.deployments s seq := by
  constructor
  · exact fun id dep present => ⟨dep, present⟩
  · intro _ id dep present absent
    rw [present] at absent
    cases absent

theorem mono (grows : seq ≤ seq') (holds : Drawn inherited s seq) : Drawn inherited s seq' :=
  ⟨holds.kept, fun room id dep present absent =>
    (holds.drawn (grows.trans room) id dep present absent).trans_le grows⟩

theorem accepted {op : Op} (accepted : Accepted s seq op s' seq')
    (holds : Drawn inherited s seq) : Drawn inherited s' seq' := by
  constructor
  · intro id dep taken
    rcases holds.kept id dep taken with ⟨old, present⟩
    rcases accepted.deployment_of_present present with ⟨dep', present', -⟩
    exact ⟨dep', present'⟩
  · intro room id dep' present' absent
    cases present : s.deployments[id]? with
    | some dep => exact (holds.mono accepted.seq_le).drawn room id dep present absent
    | none =>
        rcases accepted.deployment_of_absent present with
          gone | ⟨req, device, dev, svc, attempt, rfl, issued, -⟩
        · rw [gone] at present'
          cases present'
        · have consumed := accepted.seq_lt_of_issues rfl
          rw [issued, toNat_ofNat_of_lt (consumed.trans_le room)]
          exact consumed

end Drawn

namespace World

theorem drawn_run (events : List Event) {e : Engine}
    (running : (empty.run events).engine = some e) :
    Drawn (empty.run events).inherited e.state e.idSeq := by
  refine TransitionRun.run_invariant_of_step
    (fun w : World => ∀ e, w.engine = some e → Drawn w.inherited e.state e.idSeq)
    ?_ ?_ events e running
  · intro w event holds e running
    cases origin running with
    | started booted inherits =>
        rw [inherits]
        exact .start e.state e.idSeq
    | called before result =>
        rename_i op ordinary old
        rw [result]
        exact Engine.step_keeps (Drawn w.inherited) Drawn.mono Drawn.accepted old ordinary
          (holds old before)
    | persisted before result =>
        rw [result]
        exact holds e before
  · intro e running
    cases running

end World

/--
However incarnations took turns: while less than `2 ^ 64` identities are issued,
a reservation returns a new identity and leaves every other deployment alone
exactly if the counter does not stand on a deployment that the process took over
from the state file.
-/
theorem reserved_id_fresh_iff (events : List Event) {e e' : Engine}
    (running : (World.empty.run events).engine = some e) {req : OffloadRequest}
    {selected : Option DeviceId} {id : DeploymentId}
    (reserved : Engine.reserveDeployment req selected e = .ok id e')
    (room : e'.idSeq ≤ 2 ^ 64) :
    (e.state.deployments[id]? = none ∧
        ∀ other : DeploymentId, other ≠ id →
          e'.state.deployments[other]? = e.state.deployments[other]?) ↔
      (World.empty.run events).inherited[(⟨UInt64.ofNat e.idSeq⟩ : DeploymentId)]? = none := by
  have holds := World.drawn_run events running
  rcases Engine.reserveDeployment_returns reserved with ⟨rfl, accepted⟩
  constructor
  · rintro ⟨absent, -⟩
    cases taken : (World.empty.run events).inherited[
        (⟨UInt64.ofNat e.idSeq⟩ : DeploymentId)]? with
    | none => rfl
    | some dep =>
        rcases holds.kept _ dep taken with ⟨dep', present⟩
        rw [present] at absent
        cases absent
  · intro absent
    have consumed := accepted.seq_lt_of_issues rfl
    constructor
    · cases present : e.state.deployments[(⟨UInt64.ofNat e.idSeq⟩ : DeploymentId)]? with
      | none => rfl
      | some dep =>
          have below := holds.drawn (consumed.le.trans room) _ dep present absent
          rw [toNat_ofNat_of_lt (consumed.trans_le room)] at below
          exact absurd below (lt_irrefl _)
    · exact fun other differs => accepted.reserved_elsewhere differs

theorem reserved_id_fresh_iff_sample :
    ∃ events e id e', (World.empty.run events).engine = some e ∧
      Engine.reserveDeployment {} (some ⟨1⟩) e = .ok id e' ∧
      e.state.deployments[id]? = none := by
  have plain : ∀ op ∈ [Op.registerDevice Engine.sampleDevice], Engine.recovers op = false := by
    decide
  have served := World.run_sampleProcess plain
  have returned : Engine.succeeds (Engine.reserveDeployment {} (some ⟨1⟩))
      (Engine.sampleEngine.run [.registerDevice Engine.sampleDevice]) = true := by
    decide
  rcases Engine.eq_ok_of_succeeds returned with ⟨id, reserved⟩
  refine ⟨_, _, id, _, congrArg World.engine served, reserved,
    ((reserved_id_fresh_iff _ (congrArg World.engine served) reserved ?_).mpr ?_).1⟩
  · decide
  · rw [served]
    rfl

/-- The first reservation after a restart overwrites the first deployment before it. -/
theorem reserved_id_taken :
    ∃ events e id e', (World.empty.run events).engine = some e ∧
      Engine.reserveDeployment {} (some ⟨1⟩) e = .ok id e' ∧ e'.idSeq ≤ 2 ^ 64 ∧
      (e.state.deployments[id]?.map fun dep => dep.state) = some .revalidationRequired ∧
      (e'.state.deployments[id]?.map fun dep => dep.state) = some .reserved := by
  have plain : ∀ op ∈ Engine.sampleRun, Engine.recovers op = false := by
    decide
  have plain' : ∀ op ∈ [Op.updateDevice Engine.sampleDevice], Engine.recovers op = false := by
    decide
  rcases World.run_sampleRestart plain plain' rfl (by decide) (by decide) with
    ⟨file, -, served⟩
  have returned : Engine.succeeds (Engine.reserveDeployment {} (some ⟨1⟩))
      ((Engine.successor (Engine.sampleEngine.run Engine.sampleRun).snap
        (Policy.defaults ⟨1⟩)).run [.updateDevice Engine.sampleDevice]) = true := by
    decide
  rcases Engine.eq_ok_of_succeeds returned with ⟨id, reserved⟩
  have issued := (Engine.reserveDeployment_returns reserved).1
  refine ⟨_, _, id, _, congrArg World.engine served, reserved, ?_, ?_, ?_⟩
  · decide
  · rw [issued]
    decide
  · rw [issued]
    decide

/-! ## Activations -/

/-- Every activating deployment has an activation that is in the table. -/
def ActivatingLinked (s : LiveState) : Prop :=
  ∀ (id : DeploymentId) (dep : Deployment), s.deployments[id]? = some dep →
    dep.state = .activating → ∃ aid act, dep.activation = some aid ∧ s.activations[aid]? = some act

theorem Accepted.activatingLinked {s s' : LiveState} {seq seq' : Nat} {op : Op}
    (accepted : Accepted s seq op s' seq') (linked : ActivatingLinked s) :
    ActivatingLinked s' := by
  intro id dep' present' activating
  cases present : s.deployments[id]? with
  | none =>
      rcases accepted.deployment_of_absent present with
        gone | ⟨req, device, dev, svc, attempt, -, -, -, -, -, created⟩
      · rw [gone] at present'
        cases present'
      · rw [created] at present'
        cases present'
        cases activating
  | some dep =>
      rcases accepted.deployment_of_present present with ⟨found, present'', taken⟩
      rw [present''] at present'
      cases present'
      rcases taken.of_activating activating with rfl | ⟨rfl, -, link⟩
      · rcases linked id dep' present activating with ⟨aid, act, link, recorded⟩
        rcases accepted.activation_of_present recorded with ⟨act', recorded'⟩
        exact ⟨aid, act', link, recorded'⟩
      · cases accepted with
        | activateDeployment located valid =>
            exact ⟨_, _, link, (OrderedMap.lookup_insert _ _ _ _).trans (if_pos rfl)⟩
        | moveDeployment moves => cases moves
        | endDeployment ends => cases ends

/-- A commit in such a state finds the activation it reads. -/
theorem ActivatingLinked.commit_defined {e : Engine} (linked : ActivatingLinked e.state)
    (id : DeploymentId) (e' : Engine) :
    Engine.commitDeployment id e ≠ .error .undefinedBehavior e' := by
  intro broken
  unfold Engine.commitDeployment at broken
  rw [Engine.live_bind] at broken
  cases present : e.state.deployments[id]? with
  | none =>
      rw [Engine.find_bind_none e present] at broken
      cases broken
  | some dep =>
  rw [Engine.find_bind_some e present, Engine.throwIf_bind] at broken
  by_cases activating : dep.state = .activating
  case neg =>
      rw [if_pos (bne_iff_ne.mpr activating)] at broken
      cases broken
  rw [if_neg (by simp [activating])] at broken
  cases located : e.state.devices[dep.device]? with
  | none =>
      rw [Engine.find_bind_none e located] at broken
      cases broken
  | some dev =>
  rw [Engine.find_bind_some e located, Engine.throwIf_bind, Engine.throwIf_bind] at broken
  -- The two guards throw errors of their own; then the activation is read.
  split_ifs at broken
  · cases broken
  · cases broken
  rcases linked id dep present activating with ⟨aid, act, link, recorded⟩
  simp only [link, Engine.find_bind_some e recorded] at broken
  cases broken

/-- A recovery clears the activations, so it must not find an activating deployment. -/
theorem activatingLinked_recovered_iff (out : LiveState) :
    ActivatingLinked (fenceRecovered out).rebuildLedgers ↔
      ∀ (id : DeploymentId) (dep : Deployment), out.deployments[id]? = some dep →
        dep.state ≠ .activating := by
  have lookup : ∀ id : DeploymentId, (fenceRecovered out).deployments[id]? =
      out.deployments[id]?.map fenceRecoveredDeployment := by
    intro id
    rw [fenceRecovered, ExtTreeMap.getElem?_map]
  rw [rebuildLedgers_eq]
  constructor
  · intro linked id dep present activating
    rcases linked id (fenceRecoveredDeployment dep) (by rw [lookup, present]; rfl)
      (by simp [fenceRecoveredDeployment, activating]) with ⟨aid, act, -, recorded⟩
    change (∅ : ExtTreeMap ActivationId ActivationRecord)[aid]? = some act at recorded
    cases recorded
  · intro settled id dep' present' activating
    rw [lookup, Option.map_eq_some_iff] at present'
    rcases present' with ⟨dep, present, rfl⟩
    refine absurd ?_ (settled id dep present)
    simp only [fenceRecoveredDeployment] at activating
    split_ifs at activating
    exact activating

theorem Persistence.ParserWrite.activations {change : LiveState → LiveState}
    (writes : ParserWrite change) (out : LiveState) :
    (change out).activations = out.activations := by
  cases writes <;> rfl

/--
A recovery finds no deployment that would miss its activation.  An accepted file
clears all activations, so there is no activating deployment in the file, nor one
of the engine that the file does not replace.  A malformed file clears none, so
the activating deployments in what is read of it have activations of the engine.
-/
structure RecoversSettled (e : Engine) (file : Option (List UInt8)) : Prop where
  accepted : isAccepted file = true → ∀ (id : DeploymentId) (dep : Deployment),
    (records file).deployments[id]?.or e.state.deployments[id]? = some dep →
      dep.state ≠ .activating
  malformed : isMalformed file = true → ∀ (id : DeploymentId) (dep : Deployment),
    (records file).deployments[id]? = some dep → dep.state = .activating →
      ∃ aid act, dep.activation = some aid ∧ e.state.activations[aid]? = some act

theorem recovers_linked_iff {e : Engine} (linked : ActivatingLinked e.state)
    (file : Option (List UInt8)) :
    ActivatingLinked (e.step (.recoverFrom file)).state ↔ RecoversSettled e file := by
  have outcome : LoadOutcome (fun own out =>
      Overlay e.state own out ∧ out.activations = e.state.activations) file e.state := by
    refine load_cases_related ?_ ⟨Overlay.refl e.state, rfl⟩ file
    rintro change writes own out ⟨overlay, same⟩
    exact ⟨overlay_write writes overlay, (writes.activations out).trans same⟩
  have refused : ∀ {fault : Fault} {out : LiveState},
      load file e.state = .error fault out → isAccepted file ≠ true := by
    intro fault out result accepted
    rcases (load_ok_iff file e.state).mpr accepted with ⟨out', loaded⟩
    rw [result] at loaded
    cases loaded
  cases outcome with
  | missing absent result =>
      rw [Engine.step_recoverFrom_of_ok result]
      subst absent
      refine iff_of_true linked ⟨fun accepted => ?_, fun malformed => ?_⟩
      · cases accepted
      · cases malformed
  | rejected empty wellFormed result =>
      rw [Engine.step_recoverFrom_of_error result]
      refine iff_of_true linked ⟨fun accepted => absurd accepted (refused result), ?_⟩
      rw [wellFormed]
      intro malformed
      cases malformed
  | malformed malformed states result =>
      rename_i fault out
      rw [Engine.step_recoverFrom_of_error result]
      rcases states with ⟨overlay, same⟩
      constructor
      · intro after
        refine ⟨fun accepted => absurd accepted (refused result), ?_⟩
        intro _ id dep present activating
        rw [← same]
        exact after id dep (by rw [overlay.deployments, present]; rfl) activating
      · intro settled id dep present activating
        rw [overlay.deployments] at present
        change ∃ aid act, dep.activation = some aid ∧ out.activations[aid]? = some act
        rw [same]
        cases read : (records file).deployments[id]? with
        | none =>
            rw [read, Option.none_or] at present
            exact linked id dep present activating
        | some record =>
            rw [read, Option.some_or] at present
            cases present
            exact settled.malformed malformed id dep read activating
  | accepted wellFormed states result =>
      rename_i out
      have accepted := (load_ok_iff file e.state).mp ⟨_, result⟩
      rw [Engine.step_recoverFrom_of_ok result, if_pos rfl, activatingLinked_recovered_iff]
      constructor
      · intro settled
        refine ⟨fun _ id dep found => settled id dep ?_, fun malformed => ?_⟩
        · rw [states.1.deployments, found]
        · rw [wellFormed] at malformed
          cases malformed
      · intro settled id dep present
        rw [states.1.deployments] at present
        exact settled.accepted accepted id dep present

namespace World

/-- The activating deployments of the running process have their activations. -/
def ActivatingLinked (w : World) : Prop :=
  ∀ e, w.engine = some e → DPUFabric.ActivatingLinked e.state

/-- No recovery, at a start or later, finds a deployment that would miss its activation. -/
def RecoversSettled (w : World) : Incident → Prop
  | .event (.start _ _) =>
      isAccepted w.disk.path = true → ∀ (id : DeploymentId) (dep : Deployment),
        (records w.disk.path).deployments[id]? = some dep → dep.state ≠ .activating
  | .event _ => True
  | .recover file => ∀ e, w.engine = some e → DPUFabric.RecoversSettled e file

theorem linked_fresh (epoch : CoordinatorEpoch) (policy : Policy) :
    DPUFabric.ActivatingLinked (Engine.fresh epoch policy).state := by
  intro id dep present
  cases present

/-- A process starts with its activations in place if it finds none to miss. -/
theorem linked_start_iff (w : World) (epoch : CoordinatorEpoch) (policy : Policy) :
    (w.step (.start epoch policy)).ActivatingLinked ↔
      w.RecoversSettled (.event (.start epoch policy)) := by
  have recovers := recovers_linked_iff (linked_fresh epoch policy) w.disk.path
  constructor
  · intro linked accepted id dep found
    rcases (Engine.recoverFrom_ok_iff w.disk.path (Engine.fresh epoch policy)).mpr accepted with
      ⟨e, recovered⟩
    have booted : (w.step (.start epoch policy)).engine = some e := by
      simp only [step, Engine.boot, recovered]
    rw [Engine.step_of_recovered recovered] at recovers
    exact (recovers.mp (linked e booted)).accepted accepted id dep (by rw [found]; rfl)
  · intro settled e running
    rcases Engine.boot_eq_some running with ⟨-, rfl⟩ | recovered
    · exact linked_fresh epoch policy
    · have accepted := (Engine.recoverFrom_ok_iff _ _).mp ⟨e, recovered⟩
      rw [Engine.step_of_recovered recovered] at recovers
      refine recovers.mpr ⟨fun _ id dep found => settled accepted id dep ?_, ?_⟩
      · rwa [show (Engine.fresh epoch policy).state.deployments[id]? = none from rfl,
          Option.or_none] at found
      · rw [isMalformed_of_isAccepted accepted]
        intro malformed
        cases malformed

theorem linked_happen_iff {w : World} (linked : w.ActivatingLinked) (incident : Incident) :
    (w.happen incident).ActivatingLinked ↔ w.RecoversSettled incident := by
  cases incident with
  | recover file =>
      constructor
      · intro after e running
        refine (recovers_linked_iff (linked e running) file).mp (after _ ?_)
        rw [happen, running, Option.map_some]
      · intro settled e' running'
        rcases happen_engine running' with ⟨event, same, -⟩ | ⟨file', e, same, running, rfl⟩
        · cases same
        · cases same
          exact (recovers_linked_iff (linked e running) file).mpr (settled e running)
  | event event =>
      cases event with
      | start epoch policy => exact linked_start_iff w epoch policy
      | call op ordinary =>
          refine iff_of_true (fun e running => ?_) trivial
          cases origin running with
          | called before result =>
              exact Engine.step_keeps (fun s _ => DPUFabric.ActivatingLinked s)
                (fun _ holds => holds) (fun accepted holds => accepted.activatingLinked holds)
                _ ordinary (linked _ before)
      | persist fault crash =>
          refine iff_of_true (fun e running => ?_) trivial
          cases origin running with
          | persisted before result => exact linked e before
      | crash =>
          refine iff_of_true (fun e running => ?_) trivial
          cases running

end World

/--
Along any sequence of incarnations, whose engines may recover from any file also while
they run, activating deployments have their activations in every state reached exactly
if no recovery finds a deployment that would miss its own.  Then a commit never reads
an activation that is not there.
-/
theorem activating_linked_iff (incidents : List Incident) :
    (TransitionRun.Every World.happen (fun w incident => (w.happen incident).ActivatingLinked)
        World.empty incidents ↔
      TransitionRun.Every World.happen World.RecoversSettled World.empty incidents) ∧
      (TransitionRun.Every World.happen World.RecoversSettled World.empty incidents →
        ∀ e, (World.empty.endure incidents).engine = some e → ∀ id e',
          Engine.commitDeployment id e ≠ .error .undefinedBehavior e') := by
  have linked : World.ActivatingLinked World.empty := by
    intro e running
    cases running
  constructor
  · exact TransitionRun.every_iff_of_invariant World.ActivatingLinked
      (fun w incident linked => World.linked_happen_iff linked incident)
      (fun w incident after _ => after) linked incidents
  · intro every e running id e'
    have reached := TransitionRun.run_invariant World.ActivatingLinked
      (fun w incident settled linked => (World.linked_happen_iff linked incident).mpr settled)
      linked every
    exact (reached e running).commit_defined id e'

/-- A deployment on its way to `ACTIVE` when its process persists. -/
def activatingRun : List Op :=
  [.registerDevice Engine.sampleDevice, .reserveDeployment {} (some ⟨1⟩), .stageDeployment ⟨1⟩,
    .loadDeployment ⟨1⟩, .validateDeployment ⟨1⟩, .activateDeployment ⟨1⟩]

/-- After the restart its device is made ready, and it is committed. -/
theorem activating_unlinked :
    ∃ events e e', (World.empty.run events).engine = some e ∧
      ¬ ActivatingLinked e.state ∧
      Engine.commitDeployment ⟨1⟩ e = .error .undefinedBehavior e' := by
  have plain : ∀ op ∈ activatingRun, Engine.recovers op = false := by
    decide
  have plain' : ∀ op ∈ [Op.updateDevice Engine.sampleDevice], Engine.recovers op = false := by
    decide
  rcases World.run_sampleRestart plain plain' rfl (by decide) (by decide) with
    ⟨file, -, served⟩
  have broken : ∃ e', Engine.commitDeployment ⟨1⟩
      ((Engine.successor (Engine.sampleEngine.run activatingRun).snap
        (Policy.defaults ⟨1⟩)).run [.updateDevice Engine.sampleDevice]) =
          .error .undefinedBehavior e' := by
    have undefined : (match Engine.commitDeployment ⟨1⟩
        ((Engine.successor (Engine.sampleEngine.run activatingRun).snap
          (Policy.defaults ⟨1⟩)).run [.updateDevice Engine.sampleDevice]) with
        | .error .undefinedBehavior _ => true
        | _ => false) = true := by
      decide
    split at undefined
    · rename_i e' thrown
      exact ⟨e', thrown⟩
    · cases undefined
  rcases broken with ⟨e', broken⟩
  exact ⟨_, _, e', congrArg World.engine served,
    fun linked => linked.commit_defined ⟨1⟩ e' broken, broken⟩

end DPUFabric
