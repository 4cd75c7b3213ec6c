import DPUFabric.Connections
import DPUFabric.Durability
import DPUFabric.Freshness

/-!
# A restarted coordinator waits for its workers

What a process recovers from its state file it does not trust: no device is fresh until a
worker has reported it again.  Until a worker's connection is heard, the loop answers
administrators, hears greetings and loses strangers, and its devices, its services and
its deployments stay those of the file.
-/

namespace DPUFabric

open Std
open LiveState
open Exceptions
open DPUFabric.Persistence
open DPUFabric.Proto
open DPUFabric.Mp

/-! ## Engines without fresh evidence -/

/-- No device of the engine is fresh. -/
def Distrusts (e : Engine) : Prop :=
  ∀ device, StaleEvidence e device

/-- The workers aside, the live states are the same. -/
def SameButWorkers (s s' : LiveState) : Prop :=
  s' = { s with workers := s'.workers, workerSeq := s'.workerSeq }

theorem SameButWorkers.refl (s : LiveState) : SameButWorkers s s :=
  rfl

theorem SameButWorkers.trans {s s' s'' : LiveState} (first : SameButWorkers s s')
    (second : SameButWorkers s' s'') : SameButWorkers s s'' := by
  rw [SameButWorkers, first] at second
  exact second

section Distrusting

variable {F : Type} [ScoreArith F] {e : Engine}

/-- Nothing is selected, so nothing is deployed and nothing is written. -/
theorem Distrusts.createDeployment (distrusts : Distrusts e) (req : OffloadRequest) :
    (∃ fault, Engine.createDeployment F req e = .error fault e) ∨
      Engine.createDeployment F req e = .ok none e := by
  cases evaluated : e.evaluate F req with
  | error fault => exact Or.inl ⟨fault, createDeployment_of_error evaluated⟩
  | ok elig =>
      refine Or.inr (createDeployment_of_unselected evaluated ?_)
      cases chosen : elig.selected with
      | none => rfl
      | some did => exact absurd chosen ((distrusts did).barred F |>.notSelected req elig evaluated)

/-- A call that offers no record of any device. -/
theorem Distrusts.step (distrusts : Distrusts e) {op : Op}
    (without : ∀ device, WithoutEvidence device e op) : Distrusts (e.step op) := by
  intro device
  have every : TransitionRun.Every Engine.step (WithoutEvidence device) e [op] :=
    ⟨without device, trivial⟩
  exact (distrusts device).run every

theorem Distrusts.registerWorker (distrusts : Distrusts e) (worker : WorkerId)
    (boot : WorkerBootId) : Distrusts (e.step (.registerWorker worker boot)) := by
  apply distrusts.step
  exact fun device => ⟨rfl, fun recovers => by cases recovers⟩

theorem Engine.step_registerWorker (e : Engine) (worker : WorkerId) (boot : WorkerBootId) :
    SameButWorkers e.state (e.step (.registerWorker worker boot)).state := by
  have plain : (Op.registerWorker worker boot).isPlain = true := rfl
  rcases Engine.step_cases e plain with ⟨s, seq, accepted, result⟩ | ⟨-, quiet⟩
  · rw [result]
    cases accepted with
    | registerWorker => rfl
    | moveDeployment moves => cases moves
    | endDeployment ends => cases ends
  · rw [quiet.state]
    exact .refl e.state

end Distrusting

/-! ## Turns in which no worker is heard -/

/-- The polled connection is not a worker's. -/
def HearsNoWorker (l : MainLoop) : MainLoop.Event → Prop
  | .accept _ _ => True
  | .poll s _ _ => l.coordinator.conns[s]? ≠ some .worker

namespace Coordinator

variable {F : Type} [ScoreArith F] {s : Socket} {c c' : Coordinator}

theorem AdminOutcome.engine_of_distrusts {payload : List UInt8}
    (outcome : AdminOutcome F s payload c c') (distrusts : Distrusts c.engine) :
    c'.engine = c.engine := by
  cases outcome with
  | failed read target thrown =>
      rename_i sid oc error e
      rcases distrusts.createDeployment (F := F) (deploymentRequest sid oc) with
        ⟨fault, result⟩ | result
      · cases thrown.symm.trans result
        rfl
      · cases thrown.symm.trans result
  | rejected read target created =>
      rename_i sid oc e
      rcases distrusts.createDeployment (F := F) (deploymentRequest sid oc) with
        ⟨fault, result⟩ | result
      · cases created.symm.trans result
      · cases created.symm.trans result
        rfl
  | deployed read target created =>
      rename_i sid oc dep dev e
      rcases distrusts.createDeployment (F := F) (deploymentRequest sid oc) with
        ⟨fault, result⟩ | result
      · cases created.symm.trans result
      · cases created.symm.trans result
  | _ => rfl

theorem Dispatched.of_unheard {role : Role} {result : RecvResult}
    (dispatched : Dispatched F s c role result c') (wired : c.Wired)
    (registered : c.conns[s]? = some role) (unheard : role ≠ .worker)
    (distrusts : Distrusts c.engine) :
    Distrusts c'.engine ∧ SameButWorkers c.engine.state c'.engine.state := by
  cases dispatched with
  | idle => exact ⟨distrusts, .refl _⟩
  | closed lost =>
      have unfiled : c.connWorker[s]? = none := by
        have differs : c.conns[s]? ≠ some .worker := by
          rw [registered]
          exact fun same => unheard (Option.some.inj same)
        exact Option.not_isSome_iff_eq_none.mp (mt (wired.roles s).mp differs)
      rw [withoutConn, unfiled]
      exact ⟨distrusts, .refl _⟩
  | @greeted f wk boot label ahead e greets read accepted =>
      have called : (c.greeted s wk e).engine = c.engine.step (.registerWorker ⟨wk⟩ ⟨boot⟩) :=
        (Engine.after_of_ok accepted).symm
      rw [called]
      exact ⟨distrusts.registerWorker _ _, Engine.step_registerWorker _ _ _⟩
  | @refused f wk boot label ahead fault e greets read thrown =>
      have called : e = c.engine.step (.registerWorker ⟨wk⟩ ⟨boot⟩) :=
        (Engine.after_of_error thrown).symm
      dsimp only
      rw [called]
      exact ⟨distrusts.registerWorker _ _, Engine.step_registerWorker _ _ _⟩
  | admin privileged outcome =>
      have asked : (c.asAdmin s role).engine = c.engine := by
        cases role <;> rfl
      have same := outcome.engine_of_distrusts (asked.symm ▸ distrusts)
      rw [same, asked]
      exact ⟨distrusts, .refl _⟩
  | worker outcome => exact absurd rfl unheard

end Coordinator

/-! ## After a recovery -/

/-- Nobody has registered yet: state files do not hold workers. -/
theorem keptByRecovery_noWorkers : KeptByRecovery fun s => s.workers = ∅ where
  writes writes out none_known := by
    cases writes <;> exact none_known
  fences out none_known := none_known
  rebuilds out none_known := by
    rw [LiveState.rebuildLedgers_eq]
    exact none_known

/-- A process that has recovered from some file, whatever the file is. -/
theorem Engine.boot_recovered {file : List UInt8} {epoch : CoordinatorEpoch} {policy : Policy}
    {e : Engine} (started : Engine.boot (some file) epoch policy = some e) :
    e.state.workers = ∅ ∧ Distrusts e := by
  unfold Engine.boot at started
  cases loaded : Persistence.load (some file) (Engine.fresh epoch policy).state with
  | error fault s =>
      simp only [Engine.recoverFrom, loaded] at started
      cases started
  | ok existed s =>
      have stepped : e = (Engine.fresh epoch policy).step (.recoverFrom (some file)) := by
        rw [Engine.step_recoverFrom_of_ok loaded]
        simp only [Engine.recoverFrom, loaded] at started
        exact (Option.some.inj started).symm
      refine ⟨?_, fun device => ?_⟩
      · rw [stepped]
        exact Engine.step_recoverFrom_keeps keptByRecovery_noWorkers rfl _
      · cases load_cases (some file) (Engine.fresh epoch policy).state with
        | missing absent result => cases absent
        | rejected _ _ result => cases loaded.symm.trans result
        | malformed _ _ result => cases loaded.symm.trans result
        | accepted _ _ result =>
            rw [stepped]
            exact stale_of_recovered (Engine.step_recoverFrom_of_ok result) device

namespace Installation

variable {F : Type} [ScoreArith F] {i : Installation} {l : MainLoop} {epoch : CoordinatorEpoch}

/-- What `main` has before its loop, if it has recovered. -/
theorem start_recovered {file : List UInt8} (found : i.disk.path = some file)
    (started : (i.start epoch).main = some l) :
    l.coordinator.Wired ∧ Distrusts l.coordinator.engine := by
  rw [start, found] at started
  obtain ⟨e, recovered, rfl⟩ := Option.map_eq_some_iff.mp started
  obtain ⟨unknown, distrusts⟩ := Engine.boot_recovered recovered
  refine ⟨⟨fun s => ?_, fun wk s socket => ?_, fun wk => ?_⟩, ?_⟩
  · show (∅ : ExtTreeMap Socket UInt64)[s]?.isSome = true ↔ (∅ : ExtTreeMap Socket Role)[s]? = _
    simp
  · cases socket
  · show (∅ : ExtTreeMap UInt64 Socket)[wk]?.isSome =
      (e.step (.registerService dpuAService)).state.workers[(⟨wk⟩ : WorkerId)]?.isSome
    rw [Engine.step_registerService, unknown]
    rfl
  · apply distrusts.step
    exact fun device => ⟨rfl, fun recovers => by cases recovers⟩

end Installation

/--
A coordinator that has recovered from a state file, whatever it holds, trusts no device of
it: as long as no worker's connection is heard, no deployment is made or taken back, no
device and no service changes, and nothing but greetings changes the engine's state.
-/
theorem restart_waits_for_workers (F : Type) [ScoreArith F] (i : Installation)
    (epoch : CoordinatorEpoch) (file : List UInt8) (l₀ l : MainLoop)
    (events : List MainLoop.Event) (found : i.disk.path = some file)
    (started : (i.start epoch).main = some l₀)
    (unheard : TransitionRun.Every (MainLoop.step F)
      (MainLoop.OnLoop fun l event => FreshDescriptor l event ∧ HearsNoWorker l event)
      (.returns l₀) events)
    (ended : TransitionRun.run (MainLoop.step F) (.returns l₀) events = .returns l) :
    Distrusts l.coordinator.engine ∧
      SameButWorkers l₀.coordinator.engine.state l.coordinator.engine.state := by
  obtain ⟨wired, distrusts⟩ := Installation.start_recovered found started
  refine (MainLoop.run_invariant
    (fun l => l.coordinator.Wired ∧ Distrusts l.coordinator.engine ∧
      SameButWorkers l₀.coordinator.engine.state l.coordinator.engine.state)
    ?_ ⟨wired, distrusts, .refl _⟩ unheard ended).2
  rintro l event l' ⟨unused, unheard⟩ ⟨wired, distrusts, same⟩ stepped
  refine ⟨MainLoop.step_wired unused wired stepped, ?_⟩
  cases event with
  | accept s peer =>
      rcases MainLoop.accepted stepped with rfl | rfl
      · exact ⟨distrusts, same⟩
      · exact ⟨distrusts, same⟩
  | poll s arrived sends =>
      cases MainLoop.polled stepped with
      | idle => exact ⟨distrusts, same⟩
      | @turn role result rest c registered received dispatched =>
          have other : role ≠ .worker := by
            rintro rfl
            exact unheard registered
          obtain ⟨distrusts', same'⟩ := dispatched.of_unheard wired registered other distrusts
          exact ⟨distrusts', same.trans same'⟩

/-- The coordinator of the session is killed; the next one refuses its administrator. -/
theorem restart_waits_for_workers_session :
    ∃ l : MainLoop,
      TransitionRun.run (MainLoop.step ℚ) (.returns Session.restarted)
        [.accept 4 Session.admin, .poll 4 true] = .returns l ∧
      Distrusts l.coordinator.engine ∧ l.coordinator.engine.state.devices.size = 1 ∧
        l.coordinator.engine.state.deployments.size = 1 := by
  obtain ⟨_, _, _, steps⟩ := Session.steps
  obtain ⟨i, file, -, -, found, started⟩ := steps.restarts
  have running : Session.restarted.coordinator.running = true := rfl
  have connects := MainLoop.accept_of_running (F := ℚ) running 4 Session.admin
  have connected := Session.accepted_conns 4 Session.restarted.coordinator
  have peer := MainLoop.accept_streams Session.restarted 4 Session.admin
  obtain ⟨l, asked, -⟩ := MainLoop.step_of_message (F := ℚ)
    (l := Session.restarted.accept 4 Session.admin) running connected
    (peer.symm ▸ Session.create_message)
  have ended : TransitionRun.run (MainLoop.step ℚ) (.returns Session.restarted)
      [.accept 4 Session.admin, .poll 4 true] = .returns l := by
    rw [TransitionRun.run_cons, connects]
    exact asked
  have unheard : TransitionRun.Every (MainLoop.step ℚ)
      (MainLoop.OnLoop fun l event => FreshDescriptor l event ∧ HearsNoWorker l event)
      (.returns Session.restarted) [.accept 4 Session.admin, .poll 4 true] := by
    refine ⟨?_, ?_, trivial⟩
    · rintro _ ⟨⟩
      exact ⟨rfl, trivial⟩
    · rintro _ same
      cases connects.symm.trans same
      refine ⟨trivial, fun worker => ?_⟩
      cases connected.symm.trans worker
  obtain ⟨distrusts, same⟩ := restart_waits_for_workers ℚ i ⟨2⟩ file Session.restarted l _ found
    started unheard ended
  obtain ⟨devices, deployments⟩ := Session.restarted_tables
  refine ⟨l, ended, distrusts, ?_, ?_⟩
  · rw [same]
    exact devices
  · rw [same]
    exact deployments

end DPUFabric
