import DPUFabric.StateFile
import DPUFabric.StateTexts

/-!
# What the state file keeps

A coordinator with a state file is, turn by turn, the coordinator without one; what its
turns save is written behind them.  Every run of such processes, one after the other, is
a run of the incarnations over one state file.

A process that started without a file has all its deployments in the file as soon as a
turn is over.
-/

namespace DPUFabric

open Std
open DPUFabric.Wire
open DPUFabric.Persistence
open DPUFabric.Proto
open DPUFabric.Mp
open DPUFabric.Mpproto

/-! ## Turns of a process with a state file -/

namespace Installation

variable {F : Type} [ScoreArith F] {i : Installation} {l : MainLoop} {s : Socket}
  {arrived : Bool} {fault : SaveFault} {cut : Option ℕ}

/-- How a turn of a running process ends. -/
inductive Polled (F : Type) [ScoreArith F] (i : Installation) (l : MainLoop) (s : Socket)
    (arrived : Bool) (fault : SaveFault) : Option ℕ → Installation → Prop
  | ended {cut : Option ℕ}
      (stuck : ∀ l', MainLoop.step F (.returns l) (.poll s arrived) ≠ .returns l') :
      Polled F i l s arrived fault cut { i with main := none }
  | served {l' : MainLoop} {more : List Snapshot}
      (returned : MainLoop.step F (.returns l) (.poll s arrived) = .returns l')
      (saves : TurnSaves F l.coordinator.engine l'.coordinator.engine more) :
      Polled F i l s arrived fault none
        { disk := i.disk.after (savesSteps fault more), main := some l' }
  | killed {l' : MainLoop} {more : List Snapshot} {k : ℕ}
      (returned : MainLoop.step F (.returns l) (.poll s arrived) = .returns l')
      (saves : TurnSaves F l.coordinator.engine l'.coordinator.engine more) :
      Polled F i l s arrived fault (some k)
        { disk := i.disk.after ((savesSteps fault more).take k), main := none }

theorem Polled.of_returned {l' : MainLoop} {more : List Snapshot}
    (returned : MainLoop.step F (.returns l) (.poll s arrived) = .returns l')
    (saves : TurnSaves F l.coordinator.engine l'.coordinator.engine more) :
    Polled F i l s arrived fault cut
      { disk := i.disk.after (cutAt cut (savesSteps fault more))
        main := if cut.isSome then none else some l' } := by
  cases cut with
  | none =>
      rw [cutAt, Option.getD_none, List.take_length]
      exact .served returned saves
  | some k => exact .killed returned saves

/-- A turn that finds nothing to do saves nothing. -/
theorem Polled.of_idle (idle : MainLoop.step F (.returns l) (.poll s arrived) = .returns l) :
    Polled F i l s arrived fault cut { i with main := if cut.isSome then none else some l } := by
  have unsaved : TurnSaves F l.coordinator.engine l.coordinator.engine [] :=
    Or.inl ⟨rfl, .unchanged rfl⟩
  have quiet : Polled F i l s arrived fault cut _ := .of_returned idle unsaved
  have nothing : i.disk.after (cutAt cut (savesSteps fault [])) = i.disk := by
    rw [cutAt, savesSteps, List.flatMap_nil, List.take_nil]
    rfl
  rw [nothing] at quiet
  exact quiet

theorem polled (running : i.main = some l) :
    Polled F i l s arrived fault cut (i.poll F s arrived fault cut) := by
  unfold poll
  rw [running]
  dsimp only
  cases admitted : l.admits (.poll s arrived) with
  | false =>
      rw [Bool.not_false, if_pos rfl]
      exact .of_idle (if_neg (by rw [admitted]; exact Bool.false_ne_true))
  | true =>
  have turns : MainLoop.step F (.returns l) (.poll s arrived) = l.turn F s arrived :=
    (if_pos admitted).trans (MainLoop.poll_of_returns rfl l s arrived)
  rw [Bool.not_true, if_neg Bool.false_ne_true]
  cases registered : l.coordinator.conns[s]? with
  | none =>
      refine .of_idle (turns.trans ?_)
      rw [MainLoop.turn, registered]
      rfl
  | some role =>
  dsimp only
  cases read : recvFrame (l.streams s) arrived with
  | throws error =>
      have thrown : l.turn F s arrived = .throws error := by
        rw [MainLoop.turn, registered]
        simp only [read]
        rfl
      exact .ended (by simp [turns, thrown])
  | blocks =>
      have waits : l.turn F s arrived = .blocks := by
        rw [MainLoop.turn, registered]
        simp only [read]
        rfl
      exact .ended (by simp [turns, waits])
  | signalled =>
      have killed : l.turn F s arrived = .signalled := by
        rw [MainLoop.turn, registered]
        simp only [read]
        rfl
      exact .ended (by simp [turns, killed])
  | returns both =>
  obtain ⟨result, rest⟩ := both
  obtain ⟨more, saved⟩ := Saving.process_turns F s role result l.coordinator
  dsimp only
  rw [saved.same]
  cases handled : Coordinator.process F s role result l.coordinator with
  | error fault c =>
      rw [saved.thrown fault c handled]
      dsimp only [tagged]
      rw [cutAt, savesSteps, List.flatMap_nil, List.take_nil]
      have thrown : l.turn F s arrived = .throws fault := by
        rw [turn_of_recvFrame registered read, handled]
      exact .ended (by simp [turns, thrown])
  | ok value c =>
      have returned : l.turn F s arrived = .returns
          { coordinator := c, streams := Function.update l.streams s rest, visited := s } := by
        rw [turn_of_recvFrame registered read, handled]
      exact .of_returned (turns.trans returned) (saved.returned c handled)

/-! ## The loop of a process with a state file -/

/-- The process, as long as it is in its loop. -/
def inLoop : Turn MainLoop → Option MainLoop
  | .returns l => some l
  | .throws _ => none
  | .blocks => none
  | .signalled => none

/-- A step of the loop in which nothing kills the process. -/
def Event.ofLoop : MainLoop.Event × SaveFault → Event
  | (.accept s peer, _) => .accept s peer
  | (.poll s arrived _, fault) => .poll s arrived fault none

theorem main_poll (running : i.main = some l) :
    (i.poll F s arrived fault none).main =
      inLoop (MainLoop.step F (.returns l) (.poll s arrived)) := by
  have outcome : Polled F i l s arrived fault none (i.poll F s arrived fault none) := polled running
  generalize i.poll F s arrived fault none = after at outcome ⊢
  cases outcome with
  | ended stuck =>
      cases result : MainLoop.step F (.returns l) (.poll s arrived) with
      | returns l' => exact absurd result (stuck l')
      | throws fault => rfl
      | blocks => rfl
      | signalled => rfl
  | served returned saves =>
      rw [returned]
      rfl

/-- A process that has ended serves nobody. -/
theorem main_ended (ended : i.main = none) (event : MainLoop.Event) (fault : SaveFault) :
    (i.step F (.ofLoop (event, fault))).main = none := by
  cases event with
  | accept s peer =>
      show i.main.map _ = none
      rw [ended]
      rfl
  | poll s arrived sends =>
      show (i.poll F s arrived fault none).main = none
      rw [Installation.poll, ended]
      exact ended

theorem main_step {p : Turn MainLoop} (agrees : i.main = inLoop p) {event : MainLoop.Event}
    (returns : event.writesReturn = true) (fault : SaveFault) :
    (i.step F (.ofLoop (event, fault))).main = inLoop (MainLoop.step F p event) := by
  cases p with
  | returns l =>
      cases event with
      | accept s peer =>
          show i.main.map _ = inLoop (if l.coordinator.running = true then _ else _)
          rw [agrees]
          show some (if l.coordinator.running = true then _ else _) = _
          split_ifs <;> rfl
      | poll s arrived sends =>
          rw [MainLoop.step_of_writesReturn returns]
          exact main_poll agrees
  | throws error => exact main_ended agrees event fault
  | blocks => exact main_ended agrees event fault
  | signalled => exact main_ended agrees event fault

theorem main_run {p : Turn MainLoop} (agrees : i.main = inLoop p)
    {events : List (MainLoop.Event × SaveFault)}
    (returns : ∀ event ∈ events, event.1.writesReturn = true) :
    (TransitionRun.run (step F) i (events.map .ofLoop)).main =
      inLoop (TransitionRun.run (MainLoop.step F) p (events.map Prod.fst)) := by
  induction events generalizing i p with
  | nil => exact agrees
  | cons event rest ih =>
      obtain ⟨now, later⟩ := List.forall_mem_cons.mp returns
      exact ih (main_step agrees now event.2) later

end Installation

/--
The state file has no part in what the loop does: as long as nothing kills the process and
its writes return, it goes through the states of a process without one, whatever becomes
of its saves.
-/
theorem stateFile_changes_no_turn (F : Type) [ScoreArith F] (i : Installation) (l : MainLoop)
    (running : i.main = some l) (events : List (MainLoop.Event × SaveFault))
    (returns : ∀ event ∈ events, event.1.writesReturn = true) :
    (TransitionRun.run (Installation.step F) i (events.map .ofLoop)).main =
      Installation.inLoop
        (TransitionRun.run (MainLoop.step F) (.returns l) (events.map Prod.fst)) := by
  apply Installation.main_run
  · exact running
  · exact returns

namespace Session

/-- The events of a session in a process with a state file. -/
def saved (fault : SaveFault) (events : List MainLoop.Event) : List Installation.Event :=
  (events.map fun event => (event, fault)).map .ofLoop

theorem main_saved {l l' : MainLoop} {i : Installation} (running : i.main = some l)
    (fault : SaveFault) {events : List MainLoop.Event}
    (returns : ∀ event ∈ events, event.writesReturn = true)
    (ended : TransitionRun.run (MainLoop.step ℚ) (.returns l) events = .returns l') :
    (TransitionRun.run (Installation.step ℚ) i (saved fault events)).main = some l' := by
  have agrees : i.main = Installation.inLoop (.returns l) := running
  have same : (Prod.fst ∘ fun event : MainLoop.Event => (event, fault)) = id := rfl
  have all : ∀ event ∈ events.map fun event => (event, fault), event.1.writesReturn = true :=
    List.forall_mem_map.mpr returns
  rw [saved, Installation.main_run agrees all, List.map_map, same, List.map_id, ended]
  rfl

theorem events_return : ∀ event ∈ events, event.writesReturn = true := by
  simp [events, MainLoop.Event.writesReturn]

end Session

/-- In the session no save opens its file. -/
theorem stateFile_changes_no_turn_session : ∃ l,
    (TransitionRun.run (Installation.step ℚ) (({} : Installation).start ⟨1⟩)
        (Session.saved .openFails Session.events)).main = some l ∧
      l.coordinator.engine.state.deployments.size = 1 := by
  obtain ⟨_, _, l, steps⟩ := Session.steps
  have same := stateFile_changes_no_turn ℚ (({} : Installation).start ⟨1⟩) (.start ⟨1⟩) rfl
    (Session.events.map fun event => (event, SaveFault.openFails))
    (List.forall_mem_map.mpr Session.events_return)
  have events : (Session.events.map fun event => (event, SaveFault.openFails)).map Prod.fst =
      Session.events := rfl
  rw [events, steps.run_events] at same
  refine ⟨l, same, ?_⟩
  rw [steps.deployed]
  decide +kernel

/-! ## Installations and incarnations -/

namespace Installation

variable {F : Type} [ScoreArith F] {i : Installation} {l : MainLoop} {s : Socket}
  {arrived : Bool} {fault : SaveFault} {cut : Option ℕ}

/-- The files and the engine are those of a world. -/
structure Agrees (i : Installation) (w : World) : Prop where
  disk : w.disk = i.disk
  engine : w.engine = i.main.map (·.coordinator.engine)

variable {w : World}

theorem Agrees.crash (agrees : Agrees i w) :
    Agrees { i with main := none } (w.step .crash) :=
  ⟨agrees.disk, rfl⟩

/-- A turn of the loop is a run of calls. -/
theorem Agrees.returned (agrees : Agrees i w) (running : i.main = some l) {l' : MainLoop}
    (stepped : MainLoop.step F (.returns l) (.poll s arrived) = .returns l') :
    ∃ events, Agrees { disk := i.disk, main := some l' } (w.run events) := by
  obtain ⟨ops, caused, reached⟩ := MainLoop.step_reaches stepped
  have ordinary : ∀ op ∈ ops, Engine.recovers op = false := by
    intro op member
    obtain ⟨role, -, causes⟩ := caused op member
    exact causes.ordinary
  have present : w.engine = some l.coordinator.engine := by
    rw [agrees.engine, running]
    rfl
  refine ⟨World.calls ops ordinary, ?_⟩
  rw [World.run_calls present]
  refine ⟨agrees.disk, ?_⟩
  show some (Engine.run _ ops) = some _
  rw [Engine.run, reached]

/-- What a turn saves is persisted. -/
theorem Agrees.saved {l' : MainLoop} (agrees : Agrees { disk := i.disk, main := some l' } w)
    (fault : SaveFault) (cut : Option ℕ) :
    Agrees
      { disk := i.disk.after (cutAt cut (save l'.coordinator.engine.snap fault).steps)
        main := if cut.isSome then none else some l' } (w.step (.persist fault cut)) := by
  have present : w.engine = some l'.coordinator.engine := agrees.engine
  have disk : w.disk = i.disk := agrees.disk
  simp only [World.step, present, disk]
  refine ⟨rfl, ?_⟩
  cases cut <;> rfl

theorem Agrees.poll (agrees : Agrees i w) (running : i.main = some l) :
    ∃ events, Agrees (i.poll F s arrived fault cut) (w.run events) := by
  have outcome : Polled F i l s arrived fault cut (i.poll F s arrived fault cut) := polled running
  generalize i.poll F s arrived fault cut = after at outcome
  cases outcome with
  | ended => exact ⟨[.crash], agrees.crash⟩
  | @served l' more returned saves =>
      obtain ⟨events, called⟩ := agrees.returned running returned
      rcases saves with ⟨rfl, -⟩ | rfl
      · exact ⟨events, called⟩
      · refine ⟨events ++ [.persist fault none], ?_⟩
        have saved := called.saved fault none
        rw [cutAt, Option.getD_none, List.take_length] at saved
        rw [World.run, TransitionRun.run_append, savesSteps, List.flatMap_singleton]
        exact saved
  | @killed l' more k returned saves =>
      obtain ⟨events, called⟩ := agrees.returned running returned
      rcases saves with ⟨rfl, -⟩ | rfl
      · refine ⟨events ++ [.crash], ?_⟩
        rw [World.run, TransitionRun.run_append]
        rw [savesSteps, List.flatMap_nil, List.take_nil]
        exact called.crash
      · refine ⟨events ++ [.persist fault (some k)], ?_⟩
        rw [World.run, TransitionRun.run_append, savesSteps, List.flatMap_singleton]
        exact called.saved fault (some k)

/-- A call that every engine accepts, or that none is there for. -/
theorem Agrees.called {d : Disk} {engine : Option Engine} (disk : w.disk = d)
    (present : w.engine = engine) {op : Op} (ordinary : Engine.recovers op = false) :
    (w.step (.call op ordinary)).disk = d ∧
      (w.step (.call op ordinary)).engine = engine.map fun e => e.step op := by
  cases engine with
  | none =>
      simp only [World.step, present]
      exact ⟨disk, rfl⟩
  | some e =>
      simp only [World.step, present]
      exact ⟨disk, rfl⟩

theorem Agrees.start (agrees : Agrees i w) (epoch : CoordinatorEpoch) :
    ∃ events, Agrees (i.start epoch) (w.run events) := by
  have boots : (w.step (.start epoch (Policy.defaults ⟨1⟩))).engine =
      Engine.boot i.disk.path epoch (Policy.defaults ⟨1⟩) := by
    rw [← agrees.disk]
    rfl
  have ordinary : Engine.recovers (.registerService dpuAService) = false := rfl
  obtain ⟨disk, engine⟩ := Agrees.called (w := w.step (.start epoch (Policy.defaults ⟨1⟩)))
    agrees.disk boots ordinary
  refine ⟨[.start epoch (Policy.defaults ⟨1⟩), .call (.registerService dpuAService) ordinary],
    disk, engine.trans ?_⟩
  rw [Installation.start, Option.map_map]
  rfl

/-- Every step is some steps of a world. -/
theorem Agrees.step (agrees : Agrees i w) (event : Event) :
    ∃ events, Agrees (i.step F event) (w.run events) := by
  cases event with
  | start epoch => exact agrees.start epoch
  | accept s peer =>
      refine ⟨[], agrees.disk, ?_⟩
      show w.engine = Option.map _ (Option.map _ i.main)
      rw [agrees.engine, Option.map_map]
      congr 1
      ext l
      show _ = (if l.coordinator.running = true then l.accept s peer else l).coordinator.engine
      split_ifs <;> rfl
  | poll s arrived fault cut =>
      cases running : i.main with
      | none =>
          refine ⟨[], ?_⟩
          show Agrees (i.poll F s arrived fault cut) w
          rw [Installation.poll, running]
          exact agrees
      | some l => exact agrees.poll running
  | finish fault cut =>
      cases running : i.main with
      | none =>
          refine ⟨[], ?_⟩
          show Agrees (i.finish fault cut) w
          rw [finish, running]
          exact agrees
      | some l =>
          show ∃ events, Agrees (i.finish fault cut) (w.run events)
          unfold finish
          rw [running]
          dsimp only
          split_ifs with serves
          · exact ⟨[], agrees⟩
          · have whole : Agrees { disk := i.disk, main := some l } w :=
              ⟨agrees.disk, agrees.engine.trans (congrArg _ running)⟩
            exact ⟨[.persist fault cut, .crash], (whole.saved fault cut).crash⟩
  | crash => exact ⟨[.crash], agrees.crash⟩

theorem Agrees.run (agrees : Agrees i w) (events : List Event) :
    ∃ steps, Agrees (TransitionRun.run (Installation.step F) i events) (w.run steps) := by
  refine TransitionRun.run_invariant_of_step
    (fun i => ∃ steps, Agrees i (w.run steps)) ?_ ⟨[], agrees⟩ events
  rintro i event ⟨steps, agrees⟩
  have stepped : ∃ events, Agrees (i.step F event) ((w.run steps).run events) := agrees.step event
  obtain ⟨more, after⟩ := stepped
  refine ⟨steps ++ more, ?_⟩
  rw [World.run, TransitionRun.run_append]
  exact after

end Installation

/--
Coordinators with a state file, one after the other, refine the incarnations over that
file: whoever is killed, wherever in a turn or a save, the files and the engine are those
of some run of starts, calls and saves.  So the file is always one that was saved whole,
and the engine of the running process has published the state that it is in.
-/
theorem installations_refine_incarnations (F : Type) [ScoreArith F]
    (events : List Installation.Event) :
    (∃ steps, Installation.Agrees (TransitionRun.run (Installation.step F) {} events)
        (World.empty.run steps)) ∧
      (∀ file, (TransitionRun.run (Installation.step F) {} events).disk.path = some file →
        World.IsSaved file) ∧
      ∀ l, (TransitionRun.run (Installation.step F) {} events).main = some l →
        World.Coherent l.coordinator.engine := by
  have start : Installation.Agrees {} World.empty := ⟨rfl, rfl⟩
  obtain ⟨steps, agrees⟩ := start.run (F := F) events
  have sound := World.sound_run steps
  refine ⟨⟨steps, agrees⟩, fun file found => sound.file file ?_, fun l running => sound.engine _ ?_⟩
  · rw [agrees.disk]
    exact found
  · rw [agrees.engine, running]
    rfl

/-! ## Between turns -/

/-- The file holds these deployments; without a file there are none. -/
def Persistence.Disk.Keeps (d : Disk) (deployments : ExtTreeMap DeploymentId Deployment) : Prop :=
  d.path = none ∧ deployments = ∅ ∨
    ∃ s file, d.path = some file ∧ s.Consistent ∧ serialize s = .ok file ∧
      s.deployments = deployments

theorem Booted.consistent {epoch : CoordinatorEpoch} {e : Engine} (booted : Booted epoch e) :
    (makeSnapshot e.state).Consistent := by
  obtain ⟨ops, ordinary, rfl⟩ := booted
  exact Engine.consistent_run epoch _ ordinary

/-- `register_service` writes the services only. -/
theorem Engine.step_registerService (e : Engine) (svc : ServiceDefinition) :
    (e.step (.registerService svc)).state =
      { e.state with services := (e.step (.registerService svc)).state.services } := by
  have plain : (Op.registerService svc).isPlain = true := rfl
  rcases Engine.step_cases e plain with ⟨s, seq, accepted, result⟩ | ⟨-, quiet⟩
  · rw [result]
    cases accepted with
    | registerService => rfl
    | moveDeployment moves => cases moves
    | endDeployment ends => cases ends
  · rw [quiet.state]

/-- A turn that saves nothing leaves the deployments alone. -/
theorem Unsaved.deployments {F : Type} [ScoreArith F] {e e' : Engine} (unsaved : Unsaved F e e')
    (regular : Regular e) (room : e.idSeq ≤ 2 ^ 64) (unbound : Unbound e.state) :
    e'.state.deployments = e.state.deployments := by
  have pipeline := fun sid oc =>
    Engine.pipeline_outcome F (Coordinator.deploymentRequest sid oc) rfl regular room
  cases unsaved with
  | unchanged state => rw [state]
  | failed thrown => rw [(pipeline _ _).state_of_error thrown]
  | rejected created => rw [(pipeline _ _).state_of_none created]
  | reported causes sweeps =>
      exact (EngineTurn.sameControl_of_reported causes sweeps unbound).deployments

namespace Installation

variable {F : Type} [ScoreArith F] {i : Installation} {l : MainLoop} {epoch : CoordinatorEpoch}

/-- Nobody kills the process, and no step of a save fails. -/
def Calm : Event → Prop
  | .accept _ _ => True
  | .poll _ _ fault cut => fault = .noFault ∧ cut = none
  | _ => False

/-- A process that started without a file, and what it has saved so far. -/
structure Records (epoch : CoordinatorEpoch) (i : Installation) (l : MainLoop) : Prop where
  booted : Booted epoch l.coordinator.engine
  savable : l.coordinator.engine.idSeq ≤ 2 ^ 64 → Savable l.coordinator.engine.state
  keeps : l.coordinator.engine.idSeq ≤ 2 ^ 64 →
    i.disk.Keeps l.coordinator.engine.state.deployments

/-- A save that does not fail leaves a file of the state. -/
theorem path_of_saved (d : Disk) (booted : Booted epoch l.coordinator.engine)
    (savable : Savable l.coordinator.engine.state) (room : l.coordinator.engine.idSeq ≤ 2 ^ 64) :
    ∃ file, (d.after (save l.coordinator.engine.snap .noFault).steps).path = some file ∧
      serialize (makeSnapshot l.coordinator.engine.state) = .ok file := by
  have published := (booted.regular room).published
  obtain ⟨file, written⟩ := (serialize_ok_iff booted.consistent.devicesCounted).mpr savable.writable
  rw [published]
  refine ⟨file, ?_, written⟩
  have plan : save (makeSnapshot l.coordinator.engine.state) .noFault =
      replaceFile file .noFault := by
    rw [save, written]
  rw [plan]
  rfl

theorem Records.start (epoch : CoordinatorEpoch) :
    Records epoch (({} : Installation).start epoch) (MainLoop.start epoch) where
  booted := .start epoch
  savable _ := MainLoop.start_savable epoch
  keeps _ := by
    refine Or.inl ⟨rfl, ?_⟩
    show (Engine.step _ (.registerService dpuAService)).state.deployments = ∅
    rw [Engine.step_registerService]
    rfl

/-- A turn that is not saved has made no deployment. -/
theorem Records.poll {s : Socket} {arrived : Bool} (records : Records epoch i l)
    (running : i.main = some l) {l' : MainLoop}
    (after : (i.poll F s arrived .noFault none).main = some l') :
    Records epoch (i.poll F s arrived .noFault none) l' := by
  have outcome : Polled F i l s arrived .noFault none (i.poll F s arrived .noFault none) :=
    polled running
  generalize i.poll F s arrived .noFault none = next at outcome after
  cases outcome with
  | ended => cases after
  | @served l' more returned saves =>
  cases after
  have stepped := returned
  have booted := MainLoop.step_booted records.booted stepped
  have grows := MainLoop.idSeq_le_step stepped
  have savable := fun room : l'.coordinator.engine.idSeq ≤ 2 ^ 64 =>
    MainLoop.step_savable records.booted (grows.trans room) stepped
      (records.savable (grows.trans room))
  refine ⟨booted, savable, fun room => ?_⟩
  have before := grows.trans room
  rcases saves with ⟨rfl, unsaved⟩ | rfl
  · have same := unsaved.deployments (records.booted.regular before) before records.booted.unbound
    rw [same]
    exact records.keeps before
  · obtain ⟨file, found, written⟩ := path_of_saved i.disk booted (savable room) room
    rw [savesSteps, List.flatMap_singleton]
    exact Or.inr ⟨_, file, found, booted.consistent, written, rfl⟩

/-- The first process, as long as nobody kills it. -/
theorem run_records {events : List Event} (calm : ∀ event ∈ events, Calm event)
    (running : (TransitionRun.run (step F) (({} : Installation).start epoch) events).main = some l) :
    Records epoch (TransitionRun.run (step F) (({} : Installation).start epoch) events) l := by
  have every : TransitionRun.Every (step F) (fun _ event => Calm event)
      (({} : Installation).start epoch) events :=
    TransitionRun.every_of_forall_mem _ calm
  refine TransitionRun.run_invariant
    (fun i => ∀ l, i.main = some l → Records epoch i l) ?_ ?_ every l running
  · intro i event calm kept l' after
    cases event with
    | accept s peer =>
        obtain ⟨l, serves, rfl⟩ := Option.map_eq_some_iff.mp after
        have records := kept l serves
        split_ifs <;> exact ⟨records.booted, records.savable, records.keeps⟩
    | poll s arrived fault cut =>
        obtain ⟨rfl, rfl⟩ := calm
        cases serves : i.main with
        | none =>
            change (i.poll F s arrived .noFault none).main = _ at after
            rw [Installation.poll, serves] at after
            rw [serves] at after
            cases after
        | some l => exact (kept l serves).poll serves after
    | start epoch => exact calm.elim
    | finish fault cut => exact calm.elim
    | crash => exact calm.elim
  · rintro l ⟨⟩
    exact .start epoch

/-- The next process starts anew where there is no file. -/
theorem start_missing (missing : i.disk.path = none) :
    i.start epoch = { disk := i.disk, main := some (MainLoop.start epoch) } := by
  rw [start, missing]
  rfl

/-- What the next process finds, unless it refuses the file. -/
theorem start_saved {file : List UInt8} {s : Snapshot} (found : i.disk.path = some file)
    (consistent : s.Consistent) (written : serialize s = .ok file) :
    ((i.start epoch).main = none ↔ ¬ s.Storable) ∧
      ∀ l', (i.start epoch).main = some l' →
        l'.coordinator.engine.state.deployments =
          s.deployments.map fun _ dep => fenceRecoveredDeployment dep := by
  rw [start, found]
  by_cases storable : s.Storable
  · rw [Engine.boot_saved consistent written storable]
    refine ⟨iff_of_false (by simp) (not_not.mpr storable), ?_⟩
    rintro l' ⟨⟩
    show (Engine.step _ (.registerService dpuAService)).state.deployments = _
    rw [Engine.step_registerService, Engine.successor_state]
    exact s.recovered_deployments _
  · rw [Engine.boot_refused consistent written storable]
    refine ⟨iff_of_true rfl storable, ?_⟩
    rintro l' ⟨⟩

end Installation

/--
A process that started without a state file may be killed after any of its turns.  As
long as no save has failed, the next process finds every deployment that was made, fenced
and without an activation; or it refuses the file, which holds them all.
-/
theorem restart_keeps_deployments (F : Type) [ScoreArith F] (epoch epoch' : CoordinatorEpoch)
    (events : List Installation.Event) (calm : ∀ event ∈ events, Installation.Calm event)
    (i next : Installation) (l : MainLoop)
    (ended : TransitionRun.run (Installation.step F) (({} : Installation).start epoch) events = i)
    (running : i.main = some l) (room : l.coordinator.engine.idSeq ≤ 2 ^ 64)
    (restarted : TransitionRun.run (Installation.step F) i [.crash, .start epoch'] = next) :
    (∀ l', next.main = some l' →
        l'.coordinator.engine.state.deployments =
          l.coordinator.engine.state.deployments.map fun _ dep => fenceRecoveredDeployment dep) ∧
      (next.main = none ↔
        ∃ (s : Snapshot) (file : List UInt8), i.disk.path = some file ∧ s.Consistent ∧
          serialize s = .ok file ∧ s.deployments = l.coordinator.engine.state.deployments ∧
          ¬ s.Storable) := by
  subst ended restarted
  have records := Installation.run_records calm running
  generalize TransitionRun.run (Installation.step F) (({} : Installation).start epoch) events = i
    at records running
  have restarts : TransitionRun.run (Installation.step F) i [.crash, .start epoch'] =
      Installation.start { i with main := none } epoch' := rfl
  rw [restarts]
  rcases records.keeps room with ⟨missing, nothing⟩ | ⟨s, file, found, consistent, written, same⟩
  · have none_left : ({ i with main := none } : Installation).disk.path = none := missing
    rw [Installation.start_missing none_left]
    constructor
    · rintro l' ⟨⟩
      show (Engine.step _ (.registerService dpuAService)).state.deployments = _
      rw [Engine.step_registerService, nothing]
      apply ExtTreeMap.ext_getElem?
      intro id
      rw [ExtTreeMap.getElem?_map, ExtTreeMap.getElem?_empty]
      rfl
    · refine iff_of_false (by simp) ?_
      rintro ⟨s, file, found, -⟩
      rw [missing] at found
      cases found
  · have next : ({ i with main := none } : Installation).disk.path = some file := found
    obtain ⟨refuses, deployments⟩ :=
      @Installation.start_saved { i with main := none } epoch' _ _ next consistent written
    refine ⟨fun l' serves => (deployments l' serves).trans (by rw [same]), ?_, ?_⟩
    · exact fun ends => ⟨s, file, found, consistent, written, same, refuses.mp ends⟩
    · rintro ⟨s', file', found', consistent', written', -, unfit⟩
      exact (Installation.start_saved found' consistent' written').1.mpr unfit

namespace Session

theorem calm_saved (events : List MainLoop.Event) :
    ∀ event ∈ saved .noFault events, Installation.Calm event := by
  intro event member
  obtain ⟨⟨event, fault⟩, paired, rfl⟩ := List.mem_map.mp member
  obtain ⟨event, -, ⟨⟩⟩ := List.mem_map.mp paired
  cases event with
  | accept s peer => trivial
  | poll s arrived => exact ⟨rfl, rfl⟩

/-- The file after the session is that of the last state. -/
theorem Steps.file {l₁ l₂ l₃ : MainLoop} (steps : Steps l₁ l₂ l₃) :
    ∃ file, (TransitionRun.run (Installation.step ℚ) (({} : Installation).start ⟨1⟩)
        (saved .noFault events)).disk.path = some file ∧
      serialize (makeSnapshot l₃.coordinator.engine.state) = .ok file := by
  have first : (({} : Installation).start ⟨1⟩).main = some (.start ⟨1⟩) := by
    rw [Installation.start_missing rfl]
  have connected : TransitionRun.run (MainLoop.step ℚ) (.returns (.start ⟨1⟩))
      (events.take 3 ++ [.accept 4 admin]) = .returns (l₂.accept 4 admin) := by
    rw [TransitionRun.run_append, steps.run_report]
    exact steps.connect
  have returns : ∀ event ∈ events.take 3 ++ [.accept 4 admin], event.writesReturn = true := by
    simp [events, MainLoop.Event.writesReturn]
  have running := main_saved first .noFault returns connected
  have after := main_saved first .noFault events_return steps.run_events
  have records := Installation.run_records (calm_saved _) running
  have finished := Installation.run_records (calm_saved _) after
  have split : saved .noFault events =
      saved .noFault (events.take 3 ++ [.accept 4 admin]) ++ [.poll 4 true .noFault none] := rfl
  rw [split, TransitionRun.run_append] at after finished ⊢
  generalize TransitionRun.run (Installation.step ℚ) (({} : Installation).start ⟨1⟩)
    (saved .noFault (events.take 3 ++ [.accept 4 admin])) = i at *
  change (i.poll ℚ 4 true .noFault none).main = some l₃ at after
  change Installation.Records ⟨1⟩ (i.poll ℚ 4 true .noFault none) l₃ at finished
  show ∃ file, (i.poll ℚ 4 true .noFault none).disk.path = some file ∧ _
  have outcome : Installation.Polled ℚ i (l₂.accept 4 admin) 4 true .noFault none
      (i.poll ℚ 4 true .noFault none) := Installation.polled running
  have room : l₃.coordinator.engine.idSeq ≤ 2 ^ 64 := by
    rw [steps.deployed]
    decide +kernel
  generalize i.poll ℚ 4 true .noFault none = next at *
  cases outcome with
  | ended stuck => cases after
  | served returned saves =>
  cases after
  rcases saves with ⟨-, unsaved⟩ | rfl
  · -- The last turn makes a deployment.
    have few : (l₂.accept 4 admin).coordinator.engine.idSeq ≤ 2 ^ 64 := by
      show l₂.coordinator.engine.idSeq ≤ _
      rw [steps.reported]
      decide +kernel
    have same := unsaved.deployments (records.booted.regular few) few records.booted.unbound
    have none_before : Session.reported.engine.state.deployments.size = 0 := by decide +kernel
    have one_after : Session.deployed.engine.state.deployments.size = 1 := by decide +kernel
    change _ = l₂.coordinator.engine.state.deployments at same
    rw [steps.deployed, steps.reported] at same
    rw [same, none_before] at one_after
    cases one_after
  · rw [Installation.savesSteps, List.flatMap_singleton]
    exact Installation.path_of_saved i.disk finished.booted (finished.savable room) room

/-- What the process after the session recovers. -/
def recovered : Engine :=
  Engine.successor (makeSnapshot deployed.engine.state) (Policy.defaults ⟨1⟩)

/-- `main` of the next process, before its loop. -/
def restarted : MainLoop where
  coordinator := .boot recovered
  streams _ := ⟨[], .silent⟩

/-- The session, a kill, and the next process. -/
theorem Steps.restarts {l₁ l₂ l₃ : MainLoop} (steps : Steps l₁ l₂ l₃) :
    ∃ (i : Installation) (file : List UInt8),
      TransitionRun.run (Installation.step ℚ) (({} : Installation).start ⟨1⟩)
        (saved .noFault events) = i ∧
      i.main = some l₃ ∧ i.disk.path = some file ∧ (i.start ⟨2⟩).main = some restarted := by
  have first : (({} : Installation).start ⟨1⟩).main = some (.start ⟨1⟩) := by
    rw [Installation.start_missing rfl]
  have running := main_saved first .noFault events_return steps.run_events
  have booted := (Installation.run_records (calm_saved _) running).booted
  obtain ⟨file, found, written⟩ := steps.file
  have storable : (makeSnapshot l₃.coordinator.engine.state).Storable := by
    rw [steps.deployed]
    decide +kernel
  refine ⟨_, file, rfl, running, found, ?_⟩
  rw [Installation.start, found, Engine.boot_saved booted.consistent written storable,
    steps.deployed]
  rfl

/-- The tables of the session are there again. -/
theorem restarted_tables : restarted.coordinator.engine.state.devices.size = 1 ∧
    restarted.coordinator.engine.state.deployments.size = 1 := by
  have before : deployed.engine.state.devices.size = 1 ∧
      deployed.engine.state.deployments.size = 1 := by
    decide +kernel
  show (recovered.step (.registerService dpuAService)).state.devices.size = 1 ∧
    (recovered.step (.registerService dpuAService)).state.deployments.size = 1
  rw [Engine.step_registerService, recovered, Engine.successor_state]
  dsimp only
  rw [Snapshot.recovered_devices, Snapshot.recovered_deployments, ExtTreeMap.size_map,
    ExtTreeMap.size_map]
  exact before

end Session

/-- The session, a kill, and the next process: the deployment of the session is there. -/
theorem restart_keeps_deployments_session :
    ∃ (l l' : MainLoop) (i : Installation), i.main = some l ∧
      l.coordinator.engine.state.deployments.size = 1 ∧
      (TransitionRun.run (Installation.step ℚ) i [.crash, .start ⟨2⟩]).main = some l' ∧
      l'.coordinator.engine.state.deployments.size = 1 := by
  obtain ⟨l₁, l₂, l, steps⟩ := Session.steps
  obtain ⟨i, _, ended, running, -, restarted⟩ := steps.restarts
  have one : l.coordinator.engine.state.deployments.size = 1 := by
    rw [steps.deployed]
    decide +kernel
  have room : l.coordinator.engine.idSeq ≤ 2 ^ 64 := by
    rw [steps.deployed]
    decide +kernel
  obtain ⟨kept, -⟩ := restart_keeps_deployments ℚ ⟨1⟩ ⟨2⟩
    (Session.saved .noFault Session.events) (Session.calm_saved _) i _ l ended running room rfl
  refine ⟨l, _, i, running, one, restarted, ?_⟩
  rw [kept _ restarted, ExtTreeMap.size_map]
  exact one

end DPUFabric
