import DPUFabric.Authority
import DPUFabric.Incarnations

/-!
# The current generation of a program

`register_program` makes a generation the current one when the program has none, or
when the new one is greater.  `retire_program` takes the current generation away and
keeps the stored artifacts, so the next registration is compared with nothing.  A
recovery takes over what was current when the file was written.

So the current generation never goes back exactly if each registration of a program
without one, and each file that is recovered from, is at least as new as what is known.
-/

namespace DPUFabric

open Std
open Persistence

/-! ## Stored generations -/

/-- An artifact is stored under the generation. -/
def Stored (programs : ExtTreeMap ProgramId (ExtTreeMap ProgramGeneration ProgramArtifact))
    (pid : ProgramId) (g : ProgramGeneration) : Prop :=
  ∃ gens : ExtTreeMap ProgramGeneration ProgramArtifact, programs[pid]? = some gens ∧
    ∃ art : ProgramArtifact, gens[g]? = some art

/-- The generations that were current at some time. -/
abbrev Seen := Set (ProgramId × ProgramGeneration)

/-- The generation is at least as great as every one that is stored or was current. -/
def AtLeastKnown (seen : Seen)
    (programs : ExtTreeMap ProgramId (ExtTreeMap ProgramGeneration ProgramArtifact))
    (pid : ProgramId) (g : ProgramGeneration) : Prop :=
  ∀ known : ProgramGeneration, Stored programs pid known ∨ (pid, known) ∈ seen →
    known.value ≤ g.value

/-- The current generations are the greatest known. -/
def LiveState.Ahead (s : LiveState) (seen : Seen) : Prop :=
  ∀ (pid : ProgramId) (g : ProgramGeneration), s.currentProgramGen[pid]? = some g →
    AtLeastKnown seen s.programs pid g

section Registration

variable (s : LiveState) (art : ProgramArtifact)

theorem stored_registerProgram_iff (pid : ProgramId) (g : ProgramGeneration) :
    Stored (s.registerProgram art).programs pid g ↔
      art.programId = pid ∧ art.programGen = g ∨ Stored s.programs pid g := by
  rw [Stored, lookup_registerProgram]
  by_cases same : art.programId = pid
  · subst same
    have entry : ((s.programs.getD art.programId ∅).insert art.programGen art)[g]? =
        if art.programGen = g then some art else (s.programs.getD art.programId ∅)[g]? :=
      OrderedMap.lookup_insert _ _ _ _
    simp only [if_pos, Option.some.injEq, exists_eq_left', entry, true_and]
    split_ifs with replaced
    · exact iff_of_true ⟨art, rfl⟩ (Or.inl replaced)
    · rw [or_iff_right replaced, Stored, ExtTreeMap.getD_eq_getD_getElem?]
      cases s.programs[art.programId]? with
      | none => simp
      | some gens => simp
  · rw [if_neg same, Stored]
    exact (or_iff_right fun registered => same registered.1).symm

theorem current_registerProgram (pid : ProgramId) :
    (s.registerProgram art).currentProgramGen[pid]? =
      if art.programId = pid ∧ s.supersedes art = true then some art.programGen
      else s.currentProgramGen[pid]? := by
  simp only [LiveState.registerProgram]
  by_cases newer : s.supersedes art = true
  · rw [if_pos newer, OrderedMap.lookup_insert]
    simp only [newer, and_true]
  · rw [if_neg newer, if_neg fun registered => newer registered.2]

theorem supersedes_eq_true_iff :
    s.supersedes art = true ↔ ∀ cur : ProgramGeneration,
      s.currentProgramGen[art.programId]? = some cur → cur.value < art.programGen.value := by
  rw [LiveState.supersedes]
  cases s.currentProgramGen[art.programId]? with
  | none => exact iff_of_true rfl fun cur present => by cases present
  | some cur => simp

variable {s art} {seen : Seen}

/-- A registration is compared with what is known only if its program has a current generation. -/
theorem ahead_registerProgram_iff (ahead : s.Ahead seen) :
    (s.registerProgram art).Ahead seen ↔
      (s.currentProgramGen[art.programId]? = none →
        AtLeastKnown seen s.programs art.programId art.programGen) := by
  constructor
  · intro ahead' none known either
    have superseded : s.supersedes art = true :=
      (supersedes_eq_true_iff s art).mpr fun cur present => by rw [none] at present; cases present
    refine ahead' art.programId art.programGen ?_ known (either.imp_left fun stored => ?_)
    · rw [current_registerProgram, if_pos ⟨rfl, superseded⟩]
    · exact (stored_registerProgram_iff s art _ _).mpr (Or.inr stored)
  · intro first pid g present known either
    rw [current_registerProgram] at present
    split_ifs at present with registered
    · obtain ⟨rfl, superseded⟩ := registered
      cases present
      rw [stored_registerProgram_iff, or_assoc] at either
      rcases either with ⟨-, rfl⟩ | before
      · exact UInt64.le_refl _
      cases was : s.currentProgramGen[art.programId]? with
      | none => exact first was known before
      | some cur =>
          exact UInt64.le_trans (ahead _ cur was known before)
            (UInt64.le_of_lt ((supersedes_eq_true_iff s art).mp superseded cur was))
    · rw [stored_registerProgram_iff, or_assoc] at either
      rcases either with ⟨rfl, rfl⟩ | before
      · -- The registration was compared with this generation.
        have kept : ¬ s.supersedes art = true := fun superseded => registered ⟨rfl, superseded⟩
        rw [supersedes_eq_true_iff, present] at kept
        by_contra greater
        exact kept fun cur same => Option.some.inj same ▸ UInt64.not_le.mp greater
      · exact ahead pid g present known before

end Registration

section Calls

variable {s s' : LiveState} {seq seq' : Nat} {op : Op} {seen : Seen}

/-- Other calls store nothing, and make nothing current. -/
theorem Accepted.programs_of_other (accepted : Accepted s seq op s' seq')
    (other : ∀ art, op ≠ .registerProgram art) :
    s'.programs = s.programs ∧ ∀ (pid : ProgramId) (g : ProgramGeneration),
      s'.currentProgramGen[pid]? = some g → s.currentProgramGen[pid]? = some g := by
  cases registers : op.registers with
  | false =>
      have same := accepted.sameRegistry registers
      exact ⟨same.programs, fun pid g present => same.currentProgramGen ▸ present⟩
  | true =>
      cases accepted with
      | registerProgram => exact absurd rfl (other _)
      | retireProgram =>
          refine ⟨rfl, fun pid g present => ?_⟩
          rw [LiveState.retireProgram, ExtTreeMap.getElem?_erase] at present
          split_ifs at present
          exact present
      | registerDevice => exact ⟨rfl, fun _ _ present => present⟩
      | registerService => exact ⟨rfl, fun _ _ present => present⟩
      | moveDeployment => exact ⟨rfl, fun _ _ present => present⟩
      | endDeployment =>
          rw [LiveState.endDeployment_eq]
          exact ⟨rfl, fun _ _ present => present⟩
      | _ => cases registers

theorem Accepted.ahead_of_other (accepted : Accepted s seq op s' seq')
    (other : ∀ art, op ≠ .registerProgram art) (ahead : s.Ahead seen) : s'.Ahead seen := by
  obtain ⟨programs, fewer⟩ := accepted.programs_of_other other
  intro pid g present
  rw [programs]
  exact ahead pid g (fewer pid g present)

end Calls

namespace Engine

/-- A deployment is committed for the current generation of its program only. -/
theorem current_of_commit {e : Engine} {id : DeploymentId} {dep : Deployment}
    (present : e.state.deployments[id]? = some dep) (named : dep.program ≠ .null)
    (committed : succeeds (commitDeployment id) e = true) :
    e.state.currentProgramGen[dep.program]? = some dep.programGen := by
  have returned : succeeds (exec (.commitDeployment id)) e = true := committed
  obtain ⟨s, seq, accepted, -⟩ := e.accepted_of_succeeds rfl rfl returned
  obtain ⟨-, current, -⟩ := accepted.of_commitDeployment present
  simpa [programIsCurrent, named] using current

/-- A program without a current generation is registered with one that is as great as any known. -/
def Renews (e : Engine) (seen : Seen) : Op → Prop
  | .registerProgram art =>
      art.programId ≠ .null → art.programGen ≠ .null →
        e.state.currentProgramGen[art.programId]? = none →
          AtLeastKnown seen e.state.programs art.programId art.programGen
  | _ => True

theorem ahead_step_of_other {e : Engine} {op : Op} {seen : Seen} (plain : op.isPlain = true)
    (other : ∀ art, op ≠ .registerProgram art) (ahead : e.state.Ahead seen) :
    (e.step op).state.Ahead seen := by
  rcases step_cases e plain with ⟨s, seq, accepted, result⟩ | ⟨-, quiet⟩
  · rw [result]
    exact accepted.ahead_of_other other ahead
  · rw [quiet.state]
    exact ahead

theorem ahead_step_iff {e : Engine} {op : Op} (ordinary : recovers op = false) {seen : Seen}
    (ahead : e.state.Ahead seen) : (e.step op).state.Ahead seen ↔ e.Renews seen op := by
  cases op with
  | registerProgram art =>
      have plain : (Op.registerProgram art).isPlain = true := rfl
      rcases step_cases e plain with ⟨s, seq, accepted, result⟩ | ⟨refused, quiet⟩
      · rw [result]
        cases accepted with
        | registerProgram named versioned =>
            rw [ahead_registerProgram_iff ahead]
            exact ⟨fun first _ _ => first, fun renews => renews named versioned⟩
        | moveDeployment moves => cases moves
        | endDeployment ends => cases ends
      · rw [quiet.state]
        refine iff_of_true ahead fun named versioned => ?_
        exact absurd (.registerProgram named versioned) (refused _ _)
  | recoverFrom file => cases ordinary
  | runAllBackends discovered =>
      rw [step_runAllBackends]
      refine iff_of_true ?_ trivial
      refine TransitionRun.run_invariant_of_step (fun e : Engine => e.state.Ahead seen) ?_ ahead _
      intro e rec ahead
      refine ahead_step_of_other (importCall_isPlain e rec) (fun art => ?_) ahead
      unfold importCall
      split_ifs <;> nofun
  | _ => exact iff_of_true (ahead_step_of_other rfl nofun ahead) trivial

end Engine

/-! ## Runs -/

namespace World

/-- The generations that are current in the process that runs. -/
def current (w : World) : Seen :=
  {entry | ∃ e, w.engine = some e ∧ e.state.currentProgramGen[entry.1]? = some entry.2}

end World

/-- A world, and the generations that were current in any process so far. -/
structure Chronicle where
  world : World := .empty
  seen : Seen := ∅

namespace Chronicle

def step (c : Chronicle) (event : Event) : Chronicle :=
  { world := c.world.step event, seen := c.seen ∪ (c.world.step event).current }

/-- The chronicle of a list of events. -/
abbrev run (events : List Event) : Chronicle := TransitionRun.run step {} events

theorem world_run (events : List Event) : (run events).world = World.empty.run events := by
  induction events using List.reverseRecOn with
  | nil => rfl
  | append_singleton front last ih =>
      rw [run, World.run, TransitionRun.run_append, TransitionRun.run_append]
      show (run front).world.step last = _
      rw [ih]
      rfl

/--
The current generations are stored, and none that is stored or was current is greater.
So no deployment of a generation that another one has superseded can be committed.
-/
structure Forward (c : Chronicle) : Prop where
  stored : ∀ e, c.world.engine = some e → ∀ (pid : ProgramId) (g : ProgramGeneration),
    e.state.currentProgramGen[pid]? = some g → Stored e.state.programs pid g
  greatest : ∀ e, c.world.engine = some e → ∀ (pid : ProgramId) (g : ProgramGeneration),
    e.state.currentProgramGen[pid]? = some g →
      ∀ other, Stored e.state.programs pid other → other.value ≤ g.value
  kept : ∀ e, c.world.engine = some e → ∀ (pid : ProgramId) (g : ProgramGeneration),
    e.state.currentProgramGen[pid]? = some g → ∀ old, (pid, old) ∈ c.seen → old.value ≤ g.value
  commits : ∀ e, c.world.engine = some e → ∀ (id : DeploymentId) (dep : Deployment),
    e.state.deployments[id]? = some dep → dep.program ≠ .null →
      Engine.succeeds (Engine.commitDeployment id) e = true →
        ∀ old, (dep.program, old) ∈ c.seen → old.value ≤ dep.programGen.value

/--
A program without a current generation is registered with one that is at least as great
as every one that is stored or was current.  A process recovers from a file in which no
current generation is smaller than one that was current.
-/
def Renews (c : Chronicle) : Event → Prop
  | .call op _ => ∀ e, c.world.engine = some e → e.Renews c.seen op
  | .start _ _ =>
      ∀ file s, c.world.disk.path = some file → s.Consistent → serialize s = .ok file →
        s.Storable → ∀ (pid : ProgramId) (g : ProgramGeneration),
          s.currentProgramGen[pid]? = some g → ∀ old, (pid, old) ∈ c.seen → old.value ≤ g.value
  | _ => True

variable {c : Chronicle}

theorem forward_iff (sound : c.world.Sound) :
    c.Forward ↔ ∀ e, c.world.engine = some e → e.state.Ahead c.seen := by
  constructor
  · intro forward e running pid g present known either
    rcases either with stored | seen
    · exact forward.greatest e running pid g present known stored
    · exact forward.kept e running pid g present known seen
  · intro ahead
    refine ⟨fun e running pid g present => ?_, fun e running pid g present other stored =>
      ahead e running pid g present other (Or.inl stored), fun e running pid g present old seen =>
      ahead e running pid g present old (Or.inr seen), ?_⟩
    · exact (sound.engine e running).consistent.current pid g present
    · intro e running id dep present named committed old seen
      exact ahead e running dep.program dep.programGen
        (Engine.current_of_commit present named committed) old (Or.inr seen)

/-- What has just become current does not count against itself. -/
theorem ahead_step_iff {event : Event} {e : Engine}
    (running : (c.world.step event).engine = some e) :
    e.state.Ahead (c.step event).seen ↔ e.state.Ahead c.seen := by
  constructor
  · intro ahead pid g present known either
    exact ahead pid g present known (either.imp_right Or.inl)
  · intro ahead pid g present known either
    rcases either with stored | seen | now
    · exact ahead pid g present known (Or.inl stored)
    · exact ahead pid g present known (Or.inr seen)
    · obtain ⟨e', running', current⟩ := now
      cases running.symm.trans running'
      cases present.symm.trans current
      exact UInt64.le_refl _

/-- What a step needs to know of the world: every readable file was saved while ahead. -/
structure Kept (c : Chronicle) : Prop where
  sound : c.world.Sound
  file : ∀ file s, c.world.disk.path = some file → s.Consistent → serialize s = .ok file →
    s.Storable → ∀ (pid : ProgramId) (g : ProgramGeneration),
      s.currentProgramGen[pid]? = some g →
        ∀ other, Stored s.programs pid other → other.value ≤ g.value
  forward : c.Forward

namespace Kept

theorem start (kept : c.Kept) (epoch : CoordinatorEpoch) (policy : Policy) :
    (∀ e, (c.world.step (.start epoch policy)).engine = some e →
      e.state.Ahead (c.step (.start epoch policy)).seen) ↔ c.Renews (.start epoch policy) := by
  constructor
  · intro ahead file s found consistent saved storable pid g present old seen
    have booted : (c.world.step (.start epoch policy)).engine =
        some (Engine.successor s policy) := by
      show Engine.boot c.world.disk.path epoch policy = _
      rw [found, Engine.boot_saved consistent saved storable]
    refine ahead _ booted pid g ?_ old (Or.inr (Or.inl seen))
    rw [Engine.successor_state, Snapshot.recovered_eq]
    exact present
  · intro renews e running
    rw [ahead_step_iff running]
    rcases World.boot_cases kept.sound.file running with
      ⟨-, rfl⟩ | ⟨file, s, found, consistent, storable, saved, rfl⟩
    · intro pid g present
      simp [Engine.fresh] at present
    · intro pid g present known either
      rw [Engine.successor_state, Snapshot.recovered_eq] at present either
      rcases either with stored | seen
      · exact kept.file file s found consistent saved storable pid g present known stored
      · exact renews file s found consistent saved storable pid g present known seen

/-- The exact condition for one step. -/
theorem forward_step_iff (kept : c.Kept) (event : Event) :
    (c.step event).Forward ↔ c.Renews event := by
  rw [forward_iff (kept.sound.step event)]
  have before := (forward_iff kept.sound).mp kept.forward
  cases event with
  | start epoch policy => exact kept.start epoch policy
  | call op ordinary =>
      constructor
      · intro ahead e running
        have running' : (c.world.step (.call op ordinary)).engine = some (e.step op) := by
          simp only [World.step, running]
        have ahead' := (ahead_step_iff running').mp (ahead _ running')
        exact (Engine.ahead_step_iff ordinary (before e running)).mp ahead'
      · intro renews e' running'
        rw [ahead_step_iff running']
        cases World.origin running' with
        | called running result =>
            exact (Engine.ahead_step_iff ordinary (before _ running)).mpr (renews _ running)
  | persist fault crash =>
      refine iff_of_true (fun e running' => ?_) trivial
      rw [ahead_step_iff running']
      cases World.origin running' with
      | persisted running result => exact before e running
  | crash => exact iff_of_true (fun e running' => by cases running') trivial

theorem step (kept : c.Kept) {event : Event} (forward : (c.step event).Forward) :
    (c.step event).Kept where
  sound := kept.sound.step event
  file := by
    intro file s found consistent saved storable pid g present other stored
    rcases World.path_step found with old | ⟨-, -, e, -, running, saved'⟩
    · exact kept.file file s old consistent saved storable pid g present other stored
    · have coherent := kept.sound.engine e running
      have same := (Engine.restored_of_same_file consistent coherent.snap saved saved' storable
        {}).2
      rw [coherent.published] at same
      have programs : s.programs = e.state.programs := congrArg LiveState.programs same
      have current : s.currentProgramGen = e.state.currentProgramGen :=
        congrArg LiveState.currentProgramGen same
      rw [programs] at stored
      rw [current] at present
      exact kept.forward.greatest e running pid g present other stored
  forward := forward

end Kept

theorem kept_empty : ({} : Chronicle).Kept := by
  have sound : World.Sound World.empty := World.sound_run []
  refine ⟨sound, ?_, (forward_iff sound).mpr ?_⟩
  · intro file s found
    cases found
  · intro e running
    cases running

end Chronicle

/--
Over every run of the coordinator's processes, the current generations are the greatest
that are stored or were current, and no deployment of a superseded one is committed,
exactly if each step meets its condition.
-/
theorem generations_forward_iff (events : List Event) :
    (∀ earlier, earlier <+: events → (Chronicle.run earlier).Forward) ↔
      TransitionRun.Every Chronicle.step Chronicle.Renews {} events := by
  rw [TransitionRun.forall_prefix_iff, and_iff_right Chronicle.kept_empty.forward]
  exact TransitionRun.every_iff_of_invariant Chronicle.Kept
    (fun c event kept => kept.forward_step_iff event)
    (fun c event forward kept => kept.step forward) Chronicle.kept_empty events

/-- A deployment for generation 3 is about to be committed when generation 5 is registered. -/
def supersededRun : List Op :=
  [.registerDevice Engine.sampleDevice, .registerProgram { programId := ⟨5⟩, programGen := ⟨3⟩ },
    .reserveDeployment { requiredProgram := some ⟨5⟩ } (some ⟨1⟩), .stageDeployment ⟨1⟩,
    .loadDeployment ⟨1⟩, .validateDeployment ⟨1⟩, .activateDeployment ⟨1⟩,
    .registerProgram { programId := ⟨5⟩, programGen := ⟨5⟩ }]

/-- The program is retired, and generation 3 is registered again. -/
def revivedRun : List Op :=
  supersededRun ++ [.retireProgram ⟨5⟩, .registerProgram { programId := ⟨5⟩, programGen := ⟨3⟩ }]

theorem revivedRun_ordinary : ∀ op ∈ revivedRun, Engine.recovers op = false := by
  decide

/-- After the retirement the smaller generation is current, and its deployment is committed. -/
theorem not_generations_forward :
    ¬ (Chronicle.run (World.sampleProcess revivedRun revivedRun_ordinary)).Forward ∧
      Engine.succeeds (Engine.commitDeployment ⟨1⟩) (Engine.sampleEngine.run supersededRun) =
        false ∧
      Engine.succeeds (Engine.commitDeployment ⟨1⟩) (Engine.sampleEngine.run revivedRun) =
        true := by
  refine ⟨fun forward => ?_, by decide, by decide⟩
  have running : (Chronicle.run (World.sampleProcess revivedRun revivedRun_ordinary)).world.engine =
      some (Engine.sampleEngine.run revivedRun) := by
    rw [Chronicle.world_run, World.run_sampleProcess]
  have stored : Stored (Engine.sampleEngine.run revivedRun).state.programs ⟨5⟩ ⟨5⟩ :=
    ⟨_, rfl, _, rfl⟩
  have backwards := forward.greatest _ running ⟨5⟩ ⟨3⟩ (by decide) ⟨5⟩ stored
  exact absurd backwards (by decide)

end DPUFabric
