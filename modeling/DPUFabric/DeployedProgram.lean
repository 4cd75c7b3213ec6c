import DPUFabric.Reservation

/-!
# The program that is deployed

An evaluation checks the service's program when the service names one, and the
request's otherwise; a reservation binds the request's when the request names
one, and the service's otherwise.  They bind and check the same program, and the
same generation of it, unless the request names another one than the service or
names the null program.
-/

namespace DPUFabric

open Std
open LiveState

/-- A deployment of the program and generation that an evaluation checked, if any. -/
structure RunsChecked (snap : Snapshot) (req : OffloadRequest)
    (svc : Option ServiceDefinition) (dep : Deployment) : Prop where
  checked : ∀ pid, wantedProgram req svc = some pid →
    dep.program = pid ∧ dep.programGen = snap.currentGen pid ∧
      ∃ art, findCurrentProgram snap dep.program dep.programGen = some art
  /-- The program is null only when none was checked. -/
  unchecked : wantedProgram req svc = none ↔ dep.program = .null
  unversioned : wantedProgram req svc = none → dep.programGen = .null

/-- The program a request names is one, and the only one that is named. -/
def NamesOneProgram (req : OffloadRequest) (svc : Option ServiceDefinition) : Prop :=
  ∀ p, req.requiredProgram = some p →
    p ≠ .null ∧ ∀ s, svc = some s → s.requiredProgram = .null ∨ s.requiredProgram = p

/-- The program of a reserved deployment. -/
def boundProgram (req : OffloadRequest) (svc : Option ServiceDefinition) : ProgramId :=
  req.requiredProgram.getD (svc.elim .null (·.requiredProgram))

theorem wantedProgram_eq_boundProgram {req : OffloadRequest} {svc : Option ServiceDefinition}
    (one : NamesOneProgram req svc) :
    wantedProgram req svc =
      if boundProgram req svc = .null then none else some (boundProgram req svc) := by
  unfold wantedProgram boundProgram
  cases named : req.requiredProgram with
  | none =>
      cases svc with
      | none => simp
      | some s => by_cases null : s.requiredProgram = .null <;> simp [null]
  | some p =>
      obtain ⟨nonnull, agrees⟩ := one p named
      cases svc with
      | none => simp [nonnull]
      | some s =>
          rcases agrees s rfl with null | same
          · simp [null, nonnull]
          · simp [same, nonnull]

theorem namesOneProgram_of_wanted {req : OffloadRequest} {svc : Option ServiceDefinition}
    (wanted : ∀ pid, wantedProgram req svc = some pid → boundProgram req svc = pid)
    (nonnull : wantedProgram req svc = none ↔ boundProgram req svc = .null) :
    NamesOneProgram req svc := by
  intro p named
  have bound : boundProgram req svc = p := by simp [boundProgram, named]
  rw [bound] at wanted nonnull
  cases svc with
  | none =>
      have checks : wantedProgram req none = some p := named
      rw [checks] at nonnull
      exact ⟨fun null => by simp [null] at nonnull, fun s same => by cases same⟩
  | some s =>
      by_cases null : s.requiredProgram = .null
      · have checks : wantedProgram req (some s) = some p := by
          simp [wantedProgram, null, named]
        rw [checks] at nonnull
        refine ⟨fun null => by simp [null] at nonnull, fun s' same => ?_⟩
        cases same
        exact Or.inl null
      · have checks : wantedProgram req (some s) = some s.requiredProgram := by
          simp [wantedProgram, null]
        have same := wanted _ checks
        refine ⟨fun absent => null (same.symm.trans absent), fun s' found => ?_⟩
        cases found
        exact Or.inr same.symm

theorem getD_eq_currentGen (s : LiveState) (pid : ProgramId) :
    s.currentProgramGen.getD pid .null = (makeSnapshot s).currentGen pid := by
  rw [ExtTreeMap.getD_eq_getD_getElem?, Snapshot.currentGen]
  simp only [makeSnapshot]
  cases s.currentProgramGen[pid]? <;> rfl

/--
The program deployed is the program checked exactly when the request does not
name the null program, nor another one than its service.
-/
theorem deployed_program_iff (F : Type) [ScoreArith F] (epoch : CoordinatorEpoch)
    (policy : Policy) (ops : List Op)
    (returns : RecoveriesReturn (Engine.fresh epoch policy) ops)
    (req : OffloadRequest) (result : EligibilityResult F) (did : DeviceId)
    (evaluated : (Engine.run (Engine.fresh epoch policy) ops).evaluate F req = .ok result)
    (chosen : result.selected = some did) (id : DeploymentId) (e' : Engine) (dep : Deployment)
    (reserved : Engine.reserveDeployment req result.selected
      (Engine.run (Engine.fresh epoch policy) ops) = .ok id e')
    (stored : e'.state.deployments[id]? = some dep) :
    RunsChecked (Engine.run (Engine.fresh epoch policy) ops).snap req
        ((Engine.run (Engine.fresh epoch policy) ops).snap.requestedService req) dep ↔
      NamesOneProgram req
        ((Engine.run (Engine.fresh epoch policy) ops).snap.requestedService req) := by
  have published := snap_run epoch policy returns
  generalize Engine.run (Engine.fresh epoch policy) ops = e at published evaluated reserved ⊢
  obtain ⟨-, dev, -, clean⟩ := selected_passed evaluated chosen
  obtain ⟨-, -, suits⟩ := (rejections_eq_nil_iff _ _ _ _ _).mp clean
  rw [published] at suits ⊢
  rw [chosen] at reserved
  obtain ⟨dev', svc, ledger, dep', reserves⟩ := Engine.reserves_of_returns reserved
  have same : dep' = dep := Option.some.inj (reserves.deployment.symm.trans stored)
  subst same
  have program : dep'.program = boundProgram req svc := by
    rw [reserves.made]
    rfl
  have programGen : dep'.programGen =
      if boundProgram req svc = .null then .null
      else (makeSnapshot e.state).currentGen (boundProgram req svc) := by
    rw [reserves.made, ← getD_eq_currentGen]
    change (if (boundProgram req svc).isNull then _ else _) = _
    by_cases null : boundProgram req svc = .null
    · rw [if_pos null, if_pos ((Id.isNull_eq_true_iff _).mpr null)]
    · rw [if_neg null, if_neg (by simpa using null)]
      rfl
  rw [← reserves.offered.eq_requestedService]
  constructor
  · intro checked
    refine namesOneProgram_of_wanted (fun pid wanted => ?_) ?_
    · rw [← program]
      exact (checked.checked pid wanted).1
    · rw [← program]
      exact checked.unchecked
  · intro one
    have wanted := wantedProgram_eq_boundProgram one
    by_cases null : boundProgram req svc = .null
    · rw [if_pos null] at wanted programGen
      refine ⟨fun pid checks => ?_, ?_, fun _ => programGen⟩
      · rw [wanted] at checks
        cases checks
      · rw [program]
        exact iff_of_true wanted null
    · rw [if_neg null] at wanted programGen
      refine ⟨fun pid checks => ?_, ?_, fun none => ?_⟩
      · rw [wanted] at checks
        cases checks
        refine ⟨program, programGen, ?_⟩
        rw [programGen, program]
        obtain ⟨art, found, -⟩ := suits.program (boundProgram req svc) (by
          change wantedProgram req ((makeSnapshot e.state).requestedService req) = _
          rw [← reserves.offered.eq_requestedService]
          exact wanted)
        exact ⟨art, found⟩
      · rw [program, wanted]
        exact iff_of_false (by simp) null
      · rw [wanted] at none
        cases none

/-! ## A program that was never checked -/

/-- A device, a program and a service that runs it. -/
def programRun : List Op :=
  [.registerDevice cryptoDevice, .registerProgram { programId := ⟨5⟩, programGen := ⟨1⟩ },
    .registerService { serviceId := ⟨90⟩, requiredProgram := ⟨5⟩ }]

def programEngine : Engine := Engine.sampleEngine.run programRun

/-- A request for the service, with a program of its own. -/
def programRequest (program : Option ProgramId) : OffloadRequest :=
  { service := some ⟨90⟩, requiredProgram := program }

theorem programEngine_passes :
    Passes ℚ programEngine.snap (programRequest (some ⟨7⟩)) ⟨1⟩ cryptoDevice where
  listed := List.mem_cons_self
  registered := rfl
  clean := by decide +kernel

theorem serviceEngine_passes :
    Passes ℚ programEngine.snap (programRequest none) ⟨1⟩ cryptoDevice where
  listed := List.mem_cons_self
  registered := rfl
  clean := by decide +kernel

theorem deployed_program_iff_sample :
    ∃ (id : DeploymentId) (e' : Engine) (dep : Deployment),
      Engine.reserveDeployment (programRequest none) (some ⟨1⟩) programEngine = .ok id e' ∧
        e'.state.deployments[id]? = some dep ∧
        RunsChecked programEngine.snap (programRequest none)
          (programEngine.snap.requestedService (programRequest none)) dep := by
  have returned : Engine.succeeds
      (Engine.reserveDeployment (programRequest none) (some ⟨1⟩)) programEngine = true := by
    decide
  obtain ⟨id, reserved⟩ := Engine.eq_ok_of_succeeds returned
  obtain ⟨_, _, _, dep, reserves⟩ := Engine.reserves_of_returns reserved
  have returns : RecoveriesReturn (Engine.fresh ⟨1⟩ (Policy.defaults ⟨1⟩)) programRun := by
    simp [RecoveriesReturn, programRun, Engine.recovers]
  have one : NamesOneProgram (programRequest none)
      (programEngine.snap.requestedService (programRequest none)) := by
    rintro p ⟨⟩
  exact ⟨id, _, dep, reserved, reserves.deployment,
    (deployed_program_iff ℚ ⟨1⟩ (Policy.defaults ⟨1⟩) programRun returns (programRequest none)
      _ ⟨1⟩ (evaluateOffload_only rfl ⟨by decide, by decide⟩ serviceEngine_passes) rfl id _ dep
      reserved reserves.deployment).mpr one⟩

/-- The service's program is checked, and the request's, which is unknown, is deployed. -/
theorem deployed_program_unchecked :
    ∃ (ops : List Op) (req : OffloadRequest) (result : EligibilityResult ℚ) (did : DeviceId)
      (id : DeploymentId) (e' : Engine) (dep : Deployment),
      (Engine.sampleEngine.run ops).evaluate ℚ req = .ok result ∧
        result.selected = some did ∧
        Engine.reserveDeployment req result.selected (Engine.sampleEngine.run ops) =
          .ok id e' ∧
        e'.state.deployments[id]? = some dep ∧
        wantedProgram req ((Engine.sampleEngine.run ops).snap.requestedService req) =
          some ⟨5⟩ ∧
        dep.program = ⟨7⟩ ∧
        ¬ RunsChecked (Engine.sampleEngine.run ops).snap req
          ((Engine.sampleEngine.run ops).snap.requestedService req) dep := by
  have returned : Engine.succeeds
      (Engine.reserveDeployment (programRequest (some ⟨7⟩)) (some ⟨1⟩)) programEngine = true := by
    decide
  obtain ⟨id, reserved⟩ := Engine.eq_ok_of_succeeds returned
  obtain ⟨_, _, _, dep, reserves⟩ := Engine.reserves_of_returns reserved
  have bound : dep.program = ⟨7⟩ := by
    rw [reserves.made]
    rfl
  refine ⟨programRun, programRequest (some ⟨7⟩), _, ⟨1⟩, id, _, dep,
    evaluateOffload_only rfl ⟨by decide, by decide⟩ programEngine_passes, rfl, reserved,
    reserves.deployment, rfl, bound, ?_⟩
  intro checked
  have same := (checked.checked ⟨5⟩ rfl).1
  rw [bound] at same
  cases same

end DPUFabric
