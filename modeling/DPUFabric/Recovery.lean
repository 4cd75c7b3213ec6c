import DPUFabric.Calls
import DPUFabric.Library.ParallelRun

/-!
# What a state file does to the live state

The parser never reads the live state it fills, so a file does the same to
every live state: it lays the records it contains over the tables that are
there.  `records` are those of a file, and `load_cases` says how `load` ends.
-/

namespace DPUFabric.Persistence

open Std
open ParallelRun

/-! ## The records of a file -/

/-- The live state after the sections of a payload were read into an empty one. -/
def recordsOf (payload : List UInt8) : LiveState :=
  match loadSections { ahead := payload, out := {} } with
  | .ok _ s => s.out
  | .error _ s => s.out

/-- The records a file contributes; none when its container is not intact. -/
def records (file : Option (List UInt8)) : LiveState :=
  match file with
  | none => {}
  | some buf =>
      match openContainer buf with
      | .error _ => {}
      | .ok payload => recordsOf payload

/-- A file whose container is intact and whose payload is not. -/
def isMalformed (file : Option (List UInt8)) : Bool :=
  match file with
  | none => false
  | some buf =>
      match openContainer buf with
      | .error _ => false
      | .ok payload =>
          match loadSections { ahead := payload, out := {} } with
          | .ok _ _ => false
          | .error _ _ => true

/-- The tables of `out` are those of `base` with the records of `own` laid over them. -/
structure Overlay (base own out : LiveState) : Prop where
  devices : ∀ id : DeviceId, out.devices[id]? = own.devices[id]?.or base.devices[id]?
  services : ∀ id : ServiceId, out.services[id]? = own.services[id]?.or base.services[id]?
  currentProgramGen : ∀ id : ProgramId,
    out.currentProgramGen[id]? = own.currentProgramGen[id]?.or base.currentProgramGen[id]?
  deployments : ∀ id : DeploymentId,
    out.deployments[id]? = own.deployments[id]?.or base.deployments[id]?

theorem Overlay.refl (base : LiveState) : Overlay base {} base := by
  constructor <;> simp

/-! ## The writes of the parser -/

/-- The writes that the sections of a payload make. -/
inductive ParserWrite : (LiveState → LiveState) → Prop
  | epoch (epoch : CoordinatorEpoch) : ParserWrite fun out => { out with epoch := epoch }
  | policy (change : Policy → Policy) :
      ParserWrite fun out => { out with policy := change out.policy }
  | device (d : DeviceRecord) :
      ParserWrite fun out =>
        { out with
          devices := out.devices.insert d.deviceId d
          deviceOrder := out.deviceOrder ++ [d.deviceId]
          ledgers := out.ledgers.insertIfNew d.deviceId ⟨d.resourceCapacity, {}⟩ }
  | service (svc : ServiceDefinition) :
      ParserWrite fun out => { out with services := out.services.insert svc.serviceId svc }
  | program (pid : ProgramId) (g : ProgramGeneration) (art : ProgramArtifact) :
      ParserWrite fun out =>
        { out with programs := out.programs.insert pid ((out.programs.getD pid ∅).insert g art) }
  | current (pid : ProgramId) (g : ProgramGeneration) :
      ParserWrite fun out =>
        { out with currentProgramGen := out.currentProgramGen.insert pid g }
  | deployment (d : Deployment) :
      ParserWrite fun out =>
        { out with deployments := out.deployments.insert d.deploymentId d }
  | usage (did : DeviceId) (u : Usage) :
      ParserWrite fun out => { out with usage := out.usage.insert did u }

/-- Two parsers at the same byte, over related live states. -/
structure Alongside (related : LiveState → LiveState → Prop) (left right : LoadState) :
    Prop where
  ahead : left.ahead = right.ahead
  out : related left.out right.out

section Sections

variable {related : LiveState → LiveState → Prop}

theorem parallel_reading {α : Type} (read : Wire.ReaderM α) :
    Parallel (Alongside related) (reading read) := by
  rintro ⟨ahead, own⟩ ⟨ahead', out⟩ ⟨rfl, states⟩
  simp only [reading]
  cases read ahead
  · exact .ok ⟨rfl, states⟩
  · exact .error ⟨rfl, states⟩

theorem parallel_times {body : LoadM Unit} (once : Parallel (Alongside related) body)
    (n : Nat) : Parallel (Alongside related) (times body n) := by
  induction n with
  | zero => exact parallel_pure ()
  | succ n ih => exact parallel_bind once fun _ => ih

variable (keeps : ∀ {change : LiveState → LiveState}, ParserWrite change →
  ∀ left right, related left right → related (change left) (change right))
include keeps

theorem parallel_fill {change : LiveState → LiveState} (writes : ParserWrite change) :
    Parallel (Alongside related) (fill change) :=
  parallel_modify fun _ _ states => ⟨states.ahead, keeps writes _ _ states.out⟩

theorem parallel_loadPolicy : Parallel (Alongside related) loadPolicy := by
  unfold loadPolicy
  refine parallel_bind (parallel_reading _) fun epoch => ?_
  refine parallel_bind (parallel_fill keeps (.epoch _)) fun _ => ?_
  extract_lets policy
  have policy_same : ∀ change, Parallel (Alongside related) (policy change) :=
    fun change => parallel_fill keeps (.policy change)
  clear_value policy
  -- Ten fields follow, each read and written.
  iterate 10
    refine parallel_bind (parallel_reading _) fun value => ?_
    refine parallel_bind (policy_same _) fun _ => ?_
  refine parallel_bind (parallel_reading _) fun nweights => parallel_times ?_ nweights
  refine parallel_bind (parallel_reading _) fun factor => ?_
  refine parallel_bind (parallel_reading _) fun weight => ?_
  exact policy_same _

theorem parallel_loadDevices : Parallel (Alongside related) loadDevices :=
  parallel_bind (parallel_reading _) fun ndev => parallel_times
    (parallel_bind (parallel_reading _) fun d => parallel_fill keeps (.device d)) ndev

theorem parallel_loadServices : Parallel (Alongside related) loadServices :=
  parallel_bind (parallel_reading _) fun nsvc => parallel_times
    (parallel_bind (parallel_reading _) fun svc => parallel_fill keeps (.service svc)) nsvc

theorem parallel_loadPrograms : Parallel (Alongside related) loadPrograms := by
  unfold loadPrograms
  refine parallel_bind (parallel_reading _) fun nprog => parallel_times ?_ nprog
  refine parallel_bind (parallel_reading _) fun pid => ?_
  refine parallel_bind (parallel_reading _) fun ng => parallel_times ?_ ng
  refine parallel_bind (parallel_reading _) fun g => ?_
  refine parallel_bind (parallel_reading _) fun art => ?_
  refine parallel_bind (parallel_reading _) fun cur => ?_
  refine parallel_bind (parallel_fill keeps (.program pid g art)) fun _ => ?_
  cases cur
  · exact parallel_pure ()
  · exact parallel_fill keeps (.current pid g)

theorem parallel_loadDeployments : Parallel (Alongside related) loadDeployments :=
  parallel_bind (parallel_reading _) fun ndep => parallel_times
    (parallel_bind (parallel_reading _) fun d => parallel_fill keeps (.deployment d)) ndep

theorem parallel_loadUsage : Parallel (Alongside related) loadUsage :=
  parallel_bind (parallel_reading _) fun nusage => parallel_times
    (parallel_bind (parallel_reading _) fun did =>
      parallel_bind (parallel_reading _) fun u => parallel_fill keeps (.usage did u)) nusage

/-- What every write keeps, the sections of a payload keep, however they end. -/
theorem parallel_loadSections : Parallel (Alongside related) loadSections :=
  parallel_bind (parallel_loadPolicy keeps) fun _ =>
    parallel_bind (parallel_loadDevices keeps) fun _ =>
      parallel_bind (parallel_loadServices keeps) fun _ =>
        parallel_bind (parallel_loadPrograms keeps) fun _ =>
          parallel_bind (parallel_loadDeployments keeps) fun _ =>
            parallel_bind (parallel_loadUsage keeps) fun _ => parallel_reading _

end Sections

/-- A parser lays its records over whatever state it starts from. -/
theorem overlay_write {base own out : LiveState} {change : LiveState → LiveState}
    (writes : ParserWrite change) (overlay : Overlay base own out) :
    Overlay base (change own) (change out) := by
  cases writes with
  | device d =>
      refine { overlay with devices := fun id => ?_ }
      simp only [OrderedMap.lookup_insert]
      split_ifs
      · rfl
      · exact overlay.devices id
  | service svc =>
      refine { overlay with services := fun id => ?_ }
      simp only [OrderedMap.lookup_insert]
      split_ifs
      · rfl
      · exact overlay.services id
  | current pid g =>
      refine { overlay with currentProgramGen := fun id => ?_ }
      simp only [OrderedMap.lookup_insert]
      split_ifs
      · rfl
      · exact overlay.currentProgramGen id
  | deployment d =>
      refine { overlay with deployments := fun id => ?_ }
      simp only [OrderedMap.lookup_insert]
      split_ifs
      · rfl
      · exact overlay.deployments id
  | _ => exact { overlay with }

/-! ## How a load ends -/

/-- The four ways `load` can end; `related` says how the writes of the parser end. -/
inductive LoadOutcome (related : LiveState → LiveState → Prop) (file : Option (List UInt8))
    (s : LiveState) : Prop
  | missing (absent : file = none) (result : load file s = .ok false s)
  | rejected {fault : Fault} (empty : records file = {})
      (wellFormed : isMalformed file = false) (result : load file s = .error fault s)
  /-- The sections read so far stay in the live state, unfenced. -/
  | malformed {fault : Fault} {out : LiveState} (isMalformed : isMalformed file = true)
      (related : related (records file) out) (result : load file s = .error fault out)
  | accepted {out : LiveState} (wellFormed : isMalformed file = false)
      (related : related (records file) out)
      (result : load file s = .ok true (fenceRecovered out))

theorem loadPayload_apply (s : LoadState) :
    loadPayload s =
      match loadSections s with
      | .ok _ s => .ok () { s with out := fenceRecovered s.out }
      | .error fault s => .error fault s := by
  cases sections : loadSections s with
  | ok _ final => exact Exceptions.bind_of_ok sections
  | error fault final => exact Exceptions.bind_of_error sections

/-- A relation that every write of the parser keeps, and its last pass, a load keeps. -/
theorem parallel_load {related : LiveState → LiveState → Prop}
    (keeps : ∀ {change : LiveState → LiveState}, ParserWrite change →
      ∀ left right, related left right → related (change left) (change right))
    (fences : ∀ left right, related left right →
      related (fenceRecovered left) (fenceRecovered right))
    (file : Option (List UInt8)) : Parallel related (load file) := by
  intro s s' states
  cases file with
  | none => exact .ok states
  | some buf =>
      unfold load
      dsimp only
      cases openContainer buf with
      | error fault => exact .error states
      | ok payload =>
          have sections : Parallel (Alongside related) loadPayload :=
            parallel_bind (parallel_loadSections keeps) fun _ =>
              parallel_modify fun _ _ states => ⟨states.ahead, fences _ _ states.out⟩
          have both := sections ⟨payload, s⟩ ⟨payload, s'⟩ ⟨rfl, states⟩
          dsimp only
          revert both
          cases loadPayload ⟨payload, s⟩ <;> cases loadPayload ⟨payload, s'⟩ <;>
            intro both <;> cases both
          · rename_i states'
            exact .ok states'.out
          · rename_i states'
            exact .error states'.out

/-- A load relates what it leaves to the records of the file, whatever its writes keep. -/
theorem load_cases_related {related : LiveState → LiveState → Prop}
    (keeps : ∀ {change : LiveState → LiveState}, ParserWrite change →
      ∀ left right, related left right → related (change left) (change right))
    {s : LiveState} (start : related {} s) (file : Option (List UInt8)) :
    LoadOutcome related file s := by
  cases file with
  | none => exact .missing rfl rfl
  | some buf =>
      cases opened : openContainer buf with
      | error fault =>
          have refused : load (some buf) s = .error fault s := by simp [load, opened]
          exact .rejected (by simp [records, opened]) (by simp [isMalformed, opened]) refused
      | ok payload =>
          have sections : Parallel (Alongside related) loadSections :=
            parallel_loadSections keeps
          have both := sections
            { ahead := payload, out := {} } { ahead := payload, out := s } ⟨rfl, start⟩
          cases own : loadSections { ahead := payload, out := {} } with
          | ok value left =>
              cases mine : loadSections { ahead := payload, out := s } with
              | error fault right =>
                  rw [own, mine] at both
                  cases both
              | ok value' right =>
                  rw [own, mine] at both
                  obtain ⟨-, states⟩ : Alongside related left right := by
                    cases both with
                    | ok states => exact states
                  have loaded : load (some buf) s = .ok true (fenceRecovered right.out) := by
                    simp [load, opened, loadPayload_apply, mine]
                  exact .accepted (by simp [isMalformed, opened, own])
                    (by simpa [records, opened, recordsOf, own] using states) loaded
          | error fault left =>
              cases mine : loadSections { ahead := payload, out := s } with
              | ok value right =>
                  rw [own, mine] at both
                  cases both
              | error fault' right =>
                  rw [own, mine] at both
                  obtain ⟨-, states⟩ : Alongside related left right := by
                    cases both with
                    | error states => exact states
                  have failed : load (some buf) s = .error fault' right.out := by
                    simp [load, opened, loadPayload_apply, mine]
                  exact .malformed (by simp [isMalformed, opened, own])
                    (by simpa [records, opened, recordsOf, own] using states) failed

theorem load_cases (file : Option (List UInt8)) (s : LiveState) :
    LoadOutcome (Overlay s) file s :=
  load_cases_related (fun writes _ _ => overlay_write writes) (Overlay.refl s) file

end DPUFabric.Persistence

namespace DPUFabric

open Std
open Persistence

/-! ## Recovery steps -/

/-- After `recover_from` rebuilt the ledgers, only they, the usage and the epoch differ. -/
theorem LiveState.rebuildLedgers_eq (s : LiveState) :
    s.rebuildLedgers =
      { s with
        epoch := ⟨nextGeneration s.epoch.value⟩
        ledgers := s.rebuildLedgers.ledgers
        usage := s.rebuildLedgers.usage } := by
  unfold rebuildLedgers
  refine OrderedMap.sweep_invariant (fun reached : LiveState => reached =
    { s with
      epoch := ⟨nextGeneration s.epoch.value⟩
      ledgers := reached.ledgers
      usage := reached.usage }) ?_ ?_
  · rfl
  · intro reached id dev _ same
    rw [same]

/-- The four ways a recovery step can go. -/
inductive RecoveryStep (related : LiveState → LiveState → Prop) (file : Option (List UInt8))
    (e : Engine) : Prop
  | missing (absent : file = none)
      (result : e.step (.recoverFrom file) = { e with snap := makeSnapshot e.state })
  | rejected (empty : records file = {}) (wellFormed : isMalformed file = false)
      (result : e.step (.recoverFrom file) = e)
  | malformed {out : LiveState} (isMalformed : isMalformed file = true)
      (related : related (records file) out)
      (thrown : Engine.succeeds (Engine.exec (.recoverFrom file)) e = false)
      (result : e.step (.recoverFrom file) = { e with state := out })
  | accepted {out : LiveState} (wellFormed : isMalformed file = false)
      (related : related (records file) out)
      (result : e.step (.recoverFrom file) =
        { e with
          state := (fenceRecovered out).rebuildLedgers
          snap := makeSnapshot (fenceRecovered out).rebuildLedgers })

theorem recoverFrom_cases_related {related : LiveState → LiveState → Prop}
    (keeps : ∀ {change : LiveState → LiveState}, ParserWrite change →
      ∀ left right, related left right → related (change left) (change right))
    {e : Engine} (start : related {} e.state) (file : Option (List UInt8)) :
    RecoveryStep related file e := by
  cases load_cases_related keeps start file with
  | missing absent result =>
      exact .missing absent (by simpa using Engine.step_recoverFrom_of_ok result)
  | rejected empty wellFormed result =>
      exact .rejected empty wellFormed (Engine.step_recoverFrom_of_error result)
  | malformed isMalformed states result =>
      exact .malformed isMalformed states
        (by simp [Engine.succeeds, Engine.exec, Engine.recoverFrom, result])
        (Engine.step_recoverFrom_of_error result)
  | accepted wellFormed states result =>
      exact .accepted wellFormed states (by simpa using Engine.step_recoverFrom_of_ok result)

theorem recoverFrom_cases (file : Option (List UInt8)) (e : Engine) :
    RecoveryStep (Overlay e.state) file e :=
  recoverFrom_cases_related (fun writes _ _ => overlay_write writes) (Overlay.refl e.state) file

/-! ## Invariants across recoveries -/

/-- What every write of the parser keeps, the sections of a payload keep. -/
theorem Persistence.loadSections_keeps {holds : LiveState → Prop}
    (writes : ∀ {change : LiveState → LiveState}, ParserWrite change →
      ∀ out, holds out → holds (change out))
    (s : LoadState) (start : holds s.out) :
    match loadSections s with
    | .ok _ reached => holds reached.out
    | .error _ reached => holds reached.out := by
  have sections : ParallelRun.Parallel (Alongside fun left right => left = right ∧ holds left)
      loadSections := by
    refine parallel_loadSections fun writes' left right states => ?_
    rcases states with ⟨rfl, kept⟩
    exact ⟨rfl, writes writes' _ kept⟩
  have both := sections s s ⟨rfl, rfl, start⟩
  cases read : loadSections s with
  | ok value reached =>
      rw [read] at both
      cases both with
      | ok states => exact states.out.2
  | error fault reached =>
      rw [read] at both
      cases both with
      | error states => exact states.out.2

/-- A load that succeeds leaves what its writes relate to the records of the file. -/
theorem Persistence.load_ok_related {related : LiveState → LiveState → Prop}
    (keeps : ∀ {change : LiveState → LiveState}, ParserWrite change →
      ∀ left right, related left right → related (change left) (change right))
    {file : Option (List UInt8)} {s s' : LiveState} (start : related {} s)
    (loaded : load file s = .ok true s') :
    ∃ out, related (records file) out ∧ s' = fenceRecovered out := by
  cases load_cases_related keeps start file with
  | missing _ result => rw [loaded] at result; cases result
  | rejected _ _ result => rw [loaded] at result; cases result
  | malformed _ _ result => rw [loaded] at result; cases result
  | accepted _ states result =>
      rw [loaded] at result
      cases result
      exact ⟨_, states, rfl⟩

/-- An invariant of the live state that reading a state file keeps as well. -/
structure KeptByRecovery (holds : LiveState → Prop) : Prop where
  writes : ∀ {change : LiveState → LiveState}, ParserWrite change →
    ∀ out, holds out → holds (change out)
  fences : ∀ out, holds out → holds (fenceRecovered out)
  rebuilds : ∀ out, holds out → holds out.rebuildLedgers

theorem Engine.step_recoverFrom_keeps {holds : LiveState → Prop}
    (kept : KeptByRecovery holds) {e : Engine} (start : holds e.state)
    (file : Option (List UInt8)) : holds (e.step (.recoverFrom file)).state := by
  cases file with
  | none => rw [step_recoverFrom_of_ok (s := e.state) rfl]; exact start
  | some buf =>
      cases opened : openContainer buf with
      | error fault =>
          have refused : load (some buf) e.state = .error fault e.state := by
            simp [load, opened]
          rw [step_recoverFrom_of_error refused]
          exact start
      | ok payload =>
          have sections := loadSections_keeps kept.writes { ahead := payload, out := e.state } start
          revert sections
          cases read : loadSections { ahead := payload, out := e.state } with
          | ok value reached =>
              intro sections
              have loaded : load (some buf) e.state = .ok true (fenceRecovered reached.out) := by
                simp [load, opened, loadPayload_apply, read]
              rw [step_recoverFrom_of_ok loaded]
              exact kept.rebuilds _ (kept.fences _ sections)
          | error fault reached =>
              intro sections
              have failed : load (some buf) e.state = .error fault reached.out := by
                simp [load, opened, loadPayload_apply, read]
              rw [step_recoverFrom_of_error failed]
              exact sections

/-- What accepted calls and recoveries keep, every call keeps. -/
theorem Engine.step_keeps_recovering {holds : LiveState → Prop} (kept : KeptByRecovery holds)
    (keeps : ∀ {s s' : LiveState} {seq seq' : Nat} {op : Op},
      Accepted s seq op s' seq' → holds s → holds s')
    (e : Engine) (op : Op) (start : holds e.state) : holds (e.step op).state := by
  cases recovers : Engine.recovers op with
  | false =>
      exact Engine.step_keeps (fun s _ => holds s) (fun _ holds => holds)
        (fun accepted holds => keeps accepted holds) e recovers start
  | true =>
      cases op <;> try cases recovers
      exact Engine.step_recoverFrom_keeps kept start _

end DPUFabric
