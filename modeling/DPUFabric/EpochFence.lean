import DPUFabric.Authority
import DPUFabric.Freshness
import DPUFabric.Incidents

/-!
# The epoch as a fence between incarnations

A recovery takes the epoch that its file holds and advances it.  The new epoch is
in memory only: nothing makes a process persist it before authority is committed
under it, and neither the start epoch of the process nor the epoch of an engine that
recovers while it runs counts.  So the epoch of a recovered engine is new exactly
if the file it came from covers every commit made so far.
-/

namespace DPUFabric

open Std
open Persistence

/-! ## Epochs -/

theorem lt_nextGeneration_iff {epoch bound : UInt64} (room : epoch.toNat + 1 < 2 ^ 64) :
    epoch.toNat < (nextGeneration bound).toNat ↔ epoch.toNat ≤ bound.toNat := by
  by_cases saturated : bound.toNat + 1 < 2 ^ 64
  · rw [toNat_nextGeneration saturated]
    omega
  · have most := bound.toNat_lt
    have same : nextGeneration bound = bound := by
      rw [nextGeneration_eq_self_iff, ← UInt64.toNat_inj]
      change bound.toNat = 2 ^ 64 - 1
      omega
    rw [same]
    omega

theorem le_nextGeneration (epoch : UInt64) : epoch.toNat ≤ (nextGeneration epoch).toNat := by
  unfold nextGeneration
  split_ifs with saturated
  · exact le_rfl
  · have room : epoch.toNat + 1 < 2 ^ 64 := by
      have below := epoch.toNat_lt
      have differs : epoch.toNat ≠ 2 ^ 64 - 1 := fun same =>
        saturated (UInt64.toNat_inj.mp same)
      omega
    have next := toNat_nextGeneration room
    rw [nextGeneration, if_neg saturated] at next
    omega

theorem Accepted.epoch_le {s s' : LiveState} {seq seq' : Nat} {op : Op}
    (accepted : Accepted s seq op s' seq') :
    s.epoch.value.toNat ≤ s'.epoch.value.toNat := by
  rw [accepted.registry_eq.1]
  cases op with
  | advanceEpoch => exact le_nextGeneration s.epoch.value
  | _ => exact le_rfl

namespace Engine

theorem epoch_le_step (e : Engine) {op : Op} (ordinary : recovers op = false) :
    e.state.epoch.value.toNat ≤ (e.step op).state.epoch.value.toNat :=
  step_keeps (fun s _ => e.state.epoch.value.toNat ≤ s.epoch.value.toNat)
    (fun _ holds => holds) (fun accepted holds => holds.trans accepted.epoch_le) e ordinary le_rfl

theorem eq_of_mem_granted {e : Engine} {op : Op} {epoch : CoordinatorEpoch}
    (granted : epoch ∈ e.granted op) : epoch = e.state.epoch := by
  unfold Engine.granted at granted
  cases op with
  | commitDeployment id =>
      simp only at granted
      split_ifs at granted
      · exact List.mem_singleton.mp granted
      · cases granted
  | _ => cases granted

end Engine

/-! ## Commits and files -/

/-- The epoch in the file, if there is one, is this one or a later one. -/
def Holds (file : Option (List UInt8)) (epoch : CoordinatorEpoch) : Prop :=
  ∀ persisted, persistedEpoch file = some persisted →
    epoch.value.toNat ≤ (max persisted 1).toNat

/-- What is written for a snapshot holds every epoch up to the snapshot's own. -/
theorem holds_of_saved {s : Snapshot} {file : List UInt8} (saved : serialize s = .ok file)
    {epoch : CoordinatorEpoch} (below : epoch.value.toNat ≤ s.epoch.value.toNat) :
    Holds (some file) epoch := by
  intro persisted found
  rw [persistedEpoch_of_saved saved found, toNat_max_one]
  exact below.trans (le_max_left _ _)

namespace World

/-- The file holds every epoch that a commit was made under. -/
def Covers (w : World) (file : Option (List UInt8)) : Prop :=
  ∀ epoch ∈ w.committed, epoch.value.toNat + 1 < 2 ^ 64 → Holds file epoch

/-- The engine's epoch is later than that of every commit so far. -/
def Fenced (w : World) (e : Engine) : Prop :=
  ∀ old ∈ w.committed, old.value.toNat + 1 < 2 ^ 64 →
    old.value.toNat < e.state.epoch.value.toNat

/-- Every recovery that succeeds, at a start or later, fences the commits so far. -/
def Fences (w : World) : Incident → Prop
  | .event (.start epoch policy) =>
      ∀ e, Engine.recoverFrom w.disk.path (Engine.fresh epoch policy) = .ok true e → w.Fenced e
  | .event _ => True
  | .recover file =>
      ∀ e e', w.engine = some e → Engine.recoverFrom file e = .ok true e' → w.Fenced e'

/-- Every file that is recovered from covers the commits so far. -/
def RecoversCovered (w : World) : Incident → Prop
  | .event (.start _ _) => isAccepted w.disk.path = true → w.Covers w.disk.path
  | .event _ => True
  | .recover file => w.engine.isSome = true → isAccepted file = true → w.Covers file

/-- The fence is where the file is, one epoch later. -/
theorem fenced_iff (w : World) {file : Option (List UInt8)} {e e' : Engine}
    (recovered : Engine.recoverFrom file e = .ok true e') : w.Fenced e' ↔ w.Covers file := by
  rcases Engine.recoverFrom_epoch recovered with ⟨epoch, persisted, advanced⟩
  refine forall_congr' fun old => imp_congr_right fun _ => imp_congr_right fun room => ?_
  rw [advanced, lt_nextGeneration_iff room]
  constructor
  · intro below persisted' found
    rw [persisted] at found
    cases found
    exact below
  · exact fun holds => holds epoch persisted

theorem fences_iff (w : World) (incident : Incident) :
    w.Fences incident ↔ w.RecoversCovered incident := by
  cases incident with
  | recover file =>
      constructor
      · intro fences present accepted
        rcases Option.isSome_iff_exists.mp present with ⟨e, running⟩
        rcases (Engine.recoverFrom_ok_iff file e).mpr accepted with ⟨e', recovered⟩
        exact (w.fenced_iff recovered).mp (fences e e' running recovered)
      · intro covered e e' running recovered
        have accepted := (Engine.recoverFrom_ok_iff file e).mp ⟨e', recovered⟩
        exact (w.fenced_iff recovered).mpr (covered (by rw [running]; rfl) accepted)
  | event event =>
      cases event with
      | start epoch policy =>
          constructor
          · intro fences accepted
            rcases (Engine.recoverFrom_ok_iff w.disk.path
              (Engine.fresh epoch policy)).mpr accepted with ⟨e, recovered⟩
            exact (w.fenced_iff recovered).mp (fences e recovered)
          · intro covered e recovered
            have accepted := (Engine.recoverFrom_ok_iff _ _).mp ⟨e, recovered⟩
            exact (w.fenced_iff recovered).mpr (covered accepted)
      | _ => exact Iff.rfl

/-! ## A discipline -/

/--
A commit is made under an epoch that the state file already holds, a save does not
stop between the removal of the old file and the rename of the new one, and a
running engine recovers from the state file only.
-/
def CommitsDurably (w : World) : Incident → Prop
  | .event (.call op _) =>
      ∀ e, w.engine = some e → ∀ epoch ∈ e.granted op,
        ∃ file, w.disk.path = some file ∧ Holds (some file) epoch
  | .event (.persist fault crash) =>
      ∀ e, w.engine = some e → (∃ thrown, serialize e.snap = .error thrown) ∨
        OutsideGap (crash.getD (save e.snap fault).steps.length) fault
  | .event _ => True
  | .recover file => file = w.disk.path

/-- The engine is at the epoch or a later one, and so is what it has published. -/
structure Reached (e : Engine) (epoch : CoordinatorEpoch) : Prop where
  live : epoch.value.toNat ≤ e.state.epoch.value.toNat
  published : epoch.value.toNat ≤ e.snap.epoch.value.toNat

theorem Reached.of_published {e : Engine} {epoch : CoordinatorEpoch} (current : Published e)
    (live : epoch.value.toNat ≤ e.state.epoch.value.toNat) : Reached e epoch :=
  ⟨live, by rw [current]; exact live⟩

theorem Reached.step {e : Engine} {epoch : CoordinatorEpoch} (reached : Reached e epoch)
    {op : Op} (ordinary : Engine.recovers op = false) : Reached (e.step op) epoch := by
  have live := reached.live.trans (e.epoch_le_step ordinary)
  rcases e.step_publishes op with same | current
  · exact ⟨live, by rw [same]; exact reached.published⟩
  · exact .of_published current live

theorem Reached.granted {e : Engine} {op : Op} {epoch : CoordinatorEpoch}
    (granted : epoch ∈ e.granted op) : Reached (e.step op) epoch := by
  have sameEpoch := Engine.eq_of_mem_granted granted
  cases op with
  | commitDeployment id =>
      simp only [Engine.granted] at granted
      split_ifs at granted with returned
      · have executed : Engine.succeeds (Engine.exec (.commitDeployment id)) e = true := by
          simpa [Engine.exec] using returned
        rcases Engine.accepted_of_succeeds e rfl rfl executed with ⟨s, seq, accepted, result⟩
        rw [sameEpoch, result]
        exact .of_published rfl accepted.epoch_le
      · cases granted
  | _ => cases granted

/-- What the discipline keeps of commits, the file and the running process. -/
structure Durable (w : World) : Prop where
  absent : w.disk.path = none → w.committed = []
  covered : w.Covers w.disk.path
  current : ∀ e, w.engine = some e → ∀ epoch ∈ w.committed,
    epoch.value.toNat + 1 < 2 ^ 64 → Reached e epoch

namespace Durable

variable {w : World}

/-- An accepted file that covers the commits leaves an engine that has reached them. -/
theorem recovered (durable : Durable w) {e e' : Engine}
    (recovered : Engine.recoverFrom w.disk.path e = .ok true e') {epoch : CoordinatorEpoch}
    (committed : epoch ∈ w.committed) (room : epoch.value.toNat + 1 < 2 ^ 64) :
    Reached e' epoch :=
  .of_published (Engine.recoverFrom_published recovered)
    ((w.fenced_iff recovered).mpr durable.covered epoch committed room).le

theorem start (durable : Durable w) (epoch : CoordinatorEpoch) (policy : Policy) :
    Durable (w.step (.start epoch policy)) := by
  refine ⟨durable.absent, durable.covered, ?_⟩
  intro e running old committed room
  rcases Engine.boot_eq_some running with ⟨missing, rfl⟩ | recovered
  · rw [World.step, durable.absent missing] at committed
    cases committed
  · exact durable.recovered recovered committed room

theorem call (durable : Durable w) (op : Op) (ordinary : Engine.recovers op = false)
    (durably : CommitsDurably w (.event (.call op ordinary))) :
    Durable (w.step (.call op ordinary)) := by
  cases running : w.engine with
  | none => simpa only [World.step, running] using durable
  | some e =>
      simp only [World.step, running]
      constructor
      · intro missing
        have nothing : e.granted op = [] := by
          refine List.eq_nil_iff_forall_not_mem.mpr fun epoch granted => ?_
          rcases durably e running epoch granted with ⟨file, found, -⟩
          rw [missing] at found
          cases found
        rw [nothing, List.nil_append]
        exact durable.absent missing
      · intro epoch committed room
        rcases List.mem_append.mp committed with granted | old
        · rcases durably e running epoch granted with ⟨file, found, holds⟩
          change Holds w.disk.path epoch
          rw [found]
          exact holds
        · exact durable.covered epoch old room
      · intro e' same epoch committed room
        cases same
        rcases List.mem_append.mp committed with granted | old
        · exact .granted granted
        · exact (durable.current e running epoch old room).step ordinary

theorem persist (durable : Durable w) (fault : SaveFault) (crash : Option Nat)
    (durably : CommitsDurably w (.event (.persist fault crash))) :
    Durable (w.step (.persist fault crash)) := by
  cases running : w.engine with
  | none => simpa only [World.step, running] using durable
  | some e =>
      have outside := path_save_outside w.disk e.snap (durably e running)
      simp only [World.step, running]
      constructor
      · intro missing
        rcases outside with same | ⟨file, -, new⟩
        · exact durable.absent (same.symm.trans missing)
        · rw [missing] at new
          cases new
      · intro epoch committed room
        rcases outside with same | ⟨file, saved, new⟩
        · change Holds (w.disk.after _).path epoch
          rw [same]
          exact durable.covered epoch committed room
        · change Holds (w.disk.after _).path epoch
          rw [new]
          exact holds_of_saved saved (durable.current e running epoch committed room).published
      · intro e' same epoch committed room
        cases crash with
        | none =>
            cases same
            exact durable.current e running epoch committed room
        | some point => cases same

/-- A running engine that recovers from the state file stays at the epochs of the commits. -/
theorem recover (durable : Durable w) : Durable (w.happen (.recover w.disk.path)) := by
  refine ⟨durable.absent, durable.covered, ?_⟩
  intro e' running' epoch committed room
  rcases happen_engine running' with ⟨event, same, -⟩ | ⟨file, e, same, running, rfl⟩
  · cases same
  cases same
  have reached := durable.current e running epoch committed room
  cases recovered : Engine.recoverFrom w.disk.path e with
  | ok existed e' =>
      rw [Engine.step_of_recovered recovered]
      cases found : w.disk.path with
      | none =>
          rw [found] at recovered
          cases recovered
          exact .of_published rfl reached.live
      | some file =>
          have existing : existed = true := by
            rw [found] at recovered
            exact Engine.recoverFrom_existed recovered
          rw [existing] at recovered
          exact durable.recovered recovered committed room
  | error fault e' =>
      rcases Engine.recoverFrom_error recovered with ⟨out, refused, -⟩
      rw [Engine.step_recoverFrom_of_error refused]
      refine ⟨?_, reached.published⟩
      rcases load_error_cases refused with ⟨rfl, -⟩ | ⟨persisted, -, found, written⟩
      · exact reached.live
      · change epoch.value.toNat ≤ out.epoch.value.toNat
        rw [written]
        exact durable.covered epoch committed room persisted found

end Durable

theorem Durable.happen {w : World} (durable : Durable w) {incident : Incident}
    (durably : CommitsDurably w incident) : Durable (w.happen incident) := by
  cases incident with
  | recover file =>
      cases durably
      exact durable.recover
  | event event =>
      cases event with
      | start epoch policy => exact durable.start epoch policy
      | call op ordinary => exact durable.call op ordinary durably
      | persist fault crash => exact durable.persist fault crash durably
      | crash => exact ⟨durable.absent, durable.covered, fun e running => by cases running⟩

end World

/--
Whatever incarnations do, and whatever their engines recover from while they run, each
recovery takes an epoch later than every commit before it (below the largest one)
exactly if its file holds the epochs of these commits.  It is enough that no commit
is made under an epoch that the state file does not hold yet, that no save stops in
its gap, and that running engines recover from the state file only.
-/
theorem epoch_fenced_iff (incidents : List Incident) :
    (TransitionRun.Every World.happen World.Fences World.empty incidents ↔
      TransitionRun.Every World.happen World.RecoversCovered World.empty incidents) ∧
      (TransitionRun.Every World.happen World.CommitsDurably World.empty incidents →
        TransitionRun.Every World.happen World.Fences World.empty incidents) := by
  have agree : TransitionRun.Every World.happen World.Fences World.empty incidents ↔
      TransitionRun.Every World.happen World.RecoversCovered World.empty incidents :=
    TransitionRun.every_congr World.fences_iff World.empty incidents
  refine ⟨agree, fun durably => agree.mpr ?_⟩
  have durable : World.Durable World.empty := by
    constructor
    · exact fun _ => rfl
    · intro epoch committed
      cases committed
    · intro e running
      cases running
  have both := (TransitionRun.every_iff_of_invariant
    (Q := fun w incident => World.CommitsDurably w incident ∧ World.RecoversCovered w incident)
    World.Durable ?_ ?_ durable incidents).mp durably
  · exact both.mono fun w incident held => held.2
  · intro w incident durable
    refine ⟨fun durably => ⟨durably, ?_⟩, And.left⟩
    cases incident with
    | recover file =>
        cases durably
        exact fun _ _ => durable.covered
    | event event =>
        cases event with
        | start epoch policy => exact fun _ => durable.covered
        | _ => trivial
  · exact fun w incident durably durable => durable.happen durably

/-- The second process commits under the epoch that the third one recovers with. -/
theorem epoch_shared :
    ∃ events e epoch,
      Engine.recoverFrom (World.empty.run events).disk.path
        (Engine.fresh ⟨1⟩ (Policy.defaults ⟨1⟩)) = .ok true e ∧
      epoch ∈ (World.empty.run events).committed ∧ e.state.epoch = epoch ∧
      epoch.value.toNat + 1 < 2 ^ 64 := by
  have plain : ∀ op ∈ ([] : List Op), Engine.recovers op = false := by
    decide
  have plain' : ∀ op ∈ Engine.sampleRun, Engine.recovers op = false := by
    decide
  rcases World.run_sampleRestart plain plain' rfl (by decide) (by decide) with
    ⟨file, saved, served⟩
  have recovered := Engine.recoverFrom_saved (consistent_fresh ⟨1⟩ (Policy.defaults ⟨1⟩)) saved
    (by decide) ⟨1⟩ (Policy.defaults ⟨1⟩)
  refine ⟨World.sampleRestart [] Engine.sampleRun plain plain',
    Engine.successor (Engine.sampleEngine.run []).snap (Policy.defaults ⟨1⟩), ⟨2⟩, ?_, ?_, ?_,
    by decide⟩
  · rw [served]
    exact recovered
  · rw [served]
    have granted : (⟨2⟩ : CoordinatorEpoch) ∈
        (Engine.successor (Engine.sampleEngine.run []).snap (Policy.defaults ⟨1⟩)).grantedAlong
          Engine.sampleRun := by
      decide
    exact List.mem_append_left _ granted
  · rw [Engine.successor_state, Snapshot.recovered_epoch]
    rfl

end DPUFabric
