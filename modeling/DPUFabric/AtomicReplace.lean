import DPUFabric.Save

/-!
# Replacing the state file

`PersistenceStore::save` writes a temporary file, removes the state file and
renames the temporary one.  The steps are taken one at a time here, so that a
crash can come between any two of them, and each step that reports a failure
may fail.

Between the removal and the rename there is no state file.  A crash there, or a
rename that fails, leaves none, and `load` takes a missing file for that of a
fresh coordinator.
-/

namespace DPUFabric.Persistence

/-! ## The file system -/

/-- The state file and its temporary companion, as far as they exist. -/
structure Disk where
  path : Option (List UInt8) := none
  tmp : Option (List UInt8) := none

/-- The single steps of the file system that `save` takes. -/
inductive FileStep where
  | openTmp
  | writeTmp (bytes : List UInt8)
  | closeTmp
  | removePath
  | renameTmp
  /-- A rename that fails changes nothing. -/
  | renameFails
  | removeTmp

namespace Disk

def apply (d : Disk) : FileStep → Disk
  | .openTmp => { d with tmp := some [] }
  | .writeTmp bytes => { d with tmp := some bytes }
  | .closeTmp => d
  | .removePath => { d with path := none }
  | .renameTmp =>
      match d.tmp with
      | none => d
      | some bytes => { path := some bytes, tmp := none }
  | .renameFails => d
  | .removeTmp => { d with tmp := none }

/-- The files after some steps. -/
def after (d : Disk) (steps : List FileStep) : Disk :=
  steps.foldl apply d

end Disk

/-! ## The steps of a save -/

/-- The step of a save that fails, if one does; a failed write may write a part. -/
inductive SaveFault where
  | noFault
  | openFails
  | writeFails (written : Nat)
  | renameFails
deriving DecidableEq

/-- The steps a save takes, and the error it throws after them. -/
structure SavePlan where
  steps : List FileStep
  thrown : Option Fault

/-- The atomic replace: temp, flush and close, rename. -/
def replaceFile (file : List UInt8) : SaveFault → SavePlan
  | .noFault =>
      { steps := [.openTmp, .writeTmp file, .closeTmp, .removePath, .renameTmp]
        thrown := none }
  | .openFails =>
      { steps := []
        thrown := some (.error .ioError "cannot open temp state file") }
  | .writeFails written =>
      { steps := [.openTmp, .writeTmp (file.take written), .closeTmp]
        thrown := some (.error .ioError "cannot write temp state file") }
  | .renameFails =>
      { steps :=
          [.openTmp, .writeTmp file, .closeTmp, .removePath, .renameFails, .removeTmp]
        thrown := some (.error .ioError "cannot atomically replace state file") }

/-- `PersistenceStore::save`. -/
def save (s : Snapshot) (fault : SaveFault) : SavePlan :=
  match serialize s with
  | .error thrown => { steps := [], thrown := some thrown }
  | .ok file => replaceFile file fault

/-! ## What a save leaves -/

/--
The save stops outside the gap: before it removes the state file, or after a
rename that succeeds.
-/
def OutsideGap (crash : Nat) : SaveFault → Prop
  | .noFault => crash ≤ 3 ∨ 5 ≤ crash
  | .renameFails => crash ≤ 3
  | _ => True

instance (crash : Nat) (fault : SaveFault) : Decidable (OutsideGap crash fault) := by
  cases fault <;> unfold OutsideGap <;> infer_instance

/-- A save that has come to its end leaves the new file, if it throws nothing. -/
theorem path_replaceFile (d : Disk) (file : List UInt8) (fault : SaveFault) (crash : Nat) :
    (d.after ((replaceFile file fault).steps.take crash)).path =
      if OutsideGap crash fault then
        if fault = .noFault ∧ 5 ≤ crash then some file else d.path
      else none := by
  cases fault with
  | noFault =>
      rcases crash with _ | _ | _ | _ | _ | n <;>
        simp [OutsideGap, replaceFile, Disk.after, Disk.apply]
  | openFails => simp [OutsideGap, replaceFile, Disk.after]
  | writeFails written =>
      rcases crash with _ | _ | _ | n <;>
        simp [OutsideGap, replaceFile, Disk.after, Disk.apply]
  | renameFails =>
      rcases crash with _ | _ | _ | _ | _ | _ | n <;>
        simp [OutsideGap, replaceFile, Disk.after, Disk.apply]

/-- A save touches the state file only if the snapshot could be written at all. -/
theorem path_save (d : Disk) (s : Snapshot) (fault : SaveFault) (crash : Nat) :
    (d.after ((save s fault).steps.take crash)).path =
      match serialize s with
      | .error _ => d.path
      | .ok file =>
          if OutsideGap crash fault then
            if fault = .noFault ∧ 5 ≤ crash then some file else d.path
          else none := by
  cases written : serialize s with
  | error thrown => simp [save, written, Disk.after]
  | ok file =>
      have plan : save s fault = replaceFile file fault := by rw [save, written]
      rw [plan]
      exact path_replaceFile d file fault crash

/-- Outside the gap there is the old file or the new one. -/
theorem path_save_outside (d : Disk) (s : Snapshot) {fault : SaveFault} {crash : Nat}
    (outside : (∃ thrown, serialize s = .error thrown) ∨ OutsideGap crash fault) :
    (d.after ((save s fault).steps.take crash)).path = d.path ∨
      ∃ file, serialize s = .ok file ∧
        (d.after ((save s fault).steps.take crash)).path = some file := by
  rw [path_save]
  cases written : serialize s with
  | error thrown => exact Or.inl rfl
  | ok file =>
      rw [written] at outside
      simp only [reduceCtorEq, exists_false, false_or] at outside
      simp only [if_pos outside]
      split_ifs
      · exact Or.inr ⟨file, rfl, rfl⟩
      · exact Or.inl rfl

/--
At every point of a save the state file holds the old or the new content exactly
if the save is outside the gap; in the gap there is no state file, and a load
takes the coordinator for a fresh one.  So a save that throws keeps the old
content unless it was the rename that failed.
-/
theorem save_atomic_iff (old : List UInt8) (tmp : Option (List UInt8)) (s : Snapshot)
    (fault : SaveFault) :
    (∀ crash : Nat,
      ((Disk.after ⟨some old, tmp⟩ ((save s fault).steps.take crash)).path = some old ∨
          (∃ file, serialize s = .ok file ∧
            (Disk.after ⟨some old, tmp⟩ ((save s fault).steps.take crash)).path =
              some file) ↔
        (∃ thrown, serialize s = .error thrown) ∨ OutsideGap crash fault) ∧
      (¬ ((∃ thrown, serialize s = .error thrown) ∨ OutsideGap crash fault) →
        ∀ base : LiveState,
          load (Disk.after ⟨some old, tmp⟩ ((save s fault).steps.take crash)).path base =
            .ok false base)) ∧
      ((save s fault).thrown.isSome = true →
        ((Disk.after ⟨some old, tmp⟩ (save s fault).steps).path = some old ↔
          (∃ thrown, serialize s = .error thrown) ∨ fault ≠ .renameFails)) := by
  refine ⟨fun crash => ?_, fun throws => ?_⟩
  · rw [path_save]
    cases written : serialize s with
    | error thrown => simp
    | ok file =>
        by_cases outside : OutsideGap crash fault
        · refine ⟨?_, fun gap => (gap (Or.inr outside)).elim⟩
          simp only [if_pos outside]
          split_ifs <;> simp [outside]
        · simp [outside, load]
  · have whole := path_save ⟨some old, tmp⟩ s fault (save s fault).steps.length
    rw [List.take_length] at whole
    rw [whole]
    cases written : serialize s with
    | error thrown => simp
    | ok file =>
        have plan : save s fault = replaceFile file fault := by rw [save, written]
        rw [plan] at throws ⊢
        cases fault with
        | noFault => cases throws
        | openFails => simp [OutsideGap]
        | writeFails => simp [OutsideGap]
        | renameFails => simp [OutsideGap, replaceFile]

theorem save_atomic_iff_sample :
    load (Disk.after ⟨some [1], none⟩ ((save {} .noFault).steps.take 4)).path {} =
      .ok false {} := by
  refine ((save_atomic_iff [1] none {} .noFault).1 4).2 ?_ {}
  have written : (serialize {}).toBool = true := by decide
  rintro (⟨thrown, failed⟩ | outside)
  · simp [failed, Except.toBool] at written
  · exact absurd outside (by decide)

/-- The gap is reached when both contents are those of a coordinator. -/
theorem save_atomic_gap :
    ∃ old new, serialize {} = .ok old ∧ serialize { epoch := ⟨2⟩ } = .ok new ∧
      (Disk.after ⟨some old, none⟩ ((save { epoch := ⟨2⟩ } .noFault).steps.take 4)).path =
        none ∧
      (Disk.after ⟨some old, none⟩ (save { epoch := ⟨2⟩ } .renameFails).steps).path = none := by
  have saved : (serialize {}).toBool = true ∧ (serialize { epoch := ⟨2⟩ }).toBool = true := by
    decide
  cases first : serialize {} with
  | error thrown => simp [first, Except.toBool] at saved
  | ok old =>
      cases second : serialize { epoch := ⟨2⟩ } with
      | error thrown => simp [second, Except.toBool] at saved
      | ok new =>
          refine ⟨old, new, rfl, rfl, ?_, ?_⟩
          · simp [save, second, replaceFile, Disk.after, Disk.apply]
          · simp [save, second, replaceFile, Disk.after, Disk.apply]

end DPUFabric.Persistence
