import DPUFabric.Incarnations

/-!
# A recovery that fails halfway

The parser fills the live state while it reads, so a payload that turns out
malformed has been written over the state up to the byte where it fails, and the
fencing that follows the last byte has not been done.  Only a payload that is too
short for its first field changes nothing.
-/

namespace DPUFabric

open Std
open ParallelRun
open Persistence
open DPUFabric.Wire

/-! ## The first field -/

theorem u32_apply (ahead : List UInt8) :
    u32 ahead =
      if ahead.length < 4 then .error (.error .protocolError "truncated message") ahead
      else .ok (UInt32.ofNat (littleEndian (ahead.take 4))) (ahead.drop 4) := by
  by_cases short : ahead.length < 4
  · have refused : take 4 ahead = .error (.error .protocolError "truncated message") ahead := by
      rw [take, if_pos (by omega)]
    rw [if_pos short]
    exact Exceptions.bind_of_error refused
  · have taken : take 4 ahead = .ok (ahead.take 4) (ahead.drop 4) := by
      rw [take, if_neg (by omega)]
    rw [if_neg short]
    exact Exceptions.bind_of_ok taken

/-- Eight bytes are needed for a 64-bit number. -/
theorem u64_of_short {ahead : List UInt8} (short : ahead.length < 8) :
    ∃ fault rest, u64 ahead = .error fault rest := by
  by_cases first : ahead.length < 4
  · have word : u32 ahead = .error (.error .protocolError "truncated message") ahead := by
      rw [u32_apply, if_pos first]
    exact ⟨_, ahead, Exceptions.bind_of_error word⟩
  · have word : u32 ahead =
        .ok (UInt32.ofNat (littleEndian (ahead.take 4))) (ahead.drop 4) := by
      rw [u32_apply, if_neg first]
    have second : (ahead.drop 4).length < 4 := by
      rw [List.length_drop]
      omega
    have refused : u32 (ahead.drop 4) =
        .error (.error .protocolError "truncated message") (ahead.drop 4) := by
      rw [u32_apply, if_pos second]
    exact ⟨_, _, (Exceptions.bind_of_ok word).trans (Exceptions.bind_of_error refused)⟩

/-- They are enough. -/
theorem u64_of_long {ahead : List UInt8} (long : 8 ≤ ahead.length) :
    ∃ value rest, u64 ahead = .ok value rest := by
  have word : u32 ahead =
      .ok (UInt32.ofNat (littleEndian (ahead.take 4))) (ahead.drop 4) := by
    rw [u32_apply, if_neg (by omega)]
  have second : ¬ (ahead.drop 4).length < 4 := by
    rw [List.length_drop]
    omega
  have next : u32 (ahead.drop 4) =
      .ok (UInt32.ofNat (littleEndian ((ahead.drop 4).take 4))) ((ahead.drop 4).drop 4) := by
    rw [u32_apply, if_neg second]
  exact ⟨_, _, (Exceptions.bind_of_ok word).trans (Exceptions.bind_of_ok next)⟩

/-! ## The epoch is written once -/

/-- A part of the parser keeps the epoch of the live state, however it ends. -/
def KeepsEpoch {α : Type} (load : LoadM α) : Prop :=
  ∀ epoch : CoordinatorEpoch,
    Parallel (fun left right => left = right ∧ left.out.epoch = epoch) load

theorem keepsEpoch_pure {α : Type} (value : α) : KeepsEpoch (pure value : LoadM α) :=
  fun _ => parallel_pure value

theorem keepsEpoch_bind {α β : Type} {first : LoadM α} {next : α → LoadM β}
    (head : KeepsEpoch first) (tail : ∀ value, KeepsEpoch (next value)) :
    KeepsEpoch (first >>= next) :=
  fun epoch => parallel_bind (head epoch) fun value => tail value epoch

theorem keepsEpoch_reading {α : Type} (read : ReaderM α) : KeepsEpoch (reading read) := by
  rintro epoch ⟨ahead, out⟩ right ⟨rfl, same⟩
  simp only [reading]
  cases read ahead
  · exact .ok ⟨rfl, same⟩
  · exact .error ⟨rfl, same⟩

theorem keepsEpoch_fill {change : LiveState → LiveState}
    (keeps : ∀ out, (change out).epoch = out.epoch) : KeepsEpoch (fill change) := by
  refine fun epoch => parallel_modify fun left right states => ?_
  rcases states with ⟨rfl, same⟩
  exact ⟨rfl, (keeps left.out).trans same⟩

theorem keepsEpoch_times {body : LoadM Unit} (once : KeepsEpoch body) (n : Nat) :
    KeepsEpoch (times body n) := by
  induction n with
  | zero => exact keepsEpoch_pure ()
  | succ n ih => exact keepsEpoch_bind once fun _ => ih

theorem keepsEpoch_loadDevices : KeepsEpoch loadDevices := by
  unfold loadDevices
  refine keepsEpoch_bind (keepsEpoch_reading _) fun ndev => keepsEpoch_times ?_ ndev
  exact keepsEpoch_bind (keepsEpoch_reading _) fun d => keepsEpoch_fill fun _ => rfl

theorem keepsEpoch_loadServices : KeepsEpoch loadServices := by
  unfold loadServices
  refine keepsEpoch_bind (keepsEpoch_reading _) fun nsvc => keepsEpoch_times ?_ nsvc
  exact keepsEpoch_bind (keepsEpoch_reading _) fun svc => keepsEpoch_fill fun _ => rfl

theorem keepsEpoch_loadPrograms : KeepsEpoch loadPrograms := by
  unfold loadPrograms
  refine keepsEpoch_bind (keepsEpoch_reading _) fun nprog => keepsEpoch_times ?_ nprog
  refine keepsEpoch_bind (keepsEpoch_reading _) fun pid => ?_
  refine keepsEpoch_bind (keepsEpoch_reading _) fun ng => keepsEpoch_times ?_ ng
  refine keepsEpoch_bind (keepsEpoch_reading _) fun g => ?_
  refine keepsEpoch_bind (keepsEpoch_reading _) fun art => ?_
  refine keepsEpoch_bind (keepsEpoch_reading _) fun cur => ?_
  refine keepsEpoch_bind (keepsEpoch_fill fun _ => rfl) fun _ => ?_
  cases cur
  · exact keepsEpoch_pure ()
  · rw [if_pos rfl]
    exact keepsEpoch_fill fun _ => rfl

theorem keepsEpoch_loadDeployments : KeepsEpoch loadDeployments := by
  unfold loadDeployments
  refine keepsEpoch_bind (keepsEpoch_reading _) fun ndep => keepsEpoch_times ?_ ndep
  exact keepsEpoch_bind (keepsEpoch_reading _) fun d => keepsEpoch_fill fun _ => rfl

theorem keepsEpoch_loadUsage : KeepsEpoch loadUsage := by
  unfold loadUsage
  refine keepsEpoch_bind (keepsEpoch_reading _) fun nusage => keepsEpoch_times ?_ nusage
  refine keepsEpoch_bind (keepsEpoch_reading _) fun did => ?_
  exact keepsEpoch_bind (keepsEpoch_reading _) fun u => keepsEpoch_fill fun _ => rfl

/-- The payload starts with the epoch; what follows leaves it alone. -/
theorem loadSections_epoch :
    ∃ rest : LoadM Unit, KeepsEpoch rest ∧
      loadSections = reading u64 >>= fun persistedEpoch =>
        fill (fun out => { out with epoch := ⟨max persistedEpoch 1⟩ }) >>= fun _ => rest := by
  refine ⟨?rest, ?keeps, ?same⟩
  case same =>
    simp only [loadSections, loadPolicy, bind_assoc]
    rfl
  case keeps =>
    -- Ten fields of the policy follow, then the weights and the other sections.
    iterate 10
      refine keepsEpoch_bind (keepsEpoch_reading _) fun value => ?_
      refine keepsEpoch_bind (keepsEpoch_fill fun _ => rfl) fun _ => ?_
    refine keepsEpoch_bind (keepsEpoch_reading _) fun nweights => ?_
    refine keepsEpoch_bind (keepsEpoch_times ?_ nweights) fun _ => ?_
    · refine keepsEpoch_bind (keepsEpoch_reading _) fun factor => ?_
      refine keepsEpoch_bind (keepsEpoch_reading _) fun weight => ?_
      exact keepsEpoch_fill fun _ => rfl
    · refine keepsEpoch_bind keepsEpoch_loadDevices fun _ => ?_
      refine keepsEpoch_bind keepsEpoch_loadServices fun _ => ?_
      refine keepsEpoch_bind keepsEpoch_loadPrograms fun _ => ?_
      refine keepsEpoch_bind keepsEpoch_loadDeployments fun _ => ?_
      exact keepsEpoch_bind keepsEpoch_loadUsage fun _ => keepsEpoch_reading _

/-- A payload without an epoch is refused before anything is written. -/
theorem loadSections_of_short {payload : List UInt8} (short : payload.length < 8)
    (out : LiveState) :
    ∃ fault ahead, loadSections ⟨payload, out⟩ = .error fault ⟨ahead, out⟩ := by
  rcases loadSections_epoch with ⟨rest, -, same⟩
  rcases u64_of_short short with ⟨fault, ahead, refused⟩
  have first : reading u64 ⟨payload, out⟩ = .error fault ⟨ahead, out⟩ := by
    simp only [reading, refused]
  rw [same]
  exact ⟨fault, ahead, Exceptions.bind_of_error first⟩

/-- Otherwise the epoch of the payload is in the live state, however the parser ends. -/
theorem loadSections_of_long {payload : List UInt8} {epoch : UInt64} {ahead : List UInt8}
    (found : u64 payload = .ok epoch ahead) (out : LiveState) :
    Agree (fun left right => left = right ∧ left.out.epoch = ⟨max epoch 1⟩)
      (loadSections ⟨payload, out⟩) (loadSections ⟨payload, out⟩) := by
  rcases loadSections_epoch with ⟨rest, keeps, same⟩
  have first : reading u64 ⟨payload, out⟩ = .ok epoch ⟨ahead, out⟩ := by
    simp only [reading, found]
  have next : loadSections ⟨payload, out⟩ =
      rest ⟨ahead, { out with epoch := ⟨max epoch 1⟩ }⟩ := by
    rw [same]
    exact Exceptions.bind_of_ok first
  rw [next]
  exact keeps ⟨max epoch 1⟩ ⟨ahead, { out with epoch := ⟨max epoch 1⟩ }⟩
    ⟨ahead, { out with epoch := ⟨max epoch 1⟩ }⟩ ⟨rfl, rfl⟩

/-! ## What a failed recovery leaves -/

/-- The epoch an intact file starts with, if its payload is long enough for one. -/
def persistedEpoch (file : Option (List UInt8)) : Option UInt64 :=
  match file with
  | none => none
  | some buf =>
      match openContainer buf with
      | .error _ => none
      | .ok payload =>
          match u64 payload with
          | .ok epoch _ => some epoch
          | .error _ _ => none

/-- A recovery that throws leaves the published snapshot alone. -/
theorem Engine.recoverFrom_error {file : Option (List UInt8)} {e e' : Engine} {fault : Fault}
    (failed : Engine.recoverFrom file e = .error fault e') :
    ∃ out, load file e.state = .error fault out ∧ e' = { e with state := out } := by
  unfold Engine.recoverFrom at failed
  cases loaded : load file e.state with
  | ok existed out =>
      rw [loaded] at failed
      cases failed
  | error fault' out =>
      rw [loaded] at failed
      cases failed
      exact ⟨out, rfl, rfl⟩

/-- It throws what the load throws. -/
theorem Engine.recoverFrom_of_error {file : Option (List UInt8)} {e : Engine} {fault : Fault}
    {out : LiveState} (failed : load file e.state = .error fault out) :
    Engine.recoverFrom file e = .error fault { e with state := out } := by
  simp only [Engine.recoverFrom, failed]

/-- What a load that throws has written. -/
theorem load_error_cases {file : Option (List UInt8)} {s out : LiveState} {fault : Fault}
    (failed : load file s = .error fault out) :
    out = s ∧ (isMalformed file = false ∨ persistedEpoch file = none) ∨
      ∃ epoch, isMalformed file = true ∧ persistedEpoch file = some epoch ∧
        out.epoch = ⟨max epoch 1⟩ := by
  cases file with
  | none => cases failed
  | some buf =>
      cases opened : openContainer buf with
      | error refusal =>
          simp only [load, opened] at failed
          cases failed
          exact Or.inl ⟨rfl, Or.inl (by simp [isMalformed, opened])⟩
      | ok payload =>
          simp only [load, opened, loadPayload_apply] at failed
          by_cases short : payload.length < 8
          · rcases loadSections_of_short short s with ⟨fault', ahead, refused⟩
            rcases u64_of_short short with ⟨fault'', rest, truncated⟩
            rw [refused] at failed
            cases failed
            exact Or.inl ⟨rfl, Or.inr (by simp [persistedEpoch, opened, truncated])⟩
          · rcases u64_of_long (by omega : 8 ≤ payload.length) with ⟨epoch, ahead, found⟩
            have sections : Parallel (Alongside (Overlay s)) loadSections :=
              parallel_loadSections fun writes _ _ => overlay_write writes
            have both := sections ⟨payload, {}⟩ ⟨payload, s⟩ ⟨rfl, Overlay.refl s⟩
            cases mine : loadSections ⟨payload, s⟩ with
            | ok value reached =>
                rw [mine] at failed
                cases failed
            | error fault' reached =>
                have written := loadSections_of_long found s
                rw [mine] at failed both written
                cases failed
                have epochWritten : reached.out.epoch = ⟨max epoch 1⟩ := by
                  cases written with
                  | error states => exact states.2
                refine Or.inr ⟨epoch, ?_, by simp [persistedEpoch, opened, found],
                  epochWritten⟩
                cases own : loadSections ⟨payload, {}⟩ with
                | ok value left =>
                    rw [own] at both
                    cases both
                | error fault'' left => simp [isMalformed, opened, own]

/-- A malformed payload is refused by every engine. -/
theorem Engine.recoverFrom_malformed {file : Option (List UInt8)}
    (malformed : isMalformed file = true) (e : Engine) :
    ∃ fault e', Engine.recoverFrom file e = .error fault e' := by
  cases load_cases file e.state with
  | missing absent result =>
      rw [absent] at malformed
      cases malformed
  | rejected empty wellFormed result =>
      rw [wellFormed] at malformed
      cases malformed
  | malformed isMalformed overlay result =>
      rename_i fault out
      exact ⟨fault, { e with state := out }, Engine.recoverFrom_of_error result⟩
  | accepted wellFormed overlay result =>
      rw [wellFormed] at malformed
      cases malformed

/--
A recovery that throws leaves every engine as it was exactly if the file is
refused for its container, or its payload is too short for the epoch.  From any
other malformed file, the epoch and whatever else was read stay in the live
state.
-/
theorem recoverFrom_thrown_unchanged_iff (file : Option (List UInt8)) :
    ((∀ (e e' : Engine) (fault : Fault), Engine.recoverFrom file e = .error fault e' →
        e'.state = e.state ∧ e'.snap = e.snap) ↔
      isMalformed file = false ∨ persistedEpoch file = none) ∧
      ∀ epoch, isMalformed file = true → persistedEpoch file = some epoch →
        ∀ (e e' : Engine) (fault : Fault), Engine.recoverFrom file e = .error fault e' →
          e'.state.epoch = ⟨max epoch 1⟩ := by
  have written : ∀ epoch, isMalformed file = true → persistedEpoch file = some epoch →
      ∀ (e e' : Engine) (fault : Fault), Engine.recoverFrom file e = .error fault e' →
        e'.state.epoch = ⟨max epoch 1⟩ := by
    intro epoch malformed persisted e e' fault failed
    rcases Engine.recoverFrom_error failed with ⟨out, refused, rfl⟩
    rcases load_error_cases refused with ⟨-, wellFormed | missing⟩ | ⟨epoch', -, found, reached⟩
    · rw [wellFormed] at malformed
      cases malformed
    · rw [missing] at persisted
      cases persisted
    · rw [persisted] at found
      cases found
      exact reached
  refine ⟨⟨fun unchanged => ?_, fun early e e' fault failed => ?_⟩, written⟩
  · by_contra late
    rw [not_or, Bool.not_eq_false, ← ne_eq, Option.ne_none_iff_exists'] at late
    rcases late with ⟨malformed, epoch, persisted⟩
    -- No file holds the null epoch, so an engine built with it is changed.
    rcases Engine.recoverFrom_malformed malformed (Engine.fresh .null {}) with
      ⟨fault, e', failed⟩
    have reached := written epoch malformed persisted _ _ _ failed
    rw [(unchanged _ _ _ failed).1] at reached
    have zero : (0 : UInt64).toNat = (max epoch 1).toNat :=
      congrArg (UInt64.toNat ∘ Id.value) reached
    rw [toNat_max_one] at zero
    have positive : 1 ≤ max epoch.toNat 1 := le_max_right _ _
    rw [← zero] at positive
    exact absurd positive (by decide)
  · rcases Engine.recoverFrom_error failed with ⟨out, refused, rfl⟩
    rcases load_error_cases refused with ⟨same, -⟩ | ⟨epoch, malformed, persisted, -⟩
    · exact ⟨same, rfl⟩
    · rcases early with wellFormed | missing
      · rw [wellFormed] at malformed
        cases malformed
      · rw [missing] at persisted
        cases persisted

/-! ## The epoch that is saved -/

/-- The payload starts with the epoch; what follows is appended to it. -/
theorem writeSections_epoch (s : Snapshot) :
    ∃ rest : WriterM Unit, Codec.Appending rest ∧
      writeSections s = writeId s.epoch >>= fun _ => rest := by
  refine ⟨?rest, ?appends, ?same⟩
  case same =>
    simp only [writeSections, writePolicy, bind_assoc]
    rfl
  case appends =>
    refine (codes_id _).appending.bind ?_
    refine (codes_u64 _).appending.bind ?_
    iterate 5 refine (codes_flag _).appending.bind ?_
    refine (codes_u64 _).appending.bind ?_
    refine (codes_u64 _).appending.bind ?_
    refine (codes_enum _).appending.bind ?_
    refine (builds_counted s.policy.weights 64 "" builds_weight fun _ => by decide).appending.bind
      ?_
    have devices : Codec.Appending (writeDevices s) := by
      rw [writeDevices_eq]
      exact (codes_u32 _).appending.bind
        (builds_times fun d _ => builds_device d).appending
    refine devices.bind ?_
    refine (builds_services s).appending.bind ?_
    refine (builds_programs s).appending.bind ?_
    exact (builds_deployments s).appending.bind (builds_usages s).appending

/-- A saved file holds the epoch of its snapshot, unless it is too large to be opened. -/
theorem persistedEpoch_of_saved {s : Snapshot} {file : List UInt8}
    (saved : serialize s = .ok file) {persisted : UInt64}
    (found : persistedEpoch (some file) = some persisted) : persisted = s.epoch.value := by
  rcases writeSections_epoch s with ⟨rest, appending, same⟩
  rcases codes_u64 s.epoch.value with ⟨code, -, writes, reads⟩
  have first : writeId s.epoch [] = .ok () code := writes.appends trivial []
  unfold serialize at saved
  cases written : writeSections s [] with
  | error fault buffer =>
      rw [written] at saved
      cases saved
  | ok value payload =>
      rw [written] at saved
      cases saved
      rw [same, Exceptions.bind_of_ok first] at written
      rcases appending.ok written with ⟨tail, rfl⟩
      have read : u64 (code ++ tail) = .ok s.epoch.value tail :=
        (reads trivial (by decide)).accepts trivial tail ()
      simp only [persistedEpoch, openContainer_container] at found
      split_ifs at found
      · simp only [read, Option.some.injEq] at found
        exact found.symm

/-! ## An example -/

/-- One byte too many: everything is read into the live state and nothing is fenced. -/
theorem Persistence.load_trailing {s : Snapshot} {payload : List UInt8}
    (read : Payload s payload) (storable : s.SectionsStorable)
    (fileSize : kFixedHead + (s.encodedSize + 1) + kTrailerFixed ≤ kMaxFileBytes)
    (extra : UInt8) (base : LiveState) :
    load (some (container (payload ++ [extra]))) base =
      .error (.error .protocolError "trailing bytes after message")
        (s.restoreSections base) := by
  have length : (payload ++ [extra]).length = s.encodedSize + 1 := by
    rw [List.length_append, read.length]
    rfl
  have opened : openContainer (container (payload ++ [extra])) = .ok (payload ++ [extra]) := by
    rw [openContainer_container, length, if_pos fileSize]
  have small : s.encodedSize < 2 ^ 32 := encodedSize_small (by omega)
  have sections := loadSections_append read storable small [extra] base
  rw [if_neg (by simp)] at sections
  simp [load, opened, loadPayload_apply, sections]

/-- After the recovery was refused, the next call publishes what the file held. -/
theorem recoverFrom_thrown_publishes :
    ∃ file fault e',
      Engine.recoverFrom (some file) Engine.sampleEngine = .error fault e' ∧
      e'.state.devices ≠ Engine.sampleEngine.state.devices ∧
      ((e'.step .advanceEpoch).snap.devices[(⟨1⟩ : DeviceId)]?.map fun d =>
          (d.evidenceFresh, d.lifecycle)) = some (true, .declared .ready) ∧
      ((e'.step .advanceEpoch).snap.deployments[(⟨1⟩ : DeploymentId)]?.map fun dep =>
          (dep.state, dep.authoritative)) = some (.active, true) := by
  have plain : ∀ op ∈ Engine.sampleRun, Engine.recovers op = false := by
    decide
  have consistent := Engine.consistent_run ⟨1⟩ (Policy.defaults ⟨1⟩) plain
  rcases (serialize_ok_iff consistent.devicesCounted).mpr (by decide) with ⟨file, saved⟩
  rcases payload_of_serialize consistent.devicesCounted saved with ⟨payload, -, read⟩
  have refused := load_trailing read (by decide) (by decide) 0 Engine.sampleEngine.state
  refine ⟨_, _, _, Engine.recoverFrom_of_error refused, ?_, ?_, ?_⟩
  · intro same
    have found := congrArg (fun table => (table[(⟨1⟩ : DeviceId)]?).isSome) same
    revert found
    decide
  · decide
  · decide

end DPUFabric
