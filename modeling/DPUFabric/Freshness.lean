import DPUFabric.DeviceLifecycle
import DPUFabric.Selection
import DPUFabric.PartialRecovery

/-!
# Withdrawn evidence stays withdrawn

A device whose evidence is stale neither is selected, nor takes a reservation,
nor has a deployment committed on it.  Only a new record of the device makes
its evidence fresh again: no other call does, and a recovery that succeeds
makes every device's evidence stale.
-/

namespace DPUFabric

open Std
open LiveState

/-- The device's evidence is not fresh. -/
def StaleRecord (s : LiveState) (device : DeviceId) : Prop :=
  ∀ dev, s.devices[device]? = some dev → dev.evidenceFresh = false

/-- The device's evidence is fresh neither in the live state nor as published. -/
structure StaleEvidence (e : Engine) (device : DeviceId) : Prop where
  live : StaleRecord e.state device
  published : ∀ dev, e.snap.devices[device]? = some dev → dev.evidenceFresh = false

theorem StaleEvidence.of_current {e : Engine} {device : DeviceId}
    (current : e.snap = makeSnapshot e.state) (live : StaleRecord e.state device) :
    StaleEvidence e device :=
  ⟨live, by rw [current]; exact live⟩

/-! ## The gatekeepers -/

/-- Nothing is reserved or committed on the device. -/
structure Unused (e : Engine) (device : DeviceId) : Prop where
  stale : StaleRecord e.state device
  notReserved : ∀ req,
    Engine.succeeds (Engine.reserveDeployment req (some device)) e = false
  notCommitted : ∀ (id : DeploymentId) (dep : Deployment),
    e.state.deployments[id]? = some dep → dep.device = device →
      Engine.succeeds (Engine.commitDeployment id) e = false

/-- What a device with stale evidence is kept from. -/
structure Barred (F : Type) [ScoreArith F] (e : Engine) (device : DeviceId) : Prop
    extends Unused e device where
  notSelected : ∀ req result, e.evaluate F req = .ok result →
    result.selected ≠ some device

theorem Engine.succeeds_discard {α : Type} (call : EngineM α) (e : Engine) :
    Engine.succeeds (discard call) e = Engine.succeeds call e := by
  rw [Engine.succeeds, Engine.discard_apply, Engine.succeeds]
  cases call e <;> rfl

theorem not_ready_of_stale {table : ExtTreeMap DeviceId DeviceRecord} {device : DeviceId}
    {dev : DeviceRecord}
    (stale : ∀ rec : DeviceRecord, table[device]? = some rec → rec.evidenceFresh = false)
    (present : table[device]? = some dev) :
    dev.isReadyForOffload ≠ true := by
  intro ready
  rw [DeviceRecord.isReadyForOffload_eq_true_iff, stale dev present] at ready
  exact Bool.noConfusion ready.2

theorem StaleRecord.unused {e : Engine} {device : DeviceId}
    (stale : StaleRecord e.state device) : Unused e device := by
  refine ⟨stale, ?_, ?_⟩
  · intro req
    by_contra reserved
    have returned : Engine.succeeds
        (Engine.exec (.reserveDeployment req (some device))) e = true := by
      rw [Engine.exec, Engine.succeeds_discard]
      simpa using reserved
    obtain ⟨s, seq, accepted, -⟩ :=
      Engine.accepted_of_succeeds e (by rfl) (by rfl) returned
    cases accepted with
    | reserveDeployment present ready => exact not_ready_of_stale stale present ready
    | moveDeployment moves => cases moves
    | endDeployment ends => cases ends
  · rintro id dep present rfl
    by_contra committed
    have returned : Engine.succeeds (Engine.exec (.commitDeployment id)) e = true := by
      simpa [Engine.exec] using committed
    obtain ⟨s, seq, accepted, -⟩ :=
      Engine.accepted_of_succeeds e (by rfl) (by rfl) returned
    obtain ⟨-, -, dev, located, ready⟩ := accepted.of_commitDeployment present
    exact not_ready_of_stale stale located ready

theorem StaleEvidence.barred (F : Type) [ScoreArith F] {e : Engine} {device : DeviceId}
    (stale : StaleEvidence e device) : Barred F e device where
  toUnused := stale.live.unused
  notSelected req result evaluated chosen := by
    obtain ⟨dev, present, ready⟩ := selected_isReady evaluated chosen
    exact not_ready_of_stale stale.published present ready

/-! ## The calls that withdraw evidence -/

/-- The calls after which the evidence of a device is stale. -/
inductive Withdraws (s : LiveState) (device : DeviceId) : Op → Prop
  | fenceDevice (reason : Text) : Withdraws s device (.fenceDevice device reason)
  | retireDevice : Withdraws s device (.retireDevice device)
  | transitionDevice {target : DeviceLifecycle} (fencing : isFencingTarget target = true) :
      Withdraws s device (.transitionDevice device target)
  | markWorkerLost {dev : DeviceRecord} (present : s.devices[device]? = some dev)
      (serves : dev.lifecycle ≠ .declared .retired) :
      Withdraws s device (.markWorkerLost dev.owningWorker)
  | applyRecovery {dev : DeviceRecord} (p : RecoveryPolicy)
      (present : s.devices[device]? = some dev)
      (serves : dev.lifecycle ≠ .declared .retired) :
      Withdraws s device (.applyRecovery p)

theorem fencedRecord_evidenceFresh (reason : Text) (dev : DeviceRecord) :
    (fencedRecord reason dev).evidenceFresh = false := by
  simp only [fencedRecord]
  split_ifs <;> rfl

theorem recoveredRecord_evidenceFresh (p : RecoveryPolicy) (dev : DeviceRecord)
    (serves : dev.lifecycle ≠ .declared .retired) :
    (recoveredRecord p dev).evidenceFresh = false := by
  simp only [recoveredRecord, serves, if_false]
  split_ifs <;> rfl

/-- Such a call, when it returns, leaves the device's evidence stale. -/
theorem Withdraws.stale {e : Engine} {device : DeviceId} {op : Op}
    (withdraws : Withdraws e.state device op)
    (returned : Engine.succeeds (Engine.exec op) e = true) :
    StaleEvidence (e.step op) device := by
  have plain : op.isPlain = true := by cases withdraws <;> rfl
  have writes : Engine.mayIdle op = false := by cases withdraws <;> rfl
  obtain ⟨s, seq, accepted, result⟩ := Engine.accepted_of_succeeds e plain writes returned
  refine .of_current (by rw [result]) fun dev' present' => ?_
  rw [result] at present'
  cases present : e.state.devices[device]? with
  | none =>
      rcases accepted.device_of_absent present with gone | ⟨rec, registers, -, -⟩
      · rw [gone] at present'
        cases present'
      · cases withdraws <;> cases registers
  | some dev =>
      rw [accepted.device_of_present present] at present'
      cases present'
      cases withdraws with
      | fenceDevice reason => simp [Op.rewritten, fencedRecord_evidenceFresh]
      | retireDevice => simp [Op.rewritten]
      | transitionDevice fencing => simp [Op.rewritten, fencing]
      | markWorkerLost found serves =>
          rw [present] at found
          cases found
          simp [Op.rewritten, orphaned, serves]
      | applyRecovery p found serves =>
          rw [present] at found
          cases found
          exact recoveredRecord_evidenceFresh p dev serves

theorem fenceRecoveredDevice_evidenceFresh (dev : DeviceRecord) :
    (Persistence.fenceRecoveredDevice dev).evidenceFresh = false := by
  simp only [Persistence.fenceRecoveredDevice]
  split_ifs <;> rfl

/-- A load that succeeds leaves no fresh evidence at all. -/
theorem stale_of_recovered {e : Engine} {out : LiveState} {file : Option (List UInt8)}
    (result : e.step (.recoverFrom file) =
      { e with
        state := (Persistence.fenceRecovered out).rebuildLedgers
        snap := makeSnapshot (Persistence.fenceRecovered out).rebuildLedgers })
    (device : DeviceId) :
    StaleEvidence (e.step (.recoverFrom file)) device := by
  refine .of_current (by rw [result]) fun dev' present' => ?_
  rw [result, rebuildLedgers_eq] at present'
  simp only [Persistence.fenceRecovered, ExtTreeMap.getElem?_map] at present'
  obtain ⟨dev, -, rfl⟩ := Option.map_eq_some_iff.mp present'
  exact fenceRecoveredDevice_evidenceFresh dev

/-! ## Runs without new evidence -/

/-- Whether a call offers a new record of the device. -/
def Op.offersRecord (device : DeviceId) : Op → Bool
  | .registerDevice rec => rec.deviceId == device
  | .updateDevice rec => rec.deviceId == device
  | .runAllBackends discovered => discovered.flatten.any (·.deviceId == device)
  | _ => false

/-- A step that offers no record of the device and is no recovery that throws. -/
def WithoutEvidence (device : DeviceId) (e : Engine) (op : Op) : Prop :=
  op.offersRecord device = false ∧
    (Engine.recovers op = true → Engine.succeeds (Engine.exec op) e = true)

/-- No other call makes stale evidence fresh. -/
theorem Op.rewritten_stale {op : Op} {device : DeviceId} {dev : DeviceRecord}
    (noRecord : op.offersRecord device = false) (stale : dev.evidenceFresh = false) :
    (op.rewritten device dev).evidenceFresh = false := by
  cases op with
  | updateDevice rec =>
      have elsewhere : rec.deviceId ≠ device := by simpa [Op.offersRecord] using noRecord
      simpa [Op.rewritten, elsewhere] using stale
  | retireDevice target =>
      simp only [Op.rewritten]
      split_ifs
      · rfl
      · exact stale
  | transitionDevice target lifecycle =>
      simp only [Op.rewritten]
      split_ifs
      · simp [stale]
      · exact stale
  | setDeviceState target state cap =>
      simp only [Op.rewritten]
      split_ifs <;> exact stale
  | fenceDevice target reason =>
      simp only [Op.rewritten]
      split_ifs
      · exact fencedRecord_evidenceFresh reason dev
      · exact stale
  | markWorkerLost worker =>
      simp only [Op.rewritten, orphaned]
      split_ifs
      · rfl
      · exact stale
  | applyRecovery p =>
      by_cases serves : dev.lifecycle = .declared .retired
      · simpa [Op.rewritten, recoveredRecord, serves] using stale
      · exact recoveredRecord_evidenceFresh p dev serves
  | _ => exact stale

theorem StaleRecord.plain_step {e : Engine} {device : DeviceId} {op : Op}
    (plain : op.isPlain = true) (noRecord : op.offersRecord device = false)
    (stale : StaleRecord e.state device) :
    StaleRecord (e.step op).state device := by
  rcases Engine.step_cases e plain with ⟨s, seq, accepted, result⟩ | ⟨-, quiet⟩
  · intro dev' present'
    rw [result] at present'
    cases present : e.state.devices[device]? with
    | none =>
        rcases accepted.device_of_absent present with gone | ⟨rec, rfl, here, -⟩
        · rw [gone] at present'
          cases present'
        · simp [Op.offersRecord, here] at noRecord
    | some dev =>
        rw [accepted.device_of_present present] at present'
        cases present'
        exact Op.rewritten_stale noRecord (stale dev present)
  · rw [quiet.state]
    exact stale

theorem StaleRecord.step {e : Engine} {device : DeviceId} {op : Op}
    (without : WithoutEvidence device e op) (stale : StaleRecord e.state device) :
    StaleRecord (e.step op).state device := by
  cases op with
  | recoverFrom file =>
      cases recoverFrom_cases file e with
      | missing absent result =>
          rw [result]
          exact stale
      | rejected empty wellFormed result =>
          rw [result]
          exact stale
      | malformed malformed overlay thrown result =>
          rw [without.2 rfl] at thrown
          cases thrown
      | accepted wellFormed overlay result => exact (stale_of_recovered result device).live
  | runAllBackends discovered =>
      rw [Engine.step_runAllBackends]
      have elsewhere : ∀ rec ∈ discovered.flatten, rec.deviceId ≠ device := by
        have none := without.1
        rw [Op.offersRecord, List.any_eq_false] at none
        exact fun rec member => by simpa using none rec member
      refine TransitionRun.run_invariant (fun e : Engine => StaleRecord e.state device) ?_ stale
        (TransitionRun.every_of_forall_mem _ elsewhere)
      intro e rec differs stale
      refine stale.plain_step (Engine.importCall_isPlain e rec) ?_
      unfold Engine.importCall
      split <;> simpa [Op.offersRecord] using differs
  | _ => exact stale.plain_step rfl without.1

theorem StaleRecord.run {e : Engine} {device : DeviceId} {ops : List Op}
    (every : TransitionRun.Every Engine.step (WithoutEvidence device) e ops)
    (stale : StaleRecord e.state device) :
    StaleRecord (e.run ops).state device :=
  TransitionRun.run_invariant (fun e : Engine => StaleRecord e.state device)
    (fun _ _ without stale => stale.step without) stale every

/-- A step publishes the state it leaves, or nothing. -/
theorem Engine.step_publishes (e : Engine) (op : Op) :
    (e.step op).snap = e.snap ∨ (e.step op).snap = makeSnapshot (e.step op).state := by
  have plainCase : ∀ {e : Engine} {op : Op}, op.isPlain = true →
      Quiet e (e.step op) ∨ (e.step op).snap = makeSnapshot (e.step op).state := by
    intro e op plain
    rcases Engine.step_cases e plain with ⟨s, seq, accepted, result⟩ | ⟨-, quiet⟩
    · exact Or.inr (by rw [result])
    · exact Or.inl quiet
  cases op with
  | recoverFrom file =>
      cases recoverFrom_cases file e with
      | missing absent result => exact Or.inr (by rw [result])
      | rejected empty wellFormed result => exact Or.inl (by rw [result])
      | malformed malformed overlay thrown result => exact Or.inl (by rw [result])
      | accepted wellFormed overlay result => exact Or.inr (by rw [result])
  | runAllBackends discovered =>
      rw [Engine.step_runAllBackends]
      refine TransitionRun.run_invariant_of_step
        (fun reached : Engine => reached.snap = e.snap ∨
          reached.snap = makeSnapshot reached.state) ?_ (Or.inl rfl) _
      intro reached rec published
      rcases plainCase (Engine.importCall_isPlain reached rec) with quiet | fresh
      · rw [Engine.importStep, quiet.snap, quiet.state]
        exact published
      · exact Or.inr fresh
  | _ => exact (plainCase rfl).imp_left Quiet.snap

theorem StaleEvidence.run {e : Engine} {device : DeviceId} {ops : List Op}
    (every : TransitionRun.Every Engine.step (WithoutEvidence device) e ops)
    (stale : StaleEvidence e device) :
    StaleEvidence (e.run ops) device := by
  refine TransitionRun.run_invariant (fun e => StaleEvidence e device) ?_ stale every
  intro e op without stale
  have live := stale.live.step without
  rcases e.step_publishes op with same | current
  · exact ⟨live, by rw [same]; exact stale.published⟩
  · exact .of_current current live

/-- The published snapshot is current as long as no recovery throws. -/
theorem snap_run (epoch : CoordinatorEpoch) (policy : Policy) {ops : List Op}
    (every : TransitionRun.Every Engine.step
      (fun e op => Engine.recovers op = true →
        Engine.succeeds (Engine.exec op) e = true) (Engine.fresh epoch policy) ops) :
    (Engine.run (Engine.fresh epoch policy) ops).snap =
      makeSnapshot (Engine.run (Engine.fresh epoch policy) ops).state := by
  refine TransitionRun.run_invariant (fun e : Engine => e.snap = makeSnapshot e.state)
    ?_ rfl every
  intro e op returns current
  cases ordinary : Engine.recovers op with
  | false => exact Engine.step_snap e ordinary current
  | true =>
      cases op <;> try cases ordinary
      rename_i file
      cases recoverFrom_cases file e with
      | missing absent result => rw [result]
      | rejected empty wellFormed result =>
          rw [result]
          exact current
      | malformed malformed overlay thrown result =>
          rw [returns rfl] at thrown
          cases thrown
      | accepted wellFormed overlay result => rw [result]

/-- No recovery throws along the run. -/
def RecoveriesReturn (e : Engine) (ops : List Op) : Prop :=
  TransitionRun.Every Engine.step
    (fun e op => Engine.recovers op = true → Engine.succeeds (Engine.exec op) e = true) e ops

/--
Withdrawn evidence stays withdrawn.  The withdrawing calls and every recovery
that finds a file leave it stale.  From any state with stale evidence, along
every run that offers no new record of the device and in which no recovery
throws, nothing is reserved or committed on the device, and no evaluation
selects it if the published record was stale too.  It was, unless an earlier
recovery gave up halfway through a file.
-/
theorem withdrawnEvidence_stays (F : Type) [ScoreArith F] (device : DeviceId) :
    (∀ (e : Engine) (op : Op), Withdraws e.state device op →
        Engine.succeeds (Engine.exec op) e = true → StaleEvidence (e.step op) device) ∧
      (∀ (e e' : Engine) (file : Option (List UInt8)),
        Engine.recoverFrom file e = .ok true e' → StaleEvidence e' device) ∧
      (∀ (e : Engine) (ops : List Op), StaleRecord e.state device →
        TransitionRun.Every Engine.step (WithoutEvidence device) e ops →
          Unused (e.run ops) device) ∧
      (∀ (e : Engine) (ops : List Op), StaleEvidence e device →
        TransitionRun.Every Engine.step (WithoutEvidence device) e ops →
          Barred F (e.run ops) device) ∧
      ∀ (epoch : CoordinatorEpoch) (policy : Policy) (before after : List Op),
        (∀ op ∈ before, Engine.loadsWhole op = true) →
          StaleRecord (Engine.run (Engine.fresh epoch policy) before).state device →
          TransitionRun.Every Engine.step (WithoutEvidence device)
            (Engine.run (Engine.fresh epoch policy) before) after →
            Barred F (Engine.run (Engine.fresh epoch policy) (before ++ after)) device := by
  refine ⟨fun e op withdraws returned => withdraws.stale returned, ?_,
    fun e ops stale every => (stale.run every).unused,
    fun e ops stale every => (stale.run every).barred F, ?_⟩
  · intro e e' file recovered
    have result : e.step (.recoverFrom file) = e' := by
      simp [Engine.step, Engine.after, Engine.exec, recovered]
    cases Persistence.load_cases file e.state with
    | accepted wellFormed overlay loaded =>
        rw [← result]
        exact stale_of_recovered
          (by simpa using Engine.step_recoverFrom_of_ok loaded) device
    | missing absent loaded => simp [Engine.recoverFrom, loaded] at recovered
    | rejected empty wellFormed loaded => simp [Engine.recoverFrom, loaded] at recovered
    | malformed malformed overlay loaded => simp [Engine.recoverFrom, loaded] at recovered
  · intro epoch policy before after whole stale every
    have current := Engine.published_run epoch policy whole
    rw [Engine.run_append]
    exact ((StaleEvidence.of_current current stale).run every).barred F

/-- A fenced device that is declared ready again and outlives another epoch stays barred. -/
theorem withdrawnEvidence_stays_fenced :
    Barred ℚ (Engine.sampleEngine.run
      ([.registerDevice Engine.sampleDevice, .recoverFrom none, .fenceDevice ⟨1⟩ []] ++
        [.transitionDevice ⟨1⟩ .ready, .advanceEpoch])) ⟨1⟩ := by
  have fenced : (Engine.sampleEngine.run [.registerDevice Engine.sampleDevice,
      .recoverFrom none, .fenceDevice ⟨1⟩ []]).state.devices[(⟨1⟩ : DeviceId)]?.map
        (·.evidenceFresh) = some false := by
    decide
  refine (withdrawnEvidence_stays ℚ ⟨1⟩).2.2.2.2 ⟨1⟩ (Policy.defaults ⟨1⟩) _ _ (by decide)
    ?_ ?_
  · intro dev present
    change (Engine.sampleEngine.run [.registerDevice Engine.sampleDevice, .recoverFrom none,
      .fenceDevice ⟨1⟩ []]).state.devices[(⟨1⟩ : DeviceId)]? = some dev at present
    rw [present] at fenced
    exact Option.some.inj fenced
  · simp [TransitionRun.Every, WithoutEvidence, Op.offersRecord, Engine.recovers]

/-- A device that an evaluation may select. -/
def healthyDevice : DeviceRecord := { Engine.sampleDevice with health := .declared .healthy }

theorem healthyDevice_passes :
    Passes ℚ (Engine.sampleEngine.run [.registerDevice healthyDevice]).snap {} ⟨1⟩
      healthyDevice where
  listed := List.mem_cons_self
  registered := rfl
  clean := by decide +kernel

/--
After a recovery that threw, the live state holds the fenced record of the file
and the published snapshot the fresh one: evaluation selects the device.
-/
theorem withdrawnEvidence_selected :
    ∃ (file : List UInt8) (e : Engine),
      e = Engine.sampleEngine.run
        [.registerDevice healthyDevice, .recoverFrom (some file)] ∧
      e.state.devices[(⟨1⟩ : DeviceId)]?.map (·.evidenceFresh) = some false ∧
      ∃ result, e.evaluate ℚ {} = .ok result ∧ result.selected = some ⟨1⟩ := by
  have consistent : (Engine.sampleEngine.run
      [.registerDevice healthyDevice, .fenceDevice ⟨1⟩ []]).snap.Consistent :=
    @Engine.consistent_run ⟨1⟩ (Policy.defaults ⟨1⟩)
      [.registerDevice healthyDevice, .fenceDevice ⟨1⟩ []] (by decide)
  rcases (Persistence.serialize_ok_iff consistent.devicesCounted).mpr (by decide) with ⟨file, saved⟩
  rcases Persistence.payload_of_serialize consistent.devicesCounted saved with ⟨payload, -, read⟩
  have refused := Persistence.load_trailing read (by decide) (by decide) 0
    (Engine.sampleEngine.run [.registerDevice healthyDevice]).state
  have reached := (Engine.run_append Engine.sampleEngine [.registerDevice healthyDevice]
    [.recoverFrom (some (Persistence.container (payload ++ [0])))]).trans
      (Engine.step_recoverFrom_of_error refused)
  rw [List.singleton_append] at reached
  refine ⟨Persistence.container (payload ++ [0]), _, rfl, ?_, ?_⟩
  · rw [reached]
    decide
  · rw [reached]
    exact ⟨_, evaluateOffload_only rfl ⟨by decide, by decide⟩ healthyDevice_passes, rfl⟩

end DPUFabric
