import DPUFabric.Recovery

/-!
# What readers see

A call checks before it writes, and publishes after its last write.  So a call
that throws leaves the live state and the published snapshot as they were, and
after a call that returns the snapshot is the one of the new live state.

Two calls may return without publishing, since they then have written nothing.
They rely on the snapshot being current already, which a whole run provides.
-/

namespace DPUFabric

open Std

/--
`import_backend`.  The list of backends is no part of the live state, and only
the test of the pointer is left of the call.
-/
def Engine.importBackend (isNull : Bool) : EngineM Unit :=
  EngineM.throwIf isNull (.error .invalidArgument "null backend")

/-- Readers see the live state. -/
def Published (e : Engine) : Prop :=
  e.snap = makeSnapshot e.state

/-- A call that throws changes nothing readers see; one that returns is published. -/
structure AllOrNothing (call : EngineM Unit) (e : Engine) : Prop where
  thrown : ∀ (fault : Fault) (e' : Engine), call e = .error fault e' →
    e'.state = e.state ∧ e'.snap = e.snap
  returned : ∀ e' : Engine, call e = .ok () e' → Published e'

namespace Engine

/-- No call writes before its last check, whatever the state. -/
theorem quiet_of_error {e e' : Engine} {op : Op} {fault : Fault} (plain : op.isPlain = true)
    (failed : exec op e = .error fault e') : Quiet e e' := by
  cases outcome e plain with
  | accepted accepted result =>
      rw [result] at failed
      cases failed
  | thrown refused result quiet =>
      rw [result] at failed
      cases failed
      exact quiet
  | idle idles refused result =>
      rw [result] at failed
      cases failed

/-- A call that writes publishes, whatever was published before. -/
theorem published_of_ok {e e' : Engine} {op : Op} (plain : op.isPlain = true)
    (returned : exec op e = .ok () e') (current : mayIdle op = true → Published e) :
    Published e' := by
  cases outcome e plain with
  | accepted accepted result =>
      rw [result] at returned
      cases returned
      rfl
  | thrown refused result quiet =>
      rw [result] at returned
      cases returned
  | idle idles refused result =>
      rw [result] at returned
      cases returned
      exact current idles

theorem allOrNothing {e : Engine} {op : Op} (plain : op.isPlain = true)
    (current : mayIdle op = true → Published e) : AllOrNothing (exec op) e where
  thrown := by
    intro fault e' failed
    have quiet := quiet_of_error plain failed
    exact ⟨quiet.state, quiet.snap⟩
  returned := fun e' returned => published_of_ok plain returned current

theorem importBackend_allOrNothing {e : Engine} (isNull : Bool) (current : Published e) :
    AllOrNothing (importBackend isNull) e := by
  cases isNull with
  | true =>
      constructor
      · rintro fault e' ⟨⟩
        exact ⟨rfl, rfl⟩
      · rintro e' ⟨⟩
  | false =>
      constructor
      · rintro fault e' ⟨⟩
      · rintro e' ⟨⟩
        exact current

/-! ## Runs -/

/-- A recovery finds no payload that its parser gives up on halfway. -/
def loadsWhole : Op → Bool
  | .recoverFrom file => !Persistence.isMalformed file
  | _ => true

theorem published_step {e : Engine} {op : Op} (whole : loadsWhole op = true)
    (current : Published e) : Published (e.step op) := by
  cases ordinary : recovers op with
  | false => exact step_snap e ordinary current
  | true =>
      cases op <;> try cases ordinary
      rename_i file
      cases recoverFrom_cases file e with
      | missing absent result => rw [result]; rfl
      | rejected empty wellFormed result =>
          rw [result]
          exact current
      | malformed malformed overlay thrown result =>
          rw [loadsWhole, malformed] at whole
          cases whole
      | accepted wellFormed overlay result => rw [result]; rfl

theorem published_run (epoch : CoordinatorEpoch) (policy : Policy) {ops : List Op}
    (whole : ∀ op ∈ ops, loadsWhole op = true) :
    Published (Engine.run (Engine.fresh epoch policy) ops) :=
  TransitionRun.run_invariant (P := fun _ op => loadsWhole op = true) Published
    (fun _ _ whole current => published_step whole current) rfl
    (TransitionRun.every_of_forall_mem _ whole)

end Engine

/--
A call that throws leaves the live state and the snapshot of any engine alone.
In every state that is reached without a recovery failing halfway, a call that
returns has published the state it leaves, and readers see the live state.
-/
theorem calls_allOrNothing (epoch : CoordinatorEpoch) (policy : Policy) (ops : List Op)
    (whole : ∀ op ∈ ops, Engine.loadsWhole op = true) :
    (∀ (e e' : Engine) (op : Op) (fault : Fault), op.isPlain = true →
        Engine.exec op e = .error fault e' → e'.state = e.state ∧ e'.snap = e.snap) ∧
      (∀ op : Op, op.isPlain = true →
        AllOrNothing (Engine.exec op) (Engine.run (Engine.fresh epoch policy) ops)) ∧
      (∀ isNull : Bool,
        AllOrNothing (Engine.importBackend isNull)
          (Engine.run (Engine.fresh epoch policy) ops)) ∧
      Published (Engine.run (Engine.fresh epoch policy) ops) := by
  have current := Engine.published_run epoch policy whole
  refine ⟨?_, ?_, ?_, current⟩
  · intro e e' op fault plain failed
    have quiet := Engine.quiet_of_error plain failed
    exact ⟨quiet.state, quiet.snap⟩
  · exact fun op plain => Engine.allOrNothing plain fun _ => current
  · exact fun isNull => Engine.importBackend_allOrNothing isNull current

/-- A run in which a reservation is refused after its identities were drawn. -/
theorem calls_allOrNothing_sample :
    Published (Engine.run (Engine.fresh ⟨1⟩ (Policy.defaults ⟨1⟩))
      (Engine.sampleRun ++ ([.registerWorker ⟨7⟩ ⟨9⟩, .registerWorker ⟨7⟩ ⟨9⟩,
        .commitDeployment ⟨1⟩, .recoverFrom none] : List Op))) :=
  (calls_allOrNothing _ _ _ (by decide)).2.2.2

end DPUFabric
