import DPUFabric.Incarnations
import DPUFabric.LoopDeployments

/-!
# A coordinator with a state file

With `--state`, `main` recovers from the file before its loop, and calls `persist_if`
when it has made a deployment, before it shuts down, and after its loop.  The calls are
noted with the snapshot that they save; what becomes of the file is decided afterwards,
since a save that fails is caught and changes nothing in the process.

A process may be killed at any moment.  Killed within a turn, it leaves some of the
steps of that turn's saves behind; so does one that a write ends, or keeps waiting.
-/

namespace DPUFabric

open Std
open Exceptions
open DPUFabric.Wire
open DPUFabric.Persistence
open DPUFabric.Proto
open DPUFabric.Mp
open DPUFabric.Mpproto

/-! ## Handlers that persist -/

/-- A part of `main`, with the snapshots that `persist_if` has been called for. -/
abbrev SavingM := EStateM Fault (Coordinator × List Snapshot)

namespace Saving

/-- A part of `main` that does not persist. -/
def lift {α : Type} (part : CoordinatorM α) : SavingM α := fun (c, saves) =>
  match part c with
  | .ok value c => .ok value (c, saves)
  | .error fault c => .error fault (c, saves)

/-- `persist_if`. -/
def persistIf : SavingM Unit := fun (c, saves) => .ok () (c, saves ++ [c.engine.snap])

/-- `try { body } catch (const DpuError& e) { handler }`. -/
def catching {α : Type} (body : SavingM α) (handler : DpuError → SavingM α) : SavingM α :=
  fun before =>
    match body before with
    | .ok value after => .ok value after
    | .error (.thrown error) after => handler error after
    | .error .undefinedBehavior after => .error .undefinedBehavior after

open Coordinator (parse reply engineCall deploymentRequest commandWorker closeConn hello workerOf
  handleWorkerMsg)

/-- The commands of `handle_admin_msg`, in its `try` block. -/
def adminCommand (F : Type) [ScoreArith F] (s : Socket) (cmdId : UInt64) (ctype : UInt8)
    (ahead : List UInt8) : SavingM Unit := do
  if ctype = Enumerator.code Cmd.status then
    let (c, _) ← get
    lift (reply s cmdId true c.engine.describe)
  else if ctype = Enumerator.code Cmd.createDeployment then
    let ((sid, oc), _) ← lift (parse readTarget ahead)
    match ← lift (engineCall (Engine.createDeployment F (deploymentRequest sid oc))) with
    | none => lift (reply s cmdId false (text "REJECTED_NO_DEVICE"))
    | some (dep, dev) =>
        lift (reply s cmdId true (text "dep=" ++ dep.encode ++ text " device=" ++ dev.encode))
        lift (commandWorker dev)
        persistIf
  else if ctype = Enumerator.code Cmd.shutdown then
    persistIf
    lift (reply s cmdId true (text "SHUTDOWN_OK"))
    lift (modify fun c => { c with running := false })
  else
    lift (reply s cmdId false (text "UNKNOWN_CMD"))

/-- `handle_admin_msg`. -/
def handleAdminMsg (F : Type) [ScoreArith F] (s : Socket) (f : Frame) : SavingM Unit := do
  let ((cmdId, ctype), ahead) ← lift (parse readCommand f.payload)
  catching (adminCommand F s cmdId ctype ahead) fun error =>
    lift (reply s cmdId false (text error.detail))

/-- What the loop does for one connection once `recv_frame` has returned. -/
def process (F : Type) [ScoreArith F] (s : Socket) (role : Role) : RecvResult → SavingM Unit
  | .timeout => return
  | .closed => lift (closeConn s)
  | .err => lift (closeConn s)
  | .ok f => do
      match role with
      | .unknown =>
          if f.type = .declared .hello then lift (hello s f)
          else
            lift (modify fun c => { c with conns := c.conns.insert s .admin })
            handleAdminMsg F s f
      | .worker => lift do
          let wid ← workerOf s
          handleWorkerMsg f wid
      | .admin => handleAdminMsg F s f

end Saving

/-! ## What a handler persists -/

/-- What a part of `main` has come to, with some snapshots. -/
def tagged {α : Type} (result : EStateM.Result Fault Coordinator α) (saves : List Snapshot) :
    EStateM.Result Fault (Coordinator × List Snapshot) α :=
  match result with
  | .ok value c => .ok value (c, saves)
  | .error fault c => .error fault (c, saves)

/-- The variables of `main` after a part of it, whether it has returned or thrown. -/
def leaves {α : Type} : EStateM.Result Fault Coordinator α → Coordinator
  | .ok _ c => c
  | .error _ c => c

/-- What a part of a turn may do to the engine without a save after it. -/
inductive Unsaved (F : Type) [ScoreArith F] (e : Engine) : Engine → Prop
  | unchanged {e' : Engine} (state : e'.state = e.state) : Unsaved F e e'
  | failed {sid : ServiceId} {oc : RawEnum OffloadClass} {fault : Fault} {e' : Engine}
      (thrown : Engine.createDeployment F (Coordinator.deploymentRequest sid oc) e =
        .error fault e') : Unsaved F e e'
  | rejected {sid : ServiceId} {oc : RawEnum OffloadClass} {e' : Engine}
      (created : Engine.createDeployment F (Coordinator.deploymentRequest sid oc) e =
        .ok none e') : Unsaved F e e'
  | reported {role : Role} {op : Op} (causes : Causes role op) (sweeps : op.sweeps = true) :
      Unsaved F e (e.step op)

namespace Saving

section Steps

variable {α β : Type} {c : Coordinator} {saves : List Snapshot}

theorem lift_apply (part : CoordinatorM α) (c : Coordinator) (saves : List Snapshot) :
    lift part (c, saves) = tagged (part c) saves := by
  cases result : part c <;> simp only [lift, tagged, result]

theorem lift_bind_of_ok {part : CoordinatorM α} {next : α → SavingM β} {value : α}
    {c' : Coordinator} (returned : part c = .ok value c') :
    (lift part >>= next) (c, saves) = next value (c', saves) := by
  apply bind_of_ok
  rw [lift_apply, returned]
  rfl

theorem lift_bind_of_error {part : CoordinatorM α} {next : α → SavingM β} {fault : Fault}
    {c' : Coordinator} (thrown : part c = .error fault c') :
    (lift part >>= next) (c, saves) = .error fault (c', saves) := by
  apply bind_of_error
  rw [lift_apply, thrown]
  rfl

theorem get_bind (next : Coordinator × List Snapshot → SavingM β) :
    (get >>= next) (c, saves) = next (c, saves) (c, saves) :=
  rfl

theorem persistIf_bind (next : Unit → SavingM β) :
    (persistIf >>= next) (c, saves) = next () (c, saves ++ [c.engine.snap]) :=
  rfl

theorem catching_of_ok {body : SavingM α} {handler : DpuError → SavingM α} {value : α}
    {before after : Coordinator × List Snapshot} (returned : body before = .ok value after) :
    catching body handler before = .ok value after := by
  simp only [catching, returned]

end Steps

section Administrators

variable {F : Type} [ScoreArith F] {s : Socket} {cmdId : UInt64} {ahead : List UInt8}
  {c : Coordinator} {saves : List Snapshot}

/-- A reply leaves the engine alone, also one that cannot be written. -/
theorem engine_reply (ok : Bool) (message : Text) (c : Coordinator) :
    (leaves (Coordinator.reply s cmdId ok message c)).engine = c.engine := by
  by_cases short : message.length ≤ kMaxStringBytes
  · rw [Coordinator.reply_of_short short]
    rfl
  · rw [Coordinator.reply_of_long (by omega)]
    rfl

/-- The part that persists is the one that does not, and saves its last snapshot or none. -/
structure Shadows (F : Type) [ScoreArith F] (c : Coordinator) (saves : List Snapshot)
    (result : EStateM.Result Fault (Coordinator × List Snapshot) Unit)
    (plain : EStateM.Result Fault Coordinator Unit) (more : List Snapshot) : Prop where
  same : result = tagged plain (saves ++ more)
  saves : more = [] ∧ Unsaved F c.engine (leaves plain).engine ∨
    ∃ c', plain = .ok () c' ∧ more = [c'.engine.snap]

theorem Shadows.reply (ok : Bool) (message : Text) :
    Shadows F c saves (lift (Coordinator.reply s cmdId ok message) (c, saves))
      (Coordinator.reply s cmdId ok message c) [] := by
  constructor
  · rw [lift_apply, List.append_nil]
  · rw [engine_reply]
    exact Or.inl ⟨rfl, .unchanged rfl⟩

theorem adminCommand_create (ahead : List UInt8) :
    ∃ more, Shadows F c saves
      (adminCommand F s cmdId (Enumerator.code Cmd.createDeployment) ahead (c, saves))
      (Coordinator.adminCommand F s cmdId (Enumerator.code Cmd.createDeployment) ahead c) more := by
  have other : Enumerator.code Cmd.createDeployment ≠ Enumerator.code Cmd.status := by decide
  cases target : readTarget ahead with
  | error fault rest =>
      refine ⟨[], ?_⟩
      have thrown := Coordinator.parse_eq_error (c := c) target
      rw [adminCommand, Coordinator.adminCommand, if_neg other, if_neg other, if_pos rfl, if_pos rfl,
        lift_bind_of_error thrown, bind_of_error thrown]
      constructor
      · rw [List.append_nil]
        rfl
      · exact Or.inl ⟨rfl, .unchanged rfl⟩
  | ok found rest =>
  obtain ⟨sid, oc⟩ := found
  have parsed := Coordinator.parse_eq_ok (c := c) target
  obtain ⟨fails, rejects, deploys⟩ :=
    @Coordinator.adminCommand_create F _ s c cmdId ahead rest sid oc target
  cases created : Engine.createDeployment F (Coordinator.deploymentRequest sid oc) c.engine with
  | error fault e =>
      refine ⟨[], ?_, ?_⟩
      · rw [fails fault e created, adminCommand, if_neg other, if_pos rfl, lift_bind_of_ok parsed]
        dsimp only
        rw [lift_bind_of_error (Coordinator.engineCall_of_error created), List.append_nil]
        rfl
      · rw [fails fault e created]
        exact Or.inl ⟨rfl, .failed created⟩
  | ok result e =>
  have called := Coordinator.engineCall_of_ok (c := c) created
  cases result with
  | none =>
      have short : (text "REJECTED_NO_DEVICE").length ≤ kMaxStringBytes := by decide
      refine ⟨[], ?_, ?_⟩
      · rw [rejects e created, adminCommand, if_neg other, if_pos rfl, lift_bind_of_ok parsed]
        dsimp only
        rw [lift_bind_of_ok called, List.append_nil]
        dsimp only
        rw [lift_apply, Coordinator.reply_of_short short]
      · rw [rejects e created]
        exact Or.inl ⟨rfl, .rejected created⟩
  | some deployed =>
      obtain ⟨dep, dev⟩ := deployed
      refine ⟨[e.snap], ?_, ?_⟩
      · rw [deploys dep dev e created, adminCommand, if_neg other, if_pos rfl,
          lift_bind_of_ok parsed]
        dsimp only
        rw [lift_bind_of_ok called]
        have answered := @Coordinator.reply_of_short s cmdId true _
          (Coordinator.deployedText_short dep dev) { c with engine := e }
        apply (lift_bind_of_ok answered).trans
        apply (lift_bind_of_ok (Coordinator.commandWorker_eq dev _)).trans
        show EStateM.Result.ok () (_, saves ++ [Engine.snap (Coordinator.engine _)]) = _
        rw [Coordinator.engine_commanded]
        rfl
      · refine Or.inr ⟨_, deploys dep dev e created, ?_⟩
        rw [Coordinator.engine_commanded]
        rfl

theorem adminCommand_shadows (ctype : UInt8) :
    ∃ more, Shadows F c saves (adminCommand F s cmdId ctype ahead (c, saves))
      (Coordinator.adminCommand F s cmdId ctype ahead c) more := by
  by_cases status : ctype = Enumerator.code Cmd.status
  · rw [adminCommand, Coordinator.adminCommand, if_pos status, if_pos status, get_bind,
      Coordinator.get_bind]
    exact ⟨[], Shadows.reply true c.engine.describe⟩
  by_cases create : ctype = Enumerator.code Cmd.createDeployment
  · rw [create]
    exact adminCommand_create ahead
  rw [adminCommand, Coordinator.adminCommand, if_neg status, if_neg status, if_neg create,
    if_neg create]
  by_cases shutdown : ctype = Enumerator.code Cmd.shutdown
  · have short : (text "SHUTDOWN_OK").length ≤ kMaxStringBytes := by decide
    have answered := @Coordinator.reply_of_short s cmdId true _ short c
    refine ⟨[c.engine.snap], ?_, ?_⟩
    · rw [if_pos shutdown, if_pos shutdown, persistIf_bind, lift_bind_of_ok answered,
        bind_of_ok answered]
      rfl
    · rw [if_pos shutdown, bind_of_ok answered]
      exact Or.inr ⟨_, rfl, rfl⟩
  · rw [if_neg shutdown, if_neg shutdown]
    exact ⟨[], Shadows.reply false (text "UNKNOWN_CMD")⟩

theorem handleAdminMsg_shadows (f : Frame) :
    ∃ more, Shadows F c saves (handleAdminMsg F s f (c, saves))
      (Coordinator.handleAdminMsg F s f c) more := by
  unfold handleAdminMsg Coordinator.handleAdminMsg
  cases read : readCommand f.payload with
  | error fault rest =>
      have thrown := Coordinator.parse_eq_error (c := c) read
      refine ⟨[], ?_, ?_⟩
      · rw [lift_bind_of_error thrown, bind_of_error thrown, List.append_nil]
        rfl
      · rw [bind_of_error thrown]
        exact Or.inl ⟨rfl, .unchanged rfl⟩
  | ok command ahead =>
  obtain ⟨cmdId, ctype⟩ := command
  have parsed := Coordinator.parse_eq_ok (c := c) read
  rw [lift_bind_of_ok parsed, bind_of_ok parsed]
  dsimp only
  obtain ⟨more, same, saved⟩ :=
    @adminCommand_shadows F _ s cmdId ahead c saves ctype
  refine ⟨more, ?_⟩
  cases result : Coordinator.adminCommand F s cmdId ctype ahead c with
  | ok value c' =>
      rw [result] at same saved
      rw [Coordinator.catching_of_ok result, catching_of_ok same]
      exact ⟨rfl, saved⟩
  | error fault c' =>
      rw [result] at same saved
      cases fault with
      | undefinedBehavior =>
          have plain : Coordinator.catching (Coordinator.adminCommand F s cmdId ctype ahead)
              (fun error => Coordinator.reply s cmdId false (text error.detail)) c =
                .error .undefinedBehavior c' := by
            rw [Coordinator.catching, result]
          rw [plain, catching, same]
          exact ⟨rfl, saved⟩
      | thrown error =>
          rcases saved with ⟨rfl, unsaved⟩ | ⟨_, returned, -⟩
          · rw [Coordinator.catching_of_error result, catching, same]
            dsimp only [tagged]
            rw [lift_apply]
            refine ⟨rfl, Or.inl ⟨rfl, ?_⟩⟩
            rw [engine_reply]
            exact unsaved
          · cases returned

end Administrators

end Saving

/-- What a turn that returns has saved: its last snapshot, or nothing. -/
def TurnSaves (F : Type) [ScoreArith F] (e e' : Engine) (more : List Snapshot) : Prop :=
  more = [] ∧ Unsaved F e e' ∨ more = [e'.snap]

/-- A turn without an administrator's frame makes no deployment. -/
theorem Coordinator.Dispatched.unsaved {F : Type} [ScoreArith F] {s : Socket} {role : Role}
    {result : RecvResult} {c c' : Coordinator} (dispatched : Dispatched F s c role result c')
    (unprivileged : ∀ f, result = .ok f → ¬ (role = .admin ∨ role = .unknown ∧
      f.type ≠ .declared .hello)) : Unsaved F c.engine c'.engine := by
  cases dispatched with
  | idle => exact .unchanged rfl
  | closed lost =>
      unfold withoutConn
      split
      · exact .unchanged rfl
      · exact .reported (@Causes.lost role _) rfl
  | @greeted f wk boot label ahead e greets read registered =>
      show Unsaved F c.engine e
      rw [← Engine.after_of_ok registered]
      exact .reported (Causes.greeting ⟨wk⟩ ⟨boot⟩) rfl
  | @refused f wk boot label ahead fault e greets read thrown =>
      show Unsaved F c.engine e
      rw [← Engine.after_of_error thrown]
      exact .reported (Causes.greeting ⟨wk⟩ ⟨boot⟩) rfl
  | admin privileged outcome => exact absurd privileged (unprivileged _ rfl)
  | worker outcome =>
      have turn := outcome.engineTurn
      generalize c'.engine = e' at turn ⊢
      cases turn with
      | quiet state => exact .unchanged state
      | reported causes sweeps => exact .reported causes sweeps
      | deployed privileged => exact absurd rfl privileged

/-- What a turn that returns, or throws, has saved. -/
structure Turns (F : Type) [ScoreArith F] (c : Coordinator)
    (result : EStateM.Result Fault (Coordinator × List Snapshot) Unit)
    (plain : EStateM.Result Fault Coordinator Unit) (more : List Snapshot) : Prop where
  same : result = tagged plain more
  returned : ∀ c', plain = .ok () c' → TurnSaves F c.engine c'.engine more
  thrown : ∀ fault c', plain = .error fault c' → more = []

theorem Saving.Shadows.turns {F : Type} [ScoreArith F] {c : Coordinator}
    {result : EStateM.Result Fault (Coordinator × List Snapshot) Unit}
    {plain : EStateM.Result Fault Coordinator Unit} {more : List Snapshot}
    (shadows : Shadows F c [] result plain more) : Turns F c result plain more where
  same := shadows.same
  returned := by
    rintro c' rfl
    rcases shadows.saves with quiet | ⟨_, ⟨⟩, saved⟩
    · exact Or.inl quiet
    · exact Or.inr saved
  thrown := by
    rintro fault c' rfl
    rcases shadows.saves with ⟨nothing, -⟩ | ⟨_, ⟨⟩, -⟩
    exact nothing

/-- A turn that persists is the turn that does not, and it saves when it has deployed. -/
theorem Saving.process_turns (F : Type) [ScoreArith F] (s : Socket) (role : Role)
    (result : RecvResult) (c : Coordinator) :
    ∃ more, Turns F c (Saving.process F s role result (c, []))
      (Coordinator.process F s role result c) more := by
  by_cases privileged : ∃ f, result = .ok f ∧
      (role = .admin ∨ role = .unknown ∧ f.type ≠ .declared .hello)
  · obtain ⟨f, rfl, rfl | ⟨rfl, other⟩⟩ := privileged
    · obtain ⟨more, shadows⟩ := handleAdminMsg_shadows (F := F) (s := s) (c := c) f
      exact ⟨more, shadows.turns⟩
    · obtain ⟨more, shadows⟩ := handleAdminMsg_shadows (F := F) (s := s)
        (c := { c with conns := c.conns.insert s .admin }) f
      have turns := shadows.turns
      unfold Saving.process Coordinator.process
      dsimp only
      rw [if_neg other, if_neg other]
      exact ⟨more, turns.same, turns.returned, turns.thrown⟩
  · have lifted : Saving.process F s role result (c, []) =
        lift (Coordinator.process F s role result) (c, []) := by
      cases result with
      | ok f =>
          cases role with
          | admin => exact absurd ⟨f, rfl, Or.inl rfl⟩ privileged
          | worker => rfl
          | unknown =>
              by_cases greets : f.type = .declared .hello
              · unfold Saving.process Coordinator.process
                dsimp only
                rw [if_pos greets, if_pos greets]
              · exact absurd ⟨f, rfl, Or.inr ⟨rfl, greets⟩⟩ privileged
      | _ => rfl
    refine ⟨[], lifted.trans (lift_apply _ c []), ?_, fun _ _ _ => rfl⟩
    intro c' returned
    refine Or.inl ⟨rfl, (Coordinator.process_outcome returned).unsaved ?_⟩
    intro f received admits
    exact privileged ⟨f, received, admits⟩

/-! ## Processes and files -/

/-- The files, and the process that serves, if one does. -/
structure Installation where
  disk : Disk := {}
  main : Option MainLoop := none

namespace Installation

/-- The steps of the saves of a turn. -/
def savesSteps (fault : SaveFault) (saves : List Snapshot) : List FileStep :=
  saves.flatMap fun s => (save s fault).steps

/-- The steps that are taken before a kill, or all of them. -/
def cutAt (cut : Option ℕ) (steps : List FileStep) : List FileStep :=
  steps.take (cut.getD steps.length)

/-- `main` up to its loop; an error of the recovery ends the process. -/
def start (i : Installation) (epoch : CoordinatorEpoch) : Installation where
  disk := i.disk
  main := (Engine.boot i.disk.path epoch (Policy.defaults ⟨1⟩)).map fun e =>
    { coordinator := .boot e, streams := fun _ => ⟨[], .silent⟩ }

def accept (i : Installation) (s : Socket) (peer : Stream) : Installation :=
  { i with main := i.main.map fun l => if l.coordinator.running then l.accept s peer else l }

/--
One connection's turn, in which the process may be killed.  A turn that throws, or waits
for ever, is the end of the process.
-/
def poll (F : Type) [ScoreArith F] (i : Installation) (s : Socket) (arrived : Bool)
    (fault : SaveFault) (cut : Option ℕ) : Installation :=
  match i.main with
  | none => i
  | some l =>
      if !l.admits (.poll s arrived) then { i with main := if cut.isSome then none else some l }
      else
        match l.coordinator.conns[s]? with
        | none => { i with main := if cut.isSome then none else some l }
        | some role =>
            match recvFrame (l.streams s) arrived with
            | .throws _ => { i with main := none }
            | .blocks => { i with main := none }
            | .signalled => { i with main := none }
            | .returns (result, rest) =>
                match Saving.process F s role result (l.coordinator, []) with
                | .error _ (_, saves) =>
                    { disk := i.disk.after (cutAt cut (savesSteps fault saves)), main := none }
                | .ok _ (c, saves) =>
                    let next : MainLoop :=
                      { coordinator := c, streams := Function.update l.streams s rest, visited := s }
                    { disk := i.disk.after (cutAt cut (savesSteps fault saves))
                      main := if cut.isSome then none else some next }

/-- A process that has been told to shut down leaves its loop, and persists. -/
def finish (i : Installation) (fault : SaveFault) (cut : Option ℕ) : Installation :=
  match i.main with
  | none => i
  | some l =>
      if l.coordinator.running then i
      else
        { disk := i.disk.after (cutAt cut (save l.coordinator.engine.snap fault).steps)
          main := none }

inductive Event where
  | start (epoch : CoordinatorEpoch)
  | accept (s : Socket) (peer : Stream)
  | poll (s : Socket) (arrived : Bool) (fault : SaveFault) (cut : Option ℕ)
  | finish (fault : SaveFault) (cut : Option ℕ)
  | crash

def step (F : Type) [ScoreArith F] (i : Installation) : Event → Installation
  | .start epoch => i.start epoch
  | .accept s peer => i.accept s peer
  | .poll s arrived fault cut => i.poll F s arrived fault cut
  | .finish fault cut => i.finish fault cut
  | .crash => { i with main := none }

end Installation

end DPUFabric
