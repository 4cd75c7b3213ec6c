import DPUFabric.LoopDeployments
import DPUFabric.WorkerBoots

/-!
# The connections of the coordinator

`main` keeps three tables about its connections, and the engine keeps a table of the
workers.  `Wired` says how they agree.  As long as the operating system hands out no
descriptor that is still in use, they do in every state of the loop, so each frame that
the loop sends goes to a live connection of the right kind, and a connection acts on
the part of the state that its role owns.
-/

namespace DPUFabric

open Std
open LiveState
open TransitionRun (Reaches)
open DPUFabric.Proto
open DPUFabric.Mp
open DPUFabric.Mpproto

/-! ## Lookups -/

section Tables

variable {κ α : Type} {cmp : κ → κ → Ordering} [TransCmp cmp] [LawfulEqCmp cmp] [DecidableEq κ]

theorem lookup_erase (table : ExtTreeMap κ α cmp) (key probe : κ) :
    (table.erase key)[probe]? = if key = probe then none else table[probe]? := by
  rw [ExtTreeMap.getElem?_erase]
  by_cases same : key = probe
  · subst same
    simp
  · rw [if_neg same, if_neg]
    intro equal
    exact same (LawfulEqCmp.eq_of_compare equal)

end Tables

/-! ## What a deployment leaves alone -/

/-- Everything but the deployments, the activations, the accounts and the identity counter. -/
structure SameInventory (s s' : LiveState) : Prop where
  epoch : s'.epoch = s.epoch
  policy : s'.policy = s.policy
  devices : s'.devices = s.devices
  deviceOrder : s'.deviceOrder = s.deviceOrder
  services : s'.services = s.services
  programs : s'.programs = s.programs
  currentProgramGen : s'.currentProgramGen = s.currentProgramGen
  workers : s'.workers = s.workers
  workerSeq : s'.workerSeq = s.workerSeq

theorem SameInventory.refl (s : LiveState) : SameInventory s s :=
  ⟨rfl, rfl, rfl, rfl, rfl, rfl, rfl, rfl, rfl⟩

theorem SameInventory.trans {first second third : LiveState}
    (begun : SameInventory first second) (ended : SameInventory second third) :
    SameInventory first third :=
  ⟨ended.epoch.trans begun.epoch, ended.policy.trans begun.policy,
    ended.devices.trans begun.devices, ended.deviceOrder.trans begun.deviceOrder,
    ended.services.trans begun.services, ended.programs.trans begun.programs,
    ended.currentProgramGen.trans begun.currentProgramGen, ended.workers.trans begun.workers,
    ended.workerSeq.trans begun.workerSeq⟩

theorem Deploys.ends {op : Op} (deploys : Deploys op) : op.ends = none := by
  cases deploys <;> rfl

theorem Deploys.isPlain {op : Op} (deploys : Deploys op) : op.isPlain = true := by
  cases deploys <;> rfl

theorem Accepted.sameInventory {s s' : LiveState} {seq seq' : Nat} {op : Op}
    (accepted : Accepted s seq op s' seq') (deploys : Deploys op) : SameInventory s s' := by
  cases accepted with
  | reserveDeployment => exact ⟨rfl, rfl, rfl, rfl, rfl, rfl, rfl, rfl, rfl⟩
  | moveDeployment => exact ⟨rfl, rfl, rfl, rfl, rfl, rfl, rfl, rfl, rfl⟩
  | activateDeployment => exact ⟨rfl, rfl, rfl, rfl, rfl, rfl, rfl, rfl, rfl⟩
  | commitDeployment => exact ⟨rfl, rfl, rfl, rfl, rfl, rfl, rfl, rfl, rfl⟩
  | endDeployment ends => rw [deploys.ends] at ends; cases ends
  | _ => cases deploys

/-- The pipeline reads the inventory only. -/
theorem sameInventory_of_reaches {e e' : Engine} (reaches : Reaches Engine.step Deploys e e') :
    SameInventory e.state e'.state := by
  refine reaches.invariant (fun middle => SameInventory e.state middle.state) ?_ (.refl _)
  intro middle op deploys same
  rcases Engine.step_cases middle deploys.isPlain with ⟨s, seq, accepted, result⟩ | ⟨-, quiet⟩
  · rw [result]
    exact same.trans (accepted.sameInventory deploys)
  · rw [quiet.state]
    exact same

/-! ## The table of workers -/

theorem markWorkerLost_workers (s : LiveState) (worker other : WorkerId) :
    (s.markWorkerLost worker).workers[other]? =
      if worker = other then none else s.workers[other]? := by
  cases known : s.workers[worker]? with
  | none =>
      simp only [LiveState.markWorkerLost, known]
      split_ifs with same
      · rw [← same, known]
      · rfl
  | some boot =>
      simp only [LiveState.markWorkerLost, known, fenceDeployments_eq]
      exact lookup_erase _ _ _

theorem step_markWorkerLost_workers (e : Engine) (worker other : WorkerId) :
    (e.step (.markWorkerLost worker)).state.workers[other]? =
      if worker = other then none else e.state.workers[other]? := by
  have plain : Op.isPlain (.markWorkerLost worker) = true := rfl
  rcases Engine.step_cases e plain with ⟨s, seq, accepted, result⟩ | ⟨refused, -⟩
  · rw [result]
    cases accepted with
    | markWorkerLost => exact markWorkerLost_workers _ _ _
    | moveDeployment moves => cases moves
    | endDeployment ends => cases ends
  · exact absurd .markWorkerLost (refused _ _)

/-- A worker whose registration returns is in the table, and the others stay as they were. -/
theorem registerWorker_workers {e e' : Engine} {worker : WorkerId} {boot : WorkerBootId}
    (registered : Engine.registerWorker worker boot e = .ok () e') (other : WorkerId) :
    e'.state.workers[other]?.isSome =
      (decide (worker = other) || e.state.workers[other]?.isSome) := by
  cases Engine.registerWorker_outcome worker boot with
  | thrown _ result => cases registered.symm.trans result
  | accepted accepted result =>
      cases registered.symm.trans result
      cases accepted with
      | registerWorker =>
          show (e.state.workers.insert worker boot)[other]?.isSome = _
          rw [OrderedMap.lookup_insert]
          split_ifs with same <;> simp [same]
      | moveDeployment moves => cases moves
      | endDeployment ends => cases ends
  | idle _ refused result =>
      cases registered.symm.trans result
      by_cases same : worker = other
      · subst same
        have succeeds : Engine.succeeds (Engine.exec (.registerWorker worker boot)) e = true := by
          rw [Engine.succeeds, result]
        obtain ⟨named, booted, -⟩ := (Engine.registerWorker_succeeds_iff e worker boot).mp succeeds
        cases known : e.state.workers[worker]? with
        | some boot => simp
        | none => exact absurd (.registerWorker named booted known) (refused _ _)
      · simp [same]

theorem registerWorker_refused {e e' : Engine} {worker : WorkerId} {boot : WorkerBootId}
    {fault : Fault} (thrown : Engine.registerWorker worker boot e = .error fault e') :
    e'.state = e.state := by
  cases Engine.registerWorker_outcome worker boot with
  | thrown _ result quiet => cases thrown.symm.trans result; exact quiet.state
  | accepted _ result => cases thrown.symm.trans result
  | idle _ _ result => cases thrown.symm.trans result

/-- A device record is written without a look at the workers. -/
theorem step_device_workers {e : Engine} {op : Op} (plain : op.isPlain = true)
    (writes : ∀ s seq, Accepted e.state e.idSeq op s seq → s.workers = e.state.workers) :
    (e.step op).state.workers = e.state.workers := by
  rcases Engine.step_cases e plain with ⟨s, seq, accepted, result⟩ | ⟨-, quiet⟩
  · rw [result]
    exact writes s seq accepted
  · rw [quiet.state]

theorem step_registerDevice_workers (e : Engine) (rec : DeviceRecord) :
    (e.step (.registerDevice rec)).state.workers = e.state.workers := by
  refine step_device_workers rfl fun s seq accepted => ?_
  rw [accepted.of_registerDevice.2.2]
  rfl

theorem step_updateDevice_workers (e : Engine) (rec : DeviceRecord) :
    (e.step (.updateDevice rec)).state.workers = e.state.workers := by
  refine step_device_workers rfl fun s seq accepted => ?_
  cases accepted with
  | updateDevice => rfl
  | moveDeployment moves => cases moves
  | endDeployment ends => cases ends

/-! ## The tables of `main` -/

namespace Coordinator

/-- How the tables of connections agree with each other and with the engine's workers. -/
structure Wired (c : Coordinator) : Prop where
  /-- The connections of workers are those with a worker identity. -/
  roles : ∀ s : Socket, c.connWorker[s]?.isSome = true ↔ c.conns[s]? = some .worker
  /-- A worker's socket is one of its connections. -/
  sockets : ∀ (wk : UInt64) (s : Socket),
    c.sockByWorker[wk]? = some s → c.connWorker[s]? = some wk
  /-- The engine knows the workers that have a socket. -/
  workers : ∀ wk : UInt64, c.sockByWorker[wk]?.isSome =
    c.engine.state.workers[(⟨wk⟩ : WorkerId)]?.isSome

variable {F : Type} [ScoreArith F] {s : Socket} {c c' : Coordinator}

/-- A step that writes neither the tables nor the engine's workers. -/
theorem Wired.of_same (wired : Wired c) (conns : c'.conns = c.conns)
    (connWorker : c'.connWorker = c.connWorker) (sockByWorker : c'.sockByWorker = c.sockByWorker)
    (workers : c'.engine.state.workers = c.engine.state.workers) : Wired c' where
  roles := by rw [conns, connWorker]; exact wired.roles
  sockets := by rw [sockByWorker, connWorker]; exact wired.sockets
  workers := by rw [sockByWorker, workers]; exact wired.workers

theorem commanded_tables (c : Coordinator) (dev : DeviceId) :
    (c.commanded dev).conns = c.conns ∧ (c.commanded dev).connWorker = c.connWorker ∧
      (c.commanded dev).sockByWorker = c.sockByWorker := by
  unfold commanded
  split
  · exact ⟨rfl, rfl, rfl⟩
  · split <;> exact ⟨rfl, rfl, rfl⟩

theorem AdminOutcome.tables {payload : List UInt8} (outcome : AdminOutcome F s payload c c') :
    c'.conns = c.conns ∧ c'.connWorker = c.connWorker ∧ c'.sockByWorker = c.sockByWorker := by
  cases outcome with
  | deployed => exact commanded_tables _ _
  | _ => exact ⟨rfl, rfl, rfl⟩

theorem WorkerOutcome.tables {wid : WorkerId} {f : Frame} (outcome : WorkerOutcome wid f c c') :
    c'.conns = c.conns ∧ c'.connWorker = c.connWorker ∧ c'.sockByWorker = c.sockByWorker := by
  cases outcome <;> exact ⟨rfl, rfl, rfl⟩

theorem WorkerOutcome.workers {wid : WorkerId} {f : Frame} (outcome : WorkerOutcome wid f c c') :
    c'.engine.state.workers = c.engine.state.workers := by
  cases outcome with
  | @device dev =>
      show (Engine.after (registerOrUpdate c (ownedBy c wid dev)) c.engine).state.workers = _
      unfold registerOrUpdate
      split_ifs
      · rw [← Engine.after_discard]
        exact step_updateDevice_workers _ _
      · rw [← Engine.after_discard]
        exact step_registerDevice_workers _ _
  | evidence =>
      show (Engine.after (Engine.updateDevice _) c.engine).state.workers = _
      rw [← Engine.after_discard]
      exact step_updateDevice_workers _ _
  | _ => rfl

/-- On a connection of a worker, the lookup of the worker files nothing. -/
theorem Wired.worker_filed (wired : Wired c) (registered : c.conns[s]? = some .worker) :
    ∃ wk, c.connWorker[s]? = some wk ∧ c.connWorker.insertIfNew s 0 = c.connWorker := by
  obtain ⟨wk, filed⟩ := Option.isSome_iff_exists.mp ((wired.roles s).mpr registered)
  exact ⟨wk, filed, OrderedMap.insertIfNew_of_present filed 0⟩

theorem Wired.asAdmin (wired : Wired c) {role : Role} (registered : c.conns[s]? = some role)
    (privileged : role ≠ .worker) : Wired (c.asAdmin s role) := by
  cases role with
  | unknown =>
      refine ⟨fun other => ?_, wired.sockets, wired.workers⟩
      show c.connWorker[other]?.isSome = true ↔ (c.conns.insert s .admin)[other]? = _
      rw [OrderedMap.lookup_insert, wired.roles]
      split_ifs with same
      · rw [← same, registered]
        simp
      · exact Iff.rfl
  | worker => exact absurd rfl privileged
  | admin => exact wired

theorem Wired.withoutConn (wired : Wired c) (s : Socket) : Wired (c.withoutConn s) := by
  have roles : ∀ other : Socket, (c.connWorker.erase s)[other]?.isSome = true ↔
      (c.conns.erase s)[other]? = some .worker := by
    intro other
    rw [lookup_erase, lookup_erase]
    split_ifs with same
    · simp
    · exact wired.roles other
  unfold Coordinator.withoutConn
  cases known : c.connWorker[s]? with
  | none =>
      refine ⟨roles, fun wk other socket => ?_, wired.workers⟩
      have filed := wired.sockets wk other socket
      show (c.connWorker.erase s)[other]? = _
      rw [lookup_erase, if_neg]
      · exact filed
      · rintro rfl
        rw [known] at filed
        cases filed
  | some worker =>
      refine ⟨roles, fun wk other socket => ?_, fun wk => ?_⟩
      · have elsewhere : worker ≠ wk ∧ c.sockByWorker[wk]? = some other := by
          change (c.sockByWorker.erase worker)[wk]? = some other at socket
          rw [lookup_erase] at socket
          split_ifs at socket with same
          exact ⟨same, socket⟩
        have filed := wired.sockets wk other elsewhere.2
        show (c.connWorker.erase s)[other]? = _
        rw [lookup_erase, if_neg]
        · exact filed
        · rintro rfl
          rw [known] at filed
          exact elsewhere.1 (Option.some.inj filed)
      · show (c.sockByWorker.erase worker)[wk]?.isSome =
          (c.engine.step (.markWorkerLost ⟨worker⟩)).state.workers[(⟨wk⟩ : WorkerId)]?.isSome
        rw [lookup_erase, step_markWorkerLost_workers]
        by_cases same : worker = wk
        · subst same
          simp
        · rw [if_neg same, if_neg (by simpa using same)]
          exact wired.workers wk

theorem Wired.greeted (wired : Wired c) (registered : c.conns[s]? = some .unknown) {wk : UInt64}
    {boot : WorkerBootId} {e : Engine}
    (accepted : Engine.registerWorker ⟨wk⟩ boot c.engine = .ok () e) :
    Wired (c.greeted s wk e) := by
  have unfiled : c.connWorker[s]? = none := by
    cases filed : c.connWorker[s]? with
    | none => rfl
    | some worker =>
        have role := (wired.roles s).mp (by rw [filed]; rfl)
        rw [registered] at role
        cases role
  refine ⟨fun other => ?_, fun worker other socket => ?_, fun worker => ?_⟩
  · show (c.connWorker.insert s wk)[other]?.isSome = true ↔ (c.conns.insert s .worker)[other]? = _
    rw [OrderedMap.lookup_insert, OrderedMap.lookup_insert]
    split_ifs with same
    · simp
    · exact wired.roles other
  · change (c.sockByWorker.insert wk s)[worker]? = some other at socket
    show (c.connWorker.insert s wk)[other]? = some worker
    rw [OrderedMap.lookup_insert] at socket ⊢
    split_ifs at socket with same
    · subst same
      rw [if_pos (Option.some.inj socket)]
    · have filed := wired.sockets worker other socket
      rw [if_neg]
      · exact filed
      · rintro rfl
        rw [unfiled] at filed
        cases filed
  · show (c.sockByWorker.insert wk s)[worker]?.isSome = e.state.workers[(⟨worker⟩ : WorkerId)]?.isSome
    rw [registerWorker_workers accepted, OrderedMap.lookup_insert, ← wired.workers]
    split_ifs with same <;> simp [same]

/-- A turn of a registered connection keeps the tables in agreement. -/
theorem Dispatched.wired {role : Role} {result : RecvResult}
    (dispatched : Dispatched F s c role result c') (wired : Wired c)
    (registered : c.conns[s]? = some role) : Wired c' := by
  cases dispatched with
  | idle => exact wired
  | closed lost => exact wired.withoutConn s
  | greeted greets read accepted => exact wired.greeted registered accepted
  | refused greets read thrown =>
      rename_i f wk boot label ahead fault e
      refine ⟨fun other => ?_, wired.sockets, fun worker => ?_⟩
      · show c.connWorker[other]?.isSome = true ↔ (c.conns.erase s)[other]? = _
        rw [lookup_erase, wired.roles]
        split_ifs with same
        · rw [← same, registered]
          simp
        · exact Iff.rfl
      · show _ = e.state.workers[(⟨worker⟩ : WorkerId)]?.isSome
        rw [registerWorker_refused thrown]
        exact wired.workers worker
  | admin privileged outcome =>
      have notWorker : role ≠ .worker := by
        rintro rfl
        simp at privileged
      obtain ⟨conns, connWorker, sockByWorker⟩ := outcome.tables
      exact (wired.asAdmin registered notWorker).of_same conns connWorker sockByWorker
        (sameInventory_of_reaches outcome.reaches).workers
  | worker outcome =>
      obtain ⟨wk, -, filed⟩ := wired.worker_filed registered
      obtain ⟨conns, connWorker, sockByWorker⟩ := outcome.tables
      exact wired.of_same conns (connWorker.trans filed) sockByWorker outcome.workers

end Coordinator

/-! ## Runs -/

/-- The operating system hands out no descriptor that is still in use. -/
def FreshDescriptor (l : MainLoop) : MainLoop.Event → Prop
  | .accept s _ => l.coordinator.conns[s]? = none
  | .poll _ _ _ => True

namespace MainLoop

variable {F : Type} [ScoreArith F] {l l' : MainLoop}

theorem accept_wired {s : Socket} {peer : Stream} (absent : l.coordinator.conns[s]? = none)
    (wired : l.coordinator.Wired) : (l.accept s peer).coordinator.Wired := by
  refine ⟨fun other => ?_, wired.sockets, wired.workers⟩
  show l.coordinator.connWorker[other]?.isSome = true ↔
    (l.coordinator.conns.insert s .unknown)[other]? = _
  rw [OrderedMap.lookup_insert, wired.roles]
  split_ifs with same
  · rw [← same, absent]
    simp
  · exact Iff.rfl

theorem step_wired {event : Event} (fresh : FreshDescriptor l event) (wired : l.coordinator.Wired)
    (stepped : step F (.returns l) event = .returns l') : l'.coordinator.Wired := by
  cases event with
  | accept s peer =>
      rcases accepted stepped with rfl | rfl
      · exact wired
      · exact accept_wired fresh wired
  | poll s arrived sends =>
      cases polled stepped with
      | idle => exact wired
      | turn registered received dispatched => exact dispatched.wired wired registered

theorem start_wired (epoch : CoordinatorEpoch) : (start epoch).coordinator.Wired where
  roles s := by
    show (∅ : ExtTreeMap Socket UInt64)[s]?.isSome = true ↔ (∅ : ExtTreeMap Socket Role)[s]? = _
    simp
  sockets wk s socket := by cases socket
  workers wk := rfl

theorem run_wired {epoch : CoordinatorEpoch} {events : List Event}
    (fresh : TransitionRun.Every (step F) (OnLoop FreshDescriptor) (.returns (.start epoch)) events)
    (ended : TransitionRun.run (step F) (.returns (.start epoch)) events = .returns l) :
    l.coordinator.Wired :=
  run_invariant (fun l => l.coordinator.Wired)
    (fun _ _ _ fresh wired stepped => step_wired fresh wired stepped) (start_wired epoch) fresh ended

end MainLoop

/-- The descriptors of the session are fresh. -/
theorem Session.Steps.fresh {l₁ l₂ l₃ : MainLoop} (steps : Session.Steps l₁ l₂ l₃) :
    TransitionRun.Every (MainLoop.step ℚ) (MainLoop.OnLoop FreshDescriptor)
      (.returns (.start ⟨1⟩)) Session.events := by
  have absent : Session.reported.conns[(4 : Socket)]? = none := by decide +kernel
  have polls : ∀ p s arrived, MainLoop.OnLoop FreshDescriptor p (.poll s arrived) :=
    fun _ _ _ _ _ => trivial
  refine ⟨?_, polls _ _ _, polls _ _ _, ?_, polls _ _ _, trivial⟩
  · intro l same
    cases same
    rfl
  · intro l same
    cases steps.run_report.symm.trans same
    show l₂.coordinator.conns[(4 : Socket)]? = none
    rw [steps.reported]
    exact absent

/--
In every state of the loop, of a process that started without a state file, the engine
knows exactly the workers that have a socket, each socket of a worker is a live
connection that greeted as that worker, and no two workers share one.
-/
theorem connections_agree (F : Type) [ScoreArith F] (epoch : CoordinatorEpoch)
    (events : List MainLoop.Event) (l : MainLoop)
    (fresh : TransitionRun.Every (MainLoop.step F) (MainLoop.OnLoop FreshDescriptor)
      (.returns (.start epoch)) events)
    (ended : TransitionRun.run (MainLoop.step F) (.returns (.start epoch)) events = .returns l) :
    (∀ wk : UInt64, l.coordinator.engine.state.workers[(⟨wk⟩ : WorkerId)]?.isSome = true ↔
        ∃ s, l.coordinator.sockByWorker[wk]? = some s ∧ l.coordinator.connWorker[s]? = some wk ∧
          l.coordinator.conns[s]? = some .worker) ∧
      ∀ (wk wk' : UInt64) (s : Socket), l.coordinator.sockByWorker[wk]? = some s →
        l.coordinator.sockByWorker[wk']? = some s → wk = wk' := by
  have wired := MainLoop.run_wired fresh ended
  refine ⟨fun wk => ?_, fun wk wk' s first second => ?_⟩
  · rw [← wired.workers, Option.isSome_iff_exists]
    refine exists_congr fun s => ⟨fun socket => ?_, fun facts => facts.1⟩
    have filed := wired.sockets wk s socket
    exact ⟨socket, filed, (wired.roles s).mp (by rw [filed]; rfl)⟩
  · have filed := wired.sockets wk s first
    rw [wired.sockets wk' s second] at filed
    exact (Option.some.inj filed).symm

theorem connections_agree_session :
    ∃ l s, TransitionRun.run (MainLoop.step ℚ) (.returns (.start ⟨1⟩)) Session.events =
        .returns l ∧ l.coordinator.sockByWorker[(7 : UInt64)]? = some s ∧
          l.coordinator.conns[s]? = some .worker := by
  obtain ⟨_, _, l, steps⟩ := Session.steps
  have known : (Session.deployed.engine.state.workers[(⟨7⟩ : WorkerId)]?).isSome = true := by
    decide +kernel
  obtain ⟨agree, -⟩ := connections_agree ℚ ⟨1⟩ Session.events l steps.fresh steps.run_events
  obtain ⟨s, socket, -, role⟩ := (agree 7).mp (by rw [steps.deployed]; exact known)
  exact ⟨l, s, steps.run_events, socket, role⟩

end DPUFabric
