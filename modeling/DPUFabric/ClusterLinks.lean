import DPUFabric.Cluster

/-!
# What is on the way between the programs

A worker process sends four kinds of frames, and the coordinator sends it two.  `Link`
says which of them can be on the way at any time, by the role that the connection has
for the coordinator: from a process that runs whole frames, and from one that is gone
perhaps a part of one behind them.
-/

namespace DPUFabric

open Std
open Codec
open Cluster (delivered_bytes)
open DPUFabric.Wire
open DPUFabric.Persistence
open DPUFabric.Proto
open DPUFabric.Mp
open DPUFabric.Mpproto

/-! ## Frames -/

/-- The frames of a worker process. -/
inductive Said where
  | hello | device | evidence
  | result (n : ℕ)
deriving DecidableEq

/-- The frames of the coordinator for a worker process. -/
inductive Told where
  | ack (epoch : CoordinatorEpoch)
  | command (n : ℕ)

/-- The action of every command. -/
def activate : Text := text "ACTIVATE"

namespace Said

def letter (args : WorkerArgs) : Said → Letter
  | hello => (.declared .hello, Worker.helloPayload args)
  | device => (.declared .registerDevice, Worker.devicePayload args)
  | evidence => (.declared .publishEvidence, Worker.evidencePayload)
  | result n =>
      (.declared .result, resultPayload (UInt64.ofNat n) true (Worker.handledText activate))

def number : Said → Option ℕ
  | result n => some n
  | _ => none

theorem numbers_cons (one : Said) (more : List Said) :
    (one :: more).filterMap number = one.number.toList ++ more.filterMap number := by
  cases one <;> rfl

theorem bounded {args : WorkerArgs} (short : args.label.length ≤ kMaxStringBytes) (said : Said) :
    (said.letter args).2.length ≤ kMaxPayload := by
  cases said with
  | hello =>
      show (Worker.helloPayload args).length ≤ kMaxPayload
      have limit : 20 + kMaxStringBytes ≤ kMaxPayload := by decide
      rw [Worker.length_helloPayload]
      omega
  | device =>
      show (Worker.devicePayload args).length ≤ kMaxPayload
      have own : sentSize (Worker.device {}) ≤ kMaxPayload := by decide
      rw [Worker.length_devicePayload]
      exact own
  | evidence =>
      show Worker.evidencePayload.length ≤ kMaxPayload
      decide
  | result n =>
      show (resultPayload _ _ _).length ≤ kMaxPayload
      rw [length_resultPayload]
      decide

theorem all_bounded {args : WorkerArgs} (short : args.label.length ≤ kMaxStringBytes)
    (said : List Said) : ∀ l ∈ said.map (letter args), l.2.length ≤ kMaxPayload := by
  intro l member
  obtain ⟨one, -, rfl⟩ := List.mem_map.mp member
  exact one.bounded short

/-- The coordinator finds in each frame what it looks for there. -/
theorem fields {args : WorkerArgs} (short : args.label.length ≤ kMaxStringBytes) (said : Said)
    {role : Role} (suits : if said = hello then role = .unknown else role = .worker) :
    (said.letter args).2 ∈ Coordinator.layout role (said.letter args).1 * ⊤ := by
  cases said with
  | hello =>
      cases suits
      exact (accepts_decodeHello.returns_iff _).mp ⟨_, _, Worker.decodeHello_helloPayload short⟩
  | device =>
      cases suits
      exact (accepts_getDevice.returns_iff _).mp ⟨_, _, Worker.getDevice_devicePayload args⟩
  | evidence =>
      cases suits
      exact (accepts_readEvidence.returns_iff _).mp ⟨(⟨1⟩, ⟨42⟩, true), [], rfl⟩
  | result n =>
      cases suits
      have brief : (Worker.handledText activate).length ≤ kMaxStringBytes := by decide
      exact (accepts_readResult.returns_iff _).mp
        ⟨_, _, Worker.readResult_resultPayload (UInt64.ofNat n) true brief⟩

end Said

namespace Told

def letter : Told → Letter
  | ack epoch => (.declared .ack, le64 epoch.value ++ [1])
  | command n => (.declared .command, commandPayload (UInt64.ofNat n) activate)

def number : Told → Option ℕ
  | command n => some n
  | _ => none

theorem numbers_cons (one : Told) (more : List Told) :
    (one :: more).filterMap number = one.number.toList ++ more.filterMap number := by
  cases one <;> rfl

@[simp]
theorem numbers_commands (ns : List ℕ) : (ns.map command).filterMap number = ns := by
  rw [List.filterMap_map]
  exact List.filterMap_some

theorem all_bounded (told : List Told) : ∀ l ∈ told.map letter, l.2.length ≤ kMaxPayload := by
  intro l member
  obtain ⟨one, -, rfl⟩ := List.mem_map.mp member
  cases one with
  | ack epoch =>
      show (le64 epoch.value ++ [1]).length ≤ kMaxPayload
      rw [List.length_append, length_le64]
      decide
  | command n =>
      show (commandPayload _ _).length ≤ kMaxPayload
      rw [length_commandPayload]
      decide

end Told

/-! ## What a worker process does with them -/

namespace Worker

theorem receive_nothing (args : WorkerArgs) {phase : WorkerPhase} (running : phase.hasExited = false)
    {result : RecvResult} (nothing : ∀ f, result ≠ .ok f) :
    ∃ code, receive args phase result [] = .ok (.exited code) [] := by
  cases phase with
  | exited code => cases running
  | greeting =>
      cases result with
      | ok f => exact absurd rfl (nothing f)
      | _ => exact ⟨2, rfl⟩
  | serving =>
      cases result with
      | ok f => exact absurd rfl (nothing f)
      | _ => exact ⟨0, rfl⟩

theorem receive_ack (args : WorkerArgs) (epoch : CoordinatorEpoch) :
    receive args .greeting (.ok (received (Told.ack epoch).letter)) [] =
      .ok .serving ([Said.device, Said.evidence].map (Said.letter args)) := by
  have reported := report_eq args []
  show receive args .greeting (.ok ⟨.declared .ack, _, _⟩) [] = _
  unfold receive
  dsimp only
  rw [if_pos rfl]
  exact Exceptions.bind_of_ok reported

theorem receive_command (args : WorkerArgs) (n : ℕ) :
    receive args .serving (.ok (received (Told.command n).letter)) [] =
      .ok .serving [(Said.result n).letter args] := by
  have short : (handledText activate).length ≤ kMaxStringBytes := by decide
  have handled := handle_command (f := received (Told.command n).letter) rfl rfl short []
  unfold receive
  dsimp only
  rw [Exceptions.bind_of_ok handled]
  rfl

end Worker

/-! ## Connections of worker processes -/

/-- A process that runs has been told no more than it expects. -/
def InTurn (said : List Said) (told : List Told) : WorkerPhase → Prop
  | .greeting => said = [] ∧ ∃ (epoch : CoordinatorEpoch) (ns : List ℕ), told = .ack epoch :: ns.map .command
  | .serving => ∃ ns : List ℕ, told = ns.map .command
  | .exited _ => False

/-- What a process that runs is told it acknowledges or answers, and then it serves. -/
theorem InTurn.receives {phase : WorkerPhase} {said : List Said} {one : Told} {told : List Told}
    (turn : InTurn said (one :: told) phase) (args : WorkerArgs) :
    ∃ (new : List Said) (ns : List ℕ), told = ns.map .command ∧
      Worker.receive args phase (.ok (received one.letter)) [] =
        .ok .serving (new.map (Said.letter args)) ∧
      Said.hello ∉ new ∧ new.filterMap Said.number = one.number.toList := by
  cases phase with
  | exited code => exact turn.elim
  | greeting =>
      obtain ⟨-, epoch, ns, same⟩ := turn
      obtain ⟨rfl, rfl⟩ := List.cons.inj same
      exact ⟨[.device, .evidence], ns, rfl, Worker.receive_ack args epoch, by simp, rfl⟩
  | serving =>
      obtain ⟨ns, same⟩ := turn
      obtain ⟨n, ns, rfl, rfl, rfl⟩ := List.map_eq_cons_iff.mp same.symm
      exact ⟨[.result n], ns, rfl, Worker.receive_command args n, by simp, rfl⟩

/-- A process that runs goes on to serve. -/
theorem Process.isRunning_serving {p : Process} (running : p.isRunning = true) (rest : Stream) :
    ({ p with phase := .serving, incoming := rest } : Process).isRunning = true := by
  rw [Process.isRunning, Bool.and_eq_true] at running
  have unkilled : (!p.killed) = true := running.1
  rw [Process.isRunning, unkilled]
  rfl

/-- What is on the way from a worker process: whole frames, and a part of one if it is gone. -/
structure OnTheWay (p : Process) (up : Stream) (said : List Said) : Prop where
  bytes : ∃ tail, up.bytes = wireBytes (said.map (Said.letter p.args)) ++ tail ∧ Short tail ∧
    (up.ending = .silent → tail = [])
  running : p.isRunning = true → up.ending = .silent

/--
What a process has on the way, by the role of its connection, and what it can still
answer: the answers that are on the way, and, if it runs, the commands.
-/
inductive Link (p : Process) (up : Stream) : Option Role → List ℕ → Prop
  | waiting {said : List Said} (outgoing : OnTheWay p up said)
      (greets : said = [.hello] ∨ said = [] ∧ up.ending ≠ .silent)
      (unheard : p.isRunning = true → p.phase = .greeting ∧ p.incoming.bytes = []) :
      Link p up (some .unknown) []
  | registered {said : List Said} {told : List Told} (outgoing : OnTheWay p up said)
      (greeted : Said.hello ∉ said)
      (incoming : p.isRunning = true →
        p.incoming.bytes = wireBytes (told.map Told.letter) ∧ InTurn said told p.phase) :
      Link p up (some .worker)
        (said.filterMap Said.number ++
          if p.isRunning then told.filterMap Told.number else [])
  | released (unheard : p.isRunning = true → p.phase = .greeting ∧ p.incoming.bytes = []) :
      Link p up none []

/-- A process that runs says more. -/
theorem OnTheWay.more {p p' : Process} {up : Stream} {said : List Said}
    (outgoing : OnTheWay p up said) (running : p.isRunning = true) (args : p'.args = p.args)
    (new : List Said) :
    OnTheWay p' (up.more ((new.map (Said.letter p.args)).map fun l => frameBytes l.1 l.2))
      (said ++ new) := by
  have silent := outgoing.running running
  obtain ⟨tail, bytes, -, whole⟩ := outgoing.bytes
  refine ⟨⟨[], ?_, short_nil, fun _ => rfl⟩, fun _ => silent⟩
  rw [Stream.more_bytes, flatten_frames, bytes, whole silent, List.append_nil, List.append_nil,
    args, List.map_append, wireBytes_append]

namespace Link

variable {p p' : Process} {up : Stream} {role : Option Role} {owed : List ℕ}

theorem isRunning_congr (phase : p'.phase = p.phase) (killed : p'.killed = p.killed) :
    p'.isRunning = p.isRunning := by
  rw [Process.isRunning, Process.isRunning, killed, phase]

/-- Only the arguments and the progress of a process count, and its bytes if it runs. -/
theorem congr (link : Link p up role owed) (args : p'.args = p.args) (phase : p'.phase = p.phase)
    (killed : p'.killed = p.killed)
    (bytes : p.isRunning = true → p'.incoming.bytes = p.incoming.bytes) :
    Link p' up role owed := by
  have running := isRunning_congr phase killed
  cases link with
  | waiting outgoing greets unheard =>
      refine .waiting ⟨by rw [args]; exact outgoing.bytes, by rw [running]; exact outgoing.running⟩
        greets ?_
      rw [running, phase]
      intro runs
      rw [bytes runs]
      exact unheard runs
  | registered outgoing greeted incoming =>
      rw [← running]
      refine .registered
        ⟨by rw [args]; exact outgoing.bytes, by rw [running]; exact outgoing.running⟩ greeted ?_
      rw [running, phase]
      intro runs
      rw [bytes runs]
      exact incoming runs
  | released unheard =>
      refine .released ?_
      rw [running, phase]
      intro runs
      rw [bytes runs]
      exact unheard runs

/-- A command goes to a worker; one that is gone will not answer it. -/
theorem commanded {n : ℕ} (link : Link p up (some .worker) owed) (args : p'.args = p.args)
    (phase : p'.phase = p.phase) (killed : p'.killed = p.killed)
    (bytes : p'.incoming.bytes =
      p.incoming.bytes ++ commandFrame (UInt64.ofNat n) activate) :
    Link p' up (some .worker) (owed ++ if p.isRunning then [n] else []) := by
  have running := isRunning_congr phase killed
  cases link with
  | @registered said told outgoing greeted incoming =>
      have owes : said.filterMap Said.number ++
            (if p'.isRunning then (told ++ [Told.command n]).filterMap Told.number else []) =
          (said.filterMap Said.number ++
            if p.isRunning then told.filterMap Told.number else []) ++
              if p.isRunning then [n] else [] := by
        rw [running, List.append_assoc]
        split_ifs
        · rw [List.filterMap_append]
          rfl
        · rfl
      rw [← owes]
      refine .registered
        ⟨by rw [args]; exact outgoing.bytes, by rw [running]; exact outgoing.running⟩ greeted ?_
      rw [running, phase]
      intro runs
      obtain ⟨before, turn⟩ := incoming runs
      refine ⟨?_, ?_⟩
      · rw [bytes, before, List.map_append, wireBytes_append]
        congr 1
      · cases now : p.phase with
        | greeting =>
            rw [now] at turn
            obtain ⟨nothing, epoch, ns, rfl⟩ := turn
            exact ⟨nothing, epoch, ns ++ [n], by simp⟩
        | serving =>
            rw [now] at turn
            obtain ⟨ns, rfl⟩ := turn
            exact ⟨ns ++ [n], by simp⟩
        | exited code =>
            rw [now] at turn
            exact turn.elim

/-- A process that has stopped owes only the answers that still arrive. -/
theorem stopped {up' : Stream} (link : Link p up role owed) (args : p'.args = p.args)
    (stopped : p'.isRunning = false) (ended : up'.ending ≠ .silent)
    (fewer : ∀ said : List Said, OnTheWay p up said →
      ∃ j tail, up'.bytes = wireBytes ((said.take j).map (Said.letter p.args)) ++ tail ∧
        Short tail) :
    ∃ kept, Link p' up' role (owed.take kept) := by
  have never : ∀ {P : Prop}, p'.isRunning = true → P := by
    intro P runs
    rw [stopped] at runs
    cases runs
  have outgoing : ∀ {said : List Said} {tail : List UInt8},
      up'.bytes = wireBytes (said.map (Said.letter p.args)) ++ tail → Short tail →
        OnTheWay p' up' said := by
    intro said tail bytes short
    refine ⟨⟨tail, by rw [args]; exact bytes, short, fun silent => absurd silent ended⟩, never⟩
  cases link with
  | @waiting said before greets unheard =>
      obtain ⟨j, tail, bytes, short⟩ := fewer said before
      refine ⟨0, .waiting (outgoing bytes short) ?_ never⟩
      rcases greets with rfl | ⟨rfl, -⟩
      · cases j with
        | zero => exact Or.inr ⟨rfl, ended⟩
        | succ j => exact Or.inl (by simp)
      · exact Or.inr ⟨by simp, ended⟩
  | @registered said told before greeted incoming =>
      obtain ⟨j, tail, bytes, short⟩ := fewer said before
      have same := List.prefix_iff_eq_take.mp
        (((List.take_prefix j said).filterMap Said.number).trans
          (List.prefix_append _ (if p.isRunning then told.filterMap Told.number else [])))
      refine ⟨((said.take j).filterMap Said.number).length, ?_⟩
      have link : Link p' up' (some .worker) ((said.take j).filterMap Said.number ++
          if p'.isRunning then ([] : List Told).filterMap Told.number else []) :=
        .registered (outgoing bytes short)
          (fun member => greeted ((List.take_sublist j said).subset member)) never
      rw [stopped, if_neg (by decide), List.append_nil] at link
      rw [← same]
      exact link
  | released unheard => exact ⟨0, .released never⟩

/-- A process that has answered goes on to serve. -/
theorem serves {said : List Said} (outgoing : OnTheWay p up said) (running : p.isRunning = true)
    (greeted : Said.hello ∉ said) (new : List Said) (plain : Said.hello ∉ new) {ns : List ℕ}
    {rest : Stream} (behind : rest.bytes = wireBytes ((ns.map Told.command).map Told.letter)) :
    Link { p with phase := .serving, incoming := rest }
      (up.more ((new.map (Said.letter p.args)).map fun l => frameBytes l.1 l.2)) (some .worker)
      ((said ++ new).filterMap Said.number ++ ns) := by
  let p' : Process := { p with phase := .serving, incoming := rest }
  have alive : p'.isRunning = true := Process.isRunning_serving running rest
  have args : p'.args = p.args := rfl
  have link : Link p' _ (some .worker) ((said ++ new).filterMap Said.number ++
      if p'.isRunning then (ns.map Told.command).filterMap Told.number else []) :=
    .registered (outgoing.more running args new)
      (fun member => (List.mem_append.mp member).elim greeted plain) fun _ => ⟨behind, ns, rfl⟩
  rw [alive, if_pos rfl, Told.numbers_commands] at link
  exact link

/-- A process that gets nothing of a turn. -/
theorem undelivered
    (link : Link p up role owed) {frames : List (Socket × List UInt8)} (c : Coordinator)
    {s : Socket} (nothing : Cluster.sentTo s frames = []) :
    Link (Cluster.delivered frames c s p) up role owed :=
  link.congr rfl rfl rfl fun _ => by
    rw [delivered_bytes, nothing, List.flatten_nil, List.append_nil]

end Link

end DPUFabric
