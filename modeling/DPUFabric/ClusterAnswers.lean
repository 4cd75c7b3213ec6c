import DPUFabric.ClusterRuns

/-!
# Commands and their answers

Each frame between the coordinator and a worker process concerns at most one command.
No two frames on the way concern the same one, and a worker that runs can always be
heard out.
-/

namespace DPUFabric

open Std
open Codec
open Requests
open Cluster (delivered_bytes sentTo_nil sentTo_cons afterTurn)
open DPUFabric.Wire
open DPUFabric.Persistence
open DPUFabric.Proto
open DPUFabric.Mp
open DPUFabric.Mpproto

/-! ## Identities on the way -/

namespace Mp

/-- The letters at the front of some bytes are the first of those that are there. -/
theorem prefix_of_wireBytes {letters whole : List Letter} {rest tail : List UInt8}
    (bounded : ∀ l ∈ letters, l.2.length ≤ kMaxPayload)
    (bounded' : ∀ l ∈ whole, l.2.length ≤ kMaxPayload)
    (same : wireBytes letters ++ rest = wireBytes whole ++ tail) (short : Short tail) :
    letters <+: whole := by
  induction letters generalizing whole with
  | nil => exact List.nil_prefix
  | cons letter more ih =>
      obtain ⟨bound, others⟩ := List.forall_mem_cons.mp bounded
      have first : Framed (wireBytes whole ++ tail) letter.1 letter.2 (wireBytes more ++ rest) :=
        ⟨by rw [← same, wireBytes_cons, List.append_assoc], bound⟩
      cases whole with
      | nil => exact absurd short first.not_short
      | cons other behind =>
          obtain ⟨bound', others'⟩ := List.forall_mem_cons.mp bounded'
          have split : wireBytes (other :: behind) ++ tail =
              frameBytes other.1 other.2 ++ (wireBytes behind ++ tail) := by
            rw [wireBytes_cons, List.append_assoc]
          have second : Framed (wireBytes (other :: behind) ++ tail) other.1 other.2
              (wireBytes behind ++ tail) := ⟨split, bound'⟩
          obtain ⟨frames, later⟩ :=
            first.split split (by rw [length_frameBytes, second.declares])
          have decoded : decode (frameBytes letter.1 letter.2) = .ok (received letter) :=
            decode_eq_ok_iff.mpr ⟨bound, rfl, rfl⟩
          have decoded' : decode (frameBytes other.1 other.2) = .ok (received other) :=
            decode_eq_ok_iff.mpr ⟨bound', rfl, rfl⟩
          rw [frames, decoded] at decoded'
          have equal : letter = other := by
            injection decoded' with frame
            injection frame with type payload
            exact Prod.ext type payload
          rw [equal]
          exact (List.prefix_cons_inj other).mpr (ih others others' later.symm)

end Mp

/-- The command that a frame is, or that it answers. -/
def concerns : Letter → Option UInt64
  | (.declared .result, payload) =>
      match readResult payload with
      | .ok (cid, _, _) _ => some cid
      | .error _ _ => none
  | (.declared .command, payload) =>
      match decodeCommand payload with
      | .ok (cid, _) _ => some cid
      | .error _ _ => none
  | _ => none

theorem concerns_said (args : WorkerArgs) (said : Said) :
    concerns (said.letter args) = said.number.map UInt64.ofNat := by
  cases said with
  | result n =>
      have brief : (Worker.handledText activate).length ≤ kMaxStringBytes := by decide
      simp only [concerns, Said.letter, Said.number,
        Worker.readResult_resultPayload (UInt64.ofNat n) true brief, Option.map_some]
  | _ => rfl

theorem concerns_told (told : Told) : concerns told.letter = told.number.map UInt64.ofNat := by
  cases told with
  | ack epoch => rfl
  | command n =>
      have brief : activate.length ≤ kMaxStringBytes := by decide
      simp only [concerns, Told.letter, Told.number,
        Worker.decodeCommand_commandPayload (UInt64.ofNat n) brief, Option.map_some]

/--
Frames that are on the way between the coordinator and a worker process: from the process,
as long as its connection is open, and to the process, as long as it runs.
-/
def Underway (k : Cluster) (s : Socket) (letters : List Letter) : Prop :=
  ∃ p up down rest rest', k.processes s = some p ∧ k.loop.coordinator.conns[s]? = some .worker ∧
    letters = up ++ down ∧ (∀ l ∈ letters, l.2.length ≤ kMaxPayload) ∧
    (k.loop.streams s).bytes = wireBytes up ++ rest ∧
    (if p.isRunning then p.incoming.bytes = wireBytes down ++ rest' else down = [])

theorem filterMap_said (args : WorkerArgs) (said : List Said) :
    (said.map (Said.letter args)).filterMap concerns =
      (said.filterMap Said.number).map UInt64.ofNat := by
  rw [List.filterMap_map, List.map_filterMap]
  exact List.filterMap_congr fun one _ => concerns_said args one

theorem filterMap_told (told : List Told) :
    (told.map Told.letter).filterMap concerns = (told.filterMap Told.number).map UInt64.ofNat := by
  rw [List.filterMap_map, List.map_filterMap]
  exact List.filterMap_congr fun one _ => concerns_told one

/-- What is on the way concerns what is owed. -/
theorem Tracks.underway {k : Cluster} {b : Book Socket} (tracks : Tracks k b) {s : Socket}
    {letters : List Letter} (underway : Underway k s letters) :
    ∃ owed : List ℕ, owed.Sublist (b.owed s) ∧ letters.filterMap concerns = owed.map UInt64.ofNat := by
  obtain ⟨p, up, down, rest, rest', known, registered, rfl, bounded, sends, hears⟩ := underway
  obtain ⟨short, link⟩ := tracks.links s p known
  rw [registered] at link
  generalize b.owed s = owed at link
  cases link with
  | @registered said told outgoing greeted incoming =>
  obtain ⟨tail, bytes, shortTail, -⟩ := outgoing.bytes
  have front := prefix_of_wireBytes (fun l member => bounded l (List.mem_append_left _ member))
    (Said.all_bounded short said) (sends.symm.trans bytes) shortTail
  have said_front : (up.filterMap concerns).Sublist
      ((said.filterMap Said.number).map UInt64.ofNat) := by
    rw [← filterMap_said p.args]
    exact front.sublist.filterMap _
  have told_front : (down.filterMap concerns).Sublist
      ((if p.isRunning then told.filterMap Told.number else []).map UInt64.ofNat) := by
    by_cases runs : p.isRunning = true
    · rw [if_pos runs] at hears ⊢
      have front := prefix_of_wireBytes (fun l member => bounded l (List.mem_append_right _ member))
        (Told.all_bounded told)
        ((hears.symm.trans (incoming runs).1).trans (List.append_nil _).symm) short_nil
      rw [← filterMap_told]
      exact front.sublist.filterMap _
    · rw [if_neg runs] at hears ⊢
      subst hears
      exact List.Sublist.refl _
  have both := said_front.append told_front
  rw [← List.map_append, ← List.filterMap_append] at both
  obtain ⟨fewer, sub, same⟩ := List.sublist_map_iff.mp both
  exact ⟨fewer, sub, same⟩

/--
No two frames on the way between the coordinator and its workers concern the same
command, and the command that a frame concerns is pending.
-/
theorem one_frame_per_command (F : Type) [ScoreArith F] (epoch : CoordinatorEpoch)
    (events : List Cluster.Event) (k : Cluster)
    (admissible : TransitionRun.Every (Cluster.step F) (Cluster.OnCluster (Cluster.Admissible F))
      (.returns (.start epoch)) events)
    (ended : TransitionRun.run (Cluster.step F) (.returns (.start epoch)) events = .returns k)
    (room : k.loop.coordinator.sent.length < 2 ^ 64) (s : Socket) (letters : List Letter)
    (underway : Underway k s letters) :
    (letters.filterMap concerns).Nodup ∧
      (∀ cid ∈ letters.filterMap concerns, k.loop.coordinator.pending[cid]?.isSome = true) ∧
      ∀ (t : Socket) (others : List Letter), Underway k t others → s ≠ t →
        (letters.filterMap concerns).Disjoint (others.filterMap concerns) := by
  obtain ⟨entries, tracks⟩ := Cluster.run_tracks admissible ended room
  obtain ⟨owed, fewer, same⟩ := tracks.underway underway
  have below : ∀ n ∈ owed, n < 2 ^ 64 := fun n member =>
    tracks.number_lt room (tracks.sound.unanswered s n (fewer.subset member))
  refine ⟨?_, ?_, ?_⟩
  · rw [same]
    have ordered := (tracks.sound.ordered s).sublist fewer
    refine List.Nodup.map_on ?_ (ordered.imp fun less => less.ne)
    intro m first n second equal
    exact Tracks.ofNat_injective (below m first) (below n second) equal
  · intro cid member
    rw [same] at member
    obtain ⟨n, owes, rfl⟩ := List.mem_map.mp member
    exact (tracks.pending _).mpr ⟨n, tracks.sound.unanswered s n (fewer.subset owes), rfl⟩
  · intro t others underway' apart cid member member'
    obtain ⟨owed', fewer', same'⟩ := tracks.underway underway'
    rw [same] at member
    rw [same'] at member'
    obtain ⟨n, owes, rfl⟩ := List.mem_map.mp member
    obtain ⟨m, owes', equal⟩ := List.mem_map.mp member'
    have below' := tracks.number_lt room (tracks.sound.unanswered t m (fewer'.subset owes'))
    obtain rfl := Tracks.ofNat_injective below' (below n owes) equal
    exact apart (tracks.sound.apart s t m (fewer.subset owes) (fewer'.subset owes'))

namespace Cluster.Session

open DPUFabric.Session (args deployed deployed_conns)

/-- The worker's evidence, and the command for it. -/
def letters : List Letter := [Said.evidence.letter args, (Told.command 1).letter]

theorem concerns_letters : letters.filterMap concerns = [1] := by decide +kernel

variable {k : Cluster}

theorem room (coordinator : k.loop.coordinator = deployed) :
    k.loop.coordinator.sent.length < 2 ^ 64 := by
  rw [coordinator]
  decide +kernel

theorem registered (coordinator : k.loop.coordinator = deployed) :
    k.loop.coordinator.conns[(3 : Socket)]? = some .worker := by
  rw [coordinator]
  exact deployed_conns

theorem underway
    (here : At k deployed .serving [Said.evidence.letter args] [(Told.command 1).letter]) :
    Underway k 3 letters := by
  obtain ⟨p, known, -, inPhase, alive, incoming⟩ := here.process
  have running : p.isRunning = true := by
    rw [Process.isRunning, alive, inPhase]
    rfl
  refine ⟨p, [Said.evidence.letter args], [(Told.command 1).letter], [], [], known,
    registered here.coordinator, rfl, ?_, ?_, ?_⟩
  · have short : args.label.length ≤ kMaxStringBytes := by decide
    intro l member
    rcases List.mem_cons.mp member with rfl | rest
    · exact Said.bounded short .evidence
    · exact Told.all_bounded [.command 1] l rest
  · rw [here.bytes, List.append_nil]
  · rw [if_pos running, List.append_nil]
    exact incoming

end Cluster.Session

/-- One frame of two on the way concerns a command. -/
theorem one_frame_per_command_session : ∃ k,
    TransitionRun.run (Cluster.step ℚ) (.returns (.start ⟨1⟩)) Cluster.Session.events =
      .returns k ∧ Cluster.Session.letters.filterMap concerns = [1] ∧
    (Cluster.Session.letters.filterMap concerns).Nodup ∧
      (∀ cid ∈ Cluster.Session.letters.filterMap concerns,
        k.loop.coordinator.pending[cid]?.isSome = true) ∧
      ∀ (t : Socket) (others : List Letter), Underway k t others → 3 ≠ t →
        (Cluster.Session.letters.filterMap concerns).Disjoint (others.filterMap concerns) := by
  obtain ⟨k, here, admissible, ended⟩ := Cluster.Session.ends
  exact ⟨k, ended, Cluster.Session.concerns_letters,
    one_frame_per_command ℚ ⟨1⟩ _ k admissible ended (Cluster.Session.room here.coordinator) 3 _
      (Cluster.Session.underway here)⟩

/-! ## Hearing a worker out -/

/-- A process that runs, is registered, and has these frames on the way. -/
structure Serving (k : Cluster) (s : Socket) (p : Process) (said : List Said) (told : List Told) :
    Prop where
  serves : k.loop.coordinator.running = true
  known : k.processes s = some p
  running : p.isRunning = true
  registered : k.loop.coordinator.conns[s]? = some .worker
  short : p.args.label.length ≤ kMaxStringBytes
  outgoing : OnTheWay p (k.loop.streams s) said
  greeted : Said.hello ∉ said
  incoming : p.incoming.bytes = wireBytes (told.map Told.letter)
  inTurn : InTurn said told p.phase

namespace Serving

variable {F : Type} [ScoreArith F] {k : Cluster} {s : Socket} {p : Process} {said : List Said}
  {told : List Told}

theorem work {one : Told} (serving : Serving k s p said (one :: told)) :
    ∃ k' p' said', k.work s true [] = .returns k' ∧ Serving k' s p' said' told ∧
      k'.loop.coordinator = k.loop.coordinator ∧
      said'.filterMap Said.number = said.filterMap Said.number ++ one.number.toList := by
  obtain ⟨new, ns, commands, received, plain, numbers⟩ := serving.inTurn.receives p.args
  have next : Framed p.incoming.bytes one.letter.1 one.letter.2 (wireBytes (told.map Told.letter)) :=
    ⟨by rw [serving.incoming, List.map_cons, wireBytes_cons],
      Told.all_bounded (one :: told) _ (List.mem_map_of_mem List.mem_cons_self)⟩
  obtain ⟨rest, read, behind, -⟩ := recvFrame_of_framed next
  have streams : (k.afterWork s p .serving (new.map (Said.letter p.args)) rest).loop.streams s =
      (k.loop.streams s).more ((new.map (Said.letter p.args)).map fun l => frameBytes l.1 l.2) :=
    Function.update_self ..
  let p' : Process := { p with phase := .serving, incoming := rest }
  have args : p'.args = p.args := rfl
  have taken := Cluster.takeUp_eq serving.known serving.running read received
  have worked : k.work s true [] =
      .returns (k.afterWork s p .serving (new.map (Said.letter p.args)) rest) := by
    rw [Cluster.work, taken, Turn.returns_bind]
    dsimp only
    rw [(Worker.submit_returns_iff _ []).mpr (by simp)]
    rfl
  refine ⟨_, p', said ++ new, worked,
    ⟨serving.serves, Function.update_self .., Process.isRunning_serving serving.running rest, serving.registered,
      serving.short, ?_, ?_, behind, ns, commands⟩, rfl, ?_⟩
  · rw [streams]
    exact serving.outgoing.more serving.running args new
  · exact fun member => (List.mem_append.mp member).elim serving.greeted plain
  · rw [List.filterMap_append, numbers]

/-- The coordinator hears a report or an answer, and strikes out what is answered. -/
theorem poll {one : Said} (serving : Serving k s p (one :: said) told) :
    ∃ k' p', Cluster.step F (.returns k) (.poll s true) = .returns k' ∧
      Serving k' s p' said told ∧
      ∀ cid : UInt64, k'.loop.coordinator.pending[cid]? =
        if one.number.map UInt64.ofNat = some cid then none
        else k.loop.coordinator.pending[cid]? := by
  obtain ⟨tail, bytes, -, whole⟩ := serving.outgoing.bytes
  have silent := serving.outgoing.running serving.running
  rw [whole silent, List.append_nil, List.map_cons, wireBytes_cons] at bytes
  have next : Framed (k.loop.streams s).bytes (one.letter p.args).1 (one.letter p.args).2
      (wireBytes (said.map (Said.letter p.args))) := ⟨bytes, one.bounded serving.short⟩
  obtain ⟨rest, read, behind, ending⟩ := recvFrame_of_framed next
  have other : one ≠ .hello := by
    rintro rfl
    exact serving.greeted List.mem_cons_self
  have suits : if one = .hello then Role.worker = .unknown else Role.worker = .worker := by
    rw [if_neg other]
  have fields := one.fields serving.short suits
  have runs : Exceptions.Throws (Confined s True) (fun _ : Fault => False)
      (Coordinator.process F s .worker (.ok (received (one.letter p.args)))) :=
    Coordinator.process_throws F fields fun _ _ => trivial
  obtain ⟨_, c, handled, -⟩ := runs.returns k.loop.coordinator
  have dispatched := Coordinator.process_outcome handled
  have goesOn := dispatched.worker_quiet.1
  cases dispatched with
  | closed lost => rcases lost with lost | lost <;> cases lost
  | admin privileged => simp at privileged
  | worker outcome =>
  obtain ⟨⟨conns, -, sent⟩, report, result⟩ := outcome.notes
  have polled := ((Cluster.step_of_running serving.serves).2.2 true []).trans
    (Cluster.poll_eq serving.registered read handled (sent.trans (List.append_nil _).symm))
  let p' := Cluster.delivered [] c s p
  have streams : (k.afterTurn s c rest []).loop.streams s = rest := Function.update_self ..
  have later : OnTheWay p' rest said :=
    ⟨⟨[], behind.trans (List.append_nil _).symm, short_nil, fun _ => rfl⟩,
      fun _ => ending.trans silent⟩
  have inTurn : InTurn said told p.phase := by
    have turn := serving.inTurn
    cases now : p.phase with
    | greeting =>
        rw [now] at turn
        cases turn.1
    | serving =>
        rw [now] at turn
        exact turn
    | exited code =>
        rw [now] at turn
        exact turn.elim
  refine ⟨_, p', polled,
    ⟨goesOn.trans serving.serves, ?_, serving.running, ?_, serving.short, ?_, ?_, ?_, inTurn⟩, ?_⟩
  · show (k.processes s).map _ = _
    rw [serving.known]
    rfl
  · show c.conns[s]? = _
    rw [conns]
    exact serving.registered
  · rw [streams]
    exact later
  · exact fun member => serving.greeted (List.mem_cons_of_mem _ member)
  · rw [delivered_bytes, sentTo_nil, List.flatten_nil, List.append_nil]
    exact serving.incoming
  · intro cid
    show c.pending[cid]? = _
    cases numbered : one.number with
    | none =>
        have kept : c.pending = k.loop.coordinator.pending := by
          refine report ?_
          cases one <;> simp_all [Said.number, Said.letter, received]
        rw [kept, if_neg (by simp)]
    | some n =>
        obtain rfl : one = .result n := by
          cases one <;> simp_all [Said.number]
        have brief : (Worker.handledText activate).length ≤ kMaxStringBytes := by decide
        rw [result _ _ _ _ rfl (Worker.readResult_resultPayload (UInt64.ofNat n) true brief),
          lookup_erase]
        simp only [Option.map_some, Option.some.injEq]

/-- A process that has obeyed all commands is heard until nothing is left. -/
theorem heard_out (serving : Serving k s p said []) :
    ∃ schedule k' p', (∀ event ∈ schedule, event = Cluster.Event.poll s true) ∧
      TransitionRun.run (Cluster.step F) (.returns k) schedule = .returns k' ∧
      Serving k' s p' [] [] ∧
      ∀ cid : UInt64, k'.loop.coordinator.pending[cid]? =
        if cid ∈ (said.filterMap Said.number).map UInt64.ofNat then none
        else k.loop.coordinator.pending[cid]? := by
  induction said generalizing k p with
  | nil => exact ⟨[], k, p, by simp, rfl, serving, by simp⟩
  | cons one others ih =>
      obtain ⟨middle, q, polled, later, struck⟩ := serving.poll (F := F)
      obtain ⟨schedule, k', p', polls, ended, empty, pending⟩ := ih later
      refine ⟨.poll s true :: schedule, k', p', ?_, ?_, empty, fun cid => ?_⟩
      · simpa using polls
      · rw [TransitionRun.run_cons, polled]
        exact ended
      · rw [pending, struck, Said.numbers_cons]
        cases numbered : one.number with
        | none => rfl
        | some n =>
            show _ = if cid ∈ UInt64.ofNat n :: (others.filterMap Said.number).map UInt64.ofNat
              then none else _
            simp only [Option.map_some, Option.some.injEq, List.mem_cons]
            by_cases late : cid ∈ (others.filterMap Said.number).map UInt64.ofNat
            · rw [if_pos late, if_pos (Or.inr late)]
            · by_cases now : UInt64.ofNat n = cid
              · rw [if_neg late, if_pos now, if_pos (Or.inl now.symm)]
              · rw [if_neg late, if_neg now, if_neg]
                exact not_or.mpr ⟨fun same => now same.symm, late⟩

/-- A process obeys the commands that it has been sent, and is heard out. -/
theorem finish (serving : Serving k s p said told) :
    ∃ schedule k' p', (∀ event ∈ schedule, event = Cluster.Event.work s true ∨
        event = Cluster.Event.poll s true) ∧
      TransitionRun.run (Cluster.step F) (.returns k) schedule = .returns k' ∧
      Serving k' s p' [] [] ∧
      ∀ cid : UInt64, k'.loop.coordinator.pending[cid]? =
        if cid ∈ (said.filterMap Said.number ++ told.filterMap Told.number).map UInt64.ofNat
        then none else k.loop.coordinator.pending[cid]? := by
  induction told generalizing k p said with
  | nil =>
      obtain ⟨schedule, k', p', polls, ended, empty, pending⟩ := serving.heard_out (F := F)
      refine ⟨schedule, k', p', fun event member => Or.inr (polls event member), ended, empty, ?_⟩
      intro cid
      rw [List.filterMap_nil, List.append_nil]
      exact pending cid
  | cons one others ih =>
      obtain ⟨middle, q, said', worked, later, same, numbers⟩ := serving.work
      obtain ⟨schedule, k', p', steps, ended, empty, pending⟩ := ih later
      refine ⟨.work s true :: schedule, k', p', ?_, ?_, empty, fun cid => ?_⟩
      · intro event member
        rcases List.mem_cons.mp member with rfl | rest
        · exact Or.inl rfl
        · exact steps event rest
      · rw [TransitionRun.run_cons]
        show TransitionRun.run (Cluster.step F) (k.work s true []) schedule = _
        rw [worked]
        exact ended
      · rw [pending, same, numbers, Told.numbers_cons, List.append_assoc]

end Serving

theorem Tracks.serving {k : Cluster} {b : Book Socket} (tracks : Tracks k b) {s : Socket}
    {p : Process} (serves : k.loop.coordinator.running = true) (known : k.processes s = some p) (running : p.isRunning = true)
    (registered : k.loop.coordinator.conns[s]? = some .worker) :
    ∃ said told, Serving k s p said told := by
  obtain ⟨short, link⟩ := tracks.links s p known
  rw [registered] at link
  generalize b.owed s = owed at link
  cases link with
  | @registered said told outgoing greeted incoming =>
      obtain ⟨bytes, turn⟩ := incoming running
      exact ⟨said, told, serves, known, running, registered, short, outgoing, greeted, bytes, turn⟩

end DPUFabric
