import DPUFabric.Library.TransitionRun

/-!
# Numbered requests

One party numbers its requests and sends each of them to a peer.  A peer answers what
it was sent in the order in which it was sent, and may lose what it was sent last.  The
answers of different peers come in any order.

Whatever the order, no request is answered twice, and a request without an answer is
owed by one peer at most.
-/

namespace Requests

universe u

variable {Peer : Type u}

/-- The next number, what each peer owes, the oldest first, and what was answered. -/
structure Book (Peer : Type u) where
  next : ℕ
  owed : Peer → List ℕ
  answered : List ℕ

inductive Event (Peer : Type u) where
  | issue (peer : Peer)
  | answer (peer : Peer)
  | lose (peer : Peer) (kept : ℕ)

namespace Book

def start (first : ℕ) : Book Peer where
  next := first
  owed _ := []
  answered := []

section Step

variable [DecidableEq Peer]

/-- A peer answers the oldest of its requests, and loses the youngest. -/
def step (b : Book Peer) : Event Peer → Book Peer
  | .issue peer =>
      { b with
        next := b.next + 1
        owed := Function.update b.owed peer (b.owed peer ++ [b.next]) }
  | .answer peer =>
      { b with
        owed := Function.update b.owed peer (b.owed peer).tail
        answered := b.answered ++ (b.owed peer).head?.toList }
  | .lose peer kept =>
      { b with owed := Function.update b.owed peer ((b.owed peer).take kept) }

end Step

/-- A number that was given out, from `first` on. -/
def Numbered (first : ℕ) (b : Book Peer) (n : ℕ) : Prop :=
  first ≤ n ∧ n < b.next

/-- A request without an answer. -/
def Unanswered (first : ℕ) (b : Book Peer) (n : ℕ) : Prop :=
  Numbered first b n ∧ n ∉ b.answered

/-- What holds of a book at any time. -/
structure Sound (first : ℕ) (b : Book Peer) : Prop where
  ordered : ∀ peer, (b.owed peer).Pairwise (· < ·)
  unanswered : ∀ peer, ∀ n ∈ b.owed peer, Unanswered first b n
  apart : ∀ peer other n, n ∈ b.owed peer → n ∈ b.owed other → peer = other
  once : b.answered.Nodup
  numbered : ∀ n ∈ b.answered, Numbered first b n

theorem start_sound (first : ℕ) : Sound first (start first : Book Peer) := by
  constructor <;> simp [start]

section Sound

variable {first : ℕ} {b : Book Peer} {peer : Peer} {n : ℕ}

/-- Whoever owes less than before. -/
theorem Sound.of_sublist (sound : Sound first b) {b' : Book Peer} (next : b'.next = b.next)
    (answered : b'.answered = b.answered) (fewer : ∀ other, (b'.owed other).Sublist (b.owed other)) :
    Sound first b' where
  ordered other := (sound.ordered other).sublist (fewer other)
  unanswered other n owes := by
    have before := sound.unanswered other n ((fewer other).subset owes)
    rw [Unanswered, Numbered, next, answered]
    exact before
  apart one other n owes owes' :=
    sound.apart one other n ((fewer one).subset owes) ((fewer other).subset owes')
  once := by rw [answered]; exact sound.once
  numbered n settled := by
    rw [Numbered, next]
    rw [answered] at settled
    exact sound.numbered n settled

variable [DecidableEq Peer]

theorem mem_owed_issue {other : Peer} :
    n ∈ (b.step (.issue peer)).owed other ↔
      n ∈ b.owed other ∨ other = peer ∧ n = b.next := by
  show n ∈ Function.update b.owed peer _ other ↔ _
  by_cases same : other = peer
  · subst same
    simp
  · simp [same]

theorem Numbered.issue (numbered : Numbered first b n) :
    Numbered first (b.step (.issue peer)) n :=
  ⟨numbered.1, numbered.2.trans (Nat.lt_succ_self b.next)⟩

theorem Sound.issue (sound : Sound first b) (begun : first ≤ b.next) (peer : Peer) :
    Sound first (b.step (.issue peer)) where
  ordered other := by
    show (Function.update b.owed peer _ other).Pairwise (· < ·)
    by_cases same : other = peer
    · subst same
      rw [Function.update_self, List.pairwise_append]
      refine ⟨sound.ordered other, by simp, ?_⟩
      intro n owes last newest
      rw [List.mem_singleton.mp newest]
      exact (sound.unanswered other n owes).1.2
    · rw [Function.update_of_ne same]
      exact sound.ordered other
  unanswered other n owes := by
    rcases mem_owed_issue.mp owes with before | ⟨-, rfl⟩
    · obtain ⟨numbered, unsettled⟩ := sound.unanswered other n before
      exact ⟨numbered.issue, unsettled⟩
    · refine ⟨⟨begun, Nat.lt_succ_self _⟩, fun settled => ?_⟩
      exact absurd (sound.numbered _ settled).2 (lt_irrefl _)
  apart one other n owes owes' := by
    rcases mem_owed_issue.mp owes with before | ⟨rfl, rfl⟩
    · rcases mem_owed_issue.mp owes' with before' | ⟨-, rfl⟩
      · exact sound.apart one other n before before'
      · exact absurd (sound.unanswered one _ before).1.2 (lt_irrefl _)
    · rcases mem_owed_issue.mp owes' with before' | ⟨rfl, -⟩
      · exact absurd (sound.unanswered other _ before').1.2 (lt_irrefl _)
      · rfl
  once := sound.once
  numbered n settled := (sound.numbered n settled).issue

theorem sublist_update (b : Book Peer) {less : List ℕ} (fewer : less.Sublist (b.owed peer))
    (other : Peer) : (Function.update b.owed peer less other).Sublist (b.owed other) := by
  by_cases same : other = peer
  · subst same
    rw [Function.update_self]
    exact fewer
  · rw [Function.update_of_ne same]

theorem Sound.lose (sound : Sound first b) (peer : Peer) (kept : ℕ) :
    Sound first (b.step (.lose peer kept)) :=
  sound.of_sublist rfl rfl (sublist_update b (List.take_sublist _ _))

/-- What is answered is owed no longer, by anyone. -/
theorem Sound.answer (sound : Sound first b) (peer : Peer) :
    Sound first (b.step (.answer peer)) := by
  cases owes : b.owed peer with
  | nil =>
      refine sound.of_sublist rfl ?_ (sublist_update b (List.tail_sublist _))
      simp [step, owes]
  | cons m rest =>
      have ordered := sound.ordered peer
      rw [owes] at ordered
      obtain ⟨later, -⟩ := List.pairwise_cons.mp ordered
      have first_owed : m ∈ b.owed peer := by rw [owes]; exact List.mem_cons_self
      have unsettled := sound.unanswered peer m first_owed
      have fewer : ∀ other, ((b.step (.answer peer)).owed other).Sublist (b.owed other) :=
        sublist_update b (List.tail_sublist _)
      have settled : (b.step (.answer peer)).answered = b.answered ++ [m] := by
        simp [step, owes]
      refine ⟨fun other => (sound.ordered other).sublist (fewer other), ?_, ?_, ?_, ?_⟩
      · intro other n owed
        have before := (fewer other).subset owed
        obtain ⟨numbered, unsettled⟩ := sound.unanswered other n before
        refine ⟨numbered, fun now => ?_⟩
        rw [settled, List.mem_append, List.mem_singleton] at now
        rcases now with early | rfl
        · exact unsettled early
        · -- The peer is the only one that owed it, and what it owes now is younger.
          obtain rfl := sound.apart other peer n before first_owed
          have owed' : n ∈ rest := by
            change n ∈ Function.update b.owed other (b.owed other).tail other at owed
            rwa [Function.update_self, owes] at owed
          exact lt_irrefl n (later n owed')
      · intro one other n owed owed'
        exact sound.apart one other n ((fewer one).subset owed) ((fewer other).subset owed')
      · rw [settled, List.nodup_append]
        refine ⟨sound.once, List.nodup_singleton m, ?_⟩
        rintro n early _ last rfl
        rw [List.mem_singleton.mp last] at early
        exact unsettled.2 early
      · intro n now
        rw [settled, List.mem_append, List.mem_singleton] at now
        rcases now with early | rfl
        · exact sound.numbered n early
        · exact unsettled.1

end Sound

/-! ## What is left without an answer -/

section Unanswered

variable [DecidableEq Peer] {first : ℕ} {b : Book Peer} {peer : Peer}

theorem unanswered_issue (sound : Sound first b) (begun : first ≤ b.next) (n : ℕ) :
    Unanswered first (b.step (.issue peer)) n ↔ Unanswered first b n ∨ n = b.next := by
  constructor
  · rintro ⟨⟨low, below⟩, unsettled⟩
    rcases Nat.lt_succ_iff_lt_or_eq.mp below with before | newest
    · exact Or.inl ⟨⟨low, before⟩, unsettled⟩
    · exact Or.inr newest
  · rintro (before | rfl)
    · exact ⟨before.1.issue, before.2⟩
    · exact ⟨⟨begun, Nat.lt_succ_self _⟩, fun settled =>
        absurd (sound.numbered _ settled).2 (lt_irrefl _)⟩

theorem unanswered_answer {m : ℕ} {rest : List ℕ} (owes : b.owed peer = m :: rest) (n : ℕ) :
    Unanswered first (b.step (.answer peer)) n ↔ Unanswered first b n ∧ n ≠ m := by
  have settled : (b.step (.answer peer)).answered = b.answered ++ [m] := by
    simp [step, owes]
  rw [Unanswered, settled, List.mem_append, List.mem_singleton]
  constructor
  · rintro ⟨numbered, unsettled⟩
    exact ⟨⟨numbered, fun early => unsettled (Or.inl early)⟩, fun last => unsettled (Or.inr last)⟩
  · rintro ⟨⟨numbered, unsettled⟩, other⟩
    exact ⟨numbered, fun either => either.elim unsettled other⟩

end Unanswered

/-! ## Peers that are gone -/

section Post

variable [DecidableEq Peer] {first : ℕ} {b : Book Peer} {peer : Peer} {reached : Bool}

/-- A request to a peer that may be gone already: then it is lost at once. -/
def post (b : Book Peer) (peer : Peer) (reached : Bool) : Book Peer :=
  if reached then b.step (.issue peer)
  else (b.step (.issue peer)).step (.lose peer (b.owed peer).length)

theorem post_eq_run (b : Book Peer) (peer : Peer) (reached : Bool) :
    ∃ events, b.post peer reached = TransitionRun.run step b events := by
  cases reached with
  | true => exact ⟨[.issue peer], rfl⟩
  | false => exact ⟨[.issue peer, .lose peer (b.owed peer).length], rfl⟩

theorem next_post : (b.post peer reached).next = b.next + 1 := by
  cases reached <;> rfl

theorem owed_post_self :
    (b.post peer reached).owed peer = b.owed peer ++ if reached then [b.next] else [] := by
  have issued : (b.step (.issue peer)).owed peer = b.owed peer ++ [b.next] :=
    Function.update_self ..
  cases reached with
  | true => exact issued
  | false =>
      show Function.update (b.step (.issue peer)).owed peer _ peer = _
      rw [Function.update_self, issued, List.take_left]
      exact (List.append_nil _).symm

theorem owed_post_other {other : Peer} (differs : other ≠ peer) :
    (b.post peer reached).owed other = b.owed other := by
  have issued : (b.step (.issue peer)).owed other = b.owed other :=
    Function.update_of_ne differs _ _
  cases reached with
  | true => exact issued
  | false => exact (Function.update_of_ne differs _ _).trans issued

theorem Sound.post (sound : Sound first b) (begun : first ≤ b.next) (peer : Peer)
    (reached : Bool) : Sound first (b.post peer reached) := by
  cases reached with
  | true => exact sound.issue begun peer
  | false => exact (sound.issue begun peer).lose peer _

theorem unanswered_post (sound : Sound first b) (begun : first ≤ b.next) (n : ℕ) :
    Unanswered first (b.post peer reached) n ↔ Unanswered first b n ∨ n = b.next := by
  cases reached with
  | true => exact unanswered_issue sound begun n
  | false => exact (unanswered_issue sound begun n : Unanswered first (b.step (.issue peer)) n ↔ _)

end Post

end Book

end Requests
