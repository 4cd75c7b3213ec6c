import DPUFabric.Admission
import DPUFabric.Library.OrderedMap
import DPUFabric.Library.TransitionRun

/-!
# Scoped reservations

A client keeps its reservations in objects that can be moved but not copied.  Three
flags of an object tell its destructor whether to roll back.

The accounts here follow every reservation that was made, through its history: it is
applied, then committed or rolled back, and a committed one may be released once.
An object owns at most one reservation and no two own the same, so the flags agree
with the history and the ledger with the accounts.
-/

namespace DPUFabric

open Std

/-! ## Reservations and their owners -/

/-- What became of a reservation. -/
inductive ReservationFate where
  | applied | committed | rolledBack | released
deriving DecidableEq, Repr

/-- A reservation that was made. -/
structure ReservationEntry where
  request : ResourceRequest
  fate : ReservationFate := .applied
deriving DecidableEq, Repr

namespace ReservationEntry

/-- The owner is committed. -/
def commit (made : ReservationEntry) : ReservationEntry :=
  if made.fate = .applied then { made with fate := .committed } else made

/-- The owner is destroyed. -/
def abandon (made : ReservationEntry) : ReservationEntry :=
  if made.fate = .applied then { made with fate := .rolledBack } else made

/-- What the reservation holds: the request, until it is rolled back or released. -/
def charge (made : ReservationEntry) (dim : Dimension) : Nat :=
  if made.fate = .applied ∨ made.fate = .committed then (made.request.amount dim).toNat else 0

theorem commit_request (made : ReservationEntry) : made.commit.request = made.request := by
  unfold commit
  split_ifs <;> rfl

theorem charge_commit (made : ReservationEntry) (dim : Dimension) :
    made.commit.charge dim = made.charge dim := by
  unfold commit charge
  split_ifs <;> simp_all

end ReservationEntry

/-- An object that is alive, and the reservation it owns: none, once it was moved from. -/
structure Handle where
  object : ScopedReservation
  owns : Option Nat
deriving DecidableEq, Repr

/-- A ledger, the objects of its clients by name, and all reservations ever made. -/
structure Accounts where
  ledger : ResourceLedger
  handles : ExtTreeMap Nat Handle := ∅
  entries : ExtTreeMap Nat ReservationEntry := ∅

/-- What clients do.  Objects and reservations are named by numbers. -/
inductive ReservationCall where
  | tryReserve (object entry : Nat) (r : ResourceRequest)
  | move (source target : Nat)
  | commit (object : Nat)
  | destroy (object : Nat)
  | release (entry : Nat)
deriving DecidableEq, Repr

namespace Accounts

/-- One call.  A name is new when it is given, and only what exists is used. -/
def step (s : Accounts) : ReservationCall → Accounts
  | .tryReserve object entry r =>
      if s.handles.contains object || s.entries.contains entry then s
      else
        match s.ledger.tryReserve r with
        | .error _ => s
        | .ok (ledger, made) =>
            { ledger := ledger
              handles := s.handles.insert object ⟨made, some entry⟩
              entries := s.entries.insert entry { request := r } }
  | .move source target =>
      match s.handles[source]? with
      | none => s
      | some handle =>
          if s.handles.contains target then s
          else
            { s with
              handles := (s.handles.insert source ⟨handle.object.move.2, none⟩).insert target
                ⟨handle.object.move.1, handle.owns⟩ }
  | .commit object =>
      match s.handles[object]? with
      | none => s
      | some handle =>
          { s with
            handles := s.handles.insert object { handle with object := handle.object.commit }
            entries := OrderedMap.modifyLinked s.entries handle.owns .commit }
  | .destroy object =>
      match s.handles[object]? with
      | none => s
      | some handle =>
          { ledger := handle.object.destroy s.ledger
            handles := s.handles.erase object
            entries := OrderedMap.modifyLinked s.entries handle.owns .abandon }
  | .release entry =>
      match s.entries[entry]? with
      | none => s
      | some made =>
          if made.fate = .committed then
            { s with
              ledger := s.ledger.release made.request
              entries := s.entries.insert entry { made with fate := .released } }
          else s

/-- What the reservations hold that are neither rolled back nor released. -/
def outstanding (s : Accounts) (dim : Dimension) : Nat :=
  OrderedMap.total (fun _ made => made.charge dim) s.entries

/-- A reservation that is made computes no sum that reaches `2 ^ 64`. -/
def Accountable (s : Accounts) : ReservationCall → Prop
  | .tryReserve _ _ r => s.ledger.canReserve r = true → s.ledger.used.Accountable r
  | _ => True

end Accounts

/-! ## Destructors -/

namespace ScopedReservation

/-- The destructor releases. -/
def rollsBack (o : ScopedReservation) : Bool := o.attached && o.applied && !o.committed

variable (o : ScopedReservation) (ledger : ResourceLedger)

theorem destroy_eq :
    o.destroy ledger = if o.rollsBack then ledger.release o.request else ledger :=
  rfl

theorem destroy_cap : (o.destroy ledger).cap = ledger.cap := by
  rw [destroy_eq]
  split_ifs
  · exact ledger.release_cap o.request
  · rfl

theorem destroy_amount_le (dim : Dimension) :
    ((o.destroy ledger).used.amount dim).toNat ≤ (ledger.used.amount dim).toNat := by
  rw [destroy_eq]
  split_ifs
  · exact ledger.release_amount_le o.request dim
  · exact Nat.le_refl _

end ScopedReservation

/-! ## The invariant -/

/-- The flags of an object that owns a reservation. -/
structure ScopedReservation.Holds (o : ScopedReservation) (made : ReservationEntry) : Prop where
  attached : o.attached = true
  applied : o.applied = true
  request : o.request = made.request
  pending : o.committed = false → made.fate = .applied
  settled : o.committed = true → made.fate = .committed ∨ made.fate = .released

theorem ScopedReservation.Holds.commit {o : ScopedReservation} {made : ReservationEntry}
    (holds : o.Holds made) : o.commit.Holds made.commit where
  attached := holds.attached
  applied := holds.applied
  request := by
    rw [made.commit_request]
    exact holds.request
  pending := fun pending => by cases pending
  settled := by
    intro _
    unfold ReservationEntry.commit
    cases flag : o.committed with
    | false => rw [if_pos (holds.pending flag)]; exact .inl rfl
    | true => rcases holds.settled flag with fate | fate <;> simp [fate]

/-- The flags of an object agree with what it owns. -/
def Handle.Agrees (entries : ExtTreeMap Nat ReservationEntry) (handle : Handle) : Prop :=
  match handle.owns with
  | none => handle.object.applied = false
  | some entry => ∃ made, entries[entry]? = some made ∧ handle.object.Holds made

theorem Handle.Agrees.of_entries {entries entries' : ExtTreeMap Nat ReservationEntry}
    {handle : Handle} (agrees : handle.Agrees entries)
    (kept : ∀ (entry : Nat) (made : ReservationEntry), handle.owns = some entry →
      entries[entry]? = some made → entries'[entry]? = some made) : handle.Agrees entries' := by
  unfold Handle.Agrees at agrees ⊢
  split
  · next none => rwa [none] at agrees
  · next entry owned =>
      rw [owned] at agrees
      obtain ⟨made, present, holds⟩ := agrees
      exact ⟨made, kept entry made owned present, holds⟩

theorem Handle.Agrees.commit {entries : ExtTreeMap Nat ReservationEntry} {handle : Handle}
    (agrees : handle.Agrees entries) :
    Handle.Agrees (OrderedMap.modifyLinked entries handle.owns .commit)
      { handle with object := handle.object.commit } := by
  obtain ⟨object, owns⟩ := handle
  cases owns with
  | none => exact agrees
  | some entry =>
      obtain ⟨made, recorded, holds⟩ := agrees
      refine ⟨made.commit, ?_, holds.commit⟩
      rw [OrderedMap.lookup_modifyLinked, if_pos rfl, recorded]
      rfl

/-- The flags agree with the history, and the ledger with the reservations. -/
structure Accounts.Sound (cap : ResourceProfile) (s : Accounts) : Prop where
  capacity : s.ledger.cap = cap
  balance : ∀ dim, (s.ledger.used.amount dim).toNat = s.outstanding dim
  bounded : ∀ dim, cap.amount dim ≠ 0 →
    (s.ledger.used.amount dim).toNat ≤ (cap.amount dim).toNat
  agrees : ∀ (object : Nat) (handle : Handle), s.handles[object]? = some handle →
    handle.Agrees s.entries
  sole : ∀ (object object' : Nat) (handle handle' : Handle) (entry : Nat),
    s.handles[object]? = some handle →
    s.handles[object']? = some handle' → handle.owns = some entry →
    handle'.owns = some entry → object = object'

namespace Accounts

variable {cap : ResourceProfile} {s : Accounts}

theorem sound_start (cap : ResourceProfile) : Sound cap { ledger := { cap := cap } } where
  capacity := rfl
  balance dim := by
    have nothing : outstanding { ledger := { cap := cap } } dim = 0 :=
      OrderedMap.total_eq_zero_iff.mpr fun entry made present => by simp at present
    rw [nothing]
    cases dim <;> rfl
  bounded dim _ := by cases dim <;> exact Nat.zero_le _
  agrees object handle present := by simp at present
  sole object _ handle _ _ present := by simp at present

/-- A reservation that still holds its request is covered by the ledger. -/
theorem Sound.covers (sound : Sound cap s) {entry : Nat} {made : ReservationEntry}
    (present : s.entries[entry]? = some made)
    (holds : made.fate = .applied ∨ made.fate = .committed) :
    s.ledger.underflows made.request = false := by
  rw [ResourceLedger.underflows_eq_false_iff]
  intro dim
  rw [sound.balance dim]
  have share := OrderedMap.weight_le_total (fun _ made => made.charge dim) present
  rwa [ReservationEntry.charge, if_pos holds] at share

theorem Sound.owner (sound : Sound cap s) {object entry : Nat} {handle : Handle}
    (present : s.handles[object]? = some handle) (owned : handle.owns = some entry) :
    ∃ made, s.entries[entry]? = some made ∧ handle.object.Holds made := by
  have agrees := sound.agrees object handle present
  rwa [Handle.Agrees, owned] at agrees

/-- A change of the reservation that one object owns concerns no other object. -/
theorem Sound.agrees_modifyLinked (sound : Sound cap s) {object other : Nat}
    {handle handle' : Handle} (present : s.handles[object]? = some handle)
    (present' : s.handles[other]? = some handle') (different : other ≠ object)
    (change : ReservationEntry → ReservationEntry) :
    handle'.Agrees (OrderedMap.modifyLinked s.entries handle.owns change) := by
  refine (sound.agrees other handle' present').of_entries fun entry made owned recorded => ?_
  rw [OrderedMap.lookup_modifyLinked, if_neg, recorded]
  intro owned'
  exact different (sound.sole other object handle' handle entry present' present owned owned')

/-! ## Calls -/

theorem Sound.tryReserve (sound : Sound cap s) (object entry : Nat) (r : ResourceRequest)
    (accountable : s.ledger.canReserve r = true → s.ledger.used.Accountable r) :
    Sound cap (s.step (.tryReserve object entry r)) := by
  simp only [step]
  split_ifs with taken
  · exact sound
  · rw [Bool.or_eq_true, not_or, Bool.not_eq_true, Bool.not_eq_true,
      OrderedMap.contains_eq_false_iff, OrderedMap.contains_eq_false_iff] at taken
    obtain ⟨free, unmade⟩ := taken
    cases reserved : s.ledger.tryReserve r with
    | error => exact sound
    | ok result =>
        obtain ⟨ledger, made⟩ := result
        obtain ⟨admitted, rfl, rfl⟩ :=
          (ResourceLedger.tryReserve_eq_ok_iff ledger made).mp reserved
        have sums := accountable admitted
        have fits := ((s.ledger.canReserve_eq_true_iff r).mp admitted).fits sums
        refine ⟨sound.capacity, fun dim => ?_, fun dim bounds => ?_, ?_, ?_⟩
        · have added := OrderedMap.total_insert (fun _ made => made.charge dim) s.entries entry
            { request := r }
          rw [unmade] at added
          change ((s.ledger.apply r).used.amount dim).toNat = _
          rw [ResourceLedger.apply_demand sums, Usage.demand, sound.balance dim]
          exact added.symm
        · have fit := fits dim
          rw [sound.capacity, if_neg bounds] at fit
          exact (ResourceLedger.apply_demand sums dim).trans_le fit
        · intro other handle present
          rw [OrderedMap.lookup_insert] at present
          split_ifs at present with same
          · cases present
            refine ⟨{ request := r }, ?_, rfl, rfl, rfl, fun _ => rfl, fun committed => ?_⟩
            · rw [OrderedMap.lookup_insert, if_pos rfl]
            · cases committed
          · refine (sound.agrees other handle present).of_entries fun owned old _ recorded => ?_
            rw [OrderedMap.lookup_insert, if_neg, recorded]
            rintro rfl
            rw [unmade] at recorded
            cases recorded
        · have unowned : ∀ (other : Nat) (handle : Handle), s.handles[other]? = some handle →
              handle.owns ≠ some entry := by
            intro other handle present owned
            obtain ⟨made, recorded, -⟩ := sound.owner present owned
            rw [unmade] at recorded
            cases recorded
          intro one other handle handle' owned present present' owns owns'
          rw [OrderedMap.lookup_insert] at present present'
          split_ifs at present present' with same same'
          · exact same.symm.trans same'
          · cases present
            cases owns
            exact (unowned other handle' present' owns').elim
          · cases present'
            cases owns'
            exact (unowned one handle present owns).elim
          · exact sound.sole one other handle handle' owned present present' owns owns'

theorem Sound.move (sound : Sound cap s) (source target : Nat) :
    Sound cap (s.step (.move source target)) := by
  cases found : s.handles[source]? with
  | none => simpa only [step, found] using sound
  | some handle =>
      simp only [step, found]
      split_ifs with taken
      · exact sound
      · rw [Bool.not_eq_true, OrderedMap.contains_eq_false_iff] at taken
        refine ⟨sound.capacity, sound.balance, sound.bounded, ?_, ?_⟩
        · intro object moved present
          rw [OrderedMap.lookup_insert, OrderedMap.lookup_insert] at present
          split_ifs at present with new old
          · cases present
            exact sound.agrees source handle found
          · cases present
            exact rfl
          · exact sound.agrees object moved present
        · -- Whoever owns a reservation now is the new object or had it before.
          have before : ∀ (object : Nat) (moved : Handle) (entry : Nat),
              ((s.handles.insert source ⟨handle.object.move.2, none⟩).insert target
                ⟨handle.object.move.1, handle.owns⟩)[object]? = some moved →
              moved.owns = some entry →
              object = target ∧ handle.owns = some entry ∨
                object ≠ source ∧ s.handles[object]? = some moved := by
            intro object moved entry present owns
            rw [OrderedMap.lookup_insert, OrderedMap.lookup_insert] at present
            split_ifs at present with new old
            · cases present
              exact .inl ⟨new.symm, owns⟩
            · cases present
              cases owns
            · exact .inr ⟨fun same => old same.symm, present⟩
          intro one other first second entry present present' owns owns'
          rcases before one first entry present owns with ⟨rfl, owner⟩ | ⟨away, kept⟩ <;>
            rcases before other second entry present' owns' with ⟨rfl, owner'⟩ | ⟨away', kept'⟩
          · rfl
          · exact (away' (sound.sole other source second handle entry kept' found owns' owner)).elim
          · exact (away (sound.sole one source first handle entry kept found owns owner')).elim
          · exact sound.sole one other first second entry kept kept' owns owns'

theorem Sound.commit (sound : Sound cap s) (object : Nat) :
    Sound cap (s.step (.commit object)) := by
  cases found : s.handles[object]? with
  | none => simpa only [step, found] using sound
  | some handle =>
      simp only [step, found]
      refine ⟨sound.capacity, fun dim => ?_, sound.bounded, ?_, ?_⟩
      · rw [sound.balance dim]
        exact (OrderedMap.total_modifyLinked_of_same (fun _ made => made.charge dim)
          s.entries handle.owns fun _ made => made.charge_commit dim).symm
      · intro other handle' present
        rw [OrderedMap.lookup_insert] at present
        split_ifs at present with same
        · cases present
          exact (sound.agrees object handle found).commit
        · exact sound.agrees_modifyLinked found present (Ne.symm same) _
      · -- The object owns what it owned before.
        have before : ∀ (other : Nat) (handle' : Handle),
            (s.handles.insert object { handle with object := handle.object.commit })[other]? =
              some handle' →
            ∃ old, s.handles[other]? = some old ∧ old.owns = handle'.owns := by
          intro other handle' present
          rw [OrderedMap.lookup_insert] at present
          split_ifs at present with same
          · cases present
            exact ⟨handle, same ▸ found, rfl⟩
          · exact ⟨handle', present, rfl⟩
        intro one other first second entry present present' owns owns'
        obtain ⟨old, kept, same⟩ := before one first present
        obtain ⟨old', kept', same'⟩ := before other second present'
        exact sound.sole one other old old' entry kept kept' (same.trans owns) (same'.trans owns')

/-- The destructor gives back what its object's reservation held. -/
theorem Sound.destroy_balance (sound : Sound cap s) {object : Nat} {handle : Handle}
    (found : s.handles[object]? = some handle) (dim : Dimension) :
    ((handle.object.destroy s.ledger).used.amount dim).toNat =
      OrderedMap.total (fun _ made => made.charge dim)
        (OrderedMap.modifyLinked s.entries handle.owns .abandon) := by
  cases owned : handle.owns with
  | none =>
      have idle := sound.agrees object handle found
      rw [Handle.Agrees, owned] at idle
      have stays : handle.object.rollsBack = false := by simp [ScopedReservation.rollsBack, idle]
      rw [ScopedReservation.destroy_eq, stays]
      exact sound.balance dim
  | some entry =>
      obtain ⟨made, recorded, holds⟩ := sound.owner found owned
      have trade := OrderedMap.total_modify (fun _ made => made.charge dim) recorded .abandon
      change _ = OrderedMap.total _ (s.entries.modify entry .abandon)
      have whole := sound.balance dim
      unfold outstanding at whole
      cases flag : handle.object.committed with
      | false =>
          have fate := holds.pending flag
          have covered := sound.covers recorded (.inl fate)
          have rolls : handle.object.rollsBack = true := by
            simp [ScopedReservation.rollsBack, holds.attached, holds.applied, flag]
          have before : made.charge dim = (made.request.amount dim).toNat := by
            simp [ReservationEntry.charge, fate]
          have after : made.abandon.charge dim = 0 := by
            simp [ReservationEntry.charge, ReservationEntry.abandon, fate]
          rw [ScopedReservation.destroy_eq, if_pos rolls, holds.request,
            ResourceLedger.release_amount covered]
          rw [before, after] at trade
          omega
      | true =>
          have stays : handle.object.rollsBack = false := by
            simp [ScopedReservation.rollsBack, flag]
          have same : made.abandon = made := by
            unfold ReservationEntry.abandon
            rcases holds.settled flag with fate | fate <;> simp [fate]
          rw [ScopedReservation.destroy_eq, stays, if_neg (by simp)]
          rw [same] at trade
          omega

theorem Sound.destroy (sound : Sound cap s) (object : Nat) :
    Sound cap (s.step (.destroy object)) := by
  cases found : s.handles[object]? with
  | none => simpa only [step, found] using sound
  | some handle =>
      have elsewhere : ∀ (other : Nat) (handle' : Handle),
          (s.handles.erase object)[other]? = some handle' →
          other ≠ object ∧ s.handles[other]? = some handle' := by
        intro other handle' present
        rw [ExtTreeMap.getElem?_erase] at present
        split_ifs at present with same
        exact ⟨fun equal => same (by simp [equal]), present⟩
      simp only [step, found]
      refine ⟨?_, fun dim => ?_, fun dim bounds => ?_, ?_, ?_⟩
      · rw [ScopedReservation.destroy_cap]
        exact sound.capacity
      · exact sound.destroy_balance found dim
      · exact (handle.object.destroy_amount_le s.ledger dim).trans (sound.bounded dim bounds)
      · intro other handle' present
        obtain ⟨different, present⟩ := elsewhere other handle' present
        exact sound.agrees_modifyLinked found present different _
      · intro one other first second entry present present' owns owns'
        exact sound.sole one other first second entry (elsewhere one first present).2
          (elsewhere other second present').2 owns owns'

theorem Sound.release (sound : Sound cap s) (entry : Nat) :
    Sound cap (s.step (.release entry)) := by
  cases found : s.entries[entry]? with
  | none => simpa only [step, found] using sound
  | some made =>
      simp only [step, found]
      split_ifs with fate
      · refine ⟨?_, fun dim => ?_, fun dim bounds => ?_, ?_, sound.sole⟩
        · rw [ResourceLedger.release_cap]
          exact sound.capacity
        · have trade := OrderedMap.total_insert (fun _ made => made.charge dim) s.entries entry
            { made with fate := .released }
          have before : made.charge dim = (made.request.amount dim).toNat := by
            simp [ReservationEntry.charge, fate]
          have after : ReservationEntry.charge { made with fate := .released } dim = 0 := by
            simp [ReservationEntry.charge]
          have whole := sound.balance dim
          unfold outstanding at whole ⊢
          dsimp only
          rw [found, Option.elim_some, before, after] at trade
          rw [ResourceLedger.release_amount (sound.covers found (.inr fate))]
          omega
        · exact (s.ledger.release_amount_le made.request dim).trans (sound.bounded dim bounds)
        · intro object handle present
          cases owned : handle.owns with
          | none =>
              exact (sound.agrees object handle present).of_entries fun _ _ owns => by
                rw [owned] at owns
                cases owns
          | some entry' =>
              obtain ⟨made', recorded, holds⟩ := sound.owner present owned
              rw [Handle.Agrees, owned]
              by_cases same : entry = entry'
              · rw [← same, found] at recorded
                cases recorded
                refine ⟨{ made with fate := .released }, ?_, holds.attached, holds.applied,
                  holds.request, fun pending => ?_, fun _ => .inr rfl⟩
                · rw [OrderedMap.lookup_insert, if_pos same]
                · have applied := holds.pending pending
                  rw [fate] at applied
                  cases applied
              · exact ⟨made', by rw [OrderedMap.lookup_insert, if_neg same, recorded], holds⟩
      · exact sound

theorem Sound.step (sound : Sound cap s) (call : ReservationCall)
    (accountable : s.Accountable call) : Sound cap (s.step call) := by
  cases call with
  | tryReserve object entry r => exact sound.tryReserve object entry r accountable
  | move source target => exact sound.move source target
  | commit object => exact sound.commit object
  | destroy object => exact sound.destroy object
  | release entry => exact sound.release entry

/-! ## Runs -/

/-- What clients rely on at every point. -/
structure Exact (cap : ResourceProfile) (s : Accounts) : Prop where
  balance : ∀ dim, (s.ledger.used.amount dim).toNat = s.outstanding dim
  bounded : ∀ dim, cap.amount dim ≠ 0 →
    (s.ledger.used.amount dim).toNat ≤ (cap.amount dim).toNat
  rejected : ∀ object entry r, s.ledger.canReserve r = false →
    s.step (.tryReserve object entry r) = s
  /-- No destructor is stopped by the underflow guard. -/
  rollbacks : ∀ (object : Nat) (handle : Handle), s.handles[object]? = some handle →
    handle.object.rollsBack = true → s.ledger.underflows handle.object.request = false
  /-- Nor is the release of a committed reservation. -/
  releases : ∀ (entry : Nat) (made : ReservationEntry), s.entries[entry]? = some made →
    made.fate = .committed → s.ledger.underflows made.request = false

theorem step_rejected {r : ResourceRequest} (rejected : s.ledger.canReserve r = false)
    (object entry : Nat) : s.step (.tryReserve object entry r) = s := by
  simp [Accounts.step, ResourceLedger.tryReserve, rejected]

theorem Sound.exact (sound : Sound cap s) : Exact cap s where
  balance := sound.balance
  bounded := sound.bounded
  rejected object entry _ rejected := step_rejected rejected object entry
  rollbacks := by
    intro object handle present rolls
    rw [ScopedReservation.rollsBack, Bool.and_eq_true, Bool.and_eq_true, Bool.not_eq_true']
      at rolls
    obtain ⟨⟨-, applied⟩, pending⟩ := rolls
    cases owned : handle.owns with
    | none =>
        have idle := sound.agrees object handle present
        rw [Handle.Agrees, owned] at idle
        rw [applied] at idle
        cases idle
    | some entry =>
        obtain ⟨made, recorded, holds⟩ := sound.owner present owned
        rw [holds.request]
        exact sound.covers recorded (.inl (holds.pending pending))
  releases _ _ recorded fate := sound.covers recorded (.inr fate)

/--
The ledger is exact after every interleaving of reservations, moves, commits,
destructions and releases, as long as no reservation computes a sum that reaches
`2 ^ 64`.
-/
theorem ledger_exact (cap : ResourceProfile) (calls : List ReservationCall)
    (accountable : TransitionRun.Every step Accountable { ledger := { cap := cap } } calls) :
    Exact cap (TransitionRun.run step { ledger := { cap := cap } } calls) := by
  refine Sound.exact (TransitionRun.run_invariant (Sound cap) ?_ (sound_start cap) accountable)
  intro s call sums sound
  exact sound.step call sums

/-- One reservation is moved, committed and released, another one rolled back. -/
def sampleCalls : List ReservationCall :=
  [.tryReserve 0 0 { memoryBytes := 512 }, .move 0 1, .commit 1, .destroy 0,
    .tryReserve 2 1 {}, .release 0, .destroy 1, .destroy 2]

theorem ledger_exact_sample :
    Exact { memoryBytes := 1024 }
      (TransitionRun.run step { ledger := { cap := { memoryBytes := 1024 } } } sampleCalls) := by
  refine ledger_exact { memoryBytes := 1024 } sampleCalls
    ⟨?_, trivial, trivial, trivial, ?_, trivial, trivial, trivial, trivial⟩
  · intro _ dim
    cases dim <;> decide +kernel
  · intro _ dim
    cases dim <;> decide +kernel

end Accounts

end DPUFabric
