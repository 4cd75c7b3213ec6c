import DPUFabric.Vocabulary

/-!
# Resource profiles and the local accounting ledger

A ledger accounts for five independent dimensions in 64-bit arithmetic.  A
zero capacity is no bound.  Additions wrap, and `release` silently does
nothing when it would underflow in any dimension.

`Dimension` and the `amount` functions only give the five fields a common
name, so that facts can be stated once for all of them.
-/

namespace DPUFabric

/-- The accounted dimensions. -/
inductive Dimension where
  | memoryBytes | queues | functions | slots | contexts
deriving DecidableEq, Repr

/-- Capacities; zero is unbounded. -/
structure ResourceProfile where
  memoryBytes : UInt64 := 0
  queues : UInt64 := 0
  functions : UInt64 := 0
  slots : UInt64 := 0
  contexts : UInt64 := 0
deriving DecidableEq, Repr

structure ResourceRequest where
  memoryBytes : UInt64 := 0
  queues : UInt64 := 0
  functions : UInt64 := 0
  slots : UInt64 := 1
  contexts : UInt64 := 1
deriving DecidableEq, Repr

/-- `ResourceLedger::Usage`. -/
structure Usage where
  memoryBytes : UInt64 := 0
  queues : UInt64 := 0
  functions : UInt64 := 0
  slots : UInt64 := 0
  contexts : UInt64 := 0
deriving DecidableEq, Repr

theorem Dimension.forall_iff {holds : Dimension → Prop} :
    (∀ dim, holds dim) ↔
      holds .memoryBytes ∧ holds .queues ∧ holds .functions ∧ holds .slots ∧
        holds .contexts := by
  constructor
  · intro all
    exact ⟨all _, all _, all _, all _, all _⟩
  · rintro ⟨memoryBytes, queues, functions, slots, contexts⟩ dim
    cases dim <;> assumption

def ResourceProfile.amount (profile : ResourceProfile) : Dimension → UInt64
  | .memoryBytes => profile.memoryBytes
  | .queues => profile.queues
  | .functions => profile.functions
  | .slots => profile.slots
  | .contexts => profile.contexts

def ResourceRequest.amount (request : ResourceRequest) : Dimension → UInt64
  | .memoryBytes => request.memoryBytes
  | .queues => request.queues
  | .functions => request.functions
  | .slots => request.slots
  | .contexts => request.contexts

def Usage.amount (usage : Usage) : Dimension → UInt64
  | .memoryBytes => usage.memoryBytes
  | .queues => usage.queues
  | .functions => usage.functions
  | .slots => usage.slots
  | .contexts => usage.contexts

/-- The sum of what is used and what is asked for, which wraps, passes no bound. -/
def ResourceProfile.Admits (cap : ResourceProfile) (used : Usage) (r : ResourceRequest) :
    Prop :=
  ∀ dim, cap.amount dim = 0 ∨ used.amount dim + r.amount dim ≤ cap.amount dim

/-- Every bound of `cap` is also one of `cap'`, and no lower there. -/
def ResourceProfile.Covers (cap cap' : ResourceProfile) : Prop :=
  ∀ dim, cap.amount dim = 0 ∨ cap'.amount dim ≠ 0 ∧ cap'.amount dim ≤ cap.amount dim

theorem ResourceProfile.Covers.refl (cap : ResourceProfile) : cap.Covers cap := by
  intro dim
  by_cases unbounded : cap.amount dim = 0
  · exact Or.inl unbounded
  · exact Or.inr ⟨unbounded, UInt64.le_refl _⟩

theorem ResourceProfile.Admits.of_covers {cap cap' : ResourceProfile} {used : Usage}
    {r : ResourceRequest} (admits : cap'.Admits used r) (covers : cap.Covers cap') :
    cap.Admits used r := by
  intro dim
  rcases covers dim with unbounded | ⟨bounded, lower⟩
  · exact Or.inl unbounded
  · have fits := (admits dim).resolve_left bounded
    exact Or.inr (UInt64.le_trans fits lower)

/-- A capacity profile with the amounts in use. -/
structure ResourceLedger where
  cap : ResourceProfile
  used : Usage := {}
deriving DecidableEq, Repr

namespace ResourceLedger

def current (ledger : ResourceLedger) : Usage := ledger.used

def canReserve (ledger : ResourceLedger) (r : ResourceRequest) : Bool :=
  let cap := ledger.cap
  let used := ledger.used
  if cap.memoryBytes ≠ 0 ∧ used.memoryBytes + r.memoryBytes > cap.memoryBytes then false
  else if cap.queues ≠ 0 ∧ used.queues + r.queues > cap.queues then false
  else if cap.functions ≠ 0 ∧ used.functions + r.functions > cap.functions then false
  else if cap.slots ≠ 0 ∧ used.slots + r.slots > cap.slots then false
  else if cap.contexts ≠ 0 ∧ used.contexts + r.contexts > cap.contexts then false
  else true

/-- `apply_`: every addition wraps. -/
def apply (ledger : ResourceLedger) (r : ResourceRequest) : ResourceLedger :=
  { ledger with
    used :=
      { memoryBytes := ledger.used.memoryBytes + r.memoryBytes
        queues := ledger.used.queues + r.queues
        functions := ledger.used.functions + r.functions
        slots := ledger.used.slots + r.slots
        contexts := ledger.used.contexts + r.contexts } }

/-- The defensive test of `release_`: some dimension would underflow. -/
def underflows (ledger : ResourceLedger) (r : ResourceRequest) : Bool :=
  ledger.used.memoryBytes < r.memoryBytes || ledger.used.queues < r.queues ||
    ledger.used.functions < r.functions || ledger.used.slots < r.slots ||
    ledger.used.contexts < r.contexts

/-- `release_`, and `release`, which only calls it. -/
def release (ledger : ResourceLedger) (r : ResourceRequest) : ResourceLedger :=
  if ledger.underflows r then ledger
  else
    { ledger with
      used :=
        { memoryBytes := ledger.used.memoryBytes - r.memoryBytes
          queues := ledger.used.queues - r.queues
          functions := ledger.used.functions - r.functions
          slots := ledger.used.slots - r.slots
          contexts := ledger.used.contexts - r.contexts } }

end ResourceLedger

/-! ## Scoped reservations -/

/--
A reservation that its destructor rolls back unless it was committed.  `attached`
tells whether `ledger_` points to the ledger or is null.
-/
structure ScopedReservation where
  attached : Bool := false
  request : ResourceRequest := {}
  applied : Bool := false
  committed : Bool := false
deriving DecidableEq, Repr

namespace ScopedReservation

/-- The move constructor: the new object, and what is left of the old one. -/
def move (o : ScopedReservation) : ScopedReservation × ScopedReservation :=
  (o, { o with applied := false, attached := false })

def commit (reservation : ScopedReservation) : ScopedReservation :=
  { reservation with committed := true }

/-- The destructor, which acts on the ledger the reservation points to. -/
def destroy (reservation : ScopedReservation) (ledger : ResourceLedger) :
    ResourceLedger :=
  if reservation.attached && reservation.applied && !reservation.committed then
    ledger.release reservation.request
  else ledger

end ScopedReservation

/-- Acquire a scoped reservation; the ledger is charged at once. -/
def ResourceLedger.tryReserve (ledger : ResourceLedger) (r : ResourceRequest) :
    Except Fault (ResourceLedger × ScopedReservation) :=
  if ledger.canReserve r then
    .ok (ledger.apply r, { attached := true, request := r, applied := true })
  else .error (.error .resourceExhausted "resource budget exceeded")

namespace ResourceLedger

@[simp]
theorem apply_cap (ledger : ResourceLedger) (r : ResourceRequest) :
    (ledger.apply r).cap = ledger.cap :=
  rfl

@[simp]
theorem release_cap (ledger : ResourceLedger) (r : ResourceRequest) :
    (ledger.release r).cap = ledger.cap := by
  unfold release
  split_ifs <;> rfl

theorem canReserve_eq_true_iff (ledger : ResourceLedger) (r : ResourceRequest) :
    ledger.canReserve r = true ↔ ledger.cap.Admits ledger.used r := by
  rw [ResourceProfile.Admits, Dimension.forall_iff, canReserve]
  simp only [ResourceProfile.amount, Usage.amount, ResourceRequest.amount]
  split_ifs with memoryBytes queues functions slots contexts <;>
    simp_all [← UInt64.not_le, Classical.or_iff_not_imp_left]

theorem apply_amount
    (ledger : ResourceLedger) (r : ResourceRequest) (dim : Dimension) :
    ((ledger.apply r).used.amount dim).toNat =
      ((ledger.used.amount dim).toNat + (r.amount dim).toNat) % 2 ^ 64 := by
  cases dim <;>
    simp [apply, Usage.amount, ResourceRequest.amount, UInt64.toNat_add]

theorem underflows_eq_true_iff
    (ledger : ResourceLedger) (r : ResourceRequest) :
    ledger.underflows r = true ↔
      ∃ dim, (ledger.used.amount dim).toNat < (r.amount dim).toNat := by
  simp only [underflows, Bool.or_eq_true, decide_eq_true_eq,
    UInt64.lt_iff_toNat_lt]
  constructor
  · rintro ((((low | low) | low) | low) | low)
    · exact ⟨.memoryBytes, low⟩
    · exact ⟨.queues, low⟩
    · exact ⟨.functions, low⟩
    · exact ⟨.slots, low⟩
    · exact ⟨.contexts, low⟩
  · rintro ⟨dim, low⟩
    cases dim
    · exact Or.inl (Or.inl (Or.inl (Or.inl low)))
    · exact Or.inl (Or.inl (Or.inl (Or.inr low)))
    · exact Or.inl (Or.inl (Or.inr low))
    · exact Or.inl (Or.inr low)
    · exact Or.inr low

theorem underflows_eq_false_iff
    (ledger : ResourceLedger) (r : ResourceRequest) :
    ledger.underflows r = false ↔
      ∀ dim, (r.amount dim).toNat ≤ (ledger.used.amount dim).toNat := by
  rw [← Bool.not_eq_true, underflows_eq_true_iff]
  simp only [not_exists, Nat.not_lt]

theorem release_of_underflow
    {ledger : ResourceLedger} {r : ResourceRequest}
    (low : ledger.underflows r = true) :
    ledger.release r = ledger := by
  rw [release, if_pos low]

/-- Where nothing underflows, `release` subtracts in every dimension. -/
theorem release_amount
    {ledger : ResourceLedger} {r : ResourceRequest}
    (covered : ledger.underflows r = false) (dim : Dimension) :
    ((ledger.release r).used.amount dim).toNat =
      (ledger.used.amount dim).toNat - (r.amount dim).toNat := by
  have enough := (underflows_eq_false_iff ledger r).mp covered dim
  rw [release, if_neg (by simp [covered])]
  cases dim <;>
    exact UInt64.toNat_sub_of_le _ _ (UInt64.le_iff_toNat_le.mpr enough)

/-- A release never raises an amount. -/
theorem release_amount_le
    (ledger : ResourceLedger) (r : ResourceRequest) (dim : Dimension) :
    ((ledger.release r).used.amount dim).toNat ≤
      (ledger.used.amount dim).toNat := by
  cases low : ledger.underflows r with
  | true => rw [release_of_underflow low]
  | false =>
      rw [release_amount low]
      exact Nat.sub_le _ _

/-- The committed temporary of `try_reserve(r).commit()` charges the ledger. -/
theorem tryReserve_commit
    {ledger : ResourceLedger} {r : ResourceRequest}
    (admitted : ledger.canReserve r = true) :
    ∃ reservation, ledger.tryReserve r = .ok (ledger.apply r, reservation) ∧
      reservation.commit.destroy (ledger.apply r) = ledger.apply r := by
  refine ⟨_, by rw [tryReserve, if_pos admitted], ?_⟩
  simp [ScopedReservation.commit, ScopedReservation.destroy]

end ResourceLedger

end DPUFabric
