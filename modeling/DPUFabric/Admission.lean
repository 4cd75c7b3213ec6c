import DPUFabric.HardConstraints

/-!
# Admission with sums that wrap

The ledger and the evaluation admit a request when no bound is passed by the sum of
what is used and what is asked for.  The sum is taken in 64 bits.  So the tests are
right about the amounts as long as no sum reaches `2 ^ 64`, or another bound refuses
the request anyway.
-/

namespace DPUFabric

/-- What is used and what is asked for, together. -/
def Usage.demand (used : Usage) (r : ResourceRequest) (dim : Dimension) : Nat :=
  (used.amount dim).toNat + (r.amount dim).toNat

/-- The demand passes no bound, and can be accounted where there is none. -/
def ResourceProfile.Fits (cap : ResourceProfile) (used : Usage) (r : ResourceRequest) : Prop :=
  ∀ dim, if cap.amount dim = 0 then used.demand r dim < 2 ^ 64
    else used.demand r dim ≤ (cap.amount dim).toNat

/-- No sum wraps. -/
def Usage.Accountable (used : Usage) (r : ResourceRequest) : Prop :=
  ∀ dim, used.demand r dim < 2 ^ 64

/-- Some bound is passed by the sum as it is computed. -/
def ResourceProfile.Refuses (cap : ResourceProfile) (used : Usage) (r : ResourceRequest) :
    Prop :=
  ∃ dim, cap.amount dim ≠ 0 ∧ (cap.amount dim).toNat < used.demand r dim % 2 ^ 64

/-- Whoever is admitted fits, and is charged what was asked for. -/
structure ResourceLedger.AdmitsExactly (ledger : ResourceLedger) (r : ResourceRequest) :
    Prop where
  canReserve : ledger.canReserve r = true → ledger.cap.Fits ledger.used r
  canAdmit : canAdmit ledger.cap ledger.used r = true → ledger.cap.Fits ledger.used r
  tryReserve : ∀ ledger' reservation, ledger.tryReserve r = .ok (ledger', reservation) →
    ∀ dim, (ledger'.used.amount dim).toNat = ledger.used.demand r dim

section Sums

variable {cap : ResourceProfile} {used : Usage} {r : ResourceRequest}

theorem ResourceProfile.admits_iff_demand :
    cap.Admits used r ↔
      ∀ dim, cap.amount dim = 0 ∨ used.demand r dim % 2 ^ 64 ≤ (cap.amount dim).toNat := by
  refine forall_congr' fun dim => or_congr_right ?_
  rw [UInt64.le_iff_toNat_le, UInt64.toNat_add]
  rfl

theorem ResourceProfile.admits_iff_not_refuses : cap.Admits used r ↔ ¬ cap.Refuses used r := by
  rw [admits_iff_demand, Refuses]
  push Not
  exact forall_congr' fun dim => Classical.or_iff_not_imp_left

theorem ResourceProfile.Admits.fits (admits : cap.Admits used r)
    (accountable : used.Accountable r) : cap.Fits used r := by
  intro dim
  have below := accountable dim
  rcases admits_iff_demand.mp admits dim with unbounded | bounded
  · rwa [if_pos unbounded]
  · rw [Nat.mod_eq_of_lt below] at bounded
    split
    · exact below
    · exact bounded

theorem ResourceProfile.Fits.accountable (fits : cap.Fits used r) : used.Accountable r := by
  intro dim
  have fit := fits dim
  split at fit
  · exact fit
  · exact fit.trans_lt (cap.amount dim).toNat_lt

end Sums

namespace ResourceLedger

variable {ledger : ResourceLedger} {r : ResourceRequest}

/-- A reservation charges exactly what was asked for, unless a sum wraps. -/
theorem apply_demand (accountable : ledger.used.Accountable r) (dim : Dimension) :
    ((ledger.apply r).used.amount dim).toNat = ledger.used.demand r dim := by
  rw [apply_amount]
  exact Nat.mod_eq_of_lt (accountable dim)

theorem tryReserve_eq_ok_iff (ledger' : ResourceLedger) (reservation : ScopedReservation) :
    ledger.tryReserve r = .ok (ledger', reservation) ↔
      ledger.canReserve r = true ∧ ledger' = ledger.apply r ∧
        reservation = { attached := true, request := r, applied := true } := by
  unfold tryReserve
  split_ifs with admitted <;> simp [admitted, eq_comm]

/--
Admission is exact when no sum reaches `2 ^ 64`, or when the sums as they are
computed pass a bound, and only then.
-/
theorem admitsExactly_iff (ledger : ResourceLedger) (r : ResourceRequest) :
    ledger.AdmitsExactly r ↔ ledger.used.Accountable r ∨ ledger.cap.Refuses ledger.used r := by
  constructor
  · intro exact_admission
    by_cases refused : ledger.cap.Refuses ledger.used r
    · exact .inr refused
    · have admitted := (ledger.canReserve_eq_true_iff r).mpr
        (ResourceProfile.admits_iff_not_refuses.mpr refused)
      exact .inl (exact_admission.canReserve admitted).accountable
  · intro condition
    have fits : ledger.cap.Admits ledger.used r → ledger.cap.Fits ledger.used r := by
      intro admits
      rcases condition with accountable | refused
      · exact admits.fits accountable
      · exact (ResourceProfile.admits_iff_not_refuses.mp admits refused).elim
    refine ⟨fun admitted => fits ((ledger.canReserve_eq_true_iff r).mp admitted),
      fun admitted => fits ((canAdmit_eq_true_iff _ _ _).mp admitted), ?_⟩
    intro ledger' reservation reserved dim
    obtain ⟨admitted, rfl, -⟩ := (tryReserve_eq_ok_iff ledger' reservation).mp reserved
    exact apply_demand (fits ((ledger.canReserve_eq_true_iff r).mp admitted)).accountable dim

/-- One byte of 1024 is in use, and a request for the whole address space is admitted. -/
theorem not_admitsExactly :
    ∃ (ledger charged : ResourceLedger) (r : ResourceRequest)
      (first second : ScopedReservation),
      ResourceLedger.tryReserve { cap := { memoryBytes := 1024 } } { memoryBytes := 1 } =
        .ok (ledger, first) ∧
      ledger.canReserve r = true ∧ canAdmit ledger.cap ledger.used r = true ∧
      ¬ ledger.cap.Fits ledger.used r ∧
      ledger.tryReserve r = .ok (charged, second) ∧ charged.used.memoryBytes = 0 := by
  let ledger : ResourceLedger := { cap := { memoryBytes := 1024 } }
  let charged := ledger.apply { memoryBytes := 1 }
  let r : ResourceRequest := { memoryBytes := 18446744073709551615 }
  have first : ledger.tryReserve { memoryBytes := 1 } = .ok (charged, _) :=
    (tryReserve_eq_ok_iff _ _).mpr ⟨by decide, rfl, rfl⟩
  have second : charged.tryReserve r = .ok (charged.apply r, _) :=
    (tryReserve_eq_ok_iff _ _).mpr ⟨by decide, rfl, rfl⟩
  refine ⟨charged, _, r, _, _, first, by decide, by decide, ?_, second, by decide⟩
  intro fits
  exact absurd (fits .memoryBytes) (by decide)

end ResourceLedger

end DPUFabric
