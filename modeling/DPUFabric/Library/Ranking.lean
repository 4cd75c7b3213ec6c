import Mathlib

/-!
# Rankings

A comparator `before` ranks when it never holds both ways, and when an entry
between two others comes after the first or before the second.  It may leave
entries tied.  The rules build a comparator from parts, and a list sorted by it
begins with an entry that no other one is before.
-/

namespace Ranking

variable {α β : Type*}

/-- The comparator is a strict weak order. -/
structure Ranks (before : α → α → Bool) : Prop where
  asymm : ∀ {a b}, before a b = true → before b a = false
  cotrans : ∀ {a c}, before a c = true → ∀ b, before a b = true ∨ before b c = true

namespace Ranks

variable {before coarse fine : α → α → Bool}

theorem irrefl (ranks : Ranks before) (a : α) : before a a = false := by
  cases self : before a a with
  | false => rfl
  | true => rw [ranks.asymm self] at self; cases self

/-- Entries ranked by a reading of them. -/
theorem comap (ranks : Ranks before) (reading : β → α) :
    Ranks fun a b => before (reading a) (reading b) where
  asymm := ranks.asymm
  cotrans := fun first b => ranks.cotrans first (reading b)

/-- The opposite ranking. -/
theorem flip (ranks : Ranks before) : Ranks fun a b => before b a where
  asymm := ranks.asymm
  cotrans := fun first b => (ranks.cotrans first b).symm

/-- Numbers rank, the smaller first. -/
theorem lt : Ranks fun a b : Nat => decide (a < b) where
  asymm := by
    intro a b smaller
    simp only [decide_eq_true_eq, decide_eq_false_iff_not] at smaller ⊢
    omega
  cotrans := by
    intro a c smaller b
    simp only [decide_eq_true_eq] at smaller ⊢
    omega

/-- A second comparator decides where the first one ties. -/
theorem thenBy (coarse_ranks : Ranks coarse) (fine_ranks : Ranks fine)
    {tied : α → α → Bool}
    (ties : ∀ a b, tied a b = true ↔ coarse a b = false ∧ coarse b a = false) :
    Ranks fun a b => if tied a b then fine a b else coarse a b where
  asymm := by
    intro a b first
    have symm : tied b a = tied a b := Bool.eq_iff_iff.mpr (by rw [ties, ties, and_comm])
    simp only [symm]
    cases same : tied a b with
    | true => exact fine_ranks.asymm (by simpa [same] using first)
    | false => exact coarse_ranks.asymm (by simpa [same] using first)
  cotrans := by
    intro a c first b
    -- A tie on one side passes the order of the pair on to the other side.
    have ab := ties a b
    have bc := ties b c
    have ac := ties a c
    have split := fun {a c} => @coarse_ranks.cotrans a c
    have finer := fun {a c} => @fine_ranks.cotrans a c
    grind

end Ranks

/-- In a sorted list no entry is before an earlier one. -/
theorem pairwise_mergeSort {before : α → α → Bool} (ranks : Ranks before) (entries : List α) :
    (entries.mergeSort fun a b => !before b a).Pairwise fun a b => before b a = false := by
  have sorted : (entries.mergeSort fun a b => !before b a).Pairwise
      fun a b => (!before b a) = true := by
    refine List.pairwise_mergeSort ?_ ?_ entries
    · intro a b c first second
      simp only [Bool.not_eq_true'] at first second ⊢
      cases last : before c a with
      | false => rfl
      | true =>
          rcases ranks.cotrans last b with early | early
          · rw [second] at early
            cases early
          · rw [first] at early
            cases early
    · intro a b
      cases first : before b a with
      | false => rfl
      | true => simp [ranks.asymm first]
  exact sorted.imp fun order => by simpa using order

/-- The first entry of a sorted list is one that no entry is before. -/
theorem head_mergeSort {before : α → α → Bool} (ranks : Ranks before) {entries rest : List α}
    {best : α} (sorted : (entries.mergeSort fun a b => !before b a) = best :: rest) :
    best ∈ entries ∧ ∀ other ∈ entries, before other best = false := by
  have pairwise := pairwise_mergeSort ranks entries
  rw [sorted, List.pairwise_cons] at pairwise
  have members : ∀ other, other ∈ best :: rest ↔ other ∈ entries := by
    intro other
    rw [← sorted, List.mem_mergeSort]
  refine ⟨(members best).mp List.mem_cons_self, fun other listed => ?_⟩
  rcases List.mem_cons.mp ((members other).mpr listed) with rfl | later
  · exact ranks.irrefl other
  · exact pairwise.1 other later

/-- Entries that a filter keeps stay in their order. -/
theorem idxOf_filter_lt_iff [DecidableEq α] {kept : α → Bool} {a b : α} (kept_a : kept a = true)
    (kept_b : kept b = true) (entries : List α) :
    (entries.filter kept).idxOf a < (entries.filter kept).idxOf b ↔
      entries.idxOf a < entries.idxOf b := by
  induction entries with
  | nil => rfl
  | cons entry rest ih =>
      cases keeps : kept entry with
      | true =>
          rw [List.filter_cons_of_pos keeps]
          simp only [List.idxOf_cons]
          cases entry == a <;> cases entry == b <;> simp [ih]
      | false =>
          have other_a : (entry == a) = false := by
            rw [beq_eq_false_iff_ne]
            rintro rfl
            rw [kept_a] at keeps
            cases keeps
          have other_b : (entry == b) = false := by
            rw [beq_eq_false_iff_ne]
            rintro rfl
            rw [kept_b] at keeps
            cases keeps
          rw [List.filter_cons_of_neg (by simp [keeps])]
          simp [List.idxOf_cons, other_a, other_b, ih]

/-- A search finds the entry that comes first among those it looks for. -/
theorem find?_eq_some_of_first [DecidableEq α] {wanted : α → Bool} {entries : List α} {a : α}
    (listed : a ∈ entries) (wants : wanted a = true)
    (first : ∀ b, wanted b = true → entries.idxOf a ≤ entries.idxOf b) :
    entries.find? wanted = some a := by
  induction entries with
  | nil => cases listed
  | cons entry rest ih =>
      by_cases same : entry = a
      · subst same
        exact List.find?_cons_of_pos wants
      · have skips : wanted entry ≠ true := by
          intro wants'
          have ahead := first entry wants'
          rw [List.idxOf_cons_self, List.idxOf_cons_ne _ same] at ahead
          omega
        rw [List.find?_cons_of_neg skips]
        refine ih (List.mem_of_ne_of_mem (Ne.symm same) listed) fun b wants' => ?_
        have ahead := first b wants'
        have other : entry ≠ b := by
          rintro rfl
          exact skips wants'
        rw [List.idxOf_cons_ne _ same, List.idxOf_cons_ne _ other] at ahead
        omega

/--
A search does not depend on the order of one stretch of a list exactly when it
ends before that stretch, or would find only one entry there.
-/
theorem find?_perm_iff (wanted : α → Bool) (first later : List α) (name : β → α)
    (block : List β) :
    (∀ block' : List β, block'.Perm block →
      (first ++ block'.map name ++ later).find? wanted =
        (first ++ block.map name ++ later).find? wanted) ↔
    (∃ a ∈ first, wanted a = true) ∨
      ∀ a ∈ block.map name, ∀ b ∈ block.map name,
        wanted a = true → wanted b = true → a = b := by
  constructor
  · intro same
    rw [or_iff_not_imp_left]
    intro passed a listed b listed' wants wants'
    have ends : first.find? wanted = none :=
      List.find?_eq_none.mpr fun entry member wants => passed ⟨entry, member, wants⟩
    -- Whichever wanted entry of the stretch is put in front is found.
    have front : ∀ entry ∈ block.map name, wanted entry = true →
        (first ++ block.map name ++ later).find? wanted = some entry := by
      intro entry member wants
      obtain ⟨record, listed, rfl⟩ := List.mem_map.mp member
      obtain ⟨ahead, behind, split⟩ := List.append_of_mem listed
      have moved : (record :: (ahead ++ behind)).Perm block := by
        rw [split]
        exact List.perm_middle.symm
      rw [← same _ moved, List.append_assoc, List.find?_append, ends, List.map_cons,
        List.cons_append, List.find?_cons_of_pos wants]
      rfl
    exact Option.some.inj ((front a listed wants).symm.trans (front b listed' wants'))
  · intro only block' rearranged
    simp only [List.find?_append]
    rcases only with ⟨a, listed, wants⟩ | only
    · obtain ⟨found, ends⟩ : ∃ found, first.find? wanted = some found :=
        Option.isSome_iff_exists.mp (List.find?_isSome.mpr ⟨a, listed, wants⟩)
      rw [ends]
      rfl
    · have members : ∀ a, a ∈ block'.map name ↔ a ∈ block.map name :=
        fun a => (rearranged.map name).mem_iff
      have same : (block'.map name).find? wanted = (block.map name).find? wanted := by
        cases found : (block.map name).find? wanted with
        | none =>
            rw [List.find?_eq_none] at found ⊢
            exact fun a listed => found a ((members a).mp listed)
        | some a =>
            have listed := List.mem_of_find?_eq_some found
            have wants := List.find?_some found
            obtain ⟨b, found'⟩ : ∃ b, (block'.map name).find? wanted = some b :=
              Option.isSome_iff_exists.mp
                (List.find?_isSome.mpr ⟨a, (members a).mpr listed, wants⟩)
            have listed' := (members b).mp (List.mem_of_find?_eq_some found')
            rw [found', only a listed b listed' wants (List.find?_some found')]
      rw [same]

end Ranking
