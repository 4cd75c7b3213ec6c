import Mathlib

/-!
# Ordered finite maps: sweeps and totals

Programs keep their tables in ordered maps, walk them in key order and update
entries while they walk.  This module collects the rules such code needs on
top of `Std.ExtTreeMap`:

* `sweep` is a walk over every entry with an accumulated state; and
* `total` adds a weight over all entries.

Two shapes of sweep have a closed form.  A sweep that rewrites the entry it
stands on is a pointwise `map`, and a sweep that modifies entries of another
table through optional links changes exactly the linked entries.
-/

namespace OrderedMap

open Std

universe u v w x

variable {κ : Type u} {α : Type v} {cmp : κ → κ → Ordering}
  [TransCmp cmp] [LawfulEqCmp cmp]

set_option linter.unusedSectionVars false

/-! ## Lookups -/

theorem lookup_insert [DecidableEq κ]
    (table : ExtTreeMap κ α cmp) (key probe : κ) (value : α) :
    (table.insert key value)[probe]? =
      if key = probe then some value else table[probe]? := by
  simp [ExtTreeMap.getElem?_insert]

/-- A write that keeps an old entry. -/
theorem lookup_insertIfNew [DecidableEq κ]
    (table : ExtTreeMap κ α cmp) (key probe : κ) (value : α) :
    (table.insertIfNew key value)[probe]? =
      if key = probe then some (table[probe]?.getD value) else table[probe]? := by
  rw [ExtTreeMap.getElem?_insertIfNew]
  by_cases same : key = probe
  · subst same
    cases found : table[key]? with
    | none =>
        have outside : key ∉ table := by simp [ExtTreeMap.mem_iff_isSome_getElem?, found]
        simp [outside]
    | some old =>
        have member : key ∈ table := by simp [ExtTreeMap.mem_iff_isSome_getElem?, found]
        simp [member]
  · simp [same]

/-- Writes to two keys commute. -/
theorem insert_comm [DecidableEq κ] (table : ExtTreeMap κ α cmp) {key key' : κ}
    (different : key ≠ key') (value value' : α) :
    (table.insert key value).insert key' value' =
      (table.insert key' value').insert key value := by
  ext probe : 1
  simp only [lookup_insert]
  split_ifs with one other
  · exact (different (other.trans one.symm)).elim
  all_goals rfl

theorem insertIfNew_comm [DecidableEq κ] (table : ExtTreeMap κ α cmp) {key key' : κ}
    (different : key ≠ key') (value value' : α) :
    (table.insertIfNew key value).insertIfNew key' value' =
      (table.insertIfNew key' value').insertIfNew key value := by
  ext probe : 1
  simp only [lookup_insertIfNew]
  split_ifs with one other
  · exact (different (other.trans one.symm)).elim
  all_goals rfl

theorem lookup_modify [DecidableEq κ]
    (table : ExtTreeMap κ α cmp) (key probe : κ) (change : α → α) :
    (table.modify key change)[probe]? =
      if key = probe then table[probe]?.map change else table[probe]? := by
  rw [ExtTreeMap.getElem?_modify]
  by_cases same : key = probe
  · subst same
    simp
  · simp [same]

/-- An entry just inserted is modified in place. -/
theorem modify_insert_self [DecidableEq κ]
    (table : ExtTreeMap κ α cmp) (key : κ) (value : α) (change : α → α) :
    (table.insert key value).modify key change = table.insert key (change value) := by
  ext probe : 1
  rw [lookup_modify, lookup_insert, lookup_insert]
  split_ifs <;> rfl

/-- Modify the entry a link points to, if there is a link and an entry. -/
def modifyLinked (table : ExtTreeMap κ α cmp) (link : Option κ)
    (change : α → α) : ExtTreeMap κ α cmp :=
  match link with
  | none => table
  | some key => table.modify key change

theorem lookup_modifyLinked [DecidableEq κ]
    (table : ExtTreeMap κ α cmp) (link : Option κ) (probe : κ)
    (change : α → α) :
    (modifyLinked table link change)[probe]? =
      if link = some probe then table[probe]?.map change
      else table[probe]? := by
  cases link with
  | none => simp [modifyLinked]
  | some key => simp [modifyLinked, lookup_modify]

theorem contains_eq_true_iff
    (table : ExtTreeMap κ α cmp) (key : κ) :
    table.contains key = true ↔ ∃ value, table[key]? = some value := by
  rw [ExtTreeMap.contains_eq_isSome_getElem?, Option.isSome_iff_exists]

theorem contains_eq_false_iff
    (table : ExtTreeMap κ α cmp) (key : κ) :
    table.contains key = false ↔ table[key]? = none := by
  rw [ExtTreeMap.contains_eq_isSome_getElem?, Option.isSome_eq_false_iff,
    Option.isNone_iff_eq_none]

theorem nodup_toList (table : ExtTreeMap κ α cmp) :
    table.toList.Nodup := by
  refine (ExtTreeMap.distinct_keys_toList (t := table)).imp ?_
  rintro left right distinct rfl
  exact distinct ReflCmp.compare_self

/-- A present entry can be taken out in front of the remaining ones. -/
theorem toList_perm_cons_erase
    {table : ExtTreeMap κ α cmp} {key : κ} {value : α}
    (present : table[key]? = some value) :
    table.toList.Perm ((key, value) :: (table.erase key).toList) := by
  classical
  have absent : (key, value) ∉ (table.erase key).toList := by
    simp
  refine (List.perm_ext_iff_of_nodup (nodup_toList table)
    (List.nodup_cons.mpr ⟨absent, nodup_toList _⟩)).mpr ?_
  rintro ⟨probe, found⟩
  rw [List.mem_cons, ExtTreeMap.mem_toList_iff_getElem?_eq_some,
    ExtTreeMap.mem_toList_iff_getElem?_eq_some,
    ExtTreeMap.getElem?_erase]
  by_cases same : key = probe
  · subst same
    simp [present, eq_comm]
  · simp [same, Ne.symm same]

theorem erase_insert_self
    (table : ExtTreeMap κ α cmp) (key : κ) (value : α) :
    (table.insert key value).erase key = table.erase key := by
  classical
  apply ExtTreeMap.ext_getElem?
  intro probe
  rw [ExtTreeMap.getElem?_erase, ExtTreeMap.getElem?_erase, lookup_insert]
  by_cases same : key = probe
  · simp [same]
  · simp [same]

theorem erase_of_absent
    {table : ExtTreeMap κ α cmp} {key : κ}
    (absent : table[key]? = none) :
    table.erase key = table := by
  classical
  apply ExtTreeMap.ext_getElem?
  intro probe
  rw [ExtTreeMap.getElem?_erase]
  by_cases same : key = probe
  · subst same
    simp [absent]
  · simp [same]

/-! ## Write after write -/

section Writes

variable {δ : Type w} {ι : Type u} {τ : Type x}

/-- The element is in the list, and nothing behind it has its key. -/
def IsLast (keyOf : δ → ι) (entries : List δ) (x : δ) : Prop :=
  ∃ before after, entries = before ++ x :: after ∧ ∀ y ∈ after, keyOf y ≠ keyOf x

theorem IsLast.mem {keyOf : δ → ι} {entries : List δ} {x : δ} (last : IsLast keyOf entries x) :
    x ∈ entries := by
  rcases last with ⟨before, after, rfl, -⟩
  simp

theorem isLast_append_singleton {keyOf : δ → ι} {entries : List δ} {x y : δ} :
    IsLast keyOf (entries ++ [y]) x ↔ x = y ∨ IsLast keyOf entries x ∧ keyOf y ≠ keyOf x := by
  constructor
  · rintro ⟨before, after, split, apart⟩
    rcases List.eq_nil_or_concat after with rfl | ⟨init, z, rfl⟩
    · have ends := List.append_inj' split rfl
      exact Or.inl (List.singleton_inj.mp ends.2).symm
    · rw [List.concat_eq_append, ← List.cons_append, ← List.append_assoc] at split
      have ends := List.append_inj' split rfl
      have same := List.singleton_inj.mp ends.2
      refine Or.inr ⟨⟨before, init, ends.1, fun other member => apart other ?_⟩, ?_⟩
      · simp [member]
      · rw [same]
        exact apart z (by simp)
  · rintro (rfl | ⟨⟨before, after, rfl, apart⟩, other⟩)
    · exact ⟨entries, [], rfl, by simp⟩
    · refine ⟨before, after ++ [y], by simp, ?_⟩
      intro z member
      rcases List.mem_append.mp member with early | late
      · exact apart z early
      · rw [List.mem_singleton.mp late]
        exact other

/--
After many writes a key holds what the last write to it left there, or what it
held before if there was none.  The table may be part of a larger state.
-/
theorem lookup_foldl_iff [DecidableEq ι] (lookup : τ → ι → Option α) {write : τ → δ → τ}
    {keyOf : δ → ι} {valueOf : δ → α}
    (writes : ∀ state x key,
      lookup (write state x) key = if keyOf x = key then some (valueOf x) else lookup state key)
    (entries : List δ) (start : τ) (key : ι) (value : α) :
    lookup (entries.foldl write start) key = some value ↔
      (∃ x, IsLast keyOf entries x ∧ keyOf x = key ∧ valueOf x = value) ∨
        (∀ x ∈ entries, keyOf x ≠ key) ∧ lookup start key = some value := by
  induction entries using List.reverseRecOn with
  | nil => simp [IsLast]
  | append_singleton entries y ih =>
      rw [List.foldl_append, List.foldl_cons, List.foldl_nil, writes]
      simp only [isLast_append_singleton]
      split_ifs with here
      · constructor
        · rintro ⟨⟩
          exact Or.inl ⟨y, Or.inl rfl, here, rfl⟩
        · rintro (⟨x, rfl | ⟨-, apart⟩, named, rfl⟩ | ⟨apart, -⟩)
          · rfl
          · exact (apart (here.trans named.symm)).elim
          · exact (apart y (by simp) here).elim
      · rw [ih]
        constructor
        · rintro (⟨x, last, named, holds⟩ | ⟨apart, before⟩)
          · exact Or.inl ⟨x, Or.inr ⟨last, fun same => here (same.trans named)⟩, named, holds⟩
          · refine Or.inr ⟨?_, before⟩
            intro x member
            rcases List.mem_append.mp member with early | late
            · exact apart x early
            · rwa [List.mem_singleton.mp late]
        · rintro (⟨x, rfl | ⟨last, -⟩, named, holds⟩ | ⟨apart, before⟩)
          · exact (here named).elim
          · exact Or.inl ⟨x, last, named, holds⟩
          · exact Or.inr ⟨fun x member => apart x (by simp [member]), before⟩

/-- What holds of every entry after many writes. -/
theorem forall_lookup_foldl_iff [DecidableEq ι] (lookup : τ → ι → Option α) {write : τ → δ → τ}
    {keyOf : δ → ι} {valueOf : δ → α}
    (writes : ∀ state x key,
      lookup (write state x) key = if keyOf x = key then some (valueOf x) else lookup state key)
    (entries : List δ) (start : τ) (holds : α → Prop) :
    (∀ key value, lookup (entries.foldl write start) key = some value → holds value) ↔
      (∀ x, IsLast keyOf entries x → holds (valueOf x)) ∧
        ∀ key value, lookup start key = some value → (∀ x ∈ entries, keyOf x ≠ key) →
          holds value := by
  simp only [lookup_foldl_iff lookup writes]
  constructor
  · intro all
    refine ⟨fun x last => all _ _ (Or.inl ⟨x, last, rfl, rfl⟩), ?_⟩
    exact fun key value before apart => all key value (Or.inr ⟨apart, before⟩)
  · rintro ⟨written, kept⟩ key value (⟨x, last, -, rfl⟩ | ⟨apart, before⟩)
    · exact written x last
    · exact kept key value before apart

end Writes

/-! ## Filling a table -/

/-- Every entry of one table is an entry of the other. -/
def Below (table target : ExtTreeMap κ α cmp) : Prop :=
  ∀ (key : κ) (value : α), table[key]? = some value → target[key]? = some value

theorem Below.refl (table : ExtTreeMap κ α cmp) : Below table table :=
  fun _ _ present => present

theorem Below.trans {first second third : ExtTreeMap κ α cmp}
    (lower : Below first second) (upper : Below second third) : Below first third :=
  fun key value present => upper key value (lower key value present)

theorem Below.empty (target : ExtTreeMap κ α cmp) : Below ∅ target := by
  intro key value present
  simp at present

theorem Below.insert [DecidableEq κ] {table target : ExtTreeMap κ α cmp} {key : κ} {value : α}
    (below : Below table target) (present : target[key]? = some value) :
    Below (table.insert key value) target := by
  intro probe found
  rw [lookup_insert]
  split_ifs with same
  · rintro ⟨⟩
    rwa [same] at present
  · exact below probe found

theorem Below.insert_above [DecidableEq κ] {table target : ExtTreeMap κ α cmp} {key : κ}
    {value : α} (below : Below table target) (present : target[key]? = some value) :
    Below table (table.insert key value) := by
  intro probe found old
  rw [lookup_insert]
  split_ifs with same
  · rw [← present, same, below probe found old]
  · exact old

/-- A write that keeps old entries does nothing to a key that is there. -/
theorem insertIfNew_of_present [DecidableEq κ] {table : ExtTreeMap κ α cmp} {key : κ} {old : α}
    (present : table[key]? = some old) (value : α) : table.insertIfNew key value = table := by
  ext probe : 1
  rw [lookup_insertIfNew]
  split_ifs with same
  · rw [← same, present]
    rfl
  · rfl

/-- To any other key it is a plain write. -/
theorem insertIfNew_of_absent [DecidableEq κ] {table : ExtTreeMap κ α cmp} {key : κ}
    (absent : table[key]? = none) (value : α) :
    table.insertIfNew key value = table.insert key value := by
  ext probe : 1
  rw [lookup_insertIfNew, lookup_insert]
  split_ifs with same
  · rw [← same, absent]
    rfl
  · rfl

/-- Below a table that has the entry, such a write is a plain write. -/
theorem Below.insertIfNew_eq [DecidableEq κ] {table target : ExtTreeMap κ α cmp} {key : κ}
    {value : α} (below : Below table target) (present : target[key]? = some value) :
    table.insertIfNew key value = table.insert key value := by
  cases old : table[key]? with
  | none => exact insertIfNew_of_absent old value
  | some previous =>
      have agrees := below key previous old
      rw [present] at agrees
      cases agrees
      rw [insertIfNew_of_present old]
      apply ExtTreeMap.ext_getElem?
      intro probe
      rw [lookup_insert]
      split_ifs with same
      · rw [← same, old]
      · rfl

section Filling

variable {δ : Type w} {target : ExtTreeMap κ α cmp}
  {put : ExtTreeMap κ α cmp → δ → ExtTreeMap κ α cmp} {entries : List δ}

/-- Steps that only add entries of the target stay below it and lose nothing. -/
theorem foldl_below
    (keeps : ∀ table, Below table target → ∀ x ∈ entries,
      Below table (put table x) ∧ Below (put table x) target)
    {start : ExtTreeMap κ α cmp} (below : Below start target) :
    Below start (entries.foldl put start) ∧ Below (entries.foldl put start) target := by
  induction entries generalizing start with
  | nil => exact ⟨.refl start, below⟩
  | cons head tail ih =>
      rcases keeps start below head List.mem_cons_self with ⟨above, below'⟩
      rcases ih (fun table below x member => keeps table below x (List.mem_cons_of_mem _ member))
        below' with ⟨above', below''⟩
      exact ⟨above.trans above', below''⟩

/-- If one of the steps adds the entry, it is there in the end. -/
theorem foldl_adds
    (keeps : ∀ table, Below table target → ∀ x ∈ entries,
      Below table (put table x) ∧ Below (put table x) target)
    {key : κ} {value : α} {x : δ} (member : x ∈ entries)
    (adds : ∀ table, Below table target → (put table x)[key]? = some value)
    {start : ExtTreeMap κ α cmp} (below : Below start target) :
    (entries.foldl put start)[key]? = some value := by
  rcases List.append_of_mem member with ⟨before, after, rfl⟩
  rw [List.foldl_append, List.foldl_cons]
  have keepsBefore : ∀ table, Below table target → ∀ y ∈ before,
      Below table (put table y) ∧ Below (put table y) target :=
    fun table below y listed => keeps table below y (by simp [listed])
  have keepsAfter : ∀ table, Below table target → ∀ y ∈ after,
      Below table (put table y) ∧ Below (put table y) target :=
    fun table below y listed => keeps table below y (by simp [listed])
  have first := foldl_below keepsBefore below
  have placed := keeps _ first.2 x (by simp)
  have rest := foldl_below keepsAfter placed.2
  exact rest.1 key value (adds _ first.2)

/-- A table is rebuilt by steps that only add its entries, if they add all of them. -/
theorem foldl_fills
    (keeps : ∀ table, Below table target → ∀ x ∈ entries,
      Below table (put table x) ∧ Below (put table x) target)
    (covers : ∀ (key : κ) (value : α), target[key]? = some value →
      ∃ x ∈ entries, ∀ table, Below table target → (put table x)[key]? = some value)
    {start : ExtTreeMap κ α cmp} (below : Below start target) :
    entries.foldl put start = target := by
  apply ExtTreeMap.ext_getElem?
  intro key
  cases present : target[key]? with
  | some value =>
      rcases covers key value present with ⟨x, member, adds⟩
      exact foldl_adds keeps member adds below
  | none =>
      rw [Option.eq_none_iff_forall_ne_some]
      intro value found
      have impossible := (foldl_below keeps below).2 key value found
      rw [present] at impossible
      cases impossible

/-- Writing the entries of a table one after the other rebuilds it. -/
theorem foldl_insert_fills [DecidableEq κ] (keyOf : δ → κ) (valueOf : δ → α)
    (listed : ∀ x ∈ entries, target[keyOf x]? = some (valueOf x))
    (covers : ∀ (key : κ) (value : α), target[key]? = some value →
      ∃ x ∈ entries, keyOf x = key)
    {start : ExtTreeMap κ α cmp} (below : Below start target) :
    entries.foldl (fun table x => table.insert (keyOf x) (valueOf x)) start = target := by
  refine foldl_fills ?_ ?_ below
  · intro table below x member
    exact ⟨below.insert_above (listed x member), below.insert (listed x member)⟩
  · intro key value present
    rcases covers key value present with ⟨x, member, rfl⟩
    refine ⟨x, member, fun table below => ?_⟩
    rw [lookup_insert, if_pos rfl, ← listed x member, present]

/-- So does writing the entries of its own listing. -/
theorem foldl_toList_fills [DecidableEq κ] {start target : ExtTreeMap κ α cmp}
    (below : Below start target) :
    target.toList.foldl (fun table entry => table.insert entry.1 entry.2) start = target := by
  refine foldl_insert_fills Prod.fst Prod.snd ?_ ?_ below
  · rintro ⟨key, value⟩ member
    exact ExtTreeMap.mem_toList_iff_getElem?_eq_some.mp member
  · intro key value present
    exact ⟨(key, value), ExtTreeMap.mem_toList_iff_getElem?_eq_some.mpr present, rfl⟩

end Filling

/-! ## Totals -/

/-- The sum of a weight over all entries. -/
def total (weight : κ → α → Nat) (table : ExtTreeMap κ α cmp) : Nat :=
  (table.toList.map fun entry => weight entry.1 entry.2).sum

theorem total_of_present
    (weight : κ → α → Nat)
    {table : ExtTreeMap κ α cmp} {key : κ} {value : α}
    (present : table[key]? = some value) :
    total weight table = weight key value + total weight (table.erase key) := by
  have split := (toList_perm_cons_erase present).map
    fun entry => weight entry.1 entry.2
  simpa [total] using split.sum_eq

/-- Writing one entry trades the weight it had for the weight it gets. -/
theorem total_insert
    (weight : κ → α → Nat)
    (table : ExtTreeMap κ α cmp) (key : κ) (value : α) :
    total weight (table.insert key value) +
        table[key]?.elim 0 (weight key) =
      total weight table + weight key value := by
  have written : (table.insert key value)[key]? = some value := by
    simp
  rw [total_of_present weight written, erase_insert_self]
  cases old : table[key]? with
  | none =>
      rw [erase_of_absent old]
      simp [Nat.add_comm]
  | some previous =>
      rw [total_of_present weight old]
      simp only [Option.elim_some]
      omega

/-- So does changing one entry in place. -/
theorem total_modify
    (weight : κ → α → Nat)
    {table : ExtTreeMap κ α cmp} {key : κ} {value : α}
    (present : table[key]? = some value) (change : α → α) :
    total weight (table.modify key change) + weight key value =
      total weight table + weight key (change value) := by
  classical
  have written : table.modify key change = table.insert key (change value) := by
    apply ExtTreeMap.ext_getElem?
    intro probe
    rw [lookup_modify, lookup_insert]
    split_ifs with same
    · rw [← same, present]
      rfl
    · rfl
  have trade := total_insert weight table key (change value)
  rw [present] at trade
  rw [written]
  exact trade

/-- A change that keeps the weight of every entry keeps the total. -/
theorem total_modifyLinked_of_same
    (weight : κ → α → Nat) (table : ExtTreeMap κ α cmp) (link : Option κ) {change : α → α}
    (same : ∀ key value, weight key (change value) = weight key value) :
    total weight (modifyLinked table link change) = total weight table := by
  classical
  cases link with
  | none => rfl
  | some key =>
      cases found : table[key]? with
      | some value =>
          have trade := total_modify weight found change
          rw [same] at trade
          exact Nat.add_right_cancel trade
      | none =>
          have kept : table.modify key change = table := by
            ext probe : 1
            rw [lookup_modify]
            split_ifs with here
            · rw [← here, found]
              rfl
            · rfl
          rw [modifyLinked, kept]

theorem total_congr
    {left right : κ → α → Nat} {table : ExtTreeMap κ α cmp}
    (agree : ∀ key value, table[key]? = some value →
      left key value = right key value) :
    total left table = total right table := by
  unfold total
  congr 1
  apply List.map_congr_left
  rintro ⟨key, value⟩ member
  exact agree key value
    (ExtTreeMap.mem_toList_iff_getElem?_eq_some.mp member)

theorem total_map
    (weight : κ → α → Nat) (change : κ → α → α)
    (table : ExtTreeMap κ α cmp) :
    total weight (table.map change) =
      total (fun key value => weight key (change key value)) table := by
  simp [total, ExtTreeMap.toList_map, Function.comp_def]

theorem weight_le_total
    (weight : κ → α → Nat)
    {table : ExtTreeMap κ α cmp} {key : κ} {value : α}
    (present : table[key]? = some value) :
    weight key value ≤ total weight table := by
  rw [total_of_present weight present]
  exact Nat.le_add_right _ _

theorem total_eq_zero_iff
    {weight : κ → α → Nat} {table : ExtTreeMap κ α cmp} :
    total weight table = 0 ↔
      ∀ key value, table[key]? = some value → weight key value = 0 := by
  constructor
  · intro nothing key value present
    have bound := weight_le_total weight present
    omega
  · intro weightless
    have zero : total weight table = total (fun _ _ => 0) table :=
      total_congr weightless
    rw [zero]
    simp [total]

/-- A smaller weight has a smaller total. -/
theorem total_mono
    {left right : κ → α → Nat} {table : ExtTreeMap κ α cmp}
    (below : ∀ key value, left key value ≤ right key value) :
    total left table ≤ total right table :=
  List.sum_le_sum fun entry _ => below entry.1 entry.2

/-! ## Sweeps -/

section Sweep

variable {σ : Type w}

/-- Walk every entry in key order, threading a state. -/
def sweep (table : ExtTreeMap κ α cmp)
    (body : σ → κ → α → σ) (start : σ) : σ :=
  table.toList.foldl (fun state entry => body state entry.1 entry.2) start

/-- What every visit keeps, the sweep keeps. -/
theorem sweep_invariant
    {table : ExtTreeMap κ α cmp} {body : σ → κ → α → σ}
    (invariant : σ → Prop) {start : σ}
    (holds : invariant start)
    (keeps : ∀ state key value, table[key]? = some value →
      invariant state → invariant (body state key value)) :
    invariant (sweep table body start) := by
  have visit : ∀ (entries : List (κ × α)) (state : σ),
      (∀ entry ∈ entries, table[entry.1]? = some entry.2) →
      invariant state →
      invariant
        (entries.foldl (fun s entry => body s entry.1 entry.2) state) := by
    intro entries
    induction entries with
    | nil => exact fun _ _ kept => kept
    | cons entry rest ih =>
        intro state listed kept
        exact ih _ (fun other member => listed other (List.mem_cons_of_mem _ member))
          (keeps state entry.1 entry.2 (listed entry List.mem_cons_self) kept)
  refine visit _ _ ?_ holds
  rintro ⟨key, value⟩ member
  exact ExtTreeMap.mem_toList_iff_getElem?_eq_some.mp member

/-- What every visit keeps between two states, the sweep keeps. -/
theorem sweep_related
    {table : ExtTreeMap κ α cmp} {body : σ → κ → α → σ} {related : σ → σ → Prop}
    (keeps : ∀ left right key value, related left right →
      related (body left key value) (body right key value))
    {left right : σ} (states : related left right) :
    related (sweep table body left) (sweep table body right) := by
  unfold sweep
  generalize table.toList = entries
  induction entries generalizing left right with
  | nil => exact states
  | cons entry rest ih => exact ih (keeps left right entry.1 entry.2 states)

/-- A component that each visit computes from itself alone is swept alone. -/
theorem sweep_component
    {τ : Type x} (component : σ → τ) (inner : τ → κ → α → τ)
    {table : ExtTreeMap κ α cmp} {body : σ → κ → α → σ}
    (commutes : ∀ state key value,
      component (body state key value) = inner (component state) key value)
    (start : σ) :
    component (sweep table body start) =
      sweep table inner (component start) := by
  unfold sweep
  generalize table.toList = entries
  induction entries generalizing start with
  | nil => rfl
  | cons entry rest ih =>
      simp only [List.foldl_cons]
      rw [ih, commutes]

/--
A sweep that takes weights away takes away their totals.  The readings go down
together: a visit acts only when every reading covers its weight, and here
they always do.
-/
theorem sweep_subtract
    {ι : Type x} (reading : σ → ι → Nat) (weight : ι → κ → α → Nat)
    {table : ExtTreeMap κ α cmp} {body : σ → κ → α → σ}
    (visit : ∀ state key value, (∀ i, weight i key value ≤ reading state i) →
      ∀ i, reading (body state key value) i = reading state i - weight i key value)
    (start : σ) (covered : ∀ i, total (weight i) table ≤ reading start i) (i : ι) :
    reading (sweep table body start) i = reading start i - total (weight i) table := by
  unfold sweep total at *
  generalize table.toList = entries at *
  induction entries generalizing start with
  | nil => simp
  | cons entry rest ih =>
      simp only [List.map_cons, List.sum_cons, List.foldl_cons] at covered ⊢
      have taken := visit start entry.1 entry.2 fun i => by
        have enough := covered i
        omega
      rw [ih _ fun i => ?_, taken i, Nat.sub_sub]
      rw [taken i]
      have enough := covered i
      omega

/--
A sweep whose visits concern only their own key is decided, at each key, by
the one visit of that key.
-/
theorem sweep_at
    {τ : Type x} (observe : σ → τ)
    {table : ExtTreeMap κ α cmp} {body : σ → κ → α → σ}
    {probe : κ} {value : α}
    (present : table[probe]? = some value)
    (isLocal : ∀ state key other, key ≠ probe →
      observe (body state key other) = observe state)
    (start : σ) :
    ∃ reached, observe reached = observe start ∧
      observe (sweep table body start) =
        observe (body reached probe value) := by
  have elsewhere : ∀ (entries : List (κ × α)) (state : σ),
      (∀ entry ∈ entries, entry.1 ≠ probe) →
      observe (entries.foldl
        (fun s entry => body s entry.1 entry.2) state) = observe state := by
    intro entries
    induction entries with
    | nil => exact fun _ _ => rfl
    | cons entry rest ih =>
        intro state apart
        rw [List.foldl_cons,
          ih _ fun other member => apart other (List.mem_cons_of_mem _ member)]
        exact isLocal _ _ _ (apart entry List.mem_cons_self)
  obtain ⟨before, after, listing⟩ := List.append_of_mem
    (ExtTreeMap.mem_toList_iff_getElem?_eq_some.mpr present)
  have distinct := ExtTreeMap.distinct_keys_toList (t := table)
  rw [listing, List.pairwise_append, List.pairwise_cons] at distinct
  obtain ⟨-, ⟨afterApart, -⟩, beforeApart⟩ := distinct
  refine ⟨before.foldl (fun s entry => body s entry.1 entry.2) start,
    elsewhere before start fun entry member same => ?_, ?_⟩
  · have differs := beforeApart entry member _ List.mem_cons_self
    exact differs (LawfulEqCmp.compare_eq_iff_eq.mpr same)
  · rw [sweep, listing, List.foldl_append, List.foldl_cons]
    refine elsewhere after _ fun entry member same => ?_
    exact afterApart entry member
      (LawfulEqCmp.compare_eq_iff_eq.mpr same.symm)

/-- At a key the table does not have, such a sweep changes nothing. -/
theorem sweep_absent
    {τ : Type x} (observe : σ → τ)
    {table : ExtTreeMap κ α cmp} {body : σ → κ → α → σ}
    {probe : κ}
    (absent : table[probe]? = none)
    (isLocal : ∀ state key other, key ≠ probe →
      observe (body state key other) = observe state)
    (start : σ) :
    observe (sweep table body start) = observe start := by
  refine sweep_invariant (fun state => observe state = observe start) rfl ?_
  intro state key value present kept
  refine (isLocal state key value ?_).trans kept
  rintro rfl
  rw [absent] at present
  cases present

/-- A sweep that rewrites the entry it stands on is a pointwise map. -/
theorem sweep_rewrite
    (select : κ → α → Bool) (rewrite : κ → α → α)
    (table : ExtTreeMap κ α cmp) :
    sweep table
        (fun (result : ExtTreeMap κ α cmp) key value =>
          if select key value then
            result.insert key (rewrite key value)
          else result)
        table =
      table.map fun key value =>
        if select key value then rewrite key value else value := by
  classical
  apply ExtTreeMap.ext_getElem?
  intro probe
  have isLocal : ∀ (result : ExtTreeMap κ α cmp) key value, key ≠ probe →
      (if select key value then
          result.insert key (rewrite key value)
        else result)[probe]? = result[probe]? := by
    intro result key value differs
    by_cases chosen : select key value
    · rw [if_pos chosen, lookup_insert, if_neg differs]
    · rw [if_neg chosen]
  rw [ExtTreeMap.getElem?_map]
  cases present : table[probe]? with
  | none =>
      rw [sweep_absent (fun result : ExtTreeMap κ α cmp => (result[probe]? : Option α))
        present isLocal table, present]
      rfl
  | some value =>
      obtain ⟨reached, before, after⟩ := sweep_at
        (fun result : ExtTreeMap κ α cmp => (result[probe]? : Option α))
        present isLocal table
      rw [after]
      by_cases chosen : select probe value
      · simp [chosen]
      · simpa [chosen, present] using before

/--
A sweep that modifies another table through optional links changes exactly
the linked entries.  The modification may be applied more than once, so it
has to be idempotent.
-/
theorem sweep_modifyLinked_lookup
    {ι : Type u} {β : Type v} {order : ι → ι → Ordering}
    [TransCmp order] [LawfulEqCmp order] [DecidableEq ι]
    (link : κ → α → Option ι) (change : β → β)
    (idempotent : ∀ value, change (change value) = change value)
    (table : ExtTreeMap κ α cmp) (start : ExtTreeMap ι β order) (probe : ι)
    [Decidable (∃ key value, table[key]? = some value ∧
      link key value = some probe)] :
    (sweep table
        (fun (result : ExtTreeMap ι β order) key value =>
          modifyLinked result (link key value) change)
        start)[probe]? =
      if ∃ key value, table[key]? = some value ∧ link key value = some probe
      then start[probe]?.map change
      else start[probe]? := by
  have twice : change ∘ change = change := funext idempotent
  have visit : ∀ (entries : List (κ × α)) (result : ExtTreeMap ι β order),
      (entries.foldl
          (fun (result : ExtTreeMap ι β order) entry =>
            modifyLinked result (link entry.1 entry.2) change) result)[probe]? =
        if ∃ entry ∈ entries, link entry.1 entry.2 = some probe
        then result[probe]?.map change
        else result[probe]? := by
    intro entries
    induction entries with
    | nil => simp
    | cons entry rest ih =>
        intro result
        rw [List.foldl_cons, ih, lookup_modifyLinked]
        by_cases here : link entry.1 entry.2 = some probe
        · simp [here, twice]
        · rw [if_neg here]
          exact if_congr (by simp [here]) rfl rfl
  rw [sweep, visit]
  simp only [Prod.exists, ExtTreeMap.mem_toList_iff_getElem?_eq_some]

end Sweep

end OrderedMap
