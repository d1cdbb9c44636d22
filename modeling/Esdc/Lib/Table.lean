import Mathlib
import Esdc.Lib.Dict

/-- The rows of a database table by id, the sequence of the ids and a unique constraint. -/
structure Table (R : Type) {K : Type} (key : R → K) where
  rows : Dict ℕ R
  next_id : ℕ
  fresh : ∀ id row, rows.lookup id = some row → id < next_id
  unique : ∀ id id' row row', rows.lookup id = some row → rows.lookup id' = some row' → key row = key row' → id = id'

namespace Table

variable {R K : Type} {key : R → K}

def empty : Table R key where
  rows := ∅
  next_id := 1
  fresh := fun _ _ hlookup => by cases hlookup
  unique := fun _ _ _ _ hlookup => by cases hlookup

/-- The rows that satisfy a condition, in no particular order. -/
def select (t : Table R key) (p : ℕ → R → Bool) : List (ℕ × R) :=
  (t.rows.entries.map fun e => (e.1, e.2)).filter fun e => p e.1 e.2

def count (t : Table R key) (p : ℕ → R → Bool) : ℕ := (t.select p).length

def get [DecidableEq K] (t : Table R key) (k : K) : Option (ℕ × R) := (t.select fun _ row => key row = k).head?

def taken [DecidableEq K] (t : Table R key) (k : K) : Bool := (t.get k).isSome

/-- The first `n` of the rows that satisfy a condition, by their ids. -/
def oldest (t : Table R key) (p : ℕ → R → Bool) (n : ℕ) : List (ℕ × R) :=
  ((t.select p).insertionSort fun a b => a.1 ≤ b.1).take n

theorem mem_select {t : Table R key} {p : ℕ → R → Bool} {e : ℕ × R} :
    e ∈ t.select p ↔ t.rows.lookup e.1 = some e.2 ∧ p e.1 e.2 := by
  rw [select, List.mem_filter]
  refine and_congr_left fun _ => ?_
  rw [← Option.mem_def, AList.mem_lookup_iff, List.mem_map]
  constructor
  · rintro ⟨entry, hentry, rfl⟩
    exact hentry
  · exact fun hentry => ⟨⟨e.1, e.2⟩, hentry, rfl⟩

theorem nodup_select (t : Table R key) (p : ℕ → R → Bool) : ((t.select p).map Prod.fst).Nodup := by
  have hkeys : ((t.rows.entries.map fun e => (e.1, e.2)).map Prod.fst).Nodup := by
    rw [List.map_map]
    exact t.rows.nodupKeys
  exact hkeys.sublist (List.filter_sublist.map _)

theorem get_eq_some [DecidableEq K] {t : Table R key} {k : K} {id : ℕ} {row : R} :
    t.get k = some (id, row) ↔ t.rows.lookup id = some row ∧ key row = k := by
  constructor
  · intro hget
    have hmem := mem_select.mp (List.mem_of_mem_head? (Option.mem_def.mpr hget))
    exact ⟨hmem.1, of_decide_eq_true hmem.2⟩
  · rintro ⟨hlookup, hkey⟩
    have hmem : (id, row) ∈ t.select fun _ row => key row = k := mem_select.mpr ⟨hlookup, decide_eq_true hkey⟩
    obtain ⟨⟨id', row'⟩, hhead⟩ := Option.isSome_iff_exists.mp (List.isSome_head?.mpr (List.ne_nil_of_mem hmem))
    have hmem' := mem_select.mp (List.mem_of_mem_head? (Option.mem_def.mpr hhead))
    obtain rfl := t.unique id id' row row' hlookup hmem'.1 (hkey.trans (of_decide_eq_true hmem'.2).symm)
    obtain rfl := Option.some.inj (hlookup.symm.trans hmem'.1)
    exact hhead

theorem taken_eq_false [DecidableEq K] {t : Table R key} {k : K} :
    t.taken k = false ↔ ∀ id row, t.rows.lookup id = some row → key row ≠ k := by
  rw [taken, Option.isSome_eq_false_iff, Option.isNone_iff_eq_none, Option.eq_none_iff_forall_ne_some]
  constructor
  · exact fun hget id row hlookup hkey => hget (id, row) (get_eq_some.mpr ⟨hlookup, hkey⟩)
  · exact fun hfree e hget => hfree e.1 e.2 (get_eq_some.mp hget).1 (get_eq_some.mp hget).2

/-- The rows of a list are found by their keys. -/
theorem mem_select_of_keys {t : Table R key} {rows : List (ℕ × R)} (hrows : ∀ e ∈ rows, t.rows.lookup e.1 = some e.2)
    {p : ℕ → R → Bool} (hp : ∀ id row, p id row ↔ ∃ e ∈ rows, key e.2 = key row) (e : ℕ × R) :
    e ∈ t.select p ↔ e ∈ rows := by
  rw [mem_select, hp]
  constructor
  · rintro ⟨hlookup, old, hold, hkey⟩
    have hid := t.unique old.1 e.1 old.2 e.2 (hrows old hold) hlookup hkey
    have hlookup' := hrows old hold
    rw [hid, hlookup] at hlookup'
    rwa [Prod.ext hid (Option.some.inj hlookup').symm] at hold
  · exact fun he => ⟨hrows e he, e, he, rfl⟩

section operations

variable [DecidableEq K]

def insert (t : Table R key) (row : R) (hfree : t.taken (key row) = false) : Table R key where
  rows := t.rows.insert t.next_id row
  next_id := t.next_id + 1
  fresh := by
    intro id row' hlookup
    by_cases hid : id = t.next_id
    · omega
    · rw [AList.lookup_insert_ne hid] at hlookup
      exact Nat.lt_succ_of_lt (t.fresh id row' hlookup)
  unique := by
    intro id id' row₁ row₂ hlookup hlookup' hkey
    have hfree := taken_eq_false.mp hfree
    by_cases hid : id = t.next_id <;> by_cases hid' : id' = t.next_id
    · rw [hid, hid']
    · subst hid
      rw [AList.lookup_insert] at hlookup
      rw [AList.lookup_insert_ne hid'] at hlookup'
      obtain rfl := Option.some.inj hlookup
      exact absurd hkey.symm (hfree id' row₂ hlookup')
    · subst hid'
      rw [AList.lookup_insert] at hlookup'
      rw [AList.lookup_insert_ne hid] at hlookup
      obtain rfl := Option.some.inj hlookup'
      exact absurd hkey (hfree id row₁ hlookup)
    · rw [AList.lookup_insert_ne hid] at hlookup
      rw [AList.lookup_insert_ne hid'] at hlookup'
      exact t.unique id id' row₁ row₂ hlookup hlookup' hkey

omit [DecidableEq K] in
theorem lookup_of_filter {rows : Dict ℕ R} {p : ℕ → R → Bool} {id : ℕ} {row : R}
    (hlookup : (rows.filter p).lookup id = some row) : rows.lookup id = some row := by
  rw [Dict.lookup_filter] at hlookup
  exact (Option.filter_eq_some_iff.mp hlookup).1

/-- The rows that satisfy a condition are deleted. -/
def delete (t : Table R key) (p : ℕ → R → Bool) : Table R key where
  rows := t.rows.filter fun id row => !p id row
  next_id := t.next_id
  fresh := fun id row hlookup => t.fresh id row (lookup_of_filter hlookup)
  unique := fun id id' row row' hlookup hlookup' =>
    t.unique id id' row row' (lookup_of_filter hlookup) (lookup_of_filter hlookup')

/-- Other values for the fields that are not part of the key. -/
def update (t : Table R key) (f : ℕ → R → R) (hkey : ∀ id row, key (f id row) = key row) : Table R key where
  rows := t.rows.mapVals f
  next_id := t.next_id
  fresh := by
    intro id row hlookup
    rw [Dict.lookup_mapVals, Option.map_eq_some_iff] at hlookup
    obtain ⟨row', hlookup, -⟩ := hlookup
    exact t.fresh id row' hlookup
  unique := by
    intro id id' row row' hlookup hlookup' hsame
    rw [Dict.lookup_mapVals, Option.map_eq_some_iff] at hlookup hlookup'
    obtain ⟨old, hlookup, rfl⟩ := hlookup
    obtain ⟨old', hlookup', rfl⟩ := hlookup'
    exact t.unique id id' old old' hlookup hlookup' (by rwa [hkey, hkey] at hsame)

section lookup

variable {t : Table R key} {id : ℕ} {row : R}

theorem lookup_insert_next (hfree : t.taken (key row) = false) :
    (t.insert row hfree).rows.lookup t.next_id = some row := AList.lookup_insert _

omit [DecidableEq K] in
theorem lookup_delete (p : ℕ → R → Bool) : (t.delete p).rows.lookup id = some row ↔
    t.rows.lookup id = some row ∧ p id row = false := by
  change (Dict.filter _ _).lookup id = some row ↔ _
  rw [Dict.lookup_filter, Option.filter_eq_some_iff]
  simp

omit [DecidableEq K] in
@[simp] theorem lookup_update (f : ℕ → R → R) (hkey : ∀ id row, key (f id row) = key row) :
    (t.update f hkey).rows.lookup id = (t.rows.lookup id).map (f id) := Dict.lookup_mapVals _ f id

end lookup

section count

variable (t : Table R key) (p : ℕ → R → Bool)

theorem entries_insert {row : R} (hfree : t.taken (key row) = false) :
    (t.insert row hfree).rows.entries = ⟨t.next_id, row⟩ :: t.rows.entries := by
  have hnew : t.rows.lookup t.next_id = none := by
    cases hlookup : t.rows.lookup t.next_id with
    | none => rfl
    | some row => exact absurd (t.fresh _ _ hlookup) (lt_irrefl _)
  change t.rows.entries.kinsert t.next_id row = _
  rw [List.kinsert_def]
  exact congrArg _ (t.rows.entries_erase_of_lookup_eq_none hnew)

theorem count_insert {row : R} (hfree : t.taken (key row) = false) :
    (t.insert row hfree).count p = t.count p + if p t.next_id row then 1 else 0 := by
  rw [count, select, entries_insert, List.map_cons, List.filter_cons]
  split
  · rw [List.length_cons]
    rfl
  · rfl

omit [DecidableEq K] in
theorem select_delete (q : ℕ → R → Bool) :
    (t.delete q).select p = (t.select p).filter fun e => !q e.1 e.2 := by
  change ((t.rows.entries.filter _).map _).filter _ = ((t.rows.entries.map _).filter _).filter _
  simp only [List.filter_map, List.filter_filter]
  congr 2
  funext e
  exact Bool.and_comm _ _

omit [DecidableEq K] in
theorem count_delete_le (q : ℕ → R → Bool) : (t.delete q).count p ≤ t.count p := by
  rw [count, select_delete]
  exact List.length_filter_le _ _

omit [DecidableEq K] in
/-- An update that does not matter for the condition. -/
theorem count_update {f : ℕ → R → R} (hkey : ∀ id row, key (f id row) = key row)
    (hp : ∀ id row, p id (f id row) = p id row) : (t.update f hkey).count p = t.count p := by
  change (((t.rows.mapVals f).entries.map _).filter _).length = ((t.rows.entries.map _).filter _).length
  rw [Dict.entries_mapVals, List.map_map, List.filter_map, List.filter_map, List.length_map, List.length_map]
  simp only [Function.comp_def, hp]

end count

end operations

section ids

variable (t : Table R key) (p : ℕ → R → Bool)

/-- The ids of the rows that satisfy a condition. -/
def ids : Finset ℕ := ((t.select p).map Prod.fst).toFinset

variable {t p}

theorem mem_ids {id : ℕ} : id ∈ t.ids p ↔ ∃ row, t.rows.lookup id = some row ∧ p id row := by
  rw [ids, List.mem_toFinset, List.mem_map]
  constructor
  · rintro ⟨e, he, rfl⟩
    exact ⟨e.2, mem_select.mp he⟩
  · rintro ⟨row, hrow⟩
    exact ⟨(id, row), mem_select.mpr hrow, rfl⟩

variable (t p)

theorem card_ids : (t.ids p).card = t.count p := by
  rw [ids, List.toFinset_card_of_nodup (t.nodup_select p), List.length_map]
  rfl

variable {t p}

theorem count_le_of_ids_subset {u : Table R key} (hsub : u.ids p ⊆ t.ids p) : u.count p ≤ t.count p := by
  rw [← card_ids, ← card_ids]
  exact Finset.card_le_card hsub

end ids

section oldest

variable (t : Table R key) (p : ℕ → R → Bool) (n : ℕ)

theorem mem_select_of_mem_oldest {e : ℕ × R} (he : e ∈ t.oldest p n) : e ∈ t.select p :=
  (List.mem_insertionSort _).mp (List.mem_of_mem_take he)

def oldest_ids : Finset ℕ := ((t.oldest p n).map Prod.fst).toFinset

variable {t p n}

theorem mem_oldest_ids {id : ℕ} : id ∈ t.oldest_ids p n ↔ ∃ row, (id, row) ∈ t.oldest p n := by
  rw [oldest_ids, List.mem_toFinset, List.mem_map]
  constructor
  · rintro ⟨e, he, rfl⟩
    exact ⟨e.2, he⟩
  · rintro ⟨row, hrow⟩
    exact ⟨(id, row), hrow, rfl⟩

theorem oldest_ids_subset : t.oldest_ids p n ⊆ t.ids p := by
  intro id hid
  obtain ⟨row, hrow⟩ := mem_oldest_ids.mp hid
  exact mem_ids.mpr ⟨row, mem_select.mp (t.mem_select_of_mem_oldest p n hrow)⟩

variable (t p n)

theorem card_oldest_ids : (t.oldest_ids p n).card = min n (t.count p) := by
  have hsorted : (((t.select p).insertionSort fun a b => a.1 ≤ b.1).map Prod.fst).Nodup :=
    ((List.perm_insertionSort _ _).map Prod.fst).nodup_iff.mpr (t.nodup_select p)
  have hnodup : ((t.oldest p n).map Prod.fst).Nodup := hsorted.sublist ((List.take_sublist _ _).map _)
  rw [oldest_ids, List.toFinset_card_of_nodup hnodup, List.length_map, oldest, List.length_take,
    List.length_insertionSort]
  rfl

variable {t p n}

theorem lookup_of_mem_oldest {e : ℕ × R} (he : e ∈ t.oldest p n) : t.rows.lookup e.1 = some e.2 ∧ p e.1 e.2 :=
  mem_select.mp (t.mem_select_of_mem_oldest p n he)

theorem ids_eq_oldest_ids {q : ℕ → R → Bool} (hselect : ∀ e, e ∈ t.select q ↔ e ∈ t.oldest p n) :
    t.ids q = t.oldest_ids p n := by
  ext id
  rw [ids, List.mem_toFinset, List.mem_map, oldest_ids, List.mem_toFinset, List.mem_map]
  simp only [hselect]

@[simp] theorem oldest_ids_zero : t.oldest_ids p 0 = ∅ := by
  rw [← Finset.card_eq_zero, card_oldest_ids, Nat.zero_min]

/-- The rows that are not among the oldest are newer. -/
theorem oldest_lt {id id' : ℕ} (hid : id ∈ t.oldest_ids p n) (hid' : id' ∈ t.ids p \ t.oldest_ids p n) : id < id' := by
  obtain ⟨hid', hnot⟩ := Finset.mem_sdiff.mp hid'
  obtain ⟨row, hrow⟩ := mem_oldest_ids.mp hid
  obtain ⟨row', hrow'⟩ := mem_ids.mp hid'
  have hrest : (id', row') ∈ ((t.select p).insertionSort fun a b => a.1 ≤ b.1).drop n := by
    have hmem := (List.mem_insertionSort fun a b : ℕ × R => a.1 ≤ b.1).mpr
      ((mem_select (e := (id', row'))).mpr hrow')
    rw [← List.take_append_drop n ((t.select p).insertionSort _), List.mem_append] at hmem
    exact hmem.resolve_left fun hold => hnot (mem_oldest_ids.mpr ⟨row', hold⟩)
  have hsorted := List.pairwise_insertionSort (fun a b : ℕ × R => a.1 ≤ b.1) (t.select p)
  rw [← List.take_append_drop n ((t.select p).insertionSort _), List.pairwise_append] at hsorted
  refine lt_of_le_of_ne (hsorted.2.2 _ hrow _ hrest) fun heq => hnot ?_
  change id = id' at heq
  exact heq ▸ hid

/-- There is one set of so many rows with none older outside it. -/
theorem eq_oldest_ids {D : Finset ℕ} (hsub : D ⊆ t.ids p) (hcard : D.card = (t.oldest_ids p n).card)
    (hlower : ∀ id ∈ D, ∀ id' ∈ t.ids p \ D, id < id') : D = t.oldest_ids p n := by
  refine Finset.eq_of_subset_of_card_le (fun id hid => ?_) hcard.ge
  by_contra hnot
  -- then one of the oldest is not in `D` either, and each of the two is older than the other
  obtain ⟨id', hold, hnot'⟩ : ∃ id' ∈ t.oldest_ids p n, id' ∉ D := by
    by_contra hall
    push Not at hall
    exact hnot (Finset.eq_of_subset_of_card_le hall hcard.le ▸ hid)
  have hlt := hlower id hid id' (Finset.mem_sdiff.mpr ⟨oldest_ids_subset hold, hnot'⟩)
  exact lt_asymm hlt (oldest_lt hold (Finset.mem_sdiff.mpr ⟨hsub hid, hnot⟩))

end oldest

section deleted

/-- One table is the other without the rows with some ids. -/
def Deleted (t u : Table R key) (D : Finset ℕ) : Prop :=
  ∀ id, u.rows.lookup id = if id ∈ D then none else t.rows.lookup id

variable {t u : Table R key} {D : Finset ℕ}

theorem deleted_refl (t : Table R key) : Deleted t t ∅ := fun id => by rw [if_neg (Finset.notMem_empty id)]

theorem Deleted.ids_eq (hdeleted : Deleted t u D) (p : ℕ → R → Bool) : u.ids p = t.ids p \ D := by
  ext id
  rw [Finset.mem_sdiff, mem_ids, mem_ids, hdeleted id]
  by_cases hid : id ∈ D <;> simp [hid]

theorem Deleted.mem_of_lookup {id : ℕ} {row : R} (hdeleted : Deleted t u D) (hlookup : t.rows.lookup id = some row)
    (hnone : u.rows.lookup id = none) : id ∈ D := by
  by_contra hid
  rw [hdeleted id, if_neg hid, hlookup] at hnone
  cases hnone

theorem deleted_delete (t : Table R key) (p : ℕ → R → Bool) : Deleted t (t.delete p) (t.ids p) := by
  intro id
  apply Option.ext
  intro row
  rw [lookup_delete]
  by_cases hid : id ∈ t.ids p
  · rw [if_pos hid]
    refine iff_of_false ?_ (by simp)
    rintro ⟨hlookup, hrow⟩
    obtain ⟨row', hlookup', hrow'⟩ := mem_ids.mp hid
    obtain rfl := Option.some.inj (hlookup.symm.trans hlookup')
    rw [hrow] at hrow'
    cases hrow'
  · rw [if_neg hid]
    refine and_iff_left_of_imp fun hlookup => ?_
    by_contra hrow
    exact hid (mem_ids.mpr ⟨row, hlookup, by simpa using hrow⟩)

theorem Deleted.trans {v : Table R key} {E : Finset ℕ} (hdeleted : Deleted t u D) (hmore : Deleted u v E) :
    Deleted t v (D ∪ E) := by
  intro id
  rw [hmore id, hdeleted id]
  by_cases hD : id ∈ D <;> by_cases hE : id ∈ E <;> simp [hD, hE]

/-- An update of some rows that are then deleted. -/
theorem deleted_update_delete (t : Table R key) {ids : List ℕ} {f : ℕ → R → R}
    (hkey : ∀ id row, key (f id row) = key row) (hf : ∀ id row, id ∉ ids → f id row = row) :
    Deleted t ((t.update f hkey).delete fun id _ => id ∈ ids) ids.toFinset := by
  intro id
  apply Option.ext
  intro row
  rw [← Option.mem_def, Option.mem_def, lookup_delete, lookup_update]
  by_cases hid : id ∈ ids
  · simp [hid]
  · have hsame : (t.rows.lookup id).map (f id) = t.rows.lookup id := by
      cases t.rows.lookup id with
      | none => rfl
      | some row => exact congrArg some (hf id row hid)
    simp [hid, hsame]

end deleted

end Table
