import Mathlib.Data.List.Induction
import Mathlib.Data.List.Perm.Basic
import Esdc.Vms.Definition.Vmadm

namespace vms.definition

/-- The key that an identity stands for. -/
def Ident.key : Ident → Option Value
  | .value v => some v
  | .index _ => none

variable {key : String}

theorem Item.ident_key (item : Item) (i : Nat) : (item.ident key i).key = item.lookup key := by
  unfold Item.ident
  cases item.lookup key <;> rfl

theorem pair_keys_to_items_concat (items : List Item) (item : Item) :
    pair_keys_to_items (items ++ [item]) key =
      (pair_keys_to_items items key).insert (item.ident key items.length) item := by
  simp [pair_keys_to_items, List.zipIdx_append]

/-- The last item with a key is the one that stays. -/
theorem pair_lookup_value (key : String) (items : List Item) (v : Value) :
    (pair_keys_to_items items key).lookup (.value v) =
      (items.filter fun item => item.lookup key = some v).getLast? := by
  induction items using List.reverseRecOn with
  | nil => rfl
  | append_singleton items item ih =>
    rw [pair_keys_to_items_concat, List.filter_append]
    by_cases hv : item.lookup key = some v
    · have hident : item.ident key items.length = .value v := by simp [Item.ident, hv]
      rw [hident, AList.lookup_insert]
      simp [hv]
    · have hident : Ident.value v ≠ item.ident key items.length := by
        intro h
        apply hv
        rw [← item.ident_key items.length, ← h]
        rfl
      rw [AList.lookup_insert_ne hident, ih]
      simp [hv]

theorem pair_lookup_key {items : List Item} {id : Ident} {item : Item}
    (hlookup : (pair_keys_to_items items key).lookup id = some item) : item.lookup key = id.key := by
  induction items using List.reverseRecOn with
  | nil => cases hlookup
  | append_singleton items last ih =>
    rw [pair_keys_to_items_concat] at hlookup
    by_cases hid : id = last.ident key items.length
    · subst hid
      rw [AList.lookup_insert] at hlookup
      cases hlookup
      exact (item.ident_key items.length).symm
    · rw [AList.lookup_insert_ne hid] at hlookup
      exact ih hlookup

theorem pair_index_lt {items : List Item} {i : Nat}
    (hmem : Ident.index i ∈ pair_keys_to_items items key) : i < items.length := by
  induction items using List.reverseRecOn with
  | nil => exact absurd hmem (AList.notMem_empty _)
  | append_singleton items last ih =>
    rw [pair_keys_to_items_concat, AList.mem_insert] at hmem
    rw [List.length_append]
    obtain hindex | hmem := hmem
    · have hi : i = items.length := by
        unfold Item.ident at hindex
        cases hlast : last.lookup key with
        | none =>
          rw [hlast] at hindex
          exact Ident.index.inj hindex
        | some v =>
          rw [hlast] at hindex
          cases hindex
      simp [hi]
    · have := ih hmem
      omega

theorem mem_entries_key {items : List Item} {e : Sigma fun _ : Ident => Item}
    (he : e ∈ (pair_keys_to_items items key).entries) : e.2.lookup key = e.1.key :=
  pair_lookup_key (AList.mem_lookup_iff.mpr he)

theorem filter_eraseP_of_not {α : Type} {l : List α} {p q : α → Bool}
    (hpq : ∀ x ∈ l, p x = true → q x = false) : (l.eraseP p).filter q = l.filter q := by
  obtain heq | ⟨a, l₁, l₂, -, hpa, hl, heq⟩ := List.exists_or_eq_self_of_eraseP p l
  · rw [heq]
  · have hqa : q a = false := hpq a (by simp [hl]) hpa
    rw [heq, hl]
    simp [hqa]

/-- No item without a key is lost. -/
theorem pair_entries_filter_none (items : List Item) :
    (((pair_keys_to_items items key).entries.map fun e => e.2).filter
      fun item => item.lookup key = none).Perm (items.filter fun item => item.lookup key = none) := by
  induction items using List.reverseRecOn with
  | nil => exact List.Perm.refl _
  | append_singleton items item ih =>
    rw [pair_keys_to_items_concat, List.filter_append]
    cases hitem : item.lookup key with
    | none =>
      have hnew : item.ident key items.length ∉ pair_keys_to_items items key := by
        intro hmem
        have hident : item.ident key items.length = .index items.length := by simp [Item.ident, hitem]
        rw [hident] at hmem
        exact absurd (pair_index_lt hmem) (lt_irrefl _)
      rw [AList.entries_insert_of_notMem hnew]
      simp only [List.map_cons, List.filter_cons, hitem, decide_true, if_true, List.filter_nil]
      exact (List.Perm.cons _ ih).trans (List.perm_append_singleton _ _).symm
    | some v =>
      have hkey : (item.ident key items.length).key = some v := by rw [item.ident_key, hitem]
      rw [AList.entries_insert, List.filter_map]
      have herase : (List.kerase (item.ident key items.length) (pair_keys_to_items items key).entries).filter
          ((fun item : Item => decide (item.lookup key = none)) ∘ fun e => e.2) =
          (pair_keys_to_items items key).entries.filter
            ((fun item : Item => decide (item.lookup key = none)) ∘ fun e => e.2) := by
        apply filter_eraseP_of_not
        intro e he hident
        have heq : item.ident key items.length = e.1 := of_decide_eq_true hident
        have hsome : e.2.lookup key = some v := by rw [mem_entries_key he, ← heq, hkey]
        simp [hsome]
      rw [List.filter_cons]
      simp only [Function.comp_apply, hitem, reduceCtorEq, decide_false, Bool.false_eq_true, if_false,
        List.filter_cons, List.filter_nil, List.append_nil]
      rw [herase, ← List.filter_map]
      exact ih

/-- The pairs with a key, before their items are taken. -/
theorem entries_filter_key {items : List Item} (v : Value) :
    (pair_keys_to_items items key).entries.filter (fun e => e.2.lookup key = some v) =
      (pair_keys_to_items items key).entries.filter fun e => e.1 = .value v := by
  apply List.filter_congr
  intro e he
  rw [mem_entries_key he]
  obtain ⟨id, item⟩ := e
  cases id <;> simp [Ident.key]

end vms.definition
