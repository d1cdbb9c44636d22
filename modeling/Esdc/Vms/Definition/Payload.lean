import Esdc.Vms.Definition.Items

namespace vms.definition

variable {key : String} {remove_empty : List (String × Value)}

theorem mapM_lookup {items : List Item} (hkey : ∀ item ∈ items, (item.lookup key).isSome) :
    items.mapM (fun item => item.lookup key) = some (items.filterMap fun item => item.lookup key) := by
  induction items with
  | nil => rfl
  | cons item items ih =>
    obtain ⟨v, hv⟩ := Option.isSome_iff_exists.mp (hkey item (by simp))
    simp [hv, ih fun item hitem => hkey item (by simp [hitem])]

theorem Identified.lookup_index {old : List Item} (hold : Identified key old) (i : Nat) :
    (pair_keys_to_items old key).lookup (.index i) = none := by
  cases hlookup : (pair_keys_to_items old key).lookup (.index i) with
  | none => rfl
  | some item =>
    have hnone : item.lookup key = none := pair_lookup_key hlookup
    have hmem : item ∈ (((pair_keys_to_items old key).entries.map fun e => e.2).filter
        fun item => item.lookup key = none) := by
      apply List.mem_filter.mpr
      exact ⟨List.mem_map.mpr ⟨_, AList.mem_lookup_iff.mp hlookup, rfl⟩, by simp [hnone]⟩
    have hitem := List.mem_filter.mp ((pair_entries_filter_none old).mem_iff.mp hmem)
    have hsome := hold.1 item hitem.1
    rw [hnone] at hsome
    cases hsome

/-- The items of the old list have different keys. -/
theorem Identified.filter_le_one {old : List Item} (hold : Identified key old) (v : Value) :
    (old.filter fun item => item.lookup key = some v).length ≤ 1 := by
  have hcount := List.nodup_iff_count_le_one.mp hold.2 (some v)
  rw [List.count_eq_countP, List.countP_map, List.countP_eq_length_filter] at hcount
  refine le_trans (le_of_eq ?_) hcount
  congr 1
  apply List.filter_congr
  intro item _
  simp [Function.comp_apply, beq_eq_decide]

theorem foldl_remove_empty_lookup (old : Item) (new : Item) (k : String) :
    AList.lookup k (remove_empty.foldl (fun (new : Item) entry =>
      if entry.1 ∉ new ∧ entry.1 ∈ old then new.insert entry.1 entry.2 else new) new) =
      match new.lookup k with
      | some v => some v
      | none => if k ∈ old then ((remove_empty.find? fun entry => entry.1 = k).map Prod.snd) else none := by
  induction remove_empty generalizing new with
  | nil => cases hnew : new.lookup k <;> simp [hnew]
  | cons entry remove_empty ih =>
    rw [List.foldl_cons, ih]
    by_cases hentry : entry.1 ∉ new ∧ entry.1 ∈ old
    · rw [if_pos hentry]
      by_cases hk : k = entry.1
      · subst hk
        have hnone : new.lookup entry.1 = none := AList.lookup_eq_none.mpr hentry.1
        simp [AList.lookup_insert, hnone, hentry.2]
      · have hne : ¬ entry.1 = k := fun h => hk h.symm
        rw [AList.lookup_insert_ne hk, List.find?_cons]
        simp [hne]
    · rw [if_neg hentry]
      cases hlookup : new.lookup k with
      | some v => rfl
      | none =>
        by_cases hk : entry.1 = k
        · have hnew : entry.1 ∉ new := by rw [hk]; exact AList.lookup_eq_none.mp hlookup
          have hold : k ∉ old := by rw [← hk]; exact fun h => hentry ⟨hnew, h⟩
          simp [hold]
        · simp [hk]

/-- An item after its update: what is new or explicitly unset, else what it had. -/
theorem lookup_update_changed_item (old new : Item) {k : String} (hkey : k ≠ key ∨ k ∈ new) :
    (Dict.update old (changed_item old new key remove_empty)).lookup k =
      match new.lookup k with
      | some v => some v
      | none =>
        if k ∈ old then ((remove_empty.find? fun entry => entry.1 = k).map Prod.snd).or (old.lookup k)
        else none := by
  rw [Dict.lookup_update, changed_item, Dict.lookup_filter, foldl_remove_empty_lookup]
  cases hnew : new.lookup k with
  | some v =>
    by_cases hsame : k = key ∨ old.lookup k ≠ some v
    · simp [hsame]
    · rw [not_or, not_not] at hsame
      simp [hsame.1, hsame.2, Option.filter_some]
  | none =>
    have hne : k ≠ key := hkey.resolve_right (AList.lookup_eq_none.mp hnew)
    by_cases hold : k ∈ old
    · obtain ⟨v, hv⟩ := Option.isSome_iff_exists.mp (AList.lookup_isSome.mpr hold)
      cases hfind : (remove_empty.find? fun entry => entry.1 = k) with
      | none => simp [hold]
      | some entry =>
        by_cases hempty : v = entry.2
        · simp [hold, hv, hne, hempty, Option.filter_some]
        · simp [hold, hv, hne, hempty, Option.filter_some]
    · simp [hold, AList.lookup_eq_none.mpr hold]

theorem lookup_key_changed_item {old new : Item} (hkey : key ∈ new) :
    (changed_item old new key remove_empty).lookup key = new.lookup key := by
  obtain ⟨v, hv⟩ := Option.isSome_iff_exists.mp (AList.lookup_isSome.mpr hkey)
  rw [changed_item, Dict.lookup_filter, foldl_remove_empty_lookup, hv]
  simp

/-- What becomes of an item that stays. -/
def merged (key : String) (remove_empty : List (String × Value)) (a b : Item) : Item :=
  if Dict.same b a then a else Dict.update a (changed_item a b key remove_empty)

theorem merged_agree_iff {a b : Item} (hempty : ∀ entry ∈ remove_empty, entry.2.unset) (hkey : key ∈ b) :
    Item.Agree (merged key remove_empty a b) b ↔
      ∀ k, b.lookup k = none → a.value k = none ∨ k ∈ remove_empty.map Prod.fst := by
  unfold merged
  by_cases hsame : Dict.same b a = true
  · rw [if_pos hsame]
    have hlookup := Dict.same_iff.mp hsame
    constructor
    · intro _ k hk
      left
      rw [Item.value, ← hlookup k, hk]
      rfl
    · intro _ k
      rw [Item.value, Item.value, hlookup k]
  · rw [if_neg hsame]
    apply forall_congr'
    intro k
    have hne : k ≠ key ∨ k ∈ b := by
      by_cases hk : k = key
      · exact Or.inr (hk ▸ hkey)
      · exact Or.inl hk
    rw [Item.value, lookup_update_changed_item a b hne]
    cases hb : b.lookup k with
    | some v => simp [Item.value, hb]
    | none =>
      have hwanted : b.value k = none := by simp [Item.value, hb]
      rw [hwanted]
      by_cases ha : k ∈ a
      · cases hfind : (remove_empty.find? fun entry => entry.1 = k) with
        | none =>
          have hnot : k ∉ remove_empty.map Prod.fst := by
            rintro hmem
            obtain ⟨entry, hentry, heq⟩ := List.mem_map.mp hmem
            exact absurd heq (by simpa using List.find?_eq_none.mp hfind entry hentry)
          simp only [ha, if_true, Option.map_none, Option.none_or, hnot, or_false]
          exact ⟨fun h _ => h, fun h => h trivial⟩
        | some entry =>
          have hunset := hempty entry (List.mem_of_find?_eq_some hfind)
          have hmem : k ∈ remove_empty.map Prod.fst :=
            List.mem_map.mpr ⟨entry, List.mem_of_find?_eq_some hfind, by simpa using List.find?_some hfind⟩
          simp [ha, hunset, hmem]
      · have hvalue : a.value k = none := by simp [Item.value, AList.lookup_eq_none.mpr ha]
        simp [ha, hvalue]

end vms.definition
