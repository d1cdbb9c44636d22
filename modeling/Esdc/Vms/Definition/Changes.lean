import Esdc.Vms.Definition.Payload

namespace vms.definition

variable {key : String} {remove_empty : List (String × Value)} {old new : List Item} {changes : Changes}

theorem Identified.removed_keys (hold : Identified key old) (new : List Item) :
    ∀ item ∈ ((pair_keys_to_items old key).entries.filter fun e => e.1 ∉ pair_keys_to_items new key).map
      fun e => e.2, (item.lookup key).isSome := by
  intro item hitem
  obtain ⟨e, he, rfl⟩ := List.mem_map.mp hitem
  have hmem := (List.mem_filter.mp he).1
  rw [mem_entries_key hmem]
  obtain ⟨id, item⟩ := e
  cases id with
  | value v => rfl
  | index i =>
    have hlookup := AList.mem_lookup_iff.mpr hmem
    rw [hold.lookup_index] at hlookup
    cases hlookup

theorem Identified.create_json_update_nested_isSome (hold : Identified key old) (new : List Item)
    (remove_empty : List (String × Value)) :
    (Vm.create_json_update_nested new old key remove_empty).isSome := by
  rw [Vm.create_json_update_nested, diff_dict_nested, mapM_lookup (hold.removed_keys new)]
  rfl

/-- The three lists of the changes. -/
theorem Identified.changes_eq (hold : Identified key old)
    (hchanges : Vm.create_json_update_nested new old key remove_empty = some changes) :
    changes.add_ = ((pair_keys_to_items new key).entries.filter
        fun e => e.1 ∉ pair_keys_to_items old key).map (fun e => e.2) ∧
      changes.update_ = (pair_keys_to_items new key).entries.filterMap (fun e =>
        match (pair_keys_to_items old key).lookup e.1 with
        | some item =>
          if Dict.same e.2 item then none else some (changed_item item e.2 key remove_empty)
        | none => none) ∧
      ∀ v, v ∈ changes.remove_ ↔
        Ident.value v ∈ pair_keys_to_items old key ∧ Ident.value v ∉ pair_keys_to_items new key := by
  rw [Vm.create_json_update_nested, diff_dict_nested, mapM_lookup (hold.removed_keys new)] at hchanges
  cases hchanges
  refine ⟨rfl, rfl, fun v => ?_⟩
  constructor
  · intro hv
    obtain ⟨item, hitem, hkey⟩ := List.mem_filterMap.mp hv
    obtain ⟨e, he, rfl⟩ := List.mem_map.mp hitem
    obtain ⟨hmem, hnew⟩ := List.mem_filter.mp he
    have hid : e.1 = .value v := by
      rw [mem_entries_key hmem] at hkey
      obtain ⟨id, item⟩ := e
      cases id with
      | value v' => exact congrArg Ident.value (Option.some.inj hkey)
      | index i => cases hkey
    rw [← hid]
    exact ⟨AList.lookup_isSome.mp (by rw [AList.mem_lookup_iff.mpr hmem]; rfl), of_decide_eq_true hnew⟩
  · rintro ⟨hmem, hnew⟩
    obtain ⟨item, hlookup⟩ := Option.isSome_iff_exists.mp (AList.lookup_isSome.mpr hmem)
    apply List.mem_filterMap.mpr
    refine ⟨item, List.mem_map.mpr ⟨⟨.value v, item⟩, ?_, rfl⟩, pair_lookup_key hlookup⟩
    exact List.mem_filter.mpr ⟨AList.mem_lookup_iff.mp hlookup, decide_eq_true hnew⟩

/-- The new items with a key: the last one of the list if the old list has none. -/
theorem Identified.add_filter (hold : Identified key old)
    (hchanges : Vm.create_json_update_nested new old key remove_empty = some changes) (v : Value) :
    changes.add_.filter (fun item => item.lookup key = some v) =
      if Ident.value v ∈ pair_keys_to_items old key then []
      else ((pair_keys_to_items new key).lookup (.value v)).toList := by
  rw [(hold.changes_eq hchanges).1, List.filter_map, List.filter_filter]
  have hentries : (pair_keys_to_items new key).entries.filter (fun e =>
      ((fun item : Item => decide (item.lookup key = some v)) ∘ fun e => e.2) e &&
        decide (e.1 ∉ pair_keys_to_items old key)) =
      ((pair_keys_to_items new key).entries.filter fun e => e.1 = .value v).filter
        fun e => e.1 ∉ pair_keys_to_items old key := by
    rw [← entries_filter_key, List.filter_filter]
    apply List.filter_congr
    intro e _
    rw [Bool.and_comm]
    rfl
  rw [hentries]
  split
  · rename_i hmem
    rw [List.map_eq_nil_iff, List.filter_eq_nil_iff]
    intro e he
    have hid : e.1 = .value v := of_decide_eq_true (List.mem_filter.mp he).2
    simp [hid, hmem]
  · rename_i hmem
    rw [← Dict.entries_filter_fst]
    congr 1
    apply List.filter_eq_self.mpr
    intro e he
    have hid : e.1 = .value v := of_decide_eq_true (List.mem_filter.mp he).2
    simp [hid, hmem]

theorem Identified.add_filter_none (hold : Identified key old)
    (hchanges : Vm.create_json_update_nested new old key remove_empty = some changes) :
    (changes.add_.filter fun item => item.lookup key = none).Perm
      (new.filter fun item => item.lookup key = none) := by
  refine List.Perm.trans (List.Perm.of_eq ?_) (pair_entries_filter_none new)
  rw [(hold.changes_eq hchanges).1, List.filter_map, List.filter_filter, List.filter_map]
  congr 1
  apply List.filter_congr
  intro e he
  obtain ⟨id, item⟩ := e
  cases id with
  | value v =>
    have hkey : item.lookup key = some v := mem_entries_key he
    simp [hkey]
  | index i =>
    have hnot : Ident.index i ∉ pair_keys_to_items old key :=
      AList.lookup_eq_none.mp (hold.lookup_index i)
    simp [hnot]

/-- The updates with a key. -/
theorem Identified.update_filter (hold : Identified key old)
    (hchanges : Vm.create_json_update_nested new old key remove_empty = some changes) (v : Value) :
    changes.update_.filter (fun item => item.lookup key = some v) =
      ((pair_keys_to_items new key).lookup (.value v)).toList.filterMap fun b =>
        match (pair_keys_to_items old key).lookup (.value v) with
        | some a => if Dict.same b a then none else some (changed_item a b key remove_empty)
        | none => none := by
  rw [(hold.changes_eq hchanges).2.1, List.filter_filterMap, ← Dict.entries_filter_fst,
    List.filterMap_map, List.filterMap_filter]
  apply List.filterMap_congr
  intro e he
  obtain ⟨id, b⟩ := e
  have hkey : b.lookup key = id.key := mem_entries_key he
  cases id with
  | index i => simp [hold.lookup_index]
  | value w =>
    have hmem : key ∈ b := AList.lookup_isSome.mp (by rw [hkey]; rfl)
    cases hlookup : (pair_keys_to_items old key).lookup (.value w) with
    | none =>
      by_cases hw : w = v
      · subst hw
        simp [hlookup]
      · simp [hw]
    | some a =>
      by_cases hsame : Dict.same b a = true
      · by_cases hw : w = v
        · subst hw
          simp [hlookup, hsame]
        · simp [hsame, hw]
      · have hchanged : (changed_item a b key remove_empty).lookup key = some w :=
          (lookup_key_changed_item hmem).trans hkey
        by_cases hw : w = v
        · subst hw
          simp [hlookup, hsame, hchanged, Option.filter_some]
        · simp [hsame, hchanged, hw, Option.filter_some]

theorem foldl_update_key {v : Option Value} {updates : List Item} {item : Item} (hitem : item.lookup key = v)
    (hupdates : ∀ change ∈ updates, change.lookup key = v) :
    (updates.foldl Dict.update item).lookup key = v := by
  induction updates generalizing item with
  | nil => exact hitem
  | cons change updates ih =>
    apply ih
    · rw [Dict.lookup_update, hupdates change (by simp), hitem, Option.or_self]
    · exact fun c hc => hupdates c (by simp [hc])

theorem update_item_key (update_ : List Item) (item : Item) :
    (update_item key update_ item).lookup key = item.lookup key := by
  apply foldl_update_key rfl
  intro change hchange
  exact of_decide_eq_true (List.mem_filter.mp hchange).2

theorem kept_filter (id : Option Value) :
    (((old.filter fun item => (item.lookup key).all (· ∉ changes.remove_)).map
      (update_item key changes.update_)).filter fun item => item.lookup key = id) =
    ((old.filter fun item => item.lookup key = id).filter
      fun item => (item.lookup key).all (· ∉ changes.remove_)).map (update_item key changes.update_) := by
  rw [List.filter_map, List.filter_filter, List.filter_filter]
  congr 1
  apply List.filter_congr
  intro item _
  simp only [Function.comp_apply, update_item_key, Bool.and_comm]

/-- The items of the result with a key. -/
theorem Identified.result_filter (hold : Identified key old)
    (hchanges : Vm.create_json_update_nested new old key remove_empty = some changes) (v : Value) :
    (update_items key old changes).filter (fun item => item.lookup key = some v) =
      match (pair_keys_to_items old key).lookup (.value v), (pair_keys_to_items new key).lookup (.value v) with
      | some a, some b => [merged key remove_empty a b]
      | none, some b => [b]
      | _, none => [] := by
  have hremove := (hold.changes_eq hchanges).2.2 v
  rw [update_items, List.filter_append, kept_filter, hold.add_filter hchanges]
  have hlookup := pair_lookup_value key old v
  have hle := hold.filter_le_one v
  cases hitems : old.filter (fun item => item.lookup key = some v) with
  | nil =>
    rw [hitems] at hlookup
    have hnone : (pair_keys_to_items old key).lookup (.value v) = none := hlookup
    have hnot := AList.lookup_eq_none.mp hnone
    rw [hnone]
    cases (pair_keys_to_items new key).lookup (.value v) <;> simp [hnot]
  | cons a rest =>
    rw [hitems] at hlookup hle
    have hrest : rest = [] := List.eq_nil_of_length_eq_zero (by simpa using hle)
    subst hrest
    have hsome : (pair_keys_to_items old key).lookup (.value v) = some a := hlookup
    have hkey : a.lookup key = some v := pair_lookup_key hsome
    have hmem : Ident.value v ∈ pair_keys_to_items old key :=
      AList.lookup_isSome.mp (by rw [hsome]; rfl)
    rw [if_pos hmem, List.append_nil, hsome]
    cases hnew : (pair_keys_to_items new key).lookup (.value v) with
    | none =>
      have hremoved : v ∈ changes.remove_ := hremove.mpr ⟨hmem, AList.lookup_eq_none.mp hnew⟩
      simp [hkey, hremoved]
    | some b =>
      have hkept : v ∉ changes.remove_ := by
        intro h
        exact (hremove.mp h).2 (AList.lookup_isSome.mp (by rw [hnew]; rfl))
      have hupdates := hold.update_filter hchanges v
      rw [hnew, hsome] at hupdates
      have hupdate : update_item key changes.update_ a = merged key remove_empty a b := by
        rw [update_item, hkey, hupdates, merged]
        by_cases hsame : Dict.same b a = true
        · simp [hsame]
        · simp [hsame]
      simp [hkey, hkept, hupdate]

/-- The payload turns the old items into the new ones exactly when every
attribute that has vanished can be unset and the new keys are distinct. -/
theorem Identified.agreeItems_iff (hold : Identified key old)
    (hempty : ∀ entry ∈ remove_empty, entry.2.unset)
    (hchanges : Vm.create_json_update_nested new old key remove_empty = some changes) :
    AgreeItems key (update_items key old changes) new ↔ Unsettable key remove_empty old new := by
  constructor
  · intro hagree
    have hdistinct : ∀ v, (new.filter fun item => item.lookup key = some v).length ≤ 1 := by
      intro v
      obtain ⟨order, hperm, hforall⟩ := hagree (some v)
      rw [hold.result_filter hchanges] at hperm
      rw [← hforall.length_eq, hperm.length_eq]
      split <;> simp
    refine ⟨hdistinct, ?_⟩
    intro a ha b hb hkey
    obtain ⟨v, hv⟩ := Option.isSome_iff_exists.mp (hold.1 a ha)
    have hsingle : ∀ items : List Item, ∀ x ∈ items, x.lookup key = some v →
        (items.filter fun item => item.lookup key = some v).length ≤ 1 →
        items.filter (fun item => item.lookup key = some v) = [x] := by
      intro items x hx hxv hle
      have hmem : x ∈ items.filter fun item => item.lookup key = some v :=
        List.mem_filter.mpr ⟨hx, decide_eq_true hxv⟩
      obtain ⟨y, hy⟩ := List.length_eq_one_iff.mp (le_antisymm hle (List.length_pos_of_mem hmem))
      rw [hy, List.mem_singleton] at hmem
      rw [hy, hmem]
    have hnewv := hsingle new b hb (hkey.symm.trans hv) (hdistinct v)
    have holdv := hsingle old a ha hv (hold.filter_le_one v)
    obtain ⟨order, hperm, hforall⟩ := hagree (some v)
    rw [hold.result_filter hchanges, pair_lookup_value, pair_lookup_value, hnewv, holdv] at hperm
    rw [hnewv, List.perm_singleton.mp hperm, List.forall₂_cons] at hforall
    have hmem : key ∈ b := AList.lookup_isSome.mp (by rw [hkey.symm.trans hv]; rfl)
    exact (merged_agree_iff hempty hmem).mp hforall.1
  · rintro ⟨hdistinct, hvanished⟩ (_ | v)
    · refine ⟨_, ?_, List.forall₂_same.mpr fun item _ _ => rfl⟩
      have hkept : old.filter (fun item => item.lookup key = none) = [] := by
        apply List.filter_eq_nil_iff.mpr
        intro item hitem hnone
        have hsome := hold.1 item hitem
        rw [of_decide_eq_true hnone] at hsome
        cases hsome
      rw [update_items, List.filter_append, kept_filter, hkept]
      exact (hold.add_filter_none hchanges).symm
    · refine ⟨_, List.Perm.refl _, ?_⟩
      rw [hold.result_filter hchanges]
      have hnew := pair_lookup_value key new v
      have hle := hdistinct v
      cases hitems : new.filter (fun item => item.lookup key = some v) with
      | nil =>
        rw [hitems] at hnew
        have hnone : (pair_keys_to_items new key).lookup (.value v) = none := hnew
        rw [hnone]
        cases (pair_keys_to_items old key).lookup (.value v) <;> exact List.Forall₂.nil
      | cons b rest =>
        rw [hitems] at hnew hle
        have hrest : rest = [] := List.eq_nil_of_length_eq_zero (by simpa using hle)
        subst hrest
        have hsome : (pair_keys_to_items new key).lookup (.value v) = some b := hnew
        have hbv : b.lookup key = some v := pair_lookup_key hsome
        have hb : b ∈ new := (List.mem_filter.mp (hitems ▸ List.mem_singleton_self b)).1
        rw [hsome]
        cases hlookup : (pair_keys_to_items old key).lookup (.value v) with
        | none => exact List.Forall₂.cons (fun _ => rfl) List.Forall₂.nil
        | some a =>
          have hav : a.lookup key = some v := pair_lookup_key hlookup
          have ha : a ∈ old := by
            rw [pair_lookup_value] at hlookup
            exact (List.mem_filter.mp (List.mem_of_getLast? hlookup)).1
          have hmem : key ∈ b := AList.lookup_isSome.mp (by rw [hbv]; rfl)
          have hagree := (merged_agree_iff hempty hmem).mpr (hvanished a ha b hb (hav.trans hbv.symm))
          exact List.Forall₂.cons hagree List.Forall₂.nil

end vms.definition
