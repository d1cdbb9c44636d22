import Mathlib

/-- A dictionary with unique keys. -/
abbrev Dict (K V : Type) := AList fun _ : K => V

namespace Dict

variable {K V : Type} [DecidableEq K]

/-- The comprehension over the entries that satisfy a condition. -/
def filter (d : Dict K V) (p : K → V → Bool) : Dict K V :=
  ⟨d.entries.filter fun e => p e.1 e.2, List.NodupKeys.sublist List.filter_sublist d.nodupKeys⟩

/-- `d.update(e)`, the entries of the second dictionary win. -/
def update (d e : Dict K V) : Dict K V := e ∪ d

/-- `del` of every key of a list that is there. -/
def delete (d : Dict K V) (ks : List K) : Dict K V := d.filter fun k _ => k ∉ ks

/-- Another value for every key. -/
def mapVals (d : Dict K V) (f : K → V → V) : Dict K V :=
  ⟨d.entries.map fun e => ⟨e.1, f e.1 e.2⟩, by
    rw [List.NodupKeys, List.keys, List.map_map]
    exact d.nodupKeys⟩

/-- Equality of dictionaries, the order of the entries does not count. -/
def same [DecidableEq V] (d e : Dict K V) : Bool :=
  (d.keys ++ e.keys).all fun k => d.lookup k = e.lookup k

theorem lookup_filter (d : Dict K V) (p : K → V → Bool) (k : K) :
    (d.filter p).lookup k = (d.lookup k).filter (p k) := by
  apply Option.ext
  intro v
  change v ∈ (d.filter p).lookup k ↔ v ∈ (d.lookup k).filter (p k)
  rw [AList.mem_lookup_iff]
  change _ ∈ d.entries.filter _ ↔ _
  rw [List.mem_filter, ← AList.mem_lookup_iff]
  simp [Option.mem_def]

@[simp] theorem lookup_delete (d : Dict K V) (ks : List K) (k : K) :
    (d.delete ks).lookup k = if k ∈ ks then none else d.lookup k := by
  rw [delete, lookup_filter]
  by_cases hk : k ∈ ks
  · simp [hk]
  · cases d.lookup k <;> simp [hk]

@[simp] theorem lookup_update (d e : Dict K V) (k : K) :
    (d.update e).lookup k = (e.lookup k).or (d.lookup k) := by
  unfold update
  by_cases hk : k ∈ e
  · obtain ⟨v, hv⟩ := Option.isSome_iff_exists.mp (AList.lookup_isSome.mpr hk)
    rw [AList.lookup_union_left hk, hv, Option.some_or]
  · rw [AList.lookup_union_right hk, AList.lookup_eq_none.mpr hk, Option.none_or]

theorem same_iff [DecidableEq V] {d e : Dict K V} :
    d.same e = true ↔ ∀ k, d.lookup k = e.lookup k := by
  constructor
  · intro hsame k
    by_cases hk : k ∈ d.keys ++ e.keys
    · exact of_decide_eq_true (List.all_eq_true.mp hsame k hk)
    · rw [List.mem_append, not_or] at hk
      rw [AList.lookup_eq_none.mpr fun h => hk.1 (AList.mem_keys.mp h),
        AList.lookup_eq_none.mpr fun h => hk.2 (AList.mem_keys.mp h)]
  · intro hsame
    apply List.all_eq_true.mpr
    intro k _
    exact decide_eq_true (hsame k)

/-- The entry of a key, if there is one, is the only one with the key. -/
theorem entries_filter_fst (d : Dict K V) (k : K) :
    (d.entries.filter fun e => e.1 = k).map (fun e => e.2) = (d.lookup k).toList := by
  obtain ⟨entries, hnodup⟩ := d
  change (entries.filter fun e => e.1 = k).map (fun e => e.2) = (entries.dlookup k).toList
  induction entries with
  | nil => rfl
  | cons e entries ih =>
    obtain ⟨key, v⟩ := e
    rw [List.nodupKeys_cons] at hnodup
    by_cases hkey : key = k
    · subst hkey
      have hnone : entries.filter (fun e => e.1 = key) = [] := by
        apply List.filter_eq_nil_iff.mpr
        intro e he heq
        apply hnodup.1
        exact List.mem_map.mpr ⟨e, he, of_decide_eq_true heq⟩
      simp [hnone]
    · rw [List.dlookup_cons_ne _ _ (Ne.symm hkey), ← ih hnodup.2]
      simp [hkey]

/-- A sum over the entries, the entry of one key apart. -/
theorem sum_entries_erase (d : Dict K V) (f : (Sigma fun _ : K => V) → ℕ) {k : K} {v : V} (hlookup : d.lookup k = some v) :
    (d.entries.map f).sum = f ⟨k, v⟩ + ((d.erase k).entries.map f).sum := by
  obtain ⟨entries, hnodup⟩ := d
  change entries.dlookup k = some v at hlookup
  change (entries.map f).sum = f ⟨k, v⟩ + ((entries.kerase k).map f).sum
  induction entries with
  | nil => cases hlookup
  | cons e entries ih =>
    obtain ⟨key, value⟩ := e
    rw [List.nodupKeys_cons] at hnodup
    by_cases hkey : k = key
    · subst hkey
      rw [List.dlookup_cons_eq] at hlookup
      obtain rfl := Option.some.inj hlookup
      have herase : (⟨k, value⟩ :: entries : List (Sigma fun _ : K => V)).kerase k = entries := List.kerase_cons_eq rfl
      rw [herase, List.map_cons, List.sum_cons]
    · rw [List.dlookup_cons_ne _ _ hkey] at hlookup
      rw [List.kerase_cons_ne hkey, List.map_cons, List.sum_cons, List.map_cons, List.sum_cons, ih hnodup.2 hlookup]
      omega

theorem sum_entries_insert (d : Dict K V) (f : (Sigma fun _ : K => V) → ℕ) (k : K) (v : V) :
    ((d.insert k v).entries.map f).sum = f ⟨k, v⟩ + ((d.erase k).entries.map f).sum := by
  change ((d.entries.kinsert k v).map f).sum = _
  rw [List.kinsert_def, List.map_cons, List.sum_cons]
  rfl

theorem entries_erase_of_lookup_eq_none (d : Dict K V) {k : K} (hlookup : d.lookup k = none) :
    (d.erase k).entries = d.entries := by
  change d.entries.kerase k = d.entries
  apply List.kerase_of_notMem_keys
  exact AList.lookup_eq_none.mp hlookup

omit [DecidableEq K] in
theorem entries_mapVals (d : Dict K V) (f : K → V → V) :
    (d.mapVals f).entries = d.entries.map fun e => ⟨e.1, f e.1 e.2⟩ := rfl

theorem lookup_mapVals (d : Dict K V) (f : K → V → V) (k : K) : (d.mapVals f).lookup k = (d.lookup k).map (f k) := by
  apply Option.ext
  intro v
  change v ∈ (d.mapVals f).lookup k ↔ v ∈ (d.lookup k).map (f k)
  rw [AList.mem_lookup_iff, entries_mapVals, List.mem_map, Option.mem_map]
  constructor
  · rintro ⟨⟨k', v'⟩, hentry, heq⟩
    obtain ⟨rfl, hv⟩ := Sigma.mk.inj heq
    exact ⟨v', AList.mem_lookup_iff.mpr hentry, eq_of_heq hv⟩
  · rintro ⟨v', hlookup, rfl⟩
    exact ⟨⟨k, v'⟩, AList.mem_lookup_iff.mp hlookup, rfl⟩

theorem lookup_insert_ite (d : Dict K V) (k k' : K) (v : V) :
    (d.insert k v).lookup k' = if k' = k then some v else d.lookup k' := by
  split
  · case isTrue h =>
    rw [h]
    exact AList.lookup_insert d
  · case isFalse h => exact AList.lookup_insert_ne h

theorem lookup_erase_ite (d : Dict K V) (k k' : K) : (d.erase k).lookup k' = if k' = k then none else d.lookup k' := by
  split
  · case isTrue h =>
    rw [h]
    exact AList.lookup_erase k d
  · case isFalse h => exact AList.lookup_erase_ne h

/-- Values that stay as they are. -/
theorem mapVals_eq_self (d : Dict K V) {f : K → V → V} (hf : ∀ k v, d.lookup k = some v → f k v = v) :
    d.mapVals f = d := by
  apply AList.ext
  rw [entries_mapVals]
  conv_rhs => rw [← List.map_id d.entries]
  apply List.map_congr_left
  rintro ⟨k, v⟩ he
  exact congrArg (Sigma.mk k) (hf k v (AList.mem_lookup_iff.mpr he))

omit [DecidableEq K] in
theorem mapVals_mapVals (d : Dict K V) (f g : K → V → V) :
    (d.mapVals f).mapVals g = d.mapVals fun k v => g k (f k v) := by
  apply AList.ext
  rw [entries_mapVals, entries_mapVals, entries_mapVals, List.map_map]
  rfl

end Dict
