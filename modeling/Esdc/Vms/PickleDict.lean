import Mathlib
import Esdc.Lib.Fallible

namespace vms.utils

open Fallible (bind_eq_ok)

/-- A value that is no mapping, or a dictionary. -/
inductive Value (K L : Type)
  | leaf (value : L)
  | mapping (items : List (K × Value K L))

namespace Value

variable {K L : Type} [DecidableEq K]

inductive Error
  | AttributeError
  | TypeError
  deriving DecidableEq

def lookup (k : K) : List (K × Value K L) → Option (Value K L)
  | [] => none
  | (k', v) :: items => if k' = k then some v else lookup k items

/-- The value of a key, at its place when the key is there. -/
def insert (k : K) (v : Value K L) : List (K × Value K L) → List (K × Value K L)
  | [] => [(k, v)]
  | (k', v') :: items => if k' = k then (k', v) :: items else (k', v') :: insert k v items

/-- `d.get(k, {})`, which only mappings have. -/
def get (d : Value K L) (k : K) : Except Error (Value K L) :=
  match d with
  | leaf _ => .error .AttributeError
  | mapping items => .ok ((lookup k items).getD (mapping []))

/-- `d[k] = v` -/
def set (d : Value K L) (k : K) (v : Value K L) : Except Error (Value K L) :=
  match d with
  | leaf _ => .error .TypeError
  | mapping items => .ok (mapping (insert k v items))

mutual

/-- The recursive `update` of `update2`, over the items of the second dictionary. -/
def update (d : Value K L) : List (K × Value K L) → Except Error (Value K L)
  | [] => .ok d
  | item :: items => do
    let d ← update_item d item
    update d items
termination_by structural items => items

def update_item (d : Value K L) : K × Value K L → Except Error (Value K L)
  | (k, v) => update_value d k v
termination_by structural item => item

def update_value (d : Value K L) (k : K) : Value K L → Except Error (Value K L)
  | leaf v => d.set k (leaf v)
  | mapping v => do
    let dk ← d.get k
    let r ← update dk v
    d.set k r
termination_by structural v => v

end

mutual

/-- The right-biased merge. -/
def merge (d : List (K × Value K L)) : List (K × Value K L) → List (K × Value K L)
  | [] => d
  | item :: items => merge (merge_item d item) items
termination_by structural items => items

def merge_item (d : List (K × Value K L)) : K × Value K L → List (K × Value K L)
  | (k, v) => insert k (combine (lookup k d) v) d
termination_by structural item => item

/-- The second value wins unless both are mappings, which are merged. -/
def combine (x : Option (Value K L)) : Value K L → Value K L
  | leaf v => leaf v
  | mapping v =>
    match x with
    | some (mapping x) => mapping (merge x v)
    | _ => mapping v
termination_by structural v => v

end

/-- No key is there twice, at any depth. -/
inductive Valid : List (K × Value K L) → Prop
  | nil : Valid []
  | leaf {k : K} {v : L} {items : List (K × Value K L)} (hnone : lookup k items = none) (hrest : Valid items) :
      Valid ((k, leaf v) :: items)
  | mapping {k : K} {v items : List (K × Value K L)} (hnone : lookup k items = none) (hvalue : Valid v)
      (hrest : Valid items) : Valid ((k, mapping v) :: items)

/-- Nowhere does the first dictionary have a value that is no mapping where the second one has a mapping. -/
inductive Compatible : List (K × Value K L) → List (K × Value K L) → Prop
  | intro {d items : List (K × Value K L)}
      (hleaf : ∀ k v x, lookup k items = some (mapping v) → lookup k d ≠ some (leaf x))
      (hmapping : ∀ k v x, lookup k items = some (mapping v) → lookup k d = some (mapping x) → Compatible x v) :
      Compatible d items

section insert

variable {k k' : K} {v : Value K L} {d items : List (K × Value K L)}

theorem lookup_insert (k : K) (v : Value K L) (d : List (K × Value K L)) (k' : K) :
    lookup k' (insert k v d) = if k = k' then some v else lookup k' d := by
  induction d with
  | nil => rfl
  | cons item d ih =>
    obtain ⟨key, value⟩ := item
    rw [insert]
    by_cases hkey : key = k
    · subst hkey
      rw [if_pos rfl, lookup, lookup]
      split <;> rfl
    · rw [if_neg hkey, lookup, lookup, ih]
      by_cases hkey' : key = k'
      · rw [if_pos hkey', if_pos hkey', if_neg fun h => hkey (hkey'.trans h.symm)]
      · rw [if_neg hkey', if_neg hkey']

theorem insert_of_lookup (hlookup : lookup k d = some v) : insert k v d = d := by
  induction d with
  | nil => cases hlookup
  | cons item d ih =>
    obtain ⟨key, value⟩ := item
    rw [lookup] at hlookup
    rw [insert]
    by_cases hkey : key = k
    · rw [if_pos hkey] at hlookup ⊢
      rw [Option.some.inj hlookup]
    · rw [if_neg hkey] at hlookup ⊢
      rw [ih hlookup]

theorem insert_of_lookup_none (hlookup : lookup k d = none) : insert k v d = d ++ [(k, v)] := by
  induction d with
  | nil => rfl
  | cons item d ih =>
    obtain ⟨key, value⟩ := item
    rw [lookup] at hlookup
    rw [insert]
    by_cases hkey : key = k
    · rw [if_pos hkey] at hlookup
      cases hlookup
    · rw [if_neg hkey] at hlookup ⊢
      rw [ih hlookup, List.cons_append]

theorem lookup_append (d items : List (K × Value K L)) (k : K) :
    lookup k (d ++ items) = (lookup k d).or (lookup k items) := by
  induction d with
  | nil => rfl
  | cons item d ih =>
    obtain ⟨key, value⟩ := item
    rw [List.cons_append, lookup, lookup, ih]
    split <;> rfl

end insert

section merge

theorem merge_cons (d : List (K × Value K L)) (k : K) (v : Value K L) (items : List (K × Value K L)) :
    merge d ((k, v) :: items) = merge (insert k (combine (lookup k d) v) d) items := rfl

theorem valid_cons {k : K} {v : Value K L} {items : List (K × Value K L)} (hvalid : Valid ((k, v) :: items)) :
    lookup k items = none ∧ Valid items := by
  cases hvalid with
  | leaf hnone hrest => exact ⟨hnone, hrest⟩
  | mapping hnone hvalue hrest => exact ⟨hnone, hrest⟩

theorem Valid.of_lookup {items : List (K × Value K L)} (hvalid : Valid items) {k : K} {v : List (K × Value K L)}
    (hlookup : lookup k items = some (Value.mapping v)) : Valid v := by
  induction hvalid with
  | nil => cases hlookup
  | leaf hnone hrest ih =>
    rw [lookup] at hlookup
    split at hlookup
    · cases hlookup
    · exact ih hlookup
  | mapping hnone hvalue hrest _ ih =>
    rw [lookup] at hlookup
    split at hlookup
    · cases hlookup
      exact hvalue
    · exact ih hlookup

theorem sizeOf_lookup {items : List (K × Value K L)} {k : K} {v : List (K × Value K L)}
    (hlookup : lookup k items = some (mapping v)) : sizeOf v < sizeOf items := by
  induction items with
  | nil => cases hlookup
  | cons item items ih =>
    obtain ⟨key, value⟩ := item
    rw [lookup] at hlookup
    split at hlookup
    · cases hlookup
      simp only [List.cons.sizeOf_spec, Prod.mk.sizeOf_spec, mapping.sizeOf_spec]
      omega
    · have hlt := ih hlookup
      simp only [List.cons.sizeOf_spec]
      omega

/-- What the merge has under a key: the value of the second dictionary if it has the key and not both values
are mappings, their merge if both are, and the value of the first dictionary otherwise. -/
theorem lookup_merge {d items : List (K × Value K L)} (hvalid : Valid items) (k : K) :
    lookup k (merge d items) = match lookup k items with
      | none => lookup k d
      | some v => some (combine (lookup k d) v) := by
  induction items generalizing d with
  | nil => rfl
  | cons item items ih =>
    obtain ⟨key, value⟩ := item
    obtain ⟨hnone, hrest⟩ := valid_cons hvalid
    rw [merge_cons, ih hrest, lookup_insert]
    by_cases hkey : key = k
    · subst hkey
      rw [hnone, lookup, if_pos rfl]
      simp only [if_pos]
    · rw [lookup, if_neg hkey]
      simp only [if_neg hkey]

theorem merge_eq_self {d items : List (K × Value K L)} (hvalid : Valid items)
    (hsame : ∀ k v, lookup k items = some v → lookup k d = some (combine (lookup k d) v)) : merge d items = d := by
  induction items with
  | nil => rfl
  | cons item items ih =>
    obtain ⟨key, value⟩ := item
    obtain ⟨hnone, hrest⟩ := valid_cons hvalid
    have hkey := hsame key value (by rw [lookup, if_pos rfl])
    rw [merge_cons, insert_of_lookup hkey]
    apply ih hrest
    intro k v hlookup
    apply hsame k v
    rw [lookup, if_neg]
    · exact hlookup
    · rintro rfl
      rw [hnone] at hlookup
      cases hlookup

theorem merge_append {d items : List (K × Value K L)} (hvalid : Valid items)
    (hnew : ∀ k v, lookup k items = some v → lookup k d = none) : merge d items = d ++ items := by
  induction items generalizing d with
  | nil => exact (List.append_nil d).symm
  | cons item items ih =>
    obtain ⟨key, value⟩ := item
    obtain ⟨hnone, hrest⟩ := valid_cons hvalid
    have hkey : lookup key d = none := hnew key value (by rw [lookup, if_pos rfl])
    have hvalue : combine (lookup key d) value = value := by
      rw [hkey]
      cases value <;> rfl
    rw [merge_cons, hvalue, insert_of_lookup_none hkey, ih hrest, List.append_assoc, List.singleton_append]
    intro k v hlookup
    have hne : key ≠ k := by
      rintro rfl
      rw [hnone] at hlookup
      cases hlookup
    rw [lookup_append, hnew k v (by rw [lookup, if_neg hne, hlookup]), Option.none_or, lookup, if_neg hne, lookup]

/-- A dictionary is what an empty one becomes. -/
theorem merge_nil {items : List (K × Value K L)} (hvalid : Valid items) : merge [] items = items :=
  merge_append hvalid fun _ _ _ => rfl

theorem merge_self {items : List (K × Value K L)} (hvalid : Valid items) : merge items items = items := by
  apply merge_eq_self hvalid
  intro k v hlookup
  rw [hlookup]
  cases v with
  | leaf v => rfl
  | mapping v =>
    have hsmaller := sizeOf_lookup hlookup
    rw [combine, merge_self (hvalid.of_lookup hlookup)]
termination_by sizeOf items

/-- Merging twice is merging once. -/
theorem merge_idempotent {d items : List (K × Value K L)} (hvalid : Valid items) :
    merge (merge d items) items = merge d items := by
  apply merge_eq_self hvalid
  intro k v hlookup
  rw [lookup_merge hvalid, hlookup]
  simp only
  cases v with
  | leaf v => rfl
  | mapping v =>
    have hsmaller := sizeOf_lookup hlookup
    have hv := hvalid.of_lookup hlookup
    have hself : some (mapping v) = some (combine (some (mapping v)) (mapping v)) := by
      rw [combine, merge_self hv]
    cases hd : lookup k d with
    | none => exact hself
    | some x =>
      cases x with
      | leaf x => exact hself
      | mapping x => rw [combine, combine, merge_idempotent hv]
termination_by sizeOf items

end merge

section update

variable {d d' items : List (K × Value K L)}

/-- A step of the loop on a mapping leaves a mapping. -/
theorem update_value_spec {k : K} {v r : Value K L} (hstep : update_value (mapping d) k v = .ok r) :
    ∃ y, r = mapping (insert k y d) ∧ match v with
      | leaf value => y = leaf value
      | mapping v => update ((lookup k d).getD (mapping [])) v = .ok y := by
  cases v with
  | leaf value =>
    cases hstep
    exact ⟨leaf value, rfl, rfl⟩
  | mapping v =>
    obtain ⟨dk, hget, hstep⟩ := bind_eq_ok.mp hstep
    obtain ⟨y, hy, hset⟩ := bind_eq_ok.mp hstep
    cases hget
    cases hset
    exact ⟨y, rfl, hy⟩

/-- The keys that are not mentioned keep their values. -/
theorem update_keeps {r : Value K L} {k : K} (hupdate : update (mapping d) items = .ok r)
    (hnone : lookup k items = none) : ∃ e, r = mapping e ∧ lookup k e = lookup k d := by
  induction items generalizing d with
  | nil =>
    cases hupdate
    exact ⟨d, rfl, rfl⟩
  | cons item items ih =>
    obtain ⟨key, value⟩ := item
    obtain ⟨next, hstep, hrest⟩ := bind_eq_ok.mp hupdate
    obtain ⟨y, rfl, -⟩ := update_value_spec hstep
    rw [lookup] at hnone
    split at hnone
    · cases hnone
    · case isFalse hne =>
      obtain ⟨e, rfl, hlookup⟩ := ih hrest hnone
      refine ⟨e, rfl, ?_⟩
      rw [hlookup, lookup_insert, if_neg hne]

/-- A value that is no mapping has neither `get` nor items. -/
theorem update_leaf {x : L} {r : Value K L} (hupdate : update (leaf x) items = .ok r) : r = leaf x := by
  cases items with
  | nil =>
    cases hupdate
    rfl
  | cons item items =>
    obtain ⟨key, value⟩ := item
    obtain ⟨next, hstep, -⟩ := bind_eq_ok.mp hupdate
    cases value with
    | leaf value => cases hstep
    | mapping v =>
      obtain ⟨dk, hget, -⟩ := bind_eq_ok.mp hstep
      cases hget

theorem compatible_nil (items : List (K × Value K L)) : Compatible [] items :=
  .intro (fun _ _ _ _ h => by cases h) (fun _ _ _ _ h => by cases h)

/-- The other items do not see what the first one has changed. -/
theorem compatible_insert_iff {k : K} {y : Value K L} (hnone : lookup k items = none) :
    Compatible (insert k y d) items ↔ Compatible d items := by
  have hlookup : ∀ k' v, lookup k' items = some (mapping v) → lookup k' (insert k y d) = lookup k' d := by
    intro k' v hv
    rw [lookup_insert, if_neg]
    rintro rfl
    rw [hnone] at hv
    cases hv
  constructor
  · rintro ⟨hleaf, hmapping⟩
    exact .intro (fun k' v x hv => hlookup k' v hv ▸ hleaf k' v x hv)
      (fun k' v x hv hx => hmapping k' v x hv (hlookup k' v hv ▸ hx))
  · rintro ⟨hleaf, hmapping⟩
    exact .intro (fun k' v x hv => (hlookup k' v hv).symm ▸ hleaf k' v x hv)
      (fun k' v x hv hx => hmapping k' v x hv (hlookup k' v hv ▸ hx))

/-- The condition for the first item and for the others. -/
theorem compatible_cons_iff {k : K} {v : Value K L} (hnone : lookup k items = none) :
    Compatible d ((k, v) :: items) ↔
      (∀ w, v = mapping w → (∀ x, lookup k d ≠ some (leaf x)) ∧ ∀ x, lookup k d = some (mapping x) → Compatible x w) ∧
      Compatible d items := by
  have hother : ∀ k' w, lookup k' items = some (mapping w) → lookup k' ((k, v) :: items) = some (mapping w) := by
    intro k' w hw
    rw [lookup, if_neg]
    · exact hw
    · rintro rfl
      rw [hnone] at hw
      cases hw
  constructor
  · rintro ⟨hleaf, hmapping⟩
    refine ⟨?_, .intro (fun k' w x hw => hleaf k' w x (hother k' w hw))
      (fun k' w x hw => hmapping k' w x (hother k' w hw))⟩
    rintro w rfl
    have hfirst : lookup k ((k, mapping w) :: items) = some (mapping w) := if_pos rfl
    exact ⟨fun x => hleaf k w x hfirst, fun x => hmapping k w x hfirst⟩
  · rintro ⟨hfirst, ⟨hleaf, hmapping⟩⟩
    constructor
    · intro k' w x hw
      rw [lookup] at hw
      split at hw
      · case isTrue heq =>
        subst heq
        exact (hfirst w (Option.some.inj hw)).1 x
      · exact hleaf k' w x hw
    · intro k' w x hw hx
      rw [lookup] at hw
      split at hw
      · case isTrue heq =>
        subst heq
        exact (hfirst w (Option.some.inj hw)).2 x hx
      · exact hmapping k' w x hw hx

/-- A mapping that is found, or that is new, is merged before it is set. -/
theorem update_value_mapping {k : K} {w : List (K × Value K L)} (hw : Valid w)
    (hleaf : ∀ x, lookup k d ≠ some (leaf x))
    (hmerged : ∀ x, lookup k d = none ∧ x = [] ∨ lookup k d = some (mapping x) →
      update (mapping x) w = .ok (mapping (merge x w))) :
    update_value (mapping d) k (mapping w) = .ok (mapping (insert k (combine (lookup k d) (mapping w)) d)) := by
  have hnested : update ((lookup k d).getD (mapping [])) w = .ok (combine (lookup k d) (mapping w)) := by
    cases hd : lookup k d with
    | none =>
      rw [Option.getD_none, hmerged [] (.inl ⟨hd, rfl⟩), merge_nil hw]
      rfl
    | some x =>
      cases x with
      | leaf x => exact absurd hd (hleaf x)
      | mapping x => exact hmerged x (.inr hd)
  change (update ((lookup k d).getD (mapping [])) w >>= fun r => (mapping d).set k r) = _
  rw [hnested]
  rfl

theorem update_of_compatible (hvalid : Valid items) (hcompatible : Compatible d items) :
    update (mapping d) items = .ok (mapping (merge d items)) := by
  induction hvalid generalizing d with
  | nil => rfl
  | @leaf k v items hnone hrest ih =>
    change update (mapping (insert k (leaf v) d)) items = _
    exact ih ((compatible_insert_iff hnone).mpr ((compatible_cons_iff hnone).mp hcompatible).2)
  | @mapping k w items hnone hw hrest ih_value ih =>
    obtain ⟨hfirst, hcompatible⟩ := (compatible_cons_iff hnone).mp hcompatible
    obtain ⟨hleaf, hmapping⟩ := hfirst w rfl
    have hstep := update_value_mapping hw hleaf fun x hx => by
      rcases hx with ⟨-, rfl⟩ | hx
      · exact ih_value (compatible_nil w)
      · exact ih_value (hmapping x hx)
    change (update_value (Value.mapping d) k (Value.mapping w) >>= fun d => update d items) = _
    rw [hstep]
    exact ih ((compatible_insert_iff hnone).mpr hcompatible)

/-- The value of a key is final after its item, so it is that of the merge. -/
theorem value_eq_combine {k : K} {v y : Value K L} (hnone : lookup k items = none) (hrest : Valid items)
    (hupdate : update (mapping (insert k y d)) items = .ok (mapping (merge d ((k, v) :: items)))) :
    y = combine (lookup k d) v := by
  obtain ⟨e, he, hlookup⟩ := update_keeps hupdate hnone
  cases he
  rw [merge_cons, lookup_merge hrest, hnone] at hlookup
  simp only [lookup_insert, if_true] at hlookup
  exact (Option.some.inj hlookup).symm

theorem compatible_of_update (hvalid : Valid items)
    (hupdate : update (mapping d) items = .ok (mapping (merge d items))) : Compatible d items := by
  induction hvalid generalizing d with
  | nil => exact .intro (fun _ _ _ h => by cases h) (fun _ _ _ h => by cases h)
  | @leaf k v items hnone hrest ih =>
    have hcompatible := ih (d := insert k (leaf v) d) hupdate
    rw [compatible_insert_iff hnone] at hcompatible
    exact (compatible_cons_iff hnone).mpr ⟨(fun _ h => by cases h), hcompatible⟩
  | @mapping k w items hnone hw hrest ih_value ih =>
    obtain ⟨next, hstep, hitems⟩ := bind_eq_ok.mp hupdate
    obtain ⟨y, rfl, hy⟩ := update_value_spec hstep
    obtain rfl := value_eq_combine hnone hrest hitems
    have hcompatible := ih hitems
    rw [compatible_insert_iff hnone] at hcompatible
    refine (compatible_cons_iff hnone).mpr ⟨?_, hcompatible⟩
    intro w' hw'
    cases hw'
    simp only at hy
    constructor
    · intro x hx
      rw [hx] at hy
      have hleaf : Value.mapping w = leaf x := update_leaf hy
      cases hleaf
    · intro x hx
      rw [hx] at hy
      exact ih_value hy

/-- What is merged may be merged again. -/
theorem compatible_merge {d items : List (K × Value K L)} (hvalid : Valid items) : Compatible (merge d items) items := by
  have hself : ∀ {w : List (K × Value K L)}, Valid w → sizeOf w < sizeOf items → Compatible w w := by
    intro w hw hsmaller
    have hmerged := compatible_merge (d := w) hw
    rwa [merge_self hw] at hmerged
  constructor
  · intro k w x hw
    rw [lookup_merge hvalid, hw]
    simp only [combine]
    split <;> exact fun h => by cases h
  · intro k w x hw hx
    have hsmaller := sizeOf_lookup hw
    rw [lookup_merge hvalid, hw] at hx
    simp only [combine] at hx
    split at hx
    · cases hx
      exact compatible_merge (hvalid.of_lookup hw)
    · cases hx
      exact hself (hvalid.of_lookup hw) hsmaller
termination_by sizeOf items

end update

end Value

/-- A dictionary of dictionaries and other values. -/
structure PickleDict (K L : Type) [DecidableEq K] where
  items : List (K × Value K L)
  valid : Value.Valid items

namespace PickleDict

open Value (mapping merge Compatible)

variable {K L : Type} [DecidableEq K]

def update2 (self d2 : PickleDict K L) : Except Value.Error (Value K L) := (mapping self.items).update d2.items

/-- The update ends without an error, with the merge of the dictionaries, which a second update does not change. -/
structure Merges (d u : PickleDict K L) : Prop where
  merged : d.update2 u = .ok (mapping (merge d.items u.items))
  idempotent : (mapping (merge d.items u.items)).update u.items = .ok (mapping (merge d.items u.items))

/-- `update2` is the recursive merge if and only if no mapping meets a value that is none. -/
theorem merges_iff_compatible (d u : PickleDict K L) : d.Merges u ↔ Compatible d.items u.items := by
  constructor
  · intro hmerges
    exact Value.compatible_of_update u.valid hmerges.merged
  · intro hcompatible
    refine ⟨Value.update_of_compatible u.valid hcompatible, ?_⟩
    rw [Value.update_of_compatible u.valid (Value.compatible_merge u.valid), Value.merge_idempotent u.valid]

/-- A text under a key, and a mapping under the same key. -/
def text_under_key : PickleDict String String := ⟨[("cpu_type", .leaf "host")], .leaf rfl .nil⟩

def mapping_under_key : PickleDict String String :=
  ⟨[("cpu_type", mapping [("model", .leaf "host")])], .mapping rfl (.leaf rfl .nil) .nil⟩

/-- The text has no items that could be set. -/
theorem not_merges_text : ¬ ∀ d u : PickleDict String String, d.Merges u := by
  intro hclaim
  have hmerged := (hclaim text_under_key mapping_under_key).merged
  have herror : text_under_key.update2 mapping_under_key = .error .TypeError := rfl
  rw [herror] at hmerged
  cases hmerged

end PickleDict

end vms.utils
