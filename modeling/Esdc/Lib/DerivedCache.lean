import Mathlib.Data.Set.Insert
import Mathlib.Logic.Function.Basic

/-! A cache of values that can always be computed again from somewhere else. -/

namespace derived_cache

variable {K V : Type}

/-- Every cached value is the one that a new computation gives. -/
def Coherent (value : K → V) (cache : K → Option V) : Prop :=
  ∀ k v, cache k = some v → v = value k

/-- The cached value, or a new one that is stored. -/
def get_or_set [DecidableEq K] (cache : K → Option V) (key : K) (clear_cache : Bool) (computed : V) :
    V × (K → Option V) :=
  match clear_cache, cache key with
  | false, some res => (res, cache)
  | _, _ => (computed, Function.update cache key (some computed))

/-- The given keys are computed again, other keys at most where there was nothing. -/
structure Filled (value : K → V) (keys : Set K) (cache cache' : K → Option V) : Prop where
  recalculated : ∀ k ∈ keys, cache' k = some (value k)
  others : ∀ k ∉ keys, cache' k = cache k ∨ cache k = none ∧ cache' k = some (value k)

theorem coherent_empty (value : K → V) : Coherent value fun _ => none := by
  intro k v hcached
  cases hcached

theorem Filled.refl (value : K → V) (cache : K → Option V) : Filled value ∅ cache cache where
  recalculated := fun k hk => by cases hk
  others := fun k _ => Or.inl rfl

theorem Filled.trans {value : K → V} {keys keys' : Set K} {cache cache' cache'' : K → Option V}
    (hfirst : Filled value keys cache cache') (hsecond : Filled value keys' cache' cache'') :
    Filled value (keys ∪ keys') cache cache'' := by
  have hstays : ∀ k, cache' k = some (value k) → cache'' k = some (value k) := by
    intro k hcached
    by_cases hk : k ∈ keys'
    · exact hsecond.recalculated k hk
    · rcases hsecond.others k hk with hsame | ⟨hnone, -⟩
      · rw [hsame, hcached]
      · rw [hnone] at hcached
        cases hcached
  constructor
  · rintro k (hk | hk)
    · exact hstays k (hfirst.recalculated k hk)
    · exact hsecond.recalculated k hk
  · intro k hk
    rw [Set.mem_union, not_or] at hk
    rcases hfirst.others k hk.1 with hsame | ⟨hnone, hset⟩
    · rcases hsecond.others k hk.2 with hsame' | ⟨hnone', hset'⟩
      · exact Or.inl (hsame'.trans hsame)
      · exact Or.inr ⟨hsame.symm.trans hnone', hset'⟩
    · exact Or.inr ⟨hnone, hstays k hset⟩

/-- What is filled depends only on the values of the keys that are not left as they are. -/
theorem Filled.congr {value value' : K → V} {keys : Set K} {cache cache' : K → Option V}
    (hfilled : Filled value keys cache cache')
    (hvalue : ∀ k, k ∉ keys → cache' k = cache k ∨ value k = value' k) (hkeys : ∀ k ∈ keys, value k = value' k) :
    Filled value' keys cache cache' := by
  constructor
  · intro k hk
    rw [hfilled.recalculated k hk, hkeys k hk]
  · intro k hk
    rcases hvalue k hk with hsame | heq
    · exact Or.inl hsame
    · rw [← heq]
      exact hfilled.others k hk

section get_or_set

variable [DecidableEq K]

theorem filled_get_or_set (value : K → V) (cache : K → Option V) (key : K) (clear_cache : Bool) :
    Filled value {k | k = key ∧ clear_cache = true} cache (get_or_set cache key clear_cache (value key)).2 := by
  have hother : ∀ k ≠ key, Function.update cache key (some (value key)) k = cache k :=
    fun k hk => Function.update_of_ne hk _ _
  constructor
  · rintro k ⟨rfl, rfl⟩
    simp [get_or_set]
  · intro k hk
    by_cases heq : k = key
    · subst heq
      obtain rfl : clear_cache = false := Bool.eq_false_iff.mpr fun hclear => hk ⟨rfl, hclear⟩
      cases hcached : cache k with
      | some res => simp [get_or_set, hcached]
      | none => simp [get_or_set, hcached]
    · left
      cases clear_cache with
      | true => exact hother k heq
      | false =>
        cases hcached : cache key with
        | some res => simp [get_or_set, hcached]
        | none => simp [get_or_set, hcached, heq]

/-- Afterwards the key is cached with the value that was returned. -/
theorem get_or_set_cached (cache : K → Option V) (key : K) (clear_cache : Bool) (computed : V) :
    (get_or_set cache key clear_cache computed).2 key =
      some (get_or_set cache key clear_cache computed).1 := by
  cases clear_cache <;> cases hcached : cache key <;> simp [get_or_set, hcached]

theorem get_or_set_of_ne (cache : K → Option V) {key k : K} (clear_cache : Bool) (computed : V) (hk : k ≠ key) :
    (get_or_set cache key clear_cache computed).2 k = cache k := by
  cases clear_cache <;> cases hcached : cache key <;> simp [get_or_set, hcached, hk]

end get_or_set

/-- After the values have changed, filling makes a coherent cache coherent again
exactly when every cached key with another value is computed again. -/
theorem Filled.coherent_iff {value value' : K → V} {keys : Set K} {cache cache' : K → Option V}
    (hfilled : Filled value' keys cache cache') (hcoherent : Coherent value cache) :
    Coherent value' cache' ↔ ∀ k, cache k ≠ none → value' k ≠ value k → k ∈ keys := by
  constructor
  · intro hcoherent' k hcached hchanged
    by_contra hk
    obtain ⟨v, hv⟩ := Option.ne_none_iff_exists'.mp hcached
    rcases hfilled.others k hk with hsame | ⟨hnone, -⟩
    · rw [hv] at hsame
      rw [← hcoherent k v hv] at hchanged
      exact hchanged (hcoherent' k v hsame).symm
    · exact hcached hnone
  · intro hcovered k v hv
    by_cases hk : k ∈ keys
    · rw [hfilled.recalculated k hk] at hv
      exact (Option.some.inj hv).symm
    · rcases hfilled.others k hk with hsame | ⟨-, hset⟩
      · rw [hsame] at hv
        by_contra hne
        have hold := hcoherent k v hv
        apply hk (hcovered k (by rw [hv]; exact Option.some_ne_none v) fun heq => ?_)
        exact hne (hold.trans heq.symm)
      · rw [hset] at hv
        exact (Option.some.inj hv).symm

end derived_cache
