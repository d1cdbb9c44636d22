import Mathlib.Logic.Function.Basic

namespace expiring_store

/-- A stored value together with the time it has left, if it may expire. -/
structure Entry (V : Type) where
  value : V
  ttl : Option Nat
  deriving DecidableEq

/-- The contents of a key-value store whose keys may expire. -/
abbrev Store (K V : Type) := K → Option (Entry V)

variable {K V : Type}

def Store.empty : Store K V := fun _ => none

def Store.get (s : Store K V) (key : K) : Option V := (s key).map Entry.value

def Store.has (s : Store K V) (key : K) : Bool := (s key).isSome

def Store.ttl (s : Store K V) (key : K) : Option Nat := (s key).bind Entry.ttl

/-- The key is due within the given delay. -/
def Store.Expires (s : Store K V) (delay : Nat) (key : K) : Prop :=
  ∃ t, s.ttl key = some t ∧ t ≤ delay

instance (s : Store K V) (delay : Nat) (key : K) : Decidable (s.Expires delay key) :=
  match h : s.ttl key with
  | none => isFalse (by simp [Store.Expires, h])
  | some t => decidable_of_iff (t ≤ delay) (by simp [Store.Expires, h])

/-- Lets time pass: keys that are due disappear, the others have less time left. -/
def Store.advance (s : Store K V) (delay : Nat) : Store K V := fun key =>
  if s.Expires delay key then none
  else (s key).map fun e => { e with ttl := e.ttl.map (· - delay) }

@[simp] theorem Store.get_empty (key : K) : (Store.empty : Store K V).get key = none := rfl

theorem Store.has_eq_isSome_get (s : Store K V) (key : K) : s.has key = (s.get key).isSome := by
  simp [Store.has, Store.get]

theorem Store.get_advance (s : Store K V) (delay : Nat) (key : K) :
    (s.advance delay).get key = if s.Expires delay key then none else s.get key := by
  by_cases h : s.Expires delay key <;> simp [Store.advance, Store.get, h, Function.comp_def]

variable [DecidableEq K]

def Store.put (s : Store K V) (key : K) (value : V) : Store K V :=
  Function.update s key (some ⟨value, none⟩)

/-- Sets the key only if it does not exist. -/
def Store.setnx (s : Store K V) (key : K) (value : V) : Store K V :=
  if s.has key then s else s.put key value

/-- Sets the time to live of an existing key, whoever stored it. -/
def Store.expire (s : Store K V) (key : K) (timeout : Nat) : Store K V :=
  Function.update s key ((s key).map fun e => { e with ttl := some timeout })

def Store.persist (s : Store K V) (key : K) : Store K V :=
  Function.update s key ((s key).map fun e => { e with ttl := none })

def Store.delete (s : Store K V) (key : K) : Store K V := Function.update s key none

theorem Store.get_put (s : Store K V) (key other : K) (value : V) :
    (s.put key value).get other = if other = key then some value else s.get other := by
  by_cases h : other = key <;> simp [Store.put, Store.get, h]

@[simp] theorem Store.get_expire (s : Store K V) (key other : K) (timeout : Nat) :
    (s.expire key timeout).get other = s.get other := by
  by_cases h : other = key <;> simp [Store.expire, Store.get, h, Function.comp_def]

@[simp] theorem Store.get_persist (s : Store K V) (key other : K) :
    (s.persist key).get other = s.get other := by
  by_cases h : other = key <;> simp [Store.persist, Store.get, h, Function.comp_def]

theorem Store.get_delete (s : Store K V) (key other : K) :
    (s.delete key).get other = if other = key then none else s.get other := by
  by_cases h : other = key <;> simp [Store.delete, Store.get, h]

theorem Store.get_of_get_delete {s : Store K V} {key other : K} {held : V}
    (hheld : (s.delete key).get other = some held) : s.get other = some held := by
  rw [Store.get_delete] at hheld
  split at hheld
  · cases hheld
  · exact hheld

theorem Store.get_setnx (s : Store K V) (key other : K) (value : V) :
    (s.setnx key value).get other =
      if other = key ∧ s.get other = none then some value else s.get other := by
  unfold Store.setnx
  by_cases hkey : s.has key = true
  · rw [if_pos hkey, if_neg]
    rintro ⟨rfl, hfree⟩
    simp [Store.has_eq_isSome_get, hfree] at hkey
  · rw [if_neg hkey, Store.get_put]
    have hfree : s.get key = none := by simpa [Store.has_eq_isSome_get] using hkey
    by_cases heq : other = key
    · simp [heq, hfree]
    · simp [heq]

end expiring_store
