import Mathlib

/-! Limits on what happens within a period, from the times of what happened before. -/

namespace sliding_window

variable {T : Type} [AddCommGroup T] [LinearOrder T] [IsOrderedAddMonoid T] {period now : T} {times : List T}

section windows

/-- The times that the period up to `now` covers. The newest time comes first. -/
def recent (period now : T) (times : List T) : List T := times.filter (now - period < ·)

/-- Pops the times that the period no longer covers from the end. -/
def prune (period now : T) (times : List T) : List T := times.rdropWhile (· ≤ now - period)

def Sorted (times : List T) : Prop := times.Pairwise (· ≥ ·)

/-- Less than `num` others lie in the period before each time. -/
def Limited (num : ℤ) (period : T) : List T → Prop
  | [] => True
  | t :: times => ((recent period t times).length : ℤ) < num ∧ Limited num period times

omit [IsOrderedAddMonoid T] in
theorem mem_recent {t : T} : t ∈ recent period now times ↔ t ∈ times ∧ now - period < t := by
  rw [recent, List.mem_filter, decide_eq_true_eq]

omit [IsOrderedAddMonoid T] in
theorem Sorted.recent (hsorted : Sorted times) : Sorted (recent period now times) := hsorted.filter _

omit [IsOrderedAddMonoid T] in
/-- With the newest time first, nothing but what is over is popped. -/
theorem prune_eq_recent (hsorted : Sorted times) : prune period now times = recent period now times := by
  induction times using List.reverseRecOn with
  | nil => rfl
  | append_singleton times t ih =>
    obtain ⟨hinit, -, hlast⟩ := List.pairwise_append.mp hsorted
    by_cases hover : t ≤ now - period
    · have hpop : prune period now (times ++ [t]) = prune period now times :=
        List.rdropWhile_concat_pos _ _ _ (decide_eq_true hover)
      rw [hpop, ih hinit, recent, recent, List.filter_append, List.filter_cons_of_neg, List.filter_nil, List.append_nil]
      rw [decide_eq_true_eq]
      exact not_lt.mpr hover
    · have hstop : prune period now (times ++ [t]) = times ++ [t] :=
        List.rdropWhile_concat_neg _ _ _ (by rwa [decide_eq_true_eq])
      rw [hstop, recent, eq_comm, List.filter_eq_self]
      intro s hs
      have hlater : t ≤ s := (List.mem_append.mp hs).elim (fun h => hlast s h t (List.mem_singleton_self t))
        fun h => (List.mem_singleton.mp h).ge
      exact decide_eq_true (lt_of_lt_of_le (not_le.mp hover) hlater)

/-- A later window has nothing that an earlier one does not have. -/
theorem recent_recent {later : T} (hlater : now ≤ later) :
    recent period later (recent period now times) = recent period later times := by
  rw [recent, recent, List.filter_filter]
  refine List.filter_congr fun t _ => ?_
  rw [Bool.and_eq_left_iff_imp, decide_eq_true_eq, decide_eq_true_eq]
  exact fun h => lt_of_le_of_lt (sub_le_sub_right hlater period) h

/-- A period that starts when the last time is over covers none. -/
theorem recent_eq_nil (hover : ∀ t ∈ times, t + period ≤ now) : recent period now times = [] := by
  rw [recent, List.filter_eq_nil_iff]
  intro t ht
  rw [decide_eq_true_eq, not_lt]
  exact le_sub_right_of_add_le (hover t ht)

omit [IsOrderedAddMonoid T] in
theorem recent_cons (t : T) : recent period now (t :: times) =
    if now - period < t then t :: recent period now times else recent period now times := by
  rw [recent, List.filter_cons]
  by_cases h : now - period < t
  · rw [if_pos (decide_eq_true h), if_pos h]
    rfl
  · rw [if_neg (by rwa [decide_eq_true_eq]), if_neg h]
    rfl

/-- No period, wherever it starts, covers more times than the limit. -/
theorem Limited.length_le {num : ℤ} (hlimited : Limited num period times) (start : T) :
    ((times.filter fun t => start < t ∧ t ≤ start + period).length : ℤ) ≤ max num 0 := by
  induction times with
  | nil => exact le_max_right _ _
  | cons t times ih =>
    rw [List.filter_cons]
    split
    · case isTrue hin =>
      obtain ⟨-, hend⟩ := of_decide_eq_true hin
      have hstart : t - period ≤ start := sub_le_iff_le_add.mpr hend
      have hsub : (times.filter fun t => start < t ∧ t ≤ start + period).Sublist (recent period t times) := by
        refine List.monotone_filter_right times fun s hs => ?_
        exact decide_eq_true (lt_of_le_of_lt hstart (of_decide_eq_true hs).1)
      have hlength : ((times.filter fun t => start < t ∧ t ≤ start + period).length : ℤ) ≤ (recent period t times).length :=
        Int.ofNat_le.mpr hsub.length_le
      rw [List.length_cons, Nat.cast_add, Nat.cast_one]
      exact le_max_of_le_left (Int.add_one_le_of_lt (lt_of_le_of_lt hlength hlimited.1))
    · exact ih hlimited.2

/-- The window that ends now has no more times than the limit. -/
theorem Limited.recent_length_le {num : ℤ} (hlimited : Limited num period times) (hbound : ∀ t ∈ times, t ≤ now) :
    ((recent period now times).length : ℤ) ≤ max num 0 := by
  have hwindow : recent period now times = times.filter fun t => now - period < t ∧ t ≤ now - period + period := by
    refine List.filter_congr fun t ht => ?_
    rw [sub_add_cancel, decide_eq_decide]
    exact ⟨fun h => ⟨h, hbound t ht⟩, And.left⟩
  rw [hwindow]
  exact hlimited.length_le (now - period)

end windows

section wait

variable {oldest later : T}

/-- The window keeps its times until the oldest of them is over. -/
theorem recent_of_lt (hsorted : Sorted times) (holdest : (recent period now times).getLast? = some oldest)
    (hle : now ≤ later) (hlt : later < oldest + period) : recent period later times = recent period now times := by
  rw [← recent_recent hle, recent, List.filter_eq_self]
  intro t ht
  have hlast : oldest ≤ t := by
    obtain ⟨init, hinit⟩ := List.getLast?_eq_some_iff.mp holdest
    have hsorted' : Sorted (recent period now times) := hsorted.recent
    rw [hinit, Sorted, List.pairwise_append] at hsorted'
    rw [hinit] at ht
    exact (List.mem_append.mp ht).elim (fun h => hsorted'.2.2 t h oldest (List.mem_singleton_self _))
      fun h => (List.mem_singleton.mp h).ge
  exact decide_eq_true (lt_of_lt_of_le (sub_lt_iff_lt_add.mpr hlt) hlast)

/-- Then it has less. -/
theorem recent_length_lt (holdest : (recent period now times).getLast? = some oldest) (hle : now ≤ later)
    (hover : oldest + period ≤ later) : (recent period later times).length < (recent period now times).length := by
  obtain ⟨init, hinit⟩ := List.getLast?_eq_some_iff.mp holdest
  have hsub : (recent period later times).Sublist init := by
    rw [← recent_recent hle, hinit, recent, List.filter_append, List.filter_cons_of_neg, List.filter_nil, List.append_nil]
    · exact List.filter_sublist
    · rw [decide_eq_true_eq, not_lt]
      exact le_sub_right_of_add_le hover
  rw [hinit, List.length_append, List.length_singleton]
  exact Nat.lt_succ_of_le hsub.length_le

end wait

section store

/-- Times that are stored up to a deadline. -/
structure Kept (T : Type) where
  times : List T
  deadline : T
  deriving DecidableEq

/-- What is left at a time. -/
def read (kept : Option (Kept T)) (now : T) : List T :=
  match kept with
  | some kept => if kept.deadline ≤ now then [] else kept.times
  | none => []

/-- From `last` on, the store tells which of the times are recent. -/
structure Keeps (period last : T) (kept : Option (Kept T)) (times : List T) : Prop where
  sorted : ∀ k ∈ kept, Sorted k.times
  bound : ∀ t ∈ times, t ≤ last
  stored : ∀ k ∈ kept, ∀ t ∈ k.times, t ≤ last
  recent_eq : ∀ now, last ≤ now → recent period now (read kept now) = recent period now times

variable {last : T} {kept : Option (Kept T)}

omit [IsOrderedAddMonoid T] in
theorem keeps_none (period last : T) : Keeps period last none [] :=
  ⟨fun _ h => (by cases h), List.forall_mem_nil _, fun _ h => (by cases h), fun _ _ => rfl⟩

omit [IsOrderedAddMonoid T] in
theorem Keeps.mono (hkeeps : Keeps period last kept times) (hle : last ≤ now) : Keeps period now kept times :=
  ⟨hkeeps.sorted, fun t ht => (hkeeps.bound t ht).trans hle, fun k hk t ht => (hkeeps.stored k hk t ht).trans hle,
    fun later hlater => hkeeps.recent_eq later (hle.trans hlater)⟩

omit [IsOrderedAddMonoid T] in
/-- What is left of the store, without what is over, are the recent ones of all the times. -/
theorem Keeps.prune_read (hkeeps : Keeps period last kept times) (hle : last ≤ now) :
    prune period now (read kept now) = recent period now times := by
  rw [← hkeeps.recent_eq now hle]
  refine prune_eq_recent ?_
  cases hkept : kept with
  | none => exact List.Pairwise.nil
  | some k =>
    rw [read]
    split
    · exact List.Pairwise.nil
    · exact hkeeps.sorted k hkept

/-- A new time is stored with the recent ones for as long as the period. -/
theorem Keeps.insert (hkeeps : Keeps period last kept times) (hle : last ≤ now) (hsorted : Sorted times) :
    Keeps period now (some ⟨now :: recent period now times, now + period⟩) (now :: times) := by
  have hbound : ∀ t ∈ times, t ≤ now := fun t ht => (hkeeps.bound t ht).trans hle
  have hrecent : ∀ t ∈ recent period now times, t ≤ now := fun t ht => hbound t (mem_recent.mp ht).1
  refine ⟨?_, ?_, ?_, ?_⟩
  · intro k hk
    rw [← Option.some.inj hk]
    exact List.pairwise_cons.mpr ⟨hrecent, hsorted.recent⟩
  · exact List.forall_mem_cons.mpr ⟨le_rfl, hbound⟩
  · intro k hk
    rw [← Option.some.inj hk]
    exact List.forall_mem_cons.mpr ⟨le_rfl, hrecent⟩
  · intro later hlater
    rw [read]
    split
    · case isTrue hover =>
      refine (recent_eq_nil ?_).symm
      exact List.forall_mem_cons.mpr ⟨hover, fun t ht => (add_le_add_left (hbound t ht) period).trans hover⟩
    · rw [recent_cons, recent_cons, recent_recent hlater]

end store

end sliding_window
