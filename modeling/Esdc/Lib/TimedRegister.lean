import Mathlib

namespace timed_register

variable {V Time : Type}

/-- A value together with the time of its last change, if one is known. -/
structure Register (V Time : Type) where
  value : V
  changed : Option Time
  deriving DecidableEq

structure Update (V Time : Type) where
  value : V
  time : Time
  deriving DecidableEq

variable [DecidableEq V] [LinearOrder Time]

/-- Takes an update over unless the value is the stored one already, in which
case the time of the update is lost, or the last change is later. -/
def Register.observe (r : Register V Time) (u : Update V Time) : Register V Time :=
  if r.value = u.value then r
  else if ∃ c ∈ r.changed, u.time < c then r
  else ⟨u.value, some u.time⟩

def Register.observeAll (r : Register V Time) (us : List (Update V Time)) : Register V Time :=
  us.foldl Register.observe r

/-- Among the stored value and the updates one has the value `v`, and nothing
later than such a one has another value. -/
def Register.Settles (r : Register V Time) (us : List (Update V Time)) (v : V) : Prop :=
  (r.value = v ∨ ∃ u ∈ us, u.value = v) ∧
    (r.value = v → ∀ u ∈ us, u.value = v) ∧
    ∀ u ∈ us, ∀ w ∈ us, u.value = v → u.time < w.time → w.value = v

instance (r : Register V Time) (us : List (Update V Time)) (v : V) : Decidable (r.Settles us v) :=
  inferInstanceAs (Decidable (_ ∧ _ ∧ _))

/-- The register has the value `v`, and no update can take it away. -/
def Register.Settled (r : Register V Time) (us : List (Update V Time)) (v : V) : Prop :=
  r.value = v ∧ ∀ u ∈ us, u.value ≠ v → ∃ c ∈ r.changed, u.time < c

/-- The register has another value, and will accept any update to `v`. -/
def Register.Waits (r : Register V Time) (us : List (Update V Time)) (v : V) : Prop :=
  r.value ≠ v ∧ ∀ u ∈ us, u.value = v → ∀ c ∈ r.changed, ¬ u.time < c

theorem Register.observe_of_eq {r : Register V Time} {u : Update V Time}
    (heq : r.value = u.value) : r.observe u = r := if_pos heq

theorem Register.observe_of_fresh {r : Register V Time} {u : Update V Time}
    (hne : r.value ≠ u.value) (hfresh : ∀ c ∈ r.changed, ¬ u.time < c) :
    r.observe u = ⟨u.value, some u.time⟩ := by
  rw [Register.observe, if_neg hne, if_neg]
  rintro ⟨c, hc, hstale⟩
  exact hfresh c hc hstale

theorem Register.observe_value {r : Register V Time} {u : Update V Time} :
    (r.observe u).value = r.value ∨ (r.observe u).value = u.value := by
  unfold Register.observe
  split
  · exact .inl rfl
  · split
    · exact .inl rfl
    · exact .inr rfl

@[simp] theorem Register.observeAll_nil (r : Register V Time) : r.observeAll [] = r := rfl

@[simp] theorem Register.observeAll_cons (r : Register V Time) (u : Update V Time)
    (us : List (Update V Time)) : r.observeAll (u :: us) = (r.observe u).observeAll us := rfl

theorem Register.observeAll_append (r : Register V Time) (us ws : List (Update V Time)) :
    r.observeAll (us ++ ws) = (r.observeAll us).observeAll ws := List.foldl_append

theorem Register.observeAll_of_eq {r : Register V Time} {us : List (Update V Time)}
    (heq : ∀ u ∈ us, u.value = r.value) : r.observeAll us = r := by
  induction us with
  | nil => rfl
  | cons u us ih =>
    rw [Register.observeAll_cons, Register.observe_of_eq (heq u List.mem_cons_self).symm]
    exact ih fun w hw => heq w (List.mem_cons_of_mem u hw)

/-- Updates to other values never make up a value. -/
theorem Register.observeAll_value_ne {r : Register V Time} {us : List (Update V Time)} {v : V}
    (hr : r.value ≠ v) (hus : ∀ u ∈ us, u.value ≠ v) : (r.observeAll us).value ≠ v := by
  induction us generalizing r with
  | nil => exact hr
  | cons u us ih =>
    refine ih ?_ fun w hw => hus w (List.mem_cons_of_mem u hw)
    rcases Register.observe_value (r := r) (u := u) with h | h
    · rwa [h]
    · rw [h]
      exact hus u List.mem_cons_self

theorem Register.Settled.observe {r : Register V Time} {us : List (Update V Time)} {v : V}
    (hsettled : r.Settled us v) {u : Update V Time} (hu : u ∈ us) : r.observe u = r := by
  by_cases heq : r.value = u.value
  · exact Register.observe_of_eq heq
  · rw [Register.observe, if_neg heq, if_pos]
    exact hsettled.2 u hu fun huv => heq (hsettled.1.trans huv.symm)

theorem Register.Settled.observeAll {r : Register V Time} {us ws : List (Update V Time)} {v : V}
    (hsettled : r.Settled us v) (hws : ∀ w ∈ ws, w ∈ us) : (r.observeAll ws).value = v := by
  induction ws with
  | nil => exact hsettled.1
  | cons w ws ih =>
    rw [Register.observeAll_cons, hsettled.observe (hws w List.mem_cons_self)]
    exact ih fun x hx => hws x (List.mem_cons_of_mem w hx)

theorem Register.Waits.observe_ne {r : Register V Time} {us : List (Update V Time)} {v : V}
    (hsettles : ∀ u ∈ us, ∀ w ∈ us, u.value = v → u.time < w.time → w.value = v)
    (hwaits : r.Waits us v) {u : Update V Time} (hu : u ∈ us) (hne : u.value ≠ v) :
    (r.observe u).Waits us v := by
  by_cases hkept : r.observe u = r
  · rwa [hkept]
  · have hmoved : r.observe u = ⟨u.value, some u.time⟩ := by
      unfold Register.observe at hkept ⊢
      split_ifs at hkept ⊢ <;> first | rfl | exact absurd rfl hkept
    rw [hmoved]
    refine ⟨hne, fun w hw hwv c hc => ?_⟩
    obtain rfl : u.time = c := Option.some.inj hc
    exact fun hlt => hne (hsettles w hw u hu hwv hlt)

theorem Register.Waits.observe_eq {r : Register V Time} {us : List (Update V Time)} {v : V}
    (htimes : (us.map Update.time).Nodup)
    (hsettles : ∀ u ∈ us, ∀ w ∈ us, u.value = v → u.time < w.time → w.value = v)
    (hwaits : r.Waits us v) {u : Update V Time} (hu : u ∈ us) (heq : u.value = v) :
    (r.observe u).Settled us v := by
  rw [Register.observe_of_fresh (fun h => hwaits.1 (h.trans heq)) (hwaits.2 u hu heq)]
  refine ⟨heq, fun w hw hne => ⟨u.time, rfl, ?_⟩⟩
  have hdistinct : w.time ≠ u.time := fun htime =>
    hne (List.inj_on_of_nodup_map htimes hw hu htime ▸ heq)
  have hnotlater : ¬ u.time < w.time := fun hlt => hne (hsettles u hu w hw heq hlt)
  exact lt_of_le_of_ne (not_lt.mp hnotlater) hdistinct

theorem Register.Waits.observeAll {r : Register V Time} {us ws : List (Update V Time)} {v : V}
    (htimes : (us.map Update.time).Nodup)
    (hsettles : ∀ u ∈ us, ∀ w ∈ us, u.value = v → u.time < w.time → w.value = v)
    (hwaits : r.Waits us v) (hws : ∀ w ∈ ws, w ∈ us) (hsome : ∃ w ∈ ws, w.value = v) :
    (r.observeAll ws).value = v := by
  induction ws generalizing r with
  | nil =>
    obtain ⟨w, hw, -⟩ := hsome
    cases hw
  | cons w ws ih =>
    have hw : w ∈ us := hws w List.mem_cons_self
    have htail : ∀ x ∈ ws, x ∈ us := fun x hx => hws x (List.mem_cons_of_mem w hx)
    by_cases heq : w.value = v
    · exact (hwaits.observe_eq htimes hsettles hw heq).observeAll htail
    · refine ih (hwaits.observe_ne hsettles hw heq) htail ?_
      obtain ⟨x, hx, hxv⟩ := hsome
      rcases List.mem_cons.mp hx with rfl | hx
      · exact absurd hxv heq
      · exact ⟨x, hx, hxv⟩

/-- A register that has the value `v` loses it for good when updates to `v` come
before a fresh update to another value and no update to `v` comes after it. -/
theorem Register.observeAll_lost {r : Register V Time} {us ws : List (Update V Time)}
    {u : Update V Time} {v : V} (hr : r.value = v) (hus : ∀ x ∈ us, x.value = v)
    (hu : u.value ≠ v) (hfresh : ∀ c ∈ r.changed, ¬ u.time < c) (hws : ∀ x ∈ ws, x.value ≠ v) :
    (r.observeAll (us ++ u :: ws)).value ≠ v := by
  have hkept : r.observeAll us = r := Register.observeAll_of_eq (by rwa [hr])
  rw [Register.observeAll_append, hkept, Register.observeAll_cons,
    Register.observe_of_fresh (fun h => hu (h.symm.trans hr)) hfresh]
  exact Register.observeAll_value_ne hu hws

private theorem perm_split (us : List (Update V Time)) (v : V) {u : Update V Time} (hu : u ∈ us)
    (hne : u.value ≠ v) :
    (us.filter (fun x => x.value = v) ++ u :: (us.filter (fun x => ¬ x.value = v)).erase u).Perm us := by
  have hmem : u ∈ us.filter (fun x => ¬ x.value = v) := by simp [hu, hne]
  refine .trans (.append_left _ (List.perm_cons_erase hmem).symm) ?_
  simpa using List.filter_append_perm (fun x => decide (x.value = v)) us

/-- Whatever the order of updates that are later than the last change, the
register ends with the value `v` exactly when the updates settle on it. -/
theorem Register.settles_iff {r : Register V Time} {us : List (Update V Time)} {v : V}
    (htimes : (us.map Update.time).Nodup) (hlater : ∀ u ∈ us, ∀ c ∈ r.changed, c < u.time) :
    (∀ order : List (Update V Time), order.Perm us → (r.observeAll order).value = v) ↔
      r.Settles us v := by
  constructor
  · intro hall
    by_contra hsettles
    have hfresh : ∀ u ∈ us, ∀ c ∈ r.changed, ¬ u.time < c :=
      fun u hu c hc => not_lt_of_gt (hlater u hu c hc)
    by_cases hr : r.value = v
    · obtain ⟨u, hu, hne⟩ : ∃ u ∈ us, u.value ≠ v := by
        by_contra hnone
        push Not at hnone
        exact hsettles ⟨.inl hr, fun _ => hnone, fun _ _ w hw _ _ => hnone w hw⟩
      refine Register.observeAll_lost hr ?_ hne (hfresh u hu) ?_ (hall _ (perm_split us v hu hne))
      · simp
      · intro x hx
        simpa using (List.mem_filter.mp (List.mem_of_mem_erase hx)).2
    · by_cases hsome : ∃ u ∈ us, u.value = v
      · obtain ⟨u, hu, w, hw, huv, hlt, hwv⟩ :
            ∃ u ∈ us, ∃ w ∈ us, u.value = v ∧ u.time < w.time ∧ w.value ≠ v := by
          by_contra hnone
          push Not at hnone
          exact hsettles ⟨.inr hsome, fun h => absurd h hr,
            fun u hu w hw huv hlt => hnone u hu w hw huv hlt⟩
        have hmem : u ∈ us.filter (fun x => x.value = v) := by simp [hu, huv]
        -- the update to `v` comes first, the others to `v` are lost on it
        have hperm : (u :: ((us.filter (fun x => x.value = v)).erase u ++
            w :: (us.filter (fun x => ¬ x.value = v)).erase w)).Perm us := by
          rw [← List.cons_append]
          exact .trans (.append_right _ (List.perm_cons_erase hmem).symm) (perm_split us v hw hwv)
        refine absurd (hall _ hperm) ?_
        rw [Register.observeAll_cons,
          Register.observe_of_fresh (fun h => hr (h.trans huv)) (hfresh u hu)]
        refine Register.observeAll_lost huv ?_ hwv ?_ ?_
        · intro x hx
          simpa using (List.mem_filter.mp (List.mem_of_mem_erase hx)).2
        · intro c hc
          obtain rfl : u.time = c := Option.some.inj hc
          exact not_lt_of_gt hlt
        · intro x hx
          simpa using (List.mem_filter.mp (List.mem_of_mem_erase hx)).2
      · refine Register.observeAll_value_ne hr ?_ (hall us (.refl us))
        exact fun u hu huv => hsome ⟨u, hu, huv⟩
  · rintro ⟨hsome, hstored, hsettles⟩ order hperm
    have hmem : ∀ w ∈ order, w ∈ us := fun w hw => hperm.mem_iff.mp hw
    by_cases hr : r.value = v
    · exact Register.Settled.observeAll ⟨hr, fun u hu hne => absurd (hstored hr u hu) hne⟩ hmem
    · obtain ⟨u, hu, huv⟩ := hsome.resolve_left hr
      exact Register.Waits.observeAll htimes hsettles
        ⟨hr, fun w hw _ c hc => not_lt_of_gt (hlater w hw c hc)⟩ hmem
        ⟨u, hperm.mem_iff.mpr hu, huv⟩

end timed_register
