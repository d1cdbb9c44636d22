import Mathlib

namespace order_by

variable {α : Type} (le : α → α → Prop)

/-- `row` comes last of the rows with `p` when `rows` are sorted and equal rows keep their order. -/
def LastOf (p : α → Bool) (rows : List α) (row : α) : Prop :=
  ∃ before after, rows = before ++ row :: after ∧ p row ∧
    (∀ r ∈ before, p r → le r row) ∧ ∀ r ∈ after, p r → ¬ le row r

/-- `row'` comes behind `row` when `rows` are sorted and equal rows keep their order. -/
def After (rows : List α) (row row' : α) : Prop :=
  le row row' ∧ (le row' row → [row, row'].Sublist rows)

variable {le}

theorem LastOf.holds {p : α → Bool} {rows : List α} {row : α} (hlast : LastOf le p rows row) : p row := by
  obtain ⟨_, _, _, hrow, _⟩ := hlast
  exact hrow

theorem LastOf.mem {p : α → Bool} {rows : List α} {row : α} (hlast : LastOf le p rows row) : row ∈ rows := by
  obtain ⟨before, after, rfl, _⟩ := hlast
  simp

/-- No row with `p` is after the last one. -/
theorem LastOf.le_last [Std.Total le] {p : α → Bool} {rows : List α} {row : α} (hlast : LastOf le p rows row) :
    ∀ r ∈ rows, p r → le r row := by
  obtain ⟨before, after, rfl, hrow, hbefore, hafter⟩ := hlast
  intro r hmem hr
  rcases List.mem_append.mp hmem with hmem | hmem
  · exact hbefore r hmem hr
  · rcases List.mem_cons.mp hmem with rfl | hmem
    · exact refl_of le r
    · exact (total_of le r row).resolve_right (hafter r hmem hr)

theorem not_sublist_swap {rows : List α} {a b : α} (hnodup : rows.Nodup) (hab : [a, b].Sublist rows) :
    ¬ [b, a].Sublist rows := by
  induction rows with
  | nil => cases hab
  | cons c rows ih =>
    obtain ⟨hc, hnodup⟩ := List.nodup_cons.mp hnodup
    intro hba
    cases hab with
    | cons _ hab =>
      cases hba with
      | cons _ hba => exact ih hnodup hab hba
      | cons_cons _ _ => exact hc (hab.subset (by simp))
    | cons_cons _ hb =>
      cases hba with
      | cons _ hba => exact hc (hba.subset (by simp))
      | cons_cons _ _ => exact hc (hb.subset (by simp))

theorem LastOf.after [Std.Total le] {p : α → Bool} {rows : List α} {row r : α} (hlast : LastOf le p rows row)
    (hmem : r ∈ rows) (hr : p r) (hne : r ≠ row) : After le rows r row := by
  refine ⟨hlast.le_last r hmem hr, fun hle => ?_⟩
  obtain ⟨before, after, rfl, _, _, hafter⟩ := hlast
  rcases List.mem_append.mp hmem with hmem | hmem
  · have hrow : [row].Sublist (row :: after) := by simp
    exact (List.singleton_sublist.mpr hmem).append hrow
  · rcases List.mem_cons.mp hmem with rfl | hmem
    · exact absurd rfl hne
    · exact absurd hle (hafter r hmem hr)

theorem LastOf.not_after [Std.Total le] {p : α → Bool} {rows : List α} {row r : α} (hlast : LastOf le p rows row)
    (hnodup : rows.Nodup) (hmem : r ∈ rows) (hr : p r) : ¬ After le rows row r := by
  rintro ⟨hle, hsublist⟩
  by_cases hne : r = row
  · subst hne
    have htwice := hsublist (refl_of le r)
    exact not_sublist_swap hnodup htwice htwice
  · obtain ⟨hle', hsublist'⟩ := hlast.after hmem hr hne
    exact not_sublist_swap hnodup (hsublist hle') (hsublist' hle)

/-- Every row without `q` is followed by another one just when the last row has `q`. -/
theorem LastOf.forall_exists_after_iff [Std.Total le] {p : α → Bool} {q : α → Prop} {rows : List α} {row : α}
    (hlast : LastOf le p rows row) (hnodup : rows.Nodup) :
    (∀ r ∈ rows, p r → ¬ q r → ∃ r' ∈ rows, p r' ∧ After le rows r r') ↔ q row := by
  constructor
  · intro hfollowed
    by_contra hq
    obtain ⟨r, hmem, hr, hafter⟩ := hfollowed row hlast.mem hlast.holds hq
    exact hlast.not_after hnodup hmem hr hafter
  · intro hq r hmem hr hnot
    have hne : r ≠ row := fun heq => hnot (heq ▸ hq)
    exact ⟨row, hlast.mem, hlast.holds, hlast.after hmem hr hne⟩

theorem exists_lastOf [Std.Total le] [IsTrans α le] {p : α → Bool} {rows : List α} (hsome : ∃ r ∈ rows, p r) :
    ∃ row, LastOf le p rows row := by
  induction rows with
  | nil =>
    obtain ⟨r, hmem, _⟩ := hsome
    cases hmem
  | cons a rows ih =>
    by_cases hrows : ∃ r ∈ rows, p r
    · obtain ⟨row, before, after, rfl, hrow, hbefore, hafter⟩ := ih hrows
      by_cases ha : p a ∧ ¬ le a row
      · -- everything else is before `row`, and so before `a`
        refine ⟨a, [], before ++ row :: after, rfl, ha.1, by simp, ?_⟩
        intro r hmem hr har
        rcases List.mem_append.mp hmem with hmem | hmem
        · exact ha.2 (trans_of le har (hbefore r hmem hr))
        · rcases List.mem_cons.mp hmem with rfl | hmem
          · exact ha.2 har
          · exact ha.2 (trans_of le har ((total_of le r row).resolve_right (hafter r hmem hr)))
      · refine ⟨row, a :: before, after, rfl, hrow, ?_, hafter⟩
        intro r hmem hr
        rcases List.mem_cons.mp hmem with rfl | hmem
        · by_contra hle
          exact ha ⟨hr, hle⟩
        · exact hbefore r hmem hr
    · obtain ⟨r, hmem, hr⟩ := hsome
      rcases List.mem_cons.mp hmem with rfl | hmem
      · refine ⟨r, [], rows, rfl, hr, by simp, ?_⟩
        intro r' hmem' hr'
        exact absurd ⟨r', hmem', hr'⟩ hrows
      · exact absurd ⟨r, hmem, hr⟩ hrows

section insertion

variable [DecidableRel le] {p : α → Bool}

/-- A row in front changes nothing about the last one. -/
theorem getLast?_filter_cons {a row : α} {rows : List α} (hlast : (rows.filter p).getLast? = some row) :
    ((a :: rows).filter p).getLast? = some row := by
  cases ha : p a with
  | false => simpa [ha] using hlast
  | true => rw [List.filter_cons_of_pos ha, List.getLast?_cons, hlast, Option.getD_some]

theorem filter_orderedInsert_of_not {a : α} (ha : p a = false) (rows : List α) :
    (rows.orderedInsert le a).filter p = rows.filter p := by
  induction rows with
  | nil => simp [ha]
  | cons b rows ih =>
    rw [List.orderedInsert_cons]
    split
    · simp [ha]
    · rw [List.filter_cons, List.filter_cons, ih]

/-- A row that is put before the last one leaves it last. -/
theorem getLast?_orderedInsert_of_le {a row : α} {rows : List α} (hle : le a row)
    (hlast : (rows.filter p).getLast? = some row) : ((rows.orderedInsert le a).filter p).getLast? = some row := by
  induction rows with
  | nil => simp at hlast
  | cons b rows ih =>
    rw [List.orderedInsert_cons]
    split
    · exact getLast?_filter_cons hlast
    · case isFalse hab =>
      cases hrest : (rows.filter p).getLast? with
      | some found =>
        have hfound := getLast?_filter_cons (a := b) hrest
        rw [hlast] at hfound
        exact getLast?_filter_cons (ih (hrest.trans hfound.symm))
      | none =>
        -- the last row is then `b`, which `a` is not before
        have hnil : rows.filter p = [] := List.getLast?_eq_none_iff.mp hrest
        cases hb : p b with
        | false => simp [hb, hnil] at hlast
        | true =>
          rw [List.filter_cons_of_pos hb, hnil] at hlast
          obtain rfl := Option.some.inj hlast
          exact absurd hle hab

/-- A row that is before none of the sorted rows becomes the last one. -/
theorem getLast?_orderedInsert_of_not_le [IsTrans α le] {a : α} (ha : p a) {rows : List α}
    (hsorted : rows.Pairwise le) (hafter : ∀ r ∈ rows, p r → ¬ le a r) :
    ((rows.orderedInsert le a).filter p).getLast? = some a := by
  induction rows with
  | nil => simp [ha]
  | cons b rows ih =>
    obtain ⟨hb, hsorted⟩ := List.pairwise_cons.mp hsorted
    rw [List.orderedInsert_cons]
    split
    · case isTrue hab =>
      have hnone : (b :: rows).filter p = [] := by
        rw [List.filter_eq_nil_iff]
        intro r hmem hr
        rcases List.mem_cons.mp hmem with rfl | hmem'
        · exact hafter r hmem hr hab
        · exact hafter r hmem hr (trans_of le hab (hb r hmem'))
      rw [List.filter_cons_of_pos ha, hnone]
      rfl
    · exact getLast?_filter_cons (ih hsorted fun r hmem => hafter r (List.mem_cons_of_mem b hmem))

/-- The last row with `p` of a filtered and sorted table. -/
theorem getLast?_filter_insertionSort [IsTrans α le] [Std.Total le] {q : α → Bool} {rows : List α} {row : α}
    (hlast : LastOf le (fun r => q r && p r) rows row) :
    (((rows.filter q).insertionSort le).filter p).getLast? = some row := by
  obtain ⟨before, after, rfl, hrow, hbefore, hafter⟩ := hlast
  obtain ⟨hq, hp⟩ := Bool.and_eq_true_iff.mp hrow
  induction before with
  | nil =>
    rw [List.nil_append, List.filter_cons_of_pos hq, List.insertionSort_cons]
    apply getLast?_orderedInsert_of_not_le hp (List.pairwise_insertionSort le _)
    intro r hmem hr
    obtain ⟨hmem, hqr⟩ := List.mem_filter.mp ((List.mem_insertionSort le).mp hmem)
    exact hafter r hmem (by simp [hqr, hr])
  | cons a before ih =>
    have hrest := ih fun r hmem => hbefore r (List.mem_cons_of_mem a hmem)
    rw [List.cons_append]
    cases hqa : q a with
    | false =>
      rw [List.filter_cons_of_neg (by simp [hqa])]
      exact hrest
    | true =>
      rw [List.filter_cons_of_pos hqa, List.insertionSort_cons]
      cases hpa : p a with
      | false =>
        rw [filter_orderedInsert_of_not hpa]
        exact hrest
      | true => exact getLast?_orderedInsert_of_le (hbefore a List.mem_cons_self (by simp [hqa, hpa])) hrest

end insertion

/-- A loop that keeps the last row it does not skip. -/
theorem foldl_keep_last {β : Type} (skip : α → Bool) (f : α → β) (rows : List α) (found : Option β) :
    rows.foldl (fun found r => if skip r then found else some (f r)) found =
      ((rows.filter fun r => !skip r).getLast?.map f).or found := by
  induction rows generalizing found with
  | nil => simp
  | cons r rows ih =>
    rw [List.foldl_cons, ih]
    cases hskip : skip r with
    | true => simp [hskip]
    | false =>
      rw [List.filter_cons_of_pos (by simp [hskip]), List.getLast?_cons]
      cases (rows.filter fun r => !skip r).getLast? <;> simp

end order_by
