import Mathlib.Logic.Basic
import Mathlib.Data.List.Basic
import Mathlib.Data.Option.Basic

/-! Loops over a list that fail when one of their steps does. -/

namespace option_map

variable {α β : Type} {f : α → Option β}

theorem mem_of_mapM {as : List α} {bs : List β} (hbs : as.mapM f = some bs) (b : β) :
    b ∈ bs ↔ ∃ a ∈ as, f a = some b := by
  induction as generalizing bs with
  | nil =>
    cases hbs
    simp
  | cons a as ih =>
    rw [List.mapM_cons] at hbs
    obtain ⟨c, hc, hrest⟩ := Option.bind_eq_some_iff.mp hbs
    obtain ⟨cs, hcs, heq⟩ := Option.bind_eq_some_iff.mp hrest
    cases heq
    rw [List.mem_cons, ih hcs]
    constructor
    · rintro (rfl | ⟨a', ha', hb⟩)
      · exact ⟨a, List.mem_cons_self, hc⟩
      · exact ⟨a', List.mem_cons_of_mem _ ha', hb⟩
    · rintro ⟨a', ha', hb⟩
      rcases List.mem_cons.mp ha' with rfl | ha'
      · rw [hc] at hb
        exact .inl (Option.some.inj hb).symm
      · exact .inr ⟨a', ha', hb⟩

theorem mapM_isSome {as : List α} : (as.mapM f).isSome ↔ ∀ a ∈ as, (f a).isSome := by
  induction as with
  | nil => simp
  | cons a as ih =>
    rw [List.mapM_cons, List.forall_mem_cons, ← ih]
    cases f a <;> cases as.mapM f <;> simp

theorem mapM_bind {γ : Type} {g : β → Option γ} {as : List α} :
    as.mapM (fun a => (f a).bind g) = (as.mapM f).bind fun bs => bs.mapM g := by
  induction as with
  | nil => rfl
  | cons a as ih =>
    rw [List.mapM_cons, List.mapM_cons, ih]
    cases f a with
    | none => rfl
    | some b =>
      cases as.mapM f with
      | none => cases hb : g b <;> simp [hb]
      | some bs => simp

end option_map
