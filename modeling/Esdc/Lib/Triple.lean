import Esdc.Lib.Faults

namespace Procedure

variable {S L E α β : Type} {fails : L → Bool} {P P' : S → Prop} {Q Q' : α → S → Prop} {R R' : E → S → Prop}

/-- From a state with `P` the procedure ends with a value and a state in `Q`, or with
an error and a state in `R`. -/
def Triple (fails : L → Bool) (P : S → Prop) (p : Procedure S L E α) (Q : α → S → Prop) (R : E → S → Prop) : Prop :=
  ∀ s, P s → match p.under fails s with
    | (.ok a, s') => Q a s'
    | (.error e, s') => R e s'

theorem Triple.ok {p : Procedure S L E α} (h : Triple fails P p Q R) {s s' : S} {a : α} (hs : P s)
    (hrun : p.under fails s = (.ok a, s')) : Q a s' := by
  have hpost := h s hs
  rw [hrun] at hpost
  exact hpost

theorem Triple.error {p : Procedure S L E α} (h : Triple fails P p Q R) {s s' : S} {e : E} (hs : P s)
    (hrun : p.under fails s = (.error e, s')) : R e s' := by
  have hpost := h s hs
  rw [hrun] at hpost
  exact hpost

theorem Triple.pure {a : α} (h : ∀ s, P s → Q a s) : Triple fails P (Pure.pure a : Procedure S L E α) Q R := h

theorem Triple.throw {e : E} (h : ∀ s, P s → R e s) : Triple fails P (.throw e : Procedure S L E α) Q R := h

theorem Triple.bind {p : Procedure S L E β} {k : β → Procedure S L E α} {M : β → S → Prop}
    (hp : Triple fails P p M R) (hk : ∀ b, Triple fails (M b) (k b) Q R) : Triple fails P (p >>= k) Q R := by
  intro s hs
  rw [under_bind]
  have hfirst := hp s hs
  rcases hrun : p.under fails s with ⟨e | b, s'⟩
  · rw [hrun] at hfirst
    exact hfirst
  · rw [hrun] at hfirst
    exact hk b s' hfirst

theorem Triple.handle {p : Procedure S L E α} {h : E → Procedure S L E α} (hp : Triple fails P p Q R')
    (hh : ∀ e, Triple fails (R' e) (h e) Q R) : Triple fails P (p.handle h) Q R := by
  intro s hs
  rw [under_handle]
  have hfirst := hp s hs
  rcases hrun : p.under fails s with ⟨e | a, s'⟩
  · rw [hrun] at hfirst
    exact hh e s' hfirst
  · rw [hrun] at hfirst
    exact hfirst

theorem Triple.consequence {p : Procedure S L E α} (h : Triple fails P p Q R) (hpre : ∀ s, P' s → P s)
    (hok : ∀ a s, Q a s → Q' a s) (herror : ∀ e s, R e s → R' e s) : Triple fails P' p Q' R' := by
  intro s hs
  have hpost := h s (hpre s hs)
  rcases hrun : p.under fails s with ⟨e | a, s'⟩
  · rw [hrun] at hpost
    exact herror e s' hpost
  · rw [hrun] at hpost
    exact hok a s' hpost

theorem Triple.state {Q : S → S → Prop} (h : ∀ s, P s → Q s s) :
    Triple fails P (Procedure.state : Procedure S L E S) Q R := h

theorem Triple.assign {effect : S → S} {Q : Unit → S → Prop} (h : ∀ s, P s → Q () (effect s)) :
    Triple fails P (Procedure.assign effect : Procedure S L E Unit) Q R := h

theorem Triple.command {kind : L} {effect : S → Option S} {Q : Bool → S → Prop}
    (hfailed : ∀ s, P s → Q false s)
    (hdone : ∀ s s', P s → effect s = some s' → fails kind = false → Q true s') :
    Triple fails P (Procedure.command kind effect : Procedure S L E Bool) Q R := by
  intro s hs
  rcases under_command_cases (E := E) fails kind effect s with ⟨s', heffect, hkind, hrun⟩ | ⟨_, hrun⟩
  · rw [hrun]
    exact hdone s s' hs heffect hkind
  · rw [hrun]
    exact hfailed s hs

theorem Triple.checked {kind : L} {effect : S → Option S} {e : E} {Q : Unit → S → Prop}
    (hfailed : ∀ s, P s → fails kind = true ∨ effect s = none → R e s)
    (hdone : ∀ s s', P s → effect s = some s' → fails kind = false → Q () s') :
    Triple fails P (Procedure.checked kind effect e) Q R := by
  intro s hs
  rw [under_checked]
  cases hkind : fails kind with
  | true => exact hfailed s hs (.inl hkind)
  | false =>
    cases heffect : effect s with
    | none => exact hfailed s hs (.inr heffect)
    | some s' => exact hdone s s' hs heffect hkind

theorem Triple.query {kind : L} {f : S → Option α} {e : E}
    (hfailed : ∀ s, P s → fails kind = true ∨ f s = none → R e s)
    (hdone : ∀ s a, P s → f s = some a → fails kind = false → Q a s) :
    Triple fails P (Procedure.query kind f e) Q R := by
  intro s hs
  rw [under_query]
  cases hkind : fails kind with
  | true => exact hfailed s hs (.inl hkind)
  | false =>
    cases hvalue : f s with
    | none => exact hfailed s hs (.inr hvalue)
    | some a => exact hdone s a hs hvalue hkind

end Procedure
