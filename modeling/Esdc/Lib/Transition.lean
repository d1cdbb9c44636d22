import Mathlib.Logic.Function.Basic

namespace transition

universe u v
variable {σ : Type u} {ε : Type v}

/-- A run of a partial step function: every event is enabled where it happens
and meets the side condition `ok` in the state before it. -/
inductive Run (step : σ → ε → Option σ) (ok : σ → ε → Prop) : σ → List ε → σ → Prop
  | nil (s : σ) : Run step ok s [] s
  | cons {s u t : σ} {e : ε} {es : List ε} (hok : ok s e) (hstep : step s e = some u)
      (hrun : Run step ok u es t) : Run step ok s (e :: es) t

/-- The side condition that every event meets. -/
def anyStep (_ : σ) (_ : ε) : Prop := True

instance : DecidableRel (anyStep : σ → ε → Prop) := fun _ _ => isTrue trivial

/-- What every admitted step preserves holds at the end of every run, and so,
runs being closed under initial segments, in every state on the way. -/
theorem Run.invariant {step : σ → ε → Option σ} {ok : σ → ε → Prop} {Inv : σ → Prop}
    (hpreserved : ∀ s e u, Inv s → ok s e → step s e = some u → Inv u)
    {s t : σ} {es : List ε} (hrun : Run step ok s es t) (hinit : Inv s) : Inv t := by
  induction hrun with
  | nil s => exact hinit
  | cons hok hstep _ ih => exact ih (hpreserved _ _ _ hinit hok hstep)

/-- Executes a schedule, stopping at the first event that is not enabled or
violates the side condition. -/
def exec (step : σ → ε → Option σ) (ok : σ → ε → Prop) [∀ s e, Decidable (ok s e)] :
    σ → List ε → Option σ
  | s, [] => some s
  | s, e :: es => if ok s e then (step s e).bind fun u => exec step ok u es else none

theorem Run.of_exec {step : σ → ε → Option σ} {ok : σ → ε → Prop} [∀ s e, Decidable (ok s e)]
    {s t : σ} {es : List ε} (hexec : exec step ok s es = some t) : Run step ok s es t := by
  induction es generalizing s with
  | nil =>
    obtain rfl : s = t := by simpa [exec] using hexec
    exact .nil s
  | cons e es ih =>
    rw [exec] at hexec
    by_cases hok : ok s e
    · rw [if_pos hok, Option.bind_eq_some_iff] at hexec
      obtain ⟨u, hstep, htail⟩ := hexec
      exact .cons hok hstep (ih htail)
    · rw [if_neg hok] at hexec
      cases hexec

/-- A schedule whose execution ends in a state that passes a test is a run to
such a state. -/
theorem Run.exists_of_exec {step : σ → ε → Option σ} {ok : σ → ε → Prop}
    [∀ s e, Decidable (ok s e)] {s : σ} {es : List ε} {test : σ → Bool}
    (hexec : (exec step ok s es).any test = true) :
    ∃ t, Run step ok s es t ∧ test t = true := by
  rw [Option.any_eq_true_iff_get] at hexec
  obtain ⟨hsome, htest⟩ := hexec
  exact ⟨_, .of_exec (Option.some_get hsome).symm, htest⟩

end transition
