import Mathlib
import Esdc.Api.Vm.Manage

open vms.models transition

namespace api.vm.base

variable {R Time : Type} {method : R → Method} {s s' : State R Time}

/-- The task of the request has been accepted, and its callback has not yet
restored the status. -/
def Pc.inFlight : Pc Time → Bool
  | .in_flight | .callback _ => true
  | _ => false

/-- The request has set the status, and it, or its callback, has yet to restore it. -/
def Pc.holds : Pc Time → Bool
  | .execute _ | .revert_notready _ | .in_flight | .callback _ => true
  | _ => false

/-- While an accepted task is in flight the stored status is a NOTREADY one. -/
def State.Protected (s : State R Time) : Prop :=
  ∀ r, (s.pc r).inFlight = true → s.store.status.is_notready = true

/-- The step restores the status, by a rollback or by a callback that is not cut off. -/
def State.restores (s : State R Time) (e : Event R Time) : Bool :=
  match s.pc e.request, e.outcome with
  | .revert_notready _, _ => true
  | .callback _, .kill => false
  | .callback _, _ => true
  | _, _ => false

/-- A request, or its callback, restores the status only while no other request
is between its `set_notready` and the restoring of the status. -/
def State.RestoresAlone (s : State R Time) (e : Event R Time) : Prop :=
  s.restores e = true → ∀ other, other ≠ e.request → (s.pc other).holds = false

instance [Fintype R] [DecidableEq R] (s : State R Time) : DecidablePred s.RestoresAlone := fun e =>
  inferInstanceAs (Decidable (_ → ∀ other, other ≠ e.request → _))

/-- Whoever has set the status finds it set. -/
def State.Held (s : State R Time) : Prop :=
  ∀ r, (s.pc r).holds = true → s.store.status.is_notready = true

theorem State.Held.init (store : StatusStore Time) : (State.init store : State R Time).Held := by
  intro r hholds
  cases hholds

variable [DecidableEq R]

/-- A step that saves nothing lets nobody hold who did not hold before. -/
theorem State.Held.goto (hheld : s.Held) {r : R} {pc : Pc Time}
    (hpc : pc.holds = true → (s.pc r).holds = true) : (s.goto r pc).Held := by
  intro other hother
  change (Function.update s.pc r pc other).holds = true at hother
  by_cases hself : other = r
  · rw [hself, Function.update_self] at hother
    exact hheld r (hpc hother)
  · rw [Function.update_of_ne hself] at hother
    exact hheld other hother

/-- After a restoring save of the only holder nobody holds. -/
theorem State.Held.restored {r : R} {vm : Vm Time} {now : Time}
    (halone : ∀ other, other ≠ r → (s.pc other).holds = false) : (s.save r vm now .done).Held := by
  intro other hother
  change (Function.update s.pc r .done other).holds = true at hother
  by_cases hself : other = r
  · rw [hself, Function.update_self] at hother
    cases hother
  · rw [Function.update_of_ne hself, halone other hself] at hother
    cases hother

theorem State.Held.step (hheld : s.Held) {e : Event R Time} (halone : s.RestoresAlone e)
    (hstep : s.step method e = some s') : s'.Held := by
  unfold State.step at hstep
  cases hpc : s.pc e.request with
  | get_vm =>
    simp only [hpc, Option.some.injEq] at hstep
    subst hstep
    exact hheld.goto fun hholds => by cases hholds
  | checks vm =>
    simp only [hpc] at hstep
    split at hstep
    · obtain rfl := Option.some.inj hstep
      exact hheld.goto fun hholds => by cases hholds
    · obtain rfl := Option.some.inj hstep
      exact hheld.goto fun hholds => by cases hholds
  | set_notready vm =>
    simp only [hpc, Option.some.injEq] at hstep
    subst hstep
    intro other hother
    change (Vm.save _ _ s.store).status.is_notready = true
    rw [Vm.save_status]
    exact vm.set_notready_is_notready
  | execute vm =>
    have hholds : (s.pc e.request).holds = true := by rw [hpc]; rfl
    simp only [hpc] at hstep
    split at hstep
    · obtain rfl := Option.some.inj hstep
      exact hheld.goto fun _ => hholds
    · obtain rfl := Option.some.inj hstep
      exact hheld.goto fun _ => hholds
    · obtain rfl := Option.some.inj hstep
      exact hheld.goto fun hholds => by cases hholds
  | revert_notready vm =>
    simp only [hpc, Option.some.injEq] at hstep
    subst hstep
    exact State.Held.restored (halone (by rw [State.restores, hpc]))
  | in_flight =>
    have hholds : (s.pc e.request).holds = true := by rw [hpc]; rfl
    simp only [hpc, Option.some.injEq] at hstep
    subst hstep
    exact hheld.goto fun _ => hholds
  | callback vm =>
    have hholds : (s.pc e.request).holds = true := by rw [hpc]; rfl
    cases houtcome : e.outcome with
    | kill =>
      simp only [hpc, houtcome, Option.some.injEq] at hstep
      subst hstep
      exact hheld.goto fun _ => hholds
    | ok | error =>
      simp only [hpc, houtcome, Option.some.injEq] at hstep
      subst hstep
      exact State.Held.restored (halone (by rw [State.restores, hpc, houtcome]))
  | done => simp [hpc] at hstep

theorem Pc.holds_of_inFlight {pc : Pc Time} (hflight : pc.inFlight = true) : pc.holds = true := by
  cases pc <;> first | rfl | cases hflight

/-- As long as an accepted task is in flight the stored status of the VM is a
NOTREADY one, provided no request, or callback, restored the status while
another request was between its `set_notready` and its own restoring. -/
theorem not_ready_in_flight {store : StatusStore Time} {schedule : List (Event R Time)}
    (hrun : Run (State.step method) State.RestoresAlone (.init store) schedule s) : s.Protected := by
  have hheld : s.Held := hrun.invariant (fun _ _ _ hheld halone hstep => hheld.step halone hstep)
    (.init store)
  exact fun r hflight => hheld r (Pc.holds_of_inFlight hflight)

def running : StatusStore Nat := ⟨.RUNNING, none, some .RUNNING, none⟩

/-- An update and its callback, and then a second update that is in flight. -/
theorem not_ready_of_successive_updates :
    ∃ s, Run (State.step fun _ : Fin 2 => Method.put) State.RestoresAlone (.init running)
        (List.replicate 6 ⟨0, .ok, 1⟩ ++ List.replicate 3 ⟨1, .ok, 2⟩ ++ [⟨1, .ok, 3⟩]) s ∧
      s.pc 1 = .in_flight ∧ s.Protected := by
  have hexec : (exec (State.step fun _ : Fin 2 => Method.put) State.RestoresAlone (.init running)
      (List.replicate 6 ⟨0, .ok, 1⟩ ++ List.replicate 3 ⟨1, .ok, 2⟩ ++ [⟨1, .ok, 3⟩])).any
        (fun s => s.pc 1 = .in_flight) = true := by decide
  obtain ⟨s, hrun, hflight⟩ := Run.exists_of_exec hexec
  exact ⟨s, hrun, of_decide_eq_true hflight, not_ready_in_flight hrun⟩

/-- Both requests load the running VM. The first one is accepted, the second one
does not get the lock and reverts the status to running. -/
theorem not_not_ready_in_flight :
    ¬ ∀ (method : Fin 2 → Method) (store : StatusStore Nat) schedule s,
      Run (State.step method) anyStep (.init store) schedule s → s.Protected := by
  intro hclaim
  have hexec : (exec (State.step fun _ : Fin 2 => Method.put) anyStep (.init running)
      ([⟨0, .ok, 1⟩, ⟨1, .ok, 1⟩] ++ List.replicate 3 ⟨0, .ok, 2⟩ ++ List.replicate 2 ⟨1, .ok, 3⟩ ++
        List.replicate 2 ⟨1, .error, 4⟩)).any
          (fun s => s.pc 0 = .in_flight && s.store.status = .RUNNING) = true := by decide
  obtain ⟨s, hrun, htest⟩ := Run.exists_of_exec hexec
  simp only [Bool.and_eq_true, decide_eq_true_eq] at htest
  have hprotected := hclaim _ running _ s hrun 0 (by rw [htest.1]; rfl)
  rw [htest.2] at hprotected
  cases hprotected

end api.vm.base
