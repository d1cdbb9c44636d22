import Mathlib
import Esdc.Api.Vm.Restore

open vms.models expiring_store que.lock transition

namespace api.vm.restore

variable {V R Time : Type} {sys : Restores V R} {s s' : State V R Time}

/-- The restore task has been accepted, and its callback has not yet run. -/
def Pc.inFlight : Pc Time → Bool
  | .tasks_add | .task_check | .run | .delete_lock | .callback_get | .callback_vm _ _
  | .callback_target _ => true
  | _ => false

/-- The request has set the target VM not ready, and it, or the callback of its
task, has yet to revert that. -/
def Pc.holds : Pc Time → Bool
  | .execute _ _ | .revert_target _ _ => true
  | pc => pc.inFlight

/-- At most one restore task is in flight, and the target VM is not ready then. -/
structure Restores.Exclusive (sys : Restores V R) (s : State V R Time) : Prop where
  exclusive : ∀ r r', (s.pc r).inFlight = true → (s.pc r').inFlight = true → r = r'
  notready : ∀ r, (s.pc r).inFlight = true → (s.vms sys.target_vm).status.is_notready = true

/-- The next step of the request sets the target VM not ready. -/
def Pc.sets : Pc Time → Bool
  | .set_notready_target _ _ => true
  | _ => false

/-- A request sets the target VM not ready only while the stored status is still
the STOPPED that the request has checked. -/
def Restores.StillStopped (sys : Restores V R) (s : State V R Time) : Event R Time → Prop
  | .time _ => True
  | .request r _ _ => (s.pc r).sets = true → (s.vms sys.target_vm).status = .STOPPED

instance (s : State V R Time) : DecidablePred (sys.StillStopped s) := fun e =>
  match e with
  | .time _ => isTrue trivial
  | .request _ _ _ => inferInstanceAs (Decidable (_ → _))

/-- At most one request holds the target VM, and the VM is not ready then. -/
structure Restores.Held (sys : Restores V R) (s : State V R Time) : Prop where
  exclusive : ∀ r r', (s.pc r).holds = true → (s.pc r').holds = true → r = r'
  notready : ∀ r, (s.pc r).holds = true → (s.vms sys.target_vm).status.is_notready = true

theorem Restores.Held.init (vms : V → StatusStore Time) : sys.Held (State.init vms : State V R Time) where
  exclusive _ _ hholds := by cases hholds
  notready _ hholds := by cases hholds

theorem Pc.holds_of_inFlight {pc : Pc Time} (hflight : pc.inFlight = true) : pc.holds = true := by
  cases pc <;> first | exact hflight | rfl

theorem Restores.Held.exclusive_restore (hheld : sys.Held s) : sys.Exclusive s where
  exclusive r r' hr hr' := hheld.exclusive r r' (Pc.holds_of_inFlight hr) (Pc.holds_of_inFlight hr')
  notready r hr := hheld.notready r (Pc.holds_of_inFlight hr)

theorem Restores.source_ne_target [DecidableEq V] {r : R} {v : V} (hsource : sys.source r = some v) :
    v ≠ sys.target_vm := by
  unfold Restores.source at hsource
  split at hsource
  · split_ifs at hsource with hself
    obtain rfl := Option.some.inj hsource
    exact hself
  · cases hsource

/-- Saving the source VM does not touch the target VM. -/
theorem State.save_source_target [DecidableEq V] (r : R) (vm : Option (Vm Time)) (now : Time) :
    (s.save_source (sys.source r) vm now).vms sys.target_vm = s.vms sys.target_vm := by
  unfold State.save_source
  split
  next v vm hsource =>
    exact Function.update_of_ne (Restores.source_ne_target hsource).symm _ _
  next => rfl

theorem State.save_source_pc [DecidableEq V] (source : Option V) (vm : Option (Vm Time)) (now : Time) :
    (s.save_source source vm now).pc = s.pc := by
  unfold State.save_source
  split <;> rfl

variable [DecidableEq R]

/-- A step that leaves the status of the target VM and takes nothing. -/
theorem Restores.Held.kept (hheld : sys.Held s) {r : R} {pc : Pc Time}
    (hpc : s'.pc = Function.update s.pc r pc)
    (hstatus : (s'.vms sys.target_vm).status = (s.vms sys.target_vm).status)
    (hholds : pc.holds = true → (s.pc r).holds = true) : sys.Held s' := by
  have hbefore : ∀ other, (s'.pc other).holds = true → (s.pc other).holds = true := by
    intro other hother
    rw [hpc] at hother
    by_cases hself : other = r
    · rw [hself, Function.update_self] at hother
      rw [hself]
      exact hholds hother
    · rwa [Function.update_of_ne hself] at hother
  refine ⟨fun r₁ r₂ h₁ h₂ => hheld.exclusive r₁ r₂ (hbefore r₁ h₁) (hbefore r₂ h₂), fun other hother => ?_⟩
  rw [hstatus]
  exact hheld.notready other (hbefore other hother)

/-- The target VM was stopped, so nobody held it before the step. -/
theorem Restores.Held.took (hheld : sys.Held s) {r : R} {pc : Pc Time}
    (hpc : s'.pc = Function.update s.pc r pc) (hstopped : (s.vms sys.target_vm).status = .STOPPED)
    (hstatus : (s'.vms sys.target_vm).status.is_notready = true) : sys.Held s' := by
  have hnobody : ∀ other, (s.pc other).holds = false := by
    intro other
    by_contra hother
    have hnotready := hheld.notready other (by simpa using hother)
    rw [hstopped] at hnotready
    cases hnotready
  have honly : ∀ other, (s'.pc other).holds = true → other = r := by
    intro other hother
    by_contra hne
    rw [hpc, Function.update_of_ne hne, hnobody] at hother
    cases hother
  exact ⟨fun r₁ r₂ h₁ h₂ => (honly r₁ h₁).trans (honly r₂ h₂).symm, fun _ _ => hstatus⟩

/-- The only holder lets the target VM go. -/
theorem Restores.Held.released (hheld : sys.Held s) {r : R} {pc : Pc Time}
    (hpc : s'.pc = Function.update s.pc r pc) (hbefore : (s.pc r).holds = true)
    (hafter : pc.holds = false) : sys.Held s' := by
  have hnobody : ∀ other, (s'.pc other).holds = false := by
    intro other
    rw [hpc]
    by_cases hself : other = r
    · rw [hself, Function.update_self, hafter]
    · rw [Function.update_of_ne hself]
      by_contra hother
      exact hself (hheld.exclusive other r (by simpa using hother) hbefore)
  refine ⟨fun r₁ _ h₁ => ?_, fun r₁ h₁ => ?_⟩
  · rw [hnobody] at h₁
    cases h₁
  · rw [hnobody] at h₁
    cases h₁

variable [DecidableEq V]

theorem Restores.Held.request_step (hheld : sys.Held s) {r : R} {outcome : Outcome} {now : Time}
    (hstopped : sys.StillStopped s (.request r outcome now))
    (hstep : sys.request_step s r outcome now = some s') : sys.Held s' := by
  unfold Restores.request_step at hstep
  cases hpc : s.pc r with
  | get_vm | get_target vm | callback_get =>
    simp only [hpc, Option.some.injEq] at hstep
    subst hstep
    exact hheld.kept rfl rfl (by rw [hpc]; exact id)
  | checks vm target_vm =>
    simp only [hpc] at hstep
    split at hstep
    · obtain rfl := Option.some.inj hstep
      exact hheld.kept rfl rfl fun hholds => by cases hholds
    · obtain rfl := Option.some.inj hstep
      exact hheld.kept rfl rfl fun hholds => by cases hholds
  | tasks vm target_vm =>
    simp only [hpc, Option.some.injEq] at hstep
    subst hstep
    refine hheld.kept rfl rfl ?_
    split <;> exact fun hholds => by cases hholds
  | set_notready vm target_vm =>
    simp only [hpc, Option.some.injEq] at hstep
    subst hstep
    refine hheld.kept (by rw [State.goto, State.save_source_pc]) ?_ fun hholds => by cases hholds
    exact congrArg StatusStore.status (State.save_source_target r _ now)
  | set_notready_target vm target_vm =>
    simp only [hpc, Option.some.injEq] at hstep
    subst hstep
    refine hheld.took rfl (hstopped (by rw [hpc]; rfl)) ?_
    change (Function.update s.vms sys.target_vm _ sys.target_vm).status.is_notready = true
    rw [Function.update_self, Vm.save_status]
    exact target_vm.set_notready_is_notready
  | execute vm target_vm =>
    have hbefore : (s.pc r).holds = true := by rw [hpc]; rfl
    simp only [hpc] at hstep
    split at hstep
    · obtain rfl := Option.some.inj hstep
      exact hheld.kept rfl rfl fun _ => hbefore
    · split at hstep
      · obtain rfl := Option.some.inj hstep
        exact hheld.kept rfl rfl fun _ => hbefore
      · obtain rfl := Option.some.inj hstep
        exact hheld.kept rfl rfl fun _ => hbefore
      · obtain rfl := Option.some.inj hstep
        exact hheld.kept rfl rfl fun hholds => by cases hholds
  | revert_target vm target_vm =>
    simp only [hpc, Option.some.injEq] at hstep
    subst hstep
    exact hheld.released rfl (by rw [hpc]; rfl) rfl
  | revert_vm vm =>
    simp only [hpc, Option.some.injEq] at hstep
    subst hstep
    refine hheld.kept (by rw [State.goto, State.save_source_pc]) ?_ fun hholds => by cases hholds
    exact congrArg StatusStore.status (State.save_source_target r _ now)
  | tasks_add | task_check =>
    have hbefore : (s.pc r).holds = true := by rw [hpc]; rfl
    simp only [hpc] at hstep
    split at hstep
    · obtain rfl := Option.some.inj hstep
      exact hheld.kept rfl rfl fun _ => hbefore
    · obtain rfl := Option.some.inj hstep
      exact hheld.kept rfl rfl fun _ => hbefore
  | run | delete_lock =>
    simp only [hpc, Option.some.injEq] at hstep
    subst hstep
    exact hheld.kept rfl rfl (by rw [hpc]; exact id)
  | callback_vm vm target_vm =>
    have hbefore : (s.pc r).holds = true := by rw [hpc]; rfl
    simp only [hpc] at hstep
    split at hstep
    · obtain rfl := Option.some.inj hstep
      exact hheld.kept rfl rfl fun _ => hbefore
    · obtain rfl := Option.some.inj hstep
      refine hheld.kept (by rw [State.goto, State.save_source_pc]) ?_ fun _ => hbefore
      exact congrArg StatusStore.status (State.save_source_target r _ now)
  | callback_target target_vm =>
    have hbefore : (s.pc r).holds = true := by rw [hpc]; rfl
    simp only [hpc] at hstep
    split at hstep
    · obtain rfl := Option.some.inj hstep
      exact hheld.kept rfl rfl fun _ => hbefore
    · obtain rfl := Option.some.inj hstep
      exact hheld.released rfl hbefore rfl
  | done => simp [hpc] at hstep

theorem Restores.Held.step (hheld : sys.Held s) {e : Event R Time} (hstopped : sys.StillStopped s e)
    (hstep : sys.step s e = some s') : sys.Held s' := by
  cases e with
  | time delay =>
    obtain rfl := Option.some.inj hstep
    exact ⟨hheld.exclusive, hheld.notready⟩
  | request r outcome now => exact hheld.request_step hstopped hstep

/-- The VM `false` is restored by request `false` from a snapshot of the VM `true`
and by request `true` from one of its backups. -/
def snapshot_and_backup : Restores Bool Bool where
  target_vm := false
  view
    | false => .vm_snapshot true 0
    | true => .vm_backup 1

def stopped : Bool → StatusStore Nat := fun _ => ⟨.STOPPED, none, some .STOPPED, none⟩

/-- The given number of steps of a request. -/
def steps (n : Nat) (r : Bool) : List (Event Bool Nat) := List.replicate n (.request r .ok 1)

end api.vm.restore
