import Mathlib
import Esdc.Que.Steps

open expiring_store que.lock transition

namespace que.tasks

variable {K T C : Type} {sys : System K T C} {s s' : State K T C}

/-- No two tasks that use one lock key are both between their `task_check` and
their delete. -/
def System.MutualExclusion (sys : System K T C) (s : State K T C) : Prop :=
  ∀ task_id other, (sys.task task_id).lock = (sys.task other).lock →
    s.checked task_id = true → s.checked other = true → task_id = other

/-- A `task_check` that finds the key finds its own task id stored there, and an
acquire finds the key free only while no task that passed `task_check` with it
is still to delete it. -/
def System.ChecksOwnLock (sys : System K T C) (s : State K T C) : Event T C → Prop
  | .task task_id outcome =>
    let key := (sys.task task_id).lock
    (s.phase task_id = .task_check .has → outcome ≠ .kill →
      ∀ owner ∈ s.redis.locks.get key, owner = task_id) ∧
    (s.phase task_id = .acquire → s.redis.locks.get key = none →
      ∀ other, s.checked other = true → (sys.task other).lock ≠ key)
  | _ => True

instance [Fintype T] [DecidableEq K] [DecidableEq T] (s : State K T C) :
    DecidablePred (sys.ChecksOwnLock s) := fun e =>
  match e with
  | .time _ => isTrue trivial
  | .task _ _ => inferInstanceAs (Decidable (_ ∧ _))
  | .log_task_callback _ => isTrue trivial

/-- The id stored under a lock key is the one of the task that is checked with it. -/
structure System.LockOfChecked (sys : System K T C) (s : State K T C) : Prop where
  exclusive : sys.MutualExclusion s
  stored : ∀ task_id, s.checked task_id = true →
    ∀ owner ∈ s.redis.locks.get (sys.task task_id).lock, owner = task_id

/-- A task whose `task_check` finds its own id is the only one checked with the key. -/
theorem System.LockOfChecked.found_alone (hinv : sys.LockOfChecked s) {task_id other : T}
    {outcome : Outcome} (hok : sys.ChecksOwnLock s (.task task_id outcome))
    (hphase : s.phase task_id = .task_check .has) (houtcome : outcome ≠ .kill)
    (hhas : s.redis.locks.has (sys.task task_id).lock = true)
    (hlock : (sys.task other).lock = (sys.task task_id).lock) (hother : s.checked other = true) :
    other = task_id := by
  rw [Store.has_eq_isSome_get, Option.isSome_iff_exists] at hhas
  obtain ⟨owner, howner⟩ := hhas
  have hself : owner = task_id := hok.1 hphase houtcome owner howner
  have hheld : owner = other := hinv.stored other hother owner (hlock ▸ howner)
  rw [← hheld, hself]

theorem System.LockOfChecked.init : sys.LockOfChecked sys.init where
  exclusive _ _ _ hchecked := by cases hchecked
  stored _ hchecked := by cases hchecked

variable [DecidableEq K] [DecidableEq T] [DecidableEq C]

private theorem eq_true_of_update_false {α : Type} [DecidableEq α] {f : α → Bool} {a b : α}
    (htrue : Function.update f a false b = true) : f b = true := by
  by_cases hself : b = a
  · rw [hself, Function.update_self] at htrue
    cases htrue
  · rwa [Function.update_of_ne hself] at htrue

/-- A step lets a task count as checked only when `task_check` finds its key. -/
theorem State.checked_origin {e : Event T C} (hstep : sys.step s e = some s') {task_id : T}
    (hchecked : s'.checked task_id = true) :
    s.checked task_id = true ∨
      ((∃ outcome, e = .task task_id outcome ∧ outcome ≠ .kill) ∧
        s.phase task_id = .task_check .has ∧ s.redis.locks.has (sys.task task_id).lock = true ∧
        s'.redis = s.redis ∧ ∀ other, other ≠ task_id → s'.checked other = s.checked other) := by
  cases e with
  | time delay =>
    simp only [System.step, Option.some.injEq] at hstep
    subst hstep
    exact .inl hchecked
  | task running outcome =>
    cases State.task_step_cases hstep with
    | leave => exact .inl (eq_true_of_update_false hchecked)
    | move hmove => exact .inl hchecked
    | acquired hphase hset => exact .inl hchecked
    | refused hphase hset => exact .inl hchecked
    | saved_reverse hphase => exact .inl hchecked
    | found houtcome hphase hhas =>
      by_cases hself : task_id = running
      · subst hself
        exact .inr ⟨⟨outcome, rfl, houtcome⟩, hphase, hhas, rfl,
          fun other hother => Function.update_of_ne hother _ _⟩
      · exact .inl (by simpa [Function.update_of_ne hself] using hchecked)
    | persisted hphase => exact .inl hchecked
    | persisted_reverse hphase => exact .inl hchecked
    | read hphase => exact .inl hchecked
    | deleted hphase hdone => exact .inl (eq_true_of_update_false hchecked)
    | deleted_reverse hphase => exact .inl hchecked
  | log_task_callback call =>
    cases State.log_step_cases hstep <;> exact .inl hchecked

theorem System.LockOfChecked.step (hinv : sys.LockOfChecked s) {e : Event T C}
    (hok : sys.ChecksOwnLock s e) (hstep : sys.step s e = some s') : sys.LockOfChecked s' where
  exclusive := by
    intro task_id other hlock hchecked hother
    by_contra hne
    rcases State.checked_origin hstep hchecked with
      hbefore | ⟨⟨outcome, rfl, houtcome⟩, hphase, hhas, -, hframe⟩
    · rcases State.checked_origin hstep hother with
        hbefore' | ⟨⟨outcome, rfl, houtcome⟩, hphase, hhas, -, -⟩
      · exact hne (hinv.exclusive task_id other hlock hbefore hbefore')
      · exact hne (hinv.found_alone hok hphase houtcome hhas hlock hbefore)
    · rw [hframe other (Ne.symm hne)] at hother
      exact hne (hinv.found_alone hok hphase houtcome hhas hlock.symm hother).symm
  stored := by
    intro task_id hchecked owner howner
    rcases State.lock_origin hstep howner with hheld | ⟨⟨outcome, rfl⟩, hacquire, hkey, hfree⟩
    · rcases State.checked_origin hstep hchecked with
        hbefore | ⟨⟨outcome, rfl, houtcome⟩, hphase, -, -, -⟩
      · exact hinv.stored task_id hbefore owner hheld
      · exact hok.1 hphase houtcome owner hheld
    · rcases State.checked_origin hstep hchecked with hbefore | ⟨-, -, -, hredis, -⟩
      · exact absurd hkey.symm (hok.2 hacquire (hkey ▸ hfree) task_id hbefore)
      · rw [hredis, hfree] at howner
        cases howner

/-- At most one task that uses a lock key is between its `task_check` and its
delete, provided every passed `task_check` found the own task id and no acquire
came upon a free key that a checked task was still to delete. -/
theorem mutual_exclusion {schedule : List (Event T C)}
    (hrun : Run sys.step sys.ChecksOwnLock sys.init schedule s) : sys.MutualExclusion s :=
  (hrun.invariant (fun _ _ _ hinv hok hstep => hinv.step hok hstep)
    System.LockOfChecked.init).exclusive

/-- `execute()` tasks that share one lock and its timeout of ten seconds. -/
def execute_tasks (n : Nat) : System Unit (Fin n) Empty where
  task _ :=
    { wrapper := .execute, lock := (), lock_timeout := 10, block := none, check_user_tasks := false }
  caller := nofun
  internal _ := false

/-- The steps of an `execute()` task up to its body. -/
def start_body {n : Nat} (task_id : Fin n) : List (Event (Fin n) Empty) :=
  List.replicate 8 (.task task_id .ok)

theorem mutual_exclusion_of_successive_tasks :
    ∃ s, Run (execute_tasks 2).step (execute_tasks 2).ChecksOwnLock (execute_tasks 2).init
        (start_body 0 ++ List.replicate 4 (.task 0 .ok) ++ start_body 1) s ∧
      s.checked 1 = true ∧ (execute_tasks 2).MutualExclusion s := by
  have hexec : (exec (execute_tasks 2).step (execute_tasks 2).ChecksOwnLock (execute_tasks 2).init
      (start_body 0 ++ List.replicate 4 (.task 0 .ok) ++ start_body 1)).any
        (fun s => s.checked 1) = true := by decide
  obtain ⟨s, hrun, hchecked⟩ := Run.exists_of_exec hexec
  exact ⟨s, hrun, hchecked, mutual_exclusion hrun⟩

/-- While the body of task 0 runs, the failed acquire of task 1 gives its lock a
new time to live. The lock expires, and task 2 runs beside task 0. -/
theorem not_mutual_exclusion_of_execute :
    ¬ ∀ (sys : System Unit (Fin 3) Empty), (∀ task_id, (sys.task task_id).wrapper = .execute) →
      ∀ schedule s, Run sys.step anyStep sys.init schedule s → sys.MutualExclusion s := by
  intro hclaim
  have hexec : (exec (execute_tasks 3).step anyStep (execute_tasks 3).init
      (start_body 0 ++ [.task 1 .ok, .time 10] ++ start_body 2)).any
        (fun s => s.phase 0 = .run && s.phase 2 = .run && s.checked 0 && s.checked 2) = true := by
    decide
  obtain ⟨s, hrun, htest⟩ := Run.exists_of_exec hexec
  simp only [Bool.and_eq_true] at htest
  have hsame : (0 : Fin 3) = 2 :=
    hclaim (execute_tasks 3) (fun _ => rfl) _ s hrun 0 2 rfl htest.1.2 htest.2
  exact absurd hsame (by decide)

end que.tasks
