import Esdc.Que.Exclusion

open expiring_store que.lock transition

namespace que.tasks

variable {K T C : Type} {sys : System K T C} {s s' : State K T C}

/-- Every lock removed so far was stored there by the task on whose behalf it
was removed. -/
def State.RemovedOwn (s : State K T C) : Prop := ∀ r ∈ s.removed, r.value = r.by_task

/-- The task has acquired its lock and has not sent DEL for it. -/
def Phase.owesDelete : Phase T → Bool
  | .get_pending | .acquire | .delete (._delete_reverse _) | .returned => false
  | _ => true

/-- The call has compared the stored task id and has not sent DEL for the key. -/
def LogPhase.owesDelete [DecidableEq K] (key : K) : LogPhase K T → Bool
  | .delete lock_key (.delete _) => lock_key = key
  | _ => false

/-- A task, or a `log_task_callback` for it, is still going to send DEL for the key. -/
def System.Owes [DecidableEq K] (sys : System K T C) (s : State K T C) (key : K) (task_id : T) : Prop :=
  ((sys.task task_id).lock = key ∧ (s.phase task_id).owesDelete = true) ∨
    ∃ call, sys.caller call = task_id ∧ (s.log call).owesDelete key = true

/-- An acquire finds the key free only while nobody is still going to send DEL
for it on behalf of another task. -/
def System.AcquiresUnowed [DecidableEq K] [DecidableEq T] (sys : System K T C) (s : State K T C) :
    Event T C → Prop
  | .task task_id _ =>
    let key := (sys.task task_id).lock
    s.phase task_id = .acquire → s.redis.locks.get key = none →
      ∀ other, sys.Owes s key other → other = task_id
  | _ => True

instance [Fintype C] [DecidableEq K] [DecidableEq T] (s : State K T C) (key : K) (task_id : T) :
    Decidable (sys.Owes s key task_id) := inferInstanceAs (Decidable (_ ∨ _))

instance [Fintype T] [Fintype C] [DecidableEq K] [DecidableEq T] (s : State K T C) :
    DecidablePred (sys.AcquiresUnowed s) := fun e =>
  match e with
  | .time _ => isTrue trivial
  | .task _ _ => inferInstanceAs (Decidable (_ → _ → ∀ _, _))
  | .log_task_callback _ => isTrue trivial

/-- Whoever is going to send DEL for a key finds its own task id there, or nothing. -/
structure System.DeletesOwn [DecidableEq K] (sys : System K T C) (s : State K T C) : Prop where
  removed : s.RemovedOwn
  stored : ∀ key task_id, sys.Owes s key task_id →
    ∀ owner ∈ s.redis.locks.get key, owner = task_id

theorem Phase.Moves.owesDelete {phase next : Phase T} (hmove : phase.Moves next)
    (hnext : next.owesDelete = true) : phase.owesDelete = true := by
  cases hmove <;> first | rfl | cases hnext

theorem System.DeletesOwn.init [DecidableEq K] : sys.DeletesOwn sys.init where
  removed _ hremoved := by cases hremoved
  stored key task_id howes owner howner := by cases howner

theorem mem_removal [DecidableEq K] {redis : Redis K T} {key : K} {task_id : T} {r : Removal K T}
    (hr : r ∈ removal redis key task_id) :
    ∃ value, redis.locks.get key = some value ∧ r = ⟨key, value, task_id⟩ := by
  simp only [removal, List.mem_map, Option.mem_toList] at hr
  obtain ⟨value, hvalue, rfl⟩ := hr
  exact ⟨value, hvalue, rfl⟩

variable [DecidableEq K]

/-- A step of one call that leaves the tasks alone makes nobody else owe a delete. -/
theorem System.owes_of_log [DecidableEq C] {running : C} {task_id : T} {key : K} {next : LogPhase K T}
    (howes : sys.Owes s' key task_id) (hphase : s'.phase = s.phase)
    (hlog : s'.log = Function.update s.log running next) :
    sys.Owes s key task_id ∨ (sys.caller running = task_id ∧ next.owesDelete key = true) := by
  rcases howes with ⟨hkey, hdelete⟩ | ⟨call, hcaller, hdelete⟩
  · exact .inl (.inl ⟨hkey, hphase ▸ hdelete⟩)
  · rw [hlog] at hdelete
    by_cases hself : call = running
    · subst hself
      rw [Function.update_self] at hdelete
      exact .inr ⟨hcaller, hdelete⟩
    · rw [Function.update_of_ne hself] at hdelete
      exact .inl (.inr ⟨call, hcaller, hdelete⟩)

variable [DecidableEq T]

/-- A step of one task that leaves the calls alone makes nobody else owe a delete. -/
theorem System.owes_of_phase {running task_id : T} {key : K} {next : Phase T}
    (howes : sys.Owes s' key task_id)
    (hphase : s'.phase = Function.update s.phase running next) (hlog : s'.log = s.log) :
    sys.Owes s key task_id ∨
      (task_id = running ∧ (sys.task task_id).lock = key ∧ next.owesDelete = true) := by
  rcases howes with ⟨hkey, hdelete⟩ | ⟨call, hcaller, hdelete⟩
  · rw [hphase] at hdelete
    by_cases hself : task_id = running
    · subst hself
      rw [Function.update_self] at hdelete
      exact .inr ⟨rfl, hkey, hdelete⟩
    · rw [Function.update_of_ne hself] at hdelete
      exact .inl (.inl ⟨hkey, hdelete⟩)
  · exact .inl (.inr ⟨call, hcaller, hlog ▸ hdelete⟩)

theorem System.owes_of_move {running task_id : T} {key : K} {next : Phase T}
    (howes : sys.Owes s' key task_id)
    (hphase : s'.phase = Function.update s.phase running next) (hlog : s'.log = s.log)
    (hnext : next.owesDelete = true → (s.phase running).owesDelete = true) :
    sys.Owes s key task_id := by
  rcases System.owes_of_phase howes hphase hlog with hbefore | ⟨rfl, hkey, hdelete⟩
  · exact hbefore
  · exact .inl ⟨hkey, hnext hdelete⟩

variable [DecidableEq C]

/-- Who is going to send DEL for a key was so before the step, has just acquired
it, or has just compared the task id stored there. -/
theorem State.owes_origin {e : Event T C} (hstep : sys.step s e = some s') {key : K} {task_id : T}
    (howes : sys.Owes s' key task_id) :
    sys.Owes s key task_id ∨ s'.redis.locks.get key = some task_id := by
  cases e with
  | time delay =>
    simp only [System.step, Option.some.injEq] at hstep
    subst hstep
    exact .inl howes
  | task running outcome =>
    cases State.task_step_cases hstep with
    | leave => exact .inl (System.owes_of_move (s := s) howes rfl rfl (by simp [Phase.owesDelete]))
    | move hmove => exact .inl (System.owes_of_move (s := s) howes rfl rfl hmove.owesDelete)
    | acquired hphase hset =>
      rcases System.owes_of_phase (s := s) howes rfl rfl with hbefore | ⟨rfl, rfl, -⟩
      · exact .inl hbefore
      · exact .inr (redis_set_nx_get_self hset)
    | refused hphase hset =>
      exact .inl (System.owes_of_move (s := s) howes rfl rfl (by simp [Phase.owesDelete]))
    | saved_reverse hphase =>
      exact .inl (System.owes_of_move (s := s) howes rfl rfl (fun _ => by rw [hphase]; rfl))
    | found houtcome hphase hhas =>
      exact .inl (System.owes_of_move (s := s) howes rfl rfl (fun _ => by rw [hphase]; rfl))
    | persisted hphase =>
      exact .inl (System.owes_of_move (s := s) howes rfl rfl (fun _ => by rw [hphase]; rfl))
    | persisted_reverse hphase =>
      exact .inl (System.owes_of_move (s := s) howes rfl rfl (fun _ => by rw [hphase]; rfl))
    | read hphase =>
      exact .inl (System.owes_of_move (s := s) howes rfl rfl (fun _ => by rw [hphase]; rfl))
    | deleted hphase hdone =>
      refine .inl (System.owes_of_move (s := s) howes rfl rfl ?_)
      rcases hdone with rfl | ⟨rkey, rfl⟩ <;> simp [Phase.owesDelete]
    | deleted_reverse hphase =>
      exact .inl (System.owes_of_move (s := s) howes rfl rfl (by simp [Phase.owesDelete]))
  | log_task_callback call =>
    cases State.log_step_cases hstep with
    | looked_up hphase hnext =>
      rcases System.owes_of_log (s := s) howes rfl rfl with hbefore | ⟨-, hdelete⟩
      · exact .inl hbefore
      · rcases hnext with rfl | ⟨lock_key, rfl⟩ <;> cases hdelete
    | mismatched hphase =>
      rcases System.owes_of_log (s := s) howes rfl rfl with hbefore | ⟨-, hdelete⟩
      · exact .inl hbefore
      · cases hdelete
    | matched hphase hvalue =>
      rcases System.owes_of_log (s := s) howes rfl rfl with hbefore | ⟨rfl, hdelete⟩
      · exact .inl hbefore
      · obtain rfl := of_decide_eq_true hdelete
        exact .inr hvalue
    | deleted hphase hdone =>
      rcases System.owes_of_log (s := s) howes rfl rfl with hbefore | ⟨-, hdelete⟩
      · exact .inl hbefore
      · rcases hdone with rfl | ⟨rkey, rfl⟩ <;> cases hdelete
    | deleted_reverse hphase =>
      rcases System.owes_of_log (s := s) howes rfl rfl with hbefore | ⟨-, hdelete⟩
      · exact .inl hbefore
      · cases hdelete

/-- Only a DEL that somebody owes for a key removes the lock stored there. -/
theorem State.removed_origin {e : Event T C} (hstep : sys.step s e = some s') {r : Removal K T}
    (hremoved : r ∈ s'.removed) :
    r ∈ s.removed ∨ (sys.Owes s r.key r.by_task ∧ s.redis.locks.get r.key = some r.value) := by
  cases e with
  | time delay =>
    simp only [System.step, Option.some.injEq] at hstep
    subst hstep
    exact .inl hremoved
  | task running outcome =>
    cases State.task_step_cases hstep with
    | deleted hphase hdone =>
      rcases List.mem_append.mp hremoved with hbefore | hnow
      · exact .inl hbefore
      · obtain ⟨value, hvalue, rfl⟩ := mem_removal hnow
        exact .inr ⟨.inl ⟨rfl, by rw [hphase]; rfl⟩, hvalue⟩
    | _ => exact .inl hremoved
  | log_task_callback call =>
    cases State.log_step_cases hstep with
    | deleted hphase hdone =>
      rcases List.mem_append.mp hremoved with hbefore | hnow
      · exact .inl hbefore
      · obtain ⟨value, hvalue, rfl⟩ := mem_removal hnow
        exact .inr ⟨.inr ⟨call, rfl, by simp [hphase, LogPhase.owesDelete]⟩, hvalue⟩
    | _ => exact .inl hremoved

theorem System.DeletesOwn.step (hinv : sys.DeletesOwn s) {e : Event T C}
    (hok : sys.AcquiresUnowed s e) (hstep : sys.step s e = some s') : sys.DeletesOwn s' where
  removed := by
    intro r hremoved
    rcases State.removed_origin hstep hremoved with hbefore | ⟨howes, hvalue⟩
    · exact hinv.removed r hbefore
    · exact hinv.stored r.key r.by_task howes r.value hvalue
  stored := by
    intro key task_id howes owner howner
    rcases State.owes_origin hstep howes with hbefore | hown
    · rcases State.lock_origin hstep howner with hheld | ⟨⟨outcome, rfl⟩, hacquire, rfl, hfree⟩
      · exact hinv.stored key task_id hbefore owner hheld
      · exact (hok hacquire hfree task_id hbefore).symm
    · rw [hown] at howner
      exact (Option.some.inj howner).symm

/-- Every lock that a run or a `log_task_callback` removes was acquired by the
task it acts for, provided no task acquired a key for which a run of another
task, or a callback past its comparison, was still going to send DEL. -/
theorem removes_own_locks {schedule : List (Event T C)}
    (hrun : Run sys.step sys.AcquiresUnowed sys.init schedule s) : s.RemovedOwn :=
  (hrun.invariant (fun _ _ _ hinv hok hstep => hinv.step hok hstep)
    System.DeletesOwn.init).removed

/-- Two `execute()` tasks on one lock with a timeout of ten seconds, and the
call of `log_task_callback` that follows a revoked task 0. -/
def revoked_task : System Unit (Fin 2) Unit where
  task _ :=
    { wrapper := .execute, lock := (), lock_timeout := 10, block := none, check_user_tasks := true }
  caller _ := 0
  internal _ := false

/-- Task 0 is revoked in the queue, its `log_task_callback` removes the lock,
and task 1 can have it. -/
theorem removes_own_locks_of_revoked_task :
    ∃ s, Run revoked_task.step revoked_task.AcquiresUnowed revoked_task.init
        (List.replicate 3 (.task 0 .ok) ++ [.task 0 .kill] ++
          List.replicate 4 (.log_task_callback ()) ++ List.replicate 12 (.task 1 .ok)) s ∧
      s.removed = [⟨(), 0, 0⟩, ⟨(), 1, 1⟩] ∧ s.RemovedOwn := by
  have hexec : (exec revoked_task.step revoked_task.AcquiresUnowed revoked_task.init
      (List.replicate 3 (.task 0 .ok) ++ [.task 0 .kill] ++
        List.replicate 4 (.log_task_callback ()) ++ List.replicate 12 (.task 1 .ok))).any
          (fun s => s.removed = [⟨(), 0, 0⟩, ⟨(), 1, 1⟩]) = true := by decide
  obtain ⟨s, hrun, hremoved⟩ := Run.exists_of_exec hexec
  exact ⟨s, hrun, of_decide_eq_true hremoved, removes_own_locks hrun⟩

/-- Task 0 waits in the queue until its lock has expired and task 1 has acquired
it. Its `UserTasks.check` fails, and the `finally` removes the lock of task 1. -/
theorem not_removes_own_locks :
    ¬ ∀ (sys : System Unit (Fin 2) Unit) schedule s,
      Run sys.step anyStep sys.init schedule s → s.RemovedOwn := by
  intro hclaim
  have hexec : (exec revoked_task.step anyStep revoked_task.init
      (List.replicate 3 (.task 0 .ok) ++ [.time 10, .task 1 .ok, .task 0 .ok, .task 0 .error] ++
        List.replicate 2 (.task 0 .ok))).any
          (fun s => s.removed = [⟨(), 1, 0⟩]) = true := by decide
  obtain ⟨s, hrun, hremoved⟩ := Run.exists_of_exec hexec
  have hown := hclaim revoked_task _ s hrun ⟨(), 1, 0⟩ (by rw [of_decide_eq_true hremoved]; simp)
  exact absurd hown (by decide)

end que.tasks
