import Esdc.Que.Tasks

open expiring_store que.lock

namespace que.tasks

variable {K T C : Type} [DecidableEq K] [DecidableEq T]
  {sys : System K T C} {s s' : State K T C}

/-- The pipeline that `acquire` of a task sends in a state. -/
def System.setnx (sys : System K T C) (s : State K T C) (task_id : T) : Bool × Store K T :=
  redis_set s.redis.locks (sys.task task_id).lock task_id (sys.task task_id).lock_timeout true

/-- The moves of a task that change nothing in redis. -/
inductive Phase.Moves : Phase T → Phase T → Prop
  | pending_found : Moves .get_pending .returned
  | pending_none : Moves .get_pending .acquire
  | sent : Moves .apply_async .queued
  | send_failed : Moves .apply_async (.delete .get)
  | started_waiting : Moves .queued .user_tasks_check
  | started : Moves .queued (.task_check .has)
  | registered : Moves .user_tasks_check (.task_check .has)
  | unregistered : Moves .user_tasks_check (.delete .get)
  | check_raised : Moves (.task_check .has) (.delete .get)
  | blocked : Moves .block_check .blocked
  | unblocked : Moves .block_check .run
  | retried : Moves .blocked .queued
  | finished : Moves .run (.delete .get)

/-- What one step of a task can do to the whole system. -/
inductive State.TaskStep (sys : System K T C) (s : State K T C) (task_id : T) (outcome : Outcome) :
    State K T C → Prop
  | leave : TaskStep sys s task_id outcome (s.leave task_id)
  | move {phase : Phase T} (hmove : (s.phase task_id).Moves phase) :
      TaskStep sys s task_id outcome (s.goto task_id phase)
  | acquired (hphase : s.phase task_id = .acquire)
      (hset : (sys.setnx s task_id).1 = true) :
      TaskStep sys s task_id outcome
        { s.goto task_id .set_reverse with redis := { s.redis with locks := (sys.setnx s task_id).2 } }
  | refused (hphase : s.phase task_id = .acquire)
      (hset : (sys.setnx s task_id).1 = false) :
      TaskStep sys s task_id outcome
        { s.goto task_id .returned with redis := { s.redis with locks := (sys.setnx s task_id).2 } }
  | saved_reverse {reverse : Store T K} (hphase : s.phase task_id = .set_reverse) :
      TaskStep sys s task_id outcome
        { s.goto task_id .apply_async with redis := { s.redis with reverse } }
  | found (houtcome : outcome ≠ .kill) (hphase : s.phase task_id = .task_check .has)
      (hhas : s.redis.locks.has (sys.task task_id).lock = true) :
      TaskStep sys s task_id outcome
        { s.goto task_id (.task_check .persist) with
          checked := Function.update s.checked task_id true }
  | persisted (hphase : s.phase task_id = .task_check .persist) :
      TaskStep sys s task_id outcome
        { s.goto task_id (.task_check .persist_reverse) with
          redis := { s.redis with locks := s.redis.locks.persist (sys.task task_id).lock } }
  | persisted_reverse {reverse : Store T K}
      (hphase : s.phase task_id = .task_check .persist_reverse) :
      TaskStep sys s task_id outcome
        { s.goto task_id .block_check with redis := { s.redis with reverse } }
  | read {value : Option T} (hphase : s.phase task_id = .delete .get) :
      TaskStep sys s task_id outcome (s.goto task_id (.delete (.delete value)))
  | deleted {value : Option T} {phase : Phase T} (hphase : s.phase task_id = .delete (.delete value))
      (hdone : phase = .returned ∨ ∃ rkey, phase = .delete (._delete_reverse rkey)) :
      TaskStep sys s task_id outcome
        { s.goto task_id phase with
          redis := { s.redis with locks := s.redis.locks.delete (sys.task task_id).lock }
          checked := Function.update s.checked task_id false
          removed := s.removed ++ removal s.redis (sys.task task_id).lock task_id }
  | deleted_reverse {rkey : Option T} {reverse : Store T K}
      (hphase : s.phase task_id = .delete (._delete_reverse rkey)) :
      TaskStep sys s task_id outcome
        { s.goto task_id .returned with redis := { s.redis with reverse } }

theorem State.task_delete_cases {task_id : T} {outcome : Outcome} {pc : DeletePc T}
    (hphase : s.phase task_id = .delete pc) :
    s.TaskStep sys task_id outcome (s.task_delete sys task_id pc) := by
  cases pc with
  | get => exact .read hphase
  | delete value =>
    refine .deleted hphase ?_
    by_cases hhas : s.redis.locks.has (sys.task task_id).lock = true
    · exact .inr ⟨some task_id, by simp [Task.task_lock, hhas]⟩
    · exact .inl (by simp [Task.task_lock, hhas])
  | _delete_reverse rkey =>
    cases rkey with
    | none => exact .deleted_reverse hphase
    | some reverse_id => exact .deleted_reverse hphase

theorem State.task_step_cases {task_id : T} {outcome : Outcome}
    (hstep : s.task_step sys task_id outcome = some s') :
    s.TaskStep sys task_id outcome s' := by
  unfold State.task_step at hstep
  by_cases hkill : outcome = .kill ∧ (s.phase task_id).onWorker
  · rw [if_pos hkill, Option.some.injEq] at hstep
    subst hstep
    exact .leave
  rw [if_neg hkill] at hstep
  cases hphase : s.phase task_id with
  | get_pending =>
    simp only [hphase, Option.some.injEq] at hstep
    subst hstep
    split
    · exact .move (hphase ▸ .pending_found)
    · exact .move (hphase ▸ .pending_none)
  | acquire =>
    simp only [hphase, Option.some.injEq, TaskLock.acquire, Task.task_lock] at hstep
    subst hstep
    change TaskStep sys s task_id outcome
      { s.goto task_id (if (sys.setnx s task_id).1 then .set_reverse else .returned) with
        redis := { s.redis with locks := (sys.setnx s task_id).2 } }
    cases hset : (sys.setnx s task_id).1 with
    | true => exact .acquired hphase hset
    | false => exact .refused hphase hset
  | set_reverse =>
    simp only [hphase, Option.some.injEq, TaskLock._set_reverse] at hstep
    subst hstep
    exact .saved_reverse hphase
  | apply_async =>
    simp only [hphase, Option.some.injEq] at hstep
    subst hstep
    split
    · exact .move (hphase ▸ .sent)
    · exact .move (hphase ▸ .send_failed)
  | queued =>
    simp only [hphase] at hstep
    split at hstep <;> cases hstep
    · exact .leave
    · split
      · exact .move (hphase ▸ .started_waiting)
      · exact .move (hphase ▸ .started)
  | user_tasks_check =>
    simp only [hphase, Option.some.injEq] at hstep
    subst hstep
    split
    · exact .move (hphase ▸ .registered)
    · exact .move (hphase ▸ .unregistered)
  | task_check pc =>
    cases pc with
    | has =>
      simp only [hphase, TaskLock.task_check] at hstep
      by_cases hhas : s.redis.locks.has (sys.task task_id).lock = true
      · simp only [Task.task_lock, hhas, if_true, Option.some.injEq] at hstep
        subst hstep
        exact .found (fun hoc => hkill ⟨hoc, by rw [hphase]; rfl⟩) hphase hhas
      · simp only [Task.task_lock, hhas, Bool.false_eq_true, if_false, Option.some.injEq] at hstep
        subst hstep
        exact .move (hphase ▸ .check_raised)
    | persist =>
      simp only [hphase, TaskLock.task_check, Option.some.injEq] at hstep
      subst hstep
      exact .persisted hphase
    | persist_reverse =>
      simp only [hphase, TaskLock.task_check, Option.some.injEq] at hstep
      subst hstep
      exact .persisted_reverse hphase
  | block_check =>
    simp only [hphase, Option.some.injEq] at hstep
    subst hstep
    split
    · exact .move (hphase ▸ .blocked)
    · exact .move (hphase ▸ .unblocked)
  | blocked =>
    simp only [hphase] at hstep
    split at hstep <;> cases hstep
    · exact .move (hphase ▸ .retried)
    · exact .leave
  | run =>
    simp only [hphase, Option.some.injEq] at hstep
    subst hstep
    exact .move (hphase ▸ .finished)
  | delete pc =>
    simp only [hphase, Option.some.injEq] at hstep
    subst hstep
    exact State.task_delete_cases hphase
  | returned => simp [hphase] at hstep

variable [DecidableEq C]

/-- What one step of a `log_task_callback` call can do to the whole system. -/
inductive State.LogStep (sys : System K T C) (s : State K T C) (call : C) : State K T C → Prop
  | looked_up {next : LogPhase K T} (hphase : s.log call = .get_lock_key_from_value)
      (hnext : next = .returned ∨ ∃ key, next = .delete key .get) :
      LogStep sys s call { s with log := Function.update s.log call next }
  | mismatched {key : K} (hphase : s.log call = .delete key .get) :
      LogStep sys s call { s with log := Function.update s.log call .returned }
  | matched {key : K} (hphase : s.log call = .delete key .get)
      (hvalue : s.redis.locks.get key = some (sys.caller call)) :
      LogStep sys s call
        { s with log := Function.update s.log call (.delete key (.delete (some (sys.caller call)))) }
  | deleted {key : K} {value : Option T} {next : LogPhase K T}
      (hphase : s.log call = .delete key (.delete value))
      (hdone : next = .returned ∨ ∃ rkey, next = .delete key (._delete_reverse rkey)) :
      LogStep sys s call
        { s with
          redis := { s.redis with locks := s.redis.locks.delete key }
          log := Function.update s.log call next
          removed := s.removed ++ removal s.redis key (sys.caller call) }
  | deleted_reverse {key : K} {rkey : Option T} {reverse : Store T K}
      (hphase : s.log call = .delete key (._delete_reverse rkey)) :
      LogStep sys s call
        { s with
          redis := { s.redis with reverse }
          log := Function.update s.log call .returned }

theorem State.log_step_cases {call : C} (hstep : s.log_step sys call = some s') :
    s.LogStep sys call s' := by
  unfold State.log_step at hstep
  cases hphase : s.log call with
  | get_lock_key_from_value =>
    simp only [hphase, Option.some.injEq] at hstep
    subst hstep
    refine .looked_up hphase ?_
    cases s.redis.reverse.get (sys.caller call) with
    | none => exact .inl rfl
    | some key =>
      cases sys.internal (sys.caller call) with
      | true => exact .inl rfl
      | false => exact .inr ⟨key, rfl⟩
  | delete key pc =>
    cases pc with
    | get =>
      simp only [hphase, Option.some.injEq] at hstep
      subst hstep
      by_cases hvalue : s.redis.locks.get key = some (sys.caller call)
      · simpa [TaskLock.delete, hvalue] using LogStep.matched hphase hvalue
      · have hmismatch : some (sys.caller call) ≠ s.redis.locks.get key := fun h => hvalue h.symm
        simpa [TaskLock.delete, hmismatch] using LogStep.mismatched hphase
    | delete value =>
      simp only [hphase, Option.some.injEq] at hstep
      subst hstep
      refine .deleted hphase ?_
      by_cases hhas : s.redis.locks.has key = true
      · exact .inr ⟨value, by simp [TaskLock.delete, hhas]⟩
      · exact .inl (by simp [TaskLock.delete, hhas])
    | _delete_reverse rkey =>
      simp only [hphase, Option.some.injEq] at hstep
      subst hstep
      cases rkey with
      | none => exact .deleted_reverse hphase
      | some reverse_id => exact .deleted_reverse hphase
  | returned => simp [hphase] at hstep

/-- A task id stored under a lock key was there before the step, or its task
has just acquired the key. -/
theorem State.lock_origin {e : Event T C} (hstep : sys.step s e = some s') {key : K} {owner : T}
    (hheld : s'.redis.locks.get key = some owner) :
    s.redis.locks.get key = some owner ∨
      ((∃ outcome, e = .task owner outcome) ∧ s.phase owner = .acquire ∧
        (sys.task owner).lock = key ∧ s.redis.locks.get key = none) := by
  cases e with
  | time delay =>
    simp only [System.step, Option.some.injEq] at hstep
    subst hstep
    rw [Redis.advance, Store.get_advance] at hheld
    split at hheld
    · cases hheld
    · exact .inl hheld
  | task task_id outcome =>
    cases State.task_step_cases hstep with
    | leave => exact .inl hheld
    | move hmove => exact .inl hheld
    | acquired hphase hset =>
      rcases redis_set_nx_get_eq hheld with hbefore | ⟨rfl, rfl, hfree⟩
      · exact .inl hbefore
      · exact .inr ⟨⟨outcome, rfl⟩, hphase, rfl, hfree⟩
    | refused hphase hset =>
      rcases redis_set_nx_get_eq hheld with hbefore | ⟨rfl, rfl, hfree⟩
      · exact .inl hbefore
      · exact .inr ⟨⟨outcome, rfl⟩, hphase, rfl, hfree⟩
    | saved_reverse hphase => exact .inl hheld
    | found houtcome hphase hhas => exact .inl hheld
    | persisted hphase => exact .inl (by simpa using hheld)
    | persisted_reverse hphase => exact .inl hheld
    | read hphase => exact .inl hheld
    | deleted hphase hdone => exact .inl (Store.get_of_get_delete hheld)
    | deleted_reverse hphase => exact .inl hheld
  | log_task_callback call =>
    cases State.log_step_cases hstep with
    | looked_up hphase hnext => exact .inl hheld
    | mismatched hphase => exact .inl hheld
    | matched hphase hvalue => exact .inl hheld
    | deleted hphase hdone => exact .inl (Store.get_of_get_delete hheld)
    | deleted_reverse hphase => exact .inl hheld

end que.tasks
