import Esdc.Lib.Transition
import Esdc.Que.Lock

open expiring_store que.lock

namespace que.tasks

variable {K T C : Type} [DecidableEq K] [DecidableEq T] [DecidableEq C]

/-- How a task comes to run: `execute()` with a `MetaTask`, or
`MgmtTask.call()` with a `MgmtTask`. -/
inductive Wrapper
  | execute
  | call
  deriving DecidableEq

/-- The parameters of one task: the redis key of its lock with the timeout
(`0` if missing), and the key of the lock that blocks it. -/
structure Task (K : Type) where
  wrapper : Wrapper
  lock : K
  lock_timeout : Nat
  block : Option K
  check_user_tasks : Bool

/-- What a task does next. The first half up to `apply_async` is the process
that calls the wrapper, the second half is the worker in `__call__`. -/
inductive Phase (T : Type)
  | get_pending
  | acquire
  | set_reverse
  | apply_async
  | queued
  | user_tasks_check
  | task_check (pc : CheckPc)
  | block_check
  | blocked
  | run
  | delete (pc : DeletePc T)
  | returned
  deriving DecidableEq

/-- Only `MgmtTask.call()` looks for a pending task before it acquires. -/
def Task.start (task : Task K) : Phase T :=
  match task.wrapper with
  | .execute => .acquire
  | .call => .get_pending

/-- Both the `finally` of `__call__` and the failed wrapper use a `TaskLock`
whose reverse key was cached for the own task id. -/
def Task.task_lock (task : Task K) (task_id : T) : TaskLock K T := ⟨task.lock, some task_id⟩

/-- A worker has taken the task and has not left `__call__`. -/
def Phase.onWorker : Phase T → Bool
  | .user_tasks_check | .task_check _ | .block_check | .run | .delete _ => true
  | _ => false

/-- What `log_task_callback` does next. -/
inductive LogPhase (K T : Type)
  | get_lock_key_from_value
  | delete (key : K) (pc : DeletePc T)
  | returned
  deriving DecidableEq

/-- A lock that DEL removed from redis: its key, the task id stored in it and
the task id on whose behalf it was removed. -/
structure Removal (K T : Type) where
  key : K
  value : T
  by_task : T
  deriving DecidableEq

/-- A set of tasks with their parameters and of `log_task_callback` calls with
their task ids; `internal` are the task ids owned by `TASK_USER`. -/
structure System (K T C : Type) where
  task : T → Task K
  caller : C → T
  internal : T → Bool

/-- `checked` and `removed` are not stored anywhere: the tasks between a
successful `task_check` and their own delete, and the locks removed so far. -/
structure State (K T C : Type) where
  redis : Redis K T
  phase : T → Phase T
  log : C → LogPhase K T
  checked : T → Bool
  removed : List (Removal K T)

def System.init (sys : System K T C) : State K T C where
  redis := .empty
  phase task_id := (sys.task task_id).start
  log _ := .get_lock_key_from_value
  checked _ := false
  removed := []

/-- How a step that redis does not decide ends; `kill` is a revoked or killed task. -/
inductive Outcome
  | ok
  | error
  | kill
  deriving DecidableEq

inductive Event (T C : Type)
  | time (delay : Nat)
  | task (task_id : T) (outcome : Outcome)
  | log_task_callback (call : C)
  deriving DecidableEq

def State.goto (s : State K T C) (task_id : T) (phase : Phase T) : State K T C :=
  { s with phase := Function.update s.phase task_id phase }

/-- The task ends without a delete of its own. -/
def State.leave (s : State K T C) (task_id : T) : State K T C :=
  { s.goto task_id .returned with checked := Function.update s.checked task_id false }

/-- The removal that a DEL of `key` makes. -/
def removal (redis : Redis K T) (key : K) (task_id : T) : List (Removal K T) :=
  (redis.locks.get key).toList.map fun value => ⟨key, value, task_id⟩

/-- `task_lock.delete()` of a task. -/
def State.task_delete (sys : System K T C) (s : State K T C) (task_id : T) (pc : DeletePc T) :
    State K T C :=
  let lock := (sys.task task_id).task_lock task_id
  let (redis, next) := lock.delete none s.redis pc
  let s' := { s.goto task_id (next.elim .returned .delete) with redis }
  match pc with
  | .delete _ =>
    { s' with
      checked := Function.update s.checked task_id false
      removed := s.removed ++ removal s.redis lock.key task_id }
  | _ => s'

/-- One redis command, or one other step, of a task. -/
def State.task_step (sys : System K T C) (s : State K T C) (task_id : T) (outcome : Outcome) :
    Option (State K T C) :=
  let task := sys.task task_id
  let lock := task.task_lock task_id
  if outcome = .kill ∧ (s.phase task_id).onWorker then some (s.leave task_id) else
  match s.phase task_id with
  | .get_pending =>
    some (s.goto task_id (if (s.redis.locks.get task.lock).isSome then .returned else .acquire))
  | .acquire =>
    let (res, redis) := lock.acquire task_id task.lock_timeout s.redis
    some { s.goto task_id (if res then .set_reverse else .returned) with redis }
  | .set_reverse =>
    let redis := lock._set_reverse task_id task.lock_timeout s.redis
    some { s.goto task_id .apply_async with redis }
  | .apply_async => some (s.goto task_id (if outcome = .ok then .queued else .delete .get))
  | .queued =>
    if outcome = .kill then some (s.leave task_id)
    else some (s.goto task_id (if task.check_user_tasks then .user_tasks_check else .task_check .has))
  | .user_tasks_check =>
    some (s.goto task_id (if outcome = .ok then .task_check .has else .delete .get))
  | .task_check pc =>
    let (redis, result) := lock.task_check s.redis pc
    match result with
    | .next .persist =>
      some { s.goto task_id (.task_check .persist) with
        redis, checked := Function.update s.checked task_id true }
    | .next pc' => some { s.goto task_id (.task_check pc') with redis }
    | .passed => some { s.goto task_id .block_check with redis }
    | .raised => some { s.goto task_id (.delete .get) with redis }
  | .block_check =>
    some (s.goto task_id (if task.block.any s.redis.locks.has then .blocked else .run))
  | .blocked =>
    -- out of retries, the lock stays without a delete
    if outcome = .ok then some (s.goto task_id .queued) else some (s.leave task_id)
  | .run => some (s.goto task_id (.delete .get))
  | .delete pc => some (s.task_delete sys task_id pc)
  | .returned => none

/-- One redis command of a `log_task_callback` call. -/
def State.log_step (sys : System K T C) (s : State K T C) (call : C) : Option (State K T C) :=
  let task_id := sys.caller call
  match s.log call with
  | .get_lock_key_from_value =>
    let next := match s.redis.reverse.get task_id with
      | some lock_key => if sys.internal task_id then .returned else .delete lock_key .get
      | none => .returned
    some { s with log := Function.update s.log call next }
  | .delete lock_key pc =>
    let lock : TaskLock K T := ⟨lock_key, none⟩
    let (redis, next) := lock.delete (some task_id) s.redis pc
    let s' := { s with
      redis, log := Function.update s.log call (next.elim .returned (.delete lock_key)) }
    match pc with
    | .delete _ => some { s' with removed := s.removed ++ removal s.redis lock_key task_id }
    | _ => some s'
  | .returned => none

def System.step (sys : System K T C) (s : State K T C) : Event T C → Option (State K T C)
  | .time delay => some { s with redis := s.redis.advance delay }
  | .task task_id outcome => s.task_step sys task_id outcome
  | .log_task_callback call => s.log_step sys call

end que.tasks
