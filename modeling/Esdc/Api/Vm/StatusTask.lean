import Esdc.Api.Callback.Status
import Esdc.Lib.Transition

namespace api.vm.status_task

open que.mgmt
open api.callbacks (Db Meta Result Failure vm_status_cb callback)
open vms.models (Status)
open vms.definition (Json)

inductive Action
  | stop
  | reboot
  deriving DecidableEq

/-- `update` is the parameter of that name if the definition has been changed,
and false otherwise. -/
structure Request where
  action : Action
  update : Bool
  force : Bool
  freeze : Bool
  tasks_pending : Bool
  no_shutdown : Bool

def Request.allowed (request : Request) (status : Status) : Bool :=
  match request.action with
  | .reboot => status = .RUNNING && !request.freeze
  | .stop => status = .STOPPING || status = .RUNNING

/-- Whether the view is going to save the status, unless it refuses the request
or does not run a command for it. -/
def Request.transition_to_stopping (request : Request) (status : Status) : Option Bool :=
  if !request.allowed status || request.no_shutdown || (request.update && request.tasks_pending) then none
  else if status = .STOPPING then
    if request.update || !request.force then none else some false
  else some true

/-- Where `VmStatus.put` stands, with the object that it has loaded. -/
inductive View
  | start
  | execute (vm : vms.models.Vm Nat) (transition_to_stopping : Bool)
  | save_status (vm : vms.models.Vm Nat)
  | save_row (vm : vms.models.Vm Nat)
  | save_cached_status (vm : vms.models.Vm Nat)
  | save_cached_status_change (vm : vms.models.Vm Nat)
  | task_response
  | done
  deriving DecidableEq

/-- Where the task stands on the worker of the node; times are in microseconds. -/
inductive Worker
  | idle
  | queued
  | check (wait : Nat)
  | sleep (wait until_ : Nat)
  | task_check
  | popen
  | communicate (exec_time : Nat)
  | send_task (result : Result Nat)
  | finished

/-- The callback on the management queue, with the number of its executions that
have ended with an operational error. -/
inductive CallbackTask
  | absent
  | sent (result : Result Nat) (retries : Nat)
  | done (result : Result Nat) (success : Bool)

/-- `now` is the clock that all machines share, and `exists_` tells whether the
task is in `UserTasks`. -/
structure State (Node : Type) where
  now : Nat
  db : Db Node Nat
  super_admins : Bool
  same_owner : Bool
  exists_ : Bool
  view : View
  meta_ : Option (Meta Nat)
  worker : Worker
  callback : CallbackTask

variable {Node : Type}

def State.init (db : Db Node Nat) (super_admins same_owner : Bool) (now : Nat) : State Node where
  now
  db
  super_admins
  same_owner
  exists_ := false
  view := .start
  meta_ := none
  worker := .idle
  callback := .absent

/-- What is left open: the passage of time, whether the task has been sent
(`sent`) and `execute` raises an exception nevertheless, the end of the command,
whether the lock exists, and the statements of the callback that fail. -/
inductive Event
  | time (delay : Nat)
  | view
  | execute (sent raises : Bool)
  | view_error
  | worker
  | finish (returncode : Int) (message : String) (json : Option Json)
  | worker_error
  | callback (fails : List Bool)

def CHECK_TIMEOUT : Nat := 30000000

def Request.meta_ (request : Request) (last_status : Status) : Meta Nat where
  force := request.force
  recreate := false
  update := request.update
  freeze := request.freeze
  last_status
  exec_time := none
  finish_time := none

def State.save (s : State Node) (view : View)
    (f : vms.models.StatusStore Nat → vms.models.StatusStore Nat) : State Node :=
  { s with view, db := s.db.update_vm fun row => { row with store := f row.store } }

/-- One access of the view to the clock, the database, the cache or `UserTasks`. -/
def Request.view_step (request : Request) (s : State Node) : Option (State Node) :=
  match s.view with
  | .start =>
    match s.db.vm with
    | none => some { s with view := .done }
    | some row =>
      let vm := vms.models.Vm.get row.store
      match request.transition_to_stopping vm.status with
      | none => some { s with view := .done }
      | some transition_to_stopping => some { s with view := .execute vm transition_to_stopping }
  | .save_status vm => some { s with view := .save_row (vm.touch (some s.now)) }
  | .save_row vm => some (s.save (.save_cached_status vm) vm.save_row)
  | .save_cached_status vm => some (s.save (.save_cached_status_change vm) vm.save_cached_status)
  | .save_cached_status_change vm => some (s.save .task_response vm.save_cached_status_change)
  | .task_response =>
    -- `UserTasks.add` refuses a task that has finished
    match s.worker with
    | .finished => some { s with view := .done }
    | _ => some { s with view := .done, exists_ := true }
  | .execute _ _ | .done => none

def Request.execute_step (request : Request) (s : State Node) (sent raises : Bool) : Option (State Node) :=
  match s.view with
  | .execute vm transition_to_stopping =>
    let s := if sent then { s with worker := .queued, meta_ := some (request.meta_ vm.status) } else s
    some { s with view :=
      if raises then .done
      else if transition_to_stopping then .save_status { vm with status := .STOPPING }
      else .task_response }
  | _ => none

/-- `UserTasks.check`, `task_check` and the start of the command. -/
def worker_step (s : State Node) : Option (State Node) :=
  match s.worker with
  | .queued => some { s with worker := .check 500000 }
  | .check wait =>
    if s.exists_ then some { s with worker := .task_check }
    else if CHECK_TIMEOUT < wait then some { s with worker := .finished }
    else some { s with worker := .sleep wait (s.now + wait) }
  | .sleep wait until_ => if until_ ≤ s.now then some { s with worker := .check (wait * 2) } else none
  | .task_check => some { s with worker := .popen }
  | .popen => some { s with worker := .communicate s.now }
  | .send_task result => some { s with worker := .finished, callback := .sent result 0 }
  | .idle | .communicate _ | .finished => none

/-- The result of the command. -/
def finish_step (s : State Node) (returncode : Int) (message : String) (json : Option Json) :
    Option (State Node) :=
  match s.worker, s.meta_ with
  | .communicate exec_time, some meta_ =>
    let result : Result Nat :=
      { returncode := some returncode, message := some message, json := some json, stdout := none
        stderr := none, status := none, status_changed := none
        meta_ := { meta_ with exec_time := some exec_time, finish_time := some s.now } }
    some { s with worker := .send_task result }
  | _, _ => none

/-- An execution of the callback; after an operational error there is another one. -/
def callback_step (s : State Node) (fails : List Bool) : Option (State Node) :=
  match s.callback with
  | .sent result retries =>
    match (callback vm_status_cb).run_failing fails ⟨s.db, result, s.super_admins, s.same_owner⟩ with
    | (.error .operational, t) =>
      some
        { s with
          db := t.db
          super_admins := t.super_admins
          same_owner := t.same_owner
          callback := .sent t.result (retries + 1) }
    | (.error (.error _), t) =>
      some
        { s with
          db := t.db
          super_admins := t.super_admins
          same_owner := t.same_owner
          callback := .done result false }
    | (.ok _, t) =>
      some
        { s with
          db := t.db
          super_admins := t.super_admins
          same_owner := t.same_owner
          callback := .done result true }
  | .absent | .done _ _ => none

def Request.step (request : Request) (s : State Node) : Event → Option (State Node)
  | .time delay => some { s with now := s.now + delay }
  | .view => request.view_step s
  | .execute sent raises => request.execute_step s sent raises
  | .view_error => some { s with view := .done }
  | .worker => worker_step s
  | .finish returncode message json => finish_step s returncode message json
  | .worker_error =>
    match s.worker with
    | .idle => none
    | _ => some { s with worker := .finished }
  | .callback fails => callback_step s fails

end api.vm.status_task
