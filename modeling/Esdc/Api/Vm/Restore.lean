import Esdc.Lib.Transition
import Esdc.Que.Lock
import Esdc.Vms.Status

open vms.models expiring_store que.lock transition

namespace api.vm.restore

variable {V R Time : Type}

/-- A PUT request that restores a disk: of a snapshot of the given VM with the id
of its disk, or of a backup with the array id of the target disk. -/
inductive View (V : Type)
  | vm_snapshot (vm : V) (disk_id : Nat)
  | vm_backup (disk_id : Nat)
  deriving DecidableEq

/-- The requests that restore one disk of one VM. -/
structure Restores (V R : Type) where
  target_vm : V
  view : R → View V

/-- The lock names of the two views. -/
inductive Lock (V : Type)
  | vm_snapshot (vm : V) (disk_id : Nat)
  | vm_backup (vm : V) (disk_id : Nat)
  deriving DecidableEq

/-- `LOCK % (vm.uuid, disk_id)`: the VM is the source of a snapshot, but the
target of a backup. -/
def Restores.lock (sys : Restores V R) (r : R) : Lock V :=
  match sys.view r with
  | .vm_snapshot vm disk_id => .vm_snapshot vm disk_id
  | .vm_backup disk_id => .vm_backup sys.target_vm disk_id

/-- `EXPIRES` and `BACKUP_TASK_EXPIRES`. -/
def View.expires : View V → Nat
  | .vm_snapshot _ _ => 300
  | .vm_backup _ => 14400

/-- The VM of the snapshot, if it is not the target VM. -/
def Restores.source [DecidableEq V] (sys : Restores V R) (r : R) : Option V :=
  match sys.view r with
  | .vm_snapshot vm _ => if vm = sys.target_vm then none else some vm
  | .vm_backup _ => none

/-- Where a request, its task or the callback of its task stands; `vm` is the
loaded source VM, if there is one. -/
inductive Pc (Time : Type)
  | get_vm
  | get_target (vm : Option (Vm Time))
  | checks (vm : Option (Vm Time)) (target_vm : Vm Time)
  | tasks (vm : Option (Vm Time)) (target_vm : Vm Time)
  | set_notready (vm : Option (Vm Time)) (target_vm : Vm Time)
  | set_notready_target (vm : Option (Vm Time)) (target_vm : Vm Time)
  | execute (vm : Option (Vm Time)) (target_vm : Vm Time)
  | revert_target (vm : Option (Vm Time)) (target_vm : Vm Time)
  | revert_vm (vm : Option (Vm Time))
  | tasks_add
  | task_check
  | run
  | delete_lock
  | callback_get
  | callback_vm (vm : Option (Vm Time)) (target_vm : Vm Time)
  | callback_target (target_vm : Vm Time)
  | done
  deriving DecidableEq

/-- How a step ends that the model does not decide: further checks, sending the
task, and errors of the worker; a process may be killed. -/
inductive Outcome
  | ok
  | error
  | kill
  deriving DecidableEq

inductive Event (R Time : Type)
  | time (delay : Nat)
  | request (r : R) (outcome : Outcome) (now : Time)

/-- `tasks` are the pending tasks of the target VM in UserTasks. -/
structure State (V R Time : Type) where
  vms : V → StatusStore Time
  locks : Store (Lock V) R
  tasks : List R
  pc : R → Pc Time

def State.init (vms : V → StatusStore Time) : State V R Time where
  vms
  locks := .empty
  tasks := []
  pc _ := .get_vm

/-- `_check_vm_status`. -/
def operational (status : Status) : Bool :=
  status = .RUNNING ∨ status = .STOPPED ∨ status = .STOPPING

variable [DecidableEq V] [DecidableEq R]

def State.goto (s : State V R Time) (r : R) (pc : Pc Time) : State V R Time :=
  { s with pc := Function.update s.pc r pc }

def State.save (s : State V R Time) (v : V) (vm : Vm Time) (now : Time) : State V R Time :=
  { s with vms := Function.update s.vms v (vm.save (some now) (s.vms v)) }

/-- `save()` of the source VM, if there is one. -/
def State.save_source (s : State V R Time) (source : Option V) (vm : Option (Vm Time)) (now : Time) :
    State V R Time :=
  match source, vm with
  | some v, some vm => s.save v vm now
  | _, _ => s

/-- One step of a request, of its task or of the callback of its task. -/
def Restores.request_step (sys : Restores V R) (s : State V R Time) (r : R) (outcome : Outcome)
    (now : Time) : Option (State V R Time) :=
  match s.pc r with
  | .get_vm => some (s.goto r (.get_target ((sys.source r).map fun v => Vm.get (s.vms v))))
  | .get_target vm => some (s.goto r (.checks vm (Vm.get (s.vms sys.target_vm))))
  | .checks vm target_vm =>
    if vm.all (fun vm => operational vm.status) ∧ target_vm.status = .STOPPED ∧ outcome = .ok then
      some (s.goto r (.tasks vm target_vm))
    else some (s.goto r .done)
  | .tasks vm target_vm =>
    some (s.goto r (if s.tasks = [] then .set_notready vm target_vm else .done))
  | .set_notready vm target_vm =>
    let vm := vm.map Vm.set_notready
    some ((s.save_source (sys.source r) vm now).goto r
      (.set_notready_target (vm.map fun vm => vm.saved (some now)) target_vm))
  | .set_notready_target vm target_vm =>
    let target_vm := target_vm.set_notready
    some ((s.save sys.target_vm target_vm now).goto r (.execute vm (target_vm.saved (some now))))
  | .execute vm target_vm =>
    let (res, locks) := redis_set s.locks (sys.lock r) r (sys.view r).expires true
    let s := { s with locks }
    if res = false then some (s.goto r (.revert_target vm target_vm))
    else match outcome with
      | .ok => some (s.goto r .tasks_add)
      | .error =>
        some ({ s with locks := locks.delete (sys.lock r) }.goto r (.revert_target vm target_vm))
      | .kill => some (s.goto r .done)
  | .revert_target vm target_vm =>
    some ((s.save sys.target_vm target_vm.revert_notready now).goto r (.revert_vm vm))
  | .revert_vm vm =>
    some ((s.save_source (sys.source r) (vm.map Vm.revert_notready) now).goto r .done)
  | .tasks_add =>
    if outcome = .ok then some ({ s with tasks := r :: s.tasks }.goto r .task_check)
    else some (s.goto r .delete_lock)
  | .task_check =>
    if outcome = .ok ∧ s.locks.has (sys.lock r) then
      some ({ s with locks := s.locks.persist (sys.lock r) }.goto r .run)
    else some (s.goto r .delete_lock)
  | .run => some (s.goto r .delete_lock)
  | .delete_lock => some ({ s with locks := s.locks.delete (sys.lock r) }.goto r .callback_get)
  | .callback_get =>
    some (s.goto r
      (.callback_vm ((sys.source r).map fun v => Vm.get (s.vms v)) (Vm.get (s.vms sys.target_vm))))
  | .callback_vm vm target_vm =>
    if outcome = .kill then some (s.goto r .callback_get)
    else some ((s.save_source (sys.source r) (vm.map Vm.revert_notready) now).goto r
      (.callback_target target_vm))
  | .callback_target target_vm =>
    if outcome = .kill then some (s.goto r .callback_get)
    else some ({ s.save sys.target_vm target_vm.revert_notready now with
      tasks := s.tasks.filter (· ≠ r) }.goto r .done)
  | .done => none

def Restores.step (sys : Restores V R) (s : State V R Time) : Event R Time → Option (State V R Time)
  | .time delay => some { s with locks := s.locks.advance delay }
  | .request r outcome now => sys.request_step s r outcome now

end api.vm.restore
