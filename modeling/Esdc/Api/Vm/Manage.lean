import Esdc.Lib.Transition
import Esdc.Vms.Status

open vms.models transition

namespace api.vm.base

variable {R Time : Type}

/-- The requests of `VmManage` that protect the VM while their task runs. -/
inductive Method
  | put
  | delete
  deriving DecidableEq

/-- The status check of the method, on the loaded object. -/
def Method.operational : Method → Status → Bool
  | .put, status => status = .RUNNING ∨ status = .STOPPED
  | .delete, status => status = .STOPPED ∨ status = .FROZEN

/-- Where a request, or its task once it has been accepted, stands. Every `vm` is
an object that was loaded or saved by the request itself. -/
inductive Pc (Time : Type)
  | get_vm
  | checks (vm : Vm Time)
  | set_notready (vm : Vm Time)
  | execute (vm : Vm Time)
  | revert_notready (vm : Vm Time)
  | in_flight
  | callback (vm : Vm Time)
  | done
  deriving DecidableEq

/-- How a step ends that the status of the VM does not decide: the other checks,
`execute()`, and the return code that the callback gets. A process may be killed,
and a callback may be retried. -/
inductive Outcome
  | ok
  | error
  | kill
  deriving DecidableEq

structure State (R Time : Type) where
  store : StatusStore Time
  pc : R → Pc Time

/-- A step of a request at a time. -/
structure Event (R Time : Type) where
  request : R
  outcome : Outcome
  now : Time

def State.init (store : StatusStore Time) : State R Time := ⟨store, fun _ => .get_vm⟩

/-- The object that the callback of a method saves. -/
def Method.callback (method : Method) (returncode : Outcome) (vm : Vm Time) : Vm Time :=
  match method, returncode with
  | .delete, .ok => { vm with status := .NOTCREATED }
  | _, _ => vm.revert_notready

variable [DecidableEq R]

def State.goto (s : State R Time) (r : R) (pc : Pc Time) : State R Time :=
  { s with pc := Function.update s.pc r pc }

/-- `save()` of an object by a request that goes on with `pc`. -/
def State.save (s : State R Time) (r : R) (vm : Vm Time) (now : Time) (pc : Pc Time) : State R Time :=
  { s.goto r pc with store := vm.save (some now) s.store }

/-- One step of a request by the given method, or of the callback of its task. -/
def State.step (method : R → Method) (s : State R Time) (e : Event R Time) : Option (State R Time) :=
  let r := e.request
  match s.pc r with
  | .get_vm => some (s.goto r (.checks (Vm.get s.store)))
  | .checks vm =>
    if (method r).operational vm.status ∧ e.outcome = .ok then some (s.goto r (.set_notready vm))
    else some (s.goto r .done)
  | .set_notready vm =>
    let vm := vm.set_notready
    some (s.save r vm e.now (.execute (vm.saved (some e.now))))
  | .execute vm =>
    match e.outcome with
    | .ok => some (s.goto r .in_flight)
    | .error => some (s.goto r (.revert_notready vm))
    | .kill => some (s.goto r .done)
  | .revert_notready vm => some (s.save r vm.revert_notready e.now .done)
  | .in_flight => some (s.goto r (.callback (Vm.get s.store)))
  | .callback vm =>
    match e.outcome with
    | .kill => some (s.goto r .in_flight)
    | returncode => some (s.save r ((method r).callback returncode vm) e.now .done)
  | .done => none

end api.vm.base
