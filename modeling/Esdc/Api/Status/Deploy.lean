import Esdc.Lib.Transition
import Esdc.Que.Lock
import Esdc.Api.Status.Converge

open vms.models expiring_store que.lock transition

namespace api.vm.status

variable {H Node Time : Type}

/-- Where a `vm_status_event_cb`, or the part of a `vm_status_all_cb` for the VM,
stands. Everything from `check` on happens inside the `mgmt_lock`. -/
inductive Pc (Time : Type)
  | read
  | acquire (state_cache : Option Status)
  | check (state_cache : Option Status)
  | cache_set (vm : Vm Time)
  | get_vm (state_cache : Status) (write : Write)
  | vm_status_changed (state_cache : Status) (write : Write) (vm : Vm Time)
  | save_row (state_cache : Status) (write : Write) (vm : Vm Time)
  | save_cached_status (write : Write) (vm : Vm Time)
  | save_cached_status_change (write : Write) (vm : Vm Time)
  | vm_deploy (write : Write) (force_stop : Bool)
  | release
  | done

/-- What a node has reported; a line of `vmadm list` may lack the time. -/
structure Report (Node Time : Type) where
  node_uuid : Node
  state : NodeState
  change_time : Option Time

/-- One VM and the handlers of the reports about it. -/
structure Handlers (H Node Time : Type) where
  info : VmInfo Node
  report : H → Report Node Time

/-- `moves` and `deploys` are not stored anywhere: the changes of the status in
the database so far, and the stages that `vm_deploy` was started for. -/
structure DeployState (H Time : Type) where
  store : StatusStore Time
  lock : Store Unit H
  pc : H → Pc Time
  moves : List (Status × Status)
  deploys : List Status

def DeployState.init (store : StatusStore Time) : DeployState H Time where
  store
  lock := .empty
  pc _ := .read
  moves := []
  deploys := []

inductive DeployEvent (H : Type)
  | time (delay : Nat)
  | handler (h : H)
  | give_up (h : H)
  | error (h : H)
  | kill (h : H)

/-- The handler has entered the `mgmt_lock`. -/
def Pc.locked : Pc Time → Bool
  | .read | .acquire _ | .done => false
  | _ => true

variable [DecidableEq Node]

/-- The VM has been loaded for a change. -/
def Handlers.loaded (sys : Handlers H Node Time) (h : H) (state_cache : Status) (write : Write)
    (vm : Vm Time) : Pc Time :=
  if sys.info.node_uuid ≠ (sys.report h).node_uuid then .release
  else if write.vm_status_changed then
    .vm_status_changed state_cache write
      { vm with status := write.new_status, _orig_status := state_cache }
  else
    .save_row state_cache write
      (Vm.touch { vm with status := write.new_status } (sys.report h).change_time)

/-- The cached state is known; `vm` has been loaded only if it was not in the cache. -/
def Handlers.checked (sys : Handlers H Node Time) (h : H) (state_cache : Status)
    (vm : Option (Vm Time)) : Pc Time :=
  let state := Vm.STATUS_DICT (sys.report h).state
  match sys.info.write state (detect_change state_cache state false) with
  | none => .release
  | some write =>
    match vm with
    | none => .get_vm state_cache write
    | some vm => sys.loaded h state_cache write vm

variable [DecidableEq H] [LinearOrder Time]

def DeployState.goto (s : DeployState H Time) (h : H) (pc : Pc Time) : DeployState H Time :=
  { s with pc := Function.update s.pc h pc }

/-- One access to the cache, the database or the lock by a handler. -/
def Handlers.handler_step (sys : Handlers H Node Time) (s : DeployState H Time) (h : H) :
    Option (DeployState H Time) :=
  match s.pc h with
  | .read => some (s.goto h (.acquire s.store.cached_status))
  | .acquire state_cache =>
    let (res, lock) := redis_set s.lock () h 300 true
    some { s.goto h (if res then .check state_cache else .acquire state_cache) with lock }
  | .check none => some (s.goto h (.cache_set (Vm.get s.store)))
  | .check (some state_cache) => some (s.goto h (sys.checked h state_cache none))
  | .cache_set vm =>
    some { s.goto h (sys.checked h vm.status (some vm)) with
      store := { s.store with cached_status := some vm.status } }
  | .get_vm state_cache write =>
    some (s.goto h (sys.loaded h state_cache write (Vm.get s.store)))
  | .vm_status_changed state_cache write vm =>
    let change_time := (sys.report h).change_time
    some (s.goto h
      (if too_old s.store change_time then .release
      else .save_row state_cache write (vm.touch change_time)))
  | .save_row _ write vm =>
    some { s.goto h (.save_cached_status write vm) with
      store := vm.save_row s.store, moves := s.moves ++ [(s.store.status, vm.status)] }
  | .save_cached_status write vm =>
    some { s.goto h (.save_cached_status_change write vm) with
      store := vm.save_cached_status s.store }
  | .save_cached_status_change write vm =>
    some { s.goto h (write.vm_deploy.elim .release (.vm_deploy write)) with
      store := vm.save_cached_status_change s.store }
  | .vm_deploy write _ =>
    some { s.goto h .release with deploys := s.deploys ++ [write.new_status] }
  | .release => some { s.goto h .done with lock := s.lock.delete () }
  | .done => none

def Handlers.step (sys : Handlers H Node Time) (s : DeployState H Time) :
    DeployEvent H → Option (DeployState H Time)
  | .time delay => some { s with lock := s.lock.advance delay }
  | .handler h => sys.handler_step s h
  | .give_up h =>
    match s.pc h with
    | .acquire _ => some (s.goto h .done)
    | _ => none
  | .error h => some (s.goto h (if (s.pc h).locked then .release else .done))
  | .kill h => some (s.goto h .done)

end api.vm.status
