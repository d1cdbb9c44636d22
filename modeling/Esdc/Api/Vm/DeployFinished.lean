import Esdc.Api.Callback.Data
import Esdc.Api.Status.Deploy

open vms.models transition

namespace api.vm.base.deploy_finished

open api.vm.status (VmInfo Write Report detect_change too_old _vm_status_check)
open api.callbacks (contains startswith)

variable {H Node Time : Type}

/-- The handler of a report: the cached state is read before the `mgmt_lock` is acquired, the
check runs inside. -/
inductive Pc
  | read
  | check (state_cache : Option Status)
  | done
  deriving DecidableEq

/-- The create or recreate of the VM that is in progress; `vm` is the object that the view or
the callback has loaded. -/
inductive Progress (Time : Type)
  | idle
  | executing (vm : Vm Time) (old_status : Status) (recreate : Bool)
  | waiting (vm : Vm Time)
  deriving DecidableEq

/-- The attempts are numbered. Each has a definition of its own, and every report is made in
one of them. -/
structure Attempts (H Node Time : Type) where
  info : Nat → VmInfo Node
  report : H → Report Node Time
  deployment : H → Nat

/-- `flag` is the key in redis, with the handler that has set it. `finished` is not stored
anywhere: the attempts whose deployment was found to be finished, each with that handler. -/
structure State (H Time : Type) where
  store : StatusStore Time
  flag : Option H
  attempt : Nat
  pc : H → Pc
  progress : Progress Time
  finished : List (Nat × H)

inductive Event (H Time : Type)
  | post (recreate : Bool) (now : Time)
  | execute_error (now : Time)
  | handler (h : H)
  | give_up (h : H)
  | callback (returncode : Int) (message : String) (parsed : Bool) (now : Time)
  | has_deploy_finished
  | timeout (now : Time)

def State.init (store : StatusStore Time) : State H Time := ⟨store, none, 0, fun _ => .read, .idle, []⟩

/-- `vm.status = status` and `save_status` or `save`. -/
def save_status (vm : Vm Time) (status : Status) (status_change_time : Option Time) (store : StatusStore Time) :
    StatusStore Time :=
  { vm with status }.save status_change_time store

/-- The status that `_vm_create_cb_failed` goes back to. -/
def revert_state (recreate : Bool) (message : String) : Status :=
  if recreate then if startswith message "Successfully deleted" then .NOTCREATED else .STOPPED
  else .NOTCREATED

/-- The status after a bad return code, which `vm_status_changed` saves without a time; `_vm_error` if the old VM is gone. -/
def failed (vm : Vm Time) (recreate : Bool) (message : String) (now : Time) (store : StatusStore Time) :
    StatusStore Time :=
  let state := revert_state recreate message
  let deleted := recreate && contains message "Successfully deleted"
  if vm.status ≠ state then
    let store := save_status vm state none store
    if deleted then save_status ({ vm with status := state }.saved none) .ERROR (some now) store else store
  else if deleted then save_status vm .ERROR (some now) store
  else store

/-- The wait for the end of the deployment begins. -/
def succeeded (returncode : Int) (message : String) (parsed : Bool) : Bool :=
  returncode = 0 && contains message "Successfully created" && parsed && contains message "Successfully started"

/-- `vm_create_cb` up to the wait. -/
def vm_create_cb (s : State H Time) (recreate : Bool) (returncode : Int) (message : String) (parsed : Bool)
    (now : Time) : State H Time :=
  let vm := Vm.get s.store
  if returncode = 0 && contains message "Successfully created" then
    if parsed then
      let store := vm.save (some now) s.store
      let vm := vm.saved (some now)
      if contains message "Successfully started" then { s with store, progress := .waiting vm }
      else { s with store := save_status vm .ERROR (some now) store, progress := .idle }
    else { s with store := save_status vm .ERROR (some now) s.store, progress := .idle }
  else { s with store := failed vm recreate message now s.store, progress := .idle }

variable [DecidableEq Node] [LinearOrder Time]

/-- `_vm_status_check` gets to `set_deploy_finished`. -/
def Attempts.set_deploy_finished (sys : Attempts H Node Time) (s : State H Time) (h : H)
    (state_cache : Option Status) : Bool :=
  let info := sys.info s.attempt
  let report := sys.report h
  let state := Vm.STATUS_DICT report.state
  match info.write state (detect_change (state_cache.getD s.store.status) state false) with
  | none => false
  | some write => write.deploy_over && info.node_uuid = report.node_uuid && !too_old s.store report.change_time

variable [DecidableEq H]

def State.goto (s : State H Time) (h : H) (pc : Pc) : State H Time := { s with pc := Function.update s.pc h pc }

def Attempts.handler_step (sys : Attempts H Node Time) (s : State H Time) (h : H) : Option (State H Time) :=
  match s.pc h with
  | .read => if sys.deployment h ≤ s.attempt then some (s.goto h (.check s.store.cached_status)) else none
  | .check state_cache =>
    let report := sys.report h
    let store := _vm_status_check (sys.info s.attempt) report.node_uuid (Vm.STATUS_DICT report.state) state_cache
      report.change_time false s.store
    let flag := if sys.set_deploy_finished s h state_cache then some h else s.flag
    some { s.goto h .done with store, flag }
  | .done => none

def Attempts.step (sys : Attempts H Node Time) (s : State H Time) : Event H Time → Option (State H Time)
  | .post recreate now =>
    let vm := Vm.get s.store
    if s.progress = .idle ∧ vm.status = (if recreate then .STOPPED else .NOTCREATED) then
      let saved : Vm Time := { vm with status := .CREATING }
      some { s with
        store := saved.save (some now) s.store
        attempt := s.attempt + 1
        progress := .executing (saved.saved (some now)) vm.status recreate }
    else none
  | .execute_error now =>
    match s.progress with
    | .executing vm old_status _ =>
      some { s with store := save_status vm old_status (some now) s.store, progress := .idle }
    | _ => none
  | .handler h => sys.handler_step s h
  | .give_up h => if s.pc h = .done then none else some (s.goto h .done)
  | .callback returncode message parsed now =>
    match s.progress with
    | .executing _ _ recreate => some (vm_create_cb s recreate returncode message parsed now)
    | _ => none
  | .has_deploy_finished =>
    match s.progress, s.flag with
    | .waiting _, some h =>
      some { s with flag := none, progress := .idle, finished := (s.attempt, h) :: s.finished }
    | .waiting _, none => some s
    | _, _ => none
  | .timeout now =>
    match s.progress with
    | .waiting vm => some { s with store := save_status vm .ERROR (some now) s.store, progress := .idle }
    | _ => none

end api.vm.base.deploy_finished
