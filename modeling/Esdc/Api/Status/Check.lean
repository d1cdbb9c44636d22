import Mathlib
import Esdc.Vms.Status

open vms.models

namespace api.vm.status

variable {Node Time : Type} [DecidableEq Node] [LinearOrder Time]

/-- What the handlers read of a VM besides its status. -/
structure VmInfo (Node : Type) where
  node_uuid : Node
  is_deploy_needed : Bool
  is_blank : Bool

/-- The change that `_vm_status_check` finds in the cached and the new state. -/
inductive Change
  | ignored
  | deploy
  | deploy_finish
  | deploy_over
  | changed
  deriving DecidableEq

def detect_change (state_cache state : Status) (force_change : Bool) : Change :=
  if state_cache = state then .ignored
  else if force_change then .changed
  else match state_cache with
  | .CREATING => if state = .RUNNING then .deploy else .ignored
  | .DEPLOYING_DUMMY => if state = .STOPPED then .deploy_over else .ignored
  | .DEPLOYING_START => if state = .STOPPED then .deploy_finish else .ignored
  | .DEPLOYING_FINISH => if state = .RUNNING then .deploy_over else .ignored
  | _ => if state_cache ∈ Vm.STATUS_KNOWN then .changed else .ignored

/-- What is written once a change has been found: the new status, whether it
goes through `vm_status_changed` and so past its comparison of change times,
whether `vm_deploy` is run and with which `force_stop`, and whether the
deploy is over. -/
structure Write where
  new_status : Status
  vm_status_changed : Bool
  vm_deploy : Option Bool
  deploy_over : Bool
  deriving DecidableEq

def VmInfo.write (vm : VmInfo Node) (state : Status) : Change → Option Write
  | .ignored => none
  | .deploy =>
    if vm.is_deploy_needed then some ⟨.DEPLOYING_START, false, none, false⟩
    else if vm.is_blank then some ⟨.DEPLOYING_DUMMY, false, some true, false⟩
    else some ⟨state, true, none, true⟩
  | .deploy_finish => some ⟨.DEPLOYING_FINISH, false, some false, false⟩
  | .deploy_over => some ⟨state, true, none, true⟩
  | .changed => some ⟨state, true, none, false⟩

/-- The comparison at the start of `vm_status_changed`. -/
def too_old (store : StatusStore Time) (change_time : Option Time) : Prop :=
  ∃ t ∈ change_time, ∃ old_change_time ∈ store.cached_status_change, t < old_change_time

instance (store : StatusStore Time) (change_time : Option Time) :
    Decidable (too_old store change_time) :=
  inferInstanceAs (Decidable (∃ t ∈ change_time, ∃ old ∈ store.cached_status_change, t < old))

/-- `vm_status_changed` as called by `_save_vm_status`, with the cached status
as the original one. -/
def vm_status_changed (vm : Vm Time) (state old_state : Status) (change_time : Option Time)
    (store : StatusStore Time) : StatusStore Time :=
  if too_old store change_time then store
  else { vm with status := state, _orig_status := old_state }.save change_time store

/-- `_vm_status_check` without interruption, run with the cached state that its
callback has read. -/
def _vm_status_check (info : VmInfo Node) (node_uuid : Node) (state : Status)
    (state_cache : Option Status) (change_time : Option Time) (force_change : Bool)
    (store : StatusStore Time) : StatusStore Time :=
  let vm := Vm.get store
  let (state_cache, store) := match state_cache with
    | none => (vm.status, { store with cached_status := some vm.status })
    | some state_cache => (state_cache, store)
  match info.write state (detect_change state_cache state force_change) with
  | none => store
  | some write =>
    if info.node_uuid ≠ node_uuid then store
    else if write.vm_status_changed then
      vm_status_changed vm write.new_status state_cache change_time store
    else { vm with status := write.new_status }.save change_time store

/-- A change of a zone's state as erigonesd-vmon reports it. -/
structure StatusEvent (Node Time : Type) where
  node_uuid : Node
  state : NodeState
  when : Time

def vm_status_event_cb (info : VmInfo Node) (store : StatusStore Time)
    (result : StatusEvent Node Time) : StatusStore Time :=
  _vm_status_check info result.node_uuid (Vm.STATUS_DICT result.state) store.cached_status
    (some result.when) false store

end api.vm.status
