import Esdc.Api.Callback.Migrate
import Esdc.Api.Callback.Status
import Esdc.Api.Vm.Manage
import Esdc.Api.Vm.Replica
import Esdc.Api.Vm.Restore

namespace api.vm.operations

open que.mgmt api.callbacks
open vms.models (Status StatusStore)
open vms.definition (Json)

variable {Node Time : Type}

/-- The status that `set_notready` saves. -/
def notready (store : StatusStore Time) : StatusStore Time :=
  (vms.models.Vm.get store).set_notready.save none store

/-- A view reverts the object that it has saved before. -/
def view_reverted (store : StatusStore Time) : StatusStore Time :=
  ((vms.models.Vm.get store).set_notready.saved none).revert_notready.save none (notready store)

/-- A callback reverts an object that it has loaded. -/
def callback_reverted (store : StatusStore Time) : StatusStore Time :=
  (vms.models.Vm.get store).revert_notready.save none store

/-- The VM without its definition on a node. -/
def VmRow.deleted (vm row : VmRow Node Time) : VmRow Node Time :=
  { row with
    store := { vms.models.Vm.get vm.store with status := .NOTCREATED }.save none row.store
    json := vm.json
    json_active := ⟨∅, fun _ => none, [], []⟩ }

def _vm_delete_cb_succeeded (vm : VmRow Node Time) : Callback Node Time Unit := do
  write .save_vm fun db => db.update_vm (VmRow.deleted vm)
  write .vm_snapshots fun db => { db with snapshots := [] }
  write .vm_snapshot_defines fun db => { db with snapshot_defines := [] }
  write .vm_backup_defines fun db => { db with backup_defines := [] }

def vm_delete_cb_failed (vm : VmRow Node Time) (msg : String) : Callback Node Time Unit :=
  if is_vm_missing vm msg then _vm_delete_cb_succeeded vm else revert_notready vm

def vm_delete_cb : Callback Node Time (Result Time) := do
  let vm ← Vm_get .get_vm
  let result := (← get).result
  let msg := result.message.getD ""
  let returncode ← getitem result.returncode "returncode"
  if returncode = 0 ∧ startswith msg "Successfully deleted" then
    _vm_delete_cb_succeeded vm
    task_log .success (.success msg)
    return (← get).result
  else
    vm_delete_cb_failed vm msg
    raise (.bad_return_code returncode msg)

/-- What becomes of the remote task: `execute` returns an error, it or what comes
before it raises an exception, or the worker sends a result. -/
inductive Task (R : Type)
  | error
  | exception
  | result (r : R)

/-- The result of a `vmadm` or `esmigrate` task. -/
structure Output (Time : Type) where
  returncode : Int
  message : String
  json : Option Json
  meta_ : Meta Time

/-- `meta['output']` -/
def Output.result (output : Output Time) : Result Time where
  returncode := some output.returncode
  message := some output.message
  json := some output.json
  stdout := none
  stderr := none
  status := none
  status_changed := none
  meta_ := output.meta_

/-- The rows of the VM, and of the VM of the snapshot if that is another one. -/
structure Vms (Node Time : Type) where
  db : Db Node Time
  snap_vm : Option (StatusStore Time)
  super_admins : Bool
  same_owner : Bool

/-- A change of the status of the VM alone. -/
def Vms.update (vms : Vms Node Time) (f : StatusStore Time → StatusStore Time) : Vms Node Time :=
  { vms with db := vms.db.update_vm fun row => { row with store := f row.store } }

/-- A change of the status of both VMs. -/
def Vms.update_both (vms : Vms Node Time) (f : StatusStore Time → StatusStore Time) : Vms Node Time :=
  { vms.update f with snap_vm := vms.snap_vm.map f }

def Vms.run_callback {α : Type} (vms : Vms Node Time) (body : Callback Node Time α) (output : Output Time) :
    Vms Node Time :=
  { vms with db := ((callback body).run ⟨vms.db, output.result, vms.super_admins, vms.same_owner⟩).2.db }

/-- A view that reverts the status in a `finally` block. -/
def run_finally {R : Type} (task : Task R) (callback : R → Vms Node Time → Vms Node Time)
    (vms : Vms Node Time) : Vms Node Time :=
  match task with
  | .error | .exception => vms.update view_reverted
  | .result r => callback r (vms.update notready)

def _vm_snapshot_cb_failed (vms : Vms Node Time) : Vms Node Time := vms.update_both callback_reverted

/-- The callback of a PUT `vm_snapshot`. -/
def vm_snapshot_cb (returncode : Int) (vms : Vms Node Time) : Vms Node Time :=
  if returncode = 0 then vms.update_both callback_reverted else _vm_snapshot_cb_failed vms

/-- PUT `vm_snapshot` has no `finally` block. -/
def vm_snapshot_put (task : Task Int) (vms : Vms Node Time) : Vms Node Time :=
  match task with
  | .error => vms.update_both view_reverted
  | .exception => vms.update_both notready
  | .result returncode => vm_snapshot_cb returncode (vms.update_both notready)

/-- The operations that set the status of a VM to a NOTREADY one, and what becomes
of their tasks. -/
inductive Operation (Node Time : Type)
  | vm_update (new_node_uuid : Option Node) (task : Task (Output Time))
  | vm_delete (task : Task (Output Time))
  | vm_migrate (ghost_vm : SlaveVmRow Node) (task : Task (Output Time))
  | vm_snapshot (task : Task Int)
  | vm_replica (task : Task replica.Result)
  | vm_replica_failover (task : Task replica.Result)

/-- The status checks of the view. -/
def Operation.operational (op : Operation Node Time) (vms : Vms Node Time) (status : Status) : Bool :=
  match op with
  | .vm_update _ _ => base.Method.put.operational status
  | .vm_delete _ => base.Method.delete.operational status
  | .vm_migrate _ _ | .vm_replica _ => status = .STOPPED ∨ status = .RUNNING
  | .vm_snapshot _ => vms.snap_vm.all (fun store => restore.operational store.status) ∧ status = .STOPPED
  | .vm_replica_failover _ => true

/-- The VM of the snapshot, if the operation sets its status as well. -/
def Operation.snap_vm (op : Operation Node Time) (vms : Vms Node Time) : Option (StatusStore Time) :=
  match op with
  | .vm_snapshot _ => vms.snap_vm
  | _ => none

def Vms.set_slave_vm (vms : Vms Node Time) (ghost_vm : SlaveVmRow Node) : Vms Node Time :=
  { vms with db := { vms.db with slave_vm := some ghost_vm } }

/-- The view after its checks, and the callback if the task has been run. -/
def Operation.run [DecidableEq Node] (op : Operation Node Time) (vms : Vms Node Time) : Vms Node Time :=
  match op with
  | .vm_update new_node_uuid task =>
    run_finally task (fun output vms => vms.run_callback (vm_update_cb new_node_uuid) output) vms
  | .vm_delete task => run_finally task (fun output vms => vms.run_callback vm_delete_cb output) vms
  | .vm_migrate ghost_vm task =>
    run_finally task (fun output vms => (vms.set_slave_vm ghost_vm).run_callback vm_migrate_cb output) vms
  | .vm_snapshot task => vm_snapshot_put task vms
  | .vm_replica task => run_finally task (fun result vms => vms.update (replica.vm_replica_cb result)) vms
  | .vm_replica_failover task =>
    run_finally task (fun result vms => vms.update (replica.vm_replica_failover_cb result)) vms

end api.vm.operations
