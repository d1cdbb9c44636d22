import Esdc.Api.Callback.Status

namespace vms.definition

/-- `save_metadata` with the internal metadata -/
def Json.save_metadata (json : Json) (key : String) (value : Value) : Json :=
  let metadata := ((json.simple .internal_metadata).getD ∅).insert key value
  { json with simple := Function.update json.simple .internal_metadata (some metadata) }

theorem Json.save_metadata_save_metadata (json : Json) (key : String) (value : Value) :
    (json.save_metadata key value).save_metadata key value = json.save_metadata key value := by
  simp [Json.save_metadata, AList.insert_insert]

end vms.definition

namespace api.callbacks

open que.mgmt
open Procedure (Point Raises Exposed)
open vms.models (Status)
open vms.definition (Json Value)

variable {Node Time : Type} [LinearOrder Time]

/-- The VM has the status ERROR until its real status is known. -/
def save_error (vm : vms.models.Vm Time) : Callback Node Time Unit :=
  save_status .save_error { vm with status := .ERROR } none

/-- `_vm_error` for a VM whose node has not been loaded yet. -/
def _vm_error (vm : vms.models.Vm Time) : Callback Node Time Unit := do
  save_error vm
  vm_status_one

def delete_vm_snapshots : Callback Node Time Unit := do
  write .vm_snapshots fun db => { db with snapshots := [] }
  write .vm_snapshot_defines fun db => { db with snapshot_defines := [] }
  write .vm_backup_defines fun db => { db with backup_defines := [] }

def Result.recreate_deleted (result : Result Time) : Bool :=
  result.meta_.recreate && startswith (result.message.getD "") "Successfully deleted"

def Result.revert_state (result : Result Time) : Status :=
  if result.meta_.recreate && !result.recreate_deleted then .STOPPED else .NOTCREATED

/-- A VM that is created again has lost its disks if it has been deleted before. -/
def delete_recreated (result : Result Time) : Callback Node Time Unit :=
  if result.meta_.recreate then do
    let message ← getitem result.message "message"
    if startswith message "Successfully deleted" then
      delete_vm_snapshots
      write .save_metadata fun db => db.update_vm fun row =>
        { row with json := row.json.save_metadata "installed" (.bool false) }
    else pure ()
  else pure ()

/-- The status of the VM is reverted; returns what is left in the object. -/
def _vm_create_cb_failed (vm : VmRow Node Time) (result : Result Time) :
    Callback Node Time (vms.models.Vm Time) := do
  delete_recreated result
  if vm.store.status ≠ result.revert_state then
    vm_status_changed vm result.revert_state vm.store.status none
    return (vm.changed result.revert_state vm.store.status).saved none
  else
    return vms.models.Vm.get vm.store

/-- The `try` of `vm_create_cb`. -/
def vm_create_cb_load (vm : VmRow Node Time) (json : Option (Option Json)) (recreate : Bool) :
    Callback Node Time Json :=
  (do
    let json_active ← load json
    (if recreate then delete_vm_snapshots else pure ())
    pure json_active).handle fun _ => do
      _vm_error (vms.models.Vm.get vm.store)
      raise .parse_json

/-- One definition; its failure is logged only. -/
def create_from_template (effect : Value → Db Node Time → Db Node Time) : List Value → Callback Node Time Unit
  | [] => pure ()
  | data :: rest => do
    (write .create_define (effect data)).handle fun _ => pure ()
    create_from_template effect rest

def create_template_defines (vm_define_snapshot vm_define_backup : List Value) : Callback Node Time Unit := do
  select .get_user fun _ => ()
  create_from_template (fun data db => { db with snapshot_defines := db.snapshot_defines ++ [data] })
    vm_define_snapshot
  create_from_template (fun data db => { db with backup_defines := db.backup_defines ++ [data] })
    vm_define_backup

def create_defines (vm : VmRow Node Time) : Callback Node Time Unit :=
  match vm.template with
  | none => pure ()
  | some (vm_define_snapshot, vm_define_backup) =>
    if vm_define_snapshot = [] ∧ vm_define_backup = [] then pure ()
    else (create_template_defines vm_define_snapshot vm_define_backup).handle fun _ => pure ()

/-- Without the line about the start. -/
def without_last_line (message : String) : String :=
  "\n".intercalate (message.trimAscii.toString.splitOn "\n").dropLast

/-- `vm_create_cb` from the transaction to the log; the node is loaded there.
Returns the VM once it is deployed. -/
def vm_create_cb_save (deploys : Bool) (vm : VmRow Node Time) (json_active : Json) (result : Result Time) :
    Callback Node Time (Option (VmRow Node Time)) := do
  let msg := result.message.getD ""
  write .save_definition fun db => db.update_vm fun row =>
    { row with
      json := if result.meta_.recreate then json_active.save_metadata "installed" (.bool false) else json_active
      json_active }
  if !contains msg "Successfully started" then
    save_error (vms.models.Vm.get vm.store)
    raise (.start_failed msg)
  else if !deploys then
    save_error (vms.models.Vm.get vm.store)
    let message := "VM " ++ vm.hostname ++ " deploy has timed out"
    modify fun s => s.set_result fun result => { result with message := some message }
    task_log .error (.failure message)
    return none
  else
    let vm ← Vm_get .reload
    select .deployed fun _ => ()
    modify fun s => s.set_result fun result => { result with message := result.message.map without_last_line }
    task_log .success (.success (without_last_line msg))
    return some vm

def vm_create_cb_done (deploys : Bool) (vm : VmRow Node Time) (json_active : Json) (result : Result Time) :
    Callback Node Time (Result Time) := do
  match ← vm_create_cb_save deploys vm json_active result with
  | none => return (← get).result
  | some vm =>
    create_defines vm
    return (← get).result

/-- `deploys` says if the deploy ends before it takes too long. -/
def vm_create_cb (deploys : Bool) : Callback Node Time (Result Time) := do
  let vm ← Vm_get .get_vm
  let result := (← get).result
  let msg := result.message.getD ""
  let returncode ← getitem result.returncode "returncode"
  if returncode = 0 ∧ contains msg "Successfully created" then
    let json ← pop_json
    let json_active ← vm_create_cb_load vm json result.meta_.recreate
    vm_create_cb_done deploys vm json_active result
  else
    let vm ← _vm_create_cb_failed vm result
    (if result.meta_.recreate ∧ contains msg "Successfully deleted" then _vm_error vm else pure ())
    raise (.bad_return_code returncode msg)

end api.callbacks
