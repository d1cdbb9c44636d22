import Mathlib
import Esdc.Que.Mgmt
import Esdc.Vms.Definition.Update
import Esdc.Vms.Status

namespace api.callbacks

open que.mgmt
open vms.models (Status StatusStore)
open vms.definition (Json Value Payload Simple)

/-- The VM's row with its status, which is also in the cache. The task has been
run on a node, so the VM has one. -/
structure VmRow (Node Time : Type) where
  hostname : String
  store : StatusStore Time
  node : Node
  hvm : Bool
  slavevm : Bool
  json : Json
  json_active : Json
  /-- `vm_define_snapshot` and `vm_define_backup` of the template -/
  template : Option (List Value × List Value)

structure SlaveVmRow (Node : Type) where
  node : Node
  vnc_port : Value

inductive LogEntry (Time : Type)
  | status_change (status : Status) (time : Option Time)
  | success (message : String)
  | failure (detail : String)
  /-- an entry with the owner that the task ID names -/
  | of_task_owner (entry : LogEntry Time)

/-- The rows of one VM; snapshots and definitions are those of its disks. -/
structure Db (Node Time : Type) where
  vm : Option (VmRow Node Time)
  slave_vm : Option (SlaveVmRow Node)
  nodes : List Node
  snapshots : List Value
  snapshot_defines : List Value
  backup_defines : List Value
  last_backups : List Value
  task_log : List (LogEntry Time)

structure Meta (Time : Type) where
  force : Bool
  recreate : Bool
  update : Bool
  freeze : Bool
  last_status : Status
  exec_time : Option Time
  finish_time : Option Time

/-- The result that the worker has sent. `json` is a text, which is parsed or not. -/
structure Result (Time : Type) where
  returncode : Option Int
  message : Option String
  json : Option (Option Json)
  stdout : Option String
  stderr : Option String
  status : Option String
  status_changed : Option Bool
  meta_ : Meta Time

/-- The database, the result, whether the IDs of the super admins are cached and
whether the task ID names the owner of the VM. -/
structure State (Node Time : Type) where
  db : Db Node Time
  result : Result Time
  super_admins : Bool
  same_owner : Bool

inductive Model
  | Vm
  | SlaveVm
  | Node
  deriving DecidableEq

inductive LogKind
  | status_change
  | success
  | error
  deriving DecidableEq

/-- The queries for an entry of the log, and its INSERT. -/
inductive LogPart
  /-- the name of the user and the content type -/
  | user
  | owner
  | entry
  | super_admins
  deriving DecidableEq

/-- The database statements of the callbacks. -/
inductive Statement
  | get_vm
  | revert_notready
  | removed_snapshots
  | removed_snapshot_defines
  | removed_backups
  | removed_backup_defines
  | get_node
  | save_definition
  | node_changed
  /-- the owner of a VM whose status has changed -/
  | get_owner
  | log (kind : LogKind) (part : LogPart)
  | vm_snapshots
  | vm_snapshot_defines
  | vm_backup_defines
  | save_metadata
  | save_status
  | save_error
  | vm_status_one
  | reload
  | deployed
  | get_user
  | create_define
  | get_slave_vm
  | slave_vm_storages
  | delete_slave_vm
  | vm_storages
  | save_vm
  | save_storages
  | save_nodes
  | switch_snapshots
  | last_status
  | check_get_vm
  deriving DecidableEq

inductive Failure
  | does_not_exist (model : Model)
  | key_error (key : String)
  | assertion
  | parse_json
  | definition_differs (keys : List String)
  | start_failed (msg : String)
  | unknown_status (msg : String)
  | bad_return_code (returncode : Int) (msg : String)
  deriving DecidableEq

def Failure.text : Failure → String
  | .does_not_exist .Vm => "DoesNotExist: Vm matching query does not exist."
  | .does_not_exist .SlaveVm => "DoesNotExist: SlaveVm matching query does not exist."
  | .does_not_exist .Node => "DoesNotExist: Node matching query does not exist."
  | .key_error key => "KeyError: '" ++ key ++ "'"
  | .assertion => "AssertionError: "
  | .parse_json => "Could not parse json output"
  | .definition_differs keys =>
    "VM definition on compute node differs from definition in DB in following attributes: " ++
      ",".intercalate keys
  | .start_failed msg => "Initial start failed (" ++ msg ++ ")"
  | .unknown_status msg => "Unknown status (" ++ msg ++ ")"
  | .bad_return_code returncode msg =>
    "Got bad return code (" ++ toString returncode ++ "). Error: " ++ msg

/-- `msg.find(text) >= 0` -/
def contains (msg text : String) : Bool := text.toList <:+: msg.toList

/-- `msg.find(text) == 0` -/
def startswith (msg text : String) : Bool := text.toList <+: msg.toList

abbrev Callback (Node Time α : Type) := Procedure (State Node Time) Statement (Raised Failure) α

variable {Node Time : Type}

def State.set_db (s : State Node Time) (effect : Db Node Time → Db Node Time) : State Node Time :=
  { s with db := effect s.db }

def State.set_result (s : State Node Time) (effect : Result Time → Result Time) : State Node Time :=
  { s with result := effect s.result }

@[simp] theorem State.set_db_db (s : State Node Time) (effect : Db Node Time → Db Node Time) :
    (s.set_db effect).db = effect s.db := rfl

@[simp] theorem State.set_db_result (s : State Node Time) (effect : Db Node Time → Db Node Time) :
    (s.set_db effect).result = s.result := rfl

@[simp] theorem State.set_result_db (s : State Node Time) (effect : Result Time → Result Time) :
    (s.set_result effect).db = s.db := rfl

@[simp] theorem State.set_result_result (s : State Node Time) (effect : Result Time → Result Time) :
    (s.set_result effect).result = effect s.result := rfl

def select (kind : Statement) {α : Type} (f : Db Node Time → α) : Callback Node Time α :=
  query kind fun s => f s.db

def write (kind : Statement) (effect : Db Node Time → Db Node Time) : Callback Node Time Unit :=
  execute kind fun s => s.set_db effect

/-- A dictionary item, or a `KeyError`. -/
def getitem {α : Type} (value : Option α) (key : String) : Callback Node Time α :=
  match value with
  | some a => pure a
  | none => raise (.key_error key)

def Vm_get (kind : Statement) : Callback Node Time (VmRow Node Time) := do
  match ← select kind Db.vm with
  | some vm => pure vm
  | none => raise (.does_not_exist .Vm)

def State.pop_json (s : State Node Time) : State Node Time :=
  s.set_result fun result => { result with json := none }

@[simp] theorem State.pop_json_db (s : State Node Time) : s.pop_json.db = s.db := rfl

/-- `result.pop('json', None)` -/
def pop_json : Callback Node Time (Option (Option Json)) := do
  let json := (← get).result.json
  modify State.pop_json
  pure json

/-- `vm.json.load(json)` -/
def load (json : Option (Option Json)) : Callback Node Time Json :=
  match json with
  | some (some json) => pure json
  | _ => raise .parse_json

def Db.update_vm (db : Db Node Time) (f : VmRow Node Time → VmRow Node Time) : Db Node Time :=
  { db with vm := db.vm.map f }

/-- The UPDATE of the status fields of a loaded VM; without a time the change is now. -/
def Db.save_status (vm : vms.models.Vm Time) (status_change_time : Option Time) (db : Db Node Time) :
    Db Node Time :=
  db.update_vm fun row => { row with store := vm.save status_change_time row.store }

theorem Db.save_status_of_vm {db : Db Node Time} {row : VmRow Node Time} (hvm : db.vm = some row)
    (vm : vms.models.Vm Time) (status_change_time : Option Time) :
    db.save_status vm status_change_time =
      { db with vm := some { row with store := vm.save status_change_time row.store } } := by
  rw [Db.save_status, Db.update_vm, hvm, Option.map_some]

/-- Saving the status that a load has found changes nothing. -/
theorem Db.save_status_twice {db : Db Node Time} {row : VmRow Node Time} (hvm : db.vm = some row)
    (vm : vms.models.Vm Time) (time time' : Option Time) :
    (db.save_status vm time).save_status
        { vms.models.Vm.get (vm.save time row.store) with status := vm.status } time' =
      db.save_status vm time := by
  have hsaved := congrArg Db.vm (Db.save_status_of_vm hvm vm time)
  have hload : { vms.models.Vm.get (vm.save time row.store) with status := vm.status } =
      vms.models.Vm.get (vm.save time row.store) := by
    rw [vms.models.Vm.get, vms.models.Vm.save_status]
  rw [hload, Db.save_status_of_vm hsaved]
  simp only [vms.models.Vm.save_get]
  rw [Db.save_status_of_vm hvm]

def save_status (kind : Statement) (vm : vms.models.Vm Time) (status_change_time : Option Time) :
    Callback Node Time Unit :=
  write kind (Db.save_status vm status_change_time)

def Db.log (db : Db Node Time) (entry : LogEntry Time) : Db Node Time :=
  { db with task_log := db.task_log ++ [entry] }

@[simp] theorem Db.log_task_log_length (db : Db Node Time) (entry : LogEntry Time) :
    (db.log entry).task_log.length = db.task_log.length + 1 := by
  simp [Db.log]

/-- Without the owner of the VM the entry has the one of the task ID. -/
def State.owned (s : State Node Time) (entry : LogEntry Time) : LogEntry Time :=
  if s.same_owner then entry else .of_task_owner entry

/-- The owner is given with a change of the status. -/
def log_owner (kind : LogKind) (entry : LogEntry Time) : Callback Node Time (LogEntry Time) :=
  if kind = .status_change then pure entry
  else (do
    select (.log kind .owner) fun _ => ()
    pure entry).handle fun _ => do return (← get).owned entry

def log (kind : LogKind) (entry : LogEntry Time) : Callback Node Time Unit := do
  write (.log kind .entry) fun db => db.log entry
  if (← get).super_admins then pure ()
  else
    select (.log kind .super_admins) fun _ => ()
    modify fun s => { s with super_admins := true }

/-- The decorator catches every exception. -/
def task_log (kind : LogKind) (entry : LogEntry Time) : Callback Node Time Unit :=
  (do
    select (.log kind .user) fun _ => ()
    let entry ← log_owner kind entry
    log kind entry).handle fun _ => pure ()

/-- An entry has been logged, and the IDs of the super admins are in the cache. -/
def State.task_log (s : State Node Time) (entry : LogEntry Time) : State Node Time :=
  { s with db := s.db.log entry, super_admins := true }

/-- Other errors than operational ones are logged. -/
def log_exception {α : Type} : Raised Failure → Callback Node Time α
  | .operational => .throw .operational
  | .error e => do
    modify fun s => s.set_db fun db => db.log (.failure e.text)
    raise e

/-- The decorator. -/
def callback {α : Type} (body : Callback Node Time α) : Callback Node Time α := body.handle log_exception

/-- After the failure of a statement and the retry the database and the outcome
are those of a run without a failure. -/
def Equivalent {α : Type} (body : Callback Node Time α) (s : State Node Time) (k : Nat) : Prop :=
  (MgmtCallbackTask body k s).1 = (body.run s).1 ∧
    (MgmtCallbackTask body k s).2.db = (body.run s).2.db

end api.callbacks
