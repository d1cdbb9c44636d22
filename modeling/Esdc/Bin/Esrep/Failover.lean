import Mathlib
import Esdc.Lib.Faults
import Esdc.Lib.Text
import Esdc.Lib.ZfsProperties

namespace eslib.esrep_failover

open text (Text IsWord isspace fields strip)
open zfs (get_value set_value clear_value)

/-- `esrep:dst:<id>`, `esrep:src:<id>` and `readonly` -/
inductive Property
  | _src_disk_property
  | _dst_disk_property
  | readonly
  deriving DecidableEq

structure Disk where
  zfs_filesystem : Text
  media : Option String

structure VmJson where
  brand : String
  hostname : Text
  disks : List Disk
  zfs_filesystem : Text
  datasets : List Text

/-- The two hosts and the arguments of the command. -/
structure Hosts where
  src_uuid : Text
  dst_uuid : Text
  force : Bool
  dst_host : Text
  src_host : Text
  dst_json : VmJson
  src_json : VmJson
  /-- the property `esrep:dst:<id>` of the disks of the master -/
  src_properties : List Text → Option Text
  service_exists : Bool

/-- The object of the command with the properties of the datasets on the local host. -/
structure Replication where
  properties : Property → List Text → Option Text
  _vm_disks_cleared : List (Text × Text)

/-- The commands that may fail. -/
inductive Step
  | get_hostname
  | check_host
  | vm_json (remote : Bool)
  | get_property (disk : Text) (remote : Bool)
  | service_status
  | vm_stop_force (remote : Bool)
  | vm_start
  | clear_property (disk : Text) (property : Property)
  | set_property (disk : Text) (property : Property)
  deriving DecidableEq

inductive Error
  | cmd (step : Step)
  | index
  /-- `ERR_VM_DISK_CHECK` with its messages -/
  | disk_property (vm_type : String) (disk : Text)
  | disk_count
  | slave_disk (dst_disk : Text) (src_disk : Option Text)
  | master_disk (src_disk dst_disk : Text)
  /-- `ERR_SVC_CHECK` -/
  | svc_check
  deriving DecidableEq

def Error.msg : Error → Option String
  | .cmd _ => none
  | .index => some "IndexError: list index out of range"
  | .disk_property vm_type disk =>
    some ("Could not read " ++ vm_type ++ " disk property on disk \"" ++ String.ofList disk ++ "\"")
  | .disk_count => some "Inconsistent disk configuration between master and slave VM"
  | .slave_disk dst_disk (some src_disk) => some ("Slave disk \"" ++ String.ofList dst_disk ++
      "\" is not synced with master disk \"" ++ String.ofList src_disk ++ "\"")
  | .slave_disk dst_disk none => some ("Slave disk \"" ++ String.ofList dst_disk ++ "\" is not synced with master disk")
  | .master_disk src_disk dst_disk => some ("Master disk \"" ++ String.ofList src_disk ++
      "\" is not synced with slave disk \"" ++ String.ofList dst_disk ++ "\"")
  | .svc_check => some "Replication service must be removed before failover"

structure Response where
  new_master : Text
  new_master_disks : List Text
  new_master_host : Option Text
  new_master_hostname : Option Text
  old_master : Text
  old_master_hostname : Option Text
  old_master_disks : List Text
  old_master_host : Option Text
  old_master_stopped : Bool

abbrev Command (α : Type) := Procedure Replication Step Error α

open Procedure (query command checked assign state Ensures)

section commands

def Replication.get_property (s : Replication) (disk : Text) (property : Property) : Option Text :=
  get_value (s.properties property) (fields '/' disk)

def Replication.set_property (s : Replication) (disk : Text) (property : Property) (value : Text) : Replication :=
  let values := set_value (s.properties property) (fields '/' disk) value
  { s with properties := Function.update s.properties property values }

def Replication.clear_property (s : Replication) (disk : Text) (property : Property) : Replication :=
  let values := clear_value (s.properties property) (fields '/' disk)
  { s with properties := Function.update s.properties property values }

def _set_dataset_property (disk : Text) (property : Property) (value : Text) : Command Unit :=
  checked (.set_property disk property) (fun s => some (s.set_property disk property value))
    (.cmd (.set_property disk property))

def _clear_dataset_property (disk : Text) (property : Property) : Command Unit :=
  checked (.clear_property disk property) (fun s => some (s.clear_property disk property))
    (.cmd (.clear_property disk property))

def _vm_get_disks (cfg : VmJson) : List Text :=
  if cfg.brand = "kvm" ∨ cfg.brand = "bhyve" then
    (cfg.disks.filter fun disk => disk.media.getD "disk" = "disk").map Disk.zfs_filesystem
  else cfg.zfs_filesystem :: cfg.datasets

/-- `split('/', 1)` into two parts -/
def split_once : Text → Option (Text × Text)
  | [] => none
  | c :: cs => if c = '/' then some ([], cs) else (split_once cs).map fun (first, rest) => (c :: first, rest)

/-- What the command prints; a dash is printed for a property without a value. -/
def property_output (value : Option Text) : Text := strip isspace (value.getD ['-'])

/-- The host and the disk in the property of a disk. -/
def _vm_get_disk_property (hosts : Hosts) (disk : Text) (master : Bool) : Command (Text × Text) :=
  query (.get_property disk master)
    (fun s => split_once (property_output
      (if master then hosts.src_properties (fields '/' disk) else s.get_property disk ._dst_disk_property)))
    (.disk_property (if master then "master" else "slave") disk)

/-- The host and its VM; under `force` they may be missing. -/
def _vm_get_host_and_disks (hosts : Hosts) (remote force : Bool) : Command (Option Text × Option VmJson) := do
  let host : Step := if remote then .check_host else .get_hostname
  let found ← ((do return some (← query host
    (fun _ => some (if remote then hosts.src_host else hosts.dst_host)) (.cmd host))) : Command (Option Text)).handle
      fun e => if force then pure none else .throw e
  match found with
  | none => return (none, none)
  | some hostname => do
    let json ← ((do return some (← query (.vm_json remote)
      (fun _ => some (if remote then hosts.src_json else hosts.dst_json)) (.cmd (.vm_json remote)))) :
        Command (Option VmJson)).handle fun e => if force then pure none else .throw e
    return (some hostname, json)

end commands

section failover

/-- Whether a local disk is a slave disk of the master, with its property. -/
def check_slave_disk (hosts : Hosts) (src_disk : Option Text) (dst_disk : Text) : Command (Text × Text) := do
  let (hostname, disk) ← _vm_get_disk_property hosts dst_disk false
  if hosts.force then
    if hosts.src_uuid <:+: disk then return (dst_disk, hostname ++ '/' :: disk)
    else .throw (.slave_disk dst_disk none)
  else
    match src_disk with
    | none => .throw .index
    | some src_disk =>
      if disk = src_disk then return (dst_disk, hostname ++ '/' :: disk)
      else .throw (.slave_disk dst_disk (some src_disk))

/-- Step 0, disk after disk -/
def check_slave_disks (hosts : Hosts) : List Text → List Text → Command (List (Text × Text))
  | _, [] => pure []
  | src_disks, dst_disk :: dst_disks => do
    let checked_disk ← check_slave_disk hosts src_disks.head? dst_disk
    return checked_disk :: (← check_slave_disks hosts src_disks.tail dst_disks)

/-- Step 1 -/
def check_master_disks (hosts : Hosts) : List Text → List Text → Command Unit
  | [], _ => pure ()
  | src_disk :: src_disks, dst_disks => do
    let (_, disk) ← _vm_get_disk_property hosts src_disk true
    match dst_disks.head? with
    | none => .throw .index
    | some dst_disk =>
      if disk = dst_disk then check_master_disks hosts src_disks dst_disks.tail
      else .throw (.master_disk src_disk dst_disk)

/-- Step 3 b) -/
def clear_disks : List (Text × Text) → Command Unit
  | [] => pure ()
  | (dst_disk, dst_disk_property) :: disks => do
    _clear_dataset_property dst_disk ._src_disk_property
    _clear_dataset_property dst_disk ._dst_disk_property
    assign fun s => { s with _vm_disks_cleared := s._vm_disks_cleared ++ [(dst_disk, dst_disk_property)] }
    _clear_dataset_property dst_disk .readonly
    clear_disks disks

def stop_master (check_master : Bool) : Command Bool :=
  (do
    checked (.vm_stop_force true) some (.cmd (.vm_stop_force true))
    return true : Command Bool).handle fun e => if check_master then .throw e else return false

def _vm_check_disk_count (src_disks dst_disks : List Text) : Command Unit :=
  if src_disks.length ≠ dst_disks.length then .throw .disk_count else pure ()

/-- What is left out under `force`. -/
def when (check_master : Bool) (command : Command Unit) : Command Unit := if check_master then command else pure ()

/-- Steps 0 to 2 -/
def check_disks (hosts : Hosts) (check_master : Bool) (src_disks dst_disks : List Text) :
    Command (List (Text × Text)) := do
  let dst_disk_properties ← check_slave_disks hosts src_disks dst_disks
  when check_master (check_master_disks hosts src_disks dst_disks)
  if ← query .service_status (fun _ => some hosts.service_exists) (.cmd .service_status) then .throw .svc_check
  else return dst_disk_properties

def failover (hosts : Hosts) : Command Response := do
  let check_master := !hosts.force
  let (dst_host_name, dst_json) ← _vm_get_host_and_disks hosts false false
  let (src_host_name, src_json) ← _vm_get_host_and_disks hosts true hosts.force
  let dst_disks := (dst_json.map _vm_get_disks).getD []
  let src_disks := (src_json.map _vm_get_disks).getD []
  when check_master (_vm_check_disk_count src_disks dst_disks)
  let dst_disk_properties ← check_disks hosts check_master src_disks dst_disks
  let old_master_stopped ← stop_master check_master
  assign fun s => { s with _vm_disks_cleared := [] }
  clear_disks dst_disk_properties
  checked .vm_start some (.cmd .vm_start)
  assign fun s => { s with _vm_disks_cleared := [] }
  return {
    new_master := hosts.dst_uuid
    new_master_disks := dst_disks
    new_master_host := dst_host_name
    new_master_hostname := dst_json.map VmJson.hostname
    old_master := hosts.src_uuid
    old_master_hostname := src_json.map VmJson.hostname
    old_master_disks := src_disks
    old_master_host := src_host_name
    old_master_stopped := old_master_stopped }

def restore_disks : List (Text × Text) → Command Unit
  | [] => pure ()
  | (dst_disk, dst_disk_property) :: disks => do
    _set_dataset_property dst_disk ._dst_disk_property dst_disk_property
    _set_dataset_property dst_disk .readonly ['o', 'n']
    restore_disks disks

def failover_cleanup : Command Unit := do
  let s ← state
  if s._vm_disks_cleared.isEmpty then pure ()
  else do
    let _ ← command (.vm_stop_force false) some
    restore_disks s._vm_disks_cleared

/-- `cmd_output`: an error is followed by the cleanup, whose own errors are only logged. -/
def cmd_output {α : Type} (fun_ : Command α) (cleanup : Command Unit) : Command (Except Error α) :=
  ((do return .ok (← fun_)) : Command (Except Error α)).handle fun e => do
    cleanup.handle fun _ => pure ()
    return .error e

end failover

end eslib.esrep_failover
