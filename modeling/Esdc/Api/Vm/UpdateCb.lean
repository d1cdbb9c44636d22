import Esdc.Api.Callback.Update
import Esdc.Vms.VncPort

namespace vms.columns

open vms.definition (Item Json Simple Value)

/-- `int(text)` for a decimal number. -/
def int (text : List Char) : Option Nat :=
  if text ≠ [] ∧ text.all Char.isDigit then
    some (text.foldl (fun value digit => 10 * value + (digit.toNat - '0'.toNat)) 0)
  else none

/-- The integer suffix of a path like `/dev/zvol/rdsk/zones/uuid-disk0`. -/
def get_real_disk_id (disk_path : String) : Option Nat :=
  let last := (disk_path.toList.reverse.takeWhile fun c => c ≠ '-' && c ≠ '/').reverse
  int (last.dropWhile (· ∈ "disk".toList))

/-- The number of a disk with this path in a definition. -/
def real_disk_id : Value → Option Nat
  | .str disk_path => get_real_disk_id disk_path
  | _ => none

/-- The numbers of the disks of a definition. -/
def disk_ids (json : Json) : List Nat :=
  json.disks.filterMap fun disk => (disk.lookup "path").bind real_disk_id

structure Settings where
  VMS_VM_HVM_TYPE_DEFAULT : String
  VMS_VM_QEMU_EXTRA_OPTS : String
  VMS_VM_BHYVE_EXTRA_OPTS : String
  VMS_ZONE_FEATURE_LEVEL : Nat
  VMS_VM_LX_KERNEL_VERSION_DEFAULT : String

structure Segment (U : Type) where
  node_uuid : U
  node_hostname : String
  till : Nat

/-- The columns of a VM, with its `info` for the node history alone. -/
structure VmRow (U : Type) where
  hostname : String
  alias_ : String
  owner : String
  ostype : Int
  hvm : Bool
  template : Bool
  node : Option U
  vnc_port : Nat
  json : Json
  json_active : Json
  node_history : List (Segment U)
  changed : Nat

/-- A snapshot, a backup or a definition of one of them. -/
structure DiskRow (U : Type) where
  pk : Nat
  vm : U
  disk_id : Nat
  deriving DecidableEq

structure BackupRow (U : Type) extends DiskRow U where
  last : Bool
  deriving DecidableEq

structure Db (U : Type) [DecidableEq U] where
  vm : Dict U (VmRow U)
  node : Dict U String
  snapshot : List (DiskRow U)
  snapshot_define : List (DiskRow U)
  backup : List (BackupRow U)
  backup_define : List (DiskRow U)

/-- A loaded VM; the port is `None` until one is chosen. -/
structure Vm (U : Type) where
  uuid : U
  row : VmRow U
  vnc_port : Option Nat
  _orig_node : Option U
  _node_changed : Bool

/-- The columns that `vm_update_cb` may name in `update_fields`, and those that the save has
changed in the object as well. -/
inductive Column
  | enc_json
  | enc_json_active
  | changed
  | node_id
  | vnc_port
  | enc_info
  deriving DecidableEq

def LINUX_ZONE : Int := 6

variable {U : Type} [DecidableEq U]

/-- `_json['internal_metadata']`, without the values that are no scalars. -/
def sync_internal_metadata (row : VmRow U) (internal_metadata : Item) : Item :=
  let internal_metadata : Item := (internal_metadata.insert "alias" (.str row.alias_)).insert "ostype" (.int row.ostype)
  let internal_metadata : Item :=
    if row.template then internal_metadata else Dict.delete internal_metadata ["template"]
  Dict.filter internal_metadata fun _ v =>
    match v with
    | .strs _ | .json _ | .null => false
    | _ => true

/-- `dict.setdefault` -/
def setdefault (items : Item) (key : String) (value : Value) : Item :=
  if key ∈ items then items else items.insert key value

/-- What `sync_json` sets according to the brand. -/
def sync_brand (settings : Settings) (node : Bool) (vnc_port ostype : Int) (items : Item) : Item :=
  let json_brand := items.lookup "brand"
  let items : Item :=
    if json_brand = some (.str "kvm") then items.insert "qemu_extra_opts" (.str settings.VMS_VM_QEMU_EXTRA_OPTS)
    else if json_brand = some (.str "bhyve") then
      items.insert "bhyve_extra_opts" (.str settings.VMS_VM_BHYVE_EXTRA_OPTS)
    else items
  if json_brand = some (.str "kvm") ∨ json_brand = some (.str "bhyve") then
    if node then items.insert "vnc_port" (.int vnc_port) else Dict.delete items ["vnc_port"]
  else
    let items : Item :=
      if 2 ≤ settings.VMS_ZONE_FEATURE_LEVEL then
        (items.insert "zfs_snapshot_limit" (.int 0)).insert "zfs_filesystem_limit" (.int 0)
      else items
    if ostype = LINUX_ZONE then setdefault items "kernel_version" (.str settings.VMS_VM_LX_KERNEL_VERSION_DEFAULT)
    else items

/-- The keys of the root that `sync_json` sets; `uuid` as a text. -/
def sync_items (settings : Settings) (text : U → String) (uuid : U) (row : VmRow U) (vnc_port : Nat) (items : Item) :
    Item :=
  let items : Item := (items.insert "uuid" (.str (text uuid))).insert "hostname" (.str row.hostname)
  let items : Item := (items.insert "owner_uuid" (.str row.owner)).insert "alias" (.str row.hostname)
  let items : Item :=
    match row.node with
    | some node => if "server_uuid" ∈ items then items.insert "server_uuid" (.str (text node)) else items
    | none => items
  let items := setdefault items "autoboot" (.bool false)
  let items := setdefault items "brand" (.str settings.VMS_VM_HVM_TYPE_DEFAULT)
  sync_brand settings row.node.isSome vnc_port row.ostype items

/-- `sync_json`, a `KeyError` without the internal metadata. -/
def sync_json (settings : Settings) (text : U → String) (uuid : U) (row : VmRow U) (vnc_port : Nat) (json : Json) :
    Option Json :=
  (json.simple .internal_metadata).map fun internal_metadata =>
    { json with
      items := sync_items settings text uuid row vnc_port json.items
      simple := fun item =>
        match item with
        | .internal_metadata => some (sync_internal_metadata row internal_metadata)
        | .customer_metadata => some ((json.simple .customer_metadata).getD ∅)
        | item => json.simple item }

/-- The ports of the other VMs on a node. -/
def Db.vnc_ports (db : Db U) (node : Option U) (uuid : U) : List Nat :=
  (db.vm.entries.filter fun e => e.1 ≠ uuid && e.2.node = node).map fun e => e.2.vnc_port

/-- `None` stands for the `RuntimeError`. -/
def Db.choose_vnc_port (db : Db U) (node : Option U) (uuid : U) : Option Nat :=
  let has_port port := db.vm.entries.any fun e => e.2.node = node && e.2.vnc_port = port
  (vnc.choose_vnc_port (db.vnc_ports node uuid) has_port).toOption

def Db.Vm_get (db : Db U) (uuid : U) : Option (Vm U) :=
  (db.vm.lookup uuid).map fun row => ⟨uuid, row, some row.vnc_port, none, false⟩

/-- `set_node`; `false` for the `SuspiciousOperation`. -/
def Vm.set_node (vm : Vm U) (node : U) : Option (Vm U) :=
  if vm.row.node = some node then some vm
  else if vm._orig_node.isSome then none
  else some { vm with row := { vm.row with node := some node }, _orig_node := vm.row.node, _node_changed := true }

def Db.update_node_history (db : Db U) (now : Nat) (vm : Vm U) : List (Segment U) :=
  match vm._orig_node with
  | some orig_node => vm.row.node_history ++ [⟨orig_node, (db.node.lookup orig_node).getD "", now⟩]
  | none => vm.row.node_history

/-- `UPDATE` of the named columns. -/
def VmRow.update (row saved : VmRow U) (update_fields : List Column) : VmRow U :=
  { row with
    json := if .enc_json ∈ update_fields then saved.json else row.json
    json_active := if .enc_json_active ∈ update_fields then saved.json_active else row.json_active
    changed := if .changed ∈ update_fields then saved.changed else row.changed
    node := if .node_id ∈ update_fields then saved.node else row.node
    vnc_port := if .vnc_port ∈ update_fields then saved.vnc_port else row.vnc_port
    node_history := if .enc_info ∈ update_fields then saved.node_history else row.node_history }

inductive Failure
  | does_not_exist
  | key_error
  | value_error
  | suspicious_operation
  | no_vnc_port
  | integrity_error
  | bad_return_code
  | parse_json
  | definition_differs
  deriving DecidableEq

/-- The row that `Vm.save` hands to the database. -/
def Vm.saved (settings : Settings) (text : U → String) (now : Nat) (db : Db U) (vm : Vm U) :
    Except Failure (VmRow U) :=
  let node_history := if vm._node_changed then db.update_node_history now vm else vm.row.node_history
  let vnc_port := if vm._node_changed then none else vm.vnc_port
  match vnc_port.or (db.choose_vnc_port vm.row.node vm.uuid) with
  | none => .error .no_vnc_port
  | some vnc_port =>
    let json :=
      if vm._node_changed then sync_json settings text vm.uuid vm.row vnc_port vm.row.json else some vm.row.json
    match json with
    | none => .error .key_error
    | some json => .ok { vm.row with node_history, vnc_port, json, changed := now }

/-- `Vm.save` with `update_fields`; a node has every port once. -/
def Vm.save (settings : Settings) (text : U → String) (now : Nat) (update_fields : List Column) (db : Db U)
    (vm : Vm U) : Except Failure (Db U) :=
  match vm.saved settings text now db, db.vm.lookup vm.uuid with
  | .error e, _ => .error e
  | .ok _, none => .error .does_not_exist
  | .ok saved, some row =>
    let row := row.update saved update_fields
    if row.node.isSome ∧ row.vnc_port ∈ db.vnc_ports row.node vm.uuid then .error .integrity_error
    else .ok { db with vm := db.vm.insert vm.uuid row }

end vms.columns

namespace api.vm.base.tasks

open vms.columns
open vms.definition (Json)
open api.callbacks (contains ignored_changed_vm_attrs)

/-- The result of the task; `json` if its output could be loaded. -/
structure Result where
  returncode : Int
  message : String
  force : Bool
  json : Option Json

/-- The task has succeeded, as far as the callback checks it. -/
def Result.succeeded (result : Result) : Bool :=
  result.returncode = 0 && (result.force || contains result.message "Successfully updated")

variable {U : Type} [DecidableEq U]

/-- `removed_disk_ids`, or the `KeyError` or `ValueError`. -/
def removed_disk_ids (row : VmRow U) : Except Failure (List Nat) :=
  match vms.definition.Vm.create_json_update_disks ⟨row.hvm, row.json, row.json_active⟩ with
  | none => .error .key_error
  | some changes =>
    match changes.remove_.mapM real_disk_id with
    | none => .error .value_error
    | some ids => .ok ids

/-- The rows without those of the VM that belong to the disks. -/
def exclude (uuid : U) (disk_ids : List Nat) (rows : List (DiskRow U)) : List (DiskRow U) :=
  rows.filter fun row => !(row.vm = uuid && row.disk_id ∈ disk_ids)

def vm_delete_snapshots_of_removed_disks (uuid : U) (removed_disk_ids : List Nat) (db : Db U) : Db U :=
  { db with
    snapshot := exclude uuid removed_disk_ids db.snapshot
    snapshot_define := exclude uuid removed_disk_ids db.snapshot_define
    backup := db.backup.map fun row =>
      if row.vm = uuid ∧ row.disk_id ∈ removed_disk_ids then { row with last := false } else row
    backup_define := exclude uuid removed_disk_ids db.backup_define }

def _update_fields : List Column := [.enc_json, .enc_json_active, .changed]

/-- The checks for a new node and `set_node`: the VM to save, and the columns. -/
def change_node (db : Db U) (vm : Vm U) (json_active : Json) : Option U → Except Failure (Vm U × List Column)
  | none => .ok ({ vm with row := { vm.row with json := json_active, json_active } }, _update_fields)
  | some new_node_uuid =>
    match vms.definition.Vm.json_update ⟨vm.row.hvm, json_active, vm.row.json_active⟩ with
    | none => .error .key_error
    | some update_dict =>
      if update_dict.keys.all (· ∈ ignored_changed_vm_attrs) = false then .error .definition_differs
      else if new_node_uuid ∉ db.node then .error .does_not_exist
      else
        let vm : Vm U := { vm with row := { vm.row with json := json_active, json_active } }
        match vm.set_node new_node_uuid with
        | none => .error .suspicious_operation
        | some vm => .ok (vm, _update_fields ++ [.node_id])

/-- `vm_update_cb` from `vm.json = json_active` on. The transaction is undone if
`vm_update_ipaddress_usage` fails. -/
def vm_update_cb_save (settings : Settings) (text : U → String) (now : Nat) (ipaddress_usage : Db U → Bool)
    (vm : Vm U) (json_active : Json) (new_node_uuid : Option U) (db : Db U) : Except Failure (Db U) :=
  match change_node db vm json_active new_node_uuid with
  | .error e => .error e
  | .ok (vm, update_fields) =>
    match vm.save settings text now update_fields db with
    | .error e => .error e
    | .ok saved => if ipaddress_usage saved then .ok saved else .error .value_error

/-- `vm_update_cb`, with what is in the database after it. -/
def vm_update_cb (settings : Settings) (text : U → String) (now : Nat) (ipaddress_usage : Db U → Bool)
    (result : Result) (uuid : U) (new_node_uuid : Option U) (db : Db U) : Except Failure Unit × Db U :=
  match db.Vm_get uuid with
  | none => (.error .does_not_exist, db)
  | some vm =>
    if result.succeeded then
      match result.json with
      | none => (.error .parse_json, db)
      | some json_active =>
        match removed_disk_ids vm.row with
        | .error e => (.error e, db)
        | .ok disk_ids =>
          let db := vm_delete_snapshots_of_removed_disks uuid disk_ids db
          match vm_update_cb_save settings text now ipaddress_usage vm json_active new_node_uuid db with
          | .error e => (.error e, db)
          | .ok db => (.ok (), db)
    else (.error .bad_return_code, db)

end api.vm.base.tasks
