import Mathlib
import Esdc.Lib.Dict
import Esdc.Lib.Text
import Esdc.Api.Vm.Snapshot

namespace api.vm.snapshot_sync

open text (Text isspace words fields strip str)
open api.vm.snapshot (SnapType SnapStatus)

/-- A row of the table of snapshots. -/
structure Snapshot (VmId NodeStorage : Type) where
  vm : VmId
  disk_id : ℕ
  name : Text
  type : SnapType
  status : SnapStatus
  zpool : NodeStorage
  size : Option ℤ
  note : String
  /-- `none` is the time when the row is saved -/
  created : Option ℤ
  deriving DecidableEq

structure Backup (VmId : Type) where
  vm : Option VmId
  disk_id : ℕ
  last : Bool
  deriving DecidableEq

structure Db (VmId NodeStorage : Type) where
  snapshots : Dict ℤ (Snapshot VmId NodeStorage)
  backups : Dict ℤ (Backup VmId)

/-- A disk in the definition of a VM: the number in its path, which a new disk does not have. -/
structure Disk (Zpool : Type) where
  path : Option ℕ
  zpool : Zpool

/-- A VM with the disks of its definition and the storages of its node. -/
structure Vm (VmId NodeStorage Zpool : Type) where
  id : VmId
  node : Bool
  disks : List (Disk Zpool)
  storages : Zpool → Option NodeStorage

inductive Error
  | IndexError
  | KeyError
  | ValueError
  | DoesNotExist
  | TaskException
  deriving DecidableEq

/-- What `esnapshot list` tells about a snapshot: the time of its creation, its size and the name given by the user. -/
abbrev Info := List Text

abbrev Listing := Dict Text Info

abbrev int (field : Text) : Option ℤ := text.int isspace field

section names

def TT_EXEC : Char := 'e'

def TT_AUTO : Char := 'a'

def USER_PREFIX : List Text := [['e', 's', '-'], ['a', 's', '-']]

def is_user (name : Text) : Bool := USER_PREFIX.any fun user_prefix => user_prefix.isPrefixOf name

def is_backup (name : Text) : Bool := ['i', 's', '-'].isPrefixOf name

variable {VmId NodeStorage Zpool : Type}

def zfs_name (type : SnapType) (id : ℤ) : Text :=
  let t := match type with
    | .AUTO => TT_AUTO
    | .MANUAL => TT_EXEC
  t :: 's' :: '-' :: str id

def Snapshot.zfs_name (id : ℤ) (snap : Snapshot VmId NodeStorage) : Text := snapshot_sync.zfs_name snap.type id

def Snapshot.locked (snap : Snapshot VmId NodeStorage) : Bool := snap.status = .PENDING || snap.status = .ROLLBACK

/-- The parts in front of the first separator and after it. -/
def split_once (separator : Char) : Text → Option (Text × Text)
  | [] => none
  | c :: cs => if c = separator then some ([], cs) else (split_once separator cs).map fun parts => (c :: parts.1, parts.2)

def _parse_snapshot_list_line (line : Text) : Except Error (Text × Info) :=
  match words isspace line with
  | [] => .error .IndexError
  | first :: info =>
    match split_once '@' (strip isspace first) with
    | none => .error .IndexError
    | some (_, name) => .ok (name, info)

def parse_node_snaps (data : Text) : Except Error Listing := do
  let lines := (fields '\n' (strip isspace data)).filter (· ≠ [])
  let snaps ← lines.mapM _parse_snapshot_list_line
  return snaps.foldl (fun node_snaps snap => node_snaps.insert snap.1 snap.2) ∅

/-- `t_long(info[1])` -/
def listed_size (info : Info) : Except Error ℤ :=
  match info[1]? with
  | none => .error .IndexError
  | some size =>
    match int size with
    | none => .error .ValueError
    | some size => .ok size

end names

section sync

variable {VmId NodeStorage Zpool : Type} [DecidableEq VmId] [DecidableEq NodeStorage]

/-- `save(update_fields=..)` of a row that is there -/
def Db.save (db : Db VmId NodeStorage) (id : ℤ) (snap : Snapshot VmId NodeStorage) : Db VmId NodeStorage :=
  { db with snapshots := db.snapshots.mapVals fun id' row => if id' = id then snap else row }

/-- The loop's state; errors leave the rows as they are at that time. -/
structure Progress (VmId NodeStorage : Type) where
  db : Db VmId NodeStorage
  node_snaps : Listing
  lost : ℕ

abbrev Result (VmId NodeStorage α : Type) := Except (Error × Db VmId NodeStorage) α

def at_db {α : Type} (db : Db VmId NodeStorage) (result : Except Error α) : Result VmId NodeStorage α :=
  result.mapError fun e => (e, db)

/-- One row of `sync_snapshots`; `running` is `is_snapshot_task_running`. -/
def sync_snapshot (running : Bool) (s : Progress VmId NodeStorage) (row : ℤ × Snapshot VmId NodeStorage) :
    Result VmId NodeStorage (Progress VmId NodeStorage) :=
  let (id, snap) := row
  match s.node_snaps.lookup (snap.zfs_name id) with
  | some info => do
    let size ← at_db s.db (listed_size info)
    let found : Snapshot VmId NodeStorage :=
      if snap.status = .LOST ∨ (snap.locked ∧ ¬ running) then { snap with status := .OK, size := some size }
      else { snap with size := some size }
    return { s with
      db := if found = snap then s.db else s.db.save id found
      node_snaps := s.node_snaps.erase (snap.zfs_name id) }
  | none =>
    if running ∨ snap.status = .LOST then return s
    else return { s with db := s.db.save id { snap with status := .LOST }, lost := s.lost + 1 }

def sync_snapshots (running : Bool) (db_snaps : List (ℤ × Snapshot VmId NodeStorage)) (s : Progress VmId NodeStorage) :
    Result VmId NodeStorage (Progress VmId NodeStorage) :=
  db_snaps.foldlM (sync_snapshot running) s

end sync

section storages

variable {VmId NodeStorage Zpool : Type}

def Vm.get_node_storages_disk_map (vm : Vm VmId NodeStorage Zpool) : Except Error (List (ℕ × NodeStorage)) :=
  if vm.node then
    vm.disks.mapM fun disk =>
      match disk.path, vm.storages disk.zpool with
      | none, _ => .error .KeyError
      | some _, none => .error .DoesNotExist
      | some real_disk_id, some ns => .ok (real_disk_id, ns)
  else .ok []

/-- The last disk of a number counts. -/
def Vm.get_node_storage (vm : Vm VmId NodeStorage Zpool) (real_disk_id : ℕ) : Except Error NodeStorage := do
  let disk_map ← vm.get_node_storages_disk_map
  match disk_map.reverse.lookup real_disk_id with
  | some ns => .ok ns
  | none => .error .KeyError

end storages

section callback

variable {VmId NodeStorage Zpool : Type} [DecidableEq VmId] [DecidableEq NodeStorage]

/-- The type and the number in the name of a snapshot. -/
def parse_zfs_name (zfs_name : Text) : Option (SnapType × ℤ) := do
  let (t, id) ← split_once '-' zfs_name
  let t ← t.head?
  let type ← if t = TT_EXEC then some SnapType.MANUAL else if t = TT_AUTO then some SnapType.AUTO else none
  return (type, ← int id)

/-- The database refuses a row: the id or the name is taken, too long or too large. -/
def Db.refuses (db : Db VmId NodeStorage) (id : ℤ) (snap : Snapshot VmId NodeStorage) : Bool :=
  (db.snapshots.lookup id).isSome || id < -2147483648 || 2147483647 < id || 32 < snap.name.length ||
    db.snapshots.entries.any fun row => row.2.vm = snap.vm && row.2.disk_id = snap.disk_id && row.2.name = snap.name

/-- A time of zero is no time. -/
def from_timestamp (timestamp : ℤ) : Option ℤ := if timestamp = 0 then none else some timestamp

/-- `None` stands for any exception. -/
def create_from_zfs_name (db : Db VmId NodeStorage) (zfs_name name : Text) (timestamp : ℤ) (vm : VmId) (disk_id : ℕ)
    (zpool : NodeStorage) (size : ℤ) (note : String) : Option (Db VmId NodeStorage) := do
  let (type, id) ← parse_zfs_name zfs_name
  let snap : Snapshot VmId NodeStorage := {
    vm := vm
    disk_id := disk_id
    name := if name = [] ∨ name = ['-'] then zfs_name else name
    type := type
    status := .OK
    zpool := zpool
    size := some size
    note := note
    created := from_timestamp timestamp }
  if db.refuses id snap then none else some { db with snapshots := db.snapshots.insert id snap }

/-- A snapshot without a row gets one; errors are only logged but for a line without any information. -/
def recreate (vm : VmId) (disk_id : ℕ) (ns : NodeStorage) (db : Db VmId NodeStorage) (snap : Text × Info) :
    Result VmId NodeStorage (Db VmId NodeStorage) :=
  let (zfs_name, info) := snap
  match info with
  | [] => .error (.IndexError, db)
  | created :: rest =>
    let name := ((rest[1]?).filter (· ≠ [])).getD created
    let recreated := do
      create_from_zfs_name db zfs_name name (← int created) vm disk_id ns (← (listed_size info).toOption)
        "Found by snapshot sync"
    .ok (recreated.getD db)

/-- The flag of the backups of the disk; an id that is no number changes nothing. -/
def update_last (vm : VmId) (disk_id : ℕ) (node_snaps : List Text) (backups : Dict ℤ (Backup VmId)) :
    Dict ℤ (Backup VmId) :=
  let bkp_ids := (node_snaps.filter is_backup).map (·.drop 3)
  if bkp_ids = [] then
    backups.mapVals fun _ bkp =>
      if bkp.vm = some vm ∧ bkp.disk_id = disk_id ∧ bkp.last then { bkp with last := false } else bkp
  else
    match bkp_ids.mapM int with
    | none => backups
    | some ids =>
      let found := backups.mapVals fun id bkp =>
        if bkp.vm = some vm ∧ bkp.disk_id = disk_id ∧ id ∈ ids then { bkp with last := true } else bkp
      found.mapVals fun id bkp =>
        if bkp.vm = some vm ∧ bkp.disk_id = disk_id ∧ bkp.last ∧ id ∉ ids then { bkp with last := false } else bkp

/-- The rows of a disk of the VM. -/
def Db.disk_snapshots (db : Db VmId NodeStorage) (vm : VmId) (disk_id : ℕ) : List (ℤ × Snapshot VmId NodeStorage) :=
  (db.snapshots.entries.filter fun row => row.2.vm = vm && row.2.disk_id = disk_id).map fun row => (row.1, row.2)

def sync_message (lost found : ℕ) : String :=
  "Snapshots successfully synced" ++
    (if lost = 0 then "" else "; WARNING: " ++ toString lost ++ " snapshot(s) lost") ++
    (if found = 0 then "" else "; WARNING: " ++ toString found ++ " snapshot(s) found")

/-- The callback of a synchronisation of a disk. -/
def vm_snapshot_sync_cb (running : Bool) (vm : Vm VmId NodeStorage Zpool) (disk_id : ℕ) (returncode : ℤ) (data : Text)
    (db : Db VmId NodeStorage) : Result VmId NodeStorage (Db VmId NodeStorage × String) := do
  if returncode ≠ 0 then .error (.TaskException, db)
  else do
    let node_snaps ← at_db db (parse_node_snaps data)
    let s ← sync_snapshots running (db.disk_snapshots vm.id disk_id) ⟨db, node_snaps, 0⟩
    let new_snaps := s.node_snaps.entries.filter fun snap => is_user snap.1
    let other_snaps := s.node_snaps.keys.filter fun snap => !is_user snap
    let ns ← at_db s.db (vm.get_node_storage disk_id)
    let db ← (new_snaps.map fun snap => (snap.1, snap.2)).foldlM (recreate vm.id disk_id ns) s.db
    return ({ db with backups := update_last vm.id disk_id other_snaps db.backups }, sync_message s.lost new_snaps.length)

/-- The rows after the callback, whether it ends with an error or not. -/
def after_sync (running : Bool) (vm : Vm VmId NodeStorage Zpool) (disk_id : ℕ) (data : Text)
    (db : Db VmId NodeStorage) : Db VmId NodeStorage :=
  match vm_snapshot_sync_cb running vm disk_id 0 data db with
  | .ok result => result.1
  | .error e => e.2

end callback

end api.vm.snapshot_sync
