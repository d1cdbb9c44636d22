import Mathlib
import Esdc.Lib.Transition
import Esdc.Vms.StorageSizes

namespace api.storage

open vms.storage
open vms.accounting (Disk Json Vm)

variable {Dc NodeId Zpool VmId : Type} [DecidableEq Dc] [DecidableEq NodeId] [DecidableEq Zpool] [DecidableEq VmId]

/-- The requests that change a VM definition, with the validated data. -/
inductive Request (Dc NodeId Zpool : Type)
  | vm_define_post (vm : Vm Dc NodeId Zpool)
  | vm_define_put (node : Option NodeId) (attrs : Option (ℕ × ℕ × ℕ))
  | vm_define_revert
  | vm_define_disk_post (disk : Disk Zpool)
  | vm_define_disk_put (disk_id : ℕ) (disk : Disk Zpool)
  | vm_define_disk_delete (disk_id : ℕ)

/-- The operations, with the data of the request or of the result of the task;
`get` reads a size and `expire` drops a cached one. -/
inductive Event (Dc NodeId Zpool VmId : Type)
  | get (key : Key Dc NodeId Zpool)
  | expire (key : Key Dc NodeId Zpool)
  | expire_total (dc : Dc)
  | vm_define (uuid : VmId) (request : Request Dc NodeId Zpool)
  | vm_define_delete (uuid : VmId)
  | vm_cb (uuid : VmId) (vm : Vm Dc NodeId Zpool) (snap_ids : List ℕ)
  | vm_dc (uuid : VmId) (dc : Dc)
  | vm_snapshot_post (snap_id : ℕ) (uuid : VmId) (disk_id : ℕ) (zpool : Zpool)
  | vm_snapshot_status (snap_ids : List ℕ) (status : Snapshot.Status)
  | vm_snapshot_delete (snap_ids : List ℕ)
  | vm_snapshot_sync_cb (uuid : VmId) (disk_id : ℕ) (zpool : Zpool) (node_snaps : ℕ → Option ℕ)
      (new_snaps : List (ℕ × ℕ)) (running : Bool)
  | node_vm_snapshot_sync_cb (ns : NodeStorage NodeId Zpool) (node_snaps node_bkps : ℕ → Option ℕ)
      (rep_snaps_size : ℕ) (running is_backup : Bool)
  | vm_backup_post (bkp_id : ℕ) (uuid : VmId) (type : Backup.Kind) (zpool : NodeStorage NodeId Zpool)
  | vm_backup_status (bkp_ids : List ℕ) (status : Backup.Status)
  | vm_backup_post_cb (bkp_id : ℕ) (size : Option ℕ) (success : Bool)
  | vm_backup_delete_cb (bkp_ids : List ℕ) (update_snapshots : List (ℕ × ℕ)) (success : Bool) (files : List ℕ)
  | vm_backup_delete_lost (bkp_ids : List ℕ)

section rows

def save_snapshot (rows : Rows Dc NodeId Zpool VmId) (snap_id : ℕ) (snap : Snapshot NodeId Zpool VmId) :
    Rows Dc NodeId Zpool VmId :=
  { rows with snapshots := rows.snapshots.insert snap_id snap }

def save_backup (rows : Rows Dc NodeId Zpool VmId) (bkp_id : ℕ) (bkp : Backup Dc NodeId Zpool VmId) :
    Rows Dc NodeId Zpool VmId :=
  { rows with backups := rows.backups.insert bkp_id bkp }

def update_snapshots (rows : Rows Dc NodeId Zpool VmId)
    (f : ℕ → Snapshot NodeId Zpool VmId → Snapshot NodeId Zpool VmId) : Rows Dc NodeId Zpool VmId :=
  { rows with snapshots := rows.snapshots.mapVals f }

def update_backups (rows : Rows Dc NodeId Zpool VmId)
    (f : ℕ → Backup Dc NodeId Zpool VmId → Backup Dc NodeId Zpool VmId) : Rows Dc NodeId Zpool VmId :=
  { rows with backups := rows.backups.mapVals f }

def delete_snapshots (rows : Rows Dc NodeId Zpool VmId) (snap_ids : List ℕ) : Rows Dc NodeId Zpool VmId :=
  { rows with snapshots := rows.snapshots.delete snap_ids }

def delete_backups (rows : Rows Dc NodeId Zpool VmId) (bkp_ids : List ℕ) : Rows Dc NodeId Zpool VmId :=
  { rows with backups := rows.backups.delete bkp_ids }

/-- `vm.delete()`: the snapshots go with the VM, the backups stay without one. -/
def delete_vm (rows : Rows Dc NodeId Zpool VmId) (uuid : VmId) : Rows Dc NodeId Zpool VmId where
  vm_set := rows.vm_set.erase uuid
  snapshots := rows.snapshots.filter fun _ snap => snap.vm ≠ uuid
  backups := rows.backups.mapVals fun _ bkp => if bkp.vm = some uuid then { bkp with vm := none } else bkp

def snapshot_status (snap_ids : List ℕ) (status : Snapshot.Status) (snap_id : ℕ)
    (snap : Snapshot NodeId Zpool VmId) : Snapshot NodeId Zpool VmId :=
  if snap_id ∈ snap_ids then { snap with status := status } else snap

def backup_status (bkp_ids : List ℕ) (status : Backup.Status) (bkp_id : ℕ) (bkp : Backup Dc NodeId Zpool VmId) :
    Backup Dc NodeId Zpool VmId :=
  if bkp_id ∈ bkp_ids then { bkp with status := status } else bkp

/-- One round of `sync_snapshots`, with the size that the compute node reports, if any. -/
def sync_snapshot (reported : Option ℕ) (running : Bool) (snap : Snapshot NodeId Zpool VmId) :
    Snapshot NodeId Zpool VmId :=
  match reported with
  | some size =>
    if snap.status = .LOST then { snap with status := .OK, size := some size }
    else if snap.status ∈ [.PENDING, .ROLLBACK] && !running then { snap with status := .OK, size := some size }
    else { snap with size := some size }
  | none => if running then snap else { snap with status := .LOST }

/-- One round of `sync_backups`; the size is only taken over from a backup found again. -/
def sync_backup (reported : Option ℕ) (running : Bool) (bkp : Backup Dc NodeId Zpool VmId) :
    Backup Dc NodeId Zpool VmId :=
  match reported with
  | some size =>
    if bkp.status = .LOST then { bkp with status := .OK, size := some size }
    else if bkp.status ∈ [.PENDING, .RESTORE] && !running then { bkp with status := .OK }
    else bkp
  | none => if running then bkp else { bkp with status := .LOST }

/-- `Snapshot.create_from_zfs_name` for every new name. -/
def create_snapshots (rows : Rows Dc NodeId Zpool VmId) (uuid : VmId) (disk_id : ℕ) (ns : NodeStorage NodeId Zpool)
    (new_snaps : List (ℕ × ℕ)) : Rows Dc NodeId Zpool VmId :=
  new_snaps.foldl (fun rows new_snap =>
    if rows.snapshots.lookup new_snap.1 = none then
      save_snapshot rows new_snap.1 ⟨uuid, disk_id, .OK, ns, some new_snap.2⟩
    else rows) rows

def sync_vm_snapshots (rows : Rows Dc NodeId Zpool VmId) (uuid : VmId) (disk_id : ℕ) (ns : NodeStorage NodeId Zpool)
    (node_snaps : ℕ → Option ℕ) (new_snaps : List (ℕ × ℕ)) (running : Bool) : Rows Dc NodeId Zpool VmId :=
  let rows := update_snapshots rows fun snap_id snap =>
    if snap.vm = uuid && snap.disk_id = disk_id then sync_snapshot (node_snaps snap_id) running snap else snap
  create_snapshots rows uuid disk_id ns new_snaps

def sync_node_snapshots (rows : Rows Dc NodeId Zpool VmId) (ns : NodeStorage NodeId Zpool)
    (node_snaps node_bkps : ℕ → Option ℕ) (running is_backup : Bool) : Rows Dc NodeId Zpool VmId :=
  let rows := update_snapshots rows fun snap_id snap =>
    if snap.zpool = ns then sync_snapshot (node_snaps snap_id) running snap else snap
  if is_backup then
    update_backups rows fun bkp_id bkp =>
      if bkp.zpool = ns && bkp.type = .DATASET then sync_backup (node_bkps bkp_id) running bkp else bkp
  else rows

/-- `_vm_backup_update_snapshots(data, 'written', 'size')`. -/
def written_sizes (update_snapshots : List (ℕ × ℕ)) (bkp_id : ℕ) (bkp : Backup Dc NodeId Zpool VmId) :
    Backup Dc NodeId Zpool VmId :=
  match update_snapshots.find? (·.1 = bkp_id) with
  | some written => { bkp with size := some written.2 }
  | none => bkp

/-- The end of a task that creates a backup. -/
def backup_done (rows : Rows Dc NodeId Zpool VmId) (bkp_id : ℕ) (bkp : Backup Dc NodeId Zpool VmId)
    (size : Option ℕ) (success : Bool) : Rows Dc NodeId Zpool VmId :=
  if success then save_backup rows bkp_id { bkp with status := .OK, size := size }
  else { rows with backups := rows.backups.erase bkp_id }

/-- The DC of the backups of a VM. -/
def move_backups (rows : Rows Dc NodeId Zpool VmId) (uuid : VmId) (dc : Dc) : Rows Dc NodeId Zpool VmId :=
  update_backups rows fun _ bkp => if bkp.vm = some uuid then { bkp with dc := dc } else bkp

end rows

section definition

/-- `save_disks`; the disks of a zone are the quota and the pool of its root dataset. -/
def save_disks (vm : Vm Dc NodeId Zpool) (disks : List (Disk Zpool)) : Option (Vm Dc NodeId Zpool) :=
  if vm.hvm then some { vm with json := { vm.json with disks := disks } }
  else
    match disks with
    | [] => none
    | root :: data =>
      some { vm with json := { vm.json with
        quota := (root.size + 512) / 1024
        zpool := root.zpool
        delegate_dataset := if vm.is_notcreated then data ≠ [] else vm.json.delegate_dataset } }

/-- `zpool_changed`: the old zpool, for a new disk its own. -/
def zpool_changed (object : Option (Disk Zpool)) (disk : Disk Zpool) : Option Zpool :=
  match object with
  | none => some disk.zpool
  | some object => if object.zpool = disk.zpool then none else some object.zpool

def new_size (object : Option (Disk Zpool)) (disk : Disk Zpool) : ℤ :=
  match object, zpool_changed object disk with
  | some object, none => disk.size - object.size
  | _, _ => disk.size

/-- The `update_node_resources` and `update_storage_resources` of the disk serializer. -/
def validate_storage_resources (nodes : Nodes Dc NodeId Zpool) (vm : Vm Dc NodeId Zpool)
    (object : Option (Disk Zpool)) (disk : Disk Zpool) : Option (Bool × List (NodeStorage NodeId Zpool)) :=
  match vm.node with
  | none => some (false, [])
  | some node =>
    if new_size object disk = 0 then some (false, [])
    else
      (get_node_storage nodes node vm.dc disk.zpool).bind fun ns =>
        let update_node_resources : Bool := nodes.zpool node = some disk.zpool
        match zpool_changed object disk with
        | none => some (update_node_resources, [ns])
        | some old_zpool =>
          (get_node_storage nodes node vm.dc old_zpool).bind fun old_ns => some (update_node_resources, [ns, old_ns])

/-- The storages of a changed node: those on the new node must exist, those on the old one are added. -/
def validate_node_resources (nodes : Nodes Dc NodeId Zpool) (vm : Vm Dc NodeId Zpool) (node : Option NodeId) :
    Option (List (NodeStorage NodeId Zpool)) :=
  if node = vm.node then some []
  else
    let zpools := (vm.get_disks vm.json none).map Prod.fst
    let new_storages := match node with
      | some node => zpools.mapM (get_node_storage nodes node vm.dc)
      | none => some []
    let old_storages := match vm.node with
      | some node => get_node_storages nodes node vm.dc zpools
      | none => []
    new_storages.map (· ++ old_storages)

end definition

section requests

variable (nodes : Nodes Dc NodeId Zpool)

/-- The arguments of the `vm.save` at the end of a request; the storages are `None` for `True`. -/
structure Save (Dc NodeId Zpool : Type) where
  vm : Vm Dc NodeId Zpool
  update_node_resources : Bool
  update_storage_resources : Option (List (NodeStorage NodeId Zpool))

def vm_define_put (vm : Vm Dc NodeId Zpool) (node : Option NodeId) (attrs : Option (ℕ × ℕ × ℕ)) :
    Option (Save Dc NodeId Zpool) :=
  (validate_node_resources nodes vm node).map fun nss =>
    let json := match attrs with
      | some (cpu_cap, ram, max_physical_memory) =>
        { vm.json with cpu_cap := cpu_cap, ram := ram, max_physical_memory := max_physical_memory }
      | none => vm.json
    ⟨{ vm with node := node, json := json }, vm.node.isSome && attrs.isSome, some nss⟩

def vm_define_disk_post (vm : Vm Dc NodeId Zpool) (disk : Disk Zpool) : Option (Save Dc NodeId Zpool) :=
  if !vm.hvm && vm.is_deployed then none
  else
    let disks := vm.json_get_disks
    let update := if vm.hvm || disks.isEmpty then validate_storage_resources nodes vm none disk else some (false, [])
    update.bind fun update => (save_disks vm (disks ++ [disk])).map fun vm => ⟨vm, update.1, some update.2⟩

def vm_define_disk_put (vm : Vm Dc NodeId Zpool) (disk_id : ℕ) (disk : Disk Zpool) :
    Option (Save Dc NodeId Zpool) :=
  let disks := vm.json_get_disks
  disks[disk_id]?.bind fun object =>
    if object.zpool ≠ disk.zpool && vm.is_deployed then none
    else
      let update := if vm.hvm || disk_id = 0 then validate_storage_resources nodes vm (some object) disk
        else some (false, [])
      update.bind fun update => (save_disks vm (disks.set disk_id disk)).map fun vm => ⟨vm, update.1, some update.2⟩

def vm_define_disk_delete (vm : Vm Dc NodeId Zpool) (disk_id : ℕ) : Option (Save Dc NodeId Zpool) :=
  let disks := vm.json_get_disks
  disks[disk_id]?.bind fun object =>
    if !vm.hvm && (disk_id = 0 || vm.is_deployed) then none
    else
      let nss := match vm.node with
        | none => some []
        | some node => (get_node_storage nodes node vm.dc object.zpool).map fun ns => [ns]
      nss.bind fun nss => (save_disks vm (disks.eraseIdx disk_id)).map fun vm => ⟨vm, true, some nss⟩

def save_arguments (rows : Rows Dc NodeId Zpool VmId) (uuid : VmId) :
    Request Dc NodeId Zpool → Option (Save Dc NodeId Zpool)
  | .vm_define_post vm =>
    if (rows.vm_set.lookup uuid).isSome || vm.is_deployed then none else some ⟨vm, vm.node.isSome, some []⟩
  | .vm_define_put node attrs => (rows.vm_set.lookup uuid).bind fun vm => vm_define_put nodes vm node attrs
  | .vm_define_revert =>
    (rows.vm_set.lookup uuid).bind fun vm =>
      if vm.is_notcreated then none else some ⟨{ vm with json := vm.json_active }, true, none⟩
  | .vm_define_disk_post disk => (rows.vm_set.lookup uuid).bind fun vm => vm_define_disk_post nodes vm disk
  | .vm_define_disk_put disk_id disk =>
    (rows.vm_set.lookup uuid).bind fun vm => vm_define_disk_put nodes vm disk_id disk
  | .vm_define_disk_delete disk_id =>
    (rows.vm_set.lookup uuid).bind fun vm => vm_define_disk_delete nodes vm disk_id

/-- The checks of `VmDc.put`, up to the VM that is moved. -/
def vm_dc_checked (rows : Rows Dc NodeId Zpool VmId) (uuid : VmId) (dc : Dc) : Option (Vm Dc NodeId Zpool) :=
  (rows.vm_set.lookup uuid).filter fun vm =>
    vm.status ∈ [.STOPPED, .RUNNING, .NOTCREATED] && vm.json = vm.json_active && vm.node.isSome && vm.dc ≠ dc &&
      (vm_node_storages nodes vm).all (dc ∈ nodes.dc ·)

/-- `VmDc.put`; the storages were collected for the old DC. -/
def vm_dc (uuid : VmId) (dc : Dc) (vm : Vm Dc NodeId Zpool) (s : State Dc NodeId Zpool VmId) :
    State Dc NodeId Zpool VmId :=
  let s := save_vm nodes uuid { vm with dc := dc } true none s
  let s := { s with rows := move_backups s.rows uuid dc }
  (vm_node_storages nodes vm).foldl (fun s ns => [dc, vm.dc].foldl (fun s i =>
    Snapshot.update_resources nodes ns i (Backup.update_resources nodes ns i s)) s) s

/-- The end of a task that deletes backups: the rows, and the backup whose storage is updated. -/
def vm_backup_delete_cb (rows : Rows Dc NodeId Zpool VmId) (bkp_ids : List ℕ) (written : List (ℕ × ℕ))
    (success : Bool) (files : List ℕ) : Option (Rows Dc NodeId Zpool VmId × Option (Backup Dc NodeId Zpool VmId)) :=
  (bkp_ids.findSome? rows.backups.lookup).map fun bkp =>
    let rows := if bkp.type = .DATASET then update_backups rows (written_sizes written) else rows
    if success then (delete_backups rows bkp_ids, some bkp)
    else if files.isEmpty then (rows, none)
    else (delete_backups rows (bkp_ids.filter (· ∈ files)), some bkp)

/-- The storage of the disk whose snapshots are synced. -/
def snapshot_storage (rows : Rows Dc NodeId Zpool VmId) (uuid : VmId) (zpool : Zpool) :
    Option (NodeStorage NodeId Zpool × Dc) :=
  (rows.vm_set.lookup uuid).bind fun vm =>
    vm.node.bind fun node => (get_node_storage nodes node vm.dc zpool).map fun ns => (ns, vm.dc)

def step (s : State Dc NodeId Zpool VmId) : Event Dc NodeId Zpool VmId → Option (State Dc NodeId Zpool VmId)
  | .get (.VMS_SIZE_TOTAL ns) => some (ns.get_vms_size false s).2
  | .get (.VMS_SIZE_DC dc ns) => some (ns.get_dc_vms_size nodes dc false s).2
  | .get (.SNAPSHOT_SIZE_TOTAL ns) => some (ns.get_snapshots_size false s).2
  | .get (.SNAPSHOT_SIZE_DC dc ns) => some (ns.get_dc_snapshots_size dc false s).2
  | .get (.BACKUP_SIZE_TOTAL ns) => some (ns.get_backups_size false s).2
  | .get (.BACKUP_SIZE_DC dc ns) => some (ns.get_dc_backups_size dc false s).2
  | .expire key => some { s with sizes := Function.update s.sizes key none }
  | .expire_total dc => some { s with size_total_dc := Function.update s.size_total_dc dc none }
  | .vm_define uuid request =>
    (save_arguments nodes s.rows uuid request).map fun save =>
      save_vm nodes uuid save.vm save.update_node_resources save.update_storage_resources s
  | .vm_define_delete uuid =>
    ((s.rows.vm_set.lookup uuid).filter Vm.is_notcreated).map fun vm =>
      post_delete nodes vm { s with rows := delete_vm s.rows uuid }
  | .vm_cb uuid vm snap_ids =>
    -- the callbacks delete snapshots of removed disks first and never change the DC
    if (s.rows.vm_set.lookup uuid).any (·.dc ≠ vm.dc) then none
    else some (save_vm nodes uuid vm true none { s with rows := delete_snapshots s.rows snap_ids })
  | .vm_dc uuid dc => (vm_dc_checked nodes s.rows uuid dc).map fun vm => vm_dc nodes uuid dc vm s
  | .vm_snapshot_post snap_id uuid disk_id zpool =>
    (snapshot_storage nodes s.rows uuid zpool).bind fun storage =>
      if (s.rows.snapshots.lookup snap_id).isSome then none
      else some { s with rows := save_snapshot s.rows snap_id ⟨uuid, disk_id, .PENDING, storage.1, none⟩ }
  | .vm_snapshot_status snap_ids status =>
    some { s with rows := update_snapshots s.rows (snapshot_status snap_ids status) }
  | .vm_snapshot_delete snap_ids => some { s with rows := delete_snapshots s.rows snap_ids }
  | .vm_snapshot_sync_cb uuid disk_id zpool node_snaps new_snaps running =>
    (snapshot_storage nodes s.rows uuid zpool).map fun storage =>
      Snapshot.update_resources nodes storage.1 storage.2
        { s with rows := sync_vm_snapshots s.rows uuid disk_id storage.1 node_snaps new_snaps running }
  | .node_vm_snapshot_sync_cb ns node_snaps node_bkps rep_snaps_size running is_backup =>
    some (ns.save nodes { vms_size := false, backups_size := false, dc_snapshots_size := nodes.dc ns }
      { s with
        rows := sync_node_snapshots s.rows ns node_snaps node_bkps running is_backup
        rep_snapshots := Function.update s.rep_snapshots ns (b_to_mb rep_snaps_size) })
  | .vm_backup_post bkp_id uuid type zpool =>
    (s.rows.vm_set.lookup uuid).bind fun vm =>
      if (s.rows.backups.lookup bkp_id).isSome then none
      else some { s with rows := save_backup s.rows bkp_id ⟨vm.dc, some uuid, .PENDING, type, zpool, none⟩ }
  | .vm_backup_status bkp_ids status =>
    some { s with rows := update_backups s.rows (backup_status bkp_ids status) }
  | .vm_backup_post_cb bkp_id size success =>
    (s.rows.backups.lookup bkp_id).map fun bkp =>
      Backup.update_resources nodes bkp.zpool bkp.dc { s with rows := backup_done s.rows bkp_id bkp size success }
  | .vm_backup_delete_cb bkp_ids update_snapshots success files =>
    (vm_backup_delete_cb s.rows bkp_ids update_snapshots success files).map fun deleted =>
      match deleted.2 with
      | some bkp => Backup.update_resources nodes bkp.zpool bkp.dc { s with rows := deleted.1 }
      | none => { s with rows := deleted.1 }
  | .vm_backup_delete_lost bkp_ids => some { s with rows := delete_backups s.rows bkp_ids }

end requests

end api.storage
