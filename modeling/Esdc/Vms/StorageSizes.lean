import Mathlib
import Esdc.Lib.DerivedCache
import Esdc.Lib.Dict
import Esdc.Vms.Accounting.Node

namespace vms.storage

open accounting (Vm)
open derived_cache (get_or_set Filled filled_get_or_set get_or_set_cached get_or_set_of_ne)

def b_to_mb (value : ℕ) : ℕ := value / 1048576

/-- The storages of a node differ in their zpools. -/
structure NodeStorage (NodeId Zpool : Type) where
  node : NodeId
  zpool : Zpool
  deriving DecidableEq

inductive Snapshot.Status
  | OK
  | PENDING
  | ROLLBACK
  | LOST
  deriving DecidableEq

inductive Backup.Status
  | OK
  | PENDING
  | RESTORE
  | LOST
  deriving DecidableEq

structure Snapshot (NodeId Zpool VmId : Type) where
  vm : VmId
  disk_id : ℕ
  status : Snapshot.Status
  zpool : NodeStorage NodeId Zpool
  size : Option ℕ
  deriving DecidableEq

inductive Backup.Kind
  | DATASET
  | FILE
  deriving DecidableEq

structure Backup (Dc NodeId Zpool VmId : Type) where
  dc : Dc
  vm : Option VmId
  status : Backup.Status
  type : Backup.Kind
  zpool : NodeStorage NodeId Zpool
  size : Option ℕ
  deriving DecidableEq

/-- The database rows that the sizes are computed from. -/
structure Rows (Dc NodeId Zpool VmId : Type) where
  vm_set : Dict VmId (Vm Dc NodeId Zpool)
  snapshots : Dict ℕ (Snapshot NodeId Zpool VmId)
  backups : Dict ℕ (Backup Dc NodeId Zpool VmId)
  deriving DecidableEq

/-- What stays as it is: the storages with their sizes and the datacenters they are
attached to, the default pool of a node and whether a `DcNode` of the node shares
its resources. -/
structure Nodes (Dc NodeId Zpool : Type) where
  storages : List (NodeStorage NodeId Zpool)
  nodup : storages.Nodup
  dc : NodeStorage NodeId Zpool → List Dc
  size : NodeStorage NodeId Zpool → ℕ
  size_coef : NodeStorage NodeId Zpool → ℚ
  zpool : NodeId → Option Zpool
  zpool_mem : ∀ node zpool_name, zpool node = some zpool_name → ⟨node, zpool_name⟩ ∈ storages
  shared : NodeId → Bool

/-- The row of a storage, with the free size that it has. -/
def Nodes.storage {Dc NodeId Zpool : Type} (nodes : Nodes Dc NodeId Zpool) (ns : NodeStorage NodeId Zpool)
    (size_free : ℤ) : accounting.Storage := ⟨nodes.size ns, nodes.size_coef ns, size_free⟩

def Nodes.size_total {Dc NodeId Zpool : Type} (nodes : Nodes Dc NodeId Zpool) (ns : NodeStorage NodeId Zpool) : ℤ :=
  (nodes.storage ns 0).size_total

/-- The keys of the cached sizes. -/
inductive Key (Dc NodeId Zpool : Type)
  | VMS_SIZE_TOTAL (ns : NodeStorage NodeId Zpool)
  | VMS_SIZE_DC (dc : Dc) (ns : NodeStorage NodeId Zpool)
  | SNAPSHOT_SIZE_TOTAL (ns : NodeStorage NodeId Zpool)
  | SNAPSHOT_SIZE_DC (dc : Dc) (ns : NodeStorage NodeId Zpool)
  | BACKUP_SIZE_TOTAL (ns : NodeStorage NodeId Zpool)
  | BACKUP_SIZE_DC (dc : Dc) (ns : NodeStorage NodeId Zpool)
  deriving DecidableEq

/-- The database and the cache; `size_total_dc` has the keys `VMS_SIZE_TOTAL_DC_KEY`. -/
structure State (Dc NodeId Zpool VmId : Type) where
  rows : Rows Dc NodeId Zpool VmId
  size_free : NodeStorage NodeId Zpool → ℤ
  sizes : Key Dc NodeId Zpool → Option ℤ
  size_total_dc : Dc → Option ℤ
  rep_snapshots : NodeStorage NodeId Zpool → ℕ

variable {Dc NodeId Zpool VmId : Type} [DecidableEq Dc] [DecidableEq NodeId] [DecidableEq Zpool] [DecidableEq VmId]

abbrev get_disk_size (vm : Vm Dc NodeId Zpool) (zpool : Zpool) : ℕ := vm.get_disk_size (some zpool)

omit [DecidableEq VmId] in
def _calculate_vms_size (rows : Rows Dc NodeId Zpool VmId) (ns : NodeStorage NodeId Zpool) (dc : Option Dc) : ℕ :=
  let qs := rows.vm_set.entries.filter fun row => row.2.node = some ns.node && dc.all (row.2.dc = ·)
  (qs.map fun row => get_disk_size row.2 ns.zpool).sum

/-- `Sum('size')` in MB, rows without a size do not count. -/
def sum_size (sizes : List (Option ℕ)) : ℕ := b_to_mb (sizes.map (·.getD 0)).sum

def _calculate_snapshots_size (rows : Rows Dc NodeId Zpool VmId) (ns : NodeStorage NodeId Zpool) (dc : Option Dc) :
    ℕ :=
  let qs := rows.snapshots.entries.filter fun snap =>
    snap.2.zpool = ns && !(snap.2.status ∈ [.PENDING, .LOST] && snap.2.size.isNone)
  let qs := qs.filter fun snap => dc.all fun dc => (rows.vm_set.lookup snap.2.vm).any fun vm => vm.dc = dc
  sum_size (qs.map fun snap => snap.2.size)

omit [DecidableEq VmId] in
def _calculate_backups_size (rows : Rows Dc NodeId Zpool VmId) (ns : NodeStorage NodeId Zpool) (dc : Option Dc) :
    ℕ :=
  let qs := rows.backups.entries.filter fun bkp =>
    bkp.2.zpool = ns && !(bkp.2.status ∈ [.PENDING, .LOST] && bkp.2.size.isNone)
  let qs := qs.filter fun bkp => dc.all (bkp.2.dc = ·)
  sum_size (qs.map fun bkp => bkp.2.size)

/-- What a key stands for, computed from the database. -/
def Key.size (rows : Rows Dc NodeId Zpool VmId) : Key Dc NodeId Zpool → ℤ
  | .VMS_SIZE_TOTAL ns => _calculate_vms_size rows ns none
  | .VMS_SIZE_DC dc ns => _calculate_vms_size rows ns (some dc)
  | .SNAPSHOT_SIZE_TOTAL ns => _calculate_snapshots_size rows ns none
  | .SNAPSHOT_SIZE_DC dc ns => _calculate_snapshots_size rows ns (some dc)
  | .BACKUP_SIZE_TOTAL ns => _calculate_backups_size rows ns none
  | .BACKUP_SIZE_DC dc ns => _calculate_backups_size rows ns (some dc)

/-- The storages attached to a datacenter. -/
def Nodes.dc_storages (nodes : Nodes Dc NodeId Zpool) (dc : Dc) : List (NodeStorage NodeId Zpool) :=
  nodes.storages.filter fun ns => dc ∈ nodes.dc ns

/-- The size of all VMs of a datacenter, computed from the database. -/
def Nodes.total_dc (nodes : Nodes Dc NodeId Zpool) (rows : Rows Dc NodeId Zpool VmId) (dc : Dc) : ℤ :=
  ((nodes.dc_storages dc).map fun ns => Key.size rows (.VMS_SIZE_DC dc ns)).sum

namespace NodeStorage

def _get_related_object_size (key : Key Dc NodeId Zpool) (fetch_size_fun : Rows Dc NodeId Zpool VmId → ℕ)
    (clear_cache : Bool) (s : State Dc NodeId Zpool VmId) : ℤ × State Dc NodeId Zpool VmId :=
  let (res, sizes) := get_or_set s.sizes key clear_cache (fetch_size_fun s.rows : ℤ)
  (res, { s with sizes := sizes })

variable (self : NodeStorage NodeId Zpool)

def get_vms_size (clear_cache : Bool) (s : State Dc NodeId Zpool VmId) : ℤ × State Dc NodeId Zpool VmId :=
  _get_related_object_size (.VMS_SIZE_TOTAL self) (_calculate_vms_size · self none) clear_cache s

def get_snapshots_size (clear_cache : Bool) (s : State Dc NodeId Zpool VmId) : ℤ × State Dc NodeId Zpool VmId :=
  _get_related_object_size (.SNAPSHOT_SIZE_TOTAL self) (_calculate_snapshots_size · self none) clear_cache s

def get_rep_snapshots_size (s : State Dc NodeId Zpool VmId) : ℤ := s.rep_snapshots self

def get_dc_snapshots_size (dc : Dc) (clear_cache : Bool) (s : State Dc NodeId Zpool VmId) :
    ℤ × State Dc NodeId Zpool VmId :=
  _get_related_object_size (.SNAPSHOT_SIZE_DC dc self) (_calculate_snapshots_size · self (some dc)) clear_cache s

def get_backups_size (clear_cache : Bool) (s : State Dc NodeId Zpool VmId) : ℤ × State Dc NodeId Zpool VmId :=
  _get_related_object_size (.BACKUP_SIZE_TOTAL self) (_calculate_backups_size · self none) clear_cache s

def get_dc_backups_size (dc : Dc) (clear_cache : Bool) (s : State Dc NodeId Zpool VmId) :
    ℤ × State Dc NodeId Zpool VmId :=
  _get_related_object_size (.BACKUP_SIZE_DC dc self) (_calculate_backups_size · self (some dc)) clear_cache s

/-- `get_dc_vms_size` without the sum of the datacenter. -/
def cached_dc_vms_size (dc : Dc) (clear_cache : Bool) (s : State Dc NodeId Zpool VmId) :
    ℤ × State Dc NodeId Zpool VmId :=
  _get_related_object_size (.VMS_SIZE_DC dc self) (_calculate_vms_size · self (some dc)) clear_cache s

/-- `sum(ns.get_dc_vms_size(dc) for ns in …)`. -/
def sum_dc_vms_size (dc : Dc) : List (NodeStorage NodeId Zpool) → State Dc NodeId Zpool VmId →
    ℤ × State Dc NodeId Zpool VmId
  | [], s => (0, s)
  | ns :: others, s =>
    let (size, s) := ns.cached_dc_vms_size dc false s
    let (sizes, s) := sum_dc_vms_size dc others s
    (size + sizes, s)

def get_dc_vms_size (nodes : Nodes Dc NodeId Zpool) (dc : Dc) (clear_cache : Bool) (s : State Dc NodeId Zpool VmId) :
    ℤ × State Dc NodeId Zpool VmId :=
  let (res, s) := self.cached_dc_vms_size dc clear_cache s
  if clear_cache then
    let (others, s) := sum_dc_vms_size dc ((nodes.dc_storages dc).filter (· != self)) s
    (res, { s with size_total_dc := Function.update s.size_total_dc dc (some (res + others)) })
  else (res, s)

def get_free_size (nodes : Nodes Dc NodeId Zpool) (recalculate_vms_size recalculate_snapshots_size
    recalculate_backups_size : Bool) (s : State Dc NodeId Zpool VmId) : ℤ × State Dc NodeId Zpool VmId :=
  let (vms, s) := self.get_vms_size recalculate_vms_size s
  let (snapshots, s) := self.get_snapshots_size recalculate_snapshots_size s
  let (backups, s) := self.get_backups_size recalculate_backups_size s
  (nodes.size_total self - (vms + snapshots + self.get_rep_snapshots_size s + backups), s)

/-- The `recalculate_…` arguments of `update_resources`. -/
structure Recalculate (Dc : Type) where
  vms_size : Bool := true
  snapshots_size : Bool := true
  backups_size : Bool := true
  dc_vms_size : List Dc := []
  dc_snapshots_size : List Dc := []
  dc_backups_size : List Dc := []

def update_resources (nodes : Nodes Dc NodeId Zpool) (recalculate : Recalculate Dc)
    (s : State Dc NodeId Zpool VmId) : State Dc NodeId Zpool VmId :=
  let (free, s) := self.get_free_size nodes recalculate.vms_size recalculate.snapshots_size recalculate.backups_size s
  let s := { s with size_free := Function.update s.size_free self free }
  let s := recalculate.dc_vms_size.foldl (fun s dc => (self.get_dc_vms_size nodes dc true s).2) s
  let s := recalculate.dc_snapshots_size.foldl (fun s dc => (self.get_dc_snapshots_size dc true s).2) s
  recalculate.dc_backups_size.foldl (fun s dc => (self.get_dc_backups_size dc true s).2) s

end NodeStorage

def get_node_storage (nodes : Nodes Dc NodeId Zpool) (node : NodeId) (dc : Dc) (zpool : Zpool) :
    Option (NodeStorage NodeId Zpool) :=
  (nodes.dc_storages dc).find? (· = ⟨node, zpool⟩)

def get_node_storages (nodes : Nodes Dc NodeId Zpool) (node : NodeId) (dc : Dc) (zpools : List Zpool) :
    List (NodeStorage NodeId Zpool) :=
  (nodes.dc_storages dc).filter fun ns => ns.node = node && ns.zpool ∈ zpools

/-- The sizes that `DcNode.update_all` reads, where a `DcNode` shares the resources of the node. -/
def update_all (nodes : Nodes Dc NodeId Zpool) (node : NodeId) (s : State Dc NodeId Zpool VmId) :
    State Dc NodeId Zpool VmId :=
  match nodes.zpool node, nodes.shared node with
  | some zpool, true =>
    let ns : NodeStorage NodeId Zpool := ⟨node, zpool⟩
    (ns.get_snapshots_size false (ns.get_backups_size false s).2).2
  | _, _ => s

/-- The VMs of a node. -/
def Rows.node_vm_set (rows : Rows Dc NodeId Zpool VmId) (node : NodeId) : List (Vm Dc NodeId Zpool) :=
  (rows.vm_set.entries.map fun row => row.2).filter fun vm => vm.node = some node

/-- The node with the sizes of its default storage; its CPUs and its RAM are not
among the rows. -/
def NodeStorage.load (ns : NodeStorage NodeId Zpool) (nodes : Nodes Dc NodeId Zpool) (s : State Dc NodeId Zpool VmId) :
    accounting.Node Zpool × State Dc NodeId Zpool VmId :=
  let (size_backups, s) := ns.get_backups_size false s
  let (size_snapshots, s) := ns.get_snapshots_size false s
  let storage := nodes.storage ns (s.size_free ns)
  ({ cpu := 0
     ram := 0
     cpu_coef := 1
     ram_coef := 1
     zpool := some ns.zpool
     _ns := some ⟨ns.zpool, storage, size_snapshots, ns.get_rep_snapshots_size s, size_backups⟩
     _storage := storage
     cpu_free := 0
     ram_free := 0 }, s)

/-- `Node.update_resources`, as far as the default storage of the node is concerned. -/
def update_node_resources (nodes : Nodes Dc NodeId Zpool) (node : NodeId) (s : State Dc NodeId Zpool VmId) :
    State Dc NodeId Zpool VmId :=
  match nodes.zpool node with
  | none => s
  | some zpool =>
    let ns : NodeStorage NodeId Zpool := ⟨node, zpool⟩
    let (loaded, s) := ns.load nodes s
    let updated := loaded.update_resources (s.rows.node_vm_set node)
    -- the setter of `disk_free` reads the sizes again, and writes the size of the VMs
    let (loaded, s) := ns.load nodes s
    update_all nodes node { s with
      sizes := Function.update s.sizes (.VMS_SIZE_TOTAL ns) (loaded.vms_size updated.disk_free)
      size_free := Function.update s.size_free ns updated.disk_free }

/-- `NodeStorage.save(update_resources=True, update_dcnode_resources=True, …)`. -/
def NodeStorage.save (ns : NodeStorage NodeId Zpool) (nodes : Nodes Dc NodeId Zpool)
    (recalculate : NodeStorage.Recalculate Dc) (s : State Dc NodeId Zpool VmId) : State Dc NodeId Zpool VmId :=
  update_all nodes ns.node (ns.update_resources nodes recalculate s)

def Snapshot.update_resources (nodes : Nodes Dc NodeId Zpool) (ns : NodeStorage NodeId Zpool) (dc : Dc) :
    State Dc NodeId Zpool VmId → State Dc NodeId Zpool VmId :=
  ns.save nodes { vms_size := false, backups_size := false, dc_snapshots_size := [dc] }

def Backup.update_resources (nodes : Nodes Dc NodeId Zpool) (ns : NodeStorage NodeId Zpool) (dc : Dc) :
    State Dc NodeId Zpool VmId → State Dc NodeId Zpool VmId :=
  ns.save nodes { vms_size := false, snapshots_size := false, dc_backups_size := [dc] }

/-- `Vm.get_node_storages`. -/
def vm_node_storages (nodes : Nodes Dc NodeId Zpool) (vm : Vm Dc NodeId Zpool) : List (NodeStorage NodeId Zpool) :=
  match vm.node with
  | some node => get_node_storages nodes node vm.dc ((vm.get_disks vm.json none).map Prod.fst)
  | none => []

/-- The refreshes of one storage of a VM. -/
def update_vm_storage (nodes : Nodes Dc NodeId Zpool) (dc : Dc) (s : State Dc NodeId Zpool VmId)
    (ns : NodeStorage NodeId Zpool) : State Dc NodeId Zpool VmId :=
  ns.update_resources nodes { dc_vms_size := [dc], dc_snapshots_size := [dc] } s

/-- The nodes that `Vm.save` updates, the old one too when the VM changes its node. -/
def updated_nodes (orig_node : Option NodeId) (vm : Vm Dc NodeId Zpool) (update_node : Bool) : List NodeId :=
  if orig_node ≠ vm.node then vm.node.toList ++ orig_node.toList
  else if update_node then vm.node.toList else []

def Rows.save_vm (rows : Rows Dc NodeId Zpool VmId) (uuid : VmId) (vm : Vm Dc NodeId Zpool) :
    Rows Dc NodeId Zpool VmId :=
  { rows with vm_set := rows.vm_set.insert uuid vm }

/-- `Vm._orig_node`. -/
def Rows.orig_node (rows : Rows Dc NodeId Zpool VmId) (uuid : VmId) : Option NodeId :=
  (rows.vm_set.lookup uuid).bind Vm.node

/-- `Vm.save` with the row that is written; the storages are those of the VM for `True`. -/
def save_vm (nodes : Nodes Dc NodeId Zpool) (uuid : VmId) (vm : Vm Dc NodeId Zpool) (update_node : Bool)
    (update_storage_resources : Option (List (NodeStorage NodeId Zpool))) (s : State Dc NodeId Zpool VmId) :
    State Dc NodeId Zpool VmId :=
  let updated := updated_nodes (s.rows.orig_node uuid) vm update_node
  let s := { s with rows := s.rows.save_vm uuid vm }
  let s := (update_storage_resources.getD (vm_node_storages nodes vm)).foldl (update_vm_storage nodes vm.dc) s
  updated.foldl (fun s node => update_node_resources nodes node s) s

/-- `Vm.post_delete`, the row is gone. -/
def post_delete (nodes : Nodes Dc NodeId Zpool) (vm : Vm Dc NodeId Zpool) (s : State Dc NodeId Zpool VmId) :
    State Dc NodeId Zpool VmId :=
  let s := vm.node.toList.foldl (fun s node => update_node_resources nodes node s) s
  (vm_node_storages nodes vm).foldl (update_vm_storage nodes vm.dc) s

end vms.storage
