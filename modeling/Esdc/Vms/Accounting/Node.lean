import Mathlib
import Esdc.Lib.Binary64
import Esdc.Vms.Accounting.Vm

namespace vms.accounting

open binary64 (Number product)

structure Storage where
  size : ℕ
  size_coef : ℚ
  size_free : ℤ
  deriving DecidableEq

def Storage.size_total (storage : Storage) : ℤ := trunc (product storage.size storage.size_coef)

/-- The sizes are those of the cached sums over the snapshots and backups. -/
structure NodeStorage (Zpool : Type) where
  zpool : Zpool
  storage : Storage
  size_snapshots : ℤ
  size_rep_snapshots : ℤ
  size_backups : ℤ
  deriving DecidableEq

variable {Zpool : Type}

def NodeStorage.set_size_free (ns : NodeStorage Zpool) (size_free : ℤ) : NodeStorage Zpool :=
  { ns with storage := { ns.storage with size_free } }

/-- `_storage` stands for the local storage while the node has no `NodeStorage` row. -/
structure Node (Zpool : Type) where
  cpu : ℕ
  ram : ℕ
  cpu_coef : ℚ
  ram_coef : ℚ
  zpool : Option Zpool
  _ns : Option (NodeStorage Zpool)
  _storage : Storage
  cpu_free : ℤ
  ram_free : ℤ

namespace Node

variable {Dc NodeId Zpool : Type}

def storage (node : Node Zpool) : Storage := (node._ns.map NodeStorage.storage).getD node._storage

/-- `disk_free` is the `size_free` of the local storage. -/
def disk_free (node : Node Zpool) : ℤ := node.storage.size_free

def set_disk_free (node : Node Zpool) (value : ℤ) : Node Zpool :=
  match node._ns with
  | some ns => { node with _ns := some (ns.set_size_free value) }
  | none => { node with _storage := { node._storage with size_free := value } }

/-- The size of the VMs that the setter of `disk_free` derives for the cache. -/
def vms_size (node : Node Zpool) (value : ℤ) : Option ℤ :=
  node._ns.map fun ns =>
    node.storage.size_total - ns.size_backups - ns.size_snapshots - ns.size_rep_snapshots - value

def free (node : Node Zpool) : Resource → ℤ
  | .cpu => node.cpu_free
  | .ram => node.ram_free
  | .disk => node.disk_free

/-- The products with the coefficients are floats. -/
def resources (node : Node Zpool) : Resource → Number
  | .cpu => .float (product node.cpu node.cpu_coef)
  | .ram => .float (product node.ram node.ram_coef)
  | .disk =>
    match node._ns with
    | some ns => .int (node.storage.size_total - (ns.size_backups + ns.size_snapshots + ns.size_rep_snapshots))
    | none => .int node.storage.size_total

variable [DecidableEq Dc] [DecidableEq Zpool]

/-- The VMs of the node that `get_free_resources` goes through. -/
def filter_vms (vm_set : List (Vm Dc NodeId Zpool)) (dc dc_exclude : Option Dc) (dcs_exclude : List Dc) :
    List (Vm Dc NodeId Zpool) :=
  let vms := vm_set.filter fun vm => dc.all (vm.dc = ·)
  let vms := vms.filter fun vm => vm.dc ∉ dcs_exclude
  vms.filter fun vm => dc_exclude.all (vm.dc ≠ ·)

def get_free_resources (node : Node Zpool) (vm_set : List (Vm Dc NodeId Zpool)) (total : Resource → Number)
    (dc dc_exclude : Option Dc) (dcs_exclude : List Dc) : Resource → ℤ :=
  let left := (filter_vms vm_set dc dc_exclude dcs_exclude).foldl
    (fun left vm r => (left r).sub (vm.get_cpu_ram_disk node.zpool true r)) total
  fun r => (left r).to_int

def update_resources (node : Node Zpool) (vm_set : List (Vm Dc NodeId Zpool)) : Node Zpool :=
  let free := node.get_free_resources vm_set node.resources none none []
  { node with cpu_free := free .cpu, ram_free := free .ram }.set_disk_free (free .disk)

end Node

inductive Strategy
  | SHARED
  | SHARED_LIMIT
  | RESERVED
  deriving DecidableEq

/-- `total` are the fields `cpu`, `ram` and `disk`, `free` those with the suffix `_free`. -/
structure DcNode (Dc : Type) where
  dc : Dc
  strategy : Strategy
  total : Resource → ℤ
  free : Resource → ℤ

namespace DcNode

variable {Dc NodeId Zpool : Type} [DecidableEq Dc] [DecidableEq Zpool]

def check_free_resources (dc_node : DcNode Dc) (r : Resource) (amount : ℤ) : Bool := amount ≤ dc_node.free r

def reserved (rows : List (DcNode Dc)) : List (DcNode Dc) :=
  rows.filter fun row => row.strategy = .RESERVED

def nonreserved_resources (dc_node : DcNode Dc) (node : Node Zpool) (rows : List (DcNode Dc))
    (exclude_this_dc : Bool) : Resource → ℤ :=
  let r := if exclude_this_dc then (reserved rows).filter fun row => row.dc ≠ dc_node.dc else reserved rows
  fun k => (node.resources k).to_int - (r.map fun row => row.total k).sum

/-- `rows` are the rows of the node; the first result is left in `_nonreserved_resources`. -/
def get_nonreserved_free_resources (dc_node : DcNode Dc) (node : Node Zpool)
    (vm_set : List (Vm Dc NodeId Zpool)) (rows : List (DcNode Dc)) (exclude_this_dc : Bool) :
    (Resource → ℤ) × (Resource → ℤ) :=
  let _nonreserved_resources := dc_node.nonreserved_resources node rows exclude_this_dc
  let dc_exclude := if exclude_this_dc then some dc_node.dc else none
  let dcs_exclude := (reserved rows).map DcNode.dc
  (_nonreserved_resources,
    node.get_free_resources vm_set (fun k => .int (_nonreserved_resources k)) none dc_exclude dcs_exclude)

def update_resources (dc_node : DcNode Dc) (node : Node Zpool) (vm_set : List (Vm Dc NodeId Zpool))
    (rows : List (DcNode Dc)) : DcNode Dc :=
  let own := node.get_free_resources vm_set (fun k => .int (dc_node.total k)) (some dc_node.dc) none []
  match dc_node.strategy with
  | .RESERVED => { dc_node with free := own }
  | .SHARED =>
    let (_nonreserved_resources, free) := dc_node.get_nonreserved_free_resources node vm_set rows false
    { dc_node with total := _nonreserved_resources, free }
  | .SHARED_LIMIT =>
    let (_, free) := dc_node.get_nonreserved_free_resources node vm_set rows false
    { dc_node with free := fun k => if own k < free k then own k else free k }

/-- The database refuses a negative total, these are `PositiveIntegerField`s. -/
def save (dc_node : DcNode Dc) (node : Node Zpool) (vm_set : List (Vm Dc NodeId Zpool))
    (rows : List (DcNode Dc)) : Option (DcNode Dc) :=
  let saved := dc_node.update_resources node vm_set rows
  if ∀ k, 0 ≤ saved.total k then some saved else none

/-- The loop of `update_all`; the rows before the current one are already saved. -/
def update_rows (node : Node Zpool) (vm_set : List (Vm Dc NodeId Zpool)) (done : List (DcNode Dc)) :
    List (DcNode Dc) → Option (List (DcNode Dc))
  | [] => some done
  | dc_node :: rows => do
    let saved ← dc_node.save node vm_set (done ++ dc_node :: rows)
    update_rows node vm_set (done ++ [saved]) rows

def update_all (node : Node Zpool) (vm_set : List (Vm Dc NodeId Zpool)) (rows : List (DcNode Dc)) :
    Option (List (DcNode Dc)) := update_rows node vm_set [] rows

end DcNode

end vms.accounting
