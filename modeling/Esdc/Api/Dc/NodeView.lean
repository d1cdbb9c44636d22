import Mathlib
import Esdc.Vms.Accounting.Pool

namespace api.dc.node_view

open vms.accounting
open DcNode

variable {Dc NodeId Zpool : Type}

inductive Error
  | object_not_found
  | object_already_exists
  | multiple_objects_returned
  | required (field : Resource)
  | max_value (field : Resource) (limit_value : ℤ)
  | min_value (field : Resource) (limit_value : ℤ)
  | not_enough_free (field : Resource)
  | node_has_vms
  | node_has_backups
  /-- A negative total, which the database refuses. -/
  | integrity
  deriving DecidableEq

/-- The texts of the view itself; the others come with the framework. -/
def Error.text : Error → Option String
  | .not_enough_free .cpu => some "Not enough free CPUs on node."
  | .not_enough_free .ram => some "Not enough free RAM on node."
  | .not_enough_free .disk => some "Not enough free disk space on node."
  | .node_has_vms => some "Node has VMs in datacenter"
  | .node_has_backups => some "Node has VM backups in datacenter"
  | _ => none

structure Data where
  strategy : Option Strategy
  total : Resource → Option ℤ

inductive Request
  | post (data : Data)
  | put (data : Data)
  | delete

/-- The node with its VMs, and the DCs of the backups on it. -/
structure Host (Dc NodeId Zpool : Type) where
  node : Node Zpool
  vm_set : List (Vm Dc NodeId Zpool)
  backup_set : List Dc

def fields : List Resource := [.cpu, .ram, .disk]

/-- The errors of the fields, with the validators that `__init__` appends. -/
def field_errors (required : Bool) (max_value min_value : Resource → ℤ) (data : Data) : List Error :=
  fields.flatMap fun r =>
    match data.total r with
    | none => if required then [.required r] else []
    | some value =>
      (if max_value r < value then [.max_value r (max_value r)] else []) ++
        if value < min_value r then [.min_value r (min_value r)] else []

/-- The object after `restore_object`. -/
def restore_object (object : DcNode Dc) (data : Data) : DcNode Dc :=
  { object with
    strategy := data.strategy.getD object.strategy
    total := fun r => (data.total r).getD (object.total r) }

variable [DecidableEq Dc] [DecidableEq Zpool]

/-- `attrs` with the values of the object for the missing ones is what is restored. -/
def validate (host : Host Dc NodeId Zpool) (rows : List (DcNode Dc)) (object attrs : DcNode Dc) : List Error :=
  if attrs.strategy = .RESERVED then
    let nf := (object.get_nonreserved_free_resources host.node host.vm_set rows true).2
    fields.flatMap fun r => if nf r < attrs.total r then [.not_enough_free r] else []
  else []

/-- The object to be saved. -/
def is_valid (host : Host Dc NodeId Zpool) (rows : List (DcNode Dc)) (object : DcNode Dc) (required : Bool)
    (min_value : Resource → ℤ) (data : Data) : Except (List Error) (DcNode Dc) :=
  match field_errors required (fun r => (host.node.resources r).to_int) min_value data with
  | [] =>
    match validate host rows object (restore_object object data) with
    | [] => .ok (restore_object object data)
    | errors => .error errors
  | errors => .error errors

/-- The object without the update of its resources. -/
def save (object : DcNode Dc) : Except (List Error) (DcNode Dc) :=
  if ∀ r, 0 ≤ object.total r then .ok object else .error [.integrity]

/-- What POST makes of the data: the amounts of a shared row do not matter. -/
def Data.posted (data : Data) : Data :=
  let strategy := data.strategy.getD .SHARED
  if strategy = .SHARED then ⟨some strategy, fun _ => some 0⟩ else ⟨some strategy, data.total⟩

def post (host : Host Dc NodeId Zpool) (rows : List (DcNode Dc)) (dc : Dc) (data : Data) :
    Except (List Error) (List (DcNode Dc)) :=
  match rows.filter fun row => row.dc = dc with
  | [] =>
    let object : DcNode Dc := ⟨dc, .SHARED, fun _ => 0, fun _ => 0⟩
    -- the minimum is the total of the object less its free amount, and both are new
    match is_valid host rows object true (fun r => object.total r - object.free r) data.posted with
    | .ok object => (save object).map fun object => rows ++ [object]
    | .error errors => .error errors
  | [_] => .error [.object_already_exists]
  | _ => .error [.multiple_objects_returned]

def get_used_resources (host : Host Dc NodeId Zpool) (dc : Dc) (r : Resource) : ℤ :=
  host.node.used (host.vm_set.filter fun vm => vm.dc = dc) r

def put (host : Host Dc NodeId Zpool) (rows : List (DcNode Dc)) (dc : Dc) (data : Data) :
    Except (List Error) (List (DcNode Dc)) :=
  match rows.filter fun row => row.dc = dc with
  | [] => .error [.object_not_found]
  | [object] =>
    match is_valid host rows object false (get_used_resources host dc) data with
    | .ok object => (save object).map fun object => rows.map fun row => if row.dc = dc then object else row
    | .error errors => .error errors
  | _ => .error [.multiple_objects_returned]

def delete (host : Host Dc NodeId Zpool) (rows : List (DcNode Dc)) (dc : Dc) :
    Except (List Error) (List (DcNode Dc)) :=
  match rows.filter fun row => row.dc = dc with
  | [] => .error [.object_not_found]
  | [_] =>
    if host.vm_set.any fun vm => vm.dc = dc then .error [.node_has_vms]
    else if dc ∈ host.backup_set then .error [.node_has_backups]
    else .ok (rows.filter fun row => row.dc ≠ dc)
  | _ => .error [.multiple_objects_returned]

/-- The rows that a request has saved or deleted before `update_all`. -/
def Request.changed (request : Request) (host : Host Dc NodeId Zpool) (rows : List (DcNode Dc)) (dc : Dc) :
    Except (List Error) (List (DcNode Dc)) :=
  match request with
  | .post data => node_view.post host rows dc data
  | .put data => node_view.put host rows dc data
  | .delete => node_view.delete host rows dc

/-- An accepted request ends with `update_all`. -/
def Request.run (request : Request) (host : Host Dc NodeId Zpool) (rows : List (DcNode Dc)) (dc : Dc) :
    Except (List Error) (List (DcNode Dc)) :=
  match request.changed host rows dc with
  | .error errors => .error errors
  | .ok rows =>
    match update_all host.node host.vm_set rows with
    | some rows => .ok rows
    | none => .error [.integrity]

/-- The free values that the strategies define are not negative, whatever values are stored. -/
def Funded (host : Host Dc NodeId Zpool) (rows : List (DcNode Dc)) : Prop :=
  ∀ row ∈ rows, ∀ r, 0 ≤ (row.update_resources host.node host.vm_set rows).free r

/-- Every row has the values that its strategy defines, and no free value is negative. -/
def Sound (host : Host Dc NodeId Zpool) (rows : List (DcNode Dc)) : Prop :=
  ∀ row ∈ rows, row.update_resources host.node host.vm_set rows = row ∧ ∀ r, 0 ≤ row.free r

end api.dc.node_view
