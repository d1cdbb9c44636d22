import Mathlib
import Esdc.Vms.Accounting.Node

namespace vms.accounting

open binary64 (Number)

variable {Dc NodeId Zpool : Type} [DecidableEq Zpool]

/-- What the VMs of a list take from the node. -/
def Node.used (node : Node Zpool) (vms : List (Vm Dc NodeId Zpool)) (r : Resource) : ℕ :=
  (vms.map fun vm => vm.get_cpu_ram_disk node.zpool true r).sum

/-- What the VMs of a list leave of an amount when they are taken from it one after the other. -/
def Node.left (node : Node Zpool) (vms : List (Vm Dc NodeId Zpool)) (total : Number) (r : Resource) : Number :=
  total.subs (vms.map fun vm => vm.get_cpu_ram_disk node.zpool true r)

theorem Node.foldl_left (node : Node Zpool) (vms : List (Vm Dc NodeId Zpool)) (total : Resource → Number)
    (r : Resource) :
    vms.foldl (fun left vm r => (left r).sub (vm.get_cpu_ram_disk node.zpool true r)) total r =
      node.left vms (total r) r := by
  induction vms generalizing total with
  | nil => rfl
  | cons vm vms ih => exact ih _

variable [DecidableEq Dc]

theorem Node.get_free_resources_apply (node : Node Zpool) (vm_set : List (Vm Dc NodeId Zpool))
    (total : Resource → Number) (dc dc_exclude : Option Dc) (dcs_exclude : List Dc) (r : Resource) :
    node.get_free_resources vm_set total dc dc_exclude dcs_exclude r =
      (node.left (filter_vms vm_set dc dc_exclude dcs_exclude) (total r) r).to_int :=
  congrArg Number.to_int (node.foldl_left _ total r)

/-- With integer totals nothing is rounded. -/
theorem Node.get_free_resources_int (node : Node Zpool) (vm_set : List (Vm Dc NodeId Zpool))
    (total : Resource → ℤ) (dc dc_exclude : Option Dc) (dcs_exclude : List Dc) (r : Resource) :
    node.get_free_resources vm_set (fun k => .int (total k)) dc dc_exclude dcs_exclude r =
      total r - node.used (filter_vms vm_set dc dc_exclude dcs_exclude) r := by
  rw [node.get_free_resources_apply, left, Number.subs_int]
  rfl

omit [DecidableEq Zpool] in
@[simp] theorem filter_vms_all (vm_set : List (Vm Dc NodeId Zpool)) :
    Node.filter_vms vm_set none none [] = vm_set := by
  simp [Node.filter_vms]

omit [DecidableEq Zpool] in
@[simp] theorem filter_vms_dc (vm_set : List (Vm Dc NodeId Zpool)) (dc : Dc) :
    Node.filter_vms vm_set (some dc) none [] = vm_set.filter fun vm => vm.dc = dc := by
  simp [Node.filter_vms]

omit [DecidableEq Zpool] in
@[simp] theorem filter_vms_dcs_exclude (vm_set : List (Vm Dc NodeId Zpool)) (dcs : List Dc) :
    Node.filter_vms vm_set none none dcs = vm_set.filter fun vm => vm.dc ∉ dcs := by
  simp [Node.filter_vms]

@[simp] theorem Node.update_resources_zpool (node : Node Zpool) (vm_set : List (Vm Dc NodeId Zpool)) :
    (node.update_resources vm_set).zpool = node.zpool := by
  unfold Node.update_resources Node.set_disk_free
  cases node._ns <;> rfl

@[simp] theorem Node.update_resources_resources (node : Node Zpool)
    (vm_set : List (Vm Dc NodeId Zpool)) :
    (node.update_resources vm_set).resources = node.resources := by
  funext r
  unfold Node.update_resources Node.set_disk_free Node.resources Node.storage
  cases r <;> cases node._ns <;> rfl

theorem Node.update_resources_free (node : Node Zpool) (vm_set : List (Vm Dc NodeId Zpool))
    (r : Resource) :
    (node.update_resources vm_set).free r = (node.left vm_set (node.resources r) r).to_int := by
  have hfree : (node.update_resources vm_set).free r =
      node.get_free_resources vm_set node.resources none none [] r := by
    unfold Node.update_resources Node.set_disk_free Node.free Node.disk_free Node.storage
    cases r <;> cases node._ns <;> rfl
  rw [hfree, node.get_free_resources_apply, filter_vms_all]

namespace DcNode

/-- What the VMs of the DC leave of the row's own total. -/
def own_free (dc_node : DcNode Dc) (node : Node Zpool) (vm_set : List (Vm Dc NodeId Zpool))
    (r : Resource) : ℤ :=
  dc_node.total r - node.used (vm_set.filter fun vm => vm.dc = dc_node.dc) r

/-- What is not reserved for a DC. -/
def pool_total (node : Node Zpool) (rows : List (DcNode Dc)) (r : Resource) : ℤ :=
  (node.resources r).to_int - ((reserved rows).map fun row => row.total r).sum

/-- What the VMs outside of the reserved DCs leave of it. -/
def pool_free (node : Node Zpool) (vm_set : List (Vm Dc NodeId Zpool)) (rows : List (DcNode Dc))
    (r : Resource) : ℤ :=
  pool_total node rows r - node.used (vm_set.filter fun vm => vm.dc ∉ (reserved rows).map DcNode.dc) r

/-- The totals and the free amounts that each strategy leaves in the row. -/
theorem update_resources_eq (dc_node : DcNode Dc) (node : Node Zpool)
    (vm_set : List (Vm Dc NodeId Zpool)) (rows : List (DcNode Dc)) :
    dc_node.update_resources node vm_set rows =
      match dc_node.strategy with
      | .RESERVED => { dc_node with free := dc_node.own_free node vm_set }
      | .SHARED => { dc_node with total := pool_total node rows, free := pool_free node vm_set rows }
      | .SHARED_LIMIT => { dc_node with
          free := fun r => min (dc_node.own_free node vm_set r) (pool_free node vm_set rows r) } := by
  have hown : node.get_free_resources vm_set (fun k => .int (dc_node.total k)) (some dc_node.dc) none [] =
      dc_node.own_free node vm_set := by
    funext r
    rw [node.get_free_resources_int, filter_vms_dc, own_free]
  have hpool : dc_node.get_nonreserved_free_resources node vm_set rows false =
      (pool_total node rows, pool_free node vm_set rows) := by
    have htotal : dc_node.nonreserved_resources node rows false = pool_total node rows := rfl
    rw [get_nonreserved_free_resources, htotal]
    refine Prod.ext rfl ?_
    funext r
    simp [Node.get_free_resources_int, pool_free]
  unfold update_resources
  rw [hown, hpool]
  cases dc_node.strategy with
  | SHARED => rfl
  | RESERVED => rfl
  | SHARED_LIMIT =>
    have hmin : ∀ a b : ℤ, (if a < b then a else b) = min a b := by
      intro a b
      split <;> omega
    simp only [hmin]

@[simp] theorem update_resources_dc (dc_node : DcNode Dc) (node : Node Zpool)
    (vm_set : List (Vm Dc NodeId Zpool)) (rows : List (DcNode Dc)) :
    (dc_node.update_resources node vm_set rows).dc = dc_node.dc := by
  rw [update_resources_eq]
  split <;> rfl

@[simp] theorem update_resources_strategy (dc_node : DcNode Dc) (node : Node Zpool)
    (vm_set : List (Vm Dc NodeId Zpool)) (rows : List (DcNode Dc)) :
    (dc_node.update_resources node vm_set rows).strategy = dc_node.strategy := by
  rw [update_resources_eq]
  split <;> rfl

/-- A reserved total is set by the user alone. -/
theorem update_resources_total (dc_node : DcNode Dc) (node : Node Zpool)
    (vm_set : List (Vm Dc NodeId Zpool)) (rows : List (DcNode Dc)) (hshared : dc_node.strategy ≠ .SHARED) :
    (dc_node.update_resources node vm_set rows).total = dc_node.total := by
  rw [update_resources_eq]
  cases hstrategy : dc_node.strategy with
  | SHARED => exact absurd hstrategy hshared
  | RESERVED => rfl
  | SHARED_LIMIT => rfl

/-- The part of the table that the rows read of each other. -/
def reservations (rows : List (DcNode Dc)) : List (Dc × (Resource → ℤ)) :=
  (reserved rows).map fun row => (row.dc, row.total)

omit [DecidableEq Dc] in
theorem reservations_append (rows₁ rows₂ : List (DcNode Dc)) :
    reservations (rows₁ ++ rows₂) = reservations rows₁ ++ reservations rows₂ := by
  simp [reservations, reserved]

theorem update_resources_congr (dc_node : DcNode Dc) (node : Node Zpool)
    (vm_set : List (Vm Dc NodeId Zpool)) {rows₁ rows₂ : List (DcNode Dc)}
    (hrows : reservations rows₁ = reservations rows₂) :
    dc_node.update_resources node vm_set rows₁ = dc_node.update_resources node vm_set rows₂ := by
  have htotals : ∀ r, (reserved rows₁).map (fun row => row.total r) =
      (reserved rows₂).map fun row => row.total r := by
    intro r
    have h := congrArg (List.map fun entry => entry.2 r) hrows
    rw [reservations, reservations, List.map_map, List.map_map] at h
    exact h
  have hdcs : (reserved rows₁).map DcNode.dc = (reserved rows₂).map DcNode.dc := by
    have h := congrArg (List.map Prod.fst) hrows
    rw [reservations, reservations, List.map_map, List.map_map] at h
    exact h
  have htotal : pool_total node rows₁ = pool_total node rows₂ := by
    funext r
    simp only [pool_total, htotals]
  have hpool : pool_free node vm_set rows₁ = pool_free node vm_set rows₂ := by
    funext r
    simp only [pool_free, htotal, hdcs]
  rw [update_resources_eq, update_resources_eq, htotal, hpool]

theorem reservations_update_resources (dc_node : DcNode Dc) (node : Node Zpool)
    (vm_set : List (Vm Dc NodeId Zpool)) (rows : List (DcNode Dc)) :
    reservations [dc_node.update_resources node vm_set rows] = reservations [dc_node] := by
  by_cases hreserved : dc_node.strategy = .RESERVED
  · have htotal := update_resources_total dc_node node vm_set rows (by simp [hreserved])
    simp [reservations, reserved, hreserved, htotal]
  · simp [reservations, reserved, hreserved]

theorem update_rows_eq (node : Node Zpool) (vm_set : List (Vm Dc NodeId Zpool))
    {table : List (DcNode Dc)} (todo done : List (DcNode Dc))
    (htable : reservations (done ++ todo) = reservations table) :
    update_rows node vm_set done todo =
      if ∀ row ∈ todo, ∀ r, 0 ≤ (row.update_resources node vm_set table).total r then
        some (done ++ todo.map fun row => row.update_resources node vm_set table)
      else none := by
  induction todo generalizing done with
  | nil => simp [update_rows]
  | cons row todo ih =>
    have hrow : row.update_resources node vm_set (done ++ row :: todo) =
        row.update_resources node vm_set table := update_resources_congr row node vm_set htable
    rw [update_rows, save, hrow]
    by_cases hsaved : ∀ r, 0 ≤ (row.update_resources node vm_set table).total r
    · have hnext : reservations (done ++ [row.update_resources node vm_set table] ++ todo) =
          reservations table := by
        rw [← htable, List.append_assoc, reservations_append, reservations_append [_],
          reservations_update_resources, ← reservations_append [_], ← reservations_append]
        rfl
      simp [hsaved, ih _ hnext]
    · simp [hsaved]

/-- The rows are updated as if all at once. -/
theorem update_all_eq_some {node : Node Zpool} {vm_set : List (Vm Dc NodeId Zpool)}
    {rows rows' : List (DcNode Dc)} :
    update_all node vm_set rows = some rows' ↔
      (∀ row ∈ rows, ∀ r, 0 ≤ (row.update_resources node vm_set rows).total r) ∧
        rows.map (fun row => row.update_resources node vm_set rows) = rows' := by
  rw [update_all, update_rows_eq node vm_set rows [] rfl, List.nil_append]
  split <;> simp_all

end DcNode

end vms.accounting
