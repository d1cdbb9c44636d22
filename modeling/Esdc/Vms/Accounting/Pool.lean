import Mathlib
import Esdc.Vms.Accounting.Free

namespace vms.accounting

variable {Dc NodeId Zpool : Type} [DecidableEq Dc] [DecidableEq Zpool]

omit [DecidableEq Dc] in
/-- The VMs of one DC and the others. -/
theorem Node.used_filter (node : Node Zpool) (vms : List (Vm Dc NodeId Zpool)) (p : Vm Dc NodeId Zpool → Bool)
    (r : Resource) : node.used (vms.filter p) r + node.used (vms.filter fun vm => !p vm) r = node.used vms r := by
  induction vms with
  | nil => simp [Node.used]
  | cons vm vms ih =>
    simp only [Node.used] at ih ⊢
    cases hp : p vm
    · simp only [List.filter_cons, hp, Bool.not_false, if_true, Bool.false_eq_true, if_false, List.map_cons,
        List.sum_cons]
      omega
    · simp only [List.filter_cons, hp, Bool.not_true, if_true, Bool.false_eq_true, if_false, List.map_cons,
        List.sum_cons]
      omega

/-- The VMs outside of some DCs are those of one more DC and those outside of it as well. -/
theorem Node.used_filter_dc (node : Node Zpool) (vms : List (Vm Dc NodeId Zpool)) {dc : Dc} {dcs : List Dc}
    (hdc : dc ∉ dcs) (r : Resource) :
    node.used (vms.filter fun vm => vm.dc = dc) r + node.used (vms.filter fun vm => vm.dc ∉ dc :: dcs) r =
      node.used (vms.filter fun vm => vm.dc ∉ dcs) r := by
  have hown : (vms.filter fun vm => vm.dc ∉ dcs).filter (fun vm => vm.dc = dc) =
      vms.filter fun vm => vm.dc = dc := by
    rw [List.filter_filter]
    apply List.filter_congr
    intro vm _
    by_cases heq : vm.dc = dc
    · simp [heq, hdc]
    · simp [heq]
  have hrest : (vms.filter fun vm => vm.dc ∉ dcs).filter (fun vm => !decide (vm.dc = dc)) =
      vms.filter fun vm => vm.dc ∉ dc :: dcs := by
    rw [List.filter_filter]
    apply List.filter_congr
    intro vm _
    simp
  rw [← node.used_filter (vms.filter fun vm => vm.dc ∉ dcs) (fun vm => vm.dc = dc), hown, hrest]

namespace DcNode

/-- The rows are read as a set. -/
theorem pool_perm (node : Node Zpool) (vm_set : List (Vm Dc NodeId Zpool)) {rows rows' : List (DcNode Dc)}
    (hperm : rows.Perm rows') :
    pool_total node rows = pool_total node rows' ∧ pool_free node vm_set rows = pool_free node vm_set rows' := by
  have hreserved : (reserved rows).Perm (reserved rows') := hperm.filter _
  have htotal : pool_total node rows = pool_total node rows' := by
    funext r
    rw [pool_total, pool_total, (hreserved.map _).sum_eq]
  have hmem : ∀ dc, dc ∉ (reserved rows).map DcNode.dc ↔ dc ∉ (reserved rows').map DcNode.dc := by
    intro dc
    rw [(hreserved.map DcNode.dc).mem_iff]
  refine ⟨htotal, ?_⟩
  funext r
  simp only [pool_free, htotal, hmem]

theorem update_resources_perm (dc_node : DcNode Dc) (node : Node Zpool) (vm_set : List (Vm Dc NodeId Zpool))
    {rows rows' : List (DcNode Dc)} (hperm : rows.Perm rows') :
    dc_node.update_resources node vm_set rows = dc_node.update_resources node vm_set rows' := by
  obtain ⟨htotal, hfree⟩ := pool_perm node vm_set hperm
  rw [update_resources_eq, update_resources_eq, htotal, hfree]

/-- Whatever the order of the rows, `update_all` leaves the same values in them. -/
theorem update_all_perm {node : Node Zpool} {vm_set : List (Vm Dc NodeId Zpool)}
    {rows rows' order : List (DcNode Dc)} (hrows : update_all node vm_set rows = some rows')
    (hperm : order.Perm rows) :
    ∃ order', update_all node vm_set order = some order' ∧ order'.Perm rows' := by
  obtain ⟨hpositive, rfl⟩ := update_all_eq_some.mp hrows
  refine ⟨_, update_all_eq_some.mpr ⟨fun row hrow r => ?_, rfl⟩, ?_⟩
  · rw [row.update_resources_perm node vm_set hperm]
    exact hpositive row (hperm.mem_iff.mp hrow) r
  · simp only [fun row : DcNode Dc => row.update_resources_perm node vm_set hperm]
    exact hperm.map _

theorem reservations_update_all (node : Node Zpool) (vm_set : List (Vm Dc NodeId Zpool))
    (rows table : List (DcNode Dc)) :
    reservations (rows.map fun row => row.update_resources node vm_set table) = reservations rows := by
  induction rows with
  | nil => rfl
  | cons row rows ih =>
    have hsplit : ∀ (row : DcNode Dc) rows, reservations (row :: rows) = reservations [row] ++ reservations rows :=
      fun row rows => reservations_append [row] rows
    rw [List.map_cons, hsplit, hsplit row, ih, reservations_update_resources]

/-- An updated row stays as it is. -/
theorem update_resources_twice (dc_node : DcNode Dc) (node : Node Zpool) (vm_set : List (Vm Dc NodeId Zpool))
    {rows rows' : List (DcNode Dc)} (hrows : reservations rows' = reservations rows) :
    (dc_node.update_resources node vm_set rows).update_resources node vm_set rows' =
      dc_node.update_resources node vm_set rows := by
  rw [update_resources_congr _ node vm_set hrows, update_resources_eq dc_node]
  cases hstrategy : dc_node.strategy with
  | RESERVED =>
    rw [update_resources_eq]
    rfl
  | SHARED =>
    rw [update_resources_eq]
  | SHARED_LIMIT =>
    rw [update_resources_eq]
    rfl

/-- A second run changes nothing, and every row has the values of its strategy. -/
theorem update_all_twice {node : Node Zpool} {vm_set : List (Vm Dc NodeId Zpool)} {rows rows' : List (DcNode Dc)}
    (hrows : update_all node vm_set rows = some rows') :
    (∀ row ∈ rows', row.update_resources node vm_set rows' = row) ∧ update_all node vm_set rows' = some rows' := by
  obtain ⟨hpositive, rfl⟩ := update_all_eq_some.mp hrows
  have htwice : ∀ row ∈ rows.map fun row => row.update_resources node vm_set rows,
      row.update_resources node vm_set (rows.map fun row => row.update_resources node vm_set rows) = row := by
    intro row hrow
    obtain ⟨row, -, rfl⟩ := List.mem_map.mp hrow
    exact row.update_resources_twice node vm_set (reservations_update_all node vm_set rows rows)
  refine ⟨htwice, update_all_eq_some.mpr ⟨fun row hrow r => ?_, (List.map_congr_left htwice).trans (List.map_id' _)⟩⟩
  rw [htwice row hrow]
  obtain ⟨old_row, hold_row, rfl⟩ := List.mem_map.mp hrow
  exact hpositive old_row hold_row r

/-- What a row of another DC takes from the pool of the others. -/
theorem pool_free_cons (row : DcNode Dc) (node : Node Zpool) (vm_set : List (Vm Dc NodeId Zpool))
    {others : List (DcNode Dc)} (hothers : ∀ other ∈ others, other.dc ≠ row.dc) (r : Resource) :
    pool_free node vm_set (row :: others) r = pool_free node vm_set others r -
      if row.strategy = .RESERVED then row.own_free node vm_set r else 0 := by
  by_cases hstrategy : row.strategy = .RESERVED
  · have hreserved : reserved (row :: others) = row :: reserved others := by
      simp [reserved, hstrategy]
    have hdc : row.dc ∉ (reserved others).map DcNode.dc := by
      intro hmem
      obtain ⟨other, hother, heq⟩ := List.mem_map.mp hmem
      exact hothers other (List.mem_of_mem_filter hother) heq
    have hused := node.used_filter_dc vm_set hdc r
    rw [← List.map_cons] at hused
    rw [if_pos hstrategy, pool_free, pool_free, pool_total, pool_total, hreserved, own_free, List.map_cons,
      List.sum_cons]
    omega
  · have hreserved : reserved (row :: others) = reserved others := by
      simp [reserved, hstrategy]
    rw [if_neg hstrategy, pool_free, pool_free, pool_total, pool_total, hreserved, sub_zero]

end DcNode

end vms.accounting
