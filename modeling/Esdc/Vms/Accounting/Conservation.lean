import Mathlib
import Esdc.Vms.Accounting.Free

namespace vms.accounting

open DcNode
open binary64 (Number)

variable {Dc NodeId Zpool : Type} [DecidableEq Dc] [DecidableEq Zpool]

/-- For every resource the free amount of the node is the one that a shared row
reports and those of the reserved rows. -/
def Node.Conserved (node : Node Zpool) (rows : List (DcNode Dc)) : Prop :=
  ∀ shared ∈ rows, shared.strategy = .SHARED → ∀ r,
    node.free r = shared.free r + ((reserved rows).map fun row => row.free r).sum

/-- The number of times that the DC of the VM is reserved. -/
def reserved_for (rows : List (DcNode Dc)) (vm : Vm Dc NodeId Zpool) : ℕ :=
  (reserved rows).countP fun row => row.dc = vm.dc

/-- What is taken more than once. -/
def Node.overcount (node : Node Zpool) (vms : List (Vm Dc NodeId Zpool)) (rows : List (DcNode Dc))
    (r : Resource) : ℕ :=
  (vms.map fun vm => vm.get_cpu_ram_disk node.zpool true r * (reserved_for rows vm - 1)).sum

omit [DecidableEq Dc] in
theorem Node.used_cons (node : Node Zpool) (vm : Vm Dc NodeId Zpool) (vms : List (Vm Dc NodeId Zpool))
    (r : Resource) :
    node.used (vm :: vms) r = vm.get_cpu_ram_disk node.zpool true r + node.used vms r := by
  simp [Node.used]

/-- One VM in the filters of the reserved rows. -/
theorem Node.sum_used_cons (node : Node Zpool) (vm : Vm Dc NodeId Zpool)
    (vms : List (Vm Dc NodeId Zpool)) (table : List (DcNode Dc)) (r : Resource) :
    (table.map fun row => node.used ((vm :: vms).filter fun vm => vm.dc = row.dc) r).sum =
      vm.get_cpu_ram_disk node.zpool true r * (table.countP fun row => row.dc = vm.dc) +
        (table.map fun row => node.used (vms.filter fun vm => vm.dc = row.dc) r).sum := by
  induction table with
  | nil => simp
  | cons row table ih =>
    rw [List.map_cons, List.sum_cons, ih, List.map_cons, List.sum_cons, List.countP_cons]
    by_cases hdc : vm.dc = row.dc
    · simp only [List.filter_cons, hdc, decide_true, if_true, node.used_cons]
      ring
    · have hne : ¬ row.dc = vm.dc := fun h => hdc h.symm
      simp only [List.filter_cons, hdc, hne, decide_false, Bool.false_eq_true, if_false]
      ring

/-- The reserved rows and the shared pool together see every VM, and those of a
DC with several reserved rows several times. -/
theorem Node.used_eq (node : Node Zpool) (vms : List (Vm Dc NodeId Zpool)) (rows : List (DcNode Dc))
    (r : Resource) :
    ((reserved rows).map fun row => node.used (vms.filter fun vm => vm.dc = row.dc) r).sum +
        node.used (vms.filter fun vm => vm.dc ∉ (reserved rows).map DcNode.dc) r =
      node.used vms r + node.overcount vms rows r := by
  induction vms with
  | nil => simp [Node.used, Node.overcount]
  | cons vm vms ih =>
    have hover : node.overcount (vm :: vms) rows r =
        vm.get_cpu_ram_disk node.zpool true r * (reserved_for rows vm - 1) +
          node.overcount vms rows r := by
      simp [Node.overcount]
    rw [node.sum_used_cons, hover, node.used_cons]
    by_cases hdc : vm.dc ∈ (reserved rows).map DcNode.dc
    · obtain ⟨row, hrow, heq⟩ := List.mem_map.mp hdc
      have hpos : 0 < reserved_for rows vm := List.countP_pos_iff.mpr ⟨row, hrow, by simp [heq]⟩
      have hone : vm.get_cpu_ram_disk node.zpool true r * reserved_for rows vm =
          vm.get_cpu_ram_disk node.zpool true r +
            vm.get_cpu_ram_disk node.zpool true r * (reserved_for rows vm - 1) := by
        obtain ⟨n, hn⟩ := Nat.exists_eq_add_of_lt hpos
        rw [hn]
        simp only [Nat.zero_add, Nat.add_sub_cancel]
        ring
      have hfilter : (vm :: vms).filter (fun vm => vm.dc ∉ (reserved rows).map DcNode.dc) =
          vms.filter fun vm => vm.dc ∉ (reserved rows).map DcNode.dc := by
        simp only [List.filter_cons, hdc, not_true, decide_false, Bool.false_eq_true, if_false]
      rw [hfilter]
      unfold reserved_for at hone ⊢
      omega
    · have hzero : reserved_for rows vm = 0 := by
        apply List.countP_eq_zero.mpr
        intro row hrow heq
        exact hdc (List.mem_map.mpr ⟨row, hrow, of_decide_eq_true heq⟩)
      have hfilter : (vm :: vms).filter (fun vm => vm.dc ∉ (reserved rows).map DcNode.dc) =
          vm :: vms.filter fun vm => vm.dc ∉ (reserved rows).map DcNode.dc := by
        simp only [List.filter_cons, hdc, not_false_iff, decide_true, if_true]
      rw [hfilter, node.used_cons]
      unfold reserved_for at hzero ⊢
      rw [hzero]
      omega

theorem Node.overcount_eq_zero {node : Node Zpool} {vms : List (Vm Dc NodeId Zpool)}
    {rows : List (DcNode Dc)} {r : Resource} :
    node.overcount vms rows r = 0 ↔
      ∀ vm ∈ vms, vm.get_cpu_ram_disk node.zpool true r = 0 ∨ reserved_for rows vm ≤ 1 := by
  simp [Node.overcount, List.sum_eq_zero_iff, Nat.sub_eq_zero_iff_le]

theorem reserved_map_update_resources (node : Node Zpool) (vm_set : List (Vm Dc NodeId Zpool))
    (rows table : List (DcNode Dc)) :
    reserved (rows.map fun row => row.update_resources node vm_set table) =
      (reserved rows).map fun row => row.update_resources node vm_set table := by
  simp [reserved, List.filter_map, Function.comp_def]

/-- What the shared row and the reserved rows report together. -/
theorem sum_free_eq {node : Node Zpool} {vm_set : List (Vm Dc NodeId Zpool)} {rows : List (DcNode Dc)}
    {shared : DcNode Dc} (hshared : shared.strategy = .SHARED) (r : Resource) :
    (shared.update_resources node vm_set rows).free r +
        ((reserved (rows.map fun row => row.update_resources node vm_set rows)).map
          fun row => row.free r).sum =
      (node.resources r).to_int - node.used vm_set r - node.overcount vm_set rows r := by
  have hreserved : (reserved (rows.map fun row => row.update_resources node vm_set rows)).map
      (fun row => row.free r) = (reserved rows).map fun row => row.own_free node vm_set r := by
    rw [reserved_map_update_resources, List.map_map]
    apply List.map_congr_left
    intro row hrow
    have hstrategy : row.strategy = .RESERVED := of_decide_eq_true (List.mem_filter.mp hrow).2
    simp [update_resources_eq, hstrategy]
  have hown : ((reserved rows).map fun row => row.own_free node vm_set r).sum =
      ((reserved rows).map fun row => row.total r).sum -
        (((reserved rows).map fun row =>
          node.used (vm_set.filter fun vm => vm.dc = row.dc) r).sum : ℕ) := by
    induction reserved rows with
    | nil => simp
    | cons row table ih =>
      rw [List.map_cons, List.sum_cons, List.map_cons, List.sum_cons, List.map_cons, List.sum_cons, ih,
        own_free]
      omega
  have hpool : (shared.update_resources node vm_set rows).free r = pool_free node vm_set rows r := by
    simp [update_resources_eq, hshared]
  have hused := node.used_eq vm_set rows r
  rw [hreserved, hown, hpool, pool_free, pool_total]
  omega

/-- What the VMs of a list take one after the other. -/
def Node.amounts (node : Node Zpool) (vms : List (Vm Dc NodeId Zpool)) (r : Resource) : List ℕ :=
  vms.map fun vm => vm.get_cpu_ram_disk node.zpool true r

/-- What the coefficient gives of a resource is whole, or the VMs fit in it, or they take so much more that its
fraction does not fit into a double any longer. -/
def Node.Exact (node : Node Zpool) (vm_set : List (Vm Dc NodeId Zpool)) (r : Resource) : Prop :=
  let amount := (node.resources r).value
  ((node.resources r).to_int : ℚ) = amount ∨ (node.used vm_set r : ℚ) ≤ amount ∨
    binary64.loses_fraction amount (node.amounts vm_set r)

/-- A VM of a DC with several reserved rows takes nothing, and the VMs of the
node fit in what the coefficients give it, unless that is a whole number. -/
def Node.CountedOnce (node : Node Zpool) (vm_set : List (Vm Dc NodeId Zpool)) (rows : List (DcNode Dc)) :
    Prop :=
  (∃ row ∈ rows, row.strategy = .SHARED) → ∀ r, node.Exact vm_set r ∧
    ∀ vm ∈ vm_set, vm.get_cpu_ram_disk node.zpool true r = 0 ∨ reserved_for rows vm ≤ 1

/-- The whole numbers of CPUs and of megabytes fit into a double. -/
def Node.Digits (node : Node Zpool) (vm_set : List (Vm Dc NodeId Zpool)) : Prop :=
  ∀ r ≠ .disk, (node.resources r).value + node.used vm_set r < 2 ^ 53 - 1

omit [DecidableEq Dc] in
theorem Node.trunc_left_float {node : Node Zpool} {vm_set : List (Vm Dc NodeId Zpool)} {r : Resource} {n : ℕ}
    {coef : ℚ} (hcoef : 0 ≤ coef) (hr : node.resources r = .float (binary64.product n coef))
    (hbits : (node.resources r).value + node.used vm_set r < 2 ^ 53 - 1) :
    (node.resources r).to_int - node.used vm_set r ≤ (node.left vm_set (node.resources r) r).to_int ∧
      ((node.left vm_set (node.resources r) r).to_int = (node.resources r).to_int - node.used vm_set r ↔
        node.Exact vm_set r) := by
  unfold Node.Exact
  rw [left, hr, Number.subs_float] at *
  exact binary64.trunc_subs (binary64.representable_round _) (binary64.product_nonneg n hcoef) hbits

omit [DecidableEq Dc] in
theorem Node.trunc_left {node : Node Zpool} {vm_set : List (Vm Dc NodeId Zpool)} (hcpu : 0 ≤ node.cpu_coef)
    (hram : 0 ≤ node.ram_coef) (hdigits : node.Digits vm_set) (r : Resource) :
    (node.resources r).to_int - node.used vm_set r ≤ (node.left vm_set (node.resources r) r).to_int ∧
      ((node.left vm_set (node.resources r) r).to_int = (node.resources r).to_int - node.used vm_set r ↔
        node.Exact vm_set r) := by
  cases r with
  | cpu => exact Node.trunc_left_float hcpu rfl (hdigits .cpu nofun)
  | ram => exact Node.trunc_left_float hram rfl (hdigits .ram nofun)
  | disk =>
    obtain ⟨z, hz⟩ : ∃ z, node.resources .disk = .int z := by
      unfold Node.resources
      cases node._ns with
      | some ns => exact ⟨_, rfl⟩
      | none => exact ⟨_, rfl⟩
    unfold Node.Exact
    rw [left, hz, Number.subs_int]
    exact ⟨le_rfl, iff_of_true rfl (.inl rfl)⟩

/-- After both updates the amounts agree exactly when every VM is counted once:
the node rounds what its VMs leave, the rows round what the VMs take it from. -/
theorem conserved_iff {node : Node Zpool} {vm_set : List (Vm Dc NodeId Zpool)}
    {rows rows' : List (DcNode Dc)} (hcpu : 0 ≤ node.cpu_coef) (hram : 0 ≤ node.ram_coef)
    (hdigits : node.Digits vm_set)
    (hrows : DcNode.update_all (node.update_resources vm_set) vm_set rows = some rows') :
    (node.update_resources vm_set).Conserved rows' ↔ node.CountedOnce vm_set rows := by
  have hnode : ∀ row : DcNode Dc, row.update_resources (node.update_resources vm_set) vm_set rows =
      row.update_resources node vm_set rows := by
    intro row
    have hused : ∀ vms : List (Vm Dc NodeId Zpool),
        (node.update_resources vm_set).used vms = node.used vms := by
      intro vms
      funext r
      simp [Node.used]
    have htotal : pool_total (node.update_resources vm_set) rows = pool_total node rows := by
      funext r
      simp [pool_total]
    have hpool : pool_free (node.update_resources vm_set) vm_set rows = pool_free node vm_set rows := by
      funext r
      simp only [pool_free, htotal, hused]
    have hown : row.own_free (node.update_resources vm_set) vm_set = row.own_free node vm_set := by
      funext r
      simp only [own_free, hused]
    rw [update_resources_eq, update_resources_eq, htotal, hpool, hown]
  obtain ⟨-, hrows⟩ := update_all_eq_some.mp hrows
  simp only [hnode] at hrows
  subst hrows
  have hamounts : ∀ r, (node.update_resources vm_set).free r =
        (node.resources r).to_int - node.used vm_set r - node.overcount vm_set rows r ↔
      node.Exact vm_set r ∧ ∀ vm ∈ vm_set, vm.get_cpu_ram_disk node.zpool true r = 0 ∨ reserved_for rows vm ≤ 1 := by
    intro r
    obtain ⟨hle, hiff⟩ := Node.trunc_left hcpu hram hdigits r
    rw [node.update_resources_free, ← hiff, ← Node.overcount_eq_zero]
    omega
  constructor
  · rintro hconserved ⟨shared, hmem, hshared⟩ r
    have hmem' := List.mem_map_of_mem (f := fun row => row.update_resources node vm_set rows) hmem
    have heq := hconserved _ hmem' (by simp [hshared]) r
    rw [sum_free_eq hshared] at heq
    exact (hamounts r).mp heq
  · intro hcounted shared' hmem' hshared' r
    obtain ⟨shared, hmem, rfl⟩ := List.mem_map.mp hmem'
    have hshared : shared.strategy = .SHARED := by simpa using hshared'
    rw [sum_free_eq hshared]
    exact (hamounts r).mpr (hcounted ⟨shared, hmem, hshared⟩ r)

/-- A node of five cores, half of each for the VMs. -/
def halved_node : Node Unit where
  cpu := 5
  ram := 4096
  cpu_coef := 1 / 2
  ram_coef := 1
  zpool := some ()
  _ns := some ⟨(), ⟨40960, 1, 0⟩, 0, 0, 1024⟩
  _storage := ⟨40960, 1, 0⟩
  cpu_free := 0
  ram_free := 0

/-- A running zone with a quota of ten GiB. -/
def running_zone (dc : Bool) (vcpus : ℕ) : Vm Bool Unit Unit :=
  let json : Json Unit := ⟨calculate_cpu_cap_from_vcpus vcpus, 0, 1024, (), 10, false, false, []⟩
  ⟨dc, some (), false, .RUNNING, none, json, json⟩

/-- Two CPUs of two and a half are taken, one by the VM of a reserved DC. -/
theorem conserved_of_fitting_zones :
    ∃ rows', DcNode.update_all (halved_node.update_resources [running_zone true 1, running_zone false 1])
        [running_zone true 1, running_zone false 1]
        [⟨true, .SHARED, 0, 0⟩, ⟨false, .RESERVED, fun _ => 1, 0⟩] = some rows' ∧
      (halved_node.update_resources [running_zone true 1, running_zone false 1]).Conserved rows' := by
  have hsome : (DcNode.update_all
      (halved_node.update_resources [running_zone true 1, running_zone false 1])
      [running_zone true 1, running_zone false 1]
      [⟨true, .SHARED, 0, 0⟩, ⟨false, .RESERVED, fun _ => 1, 0⟩]).isSome := by
    decide +kernel
  obtain ⟨rows', hrows⟩ := Option.isSome_iff_exists.mp hsome
  have hdigits : halved_node.Digits [running_zone true 1, running_zone false 1] := by
    intro r hr
    cases r with
    | cpu => decide +kernel
    | ram => decide +kernel
    | disk => exact absurd rfl hr
  have hcpu : 0 ≤ halved_node.cpu_coef := by norm_num [halved_node]
  have hram : 0 ≤ halved_node.ram_coef := by norm_num [halved_node]
  refine ⟨rows', hrows, (conserved_iff hcpu hram hdigits hrows).mpr ?_⟩
  rintro - r
  refine ⟨.inr (.inl ?_), ?_⟩
  · cases r <;> decide +kernel
  · cases r <;> decide +kernel

/-- A VM with three CPUs of two and a half: half a CPU too many is rounded to
none on the node, and to a whole one in the row. -/
theorem not_conserved_of_half_cpu :
    ¬ ∀ (node : Node Unit) (vm_set : List (Vm Bool Unit Unit)) (rows rows' : List (DcNode Bool)),
      0 ≤ node.cpu_coef → 0 ≤ node.ram_coef →
      DcNode.update_all (node.update_resources vm_set) vm_set rows = some rows' →
      (node.update_resources vm_set).Conserved rows' := by
  intro hclaim
  have hsome : (DcNode.update_all (halved_node.update_resources [running_zone true 3])
      [running_zone true 3] [⟨true, .SHARED, 0, 0⟩]).any (fun rows' => ∃ shared ∈ rows',
        shared.strategy = .SHARED ∧
          (halved_node.update_resources [running_zone true 3]).free .cpu ≠
            shared.free .cpu + ((reserved rows').map fun row => row.free .cpu).sum) = true := by
    decide +kernel
  obtain ⟨rows', hrows, hany⟩ := (Option.any_eq_true _ _).mp hsome
  obtain ⟨shared, hmem, hshared, hne⟩ := of_decide_eq_true hany
  have hconserved := hclaim halved_node [running_zone true 3] _ rows' (by norm_num [halved_node])
    (by norm_num [halved_node]) hrows
  exact hne (hconserved shared hmem hshared .cpu)

end vms.accounting
