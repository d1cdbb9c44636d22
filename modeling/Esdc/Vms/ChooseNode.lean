import Mathlib
import Esdc.Lib.OrderBy
import Esdc.Vms.Accounting.Vm

namespace vms.selection

open accounting (Json Disk)
open order_by

inductive HVMType
  | Hypervisor_KVM
  | Hypervisor_BHYVE
  | Hypervisor_NONE
  deriving DecidableEq

def HVMType.HVM : List HVMType := [.Hypervisor_KVM, .Hypervisor_BHYVE]

/-- The accounting of a VM looks at `hvm` only. -/
structure Vm (Dc NodeId : Type) extends accounting.Vm Dc NodeId String where
  hvm_type : HVMType
  is_hvm : hvm = decide (hvm_type ∈ HVMType.HVM)

/-- The method takes its object when it is called, which `()` stands for. -/
def Vm.is_bhyve {Dc NodeId : Type} (vm : Vm Dc NodeId) (_call : Unit) : Bool :=
  vm.hvm_type = .Hypervisor_BHYVE

/-- The truth value of a method that is not called. -/
def truth {α : Type} (_method : Unit → α) : Bool := true

/-- A value of the system information, as the JSON has it. -/
inductive Value
  | bool (value : Bool)
  | text (value : String)
  deriving DecidableEq

/-- The builtin of that name. -/
def Value.to_bool : Value → Bool
  | .bool value => value
  | .text value => value ≠ ""

inductive NodeStatus
  | OFFLINE
  | ONLINE
  | UNREACHABLE
  | UNLICENSED
  deriving DecidableEq

/-- The last two fields are items of `_sysinfo`. -/
structure Node where
  status : NodeStatus
  is_compute : Bool
  bhyve_capable_item : Option Value
  bhyve_max_vcpus_item : Option ℤ
  deriving DecidableEq

def Node.ZPOOL : String := "zones"

def Node.bhyve_capable (node : Node) : Bool := (node.bhyve_capable_item.getD (.text "false")).to_bool

/-- The default is as good as unlimited. -/
def Node.bhyve_max_vcpus (node : Node) : ℤ := node.bhyve_max_vcpus_item.getD 1000

structure DcNode (Dc NodeId : Type) where
  dc : Dc
  node : NodeId
  priority : ℕ
  cpu_free : ℤ
  ram_free : ℤ
  disk_free : ℤ
  deriving DecidableEq

/-- `size_free` is that of the storage. -/
structure NodeStorage (Dc NodeId : Type) where
  node : NodeId
  zpool : String
  size_free : ℤ
  dc : List Dc

/-- The view of a node attaches it to a datacenter once. -/
structure Db (Dc NodeId : Type) where
  nodes : NodeId → Node
  dc_nodes : List (DcNode Dc NodeId)
  node_storages : List (NodeStorage Dc NodeId)
  unique : (dc_nodes.map fun row => (row.dc, row.node)).Nodup

/-- `order_by('-priority', 'cpu_free', 'ram_free', 'disk_free')`. -/
def DcNode.order {Dc NodeId : Type} (row row' : DcNode Dc NodeId) : Prop :=
  row'.priority < row.priority ∨ row.priority = row'.priority ∧ (row.cpu_free < row'.cpu_free ∨
    row.cpu_free = row'.cpu_free ∧ (row.ram_free < row'.ram_free ∨
      row.ram_free = row'.ram_free ∧ row.disk_free ≤ row'.disk_free))

section order

variable {Dc NodeId : Type}

instance : DecidableRel (α := DcNode Dc NodeId) DcNode.order := fun row row' => by
  unfold DcNode.order
  infer_instance

instance : Std.Total (α := DcNode Dc NodeId) DcNode.order where
  total row row' := by
    unfold DcNode.order
    omega

instance : IsTrans (DcNode Dc NodeId) DcNode.order where
  trans row row' row'' := by
    unfold DcNode.order
    omega

end order

section query

variable {Dc NodeId : Type} [DecidableEq Dc] [DecidableEq NodeId]

/-- The nodes with a storage of the datacenter that satisfies one of the conditions. -/
def storage_nodes (db : Db Dc NodeId) (dc : Dc) (vm_disk : List (String × ℕ)) : List NodeId :=
  let storages := db.node_storages.filter fun ns => dc ∈ ns.dc && ns.zpool ∈ vm_disk.map Prod.fst
  let storages := storages.filter fun ns => vm_disk.any fun disk => ns.zpool = disk.1 && ((disk.2 : ℕ) : ℤ) ≤ ns.size_free
  storages.map NodeStorage.node

/-- The conditions of the two filters of the `DcNode` rows. -/
def resources (db : Db Dc NodeId) (dc : Dc) (vm : Vm Dc NodeId) (row : DcNode Dc NodeId) : Bool :=
  let (vm_cpu, vm_ram) := vm.get_cpu_ram true
  let vm_disk := vm.get_disks vm.json none
  row.dc = dc && (db.nodes row.node).status = .ONLINE && (db.nodes row.node).is_compute &&
    vm_cpu ≤ row.cpu_free && vm_ram ≤ row.ram_free &&
    (vm_disk.isEmpty || (row.node ∈ storage_nodes db dc vm_disk &&
      (vm_disk.lookup Node.ZPOOL).all fun size => (size : ℤ) ≤ row.disk_free))

/-- The condition of the `continue`. -/
def skipped (db : Db Dc NodeId) (vm : Vm Dc NodeId) (row : DcNode Dc NodeId) : Bool :=
  let node_candidate := db.nodes row.node
  !node_candidate.bhyve_capable || node_candidate.bhyve_max_vcpus < (vm.get_cpu_ram true).1

/-- An `IndexError` of the last branch is answered with `None`. -/
def DcNode.choose_node (db : Db Dc NodeId) (dc : Dc) (vm : Vm Dc NodeId) : Option NodeId :=
  let dc_nodes := (db.dc_nodes.filter (resources db dc vm)).insertionSort DcNode.order
  if truth vm.is_bhyve then
    dc_nodes.foldl (fun dc_node row => if skipped db vm row then dc_node else some row.node) none
  else dc_nodes.head?.map DcNode.node

/-- What the code lets through, whatever the hypervisor. -/
def passes (db : Db Dc NodeId) (dc : Dc) (vm : Vm Dc NodeId) (row : DcNode Dc NodeId) : Bool :=
  resources db dc vm row && !skipped db vm row

end query

section purpose

variable {Dc NodeId : Type} [DecidableEq Dc] [DecidableEq NodeId]

/-- The flag, however the JSON has it. -/
def Node.Capable (node : Node) : Prop :=
  node.bhyve_capable_item = some (.bool true) ∨ node.bhyve_capable_item = some (.text "true")

/-- A node of the datacenter that can take the VM. -/
structure Eligible (db : Db Dc NodeId) (dc : Dc) (vm : Vm Dc NodeId) (row : DcNode Dc NodeId) : Prop where
  mem : row ∈ db.dc_nodes
  row_dc : row.dc = dc
  online : (db.nodes row.node).status = .ONLINE
  compute : (db.nodes row.node).is_compute
  cpu : (vm.get_cpu_ram true).1 ≤ row.cpu_free
  ram : (vm.get_cpu_ram true).2 ≤ row.ram_free
  storage : ∀ zpool size, (zpool, size) ∈ vm.get_disks vm.json none →
    ∃ ns ∈ db.node_storages, ns.node = row.node ∧ ns.zpool = zpool ∧ dc ∈ ns.dc ∧ (size : ℤ) ≤ ns.size_free
  disk : ∀ size, (Node.ZPOOL, size) ∈ vm.get_disks vm.json none → (size : ℤ) ≤ row.disk_free
  bhyve : vm.is_bhyve () → (db.nodes row.node).Capable ∧ (vm.get_cpu_ram true).1 ≤ (db.nodes row.node).bhyve_max_vcpus

/-- The selection as it is meant. -/
structure Selects (db : Db Dc NodeId) (dc : Dc) (vm : Vm Dc NodeId) (found : Option NodeId) : Prop where
  isSome : found.isSome ↔ ∃ row, Eligible db dc vm row
  highest : ∀ node, found = some node → ∃ row, Eligible db dc vm row ∧ row.node = node ∧
    ∀ row', Eligible db dc vm row' → row'.priority ≤ row.priority

/-- What lets a row through whose node cannot take the VM. -/
inductive Lacks (db : Db Dc NodeId) (dc : Dc) (vm : Vm Dc NodeId) (row : DcNode Dc NodeId) : Prop
  | space (zpool : String) (size : ℕ) (hdisk : (zpool, size) ∈ vm.get_disks vm.json none)
      (hspace : ∀ ns ∈ db.node_storages, ns.node = row.node → ns.zpool = zpool → dc ∈ ns.dc → ns.size_free < size)
  | flag (hbhyve : vm.is_bhyve ()) (hcapable : ¬ (db.nodes row.node).Capable)

end purpose

section disks

variable {Zpool : Type} [DecidableEq Zpool]

theorem map_fst_add_size (zpool : Zpool) (size : ℕ) (dsk : List (Zpool × ℕ)) :
    (accounting.add_size zpool size dsk).map Prod.fst =
      if zpool ∈ dsk.map Prod.fst then dsk.map Prod.fst else dsk.map Prod.fst ++ [zpool] := by
  induction dsk with
  | nil => simp [accounting.add_size]
  | cons entry dsk ih =>
    obtain ⟨key, value⟩ := entry
    rw [accounting.add_size]
    by_cases hkey : key = zpool
    · simp [hkey]
    · rw [if_neg hkey, List.map_cons, ih]
      simp only [List.map_cons, List.mem_cons, Ne.symm hkey, false_or]
      split <;> rfl

theorem nodup_add_size {zpool : Zpool} {size : ℕ} {dsk : List (Zpool × ℕ)} (hnodup : (dsk.map Prod.fst).Nodup) :
    ((accounting.add_size zpool size dsk).map Prod.fst).Nodup := by
  rw [map_fst_add_size]
  split
  · exact hnodup
  · case isFalse hnew => exact List.Nodup.append hnodup (List.nodup_singleton zpool) (by simpa using hnew)

/-- A zpool has one entry, whatever the number of disks. -/
theorem nodup_get_disks {Dc NodeId : Type} (vm : accounting.Vm Dc NodeId Zpool) (json : Json Zpool)
    (zpool : Option Zpool) : ((vm.get_disks json zpool).map Prod.fst).Nodup := by
  have hfoldl : ∀ (disks : List (Disk Zpool)) (dsk : List (Zpool × ℕ)), (dsk.map Prod.fst).Nodup →
      ((disks.foldl (fun dsk i => accounting.add_size i.zpool i.size dsk) dsk).map Prod.fst).Nodup := by
    intro disks
    induction disks with
    | nil => exact fun _ hnodup => hnodup
    | cons i disks ih => exact fun dsk hnodup => ih _ (nodup_add_size hnodup)
  rw [accounting.Vm.get_disks]
  split
  · exact hfoldl _ [] List.nodup_nil
  · split
    · exact List.nodup_nil
    · exact List.nodup_singleton _

theorem lookup_get_disks {Dc NodeId : Type} {vm : accounting.Vm Dc NodeId Zpool} {json : Json Zpool}
    {key : Zpool} {size : ℕ} (hdisk : (key, size) ∈ vm.get_disks json none) :
    (vm.get_disks json none).lookup key = some size := by
  obtain ⟨before, after, heq⟩ := List.append_of_mem hdisk
  have hnodup := nodup_get_disks vm json none
  rw [List.lookup_eq_some_iff]
  refine ⟨before, after, heq, fun entry hmem => ?_⟩
  rw [heq, List.map_append, List.map_cons, List.nodup_append] at hnodup
  simpa using (hnodup.2.2 entry.1 (List.mem_map_of_mem hmem) key List.mem_cons_self).symm

end disks

section selection

variable {Dc NodeId : Type} [DecidableEq Dc] [DecidableEq NodeId] {db : Db Dc NodeId} {dc : Dc} {vm : Vm Dc NodeId}

/-- The branch of the other hypervisors is never taken. -/
theorem choose_node_eq : DcNode.choose_node db dc vm =
    ((((db.dc_nodes.filter (resources db dc vm)).insertionSort DcNode.order).filter
      fun row => !skipped db vm row).getLast?).map DcNode.node := by
  simp only [DcNode.choose_node, truth, if_true, foldl_keep_last, Option.or_none]

theorem choose_node_of_last {row : DcNode Dc NodeId} (hlast : LastOf DcNode.order (passes db dc vm) db.dc_nodes row) :
    DcNode.choose_node db dc vm = some row.node := by
  rw [choose_node_eq, getLast?_filter_insertionSort hlast]
  rfl

theorem choose_node_of_none (hnone : ∀ row ∈ db.dc_nodes, ¬ passes db dc vm row) :
    DcNode.choose_node db dc vm = none := by
  have hnil : (((db.dc_nodes.filter (resources db dc vm)).insertionSort DcNode.order).filter
      fun row => !skipped db vm row) = [] := by
    rw [List.filter_eq_nil_iff]
    intro row hmem hskipped
    obtain ⟨hmem, hresources⟩ := List.mem_filter.mp ((List.mem_insertionSort DcNode.order).mp hmem)
    exact hnone row hmem (by rw [passes, hresources, hskipped]; rfl)
  rw [choose_node_eq, hnil]
  rfl

/-- A node is returned whenever one passes, and it is the one that is last in the order. -/
theorem choose_node_cases (db : Db Dc NodeId) (dc : Dc) (vm : Vm Dc NodeId) :
    (∃ row, LastOf DcNode.order (passes db dc vm) db.dc_nodes row ∧ DcNode.choose_node db dc vm = some row.node) ∨
      ((∀ row ∈ db.dc_nodes, ¬ passes db dc vm row) ∧ DcNode.choose_node db dc vm = none) := by
  by_cases hsome : ∃ row ∈ db.dc_nodes, passes db dc vm row
  · obtain ⟨row, hlast⟩ : ∃ row, LastOf DcNode.order (passes db dc vm) db.dc_nodes row := exists_lastOf hsome
    exact Or.inl ⟨row, hlast, choose_node_of_last hlast⟩
  · have hnone : ∀ row ∈ db.dc_nodes, ¬ passes db dc vm row := fun row hmem hpasses => hsome ⟨row, hmem, hpasses⟩
    exact Or.inr ⟨hnone, choose_node_of_none hnone⟩

omit [DecidableEq Dc] [DecidableEq NodeId] in
theorem priority_le_of_order {row row' : DcNode Dc NodeId} (horder : DcNode.order row row') :
    row'.priority ≤ row.priority := by
  unfold DcNode.order at horder
  omega

/-- The returned node has the lowest priority of those that pass. -/
theorem choose_node_lowest {node : NodeId} (hfound : DcNode.choose_node db dc vm = some node) :
    ∃ row ∈ db.dc_nodes, row.node = node ∧ passes db dc vm row ∧
      ∀ row' ∈ db.dc_nodes, passes db dc vm row' → row.priority ≤ row'.priority := by
  rcases choose_node_cases db dc vm with ⟨row, hlast, hsome⟩ | ⟨_, hnone⟩
  · rw [hfound] at hsome
    refine ⟨row, hlast.mem, (Option.some.inj hsome).symm, hlast.holds, ?_⟩
    intro row' hmem hpasses
    exact priority_le_of_order (hlast.le_last row' hmem hpasses)
  · rw [hfound] at hnone
    cases hnone

end selection

section eligible

variable {Dc NodeId : Type} [DecidableEq Dc] [DecidableEq NodeId] {db : Db Dc NodeId} {dc : Dc} {vm : Vm Dc NodeId}
  {row : DcNode Dc NodeId}

theorem Node.Capable.bhyve_capable {node : Node} (hcapable : node.Capable) : node.bhyve_capable = true := by
  rcases hcapable with hitem | hitem <;> simp [Node.bhyve_capable, hitem, Value.to_bool]

omit [DecidableEq NodeId] in
/-- One zpool with enough space is enough for the filter. -/
theorem Eligible.mem_storage_nodes (heligible : Eligible db dc vm row) (hdisks : vm.get_disks vm.json none ≠ []) :
    row.node ∈ storage_nodes db dc (vm.get_disks vm.json none) := by
  obtain ⟨⟨zpool, size⟩, hdisk⟩ := List.exists_mem_of_ne_nil _ hdisks
  obtain ⟨ns, hmem, hnode, rfl, hdc, hsize⟩ := heligible.storage zpool size hdisk
  rw [selection.storage_nodes, List.mem_map]
  refine ⟨ns, ?_, hnode⟩
  rw [List.mem_filter, List.mem_filter]
  refine ⟨⟨hmem, ?_⟩, ?_⟩
  · rw [Bool.and_eq_true, decide_eq_true_eq, decide_eq_true_eq]
    exact ⟨hdc, List.mem_map_of_mem hdisk⟩
  · rw [List.any_eq_true]
    exact ⟨_, hdisk, by simpa using hsize⟩

theorem Eligible.passes_resources (heligible : Eligible db dc vm row) : resources db dc vm row := by
  simp only [selection.resources, Bool.and_eq_true, decide_eq_true_eq, Bool.or_eq_true, List.isEmpty_iff]
  refine ⟨⟨⟨⟨⟨heligible.row_dc, heligible.online⟩, heligible.compute⟩, heligible.cpu⟩, heligible.ram⟩, ?_⟩
  by_cases hdisks : vm.get_disks vm.json none = []
  · exact Or.inl hdisks
  · refine Or.inr ⟨heligible.mem_storage_nodes hdisks, ?_⟩
    cases hlookup : (vm.get_disks vm.json none).lookup Node.ZPOOL with
    | none => rfl
    | some size =>
      obtain ⟨before, after, heq, _⟩ := List.lookup_eq_some_iff.mp hlookup
      have hmem : (Node.ZPOOL, size) ∈ vm.get_disks vm.json none := by
        rw [heq]
        simp
      simpa using heligible.disk size hmem

/-- A node that can take a bhyve VM is not missed. -/
theorem Eligible.passes_of_bhyve (heligible : Eligible db dc vm row) (hbhyve : vm.is_bhyve ()) :
    passes db dc vm row := by
  obtain ⟨hcapable, hvcpus⟩ := heligible.bhyve hbhyve
  have hskipped : skipped db vm row = false := by
    simp only [skipped, hcapable.bhyve_capable, Bool.not_true, Bool.false_or, decide_eq_false_iff_not]
    omega
  rw [passes, heligible.passes_resources, hskipped]
  rfl

theorem choose_node_isSome_of_bhyve (hbhyve : vm.is_bhyve ()) (heligible : Eligible db dc vm row) :
    (DcNode.choose_node db dc vm).isSome := by
  rcases choose_node_cases db dc vm with ⟨last, _, hsome⟩ | ⟨hnone, _⟩
  · rw [hsome]
    rfl
  · exact absurd (heligible.passes_of_bhyve hbhyve) (hnone row heligible.mem)

omit [DecidableEq Dc] [DecidableEq NodeId] in
theorem Eligible.not_lacks (heligible : Eligible db dc vm row) : ¬ Lacks db dc vm row := by
  rintro (⟨zpool, size, hdisk, hspace⟩ | ⟨hbhyve, hcapable⟩)
  · obtain ⟨ns, hmem, hnode, hzpool, hdc, hsize⟩ := heligible.storage zpool size hdisk
    exact absurd hsize (not_le.mpr (hspace ns hmem hnode hzpool hdc))
  · exact hcapable (heligible.bhyve hbhyve).1

theorem eligible_of_passes (hmem : row ∈ db.dc_nodes) (hpasses : passes db dc vm row)
    (hlacks : ¬ Lacks db dc vm row) : Eligible db dc vm row := by
  obtain ⟨hresources, hskipped⟩ := Bool.and_eq_true_iff.mp hpasses
  simp only [selection.resources, Bool.and_eq_true, decide_eq_true_eq, Bool.or_eq_true, List.isEmpty_iff] at hresources
  obtain ⟨⟨⟨⟨⟨hdc, honline⟩, hcompute⟩, hcpu⟩, hram⟩, hdisks⟩ := hresources
  refine ⟨hmem, hdc, honline, hcompute, hcpu, hram, ?_, ?_, ?_⟩
  · intro zpool size hdisk
    by_contra hnone
    refine hlacks (.space zpool size hdisk fun ns hmem hnode hzpool hdc => ?_)
    by_contra hsize
    exact hnone ⟨ns, hmem, hnode, hzpool, hdc, not_lt.mp hsize⟩
  · intro size hdisk
    rcases hdisks with hnil | ⟨_, hsize⟩
    · rw [hnil] at hdisk
      cases hdisk
    · rw [lookup_get_disks hdisk] at hsize
      simpa using hsize
  · intro hbhyve
    constructor
    · by_contra hcapable
      exact hlacks (.flag hbhyve hcapable)
    · simp only [skipped, Bool.not_or, Bool.not_not, Bool.and_eq_true, Bool.not_eq_true', decide_eq_false_iff_not,
        not_lt] at hskipped
      exact hskipped.2

/-- A row is known by its node among those of a datacenter. -/
theorem Eligible.eq_of_node {row' : DcNode Dc NodeId} (heligible : Eligible db dc vm row) (hmem : row' ∈ db.dc_nodes)
    (hpasses : passes db dc vm row') (hnode : row.node = row'.node) : row = row' := by
  have hdc : row'.dc = dc := by
    simp only [passes, selection.resources, Bool.and_eq_true, decide_eq_true_eq] at hpasses
    exact hpasses.1.1.1.1.1.1
  exact List.inj_on_of_nodup_map db.unique heligible.mem hmem (Prod.ext (heligible.row_dc.trans hdc.symm) hnode)

end eligible

section two_nodes

/-- A new VM of the datacenter, with one disk on the zpool `zones`. -/
def kvm_vm : Vm ℕ ℕ where
  dc := 0
  node := none
  hvm := true
  status := .NOTCREATED
  slavevm := none
  json := ⟨100, 1024, 1280, "zones", 0, false, false, [⟨"zones", 10240⟩]⟩
  json_active := ⟨100, 1024, 1280, "zones", 0, false, false, []⟩
  hvm_type := .Hypervisor_KVM
  is_hvm := rfl

/-- Two nodes with room for the VM, the first one with the higher priority. -/
def two_nodes : Db ℕ ℕ where
  nodes := fun _ => ⟨.ONLINE, true, some (.bool true), some 32⟩
  dc_nodes := [⟨0, 1, 200, 8, 65536, 102400⟩, ⟨0, 2, 100, 8, 65536, 102400⟩]
  node_storages := [⟨1, "zones", 102400, [0]⟩, ⟨2, "zones", 102400, [0]⟩]
  unique := by decide

theorem two_nodes_first_eligible : Eligible two_nodes 0 kvm_vm ⟨0, 1, 200, 8, 65536, 102400⟩ where
  mem := by simp [two_nodes]
  row_dc := rfl
  online := rfl
  compute := rfl
  cpu := by decide
  ram := by decide
  storage := by
    intro zpool size hdisk
    have hdisks : kvm_vm.get_disks kvm_vm.json none = [("zones", 10240)] := by decide
    rw [hdisks, List.mem_singleton] at hdisk
    cases hdisk
    exact ⟨⟨1, "zones", 102400, [0]⟩, by simp [two_nodes], rfl, rfl, by simp, by norm_num⟩
  disk := by
    intro size hdisk
    have hdisks : kvm_vm.get_disks kvm_vm.json none = [("zones", 10240)] := by decide
    rw [hdisks, List.mem_singleton] at hdisk
    cases hdisk
    norm_num
  bhyve := by
    intro hbhyve
    cases hbhyve

end two_nodes

end vms.selection
