import Mathlib
import Esdc.Lib.Fallible
import Esdc.Lib.Text
import Esdc.Vms.Accounting.Pool
import Esdc.Vms.KnownSizes

namespace api.vm_define.revert

open vms.storage
open vms.models (Status)
open Fallible (bind_eq_ok)
open text (Text)

/-- The keys of a definition: those that the accounting reads, the names and the other ones. -/
structure Definition (Zpool R : Type) where
  accounted : vms.accounting.Json Zpool
  hostname : Option String
  vm_alias : Option String
  owner_uuid : Option Text
  template : Option String
  rest : R
  deriving DecidableEq

/-- A loaded VM; the owner is given by its id, the template by its name. -/
structure Vm (Dc NodeId Zpool R : Type) where
  hostname : String
  vm_alias : String
  owner : ℤ
  template : Option String
  dc : Dc
  node : Option NodeId
  hvm : Bool
  status : Status
  slavevm : Option Bool
  json : Definition Zpool R
  json_active : Definition Zpool R
  locked : Bool
  tasks : Bool
  tasks_rw : Bool

/-- What the accounting reads of a VM. -/
def Vm.accounted {Dc NodeId Zpool R : Type} (vm : Vm Dc NodeId Zpool R) : vms.accounting.Vm Dc NodeId Zpool where
  dc := vm.dc
  node := vm.node
  hvm := vm.hvm
  status := vm.status
  slavevm := vm.slavevm
  json := vm.json.accounted
  json_active := vm.json_active.accounted

inductive Error
  | VmIsLocked
  | VmIsNotOperational
  | VmHasPendingTasks
  | ExpectationFailed
  | ValueError
  deriving DecidableEq

/-- The users and templates that exist. -/
structure Directory where
  users : List ℤ
  templates : List String

variable {Dc NodeId Zpool R VmId : Type} [DecidableEq Dc] [DecidableEq NodeId] [DecidableEq Zpool] [DecidableEq R]
  [DecidableEq VmId]

/-- The VM of the request and the database it is saved in; the nodes are there for their free CPUs and RAM. -/
structure State (Dc NodeId Zpool R VmId : Type) [DecidableEq Dc] [DecidableEq NodeId] [DecidableEq Zpool]
    [DecidableEq VmId] (uuid : VmId) where
  vm : Vm Dc NodeId Zpool R
  storage : vms.storage.State Dc NodeId Zpool VmId
  node : NodeId → vms.accounting.Node Zpool
  hrow : storage.rows.vm_set.lookup uuid = some vm.accounted

section source

def VM_STATUS_OPERATIONAL : List Status := [.NOTCREATED, .RUNNING, .STOPPED, .STOPPING]

/-- The decorator of the view. -/
def is_vm_operational (vm : Vm Dc NodeId Zpool R) : Except Error Unit :=
  if vm.locked then .error .VmIsLocked
  else if vm.status ∉ VM_STATUS_OPERATIONAL then .error .VmIsNotOperational
  else if vm.tasks_rw then .error .VmHasPendingTasks
  else .ok ()

def revert_owner (directory : Directory) (json_active : Definition Zpool R) (owner : ℤ) : Except Error ℤ :=
  let owner_id := json_active.owner_uuid.getD (text.str owner)
  if owner_id ≠ text.str owner ∧ owner_id ≠ [] then
    match text.int text.isspace owner_id with
    | some id => .ok (if id ∈ directory.users then id else owner)
    | none => .error .ValueError
  else .ok owner

def revert_template (directory : Directory) (json_active : Definition Zpool R) (template : Option String) :
    Option String :=
  if json_active.template = template then template
  else
    match json_active.template.filter (· ≠ "") with
    | some name => if name ∈ directory.templates then some name else template
    | none => none

def revert_active (directory : Directory) (vm : Vm Dc NodeId Zpool R) : Except Error (Vm Dc NodeId Zpool R) :=
  (revert_owner directory vm.json_active vm.owner).map fun owner =>
    { vm with
      json := vm.json_active
      hostname := vm.json_active.hostname.getD vm.hostname
      vm_alias := vm.json_active.vm_alias.getD vm.vm_alias
      owner
      template := revert_template directory vm.json_active vm.template }

theorem lookup_save_vm (nodes : Nodes Dc NodeId Zpool) (uuid : VmId) (vm : vms.accounting.Vm Dc NodeId Zpool)
    (s : vms.storage.State Dc NodeId Zpool VmId) :
    (save_vm nodes uuid vm true none s).rows.vm_set.lookup uuid = some vm := by
  rw [(Refreshed.save_vm_true uuid vm true s).rows]
  exact AList.lookup_insert _

/-- `vm.save(update_node_resources=True, update_storage_resources=True)` -/
def save (nodes : Nodes Dc NodeId Zpool) {uuid : VmId} (vm : Vm Dc NodeId Zpool R)
    (s : State Dc NodeId Zpool R VmId uuid) : State Dc NodeId Zpool R VmId uuid where
  vm := vm
  storage := save_vm nodes uuid vm.accounted true none s.storage
  node := fun node =>
    if vm.node = some node then
      (s.node node).update_resources ((s.storage.rows.save_vm uuid vm.accounted).node_vm_set node)
    else s.node node
  hrow := lookup_save_vm nodes uuid vm.accounted s.storage

/-- `VmDefineRevertView.put` -/
def put (nodes : Nodes Dc NodeId Zpool) (directory : Directory) {uuid : VmId} (s : State Dc NodeId Zpool R VmId uuid) :
    Except Error (State Dc NodeId Zpool R VmId uuid) := do
  is_vm_operational s.vm
  if s.vm.status = .NOTCREATED then .error .VmIsNotOperational
  else if s.vm.json = s.vm.json_active then .error .ExpectationFailed
  else if s.vm.tasks then .error .VmHasPendingTasks
  else (revert_active directory s.vm).map fun vm => save nodes vm s

end source

section accounts

variable {nodes : Nodes Dc NodeId Zpool} {directory : Directory} {uuid : VmId}

/-- The storages of the node that the pending or the active definition uses. -/
def Used (nodes : Nodes Dc NodeId Zpool) (vm : Vm Dc NodeId Zpool R) (ns : NodeStorage NodeId Zpool) : Prop :=
  vm.node = some ns.node ∧ ns ∈ nodes.storages ∧
    (ns.zpool ∈ (vm.accounted.get_disks vm.json.accounted none).map Prod.fst ∨
      ns.zpool ∈ (vm.accounted.get_disks vm.json_active.accounted none).map Prod.fst)

/-- The definition is the active one, and the accounts are those of the reverted definitions. -/
structure Reverted (nodes : Nodes Dc NodeId Zpool) (before after : State Dc NodeId Zpool R VmId uuid) : Prop where
  json : after.vm.json = before.vm.json_active ∧ after.vm.json_active = before.vm.json_active
  hostname : ∀ hostname ∈ before.vm.json_active.hostname, after.vm.hostname = hostname
  vm_alias : ∀ vm_alias ∈ before.vm.json_active.vm_alias, after.vm.vm_alias = vm_alias
  node : ∀ node ∈ before.vm.node, ∀ r ≠ .disk, (after.node node).free r =
    ((before.node node).left (after.storage.rows.node_vm_set node) ((before.node node).resources r) r).to_int
  disk_free : ∀ node ∈ before.vm.node, ∀ zpool ∈ nodes.zpool node,
    after.storage.size_free ⟨node, zpool⟩ = recomputed nodes after.storage ⟨node, zpool⟩
  size_free : ∀ ns, Used nodes before.vm ns → after.storage.size_free ns = recomputed nodes after.storage ns

/-- What the accounting reads of the reverted VM. -/
def reverted (vm : Vm Dc NodeId Zpool R) : vms.accounting.Vm Dc NodeId Zpool :=
  { vm.accounted with json := vm.json_active.accounted }

/-- The storages that are updated: those of the active definition in the DC, and the default one of the node. -/
def Updated (nodes : Nodes Dc NodeId Zpool) (vm : Vm Dc NodeId Zpool R) (ns : NodeStorage NodeId Zpool) : Prop :=
  Saved nodes (reverted vm) ns

/-- What the pending definition takes from a zpool beyond the active one. -/
def released (vm : Vm Dc NodeId Zpool R) (ns : NodeStorage NodeId Zpool) : ℤ :=
  get_disk_size vm.accounted ns.zpool - get_disk_size (reverted vm) ns.zpool

variable {s s' : State Dc NodeId Zpool R VmId uuid}

theorem put_eq_ok (hput : put nodes directory s = .ok s') :
    ∃ vm, revert_active directory s.vm = .ok vm ∧ s' = save nodes vm s := by
  obtain ⟨_, -, hput⟩ := bind_eq_ok.mp hput
  split at hput
  · cases hput
  · split at hput
    · cases hput
    · split at hput
      · cases hput
      · cases hvm : revert_active directory s.vm with
        | error error =>
          rw [hvm] at hput
          cases hput
        | ok vm =>
          rw [hvm] at hput
          cases hput
          exact ⟨vm, rfl, rfl⟩

omit [DecidableEq Dc] [DecidableEq NodeId] [DecidableEq Zpool] [DecidableEq R] in
theorem revert_active_eq_ok {vm vm' : Vm Dc NodeId Zpool R} (hvm : revert_active directory vm = .ok vm') :
    vm'.accounted = reverted vm ∧ vm'.node = vm.node ∧ vm'.json = vm.json_active ∧ vm'.json_active = vm.json_active ∧
      vm'.hostname = vm.json_active.hostname.getD vm.hostname ∧
        vm'.vm_alias = vm.json_active.vm_alias.getD vm.vm_alias := by
  unfold revert_active at hvm
  cases howner : revert_owner directory vm.json_active vm.owner with
  | error error =>
    rw [howner] at hvm
    cases hvm
  | ok owner =>
    rw [howner] at hvm
    cases hvm
    exact ⟨rfl, rfl, rfl, rfl, rfl, rfl⟩

omit [DecidableEq R] in
/-- The save of the reverted VM does not change its node. -/
theorem orig_node_eq : s.storage.rows.orig_node uuid = (reverted s.vm).node := by
  rw [Rows.orig_node, s.hrow]
  rfl

omit [DecidableEq R] in
theorem save_storage {vm : Vm Dc NodeId Zpool R} (hvm : vm.accounted = reverted s.vm) :
    (save nodes vm s).storage = save_vm nodes uuid (reverted s.vm) true none s.storage := by
  rw [← hvm]
  rfl

omit [DecidableEq R] in
/-- A storage that is not updated keeps its free size, but should get back what is released. -/
theorem size_free_not_updated {vm : Vm Dc NodeId Zpool R} (hvm : vm.accounted = reverted s.vm)
    {ns : NodeStorage NodeId Zpool} (hused : Used nodes s.vm ns) (hupdated : ¬Updated nodes s.vm ns) :
    (save nodes vm s).storage.size_free ns = s.storage.size_free ns ∧
      recomputed nodes (save nodes vm s).storage ns = recomputed nodes s.storage ns + released s.vm ns := by
  rw [save_storage hvm]
  obtain ⟨hfree, hrecomputed⟩ := (save_vm_size_free orig_node_eq ns).2 hupdated
  refine ⟨hfree, hrecomputed.trans ?_⟩
  have hamount : ∀ vm : vms.accounting.Vm Dc NodeId Zpool, vm.node = s.vm.node →
      vm_amount ns none vm = get_disk_size vm ns.zpool := by
    intro vm hnode
    have hns : vm.node = some ns.node := hnode.trans hused.1
    rw [vm_amount, hns, decide_eq_true rfl]
    rfl
  rw [recomputed_save_vm s.hrow ns, hamount s.vm.accounted rfl, hamount (reverted s.vm) rfl, released]
  ring

omit [DecidableEq R] in
theorem reverted_save {vm : Vm Dc NodeId Zpool R} (hvm : revert_active directory s.vm = .ok vm)
    (hsize_free : ∀ ns, Used nodes s.vm ns →
      (save nodes vm s).storage.size_free ns = recomputed nodes (save nodes vm s).storage ns) :
    Reverted nodes s (save nodes vm s) := by
  obtain ⟨haccounted, hvm_node, hjson, hjson_active, hhostname, halias⟩ := revert_active_eq_ok hvm
  have hrows : (save nodes vm s).storage.rows = s.storage.rows.save_vm uuid vm.accounted :=
    (Refreshed.save_vm_true uuid vm.accounted true s.storage).rows
  constructor
  · exact ⟨hjson, hjson_active⟩
  · intro hostname hmem
    rw [Option.mem_def] at hmem
    exact hhostname.trans (congrArg (fun found : Option String => found.getD s.vm.hostname) hmem)
  · intro vm_alias hmem
    rw [Option.mem_def] at hmem
    exact halias.trans (congrArg (fun found : Option String => found.getD s.vm.vm_alias) hmem)
  · intro node hnode r _
    have hsaved : (save nodes vm s).node node =
        (s.node node).update_resources ((s.storage.rows.save_vm uuid vm.accounted).node_vm_set node) :=
      if_pos (hvm_node.trans hnode)
    rw [hsaved, hrows, vms.accounting.Node.update_resources_free]
  · intro node hnode zpool hzpool
    have hdefault : Updated nodes s.vm ⟨node, zpool⟩ := Or.inr ⟨hnode, hzpool⟩
    rw [save_storage haccounted]
    exact (save_vm_size_free orig_node_eq _).1 hdefault
  · exact hsize_free

/-- A revert restores the accounts exactly when every zpool that gets something back is one of the active definition,
or the default one of the node. -/
theorem reverted_iff_updated (hput : put nodes directory s = .ok s') :
    (Reverted nodes s s' ↔ ∀ ns, Used nodes s.vm ns → ¬Updated nodes s.vm ns →
        s.storage.size_free ns = recomputed nodes s.storage ns + released s.vm ns) ∧
      ((∀ ns, Used nodes s.vm ns → s.storage.size_free ns = recomputed nodes s.storage ns) →
        (Reverted nodes s s' ↔ ∀ ns, Used nodes s.vm ns → released s.vm ns ≠ 0 → Updated nodes s.vm ns)) := by
  obtain ⟨vm, hvm, rfl⟩ := put_eq_ok hput
  have haccounted := (revert_active_eq_ok hvm).1
  have hiff : Reverted nodes s (save nodes vm s) ↔
      ∀ ns, Used nodes s.vm ns → ¬Updated nodes s.vm ns →
        s.storage.size_free ns = recomputed nodes s.storage ns + released s.vm ns := by
    constructor
    · intro hreverted ns hused hupdated
      obtain ⟨hfree, hrecomputed⟩ := size_free_not_updated haccounted hused hupdated
      rw [← hfree, ← hrecomputed]
      exact hreverted.size_free ns hused
    · intro hcondition
      refine reverted_save hvm fun ns hused => ?_
      by_cases hupdated : Updated nodes s.vm ns
      · rw [save_storage haccounted]
        exact (save_vm_size_free orig_node_eq ns).1 hupdated
      · obtain ⟨hfree, hrecomputed⟩ := size_free_not_updated haccounted hused hupdated
        rw [hfree, hrecomputed]
        exact hcondition ns hused hupdated
  refine ⟨hiff, fun haccurate => hiff.trans ?_⟩
  constructor
  · intro hcondition ns hused hreleased
    by_contra hupdated
    have hfree := hcondition ns hused hupdated
    rw [haccurate ns hused] at hfree
    exact hreleased (by omega)
  · intro hcondition ns hused hupdated
    have hreleased : released s.vm ns = 0 := by
      by_contra hreleased
      exact hupdated (hcondition ns hused hreleased)
    rw [hreleased, add_zero]
    exact haccurate ns hused

end accounts

section two_pools

theorem nodup_two_pools : [(⟨0, 0⟩ : NodeStorage ℕ ℕ), ⟨0, 1⟩].Nodup := by decide

theorem mem_two_pools (node zpool : ℕ) (hzpool : (if node = 0 then some 0 else none) = some zpool) :
    (⟨node, zpool⟩ : NodeStorage ℕ ℕ) ∈ [(⟨0, 0⟩ : NodeStorage ℕ ℕ), ⟨0, 1⟩] := by
  by_cases hnode : node = 0
  · rw [if_pos hnode] at hzpool
    rw [hnode, ← Option.some.inj hzpool]
    exact List.mem_cons_self
  · rw [if_neg hnode] at hzpool
    cases hzpool

/-- A node with its default storage and another one. -/
def two_pools : Nodes ℕ ℕ ℕ where
  storages := [⟨0, 0⟩, ⟨0, 1⟩]
  nodup := nodup_two_pools
  dc := fun _ => [0]
  size := fun _ => 60000
  size_coef := fun _ => 1
  zpool := fun node => if node = 0 then some 0 else none
  zpool_mem := mem_two_pools
  shared := fun _ => false

def definition_of (disks : List (vms.accounting.Disk ℕ)) : Definition ℕ Unit where
  accounted := ⟨100, 1024, 1280, 0, 0, false, false, disks⟩
  hostname := some "vm.example"
  vm_alias := some "vm"
  owner_uuid := none
  template := none
  rest := ()

/-- A VM with a disk of 10240 MB on the default pool, and other disks in its pending definition. -/
def changed_vm (disks : List (vms.accounting.Disk ℕ)) : Vm ℕ ℕ ℕ Unit where
  hostname := "vm.example"
  vm_alias := "vm"
  owner := 1
  template := none
  dc := 0
  node := some 0
  hvm := true
  status := .RUNNING
  slavevm := none
  json := definition_of disks
  json_active := definition_of [⟨0, 10240⟩]
  locked := false
  tasks := false
  tasks_rw := false

def changed (disks : List (vms.accounting.Disk ℕ)) (size_free : NodeStorage ℕ ℕ → ℤ) : State ℕ ℕ ℕ Unit ℕ 0 where
  vm := changed_vm disks
  storage :=
    ⟨⟨(∅ : Dict ℕ (vms.accounting.Vm ℕ ℕ ℕ)).insert 0 (changed_vm disks).accounted, ∅, ∅⟩, size_free, fun _ => none,
      fun _ => none, fun _ => 0⟩
  node := fun _ => ⟨8, 65536, 1, 1, some 0, none, ⟨60000, 1, 0⟩, 0, 0⟩
  hrow := AList.lookup_insert _

def no_directory : Directory := ⟨[], []⟩

/-- A new disk on the other pool; the free sizes are those of the pending definition. -/
def disk_added : State ℕ ℕ ℕ Unit ℕ 0 :=
  changed [⟨0, 10240⟩, ⟨1, 2048⟩] fun ns => if ns.zpool = 0 then 49760 else 57952

/-- The other pool does not get back the size of the disk. -/
theorem not_reverted_disk_added : ∃ after, put two_pools no_directory disk_added = .ok after ∧
    ¬Reverted two_pools disk_added after := by
  have hvm : revert_active no_directory disk_added.vm =
      .ok { disk_added.vm with json := disk_added.vm.json_active } := by rfl
  refine ⟨save two_pools { disk_added.vm with json := disk_added.vm.json_active } disk_added, by rfl,
    fun hreverted => ?_⟩
  have hused : Used two_pools disk_added.vm ⟨0, 1⟩ := by
    refine ⟨rfl, List.mem_cons_of_mem _ List.mem_cons_self, Or.inl ?_⟩
    decide
  have hupdated : ¬Updated two_pools disk_added.vm ⟨0, 1⟩ := by
    rintro (hns | ⟨-, hzpool⟩)
    · exact absurd hns (by decide)
    · cases hzpool
  obtain ⟨hfree, hrecomputed⟩ := @size_free_not_updated _ _ _ _ _ _ _ _ _ two_pools 0 disk_added _
    (revert_active_eq_ok hvm).1 _ hused hupdated
  have hsize := hreverted.size_free _ hused
  rw [hfree, hrecomputed] at hsize
  have hbefore : recomputed two_pools disk_added.storage ⟨0, 1⟩ = 57952 := by decide +kernel
  have hreleased : released disk_added.vm ⟨0, 1⟩ = 2048 := by decide +kernel
  rw [hbefore, hreleased] at hsize
  exact absurd hsize (by decide)

/-- A disk that was to grow on the default pool is reverted. -/
theorem reverted_disk_grown : Reverted two_pools (changed [⟨0, 20480⟩] fun _ => 39520)
    (save two_pools { changed_vm [⟨0, 20480⟩] with json := definition_of [⟨0, 10240⟩] }
      (changed [⟨0, 20480⟩] fun _ => 39520)) := by
  refine (@reverted_iff_updated _ _ _ _ _ _ _ _ _ _ two_pools no_directory 0 (changed [⟨0, 20480⟩] fun _ => 39520) _
    (by rfl)).1.mpr fun ns hused hupdated => absurd (Or.inr ?_) hupdated
  obtain ⟨hnode, -, hzpool⟩ := hused
  have hnode_zero : ns.node = 0 := (Option.some.inj hnode).symm
  have hzero : ns.zpool = 0 := by
    rcases hzpool with h | h <;> exact List.mem_singleton.mp h
  refine ⟨hnode, ?_⟩
  rw [hnode_zero, hzero]
  rfl

end two_pools

end api.vm_define.revert
