import Mathlib
import Esdc.Vms.FreeSize
import Esdc.Vms.StorageAmounts

namespace vms.storage

open accounting (Vm)

variable {Dc NodeId Zpool VmId : Type} [DecidableEq Dc] [DecidableEq NodeId] [DecidableEq Zpool] [DecidableEq VmId]
variable {nodes : Nodes Dc NodeId Zpool}

/-- A size as it is known: the cached one, or what the database gives. -/
def known_size (s : State Dc NodeId Zpool VmId) (key : Key Dc NodeId Zpool) : ℤ :=
  (s.sizes key).getD (key.size s.rows)

/-- The free size of a storage with the VMs counted again, the snapshots and backups as they are known. -/
def recomputed (nodes : Nodes Dc NodeId Zpool) (s : State Dc NodeId Zpool VmId) (ns : NodeStorage NodeId Zpool) : ℤ :=
  (ns.get_free_size nodes true false false s).1

theorem related_known (key : Key Dc NodeId Zpool) {fetch_size_fun : Rows Dc NodeId Zpool VmId → ℕ}
    {s : State Dc NodeId Zpool VmId} (hfetch : (fetch_size_fun s.rows : ℤ) = key.size s.rows) :
    (NodeStorage._get_related_object_size key fetch_size_fun false s).1 = known_size s key := by
  unfold NodeStorage._get_related_object_size derived_cache.get_or_set known_size
  cases s.sizes key with
  | none => exact hfetch
  | some res => rfl

/-- A size that is not computed again is known as before, the others are known as the database has them. -/
theorem known_size_refreshed {keys : Set (Key Dc NodeId Zpool)} {dcs : Set Dc} {s t : State Dc NodeId Zpool VmId}
    (hrefreshed : Refreshed nodes keys dcs s t) (key : Key Dc NodeId Zpool) :
    (key ∈ keys → known_size t key = key.size t.rows) ∧ (key ∉ keys → known_size t key = known_size s key) := by
  unfold known_size
  rw [hrefreshed.rows]
  constructor
  · intro hkey
    rw [hrefreshed.filled.recalculated key hkey]
    rfl
  · intro hkey
    rcases hrefreshed.filled.others key hkey with hsame | ⟨hnone, hset⟩
    · rw [hsame]
    · rw [hset, hnone]
      rfl

theorem recomputed_eq (s : State Dc NodeId Zpool VmId) (ns : NodeStorage NodeId Zpool) :
    recomputed nodes s ns = nodes.size_total ns - (_calculate_vms_size s.rows ns none +
      known_size s (.SNAPSHOT_SIZE_TOTAL ns) + s.rep_snapshots ns + known_size s (.BACKUP_SIZE_TOTAL ns)) := by
  have hvms : Refreshed nodes _ _ s _ := Refreshed.get_vms_size ns true s
  have hread : Refreshed nodes _ _ _ _ := Refreshed.get_snapshots_size ns false (ns.get_vms_size true s).2
  have hsnapshots : (ns.get_snapshots_size false (ns.get_vms_size true s).2).1 =
      known_size s (.SNAPSHOT_SIZE_TOTAL ns) := by
    rw [← (known_size_refreshed hvms (.SNAPSHOT_SIZE_TOTAL ns)).2 fun h => by cases h.1]
    exact related_known (.SNAPSHOT_SIZE_TOTAL ns) rfl
  have hvms_backups := (known_size_refreshed hvms (.BACKUP_SIZE_TOTAL ns)).2 fun h => by cases h.1
  have hread_backups := (known_size_refreshed hread (.BACKUP_SIZE_TOTAL ns)).2 fun h => by cases h.1
  have hbackups : (ns.get_backups_size false (ns.get_snapshots_size false (ns.get_vms_size true s).2).2).1 =
      known_size s (.BACKUP_SIZE_TOTAL ns) := by
    rw [← hvms_backups, ← hread_backups]
    exact related_known (.BACKUP_SIZE_TOTAL ns) rfl
  rw [recomputed, NodeStorage.get_free_size]
  simp only [hsnapshots, hbackups]
  rfl

/-- What a refresh that leaves the snapshots and backups of a storage as they are gives for its free size. -/
theorem recomputed_refreshed {keys : Set (Key Dc NodeId Zpool)} {dcs : Set Dc} {s t : State Dc NodeId Zpool VmId}
    (hrefreshed : Refreshed nodes keys dcs s t) (hrep : t.rep_snapshots = s.rep_snapshots)
    {ns : NodeStorage NodeId Zpool} (hsnapshots : .SNAPSHOT_SIZE_TOTAL ns ∉ keys)
    (hbackups : .BACKUP_SIZE_TOTAL ns ∉ keys) : recomputed nodes t ns = recomputed nodes s ns := by
  rw [recomputed_eq, recomputed_eq, hrefreshed.rows, hrep, (known_size_refreshed hrefreshed _).2 hsnapshots,
    (known_size_refreshed hrefreshed _).2 hbackups]

/-- A refresh of all sizes of a storage makes them known as the database has them. -/
theorem recomputed_eq_free_size {keys : Set (Key Dc NodeId Zpool)} {dcs : Set Dc} {s t : State Dc NodeId Zpool VmId}
    (hrefreshed : Refreshed nodes keys dcs s t) (hrep : t.rep_snapshots = s.rep_snapshots)
    {ns : NodeStorage NodeId Zpool} (hsnapshots : .SNAPSHOT_SIZE_TOTAL ns ∈ keys)
    (hbackups : .BACKUP_SIZE_TOTAL ns ∈ keys) : recomputed nodes t ns = free_size nodes s ns := by
  rw [recomputed_eq, free_size, (known_size_refreshed hrefreshed _).1 hsnapshots,
    (known_size_refreshed hrefreshed _).1 hbackups, hrefreshed.rows, hrep]
  rfl

section rep_snapshots

omit [DecidableEq Dc] [DecidableEq NodeId] [DecidableEq Zpool] [DecidableEq VmId] in
theorem foldl_rep_snapshots {ι : Type} {f : State Dc NodeId Zpool VmId → ι → State Dc NodeId Zpool VmId}
    (items : List ι) (hf : ∀ s i, (f s i).rep_snapshots = s.rep_snapshots) (s : State Dc NodeId Zpool VmId) :
    (items.foldl f s).rep_snapshots = s.rep_snapshots := by
  induction items generalizing s with
  | nil => rfl
  | cons i items ih => rw [List.foldl_cons, ih, hf]

omit [DecidableEq VmId] in
theorem get_dc_vms_size_rep_snapshots (self : NodeStorage NodeId Zpool) (dc : Dc) (s : State Dc NodeId Zpool VmId) :
    (self.get_dc_vms_size nodes dc true s).2.rep_snapshots = s.rep_snapshots := by
  have hothers : ∀ (others : List (NodeStorage NodeId Zpool)) (s : State Dc NodeId Zpool VmId),
      (NodeStorage.sum_dc_vms_size dc others s).2.rep_snapshots = s.rep_snapshots := by
    intro others
    induction others with
    | nil => exact fun s => rfl
    | cons ns others ih => exact fun s => ih (ns.cached_dc_vms_size dc false s).2
  exact hothers _ (self.cached_dc_vms_size dc true s).2

theorem update_vm_storage_rep_snapshots (dc : Dc) (s : State Dc NodeId Zpool VmId) (self : NodeStorage NodeId Zpool) :
    (update_vm_storage nodes dc s self).rep_snapshots = s.rep_snapshots := by
  have hdc_snapshots : ∀ (s : State Dc NodeId Zpool VmId) dc,
      (self.get_dc_snapshots_size dc true s).2.rep_snapshots = s.rep_snapshots := fun _ _ => rfl
  have hdc_backups : ∀ (s : State Dc NodeId Zpool VmId) dc,
      (self.get_dc_backups_size dc true s).2.rep_snapshots = s.rep_snapshots := fun _ _ => rfl
  simp only [update_vm_storage, NodeStorage.update_resources]
  rw [foldl_rep_snapshots _ hdc_backups, foldl_rep_snapshots _ hdc_snapshots,
    foldl_rep_snapshots _ fun s dc => get_dc_vms_size_rep_snapshots self dc s]
  rfl

theorem update_node_resources_rep_snapshots (node : NodeId) (s : State Dc NodeId Zpool VmId) :
    (update_node_resources nodes node s).rep_snapshots = s.rep_snapshots := by
  have hall : ∀ s : State Dc NodeId Zpool VmId, (update_all nodes node s).rep_snapshots = s.rep_snapshots := by
    intro s
    unfold update_all
    cases nodes.zpool node with
    | none => rfl
    | some zpool => cases nodes.shared node <;> rfl
  rw [update_node_resources_eq]
  cases nodes.zpool node with
  | none => rfl
  | some zpool =>
    simp only
    rw [hall]
    rfl

end rep_snapshots

section size_free

/-- The free size of one storage is written, from the rows alone. -/
theorem update_vm_storage_size_free (dc : Dc) (s : State Dc NodeId Zpool VmId) (self ns : NodeStorage NodeId Zpool) :
    (update_vm_storage nodes dc s self).size_free ns =
      if ns = self then free_size nodes s self else s.size_free ns := by
  have hdc_snapshots : ∀ (s : State Dc NodeId Zpool VmId) dc,
      (self.get_dc_snapshots_size dc true s).2.size_free = s.size_free := fun _ _ => rfl
  have hdc_backups : ∀ (s : State Dc NodeId Zpool VmId) dc,
      (self.get_dc_backups_size dc true s).2.size_free = s.size_free := fun _ _ => rfl
  simp only [update_vm_storage, NodeStorage.update_resources]
  rw [foldl_size_free _ hdc_backups, foldl_size_free _ hdc_snapshots,
    foldl_size_free _ fun s dc => get_dc_vms_size_size_free self dc s]
  exact Function.update_apply _ _ _ _

theorem update_vm_storages_size_free {dc : Dc} (nss : List (NodeStorage NodeId Zpool))
    (hnss : ∀ ns ∈ nss, ns ∈ nodes.dc_storages dc) (s : State Dc NodeId Zpool VmId) (ns : NodeStorage NodeId Zpool) :
    (nss.foldl (update_vm_storage nodes dc) s).size_free ns =
      if ns ∈ nss then free_size nodes s ns else s.size_free ns := by
  induction nss generalizing s with
  | nil => rfl
  | cons first nss ih =>
    obtain ⟨hfirst, hnss⟩ := List.forall_mem_cons.mp hnss
    have hrefreshed := @Refreshed.update_vm_storage Dc NodeId Zpool VmId _ _ _ _ nodes dc first hfirst s
    have hfree : free_size nodes (update_vm_storage nodes dc s first) ns = free_size nodes s ns := by
      rw [free_size, free_size, hrefreshed.rows, update_vm_storage_rep_snapshots]
    rw [List.foldl_cons, ih hnss, hfree, update_vm_storage_size_free]
    by_cases hmem : ns ∈ nss
    · rw [if_pos hmem, if_pos (List.mem_cons_of_mem first hmem)]
    · by_cases hns : ns = first
      · rw [if_neg hmem, if_pos hns, if_pos (hns ▸ List.mem_cons_self), hns]
      · have hnot : ns ∉ first :: nss := fun h => hmem (List.mem_of_ne_of_mem hns h)
        rw [if_neg hmem, if_neg hns, if_neg hnot]

/-- Saving a node writes the free size of its default storage, with the snapshots and backups as they are known. -/
theorem update_node_resources_size_free_known (node : NodeId) (s : State Dc NodeId Zpool VmId)
    (ns : NodeStorage NodeId Zpool) : (update_node_resources nodes node s).size_free ns =
      if ns.node = node ∧ nodes.zpool node = some ns.zpool then recomputed nodes s ns else s.size_free ns := by
  rw [update_node_resources_eq]
  cases hzpool : nodes.zpool node with
  | none => exact (if_neg fun h => by cases h.2).symm
  | some zpool =>
    simp only
    rw [update_all_size_free]
    by_cases hns : ns = ⟨node, zpool⟩
    · subst hns
      have hread : Refreshed nodes _ _ s _ := Refreshed.get_backups_size ⟨node, zpool⟩ false s
      have hbackups : (NodeStorage.get_backups_size ⟨node, zpool⟩ false s).1 =
          known_size s (.BACKUP_SIZE_TOTAL ⟨node, zpool⟩) := related_known (.BACKUP_SIZE_TOTAL ⟨node, zpool⟩) rfl
      have hread_snapshots := (known_size_refreshed hread (.SNAPSHOT_SIZE_TOTAL ⟨node, zpool⟩)).2 fun h => by cases h.1
      have hsnapshots : (NodeStorage.get_snapshots_size ⟨node, zpool⟩ false
          (NodeStorage.get_backups_size ⟨node, zpool⟩ false s).2).1 =
          known_size s (.SNAPSHOT_SIZE_TOTAL ⟨node, zpool⟩) := by
        rw [← hread_snapshots]
        exact related_known (.SNAPSHOT_SIZE_TOTAL ⟨node, zpool⟩) rfl
      rw [if_pos ⟨rfl, rfl⟩]
      simp only [Function.update_self]
      rw [hbackups, hsnapshots, recomputed_eq]
      change (nodes.size_total ⟨node, zpool⟩ : ℤ) - (known_size s (.BACKUP_SIZE_TOTAL ⟨node, zpool⟩) +
        known_size s (.SNAPSHOT_SIZE_TOTAL ⟨node, zpool⟩) + s.rep_snapshots ⟨node, zpool⟩) -
          _calculate_vms_size s.rows ⟨node, zpool⟩ none = _
      ring
    · have hnot : ¬(ns.node = node ∧ some zpool = some ns.zpool) := by
        rintro ⟨hnode, hzpool⟩
        exact hns (by rw [← hnode, Option.some.inj hzpool])
      rw [if_neg hnot]
      exact Function.update_of_ne hns _ _

/-- The storages whose free size `Vm.save` writes. -/
def Saved (nodes : Nodes Dc NodeId Zpool) (vm : Vm Dc NodeId Zpool) (ns : NodeStorage NodeId Zpool) : Prop :=
  ns ∈ vm_node_storages nodes vm ∨ vm.node = some ns.node ∧ nodes.zpool ns.node = some ns.zpool

/-- A save that updates the node and the storages of the VM: what it writes is what a recomputation gives, the other
free sizes stay. -/
theorem save_vm_size_free {uuid : VmId} {vm : Vm Dc NodeId Zpool} {s : State Dc NodeId Zpool VmId}
    (hnode : s.rows.orig_node uuid = vm.node) (ns : NodeStorage NodeId Zpool) :
    (Saved nodes vm ns → (save_vm nodes uuid vm true none s).size_free ns =
        recomputed nodes (save_vm nodes uuid vm true none s) ns) ∧
      (¬Saved nodes vm ns → (save_vm nodes uuid vm true none s).size_free ns = s.size_free ns ∧
        recomputed nodes (save_vm nodes uuid vm true none s) ns =
          recomputed nodes { s with rows := s.rows.save_vm uuid vm } ns) := by
  let t : State Dc NodeId Zpool VmId := { s with rows := s.rows.save_vm uuid vm }
  let u := (vm_node_storages nodes vm).foldl (update_vm_storage nodes vm.dc) t
  have hnss : ∀ ns ∈ vm_node_storages nodes vm, ns ∈ nodes.dc_storages vm.dc :=
    fun ns hns => mem_dc_storages_of_mem_vm hns
  have hstorages : Refreshed nodes _ _ t u := Refreshed.update_vm_storages hnss t
  have hrep : u.rep_snapshots = t.rep_snapshots :=
    foldl_rep_snapshots _ (fun s ns => update_vm_storage_rep_snapshots vm.dc s ns) t
  have hfree : u.size_free ns = if ns ∈ vm_node_storages nodes vm then free_size nodes t ns else t.size_free ns :=
    update_vm_storages_size_free _ hnss t ns
  have hknown : ns ∈ vm_node_storages nodes vm → recomputed nodes u ns = free_size nodes t ns := fun hns =>
    recomputed_eq_free_size hstorages hrep ⟨ns, hns, rfl, rfl⟩ ⟨ns, hns, rfl, rfl⟩
  have hothers : ns ∉ vm_node_storages nodes vm → recomputed nodes u ns = recomputed nodes t ns := fun hns =>
    recomputed_refreshed hstorages hrep (fun ⟨_, hmem, heq, _⟩ => hns (heq ▸ hmem))
      (fun ⟨_, hmem, heq, _⟩ => hns (heq ▸ hmem))
  have hsave : save_vm nodes uuid vm true none s =
      vm.node.toList.foldl (fun s node => update_node_resources nodes node s) u := by
    rw [save_vm, updated_nodes, hnode, if_neg fun h => h rfl]
    rfl
  cases hvm : vm.node with
  | none =>
    have hnil : ns ∉ vm_node_storages nodes vm := by
      rw [vm_node_storages, hvm]
      exact List.not_mem_nil
    rw [hsave, hvm]
    constructor
    · rintro (hns | ⟨hns, -⟩)
      · exact absurd hns hnil
      · cases hvm.symm.trans hns
    · intro _
      exact ⟨hfree.trans (if_neg hnil), hothers hnil⟩
  | some node =>
    have hupdated : Refreshed nodes _ _ u _ := Refreshed.update_node_resources node u
    have hrecomputed : recomputed nodes (update_node_resources nodes node u) ns = recomputed nodes u ns :=
      recomputed_refreshed hupdated (update_node_resources_rep_snapshots node u) (fun ⟨_, _, h⟩ => by cases h)
        (fun ⟨_, _, h⟩ => by cases h)
    have hwritten := @update_node_resources_size_free_known Dc NodeId Zpool VmId _ _ _ _ nodes node u ns
    rw [hsave, hvm]
    change (_ → (update_node_resources nodes node u).size_free ns = recomputed nodes (update_node_resources nodes node u)
      ns) ∧ (_ → (update_node_resources nodes node u).size_free ns = _ ∧
        recomputed nodes (update_node_resources nodes node u) ns = _)
    rw [hwritten, hrecomputed]
    constructor
    · intro hsaved
      by_cases hdefault : ns.node = node ∧ nodes.zpool node = some ns.zpool
      · rw [if_pos hdefault]
      · have hns : ns ∈ vm_node_storages nodes vm := by
          rcases hsaved with hns | ⟨hns, hzpool⟩
          · exact hns
          · cases hvm.symm.trans hns
            exact absurd ⟨rfl, hzpool⟩ hdefault
        rw [if_neg hdefault, hfree, if_pos hns, hknown hns]
    · intro hsaved
      obtain ⟨hns, hdefault⟩ := not_or.mp hsaved
      have hnot : ¬(ns.node = node ∧ nodes.zpool node = some ns.zpool) := by
        rintro ⟨rfl, hzpool⟩
        exact hdefault ⟨hvm, hzpool⟩
      rw [if_neg hnot, hfree, if_neg hns, hothers hns]
      exact ⟨rfl, rfl⟩

/-- A saved VM takes its new size from the storages, and no longer its old one. -/
theorem recomputed_save_vm {uuid : VmId} {vm vm' : Vm Dc NodeId Zpool} {s : State Dc NodeId Zpool VmId}
    (hlookup : s.rows.vm_set.lookup uuid = some vm) (ns : NodeStorage NodeId Zpool) :
    recomputed nodes { s with rows := s.rows.save_vm uuid vm' } ns =
      recomputed nodes s ns + vm_amount ns none vm - vm_amount ns none vm' := by
  have hbefore := Dict.sum_entries_erase s.rows.vm_set (fun row => vm_amount ns none row.2) hlookup
  have hafter := Dict.sum_entries_insert s.rows.vm_set (fun row => vm_amount ns none row.2) uuid vm'
  have hvms : (_calculate_vms_size (s.rows.save_vm uuid vm') ns none : ℤ) =
      _calculate_vms_size s.rows ns none - vm_amount ns none vm + vm_amount ns none vm' := by
    rw [calculate_vms_size_eq, calculate_vms_size_eq, hbefore, Rows.save_vm, hafter]
    push_cast
    ring
  rw [recomputed_eq, recomputed_eq, hvms]
  change nodes.size_total ns - (_calculate_vms_size s.rows ns none - vm_amount ns none vm + vm_amount ns none vm' +
    known_size s (.SNAPSHOT_SIZE_TOTAL ns) + s.rep_snapshots ns + known_size s (.BACKUP_SIZE_TOTAL ns)) = _
  ring

end size_free

end vms.storage
