import Mathlib
import Esdc.Vms.StorageRefresh

namespace vms.storage

open accounting (Vm)
open derived_cache (get_or_set)

variable {Dc NodeId Zpool VmId : Type} [DecidableEq Dc] [DecidableEq NodeId] [DecidableEq Zpool] [DecidableEq VmId]
variable {nodes : Nodes Dc NodeId Zpool}

/-- What is read from a coherent cache, or computed, is what the database gives. -/
theorem related_eq (key : Key Dc NodeId Zpool) {fetch_size_fun : Rows Dc NodeId Zpool VmId → ℕ}
    {s : State Dc NodeId Zpool VmId} (hcoherent : derived_cache.Coherent (Key.size s.rows) s.sizes)
    (hfetch : (fetch_size_fun s.rows : ℤ) = key.size s.rows) (clear_cache : Bool) :
    (NodeStorage._get_related_object_size key fetch_size_fun clear_cache s).1 = key.size s.rows := by
  unfold NodeStorage._get_related_object_size get_or_set
  cases clear_cache with
  | true => exact hfetch
  | false =>
    cases hcached : s.sizes key with
    | none => exact hfetch
    | some res => exact hcoherent key res hcached

/-- The sizes stay coherent when they are refreshed. -/
theorem Refreshed.sizes_coherent {keys : Set (Key Dc NodeId Zpool)} {dcs : Set Dc} {s t : State Dc NodeId Zpool VmId}
    (hrefreshed : Refreshed nodes keys dcs s t) (hcoherent : derived_cache.Coherent (Key.size s.rows) s.sizes) :
    derived_cache.Coherent (Key.size t.rows) t.sizes := by
  rw [hrefreshed.rows]
  exact (hrefreshed.filled.coherent_iff hcoherent).mpr fun _ _ hchanged => absurd rfl hchanged

section size_free

omit [DecidableEq Dc] [DecidableEq NodeId] [DecidableEq Zpool] [DecidableEq VmId] in
/-- A loop of refreshes writes no free size. -/
theorem foldl_size_free {ι : Type} {f : State Dc NodeId Zpool VmId → ι → State Dc NodeId Zpool VmId} (items : List ι)
    (hf : ∀ s i, (f s i).size_free = s.size_free) (s : State Dc NodeId Zpool VmId) :
    (items.foldl f s).size_free = s.size_free := by
  induction items generalizing s with
  | nil => rfl
  | cons i items ih => rw [List.foldl_cons, ih, hf]

omit [DecidableEq VmId] in
theorem sum_dc_vms_size_size_free (dc : Dc) (others : List (NodeStorage NodeId Zpool))
    (s : State Dc NodeId Zpool VmId) : (NodeStorage.sum_dc_vms_size dc others s).2.size_free = s.size_free := by
  induction others generalizing s with
  | nil => rfl
  | cons ns others ih => exact ih (ns.cached_dc_vms_size dc false s).2

omit [DecidableEq VmId] in
theorem get_dc_vms_size_size_free (self : NodeStorage NodeId Zpool) (dc : Dc) (s : State Dc NodeId Zpool VmId) :
    (self.get_dc_vms_size nodes dc true s).2.size_free = s.size_free :=
  sum_dc_vms_size_size_free dc _ (self.cached_dc_vms_size dc true s).2

theorem update_all_size_free (node : NodeId) (s : State Dc NodeId Zpool VmId) :
    (update_all nodes node s).size_free = s.size_free := by
  unfold update_all
  cases nodes.zpool node with
  | none => rfl
  | some zpool => cases nodes.shared node <;> rfl

/-- `update_resources` stores what `get_free_size` counts. -/
theorem update_resources_size_free (self : NodeStorage NodeId Zpool) (recalculate : NodeStorage.Recalculate Dc)
    (s : State Dc NodeId Zpool VmId) :
    (self.update_resources nodes recalculate s).size_free self =
      (self.get_free_size nodes recalculate.vms_size recalculate.snapshots_size recalculate.backups_size s).1 := by
  have hdc_snapshots : ∀ (s : State Dc NodeId Zpool VmId) dc,
      (self.get_dc_snapshots_size dc true s).2.size_free = s.size_free := fun _ _ => rfl
  have hdc_backups : ∀ (s : State Dc NodeId Zpool VmId) dc,
      (self.get_dc_backups_size dc true s).2.size_free = s.size_free := fun _ _ => rfl
  simp only [NodeStorage.update_resources]
  rw [foldl_size_free _ hdc_backups, foldl_size_free _ hdc_snapshots,
    foldl_size_free _ fun s dc => get_dc_vms_size_size_free self dc s]
  exact Function.update_self _ _ _

end size_free

/-- The free size of a storage, computed from the database. -/
def free_size (nodes : Nodes Dc NodeId Zpool) (s : State Dc NodeId Zpool VmId) (ns : NodeStorage NodeId Zpool) : ℤ :=
  nodes.size_total ns - (_calculate_vms_size s.rows ns none + _calculate_snapshots_size s.rows ns none +
    s.rep_snapshots ns + _calculate_backups_size s.rows ns none)

/-- The four sizes of `get_free_size` are added up, cached or not. -/
theorem get_free_size_eq {s : State Dc NodeId Zpool VmId} (self : NodeStorage NodeId Zpool)
    (hcoherent : derived_cache.Coherent (Key.size s.rows) s.sizes)
    (recalculate_vms_size recalculate_snapshots_size recalculate_backups_size : Bool) :
    (self.get_free_size nodes recalculate_vms_size recalculate_snapshots_size recalculate_backups_size s).1 =
      free_size nodes s self := by
  have hvms : Refreshed nodes _ _ s _ := Refreshed.get_vms_size self recalculate_vms_size s
  have hsnapshots : Refreshed nodes _ _ _ _ := Refreshed.get_snapshots_size self recalculate_snapshots_size
    (self.get_vms_size recalculate_vms_size s).2
  have hcoherent_vms := hvms.sizes_coherent hcoherent
  have hvms_size : (self.get_vms_size recalculate_vms_size s).1 = _calculate_vms_size s.rows self none :=
    related_eq (.VMS_SIZE_TOTAL self) hcoherent rfl recalculate_vms_size
  have hsnapshots_size : (self.get_snapshots_size recalculate_snapshots_size _).1 =
      _calculate_snapshots_size s.rows self none :=
    related_eq (.SNAPSHOT_SIZE_TOTAL self) hcoherent_vms rfl recalculate_snapshots_size
  have hbackups_size : (self.get_backups_size recalculate_backups_size _).1 =
      _calculate_backups_size s.rows self none :=
    related_eq (.BACKUP_SIZE_TOTAL self) (hsnapshots.sizes_coherent hcoherent_vms) rfl recalculate_backups_size
  simp only [NodeStorage.get_free_size, hvms_size, hsnapshots_size, hbackups_size]
  rfl

/-- Saving the node counts the free size of its default storage VM by VM, from a
total without the snapshots and backups. -/
theorem update_node_resources_size_free {node : NodeId} {zpool : Zpool} {s : State Dc NodeId Zpool VmId}
    (hzpool : nodes.zpool node = some zpool) (hcoherent : derived_cache.Coherent (Key.size s.rows) s.sizes) :
    (update_node_resources nodes node s).size_free ⟨node, zpool⟩ = free_size nodes s ⟨node, zpool⟩ := by
  let ns : NodeStorage NodeId Zpool := ⟨node, zpool⟩
  have hread : Refreshed nodes _ _ s _ := Refreshed.get_backups_size ns false s
  have hbackups : (ns.get_backups_size false s).1 = _calculate_backups_size s.rows ns none :=
    related_eq (.BACKUP_SIZE_TOTAL ns) hcoherent rfl false
  have hsnapshots : (ns.get_snapshots_size false (ns.get_backups_size false s).2).1 =
      _calculate_snapshots_size s.rows ns none :=
    related_eq (.SNAPSHOT_SIZE_TOTAL ns) (hread.sizes_coherent hcoherent) rfl false
  rw [update_node_resources_eq]
  rw [hzpool]
  simp only
  rw [update_all_size_free]
  simp only [Function.update_self]
  rw [hbackups, hsnapshots]
  simp only [free_size, NodeStorage.get_rep_snapshots_size]
  change (nodes.size_total ns : ℤ) - (_calculate_backups_size s.rows ns none + _calculate_snapshots_size s.rows ns none +
    s.rep_snapshots ns) - _calculate_vms_size s.rows ns none = _
  ring

/-- The two ways to the free size of the default storage of a node agree, and the
size of the VMs that the setter caches is the sum of the sizes of the VMs. -/
theorem disk_free_eq_get_free_size (nodes : Nodes Dc NodeId Zpool) {node : NodeId} {zpool : Zpool}
    {s : State Dc NodeId Zpool VmId} (hzpool : nodes.zpool node = some zpool)
    (hcoherent : derived_cache.Coherent (Key.size s.rows) s.sizes) :
    (∀ recalculate, (update_node_resources nodes node s).size_free ⟨node, zpool⟩ =
        (NodeStorage.update_resources ⟨node, zpool⟩ nodes recalculate s).size_free ⟨node, zpool⟩) ∧
      (update_node_resources nodes node s).sizes (.VMS_SIZE_TOTAL ⟨node, zpool⟩) =
        some (((s.rows.vm_set.entries.filter fun row => row.2.node = some node).map fun row =>
          get_disk_size row.2 zpool).sum : ℕ) := by
  constructor
  · intro recalculate
    rw [update_node_resources_size_free hzpool hcoherent, update_resources_size_free,
      get_free_size_eq _ hcoherent]
  · have hwritten := (show Refreshed nodes _ _ s _ from Refreshed.update_node_resources node s).filled.recalculated
      (.VMS_SIZE_TOTAL ⟨node, zpool⟩) ⟨zpool, hzpool, rfl⟩
    rw [hwritten]
    simp [Key.size, _calculate_vms_size]

theorem mem_local_zones (node zpool : ℕ) (hzpool : (if node = 0 then some 0 else none) = some zpool) :
    (⟨node, zpool⟩ : NodeStorage ℕ ℕ) ∈ [(⟨0, 0⟩ : NodeStorage ℕ ℕ)] := by
  by_cases hnode : node = 0
  · simp only [hnode, if_true, Option.some.injEq] at hzpool
    simp [hnode, ← hzpool]
  · simp [hnode] at hzpool

theorem nodup_local_zones : [(⟨0, 0⟩ : NodeStorage ℕ ℕ)].Nodup := List.nodup_singleton _

/-- A node with one storage, which is its default one. -/
def local_zones : Nodes ℕ ℕ ℕ where
  storages := [⟨0, 0⟩]
  nodup := nodup_local_zones
  dc := fun _ => [0]
  size := fun _ => 60000
  size_coef := fun _ => 1
  zpool := fun node => if node = 0 then some 0 else none
  zpool_mem := mem_local_zones
  shared := fun _ => true

/-- A VM with a disk of 10240 MB and a snapshot of 3 MB, nothing cached. -/
def local_vm : State ℕ ℕ ℕ ℕ where
  rows :=
    let json : accounting.Json ℕ := ⟨100, 1024, 1280, 0, 0, false, false, [⟨0, 10240⟩]⟩
    ⟨(∅ : Dict ℕ (Vm ℕ ℕ ℕ)).insert 0 ⟨0, some 0, true, .STOPPED, none, json, json⟩,
      (∅ : Dict ℕ (Snapshot ℕ ℕ ℕ)).insert 0 ⟨0, 0, .OK, ⟨0, 0⟩, some 3145728⟩, ∅⟩
  size_free := fun _ => 0
  sizes := fun _ => none
  size_total_dc := fun _ => none
  rep_snapshots := fun _ => 2

theorem disk_free_local_vm :
    (update_node_resources local_zones 0 local_vm).size_free ⟨0, 0⟩ =
        (NodeStorage.update_resources ⟨0, 0⟩ local_zones {} local_vm).size_free ⟨0, 0⟩ ∧
      (update_node_resources local_zones 0 local_vm).sizes (.VMS_SIZE_TOTAL ⟨0, 0⟩) = some 10240 := by
  obtain ⟨hfree, hvms⟩ := disk_free_eq_get_free_size local_zones (show local_zones.zpool 0 = some 0 from rfl)
    (derived_cache.coherent_empty (Key.size local_vm.rows))
  have hsum : ((local_vm.rows.vm_set.entries.filter fun row => row.2.node = some 0).map fun row =>
      get_disk_size row.2 0).sum = 10240 := by decide +kernel
  rw [hsum] at hvms
  exact ⟨hfree {}, hvms⟩

end vms.storage
