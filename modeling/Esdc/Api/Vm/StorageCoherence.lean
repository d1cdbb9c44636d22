import Mathlib
import Esdc.Api.Vm.StorageOps
import Esdc.Lib.OptionMap
import Esdc.Vms.StorageAmounts
import Esdc.Vms.StorageRefresh

namespace api.storage

open vms.storage
open vms.accounting (Disk Json Vm)
open transition (Run)

variable {Dc NodeId Zpool VmId : Type} [DecidableEq Dc] [DecidableEq NodeId] [DecidableEq Zpool] [DecidableEq VmId]
variable {nodes : Nodes Dc NodeId Zpool}

section storages

/-- The storages whose sizes a `vm.save` computes again. -/
def Save.storages (nodes : Nodes Dc NodeId Zpool) (save : Save Dc NodeId Zpool) : List (NodeStorage NodeId Zpool) :=
  save.update_storage_resources.getD (vm_node_storages nodes save.vm)

omit [DecidableEq Dc] [DecidableEq NodeId] [DecidableEq Zpool] in
theorem save_disks_dc {vm vm' : Vm Dc NodeId Zpool} {disks : List (Disk Zpool)}
    (hsave : save_disks vm disks = some vm') : vm'.dc = vm.dc := by
  unfold save_disks at hsave
  split at hsave
  · obtain rfl := Option.some.inj hsave
    rfl
  · cases disks with
    | nil => cases hsave
    | cons root data =>
      obtain rfl := Option.some.inj hsave
      rfl

theorem mem_of_get_node_storage {node : NodeId} {dc : Dc} {zpool : Zpool} {ns : NodeStorage NodeId Zpool}
    (hns : get_node_storage nodes node dc zpool = some ns) : ns ∈ nodes.dc_storages dc :=
  List.mem_of_find?_eq_some hns

theorem mem_of_validate_storage_resources {vm : Vm Dc NodeId Zpool} {object : Option (Disk Zpool)}
    {disk : Disk Zpool} {update : Bool × List (NodeStorage NodeId Zpool)}
    (hupdate : validate_storage_resources nodes vm object disk = some update) :
    ∀ ns ∈ update.2, ns ∈ nodes.dc_storages vm.dc := by
  unfold validate_storage_resources at hupdate
  cases hnode : vm.node with
  | none =>
    rw [hnode] at hupdate
    obtain rfl := Option.some.inj hupdate
    intro ns hns
    cases hns
  | some node =>
    rw [hnode] at hupdate
    simp only at hupdate
    split at hupdate
    · obtain rfl := Option.some.inj hupdate
      intro ns hns
      cases hns
    · obtain ⟨ns, hns, hupdate⟩ := Option.bind_eq_some_iff.mp hupdate
      have hmem := mem_of_get_node_storage hns
      split at hupdate
      · obtain rfl := Option.some.inj hupdate
        simpa using hmem
      · obtain ⟨old_ns, hold_ns, hupdate⟩ := Option.bind_eq_some_iff.mp hupdate
        obtain rfl := Option.some.inj hupdate
        simpa using ⟨hmem, mem_of_get_node_storage hold_ns⟩

theorem mem_of_validate_node_resources {vm : Vm Dc NodeId Zpool} {node : Option NodeId}
    {nss : List (NodeStorage NodeId Zpool)} (hnss : validate_node_resources nodes vm node = some nss) :
    ∀ ns ∈ nss, ns ∈ nodes.dc_storages vm.dc := by
  unfold validate_node_resources at hnss
  split at hnss
  · obtain rfl := Option.some.inj hnss
    intro ns hns
    cases hns
  · obtain ⟨new_storages, hnew, rfl⟩ := Option.map_eq_some_iff.mp hnss
    intro ns hns
    rcases List.mem_append.mp hns with hns | hns
    · cases node with
      | none =>
        obtain rfl := Option.some.inj hnew
        cases hns
      | some node =>
        obtain ⟨zpool, -, hzpool⟩ := (option_map.mem_of_mapM hnew ns).mp hns
        exact mem_of_get_node_storage hzpool
    · cases hold : vm.node with
      | none =>
        rw [hold] at hns
        cases hns
      | some old_node =>
        rw [hold] at hns
        exact mem_dc_storages_of_mem hns

theorem mem_of_disk_save {vm : Vm Dc NodeId Zpool} {disks : List (Disk Zpool)}
    {update_node : Bool} {nss : List (NodeStorage NodeId Zpool)} {save : Save Dc NodeId Zpool}
    (hupdate : ∀ ns ∈ nss, ns ∈ nodes.dc_storages vm.dc)
    (hsave : (save_disks vm disks).map (fun vm => (⟨vm, update_node, some nss⟩ : Save Dc NodeId Zpool)) = some save) :
    ∀ ns ∈ save.storages nodes, ns ∈ nodes.dc_storages save.vm.dc := by
  obtain ⟨vm', hdisks, rfl⟩ := Option.map_eq_some_iff.mp hsave
  rw [save_disks_dc hdisks]
  exact hupdate

/-- A request only refreshes storages of the datacenter of the VM. -/
theorem mem_of_save_arguments {rows : Rows Dc NodeId Zpool VmId} {uuid : VmId} {request : Request Dc NodeId Zpool}
    {save : Save Dc NodeId Zpool} (hsave : save_arguments nodes rows uuid request = some save) :
    ∀ ns ∈ save.storages nodes, ns ∈ nodes.dc_storages save.vm.dc := by
  cases request with
  | vm_define_post vm =>
    simp only [save_arguments] at hsave
    split at hsave
    · cases hsave
    · obtain rfl := Option.some.inj hsave
      intro ns hns
      cases hns
  | vm_define_put node attrs =>
    obtain ⟨vm, -, hsave⟩ := Option.bind_eq_some_iff.mp hsave
    obtain ⟨nss, hnss, rfl⟩ := Option.map_eq_some_iff.mp hsave
    have hmem := mem_of_validate_node_resources hnss
    exact hmem
  | vm_define_revert =>
    obtain ⟨vm, -, hsave⟩ := Option.bind_eq_some_iff.mp hsave
    split at hsave
    · cases hsave
    · obtain rfl := Option.some.inj hsave
      intro ns hns
      exact mem_dc_storages_of_mem_vm hns
  | vm_define_disk_post disk =>
    obtain ⟨vm, -, hsave⟩ := Option.bind_eq_some_iff.mp hsave
    unfold vm_define_disk_post at hsave
    split at hsave
    · cases hsave
    · obtain ⟨update, hupdate, hsave⟩ := Option.bind_eq_some_iff.mp hsave
      apply mem_of_disk_save _ hsave
      split at hupdate
      · exact mem_of_validate_storage_resources hupdate
      · obtain rfl := Option.some.inj hupdate
        intro ns hns
        cases hns
  | vm_define_disk_put disk_id disk =>
    obtain ⟨vm, -, hsave⟩ := Option.bind_eq_some_iff.mp hsave
    obtain ⟨object, -, hsave⟩ := Option.bind_eq_some_iff.mp hsave
    split at hsave
    · cases hsave
    · obtain ⟨update, hupdate, hsave⟩ := Option.bind_eq_some_iff.mp hsave
      apply mem_of_disk_save _ hsave
      split at hupdate
      · exact mem_of_validate_storage_resources hupdate
      · obtain rfl := Option.some.inj hupdate
        intro ns hns
        cases hns
  | vm_define_disk_delete disk_id =>
    obtain ⟨vm, -, hsave⟩ := Option.bind_eq_some_iff.mp hsave
    obtain ⟨object, -, hsave⟩ := Option.bind_eq_some_iff.mp hsave
    split at hsave
    · cases hsave
    · obtain ⟨nss, hnss, hsave⟩ := Option.bind_eq_some_iff.mp hsave
      refine mem_of_disk_save ?_ hsave
      cases hnode : vm.node with
      | none =>
        rw [hnode] at hnss
        obtain rfl := Option.some.inj hnss
        intro ns hns
        cases hns
      | some node =>
        rw [hnode] at hnss
        obtain ⟨ns, hns, rfl⟩ := Option.map_eq_some_iff.mp hnss
        simpa using mem_of_get_node_storage hns

end storages

section rows

/-- The operations that only change a status leave every size as it is. -/
theorem size_update_snapshots_status (rows : Rows Dc NodeId Zpool VmId) (snap_ids : List ℕ)
    (status : Snapshot.Status) (key : Key Dc NodeId Zpool) :
    key.size (update_snapshots rows (snapshot_status snap_ids status)) = key.size rows := by
  refine size_congr ?_ ?_ ?_
  · rfl
  · intro ns dc
    simp only [update_snapshots, Dict.entries_mapVals, List.map_map]
    congr 1
    apply List.map_congr_left
    intro snap _
    simp only [Function.comp_apply, snapshot_status]
    split <;> rfl
  · exact fun _ _ _ => rfl

theorem size_update_backups_status (rows : Rows Dc NodeId Zpool VmId) (bkp_ids : List ℕ) (status : Backup.Status)
    (key : Key Dc NodeId Zpool) :
    key.size (update_backups rows (backup_status bkp_ids status)) = key.size rows := by
  refine size_congr ?_ ?_ ?_
  · rfl
  · exact fun _ _ => rfl
  · intro ns dc _
    simp only [update_backups, Dict.entries_mapVals, List.map_map]
    congr 1
    apply List.map_congr_left
    intro bkp _
    simp only [Function.comp_apply, backup_status]
    split <;> rfl

/-- A new snapshot has no size. -/
theorem size_save_snapshot {rows : Rows Dc NodeId Zpool VmId} {snap_id : ℕ} {snap : Snapshot NodeId Zpool VmId}
    (hnew : rows.snapshots.lookup snap_id = none) (hsize : snap.size = none) (key : Key Dc NodeId Zpool) :
    key.size (save_snapshot rows snap_id snap) = key.size rows := by
  refine size_congr ?_ ?_ ?_
  · rfl
  · intro ns dc
    simp only [save_snapshot]
    rw [Dict.sum_entries_insert, Dict.entries_erase_of_lookup_eq_none _ hnew]
    simp [snapshot_amount, hsize]
  · exact fun _ _ _ => rfl

theorem size_save_backup {rows : Rows Dc NodeId Zpool VmId} {bkp_id : ℕ} {bkp : Backup Dc NodeId Zpool VmId}
    (hnew : rows.backups.lookup bkp_id = none) (hsize : bkp.size = none) (key : Key Dc NodeId Zpool) :
    key.size (save_backup rows bkp_id bkp) = key.size rows := by
  refine size_congr ?_ ?_ ?_
  · rfl
  · exact fun _ _ => rfl
  · intro ns dc _
    simp only [save_backup]
    rw [Dict.sum_entries_insert, Dict.entries_erase_of_lookup_eq_none _ hnew]
    simp [backup_amount, hsize]

/-- A moved backup stays on its storage. -/
theorem size_move_backups (rows : Rows Dc NodeId Zpool VmId) (uuid : VmId) (dc : Dc) {key : Key Dc NodeId Zpool}
    (hkey : ∀ other_dc ns, key ≠ .BACKUP_SIZE_DC other_dc ns) :
    key.size (move_backups rows uuid dc) = key.size rows := by
  refine size_congr ?_ ?_ ?_
  · rfl
  · exact fun _ _ => rfl
  · intro ns dc_filter hdc
    rcases hdc with ⟨-, rfl⟩ | ⟨d, hd, -⟩
    · simp only [move_backups, update_backups, Dict.entries_mapVals, List.map_map]
      congr 1
      apply List.map_congr_left
      intro bkp _
      simp only [Function.comp_apply, backup_amount]
      split <;> rfl
    · exact absurd hd (hkey d ns)

/-- Rows that differ in one backup differ in the sizes of its storage only. -/
theorem size_backup {rows : Rows Dc NodeId Zpool VmId} {bkp_id : ℕ} {bkp : Backup Dc NodeId Zpool VmId}
    (hbkp : rows.backups.lookup bkp_id = some bkp) {backups : Dict ℕ (Backup Dc NodeId Zpool VmId)}
    (hbackups : backups = rows.backups.erase bkp_id ∨
      ∃ status size, backups = rows.backups.insert bkp_id { bkp with status := status, size := size })
    {key : Key Dc NodeId Zpool} (htotal : key ≠ .BACKUP_SIZE_TOTAL bkp.zpool)
    (hdc : key ≠ .BACKUP_SIZE_DC bkp.dc bkp.zpool) : key.size { rows with backups := backups } = key.size rows := by
  refine size_congr ?_ ?_ ?_
  · rfl
  · exact fun _ _ => rfl
  · intro ns dc hkey
    -- the backup is not counted for this key, neither before nor after
    have hnone : ∀ status size, backup_amount ns dc { bkp with status := status, size := size } = 0 := by
      intro status size
      rcases hkey with ⟨rfl, rfl⟩ | ⟨d, rfl, rfl⟩
      · have hns : bkp.zpool ≠ ns := fun heq => htotal (by rw [heq])
        simp [backup_amount, hns]
      · have hns : ¬ (bkp.zpool = ns ∧ bkp.dc = d) := fun ⟨heq, heq'⟩ => hdc (by rw [heq, heq'])
        simp only [backup_amount, Option.all_some]
        rw [if_neg (by simpa using hns)]
    have hold : backup_amount ns dc bkp = 0 := hnone bkp.status bkp.size
    rw [rows.backups.sum_entries_erase _ hbkp, hold]
    rcases hbackups with rfl | ⟨status, size, rfl⟩
    · simp
    · rw [Dict.sum_entries_insert, hnone]

end rows

section operations

/-- Every cached size that the new rows change is computed again, and every cached
total that they change is summed up again. -/
def Covered (nodes : Nodes Dc NodeId Zpool) (s : State Dc NodeId Zpool VmId) (rows : Rows Dc NodeId Zpool VmId)
    (keys : Key Dc NodeId Zpool → Prop) (dcs : Dc → Prop) : Prop :=
  (∀ key, s.sizes key ≠ none → key.size rows ≠ key.size s.rows → keys key) ∧
    ∀ dc, s.size_total_dc dc ≠ none → nodes.total_dc rows dc ≠ nodes.total_dc s.rows dc → dcs dc

/-- The sizes computed again when a VM is moved from its datacenter to another one. -/
def MovesSize (nodes : Nodes Dc NodeId Zpool) (vm : Vm Dc NodeId Zpool) (dc : Dc) (key : Key Dc NodeId Zpool) : Prop :=
  SavesSize nodes dc (vm_node_storages nodes { vm with dc := dc }) vm.node.toList key ∨
    ∃ ns ∈ vm_node_storages nodes vm, key = .SNAPSHOT_SIZE_TOTAL ns ∨ key = .BACKUP_SIZE_TOTAL ns ∨
      ∃ i ∈ [dc, vm.dc], key = .SNAPSHOT_SIZE_DC i ns ∨ key = .BACKUP_SIZE_DC i ns

/-- The steps after which the caches are coherent if they were before. -/
def Keeps (nodes : Nodes Dc NodeId Zpool) (s : State Dc NodeId Zpool VmId) : Event Dc NodeId Zpool VmId → Prop
  | .get _ | .expire _ | .expire_total _ => True
  | .vm_define uuid request => ∀ save, save_arguments nodes s.rows uuid request = some save →
    Covered nodes s (s.rows.save_vm uuid save.vm)
      (SavesSize nodes save.vm.dc (save.storages nodes)
        (updated_nodes (s.rows.orig_node uuid) save.vm save.update_node_resources))
      fun dc => dc = save.vm.dc ∧ save.storages nodes ≠ []
  | .vm_define_delete uuid => ∀ vm, s.rows.vm_set.lookup uuid = some vm →
    Covered nodes s (delete_vm s.rows uuid) (SavesSize nodes vm.dc (vm_node_storages nodes vm) vm.node.toList)
      fun dc => dc = vm.dc ∧ vm_node_storages nodes vm ≠ []
  | .vm_cb uuid vm snap_ids =>
    Covered nodes s ((delete_snapshots s.rows snap_ids).save_vm uuid vm)
      (SavesSize nodes vm.dc (vm_node_storages nodes vm) (updated_nodes (s.rows.orig_node uuid) vm true))
      fun dc => dc = vm.dc ∧ vm_node_storages nodes vm ≠ []
  | .vm_dc uuid dc => ∀ vm, s.rows.vm_set.lookup uuid = some vm →
    Covered nodes s (move_backups (s.rows.save_vm uuid { vm with dc := dc }) uuid dc) (MovesSize nodes vm dc)
      fun other_dc => other_dc = dc ∧ vm_node_storages nodes { vm with dc := dc } ≠ []
  | .vm_snapshot_post .. | .vm_snapshot_status .. | .vm_backup_post .. | .vm_backup_status .. => True
  | .vm_snapshot_delete snap_ids => Covered nodes s (delete_snapshots s.rows snap_ids) (fun _ => False) fun _ => False
  | .vm_snapshot_sync_cb uuid disk_id zpool node_snaps new_snaps running =>
    ∀ storage, snapshot_storage nodes s.rows uuid zpool = some storage →
      Covered nodes s (sync_vm_snapshots s.rows uuid disk_id storage.1 node_snaps new_snaps running)
        (fun key => key = .SNAPSHOT_SIZE_TOTAL storage.1 ∨ key = .SNAPSHOT_SIZE_DC storage.2 storage.1) fun _ => False
  | .node_vm_snapshot_sync_cb ns node_snaps node_bkps _ running is_backup =>
    Covered nodes s (sync_node_snapshots s.rows ns node_snaps node_bkps running is_backup)
      (fun key => key = .SNAPSHOT_SIZE_TOTAL ns ∨ ∃ dc ∈ nodes.dc ns, key = .SNAPSHOT_SIZE_DC dc ns) fun _ => False
  -- the backup of a task counts for its own storage and datacenter only
  | .vm_backup_post_cb .. => True
  | .vm_backup_delete_cb bkp_ids update_snapshots success files =>
    ∀ deleted, vm_backup_delete_cb s.rows bkp_ids update_snapshots success files = some deleted →
      Covered nodes s deleted.1 (fun key => ∃ bkp ∈ deleted.2,
        key = .BACKUP_SIZE_TOTAL bkp.zpool ∨ key = .BACKUP_SIZE_DC bkp.dc bkp.zpool) fun _ => False
  | .vm_backup_delete_lost bkp_ids => Covered nodes s (delete_backups s.rows bkp_ids) (fun _ => False) fun _ => False

/-- The caches are coherent after an operation exactly when it refreshes all that it changes. -/
theorem coherent_iff_covered {s t s' : State Dc NodeId Zpool VmId} {rows : Rows Dc NodeId Zpool VmId}
    {keys : Key Dc NodeId Zpool → Prop} {dcs : Dc → Prop} (hcoherent : Coherent nodes s)
    (hrefreshed : Refreshed nodes {key | keys key} {dc | dcs dc} t s') (hrows : t.rows = rows)
    (hsizes : t.sizes = s.sizes) (htotals : t.size_total_dc = s.size_total_dc) :
    Coherent nodes s' ↔ Covered nodes s rows keys dcs := by
  rw [← hrows]
  exact hrefreshed.coherent_iff hcoherent hsizes htotals

/-- Rows without another size leave the caches coherent. -/
theorem coherent_of_size_eq {s : State Dc NodeId Zpool VmId} {rows : Rows Dc NodeId Zpool VmId}
    (hcoherent : Coherent nodes s) (hsize : ∀ key : Key Dc NodeId Zpool, key.size rows = key.size s.rows) :
    Coherent nodes { s with rows := rows } := by
  have hsizes : (Key.size rows : Key Dc NodeId Zpool → ℤ) = Key.size s.rows := funext hsize
  have htotal : nodes.total_dc rows = nodes.total_dc s.rows := by
    funext dc
    simp only [Nodes.total_dc, hsize]
  constructor
  · change derived_cache.Coherent (Key.size rows) s.sizes
    rw [hsizes]
    exact hcoherent.sizes
  · change derived_cache.Coherent (nodes.total_dc rows) s.size_total_dc
    rw [htotal]
    exact hcoherent.size_total_dc

/-- Reading a size keeps the caches coherent. -/
theorem coherent_related {s : State Dc NodeId Zpool VmId} {key : Key Dc NodeId Zpool}
    {fetch_size_fun : Rows Dc NodeId Zpool VmId → ℕ} (hcoherent : Coherent nodes s)
    (hfetch : (fetch_size_fun s.rows : ℤ) = key.size s.rows) :
    Coherent nodes (NodeStorage._get_related_object_size key fetch_size_fun false s).2 := by
  constructor
  · simp only [NodeStorage._get_related_object_size, hfetch]
    apply ((derived_cache.filled_get_or_set (Key.size s.rows) s.sizes key false).coherent_iff hcoherent.sizes).mpr
    intro _ _ hchanged
    exact absurd rfl hchanged
  · exact hcoherent.size_total_dc

/-- Moving a VM: what is refreshed with the new datacenter, and on the storages of the old one. -/
theorem refreshed_vm_dc (uuid : VmId) (dc : Dc) {vm : Vm Dc NodeId Zpool} {s : State Dc NodeId Zpool VmId}
    (hvm : s.rows.vm_set.lookup uuid = some vm) :
    Refreshed nodes {key | MovesSize nodes vm dc key}
      {other_dc | other_dc = dc ∧ vm_node_storages nodes { vm with dc := dc } ≠ []}
      { s with rows := move_backups (s.rows.save_vm uuid { vm with dc := dc }) uuid dc }
      (vm_dc nodes uuid dc vm s) := by
  have hupdated : updated_nodes (s.rows.orig_node uuid) { vm with dc := dc } true = vm.node.toList := by
    simp [updated_nodes, Rows.orig_node, hvm]
  have hsave : Refreshed nodes _ _ _ _ := Refreshed.save_vm_true uuid { vm with dc := dc } true s
  rw [hupdated] at hsave
  -- the backups change their datacenter after the first refreshes, which do not look at it
  have hsame : ∀ key : Key Dc NodeId Zpool, (∀ other_dc ns, key ≠ .BACKUP_SIZE_DC other_dc ns) →
      key.size (s.rows.save_vm uuid { vm with dc := dc }) =
        key.size (move_backups (s.rows.save_vm uuid { vm with dc := dc }) uuid dc) :=
    fun key hkey => (size_move_backups _ uuid dc hkey).symm
  have hmoved := hsave.of_backups hsame fun _ _ => not_savesSize_backups
  have hround : ∀ (ns : NodeStorage NodeId Zpool) (i : Dc) (t : State Dc NodeId Zpool VmId), Refreshed nodes _ _ t
      (Snapshot.update_resources nodes ns i (Backup.update_resources nodes ns i t)) := fun ns i t =>
    (Refreshed.update_backups t).trans (Refreshed.update_snapshots _)
  have hloop := hmoved.trans (Refreshed.foldl (vm_node_storages nodes vm) (fun t ns _ =>
    Refreshed.foldl [dc, vm.dc] (fun t i _ => hround ns i t) t) _)
  unfold vm_dc
  simp only [show (save_vm nodes uuid { vm with dc := dc } true none s).rows = _ from hsave.rows]
  refine hloop.of_eq ?_ ?_
  · ext key
    simp only [Set.mem_union, Set.mem_ofPred_eq, MovesSize]
    constructor
    · rintro (hkey | ⟨ns, hns, i, hi, (hkey | hkey) | (hkey | hkey)⟩)
      · exact Or.inl hkey
      · exact Or.inr ⟨ns, hns, Or.inr (Or.inl hkey)⟩
      · exact Or.inr ⟨ns, hns, Or.inr (Or.inr ⟨i, hi, Or.inr hkey⟩)⟩
      · exact Or.inr ⟨ns, hns, Or.inl hkey⟩
      · exact Or.inr ⟨ns, hns, Or.inr (Or.inr ⟨i, hi, Or.inl hkey⟩)⟩
    · rintro (hkey | ⟨ns, hns, hkey | hkey | ⟨i, hi, hkey | hkey⟩⟩)
      · exact Or.inl hkey
      · exact Or.inr ⟨ns, hns, dc, List.mem_cons_self, Or.inr (Or.inl hkey)⟩
      · exact Or.inr ⟨ns, hns, dc, List.mem_cons_self, Or.inl (Or.inl hkey)⟩
      · exact Or.inr ⟨ns, hns, i, hi, Or.inr (Or.inr hkey)⟩
      · exact Or.inr ⟨ns, hns, i, hi, Or.inl (Or.inr hkey)⟩
  · simp

/-- A backup counts for its own storage and datacenter only, which are refreshed. -/
theorem covered_backup_done {s : State Dc NodeId Zpool VmId} {bkp_id : ℕ} {bkp : Backup Dc NodeId Zpool VmId}
    (hbkp : s.rows.backups.lookup bkp_id = some bkp) {size : Option ℕ} {success : Bool} :
    Covered nodes s (backup_done s.rows bkp_id bkp size success)
      (fun key => key = .BACKUP_SIZE_TOTAL bkp.zpool ∨ key = .BACKUP_SIZE_DC bkp.dc bkp.zpool) fun _ => False := by
  refine ⟨fun key _ hchanged => ?_, fun dc _ hchanged => ?_⟩
  · by_contra hother
    rw [not_or] at hother
    apply hchanged
    cases success with
    | false => exact size_backup hbkp (Or.inl rfl) hother.1 hother.2
    | true => exact size_backup hbkp (Or.inr ⟨.OK, size, rfl⟩) hother.1 hother.2
  · cases success <;> exact hchanged rfl

/-- One step from coherent caches: they are coherent again exactly when the operation
refreshes every cached size that it changes. -/
theorem coherent_step {s s' : State Dc NodeId Zpool VmId} {e : Event Dc NodeId Zpool VmId}
    (hcoherent : Coherent nodes s) (hstep : step nodes s e = some s') : Coherent nodes s' ↔ Keeps nodes s e := by
  cases e with
  | get key =>
    refine ⟨fun _ => trivial, fun _ => ?_⟩
    cases key with
    | VMS_SIZE_DC dc ns =>
      obtain rfl := Option.some.inj hstep
      have hread : Coherent nodes (ns.cached_dc_vms_size dc false s).2 := by
        refine coherent_related hcoherent ?_
        rfl
      exact hread
    | _ =>
      obtain rfl := Option.some.inj hstep
      refine coherent_related hcoherent ?_
      rfl
  | expire key =>
    obtain rfl := Option.some.inj hstep
    refine ⟨fun _ => trivial, fun _ => ⟨fun k size hcached => ?_, hcoherent.size_total_dc⟩⟩
    by_cases hk : k = key
    · subst hk
      simp at hcached
    · simp only [Function.update_of_ne hk] at hcached
      exact hcoherent.sizes k size hcached
  | expire_total dc =>
    obtain rfl := Option.some.inj hstep
    refine ⟨fun _ => trivial, fun _ => ⟨hcoherent.sizes, fun d total hcached => ?_⟩⟩
    by_cases hd : d = dc
    · subst hd
      simp at hcached
    · simp only [Function.update_of_ne hd] at hcached
      exact hcoherent.size_total_dc d total hcached
  | vm_define uuid request =>
    obtain ⟨save, hsave, rfl⟩ := Option.map_eq_some_iff.mp hstep
    have hrefreshed := Refreshed.save_vm uuid save.update_node_resources (mem_of_save_arguments hsave) s
    rw [coherent_iff_covered hcoherent hrefreshed rfl rfl rfl]
    refine ⟨fun hcovered save' hsave' => ?_, fun hkeeps => hkeeps save hsave⟩
    obtain rfl : save = save' := Option.some.inj (hsave.symm.trans hsave')
    exact hcovered
  | vm_define_delete uuid =>
    obtain ⟨vm, hlookup, rfl⟩ := Option.map_eq_some_iff.mp hstep
    obtain ⟨hvm, -⟩ := Option.filter_eq_some_iff.mp hlookup
    have hrefreshed : Refreshed nodes _ _ { s with rows := delete_vm s.rows uuid } _ := Refreshed.post_delete vm _
    rw [coherent_iff_covered hcoherent hrefreshed rfl rfl rfl]
    refine ⟨fun hcovered vm' hvm' => ?_, fun hkeeps => hkeeps vm hvm⟩
    obtain rfl : vm = vm' := Option.some.inj (hvm.symm.trans hvm')
    exact hcovered
  | vm_cb uuid vm snap_ids =>
    simp only [step] at hstep
    split at hstep
    · cases hstep
    · obtain rfl := Option.some.inj hstep
      exact coherent_iff_covered hcoherent
        (Refreshed.save_vm_true uuid vm true { s with rows := delete_snapshots s.rows snap_ids }) rfl rfl rfl
  | vm_dc uuid dc =>
    obtain ⟨vm, hchecked, rfl⟩ := Option.map_eq_some_iff.mp hstep
    obtain ⟨hvm, -⟩ := Option.filter_eq_some_iff.mp hchecked
    rw [coherent_iff_covered hcoherent (refreshed_vm_dc uuid dc hvm) rfl rfl rfl]
    refine ⟨fun hcovered vm' hvm' => ?_, fun hkeeps => hkeeps vm hvm⟩
    obtain rfl : vm = vm' := Option.some.inj (hvm.symm.trans hvm')
    exact hcovered
  | vm_snapshot_post snap_id uuid disk_id zpool =>
    obtain ⟨storage, -, hstep⟩ := Option.bind_eq_some_iff.mp hstep
    split at hstep
    · cases hstep
    · next hnew =>
      obtain rfl := Option.some.inj hstep
      rw [Bool.not_eq_true, Option.isSome_eq_false_iff, Option.isNone_iff_eq_none] at hnew
      exact ⟨fun _ => trivial, fun _ => coherent_of_size_eq hcoherent (size_save_snapshot hnew rfl)⟩
  | vm_snapshot_status snap_ids status =>
    obtain rfl := Option.some.inj hstep
    exact ⟨fun _ => trivial, fun _ => coherent_of_size_eq hcoherent (size_update_snapshots_status _ _ _)⟩
  | vm_snapshot_delete snap_ids =>
    obtain rfl := Option.some.inj hstep
    exact coherent_iff_covered hcoherent (Refreshed.refl _) rfl rfl rfl
  | vm_snapshot_sync_cb uuid disk_id zpool node_snaps new_snaps running =>
    obtain ⟨storage, hstorage, rfl⟩ := Option.map_eq_some_iff.mp hstep
    have hrefreshed : Refreshed nodes _ _
        { s with rows := sync_vm_snapshots s.rows uuid disk_id storage.1 node_snaps new_snaps running }
        (Snapshot.update_resources nodes storage.1 storage.2 _) := Refreshed.update_snapshots _
    rw [coherent_iff_covered hcoherent hrefreshed rfl rfl rfl]
    refine ⟨fun hcovered storage' hstorage' => ?_, fun hkeeps => hkeeps storage hstorage⟩
    obtain rfl : storage = storage' := Option.some.inj (hstorage.symm.trans hstorage')
    exact hcovered
  | node_vm_snapshot_sync_cb ns node_snaps node_bkps rep_snaps_size running is_backup =>
    obtain rfl := Option.some.inj hstep
    exact coherent_iff_covered hcoherent (Refreshed.sync_snapshots ns _) rfl rfl rfl
  | vm_backup_post bkp_id uuid type zpool =>
    obtain ⟨vm, -, hstep⟩ := Option.bind_eq_some_iff.mp hstep
    split at hstep
    · cases hstep
    · next hnew =>
      obtain rfl := Option.some.inj hstep
      rw [Bool.not_eq_true, Option.isSome_eq_false_iff, Option.isNone_iff_eq_none] at hnew
      exact ⟨fun _ => trivial, fun _ => coherent_of_size_eq hcoherent (size_save_backup hnew rfl)⟩
  | vm_backup_status bkp_ids status =>
    obtain rfl := Option.some.inj hstep
    exact ⟨fun _ => trivial, fun _ => coherent_of_size_eq hcoherent (size_update_backups_status _ _ _)⟩
  | vm_backup_post_cb bkp_id size success =>
    obtain ⟨bkp, hbkp, rfl⟩ := Option.map_eq_some_iff.mp hstep
    refine ⟨fun _ => trivial, fun _ => ?_⟩
    have hrefreshed : Refreshed nodes _ _ { s with rows := backup_done s.rows bkp_id bkp size success }
        (Backup.update_resources nodes bkp.zpool bkp.dc _) := Refreshed.update_backups _
    exact (coherent_iff_covered hcoherent hrefreshed rfl rfl rfl).mpr (covered_backup_done hbkp)
  | vm_backup_delete_cb bkp_ids update_snapshots success files =>
    obtain ⟨⟨rows, refreshed⟩, hdeleted, rfl⟩ := Option.map_eq_some_iff.mp hstep
    have hdone : ∀ s' : State Dc NodeId Zpool VmId,
        (Coherent nodes s' ↔ Covered nodes s rows (fun key => ∃ bkp ∈ refreshed,
          key = .BACKUP_SIZE_TOTAL bkp.zpool ∨ key = .BACKUP_SIZE_DC bkp.dc bkp.zpool) fun _ => False) →
        (Coherent nodes s' ↔ Keeps nodes s (.vm_backup_delete_cb bkp_ids update_snapshots success files)) := by
      intro s' hiff
      rw [hiff]
      refine ⟨fun hcovered deleted hdeleted' => ?_, fun hkeeps => hkeeps _ hdeleted⟩
      obtain rfl : (rows, refreshed) = deleted := Option.some.inj (hdeleted.symm.trans hdeleted')
      exact hcovered
    apply hdone
    cases refreshed with
    | none => exact coherent_iff_covered hcoherent ((Refreshed.refl _).of_eq (by simp) rfl) rfl rfl rfl
    | some bkp =>
      have hrefreshed : Refreshed nodes _ _ { s with rows := rows } (Backup.update_resources nodes bkp.zpool bkp.dc _) :=
        Refreshed.update_backups _
      exact coherent_iff_covered hcoherent (hrefreshed.of_eq (by simp) rfl) rfl rfl rfl
  | vm_backup_delete_lost bkp_ids =>
    obtain rfl := Option.some.inj hstep
    exact coherent_iff_covered hcoherent (Refreshed.refl _) rfl rfl rfl

end operations

section runs

/-- A VM that is moved takes its size away from its old datacenter, where nothing is computed again. -/
theorem not_keeps_vm_dc {s : State Dc NodeId Zpool VmId} {uuid : VmId} {dc : Dc} {vm : Vm Dc NodeId Zpool}
    {ns : NodeStorage NodeId Zpool} (hvm : s.rows.vm_set.lookup uuid = some vm) (hnode : vm.node = some ns.node)
    (hdc : vm.dc ≠ dc) (hsize : get_disk_size vm ns.zpool ≠ 0) (hcached : s.sizes (.VMS_SIZE_DC vm.dc ns) ≠ none) :
    ¬ Keeps nodes s (.vm_dc uuid dc) := by
  intro hkeeps
  have hamount : vm_amount ns (some vm.dc) vm = get_disk_size vm ns.zpool := by simp [vm_amount, hnode]
  have hamount' : vm_amount ns (some vm.dc) { vm with dc := dc } = 0 := by simp [vm_amount, hdc.symm]
  have hchanged : Key.size (move_backups (s.rows.save_vm uuid { vm with dc := dc }) uuid dc) (.VMS_SIZE_DC vm.dc ns) ≠
      Key.size s.rows (.VMS_SIZE_DC vm.dc ns) := by
    simp only [Key.size, calculate_vms_size_eq, move_backups, update_backups, Rows.save_vm]
    rw [Dict.sum_entries_insert, s.rows.vm_set.sum_entries_erase _ hvm, hamount, hamount']
    omega
  rcases (hkeeps vm hvm).1 _ hcached hchanged with (⟨_, -, hasks⟩ | ⟨_, -, _, -, heq⟩) | ⟨_, -, heq | heq | ⟨_, -, heq | heq⟩⟩
  · simp [NodeStorage.Recalculate.Asks, hdc] at hasks
  all_goals cases heq

/-- From coherent caches, in particular from empty ones, every run of operations that
refresh what they change ends, and so passes, through coherent caches only. -/
theorem coherent_run {s t : State Dc NodeId Zpool VmId} {es : List (Event Dc NodeId Zpool VmId)}
    (hrun : Run (step nodes) (Keeps nodes) s es t) (hcoherent : Coherent nodes s) : Coherent nodes t :=
  hrun.invariant (fun _ _ _ hcoherent hkeeps hstep => (coherent_step hcoherent hstep).mpr hkeeps) hcoherent

theorem coherent_of_empty {s : State Dc NodeId Zpool VmId} (hsizes : s.sizes = fun _ => none)
    (htotals : s.size_total_dc = fun _ => none) : Coherent nodes s := by
  constructor
  · rw [hsizes]
    exact derived_cache.coherent_empty _
  · rw [htotals]
    exact derived_cache.coherent_empty _

/-- Whatever is in the database, the caches stay coherent as long as every operation
refreshes what it changes, and the first one that does not leaves a wrong size in them. -/
theorem caches_coherent_iff_keeps (nodes : Nodes Dc NodeId Zpool) {s : State Dc NodeId Zpool VmId}
    (hsizes : s.sizes = fun _ => none) (htotals : s.size_total_dc = fun _ => none) :
    ∀ es t, Run (step nodes) (Keeps nodes) s es t →
      Coherent nodes t ∧ ∀ e u, step nodes t e = some u → (Coherent nodes u ↔ Keeps nodes t e) := by
  intro es t hrun
  have hcoherent := coherent_run hrun (coherent_of_empty hsizes htotals)
  exact ⟨hcoherent, fun e u hstep => coherent_step hcoherent hstep⟩

/-- Two datacenters with one storage. -/
def two_dcs : Nodes ℕ ℕ ℕ where
  storages := [⟨0, 0⟩]
  nodup := List.nodup_singleton _
  dc := fun _ => [0, 1]
  size := fun _ => 100000
  size_coef := fun _ => 1
  zpool := fun node => if node = 0 then some 0 else none
  zpool_mem := by
    intro node zpool hzpool
    by_cases hnode : node = 0
    · simp only [hnode, if_true, Option.some.injEq] at hzpool
      simp [hnode, ← hzpool]
    · simp [hnode] at hzpool
  shared := fun _ => true

/-- A stopped VM of the first datacenter with one disk, and nothing cached. -/
def one_vm : State ℕ ℕ ℕ ℕ where
  rows :=
    let json : Json ℕ := ⟨100, 1024, 1280, 0, 0, false, false, [⟨0, 10240⟩]⟩
    ⟨(∅ : Dict ℕ (Vm ℕ ℕ ℕ)).insert 0 ⟨0, some 0, true, .STOPPED, none, json, json⟩, ∅, ∅⟩
  size_free := fun _ => 0
  sizes := fun _ => none
  size_total_dc := fun _ => none
  rep_snapshots := fun _ => 0

/-- The same after the size of the first datacenter was read. -/
def one_vm_read : State ℕ ℕ ℕ ℕ :=
  let size : ℤ := _calculate_vms_size one_vm.rows ⟨0, 0⟩ (some 0)
  { one_vm with sizes := Function.update one_vm.sizes (.VMS_SIZE_DC 0 ⟨0, 0⟩) (some size) }

/-- The size of the datacenter is read, then the disk of its VM grows. -/
theorem caches_coherent_disk : ∃ t, Run (step two_dcs) (Keeps two_dcs) one_vm
    [.get (.VMS_SIZE_DC 0 ⟨0, 0⟩), .vm_define 0 (.vm_define_disk_put 0 ⟨0, 20480⟩)] t ∧ Coherent two_dcs t := by
  have hread : step two_dcs one_vm (.get (.VMS_SIZE_DC 0 ⟨0, 0⟩)) = some one_vm_read := rfl
  have hsaved : (save_arguments two_dcs one_vm_read.rows 0 (.vm_define_disk_put 0 ⟨0, 20480⟩)).map
      (fun save => (save.vm.dc, save.update_storage_resources)) = some (0, some [⟨0, 0⟩]) := by decide +kernel
  obtain ⟨save, hsave, hstorages⟩ := Option.map_eq_some_iff.mp hsaved
  rw [Prod.mk.injEq] at hstorages
  have hstep : step two_dcs one_vm_read (.vm_define 0 (.vm_define_disk_put 0 ⟨0, 20480⟩)) = some
      (save_vm two_dcs 0 save.vm save.update_node_resources save.update_storage_resources one_vm_read) := by
    simp only [step, hsave, Option.map_some]
  have hkeeps : Keeps two_dcs one_vm_read (.vm_define 0 (.vm_define_disk_put 0 ⟨0, 20480⟩)) := by
    intro save' hsave'
    obtain rfl : save = save' := Option.some.inj (hsave.symm.trans hsave')
    refine ⟨fun key hcached _ => Or.inl ⟨⟨0, 0⟩, ?_, ?_⟩, fun dc hcached => absurd rfl hcached⟩
    · rw [Save.storages, hstorages.2]
      exact List.mem_cons_self
    · have hkey : key = .VMS_SIZE_DC 0 ⟨0, 0⟩ := by
        by_contra hkey
        exact hcached (Function.update_of_ne hkey _ _)
      rw [hkey, hstorages.1]
      exact ⟨List.mem_cons_self, rfl⟩
  have hrun := Run.cons trivial hread (.cons hkeeps hstep (.nil _))
  exact ⟨_, hrun, (caches_coherent_iff_keeps two_dcs rfl rfl _ _ hrun).1⟩

/-- The size of the VMs of the old datacenter is read, the VM is moved, and the cached size stays. -/
theorem caches_not_coherent :
    ¬ ∀ (nodes : Nodes ℕ ℕ ℕ) (s : State ℕ ℕ ℕ ℕ), (s.sizes = fun _ => none) → (s.size_total_dc = fun _ => none) →
      ∀ es t, Run (step nodes) transition.anyStep s es t → Coherent nodes t := by
  intro hclaim
  have hexec : (transition.exec (step two_dcs) transition.anyStep one_vm
      [.get (.VMS_SIZE_DC 0 ⟨0, 0⟩), .vm_dc 0 1]).any (fun t => t.sizes (.VMS_SIZE_DC 0 ⟨0, 0⟩) = some 10240 &&
        Key.size t.rows (.VMS_SIZE_DC 0 ⟨0, 0⟩) = 0) = true := by decide +kernel
  obtain ⟨t, hrun, htest⟩ := Run.exists_of_exec hexec
  simp only [Bool.and_eq_true, decide_eq_true_eq] at htest
  have hsize := (hclaim two_dcs one_vm rfl rfl _ t hrun).sizes _ _ htest.1
  rw [htest.2] at hsize
  cases hsize

end runs

end api.storage
