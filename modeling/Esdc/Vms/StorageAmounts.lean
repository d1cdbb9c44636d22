import Mathlib
import Esdc.Vms.StorageSizes

namespace vms.storage

open accounting (Vm)

variable {Dc NodeId Zpool VmId : Type} [DecidableEq Dc] [DecidableEq NodeId] [DecidableEq Zpool] [DecidableEq VmId]

/-- What a VM adds to the size of a storage. -/
def vm_amount (ns : NodeStorage NodeId Zpool) (dc : Option Dc) (vm : Vm Dc NodeId Zpool) : ℕ :=
  if vm.node = some ns.node && dc.all (vm.dc = ·) then get_disk_size vm ns.zpool else 0

/-- What a snapshot adds to the size of a storage, in bytes. -/
def snapshot_amount (vm_set : Dict VmId (Vm Dc NodeId Zpool)) (ns : NodeStorage NodeId Zpool) (dc : Option Dc)
    (snap : Snapshot NodeId Zpool VmId) : ℕ :=
  if snap.zpool = ns && dc.all fun dc => (vm_set.lookup snap.vm).any fun vm => vm.dc = dc then snap.size.getD 0 else 0

omit [DecidableEq VmId] in
/-- What a backup adds to the size of a storage, in bytes. -/
def backup_amount (ns : NodeStorage NodeId Zpool) (dc : Option Dc) (bkp : Backup Dc NodeId Zpool VmId) : ℕ :=
  if bkp.zpool = ns && dc.all (bkp.dc = ·) then bkp.size.getD 0 else 0

theorem sum_filter {α : Type} (rows : List α) (p : α → Bool) (size : α → ℕ) :
    ((rows.filter p).map size).sum = (rows.map fun row => if p row then size row else 0).sum := by
  induction rows with
  | nil => rfl
  | cons row rows ih => cases hp : p row <;> simp [hp, ih]

/-- The excluded rows have no size, whatever their status. -/
theorem sum_not_excluded {α : Type} (rows : List α) (p q excluded : α → Bool) (size : α → Option ℕ)
    (hexcluded : ∀ row, excluded row = true → size row = none) :
    ((((rows.filter fun row => p row && !excluded row).filter q).map size).map (·.getD 0)).sum =
      (rows.map fun row => if p row && q row then (size row).getD 0 else 0).sum := by
  rw [List.filter_filter, List.map_map, sum_filter]
  congr 1
  apply List.map_congr_left
  intro row _
  cases he : excluded row with
  | true => simp [hexcluded row he]
  | false => simp [Bool.and_comm]

omit [DecidableEq VmId] in
theorem calculate_vms_size_eq (rows : Rows Dc NodeId Zpool VmId) (ns : NodeStorage NodeId Zpool) (dc : Option Dc) :
    _calculate_vms_size rows ns dc = (rows.vm_set.entries.map fun row => vm_amount ns dc row.2).sum :=
  sum_filter _ _ _

theorem calculate_snapshots_size_eq (rows : Rows Dc NodeId Zpool VmId) (ns : NodeStorage NodeId Zpool)
    (dc : Option Dc) : _calculate_snapshots_size rows ns dc =
      b_to_mb (rows.snapshots.entries.map fun snap => snapshot_amount rows.vm_set ns dc snap.2).sum := by
  rw [_calculate_snapshots_size, sum_size]
  congr 1
  apply sum_not_excluded rows.snapshots.entries (fun snap => snap.2.zpool = ns) _ _ fun snap => snap.2.size
  intro snap hsnap
  simp only [Bool.and_eq_true, Option.isNone_iff_eq_none] at hsnap
  exact hsnap.2

omit [DecidableEq VmId] in
theorem calculate_backups_size_eq (rows : Rows Dc NodeId Zpool VmId) (ns : NodeStorage NodeId Zpool)
    (dc : Option Dc) : _calculate_backups_size rows ns dc =
      b_to_mb (rows.backups.entries.map fun bkp => backup_amount ns dc bkp.2).sum := by
  rw [_calculate_backups_size, sum_size]
  congr 1
  apply sum_not_excluded rows.backups.entries (fun bkp => bkp.2.zpool = ns) _ _ fun bkp => bkp.2.size
  intro bkp hbkp
  simp only [Bool.and_eq_true, Option.isNone_iff_eq_none] at hbkp
  exact hbkp.2

/-- The sizes depend on what the rows add to the storages. -/
theorem size_congr {rows rows' : Rows Dc NodeId Zpool VmId} (hvm_set : rows'.vm_set = rows.vm_set)
    (hsnapshots : ∀ ns dc, (rows'.snapshots.entries.map fun snap => snapshot_amount rows.vm_set ns dc snap.2).sum =
      (rows.snapshots.entries.map fun snap => snapshot_amount rows.vm_set ns dc snap.2).sum)
    {key : Key Dc NodeId Zpool} (hbackups : ∀ ns dc, key = .BACKUP_SIZE_TOTAL ns ∧ dc = none ∨
      (∃ d, key = .BACKUP_SIZE_DC d ns ∧ dc = some d) →
        (rows'.backups.entries.map fun bkp => backup_amount ns dc bkp.2).sum =
          (rows.backups.entries.map fun bkp => backup_amount ns dc bkp.2).sum) :
    key.size rows' = key.size rows := by
  cases key with
  | VMS_SIZE_TOTAL ns => simp only [Key.size, calculate_vms_size_eq, hvm_set]
  | VMS_SIZE_DC dc ns => simp only [Key.size, calculate_vms_size_eq, hvm_set]
  | SNAPSHOT_SIZE_TOTAL ns => simp only [Key.size, calculate_snapshots_size_eq, hvm_set, hsnapshots]
  | SNAPSHOT_SIZE_DC dc ns => simp only [Key.size, calculate_snapshots_size_eq, hvm_set, hsnapshots]
  | BACKUP_SIZE_TOTAL ns =>
    simp only [Key.size, calculate_backups_size_eq, hbackups ns none (Or.inl ⟨rfl, rfl⟩)]
  | BACKUP_SIZE_DC dc ns =>
    simp only [Key.size, calculate_backups_size_eq, hbackups ns (some dc) (Or.inr ⟨dc, rfl, rfl⟩)]

end vms.storage
