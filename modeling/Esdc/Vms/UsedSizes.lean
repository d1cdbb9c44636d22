import Mathlib
import Esdc.Vms.StorageAmounts

namespace vms.storage

open accounting (Vm)

section

variable {Dc NodeId Zpool VmId : Type} [DecidableEq Dc] [DecidableEq NodeId] [DecidableEq Zpool] [DecidableEq VmId]

/-- A sum that is not in the cache. -/
def get_cached_size (cached : Option ℕ) (sizes : List (Option ℕ)) : ℕ := cached.getD (sum_size sizes)

def Snapshot.get_total_dc_size (rows : Rows Dc NodeId Zpool VmId) (cached : Option ℕ) (dc : Dc) : ℕ :=
  let qs := rows.snapshots.entries.filter fun snap =>
    ((rows.vm_set.lookup snap.2.vm).any fun vm => vm.dc = dc) &&
      !(snap.2.status ∈ [.PENDING, .LOST] && snap.2.size.isNone)
  get_cached_size cached (qs.map fun snap => snap.2.size)

omit [DecidableEq Dc] [DecidableEq NodeId] [DecidableEq Zpool] in
def Snapshot.get_total_vm_size (rows : Rows Dc NodeId Zpool VmId) (cached : Option ℕ) (vm : VmId) : ℕ :=
  let qs := rows.snapshots.entries.filter fun snap =>
    snap.2.vm = vm && !(snap.2.status ∈ [.PENDING, .LOST] && snap.2.size.isNone)
  get_cached_size cached (qs.map fun snap => snap.2.size)

omit [DecidableEq NodeId] [DecidableEq Zpool] [DecidableEq VmId] in
def Backup.get_total_dc_size (rows : Rows Dc NodeId Zpool VmId) (cached : Option ℕ) (dc : Dc) : ℕ :=
  let qs := rows.backups.entries.filter fun bkp =>
    bkp.2.dc = dc && !(bkp.2.status ∈ [.PENDING, .LOST] && bkp.2.size.isNone)
  get_cached_size cached (qs.map fun bkp => bkp.2.size)

omit [DecidableEq Dc] [DecidableEq NodeId] [DecidableEq Zpool] in
def Backup.get_total_vm_size (rows : Rows Dc NodeId Zpool VmId) (cached : Option ℕ) (vm : VmId) : ℕ :=
  let qs := rows.backups.entries.filter fun bkp =>
    bkp.2.vm = some vm && !(bkp.2.status ∈ [.PENDING, .LOST] && bkp.2.size.isNone)
  get_cached_size cached (qs.map fun bkp => bkp.2.size)

/-- The totals of the snapshots or the backups of a storage, of a datacenter and of a VM. -/
inductive Total (Dc NodeId Zpool VmId : Type)
  | storage_snapshots (ns : NodeStorage NodeId Zpool) (dc : Option Dc)
  | storage_backups (ns : NodeStorage NodeId Zpool) (dc : Option Dc)
  | dc_snapshots (dc : Dc)
  | dc_backups (dc : Dc)
  | vm_snapshots (vm : VmId)
  | vm_backups (vm : VmId)

/-- A total that is computed, in MB. -/
def Total.size (rows : Rows Dc NodeId Zpool VmId) : Total Dc NodeId Zpool VmId → ℕ
  | .storage_snapshots ns dc => _calculate_snapshots_size rows ns dc
  | .storage_backups ns dc => _calculate_backups_size rows ns dc
  | .dc_snapshots dc => Snapshot.get_total_dc_size rows none dc
  | .dc_backups dc => Backup.get_total_dc_size rows none dc
  | .vm_snapshots vm => Snapshot.get_total_vm_size rows none vm
  | .vm_backups vm => Backup.get_total_vm_size rows none vm

/-- The rows of a total: whether one is pending or lost, and its size. -/
def Total.scope (rows : Rows Dc NodeId Zpool VmId) : Total Dc NodeId Zpool VmId → List (Bool × Option ℕ)
  | .storage_snapshots ns dc => snapshots fun snap =>
      snap.zpool = ns && dc.all fun dc => (rows.vm_set.lookup snap.vm).any fun vm => vm.dc = dc
  | .storage_backups ns dc => backups fun bkp => bkp.zpool = ns && dc.all (bkp.dc = ·)
  | .dc_snapshots dc => snapshots fun snap => (rows.vm_set.lookup snap.vm).any fun vm => vm.dc = dc
  | .dc_backups dc => backups fun bkp => bkp.dc = dc
  | .vm_snapshots vm => snapshots fun snap => snap.vm = vm
  | .vm_backups vm => backups fun bkp => bkp.vm = some vm
where
  snapshots (p : Snapshot NodeId Zpool VmId → Bool) : List (Bool × Option ℕ) :=
    (rows.snapshots.entries.filter fun snap => p snap.2).map fun snap =>
      (decide (snap.2.status ∈ [.PENDING, .LOST]), snap.2.size)
  backups (p : Backup Dc NodeId Zpool VmId → Bool) : List (Bool × Option ℕ) :=
    (rows.backups.entries.filter fun bkp => p bkp.2).map fun bkp =>
      (decide (bkp.2.status ∈ [.PENDING, .LOST]), bkp.2.size)

end

/-- The known sizes of the rows that are neither pending nor lost, in bytes. -/
def usable_size (scope : List (Bool × Option ℕ)) : ℕ :=
  ((scope.filter fun row => !row.1).map fun row => row.2.getD 0).sum

/-- The known sizes of the pending and the lost rows, in bytes. -/
def unusable_size (scope : List (Bool × Option ℕ)) : ℕ :=
  ((scope.filter fun row => row.1).map fun row => row.2.getD 0).sum

theorem usable_add_unusable (scope : List (Bool × Option ℕ)) :
    usable_size scope + unusable_size scope = (scope.map fun row => row.2.getD 0).sum := by
  induction scope with
  | nil => rfl
  | cons row scope ih =>
    obtain ⟨unusable, size⟩ := row
    unfold usable_size unusable_size at ih ⊢
    cases unusable with
    | false =>
      simp only [List.filter_cons, Bool.not_false, if_true, Bool.false_eq_true, if_false, List.map_cons, List.sum_cons]
      omega
    | true =>
      simp only [List.filter_cons, Bool.not_true, if_true, Bool.false_eq_true, if_false, List.map_cons, List.sum_cons]
      omega

/-- Dividing loses nothing but what is below one megabyte. -/
theorem b_to_mb_add_eq_iff (m n : ℕ) : b_to_mb (m + n) = b_to_mb m ↔ m % 1048576 + n < 1048576 := by
  unfold b_to_mb
  omega

section sums

variable {α β : Type} [DecidableEq β]

/-- The excluded rows of a query with one condition have no size. -/
theorem sum_kept (rows : List α) (p excluded : α → Bool) (size : α → Option ℕ)
    (hexcluded : ∀ row, excluded row = true → size row = none) :
    (((rows.filter fun row => p row && !excluded row).map size).map (·.getD 0)).sum =
      ((rows.filter p).map fun row => (size row).getD 0).sum := by
  rw [List.map_map, sum_filter, sum_filter]
  congr 1
  apply List.map_congr_left
  intro row _
  cases he : excluded row with
  | true => simp [hexcluded row he]
  | false => simp

/-- Every row lies on one of the storages. -/
theorem sum_storages (rows : List α) (storage : α → β) (storages : Finset β) (q : α → Bool) (size : α → ℕ)
    (hstorages : ∀ row ∈ rows, storage row ∈ storages) :
    ∑ ns ∈ storages, ((rows.filter fun row => storage row = ns && q row).map size).sum =
      ((rows.filter q).map size).sum := by
  induction rows with
  | nil => exact Finset.sum_eq_zero fun _ _ => rfl
  | cons row rows ih =>
    have hrest := ih fun row' hrow' => hstorages row' (List.mem_cons_of_mem _ hrow')
    have hmem := hstorages row List.mem_cons_self
    have hsplit : ∀ ns, (((row :: rows).filter fun row => storage row = ns && q row).map size).sum =
        (if storage row = ns then (if q row then size row else 0) else 0) +
          ((rows.filter fun row => storage row = ns && q row).map size).sum := by
      intro ns
      rw [List.filter_cons]
      by_cases hns : storage row = ns <;> cases hq : q row <;> simp [hns]
    rw [Finset.sum_congr rfl fun ns _ => hsplit ns, Finset.sum_add_distrib, hrest, Finset.sum_ite_eq,
      if_pos hmem, List.filter_cons]
    cases hq : q row <;> simp

/-- Rounding each part down loses less than one megabyte for each. -/
theorem sum_b_to_mb (storages : Finset β) (size : β → ℕ) :
    ∑ ns ∈ storages, b_to_mb (size ns) ≤ b_to_mb (∑ ns ∈ storages, size ns) ∧
      b_to_mb (∑ ns ∈ storages, size ns) ≤ ∑ ns ∈ storages, b_to_mb (size ns) + storages.card := by
  induction storages using Finset.induction_on with
  | empty => simp [b_to_mb]
  | insert ns storages hns ih =>
    rw [Finset.sum_insert hns, Finset.sum_insert hns, Finset.card_insert_of_notMem hns]
    unfold b_to_mb at ih ⊢
    omega

end sums

section totals

variable {Dc NodeId Zpool VmId : Type} [DecidableEq Dc] [DecidableEq NodeId] [DecidableEq Zpool] [DecidableEq VmId]

theorem excluded_size {unusable : Bool} {size : Option ℕ} (hexcluded : (unusable && size.isNone) = true) :
    size = none := by
  rw [Bool.and_eq_true, Option.isNone_iff_eq_none] at hexcluded
  exact hexcluded.2

/-- A total counts every row of its scope that has a size. -/
theorem size_eq (rows : Rows Dc NodeId Zpool VmId) (total : Total Dc NodeId Zpool VmId) :
    total.size rows = b_to_mb ((total.scope rows).map fun row => row.2.getD 0).sum := by
  cases total with
  | storage_snapshots ns dc =>
    rw [Total.size, calculate_snapshots_size_eq, Total.scope, Total.scope.snapshots, List.map_map]
    congr 1
    exact (sum_filter _ _ _).symm
  | storage_backups ns dc =>
    rw [Total.size, calculate_backups_size_eq, Total.scope, Total.scope.backups, List.map_map]
    congr 1
    exact (sum_filter _ _ _).symm
  | dc_snapshots dc =>
    rw [Total.scope, Total.scope.snapshots, List.map_map]
    exact congrArg b_to_mb (sum_kept _ _ _ _ fun _ => excluded_size)
  | dc_backups dc =>
    rw [Total.scope, Total.scope.backups, List.map_map]
    exact congrArg b_to_mb (sum_kept _ _ _ _ fun _ => excluded_size)
  | vm_snapshots vm =>
    rw [Total.scope, Total.scope.snapshots, List.map_map]
    exact congrArg b_to_mb (sum_kept _ _ _ _ fun _ => excluded_size)
  | vm_backups vm =>
    rw [Total.scope, Total.scope.backups, List.map_map]
    exact congrArg b_to_mb (sum_kept _ _ _ _ fun _ => excluded_size)

/-- Every total is that of the usable rows, and those of the storages agree with that of the datacenter up to one
megabyte for each storage. -/
structure Accurate (rows : Rows Dc NodeId Zpool VmId) : Prop where
  usable : ∀ total : Total Dc NodeId Zpool VmId, total.size rows = b_to_mb (usable_size (total.scope rows))
  snapshots : ∀ (storages : Finset (NodeStorage NodeId Zpool)) (dc : Dc),
    (∀ snap ∈ rows.snapshots.entries, snap.2.zpool ∈ storages) →
      ∑ ns ∈ storages, (Total.storage_snapshots ns (some dc)).size rows ≤ (Total.dc_snapshots dc).size rows ∧
        (Total.dc_snapshots dc).size rows ≤
          ∑ ns ∈ storages, (Total.storage_snapshots ns (some dc)).size rows + storages.card
  backups : ∀ (storages : Finset (NodeStorage NodeId Zpool)) (dc : Dc),
    (∀ bkp ∈ rows.backups.entries, bkp.2.zpool ∈ storages) →
      ∑ ns ∈ storages, (Total.storage_backups ns (some dc)).size rows ≤ (Total.dc_backups dc).size rows ∧
        (Total.dc_backups dc).size rows ≤
          ∑ ns ∈ storages, (Total.storage_backups ns (some dc)).size rows + storages.card

/-- The totals are accurate if and only if in the scope of each the pending and the lost rows are together smaller
than what the others lack to the next megabyte. -/
theorem accurate_iff (rows : Rows Dc NodeId Zpool VmId) :
    Accurate rows ↔ ∀ total : Total Dc NodeId Zpool VmId,
      usable_size (total.scope rows) % 1048576 + unusable_size (total.scope rows) < 1048576 := by
  constructor
  · intro haccurate total
    have husable := haccurate.usable total
    rw [size_eq, ← usable_add_unusable] at husable
    exact (b_to_mb_add_eq_iff _ _).mp husable
  · intro hsmall
    constructor
    · intro total
      rw [size_eq, ← usable_add_unusable]
      exact (b_to_mb_add_eq_iff _ _).mpr (hsmall total)
    · intro storages dc hstorages
      have hsum := sum_storages rows.snapshots.entries (fun snap => snap.2.zpool) storages
        (fun snap => (rows.vm_set.lookup snap.2.vm).any fun vm => vm.dc = dc) (fun snap => snap.2.size.getD 0) hstorages
      have hround := sum_b_to_mb storages fun ns =>
        (((Total.storage_snapshots ns (some dc)).scope rows).map fun row => row.2.getD 0).sum
      simp only [size_eq, Total.scope, Total.scope.snapshots, List.map_map, Function.comp_def, Option.all_some]
        at hround ⊢
      rw [← hsum]
      exact hround
    · intro storages dc hstorages
      have hsum := sum_storages rows.backups.entries (fun bkp => bkp.2.zpool) storages
        (fun bkp => bkp.2.dc = dc) (fun bkp => bkp.2.size.getD 0) hstorages
      have hround := sum_b_to_mb storages fun ns =>
        (((Total.storage_backups ns (some dc)).scope rows).map fun row => row.2.getD 0).sum
      simp only [size_eq, Total.scope, Total.scope.backups, List.map_map, Function.comp_def, Option.all_some]
        at hround ⊢
      rw [← hsum]
      exact hround

end totals

/-- A lost snapshot of two megabytes. -/
def lost_snapshot : Rows ℕ ℕ ℕ ℕ where
  vm_set := ∅
  snapshots := AList.singleton 1 ⟨1, 1, .LOST, ⟨1, 1⟩, some 2097152⟩
  backups := ∅

/-- Its size is counted. -/
theorem not_accurate_lost_snapshot : ¬ Accurate lost_snapshot := by
  intro haccurate
  have husable := haccurate.usable (.vm_snapshots 1)
  revert husable
  decide

end vms.storage
