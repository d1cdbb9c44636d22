import Mathlib
import Esdc.Api.Vm.Retention

namespace api.vm.retaining

open vms.disk_model
open snapshot (Snapshot)
open disk_backup (Backup BackupDefine Backups)

section retained

variable {R K : Type} {key : R → K}

theorem own_of_records {model : Model R} {define_id disk_id id : ℕ} {row : R}
    (hrow : model.records define_id disk_id id row) :
    model.disk_id row = disk_id ∧ model.define_id row = some define_id ∧ model.ok row := by
  obtain ⟨hrest, hok⟩ := Bool.and_eq_true_iff.mp hrow
  obtain ⟨hdisk, hdefine⟩ := Bool.and_eq_true_iff.mp hrest
  exact ⟨of_decide_eq_true hdisk, of_decide_eq_true hdefine, hok⟩

/-- Of the records of a definition at most so many are left, they are the newest ones, and only records of its
disk are gone. -/
structure Retained (model : Model R) (define_id disk_id : ℕ) (retention : ℤ) (t u : Table R key) : Prop where
  bounded : (u.count (model.records define_id disk_id) : ℤ) ≤ retention
  newest : ∀ id ∈ u.ids (model.records define_id disk_id),
    ∀ id' ∈ t.ids (model.records define_id disk_id) \ u.ids (model.records define_id disk_id), id' < id
  own_disk : ∀ id row, t.rows.lookup id = some row → u.rows.lookup id = none → model.disk_id row = disk_id

/-- The records that are too many. -/
def excess (model : Model R) (t : Table R key) (define_id disk_id : ℕ) (retention : ℤ) : List (ℕ × R) :=
  t.oldest (model.records define_id disk_id) (t.count (model.records define_id disk_id) - retention).toNat

variable {model : Model R} {define_id disk_id : ℕ} {retention : ℤ} {t u : Table R key} {D : Finset ℕ}

theorem retained_of_oldest (hretention : 0 ≤ retention) {n : ℕ}
    (hn : (t.count (model.records define_id disk_id) - retention).toNat = n)
    (hdeleted : Table.Deleted t u (t.oldest_ids (model.records define_id disk_id) n)) :
    Retained model define_id disk_id retention t u where
  bounded := by
    rw [← Table.card_ids, hdeleted.ids_eq, Finset.card_sdiff_of_subset Table.oldest_ids_subset, Table.card_oldest_ids,
      Table.card_ids]
    omega
  newest := by
    intro id hid id' hid'
    rw [hdeleted.ids_eq] at hid hid'
    rw [Finset.mem_sdiff, Finset.mem_sdiff, not_and_not_right] at hid'
    exact Table.oldest_lt (hid'.2 hid'.1) hid
  own_disk := by
    intro id row hlookup hnone
    obtain ⟨row', hlookup', hrecord⟩ := Table.mem_ids.mp (Table.oldest_ids_subset (hdeleted.mem_of_lookup hlookup hnone))
    obtain rfl := Option.some.inj (hlookup.symm.trans hlookup')
    exact (own_of_records hrecord).1

/-- When no more rows are deleted than records are too many, these must have been the oldest records. -/
theorem eq_oldest_of_retained (hretention : 0 ≤ retention) {n : ℕ}
    (hn : (t.count (model.records define_id disk_id) - retention).toNat = n) (hdeleted : Table.Deleted t u D)
    (hcard : D.card ≤ n) (hretained : Retained model define_id disk_id retention t u) :
    D = t.oldest_ids (model.records define_id disk_id) n := by
  have hids := hdeleted.ids_eq (model.records define_id disk_id)
  have hbounded := hretained.bounded
  have htotal := Table.card_ids t (model.records define_id disk_id)
  rw [← Table.card_ids, hids] at hbounded
  have hsplit := Finset.card_sdiff_add_card_inter (t.ids (model.records define_id disk_id)) D
  have hinter : (t.ids (model.records define_id disk_id) ∩ D).card ≤ D.card := Finset.card_le_card Finset.inter_subset_right
  have hall : t.ids (model.records define_id disk_id) ∩ D = D :=
    Finset.eq_of_subset_of_card_le Finset.inter_subset_right (by omega)
  apply Table.eq_oldest_ids (Finset.inter_eq_right.mp hall)
  · rw [Table.card_oldest_ids]
    rw [hall] at hsplit
    omega
  · intro id hid id' hid'
    apply hretained.newest id' (hids ▸ hid') id
    rw [hids, Finset.mem_sdiff, Finset.mem_sdiff]
    exact ⟨Finset.inter_eq_right.mp hall hid, fun hnot => hnot.2 hid⟩

end retained

section backups

/-- The backups that a deletion of a list finds. -/
def found_by (disk_id : ℕ) (bkpnames : List String) (_ : ℕ) (row : Backup) : Bool :=
  row.vm_disk_id = disk_id - 1 && row.name ∈ bkpnames

/-- No two of them have one name. -/
theorem card_found_by_le (bkps : Backups) (disk_id : ℕ) (bkpnames : List String) :
    (bkps.ids (found_by disk_id bkpnames)).card ≤ bkpnames.length := by
  have hmaps : ∀ id ∈ bkps.ids (found_by disk_id bkpnames),
      ((bkps.rows.lookup id).map Backup.name).getD "" ∈ bkpnames.toFinset := by
    intro id hid
    obtain ⟨row, hlookup, hfound⟩ := Table.mem_ids.mp hid
    rw [hlookup, List.mem_toFinset]
    exact of_decide_eq_true (Bool.and_eq_true_iff.mp hfound).2
  refine (Finset.card_le_card_of_injOn _ hmaps ?_).trans (List.toFinset_card_le bkpnames)
  intro id hid id' hid' hname
  obtain ⟨row, hlookup, hfound⟩ := Table.mem_ids.mp hid
  obtain ⟨row', hlookup', hfound'⟩ := Table.mem_ids.mp hid'
  simp only [hlookup, hlookup', Option.map_some, Option.getD_some] at hname
  apply bkps.unique id id' row row' hlookup hlookup'
  have hdisk := of_decide_eq_true (Bool.and_eq_true_iff.mp hfound).1
  have hdisk' := of_decide_eq_true (Bool.and_eq_true_iff.mp hfound').1
  exact Prod.ext (hdisk.trans hdisk'.symm) hname

variable {bkps : Backups} {disk_id : ℕ} {bkpnames : List String}

theorem get_backups_eq_ok {found : List (ℕ × Backup)} (hnames : bkpnames ≠ []) :
    disk_backup.get_backups bkps (disk_id - 1) bkpnames = .ok found ↔
      found = bkps.select (found_by disk_id bkpnames) ∧ found ≠ [] ∧ ∃ node, ∀ e ∈ found, e.2.node = node := by
  rw [disk_backup.get_backups, if_neg hnames]
  have hselect : (bkps.select fun _ row => row.vm_disk_id = disk_id - 1 && row.name ∈ bkpnames) =
      bkps.select (found_by disk_id bkpnames) := rfl
  rw [hselect]
  cases bkps.select (found_by disk_id bkpnames) with
  | nil =>
    refine iff_of_false (by simp) ?_
    rintro ⟨rfl, hne, -⟩
    exact hne rfl
  | cons bkp rest =>
    simp only
    split
    · case isTrue hany =>
      refine iff_of_false (by simp) ?_
      rintro ⟨rfl, -, node, hnode⟩
      obtain ⟨e, he, hne⟩ := List.any_eq_true.mp hany
      apply of_decide_eq_true hne
      rw [hnode e (List.mem_cons_of_mem _ he), hnode bkp List.mem_cons_self]
    · case isFalse hany =>
      constructor
      · intro heq
        obtain rfl := Except.ok.inj heq
        refine ⟨rfl, List.cons_ne_nil _ _, bkp.2.node, fun e he => ?_⟩
        rcases List.mem_cons.mp he with rfl | he
        · rfl
        · by_contra hne
          exact hany (List.any_eq_true.mpr ⟨e, he, decide_eq_true hne⟩)
      · rintro ⟨rfl, -⟩
        rfl

theorem deleted_execute (ids : List ℕ) :
    Table.Deleted bkps (disk_backup.vm_backup_list_cb (disk_backup.save_status bkps ids .PENDING) ids) ids.toFinset :=
  Table.deleted_update_delete bkps _ fun _ _ hid => if_neg hid

/-- A list of backups that are all OK and on one node is deleted. -/
theorem vm_backup_list_delete_all (hdisk : disk_id ≠ 0) (hnames : bkpnames ≠ [])
    (hsome : bkps.select (found_by disk_id bkpnames) ≠ [])
    (hok : ∀ e ∈ bkps.select (found_by disk_id bkpnames), e.2.status = .OK)
    (hnode : ∃ node, ∀ e ∈ bkps.select (found_by disk_id bkpnames), e.2.node = node) :
    Table.Deleted bkps (vm_backup_list_delete bkps disk_id bkpnames) (bkps.ids (found_by disk_id bkpnames)) := by
  have hfound := (get_backups_eq_ok hnames).mpr ⟨rfl, hsome, hnode⟩
  have hlost : ((bkps.select (found_by disk_id bkpnames)).any fun bkp => bkp.2.status = .LOST) = false := by
    apply List.any_eq_false.mpr
    intro e he
    simp [hok e he]
  have hbad : ((bkps.select (found_by disk_id bkpnames)).any fun bkp => bkp.2.status ≠ .OK) = false := by
    apply List.any_eq_false.mpr
    intro e he
    simp [hok e he]
  have hdelete : disk_backup.VmBackupList.delete bkps ⟨disk_id, true, true⟩ bkpnames =
      (.ok ((bkps.select (found_by disk_id bkpnames)).map Prod.fst),
        disk_backup.save_status bkps ((bkps.select (found_by disk_id bkpnames)).map Prod.fst) .PENDING) := by
    unfold disk_backup.VmBackupList.delete disk_backup.VmBackupList.execute
    simp only [hdisk, if_false, hfound, hlost, hbad, Bool.not_true, Bool.false_eq_true, if_true]
  rw [vm_backup_list_delete, hdelete]
  exact deleted_execute _

/-- Whatever is deleted was found, by a list of backups on one node. -/
theorem vm_backup_list_delete_cases (bkps : Backups) (disk_id : ℕ) (bkpnames : List String) :
    ∃ D, Table.Deleted bkps (vm_backup_list_delete bkps disk_id bkpnames) D ∧
      D ⊆ bkps.ids (found_by disk_id bkpnames) ∧
      (D.Nonempty → disk_id ≠ 0 ∧ ∃ node, ∀ e ∈ bkps.select (found_by disk_id bkpnames), e.2.node = node) := by
  have hnothing : vm_backup_list_delete bkps disk_id bkpnames = bkps → ∃ D,
      Table.Deleted bkps (vm_backup_list_delete bkps disk_id bkpnames) D ∧ D ⊆ bkps.ids (found_by disk_id bkpnames) ∧
      (D.Nonempty → disk_id ≠ 0 ∧ ∃ node, ∀ e ∈ bkps.select (found_by disk_id bkpnames), e.2.node = node) := by
    intro hsame
    rw [hsame]
    exact ⟨∅, Table.deleted_refl bkps, Finset.empty_subset _, fun hne => absurd hne Finset.not_nonempty_empty⟩
  by_cases hdisk : disk_id = 0
  · apply hnothing
    rw [vm_backup_list_delete, disk_backup.VmBackupList.delete, if_pos hdisk]
  by_cases hnames : bkpnames = []
  · apply hnothing
    rw [vm_backup_list_delete, disk_backup.VmBackupList.delete, if_neg hdisk, disk_backup.get_backups, if_pos hnames]
  cases hfound : disk_backup.get_backups bkps (disk_id - 1) bkpnames with
  | error error =>
    apply hnothing
    rw [vm_backup_list_delete, disk_backup.VmBackupList.delete, if_neg hdisk]
    simp only [hfound]
  | ok found =>
    obtain ⟨hselect, -, hnode⟩ := (get_backups_eq_ok hnames).mp hfound
    have hsub : ∀ id ∈ found.map Prod.fst, id ∈ bkps.ids (found_by disk_id bkpnames) := by
      rw [hselect]
      exact fun id hid => List.mem_toFinset.mpr hid
    rw [hselect] at hnode
    by_cases hlost : (found.any fun bkp => bkp.2.status = .LOST) = true
    · -- the lost ones are deleted first
      let lost : ℕ → Backup → Bool := fun id row => id ∈ found.map Prod.fst && row.status = .LOST
      have hlost_sub : bkps.ids lost ⊆ bkps.ids (found_by disk_id bkpnames) := by
        intro id hid
        obtain ⟨row, -, hrow⟩ := Table.mem_ids.mp hid
        exact hsub id (of_decide_eq_true (Bool.and_eq_true_iff.mp hrow).1)
      let rest := (found.filter fun bkp => bkp.2.status = .OK).map Prod.fst
      have hrest_sub : ∀ id ∈ rest, id ∈ bkps.ids (found_by disk_id bkpnames) := fun id hid =>
        hsub id ((List.filter_sublist.map Prod.fst).subset hid)
      by_cases hrest : rest = []
      · have hdelete : vm_backup_list_delete bkps disk_id bkpnames = disk_backup.vm_backup_list_cb (bkps.delete lost) [] := by
          rw [vm_backup_list_delete, disk_backup.VmBackupList.delete, if_neg hdisk]
          simp only [hfound, hlost, Bool.not_true, Bool.false_eq_true, if_true, if_false]
          rw [if_pos hrest]
        have hdeleted := (Table.deleted_delete bkps lost).trans
          (Table.deleted_delete (bkps.delete lost) fun id _ => id ∈ ([] : List ℕ))
        rw [hdelete]
        refine ⟨_, hdeleted, ?_, fun _ => ⟨hdisk, hnode⟩⟩
        apply Finset.union_subset hlost_sub
        intro id hid
        obtain ⟨row, -, hrow⟩ := Table.mem_ids.mp hid
        simp at hrow
      · have hdelete : vm_backup_list_delete bkps disk_id bkpnames =
            disk_backup.vm_backup_list_cb (disk_backup.save_status (bkps.delete lost) rest .PENDING) rest := by
          rw [vm_backup_list_delete, disk_backup.VmBackupList.delete, if_neg hdisk]
          simp only [hfound, hlost, Bool.not_true, Bool.false_eq_true, if_true, if_false]
          rw [if_neg hrest]
          rfl
        refine ⟨_, hdelete ▸ (Table.deleted_delete bkps lost).trans (deleted_execute rest), ?_, fun _ => ⟨hdisk, hnode⟩⟩
        exact Finset.union_subset hlost_sub fun id hid => hrest_sub id (List.mem_toFinset.mp hid)
    · by_cases hbad : (found.any fun bkp => bkp.2.status ≠ .OK) = true
      · apply hnothing
        rw [vm_backup_list_delete, disk_backup.VmBackupList.delete, if_neg hdisk]
        simp only [hfound, hlost, hbad, Bool.not_true, Bool.false_eq_true, if_true, if_false]
      · have hdelete : vm_backup_list_delete bkps disk_id bkpnames =
            disk_backup.vm_backup_list_cb (disk_backup.save_status bkps (found.map Prod.fst) .PENDING)
              (found.map Prod.fst) := by
          rw [vm_backup_list_delete, disk_backup.VmBackupList.delete, if_neg hdisk]
          simp only [hfound, hlost, hbad, Bool.not_true, Bool.false_eq_true, if_false]
          rfl
        refine ⟨_, hdelete ▸ deleted_execute _, ?_, fun _ => ⟨hdisk, hnode⟩⟩
        exact fun id hid => hsub id (List.mem_toFinset.mp hid)

/-- The oldest backups that are too many were created while their disk was where it is now, all on one node. -/
def Unmoved (s : State) (define_id : ℕ) (define : BackupDefine) : Prop :=
  ∃ node, ∀ e ∈ excess backup_model s.backups define_id define.disk_id define.retention,
    array_disk_id s.disks define.disk_id = some e.2.array_disk_id ∧ e.2.node = node

section oldest

variable {records : ℕ → Backup → Bool} {n : ℕ}

/-- When the oldest were all created at the position, exactly they are found by their names. -/
theorem select_found_by_oldest (hdisk : ∀ e ∈ bkps.oldest records n, e.2.array_disk_id = disk_id) (e : ℕ × Backup) :
    e ∈ bkps.select (found_by disk_id ((bkps.oldest records n).map fun e => e.2.name)) ↔ e ∈ bkps.oldest records n := by
  refine Table.mem_select_of_keys (fun e he => (Table.lookup_of_mem_oldest he).1) (fun id row => ?_) e
  have hposition : ∀ e ∈ bkps.oldest records n, e.2.vm_disk_id = disk_id - 1 := by
    intro e he
    have harray := hdisk e he
    unfold Backup.array_disk_id at harray
    omega
  unfold found_by
  rw [Bool.and_eq_true, decide_eq_true_eq, decide_eq_true_eq, List.mem_map]
  constructor
  · rintro ⟨hrow, e, he, hname⟩
    exact ⟨e, he, Prod.ext ((hposition e he).trans hrow.symm) hname⟩
  · rintro ⟨e, he, hkey⟩
    obtain ⟨hrow, hname⟩ := Prod.ext_iff.mp hkey
    exact ⟨hrow.symm.trans (hposition e he), e, he, hname⟩

end oldest

section define

variable {s : State} {define_id : ℕ} {define : BackupDefine}

/-- The retention of a backup definition deletes what it should exactly when the positions are still right. -/
theorem retained_backups_iff (hretention : 0 ≤ define.retention) :
    Retained backup_model define_id define.disk_id define.retention s.backups (retain_backups s define_id define).backups ↔
      Unmoved s define_id define := by
  unfold Unmoved excess retain_backups _delete_oldest
  simp only
  generalize hn : ((s.backups.count (backup_model.records define_id define.disk_id) : ℤ) - define.retention).toNat = n
  by_cases hmany : (s.backups.count (backup_model.records define_id define.disk_id) : ℤ) - define.retention < 1
  · rw [if_pos hmany]
    have hnone : n = 0 := by omega
    refine iff_of_true (retained_of_oldest hretention hn ?_) ⟨"", ?_⟩
    · rw [hnone, Table.oldest_ids_zero]
      exact Table.deleted_refl _
    · rw [hnone]
      intro e he
      simp [Table.oldest] at he
  · rw [if_neg hmany]
    obtain ⟨id, hid⟩ : (s.backups.oldest_ids (backup_model.records define_id define.disk_id) n).Nonempty := by
      rw [← Finset.card_pos, Table.card_oldest_ids]
      omega
    obtain ⟨row, hold⟩ := Table.mem_oldest_ids.mp hid
    cases harray : array_disk_id s.disks define.disk_id with
    | none =>
      constructor
      · intro hretained
        have hbounded := hretained.bounded
        simp only [Option.map_none] at hbounded
        omega
      · rintro ⟨node, hall⟩
        cases (hall _ hold).1
    | some disk_id =>
      simp only [Option.map_some]
      constructor
      · intro hretained
        obtain ⟨D, hdeleted, hsub, hnode⟩ := vm_backup_list_delete_cases s.backups disk_id
          ((s.backups.oldest (backup_model.records define_id define.disk_id) n).map fun e => e.2.name)
        have hfew : D.card ≤ n := by
          refine (Finset.card_le_card hsub).trans ((card_found_by_le _ _ _).trans ?_)
          rw [List.length_map, Table.oldest, List.length_take]
          exact min_le_left _ _
        obtain rfl := eq_oldest_of_retained hretention hn hdeleted hfew hretained
        obtain ⟨hpos, node, hnode⟩ := hnode ⟨id, hid⟩
        refine ⟨node, fun e he => ?_⟩
        obtain ⟨row, hlookup, hfound⟩ := Table.mem_ids.mp (hsub (Table.mem_oldest_ids.mpr ⟨e.2, he⟩))
        obtain rfl := Option.some.inj (hlookup.symm.trans (Table.lookup_of_mem_oldest he).1)
        refine ⟨congrArg some ?_, hnode e (Table.mem_select.mpr ⟨hlookup, hfound⟩)⟩
        have hposition := of_decide_eq_true (Bool.and_eq_true_iff.mp hfound).1
        unfold Backup.array_disk_id
        omega
      · rintro ⟨node, hall⟩
        have hselect := select_found_by_oldest fun e he => (Option.some.inj (hall e he).1).symm
        have hnames : (s.backups.oldest (backup_model.records define_id define.disk_id) n).map (fun e => e.2.name) ≠ [] := by
          simpa using List.ne_nil_of_mem hold
        have hok : ∀ e ∈ s.backups.select (found_by disk_id _), e.2.status = .OK := fun e he =>
          of_decide_eq_true (own_of_records (Table.lookup_of_mem_oldest ((hselect e).mp he)).2).2.2
        have hdeleted := vm_backup_list_delete_all (array_disk_id_pos harray).ne' hnames
          (List.ne_nil_of_mem ((hselect _).mpr hold)) hok ⟨node, fun e he => (hall e ((hselect e).mp he)).2⟩
        rw [Table.ids_eq_oldest_ids hselect] at hdeleted
        exact retained_of_oldest hretention hn hdeleted

end define

end backups

section snapshots

variable (s : State) (define_id : ℕ) (define : SnapshotDefine)

/-- A list of snapshots that are all OK is deleted. -/
theorem vm_snapshot_list_delete_all {s : State} {disk_id real_disk_id : ℕ} {snapnames : List String}
    (hdisk : get_disk_id s.disks disk_id = some real_disk_id) (hnames : snapnames ≠ [])
    (hlock : real_disk_id ∉ s.snapshots.locks) {found : List (ℕ × Snapshot)}
    (hfound : s.snapshots.snapshots.select (fun _ row => row.disk_id = real_disk_id && row.name ∈ snapnames) = found)
    (hsome : found ≠ []) (hok : ∀ e ∈ found, e.2.status = .OK) :
    Table.Deleted s.snapshots.snapshots (vm_snapshot_list_delete s disk_id snapnames).snapshots.snapshots
      (found.map Prod.fst).toFinset := by
  unfold vm_snapshot_list_delete
  rw [hdisk]
  simp only [hnames, if_false, snapshot.run_list_delete hlock hfound hsome hok]
  have hkey : ∀ id (row : Snapshot),
      (if id ∈ found.map Prod.fst then { row with status := .PENDING } else row).key = row.key := by
    intro id row
    split <;> rfl
  exact Table.deleted_update_delete _ hkey fun _ _ hid => if_neg hid

/-- The oldest are found by the disk and their names. -/
theorem select_named_oldest (n : ℕ) (e : ℕ × Snapshot) :
    e ∈ s.snapshots.snapshots.select (fun _ row => row.disk_id = define.disk_id &&
        row.name ∈ (s.snapshots.snapshots.oldest (snapshot_model.records define_id define.disk_id) n).map fun e => e.2.name) ↔
      e ∈ s.snapshots.snapshots.oldest (snapshot_model.records define_id define.disk_id) n := by
  refine Table.mem_select_of_keys (fun e he => (Table.lookup_of_mem_oldest he).1) (fun id row => ?_) e
  have hdisk : ∀ e ∈ s.snapshots.snapshots.oldest (snapshot_model.records define_id define.disk_id) n,
      e.2.disk_id = define.disk_id := fun e he => (own_of_records (Table.lookup_of_mem_oldest he).2).1
  rw [Bool.and_eq_true, decide_eq_true_eq, decide_eq_true_eq, List.mem_map]
  constructor
  · rintro ⟨hrow, e, he, hname⟩
    exact ⟨e, he, Prod.ext ((hdisk e he).trans hrow.symm) hname⟩
  · rintro ⟨e, he, hkey⟩
    obtain ⟨hrow, hname⟩ := Prod.ext_iff.mp hkey
    exact ⟨hrow.symm.trans (hdisk e he), e, he, hname⟩

variable {s define_id define}

/-- The retention of a snapshot definition deletes what it should, wherever the disk is. -/
theorem retained_snapshots (hretention : 0 ≤ define.retention) (hlock : define.disk_id ∉ s.snapshots.locks)
    (hdisk : (array_disk_id s.disks define.disk_id).isSome) :
    Retained snapshot_model define_id define.disk_id define.retention s.snapshots.snapshots
      (retain_snapshots s define_id define).snapshots.snapshots := by
  obtain ⟨disk_id, harray⟩ := Option.isSome_iff_exists.mp hdisk
  apply retained_of_oldest hretention rfl
  unfold retain_snapshots _delete_oldest
  rw [harray]
  simp only [Option.map_some]
  generalize hn : ((s.snapshots.snapshots.count (snapshot_model.records define_id define.disk_id) : ℤ) -
    define.retention).toNat = n
  by_cases hmany :
      (s.snapshots.snapshots.count (snapshot_model.records define_id define.disk_id) : ℤ) - define.retention < 1
  · have hnone : n = 0 := by omega
    rw [if_pos hmany, hnone, Table.oldest_ids_zero]
    exact Table.deleted_refl _
  · rw [if_neg hmany]
    have hselect := select_named_oldest s define_id define n
    obtain ⟨id, hid⟩ : (s.snapshots.snapshots.oldest_ids (snapshot_model.records define_id define.disk_id) n).Nonempty := by
      rw [← Finset.card_pos, Table.card_oldest_ids]
      omega
    obtain ⟨row, hold⟩ := Table.mem_oldest_ids.mp hid
    have hnames : (s.snapshots.snapshots.oldest (snapshot_model.records define_id define.disk_id) n).map
        (fun e => e.2.name) ≠ [] := by
      simpa using List.ne_nil_of_mem hold
    rw [← Table.ids_eq_oldest_ids hselect]
    exact vm_snapshot_list_delete_all (get_disk_id_array_disk_id harray) hnames hlock rfl
      (List.ne_nil_of_mem ((hselect _).mpr hold)) fun e he =>
        of_decide_eq_true (own_of_records (Table.lookup_of_mem_oldest ((hselect e).mp he)).2).2.2

end snapshots

end api.vm.retaining
