import Mathlib
import Esdc.Api.Vm.SnapshotSync

namespace api.vm.snapshot_sync

open text (Text isspace words fields strip str)
open api.vm.snapshot (SnapType SnapStatus)

variable {VmId NodeStorage Zpool : Type}

section names

theorem int_str (n : ℤ) : int (str n) = some n := text.int_str text.isspace_of_isDigit (by decide) (by decide) n

theorem zfs_name_injective {type type' : SnapType} {id id' : ℤ} (hname : zfs_name type id = zfs_name type' id') :
    type = type' ∧ id = id' := by
  unfold zfs_name at hname
  obtain ⟨htype, -, -, hid⟩ : _ ∧ _ ∧ _ ∧ _ := by simpa only [List.cons.injEq] using hname
  refine ⟨?_, text.str_injective hid⟩
  cases type with
  | AUTO =>
    cases type' with
    | AUTO => rfl
    | MANUAL => exact absurd htype (by decide)
  | MANUAL =>
    cases type' with
    | AUTO => exact absurd htype (by decide)
    | MANUAL => rfl

theorem is_user_zfs_name (type : SnapType) (id : ℤ) : is_user (zfs_name type id) = true := by
  cases type <;> simp [is_user, USER_PREFIX, zfs_name, TT_AUTO, TT_EXEC]

theorem parse_zfs_name_zfs_name (type : SnapType) (id : ℤ) : parse_zfs_name (zfs_name type id) = some (type, id) := by
  have hint := int_str id
  cases type with
  | AUTO =>
    have hsplit : split_once '-' (zfs_name .AUTO id) = some ([TT_AUTO, 's'], str id) := rfl
    simp [parse_zfs_name, hsplit, hint, TT_AUTO, TT_EXEC]
  | MANUAL =>
    have hsplit : split_once '-' (zfs_name .MANUAL id) = some ([TT_EXEC, 's'], str id) := rfl
    simp [parse_zfs_name, hsplit, hint, TT_EXEC]

/-- The name of the snapshot of a backup. -/
def backup_name (id : ℤ) : Text := 'i' :: 's' :: '-' :: str id

theorem is_user_of_is_backup {name : Text} (hbackup : is_backup name = true) : is_user name = false := by
  obtain ⟨rest, rfl⟩ := List.isPrefixOf_iff_prefix.mp hbackup
  rfl

end names

section specification

/-- The row belongs to the disk of the VM. -/
def Snapshot.OnDisk (vm : VmId) (disk_id : ℕ) (snap : Snapshot VmId NodeStorage) : Prop :=
  snap.vm = vm ∧ snap.disk_id = disk_id

instance [DecidableEq VmId] (vm : VmId) (disk_id : ℕ) (snap : Snapshot VmId NodeStorage) :
    Decidable (snap.OnDisk vm disk_id) :=
  inferInstanceAs (Decidable (_ ∧ _))

/-- What a listing says about a row: the snapshot is there with its size, or it is lost. -/
def settled (listing : Listing) (id : ℤ) (snap : Snapshot VmId NodeStorage) : Snapshot VmId NodeStorage :=
  match listing.lookup (snap.zfs_name id) with
  | some info => { snap with status := .OK, size := (listed_size info).toOption }
  | none => { snap with status := .LOST }

/-- The name of the row of a snapshot that has none. -/
def row_name (zfs_name : Text) (info : Info) : Text :=
  let name := ((info.tail[1]?).filter (· ≠ [])).getD (info.headD [])
  if name = [] ∨ name = ['-'] then zfs_name else name

/-- A listing of snapshots with the names that they are given by the program. -/
structure Proper (listing : Listing) : Prop where
  info : ∀ name info, listing.lookup name = some info →
    ∃ created size rest, info = created :: size :: rest ∧ (int created).isSome ∧ (int size).isSome
  user : ∀ name info, listing.lookup name = some info → is_user name = true →
    ∃ type id, name = zfs_name type id ∧ -2147483648 ≤ id ∧ id ≤ 2147483647 ∧ (row_name name info).length ≤ 32
  backup : ∀ name info, listing.lookup name = some info → is_backup name = true → ∃ id, name = backup_name id

/-- The id of a listed snapshot belongs to another row, or its name does. -/
def Taken (vm : VmId) (disk_id : ℕ) (db : Db VmId NodeStorage) (type : SnapType) (id : ℤ) (info : Info) : Prop :=
  (∃ snap, db.snapshots.lookup id = some snap ∧ ¬ (snap.OnDisk vm disk_id ∧ snap.type = type)) ∨
    ∃ id' snap, id' ≠ id ∧ db.snapshots.lookup id' = some snap ∧ snap.OnDisk vm disk_id ∧
      snap.name = row_name (zfs_name type id) info

/-- The flag of a backup after a synchronisation of the disk. -/
def flagged [DecidableEq VmId] (vm : VmId) (disk_id : ℕ) (listing : Listing) (id : ℤ) (bkp : Backup VmId) : Backup VmId :=
  if bkp.vm = some vm ∧ bkp.disk_id = disk_id then { bkp with last := (listing.lookup (backup_name id)).isSome } else bkp

/-- The rows after a synchronisation of a disk. -/
structure Synced [DecidableEq VmId] (vm : VmId) (disk_id : ℕ) (listing : Listing) (db db' : Db VmId NodeStorage) : Prop where
  rows : ∀ id snap, db.snapshots.lookup id = some snap →
    db'.snapshots.lookup id = some (if snap.OnDisk vm disk_id then settled listing id snap else snap)
  found : ∀ type id info, listing.lookup (zfs_name type id) = some info →
    (∀ snap, db.snapshots.lookup id = some snap → ¬ (snap.OnDisk vm disk_id ∧ snap.type = type)) →
      (∃ snap, db.snapshots.lookup id = none ∧ db'.snapshots.lookup id = some snap ∧
          snap.OnDisk vm disk_id ∧ snap.type = type) ∨
        Taken vm disk_id db' type id info
  new : ∀ id snap, db.snapshots.lookup id = none → db'.snapshots.lookup id = some snap →
    snap.OnDisk vm disk_id ∧ (listing.lookup (snap.zfs_name id)).isSome ∧ settled listing id snap = snap
  backups : ∀ id, db'.backups.lookup id = (db.backups.lookup id).map (flagged vm disk_id listing id)

/-- There is nothing for the callback to do but for the rows that are there. -/
structure Done [DecidableEq VmId] (vm : VmId) (disk_id : ℕ) (listing : Listing) (db : Db VmId NodeStorage) : Prop where
  found : ∀ type id info, listing.lookup (zfs_name type id) = some info →
    (∀ snap, db.snapshots.lookup id = some snap → ¬ (snap.OnDisk vm disk_id ∧ snap.type = type)) →
      Taken vm disk_id db type id info
  backups : ∀ id bkp, db.backups.lookup id = some bkp → flagged vm disk_id listing id bkp = bkp

theorem Proper.listed_size {listing : Listing} (hproper : Proper listing) {name : Text} {info : Info}
    (hinfo : listing.lookup name = some info) : ∃ size, listed_size info = .ok size := by
  obtain ⟨created, size, rest, rfl, -, hsize⟩ := hproper.info name info hinfo
  obtain ⟨n, hn⟩ := Option.isSome_iff_exists.mp hsize
  exact ⟨n, by simp [snapshot_sync.listed_size, hn]⟩

@[simp] theorem settled_zfs_name (listing : Listing) (id : ℤ) (snap : Snapshot VmId NodeStorage) (id' : ℤ) :
    (settled listing id snap).zfs_name id' = snap.zfs_name id' := by
  unfold settled
  split <;> rfl

theorem settled_settled (listing : Listing) (id : ℤ) (snap : Snapshot VmId NodeStorage) :
    settled listing id (settled listing id snap) = settled listing id snap := by
  conv_lhs => rw [settled, settled_zfs_name]
  unfold settled
  cases listing.lookup (snap.zfs_name id) <;> rfl

theorem onDisk_settled {vm : VmId} {disk_id : ℕ} {listing : Listing} {id : ℤ} {snap : Snapshot VmId NodeStorage} :
    (settled listing id snap).OnDisk vm disk_id ↔ snap.OnDisk vm disk_id := by
  unfold settled
  split <;> exact Iff.rfl

@[simp] theorem settled_type (listing : Listing) (id : ℤ) (snap : Snapshot VmId NodeStorage) :
    (settled listing id snap).type = snap.type := by
  unfold settled
  split <;> rfl

@[simp] theorem settled_name (listing : Listing) (id : ℤ) (snap : Snapshot VmId NodeStorage) :
    (settled listing id snap).name = snap.name := by
  unfold settled
  split <;> rfl

end specification

section rows

variable [DecidableEq VmId] [DecidableEq NodeStorage] {listing : Listing}

/-- One row is settled. -/
theorem sync_snapshot_eq {s : Progress VmId NodeStorage} {id : ℤ} {snap : Snapshot VmId NodeStorage}
    (hproper : Proper listing) (hsame : s.node_snaps.lookup (snap.zfs_name id) = listing.lookup (snap.zfs_name id)) :
    ∃ lost, sync_snapshot false s (id, snap) = .ok {
      db := if settled listing id snap = snap then s.db else s.db.save id (settled listing id snap)
      node_snaps := s.node_snaps.erase (snap.zfs_name id)
      lost := lost } := by
  unfold sync_snapshot settled
  simp only [hsame]
  cases hlisted : listing.lookup (snap.zfs_name id) with
  | some info =>
    obtain ⟨size, hsize⟩ := hproper.listed_size hlisted
    refine ⟨s.lost, ?_⟩
    rcases snap with ⟨_, _, _, _, status, _, _, _, _⟩
    simp only [hsize]
    cases status <;> rfl
  | none =>
    have herase : s.node_snaps.erase (snap.zfs_name id) = s.node_snaps := by
      apply AList.ext
      exact Dict.entries_erase_of_lookup_eq_none _ (hsame.trans hlisted)
    simp only [herase]
    by_cases hlost : snap.status = .LOST
    · have heq : { snap with status := .LOST } = snap := by rw [← hlost]
      refine ⟨s.lost, ?_⟩
      rw [if_pos (Or.inr hlost), if_pos heq]
      rfl
    · have hne : { snap with status := .LOST } ≠ snap := fun h => hlost (congrArg Snapshot.status h).symm
      refine ⟨s.lost + 1, ?_⟩
      rw [if_neg (by simpa using hlost), if_neg hne]
      rfl

/-- The rows of the disk are settled, one after another. -/
theorem sync_snapshots_eq {rows : List (ℤ × Snapshot VmId NodeStorage)} {s : Progress VmId NodeStorage}
    (hproper : Proper listing) (hnodup : (rows.map Prod.fst).Nodup)
    (hrows : ∀ row ∈ rows, s.db.snapshots.lookup row.1 = some row.2 ∧
      s.node_snaps.lookup (row.2.zfs_name row.1) = listing.lookup (row.2.zfs_name row.1)) :
    ∃ s', sync_snapshots false rows s = .ok s' ∧ s'.db.backups = s.db.backups ∧
      (∀ row ∈ rows, s'.db.snapshots.lookup row.1 = some (settled listing row.1 row.2)) ∧
      (∀ id, id ∉ rows.map Prod.fst → s'.db.snapshots.lookup id = s.db.snapshots.lookup id) ∧
      (∀ name, s'.node_snaps.lookup name =
        if ∃ row ∈ rows, row.2.zfs_name row.1 = name then none else s.node_snaps.lookup name) ∧
      ((∀ row ∈ rows, settled listing row.1 row.2 = row.2) → s'.db = s.db) := by
  induction rows generalizing s with
  | nil => exact ⟨s, rfl, rfl, nofun, fun _ _ => rfl, fun _ => by simp, fun _ => rfl⟩
  | cons row rows ih =>
    obtain ⟨id, snap⟩ := row
    obtain ⟨hrow, hrest⟩ := List.forall_mem_cons.mp hrows
    rw [List.map_cons, List.nodup_cons] at hnodup
    obtain ⟨lost, hstep⟩ := sync_snapshot_eq hproper hrow.2
    let u : Progress VmId NodeStorage := {
      db := if settled listing id snap = snap then s.db else s.db.save id (settled listing id snap)
      node_snaps := s.node_snaps.erase (snap.zfs_name id)
      lost := lost }
    have hlookup : ∀ id', u.db.snapshots.lookup id' =
        if id' = id then some (settled listing id snap) else s.db.snapshots.lookup id' := by
      intro id'
      by_cases hsettled : settled listing id snap = snap
      · simp only [u, if_pos hsettled]
        split
        · case isTrue h => rw [h, hrow.1, hsettled]
        · rfl
      · simp only [u, if_neg hsettled, Db.save, Dict.lookup_mapVals]
        split
        · case isTrue h =>
          rw [h, hrow.1]
          rfl
        · case isFalse h =>
          cases s.db.snapshots.lookup id' <;> rfl
    have hne : ∀ row ∈ rows, row.1 ≠ id := fun row hmem h => hnodup.1 (List.mem_map.mpr ⟨row, hmem, h⟩)
    have hnames : ∀ row ∈ rows, row.2.zfs_name row.1 ≠ snap.zfs_name id :=
      fun row hmem h => hne row hmem (zfs_name_injective h).2
    obtain ⟨s', hrun, hbackups, hsettled, hothers, hnode_snaps, hkept⟩ := ih (s := u) hnodup.2 fun row hmem => by
      refine ⟨?_, ?_⟩
      · rw [hlookup, if_neg (hne row hmem)]
        exact (hrest row hmem).1
      · rw [← (hrest row hmem).2]
        exact AList.lookup_erase_ne (hnames row hmem)
    refine ⟨s', ?_, ?_, List.forall_mem_cons.mpr ⟨?_, hsettled⟩, ?_, ?_, ?_⟩
    · rw [sync_snapshots, List.foldlM_cons, hstep]
      exact hrun
    · rw [hbackups]
      simp only [u]
      split <;> rfl
    · rw [hothers id hnodup.1, hlookup, if_pos rfl]
    · intro id' hid'
      rw [List.map_cons, List.mem_cons, not_or] at hid'
      rw [hothers id' hid'.2, hlookup, if_neg hid'.1]
    · intro name
      rw [hnode_snaps]
      by_cases hname : snap.zfs_name id = name
      · rw [if_pos (⟨_, List.mem_cons_self, hname⟩ : ∃ row ∈ (id, snap) :: rows, row.2.zfs_name row.1 = name)]
        split
        · rfl
        · rw [← hname]
          exact AList.lookup_erase _ _
      · have hiff : (∃ row ∈ (id, snap) :: rows, row.2.zfs_name row.1 = name) ↔
            ∃ row ∈ rows, row.2.zfs_name row.1 = name := by
          rw [List.exists_mem_cons_iff]
          exact or_iff_right hname
        simp only [hiff]
        split
        · rfl
        · exact AList.lookup_erase_ne (Ne.symm hname)
    · intro hall
      obtain ⟨hfirst, hall⟩ := List.forall_mem_cons.mp hall
      rw [hkept hall]
      exact if_pos hfirst

end rows

end api.vm.snapshot_sync
