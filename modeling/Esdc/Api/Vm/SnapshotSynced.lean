import Mathlib
import Esdc.Api.Vm.SnapshotSettled
import Esdc.Lib.Fallible

namespace api.vm.snapshot_sync

open text (Text isspace words fields strip str)
open api.vm.snapshot (SnapType SnapStatus)

variable {VmId NodeStorage Zpool : Type}

section found

variable {vm : VmId} {disk_id : ℕ} {ns : NodeStorage}

/-- The row of a snapshot that was found on the node. -/
def found_row (vm : VmId) (disk_id : ℕ) (ns : NodeStorage) (type : SnapType) (id : ℤ) (info : Info) :
    Snapshot VmId NodeStorage where
  vm := vm
  disk_id := disk_id
  name := row_name (zfs_name type id) info
  type := type
  status := .OK
  zpool := ns
  size := (listed_size info).toOption
  note := "Found by snapshot sync"
  created := (int (info.headD [])).bind from_timestamp

theorem onDisk_found_row (type : SnapType) (id : ℤ) (info : Info) : (found_row vm disk_id ns type id info).OnDisk vm disk_id :=
  ⟨rfl, rfl⟩

theorem settled_found_row {listing : Listing} {type : SnapType} {id : ℤ} {info : Info}
    (hinfo : listing.lookup (zfs_name type id) = some info) :
    settled listing id (found_row vm disk_id ns type id info) = found_row vm disk_id ns type id info := by
  have hinfo' : listing.lookup ((found_row vm disk_id ns type id info).zfs_name id) = some info := hinfo
  rw [settled, hinfo']
  rfl

variable [DecidableEq VmId]

/-- What keeps a row of a disk out of the table. -/
theorem refuses_iff {db : Db VmId NodeStorage} {id : ℤ} {snap : Snapshot VmId NodeStorage}
    (hsmall : -2147483648 ≤ id) (hlarge : id ≤ 2147483647) (hname : snap.name.length ≤ 32) :
    db.refuses id snap = true ↔ (∃ row, db.snapshots.lookup id = some row) ∨
      ∃ id' row, db.snapshots.lookup id' = some row ∧ row.OnDisk snap.vm snap.disk_id ∧ row.name = snap.name := by
  have hany : (db.snapshots.entries.any fun row =>
      row.2.vm = snap.vm && row.2.disk_id = snap.disk_id && row.2.name = snap.name) = true ↔
        ∃ id' row, db.snapshots.lookup id' = some row ∧ row.OnDisk snap.vm snap.disk_id ∧ row.name = snap.name := by
    simp only [List.any_eq_true, Bool.and_eq_true, decide_eq_true_eq]
    constructor
    · rintro ⟨⟨id', row⟩, hmem, hdisk, hrow⟩
      exact ⟨id', row, AList.mem_lookup_iff.mpr hmem, hdisk, hrow⟩
    · rintro ⟨id', row, hlookup, hdisk, hrow⟩
      exact ⟨⟨id', row⟩, AList.mem_lookup_iff.mp hlookup, hdisk, hrow⟩
  have hnot_small : ¬ id < -2147483648 := by omega
  have hnot_large : ¬ 2147483647 < id := by omega
  have hnot_long : ¬ 32 < snap.name.length := by omega
  unfold Db.refuses
  simp only [Bool.or_eq_true, hany, decide_eq_true_eq, hnot_small, hnot_large, hnot_long, or_false,
    Option.isSome_iff_exists]

theorem recreate_eq {db : Db VmId NodeStorage} {type : SnapType} {id : ℤ} {info : Info}
    (hinfo : ∃ created size rest, info = created :: size :: rest ∧ (int created).isSome ∧ (int size).isSome) :
    recreate vm disk_id ns db (zfs_name type id, info) = .ok (
      if db.refuses id (found_row vm disk_id ns type id info) then db
      else { db with snapshots := db.snapshots.insert id (found_row vm disk_id ns type id info) }) := by
  obtain ⟨created, size, rest, rfl, hcreated, hsize⟩ := hinfo
  obtain ⟨timestamp, htimestamp⟩ := Option.isSome_iff_exists.mp hcreated
  obtain ⟨n, hn⟩ := Option.isSome_iff_exists.mp hsize
  have hlisted : listed_size (created :: size :: rest) = .ok n := by simp [listed_size, hn]
  have hrow : found_row vm disk_id ns type id (created :: size :: rest) = {
      vm := vm
      disk_id := disk_id
      name := row_name (zfs_name type id) (created :: size :: rest)
      type := type
      status := .OK
      zpool := ns
      size := some n
      note := "Found by snapshot sync"
      created := from_timestamp timestamp } := by
    simp [found_row, hlisted, htimestamp, Except.toOption]
  have hcreate : create_from_zfs_name db (zfs_name type id)
      ((((size :: rest)[1]?).filter (· ≠ [])).getD created) timestamp vm disk_id ns n "Found by snapshot sync" =
        if db.refuses id (found_row vm disk_id ns type id (created :: size :: rest)) then none
        else some { db with
          snapshots := db.snapshots.insert id (found_row vm disk_id ns type id (created :: size :: rest)) } := by
    rw [create_from_zfs_name, parse_zfs_name_zfs_name, hrow]
    rfl
  unfold recreate
  simp only [hlisted, htimestamp, Except.toOption, Option.bind_eq_bind, Option.bind_some, hcreate]
  split <;> rfl

/-- The entries of a listing that get rows. -/
def Creatable (snap : Text × Info) : Prop :=
  ∃ type id, snap.1 = zfs_name type id ∧ -2147483648 ≤ id ∧ id ≤ 2147483647 ∧ (row_name snap.1 snap.2).length ≤ 32 ∧
    ∃ created size rest, snap.2 = created :: size :: rest ∧ (int created).isSome ∧ (int size).isSome

/-- The new rows: none is lost, each is one of the list, and each of the list gets one or is refused. -/
structure Recreated (vm : VmId) (disk_id : ℕ) (ns : NodeStorage) (snaps : List (Text × Info))
    (db db' : Db VmId NodeStorage) : Prop where
  backups : db'.backups = db.backups
  kept : ∀ id snap, db.snapshots.lookup id = some snap → db'.snapshots.lookup id = some snap
  new : ∀ id snap, db'.snapshots.lookup id = some snap → db.snapshots.lookup id = some snap ∨
    db.snapshots.lookup id = none ∧
      ∃ type info, (zfs_name type id, info) ∈ snaps ∧ snap = found_row vm disk_id ns type id info
  found : ∀ type id info, (zfs_name type id, info) ∈ snaps →
    db.snapshots.lookup id = none ∧ db'.snapshots.lookup id = some (found_row vm disk_id ns type id info) ∨
      (∃ snap, db'.snapshots.lookup id = some snap ∧
        (db.snapshots.lookup id = some snap ∨ snap.OnDisk vm disk_id ∧ snap.type ≠ type)) ∨
      ∃ id' snap, id' ≠ id ∧ db'.snapshots.lookup id' = some snap ∧ snap.OnDisk vm disk_id ∧
        snap.name = row_name (zfs_name type id) info

theorem recreate_all {snaps : List (Text × Info)} {db : Db VmId NodeStorage} (hsnaps : ∀ snap ∈ snaps, Creatable snap)
    (hnodup : (snaps.map Prod.fst).Nodup) :
    ∃ db', snaps.foldlM (recreate vm disk_id ns) db = .ok db' ∧ Recreated vm disk_id ns snaps db db' := by
  induction snaps generalizing db with
  | nil =>
    refine ⟨db, rfl, ⟨rfl, fun _ _ h => h, fun _ _ h => .inl h, ?_⟩⟩
    intro type id info hmem
    exact absurd hmem List.not_mem_nil
  | cons snap snaps ih =>
    obtain ⟨name, info⟩ := snap
    obtain ⟨⟨type, id, hname, hsmall, hlarge, hlength, hinfo⟩, hrest⟩ := List.forall_mem_cons.mp hsnaps
    rw [List.map_cons, List.nodup_cons] at hnodup
    simp only at hname hlength hinfo
    subst hname
    have hstep : recreate vm disk_id ns db (zfs_name type id, info) = .ok (
        if db.refuses id (found_row vm disk_id ns type id info) then db
        else { db with snapshots := db.snapshots.insert id (found_row vm disk_id ns type id info) }) := recreate_eq hinfo
    have hrefuses : db.refuses id (found_row vm disk_id ns type id info) = true ↔
        (∃ row, db.snapshots.lookup id = some row) ∨
          ∃ id' row, db.snapshots.lookup id' = some row ∧ row.OnDisk vm disk_id ∧
            row.name = row_name (zfs_name type id) info :=
      refuses_iff hsmall hlarge hlength
    by_cases hrefused : db.refuses id (found_row vm disk_id ns type id info) = true
    · rw [if_pos hrefused] at hstep
      obtain ⟨db', hrun, hdb'⟩ := @ih db hrest hnodup.2
      refine ⟨db', ?_, ⟨hdb'.backups, hdb'.kept, ?_, ?_⟩⟩
      · rw [List.foldlM_cons, hstep]
        exact hrun
      · intro id' snap' hlookup
        refine (hdb'.new id' snap' hlookup).imp_right ?_
        rintro ⟨hnone, type', info', hmem, heq⟩
        exact ⟨hnone, type', info', List.mem_cons_of_mem _ hmem, heq⟩
      · intro type' id' info' hmem
        rcases List.mem_cons.mp hmem with heq | hmem
        · obtain ⟨hzfs_name, rfl⟩ := Prod.mk.inj heq
          obtain ⟨rfl, rfl⟩ := zfs_name_injective hzfs_name
          right
          rcases hrefuses.mp hrefused with ⟨row, hrow⟩ | ⟨other, row, hrow, hdisk, hrow_name⟩
          · exact .inl ⟨row, hdb'.kept _ _ hrow, .inl hrow⟩
          · by_cases hother : other = id'
            · rw [hother] at hrow
              exact .inl ⟨row, hdb'.kept _ _ hrow, .inl hrow⟩
            · exact .inr ⟨other, row, hother, hdb'.kept _ _ hrow, hdisk, hrow_name⟩
        · exact hdb'.found type' id' info' hmem
    · rw [if_neg hrefused] at hstep
      have hfree : ∀ row, db.snapshots.lookup id ≠ some row := fun row hrow => hrefused (hrefuses.mpr (.inl ⟨row, hrow⟩))
      have hnone : db.snapshots.lookup id = none := Option.eq_none_iff_forall_ne_some.mpr hfree
      let u : Db VmId NodeStorage := { db with snapshots := db.snapshots.insert id (found_row vm disk_id ns type id info) }
      have hlookup_ne : ∀ {id'}, id' ≠ id → u.snapshots.lookup id' = db.snapshots.lookup id' :=
        fun hne => AList.lookup_insert_ne hne
      have hlookup_id : u.snapshots.lookup id = some (found_row vm disk_id ns type id info) := AList.lookup_insert _
      obtain ⟨db', hrun, hdb'⟩ := @ih u hrest hnodup.2
      refine ⟨db', ?_, ⟨hdb'.backups, ?_, ?_, ?_⟩⟩
      · rw [List.foldlM_cons, hstep]
        exact hrun
      · intro id' snap' hlookup
        apply hdb'.kept
        rw [hlookup_ne fun h => hfree snap' (h ▸ hlookup)]
        exact hlookup
      · intro id' snap' hlookup
        by_cases hid' : id' = id
        · subst hid'
          have heq := (hdb'.kept _ _ hlookup_id).symm.trans hlookup
          exact .inr ⟨hnone, type, info, List.mem_cons_self, (Option.some.inj heq).symm⟩
        · rcases hdb'.new id' snap' hlookup with h | ⟨hnone', type', info', hmem, heq⟩
          · rw [hlookup_ne hid'] at h
            exact .inl h
          · rw [hlookup_ne hid'] at hnone'
            exact .inr ⟨hnone', type', info', List.mem_cons_of_mem _ hmem, heq⟩
      · intro type' id' info' hmem
        rcases List.mem_cons.mp hmem with heq | hmem
        · obtain ⟨hzfs_name, rfl⟩ := Prod.mk.inj heq
          obtain ⟨rfl, rfl⟩ := zfs_name_injective hzfs_name
          exact .inl ⟨hnone, hdb'.kept _ _ hlookup_id⟩
        · by_cases hid' : id' = id
          · have htype : type ≠ type' := by
              intro htype
              apply hnodup.1
              rw [htype, ← hid']
              exact List.mem_map.mpr ⟨_, hmem, rfl⟩
            rw [hid']
            exact .inr (.inl ⟨_, hdb'.kept _ _ hlookup_id, .inr ⟨onDisk_found_row type id info, htype⟩⟩)
          · rcases hdb'.found type' id' info' hmem with h | ⟨snap, hsnap, h⟩ | h
            · rw [hlookup_ne hid'] at h
              exact .inl h
            · rw [hlookup_ne hid'] at h
              exact .inr (.inl ⟨snap, hsnap, h⟩)
            · exact .inr (.inr h)

/-- Nothing happens when each is refused. -/
theorem recreate_none {snaps : List (Text × Info)} {db : Db VmId NodeStorage} (hsnaps : ∀ snap ∈ snaps, Creatable snap)
    (hrefused : ∀ type id info, (zfs_name type id, info) ∈ snaps →
      db.refuses id (found_row vm disk_id ns type id info) = true) :
    snaps.foldlM (recreate vm disk_id ns) db = .ok db := by
  induction snaps with
  | nil => rfl
  | cons snap snaps ih =>
    obtain ⟨name, info⟩ := snap
    obtain ⟨⟨type, id, hname, -, -, -, hinfo⟩, hrest⟩ := List.forall_mem_cons.mp hsnaps
    simp only at hname hinfo
    subst hname
    rw [List.foldlM_cons, recreate_eq hinfo, if_pos (hrefused type id info List.mem_cons_self)]
    exact ih hrest fun type id info hmem => hrefused type id info (List.mem_cons_of_mem _ hmem)

end found

section backups

variable [DecidableEq VmId] {vm : VmId} {disk_id : ℕ}

theorem mapM_int_str (ids : List ℤ) : (ids.map str).mapM int = some ids := by
  induction ids with
  | nil => rfl
  | cons id ids ih => simp [int_str, ih]

theorem is_backup_backup_name (id : ℤ) : is_backup (backup_name id) = true := by
  simp [is_backup, backup_name]

/-- The flags follow the list. -/
theorem update_last_eq {node_snaps : List Text} {backups : Dict ℤ (Backup VmId)}
    (hnames : ∀ name ∈ node_snaps, is_backup name = true → ∃ id, name = backup_name id) :
    update_last vm disk_id node_snaps backups = backups.mapVals fun id bkp =>
      if bkp.vm = some vm ∧ bkp.disk_id = disk_id then { bkp with last := decide (backup_name id ∈ node_snaps) }
      else bkp := by
  obtain ⟨ids, hids⟩ : node_snaps.filter is_backup ∈ Set.range (List.map backup_name) := by
    rw [Set.range_list_map]
    intro name hmem
    obtain ⟨hmem, hbackup⟩ := List.mem_filter.mp hmem
    obtain ⟨id, hid⟩ := hnames name hmem hbackup
    exact ⟨id, hid.symm⟩
  have hmem : ∀ id, backup_name id ∈ node_snaps ↔ id ∈ ids := by
    intro id
    have hiff : backup_name id ∈ node_snaps ↔ backup_name id ∈ node_snaps.filter is_backup := by
      rw [List.mem_filter, and_iff_left (is_backup_backup_name id)]
    rw [hiff, ← hids, List.mem_map]
    constructor
    · rintro ⟨id', hid', heq⟩
      have hid : id' = id := text.str_injective (by simpa [backup_name] using heq)
      exact hid ▸ hid'
    · exact fun hid => ⟨id, hid, rfl⟩
  have hbkp_ids : (node_snaps.filter is_backup).map (·.drop 3) = ids.map str := by
    rw [← hids, List.map_map]
    rfl
  unfold update_last
  simp only [hbkp_ids, hmem]
  by_cases hempty : ids = []
  · subst hempty
    rw [List.map_nil, if_pos rfl]
    congr 1
    funext id bkp
    rcases bkp with ⟨bkp_vm, bkp_disk, last⟩
    cases last <;> simp
  · have hne : ids.map str ≠ [] := by simpa using hempty
    rw [if_neg hne, mapM_int_str]
    simp only
    rw [Dict.mapVals_mapVals]
    congr 1
    funext id bkp
    rcases bkp with ⟨bkp_vm, bkp_disk, last⟩
    by_cases hdisk : bkp_vm = some vm ∧ bkp_disk = disk_id
    · by_cases hid : id ∈ ids
      · simp [hdisk, hid]
      · cases last <;> simp [hdisk, hid]
    · have hlast : ¬ (bkp_vm = some vm ∧ bkp_disk = disk_id ∧ id ∈ ids) := fun h => hdisk ⟨h.1, h.2.1⟩
      have hold : ¬ (bkp_vm = some vm ∧ bkp_disk = disk_id ∧ last = true ∧ id ∉ ids) := fun h => hdisk ⟨h.1, h.2.1⟩
      simp only [if_neg hdisk, if_neg hlast, if_neg hold]

theorem flagged_flagged (listing : Listing) (id : ℤ) (bkp : Backup VmId) :
    flagged vm disk_id listing id (flagged vm disk_id listing id bkp) = flagged vm disk_id listing id bkp := by
  unfold flagged
  split <;> rfl

end backups

section synced

variable [DecidableEq VmId] [DecidableEq NodeStorage] {vm : Vm VmId NodeStorage Zpool} {disk_id : ℕ} {data : Text}
  {listing : Listing} {db : Db VmId NodeStorage}

/-- The table once the rows of the disk are settled. -/
structure Settled (vm : VmId) (disk_id : ℕ) (listing : Listing) (db base : Db VmId NodeStorage) : Prop where
  backups : base.backups = db.backups
  rows : ∀ id, base.snapshots.lookup id =
    (db.snapshots.lookup id).map fun snap => if snap.OnDisk vm disk_id then settled listing id snap else snap
  same : (∀ id snap, db.snapshots.lookup id = some snap → snap.OnDisk vm disk_id → settled listing id snap = snap) →
    base = db

omit [DecidableEq NodeStorage] in
theorem mem_disk_snapshots {vm : VmId} {row : ℤ × Snapshot VmId NodeStorage} :
    row ∈ db.disk_snapshots vm disk_id ↔ db.snapshots.lookup row.1 = some row.2 ∧ row.2.OnDisk vm disk_id := by
  rcases row with ⟨id, snap⟩
  simp only [Db.disk_snapshots, List.mem_map, List.mem_filter, Bool.and_eq_true, decide_eq_true_eq]
  constructor
  · rintro ⟨⟨id', snap'⟩, ⟨hmem, hdisk⟩, heq⟩
    obtain ⟨rfl, rfl⟩ := Prod.mk.inj heq
    exact ⟨AList.mem_lookup_iff.mpr hmem, hdisk⟩
  · rintro ⟨hlookup, hdisk⟩
    exact ⟨⟨id, snap⟩, ⟨AList.mem_lookup_iff.mp hlookup, hdisk⟩, rfl⟩

omit [DecidableEq NodeStorage] in
theorem nodup_disk_snapshots {vm : VmId} : ((db.disk_snapshots vm disk_id).map Prod.fst).Nodup := by
  rw [Db.disk_snapshots, List.map_map]
  exact List.NodupKeys.sublist List.filter_sublist db.snapshots.nodupKeys

/-- A name is left when it has no row. -/
theorem sync_disk (vm : VmId) (disk_id : ℕ) (db : Db VmId NodeStorage) (hproper : Proper listing) :
    ∃ s, sync_snapshots false (db.disk_snapshots vm disk_id) ⟨db, listing, 0⟩ = .ok s ∧
      Settled vm disk_id listing db s.db ∧
      ∀ name info, s.node_snaps.lookup name = some info ↔ listing.lookup name = some info ∧
        ∀ id snap, db.snapshots.lookup id = some snap → snap.OnDisk vm disk_id → snap.zfs_name id ≠ name := by
  obtain ⟨s, hrun, hbackups, hsettled, hothers, hnode_snaps, hkept⟩ :=
    sync_snapshots_eq (s := ⟨db, listing, 0⟩) hproper nodup_disk_snapshots fun row hrow =>
      ⟨(mem_disk_snapshots.mp hrow).1, rfl⟩
  refine ⟨s, hrun, ⟨hbackups, ?_, ?_⟩, ?_⟩
  · intro id
    cases hlookup : db.snapshots.lookup id with
    | none =>
      have hnot : id ∉ (db.disk_snapshots vm disk_id).map Prod.fst := by
        intro hmem
        obtain ⟨row, hrow, hid⟩ := List.mem_map.mp hmem
        rw [← hid, (mem_disk_snapshots.mp hrow).1] at hlookup
        exact Option.some_ne_none _ hlookup
      rw [hothers id hnot]
      exact hlookup
    | some snap =>
      by_cases hdisk : snap.OnDisk vm disk_id
      · rw [Option.map_some, if_pos hdisk]
        exact hsettled (id, snap) (mem_disk_snapshots.mpr ⟨hlookup, hdisk⟩)
      · have hnot : id ∉ (db.disk_snapshots vm disk_id).map Prod.fst := by
          intro hmem
          obtain ⟨row, hrow, hid⟩ := List.mem_map.mp hmem
          obtain ⟨hsnap, honDisk⟩ := mem_disk_snapshots.mp hrow
          rw [hid, hlookup] at hsnap
          exact hdisk (Option.some.inj hsnap ▸ honDisk)
        rw [Option.map_some, if_neg hdisk, hothers id hnot]
        exact hlookup
  · intro hall
    apply hkept
    intro row hrow
    obtain ⟨hlookup, hdisk⟩ := mem_disk_snapshots.mp hrow
    exact hall row.1 row.2 hlookup hdisk
  · intro name info
    rw [hnode_snaps]
    by_cases hrow : ∃ row ∈ db.disk_snapshots vm disk_id, row.2.zfs_name row.1 = name
    · rw [if_pos hrow]
      obtain ⟨row, hmem, hname⟩ := hrow
      obtain ⟨hlookup, hdisk⟩ := mem_disk_snapshots.mp hmem
      refine iff_of_false (Option.some_ne_none _ ∘ Eq.symm) ?_
      exact fun h => h.2 row.1 row.2 hlookup hdisk hname
    · rw [if_neg hrow]
      refine (and_iff_left ?_).symm
      intro id snap hlookup hdisk hname
      exact hrow ⟨(id, snap), mem_disk_snapshots.mpr ⟨hlookup, hdisk⟩, hname⟩

/-- The listed snapshots of users that have no row. -/
structure Remaining (vm : VmId) (disk_id : ℕ) (listing : Listing) (db : Db VmId NodeStorage)
    (snaps : List (Text × Info)) : Prop where
  nodup : (snaps.map Prod.fst).Nodup
  mem : ∀ name info, (name, info) ∈ snaps ↔ is_user name = true ∧ listing.lookup name = some info ∧
    ∀ id snap, db.snapshots.lookup id = some snap → snap.OnDisk vm disk_id → snap.zfs_name id ≠ name

omit [DecidableEq VmId] [DecidableEq NodeStorage] in
theorem Remaining.creatable {vm : VmId} {snaps : List (Text × Info)} (hproper : Proper listing)
    (hsnaps : Remaining vm disk_id listing db snaps) : ∀ snap ∈ snaps, Creatable snap := by
  rintro ⟨name, info⟩ hmem
  obtain ⟨huser, hlisted, -⟩ := (hsnaps.mem name info).mp hmem
  obtain ⟨type, id, hname, hsmall, hlarge, hlength⟩ := hproper.user name info hlisted huser
  exact ⟨type, id, hname, hsmall, hlarge, hlength, hproper.info name info hlisted⟩

/-- Without a storage only the rows that are there are settled. -/
theorem after_sync_error {e : Error} (hlisting : parse_node_snaps data = .ok listing) (hproper : Proper listing)
    (hns : vm.get_node_storage disk_id = .error e) :
    Settled vm.id disk_id listing db (after_sync false vm disk_id data db) := by
  obtain ⟨s, hrun, hsettled, -⟩ := sync_disk vm.id disk_id db hproper
  have hcb : vm_snapshot_sync_cb false vm disk_id 0 data db = .error (e, s.db) := by
    unfold vm_snapshot_sync_cb
    rw [hlisting, hns, if_neg (by simp)]
    change (do
      let s ← sync_snapshots false (db.disk_snapshots vm.id disk_id) ⟨db, listing, 0⟩
      _) = _
    rw [hrun]
    rfl
  rw [after_sync, hcb]
  exact hsettled

/-- With one the rest of the listing is read. -/
theorem after_sync_ok {ns : NodeStorage} (hlisting : parse_node_snaps data = .ok listing) (hproper : Proper listing)
    (hns : vm.get_node_storage disk_id = .ok ns) :
    ∃ base snaps db', Settled vm.id disk_id listing db base ∧ Remaining vm.id disk_id listing db snaps ∧
      Recreated vm.id disk_id ns snaps base db' ∧ snaps.foldlM (recreate vm.id disk_id ns) base = .ok db' ∧
      after_sync false vm disk_id data db =
        { db' with backups := db.backups.mapVals (flagged vm.id disk_id listing) } := by
  obtain ⟨s, hrun, hsettled, hleft⟩ := sync_disk vm.id disk_id db hproper
  let snaps : List (Text × Info) := (s.node_snaps.entries.filter fun snap => is_user snap.1).map fun snap => (snap.1, snap.2)
  have hsnaps : Remaining vm.id disk_id listing db snaps := by
    constructor
    · rw [List.map_map]
      exact List.NodupKeys.sublist List.filter_sublist s.node_snaps.nodupKeys
    · intro name info
      rw [← hleft, List.mem_map]
      constructor
      · rintro ⟨⟨name', info'⟩, hmem, heq⟩
        obtain ⟨rfl, rfl⟩ := Prod.mk.inj heq
        obtain ⟨hmem, huser⟩ := List.mem_filter.mp hmem
        exact ⟨huser, AList.mem_lookup_iff.mpr hmem⟩
      · rintro ⟨huser, hlookup⟩
        exact ⟨⟨name, info⟩, List.mem_filter.mpr ⟨AList.mem_lookup_iff.mp hlookup, huser⟩, rfl⟩
  obtain ⟨db', hfold, hdb'⟩ : ∃ db', snaps.foldlM (recreate vm.id disk_id ns) s.db = .ok db' ∧
      Recreated vm.id disk_id ns snaps s.db db' := recreate_all (hsnaps.creatable hproper) hsnaps.nodup
  refine ⟨s.db, snaps, db', hsettled, hsnaps, hdb', hfold, ?_⟩
  have hother : ∀ id, backup_name id ∈ s.node_snaps.keys.filter (fun snap => !is_user snap) ↔
      (listing.lookup (backup_name id)).isSome := by
    intro id
    have huser : is_user (backup_name id) = false := is_user_of_is_backup (is_backup_backup_name id)
    have hkey : backup_name id ∈ s.node_snaps.keys ↔ ∃ info, s.node_snaps.lookup (backup_name id) = some info := by
      rw [← Option.isSome_iff_exists]
      exact AList.lookup_isSome.symm
    rw [List.mem_filter, huser, hkey, Option.isSome_iff_exists]
    simp only [hleft]
    constructor
    · rintro ⟨⟨info, hinfo, -⟩, -⟩
      exact ⟨info, hinfo⟩
    · rintro ⟨info, hinfo⟩
      refine ⟨⟨info, hinfo, ?_⟩, rfl⟩
      intro id' snap _ _ hname
      rw [← hname, Snapshot.zfs_name, is_user_zfs_name] at huser
      cases huser
  have hbackups : update_last vm.id disk_id (s.node_snaps.keys.filter fun snap => !is_user snap) db'.backups =
      db.backups.mapVals (flagged vm.id disk_id listing) := by
    rw [update_last_eq, hdb'.backups, hsettled.backups]
    · congr 1
      funext id bkp
      simp only [hother, flagged]
      split <;> simp
    · intro name hmem hbackup
      obtain ⟨info, hinfo⟩ := Option.isSome_iff_exists.mp (AList.lookup_isSome.mpr (List.mem_filter.mp hmem).1)
      exact hproper.backup name info ((hleft name info).mp hinfo).1 hbackup
  have hcb : ∃ message, vm_snapshot_sync_cb false vm disk_id 0 data db =
      .ok ({ db' with backups := db.backups.mapVals (flagged vm.id disk_id listing) }, message) := by
    refine ⟨sync_message s.lost (s.node_snaps.entries.filter fun snap => is_user snap.1).length, ?_⟩
    unfold vm_snapshot_sync_cb
    rw [hlisting, hns, if_neg (by simp)]
    change (do
      let s ← sync_snapshots false (db.disk_snapshots vm.id disk_id) ⟨db, listing, 0⟩
      _) = _
    rw [hrun, ← hbackups]
    change (do
      let db ← snaps.foldlM (recreate vm.id disk_id ns) s.db
      _) = _
    rw [hfold]
    rfl
  obtain ⟨message, hcb⟩ := hcb
  rw [after_sync, hcb]

omit [DecidableEq NodeStorage] in
/-- An entry without a row that gets none is taken. -/
theorem taken_of_found {vm' : VmId} {db' : Db VmId NodeStorage} {type : SnapType} {id : ℤ} {info : Info}
    (hnone : ∀ snap, db.snapshots.lookup id = some snap → ¬ (snap.OnDisk vm' disk_id ∧ snap.type = type))
    (hbase : ∃ base, Settled vm' disk_id listing db base ∧
      ((∃ snap, db'.snapshots.lookup id = some snap ∧
          (base.snapshots.lookup id = some snap ∨ snap.OnDisk vm' disk_id ∧ snap.type ≠ type)) ∨
        ∃ id' snap, id' ≠ id ∧ db'.snapshots.lookup id' = some snap ∧ snap.OnDisk vm' disk_id ∧
          snap.name = row_name (zfs_name type id) info)) :
    Taken vm' disk_id db' type id info := by
  obtain ⟨base, hsettled, ⟨snap, hsnap, hold | ⟨-, hother⟩⟩ | hname⟩ := hbase
  · rw [hsettled.rows] at hold
    obtain ⟨row, hrow, rfl⟩ := Option.map_eq_some_iff.mp hold
    refine .inl ⟨_, hsnap, ?_⟩
    have hfree := hnone row hrow
    split
    · rw [onDisk_settled, settled_type]
      exact hfree
    · exact hfree
  · exact .inl ⟨snap, hsnap, fun h => hother h.2⟩
  · exact .inr hname

omit [DecidableEq NodeStorage] in
/-- A synchronisation that reads all of the listing. -/
theorem synced_of_recreated {vm' : VmId} {ns : NodeStorage} {base db' : Db VmId NodeStorage} {snaps : List (Text × Info)}
    (hsettled : Settled vm' disk_id listing db base) (hsnaps : Remaining vm' disk_id listing db snaps)
    (hdb' : Recreated vm' disk_id ns snaps base db') :
    Synced vm' disk_id listing db { db' with backups := db.backups.mapVals (flagged vm' disk_id listing) } := by
  have hnone : ∀ {id}, base.snapshots.lookup id = none → db.snapshots.lookup id = none := by
    intro id hbase
    rw [hsettled.rows, Option.map_eq_none_iff] at hbase
    exact hbase
  constructor
  · intro id snap hlookup
    apply hdb'.kept
    rw [hsettled.rows, hlookup]
    rfl
  · intro type id info hlisted hfree
    have hmem : (zfs_name type id, info) ∈ snaps := by
      refine (hsnaps.mem _ _).mpr ⟨is_user_zfs_name type id, hlisted, ?_⟩
      intro id' snap hlookup hdisk hname
      obtain ⟨htype, hid⟩ := zfs_name_injective hname
      rw [hid] at hlookup
      exact hfree snap hlookup ⟨hdisk, htype⟩
    rcases hdb'.found type id info hmem with ⟨hbase, hnew⟩ | htaken
    · exact .inl ⟨_, hnone hbase, hnew, onDisk_found_row type id info, rfl⟩
    · exact .inr (taken_of_found hfree ⟨base, hsettled, htaken⟩)
  · intro id snap hfree hlookup
    rcases hdb'.new id snap hlookup with hold | ⟨-, type, info, hmem, rfl⟩
    · rw [hsettled.rows, hfree] at hold
      cases hold
    · obtain ⟨-, hlisted, -⟩ := (hsnaps.mem _ _).mp hmem
      refine ⟨onDisk_found_row type id info, ?_, settled_found_row hlisted⟩
      exact Option.isSome_iff_exists.mpr ⟨info, hlisted⟩
  · intro id
    exact Dict.lookup_mapVals _ _ _

omit [DecidableEq NodeStorage] in
/-- Rows that are settled before. -/
theorem Synced.settled {vm' : VmId} {db' : Db VmId NodeStorage} (hsynced : Synced vm' disk_id listing db db') {id : ℤ}
    {snap : Snapshot VmId NodeStorage} (hlookup : db'.snapshots.lookup id = some snap) (hdisk : snap.OnDisk vm' disk_id) :
    settled listing id snap = snap := by
  cases hold : db.snapshots.lookup id with
  | none => exact (hsynced.new id snap hold hlookup).2.2
  | some row =>
    have hrow := (hsynced.rows id row hold).symm.trans hlookup
    obtain rfl := Option.some.inj hrow
    by_cases hrow_disk : row.OnDisk vm' disk_id
    · rw [if_pos hrow_disk]
      exact settled_settled listing id row
    · rw [if_neg hrow_disk] at hdisk
      exact absurd hdisk hrow_disk

omit [DecidableEq NodeStorage] in
/-- The second synchronisation finds nothing to do. -/
theorem Synced.done {vm' : VmId} {db' : Db VmId NodeStorage} (hsynced : Synced vm' disk_id listing db db') :
    Done vm' disk_id listing db' := by
  constructor
  · intro type id info hlisted hfree
    have hold : ∀ snap, db.snapshots.lookup id = some snap → ¬ (snap.OnDisk vm' disk_id ∧ snap.type = type) := by
      intro snap hsnap h
      refine hfree _ (hsynced.rows id snap hsnap) ?_
      rw [if_pos h.1, onDisk_settled, settled_type]
      exact h
    rcases hsynced.found type id info hlisted hold with ⟨snap, -, hnew, hdisk, htype⟩ | htaken
    · exact absurd ⟨hdisk, htype⟩ (hfree snap hnew)
    · exact htaken
  · intro id bkp hlookup
    rw [hsynced.backups] at hlookup
    obtain ⟨old, -, rfl⟩ := Option.map_eq_some_iff.mp hlookup
    exact flagged_flagged listing id old

/-- With nothing to do the rows are as they were. -/
theorem after_sync_done (hlisting : parse_node_snaps data = .ok listing) (hproper : Proper listing)
    (hsettled : ∀ id snap, db.snapshots.lookup id = some snap → snap.OnDisk vm.id disk_id → settled listing id snap = snap)
    (hdone : Done vm.id disk_id listing db) : after_sync false vm disk_id data db = db := by
  cases hns : vm.get_node_storage disk_id with
  | error e => exact (after_sync_error hlisting hproper hns).same hsettled
  | ok ns =>
    obtain ⟨base, snaps, db', hbase, hsnaps, -, hfold, heq⟩ := @after_sync_ok _ _ _ _ _ _ _ _ _ db _ hlisting hproper hns
    rw [hbase.same hsettled] at hfold
    have hcreatable := hsnaps.creatable hproper
    rw [recreate_none hcreatable] at hfold
    · obtain rfl := Except.ok.inj hfold
      rw [heq, Dict.mapVals_eq_self _ hdone.backups]
    · intro type id info hmem
      obtain ⟨-, hlisted, hfree⟩ := (hsnaps.mem _ _).mp hmem
      obtain ⟨type', id', hname, hsmall, hlarge, hlength, -⟩ := hcreatable _ hmem
      obtain ⟨rfl, rfl⟩ := zfs_name_injective hname
      have htaken := hdone.found type id info hlisted fun snap hsnap h =>
        hfree id snap hsnap h.1 (by rw [Snapshot.zfs_name, h.2])
      rw [refuses_iff hsmall hlarge hlength]
      rcases htaken with ⟨snap, hsnap, -⟩ | ⟨other, snap, -, hsnap, hdisk, hsnap_name⟩
      · exact .inl ⟨snap, hsnap⟩
      · exact .inr ⟨other, snap, hsnap, hdisk, hsnap_name⟩

omit [DecidableEq NodeStorage] in
/-- Settling the rows takes nothing and frees nothing. -/
theorem Settled.taken_iff {vm' : VmId} {base : Db VmId NodeStorage} (hbase : Settled vm' disk_id listing db base)
    (type : SnapType) (id : ℤ) (info : Info) : Taken vm' disk_id base type id info ↔ Taken vm' disk_id db type id info := by
  have hrow : ∀ id' (p : Snapshot VmId NodeStorage → Prop),
      (∀ row, p (if row.OnDisk vm' disk_id then settled listing id' row else row) ↔ p row) →
        ((∃ snap, base.snapshots.lookup id' = some snap ∧ p snap) ↔ ∃ snap, db.snapshots.lookup id' = some snap ∧ p snap) := by
    intro id' p hp
    rw [hbase.rows]
    cases db.snapshots.lookup id' with
    | none => simp
    | some row => simp [hp]
  unfold Taken
  apply or_congr
  · apply hrow
    intro row
    split
    · rw [onDisk_settled, settled_type]
    · rfl
  · apply exists_congr
    intro id'
    simp only [exists_and_left]
    apply and_congr_right
    intro hid'
    apply hrow
    intro row
    split
    · rw [onDisk_settled, settled_name]
    · rfl

omit [DecidableEq NodeStorage] in
/-- Without a storage the rows are synchronised when there was nothing to do. -/
theorem Settled.synced_iff {vm' : VmId} {base : Db VmId NodeStorage} (hbase : Settled vm' disk_id listing db base) :
    Synced vm' disk_id listing db base ↔ Done vm' disk_id listing db := by
  constructor
  · intro hsynced
    constructor
    · intro type id info hlisted hfree
      rcases hsynced.found type id info hlisted hfree with ⟨snap, hnone, hnew, -⟩ | htaken
      · rw [hbase.rows, hnone] at hnew
        cases hnew
      · exact (hbase.taken_iff type id info).mp htaken
    · intro id bkp hlookup
      have hbackups := hsynced.backups id
      rw [hbase.backups, hlookup] at hbackups
      exact (Option.some.inj hbackups).symm
  · intro hdone
    constructor
    · intro id snap hlookup
      rw [hbase.rows, hlookup]
      rfl
    · intro type id info hlisted hfree
      exact .inr ((hbase.taken_iff type id info).mpr (hdone.found type id info hlisted hfree))
    · intro id snap hnone hlookup
      rw [hbase.rows, hnone] at hlookup
      cases hlookup
    · intro id
      rw [hbase.backups]
      cases hlookup : db.backups.lookup id with
      | none => rfl
      | some bkp => rw [Option.map_some, hdone.backups id bkp hlookup]

/-- A synchronisation does all that it is for if the storage of the disk is found in the definition of the VM, and
otherwise if there are no snapshots to find and no flags to change. -/
theorem vm_snapshot_synced_iff (hlisting : parse_node_snaps data = .ok listing) (hproper : Proper listing) :
    (Synced vm.id disk_id listing db (after_sync false vm disk_id data db) ∧
      after_sync false vm disk_id data (after_sync false vm disk_id data db) = after_sync false vm disk_id data db) ↔
        (∃ ns, vm.get_node_storage disk_id = .ok ns) ∨ Done vm.id disk_id listing db := by
  have hagain : ∀ db', Synced vm.id disk_id listing db db' → after_sync false vm disk_id data db' = db' :=
    fun db' hsynced => after_sync_done hlisting hproper (fun _ _ => hsynced.settled) hsynced.done
  cases hns : vm.get_node_storage disk_id with
  | ok ns =>
    obtain ⟨base, snaps, db', hbase, hsnaps, hdb', -, heq⟩ := @after_sync_ok _ _ _ _ _ _ _ _ _ db _ hlisting hproper hns
    have hsynced := synced_of_recreated hbase hsnaps hdb'
    rw [← heq] at hsynced
    exact iff_of_true ⟨hsynced, hagain _ hsynced⟩ (.inl ⟨ns, rfl⟩)
  | error e =>
    have hbase : Settled vm.id disk_id listing db (after_sync false vm disk_id data db) :=
      after_sync_error hlisting hproper hns
    have hnone : ¬ ∃ ns, (Except.error e : Except Error NodeStorage) = .ok ns := nofun
    rw [or_iff_right hnone, ← hbase.synced_iff]
    constructor
    · exact And.left
    · intro hsynced
      exact ⟨hsynced, hagain _ hsynced⟩

/-- A VM whose second disk was added to the definition and is not deployed yet. -/
def changed_vm : Vm ℕ ℕ ℕ where
  id := 1
  node := true
  disks := [⟨some 0, 0⟩, ⟨none, 0⟩]
  storages := fun zpool => some zpool

def deployed_vm : Vm ℕ ℕ ℕ := { changed_vm with disks := [⟨some 0, 0⟩] }

def es_data : Text := "zones/vm-disk0@es-7 1500000000 4096 first\n".toList

def es_listing : Listing :=
  (∅ : Listing).insert (zfs_name .MANUAL 7) ["1500000000".toList, "4096".toList, "first".toList]

def no_rows : Db ℕ ℕ := ⟨∅, ∅⟩

/-- A row that is lost, one of another VM and one of a snapshot that is gone; the flags of both backups are wrong. -/
def some_rows : Db ℕ ℕ where
  snapshots := (((∅ : Dict ℤ _).insert 9 ⟨1, 0, "second".toList, .MANUAL, .LOST, 0, some 1, "", some 1600000000⟩).insert 4
    ⟨2, 0, "first".toList, .MANUAL, .OK, 0, some 1, "", some 1⟩).insert 3
      ⟨1, 0, "daily".toList, .AUTO, .OK, 0, some 1, "", some 1⟩
  backups := ((∅ : Dict ℤ _).insert 5 ⟨some 1, 0, true⟩).insert 6 ⟨some 1, 0, false⟩

def some_data : Text :=
  ("zones/vm-disk0@is-6 1400000000 1024 -\nzones/vm-disk0@es-7 1500000000 4096 first\n" ++
    "zones/vm-disk0@es-9 1600000000 8192 second\n").toList

def some_listing : Listing :=
  ((∅ : Listing).insert (backup_name 6) ["1400000000".toList, "1024".toList, "-".toList] |>.insert (zfs_name .MANUAL 7)
    ["1500000000".toList, "4096".toList, "first".toList]).insert (zfs_name .MANUAL 9)
      ["1600000000".toList, "8192".toList, "second".toList]

theorem some_listing_proper : Proper some_listing := by
  have hlookup : ∀ name info, some_listing.lookup name = some info →
      name = zfs_name .MANUAL 9 ∧ info = ["1600000000".toList, "8192".toList, "second".toList] ∨
      name = zfs_name .MANUAL 7 ∧ info = ["1500000000".toList, "4096".toList, "first".toList] ∨
      name = backup_name 6 ∧ info = ["1400000000".toList, "1024".toList, "-".toList] := by
    intro name info hinfo
    simp only [some_listing, Dict.lookup_insert_ite] at hinfo
    split_ifs at hinfo with h9 h7 h6
    · exact .inl ⟨h9, (Option.some.inj hinfo).symm⟩
    · exact .inr (.inl ⟨h7, (Option.some.inj hinfo).symm⟩)
    · exact .inr (.inr ⟨h6, (Option.some.inj hinfo).symm⟩)
    · cases hinfo
  constructor
  · intro name info hinfo
    obtain ⟨-, rfl⟩ | ⟨-, rfl⟩ | ⟨-, rfl⟩ := hlookup name info hinfo
    all_goals exact ⟨_, _, _, rfl, by decide +kernel, by decide +kernel⟩
  · intro name info hinfo huser
    obtain ⟨rfl, rfl⟩ | ⟨rfl, rfl⟩ | ⟨rfl, -⟩ := hlookup name info hinfo
    · exact ⟨.MANUAL, 9, rfl, by decide, by decide, by decide +kernel⟩
    · exact ⟨.MANUAL, 7, rfl, by decide, by decide, by decide +kernel⟩
    · exact absurd huser (by decide +kernel)
  · intro name info hinfo hbackup
    obtain ⟨rfl, -⟩ | ⟨rfl, -⟩ | ⟨rfl, -⟩ := hlookup name info hinfo
    · exact absurd hbackup (by decide +kernel)
    · exact absurd hbackup (by decide +kernel)
    · exact ⟨6, rfl⟩

theorem vm_snapshot_synced_iff_deployed :
    Synced 1 0 some_listing some_rows (after_sync false deployed_vm 0 some_data some_rows) ∧
      after_sync false deployed_vm 0 some_data (after_sync false deployed_vm 0 some_data some_rows) =
        after_sync false deployed_vm 0 some_data some_rows := by
  have hentries : (parse_node_snaps some_data).toOption.map AList.entries = some some_listing.entries := by decide +kernel
  obtain ⟨listing, hparse, hsame⟩ := Option.map_eq_some_iff.mp hentries
  obtain rfl := AList.ext hsame
  exact (@vm_snapshot_synced_iff _ _ _ _ _ deployed_vm _ _ _ some_rows (Fallible.toOption_eq_some.mp hparse)
    some_listing_proper).mpr (.inl ⟨0, rfl⟩)

/-- The snapshot that was found gets no row. -/
theorem not_synced_changed_vm :
    ¬ Synced changed_vm.id 0 es_listing no_rows (after_sync false changed_vm 0 es_data no_rows) := by
  intro hsynced
  have hrows : (after_sync false changed_vm 0 es_data no_rows).snapshots.entries = [] := by decide +kernel
  have hnone : ∀ id, (after_sync false changed_vm 0 es_data no_rows).snapshots.lookup id = none := by
    intro id
    rw [AList.lookup, hrows]
    rfl
  rcases hsynced.found .MANUAL 7 _ rfl nofun with ⟨snap, -, hsnap, -⟩ | ⟨snap, hsnap, -⟩ | ⟨id', snap, -, hsnap, -⟩
  all_goals
    rw [hnone] at hsnap
    cases hsnap

end synced

end api.vm.snapshot_sync
