import Esdc.Api.Vm.UpdateCb
import Esdc.Lib.OptionMap
import Esdc.Vms.Definition.Changes

namespace vms.definition

variable {key : String} {items : List Item}

theorem mem_pair_keys {v : Value} :
    Ident.value v ∈ pair_keys_to_items items key ↔ ∃ item ∈ items, item.lookup key = some v := by
  rw [← AList.lookup_isSome, pair_lookup_value, List.getLast?_isSome, ne_eq, List.filter_eq_nil_iff]
  simp

end vms.definition

namespace api.vm.base.tasks

open option_map
open vms.columns
open vms.definition (Ident Item Json Payload Value pair_keys_to_items mem_pair_keys mem_entries_key vmadm_update)

variable {U : Type}

/-- The pending definition of a HVM lacks a disk with this number. -/
def Removes (row : VmRow U) (id : Nat) : Prop :=
  row.hvm ∧ ∃ path, real_disk_id path = some id ∧
    (∃ disk ∈ row.json_active.disks, disk.lookup "path" = some path) ∧
    ∀ disk ∈ row.json.disks, disk.lookup "path" ≠ some path

/-- Every disk that the pending definition lacks has a path with a number. -/
def Numbered (row : VmRow U) : Prop :=
  row.hvm → ∀ e ∈ (pair_keys_to_items row.json_active.disks "path").entries,
    e.1 ∉ pair_keys_to_items row.json.disks "path" →
      ∃ path, e.2.lookup "path" = some path ∧ (real_disk_id path).isSome

section removed

variable {row : VmRow U} {ids : List Nat}

/-- The disks that are missing in the pending definition. -/
def missing (row : VmRow U) : List Item :=
  ((pair_keys_to_items row.json_active.disks "path").entries.filter
    fun e => e.1 ∉ pair_keys_to_items row.json.disks "path").map fun e => e.2

theorem removed_disk_ids_eq_ok : removed_disk_ids row = .ok ids ↔
    if row.hvm then (missing row).mapM (fun disk => (disk.lookup "path").bind real_disk_id) = some ids
    else ids = [] := by
  unfold removed_disk_ids vms.definition.Vm.create_json_update_disks
  cases hhvm : row.hvm with
  | false => simp [eq_comm]
  | true =>
    rw [if_pos rfl, if_pos rfl, vms.definition.Vm.create_json_update_nested, vms.definition.diff_dict_nested,
      mapM_bind]
    change _ ↔ ((missing row).mapM fun disk : Item => disk.lookup "path").bind _ = _
    cases hpaths : (missing row).mapM fun disk : Item => disk.lookup "path" with
    | none =>
      unfold missing at hpaths
      rw [hpaths]
      simp
    | some paths =>
      unfold missing at hpaths
      rw [hpaths]
      cases hids : paths.mapM real_disk_id <;> simp [hids]

/-- The deletions go by what the two stored definitions say. -/
theorem mem_removed_disk_ids (hids : removed_disk_ids row = .ok ids) (id : Nat) : id ∈ ids ↔ Removes row id := by
  rw [removed_disk_ids_eq_ok] at hids
  cases hhvm : row.hvm with
  | false =>
    rw [hhvm, if_neg Bool.false_ne_true] at hids
    simp [hids, Removes, hhvm]
  | true =>
    rw [if_pos hhvm] at hids
    rw [mem_of_mapM hids]
    constructor
    · rintro ⟨disk, hdisk, hsome⟩
      obtain ⟨path, hpath, hid⟩ := Option.bind_eq_some_iff.mp hsome
      clear hsome
      obtain ⟨e, he, rfl⟩ := List.mem_map.mp hdisk
      obtain ⟨hmem, hnot⟩ := List.mem_filter.mp he
      have hkey := mem_entries_key hmem
      obtain ⟨ident, disk⟩ := e
      cases ident with
      | index i => exact absurd (hpath.symm.trans hkey) (by simp [Ident.key])
      | value v =>
        cases hpath.symm.trans hkey
        refine ⟨hhvm, path, hid, mem_pair_keys.mp (List.mem_keys_of_mem hmem), ?_⟩
        intro other hother hpath'
        exact of_decide_eq_true hnot (mem_pair_keys.mpr ⟨other, hother, hpath'⟩)
    · rintro ⟨_, path, hid, hactive, hpending⟩
      have hmem := mem_pair_keys.mpr hactive
      obtain ⟨disk, hlookup⟩ := Option.isSome_iff_exists.mp (AList.lookup_isSome.mpr hmem)
      refine ⟨disk, List.mem_map.mpr ⟨⟨.value path, disk⟩, ?_, rfl⟩, ?_⟩
      · apply List.mem_filter.mpr
        refine ⟨AList.mem_lookup_iff.mp hlookup, decide_eq_true fun hmem' => ?_⟩
        obtain ⟨other, hother, hpath⟩ := mem_pair_keys.mp hmem'
        exact hpending other hother hpath
      · rw [vms.definition.pair_lookup_key hlookup]
        exact hid

theorem removed_disk_ids_ok_iff : (∃ ids, removed_disk_ids row = .ok ids) ↔ Numbered row := by
  simp only [removed_disk_ids_eq_ok]
  cases hhvm : row.hvm with
  | false => simp [Numbered, hhvm]
  | true =>
    simp only [if_true]
    rw [← Option.isSome_iff_exists, mapM_isSome]
    constructor
    · intro h _ e he hnot
      have hdisk := h e.2 (List.mem_map.mpr ⟨e, List.mem_filter.mpr ⟨he, decide_eq_true hnot⟩, rfl⟩)
      obtain ⟨id, hid⟩ := Option.isSome_iff_exists.mp hdisk
      obtain ⟨path, hpath, hid⟩ := Option.bind_eq_some_iff.mp hid
      exact ⟨path, hpath, by rw [hid]; rfl⟩
    · intro h disk hdisk
      obtain ⟨e, he, rfl⟩ := List.mem_map.mp hdisk
      obtain ⟨hmem, hnot⟩ := List.mem_filter.mp he
      obtain ⟨path, hpath, hid⟩ := h hhvm e hmem (of_decide_eq_true hnot)
      rw [hpath]
      exact hid

/-- A run of `vmadm update` removes what the pending definition lacks, if no added disk gets the
number of a removed one. -/
theorem vmadm_update_removes {payload : Payload}
    (hpayload : vms.definition.Vm.json_update ⟨row.hvm, row.json, row.json_active⟩ = some payload)
    (hdistinct : ∀ disk ∈ row.json_active.disks, ∀ other ∈ row.json_active.disks, ∀ path path' id,
      disk.lookup "path" = some path → other.lookup "path" = some path' → real_disk_id path = some id →
        real_disk_id path' = some id → path = path')
    (hadded : ∀ disk ∈ payload.disks.add_, ∀ path id, disk.lookup "path" = some path →
      real_disk_id path = some id → ¬ Removes row id) {id : Nat} (hremoves : Removes row id) :
    id ∉ disk_ids (vmadm_update row.json_active payload) := by
  obtain ⟨hhvm, path, hid, ⟨disk, hdisk, hpath⟩, hpending⟩ := hremoves
  obtain ⟨nics, _, hrest⟩ := Option.bind_eq_some_iff.mp hpayload
  obtain ⟨disks, hdisks, heq⟩ := Option.bind_eq_some_iff.mp hrest
  cases heq
  have hremoved : path ∈ disks.remove_ := by
    rw [vms.definition.Vm.create_json_update_disks, if_pos hhvm, vms.definition.Vm.create_json_update_nested,
      vms.definition.diff_dict_nested] at hdisks
    obtain ⟨remove_, hremove, heq⟩ := Option.bind_eq_some_iff.mp hdisks
    cases heq
    have hmem := mem_pair_keys.mpr ⟨disk, hdisk, hpath⟩
    obtain ⟨item, hlookup⟩ := Option.isSome_iff_exists.mp (AList.lookup_isSome.mpr hmem)
    refine (mem_of_mapM hremove path).mpr ⟨item, List.mem_map.mpr ⟨⟨.value path, item⟩, ?_, rfl⟩, ?_⟩
    · apply List.mem_filter.mpr
      refine ⟨AList.mem_lookup_iff.mp hlookup, decide_eq_true fun hmem' => ?_⟩
      obtain ⟨other, hother, hpath'⟩ := mem_pair_keys.mp hmem'
      exact hpending other hother hpath'
    · exact vms.definition.pair_lookup_key hlookup
  intro hstill
  obtain ⟨result, hresult, hsome⟩ := List.mem_filterMap.mp hstill
  obtain ⟨path', hpath', hid'⟩ := Option.bind_eq_some_iff.mp hsome
  rcases List.mem_append.mp hresult with hkept | hadd
  · obtain ⟨other, hother, rfl⟩ := List.mem_map.mp hkept
    obtain ⟨hother, hnot⟩ := List.mem_filter.mp hother
    rw [vms.definition.update_item_key] at hpath'
    rw [hpath', Option.all_some] at hnot
    have heq := hdistinct other hother disk hdisk path' path id hpath' hpath hid' hid
    subst heq
    exact of_decide_eq_true hnot hremoved
  · exact hadded result hadd path' id hpath' hid' ⟨hhvm, path, hid, ⟨disk, hdisk, hpath⟩, hpending⟩

end removed

variable [DecidableEq U]

/-- The VM has a record of the disk. -/
def Recorded (db : Db U) (uuid : U) (id : Nat) : Prop :=
  ∃ record, (record ∈ db.snapshot ∨ record ∈ db.snapshot_define ∨ record ∈ db.backup_define) ∧
    record.vm = uuid ∧ record.disk_id = id

/-- Only records of the VM are gone, of disks that are not in the returned definition. -/
def Kept (uuid : U) (json : Option Json) (records records' : List (DiskRow U)) : Prop :=
  ∀ record ∈ records, record ∉ records' →
    record.vm = uuid ∧ ∃ json_active, json = some json_active ∧ record.disk_id ∉ disk_ids json_active

structure RecordsKept (uuid : U) (json : Option Json) (db db' : Db U) : Prop where
  snapshot : Kept uuid json db.snapshot db'.snapshot
  snapshot_define : Kept uuid json db.snapshot_define db'.snapshot_define
  backup_define : Kept uuid json db.backup_define db'.backup_define

section callback

variable {settings : Settings} {text : U → String} {now : Nat} {ipaddress_usage : Db U → Bool} {result : Result}
  {uuid : U} {new_node_uuid : Option U} {db : Db U}

theorem save_eq_ok {vm : Vm U} {update_fields : List Column} {db' : Db U}
    (hsave : vm.save settings text now update_fields db = .ok db') :
    ∃ saved row, vm.saved settings text now db = .ok saved ∧ db.vm.lookup vm.uuid = some row ∧
      ¬ ((row.update saved update_fields).node.isSome ∧ (row.update saved update_fields).vnc_port ∈
        db.vnc_ports (row.update saved update_fields).node vm.uuid) ∧
      db' = { db with vm := db.vm.insert vm.uuid (row.update saved update_fields) } := by
  unfold Vm.save at hsave
  split at hsave
  next => cases hsave
  next => cases hsave
  next saved row hsaved hrow =>
    dsimp only at hsave
    split at hsave
    · cases hsave
    · rename_i hunique
      cases hsave
      exact ⟨saved, row, hsaved, hrow, hunique, rfl⟩

theorem vm_update_cb_save_eq_ok {vm : Vm U} {json_active : Json} {db' : Db U}
    (hsave : vm_update_cb_save settings text now ipaddress_usage vm json_active new_node_uuid db = .ok db') :
    ∃ updated update_fields, change_node db vm json_active new_node_uuid = .ok (updated, update_fields) ∧
      updated.save settings text now update_fields db = .ok db' := by
  unfold vm_update_cb_save at hsave
  split at hsave
  next => cases hsave
  next updated update_fields hchange =>
    split at hsave
    next => cases hsave
    next saved hsaved =>
      split at hsave
      · cases hsave
        exact ⟨updated, update_fields, hchange, hsaved⟩
      · cases hsave

/-- The save leaves the records alone. -/
theorem vm_update_cb_save_records {vm : Vm U} {json_active : Json} {db' : Db U}
    (hsave : vm_update_cb_save settings text now ipaddress_usage vm json_active new_node_uuid db = .ok db') :
    db' = { db with vm := db'.vm } := by
  obtain ⟨updated, update_fields, _, hsaved⟩ := vm_update_cb_save_eq_ok hsave
  obtain ⟨_, _, _, _, _, rfl⟩ := save_eq_ok hsaved
  rfl

variable (settings text now ipaddress_usage new_node_uuid)

/-- The callback deletes as soon as the new definition is loaded, whatever comes after. -/
theorem vm_update_cb_records {row : VmRow U} {json_active : Json} {ids : List Nat}
    (hrow : db.vm.lookup uuid = some row) (hresult : result.succeeded) (hjson : result.json = some json_active)
    (hids : removed_disk_ids row = .ok ids) :
    ∃ vm, (vm_update_cb settings text now ipaddress_usage result uuid new_node_uuid db).2 =
      { vm_delete_snapshots_of_removed_disks uuid ids db with vm } := by
  unfold vm_update_cb Db.Vm_get
  rw [hrow, Option.map_some]
  dsimp only
  rw [if_pos hresult, hjson]
  dsimp only
  rw [hids]
  dsimp only
  split
  next => exact ⟨_, rfl⟩
  next db' hsave => exact ⟨db'.vm, vm_update_cb_save_records hsave⟩

/-- Before that nothing is deleted. -/
theorem vm_update_cb_unchanged
    (hnot : ¬ (result.succeeded ∧ result.json.isSome ∧
      ∃ row, db.vm.lookup uuid = some row ∧ ∃ ids, removed_disk_ids row = .ok ids)) :
    (vm_update_cb settings text now ipaddress_usage result uuid new_node_uuid db).2 = db := by
  unfold vm_update_cb Db.Vm_get
  cases hrow : db.vm.lookup uuid with
  | none => rfl
  | some row =>
    rw [Option.map_some]
    dsimp only
    by_cases hresult : result.succeeded
    · rw [if_pos hresult]
      cases hjson : result.json with
      | none => rfl
      | some json_active =>
        cases hids : removed_disk_ids row with
        | error e => rfl
        | ok ids =>
          exfalso
          apply hnot
          exact ⟨hresult, by rw [hjson]; rfl, row, hrow, ids, hids⟩
    · rw [if_neg hresult]

theorem kept_exclude_iff {json_active : Json} {ids : List Nat} {records : List (DiskRow U)} :
    Kept uuid (some json_active) records (exclude uuid ids records) ↔
      ∀ record ∈ records, record.vm = uuid → record.disk_id ∈ ids → record.disk_id ∉ disk_ids json_active := by
  have hgone : ∀ record ∈ records, record ∉ exclude uuid ids records ↔ record.vm = uuid ∧ record.disk_id ∈ ids := by
    intro record hrecord
    simp [exclude, hrecord]
  constructor
  · intro hkept record hrecord hvm hid
    obtain ⟨_, _, hjson, habsent⟩ := hkept record hrecord ((hgone record hrecord).mpr ⟨hvm, hid⟩)
    cases hjson
    exact habsent
  · intro h record hrecord hnot
    obtain ⟨hvm, hid⟩ := (hgone record hrecord).mp hnot
    exact ⟨hvm, json_active, rfl, h record hrecord hvm hid⟩

omit [DecidableEq U] in
theorem Kept.refl {json : Option Json} (records : List (DiskRow U)) : Kept uuid json records records := by
  intro record hrecord hnot
  exact absurd hrecord hnot

/-- A run of the task deletes records of existing disks exactly if it succeeds with a
definition that still has a disk with records which the pending one lacks. -/
theorem vm_update_cb_keeps_records_iff (settings : Settings) (text : U → String) (now : Nat)
    (ipaddress_usage : Db U → Bool) (result : Result) (uuid : U) (new_node_uuid : Option U) (db : Db U) :
    RecordsKept uuid result.json db (vm_update_cb settings text now ipaddress_usage result uuid new_node_uuid db).2 ↔
      ¬ (result.succeeded ∧ ∃ json_active row id, result.json = some json_active ∧ db.vm.lookup uuid = some row ∧
        Numbered row ∧ Removes row id ∧ id ∈ disk_ids json_active ∧ Recorded db uuid id) := by
  by_cases hdeleted : result.succeeded ∧ result.json.isSome ∧
      ∃ row, db.vm.lookup uuid = some row ∧ ∃ ids, removed_disk_ids row = .ok ids
  · obtain ⟨hresult, hjson, row, hrow, ids, hids⟩ := hdeleted
    obtain ⟨json_active, hjson⟩ := Option.isSome_iff_exists.mp hjson
    obtain ⟨vm, hdb⟩ :=
      vm_update_cb_records settings text now ipaddress_usage new_node_uuid hrow hresult hjson hids
    rw [hdb, hjson]
    constructor
    · rintro hkept ⟨_, json_active', row', id, hjson', hrow', _, hremoves, hstill, record, hrecord, hvm, rfl⟩
      cases hjson'
      cases hrow.symm.trans hrow'
      have hmem := (mem_removed_disk_ids hids record.disk_id).mpr hremoves
      rcases hrecord with hrecord | hrecord | hrecord
      · exact kept_exclude_iff.mp hkept.snapshot record hrecord hvm hmem hstill
      · exact kept_exclude_iff.mp hkept.snapshot_define record hrecord hvm hmem hstill
      · exact kept_exclude_iff.mp hkept.backup_define record hrecord hvm hmem hstill
    · intro h
      have hgone : ∀ record, (record ∈ db.snapshot ∨ record ∈ db.snapshot_define ∨ record ∈ db.backup_define) →
          record.vm = uuid → record.disk_id ∈ ids → record.disk_id ∉ disk_ids json_active := by
        intro record hrecord hvm hid hstill
        apply h
        exact ⟨hresult, json_active, row, record.disk_id, rfl, hrow, removed_disk_ids_ok_iff.mp ⟨ids, hids⟩,
          (mem_removed_disk_ids hids _).mp hid, hstill, record, hrecord, hvm, rfl⟩
      constructor
      · exact kept_exclude_iff.mpr fun record hrecord => hgone record (.inl hrecord)
      · exact kept_exclude_iff.mpr fun record hrecord => hgone record (.inr (.inl hrecord))
      · exact kept_exclude_iff.mpr fun record hrecord => hgone record (.inr (.inr hrecord))
  · rw [vm_update_cb_unchanged settings text now ipaddress_usage new_node_uuid hdeleted]
    constructor
    · rintro _ ⟨hresult, json_active, row, id, hjson, hrow, hnumbered, _⟩
      apply hdeleted
      exact ⟨hresult, by rw [hjson]; rfl, row, hrow, removed_disk_ids_ok_iff.mpr hnumbered⟩
    · intro _
      exact ⟨Kept.refl _, Kept.refl _, Kept.refl _⟩

end callback

section example_run

def disk (path : String) : Item where
  entries := [⟨"path", .str path⟩, ⟨"size", .int 10240⟩]
  nodupKeys := by simp [List.NodupKeys, List.keys]

def json_of (disks : List Item) : Json := ⟨∅, fun _ => none, [], disks⟩

def disk0 : Item := disk "/dev/zvol/rdsk/zones/a-disk0"

def disk1 : Item := disk "/dev/zvol/rdsk/zones/a-disk1"

/-- A VM whose second disk is removed in the pending definition. -/
def pending_removal : VmRow Nat :=
  ⟨"a", "a", "1", 1, true, false, some 100, 15901, json_of [disk0], json_of [disk0, disk1], [], 0⟩

def settings : Settings := ⟨"kvm", "", "", 1, ""⟩

def one_snapshot : Db Nat :=
  ⟨AList.singleton 1 pending_removal, AList.singleton 100 "node", [⟨1, 1, 1⟩], [], [], []⟩

/-- A forced run without a new node deletes the snapshot of a disk that is still there. -/
theorem not_recordsKept_of_force :
    ¬ RecordsKept 1 (some (json_of [disk0, disk1])) one_snapshot
      (vm_update_cb settings toString 0 (fun _ => true) ⟨0, "", true, some (json_of [disk0, disk1])⟩ 1 none
        one_snapshot).2 := by
  intro hkept
  obtain ⟨_, json_active, hjson, habsent⟩ := hkept.snapshot ⟨1, 1, 1⟩ (by decide) (by decide)
  cases hjson
  exact habsent (by decide)

end example_run

end api.vm.base.tasks
