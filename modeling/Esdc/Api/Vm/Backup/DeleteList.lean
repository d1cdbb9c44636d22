import Esdc.Bin.Esbackup.Deleted
import Esdc.Api.Vm.Backup.Rows
import Mathlib.Data.List.Dedup

namespace api.vm.backup

open zfs (Path)
open eslib.esbackup.delete (Snapshot FilePath Storage Value Response Host Step Error)

/-- The keys of a dictionary in some order. -/
structure DictOrder where
  keys : List Path → List Path
  nodup : ∀ names, (keys names).Nodup
  mem : ∀ names name, name ∈ keys names ↔ name ∈ names

/-- The arguments of `ds-delete` must be snapshots. -/
def t_snapshot_backup : List FilePath → Option (List Snapshot)
  | [] => some []
  | .snapshot snap :: paths => (t_snapshot_backup paths).map (snap :: ·)
  | .file _ :: _ => none

/-- The snapshots on the source of the VM that are deleted as well. -/
def last_snapshots (vm : Bool) (zfs_filesystem : Path) (bkps : List Backup) : List Snapshot :=
  if vm then (bkps.filter (·.last)).map fun b => ⟨zfs_filesystem, b.id⟩ else []

section command

variable (host : Host) (dict : DictOrder) (fails : Step → Bool) (node : Storage) (remote : Option Storage)

/-- `get_backup_cmd` for a deletion and its run on the node; `remote` is the node of the VM, if it is another one. -/
def run_delete (vm : Bool) (zfs_filesystem : Path) (bkp : Backup) (bkps : List Backup) : Output × Storage :=
  match bkp.type with
  | .DATASET =>
    match t_snapshot_backup (bkps.map Backup.file_path) with
    | none => (usage_error, node)
    | some snapshots =>
      let result := (eslib.esbackup.delete.ds_delete host (dict.keys (snapshots.map Snapshot.dataset)) snapshots
        bkp.manifest_path (last_snapshots vm zfs_filesystem bkps)).under fails (.init node remote)
      (output result, result.2.node)
  | .FILE =>
    let result := (eslib.esbackup.delete.file_delete host (bkps.map Backup.file_path) bkp.manifest_path).under fails
      (.init node remote)
    (output result, result.2.node)

end command

def _vm_backup_list_cb_failed (bkp_ids : List Nat) (rows : List Backup) : List Backup :=
  rows.map fun b => if b.id ∈ bkp_ids then { b with status := .OK } else b

/-- `[i['name'] for i in data.get('files', [])]` -/
def files (data : Response) : List FilePath :=
  match data.lookup "files" with
  | some (.sizes entries) => entries.map fun entry => .snapshot entry.1
  | _ => []

/-- The callback for a deletion. -/
def vm_backup_list_cb (result : Output) (bkp_ids : List Nat) (rows : List Backup) : List Backup :=
  match rows.filter (·.id ∈ bkp_ids) with
  | [] => rows
  | _bkp :: _ =>
    let data := result.json.getD []
    let success := match data.lookup "success" with | some (.bool b) => b | _ => false
    let rows :=
      if _bkp.type = .DATASET then
        _vm_backup_deleted_last_snapshot_names data (_vm_backup_update_snapshots data .size rows)
      else rows
    if result.returncode = 0 ∧ success = true then rows.filter (·.id ∉ bkp_ids)
    else
      let files := files data
      _vm_backup_list_cb_failed bkp_ids
        (if files.isEmpty then rows else rows.filter fun b => ¬ (b.id ∈ bkp_ids ∧ b.file_path ∈ files))

/-- The deletion of the backups with some IDs: what is left in the table and on the node. -/
def vm_backup_list (host : Host) (dict : DictOrder) (fails : Step → Bool) (node : Storage) (remote : Option Storage)
    (vm : Bool) (zfs_filesystem : Path) (bkp_ids : List Nat) (rows : List Backup) : List Backup × Storage :=
  match rows.filter (·.id ∈ bkp_ids) with
  | [] => (rows, node)
  | bkp :: bkps =>
    let (result, node') := run_delete host dict fails node remote vm zfs_filesystem bkp (bkp :: bkps)
    (vm_backup_list_cb result bkp_ids rows, node')

/-- The snapshot or the file of a backup exists. -/
def Has (storage : Storage) : FilePath → Prop
  | .snapshot snap => snap ∈ storage.snapshots
  | .file path => path ∈ storage.files

instance (storage : Storage) : DecidablePred (Has storage)
  | .snapshot snap => inferInstanceAs (Decidable (snap ∈ storage.snapshots))
  | .file path => inferInstanceAs (Decidable (path ∈ storage.files))

def Deleted (node node' : Storage) (path : FilePath) : Prop := Has node path ∧ ¬ Has node' path

/-- The rows of the list that are removed are those whose snapshot or file has been
deleted, and the others have the status OK. -/
def Agrees (node : Storage) (bkp_ids : List Nat) (rows : List Backup) (result : List Backup × Storage) : Prop :=
  ∀ b ∈ rows, b.id ∈ bkp_ids →
    ((∀ b' ∈ result.1, b'.id ≠ b.id) ↔ Deleted node result.2 b.file_path) ∧
      ∀ b' ∈ result.1, b'.id = b.id → b'.status = .OK

section conditions

open eslib.esbackup.delete

variable (dict : DictOrder) (fails : Step → Bool) (node : Storage)

/-- Every command succeeds and has something to delete. -/
def AllDeleted (paths : List FilePath) : BackupType → Prop
  | .DATASET => ∃ snapshots, t_snapshot_backup paths = some snapshots ∧
      Succeeds fails node snapshots (dict.keys (snapshots.map Snapshot.dataset)) ∧ ∀ snap ∈ snapshots, snap ∈ node.snapshots
  | .FILE => AllRemovable fails node paths

/-- The first command that would delete something fails, or one before it. -/
def NoneDeleted (paths : List FilePath) : BackupType → Prop
  | .DATASET => ∀ snapshots, t_snapshot_backup paths = some snapshots →
      FailsFirst fails node snapshots (dict.keys (snapshots.map Snapshot.dataset))
  | .FILE => ∀ first ∈ paths.head?, ¬ Removable fails node first

/-- All backups of the list are deleted, or the deletion fails before anything is. -/
def AllOrNothing (bkp_ids : List Nat) (rows : List Backup) : Prop :=
  match rows.filter (·.id ∈ bkp_ids) with
  | [] => True
  | bkp :: bkps => AllDeleted dict fails node ((bkp :: bkps).map Backup.file_path) bkp.type ∨
      NoneDeleted dict fails node ((bkp :: bkps).map Backup.file_path) bkp.type

end conditions

section callback

variable {bkp_ids : List Nat} {rows : List Backup} {result : Output} {response : Response} {rc : Int}

open eslib.esbackup.delete (with_status)

theorem map_id_failed (rows : List Backup) :
    (_vm_backup_list_cb_failed bkp_ids rows).map Backup.id = rows.map Backup.id := by
  rw [_vm_backup_list_cb_failed, List.map_map]
  apply List.map_congr_left
  intro b _
  simp only [Function.comp_apply]
  split <;> rfl

theorem callback_of_success (hrequested : rows.filter (·.id ∈ bkp_ids) ≠ []) :
    ∀ b ∈ vm_backup_list_cb ⟨0, some (with_status 0 true response)⟩ bkp_ids rows, b.id ∉ bkp_ids := by
  rw [vm_backup_list_cb]
  split
  · rename_i hnone
    exact absurd hnone hrequested
  · intro b hb
    have hsuccess : (with_status 0 true response).lookup "success" = some (.bool true) := rfl
    simp only [Option.getD_some, hsuccess, and_self, if_true, List.mem_filter, decide_not, Bool.not_eq_true',
      decide_eq_false_iff_not] at hb
    exact hb.2

/-- The list is not reported when the deletion fails, so all of its rows are kept. -/
theorem callback_of_failure (hsuccess : (result.json.getD []).lookup "success" ≠ some (.bool true))
    (hfiles : (result.json.getD []).lookup "files" = none) (hrequested : rows.filter (·.id ∈ bkp_ids) ≠ []) :
    (vm_backup_list_cb result bkp_ids rows).map Backup.id = rows.map Backup.id ∧
      ∀ b ∈ vm_backup_list_cb result bkp_ids rows, b.id ∈ bkp_ids → b.status = .OK := by
  have hnone : files (result.json.getD []) = [] := by rw [files, hfiles]
  rw [vm_backup_list_cb]
  split
  · rename_i hempty
    exact absurd hempty hrequested
  · have hfailed : ¬ (result.returncode = 0 ∧
        (match (result.json.getD []).lookup "success" with | some (.bool b) => b | _ => false) = true) := by
      rintro ⟨_, h⟩
      split at h
      · rename_i b hlookup
        rw [h] at hlookup
        exact hsuccess hlookup
      · cases h
    dsimp only
    rw [if_neg hfailed, hnone]
    simp only [List.isEmpty_nil, if_true]
    constructor
    · rw [map_id_failed]
      split
      · rw [map_id_deleted_last_snapshot_names, map_id_update_snapshots]
      · rfl
    · intro b hb hid
      obtain ⟨b', _, rfl⟩ := List.mem_map.mp hb
      by_cases hmem : b'.id ∈ bkp_ids
      · rw [if_pos hmem]
      · rw [if_neg hmem] at hid
        exact absurd hid hmem

end callback

section agreement

open eslib.esbackup.delete

variable {host : Host} {dict : DictOrder} {fails : Step → Bool} {node node' : Storage} {remote : Option Storage}
  {bkp_ids : List Nat} {rows rows' : List Backup}

theorem agrees_of_removed (hremoved : ∀ b ∈ rows', b.id ∉ bkp_ids) :
    Agrees node bkp_ids rows (rows', node') ↔ ∀ b ∈ rows, b.id ∈ bkp_ids → Deleted node node' b.file_path := by
  constructor
  · intro hagrees b hb hid
    refine (hagrees b hb hid).1.mp fun b' hb' hsame => hremoved b' hb' ?_
    rw [hsame]
    exact hid
  · intro hdeleted b hb hid
    have hnone : ∀ b' ∈ rows', b'.id ≠ b.id := fun b' hb' hsame => hremoved b' hb' (by rw [hsame]; exact hid)
    exact ⟨iff_of_true hnone (hdeleted b hb hid), fun b' hb' hsame => absurd hsame (hnone b' hb')⟩

theorem agrees_of_kept (hkept : rows'.map Backup.id = rows.map Backup.id)
    (hok : ∀ b ∈ rows', b.id ∈ bkp_ids → b.status = .OK) :
    Agrees node bkp_ids rows (rows', node') ↔ ∀ b ∈ rows, b.id ∈ bkp_ids → ¬ Deleted node node' b.file_path := by
  have hstays {b : Backup} (hb : b ∈ rows) : ¬ ∀ b' ∈ rows', b'.id ≠ b.id := by
    intro hnone
    have hmem : b.id ∈ rows'.map Backup.id := by
      rw [hkept]
      exact List.mem_map_of_mem hb
    obtain ⟨b', hb', hsame⟩ := List.mem_map.mp hmem
    exact hnone b' hb' hsame
  constructor
  · intro hagrees b hb hid hdeleted
    exact hstays hb ((hagrees b hb hid).1.mpr hdeleted)
  · intro hnot b hb hid
    refine ⟨iff_of_false (hstays hb) (hnot b hb hid), fun b' hb' hsame => hok b' hb' ?_⟩
    rw [hsame]
    exact hid

theorem t_snapshot_backup_eq_some {paths : List FilePath} {snapshots : List Snapshot} :
    t_snapshot_backup paths = some snapshots ↔ paths = snapshots.map .snapshot := by
  induction paths generalizing snapshots with
  | nil =>
    cases snapshots with
    | nil => simp [t_snapshot_backup]
    | cons snap snapshots => simp [t_snapshot_backup]
  | cons path paths ih =>
    cases path with
    | file path => cases snapshots <;> simp [t_snapshot_backup]
    | snapshot snap =>
      cases snapshots with
      | nil => simp [t_snapshot_backup]
      | cons snap' snapshots =>
        rw [t_snapshot_backup, Option.map_eq_some_iff, List.map_cons]
        constructor
        · rintro ⟨rest, hrest, hsame⟩
          cases hsame
          rw [ih.mp hrest]
        · intro hsame
          injection hsame with hsnap hpaths
          cases hsnap
          exact ⟨snapshots, ih.mpr hpaths, rfl⟩

/-- The rows of the list by their paths. -/
theorem forall_requested_iff (P : FilePath → Prop) {bkps : List Backup}
    (hbkps : rows.filter (·.id ∈ bkp_ids) = bkps) :
    (∀ b ∈ rows, b.id ∈ bkp_ids → P b.file_path) ↔ ∀ path ∈ bkps.map Backup.file_path, P path := by
  rw [← hbkps]
  constructor
  · intro hall path hpath
    obtain ⟨b, hb, rfl⟩ := List.mem_map.mp hpath
    rw [List.mem_filter, decide_eq_true_eq] at hb
    exact hall b hb.1 hb.2
  · intro hall b hb hid
    exact hall _ (List.mem_map_of_mem (List.mem_filter.mpr ⟨hb, by simpa using hid⟩))

theorem not_failsFirst_of_succeeds {snapshots : List Snapshot} {datasets : List Path}
    (hsucceeds : Succeeds fails node snapshots datasets) : ¬ FailsFirst fails node snapshots datasets := by
  rintro (⟨ds, hds, hnot⟩ | ⟨before, ds, after, rfl, _, haffected, hfails⟩)
  · exact hnot (hsucceeds.1 ds hds).1
  · rw [(hsucceeds.1 ds (by simp)).2 haffected] at hfails
    cases hfails

section requested

variable {bkp : Backup} {bkps : List Backup}

theorem agrees_of_failure (hbkps : rows.filter (·.id ∈ bkp_ids) = bkp :: bkps) (result : Output)
    (hsuccess : (result.json.getD []).lookup "success" ≠ some (.bool true))
    (hfiles : (result.json.getD []).lookup "files" = none) :
    Agrees node bkp_ids rows (vm_backup_list_cb result bkp_ids rows, node') ↔
      ∀ path ∈ (bkp :: bkps).map Backup.file_path, ¬ Deleted node node' path := by
  have hrequested : rows.filter (·.id ∈ bkp_ids) ≠ [] := by simp [hbkps]
  obtain ⟨hkept, hok⟩ := callback_of_failure hsuccess hfiles hrequested
  rw [agrees_of_kept hkept hok]
  exact forall_requested_iff (fun path => ¬ Deleted node node' path) hbkps

theorem agrees_of_success (hbkps : rows.filter (·.id ∈ bkp_ids) = bkp :: bkps) (response : Response) :
    Agrees node bkp_ids rows (vm_backup_list_cb ⟨0, some (with_status 0 true response)⟩ bkp_ids rows, node') ↔
      ∀ path ∈ (bkp :: bkps).map Backup.file_path, Deleted node node' path := by
  have hrequested : rows.filter (·.id ∈ bkp_ids) ≠ [] := by simp [hbkps]
  rw [agrees_of_removed (callback_of_success hrequested)]
  exact forall_requested_iff (Deleted node node') hbkps

theorem not_success (rc : Int) (response : Response) :
    ((some (with_status rc false response)).getD []).lookup "success" ≠ some (.bool true) := by
  simp [with_status, List.lookup]

theorem dataset_agrees_iff (hbkps : rows.filter (·.id ∈ bkp_ids) = bkp :: bkps) (metadata : Option String)
    (last_snapshots : List Snapshot) {snapshots : List Snapshot}
    (hpaths : (bkp :: bkps).map Backup.file_path = snapshots.map .snapshot) :
    let result := (ds_delete host (dict.keys (snapshots.map Snapshot.dataset)) snapshots metadata last_snapshots).under
      fails (.init node remote)
    Agrees node bkp_ids rows (vm_backup_list_cb (output result) bkp_ids rows, result.2.node) ↔
      (Succeeds fails node snapshots (dict.keys (snapshots.map Snapshot.dataset)) ∧
          ∀ snap ∈ snapshots, snap ∈ node.snapshots) ∨
        FailsFirst fails node snapshots (dict.keys (snapshots.map Snapshot.dataset)) := by
  have hdatasets : ∀ snap ∈ snapshots, snap.dataset ∈ dict.keys (snapshots.map Snapshot.dataset) :=
    fun snap hsnap => (dict.mem _ _).mpr (List.mem_map_of_mem hsnap)
  dsimp only
  rcases under_ds_delete fails host metadata last_snapshots (dict.nodup _) hdatasets (.init node remote) with
    ⟨hsucceeds, response, bkp', hrun, hsnapshots⟩ | ⟨hnot, rc, response, bkp', hrun, hfiles, hnone, hlost⟩
  · rw [hrun, output_of_response, agrees_of_success hbkps, hpaths]
    constructor
    · intro hdeleted
      exact .inl ⟨hsucceeds, fun snap hsnap => (hdeleted _ (List.mem_map_of_mem hsnap)).1⟩
    · rintro (⟨_, hall⟩ | hfirst)
      · intro path hpath
        obtain ⟨snap, hsnap, rfl⟩ := List.mem_map.mp hpath
        exact ⟨hall snap hsnap, hsnapshots snap hsnap⟩
      · exact absurd hfirst (not_failsFirst_of_succeeds hsucceeds)
  · rw [hrun, output_of_response, agrees_of_failure hbkps ⟨rc, some (with_status rc false response)⟩
      (not_success rc response) hfiles, hpaths]
    constructor
    · intro hkept
      by_cases hfirst : FailsFirst fails node snapshots (dict.keys (snapshots.map Snapshot.dataset))
      · exact .inr hfirst
      · obtain ⟨snap, hsnap, hhas, hgone⟩ := hlost hfirst
        exact absurd ⟨hhas, hgone⟩ (hkept _ (List.mem_map_of_mem hsnap))
    · rintro (⟨hsucceeds, _⟩ | hfirst)
      · exact absurd hsucceeds hnot
      · rintro path _ ⟨hhas, hgone⟩
        rw [hnone hfirst] at hgone
        exact hgone hhas

theorem file_agrees_iff (hbkps : rows.filter (·.id ∈ bkp_ids) = bkp :: bkps) (metadata : Option String) :
    let result := (file_delete host ((bkp :: bkps).map Backup.file_path) metadata).under fails (.init node remote)
    Agrees node bkp_ids rows (vm_backup_list_cb (output result) bkp_ids rows, result.2.node) ↔
      AllRemovable fails node ((bkp :: bkps).map Backup.file_path) ∨
        ∀ first ∈ ((bkp :: bkps).map Backup.file_path).head?, ¬ Removable fails node first := by
  dsimp only
  rcases under_file_delete fails host ((bkp :: bkps).map Backup.file_path) metadata (.init node remote) with
    ⟨hall, response, bkp', hrun, hfiles⟩ | ⟨hnot, rc, response, bkp', hrun, hfiles, hnone, hlost⟩
  · rw [hrun, output_of_response, agrees_of_success hbkps]
    refine iff_of_true (fun path hpath => ?_) (.inl hall)
    obtain ⟨file, rfl, hmem, _⟩ := hall.2 path hpath
    exact ⟨hmem, fun hstill => (hfiles file hstill).2 hpath⟩
  · rw [hrun, output_of_response, agrees_of_failure hbkps ⟨rc, some (with_status rc false response)⟩
      (not_success rc response) hfiles]
    constructor
    · intro hkept
      refine .inr fun first hfirst hremovable => ?_
      obtain ⟨file, rfl, hmem, hgone⟩ := hlost first hfirst hremovable
      exact hkept _ (List.mem_of_mem_head? hfirst) ⟨hmem, hgone⟩
    · rintro (hall | hfirst)
      · exact absurd hall hnot
      · rintro path _ ⟨hhas, hgone⟩
        rw [hnone hfirst] at hgone
        exact hgone hhas

end requested

/-- When the rows that the callback removes are the backups that have been deleted. -/
theorem vm_backup_list_agrees_iff (host : Host) (dict : DictOrder) (fails : Step → Bool) (node : Storage)
    (remote : Option Storage) (vm : Bool) (zfs_filesystem : Path) (bkp_ids : List Nat) (rows : List Backup) :
    Agrees node bkp_ids rows (vm_backup_list host dict fails node remote vm zfs_filesystem bkp_ids rows) ↔
      AllOrNothing dict fails node bkp_ids rows := by
  rw [vm_backup_list, AllOrNothing]
  cases hbkps : rows.filter (·.id ∈ bkp_ids) with
  | nil =>
    refine iff_of_true (fun b hb hid => ?_) trivial
    have hmem : b ∈ rows.filter (·.id ∈ bkp_ids) := List.mem_filter.mpr ⟨hb, by simpa using hid⟩
    rw [hbkps] at hmem
    exact absurd hmem List.not_mem_nil
  | cons bkp bkps =>
    dsimp only
    rw [run_delete]
    cases htype : bkp.type with
    | FILE => exact file_agrees_iff hbkps bkp.manifest_path
    | DATASET =>
      dsimp only
      cases hparsed : t_snapshot_backup ((bkp :: bkps).map Backup.file_path) with
      | none =>
        refine iff_of_true ?_ (.inr fun snapshots hsnapshots => ?_)
        · rw [agrees_of_failure hbkps usage_error (by simp [usage_error]) rfl]
          rintro path _ ⟨hhas, hnot⟩
          exact hnot hhas
        · rw [hparsed] at hsnapshots
          cases hsnapshots
      | some snapshots =>
        simp only [AllDeleted, NoneDeleted, hparsed, Option.some.injEq, exists_eq_left', forall_eq']
        exact dataset_agrees_iff hbkps bkp.manifest_path _ (t_snapshot_backup_eq_some.mp hparsed)

end agreement

/-- The keys of a dictionary in the order of their insertion. -/
def insertion_order : DictOrder := ⟨List.dedup, List.nodup_dedup, fun _ _ => List.mem_dedup⟩

/-- The second of two files cannot be removed, and the row of the first one is kept. -/
theorem vm_backup_list_not_agrees :
    let rows : List Backup := [⟨1, .FILE, .file "/zones/backups/1.zfs", none, .PENDING, some 5, false⟩,
      ⟨2, .FILE, .file "/zones/backups/2.zfs", none, .PENDING, some 6, false⟩]
    let node : Storage := ⟨[], [], ["/zones/backups/1.zfs", "/zones/backups/2.zfs"]⟩
    let fails : Step → Bool := fun step => step = .remove (.file "/zones/backups/2.zfs")
    ¬ Agrees node [1, 2] rows
      (vm_backup_list ⟨fun _ => 1, fun _ _ => 0⟩ insertion_order fails node none true ["zones", "vm"] [1, 2] rows) := by
  intro rows node fails hagrees
  have hfirst := (hagrees _ List.mem_cons_self (by decide)).1.mpr ⟨by decide, by decide⟩
  exact hfirst ⟨1, .FILE, .file "/zones/backups/1.zfs", none, .OK, some 5, false⟩ (by decide) rfl

end api.vm.backup
