import Mathlib
import Esdc.Bin.Esbackup.Delete

namespace api.vm.backup

open eslib.esbackup.delete (Snapshot FilePath Value Response with_status)

inductive BackupType
  | DATASET
  | FILE
  deriving DecidableEq

inductive Status
  | OK
  | PENDING
  | RESTORE
  | LOST
  deriving DecidableEq

/-- A row of the table of backups. -/
structure Backup where
  id : Nat
  type : BackupType
  file_path : FilePath
  manifest_path : Option String
  status : Status
  size : Option Nat
  last : Bool
  deriving DecidableEq

/-- The status of the process and the text that it has printed. -/
structure Output where
  returncode : Int
  json : Option Response

/-- The status of a process that cannot parse its arguments. -/
def usage_error : Output := ⟨2, none⟩

/-- The command prints its response and exits with its `rc`. -/
def output {E S : Type} (result : Except E Response × S) : Output :=
  match result.1 with
  | .ok response => ⟨match response.lookup "rc" with | some (.int rc) => rc | _ => 0, some response⟩
  | .error _ => ⟨1, none⟩

/-- The attributes of a backup that the entries of `update_snapshots` may have new values for. -/
inductive Attr
  | size
  | file_path

/-- The rows get the values of the entries with their IDs; of two entries with one ID the last one counts. -/
def update_rows {α : Type} (entries : List (Snapshot × α)) (setattr : α → Backup → Backup) (rows : List Backup) :
    List Backup :=
  rows.map fun b =>
    match entries.reverse.find? fun entry => entry.1.id = b.id with
    | some entry => setattr entry.2 b
    | none => b

/-- An entry without the attribute is an error, which is caught. -/
def _vm_backup_update_snapshots (data : Response) (dst_attr : Attr) (rows : List Backup) : List Backup :=
  match data.lookup "update_snapshots", dst_attr with
  | some (.sizes sizes), .size => update_rows sizes (fun size b => { b with size := some size }) rows
  | some (.renamed renamed), .file_path =>
    update_rows renamed (fun snap b => { b with file_path := .snapshot snap }) rows
  | _, _ => rows

def _vm_backup_deleted_last_snapshot_names (data : Response) (rows : List Backup) : List Backup :=
  match data.lookup "deleted_last_snapshot_names" with
  | some (.names ids) => rows.map fun b => if b.id ∈ ids then { b with last := false } else b
  | _ => rows

theorem output_of_response {E S : Type} {response : Response} {rc : Int} {success : Bool} {s : S} :
    output ((.ok (with_status rc success response) : Except E Response), s) =
      ⟨rc, some (with_status rc success response)⟩ := rfl

theorem map_id_update_rows {α : Type} {entries : List (Snapshot × α)} {setattr : α → Backup → Backup}
    (hid : ∀ a b, (setattr a b).id = b.id) (rows : List Backup) :
    (update_rows entries setattr rows).map Backup.id = rows.map Backup.id := by
  rw [update_rows, List.map_map]
  apply List.map_congr_left
  intro b _
  simp only [Function.comp_apply]
  split
  · exact hid _ _
  · rfl

theorem map_id_update_snapshots (data : Response) (dst_attr : Attr) (rows : List Backup) :
    (_vm_backup_update_snapshots data dst_attr rows).map Backup.id = rows.map Backup.id := by
  unfold _vm_backup_update_snapshots
  split
  · refine map_id_update_rows ?_ rows
    exact fun _ _ => rfl
  · refine map_id_update_rows ?_ rows
    exact fun _ _ => rfl
  · rfl

theorem map_id_deleted_last_snapshot_names (data : Response) (rows : List Backup) :
    (_vm_backup_deleted_last_snapshot_names data rows).map Backup.id = rows.map Backup.id := by
  rw [_vm_backup_deleted_last_snapshot_names]
  split
  · rw [List.map_map]
    apply List.map_congr_left
    intro b _
    simp only [Function.comp_apply]
    split <;> rfl
  · rfl

end api.vm.backup
