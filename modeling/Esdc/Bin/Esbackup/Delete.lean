import Esdc.Lib.Faults
import Esdc.Lib.Zfs

namespace eslib.esbackup.delete

open zfs (Path)
open scoped zfs

/-- A snapshot of a backup, which has the name `is-<id>`. -/
structure Snapshot where
  dataset : Path
  id : Nat
  deriving DecidableEq

/-- Where a backup is stored. -/
inductive FilePath
  | snapshot (snap : Snapshot)
  | file (path : String)
  deriving DecidableEq

/-- What a host has of the backups and of the disks. -/
structure Storage where
  datasets : List Path
  snapshots : List Snapshot
  files : List String

/-- `zfs destroy dataset@ids`, which takes the snapshots that there are and fails if there is none. -/
def Storage.destroy_snapshots (storage : Storage) (dataset : Path) (ids : List Nat) : Option Storage :=
  if dataset ∈ storage.datasets ∧ ∃ snap ∈ storage.snapshots, snap.dataset = dataset ∧ snap.id ∈ ids then
    some { storage with
      snapshots := storage.snapshots.filter fun snap => ¬ (snap.dataset = dataset ∧ snap.id ∈ ids) }
  else none

theorem mem_destroy_snapshots {storage storage' : Storage} {dataset : Path} {ids : List Nat}
    (hdestroy : storage.destroy_snapshots dataset ids = some storage') (snap : Snapshot) :
    snap ∈ storage'.snapshots ↔ snap ∈ storage.snapshots ∧ ¬ (snap.dataset = dataset ∧ snap.id ∈ ids) := by
  rw [Storage.destroy_snapshots] at hdestroy
  split at hdestroy
  · cases hdestroy
    simp only [List.mem_filter, decide_eq_true_eq]
  · cases hdestroy

theorem datasets_destroy_snapshots {storage storage' : Storage} {dataset : Path} {ids : List Nat}
    (hdestroy : storage.destroy_snapshots dataset ids = some storage') : storage'.datasets = storage.datasets := by
  rw [Storage.destroy_snapshots] at hdestroy
  split at hdestroy
  · cases hdestroy
    rfl
  · cases hdestroy

/-- `zfs destroy -rRf dataset`; nothing is cloned from a backup. -/
def Storage.destroy (storage : Storage) (dataset : Path) : Option Storage :=
  if dataset ∈ storage.datasets then
    some { storage with
      datasets := zfs.without id dataset storage.datasets
      snapshots := zfs.without Snapshot.dataset dataset storage.snapshots }
  else none

/-- `zfs list -t snapshot -d 1 dataset` -/
def Storage.list (storage : Storage) (dataset : Path) : Option (List Snapshot) :=
  if dataset ∈ storage.datasets then some (storage.snapshots.filter (·.dataset = dataset)) else none

/-- `os.remove` -/
def Storage.remove (storage : Storage) (path : String) : Option Storage :=
  if path ∈ storage.files then some { storage with files := storage.files.filter (· ≠ path) } else none

/-- The values in the output of the command. -/
inductive Value
  | bool (b : Bool)
  | int (n : Int)
  | none
  | names (ids : List Nat)
  | paths (paths : List FilePath)
  | path (path : FilePath)
  | name (id : Nat)
  | str (s : String)
  /-- dictionaries with the keys `name` and `written` -/
  | sizes (sizes : List (Snapshot × Nat))
  /-- dictionaries with the keys `name` and `new_name` -/
  | renamed (renamed : List (Snapshot × Snapshot))

abbrev Response := List (String × Value)

/-- The object of the command with its hosts: the node, and the source if a host is given. -/
structure Backup where
  node : Storage
  host : Option Storage
  deleted_snapshots : List Snapshot
  affected_datasets : List Path
  deleted_last_snapshot_names : List Nat
  deleted_files : List FilePath
  metadata_file : Option String

def Backup.init (node : Storage) (host : Option Storage) : Backup := ⟨node, host, [], [], [], [], none⟩

/-- A command with `remote=True`, which is run on the node if no host is given. -/
def Backup.run_remote (bkp : Backup) (effect : Storage → Option Storage) : Option Backup :=
  match bkp.host with
  | none => (effect bkp.node).map fun node => { bkp with node }
  | some remote => (effect remote).map fun remote => { bkp with host := some remote }

/-- The commands and calls that may fail. -/
inductive Step
  | list (dataset : Path)
  | destroy (dataset : Path)
  | remove (path : FilePath)
  | remove_metadata
  | destroy_last
  | size (dataset : Path)
  deriving DecidableEq

/-- `CmdError` of a command, or any other exception. -/
inductive Error
  | cmd (step : Step)
  | unknown

abbrev Command (α : Type) := Procedure Backup Step Error α

open Procedure (query command checked assign state)

/-- What the hosts answer: the status of a failed command, which is not zero, and
the sizes of snapshots. -/
structure Host where
  rc : Step → Int
  written : Storage → Snapshot → Nat

def ERR_UNKNOWN : Int := 99

def Host.error_rc (host : Host) : Error → Int
  | .cmd cmd => host.rc cmd
  | .unknown => ERR_UNKNOWN

def _list_dataset_snapshots (dataset : Path) : Command (List Snapshot) :=
  query (.list dataset) (fun bkp => bkp.node.list dataset) (.cmd (.list dataset))

/-- The sizes of the remaining snapshots; errors are ignored. -/
def list_sizes (host : Host) : List Path → Command (List (Snapshot × Nat))
  | [] => pure []
  | ds :: datasets => do
    let res ← (query (.size ds) (fun bkp => (bkp.node.list ds).map fun snaps =>
      snaps.map fun snap => (snap, host.written bkp.node snap)) .unknown).handle fun _ => pure []
    return res ++ (← list_sizes host datasets)

def _list_dataset_snapshot_size (host : Host) : Command (List (Snapshot × Nat)) := do
  let bkp ← state
  if bkp.deleted_snapshots.isEmpty || bkp.affected_datasets.isEmpty then pure []
  else list_sizes host bkp.affected_datasets

def _remove_json_metadata_file (jsonfile : String) : Command Unit := do
  let _ ← command .remove_metadata fun bkp =>
    (bkp.node.remove jsonfile).map fun node => { bkp with node }
  assign fun bkp => { bkp with metadata_file := none }

def remove_metadata : Option String → Command Unit
  | none => pure ()
  | some metadata => _remove_json_metadata_file metadata

/-- The snapshots of every affected dataset. -/
def list_current : List Path → Command (List (Path × List Snapshot))
  | [] => pure []
  | ds :: datasets => do
    let current ← _list_dataset_snapshots ds
    return (ds, current) :: (← list_current datasets)

def destroy_dataset (snaps ds_snapshots : List Snapshot) (ds : Path) : Command Unit :=
  let keep_dataset := ds_snapshots.any (· ∉ snaps)
  let snap_names := (snaps.filter (· ∈ ds_snapshots)).map Snapshot.id
  if snap_names.isEmpty then pure ()
  else do
    checked (.destroy ds) (fun bkp =>
      (if keep_dataset then bkp.node.destroy_snapshots ds snap_names else bkp.node.destroy ds).map fun node =>
        { bkp with node }) (.cmd (.destroy ds))
    assign fun bkp => { bkp with
      deleted_snapshots := bkp.deleted_snapshots ++ snaps
      affected_datasets := if keep_dataset then bkp.affected_datasets ++ [ds] else bkp.affected_datasets }

def destroy_datasets (snapshots : List Snapshot) : List (Path × List Snapshot) → Command Unit
  | [] => pure ()
  | (ds, ds_snapshots) :: current => do
    destroy_dataset (snapshots.filter (·.dataset = ds)) ds_snapshots ds
    destroy_datasets snapshots current

def destroy_last_snapshots (last_snapshots : List Snapshot) : Command Unit :=
  match last_snapshots with
  | [] => pure ()
  | first :: _ => do
    let names := last_snapshots.map Snapshot.id
    if ← command .destroy_last fun bkp => bkp.run_remote (·.destroy_snapshots first.dataset names) then
      assign fun bkp => { bkp with deleted_last_snapshot_names := names }
    else pure ()

def ds_delete_response (host : Host) : Command Response := do
  let sizes ← _list_dataset_snapshot_size host
  let bkp ← state
  return [("deleted_snapshots", .paths (bkp.deleted_snapshots.map .snapshot)), ("update_snapshots", .sizes sizes),
    ("deleted_last_snapshot_names", .names bkp.deleted_last_snapshot_names),
    ("deleted_metadata_file", .none)]

/-- The keys that `cmd_output` adds to a response. -/
def with_status (rc : Int) (success : Bool) (response : Response) : Response :=
  ("rc", .int rc) :: ("success", .bool success) :: response

/-- The response of the command, or that of the error with what the cleanup adds. -/
def cmd_output (host : Host) (command cleanup : Command Response) : Command Response :=
  (do return with_status 0 true (← command)).handle fun e => do
    return with_status (host.error_rc e) false (← cleanup)

/-- `datasets` are the keys of the dictionary of snapshots in its order. -/
def ds_delete (host : Host) (datasets : List Path) (snapshots : List Snapshot) (metadata : Option String)
    (last_snapshots : List Snapshot) : Command Response :=
  cmd_output host
    (do
      let current_snapshots ← list_current datasets
      destroy_datasets snapshots current_snapshots
      remove_metadata metadata
      destroy_last_snapshots last_snapshots
      ds_delete_response host)
    (ds_delete_response host)

def Backup.remove (bkp : Backup) : FilePath → Option Backup
  | .file path => (bkp.node.remove path).map fun node => { bkp with node }
  | .snapshot _ => none

def _delete_file (f : FilePath) : Command Unit := checked (.remove f) (fun bkp => bkp.remove f) .unknown

def remove_files : List FilePath → Command Unit
  | [] => pure ()
  | f :: filenames => do
    _delete_file f
    assign fun bkp => { bkp with deleted_files := bkp.deleted_files ++ [f] }
    remove_files filenames

def file_delete_response : Command Response := do
  let bkp ← state
  return [("deleted_files", .paths bkp.deleted_files), ("deleted_metadata_file", .none)]

def file_delete (host : Host) (filenames : List FilePath) (metadata : Option String) : Command Response :=
  cmd_output host
    (do
      remove_files filenames
      remove_metadata metadata
      file_delete_response)
    file_delete_response

end eslib.esbackup.delete
