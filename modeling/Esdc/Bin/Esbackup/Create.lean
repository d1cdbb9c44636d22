import Esdc.Lib.Triple
import Esdc.Bin.Esbackup.Delete

namespace eslib.esbackup.delete

open zfs (Path)
open scoped zfs

/-- `zfs rename src dst` of a dataset without others below it -/
def Storage.rename (storage : Storage) (src dst : Path) : Option Storage :=
  if src ∈ storage.datasets ∧ dst ∉ storage.datasets then
    some { storage with
      datasets := storage.datasets.map fun ds => if ds = src then dst else ds
      snapshots := storage.snapshots.map fun snap => if snap.dataset = src then { snap with dataset := dst } else snap }
  else none

/-- `zfs snapshot` -/
def Storage.create_snapshot (storage : Storage) (snap : Snapshot) : Option Storage :=
  if snap.dataset ∈ storage.datasets ∧ snap ∉ storage.snapshots then
    some { storage with snapshots := storage.snapshots ++ [snap] }
  else none

/-- `zfs receive` of a full stream, which makes the dataset, or of an incremental
stream on top of the newest snapshot. -/
def Storage.receive (storage : Storage) (snap : Snapshot) : Option Nat → Option Storage
  | none =>
    if snap.dataset ∈ storage.datasets then none
    else some { storage with
      datasets := storage.datasets ++ [snap.dataset]
      snapshots := storage.snapshots ++ [snap] }
  | some incr =>
    if (storage.snapshots.filter (·.dataset = snap.dataset)).getLast? = some ⟨snap.dataset, incr⟩ then
      some { storage with snapshots := storage.snapshots ++ [snap] }
    else none

end eslib.esbackup.delete

namespace eslib.esbackup.create

open zfs (Path)
open scoped zfs
open eslib.esbackup.delete (Snapshot FilePath Storage Value Response with_status)
open Procedure (query command checked assign state)

/-- The object of the command with the backup node and the host of the VM. -/
structure Backup where
  node : Storage
  remote : Storage
  update_snapshots : List (Snapshot × Snapshot)
  last_snapshot : Option Nat
  deleted_last_snapshot_names : List Nat
  metadata_file : Option String

def Backup.init (node remote : Storage) : Backup := ⟨node, remote, [], none, [], none⟩

/-- The commands of `ds_create` and of its cleanup. -/
inductive Step
  | check_dataset
  | check_host
  | list_remote
  | store_metadata
  | dataset_exists
  | list_local
  | rename
  | destroy_remaining
  | create_snapshot
  | backup
  | transferred
  | written
  | destroy_incr
  | set_readonly
  | remove_metadata
  | destroy_last
  deriving DecidableEq

inductive Error
  | cmd (step : Step)
  | invalid_destination
  | no_snapshots

abbrev Command (α : Type) := Procedure Backup Step Error α

/-- The status of a failed command, which is not zero, and the sizes of snapshots. -/
structure Host where
  rc : Step → Int
  written : Storage → Snapshot → Nat

def ERR_HOST_CHECK : Int := 3
def ERR_DATASET_CHECK : Int := 4
def ERR_UNKNOWN : Int := 99

def Host.error_rc (host : Host) : Error → Int
  | .cmd .check_dataset => ERR_DATASET_CHECK
  | .cmd .check_host => ERR_HOST_CHECK
  | .cmd .store_metadata => ERR_UNKNOWN
  | .cmd step => host.rc step
  | .invalid_destination => ERR_DATASET_CHECK
  | .no_snapshots => ERR_UNKNOWN

/-- The arguments: the source and its new snapshot, the destination, and the file for the metadata. -/
structure Args where
  remote_ds : Path
  id : Nat
  ds : Path
  metadata : Option String
  /-- `get_timestamp()` -/
  timestamp : Nat

def Args.destination (args : Args) : Path := args.ds

def Args.parent (args : Args) : Path := args.ds.dropLast

/-- `_new_dataset_archive`, which lengthens the last component. -/
def Args.archive_ds (args : Args) : Path :=
  args.parent ++ [args.ds.getLastD "" ++ "-arch-" ++ toString args.timestamp]

def Args.snapshot (args : Args) : Snapshot := ⟨args.remote_ds, args.id⟩

def Args.backup_snapshot (args : Args) : Snapshot := ⟨args.destination, args.id⟩

def _store_json_metadata_to_file : Option String → Command Unit
  | none => pure ()
  | some jsonfile => checked .store_metadata (fun bkp => some { bkp with
      node := { bkp.node with files := bkp.node.files ++ [jsonfile] }, metadata_file := some jsonfile })
      (.cmd .store_metadata)

/-- The checks, the snapshots of the source and the file with the metadata. -/
def prepare (args : Args) : Command (List Nat) := do
  (if args.ds.length < 3 then .throw .invalid_destination else pure ())
  checked .check_dataset (fun bkp => if args.parent ∈ bkp.node.datasets then some bkp else none) (.cmd .check_dataset)
  checked .check_host some (.cmd .check_host)
  assign fun bkp => { bkp with deleted_last_snapshot_names := [] }
  let remote_snapshots ← query .list_remote (fun bkp => bkp.remote.list args.remote_ds) (.cmd .list_remote)
  _store_json_metadata_to_file args.metadata
  return remote_snapshots.map Snapshot.id

def archive (args : Args) (local_snapshots : List Snapshot) : Command Unit := do
  checked .rename (fun bkp => (bkp.node.rename args.destination args.archive_ds).map fun node => { bkp with node })
    (.cmd .rename)
  assign fun bkp => { bkp with
    update_snapshots := local_snapshots.map fun snap => (snap, { snap with dataset := args.archive_ds }) }

/-- The snapshot for an incremental backup, if there is one, and the other snapshots of the source. -/
def find_incremental (args : Args) (remote_snapshots : List Nat) : Command (Option Nat × List Nat) := do
  let exists_ ← query .dataset_exists (fun bkp => some (decide (args.destination ∈ bkp.node.datasets)))
    (.cmd .dataset_exists)
  if exists_ then
    let local_snapshots ← query .list_local (fun bkp => bkp.node.list args.destination) (.cmd .list_local)
    match local_snapshots.getLast? with
    | none => .throw .no_snapshots
    | some most_recent_snapshot =>
      if most_recent_snapshot.id ∈ remote_snapshots then
        return (some most_recent_snapshot.id, remote_snapshots.erase most_recent_snapshot.id)
      else
        archive args local_snapshots
        return (none, remote_snapshots)
  else return (none, remote_snapshots)

def destroy_remaining (args : Args) (remote_snapshots : List Nat) : Command Unit :=
  if remote_snapshots.isEmpty then pure ()
  else do
    checked .destroy_remaining (fun bkp =>
      (bkp.remote.destroy_snapshots args.remote_ds remote_snapshots).map fun remote => { bkp with remote })
      (.cmd .destroy_remaining)
    assign fun bkp => { bkp with deleted_last_snapshot_names := remote_snapshots }

/-- The stream needs its snapshots on the source. -/
def send (args : Args) (incr_snapshot : Option Nat) (bkp : Backup) : Option Backup :=
  if args.snapshot ∈ bkp.remote.snapshots ∧ ∀ i ∈ incr_snapshot, ⟨args.remote_ds, i⟩ ∈ bkp.remote.snapshots then
    (bkp.node.receive args.backup_snapshot incr_snapshot).map fun node => { bkp with node }
  else none

def transfer (args : Args) (incr_snapshot : Option Nat) : Command Unit := do
  checked .create_snapshot (fun bkp => (bkp.remote.create_snapshot args.snapshot).map fun remote =>
    { bkp with remote }) (.cmd .create_snapshot)
  assign fun bkp => { bkp with last_snapshot := some args.id }
  checked .backup (send args incr_snapshot) (.cmd .backup)
  -- the pipeline may report an error although the stream has arrived
  checked .transferred some (.cmd .transferred)

/-- The size of the new backup; an error is ignored. -/
def get_written (host : Host) (args : Args) : Command Nat :=
  (query .written (fun bkp => some (host.written bkp.node args.backup_snapshot)) (.cmd .written)).handle fun _ => pure 0

/-- The old snapshot of an incremental backup is removed, a new dataset is made read-only. -/
def finish (args : Args) : Option Nat → Command Unit
  | some most_recent_snapshot => do
    if ← command .destroy_incr fun bkp =>
        (bkp.remote.destroy_snapshots args.remote_ds [most_recent_snapshot]).map fun remote => { bkp with remote } then
      assign fun bkp => { bkp with
        deleted_last_snapshot_names := bkp.deleted_last_snapshot_names ++ [most_recent_snapshot] }
    else pure ()
  | none => checked .set_readonly some (.cmd .set_readonly)

def metadata_value : Option String → Value
  | none => .none
  | some metadata_file => .str metadata_file

def success_response (args : Args) (backup_snapshot_size : Nat) (bkp : Backup) : Response :=
  [("backup_snapshot", .path (.snapshot args.backup_snapshot)), ("backup_snapshot_size", .int backup_snapshot_size),
    ("update_snapshots", .renamed bkp.update_snapshots), ("last_snapshot_name", .name args.id),
    ("deleted_last_snapshot_names", .names bkp.deleted_last_snapshot_names),
    ("metadata_file", metadata_value bkp.metadata_file)]

def _remove_json_metadata_file : Option String → Command Unit
  | none => pure ()
  | some jsonfile => do
    let _ ← command .remove_metadata fun bkp => (bkp.node.remove jsonfile).map fun node => { bkp with node }
    assign fun bkp => { bkp with metadata_file := none }

/-- The name of the last snapshot is in the response if it is still there. -/
def destroy_last_snapshot (args : Args) : Option Nat → Command Response
  | none => return []
  | some id => do
    if ← command .destroy_last fun bkp =>
        (bkp.remote.destroy_snapshots args.remote_ds [id]).map fun remote => { bkp with remote } then return []
    else return [("last_snapshot_name", .name id)]

def ds_create_cleanup (args : Args) : Command Response := do
  let bkp ← state
  _remove_json_metadata_file bkp.metadata_file
  let last_snapshot_name ← destroy_last_snapshot args bkp.last_snapshot
  let bkp ← state
  return [("update_snapshots", .renamed bkp.update_snapshots),
    ("deleted_last_snapshot_names", .names bkp.deleted_last_snapshot_names),
    ("metadata_file", metadata_value bkp.metadata_file)] ++ last_snapshot_name

def create (host : Host) (args : Args) : Command Response := do
  let remote_snapshots ← prepare args
  let (incr_snapshot, remote_snapshots) ← find_incremental args remote_snapshots
  destroy_remaining args remote_snapshots
  transfer args incr_snapshot
  let backup_snapshot_size ← get_written host args
  finish args incr_snapshot
  return success_response args backup_snapshot_size (← state)

/-- The command with the response that `cmd_output` makes of it. -/
def ds_create (host : Host) (args : Args) : Command Response :=
  (do return with_status 0 true (← create host args)).handle fun e => do
    return with_status (host.error_rc e) false (← ds_create_cleanup args)

end eslib.esbackup.create
