import Esdc.Lib.Faults
import Esdc.Lib.Zfs

namespace eslib.esbackup

open zfs

/-- The zfs commands of a restore, by the places where they are run. -/
inductive Step
  | check_dataset
  | properties
  | list_children
  | clear_zoned (child : Path)
  | clear_zoned_dataset
  | rename_dataset
  | create_dataset
  | restore_dataset
  | list_backup
  | rename_child (child : Path)
  | zone_child (child : Path)
  | destroy_dataset
  | rename_backup
  | zone_dataset
  | list_restored
  | zone_restored (child : Path)
  | destroy_backup
  | destroy_snapshots
  deriving DecidableEq

inductive CmdError
  | mk

abbrev Command (D α : Type) := Procedure (Pool D) Step CmdError α

variable {D : Type}

/-- A zfs command, which may be refused, and whether it has succeeded. -/
def zfs_cmd (step : Step) (command : Pool D → Option (Pool D)) : Command D Bool :=
  .step id fun pool =>
    match command pool with
    | some pool' => .statement step (fun _ => pool') (fun _ => .pure true) (.pure false)
    | none => .statement step id (fun _ => .pure false) (.pure false)

/-- `_run_local` raises an error if the status is not zero. -/
def _run_local (command : Command D Bool) : Command D Unit := do
  if ← command then pure () else .throw .mk

/-- `zfs list -r`, and nothing if it fails -/
def zfs_list (step : Step) (dataset : Path) : Command D (Option (List Path)) :=
  .step id fun pool =>
    .statement step id (fun _ => .pure (if dataset ∈ pool.paths then some (pool.list dataset) else none)) (.pure none)

/-- The loop over the listed datasets. Its status is that of its last iteration. -/
def set_dataset_property_children (step : Path → Step) (dataset : Path) (value : Bool) :
    List Path → Bool → Command D Bool
  | [], status => pure status
  | ds :: datasets, _ => do
    if ds = dataset then set_dataset_property_children step dataset value datasets true
    else
      let status ← zfs_cmd (step ds) fun pool => pool.set_zoned ds value
      set_dataset_property_children step dataset value datasets status

/-- The property is `zoned`. -/
def _zfs_set_dataset_property_children (list_step : Step) (step : Path → Step) (dataset : Path) (value : Bool) :
    Command D Bool := do
  match ← zfs_list list_step dataset with
  | none => pure false
  | some datasets => set_dataset_property_children step dataset value datasets true

/-- The status is that of the renaming. -/
def _zfs_dataset_rename (step zone_step : Step) (cur_dataset new_dataset : Path) (set_zoned : Bool) :
    Command D Bool := do
  if ← zfs_cmd step fun pool => pool.rename cur_dataset new_dataset then
    (if set_zoned then discard (zfs_cmd zone_step fun pool => pool.set_zoned new_dataset true) else pure ())
    return true
  else return false

/-- The loop over the listed datasets. An `if` whose condition fails has the status zero. -/
def rename_children (src_dataset dst_dataset : Path) (set_zoned : Bool) : List Path → Bool → Command D Bool
  | [], status => pure status
  | ds :: datasets, _ => do
    if ds = src_dataset then rename_children src_dataset dst_dataset set_zoned datasets true
    else
      let child := dst_dataset ++ ds.drop src_dataset.length
      if ← zfs_cmd (.rename_child ds) fun pool => pool.rename ds child then
        if set_zoned then
          let status ← zfs_cmd (.zone_child child) fun pool => pool.set_zoned child true
          rename_children src_dataset dst_dataset set_zoned datasets status
        else rename_children src_dataset dst_dataset set_zoned datasets true
      else rename_children src_dataset dst_dataset set_zoned datasets true

def _zfs_rename_children (src_dataset dst_dataset : Path) (set_zoned : Bool) : Command D Bool := do
  match ← zfs_list .list_backup src_dataset with
  | none => pure false
  | some datasets => rename_children src_dataset dst_dataset set_zoned datasets true

/-- A destination by its parent and its last component. -/
structure Destination where
  parent : Path
  name : String
  /-- `get_timestamp()` -/
  timestamp : Nat

def Destination.dataset (dest : Destination) : Path := dest.parent ++ [dest.name]

def Destination.ds_backup (dest : Destination) : Path :=
  dest.parent ++ [dest.name ++ "-esbackup-" ++ toString dest.timestamp]

/-- The attributes `filesystem` and `zoned`. -/
structure Attributes where
  filesystem : Bool
  zoned : Bool

def _get_dataset_properties (dataset : Path) : Command D (Dataset D) :=
  .step id fun pool =>
    .statement .properties id
      (fun _ => match pool.find dataset with
        | some ds => .pure ds
        | none => .throw .mk)
      (.throw .mk)

def Dataset.attributes (ds : Dataset D) : Attributes where
  filesystem := ds.kind = .filesystem
  zoned := ds.kind = .filesystem && ds.zoned

/-- The commands of a rollback after the new dataset is gone. -/
def rollback (dest : Destination) (attributes : Attributes) : Command D Unit := do
  _run_local (_zfs_dataset_rename .rename_backup .zone_dataset dest.ds_backup dest.dataset attributes.zoned)
  (if attributes.filesystem then
    _run_local (_zfs_set_dataset_property_children .list_restored .zone_restored dest.dataset true)
  else pure ())

/-- The commands of `_backup_and_create_empty_dataset` up to the renaming. -/
def clear_and_rename (dest : Destination) (attributes : Attributes) : Command D Unit := do
  (if attributes.filesystem then
    _run_local (_zfs_set_dataset_property_children .list_children .clear_zoned dest.dataset false)
  else pure ())
  (if attributes.zoned then _run_local (zfs_cmd .clear_zoned_dataset fun pool => pool.set_zoned dest.dataset false)
  else pure ())
  _run_local (_zfs_dataset_rename .rename_dataset .zone_dataset dest.dataset dest.ds_backup false)

/-- The new dataset, which is empty. -/
def empty_dataset (empty : D) (kind : Kind) (attributes : Attributes) : Dataset D :=
  ⟨kind, empty, [], attributes.zoned⟩

def create_empty_dataset (empty : D) (kind : Kind) (dest : Destination) (attributes : Attributes) :
    Command D Unit :=
  (_run_local (zfs_cmd .create_dataset fun pool =>
    pool.create dest.dataset (empty_dataset empty kind attributes))).handle fun e => do
      rollback dest attributes
      .throw e

def _backup_and_create_empty_dataset (empty : D) (dest : Destination) : Command D Attributes := do
  let ds ← _get_dataset_properties dest.dataset
  let attributes := Dataset.attributes ds
  clear_and_rename dest attributes
  create_empty_dataset empty ds.kind dest attributes
  return attributes

/-- What is restored: a snapshot that exists, or a file with a snapshot in it. -/
inductive Source (D : Type)
  | dataset (path : Path) (snapshot : String) (content : D)
  | file (snapshot : String) (content : D)

def Source.snapshot : Source D → String
  | .dataset _ snapshot _ | .file snapshot _ => snapshot

def Source.content : Source D → D
  | .dataset _ _ content | .file _ content => content

/-- Send and receive, and the child datasets back to the destination. -/
def restore_and_rename_children (source : Source D) (dest : Destination) (attributes : Attributes) :
    Command D Unit := do
  _run_local (zfs_cmd .restore_dataset fun pool => pool.receive dest.dataset source.content [source.snapshot])
  _run_local (_zfs_rename_children dest.ds_backup dest.dataset attributes.filesystem)

/-- The `try` block and its `except`. -/
def restore_or_rollback (source : Source D) (dest : Destination) (attributes : Attributes) : Command D Unit :=
  (restore_and_rename_children source dest attributes).handle fun e => do
    _run_local (zfs_cmd .destroy_dataset fun pool => pool.destroy dest.dataset)
    rollback dest attributes
    .throw e

/-- The `else` block. -/
def destroy_backup (source : Source D) (dest : Destination) : Command D Unit := do
  _run_local (zfs_cmd .destroy_backup fun pool => pool.destroy dest.ds_backup)
  discard (zfs_cmd .destroy_snapshots fun pool => pool.destroy_snapshots dest.dataset [source.snapshot])

/-- `ds_restore` or `file_restore` after the checks of the source. -/
def restore (empty : D) (source : Source D) (dest : Destination) : Command D Unit := do
  let attributes ← _backup_and_create_empty_dataset empty dest
  restore_or_rollback source dest attributes
  destroy_backup source dest

/-- The source is on this host, the destination may be on another one. -/
def ds_restore (empty : D) (path : Path) (snapshot : String) (content : D) (dest : Destination) : Command D Unit := do
  _run_local (zfs_cmd .check_dataset some)
  restore empty (.dataset path snapshot content) dest

/-- The checksum is that of the file. -/
def file_restore (empty : D) (snapshot : String) (content : D) (checksum_ok : Bool) (dest : Destination) :
    Command D Unit :=
  if checksum_ok then restore empty (.file snapshot content) dest else .throw .mk

end eslib.esbackup
