import Mathlib
import Esdc.Api.Vm.DiskBackup
import Esdc.Api.Vm.Snapshot
import Esdc.Lib.Transition

namespace api.vm.retaining

open vms.disk_model
open snapshot (Snapshot SnapType)
open disk_backup (Backup BackupDefine Backups BackupDefines)

structure SnapshotDefine where
  disk_id : ℕ
  name : String
  retention : ℤ
  fsfreeze : Bool
  deriving DecidableEq

/-- `unique_together = (('vm', 'disk_id', 'name'),)` -/
def SnapshotDefine.key (define : SnapshotDefine) : ℕ × String := (define.disk_id, define.name)

def SnapshotDefine.generate_snapshot_name (define : SnapshotDefine) (now : String) : String :=
  define.name ++ "-" ++ now

abbrev Snapshots := Table Snapshot Snapshot.key

abbrev SnapshotDefines := Table SnapshotDefine SnapshotDefine.key

/-- One VM: the disks of its active definition, its limits on snapshots and its rows. -/
structure State where
  disks : List ℕ
  limits : SnapType → Option ℤ
  snapshots : snapshot.Store
  snapshot_defines : SnapshotDefines
  backups : Backups
  backup_defines : BackupDefines

/-- What a scheduled run meets: whether the checks of the request pass, its task is started and succeeds. -/
structure Outcome where
  valid : Bool
  size_limits : Bool
  reachable : Bool
  success : Bool
  freeze_failed : Bool
  deriving DecidableEq

def Outcome.result (outcome : Outcome) : snapshot.Result where
  returncode := if outcome.success then 0 else 1
  freeze_failed := outcome.freeze_failed
  force := false
  other_vm := false

section delete_oldest

/-- What snapshots and backups have in common. -/
structure Model (R : Type) where
  disk_id : R → ℕ
  define_id : R → Option ℕ
  name : R → String
  ok : R → Bool

variable {R K : Type} {key : R → K} (model : Model R)

/-- `filter(vm=vm, disk_id=define.disk_id, define=define, status=model.OK)` -/
def Model.records (define_id disk_id : ℕ) (_ : ℕ) (row : R) : Bool :=
  model.disk_id row = disk_id && model.define_id row = some define_id && model.ok row

/-- The position of the disk and the names of the oldest records, when there are more of them than are to be
kept. A disk that is gone is a `KeyError`, which is caught. -/
def _delete_oldest (t : Table R key) (define_id disk_id : ℕ) (array_disk_id : Option ℕ) (retention : ℤ) :
    Option (ℕ × List String) :=
  let total := t.count (model.records define_id disk_id)
  let to_delete := total - retention
  if to_delete < 1 then none
  else
    let oldest := (t.oldest (model.records define_id disk_id) to_delete.toNat).map fun e => model.name e.2
    array_disk_id.map fun array_disk_id => (array_disk_id, oldest)

end delete_oldest

section snapshots

def snapshot_model : Model Snapshot where
  disk_id := Snapshot.disk_id
  define_id := Snapshot.define_id
  name := Snapshot.name
  ok := fun snap => snap.status = .OK

/-- The beat task, up to the row of the snapshot. -/
def vm_snapshot_beat (s : State) (define_id : ℕ) (now : String) (outcome : Outcome) :
    Option (Except snapshot.Error ℕ × snapshot.Store) := do
  let define ← s.snapshot_defines.rows.lookup define_id
  let disk_id ← array_disk_id s.disks define.disk_id
  let real_disk_id ← get_disk_id s.disks disk_id
  let request : snapshot.Request :=
    { disk_id := real_disk_id
      snapname := define.generate_snapshot_name now
      define_id := some define_id
      fsfreeze := define.fsfreeze
      valid := outcome.valid
      size_limits := outcome.size_limits
      reachable := outcome.reachable }
  return (snapshot.VmSnapshot.post s.limits request).run snapshot.exec s.snapshots

/-- The task of a new snapshot and its callback, with the definition whose retention comes into play. -/
def vm_snapshot_cb (s : State) (id : ℕ) (outcome : Outcome) : State × Option (ℕ × SnapshotDefine) :=
  match s.snapshots.snapshots.rows.lookup id with
  | none => (s, none)
  | some snap =>
    let snapshots := ((snapshot._execute snap.disk_id).run snapshot.exec s.snapshots).2
    let ended := (snapshot.vm_snapshot_cb outcome.result id .POST).run snapshot.exec snapshots
    let s := { s with snapshots := ended.2 }
    match ended.1 with
    | .error _ => (s, none)
    | .ok () =>
      match snap.define_id.bind fun define_id => (s.snapshot_defines.rows.lookup define_id).map (define_id, ·) with
      | none => (s, none)
      | some (define_id, define) =>
        if define.retention ≠ 0 ∧ snap.disk_id = define.disk_id then (s, some (define_id, define)) else (s, none)

/-- A deletion of a list whose task succeeds. -/
def vm_snapshot_list_delete (s : State) (disk_id : ℕ) (snapnames : List String) : State :=
  match get_disk_id s.disks disk_id with
  | none => s
  | some real_disk_id =>
    if snapnames = [] then s else
    let deleted := (snapshot.VmSnapshotList.delete real_disk_id snapnames true true).run snapshot.exec s.snapshots
    match deleted.1 with
    | .error _ => { s with snapshots := deleted.2 }
    | .ok ids =>
      let snapshots := ((snapshot._execute real_disk_id).run snapshot.exec deleted.2).2
      { s with snapshots := ((snapshot.vm_snapshot_list_cb ⟨0, false, false, false⟩ ids).run snapshot.exec snapshots).2 }

def retain_snapshots (s : State) (define_id : ℕ) (define : SnapshotDefine) : State :=
  match _delete_oldest snapshot_model s.snapshots.snapshots define_id define.disk_id
      (array_disk_id s.disks define.disk_id) define.retention with
  | none => s
  | some (disk_id, snapnames) => vm_snapshot_list_delete s disk_id snapnames

/-- A scheduled run up to its retention. -/
def snapshot_run (s : State) (define_id : ℕ) (now : String) (outcome : Outcome) :
    Option (State × Option (ℕ × SnapshotDefine)) :=
  (vm_snapshot_beat s define_id now outcome).map fun beat =>
    match beat with
    | (.error _, snapshots) => ({ s with snapshots }, none)
    | (.ok id, snapshots) => vm_snapshot_cb { s with snapshots } id outcome

end snapshots

section backups

def backup_model : Model Backup where
  disk_id := Backup.disk_id
  define_id := Backup.define
  name := Backup.name
  ok := fun bkp => bkp.status = .OK

/-- The beat task, up to the row of the backup. -/
def vm_backup_beat (s : State) (define_id : ℕ) (now : String) (outcome : Outcome) :
    Option (Except disk_backup.Error ℕ × Backups) := do
  let define ← s.backup_defines.rows.lookup define_id
  let disk_id ← array_disk_id s.disks define.disk_id
  let request : disk_backup.Request :=
    { disk_id := disk_id
      valid := outcome.valid && outcome.size_limits
      reachable := outcome.reachable }
  return disk_backup.VmBackup.post s.disks s.backup_defines s.backups define.name now request

/-- The callback of a new backup, with the definition whose retention comes into play. -/
def vm_backup_cb (s : State) (id : ℕ) (success : Bool) : State × Option (ℕ × BackupDefine) :=
  match s.backups.rows.lookup id with
  | none => (s, none)
  | some bkp =>
    let s := { s with backups := disk_backup.vm_backup_cb_post s.backups id success }
    if !success then (s, none)
    else
      match bkp.define.bind fun define_id => (s.backup_defines.rows.lookup define_id).map (define_id, ·) with
      | none => (s, none)
      | some (define_id, define) =>
        if define.retention ≠ 0 ∧ bkp.disk_id = define.disk_id then (s, some (define_id, define)) else (s, none)

/-- A deletion of a list whose task succeeds. -/
def vm_backup_list_delete (bkps : Backups) (disk_id : ℕ) (bkpnames : List String) : Backups :=
  match disk_backup.VmBackupList.delete bkps ⟨disk_id, true, true⟩ bkpnames with
  | (.error _, bkps) => bkps
  | (.ok bkp_ids, bkps) => disk_backup.vm_backup_list_cb bkps bkp_ids

def retain_backups (s : State) (define_id : ℕ) (define : BackupDefine) : State :=
  match _delete_oldest backup_model s.backups define_id define.disk_id (array_disk_id s.disks define.disk_id)
      define.retention with
  | none => s
  | some (disk_id, bkpnames) => { s with backups := vm_backup_list_delete s.backups disk_id bkpnames }

/-- A scheduled run up to its retention. -/
def backup_run (s : State) (define_id : ℕ) (now : String) (outcome : Outcome) :
    Option (State × Option (ℕ × BackupDefine)) :=
  (vm_backup_beat s define_id now outcome).map fun beat =>
    match beat with
    | (.error _, backups) => ({ s with backups }, none)
    | (.ok id, backups) => vm_backup_cb { s with backups } id outcome.success

end backups

/-- The foreign keys of the snapshots whose definition has been deleted are set to null. -/
def set_null_snapshots (defines : SnapshotDefines) (snapshots : Snapshots) : Snapshots :=
  snapshots.update
    (fun _ snap => { snap with define_id := snap.define_id.filter fun id => (defines.rows.lookup id).isSome })
    fun _ _ => rfl

def set_null_backups (defines : BackupDefines) (bkps : Backups) : Backups :=
  bkps.update (fun _ bkp => { bkp with define := bkp.define.filter fun id => (defines.rows.lookup id).isSome })
    fun _ _ => rfl

/-- What belongs to removed disks is deleted, their backups stay. -/
def vm_delete_snapshots_of_removed_disks (s : State) (removed_disk_ids : List ℕ) : State :=
  let snapshots := s.snapshots.snapshots.delete fun _ snap => snap.disk_id ∈ removed_disk_ids
  let snapshot_defines := s.snapshot_defines.delete fun _ define => define.disk_id ∈ removed_disk_ids
  let backup_defines := s.backup_defines.delete fun _ define => define.disk_id ∈ removed_disk_ids
  { s with
    snapshots := { s.snapshots with snapshots := set_null_snapshots snapshot_defines snapshots }
    snapshot_defines
    backups := set_null_backups backup_defines s.backups
    backup_defines }

/-- The callback of an update of the disks. -/
def vm_update_cb (s : State) (disks : List ℕ) : State :=
  { vm_delete_snapshots_of_removed_disks s (s.disks.filter fun disk_id => disk_id ∉ disks) with disks }

inductive Event
  | snapshot_run (define_id : ℕ) (now : String) (outcome : Outcome)
  | backup_run (define_id : ℕ) (now : String) (outcome : Outcome)
  | vm_update_cb (disks : List ℕ)
  | vm_snapshot_list_delete (disk_id : ℕ) (snapnames : List String)
  | vm_backup_list_delete (disk_id : ℕ) (bkpnames : List String)

def step (s : State) : Event → Option State
  | .snapshot_run define_id now outcome =>
    (retaining.snapshot_run s define_id now outcome).map fun run =>
      match run with
      | (s, none) => s
      | (s, some (define_id, define)) => retain_snapshots s define_id define
  | .backup_run define_id now outcome =>
    (retaining.backup_run s define_id now outcome).map fun run =>
      match run with
      | (s, none) => s
      | (s, some (define_id, define)) => retain_backups s define_id define
  | .vm_update_cb disks => some (retaining.vm_update_cb s disks)
  | .vm_snapshot_list_delete disk_id snapnames => some (retaining.vm_snapshot_list_delete s disk_id snapnames)
  | .vm_backup_list_delete disk_id bkpnames =>
    some { s with backups := retaining.vm_backup_list_delete s.backups disk_id bkpnames }

end api.vm.retaining
