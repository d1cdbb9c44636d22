import Esdc.Lib.Table
import Esdc.Vms.DiskModel

namespace api.vm.disk_backup

open vms.disk_model

inductive BackupStatus
  | OK
  | PENDING
  | RESTORE
  | LOST
  deriving DecidableEq

/-- A backup has the number of its disk and the position that the disk had when it was created. -/
structure Backup where
  disk_id : ℕ
  vm_disk_id : ℕ
  define : Option ℕ
  name : String
  status : BackupStatus
  node : String
  deriving DecidableEq

/-- `unique_together = (('vm_hostname', 'vm_disk_id', 'name'),)` -/
def Backup.key (bkp : Backup) : ℕ × String := (bkp.vm_disk_id, bkp.name)

def Backup.array_disk_id (bkp : Backup) : ℕ := bkp.vm_disk_id + 1

structure BackupDefine where
  disk_id : ℕ
  name : String
  retention : ℤ
  node : String
  deriving DecidableEq

/-- `unique_together = (('vm', 'disk_id', 'name'),)` -/
def BackupDefine.key (define : BackupDefine) : ℕ × String := (define.disk_id, define.name)

def BackupDefine.generate_backup_name (define : BackupDefine) (now : String) : String := define.name ++ "-" ++ now

/-- The backups of one VM. -/
abbrev Backups := Table Backup Backup.key

abbrev BackupDefines := Table BackupDefine BackupDefine.key

inductive Error
  | InvalidInput (message : String)
  | ObjectNotFound
  | ObjectAlreadyExists
  | Invalid
  | ExpectationFailed (message : String)
  | IntegrityError
  | TaskError
  deriving DecidableEq

/-- `valid` stands for the serializer, the limit on the size, the status of the VM and of the backup node,
`reachable` for the queue of the task. -/
structure Request where
  disk_id : ℕ
  valid : Bool
  reachable : Bool
  deriving DecidableEq

/-- The row of a backup is there before its task is. -/
def VmBackup.post (disks : List ℕ) (defines : BackupDefines) (bkps : Backups) (bkpdef now : String)
    (request : Request) : Except Error ℕ × Backups :=
  match get_disk_id disks request.disk_id with
  | none => (.error (.InvalidInput "Invalid disk_id"), bkps)
  | some real_disk_id =>
    match defines.get (real_disk_id, bkpdef) with
    | none => (.error .ObjectNotFound, bkps)
    | some (define_id, define) =>
      let bkp : Backup :=
        { disk_id := real_disk_id
          vm_disk_id := request.disk_id - 1
          define := some define_id
          name := define.generate_backup_name now
          status := .PENDING
          node := define.node }
      if hfree : bkps.taken bkp.key = false then
        if !request.valid then (.error .Invalid, bkps)
        else if request.reachable then (.ok bkps.next_id, bkps.insert bkp hfree)
        else (.error .TaskError, (bkps.insert bkp hfree).delete fun id _ => id = bkps.next_id)
      else (.error .ObjectAlreadyExists, bkps)

def save_status (bkps : Backups) (ids : List ℕ) (status : BackupStatus) : Backups :=
  bkps.update (fun id row => if id ∈ ids then { row with status } else row) fun _ _ => by split <;> rfl

/-- The callback of a creation, up to the retention. -/
def vm_backup_cb_post (bkps : Backups) (id : ℕ) (success : Bool) : Backups :=
  if success then save_status bkps [id] .OK else bkps.delete fun id' _ => id' = id

/-- The backups with the names that were created while their disk was at the position. -/
def get_backups (bkps : Backups) (vm_disk_id : ℕ) (bkpnames : List String) : Except Error (List (ℕ × Backup)) :=
  if bkpnames = [] then .error (.InvalidInput "Invalid bkpnames")
  else match bkps.select fun _ row => row.vm_disk_id = vm_disk_id && row.name ∈ bkpnames with
    | [] => .error .ObjectNotFound
    | bkp :: rest =>
      if rest.any fun i => i.2.node ≠ bkp.2.node then .error (.InvalidInput "Invalid bkpnames")
      else .ok (bkp :: rest)

/-- What is left of a deletion to its task. -/
def VmBackupList.execute (bkps : Backups) (ids : List ℕ) (reachable : Bool) : Except Error (List ℕ) × Backups :=
  if reachable then (.ok ids, save_status bkps ids .PENDING) else (.error .TaskError, bkps)

/-- When some are lost, they are deleted from the table and the others matter only if they are OK. -/
def VmBackupList.delete (bkps : Backups) (request : Request) (bkpnames : List String) :
    Except Error (List ℕ) × Backups :=
  if request.disk_id = 0 then (.error (.InvalidInput "Invalid disk_id"), bkps)
  else match get_backups bkps (request.disk_id - 1) bkpnames with
    | .error error => (.error error, bkps)
    | .ok found =>
      if !request.valid then (.error .Invalid, bkps)
      else if found.any fun bkp => bkp.2.status = .LOST then
        let rest := (found.filter fun bkp => bkp.2.status = .OK).map Prod.fst
        let bkps := bkps.delete fun id row => id ∈ found.map Prod.fst && row.status = .LOST
        if rest = [] then (.ok [], bkps) else VmBackupList.execute bkps rest request.reachable
      else if found.any fun bkp => bkp.2.status ≠ .OK then
        (.error (.ExpectationFailed "VM backup status is not OK"), bkps)
      else VmBackupList.execute bkps (found.map Prod.fst) request.reachable

/-- The callback of a deletion that has succeeded. -/
def vm_backup_list_cb (bkps : Backups) (bkp_ids : List ℕ) : Backups := bkps.delete fun id _ => id ∈ bkp_ids

end api.vm.disk_backup
