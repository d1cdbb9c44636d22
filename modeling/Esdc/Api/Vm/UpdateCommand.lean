import Esdc.Lib.Shell
import Esdc.Vms.Definition.Update

namespace api.vm.update_command

open shell (Token Builtin)
open vms.definition (Item Json Value)

inductive Hypervisor
  | KVM
  | BHYVE
  deriving DecidableEq

/-- A VM with its two definitions and what is computed from them: the quota for its disks and snapshots, the sums
of its disk sizes, and whether the limits on its snapshots change. -/
structure Vm where
  uuid : String
  zpool : String
  hvm_type : Option Hypervisor
  json : Json
  json_active : Json
  zfs_snapshot_quota : String
  disk : ℤ
  disk_active : ℤ
  snapshot_quota_update_pending : Bool
  snapshot_set : Bool
  extra_opts : String
  iso_dir : String

namespace Vm

def is_bhyve (vm : Vm) : Bool := vm.hvm_type = some .BHYVE

def is_kvm (vm : Vm) : Bool := vm.hvm_type = some .KVM

def definition (vm : Vm) : vms.definition.Vm := ⟨vm.hvm_type.isSome, vm.json, vm.json_active⟩

/-- `json_update.get('update_disks', [])`, or the `KeyError` of a removed item without a key. -/
def update_disks (vm : Vm) : Option (List Item) := vm.definition.json_update.map fun payload => payload.disks.update_

end Vm

inductive Error
  | KeyError
  | ExpectationFailed (message : String)
  | PreconditionRequired (message : String)
  deriving DecidableEq

section fix_update

/-- The text of a value in a command. -/
def text : Value → String
  | .null => "None"
  | .bool b => if b then "True" else "False"
  | .int n => toString n
  | .str s => s
  | .strs ss => toString ss
  | .json text => text

/-- `sub("^/dev/zvol/rdsk/", "", path)` -/
def zfs_filesystem (path : String) : String :=
  let rdsk := "/dev/zvol/rdsk/".toList
  if rdsk <+: path.toList then String.ofList (path.toList.drop rdsk.length) else path

/-- `'; zfs set %s=%s %s >&2; e=$((e+=$?)); '` -/
def zfs_set (property value target : String) : List Token :=
  [.semi, .word "zfs", .word "set", .word (property ++ "=" ++ value), .word target, .redirect ">&2",
    .semi, .word "e=$((e+=$?))", .semi]

/-- The disk without its sizes, which are changed by commands instead. -/
def fix_disk (vm : Vm) (disk : Item) : Option (Item × List Token) :=
  match disk.lookup "path" with
  | some (.str path) =>
    let resize := match disk.lookup "size" with
      | some size => zfs_set "volsize" (text size ++ "M") (zfs_filesystem path)
      | none => []
    let refres := match disk.lookup "refreservation" with
      | some refr =>
        if vm.is_bhyve then [] else zfs_set "refreservation" (text refr ++ "M") (zfs_filesystem path)
      | none => []
    some (Dict.delete disk ["size", "refreservation"], resize ++ refres)
  | _ => none

/-- The quota is raised before the disks grow and lowered after they have shrunk. -/
def fix_update (vm : Vm) (disks : List Item) : Option (List Item × List Token) :=
  (disks.mapM (fix_disk vm)).map fun fixed =>
    let cmd := (fixed.map Prod.snd).flatten
    if vm.is_bhyve ∧ (disks ≠ [] ∨ vm.snapshot_quota_update_pending) then
      let _set_quota := zfs_set "quota" vm.zfs_snapshot_quota (vm.zpool ++ "/" ++ vm.uuid)
      if vm.disk_active < vm.disk then (fixed.map Prod.fst, _set_quota ++ cmd)
      else (fixed.map Prod.fst, cmd ++ _set_quota)
    else (fixed.map Prod.fst, cmd)

def validate_update (vm : Vm) (os_cmd : List Token) : Except Error Unit :=
  if os_cmd ≠ [] ∧ vm.snapshot_set then .error (.ExpectationFailed "VM has snapshots") else .ok ()

end fix_update

section commands

/-- The words of a simple command. -/
def words (texts : List String) : List Token := texts.map Token.word

variable (vm : Vm)

/-- `cmd1 + 'vmadm update %s >&2; e=$((e+=$?)); vmadm get %s 2>/dev/null; exit $e'` -/
def VmManage.put : Except Error (List Token) := do
  match vm.update_disks.bind (fix_update vm) with
  | none => .error .KeyError
  | some (_, cmd1) =>
    validate_update vm cmd1
    let cmd : List Token := [.word "vmadm", .word "update", .word vm.uuid, .redirect ">&2",
      .semi, .word "e=$((e+=$?))",
      .semi, .word "vmadm", .word "get", .word vm.uuid, .redirect "2>/dev/null",
      .semi, .word "exit", .word "$e"]
    return cmd1 ++ cmd

/-- `pre_cmd + ' && ' + os_cmd + update_cmd + orig_cmd + '; exit $e'` -/
def VmStatus._add_update_cmd (orig_cmd : List Token) (os_cmd_allowed : Bool) (pre_cmd : List Token) :
    Except Error (List Token) := do
  match vm.update_disks.bind (fix_update vm) with
  | none => .error .KeyError
  | some (_, os_cmd) =>
    if os_cmd ≠ [] then
      if os_cmd_allowed then validate_update vm os_cmd
      else throw (.PreconditionRequired "VM must be updated first")
    let update_cmd : List Token := [.word "vmadm", .word "update", .word vm.uuid, .redirect ">&2",
      .semi, .word "e=$?",
      .semi, .word "vmadm", .word "get", .word vm.uuid, .redirect "2>/dev/null", .semi]
    let cmd := os_cmd ++ update_cmd ++ orig_cmd ++ .semi :: words ["exit", "$e"]
    return if pre_cmd ≠ [] then pre_cmd ++ .and_if :: cmd else cmd

def VmStatus._action_cmd (action : String) (force : Bool) (timeout : Option ℤ) : List Token :=
  words ["vmadm", action, vm.uuid] ++ words (
    if force then ["-F"]
    else match timeout with
      | some timeout => if timeout ≠ 0 then ["-t", toString timeout] else []
      | none => [])

/-- The zone configuration is one quoted word. -/
def VmStatus.zonecfg : List Token :=
  words ["zonecfg", "-z", vm.uuid,
    "add fs;set dir=" ++ vm.iso_dir ++ ";set special=/iso;set type=lofs;add options [ro,nodevices];end"] ++
    [.redirect ">/dev/null", .redirect "2>/dev/null"]

/-- The commands in front of the start that make the images available. -/
def VmStatus.touch (iso : String) (iso2 : Option String) : List Token :=
  let iso_path := "/" ++ vm.zpool ++ "/" ++ vm.uuid ++ "/root/iso"
  let first : List Token :=
    [.semi, .word "mkdir", .word "-p", .word iso_path,
      .semi, .word "test", .word "-f", .word (vm.iso_dir ++ "/" ++ iso),
      .and_if, .word "touch", .word (iso_path ++ "/" ++ iso),
      .or_if, .lparen, .word "rm", .word "-f", .word (iso_path ++ "/" ++ iso),
      .semi, .word "echo", .word ("ISO image " ++ iso ++ " is not available on compute node"), .redirect ">&2",
      .semi, .word "exit", .word "9", .rparen, .and_if]
  let second : Option String → List Token
    | none => []
    | some iso2 =>
      [.lparen, .word "test", .word "-f", .word (vm.iso_dir ++ "/" ++ iso2),
        .and_if, .word "touch", .word (iso_path ++ "/" ++ iso2),
        .or_if, .word "rm", .word "-f", .word (iso_path ++ "/" ++ iso2), .rparen,
        .redirect ">/dev/null", .redirect "2>/dev/null", .semi]
  VmStatus.zonecfg vm ++ first ++ second iso2

/-- The start itself, where the options of a BHYVE VM are changed before and changed back after it. -/
def VmStatus.vmadm_start (iso : String) (iso2 : Option String) (once : Bool) : List Token :=
  let cdrom (name : String) : String := "cdrom=/iso/" ++ name ++ ",ide"
  let ahci_cd (name : String) : String := " -s 3:1,ahci-cd,/iso/" ++ name
  let start := ["vmadm", "start", vm.uuid]
  let update (extra_opts : String) := ["vmadm", "update", vm.uuid, "bhyve_extra_opts=" ++ extra_opts]
  if vm.is_kvm then
    words (start ++ [if once then "order=c,once=d" else "order=d", cdrom iso] ++ (iso2.map cdrom).toList)
  else if vm.is_bhyve then
    words (update (vm.extra_opts ++ " -s 3:0,ahci-cd,/iso/" ++ iso ++ (iso2.map ahci_cd).getD "")) ++
      .and_if :: words start ++ .and_if :: words (update vm.extra_opts)
  else words start

def VmStatus._start_cmd (iso : Option (String × Option String)) (once : Bool) : List Token :=
  match iso with
  | none => words ["vmadm", "start", vm.uuid, "order=c"]
  | some (iso, iso2) => VmStatus.touch vm iso iso2 ++ VmStatus.vmadm_start vm iso iso2 once

inductive Request
  | put
  | start (iso : Option (String × Option String)) (once : Bool)
  | stop (force : Bool) (timeout : Option ℤ)
  | reboot (force : Bool) (timeout : Option ℤ)

/-- The command line of a request with an update. -/
def command : Request → Except Error (List Token)
  | .put => VmManage.put vm
  | .start iso once => VmStatus._add_update_cmd vm (VmStatus._start_cmd vm iso once) false []
  | .stop force timeout =>
    VmStatus._add_update_cmd vm [] true (VmStatus._action_cmd vm "stop" force timeout)
  | .reboot force timeout =>
    VmStatus._add_update_cmd vm (VmStatus._action_cmd vm "start" false none) true
      (VmStatus._action_cmd vm "stop" force timeout)

end commands

end api.vm.update_command
