import Mathlib.Data.List.Infix
import Mathlib.Logic.Function.Basic
import Esdc.Lib.Triple

namespace eslib.esrep

open Procedure (query command checked assign state)

/-- A replication snapshot: the timestamp in its name and the GUID it was made with. -/
structure Snap where
  name : Nat
  guid : Nat
  deriving DecidableEq

/-- A dataset by the components of its name. -/
abbrev Dataset := List String

/-- The replication snapshots of the datasets of one host, from oldest to newest. -/
abbrev Host := Dataset → List Snap

/-- `zfs snapshot` -/
def Host.create_snapshot (host : Host) (ds : Dataset) (snap : Snap) : Option Host :=
  if ∃ old ∈ host ds, old.name = snap.name then none
  else some (Function.update host ds (host ds ++ [snap]))

/-- `zfs destroy ds@name,name`; a name that is not there is ignored if another one is. -/
def Host.destroy_snapshots (host : Host) (ds : Dataset) (names : List Nat) : Option Host :=
  if ∃ old ∈ host ds, old.name ∈ names then
    some (Function.update host ds ((host ds).filter fun snap => snap.name ∉ names))
  else none

/-- The host of the master VM, the host of the slave VM, and the GUID of the next snapshot. -/
structure Hosts where
  src : Host
  dst : Host
  guid : Nat

/-- `zfs send -R -I src@incr src@snap | zfs receive -F dst` -/
structure Stream where
  src : Dataset
  dst : Dataset
  snap : Nat
  incr : Nat

/-- What the pipeline of a replication stream does, whether it succeeds or stops at any
point. A snapshot that both sides have already stays. -/
structure Zfs where
  send_recv : Nat → Stream → Host → Host → Bool × Host
  kept : ∀ n stream src dst ds snap, snap ∈ src (stream.src ++ ds) → snap ∈ dst (stream.dst ++ ds) →
    snap ∈ (send_recv n stream src dst).2 (stream.dst ++ ds)
  delivered : ∀ n stream src dst ds snap, (send_recv n stream src dst).1 = true →
    snap ∈ src (stream.src ++ ds) → snap.name = stream.snap → snap ∈ (send_recv n stream src dst).2 (stream.dst ++ ds)
  others : ∀ n stream src dst ds, ¬ stream.dst <+: ds → (send_recv n stream src dst).2 ds = dst ds

inductive Brand
  | kvm
  | bhyve
  | zone
  deriving DecidableEq

/-- The disks of the master and of the slave VM. -/
structure Vm where
  brand : Brand
  src_disks : List Dataset
  dst_disks : List Dataset

def Vm.is_hvm (vm : Vm) : Bool := vm.brand = .kvm || vm.brand = .bhyve

/-- A delegated dataset has two slashes in its name. -/
def Vm._should_be_synced (vm : Vm) (dataset : Dataset) : Bool := vm.is_hvm || dataset.length < 3

def Vm.disks (vm : Vm) : List (Dataset × Dataset) := vm.src_disks.zip vm.dst_disks

/-- The object of the command with both hosts. -/
structure Replication where
  hosts : Hosts
  vm_disks_snap : List (Dataset × Dataset × Nat)
  vm_disks_synced : List (Dataset × Dataset)

def Replication.init (hosts : Hosts) : Replication := ⟨hosts, [], []⟩

/-- The commands of `sync` and of its cleanup, with the number of the sync and the disk. -/
inductive Step
  | get_disks
  | sync_quota
  | check_disk (src_disk : Dataset)
  | list_dst (src_disk : Dataset)
  | list_src (src_disk : Dataset)
  | create (n : Nat) (src_disk : Dataset)
  | send_recv (n : Nat) (src_disk : Dataset)
  | destroy_src (n : Nat) (src_disk : Dataset)
  | destroy_dst (n : Nat) (src_disk : Dataset)
  | cleanup (src_disk : Dataset)
  deriving DecidableEq

inductive Error
  | cmd (step : Step)
  | disk_check
  | snap_check
  | assertion

abbrev Command (α : Type) := Procedure Replication Step Error α

/-- A pair of disks with the snapshots that the checks have found on it. -/
structure DiskPair where
  src_disk : Dataset
  dst_disk : Dataset
  incr_snap : Nat
  src_snaps : List Nat
  dst_snaps : List Nat

def DiskPair.disks (pair : DiskPair) : Dataset × Dataset := (pair.src_disk, pair.dst_disk)

def Replication.create (rep : Replication) (src_disk : Dataset) (snap_name : Nat) : Option Replication :=
  (rep.hosts.src.create_snapshot src_disk ⟨snap_name, rep.hosts.guid⟩).map fun src =>
    { rep with hosts := { rep.hosts with src, guid := rep.hosts.guid + 1 } }

def Replication.destroy_src (rep : Replication) (src_disk : Dataset) (names : List Nat) : Option Replication :=
  (rep.hosts.src.destroy_snapshots src_disk names).map fun src => { rep with hosts := { rep.hosts with src } }

def Replication.destroy_dst (rep : Replication) (dst_disk : Dataset) (names : List Nat) : Option Replication :=
  (rep.hosts.dst.destroy_snapshots dst_disk names).map fun dst => { rep with hosts := { rep.hosts with dst } }

def _create_new_snapshot (n : Nat) (src_disk dst_disk : Dataset) (snap_name : Nat) (save_snap_info : Bool) :
    Command Unit := do
  checked (.create n src_disk) (fun rep => rep.create src_disk snap_name) (.cmd (.create n src_disk))
  (if save_snap_info then
    assign fun rep => { rep with vm_disks_snap := rep.vm_disks_snap ++ [(src_disk, dst_disk, snap_name)] }
  else pure ())

def _send_recv (zfs : Zfs) (n : Nat) (stream : Stream) : Command Unit := do
  let rep ← state
  assign fun rep => { rep with
    hosts := { rep.hosts with dst := (zfs.send_recv n stream rep.hosts.src rep.hosts.dst).2 } }
  (if (zfs.send_recv n stream rep.hosts.src rep.hosts.dst).1 then pure ()
  else .throw (.cmd (.send_recv n stream.src)))

/-- The snapshot that `_get_common_snapshot` takes, the newest one of the source that the
destination has. -/
def common_snapshot (src_snapshots dst_snapshots : List Nat) : Option Nat :=
  src_snapshots.reverse.find? (· ∈ dst_snapshots)

def last_snap_name : Option Nat → Command Nat
  | some snap => pure snap
  | none => .throw .snap_check

def _get_common_snapshot (src_disk dst_disk : Dataset) : Command (Nat × List Nat × List Nat) := do
  let dst_snapshots ← query (.list_dst src_disk) (fun rep => some ((rep.hosts.dst dst_disk).map Snap.name))
    (.cmd (.list_dst src_disk))
  let src_snapshots ← query (.list_src src_disk) (fun rep => some ((rep.hosts.src src_disk).map Snap.name))
    (.cmd (.list_src src_disk))
  let snap ← last_snap_name (common_snapshot src_snapshots dst_snapshots)
  return (snap, src_snapshots, dst_snapshots)

def destroy_src (n : Nat) (src_disk : Dataset) (names : List Nat) : Command Unit :=
  checked (.destroy_src n src_disk) (fun rep => rep.destroy_src src_disk names) (.cmd (.destroy_src n src_disk))

def destroy_dst (n : Nat) (src_disk dst_disk : Dataset) (names : List Nat) : Command Unit :=
  checked (.destroy_dst n src_disk) (fun rep => rep.destroy_dst dst_disk names) (.cmd (.destroy_dst n src_disk))

/-- `assert snapshots` -/
def nonempty (snapshots : List Nat) : Command Unit :=
  if snapshots.isEmpty then .throw .assertion else pure ()

def _sync_disk (vm : Vm) (zfs : Zfs) (n : Nat) (src_disk dst_disk : Dataset) (incr_snap_name snap_name : Nat)
    (destroy_incr_snapshot : Bool) : Command Unit := do
  (if vm._should_be_synced src_disk then _send_recv zfs n ⟨src_disk, dst_disk, snap_name, incr_snap_name⟩
  else pure ())
  (if destroy_incr_snapshot then do
    destroy_src n src_disk [incr_snap_name]
    destroy_dst n src_disk dst_disk [incr_snap_name]
  else assign fun rep => { rep with vm_disks_snap := rep.vm_disks_snap.tail })

/-- Snapshots are created on all disks first. -/
def create_new_snapshots (n : Nat) (snap_name : Nat) (save_snap_info : Bool) :
    List (Dataset × Dataset) → Command Unit
  | [] => pure ()
  | disk :: disks => do
    _create_new_snapshot n disk.1 disk.2 snap_name save_snap_info
    create_new_snapshots n snap_name save_snap_info disks

def append_synced (disk : Dataset × Dataset) : Command Unit :=
  assign fun rep => { rep with vm_disks_synced := rep.vm_disks_synced ++ [disk] }

def cold_sync_disk (vm : Vm) (zfs : Zfs) (new_snap : Nat) (pair : DiskPair) : Command Unit := do
  _sync_disk vm zfs 0 pair.src_disk pair.dst_disk pair.incr_snap new_snap false
  nonempty pair.src_snaps
  destroy_src 0 pair.src_disk pair.src_snaps
  nonempty pair.dst_snaps
  destroy_dst 0 pair.src_disk pair.dst_disk pair.dst_snaps
  append_synced pair.disks

def cold_sync_disks (vm : Vm) (zfs : Zfs) (new_snap : Nat) : List DiskPair → Command Unit
  | [] => pure ()
  | pair :: pairs => do
    cold_sync_disk vm zfs new_snap pair
    cold_sync_disks vm zfs new_snap pairs

def _cold_sync (vm : Vm) (zfs : Zfs) (new_snap : Nat) (vm_disks : List DiskPair) : Command Unit := do
  assign fun rep => { rep with vm_disks_snap := [], vm_disks_synced := [] }
  create_new_snapshots 0 new_snap true (vm_disks.map DiskPair.disks)
  cold_sync_disks vm zfs new_snap vm_disks

def hot_sync_disk (vm : Vm) (zfs : Zfs) (n incr_snap new_snap : Nat) (disk : Dataset × Dataset) : Command Unit := do
  _sync_disk vm zfs n disk.1 disk.2 incr_snap new_snap true
  append_synced disk

def hot_sync_disks (vm : Vm) (zfs : Zfs) (n incr_snap new_snap : Nat) : List (Dataset × Dataset) → Command Unit
  | [] => pure ()
  | disk :: disks => do
    hot_sync_disk vm zfs n incr_snap new_snap disk
    hot_sync_disks vm zfs n incr_snap new_snap disks

def _hot_sync (vm : Vm) (zfs : Zfs) (n incr_snap new_snap : Nat) (vm_disks : List (Dataset × Dataset)) :
    Command Unit := do
  assign fun rep => { rep with vm_disks_synced := [] }
  create_new_snapshots n new_snap false vm_disks
  hot_sync_disks vm zfs n incr_snap new_snap vm_disks

/-- The sync loop with the timestamp of each hot sync, until it is interrupted. -/
def hot_syncs (vm : Vm) (zfs : Zfs) (vm_disks : List (Dataset × Dataset)) : Nat → Nat → List Nat → Command Nat
  | _, last_snap, [] => pure last_snap
  | n, last_snap, new_snap :: rest => do
    _hot_sync vm zfs n last_snap new_snap vm_disks
    hot_syncs vm zfs vm_disks (n + 1) new_snap rest

/-- The checks of the replication metadata, and the snapshots of both disks. -/
def check_disks : List (Dataset × Dataset) → Command (List DiskPair)
  | [] => pure []
  | disk :: disks => do
    checked (.check_disk disk.1) some (.cmd (.check_disk disk.1))
    let snaps ← _get_common_snapshot disk.1 disk.2
    let pairs ← check_disks disks
    return ⟨disk.1, disk.2, snaps.1, snaps.2.1, snaps.2.2⟩ :: pairs

/-- One call of the command: the commands that fail, the streams, the timestamp of the
cold sync and those of the hot syncs. -/
structure Run where
  fails : Step → Bool
  zfs : Zfs
  timestamp : Nat
  hot : List Nat

def sync (vm : Vm) (run : Run) : Command Nat := do
  checked .get_disks some (.cmd .get_disks)
  (if vm.src_disks.length ≠ vm.dst_disks.length then .throw .disk_check else pure ())
  (if vm.brand = .bhyve then checked .sync_quota some (.cmd .sync_quota) else pure ())
  let vm_disks ← check_disks vm.disks
  _cold_sync vm run.zfs run.timestamp vm_disks
  let rep ← state
  hot_syncs vm run.zfs rep.vm_disks_synced 1 run.timestamp run.hot

def cleanup_disks : List (Dataset × Dataset × Nat) → Command Unit
  | [] => pure ()
  | (src_disk, _, snap) :: rest => do
    let _ ← command (.cleanup src_disk) fun rep => rep.destroy_src src_disk [snap]
    cleanup_disks rest

def sync_cleanup : Command Unit := do
  cleanup_disks (← state).vm_disks_snap

/-- The command with its cleanup after an error, and the name of the last snapshot. -/
def sync_output (vm : Vm) (run : Run) : Command (Option Nat) :=
  (do return some (← sync vm run)).handle fun _ => do
    sync_cleanup
    return none

def Run.execute (run : Run) (vm : Vm) (hosts : Hosts) : Hosts :=
  ((sync_output vm run).under run.fails (.init hosts)).2.hosts

end eslib.esrep
