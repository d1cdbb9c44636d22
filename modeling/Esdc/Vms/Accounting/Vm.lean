import Mathlib
import Esdc.Vms.Status

namespace core.settings

def VMS_VM_CPU_BURST_RATIO : ℕ := 1
def VMS_VM_CPU_BURST_DEFAULT : ℕ := 100
def VMS_VM_KVM_MEMORY_OVERHEAD : ℕ := 256

end core.settings

namespace vms.accounting

open core
open vms.models (Status)

/-- What is accounted, in the order of the tuples. -/
inductive Resource
  | cpu
  | ram
  | disk
  deriving DecidableEq

instance : Fintype Resource := ⟨{.cpu, .ram, .disk}, fun r => by cases r <;> simp⟩

structure Disk (Zpool : Type) where
  zpool : Zpool
  size : ℕ
  deriving DecidableEq

/-- The keys of a definition that the accounting reads; a missing key has its default. -/
structure Json (Zpool : Type) where
  cpu_cap : ℕ
  ram : ℕ
  max_physical_memory : ℕ
  zpool : Zpool
  quota : ℕ
  delegate_dataset : Bool
  data_dataset : Bool
  disks : List (Disk Zpool)
  deriving DecidableEq

/-- `slavevm` is the `reserve_resources` flag of the `SlaveVm` row, if there is one. -/
structure Vm (Dc Node Zpool : Type) where
  dc : Dc
  node : Option Node
  hvm : Bool
  status : Status
  slavevm : Option Bool
  json : Json Zpool
  json_active : Json Zpool
  deriving DecidableEq

def calculate_cpu_cap_from_vcpus (vcpus : ℕ) : ℕ :=
  if vcpus = 0 then 0
  else
    let cpu_burst := if vcpus = 1 then settings.VMS_VM_CPU_BURST_DEFAULT / 2
      else settings.VMS_VM_CPU_BURST_DEFAULT
    vcpus * settings.VMS_VM_CPU_BURST_RATIO * 100 + cpu_burst

def calculate_cpu_count_from_cpu_cap (cpu_cap : ℕ) : ℕ :=
  if cpu_cap = 0 then 0
  else
    -- below the burst the quotient is above -1 and `int` makes it zero
    let vcpus := (cpu_cap - settings.VMS_VM_CPU_BURST_DEFAULT) / (settings.VMS_VM_CPU_BURST_RATIO * 100)
    if vcpus = 0 then 1 else vcpus

def _get_cpu_zone {Zpool : Type} (json : Json Zpool) : ℕ := calculate_cpu_count_from_cpu_cap json.cpu_cap

namespace Vm

variable {Dc Node Zpool : Type}

def is_notcreated (vm : Vm Dc Node Zpool) : Bool := vm.status = .NOTCREATED

def is_deployed (vm : Vm Dc Node Zpool) : Bool := vm.status ≠ .NOTCREATED

def get_cpu_ram (vm : Vm Dc Node Zpool) (ram_overhead : Bool) : ℕ × ℕ :=
  if vm.slavevm = some false then (0, 0)
  else
    let cpu := _get_cpu_zone vm.json
    let cpu_active := _get_cpu_zone vm.json_active
    let key := if vm.hvm && !ram_overhead then Json.ram else Json.max_physical_memory
    let ram := key vm.json
    let ram_active := key vm.json_active
    if vm.is_deployed then (max cpu cpu_active, max ram ram_active) else (cpu, ram)

variable [DecidableEq Zpool]

/-- `parse_json_disks`; a zone has its root dataset and possibly a delegated one. -/
def _get_disks (vm : Vm Dc Node Zpool) (json : Json Zpool) (zpool : Option Zpool) : List (Disk Zpool) :=
  if vm.hvm then json.disks.filter fun d => zpool.all (d.zpool = ·)
  else if zpool.all (json.zpool = ·) then
    let quota := json.quota * 1024
    let root : List (Disk Zpool) := [⟨json.zpool, quota⟩]
    if (vm.is_notcreated && json.delegate_dataset) || json.data_dataset then root ++ [⟨json.zpool, quota⟩]
    else root
  else []

def json_get_disks (vm : Vm Dc Node Zpool) : List (Disk Zpool) := vm._get_disks vm.json none

end Vm

section defaultdict

variable {Zpool : Type} [DecidableEq Zpool]

/-- `dsk[zpool] += size` of a `defaultdict(int)`. -/
def add_size (zpool : Zpool) (size : ℕ) : List (Zpool × ℕ) → List (Zpool × ℕ)
  | [] => [(zpool, size)]
  | (key, value) :: dsk =>
    if key = zpool then (key, value + size) :: dsk else (key, value) :: add_size zpool size dsk

end defaultdict

namespace Vm

variable {Dc Node Zpool : Type} [DecidableEq Zpool]

def get_disks (vm : Vm Dc Node Zpool) (json : Json Zpool) (zpool : Option Zpool) : List (Zpool × ℕ) :=
  if vm.hvm then (vm._get_disks json zpool).foldl (fun dsk i => add_size i.zpool i.size dsk) []
  else
    -- only the quota of the root dataset counts
    match vm._get_disks json zpool with
    | [] => []
    | root :: _ => [(root.zpool, root.size)]

def get_disk_size (vm : Vm Dc Node Zpool) (zpool : Option Zpool) : ℕ :=
  let dsk_size := ((vm.get_disks vm.json zpool).map Prod.snd).sum
  let dsk_size_active := ((vm.get_disks vm.json_active zpool).map Prod.snd).sum
  if vm.is_deployed then max dsk_size dsk_size_active else dsk_size

def get_cpu_ram_disk (vm : Vm Dc Node Zpool) (zpool : Option Zpool) (ram_overhead : Bool) : Resource → ℕ
  | .cpu => (vm.get_cpu_ram ram_overhead).1
  | .ram => (vm.get_cpu_ram ram_overhead).2
  | .disk => vm.get_disk_size zpool

end Vm

end vms.accounting
