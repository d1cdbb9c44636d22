import Mathlib
import Esdc.Vms.Accounting.Vm

namespace vms.kvm_overhead

open core
open accounting (Json Vm)

inductive OSType
  | LINUX
  | SUNOS
  | BSD
  | WINDOWS
  | SUNOS_ZONE
  | LINUX_ZONE
  deriving DecidableEq

/-- The values in the database. -/
def OSType.value : OSType → ℕ
  | .LINUX => 1
  | .SUNOS => 2
  | .BSD => 3
  | .WINDOWS => 4
  | .SUNOS_ZONE => 5
  | .LINUX_ZONE => 6

inductive HVMType
  | Hypervisor_KVM
  | Hypervisor_BHYVE
  | Hypervisor_NONE
  deriving DecidableEq

def HVMType.value : HVMType → ℕ
  | .Hypervisor_KVM => 1
  | .Hypervisor_BHYVE => 2
  | .Hypervisor_NONE => 3

def HVM : List HVMType := [.Hypervisor_KVM, .Hypervisor_BHYVE]

/-- A row of a VM; `is_hvm` looks at the type of the hypervisor. -/
structure Row (Dc NodeId Zpool : Type) where
  ostype : OSType
  hvm_type : HVMType
  vm : Vm Dc NodeId Zpool
  is_hvm : vm.hvm = decide (hvm_type ∈ HVM)

section overhead

variable {Dc NodeId Zpool : Type} [DecidableEq Dc]

/-- The setter of `ram`. -/
def set_ram (hvm : Bool) (json : Json Zpool) (value : ℕ) : Json Zpool :=
  if hvm then
    { json with ram := value, max_physical_memory := value + settings.VMS_VM_KVM_MEMORY_OVERHEAD }
  else { json with max_physical_memory := value }

/-- The VMs of the node, or those of one datacenter. -/
def filter_vms (vm_set : List (Row Dc NodeId Zpool)) (dc : Option Dc) : List (Row Dc NodeId Zpool) :=
  vm_set.filter fun row => dc.all (row.vm.dc = ·)

/-- `filter(ostype__in=_HVMType.HVM).count()` times the overhead. -/
def get_ram_kvm_overhead (vm_set : List (Row Dc NodeId Zpool)) (dc : Option Dc) : ℕ :=
  let vms_count := (filter_vms vm_set dc).countP fun row => row.ostype.value ∈ HVM.map HVMType.value
  vms_count * settings.VMS_VM_KVM_MEMORY_OVERHEAD

def used_ram (vm_set : List (Row Dc NodeId Zpool)) (dc : Option Dc) (ram_overhead : Bool) : ℕ :=
  ((filter_vms vm_set dc).map fun row => (row.vm.get_cpu_ram ram_overhead).2).sum

/-- The definition was made by the setter, and there is no pending one. -/
structure Settled (vm : Vm Dc NodeId Zpool) : Prop where
  built : ∃ json value, vm.json = set_ram vm.hvm json value
  active : vm.is_deployed = true → vm.json_active = vm.json

/-- A hardware VM that is accounted. -/
def Accounted (row : Row Dc NodeId Zpool) : Bool := row.vm.hvm && row.vm.slavevm ≠ some false

omit [DecidableEq Dc] in
/-- What a VM adds to the used RAM because of its hypervisor. -/
theorem get_cpu_ram_overhead {row : Row Dc NodeId Zpool} (hsettled : Settled row.vm) :
    (row.vm.get_cpu_ram true).2 = (row.vm.get_cpu_ram false).2 +
      if Accounted row then settings.VMS_VM_KVM_MEMORY_OVERHEAD else 0 := by
  obtain ⟨⟨json, value, hjson⟩, hactive⟩ := hsettled
  unfold Accounted Vm.get_cpu_ram
  by_cases hslave : row.vm.slavevm = some false
  · simp [hslave]
  · cases hhvm : row.vm.hvm with
    | false => simp [hslave]
    | true =>
      rw [hhvm, set_ram, if_pos rfl] at hjson
      have hram : row.vm.json.max_physical_memory = row.vm.json.ram + settings.VMS_VM_KVM_MEMORY_OVERHEAD := by
        rw [hjson]
      rw [if_neg hslave, if_neg hslave]
      cases hdeployed : row.vm.is_deployed with
      | false => simp [hslave, hram]
      | true => simp [hslave, hram, hactive hdeployed]

omit [DecidableEq Dc] in
theorem sum_overhead {rows : List (Row Dc NodeId Zpool)} (hsettled : ∀ row ∈ rows, Settled row.vm) :
    (rows.map fun row => (row.vm.get_cpu_ram true).2).sum =
      (rows.map fun row => (row.vm.get_cpu_ram false).2).sum +
        rows.countP Accounted * settings.VMS_VM_KVM_MEMORY_OVERHEAD := by
  induction rows with
  | nil => simp
  | cons row rows ih =>
    obtain ⟨hrow, hrows⟩ := List.forall_mem_cons.mp hsettled
    rw [List.map_cons, List.sum_cons, List.map_cons, List.sum_cons, ih hrows, get_cpu_ram_overhead hrow,
      List.countP_cons, add_mul]
    split
    · omega
    · omega

/-- The overhead is what the hypervisors add to the used RAM if and only if there are as many Linux and SunOS VMs
as hardware VMs that are accounted. -/
theorem overhead_iff (vm_set : List (Row Dc NodeId Zpool)) (dc : Option Dc)
    (hsettled : ∀ row ∈ vm_set, Settled row.vm) :
    (get_ram_kvm_overhead vm_set dc : ℤ) = used_ram vm_set dc true - used_ram vm_set dc false ↔
      (filter_vms vm_set dc).countP (fun row => row.ostype ∈ [.LINUX, .SUNOS]) =
        (filter_vms vm_set dc).countP Accounted := by
  have hsum : used_ram vm_set dc true = used_ram vm_set dc false +
      (filter_vms vm_set dc).countP Accounted * settings.VMS_VM_KVM_MEMORY_OVERHEAD :=
    sum_overhead fun row hrow => hsettled row (List.mem_of_mem_filter hrow)
  have hcount : get_ram_kvm_overhead vm_set dc =
      (filter_vms vm_set dc).countP (fun row => row.ostype ∈ [.LINUX, .SUNOS]) *
        settings.VMS_VM_KVM_MEMORY_OVERHEAD := by
    rw [get_ram_kvm_overhead]
    congr 1
    apply List.countP_congr
    intro row _
    cases row.ostype <;> decide
  rw [hsum, hcount]
  unfold settings.VMS_VM_KVM_MEMORY_OVERHEAD
  push_cast
  omega

end overhead

/-- A KVM VM with one gigabyte of RAM on a node with the only pool. -/
def kvm (ostype : OSType) : Row Unit Unit Unit where
  ostype := ostype
  hvm_type := .Hypervisor_KVM
  vm :=
    { dc := (), node := some (), hvm := true, status := .STOPPED, slavevm := none
      json := set_ram true ⟨100, 0, 0, (), 0, false, false, []⟩ 1024
      json_active := set_ram true ⟨100, 0, 0, (), 0, false, false, []⟩ 1024 }
  is_hvm := rfl

theorem settled_kvm (ostype : OSType) : Settled (kvm ostype).vm := ⟨⟨_, _, rfl⟩, fun _ => rfl⟩

/-- Two Linux VMs. -/
theorem overhead_iff_linux : (get_ram_kvm_overhead [kvm .LINUX, kvm .LINUX] none : ℤ) =
    used_ram [kvm .LINUX, kvm .LINUX] none true - used_ram [kvm .LINUX, kvm .LINUX] none false := by
  refine (overhead_iff _ _ ?_).mpr (by decide)
  rw [List.forall_mem_cons]
  exact ⟨settled_kvm .LINUX, List.forall_mem_singleton.mpr (settled_kvm .LINUX)⟩

/-- A Windows VM is not counted. -/
theorem overhead_ne_windows : ¬ ∀ (vm_set : List (Row Unit Unit Unit)) (dc : Option Unit),
    (∀ row ∈ vm_set, Settled row.vm) →
      (get_ram_kvm_overhead vm_set dc : ℤ) = used_ram vm_set dc true - used_ram vm_set dc false := by
  intro hall
  have hwindows := hall [kvm .WINDOWS] none (List.forall_mem_singleton.mpr (settled_kvm .WINDOWS))
  revert hwindows
  decide

end vms.kvm_overhead
