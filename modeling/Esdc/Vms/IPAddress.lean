namespace vms.ipaddress

variable {A S U : Type}

inductive Usage
  /-- The address is only in the database. -/
  | vm
  /-- The address is set on the hypervisor. -/
  | vm_real
  | node
  | other
  deriving DecidableEq

/-- A row of the table with its two relations to VMs. -/
structure IPAddress (A S U : Type) where
  ip : A
  subnet : S
  vm : Option U
  vms : List U
  usage : Usage
  deriving DecidableEq

/-- `nic['ip']` -/
inductive NicIp (A : Type)
  | none
  | dhcp
  | address (ip : A)
  deriving DecidableEq

structure Nic (A S : Type) where
  ip : NicIp A
  network_uuid : Option S
  allowed_ips : List A
  deriving DecidableEq

/-- The NICs of `json` and of `json_active`. -/
structure Vm (A S U : Type) where
  uuid : U
  is_notcreated : Bool
  nics : List (Nic A S)
  active_nics : List (Nic A S)
  deriving DecidableEq

inductive Error
  | ip_not_associated
  | allowed_ip_not_associated
  | no_network_uuid
  deriving DecidableEq

def Nic.primary_ip (nic : Nic A S) : List A :=
  match nic.ip with
  | .address ip => [ip]
  | _ => []

def primary_ips (nics : List (Nic A S)) : List A := nics.flatMap Nic.primary_ip

def allowed_ips (nics : List (Nic A S)) : List A := nics.flatMap Nic.allowed_ips

def Vm.current_ips (vm : Vm A S U) : List A := primary_ips vm.active_nics ++ primary_ips vm.nics

def Vm.current_allowed_ips (vm : Vm A S U) : List A := allowed_ips vm.active_nics ++ allowed_ips vm.nics

variable [DecidableEq A] [DecidableEq S] [DecidableEq U]

/-- The usage is reset if no other VM with the allowed address is deployed. -/
def _reset_allowed_ip_usage (is_notcreated : U → Bool) (uuid : U) (row : IPAddress A S U) : IPAddress A S U :=
  if (row.vms.filter (· ≠ uuid)).all is_notcreated then { row with usage := .vm } else row

/-- An address that is not set on any NIC returns to the pool. -/
def return_ip (vm : Vm A S U) (row : IPAddress A S U) : IPAddress A S U :=
  if row.vm = some vm.uuid ∧ row.ip ∉ vm.current_ips then { row with vm := none, usage := .vm } else row

def remove_allowed_ip (is_notcreated : U → Bool) (vm : Vm A S U) (row : IPAddress A S U) : IPAddress A S U :=
  if vm.uuid ∈ row.vms ∧ row.ip ∉ vm.current_allowed_ips then
    _reset_allowed_ip_usage is_notcreated vm.uuid { row with vms := row.vms.filter (· ≠ vm.uuid) }
  else row

/-- The server was deleted from the hypervisor. -/
def unset_ip (vm : Vm A S U) (row : IPAddress A S U) : IPAddress A S U :=
  if row.vm = some vm.uuid ∧ row.usage = .vm_real then { row with usage := .vm } else row

def unset_allowed_ip (is_notcreated : U → Bool) (vm : Vm A S U) (row : IPAddress A S U) : IPAddress A S U :=
  if vm.uuid ∈ row.vms ∧ row.usage = .vm_real then _reset_allowed_ip_usage is_notcreated vm.uuid row else row

/-- The server was updated or created. -/
def set_ip (vm : Vm A S U) (row : IPAddress A S U) : IPAddress A S U :=
  if row.vm = some vm.uuid ∧ row.usage = .vm then { row with usage := .vm_real } else row

def set_allowed_ip (vm : Vm A S U) (row : IPAddress A S U) : IPAddress A S U :=
  if vm.uuid ∈ row.vms ∧ row.usage = .vm then { row with usage := .vm_real } else row

def _is_ip_ok (rows : List (IPAddress A S U)) (network_uuid : S) : NicIp A → Bool
  | .none | .dhcp => true
  | .address ip => rows.any fun row => row.ip = ip && row.subnet = network_uuid && row.usage = .vm_real

/-- The check of the associations of one NIC of `json_active`. -/
def check_nic (uuid : U) (rows : List (IPAddress A S U)) (nic : Nic A S) : Except Error Unit :=
  match nic.network_uuid with
  | none => .error .no_network_uuid
  | some network_uuid =>
    if _is_ip_ok (rows.filter (·.vm = some uuid)) network_uuid nic.ip then
      if nic.allowed_ips.all fun ip => _is_ip_ok (rows.filter (uuid ∈ ·.vms)) network_uuid (.address ip) then .ok ()
      else .error .allowed_ip_not_associated
    else .error .ip_not_associated

def check_nics (uuid : U) (rows : List (IPAddress A S U)) : List (Nic A S) → Except Error Unit
  | [] => .ok ()
  | nic :: nics => do
    check_nic uuid rows nic
    check_nics uuid rows nics

/-- The table after the call, and whether it ends with an error. -/
def vm_update_ipaddress_usage (is_notcreated : U → Bool) (vm : Vm A S U) (rows : List (IPAddress A S U)) :
    List (IPAddress A S U) × Except Error Unit :=
  let rows := rows.map fun row => remove_allowed_ip is_notcreated vm (return_ip vm row)
  if vm.is_notcreated then
    (rows.map fun row => unset_allowed_ip is_notcreated vm (unset_ip vm row), .ok ())
  else
    let rows := rows.map fun row => set_allowed_ip vm (set_ip vm row)
    (rows, check_nics vm.uuid rows vm.active_nics)

end vms.ipaddress
