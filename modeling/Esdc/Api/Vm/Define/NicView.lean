import Mathlib
import Esdc.Api.Vm.Define.Nic

namespace api.vm.define.nic

open vms.definition (Item Value)
open vms.ipaddress (IPAddress Usage)

variable {U D : Type} [DecidableEq U] [DecidableEq D]

section save_nics

/-- The name of the interface at a position. -/
def Vm.interface (vm : Vm U) (i : ℕ) : String := (if vm.is_linux_zone then "eth" else "net") ++ toString i

/-- What is removed from a NIC before it is saved. -/
def removed (hvm : Bool) (key : String) (value : Value) : Bool :=
  ((key = "mac" || key = "primary" || key ∈ vms.definition.Vm._NICS_REMOVE_EMPTY.map Prod.fst) && value.falsy) ||
    key = "ips" || key = "gateways" || (!hvm && key = "model")

def Vm.save_nic (vm : Vm U) (i : ℕ) (nic : Item) : Item :=
  Dict.filter (nic.insert "interface" (.str (vm.interface i))) fun key value => !removed vm.hvm key value

def Vm.save_nics (vm : Vm U) (nics : List Item) (monitoring_ip : Option String) : Vm U :=
  { vm with
    nics := nics.mapIdx vm.save_nic
    monitoring_ip := monitoring_ip.getD vm.monitoring_ip }

end save_nics

section save_ip

abbrev Addresses (U : Type) := List (Address U)

/-- `ip.save()` -/
def update_address (addresses : Addresses U) (ip : Address U) (f : Address U → Address U) : Addresses U :=
  addresses.map fun row => if row.ip = ip.ip ∧ row.subnet = ip.subnet then f row else row

/-- An address that is set on the hypervisor is kept until the VM is updated. -/
def _remove_vm_ip_association (vm : Vm U) (many : Bool) (addresses : Addresses U) (ip : Address U) : Addresses U :=
  if ip.usage = .vm_real && vm.is_deployed then addresses
  else if many then update_address addresses ip fun row => { row with vms := row.vms.filter (· ≠ vm.uuid) }
  else update_address addresses ip fun row => { row with vm := none }

def _create_vm_ip_association (vm : Vm U) (many : Bool) (addresses : Addresses U) (ip : Address U) :
    Except Error (Addresses U) :=
  if ip.vm ≠ none then .error .APIError
  else if many then .ok <| update_address addresses ip fun row =>
    { row with vms := if vm.uuid ∈ row.vms then row.vms else row.vms ++ [vm.uuid] }
  else .ok <| update_address addresses ip fun row => { row with vm := some vm.uuid }

def _update_vm_ip_association (vm : Vm U) (delete many : Bool) (addresses : Addresses U) (ip : Address U) :
    Except Error (Addresses U) :=
  if delete then .ok (_remove_vm_ip_association vm many addresses ip)
  else _create_vm_ip_association vm many addresses ip

/-- `if ip_old` -/
def Ip.toList (ip : Ip U) : List (Address U) :=
  match ip with
  | .address ip => [ip]
  | _ => []

/-- The association of the address. -/
def VmDefineNicSerializer.save_primary (vm : Vm U) (delete update : Bool) (ser : VmDefineNicSerializer U)
    (addresses : Addresses U) : Except Error (Addresses U) :=
  if !update || ser._ip_old.toList ≠ [] then
    ser._ip.toList.foldlM (_update_vm_ip_association vm delete false)
      (ser._ip_old.toList.foldl (_remove_vm_ip_association vm false) addresses)
  else .ok addresses

def VmDefineNicSerializer.save_allowed_ips (vm : Vm U) (delete : Bool) (ser : VmDefineNicSerializer U)
    (addresses : Addresses U) : Except Error (Addresses U) :=
  if ser._changing_allowed_ips then
    ser._ips.foldlM (_update_vm_ip_association vm delete true)
      (ser._ips_old.foldl (_remove_vm_ip_association vm true) addresses)
  else .ok addresses

/-- The records of the DNS are left out. -/
def VmDefineNicSerializer.save_ip (vm : Vm U) (delete update : Bool) (ser : VmDefineNicSerializer U)
    (addresses : Addresses U) : Except Error (Addresses U) :=
  match ser._ip with
  | .none => .error .AssertionError
  | _ => do
    let addresses ← ser.save_primary vm delete update addresses
    ser.save_allowed_ips vm delete addresses

/-- An empty string removes the address of the monitoring. -/
def VmDefineNicSerializer.get_monitoring_ip (delete : Bool) (ser : VmDefineNicSerializer U) :
    Except Error (Option String) :=
  let object := ser.object.getD ∅
  let monitoring : Bool := get object "monitoring" = .bool true
  match ser._ip with
  | .none => .error .AssertionError
  | .dhcp => if monitoring then .error .AssertionError else .ok (if ser._monitoring_old then some "" else none)
  | .address _ =>
    if ser._monitoring_old && (delete || !monitoring) then .ok (some "")
    else if monitoring then
      .ok (match get object "ip" with
        | .str ip => some ip
        | _ => none)
    else .ok none

end save_ip

section views

structure Result (U : Type) where
  vm : Vm U
  addresses : Addresses U

def NIC_ID_MAX : ℕ := 15

def Vm.existing_nic (vm : Vm U) (nic_id : ℕ) : Except Error Item :=
  if NIC_ID_MAX < nic_id then .error .ItemOutOfRange
  else
    match vm.nics[nic_id]? with
    | none => .error .ItemNotFound
    | some nic => .ok nic

def Vm.new_nic (vm : Vm U) (nic_id : ℕ) : Except Error Unit :=
  if NIC_ID_MAX < nic_id then .error .ItemOutOfRange
  else if nic_id < vm.nics.length then .error .ItemAlreadyExists
  else if vm.nics.length < nic_id then .error .ItemOutOfRange
  else .ok ()

/-- The serializer of an accepted `POST`. -/
def post_serializer (db : Db U D) (req : Request) (vm : Vm U) (nic_id : ℕ) (data : Data) :
    Except Error (VmDefineNicSerializer U) := do
  vm.new_nic nic_id
  is_valid db req vm nic_id (data.with_defaults req.defaults) (.new vm)

/-- The serializer of an accepted `PUT`. -/
def put_serializer (db : Db U D) (req : Request) (vm : Vm U) (nic_id : ℕ) (data : Data) :
    Except Error (VmDefineNicSerializer U) := do
  let nic ← vm.existing_nic nic_id
  let ser ← fix_before db vm nic
  is_valid db req vm nic_id data ser

def saved_post (vm : Vm U) (ser : VmDefineNicSerializer U) (addresses : Addresses U) : Except Error (Result U) := do
  let monitoring_ip ← ser.get_monitoring_ip false
  let vm' := { vm with resolvers := ser.resolvers }.save_nics (vm.nics ++ [ser.jsondata]) monitoring_ip
  return ⟨vm', ← ser.save_ip vm' false false addresses⟩

def saved_put (vm : Vm U) (nic_id : ℕ) (ser : VmDefineNicSerializer U) (addresses : Addresses U) :
    Except Error (Result U) := do
  let monitoring_ip ← ser.get_monitoring_ip false
  let vm' := { vm with resolvers := ser.resolvers }.save_nics
    (vm.nics.modify nic_id fun nic => nic.update ser.jsondata) monitoring_ip
  return ⟨vm', ← ser.save_ip vm' false true addresses⟩

def VmDefineNicView.post (db : Db U D) (req : Request) (vm : Vm U) (nic_id : ℕ) (data : Data) :
    Except Error (Result U) := do
  let ser ← post_serializer db req vm nic_id data
  saved_post vm ser db.addresses

def VmDefineNicView.put (db : Db U D) (req : Request) (vm : Vm U) (nic_id : ℕ) (data : Data) :
    Except Error (Result U) := do
  let ser ← put_serializer db req vm nic_id data
  saved_put vm nic_id ser db.addresses

def VmDefineNicView.delete (db : Db U D) (vm : Vm U) (nic_id : ℕ) : Except Error (Result U) := do
  let nic ← vm.existing_nic nic_id
  let ser ← fix_before db vm nic
  let monitoring_ip ← ser.get_monitoring_ip true
  let vm' := vm.save_nics (vm.nics.eraseIdx nic_id) monitoring_ip
  return ⟨vm', ← ser.save_ip vm' true false db.addresses⟩

end views

end api.vm.define.nic
