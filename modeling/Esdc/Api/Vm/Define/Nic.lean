import Mathlib
import Esdc.Vms.Definition.Update
import Esdc.Vms.IPAddress

namespace api.vm.define.nic

open vms.definition (Item Value)
open vms.ipaddress (IPAddress Usage)

/-- A row of the table of networks. -/
structure Subnet where
  uuid : String
  name : String
  /-- `access in Subnet.UNUSABLE` -/
  unusable : Bool
  nic_tag : String
  vlan_id : Int
  netmask : String
  gateway : Option String
  resolvers : List String
  dhcp_passthrough : Bool
  vxlan_id : Option Int
  mtu : Option Int
  deriving DecidableEq

/-- A row of the table of addresses, which refers to its network by the UUID. -/
abbrev Address (U : Type) := IPAddress String String U

structure Vm (U : Type) where
  uuid : U
  is_deployed : Bool
  hvm : Bool
  is_linux_zone : Bool
  monitoring_ip : String
  resolvers : List String
  /-- the NIC tags of the node, if it has one -/
  nictags : Option (List String)
  /-- the contents of the A records of its hostname, if its domain is valid -/
  records_A : List String
  nics : List Item
  active_nics : List Item

structure Db (U D : Type) where
  subnets : List Subnet
  addresses : List (Address U)
  dc : U → D

/-- The fields of a request with their native values. -/
structure Data where
  mac : Option String
  model : Option String
  net : Option String
  ip : Option String
  primary : Option Bool
  dns : Option Bool
  use_net_dns : Option Bool
  allow_dhcp_spoofing : Option Bool
  allow_ip_spoofing : Option Bool
  allow_mac_spoofing : Option Bool
  allow_restricted_traffic : Option Bool
  allow_unfiltered_promisc : Option Bool
  allowed_ips : Option (List String)
  monitoring : Option Bool
  set_gateway : Option Bool

/-- The user, the networks of `get_subnets`, the defaults of a new NIC, and the free address that is picked at random. -/
structure Request where
  is_staff : Bool
  get_subnets : Subnet → Bool
  defaults : Data
  pick : ℕ
  VMS_VM_RESOLVERS_DEFAULT : List String

inductive Error
  /-- the request is not valid -/
  | invalid (field : String)
  | APIError
  | AssertionError
  | KeyError
  | ItemNotFound
  | ItemOutOfRange
  | ItemAlreadyExists
  deriving DecidableEq

/-- `self._ip`: `None`, `False` for a network with `dhcp_passthrough`, or an address. -/
inductive Ip (U : Type)
  | none
  | dhcp
  | address (ip : Address U)

def NIC_ALLOWED_IPS_MAX : ℕ := 8

section attributes

/-- `item.get(key)` -/
def get (item : Item) (key : String) : Value := (item.lookup key).getD .null

def setdefault (item : Item) (key : String) (value : Value) : Item :=
  if key ∈ item then item else item.insert key value

def addresses_of : Value → List String
  | .strs ips => ips
  | _ => []

def is_ip (nic : Item) : Bool := !(get nic "ip").falsy && get nic "ip" ≠ .str "dhcp"

/-- `_get_ips` -/
def get_ips (nics : List Item) : List Value :=
  nics.flatMap fun nic =>
    (if is_ip nic then [get nic "ip"] else []) ++ (addresses_of (get nic "allowed_ips")).map .str

def insert_sent {α : Type} (value : α → Value) (key : String) (sent : Option α) (attrs : Item) : Item :=
  match sent with
  | some a => attrs.insert key (value a)
  | none => attrs

/-- The dictionary of the fields that were sent. -/
def Data.attrs (data : Data) : Item :=
  insert_sent .str "mac" data.mac <| insert_sent .str "model" data.model <| insert_sent .str "net" data.net <|
    insert_sent .str "ip" data.ip <| insert_sent .bool "primary" data.primary <| insert_sent .bool "dns" data.dns <|
    insert_sent .bool "use_net_dns" data.use_net_dns <|
    insert_sent .bool "allow_dhcp_spoofing" data.allow_dhcp_spoofing <|
    insert_sent .bool "allow_ip_spoofing" data.allow_ip_spoofing <|
    insert_sent .bool "allow_mac_spoofing" data.allow_mac_spoofing <|
    insert_sent .bool "allow_restricted_traffic" data.allow_restricted_traffic <|
    insert_sent .bool "allow_unfiltered_promisc" data.allow_unfiltered_promisc <|
    insert_sent .strs "allowed_ips" data.allowed_ips <| insert_sent .bool "monitoring" data.monitoring <|
    insert_sent .bool "set_gateway" data.set_gateway ∅

/-- The defaults of the fields that were not sent, for a new NIC. -/
def Data.with_defaults (data defaults : Data) : Data where
  mac := data.mac.or defaults.mac
  model := data.model.or defaults.model
  net := data.net.or defaults.net
  ip := data.ip.or defaults.ip
  primary := data.primary.or defaults.primary
  dns := data.dns.or defaults.dns
  use_net_dns := data.use_net_dns.or defaults.use_net_dns
  allow_dhcp_spoofing := data.allow_dhcp_spoofing.or defaults.allow_dhcp_spoofing
  allow_ip_spoofing := data.allow_ip_spoofing.or defaults.allow_ip_spoofing
  allow_mac_spoofing := data.allow_mac_spoofing.or defaults.allow_mac_spoofing
  allow_restricted_traffic := data.allow_restricted_traffic.or defaults.allow_restricted_traffic
  allow_unfiltered_promisc := data.allow_unfiltered_promisc.or defaults.allow_unfiltered_promisc
  allowed_ips := data.allowed_ips.or defaults.allowed_ips
  monitoring := data.monitoring.or defaults.monitoring
  set_gateway := data.set_gateway.or defaults.set_gateway

end attributes

section serializer

variable {U D : Type} [DecidableEq U] [DecidableEq D]

structure VmDefineNicSerializer (U : Type) where
  object : Option Item
  attrs : Item
  _net : Option Subnet
  _net_old : Option Subnet
  _ip : Ip U
  _ip_old : Ip U
  _ips : List (Address U)
  _ips_old : List (Address U)
  _changing_allowed_ips : Bool
  _dns : List String
  resolvers : List String
  _monitoring_old : Bool

/-- The serializer of a new NIC. -/
def VmDefineNicSerializer.new (vm : Vm U) : VmDefineNicSerializer U where
  object := none
  attrs := ∅
  _net := none
  _net_old := none
  _ip := .none
  _ip_old := .none
  _ips := []
  _ips_old := []
  _changing_allowed_ips := false
  _dns := []
  resolvers := vm.resolvers
  _monitoring_old := false

def Db.get_address (db : Db U D) (ip : String) (net : Option Subnet) : Option (Address U) :=
  db.addresses.find? fun row => row.ip = ip && some row.subnet = net.map Subnet.uuid

def Db.filter_addresses (db : Db U D) (ips : List String) (net : Option Subnet) : List (Address U) :=
  db.addresses.filter fun row => row.ip ∈ ips && some row.subnet = net.map Subnet.uuid

/-- The network of a NIC and the NIC with its name. -/
def fix_net (db : Db U D) (data : Item) : Except Error (Item × Option Subnet) :=
  if (get data "network_uuid").falsy then .ok (data.insert "net" .null, none)
  else
    match db.subnets.find? fun net => .str net.uuid = get data "network_uuid" with
    | none => .error .APIError
    | some net => .ok ((data.insert "net" (.str net.name)).erase "network_uuid", some net)

/-- The address of a NIC and the NIC without `dhcp`. -/
def fix_ip (db : Db U D) (data : Item) (net : Option Subnet) : Except Error (Item × Ip U) :=
  if (get data "ip").falsy then .ok (data, .none)
  else if net.any (·.dhcp_passthrough) && get data "ip" = .str "dhcp" then
    .ok (((data.insert "ip" .null).insert "netmask" .null).insert "gateway" .null, .dhcp)
  else
    match db.addresses.find? fun row => .str row.ip = get data "ip" && some row.subnet = net.map Subnet.uuid with
    | none => .error .APIError
    | some ip => .ok (data, .address ip)

/-- The attributes that a NIC always has in the serializer. -/
def set_missing (data : Item) : Item :=
  setdefault (setdefault (setdefault data "vlan_id" (.int 0)) "mtu" .null) "primary" (.bool false)

def fix_allowed_ips (data : Item) : Item :=
  if get data "allowed_ips" = .null then data
  else data.insert "allowed_ips" (.strs (addresses_of (get data "allowed_ips")).dedup)

def find_dns (vm : Vm U) (data : Item) : List String :=
  vm.records_A.filter fun content => .str content = get data "ip"

def is_monitored (vm : Vm U) (data : Item) : Bool := get data "ip" = .str vm.monitoring_ip

/-- The attributes that are only for the serializer. -/
def fix_dummies (vm : Vm U) (net : Option Subnet) (data : Item) : Item :=
  (((data.insert "dns" (.bool (find_dns vm data ≠ []))).insert "use_net_dns"
    (.bool (net.any fun net => net.resolvers = vm.resolvers))).insert "monitoring"
    (.bool (is_monitored vm data))).insert "set_gateway" (.bool (!(get data "gateway").falsy))

/-- Rewrite a NIC from json to a serializer compatible object. -/
def fix_before (db : Db U D) (vm : Vm U) (data : Item) : Except Error (VmDefineNicSerializer U) := do
  let (data, net) ← fix_net db data
  let (data, _ip) ← fix_ip db (set_missing data) net
  return { VmDefineNicSerializer.new vm with
    object := some (fix_dummies vm net (fix_allowed_ips data))
    _net := net
    _ip := _ip
    _ips := db.filter_addresses (addresses_of (get data "allowed_ips")) net
    _dns := find_dns vm data
    _monitoring_old := is_monitored vm data }

def validate_mac (vm : Vm U) (data : Data) (object : Option Item) : Bool :=
  data.mac.all fun value =>
    object.all fun object => !vm.is_deployed || (value ≠ "" && get object "mac" = .str value)

def validate_set_gateway (vm : Vm U) (data : Data) (object : Option Item) : Bool :=
  data.set_gateway.all fun value =>
    object.all fun object => !vm.is_deployed || get object "set_gateway" = .bool value

def _validate_insecure_boolean_attr (req : Request) (value : Option Bool) : Bool :=
  value.all fun value => req.is_staff || !value

/-- No other NIC may be the primary one. -/
def validate_primary (vm : Vm U) (nic_id : ℕ) (data : Data) : Bool :=
  data.primary.all fun value =>
    !value || (vm.nics.eraseIdx nic_id).all fun nic => get nic "primary" ≠ .bool true

/-- The networks of the NICs must exist on the node. -/
def validate_nic_tags (db : Db U D) (vm : Vm U) (new_net : Subnet) : Except Error Unit :=
  match vm.nictags with
  | none => .ok ()
  | some node_nic_tags => do
    let vm_nic_tags ← vm.nics.mapM fun nic =>
      match db.subnets.find? fun net => .str net.uuid = get nic "network_uuid" with
      | none => .error .KeyError
      | some net => .ok net.nic_tag
    if (new_net.nic_tag :: vm_nic_tags).all (· ∈ node_nic_tags) then .ok () else .error (.invalid "net")

def validate_net (db : Db U D) (req : Request) (vm : Vm U) (data : Data) (ser : VmDefineNicSerializer U) :
    Except Error (VmDefineNicSerializer U) :=
  match data.net with
  | none => .ok ser
  | some value =>
    -- a name that is not empty is required
    if value = "" then .error (.invalid "net")
    else if ser.object.isSome && ser._net.any (·.name = value) then .ok ser
    else
      match db.subnets.find? fun net => req.get_subnets net && net.name = value with
      | none => .error (.invalid "net")
      | some _net => do
        if _net.unusable then .error (.invalid "net")
        else do
          validate_nic_tags db vm _net
          match ser.object with
          | none => .ok { ser with _net := some _net }
          | some object =>
            if (!(get object "mtu").falsy && _net.mtu = none) || _net.vxlan_id.any (· ≠ 0) then .error (.invalid "net")
            else .ok { ser with _net_old := ser._net, _net := some _net }

/-- An error message is returned if the address is used by some VM. -/
def _check_ip_usage (db : Db U D) (vm : Vm U) (ipaddress : Address U) (allowed_ips : Bool) : Bool :=
  if ipaddress.usage = .vm_real && ipaddress.vm = some vm.uuid then .str ipaddress.ip ∈ get_ips vm.nics
  else if ipaddress.vm ≠ none then true
  else if allowed_ips then
    (ipaddress.usage ≠ .vm && ipaddress.usage ≠ .vm_real) ||
      (ipaddress.vms.filter (· ≠ vm.uuid)).any fun other_vm => db.dc other_vm ≠ db.dc vm.uuid
  else ipaddress.usage ≠ .vm || ipaddress.vms ≠ []

/-- `self._ip and self._ip != _ip` -/
def Ip.differs (ip : Ip U) (_ip : Address U) : Bool :=
  match ip with
  | .address ip => ip.ip ≠ _ip.ip || ip.subnet ≠ _ip.subnet
  | _ => false

def Ip.has (ip : Ip U) (value : String) : Bool :=
  match ip with
  | .address ip => ip.ip = value
  | _ => false

def validate_ip (db : Db U D) (vm : Vm U) (data : Data) (ser : VmDefineNicSerializer U) :
    Except Error (VmDefineNicSerializer U) :=
  match data.ip.filter (· ≠ "") with
  | some ip =>
    if ser.object.isSome && ser._net_old = none && ser._ip.has ip then .ok ser
    else
      match db.get_address ip ser._net with
      | none => .error (.invalid "ip")
      | some _ip =>
        if _check_ip_usage db vm _ip false then .error (.invalid "ip")
        else .ok { ser with
          _ip_old := if ser._ip.differs _ip then ser._ip else ser._ip_old
          _ip := .address _ip
          attrs := ser.attrs.insert "ip" (.str _ip.ip) }
  | none =>
    if ser._net_old ≠ none || data.ip ≠ none then .ok { ser with _ip_old := ser._ip, _ip := .none }
    else .ok ser

/-- Two query sets are never equal, so the addresses are always checked again. -/
def validate_allowed_ips (db : Db U D) (vm : Vm U) (data : Data) (ser : VmDefineNicSerializer U) :
    Except Error (VmDefineNicSerializer U) :=
  let allowed_ips := (data.allowed_ips.getD []).dedup
  if allowed_ips ≠ [] then
    let _ips := db.filter_addresses allowed_ips ser._net
    if _ips.length ≠ allowed_ips.length || allowed_ips.any ser._ip.has ||
        _ips.any fun ipaddress => _check_ip_usage db vm ipaddress true then .error (.invalid "allowed_ips")
    else .ok { ser with
      _ips_old := if ser._ips ≠ [] then ser._ips.filter (·.ip ∉ _ips.map (·.ip)) else ser._ips_old
      _ips := _ips
      _changing_allowed_ips := true
      attrs := ser.attrs.insert "allowed_ips" (.strs (_ips.map (·.ip)).dedup) }
  else if ser._ips ≠ [] && (ser._net_old ≠ none || data.allowed_ips ≠ none) then
    .ok { ser with
      _ips_old := ser._ips
      _ips := []
      _changing_allowed_ips := true
      attrs := ser.attrs.insert "allowed_ips" (.strs []) }
  else .ok ser

/-- The value of an attribute that was sent, or else that of the NIC. -/
def attr_or_object (ser : VmDefineNicSerializer U) (sent : Option Bool) (key : String) : Except Error Bool :=
  match sent, ser.object with
  | some value, _ => .ok value
  | none, some object => .ok (get object key = .bool true)
  | none, none => .error .KeyError

def validate_dhcp (net : Subnet) (data : Data) (ser : VmDefineNicSerializer U) : Except Error Unit :=
  if net.dhcp_passthrough then do
    let dns ← attr_or_object ser data.dns "dns"
    let monitoring ← attr_or_object ser data.monitoring "monitoring"
    if dns then .error (.invalid "dns") else if monitoring then .error (.invalid "monitoring") else .ok ()
  else .ok ()

/-- The addresses of which one is chosen. -/
def Db.free_addresses (db : Db U D) (net : Subnet) (allowed_ips : List String) : List (Address U) :=
  db.addresses.filter fun row =>
    row.subnet = net.uuid && row.vm = none && row.vms = [] && row.usage = .vm && row.ip ∉ allowed_ips

def find_ip (db : Db U D) (req : Request) (net : Subnet) (data : Data) (ser : VmDefineNicSerializer U) :
    Except Error (VmDefineNicSerializer U) :=
  match ser._ip with
  | .address _ => .ok ser
  | _ =>
    if net.dhcp_passthrough then
      .ok { ser with
        _ip := .dhcp
        attrs := ((ser.attrs.insert "ip" .null).insert "netmask" .null).insert "gateway" .null }
    else
      let free := db.free_addresses net (data.allowed_ips.getD [])
      match free[req.pick % free.length]? with
      | none => .error (.invalid "non_field_errors")
      | some ip => .ok { ser with _ip := .address ip, attrs := ser.attrs.insert "ip" (.str ip.ip) }

def null_or {α : Type} (value : α → Value) : Option α → Value
  | some a => value a
  | none => .null

def nic_tag (net : Subnet) : String :=
  match net.vxlan_id.filter (· ≠ 0) with
  | some vxlan_id => net.nic_tag ++ "/" ++ toString vxlan_id
  | none => net.nic_tag

/-- The attributes that are inherited from the network. -/
def inherit_net (req : Request) (net : Subnet) (data : Data) (ser : VmDefineNicSerializer U) :
    Except Error (VmDefineNicSerializer U) := do
  let attrs : Item := match ser._ip with
    | .dhcp => ser.attrs
    | _ => (ser.attrs.insert "netmask" (.str net.netmask)).insert "gateway" (null_or Value.str net.gateway)
  let set_gateway ← attr_or_object ser data.set_gateway "set_gateway"
  let attrs := if set_gateway then attrs else attrs.insert "gateway" .null
  let attrs := ((attrs.insert "vlan_id" (.int net.vlan_id)).insert "nic_tag" (.str (nic_tag net))).insert "mtu"
    (null_or Value.int net.mtu)
  return { ser with
    attrs := attrs
    resolvers := match data.use_net_dns with
      | some true => net.resolvers
      | some false => if ser.object.isSome then req.VMS_VM_RESOLVERS_DEFAULT else ser.resolvers
      | none => ser.resolvers }

def validate (db : Db U D) (req : Request) (vm : Vm U) (data : Data) (ser : VmDefineNicSerializer U) :
    Except Error (VmDefineNicSerializer U) :=
  match ser._net with
  | none => .error .AssertionError
  | some net => do
    let ser ← validate_ip db vm data ser
    let ser ← validate_allowed_ips db vm data ser
    validate_dhcp net data ser
    let ser ← find_ip db req net data ser
    inherit_net req net data ser

def valid_fields (req : Request) (vm : Vm U) (nic_id : ℕ) (data : Data) (object : Option Item) : Bool :=
  (data.allowed_ips.getD []).length ≤ NIC_ALLOWED_IPS_MAX && validate_mac vm data object &&
    validate_primary vm nic_id data && _validate_insecure_boolean_attr req data.allow_dhcp_spoofing &&
    _validate_insecure_boolean_attr req data.allow_ip_spoofing &&
    _validate_insecure_boolean_attr req data.allow_mac_spoofing &&
    _validate_insecure_boolean_attr req data.allow_restricted_traffic &&
    _validate_insecure_boolean_attr req data.allow_unfiltered_promisc && validate_set_gateway vm data object

/-- The serializer with the restored object, for a request that is valid. -/
def is_valid (db : Db U D) (req : Request) (vm : Vm U) (nic_id : ℕ) (data : Data) (ser : VmDefineNicSerializer U) :
    Except Error (VmDefineNicSerializer U) := do
  let ser ← validate_net db req vm data { ser with attrs := data.attrs }
  if valid_fields req vm nic_id data ser.object then do
    let ser ← validate db req vm data ser
    return { ser with object := some (match ser.object with
      | some object => object.update ser.attrs
      | none => ser.attrs) }
  else .error (.invalid "fields")

/-- Rewrite the validated NIC to json usable data. -/
def VmDefineNicSerializer.jsondata (ser : VmDefineNicSerializer U) : Item :=
  let data := ser.object.getD ∅
  let subnet := get data "net"
  let data := data.erase "net"
  let data := if subnet.falsy then data else data.insert "network_uuid" (.str ((ser._net.map Subnet.uuid).getD ""))
  let data := (((data.erase "dns").erase "use_net_dns").erase "monitoring").erase "set_gateway"
  if (get data "ip").falsy && ser._net.any (·.dhcp_passthrough) then
    ((data.insert "ip" (Value.str "dhcp")).erase "netmask").erase "gateway"
  else data

end serializer

end api.vm.define.nic
