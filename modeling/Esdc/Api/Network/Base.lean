import Mathlib
import Esdc.Lib.Dict
import Esdc.Vms.IPAddress
import Esdc.Vms.Subnet

namespace api.network

open vms.ipaddress (IPAddress Usage)
open vms.subnet (IPv4Network ip_network netmask_of)

abbrev IPv4Address := BitVec 32

/-- `240.0.0.0/4` -/
def is_reserved (ip : IPv4Address) : Bool := 0xF0000000 ≤ ip.toNat

def broadcast_address (net : IPv4Network) : IPv4Address := net.network_address ||| ~~~netmask_of net.prefixlen

def contains (net : IPv4Network) (ip : IPv4Address) : Bool := ip &&& netmask_of net.prefixlen = net.network_address

inductive NicTagType
  | normal
  | aggr
  | etherstub
  | overlay_rule
  deriving DecidableEq

/-- The attributes of a network that its serializer reads. -/
structure Subnet (Tag Dc : Type) where
  network : IPv4Address
  netmask : IPv4Address
  gateway : Option IPv4Address
  nic_tag : Tag
  vlan_id : ℕ
  vxlan_id : Option ℕ
  mtu : Option ℕ
  dhcp_passthrough : Bool
  dc_bound : Option Dc
  deriving DecidableEq

inductive Field
  | network
  | netmask
  | gateway
  | nic_tag
  | vlan_id
  | vxlan_id
  | mtu
  | dhcp_passthrough
  | dc_bound
  | dc
  | non_field_errors
  | ip
  | usage
  deriving DecidableEq

inductive Error
  | not_found
  | already_exists
  | invalid_input
  | invalid (fields : List Field)
  | key_error
  deriving DecidableEq

/-- The data of a request; `null` is a value of the fields that accept it. -/
structure Data (Tag : Type) where
  network : Option IPv4Address
  netmask : Option IPv4Address
  gateway : Option (Option IPv4Address)
  nic_tag : Option Tag
  vlan_id : Option ℕ
  vxlan_id : Option (Option ℕ)
  mtu : Option (Option ℕ)
  dhcp_passthrough : Option Bool
  dc_bound : Option Bool
  dc : Bool

structure DcSettings where
  VMS_NET_LIMIT : Option ℕ
  VMS_NET_VLAN_RESTRICT : Bool
  VMS_NET_VLAN_ALLOWED : List ℕ
  VMS_NET_VXLAN_RESTRICT : Bool
  VMS_NET_VXLAN_ALLOWED : List ℕ

/-- What a request reads besides the two tables. -/
structure Request (Tag Dc : Type) where
  data : Data Tag
  is_staff : Bool
  /-- `Node.all_nictags()` -/
  all_nictags : Tag → Option NicTagType
  dc_settings : Dc → DcSettings
  /-- The datacenter of a new network. -/
  dc : Dc
  /-- The datacenters a network is attached to. -/
  dcs : List Dc
  /-- A VM in these datacenters has the network in its definition. -/
  in_network_uuids : Bool

variable {Tag Dc Uuid VmId : Type} [DecidableEq Dc] [DecidableEq Uuid]

/-- The tables of the networks and of their addresses. -/
structure State (Tag Dc Uuid VmId : Type) [DecidableEq Uuid] where
  subnets : Dict Uuid (Subnet Tag Dc)
  ips : List (IPAddress IPv4Address Uuid VmId)
  subnet_exists : ∀ row ∈ ips, row.subnet ∈ subnets
  unique_together : (ips.map fun row => (row.ip, row.subnet)).Nodup

def State.ipaddress_set (s : State Tag Dc Uuid VmId) (net : Uuid) : List (IPAddress IPv4Address Uuid VmId) :=
  s.ips.filter fun row => row.subnet = net

def is_used_by_vms (s : State Tag Dc Uuid VmId) (req : Request Tag Dc) (net : Uuid) : Bool :=
  ((s.ipaddress_set net).any fun row => row.vm.isSome || !row.vms.isEmpty) || req.in_network_uuids

section serializer

/-- The fields that meet a condition. -/
def select (fields : List (Field × Bool)) : List Field := (fields.filter (·.2)).map (·.1)

/-- The ranges and the choices of the fields. -/
def run_validators (req : Request Tag Dc) (data : Data Tag) : List Field :=
  select [(.nic_tag, data.nic_tag.any fun tag => (req.all_nictags tag).isNone),
    (.vlan_id, data.vlan_id.any (4096 < ·)),
    (.vxlan_id, data.vxlan_id.any fun value => value.any fun value => value < 1 || 16777215 < value),
    (.mtu, data.mtu.any fun value => value.any fun value => value < 576 || 9000 < value)]

def required (data : Data Tag) : List Field :=
  select [(.network, data.network.isNone), (.netmask, data.netmask.isNone), (.nic_tag, data.nic_tag.isNone),
    (.vlan_id, data.vlan_id.isNone)]

/-- The defaults of the fields, which a partial update does not set. -/
def set_defaults (data : Data Tag) : Data Tag :=
  { data with dhcp_passthrough := some (data.dhcp_passthrough.getD false),
              dc_bound := some (data.dc_bound.getD true) }

/-- The network is another one's neighbour in the VLAN, and they share an address. -/
def validate_vlan_id (s : State Tag Dc Uuid VmId) (new : Bool) (net : Uuid) (attrs : Data Tag) : List Field :=
  match attrs.vlan_id with
  | none => []
  | some value =>
    if new then []
    else
      let net_ips := (s.ipaddress_set net).map (·.ip)
      let other_ips := (s.ips.filter fun row => row.subnet ≠ net &&
        (s.subnets.lookup row.subnet).any fun other => other.vlan_id = value).map (·.ip)
      if net_ips.any (· ∈ other_ips) then [.vlan_id] else []

/-- The datacenter that the network is bound to, from now on. -/
def validate_dc_bound (req : Request Tag Dc) (object : Subnet Tag Dc) (attrs : Data Tag) :
    Except (List Field) (Option Dc) :=
  match attrs.dc_bound with
  | none => .ok object.dc_bound
  | some value =>
    if value = object.dc_bound.isSome then .ok object.dc_bound
    else if !req.is_staff then .error [.dc_bound]
    else if value then
      match req.dcs with
      | [dc] => .ok (some dc)
      | _ => .error [.dc_bound]
    else .ok none

def network_errors (network netmask : IPv4Address) : List Field :=
  if (ip_network network netmask).all fun net => is_reserved net.network_address && is_reserved (broadcast_address net)
  then [.network, .netmask] else []

/-- Maximum number of networks reached. -/
def limit_reached (s : State Tag Dc Uuid VmId) (req : Request Tag Dc) (dc_bound : Option Dc) : Bool :=
  dc_bound.any fun dc => (req.dc_settings dc).VMS_NET_LIMIT.any fun limit =>
    limit ≤ s.subnets.entries.countP fun e => e.2.dc_bound = some dc

/-- The errors that depend on the type of the NIC tag and on the datacenter. -/
def object_errors (req : Request Tag Dc) (post : Bool) (object : Subnet Tag Dc) (dc_bound : Option Dc)
    (attrs : Data Tag) (nic_tag_type : NicTagType) : List Field :=
  let vxlan_id := attrs.vxlan_id.getD object.vxlan_id
  let mtu := attrs.mtu.getD object.mtu
  let dc_errors := dc_bound.elim [] fun dc =>
    let dc_settings := req.dc_settings dc
    select [(.vlan_id, dc_settings.VMS_NET_VLAN_RESTRICT &&
        attrs.vlan_id.getD object.vlan_id ∉ dc_settings.VMS_NET_VLAN_ALLOWED),
      (.vxlan_id, dc_settings.VMS_NET_VXLAN_RESTRICT && vxlan_id ∉ dc_settings.VMS_NET_VXLAN_ALLOWED.map some)]
  let bound := post && attrs.dc_bound.getD object.dc_bound.isSome && !req.data.dc
  network_errors (attrs.network.getD object.network) (attrs.netmask.getD object.netmask) ++
    select [(.vxlan_id, nic_tag_type = .overlay_rule && vxlan_id.isNone),
      (.mtu, nic_tag_type = .overlay_rule && mtu.any (8900 < ·)),
      (.mtu, nic_tag_type ∈ [.normal, .aggr] && mtu.any (· < 1500))] ++
    dc_errors ++ select [(.dc_bound, bound), (.dc, bound)]

/-- The validation of the whole object, which changes attributes according to the NIC tag. -/
def validate (s : State Tag Dc Uuid VmId) (req : Request Tag Dc) (post : Bool) (object : Subnet Tag Dc)
    (dc_bound : Option Dc) (attrs : Data Tag) : Except Error (Data Tag) :=
  if post ∧ limit_reached s req dc_bound then
    .error (.invalid (network_errors (attrs.network.getD object.network) (attrs.netmask.getD object.netmask) ++
      [.non_field_errors]))
  else
    match req.all_nictags (attrs.nic_tag.getD object.nic_tag) with
    | none => .error .key_error
    | some nic_tag_type =>
      if object_errors req post object dc_bound attrs nic_tag_type = [] then
        .ok { attrs with
          vxlan_id := if nic_tag_type = .overlay_rule then attrs.vxlan_id else some none
          mtu :=
            if nic_tag_type = .overlay_rule ∧ (attrs.mtu.getD object.mtu).isNone then some (some 1400)
            else attrs.mtu }
      else .error (.invalid (object_errors req post object dc_bound attrs nic_tag_type))

/-- The attributes that are there are set. -/
def restore_object (object : Subnet Tag Dc) (dc_bound : Option Dc) (attrs : Data Tag) : Subnet Tag Dc where
  network := attrs.network.getD object.network
  netmask := attrs.netmask.getD object.netmask
  gateway := attrs.gateway.getD object.gateway
  nic_tag := attrs.nic_tag.getD object.nic_tag
  vlan_id := attrs.vlan_id.getD object.vlan_id
  vxlan_id := attrs.vxlan_id.getD object.vxlan_id
  mtu := attrs.mtu.getD object.mtu
  dhcp_passthrough := attrs.dhcp_passthrough.getD object.dhcp_passthrough
  dc_bound := if attrs.dc_bound.isSome then dc_bound else object.dc_bound

/-- The checks of single fields; a field with an error is not checked again. -/
def field_errors (s : State Tag Dc Uuid VmId) (req : Request Tag Dc) (post : Bool) (net : Uuid) (attrs : Data Tag) :
    List Field :=
  let errors := run_validators req attrs ++ if post then required attrs else []
  if .vlan_id ∈ errors then errors else errors ++ validate_vlan_id s post net attrs

/-- The validation of the fields, then of the object, and the object with its attributes. -/
def is_valid (s : State Tag Dc Uuid VmId) (req : Request Tag Dc) (post : Bool) (net : Uuid) (object : Subnet Tag Dc)
    (data : Data Tag) : Except Error (Subnet Tag Dc) :=
  let attrs := if post then set_defaults data else data
  match validate_dc_bound req object attrs with
  | .error errors => .error (.invalid (field_errors s req post net attrs ++ errors))
  | .ok dc_bound =>
    if field_errors s req post net attrs = [] then
      (validate s req post object dc_bound attrs).map fun attrs => restore_object object dc_bound attrs
    else .error (.invalid (field_errors s req post net attrs))

end serializer

section views

/-- The fields that cannot be updated when the network is used by some VM. -/
def updated_ro_fields (data : Data Tag) : List Field :=
  select [(.network, data.network.isSome), (.netmask, data.netmask.isSome), (.gateway, data.gateway.isSome),
    (.nic_tag, data.nic_tag.isSome), (.vlan_id, data.vlan_id.isSome), (.vxlan_id, data.vxlan_id.isSome),
    (.mtu, data.mtu.isSome), (.dhcp_passthrough, data.dhcp_passthrough.isSome)]

def save (s : State Tag Dc Uuid VmId) (net : Uuid) (object : Subnet Tag Dc) : State Tag Dc Uuid VmId :=
  { s with
    subnets := s.subnets.insert net object
    subnet_exists := by
      intro row hrow
      rw [AList.mem_insert]
      exact .inr (s.subnet_exists row hrow) }

/-- A new network gets a random key; its attributes are the defaults of the model. -/
def post (s : State Tag Dc Uuid VmId) (req : Request Tag Dc) (net : Uuid) (default_tag : Tag) :
    Except Error (State Tag Dc Uuid VmId) :=
  if net ∈ s.subnets then .error .already_exists
  else
    let object : Subnet Tag Dc := ⟨0, 0, none, default_tag, 0, none, none, false, some req.dc⟩
    let data := if req.is_staff then req.data else { req.data with dc_bound := none }
    (is_valid s req true net object data).map fun object => save s net object

def put (s : State Tag Dc Uuid VmId) (req : Request Tag Dc) (net : Uuid) : Except Error (State Tag Dc Uuid VmId) :=
  match s.subnets.lookup net with
  | none => .error .not_found
  | some object =>
    match is_valid s req false net object req.data with
    | .error error => .error error
    | .ok object =>
      let updated_ro_fields := updated_ro_fields req.data
      let updated_ro_fields2 := updated_ro_fields.filter fun field => field ∈ [.network, .netmask]
      if updated_ro_fields2 ≠ [] ∧ s.ipaddress_set net ≠ [] then .error (.invalid updated_ro_fields)
      else if updated_ro_fields ≠ [] ∧ is_used_by_vms s req net then .error (.invalid updated_ro_fields)
      else .ok (save s net object)

end views

section ip

/-- The address is in the network, and no other network of the segment has it. -/
def validate_ip (s : State Tag Dc Uuid VmId) (net : Uuid) (object : Subnet Tag Dc) (value : IPv4Address) : Bool :=
  (ip_network object.network object.netmask).any (contains · value) &&
    !(s.ips.any fun row => row.subnet ≠ net && row.ip = value &&
      (s.subnets.lookup row.subnet).any fun other => other.vlan_id = object.vlan_id && other.vxlan_id = object.vxlan_id)

def ip_errors (s : State Tag Dc Uuid VmId) (net : Uuid) (object : Subnet Tag Dc) (usage : Usage) (value : IPv4Address) :
    List Field :=
  (if is_reserved value || !validate_ip s net object value then [.ip] else []) ++
  (if usage ∈ [.vm, .other] then [] else [.usage])

/-- The rows of new addresses. -/
def bulk_create (s : State Tag Dc Uuid VmId) (net : Uuid) (ips : List IPv4Address) (usage : Usage)
    (hnet : net ∈ s.subnets) (hfree : ∀ row ∈ s.ips, row.subnet = net → row.ip ∉ ips) (hnodup : ips.Nodup) :
    State Tag Dc Uuid VmId :=
  { s with
    ips := s.ips ++ ips.map fun ip => ⟨ip, net, none, [], usage⟩
    subnet_exists := by
      intro row hrow
      rcases List.mem_append.mp hrow with hrow | hrow
      · exact s.subnet_exists row hrow
      · obtain ⟨ip, -, rfl⟩ := List.mem_map.mp hrow
        exact hnet
    unique_together := by
      rw [List.map_append, List.map_map, List.nodup_append]
      refine ⟨s.unique_together, List.Nodup.map (fun _ _ heq => congrArg Prod.fst heq) hnodup, ?_⟩
      intro pair hpair pair' hpair' heq
      obtain ⟨row, hrow, rfl⟩ := List.mem_map.mp hpair
      obtain ⟨ip, hip, rfl⟩ := List.mem_map.mp hpair'
      obtain ⟨hsame, hsubnet⟩ := Prod.mk.inj heq
      exact hfree row hrow hsubnet (hsame ▸ hip) }

/-- One address or many are added to a network. -/
def post_ips (s : State Tag Dc Uuid VmId) (net : Uuid) (ips : List IPv4Address) (usage : Usage) :
    Except Error (State Tag Dc Uuid VmId) :=
  if hnet : net ∈ s.subnets then
    if ips = [] then .error .invalid_input
    else if hfree : ∀ row ∈ s.ips, row.subnet = net → row.ip ∉ ips then
      let errors := ips.flatMap (ip_errors s net ((s.subnets.lookup net).get (AList.lookup_isSome.mpr hnet)) usage)
      if errors ≠ [] then .error (.invalid errors)
      else if hnodup : ips.Nodup then .ok (bulk_create s net ips usage hnet hfree hnodup)
      else .error .already_exists
    else .error .already_exists
  else .error .not_found

end ip

end api.network
