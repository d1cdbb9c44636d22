import Esdc.Lib.Dict

namespace vms.definition

/-- A value of a definition; what is nested deeper is compared as a whole. -/
inductive Value
  | null
  | bool (b : Bool)
  | int (n : Int)
  | str (s : String)
  | strs (ss : List String)
  | json (text : String)
  deriving DecidableEq

/-- `not value` -/
def Value.falsy : Value → Bool
  | .null => true
  | .bool b => !b
  | .int n => n = 0
  | .str s => s = ""
  | .strs ss => ss.isEmpty
  | .json _ => false

/-- A NIC, a disk or a flat part of a definition. -/
abbrev Item := Dict String Value

/-- The simple objects inside of a definition. -/
inductive Simple
  | internal_metadata
  | customer_metadata
  | routes
  | tags
  deriving DecidableEq

/-- `items` are the keys of the root other than the simple objects, `nics` and `disks`. -/
structure Json where
  items : Item
  simple : Simple → Option Item
  nics : List Item
  disks : List Item

structure Vm where
  hvm : Bool
  json : Json
  json_active : Json

/-- The key of an item, its number in the list if it has none. -/
inductive Ident
  | value (v : Value)
  | index (i : Nat)
  deriving DecidableEq

def Item.ident (key : String) (item : Item) (i : Nat) : Ident :=
  match item.lookup key with
  | some v => .value v
  | none => .index i

def pair_keys_to_items (items : List Item) (key : String) : Dict Ident Item :=
  items.zipIdx.foldl (fun new_items entry => new_items.insert (entry.1.ident key entry.2) entry.1) ∅

/-- `set_` and `remove_` -/
def diff_dict (old new : Item) : Item × List String :=
  (new.filter fun k v => if k ∈ old then old.lookup k ≠ some v else true,
    old.keys.filter fun k => k ∉ new)

structure Changes where
  add_ : List Item
  remove_ : List Value
  update_ : List Item

/-- The values of `remove_empty` for what has vanished, then only what differs. -/
def changed_item (old new : Item) (key : String) (remove_empty : List (String × Value)) : Item :=
  let new := remove_empty.foldl
    (fun new entry => if entry.1 ∉ new ∧ entry.1 ∈ old then new.insert entry.1 entry.2 else new) new
  new.filter fun i new_i => i = key ∨ old.lookup i ≠ some new_i

/-- Fails with the `KeyError` of a removed item that has no key. -/
def diff_dict_nested (old new : Dict Ident Item) (key : String) (remove_empty : List (String × Value)) :
    Option Changes := do
  let add_ := (new.entries.filter fun e => e.1 ∉ old).map fun e => e.2
  let update_ := new.entries.filterMap fun e =>
    match old.lookup e.1 with
    | some item => if e.2.same item then none else some (changed_item item e.2 key remove_empty)
    | none => none
  let remove_ ← ((old.entries.filter fun e => e.1 ∉ new).map fun e => e.2).mapM fun item => item.lookup key
  return { add_, remove_, update_ }

namespace Vm

def _DISKS_REMOVE_EMPTY : List (String × Value) := []

def _NICS_REMOVE_EMPTY : List (String × Value) := [("gateway", .str ""), ("allowed_ips", .strs []), ("mtu", .null)]

def noupdate : List String :=
  ["uuid", "brand", "create_timestamp", "customer_metadata", "datasets", "delegate_dataset", "disks",
    "filesystems", "image_uuid", "internal_metadata", "last_modified", "limit_priv", "nics",
    "mdata_exec_timeout", "nowait", "pid", "routes", "server_uuid", "state", "tags", "type",
    "zfs_filesystem", "zfs_root_recsize", "zone_state", "zoneid", "zonename", "zonepath", "zpool",
    "datacenter_name", "headnode_id", "dns_domain", "exit_status", "exit_timestamp"]

def noexist_false : List String := ["do_not_inventory"]

def create_json_update_nested (json json_active : List Item) (key : String)
    (remove_empty : List (String × Value)) : Option Changes :=
  diff_dict_nested (pair_keys_to_items json_active key) (pair_keys_to_items json key) key remove_empty

def create_json_update_nics (vm : Vm) : Option Changes :=
  create_json_update_nested vm.json.nics vm.json_active.nics "mac" _NICS_REMOVE_EMPTY

/-- The disks of a zone are properties in the root. -/
def create_json_update_disks (vm : Vm) : Option Changes :=
  if vm.hvm then create_json_update_nested vm.json.disks vm.json_active.disks "path" _DISKS_REMOVE_EMPTY
  else some ⟨[], [], []⟩

/-- The keys of the root that are set. -/
def create_json_update_items (vm : Vm) : Item :=
  let json_active := vm.json_active.items
  let res := vm.json.items.delete noupdate
  let res := noexist_false.foldl
    (fun (res : Item) i => if i ∉ res ∧ i ∈ json_active then res.insert i (.bool false) else res) res
  res.filter fun i v => ¬ (i ∈ json_active ∧ json_active.lookup i = some v)

/-- The attributes `set_` and `remove_` of a simple object. -/
def create_json_update_simple (vm : Vm) (item : Simple) : Item × List String :=
  diff_dict ((vm.json_active.simple item).getD ∅) ((vm.json.simple item).getD ∅)

end Vm

/-- A payload for `vmadm update`. -/
structure Payload where
  items : Item
  simple : Simple → Item × List String
  nics : Changes
  disks : Changes

def Vm.json_update (vm : Vm) : Option Payload := do
  let nics ← vm.create_json_update_nics
  let disks ← vm.create_json_update_disks
  return { items := vm.create_json_update_items, simple := vm.create_json_update_simple, nics, disks }

/-- What `save_nics` makes of one NIC. -/
def Vm.save_nic (hvm : Bool) (interface : String) (nic : Item) : Item :=
  let nic : Item := nic.insert "interface" (.str interface)
  let remove_falsy := ["mac", "primary"] ++ _NICS_REMOVE_EMPTY.map Prod.fst
  let nic : Item := Dict.filter nic fun k v => ¬ (k ∈ remove_falsy ∧ v.falsy)
  Dict.delete nic (["ips", "gateways"] ++ if hvm then [] else ["model"])

def Vm.save_nics (hvm : Bool) (prefixed : String) (nics : List Item) : List Item :=
  nics.zipIdx.map fun entry => save_nic hvm (prefixed ++ toString entry.2) entry.1

/-- What a subnet contributes to the data of a NIC. -/
structure Subnet where
  uuid : String
  dhcp_passthrough : Bool

/-- The validated data of a NIC with its `_net`, as it is handed to `save_nics`. -/
def VmDefineNicSerializer.jsondata (_net : Subnet) (object : Item) : Item :=
  let data : Item :=
    if (object.lookup "net").all Value.falsy then Dict.delete object ["net"]
    else (Dict.delete object ["net"]).insert "network_uuid" (.str _net.uuid)
  let data : Item := Dict.delete data ["dns", "use_net_dns", "monitoring", "set_gateway"]
  if (data.lookup "ip").all Value.falsy && _net.dhcp_passthrough then
    Dict.delete (data.insert "ip" (.str "dhcp")) ["netmask", "gateway"]
  else data

end vms.definition
