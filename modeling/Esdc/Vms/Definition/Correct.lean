import Esdc.Vms.Definition.Changes

namespace vms.definition

/-- The simple objects are always right. -/
theorem diff_dict_update (old new : Item) (k : String) :
    (Dict.update (Dict.delete old (diff_dict old new).2) (diff_dict old new).1).lookup k = new.lookup k := by
  rw [Dict.lookup_update, Dict.lookup_delete, diff_dict, Dict.lookup_filter]
  have hremove : k ∈ (old.keys.filter fun k => k ∉ new) ↔ k ∈ old ∧ k ∉ new := by
    simp [List.mem_filter, AList.mem_keys]
  simp only [hremove]
  cases hnew : new.lookup k with
  | none =>
    have hnot : k ∉ new := AList.lookup_eq_none.mp hnew
    by_cases hold : k ∈ old
    · simp [hold, hnot]
    · simp [hold, AList.lookup_eq_none.mpr hold]
  | some v =>
    have hmem : k ∈ new := AList.lookup_isSome.mp (by rw [hnew]; rfl)
    by_cases hold : k ∈ old
    · by_cases hsame : old.lookup k = some v
      · simp [hold, hmem, hsame, Option.filter_some]
      · simp [hold, hsame]
    · simp [hold]

/-- Only the keys of the first item have to be looked at. -/
theorem vanished_iff_keys {a b : Item} {P : String → Prop} :
    (∀ k, b.lookup k = none → a.value k = none ∨ P k) ↔
      ∀ k ∈ a.keys, b.lookup k = none → a.value k = none ∨ P k := by
  constructor
  · intro hvanished k _
    exact hvanished k
  · intro hvanished k hb
    by_cases hk : k ∈ a.keys
    · exact hvanished k hk hb
    · left
      rw [Item.value, AList.lookup_eq_none.mpr fun h => hk (AList.mem_keys.mp h)]
      rfl

namespace Vm

theorem lookup_create_json_update_items (vm : Vm) {k : String} (hk : k ∉ noupdate) :
    (Dict.update vm.json_active.items vm.create_json_update_items).lookup k =
      match vm.json.items.lookup k with
      | some v => some v
      | none =>
        if k ∈ noexist_false ∧ k ∈ vm.json_active.items then some (.bool false)
        else vm.json_active.items.lookup k := by
  rw [Dict.lookup_update, create_json_update_items, Dict.lookup_filter]
  have hres : AList.lookup k (noexist_false.foldl (fun (res : Item) i =>
      if i ∉ res ∧ i ∈ vm.json_active.items then res.insert i (.bool false) else res)
        (Dict.delete vm.json.items noupdate)) =
      match vm.json.items.lookup k with
      | some v => some v
      | none => if k ∈ noexist_false ∧ k ∈ vm.json_active.items then some (.bool false) else none := by
    have hdelete : (Dict.delete vm.json.items noupdate).lookup k = vm.json.items.lookup k := by
      rw [Dict.lookup_delete, if_neg hk]
    simp only [noexist_false, List.foldl_cons, List.foldl_nil, List.mem_singleton]
    by_cases hne : k = "do_not_inventory"
    · subst hne
      rw [← hdelete]
      cases hlookup : (Dict.delete vm.json.items noupdate).lookup "do_not_inventory" with
      | none =>
        have hnot := AList.lookup_eq_none.mp hlookup
        by_cases hactive : "do_not_inventory" ∈ vm.json_active.items
        · simp [hnot, hactive, AList.lookup_insert]
        · simp [hactive, hlookup]
      | some v =>
        have hmem : "do_not_inventory" ∈ Dict.delete vm.json.items noupdate :=
          AList.lookup_isSome.mp (by rw [hlookup]; rfl)
        simp [hmem, hlookup]
    · split
      · rw [AList.lookup_insert_ne hne, hdelete]
        cases vm.json.items.lookup k <;> simp [hne]
      · rw [hdelete]
        cases vm.json.items.lookup k <;> simp [hne]
  rw [hres]
  have hkeep : ∀ v, (Option.filter (fun v => decide (¬ (k ∈ vm.json_active.items ∧
      vm.json_active.items.lookup k = some v))) (some v)).or (vm.json_active.items.lookup k) = some v := by
    intro v
    by_cases hsame : vm.json_active.items.lookup k = some v
    · have hmem : k ∈ vm.json_active.items := AList.lookup_isSome.mp (by rw [hsame]; rfl)
      simp [hsame, hmem, Option.filter_some]
    · simp [hsame, Option.filter_some]
  cases vm.json.items.lookup k with
  | some v => exact hkeep v
  | none =>
    by_cases hnoexist : k ∈ noexist_false ∧ k ∈ vm.json_active.items
    · simp only [if_pos hnoexist]
      exact hkeep (.bool false)
    · simp only [if_neg hnoexist]
      simp

/-- Every key of the root that has vanished is among those that are set to false. -/
def ItemsUnsettable (vm : Vm) : Prop :=
  ∀ k ∉ noupdate, vm.json.items.lookup k = none → vm.json_active.items.value k = none ∨ k ∈ noexist_false

theorem items_updated_iff (vm : Vm) :
    (∀ k ∉ noupdate, Item.value (Dict.update vm.json_active.items vm.create_json_update_items) k =
      vm.json.items.value k) ↔ vm.ItemsUnsettable := by
  apply forall₂_congr
  intro k hk
  rw [Item.value, vm.lookup_create_json_update_items hk]
  cases hjson : vm.json.items.lookup k with
  | some v => simp [Item.value, hjson]
  | none =>
    have hwanted : vm.json.items.value k = none := by simp [Item.value, hjson]
    rw [hwanted]
    by_cases hnoexist : k ∈ noexist_false
    · by_cases hactive : k ∈ vm.json_active.items
      · simp [hnoexist, hactive, Value.unset, Option.filter_some]
      · simp [hnoexist, hactive, AList.lookup_eq_none.mpr hactive]
    · simp only [hnoexist, false_and, if_false, or_false]
      exact ⟨fun h _ => h, fun h => h trivial⟩

/-- `vmadm update` with the payload makes the active definition the wanted one. -/
def UpdateCorrect (vm : Vm) : Prop :=
  ∃ payload, vm.json_update = some payload ∧ (vmadm_update vm.json_active payload).Updated vm.hvm vm.json

/-- The payload is right exactly when what has vanished is something that the
payload unsets (`do_not_inventory`; the gateway, the allowed IPs and the MTU of a
NIC; nothing of a disk) and no two items are taken for the same one. -/
theorem updateCorrect_iff {vm : Vm} (hnics : Identified "mac" vm.json_active.nics)
    (hdisks : Identified "path" vm.json_active.disks) :
    vm.UpdateCorrect ↔ vm.ItemsUnsettable ∧
      Unsettable "mac" _NICS_REMOVE_EMPTY vm.json_active.nics vm.json.nics ∧
      (vm.hvm → Unsettable "path" _DISKS_REMOVE_EMPTY vm.json_active.disks vm.json.disks) := by
  obtain ⟨nics, hn⟩ := Option.isSome_iff_exists.mp
    (hnics.create_json_update_nested_isSome vm.json.nics _NICS_REMOVE_EMPTY)
  obtain ⟨disks, hd, hdisk⟩ : ∃ disks, vm.create_json_update_disks = some disks ∧ (vm.hvm →
      Vm.create_json_update_nested vm.json.disks vm.json_active.disks "path" _DISKS_REMOVE_EMPTY =
        some disks) := by
    unfold create_json_update_disks
    split
    · obtain ⟨disks, hd⟩ := Option.isSome_iff_exists.mp
        (hdisks.create_json_update_nested_isSome vm.json.disks _DISKS_REMOVE_EMPTY)
      exact ⟨disks, hd, fun _ => hd⟩
    · rename_i hhvm
      exact ⟨_, rfl, fun h => absurd h hhvm⟩
  have hpayload : vm.json_update = some { items := vm.create_json_update_items
                                          simple := vm.create_json_update_simple, nics, disks } := by
    have hn' : vm.create_json_update_nics = some nics := hn
    simp [json_update, hn', hd]
  have hnic := hnics.agreeItems_iff (by decide) hn
  have hdisk' : vm.hvm → (AgreeItems "path" (update_items "path" vm.json_active.disks disks) vm.json.disks ↔
      Unsettable "path" _DISKS_REMOVE_EMPTY vm.json_active.disks vm.json.disks) :=
    fun hhvm => hdisks.agreeItems_iff (by decide) (hdisk hhvm)
  constructor
  · rintro ⟨payload, heq, hupdated⟩
    rw [hpayload] at heq
    cases heq
    exact ⟨vm.items_updated_iff.mp hupdated.items, hnic.mp hupdated.nics,
      fun hhvm => (hdisk' hhvm).mp (hupdated.disks hhvm)⟩
  · rintro ⟨hitems, hnicU, hdiskU⟩
    refine ⟨_, hpayload, ?_⟩
    exact { items := vm.items_updated_iff.mpr hitems
            simple := fun item k => diff_dict_update _ _ k
            nics := hnic.mpr hnicU
            disks := fun hhvm => (hdisk' hhvm).mpr (hdiskU hhvm) }

end Vm

/-- The validated data of a NIC in a subnet with the gateway 10.0.0.1. -/
def nic (mac ip : String) (set_gateway primary : Bool) : Item where
  entries :=
    [⟨"mac", .str mac⟩, ⟨"model", .str "virtio"⟩, ⟨"net", .str "lan"⟩, ⟨"ip", .str ip⟩,
      ⟨"netmask", .str "255.255.255.0"⟩, ⟨"gateway", if set_gateway then .str "10.0.0.1" else .null⟩,
      ⟨"primary", .bool primary⟩, ⟨"dns", .bool false⟩, ⟨"use_net_dns", .bool false⟩,
      ⟨"allow_dhcp_spoofing", .bool false⟩, ⟨"allow_ip_spoofing", .bool false⟩,
      ⟨"allow_mac_spoofing", .bool false⟩, ⟨"allow_restricted_traffic", .bool false⟩,
      ⟨"allow_unfiltered_promisc", .bool false⟩, ⟨"allowed_ips", .strs []⟩, ⟨"monitoring", .bool false⟩,
      ⟨"set_gateway", .bool set_gateway⟩, ⟨"vlan_id", .int 0⟩, ⟨"nic_tag", .str "external"⟩, ⟨"mtu", .null⟩]
  nodupKeys := by simp [List.NodupKeys, List.keys]

/-- The same after a change to a subnet with an external DHCP server. -/
def dhcp_nic (mac : String) (primary : Bool) : Item where
  entries :=
    [⟨"mac", .str mac⟩, ⟨"model", .str "virtio"⟩, ⟨"net", .str "dhcp"⟩, ⟨"ip", .null⟩,
      ⟨"netmask", .null⟩, ⟨"gateway", .null⟩, ⟨"primary", .bool primary⟩, ⟨"dns", .bool false⟩,
      ⟨"use_net_dns", .bool false⟩, ⟨"allow_dhcp_spoofing", .bool false⟩,
      ⟨"allow_ip_spoofing", .bool false⟩, ⟨"allow_mac_spoofing", .bool false⟩,
      ⟨"allow_restricted_traffic", .bool false⟩, ⟨"allow_unfiltered_promisc", .bool false⟩,
      ⟨"allowed_ips", .strs []⟩, ⟨"monitoring", .bool false⟩, ⟨"set_gateway", .bool false⟩,
      ⟨"vlan_id", .int 0⟩, ⟨"nic_tag", .str "external"⟩, ⟨"mtu", .null⟩]
  nodupKeys := by simp [List.NodupKeys, List.keys]

def lan : Subnet := ⟨"00000000-0000-0000-0000-000000000001", false⟩

def dhcp : Subnet := ⟨"00000000-0000-0000-0000-000000000002", true⟩

/-- A VM with two gibibytes of memory and the NICs that are saved for it. -/
def json_of (nics : List (Subnet × Item)) : Json where
  items := ⟨[⟨"ram", .int 2048⟩, ⟨"vcpus", .int 1⟩], by simp [List.NodupKeys, List.keys]⟩
  simple _ := none
  nics := Vm.save_nics true "net" (nics.map fun nic => VmDefineNicSerializer.jsondata nic.1 nic.2)
  disks := []

/-- The gateway of a NIC is taken away. -/
theorem updateCorrect_of_gateway :
    (⟨true, json_of [(lan, nic "02:00:00:00:00:01" "10.0.0.2" false true)],
      json_of [(lan, nic "02:00:00:00:00:01" "10.0.0.2" true true)]⟩ : Vm).UpdateCorrect := by
  refine (Vm.updateCorrect_iff ⟨by decide, by decide⟩ ⟨by decide, by decide⟩).mpr ⟨?_, ⟨?_, ?_⟩, fun _ => ⟨?_, ?_⟩⟩
  · intro k _
    exact vanished_iff_keys.mpr (by decide) k
  · intro v
    exact List.length_filter_le _ _
  · intro a ha b hb _
    have ha' := List.mem_singleton.mp ha
    have hb' := List.mem_singleton.mp hb
    subst ha' hb'
    exact vanished_iff_keys.mpr (by decide)
  · intro v
    exact Nat.zero_le _
  · intro a ha
    cases ha

/-- A NIC is moved to a subnet with an external DHCP server: its gateway is
unset, but its netmask stays on the compute node. -/
theorem not_updateCorrect_of_dhcp :
    ¬ ∀ vm : Vm,
      (∃ nics : List (Subnet × Item), vm.json.nics = Vm.save_nics vm.hvm "net"
        (nics.map fun nic => VmDefineNicSerializer.jsondata nic.1 nic.2)) →
      (∃ nics : List (Subnet × Item), vm.json_active.nics = Vm.save_nics vm.hvm "net"
        (nics.map fun nic => VmDefineNicSerializer.jsondata nic.1 nic.2)) →
      Identified "mac" vm.json_active.nics → Identified "path" vm.json_active.disks → vm.UpdateCorrect := by
  intro hclaim
  have hident : Identified "mac" (json_of [(lan, nic "02:00:00:00:00:01" "10.0.0.2" true true)]).nics :=
    ⟨by decide, by decide⟩
  obtain ⟨payload, heq, hupdated⟩ := hclaim
    ⟨true, json_of [(dhcp, dhcp_nic "02:00:00:00:00:01" true)],
      json_of [(lan, nic "02:00:00:00:00:01" "10.0.0.2" true true)]⟩
    ⟨_, rfl⟩ ⟨_, rfl⟩ hident ⟨by decide, by decide⟩
  obtain ⟨nics, hnics, disks, hdisks, hpayload⟩ : ∃ nics, Vm.create_json_update_nics _ = some nics ∧
      ∃ disks, Vm.create_json_update_disks _ = some disks ∧ _ := by
    simpa [Vm.json_update, Option.bind_eq_some_iff] using heq
  subst hpayload
  have hunset := (hident.agreeItems_iff (by decide) hnics).mp hupdated.nics
  have hnetmask := hunset.vanished _ (List.mem_cons_self) _ (List.mem_cons_self) (by decide) "netmask" (by decide)
  exact absurd hnetmask (by decide)

end vms.definition
