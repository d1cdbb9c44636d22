import Mathlib
import Esdc.Lib.Fallible
import Esdc.Api.Vm.Define.NicView

namespace api.vm.define.nic

open Fallible (bind_eq_ok)
open vms.definition (Item Value)
open vms.ipaddress (IPAddress Usage)

variable {U D : Type}

section lookups

theorem lookup_setdefault (item : Item) (key k : String) (value : Value) :
    (setdefault item key value).lookup k = if k = key then some ((item.lookup k).getD value) else item.lookup k := by
  unfold setdefault
  by_cases hkey : key ∈ item
  · rw [if_pos hkey]
    split
    · case isTrue h =>
      obtain ⟨v, hv⟩ := Option.isSome_iff_exists.mp (AList.lookup_isSome.mpr (h ▸ hkey))
      rw [hv, Option.getD_some]
    · rfl
  · rw [if_neg hkey, Dict.lookup_insert_ite]
    split
    · case isTrue h => rw [AList.lookup_eq_none.mpr (h ▸ hkey), Option.getD_none]
    · rfl

theorem lookup_insert_sent {α : Type} (value : α → Value) (key k : String) (sent : Option α) (attrs : Item) :
    (insert_sent value key sent attrs).lookup k =
      if k = key then (sent.map value).or (attrs.lookup k) else attrs.lookup k := by
  cases sent with
  | none => simp [insert_sent]
  | some a =>
    rw [insert_sent, Dict.lookup_insert_ite]
    rfl

/-- A NIC is saved attribute by attribute. -/
theorem lookup_save_nic (vm : Vm U) (i : ℕ) (nic : Item) (k : String) :
    (vm.save_nic i nic).lookup k =
      (if k = "interface" then some (Value.str (vm.interface i)) else nic.lookup k).filter fun value =>
        !removed vm.hvm k value := by
  rw [Vm.save_nic, Dict.lookup_filter, Dict.lookup_insert_ite]

theorem save_nics_getElem? {vm : Vm U} {nics : List Item} {monitoring_ip : Option String} {i : ℕ} {nic : Item}
    (hnic : nics[i]? = some nic) : (vm.save_nics nics monitoring_ip).nics[i]? = some (vm.save_nic i nic) := by
  rw [Vm.save_nics, List.getElem?_mapIdx, hnic]
  rfl

end lookups

section specification

/-- The attributes of a serialized NIC that are not saved. -/
def dummy_attributes : List String := ["net", "dns", "use_net_dns", "monitoring", "set_gateway"]

/-- The network of a NIC in the definition. -/
def stored_net (db : Db U D) (nic : Item) : Option Subnet :=
  if (get nic "network_uuid").falsy then none
  else db.subnets.find? fun net => .str net.uuid = get nic "network_uuid"

/-- The network that a NIC gets. -/
def new_net (db : Db U D) (req : Request) (nic : Item) (data : Data) : Option Subnet :=
  match data.net with
  | none => stored_net db nic
  | some value =>
    if (stored_net db nic).any (·.name = value) then stored_net db nic
    else db.subnets.find? fun net => req.get_subnets net && net.name = value

/-- The address of a NIC is not looked up again. -/
def keeps_ip (db : Db U D) (nic : Item) (data : Data) : Bool :=
  is_ip nic && data.ip = none && data.net.all fun value => (stored_net db nic).any (·.name = value)

/-- The NIC gets no address: its network has `dhcp_passthrough`, none was sent and none is kept. -/
def without_ip (db : Db U D) (req : Request) (nic : Item) (data : Data) : Bool :=
  (new_net db req nic data).any (·.dhcp_passthrough) && !data.ip.any (· ≠ "") && !keeps_ip db nic data

/-- Everything of the NIC is replaced: it has no attribute that is only for the serializer, and no netmask and gateway when
there are none in its new configuration. -/
def Replaced (db : Db U D) (req : Request) (nic : Item) (data : Data) : Prop :=
  (∀ key ∈ dummy_attributes, nic.lookup key = none) ∧
    (without_ip db req nic data → nic.lookup "netmask" = none ∧ (get nic "gateway").falsy)

end specification

section serializer

variable {db : Db U D} {req : Request} {vm : Vm U} {nic : Item} {data : Data} {ser ser' : VmDefineNicSerializer U}

theorem stored_net_mem {net : Subnet} (hnet : stored_net db nic = some net) : net ∈ db.subnets := by
  unfold stored_net at hnet
  split at hnet
  · cases hnet
  · exact List.mem_of_find?_eq_some hnet

theorem fix_net_spec {nic' : Item} {net : Option Subnet} (hfix : fix_net db nic = .ok (nic', net)) :
    net = stored_net db nic ∧
      (∀ k, k ≠ "net" → k ≠ "network_uuid" → nic'.lookup k = nic.lookup k) ∧
      nic'.lookup "net" = some (null_or Value.str (net.map Subnet.name)) := by
  unfold fix_net at hfix
  unfold stored_net
  by_cases hfalsy : (get nic "network_uuid").falsy = true
  · rw [if_pos hfalsy] at hfix
    obtain ⟨rfl, rfl⟩ := Prod.mk.inj (Except.ok.inj hfix)
    rw [if_pos hfalsy]
    refine ⟨rfl, fun k hnet _ => ?_, ?_⟩
    · rw [Dict.lookup_insert_ite, if_neg hnet]
    · rw [Dict.lookup_insert_ite, if_pos rfl]
      rfl
  · rw [if_neg hfalsy] at hfix
    rw [if_neg hfalsy]
    cases hfind : db.subnets.find? fun net => .str net.uuid = get nic "network_uuid" with
    | none =>
      rw [hfind] at hfix
      cases hfix
    | some found =>
      rw [hfind] at hfix
      obtain ⟨rfl, rfl⟩ := Prod.mk.inj (Except.ok.inj hfix)
      refine ⟨rfl, fun k hnet huuid => ?_, ?_⟩
      · rw [Dict.lookup_erase_ite, if_neg huuid, Dict.lookup_insert_ite, if_neg hnet]
      · rw [Dict.lookup_erase_ite, if_neg (by decide), Dict.lookup_insert_ite, if_pos rfl]
        rfl

theorem fix_ip_spec {nic' : Item} {net : Option Subnet} {_ip : Ip U} (hfix : fix_ip db nic net = .ok (nic', _ip)) :
    (∀ k, (nic.lookup k).isSome → (nic'.lookup k).isSome) ∧ nic'.lookup "net" = nic.lookup "net" ∧
      (net = none → ¬ ∃ ip, _ip = .address ip) ∧
      ((∃ ip, _ip = .address ip) → is_ip nic = true ∨ ¬ net.any (·.dhcp_passthrough) = true) ∧
      (net.any (·.dhcp_passthrough) = true → is_ip nic = true →
        (∃ ip, _ip = .address ip) ∧ nic'.lookup "ip" = nic.lookup "ip") := by
  unfold fix_ip at hfix
  by_cases hfalsy : (get nic "ip").falsy = true
  · rw [if_pos hfalsy] at hfix
    obtain ⟨rfl, rfl⟩ := Prod.mk.inj (Except.ok.inj hfix)
    refine ⟨fun k h => h, rfl, nofun, nofun, ?_⟩
    intro _ hip
    simp [is_ip, hfalsy] at hip
  · rw [if_neg hfalsy] at hfix
    split at hfix
    · case isTrue hdhcp =>
      obtain ⟨rfl, rfl⟩ := Prod.mk.inj (Except.ok.inj hfix)
      rw [Bool.and_eq_true, decide_eq_true_eq] at hdhcp
      refine ⟨?_, ?_, nofun, nofun, ?_⟩
      · intro k hk
        simp only [Dict.lookup_insert_ite]
        split
        · rfl
        · split
          · rfl
          · split
            · rfl
            · exact hk
      · simp
      · intro _ hip
        simp [is_ip, hdhcp.2] at hip
    · case isFalse hdhcp =>
      cases hfind : db.addresses.find? fun row =>
          .str row.ip = get nic "ip" && some row.subnet = net.map Subnet.uuid with
      | none =>
        rw [hfind] at hfix
        cases hfix
      | some row =>
        rw [hfind] at hfix
        obtain ⟨rfl, rfl⟩ := Prod.mk.inj (Except.ok.inj hfix)
        refine ⟨fun k h => h, rfl, ?_, ?_, fun _ _ => ⟨⟨row, rfl⟩, rfl⟩⟩
        · rintro rfl
          exact absurd (List.find?_some hfind) (by simp)
        intro _
        by_cases hnet : net.any (·.dhcp_passthrough) = true
        · left
          rw [Bool.and_eq_true, decide_eq_true_eq] at hdhcp
          have hne : get nic "ip" ≠ .str "dhcp" := fun h => hdhcp ⟨hnet, h⟩
          simp [is_ip, hne, hfalsy]
        · exact .inr hnet

/-- Only the address, the netmask and the gateway of a NIC are rewritten with its address. -/
theorem lookup_fix_ip {nic' : Item} {net : Option Subnet} {_ip : Ip U} {k : String}
    (hk : k ∉ ["ip", "netmask", "gateway"]) (hfix : fix_ip db nic net = .ok (nic', _ip)) :
    nic'.lookup k = nic.lookup k := by
  simp only [List.mem_cons, List.not_mem_nil, or_false, not_or] at hk
  unfold fix_ip at hfix
  split at hfix
  · obtain ⟨rfl, -⟩ := Prod.mk.inj (Except.ok.inj hfix)
    rfl
  · split at hfix
    · obtain ⟨rfl, -⟩ := Prod.mk.inj (Except.ok.inj hfix)
      simp only [Dict.lookup_insert_ite, if_neg hk.1, if_neg hk.2.1, if_neg hk.2.2]
    · split at hfix
      · cases hfix
      · obtain ⟨rfl, -⟩ := Prod.mk.inj (Except.ok.inj hfix)
        rfl

end serializer

section object

variable {db : Db U D} {vm : Vm U} {nic : Item} {ser : VmDefineNicSerializer U}

theorem lookup_fix_dummies {net : Option Subnet} {k : String}
    (hk : k ∉ ["dns", "use_net_dns", "monitoring", "set_gateway"]) :
    (fix_dummies vm net nic).lookup k = nic.lookup k := by
  simp only [List.mem_cons, List.not_mem_nil, or_false, not_or] at hk
  obtain ⟨hdns, huse, hmonitoring, hgateway⟩ := hk
  simp only [fix_dummies, Dict.lookup_insert_ite, if_neg hdns, if_neg huse, if_neg hmonitoring, if_neg hgateway]

theorem isSome_fix_dummies {net : Option Subnet} {k : String} (hk : (nic.lookup k).isSome) :
    ((fix_dummies vm net nic).lookup k).isSome := by
  simp only [fix_dummies, Dict.lookup_insert_ite]
  repeat' split
  all_goals first | rfl | exact hk

theorem lookup_fix_allowed_ips {k : String} (hk : k ≠ "allowed_ips") : (fix_allowed_ips nic).lookup k = nic.lookup k := by
  unfold fix_allowed_ips
  split
  · rfl
  · rw [Dict.lookup_insert_ite, if_neg hk]

theorem isSome_fix_allowed_ips {k : String} (hk : (nic.lookup k).isSome) : ((fix_allowed_ips nic).lookup k).isSome := by
  unfold fix_allowed_ips
  split
  · exact hk
  · rw [Dict.lookup_insert_ite]
    split
    · rfl
    · exact hk

theorem lookup_set_missing {k : String} (hvlan : k ≠ "vlan_id") (hmtu : k ≠ "mtu") (hprimary : k ≠ "primary") :
    (set_missing nic).lookup k = nic.lookup k := by
  simp only [set_missing, lookup_setdefault, if_neg hvlan, if_neg hmtu, if_neg hprimary]

theorem isSome_set_missing {k : String} (hk : (nic.lookup k).isSome) : ((set_missing nic).lookup k).isSome := by
  simp only [set_missing, lookup_setdefault]
  repeat' split
  all_goals first | rfl | exact hk

/-- The object has the attributes of the NIC, and its network by the name. -/
theorem fix_before_spec (hfix : fix_before db vm nic = .ok ser) :
    ∃ object, ser.object = some object ∧ ser._net = stored_net db nic ∧ ser._net_old = none ∧
      (∀ k, k ≠ "network_uuid" → (nic.lookup k).isSome → (object.lookup k).isSome) ∧
      get object "net" = null_or Value.str ((stored_net db nic).map Subnet.name) ∧
      ((∃ ip, ser._ip = .address ip) → stored_net db nic ≠ none ∧
        (is_ip nic = true ∨ ¬ (stored_net db nic).any (·.dhcp_passthrough) = true)) ∧
      ((stored_net db nic).any (·.dhcp_passthrough) = true → is_ip nic = true →
        (∃ ip, ser._ip = .address ip) ∧ object.lookup "ip" = nic.lookup "ip") := by
  unfold fix_before at hfix
  obtain ⟨⟨nic₁, net⟩, hnet, hfix⟩ := bind_eq_ok.mp hfix
  obtain ⟨⟨nic₂, _ip⟩, hip, hfix⟩ := bind_eq_ok.mp hfix
  obtain ⟨rfl, hsame, hname⟩ := fix_net_spec hnet
  obtain ⟨hkeys, hname₂, hunknown, haddress, hkept⟩ := fix_ip_spec hip
  obtain rfl := Except.ok.inj hfix
  have hip₁ : (set_missing nic₁).lookup "ip" = nic.lookup "ip" := by
    rw [lookup_set_missing (by decide) (by decide) (by decide), hsame "ip" (by decide) (by decide)]
  have hget : get (set_missing nic₁) "ip" = get nic "ip" := congrArg (Option.getD · Value.null) hip₁
  have his_ip : is_ip (set_missing nic₁) = is_ip nic := by rw [is_ip, is_ip, hget]
  rw [his_ip] at haddress hkept
  refine ⟨_, rfl, rfl, rfl, ?_, ?_, ?_, ?_⟩
  · intro k huuid hk
    have hk₁ : (nic₁.lookup k).isSome := by
      by_cases hknet : k = "net"
      · rw [hknet, hname]
        rfl
      · rw [hsame k hknet huuid]
        exact hk
    exact isSome_fix_dummies (isSome_fix_allowed_ips (hkeys k (isSome_set_missing hk₁)))
  · rw [get, lookup_fix_dummies (by decide), lookup_fix_allowed_ips (by decide), hname₂,
      lookup_set_missing (by decide) (by decide) (by decide), hname]
    rfl
  · exact fun hsome => ⟨fun hnone => hunknown hnone hsome, haddress hsome⟩
  · intro hdhcp his
    obtain ⟨hsome, hip₂⟩ := hkept hdhcp his
    refine ⟨hsome, ?_⟩
    rw [lookup_fix_dummies (by decide), lookup_fix_allowed_ips (by decide), hip₂, hip₁]

end object

section validation

variable [DecidableEq U] [DecidableEq D] {db : Db U D} {req : Request} {vm : Vm U} {nic : Item} {data : Data}
  {ser ser' : VmDefineNicSerializer U}

theorem lookup_attrs_net (data : Data) : data.attrs.lookup "net" = data.net.map .str := by
  simp [Data.attrs, lookup_insert_sent]

theorem lookup_attrs_ip (data : Data) : data.attrs.lookup "ip" = data.ip.map .str := by
  simp [Data.attrs, lookup_insert_sent]

omit [DecidableEq U] [DecidableEq D] in
/-- The network of an existing NIC, and whether it is another one than before. -/
theorem validate_net_spec (hobject : ser.object.isSome) (hnet : ser._net = stored_net db nic)
    (hvalid : validate_net db req vm data ser = .ok ser') :
    ser'.object = ser.object ∧ ser'.attrs = ser.attrs ∧ ser'._ip = ser._ip ∧ ser'._net = new_net db req nic data ∧
      data.net ≠ some "" ∧
      (ser'._net_old = none → stored_net db nic ≠ none →
        data.net.all (fun value => (stored_net db nic).any (·.name = value)) = true) ∧
      (data.net.all (fun value => (stored_net db nic).any (·.name = value)) = true → ser' = ser) := by
  unfold validate_net at hvalid
  unfold new_net
  cases hname : data.net with
  | none =>
    rw [hname] at hvalid
    obtain rfl := Except.ok.inj hvalid
    exact ⟨rfl, rfl, rfl, hnet, nofun, fun _ _ => rfl, fun _ => rfl⟩
  | some value =>
    rw [hname] at hvalid
    simp only [Option.all_some] at hvalid ⊢
    split at hvalid
    · cases hvalid
    · case isFalse hempty =>
      have hne : some value ≠ some "" := fun h => hempty (Option.some.inj h)
      rw [hobject, Bool.true_and, hnet] at hvalid
      split at hvalid
      · case isTrue hsame =>
        obtain rfl := Except.ok.inj hvalid
        rw [if_pos hsame]
        exact ⟨rfl, rfl, rfl, hnet, hne, fun _ _ => hsame, fun _ => rfl⟩
      · case isFalse hother =>
        rw [if_neg hother]
        cases hfind : db.subnets.find? fun net => req.get_subnets net && net.name = value with
        | none =>
          rw [hfind] at hvalid
          cases hvalid
        | some _net =>
          rw [hfind] at hvalid
          simp only at hvalid
          split at hvalid
          · cases hvalid
          · obtain ⟨_, -, hvalid⟩ := bind_eq_ok.mp hvalid
            obtain ⟨object, hsome⟩ := Option.isSome_iff_exists.mp hobject
            rw [hsome] at hvalid
            simp only at hvalid
            split at hvalid
            · cases hvalid
            · obtain rfl := Except.ok.inj hvalid
              refine ⟨hsome.symm, rfl, rfl, rfl, hne, ?_, fun h => absurd h hother⟩
              intro hnone hstored
              exact absurd hnone hstored

/-- What `validate_ip` leaves: an address that was sent, none, or the one that was there. -/
theorem validate_ip_spec (hvalid : validate_ip db vm data ser = .ok ser') :
    ser'.object = ser.object ∧ ser'._net = ser._net ∧ (∀ k, k ≠ "ip" → ser'.attrs.lookup k = ser.attrs.lookup k) ∧
      (∀ ip, data.ip.filter (· ≠ "") = some ip → (∃ a, ser'._ip = .address a) ∧
        (ser'.attrs.lookup "ip" = some (.str ip) ∨ ser'.attrs = ser.attrs)) ∧
      (data.ip.filter (· ≠ "") = none →
        (ser._net_old ≠ none ∨ data.ip ≠ none) ∧ ser'._ip = .none ∨
          ser._net_old = none ∧ data.ip = none ∧ ser' = ser) := by
  unfold validate_ip at hvalid
  cases hsent : data.ip.filter (· ≠ "") with
  | some ip =>
    rw [hsent] at hvalid
    simp only at hvalid
    split at hvalid
    · case isTrue hhas =>
      obtain rfl := Except.ok.inj hvalid
      refine ⟨rfl, rfl, fun _ _ => rfl, ?_, nofun⟩
      intro ip' heq
      obtain rfl := Option.some.inj heq
      refine ⟨?_, .inr rfl⟩
      rw [Bool.and_eq_true] at hhas
      cases hip : ser._ip with
      | address a => exact ⟨a, rfl⟩
      | none => simp [hip, Ip.has] at hhas
      | dhcp => simp [hip, Ip.has] at hhas
    · cases hfind : db.get_address ip ser._net with
      | none =>
        rw [hfind] at hvalid
        cases hvalid
      | some _ip =>
        rw [hfind] at hvalid
        simp only at hvalid
        split at hvalid
        · cases hvalid
        · obtain rfl := Except.ok.inj hvalid
          refine ⟨rfl, rfl, ?_, ?_, nofun⟩
          · intro k hk
            exact (Dict.lookup_insert_ite _ _ _ _).trans (if_neg hk)
          · intro ip' heq
            obtain rfl := Option.some.inj heq
            have hrow := List.find?_some hfind
            rw [Bool.and_eq_true, decide_eq_true_eq] at hrow
            refine ⟨⟨_ip, rfl⟩, .inl ?_⟩
            rw [Dict.lookup_insert_ite, if_pos rfl, hrow.1]
  | none =>
    rw [hsent] at hvalid
    simp only at hvalid
    split at hvalid
    · case isTrue hnew =>
      obtain rfl := Except.ok.inj hvalid
      refine ⟨rfl, rfl, fun _ _ => rfl, nofun, fun _ => .inl ⟨?_, rfl⟩⟩
      simpa using hnew
    · case isFalse hnew =>
      obtain rfl := Except.ok.inj hvalid
      refine ⟨rfl, rfl, fun _ _ => rfl, nofun, fun _ => .inr ⟨?_, ?_, rfl⟩⟩
      · by_contra h
        exact hnew (by simp [h])
      · by_contra h
        exact hnew (by simp [h])

theorem validate_allowed_ips_spec (hvalid : validate_allowed_ips db vm data ser = .ok ser') :
    ser'.object = ser.object ∧ ser'._net = ser._net ∧ ser'._ip = ser._ip ∧ ser'._ip_old = ser._ip_old ∧
      ∀ k, k ≠ "allowed_ips" → ser'.attrs.lookup k = ser.attrs.lookup k := by
  unfold validate_allowed_ips at hvalid
  simp only at hvalid
  split at hvalid
  · split at hvalid
    · cases hvalid
    · obtain rfl := Except.ok.inj hvalid
      exact ⟨rfl, rfl, rfl, rfl, fun k hk => (Dict.lookup_insert_ite _ _ _ _).trans (if_neg hk)⟩
  · split at hvalid
    · obtain rfl := Except.ok.inj hvalid
      exact ⟨rfl, rfl, rfl, rfl, fun k hk => (Dict.lookup_insert_ite _ _ _ _).trans (if_neg hk)⟩
    · obtain rfl := Except.ok.inj hvalid
      exact ⟨rfl, rfl, rfl, rfl, fun _ _ => rfl⟩

omit [DecidableEq U] [DecidableEq D] in
theorem find_ip_spec {net : Subnet} (hvalid : find_ip db req net data ser = .ok ser') :
    ser'.object = ser.object ∧ ser'._net = ser._net ∧ ser'.attrs.lookup "net" = ser.attrs.lookup "net" ∧
      ((∃ a, ser._ip = .address a) → ser' = ser) ∧
      ((¬ ∃ a, ser._ip = .address a) → net.dhcp_passthrough → ser'.attrs.lookup "ip" = some .null) := by
  unfold find_ip at hvalid
  split at hvalid
  · case h_1 a hip =>
    obtain rfl := Except.ok.inj hvalid
    exact ⟨rfl, rfl, rfl, fun _ => rfl, fun h => absurd ⟨a, hip⟩ h⟩
  · case h_2 hip =>
    have hnone : ¬ ∃ a, ser._ip = .address a := fun ⟨a, ha⟩ => hip a ha
    split at hvalid
    · obtain rfl := Except.ok.inj hvalid
      refine ⟨rfl, rfl, ?_, fun h => absurd h hnone, fun _ _ => ?_⟩
      · simp
      · simp
    · case isFalse hdhcp =>
      simp only at hvalid
      split at hvalid
      · cases hvalid
      · obtain rfl := Except.ok.inj hvalid
        refine ⟨rfl, rfl, ?_, fun h => absurd h hnone, fun _ h => absurd h hdhcp⟩
        simp

omit [DecidableEq U] [DecidableEq D] in
theorem inherit_net_spec {net : Subnet} (hvalid : inherit_net req net data ser = .ok ser') :
    ser'.object = ser.object ∧ ser'._net = ser._net ∧ ser'._ip = ser._ip ∧
      ser'.attrs.lookup "net" = ser.attrs.lookup "net" ∧ ser'.attrs.lookup "ip" = ser.attrs.lookup "ip" := by
  unfold inherit_net at hvalid
  obtain ⟨set_gateway, -, hvalid⟩ := bind_eq_ok.mp hvalid
  obtain rfl := Except.ok.inj hvalid
  refine ⟨rfl, rfl, rfl, ?_, ?_⟩
  · cases set_gateway <;> cases ser._ip <;> simp
  · cases set_gateway <;> cases ser._ip <;> simp

end validation

section saved

variable [DecidableEq U] [DecidableEq D] {db : Db U D} {req : Request} {vm : Vm U} {nic : Item} {data : Data}
  {ser : VmDefineNicSerializer U}

omit [DecidableEq U] [DecidableEq D] in
/-- The saved attributes of a serialized NIC with a network. -/
theorem lookup_jsondata {object : Item} (hobject : ser.object = some object) (hnet : (get object "net").falsy = false)
    (k : String) :
    ser.jsondata.lookup k =
      if k ∈ dummy_attributes then none
      else if (get object "ip").falsy && ser._net.any (·.dhcp_passthrough) && (k = "netmask" || k = "gateway") then none
      else if (get object "ip").falsy && ser._net.any (·.dhcp_passthrough) && k = "ip" then some (.str "dhcp")
      else if k = "network_uuid" then some (.str ((ser._net.map Subnet.uuid).getD ""))
      else object.lookup k := by
  unfold VmDefineNicSerializer.jsondata
  rw [hobject, Option.getD_some]
  simp only [hnet, Bool.false_eq_true, if_false]
  generalize hdata : AList.erase "set_gateway" _ = saved
  have hsaved : ∀ k, saved.lookup k = if k ∈ dummy_attributes then none
      else if k = "network_uuid" then some (.str ((ser._net.map Subnet.uuid).getD "")) else object.lookup k := by
    intro k
    simp only [← hdata, Dict.lookup_erase_ite, Dict.lookup_insert_ite, dummy_attributes, List.mem_cons, List.not_mem_nil,
      or_false]
    split_ifs <;> simp_all
  have hip : get saved "ip" = get object "ip" := by
    rw [get, hsaved, if_neg (by decide), if_neg (by decide)]
    rfl
  rw [hip]
  cases hdhcp : (get object "ip").falsy && ser._net.any (·.dhcp_passthrough) with
  | false => simp [hsaved]
  | true =>
    simp only [if_true, Dict.lookup_erase_ite, Dict.lookup_insert_ite, hsaved, Bool.true_and]
    by_cases hk : k ∈ dummy_attributes
    · rw [if_pos hk]
      have hgateway : k ≠ "gateway" := fun h => absurd (h ▸ hk) (by decide)
      have hnetmask : k ≠ "netmask" := fun h => absurd (h ▸ hk) (by decide)
      have hne : k ≠ "ip" := fun h => absurd (h ▸ hk) (by decide)
      simp [hgateway, hnetmask, hne, hk]
    · rw [if_neg hk]
      split_ifs <;> simp_all

/-- The network, and the address as it was sent, as it was kept, or none on a network with `dhcp_passthrough`. -/
theorem validate_spec {ser' : VmDefineNicSerializer U} (hattrs : ser.attrs = data.attrs)
    (hvalid : validate db req vm data ser = .ok ser') :
    ser._net ≠ none ∧ ser'.object = ser.object ∧ ser'._net = ser._net ∧ ser'.attrs.lookup "net" = data.net.map .str ∧
      (∀ ip, data.ip.filter (· ≠ "") = some ip → ser'.attrs.lookup "ip" = some (.str ip)) ∧
      (data.ip.filter (· ≠ "") = none → (∃ a, ser._ip = .address a) → ser._net_old = none → data.ip = none →
        ser'.attrs.lookup "ip" = none) ∧
      (data.ip.filter (· ≠ "") = none → ¬ ((∃ a, ser._ip = .address a) ∧ ser._net_old = none ∧ data.ip = none) →
        ser._net.any (·.dhcp_passthrough) = true → ser'.attrs.lookup "ip" = some .null) := by
  unfold validate at hvalid
  cases hnet : ser._net with
  | none =>
    rw [hnet] at hvalid
    cases hvalid
  | some net =>
    rw [hnet] at hvalid
    obtain ⟨ser₂, hvalid_ip, hvalid⟩ := bind_eq_ok.mp hvalid
    obtain ⟨ser₃, hvalid_allowed, hvalid⟩ := bind_eq_ok.mp hvalid
    obtain ⟨_, -, hvalid⟩ := bind_eq_ok.mp hvalid
    obtain ⟨ser₄, hvalid_find, hvalid_inherit⟩ := bind_eq_ok.mp hvalid
    obtain ⟨hobject₂, hnet₂, hattrs₂, hsent, hunsent⟩ := validate_ip_spec hvalid_ip
    obtain ⟨hobject₃, hnet₃, hip₃, -, hattrs₃⟩ := validate_allowed_ips_spec hvalid_allowed
    obtain ⟨hobject₄, hnet₄, hattrs₄, hfound, hnot_found⟩ := find_ip_spec hvalid_find
    obtain ⟨hobject₅, hnet₅, -, hattrs₅, hip₅⟩ := inherit_net_spec hvalid_inherit
    have hkept : (∃ a, ser₂._ip = .address a) → ser'.attrs.lookup "ip" = ser₂.attrs.lookup "ip" := by
      intro haddress
      rw [hip₅, hfound (hip₃ ▸ haddress), hattrs₃ "ip" (by decide)]
    have hnull : (¬ ∃ a, ser₂._ip = .address a) → net.dhcp_passthrough = true → ser'.attrs.lookup "ip" = some .null := by
      intro hnone hdhcp
      rw [hip₅, hnot_found (hip₃ ▸ hnone) hdhcp]
    refine ⟨nofun, ?_, ?_, ?_, ?_, ?_, ?_⟩
    · rw [hobject₅, hobject₄, hobject₃, hobject₂]
    · rw [hnet₅, hnet₄, hnet₃, hnet₂, hnet]
    · rw [hattrs₅, hattrs₄, hattrs₃ "net" (by decide), hattrs₂ "net" (by decide), hattrs, lookup_attrs_net]
    · intro ip hip
      obtain ⟨haddress, hattr | hattr⟩ := hsent ip hip
      · rw [hkept haddress, hattr]
      · rw [hkept haddress, hattr, hattrs, lookup_attrs_ip, (Option.filter_eq_some_iff.mp hip).1]
        rfl
    · intro hip haddress hold hnone
      rcases hunsent hip with ⟨hnew, -⟩ | ⟨-, -, hsame⟩
      · exact absurd hnew (not_or.mpr ⟨not_not.mpr hold, not_not.mpr hnone⟩)
      · rw [hkept (hsame ▸ haddress), hsame, hattrs, lookup_attrs_ip, hnone]
        rfl
    · intro hip hnot hdhcp
      apply hnull _ hdhcp
      rcases hunsent hip with ⟨-, hnone⟩ | ⟨hold, hnone, hsame⟩
      · rw [hnone]
        nofun
      · rw [hsame]
        exact fun haddress => hnot ⟨haddress, hold, hnone⟩

omit [DecidableEq U] in
theorem existing_nic_eq {nic_id : ℕ} {nic' : Item} (hnic : vm.nics[nic_id]? = some nic)
    (hexisting : vm.existing_nic nic_id = .ok nic') : nic = nic' := by
  unfold Vm.existing_nic at hexisting
  rw [hnic] at hexisting
  split at hexisting
  · cases hexisting
  · exact Except.ok.inj hexisting

theorem put_serializer_eq_ok {nic_id : ℕ} (hnic : vm.nics[nic_id]? = some nic)
    (hser : put_serializer db req vm nic_id data = .ok ser) :
    ∃ ser₀, fix_before db vm nic = .ok ser₀ ∧ is_valid db req vm nic_id data ser₀ = .ok ser := by
  unfold put_serializer at hser
  obtain ⟨nic', hexisting, hser⟩ := bind_eq_ok.mp hser
  obtain rfl := existing_nic_eq hnic hexisting
  exact bind_eq_ok.mp hser

/-- Which network and address a valid request for an existing NIC ends with. -/
theorem put_serializer_spec {nic_id : ℕ} (hnic : vm.nics[nic_id]? = some nic) (hnames : ∀ net ∈ db.subnets, net.name ≠ "")
    (hser : put_serializer db req vm nic_id data = .ok ser) :
    ∃ object, ser.object = some object ∧ ser._net = new_net db req nic data ∧
      (∀ k, k ≠ "network_uuid" → (nic.lookup k).isSome → (object.lookup k).isSome) ∧
      (get object "net").falsy = false ∧
      ((new_net db req nic data).any (·.dhcp_passthrough) = true →
        (get object "ip").falsy = without_ip db req nic data) := by
  obtain ⟨ser₀, hfix, hser⟩ := put_serializer_eq_ok hnic hser
  obtain ⟨object₀, hobject₀, hnet₀, hold₀, hkeys, hname, haddress, hkept⟩ := fix_before_spec hfix
  unfold is_valid at hser
  obtain ⟨ser₁, hvalid_net, hser⟩ := bind_eq_ok.mp hser
  have hisSome : ({ ser₀ with attrs := data.attrs } : VmDefineNicSerializer U).object.isSome := by
    rw [hobject₀]
    rfl
  obtain ⟨hobject₁, hattrs₁, hip₁, hnet₁, hempty, hunchanged, hsame⟩ :=
    validate_net_spec hisSome hnet₀ hvalid_net
  split at hser
  swap
  · cases hser
  obtain ⟨ser₅, hvalid, hser⟩ := bind_eq_ok.mp hser
  obtain ⟨hnet, hobject₅, hnet₅, hattr_net, hsent, hkeeps, hwithout⟩ := validate_spec hattrs₁ hvalid
  rw [hobject₁, hobject₀] at hobject₅
  rw [hobject₅] at hser
  obtain rfl := Except.ok.inj hser
  refine ⟨Dict.update object₀ ser₅.attrs, rfl, hnet₅.trans hnet₁, ?_, ?_, ?_⟩
  · intro k huuid hk
    obtain ⟨v, hv⟩ := Option.isSome_iff_exists.mp (hkeys k huuid hk)
    rw [Dict.lookup_update, hv]
    cases ser₅.attrs.lookup k <;> rfl
  · rw [get, Dict.lookup_update, hattr_net]
    cases hsent_net : data.net with
    | some value =>
      have hvalue : value ≠ "" := fun h => hempty (by rw [hsent_net, h])
      simp [Value.falsy, hvalue]
    | none =>
      have hstored : new_net db req nic data = stored_net db nic := by rw [new_net, hsent_net]
      rw [hnet₁, hstored] at hnet
      obtain ⟨net, hnet⟩ := Option.ne_none_iff_exists'.mp hnet
      have hvalue := hnames net (stored_net_mem hnet)
      have hobject_net : get object₀ "net" = .str net.name := by
        rw [hname, hnet]
        rfl
      rw [Option.map_none, Option.none_or]
      change (get object₀ "net").falsy = false
      rw [hobject_net]
      simp [Value.falsy, hvalue]
  · intro hdhcp
    have hkeeps_iff : ((∃ a, ser₁._ip = .address a) ∧ ser₁._net_old = none ∧ data.ip = none) ↔
        keeps_ip db nic data = true := by
      simp only [keeps_ip, Bool.and_eq_true, decide_eq_true_eq]
      constructor
      · rintro ⟨hsome, hold, hnone⟩
        rw [hip₁] at hsome
        obtain ⟨hstored, his | hstored_dhcp⟩ := haddress hsome
        · exact ⟨⟨his, hnone⟩, hunchanged hold hstored⟩
        · have hall := hunchanged hold hstored
          rw [← hnet₁, hsame hall] at hdhcp
          exact absurd (hnet₀ ▸ hdhcp) hstored_dhcp
      · rintro ⟨⟨his, hnone⟩, hall⟩
        have hsame := hsame hall
        rw [← hnet₁, hsame] at hdhcp
        rw [hsame]
        exact ⟨(hkept (hnet₀ ▸ hdhcp) his).1, hold₀, hnone⟩
    rw [get, Dict.lookup_update]
    unfold without_ip
    rw [hdhcp, Bool.true_and]
    cases hfilter : data.ip.filter (· ≠ "") with
    | some ip =>
      obtain ⟨hip, hne⟩ := Option.filter_eq_some_iff.mp hfilter
      rw [hsent ip hfilter, hip]
      simp [Value.falsy] at hne ⊢
      simp [hne]
    | none =>
      have hany : data.ip.any (· ≠ "") = false := by
        cases hip : data.ip with
        | none => rfl
        | some ip => simpa [hip] using hfilter
      rw [hany, Bool.not_false, Bool.true_and]
      cases hkeeps_ip : keeps_ip db nic data with
      | true =>
        obtain ⟨hsome, hold, hnone⟩ := hkeeps_iff.mpr hkeeps_ip
        simp only [keeps_ip, Bool.and_eq_true] at hkeeps_ip
        have hsame := hsame hkeeps_ip.2
        rw [← hnet₁, hsame] at hdhcp
        have hstored_ip := (hkept (hnet₀ ▸ hdhcp) hkeeps_ip.1.1).2
        rw [hkeeps hfilter hsome hold hnone, Option.none_or, hstored_ip]
        have his := hkeeps_ip.1.1
        simp only [is_ip, Bool.and_eq_true] at his
        simpa [get] using his.1
      | false =>
        have hnot : ¬ ((∃ a, ser₁._ip = .address a) ∧ ser₁._net_old = none ∧ data.ip = none) := by
          rw [hkeeps_iff, hkeeps_ip]
          decide
        rw [hwithout hfilter hnot (hnet₁ ▸ hdhcp)]
        rfl

/-- The NIC of a `PUT` in the definition that is saved. -/
theorem saved_put_nic {nic_id : ℕ} {addresses : Addresses U} {result : Result U} (hnic : vm.nics[nic_id]? = some nic)
    (hput : saved_put vm nic_id ser addresses = .ok result) :
    result.vm.nics[nic_id]? = some (vm.save_nic nic_id (Dict.update nic ser.jsondata)) := by
  unfold saved_put at hput
  obtain ⟨monitoring_ip, -, hput⟩ := bind_eq_ok.mp hput
  obtain ⟨addresses', -, hput⟩ := bind_eq_ok.mp hput
  obtain rfl := Except.ok.inj hput
  apply save_nics_getElem?
  simp [hnic]

/-- The stored NIC is the serialized one exactly if all of the old one is replaced. -/
theorem save_update_iff {nic_id : ℕ} (hnic : vm.nics[nic_id]? = some nic) (hnames : ∀ net ∈ db.subnets, net.name ≠ "")
    (hser : put_serializer db req vm nic_id data = .ok ser) :
    (∀ key, (vm.save_nic nic_id (Dict.update nic ser.jsondata)).lookup key =
      (vm.save_nic nic_id ser.jsondata).lookup key) ↔ Replaced db req nic data := by
  obtain ⟨object, hobject, hnet, hkeys, hname, hip⟩ := put_serializer_spec hnic hnames hser
  have hjson := lookup_jsondata hobject hname
  have hdropped : ((get object "ip").falsy && ser._net.any (·.dhcp_passthrough)) = without_ip db req nic data := by
    rw [hnet]
    cases hdhcp : (new_net db req nic data).any (·.dhcp_passthrough) with
    | false => simp [without_ip, hdhcp]
    | true => rw [Bool.and_true, hip hdhcp]
  rw [hdropped] at hjson
  simp only [lookup_save_nic, Dict.lookup_update]
  constructor
  · intro hsame
    -- an attribute that is not in the serialized NIC is only lost when it is removed from the old one too
    have hlost : ∀ key, key ≠ "interface" → ser.jsondata.lookup key = none →
        (nic.lookup key).filter (fun value => !removed vm.hvm key value) = none := by
      intro key hkey hnone
      have hkey_same := hsame key
      rw [if_neg hkey, if_neg hkey, hnone, Option.none_or] at hkey_same
      exact hkey_same
    refine ⟨?_, ?_⟩
    · intro key hkey
      have hnone : ser.jsondata.lookup key = none := by rw [hjson, if_pos hkey]
      have hinterface : key ≠ "interface" := fun h => absurd (h ▸ hkey) (by decide)
      have hkept : ∀ value, removed vm.hvm key value = false := by
        intro value
        simp only [dummy_attributes, List.mem_cons, List.not_mem_nil, or_false] at hkey
        rcases hkey with rfl | rfl | rfl | rfl | rfl <;> simp [removed, vms.definition.Vm._NICS_REMOVE_EMPTY]
      have hfilter := hlost key hinterface hnone
      simp only [hkept, Bool.not_false] at hfilter
      cases hlookup : nic.lookup key with
      | none => rfl
      | some value =>
        rw [hlookup] at hfilter
        cases hfilter
    · intro hwithout
      simp only [hwithout, Bool.true_and] at hjson
      constructor
      · have hnone : ser.jsondata.lookup "netmask" = none := by rw [hjson, if_neg (by decide)]; rfl
        have hfilter := hlost "netmask" (by decide) hnone
        cases hlookup : nic.lookup "netmask" with
        | none => rfl
        | some value =>
          rw [hlookup] at hfilter
          simp [Option.filter, removed, vms.definition.Vm._NICS_REMOVE_EMPTY] at hfilter
      · have hnone : ser.jsondata.lookup "gateway" = none := by rw [hjson, if_neg (by decide)]; rfl
        have hfilter := hlost "gateway" (by decide) hnone
        rw [get]
        cases hlookup : nic.lookup "gateway" with
        | none => rfl
        | some value =>
          rw [hlookup] at hfilter
          simpa [Option.filter, removed, vms.definition.Vm._NICS_REMOVE_EMPTY] using hfilter
  · rintro ⟨hdummies, hgone⟩ key
    by_cases hinterface : key = "interface"
    · rw [if_pos hinterface, if_pos hinterface]
    rw [if_neg hinterface, if_neg hinterface]
    cases hlookup : ser.jsondata.lookup key with
    | some value => rfl
    | none =>
      rw [Option.none_or]
      by_cases hdummy : key ∈ dummy_attributes
      · rw [hdummies key hdummy]
      rw [hjson, if_neg hdummy] at hlookup
      split at hlookup
      · case isTrue hcond =>
        rw [Bool.and_eq_true] at hcond
        obtain ⟨hnetmask, hgateway⟩ := hgone hcond.1
        by_cases hkey : key = "netmask"
        · rw [hkey, hnetmask]
        · have hkey : key = "gateway" := by simpa [hkey] using hcond.2
          subst hkey
          rw [get] at hgateway
          cases hold : nic.lookup "gateway" with
          | none => rfl
          | some value =>
            rw [hold] at hgateway
            have hfalsy : value.falsy = true := hgateway
            simp [Option.filter, removed, vms.definition.Vm._NICS_REMOVE_EMPTY, hfalsy]
      · split at hlookup
        · cases hlookup
        · split at hlookup
          · cases hlookup
          · case isFalse huuid =>
            cases hold : nic.lookup key with
            | none => rfl
            | some value =>
              have hsome := hkeys key huuid (by rw [hold]; rfl)
              rw [hlookup] at hsome
              cases hsome

/-- After an accepted `PUT` the NIC in the definition is the serialized one, up to what is removed from every NIC before it is
saved, exactly if all of the old NIC is replaced. -/
theorem put_stores_iff {nic_id : ℕ} {result : Result U} (hnic : vm.nics[nic_id]? = some nic)
    (hnames : ∀ net ∈ db.subnets, net.name ≠ "") (hser : put_serializer db req vm nic_id data = .ok ser)
    (hput : saved_put vm nic_id ser db.addresses = .ok result) :
    (∃ stored, result.vm.nics[nic_id]? = some stored ∧
      ∀ key, stored.lookup key = (vm.save_nic nic_id ser.jsondata).lookup key) ↔ Replaced db req nic data := by
  rw [saved_put_nic hnic hput, ← save_update_iff hnic hnames hser]
  simp

end saved

section examples

def lan : Subnet where
  uuid := "6b5b9a43-0000-0000-0000-000000000001"
  name := "lan"
  unusable := false
  nic_tag := "admin"
  vlan_id := 0
  netmask := "255.255.255.0"
  gateway := some "10.0.0.1"
  resolvers := []
  dhcp_passthrough := false
  vxlan_id := none
  mtu := none

def wan : Subnet where
  uuid := "6b5b9a43-0000-0000-0000-000000000002"
  name := "wan"
  unusable := false
  nic_tag := "external"
  vlan_id := 0
  netmask := "255.255.0.0"
  gateway := none
  resolvers := []
  dhcp_passthrough := true
  vxlan_id := none
  mtu := none

def two_nets : Db ℕ ℕ where
  subnets := [lan, wan]
  addresses := [⟨"10.0.0.5", lan.uuid, some 1, [], .vm⟩]
  dc := fun _ => 0

def no_data : Data where
  mac := none
  model := none
  net := none
  ip := none
  primary := none
  dns := none
  use_net_dns := none
  allow_dhcp_spoofing := none
  allow_ip_spoofing := none
  allow_mac_spoofing := none
  allow_restricted_traffic := none
  allow_unfiltered_promisc := none
  allowed_ips := none
  monitoring := none
  set_gateway := none

def any_net : Request where
  is_staff := false
  get_subnets := fun _ => true
  defaults := no_data
  pick := 0
  VMS_VM_RESOLVERS_DEFAULT := []

def lan_nic : Item :=
  ((((((∅ : Item).insert "network_uuid" (.str lan.uuid)).insert "ip" (.str "10.0.0.5")).insert "netmask"
    (.str "255.255.255.0")).insert "gateway" (.str "10.0.0.1")).insert "model" (.str "virtio")).insert "interface"
    (.str "net0")

def lan_vm : Vm ℕ where
  uuid := 1
  is_deployed := false
  hvm := true
  is_linux_zone := false
  monitoring_ip := ""
  resolvers := []
  nictags := none
  records_A := []
  nics := [lan_nic]
  active_nics := []

/-- The serializer and the result of a `PUT` of the first NIC. -/
def put_lan_nic (data : Data) : Except Error (VmDefineNicSerializer ℕ × Result ℕ) := do
  let ser ← put_serializer two_nets any_net lan_vm 0 data
  return (ser, ← saved_put lan_vm 0 ser two_nets.addresses)

theorem put_stores_iff_primary :
    ∃ (ser : VmDefineNicSerializer ℕ) (result : Result ℕ),
      put_serializer two_nets any_net lan_vm 0 { no_data with primary := some true } = .ok ser ∧
        saved_put lan_vm 0 ser two_nets.addresses = .ok result ∧
          ((∃ stored : Item, result.vm.nics[0]? = some stored ∧
            ∀ key, stored.lookup key = (lan_vm.save_nic 0 ser.jsondata).lookup key) ↔
              Replaced two_nets any_net lan_nic { no_data with primary := some true }) := by
  obtain ⟨ser, hser, hput⟩ := bind_eq_ok.mp (rfl : put_lan_nic { no_data with primary := some true } = .ok _)
  obtain ⟨result, hsaved, -⟩ := bind_eq_ok.mp hput
  exact ⟨ser, result, hser, hsaved, put_stores_iff rfl (by decide) hser hsaved⟩

/-- A NIC that is moved to a network without addresses keeps the netmask and the gateway of the old network. -/
theorem not_stored_moved :
    ∃ (ser : VmDefineNicSerializer ℕ) (result : Result ℕ),
      put_serializer two_nets any_net lan_vm 0 { no_data with net := some "wan" } = .ok ser ∧
        saved_put lan_vm 0 ser two_nets.addresses = .ok result ∧
        ¬ ∃ stored : Item, result.vm.nics[0]? = some stored ∧
          ∀ key, stored.lookup key = (lan_vm.save_nic 0 ser.jsondata).lookup key := by
  obtain ⟨ser, hser, hput⟩ := bind_eq_ok.mp (rfl : put_lan_nic { no_data with net := some "wan" } = .ok _)
  obtain ⟨result, hsaved, -⟩ := bind_eq_ok.mp hput
  refine ⟨ser, result, hser, hsaved, ?_⟩
  have hnic : lan_vm.nics[0]? = some lan_nic := rfl
  rw [saved_put_nic hnic hsaved]
  rintro ⟨stored, hstored, hsame⟩
  obtain rfl := Option.some.inj hstored
  have hreplaced := (save_update_iff hnic (by decide) hser).mp hsame
  exact absurd (hreplaced.2 (by decide +kernel)).1 (by decide +kernel)

end examples

end api.vm.define.nic
