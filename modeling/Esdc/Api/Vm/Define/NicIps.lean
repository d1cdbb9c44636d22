import Mathlib
import Esdc.Api.Vm.Define.NicSaved
import Esdc.Api.Vm.Define.NicRuns

namespace api.vm.define.nic

open Fallible (bind_eq_ok)
open vms.definition (Item Value)
open vms.ipaddress (IPAddress Usage)

variable {U D : Type} [DecidableEq U] [DecidableEq D]

section specification

/-- An address of the VM that is still set on the hypervisor. -/
def Lost (vm : Vm U) (ip : Address U) : Prop := ip.usage = .vm_real ∧ ip.vm = some vm.uuid

/-- The address that is asked for is a lost one. -/
def LostIp (db : Db U D) (vm : Vm U) (net : Option Subnet) (data : Data) : Prop :=
  ∃ ip row, data.ip.filter (· ≠ "") = some ip ∧ db.get_address ip net = some row ∧ Lost vm row

/-- One of the allowed addresses that are asked for is a lost one. -/
def LostAllowed (db : Db U D) (vm : Vm U) (net : Option Subnet) (data : Data) : Prop :=
  ∃ row ∈ db.filter_addresses (data.allowed_ips.getD []) net, Lost vm row

/-- The network of a new NIC. -/
def post_net (db : Db U D) (req : Request) (data : Data) : Option Subnet :=
  data.net.bind fun value => db.subnets.find? fun net => req.get_subnets net && net.name = value

/-- The address of a NIC in the definition. -/
def stored_address (db : Db U D) (nic : Item) : Option (Address U) :=
  if (get nic "ip").falsy then none
  else if (stored_net db nic).any (·.dhcp_passthrough) && get nic "ip" = .str "dhcp" then none
  else db.addresses.find? fun row => .str row.ip = get nic "ip" && some row.subnet = (stored_net db nic).map Subnet.uuid

/-- The address of a NIC is to be replaced by a lost one. -/
def LostOther (db : Db U D) (req : Request) (vm : Vm U) (nic : Item) (data : Data) : Prop :=
  ∃ ip row old, data.ip.filter (· ≠ "") = some ip ∧ db.get_address ip (new_net db req nic data) = some row ∧
    stored_address db nic = some old ∧ (old.ip ≠ row.ip ∨ old.subnet ≠ row.subnet) ∧ Lost vm row

end specification

section associations

variable {db : Db U D} {req : Request} {vm vm' : Vm U} {nic : Item} {data : Data} {ser ser' : VmDefineNicSerializer U}

/-- An address that may be used has no VM, or it is a lost one. -/
theorem vm_of_not_used {ip : Address U} {allowed_ips : Bool} (hfree : _check_ip_usage db vm ip allowed_ips = false) :
    ip.vm ≠ none ↔ Lost vm ip := by
  unfold _check_ip_usage at hfree
  unfold Lost
  constructor
  · intro hvm
    split at hfree
    · case isTrue hlost => simpa using hlost
    · simp at hfree
  · rintro ⟨-, hvm⟩
    rw [hvm]
    nofun

/-- Associations fail at the first address that has a VM. -/
theorem create_all_iff {many : Bool} {ips : List (Address U)} {addresses : Addresses U} :
    (∃ addresses', ips.foldlM (_create_vm_ip_association vm many) addresses = .ok addresses') ↔ ∀ ip ∈ ips, ip.vm = none := by
  induction ips generalizing addresses with
  | nil => exact iff_of_true ⟨addresses, rfl⟩ nofun
  | cons ip ips ih =>
    rw [List.forall_mem_cons, List.foldlM_cons]
    by_cases hvm : ip.vm = none
    · cases many with
      | true =>
        simp only [_create_vm_ip_association, hvm, ne_eq, not_true_eq_false, if_false, if_true, true_and]
        exact ih
      | false =>
        simp only [_create_vm_ip_association, hvm, ne_eq, not_true_eq_false, if_false, true_and]
        exact ih
    · refine iff_of_false ?_ fun h => hvm h.1
      rintro ⟨addresses', h⟩
      simp [_create_vm_ip_association, hvm, Bind.bind, Except.bind] at h

theorem bind_succeeds {ε α β : Type} {x : Except ε α} {f : α → Except ε β} {q : Prop}
    (hf : ∀ a, (∃ b, f a = .ok b) ↔ q) : (∃ b, (x >>= f) = .ok b) ↔ (∃ a, x = .ok a) ∧ q := by
  simp only [bind_eq_ok]
  constructor
  · rintro ⟨b, a, hx, hb⟩
    exact ⟨⟨a, hx⟩, (hf a).mp ⟨b, hb⟩⟩
  · rintro ⟨⟨a, hx⟩, hq⟩
    obtain ⟨b, hb⟩ := (hf a).mpr hq
    exact ⟨b, a, hx, hb⟩

theorem save_primary_iff {update : Bool} {addresses : Addresses U} :
    (∃ addresses', ser.save_primary vm false update addresses = .ok addresses') ↔
      (update = false ∨ ser._ip_old.toList ≠ [] → ∀ ip ∈ ser._ip.toList, ip.vm = none) := by
  have hcond : (!update || decide (ser._ip_old.toList ≠ [])) = true ↔ update = false ∨ ser._ip_old.toList ≠ [] := by
    simp
  unfold VmDefineNicSerializer.save_primary
  split
  · case isTrue h =>
    rw [imp_iff_right (hcond.mp h)]
    exact create_all_iff
  · case isFalse h => exact iff_of_true ⟨addresses, rfl⟩ fun hnew => absurd (hcond.mpr hnew) h

theorem save_allowed_ips_iff (addresses : Addresses U) :
    (∃ addresses', ser.save_allowed_ips vm false addresses = .ok addresses') ↔
      (ser._changing_allowed_ips = true → ∀ ip ∈ ser._ips, ip.vm = none) := by
  unfold VmDefineNicSerializer.save_allowed_ips
  split
  · case isTrue h =>
    rw [imp_iff_right h]
    exact create_all_iff
  · case isFalse h => exact iff_of_true ⟨addresses, rfl⟩ fun hchanging => absurd hchanging h

/-- Which addresses must be without a VM when those of a NIC are saved. -/
theorem save_ip_iff {update : Bool} {addresses : Addresses U} (hip : ser._ip ≠ .none) :
    (∃ addresses', ser.save_ip vm false update addresses = .ok addresses') ↔
      (update = false ∨ ser._ip_old.toList ≠ [] → ∀ ip ∈ ser._ip.toList, ip.vm = none) ∧
        (ser._changing_allowed_ips = true → ∀ ip ∈ ser._ips, ip.vm = none) := by
  have hprimary : (∃ addresses', ser.save_primary vm false update addresses = .ok addresses') ↔
      (update = false ∨ ser._ip_old.toList ≠ [] → ∀ ip ∈ ser._ip.toList, ip.vm = none) := save_primary_iff
  rw [← hprimary]
  have hsave : ser.save_ip vm false update addresses = (do
      let addresses ← ser.save_primary vm false update addresses
      ser.save_allowed_ips vm false addresses) := by
    unfold VmDefineNicSerializer.save_ip
    split
    · case h_1 h => exact absurd h hip
    · rfl
  rw [hsave]
  exact bind_succeeds save_allowed_ips_iff

omit [DecidableEq U] in
theorem differs_iff {ip : Ip U} {row : Address U} :
    ip.differs row = true ↔ ∃ old, ip = .address old ∧ (old.ip ≠ row.ip ∨ old.subnet ≠ row.subnet) := by
  cases ip with
  | none => exact iff_of_false nofun nofun
  | dhcp => exact iff_of_false nofun nofun
  | address old => simp [Ip.differs]

omit [DecidableEq U] in
theorem has_iff {ip : Ip U} {value : String} : ip.has value = true ↔ ∃ old, ip = .address old ∧ old.ip = value := by
  cases ip with
  | none => exact iff_of_false nofun nofun
  | dhcp => exact iff_of_false nofun nofun
  | address old => simp [Ip.has]

/-- The cases of `validate_ip`: the same address again, another one, one to be found, or the one that was there. -/
theorem validate_ip_cases (hvalid : validate_ip db vm data ser = .ok ser') :
    ser'._net = ser._net ∧ ser'._ips = ser._ips ∧ ser'._changing_allowed_ips = ser._changing_allowed_ips ∧
      ((∃ ip, data.ip.filter (· ≠ "") = some ip ∧ ser.object.isSome = true ∧ ser._net_old = none ∧
          ser._ip.has ip = true ∧ ser' = ser) ∨
        (∃ ip row, data.ip.filter (· ≠ "") = some ip ∧ db.get_address ip ser._net = some row ∧
          _check_ip_usage db vm row false = false ∧ ser'._ip = .address row ∧
          ser'._ip_old = if ser._ip.differs row then ser._ip else ser._ip_old) ∨
        (data.ip.filter (· ≠ "") = none ∧ (ser._net_old ≠ none ∨ data.ip ≠ none) ∧ ser'._ip = .none ∧
          ser'._ip_old = ser._ip) ∨
        (data.ip.filter (· ≠ "") = none ∧ ser._net_old = none ∧ data.ip = none ∧ ser' = ser)) := by
  unfold validate_ip at hvalid
  cases hsent : data.ip.filter (· ≠ "") with
  | some ip =>
    rw [hsent] at hvalid
    simp only at hvalid
    split at hvalid
    · case isTrue hhas =>
      obtain rfl := Except.ok.inj hvalid
      simp only [Bool.and_eq_true, decide_eq_true_eq] at hhas
      exact ⟨rfl, rfl, rfl, .inl ⟨ip, rfl, hhas.1.1, hhas.1.2, hhas.2, rfl⟩⟩
    · cases hfind : db.get_address ip ser._net with
      | none =>
        rw [hfind] at hvalid
        cases hvalid
      | some row =>
        rw [hfind] at hvalid
        simp only at hvalid
        split at hvalid
        · cases hvalid
        · case isFalse hfree =>
          obtain rfl := Except.ok.inj hvalid
          rw [Bool.not_eq_true] at hfree
          exact ⟨rfl, rfl, rfl, .inr (.inl ⟨ip, row, rfl, hfind, hfree, rfl, rfl⟩)⟩
  | none =>
    rw [hsent] at hvalid
    simp only at hvalid
    split at hvalid
    · case isTrue hnew =>
      obtain rfl := Except.ok.inj hvalid
      rw [Bool.or_eq_true, decide_eq_true_eq, decide_eq_true_eq] at hnew
      exact ⟨rfl, rfl, rfl, .inr (.inr (.inl ⟨rfl, hnew, rfl, rfl⟩))⟩
    · case isFalse hkept =>
      obtain rfl := Except.ok.inj hvalid
      simp only [Bool.or_eq_true, decide_eq_true_eq, not_or, not_not] at hkept
      exact ⟨rfl, rfl, rfl, .inr (.inr (.inr ⟨rfl, hkept.1, hkept.2, rfl⟩))⟩

/-- The allowed addresses can be associated when none of them is lost. -/
theorem validate_allowed_ips_iff (hchanging : ser._changing_allowed_ips = false)
    (hvalid : validate_allowed_ips db vm data ser = .ok ser') :
    (ser'._changing_allowed_ips = true → ∀ ip ∈ ser'._ips, ip.vm = none) ↔ ¬ LostAllowed db vm ser._net data := by
  have hdedup : db.filter_addresses (data.allowed_ips.getD []).dedup ser._net =
      db.filter_addresses (data.allowed_ips.getD []) ser._net := by
    simp only [Db.filter_addresses, List.mem_dedup]
  unfold validate_allowed_ips at hvalid
  simp only [hdedup] at hvalid
  by_cases hempty : (data.allowed_ips.getD []).dedup = []
  · have hnone : ¬ LostAllowed db vm ser._net data := by
      rintro ⟨row, hmem, -⟩
      rw [← hdedup, hempty] at hmem
      simp [Db.filter_addresses] at hmem
    refine iff_of_true ?_ hnone
    rw [if_neg (not_not.mpr hempty)] at hvalid
    split at hvalid
    · obtain rfl := Except.ok.inj hvalid
      intro _ ip hip
      cases hip
    · obtain rfl := Except.ok.inj hvalid
      intro h
      rw [hchanging] at h
      cases h
  · rw [if_pos hempty] at hvalid
    split at hvalid
    · cases hvalid
    · case isFalse hfree =>
      obtain rfl := Except.ok.inj hvalid
      simp only [Bool.or_eq_true, not_or, List.any_eq_true, not_exists, not_and, Bool.not_eq_true] at hfree
      simp only [LostAllowed, not_exists, not_and, forall_const]
      apply forall₂_congr
      intro row hrow
      rw [← vm_of_not_used (hfree.2 row hrow), not_not]

omit [DecidableEq U] [DecidableEq D] in
/-- An address that is found for a NIC has no VM. -/
theorem find_ip_cases {net : Subnet} (hvalid : find_ip db req net data ser = .ok ser') :
    ser'._ip_old = ser._ip_old ∧ ser'._ips = ser._ips ∧ ser'._changing_allowed_ips = ser._changing_allowed_ips ∧
      ser'._ip ≠ .none ∧ ((∃ a, ser._ip = .address a ∧ ser'._ip = .address a) ∨
        (¬ ∃ a, ser._ip = .address a) ∧ ∀ ip ∈ ser'._ip.toList, ip.vm = none) := by
  unfold find_ip at hvalid
  split at hvalid
  · case h_1 a hip =>
    obtain rfl := Except.ok.inj hvalid
    refine ⟨rfl, rfl, rfl, ?_, .inl ⟨a, hip, hip⟩⟩
    rw [hip]
    nofun
  · case h_2 hip =>
    have hnone : ¬ ∃ a, ser._ip = .address a := fun ⟨a, ha⟩ => hip a ha
    split at hvalid
    · obtain rfl := Except.ok.inj hvalid
      exact ⟨rfl, rfl, rfl, nofun, .inr ⟨hnone, nofun⟩⟩
    · simp only at hvalid
      split at hvalid
      · cases hvalid
      · case h_2 row hrow =>
        obtain rfl := Except.ok.inj hvalid
        refine ⟨rfl, rfl, rfl, nofun, .inr ⟨hnone, ?_⟩⟩
        have hfree := List.mem_of_getElem? hrow
        simp only [Db.free_addresses, List.mem_filter, Bool.and_eq_true, decide_eq_true_eq] at hfree
        intro ip hip
        rw [List.mem_singleton.mp hip]
        exact hfree.2.1.1.1.2

omit [DecidableEq U] [DecidableEq D] in
theorem inherit_net_ips {net : Subnet} (hvalid : inherit_net req net data ser = .ok ser') :
    ser'._ip = ser._ip ∧ ser'._ip_old = ser._ip_old ∧ ser'._ips = ser._ips ∧
      ser'._changing_allowed_ips = ser._changing_allowed_ips := by
  unfold inherit_net at hvalid
  obtain ⟨set_gateway, -, hvalid⟩ := bind_eq_ok.mp hvalid
  obtain rfl := Except.ok.inj hvalid
  exact ⟨rfl, rfl, rfl, rfl⟩

/-- The addresses of a valid request: one that was kept, one that was asked for and may be used, or a free one. -/
theorem validate_ips (hchanging : ser._changing_allowed_ips = false) (hvalid : validate db req vm data ser = .ok ser') :
    ser'._ip ≠ .none ∧
      ((ser'._changing_allowed_ips = true → ∀ ip ∈ ser'._ips, ip.vm = none) ↔ ¬ LostAllowed db vm ser._net data) ∧
      ((∃ ip, data.ip.filter (· ≠ "") = some ip ∧ ser.object.isSome = true ∧ ser._net_old = none ∧
          ser._ip.has ip = true ∧ ser'._ip = ser._ip ∧ ser'._ip_old = ser._ip_old) ∨
        (∃ ip row, data.ip.filter (· ≠ "") = some ip ∧ db.get_address ip ser._net = some row ∧
          (row.vm ≠ none ↔ Lost vm row) ∧ ser'._ip = .address row ∧
          ser'._ip_old = if ser._ip.differs row then ser._ip else ser._ip_old) ∨
        (data.ip.filter (· ≠ "") = none ∧ (ser._net_old ≠ none ∨ data.ip ≠ none) ∧ ser'._ip_old = ser._ip ∧
          ∀ ip ∈ ser'._ip.toList, ip.vm = none) ∨
        (data.ip.filter (· ≠ "") = none ∧ ser._net_old = none ∧ data.ip = none ∧ ser'._ip_old = ser._ip_old ∧
          ((∃ a, ser._ip = .address a ∧ ser'._ip = .address a) ∨
            (¬ ∃ a, ser._ip = .address a) ∧ ∀ ip ∈ ser'._ip.toList, ip.vm = none))) := by
  unfold validate at hvalid
  cases hnet : ser._net with
  | none =>
    rw [hnet] at hvalid
    cases hvalid
  | some net =>
    rw [hnet] at hvalid
    obtain ⟨ser₂, hvalid_ip, hvalid⟩ := bind_eq_ok.mp hvalid
    obtain ⟨ser₃, hvalid_allowed, hvalid⟩ := bind_eq_ok.mp hvalid
    obtain ⟨_, -, hvalid⟩ := bind_eq_ok.mp hvalid
    obtain ⟨ser₄, hvalid_find, hvalid_inherit⟩ := bind_eq_ok.mp hvalid
    obtain ⟨hnet₂, -, hchanging₂, hcases⟩ := validate_ip_cases hvalid_ip
    have hallowed := validate_allowed_ips_iff (hchanging₂.trans hchanging) hvalid_allowed
    obtain ⟨-, -, hip₃, hold₃, -⟩ := validate_allowed_ips_spec hvalid_allowed
    obtain ⟨hold₄, hips₄, hchanging₄, hsome, hfound⟩ := find_ip_cases hvalid_find
    obtain ⟨hip₅, hold₅, hips₅, hchanging₅⟩ := inherit_net_ips hvalid_inherit
    have hold : ser'._ip_old = ser₂._ip_old := by rw [hold₅, hold₄, hold₃]
    rw [hip₃] at hfound
    refine ⟨hip₅ ▸ hsome, ?_, ?_⟩
    · rw [hchanging₅, hchanging₄, hips₅, hips₄, hallowed, hnet₂, hnet]
    · rw [hip₅, hold]
      rcases hcases with ⟨ip, hsent, hobject, hold_net, hhas, rfl⟩ | ⟨ip, row, hsent, hrow, hfree, hip₂, hold₂⟩ |
        ⟨hnone, hnew, hip₂, hold₂⟩ | ⟨hnone, hold_net, hdata, rfl⟩
      · refine .inl ⟨ip, hsent, hobject, hold_net, hhas, ?_, rfl⟩
        obtain ⟨a, ha, -⟩ := has_iff.mp hhas
        rcases hfound with ⟨a', ha', hfound⟩ | ⟨hnot, -⟩
        · rw [hfound, ha']
        · exact absurd ⟨a, ha⟩ hnot
      · right
        left
        refine ⟨ip, row, hsent, hnet ▸ hrow, vm_of_not_used hfree, ?_, hold₂⟩
        rcases hfound with ⟨a, ha, hfound⟩ | ⟨hnot, -⟩
        · rw [hip₂] at ha
          rw [hfound, ← ha]
        · exact absurd ⟨row, hip₂⟩ hnot
      · rcases hfound with ⟨a, ha, -⟩ | ⟨-, hfree⟩
        · rw [hip₂] at ha
          cases ha
        · exact .inr (.inr (.inl ⟨hnone, hnew, hold₂, hfree⟩))
      · exact .inr (.inr (.inr ⟨hnone, hold_net, hdata, rfl, hfound⟩))

omit [DecidableEq U] [DecidableEq D] in
theorem fix_before_ips (hfix : fix_before db vm nic = .ok ser) :
    ser._ip_old = .none ∧ ser._changing_allowed_ips = false ∧
      ∀ a, ser._ip = .address a ↔ stored_address db nic = some a := by
  unfold fix_before at hfix
  obtain ⟨⟨nic₁, net⟩, hnet, hfix⟩ := bind_eq_ok.mp hfix
  obtain ⟨⟨nic₂, _ip⟩, hip, hfix⟩ := bind_eq_ok.mp hfix
  obtain ⟨rfl, hsame, -⟩ := fix_net_spec hnet
  obtain rfl := Except.ok.inj hfix
  have hget : get (set_missing nic₁) "ip" = get nic "ip" := by
    rw [get, lookup_set_missing (by decide) (by decide) (by decide), hsame "ip" (by decide) (by decide)]
    rfl
  refine ⟨rfl, rfl, ?_⟩
  intro a
  unfold fix_ip at hip
  unfold stored_address
  rw [hget] at hip
  split at hip
  · case isTrue h =>
    obtain ⟨-, rfl⟩ := Prod.mk.inj (Except.ok.inj hip)
    rw [if_pos h]
    exact iff_of_false (fun h => by cases h) (fun h => by cases h)
  · case isFalse h =>
    rw [if_neg h]
    split at hip
    · case isTrue h =>
      obtain ⟨-, rfl⟩ := Prod.mk.inj (Except.ok.inj hip)
      rw [if_pos h]
      exact iff_of_false (fun h => by cases h) (fun h => by cases h)
    · case isFalse h =>
      rw [if_neg h]
      split at hip
      · cases hip
      · case h_2 row hrow =>
        obtain ⟨-, rfl⟩ := Prod.mk.inj (Except.ok.inj hip)
        rw [hrow]
        simp

omit [DecidableEq U] [DecidableEq D] in
theorem validate_net_ips (hvalid : validate_net db req vm data ser = .ok ser') :
    ser'._ip = ser._ip ∧ ser'._ip_old = ser._ip_old ∧ ser'._changing_allowed_ips = ser._changing_allowed_ips := by
  unfold validate_net at hvalid
  split at hvalid
  · obtain rfl := Except.ok.inj hvalid
    exact ⟨rfl, rfl, rfl⟩
  · split at hvalid
    · cases hvalid
    · split at hvalid
      · obtain rfl := Except.ok.inj hvalid
        exact ⟨rfl, rfl, rfl⟩
      · split at hvalid
        · cases hvalid
        · split at hvalid
          · cases hvalid
          · obtain ⟨_, -, hvalid⟩ := bind_eq_ok.mp hvalid
            split at hvalid
            · obtain rfl := Except.ok.inj hvalid
              exact ⟨rfl, rfl, rfl⟩
            · split at hvalid
              · cases hvalid
              · obtain rfl := Except.ok.inj hvalid
                exact ⟨rfl, rfl, rfl⟩

omit [DecidableEq U] [DecidableEq D] in
theorem validate_net_new (hobject : ser.object = none) (hnet : ser._net = none)
    (hvalid : validate_net db req vm data ser = .ok ser') : ser'.object = none ∧ ser'._net = post_net db req data := by
  unfold validate_net at hvalid
  unfold post_net
  split at hvalid
  · case h_1 hdata =>
    obtain rfl := Except.ok.inj hvalid
    rw [hdata]
    exact ⟨hobject, hnet⟩
  · case h_2 value hdata =>
    rw [hdata, Option.bind_some]
    split at hvalid
    · cases hvalid
    · rw [hobject] at hvalid
      simp only [Option.isSome_none, Bool.false_and, Bool.false_eq_true, if_false] at hvalid
      split at hvalid
      · cases hvalid
      · case h_2 net hfind =>
        split at hvalid
        · cases hvalid
        · obtain ⟨_, -, hvalid⟩ := bind_eq_ok.mp hvalid
          obtain rfl := Except.ok.inj hvalid
          exact ⟨rfl, hfind.symm⟩

/-- The serializer after a valid request, by that after `validate_net` and that after `validate`. -/
theorem is_valid_ips {nic_id : ℕ} (hvalid : is_valid db req vm nic_id data ser = .ok ser') :
    ∃ ser₁ ser₂, validate_net db req vm data { ser with attrs := data.attrs } = .ok ser₁ ∧
      validate db req vm data ser₁ = .ok ser₂ ∧ ser'._ip = ser₂._ip ∧ ser'._ip_old = ser₂._ip_old ∧
        ser'._ips = ser₂._ips ∧ ser'._changing_allowed_ips = ser₂._changing_allowed_ips := by
  unfold is_valid at hvalid
  obtain ⟨ser₁, hvalid_net, hvalid⟩ := bind_eq_ok.mp hvalid
  split at hvalid
  · obtain ⟨ser₂, hvalidate, hser'⟩ := bind_eq_ok.mp hvalid
    obtain rfl := Except.ok.inj hser'
    exact ⟨ser₁, ser₂, hvalid_net, hvalidate, rfl, rfl, rfl, rfl⟩
  · cases hvalid

omit [DecidableEq U] [DecidableEq D] in
theorem get_address_spec {ip : String} {net : Option Subnet} {row : Address U} (hrow : db.get_address ip net = some row) :
    row.ip = ip ∧ some row.subnet = net.map Subnet.uuid := by
  have hcond := List.find?_some hrow
  simpa using hcond

omit [DecidableEq U] [DecidableEq D] in
theorem stored_address_subnet {old : Address U} (hold : stored_address db nic = some old) :
    some old.subnet = (stored_net db nic).map Subnet.uuid := by
  unfold stored_address at hold
  split at hold
  · cases hold
  · split at hold
    · cases hold
    · have hcond := List.find?_some hold
      rw [Bool.and_eq_true, decide_eq_true_eq, decide_eq_true_eq] at hcond
      exact hcond.2

omit [DecidableEq U] [DecidableEq D] in
theorem new_net_eq_stored_net (hall : data.net.all (fun value => (stored_net db nic).any (·.name = value)) = true) :
    new_net db req nic data = stored_net db nic := by
  unfold new_net
  cases hnet : data.net with
  | none => rfl
  | some value =>
    rw [hnet, Option.all_some] at hall
    exact if_pos hall

/-- The addresses of an existing NIC are saved unless a lost one is asked for. -/
theorem update_ip_iff {nic_id : ℕ} {addresses : Addresses U} (hnic : vm.nics[nic_id]? = some nic)
    (hser : put_serializer db req vm nic_id data = .ok ser) :
    (∃ addresses', ser.save_ip vm' false true addresses = .ok addresses') ↔
      ¬ LostOther db req vm nic data ∧ ¬ LostAllowed db vm (new_net db req nic data) data := by
  obtain ⟨ser₀, hfix, hser⟩ := put_serializer_eq_ok hnic hser
  obtain ⟨object₀, hobject₀, hnet₀, -, -, -, haddress, -⟩ := fix_before_spec hfix
  obtain ⟨hold₀, hchanging₀, hstored⟩ := fix_before_ips hfix
  obtain ⟨ser₁, ser₂, hvalid_net, hvalid, hip, hold, hips, hchanging⟩ := is_valid_ips hser
  have hisSome : ({ ser₀ with attrs := data.attrs } : VmDefineNicSerializer U).object.isSome := by
    rw [hobject₀]
    rfl
  obtain ⟨-, -, -, hnet₁, -, hunchanged, -⟩ :=
    validate_net_spec hisSome hnet₀ hvalid_net
  obtain ⟨hip₁, hold₁, hchanging₁⟩ := validate_net_ips hvalid_net
  have hold₁ : ser₁._ip_old = .none := hold₁.trans hold₀
  have hip₁ : ser₁._ip = ser₀._ip := hip₁
  obtain ⟨hne, hallowed, hcases⟩ := validate_ips (hchanging₁.trans hchanging₀) hvalid
  rw [hnet₁] at hallowed hcases
  rw [save_ip_iff (hip ▸ hne), hip, hold, hips, hchanging, hallowed]
  refine and_congr_left fun _ => ?_
  rcases hcases with ⟨ip, hsent, -, hold_net, hhas, -, hold₂⟩ | ⟨ip, row, hsent, hrow, hlost, hip₂, hold₂⟩ | hcases
  · refine iff_of_true ?_ ?_
    · rw [hold₂, hold₁]
      rintro (h | h)
      · cases h
      · exact absurd rfl h
    · rintro ⟨ip', row, old, hsent', hrow, hold, hother, -⟩
      obtain rfl := Option.some.inj (hsent.symm.trans hsent')
      obtain ⟨hrow_ip, hrow_net⟩ := get_address_spec hrow
      obtain ⟨old', hold', hhas⟩ := has_iff.mp hhas
      rw [hip₁, (hstored old).mpr hold] at hold'
      obtain rfl := Ip.address.inj hold'
      have hsame := hunchanged hold_net (haddress ⟨old, (hstored old).mpr hold⟩).1
      rw [new_net_eq_stored_net hsame, ← stored_address_subnet hold] at hrow_net
      rcases hother with hother | hother
      · exact hother (hhas.trans hrow_ip.symm)
      · exact hother (Option.some.inj hrow_net).symm
  · rw [hip₂, hold₂]
    by_cases hdiffers : ser₁._ip.differs row = true
    · rw [if_pos hdiffers]
      obtain ⟨old, hold, hother⟩ := differs_iff.mp hdiffers
      have hassociated : (true = false ∨ ser₁._ip.toList ≠ [] → ∀ ip ∈ (Ip.address row).toList, ip.vm = none) ↔
          row.vm = none := by
        simp [hold, Ip.toList]
      rw [hassociated, ← not_not (a := row.vm = none), ← ne_eq, hlost]
      apply not_congr
      constructor
      · intro h
        exact ⟨ip, row, old, hsent, hrow, (hstored old).mp (hip₁ ▸ hold), hother, h⟩
      · rintro ⟨ip', row', old', hsent', hrow', -, -, h⟩
        obtain rfl := Option.some.inj (hsent.symm.trans hsent')
        obtain rfl := Option.some.inj (hrow.symm.trans hrow')
        exact h
    · rw [if_neg hdiffers, hold₁]
      refine iff_of_true ?_ ?_
      · rintro (h | h)
        · cases h
        · exact absurd rfl h
      · rintro ⟨ip', row', old, hsent', hrow', hold, hother, -⟩
        obtain rfl := Option.some.inj (hsent.symm.trans hsent')
        obtain rfl := Option.some.inj (hrow.symm.trans hrow')
        exact hdiffers (differs_iff.mpr ⟨old, hip₁.trans ((hstored old).mpr hold), hother⟩)
  · refine iff_of_true ?_ ?_
    · rcases hcases with ⟨-, -, -, hfree⟩ | ⟨-, -, -, hold₂, -⟩
      · exact fun _ => hfree
      · rw [hold₂, hold₁]
        rintro (h | h)
        · cases h
        · exact absurd rfl h
    · rintro ⟨ip, -, -, hsent, -⟩
      rw [hcases.elim And.left And.left] at hsent
      cases hsent

/-- The addresses of a new NIC are saved unless a lost one is asked for. -/
theorem save_new_ip_iff {nic_id : ℕ} {addresses : Addresses U}
    (hser : post_serializer db req vm nic_id data = .ok ser) :
    (∃ addresses', ser.save_ip vm' false false addresses = .ok addresses') ↔
      ¬ LostIp db vm (post_net db req (data.with_defaults req.defaults)) (data.with_defaults req.defaults) ∧
        ¬ LostAllowed db vm (post_net db req (data.with_defaults req.defaults)) (data.with_defaults req.defaults) := by
  unfold post_serializer at hser
  obtain ⟨_, -, hser⟩ := bind_eq_ok.mp hser
  generalize data.with_defaults req.defaults = data at hser ⊢
  obtain ⟨ser₁, ser₂, hvalid_net, hvalid, hip, hold, hips, hchanging⟩ := is_valid_ips hser
  obtain ⟨hip₁, -, hchanging₁⟩ := validate_net_ips hvalid_net
  obtain ⟨hobject₁, hnet₁⟩ := validate_net_new rfl rfl hvalid_net
  have hip₁ : ser₁._ip = .none := hip₁
  obtain ⟨hne, hallowed, hcases⟩ := validate_ips (hchanging₁.trans rfl) hvalid
  rw [hnet₁] at hallowed hcases
  rw [save_ip_iff (hip ▸ hne), hip, hold, hips, hchanging, hallowed]
  refine and_congr_left fun _ => ?_
  rw [imp_iff_right (Or.inl rfl)]
  rcases hcases with ⟨ip, -, hobject, -⟩ | ⟨ip, row, hsent, hrow, hlost, hip₂, -⟩ | hcases
  · rw [hobject₁] at hobject
    cases hobject
  · have hassociated : (∀ ip ∈ ser₂._ip.toList, ip.vm = none) ↔ row.vm = none := by simp [hip₂, Ip.toList]
    rw [hassociated, ← not_not (a := row.vm = none), ← ne_eq, hlost]
    apply not_congr
    constructor
    · exact fun h => ⟨ip, row, hsent, hrow, h⟩
    · rintro ⟨ip', row', hsent', hrow', h⟩
      obtain rfl := Option.some.inj (hsent.symm.trans hsent')
      obtain rfl := Option.some.inj (hrow.symm.trans hrow')
      exact h
  · refine iff_of_true ?_ ?_
    · rcases hcases with ⟨-, -, -, hfree⟩ | ⟨-, -, -, -, ⟨a, ha, -⟩ | ⟨-, hfree⟩⟩
      · exact hfree
      · rw [hip₁] at ha
        cases ha
      · exact hfree
    · rintro ⟨ip, -, hsent, -⟩
      rw [hcases.elim And.left And.left] at hsent
      cases hsent

end associations

section runs

/-- An accepted `POST` or `PUT` can save its addresses. -/
def System.Saves (s : System U D) (op : Op U) : Prop :=
  match op with
  | .post req uuid nic_id data =>
    ∀ vm ser, s.vms.lookup uuid = some vm → post_serializer s.db req vm nic_id data = .ok ser →
      ∃ addresses, ser.save_ip vm false false s.db.addresses = .ok addresses
  | .put req uuid nic_id data =>
    ∀ vm ser, s.vms.lookup uuid = some vm → put_serializer s.db req vm nic_id data = .ok ser →
      ∃ addresses, ser.save_ip vm false true s.db.addresses = .ok addresses
  | _ => True

/-- An accepted `POST` or `PUT` asks for an address that the VM has lost but that is still set on the hypervisor. -/
def System.AsksLost (s : System U D) (op : Op U) : Prop :=
  match op with
  | .post req uuid nic_id data =>
    ∃ vm ser, s.vms.lookup uuid = some vm ∧ post_serializer s.db req vm nic_id data = .ok ser ∧
      (LostIp s.db vm (post_net s.db req (data.with_defaults req.defaults)) (data.with_defaults req.defaults) ∨
        LostAllowed s.db vm (post_net s.db req (data.with_defaults req.defaults)) (data.with_defaults req.defaults))
  | .put req uuid nic_id data =>
    ∃ vm nic ser, s.vms.lookup uuid = some vm ∧ vm.nics[nic_id]? = some nic ∧
      put_serializer s.db req vm nic_id data = .ok ser ∧
        (LostOther s.db req vm nic data ∨ LostAllowed s.db vm (new_net s.db req nic data) data)
  | _ => False

theorem existing_nic_of_put {db : Db U D} {req : Request} {vm : Vm U} {nic_id : ℕ} {data : Data}
    {ser : VmDefineNicSerializer U} (hser : put_serializer db req vm nic_id data = .ok ser) :
    ∃ nic, vm.nics[nic_id]? = some nic := by
  unfold put_serializer at hser
  obtain ⟨nic, hexisting, -⟩ := bind_eq_ok.mp hser
  unfold Vm.existing_nic at hexisting
  split at hexisting
  · cases hexisting
  · cases hnic : vm.nics[nic_id]? with
    | none =>
      rw [hnic] at hexisting
      cases hexisting
    | some nic' => exact ⟨nic', rfl⟩

theorem saves_iff (s : System U D) (op : Op U) : s.Saves op ↔ ¬ s.AsksLost op := by
  cases op with
  | post req uuid nic_id data =>
    simp only [System.Saves, System.AsksLost, not_exists, not_and, not_or]
    refine forall₂_congr fun vm ser => forall₂_congr fun _ hser => ?_
    exact save_new_ip_iff hser
  | put req uuid nic_id data =>
    constructor
    · rintro hsaves ⟨vm, nic, ser, hvm, hnic, hser, hlost⟩
      have hnot := (update_ip_iff hnic hser).mp (hsaves vm ser hvm hser)
      exact hlost.elim hnot.1 hnot.2
    · intro hnot vm ser hvm hser
      obtain ⟨nic, hnic⟩ := existing_nic_of_put hser
      rw [update_ip_iff hnic hser]
      exact ⟨fun h => hnot ⟨vm, nic, ser, hvm, hnic, hser, .inl h⟩, fun h => hnot ⟨vm, nic, ser, hvm, hnic, hser, .inr h⟩⟩
  | delete uuid nic_id => exact iff_of_true trivial not_false
  | synced uuid nics => exact iff_of_true trivial not_false
  | deleted uuid => exact iff_of_true trivial not_false
  | reverted uuid => exact iff_of_true trivial not_false

/-- In a run, whatever the state in which it starts, every accepted request can save its addresses exactly if none of them asks
for an address that its VM has lost. -/
theorem run_saves_iff (s : System U D) (ops : List (Op U)) :
    (∀ p ∈ s.trace ops, p.1.Saves p.2) ↔ ∀ p ∈ s.trace ops, ¬ p.1.AsksLost p.2 :=
  forall₂_congr fun p _ => saves_iff p.1 p.2

def bare_vm : Vm ℕ := { lan_vm with nics := [] }

/-- A VM without NICs and a network with one free address. -/
def bare_system : System ℕ ℕ where
  db := { two_nets with addresses := [⟨"10.0.0.5", lan.uuid, none, [], .vm⟩] }
  vms := (∅ : Dict ℕ (Vm ℕ)).insert 1 bare_vm

def all_defaults : Data := { no_data with
  primary := some true
  dns := some false
  monitoring := some false
  allowed_ips := some []
  set_gateway := some true }

/-- The NIC with the address is added, the VM deployed, the NIC removed and added again before the VM is updated. -/
def lost_ops : List (Op ℕ) :=
  let data : Data := { no_data with net := some "lan", ip := some "10.0.0.5" }
  let req : Request := { any_net with defaults := all_defaults }
  [.post req 1 0 data, .synced 1 [lan_nic], .delete 1 0, .post req 1 0 data]

theorem not_saved_again : ¬ ∀ p ∈ bare_system.trace lost_ops, p.1.Saves p.2 := by
  intro hsaves
  have hlast := hsaves _ (List.mem_of_getElem? (i := 3) rfl)
  obtain ⟨addresses, hsave⟩ := hlast _ _ rfl rfl
  cases hsave

end runs

end api.vm.define.nic
