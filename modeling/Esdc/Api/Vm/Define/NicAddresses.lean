import Mathlib
import Esdc.Api.Vm.Define.NicIps
import Esdc.Vms.IPUsage

namespace api.vm.define.nic

open Fallible (bind_eq_ok)
open vms.definition (Item Value)
open vms.ipaddress (IPAddress Usage mem_pairs)

variable {U D : Type}

section pairs

theorem pair_eq_iff {row ip : Address U} : row.pair = ip.pair ↔ row.ip = ip.ip ∧ row.subnet = ip.subnet := by
  simp [IPAddress.pair]

variable [DecidableEq U]

/-- `ip.save()` for several records. -/
def update_addresses (ips : List (Address U)) (f : Address U → Address U) (row : Address U) : Address U :=
  if row.pair ∈ ips.map IPAddress.pair then f row else row

omit [DecidableEq U] in
theorem update_address_eq (addresses : Addresses U) (ip : Address U) (f : Address U → Address U) :
    update_address addresses ip f = addresses.map (update_addresses [ip] f) := by
  unfold update_address update_addresses
  simp [IPAddress.pair]

omit [DecidableEq U] in
theorem update_addresses_pair {ips : List (Address U)} {f : Address U → Address U} (hf : ∀ row, (f row).pair = row.pair)
    (row : Address U) : (update_addresses ips f row).pair = row.pair := by
  unfold update_addresses
  split
  · exact hf row
  · rfl

omit [DecidableEq U] in
/-- Records that are saved one after the other. -/
theorem update_addresses_cons {ip : Address U} {ips : List (Address U)} {f : Address U → Address U}
    (hf : ∀ row, (f row).pair = row.pair) (htwice : ∀ row, f (f row) = f row) (row : Address U) :
    update_addresses ips f (update_addresses [ip] f row) = update_addresses (ip :: ips) f row := by
  have hpair : (update_addresses [ip] f row).pair = row.pair := update_addresses_pair hf row
  unfold update_addresses at hpair ⊢
  rw [hpair]
  by_cases hip : row.pair ∈ [ip].map IPAddress.pair
  · have hcons : row.pair ∈ (ip :: ips).map IPAddress.pair := by
      rw [List.map_singleton, List.mem_singleton] at hip
      rw [hip]
      exact List.mem_cons_self
    rw [if_pos hip, if_pos hcons]
    split
    · exact htwice row
    · rfl
  · have hcons : row.pair ∈ (ip :: ips).map IPAddress.pair ↔ row.pair ∈ ips.map IPAddress.pair := by
      rw [List.map_singleton, List.mem_singleton] at hip
      rw [List.map_cons, List.mem_cons, or_iff_right hip]
    rw [if_neg hip]
    simp only [hcons]

/-- `ip.vms.remove(vm)` or `ip.vm = None` -/
def dissociated (many : Bool) (uuid : U) (row : Address U) : Address U :=
  if many then { row with vms := row.vms.filter (· ≠ uuid) } else { row with vm := none }

/-- `ip.vms.add(vm)` or `ip.vm = vm` -/
def associated (many : Bool) (uuid : U) (row : Address U) : Address U :=
  if many then { row with vms := if uuid ∈ row.vms then row.vms else row.vms ++ [uuid] } else { row with vm := some uuid }

section rows

variable (ips : List (Address U)) (uuid : U) (row : Address U)

theorem update_dissociated (vm : Option U) : update_addresses ips (dissociated false uuid) { row with vm := vm } =
    { row with vm := if row.pair ∈ ips.map IPAddress.pair then none else vm } := by
  unfold update_addresses
  by_cases h : row.pair ∈ ips.map IPAddress.pair
  · rw [if_pos h]
    exact if_pos h
  · rw [if_neg h]
    exact if_neg h

theorem update_associated (vm : Option U) : update_addresses ips (associated false uuid) { row with vm := vm } =
    { row with vm := if row.pair ∈ ips.map IPAddress.pair then some uuid else vm } := by
  unfold update_addresses
  by_cases h : row.pair ∈ ips.map IPAddress.pair
  · rw [if_pos h]
    exact if_pos h
  · rw [if_neg h]
    exact if_neg h

theorem update_dissociated_many (vms : List U) : update_addresses ips (dissociated true uuid) { row with vms := vms } =
    { row with vms := if row.pair ∈ ips.map IPAddress.pair then vms.filter (· ≠ uuid) else vms } := by
  unfold update_addresses
  by_cases h : row.pair ∈ ips.map IPAddress.pair
  · rw [if_pos h]
    exact if_pos h
  · rw [if_neg h]
    exact if_neg h

theorem update_associated_many (vms : List U) : update_addresses ips (associated true uuid) { row with vms := vms } =
    { row with vms := if row.pair ∈ ips.map IPAddress.pair then if uuid ∈ vms then vms else vms ++ [uuid] else vms } := by
  unfold update_addresses
  by_cases h : row.pair ∈ ips.map IPAddress.pair
  · rw [if_pos h]
    exact if_pos h
  · rw [if_neg h]
    exact if_neg h

end rows

theorem dissociated_pair (many : Bool) (uuid : U) (row : Address U) : (dissociated many uuid row).pair = row.pair := by
  cases many <;> rfl

theorem dissociated_twice (many : Bool) (uuid : U) (row : Address U) :
    dissociated many uuid (dissociated many uuid row) = dissociated many uuid row := by
  cases many with
  | true => simp [dissociated]
  | false => rfl

theorem associated_pair (many : Bool) (uuid : U) (row : Address U) : (associated many uuid row).pair = row.pair := by
  cases many <;> rfl

theorem associated_twice (many : Bool) (uuid : U) (row : Address U) :
    associated many uuid (associated many uuid row) = associated many uuid row := by
  cases many with
  | true =>
    unfold associated
    by_cases h : uuid ∈ row.vms
    · simp [h]
    · simp [h]
  | false => rfl

end pairs

section save

variable [DecidableEq U] {vm : Vm U} {ser : VmDefineNicSerializer U} {addresses addresses' : Addresses U}

/-- The addresses that are not set on the hypervisor. -/
def removable (vm : Vm U) (ips : List (Address U)) : List (Address U) :=
  ips.filter fun ip => !(ip.usage = .vm_real && vm.is_deployed)

omit [DecidableEq U] in
theorem removable_of_notcreated (hvm : vm.is_deployed = false) (ips : List (Address U)) : removable vm ips = ips := by
  unfold removable
  rw [hvm, List.filter_eq_self]
  exact fun ip _ => by rw [Bool.and_false, Bool.not_false]

theorem foldl_remove (vm : Vm U) (many : Bool) (ips : List (Address U)) (addresses : Addresses U) :
    ips.foldl (_remove_vm_ip_association vm many) addresses =
      addresses.map (update_addresses (removable vm ips) (dissociated many vm.uuid)) := by
  induction ips generalizing addresses with
  | nil =>
    have hsame : ∀ f, update_addresses ([] : List (Address U)) f = id := fun f => rfl
    rw [removable, List.filter_nil, hsame, List.map_id]
    rfl
  | cons ip ips ih =>
    have hcons : removable vm (ip :: ips) =
        if (!(ip.usage = .vm_real && vm.is_deployed)) = true then ip :: removable vm ips else removable vm ips :=
      List.filter_cons
    rw [List.foldl_cons, ih, hcons]
    by_cases hset : (ip.usage = .vm_real && vm.is_deployed) = true
    · rw [if_neg (by rw [hset]; exact Bool.false_ne_true), _remove_vm_ip_association, if_pos hset]
    · have hremove : _remove_vm_ip_association vm many addresses ip =
          addresses.map (update_addresses [ip] (dissociated many vm.uuid)) := by
        rw [_remove_vm_ip_association, if_neg hset, ← update_address_eq]
        cases many <;> rfl
      rw [if_pos (by rw [Bool.eq_false_iff.mpr hset]; rfl), hremove, List.map_map]
      congr 1
      funext row
      exact update_addresses_cons (dissociated_pair many vm.uuid) (dissociated_twice many vm.uuid) row

/-- Only addresses without a VM are associated. -/
theorem foldlM_create {many : Bool} {ips : List (Address U)}
    (hcreate : ips.foldlM (_create_vm_ip_association vm many) addresses = .ok addresses') :
    addresses' = addresses.map (update_addresses ips (associated many vm.uuid)) := by
  induction ips generalizing addresses with
  | nil =>
    have hsame : ∀ f, update_addresses ([] : List (Address U)) f = id := fun f => rfl
    rw [hsame, List.map_id]
    exact (Except.ok.inj hcreate).symm
  | cons ip ips ih =>
    rw [List.foldlM_cons] at hcreate
    obtain ⟨saved, hfirst, hcreate⟩ := bind_eq_ok.mp hcreate
    have hcreated : saved =
        addresses.map (update_addresses [ip] (associated many vm.uuid)) := by
      unfold _create_vm_ip_association at hfirst
      split at hfirst
      · cases hfirst
      · split at hfirst
        · case isTrue hmany =>
          rw [← Except.ok.inj hfirst, ← update_address_eq, hmany]
          rfl
        · case isFalse hmany =>
          rw [← Except.ok.inj hfirst, ← update_address_eq, Bool.eq_false_iff.mpr hmany]
          rfl
    rw [ih hcreate, hcreated, List.map_map]
    congr 1
    funext row
    exact update_addresses_cons (associated_pair many vm.uuid) (associated_twice many vm.uuid) row

/-- A record after the primary address of a NIC was saved. -/
def saved_primary (vm : Vm U) (delete update : Bool) (ser : VmDefineNicSerializer U) (row : Address U) : Address U :=
  if !update || ser._ip_old.toList ≠ [] then
    let row := update_addresses (removable vm ser._ip_old.toList) (dissociated false vm.uuid) row
    if delete then update_addresses (removable vm ser._ip.toList) (dissociated false vm.uuid) row
    else update_addresses ser._ip.toList (associated false vm.uuid) row
  else row

/-- A record after the allowed addresses of a NIC were saved. -/
def saved_allowed (vm : Vm U) (ser : VmDefineNicSerializer U) (row : Address U) : Address U :=
  if ser._changing_allowed_ips then
    update_addresses ser._ips (associated true vm.uuid)
      (update_addresses (removable vm ser._ips_old) (dissociated true vm.uuid) row)
  else row

theorem save_primary_eq {delete update : Bool} (hsave : ser.save_primary vm delete update addresses = .ok addresses') :
    addresses' = addresses.map (saved_primary vm delete update ser) := by
  unfold VmDefineNicSerializer.save_primary at hsave
  unfold saved_primary
  split at hsave
  · case isTrue h =>
    rw [foldl_remove] at hsave
    cases delete with
    | true =>
      have hremove : ∀ (ips : List (Address U)) (rows : Addresses U),
          ips.foldlM (_update_vm_ip_association vm true false) rows =
            .ok (ips.foldl (_remove_vm_ip_association vm false) rows) := by
        intro ips
        induction ips with
        | nil => exact fun _ => rfl
        | cons ip ips ih => exact fun rows => ih _
      rw [hremove, foldl_remove, List.map_map] at hsave
      simp only [h, if_true]
      exact (Except.ok.inj hsave).symm
    | false =>
      have hcreated := foldlM_create hsave
      rw [List.map_map] at hcreated
      simp only [h, if_true]
      exact hcreated
  · case isFalse h =>
    obtain rfl := Except.ok.inj hsave
    simp only [h]
    exact (List.map_id _).symm

theorem save_allowed_ips_eq {delete : Bool} (hdelete : delete = true → ser._changing_allowed_ips = false)
    (hsave : ser.save_allowed_ips vm delete addresses = .ok addresses') :
    addresses' = addresses.map (saved_allowed vm ser) := by
  unfold VmDefineNicSerializer.save_allowed_ips at hsave
  unfold saved_allowed
  split at hsave
  · case isTrue h =>
    have hcreate : delete = false := by
      cases delete with
      | true =>
        rw [hdelete rfl] at h
        cases h
      | false => rfl
    rw [hcreate, foldl_remove] at hsave
    simp only [h, if_true]
    exact (foldlM_create hsave).trans (List.map_map ..)
  · case isFalse h =>
    obtain rfl := Except.ok.inj hsave
    simp only [h]
    exact (List.map_id _).symm

/-- The table after the addresses of a NIC were saved. -/
theorem save_ip_eq {delete update : Bool} (hdelete : delete = true → ser._changing_allowed_ips = false)
    (hsave : ser.save_ip vm delete update addresses = .ok addresses') :
    ser._ip ≠ .none ∧ addresses' = addresses.map fun row => saved_allowed vm ser (saved_primary vm delete update ser row) := by
  unfold VmDefineNicSerializer.save_ip at hsave
  split at hsave
  · cases hsave
  · case h_2 hip =>
    obtain ⟨saved, hprimary, hallowed⟩ := bind_eq_ok.mp hsave
    rw [save_allowed_ips_eq hdelete hallowed, save_primary_eq hprimary]
    exact ⟨hip, List.map_map ..⟩

/-- The primary association of a record is what was created, or else it is kept if it was not removed. -/
theorem saved_primary_spec (delete update : Bool) (row : Address U) :
    (saved_primary vm delete update ser row).pair = row.pair ∧ (saved_primary vm delete update ser row).vms = row.vms ∧
      (saved_primary vm delete update ser row).usage = row.usage ∧
      (saved_primary vm delete update ser row).vm =
        if update = true ∧ ser._ip_old.toList = [] then row.vm
        else if delete = false ∧ row.pair ∈ ser._ip.toList.map IPAddress.pair then some vm.uuid
        else if row.pair ∈ (removable vm ser._ip_old.toList).map IPAddress.pair ∨
          delete = true ∧ row.pair ∈ (removable vm ser._ip.toList).map IPAddress.pair then none
        else row.vm := by
  have hcond : (!update || decide (ser._ip_old.toList ≠ [])) = true ↔ ¬ (update = true ∧ ser._ip_old.toList = []) := by
    cases update <;> simp
  unfold saved_primary
  by_cases hkept : update = true ∧ ser._ip_old.toList = []
  · rw [if_neg (not_not.mpr hkept ∘ hcond.mp), if_pos hkept]
    exact ⟨rfl, rfl, rfl, rfl⟩
  · have hold := update_dissociated (removable vm ser._ip_old.toList) vm.uuid row row.vm
    rw [if_pos (hcond.mpr hkept), if_neg hkept]
    change (IPAddress.pair (if delete = true then _ else _) = _) ∧ _
    cases delete with
    | true =>
      have hnew := update_dissociated (removable vm ser._ip.toList) vm.uuid row
        (if row.pair ∈ (removable vm ser._ip_old.toList).map IPAddress.pair then none else row.vm)
      rw [if_pos rfl, hold, hnew]
      refine ⟨rfl, rfl, rfl, ?_⟩
      simp only [Bool.true_eq_false, false_and, if_false, true_and]
      by_cases h : row.pair ∈ (removable vm ser._ip.toList).map IPAddress.pair
      · rw [if_pos h, if_pos (.inr h)]
      · simp only [h, or_false, if_false]
    | false =>
      have hnew := update_associated ser._ip.toList vm.uuid row
        (if row.pair ∈ (removable vm ser._ip_old.toList).map IPAddress.pair then none else row.vm)
      rw [if_neg Bool.false_ne_true, hold, hnew]
      refine ⟨rfl, rfl, rfl, ?_⟩
      simp only [Bool.false_eq_true, true_and, false_and, or_false]

/-- The allowed association of a record is what was created, or else it is kept if it was not removed. -/
theorem saved_allowed_spec (row : Address U) :
    (saved_allowed vm ser row).pair = row.pair ∧ (saved_allowed vm ser row).vm = row.vm ∧
      (saved_allowed vm ser row).usage = row.usage ∧
      ∀ uuid, uuid ∈ (saved_allowed vm ser row).vms ↔
        (ser._changing_allowed_ips = true ∧ uuid = vm.uuid ∧ row.pair ∈ ser._ips.map IPAddress.pair) ∨
        (uuid ∈ row.vms ∧ ¬ (ser._changing_allowed_ips = true ∧ uuid = vm.uuid ∧
          row.pair ∈ (removable vm ser._ips_old).map IPAddress.pair)) := by
  unfold saved_allowed
  by_cases h : ser._changing_allowed_ips = true
  · rw [if_pos h]
    have hvms : ∀ uuid, uuid ∈ (if row.pair ∈ (removable vm ser._ips_old).map IPAddress.pair then
          row.vms.filter (· ≠ vm.uuid) else row.vms) ↔
        uuid ∈ row.vms ∧ ¬ (ser._changing_allowed_ips = true ∧ uuid = vm.uuid ∧
          row.pair ∈ (removable vm ser._ips_old).map IPAddress.pair) := by
      intro uuid
      split
      · case isTrue hmem => simp [h, hmem]
      · case isFalse hmem => simp [h, hmem]
    have hold := update_dissociated_many (removable vm ser._ips_old) vm.uuid row row.vms
    rw [hold, update_associated_many]
    refine ⟨rfl, rfl, rfl, fun uuid => ?_⟩
    rw [← hvms]
    generalize (if row.pair ∈ (removable vm ser._ips_old).map IPAddress.pair then
      row.vms.filter (· ≠ vm.uuid) else row.vms) = vms
    change (uuid ∈ if _ then _ else _) ↔ _
    by_cases hmem : row.pair ∈ ser._ips.map IPAddress.pair
    · rw [if_pos hmem]
      simp only [h, hmem, true_and, and_true]
      by_cases hin : vm.uuid ∈ vms
      · rw [if_pos hin]
        refine (or_iff_right_of_imp ?_).symm
        rintro rfl
        exact hin
      · rw [if_neg hin, List.mem_append, List.mem_singleton, or_comm]
    · rw [if_neg hmem]
      exact (or_iff_right fun hnew => hmem hnew.2.2).symm
  · rw [if_neg h]
    refine ⟨rfl, rfl, rfl, fun uuid => ?_⟩
    simp [h]

/-- The association of a record with the VM after the primary address of a NIC was saved. -/
def PrimaryAfter (uuid : U) (delete update : Bool) (ser : VmDefineNicSerializer U) (row : Address U) : Prop :=
  if update = true ∧ ser._ip_old.toList = [] then row.vm = some uuid
  else if row.pair ∈ ser._ip.toList.map IPAddress.pair then delete = false
  else row.pair ∉ ser._ip_old.toList.map IPAddress.pair ∧ row.vm = some uuid

/-- The association of a record with the VM after the allowed addresses of a NIC were saved. -/
def AllowedAfter (uuid : U) (ser : VmDefineNicSerializer U) (row : Address U) : Prop :=
  if ser._changing_allowed_ips then
    row.pair ∈ ser._ips.map IPAddress.pair ∨ (uuid ∈ row.vms ∧ row.pair ∉ ser._ips_old.map IPAddress.pair)
  else uuid ∈ row.vms

/-- What is saved of a record: the same address, with other associations. -/
structure SavedRow (vm : Vm U) (delete update : Bool) (ser : VmDefineNicSerializer U) (row row' : Address U) : Prop where
  pair : row'.pair = row.pair
  primary : row'.vm = some vm.uuid ↔ PrimaryAfter vm.uuid delete update ser row
  allowed : vm.uuid ∈ row'.vms ↔ AllowedAfter vm.uuid ser row

/-- The associations of a VM that is not deployed are removed at once. -/
theorem save_ip_rows {delete update : Bool} (hvm : vm.is_deployed = false)
    (hdelete : delete = true → ser._changing_allowed_ips = false)
    (hsave : ser.save_ip vm delete update addresses = .ok addresses') :
    ser._ip ≠ .none ∧ ∃ f : Address U → Address U, addresses' = addresses.map f ∧
      ∀ row, SavedRow vm delete update ser row (f row) := by
  obtain ⟨hip, haddresses⟩ := save_ip_eq hdelete hsave
  refine ⟨hip, _, haddresses, fun row => ?_⟩
  obtain ⟨hpair, hvms, -, hprimary⟩ := @saved_primary_spec _ _ vm ser delete update row
  obtain ⟨hpair', hsame, -, hallowed⟩ := @saved_allowed_spec _ _ vm ser (saved_primary vm delete update ser row)
  rw [removable_of_notcreated hvm, removable_of_notcreated hvm] at hprimary
  rw [removable_of_notcreated hvm] at hallowed
  refine ⟨hpair'.trans hpair, ?_, ?_⟩
  · rw [hsame, hprimary, PrimaryAfter]
    split
    · exact Iff.rfl
    · by_cases hmem : row.pair ∈ ser._ip.toList.map IPAddress.pair
      · cases delete <;> simp [hmem]
      · cases delete <;> simp [hmem]
  · rw [hallowed, hvms, hpair, AllowedAfter]
    split
    · case isTrue h => simp [h]
    · case isFalse h => simp [h]

end save

section serializer

variable [DecidableEq U] [DecidableEq D] {db : Db U D} {req : Request} {vm : Vm U} {nic : Item} {data : Data}
  {ser ser' : VmDefineNicSerializer U}

/-- The cases of `validate_ip` with what each leaves: the address is kept, another one was sent, or one is to be found. -/
theorem validate_ip_sent (hvalid : validate_ip db vm data ser = .ok ser') :
    ser'.object = ser.object ∧ ser'._net = ser._net ∧ ser'._net_old = ser._net_old ∧ ser'._ips = ser._ips ∧
      ser'._ips_old = ser._ips_old ∧ ser'._changing_allowed_ips = ser._changing_allowed_ips ∧
      (∀ k, k ≠ "ip" → ser'.attrs.lookup k = ser.attrs.lookup k) ∧
      ((ser' = ser ∧ ser._net_old = none ∧ ∀ ip, data.ip = some ip → ∃ row, ser._ip = .address row ∧ row.ip = ip) ∨
        (∃ row, db.get_address row.ip ser._net = some row ∧ _check_ip_usage db vm row false = false ∧
          ser'._ip = .address row ∧ ser'._ip_old = (if ser._ip.differs row then ser._ip else ser._ip_old) ∧
          ser'.attrs.lookup "ip" = some (.str row.ip)) ∨
        (ser'._ip = .none ∧ ser'._ip_old = ser._ip)) := by
  unfold validate_ip at hvalid
  cases hsent : data.ip.filter (· ≠ "") with
  | some ip =>
    obtain ⟨hip, -⟩ := Option.filter_eq_some_iff.mp hsent
    rw [hsent] at hvalid
    simp only at hvalid
    split at hvalid
    · case isTrue hhas =>
      obtain rfl := Except.ok.inj hvalid
      simp only [Bool.and_eq_true, decide_eq_true_eq] at hhas
      refine ⟨rfl, rfl, rfl, rfl, rfl, rfl, fun _ _ => rfl, .inl ⟨rfl, hhas.1.2, ?_⟩⟩
      intro ip' hip'
      obtain rfl := Option.some.inj (hip.symm.trans hip')
      exact has_iff.mp hhas.2
    · cases hfind : db.get_address ip ser._net with
      | none =>
        rw [hfind] at hvalid
        cases hvalid
      | some row =>
        rw [hfind] at hvalid
        simp only at hvalid
        split at hvalid
        · cases hvalid
        · case isFalse hfree =>
          obtain rfl := Except.ok.inj hvalid
          rw [Bool.not_eq_true] at hfree
          refine ⟨rfl, rfl, rfl, rfl, rfl, rfl, fun k hk => (Dict.lookup_insert_ite _ _ _ _).trans (if_neg hk), ?_⟩
          refine .inr (.inl ⟨row, (get_address_spec hfind).1 ▸ hfind, hfree, rfl, rfl, ?_⟩)
          exact (Dict.lookup_insert_ite _ _ _ _).trans (if_pos rfl)
  | none =>
    rw [hsent] at hvalid
    simp only at hvalid
    split at hvalid
    · obtain rfl := Except.ok.inj hvalid
      exact ⟨rfl, rfl, rfl, rfl, rfl, rfl, fun _ _ => rfl, .inr (.inr ⟨rfl, rfl⟩)⟩
    · case isFalse hnot =>
      obtain rfl := Except.ok.inj hvalid
      simp only [Bool.or_eq_true, decide_eq_true_eq, not_or, not_not] at hnot
      refine ⟨rfl, rfl, rfl, rfl, rfl, rfl, fun _ _ => rfl, .inl ⟨rfl, hnot.1, ?_⟩⟩
      intro ip hip
      rw [hip] at hnot
      cases hnot.2

/-- The cases of `validate_allowed_ips`: other addresses, none any more, or nothing changes. -/
theorem validate_allowed_ips_sent (hvalid : validate_allowed_ips db vm data ser = .ok ser') :
    ser'._net_old = ser._net_old ∧
      (((data.allowed_ips.getD []).dedup ≠ [] ∧ ser'._changing_allowed_ips = true ∧
          ser'._ips = db.filter_addresses (data.allowed_ips.getD []).dedup ser._net ∧
          ser'._ips.length = (data.allowed_ips.getD []).dedup.length ∧
          (∀ row, ser._ip = .address row → row.ip ∉ data.allowed_ips.getD []) ∧
          ser'._ips_old = (if ser._ips ≠ [] then ser._ips.filter (·.ip ∉ ser'._ips.map (·.ip)) else ser._ips_old) ∧
          ser'.attrs.lookup "allowed_ips" = some (.strs (ser'._ips.map (·.ip)).dedup)) ∨
        ((data.allowed_ips.getD []).dedup = [] ∧ (ser._net_old ≠ none ∨ data.allowed_ips ≠ none) ∧
          ser'._changing_allowed_ips = true ∧ ser'._ips = [] ∧ ser'._ips_old = ser._ips ∧
          ser'.attrs.lookup "allowed_ips" = some (.strs [])) ∨
        ((data.allowed_ips.getD []).dedup = [] ∧ ser' = ser ∧
          (ser._ips = [] ∨ ser._net_old = none ∧ data.allowed_ips = none))) := by
  unfold validate_allowed_ips at hvalid
  simp only at hvalid
  split at hvalid
  · case isTrue hsome =>
    split at hvalid
    · cases hvalid
    · case isFalse hfree =>
      obtain rfl := Except.ok.inj hvalid
      simp only [Bool.or_eq_true, not_or, List.any_eq_true, not_exists, not_and, Bool.not_eq_true,
        decide_eq_false_iff_not, not_not] at hfree
      refine ⟨rfl, .inl ⟨hsome, rfl, rfl, hfree.1.1, ?_, rfl, ?_⟩⟩
      · intro row hrow hmem
        have hhas := hfree.1.2 row.ip (List.mem_dedup.mpr hmem)
        rw [has_iff.mpr ⟨row, hrow, rfl⟩] at hhas
        cases hhas
      · exact (Dict.lookup_insert_ite _ _ _ _).trans (if_pos rfl)
  · case isFalse hempty =>
    have hempty := not_not.mp hempty
    split at hvalid
    · case isTrue hremoved =>
      obtain rfl := Except.ok.inj hvalid
      simp only [Bool.and_eq_true, Bool.or_eq_true, decide_eq_true_eq] at hremoved
      refine ⟨rfl, .inr (.inl ⟨hempty, hremoved.2, rfl, rfl, rfl, ?_⟩)⟩
      exact (Dict.lookup_insert_ite _ _ _ _).trans (if_pos rfl)
    · case isFalse hkept =>
      obtain rfl := Except.ok.inj hvalid
      simp only [Bool.and_eq_true, Bool.or_eq_true, decide_eq_true_eq, not_and_or, not_or, not_not] at hkept
      exact ⟨rfl, .inr (.inr ⟨hempty, rfl, hkept⟩)⟩

omit [DecidableEq U] [DecidableEq D] in
/-- An address that is found is a free one of the network. -/
theorem find_ip_found {net : Subnet} (hvalid : find_ip db req net data ser = .ok ser') :
    ser'._ips_old = ser._ips_old ∧ ser'.attrs.lookup "allowed_ips" = ser.attrs.lookup "allowed_ips" ∧
      ((∃ a, ser._ip = .address a) ∧ ser' = ser ∨
        ser._ip.toList = [] ∧ ((∃ row ∈ db.addresses, row.subnet = net.uuid ∧ row.vm = none ∧ row.vms = [] ∧
            row.ip ∉ data.allowed_ips.getD [] ∧ ser'._ip = .address row ∧ ser'.attrs.lookup "ip" = some (.str row.ip)) ∨
          net.dhcp_passthrough = true ∧ ser'._ip = .dhcp ∧ ser'.attrs.lookup "ip" = some .null)) := by
  unfold find_ip at hvalid
  split at hvalid
  · case h_1 a hip =>
    obtain rfl := Except.ok.inj hvalid
    exact ⟨rfl, rfl, .inl ⟨⟨a, hip⟩, rfl⟩⟩
  · case h_2 hip =>
    have hnone : ser._ip.toList = [] := by
      cases hser : ser._ip with
      | none => rfl
      | dhcp => rfl
      | address a => exact absurd hser (hip a)
    split at hvalid
    · case isTrue hdhcp =>
      obtain rfl := Except.ok.inj hvalid
      refine ⟨rfl, ?_, .inr ⟨hnone, .inr ⟨hdhcp, rfl, ?_⟩⟩⟩
      · simp
      · simp
    · simp only at hvalid
      split at hvalid
      · cases hvalid
      · case h_2 row hrow =>
        obtain rfl := Except.ok.inj hvalid
        have hfree := List.mem_of_getElem? hrow
        simp only [Db.free_addresses, List.mem_filter, Bool.and_eq_true, decide_eq_true_eq] at hfree
        obtain ⟨hmem, ⟨⟨⟨hsubnet, hvm⟩, hvms⟩, -⟩, hnot⟩ := hfree
        refine ⟨rfl, ?_, .inr ⟨hnone, .inl ⟨row, hmem, hsubnet, hvm, hvms, hnot, rfl, ?_⟩⟩⟩
        · simp
        · simp

omit [DecidableEq U] [DecidableEq D] in
theorem inherit_net_sent {net : Subnet} (hvalid : inherit_net req net data ser = .ok ser') :
    ser'._ips_old = ser._ips_old ∧ ser'.attrs.lookup "allowed_ips" = ser.attrs.lookup "allowed_ips" := by
  unfold inherit_net at hvalid
  obtain ⟨set_gateway, -, hvalid⟩ := bind_eq_ok.mp hvalid
  obtain rfl := Except.ok.inj hvalid
  refine ⟨rfl, ?_⟩
  cases set_gateway <;> cases ser._ip <;> simp

theorem lookup_attrs_allowed_ips (data : Data) : data.attrs.lookup "allowed_ips" = data.allowed_ips.map .strs := by
  simp [Data.attrs, lookup_insert_sent]

/-- An address that no VM has, or that passes the check. -/
def Free (db : Db U D) (vm : Vm U) (row : Address U) : Prop :=
  (row.vm = none ∧ row.vms = []) ∨ _check_ip_usage db vm row false = false

theorem vms_of_free {row : Address U} (hfree : Free db vm row) (hvm : row.vm = none) : row.vms = [] := by
  rcases hfree with ⟨-, hvms⟩ | hcheck
  · exact hvms
  · simp only [_check_ip_usage, hvm] at hcheck
    simp at hcheck
    exact hcheck.2

/-- The address of a valid request: the one that was there, or another one of the network or none, and then the one that was
there is the old address. -/
def PrimarySent (db : Db U D) (vm : Vm U) (net : Subnet) (ser ser' : VmDefineNicSerializer U) : Prop :=
  (∃ a row, ser._ip = .address a ∧ ser'._ip = .address row ∧ row.pair = a.pair ∧ ser'._ip_old.toList = [] ∧
    (row = a ∧ ser._net_old = none ∨ row ∈ db.addresses ∧ row.subnet = net.uuid) ∧
    (ser'.attrs.lookup "ip" = none ∨ ser'.attrs.lookup "ip" = some (.str row.ip))) ∨
  ser'._ip_old.toList = ser._ip.toList ∧
    ((∃ row ∈ db.addresses, row.subnet = net.uuid ∧ Free db vm row ∧ ser'._ip = .address row ∧
        ser'.attrs.lookup "ip" = some (.str row.ip)) ∨
      net.dhcp_passthrough = true ∧ ser'._ip = .dhcp ∧ ser'.attrs.lookup "ip" = some .null)

/-- The allowed addresses of a valid request: those that were sent or none, and then those that were there and are not sent are
the old ones, or nothing changes. -/
def AllowedSent (db : Db U D) (data : Data) (net : Subnet) (ser ser' : VmDefineNicSerializer U) : Prop :=
  (ser'._changing_allowed_ips = true ∧ (ser._net_old ≠ none ∨ data.allowed_ips ≠ none) ∧
    (∀ row ∈ ser'._ips, row ∈ db.addresses ∧ row.subnet = net.uuid) ∧
    (∀ ip, ip ∈ ser'._ips.map (·.ip) ↔ ip ∈ data.allowed_ips.getD []) ∧
    (∀ row, ser'._ip = .address row → row.ip ∉ data.allowed_ips.getD []) ∧
    ser'._ips_old = ser._ips.filter (·.ip ∉ ser'._ips.map (·.ip)) ∧
    ∃ texts, ser'.attrs.lookup "allowed_ips" = some (.strs texts) ∧ ∀ ip, ip ∈ texts ↔ ip ∈ ser'._ips.map (·.ip)) ∨
  (ser'._changing_allowed_ips = false ∧ data.allowed_ips.getD [] = [] ∧ ser'._ips = ser._ips ∧
    ser'.attrs.lookup "allowed_ips" = data.allowed_ips.map .strs ∧
    (ser._ips = [] ∨ ser._net_old = none ∧ data.allowed_ips = none))

omit [DecidableEq U] [DecidableEq D] in
/-- The records that are found for addresses of a network, if there are as many as addresses. -/
theorem mem_filter_addresses_ip {net : Subnet} {ips : List String} (hunique : (db.addresses.map (·.pair)).Nodup)
    (hlength : (db.filter_addresses ips (some net)).length = ips.length) (ip : String) :
    ip ∈ (db.filter_addresses ips (some net)).map (·.ip) ↔ ip ∈ ips := by
  have hsubset : (db.filter_addresses ips (some net)).map (·.ip) ⊆ ips := by
    intro ip hmem
    obtain ⟨row, hrow, rfl⟩ := List.mem_map.mp hmem
    simp only [Db.filter_addresses, List.mem_filter, Bool.and_eq_true, decide_eq_true_eq] at hrow
    exact hrow.2.1
  have hnodup : ((db.filter_addresses ips (some net)).map (·.ip)).Nodup := by
    have hpairs : ((db.filter_addresses ips (some net)).map (·.pair)).Nodup :=
      hunique.sublist (List.filter_sublist.map _)
    refine List.Nodup.map_on ?_ hpairs.of_map
    intro row hrow row' hrow' hsame
    have hnet : ∀ row ∈ db.filter_addresses ips (some net), row.subnet = net.uuid := by
      intro row hrow
      simp only [Db.filter_addresses, List.mem_filter, Bool.and_eq_true, decide_eq_true_eq] at hrow
      exact Option.some.inj hrow.2.2
    refine List.inj_on_of_nodup_map hpairs hrow hrow' ?_
    rw [pair_eq_iff, hnet row hrow, hnet row' hrow']
    exact ⟨hsame, rfl⟩
  have hperm : ((db.filter_addresses ips (some net)).map (·.ip)).Perm ips :=
    (List.subperm_of_subset hnodup hsubset).perm_of_length_le (by rw [List.length_map, hlength])
  exact hperm.mem_iff

theorem validate_sent (hunique : (db.addresses.map (·.pair)).Nodup) (hattrs : ser.attrs = data.attrs)
    (hold : ser._ip_old = .none) (hchanging : ser._changing_allowed_ips = false) (hips_old : ser._ips_old = [])
    (hvalid : validate db req vm data ser = .ok ser') :
    ∃ net, ser._net = some net ∧ ser'.object = ser.object ∧ ser'._net = some net ∧ PrimarySent db vm net ser ser' ∧
      AllowedSent db data net ser ser' := by
  unfold validate at hvalid
  cases hnet : ser._net with
  | none =>
    rw [hnet] at hvalid
    cases hvalid
  | some net =>
    rw [hnet] at hvalid
    obtain ⟨ser₂, hvalid_ip, hvalid⟩ := bind_eq_ok.mp hvalid
    obtain ⟨ser₃, hvalid_allowed, hvalid⟩ := bind_eq_ok.mp hvalid
    obtain ⟨_, -, hvalid⟩ := bind_eq_ok.mp hvalid
    obtain ⟨ser₄, hvalid_find, hvalid_inherit⟩ := bind_eq_ok.mp hvalid
    obtain ⟨hobject₂, hnet₂, hnet_old₂, hips₂, hips_old₂, hchanging₂, hattrs₂, hcases⟩ := validate_ip_sent hvalid_ip
    obtain ⟨hobject₃, hnet₃, hip₃, hold₃, hattrs₃⟩ := validate_allowed_ips_spec hvalid_allowed
    obtain ⟨-, hallowed⟩ := validate_allowed_ips_sent hvalid_allowed
    obtain ⟨hobject₄, hnet₄, -⟩ := find_ip_spec hvalid_find
    obtain ⟨hold₄, hips₄, hchanging₄, -⟩ := find_ip_cases hvalid_find
    obtain ⟨hips_old₄, hattrs₄, hfound⟩ := find_ip_found hvalid_find
    obtain ⟨hobject₅, hnet₅, hip₅, -, hattrs₅⟩ := inherit_net_spec hvalid_inherit
    obtain ⟨-, hold₅, hips₅, hchanging₅⟩ := inherit_net_ips hvalid_inherit
    obtain ⟨hips_old₅, hallowed₅⟩ := inherit_net_sent hvalid_inherit
    have hobject : ser'.object = ser.object := by rw [hobject₅, hobject₄, hobject₃, hobject₂]
    have hnet' : ser'._net = some net := by rw [hnet₅, hnet₄, hnet₃, hnet₂, hnet]
    refine ⟨net, rfl, hobject, hnet', ?_, ?_⟩
    · have hold' : ser'._ip_old = ser₂._ip_old := by rw [hold₅, hold₄, hold₃]
      unfold PrimarySent
      rw [hip₅, hold', hattrs₅]
      rw [hip₃] at hfound
      have hattrs₃ : ser₃.attrs.lookup "ip" = ser₂.attrs.lookup "ip" := hattrs₃ "ip" (by decide)
      rcases hcases with ⟨rfl, hnet_old, hsent⟩ | ⟨row, hrow, hfree, hip₂, hold₂, hattrs_ip⟩ | ⟨hip₂, hold₂⟩
      · have hnone : ser₂._ip_old.toList = [] := by
          rw [hold]
          rfl
        rw [hnone]
        rcases hfound with ⟨⟨a, ha⟩, rfl⟩ | ⟨hempty, hnew⟩
        · refine .inl ⟨a, a, ha, hip₃.trans ha, rfl, rfl, .inl ⟨rfl, hnet_old⟩, ?_⟩
          rw [hattrs₃, hattrs, lookup_attrs_ip]
          cases hip : data.ip with
          | none => exact .inl rfl
          | some ip =>
            obtain ⟨a', ha', rfl⟩ := hsent ip hip
            rw [ha] at ha'
            obtain rfl := Ip.address.inj ha'
            exact .inr rfl
        · refine .inr ⟨hempty.symm, hnew.imp_left ?_⟩
          rintro ⟨row, hmem, hsubnet, hvm, hvms, -, hnew⟩
          exact ⟨row, hmem, hsubnet, .inl ⟨hvm, hvms⟩, hnew⟩
      · obtain ⟨-, hsubnet⟩ := get_address_spec hrow
        have hmem : row ∈ db.addresses := List.mem_of_find?_eq_some hrow
        rcases hfound with ⟨-, rfl⟩ | ⟨hempty, -⟩
        swap
        · rw [hip₂] at hempty
          cases hempty
        have hnew : row.subnet = net.uuid := by
          rw [hnet] at hsubnet
          exact Option.some.inj hsubnet
        have hattrs_row : ser₄.attrs.lookup "ip" = some (.str row.ip) := hattrs₃.trans hattrs_ip
        by_cases hdiffers : ser._ip.differs row = true
        · rw [hold₂, if_pos hdiffers]
          exact .inr ⟨rfl, .inl ⟨row, hmem, hnew, .inr hfree, hip₃.trans hip₂, hattrs_row⟩⟩
        · rw [hold₂, if_neg hdiffers, hold]
          cases hser : ser._ip with
          | none => exact .inr ⟨rfl, .inl ⟨row, hmem, hnew, .inr hfree, hip₃.trans hip₂, hattrs_row⟩⟩
          | dhcp => exact .inr ⟨rfl, .inl ⟨row, hmem, hnew, .inr hfree, hip₃.trans hip₂, hattrs_row⟩⟩
          | address a =>
            have hsame : row.pair = a.pair := by
              rw [hser, differs_iff] at hdiffers
              simp only [Ip.address.injEq, exists_eq_left', not_or, not_not] at hdiffers
              exact pair_eq_iff.mpr ⟨hdiffers.1.symm, hdiffers.2.symm⟩
            exact .inl ⟨a, row, rfl, hip₃.trans hip₂, hsame, rfl, .inr ⟨hmem, hnew⟩, .inr hattrs_row⟩
      · rcases hfound with ⟨⟨a, ha⟩, -⟩ | ⟨-, hnew⟩
        · rw [hip₂] at ha
          cases ha
        · rw [hold₂]
          refine .inr ⟨rfl, hnew.imp_left ?_⟩
          rintro ⟨row, hmem, hsubnet, hvm, hvms, -, hnew⟩
          exact ⟨row, hmem, hsubnet, .inl ⟨hvm, hvms⟩, hnew⟩
    · unfold AllowedSent
      rw [hchanging₅, hchanging₄, hips₅, hips₄, hips_old₅, hips_old₄, hallowed₅, hattrs₄]
      rw [hnet₂, hnet, hnet_old₂, hips₂, hips_old₂, hips_old] at hallowed
      rcases hallowed with ⟨hsome, hchanging₃, hips₃, hlength, hother, hold₃, hattr⟩ |
        ⟨hempty, hchange, hchanging₃, hips₃, hold₃, hattr⟩ | ⟨hempty, rfl, hkept⟩
      · left
        rw [hips₃] at hlength
        have hmem := mem_filter_addresses_ip hunique hlength
        refine ⟨hchanging₃, ?_, ?_, ?_, ?_, ?_, _, hattr, ?_⟩
        · right
          intro hnone
          rw [hnone] at hsome
          exact hsome rfl
        · intro row hrow
          rw [hips₃] at hrow
          simp only [Db.filter_addresses, List.mem_filter, Bool.and_eq_true, decide_eq_true_eq] at hrow
          exact ⟨hrow.1, Option.some.inj hrow.2.2⟩
        · intro ip
          rw [hips₃, hmem, List.mem_dedup]
        · intro row hrow
          rw [hip₅] at hrow
          rcases hfound with ⟨-, rfl⟩ | ⟨-, ⟨found, -, -, -, -, hnot, hip₄, -⟩ | ⟨-, hip₄, -⟩⟩
          · exact hother row (hip₃.symm.trans hrow)
          · obtain rfl := Ip.address.inj (hip₄.symm.trans hrow)
            exact hnot
          · rw [hip₄] at hrow
            cases hrow
        · rw [hold₃]
          split
          · rfl
          · case isFalse hnone => rw [not_not.mp hnone, List.filter_nil]
        · intro ip
          rw [List.mem_dedup]
      · left
        rw [List.dedup_eq_nil] at hempty
        rw [hips₃, hempty, hold₃]
        refine ⟨hchanging₃, hchange, fun row hrow => absurd hrow List.not_mem_nil, fun ip => Iff.rfl,
          fun _ _ => List.not_mem_nil, ?_, [], hattr, fun ip => Iff.rfl⟩
        simp
      · right
        rw [List.dedup_eq_nil] at hempty
        refine ⟨hchanging₂.trans hchanging, hempty, hips₂, ?_, hkept⟩
        rw [hattrs₂ "allowed_ips" (by decide), hattrs, lookup_attrs_allowed_ips]

end serializer

section items

variable {db : Db U D} {req : Request} {vm : Vm U} {nic : Item} {data : Data} {ser ser' : VmDefineNicSerializer U}

/-- The rows of the tables: addresses are unique in a network, and the texts are those of addresses, names and UUIDs. -/
structure Db.WellFormed (db : Db U D) : Prop where
  unique : (db.addresses.map (·.pair)).Nodup
  ips : ∀ row ∈ db.addresses, row.ip ≠ "" ∧ row.ip ≠ "dhcp"
  uuids : ∀ net ∈ db.subnets, net.uuid ≠ ""
  names : ∀ net ∈ db.subnets, net.name ≠ ""

theorem get_save_nic {i : ℕ} {k : String} (hkept : ∀ value, removed vm.hvm k value = false) (hinterface : k ≠ "interface") :
    get (vm.save_nic i nic) k = get nic k := by
  unfold get
  rw [lookup_save_nic, if_neg hinterface]
  simp only [hkept, Bool.not_false]
  cases nic.lookup k <;> rfl

/-- The addresses and the network of a NIC are saved as they are. -/
theorem to_nic_save_nic (vm : Vm U) (i : ℕ) (nic : Item) : to_nic (vm.save_nic i nic) = to_nic nic := by
  have hip : get (vm.save_nic i nic) "ip" = get nic "ip" :=
    get_save_nic (fun value => by simp [removed, vms.definition.Vm._NICS_REMOVE_EMPTY]) (by decide)
  have hnetwork : get (vm.save_nic i nic) "network_uuid" = get nic "network_uuid" :=
    get_save_nic (fun value => by simp [removed, vms.definition.Vm._NICS_REMOVE_EMPTY]) (by decide)
  have hallowed : addresses_of (get (vm.save_nic i nic) "allowed_ips") = addresses_of (get nic "allowed_ips") := by
    unfold get
    rw [lookup_save_nic, if_neg (by decide)]
    cases nic.lookup "allowed_ips" with
    | none => rfl
    | some value =>
      rw [Option.filter_some]
      cases hfalsy : value.falsy with
      | false => simp [removed, vms.definition.Vm._NICS_REMOVE_EMPTY, hfalsy]
      | true =>
        cases value with
        | strs ips =>
          have hempty : ips = [] := by simpa [Value.falsy] using hfalsy
          simp [removed, vms.definition.Vm._NICS_REMOVE_EMPTY, hempty, Value.falsy, addresses_of]
        | null => simp [removed, vms.definition.Vm._NICS_REMOVE_EMPTY, Value.falsy, addresses_of]
        | bool b => simp [removed, vms.definition.Vm._NICS_REMOVE_EMPTY, hfalsy, addresses_of]
        | int n => simp [removed, vms.definition.Vm._NICS_REMOVE_EMPTY, hfalsy, addresses_of]
        | str s => simp [removed, vms.definition.Vm._NICS_REMOVE_EMPTY, hfalsy, addresses_of]
        | json t => cases hfalsy
  unfold to_nic nic_ip network_uuid
  rw [hip, hnetwork, hallowed]

theorem network_uuid_eq {nic' : Item} {net : Option Subnet} (hfix : fix_net db nic = .ok (nic', net)) :
    network_uuid nic = (stored_net db nic).map Subnet.uuid := by
  unfold fix_net at hfix
  unfold network_uuid stored_net
  split at hfix
  · case isTrue hfalsy =>
    rw [if_pos hfalsy]
    cases hvalue : get nic "network_uuid" with
    | str uuid =>
      rw [hvalue] at hfalsy
      have hempty : uuid = "" := by simpa [Value.falsy] using hfalsy
      simp [hempty]
    | null => rfl
    | bool b => rfl
    | int n => rfl
    | strs ips => rfl
    | json t => rfl
  · case isFalse hfalsy =>
    rw [if_neg hfalsy]
    split at hfix
    · cases hfix
    · case h_2 net hfind =>
      have huuid := List.find?_some hfind
      rw [decide_eq_true_eq] at huuid
      rw [hfind, ← huuid]
      have hne : net.uuid ≠ "" := by
        intro hempty
        rw [← huuid, hempty] at hfalsy
        exact hfalsy (by simp [Value.falsy])
      simp [hne]

theorem nic_ip_eq_address {ip : String} :
    nic_ip nic = .address ip ↔ get nic "ip" = .str ip ∧ ip ≠ "" ∧ ip ≠ "dhcp" := by
  unfold nic_ip
  cases get nic "ip" with
  | str value =>
    by_cases hempty : value = ""
    · simp only [hempty, if_true, Value.str.injEq]
      exact iff_of_false (fun h => by cases h) fun h => h.2.1 h.1.symm
    · by_cases hdhcp : value = "dhcp"
      · simp only [hdhcp, if_true, Value.str.injEq]
        exact iff_of_false (fun h => by cases h) fun h => h.2.2 h.1.symm
      · simp only [hempty, hdhcp, if_false, Value.str.injEq, vms.ipaddress.NicIp.address.injEq]
        constructor
        · rintro rfl
          exact ⟨rfl, hempty, hdhcp⟩
        · exact fun h => h.1
  | null => exact iff_of_false (fun h => by cases h) fun h => by cases h.1
  | bool b => exact iff_of_false (fun h => by cases h) fun h => by cases h.1
  | int n => exact iff_of_false (fun h => by cases h) fun h => by cases h.1
  | strs ips => exact iff_of_false (fun h => by cases h) fun h => by cases h.1
  | json t => exact iff_of_false (fun h => by cases h) fun h => by cases h.1

theorem mem_primary_ip {nic : vms.ipaddress.Nic String String} {ip : String} :
    ip ∈ nic.primary_ip ↔ nic.ip = .address ip := by
  unfold vms.ipaddress.Nic.primary_ip
  cases nic.ip with
  | none => exact iff_of_false List.not_mem_nil (fun h => by cases h)
  | dhcp => exact iff_of_false List.not_mem_nil (fun h => by cases h)
  | address a => simp [eq_comm]

theorem mem_filter_addresses {ips : List String} {net : Option Subnet} {row : Address U} :
    row ∈ db.filter_addresses ips net ↔ row ∈ db.addresses ∧ row.ip ∈ ips ∧ some row.subnet = net.map Subnet.uuid := by
  simp [Db.filter_addresses]

theorem fix_ip_address {nic' : Item} {net : Option Subnet} {row : Address U}
    (hfix : fix_ip db nic net = .ok (nic', .address row)) : nic' = nic ∧ get nic "ip" = .str row.ip := by
  unfold fix_ip at hfix
  split at hfix
  · cases hfix
  · split at hfix
    · cases hfix
    · split at hfix
      · cases hfix
      · case h_2 found hfind =>
        obtain ⟨rfl, hsame⟩ := Prod.mk.inj (Except.ok.inj hfix)
        obtain rfl := Ip.address.inj hsame
        have hfound := List.find?_some hfind
        rw [Bool.and_eq_true, decide_eq_true_eq] at hfound
        exact ⟨rfl, hfound.1.symm⟩

/-- The records of a NIC in the definition, by the addresses and the network it has there. -/
theorem fix_before_records (hdb : db.WellFormed) (hfix : fix_before db vm nic = .ok ser) :
    network_uuid nic = (stored_net db nic).map Subnet.uuid ∧ ser._ips_old = [] ∧
      (∀ row ∈ db.addresses, row.pair ∈ (to_nic nic).pairs (to_nic nic).primary_ip ↔ ser._ip = .address row) ∧
      (∀ row ∈ db.addresses, row.pair ∈ (to_nic nic).pairs (to_nic nic).allowed_ips ↔ row ∈ ser._ips) ∧
      (∀ row ∈ ser._ips, row ∈ db.addresses) ∧
      (∃ object, ser.object = some object ∧ (∀ row, ser._ip = .address row → get object "ip" = .str row.ip) ∧
        (object.lookup "allowed_ips" = none → nic.lookup "allowed_ips" = none) ∧
        ∀ ip, ip ∈ addresses_of (get object "allowed_ips") ↔ ip ∈ addresses_of (get nic "allowed_ips")) := by
  obtain ⟨-, -, haddress⟩ := fix_before_ips hfix
  unfold fix_before at hfix
  obtain ⟨⟨nic₁, net⟩, hnet, hfix⟩ := bind_eq_ok.mp hfix
  obtain ⟨⟨nic₂, _ip⟩, hip, hfix⟩ := bind_eq_ok.mp hfix
  obtain ⟨rfl, hsame, -⟩ := fix_net_spec hnet
  have hnetwork := network_uuid_eq hnet
  obtain rfl := Except.ok.inj hfix
  have hallowed : get nic₂ "allowed_ips" = get nic "allowed_ips" := by
    unfold get
    rw [lookup_fix_ip (by decide) hip, lookup_set_missing (by decide) (by decide) (by decide),
      hsame "allowed_ips" (by decide) (by decide)]
  refine ⟨hnetwork, rfl, ?_, ?_, ?_, ⟨_, rfl, ?_, ?_, ?_⟩⟩
  · intro row hrow
    rw [haddress, mem_pairs, mem_primary_ip]
    change network_uuid nic = some row.subnet ∧ nic_ip nic = .address row.ip ↔ _
    rw [hnetwork, nic_ip_eq_address, stored_address]
    constructor
    · rintro ⟨hsubnet, hget, hne, hdhcp⟩
      have hfalsy : ¬ (get nic "ip").falsy = true := by
        rw [hget]
        simpa [Value.falsy] using hne
      have hstatic : ¬ ((stored_net db nic).any (·.dhcp_passthrough) && decide (get nic "ip" = .str "dhcp")) = true := by
        rw [hget]
        simp [hdhcp]
      rw [if_neg hfalsy, if_neg hstatic]
      cases hfind : db.addresses.find? fun row =>
          .str row.ip = get nic "ip" && some row.subnet = (stored_net db nic).map Subnet.uuid with
      | none =>
        have hnone := List.find?_eq_none.mp hfind row hrow
        rw [hget, hsubnet] at hnone
        simp at hnone
      | some found =>
        have hfound := List.find?_some hfind
        rw [hget, hsubnet, Bool.and_eq_true, decide_eq_true_eq, decide_eq_true_eq] at hfound
        have hpair : found.pair = row.pair := pair_eq_iff.mpr ⟨Value.str.inj hfound.1, Option.some.inj hfound.2⟩
        rw [List.inj_on_of_nodup_map hdb.unique (List.mem_of_find?_eq_some hfind) hrow hpair]
    · intro hstored
      split at hstored
      · cases hstored
      · split at hstored
        · cases hstored
        · have hfound := List.find?_some hstored
          rw [Bool.and_eq_true, decide_eq_true_eq, decide_eq_true_eq] at hfound
          exact ⟨hfound.2.symm, hfound.1.symm, hdb.ips row hrow⟩
  · intro row hrow
    rw [mem_pairs]
    change network_uuid nic = some row.subnet ∧ row.ip ∈ addresses_of (get nic "allowed_ips") ↔
      row ∈ db.filter_addresses (addresses_of (get nic₂ "allowed_ips")) (stored_net db nic)
    rw [hallowed, mem_filter_addresses, and_iff_right hrow, hnetwork, and_comm, eq_comm]
  · exact fun row hrow => (mem_filter_addresses.mp hrow).1
  · intro row hrow
    have hrow : _ip = .address row := hrow
    subst hrow
    obtain ⟨rfl, hget⟩ := fix_ip_address hip
    rw [get, lookup_fix_dummies (by decide), lookup_fix_allowed_ips (by decide), ← get, hget]
  · rw [lookup_fix_dummies (by decide), fix_allowed_ips]
    split
    · rw [lookup_fix_ip (by decide) hip, lookup_set_missing (by decide) (by decide) (by decide),
        hsame "allowed_ips" (by decide) (by decide)]
      exact id
    · rw [Dict.lookup_insert_ite, if_pos rfl]
      exact fun h => by cases h
  · intro ip
    rw [get, lookup_fix_dummies (by decide), fix_allowed_ips]
    split
    · change ip ∈ addresses_of (get nic₂ "allowed_ips") ↔ _
      rw [hallowed]
    · rw [Dict.lookup_insert_ite, if_pos rfl, Option.getD_some, hallowed, addresses_of, List.mem_dedup]

/-- A NIC in the definition that has the network and the addresses of a serializer. -/
structure SavedNic (db : Db U D) (net : Subnet) (ser : VmDefineNicSerializer U) (item : Item) : Prop where
  network : network_uuid item = some net.uuid
  address : ∀ row, ser._ip = .address row → row ∈ db.addresses ∧ row.subnet = net.uuid ∧ nic_ip item = .address row.ip
  dhcp : ser._ip = .dhcp → nic_ip item = .dhcp
  ips : ∀ row ∈ ser._ips, row ∈ db.addresses ∧ row.subnet = net.uuid
  allowed : ∀ ip, ip ∈ (to_nic item).allowed_ips ↔ ip ∈ ser._ips.map (·.ip)

/-- What a serialized NIC becomes in the definition, over the attributes that were there. -/
theorem saved_attributes {object item : Item} {net : Subnet} {base : String → Option Value}
    (hobject : ser.object = some object) (hnet : ser._net = some net) (huuid : net.uuid ≠ "")
    (hname : (get object "net").falsy = false)
    (hitem : ∀ k, item.lookup k = (ser.jsondata.lookup k).or (base k)) :
    network_uuid item = some net.uuid ∧
      ((get object "ip").falsy = false → get item "ip" = get object "ip") ∧
      ((get object "ip").falsy = true → net.dhcp_passthrough = true → get item "ip" = .str "dhcp") ∧
      item.lookup "allowed_ips" = (object.lookup "allowed_ips").or (base "allowed_ips") := by
  have hjson := lookup_jsondata hobject hname
  refine ⟨?_, ?_, ?_, ?_⟩
  · have hlookup : item.lookup "network_uuid" = some (.str net.uuid) := by
      rw [hitem, hjson, if_neg (by decide), if_neg (by simp), if_neg (by simp), if_pos rfl, hnet]
      rfl
    rw [network_uuid, get, hlookup]
    simp [huuid]
  · intro hfalsy
    have hlookup : ser.jsondata.lookup "ip" = object.lookup "ip" := by
      rw [hjson, if_neg (by decide), if_neg (by simp [hfalsy]), if_neg (by simp [hfalsy]), if_neg (by decide)]
    rw [get, hitem, hlookup]
    cases hip : object.lookup "ip" with
    | none =>
      rw [get, hip] at hfalsy
      cases hfalsy
    | some value => rw [get, hip, Option.some_or]
  · intro hfalsy hdhcp
    have hlookup : ser.jsondata.lookup "ip" = some (.str "dhcp") := by
      rw [hjson, if_neg (by decide), if_neg (by simp), if_pos (by simp [hfalsy, hnet, hdhcp])]
    rw [get, hitem, hlookup]
    rfl
  · rw [hitem, hjson, if_neg (by decide), if_neg (by simp), if_neg (by simp), if_neg (by decide)]

theorem validate_net_fields (hvalid : validate_net db req vm data ser = .ok ser') :
    ser'.object = ser.object ∧ ser'.attrs = ser.attrs ∧ ser'._ip = ser._ip ∧ ser'._ip_old = ser._ip_old ∧
      ser'._ips = ser._ips ∧ ser'._ips_old = ser._ips_old ∧ ser'._changing_allowed_ips = ser._changing_allowed_ips ∧
      data.net ≠ some "" ∧ ∀ net, ser'._net = some net → ser._net = some net ∨ net ∈ db.subnets := by
  unfold validate_net at hvalid
  split at hvalid
  · case h_1 hnone =>
    obtain rfl := Except.ok.inj hvalid
    rw [hnone]
    exact ⟨rfl, rfl, rfl, rfl, rfl, rfl, rfl, (fun h => by cases h), fun _ h => .inl h⟩
  · case h_2 value hvalue =>
    split at hvalid
    · cases hvalid
    case isFalse hempty =>
    have hne : data.net ≠ some "" := fun h => hempty (Option.some.inj (hvalue.symm.trans h))
    split at hvalid
    · obtain rfl := Except.ok.inj hvalid
      exact ⟨rfl, rfl, rfl, rfl, rfl, rfl, rfl, hne, fun _ h => .inl h⟩
    · split at hvalid
      · cases hvalid
      case h_2 _net hfind =>
      have hmem : ∀ net, some _net = some net → net ∈ db.subnets := by
        intro net heq
        obtain rfl := Option.some.inj heq
        exact List.mem_of_find?_eq_some hfind
      split at hvalid
      · cases hvalid
      · obtain ⟨_, -, hvalid⟩ := bind_eq_ok.mp hvalid
        split at hvalid
        · obtain rfl := Except.ok.inj hvalid
          exact ⟨rfl, rfl, rfl, rfl, rfl, rfl, rfl, hne, fun net h => .inr (hmem net h)⟩
        · split at hvalid
          · cases hvalid
          · obtain rfl := Except.ok.inj hvalid
            exact ⟨rfl, rfl, rfl, rfl, rfl, rfl, rfl, hne, fun net h => .inr (hmem net h)⟩

/-- The records of a NIC by the values of its attributes. -/
theorem savedNic_of_attributes {object item : Item} {net : Subnet} (hdb : db.WellFormed)
    (hnetwork : network_uuid item = some net.uuid)
    (hkept : (get object "ip").falsy = false → get item "ip" = get object "ip")
    (hdropped : (get object "ip").falsy = true → net.dhcp_passthrough = true → get item "ip" = .str "dhcp")
    (hprimary : (∃ row ∈ db.addresses, row.subnet = net.uuid ∧ ser._ip = .address row ∧ get object "ip" = .str row.ip) ∨
      net.dhcp_passthrough = true ∧ ser._ip = .dhcp ∧ get object "ip" = .null)
    (hips : ∀ row ∈ ser._ips, row ∈ db.addresses ∧ row.subnet = net.uuid)
    (hallowed : ∀ ip, ip ∈ addresses_of (get item "allowed_ips") ↔ ip ∈ ser._ips.map (·.ip)) :
    SavedNic db net ser item := by
  refine ⟨hnetwork, ?_, ?_, hips, hallowed⟩
  · intro row hrow
    rcases hprimary with ⟨row', hmem, hsubnet, hip, hget⟩ | ⟨-, hip, -⟩
    · rw [hip] at hrow
      obtain rfl := Ip.address.inj hrow
      have hfalsy : (get object "ip").falsy = false := by
        rw [hget]
        simpa [Value.falsy] using (hdb.ips row' hmem).1
      exact ⟨hmem, hsubnet, nic_ip_eq_address.mpr ⟨(hkept hfalsy).trans hget, hdb.ips row' hmem⟩⟩
    · rw [hip] at hrow
      cases hrow
  · intro hrow
    rcases hprimary with ⟨row', -, -, hip, -⟩ | ⟨hdhcp, -, hget⟩
    · rw [hip] at hrow
      cases hrow
    · rw [nic_ip, hdropped (by rw [hget]; rfl) hdhcp]
      rfl

variable [DecidableEq U] [DecidableEq D]

/-- The serializers of a valid request: the one with its network, and the one with its addresses. -/
theorem is_valid_sent {nic_id : ℕ} (hunique : (db.addresses.map (·.pair)).Nodup) (hold : ser._ip_old = .none)
    (hchanging : ser._changing_allowed_ips = false) (hips_old : ser._ips_old = [])
    (hvalid : is_valid db req vm nic_id data ser = .ok ser') :
    ∃ ser₁ ser₂ net, validate_net db req vm data { ser with attrs := data.attrs } = .ok ser₁ ∧ data.net ≠ some "" ∧
      ser₁._net = some net ∧ ser₁._ip = ser._ip ∧ ser₁._ips = ser._ips ∧ ser'._net = some net ∧
      ser₂.attrs.lookup "net" = data.net.map .str ∧ ser'.object = some (match ser.object with
        | some object => object.update ser₂.attrs
        | none => ser₂.attrs) ∧
      ser'._ip = ser₂._ip ∧ ser'._ip_old = ser₂._ip_old ∧ ser'._ips = ser₂._ips ∧ ser'._ips_old = ser₂._ips_old ∧
      ser'._changing_allowed_ips = ser₂._changing_allowed_ips ∧
      PrimarySent db vm net ser₁ ser₂ ∧ AllowedSent db data net ser₁ ser₂ := by
  unfold is_valid at hvalid
  obtain ⟨ser₁, hvalid_net, hvalid⟩ := bind_eq_ok.mp hvalid
  obtain ⟨hobject₁, hattrs₁, hip₁, hold₁, hips₁, hips_old₁, hchanging₁, hname, -⟩ := validate_net_fields hvalid_net
  split at hvalid
  swap
  · cases hvalid
  obtain ⟨ser₂, hvalidate, hser'⟩ := bind_eq_ok.mp hvalid
  obtain ⟨net, hnet₁, hobject₂, hnet₂, hprimary, hallowed⟩ := validate_sent hunique hattrs₁ (hold₁.trans hold)
    (hchanging₁.trans hchanging) (hips_old₁.trans hips_old) hvalidate
  obtain ⟨-, -, -, hattr_net, -⟩ := validate_spec hattrs₁ hvalidate
  rw [hobject₁] at hobject₂
  rw [hobject₂] at hser'
  obtain rfl := Except.ok.inj hser'
  exact ⟨ser₁, ser₂, net, hvalid_net, hname, hnet₁, hip₁, hips₁, hnet₂, hattr_net, rfl, rfl, rfl, rfl, rfl, rfl,
    hprimary, hallowed⟩

/-- The NIC of an accepted `POST` in the definition. -/
theorem post_saved {nic_id : ℕ} (hdb : db.WellFormed) (hser : post_serializer db req vm nic_id data = .ok ser) :
    ∃ net, ser._ip_old.toList = [] ∧ SavedNic db net ser ser.jsondata ∧
      (ser._changing_allowed_ips = true → ser._ips_old = []) ∧
      (ser._changing_allowed_ips = false → ser._ips = []) ∧
      ∀ row, ser._ip = .address row → Free db vm row ∧ row.ip ∉ ser._ips.map (·.ip) := by
  unfold post_serializer at hser
  obtain ⟨_, -, hvalid⟩ := bind_eq_ok.mp hser
  generalize data.with_defaults req.defaults = data at hvalid
  obtain ⟨ser₁, ser₂, net, hvalid_net, hempty, hnet₁, hip₁, hips₁, hnet, hattr_net, hobject, hip, hold, hips, hips_old,
    hchanging, hprimary, hallowed⟩ := is_valid_sent hdb.unique rfl rfl rfl hvalid
  have hip₁ : ser₁._ip = .none := hip₁
  have hips₁ : ser₁._ips = [] := hips₁
  obtain ⟨-, hpost_net⟩ := validate_net_new rfl rfl hvalid_net
  have hobject : ser.object = some ser₂.attrs := hobject
  have hmem : net ∈ db.subnets := by
    rw [hnet₁] at hpost_net
    unfold post_net at hpost_net
    obtain ⟨value, -, hfind⟩ := Option.bind_eq_some_iff.mp hpost_net.symm
    exact List.mem_of_find?_eq_some hfind
  have hname : (get ser₂.attrs "net").falsy = false := by
    rw [get, hattr_net]
    cases hvalue : data.net with
    | none =>
      rw [hnet₁, post_net, hvalue] at hpost_net
      cases hpost_net
    | some value =>
      have hne : value ≠ "" := fun h => hempty (by rw [hvalue, h])
      simp [Value.falsy, hne]
  have hitem : ∀ k, ser.jsondata.lookup k = (ser.jsondata.lookup k).or none := fun k => Option.or_none.symm
  obtain ⟨hnetwork, hkept, hdropped, hallowed_ips⟩ := saved_attributes hobject hnet (hdb.uuids net hmem) hname hitem
  rcases hprimary with ⟨a, -, ha, -⟩ | ⟨hold', hnew⟩
  · rw [hip₁] at ha
    cases ha
  have hold'' : ser._ip_old.toList = [] := by
    rw [hold, hold', hip₁]
    rfl
  have hprimary' : (∃ row ∈ db.addresses, row.subnet = net.uuid ∧ ser._ip = .address row ∧
      get ser₂.attrs "ip" = .str row.ip) ∨
      net.dhcp_passthrough = true ∧ ser._ip = .dhcp ∧ get ser₂.attrs "ip" = .null := by
    rw [hip]
    rcases hnew with ⟨row, hmem', hsubnet, -, hip₂, hattr⟩ | ⟨hdhcp, hip₂, hattr⟩
    · exact .inl ⟨row, hmem', hsubnet, hip₂, by rw [get, hattr, Option.getD_some]⟩
    · exact .inr ⟨hdhcp, hip₂, by rw [get, hattr, Option.getD_some]⟩
  have hfree : ∀ row, ser._ip = .address row → Free db vm row := by
    intro row hrow
    rw [hip] at hrow
    rcases hnew with ⟨row', -, -, hfree, hip₂, -⟩ | ⟨-, hip₂, -⟩
    · obtain rfl := Ip.address.inj (hip₂.symm.trans hrow)
      exact hfree
    · rw [hip₂] at hrow
      cases hrow
  rw [hchanging, hips, hips_old]
  rcases hallowed with ⟨hchanging₂, -, hmem_ips, hsent, hother, hips_old₂, texts, hattr, htexts⟩ |
    ⟨hchanging₂, hnone, hips₂, hattr, -⟩
  · refine ⟨net, hold'', savedNic_of_attributes hdb hnetwork hkept hdropped hprimary' ?_ ?_, ?_, ?_, ?_⟩
    · rw [hips]
      exact hmem_ips
    · rw [get, hallowed_ips, hattr, hips]
      exact htexts
    · intro _
      rw [hips_old₂, hips₁, List.filter_nil]
    · rw [hchanging₂]
      exact fun h => by cases h
    · intro row hrow
      rw [hsent]
      exact ⟨hfree row hrow, hother row (hip.symm.trans hrow)⟩
  · refine ⟨net, hold'', savedNic_of_attributes hdb hnetwork hkept hdropped hprimary' ?_ ?_, ?_, ?_, ?_⟩
    · rw [hips, hips₂, hips₁]
      exact fun _ h => absurd h List.not_mem_nil
    · rw [get, hallowed_ips, hattr, hips, hips₂, hips₁]
      intro ip
      cases hsent : data.allowed_ips with
      | none => exact Iff.rfl
      | some ips =>
        rw [hsent, Option.getD_some] at hnone
        rw [hnone]
        exact Iff.rfl
    · rw [hchanging₂]
      exact fun h => by cases h
    · intro _
      rw [hips₂, hips₁]
    · intro row hrow
      rw [hips₂, hips₁]
      exact ⟨hfree row hrow, List.not_mem_nil⟩

/-- The allowed addresses that a request sets: those that were sent, or none for another network. -/
def changed_allowed_ips (db : Db U D) (nic : Item) (data : Data) : Option (List String) :=
  match data.allowed_ips with
  | some ips => some ips
  | none => if data.net.all fun value => (stored_net db nic).any (·.name = value) then none else some []

/-- The primary address of a NIC after a request: the one that was there, or another one or none in place of it. -/
def PrimaryChange (db : Db U D) (vm : Vm U) (ser₀ ser : VmDefineNicSerializer U) : Prop :=
  (∃ a row, ser₀._ip = .address a ∧ ser._ip = .address row ∧ row.pair = a.pair ∧ ser._ip_old.toList = []) ∨
  ser._ip_old.toList = ser₀._ip.toList ∧ ∀ row, ser._ip = .address row → Free db vm row

/-- The allowed addresses of a NIC after a request: those that it sets in place of the others, or those that were there. -/
def AllowedChange (db : Db U D) (nic : Item) (data : Data) (ser₀ ser : VmDefineNicSerializer U) : Prop :=
  (ser._changing_allowed_ips = true ∧ ser._ips_old = ser₀._ips.filter (·.ip ∉ ser._ips.map (·.ip)) ∧
    (∀ row, ser._ip = .address row → row.ip ∉ ser._ips.map (·.ip)) ∧
    ∃ texts, changed_allowed_ips db nic data = some texts ∧ ∀ ip, ip ∈ texts ↔ ip ∈ ser._ips.map (·.ip)) ∨
  ser._changing_allowed_ips = false ∧ ser._ips = ser₀._ips ∧
    ∀ texts, changed_allowed_ips db nic data = some texts → ser₀._ips = []

omit [DecidableEq U] [DecidableEq D] in
theorem stored_address_mem {old : Address U} (hold : stored_address db nic = some old) : old ∈ db.addresses := by
  unfold stored_address at hold
  split at hold
  · cases hold
  · split at hold
    · cases hold
    · exact List.mem_of_find?_eq_some hold

/-- The NIC of an accepted `PUT` in the definition. -/
theorem put_saved {nic_id : ℕ} (hdb : db.WellFormed) (hnic : vm.nics[nic_id]? = some nic)
    (hknown : ∀ ip ∈ (to_nic nic).allowed_ips, ∃ row ∈ db.addresses, row.ip = ip ∧ network_uuid nic = some row.subnet)
    (hser : put_serializer db req vm nic_id data = .ok ser) :
    ∃ ser₀ net, fix_before db vm nic = .ok ser₀ ∧ new_net db req nic data = some net ∧
      SavedNic db net ser (Dict.update nic ser.jsondata) ∧ PrimaryChange db vm ser₀ ser ∧
      ((∃ row, ser._ip = .address row) ↔ without_ip db req nic data = false) ∧ AllowedChange db nic data ser₀ ser := by
  obtain ⟨object, hobject, hnew_net, -, hname, hwithout⟩ := put_serializer_spec hnic hdb.names hser
  obtain ⟨ser₀, hfix, hvalid⟩ := put_serializer_eq_ok hnic hser
  obtain ⟨object₀, hobject₀, hnet₀, hnet_old₀, -, -, -, -⟩ := fix_before_spec hfix
  obtain ⟨hold₀, hchanging₀, haddress₀⟩ := fix_before_ips hfix
  obtain ⟨hnetwork₀, hips_old₀, -, hallowed₀, hmem₀, object₀', hobject₀', hip₀, hlookup₀, htexts₀⟩ :=
    fix_before_records hdb hfix
  obtain rfl := Option.some.inj (hobject₀.symm.trans hobject₀')
  obtain ⟨ser₁, ser₂, net, hvalid_net, -, hnet₁, hip₁, hips₁, hnet, -, hobject', hip, hold, hips, hips_old,
    hchanging, hprimary, hallowed⟩ := is_valid_sent hdb.unique hold₀ hchanging₀ hips_old₀ hvalid
  have hisSome : ({ ser₀ with attrs := data.attrs } : VmDefineNicSerializer U).object.isSome := by
    rw [hobject₀]
    rfl
  obtain ⟨-, -, -, -, -, hunchanged, hsame⟩ := validate_net_spec hisSome hnet₀ hvalid_net
  obtain ⟨-, -, -, -, -, -, -, -, hsubnets⟩ := validate_net_fields hvalid_net
  have hmem : net ∈ db.subnets := (hsubnets net hnet₁).elim (fun h => stored_net_mem (hnet₀.symm.trans h)) id
  rw [hobject₀] at hobject'
  obtain rfl := Option.some.inj (hobject.symm.trans hobject')
  have hitem : ∀ k, (Dict.update nic ser.jsondata).lookup k = (ser.jsondata.lookup k).or (nic.lookup k) :=
    fun k => Dict.lookup_update _ _ _
  obtain ⟨hnetwork, hkept, hdropped, hallowed_ips⟩ := saved_attributes hobject hnet (hdb.uuids net hmem) hname hitem
  have hips₁ : ser₁._ips = ser₀._ips := hips₁
  -- the network stays the same if the serializer has no old one
  have hstays : ∀ row : Address U, ser₁._net_old = none → some row.subnet = (stored_net db nic).map Subnet.uuid →
      data.net.all (fun value => (stored_net db nic).any (·.name = value)) = true ∧ row.subnet = net.uuid := by
    intro row hnone hsubnet
    cases hstored : stored_net db nic with
    | none =>
      rw [hstored] at hsubnet
      cases hsubnet
    | some stored =>
      have hall := hunchanged hnone (by rw [hstored]; exact fun h => by cases h)
      rw [hsame hall] at hnet₁
      have hstored' : stored = net := Option.some.inj (hstored.symm.trans (hnet₀.symm.trans hnet₁))
      rw [hstored, hstored'] at hsubnet
      exact ⟨hstored ▸ hall, Option.some.inj hsubnet⟩
  have hsubnet₀ : ∀ row ∈ ser₀._ips, some row.subnet = (stored_net db nic).map Subnet.uuid := by
    intro row hrow
    have hpair := (hallowed₀ row (hmem₀ row hrow)).mpr hrow
    exact (mem_pairs.mp hpair).1.symm.trans hnetwork₀
  have hget : (∃ row ∈ db.addresses, row.subnet = net.uuid ∧ ser._ip = .address row ∧
      get (Dict.update object₀ ser₂.attrs) "ip" = .str row.ip) ∨
      net.dhcp_passthrough = true ∧ ser._ip = .dhcp ∧ get (Dict.update object₀ ser₂.attrs) "ip" = .null := by
    rw [get, Dict.lookup_update, hip]
    rcases hprimary with ⟨a, row, ha, hrow, hpair, -, hcase, hattr⟩ |
      ⟨-, ⟨row, hmem', hsubnet, -, hrow, hattr⟩ | ⟨hdhcp, hrow, hattr⟩⟩
    · have ha₀ : ser₀._ip = .address a := hip₁.symm.trans ha
      have hstored := (haddress₀ a).mp ha₀
      have hrow' : row ∈ db.addresses ∧ row.subnet = net.uuid := by
        rcases hcase with ⟨rfl, hnone⟩ | hfound
        · exact ⟨stored_address_mem hstored, (hstays row hnone (stored_address_subnet hstored)).2⟩
        · exact hfound
      refine .inl ⟨row, hrow'.1, hrow'.2, hrow, ?_⟩
      rcases hattr with hattr | hattr
      · rw [hattr, Option.none_or, ← get, hip₀ a ha₀, (pair_eq_iff.mp hpair).1]
      · rw [hattr, Option.some_or, Option.getD_some]
    · exact .inl ⟨row, hmem', hsubnet, hrow, by rw [hattr, Option.some_or, Option.getD_some]⟩
    · exact .inr ⟨hdhcp, hrow, by rw [hattr, Option.some_or, Option.getD_some]⟩
  refine ⟨ser₀, net, hfix, hnew_net ▸ hnet, ?_, ?_, ?_, ?_⟩
  · refine savedNic_of_attributes hdb hnetwork hkept hdropped hget ?_ ?_
    · rw [hips]
      rcases hallowed with ⟨-, -, hmem_ips, -⟩ | ⟨-, -, hips₂, -, hkept_ips⟩
      · exact hmem_ips
      · rw [hips₂, hips₁]
        rw [hips₁] at hkept_ips
        intro row hrow
        rcases hkept_ips with hempty | ⟨hnone, -⟩
        · rw [hempty] at hrow
          cases hrow
        · exact ⟨hmem₀ row hrow, (hstays row hnone (hsubnet₀ row hrow)).2⟩
    · rw [get, hallowed_ips, Dict.lookup_update, hips]
      rcases hallowed with ⟨-, -, -, -, -, -, texts, hattr, htexts⟩ | ⟨-, hnone, hips₂, hattr, hkept_ips⟩
      · rw [hattr]
        exact htexts
      · rw [hattr, hips₂, hips₁]
        rw [hips₁] at hkept_ips
        cases hsent : data.allowed_ips with
        | some ips =>
          rw [hsent] at hnone hkept_ips
          rcases hkept_ips with hempty | ⟨-, hcontra⟩
          · rw [Option.getD_some] at hnone
            rw [hempty, hnone]
            exact fun ip => Iff.rfl
          · cases hcontra
        | none =>
          have hobject_ips : ((object₀.lookup "allowed_ips").or (nic.lookup "allowed_ips")).getD .null =
              get object₀ "allowed_ips" := by
            rw [get]
            cases hlookup : object₀.lookup "allowed_ips" with
            | none => rw [hlookup₀ hlookup, Option.or_none]
            | some value => rw [Option.some_or]
          rw [Option.map_none, Option.none_or, hobject_ips]
          intro ip
          rw [htexts₀ ip, List.mem_map]
          constructor
          · intro hmem'
            obtain ⟨row, hrow, rfl, hsubnet⟩ := hknown ip hmem'
            exact ⟨row, (hallowed₀ row hrow).mp (mem_pairs.mpr ⟨hsubnet, hmem'⟩), rfl⟩
          · rintro ⟨row, hrow, rfl⟩
            exact (mem_pairs.mp ((hallowed₀ row (hmem₀ row hrow)).mpr hrow)).2
  · unfold PrimaryChange
    rw [hip, hold]
    rcases hprimary with ⟨a, row, ha, hrow, hpair, hnone, -⟩ | ⟨hold₂, hnew⟩
    · exact .inl ⟨a, row, hip₁.symm.trans ha, hrow, hpair, hnone⟩
    · refine .inr ⟨by rw [hold₂, hip₁], fun row hrow => ?_⟩
      rcases hnew with ⟨row', -, -, hfree, hrow', -⟩ | ⟨-, hrow', -⟩
      · rw [hrow'] at hrow
        obtain rfl := Ip.address.inj hrow
        exact hfree
      · rw [hrow'] at hrow
        cases hrow
  · have hnew : new_net db req nic data = some net := hnew_net ▸ hnet
    rw [hnew, Option.any_some] at hwithout
    rcases hget with ⟨row, hmem', -, hrow, hattr⟩ | ⟨hdhcp, hrow, hattr⟩
    · refine iff_of_true ⟨row, hrow⟩ ?_
      cases hdhcp : net.dhcp_passthrough with
      | true =>
        rw [← hwithout hdhcp, hattr]
        simpa [Value.falsy] using (hdb.ips row hmem').1
      | false => rw [without_ip, hnew, Option.any_some, hdhcp, Bool.false_and, Bool.false_and]
    · refine iff_of_false ?_ ?_
      · rintro ⟨row, hrow'⟩
        rw [hrow] at hrow'
        cases hrow'
      · rw [← hwithout hdhcp, hattr]
        exact fun h => by cases h
  · unfold AllowedChange
    rw [hchanging, hips, hips_old]
    rcases hallowed with ⟨hchanging₂, hchange, -, hsent, hother, hips_old₂, -⟩ |
      ⟨hchanging₂, -, hips₂, -, hkept_ips⟩
    · refine .inl ⟨hchanging₂, by rw [hips_old₂, hips₁], ?_, data.allowed_ips.getD [], ?_, fun ip => (hsent ip).symm⟩
      · intro row hrow
        rw [hsent]
        exact hother row (hip.symm.trans hrow)
      unfold changed_allowed_ips
      cases hdata : data.allowed_ips with
      | some ips => rfl
      | none =>
        rw [hdata] at hchange
        have hnot : ¬ data.net.all (fun value => (stored_net db nic).any (·.name = value)) = true := by
          intro hall
          rw [hsame hall] at hchange
          exact hchange.elim (fun h => h hnet_old₀) fun h => h rfl
        rw [if_neg hnot]
        rfl
    · refine .inr ⟨hchanging₂, hips₂.trans hips₁, fun texts htexts => ?_⟩
      rw [hips₁] at hkept_ips
      rcases hkept_ips with hempty | ⟨hnone, hdata⟩
      · exact hempty
      · rw [List.eq_nil_iff_forall_not_mem]
        intro row hrow
        obtain ⟨hall, -⟩ := hstays row hnone (hsubnet₀ row hrow)
        rw [changed_allowed_ips, hdata] at htexts
        simp only [if_pos hall] at htexts
        cases htexts

end items

end api.vm.define.nic
