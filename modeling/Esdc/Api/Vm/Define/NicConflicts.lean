import Mathlib
import Esdc.Api.Vm.Define.NicRecords

namespace api.vm.define.nic

open Fallible (bind_eq_ok)
open vms.definition (Item Value)
open vms.ipaddress (IPAddress Usage vm_update_ipaddress_usage)

variable {U D : Type} [DecidableEq U] [DecidableEq D]

section definitions

/-- No NIC has the primary address of another one. -/
structure Vm.Distinct (vm : Vm U) : Prop where
  nics : (vm.nics.flatMap primary_of).Nodup
  active_nics : (vm.active_nics.flatMap primary_of).Nodup

/-- Every VM has its records, and none of its addresses twice. -/
structure System.Consistent (s : System U D) : Prop extends System.Recorded s where
  distinct : ∀ uuid vm, s.vms.lookup uuid = some vm → vm.Distinct

/-- No address is taken from a NIC that is allowed to use it by the change of another NIC of the VM, unless it is in use on
the hypervisor. -/
def Vm.SparesAllowed (vm : Vm U) (db : Db U D) (nic_id : ℕ) (nic : Item) (data : Data) : Prop :=
  ∀ texts, changed_allowed_ips db nic data = some texts → ∀ row ∈ db.addresses, row.pair ∈ allowed_of nic →
    row.ip ∉ texts → row.pair ∈ vm.other_allowed nic_id → row.usage = .vm_real ∧ vm.is_deployed = true

/-- A NIC without an address gets none, no address is taken from a NIC that is allowed to use it by the change of another
NIC of the VM, and the node reports no address twice. -/
def System.Careful (s : System U D) : Op U → Prop
  | .put req uuid nic_id data => ∀ vm nic result, s.vms.lookup uuid = some vm → vm.nics[nic_id]? = some nic →
      VmDefineNicView.put s.db req vm nic_id data = .ok result →
      (stored_address s.db nic = none → without_ip s.db req nic data) ∧ vm.SparesAllowed s.db nic_id nic data
  | .synced _ nics => (nics.flatMap primary_of).Nodup
  | _ => True

/-- The record of the address that a request for a NIC asks for. -/
def requested_address (db : Db U D) (req : Request) (nic : Item) (data : Data) : Option (Address U) :=
  (data.ip.filter (· ≠ "")).bind fun ip => db.get_address ip (new_net db req nic data)

/-- A NIC keeps its address: the same one is sent, or none for the same network. -/
def KeepsAddress (db : Db U D) (req : Request) (nic : Item) (data : Data) (a : Address U) : Prop :=
  match data.ip with
  | some ip => ip = a.ip ∧ (new_net db req nic data).map Subnet.uuid = some a.subnet
  | none => keeps_ip db nic data = true

/-- The address of a NIC is not one of another NIC of the VM, unless it is in use on the hypervisor. -/
def Vm.Spares (vm : Vm U) (nic_id : ℕ) (a : Address U) : Prop :=
  a.pair ∈ (vm.nics.eraseIdx nic_id).flatMap primary_of → a.usage = .vm_real ∧ vm.is_deployed = true

/-- The VM keeps its records when a NIC is changed. -/
structure Vm.KeepsRecords (vm : Vm U) (db : Db U D) (req : Request) (nic_id : ℕ) (nic : Item) (data : Data) : Prop where
  /-- a NIC without an address gets none, or one that the VM has -/
  given : stored_address db nic = none → without_ip db req nic data = true ∨
    ∃ row, requested_address db req nic data = some row ∧ row.vm = some vm.uuid
  given_up : ∀ a, stored_address db nic = some a → ¬ KeepsAddress db req nic data a → vm.Spares nic_id a
  allowed : vm.SparesAllowed db nic_id nic data

/-- An accepted request takes no record from a NIC of the VM. -/
def System.Keeps (s : System U D) : Op U → Prop
  | .put req uuid nic_id data => ∀ vm nic result, s.vms.lookup uuid = some vm → vm.nics[nic_id]? = some nic →
      VmDefineNicView.put s.db req vm nic_id data = .ok result → vm.KeepsRecords s.db req nic_id nic data
  | .delete uuid nic_id => ∀ vm nic result, s.vms.lookup uuid = some vm → vm.nics[nic_id]? = some nic →
      VmDefineNicView.delete s.db vm nic_id = .ok result → ∀ a, stored_address s.db nic = some a → vm.Spares nic_id a
  | _ => True

end definitions

section asked

variable {db : Db U D} {req : Request} {vm : Vm U} {nic_id : ℕ} {nic : Item} {data : Data}
  {ser : VmDefineNicSerializer U}

omit [DecidableEq U] [DecidableEq D] in
theorem is_ip_of_stored_address (hdb : db.WellFormed) {a : Address U} (ha : stored_address db nic = some a) :
    is_ip nic = true := by
  have hips := hdb.ips a (stored_address_mem ha)
  unfold stored_address at ha
  split at ha
  · cases ha
  · split at ha
    · cases ha
    · have hcond := List.find?_some ha
      rw [Bool.and_eq_true, decide_eq_true_eq] at hcond
      rw [is_ip, ← hcond.1]
      simp [Value.falsy, hips]

/-- The old address of a valid `PUT`: none if the NIC keeps its address, and what it had otherwise. -/
theorem put_ip_old (hdb : db.WellFormed) (hnic : vm.nics[nic_id]? = some nic) {a : Address U}
    (ha : stored_address db nic = some a) (hser : put_serializer db req vm nic_id data = .ok ser) :
    ser._ip_old.toList = [] ↔ KeepsAddress db req nic data a := by
  obtain ⟨ser₀, hfix, hser⟩ := put_serializer_eq_ok hnic hser
  obtain ⟨object₀, hobject₀, hnet₀, hnet_old₀, -, -, haddress, -⟩ := fix_before_spec hfix
  obtain ⟨hold₀, hchanging₀, hstored⟩ := fix_before_ips hfix
  obtain ⟨ser₁, ser₂, hvalid_net, hvalid, hip, hold, -, -⟩ := is_valid_ips hser
  have hisSome : ({ ser₀ with attrs := data.attrs } : VmDefineNicSerializer U).object.isSome := by
    rw [hobject₀]
    rfl
  obtain ⟨-, -, -, hnet₁, -, hunchanged, hsame⟩ := validate_net_spec hisSome hnet₀ hvalid_net
  obtain ⟨hip₁, hold₁, hchanging₁⟩ := validate_net_ips hvalid_net
  have hip₁ : ser₁._ip = .address a := hip₁.trans ((hstored a).mpr ha)
  have hold₁ : ser₁._ip_old = .none := hold₁.trans hold₀
  have hnone : ser₁._ip_old.toList = [] := by
    rw [hold₁]
    rfl
  have hunchanged := fun hnone => hunchanged hnone (haddress ⟨a, (hstored a).mpr ha⟩).1
  have hall_iff : ser₁._net_old = none ↔
      data.net.all (fun value => (stored_net db nic).any (·.name = value)) = true := by
    refine ⟨hunchanged, fun hall => ?_⟩
    rw [hsame hall]
    exact hnet_old₀
  have hdiffers : ∀ row : Address U, ser₁._ip.differs row = true ↔ ¬ (row.ip = a.ip ∧ row.subnet = a.subnet) := by
    intro row
    rw [hip₁, Ip.differs, Bool.or_eq_true, decide_eq_true_eq, decide_eq_true_eq, not_and_or, ne_comm, @ne_comm _ a.subnet]
  obtain ⟨-, -, hcases⟩ := validate_ips (hchanging₁.trans hchanging₀) hvalid
  rw [hold]
  rcases hcases with ⟨ip, hsent, -, hnet_old, hhas, -, hold₂⟩ | ⟨ip, row, hsent, hrow, -, -, hold₂⟩ |
    ⟨hsent, hnew, hold₂, -⟩ | ⟨hsent, hnet_old, hdata, hold₂, -⟩
  · refine iff_of_true (hold₂ ▸ hnone) ?_
    obtain ⟨a', ha', rfl⟩ := has_iff.mp hhas
    obtain rfl := Ip.address.inj (hip₁.symm.trans ha')
    rw [KeepsAddress, (Option.filter_eq_some_iff.mp hsent).1]
    refine ⟨rfl, ?_⟩
    rw [new_net_eq_stored_net (hunchanged hnet_old), stored_address_subnet ha]
  · rw [hnet₁] at hrow
    obtain ⟨rfl, hsubnet⟩ := get_address_spec hrow
    rw [KeepsAddress, (Option.filter_eq_some_iff.mp hsent).1, hold₂]
    simp only [← hsubnet, Option.some.injEq]
    split
    · case isTrue h =>
      rw [hdiffers] at h
      refine iff_of_false ?_ h
      rw [hip₁]
      exact List.cons_ne_nil _ _
    · case isFalse h =>
      rw [hdiffers, not_not] at h
      exact iff_of_true hnone h
  · refine iff_of_false ?_ ?_
    · rw [hold₂, hip₁]
      exact List.cons_ne_nil _ _
    · unfold KeepsAddress
      cases hdata : data.ip with
      | some ip =>
        rintro ⟨rfl, -⟩
        rw [hdata, Option.filter_some, if_pos (decide_eq_true (hdb.ips a (stored_address_mem ha)).1)] at hsent
        cases hsent
      | none =>
        intro hkeeps
        simp only [keeps_ip, Bool.and_eq_true] at hkeeps
        rcases hnew with hnew | hnew
        · exact hnew (hall_iff.mpr hkeeps.2)
        · exact hnew hdata
  · refine iff_of_true (hold₂ ▸ hnone) ?_
    rw [KeepsAddress, hdata]
    simp only [keeps_ip, is_ip_of_stored_address hdb ha, hdata, hall_iff.mp hnet_old, decide_true, Bool.and_self]

/-- The new address of a valid `PUT` of a NIC without one: it is the one that was asked for, or nobody has it. -/
theorem put_new_ip (hnic : vm.nics[nic_id]? = some nic) (hnone : stored_address db nic = none)
    (hser : put_serializer db req vm nic_id data = .ok ser) :
    (∀ row, requested_address db req nic data = some row → ser._ip = .address row) ∧
      ∀ row, ser._ip = .address row → row.vm = none ∨ requested_address db req nic data = some row := by
  obtain ⟨ser₀, hfix, hser⟩ := put_serializer_eq_ok hnic hser
  obtain ⟨object₀, hobject₀, hnet₀, -⟩ := fix_before_spec hfix
  obtain ⟨-, hchanging₀, hstored⟩ := fix_before_ips hfix
  obtain ⟨ser₁, ser₂, hvalid_net, hvalid, hip, -⟩ := is_valid_ips hser
  have hisSome : ({ ser₀ with attrs := data.attrs } : VmDefineNicSerializer U).object.isSome := by
    rw [hobject₀]
    rfl
  obtain ⟨-, -, -, hnet₁, -⟩ := validate_net_spec hisSome hnet₀ hvalid_net
  obtain ⟨hip₁, -, hchanging₁⟩ := validate_net_ips hvalid_net
  have hwithout : ¬ ∃ a, ser₁._ip = .address a := by
    rintro ⟨a, ha⟩
    rw [(hstored a).mp (hip₁.symm.trans ha)] at hnone
    cases hnone
  have hunsent : data.ip.filter (· ≠ "") = none → (∀ ip ∈ ser₂._ip.toList, ip.vm = none) →
      (∀ row, requested_address db req nic data = some row → ser._ip = .address row) ∧
        ∀ row, ser._ip = .address row → row.vm = none ∨ requested_address db req nic data = some row := by
    intro hsent hfree
    constructor
    · intro row hrow
      rw [requested_address, hsent] at hrow
      cases hrow
    · intro row hrow
      exact .inl (hfree row (Ip.mem_toList.mpr (hip ▸ hrow)))
  obtain ⟨-, -, hcases⟩ := validate_ips (hchanging₁.trans hchanging₀) hvalid
  rcases hcases with ⟨ip, -, -, -, hhas, -⟩ | ⟨ip, row, hsent, hrow, -, hip₂, -⟩ | ⟨hsent, -, -, hfree⟩ |
    ⟨hsent, -, -, -, ⟨a, ha, -⟩ | ⟨-, hfree⟩⟩
  · obtain ⟨a, ha, -⟩ := has_iff.mp hhas
    exact absurd ⟨a, ha⟩ hwithout
  · have hrequested : requested_address db req nic data = some row := by
      rw [requested_address, hsent, Option.bind_some, ← hnet₁, hrow]
    rw [hip, hip₂, hrequested]
    exact ⟨fun row' h => congrArg Ip.address (Option.some.inj h), fun row' h => .inr (congrArg some (Ip.address.inj h))⟩
  · exact hunsent hsent hfree
  · exact absurd ⟨a, ha⟩ hwithout
  · exact hunsent hsent hfree

end asked
section requests

variable {s : System U D} {uuid : U} {vm : Vm U} {ser ser₀ : VmDefineNicSerializer U} {req : Request} {nic_id : ℕ}
  {data : Data} {result : Result U} {nic : Item} {net : Subnet}

omit [DecidableEq U] [DecidableEq D] in
/-- The other NICs keep their records if the one that is given up is none of them. -/
theorem others_kept_iff {f : Address U → Option U} {a : Address U} (hreg : Registered s.db.addresses vm)
    (hnic : vm.nics[nic_id]? = some nic) (ha : a ∈ s.db.addresses)
    (hf : ∀ row ∈ s.db.addresses, row.vm = some vm.uuid →
      f row = if row.pair ∈ (removable vm [a]).map IPAddress.pair then none else row.vm) :
    (∀ row ∈ s.db.addresses, row.pair ∈ (vm.nics.eraseIdx nic_id).flatMap primary_of → f row = some vm.uuid) ↔
      vm.Spares nic_id a := by
  have hvm : ∀ row ∈ s.db.addresses, row.pair ∈ (vm.nics.eraseIdx nic_id).flatMap primary_of → row.vm = some vm.uuid :=
    fun row hrow hpair => hreg.primary row hrow (mem_all_of_nic hnic (.inr hpair))
  constructor
  · intro hkept hother
    by_contra hnot
    have hremoved : a.pair ∈ (removable vm [a]).map IPAddress.pair :=
      List.mem_map_of_mem (mem_removable.mpr ⟨List.mem_singleton_self a, hnot⟩)
    have hlost := hf a ha (hvm a ha hother)
    rw [if_pos hremoved, hkept a ha hother] at hlost
    cases hlost
  · intro hspares row hrow hpair
    rw [hf row hrow (hvm row hrow hpair), if_neg, hvm row hrow hpair]
    intro hremoved
    obtain ⟨a', ha', hsame⟩ := List.mem_map.mp hremoved
    obtain ⟨ha', hnot⟩ := mem_removable.mp ha'
    obtain rfl := List.mem_singleton.mp ha'
    exact hnot (hspares (hsame ▸ hpair))

theorem post_recorded (hs : s.Recorded) (hlookup : s.vms.lookup uuid = some vm)
    (hpost : VmDefineNicView.post s.db req vm nic_id data = .ok result) : (s.save uuid (.ok result)).Recorded := by
  obtain ⟨ser, _, addresses, hser, ⟨monitoring_ip, rfl⟩, hsave, rfl⟩ := post_eq_ok hpost
  have hreg := hs.registered uuid vm hlookup
  obtain ⟨net, hold, hitem, hchanging, hkept, hfree⟩ := post_saved hs.tables hser
  obtain ⟨hip, haddresses⟩ := save_ip_eq (fun h => by cases h) hsave
  obtain ⟨hnew, hips⟩ := (save_ip_iff hip).mp ⟨addresses, hsave⟩
  have hnew := hnew (.inl rfl)
  have hchanges : Changes s.db.addresses vm false false ser := by
    refine ⟨?_, (fun h => by cases h), ?_, ?_, ?_⟩
    · rw [hold]
      exact fun ip hip => absurd hip List.not_mem_nil
    · intro _ _ ip hip
      obtain ⟨hfree, hother⟩ := hfree ip (Ip.mem_toList.mp hip)
      exact ⟨(hitem.address ip (Ip.mem_toList.mp hip)).1, hnew ip hip, vms_of_free hfree (hnew ip hip), fun _ => hother⟩
    · exact fun hchange ip hip => ⟨(hitem.ips ip hip).1, hips hchange ip hip⟩
    · intro hchange
      rw [hchanging hchange]
      exact fun ip hip => absurd hip List.not_mem_nil
  have hflat : ∀ g : Item → List (String × String),
      (vm.nics ++ [ser.jsondata]).flatMap g = vm.nics.flatMap g ++ g ser.jsondata := by
    intro g
    rw [List.flatMap_append, List.flatMap_singleton]
  refine (hchanges.recorded_iff hs hlookup rfl rfl rfl (map_to_nic_save_nics _ (vm.nics ++ [ser.jsondata]) _) haddresses
    ?_).mpr ⟨?_, ?_⟩
  · intro nic hnic ip hip
    rcases List.mem_append.mp hnic with hnic | hnic
    · exact hreg.known nic (List.mem_append_left _ hnic) ip hip
    · rw [List.mem_singleton] at hnic
      subst hnic
      exact hitem.known hip
  · intro row hrow hpair
    rw [hflat, List.mem_append, hitem.mem_primary hip] at hpair
    rcases hpair with hpair | hpair
    · refine hchanges.keeps_vm hs hrow (hreg.primary row hrow ((mem_all_nics _ _).mpr (.inl hpair))) ?_ fun h => by cases h
      rw [hold]
      exact List.not_mem_nil
    · exact Changes.created_vm rfl (fun h => by cases h.1) hpair
  · intro row hrow hpair
    rw [hflat, List.mem_append, hitem.mem_allowed] at hpair
    rw [Changes.mem_vms]
    rcases hpair with hpair | hpair
    · refine .inr ⟨hreg.allowed row hrow ((mem_all_nics _ _).mpr (.inl hpair)), ?_⟩
      rintro ⟨hchange, -, hremoved⟩
      rw [hchanging hchange] at hremoved
      cases hremoved
    · cases hchange : ser._changing_allowed_ips with
      | true => exact .inl ⟨rfl, rfl, hpair⟩
      | false =>
        rw [hkept hchange] at hpair
        cases hpair

omit [DecidableEq D] in
/-- A NIC may be deleted if its address is on no other NIC of the VM. -/
theorem delete_recorded_iff (hs : s.Recorded) (hlookup : s.vms.lookup uuid = some vm)
    (hnic : vm.nics[nic_id]? = some nic) (hdelete : VmDefineNicView.delete s.db vm nic_id = .ok result) :
    (s.save uuid (.ok result)).Recorded ↔ ∀ a, stored_address s.db nic = some a → vm.Spares nic_id a := by
  obtain ⟨nic', ser, _, addresses, hnic', hfix, ⟨monitoring_ip, rfl⟩, hsave, rfl⟩ := delete_eq_ok hdelete
  obtain rfl := Option.some.inj (hnic.symm.trans hnic')
  have hreg := hs.registered uuid vm hlookup
  obtain ⟨hold, hchanging, haddress⟩ := fix_before_ips hfix
  have hstored := stored_record hs.tables hreg hnic hfix
  obtain ⟨-, haddresses⟩ := save_ip_eq (fun _ => hchanging) hsave
  have hnone : ser._ip_old.toList = [] := by
    rw [hold]
    rfl
  have hno_change : ¬ ser._changing_allowed_ips = true := by
    rw [hchanging]
    exact Bool.false_ne_true
  have hchanges : Changes s.db.addresses vm true false ser := by
    refine ⟨?_, fun _ ip hip => ?_, (fun h => by cases h), fun h => absurd h hno_change, fun h => absurd h hno_change⟩
    · rw [hnone]
      exact fun ip hip => absurd hip List.not_mem_nil
    · exact ⟨(hstored ip hip).1, (hstored ip hip).2.2⟩
  have hvm : ∀ row, (saved_row vm true false ser row).vm =
      if row.pair ∈ (removable vm ser._ip.toList).map IPAddress.pair then none else row.vm := by
    intro row
    rw [saved_row_vm, if_neg (fun h => by cases h.1), if_neg (fun h => by cases h.1), hnone]
    refine if_congr ?_ rfl rfl
    simp only [removable, List.filter_nil, List.map_nil, List.not_mem_nil, false_or, true_and]
  rw [hchanges.recorded_iff hs hlookup rfl rfl rfl (map_to_nic_save_nics _ (vm.nics.eraseIdx nic_id) _) haddresses
    fun nic' hnic' => hreg.known nic' (List.mem_append_left _ (List.mem_of_mem_eraseIdx hnic'))]
  have hallowed : ∀ row ∈ s.db.addresses, row.pair ∈ (vm.nics.eraseIdx nic_id).flatMap allowed_of →
      vm.uuid ∈ (saved_row vm true false ser row).vms := by
    intro row hrow hpair
    rw [Changes.mem_vms]
    exact .inr ⟨hreg.allowed row hrow (mem_all_of_nic hnic (.inr hpair)), fun h => hno_change h.1⟩
  rw [and_iff_left hallowed]
  cases hvalue : stored_address s.db nic with
  | none =>
    refine iff_of_true ?_ fun a h => by cases h
    intro row hrow hpair
    have hempty : ser._ip.toList = [] := List.eq_nil_iff_forall_not_mem.mpr fun a ha => by
      rw [(haddress a).mp (Ip.mem_toList.mp ha)] at hvalue
      cases hvalue
    rw [hvm, hempty]
    exact hreg.primary row hrow (mem_all_of_nic hnic (.inr hpair))
  | some a =>
    simp only [Option.some.injEq, forall_eq']
    have ha : ser._ip.toList = [a] := by
      rw [(haddress a).mpr hvalue]
      rfl
    have hmem := (hstored a (by rw [ha]; exact List.mem_singleton_self a)).1
    refine others_kept_iff hreg hnic hmem fun row _ _ => ?_
    rw [hvm, ha]

/-- What an accepted `PUT` gives up is the address of the NIC, and what it takes is free. -/
theorem put_changes {ser₀ : VmDefineNicSerializer U} {net : Subnet} {item : Item} (hdb : s.db.WellFormed)
    (hreg : Registered s.db.addresses vm) (hnic : vm.nics[nic_id]? = some nic)
    (hfix : fix_before s.db vm nic = .ok ser₀) (hitem : SavedNic s.db net ser item)
    (hprimary : PrimaryChange s.db vm ser₀ ser) (hallowed : AllowedChange s.db nic data ser₀ ser)
    (hnew : true = false ∨ ser._ip_old.toList ≠ [] → ∀ ip ∈ ser._ip.toList, ip.vm = none)
    (hips : ser._changing_allowed_ips = true → ∀ ip ∈ ser._ips, ip.vm = none) :
    Changes s.db.addresses vm false true ser := by
  have hstored := stored_record hdb hreg hnic hfix
  obtain ⟨-, -, -, -, hips₀, -⟩ := fix_before_records hdb hfix
  refine ⟨?_, (fun h => by cases h), ?_, ?_, ?_⟩
  · rcases hprimary with ⟨-, -, -, -, -, hold⟩ | ⟨hold, -⟩
    · rw [hold]
      exact fun ip hip => absurd hip List.not_mem_nil
    · rw [hold]
      exact fun ip hip => ⟨(hstored ip hip).1, (hstored ip hip).2.2⟩
  · intro _ hreplaced ip hip
    have hold : ser._ip_old.toList ≠ [] := fun h => hreplaced ⟨rfl, h⟩
    have hvm := hnew (.inr hold) ip hip
    have haddress := Ip.mem_toList.mp hip
    refine ⟨(hitem.address ip haddress).1, hvm, ?_, fun hchanging => ?_⟩
    · rcases hprimary with ⟨-, -, -, -, -, hempty⟩ | ⟨-, hfree⟩
      · exact absurd hempty hold
      · exact vms_of_free (hfree ip haddress) hvm
    · rcases hallowed with ⟨-, -, hother, -⟩ | ⟨hkept, -⟩
      · exact hother ip haddress
      · rw [hkept] at hchanging
        cases hchanging
  · exact fun hchanging ip hip => ⟨(hitem.ips ip hip).1, hips hchanging ip hip⟩
  · intro hchanging
    rcases hallowed with ⟨-, hold, -⟩ | ⟨hkept, -⟩
    · rw [hold]
      exact fun ip hip => hips₀ ip (List.mem_filter.mp hip).1
    · rw [hkept] at hchanging
      cases hchanging

/-- The primary addresses of the NICs after an accepted `PUT`. -/
theorem put_primary_kept_iff (hs : s.Recorded) (hreg : Registered s.db.addresses vm)
    (hnic : vm.nics[nic_id]? = some nic) (hser : put_serializer s.db req vm nic_id data = .ok ser)
    (hfix : fix_before s.db vm nic = .ok ser₀) (hmem : ∀ row, ser._ip = .address row → row ∈ s.db.addresses)
    (hprimary : PrimaryChange s.db vm ser₀ ser)
    (hwithout : (∃ row, ser._ip = .address row) ↔ without_ip s.db req nic data = false)
    (hnew : true = false ∨ ser._ip_old.toList ≠ [] → ∀ ip ∈ ser._ip.toList, ip.vm = none) :
    (∀ row ∈ s.db.addresses, row.pair ∈ ser._ip.toList.map IPAddress.pair ∨
        row.pair ∈ (vm.nics.eraseIdx nic_id).flatMap primary_of →
      (saved_row vm false true ser row).vm = some vm.uuid) ↔
    (stored_address s.db nic = none → without_ip s.db req nic data = true ∨
        ∃ row, requested_address s.db req nic data = some row ∧ row.vm = some vm.uuid) ∧
      ∀ a, stored_address s.db nic = some a → ¬ KeepsAddress s.db req nic data a → vm.Spares nic_id a := by
  obtain ⟨-, -, haddress₀⟩ := fix_before_ips hfix
  have hstored := stored_record hs.tables hreg hnic hfix
  have hothers : ∀ row ∈ s.db.addresses, row.pair ∈ (vm.nics.eraseIdx nic_id).flatMap primary_of → row.vm = some vm.uuid :=
    fun row hrow hpair => hreg.primary row hrow (mem_all_of_nic hnic (.inr hpair))
  have hunchanged : ser._ip_old.toList = [] → ∀ row, (saved_row vm false true ser row).vm = row.vm := by
    intro hempty row
    rw [saved_row_vm, if_pos ⟨rfl, hempty⟩]
  cases hvalue : stored_address s.db nic with
  | none =>
    have hempty : ser._ip_old.toList = [] := by
      have hnone : ∀ a, ser₀._ip ≠ .address a := by
        intro a ha
        rw [(haddress₀ a).mp ha] at hvalue
        cases hvalue
      rcases hprimary with ⟨a, -, ha, -⟩ | ⟨hold, -⟩
      · exact absurd ha (hnone a)
      · rw [hold]
        exact List.eq_nil_iff_forall_not_mem.mpr fun a ha => hnone a (Ip.mem_toList.mp ha)
    obtain ⟨hrequested, hgiven⟩ := put_new_ip hnic hvalue hser
    simp only [hunchanged hempty, forall_const]
    constructor
    · intro hkept
      refine ⟨?_, fun a h => by cases h⟩
      by_cases haddress : ∃ row, ser._ip = .address row
      · obtain ⟨row, hrow⟩ := haddress
        have hvm := hkept row (hmem row hrow) (.inl (List.mem_map_of_mem (Ip.mem_toList.mpr hrow)))
        rcases hgiven row hrow with hnone | hasked
        · rw [hnone] at hvm
          cases hvm
        · exact .inr ⟨row, hasked, hvm⟩
      · rw [hwithout, Bool.not_eq_false] at haddress
        exact .inl haddress
    · rintro ⟨hown, -⟩ row hrow (hpair | hpair)
      · obtain ⟨row', hrow', hsame⟩ := List.mem_map.mp hpair
        have hip := Ip.mem_toList.mp hrow'
        obtain rfl := List.inj_on_of_nodup_map hs.tables.unique (hmem row' hip) hrow hsame
        rcases hown with hdhcp | ⟨own, hasked, hvm⟩
        · rw [hwithout.mp ⟨row', hip⟩] at hdhcp
          cases hdhcp
        · rw [Ip.address.inj (hip.symm.trans (hrequested own hasked))]
          exact hvm
      · exact hothers row hrow hpair
  | some a =>
    have ha := (haddress₀ a).mpr hvalue
    have hold_iff := put_ip_old hs.tables hnic hvalue hser
    obtain ⟨hmem_a, hpair_a, hvm_a⟩ := hstored a (by rw [ha]; exact List.mem_singleton_self a)
    simp only [reduceCtorEq, false_implies, true_and, Option.some.injEq, forall_eq']
    rcases hprimary with ⟨a', kept, ha', hkept, hsame, hempty⟩ | ⟨hold, -⟩
    · obtain rfl := Ip.address.inj (ha.symm.trans ha')
      refine iff_of_true ?_ fun hnot => absurd (hold_iff.mp hempty) hnot
      intro row hrow hpair
      rw [hunchanged hempty]
      refine hreg.primary row hrow (mem_all_of_nic hnic (hpair.imp_left fun hpair => ?_))
      rw [hkept, Ip.toList, List.map_singleton, List.mem_singleton, hsame] at hpair
      rw [hpair]
      exact hpair_a
    · have hold : ser._ip_old.toList = [a] := by
        rw [hold, ha]
        rfl
      have hreplaced : ser._ip_old.toList ≠ [] := by
        rw [hold]
        exact List.cons_ne_nil _ _
      rw [imp_iff_right (mt hold_iff.mpr hreplaced)]
      have hcreated : ¬ (true = true ∧ ser._ip_old.toList = []) := fun h => hreplaced h.2
      have hnew := hnew (.inr hreplaced)
      rw [← others_kept_iff hreg hnic hmem_a (f := fun row => (saved_row vm false true ser row).vm)]
      · constructor
        · exact fun hkept row hrow hpair => hkept row hrow (.inr hpair)
        · rintro hkept row hrow (hpair | hpair)
          · exact Changes.created_vm rfl hcreated hpair
          · exact hkept row hrow hpair
      · intro row hrow hown
        have hnot_new : row.pair ∉ ser._ip.toList.map IPAddress.pair := by
          intro hpair
          have hin := mem_of_pair_mem hs.tables.unique (fun ip hip => hmem ip (Ip.mem_toList.mp hip)) hrow hpair
          rw [hnew row hin] at hown
          cases hown
        rw [saved_row_vm, if_neg hcreated, if_neg (fun h => hnot_new h.2), hold]
        simp only [Bool.false_eq_true, false_and, or_false]

omit [DecidableEq D] in
/-- The allowed addresses of the NICs after an accepted `PUT`. -/
theorem put_allowed_kept_iff (hs : s.Recorded) (hreg : Registered s.db.addresses vm)
    (hnic : vm.nics[nic_id]? = some nic) (hfix : fix_before s.db vm nic = .ok ser₀)
    (hchanges : Changes s.db.addresses vm false true ser) (hallowed : AllowedChange s.db nic data ser₀ ser) :
    (∀ row ∈ s.db.addresses, row.pair ∈ ser._ips.map IPAddress.pair ∨ row.pair ∈ vm.other_allowed nic_id →
      vm.uuid ∈ (saved_row vm false true ser row).vms) ↔ vm.SparesAllowed s.db nic_id nic data := by
  obtain ⟨-, -, -, -, hips₀, -⟩ := fix_before_records hs.tables hfix
  rcases hallowed with ⟨hchanging, hold, -, texts, htexts, hsent⟩ | ⟨hchanging, hsame, hempty⟩
  · unfold Vm.SparesAllowed
    rw [htexts]
    simp only [Option.some.injEq, forall_eq']
    constructor
    · intro hkept row hrow hpair hnot hother
      by_contra hset
      have hmem := hkept row hrow (.inr hother)
      rw [Changes.mem_vms] at hmem
      rcases hmem with ⟨-, -, hpair'⟩ | ⟨-, hnot_removed⟩
      · obtain ⟨ip, hip, heq⟩ := List.mem_map.mp hpair'
        rw [hsent] at hnot
        exact hnot (List.mem_map.mpr ⟨ip, hip, (pair_eq_iff.mp heq).1⟩)
      · have hin := mem_of_pair_mem hs.tables.unique hips₀ hrow ((fix_before_pairs hs.tables hfix hrow).2.mp hpair)
        refine hnot_removed ⟨hchanging, rfl, List.mem_map_of_mem (mem_removable.mpr ⟨?_, hset⟩)⟩
        rw [hold, List.mem_filter, decide_eq_true_eq, ← hsent]
        exact ⟨hin, hnot⟩
    · rintro hspares row hrow (hpair | hpair)
      · rw [Changes.mem_vms]
        exact .inl ⟨hchanging, rfl, hpair⟩
      · rw [Changes.mem_vms]
        refine .inr ⟨hreg.allowed row hrow (mem_all_of_nic hnic (.inr hpair)), ?_⟩
        rintro ⟨-, -, hremoved⟩
        have hin := mem_of_pair_mem hs.tables.unique
          (fun ip hip => hchanges.ips_old hchanging ip (mem_removable.mp hip).1) hrow hremoved
        obtain ⟨hin, hnot_set⟩ := mem_removable.mp hin
        rw [hold, List.mem_filter, decide_eq_true_eq, ← hsent] at hin
        refine hnot_set (hspares row hrow ?_ hin.2 hpair)
        exact (fix_before_pairs hs.tables hfix hrow).2.mpr (List.mem_map_of_mem hin.1)
  · refine iff_of_true ?_ ?_
    · intro row hrow hpair
      rw [hsame, ← (fix_before_pairs hs.tables hfix hrow).2] at hpair
      rw [Changes.mem_vms]
      refine .inr ⟨hreg.allowed row hrow (mem_all_of_nic hnic hpair), fun h => ?_⟩
      rw [hchanging] at h
      cases h.1
    · intro texts htexts row hrow hpair
      rw [(fix_before_pairs hs.tables hfix hrow).2, hempty texts htexts] at hpair
      cases hpair

/-- A NIC may be changed if that takes no record from the NICs of the VM. -/
theorem put_recorded_iff (hs : s.Recorded) (hlookup : s.vms.lookup uuid = some vm) (hnic : vm.nics[nic_id]? = some nic)
    (hput : VmDefineNicView.put s.db req vm nic_id data = .ok result) :
    (s.save uuid (.ok result)).Recorded ↔ vm.KeepsRecords s.db req nic_id nic data := by
  obtain ⟨ser, _, addresses, hser, ⟨monitoring_ip, rfl⟩, hsave, rfl⟩ := put_eq_ok hput
  have hreg := hs.registered uuid vm hlookup
  have hknown : ∀ ip ∈ (to_nic nic).allowed_ips,
      ∃ row ∈ s.db.addresses, row.ip = ip ∧ network_uuid nic = some row.subnet :=
    hreg.known _ (List.mem_append_left _ (List.mem_of_getElem? hnic))
  obtain ⟨ser₀, net, hfix, -, hitem, hprimary, hwithout, hallowed⟩ := put_saved hs.tables hnic hknown hser
  obtain ⟨hip, haddresses⟩ := save_ip_eq (fun h => by cases h) hsave
  obtain ⟨hnew, hips⟩ := (save_ip_iff hip).mp ⟨addresses, hsave⟩
  have hchanges := put_changes hs.tables hreg hnic hfix hitem hprimary hallowed hnew hips
  have hperm := fun g : Item → List (String × String) => flatMap_modify_perm hnic (fun nic => nic.update ser.jsondata) g
  have hmem : ∀ row, ser._ip = .address row → row ∈ s.db.addresses := fun row hrow => (hitem.address row hrow).1
  rw [hchanges.recorded_iff hs hlookup rfl rfl rfl
    (map_to_nic_save_nics _ (vm.nics.modify nic_id fun nic => nic.update ser.jsondata) _) haddresses]
  · simp only [(hperm _).mem_iff, List.mem_append, hitem.mem_primary hip, hitem.mem_allowed]
    refine (and_congr (put_primary_kept_iff hs hreg hnic hser hfix hmem hprimary hwithout hnew)
      (put_allowed_kept_iff hs hreg hnic hfix hchanges hallowed)).trans ?_
    exact ⟨fun h => ⟨h.1.1, h.1.2, h.2⟩, fun h => ⟨⟨h.given, h.given_up⟩, h.allowed⟩⟩
  · intro nic' hnic' ip hip
    rcases mem_modify hnic hnic' with rfl | hmem'
    · exact hitem.known hip
    · exact hreg.known nic' (List.mem_append_left _ hmem') ip hip

end requests

section distinct

variable {s : System U D} {uuid : U} {vm : Vm U} {req : Request} {nic_id : ℕ} {data : Data} {result : Result U} {nic : Item}

omit [DecidableEq U] [DecidableEq D] in
/-- A VM is distinct by the addresses of its NICs. -/
theorem Vm.Distinct.of_map {vm' : Vm U} {nics : List Item} (hvm : vm.Distinct)
    (hnics : vm'.nics.map to_nic = nics.map to_nic) (hactive : vm'.active_nics = vm.active_nics)
    (hnodup : (nics.flatMap primary_of).Nodup) : vm'.Distinct := by
  refine ⟨?_, hactive ▸ hvm.active_nics⟩
  rw [← primary_pairs_map, hnics, primary_pairs_map]
  exact hnodup

omit [DecidableEq U] [DecidableEq D] in
/-- The addresses of a NIC are not those of the other NICs. -/
theorem Vm.Distinct.not_other (hvm : vm.Distinct) (hnic : vm.nics[nic_id]? = some nic) :
    ((vm.nics.eraseIdx nic_id).flatMap primary_of).Nodup ∧
      ∀ pair ∈ primary_of nic, pair ∉ (vm.nics.eraseIdx nic_id).flatMap primary_of := by
  have hnodup := hvm.nics
  rw [(flatMap_perm hnic primary_of).nodup_iff, List.nodup_append] at hnodup
  obtain ⟨-, hothers, hdisjoint⟩ := hnodup
  exact ⟨hothers, fun pair hpair hother => hdisjoint pair hpair pair hother rfl⟩

theorem post_distinct (hs : s.Recorded) (hlookup : s.vms.lookup uuid = some vm) (hvm : vm.Distinct)
    (hpost : VmDefineNicView.post s.db req vm nic_id data = .ok result) : result.vm.Distinct := by
  obtain ⟨ser, _, addresses, hser, ⟨monitoring_ip, rfl⟩, hsave, rfl⟩ := post_eq_ok hpost
  have hreg := hs.registered uuid vm hlookup
  obtain ⟨net, -, hitem, -⟩ := post_saved hs.tables hser
  obtain ⟨hip, -⟩ := save_ip_eq (fun h => by cases h) hsave
  have hnew := ((save_ip_iff hip).mp ⟨addresses, hsave⟩).1 (.inl rfl)
  refine hvm.of_map (map_to_nic_save_nics _ (vm.nics ++ [ser.jsondata]) _) rfl ?_
  rw [List.flatMap_append, List.flatMap_singleton, List.nodup_append]
  refine ⟨hvm.nics, nodup_primary_of _, ?_⟩
  rintro pair hpair other hother rfl
  rw [hitem.mem_primary hip] at hother
  obtain ⟨row, hrow, rfl⟩ := List.mem_map.mp hother
  exact hreg.not_primary (hitem.address row (Ip.mem_toList.mp hrow)).1 (hnew row hrow) hpair

theorem put_distinct (hs : s.Recorded) (hlookup : s.vms.lookup uuid = some vm) (hvm : vm.Distinct)
    (hnic : vm.nics[nic_id]? = some nic) (hput : VmDefineNicView.put s.db req vm nic_id data = .ok result)
    (hcareful : stored_address s.db nic = none → without_ip s.db req nic data = true) : result.vm.Distinct := by
  obtain ⟨ser, _, addresses, hser, ⟨monitoring_ip, rfl⟩, hsave, rfl⟩ := put_eq_ok hput
  have hreg := hs.registered uuid vm hlookup
  obtain ⟨ser₀, net, hfix, -, hitem, hprimary, hwithout, -⟩ := put_saved hs.tables hnic
    (hreg.known _ (List.mem_append_left _ (List.mem_of_getElem? hnic))) hser
  obtain ⟨-, -, haddress₀⟩ := fix_before_ips hfix
  obtain ⟨hip, -⟩ := save_ip_eq (fun h => by cases h) hsave
  have hnew := ((save_ip_iff hip).mp ⟨addresses, hsave⟩).1
  obtain ⟨hothers, hdisjoint⟩ := hvm.not_other hnic
  refine hvm.of_map (map_to_nic_save_nics _ (vm.nics.modify nic_id fun nic => nic.update ser.jsondata) _) rfl ?_
  rw [(flatMap_modify_perm hnic (fun nic => nic.update ser.jsondata) primary_of).nodup_iff, List.nodup_append]
  refine ⟨nodup_primary_of _, hothers, ?_⟩
  rintro pair hpair other hother rfl
  rw [hitem.mem_primary hip] at hpair
  obtain ⟨row, hrow, rfl⟩ := List.mem_map.mp hpair
  have haddress := Ip.mem_toList.mp hrow
  rcases hprimary with ⟨a, saved, ha, hsaved, hsame, -⟩ | ⟨hold, -⟩
  · obtain rfl := Ip.address.inj (hsaved.symm.trans haddress)
    rw [hsame] at hother
    have hown := (stored_record hs.tables hreg hnic hfix a (Ip.mem_toList.mpr ha)).2.1
    exact hdisjoint _ hown hother
  · -- the NIC had another address, which is given up, or else it gets none
    have hreplaced : ser._ip_old.toList ≠ [] := by
      intro hempty
      have hnone : stored_address s.db nic = none := by
        cases hvalue : stored_address s.db nic with
        | none => rfl
        | some a =>
          rw [hold, (haddress₀ a).mpr hvalue] at hempty
          cases hempty
      have hdhcp := hcareful hnone
      rw [hwithout.mp ⟨row, haddress⟩] at hdhcp
      cases hdhcp
    refine hreg.not_primary (hitem.address row haddress).1 (hnew (.inr hreplaced) row hrow) ?_
    rw [(flatMap_perm hnic primary_of).mem_iff]
    exact List.mem_append_right _ hother

omit [DecidableEq D] in
theorem delete_distinct (hvm : vm.Distinct) (hdelete : VmDefineNicView.delete s.db vm nic_id = .ok result) :
    result.vm.Distinct := by
  obtain ⟨nic, -, _, addresses, hnic, -, ⟨monitoring_ip, rfl⟩, -, rfl⟩ := delete_eq_ok hdelete
  exact hvm.of_map (map_to_nic_save_nics _ (vm.nics.eraseIdx nic_id) _) rfl (hvm.not_other hnic).1

omit [DecidableEq D] in
theorem System.Consistent.distinct_save_usage (hs : s.Consistent) (hvm : vm.Distinct) :
    ∀ other v, (s.save_usage uuid vm).vms.lookup other = some v → v.Distinct := by
  intro other v hlookup
  unfold System.save_usage at hlookup
  split at hlookup
  · rw [Dict.lookup_insert_ite] at hlookup
    split at hlookup
    · obtain rfl := Option.some.inj hlookup
      exact hvm
    · exact hs.distinct other v hlookup
  · exact hs.distinct other v hlookup

omit [DecidableEq D] in
theorem System.Consistent.distinct_save (hs : s.Consistent) (hvm : result.vm.Distinct) :
    ∀ other v, (s.save uuid (.ok result)).vms.lookup other = some v → v.Distinct := by
  intro other v hlookup
  rw [System.save, Dict.lookup_insert_ite] at hlookup
  split at hlookup
  · obtain rfl := Option.some.inj hlookup
    exact hvm
  · exact hs.distinct other v hlookup

omit [DecidableEq D] in
/-- A NIC of a distinct VM may give up its address. -/
theorem System.Consistent.spares (hs : s.Consistent) (hlookup : s.vms.lookup uuid = some vm)
    (hnic : vm.nics[nic_id]? = some nic) {ser₀ : VmDefineNicSerializer U} (hfix : fix_before s.db vm nic = .ok ser₀)
    {a : Address U} (ha : stored_address s.db nic = some a) : vm.Spares nic_id a := by
  obtain ⟨-, -, haddress⟩ := fix_before_ips hfix
  have hmem := Ip.mem_toList.mpr ((haddress a).mpr ha)
  have hpair := (stored_record hs.tables (hs.registered uuid vm hlookup) hnic hfix a hmem).2.1
  exact fun hother => absurd hother (((hs.distinct uuid vm hlookup).not_other hnic).2 _ hpair)

end distinct

section runs

variable {s : System U D}

/-- An operation leaves every VM its records exactly if it takes none of them from a NIC. -/
theorem step_recorded_iff (hs : s.Recorded) (op : Op U) : (s.step op).Recorded ↔ s.Keeps op := by
  cases op with
  | post req uuid nic_id data =>
    refine iff_of_true ?_ trivial
    rw [System.step]
    cases hlookup : s.vms.lookup uuid with
    | none => exact hs
    | some vm =>
      simp only
      cases hpost : VmDefineNicView.post s.db req vm nic_id data with
      | error e => exact hs
      | ok result => exact post_recorded hs hlookup hpost
  | put req uuid nic_id data =>
    rw [System.step, System.Keeps]
    cases hlookup : s.vms.lookup uuid with
    | none => exact iff_of_true hs fun vm nic result h => by cases h
    | some vm =>
      simp only
      cases hput : VmDefineNicView.put s.db req vm nic_id data with
      | error e =>
        refine iff_of_true hs fun vm' nic result hsame _ haccepted => ?_
        obtain rfl := Option.some.inj hsame
        rw [hput] at haccepted
        cases haccepted
      | ok result =>
        obtain ⟨ser, -, -, hser, -⟩ := put_eq_ok hput
        obtain ⟨nic, hnic⟩ := existing_nic_of_put hser
        rw [put_recorded_iff hs hlookup hnic hput]
        constructor
        · intro hkeeps vm' nic' result' hsame hnic' _
          obtain rfl := Option.some.inj hsame
          obtain rfl := Option.some.inj (hnic.symm.trans hnic')
          exact hkeeps
        · exact fun hkeeps => hkeeps vm nic result rfl hnic hput
  | delete uuid nic_id =>
    rw [System.step, System.Keeps]
    cases hlookup : s.vms.lookup uuid with
    | none => exact iff_of_true hs fun vm nic result h => by cases h
    | some vm =>
      simp only
      cases hdelete : VmDefineNicView.delete s.db vm nic_id with
      | error e =>
        refine iff_of_true hs fun vm' nic result hsame _ haccepted => ?_
        obtain rfl := Option.some.inj hsame
        rw [hdelete] at haccepted
        cases haccepted
      | ok result =>
        obtain ⟨nic, -, -, -, hnic, -⟩ := delete_eq_ok hdelete
        rw [delete_recorded_iff hs hlookup hnic hdelete]
        constructor
        · intro hkeeps vm' nic' result' hsame hnic' _
          obtain rfl := Option.some.inj hsame
          obtain rfl := Option.some.inj (hnic.symm.trans hnic')
          exact hkeeps
        · exact fun hkeeps => hkeeps vm nic result rfl hnic hdelete
  | synced uuid nics =>
    refine iff_of_true ?_ trivial
    rw [System.step]
    cases hlookup : s.vms.lookup uuid with
    | none => exact hs
    | some vm =>
      refine hs.save_usage (hs.uuids uuid vm hlookup) fun addresses hupdate => ?_
      have hcheck := check_of_update rfl hupdate
      exact registered_checked hs.tables.unique (fun row => vms.ipaddress.updated_row_pair _ _ _) rfl rfl hcheck
  | deleted uuid =>
    refine iff_of_true ?_ trivial
    rw [System.step]
    cases hlookup : s.vms.lookup uuid with
    | none => exact hs
    | some vm =>
      exact hs.save_usage (hs.uuids uuid vm hlookup) fun _ _ => registered_deleted (hs.registered uuid vm hlookup)
  | reverted uuid =>
    refine iff_of_true ?_ trivial
    rw [System.step]
    cases hlookup : s.vms.lookup uuid with
    | none => exact hs
    | some vm =>
      simp only
      split
      · case isTrue hdeployed =>
        refine hs.save_usage (hs.uuids uuid vm hlookup) fun addresses hupdate => ?_
        have hdeployed' : Vm.is_deployed { vm with nics := vm.active_nics } = true := hdeployed
        have hcheck := check_of_update hdeployed' hupdate
        exact registered_checked hs.tables.unique (fun row => vms.ipaddress.updated_row_pair _ _ _) rfl hdeployed hcheck
      · exact hs

theorem trace_recorded (hs : s.Recorded) (ops : List (Op U)) (hkeeps : ∀ p ∈ s.trace ops, p.1.Keeps p.2) :
    (∀ p ∈ s.trace ops, (p.1.step p.2).Recorded) ∧ (s.run ops).Recorded := by
  induction ops generalizing s with
  | nil => exact ⟨List.forall_mem_nil _, hs⟩
  | cons op ops ih =>
    rw [System.trace, List.forall_mem_cons] at hkeeps ⊢
    have hstep := (step_recorded_iff hs op).mpr hkeeps.1
    obtain ⟨htrace, hrun⟩ := ih hstep hkeeps.2
    exact ⟨⟨hstep, htrace⟩, hrun⟩

/-- In a run of requests, callbacks and reverts of any VMs in which each accepted request keeps the records of its VM no two
VMs ever get the same address, and any other request leaves an address of its VM without its record. -/
theorem no_conflict_of_keeps (hs : s.Recorded) (ops : List (Op U)) (hkeeps : ∀ p ∈ s.trace ops, p.1.Keeps p.2) :
    (∀ p ∈ s.trace ops, (p.1.step p.2).NoConflict) ∧ ∀ op, ((s.run ops).step op).Recorded ↔ (s.run ops).Keeps op := by
  obtain ⟨htrace, hrun⟩ := trace_recorded hs ops hkeeps
  exact ⟨fun p hp => (htrace p hp).noConflict, step_recorded_iff hrun⟩

/-- A careful operation takes no record from a NIC. -/
theorem keeps_of_careful (hs : s.Consistent) {op : Op U} (hcareful : s.Careful op) : s.Keeps op := by
  cases op with
  | put req uuid nic_id data =>
    intro vm nic result hlookup hnic hput
    obtain ⟨hgiven, hallowed⟩ := hcareful vm nic result hlookup hnic hput
    obtain ⟨ser, -, -, hser, -⟩ := put_eq_ok hput
    obtain ⟨ser₀, hfix, -⟩ := put_serializer_eq_ok hnic hser
    exact ⟨fun hnone => .inl (hgiven hnone), fun a ha _ => hs.spares hlookup hnic hfix ha, hallowed⟩
  | delete uuid nic_id =>
    intro vm nic result hlookup hnic hdelete a ha
    obtain ⟨nic', ser₀, -, -, hnic', hfix, -⟩ := delete_eq_ok hdelete
    obtain rfl := Option.some.inj (hnic.symm.trans hnic')
    exact hs.spares hlookup hnic hfix ha
  | _ => trivial

/-- After a careful operation every VM has its records, and still none of its addresses twice. -/
theorem step_consistent (hs : s.Consistent) (op : Op U) (hcareful : s.Careful op) : (s.step op).Consistent := by
  refine ⟨(step_recorded_iff hs.toRecorded op).mpr (keeps_of_careful hs hcareful), ?_⟩
  cases op with
  | post req uuid nic_id data =>
    rw [System.step]
    cases hlookup : s.vms.lookup uuid with
    | none => exact hs.distinct
    | some vm =>
      simp only
      cases hpost : VmDefineNicView.post s.db req vm nic_id data with
      | error e => exact hs.distinct
      | ok result => exact hs.distinct_save (post_distinct hs.toRecorded hlookup (hs.distinct uuid vm hlookup) hpost)
  | put req uuid nic_id data =>
    rw [System.step]
    cases hlookup : s.vms.lookup uuid with
    | none => exact hs.distinct
    | some vm =>
      simp only
      cases hput : VmDefineNicView.put s.db req vm nic_id data with
      | error e => exact hs.distinct
      | ok result =>
        obtain ⟨ser, -, -, hser, -⟩ := put_eq_ok hput
        obtain ⟨nic, hnic⟩ := existing_nic_of_put hser
        have hgiven := (hcareful vm nic result hlookup hnic hput).1
        exact hs.distinct_save (put_distinct hs.toRecorded hlookup (hs.distinct uuid vm hlookup) hnic hput hgiven)
  | delete uuid nic_id =>
    rw [System.step]
    cases hlookup : s.vms.lookup uuid with
    | none => exact hs.distinct
    | some vm =>
      simp only
      cases hdelete : VmDefineNicView.delete s.db vm nic_id with
      | error e => exact hs.distinct
      | ok result => exact hs.distinct_save (delete_distinct (hs.distinct uuid vm hlookup) hdelete)
  | synced uuid nics =>
    rw [System.step]
    cases hlookup : s.vms.lookup uuid with
    | none => exact hs.distinct
    | some vm => exact hs.distinct_save_usage ⟨hcareful, hcareful⟩
  | deleted uuid =>
    rw [System.step]
    cases hlookup : s.vms.lookup uuid with
    | none => exact hs.distinct
    | some vm => exact hs.distinct_save_usage ⟨(hs.distinct uuid vm hlookup).nics, List.nodup_nil⟩
  | reverted uuid =>
    rw [System.step]
    cases hlookup : s.vms.lookup uuid with
    | none => exact hs.distinct
    | some vm =>
      have hactive := (hs.distinct uuid vm hlookup).active_nics
      simp only
      split
      · exact hs.distinct_save_usage ⟨hactive, hactive⟩
      · exact hs.distinct

theorem trace_consistent (hs : s.Consistent) (ops : List (Op U)) (hcareful : ∀ p ∈ s.trace ops, p.1.Careful p.2) :
    ∀ p ∈ s.trace ops, (p.1.step p.2).Consistent := by
  induction ops generalizing s with
  | nil => exact List.forall_mem_nil _
  | cons op ops ih =>
    rw [System.trace, List.forall_mem_cons] at hcareful ⊢
    have hstep := step_consistent hs op hcareful.1
    exact ⟨hstep, ih hstep hcareful.2⟩

/-- In every run of careful requests, callbacks and reverts of any VMs no two VMs ever get the same address. -/
theorem no_conflict_of_careful (hs : s.Consistent) (ops : List (Op U)) (hcareful : ∀ p ∈ s.trace ops, p.1.Careful p.2) :
    ∀ p ∈ s.trace ops, (p.1.step p.2).NoConflict :=
  fun p hp => (trace_consistent hs ops hcareful p hp).toRecorded.noConflict

/-- In every such run the records of the addresses of a VM, also of those that it has on the hypervisor only, belong to the
VM, and those on the hypervisor stay marked as in use, so that no other request can take them. -/
theorem booked_of_careful (hs : s.Consistent) (ops : List (Op U)) (hcareful : ∀ p ∈ s.trace ops, p.1.Careful p.2) :
    ∀ p ∈ s.trace ops, ∀ uuid vm, (p.1.step p.2).vms.lookup uuid = some vm → ∀ row ∈ (p.1.step p.2).db.addresses,
      (row.pair ∈ vm.all_nics.flatMap primary_of → row.vm = some uuid) ∧
        (row.pair ∈ vm.all_nics.flatMap allowed_of → uuid ∈ row.vms) ∧
        (vm.is_deployed = true → row.pair ∈ vm.active_nics.flatMap primary_of ∨ row.pair ∈ vm.active_nics.flatMap allowed_of →
          row.usage = .vm_real) := by
  intro p hp uuid vm hlookup row hrow
  have hconsistent := trace_consistent hs ops hcareful p hp
  have huuid := hconsistent.uuids uuid vm hlookup
  have hreg := hconsistent.registered uuid vm hlookup
  refine ⟨fun hpair => ?_, fun hpair => ?_, fun hdeployed hpair => hreg.active hdeployed row hrow hpair⟩
  · rw [← huuid]
    exact hreg.primary row hrow hpair
  · rw [← huuid]
    exact hreg.allowed row hrow hpair

omit [DecidableEq U] [DecidableEq D] in
/-- A VM without NICs needs no records. -/
theorem registered_bare {addresses : Addresses U} {vm : Vm U} (hnics : vm.nics = []) (hactive : vm.active_nics = []) :
    Registered addresses vm := by
  have hall : vm.all_nics = [] := by rw [Vm.all_nics, hnics, hactive, List.append_nil]
  refine ⟨?_, ?_, ?_, fun _ => hactive, ?_⟩
  · rw [hall]
    exact fun row _ h => absurd h List.not_mem_nil
  · rw [hall]
    exact fun row _ h => absurd h List.not_mem_nil
  · rw [hactive]
    exact fun _ row _ h => h.elim (fun h => absurd h List.not_mem_nil) fun h => absurd h List.not_mem_nil
  · rw [hall]
    exact fun nic h => absurd h List.not_mem_nil

/-- A network of which the NICs get their addresses by DHCP. -/
def dhcp : Subnet := { wan with uuid := "6b5b9a43-0000-0000-0000-000000000003", name := "dhcp", dhcp_passthrough := true }

/-- Two VMs without NICs. -/
def two_vms : System ℕ ℕ where
  db := { bare_books.db with subnets := [lan, dhcp] }
  vms := ((∅ : Dict ℕ (Vm ℕ)).insert 1 bare_vm).insert 2 { bare_vm with uuid := 2 }

theorem two_vms_lookup {uuid : ℕ} {vm : Vm ℕ} (hlookup : two_vms.vms.lookup uuid = some vm) :
    vm.uuid = uuid ∧ vm.nics = [] ∧ vm.active_nics = [] := by
  rw [two_vms, Dict.lookup_insert_ite, Dict.lookup_insert_ite] at hlookup
  split at hlookup
  · case isTrue h =>
    rw [← Option.some.inj hlookup, h]
    exact ⟨rfl, rfl, rfl⟩
  · split at hlookup
    · case isTrue h =>
      rw [← Option.some.inj hlookup, h]
      exact ⟨rfl, rfl, rfl⟩
    · cases hlookup

theorem two_vms_recorded : two_vms.Recorded := by
  refine ⟨⟨by decide, by decide, by decide, by decide⟩, fun uuid vm hlookup => (two_vms_lookup hlookup).1, by decide, ?_⟩
  intro uuid vm hlookup
  obtain ⟨-, hnics, hactive⟩ := two_vms_lookup hlookup
  exact registered_bare hnics hactive

theorem two_vms_consistent : two_vms.Consistent := by
  refine ⟨two_vms_recorded, fun uuid vm hlookup => ?_⟩
  obtain ⟨-, hnics, hactive⟩ := two_vms_lookup hlookup
  refine ⟨?_, ?_⟩
  · rw [hnics]
    exact List.nodup_nil
  · rw [hactive]
    exact List.nodup_nil

/-- A request of a VM for a NIC with an address of the network. -/
def add_lan_nic (uuid : ℕ) : Op ℕ :=
  .post { any_net with defaults := all_defaults } uuid 0 { no_data with net := some "lan", ip := some "10.0.0.5" }

/-- A request of a VM for a NIC without an address. -/
def add_dhcp_nic (uuid : ℕ) : Op ℕ :=
  .post { any_net with defaults := all_defaults } uuid 0 { no_data with net := some "dhcp" }

/-- The NIC is moved to the network, and gets the address. -/
def set_lan_nic (uuid : ℕ) : Op ℕ :=
  .put any_net uuid 0 { no_data with net := some "lan", ip := some "10.0.0.5" }

/-- The address of a deleted NIC is for the other VM, and the one that is given to a NIC without one is nobody's. -/
theorem no_conflict_of_keeps_deleted :
    (((two_vms.step (add_lan_nic 1)).step (.delete 1 0)).step (add_lan_nic 2)).NoConflict ∧
      ¬ ((two_vms.run [add_dhcp_nic 1]).step (set_lan_nic 1)).Recorded := by
  constructor
  · refine (no_conflict_of_keeps two_vms_recorded [add_lan_nic 1, .delete 1 0, add_lan_nic 2] ?_).1 _
      (List.mem_of_getElem? (i := 2) rfl)
    refine List.forall_mem_cons.mpr ⟨trivial, List.forall_mem_cons.mpr ⟨?_, List.forall_mem_singleton.mpr trivial⟩⟩
    intro vm nic result hlookup hnic _ a _ hother
    obtain rfl := Option.some.inj ((rfl : _ = some _).symm.trans hlookup)
    cases hother
  · have hrun := no_conflict_of_keeps two_vms_recorded [add_dhcp_nic 1] (List.forall_mem_singleton.mpr trivial)
    rw [hrun.2]
    intro hkeeps
    rcases (hkeeps _ _ _ rfl rfl rfl).given rfl with hdhcp | ⟨row, hrow, hvm⟩
    · exact absurd hdhcp (by decide)
    · rw [← Option.some.inj ((rfl : _ = some _).symm.trans hrow)] at hvm
      cases hvm

/-- The address that a NIC gets in place of none stays free, and so another VM gets it, too. -/
theorem conflict_of_set : two_vms.NoConflict ∧
    ¬ ∀ p ∈ two_vms.trace [add_dhcp_nic 1, set_lan_nic 1, add_lan_nic 2], (p.1.step p.2).NoConflict := by
  refine ⟨two_vms_recorded.noConflict, fun hnoConflict => ?_⟩
  have hlast := hnoConflict _ (List.mem_of_getElem? (i := 2) rfl)
  have hrow : (⟨"10.0.0.5", lan.uuid, some 2, [], .vm⟩ : Address ℕ) ∈
      (((two_vms.step (add_dhcp_nic 1)).step (set_lan_nic 1)).step (add_lan_nic 2)).db.addresses :=
    List.mem_of_getElem? (i := 0) rfl
  have hnot := hlast _ hrow 1 _ 2 _ (by decide) rfl rfl (List.mem_of_getElem? (i := 0) rfl)
  exact hnot.1 (List.mem_of_getElem? (i := 0) rfl)

theorem no_conflict_of_careful_added : ((two_vms.step (add_lan_nic 1)).step (add_lan_nic 2)).NoConflict := by
  refine no_conflict_of_careful two_vms_consistent [add_lan_nic 1, add_lan_nic 2] ?_ _ (List.mem_of_getElem? (i := 1) rfl)
  exact List.forall_mem_cons.mpr ⟨trivial, List.forall_mem_singleton.mpr trivial⟩

theorem booked_of_careful_added :
    ∃ row ∈ (two_vms.step (add_lan_nic 1)).db.addresses, row.ip = "10.0.0.5" ∧ row.vm = some 1 := by
  have hrow : (⟨"10.0.0.5", lan.uuid, some 1, [], .vm⟩ : Address ℕ) ∈ (two_vms.step (add_lan_nic 1)).db.addresses :=
    List.mem_of_getElem? (i := 0) rfl
  refine ⟨_, hrow, rfl, ?_⟩
  exact (booked_of_careful two_vms_consistent [add_lan_nic 1] (List.forall_mem_singleton.mpr trivial) _
    (List.mem_of_getElem? (i := 0) rfl) 1 _ rfl _ hrow).1 (List.mem_of_getElem? (i := 0) rfl)

end runs

end api.vm.define.nic
