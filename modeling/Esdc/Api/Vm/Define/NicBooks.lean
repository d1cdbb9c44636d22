import Mathlib
import Esdc.Api.Vm.Define.NicAddresses

namespace api.vm.define.nic

open Fallible (bind_eq_ok)
open vms.definition (Item Value)
open vms.ipaddress (IPAddress Usage mem_pairs primary_pairs allowed_pairs)

variable {U D : Type} [DecidableEq U] [DecidableEq D]

section definitions

/-- A VM that is defined, and the tables of networks and addresses. -/
structure Books (U D : Type) where
  db : Db U D
  vm : Vm U

inductive NicRequest
  | post (req : Request) (nic_id : ℕ) (data : Data)
  | put (req : Request) (nic_id : ℕ) (data : Data)
  | delete (nic_id : ℕ)
  /-- the A records of the hostname change between the requests -/
  | dns (records_A : List String)

variable (s : Books U D)

def Books.handle : NicRequest → Except Error (Result U)
  | .post req nic_id data => VmDefineNicView.post s.db req s.vm nic_id data
  | .put req nic_id data => VmDefineNicView.put s.db req s.vm nic_id data
  | .delete nic_id => VmDefineNicView.delete s.db s.vm nic_id
  | .dns records_A => .ok ⟨{ s.vm with records_A := records_A }, s.db.addresses⟩

def Books.save (result : Result U) : Books U D where
  db := { s.db with addresses := result.addresses }
  vm := result.vm

/-- A failed request changes nothing. -/
def Books.step (r : NicRequest) : Books U D :=
  match s.handle r with
  | .ok result => s.save result
  | .error _ => s

/-- The requests of a run, each with the state in which it is made. -/
def Books.trace (s : Books U D) : List NicRequest → List (Books U D × NicRequest)
  | [] => []
  | r :: rs => (s, r) :: (s.step r).trace rs

/-- The records of the VM are those of its NICs. -/
def Books.Booked : Prop :=
  ∀ row ∈ s.db.addresses,
    (row.vm = some s.vm.uuid ↔ row.pair ∈ primary_pairs (s.vm.nics.map to_nic)) ∧
    (s.vm.uuid ∈ row.vms ↔ row.pair ∈ allowed_pairs (s.vm.nics.map to_nic))

/-- No two NICs have the same primary address, and all allowed addresses are records. -/
structure Books.Recorded : Prop where
  tables : s.db.WellFormed
  notcreated : s.vm.is_deployed = false
  primary : (primary_pairs (s.vm.nics.map to_nic)).Nodup
  known : ∀ nic ∈ s.vm.nics.map to_nic, ∀ ip ∈ nic.allowed_ips,
    ∃ row ∈ s.db.addresses, row.ip = ip ∧ nic.network_uuid = some row.subnet

def primary_of (nic : Item) : List (String × String) := (to_nic nic).pairs (to_nic nic).primary_ip

def allowed_of (nic : Item) : List (String × String) := (to_nic nic).pairs (to_nic nic).allowed_ips

/-- The allowed addresses of the other NICs. -/
def Vm.other_allowed (vm : Vm U) (nic_id : ℕ) : List (String × String) := (vm.nics.eraseIdx nic_id).flatMap allowed_of

/-- An address that a changed NIC is no longer allowed to use is not one of another NIC, and one whose text it keeps is in its
new network. -/
def Books.KeepsAllowed (req : Request) (nic_id : ℕ) (nic : Item) (data : Data) : Prop :=
  ∀ texts, changed_allowed_ips s.db nic data = some texts → ∀ row ∈ s.db.addresses, row.pair ∈ allowed_of nic →
    (row.ip ∉ texts → row.pair ∉ s.vm.other_allowed nic_id) ∧
    (row.ip ∈ texts → (new_net s.db req nic data).map Subnet.uuid = some row.subnet ∨ row.pair ∈ s.vm.other_allowed nic_id)

/-- A NIC without an address gets none, the allowed addresses are kept apart, and a NIC that is deleted has none for itself. -/
def Books.Careful : NicRequest → Prop
  | .post _ _ _ => True
  | .put req nic_id data => ∀ nic, s.vm.nics[nic_id]? = some nic →
      (stored_address s.db nic = none → without_ip s.db req nic data) ∧ s.KeepsAllowed req nic_id nic data
  | .delete nic_id => ∀ nic, s.vm.nics[nic_id]? = some nic →
      ∀ row ∈ s.db.addresses, row.pair ∈ allowed_of nic → row.pair ∈ s.vm.other_allowed nic_id
  | .dns _ => True

end definitions

section nics

omit [DecidableEq U] [DecidableEq D]

theorem map_to_nic_save_nics (vm : Vm U) (nics : List Item) (monitoring_ip : Option String) :
    (vm.save_nics nics monitoring_ip).nics.map to_nic = nics.map to_nic := by
  apply List.ext_getElem?
  intro i
  rw [Vm.save_nics, List.getElem?_map, List.getElem?_mapIdx, List.getElem?_map]
  cases nics[i]? with
  | none => rfl
  | some nic => exact congrArg some (to_nic_save_nic vm i nic)

theorem primary_pairs_map (nics : List Item) : primary_pairs (nics.map to_nic) = nics.flatMap primary_of :=
  List.flatMap_map ..

theorem allowed_pairs_map (nics : List Item) : allowed_pairs (nics.map to_nic) = nics.flatMap allowed_of :=
  List.flatMap_map ..

/-- What the NICs have is what one of them has and what the others have. -/
theorem flatMap_perm {α β : Type} {nics : List α} {nic : α} {i : ℕ} (hnic : nics[i]? = some nic) (f : α → List β) :
    (nics.flatMap f).Perm (f nic ++ (nics.eraseIdx i).flatMap f) := by
  obtain ⟨hlength, rfl⟩ := List.getElem?_eq_some_iff.mp hnic
  exact ((List.getElem_cons_eraseIdx_perm hlength).symm.flatMap_right f).trans (by rw [List.flatMap_cons])

theorem flatMap_modify_perm {α β : Type} {nics : List α} {nic : α} {i : ℕ} (hnic : nics[i]? = some nic) (g : α → α)
    (f : α → List β) : ((nics.modify i g).flatMap f).Perm (f (g nic) ++ (nics.eraseIdx i).flatMap f) := by
  have hmodified : (nics.modify i g)[i]? = some (g nic) := by
    rw [List.getElem?_modify_eq, hnic]
    rfl
  have hperm := flatMap_perm hmodified f
  rwa [List.eraseIdx_modify_of_eq] at hperm

theorem mem_modify {α : Type} {nics : List α} {nic nic' : α} {i : ℕ} {g : α → α} (hnic : nics[i]? = some nic)
    (hmem : nic' ∈ nics.modify i g) : nic' = g nic ∨ nic' ∈ nics := by
  obtain ⟨j, hj⟩ := List.mem_iff_getElem?.mp hmem
  by_cases hsame : i = j
  · rw [← hsame, List.getElem?_modify_eq, hnic] at hj
    exact .inl (Option.some.inj hj).symm
  · rw [List.getElem?_modify_ne _ _ hsame] at hj
    exact .inr (List.mem_of_getElem? hj)

theorem Ip.mem_toList {ip : Ip U} {row : Address U} : row ∈ ip.toList ↔ ip = .address row := by
  cases ip with
  | none => exact iff_of_false List.not_mem_nil fun h => by cases h
  | dhcp => exact iff_of_false List.not_mem_nil fun h => by cases h
  | address a => rw [Ip.toList, List.mem_singleton, Ip.address.injEq, eq_comm]

theorem nodup_primary_of (nic : Item) : (primary_of nic).Nodup := by
  unfold primary_of vms.ipaddress.Nic.pairs vms.ipaddress.Nic.primary_ip
  cases (to_nic nic).network_uuid with
  | none => exact List.nodup_nil
  | some network_uuid =>
    cases (to_nic nic).ip with
    | none => exact List.nodup_nil
    | dhcp => exact List.nodup_nil
    | address ip => exact List.nodup_singleton _

variable {db : Db U D} {vm : Vm U} {nic item : Item} {net : Subnet} {ser : VmDefineNicSerializer U}

/-- The primary address of a saved NIC is that of the serializer. -/
theorem SavedNic.mem_primary (hsaved : SavedNic db net ser item) (hip : ser._ip ≠ .none) (pair : String × String) :
    pair ∈ primary_of item ↔ pair ∈ ser._ip.toList.map IPAddress.pair := by
  rw [primary_of, mem_pairs, mem_primary_ip]
  change network_uuid item = some pair.2 ∧ nic_ip item = .address pair.1 ↔ _
  cases hser : ser._ip with
  | none => exact absurd hser hip
  | dhcp =>
    rw [hsaved.dhcp hser]
    exact iff_of_false (fun h => by cases h.2) List.not_mem_nil
  | address row =>
    obtain ⟨-, hsubnet, haddress⟩ := hsaved.address row hser
    rw [haddress, hsaved.network, ← hsubnet, Option.some.injEq, vms.ipaddress.NicIp.address.injEq]
    simp only [Ip.toList, List.map_cons, List.map_nil, List.mem_singleton, Prod.ext_iff, IPAddress.pair]
    rw [and_comm, eq_comm, @eq_comm _ row.subnet]

/-- The allowed addresses of a saved NIC are those of the serializer. -/
theorem SavedNic.mem_allowed (hsaved : SavedNic db net ser item) (pair : String × String) :
    pair ∈ allowed_of item ↔ pair ∈ ser._ips.map IPAddress.pair := by
  rw [allowed_of, mem_pairs, hsaved.allowed, List.mem_map, List.mem_map]
  change network_uuid item = some pair.2 ∧ _ ↔ _
  rw [hsaved.network]
  constructor
  · rintro ⟨hsubnet, row, hrow, hip⟩
    exact ⟨row, hrow, Prod.ext hip ((hsaved.ips row hrow).2.trans (Option.some.inj hsubnet))⟩
  · rintro ⟨row, hrow, rfl⟩
    exact ⟨congrArg some (hsaved.ips row hrow).2.symm, row, hrow, rfl⟩

theorem SavedNic.known (hsaved : SavedNic db net ser item) {ip : String} (hip : ip ∈ (to_nic item).allowed_ips) :
    ∃ row ∈ db.addresses, row.ip = ip ∧ network_uuid item = some row.subnet := by
  obtain ⟨row, hrow, rfl⟩ := List.mem_map.mp ((hsaved.allowed ip).mp hip)
  obtain ⟨hmem, hsubnet⟩ := hsaved.ips row hrow
  exact ⟨row, hmem, rfl, hsaved.network.trans (congrArg some hsubnet.symm)⟩

end nics

section saved

variable {s : Books U D} {result : Result U} {ser : VmDefineNicSerializer U} {delete update : Bool} {nics : List Item}

/-- The VM with other NICs, and the table after their addresses were saved. -/
structure Saved (s : Books U D) (result : Result U) (delete update : Bool) (ser : VmDefineNicSerializer U)
    (nics : List Item) : Prop where
  uuid : result.vm.uuid = s.vm.uuid
  is_deployed : result.vm.is_deployed = s.vm.is_deployed
  nics : result.vm.nics.map to_nic = nics.map to_nic
  rows : ∃ f : Address U → Address U, result.addresses = s.db.addresses.map f ∧
    ∀ row, SavedRow s.vm delete update ser row (f row)

omit [DecidableEq U] [DecidableEq D] in
/-- The records are booked if each is associated with the VM as its NICs say. -/
theorem Saved.booked_iff (hsaved : Saved s result delete update ser nics) :
    (s.save result).Booked ↔ ∀ row ∈ s.db.addresses,
      (PrimaryAfter s.vm.uuid delete update ser row ↔ row.pair ∈ nics.flatMap primary_of) ∧
      (AllowedAfter s.vm.uuid ser row ↔ row.pair ∈ nics.flatMap allowed_of) := by
  obtain ⟨f, haddresses, hrows⟩ := hsaved.rows
  unfold Books.Booked
  change (∀ row ∈ result.addresses, (row.vm = some result.vm.uuid ↔ row.pair ∈ primary_pairs (result.vm.nics.map to_nic)) ∧
    (result.vm.uuid ∈ row.vms ↔ row.pair ∈ allowed_pairs (result.vm.nics.map to_nic))) ↔ _
  rw [haddresses, List.forall_mem_map, hsaved.nics, hsaved.uuid, primary_pairs_map, allowed_pairs_map]
  refine forall₂_congr fun row _ => ?_
  rw [(hrows row).pair, (hrows row).primary, (hrows row).allowed]

omit [DecidableEq U] [DecidableEq D] in
theorem Db.WellFormed.map {db : Db U D} (hdb : db.WellFormed) {f : Address U → Address U}
    (hf : ∀ row, (f row).pair = row.pair) : Db.WellFormed { db with addresses := db.addresses.map f } := by
  refine ⟨?_, ?_, hdb.uuids, hdb.names⟩
  · rw [List.map_map, show IPAddress.pair ∘ f = IPAddress.pair from funext hf]
    exact hdb.unique
  · rw [List.forall_mem_map]
    intro row hrow
    rw [(pair_eq_iff.mp (hf row)).1]
    exact hdb.ips row hrow

omit [DecidableEq U] [DecidableEq D] in
theorem Saved.recorded (hsaved : Saved s result delete update ser nics) (hs : s.Recorded)
    (hprimary : (nics.flatMap primary_of).Nodup)
    (hknown : ∀ nic ∈ nics, ∀ ip ∈ (to_nic nic).allowed_ips,
      ∃ row ∈ s.db.addresses, row.ip = ip ∧ network_uuid nic = some row.subnet) : (s.save result).Recorded := by
  obtain ⟨f, haddresses, hrows⟩ := hsaved.rows
  have hsave : (s.save result).db = { s.db with addresses := s.db.addresses.map f } := by
    rw [← haddresses]
    rfl
  refine ⟨?_, hsaved.is_deployed.trans hs.notcreated, ?_, ?_⟩
  · rw [hsave]
    exact hs.tables.map fun row => (hrows row).pair
  · change (primary_pairs (result.vm.nics.map to_nic)).Nodup
    rwa [hsaved.nics, primary_pairs_map]
  · change ∀ nic ∈ result.vm.nics.map to_nic, _
    rw [hsaved.nics, List.forall_mem_map, hsave]
    intro nic hnic ip hip
    obtain ⟨row, hrow, rfl, hsubnet⟩ := hknown nic hnic ip hip
    obtain ⟨hsame, hnet⟩ := pair_eq_iff.mp (hrows row).pair
    exact ⟨f row, List.mem_map_of_mem hrow, hsame, hsubnet.trans (congrArg some hnet.symm)⟩

end saved

section requests

variable {s : Books U D} {result : Result U} {req : Request} {nic_id : ℕ} {data : Data} {nic : Item} {row : Address U}

omit [DecidableEq U] [DecidableEq D] in
/-- The primary address of a NIC is one of `_get_ips`. -/
theorem mem_get_ips {nics : List Item} {pair : String × String} (hpair : pair ∈ nics.flatMap primary_of) :
    .str pair.1 ∈ get_ips nics := by
  obtain ⟨nic, hnic, hmem⟩ := List.mem_flatMap.mp hpair
  obtain ⟨hget, hempty, hdhcp⟩ := nic_ip_eq_address.mp (mem_primary_ip.mp (mem_pairs.mp hmem).2)
  have his_ip : is_ip nic = true := by
    rw [is_ip, hget]
    simp [Value.falsy, hempty, hdhcp]
  refine List.mem_flatMap.mpr ⟨nic, hnic, List.mem_append_left _ ?_⟩
  rw [if_pos his_ip, hget]
  exact List.mem_singleton_self _

omit [DecidableEq U] [DecidableEq D] in
theorem Books.Booked.mem_primary (hbooked : s.Booked) (hrow : row ∈ s.db.addresses) :
    row.vm = some s.vm.uuid ↔ row.pair ∈ s.vm.nics.flatMap primary_of := by
  rw [← primary_pairs_map]
  exact (hbooked row hrow).1

omit [DecidableEq U] [DecidableEq D] in
theorem Books.Booked.mem_allowed (hbooked : s.Booked) (hrow : row ∈ s.db.addresses) :
    s.vm.uuid ∈ row.vms ↔ row.pair ∈ s.vm.nics.flatMap allowed_of := by
  rw [← allowed_pairs_map]
  exact (hbooked row hrow).2

/-- An address that may be chosen is on no NIC yet. -/
theorem not_primary_of_free (hbooked : s.Booked) (hrow : row ∈ s.db.addresses)
    (hfree : row.vm = none ∨ _check_ip_usage s.db s.vm row false = false) : row.pair ∉ s.vm.nics.flatMap primary_of := by
  intro hpair
  have hvm := (hbooked.mem_primary hrow).mpr hpair
  rcases hfree with hnone | hcheck
  · rw [hnone] at hvm
    cases hvm
  · have hlost : Lost s.vm row := (vm_of_not_used hcheck).mp (by rw [hvm]; exact fun h => by cases h)
    rw [_check_ip_usage, if_pos (by simp [hlost.1, hlost.2]), decide_eq_false_iff_not] at hcheck
    exact hcheck (mem_get_ips hpair)

omit [DecidableEq U] [DecidableEq D] in
theorem getElem?_of_existing_nic {vm : Vm U} (hexisting : vm.existing_nic nic_id = .ok nic) : vm.nics[nic_id]? = some nic := by
  unfold Vm.existing_nic at hexisting
  split at hexisting
  · cases hexisting
  · cases hnic : vm.nics[nic_id]? with
    | none =>
      rw [hnic] at hexisting
      cases hexisting
    | some found =>
      rw [hnic] at hexisting
      exact congrArg some (Except.ok.inj hexisting)

/-- What an accepted `POST` saves. -/
theorem post_eq_ok {db : Db U D} {vm : Vm U} (hpost : VmDefineNicView.post db req vm nic_id data = .ok result) :
    ∃ ser vm' addresses, post_serializer db req vm nic_id data = .ok ser ∧
      (∃ monitoring_ip,
        vm' = { vm with resolvers := ser.resolvers }.save_nics (vm.nics ++ [ser.jsondata]) monitoring_ip) ∧
      ser.save_ip vm' false false db.addresses = .ok addresses ∧ result = ⟨vm', addresses⟩ := by
  unfold VmDefineNicView.post saved_post at hpost
  obtain ⟨ser, hser, hpost⟩ := bind_eq_ok.mp hpost
  obtain ⟨monitoring_ip, -, hpost⟩ := bind_eq_ok.mp hpost
  obtain ⟨addresses, hsave, hpost⟩ := bind_eq_ok.mp hpost
  exact ⟨ser, _, addresses, hser, ⟨monitoring_ip, rfl⟩, hsave, (Except.ok.inj hpost).symm⟩

/-- What an accepted `PUT` saves. -/
theorem put_eq_ok {db : Db U D} {vm : Vm U} (hput : VmDefineNicView.put db req vm nic_id data = .ok result) :
    ∃ ser vm' addresses, put_serializer db req vm nic_id data = .ok ser ∧
      (∃ monitoring_ip, vm' = { vm with resolvers := ser.resolvers }.save_nics
        (vm.nics.modify nic_id fun nic => nic.update ser.jsondata) monitoring_ip) ∧
      ser.save_ip vm' false true db.addresses = .ok addresses ∧ result = ⟨vm', addresses⟩ := by
  unfold VmDefineNicView.put saved_put at hput
  obtain ⟨ser, hser, hput⟩ := bind_eq_ok.mp hput
  obtain ⟨monitoring_ip, -, hput⟩ := bind_eq_ok.mp hput
  obtain ⟨addresses, hsave, hput⟩ := bind_eq_ok.mp hput
  exact ⟨ser, _, addresses, hser, ⟨monitoring_ip, rfl⟩, hsave, (Except.ok.inj hput).symm⟩

omit [DecidableEq D] in
/-- What an accepted `DELETE` saves. -/
theorem delete_eq_ok {db : Db U D} {vm : Vm U} (hdelete : VmDefineNicView.delete db vm nic_id = .ok result) :
    ∃ nic ser vm' addresses, vm.nics[nic_id]? = some nic ∧ fix_before db vm nic = .ok ser ∧
      (∃ monitoring_ip, vm' = vm.save_nics (vm.nics.eraseIdx nic_id) monitoring_ip) ∧
      ser.save_ip vm' true false db.addresses = .ok addresses ∧ result = ⟨vm', addresses⟩ := by
  unfold VmDefineNicView.delete at hdelete
  obtain ⟨nic, hexisting, hdelete⟩ := bind_eq_ok.mp hdelete
  obtain ⟨ser, hfix, hdelete⟩ := bind_eq_ok.mp hdelete
  obtain ⟨monitoring_ip, -, hdelete⟩ := bind_eq_ok.mp hdelete
  obtain ⟨addresses, hsave, hdelete⟩ := bind_eq_ok.mp hdelete
  exact ⟨nic, ser, _, addresses, getElem?_of_existing_nic hexisting, hfix, ⟨monitoring_ip, rfl⟩, hsave,
    (Except.ok.inj hdelete).symm⟩

omit [DecidableEq U] [DecidableEq D] in
/-- The records of a NIC are those of its serializer. -/
theorem fix_before_pairs {db : Db U D} {vm : Vm U} {ser : VmDefineNicSerializer U} (hdb : db.WellFormed)
    (hfix : fix_before db vm nic = .ok ser) (hrow : row ∈ db.addresses) :
    (row.pair ∈ primary_of nic ↔ row.pair ∈ ser._ip.toList.map IPAddress.pair) ∧
      (row.pair ∈ allowed_of nic ↔ row.pair ∈ ser._ips.map IPAddress.pair) := by
  obtain ⟨-, -, hprimary, hallowed, hips, -⟩ := fix_before_records hdb hfix
  obtain ⟨-, -, hstored⟩ := fix_before_ips hfix
  have hsame : ∀ a ∈ db.addresses, a.pair = row.pair → a = row := fun a ha hpair =>
    List.inj_on_of_nodup_map hdb.unique ha hrow hpair
  constructor
  · rw [primary_of, hprimary row hrow]
    constructor
    · intro hip
      rw [hip]
      exact List.mem_singleton_self _
    · intro hpair
      cases hip : ser._ip with
      | none =>
        rw [hip] at hpair
        cases hpair
      | dhcp =>
        rw [hip] at hpair
        cases hpair
      | address a =>
        rw [hip, Ip.toList, List.map_singleton, List.mem_singleton] at hpair
        rw [hsame a (stored_address_mem ((hstored a).mp hip)) hpair.symm]
  · rw [allowed_of, hallowed row hrow]
    constructor
    · exact List.mem_map_of_mem
    · intro hpair
      obtain ⟨a, ha, hpair⟩ := List.mem_map.mp hpair
      rwa [← hsame a (hips a ha) hpair]

omit [DecidableEq D] in
/-- An accepted `DELETE` only leaves the records that the NIC was allowed to use. -/
theorem delete_step (hs : s.Recorded) (hbooked : s.Booked) (hdelete : VmDefineNicView.delete s.db s.vm nic_id = .ok result) :
    (s.save result).Recorded ∧ ((s.save result).Booked ↔ s.Careful (.delete nic_id)) := by
  obtain ⟨nic, ser, _, addresses, hnic, hfix, ⟨monitoring_ip, rfl⟩, hsave, rfl⟩ := delete_eq_ok hdelete
  obtain ⟨hold, hchanging, -⟩ := fix_before_ips hfix
  obtain ⟨-, f, haddresses, hrows⟩ := save_ip_rows hs.notcreated (fun _ => hchanging) hsave
  have hsaved : Saved s ⟨s.vm.save_nics (s.vm.nics.eraseIdx nic_id) monitoring_ip, addresses⟩ true false ser
      (s.vm.nics.eraseIdx nic_id) :=
    ⟨rfl, rfl, map_to_nic_save_nics _ _ _, f, haddresses,
      fun row => ⟨(hrows row).pair, (hrows row).primary, (hrows row).allowed⟩⟩
  have hprimary := flatMap_perm hnic primary_of
  have hallowed := flatMap_perm hnic allowed_of
  have hnodup := hs.primary
  rw [primary_pairs_map, hprimary.nodup_iff, List.nodup_append] at hnodup
  obtain ⟨-, hothers, hdisjoint⟩ := hnodup
  refine ⟨hsaved.recorded hs hothers ?_, ?_⟩
  · intro nic hmem
    exact hs.known _ (List.mem_map_of_mem (List.mem_of_mem_eraseIdx hmem))
  · rw [hsaved.booked_iff]
    have hafter : ∀ row ∈ s.db.addresses,
        (PrimaryAfter s.vm.uuid true false ser row ↔ row.pair ∈ (s.vm.nics.eraseIdx nic_id).flatMap primary_of) ∧
        (AllowedAfter s.vm.uuid ser row ↔ row.pair ∈ allowed_of nic ∨ row.pair ∈ s.vm.other_allowed nic_id) := by
      intro row hrow
      have hpairs := fix_before_pairs hs.tables hfix hrow
      constructor
      · rw [PrimaryAfter, if_neg (by simp), hold, hbooked.mem_primary hrow, hprimary.mem_iff, List.mem_append]
        split
        · case isTrue hmem =>
          exact iff_of_false (fun h => by cases h) fun hother => hdisjoint _ (hpairs.1.mpr hmem) _ hother rfl
        · case isFalse hmem =>
          rw [or_iff_right (mt hpairs.1.mp hmem)]
          exact and_iff_right List.not_mem_nil
      · rw [AllowedAfter, if_neg (by simp [hchanging]), hbooked.mem_allowed hrow, hallowed.mem_iff, List.mem_append]
        rfl
    constructor
    · intro hbooked' nic' hnic' row hrow hpair
      obtain rfl := Option.some.inj (hnic.symm.trans hnic')
      exact (hbooked' row hrow).2.mp ((hafter row hrow).2.mpr (.inl hpair))
    · intro hcareful row hrow
      refine ⟨(hafter row hrow).1, (hafter row hrow).2.trans (or_iff_right_of_imp ?_)⟩
      exact hcareful nic hnic row hrow

/-- An accepted `POST` adds the records of the new NIC. -/
theorem post_step (hs : s.Recorded) (hbooked : s.Booked)
    (hpost : VmDefineNicView.post s.db req s.vm nic_id data = .ok result) :
    (s.save result).Recorded ∧ (s.save result).Booked := by
  obtain ⟨ser, _, addresses, hser, ⟨monitoring_ip, rfl⟩, hsave, rfl⟩ := post_eq_ok hpost
  obtain ⟨net, hold, hitem, hchanging, hkept, -⟩ := post_saved hs.tables hser
  obtain ⟨hip, f, haddresses, hrows⟩ := save_ip_rows hs.notcreated (fun h => by cases h) hsave
  have hfree := ((save_ip_iff hip).mp ⟨addresses, hsave⟩).1 (.inl rfl)
  have hsaved : Saved s ⟨{ s.vm with resolvers := ser.resolvers }.save_nics (s.vm.nics ++ [ser.jsondata]) monitoring_ip,
      addresses⟩ false false ser (s.vm.nics ++ [ser.jsondata]) :=
    ⟨rfl, rfl, map_to_nic_save_nics _ _ _, f, haddresses,
      fun row => ⟨(hrows row).pair, (hrows row).primary, (hrows row).allowed⟩⟩
  have hflat : ∀ g : Item → List (String × String),
      (s.vm.nics ++ [ser.jsondata]).flatMap g = s.vm.nics.flatMap g ++ g ser.jsondata := by
    intro g
    rw [List.flatMap_append, List.flatMap_singleton]
  refine ⟨hsaved.recorded hs ?_ ?_, hsaved.booked_iff.mpr ?_⟩
  · rw [hflat, List.nodup_append]
    refine ⟨primary_pairs_map s.vm.nics ▸ hs.primary, nodup_primary_of _, ?_⟩
    rintro pair hpair other hother rfl
    rw [hitem.mem_primary hip] at hother
    obtain ⟨row, hrow, rfl⟩ := List.mem_map.mp hother
    have hmem := (hitem.address row (Ip.mem_toList.mp hrow)).1
    exact not_primary_of_free hbooked hmem (.inl (hfree row hrow)) hpair
  · intro nic hnic ip hip
    rcases List.mem_append.mp hnic with hnic | hnic
    · exact hs.known _ (List.mem_map_of_mem hnic) ip hip
    · rw [List.mem_singleton] at hnic
      subst hnic
      exact hitem.known hip
  · intro row hrow
    rw [hflat, hflat, List.mem_append, List.mem_append, hitem.mem_primary hip, hitem.mem_allowed,
      ← hbooked.mem_primary hrow, ← hbooked.mem_allowed hrow]
    constructor
    · rw [PrimaryAfter, if_neg (by simp), hold]
      split
      · case isTrue hmem => exact iff_of_true rfl (.inr hmem)
      · case isFalse hmem =>
        rw [or_iff_left hmem]
        exact and_iff_right List.not_mem_nil
    · unfold AllowedAfter
      split
      · case isTrue hchange =>
        rw [hchanging hchange, List.map_nil, or_comm, and_iff_left List.not_mem_nil]
      · case isFalse hchange =>
        rw [hkept (Bool.eq_false_iff.mpr hchange), List.map_nil, or_iff_left List.not_mem_nil]

/-- The primary address of a NIC after an accepted `PUT`. -/
theorem put_primary_iff {ser₀ ser : VmDefineNicSerializer U} (hs : s.Recorded) (hbooked : s.Booked)
    (hnic : s.vm.nics[nic_id]? = some nic) (hfix : fix_before s.db s.vm nic = .ok ser₀)
    (hmem : ∀ row, ser._ip = .address row → row ∈ s.db.addresses) (hchange : PrimaryChange s.db s.vm ser₀ ser) :
    (∀ row ∈ s.db.addresses, PrimaryAfter s.vm.uuid false true ser row ↔
      row.pair ∈ ser._ip.toList.map IPAddress.pair ∨ row.pair ∈ (s.vm.nics.eraseIdx nic_id).flatMap primary_of) ↔
      (stored_address s.db nic = none → ¬ ∃ row, ser._ip = .address row) := by
  obtain ⟨-, -, hstored⟩ := fix_before_ips hfix
  have hprimary := flatMap_perm hnic primary_of
  have hnodup := hs.primary
  rw [primary_pairs_map, hprimary.nodup_iff, List.nodup_append] at hnodup
  obtain ⟨-, -, hdisjoint⟩ := hnodup
  have hvm : ∀ row ∈ s.db.addresses, row.vm = some s.vm.uuid ↔
      row.pair ∈ ser₀._ip.toList.map IPAddress.pair ∨ row.pair ∈ (s.vm.nics.eraseIdx nic_id).flatMap primary_of := by
    intro row hrow
    rw [hbooked.mem_primary hrow, hprimary.mem_iff, List.mem_append, (fix_before_pairs hs.tables hfix hrow).1]
  rcases hchange with ⟨a, kept, ha, hip, hpair, hold⟩ | ⟨hold, hfree⟩
  · refine iff_of_true ?_ ?_
    · intro row hrow
      rw [PrimaryAfter, if_pos ⟨rfl, hold⟩, hvm row hrow, ha, hip, Ip.toList, Ip.toList, List.map_singleton,
        List.map_singleton, hpair]
    · intro hnone
      rw [(hstored a).mp ha] at hnone
      cases hnone
  · by_cases haddress : ∃ a, ser₀._ip = .address a
    · obtain ⟨a, ha⟩ := haddress
      refine iff_of_true ?_ ?_
      · intro row hrow
        have hreplaced : ¬ (true = true ∧ ser._ip_old.toList = []) := by
          rw [hold, ha]
          exact fun h => by cases h.2
        rw [PrimaryAfter, if_neg hreplaced]
        split
        · case isTrue hmem => exact iff_of_true rfl (.inl hmem)
        · case isFalse hmem =>
          rw [or_iff_right hmem, hold, hvm row hrow]
          constructor
          · exact fun h => h.2.resolve_left h.1
          · intro hother
            have hnot : row.pair ∉ ser₀._ip.toList.map IPAddress.pair := fun hown =>
              hdisjoint _ ((fix_before_pairs hs.tables hfix hrow).1.mpr hown) _ hother rfl
            exact ⟨hnot, .inr hother⟩
      · intro hnone
        rw [(hstored a).mp ha] at hnone
        cases hnone
    · have hnone : stored_address s.db nic = none := by
        cases hvalue : stored_address s.db nic with
        | none => rfl
        | some a => exact absurd ⟨a, (hstored a).mpr hvalue⟩ haddress
      have hempty : ser₀._ip.toList = [] := List.eq_nil_iff_forall_not_mem.mpr fun a ha =>
        haddress ⟨a, Ip.mem_toList.mp ha⟩
      have hafter : ∀ row ∈ s.db.addresses, PrimaryAfter s.vm.uuid false true ser row ↔
          row.pair ∈ (s.vm.nics.eraseIdx nic_id).flatMap primary_of := by
        intro row hrow
        rw [PrimaryAfter, if_pos ⟨rfl, hold.trans hempty⟩, hvm row hrow, hempty]
        exact or_iff_right List.not_mem_nil
      rw [imp_iff_right hnone]
      constructor
      · rintro hbooked' ⟨row, hip⟩
        -- the chosen record is not associated, and so it is on no other NIC
        have hpair : row.pair ∈ ser._ip.toList.map IPAddress.pair := List.mem_map_of_mem (Ip.mem_toList.mpr hip)
        have hother := (hafter row (hmem row hip)).mp ((hbooked' row (hmem row hip)).mpr (.inl hpair))
        exact not_primary_of_free hbooked (hmem row hip) (Or.imp_left And.left (hfree row hip))
          (hprimary.mem_iff.mpr (List.mem_append_right _ hother))
      · intro hdhcp row hrow
        rw [hafter row hrow, or_iff_right]
        intro hpair
        obtain ⟨a, ha, -⟩ := List.mem_map.mp hpair
        exact hdhcp ⟨a, Ip.mem_toList.mp ha⟩

/-- A record that was one of the NIC (`own`) or of the others (`other`), whose text is sent (`sent`) and that is in the new
network (`new`). -/
theorem kept_iff {own other sent new : Prop} :
    ((sent ∧ new) ∨ ((own ∨ other) ∧ ¬ (own ∧ ¬ sent)) ↔ (sent ∧ new) ∨ other) ↔
      (own → (¬ sent → ¬ other) ∧ (sent → new ∨ other)) := by
  by_cases hown : own
  · by_cases hsent : sent
    · simp [hown, hsent]
    · simp [hown, hsent]
  · simp [hown]

omit [DecidableEq U] [DecidableEq D] in
/-- The allowed addresses of a NIC after an accepted `PUT`. -/
theorem put_allowed_iff {ser₀ ser : VmDefineNicSerializer U} {net : Subnet} (hs : s.Recorded) (hbooked : s.Booked)
    (hnic : s.vm.nics[nic_id]? = some nic) (hfix : fix_before s.db s.vm nic = .ok ser₀)
    (hnet : new_net s.db req nic data = some net)
    (hips : ∀ row ∈ ser._ips, row ∈ s.db.addresses ∧ row.subnet = net.uuid) (hchange : AllowedChange s.db nic data ser₀ ser) :
    (∀ row ∈ s.db.addresses, AllowedAfter s.vm.uuid ser row ↔
      row.pair ∈ ser._ips.map IPAddress.pair ∨ row.pair ∈ s.vm.other_allowed nic_id) ↔
      s.KeepsAllowed req nic_id nic data := by
  have hallowed := flatMap_perm hnic allowed_of
  have hvms : ∀ row ∈ s.db.addresses, s.vm.uuid ∈ row.vms ↔
      row.pair ∈ ser₀._ips.map IPAddress.pair ∨ row.pair ∈ s.vm.other_allowed nic_id := by
    intro row hrow
    rw [hbooked.mem_allowed hrow, hallowed.mem_iff, List.mem_append, (fix_before_pairs hs.tables hfix hrow).2]
    rfl
  unfold Books.KeepsAllowed
  rcases hchange with ⟨hchanging, hold, -, texts, htexts, hmem_texts⟩ | ⟨hchanging, hkept, hempty⟩
  · rw [htexts, hnet]
    simp only [Option.some.injEq, forall_eq', Option.map_some]
    refine forall₂_congr fun row hrow => ?_
    have hnew : row.pair ∈ ser._ips.map IPAddress.pair ↔ row.ip ∈ texts ∧ net.uuid = row.subnet := by
      rw [hmem_texts, List.mem_map, List.mem_map]
      constructor
      · rintro ⟨found, hfound, hpair⟩
        obtain ⟨hip, hsubnet⟩ := pair_eq_iff.mp hpair
        exact ⟨⟨found, hfound, hip⟩, (hips found hfound).2.symm.trans hsubnet⟩
      · rintro ⟨⟨found, hfound, hip⟩, hsubnet⟩
        exact ⟨found, hfound, pair_eq_iff.mpr ⟨hip, (hips found hfound).2.trans hsubnet⟩⟩
    have hremoved : row.pair ∈ ser._ips_old.map IPAddress.pair ↔
        row.pair ∈ ser₀._ips.map IPAddress.pair ∧ row.ip ∉ texts := by
      rw [hold, List.mem_map, List.mem_map, hmem_texts]
      constructor
      · rintro ⟨found, hfound, hpair⟩
        obtain ⟨hfound, hnot⟩ := List.mem_filter.mp hfound
        rw [decide_eq_true_eq, (pair_eq_iff.mp hpair).1] at hnot
        exact ⟨⟨found, hfound, hpair⟩, hnot⟩
      · rintro ⟨⟨found, hfound, hpair⟩, hnot⟩
        rw [← (pair_eq_iff.mp hpair).1] at hnot
        exact ⟨found, List.mem_filter.mpr ⟨hfound, decide_eq_true hnot⟩, hpair⟩
    rw [AllowedAfter, if_pos hchanging, hvms row hrow, hnew, hremoved, (fix_before_pairs hs.tables hfix hrow).2]
    exact kept_iff
  · refine iff_of_true ?_ ?_
    · intro row hrow
      rw [AllowedAfter, if_neg (by simp [hchanging]), hvms row hrow, hkept]
    · intro texts htexts row hrow hpair
      rw [(fix_before_pairs hs.tables hfix hrow).2, hempty texts htexts] at hpair
      cases hpair

/-- An accepted `PUT` keeps the books if it is a careful one. -/
theorem put_step (hs : s.Recorded) (hbooked : s.Booked) (hput : VmDefineNicView.put s.db req s.vm nic_id data = .ok result) :
    (s.save result).Recorded ∧ ((s.save result).Booked ↔ s.Careful (.put req nic_id data)) := by
  obtain ⟨ser, _, addresses, hser, ⟨monitoring_ip, rfl⟩, hsave, rfl⟩ := put_eq_ok hput
  obtain ⟨nic, hnic⟩ := existing_nic_of_put hser
  have hknown : ∀ ip ∈ (to_nic nic).allowed_ips,
      ∃ row ∈ s.db.addresses, row.ip = ip ∧ network_uuid nic = some row.subnet :=
    hs.known _ (List.mem_map_of_mem (List.mem_of_getElem? hnic))
  obtain ⟨ser₀, net, hfix, hnet, hitem, hprimary, hwithout, hallowed⟩ := put_saved hs.tables hnic hknown hser
  obtain ⟨hip, f, haddresses, hrows⟩ := save_ip_rows hs.notcreated (fun h => by cases h) hsave
  have hsaved : Saved s ⟨{ s.vm with resolvers := ser.resolvers }.save_nics
      (s.vm.nics.modify nic_id fun nic => nic.update ser.jsondata) monitoring_ip, addresses⟩ false true ser
      (s.vm.nics.modify nic_id fun nic => nic.update ser.jsondata) :=
    ⟨rfl, rfl, map_to_nic_save_nics _ _ _, f, haddresses,
      fun row => ⟨(hrows row).pair, (hrows row).primary, (hrows row).allowed⟩⟩
  have hperm := fun g : Item → List (String × String) => flatMap_modify_perm hnic (fun nic => nic.update ser.jsondata) g
  have hmem : ∀ row, ser._ip = .address row → row ∈ s.db.addresses := fun row hrow => (hitem.address row hrow).1
  refine ⟨hsaved.recorded hs ?_ ?_, ?_⟩
  · have hnodup := hs.primary
    rw [primary_pairs_map, (flatMap_perm hnic primary_of).nodup_iff, List.nodup_append] at hnodup
    obtain ⟨-, hothers, hdisjoint⟩ := hnodup
    rw [(hperm primary_of).nodup_iff, List.nodup_append]
    refine ⟨nodup_primary_of _, hothers, ?_⟩
    rintro pair hpair other hother rfl
    rw [hitem.mem_primary hip] at hpair
    obtain ⟨row, hrow, rfl⟩ := List.mem_map.mp hpair
    have hrow := Ip.mem_toList.mp hrow
    rcases hprimary with ⟨a, kept, ha, hip, hsame, -⟩ | ⟨-, hfree⟩
    · obtain rfl := Ip.address.inj (hip.symm.trans hrow)
      have hown : kept.pair ∈ primary_of nic := by
        rw [(fix_before_pairs hs.tables hfix (hmem kept hip)).1, ha, hsame]
        exact List.mem_singleton_self _
      exact hdisjoint _ hown _ hother rfl
    · exact not_primary_of_free hbooked (hmem row hrow) (Or.imp_left And.left (hfree row hrow))
        ((flatMap_perm hnic primary_of).mem_iff.mpr (List.mem_append_right _ hother))
  · intro nic' hnic' ip hip
    rcases mem_modify hnic hnic' with rfl | hmem'
    · exact hitem.known hip
    · exact hs.known _ (List.mem_map_of_mem hmem') ip hip
  · rw [hsaved.booked_iff]
    have hcareful : s.Careful (.put req nic_id data) ↔
        (stored_address s.db nic = none → ¬ ∃ row, ser._ip = .address row) ∧ s.KeepsAllowed req nic_id nic data := by
      simp only [Books.Careful, hnic, Option.some.injEq, forall_eq', hwithout, Bool.not_eq_false]
    rw [hcareful, ← put_primary_iff hs hbooked hnic hfix hmem hprimary,
      ← put_allowed_iff hs hbooked hnic hfix hnet hitem.ips hallowed]
    rw [← forall₂_and]
    refine forall₂_congr fun row hrow => ?_
    rw [(hperm primary_of).mem_iff, (hperm allowed_of).mem_iff, List.mem_append, List.mem_append,
      hitem.mem_primary hip, hitem.mem_allowed]
    rfl

end requests

section runs

/-- The request is not rejected. -/
def Books.Accepts (s : Books U D) (r : NicRequest) : Prop := ∃ result, s.handle r = .ok result

theorem step_of_accepts {s : Books U D} {r : NicRequest} {result : Result U} (hhandle : s.handle r = .ok result) :
    s.step r = s.save result := by
  rw [Books.step, hhandle]

theorem step_booked {s : Books U D} (hs : s.Recorded) (hbooked : s.Booked) (r : NicRequest) :
    (s.step r).Recorded ∧ ((s.step r).Booked ↔ (s.Accepts r → s.Careful r)) := by
  cases hhandle : s.handle r with
  | error e =>
    have hstep : s.step r = s := by rw [Books.step, hhandle]
    rw [hstep]
    refine ⟨hs, iff_of_true hbooked ?_⟩
    rintro ⟨result, haccepted⟩
    rw [hhandle] at haccepted
    cases haccepted
  | ok result =>
    rw [step_of_accepts hhandle, imp_iff_right (show s.Accepts r from ⟨result, hhandle⟩)]
    cases r with
    | post req nic_id data =>
      obtain ⟨hrecorded, hbooked'⟩ := post_step hs hbooked hhandle
      exact ⟨hrecorded, iff_of_true hbooked' trivial⟩
    | put req nic_id data => exact put_step hs hbooked hhandle
    | delete nic_id => exact delete_step hs hbooked hhandle
    | dns records_A =>
      obtain rfl := Except.ok.inj hhandle
      exact ⟨⟨hs.tables, hs.notcreated, hs.primary, hs.known⟩, iff_of_true hbooked trivial⟩

/-- After every request of a run the records of the VM are those of its NICs, if and only if all accepted requests are careful
ones. -/
theorem booked_iff_careful {s : Books U D} (hs : s.Recorded) (hbooked : s.Booked) (rs : List NicRequest) :
    (∀ p ∈ s.trace rs, (p.1.step p.2).Booked) ↔ ∀ p ∈ s.trace rs, p.1.Accepts p.2 → p.1.Careful p.2 := by
  induction rs generalizing s with
  | nil => exact iff_of_true (List.forall_mem_nil _) (List.forall_mem_nil _)
  | cons r rs ih =>
    obtain ⟨hrecorded, hstep⟩ := step_booked hs hbooked r
    rw [Books.trace, List.forall_mem_cons, List.forall_mem_cons]
    constructor
    · rintro ⟨hfirst, hrest⟩
      exact ⟨hstep.mp hfirst, (ih hrecorded hfirst).mp hrest⟩
    · rintro ⟨hcareful, hrest⟩
      have hfirst := hstep.mpr hcareful
      exact ⟨hfirst, (ih hrecorded hfirst).mpr hrest⟩

/-- A VM without NICs and a network with two free addresses. -/
def bare_books : Books ℕ ℕ where
  db := { two_nets with addresses := [⟨"10.0.0.5", lan.uuid, none, [], .vm⟩, ⟨"10.0.0.6", lan.uuid, none, [], .vm⟩] }
  vm := bare_vm

/-- A NIC with an address, and another one that it is allowed to use, is added. -/
def add_nic : NicRequest :=
  .post { any_net with defaults := all_defaults } 0
    { no_data with net := some "lan", ip := some "10.0.0.5", allowed_ips := some ["10.0.0.6"] }

theorem booked_iff_careful_added : (bare_books.step add_nic).Booked := by
  have htables : bare_books.db.WellFormed := ⟨by decide, by decide, by decide, by decide⟩
  have hbooked : bare_books.Booked := by
    intro row hrow
    rcases List.mem_cons.mp hrow with rfl | hrow
    · exact ⟨by decide, by decide⟩
    · rw [List.mem_singleton.mp hrow]
      exact ⟨by decide, by decide⟩
  have hrun := (booked_iff_careful ⟨htables, rfl, List.nodup_nil, nofun⟩ hbooked [add_nic]).mpr
  refine hrun ?_ _ (List.mem_singleton_self _)
  intro p hp _
  rw [List.mem_singleton.mp hp]
  trivial

/-- The allowed address of the NIC is still the VM's after the NIC was deleted. -/
theorem not_booked_deleted :
    (∀ p ∈ bare_books.trace [add_nic, .delete 0], p.1.Accepts p.2) ∧
      ¬ ∀ p ∈ bare_books.trace [add_nic, .delete 0], (p.1.step p.2).Booked := by
  refine ⟨List.forall_mem_cons.mpr ⟨⟨_, rfl⟩, List.forall_mem_singleton.mpr ⟨_, rfl⟩⟩, ?_⟩
  intro hbooked
  have hlast := hbooked _ (List.mem_of_getElem? (i := 1) rfl)
  have hrow : (⟨"10.0.0.6", lan.uuid, none, [1], .vm⟩ : Address ℕ) ∈
      (((bare_books.step add_nic).step (.delete 0)).db.addresses) := List.mem_of_getElem? (i := 1) rfl
  have hleft := (hlast _ hrow).2.mp (List.mem_singleton_self _)
  cases hleft

end runs

end api.vm.define.nic
