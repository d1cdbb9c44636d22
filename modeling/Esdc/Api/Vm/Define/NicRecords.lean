import Mathlib
import Esdc.Api.Vm.Define.NicBooks

namespace api.vm.define.nic

open Fallible (bind_eq_ok)
open vms.definition (Item Value)
open vms.ipaddress (IPAddress Usage vm_update_ipaddress_usage)

variable {U D : Type} [DecidableEq U] [DecidableEq D]

section definitions

/-- All NICs of the VM, those on the hypervisor too. -/
def Vm.all_nics (vm : Vm U) : List Item := vm.nics ++ vm.active_nics

/-- No address is the primary one of two VMs, or the primary one of a VM and an allowed one of another VM. -/
def System.NoConflict (s : System U D) : Prop :=
  ∀ row ∈ s.db.addresses, ∀ uuid vm other vm', uuid ≠ other → s.vms.lookup uuid = some vm →
    s.vms.lookup other = some vm' → row.pair ∈ vm.all_nics.flatMap primary_of →
      row.pair ∉ vm'.all_nics.flatMap primary_of ∧ row.pair ∉ vm'.all_nics.flatMap allowed_of

/-- The VM has the records of all its NICs, and those on the hypervisor are in use. -/
structure Registered (addresses : Addresses U) (vm : Vm U) : Prop where
  primary : ∀ row ∈ addresses, row.pair ∈ vm.all_nics.flatMap primary_of → row.vm = some vm.uuid
  allowed : ∀ row ∈ addresses, row.pair ∈ vm.all_nics.flatMap allowed_of → vm.uuid ∈ row.vms
  active : vm.is_deployed = true → ∀ row ∈ addresses,
    row.pair ∈ vm.active_nics.flatMap primary_of ∨ row.pair ∈ vm.active_nics.flatMap allowed_of → row.usage = .vm_real
  notcreated : vm.is_deployed = false → vm.active_nics = []
  known : ∀ nic ∈ vm.all_nics, ∀ ip ∈ (to_nic nic).allowed_ips,
    ∃ row ∈ addresses, row.ip = ip ∧ network_uuid nic = some row.subnet

/-- A record with a VM is not an allowed address, and every VM has its records. -/
structure System.Recorded (s : System U D) : Prop where
  tables : s.db.WellFormed
  uuids : ∀ uuid vm, s.vms.lookup uuid = some vm → vm.uuid = uuid
  exclusive : ∀ row ∈ s.db.addresses, row.vm ≠ none → row.vms = []
  registered : ∀ uuid vm, s.vms.lookup uuid = some vm → Registered s.db.addresses vm

end definitions

section frame

variable {s : System U D} {uuid : U}

/-- What the operations on a VM leave of the records: the other VMs keep theirs, and those in use by them stay in use. -/
structure Moves (s : System U D) (uuid : U) (f : Address U → Address U) : Prop where
  pair : ∀ row, (f row).pair = row.pair
  vm : ∀ row ∈ s.db.addresses, ∀ other, other ≠ uuid → row.vm = some other → (f row).vm = some other
  vms : ∀ row ∈ s.db.addresses, ∀ other, other ≠ uuid → other ∈ row.vms → other ∈ (f row).vms
  usage : ∀ row ∈ s.db.addresses, row.usage = .vm_real → ∀ other, other ≠ uuid → s.is_notcreated other = false →
    row.vm = some other ∨ other ∈ row.vms → (f row).usage = .vm_real
  exclusive : ∀ row ∈ s.db.addresses, (f row).vm ≠ none → (f row).vms = []

omit [DecidableEq D] in
/-- An operation on one VM keeps the records of the others. -/
theorem System.Recorded.moved {vm : Vm U} {f : Address U → Address U} (hs : s.Recorded) (hmoves : Moves s uuid f)
    (huuid : vm.uuid = uuid) (hvm : Registered (s.db.addresses.map f) vm) :
    System.Recorded { db := { s.db with addresses := s.db.addresses.map f }, vms := s.vms.insert uuid vm } := by
  refine ⟨hs.tables.map hmoves.pair, ?_, ?_, ?_⟩
  · intro other v hlookup
    rw [Dict.lookup_insert_ite] at hlookup
    split at hlookup
    · case isTrue hsame =>
      obtain rfl := Option.some.inj hlookup
      rw [huuid, hsame]
    · exact hs.uuids other v hlookup
  · rw [List.forall_mem_map]
    exact hmoves.exclusive
  · intro other v hlookup
    rw [Dict.lookup_insert_ite] at hlookup
    split at hlookup
    · obtain rfl := Option.some.inj hlookup
      exact hvm
    · case isFalse hother =>
      have hreg := hs.registered other v hlookup
      have hv := hs.uuids other v hlookup
      refine ⟨?_, ?_, ?_, hreg.notcreated, ?_⟩
      · rw [List.forall_mem_map]
        intro row hrow hpair
        rw [hmoves.pair] at hpair
        rw [hv]
        exact hmoves.vm row hrow other hother (hv ▸ hreg.primary row hrow hpair)
      · rw [List.forall_mem_map]
        intro row hrow hpair
        rw [hmoves.pair] at hpair
        rw [hv]
        exact hmoves.vms row hrow other hother (hv ▸ hreg.allowed row hrow hpair)
      · intro hdeployed
        rw [List.forall_mem_map]
        intro row hrow hpair
        rw [hmoves.pair] at hpair
        have hnotcreated : s.is_notcreated other = false := by
          rw [System.is_notcreated, hlookup, Option.all_some, hdeployed]
          rfl
        refine hmoves.usage row hrow (hreg.active hdeployed row hrow hpair) other hother hnotcreated ?_
        have hin : ∀ g : Item → List (String × String),
            row.pair ∈ v.active_nics.flatMap g → row.pair ∈ v.all_nics.flatMap g := by
          intro g hmem
          rw [Vm.all_nics, List.flatMap_append]
          exact List.mem_append_right _ hmem
        rw [← hv]
        exact hpair.imp (fun h => hreg.primary row hrow (hin _ h)) fun h => hreg.allowed row hrow (hin _ h)
      · intro nic hnic ip hip
        obtain ⟨row, hrow, rfl, hsubnet⟩ := hreg.known nic hnic ip hip
        obtain ⟨hsame, hnet⟩ := pair_eq_iff.mp (hmoves.pair row)
        exact ⟨f row, List.mem_map_of_mem hrow, hsame, hsubnet.trans (congrArg some hnet.symm)⟩

omit [DecidableEq D] in
theorem System.Recorded.noConflict (hs : s.Recorded) : s.NoConflict := by
  intro row hrow uuid vm other vm' hne hlookup hlookup' hpair
  have hvm := (hs.registered uuid vm hlookup).primary row hrow hpair
  rw [hs.uuids uuid vm hlookup] at hvm
  constructor
  · intro hpair'
    have hvm' := (hs.registered other vm' hlookup').primary row hrow hpair'
    rw [hs.uuids other vm' hlookup', hvm] at hvm'
    exact hne (Option.some.inj hvm')
  · intro hpair'
    have hmem := (hs.registered other vm' hlookup').allowed row hrow hpair'
    rw [hs.exclusive row hrow (by rw [hvm]; exact fun h => by cases h)] at hmem
    cases hmem

end frame

section usage

open vms.slave_vm (updated_row)

variable {s : System U D} {uuid : U} {vm : Vm U}

omit [DecidableEq D] in
theorem updated_row_other_vm {is_notcreated : U → Bool} {row : Address U} {v : vms.ipaddress.Vm String String U}
    (hvm : row.vm ≠ some v.uuid) : (updated_row is_notcreated v row).vm = row.vm := by
  rw [(vms.ipaddress.same_vm_updated_row is_notcreated v row).2, vms.ipaddress.return_ip, if_neg fun h => hvm h.1]

omit [DecidableEq D] in
theorem updated_row_vms_eq (is_notcreated : U → Bool) (row : Address U) (v : vms.ipaddress.Vm String String U) :
    (updated_row is_notcreated v row).vms = row.vms ∨
      (updated_row is_notcreated v row).vms = row.vms.filter (· ≠ v.uuid) := by
  have hreturn : (vms.ipaddress.return_ip v row).vms = row.vms := by
    unfold vms.ipaddress.return_ip
    split <;> rfl
  have hremove : (vms.ipaddress.remove_allowed_ip is_notcreated v (vms.ipaddress.return_ip v row)).vms = row.vms ∨
      (vms.ipaddress.remove_allowed_ip is_notcreated v (vms.ipaddress.return_ip v row)).vms =
        row.vms.filter (· ≠ v.uuid) := by
    unfold vms.ipaddress.remove_allowed_ip
    split
    · rw [vms.ipaddress.reset_vms, hreturn]
      exact .inr rfl
    · exact .inl hreturn
  rw [updated_row]
  split
  · rwa [vms.ipaddress.unset_vms]
  · rwa [vms.ipaddress.set_vms]

omit [DecidableEq D] in
/-- A record that another VM uses on the hypervisor stays in use. -/
theorem updated_row_in_use {is_notcreated : U → Bool} {row : Address U} {v : vms.ipaddress.Vm String String U}
    (husage : row.usage = .vm_real) (hvm : row.vm ≠ some v.uuid)
    (hheld : v.uuid ∈ row.vms → ∃ other ∈ row.vms, other ≠ v.uuid ∧ is_notcreated other = false) :
    (updated_row is_notcreated v row).usage = .vm_real := by
  have hreset : ∀ row' : Address U, row'.usage = .vm_real →
      (∃ other ∈ row'.vms, other ≠ v.uuid ∧ is_notcreated other = false) →
      vms.ipaddress._reset_allowed_ip_usage is_notcreated v.uuid row' = row' := by
    rintro row' - ⟨other, hmem, hne, hdeployed⟩
    refine if_neg fun hall => ?_
    have hnotcreated := List.all_eq_true.mp hall other (List.mem_filter.mpr ⟨hmem, decide_eq_true hne⟩)
    rw [hdeployed] at hnotcreated
    cases hnotcreated
  have hreturn : vms.ipaddress.return_ip v row = row := if_neg fun h => hvm h.1
  obtain ⟨removed, hremoved, husage', hvm', hheld'⟩ : ∃ removed,
      vms.ipaddress.remove_allowed_ip is_notcreated v row = removed ∧ removed.usage = .vm_real ∧
        removed.vm ≠ some v.uuid ∧
        (v.uuid ∈ removed.vms → ∃ other ∈ removed.vms, other ≠ v.uuid ∧ is_notcreated other = false) := by
    unfold vms.ipaddress.remove_allowed_ip
    split
    · case isTrue h =>
      obtain ⟨other, hmem, hne, hdeployed⟩ := hheld h.1
      have hkept : other ∈ row.vms.filter (· ≠ v.uuid) := List.mem_filter.mpr ⟨hmem, decide_eq_true hne⟩
      rw [hreset { row with vms := row.vms.filter (· ≠ v.uuid) } husage ⟨other, hkept, hne, hdeployed⟩]
      exact ⟨_, rfl, husage, hvm, fun _ => ⟨other, hkept, hne, hdeployed⟩⟩
    · exact ⟨row, rfl, husage, hvm, hheld⟩
  rw [updated_row, hreturn, hremoved]
  split
  · have hunset : vms.ipaddress.unset_ip v removed = removed := if_neg fun h => hvm' h.1
    rw [hunset, vms.ipaddress.unset_allowed_ip]
    split
    · case isTrue h =>
      rw [hreset removed husage' (hheld' h.1)]
      exact husage'
    · exact husage'
  · have hset : vms.ipaddress.set_ip v removed = removed := if_neg fun h => hvm' h.1
    rw [hset, vms.ipaddress.set_allowed_ip]
    split
    · rfl
    · exact husage'

omit [DecidableEq D] in
/-- The update of the usage is a move of the VM. -/
theorem moves_updated_row (hs : s.Recorded) (huuid : vm.uuid = uuid) :
    Moves s uuid (updated_row s.is_notcreated vm.to_ips) := by
  have huuid' : vm.to_ips.uuid = uuid := huuid
  refine ⟨fun row => vms.ipaddress.updated_row_pair _ _ _, ?_, ?_, ?_, ?_⟩
  · intro row _ other hne hvm
    rw [updated_row_other_vm, hvm]
    rw [hvm, huuid']
    exact fun h => hne (Option.some.inj h)
  · intro row _ other hne hmem
    rcases updated_row_vms_eq s.is_notcreated row vm.to_ips with hvms | hvms
    · rwa [hvms]
    · rw [hvms, huuid']
      exact List.mem_filter.mpr ⟨hmem, decide_eq_true hne⟩
  · intro row hrow husage other hne hdeployed hassociated
    refine updated_row_in_use husage ?_ ?_
    · rcases hassociated with hvm | hmem
      · rw [hvm, huuid']
        exact fun h => hne (Option.some.inj h)
      · intro hvm
        rw [hs.exclusive row hrow (by rw [hvm]; exact fun h => by cases h)] at hmem
        cases hmem
    · intro hmem
      rcases hassociated with hvm | hmem'
      · rw [hs.exclusive row hrow (by rw [hvm]; exact fun h => by cases h)] at hmem
        cases hmem
      · exact ⟨other, hmem', huuid' ▸ hne, hdeployed⟩
  · intro row hrow hvm
    have hrow_vm : row.vm ≠ none := by
      intro hnone
      rw [updated_row_other_vm (by rw [hnone]; exact fun h => by cases h)] at hvm
      exact hvm hnone
    have hempty := hs.exclusive row hrow hrow_vm
    rcases updated_row_vms_eq s.is_notcreated row vm.to_ips with hvms | hvms
    · rw [hvms, hempty]
    · rw [hvms, hempty, List.filter_nil]

omit [DecidableEq D] in
/-- A record of an address that is still listed stays the VM's. -/
theorem updated_row_listed {is_notcreated : U → Bool} {row : Address U} {v : vms.ipaddress.Vm String String U} :
    (row.ip ∈ v.current_ips → (updated_row is_notcreated v row).vm = row.vm) ∧
      (row.ip ∈ v.current_allowed_ips → (updated_row is_notcreated v row).vms = row.vms) := by
  constructor
  · intro hip
    rw [(vms.ipaddress.same_vm_updated_row is_notcreated v row).2, vms.ipaddress.return_ip, if_neg fun h => h.2 hip]
  · intro hip
    have hreturn : (vms.ipaddress.return_ip v row).vms = row.vms ∧ (vms.ipaddress.return_ip v row).ip = row.ip := by
      unfold vms.ipaddress.return_ip
      split <;> exact ⟨rfl, rfl⟩
    have hkept : vms.ipaddress.remove_allowed_ip is_notcreated v (vms.ipaddress.return_ip v row) =
        vms.ipaddress.return_ip v row := if_neg fun h => h.2 (hreturn.2 ▸ hip)
    rw [updated_row, hkept]
    split
    · rw [vms.ipaddress.unset_vms, hreturn.1]
    · rw [vms.ipaddress.set_vms, hreturn.1]

omit [DecidableEq U] [DecidableEq D] in
theorem mem_primary_ips_of_pair {nics : List Item} {row : Address U} (hpair : row.pair ∈ nics.flatMap primary_of) :
    row.ip ∈ vms.ipaddress.primary_ips (nics.map to_nic) :=
  vms.ipaddress.fst_mem_primary_ips (primary_pairs_map nics ▸ hpair)

omit [DecidableEq U] [DecidableEq D] in
theorem mem_allowed_ips_of_pair {nics : List Item} {row : Address U} (hpair : row.pair ∈ nics.flatMap allowed_of) :
    row.ip ∈ vms.ipaddress.allowed_ips (nics.map to_nic) :=
  vms.ipaddress.fst_mem_allowed_ips (allowed_pairs_map nics ▸ hpair)

omit [DecidableEq D] in
/-- The checked NICs have networks, and records that are in use. -/
theorem check_nics_network {rows : Addresses U} {nics : List (vms.ipaddress.Nic String String)}
    (hcheck : vms.ipaddress.check_nics uuid rows nics = .ok ()) : ∀ nic ∈ nics, nic.network_uuid ≠ none := by
  induction nics with
  | nil => exact fun nic hnic => absurd hnic List.not_mem_nil
  | cons nic nics ih =>
    obtain ⟨_, hnic, hnics⟩ := bind_eq_ok.mp hcheck
    rw [List.forall_mem_cons]
    refine ⟨?_, ih hnics⟩
    intro hnone
    rw [vms.ipaddress.check_nic, hnone] at hnic
    cases hnic

omit [DecidableEq D] in
/-- The VM that was created, updated or reverted has the records of its NICs if no error is raised. -/
theorem registered_checked {rows : Addresses U} {f : Address U → Address U} (hunique : (rows.map (·.pair)).Nodup)
    (hpair : ∀ row, (f row).pair = row.pair) (hactive : vm.active_nics = vm.nics)
    (hdeployed : vm.is_deployed = true)
    (hcheck : vms.ipaddress.check_nics vm.uuid (rows.map f) (vm.nics.map to_nic) = .ok ()) :
    Registered (rows.map f) vm := by
  obtain ⟨hprimary, hallowed⟩ := vms.ipaddress.check_nics_spec hcheck
  rw [primary_pairs_map] at hprimary
  rw [allowed_pairs_map] at hallowed
  have hunique' : ((rows.map f).map (·.pair)).Nodup := by
    rw [List.map_map, show IPAddress.pair ∘ f = IPAddress.pair from funext hpair]
    exact hunique
  have hsame : ∀ row ∈ rows.map f, ∀ row' ∈ rows.map f, row'.pair = row.pair → row' = row :=
    fun row hrow row' hrow' heq => List.inj_on_of_nodup_map hunique' hrow' hrow heq
  have hall : ∀ g : Item → List (String × String), ∀ pair ∈ vm.all_nics.flatMap g, pair ∈ vm.nics.flatMap g := by
    intro g pair hmem
    rw [Vm.all_nics, hactive, List.flatMap_append, List.mem_append, or_self] at hmem
    exact hmem
  refine ⟨?_, ?_, ?_, ?_, ?_⟩
  · intro row hrow hmem
    obtain ⟨row', hrow', hvm, heq, -⟩ := hprimary row.pair (hall _ _ hmem)
    rw [← hsame row hrow row' hrow' heq]
    exact hvm
  · intro row hrow hmem
    obtain ⟨row', hrow', hvms, heq, -⟩ := hallowed row.pair (hall _ _ hmem)
    rw [← hsame row hrow row' hrow' heq]
    exact hvms
  · intro _ row hrow hmem
    rw [hactive] at hmem
    rcases hmem with hmem | hmem
    · obtain ⟨row', hrow', -, heq, husage⟩ := hprimary row.pair hmem
      rwa [← hsame row hrow row' hrow' heq]
    · obtain ⟨row', hrow', -, heq, husage⟩ := hallowed row.pair hmem
      rwa [← hsame row hrow row' hrow' heq]
  · intro hnot
    rw [hdeployed] at hnot
    cases hnot
  · intro nic hnic ip hip
    have hnic : nic ∈ vm.nics := by
      rw [Vm.all_nics, hactive, List.mem_append, or_self] at hnic
      exact hnic
    cases hnetwork : network_uuid nic with
    | none => exact absurd hnetwork (check_nics_network hcheck _ (List.mem_map_of_mem hnic))
    | some subnet =>
      have hmem : (ip, subnet) ∈ vm.nics.flatMap allowed_of :=
        List.mem_flatMap.mpr ⟨nic, hnic, vms.ipaddress.mem_pairs.mpr ⟨hnetwork, hip⟩⟩
      obtain ⟨row, hrow, -, heq, -⟩ := hallowed _ hmem
      obtain ⟨hip', hsubnet⟩ := Prod.mk.inj heq
      exact ⟨row, hrow, hip', congrArg some hsubnet.symm⟩

omit [DecidableEq D] in
/-- The VM that was deleted from the node keeps the records of its definition. -/
theorem registered_deleted (hreg : Registered s.db.addresses vm) :
    Registered
      (s.db.addresses.map (updated_row s.is_notcreated (Vm.to_ips { vm with is_deployed := false, active_nics := [] })))
      { vm with is_deployed := false, active_nics := [] } := by
  have hall : Vm.all_nics { vm with is_deployed := false, active_nics := [] } = vm.nics := List.append_nil _
  have hin : ∀ g : Item → List (String × String), ∀ pair ∈ vm.nics.flatMap g, pair ∈ vm.all_nics.flatMap g := by
    intro g pair hmem
    rw [Vm.all_nics, List.flatMap_append]
    exact List.mem_append_left _ hmem
  refine ⟨?_, ?_, nofun, fun _ => rfl, ?_⟩
  · rw [List.forall_mem_map, hall]
    intro row hrow hmem
    rw [vms.ipaddress.updated_row_pair] at hmem
    rw [updated_row_listed.1 (List.mem_append_right _ (mem_primary_ips_of_pair hmem))]
    exact hreg.primary row hrow (hin _ _ hmem)
  · rw [List.forall_mem_map, hall]
    intro row hrow hmem
    rw [vms.ipaddress.updated_row_pair] at hmem
    rw [updated_row_listed.2 (List.mem_append_right _ (mem_allowed_ips_of_pair hmem))]
    exact hreg.allowed row hrow (hin _ _ hmem)
  · rw [hall]
    intro nic hnic ip hip
    obtain ⟨row, hrow, rfl, hsubnet⟩ := hreg.known nic (List.mem_append_left _ hnic) ip hip
    have hpair := vms.ipaddress.updated_row_pair s.is_notcreated
      (Vm.to_ips { vm with is_deployed := false, active_nics := [] }) row
    obtain ⟨hsame, hnet⟩ := pair_eq_iff.mp hpair
    exact ⟨_, List.mem_map_of_mem hrow, hsame, hsubnet.trans (congrArg some hnet.symm)⟩

omit [DecidableEq D] in
/-- The callbacks and the revert. -/
theorem System.Recorded.save_usage (hs : s.Recorded) (huuid : vm.uuid = uuid)
    (hvm : ∀ addresses, vm_update_ipaddress_usage s.is_notcreated vm.to_ips s.db.addresses = (addresses, .ok ()) →
      Registered (s.db.addresses.map (updated_row s.is_notcreated vm.to_ips)) vm) : (s.save_usage uuid vm).Recorded := by
  unfold System.save_usage
  cases hupdate : vm_update_ipaddress_usage s.is_notcreated vm.to_ips s.db.addresses with
  | mk addresses result =>
    cases result with
    | error e => exact hs
    | ok _ =>
      have haddresses : addresses = s.db.addresses.map (updated_row s.is_notcreated vm.to_ips) := by
        rw [← vms.slave_vm.vm_update_ipaddress_usage_rows, hupdate]
      rw [haddresses]
      exact hs.moved (moves_updated_row hs huuid) huuid (hvm addresses hupdate)

omit [DecidableEq D] in
theorem check_of_update {addresses : Addresses U} (hdeployed : vm.is_deployed = true)
    (hupdate : vm_update_ipaddress_usage s.is_notcreated vm.to_ips s.db.addresses = (addresses, .ok ())) :
    vms.ipaddress.check_nics vm.uuid (s.db.addresses.map (updated_row s.is_notcreated vm.to_ips))
      (vm.active_nics.map to_nic) = .ok () := by
  have hcreated : vm.to_ips.is_notcreated = false := by
    rw [Vm.to_ips, hdeployed]
    rfl
  have hsecond := congrArg Prod.snd hupdate
  rw [← vms.slave_vm.vm_update_ipaddress_usage_rows]
  unfold vm_update_ipaddress_usage at hsecond ⊢
  rw [if_neg (by rw [hcreated]; exact Bool.false_ne_true)] at hsecond ⊢
  exact hsecond

end usage

section requests

variable {s : System U D} {uuid : U} {vm vm' : Vm U} {ser : VmDefineNicSerializer U} {delete update : Bool}
  {req : Request} {nic_id : ℕ} {data : Data} {result : Result U} {nic : Item}

/-- The addresses of a serializer: those that are given up are the VM's, and those that are taken are nobody's. -/
structure Changes (addresses : Addresses U) (vm : Vm U) (delete update : Bool) (ser : VmDefineNicSerializer U) : Prop where
  old : ∀ ip ∈ ser._ip_old.toList, ip ∈ addresses ∧ ip.vm = some vm.uuid
  deleted : delete = true → ∀ ip ∈ ser._ip.toList, ip ∈ addresses ∧ ip.vm = some vm.uuid
  created : delete = false → ¬ (update = true ∧ ser._ip_old.toList = []) → ∀ ip ∈ ser._ip.toList,
    ip ∈ addresses ∧ ip.vm = none ∧ ip.vms = [] ∧ (ser._changing_allowed_ips = true → ip.ip ∉ ser._ips.map (·.ip))
  ips : ser._changing_allowed_ips = true → ∀ ip ∈ ser._ips, ip ∈ addresses ∧ ip.vm = none
  ips_old : ser._changing_allowed_ips = true → ∀ ip ∈ ser._ips_old, ip ∈ addresses

/-- A record after the addresses of a NIC were saved. -/
def saved_row (vm : Vm U) (delete update : Bool) (ser : VmDefineNicSerializer U) (row : Address U) : Address U :=
  saved_allowed vm ser (saved_primary vm delete update ser row)

omit [DecidableEq U] [DecidableEq D] in
theorem mem_of_pair_mem {addresses ips : Addresses U} (hunique : (addresses.map (·.pair)).Nodup)
    (hips : ∀ ip ∈ ips, ip ∈ addresses) {row : Address U} (hrow : row ∈ addresses)
    (hpair : row.pair ∈ ips.map IPAddress.pair) : row ∈ ips := by
  obtain ⟨ip, hip, heq⟩ := List.mem_map.mp hpair
  rwa [← List.inj_on_of_nodup_map hunique (hips ip hip) hrow heq]

omit [DecidableEq D] in
theorem saved_row_pair (row : Address U) : (saved_row vm delete update ser row).pair = row.pair :=
  (saved_allowed_spec _).1.trans (saved_primary_spec delete update row).1

omit [DecidableEq D] in
theorem saved_row_vm (row : Address U) : (saved_row vm delete update ser row).vm =
    if update = true ∧ ser._ip_old.toList = [] then row.vm
    else if delete = false ∧ row.pair ∈ ser._ip.toList.map IPAddress.pair then some vm.uuid
    else if row.pair ∈ (removable vm ser._ip_old.toList).map IPAddress.pair ∨
      delete = true ∧ row.pair ∈ (removable vm ser._ip.toList).map IPAddress.pair then none
    else row.vm :=
  (saved_allowed_spec _).2.1.trans (saved_primary_spec delete update row).2.2.2

omit [DecidableEq D] in
theorem saved_row_usage (row : Address U) : (saved_row vm delete update ser row).usage = row.usage :=
  (saved_allowed_spec _).2.2.1.trans (saved_primary_spec delete update row).2.2.1

omit [DecidableEq U] [DecidableEq D] in
theorem mem_removable {ips : List (Address U)} {ip : Address U} :
    ip ∈ removable vm ips ↔ ip ∈ ips ∧ ¬ (ip.usage = .vm_real ∧ vm.is_deployed = true) := by
  simp [removable, imp_iff_not_or]

omit [DecidableEq D] in
/-- The VM of a record changes only from nobody to the VM, or back. -/
theorem Changes.vm_cases (hunique : (s.db.addresses.map (·.pair)).Nodup)
    (hser : Changes s.db.addresses vm delete update ser) {row : Address U} (hrow : row ∈ s.db.addresses) :
    ((saved_row vm delete update ser row).vm = some vm.uuid ∧ row ∈ ser._ip.toList ∧ row.vm = none ∧ row.vms = [] ∧
        (ser._changing_allowed_ips = true → row.ip ∉ ser._ips.map (·.ip))) ∨
      ((saved_row vm delete update ser row).vm = none ∧ row.vm = some vm.uuid ∧
        ((row ∈ removable vm ser._ip_old.toList ∧ ¬ (update = true ∧ ser._ip_old.toList = [])) ∨
          delete = true ∧ row ∈ removable vm ser._ip.toList)) ∨
      (saved_row vm delete update ser row).vm = row.vm := by
  rw [saved_row_vm]
  have hold : ∀ ip ∈ removable vm ser._ip_old.toList, ip ∈ s.db.addresses ∧ ip.vm = some vm.uuid :=
    fun ip hip => hser.old ip (mem_removable.mp hip).1
  by_cases hkept : update = true ∧ ser._ip_old.toList = []
  · rw [if_pos hkept]
    exact .inr (.inr rfl)
  · rw [if_neg hkept]
    split
    · case isTrue hnew =>
      have hcreated := hser.created hnew.1 hkept
      have hmem := mem_of_pair_mem hunique (fun ip hip => (hcreated ip hip).1) hrow hnew.2
      exact .inl ⟨rfl, hmem, (hcreated row hmem).2⟩
    · split
      · case isTrue hremoved =>
        rcases hremoved with hremoved | ⟨hdelete, hremoved⟩
        · have hmem := mem_of_pair_mem hunique (fun ip hip => (hold ip hip).1) hrow hremoved
          exact .inr (.inl ⟨rfl, (hold row hmem).2, .inl ⟨hmem, hkept⟩⟩)
        · have hdeleted := hser.deleted hdelete
          have hmem := mem_of_pair_mem hunique (fun ip hip => (hdeleted ip (mem_removable.mp hip).1).1) hrow hremoved
          exact .inr (.inl ⟨rfl, (hdeleted row (mem_removable.mp hmem).1).2, .inr ⟨hdelete, hmem⟩⟩)
      · exact .inr (.inr rfl)

omit [DecidableEq D] in
theorem Changes.mem_vms (row : Address U) (other : U) : other ∈ (saved_row vm delete update ser row).vms ↔
    (ser._changing_allowed_ips = true ∧ other = vm.uuid ∧ row.pair ∈ ser._ips.map IPAddress.pair) ∨
      (other ∈ row.vms ∧ ¬ (ser._changing_allowed_ips = true ∧ other = vm.uuid ∧
        row.pair ∈ (removable vm ser._ips_old).map IPAddress.pair)) := by
  obtain ⟨hpair, hvms, -⟩ := @saved_primary_spec _ _ vm ser delete update row
  rw [saved_row, (saved_allowed_spec _).2.2.2, hpair, hvms]

omit [DecidableEq D] in
/-- A request is a move of its VM. -/
theorem Changes.moves (hs : s.Recorded) (huuid : vm.uuid = uuid)
    (hser : Changes s.db.addresses vm delete update ser) : Moves s uuid (saved_row vm delete update ser) := by
  refine ⟨saved_row_pair, ?_, ?_, ?_, ?_⟩
  · intro row hrow other hne hvm
    rcases hser.vm_cases hs.tables.unique hrow with ⟨-, -, hnone, -⟩ | ⟨-, hown, -⟩ | hsame
    · rw [hvm] at hnone
      cases hnone
    · rw [hvm, huuid] at hown
      exact absurd (Option.some.inj hown) hne
    · rw [hsame, hvm]
  · intro row _ other hne hmem
    rw [Changes.mem_vms]
    exact .inr ⟨hmem, fun h => hne (h.2.1.trans huuid)⟩
  · intro row _ husage other _ _ _
    rw [saved_row_usage, husage]
  · intro row hrow hvm
    rw [List.eq_nil_iff_forall_not_mem]
    intro other hmem
    rw [Changes.mem_vms] at hmem
    have hnot : ∀ hchanging : ser._changing_allowed_ips = true, row.vm ≠ none → row.pair ∉ ser._ips.map IPAddress.pair := by
      intro hchanging hsome hpair
      have hips := hser.ips hchanging
      have hin := mem_of_pair_mem hs.tables.unique (fun ip hip => (hips ip hip).1) hrow hpair
      exact hsome (hips row hin).2
    rcases hser.vm_cases hs.tables.unique hrow with ⟨-, -, -, hempty, hother⟩ | ⟨hnone, -⟩ | hsame
    · rcases hmem with ⟨hchanging, -, hpair⟩ | ⟨hmem, -⟩
      · obtain ⟨ip, hip, heq⟩ := List.mem_map.mp hpair
        exact hother hchanging (List.mem_map.mpr ⟨ip, hip, (pair_eq_iff.mp heq).1⟩)
      · rw [hempty] at hmem
        cases hmem
    · exact hvm hnone
    · rw [hsame] at hvm
      rcases hmem with ⟨hchanging, -, hpair⟩ | ⟨hmem, -⟩
      · exact hnot hchanging hvm hpair
      · rw [hs.exclusive row hrow hvm] at hmem
        cases hmem

omit [DecidableEq U] [DecidableEq D] in
theorem mem_all_nics (g : Item → List (String × String)) (pair : String × String) :
    pair ∈ vm.all_nics.flatMap g ↔ pair ∈ vm.nics.flatMap g ∨ pair ∈ vm.active_nics.flatMap g := by
  rw [Vm.all_nics, List.flatMap_append, List.mem_append]

omit [DecidableEq U] [DecidableEq D] in
/-- What is set on the hypervisor is not removable. -/
theorem Registered.not_removable {addresses ips : Addresses U} (hreg : Registered addresses vm) {row : Address U}
    (hrow : row ∈ addresses)
    (hpair : row.pair ∈ vm.active_nics.flatMap primary_of ∨ row.pair ∈ vm.active_nics.flatMap allowed_of) :
    row ∉ removable vm ips := by
  intro hmem
  obtain ⟨-, hnot⟩ := mem_removable.mp hmem
  cases hdeployed : vm.is_deployed with
  | true => exact hnot ⟨hreg.active hdeployed row hrow hpair, hdeployed⟩
  | false =>
    rw [hreg.notcreated hdeployed] at hpair
    exact hpair.elim List.not_mem_nil List.not_mem_nil

omit [DecidableEq D] in
/-- The VM has the records of its NICs after a request exactly if it has those of the NICs in its definition. -/
theorem Changes.registered_iff {nics : List Item} (hs : s.Recorded) (hreg : Registered s.db.addresses vm)
    (hser : Changes s.db.addresses vm delete update ser) (huuid : vm'.uuid = vm.uuid)
    (hdeployed : vm'.is_deployed = vm.is_deployed) (hactive : vm'.active_nics = vm.active_nics)
    (hnics : vm'.nics.map to_nic = nics.map to_nic)
    (hknown : ∀ nic ∈ nics, ∀ ip ∈ (to_nic nic).allowed_ips,
      ∃ row ∈ s.db.addresses, row.ip = ip ∧ network_uuid nic = some row.subnet) :
    Registered (s.db.addresses.map (saved_row vm delete update ser)) vm' ↔
      (∀ row ∈ s.db.addresses, row.pair ∈ nics.flatMap primary_of →
        (saved_row vm delete update ser row).vm = some vm.uuid) ∧
      ∀ row ∈ s.db.addresses, row.pair ∈ nics.flatMap allowed_of → vm.uuid ∈ (saved_row vm delete update ser row).vms := by
  have hsame_primary : vm'.nics.flatMap primary_of = nics.flatMap primary_of := by
    rw [← primary_pairs_map, hnics, primary_pairs_map]
  have hsame_allowed : vm'.nics.flatMap allowed_of = nics.flatMap allowed_of := by
    rw [← allowed_pairs_map, hnics, allowed_pairs_map]
  constructor
  · intro hreg'
    constructor
    · intro row hrow hpair
      rw [← huuid]
      refine hreg'.primary _ (List.mem_map_of_mem hrow) ?_
      rw [saved_row_pair, mem_all_nics, hsame_primary]
      exact .inl hpair
    · intro row hrow hpair
      rw [← huuid]
      refine hreg'.allowed _ (List.mem_map_of_mem hrow) ?_
      rw [saved_row_pair, mem_all_nics, hsame_allowed]
      exact .inl hpair
  rintro ⟨hprimary, hallowed⟩
  refine ⟨?_, ?_, ?_, ?_, ?_⟩
  · rw [List.forall_mem_map]
    intro row hrow hpair
    rw [saved_row_pair, mem_all_nics, hsame_primary, hactive] at hpair
    rw [huuid]
    rcases hpair with hpair | hpair
    · exact hprimary row hrow hpair
    · have hvm := hreg.primary row hrow ((mem_all_nics _ _).mpr (.inr hpair))
      rcases hser.vm_cases hs.tables.unique hrow with ⟨hnew, -⟩ | ⟨-, -, hremoved⟩ | hkept
      · exact hnew
      · rcases hremoved with ⟨hremoved, -⟩ | ⟨-, hremoved⟩
        · exact absurd hremoved (hreg.not_removable hrow (.inl hpair))
        · exact absurd hremoved (hreg.not_removable hrow (.inl hpair))
      · rw [hkept, hvm]
  · rw [List.forall_mem_map]
    intro row hrow hpair
    rw [saved_row_pair, mem_all_nics, hsame_allowed, hactive] at hpair
    rw [huuid]
    rcases hpair with hpair | hpair
    · exact hallowed row hrow hpair
    · have hvms := hreg.allowed row hrow ((mem_all_nics _ _).mpr (.inr hpair))
      rw [Changes.mem_vms]
      refine .inr ⟨hvms, fun hremoved => ?_⟩
      have hold := hser.ips_old hremoved.1
      have hmem := mem_of_pair_mem hs.tables.unique (fun ip hip => hold ip (mem_removable.mp hip).1) hrow hremoved.2.2
      exact hreg.not_removable hrow (.inr hpair) hmem
  · intro hcreated
    rw [List.forall_mem_map]
    intro row hrow hpair
    rw [saved_row_pair, hactive] at hpair
    rw [saved_row_usage]
    exact hreg.active (hdeployed ▸ hcreated) row hrow hpair
  · intro hnot
    rw [hactive]
    exact hreg.notcreated (hdeployed ▸ hnot)
  · intro nic hnic ip hip
    have hfound : ∃ row ∈ s.db.addresses, row.ip = ip ∧ network_uuid nic = some row.subnet := by
      rw [Vm.all_nics, hactive] at hnic
      rcases List.mem_append.mp hnic with hnic | hnic
      · obtain ⟨nic', hnic', heq⟩ := List.mem_map.mp (hnics ▸ List.mem_map_of_mem hnic)
        have hnetwork : network_uuid nic' = network_uuid nic := congrArg vms.ipaddress.Nic.network_uuid heq
        rw [← hnetwork]
        exact hknown nic' hnic' ip (heq ▸ hip)
      · exact hreg.known nic (List.mem_append_right _ hnic) ip hip
    obtain ⟨row, hrow, rfl, hsubnet⟩ := hfound
    have hsaved : (saved_row vm delete update ser row).pair = row.pair := saved_row_pair row
    obtain ⟨hip', hnet⟩ := pair_eq_iff.mp hsaved
    exact ⟨_, List.mem_map_of_mem hrow, hip', hsubnet.trans (congrArg some hnet.symm)⟩

omit [DecidableEq D] in
/-- The state after an accepted request. -/
theorem Changes.recorded_iff {nics : List Item} (hs : s.Recorded) (hlookup : s.vms.lookup uuid = some vm)
    (hser : Changes s.db.addresses vm delete update ser) (hresult : result.vm.uuid = vm.uuid)
    (hdeployed : result.vm.is_deployed = vm.is_deployed) (hactive : result.vm.active_nics = vm.active_nics)
    (hnics : result.vm.nics.map to_nic = nics.map to_nic)
    (haddresses : result.addresses = s.db.addresses.map (saved_row vm delete update ser))
    (hknown : ∀ nic ∈ nics, ∀ ip ∈ (to_nic nic).allowed_ips,
      ∃ row ∈ s.db.addresses, row.ip = ip ∧ network_uuid nic = some row.subnet) :
    (s.save uuid (.ok result)).Recorded ↔
      (∀ row ∈ s.db.addresses, row.pair ∈ nics.flatMap primary_of →
        (saved_row vm delete update ser row).vm = some vm.uuid) ∧
      ∀ row ∈ s.db.addresses, row.pair ∈ nics.flatMap allowed_of → vm.uuid ∈ (saved_row vm delete update ser row).vms := by
  have huuid := hs.uuids uuid vm hlookup
  rw [← hser.registered_iff hs (hs.registered uuid vm hlookup) hresult hdeployed hactive hnics hknown, System.save,
    haddresses]
  constructor
  · exact fun hsaved => hsaved.registered uuid _ (AList.lookup_insert _)
  · exact hs.moved (hser.moves hs huuid) (hresult.trans huuid)

omit [DecidableEq D] in
/-- A record that the VM has and does not give up stays the VM's. -/
theorem Changes.keeps_vm (hs : s.Recorded) (hser : Changes s.db.addresses vm delete update ser) {row : Address U}
    (hrow : row ∈ s.db.addresses) (hvm : row.vm = some vm.uuid) (hold : row ∉ removable vm ser._ip_old.toList)
    (hdelete : delete = true → row ∉ removable vm ser._ip.toList) :
    (saved_row vm delete update ser row).vm = some vm.uuid := by
  rcases hser.vm_cases hs.tables.unique hrow with ⟨hnew, -⟩ | ⟨-, -, hremoved⟩ | hkept
  · exact hnew
  · rcases hremoved with ⟨hremoved, -⟩ | ⟨hdeleted, hremoved⟩
    · exact absurd hremoved hold
    · exact absurd hremoved (hdelete hdeleted)
  · rw [hkept, hvm]

omit [DecidableEq D] in
theorem Changes.created_vm {row : Address U} (hdelete : delete = false)
    (hcreated : ¬ (update = true ∧ ser._ip_old.toList = [])) (hpair : row.pair ∈ ser._ip.toList.map IPAddress.pair) :
    (saved_row vm delete update ser row).vm = some vm.uuid := by
  rw [saved_row_vm, if_neg hcreated, if_pos ⟨hdelete, hpair⟩]

omit [DecidableEq U] [DecidableEq D] in
/-- An address that may be taken is on no NIC of the VM. -/
theorem Registered.not_primary {row : Address U} (hreg : Registered s.db.addresses vm) (hrow : row ∈ s.db.addresses)
    (hvm : row.vm = none) : row.pair ∉ vm.nics.flatMap primary_of := by
  intro hpair
  rw [hreg.primary row hrow ((mem_all_nics _ _).mpr (.inl hpair))] at hvm
  cases hvm

omit [DecidableEq U] [DecidableEq D] in
theorem mem_all_of_nic {g : Item → List (String × String)} {pair : String × String} (hnic : vm.nics[nic_id]? = some nic)
    (hpair : pair ∈ g nic ∨ pair ∈ (vm.nics.eraseIdx nic_id).flatMap g) : pair ∈ vm.all_nics.flatMap g := by
  rw [mem_all_nics, (flatMap_perm hnic g).mem_iff, List.mem_append]
  exact .inl hpair

omit [DecidableEq U] [DecidableEq D] in
/-- The address of a NIC is a record of the VM. -/
theorem stored_record {db : Db U D} (hdb : db.WellFormed) (hreg : Registered db.addresses vm)
    (hnic : vm.nics[nic_id]? = some nic) (hfix : fix_before db vm nic = .ok ser) :
    ∀ ip ∈ ser._ip.toList, ip ∈ db.addresses ∧ ip.pair ∈ primary_of nic ∧ ip.vm = some vm.uuid := by
  intro ip hip
  obtain ⟨-, -, hstored⟩ := fix_before_ips hfix
  have hmem := stored_address_mem ((hstored ip).mp (Ip.mem_toList.mp hip))
  have hpair := (fix_before_pairs hdb hfix hmem).1.mpr (List.mem_map_of_mem hip)
  exact ⟨hmem, hpair, hreg.primary ip hmem (mem_all_of_nic hnic (.inl hpair))⟩

end requests

end api.vm.define.nic
