import Mathlib
import Esdc.Lib.Dict
import Esdc.Lib.Fallible
import Esdc.Vms.FailOver

namespace vms.ipaddress

open slave_vm (updated_row vm_update_ipaddress_usage_rows)

variable {A S U : Type}

section definitions

def Nic.pairs (nic : Nic A S) (ips : List A) : List (A × S) :=
  match nic.network_uuid with
  | none => []
  | some network_uuid => ips.map fun ip => (ip, network_uuid)

/-- The primary addresses of the NICs with their networks. -/
def primary_pairs (nics : List (Nic A S)) : List (A × S) := nics.flatMap fun nic => nic.pairs nic.primary_ip

def allowed_pairs (nics : List (Nic A S)) : List (A × S) := nics.flatMap fun nic => nic.pairs nic.allowed_ips

def IPAddress.pair (row : IPAddress A S U) : A × S := (row.ip, row.subnet)

variable [DecidableEq U]

def is_notcreated (vm_set : Dict U (Vm A S U)) (uuid : U) : Bool := (vm_set.lookup uuid).all (·.is_notcreated)

/-- A deployed VM that meets a condition has the address in `json_active`. -/
def Active (vm_set : Dict U (Vm A S U)) (p : U → Prop) (pair : A × S) : Prop :=
  ∃ uuid v, p uuid ∧ vm_set.lookup uuid = some v ∧ v.is_notcreated = false ∧
    pair ∈ primary_pairs v.active_nics ++ allowed_pairs v.active_nics

/-- Another VM with the allowed address is deployed. -/
def Held (vm_set : Dict U (Vm A S U)) (uuid : U) (row : IPAddress A S U) : Prop :=
  ∃ other ∈ row.vms, other ≠ uuid ∧ is_notcreated vm_set other = false

/-- The VM has the record, and a NIC with its address. -/
def Kept (vm : Vm A S U) (row : IPAddress A S U) : Prop :=
  (row.vm = some vm.uuid ∧ row.ip ∈ primary_ips vm.nics) ∨ (vm.uuid ∈ row.vms ∧ row.ip ∈ allowed_ips vm.nics)

/-- The definition of the VM is active; a deleted VM may have none that is. -/
def Synced (vm : Vm A S U) : Prop :=
  vm.active_nics = vm.nics ∨ (vm.is_notcreated = true ∧ vm.active_nics = [])

/-- The records of the VM are those of its NICs, and the records in use are those of the deployed VMs. -/
structure Exact (vm_set : Dict U (Vm A S U)) (vm : Vm A S U) (rows : List (IPAddress A S U)) : Prop where
  primary : ∀ pair, (∃ row ∈ rows, row.vm = some vm.uuid ∧ row.pair = pair) ↔ pair ∈ primary_pairs vm.nics
  allowed : ∀ pair, (∃ row ∈ rows, vm.uuid ∈ row.vms ∧ row.pair = pair) ↔ pair ∈ allowed_pairs vm.nics
  usage : ∀ row ∈ rows, row.usage = .vm_real ↔ Active vm_set (fun _ => True) row.pair

/-- No record of the VM has the address of a NIC in another network, a deleted VM has all the records
of its NICs, and the other records are in use as they will be: the ones of the VM that another
deployed VM is allowed to use must be active in another definition, the rest is not changed. -/
structure Reconcilable (vm_set : Dict U (Vm A S U)) (vm : Vm A S U) (rows : List (IPAddress A S U)) : Prop where
  primary : ∀ row ∈ rows, row.vm = some vm.uuid → row.ip ∈ primary_ips vm.nics → row.pair ∈ primary_pairs vm.nics
  allowed : ∀ row ∈ rows, vm.uuid ∈ row.vms → row.ip ∈ allowed_ips vm.nics → row.pair ∈ allowed_pairs vm.nics
  associated : vm.is_notcreated = true → ∀ pair ∈ primary_pairs vm.nics,
    ∃ row ∈ rows, row.vm = some vm.uuid ∧ row.pair = pair
  associated_allowed : vm.is_notcreated = true → ∀ pair ∈ allowed_pairs vm.nics,
    ∃ row ∈ rows, vm.uuid ∈ row.vms ∧ row.pair = pair
  usage : ∀ row ∈ rows, (vm.is_notcreated = true ∨ ¬ Kept vm row) →
    ((row.usage = .vm_real ∧ row.vm ≠ some vm.uuid ∧ (vm.uuid ∈ row.vms → Held vm_set vm.uuid row)) ↔
      Active vm_set (· ≠ vm.uuid) row.pair)

end definitions

section pairs

theorem mem_pairs {nic : Nic A S} {ips : List A} {pair : A × S} :
    pair ∈ nic.pairs ips ↔ nic.network_uuid = some pair.2 ∧ pair.1 ∈ ips := by
  unfold Nic.pairs
  cases nic.network_uuid with
  | none => exact iff_of_false List.not_mem_nil fun h => by cases h.1
  | some network_uuid =>
    rw [List.mem_map, Option.some.injEq]
    constructor
    · rintro ⟨ip, hip, rfl⟩
      exact ⟨rfl, hip⟩
    · rintro ⟨rfl, hip⟩
      exact ⟨pair.1, hip, rfl⟩

theorem fst_mem_primary_ips {nics : List (Nic A S)} {pair : A × S} (hpair : pair ∈ primary_pairs nics) :
    pair.1 ∈ primary_ips nics := by
  obtain ⟨nic, hnic, hmem⟩ := List.mem_flatMap.mp hpair
  exact List.mem_flatMap.mpr ⟨nic, hnic, (mem_pairs.mp hmem).2⟩

theorem fst_mem_allowed_ips {nics : List (Nic A S)} {pair : A × S} (hpair : pair ∈ allowed_pairs nics) :
    pair.1 ∈ allowed_ips nics := by
  obtain ⟨nic, hnic, hmem⟩ := List.mem_flatMap.mp hpair
  exact List.mem_flatMap.mpr ⟨nic, hnic, (mem_pairs.mp hmem).2⟩

theorem mem_current_ips {vm : Vm A S U} (hsynced : Synced vm) (ip : A) :
    ip ∈ vm.current_ips ↔ ip ∈ primary_ips vm.nics := by
  rcases hsynced with hactive | ⟨-, hactive⟩
  · simp [Vm.current_ips, hactive]
  · simp [Vm.current_ips, hactive, primary_ips]

theorem mem_current_allowed_ips {vm : Vm A S U} (hsynced : Synced vm) (ip : A) :
    ip ∈ vm.current_allowed_ips ↔ ip ∈ allowed_ips vm.nics := by
  rcases hsynced with hactive | ⟨-, hactive⟩
  · simp [Vm.current_allowed_ips, hactive]
  · simp [Vm.current_allowed_ips, hactive, allowed_ips]

end pairs

variable [DecidableEq A] [DecidableEq S] [DecidableEq U]

section check

variable {uuid : U} {rows : List (IPAddress A S U)}

/-- The VM has a record of the address that is in use. -/
def Associated (uuid : U) (rows : List (IPAddress A S U)) (primary : Bool) (pair : A × S) : Prop :=
  ∃ row ∈ rows, (if primary then row.vm = some uuid else uuid ∈ row.vms) ∧ row.pair = pair ∧ row.usage = .vm_real

/-- A NIC that passes the check has all its records. -/
theorem check_nic_spec {nic : Nic A S} (hcheck : check_nic uuid rows nic = .ok ()) :
    (∀ pair ∈ nic.pairs nic.primary_ip, Associated uuid rows true pair) ∧
    ∀ pair ∈ nic.pairs nic.allowed_ips, Associated uuid rows false pair := by
  unfold check_nic at hcheck
  split at hcheck
  · cases hcheck
  case h_2 network_uuid hnetwork =>
  split at hcheck
  swap
  · cases hcheck
  case isTrue hprimary =>
  split at hcheck
  swap
  · cases hcheck
  case isTrue hallowed =>
  constructor
  · rintro ⟨ip, subnet⟩ hpair
    obtain ⟨hnet, hip⟩ := mem_pairs.mp hpair
    obtain rfl := Option.some.inj (hnetwork.symm.trans hnet)
    cases hnic : nic.ip with
    | none => simp [Nic.primary_ip, hnic] at hip
    | dhcp => simp [Nic.primary_ip, hnic] at hip
    | address address =>
      obtain rfl : ip = address := by simpa [Nic.primary_ip, hnic] using hip
      rw [hnic, _is_ip_ok, List.any_filter] at hprimary
      obtain ⟨row, hrow, hok⟩ := List.any_eq_true.mp hprimary
      simp only [Bool.and_eq_true, decide_eq_true_eq] at hok
      obtain ⟨hvm, ⟨hsame, hsubnet⟩, husage⟩ := hok
      exact ⟨row, hrow, hvm, Prod.ext hsame hsubnet, husage⟩
  · rintro ⟨ip, subnet⟩ hpair
    obtain ⟨hnet, hip⟩ := mem_pairs.mp hpair
    obtain rfl := Option.some.inj (hnetwork.symm.trans hnet)
    have hok := List.all_eq_true.mp hallowed ip hip
    rw [_is_ip_ok, List.any_filter] at hok
    obtain ⟨row, hrow, hok⟩ := List.any_eq_true.mp hok
    simp only [Bool.and_eq_true, decide_eq_true_eq] at hok
    obtain ⟨hvms, ⟨hsame, hsubnet⟩, husage⟩ := hok
    exact ⟨row, hrow, hvms, Prod.ext hsame hsubnet, husage⟩

theorem check_nics_spec {nics : List (Nic A S)} (hcheck : check_nics uuid rows nics = .ok ()) :
    (∀ pair ∈ primary_pairs nics, Associated uuid rows true pair) ∧
    ∀ pair ∈ allowed_pairs nics, Associated uuid rows false pair := by
  induction nics with
  | nil => simp [primary_pairs, allowed_pairs]
  | cons nic nics ih =>
    obtain ⟨_, hnic, hnics⟩ := Fallible.bind_eq_ok.mp hcheck
    obtain ⟨hprimary, hallowed⟩ := check_nic_spec hnic
    obtain ⟨hprimary', hallowed'⟩ := ih hnics
    simp only [primary_pairs, allowed_pairs, List.flatMap_cons, List.mem_append]
    constructor
    · rintro pair (hpair | hpair)
      · exact hprimary pair hpair
      · exact hprimary' pair hpair
    · rintro pair (hpair | hpair)
      · exact hallowed pair hpair
      · exact hallowed' pair hpair

end check

section rows

variable {vm_set : Dict U (Vm A S U)} {vm : Vm A S U}

omit [DecidableEq A] [DecidableEq S] in
theorem all_is_notcreated (row : IPAddress A S U) (uuid : U) :
    (row.vms.filter (· ≠ uuid)).all (is_notcreated vm_set) = true ↔ ¬ Held vm_set uuid row := by
  simp only [Held, List.all_eq_true, List.mem_filter, decide_eq_true_eq, not_exists, not_and, Bool.not_eq_false]
  constructor
  · intro hall other hmem hne
    exact hall other ⟨hmem, hne⟩
  · rintro hall other ⟨hmem, hne⟩
    exact hall other hmem hne

omit [DecidableEq A] [DecidableEq S] in
theorem reset_usage (row : IPAddress A S U) (uuid : U) :
    (_reset_allowed_ip_usage (is_notcreated vm_set) uuid row).usage = .vm_real ↔
      row.usage = .vm_real ∧ Held vm_set uuid row := by
  unfold _reset_allowed_ip_usage
  split
  · case isTrue h =>
    have hnone := (all_is_notcreated row uuid).mp h
    simp [hnone]
  · case isFalse h =>
    have hheld := not_not.mp (mt (all_is_notcreated row uuid).mpr h)
    simp [hheld]

omit [DecidableEq A] [DecidableEq S] in
theorem reset_vms (is_notcreated : U → Bool) (row : IPAddress A S U) (uuid : U) :
    (_reset_allowed_ip_usage is_notcreated uuid row).vms = row.vms := by
  unfold _reset_allowed_ip_usage
  split <;> rfl

omit [DecidableEq A] [DecidableEq S] in
/-- The VM itself does not count. -/
theorem held_filter (row : IPAddress A S U) (uuid : U) :
    Held vm_set uuid { row with vms := row.vms.filter (· ≠ uuid) } ↔ Held vm_set uuid row := by
  simp only [Held, List.mem_filter, decide_eq_true_eq]
  constructor
  · rintro ⟨other, ⟨hmem, -⟩, hne, hdeployed⟩
    exact ⟨other, hmem, hne, hdeployed⟩
  · rintro ⟨other, hmem, hne, hdeployed⟩
    exact ⟨other, ⟨hmem, hne⟩, hne, hdeployed⟩

omit [DecidableEq S] in
theorem return_ip_spec (row : IPAddress A S U) :
    ((return_ip vm row).vm = some vm.uuid ↔ row.vm = some vm.uuid ∧ row.ip ∈ vm.current_ips) ∧
    ((return_ip vm row).usage = .vm_real ↔
      row.usage = .vm_real ∧ (row.vm = some vm.uuid → row.ip ∈ vm.current_ips)) ∧
    (return_ip vm row).vms = row.vms ∧ (return_ip vm row).ip = row.ip := by
  unfold return_ip
  split
  · case isTrue h => simp [h.1, h.2]
  · case isFalse h =>
    have hkept : row.vm = some vm.uuid → row.ip ∈ vm.current_ips := fun hvm => not_not.mp fun hip => h ⟨hvm, hip⟩
    exact ⟨(and_iff_left_of_imp hkept).symm, (and_iff_left hkept).symm, rfl, rfl⟩

omit [DecidableEq S] in
theorem remove_allowed_ip_spec (row : IPAddress A S U) :
    (vm.uuid ∈ (remove_allowed_ip (is_notcreated vm_set) vm row).vms ↔
      vm.uuid ∈ row.vms ∧ row.ip ∈ vm.current_allowed_ips) ∧
    ((remove_allowed_ip (is_notcreated vm_set) vm row).usage = .vm_real ↔
      row.usage = .vm_real ∧ (vm.uuid ∈ row.vms → row.ip ∈ vm.current_allowed_ips ∨ Held vm_set vm.uuid row)) ∧
    (Held vm_set vm.uuid (remove_allowed_ip (is_notcreated vm_set) vm row) ↔ Held vm_set vm.uuid row) ∧
    (remove_allowed_ip (is_notcreated vm_set) vm row).vm = row.vm := by
  unfold remove_allowed_ip
  split
  · case isTrue h =>
    have hheld : ∀ row' : IPAddress A S U, row'.vms = row.vms.filter (· ≠ vm.uuid) →
        (Held vm_set vm.uuid row' ↔ Held vm_set vm.uuid row) := by
      intro row' hvms
      rw [← held_filter row vm.uuid, Held, Held, hvms]
    have hvms := reset_vms (is_notcreated vm_set) { row with vms := row.vms.filter (· ≠ vm.uuid) } vm.uuid
    have hsame := slave_vm.same_vm_reset_allowed_ip_usage (is_notcreated vm_set) vm.uuid
      { row with vms := row.vms.filter (· ≠ vm.uuid) }
    refine ⟨?_, ?_, hheld _ hvms, hsame.2⟩
    · rw [hvms]
      simp [h.2]
    · rw [reset_usage, held_filter]
      simp [h.1, h.2]
  · case isFalse h =>
    have hkept : vm.uuid ∈ row.vms → row.ip ∈ vm.current_allowed_ips :=
      fun hvms => not_not.mp fun hip => h ⟨hvms, hip⟩
    exact ⟨(and_iff_left_of_imp hkept).symm, (and_iff_left fun hvms => .inl (hkept hvms)).symm, Iff.rfl, rfl⟩

omit [DecidableEq A] [DecidableEq S] in
/-- The usage of the records of a VM that was deleted. -/
theorem unset_usage (row : IPAddress A S U) :
    (unset_allowed_ip (is_notcreated vm_set) vm (unset_ip vm row)).usage = .vm_real ↔
      row.usage = .vm_real ∧ row.vm ≠ some vm.uuid ∧ (vm.uuid ∈ row.vms → Held vm_set vm.uuid row) := by
  have hunset : (unset_ip vm row).usage = .vm_real ↔ row.usage = .vm_real ∧ row.vm ≠ some vm.uuid := by
    unfold unset_ip
    split
    · case isTrue h => simp [h.1]
    · case isFalse h =>
      rw [not_and] at h
      exact (and_iff_left_of_imp fun husage hvm => h hvm husage).symm
  have hvms : (unset_ip vm row).vms = row.vms := by
    unfold unset_ip
    split <;> rfl
  have hheld : Held vm_set vm.uuid (unset_ip vm row) ↔ Held vm_set vm.uuid row := by rw [Held, Held, hvms]
  unfold unset_allowed_ip
  rw [hvms]
  split
  · case isTrue h =>
    rw [reset_usage, hunset, hheld]
    simp [h.1, and_assoc]
  · case isFalse h =>
    rw [not_and] at h
    rw [hunset]
    constructor
    · rintro ⟨husage, hvm⟩
      exact ⟨husage, hvm, fun hmem => absurd (hunset.mpr ⟨husage, hvm⟩) (h hmem)⟩
    · rintro ⟨husage, hvm, -⟩
      exact ⟨husage, hvm⟩

omit [DecidableEq A] [DecidableEq S] in
/-- The records of other VMs are not set. -/
theorem set_eq {row : IPAddress A S U} (hvm : row.vm ≠ some vm.uuid) (hvms : vm.uuid ∉ row.vms) :
    set_allowed_ip vm (set_ip vm row) = row := by
  have hset : set_ip vm row = row := if_neg fun h => hvm h.1
  rw [hset]
  exact if_neg fun h => hvms h.1

omit [DecidableEq A] [DecidableEq S] in
theorem set_vms (row : IPAddress A S U) : (set_allowed_ip vm (set_ip vm row)).vms = row.vms := by
  have hset : (set_ip vm row).vms = row.vms := by
    unfold set_ip
    split <;> rfl
  unfold set_allowed_ip
  split
  · exact hset
  · exact hset

omit [DecidableEq A] [DecidableEq S] in
theorem unset_vms (is_notcreated : U → Bool) (row : IPAddress A S U) :
    (unset_allowed_ip is_notcreated vm (unset_ip vm row)).vms = row.vms := by
  have hunset : (unset_ip vm row).vms = row.vms := by
    unfold unset_ip
    split <;> rfl
  unfold unset_allowed_ip
  split
  · rw [reset_vms, hunset]
  · exact hunset

omit [DecidableEq S] in
theorem same_vm_updated_row (is_notcreated : U → Bool) (vm : Vm A S U) (row : IPAddress A S U) :
    slave_vm.SameVm (return_ip vm row) (updated_row is_notcreated vm row) :=
  (slave_vm.same_vm_remove_allowed_ip is_notcreated vm _).trans (slave_vm.same_vm_usage is_notcreated vm _)

omit [DecidableEq S] in
theorem updated_row_pair (is_notcreated : U → Bool) (vm : Vm A S U) (row : IPAddress A S U) :
    (updated_row is_notcreated vm row).pair = row.pair := by
  have hreturn : (return_ip vm row).pair = row.pair := by
    unfold return_ip
    split <;> rfl
  obtain ⟨⟨hip, hsubnet⟩, -⟩ := same_vm_updated_row is_notcreated vm row
  rw [← hreturn, IPAddress.pair, hip, hsubnet, IPAddress.pair]

omit [DecidableEq S] in
theorem updated_row_vm (hsynced : Synced vm) (row : IPAddress A S U) :
    (updated_row (is_notcreated vm_set) vm row).vm = some vm.uuid ↔
      row.vm = some vm.uuid ∧ row.ip ∈ primary_ips vm.nics := by
  rw [(same_vm_updated_row (is_notcreated vm_set) vm row).2, (return_ip_spec row).1, mem_current_ips hsynced]

omit [DecidableEq S] in
theorem updated_row_vms (hsynced : Synced vm) (row : IPAddress A S U) :
    vm.uuid ∈ (updated_row (is_notcreated vm_set) vm row).vms ↔ vm.uuid ∈ row.vms ∧ row.ip ∈ allowed_ips vm.nics := by
  obtain ⟨-, -, hvms, hip⟩ := @return_ip_spec _ _ _ _ _ vm row
  have hremoved := (@remove_allowed_ip_spec _ _ _ _ _ vm_set vm (return_ip vm row)).1
  rw [hvms, hip, mem_current_allowed_ips hsynced] at hremoved
  rw [← hremoved, updated_row]
  split
  · rw [unset_vms]
  · rw [set_vms]

omit [DecidableEq S] in
/-- The usage of a record that the VM gives up, or that it never had. -/
theorem updated_row_usage (hsynced : Synced vm) (row : IPAddress A S U)
    (hreleased : vm.is_notcreated = true ∨ ¬ Kept vm row) :
    (updated_row (is_notcreated vm_set) vm row).usage = .vm_real ↔
      row.usage = .vm_real ∧ row.vm ≠ some vm.uuid ∧ (vm.uuid ∈ row.vms → Held vm_set vm.uuid row) := by
  obtain ⟨hvm, husage, hvms, hip⟩ := @return_ip_spec _ _ _ _ _ vm row
  obtain ⟨hvms', husage', hheld', hvm'⟩ := @remove_allowed_ip_spec _ _ _ _ _ vm_set vm (return_ip vm row)
  have hheld : Held vm_set vm.uuid (return_ip vm row) ↔ Held vm_set vm.uuid row := by rw [Held, Held, hvms]
  rw [mem_current_ips hsynced] at hvm husage
  rw [hvms, hip, mem_current_allowed_ips hsynced] at hvms' husage'
  rw [hheld] at husage' hheld'
  rw [updated_row]
  by_cases hnotcreated : vm.is_notcreated = true
  · rw [if_pos hnotcreated, unset_usage, hvms', husage', hheld', hvm', Ne, hvm, husage]
    constructor
    · rintro ⟨⟨⟨hreal, hip⟩, hallowed⟩, hother, hheld⟩
      refine ⟨hreal, fun hvm => hother ⟨hvm, hip hvm⟩, fun hmem => ?_⟩
      exact (hallowed hmem).elim (fun hip => hheld ⟨hmem, hip⟩) id
    · rintro ⟨hreal, hother, hheld⟩
      refine ⟨⟨⟨hreal, fun hvm => absurd hvm hother⟩, fun hmem => .inr (hheld hmem)⟩, ?_, fun hmem => hheld hmem.1⟩
      exact fun hvm => hother hvm.1
  · rw [if_neg hnotcreated]
    have hnot : ¬ Kept vm row := hreleased.resolve_left hnotcreated
    rw [Kept, not_or] at hnot
    rw [set_eq (fun h => hnot.1 (hvm.mp (hvm' ▸ h))) (fun h => hnot.2 (hvms'.mp h)), husage', husage]
    constructor
    · rintro ⟨⟨hreal, hip⟩, hallowed⟩
      refine ⟨hreal, fun hvm => hnot.1 ⟨hvm, hip hvm⟩, fun hmem => ?_⟩
      exact (hallowed hmem).resolve_left fun hip => hnot.2 ⟨hmem, hip⟩
    · rintro ⟨hreal, hother, hheld⟩
      exact ⟨⟨hreal, fun hvm => absurd hvm hother⟩, fun hmem => .inr (hheld hmem)⟩

end rows

section usage

variable {vm_set : Dict U (Vm A S U)} {vm : Vm A S U} {rows rows' : List (IPAddress A S U)}

omit [DecidableEq A] [DecidableEq S] in
/-- Whatever is in use for the VM is in use for another one, or listed in the VM. -/
theorem active_iff (hvm : vm_set.lookup vm.uuid = some vm) (pair : A × S) :
    Active vm_set (fun _ => True) pair ↔ Active vm_set (· ≠ vm.uuid) pair ∨
      (vm.is_notcreated = false ∧ pair ∈ primary_pairs vm.active_nics ++ allowed_pairs vm.active_nics) := by
  constructor
  · rintro ⟨uuid, v, -, hlookup, hdeployed, hpair⟩
    by_cases huuid : uuid = vm.uuid
    · rw [huuid, hvm] at hlookup
      cases hlookup
      exact .inr ⟨hdeployed, hpair⟩
    · exact .inl ⟨uuid, v, huuid, hlookup, hdeployed, hpair⟩
  · rintro (⟨uuid, v, -, hlookup, hdeployed, hpair⟩ | ⟨hdeployed, hpair⟩)
    · exact ⟨uuid, v, trivial, hlookup, hdeployed, hpair⟩
    · exact ⟨vm.uuid, vm, trivial, hvm, hdeployed, hpair⟩

/-- The rows with the pairs of the NICs of a deployed VM are the ones that the check has found. -/
theorem checked_row (hunique : (rows.map (·.pair)).Nodup) (hsynced : Synced vm)
    (hcheck : check_nics vm.uuid (rows.map (updated_row (is_notcreated vm_set) vm)) vm.nics = .ok ())
    {row : IPAddress A S U} (hrow : row ∈ rows)
    (hpair : row.pair ∈ primary_pairs vm.nics ∨ row.pair ∈ allowed_pairs vm.nics) :
    Kept vm row ∧ (updated_row (is_notcreated vm_set) vm row).usage = .vm_real := by
  obtain ⟨hprimary, hallowed⟩ := check_nics_spec hcheck
  have hsame : ∀ row' ∈ rows.map (updated_row (is_notcreated vm_set) vm), row'.pair = row.pair →
      row' = updated_row (is_notcreated vm_set) vm row := by
    intro row' hrow' hpair'
    obtain ⟨found, hfound, rfl⟩ := List.mem_map.mp hrow'
    rw [updated_row_pair] at hpair'
    rw [List.inj_on_of_nodup_map hunique hfound hrow hpair']
  rcases hpair with hpair | hpair
  · obtain ⟨row', hrow', hvm, hpair', husage⟩ := hprimary row.pair hpair
    obtain rfl := hsame row' hrow' hpair'
    exact ⟨.inl ((updated_row_vm hsynced row).mp hvm), husage⟩
  · obtain ⟨row', hrow', hvms, hpair', husage⟩ := hallowed row.pair hpair
    obtain rfl := hsame row' hrow' hpair'
    exact ⟨.inr ((updated_row_vms hsynced row).mp hvms), husage⟩

/-- After a call that ends normally the records are exact if and only if they could be reconciled. -/
theorem exact_iff_reconcilable (hunique : (rows.map (·.pair)).Nodup) (hvm : vm_set.lookup vm.uuid = some vm)
    (hsynced : Synced vm) (hcall : vm_update_ipaddress_usage (is_notcreated vm_set) vm rows = (rows', .ok ())) :
    Exact vm_set vm rows' ↔ Reconcilable vm_set vm rows := by
  obtain rfl : rows' = rows.map (updated_row (is_notcreated vm_set) vm) := by
    rw [← vm_update_ipaddress_usage_rows, hcall]
  have hactive : vm.is_notcreated = false → vm.active_nics = vm.nics := by
    intro hdeployed
    rcases hsynced with hactive | ⟨hnotcreated, -⟩
    · exact hactive
    · rw [hdeployed] at hnotcreated
      cases hnotcreated
  have hcheck : vm.is_notcreated = false →
      check_nics vm.uuid (rows.map (updated_row (is_notcreated vm_set) vm)) vm.nics = .ok () := by
    intro hdeployed
    rw [← hactive hdeployed, ← vm_update_ipaddress_usage_rows]
    have hsecond := congrArg Prod.snd hcall
    unfold vm_update_ipaddress_usage at hsecond ⊢
    rw [if_neg (by rw [hdeployed]; decide)] at hsecond ⊢
    exact hsecond
  -- a record that the VM gives up is not used for the VM
  have hreleased : ∀ row ∈ rows, vm.is_notcreated = true ∨ ¬ Kept vm row →
      (Active vm_set (fun _ => True) row.pair ↔ Active vm_set (· ≠ vm.uuid) row.pair) := by
    intro row hrow hreleased
    rw [active_iff hvm]
    refine or_iff_left ?_
    rintro ⟨hdeployed, hpair⟩
    rw [hactive hdeployed, List.mem_append] at hpair
    rcases hreleased with hnotcreated | hnot
    · rw [hdeployed] at hnotcreated
      cases hnotcreated
    · exact hnot (checked_row hunique hsynced (hcheck hdeployed) hrow hpair).1
  constructor
  · intro hexact
    refine ⟨?_, ?_, ?_, ?_, ?_⟩
    · intro row hrow hvm' hip
      rw [← updated_row_pair (is_notcreated vm_set) vm row]
      exact (hexact.primary _).mp ⟨_, List.mem_map_of_mem hrow, (updated_row_vm hsynced row).mpr ⟨hvm', hip⟩, rfl⟩
    · intro row hrow hvms hip
      rw [← updated_row_pair (is_notcreated vm_set) vm row]
      exact (hexact.allowed _).mp ⟨_, List.mem_map_of_mem hrow, (updated_row_vms hsynced row).mpr ⟨hvms, hip⟩, rfl⟩
    · intro _ pair hpair
      obtain ⟨row', hrow', hvm', rfl⟩ := (hexact.primary pair).mpr hpair
      obtain ⟨row, hrow, rfl⟩ := List.mem_map.mp hrow'
      exact ⟨row, hrow, ((updated_row_vm hsynced row).mp hvm').1, (updated_row_pair _ _ _).symm⟩
    · intro _ pair hpair
      obtain ⟨row', hrow', hvms, rfl⟩ := (hexact.allowed pair).mpr hpair
      obtain ⟨row, hrow, rfl⟩ := List.mem_map.mp hrow'
      exact ⟨row, hrow, ((updated_row_vms hsynced row).mp hvms).1, (updated_row_pair _ _ _).symm⟩
    · intro row hrow hgiven
      have husage := hexact.usage _ (List.mem_map_of_mem hrow)
      rw [updated_row_pair, updated_row_usage hsynced row hgiven, hreleased row hrow hgiven] at husage
      exact husage
  · intro hreconcilable
    refine ⟨?_, ?_, ?_⟩
    · intro pair
      constructor
      · rintro ⟨row', hrow', hvm', rfl⟩
        obtain ⟨row, hrow, rfl⟩ := List.mem_map.mp hrow'
        obtain ⟨hvm', hip⟩ := (updated_row_vm hsynced row).mp hvm'
        rw [updated_row_pair]
        exact hreconcilable.primary row hrow hvm' hip
      · intro hpair
        cases hcreated : vm.is_notcreated with
        | true =>
          obtain ⟨row, hrow, hvm', rfl⟩ := hreconcilable.associated hcreated pair hpair
          refine ⟨_, List.mem_map_of_mem hrow, (updated_row_vm hsynced row).mpr ⟨hvm', ?_⟩, updated_row_pair _ _ _⟩
          exact fst_mem_primary_ips hpair
        | false =>
          obtain ⟨row', hrow', hvm', hpair', -⟩ := (check_nics_spec (hcheck hcreated)).1 pair hpair
          exact ⟨row', hrow', hvm', hpair'⟩
    · intro pair
      constructor
      · rintro ⟨row', hrow', hvms, rfl⟩
        obtain ⟨row, hrow, rfl⟩ := List.mem_map.mp hrow'
        obtain ⟨hvms, hip⟩ := (updated_row_vms hsynced row).mp hvms
        rw [updated_row_pair]
        exact hreconcilable.allowed row hrow hvms hip
      · intro hpair
        cases hcreated : vm.is_notcreated with
        | true =>
          obtain ⟨row, hrow, hvms, rfl⟩ := hreconcilable.associated_allowed hcreated pair hpair
          refine ⟨_, List.mem_map_of_mem hrow, (updated_row_vms hsynced row).mpr ⟨hvms, ?_⟩, updated_row_pair _ _ _⟩
          exact fst_mem_allowed_ips hpair
        | false =>
          obtain ⟨row', hrow', hvms, hpair', -⟩ := (check_nics_spec (hcheck hcreated)).2 pair hpair
          exact ⟨row', hrow', hvms, hpair'⟩
    · intro row' hrow'
      obtain ⟨row, hrow, rfl⟩ := List.mem_map.mp hrow'
      rw [updated_row_pair]
      by_cases hgiven : vm.is_notcreated = true ∨ ¬ Kept vm row
      · rw [updated_row_usage hsynced row hgiven, hreleased row hrow hgiven]
        exact hreconcilable.usage row hrow hgiven
      · rw [not_or, Bool.not_eq_true, not_not] at hgiven
        obtain ⟨hdeployed, hkept⟩ := hgiven
        have hpair : row.pair ∈ primary_pairs vm.nics ∨ row.pair ∈ allowed_pairs vm.nics := by
          rcases hkept with ⟨hvm', hip⟩ | ⟨hvms, hip⟩
          · exact .inl (hreconcilable.primary row hrow hvm' hip)
          · exact .inr (hreconcilable.allowed row hrow hvms hip)
        refine iff_of_true (checked_row hunique hsynced (hcheck hdeployed) hrow hpair).2 ?_
        exact (active_iff hvm row.pair).mpr (.inr ⟨hdeployed, hactive hdeployed ▸ List.mem_append.mpr hpair⟩)

end usage

section examples

/-- A deployed VM with one NIC in the network 2. -/
def one_nic : Vm ℕ ℕ ℕ where
  uuid := 1
  is_notcreated := false
  nics := [⟨.address 10, some 2, []⟩]
  active_nics := [⟨.address 10, some 2, []⟩]

def one_vm : Dict ℕ (Vm ℕ ℕ ℕ) := (∅ : Dict ℕ (Vm ℕ ℕ ℕ)).insert 1 one_nic

/-- The record of its address, and that of the address it had in another network. -/
def moved_row : IPAddress ℕ ℕ ℕ := ⟨10, 2, some 1, [], .vm⟩

def old_row : IPAddress ℕ ℕ ℕ := ⟨10, 1, some 1, [], .vm_real⟩

theorem exact_iff_reconcilable_moved :
    Exact one_vm one_nic [{ moved_row with usage := .vm_real }] ↔ Reconcilable one_vm one_nic [moved_row] :=
  @exact_iff_reconcilable ℕ ℕ ℕ _ _ _ one_vm one_nic [moved_row] _ (by decide) rfl (.inl rfl) rfl

/-- An address of the same text in another network stays tied to the VM. -/
theorem not_exact_old_row :
    vm_update_ipaddress_usage (is_notcreated one_vm) one_nic [old_row, moved_row] =
        ([old_row, { moved_row with usage := .vm_real }], .ok ()) ∧
      one_nic.active_nics = one_nic.nics ∧ ¬ Exact one_vm one_nic [old_row, { moved_row with usage := .vm_real }] := by
  refine ⟨rfl, rfl, fun hexact => ?_⟩
  have hlisted : old_row.pair ∈ primary_pairs one_nic.nics :=
    (hexact.primary old_row.pair).mp ⟨old_row, List.mem_cons_self, rfl, rfl⟩
  exact absurd hlisted (by decide)

end examples

end vms.ipaddress
