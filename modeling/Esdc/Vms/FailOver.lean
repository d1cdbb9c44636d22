import Esdc.Vms.SlaveVm

namespace vms.slave_vm

open vms.ipaddress (IPAddress Nic return_ip remove_allowed_ip vm_update_ipaddress_usage)

variable {A S U : Type} [DecidableEq A] [DecidableEq S] [DecidableEq U]

/-- What `vm_update_ipaddress_usage` reads of a VM. -/
def VmRow.ip_vm (row : VmRow A S U) (uuid : U) : vms.ipaddress.Vm A S U :=
  ⟨uuid, row.is_notcreated, row.nics, row.active_nics⟩

def Db.is_notcreated (db : Db A S U) (uuid : U) : Bool := (db.vm.lookup uuid).any VmRow.is_notcreated

/-- The addresses after the update of the usage for one VM, also if it ends with an error. -/
def Db.update_usage (db : Db A S U) (uuid : U) : List (IPAddress A S U) :=
  match db.vm.lookup uuid with
  | none => db.ipaddresses
  | some row => (vm_update_ipaddress_usage db.is_notcreated (row.ip_vm uuid) db.ipaddresses).1

/-- The two rows are of one address. -/
def SameAddress (row row' : IPAddress A S U) : Prop := row'.ip = row.ip ∧ row'.subnet = row.subnet

/-- Every row of the old master is one of the new master, none is left, and the
addresses that the new master has on its NICs stay with it when their usage is
updated. -/
structure Moved (db db' : Db A S U) (old_vm new_vm : U) (nics : vms.ipaddress.Vm A S U) : Prop where
  related : ∀ row ∈ db.related, row.vm = old_vm → { row with vm := new_vm } ∈ db'.related
  no_related : ∀ row ∈ db'.related, row.vm ≠ old_vm
  ip : ∀ row ∈ db.ipaddresses, row.vm = some old_vm →
    ∃ row' ∈ db'.ipaddresses, SameAddress row row' ∧ row'.vm = some new_vm
  no_ip : ∀ row ∈ db'.ipaddresses, row.vm ≠ some old_vm
  allowed_ip : ∀ row ∈ db.ipaddresses, old_vm ∈ row.vms →
    ∃ row' ∈ db'.ipaddresses, SameAddress row row' ∧ new_vm ∈ row'.vms
  no_allowed_ip : ∀ row ∈ db'.ipaddresses, old_vm ∉ row.vms
  kept_ip : ∀ row ∈ db.ipaddresses, row.vm = some old_vm → row.ip ∈ nics.current_ips →
    ∃ row' ∈ db'.update_usage new_vm, SameAddress row row' ∧ row'.vm = some new_vm
  kept_allowed_ip : ∀ row ∈ db.ipaddresses, old_vm ∈ row.vms → row.ip ∈ nics.current_allowed_ips →
    ∃ row' ∈ db'.update_usage new_vm, SameAddress row row' ∧ new_vm ∈ row'.vms

/-- The step of `vm_update_ipaddress_usage` for one row. -/
def updated_row (is_notcreated : U → Bool) (vm : vms.ipaddress.Vm A S U) (row : IPAddress A S U) :
    IPAddress A S U :=
  let row := remove_allowed_ip is_notcreated vm (return_ip vm row)
  if vm.is_notcreated then vms.ipaddress.unset_allowed_ip is_notcreated vm (vms.ipaddress.unset_ip vm row)
  else vms.ipaddress.set_allowed_ip vm (vms.ipaddress.set_ip vm row)

theorem vm_update_ipaddress_usage_rows (is_notcreated : U → Bool) (vm : vms.ipaddress.Vm A S U)
    (rows : List (IPAddress A S U)) :
    (vm_update_ipaddress_usage is_notcreated vm rows).1 = rows.map (updated_row is_notcreated vm) := by
  unfold vm_update_ipaddress_usage
  by_cases hnotcreated : vm.is_notcreated
  · simp [updated_row, hnotcreated, Function.comp_def]
  · simp [updated_row, hnotcreated, Function.comp_def]

/-- The steps after `return_ip` leave the address and its VM alone. -/
def SameVm (row row' : IPAddress A S U) : Prop := SameAddress row row' ∧ row'.vm = row.vm

omit [DecidableEq A] [DecidableEq S] [DecidableEq U] in
theorem SameVm.trans {row row' row'' : IPAddress A S U} (h : SameVm row row') (h' : SameVm row' row'') :
    SameVm row row'' :=
  ⟨⟨h'.1.1.trans h.1.1, h'.1.2.trans h.1.2⟩, h'.2.trans h.2⟩

omit [DecidableEq A] [DecidableEq S] in
theorem same_vm_reset_allowed_ip_usage (is_notcreated : U → Bool) (uuid : U) (row : IPAddress A S U) :
    SameVm row (vms.ipaddress._reset_allowed_ip_usage is_notcreated uuid row) := by
  unfold vms.ipaddress._reset_allowed_ip_usage
  split <;> exact ⟨⟨rfl, rfl⟩, rfl⟩

omit [DecidableEq S] in
theorem same_vm_remove_allowed_ip (is_notcreated : U → Bool) (vm : vms.ipaddress.Vm A S U)
    (row : IPAddress A S U) : SameVm row (remove_allowed_ip is_notcreated vm row) := by
  unfold remove_allowed_ip
  split
  · have hremoved : SameVm row { row with vms := row.vms.filter (· ≠ vm.uuid) } := ⟨⟨rfl, rfl⟩, rfl⟩
    exact hremoved.trans (same_vm_reset_allowed_ip_usage _ _ _)
  · exact ⟨⟨rfl, rfl⟩, rfl⟩

omit [DecidableEq A] [DecidableEq S] in
theorem same_vm_usage (is_notcreated : U → Bool) (vm : vms.ipaddress.Vm A S U) (row : IPAddress A S U) :
    SameVm row (if vm.is_notcreated then
      vms.ipaddress.unset_allowed_ip is_notcreated vm (vms.ipaddress.unset_ip vm row)
    else vms.ipaddress.set_allowed_ip vm (vms.ipaddress.set_ip vm row)) := by
  split
  · have hunset : SameVm row (vms.ipaddress.unset_ip vm row) := by
      unfold vms.ipaddress.unset_ip
      split <;> exact ⟨⟨rfl, rfl⟩, rfl⟩
    refine hunset.trans ?_
    unfold vms.ipaddress.unset_allowed_ip
    split
    · exact same_vm_reset_allowed_ip_usage _ _ _
    · exact ⟨⟨rfl, rfl⟩, rfl⟩
  · have hset : SameVm row (vms.ipaddress.set_ip vm row) := by
      unfold vms.ipaddress.set_ip
      split <;> exact ⟨⟨rfl, rfl⟩, rfl⟩
    refine hset.trans ?_
    unfold vms.ipaddress.set_allowed_ip
    split <;> exact ⟨⟨rfl, rfl⟩, rfl⟩

omit [DecidableEq S] in
/-- An address that is set on a NIC stays with its VM. -/
theorem updated_row_of_current_ip (is_notcreated : U → Bool) (vm : vms.ipaddress.Vm A S U) (row : IPAddress A S U)
    (hcurrent : row.ip ∈ vm.current_ips) : SameVm row (updated_row is_notcreated vm row) := by
  have hreturn : return_ip vm row = row := by
    rw [return_ip, if_neg]
    rintro ⟨-, hreturned⟩
    exact hreturned hcurrent
  rw [updated_row, hreturn]
  exact (same_vm_remove_allowed_ip is_notcreated vm row).trans (same_vm_usage is_notcreated vm _)

omit [DecidableEq A] [DecidableEq S] in
theorem fail_over_eq {db db' : Db A S U} {slave : SlaveVm U} {new_vm old_vm : VmRow A S U}
    (hfail_over : db.fail_over slave new_vm old_vm = some db') :
    db'.vm.lookup slave.vm = some (new_vm.promote old_vm slave.master_vm) ∧
      db'.ipaddresses = (db.ipaddresses.map fun row => { row with vm := row.vm.map (move slave.master_vm slave.vm) }) ∧
      db'.related = db.related.map fun row => { row with vm := move slave.master_vm slave.vm row.vm } := by
  obtain ⟨rest, -, rfl⟩ := Option.map_eq_some_iff.mp hfail_over
  exact ⟨AList.lookup_insert _, rfl, rfl⟩

theorem move_ne {old_vm new_vm : U} (hne : new_vm ≠ old_vm) (vm : U) : move old_vm new_vm vm ≠ old_vm := by
  unfold move
  split
  · exact hne
  · assumption

/-- `fail_over` moves everything if and only if the old master has no allowed
addresses: `get_all_related_objects` does not return the relation of these. -/
theorem fail_over_moves_iff {db db' : Db A S U} {slave : SlaveVm U} {new_vm old_vm : VmRow A S U}
    (hne : slave.vm ≠ slave.master_vm) (hfail_over : db.fail_over slave new_vm old_vm = some db') :
    Moved db db' slave.master_vm slave.vm (new_vm.ip_vm slave.vm) ↔
      ∀ row ∈ db.ipaddresses, slave.master_vm ∉ row.vms := by
  obtain ⟨hvm, hips, hrelated⟩ := fail_over_eq hfail_over
  have hmoved : ∀ row ∈ db.ipaddresses,
      { row with vm := row.vm.map (move slave.master_vm slave.vm) } ∈ db'.ipaddresses := by
    intro row hrow
    rw [hips]
    exact List.mem_map_of_mem hrow
  constructor
  · intro h row hrow hvms
    exact h.no_allowed_ip _ (hmoved row hrow) hvms
  · intro hnone
    have hself : ∀ row : IPAddress A S U, row.vm = some slave.master_vm →
        row.vm.map (move slave.master_vm slave.vm) = some slave.vm := by
      intro row hrow
      rw [hrow, Option.map_some, move, if_pos rfl]
    refine ⟨?_, ?_, ?_, ?_, ?_, ?_, ?_, ?_⟩
    · intro row hrow hvm
      rw [hrelated]
      refine List.mem_map.mpr ⟨row, hrow, ?_⟩
      rw [move, if_pos hvm]
    · intro row hrow
      rw [hrelated] at hrow
      obtain ⟨row, -, rfl⟩ := List.mem_map.mp hrow
      exact move_ne hne row.vm
    · intro row hrow hvm
      exact ⟨_, hmoved row hrow, ⟨rfl, rfl⟩, hself row hvm⟩
    · intro row hrow hvm
      rw [hips] at hrow
      obtain ⟨row, -, rfl⟩ := List.mem_map.mp hrow
      obtain ⟨uuid, -, huuid⟩ := Option.map_eq_some_iff.mp hvm
      exact move_ne hne uuid huuid
    · intro row hrow hvms
      exact absurd hvms (hnone row hrow)
    · intro row hrow
      rw [hips] at hrow
      obtain ⟨old_row, hold_row, rfl⟩ := List.mem_map.mp hrow
      exact hnone old_row hold_row
    · intro row hrow hvm' hlisted
      have husage : db'.update_usage slave.vm = db'.ipaddresses.map (updated_row db'.is_notcreated
          ((new_vm.promote old_vm slave.master_vm).ip_vm slave.vm)) := by
        rw [Db.update_usage, hvm]
        exact vm_update_ipaddress_usage_rows _ _ _
      have hkept := updated_row_of_current_ip db'.is_notcreated
        ((new_vm.promote old_vm slave.master_vm).ip_vm slave.vm)
        { row with vm := row.vm.map (move slave.master_vm slave.vm) } hlisted
      refine ⟨_, ?_, hkept.1, hkept.2.trans (hself row hvm')⟩
      rw [husage]
      exact List.mem_map_of_mem (hmoved row hrow)
    · intro row hrow hvms
      exact absurd hvms (hnone row hrow)

/-- VM 1 with its replica 2, whose NIC has one address and the allowed address 11. -/
def pair_row (node : Nat) (slave_vms : List Nat) : VmRow Nat Unit Nat :=
  { hostname := "vm", uptime := 0, uptime_changed := 0, created := 0, node, node_history := [], slave_vms
    is_notcreated := false, nics := [⟨.address 10, some (), [11]⟩], active_nics := [⟨.address 10, some (), [11]⟩] }

def pair_slave : SlaveVm Nat := ⟨2, 1, "rep", some 1, false⟩

def pair_db (allowed_ip_vms : List Nat) : Db Nat Unit Nat where
  vm := ((∅ : Dict Nat (VmRow Nat Unit Nat)).insert 1 (pair_row 7 [2])).insert 2 (pair_row 8 [])
  slaves := [pair_slave]
  ipaddresses := [⟨10, (), some 1, [], .vm_real⟩, ⟨11, (), none, allowed_ip_vms, .vm_real⟩]
  related := [⟨.snapshot, 1, 1⟩, ⟨.backup, 1, 1⟩]

theorem fail_over_moves_pair :
    ∃ db', (pair_db []).fail_over pair_slave (pair_row 8 []) (pair_row 7 [2]) = some db' ∧
      Moved (pair_db []) db' 1 2 ((pair_row 8 []).ip_vm 2) := by
  obtain ⟨db', hdb'⟩ : ∃ db', (pair_db []).fail_over pair_slave (pair_row 8 []) (pair_row 7 [2]) = some db' :=
    ⟨_, rfl⟩
  have hne : pair_slave.vm ≠ pair_slave.master_vm := by decide
  exact ⟨db', hdb', (fail_over_moves_iff hne hdb').mpr (by decide)⟩

/-- The allowed address stays with the demoted VM. -/
theorem not_moved_of_allowed_ip :
    ¬ ∀ (db db' : Db Nat Unit Nat) (slave : SlaveVm Nat) (new_vm old_vm : VmRow Nat Unit Nat),
      slave.vm ≠ slave.master_vm → db.fail_over slave new_vm old_vm = some db' →
        Moved db db' slave.master_vm slave.vm (new_vm.ip_vm slave.vm) := by
  intro hclaim
  have hmoved := hclaim (pair_db [1]) _ pair_slave (pair_row 8 []) (pair_row 7 [2]) (by decide) rfl
  exact hmoved.no_allowed_ip ⟨11, (), none, [1], .vm_real⟩ (by decide) (by decide)

end vms.slave_vm
