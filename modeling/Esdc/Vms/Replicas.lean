import Esdc.Lib.Transition
import Esdc.Vms.SlaveVm

namespace vms.slave_vm

open vms.ipaddress (Nic)

variable {A S U : Type} [DecidableEq U]

/-- The rows refer to existing VMs, and no two of them to the same slave VM. -/
structure WellFormed (db : Db A S U) : Prop where
  known : ∀ slave ∈ db.slaves, slave.vm ∈ db.vm ∧ slave.master_vm ∈ db.vm
  unique : (db.slaves.map SlaveVm.vm).Nodup

/-- The uuids on a master are those of its replicas, no replica's master is a slave VM,
and a slave VM has no replicas of its own. -/
structure Consistent (db : Db A S U) : Prop where
  listed : ∀ uuid, ∀ row ∈ db.get_vm uuid, ∀ other,
    other ∈ row.slave_vms ↔ ∃ slave ∈ db.slaves, slave.master_vm = uuid ∧ slave.vm = other
  flat : ∀ slave ∈ db.slaves, ∀ other ∈ db.slaves, slave.master_vm ≠ other.vm
  empty : ∀ slave ∈ db.slaves, ∀ row ∈ db.vm.lookup slave.vm, row.slave_vms = []

/-- A replica is created for a VM without one, and only a VM's only replica takes over. -/
def Single (db : Db A S U) : Operation A S U → Prop
  | .create master _ _ _ _ => ∀ slave ∈ db.slaves, slave.master_vm ≠ master
  | .failover master name => ∀ slave ∈ db.slaves, slave.master_vm = master → db.get_slave master name = some slave
  | _ => True

section lookups

variable {db : Db A S U} {uuid master : U} {name : String} {row : VmRow A S U} {slave other : SlaveVm U}

theorem get_vm_eq_some : db.get_vm uuid = some row ↔
    (∀ slave ∈ db.slaves, slave.vm ≠ uuid) ∧ db.vm.lookup uuid = some row := by
  unfold Db.get_vm
  by_cases hslave : db.slaves.any (·.vm = uuid) = true
  · rw [if_pos hslave]
    obtain ⟨slave, hmem, hvm⟩ := List.any_eq_true.mp hslave
    constructor
    · intro h
      cases h
    · intro h
      exact absurd (of_decide_eq_true hvm) (h.1 slave hmem)
  · rw [if_neg hslave]
    have hnone : ∀ slave ∈ db.slaves, slave.vm ≠ uuid := by
      intro slave hmem hvm
      exact hslave (List.any_eq_true.mpr ⟨slave, hmem, decide_eq_true hvm⟩)
    exact ⟨fun hrow => ⟨hnone, hrow⟩, fun h => h.2⟩

theorem get_slave_eq_some (hslave : db.get_slave master name = some slave) :
    slave ∈ db.slaves ∧ slave.master_vm = master ∧ slave.name = name := by
  have hfound := List.find?_some hslave
  rw [Bool.and_eq_true] at hfound
  exact ⟨List.mem_of_find?_eq_some hslave, of_decide_eq_true hfound.1, of_decide_eq_true hfound.2⟩

theorem mem_of_lookup (hrow : db.vm.lookup uuid = some row) : uuid ∈ db.vm := by
  rw [← AList.lookup_isSome, hrow]
  rfl

theorem WellFormed.vm_inj (hwf : WellFormed db) (hslave : slave ∈ db.slaves) (hother : other ∈ db.slaves)
    (hvm : slave.vm = other.vm) : slave = other :=
  List.inj_on_of_nodup_map hwf.unique hslave hother hvm

theorem mem_add_slave_vm {other : U} :
    other ∈ (row.add_slave_vm uuid).slave_vms ↔ other ∈ row.slave_vms ∨ other = uuid := by
  by_cases h : other = uuid <;> simp [VmRow.add_slave_vm, h]

theorem delete_slave_vm_eq_some {row' : VmRow A S U} (hrow : row.delete_slave_vm uuid = some row') :
    row'.slave_vms = row.slave_vms.filter (· ≠ uuid) := by
  unfold VmRow.delete_slave_vm at hrow
  split at hrow
  · cases hrow
    rfl
  · cases hrow

end lookups

section create

variable {db db' : Db A S U} {limit : Option Nat} {master uuid node : U} {name : String}
  {json : List (Nic A S)}

theorem create_eq_some (hcreate : db.create limit master name uuid node json = some db') :
    ∃ master_vm rep_id, db.get_vm master = some master_vm ∧ db.validate limit master = some rep_id ∧
      db.get_slave master name = none ∧ name ≠ "" ∧ uuid ∉ db.vm ∧
      db' = { db with
        vm := (db.vm.insert uuid (master_vm.copy rep_id node json)).insert master (master_vm.add_slave_vm uuid)
        slaves := db.slaves ++ [⟨uuid, master, name, some rep_id, false⟩] } := by
  unfold Db.create at hcreate
  split at hcreate
  next master_vm rep_id hmaster hvalid =>
    dsimp only at hcreate
    split at hcreate
    next hok =>
      cases hcreate
      exact ⟨master_vm, rep_id, hmaster, hvalid, hok.1, hok.2.1, hok.2.2.1, rfl⟩
    next => cases hcreate
  next => cases hcreate

theorem create_wellFormed (hwf : WellFormed db) (hcreate : db.create limit master name uuid node json = some db') :
    WellFormed db' := by
  obtain ⟨master_vm, rep_id, hmaster, _, _, _, hnew, rfl⟩ := create_eq_some hcreate
  have hmem := mem_of_lookup (get_vm_eq_some.mp hmaster).2
  constructor
  · intro slave hslave
    rw [List.mem_append, List.mem_singleton] at hslave
    rcases hslave with hslave | rfl
    · obtain ⟨hvm, hmaster_vm⟩ := hwf.known slave hslave
      simp [hvm, hmaster_vm]
    · simp
  · rw [List.map_append, List.nodup_append]
    refine ⟨hwf.unique, List.nodup_singleton _, ?_⟩
    intro vm hvm vm' hvm' heq
    obtain ⟨slave, hslave, rfl⟩ := List.mem_map.mp hvm
    rw [List.map_singleton, List.mem_singleton] at hvm'
    have hknown := (hwf.known slave hslave).1
    rw [heq, hvm'] at hknown
    exact hnew hknown

theorem create_flat (hwf : WellFormed db)
    (hflat : ∀ slave ∈ db.slaves, ∀ other ∈ db.slaves, slave.master_vm ≠ other.vm)
    (hcreate : db.create limit master name uuid node json = some db') :
    ∀ slave ∈ db'.slaves, ∀ other ∈ db'.slaves, slave.master_vm ≠ other.vm := by
  obtain ⟨master_vm, rep_id, hmaster, _, _, _, hnew, rfl⟩ := create_eq_some hcreate
  obtain ⟨hmaster_vm, hlookup⟩ := get_vm_eq_some.mp hmaster
  intro slave hslave other hother
  rw [List.mem_append, List.mem_singleton] at hslave hother
  rcases hslave with hslave | rfl <;> rcases hother with hother | rfl
  · exact hflat slave hslave other hother
  · intro heq
    have hknown := (hwf.known slave hslave).2
    rw [heq] at hknown
    exact hnew hknown
  · intro heq
    exact hmaster_vm other hother heq.symm
  · intro (heq : master = uuid)
    have hknown := mem_of_lookup hlookup
    rw [heq] at hknown
    exact hnew hknown

theorem create_consistent (hwf : WellFormed db) (h : Consistent db)
    (hsingle : ∀ slave ∈ db.slaves, slave.master_vm ≠ master)
    (hcreate : db.create limit master name uuid node json = some db') : Consistent db' := by
  obtain ⟨master_vm, rep_id, hmaster, _, _, _, hnew, rfl⟩ := create_eq_some hcreate
  obtain ⟨hslave, hlookup⟩ := get_vm_eq_some.mp hmaster
  have hmem := mem_of_lookup hlookup
  have hne : master ≠ uuid := fun heq => hnew (heq ▸ hmem)
  have hnone : master_vm.slave_vms = [] := by
    apply List.eq_nil_iff_forall_not_mem.mpr
    intro other hother
    obtain ⟨slave, hslaves, hof, _⟩ := (h.listed master master_vm hmaster other).mp hother
    exact hsingle slave hslaves hof
  constructor
  · intro u row hrow other
    obtain ⟨hu, hrow⟩ := get_vm_eq_some.mp hrow
    have hu_uuid : u ≠ uuid := fun heq => hu _ (List.mem_append_right _ (List.mem_singleton_self _)) heq.symm
    have hold : ∀ slave ∈ db.slaves, slave.vm ≠ u := fun slave hmem => hu slave (List.mem_append_left _ hmem)
    by_cases hum : u = master
    · subst hum
      rw [AList.lookup_insert] at hrow
      cases hrow
      rw [mem_add_slave_vm, h.listed u master_vm hmaster other]
      constructor
      · rintro (⟨slave, hmem, hof, hvm⟩ | rfl)
        · exact ⟨slave, List.mem_append_left _ hmem, hof, hvm⟩
        · exact ⟨_, List.mem_append_right _ (List.mem_singleton_self _), rfl, rfl⟩
      · rintro ⟨slave, hmem, hof, hvm⟩
        rcases List.mem_append.mp hmem with hmem | hmem
        · exact .inl ⟨slave, hmem, hof, hvm⟩
        · rw [List.mem_singleton] at hmem
          subst hmem
          exact .inr hvm.symm
    · rw [AList.lookup_insert_ne hum, AList.lookup_insert_ne hu_uuid] at hrow
      rw [h.listed u row (get_vm_eq_some.mpr ⟨hold, hrow⟩) other]
      constructor
      · rintro ⟨slave, hmem, hof, hvm⟩
        exact ⟨slave, List.mem_append_left _ hmem, hof, hvm⟩
      · rintro ⟨slave, hmem, hof, hvm⟩
        rcases List.mem_append.mp hmem with hmem | hmem
        · exact ⟨slave, hmem, hof, hvm⟩
        · rw [List.mem_singleton] at hmem
          subst hmem
          exact absurd hof.symm hum
  · exact create_flat hwf h.flat hcreate
  · intro slave hslave' row hrow
    rw [List.mem_append, List.mem_singleton] at hslave'
    rcases hslave' with hslave' | rfl
    · have hvm : slave.vm ≠ uuid := fun heq => hnew (heq ▸ (hwf.known slave hslave').1)
      rw [Option.mem_def, AList.lookup_insert_ne (hslave slave hslave'), AList.lookup_insert_ne hvm] at hrow
      exact h.empty slave hslave' row hrow
    · rw [Option.mem_def, AList.lookup_insert_ne hne.symm, AList.lookup_insert] at hrow
      cases hrow
      exact hnone

/-- A second replica copies the list of the first from its master. -/
theorem create_not_consistent (h : Consistent db) {slave : SlaveVm U} (hslave : slave ∈ db.slaves)
    (hof : slave.master_vm = master) (hcreate : db.create limit master name uuid node json = some db') :
    ¬ Consistent db' := by
  obtain ⟨master_vm, rep_id, hmaster, _, _, _, hnew, rfl⟩ := create_eq_some hcreate
  have hne : uuid ≠ master := fun heq => hnew (heq ▸ mem_of_lookup (get_vm_eq_some.mp hmaster).2)
  intro hbad
  have hempty := hbad.empty _ (List.mem_append_right _ (List.mem_singleton_self _)) (master_vm.copy rep_id node json)
    (by rw [Option.mem_def, AList.lookup_insert_ne hne, AList.lookup_insert])
  have hmem := (h.listed master master_vm hmaster slave.vm).mpr ⟨slave, hslave, hof, rfl⟩
  change master_vm.slave_vms = [] at hempty
  rw [hempty] at hmem
  cases hmem

end create

section failover

variable {db db' : Db A S U} {master : U} {name : String} {slave : SlaveVm U}

theorem failover_eq_some (hfailover : db.failover master name = some db') :
    ∃ old_vm new_vm slave demoted promoted, db.get_vm master = some old_vm ∧
      db.get_slave master name = some slave ∧ db.vm.lookup slave.vm = some new_vm ∧
      demoted.slave_vms = old_vm.slave_vms.filter (· ≠ slave.vm) ∧
      promoted.slave_vms = (new_vm.add_slave_vm master).slave_vms ∧
      db'.vm = (db.vm.insert master demoted).insert slave.vm promoted ∧
      db'.slaves = db.slaves.map (switch slave) := by
  unfold Db.failover at hfailover
  split at hfailover
  next old_vm slave hmaster hslave =>
    obtain ⟨_, hof, _⟩ := get_slave_eq_some hslave
    split at hfailover
    next => cases hfailover
    next =>
      obtain ⟨new_vm, hnew, hfail_over⟩ := Option.bind_eq_some_iff.mp hfailover
      obtain ⟨rest, hrest, rfl⟩ := Option.map_eq_some_iff.mp hfail_over
      have hslave_vms := delete_slave_vm_eq_some hrest
      subst hof
      exact ⟨old_vm, new_vm, slave, rest.demote new_vm, new_vm.promote old_vm slave.master_vm, hmaster, hslave, hnew,
        hslave_vms, rfl, rfl, rfl⟩
  next => cases hfailover

theorem switch_self (slave : SlaveVm U) : switch slave slave =
    { slave with master_vm := slave.vm, vm := slave.master_vm, rep_reinit_required := true } := if_pos rfl

theorem switch_ne {other : SlaveVm U} (hne : other ≠ slave) : switch slave other = other := if_neg hne

theorem failover_wellFormed (hwf : WellFormed db) (hfailover : db.failover master name = some db') :
    WellFormed db' := by
  obtain ⟨old_vm, new_vm, slave, demoted, promoted, hmaster, hslave, hnew, _, _, hvm, hslaves⟩ :=
    failover_eq_some hfailover
  obtain ⟨hmem, hof, _⟩ := get_slave_eq_some hslave
  obtain ⟨hmaster_vm, hlookup⟩ := get_vm_eq_some.mp hmaster
  constructor
  · intro other hother
    rw [hslaves] at hother
    obtain ⟨other, hmem_other, rfl⟩ := List.mem_map.mp hother
    rw [hvm]
    by_cases heq : other = slave
    · subst heq
      rw [switch_self]
      simp [hof]
    · rw [switch_ne heq]
      obtain ⟨hother_vm, hother_master⟩ := hwf.known other hmem_other
      simp [hother_vm, hother_master]
  · rw [hslaves, List.map_map]
    have hnodup : db.slaves.Nodup := List.Nodup.of_map _ hwf.unique
    apply List.Nodup.map_on _ hnodup
    intro other hother other' hother' heq
    by_cases h : other = slave <;> by_cases h' : other' = slave
    · rw [h, h']
    · rw [h, Function.comp_apply, Function.comp_apply, switch_self, switch_ne h'] at heq
      exact absurd (heq.symm.trans hof) (hmaster_vm other' hother')
    · rw [h', Function.comp_apply, Function.comp_apply, switch_self, switch_ne h] at heq
      exact absurd (heq.trans hof) (hmaster_vm other hother)
    · rw [Function.comp_apply, Function.comp_apply, switch_ne h, switch_ne h'] at heq
      exact hwf.vm_inj hother hother' heq

theorem failover_consistent (hwf : WellFormed db) (h : Consistent db)
    (hsingle : ∀ slave ∈ db.slaves, slave.master_vm = master → db.get_slave master name = some slave)
    (hfailover : db.failover master name = some db') : Consistent db' := by
  obtain ⟨old_vm, new_vm, slave, demoted, promoted, hmaster, hslave, hnew, hdemoted, hpromoted, hvm, hslaves⟩ :=
    failover_eq_some hfailover
  obtain ⟨hmem, hof, _⟩ := get_slave_eq_some hslave
  obtain ⟨hmaster_vm, hlookup⟩ := get_vm_eq_some.mp hmaster
  have honly : ∀ other ∈ db.slaves, other.master_vm = master → other = slave := by
    intro other hother heq
    have := hsingle other hother heq
    rw [hslave] at this
    cases this
    rfl
  have hne : slave.vm ≠ master := hmaster_vm slave hmem
  have hrow : ∀ uuid, uuid ≠ master → uuid ≠ slave.vm → db'.vm.lookup uuid = db.vm.lookup uuid := by
    intro uuid hm hs
    rw [hvm, AList.lookup_insert_ne hs, AList.lookup_insert_ne hm]
  have hswitched : ∀ other ∈ db'.slaves, other = switch slave slave ∨ (other ∈ db.slaves ∧ other ≠ slave) := by
    intro other hother
    rw [hslaves] at hother
    obtain ⟨other, hmem_other, rfl⟩ := List.mem_map.mp hother
    by_cases heq : other = slave
    · rw [heq]
      exact .inl rfl
    · rw [switch_ne heq]
      exact .inr ⟨hmem_other, heq⟩
  have hkept : ∀ other ∈ db.slaves, other ≠ slave → other ∈ db'.slaves := by
    intro other hother heq
    rw [hslaves]
    exact List.mem_map.mpr ⟨other, hother, switch_ne heq⟩
  have hdemoted_mem : switch slave slave ∈ db'.slaves := by
    rw [hslaves]
    exact List.mem_map_of_mem hmem
  constructor
  · intro u row hu other
    obtain ⟨hnot, hrow'⟩ := get_vm_eq_some.mp hu
    have hum : u ≠ master := by
      intro heq
      have := hnot _ hdemoted_mem
      rw [switch_self] at this
      exact this (hof.trans heq.symm)
    by_cases hus : u = slave.vm
    · subst hus
      rw [hvm, AList.lookup_insert] at hrow'
      cases hrow'
      rw [hpromoted, mem_add_slave_vm, h.empty slave hmem new_vm hnew]
      constructor
      · rintro (hother | rfl)
        · cases hother
        · exact ⟨_, hdemoted_mem, by rw [switch_self], by rw [switch_self]; exact hof⟩
      · rintro ⟨other', hother', hof', rfl⟩
        rcases hswitched other' hother' with rfl | ⟨hother', _⟩
        · rw [switch_self]
          exact .inr hof
        · exact absurd hof' (h.flat other' hother' slave hmem)
    · rw [hrow u hum hus] at hrow'
      have hu' : db.get_vm u = some row := by
        refine get_vm_eq_some.mpr ⟨?_, hrow'⟩
        intro other' hother' heq
        by_cases hslave' : other' = slave
        · exact hus (by rw [← heq, hslave'])
        · exact hnot other' (hkept other' hother' hslave') heq
      rw [h.listed u row hu' other]
      constructor
      · rintro ⟨other', hother', hof', hvm'⟩
        refine ⟨other', hkept other' hother' ?_, hof', hvm'⟩
        rintro rfl
        exact hum (hof'.symm.trans hof)
      · rintro ⟨other', hother', hof', hvm'⟩
        rcases hswitched other' hother' with rfl | ⟨hother', _⟩
        · rw [switch_self] at hof'
          exact absurd hof'.symm hus
        · exact ⟨other', hother', hof', hvm'⟩
  · intro other hother other' hother'
    rcases hswitched other hother with rfl | ⟨hother, hne'⟩ <;>
      rcases hswitched other' hother' with rfl | ⟨hother', hne''⟩
    · rw [switch_self]
      exact fun heq => hne (heq.trans hof)
    · rw [switch_self]
      exact fun heq => hne'' (hwf.vm_inj hother' hmem heq.symm)
    · rw [switch_self]
      exact fun heq => hne' (honly other hother (heq.trans hof))
    · exact h.flat other hother other' hother'
  · intro other hother row hrow'
    rcases hswitched other hother with rfl | ⟨hother, hne'⟩
    · rw [switch_self, Option.mem_def, hof, hvm, AList.lookup_insert_ne hne.symm, AList.lookup_insert] at hrow'
      cases hrow'
      rw [hdemoted, List.filter_eq_nil_iff]
      intro uuid huuid heq
      obtain ⟨other, hother, hof', rfl⟩ := (h.listed master old_vm hmaster uuid).mp huuid
      rw [honly other hother hof'] at heq
      simp at heq
    · have hs : other.vm ≠ slave.vm := fun heq => hne' (hwf.vm_inj hother hmem heq)
      rw [Option.mem_def, hrow other.vm (hmaster_vm other hother) hs] at hrow'
      exact h.empty other hother row hrow'

/-- The other replicas of the demoted VM stay with it. -/
theorem failover_not_consistent {other : SlaveVm U} (hother : other ∈ db.slaves) (hof : other.master_vm = master)
    (hnot : db.get_slave master name ≠ some other) (hfailover : db.failover master name = some db') :
    ¬ Consistent db' := by
  obtain ⟨old_vm, new_vm, slave, demoted, promoted, hmaster, hslave, hnew, hdemoted, hpromoted, hvm, hslaves⟩ :=
    failover_eq_some hfailover
  obtain ⟨hmem, hof', _⟩ := get_slave_eq_some hslave
  have hne : other ≠ slave := by
    rintro rfl
    exact hnot hslave
  intro hbad
  have hother' : other ∈ db'.slaves := by
    rw [hslaves]
    exact List.mem_map.mpr ⟨other, hother, switch_ne hne⟩
  have hswitch : switch slave slave ∈ db'.slaves := by
    rw [hslaves]
    exact List.mem_map_of_mem hmem
  apply hbad.flat other hother' _ hswitch
  rw [switch_self]
  exact hof.trans hof'.symm

end failover

section reinit

variable {db db' : Db A S U} {master : U} {name : String}

theorem reinit_eq_some (hreinit : db.reinit master name = some db') :
    ∃ slave ∈ db.slaves, db' = { db with slaves := db.slaves.map fun other =>
      if other = slave then { slave with rep_reinit_required := false } else other } := by
  unfold Db.reinit at hreinit
  split at hreinit
  next slave _ hslave =>
    split at hreinit
    · cases hreinit
      exact ⟨_, (get_slave_eq_some hslave).1, rfl⟩
    · cases hreinit
  next => cases hreinit

/-- Nothing but the references of the rows counts. -/
theorem consistent_of_same_links {slaves : List (SlaveVm U)}
    (hlinks : slaves.map (fun slave => (slave.vm, slave.master_vm)) =
      db.slaves.map fun slave => (slave.vm, slave.master_vm))
    (hwf : WellFormed db) (h : Consistent db) : WellFormed { db with slaves } ∧ Consistent { db with slaves } := by
  have hfrom : ∀ slave ∈ slaves, ∃ other ∈ db.slaves, other.vm = slave.vm ∧ other.master_vm = slave.master_vm := by
    intro slave hslave
    have hmem := List.mem_map_of_mem (f := fun slave : SlaveVm U => (slave.vm, slave.master_vm)) hslave
    rw [hlinks] at hmem
    obtain ⟨other, hother, heq⟩ := List.mem_map.mp hmem
    exact ⟨other, hother, congrArg Prod.fst heq, congrArg Prod.snd heq⟩
  have hto : ∀ slave ∈ db.slaves, ∃ other ∈ slaves, other.vm = slave.vm ∧ other.master_vm = slave.master_vm := by
    intro slave hslave
    have hmem := List.mem_map_of_mem (f := fun slave : SlaveVm U => (slave.vm, slave.master_vm)) hslave
    rw [← hlinks] at hmem
    obtain ⟨other, hother, heq⟩ := List.mem_map.mp hmem
    exact ⟨other, hother, congrArg Prod.fst heq, congrArg Prod.snd heq⟩
  constructor
  · constructor
    · intro slave hslave
      obtain ⟨other, hother, hvm, hof⟩ := hfrom slave hslave
      rw [← hvm, ← hof]
      exact hwf.known other hother
    · have hvms : slaves.map SlaveVm.vm = db.slaves.map SlaveVm.vm := by
        have := congrArg (List.map Prod.fst) hlinks
        rw [List.map_map, List.map_map] at this
        exact this
      change (slaves.map SlaveVm.vm).Nodup
      rw [hvms]
      exact hwf.unique
  · constructor
    · intro uuid row hrow other
      obtain ⟨hnot, hlookup⟩ := get_vm_eq_some.mp hrow
      have hrow' : db.get_vm uuid = some row := by
        refine get_vm_eq_some.mpr ⟨?_, hlookup⟩
        intro slave hslave heq
        obtain ⟨slave', hslave', hvm, _⟩ := hto slave hslave
        exact hnot slave' hslave' (hvm.trans heq)
      rw [h.listed uuid row hrow' other]
      constructor
      · rintro ⟨slave, hslave, hof, hvm⟩
        obtain ⟨slave', hslave', hvm', hof'⟩ := hto slave hslave
        exact ⟨slave', hslave', hof'.trans hof, hvm'.trans hvm⟩
      · rintro ⟨slave, hslave, hof, hvm⟩
        obtain ⟨slave', hslave', hvm', hof'⟩ := hfrom slave hslave
        exact ⟨slave', hslave', hof'.trans hof, hvm'.trans hvm⟩
    · intro slave hslave other hother
      obtain ⟨slave', hslave', _, hof⟩ := hfrom slave hslave
      obtain ⟨other', hother', hvm, _⟩ := hfrom other hother
      rw [← hof, ← hvm]
      exact h.flat slave' hslave' other' hother'
    · intro slave hslave row hrow
      obtain ⟨slave', hslave', hvm, _⟩ := hfrom slave hslave
      apply h.empty slave' hslave' row
      rw [hvm]
      exact hrow

theorem reinit_consistent (hwf : WellFormed db) (h : Consistent db) (hreinit : db.reinit master name = some db') :
    WellFormed db' ∧ Consistent db' := by
  obtain ⟨slave, _, rfl⟩ := reinit_eq_some hreinit
  apply consistent_of_same_links _ hwf h
  rw [List.map_map]
  apply List.map_congr_left
  intro other _
  by_cases heq : other = slave <;> simp [heq]

end reinit

section delete

variable {db db' : Db A S U} {master : U} {name : String}

theorem delete_eq_some (hflat : ∀ slave ∈ db.slaves, ∀ other ∈ db.slaves, slave.master_vm ≠ other.vm)
    (hdelete : db.delete master name = some db') :
    ∃ master_vm master_vm' slave, db.get_vm master = some master_vm ∧ db.get_slave master name = some slave ∧
      slave.master_vm = master ∧
      master_vm'.slave_vms = master_vm.slave_vms.filter (· ≠ slave.vm) ∧
      db'.vm = (db.vm.erase slave.vm).insert master master_vm' ∧
      db'.slaves = (db.slaves.filter (· ≠ slave)).filter fun other =>
        other.vm ≠ slave.vm && other.master_vm ≠ slave.vm := by
  unfold Db.delete at hdelete
  split at hdelete
  next master_vm slave hmaster hslave =>
    obtain ⟨hmem, hof, _⟩ := get_slave_eq_some hslave
    split at hdelete
    next => cases hdelete
    next master_vm' hmaster' =>
      cases hdelete
      have hnone : (db.slaves.filter (· ≠ slave)).filter (·.master_vm = slave.vm) = [] := by
        apply List.filter_eq_nil_iff.mpr
        intro other hother heq
        exact hflat other (List.mem_filter.mp hother).1 slave hmem (of_decide_eq_true heq)
      refine ⟨master_vm, master_vm', slave, hmaster, hslave, hof, delete_slave_vm_eq_some hmaster', ?_, ?_⟩
      · rw [Db.delete_vm, hnone]
        rfl
      · rw [Db.delete_vm, hnone]
        rfl
  next => cases hdelete

/-- Only the row of the replica is gone. -/
theorem delete_slaves (hwf : WellFormed db)
    (hflat : ∀ slave ∈ db.slaves, ∀ other ∈ db.slaves, slave.master_vm ≠ other.vm) {slave : SlaveVm U}
    (hslave : db.get_slave master name = some slave) (hdelete : db.delete master name = some db') :
    db'.slaves = db.slaves.filter (· ≠ slave) := by
  obtain ⟨_, _, slave', _, hslave', _, _, _, hslaves⟩ := delete_eq_some hflat hdelete
  rw [hslave] at hslave'
  cases hslave'
  have hmem := (get_slave_eq_some hslave).1
  rw [hslaves, List.filter_eq_self]
  intro other hother
  obtain ⟨hother, hneq⟩ := List.mem_filter.mp hother
  rw [Bool.and_eq_true]
  exact ⟨decide_eq_true fun heq => of_decide_eq_true hneq (hwf.vm_inj hother hmem heq),
    decide_eq_true (hflat other hother slave hmem)⟩

theorem delete_consistent (hwf : WellFormed db) (h : Consistent db) (hdelete : db.delete master name = some db') :
    WellFormed db' ∧ Consistent db' := by
  obtain ⟨master_vm, master_vm', slave, hmaster, hslave, hof, hlist, hvm, _⟩ := delete_eq_some h.flat hdelete
  obtain ⟨hmaster_vm, hlookup⟩ := get_vm_eq_some.mp hmaster
  obtain ⟨hmem, _, _⟩ := get_slave_eq_some hslave
  have hne : master ≠ slave.vm := fun heq => hmaster_vm slave hmem heq.symm
  have hslaves := delete_slaves hwf h.flat hslave hdelete
  have hslaves' : ∀ other, other ∈ db'.slaves ↔ other ∈ db.slaves ∧ other ≠ slave := by
    intro other
    rw [hslaves, List.mem_filter, decide_eq_true_iff]
  have hrow : ∀ uuid, uuid ≠ master → uuid ≠ slave.vm → db'.vm.lookup uuid = db.vm.lookup uuid := by
    intro uuid hm hs
    rw [hvm, AList.lookup_insert_ne hm, AList.lookup_erase_ne hs]
  constructor
  · constructor
    · intro other hother
      obtain ⟨hother, hneq⟩ := (hslaves' other).mp hother
      obtain ⟨hother_vm, hother_master⟩ := hwf.known other hother
      have hs : other.vm ≠ slave.vm := fun heq => hneq (hwf.vm_inj hother hmem heq)
      rw [hvm, AList.mem_insert, AList.mem_insert, AList.mem_erase, AList.mem_erase]
      exact ⟨.inr ⟨hs, hother_vm⟩, .inr ⟨h.flat other hother slave hmem, hother_master⟩⟩
    · rw [hslaves]
      exact List.Nodup.sublist (List.filter_sublist.map _) hwf.unique
  · constructor
    · intro u row hu other
      obtain ⟨hnot, hrow'⟩ := get_vm_eq_some.mp hu
      by_cases hum : u = master
      · subst hum
        rw [hvm, AList.lookup_insert] at hrow'
        cases hrow'
        rw [hlist, List.mem_filter, h.listed u master_vm hmaster other]
        constructor
        · rintro ⟨⟨slave', hslave', hof', rfl⟩, hneq⟩
          refine ⟨slave', (hslaves' slave').mpr ⟨hslave', ?_⟩, hof', rfl⟩
          rintro rfl
          simp at hneq
        · rintro ⟨slave', hslave', hof', rfl⟩
          obtain ⟨hslave', hneq⟩ := (hslaves' slave').mp hslave'
          exact ⟨⟨slave', hslave', hof', rfl⟩, decide_eq_true fun heq => hneq (hwf.vm_inj hslave' hmem heq)⟩
      · have hus : u ≠ slave.vm := by
          rintro rfl
          rw [hvm, AList.lookup_insert_ne hne.symm, AList.lookup_erase] at hrow'
          cases hrow'
        rw [hrow u hum hus] at hrow'
        have hu' : db.get_vm u = some row := by
          refine get_vm_eq_some.mpr ⟨?_, hrow'⟩
          intro slave' hslave' heq
          by_cases hslave_eq : slave' = slave
          · exact hus (by rw [← heq, hslave_eq])
          · exact hnot slave' ((hslaves' slave').mpr ⟨hslave', hslave_eq⟩) heq
        rw [h.listed u row hu' other]
        constructor
        · rintro ⟨slave', hslave', hof', hvm'⟩
          refine ⟨slave', (hslaves' slave').mpr ⟨hslave', ?_⟩, hof', hvm'⟩
          rintro rfl
          exact hum (hof'.symm.trans hof)
        · rintro ⟨slave', hslave', hof', hvm'⟩
          exact ⟨slave', ((hslaves' slave').mp hslave').1, hof', hvm'⟩
    · intro other hother other' hother'
      exact h.flat other ((hslaves' other).mp hother).1 other' ((hslaves' other').mp hother').1
    · intro other hother row hrow'
      obtain ⟨hother, hneq⟩ := (hslaves' other).mp hother
      have hs : other.vm ≠ slave.vm := fun heq => hneq (hwf.vm_inj hother hmem heq)
      rw [Option.mem_def, hrow other.vm (hmaster_vm other hother) hs] at hrow'
      exact h.empty other hother row hrow'

end delete

section runs

variable {limit : Option Nat} {db db' : Db A S U}

theorem step_consistent (hwf : WellFormed db) (h : Consistent db) {op : Operation A S U} (hsingle : Single db op)
    (hstep : step limit db op = some db') : WellFormed db' ∧ Consistent db' := by
  cases op with
  | create master name uuid node json =>
    exact ⟨create_wellFormed hwf hstep, create_consistent hwf h hsingle hstep⟩
  | failover master name => exact ⟨failover_wellFormed hwf hstep, failover_consistent hwf h hsingle hstep⟩
  | reinit master name => exact reinit_consistent hwf h hstep
  | delete master name => exact delete_consistent hwf h hstep

theorem consistent_of_run (hwf : WellFormed db) (h : Consistent db) {ops : List (Operation A S U)}
    (hrun : transition.Run (step limit) Single db ops db') : WellFormed db' ∧ Consistent db' := by
  have hpreserved : ∀ (db : Db A S U) (op : Operation A S U) next, (WellFormed db ∧ Consistent db) → Single db op →
      step limit db op = some next →
        WellFormed next ∧ Consistent next := fun _ _ _ hinv hsingle hstep => step_consistent hinv.1 hinv.2 hsingle hstep
  exact hrun.invariant hpreserved ⟨hwf, h⟩

/-- One operation on consistent tables keeps them so exactly if it makes no second replica
of a VM and promotes no replica of a VM with several. -/
theorem step_consistent_iff (hwf : WellFormed db) (h : Consistent db) {op : Operation A S U}
    (hstep : step limit db op = some db') : Consistent db' ↔ Single db op := by
  constructor
  · intro hnext
    cases op with
    | create master name uuid node json =>
      intro slave hslave hof
      exact create_not_consistent h hslave hof hstep hnext
    | failover master name =>
      intro slave hslave hof
      by_cases hnot : db.get_slave master name = some slave
      · exact hnot
      · exact absurd hnext (failover_not_consistent hslave hof hnot hstep)
    | reinit master name => trivial
    | delete master name => trivial
  · intro hsingle
    exact (step_consistent hwf h hsingle hstep).2

/-- In every run in which replicas are created only for VMs without one, and only the only
replica of a VM takes over, the tables are consistent after each operation. Any other
operation leaves them inconsistent at once. -/
theorem replicas_consistent (hwf : WellFormed db) (h : Consistent db) {ops : List (Operation A S U)}
    (hrun : transition.Run (step limit) Single db ops db') :
    Consistent db' ∧ ∀ op next, step limit db' op = some next → (Consistent next ↔ Single db' op) := by
  obtain ⟨hwf', h'⟩ := consistent_of_run hwf h hrun
  exact ⟨h', fun op next hstep => step_consistent_iff hwf' h' hstep⟩

def web : VmRow Nat Nat Nat := ⟨"web", 0, 0, 0, 100, [], [], false, [], []⟩

/-- One VM without replicas. -/
def one_vm : Db Nat Nat Nat := ⟨AList.singleton 1 web, [], [], []⟩

theorem one_vm_wellFormed : WellFormed one_vm where
  known _ hslave := by cases hslave
  unique := List.nodup_nil

theorem one_vm_consistent : Consistent one_vm where
  listed := by
    intro uuid row hrow other
    have hlookup := (get_vm_eq_some.mp hrow).2
    have huuid : uuid ∈ one_vm.vm := mem_of_lookup hlookup
    rw [one_vm, AList.mem_keys, AList.keys_singleton, List.mem_singleton] at huuid
    subst huuid
    have hweb : one_vm.vm.lookup 1 = some web := rfl
    rw [hweb] at hlookup
    cases hlookup
    simp [one_vm, web]
  flat _ hslave := by cases hslave
  empty _ hslave := by cases hslave

theorem replicas_consistent_failover_and_back :
    ∃ db', transition.Run (step none) Single one_vm
      [.create 1 "a" 2 101 [], .failover 1 "a", .reinit 2 "a", .failover 2 "a", .delete 1 "a"] db' ∧ Consistent db' := by
  have hrun : ∃ db', transition.Run (step none) Single one_vm
      [.create 1 "a" 2 101 [], .failover 1 "a", .reinit 2 "a", .failover 2 "a", .delete 1 "a"] db' := by
    refine ⟨_, .cons ?_ rfl (.cons ?_ rfl (.cons ?_ rfl (.cons ?_ rfl (.cons ?_ rfl (.nil _)))))⟩
    · intro slave hslave
      cases hslave
    · intro slave hslave _
      rw [List.mem_singleton.mp hslave]
      rfl
    · trivial
    · intro slave hslave _
      rw [List.mem_singleton.mp hslave]
      rfl
    · trivial
  obtain ⟨db', hrun⟩ := hrun
  exact ⟨db', hrun, (replicas_consistent one_vm_wellFormed one_vm_consistent hrun).1⟩

/-- The second replica of a VM has the first one in its `slave_vms`, and after a failover
to the first one its master is a slave VM. -/
theorem replicas_not_consistent :
    ∃ db db', transition.Run (step none) transition.anyStep one_vm
        [.create 1 "a" 2 101 [], .create 1 "b" 3 101 []] db ∧ ¬ Consistent db ∧
      step none db (.failover 1 "a") = some db' ∧ ¬ Consistent db' := by
  refine ⟨_, _, .cons trivial rfl (.cons trivial rfl (.nil _)), ?_, rfl, ?_⟩
  · intro h
    have hempty := h.empty ⟨3, 1, "b", some 2, false⟩ (by decide) _ rfl
    revert hempty
    decide
  · intro h
    have hflat := h.flat ⟨3, 1, "b", some 2, false⟩ (by decide) ⟨1, 2, "a", some 1, true⟩ (by decide)
    exact hflat rfl

end runs

end vms.slave_vm
