import Esdc.Vms.Replicas

namespace eslib.esrep

def _snap_prefix (id : Nat) : String := "@rs-" ++ toString id ++ "-"

def _src_disk_property (id : Nat) : String := "esrep:dst:" ++ toString id

def _dst_disk_property (id : Nat) : String := "esrep:src:" ++ toString id

end eslib.esrep

namespace vms.slave_vm

open vms.ipaddress (Nic)
open eslib.esrep (_src_disk_property _dst_disk_property _snap_prefix)

variable {A S U : Type} [DecidableEq U]

theorem toString_inj {id id' : Nat} (h : toString id = toString id') : id = id' := by
  have hrepr : id.repr = id'.repr := h
  have hdigits : Nat.toDigits 10 id = Nat.toDigits 10 id' := by
    rw [← Nat.toList_repr, hrepr, Nat.toList_repr]
  have hvalue := congrArg (fun digits => Nat.ofDigitChars 10 digits 0) hdigits
  simpa using hvalue

/-- All that is derived from two ids on the compute nodes and in the database. -/
structure Apart (hostname : String) (id id' : Nat) : Prop where
  rep_id : id ≠ id'
  rep_hostname : get_rep_hostname hostname id ≠ get_rep_hostname hostname id'
  snap_prefix : _snap_prefix id ≠ _snap_prefix id'
  src_disk_property : _src_disk_property id ≠ _src_disk_property id'
  dst_disk_property : _dst_disk_property id ≠ _dst_disk_property id'

theorem apart_iff {hostname : String} {id id' : Nat} : Apart hostname id id' ↔ id ≠ id' := by
  constructor
  · exact Apart.rep_id
  · intro hne
    refine ⟨hne, ?_, ?_, ?_, ?_⟩
    · intro h
      rw [get_rep_hostname, get_rep_hostname, String.append_left_inj, String.append_left_inj,
        String.append_right_inj] at h
      exact hne (toString_inj h)
    · intro h
      unfold _snap_prefix at h
      rw [String.append_left_inj, String.append_right_inj] at h
      exact hne (toString_inj h)
    · intro h
      rw [_src_disk_property, _src_disk_property, String.append_right_inj] at h
      exact hne (toString_inj h)
    · intro h
      rw [_dst_disk_property, _dst_disk_property, String.append_right_inj] at h
      exact hne (toString_inj h)

/-- A new replica with this id collides with no replica of the VM. -/
def Fresh (db : Db A S U) (master : U) (rep_id : Nat) : Prop :=
  ∀ slave ∈ db.replicas master, ∀ id ∈ slave.rep_id, ∀ hostname, Apart hostname id rep_id

theorem validate_eq_some {db : Db A S U} {limit : Option Nat} {master : U} {rep_id : Nat}
    (hvalid : db.validate limit master = some rep_id) : rep_id = (db.replicas master).length + 1 := by
  unfold Db.validate at hvalid
  dsimp only at hvalid
  split at hvalid
  · split at hvalid
    · cases hvalid
    · cases hvalid
      rfl
  · cases hvalid
    rfl

/-- The requests for one VM: replicas are made, and the newest one is deleted. -/
def NewestFirst (master : U) (db : Db A S U) : Operation A S U → Prop
  | .create vm _ _ _ _ => vm = master
  | .delete vm name => vm = master ∧ ∀ slave, db.get_slave master name = some slave →
      ∀ other ∈ db.replicas master, ∀ id ∈ other.rep_id, ∀ newest ∈ slave.rep_id, id ≤ newest
  | _ => False

/-- The ids of the replicas in the order of their creation are `1`, `2` and so on. -/
structure Numbered (master : U) (db : Db A S U) : Prop where
  wellFormed : WellFormed db
  flat : ∀ slave ∈ db.slaves, ∀ other ∈ db.slaves, slave.master_vm ≠ other.vm
  named : ∀ slave ∈ db.slaves, slave.name ≠ ""
  ids : (db.replicas master).map SlaveVm.rep_id = (List.range (db.replicas master).length).map fun i => some (i + 1)

section runs

variable {db db' : Db A S U} {limit : Option Nat} {master node uuid : U} {name : String} {json : List (Nic A S)}

theorem Numbered.create (h : Numbered master db)
    (hcreate : db.create limit master name uuid node json = some db') : Numbered master db' := by
  have hflat := create_flat h.wellFormed h.flat hcreate
  have hwf := create_wellFormed h.wellFormed hcreate
  obtain ⟨master_vm, rep_id, _, hvalid, _, hname, _, rfl⟩ := create_eq_some hcreate
  refine ⟨hwf, hflat, ?_, ?_⟩
  · intro slave hslave
    rcases List.mem_append.mp hslave with hslave | hslave
    · exact h.named slave hslave
    · rw [List.mem_singleton] at hslave
      subst hslave
      exact hname
  · have hreplicas : (db.slaves ++ [(⟨uuid, master, name, some rep_id, false⟩ : SlaveVm U)]).filter
        (fun slave => slave.master_vm = master && slave.name ≠ "") =
        db.replicas master ++ [⟨uuid, master, name, some rep_id, false⟩] := by
      rw [List.filter_append]
      simp [Db.replicas, hname]
    have hlast := validate_eq_some hvalid
    subst hlast
    rw [Db.replicas, hreplicas, List.map_append, h.ids, List.length_append, List.length_singleton,
      List.range_succ, List.map_append]
    rfl

theorem mem_replicas (h : Numbered master db) {slave : SlaveVm U} (hslave : db.get_slave master name = some slave) :
    slave ∈ db.replicas master := by
  obtain ⟨hmem, hof, _⟩ := get_slave_eq_some hslave
  rw [Db.replicas, List.mem_filter, Bool.and_eq_true]
  exact ⟨hmem, decide_eq_true hof, decide_eq_true (h.named slave hmem)⟩

theorem delete_replicas (h : Numbered master db) {slave : SlaveVm U} (hslave : db.get_slave master name = some slave)
    (hdelete : db.delete master name = some db') :
    db'.replicas master = (db.replicas master).filter (· ≠ slave) := by
  rw [Db.replicas, delete_slaves h.wellFormed h.flat hslave hdelete, Db.replicas, List.filter_filter,
    List.filter_filter]
  apply List.filter_congr
  intro other _
  exact Bool.and_comm _ _

/-- The replica with the largest id is the last one of the list. -/
theorem Numbered.delete (h : Numbered master db) (hop : NewestFirst master db (.delete master name))
    (hdelete : db.delete master name = some db') : Numbered master db' := by
  obtain ⟨_, _, slave, _, hslave, hof, _, _, _⟩ := delete_eq_some h.flat hdelete
  have hslaves := delete_slaves h.wellFormed h.flat hslave hdelete
  obtain ⟨hmem, _, _⟩ := get_slave_eq_some hslave
  have hwf : WellFormed db' := by
    obtain ⟨master_vm, master_vm', slave', hmaster, hslave', hof', _, hvm, _⟩ := delete_eq_some h.flat hdelete
    rw [hslave] at hslave'
    cases hslave'
    constructor
    · intro other hother
      rw [hslaves, List.mem_filter, decide_eq_true_iff] at hother
      obtain ⟨hother_vm, hother_master⟩ := h.wellFormed.known other hother.1
      have hs : other.vm ≠ slave.vm := fun heq => hother.2 (h.wellFormed.vm_inj hother.1 hmem heq)
      rw [hvm, AList.mem_insert, AList.mem_insert, AList.mem_erase, AList.mem_erase]
      exact ⟨.inr ⟨hs, hother_vm⟩, .inr ⟨h.flat other hother.1 slave hmem, hother_master⟩⟩
    · rw [hslaves]
      exact List.Nodup.sublist (List.filter_sublist.map _) h.wellFormed.unique
  have hreplica := mem_replicas h hslave
  have hnodup : (db.replicas master).Nodup :=
    List.Nodup.sublist List.filter_sublist (List.Nodup.of_map _ h.wellFormed.unique)
  have hrest := delete_replicas h hslave hdelete
  -- the last replica has the largest id, which only one has
  obtain ⟨front, last, hreplicas⟩ : ∃ front last, db.replicas master = front ++ [last] := by
    rcases List.eq_nil_or_concat (db.replicas master) with hnil | ⟨front, last, hconcat⟩
    · rw [hnil] at hreplica
      cases hreplica
    · exact ⟨front, last, by rw [hconcat, List.concat_eq_append]⟩
  have hids := h.ids
  rw [hreplicas, List.map_append, List.length_append, List.length_singleton, List.range_succ, List.map_append,
    List.map_singleton, List.map_singleton] at hids
  obtain ⟨hfront, hlast⟩ := List.append_inj' hids rfl
  have hlast_id : last.rep_id = some (front.length + 1) := (List.cons.inj hlast).1
  have heq : slave = last := by
    rw [hreplicas, List.mem_append, List.mem_singleton] at hreplica
    rcases hreplica with hfront_mem | heq
    · have hmem_ids := List.mem_map_of_mem (f := SlaveVm.rep_id) hfront_mem
      rw [hfront] at hmem_ids
      obtain ⟨i, hi, hid⟩ := List.mem_map.mp hmem_ids
      have hle := hop.2 slave hslave last (by rw [hreplicas]; simp) _ hlast_id _ hid.symm
      rw [List.mem_range] at hi
      omega
    · exact heq
  subst heq
  rw [hreplicas, List.filter_append, List.filter_singleton] at hrest
  have hfilter : front.filter (· ≠ slave) = front := by
    apply List.filter_eq_self.mpr
    rintro other hother
    rw [hreplicas, List.nodup_append] at hnodup
    exact decide_eq_true (hnodup.2.2 other hother slave (List.mem_singleton_self slave))
  have hreplicas' : db'.replicas master = front := by
    rw [hrest, hfilter]
    simp
  refine ⟨hwf, ?_, ?_, ?_⟩
  · intro other hother other' hother'
    rw [hslaves] at hother hother'
    exact h.flat other (List.mem_filter.mp hother).1 other' (List.mem_filter.mp hother').1
  · intro other hother
    rw [hslaves] at hother
    exact h.named other (List.mem_filter.mp hother).1
  · rw [hreplicas']
    exact hfront

theorem Numbered.run (h : Numbered master db) {ops : List (Operation A S U)}
    (hrun : transition.Run (step limit) (NewestFirst master) db ops db') : Numbered master db' := by
  induction hrun with
  | nil => exact h
  | @cons db mid last op ops hok hstep _ ih =>
    apply ih
    cases op with
    | create vm name uuid node json =>
      cases hok
      exact h.create hstep
    | delete vm name =>
      cases hok.1
      exact h.delete hok hstep
    | failover => cases hok
    | reinit => cases hok

/-- The ids of the replicas are up to their number. -/
theorem Numbered.mem_ids (h : Numbered master db) {id : Nat} :
    (∃ slave ∈ db.replicas master, slave.rep_id = some id) ↔ 0 < id ∧ id ≤ (db.replicas master).length := by
  constructor
  · rintro ⟨slave, hslave, hid⟩
    have hmem := List.mem_map_of_mem (f := SlaveVm.rep_id) hslave
    rw [h.ids, hid] at hmem
    obtain ⟨i, hi, heq⟩ := List.mem_map.mp hmem
    rw [List.mem_range] at hi
    cases heq
    omega
  · rintro ⟨hpos, hle⟩
    have hmem : some id ∈ (db.replicas master).map SlaveVm.rep_id := by
      rw [h.ids]
      refine List.mem_map.mpr ⟨id - 1, List.mem_range.mpr (by omega), ?_⟩
      rw [Nat.sub_add_cancel hpos]
    obtain ⟨slave, hslave, hid⟩ := List.mem_map.mp hmem
    exact ⟨slave, hslave, hid⟩

theorem fresh_iff {rep_id : Nat} (hvalid : db.validate limit master = some rep_id) :
    Fresh db master rep_id ↔ ∀ slave ∈ db.replicas master, slave.rep_id ≠ some ((db.replicas master).length + 1) := by
  have hrep_id := validate_eq_some hvalid
  constructor
  · intro hfresh slave hslave hid
    exact (hfresh slave hslave _ hid "").rep_id hrep_id.symm
  · intro hne slave hslave id hid hostname
    rw [apart_iff]
    rintro rfl
    apply hne slave hslave
    rw [← hrep_id]
    exact hid

theorem Numbered.fresh (h : Numbered master db) {rep_id : Nat} (hvalid : db.validate limit master = some rep_id) :
    Fresh db master rep_id := by
  rw [fresh_iff hvalid]
  intro slave hslave hid
  have := h.mem_ids.mp ⟨slave, hslave, hid⟩
  omega

/-- Without an older replica the number of the others is the largest id. -/
theorem Numbered.not_fresh (h : Numbered master db) (hold : ¬ NewestFirst master db (.delete master name))
    (hdelete : db.delete master name = some db') {rep_id : Nat} (hvalid : db'.validate limit master = some rep_id) :
    ¬ Fresh db' master rep_id := by
  obtain ⟨slave, hslave, newest, hnewest, hlt⟩ : ∃ slave, db.get_slave master name = some slave ∧
      ∃ newest, slave.rep_id = some newest ∧ newest < (db.replicas master).length := by
    by_contra hnot
    apply hold
    refine ⟨rfl, ?_⟩
    intro slave hslave other hother id hid newest hnewest
    have hle := (h.mem_ids.mp ⟨other, hother, hid⟩).2
    by_contra hlt
    exact hnot ⟨slave, hslave, newest, hnewest, by omega⟩
  obtain ⟨hmem, hof, _⟩ := get_slave_eq_some hslave
  have hrest := delete_replicas h hslave hdelete
  have hreplica : slave ∈ db.replicas master := mem_replicas h hslave
  have hlength : (db'.replicas master).length + 1 = (db.replicas master).length := by
    have hnodup : (db.replicas master).Nodup :=
      List.Nodup.sublist List.filter_sublist (List.Nodup.of_map _ h.wellFormed.unique)
    have herase : (db.replicas master).erase slave = (db.replicas master).filter (· ≠ slave) := by
      rw [hnodup.erase_eq_filter]
      apply List.filter_congr
      intro other _
      by_cases heq : other = slave <;> simp [heq]
    rw [hrest, ← herase, List.length_erase_of_mem hreplica]
    have := List.length_pos_of_mem hreplica
    omega
  obtain ⟨last, hlast, hid⟩ := h.mem_ids.mpr ⟨by omega, Nat.le_refl (db.replicas master).length⟩
  rw [fresh_iff hvalid, hlength]
  intro hne
  apply hne last ?_ hid
  rw [hrest, List.mem_filter, decide_eq_true_iff]
  refine ⟨hlast, ?_⟩
  rintro rfl
  rw [hid] at hnewest
  cases hnewest
  exact Nat.lt_irrefl _ hlt

/-- As long as the newest replica of a VM is the one that is deleted, every new replica gets
an id that no other replica of the VM has. Once an older one is deleted, the next replica
gets the id of the newest one. -/
theorem rep_id_fresh (h : Numbered master db) {ops : List (Operation A S U)}
    (hrun : transition.Run (step limit) (NewestFirst master) db ops db') :
    (∀ rep_id, db'.validate limit master = some rep_id → Fresh db' master rep_id) ∧
      ∀ name next rep_id, ¬ NewestFirst master db' (.delete master name) →
        step limit db' (.delete master name) = some next → next.validate limit master = some rep_id →
          ¬ Fresh next master rep_id := by
  have h' := h.run hrun
  exact ⟨fun _ hvalid => h'.fresh hvalid, fun _ _ _ hold hstep hvalid => h'.not_fresh hold hstep hvalid⟩

theorem one_vm_numbered : Numbered 1 one_vm where
  wellFormed := one_vm_wellFormed
  flat _ hslave := by cases hslave
  named _ hslave := by cases hslave
  ids := rfl

theorem rep_id_fresh_after_delete :
    ∃ db', transition.Run (step (some 2)) (NewestFirst 1) one_vm
        [.create 1 "a" 2 101 [], .create 1 "b" 3 101 [], .delete 1 "b"] db' ∧
      db'.validate (some 2) 1 = some 2 ∧ Fresh db' 1 2 := by
  have hrun : ∃ db', transition.Run (step (some 2)) (NewestFirst 1) one_vm
      [.create 1 "a" 2 101 [], .create 1 "b" 3 101 [], .delete 1 "b"] db' ∧ db'.validate (some 2) 1 = some 2 := by
    refine ⟨_, .cons rfl rfl (.cons rfl rfl (.cons ⟨rfl, ?_⟩ rfl (.nil _))), by decide⟩
    decide
  obtain ⟨db', hrun, hvalid⟩ := hrun
  exact ⟨db', hrun, hvalid, (rep_id_fresh one_vm_numbered hrun).1 2 hvalid⟩

/-- The second of two replicas has the id that a new one gets after the first is deleted. -/
theorem rep_id_not_fresh :
    ∃ db', transition.Run (step (some 2)) transition.anyStep one_vm
        [.create 1 "a" 2 101 [], .create 1 "b" 3 101 [], .delete 1 "a"] db' ∧
      db'.validate (some 2) 1 = some 2 ∧ ¬ Fresh db' 1 2 := by
  refine ⟨_, .cons trivial rfl (.cons trivial rfl (.cons trivial rfl (.nil _))), by decide, ?_⟩
  intro hfresh
  have := (hfresh ⟨3, 1, "b", some 2, false⟩ (by decide) 2 rfl "").rep_id
  exact this rfl

end runs

end vms.slave_vm
