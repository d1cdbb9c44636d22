import Esdc.Api.Callback.Update

namespace api.callbacks

open que.mgmt
open Procedure (Point Raises Exposed)
open vms.definition (Json Value)

variable {Node Time : Type} [DecidableEq Node]

def SlaveVm_get : Callback Node Time (SlaveVmRow Node) := do
  match ← select .get_slave_vm Db.slave_vm with
  | some ghost_vm => pure ghost_vm
  | none => raise (.does_not_exist .SlaveVm)

def delete_slave_vm : Callback Node Time Unit :=
  write .delete_slave_vm fun db => { db with slave_vm := none }

def _vm_migrate_cb_failed (vm : VmRow Node Time) : Callback Node Time Unit := do
  revert_notready vm
  delete_slave_vm

/-- The VNC port of an HVM has been changed with its node. -/
def check_vnc_port (vm : VmRow Node Time) (ghost_vm : SlaveVmRow Node) (json_active : Json) :
    Callback Node Time Unit :=
  if vm.node ≠ ghost_vm.node ∧ vm.hvm then do
    let vnc_port ← getitem (json_active.items.lookup "vnc_port") "vnc_port"
    if ghost_vm.vnc_port = vnc_port then pure () else raise .assertion
  else pure ()

/-- `vm.save`, which is not in a transaction. -/
def save_migrated (vm : VmRow Node Time) (ghost_vm : SlaveVmRow Node) (json_active : Json) :
    Callback Node Time Unit := do
  let reverted := (vms.models.Vm.get vm.store).revert_notready
  write .save_vm fun db => db.update_vm fun row =>
    { row with store := reverted.save none row.store, json := json_active, json_active, node := ghost_vm.node }
  select .save_storages fun _ => ()
  if vm.node ≠ ghost_vm.node then select .save_nodes fun _ => () else pure ()

/-- `vm_migrate_cb` after the placeholder VM has been deleted. -/
def vm_migrate_cb_done (ghost_vm : SlaveVmRow Node) : Callback Node Time (Result Time) := do
  let vm ← Vm_get .get_vm
  select .vm_storages fun _ => ()
  let json ← pop_json
  let json_active ← load json
  check_vnc_port vm ghost_vm json_active
  save_migrated vm ghost_vm json_active
  select .switch_snapshots fun _ => ()
  select .node_changed fun _ => ()
  task_log .success (.success ((← get).result.message.getD ""))
  return (← get).result

def Result.migrated (result : Result Time) : Prop :=
  result.returncode = some 0 ∧ result.message.getD "" ≠ "" ∧
    contains (result.message.getD "") "Successfully migrated"

def vm_migrate_cb : Callback Node Time (Result Time) := do
  let ghost_vm ← SlaveVm_get
  let result := (← get).result
  let msg := result.message.getD ""
  let returncode ← getitem result.returncode "returncode"
  if returncode = 0 ∧ msg ≠ "" ∧ contains msg "Successfully migrated" then
    select .slave_vm_storages fun _ => ()
    delete_slave_vm
    vm_migrate_cb_done ghost_vm
  else
    let vm ← Vm_get .get_vm
    _vm_migrate_cb_failed vm
    raise (.bad_return_code returncode msg)

omit [DecidableEq Node] in
theorem run_SlaveVm_get {s : State Node Time} {ghost_vm : SlaveVmRow Node}
    (hghost_vm : s.db.slave_vm = some ghost_vm) : SlaveVm_get.run s = (.ok ghost_vm, s) := by
  simp [SlaveVm_get, Procedure.run_bind, hghost_vm]

omit [DecidableEq Node] in
theorem run_SlaveVm_get_none {s : State Node Time} (hghost_vm : s.db.slave_vm = none) :
    SlaveVm_get.run s = (.error (.error (.does_not_exist .SlaveVm)), s) := by
  simp [SlaveVm_get, Procedure.run_bind, hghost_vm]

omit [DecidableEq Node] in
theorem mem_points_SlaveVm_get {β : Type} {k : SlaveVmRow Node → Callback Node Time β} {s : State Node Time}
    {point : Point (State Node Time) Statement (Raised Failure) β} :
    point ∈ (SlaveVm_get >>= k).points s ↔ point = ⟨.get_slave_vm, .throw .operational, s⟩ ∨
      ∃ ghost_vm, s.db.slave_vm = some ghost_vm ∧ point ∈ (k ghost_vm).points s := by
  have hpoints : SlaveVm_get.points s = [⟨.get_slave_vm, .throw .operational, s⟩] := by
    cases hghost_vm : s.db.slave_vm <;> simp [SlaveVm_get, Procedure.points_bind, hghost_vm]
  rw [Procedure.mem_points_bind, hpoints]
  cases hghost_vm : s.db.slave_vm with
  | none => simp [run_SlaveVm_get_none hghost_vm, eq_comm]
  | some ghost_vm => simp [run_SlaveVm_get hghost_vm, eq_comm]

/-- The placeholder VM is gone. -/
def slave_vm_deleted (same_owner : Bool) (s : State Node Time) : Prop :=
  s.db.slave_vm = none ∧ s.same_owner = same_owner

/-- The statements before the placeholder VM is deleted, and the deletion. -/
def Statement.before_slave_vm_deleted (kind : Statement) : Prop :=
  kind = .get_slave_vm ∨ kind = .slave_vm_storages ∨ kind = .delete_slave_vm

/-- The failures that the second execution makes up for: all when the migration
has failed, else those before the placeholder VM is gone. -/
def vm_migrate_cb_retried (s : State Node Time) (kind : Statement) : Prop :=
  kind.before_slave_vm_deleted ∨ ¬ s.result.migrated

variable {same_owner : Bool}

theorem exposed_check_vnc_port {I : State Node Time → Prop} {K : Statement → Prop} (vm : VmRow Node Time)
    (ghost_vm : SlaveVmRow Node) (json_active : Json) :
    Exposed .operational I K (check_vnc_port vm ghost_vm json_active) := by
  unfold check_vnc_port
  split
  · refine Exposed.bind (exposed_getitem _ _) fun vnc_port => ?_
    split
    · exact Exposed.pure _ _ _ _
    · exact exposed_raise _
  · exact Exposed.pure _ _ _ _

theorem raises_check_vnc_port {R : Raised Failure → Prop} (hkey : R (.error (.key_error "vnc_port")))
    (hassertion : R (.error .assertion)) (vm : VmRow Node Time) (ghost_vm : SlaveVmRow Node)
    (json_active : Json) : Raises R (check_vnc_port vm ghost_vm json_active) := by
  unfold check_vnc_port
  split
  · refine Raises.bind (raises_getitem fun _ => hkey) fun vnc_port => ?_
    split
    · exact Raises.pure _ _
    · exact raises_raise hassertion
  · exact Raises.pure _ _

theorem exposed_save_migrated {K : Statement → Prop}
    (hK : ∀ kind, kind ∈ [Statement.save_vm, .save_storages, .save_nodes] → K kind) (vm : VmRow Node Time)
    (ghost_vm : SlaveVmRow Node) (json_active : Json) :
    Exposed .operational (slave_vm_deleted same_owner) K (save_migrated vm ghost_vm json_active) := by
  unfold save_migrated
  refine Exposed.bind (exposed_write (hK _ (by simp)) fun s hs => hs) fun _ => ?_
  refine Exposed.bind (exposed_select (hK _ (by simp)) _) fun _ => ?_
  split
  · exact exposed_select (hK _ (by simp)) _
  · exact Exposed.pure _ _ _ _

theorem raises_save_migrated {R : Raised Failure → Prop} (vm : VmRow Node Time) (ghost_vm : SlaveVmRow Node)
    (json_active : Json) : Raises R (save_migrated vm ghost_vm json_active) := by
  unfold save_migrated
  refine Raises.bind (raises_execute _ _) fun _ => ?_
  refine Raises.bind (raises_query _ _) fun _ => ?_
  split
  · exact raises_query _ _
  · exact Raises.pure _ _

theorem settles_vm_migrate_cb_done {K : Statement → Prop}
    (hK : ∀ kind, kind.logs = false → ¬ kind.before_slave_vm_deleted → K kind) (ghost_vm : SlaveVmRow Node) :
    Settles same_owner (slave_vm_deleted same_owner) K (vm_migrate_cb_done ghost_vm : Callback Node Time _) := by
  unfold vm_migrate_cb_done
  refine Settles.after (exposed_Vm_get (hK _ rfl (by simp [Statement.before_slave_vm_deleted]))) fun vm => ?_
  refine Settles.after (exposed_select (hK _ rfl (by simp [Statement.before_slave_vm_deleted])) _) fun _ => ?_
  refine Settles.after (exposed_pop_json fun s hs => hs) fun json => ?_
  refine Settles.after (exposed_load json) fun json_active => ?_
  refine Settles.after (exposed_check_vnc_port vm ghost_vm json_active) fun _ => ?_
  refine Settles.after (exposed_save_migrated ?_ vm ghost_vm json_active) fun _ => ?_
  · intro kind hkind
    simp only [List.mem_cons, List.not_mem_nil, or_false] at hkind
    rcases hkind with rfl | rfl | rfl <;> exact hK _ rfl (by simp [Statement.before_slave_vm_deleted])
  refine Settles.after (exposed_select (hK _ rfl (by simp [Statement.before_slave_vm_deleted])) _) fun _ => ?_
  refine Settles.after (exposed_select (hK _ rfl (by simp [Statement.before_slave_vm_deleted])) _) fun _ => ?_
  refine Settles.after exposed_get fun s => ?_
  refine Settles.bind (settles_task_log _ _ (fun s hs => hs) fun s hs => hs.2) (fun _ => blind_result) fun _ => ?_
  exact Settles.of_exposed (Exposed.bind exposed_get fun _ => Exposed.pure _ _ _ _)

theorem raises_vm_migrate_cb_done (ghost_vm : SlaveVmRow Node) :
    Raises (fun e => ¬ e = .error (.does_not_exist .SlaveVm))
      (vm_migrate_cb_done ghost_vm : Callback Node Time _) := by
  unfold vm_migrate_cb_done
  refine Raises.bind (raises_Vm_get _ (by simp)) fun vm => ?_
  refine Raises.bind (raises_query _ _) fun _ => ?_
  refine Raises.bind raises_pop_json fun json => ?_
  refine Raises.bind (raises_load (by simp)) fun json_active => ?_
  refine Raises.bind (raises_check_vnc_port (by simp) (by simp) vm ghost_vm json_active) fun _ => ?_
  refine Raises.bind (raises_save_migrated vm ghost_vm json_active) fun _ => ?_
  refine Raises.bind (raises_query _ _) fun _ => ?_
  refine Raises.bind (raises_query _ _) fun _ => ?_
  refine Raises.bind raises_get fun s => ?_
  refine Raises.bind (raises_task_log _ _) fun _ => ?_
  exact Raises.bind raises_get fun _ => Raises.pure _ _

omit [DecidableEq Node] in
theorem Db.save_status_revert_notready_twice {db : Db Node Time} {vm vm' : VmRow Node Time} (hvm : db.vm = some vm)
    (hvm' : (db.save_status (vms.models.Vm.get vm.store).revert_notready none).vm = some vm') :
    (db.save_status (vms.models.Vm.get vm.store).revert_notready none).save_status
        (vms.models.Vm.get vm'.store).revert_notready none =
      db.save_status (vms.models.Vm.get vm.store).revert_notready none := by
  rw [Db.save_status_of_vm hvm']
  rw [Db.save_status_of_vm hvm] at hvm' ⊢
  cases hvm'
  simp only [vms.models.Vm.revert_notready_get_save, vms.models.Vm.save_get]

/-- The run after a migration that has failed. -/
theorem run_vm_migrate_cb_of_failed {s : State Node Time} {ghost_vm : SlaveVmRow Node} {vm : VmRow Node Time}
    {returncode : Int} (hghost_vm : s.db.slave_vm = some ghost_vm) (hvm : s.db.vm = some vm)
    (hreturncode : s.result.returncode = some returncode) (hfailed : ¬ s.result.migrated) :
    vm_migrate_cb.run s = (.error (.error (.bad_return_code returncode (s.result.message.getD ""))),
      s.set_db fun db => { db.save_status (vms.models.Vm.get vm.store).revert_notready none with slave_vm := none }) := by
  have hbranch : ¬ (returncode = 0 ∧ s.result.message.getD "" ≠ "" ∧
      contains (s.result.message.getD "") "Successfully migrated" = true) := by
    rintro ⟨rfl, hmsg⟩
    exact hfailed ⟨hreturncode, hmsg⟩
  simp only [vm_migrate_cb, Procedure.run_bind, run_SlaveVm_get hghost_vm, run_get, hreturncode,
    run_getitem_some]
  rw [if_neg hbranch]
  simp only [Procedure.run_bind, run_Vm_get hvm, _vm_migrate_cb_failed, run_revert_notready]
  rfl

/-- When the migration has failed, the retry makes up for every failure, else for
those before the placeholder VM is gone. -/
theorem vm_migrate_cb_recovers_iff {s : State Node Time}
    {point : Point (State Node Time) Statement (Raised Failure) (Result Time)}
    (hpoint : point ∈ vm_migrate_cb.points s) :
    Recovers vm_migrate_cb s point ↔ point.kind.safe s (vm_migrate_cb_retried s) := by
  rw [vm_migrate_cb, mem_points_SlaveVm_get] at hpoint
  rcases hpoint with rfl | ⟨ghost_vm, hghost_vm, hpoint⟩
  · rw [recovers_of_raised fun _ => rfl]
    exact iff_of_true (Same.refl _ _) (.inl (by simp [Statement.before_slave_vm_deleted]))
  simp only [mem_points_get, mem_points_getitem] at hpoint
  obtain ⟨returncode, hreturncode, hpoint⟩ := hpoint
  split at hpoint
  · rename_i hmigrated
    have hrun : vm_migrate_cb.run s =
        (vm_migrate_cb_done ghost_vm).run (s.set_db fun db => { db with slave_vm := none }) := by
      simp only [vm_migrate_cb, Procedure.run_bind, run_SlaveVm_get hghost_vm, run_get, hreturncode,
        run_getitem_some]
      rw [if_pos hmigrated]
      rfl
    have hmigrated : s.result.migrated := by
      obtain ⟨hzero, hmsg⟩ := hmigrated
      subst hzero
      exact ⟨hreturncode, hmsg⟩
    rw [delete_slave_vm, mem_points_select, mem_points_write] at hpoint
    rcases hpoint with rfl | rfl | hpoint
    · rw [recovers_of_raised fun _ => rfl]
      exact iff_of_true (Same.refl _ _) (.inl (by simp [Statement.before_slave_vm_deleted]))
    · rw [recovers_of_raised fun _ => rfl]
      exact iff_of_true (Same.refl _ _) (.inl (by simp [Statement.before_slave_vm_deleted]))
    · have hdeleted : slave_vm_deleted s.same_owner (s.set_db fun db => { db with slave_vm := none }) := ⟨rfl, rfl⟩
      have hretry (state : State Node Time) (hstate : slave_vm_deleted s.same_owner state) :
          ∃ e, (vm_migrate_cb.run state).1 = .error e ∧ e = .error (.does_not_exist .SlaveVm) := by
        refine ⟨_, ?_, rfl⟩
        rw [vm_migrate_cb, Procedure.run_bind, run_SlaveVm_get_none hstate.1]
      have hkinds (kind : Statement) (hlogs : kind.logs = false) (hkind : ¬ kind.before_slave_vm_deleted) :
          kind.logs = false ∧ ¬ vm_migrate_cb_retried s kind :=
        ⟨hlogs, fun h => h.elim hkind fun hfailed => hfailed hmigrated⟩
      exact recovers_iff_of_settles (settles_vm_migrate_cb_done hkinds ghost_vm)
        (raises_vm_migrate_cb_done ghost_vm) hdeleted hrun hretry hpoint
  · rename_i hfailed
    have hmigrated : ¬ s.result.migrated := by
      rintro ⟨hzero, hmsg⟩
      rw [hreturncode] at hzero
      cases hzero
      exact hfailed ⟨rfl, hmsg⟩
    rw [mem_points_Vm_get] at hpoint
    rcases hpoint with rfl | ⟨vm, hvm, hpoint⟩
    · rw [recovers_of_raised fun _ => rfl]
      exact iff_of_true (Same.refl _ _) (.inr hmigrated)
    rw [_vm_migrate_cb_failed, revert_notready, save_status, delete_slave_vm, Procedure.bind_assoc,
      mem_points_write, mem_points_write] at hpoint
    rcases hpoint with rfl | rfl | hpoint
    · rw [recovers_of_raised fun _ => rfl]
      exact iff_of_true (Same.refl _ _) (.inr hmigrated)
    · rw [recovers_of_raised fun _ => rfl]
      refine iff_of_true ?_ (.inr hmigrated)
      have hvm' := congrArg Db.vm (Db.save_status_of_vm hvm (vms.models.Vm.get vm.store).revert_notready none)
      have hrun := run_vm_migrate_cb_of_failed hghost_vm hvm hreturncode hmigrated
      have hrun' := run_vm_migrate_cb_of_failed
        (s := s.set_db (Db.save_status (vms.models.Vm.get vm.store).revert_notready none))
        hghost_vm hvm' hreturncode hmigrated
      rw [Same, hrun, hrun']
      refine ⟨rfl, ?_⟩
      simp only [State.set_db_db]
      rw [Db.save_status_revert_notready_twice hvm hvm']
    · cases hpoint

end api.callbacks
