import Esdc.Api.Vm.Operations

namespace api.vm.operations

open que.mgmt api.callbacks
open Procedure (Exposed Keeps)
open vms.models (Status StatusStore)
open vms.definition (Json)

variable {Node Time : Type}

/-- The statuses that have a NOTREADY status of their own. -/
def reverts (status : Status) : Bool :=
  status = .STOPPED ∨ status = .RUNNING ∨ status = .FROZEN ∨ status = .NOTCREATED

/-- A view reverts what a callback would have reverted. -/
theorem view_reverted_eq (store : StatusStore Time) :
    view_reverted store = callback_reverted (notready store) := by
  rw [view_reverted, callback_reverted, notready, vms.models.Vm.get_save]

theorem notready_is_notready (store : StatusStore Time) : (notready store).status.is_notready = true := by
  rw [notready, vms.models.Vm.save_status]
  exact vms.models.Vm.set_notready_is_notready _

theorem callback_reverted_notready_status (store : StatusStore Time) :
    (callback_reverted (notready store)).status =
      if reverts store.status then store.status else .NOTREADY := by
  rw [callback_reverted, vms.models.Vm.save_status, vms.models.Vm.revert_notready, vms.models.Vm.get]
  dsimp only
  rw [notready, vms.models.Vm.save_status, vms.models.Vm.set_notready, vms.models.Vm.get]
  dsimp only
  cases store.status <;> rfl

/-- The VM is not in a NOTREADY status, but in the one of the operation or in its old one. -/
def Restored (new_status : Option Status) (before after : StatusStore Time) : Prop :=
  after.status.is_notready = false ∧ after.status = new_status.getD before.status

theorem restored_callback_reverted_iff {store : StatusStore Time} :
    Restored none store (callback_reverted (notready store)) ↔ reverts store.status := by
  rw [Restored, callback_reverted_notready_status, Option.getD_none]
  cases store.status <;> decide

theorem restored_view_reverted_iff {store : StatusStore Time} :
    Restored none store (view_reverted store) ↔ reverts store.status := by
  rw [view_reverted_eq, restored_callback_reverted_iff]

theorem not_restored_notready {new_status : Option Status} {store : StatusStore Time} :
    ¬ Restored new_status store (notready store) := by
  rintro ⟨hnotready, _⟩
  rw [notready_is_notready] at hnotready
  cases hnotready

section callbacks

variable {s : State Node Time} {row : VmRow Node Time}

/-- The status fields of the VM. -/
def HasStore (store : StatusStore Time) (s : State Node Time) : Prop := s.db.vm.map VmRow.store = some store

theorem HasStore.set_db {store : StatusStore Time} {effect : Db Node Time → Db Node Time}
    (heffect : ∀ db, (effect db).vm.map VmRow.store = db.vm.map VmRow.store) (s : State Node Time)
    (hs : HasStore store s) : HasStore store (s.set_db effect) := by
  rw [HasStore, State.set_db_db, heffect]
  exact hs

theorem Db.update_vm_store {f : VmRow Node Time → VmRow Node Time} (hf : ∀ row, (f row).store = row.store)
    (db : Db Node Time) : (db.update_vm f).vm.map VmRow.store = db.vm.map VmRow.store := by
  rw [Db.update_vm, Option.map_map]
  congr 1
  funext row
  exact hf row

theorem logged_vm {α : Type} (outcome : Except (Raised Failure) α) (db : Db Node Time) :
    (logged outcome db).vm = db.vm := by
  unfold logged
  split
  · rfl
  · rfl

theorem HasStore.callback {α : Type} {body : Callback Node Time α} {store : StatusStore Time}
    (hbody : HasStore store (body.run s).2) : HasStore store ((callback body).run s).2 := by
  rw [HasStore, run_callback_db, logged_vm]
  exact hbody

theorem hasStore_set_status {db : Db Node Time} (hvm : db.vm = some row) (vm : vms.models.Vm Time) :
    (db.save_status vm none).vm.map VmRow.store = some (vm.save none row.store) := by
  rw [Db.save_status_of_vm hvm, Option.map_some]

theorem keeps_hasStore_task_log (store : StatusStore Time) (kind : LogKind) (entry : LogEntry Time) :
    Keeps (HasStore store) (task_log kind entry : Callback Node Time Unit) := by
  intro s hs
  rw [run_task_log]
  exact hs

/-- The end of every callback. -/
theorem keeps_hasStore_logged (store : StatusStore Time) (kind : LogKind) (entry : LogEntry Time) :
    Keeps (HasStore store) (do
      task_log kind entry
      return (← get).result : Callback Node Time (Result Time)) :=
  (keeps_hasStore_task_log store kind entry).bind fun _ _ hs => hs

variable [DecidableEq Node]

theorem exposed_hasStore_vm_update_cb_save (store : StatusStore Time) (vm : VmRow Node Time)
    (json_active : Json) (new_node_uuid : Option Node) :
    Exposed .operational (HasStore store) (fun _ => True) (vm_update_cb_save vm json_active new_node_uuid) := by
  unfold vm_update_cb_save
  cases new_node_uuid with
  | none => exact exposed_write trivial (HasStore.set_db (Db.update_vm_store fun _ => rfl))
  | some new_node_uuid =>
    refine Exposed.bind (exposed_getitem _ _) fun update_dict => ?_
    dsimp only
    split
    · exact exposed_raise _
    · refine Exposed.bind (exposed_select trivial _) fun exists_ => ?_
      split
      · refine Exposed.bind (exposed_write trivial (HasStore.set_db (Db.update_vm_store fun _ => rfl)))
          fun _ => ?_
        refine Exposed.bind (exposed_select trivial _) fun _ => ?_
        exact exposed_modify fun s hs => hs
      · exact exposed_raise _

theorem keeps_hasStore_vm_update_cb_done (store : StatusStore Time) (vm : VmRow Node Time)
    (json : Option (Option Json)) (new_node_uuid : Option Node) :
    Keeps (HasStore store) (vm_update_cb_done vm json new_node_uuid) := by
  unfold vm_update_cb_done
  refine Keeps.bind (exposed_load (K := fun _ => True) json).keeps fun json_active => ?_
  refine Keeps.bind (exposed_vm_delete_snapshots_of_removed_disks
    (fun s effect heffect => HasStore.set_db (fun db => by rw [heffect]) s) (fun _ _ => trivial) vm).keeps fun _ => ?_
  refine Keeps.bind (exposed_hasStore_vm_update_cb_save store vm json_active new_node_uuid).keeps fun _ => ?_
  exact Keeps.bind (fun _ hs => hs) fun _ => keeps_hasStore_logged _ _ _

/-- `vm_update_cb` reverts the status before anything else. -/
theorem vm_update_cb_store (hvm : s.db.vm = some row) (new_node_uuid : Option Node) :
    HasStore (callback_reverted row.store) ((callback (vm_update_cb new_node_uuid)).run s).2 := by
  apply HasStore.callback
  have hreverted : HasStore (callback_reverted row.store)
      (s.set_db (Db.save_status (vms.models.Vm.get row.store).revert_notready none)) :=
    hasStore_set_status hvm _
  have hrest : Keeps (HasStore (callback_reverted row.store)) (do
      let result := (← get).result
      let msg := result.message.getD ""
      let returncode ← getitem result.returncode "returncode"
      if returncode = 0 ∧ (result.meta_.force || contains msg "Successfully updated") then
        let json ← pop_json
        vm_update_cb_done row json new_node_uuid
      else raise (.bad_return_code returncode msg) : Callback Node Time (Result Time)) := by
    refine Keeps.bind (fun _ hs => hs) fun s => ?_
    refine Keeps.bind (exposed_getitem (K := fun _ => True) _ _).keeps fun returncode => ?_
    split
    · refine Keeps.bind (exposed_pop_json (K := fun _ => True) fun s hs => hs).keeps fun json => ?_
      exact keeps_hasStore_vm_update_cb_done _ _ _ _
    · exact fun _ hs => hs
  have hkeeps := hrest _ hreverted
  rw [vm_update_cb, Procedure.run_bind, run_Vm_get hvm]
  dsimp only
  rw [Procedure.run_bind, run_revert_notready]
  exact hkeeps

/-- The VNC port of an HVM on its new node is not the one that has been reserved. -/
def vnc_port_differs (vm : VmRow Node Time) (ghost_vm : SlaveVmRow Node) (json_active : Json) : Prop :=
  vm.node ≠ ghost_vm.node ∧ vm.hvm ∧ json_active.items.lookup "vnc_port" ≠ some ghost_vm.vnc_port

theorem run_check_vnc_port {vm : VmRow Node Time} {ghost_vm : SlaveVmRow Node} {json_active : Json}
    (hport : ¬ vnc_port_differs vm ghost_vm json_active) (s : State Node Time) :
    (check_vnc_port vm ghost_vm json_active).run s = (.ok (), s) := by
  rw [check_vnc_port]
  split
  · rename_i hchanged
    have hlookup : json_active.items.lookup "vnc_port" = some ghost_vm.vnc_port := by
      by_contra hdiffers
      exact hport ⟨hchanged.1, hchanged.2, hdiffers⟩
    simp [Procedure.run_bind, hlookup]
  · rfl

theorem run_check_vnc_port_differs {vm : VmRow Node Time} {ghost_vm : SlaveVmRow Node} {json_active : Json}
    (hport : vnc_port_differs vm ghost_vm json_active) (s : State Node Time) :
    ∃ e, (check_vnc_port vm ghost_vm json_active).run s = (.error e, s) := by
  obtain ⟨hnode, hhvm, hlookup⟩ := hport
  rw [check_vnc_port, if_pos ⟨hnode, hhvm⟩]
  cases hvalue : json_active.items.lookup "vnc_port" with
  | none => exact ⟨.error (.key_error "vnc_port"), by simp [Procedure.run_bind]⟩
  | some vnc_port =>
    have hne : ghost_vm.vnc_port ≠ vnc_port := by
      rintro rfl
      exact hlookup hvalue
    exact ⟨.error .assertion, by simp [Procedure.run_bind, hne]⟩

/-- What `vm_migrate_cb` saves after the definition has been loaded. -/
theorem save_migrated_store (hvm : s.db.vm = some row) (ghost_vm : SlaveVmRow Node) (json_active : Json) :
    HasStore (callback_reverted row.store) ((save_migrated row ghost_vm json_active).run s).2 := by
  rw [save_migrated]
  have hsaved : HasStore (callback_reverted row.store) (s.set_db fun db => db.update_vm fun row' =>
      { row' with
        store := (vms.models.Vm.get row.store).revert_notready.save none row'.store
        json := json_active
        json_active
        node := ghost_vm.node }) := by
    rw [HasStore, State.set_db_db, Db.update_vm, hvm]
    rfl
  have hrest : Exposed .operational (HasStore (callback_reverted row.store)) (fun _ => True) (do
      select .save_storages fun _ => ()
      if row.node ≠ ghost_vm.node then select .save_nodes fun _ => () else pure () : Callback Node Time Unit) := by
    refine Exposed.bind (exposed_select trivial _) fun _ => ?_
    split
    · exact exposed_select trivial _
    · exact Exposed.pure _ _ _ _
  have hkeeps := hrest.keeps _ hsaved
  rw [Procedure.run_bind, run_write]
  exact hkeeps

/-- The definition on the new node can be used. -/
def definition_loads (vm : VmRow Node Time) (ghost_vm : SlaveVmRow Node) (json : Option Json) : Prop :=
  ∃ json_active, json = some json_active ∧ ¬ vnc_port_differs vm ghost_vm json_active

theorem vm_migrate_cb_done_store (hvm : s.db.vm = some row) (ghost_vm : SlaveVmRow Node) {json : Option Json}
    (hjson : s.result.json = some json) :
    HasStore (open Classical in if definition_loads row ghost_vm json then callback_reverted row.store
      else row.store) ((vm_migrate_cb_done ghost_vm).run s).2 := by
  have hrow : HasStore row.store s := by rw [HasStore, hvm, Option.map_some]
  rw [vm_migrate_cb_done, Procedure.run_bind, run_Vm_get hvm]
  dsimp only
  rw [Procedure.run_bind, run_select]
  dsimp only
  rw [Procedure.run_bind, run_pop_json, hjson]
  dsimp only
  cases json with
  | none =>
    rw [if_neg (by rintro ⟨_, hnone, _⟩; cases hnone), Procedure.run_bind]
    exact hrow
  | some json_active =>
    rw [Procedure.run_bind, run_load_some]
    dsimp only
    rw [Procedure.run_bind]
    by_cases hport : vnc_port_differs row ghost_vm json_active
    · rw [if_neg (by rintro ⟨_, hjson, hloads⟩; cases hjson; exact hloads hport)]
      obtain ⟨e, herror⟩ := run_check_vnc_port_differs hport s.pop_json
      rw [herror]
      exact hrow
    · rw [if_pos ⟨json_active, rfl, hport⟩, run_check_vnc_port hport]
      dsimp only
      have hsaved := save_migrated_store (s := s.pop_json) hvm ghost_vm json_active
      have hrest : Keeps (HasStore (callback_reverted row.store)) (do
          select .switch_snapshots fun _ => ()
          select .node_changed fun _ => ()
          task_log .success (.success ((← get).result.message.getD ""))
          return (← get).result : Callback Node Time (Result Time)) := by
        refine Keeps.bind (fun _ hs => hs) fun _ => ?_
        refine Keeps.bind (fun _ hs => hs) fun _ => ?_
        exact Keeps.bind (fun _ hs => hs) fun _ => keeps_hasStore_logged _ _ _
      rw [Procedure.run_bind]
      cases hrun : (save_migrated row ghost_vm json_active).run s.pop_json with
      | mk outcome s' =>
        rw [hrun] at hsaved
        cases outcome with
        | ok _ => exact hrest _ hsaved
        | error e => exact hsaved

/-- `vm_migrate_cb` reverts the status only after the definition has been loaded. -/
theorem vm_migrate_cb_store (hvm : s.db.vm = some row) {ghost_vm : SlaveVmRow Node}
    (hghost_vm : s.db.slave_vm = some ghost_vm) {returncode : Int}
    (hreturncode : s.result.returncode = some returncode) {json : Option Json}
    (hjson : s.result.json = some json) :
    HasStore (open Classical in
      if s.result.migrated ∧ ¬ definition_loads row ghost_vm json then row.store
      else callback_reverted row.store) ((callback vm_migrate_cb).run s).2 := by
  apply HasStore.callback
  by_cases hmigrated : s.result.migrated
  · obtain ⟨hzero, hmsg⟩ := hmigrated
    obtain rfl : returncode = 0 := by
      rw [hreturncode] at hzero
      exact Option.some.inj hzero
    have hrun : vm_migrate_cb.run s =
        (vm_migrate_cb_done ghost_vm).run (s.set_db fun db => { db with slave_vm := none }) := by
      simp only [vm_migrate_cb, Procedure.run_bind, run_SlaveVm_get hghost_vm, run_get, hreturncode,
        run_getitem_some, true_and]
      rw [if_pos hmsg]
      rfl
    have hdone := vm_migrate_cb_done_store (s := s.set_db fun db => { db with slave_vm := none })
      hvm ghost_vm hjson
    rw [hrun]
    by_cases hloads : definition_loads row ghost_vm json
    · rw [if_pos hloads] at hdone
      rw [if_neg fun h => h.2 hloads]
      exact hdone
    · rw [if_neg hloads] at hdone
      rw [if_pos ⟨⟨hreturncode, hmsg⟩, hloads⟩]
      exact hdone
  · rw [if_neg fun h => hmigrated h.1, run_vm_migrate_cb_of_failed hghost_vm hvm hreturncode hmigrated]
    exact hasStore_set_status hvm _

end callbacks

section delete

variable {s : State Node Time} {row : VmRow Node Time}

/-- The VM is no longer on its node, or the task says so. -/
def deleted (vm : VmRow Node Time) (output : Output Time) : Bool :=
  (output.returncode = 0 ∧ startswith output.message "Successfully deleted") ∨ is_vm_missing vm output.message

/-- The status fields of a VM that has been deleted. -/
def notcreated (store : StatusStore Time) : StatusStore Time :=
  { vms.models.Vm.get store with status := .NOTCREATED }.save none store

theorem notcreated_status (store : StatusStore Time) : (notcreated store).status = .NOTCREATED :=
  vms.models.Vm.save_status _ _ _

theorem vm_delete_cb_succeeded_store (hvm : s.db.vm = some row) :
    HasStore (notcreated row.store) ((_vm_delete_cb_succeeded row).run s).2 := by
  have hsaved : HasStore (notcreated row.store) (s.set_db fun db => db.update_vm (VmRow.deleted row)) := by
    rw [HasStore, State.set_db_db, Db.update_vm, hvm]
    rfl
  exact hsaved

theorem vm_delete_cb_store (hvm : s.db.vm = some row) {output : Output Time} (hresult : s.result = output.result) :
    HasStore (if deleted row output then notcreated row.store else callback_reverted row.store)
      ((callback vm_delete_cb).run s).2 := by
  apply HasStore.callback
  have hrun : vm_delete_cb.run s = (if output.returncode = 0 ∧ startswith output.message "Successfully deleted" then do
        _vm_delete_cb_succeeded row
        task_log .success (.success output.message)
        return (← get).result
      else do
        vm_delete_cb_failed row output.message
        raise (.bad_return_code output.returncode output.message) : Callback Node Time (Result Time)).run s := by
    rw [vm_delete_cb, Procedure.run_bind, run_Vm_get hvm]
    dsimp only
    rw [Procedure.run_bind, run_get]
    dsimp only
    rw [hresult]
    rfl
  rw [hrun]
  by_cases hsuccess : output.returncode = 0 ∧ startswith output.message "Successfully deleted"
  · rw [if_pos hsuccess, if_pos (by rw [deleted]; exact decide_eq_true (.inl hsuccess))]
    exact keeps_hasStore_logged _ _ _ _ (vm_delete_cb_succeeded_store hvm)
  · rw [if_neg hsuccess, Procedure.run_bind, vm_delete_cb_failed]
    by_cases hmissing : is_vm_missing row output.message
    · rw [if_pos hmissing, if_pos (by rw [deleted]; exact decide_eq_true (.inr hmissing))]
      exact vm_delete_cb_succeeded_store hvm
    · rw [if_neg hmissing, if_neg (by simp [deleted, hsuccess, hmissing])]
      exact hasStore_set_status hvm _

end delete

/-- The status that the operation itself gives to the VM. -/
def Operation.new_status (op : Operation Node Time) (vm : VmRow Node Time) : Option Status :=
  match op with
  | .vm_delete (.result output) => if deleted vm output then some .NOTCREATED else none
  | _ => none

/-- An exception is raised after the status has been set and before it is reverted. -/
def Operation.Interrupted (op : Operation Node Time) (vm : VmRow Node Time) : Prop :=
  match op with
  | .vm_migrate ghost_vm (.result output) => output.result.migrated ∧ ¬ definition_loads vm ghost_vm output.json
  | .vm_snapshot .exception => True
  | .vm_replica (.result result) => ∀ jsons, replica._parse_vm_replica_result result .first ≠ .ok jsons
  | .vm_replica_failover (.result result) => ∀ jsons service_state,
      replica._parse_vm_replica_result result .last = .ok jsons →
        replica._save_svc_state jsons ≠ .ok service_state
  | _ => False

variable [DecidableEq Node] {op : Operation Node Time} {vms : Vms Node Time} {vm : VmRow Node Time}

/-- When the operation is over, the VMs whose status it has set are not in a
NOTREADY status, but in the one before, or in that of the operation itself. -/
def Operation.Restores (op : Operation Node Time) (vms : Vms Node Time) (vm : VmRow Node Time) : Prop :=
  (∃ after, (op.run vms).db.vm.map VmRow.store = some after ∧ Restored (op.new_status vm) vm.store after) ∧
    ∀ before, op.snap_vm vms = some before →
      ∃ after, (op.run vms).snap_vm = some after ∧ Restored none before after

theorem restores_iff_of_store {after : StatusStore Time} (hsnap_vm : op.snap_vm vms = none)
    (hafter : (op.run vms).db.vm.map VmRow.store = some after) :
    op.Restores vms vm ↔ Restored (op.new_status vm) vm.store after := by
  rw [Operation.Restores, hafter, hsnap_vm]
  simp

omit [DecidableEq Node] in
theorem update_store (hvm : vms.db.vm = some vm) (f : StatusStore Time → StatusStore Time) :
    (vms.update f).db.vm = some { vm with store := f vm.store } := by
  rw [Vms.update, Db.update_vm, hvm, Option.map_some]

omit [DecidableEq Node] in
theorem reverts_of_operational (hsnap_vm : ∀ task, op ≠ .vm_snapshot task)
    (hfailover : ∀ task, op ≠ .vm_replica_failover task)
    (hoperational : op.operational vms vm.store.status = true) : reverts vm.store.status = true := by
  cases op with
  | vm_snapshot task => exact absurd rfl (hsnap_vm task)
  | vm_replica_failover task => exact absurd rfl (hfailover task)
  | vm_update new_node_uuid task =>
    rcases of_decide_eq_true hoperational with hstatus | hstatus <;> rw [hstatus] <;> rfl
  | vm_delete task =>
    rcases of_decide_eq_true hoperational with hstatus | hstatus <;> rw [hstatus] <;> rfl
  | vm_migrate ghost_vm task =>
    rcases of_decide_eq_true hoperational with hstatus | hstatus <;> rw [hstatus] <;> rfl
  | vm_replica task =>
    rcases of_decide_eq_true hoperational with hstatus | hstatus <;> rw [hstatus] <;> rfl

/-- A view with a `finally` block reverts the status when the task is not run. -/
theorem restores_iff_of_not_run (hvm : vms.db.vm = some vm) (hsnap_vm : op.snap_vm vms = none)
    (hnew_status : op.new_status vm = none) (hrun : op.run vms = vms.update view_reverted) :
    op.Restores vms vm ↔ reverts vm.store.status := by
  have hstore : (op.run vms).db.vm.map VmRow.store = some (view_reverted vm.store) := by
    rw [hrun, update_store hvm, Option.map_some]
  rw [restores_iff_of_store hsnap_vm hstore, hnew_status]
  exact restored_view_reverted_iff

theorem vm_update_restores_iff (hvm : vms.db.vm = some vm) (new_node_uuid : Option Node)
    (task : Task (Output Time)) :
    (Operation.vm_update new_node_uuid task).Restores vms vm ↔ reverts vm.store.status := by
  cases task with
  | error =>
    exact restores_iff_of_not_run hvm rfl rfl rfl
  | exception =>
    exact restores_iff_of_not_run hvm rfl rfl rfl
  | result output =>
    have hstore : ((Operation.vm_update new_node_uuid (.result output)).run vms).db.vm.map VmRow.store =
        some (callback_reverted (notready vm.store)) := vm_update_cb_store
      (s := ⟨(vms.update notready).db, output.result, vms.super_admins, vms.same_owner⟩) (update_store hvm notready)
      new_node_uuid
    rw [restores_iff_of_store rfl hstore]
    exact restored_callback_reverted_iff

theorem vm_delete_restores_iff (hvm : vms.db.vm = some vm) (task : Task (Output Time))
    (hreverts : reverts vm.store.status) : (Operation.vm_delete task : Operation Node Time).Restores vms vm := by
  cases task with
  | error =>
    exact (restores_iff_of_not_run hvm rfl rfl rfl).mpr hreverts
  | exception =>
    exact (restores_iff_of_not_run hvm rfl rfl rfl).mpr hreverts
  | result output =>
    have hstore : ((Operation.vm_delete (.result output)).run vms).db.vm.map VmRow.store =
        some (if deleted vm output then notcreated (notready vm.store)
          else callback_reverted (notready vm.store)) := vm_delete_cb_store
      (s := ⟨(vms.update notready).db, output.result, vms.super_admins, vms.same_owner⟩) (update_store hvm notready) rfl
    rw [restores_iff_of_store rfl hstore, Operation.new_status]
    by_cases hdeleted : deleted vm output = true
    · rw [if_pos hdeleted, if_pos hdeleted, Restored, notcreated_status]
      exact ⟨rfl, rfl⟩
    · rw [if_neg hdeleted, if_neg hdeleted]
      exact restored_callback_reverted_iff.mpr hreverts

theorem vm_migrate_restores_iff (hvm : vms.db.vm = some vm) (ghost_vm : SlaveVmRow Node)
    (task : Task (Output Time)) :
    (Operation.vm_migrate ghost_vm task).Restores vms vm ↔
      reverts vm.store.status ∧ ¬ (Operation.vm_migrate ghost_vm task).Interrupted vm := by
  cases task with
  | error =>
    exact (restores_iff_of_not_run hvm rfl rfl rfl).trans (by simp [Operation.Interrupted])
  | exception =>
    exact (restores_iff_of_not_run hvm rfl rfl rfl).trans (by simp [Operation.Interrupted])
  | result output =>
    have hstore : ((Operation.vm_migrate ghost_vm (.result output)).run vms).db.vm.map VmRow.store =
        some (open Classical in if output.result.migrated ∧ ¬ definition_loads vm ghost_vm output.json then
          notready vm.store else callback_reverted (notready vm.store)) := vm_migrate_cb_store
      (s := ⟨((vms.update notready).set_slave_vm ghost_vm).db, output.result, vms.super_admins, vms.same_owner⟩)
      (update_store hvm notready) rfl rfl rfl
    rw [restores_iff_of_store rfl hstore]
    change Restored none vm.store _ ↔ _ ∧ ¬ (output.result.migrated ∧ ¬ definition_loads vm ghost_vm output.json)
    by_cases hinterrupted : output.result.migrated ∧ ¬ definition_loads vm ghost_vm output.json
    · rw [if_pos hinterrupted]
      exact iff_of_false not_restored_notready fun h => h.2 hinterrupted
    · rw [if_neg hinterrupted, restored_callback_reverted_iff]
      exact (and_iff_left hinterrupted).symm

theorem vm_snapshot_restores_iff (hvm : vms.db.vm = some vm) (task : Task Int) :
    (Operation.vm_snapshot task : Operation Node Time).Restores vms vm ↔ reverts vm.store.status ∧
      (∀ before, vms.snap_vm = some before → reverts before.status) ∧
        ¬ (Operation.vm_snapshot task : Operation Node Time).Interrupted vm := by
  have hreverted (f : StatusStore Time → StatusStore Time)
      (hf : ∀ store, Restored none store (f store) ↔ reverts store.status)
      (hrun : (Operation.vm_snapshot task : Operation Node Time).run vms = vms.update_both f) :
      (Operation.vm_snapshot task : Operation Node Time).Restores vms vm ↔ reverts vm.store.status ∧
        ∀ before, vms.snap_vm = some before → reverts before.status := by
    rw [Operation.Restores, hrun]
    have hstore : (vms.update_both f).db.vm.map VmRow.store = some (f vm.store) := by
      change (vms.update f).db.vm.map VmRow.store = _
      rw [update_store hvm, Option.map_some]
    rw [hstore]
    apply and_congr
    · simp [Operation.new_status, hf]
    · apply forall_congr'
      intro before
      apply imp_congr_right
      intro (hbefore : vms.snap_vm = some before)
      have hsnap_vm : (vms.update_both f).snap_vm = some (f before) := by
        rw [Vms.update_both, hbefore, Option.map_some]
      rw [hsnap_vm]
      simp [hf]
  cases task with
  | error => simpa [Operation.Interrupted] using hreverted view_reverted (fun _ => restored_view_reverted_iff) rfl
  | exception =>
    refine iff_of_false ?_ fun hrestores => hrestores.2.2 trivial
    rintro ⟨⟨after, hafter, hrestored⟩, _⟩
    have hstore : (vms.update_both notready).db.vm.map VmRow.store = some (notready vm.store) := by
      change (vms.update notready).db.vm.map VmRow.store = _
      rw [update_store hvm, Option.map_some]
    obtain rfl : notready vm.store = after := Option.some.inj (hstore.symm.trans hafter)
    exact not_restored_notready hrestored
  | result returncode =>
    have hrun : (Operation.vm_snapshot (.result returncode) : Operation Node Time).run vms =
        vms.update_both fun store => callback_reverted (notready store) := by
      have hboth : (vms.update_both notready).update_both callback_reverted =
          vms.update_both fun store => callback_reverted (notready store) := by
        simp only [Vms.update_both, Vms.update, Db.update_vm, Option.map_map]
        rfl
      rw [Operation.run, vm_snapshot_put, vm_snapshot_cb, _vm_snapshot_cb_failed]
      split
      · exact hboth
      · exact hboth
    simpa [Operation.Interrupted] using hreverted _ (fun _ => restored_callback_reverted_iff) hrun

theorem vm_replica_restores_iff (hvm : vms.db.vm = some vm) (task : Task replica.Result) :
    (Operation.vm_replica task : Operation Node Time).Restores vms vm ↔
      reverts vm.store.status ∧ ¬ (Operation.vm_replica task : Operation Node Time).Interrupted vm := by
  cases task with
  | error =>
    exact (restores_iff_of_not_run hvm rfl rfl rfl).trans (by simp [Operation.Interrupted])
  | exception =>
    exact (restores_iff_of_not_run hvm rfl rfl rfl).trans (by simp [Operation.Interrupted])
  | result result =>
    have hstore : ((Operation.vm_replica (.result result) : Operation Node Time).run vms).db.vm.map VmRow.store =
        some (replica.vm_replica_cb result (notready vm.store)) := by
      rw [Operation.run, run_finally, update_store (update_store hvm notready), Option.map_some]
    rw [restores_iff_of_store rfl hstore, replica.vm_replica_cb]
    change Restored none vm.store _ ↔ _ ∧ ¬ ∀ jsons, replica._parse_vm_replica_result result .first ≠ .ok jsons
    cases hparse : replica._parse_vm_replica_result result .first with
    | error e => exact iff_of_false not_restored_notready fun h => h.2 (by simp)
    | ok jsons =>
      have hparsed : ¬ ∀ jsons', (Except.ok jsons : Except replica.Error _) ≠ .ok jsons' := fun h => h jsons rfl
      exact restored_callback_reverted_iff.trans (and_iff_left hparsed).symm

theorem vm_replica_failover_restores_iff (hvm : vms.db.vm = some vm) (task : Task replica.Result) :
    (Operation.vm_replica_failover task : Operation Node Time).Restores vms vm ↔
      reverts vm.store.status ∧ ¬ (Operation.vm_replica_failover task : Operation Node Time).Interrupted vm := by
  cases task with
  | error =>
    exact (restores_iff_of_not_run hvm rfl rfl rfl).trans (by simp [Operation.Interrupted])
  | exception =>
    exact (restores_iff_of_not_run hvm rfl rfl rfl).trans (by simp [Operation.Interrupted])
  | result result =>
    have hstore : ((Operation.vm_replica_failover (.result result) : Operation Node Time).run vms).db.vm.map
        VmRow.store = some (replica.vm_replica_failover_cb result (notready vm.store)) := by
      rw [Operation.run, run_finally, update_store (update_store hvm notready), Option.map_some]
    rw [restores_iff_of_store rfl hstore, replica.vm_replica_failover_cb]
    change Restored none vm.store _ ↔ _ ∧ ¬ ∀ jsons service_state,
      replica._parse_vm_replica_result result .last = .ok jsons →
        replica._save_svc_state jsons ≠ .ok service_state
    cases hparse : replica._parse_vm_replica_result result .last with
    | error e => exact iff_of_false not_restored_notready fun h => h.2 (by simp)
    | ok jsons =>
      dsimp only
      cases hstate : replica._save_svc_state jsons with
      | error e =>
        refine iff_of_false not_restored_notready fun h => h.2 ?_
        intro jsons' service_state hjsons
        cases hjsons
        simp [hstate]
      | ok service_state =>
        have hsaved : ¬ ∀ jsons' state, (Except.ok jsons : Except replica.Error _) = .ok jsons' →
            replica._save_svc_state jsons' ≠ .ok state := fun h => h jsons service_state rfl hstate
        rw [and_iff_left hsaved, replica.fail_over, ite_self]
        exact restored_callback_reverted_iff

omit [DecidableEq Node] in
/-- The callbacks of replicas are not interrupted by what `esrep` itself writes. -/
theorem not_interrupted_of_wellFormed {result : replica.Result} (hwf : result.WellFormed) :
    ¬ (Operation.vm_replica (.result result) : Operation Node Time).Interrupted vm ∧
      ¬ (Operation.vm_replica_failover (.result result) : Operation Node Time).Interrupted vm := by
  refine ⟨fun hinterrupted => hinterrupted _ (hwf.parse .first), fun hinterrupted => ?_⟩
  have hjsons : ∀ out ∈ result.jsons.getD [], out.WellFormed := by
    cases hjsons : result.jsons with
    | none => simp
    | some jsons => exact hwf jsons hjsons
  obtain ⟨service_state, hstate⟩ := replica.save_svc_state_wellFormed hjsons
  exact hinterrupted _ service_state (hwf.parse .last) hstate

/-- After the operation the VMs have their old statuses, or the one that the
operation gives, if and only if the old statuses have NOTREADY statuses of their
own and no exception is raised before the statuses are reverted. -/
theorem restores_iff (hvm : vms.db.vm = some vm) (hoperational : op.operational vms vm.store.status = true) :
    op.Restores vms vm ↔ reverts vm.store.status = true ∧
      (∀ before, op.snap_vm vms = some before → reverts before.status = true) ∧ ¬ op.Interrupted vm := by
  cases op with
  | vm_update new_node_uuid task =>
    rw [vm_update_restores_iff hvm]
    simp [Operation.snap_vm, Operation.Interrupted]
  | vm_delete task =>
    have hreverts := reverts_of_operational (by simp) (by simp) hoperational
    refine iff_of_true (vm_delete_restores_iff hvm task hreverts) ?_
    simp [Operation.snap_vm, Operation.Interrupted, hreverts]
  | vm_migrate ghost_vm task =>
    rw [vm_migrate_restores_iff hvm]
    simp [Operation.snap_vm]
  | vm_snapshot task => exact vm_snapshot_restores_iff hvm task
  | vm_replica task =>
    rw [vm_replica_restores_iff hvm]
    simp [Operation.snap_vm]
  | vm_replica_failover task =>
    rw [vm_replica_failover_restores_iff hvm]
    simp [Operation.snap_vm]

section witness

def running : VmRow Unit Nat where
  hostname := "vm"
  store := ⟨.RUNNING, none, some .RUNNING, none⟩
  node := ()
  hvm := true
  slavevm := false
  json := ⟨∅, fun _ => none, [], []⟩
  json_active := ⟨∅, fun _ => none, [], []⟩
  template := none

def running_vms : Vms Unit Nat where
  db :=
    { vm := some running, slave_vm := none, nodes := [], snapshots := [], snapshot_defines := []
      backup_defines := [], last_backups := [], task_log := [] }
  snap_vm := none
  super_admins := true
  same_owner := true

/-- A migration to another storage of the node, without a definition in the output. -/
def migrated_without_json : Operation Unit Nat :=
  .vm_migrate ⟨(), .int 5900⟩ (.result
    { returncode := 0, message := "Successfully migrated", json := none
      meta_ :=
        { force := false, recreate := false, update := false, freeze := false, last_status := .RUNNING
          exec_time := none, finish_time := none } })

theorem migrated_without_json_interrupted : migrated_without_json.Interrupted running := by
  refine ⟨⟨rfl, by decide, by decide⟩, ?_⟩
  rintro ⟨json_active, hjson, _⟩
  cases hjson

/-- The initialization of a replica whose output cannot be parsed. -/
theorem restores_of_failed_replica :
    (Operation.vm_replica (.result ⟨1, none⟩) : Operation Unit Nat).Restores running_vms running := by
  refine (restores_iff rfl rfl).mpr ⟨rfl, ?_, ?_⟩
  · intro before hbefore
    cases hbefore
  · intro hinterrupted
    exact hinterrupted [] rfl

/-- The VM is left in the status NOTREADY_RUNNING. -/
theorem not_restores_of_migrated_without_json :
    ¬ ∀ (op : Operation Unit Nat) vms vm, vms.db.vm = some vm →
      op.operational vms vm.store.status = true → op.Restores vms vm := by
  intro hclaim
  have hrestores := hclaim migrated_without_json running_vms running rfl rfl
  exact ((vm_migrate_restores_iff rfl _ _).mp hrestores).2 migrated_without_json_interrupted

end witness

end api.vm.operations
