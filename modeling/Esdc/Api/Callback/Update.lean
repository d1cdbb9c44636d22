import Esdc.Api.Callback.TaskLog

namespace vms.definition

def Simple.all : List Simple := [.internal_metadata, .customer_metadata, .routes, .tags]

def Simple.name : Simple → String
  | .internal_metadata => "internal_metadata"
  | .customer_metadata => "customer_metadata"
  | .routes => "routes"
  | .tags => "tags"

def Changes.keys (changes : Changes) (item : String) : List String :=
  (if changes.remove_ = [] then [] else ["remove_" ++ item]) ++
    (if changes.add_.isEmpty then [] else ["add_" ++ item]) ++
    if changes.update_.isEmpty then [] else ["update_" ++ item]

/-- The keys of the dictionary that `json_update` returns. -/
def Payload.keys (payload : Payload) : List String :=
  payload.items.keys ++
    Simple.all.flatMap (fun item =>
      (if (payload.simple item).2 = [] then [] else ["remove_" ++ item.name]) ++
        if (payload.simple item).1.entries.isEmpty then [] else ["set_" ++ item.name]) ++
    payload.nics.keys "nics" ++ payload.disks.keys "disks"

theorem diff_dict_nested_self_remove {old : Dict Ident Item} {key : String}
    {remove_empty : List (String × Value)} {changes : Changes}
    (hchanges : diff_dict_nested old old key remove_empty = some changes) : changes.remove_ = [] := by
  have hremoved : old.entries.filter (fun e => decide (e.1 ∉ old)) = [] := by
    rw [List.filter_eq_nil_iff]
    intro e he
    have hmem : e.1 ∈ old := List.mem_keys_of_mem he
    simp [hmem]
  rw [diff_dict_nested, hremoved] at hchanges
  cases hchanges
  rfl

/-- A definition without changes removes no disk. -/
theorem Vm.create_json_update_disks_self {vm : Vm} {changes : Changes} (hjson : vm.json = vm.json_active)
    (hchanges : vm.create_json_update_disks = some changes) : changes.remove_ = [] := by
  rw [Vm.create_json_update_disks] at hchanges
  split at hchanges
  · rw [create_json_update_nested, hjson] at hchanges
    exact diff_dict_nested_self_remove hchanges
  · cases hchanges
    rfl

end vms.definition

namespace api.callbacks

open que.mgmt
open Procedure (Point Raises Exposed)
open vms.definition (Json Value)

variable {Node Time : Type}

def VmRow.definition (vm : VmRow Node Time) : vms.definition.Vm := ⟨vm.hvm, vm.json, vm.json_active⟩

/-- Deletes what belongs to the disks that the new definition no longer has. -/
def vm_delete_snapshots_of_removed_disks (vm : VmRow Node Time) : Callback Node Time Unit := do
  let changes ← getitem vm.definition.create_json_update_disks "path"
  let removed_disk_ids := changes.remove_
  if removed_disk_ids = [] then pure ()
  else
    write .removed_snapshots fun db => { db with snapshots := db.snapshots.filter (· ∉ removed_disk_ids) }
    write .removed_snapshot_defines fun db =>
      { db with snapshot_defines := db.snapshot_defines.filter (· ∉ removed_disk_ids) }
    write .removed_backups fun db =>
      { db with last_backups := db.last_backups.filter (· ∉ removed_disk_ids) }
    write .removed_backup_defines fun db =>
      { db with backup_defines := db.backup_defines.filter (· ∉ removed_disk_ids) }

/-- What the deletions leave. -/
def Db.delete_removed (db : Db Node Time) (removed_disk_ids : List Value) : Db Node Time :=
  { db with
    snapshots := db.snapshots.filter (· ∉ removed_disk_ids)
    snapshot_defines := db.snapshot_defines.filter (· ∉ removed_disk_ids)
    last_backups := db.last_backups.filter (· ∉ removed_disk_ids)
    backup_defines := db.backup_defines.filter (· ∉ removed_disk_ids) }

theorem run_vm_delete_snapshots_of_removed_disks {vm : VmRow Node Time} {changes : vms.definition.Changes}
    (hchanges : vm.definition.create_json_update_disks = some changes) (s : State Node Time) :
    (vm_delete_snapshots_of_removed_disks vm).run s =
      (.ok (), s.set_db fun db => db.delete_removed changes.remove_) := by
  by_cases hremoved : changes.remove_ = []
  · simp [vm_delete_snapshots_of_removed_disks, Procedure.run_bind, hchanges, hremoved, State.set_db,
      Db.delete_removed]
  · simp [vm_delete_snapshots_of_removed_disks, Procedure.run_bind, hchanges, hremoved, State.set_db,
      Db.delete_removed]

theorem run_vm_delete_snapshots_of_removed_disks_none {vm : VmRow Node Time}
    (hchanges : vm.definition.create_json_update_disks = none) (s : State Node Time) :
    (vm_delete_snapshots_of_removed_disks vm).run s = (.error (.error (.key_error "path")), s) := by
  simp [vm_delete_snapshots_of_removed_disks, Procedure.run_bind, hchanges]

def Statement.removed : List Statement :=
  [.removed_snapshots, .removed_snapshot_defines, .removed_backups, .removed_backup_defines]

/-- The deletions come before the change of the definition and only if it changes. -/
theorem points_vm_delete_snapshots_of_removed_disks {vm : VmRow Node Time} {s : State Node Time}
    {point : Point (State Node Time) Statement (Raised Failure) Unit}
    (hpoint : point ∈ (vm_delete_snapshots_of_removed_disks vm).points s) :
    point.kind ∈ Statement.removed ∧ point.failed = .throw .operational ∧ point.state.db.vm = s.db.vm ∧
      point.state.result = s.result ∧
      ∃ changes, vm.definition.create_json_update_disks = some changes ∧ changes.remove_ ≠ [] := by
  rw [vm_delete_snapshots_of_removed_disks, mem_points_getitem] at hpoint
  obtain ⟨changes, hchanges, hpoint⟩ := hpoint
  dsimp only at hpoint
  split at hpoint
  · cases hpoint
  · rename_i hremoved
    simp only [mem_points_write, points_write, List.mem_singleton] at hpoint
    rcases hpoint with rfl | rfl | rfl | rfl <;>
      exact ⟨by simp [Statement.removed], rfl, rfl, rfl, changes, hchanges, hremoved⟩

def revert_notready (vm : VmRow Node Time) : Callback Node Time Unit :=
  save_status .revert_notready (vms.models.Vm.get vm.store).revert_notready none

def ignored_changed_vm_attrs : List String :=
  ["set_customer_metadata", "remove_customer_metadata", "create_timestamp", "boot_timestamp", "autoboot",
    "vnc_port", "update_disks"]

/-- The part of `vm_update_cb` that saves the new definition. -/
def vm_update_cb_save [DecidableEq Node] (vm : VmRow Node Time) (json_active : Json)
    (new_node_uuid : Option Node) : Callback Node Time Unit :=
  match new_node_uuid with
  | none =>
    write .save_definition fun db => db.update_vm fun row => { row with json := json_active, json_active }
  | some new_node_uuid => do
    let update_dict ← getitem
      (vms.definition.Vm.json_update ⟨vm.hvm, json_active, vm.json_active⟩) "path"
    let keys := update_dict.keys.filter (· ∉ ignored_changed_vm_attrs)
    if keys ≠ [] then raise (.definition_differs keys)
    else if ← select .get_node fun db => decide (new_node_uuid ∈ db.nodes) then
      write .save_definition fun db => db.update_vm fun row =>
        { row with json := json_active, json_active, node := new_node_uuid }
      select .node_changed fun _ => ()
      modify fun s => s.set_result fun result =>
        { result with message := some ("Node association successfully changed on VM " ++ vm.hostname) }
    else raise (.does_not_exist .Node)

/-- `vm_update_cb` after `result.pop('json')`. -/
def vm_update_cb_done [DecidableEq Node] (vm : VmRow Node Time) (json : Option (Option Json))
    (new_node_uuid : Option Node) : Callback Node Time (Result Time) := do
  let json_active ← load json
  vm_delete_snapshots_of_removed_disks vm
  vm_update_cb_save vm json_active new_node_uuid
  task_log .success (.success ((← get).result.message.getD ""))
  return (← get).result

def vm_update_cb [DecidableEq Node] (new_node_uuid : Option Node) : Callback Node Time (Result Time) := do
  let vm ← Vm_get .get_vm
  revert_notready vm
  let result := (← get).result
  let msg := result.message.getD ""
  let returncode ← getitem result.returncode "returncode"
  if returncode = 0 ∧ (result.meta_.force || contains msg "Successfully updated") then
    let json ← pop_json
    vm_update_cb_done vm json new_node_uuid
  else raise (.bad_return_code returncode msg)

theorem run_revert_notready (vm : VmRow Node Time) (s : State Node Time) :
    (revert_notready vm).run s =
      (.ok (), s.set_db (Db.save_status (vms.models.Vm.get vm.store).revert_notready none)) := rfl

/-- What a failure after the json has been taken leaves for the second execution. -/
def json_taken (same_owner : Bool) (s : State Node Time) : Prop :=
  s.db.vm.isSome ∧ s.result.json = none ∧ s.result.returncode = some 0 ∧ s.same_owner = same_owner

/-- The failures that the second execution makes up for. -/
def vm_update_cb_retried (kind : Statement) : Prop := kind = .get_vm ∨ kind = .revert_notready

variable {same_owner : Bool}

/-- The errors of a second execution. -/
def json_missing (e : Raised Failure) : Prop :=
  e = .error .parse_json ∨ ∃ msg, e = .error (.bad_return_code 0 msg)

theorem json_taken_set_db {effect : Db Node Time → Db Node Time}
    (heffect : ∀ db, db.vm.isSome → (effect db).vm.isSome) (s : State Node Time) (hs : json_taken same_owner s) :
    json_taken same_owner (s.set_db effect) := ⟨heffect _ hs.1, hs.2⟩

theorem Db.update_vm_isSome (f : VmRow Node Time → VmRow Node Time) (db : Db Node Time)
    (hvm : db.vm.isSome) : (db.update_vm f).vm.isSome := by
  rw [Db.update_vm, Option.isSome_map]
  exact hvm

theorem exposed_vm_delete_snapshots_of_removed_disks {I : State Node Time → Prop} {K : Statement → Prop}
    (hI : ∀ s (effect : Db Node Time → Db Node Time), (∀ db, (effect db).vm = db.vm) → I s →
      I (s.set_db effect))
    (hK : ∀ kind, kind ∈ Statement.removed → K kind) (vm : VmRow Node Time) :
    Exposed .operational I K (vm_delete_snapshots_of_removed_disks vm) := by
  refine Exposed.bind (exposed_getitem _ _) fun changes => ?_
  dsimp only
  split
  · exact Exposed.pure _ _ _ _
  · refine Exposed.bind (exposed_write (hK _ (by simp [Statement.removed])) fun s => hI s _ fun _ => rfl) fun _ => ?_
    refine Exposed.bind (exposed_write (hK _ (by simp [Statement.removed])) fun s => hI s _ fun _ => rfl) fun _ => ?_
    refine Exposed.bind (exposed_write (hK _ (by simp [Statement.removed])) fun s => hI s _ fun _ => rfl) fun _ => ?_
    exact exposed_write (hK _ (by simp [Statement.removed])) fun s => hI s _ fun _ => rfl

theorem raises_vm_delete_snapshots_of_removed_disks {R : Raised Failure → Prop}
    (hR : R (.error (.key_error "path"))) (vm : VmRow Node Time) :
    Raises R (vm_delete_snapshots_of_removed_disks vm) := by
  refine Raises.bind (raises_getitem fun _ => hR) fun changes => ?_
  dsimp only
  split
  · exact Raises.pure _ _
  · refine Raises.bind (raises_execute _ _) fun _ => ?_
    refine Raises.bind (raises_execute _ _) fun _ => ?_
    refine Raises.bind (raises_execute _ _) fun _ => ?_
    exact raises_execute _ _

variable [DecidableEq Node]

theorem exposed_vm_update_cb_save {K : Statement → Prop}
    (hK : ∀ kind, kind ∈ [Statement.save_definition, .get_node, .node_changed] → K kind)
    (vm : VmRow Node Time) (json_active : Json) (new_node_uuid : Option Node) :
    Exposed .operational (json_taken same_owner) K (vm_update_cb_save vm json_active new_node_uuid) := by
  unfold vm_update_cb_save
  cases new_node_uuid with
  | none => exact exposed_write (hK _ (by simp)) (json_taken_set_db (Db.update_vm_isSome _))
  | some new_node_uuid =>
    refine Exposed.bind (exposed_getitem _ _) fun update_dict => ?_
    dsimp only
    split
    · exact exposed_raise _
    · refine Exposed.bind (exposed_select (hK _ (by simp)) _) fun exists_ => ?_
      split
      · refine Exposed.bind (exposed_write (hK _ (by simp)) (json_taken_set_db (Db.update_vm_isSome _)))
          fun _ => ?_
        refine Exposed.bind (exposed_select (hK _ (by simp)) _) fun _ => ?_
        exact exposed_modify fun s hs => hs
      · exact exposed_raise _

theorem raises_vm_update_cb_save {R : Raised Failure → Prop} (hkey : R (.error (.key_error "path")))
    (hkeys : ∀ keys, R (.error (.definition_differs keys))) (hnode : R (.error (.does_not_exist .Node)))
    (vm : VmRow Node Time) (json_active : Json) (new_node_uuid : Option Node) :
    Raises R (vm_update_cb_save vm json_active new_node_uuid) := by
  unfold vm_update_cb_save
  cases new_node_uuid with
  | none => exact raises_execute _ _
  | some new_node_uuid =>
    refine Raises.bind (raises_getitem fun _ => hkey) fun update_dict => ?_
    dsimp only
    split
    · exact raises_raise (hkeys _)
    · refine Raises.bind (raises_query _ _) fun exists_ => ?_
      split
      · refine Raises.bind (raises_execute _ _) fun _ => ?_
        refine Raises.bind (raises_query _ _) fun _ => ?_
        exact raises_modify _
      · exact raises_raise hnode

theorem settles_vm_update_cb_done (vm : VmRow Node Time) (json : Option (Option Json))
    (new_node_uuid : Option Node) :
    Settles same_owner (json_taken same_owner) (fun kind => kind.logs = false ∧ ¬ vm_update_cb_retried kind)
      (vm_update_cb_done vm json new_node_uuid) := by
  have hvm : ∀ s (effect : Db Node Time → Db Node Time), (∀ db, (effect db).vm = db.vm) → json_taken same_owner s →
      json_taken same_owner (s.set_db effect) := by
    intro s effect heffect hs
    exact json_taken_set_db (fun db hdb => by rw [heffect]; exact hdb) s hs
  unfold vm_update_cb_done
  refine Settles.after (exposed_load json) fun json_active => ?_
  refine Settles.after (exposed_vm_delete_snapshots_of_removed_disks hvm
    (by simp [Statement.removed, Statement.logs, vm_update_cb_retried]) vm) fun _ => ?_
  refine Settles.after (exposed_vm_update_cb_save (by simp [Statement.logs, vm_update_cb_retried]) vm json_active
    new_node_uuid) fun _ => ?_
  refine Settles.after exposed_get fun s => ?_
  refine Settles.bind (settles_task_log _ _ (fun s hs => hs) fun s hs => hs.2.2.2) (fun _ => blind_result) fun _ => ?_
  exact Settles.of_exposed (Exposed.bind exposed_get fun _ => Exposed.pure _ _ _ _)

theorem raises_vm_update_cb_done (vm : VmRow Node Time) (json_active : Json)
    (new_node_uuid : Option Node) :
    Raises (fun e => ¬ json_missing e)
      (vm_update_cb_done vm (some (some json_active)) new_node_uuid : Callback Node Time _) := by
  unfold vm_update_cb_done
  refine Raises.bind (raises_load (by simp)) fun json_active => ?_
  refine Raises.bind (raises_vm_delete_snapshots_of_removed_disks (by simp [json_missing]) vm) fun _ => ?_
  refine Raises.bind (raises_vm_update_cb_save (by simp [json_missing]) (by simp [json_missing])
    (by simp [json_missing]) vm json_active new_node_uuid) fun _ => ?_
  refine Raises.bind raises_get fun s => ?_
  refine Raises.bind (raises_task_log _ _) fun _ => ?_
  exact Raises.bind raises_get fun _ => Raises.pure _ _

/-- The run from where the json is taken. -/
theorem run_vm_update_cb (new_node_uuid : Option Node) {s : State Node Time} {vm : VmRow Node Time}
    (hvm : s.db.vm = some vm) (hreturncode : s.result.returncode = some 0)
    (hmsg : (s.result.meta_.force || contains (s.result.message.getD "") "Successfully updated") = true) :
    (vm_update_cb new_node_uuid).run s = (vm_update_cb_done vm s.result.json new_node_uuid).run
      (s.set_db (Db.save_status (vms.models.Vm.get vm.store).revert_notready none)).pop_json := by
  simp only [vm_update_cb, Procedure.run_bind, run_Vm_get hvm, run_revert_notready, run_get,
    State.set_db_result, hreturncode, run_getitem_some]
  rw [if_pos ⟨trivial, hmsg⟩]
  simp only [Procedure.run_bind, run_pop_json, State.set_db_result]

theorem vm_update_cb_json_missing (new_node_uuid : Option Node) {s : State Node Time} (hs : json_taken same_owner s) :
    ∃ e, ((vm_update_cb new_node_uuid).run s).1 = .error e ∧ json_missing e := by
  obtain ⟨hvm, hjson, hreturncode, -⟩ := hs
  obtain ⟨vm, hvm⟩ := Option.isSome_iff_exists.mp hvm
  by_cases hmsg : (s.result.meta_.force || contains (s.result.message.getD "") "Successfully updated") = true
  · refine ⟨.error .parse_json, ?_, .inl rfl⟩
    rw [run_vm_update_cb new_node_uuid hvm hreturncode hmsg, hjson]
    rfl
  · refine ⟨.error (.bad_return_code 0 (s.result.message.getD "")), ?_, .inr ⟨_, rfl⟩⟩
    simp only [vm_update_cb, Procedure.run_bind, run_Vm_get hvm, run_revert_notready, run_get,
      State.set_db_result, hreturncode, run_getitem_some]
    rw [if_neg fun h => hmsg h.2]
    rfl

/-- The retry makes up for the failures before the json is taken, and for no other. -/
theorem vm_update_cb_recovers_iff (new_node_uuid : Option Node) {s : State Node Time}
    {point : Point (State Node Time) Statement (Raised Failure) (Result Time)}
    (hpoint : point ∈ (vm_update_cb new_node_uuid).points s) :
    Recovers (vm_update_cb new_node_uuid) s point ↔ point.kind.safe s vm_update_cb_retried := by
  rw [vm_update_cb, mem_points_Vm_get] at hpoint
  rcases hpoint with rfl | ⟨vm, hvm, hpoint⟩
  · rw [recovers_of_raised fun _ => rfl]
    exact iff_of_true (Same.refl _ _) (.inl rfl)
  rw [revert_notready, save_status, mem_points_write] at hpoint
  rcases hpoint with rfl | hpoint
  · rw [recovers_of_raised fun _ => rfl]
    exact iff_of_true (Same.refl _ _) (.inr rfl)
  simp only [mem_points_get, mem_points_getitem] at hpoint
  obtain ⟨returncode, hreturncode, hpoint⟩ := hpoint
  split at hpoint
  · rename_i hmsg
    obtain ⟨rfl, hmsg⟩ := hmsg
    rw [mem_points_pop_json, State.set_db_result] at hpoint
    have hrun := run_vm_update_cb new_node_uuid hvm hreturncode hmsg
    have htaken : json_taken s.same_owner
        (s.set_db (Db.save_status (vms.models.Vm.get vm.store).revert_notready none)).pop_json :=
      ⟨Db.update_vm_isSome _ _ (by rw [hvm]; rfl), rfl, hreturncode, rfl⟩
    rcases hjson : s.result.json with - | - | json_active
    · rw [hjson] at hpoint
      cases hpoint
    · rw [hjson] at hpoint
      cases hpoint
    · rw [hjson] at hpoint hrun
      exact recovers_iff_of_settles (settles_vm_update_cb_done vm _ new_node_uuid)
        (raises_vm_update_cb_done vm json_active new_node_uuid) htaken hrun
        (fun state => vm_update_cb_json_missing new_node_uuid) hpoint
  · cases hpoint

end api.callbacks
