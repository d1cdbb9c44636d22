import Esdc.Api.Callback.Migrate
import Esdc.Api.Callback.StatusRetry
import Esdc.Api.Callback.CreateRetry
import Esdc.Api.Callback.Current

namespace api.callbacks

open que.mgmt
open Procedure (Point)
open vms.definition (Json)

/-- The callbacks of VMs built on `MgmtCallbackTask`. -/
inductive Task (Node : Type)
  | vm_create_cb (deploys : Bool)
  | vm_update_cb (new_node_uuid : Option Node)
  | vm_status_cb
  | vm_status_current_cb (is_deploy_needed is_blank force_change : Bool)
  | vm_migrate_cb

variable {Node Time : Type} [DecidableEq Node] [LinearOrder Time]

def Task.body : Task Node → Callback Node Time (Result Time)
  | .vm_create_cb deploys => api.callbacks.vm_create_cb deploys
  | .vm_update_cb new_node_uuid => api.callbacks.vm_update_cb new_node_uuid
  | .vm_status_cb => api.callbacks.vm_status_cb
  | .vm_status_current_cb is_deploy_needed is_blank force_change =>
    api.callbacks.vm_status_current_cb is_deploy_needed is_blank force_change
  | .vm_migrate_cb => api.callbacks.vm_migrate_cb

/-- The statements whose failure the second execution makes up for. -/
def Task.retried (s : State Node Time) : Task Node → Statement → Prop
  | .vm_create_cb _ => vm_create_cb_retried s
  | .vm_update_cb _ => vm_update_cb_retried
  | .vm_status_cb => vm_status_cb_retried s
  | .vm_status_current_cb _ _ _ => fun _ => False
  | .vm_migrate_cb => vm_migrate_cb_retried s

def Task.safe (s : State Node Time) (kind : Statement) (task : Task Node) : Prop := kind.safe s (task.retried s)

/-- A callback with one failed statement and its retry ends as without the
failure if and only if the statement is a safe one. -/
theorem Task.equivalent_iff (task : Task Node) {s : State Node Time} {k : Nat}
    {point : Point (State Node Time) Statement (Raised Failure) (Result Time)}
    (hpoint : (task.body.points s)[k]? = some point) :
    Equivalent (callback task.body) s k ↔ task.safe s point.kind := by
  rw [equivalent_iff_recovers hpoint]
  have hmem := List.mem_of_getElem? hpoint
  cases task with
  | vm_create_cb deploys => exact vm_create_cb_recovers_iff hmem
  | vm_update_cb new_node_uuid => exact vm_update_cb_recovers_iff new_node_uuid hmem
  | vm_status_cb => exact vm_status_cb_recovers_iff hmem
  | vm_status_current_cb is_deploy_needed is_blank force_change =>
    exact vm_status_current_cb_recovers_iff is_deploy_needed is_blank force_change hmem
  | vm_migrate_cb => exact vm_migrate_cb_recovers_iff hmem

/-- A VM whose update has succeeded on its node. -/
def updated_state : State Unit Nat where
  db :=
    { vm := some
        { hostname := "vm", store := ⟨.NOTREADY_RUNNING, none, some .NOTREADY_RUNNING, none⟩, node := ()
          hvm := true, slavevm := false, json := ⟨∅, fun _ => none, [], []⟩
          json_active := ⟨∅, fun _ => none, [], []⟩, template := none }
      slave_vm := none, nodes := [], snapshots := [], snapshot_defines := [], backup_defines := []
      last_backups := [], task_log := [] }
  result :=
    { returncode := some 0, message := some "Successfully updated"
      json := some (some ⟨∅, fun _ => none, [], []⟩), stdout := none, stderr := none, status := none
      status_changed := none
      meta_ :=
        { force := true, recreate := false, update := false, freeze := false, last_status := .RUNNING
          exec_time := none, finish_time := none } }
  super_admins := true
  same_owner := true

/-- The status has been reverted when the definition cannot be saved. -/
theorem Task.equivalent_iff_save_definition :
    Equivalent (callback (Task.vm_update_cb (none : Option Unit)).body) updated_state 2 ↔
      (Task.vm_update_cb (none : Option Unit)).safe updated_state .save_definition := by
  have hpoint : ((Task.vm_update_cb none).body.points updated_state)[2]? = some ⟨.save_definition, _, _⟩ := rfl
  exact Task.equivalent_iff (.vm_update_cb none) hpoint

/-- A successful update fails: the second execution has no json to load. -/
theorem not_equivalent_of_vm_update_cb :
    ¬ ∀ (task : Task Unit) (s : State Unit Nat) (k : Nat), k < (task.body.points s).length →
      Equivalent (callback task.body) s k := by
  intro h
  have hequivalent := h (.vm_update_cb none) updated_state 2 (by decide)
  have houtcome : (MgmtCallbackTask (callback (vm_update_cb (none : Option Unit))) 2 updated_state).1 =
      .error (.error .parse_json) := rfl
  have hsucceeded : ((callback (vm_update_cb (none : Option Unit))).run updated_state).1.isOk = true := rfl
  have hsame := hequivalent.1
  rw [Task.body, houtcome] at hsame
  rw [← hsame] at hsucceeded
  cases hsucceeded

end api.callbacks
