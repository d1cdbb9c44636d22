import Esdc.Api.Callback.Update
import Esdc.Api.Status.Check

namespace api.callbacks

open que.mgmt
open Procedure (Point Raises Exposed)
open vms.models (Status StatusStore)
open vms.definition (Json Value)
open api.vm.status (too_old)

variable {Node Time : Type}

def vm_status_one : Callback Node Time Unit := select .vm_status_one fun _ => ()

section changed

variable [LinearOrder Time]

/-- The change is older than the last one in the cache. -/
def Db.too_old (db : Db Node Time) (change_time : Option Time) : Prop :=
  ∃ row ∈ db.vm, api.vm.status.too_old row.store change_time

instance (db : Db Node Time) (change_time : Option Time) : Decidable (db.too_old change_time) :=
  decidable_of_iff (db.vm.any fun row => api.vm.status.too_old row.store change_time) (by
    cases hvm : db.vm <;> simp [Db.too_old, hvm])

/-- The object that `vm_status_changed` saves. -/
def VmRow.changed (vm : VmRow Node Time) (state old_state : Status) : vms.models.Vm Time :=
  { vms.models.Vm.get vm.store with status := state, _orig_status := old_state }

def vm_status_changed (vm : VmRow Node Time) (state old_state : Status) (change_time : Option Time) :
    Callback Node Time Unit := do
  if (← get).db.too_old change_time then pure ()
  else
    let changed := vm.changed state old_state
    save_status .save_status changed change_time
    if vm.slavevm then pure ()
    else
      select .get_owner fun _ => ()
      task_log .status_change (.status_change state (changed.saved change_time).status_change)

end changed

/-- `_get_task_time(result, 'exec_time')` and the new status, which is known from the message. -/
def Result.new_status (result : Result Time) : Option (Status × Option Time) :=
  let msg := result.message.getD ""
  if contains msg "Successfully started" then some (.RUNNING, result.meta_.exec_time)
  else if contains msg "Successfully completed stop" then
    if result.meta_.freeze then some (.FROZEN, result.meta_.finish_time)
    else some (.STOPPED, result.meta_.exec_time)
  else if contains msg "Successfully completed reboot" then some (.RUNNING, result.meta_.exec_time)
  else none

def is_vm_missing (vm : VmRow Node Time) (msg : String) : Bool :=
  contains msg (vm.hostname ++ ": No such zone configured")

/-- The definition is not updated if the json cannot be loaded, or if a failure
keeps the snapshots of the removed disks. -/
def vm_status_cb_update (vm : VmRow Node Time) (json : Option (Option Json)) : Callback Node Time Unit := do
  let json_active ← (do
    let json_active ← load json
    vm_delete_snapshots_of_removed_disks vm
    pure (some json_active)).handle fun _ => pure none
  match json_active with
  | none => pure ()
  | some json_active =>
    write .save_definition fun db => db.update_vm fun row => { row with json := json_active, json_active }

section callbacks

variable [LinearOrder Time]

def _vm_status_cb_failed (vm : VmRow Node Time) (last_status : Status) : Callback Node Time Unit := do
  (if vm.store.status = .STOPPING then
    save_status .last_status { vms.models.Vm.get vm.store with status := last_status } none
  else pure ())
  vm_status_one

/-- What `vm_status_cb` does after a failed command. -/
def vm_status_cb_failed (vm : VmRow Node Time) (result : Result Time) : Callback Node Time Unit :=
  if is_vm_missing vm (result.message.getD "") then
    if vm.store.status = .STOPPING then
      vm_status_changed vm .STOPPED vm.store.status result.meta_.finish_time
    else pure ()
  else _vm_status_cb_failed vm result.meta_.last_status

/-- What `vm_status_cb` does after a successful command. -/
def vm_status_cb_done (vm : VmRow Node Time) (result : Result Time) : Callback Node Time (Result Time) :=
  match result.new_status with
  | none => raise (.unknown_status (result.message.getD ""))
  | some (new_status, change_time) => do
    vm_status_changed vm new_status vm.store.status change_time
    task_log .success (.success (result.message.getD ""))
    return (← get).result

def Result.updated (result : Result Time) : Bool :=
  result.meta_.update && contains (result.message.getD "") "Successfully updated"

def vm_status_cb : Callback Node Time (Result Time) := do
  let vm ← Vm_get .get_vm
  let json ← pop_json
  let result := (← get).result
  let msg := result.message.getD ""
  let returncode ← getitem result.returncode "returncode"
  if returncode = 0 ∧ startswith msg "Successfully" then
    (if result.updated then vm_status_cb_update vm json else pure ())
    vm_status_cb_done vm result
  else
    vm_status_cb_failed vm result
    raise (.bad_return_code returncode msg)

end callbacks

section runs

variable [LinearOrder Time]

/-- What `vm_status_changed` leaves. -/
def State.vm_status_changed (s : State Node Time) (vm : VmRow Node Time) (state old_state : Status)
    (change_time : Option Time) : State Node Time :=
  if s.db.too_old change_time then s
  else
    let changed := vm.changed state old_state
    let s := s.set_db (Db.save_status changed change_time)
    if vm.slavevm then s
    else s.task_log (.status_change state (changed.saved change_time).status_change)

@[simp] theorem run_vm_status_changed (vm : VmRow Node Time) (state old_state : Status)
    (change_time : Option Time) (s : State Node Time) :
    (vm_status_changed vm state old_state change_time).run s =
      (.ok (), s.vm_status_changed vm state old_state change_time) := by
  by_cases hold : s.db.too_old change_time
  · simp [vm_status_changed, State.vm_status_changed, Procedure.run_bind, hold]
  · cases hslavevm : vm.slavevm <;>
      simp [vm_status_changed, State.vm_status_changed, save_status, Procedure.run_bind, hold, hslavevm]

theorem mem_points_vm_status_changed {α : Type} {vm : VmRow Node Time} {state old_state : Status}
    {change_time : Option Time} {k : Unit → Callback Node Time α} {s : State Node Time}
    {point : Point (State Node Time) Statement (Raised Failure) α}
    (hpoint : point ∈ (vm_status_changed vm state old_state change_time >>= k).points s) :
      (¬ s.db.too_old change_time ∧
        (point = ⟨.save_status, .throw .operational, s⟩ ∨
        (vm.slavevm = false ∧
          let s := s.set_db (Db.save_status (vm.changed state old_state) change_time)
          let entry := .status_change state ((vm.changed state old_state).saved change_time).status_change
          (point = ⟨.get_owner, .throw .operational, s⟩ ∨ LogPoint .status_change entry k s point)))) ∨
      point ∈ (k ()).points (s.vm_status_changed vm state old_state change_time) := by
  rw [vm_status_changed, Procedure.bind_assoc, mem_points_get] at hpoint
  rw [State.vm_status_changed]
  by_cases hold : s.db.too_old change_time
  · rw [if_pos hold] at hpoint ⊢
    exact .inr hpoint
  · rw [if_neg hold] at hpoint ⊢
    dsimp only [save_status] at hpoint
    rw [Procedure.bind_assoc, mem_points_write] at hpoint
    rcases hpoint with rfl | hpoint
    · exact .inl ⟨hold, .inl rfl⟩
    · cases hslavevm : vm.slavevm with
      | true =>
        rw [hslavevm] at hpoint
        exact .inr hpoint
      | false =>
        rw [hslavevm, if_neg Bool.false_ne_true, Procedure.bind_assoc, mem_points_select] at hpoint
        rcases hpoint with rfl | hpoint
        · exact .inl ⟨hold, .inr ⟨rfl, .inl rfl⟩⟩
        · rcases mem_points_task_log hpoint with hlog | hpoint
          · exact .inl ⟨hold, .inr ⟨rfl, .inr hlog⟩⟩
          · exact .inr hpoint

@[simp] theorem State.vm_status_changed_result (s : State Node Time) (vm : VmRow Node Time)
    (state old_state : Status) (change_time : Option Time) :
    (s.vm_status_changed vm state old_state change_time).result = s.result := by
  unfold State.vm_status_changed
  dsimp only
  split
  · rfl
  · split <;> rfl

theorem State.vm_status_changed_same_owner (s : State Node Time) (vm : VmRow Node Time)
    (state old_state : Status) (change_time : Option Time) :
    (s.vm_status_changed vm state old_state change_time).same_owner = s.same_owner := by
  unfold State.vm_status_changed
  dsimp only
  split
  · rfl
  · split <;> rfl

omit [LinearOrder Time] in
/-- The definition is not touched by a change of the status. -/
@[simp] theorem Db.save_status_definition (db : Db Node Time) (vm : vms.models.Vm Time)
    (status_change_time : Option Time) :
    (db.save_status vm status_change_time).vm.map (fun row => (row.json, row.json_active)) =
      db.vm.map fun row => (row.json, row.json_active) := by
  rw [Db.save_status, Db.update_vm]
  cases db.vm <;> rfl

theorem State.vm_status_changed_definition (s : State Node Time) (vm : VmRow Node Time)
    (state old_state : Status) (change_time : Option Time) :
    (s.vm_status_changed vm state old_state change_time).db.vm.map (fun row => (row.json, row.json_active)) =
      s.db.vm.map fun row => (row.json, row.json_active) := by
  unfold State.vm_status_changed
  dsimp only
  split
  · rfl
  · split
    · simp
    · simp [State.task_log, Db.log]

theorem not_too_old_save {store : StatusStore Time} {change_time : Option Time} (vm : vms.models.Vm Time)
    (hold : ¬ api.vm.status.too_old store change_time) :
    ¬ api.vm.status.too_old (vm.save change_time store) change_time := by
  by_cases hchanged : vm.status ≠ vm._orig_status
  · rw [vms.models.Vm.save_of_changed hchanged]
    rintro ⟨t, ht, old_change_time, hold', hlt⟩
    rw [Option.mem_def] at ht hold'
    rw [ht] at hold'
    cases hold'
    exact lt_irrefl _ hlt
  · simpa [vms.models.Vm.save, vms.models.Vm.touch, vms.models.Vm.save_cached_status,
      vms.models.Vm.save_cached_status_change, vms.models.Vm.save_row, hchanged, api.vm.status.too_old] using hold

/-- A second call after the status has been saved only adds the entry. -/
theorem State.vm_status_changed_of_saved {s : State Node Time} {vm : VmRow Node Time} (hvm : s.db.vm = some vm)
    (state : Status) (change_time : Option Time) (hold : ¬ s.db.too_old change_time) :
    let changed := vm.changed state vm.store.status
    let saved := s.set_db (Db.save_status changed change_time)
    let vm' := { vm with store := changed.save change_time vm.store }
    saved.db.vm = some vm' ∧ ¬ saved.db.too_old change_time ∧
      saved.vm_status_changed vm' state vm'.store.status change_time =
        s.vm_status_changed vm state vm.store.status change_time := by
  intro changed saved vm'
  have hsaved : saved.db.vm = some vm' := congrArg Db.vm (Db.save_status_of_vm hvm changed change_time)
  have hold' : ¬ saved.db.too_old change_time := by
    rintro ⟨row, hrow, hrow'⟩
    rw [hsaved] at hrow
    cases hrow
    exact not_too_old_save changed (fun h => hold ⟨vm, hvm, h⟩) hrow'
  refine ⟨hsaved, hold', ?_⟩
  have hstatus : vm'.store.status = state := vms.models.Vm.save_status changed change_time vm.store
  have hchanged : vm'.changed state vm'.store.status = vms.models.Vm.get vm'.store := by
    rw [VmRow.changed, hstatus, vms.models.Vm.get, hstatus]
  have hagain : saved.set_db (Db.save_status (vms.models.Vm.get vm'.store) change_time) = saved := by
    rw [State.set_db, Db.save_status_of_vm hsaved, vms.models.Vm.save_get, ← hsaved]
  have hentry : ((vms.models.Vm.get vm'.store).saved change_time).status_change =
      (changed.saved change_time).status_change :=
    vms.models.Vm.saved_get_save changed change_time vm.store
  unfold State.vm_status_changed
  rw [if_neg hold, if_neg hold']
  dsimp only
  rw [hchanged, hagain, hentry]

end runs

end api.callbacks
