import Esdc.Api.Callback.Create

namespace api.callbacks

open que.mgmt
open Procedure (Point Raises Exposed)
open vms.models (Status)
open vms.definition (Json Value Json.save_metadata_save_metadata)

variable {Node Time : Type} [LinearOrder Time]

def Result.created (result : Result Time) : Prop :=
  result.returncode = some 0 ∧ contains (result.message.getD "") "Successfully created"

/-- The failures that the second execution makes up for. -/
def vm_create_cb_retried (s : State Node Time) (kind : Statement) : Prop :=
  (s.result.created ∧ (kind = .get_vm ∨
    ((kind = .save_error ∨ kind = .vm_status_one) ∧ ∀ json, s.result.json ≠ some (some json)))) ∨
  (¬ s.result.created ∧ kind ≠ .get_owner ∧
    (kind = .vm_status_one → ∃ vm ∈ s.db.vm, vm.slavevm))

section created

variable {s : State Node Time} {vm : VmRow Node Time}

/-- The run from where the json is taken. -/
theorem run_vm_create_cb (deploys : Bool) (hvm : s.db.vm = some vm) (hcreated : s.result.created) :
    (vm_create_cb deploys).run s =
      (vm_create_cb_load vm s.result.json s.result.meta_.recreate >>= fun json_active =>
        vm_create_cb_done deploys vm json_active s.result).run s.pop_json := by
  obtain ⟨hreturncode, hmsg⟩ := hcreated
  simp only [vm_create_cb, Procedure.run_bind, run_Vm_get hvm, run_get, hreturncode, run_getitem_some]
  rw [if_pos ⟨trivial, hmsg⟩]
  simp only [Procedure.run_bind, run_pop_json]

omit [LinearOrder Time] in
/-- What is left when the json cannot be loaded. -/
theorem run_vm_create_cb_load_none {json : Option (Option Json)} (hjson : ∀ a, json ≠ some (some a))
    (recreate : Bool) (t : State Node Time) :
    (vm_create_cb_load vm json recreate).run t = (.error (.error .parse_json),
      t.set_db (Db.save_status { vms.models.Vm.get vm.store with status := .ERROR } none)) := by
  rcases json with - | - | json
  · rfl
  · rfl
  · exact absurd rfl (hjson json)

end created

section failed

/-- What the deletions after a failed recreate leave. -/
def Db.recreated (db : Db Node Time) : Db Node Time :=
  { db with snapshots := [], snapshot_defines := [], backup_defines := [] }.update_vm fun row =>
    { row with json := row.json.save_metadata "installed" (.bool false) }

def State.recreated (s : State Node Time) (result : Result Time) : State Node Time :=
  if result.recreate_deleted then s.set_db Db.recreated else s

def State.reverted (s : State Node Time) (vm : VmRow Node Time) (result : Result Time) : State Node Time :=
  if vm.store.status ≠ result.revert_state then
    s.vm_status_changed vm result.revert_state vm.store.status none
  else s

def VmRow.reverted (vm : VmRow Node Time) (result : Result Time) : vms.models.Vm Time :=
  if vm.store.status ≠ result.revert_state then
    (vm.changed result.revert_state vm.store.status).saved none
  else vms.models.Vm.get vm.store

def State.errored (s : State Node Time) (vm : vms.models.Vm Time) (result : Result Time) : State Node Time :=
  if result.meta_.recreate ∧ contains (result.message.getD "") "Successfully deleted" then
    s.set_db (Db.save_status { vm with status := .ERROR } none)
  else s

def State.vm_create_cb_failed (s : State Node Time) (vm : VmRow Node Time) (result : Result Time) :
    State Node Time :=
  ((s.recreated result).reverted vm result).errored (vm.reverted result) result

omit [LinearOrder Time] in
theorem Db.recreated_recreated (db : Db Node Time) : db.recreated.recreated = db.recreated := by
  cases hvm : db.vm <;> simp [Db.recreated, Db.update_vm, hvm, Json.save_metadata_save_metadata]

omit [LinearOrder Time] in
theorem Db.recreated_save_status (db : Db Node Time) (vm : vms.models.Vm Time) (time : Option Time) :
    (db.save_status vm time).recreated = db.recreated.save_status vm time := by
  cases hvm : db.vm <;> simp [Db.recreated, Db.save_status, Db.update_vm, hvm]

omit [LinearOrder Time] in
theorem State.recreated_recreated (s : State Node Time) (result : Result Time) :
    (s.recreated result).recreated result = s.recreated result := by
  unfold State.recreated
  split
  · rw [State.set_db, State.set_db_db, Db.recreated_recreated]
    rfl
  · rfl

omit [LinearOrder Time] in
theorem State.recreated_eq_iff {s : State Node Time} {result : Result Time} :
    s.recreated result = s ↔ (result.recreate_deleted → s.db.recreated = s.db) := by
  unfold State.recreated
  split
  · rename_i hdeleted
    constructor
    · intro hs _
      exact congrArg State.db hs
    · intro hdb
      rw [State.set_db, hdb hdeleted]
  · rename_i hdeleted
    exact iff_of_true rfl fun h => absurd h hdeleted

omit [LinearOrder Time] in
theorem State.recreated_save_status {s : State Node Time} {result : Result Time} (hs : s.recreated result = s)
    (vm : vms.models.Vm Time) (time : Option Time) :
    (s.set_db (Db.save_status vm time)).recreated result = s.set_db (Db.save_status vm time) := by
  rw [State.recreated_eq_iff] at hs ⊢
  intro hdeleted
  rw [State.set_db_db, Db.recreated_save_status, hs hdeleted]

omit [LinearOrder Time] in
theorem State.recreated_log {s t : State Node Time} {result : Result Time} (hs : s.recreated result = s)
    {entry : LogEntry Time} (ht : t.db = s.db.log entry) : t.recreated result = t := by
  rw [State.recreated_eq_iff] at hs ⊢
  intro hdeleted
  have hlog : (s.db.log entry).recreated = s.db.recreated.log entry := rfl
  rw [ht, hlog, hs hdeleted]

omit [LinearOrder Time] in
theorem State.recreated_vm {s : State Node Time} {vm : VmRow Node Time} (hvm : s.db.vm = some vm)
    (result : Result Time) :
    ∃ row, (s.recreated result).db.vm = some row ∧ row.store = vm.store ∧ row.slavevm = vm.slavevm := by
  unfold State.recreated
  split
  · refine ⟨{ vm with json := vm.json.save_metadata "installed" (.bool false) }, ?_, rfl, rfl⟩
    simp [Db.recreated, Db.update_vm, hvm]
  · exact ⟨vm, hvm, rfl, rfl⟩

omit [LinearOrder Time] in
theorem State.recreated_result (s : State Node Time) (result : Result Time) :
    (s.recreated result).result = s.result := by
  unfold State.recreated
  split <;> rfl

omit [LinearOrder Time] in
theorem State.recreated_same_owner (s : State Node Time) (result : Result Time) :
    (s.recreated result).same_owner = s.same_owner := by
  unfold State.recreated
  split <;> rfl

/-- Only the status and whether it is a slave VM count. -/
theorem State.reverted_congr {vm vm' : VmRow Node Time} (hstore : vm'.store = vm.store)
    (hslavevm : vm'.slavevm = vm.slavevm) (s : State Node Time) (result : Result Time) :
    s.reverted vm' result = s.reverted vm result ∧ (vm'.reverted result : vms.models.Vm Time) = vm.reverted result := by
  simp only [State.reverted, VmRow.reverted, State.vm_status_changed, VmRow.changed, hstore, hslavevm, and_self]

/-- A VM with the reverted status has only the error left. -/
theorem State.vm_create_cb_failed_of_reverted {s : State Node Time} {vm : VmRow Node Time} {result : Result Time}
    (hs : s.recreated result = s) (hstatus : vm.store.status = result.revert_state) :
    s.vm_create_cb_failed vm result = s.errored (vms.models.Vm.get vm.store) result := by
  rw [State.vm_create_cb_failed, hs, State.reverted, VmRow.reverted, if_neg (not_not.mpr hstatus),
    if_neg (not_not.mpr hstatus)]

/-- The message that a VM created again needs. -/
def Result.readable (result : Result Time) : Prop := result.meta_.recreate → result.message.isSome

omit [LinearOrder Time] in
theorem run_delete_recreated {result : Result Time} (hmessage : result.readable) (s : State Node Time) :
    (delete_recreated result).run s = (.ok (), s.recreated result) := by
  cases hrecreate : result.meta_.recreate with
  | true =>
    obtain ⟨message, hmessage⟩ := Option.isSome_iff_exists.mp (hmessage hrecreate)
    cases hdeleted : startswith message "Successfully deleted" with
    | true =>
      simp [delete_recreated, State.recreated, Result.recreate_deleted, Procedure.run_bind, hrecreate, hmessage,
        hdeleted, delete_vm_snapshots]
      rfl
    | false =>
      simp [delete_recreated, State.recreated, Result.recreate_deleted, Procedure.run_bind, hrecreate, hmessage,
        hdeleted]
  | false =>
    simp [delete_recreated, State.recreated, Result.recreate_deleted, hrecreate]

theorem run_vm_create_cb_failed {result : Result Time} (hmessage : result.readable)
    (vm : VmRow Node Time) (s : State Node Time) :
    (_vm_create_cb_failed vm result).run s =
      (.ok (vm.reverted result), (s.recreated result).reverted vm result) := by
  simp only [_vm_create_cb_failed, Procedure.run_bind, run_delete_recreated hmessage]
  by_cases hstatus : vm.store.status ≠ result.revert_state
  · rw [if_pos hstatus]
    simp [Procedure.run_bind, VmRow.reverted, State.reverted, hstatus]
  · rw [if_neg hstatus]
    simp [VmRow.reverted, State.reverted, hstatus]

variable {s : State Node Time} {vm : VmRow Node Time} {returncode : Int}

/-- What follows once the status has been reverted. -/
def vm_create_cb_end (vm : vms.models.Vm Time) (result : Result Time) (failure : Failure) :
    Callback Node Time (Result Time) := do
  (if result.meta_.recreate ∧ contains (result.message.getD "") "Successfully deleted" then _vm_error vm else pure ())
  raise failure

omit [LinearOrder Time] in
theorem run_vm_create_cb_end (vm : vms.models.Vm Time) (result : Result Time) (failure : Failure)
    (s : State Node Time) :
    (vm_create_cb_end vm result failure).run s = (.error (.error failure), s.errored vm result) := by
  rw [vm_create_cb_end, State.errored]
  by_cases hdeleted : result.meta_.recreate ∧ contains (result.message.getD "") "Successfully deleted"
  · rw [if_pos hdeleted, if_pos hdeleted]
    simp only [_vm_error, save_error, save_status, vm_status_one, Procedure.run_bind, run_write, run_select,
      run_raise]
  · rw [if_neg hdeleted, if_neg hdeleted]
    rfl

omit [LinearOrder Time] in
theorem blind_vm_create_cb_end (vm : vms.models.Vm Time) (result : Result Time) (failure : Failure) :
    Blind (vm_create_cb_end vm result failure : Callback Node Time (Result Time)) := by
  unfold vm_create_cb_end
  split
  · refine Blind.bind ?_ fun _ => blind_raise _
    exact Blind.bind (blind_write (fun _ => rfl) fun _ => rfl) fun _ => blind_select fun _ => rfl
  · exact Blind.bind (Blind.pure ()) fun _ => blind_raise _

/-- The run after a failed command. -/
theorem run_vm_create_cb_of_failed (deploys : Bool) (hvm : s.db.vm = some vm) (hfailed : ¬ s.result.created)
    (hreturncode : s.result.returncode = some returncode) (hmessage : s.result.readable) :
    (vm_create_cb deploys).run s = (.error (.error (.bad_return_code returncode (s.result.message.getD ""))),
      s.vm_create_cb_failed vm s.result) := by
  have hbranch : ¬ (returncode = 0 ∧ contains (s.result.message.getD "") "Successfully created" = true) := by
    rintro ⟨rfl, hmsg⟩
    exact hfailed ⟨hreturncode, hmsg⟩
  simp only [vm_create_cb, Procedure.run_bind, run_Vm_get hvm, run_get, hreturncode, run_getitem_some]
  rw [if_neg hbranch]
  rw [Procedure.run_bind_of_ok (run_vm_create_cb_failed hmessage vm s)]
  exact run_vm_create_cb_end _ _ _ _

omit [LinearOrder Time] in
/-- The deletions can be made again. -/
theorem points_delete_recreated {result : Result Time}
    {point : Point (State Node Time) Statement (Raised Failure) Unit}
    (hpoint : point ∈ (delete_recreated result).points s) :
    point.failed = .throw .operational ∧ point.kind.logs = false ∧ point.kind ≠ .get_owner ∧
      point.kind ≠ .vm_status_one ∧
      point.state.db.vm = s.db.vm ∧ point.state.result = s.result ∧
      point.state.recreated result = s.recreated result := by
  unfold delete_recreated at hpoint
  split at hpoint
  · rename_i hrecreate
    rw [mem_points_getitem] at hpoint
    obtain ⟨message, hmessage, hpoint⟩ := hpoint
    split at hpoint
    · rename_i hdeleted
      have hrecreated : result.recreate_deleted = true := by
        simp [Result.recreate_deleted, hrecreate, hmessage, hdeleted]
      simp only [delete_vm_snapshots, Procedure.bind_assoc, mem_points_write, points_write, List.mem_singleton] at hpoint
      rcases hpoint with rfl | rfl | rfl | rfl <;>
        exact ⟨rfl, rfl, by simp, by simp, rfl, rfl, by simp [State.recreated, hrecreated, State.set_db, Db.recreated]⟩
    · cases hpoint
  · cases hpoint

omit [LinearOrder Time] in
theorem State.errored_task_log (s : State Node Time) (vm : vms.models.Vm Time) (result : Result Time) :
    (s.errored vm result).db.task_log = s.db.task_log := by
  unfold State.errored
  split <;> rfl

omit [LinearOrder Time] in
theorem Result.revert_state_ne_error (result : Result Time) : result.revert_state ≠ .ERROR := by
  unfold Result.revert_state
  split <;> exact fun h => by cases h

theorem not_too_old_none (db : Db Node Time) : ¬ db.too_old none := by
  simp [Db.too_old, api.vm.status.too_old]

/-- The second execution reverts the status ERROR, which logs another change, and sets it again. -/
theorem State.vm_create_cb_failed_of_error {e : State Node Time} {row : VmRow Node Time} {result : Result Time}
    (hrow : e.db.vm = some row) (he : e.recreated result = e) (hstore : row.store = ⟨.ERROR, none, some .ERROR, none⟩)
    (hdeleted : result.meta_.recreate ∧ contains (result.message.getD "") "Successfully deleted") :
    (row.slavevm → (e.vm_create_cb_failed row result).db = e.db) ∧
      (row.slavevm = false →
        (e.vm_create_cb_failed row result).db.task_log.length = e.db.task_log.length + 1) := by
  have hstatus : row.store.status ≠ result.revert_state := by
    rw [hstore]
    exact (Result.revert_state_ne_error result).symm
  rw [State.vm_create_cb_failed, he, State.reverted, VmRow.reverted, if_pos hstatus, if_pos hstatus,
    State.errored, if_pos hdeleted, State.vm_status_changed, if_neg (not_too_old_none _)]
  constructor
  · intro hslave
    rw [if_pos hslave]
    have hchanged := congrArg Db.vm
      (Db.save_status_of_vm hrow (row.changed result.revert_state row.store.status) none)
    have herror : ({ (row.changed result.revert_state row.store.status).saved none with status := .ERROR } :
        vms.models.Vm Time).status ≠ ((row.changed result.revert_state row.store.status).saved none)._orig_status :=
      (Result.revert_state_ne_error result).symm
    have hsaved : ({ (row.changed result.revert_state row.store.status).saved none with status := .ERROR } :
        vms.models.Vm Time).save none ((row.changed result.revert_state row.store.status).save none row.store) =
          row.store := by
      rw [vms.models.Vm.save_of_changed herror, hstore]
    rw [State.set_db_db, State.set_db_db, Db.save_status_of_vm hchanged, Db.save_status_of_vm hrow]
    simp only [hsaved, ← hrow]
  · intro hslave
    rw [if_neg (by simp [hslave])]
    simp [State.task_log, Db.save_status, Db.update_vm]

/-- The statements after the status has been reverted. -/
theorem vm_create_cb_recovers_iff_of_reverted {deploys : Bool} {u : State Node Time} {row : VmRow Node Time}
    {result : Result Time} {outcome : Except (Raised Failure) (Result Time)}
    (hrow : u.db.vm = some row) (hu : u.recreated result = u) (hstatus : row.store.status = result.revert_state)
    (hrun : (vm_create_cb deploys).run s = (outcome, u.errored (vms.models.Vm.get row.store) result))
    (hagain : ∀ (t : State Node Time) (row : VmRow Node Time), t.db.vm = some row → t.result = u.result →
      (vm_create_cb deploys).run t = (outcome, t.vm_create_cb_failed row result))
    {failure : Failure} {point : Point (State Node Time) Statement (Raised Failure) (Result Time)}
    (hpoint : point ∈ (vm_create_cb_end (vms.models.Vm.get row.store) result failure).points u) :
    Recovers (vm_create_cb deploys) s point ↔
      point.kind.safe s fun kind => kind ≠ .get_owner ∧ (kind = .vm_status_one → row.slavevm) := by
  unfold vm_create_cb_end at hpoint
  split at hpoint
  · rename_i hdeleted
    rw [State.errored, if_pos hdeleted] at hrun
    rw [_vm_error, Procedure.bind_assoc, save_error, save_status, mem_points_write, vm_status_one,
      mem_points_select] at hpoint
    rcases hpoint with rfl | rfl | hpoint
    · rw [recovers_of_raised fun _ => rfl]
      refine iff_of_true ?_ ⟨by simp, by simp⟩
      rw [Same, hrun, hagain u row hrow rfl, State.vm_create_cb_failed_of_reverted hu hstatus, State.errored,
        if_pos hdeleted]
      exact ⟨rfl, rfl⟩
    · rw [recovers_of_raised fun _ => rfl]
      have herror := congrArg Db.vm
        (Db.save_status_of_vm hrow { vms.models.Vm.get row.store with status := .ERROR } none)
      have hchanged : ({ vms.models.Vm.get row.store with status := .ERROR } : vms.models.Vm Time).status ≠
          (vms.models.Vm.get row.store)._orig_status := by
        intro h
        exact Result.revert_state_ne_error result (hstatus.symm.trans h.symm)
      obtain ⟨hslave, hnot_slave⟩ := State.vm_create_cb_failed_of_error (e := State.set_db u _) herror
        (State.recreated_save_status hu _ _) (vms.models.Vm.save_of_changed hchanged) hdeleted
      cases hslavevm : row.slavevm with
      | true =>
        refine iff_of_true ?_ ⟨by simp, fun _ => rfl⟩
        rw [Same, hrun, hagain (State.set_db u _) _ herror rfl]
        exact ⟨rfl, hslave hslavevm⟩
      | false =>
        refine iff_of_false (not_same_of_task_log_length ?_) fun h => by cases h.2 rfl
        rw [hrun, hagain (State.set_db u _) _ herror rfl, hnot_slave hslavevm]
        exact Nat.succ_ne_self _
    · cases hpoint
  · cases hpoint

/-- The failures after a failed command. -/
theorem vm_create_cb_recovers_iff_of_failed {deploys : Bool} (hvm : s.db.vm = some vm)
    (hfailed : ¬ s.result.created) (hreturncode : s.result.returncode = some returncode)
    {point : Point (State Node Time) Statement (Raised Failure) (Result Time)}
    (hpoint : point ∈ (_vm_create_cb_failed vm s.result >>= fun vm =>
      vm_create_cb_end vm s.result (.bad_return_code returncode (s.result.message.getD ""))).points s) :
    Recovers (vm_create_cb deploys) s point ↔
      point.kind.safe s fun kind => kind ≠ .get_owner ∧ (kind = .vm_status_one → vm.slavevm) := by
  by_cases hmessage : s.result.readable
  swap
  · simp only [Result.readable, Classical.not_imp] at hmessage
    obtain ⟨hrecreate, hmessage⟩ := hmessage
    rw [_vm_create_cb_failed, delete_recreated, if_pos hrecreate, Option.not_isSome_iff_eq_none.mp hmessage] at hpoint
    cases hpoint
  have hrun := run_vm_create_cb_of_failed deploys hvm hfailed hreturncode hmessage
  have hagain (t : State Node Time) (row : VmRow Node Time) (hrow : t.db.vm = some row)
      (hresult : t.result = s.result) : (vm_create_cb deploys).run t =
        (.error (.error (.bad_return_code returncode (s.result.message.getD ""))),
          t.vm_create_cb_failed row s.result) := by
    rw [run_vm_create_cb_of_failed deploys hrow (by rw [hresult]; exact hfailed) (by rw [hresult]; exact hreturncode)
      (by rw [hresult]; exact hmessage), hresult]
  rw [_vm_create_cb_failed, Procedure.bind_assoc, Procedure.mem_points_bind] at hpoint
  rcases hpoint with ⟨first, hfirst, rfl⟩ | ⟨_, t, ht, hpoint⟩
  · obtain ⟨hthrow, hlogs, howner, hone, hrow, hresult, hrecreated⟩ := points_delete_recreated hfirst
    rw [hthrow, throw_bind, recovers_of_raised fun _ => rfl]
    refine iff_of_true ?_ ((Statement.safe_iff hlogs).mpr ⟨howner, fun h => absurd h hone⟩)
    rw [Same, hrun, hagain _ vm (hrow.trans hvm) hresult, State.vm_create_cb_failed, State.vm_create_cb_failed,
      hrecreated]
    exact ⟨rfl, rfl⟩
  rw [run_delete_recreated hmessage] at ht
  cases ht
  obtain ⟨row, hrow, hstore, hslavevm⟩ := State.recreated_vm hvm s.result
  have hs := State.recreated_recreated s s.result
  have hresult := State.recreated_result s s.result
  have hsame_owner := State.recreated_same_owner s s.result
  generalize hu : s.recreated s.result = u at hpoint hrow hs hresult hsame_owner
  obtain ⟨hreverted, hobject⟩ := State.reverted_congr hstore hslavevm u s.result
  have hrun' : (vm_create_cb deploys).run s = (.error (.error (.bad_return_code returncode (s.result.message.getD ""))),
      (u.reverted row s.result).errored (row.reverted s.result) s.result) := by
    rw [hrun, State.vm_create_cb_failed, hu, hreverted, hobject]
  rw [← hslavevm]
  rw [← hstore] at hpoint
  split at hpoint
  · rename_i hstatus
    have hchanged (state old_state : Status) : vm.changed state old_state = row.changed state old_state := by
      rw [VmRow.changed, VmRow.changed, hstore]
    have hcall : (vm_status_changed vm : Status → Status → Option Time → Callback Node Time Unit) =
        vm_status_changed row := by
      funext state old_state change_time
      simp only [vm_status_changed, hchanged, hslavevm]
    rw [Procedure.bind_assoc, hcall] at hpoint
    simp only [hchanged, Procedure.pure_bind] at hpoint
    have hold := not_too_old_none u.db
    have hfinal := hrun'
    have hstatus' := vms.models.Vm.save_status (row.changed s.result.revert_state row.store.status) none row.store
    have hobject := vms.models.Vm.get_save (row.changed s.result.revert_state row.store.status) none row.store
    have hpoint := mem_points_vm_status_changed hpoint
    rw [State.vm_status_changed, if_neg hold] at hpoint
    rw [State.reverted, VmRow.reverted, if_pos hstatus, if_pos hstatus, State.vm_status_changed, if_neg hold] at hrun'
    dsimp only at hpoint hrun'
    generalize LogEntry.status_change s.result.revert_state _ = entry at hpoint hrun'
    have hx_vm : (u.set_db (Db.save_status (row.changed s.result.revert_state row.store.status) none)).db.vm = _ :=
      congrArg Db.vm (Db.save_status_of_vm hrow (row.changed s.result.revert_state row.store.status) none)
    have hx := State.recreated_save_status hs (row.changed s.result.revert_state row.store.status) none
    have hx_result : (u.set_db (Db.save_status (row.changed s.result.revert_state row.store.status) none)).result =
        s.result := hresult
    have hx_owner : (u.set_db (Db.save_status (row.changed s.result.revert_state row.store.status) none)).same_owner =
        s.same_owner := hsame_owner
    generalize u.set_db (Db.save_status (row.changed s.result.revert_state row.store.status) none) = x
      at hpoint hrun' hx hx_vm hx_result hx_owner
    have hreverted (t : State Node Time) (ht : t.db.vm = x.db.vm) (ht_result : t.result = s.result)
        (ht_recreated : t.recreated s.result = t) : (vm_create_cb deploys).run t =
          (.error (.error (.bad_return_code returncode (s.result.message.getD ""))),
            t.errored ((row.changed s.result.revert_state row.store.status).saved none) s.result) := by
      rw [hagain t _ (ht.trans hx_vm) ht_result, State.vm_create_cb_failed_of_reverted ht_recreated hstatus', hobject]
    rcases hpoint with ⟨-, rfl | ⟨hslave, rfl | hlog⟩⟩ | hpoint
    · rw [recovers_of_raised fun _ => rfl]
      refine iff_of_true ?_ ⟨by simp, by simp⟩
      rw [Same, hfinal, hagain u row hrow hresult, State.vm_create_cb_failed, hs]
      exact ⟨rfl, rfl⟩
    · -- the second execution finds the status reverted and logs nothing
      rw [recovers_of_raised fun _ => rfl]
      refine iff_of_false (not_same_of_task_log_length ?_) fun h => h.1 rfl
      rw [if_neg (by simp [hslave])] at hrun'
      rw [hrun', hreverted x rfl hx_result hx, State.errored_task_log, State.errored_task_log, State.task_log,
        Db.log_task_log_length]
      exact (Nat.succ_ne_self _).symm
    · refine recovers_iff_of_logPoint (t := x) (blind_vm_create_cb_end _ _ _) ?_ hx_owner hlog
      rw [if_neg (by simp [hslave])] at hrun'
      rw [hrun', run_vm_create_cb_end]
    · rw [← hobject] at hpoint hrun'
      cases hslave : row.slavevm with
      | true =>
        rw [if_pos hslave] at hrun' hpoint
        have hdone := vm_create_cb_recovers_iff_of_reverted hx_vm hx hstatus' hrun'
          (fun v row hrow hv => hagain v row hrow (hv.trans hx_result)) hpoint
        simpa [hslave] using hdone
      | false =>
        have hslave' : ¬ row.slavevm = true := by simp [hslave]
        rw [if_neg hslave'] at hrun' hpoint
        have hdone := vm_create_cb_recovers_iff_of_reverted (u := x.task_log entry) hx_vm
          (State.recreated_log hx rfl) hstatus' hrun'
          (fun v row hrow hv => hagain v row hrow (hv.trans hx_result)) hpoint
        simpa [hslave] using hdone
  · rename_i hstatus
    rw [Procedure.pure_bind] at hpoint
    rw [State.reverted, VmRow.reverted, if_neg hstatus, if_neg hstatus] at hrun'
    refine vm_create_cb_recovers_iff_of_reverted hrow hs (not_not.mp hstatus) hrun' ?_ hpoint
    intro t row hrow ht
    exact hagain t row hrow (ht.trans hresult)

end failed

section created

variable {s : State Node Time} {vm : VmRow Node Time} {deploys same_owner : Bool}

/-- What a failure after the json has been taken leaves for the second execution. -/
def create_taken (same_owner : Bool) (s : State Node Time) : Prop :=
  json_taken same_owner s ∧ s.result.message.isSome

theorem vm_create_cb_json_missing (hs : create_taken same_owner s) :
    ∃ e, ((vm_create_cb deploys).run s).1 = .error e ∧ json_missing e := by
  obtain ⟨⟨hvm, hjson, hreturncode, -⟩, hmessage⟩ := hs
  obtain ⟨vm, hvm⟩ := Option.isSome_iff_exists.mp hvm
  by_cases hcreated : s.result.created
  · refine ⟨.error .parse_json, ?_, .inl rfl⟩
    rw [run_vm_create_cb deploys hvm hcreated, Procedure.run_bind,
      run_vm_create_cb_load_none (by rw [hjson]; simp)]
  · refine ⟨.error (.bad_return_code 0 (s.result.message.getD "")), ?_, .inr ⟨_, rfl⟩⟩
    rw [run_vm_create_cb_of_failed deploys hvm hcreated hreturncode fun _ => hmessage]

/-- The failures after a json that cannot be loaded. -/
theorem vm_create_cb_recovers_of_unloaded (hvm : s.db.vm = some vm) (hcreated : s.result.created)
    (hjson : ∀ json, s.result.json ≠ some (some json))
    {point : Point (State Node Time) Statement (Raised Failure) (Result Time)}
    (hpoint : point ∈ (vm_create_cb_load vm s.result.json s.result.meta_.recreate >>= fun json_active =>
      vm_create_cb_done deploys vm json_active s.result).points s.pop_json) :
    (point.kind = .save_error ∨ point.kind = .vm_status_one) ∧ Recovers (vm_create_cb deploys) s point := by
  have hrun := run_vm_create_cb deploys hvm hcreated
  rw [Procedure.run_bind, run_vm_create_cb_load_none hjson] at hrun
  dsimp only at hrun
  have hagain (t : State Node Time) (row : VmRow Node Time) (hrow : t.db.vm = some row)
      (ht : t.result = s.pop_json.result) : (vm_create_cb deploys).run t = (.error (.error .parse_json),
        t.set_db (Db.save_status { vms.models.Vm.get row.store with status := .ERROR } none)) := by
    have hnone : t.result.json = none := by
      rw [ht]
      rfl
    have hcreated' : t.result.created := by
      rw [ht]
      exact hcreated
    rw [run_vm_create_cb deploys hrow hcreated', Procedure.run_bind,
      run_vm_create_cb_load_none (by rw [hnone]; simp), State.pop_json_of_none hnone]
  rw [Procedure.mem_points_bind] at hpoint
  rcases hpoint with ⟨first, hfirst, rfl⟩ | ⟨json_active, t, ht, _⟩
  · rw [vm_create_cb_load, Procedure.mem_points_handle] at hfirst
    rcases hfirst with ⟨inner, hinner, rfl⟩ | ⟨e, t, ht, hfirst⟩
    · rw [mem_points_load] at hinner
      obtain ⟨json, hsome, -⟩ := hinner
      exact absurd hsome (hjson json)
    · have hunchanged : t = s.pop_json := by
        rcases hload : s.result.json with - | - | json
        · rw [hload] at ht
          cases ht
          rfl
        · rw [hload] at ht
          cases ht
          rfl
        · exact absurd hload (hjson json)
      subst hunchanged
      rw [_vm_error, Procedure.bind_assoc, save_error, save_status, mem_points_write, vm_status_one,
        mem_points_select] at hfirst
      rcases hfirst with rfl | rfl | hfirst
      · refine ⟨.inl rfl, ?_⟩
        rw [throw_bind, recovers_of_raised fun _ => rfl, Same, hrun, hagain s.pop_json vm hvm rfl]
        exact ⟨rfl, rfl⟩
      · refine ⟨.inr rfl, ?_⟩
        have hvm' : s.pop_json.db.vm = some vm := hvm
        have hrow := congrArg Db.vm (Db.save_status_of_vm hvm'
          { vms.models.Vm.get vm.store with status := .ERROR } none)
        rw [throw_bind, recovers_of_raised fun _ => rfl, Same, hrun, hagain (State.set_db _ _) _ hrow rfl]
        exact ⟨rfl, Db.save_status_twice hvm'
          { vms.models.Vm.get vm.store with status := .ERROR } none none⟩
      · cases hfirst
  · rw [run_vm_create_cb_load_none hjson] at ht
    cases ht

section defines

variable {s : State Node Time}

def Db.defines (db : Db Node Time) : Nat := db.snapshot_defines.length + db.backup_defines.length

omit [LinearOrder Time] in
theorem run_create_from_template {effect : Value → Db Node Time → Db Node Time}
    (heffect : ∀ data db, (effect data db).defines = db.defines + 1) (rest : List Value) (s : State Node Time) :
    ∃ t, (create_from_template effect rest).run s = (.ok (), t) ∧ t.db.defines = s.db.defines + rest.length ∧
      t.result = s.result := by
  induction rest generalizing s with
  | nil => exact ⟨s, rfl, rfl, rfl⟩
  | cons data rest ih =>
    obtain ⟨t, hrun, hdefines, hresult⟩ := ih (s.set_db (effect data))
    refine ⟨t, ?_, ?_, hresult⟩
    · simp only [create_from_template, Procedure.run_bind, Procedure.run_handle, run_write]
      exact hrun
    · rw [hdefines, State.set_db_db, heffect, List.length_cons]
      omega

omit [LinearOrder Time] in
/-- A definition that fails is the only one that is missing. -/
theorem points_create_from_template {effect : Value → Db Node Time → Db Node Time}
    (heffect : ∀ data db, (effect data db).defines = db.defines + 1) {rest : List Value} {s : State Node Time}
    {point : Point (State Node Time) Statement (Raised Failure) Unit}
    (hpoint : point ∈ (create_from_template effect rest).points s) :
    point.kind = .create_define ∧
      ∃ t, point.failed.run point.state = (.ok (), t) ∧ t.db.defines < s.db.defines + rest.length := by
  induction rest generalizing s with
  | nil => cases hpoint
  | cons data rest ih =>
    rw [create_from_template, Procedure.mem_points_bind] at hpoint
    rcases hpoint with ⟨first, hfirst, rfl⟩ | ⟨_, t, ht, hpoint⟩
    · rw [Procedure.mem_points_handle, points_write] at hfirst
      rcases hfirst with ⟨inner, hinner, rfl⟩ | ⟨_, _, _, hfirst⟩
      · cases List.mem_singleton.mp hinner
        obtain ⟨t, hrun, hdefines, -⟩ := run_create_from_template heffect rest s
        refine ⟨rfl, t, hrun, ?_⟩
        rw [hdefines, List.length_cons]
        omega
      · cases hfirst
    · rw [Procedure.run_handle, run_write] at ht
      cases ht
      obtain ⟨hkind, t, hrun, hdefines⟩ := ih hpoint
      refine ⟨hkind, t, hrun, ?_⟩
      rw [State.set_db_db, heffect] at hdefines
      rw [List.length_cons]
      omega

omit [LinearOrder Time] in
theorem snapshot_defines_append (data : Value) (db : Db Node Time) :
    { db with snapshot_defines := db.snapshot_defines ++ [data] : Db Node Time }.defines = db.defines + 1 := by
  simp only [Db.defines, List.length_append, List.length_singleton]
  omega

omit [LinearOrder Time] in
theorem backup_defines_append (data : Value) (db : Db Node Time) :
    { db with backup_defines := db.backup_defines ++ [data] : Db Node Time }.defines = db.defines + 1 := by
  simp only [Db.defines, List.length_append, List.length_singleton]
  omega

omit [LinearOrder Time] in
theorem run_create_template_defines (vm_define_snapshot vm_define_backup : List Value) (s : State Node Time) :
    ∃ t, (create_template_defines vm_define_snapshot vm_define_backup).run s = (.ok (), t) ∧
      t.db.defines = s.db.defines + vm_define_snapshot.length + vm_define_backup.length := by
  obtain ⟨t, hrun, hdefines, -⟩ := run_create_from_template snapshot_defines_append vm_define_snapshot s
  obtain ⟨t', hrun', hdefines', -⟩ := run_create_from_template backup_defines_append vm_define_backup t
  refine ⟨t', ?_, by omega⟩
  simp only [create_template_defines, Procedure.run_bind, run_select, hrun, hrun']

omit [LinearOrder Time] in
theorem points_create_template_defines {vm_define_snapshot vm_define_backup : List Value}
    {point : Point (State Node Time) Statement (Raised Failure) Unit}
    (hpoint : point ∈ (create_template_defines vm_define_snapshot vm_define_backup).points s) :
    point = ⟨.get_user, .throw .operational, s⟩ ∨ (point.kind = .create_define ∧
      ∃ t, point.failed.run point.state = (.ok (), t) ∧
        t.db.defines < s.db.defines + vm_define_snapshot.length + vm_define_backup.length) := by
  rw [create_template_defines, mem_points_select] at hpoint
  rcases hpoint with hpoint | hpoint
  · exact .inl hpoint
  right
  rw [Procedure.mem_points_bind] at hpoint
  rcases hpoint with ⟨first, hfirst, rfl⟩ | ⟨_, t, ht, hpoint⟩
  · obtain ⟨hkind, t, hrun, hdefines⟩ := points_create_from_template snapshot_defines_append hfirst
    obtain ⟨t', hrun', hdefines', -⟩ := run_create_from_template backup_defines_append vm_define_backup t
    refine ⟨hkind, t', ?_, by omega⟩
    simp only [Procedure.run_bind, hrun, hrun']
  · obtain ⟨t', hrun, hdefines, -⟩ := run_create_from_template snapshot_defines_append vm_define_snapshot s
    rw [hrun] at ht
    cases ht
    obtain ⟨hkind, t, hrun', hdefines'⟩ := points_create_from_template backup_defines_append hpoint
    exact ⟨hkind, t, hrun', by omega⟩

omit [LinearOrder Time] in
theorem run_create_defines (vm : VmRow Node Time) (s : State Node Time) :
    ∃ t, (create_defines vm).run s = (.ok (), t) := by
  unfold create_defines
  split
  · exact ⟨s, rfl⟩
  · rename_i vm_define_snapshot vm_define_backup _
    split
    · exact ⟨s, rfl⟩
    · obtain ⟨t, hrun, -⟩ := run_create_template_defines vm_define_snapshot vm_define_backup s
      exact ⟨t, by rw [Procedure.run_handle, hrun]⟩

omit [LinearOrder Time] in
/-- A failure while the definitions of the template are created leaves fewer of them. -/
theorem points_create_defines {vm : VmRow Node Time}
    {point : Point (State Node Time) Statement (Raised Failure) Unit}
    (hpoint : point ∈ (create_defines vm).points s) :
    point.kind.logs = false ∧ point.kind ≠ .get_vm ∧
      ∃ t, point.failed.run point.state = (.ok (), t) ∧
        t.db.defines < ((create_defines vm).run s).2.db.defines := by
  unfold create_defines at hpoint ⊢
  split at hpoint
  · cases hpoint
  · rename_i vm_define_snapshot vm_define_backup _
    split at hpoint
    · cases hpoint
    · rename_i hempty
      obtain ⟨t, hrun, hdefines⟩ := run_create_template_defines vm_define_snapshot vm_define_backup s
      have hfinal : ((create_template_defines vm_define_snapshot vm_define_backup).handle fun _ => pure ()).run s =
          (.ok (), t) := by
        rw [Procedure.run_handle, hrun]
      rw [Procedure.mem_points_handle] at hpoint
      rcases hpoint with ⟨first, hfirst, rfl⟩ | ⟨_, _, _, hpoint⟩
      · dsimp only
        rw [if_neg hempty, hfinal]
        rcases points_create_template_defines hfirst with rfl | ⟨hkind, t', hfailed, hdefines'⟩
        · refine ⟨rfl, by simp, s, rfl, ?_⟩
          rw [hdefines]
          rcases not_and_or.mp hempty with hne | hne
          · have hlength := List.length_pos_of_ne_nil hne
            omega
          · have hlength := List.length_pos_of_ne_nil hne
            omega
        · refine ⟨by rw [hkind]; rfl, by rw [hkind]; simp, t', ?_, lt_of_lt_of_eq hdefines' hdefines.symm⟩
          rw [Procedure.run_handle, hfailed]
      · cases hpoint

omit [LinearOrder Time] in
theorem blind_create_from_template {effect : Value → Db Node Time → Db Node Time}
    (heffect : ∀ data db, (effect data db).log_free = effect data db.log_free)
    (hlog : ∀ data db, (effect data db).task_log = db.task_log) (rest : List Value) :
    Blind (create_from_template effect rest) := by
  induction rest with
  | nil => exact Blind.pure ()
  | cons data rest ih =>
    rw [create_from_template]
    exact Blind.bind (Blind.handle (blind_write (heffect data) (hlog data)) fun _ => Blind.pure ()) fun _ => ih

omit [LinearOrder Time] in
theorem blind_create_defines (vm : VmRow Node Time) : Blind (create_defines vm) := by
  unfold create_defines
  split
  · exact Blind.pure ()
  · split
    · exact Blind.pure ()
    · refine Blind.handle ?_ fun _ => Blind.pure ()
      refine Blind.bind (blind_select fun _ => rfl) fun _ => ?_
      refine Blind.bind ?_ fun _ => ?_
      · apply blind_create_from_template <;> exact fun _ _ => rfl
      · apply blind_create_from_template <;> exact fun _ _ => rfl

end defines

omit [LinearOrder Time] in
theorem create_taken_update_vm (f : VmRow Node Time → VmRow Node Time) (s : State Node Time)
    (hs : create_taken same_owner s) :
    create_taken same_owner (s.set_db fun db => db.update_vm f) :=
  ⟨json_taken_set_db (Db.update_vm_isSome f) s hs.1, hs.2⟩

omit [LinearOrder Time] in
/-- The statements of the transaction, of the wait for the deploy and of the log. -/
theorem settles_vm_create_cb_save (vm : VmRow Node Time) (json_active : Json) (result : Result Time) :
    Settles same_owner (create_taken same_owner) (fun kind => kind.logs = false ∧ kind ≠ .get_vm)
      (vm_create_cb_save deploys vm json_active result) := by
  have herror : Exposed .operational (create_taken same_owner) (fun kind => kind.logs = false ∧ kind ≠ .get_vm)
      (save_error (vms.models.Vm.get vm.store) : Callback Node Time Unit) :=
    exposed_write ⟨rfl, by simp⟩ (create_taken_update_vm _)
  have hlog (kind : LogKind) (entry : LogEntry Time) : Settles same_owner (create_taken same_owner)
      (fun kind => kind.logs = false ∧ kind ≠ .get_vm) (task_log kind entry : Callback Node Time Unit) :=
    settles_task_log kind entry (fun s hs => hs) fun s hs => hs.1.2.2.2
  unfold vm_create_cb_save
  refine Settles.after (exposed_write ⟨rfl, by simp⟩ (create_taken_update_vm _)) fun _ => ?_
  split
  · exact Settles.of_exposed (Exposed.bind herror fun _ => exposed_raise _)
  · split
    · refine Settles.after herror fun _ => ?_
      refine Settles.after (exposed_modify fun s hs => ⟨hs.1, rfl⟩) fun _ => ?_
      exact Settles.bind (hlog _ _) (fun _ => Blind.pure _) fun _ => Settles.of_exposed (Exposed.pure _ _ _ _)
    · refine Settles.after (exposed_Vm_get ⟨rfl, by simp⟩) fun vm => ?_
      refine Settles.after (exposed_select ⟨rfl, by simp⟩ _) fun _ => ?_
      refine Settles.after (exposed_modify fun s hs => ⟨hs.1, ?_⟩) fun _ => ?_
      · exact (Option.isSome_map).trans hs.2
      exact Settles.bind (hlog _ _) (fun _ => Blind.pure _) fun _ => Settles.of_exposed (Exposed.pure _ _ _ _)

omit [LinearOrder Time] in
theorem raises_vm_create_cb_save (vm : VmRow Node Time) (json_active : Json) (result : Result Time) :
    Raises (fun e => ¬ json_missing e) (vm_create_cb_save deploys vm json_active result) := by
  unfold vm_create_cb_save
  refine Raises.bind (raises_execute _ _) fun _ => ?_
  split
  · refine Raises.bind (raises_execute _ _) fun _ => ?_
    exact raises_raise (by simp [json_missing])
  · split
    · refine Raises.bind (raises_execute _ _) fun _ => ?_
      refine Raises.bind (raises_modify _) fun _ => ?_
      refine Raises.bind (raises_task_log _ _) fun _ => ?_
      exact Raises.pure _ _
    · refine Raises.bind (raises_Vm_get _ (by simp [json_missing])) fun vm => ?_
      refine Raises.bind (raises_query _ _) fun _ => ?_
      refine Raises.bind (raises_modify _) fun _ => ?_
      refine Raises.bind (raises_task_log _ _) fun _ => ?_
      exact Raises.pure _ _

omit [LinearOrder Time] in
theorem raises_vm_create_cb_done (vm : VmRow Node Time) (json_active : Json) (result : Result Time) :
    Raises (fun e => ¬ json_missing e) (vm_create_cb_done deploys vm json_active result) := by
  refine Raises.bind (raises_vm_create_cb_save vm json_active result) fun vm => ?_
  cases vm with
  | none => exact Raises.bind raises_get fun _ => Raises.pure _ _
  | some vm =>
    refine Raises.bind ?_ fun _ => Raises.bind raises_get fun _ => Raises.pure _ _
    intro s e he
    obtain ⟨t, hrun⟩ := run_create_defines vm s
    rw [hrun] at he
    cases he

omit [LinearOrder Time] in
theorem Result.created_message {result : Result Time} (hcreated : result.created) : result.message.isSome := by
  obtain ⟨-, hmsg⟩ := hcreated
  cases hmessage : result.message with
  | none =>
    rw [hmessage] at hmsg
    exact absurd hmsg (by decide)
  | some message => rfl

omit [LinearOrder Time] in
/-- A json that is loaded is gone from the result. -/
theorem run_vm_create_cb_load (hvm : s.db.vm = some vm) (hcreated : s.result.created) (json : Json)
    (recreate : Bool) :
    ∃ t, (vm_create_cb_load vm (some (some json)) recreate).run s.pop_json = (.ok json, t) ∧
      create_taken s.same_owner t := by
  have htaken : create_taken s.same_owner s.pop_json :=
    ⟨⟨by rw [State.pop_json_db, hvm]; rfl, rfl, hcreated.1, rfl⟩, Result.created_message hcreated⟩
  cases recreate with
  | true => exact ⟨_, rfl, htaken⟩
  | false => exact ⟨_, rfl, htaken⟩

omit [LinearOrder Time] in
/-- A deletion that fails is taken for a json that cannot be loaded. -/
theorem points_vm_create_cb_load {json : Json} {recreate : Bool} {t : State Node Time}
    {point : Point (State Node Time) Statement (Raised Failure) Json}
    (hpoint : point ∈ (vm_create_cb_load vm (some (some json)) recreate).points t) :
    point.kind.logs = false ∧ point.kind ≠ .get_vm ∧
      (point.failed.run point.state).1 = .error (.error .parse_json) := by
  rw [vm_create_cb_load, Procedure.mem_points_handle] at hpoint
  rcases hpoint with ⟨inner, hinner, rfl⟩ | ⟨e, t', ht', _⟩
  · rw [mem_points_load] at hinner
    obtain ⟨json_active, -, hinner⟩ := hinner
    cases recreate with
    | true =>
      rw [if_pos rfl, delete_vm_snapshots] at hinner
      simp only [Procedure.bind_assoc, mem_points_write] at hinner
      rcases hinner with rfl | rfl | rfl | hinner
      · exact ⟨rfl, by simp, rfl⟩
      · exact ⟨rfl, by simp, rfl⟩
      · exact ⟨rfl, by simp, rfl⟩
      · cases hinner
    | false => cases hinner
  · cases recreate with
    | true => cases ht'
    | false => cases ht'

omit [LinearOrder Time] in
theorem vm_create_cb_retried_iff_of_loaded (hcreated : s.result.created) {json : Json}
    (hjson : s.result.json = some (some json)) {kind : Statement} :
    vm_create_cb_retried s kind ↔ kind = .get_vm := by
  simp [vm_create_cb_retried, hcreated, hjson]

/-- The failures after the json has been loaded. -/
theorem vm_create_cb_recovers_iff_of_loaded (hvm : s.db.vm = some vm) (hcreated : s.result.created) {json : Json}
    (hjson : s.result.json = some (some json))
    {point : Point (State Node Time) Statement (Raised Failure) (Result Time)}
    (hpoint : point ∈ (vm_create_cb_load vm s.result.json s.result.meta_.recreate >>= fun json_active =>
      vm_create_cb_done deploys vm json_active s.result).points s.pop_json) :
    Recovers (vm_create_cb deploys) s point ↔ point.kind.safe s (vm_create_cb_retried s) := by
  have hsafe {kind : Statement} (hlogs : kind.logs = false) (hkind : kind ≠ .get_vm) :
      ¬ kind.safe s (vm_create_cb_retried s) := by
    rw [Statement.safe_iff hlogs, vm_create_cb_retried_iff_of_loaded hcreated hjson]
    exact hkind
  have hrun := run_vm_create_cb deploys hvm hcreated
  rw [hjson] at hpoint hrun
  obtain ⟨t, ht, htaken⟩ := run_vm_create_cb_load hvm hcreated json s.result.meta_.recreate
  rw [Procedure.run_bind, ht] at hrun
  have hraises : ∀ e, ((vm_create_cb deploys).run s).1 = .error e → ¬ json_missing e := by
    intro e he
    rw [hrun] at he
    exact raises_vm_create_cb_done vm json s.result t e he
  rw [Procedure.mem_points_bind] at hpoint
  rcases hpoint with ⟨first, hfirst, rfl⟩ | ⟨_, t', ht', hpoint⟩
  · obtain ⟨hlogs, hkind, hfailed⟩ := points_vm_create_cb_load hfirst
    have houtcome : ((first.failed >>= fun json_active => vm_create_cb_done deploys vm json_active s.result).run
        first.state).1 = .error (.error .parse_json) := by
      rw [Procedure.run_bind]
      rcases hstate : first.failed.run first.state with ⟨outcome, u⟩
      rw [hstate] at hfailed
      cases hfailed
      rfl
    refine iff_of_false ?_ (hsafe hlogs hkind)
    rw [recovers_of_handled (by rw [houtcome]; simp)]
    rintro ⟨hsame, -⟩
    rw [houtcome] at hsame
    exact hraises _ hsame.symm (.inl rfl)
  · rw [ht] at ht'
    cases ht'
    rw [vm_create_cb_done, Procedure.mem_points_bind] at hpoint
    rcases hpoint with ⟨first, hfirst, rfl⟩ | ⟨deployed, u, hu, hpoint⟩
    · rcases (settles_vm_create_cb_save vm json s.result).fails t htaken first hfirst with
        ⟨⟨hlogs, hkind⟩, hstate, hfailed⟩ | hswallowed
      · refine iff_of_false ?_ (hsafe hlogs hkind)
        rw [recovers_of_raised fun s => by rw [Procedure.run_bind, hfailed]]
        exact not_same_of_raises hraises (vm_create_cb_json_missing hstate)
      · refine recovers_iff_of_swallowed hrun (hswallowed.bind fun deployed => ?_)
        cases deployed with
        | none => exact blind_result
        | some vm' => exact Blind.bind (blind_create_defines vm') fun _ => blind_result
    · cases deployed with
      | none => cases hpoint
      | some vm' =>
        obtain ⟨w, hw⟩ := run_create_defines vm' u
        have hfinal : ((vm_create_cb deploys).run s).2.db = ((create_defines vm').run u).2.db := by
          rw [hrun]
          simp only [vm_create_cb_done, Procedure.run_bind, hu, hw, run_get, Procedure.run_pure]
        dsimp only at hpoint
        rw [Procedure.mem_points_bind] at hpoint
        rcases hpoint with ⟨first, hfirst, rfl⟩ | ⟨_, _, _, hpoint⟩
        · obtain ⟨hlogs, hkind, v, hv, hdefines⟩ := points_create_defines hfirst
          refine iff_of_false ?_ (hsafe hlogs hkind)
          have hfailed : (first.failed >>= fun _ => (get : Callback Node Time _) >>= fun s => pure s.result).run
              first.state = (.ok v.result, v) := by
            simp only [Procedure.run_bind, hv, run_get, Procedure.run_pure]
          rw [recovers_of_handled (by rw [hfailed]; simp), hfailed, hfinal]
          rintro ⟨-, hdb⟩
          dsimp only at hdb
          rw [hdb] at hdefines
          exact lt_irrefl _ hdefines
        · cases hpoint

end created

/-- The failures that the retry of `vm_create_cb` makes up for. -/
theorem vm_create_cb_recovers_iff {deploys : Bool} {s : State Node Time}
    {point : Point (State Node Time) Statement (Raised Failure) (Result Time)}
    (hpoint : point ∈ (vm_create_cb deploys).points s) :
    Recovers (vm_create_cb deploys) s point ↔ point.kind.safe s (vm_create_cb_retried s) := by
  rw [vm_create_cb, mem_points_Vm_get] at hpoint
  rcases hpoint with rfl | ⟨vm, hvm, hpoint⟩
  · rw [recovers_of_raised fun _ => rfl]
    refine iff_of_true (Same.refl _ _) ?_
    by_cases hcreated : s.result.created
    · exact .inl ⟨hcreated, .inl rfl⟩
    · exact .inr ⟨hcreated, by simp, by simp⟩
  simp only [mem_points_get, mem_points_getitem] at hpoint
  obtain ⟨returncode, hreturncode, hpoint⟩ := hpoint
  split at hpoint
  · rename_i hbranch
    obtain ⟨rfl, hmsg⟩ := hbranch
    have hcreated : s.result.created := ⟨hreturncode, hmsg⟩
    rw [mem_points_pop_json] at hpoint
    by_cases hjson : ∃ json, s.result.json = some (some json)
    · obtain ⟨json, hjson⟩ := hjson
      exact vm_create_cb_recovers_iff_of_loaded hvm hcreated hjson hpoint
    · simp only [not_exists] at hjson
      obtain ⟨hkind, hrecovers⟩ := vm_create_cb_recovers_of_unloaded hvm hcreated hjson hpoint
      refine iff_of_true hrecovers ?_
      rcases hkind with hkind | hkind
      · rw [hkind]
        exact .inl ⟨hcreated, .inr ⟨.inl rfl, hjson⟩⟩
      · rw [hkind]
        exact .inl ⟨hcreated, .inr ⟨.inr rfl, hjson⟩⟩
  · rename_i hbranch
    have hfailed : ¬ s.result.created := by
      rintro ⟨hzero, hmsg⟩
      exact hbranch ⟨Option.some.inj (hreturncode.symm.trans hzero), hmsg⟩
    rw [vm_create_cb_recovers_iff_of_failed hvm hfailed hreturncode hpoint]
    exact Statement.safe_congr fun kind => by simp [vm_create_cb_retried, hfailed, hvm]

end api.callbacks
