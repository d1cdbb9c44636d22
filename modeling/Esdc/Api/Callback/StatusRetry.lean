import Esdc.Api.Callback.Status

namespace api.callbacks

open que.mgmt
open Procedure (Point Raises Exposed)
open vms.models (Status StatusStore)
open vms.definition (Json Value)

variable {Node Time : Type} [LinearOrder Time]

/-- The definition is updated before the status. -/
def Db.update_definition (db : Db Node Time) (json_active : Json) : Db Node Time :=
  db.update_vm fun row => { row with json := json_active, json_active }

def State.vm_status_cb_update (s : State Node Time) (vm : VmRow Node Time) (json : Option (Option Json)) :
    State Node Time :=
  match json, vm.definition.create_json_update_disks with
  | some (some json_active), some changes =>
    s.set_db fun db => (db.delete_removed changes.remove_).update_definition json_active
  | _, _ => s

omit [LinearOrder Time] in
@[simp] theorem State.vm_status_cb_update_result (s : State Node Time) (vm : VmRow Node Time)
    (json : Option (Option Json)) : (s.vm_status_cb_update vm json).result = s.result := by
  unfold State.vm_status_cb_update
  split <;> rfl

omit [LinearOrder Time] in
theorem State.vm_status_cb_update_same_owner (s : State Node Time) (vm : VmRow Node Time)
    (json : Option (Option Json)) : (s.vm_status_cb_update vm json).same_owner = s.same_owner := by
  unfold State.vm_status_cb_update
  split <;> rfl

omit [LinearOrder Time] in
theorem State.vm_status_cb_update_of_changes {vm : VmRow Node Time} {changes : vms.definition.Changes}
    (hchanges : vm.definition.create_json_update_disks = some changes) (s : State Node Time) (json_active : Json) :
    s.vm_status_cb_update vm (some (some json_active)) =
      s.set_db fun db => (db.delete_removed changes.remove_).update_definition json_active := by
  simp only [State.vm_status_cb_update, hchanges]

omit [LinearOrder Time] in
theorem State.vm_status_cb_update_vm {s : State Node Time} {vm : VmRow Node Time} (hvm : s.db.vm = some vm)
    (json : Option (Option Json)) : ∃ row, (s.vm_status_cb_update vm json).db.vm = some row ∧
      row.store = vm.store ∧ row.slavevm = vm.slavevm := by
  unfold State.vm_status_cb_update
  split
  · rename_i json_active changes hchanges
    refine ⟨{ vm with json := json_active, json_active }, ?_, rfl, rfl⟩
    simp [Db.update_definition, Db.update_vm, Db.delete_removed, hvm]
  · exact ⟨vm, hvm, rfl, rfl⟩

omit [LinearOrder Time] in
@[simp] theorem run_vm_status_cb_update (vm : VmRow Node Time) (json : Option (Option Json))
    (s : State Node Time) :
    (vm_status_cb_update vm json).run s = (.ok (), s.vm_status_cb_update vm json) := by
  rcases json with - | - | json_active
  · rfl
  · rfl
  · cases hchanges : vm.definition.create_json_update_disks with
    | none =>
      simp [vm_status_cb_update, State.vm_status_cb_update, Procedure.run_bind, Procedure.run_handle, hchanges,
        run_vm_delete_snapshots_of_removed_disks_none hchanges]
    | some changes =>
      simp [vm_status_cb_update, State.vm_status_cb_update, Procedure.run_bind, Procedure.run_handle, hchanges,
        run_vm_delete_snapshots_of_removed_disks hchanges]
      rfl

theorem run_vm_status_cb_done_none {result : Result Time} (hnew_status : result.new_status = none)
    (vm : VmRow Node Time) (s : State Node Time) :
    (vm_status_cb_done vm result).run s =
      (.error (.error (.unknown_status (result.message.getD ""))), s) := by
  rw [vm_status_cb_done, hnew_status]
  rfl

theorem run_vm_status_cb_done {result : Result Time} {new_status : Status} {change_time : Option Time}
    (hnew_status : result.new_status = some (new_status, change_time)) (vm : VmRow Node Time)
    (s : State Node Time) :
    (vm_status_cb_done vm result).run s = (.ok s.result,
      (s.vm_status_changed vm new_status vm.store.status change_time).task_log
        (.success (result.message.getD ""))) := by
  rw [vm_status_cb_done, hnew_status]
  simp [Procedure.run_bind, State.task_log]

def Result.succeeded (result : Result Time) : Prop :=
  result.returncode = some 0 ∧ startswith (result.message.getD "") "Successfully"

/-- The run after a successful command. -/
theorem run_vm_status_cb {s : State Node Time} {vm : VmRow Node Time} (hvm : s.db.vm = some vm)
    (hsucceeded : s.result.succeeded) :
    vm_status_cb.run s = (vm_status_cb_done vm s.pop_json.result).run
      (if s.result.updated then s.pop_json.vm_status_cb_update vm s.result.json else s.pop_json) := by
  obtain ⟨hreturncode, hmsg⟩ := hsucceeded
  have hreturncode' : s.pop_json.result.returncode = some 0 := hreturncode
  simp only [vm_status_cb, Procedure.run_bind, run_Vm_get hvm, run_pop_json, run_get, hreturncode',
    run_getitem_some]
  rw [if_pos ⟨trivial, hmsg⟩]
  have hupdated : s.pop_json.result.updated = s.result.updated := rfl
  rw [hupdated]
  cases s.result.updated with
  | true => simp [Procedure.run_bind]
  | false => simp [Procedure.run_bind]

/-- The retry has no definition to update. -/
theorem run_vm_status_cb_again {s : State Node Time} {vm : VmRow Node Time} (hvm : s.db.vm = some vm)
    (hsucceeded : s.result.succeeded) (hjson : s.result.json = none) :
    vm_status_cb.run s = (vm_status_cb_done vm s.result).run s := by
  rw [run_vm_status_cb hvm hsucceeded, State.pop_json_of_none hjson, hjson]
  have hupdate : s.vm_status_cb_update vm none = s := rfl
  rw [hupdate, ite_self]

/-- Only the status and whether it is a slave VM count. -/
theorem vm_status_cb_done_congr {vm vm' : VmRow Node Time} (hstore : vm'.store = vm.store)
    (hslavevm : vm'.slavevm = vm.slavevm) (result : Result Time) :
    vm_status_cb_done vm' result = vm_status_cb_done vm result := by
  simp only [vm_status_cb_done, vm_status_changed, VmRow.changed, hstore, hslavevm]

theorem vm_status_cb_done_definition (vm : VmRow Node Time) (result : Result Time) (s : State Node Time) :
    ((vm_status_cb_done vm result).run s).2.db.vm.map (fun row => (row.json, row.json_active)) =
      s.db.vm.map fun row => (row.json, row.json_active) := by
  rcases hnew_status : result.new_status with - | ⟨new_status, change_time⟩
  · rw [run_vm_status_cb_done_none hnew_status]
  · rw [run_vm_status_cb_done hnew_status]
    exact State.vm_status_changed_definition _ _ _ _ _

theorem vm_status_cb_done_ne_operational (vm : VmRow Node Time) (result : Result Time) (s : State Node Time) :
    ((vm_status_cb_done vm result).run s).1 ≠ .error .operational := by
  rcases hnew_status : result.new_status with - | ⟨new_status, change_time⟩
  · rw [run_vm_status_cb_done_none hnew_status]
    simp
  · rw [run_vm_status_cb_done hnew_status]
    simp

/-- The failures that the second execution makes up for. -/
def vm_status_cb_retried (s : State Node Time) : Statement → Prop
  | .get_vm | .save_status | .last_status | .vm_status_one => True
  | .save_definition => ∃ vm json, s.db.vm = some vm ∧ s.result.json = some (some json) ∧
      vm.json = json ∧ vm.json_active = json
  | .get_owner => s.result.succeeded
  | _ => False

section succeeded

variable {s : State Node Time} {vm : VmRow Node Time}

omit [LinearOrder Time] in
/-- The statements of the update; what follows a failed deletion does not see it. -/
theorem points_vm_status_cb_update {json : Option (Option Json)} {t : State Node Time}
    {point : Point (State Node Time) Statement (Raised Failure) Unit}
    (hpoint : point ∈ (vm_status_cb_update vm json).points t) :
    ∃ json_active changes, json = some (some json_active) ∧
      vm.definition.create_json_update_disks = some changes ∧
      ((point.kind ∈ Statement.removed ∧ point.failed = .pure () ∧ changes.remove_ ≠ [] ∧
          point.state.db.vm = t.db.vm ∧ point.state.result = t.result) ∨
        point = ⟨.save_definition, .throw .operational,
          t.set_db fun db => db.delete_removed changes.remove_⟩) := by
  rw [vm_status_cb_update, Procedure.mem_points_bind] at hpoint
  rcases hpoint with ⟨first, hfirst, rfl⟩ | ⟨loaded, t', hrun, hpoint⟩
  · rw [Procedure.mem_points_handle] at hfirst
    rcases hfirst with ⟨inner, hinner, rfl⟩ | ⟨_, _, _, hfirst⟩
    · rw [mem_points_load] at hinner
      obtain ⟨json_active, rfl, hinner⟩ := hinner
      rw [Procedure.mem_points_bind] at hinner
      rcases hinner with ⟨deletion, hdeletion, rfl⟩ | ⟨_, _, _, hinner⟩
      · obtain ⟨hkind, hfailed, hdb, hresult, changes, hchanges, hremoved⟩ :=
          points_vm_delete_snapshots_of_removed_disks hdeletion
        refine ⟨json_active, changes, rfl, hchanges, .inl ⟨hkind, ?_, hremoved, hdb, hresult⟩⟩
        dsimp only
        rw [hfailed]
        rfl
      · cases hinner
    · cases hfirst
  · cases loaded with
    | none => cases hpoint
    | some json_active =>
      rw [points_write, List.mem_singleton] at hpoint
      subst hpoint
      rcases json with - | - | json_active'
      · cases hrun
      · cases hrun
      cases hchanges : vm.definition.create_json_update_disks with
      | none =>
        simp [Procedure.run_handle, Procedure.run_bind, run_vm_delete_snapshots_of_removed_disks_none hchanges]
          at hrun
      | some changes =>
        simp [Procedure.run_handle, Procedure.run_bind, run_vm_delete_snapshots_of_removed_disks hchanges] at hrun
        exact ⟨_, changes, rfl, rfl, .inr (by rw [← hrun.2])⟩

/-- A failure of the update keeps the definition, though it is logged only. -/
theorem vm_status_cb_recovers_iff_of_update (hvm : s.db.vm = some vm) (hsucceeded : s.result.succeeded)
    (hupdated : s.result.updated)
    {point : Point (State Node Time) Statement (Raised Failure) (Result Time)}
    (hpoint : ∃ first ∈ (vm_status_cb_update vm s.result.json).points s.pop_json,
      ⟨first.kind, first.failed >>= fun _ => vm_status_cb_done vm s.pop_json.result, first.state⟩ = point) :
    Recovers vm_status_cb s point ↔ point.kind.safe s (vm_status_cb_retried s) := by
  obtain ⟨first, hfirst, rfl⟩ := hpoint
  obtain ⟨json_active, changes, hjson, hchanges, hfirst⟩ := points_vm_status_cb_update hfirst
  have hrun := run_vm_status_cb hvm hsucceeded
  rw [if_pos hupdated, hjson, State.vm_status_cb_update_of_changes hchanges] at hrun
  rcases hfirst with ⟨hkind, hfailed, hremoved, hdb, hresult⟩ | rfl
  · have hdone : (first.failed >>= fun _ => vm_status_cb_done vm s.pop_json.result) =
        vm_status_cb_done vm s.pop_json.result := by
      rw [hfailed]
      rfl
    rw [hdone]
    refine iff_of_false ?_ ?_
    · rw [recovers_of_handled (vm_status_cb_done_ne_operational _ _ _)]
      rintro ⟨-, hdbs⟩
      have hdefinition := congrArg (fun db => db.vm.map fun row => (row.json, row.json_active)) hdbs
      dsimp only at hdefinition
      rw [hrun, vm_status_cb_done_definition, vm_status_cb_done_definition, hdb] at hdefinition
      simp [State.set_db, Db.update_definition, Db.update_vm, Db.delete_removed, hvm] at hdefinition
      apply hremoved
      exact vms.definition.Vm.create_json_update_disks_self (hdefinition.1.trans hdefinition.2.symm) hchanges
    · simp only [Statement.removed, List.mem_cons, List.not_mem_nil, or_false] at hkind
      rcases hkind with hkind | hkind | hkind | hkind <;> rw [hkind] <;> exact id
  · have hthrow : ((.throw .operational : Callback Node Time Unit) >>= fun _ =>
        vm_status_cb_done vm s.pop_json.result) = .throw .operational := rfl
    rw [hthrow, recovers_of_raised fun _ => rfl]
    have hvm' : (s.pop_json.set_db fun db => db.delete_removed changes.remove_).db.vm = some vm := hvm
    rw [Same, hrun, run_vm_status_cb_again hvm' hsucceeded rfl]
    constructor
    · rintro ⟨-, hdbs⟩
      have hdefinition := congrArg (fun db => db.vm.map fun row => (row.json, row.json_active)) hdbs
      simp only [vm_status_cb_done_definition] at hdefinition
      simp [State.set_db, Db.update_definition, Db.update_vm, Db.delete_removed, hvm] at hdefinition
      exact ⟨vm, json_active, hvm, hjson, hdefinition⟩
    · rintro ⟨vm', json, hvm'', hjson', hsame, hsame_active⟩
      rw [hvm] at hvm''
      cases hvm''
      rw [hjson] at hjson'
      cases hjson'
      have hunchanged : (s.pop_json.set_db fun db =>
          (db.delete_removed changes.remove_).update_definition json_active) =
            s.pop_json.set_db fun db => db.delete_removed changes.remove_ := by
        rw [State.set_db, State.set_db, State.pop_json_db, Db.update_definition, Db.update_vm]
        have hrow : { vm with json := json_active, json_active } = vm := by
          obtain ⟨⟩ := vm
          cases hsame
          cases hsame_active
          rfl
        simp only [Db.delete_removed, hvm, Option.map_some, hrow]
      rw [hunchanged]
      exact ⟨rfl, rfl⟩

/-- The statements after the update. -/
theorem vm_status_cb_recovers_iff_of_done (hsucceeded : s.result.succeeded)
    {t : State Node Time} (hresult : t.result = s.pop_json.result) (hsame_owner : t.same_owner = s.same_owner)
    {vm' : VmRow Node Time} (hvm' : t.db.vm = some vm') (hstore : vm'.store = vm.store)
    (hslavevm : vm'.slavevm = vm.slavevm) (hrun : vm_status_cb.run s = (vm_status_cb_done vm t.result).run t)
    {point : Point (State Node Time) Statement (Raised Failure) (Result Time)}
    (hpoint : point ∈ (vm_status_cb_done vm t.result).points t) :
    Recovers vm_status_cb s point ↔ point.kind.safe s (vm_status_cb_retried s) := by
  have hjson : t.result.json = none := by
    rw [hresult]
    rfl
  have hsucceeded' : t.result.succeeded := by
    rw [hresult]
    exact hsucceeded
  have hagain (u : State Node Time) (row : VmRow Node Time) (hrow : u.db.vm = some row)
      (hu : u.result = t.result) : vm_status_cb.run u = (vm_status_cb_done row t.result).run u := by
    rw [run_vm_status_cb_again hrow (by rw [hu]; exact hsucceeded') (by rw [hu]; exact hjson), hu]
  rw [← vm_status_cb_done_congr hstore hslavevm] at hpoint hrun
  rcases hnew_status : t.result.new_status with - | ⟨new_status, change_time⟩
  · rw [vm_status_cb_done, hnew_status] at hpoint
    cases hpoint
  rw [vm_status_cb_done, hnew_status] at hpoint
  dsimp only at hpoint
  rcases mem_points_vm_status_changed hpoint with ⟨hold, rfl | ⟨hslave, rfl | hlog⟩⟩ | hpoint
  · rw [recovers_of_raised fun _ => rfl]
    refine iff_of_true ?_ trivial
    rw [Same, hrun, hagain t vm' hvm' rfl]
    exact ⟨rfl, rfl⟩
  · -- the status has been saved, and the second execution logs what the first one would have
    obtain ⟨hrow, -, hsame⟩ := State.vm_status_changed_of_saved hvm' new_status change_time hold
    rw [recovers_of_raised fun _ => rfl]
    refine iff_of_true ?_ hsucceeded
    rw [Same, hrun, hagain _ _ hrow rfl, run_vm_status_cb_done hnew_status, run_vm_status_cb_done hnew_status, hsame]
    exact ⟨rfl, rfl⟩
  · refine recovers_iff_of_logPoint (t := t.set_db _) ((blind_task_log _ _).bind fun _ => blind_result) ?_
      hsame_owner hlog
    rw [hrun, run_vm_status_cb_done hnew_status, State.vm_status_changed, if_neg hold]
    simp [Procedure.run_bind, State.task_log, hslave]
  · rcases mem_points_task_log hpoint with hlog | hpoint
    · refine recovers_iff_of_logPoint blind_result ?_ ?_ hlog
      · rw [hrun, run_vm_status_cb_done hnew_status]
        simp [Procedure.run_bind, State.task_log]
      · rw [State.vm_status_changed_same_owner, hsame_owner]
    · cases hpoint

end succeeded

section failed

variable {s : State Node Time} {vm : VmRow Node Time} {returncode : Int}

/-- What a failed command leaves. -/
def State.vm_status_cb_failed (s : State Node Time) (vm : VmRow Node Time) (result : Result Time) :
    State Node Time :=
  if vm.store.status ≠ .STOPPING then s
  else if is_vm_missing vm (result.message.getD "") then
    s.vm_status_changed vm .STOPPED vm.store.status result.meta_.finish_time
  else
    s.set_db (Db.save_status { vms.models.Vm.get vm.store with status := result.meta_.last_status } none)

theorem run_vm_status_cb_failed (vm : VmRow Node Time) (result : Result Time) (s : State Node Time) :
    (vm_status_cb_failed vm result).run s = (.ok (), s.vm_status_cb_failed vm result) := by
  cases hmissing : is_vm_missing vm (result.message.getD "") with
  | true =>
    by_cases hstopping : vm.store.status = .STOPPING
    · simp [vm_status_cb_failed, State.vm_status_cb_failed, hmissing, hstopping]
    · simp [vm_status_cb_failed, State.vm_status_cb_failed, hmissing, hstopping]
  | false =>
    by_cases hstopping : vm.store.status = .STOPPING
    · simp [vm_status_cb_failed, State.vm_status_cb_failed, _vm_status_cb_failed, vm_status_one, save_status,
        Procedure.run_bind, hmissing, hstopping]
    · simp [vm_status_cb_failed, State.vm_status_cb_failed, _vm_status_cb_failed, vm_status_one,
        Procedure.run_bind, hmissing, hstopping]

/-- The run after a failed command. -/
theorem run_vm_status_cb_of_failed (hvm : s.db.vm = some vm) (hfailed : ¬ s.result.succeeded)
    (hreturncode : s.result.returncode = some returncode) :
    vm_status_cb.run s = (.error (.error (.bad_return_code returncode (s.result.message.getD ""))),
      s.pop_json.vm_status_cb_failed vm s.pop_json.result) := by
  have hreturncode' : s.pop_json.result.returncode = some returncode := hreturncode
  have hbranch : ¬ (returncode = 0 ∧ startswith (s.pop_json.result.message.getD "") "Successfully" = true) := by
    rintro ⟨rfl, hmsg⟩
    exact hfailed ⟨hreturncode, hmsg⟩
  simp only [vm_status_cb, Procedure.run_bind, run_Vm_get hvm, run_pop_json, run_get, hreturncode',
    run_getitem_some]
  rw [if_neg hbranch]
  simp only [Procedure.run_bind, run_vm_status_cb_failed]
  rfl

theorem vm_status_cb_recovers_iff_of_failed (hvm : s.db.vm = some vm) (hfailed : ¬ s.result.succeeded)
    (hreturncode : s.result.returncode = some returncode)
    {point : Point (State Node Time) Statement (Raised Failure) (Result Time)}
    (hpoint : point ∈ (vm_status_cb_failed vm s.pop_json.result >>= fun _ =>
      (raise (.bad_return_code returncode (s.pop_json.result.message.getD "")) :
        Callback Node Time (Result Time))).points s.pop_json) :
    Recovers vm_status_cb s point ↔ point.kind.safe s (vm_status_cb_retried s) := by
  have hrun := run_vm_status_cb_of_failed hvm hfailed hreturncode
  have hagain (t : State Node Time) (row : VmRow Node Time) (hrow : t.db.vm = some row)
      (hresult : t.result = s.pop_json.result) : vm_status_cb.run t =
        (.error (.error (.bad_return_code returncode (s.result.message.getD ""))),
          t.vm_status_cb_failed row t.result) := by
    rw [run_vm_status_cb_of_failed hrow (by rw [hresult]; exact hfailed) (by rw [hresult]; exact hreturncode),
      State.pop_json_of_none (by rw [hresult]; rfl), hresult]
    rfl
  have hkept (t : State Node Time) (row : VmRow Node Time) (hrow : t.db.vm = some row)
      (hresult : t.result = s.pop_json.result) (hstatus : row.store.status ≠ .STOPPING) : vm_status_cb.run t =
        (.error (.error (.bad_return_code returncode (s.result.message.getD ""))), t) := by
    rw [hagain t row hrow hresult, State.vm_status_cb_failed, if_pos hstatus]
  have hpopped : Same vm_status_cb s.pop_json s := by
    rw [Same, hrun, hagain s.pop_json vm hvm rfl]
    exact ⟨rfl, rfl⟩
  rw [vm_status_cb_failed] at hpoint
  split at hpoint
  · rename_i hmissing
    split at hpoint
    · rename_i hstopping
      have hsaved := State.vm_status_changed_of_saved (s := s.pop_json) hvm .STOPPED
        s.pop_json.result.meta_.finish_time
      have hfinal : s.pop_json.vm_status_cb_failed vm s.pop_json.result =
          s.pop_json.vm_status_changed vm .STOPPED vm.store.status s.pop_json.result.meta_.finish_time := by
        rw [State.vm_status_cb_failed, if_neg (not_not.mpr hstopping), if_pos hmissing]
      have hstopped : ((vm.changed .STOPPED vm.store.status).save s.pop_json.result.meta_.finish_time
          vm.store).status ≠ .STOPPING := by
        rw [vms.models.Vm.save_status]
        exact fun h => by cases h
      rw [hfinal, State.vm_status_changed] at hrun
      dsimp only at hsaved hrun
      rcases mem_points_vm_status_changed hpoint with ⟨hold, rfl | ⟨hslave, rfl | hlog⟩⟩ | hpoint
      · rw [recovers_of_raised fun _ => rfl]
        exact iff_of_true hpopped trivial
      · -- the second execution finds the VM stopped and logs nothing
        rw [recovers_of_raised fun _ => rfl]
        refine iff_of_false (not_same_of_task_log_length ?_) hfailed
        rw [if_neg hold, if_neg (by simp [hslave])] at hrun
        rw [hrun, hkept _ _ (hsaved hold).1 rfl hstopped]
        simp [State.task_log]
      · refine recovers_iff_of_logPoint (s := s) (t := s.pop_json.set_db _) (blind_raise _) ?_ rfl hlog
        rw [hrun, if_neg hold, if_neg (by simp [hslave])]
        rfl
      · cases hpoint
    · cases hpoint
  · rename_i hmissing
    rw [_vm_status_cb_failed, Procedure.bind_assoc] at hpoint
    split at hpoint
    · rename_i hstopping
      rw [save_status, mem_points_write, vm_status_one, mem_points_select] at hpoint
      rcases hpoint with rfl | rfl | hpoint
      · rw [recovers_of_raised fun _ => rfl]
        exact iff_of_true hpopped trivial
      · rw [recovers_of_raised fun _ => rfl]
        refine iff_of_true ?_ trivial
        have hfinal : s.pop_json.vm_status_cb_failed vm s.pop_json.result = s.pop_json.set_db (Db.save_status
            { vms.models.Vm.get vm.store with status := s.pop_json.result.meta_.last_status } none) := by
          rw [State.vm_status_cb_failed, if_neg (not_not.mpr hstopping), if_neg hmissing]
        rw [hfinal] at hrun
        have hvm' : s.pop_json.db.vm = some vm := hvm
        have hrow := congrArg Db.vm (Db.save_status_of_vm hvm'
          { vms.models.Vm.get vm.store with status := s.pop_json.result.meta_.last_status } none)
        by_cases hlast : s.pop_json.result.meta_.last_status = .STOPPING
        · have hload : { vms.models.Vm.get vm.store with status := s.pop_json.result.meta_.last_status } =
              vms.models.Vm.get vm.store := by
            rw [hlast, ← hstopping]
            rfl
          have hsame : s.pop_json.set_db (Db.save_status (vms.models.Vm.get vm.store) none) = s.pop_json := by
            rw [State.set_db, Db.save_status_of_vm hvm', vms.models.Vm.save_get, ← hvm']
          rw [hload, hsame]
          exact hpopped
        · rw [Same, hrun, hkept (State.set_db _ _) _ hrow rfl (by rw [vms.models.Vm.save_status]; exact hlast)]
          exact ⟨rfl, rfl⟩
      · cases hpoint
    · rw [Procedure.pure_bind, vm_status_one, mem_points_select] at hpoint
      rcases hpoint with rfl | hpoint
      · rw [recovers_of_raised fun _ => rfl]
        exact iff_of_true hpopped trivial
      · cases hpoint

end failed

/-- The failures that the retry of `vm_status_cb` makes up for. -/
theorem vm_status_cb_recovers_iff {s : State Node Time}
    {point : Point (State Node Time) Statement (Raised Failure) (Result Time)}
    (hpoint : point ∈ vm_status_cb.points s) :
    Recovers vm_status_cb s point ↔ point.kind.safe s (vm_status_cb_retried s) := by
  rw [vm_status_cb, mem_points_Vm_get] at hpoint
  rcases hpoint with rfl | ⟨vm, hvm, hpoint⟩
  · rw [recovers_of_raised fun _ => rfl]
    exact iff_of_true (Same.refl _ _) trivial
  simp only [mem_points_pop_json, mem_points_get, mem_points_getitem] at hpoint
  obtain ⟨returncode, hreturncode, hpoint⟩ := hpoint
  split at hpoint
  · rename_i hsucceeded
    obtain ⟨rfl, hmsg⟩ := hsucceeded
    have hsucceeded : s.result.succeeded := ⟨hreturncode, hmsg⟩
    have hrun := run_vm_status_cb hvm hsucceeded
    rw [Procedure.mem_points_bind] at hpoint
    by_cases hupdated : s.result.updated
    · have hupdated' : s.pop_json.result.updated = true := hupdated
      rw [if_pos hupdated'] at hpoint
      rcases hpoint with hpoint | ⟨_, t, ht, hpoint⟩
      · exact vm_status_cb_recovers_iff_of_update hvm hsucceeded hupdated hpoint
      · rw [run_vm_status_cb_update] at ht
        cases ht
        obtain ⟨row, hrow, hstore, hslavevm⟩ := State.vm_status_cb_update_vm (s := s.pop_json) hvm s.result.json
        rw [if_pos hupdated] at hrun
        exact vm_status_cb_recovers_iff_of_done hsucceeded (State.vm_status_cb_update_result _ _ _)
          (State.vm_status_cb_update_same_owner _ _ _) hrow hstore hslavevm
          (by rw [State.vm_status_cb_update_result]; exact hrun)
          (by rw [State.vm_status_cb_update_result]; exact hpoint)
    · have hupdated' : ¬ s.pop_json.result.updated = true := hupdated
      rw [if_neg hupdated'] at hpoint
      rcases hpoint with ⟨_, hfirst, _⟩ | ⟨_, t, ht, hpoint⟩
      · cases hfirst
      · cases ht
        rw [if_neg hupdated] at hrun
        exact vm_status_cb_recovers_iff_of_done (t := s.pop_json) hsucceeded rfl rfl hvm rfl rfl hrun hpoint
  · rename_i hbranch
    refine vm_status_cb_recovers_iff_of_failed hvm ?_ hreturncode hpoint
    rintro ⟨hzero, hmsg⟩
    have hzero' : returncode = 0 := Option.some.inj (hreturncode.symm.trans hzero)
    exact hbranch ⟨hzero', hmsg⟩

end api.callbacks
