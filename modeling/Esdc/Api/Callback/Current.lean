import Esdc.Api.Callback.Status

namespace api.callbacks

open que.mgmt
open Procedure (Point Raises Exposed)
open vms.models (Status)
open api.vm.status (VmInfo Write detect_change)

variable {Node Time : Type} [DecidableEq Node] [LinearOrder Time]

/-- `Vm.STATUS_DICT` -/
def STATUS_DICT : String → Option Status
  | "stopped" => some .STOPPED
  | "running" => some .RUNNING
  | "stopping" => some .STOPPING
  | "installed" => some .STOPPED
  | "down" => some .STOPPED
  | _ => none

/-- The part of `_vm_status_check` that has found a change. -/
def _vm_status_check_write (vm : VmRow Node Time) (node_uuid : Node) (state_cache : Status) (change : Write)
    (change_time : Option Time) : Callback Node Time Bool :=
  if vm.node ≠ node_uuid then pure false
  else if change.vm_status_changed then do
    vm_status_changed vm change.new_status state_cache change_time
    return true
  else do
    save_status .save_status { vms.models.Vm.get vm.store with status := change.new_status } change_time
    return false

/-- The queries of `_vm_status_check` find the VM of the callback. -/
def _vm_status_check (info : VmInfo Node) (state : Status) (change_time : Option Time) (force_change : Bool) :
    Callback Node Time Bool := do
  match (← get).db.vm.bind fun row => row.store.cached_status with
  | none =>
    let vm ← Vm_get .check_get_vm
    modify fun s => s.set_db fun db => db.update_vm fun row =>
      { row with store := { row.store with cached_status := some vm.store.status } }
    match info.write state (detect_change vm.store.status state force_change) with
    | none => pure false
    | some change => _vm_status_check_write vm info.node_uuid vm.store.status change change_time
  | some state_cache =>
    match info.write state (detect_change state_cache state force_change) with
    | none => pure false
    | some change => do
      let vm ← Vm_get .check_get_vm
      _vm_status_check_write vm info.node_uuid state_cache change change_time

/-- `vm_status_current_cb` after the items of the result have been taken; `vmadm`
prints nothing for a VM that the node does not have. -/
def vm_status_current_cb_done (is_deploy_needed is_blank force_change : Bool) (status : String) :
    Callback Node Time (Result Time) := do
  modify fun s => s.set_result fun result => { result with status := some status, status_changed := some false }
  let vm ← Vm_get .get_vm
  let exec_time := (← get).result.meta_.exec_time
  match if status = "" then some .NOTCREATED else STATUS_DICT status with
  | none =>
    modify fun s => s.set_result fun result => { result with message := some "Unidentified VM status" }
    return (← get).result
  | some state =>
    modify fun s => s.set_result fun result =>
      { result with message := some "", status := some (if status = "" then "notcreated" else status) }
    let changed ← _vm_status_check ⟨vm.node, is_deploy_needed, is_blank⟩ state exec_time force_change
    modify fun s => s.set_result fun result => { result with status_changed := some changed }
    return (← get).result

def vm_status_current_cb (is_deploy_needed is_blank force_change : Bool) : Callback Node Time (Result Time) := do
  let result := (← get).result
  modify fun s => s.set_result fun result => { result with stdout := none, stderr := none }
  let rc ← getitem result.returncode "returncode"
  modify fun s => s.set_result fun result => { result with returncode := none }
  if rc ≠ 0 then raise (.bad_return_code rc (result.stderr.getD ""))
  else
    let line := (result.stdout.getD "").trimAscii.toString.splitOn ":"
    vm_status_current_cb_done is_deploy_needed is_blank force_change (line.headD "")

section rules

variable {I : State Node Time → Prop} {K : Statement → Prop} {R : Raised Failure → Prop} {same_owner : Bool}

omit [DecidableEq Node] in
theorem settles_vm_status_changed (hK : ∀ kind, kind.logs = false → K kind)
    (hdb : ∀ s (effect : Db Node Time → Db Node Time), I s → I (s.set_db effect))
    (hlog : ∀ s entry, I s → I (s.task_log entry)) (hsame : ∀ s, I s → s.same_owner = same_owner)
    (vm : VmRow Node Time) (state old_state : Status) (change_time : Option Time) :
    Settles same_owner I K (vm_status_changed vm state old_state change_time) := by
  refine Settles.after exposed_get fun s => ?_
  dsimp only
  split
  · exact Settles.of_exposed (Exposed.pure _ _ _ _)
  · refine Settles.after (exposed_write (hK _ rfl) fun s => hdb s _) fun _ => ?_
    split
    · exact Settles.of_exposed (Exposed.pure _ _ _ _)
    · refine Settles.after (exposed_select (hK _ rfl) _) fun _ => ?_
      exact settles_task_log _ _ (fun s => hlog s _) hsame

omit [DecidableEq Node] in
theorem raises_vm_status_changed (vm : VmRow Node Time) (state old_state : Status)
    (change_time : Option Time) : Raises R (vm_status_changed vm state old_state change_time) := by
  intro s e he
  rw [run_vm_status_changed] at he
  cases he

theorem settles_vm_status_check_write (hK : ∀ kind, kind.logs = false → K kind)
    (hdb : ∀ s (effect : Db Node Time → Db Node Time), I s → I (s.set_db effect))
    (hlog : ∀ s entry, I s → I (s.task_log entry)) (hsame : ∀ s, I s → s.same_owner = same_owner)
    (vm : VmRow Node Time) (node_uuid : Node) (state_cache : Status) (change : Write) (change_time : Option Time) :
    Settles same_owner I K (_vm_status_check_write vm node_uuid state_cache change change_time) := by
  unfold _vm_status_check_write
  split
  · exact Settles.of_exposed (Exposed.pure _ _ _ _)
  · split
    · refine Settles.bind (settles_vm_status_changed hK hdb hlog hsame _ _ _ _) (fun _ => Blind.pure _) fun _ => ?_
      exact Settles.of_exposed (Exposed.pure _ _ _ _)
    · refine Settles.after (exposed_write (hK _ rfl) fun s => hdb s _) fun _ => ?_
      exact Settles.of_exposed (Exposed.pure _ _ _ _)

theorem raises_vm_status_check_write (vm : VmRow Node Time) (node_uuid : Node) (state_cache : Status)
    (change : Write) (change_time : Option Time) :
    Raises R (_vm_status_check_write vm node_uuid state_cache change change_time) := by
  unfold _vm_status_check_write
  split
  · exact Raises.pure _ _
  · split
    · refine Raises.bind (raises_vm_status_changed _ _ _ _) fun _ => ?_
      exact Raises.pure _ _
    · refine Raises.bind (raises_execute _ _) fun _ => ?_
      exact Raises.pure _ _

theorem settles_vm_status_check (hK : ∀ kind, kind.logs = false → K kind)
    (hdb : ∀ s (effect : Db Node Time → Db Node Time), I s → I (s.set_db effect))
    (hlog : ∀ s entry, I s → I (s.task_log entry)) (hsame : ∀ s, I s → s.same_owner = same_owner)
    (info : VmInfo Node) (state : Status) (change_time : Option Time) (force_change : Bool) :
    Settles same_owner I K (_vm_status_check info state change_time force_change) := by
  refine Settles.after exposed_get fun s => ?_
  dsimp only
  split
  · refine Settles.after (exposed_Vm_get (hK _ rfl)) fun vm => ?_
    refine Settles.after (exposed_modify fun s => hdb s _) fun _ => ?_
    split
    · exact Settles.of_exposed (Exposed.pure _ _ _ _)
    · exact settles_vm_status_check_write hK hdb hlog hsame _ _ _ _ _
  · split
    · exact Settles.of_exposed (Exposed.pure _ _ _ _)
    · refine Settles.after (exposed_Vm_get (hK _ rfl)) fun vm => ?_
      exact settles_vm_status_check_write hK hdb hlog hsame _ _ _ _ _

theorem raises_vm_status_check (hvm : R (.error (.does_not_exist .Vm))) (info : VmInfo Node) (state : Status)
    (change_time : Option Time) (force_change : Bool) :
    Raises R (_vm_status_check info state change_time force_change : Callback Node Time Bool) := by
  refine Raises.bind raises_get fun s => ?_
  dsimp only
  split
  · refine Raises.bind (raises_Vm_get _ hvm) fun vm => ?_
    refine Raises.bind (raises_modify _) fun _ => ?_
    split
    · exact Raises.pure _ _
    · exact raises_vm_status_check_write _ _ _ _ _
  · split
    · exact Raises.pure _ _
    · refine Raises.bind (raises_Vm_get _ hvm) fun vm => ?_
      exact raises_vm_status_check_write _ _ _ _ _

end rules

/-- The return code has been taken. -/
def returncode_taken (same_owner : Bool) (s : State Node Time) : Prop :=
  s.result.returncode = none ∧ s.same_owner = same_owner

theorem settles_vm_status_current_cb_done {same_owner : Bool} (is_deploy_needed is_blank force_change : Bool)
    (status : String) :
    Settles same_owner (returncode_taken same_owner) (fun kind => kind.logs = false ∧ ¬ False)
      (vm_status_current_cb_done is_deploy_needed is_blank force_change status : Callback Node Time _) := by
  refine Settles.after (exposed_modify fun s hs => hs) fun _ => ?_
  refine Settles.after (exposed_Vm_get ⟨rfl, id⟩) fun vm => ?_
  refine Settles.after exposed_get fun s => ?_
  dsimp only
  split
  · refine Settles.of_exposed (Exposed.bind (exposed_modify fun s hs => hs) fun _ => ?_)
    exact Exposed.bind exposed_get fun _ => Exposed.pure _ _ _ _
  · refine Settles.after (exposed_modify fun s hs => hs) fun _ => ?_
    refine Settles.bind (settles_vm_status_check (fun _ hlogs => ⟨hlogs, id⟩) (fun s _ hs => hs) (fun s _ hs => hs)
      (fun s hs => hs.2) _ _ _ _) (fun changed => ?_) fun changed => ?_
    · exact Blind.bind (blind_modify (fun _ _ hlike => ⟨hlike.db, by rw [State.set_result_result, hlike.result]; rfl⟩)
        fun _ => rfl) fun _ => blind_result
    · refine Settles.of_exposed (Exposed.bind (exposed_modify fun s hs => hs) fun _ => ?_)
      exact Exposed.bind exposed_get fun _ => Exposed.pure _ _ _ _

theorem raises_vm_status_current_cb_done (is_deploy_needed is_blank force_change : Bool) (status : String) :
    Raises (fun e => ¬ e = .error (.key_error "returncode"))
      (vm_status_current_cb_done is_deploy_needed is_blank force_change status : Callback Node Time _) := by
  refine Raises.bind (raises_modify _) fun _ => ?_
  refine Raises.bind (raises_Vm_get _ (by simp)) fun vm => ?_
  refine Raises.bind raises_get fun s => ?_
  dsimp only
  split
  · refine Raises.bind (raises_modify _) fun _ => ?_
    exact Raises.bind raises_get fun _ => Raises.pure _ _
  · refine Raises.bind (raises_modify _) fun _ => ?_
    refine Raises.bind (raises_vm_status_check (by simp) _ _ _ _) fun changed => ?_
    refine Raises.bind (raises_modify _) fun _ => ?_
    exact Raises.bind raises_get fun _ => Raises.pure _ _

/-- The retry has no return code, so it makes up for no failure. -/
theorem vm_status_current_cb_recovers_iff (is_deploy_needed is_blank force_change : Bool)
    {s : State Node Time} {point : Point (State Node Time) Statement (Raised Failure) (Result Time)}
    (hpoint : point ∈ (vm_status_current_cb is_deploy_needed is_blank force_change).points s) :
    Recovers (vm_status_current_cb is_deploy_needed is_blank force_change) s point ↔
      point.kind.safe s fun _ => False := by
  have hretry (t : State Node Time) (ht : returncode_taken s.same_owner t) :
      ∃ e, ((vm_status_current_cb is_deploy_needed is_blank force_change).run t).1 = .error e ∧
        e = .error (.key_error "returncode") := by
    refine ⟨_, ?_, rfl⟩
    have hreturncode : t.result.returncode = none := ht.1
    simp [vm_status_current_cb, Procedure.run_bind, hreturncode]
  rw [vm_status_current_cb] at hpoint
  simp only [mem_points_get, mem_points_modify, mem_points_getitem] at hpoint
  obtain ⟨rc, hrc, hpoint⟩ := hpoint
  split at hpoint
  · cases hpoint
  · rename_i hzero
    have hrun : (vm_status_current_cb is_deploy_needed is_blank force_change).run s =
        (vm_status_current_cb_done is_deploy_needed is_blank force_change
          (((s.result.stdout.getD "").trimAscii.toString.splitOn ":").headD "")).run
          ((s.set_result fun result => { result with stdout := none, stderr := none }).set_result
            fun result => { result with returncode := none }) := by
      simp only [vm_status_current_cb, Procedure.run_bind, run_get, run_modify, hrc, run_getitem_some]
      rw [if_neg hzero]
    refine recovers_iff_of_settles (settles_vm_status_current_cb_done _ _ _ _)
      (raises_vm_status_current_cb_done _ _ _ _) ?_ hrun hretry hpoint
    exact ⟨rfl, rfl⟩

end api.callbacks
