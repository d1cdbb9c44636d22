import Esdc.Api.Callback.StatusRetry

namespace api.callbacks

open que.mgmt
open Procedure (Ensures)
open vms.models (Status StatusStore)
open vms.definition (Json)

variable {Node Time α β : Type}

/-- The results tell the same about the command. -/
structure Result.Like (result result' : Result Time) : Prop where
  returncode : result'.returncode = result.returncode
  message : result'.message = result.message
  meta_ : result'.meta_ = result.meta_

theorem Result.Like.refl (result : Result Time) : result.Like result := ⟨rfl, rfl, rfl⟩

theorem Result.Like.new_status {result result' : Result Time} (hlike : result.Like result') :
    result'.new_status = result.new_status := by
  rw [Result.new_status, Result.new_status, hlike.message, hlike.meta_]

theorem Result.Like.succeeded {result result' : Result Time} (hlike : result.Like result') :
    result'.succeeded ↔ result.succeeded := by
  rw [Result.succeeded, Result.succeeded, hlike.message, hlike.returncode]

/-- A successful command leaves the VM in another status. -/
theorem Result.new_status_ne_stopping {result : Result Time} {new_status : Status} {change_time : Option Time}
    (hnew_status : result.new_status = some (new_status, change_time)) : new_status ≠ .STOPPING := by
  rw [Result.new_status] at hnew_status
  split at hnew_status
  · cases hnew_status
    simp
  split at hnew_status
  · split at hnew_status
    · cases hnew_status
      simp
    · cases hnew_status
      simp
  split at hnew_status
  · cases hnew_status
    simp
  · cases hnew_status

theorem Result.new_status_time {result : Result Time} {new_status : Status} {change_time : Option Time}
    (hnew_status : result.new_status = some (new_status, change_time)) :
    change_time = result.meta_.exec_time ∨ change_time = result.meta_.finish_time := by
  rw [Result.new_status] at hnew_status
  split at hnew_status
  · cases hnew_status
    exact .inl rfl
  split at hnew_status
  · split at hnew_status
    · cases hnew_status
      exact .inr rfl
    · cases hnew_status
      exact .inl rfl
  split at hnew_status
  · cases hnew_status
    exact .inl rfl
  · cases hnew_status

/-- No other error than an operational one, after which `I` holds. -/
def Statements (I : State Node Time → Prop) (J : α → State Node Time → Prop) :
    Except (Raised Failure) α → State Node Time → Prop
  | .ok a, s => J a s
  | .error .operational, s => I s
  | .error (.error _), _ => False

theorem Statements.bind {I : State Node Time → Prop} {J : α → State Node Time → Prop}
    {Q : Except (Raised Failure) β → State Node Time → Prop} {p : Callback Node Time α}
    {k : α → Callback Node Time β} {s : State Node Time} (hp : p.Ensures (Statements I J) s)
    (hk : ∀ a s, J a s → (k a).Ensures Q s) (hI : ∀ s, I s → Q (.error .operational) s) :
    (p >>= k).Ensures Q s := by
  refine hp.bind hk fun e s he => ?_
  cases e with
  | operational => exact hI s he
  | error e => cases he

/-- The change of the status is not older than the last one in the cache. -/
def Result.Recent [LinearOrder Time] (result : Result Time) (store : StatusStore Time) : Prop :=
  ∀ new_status change_time, result.new_status = some (new_status, change_time) →
    ¬ api.vm.status.too_old store change_time

/-- What an execution of `vm_status_cb` starts from and what it leaves for the next one. -/
structure Ready [LinearOrder Time] (result : Result Time) (s : State Node Time) : Prop where
  like : result.Like s.result
  vm : result.succeeded → ∃ row, s.db.vm = some row ∧ result.Recent row.store

/-- The next execution starts from the result that this one has left. -/
theorem Ready.again [LinearOrder Time] {result : Result Time} {s : State Node Time} (hready : Ready result s) :
    Ready s.result s := by
  refine ⟨.refl _, fun hsucceeded => ?_⟩
  obtain ⟨row, hrow, hrecent⟩ := hready.vm (hready.like.succeeded.mp hsucceeded)
  refine ⟨row, hrow, fun new_status change_time hnew_status => hrecent new_status change_time ?_⟩
  rw [← hready.like.new_status]
  exact hnew_status

/-- An execution succeeds only after a successful command, with another status
saved, and fails for good only after a failed one. -/
def Finished [LinearOrder Time] (result : Result Time) :
    Except (Raised Failure) (Result Time) → State Node Time → Prop
  | .ok _, s => result.succeeded ∧ result.new_status.isSome ∧
      ∃ row, s.db.vm = some row ∧ row.store.status ≠ .STOPPING
  | .error .operational, s => Ready result s
  | .error (.error _), _ => ¬ (result.succeeded ∧ result.new_status.isSome)

section pieces

variable {I : State Node Time → Prop}

theorem ensures_write {J : Unit → State Node Time → Prop} {s : State Node Time} {kind : Statement}
    {effect : Db Node Time → Db Node Time} (hJ : J () (s.set_db effect)) (hI : I s) :
    (write kind effect).Ensures (Statements I J) s :=
  ⟨hJ, hI⟩

theorem ensures_select {J : Unit → State Node Time → Prop} {s : State Node Time} {kind : Statement}
    (hJ : J () s) (hI : I s) : (select kind fun _ => ()).Ensures (Statements I J) s :=
  ⟨hJ, hI⟩

/-- The VM and the result are as before. -/
def Untouched (s t : State Node Time) : Prop := t.db.vm = s.db.vm ∧ t.result = s.result

theorem ensures_log_owner (kind : LogKind) (entry : LogEntry Time) (s : State Node Time) :
    (log_owner kind entry).Ensures (fun _ t => Untouched s t) s := by
  unfold log_owner
  split
  · exact ⟨rfl, rfl⟩
  · exact ⟨⟨rfl, rfl⟩, rfl, rfl⟩

theorem ensures_log (kind : LogKind) (entry : LogEntry Time) (s : State Node Time) :
    (log kind entry).Ensures (fun _ t => Untouched s t) s := by
  refine ⟨?_, rfl, rfl⟩
  change Procedure.Ensures _ (if s.super_admins then _ else _) _
  split
  · exact ⟨rfl, rfl⟩
  · exact ⟨⟨rfl, rfl⟩, rfl, rfl⟩

/-- Whatever fails in `task_log`, it ends without an error. -/
theorem ensures_task_log {J : Unit → State Node Time → Prop} {s : State Node Time} {kind : LogKind}
    {entry : LogEntry Time} (hJ : ∀ t, Untouched s t → J () t) :
    (task_log kind entry).Ensures (Statements I J) s := by
  have hbody : (do
      select (.log kind .user) fun _ => ()
      let entry ← log_owner kind entry
      log kind entry : Callback Node Time Unit).Ensures (fun _ t => Untouched s t) s := by
    refine ⟨?_, rfl, rfl⟩
    refine (ensures_log_owner kind entry s).bind (fun entry t ht => ?_) fun _ _ h => h
    refine (ensures_log kind entry t).mono fun _ u hu => ?_
    exact ⟨hu.1.trans ht.1, hu.2.trans ht.2⟩
  exact hbody.handle (fun _ t ht => hJ t ht) fun _ t ht => hJ t ht

end pieces

/-- What the deletions and their failures leave alone. -/
theorem ensures_vm_delete_snapshots_of_removed_disks (vm : VmRow Node Time) (s : State Node Time) :
    (vm_delete_snapshots_of_removed_disks vm).Ensures (fun _ t => t.db.vm = s.db.vm ∧ t.result = s.result) s := by
  unfold vm_delete_snapshots_of_removed_disks
  cases vm.definition.create_json_update_disks with
  | none => exact ⟨rfl, rfl⟩
  | some changes =>
    change Ensures _ (if changes.remove_ = [] then _ else _) s
    by_cases hremoved : changes.remove_ = []
    · rw [if_pos hremoved]
      exact ⟨rfl, rfl⟩
    · rw [if_neg hremoved]
      exact ⟨⟨⟨⟨⟨rfl, rfl⟩, ⟨rfl, rfl⟩⟩, ⟨rfl, rfl⟩⟩, ⟨rfl, rfl⟩⟩, ⟨rfl, rfl⟩⟩

/-- The new definition, if there is one, leaves the status alone. -/
theorem ensures_vm_status_cb_update {vm : VmRow Node Time} (json : Option (Option Json)) {s : State Node Time}
    {row : VmRow Node Time} (hrow : s.db.vm = some row) :
    (vm_status_cb_update vm json).Ensures
      (Statements (fun t => t.db.vm = s.db.vm ∧ t.result = s.result) fun _ t =>
        (∃ row', t.db.vm = some row' ∧ row'.store = row.store) ∧ t.result = s.result) s := by
  have hload : (do
      let json_active ← load json
      vm_delete_snapshots_of_removed_disks vm
      pure (some json_active) : Callback Node Time (Option Json)).Ensures
        (fun _ t => t.db.vm = s.db.vm ∧ t.result = s.result) s := by
    rcases json with - | - | json_active
    · exact ⟨rfl, rfl⟩
    · exact ⟨rfl, rfl⟩
    · exact (ensures_vm_delete_snapshots_of_removed_disks vm s).bind (fun _ _ h => h) fun _ _ h => h
  refine Statements.bind (hload.handle (fun _ _ h => h) fun _ _ h => h) ?_ fun _ h => h
  rintro json_active t ⟨hvm, hresult⟩
  cases json_active with
  | none => exact ⟨⟨row, hvm.trans hrow, rfl⟩, hresult⟩
  | some json_active =>
    refine ensures_write ⟨⟨{ row with json := json_active, json_active }, ?_, rfl⟩, hresult⟩ ⟨hvm, hresult⟩
    simp [Db.update_vm, hvm, hrow]

section changed

variable [LinearOrder Time]

/-- A change that is not too old is saved before the log entry. -/
theorem ensures_vm_status_changed {vm row : VmRow Node Time} {state old_state : Status}
    {change_time : Option Time} {s : State Node Time} (hrow : s.db.vm = some row)
    (hrecent : ¬ api.vm.status.too_old row.store change_time) :
    (vm_status_changed vm state old_state change_time).Ensures
      (Statements (fun t => (∃ row', t.db.vm = some row' ∧ ¬ api.vm.status.too_old row'.store change_time) ∧
          t.result = s.result)
        fun _ t => (∃ row', t.db.vm = some row' ∧ ¬ api.vm.status.too_old row'.store change_time ∧
          row'.store.status = state) ∧ t.result = s.result) s := by
  have hold : ¬ s.db.too_old change_time := by
    rintro ⟨row', hrow', hold⟩
    rw [hrow] at hrow'
    cases hrow'
    exact hrecent hold
  change Ensures _ (if s.db.too_old change_time then _ else _) s
  rw [if_neg hold]
  have hsaved : (s.set_db (Db.save_status (vm.changed state old_state) change_time)).db.vm =
      some { row with store := (vm.changed state old_state).save change_time row.store } :=
    congrArg Db.vm (Db.save_status_of_vm hrow _ change_time)
  have hrecent' := not_too_old_save (vm.changed state old_state) hrecent
  have hstatus := vms.models.Vm.save_status (vm.changed state old_state) change_time row.store
  refine Statements.bind (ensures_write
    (J := fun _ t => t = s.set_db (Db.save_status (vm.changed state old_state) change_time))
    rfl ⟨⟨row, hrow, hrecent⟩, rfl⟩) ?_ fun _ h => h
  rintro _ _ rfl
  by_cases hslavevm : vm.slavevm
  · rw [if_pos hslavevm]
    exact ⟨⟨_, hsaved, hrecent', hstatus⟩, rfl⟩
  · rw [if_neg hslavevm]
    refine Statements.bind (ensures_select
      (J := fun _ t => t = s.set_db (Db.save_status (vm.changed state old_state) change_time))
      rfl ⟨⟨_, hsaved, hrecent'⟩, rfl⟩) ?_ fun _ h => h
    rintro _ _ rfl
    exact ensures_task_log fun t ht => ⟨⟨_, ht.1.trans hsaved, hrecent', hstatus⟩, ht.2⟩

/-- After a successful command. -/
theorem ensures_vm_status_cb_done {vm row : VmRow Node Time} {result result' : Result Time} {s : State Node Time}
    (hlike : result.Like result') (hlike_s : result.Like s.result) (hsucceeded : result.succeeded)
    (hrow : s.db.vm = some row) (hrecent : result.Recent row.store) :
    (vm_status_cb_done vm result').Ensures (Finished result) s := by
  unfold vm_status_cb_done
  rcases hnew_status : result'.new_status with - | ⟨new_status, change_time⟩
  · intro h
    rw [← hlike.new_status, hnew_status] at h
    exact Bool.false_ne_true h.2
  · have hnew_status' : result.new_status = some (new_status, change_time) := by
      rw [← hlike.new_status, hnew_status]
    have hready : ∀ t : State Node Time, ((∃ row', t.db.vm = some row' ∧
        ¬ api.vm.status.too_old row'.store change_time) ∧ t.result = s.result) → Ready result t := by
      rintro t ⟨⟨row', hrow', hrecent'⟩, hresult⟩
      refine ⟨by rw [hresult]; exact hlike_s, fun _ => ⟨row', hrow', ?_⟩⟩
      rintro _ _ h
      rw [hnew_status'] at h
      cases h
      exact hrecent'
    refine Statements.bind (ensures_vm_status_changed hrow (hrecent _ _ hnew_status')) ?_ hready
    rintro _ t ⟨⟨row', hrow', hrecent', hstatus⟩, hresult⟩
    refine Statements.bind (ensures_task_log
      (J := fun _ t => ∃ row', t.db.vm = some row' ∧ row'.store.status = new_status) (I := Ready result)
      fun u hu => ⟨row', hu.1.trans hrow', hstatus⟩) ?_ fun _ h => h
    rintro _ u ⟨row'', hrow'', hstatus'⟩
    refine ⟨hsucceeded, by rw [hnew_status']; rfl, row'', hrow'', ?_⟩
    rw [hstatus']
    exact Result.new_status_ne_stopping hnew_status'

end changed

section callbacks

variable [LinearOrder Time]

theorem ensures_vm_status_changed_result (vm : VmRow Node Time) (state old_state : Status)
    (change_time : Option Time) (s : State Node Time) :
    (vm_status_changed vm state old_state change_time).Ensures
      (Statements (fun t => t.result = s.result) fun _ t => t.result = s.result) s := by
  change Ensures _ (if s.db.too_old change_time then _ else _) s
  by_cases hold : s.db.too_old change_time
  · rw [if_pos hold]
    exact rfl
  · rw [if_neg hold]
    refine Statements.bind (ensures_write (I := fun t => t.result = s.result)
      (J := fun _ t => t.result = s.result) rfl rfl) ?_ fun _ h => h
    intro _ t hresult
    by_cases hslavevm : vm.slavevm
    · rw [if_pos hslavevm]
      exact hresult
    · rw [if_neg hslavevm]
      refine Statements.bind (ensures_select (I := fun t => t.result = s.result)
        (J := fun _ t => t.result = s.result) hresult hresult) ?_ fun _ h => h
      intro _ u hu
      exact ensures_task_log fun v hv => hv.2.trans hu

/-- A failed command is only followed by errors. -/
theorem ensures_vm_status_cb_failed (vm : VmRow Node Time) (result : Result Time) (s : State Node Time) :
    (vm_status_cb_failed vm result).Ensures
      (Statements (fun t => t.result = s.result) fun _ t => t.result = s.result) s := by
  unfold vm_status_cb_failed
  by_cases hmissing : is_vm_missing vm (result.message.getD "")
  · rw [if_pos hmissing]
    by_cases hstopping : vm.store.status = .STOPPING
    · rw [if_pos hstopping]
      exact ensures_vm_status_changed_result vm _ _ _ s
    · rw [if_neg hstopping]
      exact rfl
  · rw [if_neg hmissing]
    unfold _vm_status_cb_failed
    by_cases hstopping : vm.store.status = .STOPPING
    · rw [if_pos hstopping]
      exact ⟨⟨rfl, rfl⟩, rfl⟩
    · rw [if_neg hstopping]
      exact ⟨rfl, rfl⟩

/-- What `vm_status_cb` does with the VM that it has loaded. -/
def vm_status_cb_of_vm (vm : VmRow Node Time) : Callback Node Time (Result Time) := do
  let json ← pop_json
  let result := (← get).result
  let msg := result.message.getD ""
  let returncode ← getitem result.returncode "returncode"
  if returncode = 0 ∧ startswith msg "Successfully" then
    (if result.updated then vm_status_cb_update vm json else pure ())
    vm_status_cb_done vm result
  else
    vm_status_cb_failed vm result
    raise (.bad_return_code returncode msg)

theorem vm_status_cb_eq :
    (vm_status_cb : Callback Node Time (Result Time)) = Vm_get .get_vm >>= vm_status_cb_of_vm := rfl

theorem ensures_vm_status_cb_of_vm {result : Result Time} {s : State Node Time} (vm : VmRow Node Time)
    (hready : Ready result s) : (vm_status_cb_of_vm vm).Ensures (Finished result) s := by
  have hlike : result.Like s.pop_json.result := ⟨hready.like.returncode, hready.like.message, hready.like.meta_⟩
  unfold vm_status_cb_of_vm
  refine Statements.bind (I := Ready result) (J := fun json t => json = s.result.json ∧ t = s.pop_json)
    ⟨rfl, rfl⟩ ?_ fun _ h => h
  rintro _ _ ⟨rfl, rfl⟩
  refine Statements.bind (I := Ready result) (J := fun t' t => t' = s.pop_json ∧ t = s.pop_json)
    ⟨rfl, rfl⟩ ?_ fun _ h => h
  rintro _ _ ⟨rfl, rfl⟩
  dsimp only
  cases hreturncode : s.pop_json.result.returncode with
  | none =>
    rintro ⟨hsucceeded, -⟩
    have h := hlike.returncode
    rw [hreturncode, hsucceeded.1] at h
    cases h
  | some returncode =>
    refine Statements.bind (I := Ready result) (J := fun returncode' t => returncode' = returncode ∧ t = s.pop_json)
      ⟨rfl, rfl⟩ ?_ fun _ h => h
    rintro returncode _ ⟨rfl, rfl⟩
    by_cases hsuccess : returncode = 0 ∧ startswith (s.pop_json.result.message.getD "") "Successfully"
    · rw [if_pos hsuccess]
      have hsucceeded : result.succeeded := by
        rw [← hlike.succeeded, Result.succeeded, hreturncode, hsuccess.1]
        exact ⟨rfl, hsuccess.2⟩
      obtain ⟨row, hrow, hrecent⟩ := hready.vm hsucceeded
      have hrow' : s.pop_json.db.vm = some row := hrow
      have hupdate : (if s.pop_json.result.updated then vm_status_cb_update vm s.result.json else pure () :
          Callback Node Time Unit).Ensures (Statements (fun t => t.db.vm = s.db.vm ∧ t.result = s.pop_json.result)
            fun _ t => (∃ row', t.db.vm = some row' ∧ row'.store = row.store) ∧
              t.result = s.pop_json.result) s.pop_json := by
        by_cases hupdated : s.pop_json.result.updated
        · rw [if_pos hupdated]
          exact ensures_vm_status_cb_update s.result.json hrow'
        · rw [if_neg hupdated]
          exact ⟨⟨row, hrow', rfl⟩, rfl⟩
      refine Statements.bind hupdate ?_ ?_
      · rintro _ t ⟨⟨row', hrow'', hstore⟩, hresult⟩
        exact ensures_vm_status_cb_done hlike (by rw [hresult]; exact hlike) hsucceeded hrow''
          (by rw [hstore]; exact hrecent)
      · rintro t ⟨hvm', hresult⟩
        exact ⟨by rw [hresult]; exact hlike, fun _ => ⟨row, hvm'.trans hrow, hrecent⟩⟩
    · rw [if_neg hsuccess]
      have hfailed : ¬ result.succeeded := by
        rw [← hlike.succeeded, Result.succeeded, hreturncode]
        rintro ⟨hzero, hmsg⟩
        exact hsuccess ⟨Option.some.inj hzero, hmsg⟩
      refine Statements.bind (ensures_vm_status_cb_failed vm _ s.pop_json) ?_ ?_
      · intro _ _ _ h
        exact hfailed h.1
      · intro t hresult
        exact ⟨by rw [hresult]; exact hlike, fun h => absurd h hfailed⟩

/-- Whatever statements fail, an execution that succeeds saves another status. -/
theorem ensures_vm_status_cb {result : Result Time} {s : State Node Time} (hready : Ready result s) :
    vm_status_cb.Ensures (Finished result) s := by
  have hget : (Vm_get .get_vm).Ensures (fun outcome t => t = s ∧
      ((∃ vm, outcome = .ok vm) ∨ outcome = .error .operational ∨
        (∃ e, outcome = .error (.error e)) ∧ s.db.vm = none)) s := by
    have hselect : (select .get_vm Db.vm : Callback Node Time _).Ensures
        (fun outcome t => t = s ∧ (outcome = .ok s.db.vm ∨ outcome = .error .operational)) s :=
      ⟨⟨rfl, .inl rfl⟩, rfl, .inr rfl⟩
    unfold Vm_get
    refine hselect.bind ?_ ?_
    · rintro vm t ⟨rfl, h | h⟩
      · cases h
        cases hvm : t.db.vm with
        | none => exact ⟨rfl, .inr (.inr ⟨⟨_, rfl⟩, rfl⟩)⟩
        | some vm => exact ⟨rfl, .inl ⟨vm, rfl⟩⟩
      · cases h
    · rintro e t ⟨rfl, h | h⟩
      · cases h
      · cases h
        exact ⟨rfl, .inr (.inl rfl)⟩
  rw [vm_status_cb_eq]
  refine hget.bind ?_ ?_
  · rintro vm _ ⟨rfl, -⟩
    exact ensures_vm_status_cb_of_vm vm hready
  · rintro e _ ⟨rfl, ⟨vm, h⟩ | h | ⟨⟨e, h⟩, hvm⟩⟩
    · cases h
    · cases h
      exact hready
    · cases h
      rintro ⟨hsucceeded, -⟩
      obtain ⟨row, hrow, -⟩ := hready.vm hsucceeded
      rw [hvm] at hrow
      cases hrow

/-- The decorator does not change this. -/
theorem ensures_callback_vm_status_cb {result : Result Time} {s : State Node Time} (hready : Ready result s) :
    (callback vm_status_cb).Ensures (Finished result) s := by
  refine (ensures_vm_status_cb hready).handle (fun _ _ h => h) fun e t h => ?_
  cases e with
  | operational => exact h
  | error e => exact h

end callbacks

end api.callbacks
