import Esdc.Api.Callback.StatusFailures
import Esdc.Api.Vm.StatusTask

open transition

namespace api.vm.status_task

open que.mgmt
open api.callbacks (Db Result Failure Ready Finished vm_status_cb callback)
open vms.models (Status StatusStore)

variable {Node : Type}

/-- No recorded change of the status is later. -/
structure Past (store : StatusStore Nat) (time : Nat) : Prop where
  status_change : ∀ c, store.status_change = some c → c ≤ time
  cached_status_change : ∀ c, store.cached_status_change = some c → c ≤ time

theorem Past.mono {store : StatusStore Nat} {time time' : Nat} (hpast : Past store time) (hle : time ≤ time') :
    Past store time' := by
  refine ⟨fun c hc => ?_, fun c hc => ?_⟩
  · exact (hpast.status_change c hc).trans hle
  · exact (hpast.cached_status_change c hc).trans hle

/-- The object with which the view saves the status. -/
structure Stopping (vm : vms.models.Vm Nat) (now : Nat) : Prop where
  status : vm.status = .STOPPING
  changed : vm.status ≠ vm._orig_status
  status_change : ∀ c, vm.status_change = some c → c ≤ now

/-- What the view knows about the row. -/
def View.Sound (store : StatusStore Nat) (now : Nat) : View → Prop
  | .start | .done => True
  | .execute vm transition_to_stopping =>
    if transition_to_stopping then vm._orig_status ≠ .STOPPING else store.status = .STOPPING
  | .save_status vm => vm.status = .STOPPING ∧ vm._orig_status ≠ .STOPPING
  | .save_row vm => Stopping vm now
  | .save_cached_status vm | .save_cached_status_change vm => Stopping vm now ∧ store.status = .STOPPING
  | .task_response => store.status = .STOPPING

/-- The command is run or has been run. -/
def Worker.started : Worker → Bool
  | .task_check | .popen | .communicate _ | .send_task _ => true
  | .idle | .queued | .check _ | .sleep _ _ | .finished => false

/-- The row before the callback. -/
def State.Saved (s : State Node) (time : Nat) : Prop :=
  ∃ row, s.db.vm = some row ∧ row.store.status = .STOPPING ∧ Past row.store time

/-- The times of the result are later than the change of the status. -/
def State.Reported (s : State Node) (result : Result Nat) : Prop :=
  ∃ exec_time finish_time, result.meta_.exec_time = some exec_time ∧
    result.meta_.finish_time = some finish_time ∧ exec_time ≤ finish_time ∧ s.Saved exec_time

def State.WorkerSound (s : State Node) : Prop :=
  (s.worker.started → s.exists_) ∧
    (∀ exec_time, s.worker = .communicate exec_time → exec_time ≤ s.now ∧ s.Saved exec_time) ∧
    ∀ result, s.worker = .send_task result → s.Reported result

def State.CallbackSound (s : State Node) : CallbackTask → Prop
  | .absent => True
  | .sent result 0 => s.Reported result
  | .sent result (_ + 1) => Ready result ⟨s.db, result, s.super_admins, s.same_owner⟩
  | .done result success => (success = true ↔ result.succeeded ∧ result.new_status.isSome) ∧
      (success = true → ∃ row, s.db.vm = some row ∧ row.store.status ≠ .STOPPING)

/-- Before the task is registered nothing but the view changes the row, and
afterwards nothing but the callback does. -/
structure Ordered (s : State Node) : Prop where
  view : s.exists_ → s.view = .done
  worker : s.WorkerSound
  sent : s.callback ≠ .absent → s.exists_ ∧ s.worker = .finished
  row : s.callback = .absent → ∃ row, s.db.vm = some row ∧ Past row.store s.now ∧
    s.view.Sound row.store s.now ∧ (s.exists_ → row.store.status = .STOPPING)
  callback : s.CallbackSound s.callback

theorem State.workerSound_of_not_started {s : State Node}
    (hstarted : s.worker.started = false) : s.WorkerSound := by
  refine ⟨fun h => ?_, fun _ h => ?_, fun _ h => ?_⟩
  · rw [hstarted] at h
    cases h
  · rw [h] at hstarted
    cases hstarted
  · rw [h] at hstarted
    cases hstarted

theorem View.Sound.mono {store : StatusStore Nat} {now now' : Nat} {view : View} (hsound : view.Sound store now)
    (hle : now ≤ now') : view.Sound store now' := by
  have hstopping : ∀ vm, Stopping vm now → Stopping vm now' := fun vm h =>
    ⟨h.status, h.changed, fun c hc => (h.status_change c hc).trans hle⟩
  cases view with
  | start | done | execute | save_status | task_response => exact hsound
  | save_row vm => exact hstopping vm hsound
  | save_cached_status vm | save_cached_status_change vm => exact ⟨hstopping vm hsound.1, hsound.2⟩

theorem Ordered.init {db : Db Node Nat} {row : api.callbacks.VmRow Node Nat} (hrow : db.vm = some row) {now : Nat}
    (hpast : Past row.store now) (super_admins same_owner : Bool) :
    Ordered (.init db super_admins same_owner now) where
  view h := by cases h
  worker := State.workerSound_of_not_started rfl
  sent h := absurd rfl h
  row _ := ⟨row, hrow, hpast, trivial, fun h => by cases h⟩
  callback := trivial

theorem Ordered.time {s : State Node} (h : Ordered s) (delay : Nat) : Ordered { s with now := s.now + delay } where
  view := h.view
  worker := ⟨h.worker.1, fun exec_time he => ⟨(h.worker.2.1 exec_time he).1.trans (Nat.le_add_right _ _),
    (h.worker.2.1 exec_time he).2⟩, h.worker.2.2⟩
  sent := h.sent
  row habsent := by
    obtain ⟨row, hrow, hpast, hsound, hexists⟩ := h.row habsent
    exact ⟨row, hrow, hpast.mono (Nat.le_add_right _ _), hsound.mono (Nat.le_add_right _ _), hexists⟩
  callback := h.callback

/-- Until the view is done the task has not been registered. -/
theorem Ordered.not_exists {s : State Node} (h : Ordered s) (hview : s.view ≠ .done) :
    s.exists_ = false ∧ s.worker.started = false ∧ s.callback = .absent := by
  have hexists : s.exists_ = false := by
    cases hexists : s.exists_ with
    | false => rfl
    | true => exact absurd (h.view hexists) hview
  refine ⟨hexists, ?_, ?_⟩
  · cases hstarted : s.worker.started with
    | false => rfl
    | true =>
      have h' := h.worker.1 hstarted
      rw [hexists] at h'
      cases h'
  · by_contra habsent
    have h' := (h.sent habsent).1
    rw [hexists] at h'
    cases h'

/-- A step of the view that leaves the worker as it is, or queues the task. -/
theorem Ordered.of_view {s s' : State Node} (h : Ordered s) (hview : s.view ≠ .done)
    (hworker : s'.worker.started = false) (hcallback : s'.callback = s.callback)
    (hrow : ∃ row, s'.db.vm = some row ∧ Past row.store s'.now ∧ s'.view.Sound row.store s'.now ∧
      (s'.exists_ → s'.view = .done ∧ row.store.status = .STOPPING)) : Ordered s' := by
  obtain ⟨-, -, habsent⟩ := h.not_exists hview
  have habsent' : s'.callback = .absent := hcallback.trans habsent
  obtain ⟨row, hrow, hpast, hsound, hexists⟩ := hrow
  refine ⟨fun h' => (hexists h').1, State.workerSound_of_not_started hworker, fun h' => absurd habsent' h',
    fun _ => ⟨row, hrow, hpast, hsound, fun h' => (hexists h').2⟩, ?_⟩
  rw [habsent']
  trivial

theorem Request.loads_running {request : Request} {status : Status} {transition_to_stopping : Bool}
    (htransition : request.transition_to_stopping status = some transition_to_stopping) :
    if transition_to_stopping then status ≠ .STOPPING else status = .STOPPING := by
  unfold Request.transition_to_stopping at htransition
  by_cases hrefused : !request.allowed status || request.no_shutdown || (request.update && request.tasks_pending)
  · rw [if_pos hrefused] at htransition
    cases htransition
  rw [if_neg hrefused] at htransition
  by_cases hstopping : status = .STOPPING
  · rw [if_pos hstopping] at htransition
    by_cases hforce : request.update || !request.force
    · rw [if_pos hforce] at htransition
      cases htransition
    · rw [if_neg hforce] at htransition
      cases htransition
      simpa using hstopping
  · rw [if_neg hstopping] at htransition
    cases htransition
    simpa using hstopping

theorem Stopping.touch {vm : vms.models.Vm Nat} (hstatus : vm.status = .STOPPING)
    (horig : vm._orig_status ≠ .STOPPING) (now : Nat) : Stopping (vm.touch (some now)) now := by
  have hchanged : vm.status ≠ vm._orig_status := by
    rw [hstatus]
    exact horig.symm
  rw [vms.models.Vm.touch, if_pos hchanged]
  refine ⟨hstatus, hchanged, fun c hc => ?_⟩
  cases hc
  exact le_rfl

theorem State.save_vm {s : State Node} {row : api.callbacks.VmRow Node Nat} (hrow : s.db.vm = some row)
    (view : View) (f : StatusStore Nat → StatusStore Nat) :
    (s.save view f).db.vm = some { row with store := f row.store } := by
  simp [State.save, Db.update_vm, hrow]

/-- The view. -/
theorem Ordered.view_step {request : Request} {s s' : State Node} (h : Ordered s)
    (hstep : request.view_step s = some s') : Ordered s' := by
  unfold Request.view_step at hstep
  have hview : s.view ≠ .done := by
    intro hdone
    rw [hdone] at hstep
    cases hstep
  obtain ⟨hexists, hstarted, habsent⟩ := h.not_exists hview
  obtain ⟨row, hrow, hpast, hsound, -⟩ := h.row habsent
  have hrefuse : ∀ {p : Prop}, s.exists_ = true → p := fun h' => by
    rw [hexists] at h'
    cases h'
  cases hpc : s.view with
  | start =>
    simp only [hpc, hrow] at hstep
    cases htransition : request.transition_to_stopping (vms.models.Vm.get row.store).status with
    | none =>
      rw [htransition] at hstep
      cases hstep
      exact h.of_view hview hstarted rfl ⟨row, hrow, hpast, trivial, hrefuse⟩
    | some transition_to_stopping =>
      rw [htransition] at hstep
      cases hstep
      exact h.of_view hview hstarted rfl ⟨row, hrow, hpast, Request.loads_running htransition, hrefuse⟩
  | execute vm transition_to_stopping =>
    rw [hpc] at hstep
    cases hstep
  | save_status vm =>
    rw [hpc] at hstep hsound
    cases hstep
    exact h.of_view hview hstarted rfl ⟨row, hrow, hpast, Stopping.touch hsound.1 hsound.2 s.now, hrefuse⟩
  | save_row vm =>
    rw [hpc] at hstep hsound
    cases hstep
    refine h.of_view hview hstarted rfl ⟨_, State.save_vm hrow _ _, ?_, ⟨hsound, hsound.status⟩, hrefuse⟩
    exact ⟨hsound.status_change, hpast.cached_status_change⟩
  | save_cached_status vm =>
    rw [hpc] at hstep hsound
    cases hstep
    obtain ⟨hstopping, hstatus⟩ := hsound
    refine h.of_view hview hstarted rfl ⟨_, State.save_vm hrow _ _, ?_, ⟨hstopping, ?_⟩, hrefuse⟩
    · rw [vms.models.Vm.save_cached_status, if_pos hstopping.changed]
      exact ⟨hpast.status_change, hpast.cached_status_change⟩
    · rw [vms.models.Vm.save_cached_status_status]
      exact hstatus
  | save_cached_status_change vm =>
    rw [hpc] at hstep hsound
    cases hstep
    obtain ⟨hstopping, hstatus⟩ := hsound
    refine h.of_view hview hstarted rfl ⟨_, State.save_vm hrow _ _, ?_, ?_, hrefuse⟩
    · rw [vms.models.Vm.save_cached_status_change, if_pos hstopping.changed]
      exact ⟨hpast.status_change, hstopping.status_change⟩
    · exact (vms.models.Vm.save_cached_status_change_status vm row.store).trans hstatus
  | task_response =>
    rw [hpc] at hsound
    simp only [hpc] at hstep
    cases hworker : s.worker with
    | finished =>
      rw [hworker] at hstep
      cases hstep
      exact h.of_view hview rfl rfl ⟨row, hrow, hpast, trivial, hrefuse⟩
    | _ =>
      rw [hworker] at hstep
      cases hstep
      exact h.of_view hview (by simpa [hworker] using hstarted) rfl ⟨row, hrow, hpast, trivial, fun _ => ⟨rfl, hsound⟩⟩
  | done => exact absurd hpc hview

/-- The task is sent before it is registered. -/
theorem Ordered.execute_step {request : Request} {s s' : State Node} (h : Ordered s) {sent raises : Bool}
    (hstep : request.execute_step s sent raises = some s') : Ordered s' := by
  unfold Request.execute_step at hstep
  cases hpc : s.view with
  | execute vm transition_to_stopping =>
    have hview : s.view ≠ .done := by
      rw [hpc]
      intro h'
      cases h'
    obtain ⟨hexists, hstarted, habsent⟩ := h.not_exists hview
    obtain ⟨row, hrow, hpast, hsound, -⟩ := h.row habsent
    have hrefuse : ∀ {p : Prop}, s.exists_ = true → p := fun h' => by
      rw [hexists] at h'
      cases h'
    rw [hpc] at hsound
    have hsound' : View.Sound row.store s.now
        (if raises then .done else if transition_to_stopping then .save_status { vm with status := .STOPPING }
          else .task_response) := by
      cases raises with
      | true => exact trivial
      | false =>
        cases transition_to_stopping with
        | true => exact ⟨rfl, hsound⟩
        | false => exact hsound
    simp only [hpc] at hstep
    cases sent with
    | true =>
      cases hstep
      exact h.of_view hview rfl rfl ⟨row, hrow, hpast, hsound', hrefuse⟩
    | false =>
      cases hstep
      exact h.of_view hview hstarted rfl ⟨row, hrow, hpast, hsound', hrefuse⟩
  | _ =>
    rw [hpc] at hstep
    cases hstep

theorem Ordered.view_error {s : State Node} (h : Ordered s) : Ordered { s with view := .done } where
  view _ := rfl
  worker := h.worker
  sent := h.sent
  row habsent := by
    obtain ⟨row, hrow, hpast, -, hexists⟩ := h.row habsent
    exact ⟨row, hrow, hpast, trivial, hexists⟩
  callback := h.callback

/-- The worker goes past `UserTasks.check` only after the view. -/
theorem Ordered.worker_step {s s' : State Node} (h : Ordered s) (hstep : worker_step s = some s') : Ordered s' := by
  unfold status_task.worker_step at hstep
  have hwaiting : ∀ {worker : Worker}, worker.started = false → s.worker ≠ .finished →
      Ordered { s with worker } := by
    intro worker hworker hfinished
    refine ⟨h.view, State.workerSound_of_not_started hworker, fun h' => ?_, h.row, h.callback⟩
    exact absurd (h.sent h').2 hfinished
  have hstarted : ∀ {worker : Worker}, s.worker ≠ .finished → s.exists_ = true →
      ({ s with worker } : State Node).WorkerSound → Ordered { s with worker } := by
    intro worker hfinished hexists hsound
    exact ⟨h.view, hsound, fun h' => absurd (h.sent h').2 hfinished, h.row, h.callback⟩
  cases hpc : s.worker with
  | queued =>
    rw [hpc] at hstep
    cases hstep
    exact hwaiting rfl (by rw [hpc]; simp)
  | check wait =>
    simp only [hpc] at hstep
    by_cases hexists : s.exists_
    · rw [if_pos hexists] at hstep
      cases hstep
      refine hstarted (by rw [hpc]; simp) hexists ⟨fun _ => hexists, fun _ h' => ?_, fun _ h' => ?_⟩ <;> cases h'
    · rw [if_neg hexists] at hstep
      by_cases htimeout : CHECK_TIMEOUT < wait
      · rw [if_pos htimeout] at hstep
        cases hstep
        exact hwaiting rfl (by rw [hpc]; simp)
      · rw [if_neg htimeout] at hstep
        cases hstep
        exact hwaiting rfl (by rw [hpc]; simp)
  | sleep wait until_ =>
    simp only [hpc] at hstep
    by_cases hwake : until_ ≤ s.now
    · rw [if_pos hwake] at hstep
      cases hstep
      exact hwaiting rfl (by rw [hpc]; simp)
    · rw [if_neg hwake] at hstep
      cases hstep
  | task_check =>
    have hexists := h.worker.1 (by rw [hpc]; rfl)
    rw [hpc] at hstep
    cases hstep
    refine hstarted (by rw [hpc]; simp) hexists ⟨fun _ => hexists, fun _ h' => ?_, fun _ h' => ?_⟩ <;> cases h'
  | popen =>
    have hexists := h.worker.1 (by rw [hpc]; rfl)
    have habsent : s.callback = .absent := by
      by_contra habsent
      have hfinished := (h.sent habsent).2
      rw [hpc] at hfinished
      cases hfinished
    obtain ⟨row, hrow, hpast, -, hstatus⟩ := h.row habsent
    rw [hpc] at hstep
    cases hstep
    refine hstarted (by rw [hpc]; simp) hexists ⟨fun _ => hexists, fun exec_time h' => ?_, fun _ h' => ?_⟩
    · cases h'
      exact ⟨le_rfl, row, hrow, hstatus hexists, hpast⟩
    · cases h'
  | send_task result =>
    have hexists := h.worker.1 (by rw [hpc]; rfl)
    have hreported := h.worker.2.2 result hpc
    rw [hpc] at hstep
    cases hstep
    refine ⟨h.view, State.workerSound_of_not_started rfl, fun _ => ⟨hexists, rfl⟩, fun h' => ?_, hreported⟩
    cases h'
  | _ =>
    rw [hpc] at hstep
    cases hstep

theorem Ordered.finish_step {s s' : State Node} (h : Ordered s) {returncode : Int} {message : String}
    {json : Option vms.definition.Json} (hstep : finish_step s returncode message json = some s') : Ordered s' := by
  unfold status_task.finish_step at hstep
  split at hstep
  · rename_i exec_time meta_ hworker hmeta
    cases hstep
    have hexists := h.worker.1 (by rw [hworker]; rfl)
    obtain ⟨hle, hsaved⟩ := h.worker.2.1 exec_time hworker
    have hreported := (⟨exec_time, s.now, rfl, rfl, hle, hsaved⟩ : s.Reported
      { returncode := some returncode, message := some message, json := some json, stdout := none
        stderr := none, status := none, status_changed := none
        meta_ := { meta_ with exec_time := some exec_time, finish_time := some s.now } })
    refine ⟨h.view, ⟨fun _ => hexists, fun _ h' => ?_, fun result h' => ?_⟩, fun h' => ?_, h.row, h.callback⟩
    · cases h'
    · cases h'
      exact hreported
    · have hfinished := (h.sent h').2
      rw [hworker] at hfinished
      cases hfinished
  · cases hstep

theorem Ordered.worker_error {s : State Node} (h : Ordered s) : Ordered { s with worker := .finished } where
  view := h.view
  worker := State.workerSound_of_not_started rfl
  sent h' := ⟨(h.sent h').1, rfl⟩
  row := h.row
  callback := h.callback

/-- The result allows `vm_status_cb` to change the status. -/
theorem State.Reported.ready {s : State Node} {result : Result Nat} (hreported : s.Reported result) :
    Ready result ⟨s.db, result, s.super_admins, s.same_owner⟩ := by
  obtain ⟨exec_time, finish_time, hexec, hfinish, hle, row, hrow, -, hpast⟩ := hreported
  refine ⟨.refl result, fun _ => ⟨row, hrow, fun new_status change_time hnew_status => ?_⟩⟩
  rintro ⟨t, ht, old_change_time, hold, hlt⟩
  have hcached := hpast.cached_status_change old_change_time hold
  rw [Option.mem_def] at ht
  rcases result.new_status_time hnew_status with rfl | rfl
  · rw [hexec] at ht
    cases ht
    omega
  · rw [hfinish] at ht
    cases ht
    omega

/-- An execution of the callback. -/
theorem Ordered.callback_step {s s' : State Node} (h : Ordered s) {fails : List Bool}
    (hstep : callback_step s fails = some s') : Ordered s' := by
  unfold status_task.callback_step at hstep
  cases hcallback : s.callback with
  | absent | done =>
    rw [hcallback] at hstep
    cases hstep
  | sent result retries =>
    obtain ⟨hexists, hfinished⟩ := h.sent (by rw [hcallback]; simp)
    have hready : Ready result ⟨s.db, result, s.super_admins, s.same_owner⟩ := by
      have hsound := h.callback
      rw [hcallback] at hsound
      cases retries with
      | zero => exact State.Reported.ready hsound
      | succ retries => exact hsound
    have hfinishes := (api.callbacks.ensures_callback_vm_status_cb hready).run_failing fails
    simp only [hcallback] at hstep
    rcases hrun : (api.callbacks.callback vm_status_cb).run_failing fails
      ⟨s.db, result, s.super_admins, s.same_owner⟩ with ⟨outcome, t⟩
    rw [hrun] at hstep hfinishes
    have hworker : ∀ s' : State Node, s'.worker = s.worker → s'.WorkerSound := fun s' h' =>
      State.workerSound_of_not_started (by rw [h', hfinished]; rfl)
    rcases outcome with (- | e) | r
    · cases hstep
      refine ⟨h.view, hworker _ rfl, fun _ => ⟨hexists, hfinished⟩, (fun h' => by cases h'), ?_⟩
      exact Ready.again hfinishes
    · cases hstep
      refine ⟨h.view, hworker _ rfl, fun _ => ⟨hexists, hfinished⟩, (fun h' => by cases h'), ?_⟩
      exact ⟨iff_of_false Bool.false_ne_true hfinishes, fun h' => absurd h' Bool.false_ne_true⟩
    · cases hstep
      refine ⟨h.view, hworker _ rfl, fun _ => ⟨hexists, hfinished⟩, (fun h' => by cases h'), ?_⟩
      exact ⟨iff_of_true rfl ⟨hfinishes.1, hfinishes.2.1⟩, fun _ => hfinishes.2.2⟩

theorem Ordered.step {request : Request} {s s' : State Node} {e : Event} (h : Ordered s)
    (hstep : request.step s e = some s') : Ordered s' := by
  cases e with
  | time delay =>
    cases hstep
    exact h.time delay
  | view => exact h.view_step hstep
  | execute sent raises => exact h.execute_step hstep
  | view_error =>
    cases hstep
    exact h.view_error
  | worker => exact h.worker_step hstep
  | finish returncode message json => exact h.finish_step hstep
  | worker_error =>
    rw [Request.step] at hstep
    split at hstep
    · cases hstep
    · cases hstep
      exact h.worker_error
  | callback fails => exact h.callback_step hstep

/-- In every interleaving of the view, the worker and the callback the command is
started and `vm_status_cb` executed only after the view has saved the status; the
time of the change that the callback is about to save is not before that of
`STOPPING`, and once it has succeeded, which it does after every successful
command, the VM is not stopping. -/
theorem view_before_callback {request : Request} {db : Db Node Nat} {row : api.callbacks.VmRow Node Nat}
    {now : Nat} {super_admins same_owner : Bool} {events : List Event} {s : State Node} (hrow : db.vm = some row)
    (hpast : Past row.store now) (hrun : Run request.step anyStep (.init db super_admins same_owner now) events s) :
    (s.worker.started → s.exists_ ∧ s.view = .done) ∧
    (∀ result retries, s.callback = .sent result retries → s.view = .done ∧
      (retries = 0 → ∃ row, s.db.vm = some row ∧ row.store.status = .STOPPING ∧
        ∀ new_status change_time, result.new_status = some (new_status, change_time) →
          ∃ time, change_time = some time ∧ Past row.store time)) ∧
    ∀ result success, s.callback = .done result success →
      (success = true ↔ result.succeeded ∧ result.new_status.isSome) ∧
      (success = true → ∃ row, s.db.vm = some row ∧ row.store.status ≠ .STOPPING) := by
  have hordered : Ordered s := hrun.invariant (fun _ _ _ h _ hstep => Ordered.step h hstep)
    (Ordered.init hrow hpast super_admins same_owner)
  have hcallback := hordered.callback
  refine ⟨fun hstarted => ?_, fun result retries hsent => ?_, fun result success hdone => ?_⟩
  · have hexists := hordered.worker.1 hstarted
    exact ⟨hexists, hordered.view hexists⟩
  · rw [hsent] at hcallback
    refine ⟨hordered.view (hordered.sent (by rw [hsent]; simp)).1, ?_⟩
    rintro rfl
    obtain ⟨exec_time, finish_time, hexec, hfinish, hle, row', hrow', hstatus, hpast'⟩ := hcallback
    refine ⟨row', hrow', hstatus, fun new_status change_time hnew_status => ?_⟩
    rcases result.new_status_time hnew_status with rfl | rfl
    · exact ⟨exec_time, hexec, hpast'⟩
    · exact ⟨finish_time, hfinish, hpast'.mono hle⟩
  · rw [hdone] at hcallback
    exact hcallback

/-- A running VM. -/
def running : Db Unit Nat where
  vm := some
    { hostname := "vm", store := ⟨.RUNNING, some 1, some .RUNNING, some 1⟩, node := (), hvm := true
      slavevm := false, json := ⟨∅, fun _ => none, [], []⟩, json_active := ⟨∅, fun _ => none, [], []⟩
      template := none }
  slave_vm := none
  nodes := []
  snapshots := []
  snapshot_defines := []
  backup_defines := []
  last_backups := []
  task_log := []

/-- The worker looks for the task in vain, and the first execution of the callback fails. -/
def stop_events : List Event :=
  [.view, .execute true false, .worker, .worker, .view, .time 500000, .view, .worker, .view, .view, .view,
    .worker, .worker, .worker, .time 7, .finish 0 "Successfully completed stop for VM" none, .worker,
    .callback [false, true], .callback []]

theorem view_before_callback_of_stop :
    ∃ s result, Run (Request.mk .stop false false false false false).step anyStep (.init running true true 2)
        stop_events s ∧ s.callback = .done result true ∧
      ∃ row, s.db.vm = some row ∧ row.store.status ≠ .STOPPING := by
  have hexec : (exec (Request.mk .stop false false false false false).step anyStep (.init running true true 2)
      stop_events).any (fun s => match s.callback with
        | .done _ success => success
        | _ => false) = true := by decide +kernel
  obtain ⟨s, hrun, hsuccess⟩ := Run.exists_of_exec hexec
  have hpast : Past ⟨.RUNNING, some 1, some .RUNNING, some 1⟩ 2 := by
    constructor <;> intro c hc <;> cases hc <;> decide
  obtain ⟨-, -, hdone⟩ := view_before_callback rfl hpast hrun
  cases hcallback : s.callback with
  | done result success =>
    rw [hcallback] at hsuccess
    cases hsuccess
    exact ⟨s, result, hrun, hcallback, (hdone result true hcallback).2 rfl⟩
  | absent | sent =>
    rw [hcallback] at hsuccess
    cases hsuccess

end api.vm.status_task
