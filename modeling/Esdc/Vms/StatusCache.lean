import Esdc.Lib.Transition
import Esdc.Vms.Status

open transition

namespace vms.status_cache

open vms.models

variable {O Time : Type}

/-- The row and the cache of one VM, and the objects that requests and callbacks
have loaded. -/
structure State (O Time : Type) where
  store : StatusStore Time
  objects : O → Option (Vm Time)

def State.init (store : StatusStore Time) : State O Time := ⟨store, fun _ => none⟩

/-- What a request or a callback does with an object. -/
inductive Op (Time : Type)
  | get
  /-- `vm.status = status`, or a change with `save=False` -/
  | set_status (status : Status)
  | save_status (new_status : Option Status) (status_change_time : Option Time)
  | set_notready (now : Time)
  | revert_notready (now : Time)
  /-- `vm.save()` of the full row -/
  | save (now : Time)

structure Event (O Time : Type) where
  object : O
  op : Op Time

/-- The object that is saved, and the time of its change. -/
def Op.saves (op : Op Time) (vm : Vm Time) : Option (Vm Time × Option Time) :=
  match op with
  | .get | .set_status _ => none
  | .save_status new_status status_change_time =>
    some ({ vm with status := new_status.getD vm.status }, status_change_time)
  | .set_notready now => some (vm.set_notready, some now)
  | .revert_notready now => some (vm.revert_notready, some now)
  | .save now => some (vm, some now)

variable [DecidableEq O]

def State.put (s : State O Time) (o : O) (vm : Vm Time) : State O Time :=
  { s with objects := Function.update s.objects o (some vm) }

def State.step (s : State O Time) (e : Event O Time) : Option (State O Time) :=
  match e.op with
  | .get => some (s.put e.object (Vm.get s.store))
  | .set_status status => (s.objects e.object).map fun vm => s.put e.object { vm with status }
  | op => (s.objects e.object).bind fun vm => (op.saves vm).map fun (vm, time) =>
    { s.put e.object (vm.saved time) with store := vm.save time s.store }

/-- The status that the cache holds, if it holds one, is that of the row. -/
def Agrees (store : StatusStore Time) : Prop := ∀ status, store.cached_status = some status → status = store.status

instance (store : StatusStore Time) : Decidable (Agrees store) :=
  decidable_of_iff (∀ status ∈ store.cached_status, status = store.status) Iff.rfl

/-- An object whose status has not been changed is saved only if the row still has
that status. -/
def State.Fresh (s : State O Time) (e : Event O Time) : Prop :=
  ∀ vm, s.objects e.object = some vm → ∀ saved, e.op.saves vm = some saved →
    saved.1.status = saved.1._orig_status → s.store.status = saved.1.status

omit [DecidableEq O] in
theorem save_of_unchanged {vm : Vm Time} (hsame : vm.status = vm._orig_status) (time : Option Time)
    (store : StatusStore Time) : (vm.save time store).cached_status = store.cached_status := by
  simp [Vm.save, Vm.save_cached_status, Vm.save_cached_status_change, Vm.save_row, Vm.touch, hsame]

omit [DecidableEq O] in
/-- A save of a new status, or of the status of the row, keeps the row and the cache together. -/
theorem Agrees.save {store : StatusStore Time} (hagrees : Agrees store) {vm : Vm Time}
    (hfresh : vm.status = vm._orig_status → store.status = vm.status) (time : Option Time) :
    Agrees (vm.save time store) := by
  intro status hstatus
  rw [Vm.save_status]
  by_cases hsame : vm.status = vm._orig_status
  · rw [save_of_unchanged hsame] at hstatus
    rw [hagrees status hstatus, hfresh hsame]
  · rw [Vm.save_of_changed hsame] at hstatus
    exact (Option.some.inj hstatus).symm

omit [DecidableEq O] in
/-- Any other save separates the row from a cache that holds a status. -/
theorem not_agrees_save {store : StatusStore Time} (hagrees : Agrees store) {status : Status}
    (hcached : store.cached_status = some status) {vm : Vm Time} (hsame : vm.status = vm._orig_status)
    (hdiffers : store.status ≠ vm.status) (time : Option Time) : ¬ Agrees (vm.save time store) := by
  intro hsaved
  have hstatus := hsaved status (by rw [save_of_unchanged hsame, hcached])
  rw [Vm.save_status, hagrees status hcached] at hstatus
  exact hdiffers hstatus

/-- What a step does to the row and the cache. -/
theorem State.step_store {s s' : State O Time} {e : Event O Time} (hstep : s.step e = some s') :
    s'.store = s.store ∨ ∃ vm saved, s.objects e.object = some vm ∧ e.op.saves vm = some saved ∧
      s'.store = saved.1.save saved.2 s.store := by
  obtain ⟨o, op⟩ := e
  cases op with
  | get =>
    cases hstep
    exact .inl rfl
  | set_status status =>
    obtain ⟨vm, _, rfl⟩ := Option.map_eq_some_iff.mp hstep
    exact .inl rfl
  | save_status | set_notready | revert_notready | save =>
    obtain ⟨vm, hvm, hsaved⟩ := Option.bind_eq_some_iff.mp hstep
    obtain ⟨saved, hsaves, rfl⟩ := Option.map_eq_some_iff.mp hsaved
    exact .inr ⟨vm, saved, hvm, hsaves, rfl⟩

theorem Agrees.step {s s' : State O Time} {e : Event O Time} (hagrees : Agrees s.store) (hfresh : s.Fresh e)
    (hstep : s.step e = some s') : Agrees s'.store := by
  rcases State.step_store hstep with hstore | ⟨vm, saved, hvm, hsaves, hstore⟩
  · rw [hstore]
    exact hagrees
  · rw [hstore]
    exact hagrees.save (hfresh vm hvm saved hsaves) saved.2

theorem State.step_of_saves {s : State O Time} {e : Event O Time} {vm : Vm Time} {saved : Vm Time × Option Time}
    (hvm : s.objects e.object = some vm) (hsaves : e.op.saves vm = some saved) :
    s.step e = some { s.put e.object (saved.1.saved saved.2) with store := saved.1.save saved.2 s.store } := by
  obtain ⟨o, op⟩ := e
  cases op with
  | get | set_status => cases hsaves
  | save_status | set_notready | revert_notready | save =>
    rw [State.step]
    simp only [hvm, hsaves, Option.bind_some, Option.map_some]

/-- The condition is exact while the cache holds a status. -/
theorem not_agrees_of_not_fresh {s s' : State O Time} {e : Event O Time} (hagrees : Agrees s.store)
    {status : Status} (hcached : s.store.cached_status = some status) (hstale : ¬ s.Fresh e)
    (hstep : s.step e = some s') : ¬ Agrees s'.store := by
  simp only [State.Fresh, not_forall] at hstale
  obtain ⟨vm, hvm, saved, hsaves, hsame, hdiffers⟩ := hstale
  rw [State.step_of_saves hvm hsaves] at hstep
  cases hstep
  exact not_agrees_save hagrees hcached hsame hdiffers saved.2

/-- As long as an object is saved with the status that it was loaded with only
while the row has that status, the cache has the status of the row after every
step of any number of requests and callbacks. -/
theorem agrees {store : StatusStore Time} {events : List (Event O Time)} {s : State O Time}
    (hstore : Agrees store) (hrun : Run State.step State.Fresh (.init store) events s) : Agrees s.store :=
  hrun.invariant (fun _ _ _ hagrees hfresh hstep => Agrees.step hagrees hfresh hstep) hstore

instance State.decidableFresh (s : State O Time) : DecidablePred s.Fresh := fun e =>
  decidable_of_iff (∀ vm ∈ s.objects e.object, ∀ saved ∈ e.op.saves vm,
    saved.1.status = saved.1._orig_status → s.store.status = saved.1.status) Iff.rfl

def creating : StatusStore Nat := ⟨.CREATING, none, some .CREATING, none⟩

/-- A status event during the deployment, and then a full save by an object that
has been loaded after it. -/
theorem agrees_of_create_after_event :
    ∃ s, Run State.step State.Fresh (.init creating)
        [⟨true, .get⟩, ⟨true, .save_status (some .RUNNING) (some 1)⟩, ⟨false, .get⟩, ⟨false, .save 2⟩] s ∧
      s.store.status = .RUNNING ∧ Agrees s.store := by
  have hexec : (exec State.step State.Fresh (.init creating)
      [⟨true, .get⟩, ⟨true, .save_status (some .RUNNING) (some 1)⟩, ⟨false, .get⟩, ⟨false, .save 2⟩]).any
        (fun s => s.store.status = .RUNNING) = true := by decide
  obtain ⟨s, hrun, hstatus⟩ := Run.exists_of_exec hexec
  exact ⟨s, hrun, of_decide_eq_true hstatus, agrees (by decide) hrun⟩

/-- `vm_create_cb` has loaded the VM before the event, and saves the full row after it. -/
theorem not_agrees :
    ¬ ∀ (store : StatusStore Nat) (events : List (Event Bool Nat)) s, Agrees store →
      Run State.step anyStep (.init store) events s → Agrees s.store := by
  intro hclaim
  have hexec : (exec State.step anyStep (.init creating)
      [⟨false, .get⟩, ⟨true, .get⟩, ⟨true, .save_status (some .RUNNING) (some 1)⟩, ⟨false, .save 2⟩]).any
        (fun s => ¬ Agrees s.store) = true := by decide
  obtain ⟨s, hrun, hdiffers⟩ := Run.exists_of_exec hexec
  exact of_decide_eq_true hdiffers (hclaim creating _ s (by decide) hrun)

end vms.status_cache
