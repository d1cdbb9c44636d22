import Mathlib.Data.Option.Basic

namespace vms.models

/-- The values of `Vm.status`. `PENDING` and `UNKNOWN` are never stored. -/
inductive Status
  | STOPPED
  | RUNNING
  | STOPPING
  | NOTREADY
  | FROZEN
  | NOTCREATED
  | CREATING
  | DEPLOYING_START
  | DEPLOYING_FINISH
  | DEPLOYING_DUMMY
  | NOTREADY_STOPPED
  | NOTREADY_RUNNING
  | NOTREADY_FROZEN
  | NOTREADY_NOTCREATED
  | ERROR
  deriving DecidableEq

def Vm.STATUS_KNOWN : List Status := [.STOPPED, .STOPPING, .RUNNING, .NOTCREATED, .ERROR]

def Vm.STATUS_NOTREADY : List (Status × Status) :=
  [(.NOTREADY, .NOTREADY), (.STOPPED, .NOTREADY_STOPPED), (.RUNNING, .NOTREADY_RUNNING),
    (.FROZEN, .NOTREADY_FROZEN), (.NOTCREATED, .NOTREADY_NOTCREATED)]

def Status.is_notready : Status → Bool
  | .NOTREADY | .NOTREADY_STOPPED | .NOTREADY_RUNNING | .NOTREADY_FROZEN
  | .NOTREADY_NOTCREATED => true
  | _ => false

/-- The states a node reports that are not in `STATUS_UNUSED`. -/
inductive NodeState
  | stopped
  | running
  | stopping
  | installed
  | down
  deriving DecidableEq

def Vm.STATUS_DICT : NodeState → Status
  | .stopped => .STOPPED
  | .running => .RUNNING
  | .stopping => .STOPPING
  | .installed => .STOPPED
  | .down => .STOPPED

/-- The `vms_vm` row and the two cache keys of one VM. -/
structure StatusStore (Time : Type) where
  status : Status
  status_change : Option Time
  cached_status : Option Status
  cached_status_change : Option Time
  deriving DecidableEq

/-- A loaded object; `_orig_status` is the status that it believes to be saved. -/
structure Vm (Time : Type) where
  status : Status
  _orig_status : Status
  status_change : Option Time
  deriving DecidableEq

variable {Time : Type}

def Vm.get (store : StatusStore Time) : Vm Time := ⟨store.status, store.status, store.status_change⟩

/-- What `save` does to the object before it reaches the database. -/
def Vm.touch (vm : Vm Time) (status_change_time : Option Time) : Vm Time :=
  if vm.status ≠ vm._orig_status then { vm with status_change := status_change_time } else vm

/-- The UPDATE of the two status fields. -/
def Vm.save_row (vm : Vm Time) (store : StatusStore Time) : StatusStore Time :=
  { store with status := vm.status, status_change := vm.status_change }

/-- The cache keys are written only if the object's status has changed. -/
def Vm.save_cached_status (vm : Vm Time) (store : StatusStore Time) : StatusStore Time :=
  if vm.status ≠ vm._orig_status then { store with cached_status := some vm.status } else store

def Vm.save_cached_status_change (vm : Vm Time) (store : StatusStore Time) : StatusStore Time :=
  if vm.status ≠ vm._orig_status then { store with cached_status_change := vm.status_change } else store

def Vm.save (vm : Vm Time) (status_change_time : Option Time) (store : StatusStore Time) :
    StatusStore Time :=
  let vm := vm.touch status_change_time
  vm.save_cached_status_change (vm.save_cached_status (vm.save_row store))

/-- What `save` leaves in the object. -/
def Vm.saved (vm : Vm Time) (status_change_time : Option Time) : Vm Time :=
  { vm.touch status_change_time with _orig_status := vm.status }

def Vm.set_notready (vm : Vm Time) : Vm Time :=
  { vm with status := (STATUS_NOTREADY.lookup vm.status).getD .NOTREADY }

def Vm.revert_notready (vm : Vm Time) : Vm Time :=
  { vm with status := ((STATUS_NOTREADY.map Prod.swap).lookup vm.status).getD vm.status }

theorem Vm.set_notready_is_notready (vm : Vm Time) : vm.set_notready.status.is_notready = true := by
  unfold Vm.set_notready
  cases vm.status <;> rfl

@[simp] theorem Vm.touch_status (vm : Vm Time) (status_change_time : Option Time) :
    (vm.touch status_change_time).status = vm.status := by
  unfold Vm.touch
  split <;> rfl

@[simp] theorem Vm.save_cached_status_status (vm : Vm Time) (store : StatusStore Time) :
    (vm.save_cached_status store).status = store.status := by
  unfold Vm.save_cached_status
  split <;> rfl

@[simp] theorem Vm.save_cached_status_change_status (vm : Vm Time) (store : StatusStore Time) :
    (vm.save_cached_status_change store).status = store.status := by
  unfold Vm.save_cached_status_change
  split <;> rfl

@[simp] theorem Vm.save_cached_status_change_cached_status (vm : Vm Time)
    (store : StatusStore Time) :
    (vm.save_cached_status_change store).cached_status = store.cached_status := by
  unfold Vm.save_cached_status_change
  split <;> rfl

theorem Vm.save_status (vm : Vm Time) (status_change_time : Option Time)
    (store : StatusStore Time) : (vm.save status_change_time store).status = vm.status := by
  simp [Vm.save, Vm.save_row]

theorem Vm.cached_of_save_cached_status {vm : Vm Time} {store : StatusStore Time} {c : Status}
    (hc : (vm.save_cached_status store).cached_status = some c) :
    vm.status = c ∨ store.cached_status = some c := by
  unfold Vm.save_cached_status at hc
  split at hc
  · exact .inl (Option.some.inj hc)
  · exact .inr hc

theorem Vm.save_of_changed {vm : Vm Time} {status_change_time : Option Time}
    {store : StatusStore Time} (hchanged : vm.status ≠ vm._orig_status) :
    vm.save status_change_time store =
      ⟨vm.status, status_change_time, some vm.status, status_change_time⟩ := by
  simp [Vm.save, Vm.touch, Vm.save_cached_status, Vm.save_cached_status_change, Vm.save_row, hchanged]

theorem Vm.save_get (status_change_time : Option Time) (store : StatusStore Time) :
    (Vm.get store).save status_change_time store = store := by
  simp [Vm.save, Vm.get, Vm.touch, Vm.save_cached_status, Vm.save_cached_status_change, Vm.save_row]

/-- A later load finds what `save` has left in the object. -/
theorem Vm.get_save (vm : Vm Time) (status_change_time : Option Time) (store : StatusStore Time) :
    Vm.get (vm.save status_change_time store) = vm.saved status_change_time := by
  rw [Vm.saved, Vm.get, Vm.save]
  by_cases hchanged : vm.status ≠ vm._orig_status
  · simp [Vm.touch, Vm.save_cached_status, Vm.save_cached_status_change, Vm.save_row, hchanged]
  · simp [Vm.touch, Vm.save_cached_status, Vm.save_cached_status_change, Vm.save_row, hchanged]

/-- A later load has the time of the change that `save` has left in the object. -/
theorem Vm.saved_get_save (vm : Vm Time) (status_change_time : Option Time) (store : StatusStore Time) :
    ((Vm.get (vm.save status_change_time store)).saved status_change_time).status_change =
      (vm.saved status_change_time).status_change := by
  have hload : (Vm.get (vm.save status_change_time store)).touch status_change_time =
      Vm.get (vm.save status_change_time store) := by
    simp [Vm.touch, Vm.get]
  rw [Vm.saved, hload, Vm.get_save]

/-- The second of two calls has nothing to revert. -/
theorem Vm.revert_notready_get_save (vm : Vm Time) (status_change_time : Option Time)
    (store : StatusStore Time) :
    (Vm.get (vm.revert_notready.save status_change_time store)).revert_notready =
      Vm.get (vm.revert_notready.save status_change_time store) := by
  have hstatus : (vm.revert_notready.save status_change_time store).status = vm.revert_notready.status :=
    Vm.save_status _ _ _
  rw [Vm.revert_notready, Vm.get]
  dsimp only
  rw [hstatus, Vm.revert_notready]
  dsimp only
  cases vm.status <;> rfl

end vms.models
