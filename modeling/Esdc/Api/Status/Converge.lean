import Esdc.Lib.TimedRegister
import Esdc.Api.Status.Check

open vms.models timed_register

namespace api.vm.status

variable {Node Time : Type}

/-- The status of a deployed VM that is neither deploying nor not ready. -/
def regular : Status → Bool
  | .STOPPED | .RUNNING | .STOPPING | .FROZEN | .ERROR => true
  | _ => false

/-- The cache keys agree with the database where they are present. -/
structure Cached (store : StatusStore Time) : Prop where
  cached_status : ∀ c ∈ store.cached_status, c = store.status
  cached_status_change : ∀ t ∈ store.cached_status_change, store.status_change = some t

def register (store : StatusStore Time) : Register Status Time :=
  ⟨store.status, store.cached_status_change⟩

def StatusEvent.update (e : StatusEvent Node Time) : Update Status Time :=
  ⟨Vm.STATUS_DICT e.state, e.when⟩

variable [DecidableEq Node] [LinearOrder Time]

/-- The events that come from the node of the VM. -/
def VmInfo.updates (info : VmInfo Node) (events : List (StatusEvent Node Time)) :
    List (Update Status Time) :=
  (events.filter fun e => info.node_uuid = e.node_uuid).map StatusEvent.update

/-- The events are handled one after another in the given order. -/
def VmInfo.handle (info : VmInfo Node) (store : StatusStore Time)
    (order : List (StatusEvent Node Time)) : StatusStore Time :=
  order.foldl (vm_status_event_cb info) store

/-- In whatever order the events are handled, the database and the cache end with
the status of the latest one. -/
def VmInfo.Converges (info : VmInfo Node) (store : StatusStore Time)
    (events : List (StatusEvent Node Time)) : Prop :=
  ∀ latest ∈ events, (∀ e ∈ events, e.when ≤ latest.when) →
    ∀ order : List (StatusEvent Node Time), order.Perm events →
    (info.handle store order).status = Vm.STATUS_DICT latest.state ∧
    (info.handle store order).cached_status = some (Vm.STATUS_DICT latest.state)

/-- The status is one that the handlers follow, and the status of the latest
event, once it was stored or reported, is not interrupted by another one. -/
def VmInfo.Uninterrupted (info : VmInfo Node) (store : StatusStore Time)
    (events : List (StatusEvent Node Time)) : Prop :=
  ∀ latest ∈ events, (∀ e ∈ events, e.when ≤ latest.when) →
    store.status ∈ Vm.STATUS_KNOWN ∧
      (register store).Settles (info.updates events) (Vm.STATUS_DICT latest.state)

instance (info : VmInfo Node) (store : StatusStore Time) (events : List (StatusEvent Node Time)) :
    Decidable (info.Uninterrupted store events) :=
  inferInstanceAs (Decidable (∀ latest ∈ events, (∀ e ∈ events, e.when ≤ latest.when) → _ ∧ _))

omit [DecidableEq Node] [LinearOrder Time] in
theorem STATUS_DICT_known (state : NodeState) : Vm.STATUS_DICT state ∈ Vm.STATUS_KNOWN := by
  cases state <;> decide

theorem detect_change_known {state_cache state : Status} (hknown : state_cache ∈ Vm.STATUS_KNOWN) :
    detect_change state_cache state false = if state_cache = state then .ignored else .changed := by
  cases state_cache <;> first | rfl | exact absurd hknown (by decide)

theorem detect_change_regular {state_cache state : Status} (hregular : regular state_cache = true)
    (hunknown : state_cache ∉ Vm.STATUS_KNOWN) :
    detect_change state_cache state false = .ignored := by
  cases state_cache with
  | FROZEN => cases state <;> rfl
  | STOPPED | RUNNING | STOPPING | ERROR => exact absurd (by decide) hunknown
  | _ => cases hregular

/-- Loads the status into the cache if it is not there. -/
def load (store : StatusStore Time) : StatusStore Time :=
  { store with cached_status := some store.status }

/-- An event is handled as if the status had been in the cache. -/
theorem vm_status_event_cb_eq {info : VmInfo Node} {store : StatusStore Time} (hcached : Cached store)
    (e : StatusEvent Node Time) :
    vm_status_event_cb info store e =
      _vm_status_check info e.node_uuid (Vm.STATUS_DICT e.state) (some store.status) (some e.when)
        false (load store) := by
  unfold vm_status_event_cb
  cases hc : store.cached_status with
  | none => rfl
  | some c =>
    have hsome : store.cached_status = some store.status := by
      rw [hc, hcached.cached_status c hc]
    have hloaded : load store = store := by rw [load, ← hsome]
    rw [hloaded, hcached.cached_status c hc]

/-- An event of a VM whose status the handlers follow. -/
theorem vm_status_event_cb_known {info : VmInfo Node} {store : StatusStore Time}
    (hcached : Cached store) (hknown : store.status ∈ Vm.STATUS_KNOWN) (e : StatusEvent Node Time) :
    vm_status_event_cb info store e =
      if store.status = Vm.STATUS_DICT e.state ∨ info.node_uuid ≠ e.node_uuid ∨
        too_old store (some e.when) then load store
      else ⟨Vm.STATUS_DICT e.state, some e.when, some (Vm.STATUS_DICT e.state), some e.when⟩ := by
  rw [vm_status_event_cb_eq hcached, _vm_status_check, detect_change_known hknown]
  by_cases hsame : store.status = Vm.STATUS_DICT e.state
  · simp [hsame, VmInfo.write]
  by_cases hnode : info.node_uuid ≠ e.node_uuid
  · simp [hsame, hnode, VmInfo.write]
  by_cases hold : too_old store (some e.when)
  · have hold' : too_old (load store) (some e.when) := hold
    simp [hsame, hnode, hold, hold', VmInfo.write, vm_status_changed]
  · have hold' : ¬ too_old (load store) (some e.when) := hold
    simp only [hsame, hnode, hold, hold', VmInfo.write, vm_status_changed, if_false, if_true, or_self]
    exact Vm.save_of_changed (Ne.symm hsame)

/-- The handler treats an event of the VM's node as a register does an update. -/
theorem register_vm_status_event_cb {info : VmInfo Node} {store : StatusStore Time}
    (hcached : Cached store) (hknown : store.status ∈ Vm.STATUS_KNOWN) (e : StatusEvent Node Time) :
    register (vm_status_event_cb info store e) =
      if info.node_uuid = e.node_uuid then (register store).observe e.update else register store := by
  rw [vm_status_event_cb_known hcached hknown]
  by_cases hnode : info.node_uuid = e.node_uuid
  · rw [if_pos hnode]
    by_cases hsame : store.status = Vm.STATUS_DICT e.state
    · rw [if_pos (.inl hsame), Register.observe, if_pos (by exact hsame)]
      rfl
    · by_cases hold : too_old store (some e.when)
      · rw [if_pos (.inr (.inr hold)), Register.observe, if_neg (by exact hsame), if_pos]
        · rfl
        · simpa [too_old, register, StatusEvent.update] using hold
      · rw [if_neg (by simp [hsame, hnode, hold]), Register.observe, if_neg (by exact hsame), if_neg]
        · rfl
        · simpa [too_old, register, StatusEvent.update] using hold
  · rw [if_neg hnode, if_pos (.inr (.inl hnode))]
    rfl

/-- The handlers follow the status, and the cache is up to date. -/
structure Followed (store : StatusStore Time) : Prop where
  cached : Cached store
  known : store.status ∈ Vm.STATUS_KNOWN

theorem Followed.event {store : StatusStore Time} (hfollowed : Followed store)
    (info : VmInfo Node) (e : StatusEvent Node Time) : Followed (vm_status_event_cb info store e) ∧
      (vm_status_event_cb info store e).cached_status =
        some (vm_status_event_cb info store e).status := by
  rw [vm_status_event_cb_known hfollowed.cached hfollowed.known]
  split
  · refine ⟨⟨⟨?_, hfollowed.cached.cached_status_change⟩, hfollowed.known⟩, rfl⟩
    rintro c hc
    exact (Option.some.inj hc).symm
  · refine ⟨⟨⟨?_, ?_⟩, STATUS_DICT_known e.state⟩, rfl⟩
    · rintro c hc
      exact (Option.some.inj hc).symm
    · rintro t ht
      exact ht

theorem Followed.handle {info : VmInfo Node} {store : StatusStore Time} (hfollowed : Followed store)
    (order : List (StatusEvent Node Time)) :
    register (info.handle store order) = (register store).observeAll (info.updates order) ∧
      (order ≠ [] → (info.handle store order).cached_status =
        some (info.handle store order).status) := by
  induction order generalizing store with
  | nil => exact ⟨rfl, fun hne => absurd rfl hne⟩
  | cons e order ih =>
    obtain ⟨hregister, hlast⟩ := ih (hfollowed.event info e).1
    refine ⟨?_, fun _ => ?_⟩
    · refine hregister.trans ?_
      rw [register_vm_status_event_cb hfollowed.cached hfollowed.known]
      by_cases hnode : info.node_uuid = e.node_uuid <;> simp [VmInfo.updates, hnode]
    · cases order with
      | nil => exact (hfollowed.event info e).2
      | cons f order => exact hlast (by simp)

omit [LinearOrder Time] in
/-- The orders of the events give all the orders of the updates. -/
theorem updates_orders {info : VmInfo Node} {events : List (StatusEvent Node Time)}
    {P : List (Update Status Time) → Prop} :
    (∀ order : List (StatusEvent Node Time), order.Perm events → P (info.updates order)) ↔
      ∀ order : List (Update Status Time), order.Perm (info.updates events) → P order := by
  constructor
  · intro hall order hperm
    have hcomp : Relation.Comp (fun updates own => updates = List.map StatusEvent.update own)
        List.Perm order (events.filter fun e => info.node_uuid = e.node_uuid) := by
      rw [List.eq_map_comp_perm]
      exact hperm
    obtain ⟨own, rfl, hown⟩ := hcomp
    have hsplit : (own ++ events.filter fun e => ¬ info.node_uuid = e.node_uuid).Perm events := by
      refine (hown.append_right _).trans ?_
      simpa using List.filter_append_perm (fun e => decide (info.node_uuid = e.node_uuid)) events
    have hupdates : info.updates (own ++ events.filter fun e => ¬ info.node_uuid = e.node_uuid) =
        own.map StatusEvent.update := by
      have hkept : own.filter (fun e => info.node_uuid = e.node_uuid) = own :=
        List.filter_eq_self.mpr fun e he => (List.mem_filter.mp (hown.mem_iff.mp he)).2
      rw [VmInfo.updates, List.filter_append, hkept, List.filter_filter]
      simp
    exact hupdates ▸ hall _ hsplit
  · intro hall order hperm
    exact hall _ ((hperm.filter _).map _)

theorem handle_unknown {info : VmInfo Node} {store : StatusStore Time} (hcached : Cached store)
    (hregular : regular store.status = true) (hunknown : store.status ∉ Vm.STATUS_KNOWN)
    (order : List (StatusEvent Node Time)) : (info.handle store order).status = store.status := by
  induction order generalizing store with
  | nil => rfl
  | cons e order ih =>
    have hevent : vm_status_event_cb info store e = load store := by
      rw [vm_status_event_cb_eq hcached, _vm_status_check,
        detect_change_regular hregular hunknown]
      rfl
    have hload : Cached (load store) := by
      refine ⟨?_, hcached.cached_status_change⟩
      rintro c hc
      exact (Option.some.inj hc).symm
    rw [VmInfo.handle, List.foldl_cons, hevent]
    exact ih hload hregular hunknown

/-- For a deployed VM in a regular status and events whose change times are
distinct and later than the stored one, every order of the events ends with the
status of the latest one exactly when that status is never interrupted: an
event that repeats the cached status does not move the stored change time, and
an older event with another status is then taken over. -/
theorem converges_iff {info : VmInfo Node} {store : StatusStore Time}
    {events : List (StatusEvent Node Time)} (hregular : regular store.status = true)
    (hcached : Cached store) (htimes : (events.map StatusEvent.when).Nodup)
    (hlater : ∀ e ∈ events, ∀ t ∈ store.status_change, t < e.when) :
    info.Converges store events ↔ info.Uninterrupted store events := by
  have hupdates : ((info.updates events).map Update.time).Nodup := by
    rw [VmInfo.updates, List.map_map]
    exact htimes.sublist (List.filter_sublist.map _)
  have hfresh : ∀ u ∈ info.updates events, ∀ c ∈ (register store).changed, c < u.time := by
    intro u hu c hc
    obtain ⟨e, he, rfl⟩ := List.mem_map.mp hu
    exact hlater e (List.mem_filter.mp he).1 c (hcached.cached_status_change c hc)
  refine forall₃_congr fun latest hlatest _ => ?_
  by_cases hknown : store.status ∈ Vm.STATUS_KNOWN
  · have hfollowed : Followed store := ⟨hcached, hknown⟩
    rw [← Register.settles_iff hupdates hfresh, ← updates_orders]
    refine ⟨fun hall => ⟨hknown, fun order hperm => ?_⟩, fun hall order hperm => ?_⟩
    · rw [← (hfollowed.handle order).1]
      exact (hall order hperm).1
    · have hstatus : (info.handle store order).status = Vm.STATUS_DICT latest.state := by
        have hvalue := hall.2 order hperm
        rwa [← (hfollowed.handle order).1] at hvalue
      have hne : order ≠ [] := List.ne_nil_of_mem (hperm.mem_iff.mpr hlatest)
      exact ⟨hstatus, by rw [(hfollowed.handle order).2 hne, hstatus]⟩
  · refine ⟨fun hall => ?_, fun hall => absurd hall.1 hknown⟩
    have hstatus := (hall events (.refl _)).1
    rw [handle_unknown hcached hregular hknown] at hstatus
    exact absurd (hstatus ▸ STATUS_DICT_known latest.state) hknown

/-- A VM that is shut down: two events on the node of the VM, one on another. -/
theorem converges_of_shutdown :
    (⟨0, false, false⟩ : VmInfo Nat).Converges ⟨.RUNNING, some 0, some .RUNNING, some 0⟩
      [⟨0, .stopping, 1⟩, ⟨1, .running, 2⟩, ⟨0, .stopped, 3⟩] :=
  (converges_iff (by decide) ⟨by simp, by simp⟩ (by decide) (by decide)).mpr (by decide)

/-- A running VM is stopped and started again. The event of the start is handled
first and ignored, for the cache still says running, and the older stop wins. -/
theorem not_converges_of_restart :
    ¬ ∀ (info : VmInfo Nat) (store : StatusStore Nat) (events : List (StatusEvent Nat Nat)),
      regular store.status = true → Cached store → (events.map StatusEvent.when).Nodup →
      (∀ e ∈ events, ∀ t ∈ store.status_change, t < e.when) → info.Converges store events := by
  intro hclaim
  have hstatus := (hclaim ⟨0, false, false⟩ ⟨.RUNNING, some 0, some .RUNNING, some 0⟩
    [⟨0, .stopped, 1⟩, ⟨0, .running, 2⟩] (by decide) ⟨by simp, by simp⟩ (by decide) (by decide)
    ⟨0, .running, 2⟩ (by simp) (by decide) [⟨0, .running, 2⟩, ⟨0, .stopped, 1⟩]
    (List.Perm.swap _ _ _)).1
  exact absurd hstatus (by decide)

end api.vm.status
