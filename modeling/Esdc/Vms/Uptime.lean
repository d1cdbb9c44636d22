import Mathlib
import Esdc.Lib.Transition
import Esdc.Vms.Status

namespace vms.uptime_accounting

open transition
open models (Status)

/-- The columns of a VM that its uptime is computed from. -/
structure Vm where
  uuid : String
  status : Status
  uptime : ℤ
  uptime_changed : ℤ
  deriving DecidableEq

/-- The second result is the message for the log. -/
def Vm.update_uptime (vm : Vm) (now : ℤ) (state : Option Status) (force_init : Bool) : Vm × Option String :=
  let state := state.getD vm.status
  if state = .RUNNING ∨ force_init then
    if vm.uptime_changed = 0 ∨ vm.uptime = 0 then
      ({ vm with uptime := vm.uptime + 1, uptime_changed := now },
        some ("VM " ++ vm.uuid ++ " started for the first time - initializing uptime"))
    else (vm, none)
  else if state = .STOPPED ∨ state = .FROZEN then
    if vm.uptime_changed ≠ 0 ∧ vm.uptime ≠ 0 then
      ({ vm with uptime := vm.uptime + (now - vm.uptime_changed), uptime_changed := now },
        some ("VM " ++ vm.uuid ++ " stopped - updating uptime"))
    else (vm, none)
  else (vm, none)

def Vm.uptime_actual (vm : Vm) (now : ℤ) : ℤ :=
  if vm.status = .RUNNING ∧ vm.uptime_changed ≠ 0 then vm.uptime + (now - vm.uptime_changed) else vm.uptime

/-- A change that is saved, as far as the uptime is concerned. -/
def vm_status_changed (vm : Vm) (state : Status) (now : ℤ) : Vm :=
  let vm := { vm with status := state }
  if state ≠ .STOPPING then (vm.update_uptime now none false).1 else vm

/-- `save_status` writes nothing but the status. -/
def Vm.save_status (vm : Vm) (status : Status) : Vm := { vm with status }

/-- The update of one row; `online` is the status of the node. -/
def vm_uptime_all (vm : Vm) (online : Bool) (now : ℤ) : Vm :=
  if online ∧ vm.status = .RUNNING ∧ 0 < vm.uptime_changed then
    { vm with uptime_changed := now, uptime := vm.uptime + (now - vm.uptime_changed) }
  else vm

inductive Event
  | changed (state : Status) (now : ℤ)
  | saved (state : Status) (now : ℤ)
  | beat (online : Bool) (now : ℤ)

def Event.now : Event → ℤ
  | .changed _ now | .saved _ now | .beat _ now => now

/-- What happened to the VM, apart from its columns: the seconds in which it was running, the number
of changes, the time of its first start and the last time at which its uptime was recorded, which
is at its first start, when it is stopped or frozen, and at a beat while it is running. -/
structure Timeline where
  status : Status
  clock : ℤ
  running : ℤ
  transitions : ℕ
  started : Option ℤ
  recorded : ℤ
  deriving DecidableEq

/-- The seconds of the status `RUNNING` until a later time. -/
def Timeline.running_until (timeline : Timeline) (now : ℤ) : ℤ :=
  if timeline.status = .RUNNING then timeline.running + (now - timeline.clock) else timeline.running

def Timeline.next (timeline : Timeline) : Event → Timeline
  | .changed state now =>
    { status := state
      clock := now
      running := timeline.running_until now
      transitions := timeline.transitions + 1
      started := timeline.started.or (if state = .RUNNING then some now else none)
      recorded :=
        if state = .STOPPED ∨ state = .FROZEN ∨ timeline.started = none then now else timeline.recorded }
  | .saved state now =>
    { timeline with
      status := state
      clock := now
      running := timeline.running_until now
      transitions := timeline.transitions + 1 }
  | .beat online now =>
    { timeline with
      clock := now
      running := timeline.running_until now
      recorded := if online ∧ timeline.status = .RUNNING then now else timeline.recorded }

structure State where
  vm : Vm
  timeline : Timeline
  deriving DecidableEq

/-- A VM that was never started. -/
def State.new (uuid : String) (status : Status) : State where
  vm := ⟨uuid, status, 0, 0⟩
  timeline := ⟨status, 0, 0, 0, none, 0⟩

def State.next (s : State) : Event → State
  | .changed state now => ⟨vm_status_changed s.vm state now, s.timeline.next (.changed state now)⟩
  | .saved state now => ⟨s.vm.save_status state, s.timeline.next (.saved state now)⟩
  | .beat online now => ⟨vm_uptime_all s.vm online now, s.timeline.next (.beat online now)⟩

/-- The time is in seconds of the epoch and does not go back; a change changes the status. -/
def Event.Enabled (s : State) : Event → Prop
  | .changed state now | .saved state now => s.timeline.clock ≤ now ∧ 0 < now ∧ state ≠ s.vm.status
  | .beat _ now => s.timeline.clock ≤ now ∧ 0 < now

instance (s : State) (e : Event) : Decidable (e.Enabled s) := by
  cases e <;> unfold Event.Enabled <;> infer_instance

def step (s : State) (e : Event) : Option State := if e.Enabled s then some (s.next e) else none

/-- The uptime is the time in which the VM was running, up to a second for each change. -/
def Accounts (s : State) : Prop :=
  ∀ now, s.timeline.clock ≤ now → |s.vm.uptime_actual now - s.timeline.running_until now| ≤ s.timeline.transitions

/-- The seconds that are counted too much or too little: all that have passed since the first start
until the uptime was recorded, whether the VM was running or not, are counted. -/
def Timeline.Tolerated (timeline : Timeline) : Prop :=
  match timeline.started with
  | none => timeline.status ≠ .RUNNING ∧ timeline.running ≤ timeline.transitions
  | some first =>
    if timeline.status = .RUNNING then |1 + (timeline.clock - first) - timeline.running| ≤ timeline.transitions
    else |1 + (timeline.recorded - first) - timeline.running| ≤ timeline.transitions

/-- What the columns are: the uptime is one second more than the time from the first start until the
uptime was recorded. -/
structure Recorded (s : State) : Prop where
  status : s.vm.status = s.timeline.status
  clock : 0 ≤ s.timeline.clock
  running : 0 ≤ s.timeline.running
  new : s.timeline.started = none → s.vm.uptime = 0 ∧ s.vm.uptime_changed = 0
  old : ∀ first, s.timeline.started = some first → 0 < first ∧ first ≤ s.timeline.recorded ∧
    s.timeline.recorded ≤ s.timeline.clock ∧ s.vm.uptime_changed = s.timeline.recorded ∧
      s.vm.uptime = 1 + (s.timeline.recorded - first)

theorem recorded_new (uuid : String) {status : Status} : Recorded (.new uuid status) where
  status := rfl
  clock := le_refl _
  running := le_refl _
  new := fun _ => ⟨rfl, rfl⟩
  old := by
    intro first hstarted
    cases hstarted

theorem running_until_nonneg {timeline : Timeline} (hrunning : 0 ≤ timeline.running) {now : ℤ}
    (hnow : timeline.clock ≤ now) : 0 ≤ timeline.running_until now := by
  unfold Timeline.running_until
  split <;> omega

section update

variable {vm : Vm} {now : ℤ}

/-- The first start of a VM. -/
theorem vm_status_changed_new (huptime : vm.uptime = 0) (hchanged : vm.uptime_changed = 0) (state : Status) :
    vm_status_changed vm state now = if state = .RUNNING then ⟨vm.uuid, state, 1, now⟩ else ⟨vm.uuid, state, 0, 0⟩ := by
  cases state <;> simp [vm_status_changed, Vm.update_uptime, huptime, hchanged]

/-- A start of a VM that was started before leaves everything as it is. -/
theorem vm_status_changed_old (huptime : vm.uptime ≠ 0) (hchanged : vm.uptime_changed ≠ 0) (state : Status) :
    vm_status_changed vm state now =
      if state = .STOPPED ∨ state = .FROZEN then ⟨vm.uuid, state, vm.uptime + (now - vm.uptime_changed), now⟩
      else ⟨vm.uuid, state, vm.uptime, vm.uptime_changed⟩ := by
  cases state <;> simp [vm_status_changed, Vm.update_uptime, huptime, hchanged]

end update

theorem recorded_changed {s : State} (hrecorded : Recorded s) {state : Status} {now : ℤ} (hnow : s.timeline.clock ≤ now)
    (hpos : 0 < now) : Recorded (s.next (.changed state now)) := by
  have hrunning := running_until_nonneg hrecorded.running hnow
  cases hstarted : s.timeline.started with
  | none =>
    obtain ⟨huptime, hchanged⟩ := hrecorded.new hstarted
    have hvm : vm_status_changed s.vm state now = _ := vm_status_changed_new huptime hchanged state
    by_cases hstate : state = .RUNNING
    · rw [if_pos hstate] at hvm
      refine ⟨?_, by simp [State.next, Timeline.next, hpos.le], hrunning, ?_, ?_⟩
      · simp [State.next, Timeline.next, hvm]
      · simp [State.next, Timeline.next, hstarted, hstate]
      · intro first hfirst
        simp only [State.next, Timeline.next, hstarted, hstate, if_true, Option.none_or, Option.some.injEq] at hfirst
        subst hfirst
        simp [State.next, Timeline.next, hvm, hstarted, hpos]
    · rw [if_neg hstate] at hvm
      refine ⟨?_, by simp [State.next, Timeline.next, hpos.le], hrunning, ?_, ?_⟩
      · simp [State.next, Timeline.next, hvm]
      · simp [State.next, hvm]
      · intro first hfirst
        simp [State.next, Timeline.next, hstarted, hstate] at hfirst
  | some first =>
    obtain ⟨hfirst, hle, hclock, hchanged, huptime⟩ := hrecorded.old first hstarted
    have hvm : vm_status_changed s.vm state now = _ := vm_status_changed_old (by omega) (by omega) state
    refine ⟨?_, by simp [State.next, Timeline.next, hpos.le], hrunning, ?_, ?_⟩
    · simp only [State.next, Timeline.next, hvm]
      split <;> rfl
    · simp [State.next, Timeline.next, hstarted]
    · intro first' hfirst'
      simp only [State.next, Timeline.next, hstarted, Option.some_or, Option.some.injEq] at hfirst'
      subst hfirst'
      simp only [State.next, Timeline.next, hvm, hstarted, reduceCtorEq, or_false]
      by_cases hstate : state = .STOPPED ∨ state = .FROZEN
      · simp only [if_pos hstate]
        exact ⟨hfirst, by omega, le_rfl, trivial, by omega⟩
      · simp only [if_neg hstate]
        exact ⟨hfirst, hle, hclock.trans hnow, hchanged, huptime⟩

theorem recorded_saved {s : State} (hrecorded : Recorded s) {state : Status} {now : ℤ} (hnow : s.timeline.clock ≤ now) :
    Recorded (s.next (.saved state now)) := by
  refine ⟨rfl, hrecorded.clock.trans hnow, running_until_nonneg hrecorded.running hnow, hrecorded.new, ?_⟩
  intro first hfirst
  obtain ⟨hpos, hle, hclock, hchanged, huptime⟩ := hrecorded.old first hfirst
  exact ⟨hpos, hle, hclock.trans hnow, hchanged, huptime⟩

theorem recorded_beat {s : State} (hrecorded : Recorded s) {online : Bool} {now : ℤ} (hnow : s.timeline.clock ≤ now) :
    Recorded (s.next (.beat online now)) := by
  have hstatus : (vm_uptime_all s.vm online now).status = s.vm.status := by
    unfold vm_uptime_all
    split <;> rfl
  refine ⟨hstatus.trans hrecorded.status, hrecorded.clock.trans hnow, running_until_nonneg hrecorded.running hnow, ?_, ?_⟩
  · intro hstarted
    obtain ⟨huptime, hchanged⟩ := hrecorded.new hstarted
    simp [State.next, vm_uptime_all, huptime, hchanged]
  · intro first hfirst
    obtain ⟨hpos, hle, hclock, hchanged, huptime⟩ := hrecorded.old first hfirst
    simp only [State.next, Timeline.next, vm_uptime_all, hrecorded.status]
    by_cases hbeat : online ∧ s.timeline.status = .RUNNING
    · rw [if_pos hbeat, if_pos ⟨hbeat.1, hbeat.2, by omega⟩]
      exact ⟨hpos, by omega, le_rfl, rfl, by simp only; omega⟩
    · rw [if_neg hbeat, if_neg fun hall => hbeat ⟨hall.1, hall.2.1⟩]
      exact ⟨hpos, hle, hclock.trans hnow, hchanged, huptime⟩

theorem recorded_step {s u : State} {e : Event} (hrecorded : Recorded s) (hstep : step s e = some u) : Recorded u := by
  unfold step at hstep
  split at hstep
  · case isTrue henabled =>
    obtain rfl := Option.some.inj hstep
    cases e with
    | changed state now => exact recorded_changed hrecorded henabled.1 henabled.2.1
    | saved state now => exact recorded_saved hrecorded henabled.1
    | beat online now => exact recorded_beat hrecorded henabled.1
  · cases hstep

/-- How far the uptime is off, which does not change while nothing happens. -/
theorem accounts_iff {s : State} (hrecorded : Recorded s) : Accounts s ↔ s.timeline.Tolerated := by
  unfold Accounts Timeline.Tolerated Vm.uptime_actual Timeline.running_until
  rw [hrecorded.status]
  have hrunning := hrecorded.running
  cases hstarted : s.timeline.started with
  | none =>
    obtain ⟨huptime, hchanged⟩ := hrecorded.new hstarted
    simp only [huptime, hchanged, ne_eq, not_true_eq_false, and_false, if_false]
    by_cases hstatus : s.timeline.status = .RUNNING
    · simp only [hstatus, if_true, not_true_eq_false, false_and, iff_false, not_forall]
      refine ⟨s.timeline.clock + s.timeline.transitions + 1, by omega, ?_⟩
      rw [abs_le]
      omega
    · simp only [hstatus, if_false, not_false_eq_true, true_and]
      constructor
      · intro hall
        have hbound := hall _ le_rfl
        rw [abs_le] at hbound
        omega
      · intro hle now _
        rw [abs_le]
        omega
  | some first =>
    obtain ⟨hpos, hle, hclock, hchanged, huptime⟩ := hrecorded.old first hstarted
    have hne : s.vm.uptime_changed ≠ 0 := by omega
    by_cases hstatus : s.timeline.status = .RUNNING
    · simp only [hstatus, hne, ne_eq, not_false_eq_true, and_self, if_true]
      have hoff : ∀ now, s.vm.uptime + (now - s.vm.uptime_changed) - (s.timeline.running + (now - s.timeline.clock)) =
          1 + (s.timeline.clock - first) - s.timeline.running := by
        intro now
        omega
      simp only [hoff]
      exact ⟨fun hall => hall _ le_rfl, fun hbound _ _ => hbound⟩
    · simp only [hstatus, false_and, if_false]
      rw [huptime]
      exact ⟨fun hall => hall _ le_rfl, fun hbound _ _ => hbound⟩

/-- Whatever happens to a VM, its uptime is all the time that has passed since its first start until
the last record, so that it is right exactly when the VM was hardly ever not running in between. -/
theorem accounts_iff_tolerated (uuid : String) (status : Status) :
    ∀ es t, Run step anyStep (.new uuid status) es t → (Accounts t ↔ t.timeline.Tolerated) := by
  intro es t hrun
  have hrecorded : Recorded t :=
    hrun.invariant (fun _ _ _ hrecorded _ hstep => recorded_step hrecorded hstep) (recorded_new uuid)
  exact accounts_iff hrecorded

/-- A VM is started, runs through a beat and is stopped. -/
theorem accounts_first_stop : ∃ t, Run step anyStep (.new "" .STOPPED)
    [.changed .RUNNING 1000, .beat true 1030, .changed .STOPPED 1060] t ∧ Accounts t := by
  have hexec : (exec step anyStep (.new "" .STOPPED)
      [.changed .RUNNING 1000, .beat true 1030, .changed .STOPPED 1060]).any (fun t =>
        t.timeline = ⟨.STOPPED, 1060, 60, 2, some 1000, 1060⟩) = true := by decide +kernel
  obtain ⟨t, hrun, htest⟩ := Run.exists_of_exec hexec
  refine ⟨t, hrun, (accounts_iff_tolerated _ _ _ t hrun).mpr ?_⟩
  rw [of_decide_eq_true htest]
  norm_num [Timeline.Tolerated]

/-- A VM runs for ten seconds, is stopped for an hour and started again. -/
theorem not_accounts_restart : ¬ ∀ uuid status es t, status ≠ .RUNNING → Run step anyStep (.new uuid status) es t →
    Accounts t := by
  intro hclaim
  have hexec : (exec step anyStep (.new "" .STOPPED)
      [.changed .RUNNING 1000, .changed .STOPPED 1010, .changed .RUNNING 4610]).any (fun t =>
        t.timeline = ⟨.RUNNING, 4610, 10, 3, some 1000, 1010⟩) = true := by decide +kernel
  obtain ⟨t, hrun, htest⟩ := Run.exists_of_exec hexec
  have htolerated := (accounts_iff_tolerated _ _ _ t hrun).mp (hclaim _ _ _ t (by decide) hrun)
  rw [of_decide_eq_true htest] at htolerated
  norm_num [Timeline.Tolerated] at htolerated

end vms.uptime_accounting
