import Esdc.Api.Status.Stages
import Esdc.Api.Vm.DeployFinished

open vms.models transition

namespace api.vm.base.deploy_finished

open api.vm.status (VmInfo Write Report detect_change too_old _vm_status_check STATUS_DICT_regular regular)
open api.callbacks (contains startswith)

variable {H Node Time : Type}

/-- `is_deploying` -/
def deploying : Status → Bool
  | .CREATING | .DEPLOYING_DUMMY | .DEPLOYING_START | .DEPLOYING_FINISH => true
  | _ => false

/-- The handler may still find that a deployment is over. -/
def Pc.deploying : Pc → Bool
  | .check state_cache => state_cache.all deploy_finished.deploying
  | _ => false

/-- No flag is set, and no handler is about to set one. -/
def State.Consumed (s : State H Time) : Prop := s.flag = none ∧ ∀ h, (s.pc h).deploying = false

/-- A report is handled in the attempt that it belongs to. An attempt fails only if its end has
not been signalled, and it succeeds only once. -/
def Attempts.Ok (sys : Attempts H Node Time) (s : State H Time) : Event H Time → Prop
  | .handler h => s.pc h = .read → sys.deployment h = s.attempt
  | .callback returncode message parsed _ => succeeded returncode message parsed = false → s.Consumed
  | .execute_error _ | .timeout _ => s.Consumed
  | .has_deploy_finished => s.flag ≠ none → (∀ h, (s.pc h).deploying = false) ∧ deploying s.store.status = false
  | .post _ _ | .give_up _ => True

instance [Fintype H] [DecidableEq H] (s : State H Time) : Decidable s.Consumed :=
  inferInstanceAs (Decidable (_ ∧ ∀ h, (s.pc h).deploying = false))

instance [Fintype H] [DecidableEq H] (sys : Attempts H Node Time) : DecidableRel sys.Ok
  | s, .handler h => inferInstanceAs (Decidable (s.pc h = .read → sys.deployment h = s.attempt))
  | s, .callback returncode message parsed _ =>
    inferInstanceAs (Decidable (succeeded returncode message parsed = false → s.Consumed))
  | s, .execute_error _ => inferInstanceAs (Decidable s.Consumed)
  | s, .timeout _ => inferInstanceAs (Decidable s.Consumed)
  | s, .has_deploy_finished =>
    inferInstanceAs (Decidable (s.flag ≠ none →
      (∀ h, (s.pc h).deploying = false) ∧ deploying s.store.status = false))
  | _, .post _ _ => isTrue trivial
  | _, .give_up _ => isTrue trivial

section status

variable [DecidableEq Node] [LinearOrder Time] {info : VmInfo Node} {node_uuid : Node} {state : NodeState}
  {change_time : Option Time} {store : StatusStore Time} {c : Status} {write : Write}

omit [DecidableEq Node] in
/-- A write is that of the new state, or the next stage of a deployment. -/
theorem write_cases (hwrite : info.write (Vm.STATUS_DICT state)
    (detect_change c (Vm.STATUS_DICT state) false) = some write) :
    c ≠ Vm.STATUS_DICT state ∧ (write.deploy_over = true → deploying c = true) ∧
      if write.vm_status_changed then write.new_status = Vm.STATUS_DICT state
      else deploying c = true ∧ deploying write.new_status = true := by
  have hne : c ≠ Vm.STATUS_DICT state := by
    intro heq
    have hignored : detect_change c (Vm.STATUS_DICT state) false = .ignored := if_pos heq
    rw [hignored] at hwrite
    cases hwrite
  refine ⟨hne, ?_⟩
  have hcases := api.vm.status.detect_change_cases c (Vm.STATUS_DICT state)
  cases hchange : detect_change c (Vm.STATUS_DICT state) false with
  | ignored =>
    rw [hchange] at hwrite
    cases hwrite
  | deploy =>
    rw [hchange] at hwrite hcases
    obtain rfl := hcases
    simp only [VmInfo.write] at hwrite
    split_ifs at hwrite <;> obtain rfl := Option.some.inj hwrite <;> simp [deploying]
  | deploy_finish =>
    rw [hchange] at hwrite hcases
    obtain rfl := hcases
    obtain rfl := Option.some.inj hwrite
    simp [deploying]
  | deploy_over =>
    rw [hchange] at hwrite hcases
    obtain rfl := Option.some.inj hwrite
    rcases hcases with rfl | rfl <;> simp [deploying]
  | changed =>
    rw [hchange] at hwrite
    obtain rfl := Option.some.inj hwrite
    simp

theorem deploying_of_STATUS_DICT (state : NodeState) : deploying (Vm.STATUS_DICT state) = false := by
  cases state <;> rfl

/-- What `_vm_status_check` leaves as the status. -/
structure Checked (state_cache : Status) (store store' : StatusStore Time) : Prop where
  cached : store'.cached_status = some store'.status
  error : store.status ≠ .ERROR → store'.status ≠ .ERROR
  settled : deploying state_cache = false → deploying store.status = false → deploying store'.status = false

omit [LinearOrder Time] in
theorem Checked.refl (hcached : store.cached_status = some store.status) : Checked c store store :=
  ⟨hcached, id, fun _ h => h⟩

omit [LinearOrder Time] in
/-- An object whose status has changed, or was loaded as it is in the cache. -/
theorem save_cached {vm : Vm Time} {time : Option Time}
    (horig : vm.status ≠ vm._orig_status ∨ store.cached_status = some vm.status) :
    (vm.save time store).cached_status = some vm.status := by
  by_cases hchanged : vm.status ≠ vm._orig_status
  · rw [Vm.save_of_changed hchanged]
  · have hcached := horig.resolve_left hchanged
    rw [Vm.save, Vm.save_cached_status_change_cached_status]
    simpa [Vm.save_cached_status, Vm.touch, Vm.save_row, hchanged] using hcached

theorem checked_vm_status_check (hcached : store.cached_status = some store.status) (state_cache : Option Status) :
    Checked (state_cache.getD store.status) store
      (_vm_status_check info node_uuid (Vm.STATUS_DICT state) state_cache change_time false store) := by
  have hloaded : { store with cached_status := some (Vm.get store).status } = store := by
    rw [Vm.get, ← hcached]
  have hsome : ∀ c, Checked c store
      (_vm_status_check info node_uuid (Vm.STATUS_DICT state) (some c) change_time false store) := by
    intro c
    unfold _vm_status_check
    dsimp only
    split
    next => exact Checked.refl hcached
    next write hwrite =>
      obtain ⟨hne, _, hkind⟩ := write_cases hwrite
      split
      · exact Checked.refl hcached
      · by_cases hchanged : write.vm_status_changed = true
        · rw [if_pos hchanged] at hkind ⊢
          rw [hkind, api.vm.status.vm_status_changed]
          split
          · exact Checked.refl hcached
          · have hstatus := Vm.save_status
              { Vm.get store with status := Vm.STATUS_DICT state, _orig_status := c } change_time store
            refine ⟨?_, ?_, ?_⟩
            · rw [hstatus]
              exact save_cached (.inl hne.symm)
            · rw [hstatus]
              cases state <;> simp [Vm.STATUS_DICT]
            · rw [hstatus]
              intro _ _
              exact deploying_of_STATUS_DICT state
        · rw [if_neg hchanged] at hkind ⊢
          have hstatus := Vm.save_status { Vm.get store with status := write.new_status } change_time store
          refine ⟨?_, ?_, ?_⟩
          · rw [hstatus]
            apply save_cached
            by_cases hsame : write.new_status = store.status
            · exact .inr (by rw [hcached, hsame])
            · exact .inl hsame
          · rw [hstatus]
            intro _ (herror : write.new_status = .ERROR)
            rw [herror] at hkind
            cases hkind.2
          · intro hc
            rw [hkind.1] at hc
            cases hc
  cases state_cache with
  | some c => exact hsome c
  | none =>
    have heq : _vm_status_check info node_uuid (Vm.STATUS_DICT state) none change_time false store =
        _vm_status_check info node_uuid (Vm.STATUS_DICT state) (some store.status) change_time false store := by
      unfold _vm_status_check
      dsimp only
      rw [hloaded]
      rfl
    rw [heq]
    exact hsome store.status

end status

section runs

variable [DecidableEq Node] [LinearOrder Time] [DecidableEq H] {sys : Attempts H Node Time} {s s' : State H Time}

/-- Between two attempts no end of a deployment is signalled. -/
def State.Sound (s : State H Time) : Progress Time → Prop
  | .idle => s.Consumed ∧ deploying s.store.status = false
  | .executing vm old_status _ =>
    s.store.status ≠ .ERROR ∧ old_status ≠ vm._orig_status ∧ deploying old_status = false
  | .waiting vm => s.store.status ≠ .ERROR ∧ vm._orig_status ≠ .ERROR

/-- The evidence for the end of a deployment is its own. -/
structure Inv (sys : Attempts H Node Time) (s : State H Time) : Prop where
  cached : s.store.cached_status = some s.store.status
  flag : ∀ h, s.flag = some h → sys.deployment h = s.attempt
  pc : ∀ h, (s.pc h).deploying = true → sys.deployment h = s.attempt
  progress : s.Sound s.progress
  finished : ∀ entry ∈ s.finished, sys.deployment entry.2 = entry.1

omit [DecidableEq Node] [LinearOrder Time] in
theorem goto_deploying {h other : H} {pc : Pc} :
    ((s.goto h pc).pc other).deploying = if other = h then pc.deploying else (s.pc other).deploying := by
  unfold State.goto
  dsimp only
  by_cases heq : other = h
  · rw [heq, Function.update_self, if_pos rfl]
  · rw [Function.update_of_ne heq, if_neg heq]

omit [DecidableEq Node] [LinearOrder Time] [DecidableEq H] in
theorem Inv.idle (hinv : Inv sys s) (hconsumed : s.Consumed) {store : StatusStore Time}
    (hcached : store.cached_status = some store.status) (hstatus : deploying store.status = false) :
    Inv sys { s with store, progress := .idle } :=
  ⟨hcached, hinv.flag, hinv.pc, ⟨hconsumed, hstatus⟩, hinv.finished⟩

omit [LinearOrder Time] in
/-- Saving a status that the object does not believe to be saved. -/
theorem save_status_saved (vm : Vm Time) {status : Status} (status_change_time : Option Time)
    (store : StatusStore Time) (hne : status ≠ vm._orig_status) (hstatus : deploying status = false) :
    (save_status vm status status_change_time store).cached_status =
        some (save_status vm status status_change_time store).status ∧
      deploying (save_status vm status status_change_time store).status = false := by
  have hsaved : (save_status vm status status_change_time store).status = status := Vm.save_status _ _ _
  rw [hsaved]
  exact ⟨save_cached (.inl hne), hstatus⟩

omit [LinearOrder Time] in
theorem revert_state_settled (recreate : Bool) (message : String) :
    deploying (revert_state recreate message) = false ∧ revert_state recreate message ≠ .ERROR := by
  unfold revert_state
  split
  · split
    · exact ⟨rfl, by decide⟩
    · exact ⟨rfl, by decide⟩
  · exact ⟨rfl, by decide⟩

omit [LinearOrder Time] in
theorem failed_saved {recreate : Bool} {message : String} {now : Time} {store : StatusStore Time}
    (hcached : store.cached_status = some store.status) (herror : store.status ≠ .ERROR) :
    (failed (Vm.get store) recreate message now store).cached_status =
        some (failed (Vm.get store) recreate message now store).status ∧
      deploying (failed (Vm.get store) recreate message now store).status = false := by
  obtain ⟨hstate, hstate_error⟩ := revert_state_settled recreate message
  unfold failed
  dsimp only
  split
  next hne =>
    split
    · exact save_status_saved _ _ _ hstate_error.symm rfl
    · exact save_status_saved _ _ _ (Ne.symm hne) hstate
  next heq =>
    have hstatus : store.status = revert_state recreate message := not_not.mp heq
    split
    · exact save_status_saved _ _ _ herror.symm rfl
    · rw [hstatus] at hcached ⊢
      exact ⟨hcached, hstate⟩

omit [DecidableEq Node] [LinearOrder Time] [DecidableEq H] in
theorem vm_create_cb_inv (hinv : Inv sys s) (herror : s.store.status ≠ .ERROR) {recreate : Bool}
    {returncode : Int} {message : String} {parsed : Bool} {now : Time}
    (hok : succeeded returncode message parsed = false → s.Consumed) :
    Inv sys (vm_create_cb s recreate returncode message parsed now) := by
  unfold vm_create_cb
  dsimp only
  by_cases hcreated : (returncode = 0 && contains message "Successfully created") = true
  · rw [if_pos hcreated]
    cases parsed with
    | false =>
      rw [if_neg Bool.false_ne_true]
      obtain ⟨hcached, hstatus⟩ := save_status_saved (Vm.get s.store) (some now) s.store herror.symm rfl
      exact hinv.idle (hok (by simp [succeeded])) hcached hstatus
    | true =>
      rw [if_pos rfl, Vm.save_get]
      by_cases hstarted : contains message "Successfully started" = true
      · rw [if_pos hstarted]
        exact ⟨hinv.cached, hinv.flag, hinv.pc, ⟨herror, herror⟩, hinv.finished⟩
      · rw [if_neg hstarted]
        obtain ⟨hcached, hstatus⟩ :=
          save_status_saved ((Vm.get s.store).saved (some now)) (some now) s.store herror.symm rfl
        exact hinv.idle (hok (by simp [succeeded, hstarted])) hcached hstatus
  · rw [if_neg hcreated]
    obtain ⟨hcached, hstatus⟩ := failed_saved hinv.cached herror
    refine hinv.idle (hok ?_) hcached hstatus
    rw [Bool.not_eq_true] at hcreated
    simp [succeeded, hcreated]

omit [DecidableEq H] in
theorem deploying_of_set_deploy_finished {h : H} {state_cache : Option Status}
    (hset : sys.set_deploy_finished s h state_cache = true) : (Pc.check state_cache).deploying = true := by
  unfold Attempts.set_deploy_finished at hset
  dsimp only at hset
  split at hset
  next => cases hset
  next write hwrite =>
    have hover : write.deploy_over = true := by
      rw [Bool.and_eq_true, Bool.and_eq_true] at hset
      exact hset.1.1
    have hdeploying := (write_cases hwrite).2.1 hover
    cases state_cache with
    | none => rfl
    | some c => exact hdeploying

theorem handler_step_inv (hinv : Inv sys s) {h : H} (hok : s.pc h = .read → sys.deployment h = s.attempt)
    (hstep : sys.handler_step s h = some s') : Inv sys s' := by
  unfold Attempts.handler_step at hstep
  cases hpc : s.pc h with
  | done =>
    rw [hpc] at hstep
    cases hstep
  | read =>
    rw [hpc] at hstep
    dsimp only at hstep
    by_cases hreported : sys.deployment h ≤ s.attempt
    · rw [if_pos hreported] at hstep
      cases hstep
      refine ⟨hinv.cached, hinv.flag, ?_, ?_, hinv.finished⟩
      · intro other hdeploying
        rw [goto_deploying] at hdeploying
        split at hdeploying
        next heq =>
          rw [heq]
          exact hok hpc
        next => exact hinv.pc other hdeploying
      · have hsound := hinv.progress
        change State.Sound (s.goto h _) s.progress
        cases hprogress : s.progress with
        | idle =>
          rw [hprogress] at hsound
          obtain ⟨⟨hflag, hpcs⟩, hstatus⟩ := hsound
          refine ⟨⟨hflag, fun other => ?_⟩, hstatus⟩
          rw [goto_deploying]
          split
          · rw [hinv.cached]
            exact hstatus
          · exact hpcs other
        | executing =>
          rw [hprogress] at hsound
          exact hsound
        | waiting =>
          rw [hprogress] at hsound
          exact hsound
    · rw [if_neg hreported] at hstep
      cases hstep
  | check state_cache =>
    rw [hpc] at hstep
    cases hstep
    have hchecked : Checked (state_cache.getD s.store.status) s.store
        (_vm_status_check (sys.info s.attempt) (sys.report h).node_uuid (Vm.STATUS_DICT (sys.report h).state)
          state_cache (sys.report h).change_time false s.store) := checked_vm_status_check hinv.cached state_cache
    refine ⟨hchecked.cached, ?_, ?_, ?_, hinv.finished⟩
    · intro other (hflag : (if sys.set_deploy_finished s h state_cache = true then some h else s.flag) = some other)
      split at hflag
      next hset =>
        cases hflag
        apply hinv.pc h
        rw [hpc]
        exact deploying_of_set_deploy_finished hset
      next => exact hinv.flag other hflag
    · intro other hdeploying
      change ((s.goto h .done).pc other).deploying = true at hdeploying
      rw [goto_deploying] at hdeploying
      split at hdeploying
      next => cases hdeploying
      next => exact hinv.pc other hdeploying
    · have hsound := hinv.progress
      change State.Sound _ s.progress
      cases hprogress : s.progress with
      | idle =>
        rw [hprogress] at hsound
        obtain ⟨⟨hflag, hpcs⟩, hstatus⟩ := hsound
        have hstate_cache := hpcs h
        rw [hpc] at hstate_cache
        have hset : sys.set_deploy_finished s h state_cache = false := by
          by_contra hset
          rw [deploying_of_set_deploy_finished (Bool.not_eq_false _ ▸ hset)] at hstate_cache
          cases hstate_cache
        refine ⟨⟨?_, fun other => ?_⟩, ?_⟩
        · change (if sys.set_deploy_finished s h state_cache = true then some h else s.flag) = none
          rw [hset, if_neg Bool.false_ne_true]
          exact hflag
        · change ((s.goto h .done).pc other).deploying = false
          rw [goto_deploying]
          split
          · rfl
          · exact hpcs other
        · cases state_cache with
          | none => cases hstate_cache
          | some c => exact hchecked.settled hstate_cache hstatus
      | executing =>
        rw [hprogress] at hsound
        exact ⟨hchecked.error hsound.1, hsound.2⟩
      | waiting =>
        rw [hprogress] at hsound
        exact ⟨hchecked.error hsound.1, hsound.2⟩

theorem step_inv (hinv : Inv sys s) {e : Event H Time} (hok : sys.Ok s e) (hstep : sys.step s e = some s') :
    Inv sys s' := by
  have hsound := hinv.progress
  cases e with
  | post recreate now =>
    simp only [Attempts.step] at hstep
    by_cases hready : s.progress = .idle ∧ (Vm.get s.store).status = if recreate = true then .STOPPED else .NOTCREATED
    · rw [if_pos hready] at hstep
      rw [hready.1] at hsound
      obtain ⟨⟨hflag, hpcs⟩, hsettled⟩ := hsound
      cases hstep
      have hcreating : s.store.status ≠ .CREATING := by
        intro heq
        rw [heq] at hsettled
        cases hsettled
      refine ⟨?_, ?_, ?_, ?_, hinv.finished⟩
      · rw [Vm.save_status]
        exact save_cached (.inl (Ne.symm hcreating))
      · intro h hsome
        change s.flag = some h at hsome
        rw [hflag] at hsome
        cases hsome
      · intro h hdeploying
        change (s.pc h).deploying = true at hdeploying
        rw [hpcs h] at hdeploying
        cases hdeploying
      · refine ⟨?_, hcreating, hsettled⟩
        rw [Vm.save_status]
        intro (heq : Status.CREATING = .ERROR)
        cases heq
    · rw [if_neg hready] at hstep
      cases hstep
  | execute_error now =>
    simp only [Attempts.step] at hstep
    split at hstep
    next vm old_status recreate hprogress =>
      cases hstep
      rw [hprogress] at hsound
      obtain ⟨hcached, hstatus⟩ := save_status_saved vm (some now) s.store hsound.2.1 hsound.2.2
      exact hinv.idle hok hcached hstatus
    next => cases hstep
  | handler h => exact handler_step_inv hinv hok hstep
  | give_up h =>
    simp only [Attempts.step] at hstep
    split at hstep
    · cases hstep
    · cases hstep
      have hdone : ∀ other, ((s.goto h .done).pc other).deploying = true → (s.pc other).deploying = true := by
        intro other hdeploying
        rw [goto_deploying] at hdeploying
        split at hdeploying
        · cases hdeploying
        · exact hdeploying
      refine ⟨hinv.cached, hinv.flag, fun other hother => hinv.pc other (hdone other hother), ?_, hinv.finished⟩
      change State.Sound _ s.progress
      cases hprogress : s.progress with
      | idle =>
        rw [hprogress] at hsound
        obtain ⟨⟨hflag, hpcs⟩, hstatus⟩ := hsound
        refine ⟨⟨hflag, fun other => ?_⟩, hstatus⟩
        by_contra hdeploying
        have := hdone other (Bool.eq_true_of_not_eq_false hdeploying)
        rw [hpcs other] at this
        cases this
      | executing =>
        rw [hprogress] at hsound
        exact hsound
      | waiting =>
        rw [hprogress] at hsound
        exact hsound
  | callback returncode message parsed now =>
    simp only [Attempts.step] at hstep
    split at hstep
    next vm old_status recreate hprogress =>
      cases hstep
      rw [hprogress] at hsound
      exact vm_create_cb_inv hinv hsound.1 hok
    next => cases hstep
  | has_deploy_finished =>
    simp only [Attempts.step] at hstep
    split at hstep
    next vm h hprogress hflag =>
      cases hstep
      obtain ⟨hpcs, hstatus⟩ := hok (by rw [hflag]; exact Option.some_ne_none h)
      refine ⟨hinv.cached, ?_, hinv.pc, ⟨⟨rfl, hpcs⟩, hstatus⟩, ?_⟩
      · intro other hother
        cases hother
      · intro entry hentry
        rcases List.mem_cons.mp hentry with rfl | hentry
        · exact hinv.flag h hflag
        · exact hinv.finished entry hentry
    next =>
      cases hstep
      exact hinv
    next => cases hstep
  | timeout now =>
    simp only [Attempts.step] at hstep
    split at hstep
    next vm hprogress =>
      cases hstep
      rw [hprogress] at hsound
      obtain ⟨hcached, hstatus⟩ := save_status_saved vm (some now) s.store hsound.2.symm rfl
      exact hinv.idle hok hcached hstatus
    next => cases hstep

/-- As long as every report is handled in its own attempt, every attempt that fails does so
before the end of its deployment is signalled, and every attempt that succeeds leaves no handler
behind, a deployment is treated as finished only because of one of its own reports. -/
theorem finished_by_own_report {store : StatusStore Time} (hcached : store.cached_status = some store.status)
    (hstatus : deploying store.status = false) {events : List (Event H Time)} {s : State H Time}
    (hrun : Run sys.step sys.Ok (.init store) events s) :
    ∀ attempt h, (attempt, h) ∈ s.finished → sys.deployment h = attempt := by
  have hinit : Inv sys (.init store) := by
    refine ⟨hcached, ?_, ?_, ⟨⟨rfl, fun _ => rfl⟩, hstatus⟩, ?_⟩
    · intro h hflag
      cases hflag
    · intro h hdeploying
      cases hdeploying
    · intro entry hentry
      cases hentry
  have hinv : Inv sys s := hrun.invariant (fun _ _ _ hinv hok hstep => step_inv hinv hok hstep) hinit
  intro attempt h hentry
  exact hinv.finished (attempt, h) hentry

end runs

section example_run

def created : String := "Successfully created VM a\nSuccessfully started VM a"

/-- A VM that is deployed once it is running; of the first attempt come the reports that it is
running and, later, that it is stopped. -/
def first_attempt : Attempts Bool Nat Nat where
  info _ := ⟨0, false, false⟩
  report stopped := if stopped then ⟨0, .stopped, none⟩ else ⟨0, .running, none⟩
  deployment _ := 1

def notcreated : StatusStore Nat := ⟨.NOTCREATED, none, some .NOTCREATED, none⟩

theorem finished_by_own_report_of_create :
    ∃ s, Run first_attempt.step first_attempt.Ok (.init notcreated)
        [.post false 1, .handler false, .callback 0 created true 3, .handler false, .has_deploy_finished] s ∧
      (1, false) ∈ s.finished ∧ first_attempt.deployment false = 1 := by
  have hexec : (exec first_attempt.step first_attempt.Ok (.init notcreated)
      [.post false 1, .handler false, .callback 0 created true 3, .handler false, .has_deploy_finished]).any
        (fun s => (1, false) ∈ s.finished) = true := by decide +kernel
  obtain ⟨s, hrun, hfinished⟩ := Run.exists_of_exec hexec
  exact ⟨s, hrun, of_decide_eq_true hfinished,
    finished_by_own_report rfl rfl hrun 1 false (of_decide_eq_true hfinished)⟩

/-- The output of the first attempt cannot be loaded, after the VM has been found running. The
second attempt finds the flag of the first. -/
theorem not_finished_by_own_report :
    ∃ s, Run first_attempt.step anyStep (.init notcreated)
        [.post false 1, .handler false, .handler false, .callback 0 created false 3, .handler true, .handler true,
          .post true 5, .callback 0 created true 6, .has_deploy_finished] s ∧
      (2, false) ∈ s.finished ∧ first_attempt.deployment false = 1 := by
  have hexec : (exec first_attempt.step anyStep (.init notcreated)
      [.post false 1, .handler false, .handler false, .callback 0 created false 3, .handler true, .handler true,
        .post true 5, .callback 0 created true 6, .has_deploy_finished]).any (fun s =>
          (2, false) ∈ s.finished) = true := by decide +kernel
  obtain ⟨s, hrun, hfinished⟩ := Run.exists_of_exec hexec
  exact ⟨s, hrun, of_decide_eq_true hfinished, rfl⟩

end example_run

end api.vm.base.deploy_finished
