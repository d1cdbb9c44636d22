import Esdc.Api.Status.Stages

open vms.models expiring_store que.lock transition Relation

namespace api.vm.status

variable {H Node Time : Type} {sys : Handlers H Node Time} {s s' : DeployState H Time}

/-- So far the status has only moved forward, and `vm_deploy` was started at
most once for each stage. -/
structure DeployState.Ordered (s : DeployState H Time) (info : VmInfo Node) : Prop where
  moves : ∀ m ∈ s.moves, m.1 = m.2 ∨ info.forward m.1 m.2 = true
  deploys : s.deploys.Nodup

/-- A handler that comes to write a deploy stage finds the status that it read
before it waited for the lock, unless it repeats DEPLOYING_START. -/
def Pc.Fresh (status : Status) : Pc Time → Prop
  | .save_row state_cache write _ =>
    stage write.new_status = true → status = state_cache ∨
      (write.new_status = .DEPLOYING_START ∧ status = .DEPLOYING_START)
  | _ => True

instance (status : Status) : DecidablePred (Pc.Fresh status : Pc Time → Prop) := fun pc =>
  match pc with
  | .save_row _ _ _ => inferInstanceAs (Decidable (_ → _ ∨ _))
  | .read | .acquire _ | .check _ | .cache_set _ | .get_vm _ _ | .vm_status_changed _ _ _
  | .save_cached_status _ _ | .save_cached_status_change _ _ | .vm_deploy _ _ | .release
  | .done => isTrue trivial

def DeployState.Fresh (s : DeployState H Time) : DeployEvent H → Prop
  | .handler h => (s.pc h).Fresh s.store.status
  | _ => True

instance (s : DeployState H Time) : DecidablePred s.Fresh := fun e =>
  match e with
  | .handler _ => inferInstanceAs (Decidable (Pc.Fresh _ _))
  | .time _ | .give_up _ | .error _ | .kill _ => isTrue trivial

/-- The statuses that a handler holds have been the status of the VM. -/
def Pc.Held (info : VmInfo Node) (status : Status) : Pc Time → Prop
  | .acquire state_cache | .check state_cache => ∀ c ∈ state_cache, info.reaches c status
  | .cache_set vm => info.reaches vm.status status
  | .get_vm state_cache write => info.reaches state_cache status ∧ info.Chosen state_cache write
  | .vm_status_changed state_cache write vm | .save_row state_cache write vm =>
    info.reaches state_cache status ∧ info.Chosen state_cache write ∧ vm.status = write.new_status
  | .save_cached_status _ vm | .save_cached_status_change _ vm => info.reaches vm.status status
  | .vm_deploy write _ => write.vm_deploy.isSome = true
  | _ => True

/-- The stage that a handler has written and is going to run `vm_deploy` for. -/
def Pc.pending : Pc Time → Option Status
  | .save_cached_status write _ | .save_cached_status_change write _ | .vm_deploy write _ =>
    if write.vm_deploy.isSome then some write.new_status else none
  | _ => none

theorem Pc.Held.mono {info : VmInfo Node} {old new : Status} {pc : Pc Time}
    (hheld : pc.Held info old) (hreaches : info.reaches old new) : pc.Held info new := by
  cases pc with
  | acquire state_cache | check state_cache => exact fun c hc => (hheld c hc).trans hreaches
  | cache_set vm => exact ReflTransGen.trans hheld hreaches
  | get_vm state_cache write => exact ⟨hheld.1.trans hreaches, hheld.2⟩
  | vm_status_changed state_cache write vm | save_row state_cache write vm =>
    exact ⟨hheld.1.trans hreaches, hheld.2⟩
  | save_cached_status write vm | save_cached_status_change write vm =>
    exact ReflTransGen.trans hheld hreaches
  | vm_deploy write force_stop => exact hheld
  | _ => trivial

/-- What holds in every state of a deployment whose handlers are fresh. -/
structure DeployState.Deploying (s : DeployState H Time) (info : VmInfo Node) : Prop where
  ordered : s.Ordered info
  entered : ∀ m ∈ s.moves, info.reaches m.2 s.store.status
  cached : ∀ c ∈ s.store.cached_status, info.reaches c s.store.status
  held : ∀ h, (s.pc h).Held info s.store.status
  pending : ∀ h status, (s.pc h).pending = some status →
    (∃ m ∈ s.moves, m.2 = status) ∧ status ∉ s.deploys ∧
      ∀ other, (s.pc other).pending = some status → other = h
  deployed : ∀ status ∈ s.deploys, ∃ m ∈ s.moves, m.2 = status

theorem DeployState.Deploying.init {info : VmInfo Node} {store : StatusStore Time}
    (hcreating : store.status = .CREATING) (hcached : ∀ c ∈ store.cached_status, c = .CREATING) :
    (DeployState.init store : DeployState H Time).Deploying info where
  ordered := ⟨fun _ hm => absurd hm List.not_mem_nil, .nil⟩
  entered _ hm := absurd hm List.not_mem_nil
  cached c hc := by
    change info.reaches c store.status
    rw [hcached c hc, hcreating]
    exact .refl
  held _ := trivial
  pending _ _ hpending := by cases hpending
  deployed _ hstatus := absurd hstatus List.not_mem_nil

/-- A write of a stage that `vm_deploy` is started for is the first one. -/
theorem DeployState.Deploying.not_entered {info : VmInfo Node} (hinv : s.Deploying info)
    {state_cache : Status} {write : Write} (hchosen : info.Chosen state_cache write)
    (hdeploy : write.vm_deploy.isSome = true) (hstatus : s.store.status = state_cache) :
    ¬ ∃ m ∈ s.moves, m.2 = write.new_status := by
  rintro ⟨m, hm, hm2⟩
  refine not_reaches_back (hchosen.vm_deploy hdeploy) (hstatus ▸ hchosen.forward) ?_
  exact hm2 ▸ hinv.entered m hm

/-- A fresh write moves the status forward or repeats it. -/
theorem DeployState.Deploying.fresh_move {info : VmInfo Node} {state_cache : Status} {write : Write}
    (hchosen : info.Chosen state_cache write) (hreaches : info.reaches state_cache s.store.status)
    (hfresh : stage write.new_status = true → s.store.status = state_cache ∨
      (write.new_status = .DEPLOYING_START ∧ s.store.status = .DEPLOYING_START)) :
    s.store.status = write.new_status ∨ info.forward s.store.status write.new_status = true := by
  rcases stage_or_regular hchosen.forward with hstage | hregular
  · rcases hfresh hstage with hsame | ⟨hnew, hold⟩
    · exact .inr (hsame ▸ hchosen.forward)
    · exact .inl (hold.trans hnew.symm)
  · right
    rcases reaches_last hchosen.forward hregular hreaches with hsame | hold
    · rw [hsame]
      exact hchosen.forward
    · cases hstatus : s.store.status <;> first | exact hregular | (rw [hstatus] at hold; cases hold)

theorem Handlers.loaded_held [DecidableEq Node] (sys : Handlers H Node Time) (h : H)
    {state_cache status : Status} {write : Write} (vm : Vm Time)
    (hreaches : sys.info.reaches state_cache status) (hchosen : sys.info.Chosen state_cache write) :
    (sys.loaded h state_cache write vm).Held sys.info status ∧
      (sys.loaded h state_cache write vm).pending = none := by
  unfold Handlers.loaded
  split
  · exact ⟨trivial, rfl⟩
  · split
    · exact ⟨⟨hreaches, hchosen, rfl⟩, rfl⟩
    · refine ⟨⟨hreaches, hchosen, ?_⟩, rfl⟩
      unfold Vm.touch
      split <;> rfl

theorem Handlers.checked_held [DecidableEq Node] (sys : Handlers H Node Time) (h : H)
    {state_cache status : Status} (vm : Option (Vm Time))
    (hreaches : sys.info.reaches state_cache status) :
    (sys.checked h state_cache vm).Held sys.info status ∧
      (sys.checked h state_cache vm).pending = none := by
  cases hwrite : sys.info.write (Vm.STATUS_DICT (sys.report h).state)
    (detect_change state_cache (Vm.STATUS_DICT (sys.report h).state) false) with
  | none =>
    simp only [Handlers.checked, hwrite]
    exact ⟨trivial, rfl⟩
  | some write =>
    have hchosen := chosen_of_write hwrite
    cases vm with
    | none =>
      simp only [Handlers.checked, hwrite]
      exact ⟨⟨hreaches, hchosen⟩, rfl⟩
    | some vm =>
      simp only [Handlers.checked, hwrite]
      exact sys.loaded_held h vm hreaches hchosen

variable [DecidableEq H]

/-- A step that leaves the database alone and moves one handler on. -/
theorem DeployState.Deploying.move {info : VmInfo Node} (hinv : s.Deploying info) {h : H} {pc : Pc Time}
    (hpc : s'.pc = Function.update s.pc h pc) (hstatus : s'.store.status = s.store.status)
    (hmoves : s'.moves = s.moves) (hdeploys : s'.deploys = s.deploys)
    (hcached : ∀ c ∈ s'.store.cached_status, info.reaches c s.store.status)
    (hheld : pc.Held info s.store.status)
    (hpending : pc.pending = none ∨ pc.pending = (s.pc h).pending) : s'.Deploying info := by
  have hpend : ∀ other, (s'.pc other).pending = none ∨
      (s'.pc other).pending = (s.pc other).pending := by
    intro other
    by_cases hself : other = h
    · rw [hself, hpc, Function.update_self]
      exact hpending
    · rw [hpc, Function.update_of_ne hself]
      exact .inr rfl
  have hbefore : ∀ other status, (s'.pc other).pending = some status →
      (s.pc other).pending = some status := by
    intro other status hsome
    rcases hpend other with hnone | heq
    · rw [hnone] at hsome
      cases hsome
    · rw [← heq, hsome]
  refine ⟨⟨hmoves ▸ hinv.ordered.moves, hdeploys ▸ hinv.ordered.deploys⟩, ?_, ?_, ?_, ?_, ?_⟩
  · rw [hmoves, hstatus]
    exact hinv.entered
  · rw [hstatus]
    exact hcached
  · intro other
    rw [hstatus, hpc]
    by_cases hself : other = h
    · rw [hself, Function.update_self]
      exact hheld
    · rw [Function.update_of_ne hself]
      exact hinv.held other
  · intro other status hsome
    obtain ⟨hmoved, hundeployed, hunique⟩ := hinv.pending other status (hbefore other status hsome)
    rw [hmoves, hdeploys]
    exact ⟨hmoved, hundeployed, fun third hthird => hunique third (hbefore third status hthird)⟩
  · rw [hmoves, hdeploys]
    exact hinv.deployed

private theorem pending_save_row {write : Write} {vm : Vm Time} {status : Status}
    (hpending : (Pc.save_cached_status write vm).pending = some status) :
    write.vm_deploy.isSome = true ∧ write.new_status = status := by
  simp only [Pc.pending] at hpending
  split_ifs at hpending with hdeploy
  exact ⟨hdeploy, Option.some.inj hpending⟩

theorem DeployState.Deploying.save_row {info : VmInfo Node} (hinv : s.Deploying info) {h : H}
    {state_cache : Status} {write : Write} {vm : Vm Time}
    (hpc : s.pc h = .save_row state_cache write vm) (hfresh : (s.pc h).Fresh s.store.status) :
    DeployState.Deploying { s.goto h (.save_cached_status write vm) with
      store := vm.save_row s.store, moves := s.moves ++ [(s.store.status, vm.status)] } info := by
  have hheld := hinv.held h
  rw [hpc] at hheld hfresh
  obtain ⟨hreaches, hchosen, hvm⟩ := hheld
  have hmove : s.store.status = vm.status ∨ info.forward s.store.status vm.status = true :=
    hvm ▸ DeployState.Deploying.fresh_move hchosen hreaches hfresh
  have hnext : info.reaches s.store.status vm.status := by
    rcases hmove with hsame | hforward
    · rw [hsame]
      exact .refl
    · exact .single hforward
  have hnew : write.vm_deploy.isSome = true → ¬ ∃ m ∈ s.moves, m.2 = write.new_status := by
    intro hdeploy
    have hstage := hchosen.vm_deploy hdeploy
    refine hinv.not_entered hchosen hdeploy ?_
    rcases hfresh (by rcases hstage with h | h <;> rw [h] <;> rfl) with hsame | ⟨hstart, -⟩
    · exact hsame
    · rw [hstart] at hstage
      rcases hstage with h | h <;> cases h
  refine ⟨⟨?_, hinv.ordered.deploys⟩, ?_, ?_, ?_, ?_, ?_⟩
  · intro m hm
    rcases List.mem_append.mp hm with hbefore | hnow
    · exact hinv.ordered.moves m hbefore
    · rw [List.mem_singleton.mp hnow]
      exact hmove
  · intro m hm
    rcases List.mem_append.mp hm with hbefore | hnow
    · exact (hinv.entered m hbefore).trans hnext
    · rw [List.mem_singleton.mp hnow]
      exact .refl
  · exact fun c hc => (hinv.cached c hc).trans hnext
  · intro other
    by_cases hself : other = h
    · rw [hself]
      change Pc.Held info vm.status (Function.update s.pc h _ h)
      rw [Function.update_self]
      exact .refl
    · change Pc.Held info vm.status (Function.update s.pc h _ other)
      rw [Function.update_of_ne hself]
      exact (hinv.held other).mono hnext
  · intro other status hsome
    change (Function.update s.pc h _ other).pending = some status at hsome
    change _ ∧ _ ∧ ∀ third, (Function.update s.pc h _ third).pending = some status → third = other
    by_cases hself : other = h
    · subst hself
      rw [Function.update_self] at hsome
      obtain ⟨hdeploy, rfl⟩ := pending_save_row hsome
      refine ⟨⟨_, List.mem_append_right _ (List.mem_singleton_self _), hvm⟩, fun hdeployed => ?_, ?_⟩
      · exact hnew hdeploy (hinv.deployed _ hdeployed)
      · intro third hthird
        by_contra hne
        rw [Function.update_of_ne hne] at hthird
        exact hnew hdeploy (hinv.pending third _ hthird).1
    · rw [Function.update_of_ne hself] at hsome
      obtain ⟨⟨m, hm, hm2⟩, hundeployed, hunique⟩ := hinv.pending other status hsome
      refine ⟨⟨m, List.mem_append_left _ hm, hm2⟩, hundeployed, ?_⟩
      intro third hthird
      by_cases hthird_self : third = h
      · rw [hthird_self, Function.update_self] at hthird
        obtain ⟨hdeploy, rfl⟩ := pending_save_row hthird
        exact absurd ⟨m, hm, hm2⟩ (hnew hdeploy)
      · rw [Function.update_of_ne hthird_self] at hthird
        exact hunique third hthird
  · intro status hstatus
    obtain ⟨m, hm, hm2⟩ := hinv.deployed status hstatus
    exact ⟨m, List.mem_append_left _ hm, hm2⟩

theorem DeployState.Deploying.vm_deploy {info : VmInfo Node} (hinv : s.Deploying info) {h : H}
    {write : Write} {force_stop : Bool} (hpc : s.pc h = .vm_deploy write force_stop) :
    DeployState.Deploying { s.goto h .release with deploys := s.deploys ++ [write.new_status] }
      info := by
  have hdeploy := hinv.held h
  rw [hpc] at hdeploy
  have hpending : (s.pc h).pending = some write.new_status := by
    rw [hpc]
    exact if_pos hdeploy
  obtain ⟨hmoved, hundeployed, hunique⟩ := hinv.pending h _ hpending
  have hmove : (s.goto h .release).Deploying info :=
    hinv.move rfl rfl rfl rfl hinv.cached trivial (.inl rfl)
  refine ⟨⟨hmove.ordered.moves, ?_⟩, hmove.entered, hmove.cached, hmove.held, ?_, ?_⟩
  · exact List.Nodup.append hinv.ordered.deploys (List.nodup_singleton _)
      (List.disjoint_singleton.mpr hundeployed)
  · intro other status hsome
    obtain ⟨hmoved', hundeployed', hunique'⟩ := hmove.pending other status hsome
    refine ⟨hmoved', fun hdeployed => ?_, hunique'⟩
    rcases List.mem_append.mp hdeployed with hbefore | hnow
    · exact hundeployed' hbefore
    · obtain rfl := List.mem_singleton.mp hnow
      have hself : other ≠ h := by
        rintro rfl
        change (Function.update s.pc other _ other).pending = _ at hsome
        rw [Function.update_self] at hsome
        cases hsome
      change (Function.update s.pc h _ other).pending = _ at hsome
      rw [Function.update_of_ne hself] at hsome
      exact hself (hunique other hsome)
  · intro status hstatus
    rcases List.mem_append.mp hstatus with hbefore | hnow
    · exact hinv.deployed status hbefore
    · obtain rfl := List.mem_singleton.mp hnow
      exact hmoved

variable [DecidableEq Node] [LinearOrder Time]

theorem DeployState.Deploying.handler_step (hinv : s.Deploying sys.info) {h : H}
    (hfresh : (s.pc h).Fresh s.store.status) (hstep : sys.handler_step s h = some s') :
    s'.Deploying sys.info := by
  have hheld := hinv.held h
  unfold Handlers.handler_step at hstep
  cases hpc : s.pc h with
  | read =>
    simp only [hpc, Option.some.injEq] at hstep
    subst hstep
    exact hinv.move rfl rfl rfl rfl hinv.cached hinv.cached (.inl rfl)
  | acquire state_cache =>
    simp only [hpc, Option.some.injEq] at hstep
    subst hstep
    rw [hpc] at hheld
    refine hinv.move rfl rfl rfl rfl hinv.cached ?_ ?_
    · split <;> exact hheld
    · split <;> exact .inl rfl
  | check state_cache =>
    rw [hpc] at hheld
    cases state_cache with
    | none =>
      simp only [hpc, Option.some.injEq] at hstep
      subst hstep
      exact hinv.move rfl rfl rfl rfl hinv.cached .refl (.inl rfl)
    | some state_cache =>
      simp only [hpc, Option.some.injEq] at hstep
      subst hstep
      have hnext := sys.checked_held h none (hheld state_cache rfl)
      exact hinv.move rfl rfl rfl rfl hinv.cached hnext.1 (.inl hnext.2)
  | cache_set vm =>
    simp only [hpc, Option.some.injEq] at hstep
    subst hstep
    rw [hpc] at hheld
    have hnext := sys.checked_held h (some vm) hheld
    refine hinv.move rfl rfl rfl rfl ?_ hnext.1 (.inl hnext.2)
    rintro c hc
    exact Option.some.inj hc ▸ hheld
  | get_vm state_cache write =>
    simp only [hpc, Option.some.injEq] at hstep
    subst hstep
    rw [hpc] at hheld
    have hnext := sys.loaded_held h (Vm.get s.store) hheld.1 hheld.2
    exact hinv.move rfl rfl rfl rfl hinv.cached hnext.1 (.inl hnext.2)
  | vm_status_changed state_cache write vm =>
    simp only [hpc, Option.some.injEq] at hstep
    subst hstep
    rw [hpc] at hheld
    refine hinv.move rfl rfl rfl rfl hinv.cached ?_ ?_
    · split
      · trivial
      · refine ⟨hheld.1, hheld.2.1, ?_⟩
        rw [Vm.touch_status]
        exact hheld.2.2
    · split <;> exact .inl rfl
  | save_row state_cache write vm =>
    simp only [hpc, Option.some.injEq] at hstep
    subst hstep
    exact hinv.save_row hpc hfresh
  | save_cached_status write vm =>
    simp only [hpc, Option.some.injEq] at hstep
    subst hstep
    rw [hpc] at hheld
    refine hinv.move rfl (Vm.save_cached_status_status vm s.store) rfl rfl ?_ hheld (.inr ?_)
    · intro c hc
      rcases Vm.cached_of_save_cached_status hc with rfl | hbefore
      · exact hheld
      · exact hinv.cached c hbefore
    · rw [hpc]
      rfl
  | save_cached_status_change write vm =>
    simp only [hpc, Option.some.injEq] at hstep
    subst hstep
    refine hinv.move rfl (Vm.save_cached_status_change_status vm s.store) rfl rfl ?_ ?_ ?_
    · rw [Vm.save_cached_status_change_cached_status]
      exact hinv.cached
    · cases hdeploy : write.vm_deploy with
      | none => trivial
      | some force_stop => exact Option.isSome_of_eq_some hdeploy
    · cases hdeploy : write.vm_deploy with
      | none => exact .inl rfl
      | some force_stop =>
        right
        rw [hpc]
        rfl
  | vm_deploy write force_stop =>
    simp only [hpc, Option.some.injEq] at hstep
    subst hstep
    exact hinv.vm_deploy hpc
  | release =>
    simp only [hpc, Option.some.injEq] at hstep
    subst hstep
    exact hinv.move rfl rfl rfl rfl hinv.cached trivial (.inl rfl)
  | done => simp [hpc] at hstep

theorem DeployState.Deploying.step (hinv : s.Deploying sys.info) {e : DeployEvent H}
    (hfresh : s.Fresh e) (hstep : sys.step s e = some s') : s'.Deploying sys.info := by
  cases e with
  | time delay =>
    obtain rfl := Option.some.inj hstep
    exact ⟨⟨hinv.ordered.moves, hinv.ordered.deploys⟩, hinv.entered, hinv.cached, hinv.held, hinv.pending, hinv.deployed⟩
  | handler h => exact hinv.handler_step hfresh hstep
  | give_up h =>
    simp only [Handlers.step] at hstep
    split at hstep
    · obtain rfl := Option.some.inj hstep
      exact hinv.move rfl rfl rfl rfl hinv.cached trivial (.inl rfl)
    · cases hstep
  | error h =>
    obtain rfl := Option.some.inj hstep
    refine hinv.move rfl rfl rfl rfl hinv.cached ?_ ?_
    · split <;> trivial
    · split <;> exact .inl rfl
  | kill h =>
    obtain rfl := Option.some.inj hstep
    exact hinv.move rfl rfl rfl rfl hinv.cached trivial (.inl rfl)

/-- During a deployment the status of the VM only moves forward and `vm_deploy`
is started at most once for each stage, provided every handler that came to
write a deploy stage found the status that it had read before the lock. -/
theorem deploys_in_order {store : StatusStore Time} (hcreating : store.status = .CREATING)
    (hcached : ∀ c ∈ store.cached_status, c = .CREATING) {schedule : List (DeployEvent H)}
    (hrun : Run sys.step DeployState.Fresh (.init store) schedule s) : s.Ordered sys.info := by
  have hpreserved : ∀ (s : DeployState H Time) (e : DeployEvent H) (u : DeployState H Time),
      s.Deploying sys.info → s.Fresh e → sys.step s e = some u → u.Deploying sys.info :=
    fun _ _ _ hinv hfresh hstep => hinv.step hfresh hstep
  exact (hrun.invariant hpreserved (.init hcreating hcached)).ordered

/-- Three reports about a VM whose image needs a deploy. -/
def image_deploy (state : Fin 3 → NodeState) : Handlers (Fin 3) Unit Nat where
  info := ⟨(), true, false⟩
  report h := ⟨(), state h, none⟩

def creating : StatusStore Nat := ⟨.CREATING, none, some .CREATING, none⟩

theorem deploys_in_order_of_image_deploy :
    ∃ s, Run (image_deploy ![.running, .stopped, .running]).step DeployState.Fresh (.init creating)
        (List.replicate 8 (.handler 0) ++ List.replicate 9 (.handler 1) ++
          List.replicate 9 (.handler 2)) s ∧
      s.moves.map Prod.snd = [.DEPLOYING_START, .DEPLOYING_FINISH, .RUNNING] ∧
      s.Ordered (image_deploy ![.running, .stopped, .running]).info := by
  have hexec : (exec (image_deploy ![.running, .stopped, .running]).step DeployState.Fresh
      (.init creating) (List.replicate 8 (.handler 0) ++ List.replicate 9 (.handler 1) ++
        List.replicate 9 (.handler 2))).any
          (fun s => s.moves.map Prod.snd = [.DEPLOYING_START, .DEPLOYING_FINISH, .RUNNING]) = true := by
    decide
  obtain ⟨s, hrun, hmoves⟩ := Run.exists_of_exec hexec
  exact ⟨s, hrun, of_decide_eq_true hmoves, deploys_in_order rfl (by decide) hrun⟩

/-- Handlers 0 and 1 both read CREATING. After handler 0 has started the deploy
and handler 2 has gone on to finish it, handler 1 gets the lock and sets the
status back to DEPLOYING_START. -/
theorem not_deploys_in_order :
    ¬ ∀ (sys : Handlers (Fin 3) Unit Nat) (store : StatusStore Nat), store.status = .CREATING →
      (∀ c ∈ store.cached_status, c = .CREATING) → ∀ schedule s,
        Run sys.step anyStep (.init store) schedule s → s.Ordered sys.info := by
  intro hclaim
  have hexec : (exec (image_deploy ![.running, .running, .stopped]).step anyStep
      (.init creating) ([.handler 0, .handler 1] ++ List.replicate 7 (.handler 0) ++
        List.replicate 9 (.handler 2) ++ List.replicate 4 (.handler 1))).any
          (fun s => (.DEPLOYING_FINISH, .DEPLOYING_START) ∈ s.moves) = true := by decide
  obtain ⟨s, hrun, hmoves⟩ := Run.exists_of_exec hexec
  have hmove := (hclaim _ creating rfl (by decide) _ s hrun).moves _ (of_decide_eq_true hmoves)
  exact absurd hmove (by decide)

end api.vm.status
