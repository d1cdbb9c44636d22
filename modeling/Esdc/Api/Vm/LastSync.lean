import Mathlib
import Esdc.Lib.Watched

namespace api.vm.replica.synced

open interleave
open transition

inductive SyncStatus
  | DIS
  | OFF
  | ON
  deriving DecidableEq

/-- The row of a `SlaveVm`. -/
structure SlaveVm where
  sync_status : SyncStatus
  last_sync : Option ℤ
  rep_sleep_time : Option ℤ
  rep_bwlimit : Option ℤ
  rep_reinit_required : Bool
  deriving DecidableEq

/-- What the callbacks look at in one output of `esrep`; `slave_json` tells whether it can be loaded. -/
structure Output where
  success : Bool
  slave_json : Bool
  timestamp : Option ℤ
  service_state : Option String
  sleep_time : Option ℤ
  bwlimit : Option ℤ
  deriving DecidableEq

/-- An output that cannot be parsed is the empty list. -/
structure Result where
  returncode : ℤ
  jsons : List Output

inductive Error
  | DoesNotExist
  | KeyError
  | IndexError
  | DatabaseError
  | TaskException
  deriving DecidableEq

/-- The statements of the callbacks on the row. -/
inductive Op
  | get_by_uuid
  | save (slave_vm : SlaveVm)
  | save_sync_status (sync_status : SyncStatus)
  | update_last_sync (timestamp : ℤ)
  | delete

/-- The row that was found, or whether one was written. -/
abbrev Op.Resp : Op → Type
  | .get_by_uuid => Option SlaveVm
  | .save _ | .save_sync_status _ | .update_last_sync _ | .delete => Bool

/-- A row that is gone is not inserted again, as its VM was deleted with it. -/
def exec : (o : Op) → Option SlaveVm → o.Resp × Option SlaveVm
  | .get_by_uuid, row => (row, row)
  | .save slave_vm, row => (row.isSome, row.map fun _ => slave_vm)
  | .save_sync_status sync_status, row => (row.isSome, row.map fun stored => { stored with sync_status })
  | .update_last_sync timestamp, row =>
    match row with
    | none => (false, none)
    | some stored =>
      if stored.last_sync.all (· < timestamp) then (true, some { stored with last_sync := some timestamp })
      else (false, some stored)
  | .delete, row => (row.isSome, none)

abbrev Prog (α : Type) := Program Op Op.Resp α

section callbacks

def REPLICA_SERVICE_STATES (service_state : String) : SyncStatus :=
  if service_state = "absent" then .DIS
  else if service_state = "online" then .ON
  else .OFF

/-- The last state of the service in the output. -/
def _save_svc_state (slave_vm : SlaveVm) (jsons : List Output) : SlaveVm × Option SyncStatus :=
  let service_state := jsons.foldl
    (fun service_state out => (out.service_state.map REPLICA_SERVICE_STATES).or service_state) none
  ({ slave_vm with sync_status := service_state.getD slave_vm.sync_status }, service_state)

def _save_svc_params (slave_vm : SlaveVm) (jsons : List Output) : SlaveVm :=
  match jsons.getLast? with
  | none => slave_vm
  | some last_json =>
    { slave_vm with
      rep_sleep_time := last_json.sleep_time.or slave_vm.rep_sleep_time
      rep_bwlimit := last_json.bwlimit.or slave_vm.rep_bwlimit }

def _parse_last_sync (response : Output) : Except Error ℤ :=
  match response.timestamp with
  | some timestamp => .ok timestamp
  | none => .error .KeyError

/-- `slave_vm.save()` -/
def SlaveVm.save (slave_vm : SlaveVm) : Prog (Except Error Unit) :=
  .op (.save slave_vm) fun saved => .done (if saved then .ok () else .error .DatabaseError)

inductive Action
  | POST
  | PUT
  | DELETE
  deriving DecidableEq

/-- `vm_replica_cb` after the part that is for a POST only. -/
def vm_replica_cb_save (slave_vm : SlaveVm) (action : Action) (result : Result) : Prog (Except Error Unit) :=
  let (slave_vm, sync_status) := _save_svc_state slave_vm result.jsons
  if result.returncode = 0 ∧ result.jsons ≠ [] then
    match action with
    | .POST | .PUT => (_save_svc_params slave_vm result.jsons).save
    | .DELETE => .op .delete fun _ => .done (.ok ())
  else
    match sync_status with
    | some sync_status =>
      .op (.save_sync_status sync_status) fun saved => .done (.error (if saved then .TaskException else .DatabaseError))
    | none => .done (.error .TaskException)

def vm_replica_cb (action : Action) (result : Result) : Prog (Except Error Unit) :=
  .op .get_by_uuid fun slave_vm =>
    match slave_vm with
    | none => .done (.error .DoesNotExist)
    | some slave_vm =>
      match action with
      | .PUT | .DELETE => vm_replica_cb_save slave_vm action result
      | .POST =>
        match result.jsons.head? with
        | some esrep_init =>
          if esrep_init.success then
            if esrep_init.slave_json then
              match _parse_last_sync esrep_init with
              | .ok timestamp => vm_replica_cb_save { slave_vm with last_sync := some timestamp } action result
              | .error error => .done (.error error)
            else .done (.error .KeyError)
          else .op .delete fun _ => vm_replica_cb_save slave_vm action result
        | none => .op .delete fun _ => vm_replica_cb_save slave_vm action result

def vm_replica_reinit_cb (result : Result) : Prog (Except Error Unit) :=
  .op .get_by_uuid fun slave_vm =>
    match slave_vm with
    | none => .done (.error .DoesNotExist)
    | some slave_vm =>
      match result.jsons with
      | [] => .done (.error (if result.returncode ≠ 0 then .TaskException else .IndexError))
      | json :: _ =>
        if result.returncode ≠ 0 then
          if json.success then
            match _parse_last_sync json with
            | .ok timestamp => do
              let saved ← SlaveVm.save { slave_vm with last_sync := some timestamp, rep_reinit_required := false }
              match saved with
              | .ok () => .done (.error .TaskException)
              | .error error => .done (.error error)
            | .error error => .done (.error error)
          else .done (.error .TaskException)
        else
          match _parse_last_sync json with
          | .ok timestamp =>
            let slave_vm := { slave_vm with rep_reinit_required := false, last_sync := some timestamp }
            let (slave_vm, _) := _save_svc_state slave_vm result.jsons
            (_save_svc_params slave_vm result.jsons).save
          | .error error => .done (.error error)

/-- The only one of the callbacks that compares the times, and it does so in its statement. -/
def vm_replica_sync_cb (result : Output) : Prog (Except Error Unit) :=
  match _parse_last_sync result with
  | .ok timestamp => .op (.update_last_sync timestamp) fun _ => .done (.ok ())
  | .error error => .done (.error error)

inductive Call
  | vm_replica_cb (action : Action) (result : Result)
  | vm_replica_reinit_cb (result : Result)
  | vm_replica_sync_cb (result : Output)

def Call.program : Call → Prog Unit
  | .vm_replica_cb action result => do let _ ← synced.vm_replica_cb action result
  | .vm_replica_reinit_cb result => do let _ ← synced.vm_replica_reinit_cb result
  | .vm_replica_sync_cb result => do let _ ← synced.vm_replica_sync_cb result

end callbacks

section monotone

/-- A time that is null is earlier than all others. -/
def Earlier (last_sync last_sync' : Option ℤ) : Prop :=
  ∀ time, last_sync = some time → ∃ time', last_sync' = some time' ∧ time ≤ time'

theorem Earlier.refl (last_sync : Option ℤ) : Earlier last_sync last_sync := fun time htime => ⟨time, htime, le_rfl⟩

theorem Earlier.trans {first second third : Option ℤ} (hfirst : Earlier first second) (hsecond : Earlier second third) :
    Earlier first third := by
  intro time htime
  obtain ⟨time', htime', hle⟩ := hfirst time htime
  obtain ⟨time'', htime'', hle'⟩ := hsecond time' htime'
  exact ⟨time'', htime'', hle.trans hle'⟩

/-- As long as the row is there, its time is not an earlier one. -/
def NotDecreased (row row' : Option SlaveVm) : Prop :=
  ∀ slave_vm slave_vm', row = some slave_vm → row' = some slave_vm' → Earlier slave_vm.last_sync slave_vm'.last_sync

theorem NotDecreased.refl (row : Option SlaveVm) : NotDecreased row row := by
  intro slave_vm slave_vm' hrow hrow'
  obtain rfl := Option.some.inj (hrow.symm.trans hrow')
  exact .refl _

/-- A whole row that is saved has no earlier time than the stored one. -/
def Op.Advances (row : Option SlaveVm) : Op → Prop
  | .save slave_vm => ∀ stored, row = some stored → Earlier stored.last_sync slave_vm.last_sync
  | _ => True

theorem exec_gone (o : Op) : (exec o none).2 = none := by
  cases o <;> rfl

/-- Of the statements, only a save of the whole row can set the time back. -/
theorem notDecreased_exec_iff (o : Op) (row : Option SlaveVm) : NotDecreased row (exec o row).2 ↔ o.Advances row := by
  cases row with
  | none =>
    refine iff_of_true (fun _ _ hrow => by cases hrow) ?_
    cases o with
    | save slave_vm => exact fun _ hrow => by cases hrow
    | _ => trivial
  | some stored =>
    cases o with
    | save slave_vm =>
      constructor
      · intro hnot stored' hstored
        exact hnot stored' slave_vm hstored rfl
      · intro hadvances slave_vm' slave_vm'' hrow hrow'
        cases hrow'
        exact hadvances slave_vm' hrow
    | update_last_sync timestamp =>
      refine iff_of_true ?_ trivial
      intro slave_vm slave_vm' hrow hrow'
      cases hrow
      simp only [exec] at hrow'
      split at hrow'
      · case isTrue hlt =>
        cases hrow'
        intro time htime
        rw [htime] at hlt
        exact ⟨timestamp, rfl, (of_decide_eq_true hlt).le⟩
      · cases hrow'
        exact .refl _
    | get_by_uuid | save_sync_status =>
      refine iff_of_true ?_ trivial
      intro slave_vm slave_vm' hrow hrow'
      cases hrow
      cases hrow'
      exact .refl _
    | delete => exact iff_of_true (fun _ _ _ hrow' => by cases hrow') trivial

end monotone

section times

/-- The time that a callback reports of a successful POST or of a reinitialisation. -/
def Call.reported : Call → Option (Option ℤ)
  | .vm_replica_cb .POST result => result.jsons.head?.bind fun esrep_init =>
    if esrep_init.success then some esrep_init.timestamp else none
  | .vm_replica_reinit_cb result => some (result.jsons.head?.bind Output.timestamp)
  | _ => none

/-- The callback of a process, and the time that it has loaded. -/
structure Loaded where
  call : Option Call
  last_sync : Option (Option ℤ)

/-- The reported time, or else the loaded one. -/
def Loaded.time (loaded : Loaded) : Option (Option ℤ) := (loaded.call.bind Call.reported).or loaded.last_sync

def learn : (o : Op) → o.Resp → Loaded → Loaded
  | .get_by_uuid, row, loaded => { loaded with last_sync := row.map SlaveVm.last_sync }
  | _, _, loaded => loaded

def Op.gets : Op → Bool
  | .get_by_uuid => true
  | _ => false

def watch : Watch Op Op.Resp Call Loaded where
  init := ⟨none, none⟩
  start := fun call => ⟨some call, none⟩
  learn
  looks := Op.gets

/-- What is saved as a whole has the time of the callback. -/
def Op.SavesTime (loaded : Loaded) : Op → Prop
  | .save slave_vm => loaded.time = some slave_vm.last_sync
  | _ => True

/-- The row is not loaded again, and what is saved as a whole has the given time. -/
def Op.Saves (last_sync : Option ℤ) : Op → Prop
  | .save slave_vm => slave_vm.last_sync = last_sync
  | .get_by_uuid => False
  | _ => True

theorem knows_of_saves {α : Type} {program : Prog α} {last_sync : Option ℤ} (hprogram : program.All (Op.Saves last_sync))
    {loaded : Loaded} (htime : loaded.time = some last_sync) : program.Knows learn Op.SavesTime loaded := by
  refine hprogram.knows (I := fun loaded => loaded.time = some last_sync) (fun o loaded ho htime => ?_)
    (fun o r loaded ho htime => ?_) htime
  · cases o with
    | save slave_vm => exact htime.trans (congrArg some (Eq.symm ho))
    | _ => trivial
  · cases o with
    | get_by_uuid => exact ho.elim
    | _ => exact htime

theorem _save_svc_params_last_sync (slave_vm : SlaveVm) (jsons : List Output) :
    (_save_svc_params slave_vm jsons).last_sync = slave_vm.last_sync := by
  unfold _save_svc_params
  split <;> rfl

/-- The time is not changed on the way to the save. -/
theorem vm_replica_cb_save_saves (slave_vm : SlaveVm) (action : Action) (result : Result) :
    (vm_replica_cb_save slave_vm action result).All (Op.Saves slave_vm.last_sync) := by
  unfold vm_replica_cb_save
  simp only
  split
  · cases action with
    | DELETE => exact ⟨trivial, fun _ => trivial⟩
    | POST | PUT => exact ⟨_save_svc_params_last_sync _ _, fun _ => trivial⟩
  · split
    · exact ⟨trivial, fun _ => trivial⟩
    · trivial

/-- A POST saves the time that it reports, a PUT the one that it has loaded. -/
theorem vm_replica_cb_saves_time (action : Action) (result : Result) :
    (vm_replica_cb action result).Knows learn Op.SavesTime ⟨some (.vm_replica_cb action result), none⟩ := by
  refine ⟨trivial, fun row => ?_⟩
  cases row with
  | none => trivial
  | some slave_vm =>
    cases action with
    | PUT | DELETE => exact knows_of_saves (vm_replica_cb_save_saves slave_vm _ result) rfl
    | POST =>
      dsimp only
      cases hhead : result.jsons.head? with
      | none =>
        refine ⟨trivial, fun _ => knows_of_saves (vm_replica_cb_save_saves slave_vm _ result) ?_⟩
        simp [learn, Loaded.time, Call.reported, hhead]
      | some esrep_init =>
        dsimp only
        split
        · rename_i hsuccess
          split
          · cases htimestamp : esrep_init.timestamp with
            | none =>
              rw [_parse_last_sync, htimestamp]
              trivial
            | some timestamp =>
              rw [_parse_last_sync, htimestamp]
              refine knows_of_saves (vm_replica_cb_save_saves _ _ result) ?_
              simp [learn, Loaded.time, Call.reported, hhead, hsuccess, htimestamp]
          · trivial
        · rename_i hsuccess
          refine ⟨trivial, fun _ => knows_of_saves (vm_replica_cb_save_saves slave_vm _ result) ?_⟩
          simp [learn, Loaded.time, Call.reported, hhead, hsuccess]

/-- A reinitialisation saves the time that it reports. -/
theorem vm_replica_reinit_cb_saves_time (result : Result) :
    (vm_replica_reinit_cb result).Knows learn Op.SavesTime ⟨some (.vm_replica_reinit_cb result), none⟩ := by
  refine ⟨trivial, fun row => ?_⟩
  cases row with
  | none => trivial
  | some slave_vm =>
    have htime : (learn .get_by_uuid (some slave_vm) ⟨some (.vm_replica_reinit_cb result), none⟩).time =
        some (result.jsons.head?.bind Output.timestamp) := rfl
    cases hjsons : result.jsons with
    | nil => trivial
    | cons json jsons =>
      rw [hjsons, List.head?_cons, Option.bind_some] at htime
      dsimp only
      cases htimestamp : json.timestamp with
      | none =>
        rw [_parse_last_sync, htimestamp]
        split_ifs <;> trivial
      | some timestamp =>
        rw [htimestamp] at htime
        rw [_parse_last_sync, htimestamp]
        dsimp only
        split_ifs
        · refine Program.Knows.bind ⟨htime, fun _ => trivial⟩ fun saved _ => ?_
          cases saved <;> trivial
        · trivial
        · refine ⟨?_, fun _ => trivial⟩
          rw [Op.SavesTime, _save_svc_params_last_sync]
          exact htime

theorem program_saves_time (call : Call) : call.program.Knows learn Op.SavesTime ⟨some call, none⟩ := by
  cases call with
  | vm_replica_cb action result => exact (vm_replica_cb_saves_time action result).bind fun _ _ => trivial
  | vm_replica_reinit_cb result => exact (vm_replica_reinit_cb_saves_time result).bind fun _ _ => trivial
  | vm_replica_sync_cb result =>
    refine Program.Knows.bind ?_ fun _ _ => trivial
    unfold vm_replica_sync_cb
    split
    · exact ⟨trivial, fun _ => trivial⟩
    · trivial

end times

section runs

variable {Pid : Type}

/-- No row of the list has a time later than the given one. -/
def NoneLater (rows : List (Option SlaveVm)) (last_sync : Option ℤ) : Prop :=
  ∀ stored, some stored ∈ rows → Earlier stored.last_sync last_sync

/-- When a callback saves the whole row, the time that it reports is not earlier than any that has
been stored, or, if it reports none, no later time has been stored since it has loaded the row. -/
def Keeps (w : Watched Pid Op Op.Resp (Option SlaveVm) Loaded) : Event Pid Call → Prop
  | .start _ _ => True
  | .run pid => ∀ slave_vm next, w.system.calls pid = some (.op (.save slave_vm) next) → w.system.store.isSome →
    match (w.known pid).call.bind Call.reported with
    | some reported => NoneLater w.past reported
    | none => ∀ loaded, (w.known pid).last_sync = some loaded → NoneLater (w.since pid) loaded

theorem Keeps.of_other {w : Watched Pid Op Op.Resp (Option SlaveVm) Loaded} {pid : Pid} {o : Op}
    {next : o.Resp → Prog Unit} (hcall : w.system.calls pid = some (.op o next))
    (ho : ∀ slave_vm, o ≠ .save slave_vm) : Keeps w (.run pid) := by
  intro slave_vm next' hcall'
  rw [hcall] at hcall'
  cases hcall'
  exact absurd rfl (ho slave_vm)

theorem Keeps.of_reported {w : Watched Pid Op Op.Resp (Option SlaveVm) Loaded} {pid : Pid} {reported : Option ℤ}
    (hreported : (w.known pid).call.bind Call.reported = some reported) (hnone : NoneLater w.past reported) :
    Keeps w (.run pid) := by
  intro _ _ _ _
  rw [hreported]
  exact hnone

theorem Keeps.of_loaded {w : Watched Pid Op Op.Resp (Option SlaveVm) Loaded} {pid : Pid} {loaded : Option ℤ}
    (hreported : (w.known pid).call.bind Call.reported = none) (hloaded : (w.known pid).last_sync = some loaded)
    (hnone : NoneLater (w.since pid) loaded) : Keeps w (.run pid) := by
  intro _ _ _ _
  rw [hreported]
  intro loaded' hloaded'
  rw [hloaded] at hloaded'
  cases hloaded'
  exact hnone

/-- The invariant of the runs. -/
structure Sound (row : Option SlaveVm) (w : Watched Pid Op Op.Resp (Option SlaveVm) Loaded) : Prop where
  followed : w.Followed
  informed : w.Informed watch Op.SavesTime
  first : row ∈ w.past
  notDecreased : ∀ earlier ∈ w.past, NotDecreased earlier w.system.store

theorem sound_idle (row : Option SlaveVm) : Sound row (watch.idle row : Watched Pid Op Op.Resp _ Loaded) where
  followed := Watched.followed_idle row
  informed := Watched.informed_idle _ row
  first := List.mem_singleton_self row
  notDecreased := by
    intro earlier hearlier
    obtain rfl := List.mem_singleton.mp hearlier
    exact .refl _

variable {row : Option SlaveVm} {w : Watched Pid Op Op.Resp (Option SlaveVm) Loaded}

/-- The stored time is the last of those that have been stored. -/
theorem Sound.noneLater_iff (hsound : Sound row w) {rows : List (Option SlaveVm)} (hrows : rows ⊆ w.past)
    {stored : SlaveVm} (hstore : w.system.store = some stored) (hmem : w.system.store ∈ rows) (last_sync : Option ℤ) :
    NoneLater rows last_sync ↔ Earlier stored.last_sync last_sync := by
  constructor
  · intro hnone
    rw [hstore] at hmem
    exact hnone stored hmem
  · intro hstored earlier hearlier
    exact (hsound.notDecreased _ (hrows hearlier) earlier stored rfl hstore).trans hstored

theorem Sound.advances_iff (hsound : Sound row w) {pid : Pid} {slave_vm : SlaveVm}
    {next : (Op.save slave_vm).Resp → Prog Unit} (hcall : w.system.calls pid = some (.op (.save slave_vm) next)) :
    (Op.save slave_vm).Advances w.system.store ↔ Keeps w (.run pid) := by
  have htime : (w.known pid).time = some slave_vm.last_sync := (hsound.informed pid _ hcall).1
  have hkeeps : Keeps w (.run pid) ↔ (w.system.store.isSome →
      match (w.known pid).call.bind Call.reported with
      | some reported => NoneLater w.past reported
      | none => ∀ loaded, (w.known pid).last_sync = some loaded → NoneLater (w.since pid) loaded) :=
    ⟨fun h => h slave_vm next hcall, fun h _ _ _ => h⟩
  rw [hkeeps]
  cases hstore : w.system.store with
  | none => exact iff_of_true (fun _ h => by cases h) fun h => by cases h
  | some stored =>
    have hadvances : (Op.save slave_vm).Advances (some stored) ↔ Earlier stored.last_sync slave_vm.last_sync := by
      constructor
      · exact fun h => h stored rfl
      · rintro h _ ⟨⟩
        exact h
    rw [hadvances]
    cases hreported : (w.known pid).call.bind Call.reported with
    | some reported =>
      rw [Loaded.time, hreported, Option.some_or, Option.some.injEq] at htime
      subst htime
      rw [← hsound.noneLater_iff (List.Subset.refl _) hstore hsound.followed.past]
      exact ⟨fun h _ => h, fun h => h rfl⟩
    | none =>
      rw [Loaded.time, hreported, Option.none_or] at htime
      obtain ⟨rest, hrest⟩ := hsound.followed.current pid
      have hmem : w.system.store ∈ w.since pid := by
        rw [hrest]
        exact List.mem_cons_self
      rw [← hsound.noneLater_iff (hsound.followed.since pid) hstore hmem]
      constructor
      · intro h _ loaded hloaded
        rw [htime] at hloaded
        cases hloaded
        exact h
      · exact fun h => h rfl _ htime

variable [DecidableEq Pid] {w' : Watched Pid Op Op.Resp (Option SlaveVm) Loaded} {e : Event Pid Call}

theorem Sound.notDecreased_step_iff (hsound : Sound row w) (hstep : watch.step exec Call.program w e = some w') :
    NotDecreased w.system.store w'.system.store ↔ Keeps w e := by
  rcases Watch.step_cases hstep with ⟨pid, call, rfl, -, rfl⟩ | ⟨pid, value, rfl, hcall, rfl⟩ |
    ⟨pid, o, next, rfl, hcall, rfl⟩
  · exact iff_of_true (.refl _) trivial
  · refine iff_of_true (.refl _) fun slave_vm next hnext => ?_
    rw [hcall] at hnext
    cases hnext
  · rw [notDecreased_exec_iff]
    cases o with
    | save slave_vm => exact hsound.advances_iff hcall
    | _ =>
      refine iff_of_true trivial fun slave_vm next hnext => ?_
      rw [hcall] at hnext
      cases hnext

omit [DecidableEq Pid] in
theorem NotDecreased.trans {earlier row row' : Option SlaveVm} (hrow : NotDecreased earlier row)
    (hrow' : NotDecreased row row') (hgone : row = none → row' = none) : NotDecreased earlier row' := by
  intro first last hfirst hlast
  cases row with
  | none =>
    rw [hgone rfl] at hlast
    cases hlast
  | some middle => exact (hrow first middle hfirst rfl).trans (hrow' middle last rfl hlast)

theorem Sound.step (hsound : Sound row w) (hkeeps : Keeps w e) (hstep : watch.step exec Call.program w e = some w') :
    Sound row w' := by
  have hnot := (hsound.notDecreased_step_iff hstep).mpr hkeeps
  have hfollowed := hsound.followed.step hstep
  have hinformed := hsound.informed.step program_saves_time hstep
  rcases Watch.step_cases hstep with ⟨pid, call, -, -, rfl⟩ | ⟨pid, value, -, -, rfl⟩ | ⟨pid, o, next, -, hcall, rfl⟩
  · exact ⟨hfollowed, hinformed, hsound.first, hsound.notDecreased⟩
  · exact ⟨hfollowed, hinformed, hsound.first, hsound.notDecreased⟩
  · refine ⟨hfollowed, hinformed, List.mem_cons_of_mem _ hsound.first, fun earlier hearlier => ?_⟩
    rcases List.mem_cons.mp hearlier with rfl | hearlier
    · exact .refl _
    · refine (hsound.notDecreased earlier hearlier).trans hnot fun hgone => ?_
      rw [hgone]
      exact exec_gone o

/-- However the callbacks interleave, the time is never set back as long as every save of a whole row
meets the condition, and the first one that does not sets it back. -/
theorem last_sync_notDecreased {es : List (Event Pid Call)} {t : Watched Pid Op Op.Resp (Option SlaveVm) Loaded}
    (hrun : Run (watch.step exec Call.program) Keeps (watch.idle row) es t) :
    NotDecreased row t.system.store ∧ (∀ earlier ∈ t.past, NotDecreased earlier t.system.store) ∧
      ∀ e u, step exec Call.program t.system e = some u → (NotDecreased t.system.store u.store ↔ Keeps t e) := by
  have hsound : Sound row t := hrun.invariant (fun _ _ _ hsound => hsound.step) (sound_idle row)
  refine ⟨hsound.notDecreased row hsound.first, hsound.notDecreased, fun e u hstep => ?_⟩
  obtain ⟨t', hwatched, rfl⟩ := Watch.exists_step hstep
  exact hsound.notDecreased_step_iff hwatched

end runs

section examples

/-- A replica that was last synchronised at 10. -/
def slave : SlaveVm := ⟨.ON, some 10, none, none, false⟩

/-- The output of a PUT that has started the service. -/
def service_online : Result := ⟨0, [⟨true, false, none, some "online", none, none⟩]⟩

def synced_at (timestamp : ℤ) : Output := ⟨true, false, some timestamp, none, none, none⟩

/-- The output of a reinitialisation. -/
def reinitialised_at (timestamp : ℤ) : Result := ⟨0, [⟨true, false, some timestamp, none, none, none⟩]⟩

theorem noneLater_of_all {rows : List (Option SlaveVm)} {last_sync : ℤ}
    (hall : rows.all (fun row => row.all fun stored => stored.last_sync.all (· ≤ last_sync)) = true) :
    NoneLater rows (some last_sync) := by
  intro stored hstored time htime
  have hle := List.all_eq_true.mp hall _ hstored
  rw [Option.all_some, htime] at hle
  exact ⟨last_sync, rfl, of_decide_eq_true hle⟩

/-- A reinitialisation loads the row, a synchronisation at 20 is recorded, the reinitialisation
reports 30, and then there is a PUT. -/
def reinit_sync_put : List (Event ℕ Call) :=
  [.start 0 (.vm_replica_reinit_cb (reinitialised_at 30)), .run 0, .start 1 (.vm_replica_sync_cb (synced_at 20)),
    .run 1, .run 0, .start 2 (.vm_replica_cb .PUT service_online), .run 2, .run 2]

theorem last_sync_kept : ∃ t : Watched ℕ Op Op.Resp (Option SlaveVm) Loaded,
    Run (watch.step exec Call.program) Keeps (watch.idle (some slave)) reinit_sync_put t ∧
      t.system.store = some { slave with last_sync := some 30 } ∧ NotDecreased (some slave) t.system.store := by
  have hrun : ∃ t : Watched ℕ Op Op.Resp (Option SlaveVm) Loaded,
      Run (watch.step exec Call.program) Keeps (watch.idle (some slave)) reinit_sync_put t ∧
        t.system.store = some { slave with last_sync := some 30 } :=
    ⟨_, .cons trivial rfl (.cons (.of_other rfl nofun) rfl
      (.cons trivial rfl (.cons (.of_other rfl nofun) rfl
      (.cons (.of_reported rfl (noneLater_of_all rfl)) rfl
      (.cons trivial rfl (.cons (.of_other rfl nofun) rfl
      (.cons (.of_loaded rfl rfl (noneLater_of_all rfl)) rfl (.nil _)))))))), rfl⟩
  obtain ⟨t, hrun, hstore⟩ := hrun
  exact ⟨t, hrun, hstore, (last_sync_notDecreased hrun).1⟩

/-- A PUT has loaded the row when a synchronisation is recorded, and saves it afterwards. -/
theorem last_sync_lost : ¬ ∀ (t u : System ℕ Op Op.Resp (Option SlaveVm)) es es',
    Run (step exec Call.program) anyStep (idle (some slave)) es t → Run (step exec Call.program) anyStep t es' u →
      NotDecreased t.store u.store := by
  intro hclaim
  have hruns : ∃ t u : System ℕ Op Op.Resp (Option SlaveVm), Run (step exec Call.program) anyStep (idle (some slave))
      [.start 0 (.vm_replica_cb .PUT service_online), .run 0, .start 1 (.vm_replica_sync_cb (synced_at 20)), .run 1] t ∧
        Run (step exec Call.program) anyStep t [.run 0] u ∧
          t.store = some { slave with last_sync := some 20 } ∧ u.store = some slave :=
    ⟨_, _, .cons trivial rfl (.cons trivial rfl (.cons trivial rfl (.cons trivial rfl (.nil _)))),
      .cons trivial rfl (.nil _), rfl, rfl⟩
  obtain ⟨t, u, hrun, hrun', ht, hu⟩ := hruns
  obtain ⟨time, htime, hle⟩ := hclaim t u _ _ hrun hrun' _ _ ht hu 20 rfl
  cases htime
  norm_num at hle

end examples

end api.vm.replica.synced
