import Esdc.Api.Callback.Retry

namespace api.callbacks

open que.mgmt
open Procedure (Point Raises Exposed)
open vms.definition (Json)

variable {Node Time α β : Type}

/-- Whether the database is the same without a part of the log entry; the entry is
lost without its user, and without the owner of the VM it has the one of the task ID. -/
def LogPart.safe (same_owner : Bool) : LogPart → Prop
  | .user | .entry => False
  | .owner => same_owner = true
  | .super_admins => True

/-- The failures after which the database and the outcome are those without one:
those that a second execution makes up for, and those that the log can do without. -/
def Statement.safe (s : State Node Time) (retried : Statement → Prop) : Statement → Prop
  | .log _ part => part.safe s.same_owner
  | kind => retried kind

def Statement.logs : Statement → Bool
  | .log _ _ => true
  | _ => false

theorem Statement.safe_iff {s : State Node Time} {retried : Statement → Prop} {kind : Statement}
    (hkind : kind.logs = false) : kind.safe s retried ↔ retried kind := by
  cases kind with
  | log kind part => cases hkind
  | _ => exact Iff.rfl

theorem Statement.safe_congr {s : State Node Time} {retried retried' : Statement → Prop}
    (hretried : ∀ kind, retried kind ↔ retried' kind) {kind : Statement} :
    kind.safe s retried ↔ kind.safe s retried' := by
  cases kind with
  | log kind part => exact Iff.rfl
  | _ => exact hretried _

/-- What `task_log` leaves when a part of it has failed. -/
def State.logged_without (s : State Node Time) (entry : LogEntry Time) : LogPart → State Node Time
  | .user | .entry => s
  | .owner => s.task_log (s.owned entry)
  | .super_admins => s.set_db fun db => db.log entry

/-- A failure in `task_log`, after which the procedure goes on. -/
def LogPoint (kind : LogKind) (entry : LogEntry Time) (k : Unit → Callback Node Time β) (s : State Node Time)
    (point : Point (State Node Time) Statement (Raised Failure) β) : Prop :=
  ∃ part, point.kind = .log kind part ∧
    point.failed.run point.state = (k ()).run (s.logged_without entry part)

@[simp] theorem run_log_owner (kind : LogKind) (entry : LogEntry Time) (s : State Node Time) :
    (log_owner kind entry).run s = (.ok entry, s) := by
  cases kind <;> rfl

@[simp] theorem run_log (kind : LogKind) (entry : LogEntry Time) (s : State Node Time) :
    (log kind entry).run s = (.ok (), s.task_log entry) := by
  cases hsuper_admins : s.super_admins <;>
    simp [log, Procedure.run_bind, State.task_log, State.set_db, hsuper_admins]

@[simp] theorem run_task_log (kind : LogKind) (entry : LogEntry Time) (s : State Node Time) :
    (task_log kind entry).run s = (.ok (), s.task_log entry) := by
  simp [task_log, Procedure.run_handle, Procedure.run_bind]

theorem points_log {kind : LogKind} {entry : LogEntry Time} {s : State Node Time}
    {point : Point (State Node Time) Statement (Raised Failure) Unit} (hpoint : point ∈ (log kind entry).points s) :
    ∃ part, (part = .entry ∨ part = .super_admins) ∧ point.kind = .log kind part ∧
      point.failed = .throw .operational ∧ point.state = s.logged_without entry part := by
  rw [log, mem_points_write, mem_points_get] at hpoint
  rcases hpoint with rfl | hpoint
  · exact ⟨.entry, .inl rfl, rfl, rfl, rfl⟩
  · split at hpoint
    · cases hpoint
    · rw [mem_points_select] at hpoint
      rcases hpoint with rfl | hpoint
      · exact ⟨.super_admins, .inr rfl, rfl, rfl, rfl⟩
      · cases hpoint

theorem points_log_owner {kind : LogKind} {entry : LogEntry Time} {s : State Node Time}
    {point : Point (State Node Time) Statement (Raised Failure) (LogEntry Time)}
    (hpoint : point ∈ (log_owner kind entry).points s) :
    point.kind = .log kind .owner ∧ point.failed.run point.state = (.ok (s.owned entry), s) := by
  unfold log_owner at hpoint
  split at hpoint
  · cases hpoint
  · rw [Procedure.mem_points_handle] at hpoint
    rcases hpoint with ⟨first, hfirst, rfl⟩ | ⟨_, _, _, hpoint⟩
    · rw [mem_points_select] at hfirst
      rcases hfirst with rfl | hfirst
      · exact ⟨rfl, rfl⟩
      · cases hfirst
    · cases hpoint

theorem points_task_log {kind : LogKind} {entry : LogEntry Time} {s : State Node Time}
    {point : Point (State Node Time) Statement (Raised Failure) Unit}
    (hpoint : point ∈ (task_log kind entry).points s) :
    ∃ part, point.kind = .log kind part ∧
      point.failed.run point.state = (.ok (), s.logged_without entry part) := by
  rw [task_log, Procedure.mem_points_handle] at hpoint
  rcases hpoint with ⟨first, hfirst, rfl⟩ | ⟨_, _, hrun, _⟩
  · rw [mem_points_select] at hfirst
    rcases hfirst with rfl | hfirst
    · exact ⟨.user, rfl, rfl⟩
    · rw [Procedure.mem_points_bind] at hfirst
      rcases hfirst with ⟨owner, howner, rfl⟩ | ⟨_, _, howner, hfirst⟩
      · obtain ⟨hkind, hfailed⟩ := points_log_owner howner
        refine ⟨.owner, hkind, ?_⟩
        rw [Procedure.run_handle, Procedure.run_bind, hfailed]
        simp [State.logged_without]
      · rw [run_log_owner] at howner
        cases howner
        obtain ⟨part, -, hkind, hfailed, hstate⟩ := points_log hfirst
        refine ⟨part, hkind, ?_⟩
        dsimp only
        rw [hfailed, hstate]
        rfl
  · simp [Procedure.run_bind] at hrun

theorem mem_points_task_log {kind : LogKind} {entry : LogEntry Time} {k : Unit → Callback Node Time β}
    {s : State Node Time} {point : Point (State Node Time) Statement (Raised Failure) β}
    (hpoint : point ∈ (task_log kind entry >>= k).points s) :
    LogPoint kind entry k s point ∨ point ∈ (k ()).points (s.task_log entry) := by
  rw [Procedure.mem_points_bind] at hpoint
  rcases hpoint with ⟨first, hfirst, rfl⟩ | ⟨_, _, hrun, hpoint⟩
  · obtain ⟨part, hkind, hfailed⟩ := points_task_log hfirst
    refine .inl ⟨part, hkind, ?_⟩
    rw [Procedure.run_bind, hfailed]
  · rw [run_task_log] at hrun
    cases hrun
    exact .inr hpoint

section blind

/-- Without the log. -/
def Db.log_free (db : Db Node Time) : Db Node Time := { db with task_log := [] }

/-- The states differ in the log only, and in what is cached for it. -/
structure Like (s s' : State Node Time) : Prop where
  db : s.db.log_free = s'.db.log_free
  result : s.result = s'.result

theorem Like.refl (s : State Node Time) : Like s s := ⟨rfl, rfl⟩

theorem Like.vm {s s' : State Node Time} (hlike : Like s s') : s.db.vm = s'.db.vm :=
  (congrArg Db.vm hlike.db : s.db.log_free.vm = s'.db.log_free.vm)

theorem Like.db_iff {s s' : State Node Time} (hlike : Like s s') :
    s.db = s'.db ↔ s.db.task_log = s'.db.task_log := by
  refine ⟨fun hdb => by rw [hdb], fun hlog => ?_⟩
  have hdb := hlike.db
  obtain ⟨⟨⟩, _, _, _⟩ := s
  obtain ⟨⟨⟩, _, _, _⟩ := s'
  simp only [Db.log_free, Db.mk.injEq] at hdb hlog ⊢
  simp only [hdb, hlog, and_self]

/-- The procedure does not read the log, and adds the same entries to any. -/
structure Blind (p : Callback Node Time α) : Prop where
  run : ∀ s s', Like s s' → (p.run s).1 = (p.run s').1 ∧ Like (p.run s).2 (p.run s').2 ∧
    ∃ entries, (p.run s).2.db.task_log = s.db.task_log ++ entries ∧
      (p.run s').2.db.task_log = s'.db.task_log ++ entries
  ne_operational : ∀ s, (p.run s).1 ≠ .error .operational

/-- Two runs that start alike end with the same outcome and the same entries. -/
theorem Blind.runs {p : Callback Node Time α} (hp : Blind p) {s s' : State Node Time} (hlike : Like s s') :
    ∃ outcome t t' entries, p.run s = (outcome, t) ∧ p.run s' = (outcome, t') ∧ Like t t' ∧
      t.db.task_log = s.db.task_log ++ entries ∧ t'.db.task_log = s'.db.task_log ++ entries := by
  obtain ⟨houtcome, hlike, entries, hlog, hlog'⟩ := hp.run s s' hlike
  exact ⟨(p.run s).1, (p.run s).2, (p.run s').2, entries, rfl, Prod.ext houtcome.symm rfl, hlike, hlog, hlog'⟩

theorem Blind.pure (a : α) : Blind (pure a : Callback Node Time α) :=
  ⟨fun _ _ hlike => ⟨rfl, hlike, [], by simp, by simp⟩, fun _ h => by cases h⟩

theorem Blind.bind {p : Callback Node Time α} {k : α → Callback Node Time β} (hp : Blind p)
    (hk : ∀ a, Blind (k a)) : Blind (p >>= k) := by
  constructor
  · intro s s' hlike
    obtain ⟨outcome, t, t', entries, hrun, hrun', hlike, hlog, hlog'⟩ := hp.runs hlike
    cases outcome with
    | error e =>
      rw [Procedure.run_bind_of_error hrun, Procedure.run_bind_of_error hrun']
      exact ⟨rfl, hlike, entries, hlog, hlog'⟩
    | ok a =>
      rw [Procedure.run_bind_of_ok hrun, Procedure.run_bind_of_ok hrun']
      obtain ⟨houtcome, hlike, more, hmore, hmore'⟩ := (hk a).run t t' hlike
      refine ⟨houtcome, hlike, entries ++ more, ?_, ?_⟩
      · rw [hmore, hlog, List.append_assoc]
      · rw [hmore', hlog', List.append_assoc]
  · intro s h
    rcases hrun : p.run s with ⟨e | a, t⟩
    · rw [Procedure.run_bind_of_error hrun] at h
      exact hp.ne_operational s (by rw [hrun, Except.error.inj h])
    · rw [Procedure.run_bind_of_ok hrun] at h
      exact (hk a).ne_operational t h

theorem Blind.handle {p : Callback Node Time α} {h : Raised Failure → Callback Node Time α} (hp : Blind p)
    (hh : ∀ e, Blind (h e)) : Blind (p.handle h) := by
  constructor
  · intro s s' hlike
    obtain ⟨outcome, t, t', entries, hrun, hrun', hlike, hlog, hlog'⟩ := hp.runs hlike
    rw [Procedure.run_handle, Procedure.run_handle, hrun, hrun']
    cases outcome with
    | ok a => exact ⟨rfl, hlike, entries, hlog, hlog'⟩
    | error e =>
      obtain ⟨houtcome, hlike, more, hmore, hmore'⟩ := (hh e).run t t' hlike
      refine ⟨houtcome, hlike, entries ++ more, ?_, ?_⟩
      · rw [hmore, hlog, List.append_assoc]
      · rw [hmore', hlog', List.append_assoc]
  · intro s heq
    rw [Procedure.run_handle] at heq
    rcases hrun : p.run s with ⟨e | a, t⟩
    · rw [hrun] at heq
      exact (hh e).ne_operational t heq
    · rw [hrun] at heq
      cases heq

theorem blind_raise (e : Failure) : Blind (raise e : Callback Node Time α) :=
  ⟨fun _ _ hlike => ⟨rfl, hlike, [], by simp, by simp⟩, fun _ h => by cases h⟩

theorem blind_get {k : State Node Time → Callback Node Time β} (hread : ∀ s s', Like s s' → k s = k s')
    (hk : ∀ s, Blind (k s)) : Blind (get >>= k) := by
  constructor
  · intro s s' hlike
    have hrun : (get >>= k).run s' = (k s).run s' := congrArg (fun p => p.run s') (hread s s' hlike).symm
    rw [hrun]
    exact (hk s).run s s' hlike
  · exact fun s => (hk s).ne_operational s

theorem blind_modify {effect : State Node Time → State Node Time}
    (heffect : ∀ s s', Like s s' → Like (effect s) (effect s'))
    (hlog : ∀ s, (effect s).db.task_log = s.db.task_log) : Blind (modify effect : Callback Node Time Unit) :=
  ⟨fun s s' hlike => ⟨rfl, heffect s s' hlike, [], by simp [hlog], by simp [hlog]⟩, fun _ h => by cases h⟩

theorem blind_select {kind : Statement} {f : Db Node Time → α} (hf : ∀ db, f db = f db.log_free) :
    Blind (select kind f) := by
  refine ⟨fun s s' hlike => ⟨?_, hlike, [], by simp, by simp⟩, fun _ h => by cases h⟩
  rw [run_select, run_select, hf, hlike.db, ← hf]

theorem blind_write {kind : Statement} {effect : Db Node Time → Db Node Time}
    (heffect : ∀ db, (effect db).log_free = effect db.log_free)
    (hlog : ∀ db, (effect db).task_log = db.task_log) : Blind (write kind effect) := by
  refine ⟨fun s s' hlike => ⟨rfl, ⟨?_, hlike.result⟩, [], by simp [hlog], by simp [hlog]⟩, fun _ h => by cases h⟩
  rw [run_write, run_write, State.set_db_db, State.set_db_db, heffect, hlike.db, ← heffect]

theorem blind_task_log (kind : LogKind) (entry : LogEntry Time) :
    Blind (task_log kind entry : Callback Node Time Unit) := by
  constructor
  · intro s s' hlike
    rw [run_task_log, run_task_log]
    exact ⟨rfl, ⟨hlike.db, hlike.result⟩, [entry], rfl, rfl⟩
  · intro s h
    rw [run_task_log] at h
    cases h

/-- The end of every callback. -/
theorem blind_result : Blind (do return (← get).result : Callback Node Time (Result Time)) :=
  blind_get (fun _ _ hlike => by rw [hlike.result]) fun _ => Blind.pure _

end blind

section swallowed

/-- The procedure goes on after the failure, and ends as without it if and only if it can do without that part. -/
def Swallowed (same_owner : Bool) (p : Callback Node Time α) (s : State Node Time)
    (point : Point (State Node Time) Statement (Raised Failure) α) : Prop :=
  ∃ kind part, point.kind = .log kind part ∧ (point.failed.run point.state).1 = (p.run s).1 ∧
    (p.run s).1 ≠ .error .operational ∧ Like (point.failed.run point.state).2 (p.run s).2 ∧
      ((point.failed.run point.state).2.db.task_log = (p.run s).2.db.task_log ↔ part.safe same_owner)

theorem LogEntry.of_task_owner_ne (entry : LogEntry Time) : LogEntry.of_task_owner entry ≠ entry := by
  intro h
  have hsize := congrArg sizeOf h
  simp at hsize

theorem State.logged_without_log {s : State Node Time} {entry : LogEntry Time} (part : LogPart) :
    (s.logged_without entry part).db.task_log = (s.task_log entry).db.task_log ↔ part.safe s.same_owner := by
  cases part with
  | owner =>
    simp only [State.logged_without, State.task_log, Db.log, LogPart.safe, State.owned, List.append_cancel_left_eq]
    cases s.same_owner with
    | true => simp
    | false => simp [LogEntry.of_task_owner_ne]
  | _ => simp [State.logged_without, State.task_log, Db.log, LogPart.safe]

theorem State.logged_without_like (s : State Node Time) (entry : LogEntry Time) (part : LogPart) :
    Like (s.logged_without entry part) (s.task_log entry) := by
  cases part <;> exact ⟨rfl, rfl⟩

/-- What follows adds to the log without reading it. -/
theorem swallowed_of_logPoint {kind : LogKind} {entry : LogEntry Time} {k : Unit → Callback Node Time β}
    {s : State Node Time} {point : Point (State Node Time) Statement (Raised Failure) β} (hk : Blind (k ()))
    (hpoint : LogPoint kind entry k s point) : Swallowed s.same_owner (task_log kind entry >>= k) s point := by
  obtain ⟨part, hkind, hfailed⟩ := hpoint
  obtain ⟨houtcome, hlike, entries, hlog, hlog'⟩ := hk.run _ _ (s.logged_without_like entry part)
  have hrun : (task_log kind entry >>= k).run s = (k ()).run (s.task_log entry) := by
    rw [Procedure.run_bind, run_task_log]
  rw [Swallowed, hrun, hfailed]
  refine ⟨kind, part, hkind, houtcome, hk.ne_operational _, hlike, ?_⟩
  rw [hlog, hlog', List.append_left_inj]
  exact State.logged_without_log part

theorem Swallowed.bind {same_owner : Bool} {p : Callback Node Time α} {k : α → Callback Node Time β}
    {s : State Node Time} {point : Point (State Node Time) Statement (Raised Failure) α}
    (hpoint : Swallowed same_owner p s point) (hk : ∀ a, Blind (k a)) :
    Swallowed same_owner (p >>= k) s ⟨point.kind, point.failed >>= k, point.state⟩ := by
  obtain ⟨kind, part, hkind, houtcome, hne, hlike, hsafe⟩ := hpoint
  refine ⟨kind, part, hkind, ?_⟩
  rcases hrun : p.run s with ⟨outcome, t⟩
  rcases hrun' : point.failed.run point.state with ⟨outcome', t'⟩
  rw [hrun, hrun'] at houtcome hlike hsafe
  rw [hrun] at hne
  dsimp only at houtcome hlike hsafe hne
  subst houtcome
  cases outcome' with
  | error e =>
    rw [Procedure.run_bind_of_error hrun, Procedure.run_bind_of_error hrun']
    exact ⟨rfl, fun h => hne (congrArg Except.error (Except.error.inj h)), hlike, hsafe⟩
  | ok a =>
    rw [Procedure.run_bind_of_ok hrun, Procedure.run_bind_of_ok hrun']
    obtain ⟨houtcome, hlike, entries, hlog, hlog'⟩ := (hk a).run t' t hlike
    refine ⟨houtcome, (hk a).ne_operational _, hlike, ?_⟩
    rw [hlog, hlog', List.append_left_inj]
    exact hsafe

theorem Swallowed.of_run {same_owner : Bool} {p : Callback Node Time α} {k : α → Callback Node Time β}
    {s t : State Node Time} {a : α} (hrun : p.run s = (.ok a, t))
    {point : Point (State Node Time) Statement (Raised Failure) β} (hpoint : Swallowed same_owner (k a) t point) :
    Swallowed same_owner (p >>= k) s point := by
  rw [Swallowed, Procedure.run_bind, hrun]
  exact hpoint

variable {retried : Statement → Prop}

/-- A failure that `task_log` catches is followed by no second execution. -/
theorem recovers_iff_of_swallowed {body rest : Callback Node Time α} {s s' : State Node Time}
    (hrun : body.run s = rest.run s') {point : Point (State Node Time) Statement (Raised Failure) α}
    (hpoint : Swallowed s.same_owner rest s' point) : Recovers body s point ↔ point.kind.safe s retried := by
  obtain ⟨kind, part, hkind, houtcome, hne, hlike, hsafe⟩ := hpoint
  rw [recovers_of_handled (by rw [houtcome]; exact hne), hrun, hlike.db_iff, hsafe, hkind]
  exact and_iff_right houtcome

theorem recovers_iff_of_logPoint {kind : LogKind} {entry : LogEntry Time} {k : Unit → Callback Node Time β}
    {body : Callback Node Time β} {s t : State Node Time} (hk : Blind (k ()))
    (hrun : body.run s = (k ()).run (t.task_log entry)) (hsame : t.same_owner = s.same_owner)
    {point : Point (State Node Time) Statement (Raised Failure) β} (hpoint : LogPoint kind entry k t point) :
    Recovers body s point ↔ point.kind.safe s retried := by
  have hswallowed := swallowed_of_logPoint hk hpoint
  rw [hsame] at hswallowed
  refine recovers_iff_of_swallowed ?_ hswallowed
  rw [hrun, Procedure.run_bind, run_task_log]

/-- Every failure raises the operational error in a state with the invariant, or is caught by `task_log`. -/
structure Settles (same_owner : Bool) (I : State Node Time → Prop) (K : Statement → Prop)
    (p : Callback Node Time α) : Prop where
  keeps : Procedure.Keeps I p
  fails : ∀ s, I s → ∀ point ∈ p.points s,
    (K point.kind ∧ I point.state ∧ ∀ s, point.failed.run s = (.error .operational, s)) ∨
      Swallowed same_owner p s point

variable {same_owner : Bool} {I : State Node Time → Prop} {K : Statement → Prop} {E : Raised Failure → Prop}

theorem Settles.of_exposed {p : Callback Node Time α} (hp : Exposed .operational I K p) :
    Settles same_owner I K p :=
  ⟨hp.keeps, fun s hs point hpoint => .inl (hp.fails s hs point hpoint)⟩

theorem settles_task_log (kind : LogKind) (entry : LogEntry Time)
    (hentry : ∀ s, I s → I (s.task_log entry)) (hsame : ∀ s, I s → s.same_owner = same_owner) :
    Settles same_owner I K (task_log kind entry) := by
  constructor
  · intro s hs
    rw [run_task_log]
    exact hentry s hs
  · intro s hs point hpoint
    right
    rw [← hsame s hs]
    have hbind : (task_log kind entry >>= fun _ => pure () : Callback Node Time Unit).run s =
        (task_log kind entry).run s := by
      rw [Procedure.run_bind, run_task_log]
      rfl
    obtain ⟨part, hkind, hfailed⟩ := points_task_log hpoint
    have hlog : LogPoint kind entry (fun _ => pure ()) s point := ⟨part, hkind, hfailed⟩
    have hswallowed := swallowed_of_logPoint (Blind.pure ()) hlog
    rw [Swallowed, hbind] at hswallowed
    exact hswallowed

theorem Settles.bind {p : Callback Node Time α} {k : α → Callback Node Time β} (hp : Settles same_owner I K p)
    (hblind : ∀ a, Blind (k a)) (hk : ∀ a, Settles same_owner I K (k a)) : Settles same_owner I K (p >>= k) := by
  constructor
  · exact hp.keeps.bind fun a => (hk a).keeps
  · intro s hs point hpoint
    have hkeeps := hp.keeps s hs
    rw [Procedure.mem_points_bind] at hpoint
    rcases hpoint with ⟨first, hfirst, rfl⟩ | ⟨a, t, hrun, hpoint⟩
    · rcases hp.fails s hs first hfirst with ⟨hkind, hstate, hfailed⟩ | hswallowed
      · refine .inl ⟨hkind, hstate, fun s => ?_⟩
        rw [Procedure.run_bind, hfailed]
      · exact .inr (hswallowed.bind hblind)
    · rw [hrun] at hkeeps
      rcases (hk a).fails t hkeeps point hpoint with hraised | hswallowed
      · exact .inl hraised
      · exact .inr (hswallowed.of_run hrun)

/-- Before anything is logged, what follows may read the log. -/
theorem Settles.after {p : Callback Node Time α} {k : α → Callback Node Time β}
    (hp : Exposed .operational I K p) (hk : ∀ a, Settles same_owner I K (k a)) :
    Settles same_owner I K (p >>= k) := by
  constructor
  · exact hp.keeps.bind fun a => (hk a).keeps
  · intro s hs point hpoint
    have hkeeps := hp.keeps s hs
    rw [Procedure.mem_points_bind] at hpoint
    rcases hpoint with ⟨first, hfirst, rfl⟩ | ⟨a, t, hrun, hpoint⟩
    · obtain ⟨hkind, hstate, hfailed⟩ := hp.fails s hs first hfirst
      refine .inl ⟨hkind, hstate, fun s => ?_⟩
      rw [Procedure.run_bind, hfailed]
    · rw [hrun] at hkeeps
      rcases (hk a).fails t hkeeps point hpoint with hraised | hswallowed
      · exact .inl hraised
      · exact .inr (hswallowed.of_run hrun)

/-- Where a second execution ends with an error that the first one does not end
with, no failure that raises is made up for. -/
theorem recovers_iff_of_settles {body rest : Callback Node Time α} {s s' : State Node Time}
    (hsettles : Settles s.same_owner I (fun kind => kind.logs = false ∧ ¬ retried kind) rest)
    (hraises : Raises (fun e => ¬ E e) rest) (hs' : I s') (hrun : body.run s = rest.run s')
    (hretry : ∀ state, I state → ∃ e, (body.run state).1 = .error e ∧ E e)
    {point : Point (State Node Time) Statement (Raised Failure) α} (hpoint : point ∈ rest.points s') :
    Recovers body s point ↔ point.kind.safe s retried := by
  rcases hsettles.fails s' hs' point hpoint with ⟨⟨hlogs, hretried⟩, hstate, hfailed⟩ | hswallowed
  · rw [recovers_of_raised hfailed, Statement.safe_iff hlogs]
    refine iff_of_false (not_same_of_raises ?_ (hretry _ hstate)) hretried
    intro e he
    rw [hrun] at he
    exact hraises s' e he
  · exact recovers_iff_of_swallowed hrun hswallowed

theorem raises_task_log {R : Raised Failure → Prop} (kind : LogKind) (entry : LogEntry Time) :
    Raises R (task_log kind entry : Callback Node Time Unit) := by
  intro s e he
  rw [run_task_log] at he
  cases he

end swallowed

end api.callbacks
