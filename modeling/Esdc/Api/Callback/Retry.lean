import Esdc.Api.Callback.Data

namespace api.callbacks

open que.mgmt
open Procedure (Point Raises Exposed)
open vms.definition (Json)

variable {Node Time α β : Type}

/-- The two runs end with the same outcome and the same database. -/
def Same (body : Callback Node Time α) (s s' : State Node Time) : Prop :=
  (body.run s).1 = (body.run s').1 ∧ (body.run s).2.db = (body.run s').2.db

theorem Same.refl (body : Callback Node Time α) (s : State Node Time) : Same body s s := ⟨rfl, rfl⟩

theorem run_callback_fst (body : Callback Node Time α) (s : State Node Time) :
    ((callback body).run s).1 = (body.run s).1 := by
  rw [callback, Procedure.run_handle]
  rcases hrun : body.run s with ⟨a | e, s'⟩
  · cases a <;> rfl
  · rfl

/-- What the decorator adds to the database of the body. -/
def logged (outcome : Except (Raised Failure) α) (db : Db Node Time) : Db Node Time :=
  match outcome with
  | .error (.error e) => db.log (.failure e.text)
  | _ => db

theorem run_callback_db (body : Callback Node Time α) (s : State Node Time) :
    ((callback body).run s).2.db = logged (body.run s).1 (body.run s).2.db := by
  rw [callback, Procedure.run_handle]
  rcases hrun : body.run s with ⟨a | e, s'⟩
  · cases a <;> rfl
  · rfl

theorem Db.log_inj {db db' : Db Node Time} {entry : LogEntry Time} :
    db.log entry = db'.log entry ↔ db = db' := by
  constructor
  · intro h
    cases db
    cases db'
    simpa [Db.log] using h
  · rintro rfl
    rfl

theorem logged_inj {outcome : Except (Raised Failure) α} {db db' : Db Node Time} :
    logged outcome db = logged outcome db' ↔ db = db' := by
  unfold logged
  split
  · exact Db.log_inj
  · exact Iff.rfl

theorem logged_iff {outcome outcome' : Except (Raised Failure) α} {db db' : Db Node Time} :
    outcome = outcome' ∧ logged outcome db = logged outcome' db' ↔ outcome = outcome' ∧ db = db' := by
  refine and_congr_right fun houtcome => ?_
  rw [houtcome]
  exact logged_inj

theorem same_callback {body : Callback Node Time α} {s s' : State Node Time} :
    Same (callback body) s s' ↔ Same body s s' := by
  rw [Same, run_callback_fst, run_callback_fst, run_callback_db, run_callback_db]
  exact logged_iff

theorem points_callback (body : Callback Node Time α) (s : State Node Time) :
    (callback body).points s =
      (body.points s).map fun point => ⟨point.kind, callback point.failed, point.state⟩ := by
  rw [callback, Procedure.points_handle]
  rcases hrun : body.run s with ⟨a | e, s'⟩
  · cases a <;> exact List.append_nil _
  · exact List.append_nil _

/-- The failure of one statement of the body and what follows end as the run without a failure. -/
def Recovers (body : Callback Node Time α) (s : State Node Time)
    (point : Point (State Node Time) Statement (Raised Failure) α) : Prop :=
  let r := retried (callback body) ⟨point.kind, callback point.failed, point.state⟩
  r.1 = ((callback body).run s).1 ∧ r.2.db = ((callback body).run s).2.db

theorem equivalent_iff_recovers {body : Callback Node Time α} {s : State Node Time} {k : Nat}
    {point : Point (State Node Time) Statement (Raised Failure) α}
    (hpoint : (body.points s)[k]? = some point) :
    Equivalent (callback body) s k ↔ Recovers body s point := by
  have hcallback : ((callback body).points s)[k]? =
      some ⟨point.kind, callback point.failed, point.state⟩ := by
    rw [points_callback, List.getElem?_map, hpoint]
    rfl
  rw [Equivalent, MgmtCallbackTask_of_point hcallback]
  exact Iff.rfl

/-- A failure that raises the error is followed by a second execution from its state. -/
theorem recovers_of_raised {body : Callback Node Time α} {s : State Node Time}
    {point : Point (State Node Time) Statement (Raised Failure) α}
    (hfailed : ∀ s, point.failed.run s = (.error .operational, s)) :
    Recovers body s point ↔ Same body point.state s := by
  have hcallback : (callback point.failed).run point.state = (.error .operational, point.state) := by
    rw [callback, Procedure.run_handle, hfailed]
    rfl
  rw [← same_callback, Recovers, retried, hcallback]
  exact Iff.rfl

/-- After a failure that is handled the first execution goes on. -/
theorem recovers_of_handled {body : Callback Node Time α} {s : State Node Time}
    {point : Point (State Node Time) Statement (Raised Failure) α}
    (hhandled : (point.failed.run point.state).1 ≠ .error .operational) :
    Recovers body s point ↔ (point.failed.run point.state).1 = (body.run s).1 ∧
      (point.failed.run point.state).2.db = (body.run s).2.db := by
  have hretried : retried (callback body) ⟨point.kind, callback point.failed, point.state⟩ =
      (callback point.failed).run point.state := by
    have houtcome := run_callback_fst point.failed point.state
    rcases hrun : (callback point.failed).run point.state with ⟨outcome, s'⟩
    rw [hrun] at houtcome
    rw [← houtcome] at hhandled
    simp only [retried, hrun]
    split
    · rename_i heq
      cases heq
      exact absurd rfl hhandled
    · rfl
  rw [Recovers, hretried, run_callback_fst, run_callback_fst, run_callback_db, run_callback_db]
  exact logged_iff

theorem not_same_of_raises {body : Callback Node Time α} {s s' : State Node Time} {E : Raised Failure → Prop}
    (hraises : ∀ e, (body.run s).1 = .error e → ¬ E e)
    (hretry : ∃ e, (body.run s').1 = .error e ∧ E e) : ¬ Same body s' s := by
  rintro ⟨houtcome, -⟩
  obtain ⟨e, he, hE⟩ := hretry
  rw [houtcome] at he
  exact hraises e he hE

theorem not_same_of_task_log_length {body : Callback Node Time α} {s s' : State Node Time}
    (hlength : (body.run s).2.db.task_log.length ≠ (body.run s').2.db.task_log.length) : ¬ Same body s s' := by
  rintro ⟨-, hdb⟩
  rw [hdb] at hlength
  exact hlength rfl

@[simp] theorem throw_bind (e : Raised Failure) (k : α → Callback Node Time β) :
    ((.throw e : Callback Node Time α) >>= k) = .throw e := rfl

@[simp] theorem run_select (kind : Statement) (f : Db Node Time → α) (s : State Node Time) :
    (select kind f).run s = (.ok (f s.db), s) := rfl

@[simp] theorem points_select (kind : Statement) (f : Db Node Time → α) (s : State Node Time) :
    (select kind f).points s = [⟨kind, .throw .operational, s⟩] := rfl

@[simp] theorem run_write (kind : Statement) (effect : Db Node Time → Db Node Time) (s : State Node Time) :
    (write kind effect).run s = (.ok (), s.set_db effect) := rfl

@[simp] theorem points_write (kind : Statement) (effect : Db Node Time → Db Node Time)
    (s : State Node Time) : (write kind effect).points s = [⟨kind, .throw .operational, s⟩] := rfl

@[simp] theorem run_getitem_some (a : α) (key : String) (s : State Node Time) :
    (getitem (some a) key).run s = (.ok a, s) := rfl

@[simp] theorem run_getitem_none (key : String) (s : State Node Time) :
    (getitem (none : Option α) key).run s = (.error (.error (.key_error key)), s) := rfl

@[simp] theorem points_getitem (value : Option α) (key : String) (s : State Node Time) :
    (getitem value key).points s = [] := by
  cases value <;> rfl

theorem run_Vm_get {kind : Statement} {s : State Node Time} {vm : VmRow Node Time}
    (hvm : s.db.vm = some vm) : (Vm_get kind).run s = (.ok vm, s) := by
  simp [Vm_get, Procedure.run_bind, hvm]

theorem run_Vm_get_none {kind : Statement} {s : State Node Time} (hvm : s.db.vm = none) :
    (Vm_get kind).run s = (.error (.error (.does_not_exist .Vm)), s) := by
  simp [Vm_get, Procedure.run_bind, hvm]

@[simp] theorem points_Vm_get (kind : Statement) (s : State Node Time) :
    (Vm_get kind).points s = [⟨kind, .throw .operational, s⟩] := by
  cases hvm : s.db.vm <;> simp [Vm_get, Procedure.points_bind, hvm]

@[simp] theorem run_pop_json (s : State Node Time) :
    (pop_json : Callback Node Time _).run s =
      (.ok s.result.json, s.pop_json) := rfl

@[simp] theorem points_pop_json (s : State Node Time) :
    (pop_json : Callback Node Time _).points s = [] := rfl

@[simp] theorem run_load_some (json : Json) (s : State Node Time) :
    (load (some (some json)) : Callback Node Time _).run s = (.ok json, s) := rfl

@[simp] theorem run_load_none (s : State Node Time) :
    (load none : Callback Node Time _).run s = (.error (.error .parse_json), s) := rfl

@[simp] theorem points_load (json : Option (Option Json)) (s : State Node Time) :
    (load json : Callback Node Time _).points s = [] := by
  rcases json with - | - | json <;> rfl

theorem State.pop_json_of_none {s : State Node Time} (hjson : s.result.json = none) : s.pop_json = s := by
  obtain ⟨db, result, super_admins, same_owner⟩ := s
  obtain ⟨⟩ := result
  cases hjson
  rfl

section membership

variable {s : State Node Time} {point : Point (State Node Time) Statement (Raised Failure) β}

theorem mem_points_select {kind : Statement} {f : Db Node Time → α} {k : α → Callback Node Time β} :
    point ∈ (select kind f >>= k).points s ↔
      point = ⟨kind, .throw .operational, s⟩ ∨ point ∈ (k (f s.db)).points s := List.mem_cons

theorem mem_points_write {kind : Statement} {effect : Db Node Time → Db Node Time}
    {k : Unit → Callback Node Time β} :
    point ∈ (write kind effect >>= k).points s ↔
      point = ⟨kind, .throw .operational, s⟩ ∨ point ∈ (k ()).points (s.set_db effect) := List.mem_cons

theorem mem_points_get {k : State Node Time → Callback Node Time β} :
    point ∈ (get >>= k).points s ↔ point ∈ (k s).points s := Iff.rfl

theorem mem_points_modify {effect : State Node Time → State Node Time} {k : Unit → Callback Node Time β} :
    point ∈ (modify effect >>= k).points s ↔ point ∈ (k ()).points (effect s) := Iff.rfl

theorem mem_points_pop_json {k : Option (Option Json) → Callback Node Time β} :
    point ∈ (pop_json >>= k).points s ↔
      point ∈ (k s.result.json).points s.pop_json := Iff.rfl

theorem mem_points_getitem {value : Option α} {key : String} {k : α → Callback Node Time β} :
    point ∈ (getitem value key >>= k).points s ↔ ∃ a, value = some a ∧ point ∈ (k a).points s := by
  rw [Procedure.mem_points_bind, points_getitem]
  cases value <;> simp [eq_comm]

theorem mem_points_load {json : Option (Option Json)} {k : Json → Callback Node Time β} :
    point ∈ (load json >>= k).points s ↔ ∃ a, json = some (some a) ∧ point ∈ (k a).points s := by
  rw [Procedure.mem_points_bind, points_load]
  rcases json with - | - | json <;> simp [load, eq_comm]

theorem mem_points_Vm_get {kind : Statement} {k : VmRow Node Time → Callback Node Time β} :
    point ∈ (Vm_get kind >>= k).points s ↔
      point = ⟨kind, .throw .operational, s⟩ ∨ ∃ vm, s.db.vm = some vm ∧ point ∈ (k vm).points s := by
  rw [Procedure.mem_points_bind, points_Vm_get]
  cases hvm : s.db.vm with
  | none => simp [run_Vm_get_none hvm, eq_comm]
  | some vm => simp [run_Vm_get hvm, eq_comm]

end membership

section rules

variable {I : State Node Time → Prop} {K : Statement → Prop} {E : Raised Failure → Prop}

theorem exposed_select {kind : Statement} (hkind : K kind) (f : Db Node Time → α) :
    Exposed .operational I K (select kind f) := exposed_query hkind _

theorem exposed_write {kind : Statement} (hkind : K kind) {effect : Db Node Time → Db Node Time}
    (heffect : ∀ s, I s → I (s.set_db effect)) : Exposed .operational I K (write kind effect) :=
  exposed_execute hkind heffect

theorem exposed_getitem (value : Option α) (key : String) :
    Exposed .operational I K (getitem value key : Callback Node Time α) := by
  cases value with
  | none => exact exposed_raise _
  | some a => exact Exposed.pure _ _ _ _

theorem exposed_Vm_get {kind : Statement} (hkind : K kind) :
    Exposed .operational I K (Vm_get kind : Callback Node Time _) := by
  refine Exposed.bind (exposed_select hkind _) fun vm => ?_
  cases vm with
  | none => exact exposed_raise _
  | some vm => exact Exposed.pure _ _ _ _

theorem exposed_pop_json (hpop : ∀ s, I s → I s.pop_json) :
    Exposed .operational I K (pop_json : Callback Node Time _) := by
  refine Exposed.bind exposed_get fun s => ?_
  exact Exposed.bind (exposed_modify hpop) fun _ => Exposed.pure _ _ _ _

theorem exposed_load (json : Option (Option Json)) :
    Exposed .operational I K (load json : Callback Node Time Json) := by
  rcases json with - | - | json
  · exact exposed_raise _
  · exact exposed_raise _
  · exact Exposed.pure _ _ _ _

theorem raises_getitem {value : Option α} {key : String} (hkey : value = none → R (.error (.key_error key))) :
    Raises R (getitem value key : Callback Node Time α) := by
  cases value with
  | none => exact raises_raise (hkey rfl)
  | some a => exact Raises.pure _ _

theorem raises_Vm_get (kind : Statement) (hvm : R (.error (.does_not_exist .Vm))) :
    Raises R (Vm_get kind : Callback Node Time _) := by
  refine Raises.bind (raises_query _ _) fun vm => ?_
  cases vm with
  | none => exact raises_raise hvm
  | some vm => exact Raises.pure _ _

theorem raises_pop_json : Raises R (pop_json : Callback Node Time _) := by
  refine Raises.bind raises_get fun s => ?_
  exact Raises.bind (raises_modify _) fun _ => Raises.pure _ _

theorem raises_load {json : Option (Option Json)} (hjson : (∀ a, json ≠ some (some a)) → R (.error .parse_json)) :
    Raises R (load json : Callback Node Time Json) := by
  rcases json with - | - | json
  · exact raises_raise (hjson (by simp))
  · exact raises_raise (hjson (by simp))
  · exact Raises.pure _ _

end rules

end api.callbacks
