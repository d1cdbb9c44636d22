import Mathlib
import Esdc.Lib.Interleave
import Esdc.Lib.Table

namespace api.vm.snapshot

open interleave

inductive SnapType
  | AUTO
  | MANUAL
  deriving DecidableEq

inductive SnapStatus
  | OK
  | PENDING
  | ROLLBACK
  | LOST
  deriving DecidableEq

structure Snapshot where
  disk_id : ℕ
  name : String
  define_id : Option ℕ
  type : SnapType
  status : SnapStatus
  fsfreeze : Bool
  deriving DecidableEq

/-- `unique_together = (('vm', 'disk_id', 'name'),)` -/
def Snapshot.key (snap : Snapshot) : ℕ × String := (snap.disk_id, snap.name)

/-- The snapshots of the VM, and the disks with a task lock. -/
structure Store where
  snapshots : Table Snapshot Snapshot.key
  locks : Finset ℕ

/-- The statements on the table, and the locks of the tasks. -/
inductive Op
  | get (disk_id : ℕ) (name : String)
  | get_by_id (id : ℕ)
  | get_names (disk_id : ℕ) (names : List String)
  | get_ids (disk_id : ℕ) (names : List String) (status : SnapStatus)
  | count (type : SnapType)
  | insert (snap : Snapshot)
  | save_status (ids : List ℕ) (status : SnapStatus)
  | save_fsfreeze (id : ℕ) (fsfreeze : Bool)
  | delete (ids : List ℕ)
  | delete_after (disk_id : ℕ) (id : ℕ)
  | execute (disk_id : ℕ) (reachable : Bool)
  | unlock (disk_id : ℕ)

abbrev Op.Resp : Op → Type
  | .get _ _ => Option (ℕ × Snapshot)
  | .get_by_id _ => Option Snapshot
  | .get_names _ _ => List (ℕ × Snapshot)
  | .get_ids _ _ _ => List ℕ
  | .count _ => ℕ
  | .insert _ => Option ℕ
  | .execute _ _ => Bool
  | .save_status _ _ | .save_fsfreeze _ _ | .delete _ | .delete_after _ _ | .unlock _ => Unit

/-- The snapshots of a type. -/
def Store.total (s : Store) (type : SnapType) : ℕ := s.snapshots.count fun _ row => row.type = type

def save_status (snapshots : Table Snapshot Snapshot.key) (ids : List ℕ) (status : SnapStatus) :
    Table Snapshot Snapshot.key :=
  snapshots.update (fun id row => if id ∈ ids then { row with status } else row) fun _ _ => by split <;> rfl

def save_fsfreeze (snapshots : Table Snapshot Snapshot.key) (id : ℕ) (fsfreeze : Bool) : Table Snapshot Snapshot.key :=
  snapshots.update (fun id' row => if id' = id then { row with fsfreeze } else row) fun _ _ => by split <;> rfl

def exec : (o : Op) → Store → o.Resp × Store
  | .get disk_id name, s => (s.snapshots.get (disk_id, name), s)
  | .get_by_id id, s => (s.snapshots.rows.lookup id, s)
  | .get_names disk_id names, s => (s.snapshots.select fun _ row => row.disk_id = disk_id && row.name ∈ names, s)
  | .get_ids disk_id names status, s =>
    ((s.snapshots.select fun _ row => row.disk_id = disk_id && row.name ∈ names && row.status = status).map Prod.fst, s)
  | .count type, s => (s.total type, s)
  | .insert snap, s =>
    if hfree : s.snapshots.taken snap.key = false then
      (some s.snapshots.next_id, { s with snapshots := s.snapshots.insert snap hfree })
    else (none, s)
  | .save_status ids status, s => ((), { s with snapshots := snapshot.save_status s.snapshots ids status })
  | .save_fsfreeze id fsfreeze, s => ((), { s with snapshots := snapshot.save_fsfreeze s.snapshots id fsfreeze })
  | .delete ids, s => ((), { s with snapshots := s.snapshots.delete fun id _ => id ∈ ids })
  | .delete_after disk_id id, s =>
    ((), { s with snapshots := s.snapshots.delete fun id' row => row.disk_id = disk_id && id < id' })
  | .execute disk_id reachable, s =>
    if disk_id ∉ s.locks ∧ reachable then (true, { s with locks := insert disk_id s.locks }) else (false, s)
  | .unlock disk_id, s => ((), { s with locks := s.locks.erase disk_id })

abbrev Prog (α : Type) := Program Op Op.Resp α

inductive Error
  | ObjectAlreadyExists
  | ObjectNotFound
  | Invalid
  | ExpectationFailed (message : String)
  | IntegrityError
  | TaskError
  | TaskException
  deriving DecidableEq

section requests

/-- What a request for a snapshot brings along: `define_id` is set for an automatic one, `valid` stands
for the status of the VM and the serializer, `size_limits` for the limits on the size of the snapshots. -/
structure Request where
  disk_id : ℕ
  snapname : String
  define_id : Option ℕ
  fsfreeze : Bool
  valid : Bool
  size_limits : Bool
  reachable : Bool
  deriving DecidableEq

def Request.snaptype (request : Request) : SnapType := if request.define_id.isSome then .AUTO else .MANUAL

/-- The limits are those of `json_active['internal_metadata']` that are numbers. -/
def VmSnapshot._check_snap_limit (limits : SnapType → Option ℤ) (type : SnapType) : Prog (Except Error Unit) :=
  match limits type with
  | none => .done (.ok ())
  | some limit => .op (.count type) fun total =>
    .done (if limit ≤ total then .error (.ExpectationFailed "VM snapshot limit reached") else .ok ())

/-- The row of a new snapshot. -/
def Request.snap (request : Request) : Snapshot where
  disk_id := request.disk_id
  name := request.snapname
  define_id := request.define_id
  type := request.snaptype
  status := .PENDING
  fsfreeze := request.fsfreeze

/-- The row is there before the task is, and is deleted again when there is no task. -/
def VmSnapshot.create (request : Request) : Prog (Except Error ℕ) :=
  .op (.insert request.snap) fun id =>
    match id with
    | none => .done (.error .IntegrityError)
    | some id => .op (.execute request.disk_id request.reachable) fun tid =>
      if tid then .done (.ok id) else .op (.delete [id]) fun _ => .done (.error .TaskError)

def VmSnapshot.post (limits : SnapType → Option ℤ) (request : Request) : Prog (Except Error ℕ) :=
  .op (.get request.disk_id request.snapname) fun snap =>
    if snap.isSome then .done (.error .ObjectAlreadyExists)
    else if !request.valid then .done (.error .Invalid)
    else do
      match ← VmSnapshot._check_snap_limit limits request.snaptype with
      | .error error => .done (.error error)
      | .ok () =>
        if !request.size_limits then .done (.error (.ExpectationFailed "size limit reached"))
        else VmSnapshot.create request

def VmSnapshot.delete (request : Request) : Prog (Except Error Unit) :=
  .op (.get request.disk_id request.snapname) fun snap =>
    match snap with
    | none => .done (.error .ObjectNotFound)
    | some (id, snap) =>
      if !request.valid then .done (.error .Invalid)
      else if snap.status = .LOST then .op (.delete [id]) fun _ => .done (.ok ())
      else if snap.status ≠ .OK then .done (.error (.ExpectationFailed "VM snapshot status is not OK"))
      else .op (.execute snap.disk_id request.reachable) fun tid =>
        if tid then .op (.save_status [id] .PENDING) fun _ => .done (.ok ()) else .done (.error .TaskError)

/-- The part of a deletion that is left to a task. -/
def VmSnapshotList.execute (disk_id : ℕ) (snap_ids : List ℕ) (reachable : Bool) : Prog (Except Error (List ℕ)) :=
  .op (.execute disk_id reachable) fun tid =>
    if tid then .op (.save_status snap_ids .PENDING) fun _ => .done (.ok snap_ids) else .done (.error .TaskError)

/-- When some are lost, they are deleted from the table and the others matter only if they are OK. -/
def VmSnapshotList.delete (disk_id : ℕ) (snapnames : List String) (valid reachable : Bool) :
    Prog (Except Error (List ℕ)) :=
  .op (.get_names disk_id snapnames) fun snaps =>
    if snaps = [] then .done (.error .ObjectNotFound)
    else if !valid then .done (.error .Invalid)
    else .op (.get_ids disk_id snapnames .LOST) fun snaps_lost =>
      if snaps_lost ≠ [] then
        .op (.delete snaps_lost) fun _ => .op (.get_ids disk_id snapnames .OK) fun snap_ids =>
          if snap_ids = [] then .done (.ok []) else VmSnapshotList.execute disk_id snap_ids reachable
      else if snaps.any fun snap => snap.2.status ≠ .OK then
        .done (.error (.ExpectationFailed "VM snapshot status is not OK"))
      else VmSnapshotList.execute disk_id (snaps.map Prod.fst) reachable

section runs

variable {s : Store} {disk_id : ℕ}

/-- All that a creation can do. -/
theorem run_create_cases (s : Store) (request : Request) :
    (∃ hfree : s.snapshots.taken request.snap.key = false, (VmSnapshot.create request).run exec s =
      (.ok s.snapshots.next_id, ⟨s.snapshots.insert request.snap hfree, insert request.disk_id s.locks⟩)) ∨
    (∃ hfree : s.snapshots.taken request.snap.key = false, (VmSnapshot.create request).run exec s = (.error .TaskError,
      ⟨(s.snapshots.insert request.snap hfree).delete fun id _ => id ∈ [s.snapshots.next_id], s.locks⟩)) ∨
    (VmSnapshot.create request).run exec s = (.error .IntegrityError, s) := by
  rw [VmSnapshot.create, Program.run_op]
  by_cases hfree : s.snapshots.taken request.snap.key = false
  · have hinsert : exec (.insert request.snap) s =
        (some s.snapshots.next_id, { s with snapshots := s.snapshots.insert request.snap hfree }) := dif_pos hfree
    rw [hinsert]
    simp only [Program.run_op, exec]
    by_cases hexecute : request.disk_id ∉ s.locks ∧ request.reachable
    · refine Or.inl ⟨hfree, ?_⟩
      simp only [hexecute, not_false_iff, and_self, if_true]
      rfl
    · refine Or.inr (Or.inl ⟨hfree, ?_⟩)
      simp only [hexecute, if_false, Bool.false_eq_true]
      rfl
  · have hinsert : exec (.insert request.snap) s = (none, s) := dif_neg hfree
    rw [hinsert]
    exact Or.inr (Or.inr rfl)

/-- A request is refused and changes nothing, or there is room and its row is created. -/
theorem run_post_cases (limits : SnapType → Option ℤ) (s : Store) (request : Request) :
    (∃ error, (VmSnapshot.post limits request).run exec s = (.error error, s)) ∨
    ((∀ limit, limits request.snaptype = some limit → (s.total request.snaptype : ℤ) < limit) ∧
      (VmSnapshot.post limits request).run exec s = (VmSnapshot.create request).run exec s) := by
  rw [VmSnapshot.post, Program.run_op]
  generalize (exec (.get request.disk_id request.snapname) s).1 = snap
  change (∃ error, Program.run exec (if snap.isSome then _ else _) s = _) ∨
    (_ ∧ Program.run exec (if snap.isSome then _ else _) s = _)
  split
  · exact Or.inl ⟨_, rfl⟩
  · split
    · exact Or.inl ⟨_, rfl⟩
    · unfold VmSnapshot._check_snap_limit
      cases hlimit : limits request.snaptype with
      | none =>
        simp only [Program.done_bind]
        split
        · exact Or.inl ⟨_, rfl⟩
        · exact Or.inr ⟨nofun, rfl⟩
      | some limit =>
        simp only [Program.op_bind, Program.done_bind, Program.run_op, exec]
        by_cases hroom : limit ≤ s.total request.snaptype
        · simp only [hroom, if_true]
          exact Or.inl ⟨_, rfl⟩
        · simp only [hroom, if_false]
          split
          · exact Or.inl ⟨_, rfl⟩
          · refine Or.inr ⟨fun limit' hsome => ?_, rfl⟩
            obtain rfl := Option.some.inj hsome
            omega

/-- The lock of the disk is free and its task is started. -/
theorem run_execute (hlock : disk_id ∉ s.locks) (snap_ids : List ℕ) :
    (VmSnapshotList.execute disk_id snap_ids true).run exec s =
      (.ok snap_ids, (exec (.save_status snap_ids .PENDING) { s with locks := insert disk_id s.locks }).2) := by
  have hexecute : exec (.execute disk_id true) s = (true, { s with locks := insert disk_id s.locks }) :=
    if_pos ⟨hlock, rfl⟩
  rw [VmSnapshotList.execute, Program.run_op, hexecute]
  rfl

/-- A list of snapshots that are all OK. -/
theorem run_list_delete (hlock : disk_id ∉ s.locks) {snapnames : List String} {found : List (ℕ × Snapshot)}
    (hfound : s.snapshots.select (fun _ row => row.disk_id = disk_id && row.name ∈ snapnames) = found)
    (hsome : found ≠ []) (hok : ∀ e ∈ found, e.2.status = .OK) :
    (VmSnapshotList.delete disk_id snapnames true true).run exec s = (.ok (found.map Prod.fst),
      (exec (.save_status (found.map Prod.fst) .PENDING) { s with locks := insert disk_id s.locks }).2) := by
  have hlost : (s.snapshots.select
      fun _ row => row.disk_id = disk_id && row.name ∈ snapnames && row.status = .LOST).map Prod.fst = [] := by
    rw [List.map_eq_nil_iff, List.eq_nil_iff_forall_not_mem]
    intro e he
    obtain ⟨hlookup, hrow⟩ := Table.mem_select.mp he
    obtain ⟨hrow, hstatus⟩ := Bool.and_eq_true_iff.mp hrow
    have hmem : e ∈ found := hfound ▸ Table.mem_select.mpr ⟨hlookup, hrow⟩
    have hstatus := of_decide_eq_true hstatus
    rw [hok e hmem] at hstatus
    cases hstatus
  have hbad : (found.any fun snap => snap.2.status ≠ .OK) = false := by
    apply List.any_eq_false.mpr
    intro e he
    simp [hok e he]
  simp only [VmSnapshotList.delete, Program.run_op, exec, hfound, hsome, if_false, Bool.not_true, Bool.false_eq_true,
    hlost, ne_eq, not_true, hbad]
  exact run_execute hlock _

end runs

end requests

section callbacks

inductive Action
  | POST
  | PUT
  | DELETE
  deriving DecidableEq

/-- The result of a task: its return code, whether a freeze failed, and for a rollback whether it was
forced and the disk of another VM that it was for. -/
structure Result where
  returncode : ℤ
  freeze_failed : Bool
  force : Bool
  other_vm : Bool
  deriving DecidableEq

def _vm_snapshot_cb_failed (id : ℕ) (action : Action) : Prog Unit :=
  match action with
  | .POST => .op (.delete [id]) .done
  | .PUT | .DELETE => .op (.save_status [id] .OK) .done

/-- The snapshots of another VM are not in this table. The retention asks for a deletion of a list. -/
def vm_snapshot_cb (result : Result) (id : ℕ) (action : Action) : Prog (Except Error Unit) :=
  .op (.get_by_id id) fun snap =>
    match snap with
    | none => .done (.error .ObjectNotFound)
    | some snap =>
      if result.returncode = 0 then
        match action with
        | .POST => .op (.save_status [id] .OK) fun _ =>
          .op (.save_fsfreeze id (snap.fsfreeze && !result.freeze_failed)) fun _ => .done (.ok ())
        | .PUT => .op (.save_status [id] .OK) fun _ =>
          if result.force ∧ !result.other_vm then .op (.delete_after snap.disk_id id) fun _ => .done (.ok ())
          else .done (.ok ())
        | .DELETE => .op (.delete [id]) fun _ => .done (.ok ())
      else do
        _vm_snapshot_cb_failed id action
        .done (.error .TaskException)

section created

variable {s : Store} {id : ℕ} {snap : Snapshot} {result : Result}

theorem run_cb_created (hlookup : s.snapshots.rows.lookup id = some snap) (hsuccess : result.returncode = 0) :
    (vm_snapshot_cb result id .POST).run exec s = (.ok (),
      (exec (.save_fsfreeze id (snap.fsfreeze && !result.freeze_failed)) (exec (.save_status [id] .OK) s).2).2) := by
  have hget : exec (.get_by_id id) s = (some snap, s) := Prod.ext hlookup rfl
  rw [vm_snapshot_cb, Program.run_op, hget]
  simp only [hsuccess, if_true]
  rfl

theorem run_cb_failed (hlookup : s.snapshots.rows.lookup id = some snap) (hsuccess : result.returncode ≠ 0) :
    (vm_snapshot_cb result id .POST).run exec s = (.error .TaskException, (exec (.delete [id]) s).2) := by
  have hget : exec (.get_by_id id) s = (some snap, s) := Prod.ext hlookup rfl
  rw [vm_snapshot_cb, Program.run_op, hget]
  simp only [hsuccess, if_false]
  rfl

end created

def vm_snapshot_list_cb (result : Result) (snap_ids : List ℕ) : Prog (Except Error Unit) :=
  if result.returncode = 0 then .op (.delete snap_ids) fun _ => .done (.ok ())
  else .op (.save_status snap_ids .OK) fun _ => .done (.error .TaskException)

/-- The task lets go of its lock when its command has ended and the callback is on its way. -/
def _execute (disk_id : ℕ) : Prog Unit := .op (.unlock disk_id) .done

end callbacks

inductive Call
  | post (request : Request)
  | delete (request : Request)
  | list_delete (disk_id : ℕ) (snapnames : List String) (valid reachable : Bool)
  | _execute (disk_id : ℕ)
  | vm_snapshot_cb (result : Result) (id : ℕ) (action : Action)
  | vm_snapshot_list_cb (result : Result) (snap_ids : List ℕ)

def Call.program (limits : SnapType → Option ℤ) : Call → Prog Unit
  | .post request => do let _ ← VmSnapshot.post limits request
  | .delete request => do let _ ← VmSnapshot.delete request
  | .list_delete disk_id snapnames valid reachable => do
    let _ ← VmSnapshotList.delete disk_id snapnames valid reachable
  | ._execute disk_id => snapshot._execute disk_id
  | .vm_snapshot_cb result id action => do let _ ← snapshot.vm_snapshot_cb result id action
  | .vm_snapshot_list_cb result snap_ids => do let _ ← snapshot.vm_snapshot_list_cb result snap_ids

end api.vm.snapshot
