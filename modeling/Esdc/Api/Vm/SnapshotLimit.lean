import Mathlib
import Esdc.Lib.Watched
import Esdc.Api.Vm.Snapshot

namespace api.vm.snapshot

open interleave
open transition

/-- The VM has no more snapshots of a type than its limit. -/
def Within (limits : SnapType → Option ℤ) (s : Store) : Prop :=
  ∀ type limit, limits type = some limit → (s.total type : ℤ) ≤ limit

/-- There is room for a row that is inserted. -/
def Op.Fits (limits : SnapType → Option ℤ) (s : Store) : Op → Prop
  | .insert snap => ∀ limit, limits snap.type = some limit → s.snapshots.taken snap.key = false →
      (s.total snap.type : ℤ) < limit
  | _ => True

variable {limits : SnapType → Option ℤ}

section within

variable {s : Store} (hwithin : Within limits s)

include hwithin in
theorem within_delete (p : ℕ → Snapshot → Bool) : Within limits { s with snapshots := s.snapshots.delete p } := by
  intro type limit hlimit
  have hle := s.snapshots.count_delete_le (fun _ row => row.type = type) p
  exact (Int.ofNat_le.mpr hle).trans (hwithin type limit hlimit)

include hwithin in
theorem within_update {f : ℕ → Snapshot → Snapshot} (hkey : ∀ id row, (f id row).key = row.key)
    (htype : ∀ id row, (f id row).type = row.type) :
    Within limits { s with snapshots := s.snapshots.update f hkey } := by
  intro type limit hlimit
  have hsame := s.snapshots.count_update (fun _ row => row.type = type) hkey fun id row => by rw [htype]
  rw [Store.total, hsame]
  exact hwithin type limit hlimit

end within

/-- Only an insertion can exceed a limit. -/
theorem within_exec_iff {s : Store} (hwithin : Within limits s) (o : Op) :
    Within limits (exec o s).2 ↔ o.Fits limits s := by
  cases o with
  | insert snap =>
    by_cases hfree : s.snapshots.taken snap.key = false
    · simp only [exec, hfree, dif_pos]
      have htotal : ∀ type, Store.total { s with snapshots := s.snapshots.insert snap hfree } type =
          s.total type + if snap.type = type then 1 else 0 := by
        intro type
        rw [Store.total, Table.count_insert]
        simp only [decide_eq_true_eq]
        rfl
      constructor
      · intro hwithin' limit hlimit _
        have hbound := hwithin' snap.type limit hlimit
        rw [htotal, if_pos rfl] at hbound
        omega
      · intro hfits type limit hlimit
        rw [htotal]
        have hbound := hwithin type limit hlimit
        split
        · case isTrue htype =>
          subst htype
          have hroom := hfits limit hlimit hfree
          omega
        · exact_mod_cast hbound
    · refine iff_of_true ?_ fun limit _ hnot => absurd hnot hfree
      simp only [exec, hfree]
      exact hwithin
  | save_status ids status =>
    refine iff_of_true (within_update hwithin _ fun id row => ?_) trivial
    split <;> rfl
  | save_fsfreeze id fsfreeze =>
    refine iff_of_true (within_update hwithin _ fun id row => ?_) trivial
    split <;> rfl
  | delete | delete_after => exact iff_of_true (within_delete hwithin _) trivial
  | execute disk_id reachable =>
    refine iff_of_true ?_ trivial
    simp only [exec]
    split <;> exact hwithin
  | get | get_by_id | get_names | get_ids | count | unlock => exact iff_of_true hwithin trivial

section counted

/-- What a request has counted last. -/
abbrev Counted := Option (SnapType × ℕ)

def learn : (o : Op) → o.Resp → Counted → Counted
  | .count type, total, _ => some (type, total)
  | _, _, counted => counted

def Op.counts : Op → Bool
  | .count _ => true
  | _ => false

def watch : Watch Op Op.Resp Call Counted where
  init := none
  start := fun _ => none
  learn
  looks := Op.counts

/-- The rows of a type that have been inserted between the stores. -/
def inserted (type : SnapType) : List Store → ℕ
  | after :: before :: rest => (after.total type - before.total type) + inserted type (before :: rest)
  | _ => 0

def deleted (type : SnapType) : List Store → ℕ
  | after :: before :: rest => (before.total type - after.total type) + deleted type (before :: rest)
  | _ => 0

/-- A row with a limit is only inserted after a count that has found room for it. -/
def Op.Checked (limits : SnapType → Option ℤ) (counted : Counted) : Op → Prop
  | .insert snap => ∀ limit, limits snap.type = some limit → ∃ total, counted = some (snap.type, total) ∧ (total : ℤ) < limit
  | _ => True

theorem create_checked {request : Request} {counted : Counted}
    (hcounted : (Op.insert request.snap).Checked limits counted) :
    (VmSnapshot.create request).Knows learn (fun counted o => o.Checked limits counted) counted := by
  refine ⟨hcounted, fun id => ?_⟩
  cases id with
  | none => trivial
  | some id =>
    refine ⟨trivial, fun tid => ?_⟩
    dsimp only
    split
    · trivial
    · exact ⟨trivial, fun _ => trivial⟩

/-- The check of the limit comes before the insertion. -/
theorem post_checked (limits : SnapType → Option ℤ) (request : Request) (counted : Counted) :
    (VmSnapshot.post limits request).Knows learn (fun counted o => o.Checked limits counted) counted := by
  refine ⟨trivial, fun snap => ?_⟩
  dsimp only
  split
  · trivial
  split
  · trivial
  unfold VmSnapshot._check_snap_limit
  cases hlimit : limits request.snaptype with
  | none =>
    rw [Program.done_bind]
    dsimp only
    split
    · trivial
    · refine create_checked fun limit hsome => ?_
      rw [show request.snap.type = request.snaptype from rfl, hlimit] at hsome
      cases hsome
  | some limit =>
    refine ⟨trivial, fun total => ?_⟩
    beta_reduce
    by_cases hroom : limit ≤ (total : ℤ)
    · rw [if_pos hroom]
      trivial
    · rw [if_neg hroom]
      change Program.Knows learn _ (if !request.size_limits then _ else _) _
      split
      · trivial
      · refine create_checked fun limit' hsome => ⟨total, rfl, ?_⟩
        rw [show request.snap.type = request.snaptype from rfl, hlimit] at hsome
        cases hsome
        exact not_le.mp hroom

def Op.InsertsNothing : Op → Prop
  | .insert _ => False
  | _ => True

theorem Op.InsertsNothing.checked {o : Op} (ho : o.InsertsNothing) (counted : Counted) : o.Checked limits counted := by
  cases o with
  | insert => exact ho.elim
  | _ => trivial

theorem delete_inserts_nothing (request : Request) : (VmSnapshot.delete request).All Op.InsertsNothing := by
  refine ⟨trivial, fun found => ?_⟩
  cases found with
  | none => trivial
  | some found =>
    dsimp only
    split_ifs
    · trivial
    · exact ⟨trivial, fun _ => trivial⟩
    · trivial
    · refine ⟨trivial, fun tid => ?_⟩
      dsimp only
      split
      · exact ⟨trivial, fun _ => trivial⟩
      · trivial

theorem execute_inserts_nothing (disk_id : ℕ) (snap_ids : List ℕ) (reachable : Bool) :
    (VmSnapshotList.execute disk_id snap_ids reachable).All Op.InsertsNothing := by
  refine ⟨trivial, fun tid => ?_⟩
  dsimp only
  split
  · exact ⟨trivial, fun _ => trivial⟩
  · trivial

theorem list_delete_inserts_nothing (disk_id : ℕ) (snapnames : List String) (valid reachable : Bool) :
    (VmSnapshotList.delete disk_id snapnames valid reachable).All Op.InsertsNothing := by
  refine ⟨trivial, fun snaps => ?_⟩
  dsimp only
  split
  · trivial
  split
  · trivial
  refine ⟨trivial, fun snaps_lost => ?_⟩
  dsimp only
  split
  · refine ⟨trivial, fun _ => ⟨trivial, fun snap_ids => ?_⟩⟩
    dsimp only
    split
    · trivial
    · exact execute_inserts_nothing _ _ _
  split
  · trivial
  · exact execute_inserts_nothing _ _ _

theorem cb_inserts_nothing (result : Result) (id : ℕ) (action : Action) :
    (vm_snapshot_cb result id action).All Op.InsertsNothing := by
  refine ⟨trivial, fun snap => ?_⟩
  cases snap with
  | none => trivial
  | some snap =>
    dsimp only
    split
    · cases action with
      | POST => exact ⟨trivial, fun _ => ⟨trivial, fun _ => trivial⟩⟩
      | PUT =>
        refine ⟨trivial, fun _ => ?_⟩
        dsimp only
        split
        · exact ⟨trivial, fun _ => trivial⟩
        · trivial
      | DELETE => exact ⟨trivial, fun _ => trivial⟩
    · cases action with
      | POST => exact ⟨trivial, fun _ => trivial⟩
      | PUT | DELETE => exact ⟨trivial, fun _ => trivial⟩

theorem list_cb_inserts_nothing (result : Result) (snap_ids : List ℕ) :
    (vm_snapshot_list_cb result snap_ids).All Op.InsertsNothing := by
  unfold vm_snapshot_list_cb
  split <;> exact ⟨trivial, fun _ => trivial⟩

theorem program_checked (limits : SnapType → Option ℤ) (call : Call) :
    (call.program limits).Knows learn (fun counted o => o.Checked limits counted) none := by
  have hother {α : Type} {program : Prog α} (hprogram : program.All Op.InsertsNothing) :
      (do let _ ← program : Prog Unit).Knows learn (fun counted o => o.Checked limits counted) none := by
    have hall : (do let _ ← program : Prog Unit).All Op.InsertsNothing := hprogram.bind fun _ => trivial
    exact hall.knows (I := fun _ => True) (fun _ _ ho _ => ho.checked _) (fun _ _ _ _ _ => trivial) trivial
  cases call with
  | post request => exact (post_checked limits request none).bind fun _ _ => trivial
  | delete request => exact hother (delete_inserts_nothing request)
  | list_delete disk_id snapnames valid reachable =>
    exact hother (list_delete_inserts_nothing disk_id snapnames valid reachable)
  | _execute disk_id => exact ⟨trivial, fun _ => trivial⟩
  | vm_snapshot_cb result id action => exact hother (cb_inserts_nothing result id action)
  | vm_snapshot_list_cb result snap_ids => exact hother (list_cb_inserts_nothing result snap_ids)

end counted

section runs

variable {Pid : Type}

/-- When a request inserts a row with a limit, no row of the type has been inserted
since its count, or what it has counted leaves room for those inserted and not deleted since. -/
def Keeps (limits : SnapType → Option ℤ) (w : Watched Pid Op Op.Resp Store Counted) : interleave.Event Pid Call → Prop
  | .start _ _ => True
  | .run pid => ∀ snap next limit, w.system.calls pid = some (.op (.insert snap) next) →
      w.system.store.snapshots.taken snap.key = false → limits snap.type = some limit →
      inserted snap.type (w.since pid) = 0 ∨ ∀ total, w.known pid = some (snap.type, total) →
        (total : ℤ) + inserted snap.type (w.since pid) - deleted snap.type (w.since pid) < limit

theorem Keeps.of_other {w : Watched Pid Op Op.Resp Store Counted} {pid : Pid} {o : Op} {next : o.Resp → Prog Unit}
    (hcall : w.system.calls pid = some (.op o next)) (ho : o.InsertsNothing) : Keeps limits w (.run pid) := by
  intro snap next' limit hcall'
  rw [hcall] at hcall'
  cases hcall'
  exact ho.elim

theorem Keeps.of_insert {w : Watched Pid Op Op.Resp Store Counted} {pid : Pid} {snap : Snapshot}
    {next : (Op.insert snap).Resp → Prog Unit} (hcall : w.system.calls pid = some (.op (.insert snap) next))
    (hleft : ∀ limit, limits snap.type = some limit →
      inserted snap.type (w.since pid) = 0 ∨ ∀ total, w.known pid = some (snap.type, total) →
        (total : ℤ) + inserted snap.type (w.since pid) - deleted snap.type (w.since pid) < limit) :
    Keeps limits w (.run pid) := by
  intro snap' next' limit hcall' _ hlimit
  rw [hcall] at hcall'
  cases hcall'
  exact hleft limit hlimit

/-- What a request has counted and what has happened since give the rows that are there. -/
def Tracked (w : Watched Pid Op Op.Resp Store Counted) : Prop :=
  ∀ pid type total, w.known pid = some (type, total) →
    w.system.store.total type + deleted type (w.since pid) = total + inserted type (w.since pid)

theorem tracked_cons {type : SnapType} {before after : Store} {rest : List Store} {total : ℕ}
    (htracked : before.total type + deleted type (before :: rest) = total + inserted type (before :: rest)) :
    after.total type + deleted type (after :: before :: rest) = total + inserted type (after :: before :: rest) := by
  rw [deleted, inserted]
  omega

theorem learn_cases (o : Op) (s : Store) (counted : Counted) :
    (∃ type, o = .count type ∧ learn o (exec o s).1 counted = some (type, s.total type) ∧ (exec o s).2 = s) ∨
      (o.counts = false ∧ learn o (exec o s).1 counted = counted) := by
  cases o with
  | count type => exact .inl ⟨type, rfl, rfl, rfl⟩
  | _ => exact .inr ⟨rfl, rfl⟩

variable [DecidableEq Pid] {w w' : Watched Pid Op Op.Resp Store Counted} {e : interleave.Event Pid Call}

theorem Tracked.step (htracked : Tracked w) (hfollowed : w.Followed)
    (hstep : watch.step exec (Call.program limits) w e = some w') : Tracked w' := by
  rcases Watch.step_cases hstep with ⟨pid, call, -, -, rfl⟩ | ⟨pid, value, -, -, rfl⟩ | ⟨pid, o, next, -, -, rfl⟩
  · intro pid' type total hknown
    by_cases hpid : pid' = pid
    · simp only [hpid, Function.update_self] at hknown
      cases hknown
    · simp only [Function.update_of_ne hpid] at hknown ⊢
      exact htracked pid' type total hknown
  · exact htracked
  · intro pid' type total hknown
    obtain ⟨rest, hrest⟩ := hfollowed.current pid'
    have hothers (hcounted : w.known pid' = some (type, total)) : (exec o w.system.store).2.total type +
        deleted type ((exec o w.system.store).2 :: w.since pid') =
          total + inserted type ((exec o w.system.store).2 :: w.since pid') := by
      have hbefore := htracked pid' type total hcounted
      rw [hrest] at hbefore ⊢
      exact tracked_cons hbefore
    dsimp only at hknown ⊢
    by_cases hpid : pid' = pid
    · subst hpid
      rw [Function.update_self] at hknown
      have hknown : learn o (exec o w.system.store).1 (w.known pid') = some (type, total) := hknown
      rcases learn_cases o w.system.store (w.known pid') with ⟨type', rfl, hlearn, hstore⟩ | ⟨hcounts, hlearn⟩
      · rw [hlearn] at hknown
        cases hknown
        rw [if_pos ⟨rfl, rfl⟩, hstore]
        rfl
      · rw [hlearn] at hknown
        rw [if_neg fun h => by rw [show watch.looks o = o.counts from rfl, hcounts] at h; cases h.2]
        exact hothers hknown
    · rw [Function.update_of_ne hpid] at hknown
      rw [if_neg fun h => hpid h.1]
      exact hothers hknown

/-- The invariant of the runs. -/
structure Sound (limits : SnapType → Option ℤ) (w : Watched Pid Op Op.Resp Store Counted) : Prop where
  followed : w.Followed
  tracked : Tracked w
  informed : w.Informed watch fun counted o => o.Checked limits counted

omit [DecidableEq Pid] in
theorem sound_idle (limits : SnapType → Option ℤ) (store : Store) :
    Sound limits (watch.idle store : Watched Pid Op Op.Resp Store Counted) where
  followed := Watched.followed_idle store
  tracked := by
    intro _ _ _ hknown
    cases hknown
  informed := Watched.informed_idle _ store

theorem Sound.step (hsound : Sound limits w) (hstep : watch.step exec (Call.program limits) w e = some w') :
    Sound limits w' where
  followed := hsound.followed.step hstep
  tracked := hsound.tracked.step hsound.followed hstep
  informed := hsound.informed.step (program_checked limits) hstep

omit [DecidableEq Pid] in
/-- A request that has checked the limit finds room exactly if the condition is met. -/
theorem fits_iff (hsound : Sound limits w) {pid : Pid} {snap : Snapshot} {next : (Op.insert snap).Resp → Prog Unit}
    (hcall : w.system.calls pid = some (.op (.insert snap) next)) :
    (Op.insert snap).Fits limits w.system.store ↔ Keeps limits w (.run pid) := by
  have hchecked := (hsound.informed pid _ hcall).1
  constructor
  · intro hfits snap' next' limit hcall' hfree hlimit
    rw [hcall] at hcall'
    cases hcall'
    refine .inr fun total hknown => ?_
    have hroom := hfits limit hlimit hfree
    have htracked := hsound.tracked pid snap.type total hknown
    omega
  · intro hkeeps limit hlimit hfree
    obtain ⟨total, hknown, hroom⟩ := hchecked limit hlimit
    have htracked := hsound.tracked pid snap.type total hknown
    rcases hkeeps snap next limit hcall hfree hlimit with hnone | hleft
    · omega
    · have hleft := hleft total hknown
      omega

theorem within_step_iff (hsound : Sound limits w) (hwithin : Within limits w.system.store)
    (hstep : watch.step exec (Call.program limits) w e = some w') :
    Within limits w'.system.store ↔ Keeps limits w e := by
  rcases Watch.step_cases hstep with ⟨pid, call, rfl, -, rfl⟩ | ⟨pid, value, rfl, hcall, rfl⟩ |
    ⟨pid, o, next, rfl, hcall, rfl⟩
  · exact iff_of_true hwithin trivial
  · refine iff_of_true hwithin fun snap next limit hnext => ?_
    rw [hcall] at hnext
    cases hnext
  · rw [within_exec_iff hwithin]
    cases o with
    | insert snap => exact fits_iff hsound hcall
    | _ =>
      refine iff_of_true trivial fun snap next limit hnext => ?_
      rw [hcall] at hnext
      cases hnext

end runs

/-- A manual snapshot of a disk. -/
def manual (disk_id : ℕ) : Request where
  disk_id := disk_id
  snapname := "snap"
  define_id := none
  fsfreeze := false
  valid := true
  size_limits := true
  reachable := true

/-- At most so many manual snapshots are allowed. -/
def at_most (limit : ℤ) : SnapType → Option ℤ
  | .AUTO => none
  | .MANUAL => some limit

def none_taken : Store := ⟨.empty, ∅⟩

theorem within_empty {limit : ℤ} (hlimit : 0 ≤ limit) : Within (at_most limit) none_taken := by
  intro type limit' hsome
  cases type with
  | AUTO => cases hsome
  | MANUAL =>
    cases hsome
    exact hlimit

/-- Both requests count before either of them has inserted its row. -/
def two_requests : List (interleave.Event ℕ Call) :=
  [.start 0 (.post (manual 0)), .start 1 (.post (manual 1)), .run 0, .run 0, .run 1, .run 1, .run 0, .run 1]

end api.vm.snapshot
