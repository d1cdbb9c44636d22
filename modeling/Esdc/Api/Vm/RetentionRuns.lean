import Mathlib
import Esdc.Api.Vm.Retained

namespace api.vm.retaining

open transition
open vms.disk_model
open snapshot (Snapshot)
open disk_backup (Backup BackupDefine Backups)

section fewer

variable {R K : Type} {key : R → K} {model : Model R} {t u v : Table R key}

/-- No definition but perhaps one has other OK records than before. -/
def FewerBut (model : Model R) (but : Option ℕ) (t u : Table R key) : Prop :=
  ∀ define_id disk_id, but ≠ some define_id → u.ids (model.records define_id disk_id) ⊆ t.ids (model.records define_id disk_id)

theorem FewerBut.refl (but : Option ℕ) (t : Table R key) : FewerBut model but t t := fun _ _ _ => Finset.Subset.refl _

theorem FewerBut.trans {but : Option ℕ} (htu : FewerBut model but t u) (huv : FewerBut model but u v) :
    FewerBut model but t v := fun define_id disk_id hbut => (huv define_id disk_id hbut).trans (htu define_id disk_id hbut)

theorem FewerBut.of_none (hfewer : FewerBut model none t u) (but : Option ℕ) : FewerBut model but t u :=
  fun define_id disk_id _ => hfewer define_id disk_id nofun

theorem FewerBut.of_lookup {but : Option ℕ} (hlookup : ∀ id row, u.rows.lookup id = some row → ∀ define_id disk_id,
    but ≠ some define_id → model.records define_id disk_id id row →
      ∃ old, t.rows.lookup id = some old ∧ model.records define_id disk_id id old) : FewerBut model but t u := by
  intro define_id disk_id hbut id hid
  obtain ⟨row, hrow, hrecord⟩ := Table.mem_ids.mp hid
  exact Table.mem_ids.mpr (hlookup id row hrow define_id disk_id hbut hrecord)

theorem fewer_delete (t : Table R key) (p : ℕ → R → Bool) : FewerBut model none t (t.delete p) :=
  FewerBut.of_lookup fun _ row hlookup _ _ _ hrecord => ⟨row, ((Table.lookup_delete p).mp hlookup).1, hrecord⟩

theorem fewer_deleted {D : Finset ℕ} (hdeleted : Table.Deleted t u D) : FewerBut model none t u := by
  intro define_id disk_id _
  rw [hdeleted.ids_eq]
  exact Finset.sdiff_subset

theorem fewer_insert [DecidableEq K] (t : Table R key) {row : R} (hfree : t.taken (key row) = false)
    (hok : model.ok row = false) : FewerBut model none t (t.insert row hfree) := by
  apply FewerBut.of_lookup
  intro id row' hlookup define_id disk_id _ hrecord
  by_cases hid : id = t.next_id
  · subst hid
    rw [Table.lookup_insert_next] at hlookup
    obtain rfl := Option.some.inj hlookup
    rw [(own_of_records hrecord).2.2] at hok
    cases hok
  · exact ⟨row', (AList.lookup_insert_ne hid).symm.trans hlookup, hrecord⟩

theorem fewer_update (t : Table R key) {f : ℕ → R → R} (hkey : ∀ id row, key (f id row) = key row) {but : Option ℕ}
    (hf : ∀ id row, t.rows.lookup id = some row → ∀ define_id disk_id, but ≠ some define_id →
      model.records define_id disk_id id (f id row) → model.records define_id disk_id id row) :
    FewerBut model but t (t.update f hkey) := by
  apply FewerBut.of_lookup
  intro id row hlookup define_id disk_id hbut hrecord
  rw [Table.lookup_update, Option.map_eq_some_iff] at hlookup
  obtain ⟨old, hlookup, rfl⟩ := hlookup
  exact ⟨old, hlookup, hf id old hlookup define_id disk_id hbut hrecord⟩

theorem FewerBut.count_le {but : Option ℕ} (hfewer : FewerBut model but t u) (define_id disk_id : ℕ)
    (hbut : but ≠ some define_id) :
    u.count (model.records define_id disk_id) ≤ t.count (model.records define_id disk_id) :=
  Table.count_le_of_ids_subset (hfewer define_id disk_id hbut)

end fewer

/-- No definition has more OK records than it is to keep. -/
structure Bounded (s : State) : Prop where
  snapshots : ∀ define_id define, s.snapshot_defines.rows.lookup define_id = some define → 1 ≤ define.retention →
    (s.snapshots.snapshots.count (snapshot_model.records define_id define.disk_id) : ℤ) ≤ define.retention
  backups : ∀ define_id define, s.backup_defines.rows.lookup define_id = some define → 1 ≤ define.retention →
    (s.backups.count (backup_model.records define_id define.disk_id) : ℤ) ≤ define.retention

section backup_runs

variable {s mid : State} {define_id : ℕ} {now : String} {outcome : Outcome}

/-- A backup is refused, perhaps after it has come and gone again, or there is a new pending one. -/
theorem post_cases (disks : List ℕ) (defines : disk_backup.BackupDefines) (bkps : Backups) (bkpdef now : String)
    (request : disk_backup.Request) :
    (∃ error bkps', disk_backup.VmBackup.post disks defines bkps bkpdef now request = (.error error, bkps') ∧
      FewerBut backup_model none bkps bkps') ∨
    ∃ bkp, ∃ hfree : bkps.taken bkp.key = false,
      disk_backup.VmBackup.post disks defines bkps bkpdef now request = (.ok bkps.next_id, bkps.insert bkp hfree) ∧
      bkp.status = .PENDING ∧ get_disk_id disks request.disk_id = some bkp.disk_id ∧
      ∃ define_id define, defines.get (bkp.disk_id, bkpdef) = some (define_id, define) ∧ bkp.define = some define_id := by
  unfold disk_backup.VmBackup.post
  cases hdisk : get_disk_id disks request.disk_id with
  | none => exact Or.inl ⟨_, _, rfl, FewerBut.refl _ _⟩
  | some real_disk_id =>
    simp only
    cases hdefine : defines.get (real_disk_id, bkpdef) with
    | none => exact Or.inl ⟨_, _, rfl, FewerBut.refl _ _⟩
    | some found =>
      obtain ⟨define_id, define⟩ := found
      simp only
      split
      · case isTrue hfree =>
        split
        · exact Or.inl ⟨_, _, rfl, FewerBut.refl _ _⟩
        · split
          · exact Or.inr ⟨_, hfree, rfl, rfl, rfl, define_id, define, hdefine, rfl⟩
          · exact Or.inl ⟨_, _, rfl, (fewer_insert bkps hfree rfl).trans (fewer_delete _ _)⟩
      · exact Or.inl ⟨_, _, rfl, FewerBut.refl _ _⟩

/-- What a scheduled backup leaves to the retention. -/
theorem backup_run_spec {retained : Option (ℕ × BackupDefine)}
    (hrun : backup_run s define_id now outcome = some (mid, retained)) :
    mid = { s with backups := mid.backups } ∧ FewerBut backup_model (some define_id) s.backups mid.backups ∧
      match retained with
      | some (define_id', define) => define_id' = define_id ∧ s.backup_defines.rows.lookup define_id = some define
      | none => ∀ define, s.backup_defines.rows.lookup define_id = some define → 1 ≤ define.retention →
          FewerBut backup_model none s.backups mid.backups := by
  obtain ⟨beat, hbeat, hmap⟩ := Option.map_eq_some_iff.mp hrun
  obtain ⟨define, hdefine, hbeat⟩ := Option.bind_eq_some_iff.mp hbeat
  obtain ⟨disk_id, harray, hbeat⟩ := Option.bind_eq_some_iff.mp hbeat
  obtain rfl := Option.some.inj hbeat
  rcases post_cases s.disks s.backup_defines s.backups define.name now
      ⟨disk_id, outcome.valid && outcome.size_limits, outcome.reachable⟩ with
    ⟨error, bkps, hpost, hfewer⟩ | ⟨bkp, hfree, hpost, hpending, hdisk, define_id', define', hget, hbkp⟩
  · rw [hpost] at hmap
    obtain ⟨rfl, rfl⟩ := Prod.mk.inj hmap
    exact ⟨rfl, hfewer.of_none _, fun _ _ _ => hfewer⟩
  · -- the definition that the request finds is the one that is due
    have hdisk : bkp.disk_id = define.disk_id :=
      Option.some.inj (hdisk.symm.trans (get_disk_id_array_disk_id harray))
    have hsame : s.backup_defines.get (define.disk_id, define.name) = some (define_id, define) :=
      Table.get_eq_some.mpr ⟨hdefine, rfl⟩
    rw [hdisk, hsame] at hget
    obtain ⟨rfl, rfl⟩ := Prod.mk.inj (Option.some.inj hget)
    rw [hpost] at hmap
    have hnew := Table.lookup_insert_next hfree
    have hinsert : FewerBut backup_model none s.backups (s.backups.insert bkp hfree) :=
      fewer_insert s.backups hfree (by simp [backup_model, hpending])
    simp only [vm_backup_cb, hnew, hbkp, Option.bind_some, hdefine, Option.map_some, disk_backup.vm_backup_cb_post] at hmap
    by_cases hsuccess : outcome.success = true
    · simp only [hsuccess, Bool.not_true, Bool.false_eq_true, if_false, if_true] at hmap
      have hsave : FewerBut backup_model (some define_id) s.backups
          (disk_backup.save_status (s.backups.insert bkp hfree) [s.backups.next_id] .OK) := by
        refine (hinsert.of_none _).trans (fewer_update _ _ fun id row hlookup define_id' disk_id' hbut hrecord => ?_)
        by_cases hid : id ∈ [s.backups.next_id]
        · -- the new one belongs to the definition that is due
          obtain rfl := List.mem_singleton.mp hid
          obtain rfl := Option.some.inj (hnew.symm.trans hlookup)
          rw [if_pos hid] at hrecord
          exact absurd (hbkp.symm.trans (own_of_records hrecord).2.1) hbut
        · rwa [if_neg hid] at hrecord
      split at hmap
      · obtain ⟨rfl, rfl⟩ := Prod.mk.inj hmap
        exact ⟨rfl, hsave, rfl, hdefine⟩
      · case isFalse hretention =>
        obtain ⟨rfl, rfl⟩ := Prod.mk.inj hmap
        refine ⟨rfl, hsave, fun define' hdefine' hpositive => absurd ⟨?_, hdisk⟩ hretention⟩
        obtain rfl := Option.some.inj (hdefine.symm.trans hdefine')
        omega
    · simp only [hsuccess, Bool.not_false, if_true, Bool.false_eq_true, if_false] at hmap
      obtain ⟨rfl, rfl⟩ := Prod.mk.inj hmap
      have hfewer := hinsert.trans (fewer_delete _ fun id' _ => id' = s.backups.next_id)
      exact ⟨rfl, hfewer.of_none _, fun _ _ _ => hfewer⟩

end backup_runs

section snapshot_runs

theorem fewer_save_status {t : Snapshots} {but : Option ℕ} {ids : List ℕ} {status : snapshot.SnapStatus}
    (hids : ∀ id ∈ ids, ∀ row, t.rows.lookup id = some row → status = .OK → row.define_id = but) :
    FewerBut snapshot_model but t (snapshot.save_status t ids status) := by
  refine fewer_update _ _ fun id row hlookup define_id disk_id hbut hrecord => ?_
  by_cases hid : id ∈ ids
  · rw [if_pos hid] at hrecord
    obtain ⟨-, hdefine, hok⟩ := own_of_records hrecord
    exact absurd ((hids id hid row hlookup (of_decide_eq_true hok)).symm.trans hdefine) hbut
  · rwa [if_neg hid] at hrecord

theorem fewer_save_fsfreeze (t : Snapshots) (id : ℕ) (fsfreeze : Bool) :
    FewerBut snapshot_model none t (snapshot.save_fsfreeze t id fsfreeze) := by
  refine fewer_update _ _ fun id' row _ define_id disk_id _ hrecord => ?_
  split at hrecord <;> exact hrecord

variable {s mid : State} {define_id : ℕ} {now : String} {outcome : Outcome}

/-- A scheduled snapshot that is refused adds nothing, a new one is pending and its disk is locked. -/
theorem run_post_fewer (s : State) (request : snapshot.Request) :
    (∃ error store, (snapshot.VmSnapshot.post s.limits request).run snapshot.exec s.snapshots = (.error error, store) ∧
      FewerBut snapshot_model none s.snapshots.snapshots store.snapshots) ∨
    ∃ hfree : s.snapshots.snapshots.taken request.snap.key = false,
      (snapshot.VmSnapshot.post s.limits request).run snapshot.exec s.snapshots =
        (.ok s.snapshots.snapshots.next_id,
          ⟨s.snapshots.snapshots.insert request.snap hfree, insert request.disk_id s.snapshots.locks⟩) := by
  rcases snapshot.run_post_cases s.limits s.snapshots request with ⟨error, hpost⟩ | ⟨-, hpost⟩
  · exact Or.inl ⟨error, _, hpost, FewerBut.refl _ _⟩
  · rw [hpost]
    rcases snapshot.run_create_cases s.snapshots request with ⟨hfree, hcreate⟩ | ⟨hfree, hcreate⟩ | hcreate
    · exact Or.inr ⟨hfree, hcreate⟩
    · exact Or.inl ⟨_, _, hcreate, (fewer_insert _ hfree rfl).trans (fewer_delete _ _)⟩
    · exact Or.inl ⟨_, _, hcreate, FewerBut.refl _ _⟩

/-- What a scheduled snapshot leaves to the retention. -/
theorem snapshot_run_spec {retained : Option (ℕ × SnapshotDefine)}
    (hrun : snapshot_run s define_id now outcome = some (mid, retained)) :
    mid = { s with snapshots := mid.snapshots } ∧
      FewerBut snapshot_model (some define_id) s.snapshots.snapshots mid.snapshots.snapshots ∧
      match retained with
      | some (define_id', define) => define_id' = define_id ∧ s.snapshot_defines.rows.lookup define_id = some define ∧
          define.disk_id ∉ mid.snapshots.locks ∧ (array_disk_id s.disks define.disk_id).isSome
      | none => ∀ define, s.snapshot_defines.rows.lookup define_id = some define → 1 ≤ define.retention →
          FewerBut snapshot_model none s.snapshots.snapshots mid.snapshots.snapshots := by
  obtain ⟨beat, hbeat, hmap⟩ := Option.map_eq_some_iff.mp hrun
  obtain ⟨define, hdefine, hbeat⟩ := Option.bind_eq_some_iff.mp hbeat
  obtain ⟨disk_id, harray, hbeat⟩ := Option.bind_eq_some_iff.mp hbeat
  obtain ⟨real_disk_id, hdisk, hbeat⟩ := Option.bind_eq_some_iff.mp hbeat
  obtain rfl : define.disk_id = real_disk_id := Option.some.inj ((get_disk_id_array_disk_id harray).symm.trans hdisk)
  obtain rfl := Option.some.inj hbeat
  let request : snapshot.Request := ⟨define.disk_id, define.generate_snapshot_name now, some define_id, define.fsfreeze,
    outcome.valid, outcome.size_limits, outcome.reachable⟩
  rcases run_post_fewer s request with ⟨error, store, hpost, hfewer⟩ | ⟨hfree, hpost⟩
  · simp only [request] at hpost
    rw [hpost] at hmap
    obtain ⟨rfl, rfl⟩ := Prod.mk.inj hmap
    exact ⟨rfl, hfewer.of_none _, fun _ _ _ => hfewer⟩
  · simp only [request] at hpost
    rw [hpost] at hmap
    have hnew := Table.lookup_insert_next hfree
    have hinsert : FewerBut snapshot_model none s.snapshots.snapshots (s.snapshots.snapshots.insert request.snap hfree) :=
      fewer_insert _ hfree rfl
    let unlocked : snapshot.Store :=
      ⟨s.snapshots.snapshots.insert request.snap hfree, (insert define.disk_id s.snapshots.locks).erase define.disk_id⟩
    have hend : vm_snapshot_cb { s with
        snapshots := ⟨s.snapshots.snapshots.insert request.snap hfree, insert define.disk_id s.snapshots.locks⟩ }
        s.snapshots.snapshots.next_id outcome = (mid, retained) := hmap
    have hunlock : ((snapshot._execute request.snap.disk_id).run snapshot.exec
      ⟨s.snapshots.snapshots.insert request.snap hfree, insert define.disk_id s.snapshots.locks⟩).2 = unlocked := rfl
    simp only [vm_snapshot_cb, hnew] at hend
    by_cases hsuccess : outcome.success = true
    · have hreturn : outcome.result.returncode = 0 := by
        unfold Outcome.result
        exact if_pos hsuccess
      have hcb := snapshot.run_cb_created (s := unlocked) hnew hreturn
      have hdue : (request.snap.define_id.bind fun define_id =>
          (s.snapshot_defines.rows.lookup define_id).map (define_id, ·)) = some (define_id, define) := by
        change (some define_id).bind _ = _
        rw [Option.bind_some, hdefine]
        rfl
      rw [hunlock, hcb] at hend
      simp only [hdue] at hend
      let saved : snapshot.Store := (snapshot.exec (.save_fsfreeze s.snapshots.snapshots.next_id
        (request.snap.fsfreeze && !outcome.result.freeze_failed))
          (snapshot.exec (.save_status [s.snapshots.snapshots.next_id] .OK) unlocked).2).2
      have hsave : FewerBut snapshot_model (some define_id) s.snapshots.snapshots saved.snapshots := by
        -- the new one belongs to the definition that is due
        have hstatus : FewerBut snapshot_model (some define_id) (s.snapshots.snapshots.insert request.snap hfree)
            (snapshot.save_status (s.snapshots.snapshots.insert request.snap hfree) [s.snapshots.snapshots.next_id] .OK) := by
          apply fewer_save_status
          intro id hid row hlookup _
          obtain rfl := List.mem_singleton.mp hid
          obtain rfl := Option.some.inj (hnew.symm.trans hlookup)
          rfl
        exact ((hinsert.of_none _).trans hstatus).trans ((fewer_save_fsfreeze _ _ _).of_none _)
      have hlock : define.disk_id ∉ saved.locks := Finset.notMem_erase _ _
      split at hend
      · obtain ⟨rfl, rfl⟩ := Prod.mk.inj hend
        exact ⟨rfl, hsave, rfl, hdefine, hlock, Option.isSome_iff_exists.mpr ⟨disk_id, harray⟩⟩
      · case isFalse hretention =>
        obtain ⟨rfl, rfl⟩ := Prod.mk.inj hend
        refine ⟨rfl, hsave, fun define' hdefine' hpositive => absurd ⟨?_, rfl⟩ hretention⟩
        obtain rfl := Option.some.inj (hdefine.symm.trans hdefine')
        omega
    · have hreturn : outcome.result.returncode ≠ 0 := by
        unfold Outcome.result
        simp [hsuccess]
      have hcb := snapshot.run_cb_failed (s := unlocked) hnew hreturn
      rw [hunlock, hcb] at hend
      simp only at hend
      obtain ⟨rfl, rfl⟩ := Prod.mk.inj hend
      have hfewer := hinsert.trans (fewer_delete _ fun id' _ => id' ∈ [s.snapshots.snapshots.next_id])
      exact ⟨rfl, hfewer.of_none _, fun _ _ _ => hfewer⟩

/-- An operation after which no definition has more OK records. -/
def AddsNothing : snapshot.Op → Prop
  | .insert _ => False
  | .save_status _ status => status ≠ .OK
  | _ => True

theorem fewer_exec {o : snapshot.Op} (ho : AddsNothing o) (store : snapshot.Store) :
    FewerBut snapshot_model none store.snapshots (snapshot.exec o store).2.snapshots := by
  cases o with
  | insert => exact ho.elim
  | save_status ids status => exact fewer_save_status fun _ _ _ _ hok => absurd hok ho
  | save_fsfreeze id fsfreeze => exact fewer_save_fsfreeze _ _ _
  | delete | delete_after => exact fewer_delete _ _
  | execute disk_id reachable =>
    simp only [snapshot.exec]
    split <;> exact FewerBut.refl _ _
  | get | get_by_id | get_names | get_ids | count | unlock => exact FewerBut.refl _ _

theorem fewer_run {α : Type} {program : snapshot.Prog α} (hprogram : program.All AddsNothing) (store : snapshot.Store) :
    FewerBut snapshot_model none store.snapshots (program.run snapshot.exec store).2.snapshots := by
  have hkeeps : ∀ (o : snapshot.Op) (u : snapshot.Store), AddsNothing o →
      FewerBut snapshot_model none store.snapshots u.snapshots →
        FewerBut snapshot_model none store.snapshots (snapshot.exec o u).2.snapshots :=
    fun o u ho hfewer => hfewer.trans (fewer_exec ho u)
  exact hprogram.run hkeeps (FewerBut.refl none store.snapshots)

theorem fewer_vm_snapshot_list_delete (s : State) (disk_id : ℕ) (snapnames : List String) :
    FewerBut snapshot_model none s.snapshots.snapshots (vm_snapshot_list_delete s disk_id snapnames).snapshots.snapshots := by
  have hexecute : ∀ real_disk_id ids, (snapshot.VmSnapshotList.execute real_disk_id ids true).All AddsNothing := by
    intro real_disk_id ids
    refine ⟨trivial, fun tid => ?_⟩
    beta_reduce
    split
    · exact ⟨nofun, fun _ => trivial⟩
    · trivial
  have hdelete : ∀ real_disk_id, (snapshot.VmSnapshotList.delete real_disk_id snapnames true true).All AddsNothing := by
    intro real_disk_id
    refine ⟨trivial, fun snaps => ?_⟩
    beta_reduce
    split
    · trivial
    · refine ⟨trivial, fun snaps_lost => ?_⟩
      beta_reduce
      split
      · refine ⟨trivial, fun _ => ⟨trivial, fun snap_ids => ?_⟩⟩
        beta_reduce
        split
        · trivial
        · exact hexecute _ _
      · split
        · trivial
        · exact hexecute _ _
  unfold vm_snapshot_list_delete
  cases get_disk_id s.disks disk_id with
  | none => exact FewerBut.refl _ _
  | some real_disk_id =>
    simp only
    split
    · exact FewerBut.refl _ _
    · have hfewer := fewer_run (hdelete real_disk_id) s.snapshots
      generalize (snapshot.VmSnapshotList.delete real_disk_id snapnames true true).run snapshot.exec s.snapshots = deleted at *
      obtain ⟨result, store⟩ := deleted
      cases result with
      | error error => exact hfewer
      | ok ids =>
        have hunlock : (snapshot._execute real_disk_id).All AddsNothing := ⟨trivial, fun _ => trivial⟩
        have hended : (snapshot.vm_snapshot_list_cb ⟨0, false, false, false⟩ ids).All AddsNothing :=
          ⟨trivial, fun _ => trivial⟩
        exact hfewer.trans ((fewer_run hunlock store).trans (fewer_run hended _))

end snapshot_runs

section update

theorem fewer_set_null_snapshots (defines : SnapshotDefines) (snapshots : Snapshots) :
    FewerBut snapshot_model none snapshots (set_null_snapshots defines snapshots) := by
  refine fewer_update _ _ fun id row _ define_id disk_id _ hrecord => ?_
  obtain ⟨hdisk, hdefine, hok⟩ := own_of_records hrecord
  have hdefine' : row.define_id = some define_id := (Option.filter_eq_some_iff.mp hdefine).1
  exact Bool.and_eq_true_iff.mpr ⟨Bool.and_eq_true_iff.mpr ⟨decide_eq_true hdisk, decide_eq_true hdefine'⟩, hok⟩

theorem fewer_set_null_backups (defines : disk_backup.BackupDefines) (bkps : Backups) :
    FewerBut backup_model none bkps (set_null_backups defines bkps) := by
  refine fewer_update _ _ fun id row _ define_id disk_id _ hrecord => ?_
  obtain ⟨hdisk, hdefine, hok⟩ := own_of_records hrecord
  have hdefine' : row.define = some define_id := (Option.filter_eq_some_iff.mp hdefine).1
  exact Bool.and_eq_true_iff.mpr ⟨Bool.and_eq_true_iff.mpr ⟨decide_eq_true hdisk, decide_eq_true hdefine'⟩, hok⟩

theorem fewer_vm_update_cb (s : State) (disks : List ℕ) :
    FewerBut snapshot_model none s.snapshots.snapshots (vm_update_cb s disks).snapshots.snapshots ∧
      FewerBut backup_model none s.backups (vm_update_cb s disks).backups :=
  ⟨(fewer_delete _ _).trans (fewer_set_null_snapshots _ _), fewer_set_null_backups _ _⟩

theorem bounded_update {s : State} (hbounded : Bounded s) (disks : List ℕ) : Bounded (vm_update_cb s disks) where
  snapshots := by
    intro define_id define hdefine hpositive
    have hcount := (fewer_vm_update_cb s disks).1.count_le define_id define.disk_id nofun
    exact (Int.ofNat_le.mpr hcount).trans
      (hbounded.snapshots define_id define ((Table.lookup_delete _).mp hdefine).1 hpositive)
  backups := by
    intro define_id define hdefine hpositive
    have hcount := (fewer_vm_update_cb s disks).2.count_le define_id define.disk_id nofun
    exact (Int.ofNat_le.mpr hcount).trans
      (hbounded.backups define_id define ((Table.lookup_delete _).mp hdefine).1 hpositive)

end update

/-- What a scheduled run is to leave behind. -/
def Retains (s : State) : Event → State → Prop
  | .snapshot_run define_id now outcome, u => ∀ mid define,
      snapshot_run s define_id now outcome = some (mid, some (define_id, define)) → 1 ≤ define.retention →
        Retained snapshot_model define_id define.disk_id define.retention mid.snapshots.snapshots u.snapshots.snapshots
  | .backup_run define_id now outcome, u => ∀ mid define,
      backup_run s define_id now outcome = some (mid, some (define_id, define)) → 1 ≤ define.retention →
        Retained backup_model define_id define.disk_id define.retention mid.backups u.backups
  | _, _ => True

/-- A scheduled backup finds the oldest backups of its definition by the position of its disk. -/
def Keeps (s : State) : Event → Prop
  | .backup_run define_id now outcome => ∀ mid define,
      backup_run s define_id now outcome = some (mid, some (define_id, define)) → 1 ≤ define.retention →
        Unmoved mid define_id define
  | _ => True

section bounded

variable {s u : State} {define_id : ℕ} (hbounded : Bounded s)

include hbounded

/-- Only the definition that is due has to be looked at. -/
theorem bounded_of_snapshots (hsame : u = { s with snapshots := u.snapshots })
    (hfewer : FewerBut snapshot_model (some define_id) s.snapshots.snapshots u.snapshots.snapshots)
    (hdue : ∀ define, s.snapshot_defines.rows.lookup define_id = some define → 1 ≤ define.retention →
      (u.snapshots.snapshots.count (snapshot_model.records define_id define.disk_id) : ℤ) ≤ define.retention) :
    Bounded u where
  snapshots := by
    intro define_id' define hdefine hpositive
    rw [hsame] at hdefine
    by_cases hid : define_id' = define_id
    · subst hid
      exact hdue define hdefine hpositive
    · have hcount := hfewer.count_le define_id' define.disk_id (by simpa using Ne.symm hid)
      exact (Int.ofNat_le.mpr hcount).trans (hbounded.snapshots define_id' define hdefine hpositive)
  backups := by
    rw [hsame]
    exact hbounded.backups

theorem bounded_of_backups (hsame : u = { s with backups := u.backups })
    (hfewer : FewerBut backup_model (some define_id) s.backups u.backups)
    (hdue : ∀ define, s.backup_defines.rows.lookup define_id = some define → 1 ≤ define.retention →
      (u.backups.count (backup_model.records define_id define.disk_id) : ℤ) ≤ define.retention) :
    Bounded u where
  snapshots := by
    rw [hsame]
    exact hbounded.snapshots
  backups := by
    intro define_id' define hdefine hpositive
    rw [hsame] at hdefine
    by_cases hid : define_id' = define_id
    · subst hid
      exact hdue define hdefine hpositive
    · have hcount := hfewer.count_le define_id' define.disk_id (by simpa using Ne.symm hid)
      exact (Int.ofNat_le.mpr hcount).trans (hbounded.backups define_id' define hdefine hpositive)

theorem bounded_of_fewer_snapshots (hsame : u = { s with snapshots := u.snapshots })
    (hfewer : FewerBut snapshot_model none s.snapshots.snapshots u.snapshots.snapshots) : Bounded u := by
  apply bounded_of_snapshots hbounded hsame (hfewer.of_none (some 0))
  intro define hdefine hpositive
  have hcount := hfewer.count_le 0 define.disk_id nofun
  exact (Int.ofNat_le.mpr hcount).trans (hbounded.snapshots 0 define hdefine hpositive)

theorem bounded_of_fewer_backups (hsame : u = { s with backups := u.backups })
    (hfewer : FewerBut backup_model none s.backups u.backups) : Bounded u := by
  apply bounded_of_backups hbounded hsame (hfewer.of_none (some 0))
  intro define hdefine hpositive
  have hcount := hfewer.count_le 0 define.disk_id nofun
  exact (Int.ofNat_le.mpr hcount).trans (hbounded.backups 0 define hdefine hpositive)

end bounded

theorem vm_snapshot_list_delete_same (s : State) (disk_id : ℕ) (snapnames : List String) :
    vm_snapshot_list_delete s disk_id snapnames =
      { s with snapshots := (vm_snapshot_list_delete s disk_id snapnames).snapshots } := by
  unfold vm_snapshot_list_delete
  split
  · rfl
  · split
    · rfl
    · simp only
      split <;> rfl

theorem fewer_vm_backup_list_delete (bkps : Backups) (disk_id : ℕ) (bkpnames : List String) :
    FewerBut backup_model none bkps (vm_backup_list_delete bkps disk_id bkpnames) := by
  obtain ⟨D, hdeleted, -⟩ := vm_backup_list_delete_cases bkps disk_id bkpnames
  exact fewer_deleted hdeleted

theorem retain_snapshots_spec (s : State) (define_id : ℕ) (define : SnapshotDefine) :
    retain_snapshots s define_id define = { s with snapshots := (retain_snapshots s define_id define).snapshots } ∧
      FewerBut snapshot_model none s.snapshots.snapshots (retain_snapshots s define_id define).snapshots.snapshots := by
  unfold retain_snapshots
  split
  · exact ⟨rfl, FewerBut.refl _ _⟩
  · exact ⟨vm_snapshot_list_delete_same _ _ _, fewer_vm_snapshot_list_delete _ _ _⟩

theorem retain_backups_spec (s : State) (define_id : ℕ) (define : BackupDefine) :
    retain_backups s define_id define = { s with backups := (retain_backups s define_id define).backups } ∧
      FewerBut backup_model none s.backups (retain_backups s define_id define).backups := by
  unfold retain_backups
  split
  · exact ⟨rfl, FewerBut.refl _ _⟩
  · exact ⟨rfl, fewer_vm_backup_list_delete _ _ _⟩

section step

variable {s u : State} {e : Event}

theorem retains_iff_keeps (hstep : step s e = some u) : Retains s e u ↔ Keeps s e := by
  cases e with
  | snapshot_run define_id now outcome =>
    refine iff_of_true (fun mid define hrun hpositive => ?_) trivial
    obtain ⟨hmid, -, -, hdefine, hlock, hdisk⟩ := snapshot_run_spec hrun
    rw [step, hrun] at hstep
    obtain rfl := Option.some.inj hstep
    have hdisks : mid.disks = s.disks := by rw [hmid]
    exact retained_snapshots (by omega) hlock (hdisks ▸ hdisk)
  | backup_run define_id now outcome =>
    refine forall_congr' fun mid => forall_congr' fun define => forall_congr' fun hrun => forall_congr' fun hpositive => ?_
    rw [step, hrun] at hstep
    obtain rfl := Option.some.inj hstep
    exact retained_backups_iff (by omega)
  | vm_update_cb | vm_snapshot_list_delete | vm_backup_list_delete => exact Iff.rfl

/-- A step that keeps the positions right leaves no definition with too many records. -/
theorem bounded_step (hbounded : Bounded s) (hkeeps : Keeps s e) (hstep : step s e = some u) : Bounded u := by
  have hretains := (retains_iff_keeps hstep).mpr hkeeps
  cases e with
  | snapshot_run define_id now outcome =>
    obtain ⟨⟨mid, retained⟩, hrun, rfl⟩ := Option.map_eq_some_iff.mp hstep
    obtain ⟨hmid, hfewer, hcase⟩ := snapshot_run_spec hrun
    cases retained with
    | none =>
      apply bounded_of_snapshots hbounded hmid hfewer
      intro define hdefine hpositive
      have hcount := (hcase define hdefine hpositive).count_le define_id define.disk_id nofun
      exact (Int.ofNat_le.mpr hcount).trans (hbounded.snapshots define_id define hdefine hpositive)
    | some due =>
      obtain ⟨define_id', define⟩ := due
      obtain ⟨rfl, hdefine, -⟩ := hcase
      obtain ⟨hsame, hless⟩ := retain_snapshots_spec mid define_id' define
      apply bounded_of_snapshots hbounded (hsame.trans (by rw [hmid])) (hfewer.trans (hless.of_none _))
      intro define' hdefine' hpositive
      obtain rfl := Option.some.inj (hdefine.symm.trans hdefine')
      exact (hretains mid define hrun hpositive).bounded
  | backup_run define_id now outcome =>
    obtain ⟨⟨mid, retained⟩, hrun, rfl⟩ := Option.map_eq_some_iff.mp hstep
    obtain ⟨hmid, hfewer, hcase⟩ := backup_run_spec hrun
    cases retained with
    | none =>
      apply bounded_of_backups hbounded hmid hfewer
      intro define hdefine hpositive
      have hcount := (hcase define hdefine hpositive).count_le define_id define.disk_id nofun
      exact (Int.ofNat_le.mpr hcount).trans (hbounded.backups define_id define hdefine hpositive)
    | some due =>
      obtain ⟨define_id', define⟩ := due
      obtain ⟨rfl, hdefine⟩ := hcase
      obtain ⟨hsame, hless⟩ := retain_backups_spec mid define_id' define
      apply bounded_of_backups hbounded (hsame.trans (by rw [hmid])) (hfewer.trans (hless.of_none _))
      intro define' hdefine' hpositive
      obtain rfl := Option.some.inj (hdefine.symm.trans hdefine')
      exact (hretains mid define hrun hpositive).bounded
  | vm_update_cb disks =>
    obtain rfl := Option.some.inj hstep
    exact bounded_update hbounded disks
  | vm_snapshot_list_delete disk_id snapnames =>
    obtain rfl := Option.some.inj hstep
    exact bounded_of_fewer_snapshots hbounded (vm_snapshot_list_delete_same _ _ _) (fewer_vm_snapshot_list_delete _ _ _)
  | vm_backup_list_delete disk_id bkpnames =>
    obtain rfl := Option.some.inj hstep
    exact bounded_of_fewer_backups hbounded rfl (fewer_vm_backup_list_delete _ _ _)

end step

/-- Scheduled runs, changes of the disks and deletions of lists, in any order: as long as the oldest backups are
found by the position of their disk, no definition ever has more records than it is to keep. A run of a snapshot
definition always does what the retention asks for, one of a backup definition exactly when they are. -/
theorem retained_iff_unmoved {s t : State} {es : List Event} (hrun : Run step Keeps s es t) (hbounded : Bounded s) :
    Bounded t ∧ ∀ e u, step t e = some u → (Retains t e u ↔ Keeps t e) :=
  ⟨hrun.invariant (fun _ _ _ hbounded hkeeps hstep => bounded_step hbounded hkeeps hstep) hbounded,
    fun _ _ hstep => retains_iff_keeps hstep⟩

/-- A scheduled run that goes well. -/
def well : Outcome where
  valid := true
  size_limits := true
  reachable := true
  success := true
  freeze_failed := false

/-- A daily backup of each of two disks, one of which is to be kept. -/
def daily (disks : List ℕ) : State where
  disks := disks
  limits := fun _ => none
  snapshots := ⟨.empty, ∅⟩
  snapshot_defines := .empty
  backups := .empty
  backup_defines := (Table.empty.insert ⟨0, "daily", 1, "backup"⟩ (by decide)).insert ⟨1, "daily", 1, "backup"⟩ (by decide)

theorem bounded_daily (disks : List ℕ) : Bounded (daily disks) where
  snapshots := fun define_id define hdefine _ => by cases hdefine
  backups := fun define_id define _ hpositive => (by decide : (0 : ℤ) ≤ 1).trans hpositive

/-- Decides whether the oldest backups of the definition that is due are found by the position of its disk. -/
def unmoved (run : State × Option (ℕ × BackupDefine)) : Bool :=
  run.2.all fun due => (excess backup_model run.1.backups due.1 due.2.disk_id due.2.retention).all fun e =>
    array_disk_id run.1.disks due.2.disk_id = some e.2.array_disk_id && e.2.node = "backup"

theorem keeps_of_unmoved {s : State} {define_id : ℕ} {now : String} {outcome : Outcome}
    (hall : (backup_run s define_id now outcome).all unmoved = true) : Keeps s (.backup_run define_id now outcome) := by
  intro mid define hrun _
  rw [hrun] at hall
  refine ⟨"backup", fun e he => ?_⟩
  simpa using List.all_eq_true.mp hall e he

/-- Two runs for a disk that stays where it is. -/
theorem retained_daily : ∃ t u : State,
    Run step Keeps (daily [0]) [.backup_run 1 "20240101_000000" well] t ∧ Bounded t ∧
      step t (.backup_run 1 "20240102_000000" well) = some u ∧ Retains t (.backup_run 1 "20240102_000000" well) u := by
  have hfirst : (backup_run (daily [0]) 1 "20240101_000000" well).all unmoved = true := by decide +kernel
  have hruns : (step (daily [0]) (.backup_run 1 "20240101_000000" well)).any (fun t =>
      (backup_run t 1 "20240102_000000" well).all unmoved && (step t (.backup_run 1 "20240102_000000" well)).isSome) =
        true := by decide +kernel
  rw [Option.any_eq_true] at hruns
  obtain ⟨t, ht, hnext⟩ := hruns
  obtain ⟨hsecond, hsome⟩ := Bool.and_eq_true_iff.mp hnext
  obtain ⟨u, hu⟩ := Option.isSome_iff_exists.mp hsome
  have hrun : Run step Keeps (daily [0]) [.backup_run 1 "20240101_000000" well] t :=
    .cons (keeps_of_unmoved hfirst) ht (.nil t)
  obtain ⟨hbounded, hiff⟩ := retained_iff_unmoved hrun (bounded_daily [0])
  exact ⟨t, u, hrun, hbounded, hu, (hiff _ u hu).mpr (keeps_of_unmoved hsecond)⟩

/-- When the first disk is removed, the backups of the second one are looked for at its new position, where those
of the first one are found. -/
theorem not_retained : ¬ ∀ (s t u : State) es e, Bounded s → Run step anyStep s es t → step t e = some u → Retains t e u := by
  intro hclaim
  have hexec : (exec step anyStep (daily [0, 1])
      [.backup_run 1 "20240101_000000" well, .backup_run 2 "20240101_000000" well, .vm_update_cb [1]]).any
        (fun t => (backup_run t 2 "20240102_000000" well).any fun run => run.2 = some (2, ⟨1, "daily", 1, "backup"⟩) &&
          (retain_backups run.1 2 ⟨1, "daily", 1, "backup"⟩).backups.count (backup_model.records 2 1) = 2) = true := by
    decide +kernel
  obtain ⟨t, hrun, htest⟩ := Run.exists_of_exec hexec
  cases hdue : backup_run t 2 "20240102_000000" well with
  | none =>
    rw [hdue] at htest
    cases htest
  | some run =>
    obtain ⟨mid, due⟩ := run
    rw [hdue] at htest
    obtain ⟨hdefine, hcount⟩ := Bool.and_eq_true_iff.mp htest
    obtain rfl := of_decide_eq_true hdefine
    have hstep : step t (.backup_run 2 "20240102_000000" well) = some (retain_backups mid 2 ⟨1, "daily", 1, "backup"⟩) := by
      rw [step, hdue]
      rfl
    have hretains := hclaim _ t _ _ _ (bounded_daily [0, 1]) hrun hstep mid _ hdue le_rfl
    have hbounded := hretains.bounded
    rw [of_decide_eq_true hcount] at hbounded
    norm_num at hbounded

end api.vm.retaining
