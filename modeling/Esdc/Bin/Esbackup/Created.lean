import Esdc.Bin.Esbackup.Create

namespace eslib.esbackup.create

open zfs (Path)
open scoped zfs
open eslib.esbackup.delete (Snapshot FilePath Storage Value Response with_status)
open Procedure (query command checked assign state Triple)

variable {fails : Step → Bool} {host : Host} {args : Args} {before : Backup}

/-- Where a snapshot is when the destination has been archived. -/
def Args.relocate (args : Args) (snap : Snapshot) : Snapshot :=
  if snap.dataset = args.destination then { snap with dataset := args.archive_ds } else snap

/-- The snapshots on the backup node, and what is reported of an archived destination. -/
def Moved (args : Args) (before : Storage) (snapshots : List Snapshot) (update_snapshots : List (Snapshot × Snapshot)) :
    Prop :=
  (snapshots = before.snapshots ∧ update_snapshots = []) ∨
    (snapshots = before.snapshots.map args.relocate ∧
      update_snapshots = (before.snapshots.filter (·.dataset = args.destination)).map fun snap =>
        (snap, { snap with dataset := args.archive_ds }))

/-- The snapshots on the source, by what is reported as deleted and by the new one. -/
def Pruned (args : Args) (before bkp : Backup) : Prop :=
  ∀ i, (⟨args.remote_ds, i⟩ : Snapshot) ∈ bkp.remote.snapshots ↔
    ((⟨args.remote_ds, i⟩ : Snapshot) ∈ before.remote.snapshots ∧ i ∉ bkp.deleted_last_snapshot_names) ∨
      bkp.last_snapshot = some i

/-- A run before the end of the transfer. -/
structure Progress (args : Args) (before bkp : Backup) : Prop where
  moved : Moved args before.node bkp.node.snapshots bkp.update_snapshots
  pruned : Pruned args before bkp
  last : ∀ i ∈ bkp.last_snapshot, i = args.id

/-- A run after the transfer. -/
structure Transferred (args : Args) (before bkp : Backup) : Prop where
  moved : ∃ snapshots, Moved args before.node snapshots bkp.update_snapshots ∧
    bkp.node.snapshots = snapshots ++ [args.backup_snapshot]
  pruned : Pruned args before bkp
  last : bkp.last_snapshot = some args.id

/-- Nothing has been done to the snapshots. -/
structure Untouched (before bkp : Backup) : Prop where
  snapshots : bkp.node.snapshots = before.node.snapshots
  datasets : bkp.node.datasets = before.node.datasets
  remote : bkp.remote = before.remote
  update : bkp.update_snapshots = []
  last : bkp.last_snapshot = none
  deleted : bkp.deleted_last_snapshot_names = []

theorem Untouched.progress {bkp : Backup} (h : Untouched before bkp) : Progress args before bkp := by
  refine ⟨.inl ⟨h.snapshots, h.update⟩, fun i => ?_, ?_⟩
  · rw [h.remote, h.deleted, h.last]
    simp
  · rw [h.last]
    intro i hi
    cases hi

/-- The snapshots of the source. -/
def remote_ids (args : Args) (before : Backup) : List Nat :=
  (before.remote.snapshots.filter (·.dataset = args.remote_ds)).map Snapshot.id

/-- The newest snapshot of the destination. -/
def newest (args : Args) (before : Backup) : Option Snapshot :=
  (before.node.snapshots.filter (·.dataset = args.destination)).getLast?

/-- The checks before the backup succeed. -/
structure Checked (args : Args) (fails : Step → Bool) (before : Backup) : Prop where
  length : ¬ args.ds.length < 3
  parent : args.parent ∈ before.node.datasets
  check_dataset : fails .check_dataset = false
  check_host : fails .check_host = false
  remote : args.remote_ds ∈ before.remote.datasets
  list_remote : fails .list_remote = false
  store_metadata : args.metadata ≠ none → fails .store_metadata = false

/-- The destination does not exist, or it is archived. -/
structure Full (args : Args) (fails : Step → Bool) (before : Backup) : Prop where
  dataset_exists : fails .dataset_exists = false
  archived : args.destination ∈ before.node.datasets →
    fails .list_local = false ∧ fails .rename = false ∧ args.archive_ds ∉ before.node.datasets ∧
      ∃ snap, newest args before = some snap ∧ snap.id ∉ remote_ids args before

/-- The snapshot for an incremental backup and those of the source that are removed. -/
inductive Destination (args : Args) (fails : Step → Bool) (before : Backup) : Option Nat × List Nat → Prop
  | full (hfull : Full args fails before) : Destination args fails before (none, remote_ids args before)
  | incremental {snap : Snapshot} (hexists : fails .dataset_exists = false)
    (hdestination : args.destination ∈ before.node.datasets) (hlist : fails .list_local = false)
    (hnewest : newest args before = some snap) (hids : snap.id ∈ remote_ids args before) :
    Destination args fails before (some snap.id, (remote_ids args before).erase snap.id)

theorem Destination.incr {result : Option Nat × List Nat} (h : Destination args fails before result) :
    ∀ i ∈ result.1, i ∈ remote_ids args before := by
  intro i hi
  cases h with
  | full _ => cases hi
  | incremental _ _ _ _ hids =>
    cases hi
    exact hids

/-- Nothing fails until the stream has arrived. -/
structure Arrives (args : Args) (fails : Step → Bool) (before : Backup) (result : Option Nat × List Nat) : Prop where
  checked : Checked args fails before
  destination : Destination args fails before result
  destroy_remaining : result.2 ≠ [] → fails .destroy_remaining = false
  create_snapshot : fails .create_snapshot = false
  backup : fails .backup = false

/-- After a stream has arrived the pipeline reports no error, and a new dataset can be made read-only. -/
def Completes (args : Args) (fails : Step → Bool) (before : Backup) : Prop :=
  ∀ result, Arrives args fails before result →
    fails .transferred = false ∧ (result.1 = none → fails .set_readonly = false)

theorem triple_store_metadata (jsonfile : Option String) :
    Triple fails (Untouched before) (_store_json_metadata_to_file jsonfile)
      (fun _ bkp => Untouched before bkp ∧ (jsonfile ≠ none → fails .store_metadata = false))
      (fun _ bkp => Untouched before bkp) := by
  cases jsonfile with
  | none => exact Triple.pure fun bkp h => ⟨h, fun hne => absurd rfl hne⟩
  | some jsonfile =>
    apply Triple.checked
    · intro bkp h _
      exact h
    · intro bkp bkp' h heffect hfails
      cases heffect
      exact ⟨⟨h.snapshots, h.datasets, h.remote, h.update, h.last, h.deleted⟩, fun _ => hfails⟩

theorem triple_prepare : Triple fails (Untouched before) (prepare args)
    (fun ids bkp => Untouched before bkp ∧ ids = remote_ids args before ∧ Checked args fails before)
    (fun _ bkp => Untouched before bkp) := by
  rw [prepare]
  refine Triple.bind (M := fun _ bkp => Untouched before bkp ∧ ¬ args.ds.length < 3) ?_ fun _ => ?_
  · split
    · exact Triple.throw fun bkp h => h
    · rename_i hlength
      exact Triple.pure fun bkp h => ⟨h, hlength⟩
  refine Triple.bind (M := fun _ bkp => Untouched before bkp ∧ ¬ args.ds.length < 3 ∧
    args.parent ∈ before.node.datasets ∧ fails .check_dataset = false) ?_ fun _ => ?_
  · apply Triple.checked
    · intro bkp h _
      exact h.1
    · intro bkp bkp' h heffect hfails
      split at heffect
      · rename_i hparent
        cases heffect
        rw [h.1.datasets] at hparent
        exact ⟨h.1, h.2, hparent, hfails⟩
      · cases heffect
  refine Triple.bind (M := fun _ bkp => Untouched before bkp ∧ ¬ args.ds.length < 3 ∧
    args.parent ∈ before.node.datasets ∧ fails .check_dataset = false ∧ fails .check_host = false) ?_ fun _ => ?_
  · apply Triple.checked
    · intro bkp h _
      exact h.1
    · intro bkp bkp' h heffect hfails
      cases heffect
      exact ⟨h.1, h.2.1, h.2.2.1, h.2.2.2, hfails⟩
  refine Triple.bind (M := fun _ bkp => Untouched before bkp ∧ ¬ args.ds.length < 3 ∧
    args.parent ∈ before.node.datasets ∧ fails .check_dataset = false ∧ fails .check_host = false) ?_ fun _ => ?_
  · apply Triple.assign
    rintro bkp ⟨h, hrest⟩
    exact ⟨⟨h.snapshots, h.datasets, h.remote, h.update, h.last, rfl⟩, hrest⟩
  refine Triple.bind (M := fun snaps bkp => Untouched before bkp ∧ ¬ args.ds.length < 3 ∧
    args.parent ∈ before.node.datasets ∧ fails .check_dataset = false ∧ fails .check_host = false ∧
    snaps.map Snapshot.id = remote_ids args before ∧ args.remote_ds ∈ before.remote.datasets ∧
    fails .list_remote = false) ?_ fun snaps => ?_
  · apply Triple.query
    · intro bkp h _
      exact h.1
    · rintro bkp snaps ⟨h, hlength, hparent, hdataset, hhost⟩ hlist hfails
      rw [h.remote, Storage.list] at hlist
      split at hlist
      · rename_i hremote
        cases hlist
        exact ⟨h, hlength, hparent, hdataset, hhost, rfl, hremote, hfails⟩
      · cases hlist
  intro bkp ⟨h, hlength, hparent, hdataset, hhost, hids, hremote, hlist⟩
  refine Triple.bind (triple_store_metadata args.metadata) (fun _ => ?_) bkp h
  exact Triple.pure fun bkp' h' => ⟨h'.1, hids, hlength, hparent, hdataset, hhost, hremote, hlist, h'.2⟩

/-- The destination has been looked at, and archived if there is no incremental backup. -/
structure Found (args : Args) (fails : Step → Bool) (before : Backup) (result : Option Nat × List Nat) (bkp : Backup) :
    Prop where
  moved : Moved args before.node bkp.node.snapshots bkp.update_snapshots
  remote : bkp.remote = before.remote
  last : bkp.last_snapshot = none
  deleted : bkp.deleted_last_snapshot_names = []
  destination : Destination args fails before result

theorem Found.progress {result : Option Nat × List Nat} {bkp : Backup} (h : Found args fails before result bkp) :
    Progress args before bkp := by
  refine ⟨h.moved, fun i => ?_, ?_⟩
  · rw [h.remote, h.deleted, h.last]
    simp
  · rw [h.last]
    intro i hi
    cases hi

theorem rename_snapshots {storage storage' : Storage} {src dst : Path} (hrename : storage.rename src dst = some storage') :
    storage'.snapshots =
        storage.snapshots.map (fun snap => if snap.dataset = src then { snap with dataset := dst } else snap) ∧
      src ∈ storage.datasets ∧ dst ∉ storage.datasets := by
  rw [Storage.rename] at hrename
  split at hrename
  · rename_i hallowed
    cases hrename
    exact ⟨rfl, hallowed⟩
  · cases hrename

theorem triple_archive {snap : Snapshot} (hnewest : newest args before = some snap)
    (hids : snap.id ∉ remote_ids args before) (hexists : fails .dataset_exists = false) (hlist : fails .list_local = false) :
    Triple fails (Untouched before)
      (do
        archive args (before.node.snapshots.filter (·.dataset = args.destination))
        return (none, remote_ids args before) : Command (Option Nat × List Nat))
      (Found args fails before) (fun _ bkp => Progress args before bkp) := by
  rw [archive, Procedure.bind_assoc]
  refine Triple.bind (M := fun _ bkp => bkp.node.snapshots = before.node.snapshots.map args.relocate ∧
    bkp.remote = before.remote ∧ bkp.last_snapshot = none ∧ bkp.deleted_last_snapshot_names = [] ∧
    fails .rename = false ∧ args.archive_ds ∉ before.node.datasets) ?_ fun _ => ?_
  · apply Triple.checked
    · intro bkp h _
      exact h.progress
    · intro bkp bkp' h heffect hfails
      obtain ⟨node, hrename, rfl⟩ := Option.map_eq_some_iff.mp heffect
      obtain ⟨hsnapshots, _, hfresh⟩ := rename_snapshots hrename
      rw [h.datasets] at hfresh
      rw [h.snapshots] at hsnapshots
      exact ⟨hsnapshots, h.remote, h.last, h.deleted, hfails, hfresh⟩
  · rintro bkp ⟨hsnapshots, hremote, hlast, hdeleted, hfails, hfresh⟩
    exact ⟨.inr ⟨hsnapshots, rfl⟩, hremote, hlast, hdeleted,
      .full ⟨hexists, fun _ => ⟨hlist, hfails, hfresh, snap, hnewest, hids⟩⟩⟩

theorem triple_find_incremental : Triple fails (Untouched before) (find_incremental args (remote_ids args before))
    (Found args fails before) (fun _ bkp => Progress args before bkp) := by
  rw [find_incremental]
  refine Triple.bind (M := fun exists_ bkp => Untouched before bkp ∧ fails .dataset_exists = false ∧
    exists_ = decide (args.destination ∈ before.node.datasets)) ?_ fun exists_ => ?_
  · apply Triple.query
    · intro bkp h _
      exact h.progress
    · intro bkp exists_ h hvalue hfails
      cases hvalue
      exact ⟨h, hfails, by rw [h.datasets]⟩
  rintro bkp ⟨h, hexists, rfl⟩
  by_cases hdestination : args.destination ∈ before.node.datasets
  · rw [decide_eq_true hdestination, if_pos rfl]
    refine Triple.bind (M := fun snaps bkp => Untouched before bkp ∧ fails .list_local = false ∧
      snaps = before.node.snapshots.filter (·.dataset = args.destination)) ?_ (fun snaps => ?_) bkp h
    · apply Triple.query
      · intro bkp h _
        exact h.progress
      · intro bkp snaps h hvalue hfails
        rw [Storage.list, h.datasets, h.snapshots, if_pos hdestination] at hvalue
        cases hvalue
        exact ⟨h, hfails, rfl⟩
    rintro bkp ⟨h, hlist, rfl⟩
    cases hnewest : (before.node.snapshots.filter (·.dataset = args.destination)).getLast? with
    | none => exact h.progress
    | some snap =>
      dsimp only
      by_cases hids : snap.id ∈ remote_ids args before
      · rw [if_pos hids]
        exact ⟨.inl ⟨h.snapshots, h.update⟩, h.remote, h.last, h.deleted,
          .incremental hexists hdestination hlist hnewest hids⟩
      · rw [if_neg hids]
        exact triple_archive hnewest hids hexists hlist bkp h
  · rw [decide_eq_false hdestination]
    exact ⟨.inl ⟨h.snapshots, h.update⟩, h.remote, h.last, h.deleted,
      .full ⟨hexists, fun hmem => absurd hmem hdestination⟩⟩

theorem destroy_snapshots_mem {storage storage' : Storage} {dataset : Path} {ids : List Nat}
    (hdestroy : storage.destroy_snapshots dataset ids = some storage') (i : Nat) :
    (⟨dataset, i⟩ : Snapshot) ∈ storage'.snapshots ↔ (⟨dataset, i⟩ : Snapshot) ∈ storage.snapshots ∧ i ∉ ids := by
  rw [eslib.esbackup.delete.mem_destroy_snapshots hdestroy]
  simp

/-- The source has been pruned before the new snapshot. -/
structure Ready (args : Args) (fails : Step → Bool) (before : Backup) (result : Option Nat × List Nat) (bkp : Backup) :
    Prop where
  moved : Moved args before.node bkp.node.snapshots bkp.update_snapshots
  pruned : Pruned args before bkp
  last : bkp.last_snapshot = none
  destination : Destination args fails before result
  destroy_remaining : result.2 ≠ [] → fails .destroy_remaining = false

theorem Ready.progress {result : Option Nat × List Nat} {bkp : Backup} (h : Ready args fails before result bkp) :
    Progress args before bkp := by
  refine ⟨h.moved, h.pruned, ?_⟩
  rw [h.last]
  intro i hi
  cases hi

theorem triple_destroy_remaining (result : Option Nat × List Nat) :
    Triple fails (Found args fails before result) (destroy_remaining args result.2)
      (fun _ => Ready args fails before result) (fun _ bkp => Progress args before bkp) := by
  rw [destroy_remaining]
  split
  · rename_i hempty
    exact Triple.pure fun bkp h => ⟨h.moved, h.progress.pruned, h.last, h.destination,
      fun hne => absurd (List.isEmpty_iff.mp hempty) hne⟩
  · refine Triple.bind (M := fun _ bkp => Moved args before.node bkp.node.snapshots bkp.update_snapshots ∧
      (∀ i, (⟨args.remote_ds, i⟩ : Snapshot) ∈ bkp.remote.snapshots ↔
        (⟨args.remote_ds, i⟩ : Snapshot) ∈ before.remote.snapshots ∧ i ∉ result.2) ∧
      bkp.last_snapshot = none ∧ Destination args fails before result ∧ fails .destroy_remaining = false) ?_
      fun _ => ?_
    · apply Triple.checked
      · intro bkp h _
        exact h.progress
      · intro bkp bkp' h heffect hfails
        obtain ⟨remote, hdestroy, rfl⟩ := Option.map_eq_some_iff.mp heffect
        rw [h.remote] at hdestroy
        exact ⟨h.moved, destroy_snapshots_mem hdestroy, h.last, h.destination, hfails⟩
    · apply Triple.assign
      rintro bkp ⟨hmoved, hremote, hlast, hdestination, hfails⟩
      refine ⟨hmoved, fun i => ?_, hlast, hdestination, fun _ => hfails⟩
      rw [hremote, hlast]
      simp

theorem create_snapshot_mem {storage storage' : Storage} {snap : Snapshot}
    (hcreate : storage.create_snapshot snap = some storage') (snap' : Snapshot) :
    snap' ∈ storage'.snapshots ↔ snap' ∈ storage.snapshots ∨ snap' = snap := by
  rw [Storage.create_snapshot] at hcreate
  split at hcreate
  · cases hcreate
    simp
  · cases hcreate

theorem receive_snapshots {storage storage' : Storage} {snap : Snapshot} {incr : Option Nat}
    (hreceive : storage.receive snap incr = some storage') : storage'.snapshots = storage.snapshots ++ [snap] := by
  cases incr with
  | none =>
    rw [Storage.receive] at hreceive
    split at hreceive
    · cases hreceive
    · cases hreceive
      rfl
  | some incr =>
    rw [Storage.receive] at hreceive
    split at hreceive
    · cases hreceive
      rfl
    · cases hreceive

theorem triple_transfer (result : Option Nat × List Nat) (hchecked : Checked args fails before) :
    Triple fails (Ready args fails before result) (transfer args result.1)
      (fun _ bkp => Transferred args before bkp ∧ Arrives args fails before result)
      (fun _ bkp => Progress args before bkp ∨
        (Transferred args before bkp ∧ Arrives args fails before result ∧ fails .transferred = true)) := by
  rw [transfer]
  refine Triple.bind (M := fun _ bkp => Moved args before.node bkp.node.snapshots bkp.update_snapshots ∧
    (∀ i, (⟨args.remote_ds, i⟩ : Snapshot) ∈ bkp.remote.snapshots ↔
      ((⟨args.remote_ds, i⟩ : Snapshot) ∈ before.remote.snapshots ∧ i ∉ bkp.deleted_last_snapshot_names) ∨ args.id = i) ∧
    Destination args fails before result ∧ (result.2 ≠ [] → fails .destroy_remaining = false) ∧
    fails .create_snapshot = false) ?_ fun _ => ?_
  · apply Triple.checked
    · intro bkp h _
      exact .inl h.progress
    · intro bkp bkp' h heffect hfails
      obtain ⟨remote, hcreate, rfl⟩ := Option.map_eq_some_iff.mp heffect
      refine ⟨h.moved, fun i => ?_, h.destination, h.destroy_remaining, hfails⟩
      rw [create_snapshot_mem hcreate, h.pruned i, h.last]
      simp [Args.snapshot, eq_comm]
  refine Triple.bind (M := fun _ bkp => Progress args before bkp ∧ bkp.last_snapshot = some args.id ∧
    Destination args fails before result ∧ (result.2 ≠ [] → fails .destroy_remaining = false) ∧
    fails .create_snapshot = false) ?_ fun _ => ?_
  · apply Triple.assign
    rintro bkp ⟨hmoved, hremote, hrest⟩
    refine ⟨⟨hmoved, fun i => ?_, fun i hi => (Option.some.inj hi).symm⟩, rfl, hrest⟩
    rw [hremote i, Option.some.injEq]
  refine Triple.bind (M := fun _ bkp => Transferred args before bkp ∧ Arrives args fails before result) ?_ fun _ => ?_
  · apply Triple.checked
    · intro bkp h _
      exact .inl h.1
    · rintro bkp bkp' ⟨h, hlast, hdestination, hremaining, hcreate⟩ heffect hfails
      rw [send] at heffect
      split at heffect
      · obtain ⟨node, hreceive, rfl⟩ := Option.map_eq_some_iff.mp heffect
        exact ⟨⟨⟨bkp.node.snapshots, h.moved, receive_snapshots hreceive⟩, h.pruned, hlast⟩,
          hchecked, hdestination, hremaining, hcreate, hfails⟩
      · cases heffect
  · apply Triple.checked
    · rintro bkp h (hfails | hnone)
      · exact .inr ⟨h.1, h.2, hfails⟩
      · cases hnone
    · intro bkp bkp' h heffect _
      cases heffect
      exact h

theorem triple_written (P : Backup → Prop) :
    Triple fails P (get_written host args) (fun _ => P) (fun _ _ => False) := by
  intro bkp h
  have hvalue : ∃ value, (get_written host args).under fails bkp = (.ok value, bkp) := by
    rw [get_written, Procedure.under_handle, Procedure.under_query]
    cases fails .written with
    | true => exact ⟨0, rfl⟩
    | false => exact ⟨_, rfl⟩
  obtain ⟨value, hrun⟩ := hvalue
  rw [hrun]
  exact h

/-- The old snapshot of an incremental backup may stay, and setting the property of a new
dataset may fail. -/
theorem triple_finish {incr_snapshot : Option Nat} (hincr : ∀ i ∈ incr_snapshot, i ≠ args.id) :
    Triple fails (Transferred args before) (finish args incr_snapshot)
      (fun _ => Transferred args before)
      (fun _ bkp => Transferred args before bkp ∧ incr_snapshot = none ∧ fails .set_readonly = true) := by
  cases incr_snapshot with
  | none =>
    rw [finish]
    apply Triple.checked
    · rintro bkp h (hfails | hnone)
      · exact ⟨h, rfl, hfails⟩
      · cases hnone
    · intro bkp bkp' h heffect _
      cases heffect
      exact h
  | some incr =>
    rw [finish]
    refine Triple.bind (M := fun done bkp => Transferred args before
        (if done then { bkp with deleted_last_snapshot_names := bkp.deleted_last_snapshot_names ++ [incr] }
        else bkp)) ?_ fun done => ?_
    · apply Triple.command
      · intro bkp h
        exact h
      · intro bkp bkp' h heffect _
        obtain ⟨remote, hdestroy, rfl⟩ := Option.map_eq_some_iff.mp heffect
        refine ⟨h.moved, fun i => ?_, h.last⟩
        have hlast : ∀ j, bkp.last_snapshot = some j → j ≠ incr := by
          intro j hj hsame
          rw [h.last] at hj
          exact hincr incr rfl (hsame.symm.trans (Option.some.inj hj).symm)
        change _ ∈ remote.snapshots ↔ (_ ∧ i ∉ bkp.deleted_last_snapshot_names ++ [incr]) ∨ bkp.last_snapshot = some i
        rw [destroy_snapshots_mem hdestroy, h.pruned i, List.mem_append, List.mem_singleton, not_or]
        constructor
        · rintro ⟨⟨hmem, hdeleted⟩ | hnew, hne⟩
          · exact .inl ⟨hmem, hdeleted, hne⟩
          · exact .inr hnew
        · rintro (⟨hmem, hdeleted, hne⟩ | hnew)
          · exact ⟨.inl ⟨hmem, hdeleted⟩, hne⟩
          · exact ⟨.inr hnew, hlast i hnew⟩
    · cases done with
      | false => exact Triple.pure fun bkp h => h
      | true => exact Triple.assign fun bkp h => h

/-- What is known of the hosts when the command ends, before its cleanup. -/
theorem triple_create (hfresh : args.id ∉ remote_ids args before) :
    Triple fails (Untouched before) (create host args)
      (fun response bkp => Transferred args before bkp ∧ ∃ size, response = success_response args size bkp)
      (fun _ bkp => Progress args before bkp ∨
        (Transferred args before bkp ∧ ¬ Completes args fails before)) := by
  rw [create]
  refine Triple.bind (triple_prepare.consequence (fun _ h => h) (fun _ _ h => h) fun _ _ h => .inl h.progress) ?_
  rintro ids bkp ⟨h, rfl, hchecked⟩
  refine Triple.bind (triple_find_incremental.consequence (fun _ h => h) (fun _ _ h => h) fun _ _ h => .inl h)
    (fun result => ?_) bkp h
  intro bkp h
  have hincr : ∀ i ∈ result.1, i ≠ args.id := by
    rintro i hi rfl
    exact hfresh (h.destination.incr _ hi)
  refine Triple.bind ((triple_destroy_remaining result).consequence (fun _ h => h) (fun _ _ h => h) fun _ _ h => .inl h)
    (fun _ => ?_) bkp h
  refine Triple.bind ((triple_transfer result hchecked).consequence (fun _ h => h) (fun _ _ h => h) ?_) fun _ => ?_
  · rintro _ bkp (h | ⟨h, harrives, hfails⟩)
    · exact .inl h
    · refine .inr ⟨h, fun hcompletes => ?_⟩
      rw [(hcompletes result harrives).1] at hfails
      cases hfails
  refine Triple.bind ((triple_written _).consequence (fun _ h => h) (fun _ _ h => h) fun _ _ h => h.elim) fun size => ?_
  rintro bkp ⟨h, harrives⟩
  refine Triple.bind ((triple_finish hincr).consequence (fun _ h => h) (fun _ _ h => h) ?_) (fun _ => ?_) bkp h
  · rintro _ bkp ⟨h, hnone, hfails⟩
    refine .inr ⟨h, fun hcompletes => ?_⟩
    rw [(hcompletes result harrives).2 hnone] at hfails
    cases hfails
  · refine Triple.bind (M := fun bkp' bkp => Transferred args before bkp ∧ bkp' = bkp) ?_ fun bkp' => ?_
    · exact Triple.state fun bkp h => ⟨h, rfl⟩
    · refine Triple.pure ?_
      rintro bkp ⟨h, rfl⟩
      exact ⟨h, size, rfl⟩

/-- What is left when the command has failed before the end of the transfer. -/
structure Failed (args : Args) (before bkp : Backup) : Prop where
  moved : Moved args before.node bkp.node.snapshots bkp.update_snapshots
  pruned : ∀ i, i ≠ args.id → ((⟨args.remote_ds, i⟩ : Snapshot) ∈ bkp.remote.snapshots ↔
    (⟨args.remote_ds, i⟩ : Snapshot) ∈ before.remote.snapshots ∧ i ∉ bkp.deleted_last_snapshot_names)

theorem Progress.failed {bkp : Backup} (h : Progress args before bkp) : Failed args before bkp := by
  refine ⟨h.moved, fun i hne => ?_⟩
  rw [h.pruned i]
  constructor
  · rintro (hmem | hlast)
    · exact hmem
    · exact absurd (h.last i hlast) hne
  · exact Or.inl

theorem remove_snapshots {storage storage' : Storage} {path : String} (hremove : storage.remove path = some storage') :
    storage'.snapshots = storage.snapshots := by
  rw [Storage.remove] at hremove
  split at hremove
  · cases hremove
    rfl
  · cases hremove

theorem triple_remove_metadata (metadata_file : Option String) :
    Triple fails (Progress args before) (_remove_json_metadata_file metadata_file)
      (fun _ => Progress args before) (fun _ _ => False) := by
  cases metadata_file with
  | none => exact Triple.pure fun bkp h => h
  | some jsonfile =>
    rw [_remove_json_metadata_file]
    refine Triple.bind (M := fun _ => Progress args before) ?_ fun _ => ?_
    · apply Triple.command
      · intro bkp h
        exact h
      · intro bkp bkp' h heffect _
        obtain ⟨node, hremove, rfl⟩ := Option.map_eq_some_iff.mp heffect
        refine ⟨?_, h.pruned, h.last⟩
        rw [remove_snapshots hremove]
        exact h.moved
    · exact Triple.assign fun bkp h => ⟨h.moved, h.pruned, h.last⟩

theorem triple_destroy_last_snapshot (last_snapshot : Option Nat) :
    Triple fails (fun bkp => Progress args before bkp ∧ ∀ i ∈ last_snapshot, i = args.id)
      (destroy_last_snapshot args last_snapshot) (fun _ => Failed args before) (fun _ _ => False) := by
  cases last_snapshot with
  | none => exact Triple.pure fun bkp h => h.1.failed
  | some id =>
    rw [destroy_last_snapshot]
    refine Triple.bind (M := fun _ => Failed args before) ?_ fun done => ?_
    · apply Triple.command
      · intro bkp h
        exact h.1.failed
      · rintro bkp bkp' ⟨h, hlast⟩ heffect _
        obtain ⟨remote, hdestroy, rfl⟩ := Option.map_eq_some_iff.mp heffect
        refine ⟨h.moved, fun i hne => ?_⟩
        rw [destroy_snapshots_mem hdestroy, h.failed.pruned i hne]
        have hother : i ∉ [id] := by
          rw [List.mem_singleton, hlast id rfl]
          exact hne
        simp [hother]
    · cases done with
      | false => exact Triple.pure fun bkp h => h
      | true => exact Triple.pure fun bkp h => h

/-- The response with what has been done before the error. -/
def Reported (response : Response) (bkp : Backup) : Prop :=
  response.lookup "update_snapshots" = some (.renamed bkp.update_snapshots) ∧
    response.lookup "deleted_last_snapshot_names" = some (.names bkp.deleted_last_snapshot_names)

theorem triple_cleanup : Triple fails (Progress args before) (ds_create_cleanup args)
    (fun response bkp => Failed args before bkp ∧ Reported response bkp) (fun _ _ => False) := by
  rw [ds_create_cleanup]
  refine Triple.bind (M := fun bkp₀ bkp => bkp = bkp₀ ∧ Progress args before bkp) ?_ fun bkp₀ => ?_
  · exact Triple.state fun bkp h => ⟨rfl, h⟩
  rintro bkp ⟨rfl, h⟩
  refine Triple.bind (triple_remove_metadata _) (fun _ => ?_) bkp h
  have hdestroy : Triple fails (Progress args before) (destroy_last_snapshot args bkp.last_snapshot) _ _ :=
    (triple_destroy_last_snapshot bkp.last_snapshot).consequence (fun _ h' => ⟨h', h.last⟩) (fun _ _ h => h)
      fun _ _ h => h
  refine Triple.bind hdestroy fun last => ?_
  refine Triple.bind (M := fun bkp₀ bkp => bkp = bkp₀ ∧ Failed args before bkp) ?_ fun bkp₀ => ?_
  · exact Triple.state fun bkp h => ⟨rfl, h⟩
  refine Triple.pure ?_
  rintro bkp ⟨rfl, h⟩
  exact ⟨h, rfl, rfl⟩

/-- How the command ends, unless it fails after the stream has arrived. -/
theorem under_ds_create (host : Host) (hfresh : args.id ∉ remote_ids args before)
    (hbefore : Untouched before before) (hcompletes : Completes args fails before) :
    (∃ size bkp, (ds_create host args).under fails before =
        (.ok (with_status 0 true (success_response args size bkp)), bkp) ∧ Transferred args before bkp) ∨
      ∃ rc response bkp, (ds_create host args).under fails before = (.ok (with_status rc false response), bkp) ∧
        Failed args before bkp ∧ Reported response bkp := by
  have htriple : Triple fails (Untouched before) (create host args) _ _ := triple_create hfresh
  have hcreate := htriple before hbefore
  rw [ds_create, Procedure.under_handle, Procedure.under_bind]
  rcases hrun : (create host args).under fails before with ⟨e | response, bkp⟩
  · rw [hrun] at hcreate
    rcases hcreate with h | ⟨_, hincomplete⟩
    · have hclean : Triple fails (Progress args before) (ds_create_cleanup args) _ _ := triple_cleanup
      have hcleanup := hclean bkp h
      rcases hclean : (ds_create_cleanup args).under fails bkp with ⟨e' | response, bkp'⟩
      · rw [hclean] at hcleanup
        exact hcleanup.elim
      · rw [hclean] at hcleanup
        exact .inr ⟨_, response, bkp', Procedure.under_bind_of_ok hclean, hcleanup⟩
    · exact absurd hcompletes hincomplete
  · rw [hrun] at hcreate
    obtain ⟨h, size, rfl⟩ := hcreate
    exact .inl ⟨size, bkp, rfl, h⟩

section archive

variable {snapshots : List Snapshot}

theorem keeps_destroy_remaining (ids : List Nat) :
    Triple fails (fun bkp => bkp.node.snapshots = snapshots) (destroy_remaining args ids)
      (fun _ bkp => bkp.node.snapshots = snapshots) (fun _ _ => True) := by
  rw [destroy_remaining]
  split
  · exact Triple.pure fun bkp h => h
  · refine Triple.bind (M := fun _ bkp => bkp.node.snapshots = snapshots) ?_ fun _ => Triple.assign fun bkp h => h
    apply Triple.checked
    · intro bkp _ _
      trivial
    · intro bkp bkp' h heffect _
      obtain ⟨remote, _, rfl⟩ := Option.map_eq_some_iff.mp heffect
      exact h

theorem appends_transfer (incr_snapshot : Option Nat) :
    Triple fails (fun bkp => bkp.node.snapshots = snapshots) (transfer args incr_snapshot)
      (fun _ bkp => bkp.node.snapshots = snapshots ++ [args.backup_snapshot]) (fun _ _ => True) := by
  rw [transfer]
  refine Triple.bind (M := fun _ bkp => bkp.node.snapshots = snapshots) ?_ fun _ => ?_
  · apply Triple.checked
    · intro bkp _ _
      trivial
    · intro bkp bkp' h heffect _
      obtain ⟨remote, _, rfl⟩ := Option.map_eq_some_iff.mp heffect
      exact h
  refine Triple.bind (M := fun _ bkp => bkp.node.snapshots = snapshots) ?_ fun _ => ?_
  · exact Triple.assign fun bkp h => h
  refine Triple.bind (M := fun _ bkp => bkp.node.snapshots = snapshots ++ [args.backup_snapshot]) ?_ fun _ => ?_
  · apply Triple.checked
    · intro bkp _ _
      trivial
    · intro bkp bkp' h heffect _
      rw [send] at heffect
      split at heffect
      · obtain ⟨node, hreceive, rfl⟩ := Option.map_eq_some_iff.mp heffect
        rw [receive_snapshots hreceive, h]
      · cases heffect
  · apply Triple.checked
    · intro bkp _ _
      trivial
    · intro bkp bkp' h heffect _
      cases heffect
      exact h

theorem keeps_finish (incr_snapshot : Option Nat) :
    Triple fails (fun bkp => bkp.node.snapshots = snapshots) (finish args incr_snapshot)
      (fun _ bkp => bkp.node.snapshots = snapshots) (fun _ _ => True) := by
  cases incr_snapshot with
  | none =>
    rw [finish]
    apply Triple.checked
    · intro bkp _ _
      trivial
    · intro bkp bkp' h heffect _
      cases heffect
      exact h
  | some incr =>
    rw [finish]
    refine Triple.bind (M := fun _ bkp => bkp.node.snapshots = snapshots) ?_ fun done => ?_
    · apply Triple.command
      · intro bkp h
        exact h
      · intro bkp bkp' h heffect _
        obtain ⟨remote, _, rfl⟩ := Option.map_eq_some_iff.mp heffect
        exact h
    · cases done with
      | false => exact Triple.pure fun bkp h => h
      | true => exact Triple.assign fun bkp h => h

theorem find_incremental_archives {snap : Snapshot} (hdestination : args.destination ∈ before.node.datasets)
    (hnewest : newest args before = some snap) (hids : snap.id ∉ remote_ids args before) :
    Triple fails (Untouched before) (find_incremental args (remote_ids args before))
      (fun _ bkp => bkp.node.snapshots = before.node.snapshots.map args.relocate) (fun _ _ => True) := by
  rw [find_incremental]
  refine Triple.bind (M := fun exists_ bkp => Untouched before bkp ∧ exists_ = true) ?_ fun exists_ => ?_
  · apply Triple.query
    · intro bkp _ _
      trivial
    · intro bkp exists_ h hvalue _
      rw [h.datasets, decide_eq_true hdestination] at hvalue
      cases hvalue
      exact ⟨h, rfl⟩
  rintro bkp ⟨h, rfl⟩
  refine Triple.bind (M := fun snaps bkp => Untouched before bkp ∧
    snaps = before.node.snapshots.filter (·.dataset = args.destination)) ?_ (fun snaps => ?_) bkp h
  · apply Triple.query
    · intro bkp _ _
      trivial
    · intro bkp snaps h hvalue _
      rw [Storage.list, h.datasets, h.snapshots, if_pos hdestination] at hvalue
      cases hvalue
      exact ⟨h, rfl⟩
  rintro bkp ⟨h, rfl⟩
  rw [newest] at hnewest
  simp only [hnewest]
  rw [if_neg hids, archive, Procedure.bind_assoc]
  refine Triple.bind (M := fun _ bkp => bkp.node.snapshots = before.node.snapshots.map args.relocate) ?_
    (fun _ bkp h => h) bkp h
  apply Triple.checked
  · intro bkp _ _
    trivial
  · intro bkp bkp' h heffect _
    obtain ⟨node, hrename, rfl⟩ := Option.map_eq_some_iff.mp heffect
    rw [(rename_snapshots hrename).1, h.snapshots]
    rfl

/-- A backup that finds no common snapshot archives the destination. -/
theorem archives_of_success {snap : Snapshot} (hbefore : Untouched before before)
    (hdestination : args.destination ∈ before.node.datasets) (hnewest : newest args before = some snap)
    (hids : snap.id ∉ remote_ids args before) {response : Response} {bkp : Backup}
    (hrun : (ds_create host args).under fails before = (.ok response, bkp))
    (hsuccess : response.lookup "success" = some (.bool true)) :
    bkp.node.snapshots = before.node.snapshots.map args.relocate ++ [args.backup_snapshot] := by
  have htriple : Triple fails (Untouched before) (create host args)
      (fun _ bkp => bkp.node.snapshots = before.node.snapshots.map args.relocate ++ [args.backup_snapshot])
      (fun _ _ => True) := by
    rw [create]
    refine Triple.bind (triple_prepare.consequence (fun _ h => h) (fun _ _ h => h) fun _ _ _ => trivial) ?_
    rintro ids bkp ⟨h, rfl, _⟩
    refine Triple.bind (find_incremental_archives hdestination hnewest hids) (fun result => ?_) bkp h
    refine Triple.bind (keeps_destroy_remaining result.2) fun _ => ?_
    refine Triple.bind (appends_transfer result.1) fun _ => ?_
    refine Triple.bind ((triple_written _).consequence (fun _ h => h) (fun _ _ h => h) fun _ _ h => h.elim) fun size => ?_
    refine Triple.bind (keeps_finish result.1) fun _ => ?_
    refine Triple.bind (M := fun _ bkp => bkp.node.snapshots =
      before.node.snapshots.map args.relocate ++ [args.backup_snapshot]) ?_ fun _ => Triple.pure fun bkp h => h
    exact Triple.state fun bkp h => h
  rw [ds_create, Procedure.under_handle, Procedure.under_bind] at hrun
  have hcreate := htriple before hbefore
  rcases hcommand : (create host args).under fails before with ⟨e | result, bkp'⟩
  · rw [hcommand] at hrun
    dsimp only at hrun
    rw [Procedure.under_bind] at hrun
    rcases hclean : (ds_create_cleanup args).under fails bkp' with ⟨e' | cleaned, bkp''⟩
    · rw [hclean] at hrun
      cases hrun
    · rw [hclean] at hrun
      cases hrun
      simp [with_status, List.lookup_cons] at hsuccess
  · rw [hcommand] at hrun hcreate
    cases hrun
    exact hcreate

end archive

end eslib.esbackup.create
