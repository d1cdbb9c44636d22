import Esdc.Bin.Esbackup.Recovery

open zfs

namespace eslib.esbackup

open Procedure (Point)

variable {D α β : Type} {dest : Destination} {attributes : Attributes} {pool before : Pool D} {source : Source D}
  {empty : D} {kind : Kind}

/-- The restore ends with an error, and the destination is as it was before. -/
def Recovered (dataset : Path) (before : Pool D) (result : Except CmdError Unit × Pool D) : Prop :=
  result.1 = .error .mk ∧ Pool.AgreeUnder dataset result.2 before

theorem not_recovered_of_ok {dataset : Path} {result : Except CmdError Unit × Pool D} (hok : result.1 = .ok ()) :
    ¬ Recovered dataset before result := by
  rintro ⟨herror, _⟩
  rw [hok] at herror
  cases herror

theorem run_create_empty_dataset (hready : Ready dest pool) :
    (create_empty_dataset empty kind dest attributes).run (pool.relocated dest.dataset dest.ds_backup) =
      (.ok (), created dest pool (empty_dataset empty kind attributes)) := by
  have hcreate : (zfs_cmd .create_dataset fun pool => pool.create dest.dataset
      (empty_dataset empty kind attributes)).run (pool.relocated dest.dataset dest.ds_backup) =
        (.ok true, created dest pool (empty_dataset empty kind attributes)) := by
    rw [run_zfs_cmd, hready.create]
    rfl
  rw [create_empty_dataset, Procedure.run_handle, run_local_of_run hcreate]
  rfl

/-- When the new dataset cannot be created, the temporary backup is renamed back. -/
theorem points_create_empty_dataset (hready : Ready dest pool) {point : CmdPoint D Unit}
    (hpoint : point ∈ (create_empty_dataset empty kind dest attributes).points
      (pool.relocated dest.dataset dest.ds_backup)) :
    point.kind = .create_dataset ∧
      point.failed.run point.state = (.error .mk, rolled_back dest attributes pool) := by
  rw [create_empty_dataset, Procedure.mem_points_handle] at hpoint
  have hcreate : (zfs_cmd .create_dataset fun pool => pool.create dest.dataset
      (empty_dataset empty kind attributes)).run (pool.relocated dest.dataset dest.ds_backup) =
        (.ok true, created dest pool (empty_dataset empty kind attributes)) := by
    rw [run_zfs_cmd, hready.create]
    rfl
  rcases hpoint with ⟨first, hfirst, rfl⟩ | ⟨e, s', herror, _⟩
  · rw [_run_local, Procedure.mem_points_bind, points_zfs_cmd] at hfirst
    rcases hfirst with ⟨first, hfirst, rfl⟩ | ⟨status, s', hok, hfirst⟩
    · rw [List.mem_singleton] at hfirst
      subst hfirst
      refine ⟨rfl, ?_⟩
      exact run_rollback_throw hready.rename_back hready.exists_ attributes .mk
    · cases status <;> cases hfirst
  · rw [run_local_of_run hcreate] at herror
    cases herror

/-- What is received. -/
def received (source : Source D) (ds : Dataset D) : Dataset D :=
  { ds with content := source.content, snapshots := [source.snapshot] }

theorem run_receive (ds : Dataset D) :
    (zfs_cmd .restore_dataset fun pool => pool.receive dest.dataset source.content [source.snapshot]).run
      (created dest pool ds) = (.ok true, created dest pool (received source ds)) := by
  rw [run_zfs_cmd, receive_created]
  rfl

/-- The children are moved and the last of them is a filesystem, or there are none. -/
theorem run_zfs_rename_children (hrestorable : Restorable dest attributes pool) (ds : Dataset D) :
    ∃ pool', (_zfs_rename_children dest.ds_backup dest.dataset attributes.filesystem).run (created dest pool ds) =
      (.ok true, pool') ∧ dest.ds_backup ∈ pool'.paths := by
  have hbackup : dest.ds_backup ∈ (created dest pool ds).paths := by
    rw [paths_created]
    exact List.mem_append_left _ hrestorable.toReady.backup_renamed
  rw [_zfs_rename_children, Procedure.run_bind, run_zfs_list hbackup]
  cases hfilesystem : attributes.filesystem with
  | true =>
    have hbelow : ∀ d ∈ (created dest pool ds).list dest.ds_backup, dest.ds_backup <+: d := by
      intro d hd
      simpa using (List.mem_filter.mp hd).2
    obtain ⟨pool', hrun, hmoved⟩ := run_rename_children (hrestorable.moving hfilesystem ds) dest.apart hbelow true
      fun _ => rfl
    exact ⟨pool', hrun, hmoved.src_mem⟩
  | false =>
    have hself : ∀ d ∈ (created dest pool ds).list dest.ds_backup, d = dest.ds_backup := by
      intro d hd
      rw [list_created hrestorable.toReady] at hd
      obtain ⟨path, hpath, rfl⟩ := List.mem_map.mp hd
      rw [hrestorable.volume hfilesystem path hpath]
      exact (relocate_below (List.append_nil _).symm).trans (List.append_nil _)
    exact ⟨_, (run_rename_children_self hself false _).1, hbackup⟩

theorem run_restore_or_rollback (source : Source D) (hrestorable : Restorable dest attributes pool) (ds : Dataset D) :
    ∃ pool', (restore_or_rollback source dest attributes).run (created dest pool ds) = (.ok (), pool') ∧
      dest.ds_backup ∈ pool'.paths := by
  obtain ⟨pool', hrun, hbackup⟩ := run_zfs_rename_children hrestorable (received source ds)
  refine ⟨pool', ?_, hbackup⟩
  rw [restore_or_rollback, Procedure.run_handle, restore_and_rename_children, Procedure.run_bind,
    run_local_of_run (run_receive ds)]
  simp only [if_true]
  rw [run_local_of_run hrun]
  rfl

theorem run_destroy_backup (source : Source D) (hbackup : dest.ds_backup ∈ pool.paths) :
    ∃ pool', (destroy_backup source dest).run pool = (.ok (), pool') := by
  have hdestroy : (zfs_cmd .destroy_backup fun pool : Pool D => pool.destroy dest.ds_backup).run pool =
      (.ok true, pool.without dest.ds_backup) := by
    rw [run_zfs_cmd, Pool.destroy, if_pos hbackup]
    rfl
  rw [destroy_backup, Procedure.run_bind, run_local_of_run hdestroy]
  change ∃ pool', ((zfs_cmd .destroy_snapshots fun pool => pool.destroy_snapshots dest.dataset
    [source.snapshot]) >>= fun _ => pure PUnit.unit).run (pool.without dest.ds_backup) = (.ok (), pool')
  rw [Procedure.run_bind, run_zfs_cmd]
  exact ⟨_, rfl⟩

/-- The rest of a restore after the renaming, when no command of it fails. -/
theorem run_rest (hrestorable : Restorable dest attributes pool) :
    ∃ pool', (do
      create_empty_dataset empty kind dest attributes
      restore_or_rollback source dest attributes
      destroy_backup source dest : Command D Unit).run (pool.relocated dest.dataset dest.ds_backup) =
        (.ok (), pool') := by
  obtain ⟨moved, hrestore, hbackup⟩ := run_restore_or_rollback source hrestorable
    (empty_dataset empty kind attributes)
  obtain ⟨pool', hdestroy⟩ := run_destroy_backup source hbackup
  refine ⟨pool', ?_⟩
  rw [Procedure.run_bind, run_create_empty_dataset hrestorable.toReady]
  dsimp only
  rw [Procedure.run_bind, hrestore]
  exact hdestroy

theorem mem_points_run_local' {command : Command D Bool} {point : CmdPoint D Unit} :
    point ∈ (_run_local command).points pool ↔
      ∃ first ∈ command.points pool, point = ⟨first.kind, _run_local first.failed, first.state⟩ := by
  rw [_run_local, Procedure.mem_points_bind]
  constructor
  · rintro (⟨first, hfirst, rfl⟩ | ⟨status, s', _, hpoint⟩)
    · exact ⟨first, hfirst, rfl⟩
    · cases status <;> cases hpoint
  · rintro ⟨first, hfirst, rfl⟩
    exact .inl ⟨first, hfirst, rfl⟩

/-- The error handler of the restore. -/
def handler (dest : Destination) (attributes : Attributes) (e : CmdError) : Command D Unit := do
  _run_local (zfs_cmd .destroy_dataset fun pool => pool.destroy dest.dataset)
  rollback dest attributes
  .throw e

theorem created_destroyed (hready : Ready dest pool) (ds : Dataset D) :
    dest.dataset ∈ (created dest pool ds).paths ∧
      ((created dest pool ds).without dest.dataset).rename dest.ds_backup dest.dataset = some pool := by
  constructor
  · simp [paths_created]
  · have hwithout := without_created dest pool ds (fun _ ds => ds) (fun _ _ _ => rfl)
    rw [Pool.modify_id] at hwithout
    rw [created, hwithout]
    exact hready.rename_back

/-- When no child has been moved, the rollback brings back everything. -/
theorem run_handler_created (hready : Ready dest pool) (ds : Dataset D) :
    (handler dest attributes .mk).run (created dest pool ds) = (.error .mk, rolled_back dest attributes pool) :=
  run_destroy_rollback (created_destroyed hready ds).1 (created_destroyed hready ds).2 hready.exists_ attributes .mk

theorem paths_rolled_back (attributes : Attributes) (pool : Pool D) :
    (rolled_back dest attributes pool).paths = pool.paths := by
  rw [rolled_back]
  cases attributes.zoned <;> cases attributes.filesystem <;> simp [Pool.zone]

/-- A child that has been moved is destroyed by the rollback. -/
theorem run_handler_moved (attributes : Attributes) {pool' : Pool D}
    (hmoved : Moving dest.ds_backup dest.dataset [] pool') {path : Path} (hunder : dest.ds_backup <+: path)
    (hgone : path ∉ pool'.paths) :
    ∃ lost, (handler dest attributes .mk).run pool' = (.error .mk, lost) ∧
      relocate dest.ds_backup dest.dataset path ∉ lost.paths := by
  have hwithout {q : Path} : q ∈ (pool'.without dest.dataset).paths ↔ q ∈ pool'.paths ∧ ¬ dest.dataset <+: q := by
    simp only [Pool.paths, Pool.without, zfs.without, List.mem_map, List.mem_filter, decide_eq_true_eq]
    constructor
    · rintro ⟨e, ⟨he, hnot⟩, rfl⟩
      exact ⟨⟨e, he, rfl⟩, hnot⟩
    · rintro ⟨⟨e, he, rfl⟩, hnot⟩
      exact ⟨e, ⟨he, hnot⟩, rfl⟩
  have hrename : (pool'.without dest.dataset).rename dest.ds_backup dest.dataset =
      some ((pool'.without dest.dataset).relocated dest.ds_backup dest.dataset) := by
    rw [Pool.rename, if_pos]
    refine ⟨hwithout.mpr ⟨hmoved.src_mem, dest.apart.2⟩, fun h => (hwithout.mp h).2 List.prefix_rfl, ?_, dest.apart.1⟩
    refine hwithout.mpr ⟨hmoved.parent_mem, ?_⟩
    rw [dest.dropLast_dataset]
    exact dest.not_prefix_parent
  have hmem : dest.dataset ∈ ((pool'.without dest.dataset).relocated dest.ds_backup dest.dataset).paths :=
    mem_paths_relocated.mpr (.inr ⟨[], by rw [List.append_nil]; exact hwithout.mpr ⟨hmoved.src_mem, dest.apart.2⟩,
      (List.append_nil _).symm⟩)
  refine ⟨_, run_destroy_rollback hmoved.dst_mem hrename hmem attributes .mk, ?_⟩
  obtain ⟨rest, rfl⟩ := hunder
  rw [paths_rolled_back, relocate_below rfl, mem_paths_relocated]
  rintro (⟨hstays, _⟩ | ⟨rest', hback, hsame⟩)
  · exact (hwithout.mp hstays).2 (List.prefix_append _ _)
  · rw [List.append_cancel_left_eq] at hsame
    rw [← hsame] at hback
    exact hgone (hwithout.mp hback).1

/-- The failures of the commands of the restore before the temporary backup is destroyed. -/
theorem points_restore_or_rollback (hrestorable : Restorable dest attributes pool) (ds : Dataset D)
    {point : CmdPoint D Unit} (hpoint : point ∈ (restore_or_rollback source dest attributes).points (created dest pool ds)) :
    ((point.kind = .restore_dataset ∨ point.kind = .list_backup) ∧
        point.failed.run point.state = (.error .mk, rolled_back dest attributes pool)) ∨
      (point.kind.in_rename_loop ∧
        ((∃ pool', point.failed.run point.state = (.ok (), pool') ∧ dest.ds_backup ∈ pool'.paths) ∨
          ∃ pool', point.failed.run point.state = (.error .mk, pool') ∧
            ∃ path ∈ pool.paths, dest.dataset <+: path ∧ path ∉ pool'.paths)) := by
  have hready := hrestorable.toReady
  change point ∈ ((restore_and_rename_children source dest attributes).handle (handler dest attributes)).points _ at hpoint
  obtain ⟨pool', hrun, hbackup⟩ := run_zfs_rename_children hrestorable (received source ds)
  rw [Procedure.mem_points_handle] at hpoint
  rcases hpoint with ⟨first, hfirst, rfl⟩ | ⟨e, s', herror, _⟩
  · rw [restore_and_rename_children, mem_points_run_local (run_receive ds)] at hfirst
    rcases hfirst with ⟨first, hfirst, rfl⟩ | ⟨_, hfirst⟩
    · rw [points_zfs_cmd, List.mem_singleton] at hfirst
      subst hfirst
      exact .inl ⟨.inl rfl, run_handler_created hready ds⟩
    · rw [mem_points_run_local'] at hfirst
      obtain ⟨first, hfirst, rfl⟩ := hfirst
      have hlist : dest.ds_backup ∈ (created dest pool (received source ds)).paths := by
        rw [paths_created]
        exact List.mem_append_left _ hready.backup_renamed
      rw [_zfs_rename_children, Procedure.mem_points_bind, points_zfs_list, run_zfs_list hlist] at hfirst
      rcases hfirst with ⟨first, hfirst, rfl⟩ | ⟨datasets, s', hok, hfirst⟩
      · rw [List.mem_singleton] at hfirst
        subst hfirst
        exact .inl ⟨.inr rfl, run_handler_created hready _⟩
      · cases hok
        refine .inr ?_
        cases hfilesystem : attributes.filesystem with
        | false =>
          have hself : ∀ d ∈ (created dest pool (received source ds)).list dest.ds_backup, d = dest.ds_backup := by
            intro d hd
            rw [list_created hready] at hd
            obtain ⟨path, hpath, rfl⟩ := List.mem_map.mp hd
            rw [hrestorable.volume hfilesystem path hpath]
            exact (relocate_below (List.append_nil _).symm).trans (List.append_nil _)
          rw [hfilesystem] at hfirst
          dsimp only at hfirst
          rw [(run_rename_children_self hself false _).2] at hfirst
          cases hfirst
        | true =>
          rw [hfilesystem] at hfirst
          dsimp only at hfirst
          have hbelow : ∀ d ∈ (created dest pool (received source ds)).list dest.ds_backup, dest.ds_backup <+: d := by
            intro d hd
            simpa using (List.mem_filter.mp hd).2
          refine ⟨points_rename_children_kind hfirst, ?_⟩
          rcases points_rename_children (hrestorable.moving hfilesystem _) dest.apart hbelow hfirst with
            ⟨moved, hhidden, hmoved⟩ | ⟨child, moved, hfailed, hmoved, hchild, hne, hgone⟩
          · refine .inl ⟨moved, ?_, hmoved.src_mem⟩
            rw [Procedure.run_handle, run_local_of_run hhidden]
            rfl
          · have hunder := hbelow child hchild
            obtain ⟨lost, hlost, hpath⟩ := run_handler_moved attributes hmoved hunder hgone
            refine .inr ⟨lost, ?_, ?_⟩
            · rw [Procedure.run_handle, run_local_of_run hfailed]
              exact hlost
            · rw [list_created hready] at hchild
              obtain ⟨path, hpath', rfl⟩ := List.mem_map.mp hchild
              have hlisted := List.mem_filter.mp hpath'
              rw [relocate_relocate (hready.fresh path hlisted.1)] at hpath
              exact ⟨path, hlisted.1, by simpa using hlisted.2, hpath⟩
  · rw [restore_and_rename_children, Procedure.run_bind, run_local_of_run (run_receive ds)] at herror
    simp only [if_true] at herror
    rw [run_local_of_run hrun] at herror
    cases herror

end eslib.esbackup
