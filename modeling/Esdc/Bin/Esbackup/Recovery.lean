import Esdc.Bin.Esbackup.Loops

open zfs

namespace eslib.esbackup

open Procedure (Point)

variable {D α β : Type}

/-- The parent of the destination exists, the name of the temporary backup is not
used, and a volume has no child datasets. -/
structure Destination.WellFormed (dest : Destination) (pool : Pool D) : Prop where
  nodup : pool.paths.Nodup
  exists_ : dest.dataset ∈ pool.paths
  parent : dest.parent ∈ pool.paths
  fresh : ∀ path ∈ pool.paths, ¬ dest.ds_backup <+: path
  volume : pool.is_filesystem dest.dataset = false → ∀ path ∈ pool.paths, dest.dataset <+: path → path = dest.dataset

theorem Destination.dropLast_dataset (dest : Destination) : dest.dataset.dropLast = dest.parent := by
  simp [Destination.dataset]

theorem Destination.dropLast_ds_backup (dest : Destination) : dest.ds_backup.dropLast = dest.parent := by
  simp [Destination.ds_backup]

theorem Destination.name_ne (dest : Destination) :
    dest.name ++ "-esbackup-" ++ toString dest.timestamp ≠ dest.name := by
  intro hname
  have hlength := congrArg String.length hname
  simp only [String.length_append] at hlength
  have hmarker : "-esbackup-".length = 10 := by decide
  omega

theorem Destination.apart (dest : Destination) : Apart dest.ds_backup dest.dataset := by
  have hne : dest.ds_backup ≠ dest.dataset := by
    intro hsame
    rw [Destination.ds_backup, Destination.dataset, List.append_cancel_left_eq, List.singleton_inj] at hsame
    exact dest.name_ne hsame
  have hlength : dest.ds_backup.length = dest.dataset.length := by
    simp [Destination.ds_backup, Destination.dataset]
  exact ⟨fun h => hne (h.eq_of_length hlength), fun h => hne (h.eq_of_length hlength.symm).symm⟩

/-- What the restore needs to know of a pool to rename the destination. -/
structure Ready (dest : Destination) (pool : Pool D) : Prop where
  exists_ : dest.dataset ∈ pool.paths
  parent : dest.parent ∈ pool.paths
  fresh : ∀ path ∈ pool.paths, ¬ dest.ds_backup <+: path

theorem Ready.zone {dest : Destination} {pool : Pool D} (hready : Ready dest pool) (paths : List Path) (value : Bool) :
    Ready dest (pool.zone paths value) := by
  have hpaths : (pool.zone paths value).paths = pool.paths := Pool.paths_modify _ _
  constructor
  · rw [hpaths]
    exact hready.exists_
  · rw [hpaths]
    exact hready.parent
  · rw [hpaths]
    exact hready.fresh

section ready

variable {dest : Destination} {pool : Pool D}

theorem Destination.not_prefix_parent (dest : Destination) : ¬ dest.dataset <+: dest.parent := by
  intro h
  have hlength := h.length_le
  simp only [Destination.dataset, List.length_append, List.length_singleton] at hlength
  omega

theorem Ready.rename (hready : Ready dest pool) :
    pool.rename dest.dataset dest.ds_backup = some (pool.relocated dest.dataset dest.ds_backup) := by
  rw [Pool.rename, if_pos]
  refine ⟨hready.exists_, fun h => hready.fresh _ h List.prefix_rfl, ?_, dest.apart.2⟩
  rw [dest.dropLast_ds_backup]
  exact hready.parent

theorem dataset_renamed {path : Path} (hpath : dest.dataset <+: path) :
    path ∉ (pool.relocated dest.dataset dest.ds_backup).paths := by
  rw [mem_paths_relocated]
  rintro (⟨_, hunder⟩ | ⟨rest, _, rfl⟩)
  · exact hunder hpath
  · exact dest.apart.not_prefix (List.prefix_append _ _) hpath

theorem Ready.parent_renamed (hready : Ready dest pool) :
    dest.parent ∈ (pool.relocated dest.dataset dest.ds_backup).paths :=
  mem_paths_relocated.mpr (.inl ⟨hready.parent, dest.not_prefix_parent⟩)

theorem Ready.backup_renamed (hready : Ready dest pool) :
    dest.ds_backup ∈ (pool.relocated dest.dataset dest.ds_backup).paths :=
  mem_paths_relocated.mpr (.inr ⟨[], by rw [List.append_nil]; exact hready.exists_, (List.append_nil _).symm⟩)

theorem Ready.create (hready : Ready dest pool) (ds : Dataset D) :
    (pool.relocated dest.dataset dest.ds_backup).create dest.dataset ds =
      some ⟨(pool.relocated dest.dataset dest.ds_backup).datasets ++ [(dest.dataset, ds)]⟩ := by
  rw [Pool.create, if_pos]
  refine ⟨dataset_renamed List.prefix_rfl, ?_⟩
  rw [dest.dropLast_dataset]
  exact hready.parent_renamed

/-- Renaming the temporary backup back gives the pool before. -/
theorem Ready.rename_back (hready : Ready dest pool) :
    (pool.relocated dest.dataset dest.ds_backup).rename dest.ds_backup dest.dataset = some pool := by
  rw [Pool.rename, if_pos, Pool.relocated_relocated hready.fresh]
  refine ⟨hready.backup_renamed, dataset_renamed List.prefix_rfl, ?_, dest.apart.1⟩
  rw [dest.dropLast_dataset]
  exact hready.parent_renamed

/-- Destroying whatever is at the destination leaves what the renaming has left. -/
theorem without_created (dest : Destination) (pool : Pool D) (ds : Dataset D) (f : Path → Dataset D → Dataset D)
    (hf : ∀ path ds, path ≠ dest.dataset → f path ds = ds) :
    ((⟨(pool.relocated dest.dataset dest.ds_backup).datasets ++ [(dest.dataset, ds)]⟩ : Pool D).modify f).without
        dest.dataset = pool.relocated dest.dataset dest.ds_backup := by
  ext1
  simp only [Pool.without, zfs.without, Pool.modify, List.map_append, List.filter_append, List.map_cons, List.map_nil]
  have hnew : [(dest.dataset, f dest.dataset ds)].filter (fun e => ¬ dest.dataset <+: e.1) = [] := by
    simp
  rw [hnew, List.append_nil]
  have hold : ∀ e ∈ (pool.relocated dest.dataset dest.ds_backup).datasets, ¬ dest.dataset <+: e.1 := by
    intro e he hunder
    exact dataset_renamed hunder (List.mem_map_of_mem he)
  have hmap : (pool.relocated dest.dataset dest.ds_backup).datasets.map (fun e => (e.1, f e.1 e.2)) =
      (pool.relocated dest.dataset dest.ds_backup).datasets := by
    conv_rhs => rw [← List.map_id (pool.relocated dest.dataset dest.ds_backup).datasets]
    apply List.map_congr_left
    intro e he
    have hne : e.1 ≠ dest.dataset := by
      intro hsame
      exact hold e he (by rw [hsame])
    rw [hf e.1 e.2 hne]
    rfl
  rw [hmap, List.filter_eq_self]
  intro e he
  simpa using hold e he

end ready

theorem run_local_of_run {command : Command D Bool} {pool pool' : Pool D} {status : Bool}
    (hrun : command.run pool = (.ok status, pool')) :
    (_run_local command).run pool = (if status then .ok () else .error .mk, pool') := by
  rw [_run_local, Procedure.run_bind, hrun]
  cases status <;> rfl

/-- The places of failure in a command whose status is checked. -/
theorem mem_points_run_local {command : Command D Bool} {k : Unit → Command D β} {pool pool' : Pool D} {status : Bool}
    (hrun : command.run pool = (.ok status, pool')) {point : CmdPoint D β} :
    point ∈ (_run_local command >>= k).points pool ↔
      (∃ first ∈ command.points pool, point = ⟨first.kind, (_run_local first.failed >>= k), first.state⟩) ∨
        (status = true ∧ point ∈ (k ()).points pool') := by
  have hassoc : (_run_local command >>= k) =
      command >>= fun status => (if status then pure () else .throw .mk : Command D Unit) >>= k := by
    rw [_run_local, Procedure.bind_assoc]
  rw [hassoc, Procedure.mem_points_bind, hrun]
  apply or_congr
  · constructor
    · rintro ⟨first, hfirst, rfl⟩
      refine ⟨first, hfirst, ?_⟩
      rw [_run_local, Procedure.bind_assoc]
    · rintro ⟨first, hfirst, rfl⟩
      refine ⟨first, hfirst, ?_⟩
      rw [_run_local, Procedure.bind_assoc]
  · constructor
    · rintro ⟨status', s', hok, hpoint⟩
      simp only [Prod.mk.injEq, Except.ok.injEq] at hok
      obtain ⟨rfl, rfl⟩ := hok
      cases status with
      | false => cases hpoint
      | true => exact ⟨rfl, hpoint⟩
    · rintro ⟨rfl, hpoint⟩
      exact ⟨true, pool', rfl, hpoint⟩

/-- The datasets below the destination. -/
def children (pool : Pool D) (dataset : Path) : List Path := (pool.list dataset).filter (· ≠ dataset)

theorem mem_children {pool : Pool D} {dataset path : Path} :
    path ∈ children pool dataset ↔ path ∈ pool.paths ∧ dataset <+: path ∧ path ≠ dataset := by
  simp [children, Pool.list, and_assoc, and_comm]

theorem children_zone (pool : Pool D) (paths : List Path) (value : Bool) (dataset : Path) :
    children (pool.zone paths value) dataset = children pool dataset := by
  have hpaths : (pool.zone paths value).paths = pool.paths := Pool.paths_modify _ _
  rw [children, children, Pool.list, Pool.list, hpaths]

section commands

variable {dest : Destination} {pool : Pool D} {list_step : Step} {step : Path → Step} {dataset : Path} {value : Bool}

theorem run_zfs_list (hmem : dataset ∈ pool.paths) :
    (zfs_list list_step dataset).run pool = (.ok (some (pool.list dataset)), pool) := by
  simp only [zfs_list, Procedure.run, id_eq, if_pos hmem]

theorem points_zfs_list : (zfs_list list_step dataset).points pool = [⟨list_step, .pure none, pool⟩] := by
  simp [zfs_list, Procedure.points]

theorem run_set_children (hmem : dataset ∈ pool.paths) :
    (_zfs_set_dataset_property_children list_step step dataset value).run pool =
      (.ok (loop_status pool dataset (pool.list dataset) true), pool.zone (children pool dataset) value) := by
  rw [_zfs_set_dataset_property_children, Procedure.run_bind, run_zfs_list hmem]
  exact run_set_dataset_property_children _ _ _ _ _ _

theorem points_set_children (hmem : dataset ∈ pool.paths) {point : CmdPoint D Bool}
    (hpoint : point ∈ (_zfs_set_dataset_property_children list_step step dataset value).points pool) :
    (point.kind = list_step ∧ point.failed.run point.state = (.ok false, pool)) ∨
      ∃ before ds after, pool.list dataset = before ++ ds :: after ∧ ds ≠ dataset ∧ point.kind = step ds ∧
        point.failed.run point.state = (.ok (loop_status pool dataset after false),
          pool.zone ((before ++ after).filter (· ≠ dataset)) value) := by
  rw [_zfs_set_dataset_property_children, Procedure.mem_points_bind, points_zfs_list, run_zfs_list hmem] at hpoint
  rcases hpoint with ⟨first, hfirst, rfl⟩ | ⟨datasets, pool', hok, hpoint⟩
  · rw [List.mem_singleton] at hfirst
    subst hfirst
    exact .inl ⟨rfl, rfl⟩
  · cases hok
    exact .inr (points_set_dataset_property_children hpoint)

theorem run_discard_set_zoned :
    (discard (zfs_cmd list_step fun pool => pool.set_zoned dataset value) : Command D PUnit).run pool =
      (.ok (), pool.zone [dataset] value) := by
  change ((zfs_cmd list_step fun pool => pool.set_zoned dataset value) >>= fun _ => pure PUnit.unit).run pool = _
  rw [Procedure.run_bind, run_set_zoned]
  rfl

theorem run_rename_dataset {zone_step : Step} {src dst : Path} {pool' : Pool D} (hrename : pool.rename src dst = some pool')
    (set_zoned : Bool) :
    (_zfs_dataset_rename list_step zone_step src dst set_zoned).run pool =
      (.ok true, if set_zoned then pool'.zone [dst] true else pool') := by
  rw [_zfs_dataset_rename, Procedure.run_bind, run_zfs_cmd, hrename]
  simp only [Option.isSome_some, if_true, Option.getD_some]
  cases set_zoned with
  | false => rfl
  | true =>
    simp only [if_true]
    rw [Procedure.run_bind, run_discard_set_zoned]
    rfl

/-- The pool after a rollback. -/
def rolled_back (dest : Destination) (attributes : Attributes) (pool : Pool D) : Pool D :=
  let pool := if attributes.zoned then pool.zone [dest.dataset] true else pool
  if attributes.filesystem then pool.zone (children pool dest.dataset) true else pool

/-- Whether the last `zfs set` succeeds or not, the rollback ends with the same pool. -/
theorem run_rollback {pool' : Pool D} (hrename : pool.rename dest.ds_backup dest.dataset = some pool')
    (hmem : dest.dataset ∈ pool'.paths) (attributes : Attributes) :
    ∃ outcome, (rollback dest attributes).run pool = (outcome, rolled_back dest attributes pool') := by
  rw [rollback, Procedure.run_bind, run_local_of_run (run_rename_dataset hrename _)]
  simp only [if_true]
  have hmem' : dest.dataset ∈ (if attributes.zoned then pool'.zone [dest.dataset] true else pool').paths := by
    split
    · rw [Pool.zone, Pool.paths_modify]
      exact hmem
    · exact hmem
  rw [rolled_back]
  cases attributes.filesystem with
  | false => exact ⟨_, rfl⟩
  | true => exact ⟨_, run_local_of_run (run_set_children hmem')⟩

/-- An error handler that rolls back and raises the error again. -/
theorem run_rollback_throw {pool' : Pool D} (hrename : pool.rename dest.ds_backup dest.dataset = some pool')
    (hmem : dest.dataset ∈ pool'.paths) (attributes : Attributes) (e : CmdError) :
    (rollback dest attributes >>= fun _ => (.throw e : Command D α)).run pool =
      (.error .mk, rolled_back dest attributes pool') := by
  obtain ⟨outcome, hrun⟩ := run_rollback hrename hmem attributes
  rw [Procedure.run_bind, hrun]
  cases outcome with
  | ok _ => rfl
  | error _ => rfl

/-- Destroying the new dataset and rolling back. -/
theorem run_destroy_rollback {pool' : Pool D} (hdest : dest.dataset ∈ pool.paths)
    (hrename : (pool.without dest.dataset).rename dest.ds_backup dest.dataset = some pool')
    (hmem : dest.dataset ∈ pool'.paths) (attributes : Attributes) (e : CmdError) :
    (do
      _run_local (zfs_cmd .destroy_dataset fun pool => pool.destroy dest.dataset)
      rollback dest attributes
      .throw e : Command D α).run pool = (.error .mk, rolled_back dest attributes pool') := by
  have hdestroy : (zfs_cmd .destroy_dataset fun pool : Pool D => pool.destroy dest.dataset).run pool =
      (.ok true, pool.without dest.dataset) := by
    rw [run_zfs_cmd, Pool.destroy, if_pos hdest]
    rfl
  rw [Procedure.run_bind, run_local_of_run hdestroy]
  exact run_rollback_throw hrename hmem attributes e

end commands

/-- The loops over the datasets of the destination succeed when no command fails. -/
structure Restorable (dest : Destination) (attributes : Attributes) (pool : Pool D) : Prop
    extends Ready dest pool where
  last : attributes.filesystem = true → loop_status pool dest.dataset (pool.list dest.dataset) true = true
  volume : attributes.filesystem = false → ∀ path ∈ pool.list dest.dataset, path = dest.dataset

section restorable

variable {dest : Destination} {attributes : Attributes} {pool : Pool D}

theorem Restorable.zone (hrestorable : Restorable dest attributes pool) (paths : List Path) (value : Bool) :
    Restorable dest attributes (pool.zone paths value) := by
  have hlist : (pool.zone paths value).list dest.dataset = pool.list dest.dataset := by
    rw [Pool.list, Pool.list, Pool.zone, Pool.paths_modify]
  refine ⟨hrestorable.toReady.zone _ _, fun hfilesystem => ?_, fun hvolume => ?_⟩
  · rw [hlist, loop_status_zone]
    exact hrestorable.last hfilesystem
  · rw [hlist]
    exact hrestorable.volume hvolume

/-- The pool with the new dataset, which may have been changed. -/
def created (dest : Destination) (pool : Pool D) (ds : Dataset D) : Pool D :=
  ⟨(pool.relocated dest.dataset dest.ds_backup).datasets ++ [(dest.dataset, ds)]⟩

theorem paths_created (ds : Dataset D) : (created dest pool ds).paths =
    (pool.relocated dest.dataset dest.ds_backup).paths ++ [dest.dataset] := by
  simp [created, Pool.paths]

theorem list_created (hready : Ready dest pool) (ds : Dataset D) :
    (created dest pool ds).list dest.ds_backup =
      (pool.list dest.dataset).map (relocate dest.dataset dest.ds_backup) := by
  have hpaths : (pool.relocated dest.dataset dest.ds_backup).paths =
      pool.paths.map (relocate dest.dataset dest.ds_backup) := by
    simp [Pool.paths, Pool.relocated, Function.comp_def]
  have hnew : [dest.dataset].filter (dest.ds_backup <+: ·) = [] := by
    simp [dest.apart.1]
  rw [Pool.list, paths_created, List.filter_append, hnew, List.append_nil, hpaths, List.filter_map, Pool.list]
  congr 1
  apply List.filter_congr
  intro path hpath
  simp only [Function.comp_apply, decide_eq_decide]
  by_cases hunder : dest.dataset <+: path
  · obtain ⟨rest, rfl⟩ := hunder
    rw [relocate_below rfl]
    exact iff_of_true (List.prefix_append _ _) (List.prefix_append _ _)
  · rw [relocate_not_below hunder]
    exact iff_of_false (hready.fresh path hpath) hunder

theorem receive_created (ds : Dataset D) (content : D) (snapshots : List String) :
    (created dest pool ds).receive dest.dataset content snapshots =
      some (created dest pool { ds with content, snapshots }) := by
  have hmem : dest.dataset ∈ (created dest pool ds).paths := by simp [paths_created]
  rw [Pool.receive, if_pos hmem, created, created, Pool.modify]
  simp only [List.map_append, List.map_cons, List.map_nil, if_true, Option.some.injEq, Pool.mk.injEq,
    List.append_cancel_right_eq]
  conv_rhs => rw [← List.map_id (pool.relocated dest.dataset dest.ds_backup).datasets]
  apply List.map_congr_left
  intro e he
  have hne : e.1 ≠ dest.dataset := by
    intro hsame
    have hunder : dest.dataset <+: e.1 := by rw [hsame]
    exact dataset_renamed hunder (List.mem_map_of_mem he)
  rw [if_neg hne]
  rfl

theorem Restorable.moving (hrestorable : Restorable dest attributes pool)
    (hfilesystem : attributes.filesystem = true) (ds : Dataset D) :
    Moving dest.ds_backup dest.dataset ((created dest pool ds).list dest.ds_backup) (created dest pool ds) := by
  have hready := hrestorable.toReady
  refine ⟨?_, ?_, ?_, ?_⟩
  · rw [paths_created]
    exact List.mem_append_left _ hready.backup_renamed
  · simp [paths_created]
  · rw [paths_created, dest.dropLast_dataset]
    exact List.mem_append_left _ hready.parent_renamed
  · rw [list_created hready]
    intro last hlast hne _
    rw [List.getLast?_map, Option.map_eq_some_iff] at hlast
    obtain ⟨path, hpath, rfl⟩ := hlast
    have hunder : dest.dataset <+: path := by
      have hmem := List.mem_of_mem_getLast? hpath
      simp only [Pool.list, List.mem_filter, decide_eq_true_eq] at hmem
      exact hmem.2
    obtain ⟨rest, rfl⟩ := hunder
    have hlast := hrestorable.last hfilesystem
    rw [loop_status, hpath] at hlast
    simp only [Bool.or_eq_true, decide_eq_true_eq] at hlast
    rw [relocate_below rfl] at hne ⊢
    rcases hlast with hself | hlast
    · have hnil : rest = [] := by simpa using hself
      rw [hnil, List.append_nil] at hne
      exact absurd rfl hne
    · have hmoved := is_filesystem_relocated dest.ds_backup rest hlast
      rw [created, Pool.is_filesystem, List.any_append]
      rw [Pool.is_filesystem] at hmoved
      rw [hmoved, Bool.true_or]

end restorable

end eslib.esbackup
