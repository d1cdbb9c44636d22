import Esdc.Bin.Esbackup.RestoreErrors

open zfs

namespace eslib.esbackup

open Procedure (Point)

variable {D : Type} {dest : Destination} {attributes : Attributes} {pool : Pool D} {source : Source D}
  {empty : D} {kind : Kind}

/-- The filesystems below the destination, except for some, have the property. -/
def AllZoned (dataset : Path) (pool : Pool D) (value : Bool) (except_ : List Path) : Prop :=
  ∀ path ∈ children pool dataset, path ∉ except_ → ∀ ds, pool.find path = some ds →
    ds.kind = .filesystem → ds.zoned = value

theorem find_zone (pool : Pool D) (paths : List Path) (value : Bool) (path : Path) :
    (pool.zone paths value).find path = (pool.find path).map fun ds =>
      if path ∈ paths ∧ ds.kind = .filesystem then { ds with zoned := value } else ds :=
  Pool.find_modify _ _ _

theorem zoned_eq_self {ds : Dataset D} {value : Bool} : { ds with zoned := value } = ds ↔ ds.zoned = value := by
  constructor
  · intro h
    rw [← h]
  · rintro rfl
    rfl

/-- Setting the property of some children changes nothing if they have it. -/
theorem agreeUnder_zone_iff {dataset : Path} {paths : List Path} (except_ : List Path) {value : Bool}
    (hpaths : ∀ path, path ∈ paths ↔ path ∈ children pool dataset ∧ path ∉ except_) :
    Pool.AgreeUnder dataset (pool.zone paths value) pool ↔ AllZoned dataset pool value except_ := by
  rw [Pool.zone, Pool.agreeUnder_modify_iff]
  constructor
  · intro hsame path hchild hnot ds hfind hkind
    have h := hsame path ds (mem_children.mp hchild).2.1 hfind
    rw [if_pos ⟨(hpaths path).mpr ⟨hchild, hnot⟩, hkind⟩] at h
    exact zoned_eq_self.mp h
  · intro hzoned path ds _ hfind
    split
    · rename_i hboth
      obtain ⟨hchild, hnot⟩ := (hpaths path).mp hboth.1
      exact zoned_eq_self.mpr (hzoned path hchild hnot ds hfind hboth.2)
    · rfl

/-- The pool when the destination is renamed. -/
def cleared (dest : Destination) (attributes : Attributes) (pool : Pool D) : Pool D :=
  let pool := if attributes.filesystem then pool.zone (children pool dest.dataset) false else pool
  if attributes.zoned then pool.zone [dest.dataset] false else pool

section agree

variable {ds : Dataset D}

theorem agreeUnder_cleared_iff (hfind : pool.find dest.dataset = some ds) (hkind : ds.kind = .filesystem) :
    Pool.AgreeUnder dest.dataset (cleared dest (Dataset.attributes ds) pool) pool ↔
      ds.zoned = false ∧ AllZoned dest.dataset pool false [] := by
  have hattributes : Dataset.attributes ds = ⟨true, ds.zoned⟩ := by simp [Dataset.attributes, hkind]
  rw [hattributes, cleared]
  simp only [if_true]
  cases hzoned : ds.zoned with
  | false =>
    simp only [Bool.false_eq_true, if_false, true_and]
    exact agreeUnder_zone_iff [] (by simp)
  | true =>
    refine iff_of_false ?_ (by simp)
    intro hagree
    have hself := hagree dest.dataset List.prefix_rfl
    rw [if_pos rfl, find_zone, find_zone, hfind] at hself
    have hchild : dest.dataset ∉ children pool dest.dataset := fun h => (mem_children.mp h).2.2 rfl
    simp only [Option.map_some, hchild, false_and, if_false, List.mem_singleton, true_and, hkind, if_true,
      Option.some.injEq] at hself
    have hvalue := congrArg Dataset.zoned hself
    rw [hzoned] at hvalue
    cases hvalue

/-- The rollback sets the property of all children. -/
theorem agreeUnder_rolled_back_iff (hfind : pool.find dest.dataset = some ds) (hkind : ds.kind = .filesystem) :
    Pool.AgreeUnder dest.dataset
        (rolled_back dest (Dataset.attributes ds) (cleared dest (Dataset.attributes ds) pool)) pool ↔
      AllZoned dest.dataset pool true [] := by
  have hattributes : Dataset.attributes ds = ⟨true, ds.zoned⟩ := by simp [Dataset.attributes, hkind]
  have hchild : dest.dataset ∉ children pool dest.dataset := fun h => (mem_children.mp h).2.2 rfl
  have hvalue (path : Path) : (rolled_back dest (Dataset.attributes ds)
      (cleared dest (Dataset.attributes ds) pool)).find path = (pool.find path).map fun ds' =>
        if path ∈ children pool dest.dataset ∧ ds'.kind = .filesystem then { ds' with zoned := true } else ds' := by
    rw [hattributes, rolled_back, cleared]
    cases hzoned : ds.zoned with
    | false =>
      simp only [if_true, Bool.false_eq_true, if_false, children_zone, find_zone, Option.map_map]
      congr 1
      funext ds'
      by_cases hmem : path ∈ children pool dest.dataset <;> by_cases hk : ds'.kind = .filesystem <;>
        simp [hmem, hk]
    | true =>
      simp only [if_true, children_zone, find_zone, Option.map_map]
      by_cases hself : path = dest.dataset
      · rw [hself, hfind]
        simp only [Option.map_some, Function.comp_apply, hchild, false_and, if_false, List.mem_singleton, true_and,
          hkind, if_true]
        rw [← hkind, ← hzoned]
      · congr 1
        funext ds'
        by_cases hmem : path ∈ children pool dest.dataset <;> by_cases hk : ds'.kind = .filesystem <;>
          simp [hmem, hk, hself]
  constructor
  · intro hagree path hmem _ ds' hfind' hkind'
    have h := hagree path (mem_children.mp hmem).2.1
    rw [hvalue, hfind', Option.map_some, if_pos ⟨hmem, hkind'⟩, Option.some.injEq] at h
    exact zoned_eq_self.mp h
  · intro hzoned path _
    rw [hvalue]
    cases hfind' : pool.find path with
    | none => rfl
    | some ds' =>
      rw [Option.map_some]
      split
      · rename_i hboth
        rw [zoned_eq_self.mpr (hzoned path hboth.1 List.not_mem_nil ds' hfind' hboth.2)]
      · rfl

end agree

/-- The rest of a restore from the renaming on. -/
def rename_and_rest (empty : D) (kind : Kind) (source : Source D) (dest : Destination) (attributes : Attributes) :
    Command D Unit := do
  _run_local (_zfs_dataset_rename .rename_dataset .zone_dataset dest.dataset dest.ds_backup false)
  create_empty_dataset empty kind dest attributes
  restore_or_rollback source dest attributes
  destroy_backup source dest

theorem run_rename_and_rest (hrestorable : Restorable dest attributes pool) :
    ∃ pool', (rename_and_rest empty kind source dest attributes).run pool = (.ok (), pool') := by
  rw [rename_and_rest, Procedure.run_bind,
    run_local_of_run (run_rename_dataset hrestorable.toReady.rename false)]
  exact run_rest hrestorable

theorem run_bind_of_error {α β : Type} {p : Command D α} {k : α → Command D β} {e : CmdError} {pool' : Pool D}
    (hrun : p.run pool = (.error e, pool')) : (p >>= k).run pool = (.error e, pool') := by
  rw [Procedure.run_bind, hrun]

theorem run_bind_of_ok {α β : Type} {p : Command D α} {k : α → Command D β} {a : α} {pool' : Pool D}
    (hrun : p.run pool = (.ok a, pool')) : (p >>= k).run pool = (k a).run pool' := by
  rw [Procedure.run_bind, hrun]

/-- The steps that end the restore when it has succeeded. -/
def Step.completes (step : Step) : Prop := step = .destroy_backup ∨ step = .destroy_snapshots

theorem points_destroy_backup {point : CmdPoint D Unit} (hpoint : point ∈ (destroy_backup source dest).points pool) :
    point.kind.completes := by
  have hdestroy : ∃ status pool', (zfs_cmd .destroy_backup fun pool : Pool D => pool.destroy dest.ds_backup).run pool =
      (.ok status, pool') := ⟨_, _, run_zfs_cmd _ _ _⟩
  obtain ⟨status, pool', hrun⟩ := hdestroy
  rw [destroy_backup, mem_points_run_local hrun] at hpoint
  rcases hpoint with ⟨first, hfirst, rfl⟩ | ⟨_, hpoint⟩
  · rw [points_zfs_cmd, List.mem_singleton] at hfirst
    subst hfirst
    exact .inl rfl
  · change point ∈ ((zfs_cmd .destroy_snapshots fun pool => pool.destroy_snapshots dest.dataset
      [source.snapshot]) >>= fun _ => pure PUnit.unit).points pool' at hpoint
    rw [mem_points_zfs_cmd] at hpoint
    rcases hpoint with rfl | hpoint
    · exact .inr rfl
    · cases hpoint

/-- The failures from the renaming on. -/
theorem points_rename_and_rest (hrestorable : Restorable dest attributes pool) {point : CmdPoint D Unit}
    (hpoint : point ∈ (rename_and_rest empty kind source dest attributes).points pool) :
    (point.kind = .rename_dataset ∧ point.failed.run point.state = (.error .mk, pool)) ∨
      ((point.kind = .create_dataset ∨ point.kind = .restore_dataset ∨ point.kind = .list_backup) ∧
        point.failed.run point.state = (.error .mk, rolled_back dest attributes pool)) ∨
      (point.kind.in_rename_loop ∧
        ((∃ pool', point.failed.run point.state = (.ok (), pool')) ∨
          ∃ pool', point.failed.run point.state = (.error .mk, pool') ∧
            ∃ path ∈ pool.paths, dest.dataset <+: path ∧ path ∉ pool'.paths)) ∨
      point.kind.completes := by
  have hready := hrestorable.toReady
  obtain ⟨restored, hrestore, hbackup⟩ := run_restore_or_rollback source hrestorable
    (empty_dataset empty kind attributes)
  rw [rename_and_rest, mem_points_run_local (run_rename_dataset hready.rename false)] at hpoint
  rcases hpoint with ⟨first, hfirst, rfl⟩ | ⟨_, hpoint⟩
  · rw [_zfs_dataset_rename, mem_points_zfs_cmd] at hfirst
    rcases hfirst with rfl | hfirst
    · exact .inl ⟨rfl, rfl⟩
    · rw [hready.rename] at hfirst
      cases hfirst
  · simp only [Bool.false_eq_true, if_false] at hpoint
    rw [Procedure.mem_points_bind, run_create_empty_dataset hready] at hpoint
    rcases hpoint with ⟨first, hfirst, rfl⟩ | ⟨_, s', hok, hpoint⟩
    · obtain ⟨hkind, hfailed⟩ := points_create_empty_dataset hready hfirst
      exact .inr (.inl ⟨.inl hkind, run_bind_of_error hfailed⟩)
    · cases hok
      rw [Procedure.mem_points_bind, hrestore] at hpoint
      rcases hpoint with ⟨first, hfirst, rfl⟩ | ⟨_, s', hok, hpoint⟩
      · rcases points_restore_or_rollback hrestorable _ hfirst with ⟨hkind, hfailed⟩ | ⟨hloop, hcases⟩
        · exact .inr (.inl ⟨.inr hkind, run_bind_of_error hfailed⟩)
        · refine .inr (.inr (.inl ⟨hloop, ?_⟩))
          rcases hcases with ⟨pool', hfailed, hmem⟩ | ⟨pool', hfailed, hlost⟩
          · obtain ⟨pool'', hdestroy⟩ := run_destroy_backup source hmem
            exact .inl ⟨pool'', (run_bind_of_ok hfailed).trans hdestroy⟩
          · exact .inr ⟨pool', run_bind_of_error hfailed, hlost⟩
      · cases hok
        exact .inr (.inr (.inr (points_destroy_backup hpoint)))

/-- The commands that clear the property before the renaming. -/
def clear (dest : Destination) (attributes : Attributes) : Command D Unit := do
  (if attributes.filesystem then
    _run_local (_zfs_set_dataset_property_children .list_children .clear_zoned dest.dataset false)
  else pure ())
  (if attributes.zoned then _run_local (zfs_cmd .clear_zoned_dataset fun pool => pool.set_zoned dest.dataset false)
  else pure ())

theorem restore_eq (empty : D) (source : Source D) (dest : Destination) :
    restore empty source dest = (do
      let ds ← (_get_dataset_properties dest.dataset)
      clear dest (Dataset.attributes ds)
      rename_and_rest empty ds.kind source dest (Dataset.attributes ds)) := by
  simp only [restore, _backup_and_create_empty_dataset, clear_and_rename, clear, rename_and_rest,
    Procedure.bind_assoc, Procedure.pure_bind]

/-- The command after which the last dataset of the loop is not a filesystem reports a failure. -/
def LastFails (dataset : Path) (pool : Pool D) (child : Path) : Prop :=
  ∀ last, (pool.list dataset).getLast? = some last →
    last = child ∨ last ≠ dataset ∧ pool.is_filesystem last = false

/-- When the failure of a command leaves the destination as it was. -/
def Recoverable (dest : Destination) (pool : Pool D) : Step → Prop
  | .clear_zoned child => LastFails dest.dataset pool child ∧ AllZoned dest.dataset pool false [child]
  | .clear_zoned_dataset => AllZoned dest.dataset pool false []
  | .rename_dataset =>
    (∀ ds, pool.find dest.dataset = some ds → ds.kind = .filesystem → ds.zoned = false) ∧
      AllZoned dest.dataset pool false []
  | .create_dataset | .restore_dataset | .list_backup => AllZoned dest.dataset pool true []
  | .rename_child _ | .zone_child _ => False
  | _ => True

section filesystem

variable {ds : Dataset D}

theorem loop_status_of_split {dataset child : Path} {before after : List Path} (hnodup : (pool.list dataset).Nodup)
    (hlist : pool.list dataset = before ++ child :: after) :
    loop_status pool dataset after false = false ↔ LastFails dataset pool child := by
  rw [LastFails, loop_status, hlist, List.getLast?_append, List.getLast?_cons]
  rw [hlist] at hnodup
  have hchild : child ∉ after := (List.nodup_cons.mp (List.nodup_append.mp hnodup).2.1).1
  cases hlast : after.getLast? with
  | none => simp
  | some last =>
    have hne : last ≠ child := by
      rintro rfl
      exact hchild (List.mem_of_mem_getLast? hlast)
    simp [hne]

theorem Destination.WellFormed.ready (hwf : dest.WellFormed pool) : Ready dest pool :=
  ⟨hwf.exists_, hwf.parent, hwf.fresh⟩

theorem Destination.WellFormed.restorable (hwf : dest.WellFormed pool) (hfind : pool.find dest.dataset = some ds)
    (hlast : ds.kind = .filesystem → loop_status pool dest.dataset (pool.list dest.dataset) true = true) :
    Restorable dest (Dataset.attributes ds) pool := by
  refine ⟨hwf.ready, fun hfilesystem => hlast (by simpa [Dataset.attributes] using hfilesystem), ?_⟩
  intro hvolume path hpath
  have hmem := List.mem_filter.mp hpath
  refine hwf.volume ?_ path hmem.1 (by simpa using hmem.2)
  rw [Pool.is_filesystem, List.any_eq_false]
  intro e he hboth
  simp only [Bool.and_eq_true, decide_eq_true_eq] at hboth
  have hsame := Pool.find_of_mem hwf.nodup he
  rw [hboth.1, hfind] at hsame
  cases hsame
  simp [Dataset.attributes, hboth.2] at hvolume

theorem is_filesystem_of_find (hfind : pool.find dest.dataset = some ds) (hkind : ds.kind = .filesystem) :
    pool.is_filesystem dest.dataset = true := by
  refine List.any_eq_true.mpr ⟨_, Pool.mem_of_find hfind, ?_⟩
  simp [hkind]

theorem nodup_list (hwf : dest.WellFormed pool) (dataset : Path) : (pool.list dataset).Nodup :=
  hwf.nodup.filter _

theorem recovered_iff_agree {dataset : Path} {before after : Pool D} :
    Recovered dataset before (.error .mk, after) ↔ Pool.AgreeUnder dataset after before := by
  simp [Recovered]

/-- A clearing loop that succeeds in spite of the failure ends in a restore. -/
theorem run_rest_of_cleared (empty : D) (source : Source D) (hwf : dest.WellFormed pool)
    (hfind : pool.find dest.dataset = some ds) (hkind : ds.kind = .filesystem)
    (hlast : loop_status pool dest.dataset (pool.list dest.dataset) true = true) (paths : List Path) :
    ∃ pool', (do
      (if (Dataset.attributes ds).zoned then
        _run_local (zfs_cmd .clear_zoned_dataset fun pool => pool.set_zoned dest.dataset false)
      else pure ())
      rename_and_rest empty ds.kind source dest (Dataset.attributes ds) : Command D Unit).run (pool.zone paths false) =
        (.ok (), pool') := by
  have hrestorable := (hwf.restorable hfind fun _ => hlast).zone paths false
  cases (Dataset.attributes ds).zoned with
  | false => exact run_rename_and_rest hrestorable
  | true =>
    have hset := run_set_zoned .clear_zoned_dataset dest.dataset false (pool.zone paths false)
    rw [Pool.is_filesystem_zone, is_filesystem_of_find hfind hkind] at hset
    simp only [if_true]
    rw [Procedure.run_bind, run_local_of_run hset]
    exact run_rename_and_rest (hrestorable.zone _ _)

end filesystem

section volume

variable {ds : Dataset D}

theorem allZoned_of_volume (hwf : dest.WellFormed pool) (hvolume : pool.is_filesystem dest.dataset = false)
    (value : Bool) : AllZoned dest.dataset pool value [] := by
  intro path hpath
  obtain ⟨hmem, hunder, hne⟩ := mem_children.mp hpath
  exact absurd (hwf.volume hvolume path hmem hunder) hne

theorem is_filesystem_of_volume (hwf : dest.WellFormed pool) (hfind : pool.find dest.dataset = some ds)
    (hkind : ds.kind ≠ .filesystem) : pool.is_filesystem dest.dataset = false := by
  rw [Pool.is_filesystem, List.any_eq_false]
  intro e he hboth
  simp only [Bool.and_eq_true, decide_eq_true_eq] at hboth
  have hsame := Pool.find_of_mem hwf.nodup he
  rw [hboth.1, hfind] at hsame
  cases hsame
  exact hkind hboth.2

theorem attributes_of_volume (hkind : ds.kind ≠ .filesystem) : Dataset.attributes ds = ⟨false, false⟩ := by
  simp [Dataset.attributes, hkind]

end volume

section points

variable {ds : Dataset D}

theorem recoverable_rename_iff (hwf : dest.WellFormed pool) (hfind : pool.find dest.dataset = some ds) :
    Pool.AgreeUnder dest.dataset (cleared dest (Dataset.attributes ds) pool) pool ↔
      Recoverable dest pool .rename_dataset := by
  simp only [Recoverable, hfind, Option.some.injEq, forall_eq']
  by_cases hkind : ds.kind = .filesystem
  · rw [agreeUnder_cleared_iff hfind hkind]
    simp [hkind]
  · have hvolume := is_filesystem_of_volume hwf hfind hkind
    rw [attributes_of_volume hkind]
    refine iff_of_true (fun _ _ => rfl) ⟨fun hfilesystem => absurd hfilesystem hkind, allZoned_of_volume hwf hvolume _⟩

theorem recoverable_rollback_iff (hwf : dest.WellFormed pool) (hfind : pool.find dest.dataset = some ds) :
    Pool.AgreeUnder dest.dataset
        (rolled_back dest (Dataset.attributes ds) (cleared dest (Dataset.attributes ds) pool)) pool ↔
      AllZoned dest.dataset pool true [] := by
  by_cases hkind : ds.kind = .filesystem
  · exact agreeUnder_rolled_back_iff hfind hkind
  · have hvolume := is_filesystem_of_volume hwf hfind hkind
    rw [attributes_of_volume hkind]
    exact iff_of_true (fun _ _ => rfl) (allZoned_of_volume hwf hvolume _)

theorem paths_cleared (attributes : Attributes) (pool : Pool D) :
    (cleared dest attributes pool).paths = pool.paths := by
  rw [cleared]
  cases attributes.zoned <;> cases attributes.filesystem <;> simp [Pool.zone]

theorem restorable_cleared (hrestorable : Restorable dest attributes pool) :
    Restorable dest attributes (cleared dest attributes pool) := by
  rw [cleared]
  cases attributes.zoned <;> cases attributes.filesystem
  · exact hrestorable
  · exact hrestorable.zone _ _
  · exact hrestorable.zone _ _
  · exact (hrestorable.zone _ _).zone _ _

theorem not_recoverable_of_loop {step : Step} (hloop : step.in_rename_loop) : ¬ Recoverable dest pool step := by
  intro hrecoverable
  cases step <;> first | exact hloop | exact hrecoverable

/-- The failures after the property has been cleared. -/
theorem recovered_of_renamed (hwf : dest.WellFormed pool) (hfind : pool.find dest.dataset = some ds)
    (hrestorable : Restorable dest (Dataset.attributes ds) pool) {point : CmdPoint D Unit}
    (hpoint : point ∈ (rename_and_rest empty kind source dest (Dataset.attributes ds)).points
      (cleared dest (Dataset.attributes ds) pool)) (hbefore : ¬ point.kind.completes) :
    Recovered dest.dataset pool (point.failed.run point.state) ↔ Recoverable dest pool point.kind := by
  rcases points_rename_and_rest (restorable_cleared hrestorable) hpoint with
    ⟨hkind, hfailed⟩ | ⟨hkind, hfailed⟩ | ⟨hloop, hfailed⟩ | hcompletes
  · rw [hfailed, recovered_iff_agree, recoverable_rename_iff hwf hfind, hkind]
  · rw [hfailed, recovered_iff_agree, recoverable_rollback_iff hwf hfind]
    rcases hkind with hkind | hkind | hkind <;> rw [hkind] <;> rfl
  · refine iff_of_false ?_ (not_recoverable_of_loop hloop)
    rcases hfailed with ⟨pool', hhidden⟩ | ⟨pool', hfailed, path, hmem, hunder, hlost⟩
    · exact not_recovered_of_ok (by rw [hhidden])
    · rw [hfailed, recovered_iff_agree]
      intro hagree
      rw [paths_cleared] at hmem
      obtain ⟨ds', hfind'⟩ := Pool.mem_paths_iff.mp hmem
      exact hlost (Pool.mem_paths_iff.mpr ⟨ds', (hagree path hunder).trans hfind'⟩)
  · exact absurd hcompletes hbefore

/-- The failures after the loop over the children has been successful. -/
theorem recovered_of_children_cleared (hwf : dest.WellFormed pool) (hfind : pool.find dest.dataset = some ds)
    (hkind : ds.kind = .filesystem) (hrestorable : Restorable dest (Dataset.attributes ds) pool)
    {point : CmdPoint D Unit}
    (hpoint : point ∈ (do
      (if ds.zoned then _run_local (zfs_cmd .clear_zoned_dataset fun pool => pool.set_zoned dest.dataset false)
      else pure ())
      rename_and_rest empty ds.kind source dest (Dataset.attributes ds) : Command D Unit).points
        (pool.zone (children pool dest.dataset) false)) (hbefore : ¬ point.kind.completes) :
    Recovered dest.dataset pool (point.failed.run point.state) ↔ Recoverable dest pool point.kind := by
  have hattributes : Dataset.attributes ds = ⟨true, ds.zoned⟩ := by simp [Dataset.attributes, hkind]
  cases hzoned : ds.zoned with
  | false =>
    have hcleared : cleared dest (Dataset.attributes ds) pool = pool.zone (children pool dest.dataset) false := by
      simp [cleared, hattributes, hzoned]
    rw [hzoned, ← hcleared] at hpoint
    exact recovered_of_renamed hwf hfind hrestorable hpoint hbefore
  | true =>
    have hcleared : cleared dest (Dataset.attributes ds) pool =
        (pool.zone (children pool dest.dataset) false).zone [dest.dataset] false := by
      simp [cleared, hattributes, hzoned]
    rw [hzoned] at hpoint
    simp only [if_true] at hpoint
    rw [mem_points_run_local (run_set_zoned _ _ _ _)] at hpoint
    rcases hpoint with ⟨first, hfirst, rfl⟩ | ⟨_, hpoint⟩
    · rw [points_zfs_cmd, List.mem_singleton] at hfirst
      subst hfirst
      change Recovered dest.dataset pool (.error .mk, pool.zone (children pool dest.dataset) false) ↔ _
      rw [recovered_iff_agree, agreeUnder_zone_iff [] (by simp)]
      rfl
    · rw [← hcleared] at hpoint
      exact recovered_of_renamed hwf hfind hrestorable hpoint hbefore

end points

end eslib.esbackup
