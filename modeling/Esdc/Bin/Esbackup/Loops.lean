import Esdc.Bin.Esbackup.Restore

namespace eslib.esbackup

open zfs
open Procedure (Point)

variable {D α β : Type}

abbrev CmdPoint (D α : Type) := Point (Pool D) Step CmdError α

theorem run_zfs_cmd (step : Step) (command : Pool D → Option (Pool D)) (pool : Pool D) :
    (zfs_cmd step command).run pool = (.ok (command pool).isSome, (command pool).getD pool) := by
  simp only [zfs_cmd, Procedure.run, id_eq]
  cases command pool <;> rfl

theorem points_zfs_cmd (step : Step) (command : Pool D → Option (Pool D)) (pool : Pool D) :
    (zfs_cmd step command).points pool = [⟨step, .pure false, pool⟩] := by
  simp only [zfs_cmd, Procedure.points, id_eq]
  cases command pool <;> rfl

theorem mem_points_zfs_cmd {step : Step} {command : Pool D → Option (Pool D)} {k : Bool → Command D β} {pool : Pool D}
    {point : CmdPoint D β} :
    point ∈ (zfs_cmd step command >>= k).points pool ↔ point = ⟨step, k false, pool⟩ ∨
      point ∈ (k (command pool).isSome).points ((command pool).getD pool) := by
  rw [Procedure.mem_points_bind, points_zfs_cmd, run_zfs_cmd]
  simp only [List.mem_singleton, exists_eq_left, Prod.mk.injEq, Except.ok.injEq]
  constructor
  · rintro (hfirst | ⟨a, s', ⟨rfl, rfl⟩, hrest⟩)
    · exact .inl hfirst.symm
    · exact .inr hrest
  · rintro (hfirst | hrest)
    · exact .inl hfirst.symm
    · exact .inr ⟨_, _, ⟨rfl, rfl⟩, hrest⟩

/-- A filesystem gets the property, a volume refuses it. -/
theorem run_set_zoned (step : Step) (path : Path) (value : Bool) (pool : Pool D) :
    (zfs_cmd step fun pool => pool.set_zoned path value).run pool =
      (.ok (pool.is_filesystem path), pool.zone [path] value) := by
  rw [run_zfs_cmd, Pool.set_zoned]
  cases hfilesystem : pool.is_filesystem path with
  | false => simp [Pool.zone_eq_self hfilesystem]
  | true => simp

theorem set_zoned_isSome (pool : Pool D) (path : Path) (value : Bool) :
    (pool.set_zoned path value).isSome = pool.is_filesystem path := by
  rw [Pool.set_zoned]
  cases pool.is_filesystem path <;> rfl

theorem set_zoned_getD (pool : Pool D) (path : Path) (value : Bool) :
    (pool.set_zoned path value).getD pool = pool.zone [path] value := by
  rw [Pool.set_zoned]
  cases hfilesystem : pool.is_filesystem path with
  | false => simp [Pool.zone_eq_self hfilesystem]
  | true => simp

/-- The status of a loop that ends with the given list. -/
def loop_status (pool : Pool D) (dataset : Path) (datasets : List Path) (status : Bool) : Bool :=
  match datasets.getLast? with
  | none => status
  | some ds => ds = dataset || pool.is_filesystem ds

theorem loop_status_cons (pool : Pool D) (dataset ds : Path) (datasets : List Path) (status : Bool) :
    loop_status pool dataset (ds :: datasets) status =
      loop_status pool dataset datasets (ds = dataset || pool.is_filesystem ds) := by
  cases datasets with
  | nil => rfl
  | cons ds' datasets => rfl

theorem loop_status_zone (pool : Pool D) (paths : List Path) (value : Bool) (dataset : Path)
    (datasets : List Path) (status : Bool) :
    loop_status (pool.zone paths value) dataset datasets status = loop_status pool dataset datasets status := by
  simp [loop_status]

/-- The loop sets the property of all filesystems below the dataset. -/
theorem run_set_dataset_property_children (step : Path → Step) (dataset : Path) (value : Bool)
    (datasets : List Path) (status : Bool) (pool : Pool D) :
    (set_dataset_property_children step dataset value datasets status).run pool =
      (.ok (loop_status pool dataset datasets status), pool.zone (datasets.filter (· ≠ dataset)) value) := by
  induction datasets generalizing status pool with
  | nil =>
    rw [set_dataset_property_children, Procedure.run_pure, List.filter_nil, Pool.zone_nil]
    rfl
  | cons ds datasets ih =>
    rw [set_dataset_property_children, loop_status_cons]
    by_cases hself : ds = dataset
    · rw [if_pos hself, ih, List.filter_cons_of_neg (by simpa using hself)]
      simp [hself]
    · rw [if_neg hself, Procedure.run_bind, run_set_zoned]
      dsimp only
      rw [ih, loop_status_zone, Pool.zone_zone, List.filter_cons_of_pos (by simpa using hself)]
      simp [hself]

/-- A failure in the loop is forgotten unless it is in the last iteration. -/
theorem points_set_dataset_property_children {step : Path → Step} {dataset : Path} {value : Bool}
    {datasets : List Path} {status : Bool} {pool : Pool D} {point : CmdPoint D Bool}
    (hpoint : point ∈ (set_dataset_property_children step dataset value datasets status).points pool) :
    ∃ before ds after, datasets = before ++ ds :: after ∧ ds ≠ dataset ∧ point.kind = step ds ∧
      point.failed.run point.state = (.ok (loop_status pool dataset after false),
        pool.zone ((before ++ after).filter (· ≠ dataset)) value) := by
  induction datasets generalizing status pool with
  | nil => cases hpoint
  | cons ds datasets ih =>
    rw [set_dataset_property_children] at hpoint
    by_cases hself : ds = dataset
    · rw [if_pos hself] at hpoint
      obtain ⟨before, ds', after, hdatasets, hne, hkind, hfailed⟩ := ih hpoint
      refine ⟨ds :: before, ds', after, by rw [hdatasets, List.cons_append], hne, hkind, ?_⟩
      rw [hfailed, List.cons_append, List.filter_cons_of_neg (by simpa using hself)]
    · rw [if_neg hself, mem_points_zfs_cmd] at hpoint
      rcases hpoint with rfl | hpoint
      · refine ⟨[], ds, datasets, rfl, hself, rfl, ?_⟩
        rw [run_set_dataset_property_children]
        rfl
      · rw [set_zoned_isSome, set_zoned_getD] at hpoint
        obtain ⟨before, ds', after, hdatasets, hne, hkind, hfailed⟩ := ih hpoint
        refine ⟨ds :: before, ds', after, by rw [hdatasets, List.cons_append], hne, hkind, ?_⟩
        have hfilter : (ds :: before ++ after).filter (· ≠ dataset) =
            [ds] ++ (before ++ after).filter (· ≠ dataset) :=
          List.filter_cons_of_pos (by simpa using hself)
        rw [hfailed, loop_status_zone, Pool.zone_zone, hfilter]

/-- Neither dataset is below the other. -/
def Apart (src dst : Path) : Prop := ¬ src <+: dst ∧ ¬ dst <+: src

theorem Apart.not_prefix {src dst path : Path} (hapart : Apart src dst) (hsrc : src <+: path) : ¬ dst <+: path := by
  intro hdst
  rcases List.prefix_or_prefix_of_prefix hsrc hdst with h | h
  · exact hapart.1 h
  · exact hapart.2 h

/-- A path of a pool in which a dataset below `src` has been moved below `dst`. -/
theorem mem_paths_relocated {pool : Pool D} {ds child path : Path} :
    path ∈ (pool.relocated ds child).paths ↔
      (path ∈ pool.paths ∧ ¬ ds <+: path) ∨ ∃ rest, ds ++ rest ∈ pool.paths ∧ path = child ++ rest := by
  simp only [Pool.paths, Pool.relocated, List.map_map, List.mem_map, Function.comp_apply]
  constructor
  · rintro ⟨e, he, rfl⟩
    by_cases hunder : ds <+: e.1
    · obtain ⟨rest, hrest⟩ := hunder
      exact .inr ⟨rest, ⟨e, he, hrest.symm⟩, relocate_below hrest.symm⟩
    · rw [relocate_not_below hunder]
      exact .inl ⟨⟨e, he, rfl⟩, hunder⟩
  · rintro (⟨⟨e, he, rfl⟩, hunder⟩ | ⟨rest, ⟨e, he, hpath⟩, rfl⟩)
    · exact ⟨e, he, relocate_not_below hunder⟩
    · exact ⟨e, he, relocate_below hpath⟩

/-- The pool while the children of `src` are moved below `dst`; the last of them is
a filesystem as long as it is there. -/
structure Moving (src dst : Path) (datasets : List Path) (pool : Pool D) : Prop where
  src_mem : src ∈ pool.paths
  dst_mem : dst ∈ pool.paths
  parent_mem : dst.dropLast ∈ pool.paths
  last : ∀ ds, datasets.getLast? = some ds → ds ≠ src → ds ∈ pool.paths → pool.is_filesystem ds = true

section moving

variable {src dst ds child : Path} {datasets : List Path} {pool : Pool D}

theorem Moving.tail (hmoving : Moving src dst (ds :: datasets) pool) : Moving src dst datasets pool := by
  refine ⟨hmoving.src_mem, hmoving.dst_mem, hmoving.parent_mem, fun last hlast => ?_⟩
  cases datasets with
  | nil => cases hlast
  | cons ds' datasets => exact hmoving.last last (by rw [List.getLast?_cons_cons]; exact hlast)

theorem Moving.zone (hmoving : Moving src dst datasets pool) (paths : List Path) (value : Bool) :
    Moving src dst datasets (pool.zone paths value) := by
  have hpaths : (pool.zone paths value).paths = pool.paths := Pool.paths_modify _ _
  refine ⟨?_, ?_, ?_, fun last hlast hne hmem => ?_⟩
  · rw [hpaths]
    exact hmoving.src_mem
  · rw [hpaths]
    exact hmoving.dst_mem
  · rw [hpaths]
    exact hmoving.parent_mem
  · rw [hpaths] at hmem
    rw [Pool.is_filesystem_zone]
    exact hmoving.last last hlast hne hmem

/-- The datasets that are moved are strictly below `src`. -/
theorem Moving.relocated (hmoving : Moving src dst datasets pool) (hapart : Apart src dst) (hds : src <+: ds)
    (hne : ds ≠ src) (hchild : dst <+: child) (hdatasets : ∀ d ∈ datasets, src <+: d) :
    Moving src dst datasets (pool.relocated ds child) := by
  have hnot {path : Path} (hpath : path ∈ pool.paths) (hunder : ¬ ds <+: path) :
      path ∈ (pool.relocated ds child).paths := mem_paths_relocated.mpr (.inl ⟨hpath, hunder⟩)
  have hdst : ¬ ds <+: dst := fun h => hapart.1 (hds.trans h)
  refine ⟨hnot hmoving.src_mem fun h => hne (h.eq_of_length (Nat.le_antisymm h.length_le hds.length_le)),
    hnot hmoving.dst_mem hdst, hnot hmoving.parent_mem fun h => hdst (h.trans (List.dropLast_prefix dst)), ?_⟩
  intro last hlast hlastne hmem
  have hlastsrc := hdatasets last (List.mem_of_mem_getLast? hlast)
  rcases mem_paths_relocated.mp hmem with ⟨hmem, hunder⟩ | ⟨rest, _, hlastchild⟩
  · obtain ⟨e, he, hfilesystem⟩ := List.any_eq_true.mp (hmoving.last last hlast hlastne hmem)
    simp only [Bool.and_eq_true, decide_eq_true_eq] at hfilesystem
    refine List.any_eq_true.mpr ⟨(relocate ds child e.1, e.2), List.mem_map_of_mem he, ?_⟩
    rw [relocate_not_below (by rw [hfilesystem.1]; exact hunder)]
    simp [hfilesystem]
  · have hbelow : dst <+: last := by
      rw [hlastchild]
      exact hchild.trans (List.prefix_append _ _)
    exact absurd hbelow (hapart.not_prefix hlastsrc)

/-- A filesystem that has been moved is found at its new place. -/
theorem is_filesystem_relocated (child rest : Path) (hfilesystem : pool.is_filesystem (ds ++ rest) = true) :
    (pool.relocated ds child).is_filesystem (child ++ rest) = true := by
  obtain ⟨e, he, hboth⟩ := List.any_eq_true.mp hfilesystem
  simp only [Bool.and_eq_true, decide_eq_true_eq] at hboth
  refine List.any_eq_true.mpr ⟨(relocate ds child e.1, e.2), List.mem_map_of_mem he, ?_⟩
  rw [relocate_below hboth.1]
  simp [hboth.2]

theorem rename_cases (pool : Pool D) (ds child : Path) :
    (ds ∈ pool.paths ∧ pool.rename ds child = some (pool.relocated ds child)) ∨ pool.rename ds child = none := by
  rw [Pool.rename]
  split
  · rename_i hallowed
    exact .inl ⟨hallowed.1, rfl⟩
  · exact .inr rfl

/-- The paths below `src` and their new places. -/
theorem prefix_child (dst ds src : Path) : dst <+: dst ++ ds.drop src.length := List.prefix_append _ _

/-- A filesystem at the end of the list hides every failure before it. -/
theorem run_rename_children (hmoving : Moving src dst datasets pool) (hapart : Apart src dst)
    (hdatasets : ∀ d ∈ datasets, src <+: d) (status : Bool) (hstatus : datasets = [] → status = true) :
    ∃ pool', (rename_children src dst true datasets status).run pool = (.ok true, pool') ∧
      Moving src dst [] pool' := by
  induction datasets generalizing status pool with
  | nil =>
    rw [hstatus rfl]
    exact ⟨pool, rfl, hmoving⟩
  | cons ds datasets ih =>
    have hds := hdatasets ds List.mem_cons_self
    have htail : ∀ d ∈ datasets, src <+: d := fun d hd => hdatasets d (List.mem_cons_of_mem _ hd)
    rw [rename_children]
    by_cases hself : ds = src
    · rw [if_pos hself]
      exact ih hmoving.tail htail true fun _ => rfl
    · rw [if_neg hself, Procedure.run_bind, run_zfs_cmd]
      dsimp only
      rcases rename_cases pool ds (dst ++ ds.drop src.length) with ⟨hmem, hrename⟩ | hrename
      · rw [hrename]
        simp only [Option.isSome_some, if_true, Option.getD_some]
        rw [Procedure.run_bind, run_set_zoned]
        have hmoved := (hmoving.relocated hapart hds hself (prefix_child dst ds src) hdatasets).tail
        refine ih (hmoved.zone _ _) htail _ fun hnil => ?_
        subst hnil
        have hmoved := is_filesystem_relocated (dst ++ ds.drop src.length) []
          (by rw [List.append_nil]; exact hmoving.last ds rfl hself hmem)
        rwa [List.append_nil] at hmoved
      · rw [hrename]
        exact ih hmoving.tail htail true fun _ => rfl

/-- A failure in the loop either is hidden, or comes when the last dataset has been moved. -/
theorem points_rename_children (hmoving : Moving src dst datasets pool) (hapart : Apart src dst)
    (hdatasets : ∀ d ∈ datasets, src <+: d) {status : Bool} {point : CmdPoint D Bool}
    (hpoint : point ∈ (rename_children src dst true datasets status).points pool) :
    (∃ pool', point.failed.run point.state = (.ok true, pool') ∧ Moving src dst [] pool') ∨
      ∃ ds pool', point.failed.run point.state = (.ok false, pool') ∧ Moving src dst [] pool' ∧
        ds ∈ datasets ∧ ds ≠ src ∧ ds ∉ pool'.paths := by
  induction datasets generalizing status pool with
  | nil => cases hpoint
  | cons ds datasets ih =>
    have hds := hdatasets ds List.mem_cons_self
    have htail : ∀ d ∈ datasets, src <+: d := fun d hd => hdatasets d (List.mem_cons_of_mem _ hd)
    have hnext {pool' : Pool D} {status : Bool} (hmoving' : Moving src dst datasets pool')
        (hpoint : point ∈ (rename_children src dst true datasets status).points pool') :
        (∃ pool', point.failed.run point.state = (.ok true, pool') ∧ Moving src dst [] pool') ∨
          ∃ d pool', point.failed.run point.state = (.ok false, pool') ∧ Moving src dst [] pool' ∧
            d ∈ ds :: datasets ∧ d ≠ src ∧ d ∉ pool'.paths := by
      rcases ih hmoving' htail hpoint with hhidden | ⟨d, pool', hrun, hmoved, hd, hne, hgone⟩
      · exact .inl hhidden
      · exact .inr ⟨d, pool', hrun, hmoved, List.mem_cons_of_mem _ hd, hne, hgone⟩
    rw [rename_children] at hpoint
    by_cases hself : ds = src
    · rw [if_pos hself] at hpoint
      exact hnext hmoving.tail hpoint
    · rw [if_neg hself, mem_points_zfs_cmd] at hpoint
      rcases hpoint with rfl | hpoint
      · exact .inl (run_rename_children hmoving.tail hapart htail true fun _ => rfl)
      · rcases rename_cases pool ds (dst ++ ds.drop src.length) with ⟨hmem, hrename⟩ | hrename
        · have hmoved := hmoving.relocated hapart hds hself (prefix_child dst ds src) hdatasets
          rw [hrename] at hpoint
          simp only [Option.isSome_some, if_true, Option.getD_some] at hpoint
          rw [mem_points_zfs_cmd] at hpoint
          rcases hpoint with rfl | hpoint
          · cases datasets with
            | cons ds' datasets =>
              exact .inl (run_rename_children hmoved.tail hapart htail false (by simp))
            | nil =>
              refine .inr ⟨ds, _, rfl, hmoved.tail, List.mem_cons_self, hself, ?_⟩
              rw [mem_paths_relocated]
              rintro (⟨_, hunder⟩ | ⟨rest, _, hchild⟩)
              · exact hunder List.prefix_rfl
              · refine hapart.not_prefix hds ?_
                rw [hchild, List.append_assoc]
                exact List.prefix_append _ _
          · rw [set_zoned_isSome, set_zoned_getD] at hpoint
            exact hnext (hmoved.tail.zone _ _) hpoint
        · rw [hrename] at hpoint
          exact hnext hmoving.tail hpoint

/-- The commands of the loop. -/
def Step.in_rename_loop : Step → Prop
  | .rename_child _ | .zone_child _ => True
  | _ => False

theorem points_rename_children_kind {status : Bool} {point : CmdPoint D Bool}
    (hpoint : point ∈ (rename_children src dst true datasets status).points pool) : point.kind.in_rename_loop := by
  induction datasets generalizing status pool with
  | nil => cases hpoint
  | cons ds datasets ih =>
    rw [rename_children] at hpoint
    by_cases hself : ds = src
    · rw [if_pos hself] at hpoint
      exact ih hpoint
    · rw [if_neg hself, mem_points_zfs_cmd] at hpoint
      rcases hpoint with rfl | hpoint
      · trivial
      · rcases rename_cases pool ds (dst ++ ds.drop src.length) with ⟨_, hrename⟩ | hrename
        · rw [hrename] at hpoint
          simp only [Option.isSome_some, if_true] at hpoint
          rw [mem_points_zfs_cmd] at hpoint
          rcases hpoint with rfl | hpoint
          · trivial
          · exact ih hpoint
        · rw [hrename] at hpoint
          exact ih hpoint

/-- There is nothing to rename. -/
theorem run_rename_children_self (hself : ∀ d ∈ datasets, d = src) (set_zoned : Bool) (pool : Pool D) :
    (rename_children src dst set_zoned datasets true).run pool = (.ok true, pool) ∧
      (rename_children src dst set_zoned datasets true).points pool = [] := by
  induction datasets with
  | nil => exact ⟨rfl, rfl⟩
  | cons ds datasets ih =>
    rw [rename_children, if_pos (hself ds List.mem_cons_self)]
    exact ih fun d hd => hself d (List.mem_cons_of_mem _ hd)

end moving

end eslib.esbackup
