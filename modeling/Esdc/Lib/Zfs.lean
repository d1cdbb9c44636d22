import Mathlib

namespace zfs

/-- The components of the name of a dataset. -/
abbrev Path := List String

scoped instance : LawfulBEq Path := List.instLawfulBEq

inductive Kind
  | filesystem
  | volume
  deriving DecidableEq

/-- `zoned` means nothing for a volume. -/
structure Dataset (D : Type) where
  kind : Kind
  content : D
  snapshots : List String
  zoned : Bool
  deriving DecidableEq

/-- The datasets of a host in the order in which they are listed. -/
@[ext] structure Pool (D : Type) where
  datasets : List (Path × Dataset D)
  deriving DecidableEq

variable {D : Type}

def Pool.paths (pool : Pool D) : List Path := pool.datasets.map Prod.fst

def Pool.find (pool : Pool D) (path : Path) : Option (Dataset D) := pool.datasets.lookup path

/-- `zfs list -r` -/
def Pool.list (pool : Pool D) (root : Path) : List Path := pool.paths.filter (root <+: ·)

def Pool.modify (pool : Pool D) (f : Path → Dataset D → Dataset D) : Pool D :=
  ⟨pool.datasets.map fun e => (e.1, f e.1 e.2)⟩

def Pool.is_filesystem (pool : Pool D) (path : Path) : Bool :=
  pool.datasets.any fun e => e.1 = path && e.2.kind = .filesystem

/-- The filesystems among some datasets get the property. -/
def Pool.zone (pool : Pool D) (paths : List Path) (value : Bool) : Pool D :=
  pool.modify fun path ds =>
    if path ∈ paths ∧ ds.kind = .filesystem then { ds with zoned := value } else ds

/-- `zfs set zoned=value path`, which a volume refuses -/
def Pool.set_zoned (pool : Pool D) (path : Path) (value : Bool) : Option (Pool D) :=
  if pool.is_filesystem path then some (pool.zone [path] value) else none

/-- The new name of a dataset when `src` and all below it are renamed. -/
def relocate (src dst path : Path) : Path :=
  if src <+: path then dst ++ path.drop src.length else path

def Pool.relocated (pool : Pool D) (src dst : Path) : Pool D :=
  ⟨pool.datasets.map fun e => (relocate src dst e.1, e.2)⟩

/-- `zfs rename src dst` -/
def Pool.rename (pool : Pool D) (src dst : Path) : Option (Pool D) :=
  if src ∈ pool.paths ∧ dst ∉ pool.paths ∧ dst.dropLast ∈ pool.paths ∧ ¬ src <+: dst then
    some (pool.relocated src dst)
  else none

/-- `zfs create path` -/
def Pool.create (pool : Pool D) (path : Path) (ds : Dataset D) : Option (Pool D) :=
  if path ∉ pool.paths ∧ path.dropLast ∈ pool.paths then some ⟨pool.datasets ++ [(path, ds)]⟩ else none

/-- `zfs receive -F path` of a full stream -/
def Pool.receive (pool : Pool D) (path : Path) (content : D) (snapshots : List String) : Option (Pool D) :=
  if path ∈ pool.paths then
    some (pool.modify fun path' ds => if path' = path then { ds with content, snapshots } else ds)
  else none

/-- What is left of the things in datasets without `path` and all below it. -/
def without {A : Type} (dataset : A → Path) (path : Path) (items : List A) : List A :=
  items.filter fun a => ¬ path <+: dataset a

theorem mem_without {A : Type} {dataset : A → Path} {path : Path} {items : List A} {a : A} :
    a ∈ without dataset path items ↔ a ∈ items ∧ ¬ path <+: dataset a := by
  simp [without]

def Pool.without (pool : Pool D) (path : Path) : Pool D := ⟨zfs.without Prod.fst path pool.datasets⟩

/-- `zfs destroy -rRf path` of a dataset that nothing is cloned from -/
def Pool.destroy (pool : Pool D) (path : Path) : Option (Pool D) :=
  if path ∈ pool.paths then some (pool.without path) else none

/-- `zfs destroy path@name` -/
def Pool.destroy_snapshots (pool : Pool D) (path : Path) (names : List String) : Option (Pool D) :=
  if path ∈ pool.paths then
    some (pool.modify fun path' ds =>
      if path' = path then { ds with snapshots := ds.snapshots.filter (· ∉ names) } else ds)
  else none

/-- A dataset and all below it are the same in two pools. -/
def Pool.AgreeUnder (root : Path) (pool pool' : Pool D) : Prop :=
  ∀ path, root <+: path → pool.find path = pool'.find path

theorem lookup_cons_self (e : Path × Dataset D) (datasets : List (Path × Dataset D)) :
    (e :: datasets).lookup e.1 = some e.2 := by
  obtain ⟨path, ds⟩ := e
  simp

theorem lookup_cons_of_ne {path : Path} {e : Path × Dataset D} (hpath : path ≠ e.1)
    (datasets : List (Path × Dataset D)) : (e :: datasets).lookup path = datasets.lookup path := by
  obtain ⟨path', ds⟩ := e
  simp [List.lookup_cons, beq_eq_false_iff_ne.mpr hpath]

@[simp] theorem Pool.paths_modify (pool : Pool D) (f : Path → Dataset D → Dataset D) :
    (pool.modify f).paths = pool.paths := by
  simp [Pool.paths, Pool.modify, Function.comp_def]

theorem Pool.find_modify (pool : Pool D) (f : Path → Dataset D → Dataset D) (path : Path) :
    (pool.modify f).find path = (pool.find path).map (f path) := by
  obtain ⟨datasets⟩ := pool
  simp only [Pool.find, Pool.modify]
  induction datasets with
  | nil => rfl
  | cons e datasets ih =>
    rw [List.map_cons]
    by_cases hpath : path = e.1
    · subst hpath
      rw [lookup_cons_self, lookup_cons_self (e.1, f e.1 e.2)]
      rfl
    · rw [lookup_cons_of_ne hpath, lookup_cons_of_ne (e := (e.1, f e.1 e.2)) hpath, ih]

theorem Pool.modify_modify (pool : Pool D) (f g : Path → Dataset D → Dataset D) :
    (pool.modify f).modify g = pool.modify fun path ds => g path (f path ds) := by
  simp [Pool.modify, Function.comp_def]

theorem Pool.modify_id (pool : Pool D) : (pool.modify fun _ ds => ds) = pool := by
  simp [Pool.modify]

theorem Pool.modify_congr {pool : Pool D} {f g : Path → Dataset D → Dataset D}
    (hsame : ∀ e ∈ pool.datasets, f e.1 e.2 = g e.1 e.2) : pool.modify f = pool.modify g := by
  rw [Pool.modify, Pool.modify]
  congr 1
  apply List.map_congr_left
  intro e he
  rw [hsame e he]

theorem Pool.mem_paths_iff {pool : Pool D} {path : Path} :
    path ∈ pool.paths ↔ ∃ ds, pool.find path = some ds := by
  obtain ⟨datasets⟩ := pool
  simp only [Pool.paths, Pool.find]
  induction datasets with
  | nil => simp
  | cons e datasets ih =>
    rw [List.map_cons, List.mem_cons]
    by_cases hpath : path = e.1
    · subst hpath
      rw [lookup_cons_self]
      simp
    · rw [lookup_cons_of_ne hpath, ← ih]
      simp [hpath]

theorem Pool.find_of_mem {pool : Pool D} (hnodup : pool.paths.Nodup) {e : Path × Dataset D}
    (he : e ∈ pool.datasets) : pool.find e.1 = some e.2 := by
  obtain ⟨datasets⟩ := pool
  simp only [Pool.paths, Pool.find] at *
  induction datasets with
  | nil => cases he
  | cons e' datasets ih =>
    rw [List.map_cons, List.nodup_cons] at hnodup
    rcases List.mem_cons.mp he with rfl | hmem
    · exact lookup_cons_self _ _
    · have hpath : e.1 ≠ e'.1 := by
        intro hsame
        exact hnodup.1 (List.mem_map.mpr ⟨e, hmem, hsame⟩)
      rw [lookup_cons_of_ne hpath, ih hnodup.2 hmem]

theorem Pool.mem_of_find {pool : Pool D} {path : Path} {ds : Dataset D} (hfind : pool.find path = some ds) :
    (path, ds) ∈ pool.datasets := by
  obtain ⟨datasets⟩ := pool
  simp only [Pool.find] at *
  induction datasets with
  | nil => cases hfind
  | cons e datasets ih =>
    by_cases hpath : path = e.1
    · subst hpath
      rw [lookup_cons_self] at hfind
      rw [← Option.some.inj hfind]
      exact List.mem_cons_self
    · rw [lookup_cons_of_ne hpath] at hfind
      exact List.mem_cons_of_mem _ (ih hfind)

theorem Pool.zone_eq_self {pool : Pool D} {path : Path} (hvolume : pool.is_filesystem path = false)
    (value : Bool) : pool.zone [path] value = pool := by
  conv_rhs => rw [← pool.modify_id]
  apply Pool.modify_congr
  intro e he
  have hnot := List.any_eq_false.mp hvolume e he
  simp only [List.mem_singleton]
  split
  · rename_i hboth
    simp [hboth.1, hboth.2] at hnot
  · rfl

theorem Pool.zone_nil (pool : Pool D) (value : Bool) : pool.zone [] value = pool := by
  conv_rhs => rw [← pool.modify_id]
  apply Pool.modify_congr
  simp

theorem Pool.zone_zone (pool : Pool D) (paths paths' : List Path) (value : Bool) :
    (pool.zone paths value).zone paths' value = pool.zone (paths ++ paths') value := by
  rw [Pool.zone, Pool.zone, Pool.modify_modify]
  apply Pool.modify_congr
  intro e _
  by_cases hfirst : e.1 ∈ paths <;> by_cases hsecond : e.1 ∈ paths' <;>
    by_cases hkind : e.2.kind = .filesystem <;> simp [hfirst, hsecond, hkind]

theorem Pool.is_filesystem_modify {pool : Pool D} {f : Path → Dataset D → Dataset D}
    (hkind : ∀ path ds, (f path ds).kind = ds.kind) (path : Path) :
    (pool.modify f).is_filesystem path = pool.is_filesystem path := by
  simp [Pool.is_filesystem, Pool.modify, List.any_map, Function.comp_def, hkind]

@[simp] theorem Pool.is_filesystem_zone (pool : Pool D) (paths : List Path) (value : Bool) (path : Path) :
    (pool.zone paths value).is_filesystem path = pool.is_filesystem path := by
  apply Pool.is_filesystem_modify
  intro path ds
  split <;> rfl

/-- What agrees under a dataset after a change. -/
theorem Pool.agreeUnder_modify_iff {pool : Pool D} {f : Path → Dataset D → Dataset D} {root : Path} :
    Pool.AgreeUnder root (pool.modify f) pool ↔
      ∀ path ds, root <+: path → pool.find path = some ds → f path ds = ds := by
  constructor
  · intro hagree path ds hunder hfind
    have h := hagree path hunder
    rw [Pool.find_modify, hfind] at h
    exact Option.some.inj h
  · intro hsame path hunder
    rw [Pool.find_modify]
    cases hfind : pool.find path with
    | none => rfl
    | some ds => rw [Option.map_some, hsame path ds hunder hfind]

theorem relocate_below {src dst path rest : Path} (hpath : path = src ++ rest) :
    relocate src dst path = dst ++ rest := by
  rw [relocate, if_pos ⟨rest, hpath.symm⟩, hpath, List.drop_left]

theorem relocate_not_below {src dst path : Path} (hpath : ¬ src <+: path) :
    relocate src dst path = path := if_neg hpath

/-- Renaming there and back. -/
theorem relocate_relocate {src dst path : Path} (hfresh : ¬ dst <+: path) :
    relocate dst src (relocate src dst path) = path := by
  by_cases hunder : src <+: path
  · obtain ⟨rest, rfl⟩ := hunder
    rw [relocate_below rfl, relocate_below rfl]
  · rw [relocate_not_below hunder, relocate_not_below hfresh]

theorem Pool.relocated_relocated {pool : Pool D} {src dst : Path} (hfresh : ∀ path ∈ pool.paths, ¬ dst <+: path) :
    (pool.relocated src dst).relocated dst src = pool := by
  ext1
  simp only [Pool.relocated, List.map_map]
  conv_rhs => rw [← List.map_id pool.datasets]
  apply List.map_congr_left
  intro e he
  simp only [Function.comp_apply, id_eq]
  rw [relocate_relocate (hfresh e.1 (List.mem_map_of_mem he))]

end zfs
