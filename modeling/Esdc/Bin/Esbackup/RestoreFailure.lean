import Esdc.Bin.Esbackup.RestoreRecovered

open zfs

namespace eslib.esbackup

open Procedure (Point)

variable {D : Type} {dest : Destination} {pool : Pool D} {source : Source D} {empty : D} {ds : Dataset D}

theorem loop_status_of_after {dataset child : Path} {before after : List Path} {datasets : List Path} {status : Bool}
    (hlist : datasets = before ++ child :: after) (hstatus : loop_status pool dataset after false = true) :
    loop_status pool dataset datasets status = true := by
  rw [loop_status, hlist, List.getLast?_append, List.getLast?_cons]
  rw [loop_status] at hstatus
  cases hlast : after.getLast? with
  | none =>
    rw [hlast] at hstatus
    cases hstatus
  | some last =>
    rw [hlast] at hstatus
    exact hstatus

/-- The other children are those of the list before and after the child. -/
theorem mem_others {dataset child : Path} {before after : List Path} (hnodup : (pool.list dataset).Nodup)
    (hlist : pool.list dataset = before ++ child :: after) (path : Path) :
    path ∈ (before ++ after).filter (· ≠ dataset) ↔ path ∈ children pool dataset ∧ path ∉ [child] := by
  rw [children, hlist, List.mem_filter, List.mem_filter, List.mem_singleton]
  rw [hlist, List.nodup_append] at hnodup
  have hafter : child ∉ after := (List.nodup_cons.mp hnodup.2.1).1
  have hbefore : child ∉ before := fun h => hnodup.2.2 child h child List.mem_cons_self rfl
  simp only [List.mem_append, List.mem_cons]
  constructor
  · rintro ⟨hmem | hmem, hne⟩
    · exact ⟨⟨.inl hmem, hne⟩, fun hsame => hbefore (hsame ▸ hmem)⟩
    · exact ⟨⟨.inr (.inr hmem), hne⟩, fun hsame => hafter (hsame ▸ hmem)⟩
  · rintro ⟨⟨hmem | hsame | hmem, hne⟩, hother⟩
    · exact ⟨.inl hmem, hne⟩
    · exact absurd hsame hother
    · exact ⟨.inr hmem, hne⟩

/-- The failures after the properties are known. -/
theorem recovered_of_known (hwf : dest.WellFormed pool) (hfind : pool.find dest.dataset = some ds)
    {point : CmdPoint D Unit}
    (hpoint : point ∈ (do
      clear dest (Dataset.attributes ds)
      rename_and_rest empty ds.kind source dest (Dataset.attributes ds) : Command D Unit).points pool)
    (hbefore : ¬ point.kind.completes) :
    Recovered dest.dataset pool (point.failed.run point.state) ↔ Recoverable dest pool point.kind := by
  by_cases hkind : ds.kind = .filesystem
  · have hattributes : Dataset.attributes ds = ⟨true, ds.zoned⟩ := by simp [Dataset.attributes, hkind]
    have hrestorable (hlast : loop_status pool dest.dataset (pool.list dest.dataset) true = true) :
        Restorable dest (Dataset.attributes ds) pool := hwf.restorable hfind fun _ => hlast
    rw [clear, Procedure.bind_assoc] at hpoint
    simp only [hattributes, if_true] at hpoint
    rw [mem_points_run_local (run_set_children hwf.exists_)] at hpoint
    rcases hpoint with ⟨first, hfirst, rfl⟩ | ⟨hlast, hpoint⟩
    · rcases points_set_children hwf.exists_ hfirst with ⟨hlisted, hrun⟩ | ⟨before, child, after, hlist, _, hchild, hrun⟩
      · have hfailed := run_bind_of_error (k := fun _ => do
          (if ds.zoned then _run_local (zfs_cmd .clear_zoned_dataset fun pool => pool.set_zoned dest.dataset false)
          else pure ())
          rename_and_rest empty ds.kind source dest ⟨true, ds.zoned⟩) (run_local_of_run hrun)
        rw [hfailed, recovered_iff_agree, hlisted]
        exact iff_of_true (fun _ _ => rfl) trivial
      · have hnodup := nodup_list hwf dest.dataset
        rw [hchild, Recoverable, ← loop_status_of_split hnodup hlist]
        cases hstatus : loop_status pool dest.dataset after false with
        | false =>
          rw [hstatus] at hrun
          have hfailed := run_bind_of_error (k := fun _ => do
            (if ds.zoned then _run_local (zfs_cmd .clear_zoned_dataset fun pool => pool.set_zoned dest.dataset false)
            else pure ())
            rename_and_rest empty ds.kind source dest ⟨true, ds.zoned⟩) (run_local_of_run hrun)
          rw [hfailed, recovered_iff_agree, agreeUnder_zone_iff [child] (mem_others hnodup hlist)]
          simp
        | true =>
          rw [hstatus] at hrun
          obtain ⟨pool', hrest⟩ := run_rest_of_cleared empty source hwf hfind hkind
            (loop_status_of_after hlist hstatus) ((before ++ after).filter (· ≠ dest.dataset))
          refine iff_of_false (not_recovered_of_ok ?_) (by simp)
          rw [hattributes] at hrest
          rw [run_bind_of_ok (run_local_of_run hrun)]
          exact congrArg Prod.fst hrest
    · rw [← hattributes] at hpoint
      exact recovered_of_children_cleared hwf hfind hkind (hrestorable hlast) hpoint hbefore
  · rw [clear, attributes_of_volume hkind] at hpoint
    have hcleared : cleared dest (Dataset.attributes ds) pool = pool := by
      rw [attributes_of_volume hkind]
      rfl
    have hrest : point ∈ (rename_and_rest empty ds.kind source dest (Dataset.attributes ds)).points
        (cleared dest (Dataset.attributes ds) pool) := by
      rw [hcleared, attributes_of_volume hkind]
      exact hpoint
    exact recovered_of_renamed hwf hfind (hwf.restorable hfind fun h => absurd h hkind) hrest hbefore

theorem run_get_dataset_properties {dataset : Path} (hfind : pool.find dataset = some ds) :
    (_get_dataset_properties dataset).run pool = (.ok ds, pool) := by
  simp only [_get_dataset_properties, Procedure.run, id_eq, hfind]

theorem points_get_dataset_properties {dataset : Path} (hfind : pool.find dataset = some ds) :
    (_get_dataset_properties dataset).points pool = [⟨.properties, .throw .mk, pool⟩] := by
  simp only [_get_dataset_properties, Procedure.points, id_eq, hfind]

theorem recovered_of_restore (hwf : dest.WellFormed pool) {point : CmdPoint D Unit}
    (hpoint : point ∈ (restore empty source dest).points pool) (hbefore : ¬ point.kind.completes) :
    Recovered dest.dataset pool (point.failed.run point.state) ↔ Recoverable dest pool point.kind := by
  obtain ⟨ds, hfind⟩ := Pool.mem_paths_iff.mp hwf.exists_
  rw [restore_eq, Procedure.mem_points_bind, points_get_dataset_properties hfind,
    run_get_dataset_properties hfind] at hpoint
  rcases hpoint with ⟨first, hfirst, rfl⟩ | ⟨_, s', hok, hpoint⟩
  · rw [List.mem_singleton] at hfirst
    subst hfirst
    exact iff_of_true (recovered_iff_agree.mpr fun _ _ => rfl) trivial
  · cases hok
    exact recovered_of_known hwf hfind hpoint hbefore

/-- When a restore, of which one command fails before it is complete, leaves the
destination as it was. -/
theorem restore_recovers_iff (empty : D) (hwf : dest.WellFormed pool) (path : Path) (snapshot : String) (content : D)
    (checksum_ok : Bool) (k : Nat) (point : CmdPoint D Unit) (hbefore : ¬ point.kind.completes) :
    (((ds_restore empty path snapshot content dest).points pool)[k]? = some point →
      (Recovered dest.dataset pool ((ds_restore empty path snapshot content dest).attempt k pool) ↔
        Recoverable dest pool point.kind)) ∧
    (((file_restore empty snapshot content checksum_ok dest).points pool)[k]? = some point →
      (Recovered dest.dataset pool ((file_restore empty snapshot content checksum_ok dest).attempt k pool) ↔
        Recoverable dest pool point.kind)) := by
  constructor
  · intro hpoint
    rw [Procedure.attempt_of_point hpoint]
    have hmem := List.mem_of_getElem? hpoint
    have hcheck : (zfs_cmd .check_dataset some).run pool = (.ok true, pool) := run_zfs_cmd _ _ _
    rw [ds_restore, mem_points_run_local hcheck] at hmem
    rcases hmem with ⟨first, hfirst, rfl⟩ | ⟨_, hmem⟩
    · rw [points_zfs_cmd, List.mem_singleton] at hfirst
      subst hfirst
      exact iff_of_true (recovered_iff_agree.mpr fun _ _ => rfl) trivial
    · exact recovered_of_restore hwf hmem hbefore
  · intro hpoint
    rw [Procedure.attempt_of_point hpoint]
    have hmem := List.mem_of_getElem? hpoint
    cases checksum_ok with
    | true => exact recovered_of_restore hwf hmem hbefore
    | false => cases hmem

/-- A dataset of a VM with two child datasets, none of them zoned. -/
def dataset_with_children : Pool Nat where
  datasets := [(["zones"], ⟨.filesystem, 0, [], false⟩), (["zones", "vm"], ⟨.filesystem, 1, ["is-1"], false⟩),
    (["zones", "vm", "first"], ⟨.filesystem, 2, [], false⟩), (["zones", "vm", "second"], ⟨.filesystem, 3, [], false⟩)]

def dataset_destination : Destination := ⟨["zones"], "vm", 1⟩

theorem dataset_destination_wellFormed : dataset_destination.WellFormed dataset_with_children :=
  ⟨by decide, by decide, by decide, by decide, by decide⟩

/-- The same dataset on a host where all of them are zoned. -/
def zoned_dataset_with_children : Pool Nat where
  datasets := dataset_with_children.datasets.map fun e => (e.1, { e.2 with zoned := e.1 ≠ ["zones"] })

/-- The snapshot is not received: the datasets are renamed back, and all children are zoned then. -/
theorem restore_recovers_iff_receive :
    Recovered dataset_destination.dataset zoned_dataset_with_children
      ((file_restore 0 "is-2" 5 true dataset_destination).attempt 7 zoned_dataset_with_children) ∧
    ¬ Recovered dataset_destination.dataset dataset_with_children
      ((file_restore 0 "is-2" 5 true dataset_destination).attempt 6 dataset_with_children) := by
  have hreceive : ¬ Step.completes .restore_dataset := by rintro (h | h) <;> cases h
  have hzoned : dataset_destination.WellFormed zoned_dataset_with_children :=
    ⟨by decide, by decide, by decide, by decide, by decide⟩
  constructor
  · refine ((restore_recovers_iff 0 hzoned ["zones", "backups", "vm"] "is-2" 5 true 7
      ⟨.restore_dataset, _, _⟩ hreceive).2 rfl).mpr ?_
    intro child hchild _ ds hfind _
    have hchildren : children zoned_dataset_with_children dataset_destination.dataset =
        [["zones", "vm", "first"], ["zones", "vm", "second"]] := by decide
    rw [hchildren] at hchild
    obtain rfl | rfl := List.mem_pair.mp hchild
    · cases hfind
      rfl
    · cases hfind
      rfl
  · refine mt ((restore_recovers_iff 0 dataset_destination_wellFormed ["zones", "backups", "vm"] "is-2" 5 true 6
      ⟨.restore_dataset, _, _⟩ hreceive).2 rfl).mp ?_
    intro hzoned
    have hfirst := hzoned ["zones", "vm", "first"] (by decide) List.not_mem_nil _ rfl rfl
    cases hfirst

/-- The first child cannot be renamed: the restore succeeds and the child is destroyed
with the temporary backup. -/
theorem restore_loses_child :
    dataset_destination.WellFormed dataset_with_children ∧
    ∃ k point pool, ((file_restore 0 "is-2" 5 true dataset_destination).points dataset_with_children)[k]? = some point ∧
      point.kind = .rename_child (dataset_destination.ds_backup ++ ["first"]) ∧
      (file_restore 0 "is-2" 5 true dataset_destination).attempt k dataset_with_children = (.ok (), pool) ∧
      ["zones", "vm", "first"] ∉ pool.paths ∧
      ¬ Recovered dataset_destination.dataset dataset_with_children (.ok (), pool) := by
  refine ⟨dataset_destination_wellFormed, 8, _, _, rfl, ?_, rfl, ?_, not_recovered_of_ok rfl⟩
  · decide
  · decide

end eslib.esbackup
