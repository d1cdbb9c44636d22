import Esdc.Bin.Esbackup.Delete

namespace eslib.esbackup.delete

open zfs (Path)
open scoped zfs
open Procedure (query command checked assign state)

variable {fails : Step → Bool} {host : Host} {bkp : Backup}

/-- The node and its storage stay as they are. -/
def Unchanged {α : Type} (fails : Step → Bool) (command : Command α) : Prop :=
  ∀ bkp, (command.under fails bkp).2.node = bkp.node

theorem Unchanged.bind {α β : Type} {p : Command α} {k : α → Command β} (hp : Unchanged fails p)
    (hk : ∀ a, Unchanged fails (k a)) : Unchanged fails (p >>= k) := by
  intro bkp
  have hfirst := hp bkp
  rw [Procedure.under_bind]
  rcases hrun : p.under fails bkp with ⟨e | a, bkp'⟩
  · rw [hrun] at hfirst
    exact hfirst
  · rw [hrun] at hfirst
    exact (hk a bkp').trans hfirst

theorem Unchanged.handle {α : Type} {p : Command α} {h : Error → Command α} (hp : Unchanged fails p)
    (hh : ∀ e, Unchanged fails (h e)) : Unchanged fails (p.handle h) := by
  intro bkp
  have hfirst := hp bkp
  rw [Procedure.under_handle]
  rcases hrun : p.under fails bkp with ⟨e | a, bkp'⟩
  · rw [hrun] at hfirst
    exact (hh e bkp').trans hfirst
  · rw [hrun] at hfirst
    exact hfirst

theorem Unchanged.query {α : Type} (step : Step) (f : Backup → Option α) (e : Error) :
    Unchanged fails (query step f e) := by
  intro bkp
  rw [Procedure.under_query]
  cases fails step <;> cases f bkp <;> rfl

theorem Unchanged.pure {α : Type} (a : α) : Unchanged fails (Pure.pure a : Command α) := fun _ => rfl

/-- A command that always ends with a response. -/
def Answers {α : Type} (fails : Step → Bool) (command : Command α) : Prop :=
  ∀ bkp, ∃ response bkp', command.under fails bkp = (.ok response, bkp')

theorem Answers.bind {α β : Type} {p : Command α} {k : α → Command β} (hp : Answers fails p)
    (hk : ∀ a, Answers fails (k a)) : Answers fails (p >>= k) := by
  intro bkp
  obtain ⟨a, bkp', hrun⟩ := hp bkp
  obtain ⟨b, bkp'', hrest⟩ := hk a bkp'
  exact ⟨b, bkp'', (Procedure.under_bind_of_ok hrun).trans hrest⟩

theorem Answers.pure {α : Type} (a : α) : Answers fails (Pure.pure a : Command α) := fun bkp => ⟨a, bkp, rfl⟩

section sizes

theorem unchanged_list_sizes (datasets : List Path) : Unchanged fails (list_sizes host datasets) := by
  induction datasets with
  | nil => exact Unchanged.pure _
  | cons ds datasets ih =>
    refine ((Unchanged.query _ _ _).handle fun _ => Unchanged.pure _).bind fun _ => ?_
    exact ih.bind fun _ => Unchanged.pure _

theorem answers_list_sizes (datasets : List Path) : Answers fails (list_sizes host datasets) := by
  induction datasets with
  | nil => exact Answers.pure _
  | cons ds datasets ih =>
    refine Answers.bind (fun bkp => ?_) fun _ => ih.bind fun _ => Answers.pure _
    rw [Procedure.under_handle]
    rcases Procedure.under fails _ bkp with ⟨e | a, bkp'⟩
    · exact ⟨_, _, rfl⟩
    · exact ⟨_, _, rfl⟩

theorem unchanged_ds_delete_response (fails : Step → Bool) (host : Host) : Unchanged fails (ds_delete_response host) := by
  refine Unchanged.bind (fun bkp => ?_) fun _ => Unchanged.bind (fun _ => rfl) fun _ => Unchanged.pure _
  rw [_list_dataset_snapshot_size, Procedure.under_bind_of_ok (Procedure.under_state bkp)]
  split
  · rfl
  · exact unchanged_list_sizes _ bkp

theorem answers_ds_delete_response (fails : Step → Bool) (host : Host) : Answers fails (ds_delete_response host) := by
  refine Answers.bind (fun bkp => ?_) fun _ => Answers.bind (fun bkp => ⟨_, _, rfl⟩) fun _ => Answers.pure _
  rw [_list_dataset_snapshot_size, Procedure.under_bind_of_ok (Procedure.under_state bkp)]
  split
  · exact ⟨_, _, rfl⟩
  · exact answers_list_sizes _ bkp

end sizes

/-- The file is removed or the removal fails silently. -/
theorem answers_remove_metadata (jsonfile : String) (bkp : Backup) :
    ∃ bkp', (_remove_json_metadata_file jsonfile).under fails bkp = (.ok (), bkp') ∧
      bkp'.node.snapshots = bkp.node.snapshots ∧ ∀ path ∈ bkp'.node.files, path ∈ bkp.node.files := by
  rw [_remove_json_metadata_file]
  rcases Procedure.under_command_cases (E := Error) fails .remove_metadata (fun bkp : Backup =>
    (bkp.node.remove jsonfile).map fun node => { bkp with node }) bkp with ⟨bkp', heffect, _, hrun⟩ | ⟨_, hrun⟩
  · refine ⟨_, Procedure.under_bind_of_ok hrun, ?_⟩
    obtain ⟨node, hnode, rfl⟩ := Option.map_eq_some_iff.mp heffect
    rw [Storage.remove] at hnode
    split at hnode
    · cases hnode
      exact ⟨rfl, fun path hpath => (List.mem_filter.mp hpath).1⟩
    · cases hnode
  · exact ⟨_, Procedure.under_bind_of_ok hrun, rfl, fun path hpath => hpath⟩

section storage

variable {node node' : Storage} {snapshots : List Snapshot} {ds ds' : Path}

/-- No snapshot of the dataset is to be kept. -/
def Complete (node : Storage) (snapshots : List Snapshot) (ds : Path) : Prop :=
  ∀ snap ∈ node.snapshots, snap.dataset = ds → snap ∈ snapshots

instance : Decidable (Complete node snapshots ds) := by
  unfold Complete
  infer_instance

/-- What the destruction in a dataset leaves of the storage. -/
def Storage.without_requested (node : Storage) (snapshots : List Snapshot) (ds : Path) : Storage :=
  if Complete node snapshots ds then
    { node with
      datasets := zfs.without id ds node.datasets
      snapshots := zfs.without Snapshot.dataset ds node.snapshots }
  else { node with snapshots := node.snapshots.filter fun snap => ¬ (snap ∈ snapshots ∧ snap.dataset = ds) }

theorem mem_datasets_without_requested :
    ds' ∈ (node.without_requested snapshots ds).datasets ↔
      ds' ∈ node.datasets ∧ ¬ (Complete node snapshots ds ∧ ds <+: ds') := by
  rw [Storage.without_requested]
  split
  · case isTrue hcomplete => simp [zfs.mem_without, hcomplete]
  · case isFalse hkeep => simp [hkeep]

theorem mem_snapshots_without_requested {snap : Snapshot} :
    snap ∈ (node.without_requested snapshots ds).snapshots ↔
      snap ∈ node.snapshots ∧ ¬ (snap ∈ snapshots ∧ snap.dataset = ds) ∧
        ¬ (Complete node snapshots ds ∧ ds <+: snap.dataset) := by
  rw [Storage.without_requested]
  split
  · case isTrue hcomplete =>
    simp only [zfs.mem_without, hcomplete, true_and]
    refine and_congr_right fun _ => ⟨fun hbelow => ⟨?_, hbelow⟩, And.right⟩
    rintro ⟨_, rfl⟩
    exact hbelow List.prefix_rfl
  · case isFalse hkeep =>
    simp only [List.mem_filter, decide_eq_true_eq, hkeep, false_and, not_false_eq_true, and_true]

theorem remaining_without_requested {snap : Snapshot} (hsnap : snap ∈ (node.without_requested snapshots ds).snapshots) :
    snap ∈ node.snapshots := (mem_snapshots_without_requested.mp hsnap).1

/-- A dataset that is still there has all of its snapshots. -/
theorem list_without_requested (hne : ds' ≠ ds) (hmem : ds' ∈ (node.without_requested snapshots ds).datasets) :
    (node.without_requested snapshots ds).snapshots.filter (·.dataset = ds') =
      node.snapshots.filter (·.dataset = ds') := by
  have hbelow := (mem_datasets_without_requested.mp hmem).2
  rw [Storage.without_requested]
  split
  · case isTrue hcomplete =>
    dsimp only
    rw [zfs.without, List.filter_filter]
    apply List.filter_congr
    intro snap _
    by_cases hdataset : snap.dataset = ds'
    · have hnot : ¬ ds <+: ds' := fun h => hbelow ⟨hcomplete, h⟩
      simp [hdataset, hnot]
    · simp [hdataset]
  · rw [List.filter_filter]
    apply List.filter_congr
    intro snap _
    by_cases hdataset : snap.dataset = ds' <;> simp [hdataset, hne]

end storage

theorem answers_destroy_last (fails : Step → Bool) (last_snapshots : List Snapshot) (bkp : Backup) :
    ∃ bkp', (destroy_last_snapshots last_snapshots).under fails bkp = (.ok (), bkp') ∧
      ∀ snap ∈ bkp'.node.snapshots, snap ∈ bkp.node.snapshots := by
  cases last_snapshots with
  | nil => exact ⟨_, rfl, fun _ hsnap => hsnap⟩
  | cons first last_snapshots =>
    rcases Procedure.under_command_cases (E := Error) fails .destroy_last (fun bkp : Backup => bkp.run_remote
      (·.destroy_snapshots first.dataset ((first :: last_snapshots).map Snapshot.id))) bkp with
      ⟨bkp', heffect, _, hrun⟩ | ⟨_, hrun⟩
    · refine ⟨_, Procedure.under_bind_of_ok hrun, ?_⟩
      rw [Backup.run_remote] at heffect
      split at heffect
      · obtain ⟨node, hdestroy, rfl⟩ := Option.map_eq_some_iff.mp heffect
        exact fun snap hsnap => ((mem_destroy_snapshots hdestroy snap).mp hsnap).1
      · obtain ⟨remote, _, rfl⟩ := Option.map_eq_some_iff.mp heffect
        exact fun _ hsnap => hsnap
    · exact ⟨_, Procedure.under_bind_of_ok hrun, fun _ hsnap => hsnap⟩

section datasets

variable {node : Storage} {snapshots : List Snapshot}

/-- The snapshots of the dataset can be listed. -/
def Listable (fails : Step → Bool) (node : Storage) (ds : Path) : Prop :=
  ds ∈ node.datasets ∧ fails (.list ds) = false

/-- Some of the snapshots to delete exist in the dataset. -/
def Affected (node : Storage) (snapshots : List Snapshot) (ds : Path) : Prop :=
  ∃ snap ∈ snapshots, snap.dataset = ds ∧ snap ∈ node.snapshots

/-- The listings before the first destruction. -/
def current_of (node : Storage) (datasets : List Path) : List (Path × List Snapshot) :=
  datasets.map fun ds => (ds, node.snapshots.filter (·.dataset = ds))

theorem under_list_current (datasets : List Path) (bkp : Backup) :
    ((∀ ds ∈ datasets, Listable fails bkp.node ds) ∧
        (list_current datasets).under fails bkp = (.ok (current_of bkp.node datasets), bkp)) ∨
      ((∃ ds ∈ datasets, ¬ Listable fails bkp.node ds) ∧
        ∃ e, (list_current datasets).under fails bkp = (.error e, bkp)) := by
  induction datasets with
  | nil => exact .inl ⟨fun ds hds => absurd hds List.not_mem_nil, rfl⟩
  | cons ds datasets ih =>
    rw [list_current]
    by_cases hlistable : Listable fails bkp.node ds
    · have hlist : (_list_dataset_snapshots ds).under fails bkp =
          (.ok (bkp.node.snapshots.filter (·.dataset = ds)), bkp) := by
        rw [_list_dataset_snapshots, Procedure.under_query, hlistable.2, Storage.list, if_pos hlistable.1]
        rfl
      rw [Procedure.under_bind_of_ok hlist]
      rcases ih with ⟨hall, hrest⟩ | ⟨⟨ds', hds', hnot⟩, e, hrest⟩
      · refine .inl ⟨?_, Procedure.under_bind_of_ok hrest⟩
        intro ds' hds'
        rcases List.mem_cons.mp hds' with rfl | hmem
        · exact hlistable
        · exact hall ds' hmem
      · exact .inr ⟨⟨ds', List.mem_cons_of_mem _ hds', hnot⟩, e, Procedure.under_bind_of_error hrest⟩
    · refine .inr ⟨⟨ds, List.mem_cons_self, hlistable⟩, .cmd (.list ds), ?_⟩
      refine Procedure.under_bind_of_error ?_
      rw [_list_dataset_snapshots, Procedure.under_query]
      cases hfails : fails (.list ds) with
      | true => rfl
      | false =>
        have hmissing : ds ∉ bkp.node.datasets := fun hmem => hlistable ⟨hmem, hfails⟩
        rw [Storage.list, if_neg hmissing]
        rfl

theorem not_affected_iff {ds : Path} :
    ¬ Affected node snapshots ds ↔
      (((snapshots.filter (·.dataset = ds)).filter (· ∈ node.snapshots.filter (·.dataset = ds))).map
        Snapshot.id).isEmpty = true := by
  rw [List.isEmpty_iff, List.map_eq_nil_iff, List.filter_eq_nil_iff, Affected]
  constructor
  · intro hnot snap hsnap hmem
    simp only [List.mem_filter, decide_eq_true_eq] at hsnap hmem
    exact hnot ⟨snap, hsnap.1, hsnap.2, hmem.1⟩
  · rintro hnone ⟨snap, hsnap, hds, hmem⟩
    exact hnone snap (by simp [hsnap, hds]) (by simp [hmem, hds])

section listing

variable {storage : Storage}
  (hlist : storage.snapshots.filter (·.dataset = ds) = node.snapshots.filter (·.dataset = ds))

include hlist

theorem mem_congr {snap : Snapshot} (hdataset : snap.dataset = ds) : snap ∈ storage.snapshots ↔ snap ∈ node.snapshots := by
  have hmem : snap ∈ storage.snapshots.filter (·.dataset = ds) ↔ snap ∈ node.snapshots.filter (·.dataset = ds) := by
    rw [hlist]
  simpa [hdataset] using hmem

theorem complete_congr : Complete storage snapshots ds ↔ Complete node snapshots ds :=
  ⟨fun hall snap hsnap hdataset => hall snap ((mem_congr hlist hdataset).mpr hsnap) hdataset,
    fun hall snap hsnap hdataset => hall snap ((mem_congr hlist hdataset).mp hsnap) hdataset⟩

theorem affected_congr : Affected storage snapshots ds ↔ Affected node snapshots ds := by
  constructor
  · exact fun ⟨snap, hsnap, hdataset, hmem⟩ => ⟨snap, hsnap, hdataset, (mem_congr hlist hdataset).mp hmem⟩
  · exact fun ⟨snap, hsnap, hdataset, hmem⟩ => ⟨snap, hsnap, hdataset, (mem_congr hlist hdataset).mpr hmem⟩

end listing

/-- The destruction in one dataset, whose listing is that of before. -/
theorem destroy_requested {storage : Storage} (hds : ds ∈ storage.datasets) (haffected : Affected node snapshots ds)
    (hlist : storage.snapshots.filter (·.dataset = ds) = node.snapshots.filter (·.dataset = ds)) :
    (if (node.snapshots.filter (·.dataset = ds)).any (· ∉ snapshots.filter (·.dataset = ds)) then
        storage.destroy_snapshots ds (((snapshots.filter (·.dataset = ds)).filter
          (· ∈ node.snapshots.filter (·.dataset = ds))).map Snapshot.id)
      else storage.destroy ds) = some (storage.without_requested snapshots ds) := by
  have hcomplete : Complete storage snapshots ds ↔
      ¬ (node.snapshots.filter (·.dataset = ds)).any (· ∉ snapshots.filter (·.dataset = ds)) := by
    rw [← hlist, Complete]
    simp only [List.any_eq_true, List.mem_filter, decide_eq_true_eq, not_exists, not_and, and_imp]
    constructor
    · exact fun hall snap hsnap hdataset hnot => absurd hdataset (hnot (hall snap hsnap hdataset))
    · intro hall snap hsnap hdataset
      by_contra hnot
      exact hall snap hsnap hdataset fun hrequested => absurd hrequested hnot
  obtain ⟨found, hfound, hdataset, hmem⟩ := haffected
  have hstored := (mem_congr hlist hdataset).mpr hmem
  split
  · case isTrue hkeep =>
    have hid : found.id ∈ ((snapshots.filter (·.dataset = ds)).filter
        (· ∈ node.snapshots.filter (·.dataset = ds))).map Snapshot.id :=
      List.mem_map_of_mem (by simp [hfound, hmem, hdataset])
    rw [Storage.without_requested, if_neg (fun h => hcomplete.mp h hkeep), Storage.destroy_snapshots,
      if_pos ⟨hds, found, hstored, hdataset, hid⟩]
    congr 2
    apply List.filter_congr
    intro snap hsnap
    simp only [decide_eq_decide]
    apply not_congr
    simp only [List.mem_map, ← hlist, List.mem_filter, decide_eq_true_eq]
    constructor
    · rintro ⟨hdataset, snap', ⟨⟨hsnap', hdataset'⟩, _⟩, hid⟩
      have hsame : snap' = snap := by
        cases snap
        cases snap'
        simp_all
      rw [← hsame]
      exact ⟨hsnap', hdataset'⟩
    · rintro ⟨hrequested, hdataset⟩
      exact ⟨hdataset, snap, ⟨⟨hrequested, hdataset⟩, hsnap, hdataset⟩, rfl⟩
  · case isFalse hkeep =>
    rw [Storage.without_requested, if_pos (hcomplete.mpr hkeep), Storage.destroy, if_pos hds]

theorem destroy_missing {storage : Storage} (hds : ds ∉ storage.datasets) (keep : Bool) (ids : List Nat) :
    (if keep then storage.destroy_snapshots ds ids else storage.destroy ds) = none := by
  split
  · rw [Storage.destroy_snapshots, if_neg fun h => hds h.1]
  · rw [Storage.destroy, if_neg hds]

/-- The listing of every dataset that is still there is that of before. -/
def Current (node storage : Storage) (datasets : List Path) : Prop :=
  ∀ ds ∈ datasets, ds ∈ storage.datasets →
    storage.snapshots.filter (·.dataset = ds) = node.snapshots.filter (·.dataset = ds)

theorem Current.without_requested {storage : Storage} {datasets : List Path} (hds : ds ∉ datasets)
    (hcurrent : Current node storage (ds :: datasets)) : Current node (storage.without_requested snapshots ds) datasets := by
  intro ds' hmem hkept
  have hne : ds' ≠ ds := fun h => hds (h ▸ hmem)
  have hbefore := (mem_datasets_without_requested.mp hkept).1
  exact (list_without_requested hne hkept).trans (hcurrent ds' (List.mem_cons_of_mem _ hmem) hbefore)

/-- A destruction in a dataset goes through if the dataset is still there. -/
theorem under_destroy_dataset (fails : Step → Bool) (node : Storage) (snapshots : List Snapshot) (ds : Path) (bkp : Backup)
    (hlist : ds ∈ bkp.node.datasets →
      bkp.node.snapshots.filter (·.dataset = ds) = node.snapshots.filter (·.dataset = ds)) :
    let run := (destroy_dataset (snapshots.filter (·.dataset = ds)) (node.snapshots.filter (·.dataset = ds)) ds).under
      fails bkp
    (¬ Affected node snapshots ds ∧ run = (.ok (), bkp)) ∨
      (Affected node snapshots ds ∧ ¬ (fails (.destroy ds) = false ∧ ds ∈ bkp.node.datasets) ∧
        ∃ e, run = (.error e, bkp)) ∨
      (Affected node snapshots ds ∧ fails (.destroy ds) = false ∧ ds ∈ bkp.node.datasets ∧
        ∃ bkp', run = (.ok (), bkp') ∧ bkp'.node = bkp.node.without_requested snapshots ds) := by
  dsimp only
  rw [destroy_dataset]
  by_cases haffected : Affected node snapshots ds
  · have hsome := mt not_affected_iff.mpr (fun h => h haffected)
    simp only [if_neg hsome]
    cases hfails : fails (.destroy ds) with
    | true =>
      refine .inr (.inl ⟨haffected, by simp, .cmd (.destroy ds), Procedure.under_bind_of_error ?_⟩)
      rw [Procedure.under_checked, hfails]
      rfl
    | false =>
      by_cases hds : ds ∈ bkp.node.datasets
      · refine .inr (.inr ⟨haffected, rfl, hds, ?_⟩)
        rw [Procedure.under_bind, Procedure.under_checked, hfails, destroy_requested hds haffected (hlist hds)]
        exact ⟨_, rfl, rfl⟩
      · refine .inr (.inl ⟨haffected, by simp [hds], .cmd (.destroy ds), Procedure.under_bind_of_error ?_⟩)
        rw [Procedure.under_checked, hfails, destroy_missing hds]
        rfl
  · have hnone := not_affected_iff.mp haffected
    simp only [if_pos hnone]
    exact .inl ⟨haffected, rfl⟩

/-- The first destruction fails. -/
def FirstFails (fails : Step → Bool) (node : Storage) (snapshots : List Snapshot) (datasets : List Path) : Prop :=
  ∃ before ds after, datasets = before ++ ds :: after ∧ (∀ d ∈ before, ¬ Affected node snapshots d) ∧
    Affected node snapshots ds ∧ fails (.destroy ds) = true

theorem firstFails_cons {ds : Path} {datasets : List Path} :
    FirstFails fails node snapshots (ds :: datasets) ↔
      (Affected node snapshots ds ∧ fails (.destroy ds) = true) ∨
        (¬ Affected node snapshots ds ∧ FirstFails fails node snapshots datasets) := by
  constructor
  · rintro ⟨before, d, after, hdatasets, hbefore, haffected, hfails⟩
    cases before with
    | nil =>
      cases hdatasets
      exact .inl ⟨haffected, hfails⟩
    | cons d' before =>
      cases hdatasets
      exact .inr ⟨hbefore ds List.mem_cons_self,
        before, d, after, rfl, fun d' hd' => hbefore d' (List.mem_cons_of_mem _ hd'), haffected, hfails⟩
  · rintro (⟨haffected, hfails⟩ | ⟨hnot, before, d, after, rfl, hbefore, haffected, hfails⟩)
    · exact ⟨[], ds, datasets, rfl, fun d hd => absurd hd List.not_mem_nil, haffected, hfails⟩
    · refine ⟨ds :: before, d, after, rfl, ?_, haffected, hfails⟩
      intro d' hd'
      rcases List.mem_cons.mp hd' with rfl | hmem
      · exact hnot
      · exact hbefore d' hmem

/-- Every destruction goes through: none of them fails, and none follows that of a dataset above. -/
def Passes (fails : Step → Bool) (node storage : Storage) (snapshots : List Snapshot) (datasets : List Path) : Prop :=
  (∀ ds ∈ datasets, Affected node snapshots ds → fails (.destroy ds) = false ∧ ds ∈ storage.datasets) ∧
    datasets.Pairwise fun ds ds' => Affected node snapshots ds → Complete node snapshots ds →
      Affected node snapshots ds' → ¬ ds <+: ds'

theorem passes_cons_of_not {storage : Storage} {datasets : List Path} (hnot : ¬ Affected node snapshots ds) :
    Passes fails node storage snapshots (ds :: datasets) ↔ Passes fails node storage snapshots datasets := by
  simp [Passes, hnot]

theorem passes_cons {storage : Storage} {datasets : List Path} (haffected : Affected node snapshots ds)
    (hcomplete : ds ∈ storage.datasets → (Complete storage snapshots ds ↔ Complete node snapshots ds)) :
    Passes fails node storage snapshots (ds :: datasets) ↔
      (fails (.destroy ds) = false ∧ ds ∈ storage.datasets) ∧
        Passes fails node (storage.without_requested snapshots ds) snapshots datasets := by
  rw [Passes, Passes, List.forall_mem_cons, List.pairwise_cons]
  constructor
  · rintro ⟨⟨hfirst, hrest⟩, hbelow, hpairwise⟩
    refine ⟨hfirst haffected, fun ds' hds' haffected' => ⟨(hrest ds' hds' haffected').1, ?_⟩, hpairwise⟩
    refine mem_datasets_without_requested.mpr ⟨(hrest ds' hds' haffected').2, fun hboth => ?_⟩
    exact hbelow ds' hds' haffected ((hcomplete (hfirst haffected).2).mp hboth.1) haffected' hboth.2
  · rintro ⟨hfirst, hrest, hpairwise⟩
    have hkept (ds' : Path) (hds' : ds' ∈ datasets) (haffected' : Affected node snapshots ds') :=
      mem_datasets_without_requested.mp (hrest ds' hds' haffected').2
    refine ⟨⟨fun _ => hfirst, fun ds' hds' haffected' =>
      ⟨(hrest ds' hds' haffected').1, (hkept ds' hds' haffected').1⟩⟩, ?_, hpairwise⟩
    intro ds' hds' _ hwhole haffected' hbelow
    exact (hkept ds' hds' haffected').2 ⟨(hcomplete hfirst.2).mpr hwhole, hbelow⟩

/-- The datasets are destroyed one after another, up to the first destruction that does not go through. -/
theorem under_destroy_datasets (fails : Step → Bool) (node : Storage) (snapshots : List Snapshot)
    {datasets : List Path} (hnodup : datasets.Nodup) (bkp : Backup) (hcurrent : Current node bkp.node datasets)
    (hremaining : ∀ snap ∈ bkp.node.snapshots, snap ∈ node.snapshots) :
    let run := (destroy_datasets snapshots (current_of node datasets)).under fails bkp
    (∀ snap ∈ run.2.node.snapshots, snap ∈ bkp.node.snapshots) ∧
      ((Passes fails node bkp.node snapshots datasets ∧ run.1 = .ok () ∧
          ∀ snap ∈ snapshots, snap.dataset ∈ datasets → snap ∉ run.2.node.snapshots) ∨
        (¬ Passes fails node bkp.node snapshots datasets ∧ ∃ e, run.1 = .error e)) := by
  induction datasets generalizing bkp with
  | nil => exact ⟨fun _ hsnap => hsnap, .inl ⟨⟨by simp, List.Pairwise.nil⟩, rfl, by simp⟩⟩
  | cons ds datasets ih =>
    obtain ⟨hnew, hnodup⟩ := List.nodup_cons.mp hnodup
    have hlist := hcurrent ds List.mem_cons_self
    dsimp only
    rw [current_of, List.map_cons, destroy_datasets]
    rcases under_destroy_dataset fails node snapshots ds bkp hlist with
      ⟨hnot, hrun⟩ | ⟨haffected, hstops, e, hrun⟩ | ⟨haffected, hfails, hds, bkp', hrun, hnode⟩
    · rw [Procedure.under_bind_of_ok hrun, passes_cons_of_not hnot]
      obtain ⟨hsub, hrest⟩ := ih hnodup bkp (fun ds' hds' => hcurrent ds' (List.mem_cons_of_mem _ hds')) hremaining
      refine ⟨hsub, hrest.imp_left fun ⟨hpasses, hok, hgone⟩ => ⟨hpasses, hok, fun snap hsnap hdataset => ?_⟩⟩
      rcases List.mem_cons.mp hdataset with hdataset | hdataset
      · exact fun hstill => hnot ⟨snap, hsnap, hdataset, hremaining snap (hsub snap hstill)⟩
      · exact hgone snap hsnap hdataset
    · rw [Procedure.under_bind_of_error hrun]
      refine ⟨fun _ hsnap => hsnap, .inr ⟨fun hpasses => hstops ?_, e, rfl⟩⟩
      exact hpasses.1 ds List.mem_cons_self haffected
    · rw [Procedure.under_bind_of_ok hrun, passes_cons haffected fun h => complete_congr (hlist h)]
      have hsub' : ∀ snap ∈ bkp'.node.snapshots, snap ∈ bkp.node.snapshots := fun snap hsnap =>
        remaining_without_requested (hnode ▸ hsnap)
      obtain ⟨hsub, hrest⟩ := ih hnodup bkp' (hnode ▸ hcurrent.without_requested hnew)
        fun snap hsnap => hremaining snap (hsub' snap hsnap)
      rw [← hnode]
      refine ⟨fun snap hsnap => hsub' snap (hsub snap hsnap), ?_⟩
      rcases hrest with ⟨hpasses, hok, hgone⟩ | ⟨hnot, herror⟩
      · refine .inl ⟨⟨⟨hfails, hds⟩, hpasses⟩, hok, fun snap hsnap hdataset hstill => ?_⟩
        rcases List.mem_cons.mp hdataset with hdataset | hdataset
        · have hkept := hsub snap hstill
          rw [hnode] at hkept
          exact (mem_snapshots_without_requested.mp hkept).2.1 ⟨hsnap, hdataset⟩
        · exact hgone snap hsnap hdataset hstill
      · exact .inr ⟨fun hboth => hnot hboth.2, herror⟩

/-- Either nothing is destroyed before the first error, or a snapshot that is to be deleted is gone. -/
theorem under_destroy_datasets_first (fails : Step → Bool) (node : Storage) (snapshots : List Snapshot)
    {datasets : List Path} (hnodup : datasets.Nodup) (bkp : Backup) (hnode : bkp.node = node)
    (hdatasets : ∀ ds ∈ datasets, ds ∈ node.datasets) :
    let run := (destroy_datasets snapshots (current_of node datasets)).under fails bkp
    (FirstFails fails node snapshots datasets → run.2 = bkp) ∧
      (¬ FirstFails fails node snapshots datasets → ∀ e, run.1 = .error e →
        ∃ snap ∈ snapshots, snap ∈ node.snapshots ∧ snap ∉ run.2.node.snapshots) := by
  induction datasets with
  | nil => exact ⟨fun _ => rfl, fun _ e h => by cases h⟩
  | cons ds datasets ih =>
    obtain ⟨hnew, hnodup⟩ := List.nodup_cons.mp hnodup
    dsimp only
    rw [current_of, List.map_cons, destroy_datasets, firstFails_cons]
    rcases under_destroy_dataset fails node snapshots ds bkp (fun _ => by rw [hnode]) with
      ⟨hnot, hrun⟩ | ⟨haffected, hstops, e, hrun⟩ | ⟨haffected, hfails, hds, bkp', hrun, hdestroyed⟩
    · rw [Procedure.under_bind_of_ok hrun]
      obtain ⟨hfirst, hlost⟩ := ih hnodup fun ds' hds' => hdatasets ds' (List.mem_cons_of_mem _ hds')
      exact ⟨fun h => hfirst (h.resolve_left fun h => hnot h.1).2, fun h => hlost fun h' => h (.inr ⟨hnot, h'⟩)⟩
    · rw [Procedure.under_bind_of_error hrun]
      have hfails : fails (.destroy ds) = true := by
        by_contra hfails
        exact hstops ⟨by simpa using hfails, hnode ▸ hdatasets ds List.mem_cons_self⟩
      exact ⟨fun _ => rfl, fun h => absurd (.inl ⟨haffected, hfails⟩) h⟩
    · rw [Procedure.under_bind_of_ok hrun]
      refine ⟨?_, fun _ e _ => ?_⟩
      · rintro (⟨_, hfailed⟩ | ⟨hnot, _⟩)
        · rw [hfails] at hfailed
          cases hfailed
        · exact absurd haffected hnot
      · obtain ⟨snap, hsnap, hdataset, hmem⟩ := haffected
        refine ⟨snap, hsnap, hmem, fun hstill => ?_⟩
        have hcurrent : Current node bkp'.node datasets := by
          rw [hdestroyed]
          exact Current.without_requested hnew fun _ _ _ => by rw [hnode]
        have hsub' : ∀ snap ∈ bkp'.node.snapshots, snap ∈ node.snapshots := fun snap hsnap =>
          hnode ▸ remaining_without_requested (hdestroyed ▸ hsnap)
        have hkept := (under_destroy_datasets fails node snapshots hnodup bkp' hcurrent hsub').1 snap hstill
        rw [hdestroyed] at hkept
        exact (mem_snapshots_without_requested.mp hkept).2.1 ⟨hsnap, hdataset⟩

end datasets

section delete

variable {snapshots last_snapshots : List Snapshot} {datasets : List Path} {metadata : Option String}

/-- Nothing is destroyed before the first error of `ds_delete`. -/
def FailsFirst (fails : Step → Bool) (node : Storage) (snapshots : List Snapshot) (datasets : List Path) : Prop :=
  (∃ ds ∈ datasets, ¬ Listable fails node ds) ∨ FirstFails fails node snapshots datasets

/-- No command of `ds_delete` that matters fails, also because its dataset is gone with one above. -/
def Succeeds (fails : Step → Bool) (node : Storage) (snapshots : List Snapshot) (datasets : List Path) : Prop :=
  (∀ ds ∈ datasets, Listable fails node ds ∧ (Affected node snapshots ds → fails (.destroy ds) = false)) ∧
    datasets.Pairwise fun ds ds' => Affected node snapshots ds → Complete node snapshots ds →
      Affected node snapshots ds' → ¬ ds <+: ds'

theorem succeeds_iff_passes {node : Storage} (hlistable : ∀ ds ∈ datasets, Listable fails node ds) :
    Succeeds fails node snapshots datasets ↔ Passes fails node node snapshots datasets := by
  refine and_congr_left fun _ => ⟨fun hall ds hds haffected => ?_, fun hall ds hds => ⟨hlistable ds hds, ?_⟩⟩
  · exact ⟨(hall ds hds).2 haffected, (hlistable ds hds).1⟩
  · exact fun haffected => (hall ds hds haffected).1

/-- What follows the destruction does not fail; it may destroy more snapshots if no host is given. -/
theorem under_after_destruction (fails : Step → Bool) (host : Host) (metadata : Option String)
    (last_snapshots : List Snapshot) (bkp : Backup) :
    ∃ response bkp', (do
        remove_metadata metadata
        destroy_last_snapshots last_snapshots
        ds_delete_response host : Command Response).under fails bkp = (.ok response, bkp') ∧
      ∀ snap ∈ bkp'.node.snapshots, snap ∈ bkp.node.snapshots := by
  have hmetadata : ∃ bkp', (remove_metadata metadata).under fails bkp = (.ok (), bkp') ∧
        bkp'.node.snapshots = bkp.node.snapshots := by
    cases metadata with
    | none => exact ⟨bkp, rfl, rfl⟩
    | some metadata =>
      obtain ⟨bkp', hrun, hsnapshots, -⟩ := answers_remove_metadata metadata bkp
      exact ⟨bkp', hrun, hsnapshots⟩
  obtain ⟨bkp₁, hrun₁, hsnapshots⟩ := hmetadata
  obtain ⟨bkp₂, hrun₂, hremaining⟩ := answers_destroy_last fails last_snapshots bkp₁
  obtain ⟨response, bkp₃, hrun₃⟩ := answers_ds_delete_response fails host bkp₂
  have hkept := unchanged_ds_delete_response fails host bkp₂
  rw [hrun₃] at hkept
  refine ⟨response, bkp₃, ?_, fun snap hsnap => ?_⟩
  · rw [Procedure.under_bind_of_ok hrun₁, Procedure.under_bind_of_ok hrun₂]
    exact hrun₃
  · rw [← hsnapshots]
    exact hremaining snap (congrArg Storage.snapshots hkept ▸ hsnap)

theorem under_cmd_output_of_ok {command cleanup : Command Response} {response : Response} {bkp bkp' : Backup}
    (hrun : command.under fails bkp = (.ok response, bkp')) :
    (cmd_output host command cleanup).under fails bkp = (.ok (with_status 0 true response), bkp') := by
  rw [cmd_output, Procedure.under_handle, Procedure.under_bind_of_ok hrun]
  rfl

theorem under_cmd_output_of_error {command cleanup : Command Response} {response : Response} {e : Error}
    {bkp bkp' bkp'' : Backup} (hrun : command.under fails bkp = (.error e, bkp'))
    (hcleanup : cleanup.under fails bkp' = (.ok response, bkp'')) :
    (cmd_output host command cleanup).under fails bkp =
      (.ok (with_status (host.error_rc e) false response), bkp'') := by
  rw [cmd_output, Procedure.under_handle, Procedure.under_bind_of_error hrun]
  dsimp only
  rw [Procedure.under_bind_of_ok hcleanup]
  rfl

/-- No response has the key `files`. -/
theorem ds_delete_response_files {bkp bkp' : Backup} {response : Response}
    (hrun : (ds_delete_response host).under fails bkp = (.ok response, bkp')) (rc : Int) (success : Bool) :
    (with_status rc success response).lookup "files" = none := by
  rw [ds_delete_response, Procedure.under_bind] at hrun
  rcases hsizes : (_list_dataset_snapshot_size host).under fails bkp with ⟨e | sizes, bkp''⟩
  · rw [hsizes] at hrun
    cases hrun
  · rw [hsizes] at hrun
    cases hrun
    rfl

theorem under_ds_delete (fails : Step → Bool) (host : Host) (metadata : Option String)
    (last_snapshots : List Snapshot) (hnodup : datasets.Nodup) (hdatasets : ∀ snap ∈ snapshots, snap.dataset ∈ datasets)
    (bkp : Backup) :
    (Succeeds fails bkp.node snapshots datasets ∧
        ∃ response bkp', (ds_delete host datasets snapshots metadata last_snapshots).under fails bkp =
            (.ok (with_status 0 true response), bkp') ∧
          ∀ snap ∈ snapshots, snap ∉ bkp'.node.snapshots) ∨
      (¬ Succeeds fails bkp.node snapshots datasets ∧
        ∃ rc response bkp', (ds_delete host datasets snapshots metadata last_snapshots).under fails bkp =
            (.ok (with_status rc false response), bkp') ∧
          (with_status rc false response).lookup "files" = none ∧
          (FailsFirst fails bkp.node snapshots datasets → bkp'.node = bkp.node) ∧
          (¬ FailsFirst fails bkp.node snapshots datasets →
            ∃ snap ∈ snapshots, snap ∈ bkp.node.snapshots ∧ snap ∉ bkp'.node.snapshots)) := by
  have herror {e : Error} {bkp' : Backup} (hrun : (do
      let current_snapshots ← list_current datasets
      destroy_datasets snapshots current_snapshots
      remove_metadata metadata
      destroy_last_snapshots last_snapshots
      ds_delete_response host : Command Response).under fails bkp = (.error e, bkp')) :
      ∃ rc response bkp'', (ds_delete host datasets snapshots metadata last_snapshots).under fails bkp =
          (.ok (with_status rc false response), bkp'') ∧
        (with_status rc false response).lookup "files" = none ∧ bkp''.node = bkp'.node := by
    obtain ⟨response, bkp'', hcleanup⟩ := answers_ds_delete_response fails host bkp'
    have hkept := unchanged_ds_delete_response fails host bkp'
    rw [hcleanup] at hkept
    exact ⟨_, response, bkp'', under_cmd_output_of_error hrun hcleanup,
      ds_delete_response_files hcleanup _ _, hkept⟩
  rcases under_list_current datasets bkp with ⟨hlistable, hlist⟩ | ⟨⟨ds, hds, hnot⟩, e, hlist⟩
  · have hmem : ∀ ds ∈ datasets, ds ∈ bkp.node.datasets := fun ds hds => (hlistable ds hds).1
    have hfirst := under_destroy_datasets_first fails bkp.node snapshots hnodup bkp rfl hmem
    rw [succeeds_iff_passes hlistable]
    have hpassed := (under_destroy_datasets fails bkp.node snapshots hnodup bkp (fun _ _ _ => rfl) fun _ h => h).2
    rcases hdestroy : (destroy_datasets snapshots (current_of bkp.node datasets)).under fails bkp with ⟨outcome, bkp'⟩
    rw [hdestroy] at hfirst hpassed
    rcases hpassed with ⟨hpasses, rfl, hgone⟩ | ⟨hnot, e, rfl⟩
    · refine .inl ⟨hpasses, ?_⟩
      obtain ⟨response, bkp'', hrest, hremaining⟩ := under_after_destruction fails host metadata last_snapshots bkp'
      refine ⟨response, bkp'', under_cmd_output_of_ok ?_, fun snap hsnap hstill => ?_⟩
      · rw [Procedure.under_bind_of_ok hlist, Procedure.under_bind_of_ok hdestroy]
        exact hrest
      · exact hgone snap hsnap (hdatasets snap hsnap) (hremaining snap hstill)
    · refine .inr ⟨hnot, ?_⟩
      have hrun := Procedure.under_bind_of_ok (k := fun current_snapshots => do
        destroy_datasets snapshots current_snapshots
        remove_metadata metadata
        destroy_last_snapshots last_snapshots
        ds_delete_response host) hlist
      obtain ⟨rc, response, bkp'', houtput, hfiles, hnode⟩ := herror (hrun.trans (Procedure.under_bind_of_error hdestroy))
      refine ⟨rc, response, bkp'', houtput, hfiles, ?_, ?_⟩
      · rintro (⟨ds', hds', hnot⟩ | hfails)
        · exact absurd (hlistable ds' hds') hnot
        · rw [hnode]
          exact congrArg Backup.node (hfirst.1 hfails)
      · intro hnone
        rw [hnode]
        exact hfirst.2 (fun hfails => hnone (.inr hfails)) e rfl
  · refine .inr ⟨fun hsucceeds => hnot (hsucceeds.1 ds hds).1, ?_⟩
    obtain ⟨rc, response, bkp'', houtput, hfiles, hnode⟩ := herror (Procedure.under_bind_of_error hlist)
    refine ⟨rc, response, bkp'', houtput, hfiles, fun _ => hnode, fun hnone => ?_⟩
    exact absurd (.inl ⟨ds, hds, hnot⟩) hnone

end delete

section files

variable {filenames : List FilePath} {metadata : Option String}

/-- The file can be removed. -/
def Removable (fails : Step → Bool) (node : Storage) (f : FilePath) : Prop :=
  ∃ path, f = .file path ∧ path ∈ node.files ∧ fails (.remove f) = false

theorem under_delete_file (fails : Step → Bool) (f : FilePath) (bkp : Backup) :
    (Removable fails bkp.node f ∧ ∃ bkp', (_delete_file f).under fails bkp = (.ok (), bkp') ∧
        ∀ path, path ∈ bkp'.node.files ↔ path ∈ bkp.node.files ∧ .file path ≠ f) ∨
      (¬ Removable fails bkp.node f ∧ ∃ e, (_delete_file f).under fails bkp = (.error e, bkp)) := by
  rw [_delete_file, Procedure.under_checked]
  by_cases hremovable : Removable fails bkp.node f
  · obtain ⟨path, rfl, hmem, hfails⟩ := hremovable
    refine .inl ⟨⟨path, rfl, hmem, hfails⟩, ?_⟩
    simp only [hfails, Backup.remove, Storage.remove, if_pos hmem]
    refine ⟨_, rfl, fun path' => ?_⟩
    simp
  · refine .inr ⟨hremovable, .unknown, ?_⟩
    cases hfails : fails (.remove f) with
    | true => rfl
    | false =>
      cases f with
      | snapshot snap => rfl
      | file path =>
        have hmissing : path ∉ bkp.node.files := fun hmem => hremovable ⟨path, rfl, hmem, hfails⟩
        simp only [Backup.remove, Storage.remove, if_neg hmissing]
        rfl

/-- All the files can be removed, one after another. -/
def AllRemovable (fails : Step → Bool) (node : Storage) (filenames : List FilePath) : Prop :=
  filenames.Nodup ∧ ∀ f ∈ filenames, Removable fails node f

theorem under_remove_files (fails : Step → Bool) (filenames : List FilePath) (bkp : Backup) :
    (AllRemovable fails bkp.node filenames ∧ ∃ bkp', (remove_files filenames).under fails bkp = (.ok (), bkp') ∧
        ∀ path, path ∈ bkp'.node.files ↔ path ∈ bkp.node.files ∧ .file path ∉ filenames) ∨
      (¬ AllRemovable fails bkp.node filenames ∧ ∃ e bkp',
        (remove_files filenames).under fails bkp = (.error e, bkp') ∧
        (∀ path ∈ bkp'.node.files, path ∈ bkp.node.files) ∧
        ((∀ first ∈ filenames.head?, ¬ Removable fails bkp.node first) → bkp' = bkp) ∧
        ∀ first ∈ filenames.head?, Removable fails bkp.node first →
          ∃ path, first = .file path ∧ path ∈ bkp.node.files ∧ path ∉ bkp'.node.files) := by
  induction filenames generalizing bkp with
  | nil => exact .inl ⟨⟨List.nodup_nil, fun f hf => absurd hf List.not_mem_nil⟩, bkp, rfl, by simp⟩
  | cons f filenames ih =>
    rw [remove_files]
    rcases under_delete_file fails f bkp with ⟨hremovable, bkp', hrun, hfiles⟩ | ⟨hnot, e, hrun⟩
    · obtain ⟨removed, rfl, hmem, hfails⟩ := hremovable
      have hgone : removed ∉ bkp'.node.files := fun h => ((hfiles removed).mp h).2 rfl
      have hsame {f : FilePath} (hne : f ≠ .file removed) :
          Removable fails bkp'.node f ↔ Removable fails bkp.node f := by
        constructor
        · rintro ⟨path, rfl, hpath, hok⟩
          exact ⟨path, rfl, ((hfiles path).mp hpath).1, hok⟩
        · rintro ⟨path, rfl, hpath, hok⟩
          exact ⟨path, rfl, (hfiles path).mpr ⟨hpath, hne⟩, hok⟩
      have hfirst : ¬ Removable fails bkp'.node (.file removed) := by
        rintro ⟨path, hpath, hstill, _⟩
        cases hpath
        exact hgone hstill
      rw [Procedure.under_bind_of_ok hrun, Procedure.under_bind_of_ok (Procedure.under_assign _ _)]
      rcases ih { bkp' with deleted_files := bkp'.deleted_files ++ [.file removed] } with
        ⟨⟨hnodup, hall⟩, bkp'', hrest, hfiles'⟩ | ⟨hnot, e, bkp'', hrest, hkept, _, _⟩
      · have hother : FilePath.file removed ∉ filenames := fun h => hfirst (hall _ h)
        refine .inl ⟨⟨List.nodup_cons.mpr ⟨hother, hnodup⟩, ?_⟩, bkp'', hrest, fun path => ?_⟩
        · intro f hf
          rcases List.mem_cons.mp hf with rfl | hmem'
          · exact ⟨removed, rfl, hmem, hfails⟩
          · exact (hsame fun h => hother (h ▸ hmem')).mp (hall f hmem')
        · rw [hfiles' path, hfiles path, List.mem_cons, not_or, and_assoc]
      · refine .inr ⟨fun hall => hnot ?_, e, bkp'', hrest, fun path hpath => ((hfiles path).mp (hkept path hpath)).1, ?_, ?_⟩
        · have hnodup := List.nodup_cons.mp hall.1
          refine ⟨hnodup.2, fun f hf => (hsame fun h => hnodup.1 (h ▸ hf)).mpr ?_⟩
          exact hall.2 f (List.mem_cons_of_mem _ hf)
        · intro hnone
          exact absurd ⟨removed, rfl, hmem, hfails⟩ (hnone (.file removed) rfl)
        · intro first hhead _
          cases hhead
          exact ⟨removed, rfl, hmem, fun hstill => hgone (hkept removed hstill)⟩
    · refine .inr ⟨fun hall => hnot (hall.2 f List.mem_cons_self), e, bkp, Procedure.under_bind_of_error hrun,
        fun path hpath => hpath, fun _ => rfl, ?_⟩
      intro first hhead hremovable
      cases hhead
      exact absurd hremovable hnot

theorem file_delete_response_files {bkp bkp' : Backup} {response : Response}
    (hrun : file_delete_response.under fails bkp = (.ok response, bkp')) (rc : Int) (success : Bool) :
    (with_status rc success response).lookup "files" = none ∧ bkp' = bkp := by
  cases hrun
  exact ⟨rfl, rfl⟩

theorem under_remove_metadata (fails : Step → Bool) (metadata : Option String) (bkp : Backup) :
    ∃ bkp', (remove_metadata metadata).under fails bkp = (.ok (), bkp') ∧
      ∀ path ∈ bkp'.node.files, path ∈ bkp.node.files := by
  cases metadata with
  | none => exact ⟨bkp, rfl, fun path hpath => hpath⟩
  | some jsonfile =>
    obtain ⟨bkp', hrun, -, hfiles⟩ := answers_remove_metadata jsonfile bkp
    exact ⟨bkp', hrun, hfiles⟩

/-- The file that describes a backup is not one of the backups. -/
theorem under_file_delete (fails : Step → Bool) (host : Host) (filenames : List FilePath) (metadata : Option String)
    (bkp : Backup) :
    (AllRemovable fails bkp.node filenames ∧
        ∃ response bkp', (file_delete host filenames metadata).under fails bkp =
            (.ok (with_status 0 true response), bkp') ∧
          ∀ path ∈ bkp'.node.files, path ∈ bkp.node.files ∧ .file path ∉ filenames) ∨
      (¬ AllRemovable fails bkp.node filenames ∧
        ∃ rc response bkp', (file_delete host filenames metadata).under fails bkp =
            (.ok (with_status rc false response), bkp') ∧
          (with_status rc false response).lookup "files" = none ∧
          ((∀ first ∈ filenames.head?, ¬ Removable fails bkp.node first) → bkp'.node = bkp.node) ∧
          ∀ first ∈ filenames.head?, Removable fails bkp.node first →
            ∃ path, first = .file path ∧ path ∈ bkp.node.files ∧ path ∉ bkp'.node.files) := by
  rcases under_remove_files fails filenames bkp with ⟨hall, bkp', hrun, hfiles⟩ | ⟨hnot, e, bkp', hrun, _, hnone, hlost⟩
  · obtain ⟨bkp'', hmetadata, hkept⟩ := under_remove_metadata fails metadata bkp'
    have hcommand : (do
        remove_files filenames
        remove_metadata metadata
        file_delete_response : Command Response).under fails bkp =
          (.ok [("deleted_files", .paths bkp''.deleted_files), ("deleted_metadata_file", .none)], bkp'') := by
      rw [Procedure.under_bind_of_ok hrun, Procedure.under_bind_of_ok hmetadata]
      rfl
    exact .inl ⟨hall, _, bkp'', under_cmd_output_of_ok hcommand, fun path hpath => (hfiles path).mp (hkept path hpath)⟩
  · have hcleanup : file_delete_response.under fails bkp' = (.ok _, bkp') := rfl
    refine .inr ⟨hnot, _, _, bkp', under_cmd_output_of_error (Procedure.under_bind_of_error hrun) hcleanup,
      (file_delete_response_files hcleanup _ _).1, fun h => by rw [hnone h], hlost⟩

end files

end eslib.esbackup.delete
