import Mathlib
import Esdc.Bin.Esbackup.Deleted

namespace eslib.esbackup.delete

open zfs (Path)
open scoped zfs
open Procedure (Ensures)

variable {snapshots last_snapshots : List Snapshot} {bkp bkp' bkp'' : Backup} {ds : Path}

/-- A dataset that is destroyed with all below it, because no snapshot of its own was to be kept. -/
structure Whole (snapshots : List Snapshot) (node node' : Storage) (top : Path) : Prop where
  mem : top ∈ node.datasets
  affected : Affected node snapshots top
  complete : Complete node snapshots top
  gone : ∀ ds ∈ node'.datasets, ¬ top <+: ds

/-- What the destructions on the node do to the backups, and what is told about them. -/
structure Safe (snapshots : List Snapshot) (bkp bkp' : Backup) : Prop where
  remaining : ∀ snap ∈ bkp'.node.snapshots, snap ∈ bkp.node.snapshots
  remaining_datasets : ∀ ds ∈ bkp'.node.datasets, ds ∈ bkp.node.datasets
  host : bkp'.host = bkp.host
  datasets : ∀ ds ∈ bkp.node.datasets, ds ∉ bkp'.node.datasets →
    ∃ top, Whole snapshots bkp.node bkp'.node top ∧ top <+: ds
  reported : ∃ deleted, bkp'.deleted_snapshots = bkp.deleted_snapshots ++ deleted ∧
    (∀ snap ∈ deleted, snap ∈ snapshots ∧ snap ∉ bkp'.node.snapshots) ∧
    ∀ snap ∈ bkp.node.snapshots, snap ∉ bkp'.node.snapshots →
      snap ∈ deleted ∨ ∃ top, Whole snapshots bkp.node bkp'.node top ∧ top <+: snap.dataset ∧ top ≠ snap.dataset

theorem Safe.refl (snapshots : List Snapshot) (bkp : Backup) : Safe snapshots bkp bkp where
  remaining _ hsnap := hsnap
  remaining_datasets _ hds := hds
  host := rfl
  datasets _ hds hgone := absurd hds hgone
  reported := ⟨[], (List.append_nil _).symm, nofun, fun _ hsnap hgone => absurd hsnap hgone⟩

/-- What is gone stays gone. -/
theorem Safe.whole_left (hrest : Safe snapshots bkp' bkp'') {top : Path}
    (hwhole : Whole snapshots bkp.node bkp'.node top) : Whole snapshots bkp.node bkp''.node top where
  mem := hwhole.mem
  affected := hwhole.affected
  complete := hwhole.complete
  gone ds hds := hwhole.gone ds (hrest.remaining_datasets ds hds)

/-- The snapshots that a dataset has lost before it is destroyed have been requested, too. -/
theorem Safe.whole_right (hfirst : Safe snapshots bkp bkp') {top : Path}
    (hwhole : Whole snapshots bkp'.node bkp''.node top) : Whole snapshots bkp.node bkp''.node top where
  mem := hfirst.remaining_datasets top hwhole.mem
  affected := by
    obtain ⟨snap, hsnap, hdataset, hmem⟩ := hwhole.affected
    exact ⟨snap, hsnap, hdataset, hfirst.remaining snap hmem⟩
  complete := by
    intro snap hsnap hdataset
    by_cases hstill : snap ∈ bkp'.node.snapshots
    · exact hwhole.complete snap hstill hdataset
    · obtain ⟨deleted, _, hrequested, hlost⟩ := hfirst.reported
      rcases hlost snap hsnap hstill with hmem | ⟨above, habove, hbelow, _⟩
      · exact (hrequested snap hmem).1
      · exact absurd (hdataset ▸ hbelow) (habove.gone top hwhole.mem)
  gone := hwhole.gone

theorem Safe.trans (hfirst : Safe snapshots bkp bkp') (hrest : Safe snapshots bkp' bkp'') :
    Safe snapshots bkp bkp'' := by
  obtain ⟨deleted, hdeleted, hrequested, hlost⟩ := hfirst.reported
  obtain ⟨deleted', hdeleted', hrequested', hlost'⟩ := hrest.reported
  refine ⟨fun snap hsnap => hfirst.remaining snap (hrest.remaining snap hsnap),
    fun ds hds => hfirst.remaining_datasets ds (hrest.remaining_datasets ds hds), hrest.host.trans hfirst.host,
    ?_, deleted ++ deleted', ?_, ?_, ?_⟩
  · intro ds hds hgone
    by_cases hkept : ds ∈ bkp'.node.datasets
    · obtain ⟨top, hwhole, hbelow⟩ := hrest.datasets ds hkept hgone
      exact ⟨top, hfirst.whole_right hwhole, hbelow⟩
    · obtain ⟨top, hwhole, hbelow⟩ := hfirst.datasets ds hds hkept
      exact ⟨top, hrest.whole_left hwhole, hbelow⟩
  · rw [hdeleted', hdeleted, List.append_assoc]
  · intro snap hsnap
    rcases List.mem_append.mp hsnap with hsnap | hsnap
    · have hgone := (hrequested snap hsnap).2
      exact ⟨(hrequested snap hsnap).1, fun hstill => hgone (hrest.remaining snap hstill)⟩
    · exact hrequested' snap hsnap
  · intro snap hsnap hgone
    by_cases hstill : snap ∈ bkp'.node.snapshots
    · rcases hlost' snap hstill hgone with hmem | ⟨top, hwhole, hbelow⟩
      · exact .inl (List.mem_append_right _ hmem)
      · exact .inr ⟨top, hfirst.whole_right hwhole, hbelow⟩
    · rcases hlost snap hsnap hstill with hmem | ⟨top, hwhole, hbelow⟩
      · exact .inl (List.mem_append_left _ hmem)
      · exact .inr ⟨top, hrest.whole_left hwhole, hbelow⟩

/-- Nothing happens to the backups and nothing is told about them. -/
structure Same (bkp bkp' : Backup) : Prop where
  snapshots : bkp'.node.snapshots = bkp.node.snapshots
  datasets : bkp'.node.datasets = bkp.node.datasets
  host : bkp'.host = bkp.host
  deleted_snapshots : bkp'.deleted_snapshots = bkp.deleted_snapshots

theorem Same.refl (bkp : Backup) : Same bkp bkp := ⟨rfl, rfl, rfl, rfl⟩

theorem Same.trans (hfirst : Same bkp bkp') (hrest : Same bkp' bkp'') : Same bkp bkp'' where
  snapshots := hrest.snapshots.trans hfirst.snapshots
  datasets := hrest.datasets.trans hfirst.datasets
  host := hrest.host.trans hfirst.host
  deleted_snapshots := hrest.deleted_snapshots.trans hfirst.deleted_snapshots

theorem Safe.of_same (hsame : Same bkp bkp') : Safe snapshots bkp bkp' where
  remaining snap hsnap := by rwa [← hsame.snapshots]
  remaining_datasets ds hds := by rwa [← hsame.datasets]
  host := hsame.host
  datasets ds hds hgone := absurd (by rwa [hsame.datasets]) hgone
  reported := ⟨[], by rw [hsame.deleted_snapshots, List.append_nil], nofun,
    fun snap hsnap hgone => absurd (by rwa [hsame.snapshots]) hgone⟩

section destruction

theorem ensures_list_current (datasets : List Path) (bkp : Backup) :
    (list_current datasets).Ensures (fun outcome t => t = bkp ∧ ∀ current, outcome = .ok current →
      current = current_of bkp.node datasets) bkp := by
  induction datasets with
  | nil =>
    refine ⟨rfl, fun current hcurrent => ?_⟩
    cases hcurrent
    rfl
  | cons ds datasets ih =>
    have hlist : (_list_dataset_snapshots ds).Ensures (fun outcome t => t = bkp ∧ ∀ current, outcome = .ok current →
        bkp.node.list ds = some current) bkp := by
      refine Ensures.query (fun current hcurrent => ⟨rfl, ?_⟩) ⟨rfl, fun _ h => by cases h⟩
      intro _ h
      cases h
      exact hcurrent
    rw [list_current]
    refine hlist.bind ?_ fun _ _ h => ⟨h.1, fun _ hok => by cases hok⟩
    rintro current _ ⟨rfl, hcurrent⟩
    refine ih.bind ?_ fun _ _ h => ⟨h.1, fun _ hok => by cases hok⟩
    rintro rest _ ⟨rfl, hrest⟩
    refine ⟨rfl, fun _ h => ?_⟩
    cases h
    have hds := hcurrent current rfl
    rw [Storage.list] at hds
    split at hds
    · cases hds
      rw [hrest rest rfl]
      rfl
    · cases hds

/-- One destruction: requested snapshots only, or all below a dataset of which everything is requested. -/
theorem Safe.without_requested (hds : ds ∈ bkp.node.datasets) (haffected : Affected bkp.node snapshots ds)
    (hnode : bkp'.node = bkp.node.without_requested snapshots ds) (hhost : bkp'.host = bkp.host)
    (hdeleted : bkp'.deleted_snapshots = bkp.deleted_snapshots ++ snapshots.filter (·.dataset = ds)) :
    Safe snapshots bkp bkp' := by
  have hwhole (hcomplete : Complete bkp.node snapshots ds) : Whole snapshots bkp.node bkp'.node ds := by
    refine ⟨hds, haffected, hcomplete, fun ds' hds' hbelow => ?_⟩
    rw [hnode] at hds'
    exact (mem_datasets_without_requested.mp hds').2 ⟨hcomplete, hbelow⟩
  refine ⟨?_, ?_, hhost, ?_, _, hdeleted, ?_, ?_⟩
  · exact fun snap hsnap => remaining_without_requested (hnode ▸ hsnap)
  · exact fun ds' hds' => (mem_datasets_without_requested.mp (hnode ▸ hds')).1
  · intro ds' hds' hgone
    rw [hnode, mem_datasets_without_requested, not_and, not_not] at hgone
    obtain ⟨hcomplete, hbelow⟩ := hgone hds'
    exact ⟨ds, hwhole hcomplete, hbelow⟩
  · intro snap hsnap
    obtain ⟨hrequested, hdataset⟩ := List.mem_filter.mp hsnap
    refine ⟨hrequested, fun hstill => ?_⟩
    rw [hnode] at hstill
    exact (mem_snapshots_without_requested.mp hstill).2.1 ⟨hrequested, of_decide_eq_true hdataset⟩
  · intro snap hsnap hgone
    by_cases hrequested : snap ∈ snapshots ∧ snap.dataset = ds
    · exact .inl (List.mem_filter.mpr ⟨hrequested.1, decide_eq_true hrequested.2⟩)
    · have hboth : Complete bkp.node snapshots ds ∧ ds <+: snap.dataset := by
        by_contra hnot
        exact hgone (hnode ▸ mem_snapshots_without_requested.mpr ⟨hsnap, hrequested, hnot⟩)
      refine .inr ⟨ds, hwhole hboth.1, hboth.2, fun hdataset => ?_⟩
      exact hrequested ⟨hboth.1 snap hsnap hdataset.symm, hdataset.symm⟩

theorem ensures_destroy_dataset (node : Storage) {datasets : List Path} (hnew : ds ∉ datasets)
    (hcurrent : Current node bkp.node (ds :: datasets)) :
    (destroy_dataset (snapshots.filter (·.dataset = ds)) (node.snapshots.filter (·.dataset = ds)) ds).Ensures
      (fun _ t => Safe snapshots bkp t ∧ Current node t.node datasets) bkp := by
  have hsame : Safe snapshots bkp bkp ∧ Current node bkp.node datasets :=
    ⟨.refl _ _, fun ds' hds' => hcurrent ds' (List.mem_cons_of_mem _ hds')⟩
  unfold destroy_dataset
  simp only
  split
  · exact hsame
  · case isFalse hsome =>
    have haffected : Affected node snapshots ds := by
      by_contra hnot
      exact hsome (not_affected_iff.mp hnot)
    refine Ensures.bind (R := fun outcome t => (outcome = .ok () ∧ ds ∈ bkp.node.datasets ∧
      t = { bkp with node := bkp.node.without_requested snapshots ds }) ∨ ((∃ e, outcome = .error e) ∧ t = bkp)) ?_ ?_ ?_
    · refine Ensures.checked (fun t ht => .inl ⟨rfl, ?_⟩) (.inr ⟨⟨_, rfl⟩, rfl⟩)
      by_cases hds : ds ∈ bkp.node.datasets
      · rw [destroy_requested hds haffected (hcurrent ds List.mem_cons_self hds)] at ht
        cases ht
        exact ⟨hds, rfl⟩
      · rw [destroy_missing hds] at ht
        cases ht
    · rintro _ _ (⟨-, hds, rfl⟩ | ⟨⟨e, h⟩, -⟩)
      · have hlist := hcurrent ds List.mem_cons_self hds
        exact Ensures.assign ⟨Safe.without_requested hds ((affected_congr hlist).mpr haffected) rfl rfl rfl,
          hcurrent.without_requested hnew⟩
      · cases h
    · rintro e _ (⟨h, -⟩ | ⟨-, rfl⟩)
      · cases h
      · exact hsame

theorem ensures_destroy_datasets (node : Storage) {datasets : List Path} (hnodup : datasets.Nodup)
    (hcurrent : Current node bkp.node datasets) :
    (destroy_datasets snapshots (current_of node datasets)).Ensures (fun _ t => Safe snapshots bkp t) bkp := by
  induction datasets generalizing bkp with
  | nil => exact Safe.refl _ _
  | cons ds datasets ih =>
    obtain ⟨hnew, hnodup⟩ := List.nodup_cons.mp hnodup
    rw [current_of, List.map_cons, destroy_datasets]
    refine (ensures_destroy_dataset node hnew hcurrent).bind ?_ fun _ _ h => h.1
    rintro _ t ⟨hsafe, hrest⟩
    exact (ih hnodup hrest).mono fun _ _ h => hsafe.trans h

theorem ensures_remove_metadata (metadata : Option String) (bkp : Backup) :
    (remove_metadata metadata).Ensures (fun _ t => Same bkp t) bkp := by
  cases metadata with
  | none => exact Same.refl _
  | some jsonfile =>
    refine Ensures.bind (R := fun _ t => Same bkp t) (Ensures.command (fun t ht => ?_) (.refl _)) ?_ fun _ _ h => h
    · obtain ⟨node, hnode, rfl⟩ := Option.map_eq_some_iff.mp ht
      rw [Storage.remove] at hnode
      split at hnode
      · cases hnode
        exact ⟨rfl, rfl, rfl, rfl⟩
      · cases hnode
    · exact fun _ t h => Ensures.assign (h.trans ⟨rfl, rfl, rfl, rfl⟩)

end destruction

section last

/-- A snapshot of the dataset of the first of the last backups that has the name of one of them, which is told. -/
structure IsLast (last_snapshots : List Snapshot) (names : List Nat) (snap : Snapshot) : Prop where
  dataset : ∃ first ∈ last_snapshots.head?, snap.dataset = first.dataset
  requested : snap.id ∈ last_snapshots.map Snapshot.id
  told : snap.id ∈ names

/-- What the destruction of the last backups does to the node and to the source. -/
structure Pruned (last_snapshots : List Snapshot) (bkp bkp' : Backup) : Prop where
  datasets : bkp'.node.datasets = bkp.node.datasets
  remaining : ∀ snap ∈ bkp'.node.snapshots, snap ∈ bkp.node.snapshots
  deleted_snapshots : bkp'.deleted_snapshots = bkp.deleted_snapshots
  node : ∀ snap ∈ bkp.node.snapshots, snap ∉ bkp'.node.snapshots →
    bkp.host = none ∧ IsLast last_snapshots bkp'.deleted_last_snapshot_names snap
  source : ∀ remote ∈ bkp.host, ∃ remote' ∈ bkp'.host, remote'.datasets = remote.datasets ∧
    ∀ snap ∈ remote.snapshots, snap ∉ remote'.snapshots → IsLast last_snapshots bkp'.deleted_last_snapshot_names snap

theorem Pruned.refl (last_snapshots : List Snapshot) (bkp : Backup) : Pruned last_snapshots bkp bkp where
  datasets := rfl
  remaining _ hsnap := hsnap
  deleted_snapshots := rfl
  node _ hsnap hgone := absurd hsnap hgone
  source remote hremote := ⟨remote, hremote, rfl, fun _ hsnap hgone => absurd hsnap hgone⟩

theorem isLast_of_destroyed {first snap : Snapshot} {rest : List Snapshot} {storage storage' : Storage}
    (hdestroy : storage.destroy_snapshots first.dataset ((first :: rest).map Snapshot.id) = some storage')
    (hsnap : snap ∈ storage.snapshots) (hgone : snap ∉ storage'.snapshots) :
    IsLast (first :: rest) ((first :: rest).map Snapshot.id) snap := by
  rw [mem_destroy_snapshots hdestroy, not_and, not_not] at hgone
  obtain ⟨hdataset, hid⟩ := hgone hsnap
  exact ⟨⟨first, rfl, hdataset⟩, hid, hid⟩

theorem ensures_destroy_last (last_snapshots : List Snapshot) (bkp : Backup) :
    (destroy_last_snapshots last_snapshots).Ensures (fun _ t => Pruned last_snapshots bkp t) bkp := by
  cases last_snapshots with
  | nil => exact Pruned.refl _ _
  | cons first rest =>
    refine Ensures.bind (R := fun outcome t => (outcome = .ok true ∧
        bkp.run_remote (·.destroy_snapshots first.dataset ((first :: rest).map Snapshot.id)) = some t) ∨
      (outcome = .ok false ∧ t = bkp)) (Ensures.command (fun t ht => .inl ⟨rfl, ht⟩) (.inr ⟨rfl, rfl⟩)) ?_ ?_
    · rintro done t (⟨h, ht⟩ | ⟨h, rfl⟩)
      · cases h
        rw [Backup.run_remote] at ht
        split at ht
        · case h_1 hhost =>
          obtain ⟨node, hdestroy, rfl⟩ := Option.map_eq_some_iff.mp ht
          refine Ensures.assign ⟨datasets_destroy_snapshots hdestroy, ?_, rfl, ?_, ?_⟩
          · exact fun snap hsnap => ((mem_destroy_snapshots hdestroy snap).mp hsnap).1
          · exact fun snap hsnap hgone => ⟨hhost, isLast_of_destroyed hdestroy hsnap hgone⟩
          · intro remote hremote
            rw [hhost] at hremote
            cases hremote
        · case h_2 remote hhost =>
          obtain ⟨remote', hdestroy, rfl⟩ := Option.map_eq_some_iff.mp ht
          refine Ensures.assign ⟨rfl, fun _ h => h, rfl, fun snap hsnap hgone => absurd hsnap hgone, ?_⟩
          intro remote'' hremote
          rw [hhost] at hremote
          cases hremote
          exact ⟨remote', rfl, datasets_destroy_snapshots hdestroy,
            fun snap hsnap hgone => isLast_of_destroyed hdestroy hsnap hgone⟩
      · cases h
        exact Pruned.refl _ _
    · rintro e t (⟨h, -⟩ | ⟨h, -⟩) <;> cases h

end last

section response

theorem ensures_list_sizes (host : Host) (datasets : List Path) (bkp : Backup) :
    (list_sizes host datasets).Ensures (fun outcome t => t = bkp ∧ ∃ sizes, outcome = .ok sizes) bkp := by
  induction datasets with
  | nil => exact ⟨rfl, _, rfl⟩
  | cons ds datasets ih =>
    refine Ensures.bind (R := fun outcome t => t = bkp ∧ ∃ sizes, outcome = .ok sizes) ?_ ?_ ?_
    · refine Ensures.handle (R := fun _ t => t = bkp) (Ensures.query (fun _ _ => rfl) rfl) ?_ ?_
      · exact fun sizes _ h => ⟨h, sizes, rfl⟩
      · exact fun _ _ h => ⟨h, [], rfl⟩
    · rintro sizes _ ⟨rfl, -⟩
      refine ih.bind ?_ ?_
      · rintro rest _ ⟨rfl, -⟩
        exact ⟨rfl, _, rfl⟩
      · rintro e _ ⟨-, sizes, h⟩
        cases h
    · rintro e _ ⟨-, sizes, h⟩
      cases h

/-- What a response has of the destructions. -/
structure Tells (bkp : Backup) (response : Response) : Prop where
  deleted_snapshots : response.lookup "deleted_snapshots" = some (.paths (bkp.deleted_snapshots.map .snapshot))
  last_names : response.lookup "deleted_last_snapshot_names" = some (.names bkp.deleted_last_snapshot_names)

/-- The response, also that of a failure, has what has been destroyed. -/
theorem ensures_ds_delete_response (host : Host) (bkp : Backup) :
    (ds_delete_response host).Ensures (fun outcome t => t = bkp ∧ ∃ response, outcome = .ok response ∧
      Tells bkp response) bkp := by
  refine Ensures.bind (R := fun outcome t => t = bkp ∧ ∃ sizes, outcome = .ok sizes) ?_ ?_ ?_
  · unfold _list_dataset_snapshot_size
    refine Ensures.bind (R := fun outcome t => t = bkp ∧ outcome = .ok bkp) ⟨rfl, rfl⟩ ?_ ?_
    · rintro _ _ ⟨rfl, h⟩
      cases h
      split
      · exact ⟨rfl, _, rfl⟩
      · exact ensures_list_sizes host _ _
    · rintro _ _ ⟨-, h⟩
      cases h
  · rintro sizes _ ⟨rfl, -⟩
    exact ⟨rfl, _, rfl, rfl, rfl⟩
  · rintro _ _ ⟨-, sizes, h⟩
    cases h

end response

/-- What the command is asked for: only requested snapshots are destroyed, a dataset only if none of its snapshots
was to be kept, and the response has the snapshots that have been destroyed and none that is still there. -/
structure OnlyRequested (snapshots : List Snapshot) (node node' : Storage) (deleted : List Snapshot) : Prop where
  destroyed : ∀ snap ∈ node.snapshots, snap ∉ node'.snapshots → snap ∈ snapshots ∧ snap ∈ deleted
  datasets : ∀ ds ∈ node.datasets, ds ∉ node'.datasets → Complete node snapshots ds
  gone : ∀ snap ∈ deleted, snap ∉ node'.snapshots

/-- What the command does: a dataset takes all below it along, and the last backups are destroyed on the source,
which is the node if no host is given. -/
structure Deletion (snapshots last_snapshots : List Snapshot) (before after : Backup) (deleted : List Snapshot)
    (names : List Nat) : Prop where
  destroyed : ∀ snap ∈ before.node.snapshots, snap ∉ after.node.snapshots →
    (snap ∈ snapshots ∧ snap ∈ deleted) ∨
      (∃ top, Whole snapshots before.node after.node top ∧ top <+: snap.dataset ∧ top ≠ snap.dataset) ∨
        (before.host = none ∧ IsLast last_snapshots names snap)
  datasets : ∀ ds ∈ before.node.datasets, ds ∉ after.node.datasets →
    ∃ top, Whole snapshots before.node after.node top ∧ top <+: ds
  gone : ∀ snap ∈ deleted, snap ∈ snapshots ∧ snap ∉ after.node.snapshots
  source : ∀ remote ∈ before.host, ∃ remote' ∈ after.host, remote'.datasets = remote.datasets ∧
    ∀ snap ∈ remote.snapshots, snap ∉ remote'.snapshots → IsLast last_snapshots names snap

theorem Safe.deletion (hsafe : Safe snapshots bkp bkp') (hpruned : Pruned last_snapshots bkp' bkp'')
    (hinit : bkp.deleted_snapshots = []) :
    Deletion snapshots last_snapshots bkp bkp'' bkp''.deleted_snapshots bkp''.deleted_last_snapshot_names := by
  obtain ⟨deleted, hdeleted, hrequested, hlost⟩ := hsafe.reported
  rw [hinit, List.nil_append, ← hpruned.deleted_snapshots] at hdeleted
  subst hdeleted
  have hwhole {top : Path} (h : Whole snapshots bkp.node bkp'.node top) : Whole snapshots bkp.node bkp''.node top :=
    ⟨h.mem, h.affected, h.complete, fun ds hds => h.gone ds (hpruned.datasets ▸ hds)⟩
  refine ⟨fun snap hsnap hgone => ?_, fun ds hds hgone => ?_, fun snap hsnap => ?_, ?_⟩
  · by_cases hstill : snap ∈ bkp'.node.snapshots
    · obtain ⟨hhost, hlast⟩ := hpruned.node snap hstill hgone
      exact .inr (.inr ⟨hsafe.host ▸ hhost, hlast⟩)
    · rcases hlost snap hsnap hstill with hmem | ⟨top, htop, hbelow⟩
      · exact .inl ⟨(hrequested snap hmem).1, hmem⟩
      · exact .inr (.inl ⟨top, hwhole htop, hbelow⟩)
  · obtain ⟨top, htop, hbelow⟩ := hsafe.datasets ds hds (hpruned.datasets ▸ hgone)
    exact ⟨top, hwhole htop, hbelow⟩
  · exact ⟨(hrequested snap hsnap).1, fun hstill => (hrequested snap hsnap).2 (hpruned.remaining snap hstill)⟩
  · rw [← hsafe.host]
    exact hpruned.source

/-- With a host and without nested datasets the command does what it is asked for. -/
theorem Deletion.onlyRequested {deleted : List Snapshot} {names : List Nat}
    (hdeletion : Deletion snapshots last_snapshots bkp bkp' deleted names) (hhost : bkp.host ≠ none)
    (hapart : ∀ ds ∈ bkp.node.datasets, ∀ ds' ∈ bkp.node.datasets, ds <+: ds' → ds = ds')
    (hheld : ∀ snap ∈ bkp.node.snapshots, snap.dataset ∈ bkp.node.datasets) :
    OnlyRequested snapshots bkp.node bkp'.node deleted := by
  refine ⟨fun snap hsnap hgone => ?_, fun ds hds hgone => ?_, fun snap hsnap => (hdeletion.gone snap hsnap).2⟩
  · rcases hdeletion.destroyed snap hsnap hgone with hrequested | ⟨top, htop, hbelow, hne⟩ | ⟨hnone, _⟩
    · exact hrequested
    · exact absurd (hapart top htop.mem _ (hheld snap hsnap) hbelow) hne
    · exact absurd hnone hhost
  · obtain ⟨top, htop, hbelow⟩ := hdeletion.datasets ds hds hgone
    obtain rfl := hapart top htop.mem ds hds hbelow
    exact htop.complete

/-- Whatever fails, a deletion is as described, and so is its response. -/
theorem ds_delete_safe (host : Host) (datasets : List Path) (snapshots : List Snapshot) (metadata : Option String)
    (last_snapshots : List Snapshot) (node : Storage) (remote : Option Storage) (fails : List Bool)
    (hdatasets : datasets.Perm (snapshots.map Snapshot.dataset).dedup) :
    ∃ (rc : Int) (success : Bool) (response : Response) (bkp : Backup) (deleted : List Snapshot) (names : List Nat),
      (ds_delete host datasets snapshots metadata last_snapshots).run_failing fails (.init node remote) =
        (.ok (with_status rc success response), bkp) ∧
      response.lookup "deleted_snapshots" = some (.paths (deleted.map .snapshot)) ∧
      response.lookup "deleted_last_snapshot_names" = some (.names names) ∧
      Deletion snapshots last_snapshots (.init node remote) bkp deleted names := by
  have hnodup : datasets.Nodup := hdatasets.nodup_iff.mpr (List.nodup_dedup _)
  -- what holds before the response is made
  let Done (t : Backup) := Deletion snapshots last_snapshots (.init node remote) t t.deleted_snapshots
    t.deleted_last_snapshot_names
  have hdone {t : Backup} (hsafe : Safe snapshots (.init node remote) t) : Done t := hsafe.deletion (.refl _ _) rfl
  have hcommand : (do
      let current_snapshots ← list_current datasets
      destroy_datasets snapshots current_snapshots
      remove_metadata metadata
      destroy_last_snapshots last_snapshots
      ds_delete_response host : Command Response).Ensures (fun outcome t => Done t ∧
        ∀ response, outcome = .ok response → Tells t response) (.init node remote) := by
    refine (ensures_list_current datasets _).bind ?_ ?_
    · rintro current _ ⟨rfl, hcurrent⟩
      obtain rfl := hcurrent current rfl
      refine (ensures_destroy_datasets node hnodup fun _ _ _ => rfl).bind ?_ fun _ _ h => ⟨hdone h, nofun⟩
      intro _ t hsafe
      refine (ensures_remove_metadata metadata t).bind ?_ fun _ _ h => ⟨hdone (hsafe.trans (.of_same h)), nofun⟩
      intro _ t' hmetadata
      have hsafe' := hsafe.trans (.of_same hmetadata)
      refine (ensures_destroy_last last_snapshots t').bind ?_ fun _ _ h => ⟨hsafe'.deletion h rfl, nofun⟩
      intro _ t'' hlast
      refine (ensures_ds_delete_response host t'').mono ?_
      rintro _ _ ⟨rfl, response, rfl, htells⟩
      refine ⟨hsafe'.deletion hlast rfl, fun _ h => ?_⟩
      cases h
      exact htells
    · rintro _ _ ⟨rfl, -⟩
      exact ⟨hdone (.refl _ _), nofun⟩
  have houtput : (ds_delete host datasets snapshots metadata last_snapshots).Ensures (fun outcome t =>
      Done t ∧ ∃ rc success response, outcome = .ok (with_status rc success response) ∧ Tells t response)
      (.init node remote) := by
    refine Ensures.handle (R := fun outcome t => Done t ∧ ∀ output, outcome = .ok output →
        ∃ response, output = with_status 0 true response ∧ Tells t response) ?_ ?_ ?_
    · refine hcommand.bind ?_ fun _ _ h => ⟨h.1, nofun⟩
      rintro response t ⟨hdone, htells⟩
      refine ⟨hdone, fun _ h => ?_⟩
      cases h
      exact ⟨response, rfl, htells response rfl⟩
    · rintro output t ⟨hdone, houtput⟩
      obtain ⟨response, rfl, htells⟩ := houtput output rfl
      exact ⟨hdone, _, _, response, rfl, htells⟩
    · rintro e t ⟨hdone, -⟩
      refine (ensures_ds_delete_response host t).bind ?_ ?_
      · rintro response _ ⟨rfl, _, h, htells⟩
        cases h
        exact ⟨hdone, _, _, response, rfl, htells⟩
      · rintro e' _ ⟨-, _, h, -⟩
        cases h
  obtain ⟨hdeletion, rc, success, response, hrun, htells⟩ := houtput.run_failing fails
  exact ⟨rc, success, response, _, _, _, Prod.ext hrun rfl, htells.deleted_snapshots, htells.last_names, hdeletion⟩

/-- Two backups of which one lies below the other, and one beside them with two snapshots. -/
def nested_datasets : Storage :=
  ⟨[["zones", "b", "a"], ["zones", "b", "a", "old"], ["zones", "b", "c"]],
    [⟨["zones", "b", "a"], 1⟩, ⟨["zones", "b", "a", "old"], 2⟩, ⟨["zones", "b", "c"], 1⟩, ⟨["zones", "b", "c"], 3⟩], []⟩

/-- The disks of the source. -/
def source_disks : Storage := ⟨[["zones", "vm"]], [⟨["zones", "vm"], 1⟩, ⟨["zones", "vm"], 3⟩], []⟩

/-- The dataset of the first snapshot is destroyed with the one below it, and the destruction in the second fails. -/
theorem ds_delete_safe_failure :
    ∃ (rc : Int) (success : Bool) (response : Response) (bkp : Backup) (deleted : List Snapshot) (names : List Nat),
      (ds_delete ⟨fun _ => 1, fun _ _ => 0⟩ [["zones", "b", "a"], ["zones", "b", "c"]]
        [⟨["zones", "b", "a"], 1⟩, ⟨["zones", "b", "c"], 1⟩, ⟨["zones", "b", "c"], 7⟩] none [⟨["zones", "vm"], 1⟩]).run_failing
        [false, false, false, true] (.init nested_datasets (some source_disks)) =
          (.ok (with_status rc success response), bkp) ∧
      response.lookup "deleted_snapshots" = some (.paths (deleted.map .snapshot)) ∧
      response.lookup "deleted_last_snapshot_names" = some (.names names) ∧
      Deletion [⟨["zones", "b", "a"], 1⟩, ⟨["zones", "b", "c"], 1⟩, ⟨["zones", "b", "c"], 7⟩] [⟨["zones", "vm"], 1⟩]
        (.init nested_datasets (some source_disks)) bkp deleted names :=
  ds_delete_safe _ _ _ _ _ _ _ _ (by decide)

/-- A snapshot below the destroyed dataset, which nobody requested, is gone and is not in the response. -/
theorem ds_delete_nested :
    ¬ ∃ (rc : Int) (success : Bool) (response : Response) (bkp : Backup) (deleted : List Snapshot),
      (ds_delete ⟨fun _ => 1, fun _ _ => 0⟩ [["zones", "b", "a"]] [⟨["zones", "b", "a"], 1⟩] none []).run_failing
        [] (.init nested_datasets (some source_disks)) = (.ok (with_status rc success response), bkp) ∧
      response.lookup "deleted_snapshots" = some (.paths (deleted.map .snapshot)) ∧
      OnlyRequested [⟨["zones", "b", "a"], 1⟩] nested_datasets bkp.node deleted := by
  rintro ⟨rc, success, response, bkp, deleted, hrun, -, honly⟩
  have hnode : bkp.node.snapshots = [⟨["zones", "b", "c"], 1⟩, ⟨["zones", "b", "c"], 3⟩] :=
    (congrArg (fun result => result.2.node.snapshots) hrun).symm.trans (by decide)
  have hgone : (⟨["zones", "b", "a", "old"], 2⟩ : Snapshot) ∉ bkp.node.snapshots := by
    rw [hnode]
    decide
  have hrequested := (honly.destroyed ⟨["zones", "b", "a", "old"], 2⟩ (by simp [nested_datasets]) hgone).1
  simp at hrequested

end eslib.esbackup.delete
