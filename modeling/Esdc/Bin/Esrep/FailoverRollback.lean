import Esdc.Bin.Esrep.Failover

namespace eslib.esrep_failover

open text (Text IsWord isspace fields strip)
open zfs (get_value set_value clear_value)
open Procedure (query command checked assign state Ensures)

variable {hosts : Hosts} {s t : Replication} {fails : Step → Bool}

theorem split_once_eq {cs first rest : Text} (hsplit : split_once cs = some (first, rest)) :
    cs = first ++ '/' :: rest := by
  induction cs generalizing first with
  | nil => cases hsplit
  | cons c cs ih =>
    rw [split_once] at hsplit
    split at hsplit
    · case isTrue hc =>
      cases hsplit
      rw [hc, List.nil_append]
    · obtain ⟨⟨first', rest'⟩, hsplit', heq⟩ := Option.map_eq_some_iff.mp hsplit
      cases heq
      rw [ih hsplit', List.cons_append]

section checks

/-- The disk is the slave of another one, and its property is what the replication has written. -/
structure IsSlave (s : Replication) (disk : Text) : Prop where
  property : ∃ host src_disk, IsWord isspace host ∧ IsWord isspace src_disk ∧
    s.get_property disk ._dst_disk_property = some (host ++ '/' :: src_disk)
  readonly : s.get_property disk .readonly = some ['o', 'n']

theorem IsSlave.property_output {disk : Text} (hslave : IsSlave s disk) :
    s.get_property disk ._dst_disk_property = some (property_output (s.get_property disk ._dst_disk_property)) := by
  obtain ⟨host, src_disk, hhost, hsrc_disk, hproperty⟩ := hslave.property
  rw [hproperty]
  congr 1
  symm
  apply text.strip_of_isWord
  intro c hc
  rcases List.mem_append.mp hc with hc | hc
  · exact hhost.2 c hc
  · rcases List.mem_cons.mp hc with rfl | hc
    · decide
    · exact hsrc_disk.2 c hc

/-- An answer of a host, which may be missing under `force`. -/
theorem ensures_answer {α : Type} (step : Step) (answer : α) (force : Bool) (s : Replication) :
    (((do return some (← query step (fun _ => some answer) (.cmd step))) : Command (Option α)).handle
      fun e => if force then pure none else .throw e).Ensures
        (fun outcome t => t = s ∧ ∀ a, outcome = .ok (some a) → a = answer) s := by
  refine Ensures.handle (R := fun outcome t => t = s ∧ ∀ a, outcome = .ok (some a) → a = answer) ?_ (fun _ _ h => h) ?_
  · refine Ensures.bind (R := fun outcome t => t = s ∧ ∀ a, outcome = .ok a → a = answer)
      (Ensures.query (fun a ha => ⟨rfl, fun _ h => ?_⟩) ⟨rfl, nofun⟩) ?_ fun _ _ h => ⟨h.1, nofun⟩
    · cases h
      exact (Option.some.inj ha).symm
    · rintro a _ ⟨rfl, ha⟩
      refine ⟨rfl, fun _ h => ?_⟩
      cases h
      exact ha a rfl
  · rintro e t ⟨rfl, -⟩
    split
    · exact ⟨rfl, nofun⟩
    · exact ⟨rfl, nofun⟩

theorem ensures_vm_get_host_and_disks (remote force : Bool) (s : Replication) :
    (_vm_get_host_and_disks hosts remote force).Ensures (fun outcome t => t = s ∧
      ∀ found json, outcome = .ok (found, some json) → json = if remote then hosts.src_json else hosts.dst_json) s := by
  unfold _vm_get_host_and_disks
  refine (ensures_answer _ _ force s).bind ?_ fun _ _ h => ⟨h.1, nofun⟩
  rintro found _ ⟨rfl, -⟩
  cases found with
  | none => exact ⟨rfl, nofun⟩
  | some hostname =>
    refine (ensures_answer _ _ force _).bind ?_ fun _ _ h => ⟨h.1, nofun⟩
    rintro json _ ⟨rfl, hjson⟩
    refine ⟨rfl, fun _ json' h => ?_⟩
    cases h
    exact hjson json' rfl

theorem ensures_check_slave_disk (src_disk : Option Text) (dst_disk : Text) (s : Replication) :
    (check_slave_disk hosts src_disk dst_disk).Ensures (fun outcome t => t = s ∧ ∀ e, outcome = .ok e →
      e = (dst_disk, property_output (s.get_property dst_disk ._dst_disk_property))) s := by
  unfold check_slave_disk
  refine Ensures.bind (R := fun outcome t => t = s ∧ ∀ parts, outcome = .ok parts →
    property_output (s.get_property dst_disk ._dst_disk_property) = parts.1 ++ '/' :: parts.2) ?_ ?_ ?_
  · refine Ensures.query (fun parts hparts => ⟨rfl, ?_⟩) ⟨rfl, nofun⟩
    rintro _ h
    cases h
    exact split_once_eq hparts
  · rintro ⟨hostname, disk⟩ _ ⟨rfl, hparts⟩
    rw [hparts _ rfl]
    simp only
    split
    · split
      · exact ⟨rfl, fun e h => by cases h; rfl⟩
      · exact ⟨rfl, nofun⟩
    · split
      · exact ⟨rfl, nofun⟩
      · split
        · exact ⟨rfl, fun e h => by cases h; rfl⟩
        · exact ⟨rfl, nofun⟩
  · exact fun _ _ h => ⟨h.1, nofun⟩

theorem ensures_check_slave_disks (src_disks dst_disks : List Text) (s : Replication) :
    (check_slave_disks hosts src_disks dst_disks).Ensures (fun outcome t => t = s ∧
      ∀ properties, outcome = .ok properties → properties =
        dst_disks.map fun disk => (disk, property_output (s.get_property disk ._dst_disk_property))) s := by
  induction dst_disks generalizing src_disks with
  | nil => exact ⟨rfl, fun _ h => by cases h; rfl⟩
  | cons dst_disk dst_disks ih =>
    rw [check_slave_disks]
    refine (ensures_check_slave_disk src_disks.head? dst_disk s).bind ?_ fun _ _ h => ⟨h.1, nofun⟩
    rintro e _ ⟨rfl, he⟩
    refine (ih src_disks.tail).bind ?_ fun _ _ h => ⟨h.1, nofun⟩
    rintro properties _ ⟨rfl, hproperties⟩
    refine ⟨rfl, fun _ h => ?_⟩
    cases h
    rw [he e rfl, hproperties properties rfl]
    rfl

theorem ensures_check_disk_count (src_disks dst_disks : List Text) (s : Replication) :
    (_vm_check_disk_count src_disks dst_disks).Ensures (fun _ t => t = s) s := by
  unfold _vm_check_disk_count
  split
  · exact rfl
  · exact rfl

theorem ensures_check_master_disks (src_disks dst_disks : List Text) (s : Replication) :
    (check_master_disks hosts src_disks dst_disks).Ensures (fun _ t => t = s) s := by
  induction src_disks generalizing dst_disks with
  | nil => exact rfl
  | cons src_disk src_disks ih =>
    rw [check_master_disks]
    refine Ensures.bind (R := fun _ t => t = s) (Ensures.query (fun _ _ => rfl) rfl) ?_ fun _ _ h => h
    rintro ⟨_, disk⟩ _ rfl
    simp only
    split
    · exact rfl
    · split
      · exact ih _
      · exact rfl

theorem ensures_stop_master (check_master : Bool) (s : Replication) :
    (stop_master check_master).Ensures (fun _ t => t = s) s := by
  refine Ensures.handle (R := fun _ t => t = s) ?_ (fun _ _ h => h) ?_
  · refine Ensures.bind (R := fun _ t => t = s) (Ensures.checked ?_ rfl) (fun _ _ h => h) fun _ _ h => h
    intro t ht
    exact (Option.some.inj ht).symm
  · intro e t h
    split
    · exact h
    · exact h

theorem ensures_when {check_master : Bool} {command : Command Unit} {s : Replication}
    (hcommand : command.Ensures (fun _ t => t = s) s) : (when check_master command).Ensures (fun _ t => t = s) s := by
  unfold when
  split
  · exact hcommand
  · exact rfl

theorem ensures_check_disks (check_master : Bool) (src_disks dst_disks : List Text) (s : Replication) :
    (check_disks hosts check_master src_disks dst_disks).Ensures (fun outcome t => t = s ∧
      ∀ properties, outcome = .ok properties → properties =
        dst_disks.map fun disk => (disk, property_output (s.get_property disk ._dst_disk_property))) s := by
  refine (ensures_check_slave_disks src_disks dst_disks s).bind ?_ fun _ _ h => ⟨h.1, nofun⟩
  rintro properties _ ⟨rfl, hproperties⟩
  refine (ensures_when (ensures_check_master_disks src_disks dst_disks _)).bind ?_ fun _ _ h => ⟨h, nofun⟩
  rintro _ _ rfl
  refine Ensures.bind (R := fun _ t => t = _) (Ensures.query (fun _ _ => rfl) rfl) ?_ fun _ _ h => ⟨h, nofun⟩
  rintro service_exists _ rfl
  split
  · exact ⟨rfl, nofun⟩
  · exact ⟨rfl, fun _ h => by cases h; exact hproperties _ rfl⟩

end checks

section promotion

/-- What a failover that has not been completed may have changed. -/
structure Switched (s t : Replication) : Prop where
  values : ∀ e ∈ t._vm_disks_cleared, s.get_property e.1 ._dst_disk_property = some e.2 ∧
    s.get_property e.1 .readonly = some ['o', 'n']
  kept : ∀ path, (∀ e ∈ t._vm_disks_cleared, fields '/' e.1 ≠ path) → ∀ property, property ≠ ._src_disk_property →
    t.properties property path = s.properties property path

theorem clear_property_of_ne {disk : Text} {property property' : Property} {path : List Text}
    (hne : property' ≠ property ∨ path ≠ fields '/' disk) :
    (s.clear_property disk property).properties property' path = s.properties property' path := by
  unfold Replication.clear_property
  by_cases hproperty : property' = property
  · subst hproperty
    simp only [Function.update_self]
    exact zfs.clear_value_of_ne _ (hne.resolve_left (not_not.mpr rfl))
  · simp only [Function.update_of_ne hproperty]

theorem ensures_clear {Q : Except Error Unit → Replication → Prop} {disk : Text} {property : Property}
    (hok : Q (.ok ()) (s.clear_property disk property)) (herror : ∀ e, Q (.error e) s) :
    (_clear_dataset_property disk property).Ensures Q s :=
  Ensures.checked (fun _ h => Option.some.inj h ▸ hok) (herror _)

theorem ensures_clear_disks {disks : List (Text × Text)} (hdisks : ∀ e ∈ disks,
    s.get_property e.1 ._dst_disk_property = some e.2 ∧ s.get_property e.1 .readonly = some ['o', 'n'])
    (hswitched : Switched s t) : (clear_disks disks).Ensures (fun _ t => Switched s t) t := by
  induction disks generalizing t with
  | nil => exact hswitched
  | cons e disks ih =>
    obtain ⟨dst_disk, dst_disk_property⟩ := e
    obtain ⟨he, hdisks⟩ := List.forall_mem_cons.mp hdisks
    rw [clear_disks]
    refine Ensures.bind (R := fun _ t => Switched s t) (ensures_clear ?_ fun _ => hswitched) ?_ fun _ _ h => h
    · refine ⟨hswitched.values, fun path hpath property hproperty => ?_⟩
      rw [clear_property_of_ne (Or.inl hproperty)]
      exact hswitched.kept path hpath property hproperty
    intro _ u hswitched
    refine Ensures.bind (R := fun outcome v => (outcome = .ok () ∧ v = u.clear_property dst_disk ._dst_disk_property) ∨
      ((∃ e, outcome = .error e) ∧ v = u)) (ensures_clear (.inl ⟨rfl, rfl⟩) fun e => .inr ⟨⟨e, rfl⟩, rfl⟩) ?_ ?_
    · rintro _ _ (⟨-, rfl⟩ | ⟨⟨_, h⟩, -⟩)
      · have hrecorded : Switched s { u.clear_property dst_disk ._dst_disk_property with
            _vm_disks_cleared := u._vm_disks_cleared ++ [(dst_disk, dst_disk_property)] } := by
          refine ⟨fun e hmem => ?_, fun path hpath property hproperty => ?_⟩
          · rcases List.mem_append.mp hmem with hmem | hmem
            · exact hswitched.values e hmem
            · rw [List.mem_singleton.mp hmem]
              exact he
          · simp only [List.forall_mem_append, List.forall_mem_singleton] at hpath
            rw [← hswitched.kept path hpath.1 property hproperty]
            exact clear_property_of_ne (Or.inr (Ne.symm hpath.2))
        refine Ensures.bind (R := fun outcome v => v = _) (Ensures.assign rfl) ?_ fun _ _ h => h ▸ hrecorded
        rintro _ _ rfl
        refine Ensures.bind (R := fun _ t => Switched s t) (ensures_clear ?_ fun _ => hrecorded) ?_ fun _ _ h => h
        · refine ⟨hrecorded.values, fun path hpath property hproperty => ?_⟩
          have hne : path ≠ fields '/' dst_disk :=
            Ne.symm (hpath (dst_disk, dst_disk_property) (List.mem_append_right _ (List.mem_singleton_self _)))
          rw [clear_property_of_ne (Or.inr hne)]
          exact hrecorded.kept path hpath property hproperty
        · exact fun _ t h => ih hdisks h
      · cases h
    · rintro e _ (⟨h, -⟩ | ⟨-, rfl⟩)
      · cases h
      · exact hswitched

/-- A failover that fails has changed nothing but what it has recorded. -/
theorem ensures_failover (hdisks : ∀ disk ∈ _vm_get_disks hosts.dst_json, IsSlave s disk)
    (hcleared : s._vm_disks_cleared = []) :
    (failover hosts).Ensures (fun outcome t => ∀ e, outcome = .error e → Switched s t) s := by
  have hstart : Switched s s := by
    refine ⟨fun e he => ?_, fun _ _ _ _ => rfl⟩
    rw [hcleared] at he
    cases he
  unfold failover
  refine (ensures_vm_get_host_and_disks false false s).bind ?_ fun _ _ h _ _ => h.1 ▸ hstart
  rintro ⟨dst_host_name, dst_json⟩ t ⟨ht, hdst_json⟩
  rw [ht]
  refine (ensures_vm_get_host_and_disks true hosts.force s).bind ?_ fun _ _ h _ _ => h.1 ▸ hstart
  rintro ⟨src_host_name, src_json⟩ t ⟨ht, -⟩
  rw [ht]
  refine (ensures_when (ensures_check_disk_count _ _ s)).bind ?_ fun _ _ h _ _ => h ▸ hstart
  intro _ t ht
  rw [ht]
  refine (ensures_check_disks _ _ _ s).bind ?_ fun _ _ h _ _ => h.1 ▸ hstart
  rintro properties t ⟨ht, hproperties⟩
  rw [ht]
  have hvalues : ∀ e ∈ properties, s.get_property e.1 ._dst_disk_property = some e.2 ∧
      s.get_property e.1 .readonly = some ['o', 'n'] := by
    intro e he
    rw [hproperties properties rfl, List.mem_map] at he
    obtain ⟨disk, hdisk, rfl⟩ := he
    cases dst_json with
    | none => cases hdisk
    | some json =>
      rw [hdst_json _ json rfl] at hdisk
      have hslave := hdisks disk hdisk
      exact ⟨hslave.property_output, hslave.readonly⟩
  refine (ensures_stop_master _ s).bind ?_ fun _ _ h _ _ => h ▸ hstart
  intro old_master_stopped t ht
  rw [ht]
  refine Ensures.bind (R := fun outcome t => outcome = .ok () ∧ Switched s t) (Ensures.assign ⟨rfl, ?_⟩) ?_ ?_
  · exact ⟨nofun, fun _ _ _ _ => rfl⟩
  · rintro _ t ⟨-, hswitched⟩
    refine (ensures_clear_disks hvalues hswitched).bind ?_ fun _ _ h _ _ => h
    intro _ u hcleared
    refine Ensures.bind (R := fun _ v => Switched s v) (Ensures.checked ?_ hcleared) ?_ fun _ _ h _ _ => h
    · intro v hv
      rw [← Option.some.inj hv]
      exact hcleared
    · exact fun _ _ _ => nofun
  · rintro _ _ ⟨h, -⟩
    cases h

end promotion

section rollback

/-- Setting the properties of some disks succeeds. -/
theorem under_restore_disks (hset : ∀ disk property, fails (.set_property disk property) = false)
    (disks : List (Text × Text)) (t : Replication) :
    ∃ t', (restore_disks disks).under fails t = (.ok (), t') ∧ ∀ path,
      (∃ e ∈ disks, fields '/' e.1 = path ∧ t'.properties ._dst_disk_property path = some e.2 ∧
          t'.properties .readonly path = some ['o', 'n']) ∨
        ((∀ e ∈ disks, fields '/' e.1 ≠ path) ∧
          ∀ property, t'.properties property path = t.properties property path) := by
  induction disks generalizing t with
  | nil => exact ⟨t, rfl, fun path => Or.inr ⟨nofun, fun _ => rfl⟩⟩
  | cons e disks ih =>
    obtain ⟨dst_disk, dst_disk_property⟩ := e
    let u := (t.set_property dst_disk ._dst_disk_property dst_disk_property).set_property dst_disk .readonly ['o', 'n']
    obtain ⟨t', hrun, hrestored⟩ := ih u
    refine ⟨t', ?_, fun path => ?_⟩
    · have hproperty : (_set_dataset_property dst_disk ._dst_disk_property dst_disk_property).under fails t =
          (.ok (), t.set_property dst_disk ._dst_disk_property dst_disk_property) := by
        rw [_set_dataset_property, Procedure.under_checked, hset]
        rfl
      have hreadonly : (_set_dataset_property dst_disk .readonly ['o', 'n']).under fails
          (t.set_property dst_disk ._dst_disk_property dst_disk_property) = (.ok (), u) := by
        rw [_set_dataset_property, Procedure.under_checked, hset]
        rfl
      rw [restore_disks, Procedure.under_bind_of_ok hproperty, Procedure.under_bind_of_ok hreadonly]
      exact hrun
    · rcases hrestored path with ⟨e, he, hpath, hvalues⟩ | ⟨hpath, hkept⟩
      · exact Or.inl ⟨e, List.mem_cons_of_mem _ he, hpath, hvalues⟩
      · by_cases hsame : fields '/' dst_disk = path
        · refine Or.inl ⟨_, List.mem_cons_self, hsame, ?_, ?_⟩
          · rw [hkept, ← hsame]
            simp [u, Replication.set_property]
          · rw [hkept, ← hsame]
            simp [u, Replication.set_property]
        · refine Or.inr ⟨List.forall_mem_cons.mpr ⟨hsame, hpath⟩, fun property => ?_⟩
          rw [hkept]
          cases property <;> simp [u, Replication.set_property, zfs.set_value_of_ne _ _ (Ne.symm hsame)]

/-- The properties that the cleanup leaves. -/
theorem under_failover_cleanup (hset : ∀ disk property, fails (.set_property disk property) = false)
    (hswitched : Switched s t) : ∃ t', failover_cleanup.under fails t = (.ok (), t') ∧ ∀ disk,
      t'.get_property disk ._dst_disk_property = s.get_property disk ._dst_disk_property ∧
      t'.get_property disk .readonly = s.get_property disk .readonly := by
  have hrestore : ∃ t', (restore_disks t._vm_disks_cleared).under fails t = (.ok (), t') ∧ ∀ disk,
      t'.get_property disk ._dst_disk_property = s.get_property disk ._dst_disk_property ∧
      t'.get_property disk .readonly = s.get_property disk .readonly := by
    obtain ⟨t', hrun, hrestored⟩ := under_restore_disks hset t._vm_disks_cleared t
    refine ⟨t', hrun, fun disk => ⟨zfs.get_value_of_kept (fun path => ?_) _, zfs.get_value_of_kept (fun path => ?_) _⟩⟩
    · rcases hrestored path with ⟨e, he, rfl, hvalue, -⟩ | ⟨hpath, hkept⟩
      · exact Or.inr (hvalue.trans (hswitched.values e he).1.symm)
      · exact Or.inl ((hkept _).trans (hswitched.kept path hpath _ (by decide)))
    · rcases hrestored path with ⟨e, he, rfl, -, hvalue⟩ | ⟨hpath, hkept⟩
      · exact Or.inr (hvalue.trans (hswitched.values e he).2.symm)
      · exact Or.inl ((hkept _).trans (hswitched.kept path hpath _ (by decide)))
  rw [failover_cleanup, Procedure.under_bind_of_ok (Procedure.under_state t)]
  split
  · case isTrue hempty =>
    rw [List.isEmpty_iff] at hempty
    rw [hempty] at hrestore
    exact hrestore
  · have hstop : (command (.vm_stop_force false) some : Command Bool).under fails t =
        (.ok !fails (.vm_stop_force false), t) := by
      rw [Procedure.under_command]
      cases fails (.vm_stop_force false) <;> rfl
    rw [Procedure.under_bind_of_ok hstop]
    exact hrestore

/-- After a failover that fails every disk of the slave has the properties that it had before. -/
theorem failover_rolled_back (hosts : Hosts) (s t : Replication) (fails : Step → Bool) (e : Error)
    (hdisks : ∀ disk ∈ _vm_get_disks hosts.dst_json, IsSlave s disk) (hcleared : s._vm_disks_cleared = [])
    (hset : ∀ disk property, fails (.set_property disk property) = false)
    (hfailed : (cmd_output (failover hosts) failover_cleanup).under fails s = (.ok (.error e), t)) :
    ∀ disk ∈ _vm_get_disks hosts.dst_json,
      t.get_property disk ._dst_disk_property = s.get_property disk ._dst_disk_property ∧
      t.get_property disk .readonly = some ['o', 'n'] := by
  have hensures := (ensures_failover hdisks hcleared).under fails
  rw [cmd_output, Procedure.under_handle, Procedure.under_bind] at hfailed
  rcases hrun : (failover hosts).under fails s with ⟨e' | response, u⟩
  · rw [hrun] at hfailed hensures
    obtain ⟨t', hcleanup, hrestored⟩ := under_failover_cleanup hset (hensures e' rfl)
    have hhandled : (failover_cleanup.handle fun _ => pure ()).under fails u = (.ok (), t') := by
      rw [Procedure.under_handle, hcleanup]
    simp only [Procedure.under_bind_of_ok hhandled] at hfailed
    cases hfailed
    intro disk hdisk
    exact ⟨(hrestored disk).1, (hrestored disk).2.trans (hdisks disk hdisk).readonly⟩
  · rw [hrun] at hfailed
    cases hfailed

end rollback

section examples

def zone_json (root data : Text) : VmJson := ⟨"joyent", [], [], root, [data]⟩

/-- A zone with two disks and its replica. -/
def zone_hosts : Hosts where
  src_uuid := ['m']
  dst_uuid := ['s']
  force := false
  dst_host := ['g']
  src_host := ['h']
  dst_json := zone_json ['z', '/', 's'] ['z', '/', 's', '/', 'd']
  src_json := zone_json ['z', '/', 'm'] ['z', '/', 'm', '/', 'd']
  src_properties path :=
    if path = [['z'], ['m']] then some ['g', '/', 'z', '/', 's']
    else if path = [['z'], ['m'], ['d']] then some ['g', '/', 'z', '/', 's', '/', 'd'] else none
  service_exists := false

/-- The second disk inherits `readonly` from the first one. -/
def zone_replica : Replication where
  properties
    | ._dst_disk_property, path =>
      if path = [['z'], ['s']] then some ['h', '/', 'z', '/', 'm']
      else if path = [['z'], ['s'], ['d']] then some ['h', '/', 'z', '/', 'm', '/', 'd'] else none
    | .readonly, path => if path = [['z'], ['s']] then some ['o', 'n'] else none
    | ._src_disk_property, _ => none
  _vm_disks_cleared := []

theorem isSlave_zone_replica : ∀ disk ∈ _vm_get_disks zone_hosts.dst_json, IsSlave zone_replica disk := by
  have hhost : IsWord isspace ['h'] := ⟨by decide, by simp [isspace]⟩
  have hroot : IsWord isspace ['z', '/', 'm'] := ⟨by decide, by simp [isspace]⟩
  have hdata : IsWord isspace ['z', '/', 'm', '/', 'd'] := ⟨by decide, by simp [isspace]⟩
  exact List.forall_mem_cons.mpr ⟨⟨⟨_, _, hhost, hroot, rfl⟩, rfl⟩,
    List.forall_mem_singleton.mpr ⟨⟨_, _, hhost, hdata, rfl⟩, rfl⟩⟩

/-- The new master cannot be started. -/
def start_fails (step : Step) : Bool := step = .vm_start

/-- The failover of the zone and its cleanup -/
def zone_failover : Except Error (Except Error Response) × Replication :=
  (cmd_output (failover zone_hosts) failover_cleanup).under start_fails zone_replica

theorem failover_rolled_back_zone :
    (zone_failover.2.get_property ['z', '/', 's'] ._dst_disk_property =
        zone_replica.get_property ['z', '/', 's'] ._dst_disk_property ∧
      zone_failover.2.get_property ['z', '/', 's'] .readonly = some ['o', 'n']) ∧
    zone_failover.2.get_property ['z', '/', 's', '/', 'd'] ._dst_disk_property =
        zone_replica.get_property ['z', '/', 's', '/', 'd'] ._dst_disk_property ∧
      zone_failover.2.get_property ['z', '/', 's', '/', 'd'] .readonly = some ['o', 'n'] := by
  have hrolled := failover_rolled_back zone_hosts zone_replica zone_failover.2 start_fails (.cmd .vm_start)
    isSlave_zone_replica rfl (fun _ _ => rfl) (Prod.ext rfl rfl)
  exact ⟨hrolled _ List.mem_cons_self, hrolled _ (List.mem_cons_of_mem _ List.mem_cons_self)⟩

end examples

end eslib.esrep_failover
