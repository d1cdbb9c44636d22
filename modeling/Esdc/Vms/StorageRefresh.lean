import Mathlib
import Esdc.Vms.Accounting.Free
import Esdc.Vms.StorageSizes

namespace vms.storage

open accounting (Vm)
open derived_cache (get_or_set Filled filled_get_or_set get_or_set_cached get_or_set_of_ne)

variable {Dc NodeId Zpool VmId : Type} [DecidableEq Dc] [DecidableEq NodeId] [DecidableEq Zpool] [DecidableEq VmId]

/-- Every cached size and every cached total is what the database gives. -/
structure Coherent (nodes : Nodes Dc NodeId Zpool) (s : State Dc NodeId Zpool VmId) : Prop where
  sizes : derived_cache.Coherent (Key.size s.rows) s.sizes
  size_total_dc : derived_cache.Coherent (nodes.total_dc s.rows) s.size_total_dc

/-- The total of a datacenter is the sum of the sizes cached for its storages. -/
def Summed (nodes : Nodes Dc NodeId Zpool) (s : State Dc NodeId Zpool VmId) (dc : Dc) : Prop :=
  ∃ size : NodeStorage NodeId Zpool → ℤ,
    (∀ ns ∈ nodes.dc_storages dc, s.sizes (.VMS_SIZE_DC dc ns) = some (size ns)) ∧
      s.size_total_dc dc = some ((nodes.dc_storages dc).map size).sum

/-- All that the refreshes of an operation can have done: `keys` are computed
again and the totals of `dcs` are summed up again. -/
structure Refreshed (nodes : Nodes Dc NodeId Zpool) (keys : Set (Key Dc NodeId Zpool)) (dcs : Set Dc)
    (s s' : State Dc NodeId Zpool VmId) : Prop where
  rows : s'.rows = s.rows
  filled : Filled (Key.size s.rows) keys s.sizes s'.sizes
  dc_backups : ∀ dc ns, .BACKUP_SIZE_DC dc ns ∉ keys → s'.sizes (.BACKUP_SIZE_DC dc ns) = s.sizes (.BACKUP_SIZE_DC dc ns)
  summed : ∀ dc ∈ dcs, Summed nodes s' dc
  others : ∀ dc ∉ dcs, s'.size_total_dc dc = s.size_total_dc dc
  dc_vms : ∀ dc ns, .VMS_SIZE_DC dc ns ∈ keys → dc ∈ dcs

namespace Refreshed

variable {nodes : Nodes Dc NodeId Zpool}

theorem refl (s : State Dc NodeId Zpool VmId) : Refreshed nodes ∅ ∅ s s where
  rows := rfl
  filled := .refl _ _
  dc_backups := fun _ _ _ => rfl
  summed := fun dc hdc => by cases hdc
  others := fun _ _ => rfl
  dc_vms := fun _ _ hkey => by cases hkey

theorem trans {keys keys' : Set (Key Dc NodeId Zpool)} {dcs dcs' : Set Dc} {s t u : State Dc NodeId Zpool VmId}
    (hfirst : Refreshed nodes keys dcs s t) (hsecond : Refreshed nodes keys' dcs' t u) :
    Refreshed nodes (keys ∪ keys') (dcs ∪ dcs') s u := by
  have hfilled := hsecond.filled
  rw [hfirst.rows] at hfilled
  refine ⟨hsecond.rows.trans hfirst.rows, hfirst.filled.trans hfilled, ?_, ?_, ?_, ?_⟩
  · intro dc ns hkey
    rw [Set.mem_union, not_or] at hkey
    exact (hsecond.dc_backups dc ns hkey.2).trans (hfirst.dc_backups dc ns hkey.1)
  · intro dc hdc
    by_cases hdc' : dc ∈ dcs'
    · exact hsecond.summed dc hdc'
    · -- the second part neither computes a size of this datacenter again nor fills one
      obtain ⟨size, hsize, htotal⟩ := hfirst.summed dc (hdc.resolve_right hdc')
      refine ⟨size, fun ns hns => ?_, (hsecond.others dc hdc').trans htotal⟩
      have hkey : Key.VMS_SIZE_DC dc ns ∉ keys' := fun hkey => hdc' (hsecond.dc_vms dc ns hkey)
      rcases hsecond.filled.others _ hkey with hsame | ⟨hnone, -⟩
      · exact hsame.trans (hsize ns hns)
      · rw [hsize ns hns] at hnone
        cases hnone
  · intro dc hdc
    rw [Set.mem_union, not_or] at hdc
    exact (hsecond.others dc hdc.2).trans (hfirst.others dc hdc.1)
  · rintro dc ns (hkey | hkey)
    · exact Or.inl (hfirst.dc_vms dc ns hkey)
    · exact Or.inr (hsecond.dc_vms dc ns hkey)

/-- The refreshes of a loop. -/
theorem foldl {ι : Type} {f : State Dc NodeId Zpool VmId → ι → State Dc NodeId Zpool VmId}
    {keys : ι → Set (Key Dc NodeId Zpool)} {dcs : ι → Set Dc} (items : List ι)
    (hstep : ∀ s, ∀ i ∈ items, Refreshed nodes (keys i) (dcs i) s (f s i)) (s : State Dc NodeId Zpool VmId) :
    Refreshed nodes {key | ∃ i ∈ items, key ∈ keys i} {dc | ∃ i ∈ items, dc ∈ dcs i} s (items.foldl f s) := by
  induction items generalizing s with
  | nil => simpa using refl s
  | cons i items ih =>
    have htail := ih (fun s j hj => hstep s j (List.mem_cons_of_mem i hj)) (f s i)
    have hboth := (hstep s i List.mem_cons_self).trans htail
    have hkeys : {key | ∃ j ∈ i :: items, key ∈ keys j} = keys i ∪ {key | ∃ j ∈ items, key ∈ keys j} := by
      ext key
      simp
    have hdcs : {dc | ∃ j ∈ i :: items, dc ∈ dcs j} = dcs i ∪ {dc | ∃ j ∈ items, dc ∈ dcs j} := by
      ext dc
      simp
    rw [hkeys, hdcs]
    exact hboth

/-- An operation keeps the caches coherent exactly when it computes every cached
size again that it changes, and sums up every cached total again that it changes. -/
theorem coherent_iff {keys : Set (Key Dc NodeId Zpool)} {dcs : Set Dc} {s t s' : State Dc NodeId Zpool VmId}
    (hcoherent : Coherent nodes s) (hsizes : t.sizes = s.sizes) (htotals : t.size_total_dc = s.size_total_dc)
    (hrefreshed : Refreshed nodes keys dcs t s') :
    Coherent nodes s' ↔
      (∀ key, s.sizes key ≠ none → Key.size t.rows key ≠ Key.size s.rows key → key ∈ keys) ∧
        ∀ dc, s.size_total_dc dc ≠ none → nodes.total_dc t.rows dc ≠ nodes.total_dc s.rows dc → dc ∈ dcs := by
  have hfilled := hrefreshed.filled
  rw [hsizes] at hfilled
  have hcovered_iff := hfilled.coherent_iff hcoherent.sizes
  constructor
  · rintro ⟨hsizes', htotals'⟩
    rw [hrefreshed.rows] at hsizes' htotals'
    refine ⟨hcovered_iff.mp hsizes', fun dc hcached hchanged => ?_⟩
    by_contra hdc
    obtain ⟨total, htotal⟩ := Option.ne_none_iff_exists'.mp hcached
    have hsame : s'.size_total_dc dc = some total := by
      rw [hrefreshed.others dc hdc, htotals, htotal]
    apply hchanged
    rw [← htotals' dc total hsame, hcoherent.size_total_dc dc total htotal]
  · rintro ⟨hcovered, hcovered_dc⟩
    have hsizes' := hcovered_iff.mpr hcovered
    constructor
    · rw [hrefreshed.rows]
      exact hsizes'
    · rw [hrefreshed.rows]
      intro dc total htotal
      by_cases hdc : dc ∈ dcs
      · obtain ⟨size, hsize, hsum⟩ := hrefreshed.summed dc hdc
        rw [hsum] at htotal
        rw [← Option.some.inj htotal, Nodes.total_dc]
        congr 1
        apply List.map_congr_left
        intro ns hns
        exact hsizes' _ _ (hsize ns hns)
      · rw [hrefreshed.others dc hdc, htotals] at htotal
        have hold : total = nodes.total_dc s.rows dc := hcoherent.size_total_dc dc total htotal
        by_contra hne
        have hcached : s.size_total_dc dc ≠ none := by
          intro hnone
          rw [hnone] at htotal
          cases htotal
        exact hdc (hcovered_dc dc hcached fun heq => hne (hold.trans heq.symm))

/-- Refreshes made before the datacenters of some backups were changed. -/
theorem of_backups {keys : Set (Key Dc NodeId Zpool)} {dcs : Set Dc} {s s' : State Dc NodeId Zpool VmId}
    {rows : Rows Dc NodeId Zpool VmId} (hrefreshed : Refreshed nodes keys dcs s s')
    (hsame : ∀ key, (∀ dc ns, key ≠ .BACKUP_SIZE_DC dc ns) → Key.size s.rows key = Key.size rows key)
    (hkeys : ∀ dc ns, .BACKUP_SIZE_DC dc ns ∉ keys) :
    Refreshed nodes keys dcs { s with rows := rows } { s' with rows := rows } where
  rows := rfl
  filled := by
    apply hrefreshed.filled.congr
    · intro key hkey
      by_cases hbackups : ∃ dc ns, key = .BACKUP_SIZE_DC dc ns
      · obtain ⟨dc, ns, rfl⟩ := hbackups
        exact Or.inl (hrefreshed.dc_backups dc ns hkey)
      · exact Or.inr (hsame key fun dc ns heq => hbackups ⟨dc, ns, heq⟩)
    · intro key hkey
      apply hsame
      rintro dc ns rfl
      exact hkeys dc ns hkey
  dc_backups := hrefreshed.dc_backups
  summed := hrefreshed.summed
  others := hrefreshed.others
  dc_vms := hrefreshed.dc_vms

end Refreshed

section methods

variable {nodes : Nodes Dc NodeId Zpool}

theorem Refreshed.of_eq {keys keys' : Set (Key Dc NodeId Zpool)} {dcs dcs' : Set Dc}
    {s s' : State Dc NodeId Zpool VmId} (hrefreshed : Refreshed nodes keys dcs s s') (hkeys : keys = keys')
    (hdcs : dcs = dcs') : Refreshed nodes keys' dcs' s s' := by
  subst hkeys hdcs
  exact hrefreshed

/-- Reading a size, or computing it again; the size of the VMs in a datacenter is not computed
again without its total. -/
theorem Refreshed.of_related (key : Key Dc NodeId Zpool) {fetch_size_fun : Rows Dc NodeId Zpool VmId → ℕ}
    (clear_cache : Bool) {s : State Dc NodeId Zpool VmId} (hfetch : (fetch_size_fun s.rows : ℤ) = key.size s.rows)
    (hbackups : clear_cache = false → ∀ dc ns, key ≠ .BACKUP_SIZE_DC dc ns)
    (hvms : clear_cache = true → ∀ dc ns, key ≠ .VMS_SIZE_DC dc ns) :
    Refreshed nodes {k | k = key ∧ clear_cache = true} ∅ s
      (NodeStorage._get_related_object_size key fetch_size_fun clear_cache s).2 where
  rows := rfl
  filled := by
    simp only [NodeStorage._get_related_object_size, hfetch]
    exact filled_get_or_set (Key.size s.rows) s.sizes key clear_cache
  dc_backups := by
    intro dc ns hkey
    apply get_or_set_of_ne
    rintro rfl
    cases clear_cache with
    | true => exact hkey ⟨rfl, rfl⟩
    | false => exact hbackups rfl dc ns rfl
  summed := fun dc hdc => by cases hdc
  others := fun _ _ => rfl
  dc_vms := by
    rintro dc ns ⟨heq, hclear⟩
    exact absurd heq.symm (hvms hclear dc ns)

/-- The sizes that `update_resources` is asked to compute again. -/
def NodeStorage.Recalculate.Asks (recalculate : NodeStorage.Recalculate Dc) (self : NodeStorage NodeId Zpool) :
    Key Dc NodeId Zpool → Prop
  | .VMS_SIZE_TOTAL ns => ns = self ∧ recalculate.vms_size = true
  | .VMS_SIZE_DC dc ns => dc ∈ recalculate.dc_vms_size ∧ ns = self
  | .SNAPSHOT_SIZE_TOTAL ns => ns = self ∧ recalculate.snapshots_size = true
  | .SNAPSHOT_SIZE_DC dc ns => dc ∈ recalculate.dc_snapshots_size ∧ ns = self
  | .BACKUP_SIZE_TOTAL ns => ns = self ∧ recalculate.backups_size = true
  | .BACKUP_SIZE_DC dc ns => dc ∈ recalculate.dc_backups_size ∧ ns = self

/-- What is cached for a datacenter stays cached while other sizes are read. -/
theorem Refreshed.cached {s t : State Dc NodeId Zpool VmId}
    (hrefreshed : Refreshed nodes ∅ ∅ s t) {key : Key Dc NodeId Zpool} {size : ℤ} (hsize : s.sizes key = some size) :
    t.sizes key = some size := by
  rcases hrefreshed.filled.others key (Set.notMem_empty key) with hsame | ⟨hnone, -⟩
  · exact hsame.trans hsize
  · rw [hsize] at hnone
    cases hnone

theorem Refreshed.cached_dc_vms_size (ns : NodeStorage NodeId Zpool) (dc : Dc) (s : State Dc NodeId Zpool VmId) :
    Refreshed nodes ∅ ∅ s (ns.cached_dc_vms_size dc false s).2 :=
  (of_related (.VMS_SIZE_DC dc ns) false rfl (fun _ _ _ heq => by cases heq) fun hfalse => by cases hfalse).of_eq
    (by simp) rfl

/-- The loop over the other storages reads what is cached and caches the rest. -/
theorem Refreshed.sum_dc_vms_size (dc : Dc) (others : List (NodeStorage NodeId Zpool))
    (s : State Dc NodeId Zpool VmId) :
    Refreshed nodes ∅ ∅ s (NodeStorage.sum_dc_vms_size dc others s).2 ∧
      ∃ size : NodeStorage NodeId Zpool → ℤ,
        (∀ ns ∈ others, (NodeStorage.sum_dc_vms_size dc others s).2.sizes (.VMS_SIZE_DC dc ns) = some (size ns)) ∧
          (NodeStorage.sum_dc_vms_size dc others s).1 = (others.map size).sum := by
  induction others generalizing s with
  | nil => exact ⟨.refl s, fun _ => 0, by simp [NodeStorage.sum_dc_vms_size]⟩
  | cons ns others ih =>
    have hread : Refreshed nodes ∅ ∅ s _ := cached_dc_vms_size ns dc s
    obtain ⟨hloop, size, hsize, hsum⟩ := ih (ns.cached_dc_vms_size dc false s).2
    have hboth := hread.trans hloop
    rw [Set.union_empty, Set.union_empty] at hboth
    -- the size of the first storage is still cached when the loop is done
    have hfirst := hloop.cached (get_or_set_cached s.sizes (.VMS_SIZE_DC dc ns) false _)
    have hagrees : ∀ other ∈ others,
        Function.update size ns (ns.cached_dc_vms_size dc false s).1 other = size other := by
      intro other hother
      by_cases heq : other = ns
      · subst heq
        rw [Function.update_self]
        exact Option.some.inj (hfirst.symm.trans (hsize other hother))
      · rw [Function.update_of_ne heq]
    refine ⟨hboth, Function.update size ns (ns.cached_dc_vms_size dc false s).1, ?_, ?_⟩
    · intro other hother
      rcases List.mem_cons.mp hother with rfl | hother
      · rw [Function.update_self]
        exact hfirst
      · rw [hagrees other hother]
        exact hsize other hother
    · rw [List.map_cons, List.sum_cons, Function.update_self, List.map_congr_left hagrees, ← hsum]
      rfl

/-- The size of the VMs in a datacenter is computed again together with its total. -/
theorem Refreshed.get_dc_vms_size {self : NodeStorage NodeId Zpool} {dc : Dc}
    (hself : self ∈ nodes.dc_storages dc) (s : State Dc NodeId Zpool VmId) :
    Refreshed nodes {.VMS_SIZE_DC dc self} {dc} s (self.get_dc_vms_size nodes dc true s).2 := by
  have hfilled := filled_get_or_set (Key.size s.rows) s.sizes (.VMS_SIZE_DC dc self) true
  simp only [and_true] at hfilled
  obtain ⟨hloop, size, hsize, hsum⟩ : Refreshed nodes ∅ ∅ (self.cached_dc_vms_size dc true s).2 _ ∧ _ :=
    sum_dc_vms_size dc ((nodes.dc_storages dc).filter (· != self)) (self.cached_dc_vms_size dc true s).2
  have hcached := hloop.cached (get_or_set_cached s.sizes (.VMS_SIZE_DC dc self) true _)
  refine ⟨hloop.rows, ?_, ?_, ?_, ?_, ?_⟩
  · have hboth := hfilled.trans hloop.filled
    rw [Set.union_empty] at hboth
    exact hboth
  · intro other_dc ns _
    apply (hloop.dc_backups other_dc ns (Set.notMem_empty _)).trans
    exact get_or_set_of_ne s.sizes true _ fun heq => by cases heq
  · intro other_dc hdc
    rw [show other_dc = dc from hdc]
    refine ⟨Function.update size self (self.cached_dc_vms_size dc true s).1, ?_, ?_⟩
    · intro ns hns
      by_cases heq : ns = self
      · subst heq
        rw [Function.update_self]
        exact hcached
      · rw [Function.update_of_ne heq]
        exact hsize ns (List.mem_filter.mpr ⟨hns, bne_iff_ne.mpr heq⟩)
    · -- the storage itself and the others make all storages of the datacenter
      have hnodup : (nodes.dc_storages dc).Nodup := nodes.nodup.filter _
      have hothers : ((nodes.dc_storages dc).filter (· != self)).map
          (Function.update size self (self.cached_dc_vms_size dc true s).1) =
            ((nodes.dc_storages dc).filter (· != self)).map size := by
        apply List.map_congr_left
        intro ns hns
        exact Function.update_of_ne (bne_iff_ne.mp (List.mem_filter.mp hns).2) _ _
      have hsplit := List.sum_map_erase
        (Function.update size self (self.cached_dc_vms_size dc true s).1) hself
      rw [hnodup.erase_eq_filter, Function.update_self] at hsplit
      rw [← hsplit, hothers, ← hsum]
      exact Function.update_self _ _ _
  · intro other_dc hother_dc
    exact (Function.update_of_ne hother_dc _ _).trans (hloop.others other_dc (Set.notMem_empty _))
  · rintro other_dc ns heq
    cases heq
    rfl

/-- Writing the free size touches no cache. -/
theorem Refreshed.size_free {keys : Set (Key Dc NodeId Zpool)} {dcs : Set Dc} {s s' : State Dc NodeId Zpool VmId}
    (hrefreshed : Refreshed nodes keys dcs s s') (size_free : NodeStorage NodeId Zpool → ℤ) :
    Refreshed nodes keys dcs s { s' with size_free := size_free } :=
  ⟨hrefreshed.rows, hrefreshed.filled, hrefreshed.dc_backups, hrefreshed.summed, hrefreshed.others,
    hrefreshed.dc_vms⟩

/-- A loop that computes one size of each datacenter again. -/
theorem Refreshed.foldl_related (key : Dc → Key Dc NodeId Zpool) {fetch : Dc → Rows Dc NodeId Zpool VmId → ℕ}
    (dcs : List Dc) (hfetch : ∀ dc rows, (fetch dc rows : ℤ) = (key dc).size rows)
    (hvms : ∀ dc other_dc ns, key dc ≠ .VMS_SIZE_DC other_dc ns) (s : State Dc NodeId Zpool VmId) :
    Refreshed nodes {k | ∃ dc ∈ dcs, k = key dc} ∅ s
      (dcs.foldl (fun s dc => (NodeStorage._get_related_object_size (key dc) (fetch dc) true s).2) s) := by
  have hloop : Refreshed nodes _ _ s _ := Refreshed.foldl dcs (fun s dc _ =>
    of_related (key dc) true (hfetch dc s.rows) (fun hfalse => by cases hfalse) fun _ => hvms dc) s
  refine hloop.of_eq ?_ ?_
  · ext k
    simp
  · ext dc
    simp

theorem Refreshed.get_vms_size (self : NodeStorage NodeId Zpool) (clear_cache : Bool)
    (s : State Dc NodeId Zpool VmId) :
    Refreshed nodes {k | k = .VMS_SIZE_TOTAL self ∧ clear_cache = true} ∅ s (self.get_vms_size clear_cache s).2 :=
  of_related _ clear_cache rfl (fun _ _ _ heq => by cases heq) fun _ _ _ heq => by cases heq

theorem Refreshed.get_snapshots_size (self : NodeStorage NodeId Zpool) (clear_cache : Bool)
    (s : State Dc NodeId Zpool VmId) :
    Refreshed nodes {k | k = .SNAPSHOT_SIZE_TOTAL self ∧ clear_cache = true} ∅ s
      (self.get_snapshots_size clear_cache s).2 :=
  of_related _ clear_cache rfl (fun _ _ _ heq => by cases heq) fun _ _ _ heq => by cases heq

theorem Refreshed.get_backups_size (self : NodeStorage NodeId Zpool) (clear_cache : Bool)
    (s : State Dc NodeId Zpool VmId) :
    Refreshed nodes {k | k = .BACKUP_SIZE_TOTAL self ∧ clear_cache = true} ∅ s
      (self.get_backups_size clear_cache s).2 :=
  of_related _ clear_cache rfl (fun _ _ _ heq => by cases heq) fun _ _ _ heq => by cases heq

/-- The keys and the totals that `update_resources` is asked for. -/
theorem Refreshed.update_resources {self : NodeStorage NodeId Zpool} {recalculate : NodeStorage.Recalculate Dc}
    (hself : ∀ dc ∈ recalculate.dc_vms_size, self ∈ nodes.dc_storages dc) (s : State Dc NodeId Zpool VmId) :
    Refreshed nodes {key | recalculate.Asks self key} {dc | dc ∈ recalculate.dc_vms_size} s
      (self.update_resources nodes recalculate s) := by
  have hsizes : Refreshed nodes _ _ s _ := ((get_vms_size self recalculate.vms_size s).trans
    (get_snapshots_size self recalculate.snapshots_size _)).trans
      (get_backups_size self recalculate.backups_size _)
  have hfree := hsizes.size_free (Function.update s.size_free self (self.get_free_size nodes
    recalculate.vms_size recalculate.snapshots_size recalculate.backups_size s).1)
  have hdc_vms := hfree.trans
    (Refreshed.foldl recalculate.dc_vms_size (fun s dc hdc => get_dc_vms_size (hself dc hdc) s) _)
  have hdc_snapshots := hdc_vms.trans (foldl_related (fun dc => .SNAPSHOT_SIZE_DC dc self)
    recalculate.dc_snapshots_size (fun _ _ => rfl) (fun _ _ _ heq => by cases heq) _)
  have hdc_backups := hdc_snapshots.trans (foldl_related (fun dc => .BACKUP_SIZE_DC dc self)
    recalculate.dc_backups_size (fun _ _ => rfl) (fun _ _ _ heq => by cases heq) _)
  refine hdc_backups.of_eq ?_ ?_
  · ext key
    cases key <;> simp [NodeStorage.Recalculate.Asks]
  · ext dc
    simp

/-- `DcNode.update_all` reads sizes only. -/
theorem Refreshed.update_all (node : NodeId) (s : State Dc NodeId Zpool VmId) :
    Refreshed nodes ∅ ∅ s (storage.update_all nodes node s) := by
  unfold storage.update_all
  cases nodes.zpool node with
  | none => exact .refl s
  | some zpool =>
    cases nodes.shared node with
    | false => exact .refl s
    | true =>
      have hread : Refreshed nodes _ _ s _ :=
        (get_backups_size ⟨node, zpool⟩ false s).trans (get_snapshots_size ⟨node, zpool⟩ false _)
      exact hread.of_eq (by simp) (by simp)

omit [DecidableEq VmId] in
/-- A cached size is read as it is. -/
theorem related_of_cached {key : Key Dc NodeId Zpool} {fetch_size_fun : Rows Dc NodeId Zpool VmId → ℕ}
    {s : State Dc NodeId Zpool VmId} {size : ℤ} (hcached : s.sizes key = some size) :
    NodeStorage._get_related_object_size key fetch_size_fun false s = (size, s) := by
  simp [NodeStorage._get_related_object_size, get_or_set, hcached]

omit [DecidableEq VmId] in
/-- What `get_free_resources` takes from the disk space, VM by VM, is the size of the VMs on the storage. -/
theorem used_disk_eq (loaded : accounting.Node Zpool) (rows : Rows Dc NodeId Zpool VmId)
    (ns : NodeStorage NodeId Zpool) (hzpool : loaded.zpool = some ns.zpool) :
    loaded.used (rows.node_vm_set ns.node) .disk = _calculate_vms_size rows ns none := by
  rw [accounting.Node.used, Rows.node_vm_set, List.filter_map, List.map_map, _calculate_vms_size, hzpool]
  simp only [Option.all_none, Bool.and_true]
  rfl

/-- The disk space that a loaded node is left with. -/
theorem NodeStorage.load_disk_free (nodes : Nodes Dc NodeId Zpool) (ns : NodeStorage NodeId Zpool)
    (s : State Dc NodeId Zpool VmId) (rows : Rows Dc NodeId Zpool VmId) :
    ((ns.load nodes s).1.update_resources (rows.node_vm_set ns.node)).disk_free =
      nodes.size_total ns - ((ns.get_backups_size false s).1 +
        (ns.get_snapshots_size false (ns.get_backups_size false s).2).1 +
          ns.get_rep_snapshots_size (ns.load nodes s).2) - (_calculate_vms_size rows ns none : ℕ) := by
  have hfree := (ns.load nodes s).1.update_resources_free (rows.node_vm_set ns.node) .disk
  have hdisk : (ns.load nodes s).1.resources .disk = .int (nodes.size_total ns -
      ((ns.get_backups_size false s).1 + (ns.get_snapshots_size false (ns.get_backups_size false s).2).1 +
        ns.get_rep_snapshots_size (ns.load nodes s).2)) := rfl
  have hused := used_disk_eq (ns.load nodes s).1 rows ns rfl
  rw [accounting.Node.used] at hused
  rw [hdisk, accounting.Node.left, binary64.Number.subs_int, hused] at hfree
  exact hfree

/-- Saving a node takes the size of its VMs from the default storage without the snapshots and backups. -/
theorem update_node_resources_eq (node : NodeId) (s : State Dc NodeId Zpool VmId) :
    storage.update_node_resources nodes node s =
      match nodes.zpool node with
      | none => s
      | some zpool =>
        let ns : NodeStorage NodeId Zpool := ⟨node, zpool⟩
        let size_total : ℤ := nodes.size_total ns
        let (backups, s) := ns.get_backups_size false s
        let (snapshots, s) := ns.get_snapshots_size false s
        let disk_free := size_total - (backups + snapshots + ns.get_rep_snapshots_size s) -
          (_calculate_vms_size s.rows ns none : ℕ)
        let (backups, s) := ns.get_backups_size false s
        let (snapshots, s) := ns.get_snapshots_size false s
        let vms_size := size_total - backups - snapshots - ns.get_rep_snapshots_size s - disk_free
        storage.update_all nodes node { s with
          sizes := Function.update s.sizes (.VMS_SIZE_TOTAL ns) (some vms_size)
          size_free := Function.update s.size_free ns disk_free } := by
  unfold storage.update_node_resources
  cases nodes.zpool node with
  | none => rfl
  | some zpool =>
    have hfree := NodeStorage.load_disk_free nodes ⟨node, zpool⟩ s
      (NodeStorage.load ⟨node, zpool⟩ nodes s).2.rows
    simp only at hfree ⊢
    rw [hfree]
    rfl

/-- Saving a node computes the size of the VMs on its default storage again: what
is left of the storage is the free size without the snapshots and backups. -/
theorem Refreshed.update_node_resources (node : NodeId) (s : State Dc NodeId Zpool VmId) :
    Refreshed nodes {key | ∃ zpool, nodes.zpool node = some zpool ∧ key = .VMS_SIZE_TOTAL ⟨node, zpool⟩} ∅ s
      (storage.update_node_resources nodes node s) := by
  rw [update_node_resources_eq]
  cases hzpool : nodes.zpool node with
  | none => exact (Refreshed.refl s).of_eq (by simp) rfl
  | some zpool =>
    let ns : NodeStorage NodeId Zpool := ⟨node, zpool⟩
    let t := (ns.get_backups_size false s).2
    let u := (ns.get_snapshots_size false t).2
    let disk_free : ℤ := nodes.size_total ns - ((ns.get_backups_size false s).1 + (ns.get_snapshots_size false t).1 +
      ns.get_rep_snapshots_size u) - (_calculate_vms_size u.rows ns none : ℕ)
    have hread : Refreshed nodes ∅ ∅ s t := (get_backups_size ns false s).of_eq (by simp) rfl
    have hread' : Refreshed nodes ∅ ∅ t u := (get_snapshots_size ns false t).of_eq (by simp) rfl
    have hwritten := (((hread.trans hread').trans (get_vms_size ns true u)).size_free
      (Function.update u.size_free ns disk_free)).trans (update_all node _)
    -- the second reading finds what the first one has cached
    have hbackups : ns.get_backups_size false u = ((ns.get_backups_size false s).1, u) :=
      related_of_cached (hread'.cached (get_or_set_cached s.sizes (.BACKUP_SIZE_TOTAL ns) false _))
    have hsnapshots : ns.get_snapshots_size false u = ((ns.get_snapshots_size false t).1, u) :=
      related_of_cached (get_or_set_cached t.sizes (.SNAPSHOT_SIZE_TOTAL ns) false _)
    have hvms : (nodes.size_total ns : ℤ) - (ns.get_backups_size false s).1 - (ns.get_snapshots_size false t).1 -
        ns.get_rep_snapshots_size u - disk_free = (_calculate_vms_size u.rows ns none : ℕ) := by
      simp only [disk_free]
      ring
    let v := (ns.get_backups_size false u).2
    let w := (ns.get_snapshots_size false v).2
    change Refreshed nodes _ ∅ s (storage.update_all nodes node { w with
      sizes := Function.update w.sizes (.VMS_SIZE_TOTAL ns) (some (nodes.size_total ns -
        (ns.get_backups_size false u).1 - (ns.get_snapshots_size false v).1 - ns.get_rep_snapshots_size w - disk_free))
      size_free := Function.update w.size_free ns disk_free })
    have hv : v = u := by simp only [v, hbackups]
    have hw : w = u := by simp only [w, hv, hsnapshots]
    rw [hw, hv, hbackups, hsnapshots]
    simp only
    rw [hvms]
    exact hwritten.of_eq (by ext key; simp [ns]) (by simp)

/-- The sizes that one storage of a VM has refreshed. -/
theorem Refreshed.update_vm_storage {dc : Dc} {ns : NodeStorage NodeId Zpool} (hns : ns ∈ nodes.dc_storages dc)
    (s : State Dc NodeId Zpool VmId) :
    Refreshed nodes {key | NodeStorage.Recalculate.Asks { dc_vms_size := [dc], dc_snapshots_size := [dc] } ns key}
      {dc} s (storage.update_vm_storage nodes dc s ns) :=
  (update_resources (fun other_dc hdc => by rwa [List.mem_singleton.mp hdc]) s).of_eq rfl (by simp)

theorem Refreshed.save {self : NodeStorage NodeId Zpool} {recalculate : NodeStorage.Recalculate Dc}
    (hself : ∀ dc ∈ recalculate.dc_vms_size, self ∈ nodes.dc_storages dc) (s : State Dc NodeId Zpool VmId) :
    Refreshed nodes {key | recalculate.Asks self key} {dc | dc ∈ recalculate.dc_vms_size} s
      (self.save nodes recalculate s) :=
  ((update_resources hself s).trans (update_all self.node _)).of_eq (by simp) (by simp)

theorem Refreshed.update_snapshots {ns : NodeStorage NodeId Zpool} {dc : Dc} (s : State Dc NodeId Zpool VmId) :
    Refreshed nodes {key | key = .SNAPSHOT_SIZE_TOTAL ns ∨ key = .SNAPSHOT_SIZE_DC dc ns} ∅ s
      (Snapshot.update_resources nodes ns dc s) := by
  have hsave : Refreshed nodes _ _ s (Snapshot.update_resources nodes ns dc s) :=
    Refreshed.save (fun dc hdc => by cases hdc) s
  refine hsave.of_eq ?_ ?_
  · ext key
    cases key <;> simp [NodeStorage.Recalculate.Asks]
  · simp

theorem Refreshed.update_backups {ns : NodeStorage NodeId Zpool} {dc : Dc} (s : State Dc NodeId Zpool VmId) :
    Refreshed nodes {key | key = .BACKUP_SIZE_TOTAL ns ∨ key = .BACKUP_SIZE_DC dc ns} ∅ s
      (Backup.update_resources nodes ns dc s) := by
  have hsave : Refreshed nodes _ _ s (Backup.update_resources nodes ns dc s) :=
    Refreshed.save (fun dc hdc => by cases hdc) s
  refine hsave.of_eq ?_ ?_
  · ext key
    cases key <;> simp [NodeStorage.Recalculate.Asks]
  · simp

/-- The refreshes of `node_vm_snapshot_sync_cb`. -/
theorem Refreshed.sync_snapshots (ns : NodeStorage NodeId Zpool) (s : State Dc NodeId Zpool VmId) :
    Refreshed nodes {key | key = .SNAPSHOT_SIZE_TOTAL ns ∨ ∃ dc ∈ nodes.dc ns, key = .SNAPSHOT_SIZE_DC dc ns} ∅ s
      (ns.save nodes { vms_size := false, backups_size := false, dc_snapshots_size := nodes.dc ns } s) := by
  have hsave : Refreshed nodes _ _ s
      (ns.save nodes { vms_size := false, backups_size := false, dc_snapshots_size := nodes.dc ns } s) :=
    Refreshed.save (fun dc hdc => by cases hdc) s
  refine hsave.of_eq ?_ ?_
  · ext key
    cases key <;> simp [NodeStorage.Recalculate.Asks]
  · simp

theorem mem_dc_storages_of_mem {node : NodeId} {dc : Dc} {zpools : List Zpool} {ns : NodeStorage NodeId Zpool}
    (hns : ns ∈ get_node_storages nodes node dc zpools) : ns ∈ nodes.dc_storages dc :=
  List.mem_of_mem_filter hns

theorem mem_dc_storages_of_mem_vm {vm : Vm Dc NodeId Zpool} {ns : NodeStorage NodeId Zpool}
    (hns : ns ∈ vm_node_storages nodes vm) : ns ∈ nodes.dc_storages vm.dc := by
  unfold vm_node_storages at hns
  cases hnode : vm.node with
  | none =>
    rw [hnode] at hns
    cases hns
  | some node =>
    rw [hnode] at hns
    exact mem_dc_storages_of_mem hns

theorem Refreshed.update_vm_storages {dc : Dc} {nss : List (NodeStorage NodeId Zpool)}
    (hnss : ∀ ns ∈ nss, ns ∈ nodes.dc_storages dc) (s : State Dc NodeId Zpool VmId) :
    Refreshed nodes
      {key | ∃ ns ∈ nss, NodeStorage.Recalculate.Asks { dc_vms_size := [dc], dc_snapshots_size := [dc] } ns key}
      {other_dc | other_dc = dc ∧ nss ≠ []} s (nss.foldl (storage.update_vm_storage nodes dc) s) := by
  have hloop := Refreshed.foldl nss (fun s ns hns => update_vm_storage (hnss ns hns) s) s
  refine hloop.of_eq rfl ?_
  ext other_dc
  cases nss with
  | nil => simp
  | cons ns nss => simp

/-- The sizes of the VMs on the default storages of nodes. -/
def DefaultStorage (nodes : Nodes Dc NodeId Zpool) (updated : List NodeId) (key : Key Dc NodeId Zpool) : Prop :=
  ∃ node ∈ updated, ∃ zpool, nodes.zpool node = some zpool ∧ key = .VMS_SIZE_TOTAL ⟨node, zpool⟩

theorem Refreshed.update_nodes (updated : List NodeId) (s : State Dc NodeId Zpool VmId) :
    Refreshed nodes {key | DefaultStorage nodes updated key} ∅ s
      (updated.foldl (fun s node => storage.update_node_resources nodes node s) s) :=
  (Refreshed.foldl updated (fun s node _ => update_node_resources node s) s).of_eq rfl (by simp)

/-- What `Vm.save` computes again. -/
def SavesSize (nodes : Nodes Dc NodeId Zpool) (dc : Dc) (nss : List (NodeStorage NodeId Zpool)) (updated : List NodeId)
    (key : Key Dc NodeId Zpool) : Prop :=
  (∃ ns ∈ nss, NodeStorage.Recalculate.Asks { dc_vms_size := [dc], dc_snapshots_size := [dc] } ns key) ∨
    DefaultStorage nodes updated key

omit [DecidableEq Dc] [DecidableEq NodeId] [DecidableEq Zpool] in
theorem not_savesSize_backups {dc other_dc : Dc} {nss : List (NodeStorage NodeId Zpool)} {updated : List NodeId}
    {ns : NodeStorage NodeId Zpool} : ¬ SavesSize nodes dc nss updated (.BACKUP_SIZE_DC other_dc ns) := by
  rintro (⟨_, -, hasks⟩ | ⟨_, -, _, -, heq⟩)
  · simp [NodeStorage.Recalculate.Asks] at hasks
  · cases heq

theorem Refreshed.save_vm (uuid : VmId) {vm : Vm Dc NodeId Zpool} (update_node : Bool)
    {nss : Option (List (NodeStorage NodeId Zpool))}
    (hnss : ∀ ns ∈ nss.getD (vm_node_storages nodes vm), ns ∈ nodes.dc_storages vm.dc)
    (s : State Dc NodeId Zpool VmId) :
    Refreshed nodes
      {key | SavesSize nodes vm.dc (nss.getD (vm_node_storages nodes vm))
        (updated_nodes (s.rows.orig_node uuid) vm update_node) key}
      {dc | dc = vm.dc ∧ nss.getD (vm_node_storages nodes vm) ≠ []}
      { s with rows := s.rows.save_vm uuid vm } (storage.save_vm nodes uuid vm update_node nss s) :=
  ((update_vm_storages hnss _).trans (update_nodes _ _)).of_eq rfl (by simp)

/-- `Vm.save(update_storage_resources=True)`. -/
theorem Refreshed.save_vm_true (uuid : VmId) (vm : Vm Dc NodeId Zpool) (update_node : Bool)
    (s : State Dc NodeId Zpool VmId) :
    Refreshed nodes
      {key | SavesSize nodes vm.dc (vm_node_storages nodes vm)
        (updated_nodes (s.rows.orig_node uuid) vm update_node) key}
      {dc | dc = vm.dc ∧ vm_node_storages nodes vm ≠ []}
      { s with rows := s.rows.save_vm uuid vm } (storage.save_vm nodes uuid vm update_node none s) := by
  have hsave : Refreshed nodes _ _ _ (storage.save_vm nodes uuid vm update_node none s) :=
    Refreshed.save_vm uuid update_node (fun ns hns => by
      rw [Option.getD_none] at hns
      exact mem_dc_storages_of_mem_vm hns) s
  exact hsave

theorem Refreshed.post_delete (vm : Vm Dc NodeId Zpool) (s : State Dc NodeId Zpool VmId) :
    Refreshed nodes {key | SavesSize nodes vm.dc (vm_node_storages nodes vm) vm.node.toList key}
      {dc | dc = vm.dc ∧ vm_node_storages nodes vm ≠ []} s (storage.post_delete nodes vm s) :=
  ((update_nodes vm.node.toList s).trans
    (update_vm_storages (fun _ hns => mem_dc_storages_of_mem_vm hns) _)).of_eq (Set.union_comm _ _) (by simp)

end methods

end vms.storage
