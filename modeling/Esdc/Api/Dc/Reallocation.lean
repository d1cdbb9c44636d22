import Mathlib
import Esdc.Api.Dc.NodeView

namespace api.dc.node_view

open vms.accounting
open DcNode

variable {Dc NodeId Zpool : Type} [DecidableEq Dc] [DecidableEq Zpool]

/-- Which free values an update leaves without a negative one. -/
theorem update_resources_free_nonneg (row : DcNode Dc) (node : Node Zpool) (vm_set : List (Vm Dc NodeId Zpool))
    (rows : List (DcNode Dc)) :
    (∀ r, 0 ≤ (row.update_resources node vm_set rows).free r) ↔
      (row.strategy ≠ .SHARED → ∀ r, 0 ≤ row.own_free node vm_set r) ∧
        (row.strategy ≠ .RESERVED → ∀ r, 0 ≤ pool_free node vm_set rows r) := by
  rw [update_resources_eq]
  cases hstrategy : row.strategy with
  | SHARED => simp
  | RESERVED => simp
  | SHARED_LIMIT => simp [forall_and]

/-- The other rows of the node. -/
def others (rows : List (DcNode Dc)) (dc : Dc) : List (DcNode Dc) := rows.filter fun row => row.dc ≠ dc

theorem others_dc {rows : List (DcNode Dc)} {dc : Dc} {row : DcNode Dc} (hrow : row ∈ others rows dc) :
    row ∈ rows ∧ row.dc ≠ dc := by
  obtain ⟨hmem, hdc⟩ := List.mem_filter.mp hrow
  exact ⟨hmem, of_decide_eq_true hdc⟩

theorem perm_others {rows : List (DcNode Dc)} {dc : Dc} {row : DcNode Dc}
    (hrow : (rows.filter fun row => row.dc = dc) = [row]) : rows.Perm (row :: others rows dc) := by
  have hperm := List.filter_append_perm (fun row : DcNode Dc => decide (row.dc = dc)) rows
  rw [hrow] at hperm
  have hothers : (rows.filter fun row => !decide (row.dc = dc)) = others rows dc := by
    simp [others]
  rw [hothers] at hperm
  exact hperm.symm

theorem dc_of_filter {rows : List (DcNode Dc)} {dc : Dc} {row : DcNode Dc}
    (hrow : (rows.filter fun row => row.dc = dc) = [row]) : row ∈ rows ∧ row.dc = dc := by
  have hmem : row ∈ rows.filter fun row => row.dc = dc := by
    rw [hrow]
    exact List.mem_singleton.mpr rfl
  obtain ⟨hmem, hdc⟩ := List.mem_filter.mp hmem
  exact ⟨hmem, of_decide_eq_true hdc⟩

/-- The rows with the one of the DC exchanged. -/
theorem perm_map_others {rows : List (DcNode Dc)} {dc : Dc} {row : DcNode Dc}
    (hrow : (rows.filter fun row => row.dc = dc) = [row]) (object : DcNode Dc) :
    (rows.map fun row => if row.dc = dc then object else row).Perm (object :: others rows dc) := by
  have hperm := (perm_others hrow).map fun row => if row.dc = dc then object else row
  have hothers : (others rows dc).map (fun row => if row.dc = dc then object else row) = others rows dc := by
    refine (List.map_congr_left fun row hrow => ?_).trans (List.map_id' _)
    exact if_neg (others_dc hrow).2
  rw [List.map_cons, if_pos (dc_of_filter hrow).2, hothers] at hperm
  exact hperm

/-- The amount that `validate` compares with: what the other reservations and the
VMs of the other DCs leave. -/
theorem nonreserved_free_others (object : DcNode Dc) (host : Host Dc NodeId Zpool) (rows : List (DcNode Dc))
    (r : Resource) :
    (object.get_nonreserved_free_resources host.node host.vm_set rows true).2 r =
      pool_free host.node host.vm_set (others rows object.dc) r + get_used_resources host object.dc r := by
  have hreserved : (reserved rows).filter (fun row => row.dc ≠ object.dc) = reserved (others rows object.dc) := by
    rw [reserved, reserved, others, List.filter_filter, List.filter_filter]
    apply List.filter_congr
    intro row _
    exact Bool.and_comm _ _
  have hdc : object.dc ∉ (reserved (others rows object.dc)).map DcNode.dc := by
    intro hmem
    obtain ⟨row, hrow, heq⟩ := List.mem_map.mp hmem
    exact (others_dc (List.mem_of_mem_filter hrow)).2 heq
  have hmem : ∀ dc, dc ≠ object.dc →
      (dc ∈ (reserved rows).map DcNode.dc ↔ dc ∈ (reserved (others rows object.dc)).map DcNode.dc) := by
    intro dc hne
    rw [← hreserved]
    simp only [List.mem_map, List.mem_filter, decide_eq_true_eq]
    constructor
    · rintro ⟨row, hrow, rfl⟩
      exact ⟨row, ⟨hrow, hne⟩, rfl⟩
    · rintro ⟨row, ⟨hrow, -⟩, rfl⟩
      exact ⟨row, hrow, rfl⟩
  have hused := host.node.used_filter_dc host.vm_set hdc r
  have hrest : Node.filter_vms host.vm_set none (some object.dc) ((reserved rows).map DcNode.dc) =
      host.vm_set.filter fun vm => vm.dc ∉ object.dc :: (reserved (others rows object.dc)).map DcNode.dc := by
    unfold Node.filter_vms
    rw [List.filter_filter, List.filter_filter]
    apply List.filter_congr
    intro vm _
    by_cases heq : vm.dc = object.dc
    · simp [heq]
    · simp only [Option.all_none, Option.all_some, Bool.and_true, heq, hmem vm.dc heq, not_false_eq_true, ne_eq,
        decide_true, Bool.true_and, List.mem_cons, false_or]
  rw [← hrest] at hused
  have htotal : object.nonreserved_resources host.node rows true r =
      pool_total host.node (others rows object.dc) r := by
    unfold DcNode.nonreserved_resources pool_total
    simp only [if_true, hreserved]
  unfold DcNode.get_nonreserved_free_resources
  simp only [if_true]
  rw [Node.get_free_resources_int, htotal, pool_free, get_used_resources]
  omega

theorem mem_fields (r : Resource) : r ∈ fields := by
  cases r <;> decide

/-- What an accepted request has been checked for. -/
theorem is_valid_ok {host : Host Dc NodeId Zpool} {rows : List (DcNode Dc)} {object attrs : DcNode Dc}
    {required : Bool} {min_value : Resource → ℤ} {data : Data}
    (hvalid : is_valid host rows object required min_value data = .ok attrs) :
    attrs = restore_object object data ∧ (∀ r value, data.total r = some value → min_value r ≤ value) ∧
      (required = true → ∀ r, ∃ value, data.total r = some value) ∧
      (attrs.strategy = .RESERVED → ∀ r,
        attrs.total r ≤ (object.get_nonreserved_free_resources host.node host.vm_set rows true).2 r) := by
  unfold is_valid at hvalid
  cases hfields : field_errors required (fun r => (host.node.resources r).to_int) min_value data with
  | cons error errors =>
    rw [hfields] at hvalid
    cases hvalid
  | nil =>
    rw [hfields] at hvalid
    cases hvalidate : validate host rows object (restore_object object data) with
    | cons error errors =>
      simp only [hvalidate] at hvalid
      cases hvalid
    | nil =>
      simp only [hvalidate] at hvalid
      cases hvalid
      refine ⟨rfl, fun r value hvalue => ?_, fun hrequired r => ?_, fun hreserved r => ?_⟩
      · have hfield := List.flatMap_eq_nil_iff.mp hfields r (mem_fields r)
        simp only [hvalue, List.append_eq_nil_iff] at hfield
        by_contra hlt
        rw [if_pos (not_le.mp hlt)] at hfield
        cases hfield.2
      · have hfield := List.flatMap_eq_nil_iff.mp hfields r (mem_fields r)
        cases hvalue : data.total r with
        | some value => exact ⟨value, rfl⟩
        | none =>
          simp only [hvalue, hrequired, if_true] at hfield
          cases hfield
      · rw [validate, if_pos hreserved] at hvalidate
        have hfield := List.flatMap_eq_nil_iff.mp hvalidate r (mem_fields r)
        by_contra hlt
        rw [if_pos (not_le.mp hlt)] at hfield
        cases hfield

/-- The free values after a request that has saved one row. -/
theorem free_nonneg_iff {host : Host Dc NodeId Zpool} {object : DcNode Dc} {rest saved : List (DcNode Dc)}
    (hperm : saved.Perm (object :: rest))
    (hrest : ∀ row ∈ rest, row.strategy ≠ .SHARED → ∀ r, 0 ≤ row.own_free host.node host.vm_set r)
    (hpool : object.strategy = .RESERVED ∨ (∃ row ∈ rest, row.strategy ≠ .RESERVED) →
      ∀ r, 0 ≤ pool_free host.node host.vm_set (object :: rest) r) :
    (∀ row ∈ saved, ∀ r, 0 ≤ (row.update_resources host.node host.vm_set saved).free r) ↔
      (object.strategy ≠ .SHARED → ∀ r, 0 ≤ object.own_free host.node host.vm_set r) ∧
        (object.strategy ≠ .RESERVED → ∀ r, 0 ≤ pool_free host.node host.vm_set (object :: rest) r) := by
  simp only [update_resources_free_nonneg, (pool_perm _ _ hperm).2]
  constructor
  · intro h
    exact h object (hperm.mem_iff.mpr List.mem_cons_self)
  · rintro ⟨hown, hfree⟩ row hrow
    rcases List.mem_cons.mp (hperm.mem_iff.mp hrow) with rfl | hrow
    · exact ⟨hown, hfree⟩
    · exact ⟨hrest row hrow, fun hstrategy => hpool (.inr ⟨row, hrow, hstrategy⟩)⟩

section funded

variable {host : Host Dc NodeId Zpool} {rows : List (DcNode Dc)}

theorem Funded.free_nonneg (hfunded : Funded host rows) {row : DcNode Dc} (hrow : row ∈ rows) :
    (row.strategy ≠ .SHARED → ∀ r, 0 ≤ row.own_free host.node host.vm_set r) ∧
      (row.strategy ≠ .RESERVED → ∀ r, 0 ≤ pool_free host.node host.vm_set rows r) :=
  (update_resources_free_nonneg row host.node host.vm_set rows).mp (hfunded row hrow)

/-- Without the row of a DC the pool is not smaller, as long as it is not known by its reservation alone. -/
theorem Funded.pool_others (hfunded : Funded host rows) {dc : Dc} {row : DcNode Dc}
    (hrow : (rows.filter fun row => row.dc = dc) = [row]) (hshared : ∃ row ∈ rows, row.strategy ≠ .RESERVED)
    (r : Resource) : 0 ≤ pool_free host.node host.vm_set (others rows dc) r := by
  obtain ⟨shared, hmem, hstrategy⟩ := hshared
  have hpool := (hfunded.free_nonneg hmem).2 hstrategy r
  obtain ⟨hrow_mem, hdc⟩ := dc_of_filter hrow
  have hothers : ∀ other ∈ others rows dc, other.dc ≠ row.dc := by
    intro other hother
    rw [hdc]
    exact (others_dc hother).2
  rw [(pool_perm _ _ (perm_others hrow)).2, pool_free_cons row host.node host.vm_set hothers] at hpool
  by_cases hreserved : row.strategy = .RESERVED
  · have hown := (hfunded.free_nonneg hrow_mem).1 (by rw [hreserved]; simp) r
    rw [if_pos hreserved] at hpool
    omega
  · rw [if_neg hreserved] at hpool
    omega

/-- The VMs of the DC fit in the totals that a PUT leaves in its row, unless it takes over one that was stored for
a shared row. -/
theorem Funded.own_free_restored (hfunded : Funded host rows) {dc : Dc} {row : DcNode Dc}
    (hrow : (rows.filter fun row => row.dc = dc) = [row]) {data : Data}
    (hmin : ∀ r value, data.total r = some value → get_used_resources host dc r ≤ value) (r : Resource) :
    0 ≤ (restore_object row data).own_free host.node host.vm_set r ↔
      (row.strategy = .SHARED → data.total r = none → get_used_resources host dc r ≤ row.total r) := by
  obtain ⟨hmem, hdc⟩ := dc_of_filter hrow
  change 0 ≤ (data.total r).getD (row.total r) -
    host.node.used (host.vm_set.filter fun vm => vm.dc = row.dc) r ↔ _
  rw [hdc, sub_nonneg]
  change get_used_resources host dc r ≤ _ ↔ _
  cases htotal : data.total r with
  | some value => exact iff_of_true (hmin r value htotal) nofun
  | none =>
    by_cases hshared : row.strategy = .SHARED
    · exact ⟨fun h _ _ => h, fun h => h hshared rfl⟩
    · have hown := (hfunded.free_nonneg hmem).1 hshared r
      rw [own_free, hdc, sub_nonneg] at hown
      exact iff_of_true hown fun h => absurd h hshared

end funded

/-- The DC is the first one on the node that shares it, and what the other rows
reserve and the VMs that are not reserved for take more than the node has. -/
def Overcommitted (host : Host Dc NodeId Zpool) (rows : List (DcNode Dc)) (dc : Dc) (strategy : Strategy) : Prop :=
  strategy ≠ .RESERVED ∧ (∀ row ∈ rows, row.strategy = .RESERVED) ∧
    ∃ r, pool_free host.node host.vm_set (others rows dc) r < 0

/-- A POST does not see the VMs that the DC already has on the node, nor does a PUT that takes over the totals that
were stored for a shared row. -/
def Request.Fits (host : Host Dc NodeId Zpool) (rows : List (DcNode Dc)) (dc : Dc) : Request → Prop
  | .post data =>
    ¬ Overcommitted host rows dc (data.strategy.getD .SHARED) ∧
      (data.strategy.getD .SHARED ≠ .SHARED →
        ∀ r value, data.total r = some value → get_used_resources host dc r ≤ value)
  | .put data => ∀ row ∈ rows, row.dc = dc →
    ¬ Overcommitted host rows dc (data.strategy.getD row.strategy) ∧
      (data.strategy.getD row.strategy ≠ .SHARED → row.strategy = .SHARED →
        ∀ r, data.total r = none → get_used_resources host dc r ≤ row.total r)
  | .delete => True

/-- The check of the first row that shares the node is the one that is missing. -/
theorem pool_nonneg_iff {host : Host Dc NodeId Zpool} {rows : List (DcNode Dc)} {dc : Dc} {strategy : Strategy}
    (hpool : (∃ row ∈ rows, row.strategy ≠ .RESERVED) → ∀ r, 0 ≤ pool_free host.node host.vm_set (others rows dc) r) :
    (strategy ≠ .RESERVED → ∀ r, 0 ≤ pool_free host.node host.vm_set (others rows dc) r) ↔
      ¬ Overcommitted host rows dc strategy := by
  constructor
  · rintro h ⟨hstrategy, -, r, hlt⟩
    have hle := h hstrategy r
    omega
  · intro h hstrategy r
    by_cases hshared : ∃ row ∈ rows, row.strategy ≠ .RESERVED
    · exact hpool hshared r
    · push Not at hshared
      by_contra hlt
      exact h ⟨hstrategy, hshared, r, not_le.mp hlt⟩

/-- The pool after a row has been saved. -/
theorem pool_free_saved {host : Host Dc NodeId Zpool} {rows : List (DcNode Dc)} {object attrs : DcNode Dc}
    {dc : Dc} (hobject : object.dc = dc) (hattrs : attrs.dc = dc)
    (hvalid : attrs.strategy = .RESERVED → ∀ r,
      attrs.total r ≤ (object.get_nonreserved_free_resources host.node host.vm_set rows true).2 r) :
    (attrs.strategy = .RESERVED → ∀ r, 0 ≤ pool_free host.node host.vm_set (attrs :: others rows dc) r) ∧
      (attrs.strategy ≠ .RESERVED → pool_free host.node host.vm_set (attrs :: others rows dc) =
        pool_free host.node host.vm_set (others rows dc)) := by
  have hothers : ∀ other ∈ others rows dc, other.dc ≠ attrs.dc := by
    intro other hother
    rw [hattrs]
    exact (others_dc hother).2
  constructor
  · intro hreserved r
    have hle := hvalid hreserved r
    rw [nonreserved_free_others, get_used_resources, hobject] at hle
    rw [pool_free_cons attrs host.node host.vm_set hothers, if_pos hreserved, own_free, hattrs]
    omega
  · intro hstrategy
    funext r
    rw [pool_free_cons attrs host.node host.vm_set hothers, if_neg hstrategy, sub_zero]

/-- The free values after a row has been saved. -/
theorem saved_free_nonneg_iff {host : Host Dc NodeId Zpool} {rows saved : List (DcNode Dc)}
    {object attrs : DcNode Dc} {dc : Dc} (hfunded : Funded host rows) (hobject : object.dc = dc)
    (hattrs : attrs.dc = dc) (hperm : saved.Perm (attrs :: others rows dc))
    (hvalid : attrs.strategy = .RESERVED → ∀ r,
      attrs.total r ≤ (object.get_nonreserved_free_resources host.node host.vm_set rows true).2 r)
    (hpool : (∃ row ∈ rows, row.strategy ≠ .RESERVED) → ∀ r, 0 ≤ pool_free host.node host.vm_set (others rows dc) r) :
    (∀ row ∈ saved, ∀ r, 0 ≤ (row.update_resources host.node host.vm_set saved).free r) ↔
      (attrs.strategy ≠ .SHARED → ∀ r, 0 ≤ attrs.own_free host.node host.vm_set r) ∧
        ¬ Overcommitted host rows dc attrs.strategy := by
  obtain ⟨hreserved, hshared⟩ := pool_free_saved hobject hattrs hvalid
  rw [free_nonneg_iff hperm, ← pool_nonneg_iff hpool]
  · apply and_congr_right
    intro _
    constructor
    · intro h hstrategy r
      rw [← hshared hstrategy]
      exact h hstrategy r
    · intro h hstrategy r
      rw [hshared hstrategy]
      exact h hstrategy r
  · intro row hrow
    exact (hfunded.free_nonneg (others_dc hrow).1).1
  · rintro hrest r
    by_cases hstrategy : attrs.strategy = .RESERVED
    · exact hreserved hstrategy r
    · rcases hrest with hrest | ⟨row, hrow, hrest⟩
      · exact absurd hrest hstrategy
      · rw [hshared hstrategy]
        exact hpool ⟨row, (others_dc hrow).1, hrest⟩ r

theorem Data.posted_strategy (data : Data) : data.posted.strategy = some (data.strategy.getD .SHARED) := by
  unfold Data.posted
  dsimp only
  split <;> rfl

theorem Data.posted_total {data : Data} (hshared : data.strategy.getD .SHARED ≠ .SHARED) :
    data.posted.total = data.total := by
  unfold Data.posted
  dsimp only
  rw [if_neg hshared]

section requests

variable {host : Host Dc NodeId Zpool} {rows saved : List (DcNode Dc)} {dc : Dc} {data : Data}

theorem put_free_nonneg_iff (hfunded : Funded host rows) (hput : put host rows dc data = .ok saved) :
    (∀ row ∈ saved, ∀ r, 0 ≤ (row.update_resources host.node host.vm_set saved).free r) ↔
      (Request.put data).Fits host rows dc := by
  unfold put at hput
  split at hput
  · cases hput
  · rename_i object hrow
    obtain ⟨hmem, hdc⟩ := dc_of_filter hrow
    split at hput
    · rename_i attrs hvalid
      obtain ⟨rfl, hmin, -, hreserved⟩ := is_valid_ok hvalid
      rw [save] at hput
      split at hput
      · cases hput
        rw [saved_free_nonneg_iff hfunded hdc (show (restore_object object data).dc = dc from hdc)
          (perm_map_others hrow _) hreserved (hfunded.pool_others hrow)]
        simp only [hfunded.own_free_restored hrow hmin]
        constructor
        · rintro ⟨hroom, hfits⟩ row hrow' hdc'
          have hfilter : row ∈ rows.filter fun row => row.dc = dc :=
            List.mem_filter.mpr ⟨hrow', decide_eq_true hdc'⟩
          rw [hrow, List.mem_singleton] at hfilter
          rw [hfilter]
          exact ⟨hfits, fun hstrategy hshared r => hroom hstrategy r hshared⟩
        · intro hfits
          obtain ⟨hcommitted, hroom⟩ := hfits object hmem hdc
          exact ⟨fun hstrategy r hshared => hroom hstrategy hshared r, hcommitted⟩
      · cases hput
    · cases hput
  · cases hput

theorem post_free_nonneg_iff (hfunded : Funded host rows) (hpost : post host rows dc data = .ok saved) :
    (∀ row ∈ saved, ∀ r, 0 ≤ (row.update_resources host.node host.vm_set saved).free r) ↔
      (Request.post data).Fits host rows dc := by
  unfold post at hpost
  split at hpost
  · rename_i hrow
    dsimp only at hpost
    split at hpost
    · rename_i attrs hvalid
      obtain ⟨rfl, -, hrequired, hreserved⟩ := is_valid_ok hvalid
      rw [save] at hpost
      split at hpost
      · cases hpost
        have hothers : others rows dc = rows := by
          apply List.filter_eq_self.mpr
          intro row hrow'
          apply decide_eq_true
          intro hdc
          exact List.filter_eq_nil_iff.mp hrow row hrow' (decide_eq_true hdc)
        have hperm := List.perm_append_singleton
          (restore_object ⟨dc, .SHARED, fun _ => 0, fun _ => 0⟩ data.posted) rows
        rw [← hothers] at hperm
        have hpool : (∃ row ∈ rows, row.strategy ≠ .RESERVED) →
            ∀ r, 0 ≤ pool_free host.node host.vm_set (others rows dc) r := by
          rintro ⟨row, hrow', hstrategy⟩
          rw [hothers]
          exact (hfunded.free_nonneg hrow').2 hstrategy
        have hiff := saved_free_nonneg_iff hfunded rfl rfl hperm hreserved hpool
        rw [hothers] at hiff
        refine hiff.trans ?_
        have hstrategy : (restore_object (⟨dc, .SHARED, fun _ => 0, fun _ => 0⟩ : DcNode Dc) data.posted).strategy =
            data.strategy.getD .SHARED := by
          rw [restore_object, Data.posted_strategy, Option.getD_some]
        rw [hstrategy, and_comm]
        apply and_congr_right
        intro _
        apply forall_congr'
        intro hshared
        apply forall_congr'
        intro r
        rw [Data.posted_total hshared] at hrequired
        obtain ⟨value, hvalue⟩ := hrequired rfl r
        have htotal : (restore_object (⟨dc, .SHARED, fun _ => 0, fun _ => 0⟩ : DcNode Dc) data.posted).total r =
            value := by
          rw [restore_object, Data.posted_total hshared]
          simp only [hvalue, Option.getD_some]
        have hused : get_used_resources host dc r =
            host.node.used (host.vm_set.filter fun vm => vm.dc = dc) r := rfl
        rw [own_free, htotal]
        constructor
        · intro hown value' hvalue'
          rw [hvalue] at hvalue'
          cases hvalue'
          rw [hused]
          exact sub_nonneg.mp hown
        · intro hfits
          have hle := hfits value hvalue
          rw [hused] at hle
          exact sub_nonneg.mpr hle
      · cases hpost
    · cases hpost
  · cases hpost
  · cases hpost

theorem delete_free_nonneg (hfunded : Funded host rows) (hdelete : delete host rows dc = .ok saved) :
    ∀ row ∈ saved, ∀ r, 0 ≤ (row.update_resources host.node host.vm_set saved).free r := by
  unfold delete at hdelete
  split at hdelete
  · cases hdelete
  · rename_i object hrow
    split at hdelete
    · cases hdelete
    · split at hdelete
      · cases hdelete
      · cases hdelete
        intro row hrow'
        rw [update_resources_free_nonneg]
        obtain ⟨hmem, -⟩ := others_dc hrow'
        refine ⟨(hfunded.free_nonneg hmem).1, fun hstrategy => ?_⟩
        exact hfunded.pool_others hrow ⟨row, hmem, hstrategy⟩
  · cases hdelete

theorem Request.free_nonneg_iff {request : Request} (hfunded : Funded host rows)
    (hchanged : request.changed host rows dc = .ok saved) :
    (∀ row ∈ saved, ∀ r, 0 ≤ (row.update_resources host.node host.vm_set saved).free r) ↔
      request.Fits host rows dc := by
  cases request with
  | post data => exact post_free_nonneg_iff hfunded hchanged
  | put data => exact put_free_nonneg_iff hfunded hchanged
  | delete => exact iff_of_true (delete_free_nonneg hfunded hchanged) trivial

end requests

/-- An accepted request leaves every row with the values that its strategy defines,
whatever the order in which `update_all` visits the rows and however often it is
run. Where no free value was negative, none is if and only if the DC is not the first
one to share an overcommitted node, and a POST, or a PUT that keeps the totals of a
shared row, has left room for its VMs. -/
theorem Request.sound_iff {request : Request} {host : Host Dc NodeId Zpool} {rows rows' : List (DcNode Dc)}
    {dc : Dc} (hrun : request.run host rows dc = .ok rows') :
    (Funded host rows → (Sound host rows' ↔ request.Fits host rows dc)) ∧
      (∀ row ∈ rows', row.update_resources host.node host.vm_set rows' = row) ∧
      (∃ saved, request.changed host rows dc = .ok saved ∧ ∀ order, order.Perm saved →
        ∃ order', update_all host.node host.vm_set order = some order' ∧ order'.Perm rows') ∧
      update_all host.node host.vm_set rows' = some rows' := by
  unfold Request.run at hrun
  cases hchanged : request.changed host rows dc with
  | error errors =>
    rw [hchanged] at hrun
    cases hrun
  | ok saved =>
    simp only [hchanged] at hrun
    cases hupdate : update_all host.node host.vm_set saved with
    | none =>
      rw [hupdate] at hrun
      cases hrun
    | some updated =>
      rw [hupdate] at hrun
      cases hrun
      obtain ⟨hcoherent, htwice⟩ := update_all_twice hupdate
      refine ⟨?_, hcoherent, ⟨saved, rfl, fun order hperm => update_all_perm hupdate hperm⟩, htwice⟩
      intro hfunded
      rw [← Request.free_nonneg_iff hfunded hchanged]
      obtain ⟨-, hrows'⟩ := update_all_eq_some.mp hupdate
      constructor
      · intro hsound' row hrow r
        have hmem : row.update_resources host.node host.vm_set saved ∈ rows' := by
          rw [← hrows']
          exact List.mem_map_of_mem hrow
        exact (hsound' _ hmem).2 r
      · intro hfree row' hrow'
        refine ⟨hcoherent row' hrow', fun r => ?_⟩
        rw [← hrows'] at hrow'
        obtain ⟨row, hrow, rfl⟩ := List.mem_map.mp hrow'
        exact hfree row hrow r

/-- A node of 100 GiB with a zone of 90 GiB in the DC. -/
def zone_host (size_snapshots : ℕ) : Host Unit Unit Unit where
  node :=
    { cpu := 8, ram := 8192, cpu_coef := 1, ram_coef := 1, zpool := some ()
      _ns := some ⟨(), ⟨102400, 1, 0⟩, size_snapshots, 0, 0⟩, _storage := ⟨102400, 1, 0⟩, cpu_free := 0
      ram_free := 0 }
  vm_set :=
    let json : Json Unit := ⟨calculate_cpu_cap_from_vcpus 1, 0, 1024, (), 90, false, false, []⟩
    [⟨(), some (), false, .RUNNING, none, json, json⟩]
  backup_set := []

/-- The DC has reserved the whole node. -/
def zone_row : DcNode Unit where
  dc := ()
  strategy := .RESERVED
  total
    | .cpu => 8
    | .ram => 8192
    | .disk => 102400
  free
    | .cpu => 7
    | .ram => 7168
    | .disk => 10240

theorem zone_row_sound (size_snapshots : ℕ) : Sound (zone_host size_snapshots) [zone_row] := by
  intro row hrow
  rw [List.mem_singleton] at hrow
  subst hrow
  refine ⟨?_, fun r => by cases r <;> decide⟩
  have hown : zone_row.own_free (zone_host size_snapshots).node (zone_host size_snapshots).vm_set = zone_row.free := by
    funext r
    cases r <;> rfl
  rw [update_resources_eq, hown]
  rfl

theorem Sound.funded {host : Host Dc NodeId Zpool} {rows : List (DcNode Dc)} (hsound : Sound host rows) :
    Funded host rows := by
  intro row hrow r
  obtain ⟨hvalues, hfree⟩ := hsound row hrow
  rw [hvalues]
  exact hfree r

/-- Without snapshots the reservation can be given up. -/
theorem sound_of_put_shared :
    ∃ rows', (Request.put ⟨some .SHARED, fun _ => none⟩).run (zone_host 0) [zone_row] () = .ok rows' ∧
      Sound (zone_host 0) rows' := by
  have hok : ((Request.put ⟨some .SHARED, fun _ => none⟩).run (zone_host 0) [zone_row] ()).toOption.isSome := by
    decide +kernel
  cases hrun : (Request.put ⟨some .SHARED, fun _ => none⟩).run (zone_host 0) [zone_row] () with
  | error errors =>
    rw [hrun] at hok
    cases hok
  | ok rows' =>
    refine ⟨rows', rfl, ((Request.sound_iff hrun).1 (zone_row_sound 0).funded).mpr ?_⟩
    intro row hrow _
    constructor
    · rintro ⟨-, -, r, hlt⟩
      revert hlt
      cases r <;> decide +kernel
    · intro hshared
      exact absurd rfl hshared

/-- Less than the zone takes is reserved, and the free values were never updated. -/
def stale_row : DcNode Unit where
  dc := ()
  strategy := .RESERVED
  total
    | .cpu => 8
    | .ram => 8192
    | .disk => 81920
  free := fun _ => 0

/-- An accepted request with a negative free value after it. -/
theorem not_sound_of_negative {host : Host Dc NodeId Zpool} {rows : List (DcNode Dc)} {request : Request} {dc : Dc}
    {r : Resource}
    (hany : (request.run host rows dc).toOption.any (fun rows' => rows'.any fun row => row.free r < 0) = true) :
    ∃ rows', request.run host rows dc = .ok rows' ∧ ¬ Sound host rows' := by
  cases hrun : request.run host rows dc with
  | error errors =>
    rw [hrun] at hany
    cases hany
  | ok rows' =>
    rw [hrun] at hany
    obtain ⟨row, hrow, hlt⟩ := List.any_eq_true.mp hany
    refine ⟨rows', rfl, fun hsound => ?_⟩
    exact absurd (of_decide_eq_true hlt) (not_lt.mpr ((hsound row hrow).2 r))

/-- With 20 GiB of snapshots on the node less than the VM takes is free once its DC shares the node; and an empty PUT
of a row whose stored free values are out of date checks nothing. -/
theorem not_sound_of_accepted :
    (¬ ∀ (host : Host Unit Unit Unit) (rows rows' : List (DcNode Unit)) (request : Request), Sound host rows →
      request.run host rows () = .ok rows' → Sound host rows') ∧
      ¬ ∀ (host : Host Unit Unit Unit) (rows rows' : List (DcNode Unit)) (request : Request),
        (∀ row ∈ rows, ∀ r, 0 ≤ row.free r) → request.Fits host rows () →
          request.run host rows () = .ok rows' → Sound host rows' := by
  constructor
  · intro hclaim
    have hnegative : ((Request.put ⟨some .SHARED, fun _ => none⟩).run (zone_host 20480) [zone_row] ()).toOption.any
        (fun rows' => rows'.any fun row => row.free .disk < 0) = true := by decide +kernel
    obtain ⟨rows', hrun, hsound⟩ := not_sound_of_negative hnegative
    exact hsound (hclaim _ _ _ _ (zone_row_sound 20480) hrun)
  · intro hclaim
    have hnegative : ((Request.put ⟨none, fun _ => none⟩).run (zone_host 0) [stale_row] ()).toOption.any
        (fun rows' => rows'.any fun row => row.free .disk < 0) = true := by decide +kernel
    obtain ⟨rows', hrun, hsound⟩ := not_sound_of_negative hnegative
    refine hsound (hclaim _ _ _ _ ?_ ?_ hrun)
    · intro row hrow r
      rw [List.mem_singleton.mp hrow]
      exact le_refl 0
    · intro row hrow _
      rw [List.mem_singleton.mp hrow]
      exact ⟨fun hover => hover.1 rfl, fun _ hshared => by cases hshared⟩

end api.dc.node_view
