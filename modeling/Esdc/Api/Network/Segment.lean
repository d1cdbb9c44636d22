import Mathlib
import Esdc.Lib.Fallible
import Esdc.Lib.Transition
import Esdc.Api.Network.Base

namespace api.network

open Fallible transition
open vms.ipaddress (IPAddress Usage)

variable {Tag Dc Uuid VmId : Type} [DecidableEq Dc] [DecidableEq Uuid]

/-- The L2 segment of a network. -/
def Subnet.segment (net : Subnet Tag Dc) : ℕ × Option ℕ := (net.vlan_id, net.vxlan_id)

/-- No address is in two networks of one segment. -/
def State.Unique (s : State Tag Dc Uuid VmId) : Prop :=
  ∀ row ∈ s.ips, ∀ row' ∈ s.ips, row.ip = row'.ip → ∀ net net', s.subnets.lookup row.subnet = some net →
    s.subnets.lookup row'.subnet = some net' → net.segment = net'.segment → row.subnet = row'.subnet

/-- Another network of the segment has an address of the network. -/
def State.Taken (s : State Tag Dc Uuid VmId) (net : Uuid) (segment : ℕ × Option ℕ) : Prop :=
  ∃ row ∈ s.ips, ∃ row' ∈ s.ips, row.subnet = net ∧ row'.subnet ≠ net ∧ row.ip = row'.ip ∧
    ∃ other, s.subnets.lookup row'.subnet = some other ∧ other.segment = segment

section save

variable {s : State Tag Dc Uuid VmId} {net : Uuid} {object : Subnet Tag Dc}

omit [DecidableEq Dc] in
theorem save_lookup (other : Uuid) :
    (save s net object).subnets.lookup other = if other = net then some object else s.subnets.lookup other :=
  Dict.lookup_insert_ite ..

omit [DecidableEq Dc] in
/-- A network that is saved keeps the addresses apart as long as its segment has none of its own. -/
theorem save_unique_iff (hunique : s.Unique) : (save s net object).Unique ↔ ¬ s.Taken net object.segment := by
  constructor
  · rintro hsaved ⟨row, hrow, row', hrow', hnet, hother, hip, other, hlookup, hsegment⟩
    have hobject : (save s net object).subnets.lookup row.subnet = some object := by rw [save_lookup, if_pos hnet]
    have hkept : (save s net object).subnets.lookup row'.subnet = some other := by
      rw [save_lookup, if_neg hother, hlookup]
    have hsame := hsaved row hrow row' hrow' hip object other hobject hkept hsegment.symm
    exact hother (hsame ▸ hnet)
  · intro hfree row hrow row' hrow' hip first second hfirst hsecond hsegment
    rw [save_lookup] at hfirst hsecond
    by_cases hnet : row.subnet = net
    · by_cases hnet' : row'.subnet = net
      · exact hnet.trans hnet'.symm
      · rw [if_pos hnet] at hfirst
        rw [if_neg hnet'] at hsecond
        cases hfirst
        exact absurd ⟨row, hrow, row', hrow', hnet, hnet', hip, second, hsecond, hsegment.symm⟩ hfree
    · rw [if_neg hnet] at hfirst
      by_cases hnet' : row'.subnet = net
      · rw [if_pos hnet'] at hsecond
        cases hsecond
        exact absurd ⟨row', hrow', row, hrow, hnet', hnet, hip.symm, first, hfirst, hsegment⟩ hfree
      · rw [if_neg hnet'] at hsecond
        exact hunique row hrow row' hrow' hip first second hfirst hsecond hsegment

omit [DecidableEq Dc] in
/-- A new network has no addresses. -/
theorem not_taken_of_new (hnew : net ∉ s.subnets) (segment : ℕ × Option ℕ) : ¬ s.Taken net segment := by
  rintro ⟨row, hrow, _, _, hnet, _⟩
  exact hnew (hnet ▸ s.subnet_exists row hrow)

end save

section requests

variable {s u : State Tag Dc Uuid VmId} {req : Request Tag Dc} {net : Uuid}

/-- Only an overlay has a VXLAN. -/
def requested_vxlan_id (req : Request Tag Dc) (object : Subnet Tag Dc) : Option ℕ :=
  if req.all_nictags (req.data.nic_tag.getD object.nic_tag) = some .overlay_rule then
    req.data.vxlan_id.getD object.vxlan_id
  else none

/-- The segment that an update asks for. -/
def requested_segment (req : Request Tag Dc) (object : Subnet Tag Dc) : ℕ × Option ℕ :=
  (req.data.vlan_id.getD object.vlan_id, requested_vxlan_id req object)

/-- What the whole validation does with the two numbers of the segment. -/
theorem validate_spec {post : Bool} {object : Subnet Tag Dc} {dc_bound : Option Dc} {data attrs : Data Tag}
    (hvalid : validate s req post object dc_bound data = .ok attrs) :
    attrs.vlan_id = data.vlan_id ∧ attrs.vxlan_id.getD object.vxlan_id =
      if req.all_nictags (data.nic_tag.getD object.nic_tag) = some .overlay_rule then
        data.vxlan_id.getD object.vxlan_id
      else none := by
  unfold validate at hvalid
  split at hvalid
  · cases hvalid
  · split at hvalid
    · cases hvalid
    · case h_2 nic_tag_type htype =>
      split at hvalid
      swap
      · cases hvalid
      cases hvalid
      refine ⟨rfl, ?_⟩
      rw [htype]
      by_cases hoverlay : nic_tag_type = .overlay_rule
      · simp [hoverlay]
      · simp [hoverlay]

/-- An accepted object has the segment that was asked for, and the VLAN was checked when it was sent. -/
theorem is_valid_spec {object object' : Subnet Tag Dc}
    (hvalid : is_valid s req false net object req.data = .ok object') :
    object'.segment = requested_segment req object ∧ validate_vlan_id s false net req.data = [] := by
  simp only [is_valid, Bool.false_eq_true, if_false] at hvalid
  split at hvalid
  · cases hvalid
  split at hvalid
  swap
  · cases hvalid
  case isTrue hfields =>
  obtain ⟨attrs, hattrs, rfl⟩ := map_eq_ok.mp hvalid
  obtain ⟨hvlan, hvxlan⟩ := validate_spec hattrs
  constructor
  · simp only [Subnet.segment, restore_object, requested_segment, hvlan, hvxlan, requested_vxlan_id]
  · simp only [field_errors, Bool.false_eq_true, if_false] at hfields
    split at hfields
    · case isTrue hmem =>
      rw [hfields] at hmem
      cases hmem
    · exact (List.append_eq_nil_iff.mp hfields).2

theorem put_spec (hput : put s req net = .ok u) : ∃ object object', s.subnets.lookup net = some object ∧
    u = save s net object' ∧ object'.segment = requested_segment req object ∧
    validate_vlan_id s false net req.data = [] := by
  unfold put at hput
  split at hput
  · cases hput
  · case h_2 object hlookup =>
    split at hput
    · cases hput
    · case h_2 object' hvalid =>
      obtain ⟨hsegment, hvlan⟩ := is_valid_spec hvalid
      simp only at hput
      split at hput
      · cases hput
      · split at hput
        · cases hput
        · cases hput
          exact ⟨object, object', hlookup, rfl, hsegment, hvlan⟩

theorem post_spec {default_tag : Tag} (hpost : post s req net default_tag = .ok u) :
    net ∉ s.subnets ∧ ∃ object, u = save s net object := by
  unfold post at hpost
  split at hpost
  · cases hpost
  · case isFalse hnew =>
    obtain ⟨object, -, rfl⟩ := map_eq_ok.mp hpost
    exact ⟨hnew, object, rfl⟩

omit [DecidableEq Dc] in
/-- The check of a VLAN that was sent, which is stricter than it needs to be. -/
theorem not_taken_of_vlan {value : ℕ} (hvlan : validate_vlan_id s false net req.data = [])
    (hsent : req.data.vlan_id = some value) (vxlan_id : Option ℕ) : ¬ s.Taken net (value, vxlan_id) := by
  rintro ⟨row, hrow, row', hrow', hnet, hother, hip, other, hlookup, hsegment⟩
  simp only [validate_vlan_id, hsent, Bool.false_eq_true, if_false] at hvlan
  split at hvlan
  · cases hvlan
  · case isFalse hnone =>
    apply hnone
    refine List.any_eq_true.mpr ⟨row.ip, List.mem_map.mpr ⟨row, ?_, rfl⟩, ?_⟩
    · exact List.mem_filter.mpr ⟨hrow, decide_eq_true hnet⟩
    · refine decide_eq_true (List.mem_map.mpr ⟨row', List.mem_filter.mpr ⟨hrow', ?_⟩, hip.symm⟩)
      have hvlan_id : other.vlan_id = value := congrArg Prod.fst hsegment
      simp [hother, hlookup, hvlan_id]

end requests

section ip

variable {s u : State Tag Dc Uuid VmId} {net : Uuid} {ips : List IPv4Address} {usage : Usage}

omit [DecidableEq Dc] in
/-- New addresses are in no other network of the segment. -/
theorem post_ips_spec (hpost : post_ips s net ips usage = .ok u) :
    u.subnets = s.subnets ∧ (∀ row ∈ u.ips, row ∈ s.ips ∨ row.subnet = net ∧ row.ip ∈ ips) ∧
    ∃ object, s.subnets.lookup net = some object ∧ ∀ ip ∈ ips, ∀ row ∈ s.ips, row.subnet ≠ net → row.ip = ip →
      ∀ other, s.subnets.lookup row.subnet = some other → other.segment ≠ object.segment := by
  unfold post_ips at hpost
  split at hpost
  swap
  · cases hpost
  case isTrue hnet =>
  split at hpost
  · cases hpost
  split at hpost
  swap
  · cases hpost
  simp only at hpost
  split at hpost
  · cases hpost
  case isFalse herrors =>
  split at hpost
  swap
  · cases hpost
  cases hpost
  refine ⟨rfl, ?_, _, (Option.some_get (AList.lookup_isSome.mpr hnet)).symm, ?_⟩
  · intro row hrow
    rcases List.mem_append.mp hrow with hrow | hrow
    · exact .inl hrow
    · obtain ⟨ip, hip, rfl⟩ := List.mem_map.mp hrow
      exact .inr ⟨rfl, hip⟩
  · intro ip hip row hrow hother hsame other hlookup hsegment
    have hnone := List.flatMap_eq_nil_iff.mp (not_not.mp herrors) ip hip
    have hvalid : validate_ip s net ((s.subnets.lookup net).get (AList.lookup_isSome.mpr hnet)) ip = true := by
      by_contra hinvalid
      simp [ip_errors, hinvalid] at hnone
    simp only [validate_ip, Bool.and_eq_true, Bool.not_eq_true', List.any_eq_false] at hvalid
    have hclash := hvalid.2 row hrow
    obtain ⟨hvlan, hvxlan⟩ := Prod.mk.inj hsegment
    simp [hother, hsame, hlookup, hvlan, hvxlan] at hclash

omit [DecidableEq Dc] in
theorem post_ips_unique (hunique : s.Unique) (hpost : post_ips s net ips usage = .ok u) : u.Unique := by
  obtain ⟨hsubnets, hrows, object, hobject, hfree⟩ := post_ips_spec hpost
  intro row hrow row' hrow' hip first second hfirst hsecond hsegment
  rw [hsubnets] at hfirst hsecond
  rcases hrows row hrow with hold | ⟨hnet, hnew⟩
  · rcases hrows row' hrow' with hold' | ⟨hnet', hnew'⟩
    · exact hunique row hold row' hold' hip first second hfirst hsecond hsegment
    · by_contra hother
      rw [hnet', hobject] at hsecond
      cases hsecond
      exact hfree row'.ip hnew' row hold (hnet' ▸ hother) hip first hfirst hsegment
  · rcases hrows row' hrow' with hold' | ⟨hnet', hnew'⟩
    · by_contra hother
      rw [hnet, hobject] at hfirst
      cases hfirst
      exact hfree row.ip hnew row' hold' (fun heq => hother (hnet.trans heq.symm)) hip.symm second hsecond hsegment.symm
    · exact hnet.trans hnet'.symm

end ip

section runs

inductive Op (Tag Dc Uuid : Type)
  | post (req : Request Tag Dc) (net : Uuid) (default_tag : Tag)
  | put (req : Request Tag Dc) (net : Uuid)
  | post_ips (net : Uuid) (ips : List IPv4Address) (usage : Usage)

def step (s : State Tag Dc Uuid VmId) : Op Tag Dc Uuid → Option (State Tag Dc Uuid VmId)
  | .post req net default_tag => (post s req net default_tag).toOption
  | .put req net => (put s req net).toOption
  | .post_ips net ips usage => (post_ips s net ips usage).toOption

/-- An update that sends no VLAN does not bring the network to a segment where another network has
one of its addresses. -/
def Checked (s : State Tag Dc Uuid VmId) : Op Tag Dc Uuid → Prop
  | .put req net => req.data.vlan_id = none → ∀ object, s.subnets.lookup net = some object →
    ¬ s.Taken net (requested_segment req object)
  | _ => True

instance (s : State Tag Dc Uuid VmId) (net : Uuid) (segment : ℕ × Option ℕ) : Decidable (s.Taken net segment) :=
  inferInstanceAs (Decidable (∃ row ∈ s.ips, ∃ row' ∈ s.ips, row.subnet = net ∧ row'.subnet ≠ net ∧ row.ip = row'.ip ∧
    ∃ other ∈ s.subnets.lookup row'.subnet, other.segment = segment))

instance (s : State Tag Dc Uuid VmId) (e : Op Tag Dc Uuid) : Decidable (Checked s e) :=
  match e with
  | .put req net => inferInstanceAs (Decidable (req.data.vlan_id = none → ∀ object ∈ s.subnets.lookup net,
      ¬ s.Taken net (requested_segment req object)))
  | .post .. | .post_ips .. => isTrue trivial

/-- A network without addresses may be updated in any way. -/
theorem unique_step {s u : State Tag Dc Uuid VmId} {e : Op Tag Dc Uuid} (hunique : s.Unique) (hstep : step s e = some u) :
    u.Unique ↔ Checked s e := by
  cases e with
  | post req net default_tag =>
    obtain ⟨hnew, object, rfl⟩ := post_spec (toOption_eq_some.mp hstep)
    rw [save_unique_iff hunique]
    exact iff_of_true (not_taken_of_new hnew _) trivial
  | put req net =>
    obtain ⟨object, object', hlookup, rfl, hsegment, hvlan⟩ := put_spec (toOption_eq_some.mp hstep)
    rw [save_unique_iff hunique, hsegment]
    constructor
    · intro hfree _ found hfound
      cases hlookup.symm.trans hfound
      exact hfree
    · intro hchecked
      cases hsent : req.data.vlan_id with
      | none => exact hchecked hsent object hlookup
      | some value =>
        rw [requested_segment, hsent]
        exact not_taken_of_vlan hvlan hsent _
  | post_ips net ips usage =>
    exact iff_of_true (post_ips_unique hunique (toOption_eq_some.mp hstep)) trivial

/-- The addresses are unique in every segment as long as no update without a VLAN brings two networks
with an address in common together, and the first one that does breaks it. -/
theorem unique_iff_checked {s : State Tag Dc Uuid VmId} (hunique : s.Unique) :
    ∀ es t, Run step Checked s es t → t.Unique ∧ ∀ e u, step t e = some u → (u.Unique ↔ Checked t e) := by
  intro es t hrun
  have hpreserved : ∀ (s : State Tag Dc Uuid VmId) e u, s.Unique → Checked s e → step s e = some u → u.Unique :=
    fun s e u hinv hchecked hstep => (unique_step hinv hstep).mpr hchecked
  have hreached := hrun.invariant hpreserved hunique
  exact ⟨hreached, fun e u hstep => unique_step hreached hstep⟩

def empty : State ℕ ℕ ℕ ℕ := ⟨∅, [], by simp, List.nodup_nil⟩

theorem empty_unique : empty.Unique := fun _ hrow => by cases hrow

/-- 10.0.0.0/24 on an overlay. -/
def overlay_data (vxlan_id : ℕ) : Data ℕ :=
  ⟨some 0x0A000000, some 0xFFFFFF00, none, some 1, some 1, some (some vxlan_id), none, none, none, true⟩

/-- Only the VXLAN is sent. -/
def vxlan_data (vxlan_id : ℕ) : Data ℕ :=
  ⟨none, none, none, none, none, some (some vxlan_id), none, none, none, false⟩

def overlay_request (data : Data ℕ) : Request ℕ ℕ :=
  ⟨data, true, fun _ => some .overlay_rule, fun _ => ⟨none, false, [], false, []⟩, 1, [], false⟩

/-- Two overlays with the address 10.0.0.5. -/
def two_overlays : List (Op ℕ ℕ ℕ) :=
  [.post (overlay_request (overlay_data 1)) 1 0, .post (overlay_request (overlay_data 2)) 2 0,
    .post_ips 1 [0x0A000005] .vm, .post_ips 2 [0x0A000005] .vm]

/-- One of two networks with the same address is moved to a free overlay. -/
theorem unique_overlay : ∃ t : State ℕ ℕ ℕ ℕ,
    Run step Checked empty (two_overlays ++ [.put (overlay_request (vxlan_data 3)) 2]) t ∧
      (t.ips.map fun row => (row.ip, row.subnet)) = [(0x0A000005, 1), (0x0A000005, 2)] ∧ t.Unique := by
  have hexec : (exec step Checked empty (two_overlays ++ [.put (overlay_request (vxlan_data 3)) 2])).any (fun t =>
      (t.ips.map fun row => (row.ip, row.subnet)) = [(0x0A000005, 1), (0x0A000005, 2)]) = true := by decide +kernel
  obtain ⟨t, hrun, hips⟩ := Run.exists_of_exec hexec
  exact ⟨t, hrun, of_decide_eq_true hips, (unique_iff_checked empty_unique _ t hrun).1⟩

/-- The VXLAN of one of two networks with the same address is changed to that of the other. -/
theorem not_unique_of_merged : ¬ ∀ s : State ℕ ℕ ℕ ℕ, s.Unique → ∀ es t, Run step anyStep s es t → t.Unique := by
  intro hclaim
  have hexec : (exec step anyStep empty (two_overlays ++ [.put (overlay_request (vxlan_data 1)) 2])).any (fun t =>
      (t.ips.map fun row => (row.ip, row.subnet)) = [(0x0A000005, 1), (0x0A000005, 2)] &&
        (t.subnets.lookup 1).map Subnet.segment = some (1, some 1) &&
        (t.subnets.lookup 2).map Subnet.segment = some (1, some 1)) = true := by decide +kernel
  obtain ⟨t, hrun, htest⟩ := Run.exists_of_exec hexec
  simp only [Bool.and_eq_true, decide_eq_true_eq] at htest
  obtain ⟨⟨hips, hfirst⟩, hsecond⟩ := htest
  have hunique := hclaim empty empty_unique _ t hrun
  have hmem : ∀ net ∈ [1, 2], ∃ row ∈ t.ips, (row.ip, row.subnet) = (0x0A000005, net) := by
    intro net hnet
    have hpair : ((0x0A000005, net) : IPv4Address × ℕ) ∈ t.ips.map fun row => (row.ip, row.subnet) := by
      rw [hips]
      simpa using hnet
    exact List.mem_map.mp hpair
  obtain ⟨row, hrow, hpair⟩ := hmem 1 (by simp)
  obtain ⟨row', hrow', hpair'⟩ := hmem 2 (by simp)
  obtain ⟨hip, hnet⟩ := Prod.mk.inj hpair
  obtain ⟨hip', hnet'⟩ := Prod.mk.inj hpair'
  obtain ⟨net, hlookup, hsegment⟩ := Option.map_eq_some_iff.mp hfirst
  obtain ⟨net', hlookup', hsegment'⟩ := Option.map_eq_some_iff.mp hsecond
  have hsame := hunique row hrow row' hrow' (hip.trans hip'.symm) net net' (hnet ▸ hlookup) (hnet' ▸ hlookup')
    (hsegment.trans hsegment'.symm)
  rw [hnet, hnet'] at hsame
  cases hsame

end runs

end api.network
