import Mathlib
import Esdc.Lib.Segments

namespace vms.node_changes

open segments (Segment Tiles Ascending cut stop)

structure Node where
  uuid : String
  hostname : String
  deriving DecidableEq

/-- The node that a VM was on until some time, in unix time. -/
structure Entry where
  node_uuid : Option String
  node_hostname : Option String
  till : ℕ
  deriving DecidableEq

def Entry.node (i : Entry) : Option String × Option String := (i.node_uuid, i.node_hostname)

/-- What the history returns for an entry. The weight is exact here, not rounded to eight digits. -/
structure Frame extends Entry where
  since : ℕ
  duration : ℤ
  weight : ℚ
  deriving DecidableEq

inductive Error
  | IndexError
  | ZeroDivisionError
  deriving DecidableEq

/-- `info` holds nothing but the history here. -/
structure Vm where
  created : ℕ
  node : Option Node
  info : List Entry

/-- Store the previous node into `node_history`. -/
def Vm.update_node_history (vm : Vm) (orig_node : Option Node) (now : ℕ) : Vm :=
  match orig_node with
  | some orig_node =>
    { vm with info := vm.info ++ [⟨some orig_node.uuid, some orig_node.hostname, now⟩] }
  | none => vm

/-- `save` of a VM whose node has changed. -/
def Vm.change_node (vm : Vm) (node : Option Node) (now : ℕ) : Vm :=
  { vm.update_node_history vm.node now with node }

section node_history

/-- The loop over the history; the flag is `last_node_is_current`. -/
def collect (since : ℕ) (till : Option ℕ) : List Entry → List Entry × Bool
  | [] => ([], true)
  | i :: nh =>
    if till.any (· ≤ i.till) then ([i], false)
    else
      let (ret, last_node_is_current) := collect since till nh
      (if since < i.till then i :: ret else ret, last_node_is_current)

def weigh (duration total : ℤ) : Except Error ℚ :=
  if total = 0 then .error .ZeroDivisionError else .ok (duration / total)

/-- The loop that adds the duration and the weight. -/
def frames (total : ℤ) : ℕ → List Entry → Except Error (List Frame)
  | _, [] => .ok []
  | since, i :: ret => do
    let duration : ℤ := i.till - since
    let weight ← weigh duration total
    let rest ← frames total i.till ret
    return { i with since, duration, weight } :: rest

def Vm.current (vm : Vm) (till : ℕ) : Entry := ⟨vm.node.map Node.uuid, vm.node.map Node.hostname, till⟩

def Vm.begin (vm : Vm) (since : ℕ) : ℕ := if since ≠ 0 ∧ since > vm.created then since else vm.created

def Vm.node_history (vm : Vm) (since : ℕ) (till : Option ℕ) (now : ℕ) : Except Error (List Frame) :=
  let till := till.filter (· ≠ 0)
  let (ret, last_node_is_current) := collect since till vm.info
  let ret := if last_node_is_current then ret ++ [vm.current (till.getD now)] else ret
  match ret.getLast? with
  | none => .error .IndexError
  | some last => frames (last.till - vm.begin since) (vm.begin since) ret

end node_history

section partition

/-- The node that a VM was on at a time. -/
def Vm.node_at (vm : Vm) (t : ℤ) : Option String × Option String :=
  ((vm.info.find? fun i => t < i.till).map Entry.node).getD (vm.current 0).node

def Frame.segment (f : Frame) : Segment (Option String × Option String) := ⟨f.node, f.since, f.till⟩

/-- The frames split the time in which the VM existed, with the node it was on in each. -/
structure Partition (vm : Vm) (since till : ℕ) (frames : List Frame) : Prop where
  tiles : Tiles (max since vm.created : ℕ) till (frames.map Frame.segment)
  node : ∀ f ∈ frames, ∀ t : ℤ, f.since ≤ t → t < f.till → f.node = vm.node_at t
  duration : ∀ f ∈ frames, f.duration = f.till - f.since
  total : (frames.map Frame.duration).sum = till - (max since vm.created : ℕ)
  weight : (frames.map Frame.weight).sum = 1

/-- No entry is older than the VM, and where the history goes on after the end it has an entry at the end. -/
def Vm.Clipped (vm : Vm) (since till : ℕ) : Prop :=
  (∀ i ∈ vm.info, since < i.till → vm.created ≤ i.till) ∧
    ∀ i ∈ vm.info, till < i.till → ∃ j ∈ vm.info, j.till = till

end partition

section collect

variable {since till : ℕ} {nh : List Entry}

def ends (ret : List Entry) : List ((Option String × Option String) × ℤ) := ret.map fun i => (i.node, (i.till : ℤ))

theorem begin_eq (vm : Vm) (since : ℕ) : vm.begin since = max since vm.created := by
  rw [Vm.begin]
  split <;> omega

/-- The frames are the parts of the time that is cut at the ends of the entries. -/
theorem frames_eq {total : ℤ} (htotal : total ≠ 0) (low : ℕ) (ret : List Entry) :
    ∃ fs, frames total low ret = .ok fs ∧ fs.map Frame.segment = cut low (ends ret) ∧
      (∀ f ∈ fs, f.duration = f.till - f.since ∧ f.weight = f.duration / total) := by
  induction ret generalizing low with
  | nil => exact ⟨[], rfl, rfl, nofun⟩
  | cons i ret ih =>
    obtain ⟨fs, hfs, hcut, hall⟩ := ih i.till
    let first : Frame :=
      { i with since := low, duration := i.till - low, weight := ((i.till - low : ℤ) : ℚ) / total }
    refine ⟨first :: fs, ?_, ?_, ?_⟩
    · rw [frames, weigh, if_neg htotal, hfs]
      rfl
    · rw [List.map_cons, hcut]
      rfl
    · intro f hf
      rcases List.mem_cons.mp hf with rfl | hf
      · exact ⟨rfl, rfl⟩
      · exact hall f hf

/-- The entries that are kept, with the current node at the end if no entry is at or after the end. -/
def collected (since till : ℕ) (current : Entry) : List Entry → List Entry
  | [] => [current]
  | i :: nh =>
    if till ≤ i.till then [i]
    else if since < i.till then i :: collected since till current nh
    else collected since till current nh

theorem collect_eq (since till : ℕ) (current : Entry) (nh : List Entry) :
    (if (collect since (some till) nh).2 then (collect since (some till) nh).1 ++ [current]
      else (collect since (some till) nh).1) = collected since till current nh := by
  induction nh with
  | nil => rfl
  | cons i nh ih =>
    rw [collected]
    by_cases hcut : till ≤ i.till
    · have hlast : collect since (some till) (i :: nh) = ([i], false) := by
        rw [collect, Option.any_some, if_pos (decide_eq_true hcut)]
      rw [hlast, if_pos hcut]
      rfl
    · have hnext : collect since (some till) (i :: nh) =
          (if since < i.till then i :: (collect since (some till) nh).1 else (collect since (some till) nh).1,
            (collect since (some till) nh).2) := by
        rw [collect, Option.any_some, if_neg (by rwa [decide_eq_true_eq])]
      rw [hnext, if_neg hcut, ← ih]
      simp only
      split <;> split <;> rfl

variable {current : Entry}

theorem mem_collected {e : Entry} (hcurrent : since < current.till) (hlt : since < till)
    (he : e ∈ collected since till current nh) : (e = current ∨ e ∈ nh) ∧ since < e.till := by
  induction nh with
  | nil =>
    obtain rfl := List.mem_singleton.mp he
    exact ⟨Or.inl rfl, hcurrent⟩
  | cons i nh ih =>
    rw [collected] at he
    split at he
    · case isTrue hcut =>
      obtain rfl := List.mem_singleton.mp he
      exact ⟨Or.inr List.mem_cons_self, lt_of_lt_of_le hlt hcut⟩
    · have hrest : e ∈ collected since till current nh → (e = current ∨ e ∈ i :: nh) ∧ since < e.till := by
        intro he
        obtain ⟨hmem, hsince⟩ := ih he
        exact ⟨hmem.imp_right (List.mem_cons_of_mem i), hsince⟩
      split at he
      · case isTrue hkept =>
        rcases List.mem_cons.mp he with rfl | he
        · exact ⟨Or.inr List.mem_cons_self, hkept⟩
        · exact hrest he
      · exact hrest he

theorem sorted_collected (hcurrent : current.till = till) (hlt : since < till)
    (hsorted : nh.Pairwise fun a b => a.till ≤ b.till) :
    (collected since till current nh).Pairwise fun a b => a.till ≤ b.till := by
  induction nh with
  | nil => exact List.pairwise_singleton _ _
  | cons i nh ih =>
    obtain ⟨hfirst, hsorted⟩ := List.pairwise_cons.mp hsorted
    rw [collected]
    split
    · exact List.pairwise_singleton _ _
    · case isFalse hcut =>
      split
      · refine List.Pairwise.cons (fun e he => ?_) (ih hsorted)
        rcases (mem_collected (hcurrent ▸ hlt) hlt he).1 with rfl | he
        · omega
        · exact hfirst e he
      · exact ih hsorted

/-- What is kept ends at the end, or later. -/
theorem le_stop_collected (hcurrent : current.till = till) (low : ℤ) :
    (till : ℤ) ≤ stop low (ends (collected since till current nh)) := by
  induction nh generalizing low with
  | nil =>
    rw [collected, ends, List.map_singleton, segments.stop_cons, hcurrent]
    exact le_rfl
  | cons i nh ih =>
    rw [collected]
    split
    · case isTrue hcut =>
      rw [ends, List.map_singleton, segments.stop_cons]
      exact Int.ofNat_le.mpr hcut
    · split
      · rw [ends, List.map_cons, segments.stop_cons]
        exact ih _
      · exact ih low

/-- What is left out has ended before the beginning, or comes after the end. -/
theorem mem_collected_of_mem (current : Entry) (hsorted : nh.Pairwise fun a b => a.till ≤ b.till) {i : Entry} (hi : i ∈ nh)
    (hsince : since < i.till) : i ∈ collected since till current nh ∨
      till ≤ i.till ∧ ∃ e ∈ collected since till current nh, e ∈ nh ∧ till ≤ e.till := by
  induction nh with
  | nil => cases hi
  | cons i' nh ih =>
    obtain ⟨hfirst, hsorted⟩ := List.pairwise_cons.mp hsorted
    rw [collected]
    split
    · case isTrue hcut =>
      rcases List.mem_cons.mp hi with rfl | hi
      · exact Or.inl List.mem_cons_self
      · exact Or.inr ⟨hcut.trans (hfirst i hi), i', List.mem_cons_self, List.mem_cons_self, hcut⟩
    · rcases List.mem_cons.mp hi with rfl | hi
      · rw [if_pos hsince]
        exact Or.inl List.mem_cons_self
      · rcases ih hsorted hi with hmem | ⟨hafter, e, he, hmem, hcut⟩
        · left
          split
          · exact List.mem_cons_of_mem _ hmem
          · exact hmem
        · right
          refine ⟨hafter, e, ?_, List.mem_cons_of_mem _ hmem, hcut⟩
          split
          · exact List.mem_cons_of_mem _ he
          · exact he

/-- Only the first entry that ends at or after the end is kept. -/
theorem collected_first (hsorted : nh.Pairwise fun a b => a.till ≤ b.till)
    {e j : Entry} (he : e ∈ collected since till current nh) (hj : j ∈ nh) (hafter : till ≤ j.till) :
    e.till ≤ j.till := by
  induction nh with
  | nil => cases hj
  | cons i nh ih =>
    obtain ⟨hfirst, hsorted⟩ := List.pairwise_cons.mp hsorted
    rw [collected] at he
    split at he
    · obtain rfl := List.mem_singleton.mp he
      rcases List.mem_cons.mp hj with rfl | hj
      · exact le_rfl
      · exact hfirst j hj
    · case isFalse hcut =>
      rcases List.mem_cons.mp hj with rfl | hj
      · exact absurd hafter hcut
      · split at he
        · rcases List.mem_cons.mp he with rfl | he
          · exact (not_le.mp hcut).le.trans hafter
          · exact ih hsorted he hj
        · exact ih hsorted he hj

end collect

section node_history

variable {vm : Vm} {since till : ℕ}

/-- The entries that the frames are made of. -/
def Vm.entries (vm : Vm) (since till : ℕ) : List Entry := collected since till (vm.current till) vm.info

theorem till_current : (vm.current till).till = till := rfl

/-- The weights are taken of the whole time, which is not empty. -/
theorem node_history_eq (vm : Vm) (hlt : since < till) (hcreated : vm.created < till) (now : ℕ) :
    ∃ fs, vm.node_history since (some till) now = .ok fs ∧
      fs.map Frame.segment = cut (max since vm.created : ℕ) (ends (vm.entries since till)) ∧
      ∀ f ∈ fs, f.duration = f.till - f.since ∧ f.weight = f.duration /
        ((stop (max since vm.created : ℕ) (ends (vm.entries since till)) - (max since vm.created : ℕ) : ℤ) : ℚ) := by
  have htill : (some till).filter (· ≠ 0) = some till := by
    rw [Option.filter_some, if_pos (by simp; omega)]
  have hentries : vm.entries since till = _ := (collect_eq since till (vm.current till) vm.info).symm
  have hle : (till : ℤ) ≤ stop (max since vm.created : ℕ) (ends (vm.entries since till)) := le_stop_collected till_current _
  unfold Vm.node_history
  simp only [htill, Option.getD_some, ← hentries, begin_eq]
  cases hlast : (vm.entries since till).getLast? with
  | none =>
    rw [List.getLast?_eq_none_iff.mp hlast] at hle
    simp only [ends, stop, List.map_nil, List.getLastD_nil] at hle
    omega
  | some last =>
    have hstop : stop (max since vm.created : ℕ) (ends (vm.entries since till)) = last.till := by
      obtain ⟨before, hbefore⟩ := List.getLast?_eq_some_iff.mp hlast
      rw [stop, ends, hbefore]
      simp
    simp only
    rw [hstop]
    exact frames_eq (by omega) _ _

theorem mem_ends {ret : List Entry} {e : (Option String × Option String) × ℤ} :
    e ∈ ends ret ↔ ∃ i ∈ ret, (i.node, (i.till : ℤ)) = e := List.mem_map

theorem pairwise_ends {ret : List Entry} (hsorted : ret.Pairwise fun a b => a.till ≤ b.till) :
    (ends ret).Pairwise fun a b => a.2 ≤ b.2 :=
  List.pairwise_map.mpr (hsorted.imp fun hle => Int.ofNat_le.mpr hle)

/-- The entries lie between the beginning and the end if and only if the history is clipped to them already. -/
theorem clipped_iff (hlt : since < till) (hcreated : vm.created < till)
    (hsorted : vm.info.Pairwise fun a b => a.till ≤ b.till) :
    vm.Clipped since till ↔ ∀ e ∈ vm.entries since till, max since vm.created ≤ e.till ∧ e.till ≤ till := by
  constructor
  · rintro ⟨hold, hend⟩ e he
    obtain ⟨hmem, hsince⟩ := mem_collected hlt hlt he
    rcases hmem with rfl | hmem
    · exact ⟨max_le hlt.le hcreated.le, le_rfl⟩
    · refine ⟨max_le hsince.le (hold e hmem hsince), not_lt.mp fun hafter => ?_⟩
      obtain ⟨j, hj, htill⟩ := hend e hmem hafter
      have hle := collected_first hsorted he hj htill.ge
      omega
  · intro hwithin
    constructor
    · intro i hi hsince
      rcases mem_collected_of_mem _ hsorted hi hsince with hmem | ⟨hafter, -⟩
      · exact (le_max_right _ _).trans (hwithin i hmem).1
      · exact hcreated.le.trans hafter
    · intro i hi hafter
      rcases mem_collected_of_mem (vm.current till) hsorted hi (hlt.trans hafter) with
        hmem | ⟨-, e, he, hmem, hcut⟩
      · exact absurd (hwithin i hmem).2 (not_le.mpr hafter)
      · exact ⟨e, hmem, le_antisymm (hwithin e he).2 hcut⟩

/-- A part of the time between the beginning and the end has the node of the first entry that ends after it. -/
theorem node_of_mem_cut {current : Entry} {nh : List Entry} {low : ℕ} (hlow : since ≤ low)
    (hends : Ascending low (ends (collected since till current nh))) :
    ∀ s ∈ cut low (ends (collected since till current nh)), ∀ t : ℤ, s.since ≤ t → t < s.till →
      s.label = ((nh.find? fun i => t < i.till).map Entry.node).getD current.node := by
  induction nh generalizing low with
  | nil =>
    intro s hs t _ _
    obtain rfl := List.mem_singleton.mp hs
    rfl
  | cons i nh ih =>
    intro s hs t hfrom hto
    have hstart := (segments.within_cut hends s hs).1.trans hfrom
    rw [collected] at hs hends
    have hskip : ¬ t < i.till →
        (i :: nh).find? (fun i => decide (t < i.till)) = nh.find? fun i => decide (t < i.till) := by
      intro hnot
      exact List.find?_cons_of_neg (by simpa using hnot)
    have hfound : t < i.till → (i :: nh).find? (fun i => decide (t < i.till)) = some i := by
      intro hbefore
      exact List.find?_cons_of_pos (by simpa using hbefore)
    split at hs
    · obtain rfl := List.mem_singleton.mp hs
      rw [hfound hto]
      rfl
    · case isFalse hcut =>
      rw [if_neg hcut] at hends
      split at hs
      · case isTrue hkept =>
        rw [if_pos hkept] at hends
        rcases List.mem_cons.mp hs with rfl | hs
        · rw [hfound hto]
          rfl
        · have hafter := (segments.within_cut hends.2 s hs).1.trans hfrom
          rw [hskip (not_lt.mpr hafter)]
          exact ih hkept.le hends.2 s hs t hfrom hto
      · case isFalse hskipped =>
        rw [if_neg hskipped] at hends
        rw [hskip (by omega)]
        exact ih hlow hends s hs t hfrom hto

/-- The frames of a history whose entries lie between the beginning and the end. -/
theorem partition_of_within (hlt : since < till) (hcreated : vm.created < till)
    (hsorted : vm.info.Pairwise fun a b => a.till ≤ b.till)
    (hwithin : ∀ e ∈ vm.entries since till, max since vm.created ≤ e.till ∧ e.till ≤ till) {fs : List Frame}
    (hfs : fs.map Frame.segment = cut (max since vm.created : ℕ) (ends (vm.entries since till)))
    (hall : ∀ f ∈ fs, f.duration = f.till - f.since ∧ f.weight = f.duration /
      ((stop (max since vm.created : ℕ) (ends (vm.entries since till)) - (max since vm.created : ℕ) : ℤ) : ℚ)) :
    Partition vm since till fs := by
  have hascending : Ascending (max since vm.created : ℕ) (ends (vm.entries since till)) := by
    have hentries : (vm.entries since till).Pairwise fun a b => a.till ≤ b.till :=
      sorted_collected till_current hlt hsorted
    rw [segments.ascending_iff (pairwise_ends hentries)]
    intro e he
    obtain ⟨i, hi, rfl⟩ := mem_ends.mp he
    exact Int.ofNat_le.mpr (hwithin i hi).1
  have hstop : stop (max since vm.created : ℕ) (ends (vm.entries since till)) = till := by
    have hle : (till : ℤ) ≤ stop (max since vm.created : ℕ) (ends (vm.entries since till)) :=
      le_stop_collected till_current _
    refine le_antisymm ?_ hle
    rw [stop, List.getLastD_eq_getLast?]
    cases hlast : ((ends (vm.entries since till)).map Prod.snd).getLast? with
    | none => exact Int.ofNat_le.mpr (max_le hlt.le hcreated.le)
    | some last =>
      obtain ⟨e, he, rfl⟩ := List.mem_map.mp (List.mem_of_getLast? hlast)
      obtain ⟨i, hi, rfl⟩ := mem_ends.mp he
      exact Int.ofNat_le.mpr (hwithin i hi).2
  have hdurations : (fs.map Frame.duration).sum = till - (max since vm.created : ℕ) := by
    rw [← hstop, ← segments.sum_duration_cut, ← hfs, List.map_map]
    congr 1
    apply List.map_congr_left
    intro f hf
    exact (hall f hf).1
  refine ⟨?_, ?_, fun f hf => (hall f hf).1, hdurations, ?_⟩
  · rw [hfs, ← hstop]
    exact segments.tiles_cut hascending
  · intro f hf t hfrom hto
    have hs : f.segment ∈ cut (max since vm.created : ℕ) (ends (vm.entries since till)) := by
      rw [← hfs]
      exact List.mem_map_of_mem hf
    exact node_of_mem_cut (le_max_left _ _) hascending _ hs t hfrom hto
  · have hweights : fs.map Frame.weight = fs.map fun f =>
        (f.duration : ℚ) * ((till : ℚ) - (max since vm.created : ℕ))⁻¹ := by
      apply List.map_congr_left
      intro f hf
      rw [(hall f hf).2, hstop, div_eq_mul_inv]
      push_cast
      rfl
    have hpos : ((till : ℚ) - (max since vm.created : ℕ)) ≠ 0 := by
      rw [sub_ne_zero, Ne, Nat.cast_inj]
      exact (max_lt hlt hcreated).ne'
    have hcast : ((fs.map fun f => (f.duration : ℚ))).sum = (till : ℚ) - (max since vm.created : ℕ) := by
      have hsum := congrArg (Int.cast (R := ℚ)) hdurations
      rw [Int.cast_list_sum, List.map_map] at hsum
      rw [Int.cast_sub, Int.cast_natCast, Int.cast_natCast] at hsum
      exact hsum
    rw [hweights, List.sum_map_mul_right, hcast, mul_inv_cancel₀ hpos]

/-- The frames partition the time in question if and only if no entry has to be clipped to it. -/
theorem partition_iff (now : ℕ) (hlt : since < till) (hcreated : vm.created < till)
    (hsorted : vm.info.Pairwise fun a b => a.till ≤ b.till) :
    ∃ fs, vm.node_history since (some till) now = .ok fs ∧ (Partition vm since till fs ↔ vm.Clipped since till) := by
  obtain ⟨fs, hok, hfs, hall⟩ := node_history_eq vm hlt hcreated now
  refine ⟨fs, hok, ?_⟩
  rw [clipped_iff hlt hcreated hsorted]
  constructor
  · intro hpartition e he
    have hend : (e.node, (e.till : ℤ)) ∈ ends (vm.entries since till) := mem_ends.mpr ⟨e, he, rfl⟩
    obtain ⟨s, hs, htill⟩ := segments.exists_of_mem (max since vm.created : ℕ) hend
    rw [← hfs] at hs
    obtain ⟨hlow, hle, hhigh⟩ := hpartition.tiles.within s hs
    simp only at htill
    omega
  · intro hwithin
    exact partition_of_within hlt hcreated hsorted hwithin hfs hall

/-- A VM that has been moved once. -/
def moved (till : ℕ) : Vm := ⟨10, some ⟨"uuid2", "node2"⟩, [⟨some "uuid1", some "node1", till⟩]⟩

theorem partition_iff_moved : ∃ fs, (moved 150).node_history 100 (some 200) 300 = .ok fs ∧
    (Partition (moved 150) 100 200 fs ↔ (moved 150).Clipped 100 200) :=
  partition_iff 300 (by decide) (by decide) (List.pairwise_singleton _ _)

/-- A VM was moved after the time in question: its frame ends there, not at the end of that time. -/
theorem not_partition_moved_later : ¬ ∀ (vm : Vm) (since till now : ℕ), since < till → vm.created < till →
    vm.info.Pairwise (fun a b => a.till ≤ b.till) →
      ∃ fs, vm.node_history since (some till) now = .ok fs ∧ Partition vm since till fs := by
  intro hall
  obtain ⟨fs, hok, hpartition⟩ :=
    hall (moved 250) 100 200 300 (by decide) (by decide) (List.pairwise_singleton _ _)
  have hhistory := node_history_eq (moved 250) (show 100 < 200 by decide) (show 10 < 200 by decide) 300
  obtain ⟨fs', hok', hfs, -⟩ := hhistory
  obtain rfl : fs = fs' := Except.ok.inj (hok.symm.trans hok')
  have hframe : ⟨(some "uuid1", some "node1"), 100, 250⟩ ∈ fs.map Frame.segment := by
    rw [hfs]
    exact List.mem_singleton_self _
  exact absurd (hpartition.tiles.within _ hframe).2.2 (by decide)

end node_history

section changes

/-- The changes of the node of a VM, each at its time. -/
def Vm.change_nodes (vm : Vm) (changes : List (Option Node × ℕ)) : Vm :=
  changes.foldl (fun vm change => vm.change_node change.1 change.2) vm

/-- The history is in order, and no older than the VM. -/
def Vm.Ordered (vm : Vm) (now : ℕ) : Prop :=
  vm.info.Pairwise (fun a b => a.till ≤ b.till) ∧ ∀ i ∈ vm.info, vm.created ≤ i.till ∧ i.till ≤ now

theorem ordered_change_node {vm : Vm} {now now' : ℕ} (hordered : vm.Ordered now) (hnow : vm.created ≤ now')
    (hle : now ≤ now') (node : Option Node) : (vm.change_node node now').Ordered now' := by
  obtain ⟨hsorted, hbetween⟩ := hordered
  have hbetween' : ∀ i ∈ vm.info, vm.created ≤ i.till ∧ i.till ≤ now' :=
    fun i hi => ⟨(hbetween i hi).1, (hbetween i hi).2.trans hle⟩
  unfold Vm.change_node Vm.update_node_history
  cases vm.node with
  | none => exact ⟨hsorted, hbetween'⟩
  | some orig_node =>
    constructor
    · refine List.pairwise_append.mpr ⟨hsorted, List.pairwise_singleton _ _, fun i hi e he => ?_⟩
      rw [List.mem_singleton.mp he]
      exact (hbetween' i hi).2
    · intro i hi
      rcases List.mem_append.mp hi with hi | hi
      · exact hbetween' i hi
      · rw [List.mem_singleton.mp hi]
        exact ⟨hnow, le_rfl⟩

theorem created_change_node (vm : Vm) (node : Option Node) (now : ℕ) :
    (vm.change_node node now).created = vm.created := by
  unfold Vm.change_node Vm.update_node_history
  cases vm.node <;> rfl

/-- The history of a VM whose node is changed as time goes on is in order. -/
theorem ordered_change_nodes {vm : Vm} (changes : List (Option Node × ℕ)) {now : ℕ} (hordered : vm.Ordered now)
    (hnow : vm.created ≤ now) (htimes : List.IsChain (· ≤ ·) (now :: changes.map Prod.snd)) :
    (vm.change_nodes changes).Ordered (changes.map Prod.snd |>.getLastD now) := by
  induction changes generalizing vm now with
  | nil => exact hordered
  | cons change changes ih =>
    rw [List.map_cons, List.isChain_cons_cons] at htimes
    rw [List.map_cons, List.getLastD_cons]
    apply ih
    · exact ordered_change_node hordered (hnow.trans htimes.1) htimes.1 change.1
    · rw [created_change_node]
      exact hnow.trans htimes.1
    · exact htimes.2

end changes

end vms.node_changes
