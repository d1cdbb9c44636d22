import Mathlib

/-! A range of time that is cut at given ends. -/

namespace segments

variable {β : Type*}

structure Segment (β : Type*) where
  label : β
  since : ℤ
  till : ℤ

/-- Each part begins where the one before it ends. -/
def cut (low : ℤ) : List (β × ℤ) → List (Segment β)
  | [] => []
  | (label, till) :: ends => ⟨label, low, till⟩ :: cut till ends

def Segment.duration (segment : Segment β) : ℤ := segment.till - segment.since

/-- Where the last part ends. -/
def stop (low : ℤ) (ends : List (β × ℤ)) : ℤ := (ends.map Prod.snd).getLastD low

/-- The parts are in order, lie inside of the range and cover it. -/
structure Tiles (low high : ℤ) (segments : List (Segment β)) : Prop where
  ordered : segments.Pairwise fun a b => a.till ≤ b.since
  within : ∀ s ∈ segments, low ≤ s.since ∧ s.since ≤ s.till ∧ s.till ≤ high
  covered : ∀ t, low ≤ t → t < high → ∃ s ∈ segments, s.since ≤ t ∧ t < s.till

/-- No end comes before the one in front of it. -/
def Ascending (low : ℤ) : List (β × ℤ) → Prop
  | [] => True
  | e :: ends => low ≤ e.2 ∧ Ascending e.2 ends

theorem stop_cons (low : ℤ) (e : β × ℤ) (ends : List (β × ℤ)) : stop low (e :: ends) = stop e.2 ends := by
  rw [stop, stop, List.map_cons, List.getLastD_cons]

theorem le_stop {low : ℤ} {ends : List (β × ℤ)} (hends : Ascending low ends) : low ≤ stop low ends := by
  induction ends generalizing low with
  | nil => exact le_rfl
  | cons e ends ih =>
    rw [stop_cons]
    exact hends.1.trans (ih hends.2)

theorem within_cut {low : ℤ} {ends : List (β × ℤ)} (hends : Ascending low ends) :
    ∀ s ∈ cut low ends, low ≤ s.since ∧ s.since ≤ s.till ∧ s.till ≤ stop low ends := by
  induction ends generalizing low with
  | nil => nofun
  | cons e ends ih =>
    intro s hs
    rw [stop_cons]
    rcases List.mem_cons.mp hs with rfl | hs
    · exact ⟨le_rfl, hends.1, le_stop hends.2⟩
    · obtain ⟨hsince, hle, hstop⟩ := ih hends.2 s hs
      exact ⟨hends.1.trans hsince, hle, hstop⟩

/-- A range that is cut at ascending ends is tiled by its parts. -/
theorem tiles_cut {low : ℤ} {ends : List (β × ℤ)} (hends : Ascending low ends) :
    Tiles low (stop low ends) (cut low ends) := by
  induction ends generalizing low with
  | nil => exact ⟨List.Pairwise.nil, nofun, fun t hlow hhigh => absurd hhigh (not_lt.mpr hlow)⟩
  | cons e ends ih =>
    obtain ⟨hordered, -, hcovered⟩ := ih hends.2
    refine ⟨?_, within_cut hends, ?_⟩
    · exact List.Pairwise.cons (fun s hs => (within_cut hends.2 s hs).1) hordered
    · intro t hlow hhigh
      by_cases hfirst : t < e.2
      · exact ⟨_, List.mem_cons_self, hlow, hfirst⟩
      · rw [stop_cons] at hhigh
        obtain ⟨s, hs, hin⟩ := hcovered t (not_lt.mp hfirst) hhigh
        exact ⟨s, List.mem_cons_of_mem _ hs, hin⟩

/-- The parts are as long as the whole. -/
theorem sum_duration_cut (low : ℤ) (ends : List (β × ℤ)) :
    ((cut low ends).map Segment.duration).sum = stop low ends - low := by
  induction ends generalizing low with
  | nil => exact (sub_self low).symm
  | cons e ends ih =>
    rw [cut, List.map_cons, List.sum_cons, ih, stop_cons]
    change e.2 - low + (stop e.2 ends - e.2) = stop e.2 ends - low
    omega

/-- Every end is the end of a part. -/
theorem exists_of_mem (low : ℤ) {ends : List (β × ℤ)} {e : β × ℤ} (he : e ∈ ends) :
    ∃ s ∈ cut low ends, s.till = e.2 := by
  induction ends generalizing low with
  | nil => cases he
  | cons e' ends ih =>
    rcases List.mem_cons.mp he with rfl | he
    · exact ⟨_, List.mem_cons_self, rfl⟩
    · obtain ⟨s, hs, htill⟩ := ih e'.2 he
      exact ⟨s, List.mem_cons_of_mem _ hs, htill⟩

theorem ascending_iff {low : ℤ} {ends : List (β × ℤ)} (hsorted : ends.Pairwise fun a b => a.2 ≤ b.2) :
    Ascending low ends ↔ ∀ e ∈ ends, low ≤ e.2 := by
  induction ends generalizing low with
  | nil => exact ⟨fun _ => nofun, fun _ => trivial⟩
  | cons e ends ih =>
    obtain ⟨hfirst, hsorted⟩ := List.pairwise_cons.mp hsorted
    rw [Ascending, ih hsorted, List.forall_mem_cons]
    exact ⟨fun h => ⟨h.1, fun e' he' => h.1.trans (hfirst e' he')⟩, fun h => ⟨h.1, hfirst⟩⟩

end segments
