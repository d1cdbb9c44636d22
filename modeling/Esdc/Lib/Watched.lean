import Mathlib.Data.List.Basic
import Esdc.Lib.Interleave

namespace interleave

variable {Pid Op Call σ α K : Type} {Resp : Op → Type}

/-- Every operation satisfies the predicate, given what the program has learned before it. -/
def Program.Knows (learn : (o : Op) → Resp o → K → K) (p : K → Op → Prop) : Program Op Resp α → K → Prop
  | .done _, _ => True
  | .op o next, k => p k o ∧ ∀ r, (next r).Knows learn p (learn o r k)

theorem Program.Knows.bind {β : Type} {learn : (o : Op) → Resp o → K → K} {p : K → Op → Prop}
    {program : Program Op Resp α} {f : α → Program Op Resp β} {k : K} (hprogram : program.Knows learn p k)
    (hf : ∀ value k, (f value).Knows learn p k) : (program >>= f).Knows learn p k := by
  induction program generalizing k with
  | done value => exact hf value k
  | op o next ih => exact ⟨hprogram.1, fun r => ih r (hprogram.2 r)⟩

/-- Where the operations keep what is needed of the knowledge. -/
theorem Program.All.knows {learn : (o : Op) → Resp o → K → K} {p : K → Op → Prop} {q : Op → Prop} {I : K → Prop}
    {program : Program Op Resp α} (hprogram : program.All q) (hp : ∀ o k, q o → I k → p k o)
    (hlearn : ∀ o r k, q o → I k → I (learn o r k)) {k : K} (hk : I k) : program.Knows learn p k := by
  induction program generalizing k with
  | done value => trivial
  | op o next ih =>
    exact ⟨hp o k hprogram.1 hk, fun r => ih r (hprogram.2 r) (hlearn o r k hprogram.1 hk)⟩

/-- What a call knows when it starts and what it learns from an answer, and the
operations by which it looks at the store. -/
structure Watch (Op : Type) (Resp : Op → Type) (Call K : Type) where
  init : K
  start : Call → K
  learn : (o : Op) → Resp o → K → K
  looks : Op → Bool

/-- A system with its past, the newest store first. For each process there is what
its call has learned, and the stores since it has started or looked last. -/
structure Watched (Pid Op : Type) (Resp : Op → Type) (σ K : Type) where
  system : System Pid Op Resp σ
  past : List σ
  known : Pid → K
  since : Pid → List σ

namespace Watch

variable {watch : Watch Op Resp Call K}

def idle (watch : Watch Op Resp Call K) (store : σ) : Watched Pid Op Resp σ K where
  system := interleave.idle store
  past := [store]
  known := fun _ => watch.init
  since := fun _ => [store]

variable [DecidableEq Pid]

def step (watch : Watch Op Resp Call K) (exec : (o : Op) → σ → Resp o × σ) (program : Call → Program Op Resp Unit)
    (w : Watched Pid Op Resp σ K) : Event Pid Call → Option (Watched Pid Op Resp σ K)
  | .start pid call => (interleave.step exec program w.system (.start pid call)).map fun u =>
    { w with
      system := u
      known := Function.update w.known pid (watch.start call)
      since := Function.update w.since pid [u.store] }
  | .run pid => (interleave.step exec program w.system (.run pid)).map fun u =>
    match w.system.calls pid with
    | some (.op o _) =>
      { system := u
        past := u.store :: w.past
        known := Function.update w.known pid (watch.learn o (exec o w.system.store).1 (w.known pid))
        since := fun pid' => if pid' = pid ∧ watch.looks o = true then [u.store] else u.store :: w.since pid' }
    | _ => { w with system := u }

variable {exec : (o : Op) → σ → Resp o × σ} {program : Call → Program Op Resp Unit}
  {w w' : Watched Pid Op Resp σ K} {e : Event Pid Call}

/-- The past does not change what can happen. -/
theorem step_system (w : Watched Pid Op Resp σ K) (e : Event Pid Call) :
    (watch.step exec program w e).map Watched.system = interleave.step exec program w.system e := by
  cases e with
  | start pid call =>
    rw [step, Option.map_map]
    exact Option.map_id'
  | run pid =>
    rw [step, Option.map_map]
    rw [show (Watched.system ∘ _ : System Pid Op Resp σ → System Pid Op Resp σ) = fun u => u from ?_]
    · exact Option.map_id'
    · funext u
      rw [Function.comp_apply]
      split <;> rfl

theorem exists_step {u : System Pid Op Resp σ} (hstep : interleave.step exec program w.system e = some u) :
    ∃ w', watch.step exec program w e = some w' ∧ w'.system = u := by
  have hsystem : (watch.step exec program w e).map Watched.system = interleave.step exec program w.system e :=
    step_system w e
  rw [← hsystem, Option.map_eq_some_iff] at hstep
  exact hstep

/-- All that a step can do. -/
theorem step_cases (hstep : watch.step exec program w e = some w') :
    (∃ pid call, e = .start pid call ∧ w.system.calls pid = none ∧
      w' = { w with
        system := { w.system with calls := Function.update w.system.calls pid (some (program call)) }
        known := Function.update w.known pid (watch.start call)
        since := Function.update w.since pid [w.system.store] }) ∨
    (∃ pid value, e = .run pid ∧ w.system.calls pid = some (.done value) ∧
      w' = { w with system := { w.system with calls := Function.update w.system.calls pid none } }) ∨
    ∃ pid o next, e = .run pid ∧ w.system.calls pid = some (.op o next) ∧
      w' =
        { system :=
            ⟨(exec o w.system.store).2, Function.update w.system.calls pid (some (next (exec o w.system.store).1))⟩
          past := (exec o w.system.store).2 :: w.past
          known := Function.update w.known pid (watch.learn o (exec o w.system.store).1 (w.known pid))
          since := fun pid' =>
            if pid' = pid ∧ watch.looks o = true then [(exec o w.system.store).2]
            else (exec o w.system.store).2 :: w.since pid' } := by
  cases e with
  | start pid call =>
    obtain ⟨u, hu, rfl⟩ := Option.map_eq_some_iff.mp hstep
    rcases interleave.step_cases hu with ⟨_, _, h, hcall, rfl⟩ | ⟨_, _, h, _⟩ | ⟨_, _, _, h, _⟩
    · cases h
      exact .inl ⟨pid, call, rfl, hcall, rfl⟩
    · cases h
    · cases h
  | run pid =>
    obtain ⟨u, hu, rfl⟩ := Option.map_eq_some_iff.mp hstep
    rcases interleave.step_cases hu with ⟨_, _, h, _⟩ | ⟨_, value, h, hcall, rfl⟩ | ⟨_, o, next, h, hcall, rfl⟩
    · cases h
    · cases h
      exact .inr (.inl ⟨pid, value, rfl, hcall, by simp only [hcall]⟩)
    · cases h
      exact .inr (.inr ⟨pid, o, next, rfl, hcall, by simp only [hcall]⟩)

end Watch

namespace Watched

section informed

variable {watch : Watch Op Resp Call K} {exec : (o : Op) → σ → Resp o × σ}
  {program : Call → Program Op Resp Unit} {w w' : Watched Pid Op Resp σ K} {e : Event Pid Call}

/-- Whatever is still to come of the calls satisfies the predicate with what they have learned. -/
def Informed (w : Watched Pid Op Resp σ K) (watch : Watch Op Resp Call K) (p : K → Op → Prop) : Prop :=
  ∀ pid rest, w.system.calls pid = some rest → rest.Knows watch.learn p (w.known pid)

theorem informed_idle (p : K → Op → Prop) (store : σ) :
    Informed (watch.idle store : Watched Pid Op Resp σ K) watch p := by
  intro _ _ hcall
  cases hcall

variable [DecidableEq Pid]

theorem Informed.step {p : K → Op → Prop} (hinformed : w.Informed watch p)
    (hprogram : ∀ call, (program call).Knows watch.learn p (watch.start call))
    (hstep : watch.step exec program w e = some w') : w'.Informed watch p := by
  rcases Watch.step_cases hstep with ⟨pid, call, -, -, rfl⟩ | ⟨pid, value, -, -, rfl⟩ | ⟨pid, o, next, -, hcall, rfl⟩
  · intro pid' rest hrest
    by_cases hpid : pid' = pid
    · subst hpid
      simp only [Function.update_self] at hrest ⊢
      cases hrest
      exact hprogram call
    · simp only [Function.update_of_ne hpid] at hrest ⊢
      exact hinformed pid' rest hrest
  · intro pid' rest hrest
    by_cases hpid : pid' = pid
    · subst hpid
      simp only [Function.update_self] at hrest
      cases hrest
    · simp only [Function.update_of_ne hpid] at hrest
      exact hinformed pid' rest hrest
  · intro pid' rest hrest
    by_cases hpid : pid' = pid
    · subst hpid
      simp only [Function.update_self] at hrest ⊢
      cases hrest
      exact (hinformed pid' _ hcall).2 _
    · simp only [Function.update_of_ne hpid] at hrest ⊢
      exact hinformed pid' rest hrest

end informed

section followed

/-- The past ends with the store, and what is kept for a process is a part of it that does. -/
structure Followed (w : Watched Pid Op Resp σ K) : Prop where
  past : w.system.store ∈ w.past
  current : ∀ pid, ∃ rest, w.since pid = w.system.store :: rest
  since : ∀ pid, w.since pid ⊆ w.past

variable {watch : Watch Op Resp Call K} {exec : (o : Op) → σ → Resp o × σ}
  {program : Call → Program Op Resp Unit} {w w' : Watched Pid Op Resp σ K} {e : Event Pid Call}

theorem followed_idle (store : σ) : (watch.idle store : Watched Pid Op Resp σ K).Followed where
  past := List.mem_singleton_self store
  current := fun _ => ⟨[], rfl⟩
  since := fun _ => List.Subset.refl _

theorem Followed.step [DecidableEq Pid] (hfollowed : w.Followed) (hstep : watch.step exec program w e = some w') :
    w'.Followed := by
  rcases Watch.step_cases hstep with ⟨pid, call, -, -, rfl⟩ | ⟨pid, value, -, -, rfl⟩ | ⟨pid, o, next, -, hcall, rfl⟩
  · refine ⟨hfollowed.past, fun pid' => ?_, fun pid' => ?_⟩
    · by_cases hpid : pid' = pid
      · rw [hpid]
        exact ⟨[], Function.update_self _ _ _⟩
      · obtain ⟨rest, hrest⟩ := hfollowed.current pid'
        exact ⟨rest, (Function.update_of_ne hpid _ _).trans hrest⟩
    · by_cases hpid : pid' = pid
      · simp only [hpid, Function.update_self]
        exact List.cons_subset.mpr ⟨hfollowed.past, List.nil_subset _⟩
      · simp only [Function.update_of_ne hpid]
        exact hfollowed.since pid'
  · exact ⟨hfollowed.past, hfollowed.current, hfollowed.since⟩
  · refine ⟨List.mem_cons_self, fun pid' => ?_, fun pid' => ?_⟩
    · dsimp only
      split
      · exact ⟨[], rfl⟩
      · exact ⟨_, rfl⟩
    · dsimp only
      split
      · exact List.cons_subset.mpr ⟨List.mem_cons_self, List.nil_subset _⟩
      · exact List.cons_subset_cons _ (hfollowed.since pid')

end followed

end Watched

end interleave
