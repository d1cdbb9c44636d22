import Mathlib.Logic.Function.Basic
import Esdc.Lib.Transition

namespace interleave

/-- A program that works on a shared store by atomic operations. -/
inductive Program (Op : Type) (Resp : Op → Type) (α : Type)
  | done (value : α)
  | op (o : Op) (next : Resp o → Program Op Resp α)

variable {Op : Type} {Resp : Op → Type} {α β σ : Type}

namespace Program

def bind : Program Op Resp α → (α → Program Op Resp β) → Program Op Resp β
  | done value, f => f value
  | op o next, f => op o fun r => (next r).bind f

instance : Monad (Program Op Resp) where
  pure := done
  bind := bind

/-- The program on its own. -/
def run (exec : (o : Op) → σ → Resp o × σ) : Program Op Resp α → σ → α × σ
  | done value, s => (value, s)
  | op o next, s => (next (exec o s).1).run exec (exec o s).2

/-- Every operation that the program can come to satisfies the predicate. -/
def All (p : Op → Prop) : Program Op Resp α → Prop
  | done _ => True
  | op o next => p o ∧ ∀ r, (next r).All p

@[simp] theorem pure_eq (value : α) : (pure value : Program Op Resp α) = done value := rfl

@[simp] theorem done_bind (value : α) (f : α → Program Op Resp β) : (done value >>= f) = f value := rfl

@[simp] theorem op_bind (o : Op) (next : Resp o → Program Op Resp α) (f : α → Program Op Resp β) :
    (op o next >>= f) = op o fun r => next r >>= f := rfl

@[simp] theorem run_done (exec : (o : Op) → σ → Resp o × σ) (value : α) (s : σ) :
    (done value : Program Op Resp α).run exec s = (value, s) := rfl

@[simp] theorem run_op (exec : (o : Op) → σ → Resp o × σ) (o : Op) (next : Resp o → Program Op Resp α) (s : σ) :
    (op o next).run exec s = (next (exec o s).1).run exec (exec o s).2 := rfl

theorem run_bind (exec : (o : Op) → σ → Resp o × σ) (program : Program Op Resp α) (f : α → Program Op Resp β) (s : σ) :
    (program >>= f).run exec s = (f (program.run exec s).1).run exec (program.run exec s).2 := by
  induction program generalizing s with
  | done value => rfl
  | op o next ih => exact ih (exec o s).1 (exec o s).2

@[simp] theorem all_done (p : Op → Prop) (value : α) : (done value : Program Op Resp α).All p := trivial

@[simp] theorem all_op (p : Op → Prop) (o : Op) (next : Resp o → Program Op Resp α) :
    (op o next).All p ↔ p o ∧ ∀ r, (next r).All p := Iff.rfl

theorem All.bind {p : Op → Prop} {program : Program Op Resp α} {f : α → Program Op Resp β} (hprogram : program.All p)
    (hf : ∀ value, (f value).All p) : (program >>= f).All p := by
  induction program with
  | done value => exact hf value
  | op o next ih => exact ⟨hprogram.1, fun r => ih r (hprogram.2 r)⟩

/-- What every operation keeps, the program keeps on its own. -/
theorem All.run {p : Op → Prop} {Inv : σ → Prop} {exec : (o : Op) → σ → Resp o × σ} {program : Program Op Resp α}
    (hprogram : program.All p) (hkeeps : ∀ o s, p o → Inv s → Inv (exec o s).2) {s : σ} (hinv : Inv s) :
    Inv (program.run exec s).2 := by
  induction program generalizing s with
  | done value => exact hinv
  | op o next ih => exact ih _ (hprogram.2 _) (hkeeps o s hprogram.1 hinv)

end Program

/-- The store, and what is left of the calls that are under way. -/
structure System (Pid Op : Type) (Resp : Op → Type) (σ : Type) where
  store : σ
  calls : Pid → Option (Program Op Resp Unit)

/-- A call starts, or does its next operation. -/
inductive Event (Pid Call : Type)
  | start (pid : Pid) (call : Call)
  | run (pid : Pid)

variable {Pid Call : Type} [DecidableEq Pid]

def idle (store : σ) : System Pid Op Resp σ := ⟨store, fun _ => none⟩

def step (exec : (o : Op) → σ → Resp o × σ) (program : Call → Program Op Resp Unit) (s : System Pid Op Resp σ) :
    Event Pid Call → Option (System Pid Op Resp σ)
  | .start pid call =>
    match s.calls pid with
    | none => some { s with calls := Function.update s.calls pid (some (program call)) }
    | some _ => none
  | .run pid =>
    match s.calls pid with
    | none => none
    | some (.done _) => some { s with calls := Function.update s.calls pid none }
    | some (.op o next) =>
      some ⟨(exec o s.store).2, Function.update s.calls pid (some (next (exec o s.store).1))⟩

/-- A condition on the operation that is executed, in the store before it. -/
def Allowed (p : σ → Op → Prop) (s : System Pid Op Resp σ) : Event Pid Call → Prop
  | .start _ _ => True
  | .run pid => ∀ o next, s.calls pid = some (.op o next) → p s.store o

omit [DecidableEq Pid] in
theorem allowed_run {p : σ → Op → Prop} {s : System Pid Op Resp σ} {pid : Pid} {o : Op}
    {next : Resp o → Program Op Resp Unit} (hcall : s.calls pid = some (.op o next)) :
    Allowed p s (.run pid : Event Pid Call) ↔ p s.store o := by
  constructor
  · exact fun hallowed => hallowed o next hcall
  · intro ho o' next' hcall'
    rw [hcall] at hcall'
    cases hcall'
    exact ho

omit [DecidableEq Pid] in
theorem Allowed.of_run {p : σ → Op → Prop} {s : System Pid Op Resp σ} {pid : Pid} {o : Op}
    {next : Resp o → Program Op Resp Unit} (hcall : s.calls pid = some (.op o next)) (ho : p s.store o) :
    Allowed p s (.run pid : Event Pid Call) := (allowed_run hcall).mpr ho

section step

variable {exec : (o : Op) → σ → Resp o × σ} {program : Call → Program Op Resp Unit} {s u : System Pid Op Resp σ}
  {e : Event Pid Call}

/-- All that a step can do. -/
theorem step_cases (hstep : step exec program s e = some u) :
    (∃ pid call, e = .start pid call ∧ s.calls pid = none ∧
      u = { s with calls := Function.update s.calls pid (some (program call)) }) ∨
    (∃ pid value, e = .run pid ∧ s.calls pid = some (.done value) ∧
      u = { s with calls := Function.update s.calls pid none }) ∨
    ∃ pid o next, e = .run pid ∧ s.calls pid = some (.op o next) ∧
      u = ⟨(exec o s.store).2, Function.update s.calls pid (some (next (exec o s.store).1))⟩ := by
  cases e with
  | start pid call =>
    simp only [step] at hstep
    cases hcall : s.calls pid with
    | none =>
      rw [hcall] at hstep
      exact Or.inl ⟨pid, call, rfl, hcall, (Option.some.inj hstep).symm⟩
    | some _ =>
      rw [hcall] at hstep
      cases hstep
  | run pid =>
    simp only [step] at hstep
    match hcall : s.calls pid with
    | none =>
      rw [hcall] at hstep
      cases hstep
    | some (.done value) =>
      rw [hcall] at hstep
      exact Or.inr (Or.inl ⟨pid, value, rfl, hcall, (Option.some.inj hstep).symm⟩)
    | some (.op o next) =>
      rw [hcall] at hstep
      exact Or.inr (Or.inr ⟨pid, o, next, rfl, hcall, (Option.some.inj hstep).symm⟩)

/-- What holds of the store holds after a step exactly when the operation is allowed. -/
theorem holds_step_iff {P : σ → Prop} {p : σ → Op → Prop} (hstep : step exec program s e = some u) (hholds : P s.store)
    (hop : ∀ pid o next, s.calls pid = some (.op o next) → (P (exec o s.store).2 ↔ p s.store o)) :
    P u.store ↔ Allowed p s e := by
  rcases step_cases hstep with ⟨pid, call, rfl, -, rfl⟩ | ⟨pid, value, rfl, hcall, rfl⟩ | ⟨pid, o, next, rfl, hcall, rfl⟩
  · exact iff_of_true hholds trivial
  · refine iff_of_true hholds fun o next hnext => ?_
    rw [hcall] at hnext
    cases hnext
  · rw [allowed_run hcall]
    exact hop pid o next hcall

/-- Every operation that is still to come satisfies the predicate. -/
def Pending (p : Op → Prop) (s : System Pid Op Resp σ) : Prop := ∀ pid rest, s.calls pid = some rest → rest.All p

omit [DecidableEq Pid] in
theorem pending_idle (p : Op → Prop) (store : σ) : Pending p (idle store : System Pid Op Resp σ) := by
  intro _ _ hcall
  cases hcall

theorem Pending.step {p : Op → Prop} (hpending : Pending p s) (hprogram : ∀ call, (program call).All p)
    (hstep : step exec program s e = some u) : Pending p u := by
  have hothers : ∀ pid (rest : Option (Program Op Resp Unit)), (∀ next, rest = some next → next.All p) →
      ∀ pid' rest', Function.update s.calls pid rest pid' = some rest' → rest'.All p := by
    intro pid rest hrest pid' rest' hcall
    by_cases hpid : pid' = pid
    · rw [hpid, Function.update_self] at hcall
      exact hrest rest' hcall
    · rw [Function.update_of_ne hpid] at hcall
      exact hpending pid' rest' hcall
  rcases step_cases hstep with ⟨pid, call, -, -, rfl⟩ | ⟨pid, value, -, -, rfl⟩ | ⟨pid, o, next, -, hnext, rfl⟩
  · apply hothers pid
    rintro _ ⟨⟩
    exact hprogram call
  · apply hothers pid
    rintro _ ⟨⟩
  · apply hothers pid
    rintro _ ⟨⟩
    exact (hpending pid _ hnext).2 _

end step

end interleave
