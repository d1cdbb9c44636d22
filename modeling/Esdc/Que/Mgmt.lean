import Esdc.Lib.Faults

namespace que.mgmt

/-- `OPERATIONAL_ERRORS` and the other exceptions. -/
inductive Raised (E : Type)
  | operational
  | error (e : E)
  deriving DecidableEq

variable {S L E α : Type}

/-- A task with a failure of statement number `k` of its first execution; after
an operational error the task is executed again with the same arguments. -/
def MgmtCallbackTask (run : Procedure S L (Raised E) α) (k : Nat) (s : S) : Except (Raised E) α × S :=
  match run.attempt k s with
  | (.error .operational, s') => run.run s'
  | r => r

/-- The part of `MgmtCallbackTask` that follows the failure of one statement. -/
def retried (run : Procedure S L (Raised E) α) (point : Procedure.Point S L (Raised E) α) :
    Except (Raised E) α × S :=
  match point.failed.run point.state with
  | (.error .operational, s') => run.run s'
  | r => r

theorem MgmtCallbackTask_of_point {run : Procedure S L (Raised E) α} {k : Nat} {s : S}
    {point : Procedure.Point S L (Raised E) α} (hpoint : (run.points s)[k]? = some point) :
    MgmtCallbackTask run k s = retried run point := by
  rw [MgmtCallbackTask, Procedure.attempt_of_point hpoint]
  rfl

/-- A query whose failure is not handled. -/
def query (kind : L) (f : S → α) : Procedure S L (Raised E) α :=
  .statement kind id (fun s => .pure (f s)) (.throw .operational)

/-- A change of the database whose failure is not handled. -/
def execute (kind : L) (effect : S → S) : Procedure S L (Raised E) Unit :=
  .statement kind effect (fun _ => .pure ()) (.throw .operational)

def get : Procedure S L E S := .step id fun s => .pure s

def modify (effect : S → S) : Procedure S L E Unit := .step effect fun _ => .pure ()

def raise (e : E) : Procedure S L (Raised E) α := .throw (.error e)

@[simp] theorem run_query (kind : L) (f : S → α) (s : S) :
    (query kind f : Procedure S L (Raised E) α).run s = (.ok (f s), s) := rfl

@[simp] theorem points_query (kind : L) (f : S → α) (s : S) :
    (query kind f : Procedure S L (Raised E) α).points s = [⟨kind, .throw .operational, s⟩] := rfl

@[simp] theorem run_execute (kind : L) (effect : S → S) (s : S) :
    (execute kind effect : Procedure S L (Raised E) Unit).run s = (.ok (), effect s) := rfl

@[simp] theorem points_execute (kind : L) (effect : S → S) (s : S) :
    (execute kind effect : Procedure S L (Raised E) Unit).points s = [⟨kind, .throw .operational, s⟩] := rfl

@[simp] theorem run_get (s : S) : (get : Procedure S L E S).run s = (.ok s, s) := rfl

@[simp] theorem points_get (s : S) : (get : Procedure S L E S).points s = [] := rfl

@[simp] theorem run_modify (effect : S → S) (s : S) :
    (modify effect : Procedure S L E Unit).run s = (.ok (), effect s) := rfl

@[simp] theorem points_modify (effect : S → S) (s : S) :
    (modify effect : Procedure S L E Unit).points s = [] := rfl

@[simp] theorem run_raise (e : E) (s : S) :
    (raise e : Procedure S L (Raised E) α).run s = (.error (.error e), s) := rfl

@[simp] theorem points_raise (e : E) (s : S) :
    (raise e : Procedure S L (Raised E) α).points s = [] := rfl

section rules

open Procedure

variable {I : S → Prop} {K : L → Prop}

theorem exposed_raise (e : E) : Exposed .operational I K (raise e : Procedure S L (Raised E) α) := by
  refine ⟨fun s hs => hs, fun s _ point hpoint => ?_⟩
  cases hpoint

theorem exposed_get : Exposed .operational I K (get : Procedure S L (Raised E) S) := by
  refine ⟨fun s hs => hs, fun s _ point hpoint => ?_⟩
  cases hpoint

theorem exposed_modify {effect : S → S} (heffect : ∀ s, I s → I (effect s)) :
    Exposed .operational I K (modify effect : Procedure S L (Raised E) Unit) := by
  refine ⟨heffect, fun s _ point hpoint => ?_⟩
  cases hpoint

theorem exposed_query {kind : L} (hkind : K kind) (f : S → α) :
    Exposed .operational I K (query kind f : Procedure S L (Raised E) α) := by
  refine ⟨fun s hs => hs, fun s hs point hpoint => ?_⟩
  rw [points_query, List.mem_singleton] at hpoint
  subst hpoint
  exact ⟨hkind, hs, fun _ => rfl⟩

theorem exposed_execute {kind : L} (hkind : K kind) {effect : S → S} (heffect : ∀ s, I s → I (effect s)) :
    Exposed .operational I K (execute kind effect : Procedure S L (Raised E) Unit) := by
  refine ⟨heffect, fun s hs point hpoint => ?_⟩
  rw [points_execute, List.mem_singleton] at hpoint
  subst hpoint
  exact ⟨hkind, hs, fun _ => rfl⟩

theorem raises_query {R : Raised E → Prop} (kind : L) (f : S → α) :
    Raises R (query kind f : Procedure S L (Raised E) α) := by
  intro s e he
  cases he

theorem raises_execute {R : Raised E → Prop} (kind : L) (effect : S → S) :
    Raises R (execute kind effect : Procedure S L (Raised E) Unit) := by
  intro s e he
  cases he

theorem raises_get {R : Raised E → Prop} : Raises R (get : Procedure S L (Raised E) S) := by
  intro s e he
  cases he

theorem raises_modify {R : Raised E → Prop} (effect : S → S) :
    Raises R (modify effect : Procedure S L (Raised E) Unit) := by
  intro s e he
  cases he

theorem raises_raise {R : Raised E → Prop} {e : E} (he : R (.error e)) :
    Raises R (raise e : Procedure S L (Raised E) α) := by
  intro s e' h
  cases h
  exact he

end rules

end que.mgmt
