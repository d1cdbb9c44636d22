/-- A procedure over a state of type `S`. A statement of the kind `L` either has
its effect or fails, and then the procedure goes on with what it has for that. -/
inductive Procedure (S L E : Type) (α : Type) : Type
  | pure (a : α)
  | throw (e : E)
  | step (effect : S → S) (next : S → Procedure S L E α)
  | statement (kind : L) (effect : S → S) (next : S → Procedure S L E α) (failed : Procedure S L E α)

namespace Procedure

variable {S L E α β : Type}

def bind : Procedure S L E α → (α → Procedure S L E β) → Procedure S L E β
  | pure a, k => k a
  | throw e, _ => throw e
  | step effect next, k => step effect fun s => (next s).bind k
  | statement kind effect next failed, k =>
    statement kind effect (fun s => (next s).bind k) (failed.bind k)

/-- `try`/`except`; a failed statement inside is handled as any other error. -/
def handle : Procedure S L E α → (E → Procedure S L E α) → Procedure S L E α
  | pure a, _ => pure a
  | throw e, h => h e
  | step effect next, h => step effect fun s => (next s).handle h
  | statement kind effect next failed, h =>
    statement kind effect (fun s => (next s).handle h) (failed.handle h)

instance : Monad (Procedure S L E) where
  pure := pure
  bind := bind

/-- The run in which no statement fails. -/
def run : Procedure S L E α → S → Except E α × S
  | pure a, s => (.ok a, s)
  | throw e, s => (.error e, s)
  | step effect next, s => (next (effect s)).run (effect s)
  | statement _ effect next _, s => (next (effect s)).run (effect s)

/-- The run in which statement number `k` fails. -/
def attempt : Nat → Procedure S L E α → S → Except E α × S
  | _, pure a, s => (.ok a, s)
  | _, throw e, s => (.error e, s)
  | k, step effect next, s => (next (effect s)).attempt k (effect s)
  | 0, statement _ _ _ failed, s => failed.run s
  | k + 1, statement _ effect next _, s => (next (effect s)).attempt k (effect s)

/-- A place where a run can fail, with the state there. -/
structure Point (S L E α : Type) where
  kind : L
  failed : Procedure S L E α
  state : S

/-- The statements of a run, in their order. -/
def points : Procedure S L E α → S → List (Point S L E α)
  | pure _, _ => []
  | throw _, _ => []
  | step effect next, s => (next (effect s)).points (effect s)
  | statement kind effect next failed, s =>
    ⟨kind, failed, s⟩ :: (next (effect s)).points (effect s)

theorem attempt_of_point {p : Procedure S L E α} {s : S} {k : Nat} {point : Point S L E α}
    (hpoint : (p.points s)[k]? = some point) : p.attempt k s = point.failed.run point.state := by
  induction p generalizing s k with
  | pure a => cases hpoint
  | throw e => cases hpoint
  | step effect next ih =>
    rw [attempt]
    exact ih (effect s) hpoint
  | statement kind effect next failed ih =>
    cases k with
    | zero =>
      cases hpoint
      rfl
    | succ k =>
      rw [attempt]
      exact ih (effect s) (by simpa [points] using hpoint)

@[simp] theorem run_pure (a : α) (s : S) : (Pure.pure a : Procedure S L E α).run s = (.ok a, s) := rfl

@[simp] theorem run_throw (e : E) (s : S) : (throw e : Procedure S L E α).run s = (.error e, s) := rfl

@[simp] theorem points_pure (a : α) (s : S) : (Pure.pure a : Procedure S L E α).points s = [] := rfl

@[simp] theorem points_throw (e : E) (s : S) : (throw e : Procedure S L E α).points s = [] := rfl

theorem pure_bind (a : α) (k : α → Procedure S L E β) : (Pure.pure a >>= k) = k a := rfl

theorem bind_assoc {γ : Type} (p : Procedure S L E α) (k : α → Procedure S L E β) (l : β → Procedure S L E γ) :
    (p >>= k) >>= l = p >>= fun a => k a >>= l := by
  change (p.bind k).bind l = p.bind fun a => (k a).bind l
  induction p with
  | pure a => rfl
  | throw e => rfl
  | step effect next ih => simp only [bind, ih]
  | statement kind effect next failed ih ihfailed => simp only [bind, ih, ihfailed]

theorem run_bind (p : Procedure S L E α) (k : α → Procedure S L E β) (s : S) :
    (p >>= k).run s = match p.run s with
      | (.ok a, s') => (k a).run s'
      | (.error e, s') => (.error e, s') := by
  change (p.bind k).run s = _
  induction p generalizing s with
  | pure a => rfl
  | throw e => rfl
  | step effect next ih => exact ih _ _
  | statement kind effect next failed ih => exact ih _ _

theorem run_bind_of_ok {p : Procedure S L E α} {k : α → Procedure S L E β} {s s' : S} {a : α}
    (hp : p.run s = (.ok a, s')) : (p >>= k).run s = (k a).run s' := by
  rw [run_bind, hp]

theorem run_bind_of_error {p : Procedure S L E α} {k : α → Procedure S L E β} {s s' : S} {e : E}
    (hp : p.run s = (.error e, s')) : (p >>= k).run s = (.error e, s') := by
  rw [run_bind, hp]

theorem points_bind (p : Procedure S L E α) (k : α → Procedure S L E β) (s : S) :
    (p >>= k).points s = ((p.points s).map fun point =>
        (⟨point.kind, point.failed >>= k, point.state⟩ : Point S L E β)) ++
      match p.run s with
      | (.ok a, s') => (k a).points s'
      | (.error _, _) => [] := by
  change (p.bind k).points s = _
  induction p generalizing s with
  | pure a => rfl
  | throw e => rfl
  | step effect next ih => exact ih _ _
  | statement kind effect next failed ih => exact congrArg _ (ih _ _)

theorem mem_points_bind {p : Procedure S L E α} {k : α → Procedure S L E β} {s : S}
    {point : Point S L E β} :
    point ∈ (p >>= k).points s ↔
      (∃ first ∈ p.points s, ⟨first.kind, first.failed >>= k, first.state⟩ = point) ∨
        ∃ a s', p.run s = (.ok a, s') ∧ point ∈ (k a).points s' := by
  rw [points_bind, List.mem_append, List.mem_map]
  apply or_congr Iff.rfl
  rcases hrun : p.run s with ⟨e | a, s'⟩
  · simp
  · constructor
    · intro hpoint
      exact ⟨a, s', rfl, hpoint⟩
    · rintro ⟨a', s'', hok, hpoint⟩
      cases hok
      exact hpoint

theorem run_handle (p : Procedure S L E α) (h : E → Procedure S L E α) (s : S) :
    (p.handle h).run s = match p.run s with
      | (.ok a, s') => (.ok a, s')
      | (.error e, s') => (h e).run s' := by
  induction p generalizing s with
  | pure a => rfl
  | throw e => rfl
  | step effect next ih => exact ih _ _
  | statement kind effect next failed ih => exact ih _ _

theorem points_handle (p : Procedure S L E α) (h : E → Procedure S L E α) (s : S) :
    (p.handle h).points s = ((p.points s).map fun point =>
        (⟨point.kind, point.failed.handle h, point.state⟩ : Point S L E α)) ++
      match p.run s with
      | (.ok _, _) => []
      | (.error e, s') => (h e).points s' := by
  induction p generalizing s with
  | pure a => rfl
  | throw e => simp [handle, points, run]
  | step effect next ih => exact ih _ _
  | statement kind effect next failed ih => exact congrArg _ (ih _ _)

theorem mem_points_handle {p : Procedure S L E α} {h : E → Procedure S L E α} {s : S}
    {point : Point S L E α} :
    point ∈ (p.handle h).points s ↔
      (∃ first ∈ p.points s, ⟨first.kind, first.failed.handle h, first.state⟩ = point) ∨
        ∃ e s', p.run s = (.error e, s') ∧ point ∈ (h e).points s' := by
  rw [points_handle, List.mem_append, List.mem_map]
  apply or_congr Iff.rfl
  rcases hrun : p.run s with ⟨e | a, s'⟩
  · constructor
    · intro hpoint
      exact ⟨e, s', rfl, hpoint⟩
    · rintro ⟨e', s'', herror, hpoint⟩
      cases herror
      exact hpoint
  · simp

/-- The run in which the statements of some kinds fail. -/
def under (fails : L → Bool) : Procedure S L E α → S → Except E α × S
  | pure a, s => (.ok a, s)
  | throw e, s => (.error e, s)
  | step effect next, s => (next (effect s)).under fails (effect s)
  | statement kind effect next failed, s =>
    if fails kind then failed.under fails s else (next (effect s)).under fails (effect s)

section under

variable {fails : L → Bool}

@[simp] theorem under_pure (a : α) (s : S) : (Pure.pure a : Procedure S L E α).under fails s = (.ok a, s) := rfl

@[simp] theorem under_throw (e : E) (s : S) : (throw e : Procedure S L E α).under fails s = (.error e, s) := rfl

theorem under_bind (p : Procedure S L E α) (k : α → Procedure S L E β) (s : S) :
    (p >>= k).under fails s = match p.under fails s with
      | (.ok a, s') => (k a).under fails s'
      | (.error e, s') => (.error e, s') := by
  change (p.bind k).under fails s = _
  induction p generalizing s with
  | pure a => rfl
  | throw e => rfl
  | step effect next ih => exact ih _ _
  | statement kind effect next failed ih ihfailed =>
    simp only [bind, under]
    cases fails kind with
    | false => exact ih _ _
    | true => exact ihfailed _

theorem under_bind_of_ok {p : Procedure S L E α} {k : α → Procedure S L E β} {s s' : S} {a : α}
    (hp : p.under fails s = (.ok a, s')) : (p >>= k).under fails s = (k a).under fails s' := by
  rw [under_bind, hp]

theorem under_bind_of_error {p : Procedure S L E α} {k : α → Procedure S L E β} {s s' : S} {e : E}
    (hp : p.under fails s = (.error e, s')) : (p >>= k).under fails s = (.error e, s') := by
  rw [under_bind, hp]

theorem under_handle (p : Procedure S L E α) (h : E → Procedure S L E α) (s : S) :
    (p.handle h).under fails s = match p.under fails s with
      | (.ok a, s') => (.ok a, s')
      | (.error e, s') => (h e).under fails s' := by
  induction p generalizing s with
  | pure a => rfl
  | throw e => rfl
  | step effect next ih => exact ih _ _
  | statement kind effect next failed ih ihfailed =>
    simp only [handle, under]
    cases fails kind with
    | false => exact ih _ _
    | true => exact ihfailed _

end under

/-- The state. -/
def state : Procedure S L E S := step id pure

def assign (effect : S → S) : Procedure S L E Unit := step effect fun _ => pure ()

/-- A statement that may also be refused, and whether it has succeeded. -/
def command (kind : L) (effect : S → Option S) : Procedure S L E Bool :=
  step id fun s => match effect s with
    | some s' => statement kind (fun _ => s') (fun _ => pure true) (pure false)
    | none => statement kind id (fun _ => pure false) (pure false)

/-- A statement whose failure is an error. -/
def checked (kind : L) (effect : S → Option S) (e : E) : Procedure S L E Unit := do
  if ← command kind effect then Pure.pure () else throw e

/-- A statement that reads the state. -/
def query (kind : L) (f : S → Option α) (e : E) : Procedure S L E α :=
  step id fun s => statement kind id
    (fun _ => match f s with
      | some a => pure a
      | none => throw e)
    (throw e)

section commands

variable {fails : L → Bool}

@[simp] theorem under_state (s : S) : (state : Procedure S L E S).under fails s = (.ok s, s) := rfl

@[simp] theorem under_assign (effect : S → S) (s : S) :
    (assign effect : Procedure S L E Unit).under fails s = (.ok (), effect s) := rfl

theorem under_command (kind : L) (effect : S → Option S) (s : S) :
    (command kind effect : Procedure S L E Bool).under fails s =
      if fails kind then (.ok false, s) else (.ok (effect s).isSome, (effect s).getD s) := by
  simp only [command, under, id_eq]
  cases effect s <;> cases hfails : fails kind <;> simp [under, hfails]

theorem under_command_cases (fails : L → Bool) (kind : L) (effect : S → Option S) (s : S) :
    (∃ s', effect s = some s' ∧ fails kind = false ∧
        (command kind effect : Procedure S L E Bool).under fails s = (.ok true, s')) ∨
      ((effect s = none ∨ fails kind = true) ∧
        (command kind effect : Procedure S L E Bool).under fails s = (.ok false, s)) := by
  rw [under_command]
  cases hfails : fails kind with
  | true => exact .inr ⟨.inr rfl, rfl⟩
  | false =>
    cases heffect : effect s with
    | none => exact .inr ⟨.inl rfl, rfl⟩
    | some s' => exact .inl ⟨s', rfl, rfl, rfl⟩

theorem under_checked (kind : L) (effect : S → Option S) (e : E) (s : S) :
    (checked kind effect e).under fails s =
      if fails kind then (.error e, s) else
        match effect s with
        | some s' => (.ok (), s')
        | none => (.error e, s) := by
  rw [checked, under_bind, under_command]
  cases fails kind <;> cases effect s <;> rfl

theorem under_query (kind : L) (f : S → Option α) (e : E) (s : S) :
    (query kind f e).under fails s =
      if fails kind then (.error e, s) else
        match f s with
        | some a => (.ok a, s)
        | none => (.error e, s) := by
  simp only [query, under, id_eq]
  cases hfails : fails kind <;> cases f s <;> simp [under]

end commands

/-- The errors of a run without a failure satisfy `R`. -/
def Raises (R : E → Prop) (p : Procedure S L E α) : Prop := ∀ s e, (p.run s).1 = .error e → R e

theorem Raises.pure (R : E → Prop) (a : α) : Raises R (Pure.pure a : Procedure S L E α) := by
  intro s e he
  cases he

theorem Raises.bind {R : E → Prop} {p : Procedure S L E α} {k : α → Procedure S L E β} (hp : Raises R p)
    (hk : ∀ a, Raises R (k a)) : Raises R (p >>= k) := by
  intro s e he
  rw [run_bind] at he
  cases hrun : p.run s with
  | mk outcome s' =>
    rw [hrun] at he
    cases outcome with
    | ok a => exact hk a s' e he
    | error e' =>
      cases he
      exact hp s e (by rw [hrun])

/-- A run without a failure keeps the invariant. -/
def Keeps (I : S → Prop) (p : Procedure S L E α) : Prop := ∀ s, I s → I (p.run s).2

theorem Keeps.pure (I : S → Prop) (a : α) : Keeps I (Pure.pure a : Procedure S L E α) := fun _ hs => hs

theorem Keeps.bind {I : S → Prop} {p : Procedure S L E α} {k : α → Procedure S L E β} (hp : Keeps I p)
    (hk : ∀ a, Keeps I (k a)) : Keeps I (p >>= k) := by
  intro s hs
  have hkeeps := hp s hs
  rcases hrun : p.run s with ⟨e | a, s'⟩
  · rw [run_bind_of_error hrun]
    rw [hrun] at hkeeps
    exact hkeeps
  · rw [run_bind_of_ok hrun]
    rw [hrun] at hkeeps
    exact hk a s' hkeeps

/-- Every failure of a statement ends the procedure with the error `e`, in a state
with the invariant; the statements are of the kinds `K`. -/
structure Exposed (e : E) (I : S → Prop) (K : L → Prop) (p : Procedure S L E α) : Prop where
  keeps : Keeps I p
  fails : ∀ s, I s → ∀ point ∈ p.points s,
    K point.kind ∧ I point.state ∧ ∀ s, point.failed.run s = (.error e, s)

theorem Exposed.pure (e : E) (I : S → Prop) (K : L → Prop) (a : α) :
    Exposed e I K (Pure.pure a : Procedure S L E α) := by
  refine ⟨fun s hs => hs, fun s _ point hpoint => ?_⟩
  cases hpoint

theorem Exposed.bind {e : E} {I : S → Prop} {K : L → Prop} {p : Procedure S L E α}
    {k : α → Procedure S L E β} (hp : Exposed e I K p) (hk : ∀ a, Exposed e I K (k a)) :
    Exposed e I K (p >>= k) := by
  constructor
  · exact hp.keeps.bind fun a => (hk a).keeps
  · intro s hs point hpoint
    have hkeeps := hp.keeps s hs
    rw [points_bind, List.mem_append] at hpoint
    rcases hpoint with hpoint | hpoint
    · obtain ⟨first, hfirst, rfl⟩ := List.mem_map.mp hpoint
      obtain ⟨hkind, hstate, hfailed⟩ := hp.fails s hs first hfirst
      refine ⟨hkind, hstate, fun s => ?_⟩
      simp only [run_bind, hfailed]
    · cases hrun : p.run s with
      | mk outcome s' =>
        rw [hrun] at hkeeps hpoint
        cases outcome with
        | ok a => exact (hk a).fails s' hkeeps point hpoint
        | error e' => cases hpoint

/-- The run in which the statements fail that the list says, one entry for each statement. -/
def run_failing : List Bool → Procedure S L E α → S → Except E α × S
  | _, pure a, s => (.ok a, s)
  | _, throw e, s => (.error e, s)
  | fails, step effect next, s => (next (effect s)).run_failing fails (effect s)
  | true :: fails, statement _ _ _ failed, s => failed.run_failing fails s
  | fails, statement _ effect next _, s => (next (effect s)).run_failing fails.tail (effect s)

/-- Whatever fails, a run from the state ends with an outcome that `Q` admits. -/
def Ensures (Q : Except E α → S → Prop) : Procedure S L E α → S → Prop
  | pure a, s => Q (.ok a) s
  | throw e, s => Q (.error e) s
  | step effect next, s => (next (effect s)).Ensures Q (effect s)
  | statement _ effect next failed, s => (next (effect s)).Ensures Q (effect s) ∧ failed.Ensures Q s

theorem Ensures.run_failing {Q : Except E α → S → Prop} {p : Procedure S L E α} {s : S}
    (hensures : p.Ensures Q s) (fails : List Bool) :
    Q (p.run_failing fails s).1 (p.run_failing fails s).2 := by
  induction p generalizing s fails with
  | pure a =>
    rw [Procedure.run_failing]
    exact hensures
  | throw e =>
    rw [Procedure.run_failing]
    exact hensures
  | step effect next ih =>
    rw [Procedure.run_failing]
    exact ih _ hensures fails
  | statement kind effect next failed ih ihfailed =>
    obtain ⟨hnext, hfailed⟩ := hensures
    rcases fails with - | ⟨_ | _, fails⟩
    · rw [Procedure.run_failing]
      · exact ih _ hnext _
      · intro _ h
        cases h
    · rw [Procedure.run_failing]
      · exact ih _ hnext _
      · intro _ h
        cases h
    · rw [Procedure.run_failing]
      exact ihfailed hfailed fails

theorem Ensures.under {Q : Except E α → S → Prop} {p : Procedure S L E α} {s : S} (hensures : p.Ensures Q s)
    (fails : L → Bool) : Q (p.under fails s).1 (p.under fails s).2 := by
  induction p generalizing s with
  | pure a => exact hensures
  | throw e => exact hensures
  | step effect next ih => exact ih _ hensures
  | statement kind effect next failed ih ihfailed =>
    rw [Procedure.under]
    split
    · exact ihfailed hensures.2
    · exact ih _ hensures.1

theorem Ensures.mono {Q Q' : Except E α → S → Prop} (himp : ∀ outcome s, Q outcome s → Q' outcome s)
    {p : Procedure S L E α} {s : S} (hensures : p.Ensures Q s) : p.Ensures Q' s := by
  induction p generalizing s with
  | pure a => exact himp _ _ hensures
  | throw e => exact himp _ _ hensures
  | step effect next ih => exact ih _ hensures
  | statement kind effect next failed ih ihfailed =>
    exact ⟨ih _ hensures.1, ihfailed hensures.2⟩

/-- What follows is run after an outcome of the first part. -/
theorem Ensures.bind {R : Except E α → S → Prop} {Q : Except E β → S → Prop} {p : Procedure S L E α}
    {k : α → Procedure S L E β} {s : S} (hensures : p.Ensures R s)
    (hok : ∀ a s, R (.ok a) s → (k a).Ensures Q s) (herror : ∀ e s, R (.error e) s → Q (.error e) s) :
    (p >>= k).Ensures Q s := by
  change (p.bind k).Ensures Q s
  induction p generalizing s with
  | pure a => exact hok _ _ hensures
  | throw e => exact herror _ _ hensures
  | step effect next ih => exact ih _ hensures
  | statement kind effect next failed ih ihfailed =>
    exact ⟨ih _ hensures.1, ihfailed hensures.2⟩

theorem Ensures.handle {R Q : Except E α → S → Prop} {p : Procedure S L E α} {h : E → Procedure S L E α}
    {s : S} (hensures : p.Ensures R s) (hok : ∀ a s, R (.ok a) s → Q (.ok a) s)
    (herror : ∀ e s, R (.error e) s → (h e).Ensures Q s) : (p.handle h).Ensures Q s := by
  induction p generalizing s with
  | pure a => exact hok _ _ hensures
  | throw e => exact herror _ _ hensures
  | step effect next ih => exact ih _ hensures
  | statement kind effect next failed ih ihfailed =>
    exact ⟨ih _ hensures.1, ihfailed hensures.2⟩

theorem Ensures.assign {Q : Except E Unit → S → Prop} {effect : S → S} {s : S} (hQ : Q (.ok ()) (effect s)) :
    (assign effect : Procedure S L E Unit).Ensures Q s := hQ

theorem Ensures.command {Q : Except E Bool → S → Prop} {kind : L} {effect : S → Option S} {s : S}
    (hok : ∀ s', effect s = some s' → Q (.ok true) s') (hfailed : Q (.ok false) s) :
    (command kind effect : Procedure S L E Bool).Ensures Q s := by
  unfold Procedure.command
  simp only [Ensures, id_eq]
  cases heffect : effect s with
  | none => exact ⟨hfailed, hfailed⟩
  | some s' => exact ⟨hok s' heffect, hfailed⟩

theorem Ensures.checked {Q : Except E Unit → S → Prop} {kind : L} {effect : S → Option S} {e : E} {s : S}
    (hok : ∀ s', effect s = some s' → Q (.ok ()) s') (herror : Q (.error e) s) :
    (checked kind effect e).Ensures Q s := by
  refine Ensures.bind (R := fun outcome t => (outcome = .ok true ∧ effect s = some t) ∨ (outcome = .ok false ∧ t = s))
    (Ensures.command (fun s' h => .inl ⟨rfl, h⟩) (.inr ⟨rfl, rfl⟩)) ?_ ?_
  · rintro done t (⟨hdone, heffect⟩ | ⟨hdone, rfl⟩)
    · cases hdone
      exact hok t heffect
    · cases hdone
      exact herror
  · rintro e' t (⟨h, _⟩ | ⟨h, _⟩)
    · cases h
    · cases h

theorem Ensures.query {Q : Except E α → S → Prop} {kind : L} {f : S → Option α} {e : E} {s : S}
    (hok : ∀ a, f s = some a → Q (.ok a) s) (herror : Q (.error e) s) : (query kind f e).Ensures Q s := by
  unfold Procedure.query
  simp only [Ensures, id_eq]
  refine ⟨?_, herror⟩
  cases hf : f s with
  | none => exact herror
  | some a => exact hok a hf

end Procedure
