import Mathlib

namespace shell

/-- The tokens of a command line: words, redirections and operators. -/
inductive Token
  | word (text : String)
  | redirect (text : String)
  | semi
  | and_if
  | or_if
  | lparen
  | rparen
  deriving DecidableEq

inductive Command
  | simple (words : List String)
  | subshell (body : Command)
  | and_then (left right : Command)
  | or_else (left right : Command)
  | seq (first second : Command)

section parse

/-- What has been read of a list: its finished commands, the left side of an operator (`true` for `&&`) and
the command that is being read. -/
structure Frame where
  finished : Option Command
  left : Option (Command × Bool)
  current : Option Command

def Frame.empty : Frame := ⟨none, none, none⟩

/-- The operators `&&` and `||` associate to the left. -/
def Frame.chained (frame : Frame) : Option Command :=
  frame.current.map fun c =>
    match frame.left with
    | none => c
    | some (l, true) => .and_then l c
    | some (l, false) => .or_else l c

/-- A separator needs a command before it. -/
def Frame.finish (frame : Frame) : Option Frame :=
  frame.chained.map fun c =>
    match frame.finished with
    | none => { Frame.empty with finished := some c }
    | some f => { Frame.empty with finished := some (.seq f c) }

/-- The last separator of a list is optional. -/
def Frame.close (frame : Frame) : Option Command :=
  match frame.current, frame.left with
  | none, none => frame.finished
  | none, some _ => none
  | some _, _ => frame.finish.bind Frame.finished

/-- The frame of the innermost list, and those of the lists around it. -/
def shift (stack : Frame × List Frame) : Token → Option (Frame × List Frame)
  | .word text =>
    match stack.1.current with
    | none => some ({ stack.1 with current := some (.simple [text]) }, stack.2)
    | some (.simple words) => some ({ stack.1 with current := some (.simple (words ++ [text])) }, stack.2)
    | some _ => none
  | .redirect _ =>
    match stack.1.current with
    | none => some ({ stack.1 with current := some (.simple []) }, stack.2)
    | some _ => some stack
  | .semi => stack.1.finish.map fun frame => (frame, stack.2)
  | .and_if => stack.1.chained.map fun c => ({ stack.1 with left := some (c, true), current := none }, stack.2)
  | .or_if => stack.1.chained.map fun c => ({ stack.1 with left := some (c, false), current := none }, stack.2)
  | .lparen =>
    match stack.1.current with
    | none => some (.empty, stack.1 :: stack.2)
    | some _ => none
  | .rparen =>
    match stack.2 with
    | [] => none
    | frame :: rest => stack.1.close.map fun body => ({ frame with current := some (.subshell body) }, rest)

/-- The command of a line, unless there is a syntax error. -/
def parse (line : List Token) : Option Command :=
  (line.foldlM shift (.empty, [])).bind fun stack =>
    match stack.2 with
    | [] => stack.1.close
    | _ :: _ => none

theorem foldlM_append (stack : Frame × List Frame) (line rest : List Token) :
    (line ++ rest).foldlM shift stack = (line.foldlM shift stack).bind fun stack => rest.foldlM shift stack :=
  List.foldlM_append

/-- Words are added to the command that is being read. -/
theorem foldlM_words (frame : Frame) (stack : List Frame) (before texts : List String) :
    (texts.map Token.word).foldlM shift ({ frame with current := some (.simple before) }, stack) =
      some ({ frame with current := some (.simple (before ++ texts)) }, stack) := by
  induction texts generalizing before with
  | nil =>
    rw [List.append_nil]
    rfl
  | cons text texts ih =>
    have hshift : shift ({ frame with current := some (.simple before) }, stack) (.word text) =
        some ({ frame with current := some (.simple (before ++ [text])) }, stack) := rfl
    rw [List.map_cons, List.foldlM_cons, hshift]
    change List.foldlM shift ({ frame with current := some (.simple (before ++ [text])) }, stack) _ = _
    rw [ih (before ++ [text]), List.append_assoc]
    rfl

/-- A simple command at the beginning of a line. -/
theorem parse_words (text : String) (texts : List String) (line : List Token) :
    parse (((text :: texts).map Token.word) ++ line) =
      (line.foldlM shift ({ Frame.empty with current := some (.simple (text :: texts)) }, [])).bind fun stack =>
        match stack.2 with
        | [] => stack.1.close
        | _ :: _ => none := by
  have hwords := foldlM_words Frame.empty [] [text] texts
  have hfirst : ((text :: texts).map Token.word).foldlM shift (Frame.empty, []) =
      (texts.map Token.word).foldlM shift ({ Frame.empty with current := some (.simple [text]) }, []) := rfl
  rw [parse, foldlM_append, hfirst, hwords]
  rfl

/-- A separator without a command before it is a syntax error. -/
theorem parse_eq_none_of_semi {line rest : List Token} {stack : Frame × List Frame}
    (hline : line.foldlM shift (.empty, []) = some stack) (hcurrent : stack.1.current = none) :
    parse (line ++ .semi :: rest) = none := by
  have hshift : shift stack .semi = none := by
    rw [shift, Frame.finish, Frame.chained, hcurrent]
    rfl
  rw [parse, foldlM_append, hline, Option.bind_some, List.foldlM_cons, hshift]
  rfl

end parse

section run

/-- The commands that the shell runs itself, with one variable. -/
inductive Builtin
  | set_status
  | add_status
  | exit_var
  | exit (code : ℕ)

/-- The variable, `$?`, what has been executed with which status, and the status of an `exit`. -/
structure State where
  var : ℕ
  status : ℕ
  trace : List (List String × ℕ)
  exited : Option ℕ

def start : State := ⟨0, 0, [], none⟩

/-- The status with which the shell ends. -/
def State.exit_status (s : State) : ℕ := s.exited.getD s.status

def Builtin.run (s : State) : Builtin → State
  | .set_status => { s with var := s.status, status := 0 }
  | .add_status => { s with var := s.var + s.status, status := 0 }
  | .exit_var => { s with exited := some (s.var % 256) }
  | .exit code => { s with exited := some (code % 256) }

variable (builtin : List String → Option Builtin) (env : List (List String × ℕ) → List String → Fin 256)

/-- A command, where the status of each program it executes may depend on everything that was executed before. -/
def run : Command → State → State
  | .simple words, s =>
    match builtin words with
    | some command => command.run s
    | none => { s with status := env s.trace words, trace := s.trace ++ [(words, (env s.trace words : ℕ))] }
  | .subshell body, s =>
    let ended := run body s
    { s with status := ended.exit_status, trace := ended.trace }
  | .and_then left right, s =>
    let s := run left s
    if s.exited.isSome ∨ s.status ≠ 0 then s else run right s
  | .or_else left right, s =>
    let s := run left s
    if s.exited.isSome ∨ s.status = 0 then s else run right s
  | .seq first second, s =>
    let s := run first s
    if s.exited.isSome then s else run second s

/-- The simple commands of a command. -/
def Command.words : Command → List (List String)
  | .simple words => [words]
  | .subshell body => body.words
  | .and_then left right | .or_else left right | .seq left right => left.words ++ right.words

/-- Nothing is assigned and nothing exits, except in a subshell. -/
def Command.Quiet : Command → Prop
  | .simple words => builtin words = none
  | .subshell _ => True
  | .and_then left right | .or_else left right | .seq left right => left.Quiet ∧ right.Quiet

/-- What is executed is added to the trace. -/
theorem trace_run (c : Command) (s : State) :
    ∃ more, (run builtin env c s).trace = s.trace ++ more ∧ ∀ e ∈ more, e.1 ∈ c.words := by
  have hboth : ∀ (left right : Command) (s u v : State),
      (∃ more, u.trace = s.trace ++ more ∧ ∀ e ∈ more, e.1 ∈ left.words) →
      (∃ more, v.trace = u.trace ++ more ∧ ∀ e ∈ more, e.1 ∈ right.words) →
      ∃ more, v.trace = s.trace ++ more ∧ ∀ e ∈ more, e.1 ∈ left.words ++ right.words := by
    rintro left right s u v ⟨more, hu, hleft⟩ ⟨more', hv, hright⟩
    refine ⟨more ++ more', by rw [hv, hu, List.append_assoc], fun e he => ?_⟩
    rcases List.mem_append.mp he with he | he
    · exact List.mem_append_left _ (hleft e he)
    · exact List.mem_append_right _ (hright e he)
  have hone : ∀ (left right : Command) (s u : State),
      (∃ more, u.trace = s.trace ++ more ∧ ∀ e ∈ more, e.1 ∈ left.words) →
      ∃ more, u.trace = s.trace ++ more ∧ ∀ e ∈ more, e.1 ∈ left.words ++ right.words := by
    rintro left right s u ⟨more, hu, hleft⟩
    exact ⟨more, hu, fun e he => List.mem_append_left _ (hleft e he)⟩
  induction c generalizing s with
  | simple words =>
    rw [run]
    cases builtin words with
    | some command =>
      refine ⟨[], ?_, fun e he => by cases he⟩
      cases command <;> exact (List.append_nil _).symm
    | none =>
      refine ⟨_, rfl, fun e he => ?_⟩
      rw [List.mem_singleton.mp he]
      exact List.mem_singleton_self _
  | subshell body ih => exact ih s
  | and_then left right ihl ihr | or_else left right ihl ihr | seq left right ihl ihr =>
    rw [run]
    split
    · exact hone left right s _ (ihl s)
    · exact hboth left right s _ _ (ihl s) (ihr _)

/-- A quiet command leaves the variable alone and the shell running. -/
theorem run_quiet {c : Command} (hquiet : c.Quiet builtin) {s : State} (hrunning : s.exited = none) :
    (run builtin env c s).var = s.var ∧ (run builtin env c s).exited = none := by
  induction c generalizing s with
  | simple words =>
    have hnone : builtin words = none := hquiet
    rw [run, hnone]
    exact ⟨rfl, hrunning⟩
  | subshell body ih => exact ⟨rfl, hrunning⟩
  | and_then left right ihl ihr | or_else left right ihl ihr | seq left right ihl ihr =>
    obtain ⟨hvar, hleft⟩ := ihl hquiet.1 hrunning
    rw [run]
    split
    · exact ⟨hvar, hleft⟩
    · obtain ⟨hvar', hright⟩ := ihr hquiet.2 hleft
      exact ⟨hvar'.trans hvar, hright⟩

/-- Commands one after the other. -/
def seqs (first : Command) (rest : List Command) : Command := rest.foldl .seq first

theorem run_seq {first second : Command} {s : State} (hrunning : (run builtin env first s).exited = none) :
    run builtin env (.seq first second) s = run builtin env second (run builtin env first s) := by
  rw [run]
  simp only [hrunning, Option.isSome_none, Bool.false_eq_true, if_false]

theorem seqs_concat (first : Command) (rest : List Command) (last : Command) :
    seqs first (rest ++ [last]) = .seq (seqs first rest) last := by
  rw [seqs, List.foldl_append]
  rfl

/-- Quiet commands after another one. -/
theorem run_seqs {first : Command} {rest : List Command} (hquiet : ∀ c ∈ rest, c.Quiet builtin) {s : State}
    (hrunning : (run builtin env first s).exited = none) :
    (run builtin env (seqs first rest) s).var = (run builtin env first s).var ∧
      (run builtin env (seqs first rest) s).exited = none ∧
      ∃ more, (run builtin env (seqs first rest) s).trace = (run builtin env first s).trace ++ more ∧
        ∀ e ∈ more, ∃ c ∈ rest, e.1 ∈ c.words := by
  induction rest using List.reverseRecOn with
  | nil => exact ⟨rfl, hrunning, [], (List.append_nil _).symm, fun e he => by cases he⟩
  | append_singleton rest last ih =>
    obtain ⟨hvar, hrest, more, htrace, hmore⟩ := ih fun c hc => hquiet c (List.mem_append_left _ hc)
    obtain ⟨hvar', hlast⟩ := run_quiet builtin env (hquiet last (List.mem_append_right _ (List.mem_singleton_self _))) hrest
    obtain ⟨more', htrace', hmore'⟩ := trace_run builtin env last (run builtin env (seqs first rest) s)
    rw [seqs_concat, run_seq builtin env hrest]
    refine ⟨hvar'.trans hvar, hlast, more ++ more', by rw [htrace', htrace, List.append_assoc], fun e he => ?_⟩
    rcases List.mem_append.mp he with he | he
    · obtain ⟨c, hc, hwords⟩ := hmore e he
      exact ⟨c, List.mem_append_left _ hc, hwords⟩
    · exact ⟨last, List.mem_append_right _ (List.mem_singleton_self _), hmore' e he⟩

/-- The status of the first command is kept in the variable and ends the shell, whatever comes in between. -/
theorem run_recorded {first : Command} {rest : List Command} {record exit : List String}
    (hrecord : builtin record = some .set_status ∨ builtin record = some .add_status)
    (hexit : builtin exit = some .exit_var) (hquiet : ∀ c ∈ rest, c.Quiet builtin) {s : State} (hvar : s.var = 0)
    (hfirst : first.Quiet builtin) (hrunning : s.exited = none) :
    (run builtin env (seqs first (.simple record :: rest ++ [.simple exit])) s).exit_status =
        (run builtin env first s).status % 256 ∧
      ∃ more, (run builtin env (seqs first (.simple record :: rest ++ [.simple exit])) s).trace =
          (run builtin env first s).trace ++ more ∧ ∀ e ∈ more, ∃ c ∈ rest, e.1 ∈ c.words := by
  obtain ⟨hvar', hrunning'⟩ := run_quiet builtin env hfirst hrunning
  have hrecorded : run builtin env (.seq first (.simple record)) s =
      { run builtin env first s with var := (run builtin env first s).status, status := 0 } := by
    rw [run_seq builtin env hrunning', run]
    rcases hrecord with hrecord | hrecord
    · rw [hrecord]
      rfl
    · rw [hrecord]
      simp only [Builtin.run, hvar', hvar, Nat.zero_add]
  have hseqs : seqs first (.simple record :: rest ++ [.simple exit]) =
      .seq (seqs (.seq first (.simple record)) rest) (.simple exit) := seqs_concat _ rest _
  have hstill : (run builtin env (.seq first (.simple record)) s).exited = none := by
    rw [hrecorded]
    exact hrunning'
  obtain ⟨hkept, hrest, more, htrace, hmore⟩ := run_seqs builtin env hquiet hstill
  rw [hseqs, run_seq builtin env hrest, run, hexit]
  constructor
  · change (run builtin env (seqs (.seq first (.simple record)) rest) s).var % 256 = _
    rw [hkept, hrecorded]
  · refine ⟨more, ?_, hmore⟩
    change (run builtin env (seqs (.seq first (.simple record)) rest) s).trace = _
    rw [htrace, hrecorded]

end run

end shell
