import Mathlib

/-! Words and numbers in a text, for any notion of a space. -/

namespace text

/-- The characters of a text. -/
abbrev Text := List Char

/-- The spaces of ASCII. -/
def isspace (c : Char) : Bool := c = ' ' || (9 ≤ c.toNat && c.toNat ≤ 13)

section words

/-- An empty word is no word. -/
def flush (word : Text) (words : List Text) : List Text := if word = [] then words else word :: words

variable (space : Char → Bool)

/-- The word at the beginning and those that come after it. -/
def scan : Text → Text × List Text
  | [] => ([], [])
  | c :: cs =>
    let (word, words) := scan cs
    if space c then ([], flush word words) else (c :: word, words)

/-- The words between the spaces. -/
def words (cs : Text) : List Text := flush (scan space cs).1 (scan space cs).2

/-- What is between the separators, which may be empty. -/
def fields (separator : Char) : Text → List Text
  | [] => [[]]
  | c :: cs =>
    match fields separator cs with
    | [] => [[c]]
    | field :: rest => if c = separator then [] :: field :: rest else (c :: field) :: rest

/-- The text without the spaces at its ends. -/
def strip (cs : Text) : Text := (cs.dropWhile space).rdropWhile space

def join (separator : Char) : List Text → Text
  | [] => []
  | [word] => word
  | word :: rest => word ++ separator :: join separator rest

/-- A word has characters, and no spaces. -/
def IsWord (cs : Text) : Prop := cs ≠ [] ∧ ∀ c ∈ cs, space c = false

variable {space}

theorem flush_append (word : Text) (words rest : List Text) :
    flush word (words ++ rest) = flush word words ++ rest := by
  unfold flush
  split <;> rfl

theorem scan_cons (c : Char) (cs : Text) : scan space (c :: cs) =
    if space c then ([], words space cs) else (c :: (scan space cs).1, (scan space cs).2) := rfl

theorem words_cons_space {c : Char} (hc : space c = true) (cs : Text) : words space (c :: cs) = words space cs := by
  rw [words, scan_cons, if_pos hc]
  exact if_pos rfl

theorem scan_append {c : Char} (hc : space c = true) (before after : Text) :
    scan space (before ++ c :: after) = ((scan space before).1, (scan space before).2 ++ words space after) := by
  induction before with
  | nil =>
    rw [List.nil_append, scan_cons, if_pos hc]
    rfl
  | cons b before ih =>
    rw [List.cons_append, scan_cons, words, ih, scan_cons, words]
    split
    · simp only
      rw [← words, flush_append]
      rfl
    · rfl

/-- A space ends a word. -/
theorem words_append {c : Char} (hc : space c = true) (before after : Text) :
    words space (before ++ c :: after) = words space before ++ words space after := by
  rw [words, scan_append hc, flush_append]
  rfl

theorem scan_of_forall {cs : Text} (hcs : ∀ c ∈ cs, space c = false) : scan space cs = (cs, []) := by
  induction cs with
  | nil => rfl
  | cons c cs ih =>
    obtain ⟨hc, hcs⟩ := List.forall_mem_cons.mp hcs
    rw [scan_cons, ih hcs, hc]
    rfl

theorem words_of_isWord {cs : Text} (hcs : IsWord space cs) : words space cs = [cs] := by
  rw [words, scan_of_forall hcs.2, flush, if_neg hcs.1]

theorem isWord_of_mem {cs word : Text} (hword : word ∈ words space cs) : IsWord space word := by
  have hscan : (∀ c ∈ (scan space cs).1, space c = false) ∧
      ∀ word ∈ (scan space cs).2, IsWord space word := by
    clear hword
    induction cs with
    | nil => exact ⟨nofun, nofun⟩
    | cons c cs ih =>
      obtain ⟨hfirst, hrest⟩ := ih
      rw [scan_cons]
      by_cases hc : space c = true
      · rw [if_pos hc]
        refine ⟨nofun, fun word hword => ?_⟩
        rw [words, flush] at hword
        split at hword
        · exact hrest word hword
        · case isFalse hne =>
          rcases List.mem_cons.mp hword with rfl | hword
          · exact ⟨hne, hfirst⟩
          · exact hrest word hword
      · rw [if_neg hc]
        exact ⟨List.forall_mem_cons.mpr ⟨Bool.eq_false_of_not_eq_true hc, hfirst⟩, hrest⟩
  rw [words, flush] at hword
  split at hword
  · exact hscan.2 word hword
  · case isFalse hne =>
    rcases List.mem_cons.mp hword with rfl | hword
    · exact ⟨hne, hscan.1⟩
    · exact hscan.2 word hword

/-- Spaces at the ends do not count. -/
theorem words_strip (cs : Text) : words space (strip space cs) = words space cs := by
  have hleft : ∀ cs : Text, words space (cs.dropWhile space) = words space cs := by
    intro cs
    induction cs with
    | nil => rfl
    | cons c cs ih =>
      by_cases hc : space c = true
      · rw [List.dropWhile_cons_of_pos hc, ih, words_cons_space hc]
      · rw [List.dropWhile_cons_of_neg hc]
  have hright : ∀ cs : Text, words space (cs.rdropWhile space) = words space cs := by
    intro cs
    induction cs using List.reverseRecOn with
    | nil => rfl
    | append_singleton cs c ih =>
      by_cases hc : space c = true
      · rw [List.rdropWhile_concat_pos _ _ _ hc, ih, words_append hc]
        exact (List.append_nil _).symm
      · rw [List.rdropWhile_concat_neg _ _ _ hc]
  rw [strip, hright, hleft]

theorem strip_of_isWord {cs : Text} (hcs : ∀ c ∈ cs, space c = false) : strip space cs = cs := by
  have hdrop : cs.dropWhile space = cs := by
    rw [List.dropWhile_eq_self_iff]
    intro hlen
    rw [hcs _ (List.getElem_mem hlen)]
    exact Bool.false_ne_true
  rw [strip, hdrop, List.rdropWhile_eq_self_iff]
  intro hne
  rw [hcs _ (List.getLast_mem hne)]
  exact Bool.false_ne_true

/-- The words of a text are those of its fields, where a space separates them. -/
theorem words_eq_flatMap {separator : Char} (hseparator : space separator = true) (cs : Text) :
    words space cs = (fields separator cs).flatMap (words space) := by
  have hscan : ∃ field rest, fields separator cs = field :: rest ∧
      scan space cs = ((scan space field).1, (scan space field).2 ++ rest.flatMap (words space)) := by
    induction cs with
    | nil => exact ⟨[], [], rfl, rfl⟩
    | cons c cs ih =>
      obtain ⟨field, rest, hfields, hscan⟩ := ih
      rw [fields, hfields]
      simp only
      by_cases hc : c = separator
      · refine ⟨[], field :: rest, if_pos hc, ?_⟩
        rw [hc, scan_cons, if_pos hseparator, words, hscan, flush_append]
        rfl
      · refine ⟨c :: field, rest, if_neg hc, ?_⟩
        rw [scan_cons, words, hscan, scan_cons, words]
        split
        · rw [flush_append]
        · rfl
  obtain ⟨field, rest, hfields, hscan⟩ := hscan
  rw [words, hscan, hfields, flush_append]
  rfl

theorem fields_ne_nil (separator : Char) (cs : Text) : fields separator cs ≠ [] := by
  cases cs with
  | nil => exact List.cons_ne_nil _ _
  | cons c cs =>
    rw [fields]
    split
    · exact List.cons_ne_nil _ _
    · split <;> exact List.cons_ne_nil _ _

theorem fields_of_not_mem {separator : Char} {cs : Text} (hcs : separator ∉ cs) : fields separator cs = [cs] := by
  induction cs with
  | nil => rfl
  | cons c cs ih =>
    have hc : c ≠ separator := fun h => hcs (h ▸ List.mem_cons_self)
    rw [fields, ih fun h => hcs (List.mem_cons_of_mem c h)]
    exact if_neg hc

/-- A separator ends a field. -/
theorem fields_append {separator : Char} {field : Text} (hfield : separator ∉ field) (cs : Text) :
    fields separator (field ++ separator :: cs) = field :: fields separator cs := by
  obtain ⟨first, rest, hcs⟩ := List.exists_cons_of_ne_nil (fields_ne_nil separator cs)
  induction field with
  | nil =>
    rw [List.nil_append, fields, hcs]
    exact if_pos rfl
  | cons c field ih =>
    have hc : c ≠ separator := fun h => hfield (h ▸ List.mem_cons_self)
    rw [List.cons_append, fields, ih fun h => hfield (List.mem_cons_of_mem c h)]
    exact if_neg hc

/-- What is before a separator and what is after it have fields of their own. -/
theorem fields_append_fields {separator : Char} (before after : Text) :
    fields separator (before ++ separator :: after) = fields separator before ++ fields separator after := by
  induction before with
  | nil => exact fields_append List.not_mem_nil after
  | cons c before ih =>
    obtain ⟨first, rest, hbefore⟩ := List.exists_cons_of_ne_nil (fields_ne_nil separator before)
    rw [List.cons_append, fields, ih, fields, hbefore]
    simp only [List.cons_append]
    split <;> rfl

theorem join_fields (separator : Char) (cs : Text) : join separator (fields separator cs) = cs := by
  induction cs with
  | nil => rfl
  | cons c cs ih =>
    obtain ⟨first, rest, hcs⟩ := List.exists_cons_of_ne_nil (fields_ne_nil separator cs)
    rw [fields, hcs]
    rw [hcs] at ih
    by_cases hc : c = separator
    · rw [hc]
      simp only [if_true]
      rw [join, ih, List.nil_append]
      exact List.cons_ne_nil _ _
    · simp only [if_neg hc]
      cases rest with
      | nil => rw [join] at ih ⊢; rw [ih]
      | cons next rest =>
        have hjoin : ∀ field : Text, join separator (field :: next :: rest) =
            field ++ separator :: join separator (next :: rest) := fun _ => rfl
        rw [hjoin, List.cons_append, ← hjoin, ih]

theorem join_cons (separator : Char) (field : Text) (rest : List Text) :
    join separator (field :: rest) = field ++ rest.flatMap (separator :: ·) := by
  induction rest generalizing field with
  | nil => exact (List.append_nil field).symm
  | cons next rest ih =>
    have hjoin : join separator (field :: next :: rest) = field ++ separator :: join separator (next :: rest) := rfl
    rw [hjoin, ih, List.flatMap_cons, List.cons_append]

/-- Fields that are joined are found again. -/
theorem fields_join {separator : Char} {field : Text} {rest : List Text}
    (hfields : ∀ cs ∈ field :: rest, separator ∉ cs) :
    fields separator (join separator (field :: rest)) = field :: rest := by
  induction rest generalizing field with
  | nil => exact fields_of_not_mem (hfields field List.mem_cons_self)
  | cons next rest ih =>
    have hjoin : join separator (field :: next :: rest) = field ++ separator :: join separator (next :: rest) := rfl
    rw [hjoin, fields_append (hfields field List.mem_cons_self), ih fun cs hcs => hfields cs (List.mem_cons_of_mem _ hcs)]

theorem mem_of_mem_fields {separator c : Char} {cs field : Text} (hfield : field ∈ fields separator cs)
    (hc : c ∈ field) : c ∈ cs ∧ c ≠ separator := by
  induction cs generalizing field with
  | nil =>
    rw [List.mem_singleton.mp hfield] at hc
    cases hc
  | cons d cs ih =>
    rw [fields] at hfield
    cases hfields : fields separator cs with
    | nil =>
      exfalso
      cases cs with
      | nil => cases hfields
      | cons e cs =>
        rw [fields] at hfields
        split at hfields
        · cases hfields
        · split at hfields <;> cases hfields
    | cons first rest =>
      rw [hfields] at hfield ih
      simp only at hfield
      have hrest : field ∈ first :: rest → c ∈ d :: cs ∧ c ≠ separator := by
        intro hmem
        exact ⟨List.mem_cons_of_mem d (ih hmem hc).1, (ih hmem hc).2⟩
      split at hfield
      · rcases List.mem_cons.mp hfield with rfl | hfield
        · cases hc
        · exact hrest hfield
      · case isFalse hne =>
        rcases List.mem_cons.mp hfield with rfl | hfield
        · rcases List.mem_cons.mp hc with rfl | hc
          · exact ⟨List.mem_cons_self, hne⟩
          · obtain ⟨hmem, hsep⟩ := ih List.mem_cons_self hc
            exact ⟨List.mem_cons_of_mem d hmem, hsep⟩
        · exact hrest (List.mem_cons_of_mem _ hfield)

/-- Every character is the separator or in a field. -/
theorem exists_mem_fields {separator c : Char} {cs : Text} (hc : c ∈ cs) :
    c = separator ∨ ∃ field ∈ fields separator cs, c ∈ field := by
  induction cs with
  | nil => cases hc
  | cons d cs ih =>
    rw [fields]
    cases hfields : fields separator cs with
    | nil =>
      rcases List.mem_cons.mp hc with rfl | hc
      · exact Or.inr ⟨_, List.mem_singleton_self _, List.mem_singleton_self _⟩
      · rcases ih hc with hsep | ⟨field, hfield, -⟩
        · exact Or.inl hsep
        · rw [hfields] at hfield
          cases hfield
    | cons first rest =>
      rw [hfields] at ih
      simp only
      by_cases hd : d = separator
      · rw [if_pos hd]
        rcases List.mem_cons.mp hc with rfl | hc
        · exact Or.inl hd
        · rcases ih hc with hsep | ⟨field, hfield, hmem⟩
          · exact Or.inl hsep
          · exact Or.inr ⟨field, List.mem_cons_of_mem _ hfield, hmem⟩
      · rw [if_neg hd]
        rcases List.mem_cons.mp hc with rfl | hc
        · exact Or.inr ⟨_, List.mem_cons_self, List.mem_cons_self⟩
        · rcases ih hc with hsep | ⟨field, hfield, hmem⟩
          · exact Or.inl hsep
          · rcases List.mem_cons.mp hfield with rfl | hfield
            · exact Or.inr ⟨_, List.mem_cons_self, List.mem_cons_of_mem _ hmem⟩
            · exact Or.inr ⟨field, List.mem_cons_of_mem _ hfield, hmem⟩

/-- Words that are joined by a space are found again. -/
theorem words_join {separator : Char} (hseparator : space separator = true) {ws : List Text}
    (hws : ∀ word ∈ ws, IsWord space word) : words space (join separator ws) = ws := by
  induction ws with
  | nil => rfl
  | cons word ws ih =>
    obtain ⟨hword, hws⟩ := List.forall_mem_cons.mp hws
    cases ws with
    | nil => exact words_of_isWord hword
    | cons next ws =>
      have hjoin : join separator (word :: next :: ws) = word ++ separator :: join separator (next :: ws) := rfl
      rw [hjoin, words_append hseparator, words_of_isWord hword, ih hws, List.singleton_append]

end words

section runs

/-- The runs of the characters of a class and what is around them, in turn. -/
def runs (inside : Char → Bool) : Text → List Text
  | [] => [[]]
  | c :: cs =>
    if inside c then
      match runs inside cs with
      | [] :: run :: rest => [] :: (c :: run) :: rest
      | rest => [] :: [c] :: rest
    else
      match runs inside cs with
      | [] => [[c]]
      | first :: rest => (c :: first) :: rest

variable {inside : Char → Bool}

theorem runs_of_forall {cs : Text} (hcs : ∀ c ∈ cs, inside c = false) : runs inside cs = [cs] := by
  induction cs with
  | nil => rfl
  | cons c cs ih =>
    obtain ⟨hc, hcs⟩ := List.forall_mem_cons.mp hcs
    rw [runs, ih hcs, hc]
    rfl

theorem flatten_runs (cs : Text) : (runs inside cs).flatten = cs := by
  induction cs with
  | nil => rfl
  | cons c cs ih =>
    rw [runs]
    split
    · split
      · case _ run rest hcs =>
        rw [hcs] at ih
        rw [← ih]
        rfl
      · rw [List.flatten_cons, List.flatten_cons, ih]
        rfl
    · split
      · case _ hcs =>
        rw [hcs] at ih
        rw [← ih]
        rfl
      · case _ first rest hcs =>
        rw [hcs] at ih
        rw [← ih]
        rfl

theorem exists_runs_cons {c : Char} (hc : inside c = false) (cs : Text) :
    ∃ first rest, runs inside (c :: cs) = (c :: first) :: rest := by
  rw [runs, hc]
  cases runs inside cs with
  | nil => exact ⟨[], [], rfl⟩
  | cons first rest => exact ⟨first, rest, rfl⟩

/-- A run of a single character ends what is before it. -/
theorem runs_append {before after : Text} {c : Char} (hbefore : ∀ b ∈ before, inside b = false)
    (hc : inside c = true) (hafter : after ≠ [] ∧ ∀ a ∈ after.head?, inside a = false) :
    runs inside (before ++ c :: after) = before :: [c] :: runs inside after := by
  obtain ⟨a, after, rfl⟩ := List.exists_cons_of_ne_nil hafter.1
  obtain ⟨first, rest, hruns⟩ := exists_runs_cons (hafter.2 a rfl) after
  induction before with
  | nil =>
    rw [List.nil_append, runs, hc, hruns]
    rfl
  | cons b before ih =>
    obtain ⟨hb, hbefore⟩ := List.forall_mem_cons.mp hbefore
    rw [List.cons_append, runs, hb, ih hbefore]
    rfl

end runs

section replace

variable (old new : Text)

/-- The text after the occurrences of `old`, with `skip` characters of the last one still to be left out. -/
def replace_from : ℕ → Text → Text
  | _, [] => []
  | skip + 1, _ :: cs => replace_from skip cs
  | 0, c :: cs =>
    if old <+: c :: cs then new ++ replace_from (old.length - 1) cs else c :: replace_from 0 cs

/-- Every occurrence of `old` replaced, from left to right. -/
def replace (cs : Text) : Text := replace_from old new 0 cs

variable {old new}

theorem replace_of_not_isInfix {cs : Text} (hcs : ¬old <:+: cs) : replace old new cs = cs := by
  induction cs with
  | nil => rfl
  | cons c cs ih =>
    have hprefix : ¬old <+: c :: cs := fun h => hcs h.isInfix
    have hrest : ¬old <:+: cs := fun h => hcs (h.trans (List.suffix_cons c cs).isInfix)
    rw [replace, replace_from, if_neg hprefix]
    exact congrArg (c :: ·) (ih hrest)

/-- A replacement of the same length changes every text that it is made in. -/
theorem replace_eq_self_iff (hlength : old.length = new.length) (hnil : old ≠ []) (hne : old ≠ new) (cs : Text) :
    replace old new cs = cs ↔ ¬old <:+: cs := by
  refine ⟨fun hreplace hcs => ?_, replace_of_not_isInfix⟩
  induction cs with
  | nil => exact hnil (List.infix_nil.mp hcs)
  | cons c cs ih =>
    rw [replace, replace_from] at hreplace
    by_cases hprefix : old <+: c :: cs
    · rw [if_pos hprefix] at hreplace
      have hnew : new <+: c :: cs := hreplace ▸ List.prefix_append _ _
      exact hne (List.prefix_of_prefix_length_le hprefix hnew hlength.le |>.eq_of_length hlength)
    · rw [if_neg hprefix] at hreplace
      refine ih (List.cons.inj hreplace).2 ?_
      rcases List.infix_cons_iff.mp hcs with h | h
      · exact absurd h hprefix
      · exact h

end replace

section numbers

/-- The number that decimal digits stand for. -/
def digits (cs : Text) : Option ℕ :=
  if cs ≠ [] ∧ cs.all Char.isDigit then some (Nat.ofDigitChars 10 cs 0) else none

/-- A sign and digits. -/
def signed : Text → Option ℤ
  | '-' :: cs => (digits cs).map fun n => -Int.ofNat n
  | '+' :: cs => (digits cs).map Int.ofNat
  | cs => (digits cs).map Int.ofNat

/-- A number in ASCII digits, which may have spaces around it; the other digits of Unicode are not read. -/
def int (space : Char → Bool) (cs : Text) : Option ℤ := signed (strip space cs)

def str : ℤ → Text
  | .ofNat n => Nat.toDigits 10 n
  | .negSucc n => '-' :: Nat.toDigits 10 (n + 1)

variable {space : Char → Bool}

theorem isDigit_of_digits {cs : Text} (hcs : (digits cs).isSome) : cs ≠ [] ∧ ∀ c ∈ cs, c.isDigit = true := by
  unfold digits at hcs
  split at hcs
  · case isTrue hdigits => exact ⟨hdigits.1, List.all_eq_true.mp hdigits.2⟩
  · cases hcs

/-- A number has no characters but digits and a sign. -/
theorem isWord_of_signed (hdigit : ∀ c : Char, c.isDigit = true → space c = false) (hplus : space '+' = false)
    (hminus : space '-' = false) {cs : Text} {n : ℤ} (hcs : signed cs = some n) : IsWord space cs := by
  unfold signed at hcs
  split at hcs
  · case _ cs =>
    obtain ⟨m, hm, -⟩ := Option.map_eq_some_iff.mp hcs
    obtain ⟨-, hall⟩ := isDigit_of_digits (by rw [hm]; rfl)
    exact ⟨List.cons_ne_nil _ _, List.forall_mem_cons.mpr ⟨hminus, fun c hc => hdigit c (hall c hc)⟩⟩
  · case _ cs =>
    obtain ⟨m, hm, -⟩ := Option.map_eq_some_iff.mp hcs
    obtain ⟨-, hall⟩ := isDigit_of_digits (by rw [hm]; rfl)
    exact ⟨List.cons_ne_nil _ _, List.forall_mem_cons.mpr ⟨hplus, fun c hc => hdigit c (hall c hc)⟩⟩
  · obtain ⟨m, hm, -⟩ := Option.map_eq_some_iff.mp hcs
    obtain ⟨hne, hall⟩ := isDigit_of_digits (by rw [hm]; rfl)
    exact ⟨hne, fun c hc => hdigit c (hall c hc)⟩

theorem digits_toDigits (n : ℕ) : digits (Nat.toDigits 10 n) = some n := by
  have hall : (Nat.toDigits 10 n).all Char.isDigit = true :=
    List.all_eq_true.mpr fun c hc => Nat.isDigit_of_mem_toDigits (by decide) (by decide) hc
  rw [digits, if_pos ⟨Nat.toDigits_ne_nil, hall⟩, Nat.ofDigitChars_ten_toDigits]

/-- What is written for a number is read as that number. -/
theorem signed_str (n : ℤ) : signed (str n) = some n := by
  cases n with
  | ofNat n =>
    have hdigit : ∀ c ∈ Nat.toDigits 10 n, c.isDigit = true :=
      fun c hc => Nat.isDigit_of_mem_toDigits (by decide) (by decide) hc
    have hstr : str (Int.ofNat n) = Nat.toDigits 10 n := rfl
    rw [hstr, signed.eq_def]
    split
    · case _ cs heq =>
      have hsign : '-' ∈ Nat.toDigits 10 n := heq ▸ List.mem_cons_self
      exact absurd (hdigit _ hsign) (by decide)
    · case _ cs heq =>
      have hsign : '+' ∈ Nat.toDigits 10 n := heq ▸ List.mem_cons_self
      exact absurd (hdigit _ hsign) (by decide)
    · rw [digits_toDigits]
      rfl
  | negSucc n =>
    rw [str, signed, digits_toDigits]
    rfl

theorem isWord_str (hdigit : ∀ c : Char, c.isDigit = true → space c = false) (hplus : space '+' = false)
    (hminus : space '-' = false) (n : ℤ) : IsWord space (str n) :=
  isWord_of_signed hdigit hplus hminus (signed_str n)

theorem int_str (hdigit : ∀ c : Char, c.isDigit = true → space c = false) (hplus : space '+' = false)
    (hminus : space '-' = false) (n : ℤ) : int space (str n) = some n := by
  rw [int, strip_of_isWord (isWord_str hdigit hplus hminus n).2, signed_str]

theorem str_injective {m n : ℤ} (hstr : str m = str n) : m = n :=
  Option.some.inj ((signed_str m).symm.trans ((congrArg signed hstr).trans (signed_str n)))

theorem isspace_of_isDigit (c : Char) (hc : c.isDigit = true) : isspace c = false := by
  simp only [Char.isDigit, Bool.and_eq_true, decide_eq_true_eq, ge_iff_le, UInt32.le_iff_toNat_le] at hc
  have hlow : 48 ≤ c.toNat := le_trans (by decide) hc.1
  have hne : c ≠ ' ' := by
    rintro rfl
    exact absurd hlow (by decide)
  simp only [isspace, Bool.or_eq_false_iff, Bool.and_eq_false_iff, decide_eq_false_iff_not]
  exact ⟨hne, Or.inr (by omega)⟩

end numbers

end text
