import Mathlib
import Esdc.Lib.Text

namespace que.task_id

open text

def TT_DUMMY : Text := ['d']
def TT_EXEC : Text := ['e']
def TT_AUTO : Text := ['a']
def TT_MGMT : Text := ['m']
def TT_INTERNAL : Text := ['i']
def TT_ERROR : Text := ['f']
def TT : List Text := [TT_DUMMY, TT_EXEC, TT_AUTO, TT_MGMT, TT_INTERNAL, TT_ERROR]

def TG_DC_BOUND : Text := ['d']
def TG_DC_UNBOUND : Text := ['u']
def TG : List Text := [TG_DC_BOUND, TG_DC_UNBOUND]

/-- The text of a number. -/
def str (n : ℕ) : Text := Nat.toDigits 10 n

def isdigit (cs : Text) : Bool := cs ≠ [] && cs.all Char.isDigit

/-- The text of a random UUID: five groups of hexadecimal digits. -/
structure Uuid4 where
  groups : List Text
  lengths : groups.map List.length = [8, 4, 4, 4, 12]
  not_dash : ∀ group ∈ groups, '-' ∉ group

def Uuid4.str (x : Uuid4) : Text := join '-' x.groups

/-- The 32 hexadecimal digits of an MD5 sum. -/
structure Hexdigest where
  cs : Text
  length : cs.length = 32
  not_dash : '-' ∉ cs

section source

def RE_TASK_PREFIX_split (cs : Text) : List Text := runs Char.isAlpha cs

def is_valid_task_prefix : List Text → Bool
  | [user_id, tt, owner_id, tg, dc_id] =>
    [user_id, owner_id, dc_id].all isdigit && decide (tt ∈ TT) && decide (tg ∈ TG)
  | _ => false

def is_valid_task_id (task_id : Text) : Bool :=
  match fields '-' task_id with
  | [] => false
  | first :: parts =>
    decide (parts.map List.length = [8, 4, 4, 4]) && is_valid_task_prefix (RE_TASK_PREFIX_split first)

variable (DEFAULT_DC : Text) (md5 : Text → Hexdigest)

def DEFAULT_TASK_PREFIX : List (Option Text) := [none, some TT_EXEC, some ['1'], some TG_DC_BOUND, some DEFAULT_DC]

/-- `cs[:-n]` -/
def drop_last (n : ℕ) (cs : Text) : Text := cs.take (cs.length - n)

/-- `cs[-n:]` -/
def take_last (n : ℕ) (cs : Text) : Text := cs.drop (cs.length - n)

/-- The part of `task_id_from_string` for a given prefix; the dummy id has part of the sum of the user id. -/
def with_suffix (first : Text) (dummy : Option Text) (x : Uuid4) : Text :=
  match dummy with
  | some user_id => first ++ ['-'] ++ take_last 8 (md5 user_id).cs ++ drop_last 13 (x.str.drop 8)
  | none => first ++ ['-'] ++ drop_last 13 x.str

def task_id_from_string (user_id : ℕ) (owner_id : Option ℕ) (dummy : Bool) (tt tg : Text) (dc_id : ℕ) (x : Uuid4) :
    Text :=
  let task_prefix := str user_id ++ tt ++ str (owner_id.getD user_id) ++ tg ++ str dc_id
  with_suffix md5 task_prefix (if dummy then some (str user_id) else none) x

def task_prefix_from_task_id (task_id : Text) : List (Option Text) :=
  let tp := RE_TASK_PREFIX_split (drop_last 24 task_id)
  tp.map some ++ (DEFAULT_TASK_PREFIX DEFAULT_DC).drop tp.length

/-- The component at a position; there are always five. -/
def component (i : ℕ) (task_id : Text) : Option Text := (task_prefix_from_task_id DEFAULT_DC task_id)[i]?.join

def user_owner_ids_from_task_id (task_id : Text) : Option Text × Option Text :=
  (component DEFAULT_DC 0 task_id, component DEFAULT_DC 2 task_id)

def user_owner_dc_ids_from_task_id (task_id : Text) : Option Text × Option Text × Option Text :=
  (component DEFAULT_DC 0 task_id, component DEFAULT_DC 2 task_id, component DEFAULT_DC 4 task_id)

def user_id_from_task_id (task_id : Text) : Option Text := (user_owner_ids_from_task_id DEFAULT_DC task_id).1

def tt_from_task_id (task_id : Text) : Option Text := component DEFAULT_DC 1 task_id

def owner_id_from_task_id (task_id : Text) : Option Text := component DEFAULT_DC 2 task_id

def tg_from_task_id (task_id : Text) : Option Text := component DEFAULT_DC 3 task_id

def dc_id_from_task_id (task_id : Text) : Option Text := component DEFAULT_DC 4 task_id

/-- The components of a task id that are given to `task_id_from_task_id`. -/
structure Given where
  user_id : Option ℕ
  owner_id : Option ℕ
  tt : Option Text
  tg : Option Text
  dc_id : Option ℕ

/-- A zero counts as not given. -/
def given_id (id : Option ℕ) : Option Text := (id.filter (· ≠ 0)).map str

def given_text (cs : Option Text) : Option Text := cs.filter (· ≠ [])

def Given.any (given : Given) : Bool :=
  (given_id given.user_id).isSome || (given_id given.owner_id).isSome || (given_text given.tt).isSome ||
    (given_text given.tg).isSome || (given_id given.dc_id).isSome

/-- A component is replaced if a new one is given. -/
def replace (i : ℕ) (value : Option Text) (parts : List (Option Text)) : List (Option Text) :=
  match value with
  | some cs => parts.set i (some cs)
  | none => parts

def replace_given (given : Given) (parts : List (Option Text)) : List (Option Text) :=
  let task_prefix := replace 0 (given_id given.user_id) parts
  let task_prefix := replace 1 (given_text given.tt) task_prefix
  let task_prefix := replace 2 (given_id given.owner_id) task_prefix
  let task_prefix := replace 3 (given_text given.tg) task_prefix
  replace 4 (given_id given.dc_id) task_prefix

/-- `''.join`, which fails on `None`. -/
def join_prefix (parts : List (Option Text)) : Option Text := (parts.mapM id).map List.flatten

def task_prefix_of (task_id : Text) (given : Given) : Option Text :=
  if given.any then
    join_prefix (replace_given given (task_prefix_from_task_id DEFAULT_DC task_id))
  else some (drop_last 24 task_id)

def task_id_from_task_id (task_id : Text) (given : Given) (keep_task_suffix : Bool) (x : Uuid4) : Option Text :=
  (task_prefix_of DEFAULT_DC task_id given).map fun task_prefix =>
    if keep_task_suffix then task_prefix ++ take_last 24 task_id else with_suffix md5 task_prefix none x

end source

/-! A valid task id is a prefix of five components and a suffix of fixed length. -/

/-- The components of a valid task id. -/
structure Prefix where
  user_id : Text
  tt : Text
  owner_id : Text
  tg : Text
  dc_id : Text
  hids : [user_id, owner_id, dc_id].all isdigit = true
  htt : tt ∈ TT
  htg : tg ∈ TG

namespace Prefix

variable (p : Prefix)

def list : List Text := [p.user_id, p.tt, p.owner_id, p.tg, p.dc_id]

def str : Text := p.user_id ++ p.tt ++ p.owner_id ++ p.tg ++ p.dc_id

end Prefix

/-- The part of a UUID that ends a valid task id. -/
structure Suffix where
  parts : List Text
  lengths : parts.map List.length = [8, 4, 4, 4]
  not_dash : ∀ part ∈ parts, '-' ∉ part

def Suffix.str (x : Suffix) : Text := x.parts.flatMap ('-' :: ·)

theorem isdigit_iff {cs : Text} : isdigit cs = true ↔ cs ≠ [] ∧ ∀ c ∈ cs, c.isDigit = true := by
  simp only [isdigit, ne_eq, Bool.and_eq_true, decide_eq_true_eq, List.all_eq_true]

theorem isdigit_str (n : ℕ) : isdigit (str n) = true :=
  isdigit_iff.mpr ⟨Nat.toDigits_ne_nil, fun _ hc => Nat.isDigit_of_mem_toDigits (by decide) (by decide) hc⟩

theorem not_isAlpha_of_isDigit {c : Char} (hc : c.isDigit = true) : c.isAlpha = false := by
  simp only [Char.isDigit, Bool.and_eq_true, decide_eq_true_eq, ge_iff_le, UInt32.le_iff_toNat_le] at hc
  have hhigh : c.val.toNat ≤ 57 := hc.2
  rw [Bool.eq_false_iff]
  intro halpha
  simp only [Char.isAlpha, Char.isUpper, Char.isLower, Bool.or_eq_true, Bool.and_eq_true, decide_eq_true_eq, ge_iff_le,
    UInt32.le_iff_toNat_le] at halpha
  have hlow : 65 ≤ c.val.toNat ∨ 97 ≤ c.val.toNat := halpha.imp And.left And.left
  omega

theorem mem_letters {tt : Text} (htt : tt ∈ TT ∨ tt ∈ TG) : ∃ c, tt = [c] ∧ c.isAlpha = true ∧ c ≠ '-' := by
  simp only [TT, TG, List.mem_cons, List.not_mem_nil, or_false] at htt
  rcases htt with (rfl | rfl | rfl | rfl | rfl | rfl) | (rfl | rfl) <;> exact ⟨_, rfl, by decide, by decide⟩

theorem is_valid_task_prefix_iff {tp : List Text} : is_valid_task_prefix tp = true ↔ ∃ p : Prefix, tp = p.list := by
  constructor
  · intro hvalid
    unfold is_valid_task_prefix at hvalid
    split at hvalid
    · simp only [Bool.and_eq_true, decide_eq_true_eq] at hvalid
      obtain ⟨⟨hids, htt⟩, htg⟩ := hvalid
      exact ⟨⟨_, _, _, _, _, hids, htt, htg⟩, rfl⟩
    · cases hvalid
  · rintro ⟨p, rfl⟩
    simp only [Prefix.list, is_valid_task_prefix, Bool.and_eq_true, decide_eq_true_eq]
    exact ⟨⟨p.hids, p.htt⟩, p.htg⟩

namespace Prefix

variable (p : Prefix)

theorem isdigit_ids : isdigit p.user_id = true ∧ isdigit p.owner_id = true ∧ isdigit p.dc_id = true := by
  have hids := p.hids
  simp only [List.all_cons, List.all_nil, Bool.and_true, Bool.and_eq_true] at hids
  exact hids

theorem flatten_list : p.list.flatten = p.str := by
  simp only [list, str, List.flatten_cons, List.flatten_nil, List.append_nil, List.append_assoc]

/-- The letters of the prefix separate its numbers. -/
theorem split_str : RE_TASK_PREFIX_split p.str = p.list := by
  obtain ⟨huser, howner, hdc⟩ := p.isdigit_ids
  obtain ⟨tt, htt, httα, -⟩ := mem_letters (Or.inl p.htt)
  obtain ⟨tg, htg, htgα, -⟩ := mem_letters (Or.inr p.htg)
  have hafter : ∀ {cs : Text}, isdigit cs = true → ∀ rest : Text,
      cs ++ rest ≠ [] ∧ ∀ c ∈ (cs ++ rest).head?, c.isAlpha = false := by
    intro cs hcs rest
    obtain ⟨hne, hall⟩ := isdigit_iff.mp hcs
    obtain ⟨c, cs, rfl⟩ := List.exists_cons_of_ne_nil hne
    refine ⟨List.cons_ne_nil _ _, fun d hd => ?_⟩
    rw [← Option.some.inj hd]
    exact not_isAlpha_of_isDigit (hall c List.mem_cons_self)
  have hbefore : ∀ {cs : Text}, isdigit cs = true → ∀ c ∈ cs, c.isAlpha = false :=
    fun hcs c hc => not_isAlpha_of_isDigit ((isdigit_iff.mp hcs).2 c hc)
  have hstr : p.str = p.user_id ++ tt :: (p.owner_id ++ tg :: p.dc_id) := by
    rw [str, htt, htg, List.append_assoc, List.append_assoc, List.append_assoc]
    rfl
  have hdc_after := hafter hdc []
  rw [List.append_nil] at hdc_after
  rw [RE_TASK_PREFIX_split, hstr, runs_append (hbefore huser) httα (hafter howner _),
    runs_append (hbefore howner) htgα hdc_after, runs_of_forall (hbefore hdc), list, htt, htg]

theorem not_mem_str : '-' ∉ p.str := by
  obtain ⟨huser, howner, hdc⟩ := p.isdigit_ids
  have hdigit : ∀ {cs : Text}, isdigit cs = true → '-' ∉ cs := by
    intro cs hcs hmem
    exact absurd ((isdigit_iff.mp hcs).2 _ hmem) (by decide)
  have hletter : ∀ {cs : Text}, cs ∈ TT ∨ cs ∈ TG → '-' ∉ cs := by
    intro cs hcs hmem
    obtain ⟨c, rfl, -, hne⟩ := mem_letters hcs
    exact hne (List.mem_singleton.mp hmem).symm
  intro hmem
  simp only [str, List.mem_append] at hmem
  rcases hmem with (((hmem | hmem) | hmem) | hmem) | hmem
  · exact hdigit huser hmem
  · exact hletter (Or.inl p.htt) hmem
  · exact hdigit howner hmem
  · exact hletter (Or.inr p.htg) hmem
  · exact hdigit hdc hmem

end Prefix

theorem length_of_lengths {parts : List Text} (hlengths : parts.map List.length = [8, 4, 4, 4]) :
    (parts.flatMap ('-' :: ·)).length = 24 := by
  have hsum : ∀ parts : List Text, (parts.flatMap ('-' :: ·)).length = ((parts.map List.length).map (· + 1)).sum := by
    intro parts
    rw [List.length_flatMap, List.map_map]
    rfl
  rw [hsum, hlengths]
  rfl

theorem Suffix.length_str (x : Suffix) : x.str.length = 24 := length_of_lengths x.lengths

/-- A valid id is a prefix of five components with a suffix. -/
theorem is_valid_task_id_iff {task_id : Text} :
    is_valid_task_id task_id = true ↔ ∃ (p : Prefix) (x : Suffix), task_id = p.str ++ x.str := by
  constructor
  · intro hvalid
    obtain ⟨first, parts, hfields⟩ := List.exists_cons_of_ne_nil (fields_ne_nil '-' task_id)
    rw [is_valid_task_id, hfields] at hvalid
    simp only [Bool.and_eq_true, decide_eq_true_eq] at hvalid
    obtain ⟨hlengths, hprefix⟩ := hvalid
    obtain ⟨p, hp⟩ := is_valid_task_prefix_iff.mp hprefix
    have hparts : ∀ part ∈ parts, '-' ∉ part := by
      intro part hpart hmem
      exact (mem_of_mem_fields (hfields ▸ List.mem_cons_of_mem first hpart) hmem).2 rfl
    have hfirst : first = p.str := by
      rw [← p.flatten_list, ← hp]
      exact (flatten_runs first).symm
    refine ⟨p, ⟨parts, hlengths, hparts⟩, ?_⟩
    rw [← join_fields '-' task_id, hfields, join_cons, hfirst]
    rfl
  · rintro ⟨p, x, rfl⟩
    have hfields : fields '-' (p.str ++ x.str) = p.str :: x.parts := by
      rw [Suffix.str, ← join_cons, fields_join]
      exact List.forall_mem_cons.mpr ⟨p.not_mem_str, x.not_dash⟩
    rw [is_valid_task_id, hfields]
    simp only [Bool.and_eq_true, decide_eq_true_eq]
    refine ⟨x.lengths, is_valid_task_prefix_iff.mpr ⟨p, p.split_str⟩⟩

theorem drop_last_append {before after : Text} {n : ℕ} (hafter : after.length = n) :
    drop_last n (before ++ after) = before := by
  rw [drop_last, List.length_append, hafter, Nat.add_sub_cancel, List.take_left]

theorem take_last_append {before after : Text} {n : ℕ} (hafter : after.length = n) :
    take_last n (before ++ after) = after := by
  rw [take_last, List.length_append, hafter, Nat.add_sub_cancel, List.drop_left]

section codec

variable (DEFAULT_DC : Text) (md5 : Text → Hexdigest)

theorem task_prefix_append (p : Prefix) (x : Suffix) :
    task_prefix_from_task_id DEFAULT_DC (p.str ++ x.str) = p.list.map some := by
  rw [task_prefix_from_task_id, drop_last_append x.length_str, p.split_str]
  rfl

/-- What all accessors return. -/
structure Decodes (task_id user_id tt owner_id tg dc_id : Text) : Prop where
  prefix_eq : task_prefix_from_task_id DEFAULT_DC task_id = [some user_id, some tt, some owner_id, some tg, some dc_id]
  user_owner_ids : user_owner_ids_from_task_id DEFAULT_DC task_id = (some user_id, some owner_id)
  user_owner_dc_ids :
    user_owner_dc_ids_from_task_id DEFAULT_DC task_id = (some user_id, some owner_id, some dc_id)
  user_id_eq : user_id_from_task_id DEFAULT_DC task_id = some user_id
  tt_eq : tt_from_task_id DEFAULT_DC task_id = some tt
  owner_id_eq : owner_id_from_task_id DEFAULT_DC task_id = some owner_id
  tg_eq : tg_from_task_id DEFAULT_DC task_id = some tg
  dc_id_eq : dc_id_from_task_id DEFAULT_DC task_id = some dc_id

theorem decodes_append (p : Prefix) (x : Suffix) :
    Decodes DEFAULT_DC (p.str ++ x.str) p.user_id p.tt p.owner_id p.tg p.dc_id := by
  have hprefix := task_prefix_append DEFAULT_DC p x
  constructor
  · exact hprefix
  all_goals
    simp only [user_owner_dc_ids_from_task_id, user_owner_ids_from_task_id, user_id_from_task_id, tt_from_task_id,
      owner_id_from_task_id, tg_from_task_id, dc_id_from_task_id, component, hprefix]
    rfl

theorem Uuid4.exists_groups (x : Uuid4) : ∃ a b c d e : Text, x.groups = [a, b, c, d, e] ∧ a.length = 8 ∧
    b.length = 4 ∧ c.length = 4 ∧ d.length = 4 ∧ e.length = 12 := by
  have hlengths := x.lengths
  simp only [List.map_eq_cons_iff, List.map_eq_nil_iff] at hlengths
  obtain ⟨a, _, ha, hla, b, _, rfl, hlb, c, _, rfl, hlc, d, _, rfl, hld, e, _, rfl, hle, rfl⟩ := hlengths
  exact ⟨a, b, c, d, e, ha, hla, hlb, hlc, hld, hle⟩

/-- The suffix of a new id is that of a valid one, whether it is random or that of a dummy. -/
theorem exists_suffix (first : Text) (dummy : Option Text) (x : Uuid4) :
    ∃ suffix : Suffix, with_suffix md5 first dummy x = first ++ suffix.str := by
  obtain ⟨a, b, c, d, e, hgroups, ha, hb, hc, hd, he⟩ := x.exists_groups
  have hdash := x.not_dash
  rw [hgroups] at hdash
  have hlast : ('-' :: e).length = 13 := by rw [List.length_cons, he]
  have hx : x.str = a ++ ('-' :: b ++ '-' :: c ++ '-' :: d) ++ '-' :: e := by
    rw [Uuid4.str, hgroups, join_cons]
    simp only [List.flatMap_cons, List.flatMap_nil, List.append_nil, List.append_assoc, List.cons_append]
  cases dummy with
  | none =>
    refine ⟨⟨[a, b, c, d], by rw [← ha, ← hb]; simp only [List.map_cons, List.map_nil, hc, hd, ha, hb], ?_⟩, ?_⟩
    · intro part hpart
      exact hdash part (List.mem_append_left [e] hpart)
    · rw [with_suffix, hx, drop_last_append hlast, Suffix.str]
      simp only [List.flatMap_cons, List.flatMap_nil, List.append_nil, List.append_assoc, List.cons_append,
        List.nil_append]
  | some user_id =>
    have hmd5 : (take_last 8 (md5 user_id).cs).length = 8 := by
      rw [take_last, List.length_drop, (md5 user_id).length]
    refine ⟨⟨[take_last 8 (md5 user_id).cs, b, c, d], by simp only [List.map_cons, List.map_nil, hb, hc, hd, hmd5], ?_⟩,
      ?_⟩
    · rintro part (_ | ⟨_, hpart⟩)
      · exact fun hmem => (md5 user_id).not_dash (List.mem_of_mem_drop hmem)
      · exact hdash part (List.mem_append_left [e] (List.mem_cons_of_mem a hpart))
    · have hdrop : x.str.drop 8 = '-' :: b ++ '-' :: c ++ '-' :: d ++ '-' :: e := by
        rw [hx, List.append_assoc, ← ha, List.drop_left]
      rw [with_suffix, hdrop, drop_last_append hlast, Suffix.str]
      simp only [List.flatMap_cons, List.flatMap_nil, List.append_nil, List.append_assoc, List.cons_append,
        List.nil_append]

theorem replace_map (i : ℕ) (value : Option Text) (tp : List Text) :
    replace i value (tp.map some) = (tp.modify i fun cs => value.getD cs).map some := by
  cases value with
  | none =>
    simp only [Option.getD_none]
    exact congrArg (List.map some) (List.modify_id i tp).symm
  | some cs =>
    simp only [Option.getD_some]
    rw [← List.set_eq_modify, List.map_set, replace]

theorem isdigit_getD {value : Option ℕ} {cs : Text} (hcs : isdigit cs = true) :
    isdigit ((given_id value).getD cs) = true := by
  cases hgiven : given_id value with
  | none => exact hcs
  | some new =>
    obtain ⟨n, -, rfl⟩ := Option.map_eq_some_iff.mp hgiven
    exact isdigit_str n

theorem mem_getD {value : Option Text} {cs : Text} {texts : List Text} (hvalue : ∀ new ∈ value, new ∈ texts)
    (hcs : cs ∈ texts) : (given_text value).getD cs ∈ texts := by
  cases hgiven : given_text value with
  | none => exact hcs
  | some new => exact hvalue new (Option.filter_eq_some_iff.mp hgiven).1

/-- The prefix with the given components in it. -/
def Prefix.replaced (p : Prefix) (given : Given) (htt : ∀ tt ∈ given.tt, tt ∈ TT) (htg : ∀ tg ∈ given.tg, tg ∈ TG) :
    Prefix where
  user_id := (given_id given.user_id).getD p.user_id
  tt := (given_text given.tt).getD p.tt
  owner_id := (given_id given.owner_id).getD p.owner_id
  tg := (given_text given.tg).getD p.tg
  dc_id := (given_id given.dc_id).getD p.dc_id
  hids := by
    obtain ⟨huser, howner, hdc⟩ := p.isdigit_ids
    simp only [List.all_cons, List.all_nil, Bool.and_true, Bool.and_eq_true]
    exact ⟨isdigit_getD huser, isdigit_getD howner, isdigit_getD hdc⟩
  htt := mem_getD htt p.htt
  htg := mem_getD htg p.htg

theorem replaced_of_not_any (p : Prefix) {given : Given} (htt : ∀ tt ∈ given.tt, tt ∈ TT)
    (htg : ∀ tg ∈ given.tg, tg ∈ TG) (hany : ¬given.any = true) : p.replaced given htt htg = p := by
  simp only [Given.any, Bool.or_eq_true, not_or, Bool.not_eq_true, Option.isSome_eq_false_iff,
    Option.isNone_iff_eq_none] at hany
  obtain ⟨⟨⟨⟨huser, howner⟩, htt'⟩, htg'⟩, hdc⟩ := hany
  simp only [Prefix.replaced, huser, howner, htt', htg', hdc, Option.getD_none]

theorem join_prefix_map (tp : List Text) : join_prefix (tp.map some) = some tp.flatten := by
  have hmapM : (tp.map some).mapM id = some tp := by
    induction tp with
    | nil => rfl
    | cons cs tp ih =>
      rw [List.map_cons, List.mapM_cons, ih]
      rfl
  unfold join_prefix
  rw [hmapM]
  rfl

/-- The prefix of the new id is that of the old one with the given components in it. -/
theorem task_prefix_of_append (p : Prefix) (x : Suffix) {given : Given} (htt : ∀ tt ∈ given.tt, tt ∈ TT)
    (htg : ∀ tg ∈ given.tg, tg ∈ TG) :
    task_prefix_of DEFAULT_DC (p.str ++ x.str) given = some (p.replaced given htt htg).str := by
  have hreplace : replace_given given (p.list.map some) = (p.replaced given htt htg).list.map some := by
    simp only [replace_given, replace_map]
    rfl
  rw [task_prefix_of]
  split
  · rw [task_prefix_append, hreplace, join_prefix_map, Prefix.flatten_list]
  · case isFalse hany => rw [drop_last_append x.length_str, replaced_of_not_any p htt htg hany]

theorem given_id_of_pos {id : Option ℕ} (hid : ∀ n ∈ id, 0 < n) : given_id id = id.map str := by
  cases id with
  | none => rfl
  | some n => rw [given_id, Option.filter_some, if_pos (decide_eq_true (Nat.pos_iff_ne_zero.mp (hid n rfl)))]

theorem given_text_of_mem {value : Option Text} (hvalue : ∀ cs ∈ value, cs ∈ TT ∨ cs ∈ TG) :
    given_text value = value := by
  cases value with
  | none => rfl
  | some cs =>
    obtain ⟨c, rfl, -⟩ := mem_letters (hvalue cs rfl)
    rfl

/-- What may be given: positive ids, and types and groups that exist. -/
structure Given.Valid (given : Given) : Prop where
  user_id : ∀ n ∈ given.user_id, 0 < n
  owner_id : ∀ n ∈ given.owner_id, 0 < n
  dc_id : ∀ n ∈ given.dc_id, 0 < n
  tt : ∀ tt ∈ given.tt, tt ∈ TT
  tg : ∀ tg ∈ given.tg, tg ∈ TG

/-- A new id is valid and decoded as what it was made of. -/
theorem decodes_task_id_from_string (user_id : ℕ) (owner_id : Option ℕ) (dummy : Bool) {tt tg : Text} (dc_id : ℕ)
    (x : Uuid4) (htt : tt ∈ TT) (htg : tg ∈ TG) :
    is_valid_task_id (task_id_from_string md5 user_id owner_id dummy tt tg dc_id x) = true ∧
      Decodes DEFAULT_DC (task_id_from_string md5 user_id owner_id dummy tt tg dc_id x) (str user_id) tt
        (str (owner_id.getD user_id)) tg (str dc_id) := by
  have hids : [str user_id, str (owner_id.getD user_id), str dc_id].all isdigit = true := by
    simp only [List.all_cons, List.all_nil, isdigit_str, Bool.and_true]
  obtain ⟨suffix, hsuffix⟩ := exists_suffix md5
    (str user_id ++ tt ++ str (owner_id.getD user_id) ++ tg ++ str dc_id) (if dummy then some (str user_id) else none) x
  have hp := decodes_append DEFAULT_DC ⟨_, tt, _, tg, _, hids, htt, htg⟩ suffix
  rw [task_id_from_string, hsuffix]
  exact ⟨is_valid_task_id_iff.mpr ⟨⟨_, tt, _, tg, _, hids, htt, htg⟩, suffix, rfl⟩, hp⟩

/-- The given components of a valid id are replaced, the others are kept. -/
theorem decodes_task_id_from_task_id {task_id : Text} (hvalid : is_valid_task_id task_id = true) {given : Given}
    (hgiven : given.Valid) (keep_task_suffix : Bool) (x : Uuid4) :
    ∃ new user_id tt owner_id tg dc_id,
      task_id_from_task_id DEFAULT_DC md5 task_id given keep_task_suffix x = some new ∧ is_valid_task_id new = true ∧
      Decodes DEFAULT_DC task_id user_id tt owner_id tg dc_id ∧
      Decodes DEFAULT_DC new ((given.user_id.map str).getD user_id) (given.tt.getD tt)
        ((given.owner_id.map str).getD owner_id) (given.tg.getD tg) ((given.dc_id.map str).getD dc_id) ∧
      (keep_task_suffix = true → take_last 24 new = take_last 24 task_id) := by
  obtain ⟨p, suffix, rfl⟩ := is_valid_task_id_iff.mp hvalid
  have hnew : ∃ new_suffix : Suffix, task_id_from_task_id DEFAULT_DC md5 (p.str ++ suffix.str) given keep_task_suffix x =
      some ((p.replaced given hgiven.tt hgiven.tg).str ++ new_suffix.str) ∧
      (keep_task_suffix = true → new_suffix = suffix) := by
    rw [task_id_from_task_id, task_prefix_of_append DEFAULT_DC p suffix hgiven.tt hgiven.tg]
    cases keep_task_suffix with
    | true =>
      refine ⟨suffix, ?_, fun _ => rfl⟩
      rw [Option.map_some, if_pos rfl, take_last_append suffix.length_str]
    | false =>
      obtain ⟨new_suffix, hnew⟩ := exists_suffix md5 (p.replaced given hgiven.tt hgiven.tg).str none x
      refine ⟨new_suffix, ?_, fun h => by cases h⟩
      rw [Option.map_some, if_neg Bool.false_ne_true, hnew]
  obtain ⟨new_suffix, hnew, hkeep⟩ := hnew
  have huser := congrArg (Option.getD · p.user_id) (given_id_of_pos hgiven.user_id)
  have htt := congrArg (Option.getD · p.tt) (given_text_of_mem fun tt htt => Or.inl (hgiven.tt tt htt))
  have howner := congrArg (Option.getD · p.owner_id) (given_id_of_pos hgiven.owner_id)
  have htg := congrArg (Option.getD · p.tg) (given_text_of_mem fun tg htg => Or.inr (hgiven.tg tg htg))
  have hdc := congrArg (Option.getD · p.dc_id) (given_id_of_pos hgiven.dc_id)
  refine ⟨_, _, _, _, _, _, hnew, is_valid_task_id_iff.mpr ⟨_, new_suffix, rfl⟩,
    decodes_append DEFAULT_DC p suffix, ?_, ?_⟩
  · rw [← huser, ← htt, ← howner, ← htg, ← hdc]
    exact decodes_append DEFAULT_DC (p.replaced given hgiven.tt hgiven.tg) new_suffix
  · intro hsuffix
    rw [hkeep hsuffix, take_last_append suffix.length_str, take_last_append suffix.length_str]

/-- The ids that are made of their components, and those that are made of other ids, are valid and decoded as what
was asked for. -/
theorem decodes_exactly :
    (∀ user_id owner_id dc_id : ℕ, 0 < user_id → 0 < owner_id → 0 < dc_id → ∀ tt ∈ TT, ∀ tg ∈ TG, ∀ dummy x,
      is_valid_task_id (task_id_from_string md5 user_id (some owner_id) dummy tt tg dc_id x) = true ∧
        Decodes DEFAULT_DC (task_id_from_string md5 user_id (some owner_id) dummy tt tg dc_id x) (str user_id) tt
          (str owner_id) tg (str dc_id)) ∧
      ∀ task_id, is_valid_task_id task_id = true → ∀ given : Given, given.Valid → ∀ keep_task_suffix x,
        ∃ new user_id tt owner_id tg dc_id,
          task_id_from_task_id DEFAULT_DC md5 task_id given keep_task_suffix x = some new ∧
          is_valid_task_id new = true ∧ Decodes DEFAULT_DC task_id user_id tt owner_id tg dc_id ∧
          Decodes DEFAULT_DC new ((given.user_id.map str).getD user_id) (given.tt.getD tt)
            ((given.owner_id.map str).getD owner_id) (given.tg.getD tg) ((given.dc_id.map str).getD dc_id) ∧
          (keep_task_suffix = true → take_last 24 new = take_last 24 task_id) :=
  ⟨fun user_id owner_id dc_id _ _ _ _ htt _ htg dummy x =>
      decodes_task_id_from_string DEFAULT_DC md5 user_id (some owner_id) dummy dc_id x htt htg,
    fun _ hvalid _ hgiven keep_task_suffix x =>
      decodes_task_id_from_task_id DEFAULT_DC md5 hvalid hgiven keep_task_suffix x⟩

end codec

section witness

def uuid4_zero : Uuid4 where
  groups := [List.replicate 8 '0', List.replicate 4 '0', List.replicate 4 '0', List.replicate 4 '0',
    List.replicate 12 '0']
  lengths := by rfl
  not_dash := by decide

def md5_zero (_ : Text) : Hexdigest where
  cs := List.replicate 32 '0'
  length := by rfl
  not_dash := by decide

/-- An id of a user with two digits is given to another user and keeps its suffix. -/
theorem decodes_exactly_next_user :
    ∃ new, task_id_from_task_id ['1'] md5_zero
        (task_id_from_string md5_zero 10 (some 7) false TT_EXEC TG_DC_BOUND 123 uuid4_zero)
        ⟨some 42, none, none, some TG_DC_UNBOUND, none⟩ true uuid4_zero = some new ∧
      user_id_from_task_id ['1'] new = some (str 42) ∧ tg_from_task_id ['1'] new = some TG_DC_UNBOUND := by
  have hvalid := ((decodes_exactly ['1'] md5_zero).1 10 7 123 (by decide) (by decide) (by decide) TT_EXEC (by decide)
    TG_DC_BOUND (by decide) false uuid4_zero).1
  have hgiven : (⟨some 42, none, none, some TG_DC_UNBOUND, none⟩ : Given).Valid := by
    constructor
    · rintro n ⟨⟩
      decide
    · rintro n ⟨⟩
    · rintro n ⟨⟩
    · rintro tt ⟨⟩
    · rintro tg ⟨⟩
      decide
  obtain ⟨new, user_id, tt, owner_id, tg, dc_id, hnew, -, -, hdecodes, -⟩ :=
    (decodes_exactly ['1'] md5_zero).2 _ hvalid _ hgiven true uuid4_zero
  exact ⟨new, hnew, hdecodes.user_id_eq, hdecodes.tg_eq⟩

end witness

end que.task_id
