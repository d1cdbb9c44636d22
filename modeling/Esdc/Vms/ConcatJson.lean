import Mathlib
import Esdc.Lib.Fallible
import Esdc.Lib.Text

namespace vms.utils

open text (Text)

/-- `[ \t\n\r]*` -/
def WHITESPACE (c : Char) : Bool := c = ' ' || c = '\t' || c = '\n' || c = '\r'

/-- `WHITESPACE.match(s, idx).end()` -/
def whitespace_end (s : Text) (idx : ℕ) : ℕ := idx + ((s.drop idx).takeWhile WHITESPACE).length

inductive Error
  | ValueError
  deriving DecidableEq

/-- The decoder of the standard library: `raw_decode` parses the document at an index and returns
the index after it. The documents that begin and end with a bracket, the objects and the arrays,
are parsed whatever comes after them. -/
structure JSONDecoder (Obj : Type) where
  raw_decode : Text → ℕ → Except Error (Obj × ℕ)
  /-- A text of an object or of an array. -/
  Serialises : Obj → Text → Prop
  advances : ∀ s idx obj stop, raw_decode s idx = .ok (obj, stop) → idx < stop ∧ stop ≤ s.length
  first_char : ∀ obj doc, Serialises obj doc → ∃ c rest, doc = c :: rest ∧ WHITESPACE c = false
  parses : ∀ obj doc before after, Serialises obj doc →
    raw_decode (before ++ (doc ++ after)) before.length = .ok (obj, before.length + doc.length)

variable {Obj : Type}

/-- The loop from an index on, as long as there is fuel. -/
def decode_loop (decoder : JSONDecoder Obj) (s : Text) : ℕ → List Obj → ℕ → Option (Except Error (List Obj))
  | 0, _, _ => none
  | fuel + 1, objs, stop =>
    if stop ≠ s.length then
      match decoder.raw_decode s (whitespace_end s stop) with
      | .error e => some (.error e)
      | .ok (obj, stop) => decode_loop decoder s fuel (objs ++ [obj]) (whitespace_end s stop)
    else some (.ok objs)

def decode (decoder : JSONDecoder Obj) (s : Text) (fuel : ℕ) : Option (Except Error (List Obj)) :=
  decode_loop decoder s fuel [] 0

/-- The documents of a text from an index on: each begins where the whitespace after the one before ends,
and the last one is followed by whitespace only. -/
inductive Documents (decoder : JSONDecoder Obj) (s : Text) : ℕ → List Obj → Prop
  | nil : Documents decoder s s.length []
  | cons {start stop : ℕ} {obj : Obj} {objs : List Obj} (hstart : start ≠ s.length)
      (hobj : decoder.raw_decode s (whitespace_end s start) = .ok (obj, stop))
      (hrest : Documents decoder s (whitespace_end s stop) objs) : Documents decoder s start (obj :: objs)

/-- Documents with whitespace after each. -/
def concat : List (Text × Text) → Text
  | [] => []
  | (doc, space) :: docs => doc ++ (space ++ concat docs)

section whitespace

theorem whitespace_end_le (s : Text) {idx : ℕ} (hidx : idx ≤ s.length) : whitespace_end s idx ≤ s.length := by
  have htaken := (List.takeWhile_prefix WHITESPACE (l := s.drop idx)).length_le
  rw [List.length_drop] at htaken
  unfold whitespace_end
  omega

theorem le_whitespace_end (s : Text) (idx : ℕ) : idx ≤ whitespace_end s idx := Nat.le_add_right ..

/-- The whitespace before a character that is none, or before the end. -/
theorem whitespace_end_append {before space rest : Text} (hspace : ∀ c ∈ space, WHITESPACE c = true)
    (hrest : ∀ c ∈ rest.head?, WHITESPACE c = false) :
    whitespace_end (before ++ (space ++ rest)) before.length = before.length + space.length := by
  have hstop : rest.takeWhile WHITESPACE = [] := by
    cases rest with
    | nil => rfl
    | cons c rest => rw [List.takeWhile_cons_of_neg (by simpa using hrest c rfl)]
  rw [whitespace_end, List.drop_left, List.takeWhile_append_of_pos hspace, hstop, List.append_nil]

end whitespace

section termination

variable {decoder : JSONDecoder Obj} {s : Text}

/-- Every document shortens the rest of the text. -/
theorem decode_loop_terminates {fuel : ℕ} (objs : List Obj) {stop : ℕ} (hstop : stop ≤ s.length)
    (hfuel : s.length - stop < fuel) :
    decode_loop decoder s fuel objs stop = some (.error .ValueError) ∨
      ∃ rest, Documents decoder s stop rest ∧ decode_loop decoder s fuel objs stop = some (.ok (objs ++ rest)) := by
  induction fuel generalizing objs stop with
  | zero => omega
  | succ fuel ih =>
    rw [decode_loop]
    by_cases hend : stop = s.length
    · rw [if_neg (not_not.mpr hend), hend]
      exact .inr ⟨[], .nil, by rw [List.append_nil]⟩
    · rw [if_pos hend]
      cases hraw : decoder.raw_decode s (whitespace_end s stop) with
      | error e =>
        cases e
        exact .inl rfl
      | ok found =>
        obtain ⟨obj, next⟩ := found
        obtain ⟨hlt, hle⟩ := decoder.advances s _ obj next hraw
        have hfirst := le_whitespace_end s stop
        have hnext := le_whitespace_end s next
        have hbound := whitespace_end_le s hle
        rcases ih (objs ++ [obj]) hbound (by omega) with herror | ⟨rest, hrest, hok⟩
        · exact .inl herror
        · refine .inr ⟨obj :: rest, .cons hend hraw hrest, ?_⟩
          simp only [hok, List.append_assoc, List.singleton_append]

/-- The loop finds the documents one after the other. -/
theorem Documents.decode_loop_eq {start : ℕ} {objs : List Obj} (hobjs : Documents decoder s start objs) {fuel : ℕ}
    (found : List Obj) (hfuel : s.length - start < fuel) :
    decode_loop decoder s fuel found start = some (.ok (found ++ objs)) := by
  induction hobjs generalizing fuel found with
  | nil =>
    obtain ⟨fuel, rfl⟩ : ∃ n, fuel = n + 1 := ⟨fuel - 1, by omega⟩
    rw [decode_loop, if_neg (not_not.mpr rfl), List.append_nil]
  | @cons start stop obj objs hstart hobj _ ih =>
    obtain ⟨fuel, rfl⟩ : ∃ n, fuel = n + 1 := ⟨fuel - 1, by omega⟩
    obtain ⟨hlt, hle⟩ := decoder.advances s _ obj stop hobj
    have hfirst := le_whitespace_end s start
    have hnext := le_whitespace_end s stop
    rw [decode_loop, if_pos hstart, hobj]
    simp only
    rw [ih (found ++ [obj]) (by omega), List.append_assoc, List.singleton_append]

theorem documents_nil_iff : Documents decoder s 0 [] ↔ s = [] := by
  constructor
  · intro hdocuments
    generalize hstart : 0 = start at hdocuments
    cases hdocuments
    exact List.length_eq_zero_iff.mp hstart.symm
  · rintro rfl
    exact .nil

/-- The documents of a text are all there are. -/
theorem Documents.unique {start : ℕ} {objs objs' : List Obj} (hobjs : Documents decoder s start objs)
    (hobjs' : Documents decoder s start objs') : objs = objs' := by
  induction hobjs generalizing objs' with
  | nil =>
    generalize hend : s.length = stop at hobjs'
    cases hobjs' with
    | nil => rfl
    | cons hstart => exact absurd hend.symm hstart
  | cons hstart hobj _ ih =>
    cases hobjs' with
    | nil => exact absurd rfl hstart
    | cons hstart' hobj' hrest' =>
      rw [hobj] at hobj'
      cases hobj'
      rw [ih hrest']

end termination

section concat

variable {decoder : JSONDecoder Obj}

/-- The objects or arrays with their texts and the whitespace after them. -/
def Serialised (decoder : JSONDecoder Obj) (objs : List Obj) (docs : List (Text × Text)) : Prop :=
  List.Forall₂ (fun obj doc => decoder.Serialises obj doc.1 ∧ ∀ c ∈ doc.2, WHITESPACE c = true) objs docs

theorem head_concat {objs : List Obj} {docs : List (Text × Text)} (hdocs : Serialised decoder objs docs) :
    ∀ c ∈ (concat docs).head?, WHITESPACE c = false := by
  cases hdocs with
  | nil => exact fun _ hc => by cases hc
  | cons hdoc _ =>
    obtain ⟨first, rest, hfirst, hnot⟩ := decoder.first_char _ _ hdoc.1
    intro c hc
    rw [concat, hfirst] at hc
    cases hc
    exact hnot

/-- The objects and arrays of a concatenation are its documents. -/
theorem documents_concat {objs : List Obj} {docs : List (Text × Text)} (hdocs : Serialised decoder objs docs)
    (before : Text) : Documents decoder (before ++ concat docs) before.length objs := by
  induction hdocs generalizing before with
  | nil =>
    have hnil : (before ++ concat []).length = before.length := by simp [concat]
    rw [← hnil]
    exact .nil
  | @cons obj doc objs docs hdoc hrest ih =>
    obtain ⟨hobj, hspace⟩ := hdoc
    obtain ⟨first, rest, hfirst, hnot⟩ := decoder.first_char _ _ hobj
    have hat : whitespace_end (before ++ ([] ++ concat (doc :: docs))) before.length = before.length + 0 :=
      whitespace_end_append (fun _ hc => by cases hc) (head_concat (.cons ⟨hobj, hspace⟩ hrest))
    rw [List.nil_append, Nat.add_zero] at hat
    have hraw : decoder.raw_decode (before ++ concat (doc :: docs)) (whitespace_end (before ++ concat (doc :: docs))
        before.length) = .ok (obj, before.length + doc.1.length) := by
      rw [hat]
      exact decoder.parses obj doc.1 before (doc.2 ++ concat docs) hobj
    have hafter : whitespace_end (before ++ concat (doc :: docs)) (before.length + doc.1.length) =
        (before ++ doc.1 ++ doc.2).length := by
      have hsplit : whitespace_end (before ++ doc.1 ++ (doc.2 ++ concat docs)) (before ++ doc.1).length =
          (before ++ doc.1).length + doc.2.length := whitespace_end_append hspace (head_concat hrest)
      rw [List.length_append] at hsplit
      rw [concat, ← List.append_assoc before, hsplit, List.length_append, List.length_append]
    refine .cons ?_ hraw ?_
    · rw [concat, hfirst, List.length_append]
      simp
    · rw [hafter]
      have hrest_documents := ih (before ++ doc.1 ++ doc.2)
      simp only [List.append_assoc] at hrest_documents ⊢
      exact hrest_documents

/-- Also with whitespace before the first of them. -/
theorem documents_space_concat {objs : List Obj} {docs : List (Text × Text)} {space : Text} (hobjs : objs ≠ [])
    (hspace : ∀ c ∈ space, WHITESPACE c = true) (hdocs : Serialised decoder objs docs) :
    Documents decoder (space ++ concat docs) 0 objs := by
  have hdocuments := documents_concat hdocs space
  have hsame : whitespace_end (space ++ concat docs) space.length = whitespace_end (space ++ concat docs) 0 := by
    have hfirst : whitespace_end ([] ++ (space ++ concat docs)) ([] : Text).length = ([] : Text).length + space.length :=
      whitespace_end_append hspace (head_concat hdocs)
    have hsecond : whitespace_end (space ++ ([] ++ concat docs)) space.length = space.length + 0 :=
      whitespace_end_append (fun _ hc => by cases hc) (head_concat hdocs)
    rw [List.nil_append, List.length_nil, Nat.zero_add] at hfirst
    rw [hfirst]
    exact hsecond
  generalize hstart : space.length = start at hdocuments hsame
  cases hdocuments with
  | nil => exact absurd rfl hobjs
  | cons hne hobj hrest =>
    rw [hsame] at hobj
    refine .cons ?_ hobj hrest
    intro hzero
    rw [List.length_append] at hzero hne
    omega

/-- A concatenation of objects and arrays is decoded to them, and any text to all of its documents
or to an error. -/
theorem decode_documents (decoder : JSONDecoder Obj) :
    (∀ objs docs space, objs ≠ [] → (∀ c ∈ space, WHITESPACE c = true) → Serialised decoder objs docs →
      ∀ fuel, (space ++ concat docs).length < fuel →
        decode decoder (space ++ concat docs) fuel = some (.ok objs)) ∧
    ∀ s fuel, s.length < fuel →
      decode decoder s fuel = some (.error .ValueError) ∨
        ∃ objs, Documents decoder s 0 objs ∧ (objs = [] ↔ s = []) ∧ decode decoder s fuel = some (.ok objs) := by
  have hall : ∀ s fuel, s.length < fuel → decode decoder s fuel = some (.error .ValueError) ∨
      ∃ objs, Documents decoder s 0 objs ∧ decode decoder s fuel = some (.ok objs) :=
    fun s fuel hfuel => decode_loop_terminates [] (Nat.zero_le _) (by omega)
  constructor
  · intro objs docs space hobjs hspace hdocs fuel hfuel
    have hdocuments := documents_space_concat hobjs hspace hdocs
    exact hdocuments.decode_loop_eq [] hfuel
  · intro s fuel hfuel
    rcases hall s fuel hfuel with herror | ⟨objs, hdocuments, hok⟩
    · exact .inl herror
    · refine .inr ⟨objs, hdocuments, ?_, hok⟩
      constructor
      · rintro rfl
        exact documents_nil_iff.mp hdocuments
      · rintro rfl
        exact hdocuments.unique .nil

end concat

section examples

inductive Doc
  | empty_object
  | empty_array
  | number (digits : Text)
  deriving DecidableEq

/-- The document at the beginning of a text, and its length. -/
def scan_once : Text → Except Error (Doc × ℕ)
  | '{' :: '}' :: _ => .ok (.empty_object, 2)
  | '[' :: ']' :: _ => .ok (.empty_array, 2)
  | cs =>
    let digits := cs.takeWhile Char.isDigit
    if digits = [] then .error .ValueError else .ok (.number digits, digits.length)

theorem scan_once_length {cs : Text} {doc : Doc} {n : ℕ} (hscan : scan_once cs = .ok (doc, n)) :
    0 < n ∧ n ≤ cs.length := by
  unfold scan_once at hscan
  split at hscan
  · cases hscan
    simp
  · cases hscan
    simp
  · simp only at hscan
    split at hscan
    · cases hscan
    · case isFalse hne =>
      cases hscan
      exact ⟨List.length_pos_iff.mpr hne, (List.takeWhile_prefix _).length_le⟩

/-- Empty objects, empty arrays and numbers. -/
def small_decoder : JSONDecoder Doc where
  raw_decode s idx := (scan_once (s.drop idx)).map fun found => (found.1, idx + found.2)
  Serialises obj doc := (obj = .empty_object ∧ doc = ['{', '}']) ∨ (obj = .empty_array ∧ doc = ['[', ']'])
  advances := by
    intro s idx obj stop hraw
    obtain ⟨⟨doc, n⟩, hscan, heq⟩ := Fallible.map_eq_ok.mp hraw
    cases heq
    obtain ⟨hpos, hle⟩ := scan_once_length hscan
    rw [List.length_drop] at hle
    simp only
    omega
  first_char := by
    rintro obj doc (⟨-, rfl⟩ | ⟨-, rfl⟩)
    · exact ⟨'{', ['}'], rfl, rfl⟩
    · exact ⟨'[', [']'], rfl, rfl⟩
  parses := by
    rintro obj doc before after (⟨rfl, rfl⟩ | ⟨rfl, rfl⟩)
    · rw [List.drop_left]
      rfl
    · rw [List.drop_left]
      rfl

/-- An object and an array, with whitespace in front of each. -/
theorem decode_documents_brackets :
    decode small_decoder [' ', '{', '}', '\n', '[', ']'] 7 = some (.ok [.empty_object, .empty_array]) := by
  have hdocs : Serialised small_decoder [.empty_object, .empty_array] [(['{', '}'], ['\n']), (['[', ']'], [])] :=
    .cons ⟨.inl ⟨rfl, rfl⟩, List.forall_mem_singleton.mpr rfl⟩ (.cons ⟨.inr ⟨rfl, rfl⟩, List.forall_mem_nil _⟩ .nil)
  exact (decode_documents small_decoder).1 _ _ [' '] (List.cons_ne_nil _ _) (List.forall_mem_singleton.mpr rfl) hdocs 7
    (by decide)

/-- A number is decoded too, to the list of it. -/
theorem not_error_of_number :
    ¬ ∀ s : Text, (¬ ∃ objs docs space, objs ≠ [] ∧ (∀ c ∈ space, WHITESPACE c = true) ∧
        Serialised small_decoder objs docs ∧ s = space ++ concat docs) →
      ∃ fuel, decode small_decoder s fuel = some (.error .ValueError) ∨
        (s = [] ∧ decode small_decoder s fuel = some (.ok [])) := by
  intro hclaim
  have hother : ¬ ∃ objs docs space, objs ≠ [] ∧ (∀ c ∈ space, WHITESPACE c = true) ∧
      Serialised small_decoder objs docs ∧ ['1'] = space ++ concat docs := by
    rintro ⟨objs, docs, space, hobjs, hspace, hdocs, heq⟩
    cases hdocs with
    | nil => exact hobjs rfl
    | cons hdoc hrest =>
      have hlength := congrArg List.length heq
      rcases hdoc.1 with ⟨-, hdoc⟩ | ⟨-, hdoc⟩
      · rw [concat, hdoc, List.length_append, List.length_append] at hlength
        simp at hlength
        omega
      · rw [concat, hdoc, List.length_append, List.length_append] at hlength
        simp at hlength
        omega
  have hone : ∀ fuel, 1 < fuel → decode small_decoder ['1'] fuel = some (.ok [.number ['1']]) := by
    intro fuel hfuel
    obtain ⟨fuel, rfl⟩ : ∃ n, fuel = n + 2 := ⟨fuel - 2, by omega⟩
    rfl
  obtain ⟨fuel, hresult⟩ := hclaim ['1'] hother
  rcases Nat.lt_or_ge 1 fuel with hfuel | hfuel
  · rw [hone fuel hfuel] at hresult
    rcases hresult with herror | ⟨hempty, -⟩
    · cases herror
    · cases hempty
  · have hfew : decode small_decoder ['1'] fuel = none := by
      interval_cases fuel <;> rfl
    rw [hfew] at hresult
    rcases hresult with herror | ⟨-, hok⟩
    · cases herror
    · cases hok

end examples

end vms.utils
