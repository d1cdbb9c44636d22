import Mathlib
import Esdc.Lib.Dict
import Esdc.Lib.Text
import Esdc.Lib.Transition

namespace pdns.soa

open text (Text IsWord words fields strip join signed)

/-- The characters that `split` and `strip` take for spaces. -/
def isspace (c : Char) : Bool :=
  c.toNat ∈ [0x20, 0x85, 0xa0, 0x1680, 0x180e, 0x2028, 0x2029, 0x202f, 0x205f, 0x3000] ||
    (9 ≤ c.toNat && c.toNat ≤ 13) || (0x1c ≤ c.toNat && c.toNat ≤ 0x1f) || (0x2000 ≤ c.toNat && c.toNat ≤ 0x200a)

abbrev int (field : Text) : Option ℤ := text.int isspace field

section validators

/-- The characters of a label, in both cases. -/
def is_label_char (c : Char) : Bool := ('a' ≤ c && c ≤ 'z') || ('A' ≤ c && c ≤ 'Z') || c.isDigit || c = '/' || c = '-'

/-- `re_fqdn_parts.match`, where `$` also matches in front of a line break at the end. -/
def re_fqdn_parts (part : Text) : Bool :=
  let label := if part.getLast? = some '\n' then part.dropLast else part
  1 ≤ label.length && label.length ≤ 63 && label.all is_label_char &&
    label.head?.all (fun c => c ≠ '-' && c ≠ '/') && label.getLast?.all fun c => c ≠ '-' && c ≠ '/'

def is_valid_fqdn (value : Text) : Bool :=
  if value = [] || 255 < value.length then false
  else
    let value := if value.getLast? = some '.' then value.dropLast else value
    (fields '.' value).all re_fqdn_parts

def in_range (low high : ℤ) (field : Text) : Bool := (int field).any fun n => low ≤ n && n ≤ high

/-- The first of the interval fields that is not valid. -/
def invalid_interval : List (Text × String) → Option String
  | [] => none
  | (field, field_name) :: intervals =>
    if in_range (-2147483647) 2147483647 field then invalid_interval intervals
    else some ("Invalid " ++ field_name ++ " field.")

def SOARecordValidator (domain name content : Text) : Except String Unit :=
  if name ≠ domain then .error "Name has to be the same as domain name for a SOA record."
  else
    match fields ' ' (strip isspace content) with
    | [name_server, email, serial, refresh, retry, expiry, min_ttl] =>
      if !is_valid_fqdn name_server then .error "Invalid name server field."
      else if !is_valid_fqdn email then .error "Invalid email address field."
      else if !in_range 0 4294967295 serial then .error "Invalid serial number field."
      else
        match invalid_interval [(refresh, "refresh"), (retry, "retry"), (expiry, "expiry"), (min_ttl, "min-ttl")] with
        | some message => .error message
        | none => .ok ()
    | _ => .error "Invalid number of SOA fields."

end validators

section records

inductive RecordType
  | SOA | NS | MX | A | AAAA | CNAME | TXT | PTR | SRV | SPF | HINFO | NAPTR | SSHFP | RP | LOC | KEY | CERT | TLSA
  deriving DecidableEq

structure Record where
  domain_id : ℕ
  name : Text
  type : RecordType
  content : Text
  deriving DecidableEq

/-- The names of the domains and the records, by their primary keys. -/
structure Db where
  domains : ℕ → Option Text
  records : Dict ℕ Record

inductive Error
  | IndexError
  | ValueError
  | MultipleObjectsReturned
  deriving DecidableEq

def MAX_UINT32 : ℤ := 4294967295

def increment (soa_serial : ℤ) : ℤ :=
  if 0 < soa_serial ∧ soa_serial < MAX_UINT32 then soa_serial + 1
  else if MAX_UINT32 ≤ soa_serial then 1
  else soa_serial

def increment_content (content : Text) : Except Error Text :=
  match words isspace content with
  | name_server :: email :: serial :: rest =>
    match int serial with
    | some soa_serial => .ok (join ' ' (name_server :: email :: text.str (increment soa_serial) :: rest))
    | none => .error .ValueError
  | _ => .error .IndexError

/-- The SOA records of a domain. -/
def Db.soa_records (db : Db) (domain_id : ℕ) : Dict ℕ Record :=
  db.records.filter fun _ record => record.type = .SOA && record.domain_id = domain_id

/-- A record whose domain does not exist is ignored, and so is a domain without a SOA record. -/
def increment_SOA_serial (db : Db) (instance_ : Record) : Except Error Db :=
  if instance_.type = .SOA then .ok db
  else
    match db.domains instance_.domain_id with
    | none => .ok db
    | some _ =>
      match (db.soa_records instance_.domain_id).entries with
      | [] => .ok db
      | [⟨id, soa_rec⟩] => do
        let content ← increment_content soa_rec.content
        return { db with records := db.records.insert id { soa_rec with content } }
      | _ => .error .MultipleObjectsReturned

def post_save_record (db : Db) (instance_ : Record) : Except Error Db := increment_SOA_serial db instance_

def post_delete_record (db : Db) (instance_ : Record) : Except Error Db := increment_SOA_serial db instance_

def save (db : Db) (id : ℕ) (record : Record) : Except Error Db :=
  post_save_record { db with records := db.records.insert id record } record

def delete (db : Db) (id : ℕ) (record : Record) : Except Error Db :=
  post_delete_record { db with records := db.records.erase id } record

end records

section changes

/-- A record is created or changed, or an existing one is deleted. -/
inductive Change
  | save (id : ℕ) (record : Record)
  | delete (id : ℕ)

/-- Exceptions are `none`. -/
def step (db : Db) : Change → Option Db
  | .save id record => (save db id record).toOption
  | .delete id => (db.records.lookup id).bind fun record => (delete db id record).toOption

/-- The record that is changed is no SOA record, and was none. -/
def Regular (db : Db) : Change → Prop
  | .save id record => record.type ≠ .SOA ∧ ∀ old, db.records.lookup id = some old → old.type ≠ .SOA
  | .delete id => ∃ record, db.records.lookup id = some record ∧ record.type ≠ .SOA

/-- The record that a change saves or deletes. -/
def Change.record (db : Db) : Change → Option Record
  | .save _ record => some record
  | .delete id => db.records.lookup id

/-- The serial in a content. -/
def serial (content : Text) : Option ℤ := (words isspace content)[2]?.bind int

/-- The comparison of serial numbers modulo `2 ^ bits`. -/
def Ahead (bits : ℕ) (new old : ℤ) : Prop :=
  old < new ∧ new - old < 2 ^ (bits - 1) ∨ new < old ∧ 2 ^ (bits - 1) < old - new

end changes

section increment

variable {s : ℤ}

/-- The serial after some increments. -/
theorem iterate_increment (n : ℕ) (hlow : 1 ≤ s) (hhigh : s ≤ MAX_UINT32) :
    increment^[n] s = (s - 1 + n) % MAX_UINT32 + 1 := by
  induction n with
  | zero =>
    unfold MAX_UINT32 at hhigh ⊢
    rw [Function.iterate_zero_apply]
    omega
  | succ n ih =>
    rw [Function.iterate_succ_apply', ih]
    unfold increment MAX_UINT32
    push_cast
    split
    · omega
    · split
      · omega
      · omega

/-- The serial is ahead of every serial it had less than half of the cycle before. -/
theorem ahead_iterate (n : ℕ) (hlow : 1 ≤ s) (hhigh : s ≤ MAX_UINT32) (hpos : 0 < n) (hn : n < 2 ^ 31 - 1) :
    Ahead 32 (increment^[n] s) s := by
  rw [iterate_increment n hlow hhigh]
  unfold MAX_UINT32 at hhigh ⊢
  unfold Ahead
  omega

theorem iterate_increment_range (n : ℕ) (hlow : 1 ≤ s) (hhigh : s ≤ MAX_UINT32) :
    1 ≤ increment^[n] s ∧ increment^[n] s ≤ MAX_UINT32 := by
  rw [iterate_increment n hlow hhigh]
  unfold MAX_UINT32
  omega

/-- A serial of zero stays. -/
theorem iterate_increment_zero (n : ℕ) : increment^[n] 0 = 0 := Function.iterate_fixed rfl n

end increment

section content

theorem isspace_of_is_label_char {c : Char} (hc : is_label_char c = true) : isspace c = false := by
  have hrange : (33 ≤ c.toNat ∧ c.toNat ≤ 126) := by
    simp only [is_label_char, Char.isDigit, Bool.or_eq_true, Bool.and_eq_true, decide_eq_true_eq] at hc
    simp only [Char.le_def, UInt32.le_iff_toNat_le] at hc
    rcases hc with (((hc | hc) | hc) | rfl) | rfl
    · exact ⟨le_trans (by decide) hc.1, le_trans hc.2 (by decide)⟩
    · exact ⟨le_trans (by decide) hc.1, le_trans hc.2 (by decide)⟩
    · exact ⟨le_trans (by decide) hc.1, le_trans hc.2 (by decide)⟩
    · decide
    · decide
  simp only [isspace, Bool.or_eq_false_iff, Bool.and_eq_false_iff, decide_eq_false_iff_not, List.mem_cons,
    List.not_mem_nil, or_false]
  omega

theorem isspace_of_isDigit (c : Char) (hc : c.isDigit = true) : isspace c = false :=
  isspace_of_is_label_char (by simp [is_label_char, hc])

theorem isWord_of_int {field : Text} {n : ℤ} (hfield : int field = some n) : IsWord isspace (strip isspace field) :=
  text.isWord_of_signed isspace_of_isDigit (by decide) (by decide) hfield

/-- The words of a field with a number in it. -/
theorem words_of_int {field : Text} {n : ℤ} (hfield : int field = some n) :
    words isspace field = [strip isspace field] := by
  rw [← text.words_strip, text.words_of_isWord (isWord_of_int hfield)]

theorem int_strip {field : Text} {n : ℤ} (hfield : int field = some n) : int (strip isspace field) = some n := by
  rw [int, text.int, text.strip_of_isWord (isWord_of_int hfield).2]
  exact hfield

theorem int_str (n : ℤ) : int (text.str n) = some n := text.int_str isspace_of_isDigit (by decide) (by decide) n

theorem isWord_str (n : ℤ) : IsWord isspace (text.str n) := text.isWord_str isspace_of_isDigit (by decide) (by decide) n

theorem mem_dropLast_or {cs : Text} {last c : Char} (hlast : cs.getLast? = some last) (hc : c ∈ cs) :
    c ∈ cs.dropLast ∨ c = last := by
  rw [← List.dropLast_append_getLast? last hlast] at hc
  simpa using hc

theorem is_label_char_of_part {part : Text} (hpart : re_fqdn_parts part = true) {c : Char} (hc : c ∈ part) :
    is_label_char c = true ∨ c = '\n' := by
  simp only [re_fqdn_parts, Bool.and_eq_true] at hpart
  have hall := List.all_eq_true.mp hpart.1.1.2
  by_cases hlast : part.getLast? = some '\n'
  · rw [if_pos hlast] at hall
    rcases mem_dropLast_or hlast hc with hlabel | hbreak
    · exact Or.inl (hall c hlabel)
    · exact Or.inr hbreak
  · rw [if_neg hlast] at hall
    exact Or.inl (hall c hc)

theorem is_label_char_of_name {value : Text} (hvalid : is_valid_fqdn value = true) {c : Char} (hc : c ∈ value) :
    is_label_char c = true ∨ c = '\n' ∨ c = '.' := by
  unfold is_valid_fqdn at hvalid
  split at hvalid
  · cases hvalid
  have hparts := List.all_eq_true.mp hvalid
  have hchar : ∀ c ∈ (if value.getLast? = some '.' then value.dropLast else value),
      is_label_char c = true ∨ c = '\n' ∨ c = '.' := by
    intro c hc
    have hsplit : c = '.' ∨ ∃ part ∈ fields '.' (if value.getLast? = some '.' then value.dropLast else value), c ∈ part :=
      text.exists_mem_fields hc
    rcases hsplit with hdot | ⟨part, hpart, hmem⟩
    · exact Or.inr (Or.inr hdot)
    · rcases is_label_char_of_part (hparts part hpart) hmem with hlabel | hbreak
      · exact Or.inl hlabel
      · exact Or.inr (Or.inl hbreak)
  by_cases hlast : value.getLast? = some '.'
  · rw [if_pos hlast] at hchar
    rcases mem_dropLast_or hlast hc with hmem | hdot
    · exact hchar c hmem
    · exact Or.inr (Or.inr hdot)
  · rw [if_neg hlast] at hchar
    exact hchar c hc

/-- A valid name has no space in it but for line breaks. -/
theorem isWord_of_is_valid_fqdn {value : Text} (hvalid : is_valid_fqdn value = true) (hbreak : '\n' ∉ value) :
    IsWord isspace value := by
  constructor
  · intro hempty
    rw [hempty] at hvalid
    cases hvalid
  · intro c hc
    rcases is_label_char_of_name hvalid hc with hlabel | rfl | rfl
    · exact isspace_of_is_label_char hlabel
    · exact absurd hc hbreak
    · decide

/-- The names in a content have no line breaks, which `$` would accept. -/
def Unbroken (content : Text) : Prop := ∀ field ∈ (fields ' ' (strip isspace content)).take 2, '\n' ∉ field

theorem int_of_in_range {low high : ℤ} {field : Text} (hrange : in_range low high field = true) :
    ∃ n, int field = some n ∧ low ≤ n ∧ n ≤ high := by
  rw [in_range, Option.any_eq_true] at hrange
  obtain ⟨n, hn, hbounds⟩ := hrange
  rw [Bool.and_eq_true, decide_eq_true_eq, decide_eq_true_eq] at hbounds
  exact ⟨n, hn, hbounds⟩

theorem of_check {p : Bool} {message : String} {rest : Except String Unit}
    (hcheck : (if !p then .error message else rest) = .ok ()) : p = true ∧ rest = .ok () := by
  cases p with
  | false => cases hcheck
  | true => exact ⟨rfl, hcheck⟩

/-- An accepted content has a serial of 32 bits where the increment looks for it. -/
theorem serial_of_valid {domain name content : Text} (hvalid : SOARecordValidator domain name content = .ok ())
    (hunbroken : Unbroken content) : ∃ s, serial content = some s ∧ 0 ≤ s ∧ s ≤ MAX_UINT32 := by
  unfold SOARecordValidator at hvalid
  split at hvalid
  · cases hvalid
  split at hvalid
  · case h_1 name_server email soa_serial refresh retry expiry min_ttl hfields =>
    obtain ⟨hname, hvalid⟩ := of_check hvalid
    obtain ⟨hemail, hvalid⟩ := of_check hvalid
    obtain ⟨s, hs, hlow, hhigh⟩ := int_of_in_range (of_check hvalid).1
    rw [Unbroken, hfields] at hunbroken
    have hfirst := isWord_of_is_valid_fqdn hname (hunbroken _ List.mem_cons_self)
    have hsecond := isWord_of_is_valid_fqdn hemail (hunbroken _ (List.mem_cons_of_mem _ List.mem_cons_self))
    have hwords : words isspace content = name_server :: email :: strip isspace soa_serial ::
        [refresh, retry, expiry, min_ttl].flatMap (words isspace) := by
      have hspace : isspace ' ' = true := by decide
      rw [← text.words_strip, text.words_eq_flatMap hspace, hfields]
      simp only [List.flatMap_cons, text.words_of_isWord hfirst, text.words_of_isWord hsecond, words_of_int hs]
      rfl
    refine ⟨s, ?_, hlow, hhigh⟩
    rw [serial, hwords]
    exact int_strip hs
  · cases hvalid

/-- The serial is incremented and nothing else is changed. -/
theorem increment_content_of_serial {content : Text} {s : ℤ} (hserial : serial content = some s) :
    ∃ content', increment_content content = .ok content' ∧ serial content' = some (increment s) ∧
      (words isspace content').eraseIdx 2 = (words isspace content).eraseIdx 2 := by
  have hmem : ∀ word ∈ words isspace content, IsWord isspace word := fun _ => text.isWord_of_mem
  unfold serial increment_content at *
  generalize words isspace content = ws at *
  rcases ws with _ | ⟨first, _ | ⟨second, _ | ⟨third, rest⟩⟩⟩
  · cases hserial
  · cases hserial
  · cases hserial
  · have hthird : int third = some s := hserial
    simp only [hthird]
    have hjoin : words isspace (join ' ' (first :: second :: text.str (increment s) :: rest)) =
        first :: second :: text.str (increment s) :: rest := by
      apply text.words_join (by decide)
      simp only [List.forall_mem_cons] at hmem ⊢
      exact ⟨hmem.1, hmem.2.1, isWord_str _, hmem.2.2.2⟩
    refine ⟨_, rfl, ?_, ?_⟩
    · rw [hjoin]
      exact int_str _
    · rw [hjoin]
      rfl

end content

section changes

variable {db db' : Db} {id domain_id : ℕ} {soa : Record}

/-- The only SOA record of a domain. -/
structure IsSoa (db : Db) (domain_id id : ℕ) (soa : Record) : Prop where
  domain : (db.domains domain_id).isSome
  lookup : db.records.lookup id = some soa
  type : soa.type = .SOA
  domain_id_eq : soa.domain_id = domain_id
  unique : ∀ id' record, db.records.lookup id' = some record → record.type = .SOA →
    record.domain_id = domain_id → id' = id

theorem soa_records_of_isSoa (hsoa : IsSoa db domain_id id soa) :
    (db.soa_records domain_id).entries = [⟨id, soa⟩] := by
  have hnodup : (db.soa_records domain_id).entries.Nodup := (db.soa_records domain_id).nodupKeys.nodup
  have hmem : ∀ e, e ∈ (db.soa_records domain_id).entries ↔ e = ⟨id, soa⟩ := by
    rintro ⟨id', record⟩
    constructor
    · intro he
      have hlookup := AList.mem_lookup_iff.mpr he
      rw [Db.soa_records, Dict.lookup_filter, Option.mem_def, Option.filter_eq_some_iff] at hlookup
      obtain ⟨hrecord, hcondition⟩ := hlookup
      rw [Bool.and_eq_true, decide_eq_true_eq, decide_eq_true_eq] at hcondition
      obtain rfl := hsoa.unique id' record hrecord hcondition.1 hcondition.2
      rw [hsoa.lookup] at hrecord
      cases hrecord
      rfl
    · rintro h
      cases h
      apply AList.mem_lookup_iff.mp
      rw [Db.soa_records, Dict.lookup_filter, Option.mem_def, hsoa.lookup, Option.filter_eq_some_iff]
      exact ⟨rfl, by simp [hsoa.type, hsoa.domain_id_eq]⟩
  apply List.perm_singleton.mp
  rw [List.perm_ext_iff_of_nodup hnodup (List.nodup_singleton _)]
  intro e
  rw [hmem, List.mem_singleton]

/-- Other records may change as long as none becomes a SOA record of the domain. -/
theorem IsSoa.update {records : Dict ℕ Record} {soa' : Record} (hsoa : IsSoa db domain_id id soa)
    (hlookup : records.lookup id = some soa') (htype : soa'.type = .SOA) (hdomain : soa'.domain_id = domain_id)
    (hothers : ∀ id' record, id' ≠ id → records.lookup id' = some record → record.type = .SOA →
      record.domain_id = domain_id → ∃ old, db.records.lookup id' = some old ∧ old.type = .SOA ∧
        old.domain_id = domain_id) : IsSoa { db with records } domain_id id soa' where
  domain := hsoa.domain
  lookup := hlookup
  type := htype
  domain_id_eq := hdomain
  unique id' record hrecord htype hdomain := by
    by_contra hne
    obtain ⟨old, hold, holdtype, holddomain⟩ := hothers id' record hne hrecord htype hdomain
    exact hne (hsoa.unique id' old hold holdtype holddomain)

/-- A change of a record of the domain increments its serial. -/
theorem increment_of_domain {instance_ : Record} {s : ℤ} (hsoa : IsSoa db domain_id id soa)
    (htype : instance_.type ≠ .SOA) (hdomain : instance_.domain_id = domain_id)
    (hserial : serial soa.content = some s) :
    ∃ content, increment_SOA_serial db instance_ =
        .ok { db with records := db.records.insert id { soa with content } } ∧
      serial content = some (increment s) ∧
      (words isspace content).eraseIdx 2 = (words isspace soa.content).eraseIdx 2 := by
  obtain ⟨content, hcontent, hrest⟩ := increment_content_of_serial hserial
  obtain ⟨name, hname⟩ := Option.isSome_iff_exists.mp hsoa.domain
  refine ⟨content, ?_, hrest⟩
  rw [increment_SOA_serial, if_neg htype, hdomain, hname]
  simp only [soa_records_of_isSoa hsoa, hcontent]
  rfl

/-- A change of a record of another domain leaves the SOA record alone. -/
theorem increment_of_other {instance_ : Record} (hsoa : IsSoa db domain_id id soa)
    (hdomain : instance_.domain_id ≠ domain_id) (hincrement : increment_SOA_serial db instance_ = .ok db') :
    IsSoa db' domain_id id soa := by
  unfold increment_SOA_serial at hincrement
  split at hincrement
  · cases hincrement
    exact hsoa
  split at hincrement
  · cases hincrement
    exact hsoa
  split at hincrement
  · cases hincrement
    exact hsoa
  · case h_2 other other_soa hentries =>
    have hother : db.records.lookup other = some other_soa ∧ other_soa.domain_id = instance_.domain_id := by
      have hmem : (⟨other, other_soa⟩ : Σ _ : ℕ, Record) ∈ (db.soa_records instance_.domain_id).entries := by
        rw [hentries]
        exact List.mem_singleton_self _
      have hlookup := AList.mem_lookup_iff.mpr hmem
      rw [Db.soa_records, Dict.lookup_filter, Option.mem_def, Option.filter_eq_some_iff, Bool.and_eq_true,
        decide_eq_true_eq, decide_eq_true_eq] at hlookup
      exact ⟨hlookup.1, hlookup.2.2⟩
    have hne : id ≠ other := by
      rintro rfl
      have hsame := hsoa.lookup.symm.trans hother.1
      cases hsame
      exact hdomain (hother.2.symm.trans hsoa.domain_id_eq)
    cases hcontent : increment_content other_soa.content with
    | error e =>
      rw [hcontent] at hincrement
      cases hincrement
    | ok content =>
      rw [hcontent] at hincrement
      cases hincrement
      refine hsoa.update ((AList.lookup_insert_ne hne).trans hsoa.lookup) hsoa.type hsoa.domain_id_eq ?_
      intro id' record hid' hrecord htype hrecord_domain
      by_cases hsame : id' = other
      · rw [hsame, AList.lookup_insert] at hrecord
        cases hrecord
        exact absurd (hother.2.symm.trans hrecord_domain) hdomain
      · rw [AList.lookup_insert_ne hsame] at hrecord
        exact ⟨record, hrecord, htype, hrecord_domain⟩
  · cases hincrement

/-- The SOA record before the increment of a regular change. -/
theorem isSoa_of_regular {change : Change} (hsoa : IsSoa db domain_id id soa) (hregular : Regular db change) :
    ∃ records record, change.record db = some record ∧ record.type ≠ .SOA ∧
      step db change = (increment_SOA_serial { db with records } record).toOption ∧
      IsSoa { db with records } domain_id id soa := by
  cases change with
  | save id' record =>
    have hne : id ≠ id' := by
      rintro rfl
      exact hregular.2 soa hsoa.lookup hsoa.type
    refine ⟨db.records.insert id' record, record, rfl, hregular.1, rfl, ?_⟩
    refine hsoa.update ((AList.lookup_insert_ne hne).trans hsoa.lookup) hsoa.type hsoa.domain_id_eq ?_
    intro id'' record' _ hrecord' htype hdomain
    by_cases hsame : id'' = id'
    · rw [hsame, AList.lookup_insert] at hrecord'
      cases hrecord'
      exact absurd htype hregular.1
    · rw [AList.lookup_insert_ne hsame] at hrecord'
      exact ⟨record', hrecord', htype, hdomain⟩
  | delete id' =>
    obtain ⟨record, hrecord, htype⟩ := hregular
    have hne : id ≠ id' := by
      rintro rfl
      rw [hsoa.lookup] at hrecord
      cases hrecord
      exact htype hsoa.type
    refine ⟨db.records.erase id', record, hrecord, htype, ?_, ?_⟩
    · rw [step, hrecord]
      rfl
    · refine hsoa.update ((AList.lookup_erase_ne hne).trans hsoa.lookup) hsoa.type hsoa.domain_id_eq ?_
      intro id'' record' _ hrecord' htype' hdomain
      by_cases hsame : id'' = id'
      · rw [hsame, AList.lookup_erase] at hrecord'
        cases hrecord'
      · rw [AList.lookup_erase_ne hsame] at hrecord'
        exact ⟨record', hrecord', htype', hdomain⟩

/-- The change is one of a record of the domain. -/
def Change.concerns (change : Change) (db : Db) (domain_id : ℕ) : Bool :=
  (change.record db).any fun record => record.domain_id = domain_id

/-- A regular change of a record of the domain succeeds and increments the serial. -/
theorem step_of_concerns {change : Change} {s : ℤ} (hsoa : IsSoa db domain_id id soa) (hregular : Regular db change)
    (hconcerns : change.concerns db domain_id = true) (hserial : serial soa.content = some s) :
    ∃ db' content, step db change = some db' ∧ IsSoa db' domain_id id { soa with content } ∧
      serial content = some (increment s) ∧
      (words isspace content).eraseIdx 2 = (words isspace soa.content).eraseIdx 2 := by
  obtain ⟨records, record, hrecord, htype, hstep, hbefore⟩ := isSoa_of_regular hsoa hregular
  rw [Change.concerns, hrecord, Option.any_some, decide_eq_true_eq] at hconcerns
  obtain ⟨content, hincrement, hcontent⟩ := increment_of_domain hbefore htype hconcerns hserial
  refine ⟨_, content, by rw [hstep, hincrement]; rfl, ?_, hcontent⟩
  refine hbefore.update (AList.lookup_insert _) hsoa.type hsoa.domain_id_eq ?_
  intro id' record' hne hrecord' htype' hdomain
  rw [AList.lookup_insert_ne hne] at hrecord'
  exact ⟨record', hrecord', htype', hdomain⟩

/-- Other regular changes leave the SOA record alone. -/
theorem step_of_not_concerns {change : Change} (hsoa : IsSoa db domain_id id soa) (hregular : Regular db change)
    (hconcerns : change.concerns db domain_id = false) (hstep : step db change = some db') :
    IsSoa db' domain_id id soa := by
  obtain ⟨records, record, hrecord, _, heq, hbefore⟩ := isSoa_of_regular hsoa hregular
  rw [Change.concerns, hrecord, Option.any_some, decide_eq_false_iff_not] at hconcerns
  rw [heq] at hstep
  cases hincrement : increment_SOA_serial { db with records } record with
  | error e =>
    rw [hincrement] at hstep
    cases hstep
  | ok db'' =>
    rw [hincrement] at hstep
    cases hstep
    exact increment_of_other hbefore hconcerns hincrement

/-- A step that also counts the changes of the records of the domain. -/
def counted (domain_id : ℕ) (s : Db × ℕ) (change : Change) : Option (Db × ℕ) :=
  (step s.1 change).map fun db => (db, if change.concerns s.1 domain_id then s.2 + 1 else s.2)

/-- The serial is incremented once for every change of the records of the domain. -/
theorem serial_of_run {changes : List Change} {s : ℤ} {state : Db × ℕ}
    (hsoa : IsSoa db domain_id id soa) (hserial : serial soa.content = some s)
    (hrun : transition.Run (counted domain_id) (fun state => Regular state.1) (db, 0) changes state) :
    ∃ content, IsSoa state.1 domain_id id { soa with content } ∧
      serial content = some (increment^[state.2] s) ∧
      (words isspace content).eraseIdx 2 = (words isspace soa.content).eraseIdx 2 := by
  have hinit : ∃ content, IsSoa db domain_id id { soa with content } ∧ serial content = some (increment^[0] s) ∧
      (words isspace content).eraseIdx 2 = (words isspace soa.content).eraseIdx 2 := ⟨soa.content, hsoa, hserial, rfl⟩
  apply hrun.invariant ?_ hinit
  rintro ⟨db, n⟩ change state' ⟨content, hsoa, hserial, hsame⟩ hregular hstep
  obtain ⟨db', hdb', rfl⟩ := Option.map_eq_some_iff.mp hstep
  cases hconcerns : change.concerns db domain_id with
  | true =>
    obtain ⟨db'', content', hstep', hsoa', hserial', hsame'⟩ := step_of_concerns hsoa hregular hconcerns hserial
    rw [hdb'] at hstep'
    cases hstep'
    refine ⟨content', hsoa', ?_, hsame'.trans hsame⟩
    rw [if_pos rfl, Function.iterate_succ_apply']
    exact hserial'
  | false => exact ⟨content, step_of_not_concerns hsoa hregular hconcerns hdb', hserial, hsame⟩

/-- The serial of an accepted SOA record advances with every change of the records of its domain, unless it is zero,
and nothing else in its content is changed. -/
theorem serial_advances {domain name : Text} {changes : List Change} {n : ℕ} (hsoa : IsSoa db domain_id id soa)
    (hvalid : SOARecordValidator domain name soa.content = .ok ()) (hunbroken : Unbroken soa.content)
    (hrun : transition.Run (counted domain_id) (fun state => Regular state.1) (db, 0) changes (db', n)) :
    ∃ s content, serial soa.content = some s ∧ IsSoa db' domain_id id { soa with content } ∧
      (words isspace content).eraseIdx 2 = (words isspace soa.content).eraseIdx 2 ∧
      (s = 0 → serial content = some 0) ∧
      (s ≠ 0 → ∃ s', serial content = some s' ∧ 1 ≤ s' ∧ s' ≤ MAX_UINT32 ∧
        (0 < n → n < 2 ^ 31 - 1 → Ahead 32 s' s)) ∧
      ∀ change, Regular db' change → change.concerns db' domain_id = true → (step db' change).isSome := by
  obtain ⟨s, hserial, hlow, hhigh⟩ := serial_of_valid hvalid hunbroken
  obtain ⟨content, hsoa', hserial', hsame⟩ := serial_of_run hsoa hserial hrun
  refine ⟨s, content, hserial, hsoa', hsame, ?_, ?_, ?_⟩
  · rintro rfl
    rw [hserial', iterate_increment_zero]
  · intro hne
    have hpos : 1 ≤ s := by omega
    obtain ⟨hlow', hhigh'⟩ := iterate_increment_range n hpos hhigh
    exact ⟨_, hserial', hlow', hhigh', ahead_iterate n hpos hhigh⟩
  · intro change hregular hconcerns
    obtain ⟨db'', _, hstep, -⟩ := step_of_concerns hsoa' hregular hconcerns hserial'
    rw [hstep]
    rfl

end changes

section examples

/-- The content of a SOA record with a serial. -/
def soa_content (digit : Char) : Text := ['a', ' ', 'b', ' ', digit, ' ', '1', ' ', '1', ' ', '1', ' ', '1']

def soa_record (digit : Char) : Record := ⟨1, ['c'], .SOA, soa_content digit⟩

/-- A domain with nothing but its SOA record. -/
def one_domain (digit : Char) : Db where
  domains id := if id = 1 then some ['c'] else none
  records := AList.singleton 1 (soa_record digit)

theorem isSoa_one_domain (digit : Char) : IsSoa (one_domain digit) 1 1 (soa_record digit) where
  domain := rfl
  lookup := rfl
  type := rfl
  domain_id_eq := rfl
  unique id' record hrecord _ _ := by
    by_contra hne
    have hnone : (one_domain digit).records.lookup id' = none := by
      apply AList.lookup_eq_none.mpr
      intro hmem
      exact hne (List.mem_singleton.mp hmem)
    rw [hnone] at hrecord
    cases hrecord

def new_record : Change := .save 2 ⟨1, ['d', '.', 'c'], .A, ['e']⟩

theorem regular_new_record (digit : Char) : Regular (one_domain digit) new_record :=
  ⟨by decide, fun old hold => by cases hold⟩

/-- A serial of zero is accepted and not advanced. -/
theorem not_ahead_zero : ¬ ∀ (db db' : Db) (domain_id id : ℕ) (soa soa' : Record) (domain : Text) (change : Change)
    (s s' : ℤ), IsSoa db domain_id id soa → SOARecordValidator domain soa.name soa.content = .ok () →
      Regular db change → change.concerns db domain_id = true → step db change = some db' →
      db'.records.lookup id = some soa' → serial soa.content = some s → serial soa'.content = some s' →
      Ahead 32 s' s ∧ 1 ≤ s' ∧ s' ≤ MAX_UINT32 := by
  intro hall
  obtain ⟨db', content, hstep, hsoa', hserial', -⟩ := step_of_concerns (isSoa_one_domain '0') (regular_new_record '0')
    (by decide) (by decide : serial (soa_record '0').content = some 0)
  have hahead := hall _ db' 1 1 _ _ ['c'] new_record 0 _ (isSoa_one_domain '0') (by decide) (regular_new_record '0')
    (by decide) hstep hsoa'.lookup (by decide) hserial'
  exact absurd hahead.2.1 (by decide)

theorem unbroken_soa_content : Unbroken (soa_content '7') := by
  unfold Unbroken
  decide

/-- One record is created in a domain with the serial 7. -/
theorem serial_advances_seven : ∃ s content, serial (soa_content '7') = some s ∧
    IsSoa ((step (one_domain '7') new_record).getD (one_domain '7')) 1 1 { soa_record '7' with content } ∧
      (words isspace content).eraseIdx 2 = (words isspace (soa_content '7')).eraseIdx 2 ∧
      (s = 0 → serial content = some 0) ∧
      (s ≠ 0 → ∃ s', serial content = some s' ∧ 1 ≤ s' ∧ s' ≤ MAX_UINT32 ∧
        (0 < 1 → 1 < 2 ^ 31 - 1 → Ahead 32 s' s)) ∧
      ∀ change, Regular ((step (one_domain '7') new_record).getD (one_domain '7')) change →
        change.concerns ((step (one_domain '7') new_record).getD (one_domain '7')) 1 = true →
        (step ((step (one_domain '7') new_record).getD (one_domain '7')) change).isSome :=
  serial_advances (n := 1) (isSoa_one_domain '7') (by decide : SOARecordValidator ['c'] ['c'] _ = .ok ())
    unbroken_soa_content (.cons (regular_new_record '7') rfl (.nil _))

end examples

end pdns.soa
