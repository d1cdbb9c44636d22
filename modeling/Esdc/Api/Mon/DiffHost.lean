import Mathlib
import Esdc.Lib.Dict
import Esdc.Lib.Text
import Esdc.Lib.Fallible

namespace api.mon.zabbix

open text
open Fallible (bind_eq_ok)

inductive Error
  | ZabbixAPIException_multiple
  | ZabbixAPIException_missing
  | ValueError
  | UnicodeEncodeError
  deriving DecidableEq

def is_ascii (cs : Text) : Bool := cs.all fun c => decide (c.toNat < 128)

/-- A value in a document of the API, or in a configuration. A float has its text and its integer part. -/
inductive Value
  | text (cs : Text)
  | number (n : ℤ)
  | float (repr : { cs : Text // is_ascii cs = true }) (truncated : ℤ)
  deriving DecidableEq

/-- `str()`, which encodes a text. -/
def Value.str : Value → Except Error Text
  | .text cs => if is_ascii cs then .ok cs else .error .UnicodeEncodeError
  | .number n => .ok (text.str n)
  | .float repr _ => .ok repr.1

/-- `int()` -/
def Value.int : Value → Except Error ℤ
  | .text cs =>
    match text.int isspace cs with
    | some n => .ok n
    | none => .error .ValueError
  | .number n => .ok n
  | .float _ truncated => .ok truncated

/-- An interface has an id once it is saved. -/
structure Interface where
  interfaceid : Option Value
  dns : Option Text
  ip : Option Text
  main : Value
  useip : Value
  type : Value
  port : Value
  deriving DecidableEq

structure Macro where
  macro_name : Text
  value : Value
  deriving DecidableEq

/-- Some lists were objects in old versions of the API. -/
inductive Collection (A : Type)
  | list (items : List A)
  | dict (items : List (Text × A))

def Collection.values {A : Type} : Collection A → List A
  | .list items => items
  | .dict items => items.map Prod.snd

/-- A host as the API returns it; groups and templates are given by their ids. -/
structure Host where
  host : Text
  name : Text
  status : Value
  proxy_hostid : Option Value
  interfaces : Option (Collection Interface)
  groups : Option (List Value)
  parentTemplates : Option (List Value)
  macros : Option (Collection Macro)

/-- The parameters of an update; those that are `none` are left out. -/
structure Params where
  interfaces : Option (List Interface)
  host : Option Text
  name : Option Text
  proxy_hostid : Option ℤ
  status : Option ℤ
  templates : Option (List Value)
  templates_clear : Option (List Value)
  groups : Option (List Value)
  macros : Option (List Macro)
  deriving DecidableEq

def Params.empty : Params := ⟨none, none, none, none, none, none, none, none, none⟩

/-- The VM or node, and what it should be configured to. -/
structure Desired where
  host_id : Text
  host_name : Text
  dns : Option Text
  ip : Option Text
  port : ℤ
  useip : Bool
  groups : List ℤ
  templates : List ℤ
  macros : Option (Dict Text Value)
  status : ℤ
  proxy_id : ℤ

section source

def NO : ℤ := 0
def YES : ℤ := 1
def HOSTINTERFACE_AGENT : ℤ := 1
def NO_PROXY : ℤ := 0

/-- Whether a text counts as true. -/
def truthy (cs : Option Text) : Bool := cs.any (· ≠ [])

def get_host_interface (dns ip : Option Text) (port : ℤ) (useip : Bool) : Interface where
  interfaceid := none
  dns := dns
  ip := ip
  main := .number YES
  useip := .number (if !truthy ip && useip && truthy dns then NO else if useip then YES else NO)
  type := .number HOSTINTERFACE_AGENT
  port := .text (text.str port)

/-- The ids of a set, in some order. -/
def gen_ids (ids : Finset ℤ) : List Value := (ids.sort (· ≤ ·)).map fun i => .text (text.str i)

def parse_ids (values : Option (List Value)) : Except Error (Finset ℤ) :=
  ((values.getD []).mapM Value.int).map List.toFinset

def parse_host_groups (host : Host) : Except Error (Finset ℤ) := parse_ids host.groups

def parse_host_templates (host : Host) : Except Error (Finset ℤ) := parse_ids host.parentTemplates

def gen_host_macros (macros : Dict Text Value) : List Macro := macros.entries.map fun e => ⟨e.1, e.2⟩

def parse_macro (d : Dict Text Value) (m : Macro) : Except Error (Dict Text Value) := do
  let name ← (Value.text m.macro_name).str
  let value ← m.value.str
  .ok (d.insert name (.text value))

def host_macros (host : Host) : List Macro := (host.macros.map Collection.values).getD []

def parse_host_macros (host : Host) : Except Error (Dict Text Value) := (host_macros host).foldlM parse_macro ∅

def parse_host_interfaces (host : Host) : List Interface := (host.interfaces.map Collection.values).getD []

def is_main_agent (iface : Interface) : Except Error Bool := do
  let type ← iface.type.int
  if type = HOSTINTERFACE_AGENT then do
    let main ← iface.main.int
    .ok (decide (main = YES))
  else .ok false

def texts_differ (a b : Value) : Except Error Bool := do
  let cs ← a.str
  let ds ← b.str
  .ok (decide (cs ≠ ds))

def interfaces_differ (iface interface : Interface) : Except Error Bool :=
  if iface.dns ≠ interface.dns ∨ iface.ip ≠ interface.ip then .ok true
  else do
    let port ← texts_differ iface.port interface.port
    if port then .ok true else texts_differ iface.useip interface.useip

/-- The loop over the interfaces, with those that were seen and whether the list was changed. It ends at the
`KeyError` of an interface without an id. -/
def find_interface (interface : Interface) (hi changed : Bool) (seen : List Interface) :
    List Interface → Except Error (Bool × Option (List Interface))
  | [] => .ok (hi, if changed then some seen else none)
  | iface :: rest => do
    let found ← is_main_agent iface
    if found then
      if hi then .error .ZabbixAPIException_multiple
      else do
        let differs ← interfaces_differ iface interface
        if differs then
          match iface.interfaceid with
          | none => .ok (true, if changed then some (seen ++ iface :: rest) else none)
          | some interfaceid =>
            find_interface interface true true (seen ++ [{ interface with interfaceid := some interfaceid }]) rest
        else find_interface interface true changed (seen ++ [iface]) rest
    else find_interface interface hi changed (seen ++ [iface]) rest

def diff_interfaces (host : Host) (interface : Interface) : Except Error (Option (List Interface)) := do
  let found ← find_interface interface false false [] (parse_host_interfaces host)
  if found.1 then .ok found.2 else .error .ZabbixAPIException_missing

/-- The value if it is another one. -/
def changed {A : Type} [DecidableEq A] (old new : A) : Option A := if old ≠ new then some new else none

def diff_basic_info (host : Host) (desired : Desired) : Except Error (Option Text × Option Text × Option ℤ × Option ℤ) := do
  let proxy_hostid ← (host.proxy_hostid.getD (.number NO_PROXY)).int
  let status ← host.status.int
  .ok (changed host.host desired.host_id, changed host.name desired.host_name, changed proxy_hostid desired.proxy_id,
    changed status desired.status)

def diff_templates (host : Host) (templates : List ℤ) : Except Error (Option (List Value) × Option (List Value)) := do
  let zx_templates ← parse_host_templates host
  let new_templates := templates.toFinset
  let removed_templates := zx_templates \ new_templates
  .ok (if zx_templates ≠ new_templates then
      (some (gen_ids new_templates), if removed_templates ≠ ∅ then some (gen_ids removed_templates) else none)
    else (none, none))

def diff_host_groups (host : Host) (groups : List ℤ) : Except Error (Option (List Value)) := do
  let zx_groups ← parse_host_groups host
  .ok ((changed zx_groups groups.toFinset).map gen_ids)

/-- Macros are only compared if they are given. -/
def diff_macros (host : Host) : Option (Dict Text Value) → Except Error (Option (List Macro))
  | none => .ok none
  | some macros => do
    let zx_macros ← parse_host_macros host
    .ok (if zx_macros.same macros then none else some (gen_host_macros macros))

def diff_host (host : Host) (desired : Desired) : Except Error Params := do
  let interface := get_host_interface desired.dns desired.ip desired.port desired.useip
  let interfaces ← diff_interfaces host interface
  let info ← diff_basic_info host desired
  let templates ← diff_templates host desired.templates
  let groups ← diff_host_groups host desired.groups
  let macros ← diff_macros host desired.macros
  .ok ⟨interfaces, info.1, info.2.1, info.2.2.1, info.2.2.2, templates.1, templates.2, groups, macros⟩

end source

section apply

def unlink (templates_clear templates : List Value) : List Value := templates.filter fun v => v ∉ templates_clear

/-- The update of a host: the attributes that are listed are replaced, the cleared templates are unlinked. -/
def Params.apply (params : Params) (host : Host) : Host where
  host := params.host.getD host.host
  name := params.name.getD host.name
  status := (params.status.map Value.number).getD host.status
  proxy_hostid := (params.proxy_hostid.map Value.number).or host.proxy_hostid
  interfaces := (params.interfaces.map Collection.list).or host.interfaces
  groups := params.groups.or host.groups
  parentTemplates := (params.templates.or host.parentTemplates).map (unlink (params.templates_clear.getD []))
  macros := (params.macros.map Collection.list).or host.macros

/-- An update that leaves nothing to be updated, and clears the linked templates that are not desired. -/
def Converges (host : Host) (desired : Desired) : Prop :=
  ∃ params linked, diff_host host desired = .ok params ∧ diff_host (params.apply host) desired = .ok Params.empty ∧
    parse_host_templates host = .ok linked ∧
    params.templates_clear.getD [] = gen_ids (linked \ desired.templates.toFinset)

/-- An interface of an existing host. -/
structure Interface.Returned (iface : Interface) : Prop where
  interfaceid : iface.interfaceid.isSome = true
  type : ∃ n, iface.type.int = .ok n
  main : ∃ n, iface.main.int = .ok n
  port : ∃ cs, iface.port.str = .ok cs
  useip : ∃ cs, iface.useip.str = .ok cs

/-- What the API returns: numbers where numbers belong, and one main agent interface. -/
structure Host.Returned (host : Host) : Prop where
  status : ∃ n, host.status.int = .ok n
  proxy_hostid : ∀ value ∈ host.proxy_hostid, ∃ n, value.int = .ok n
  groups : ∃ ids, parse_host_groups host = .ok ids
  templates : ∃ ids, parse_host_templates host = .ok ids
  interfaces : ∀ iface ∈ parse_host_interfaces host, iface.Returned
  main_agent : ∃ before iface after, parse_host_interfaces host = before ++ iface :: after ∧
    is_main_agent iface = .ok true ∧ ∀ other ∈ before ++ after, is_main_agent other = .ok false

end apply

section converge

theorem int_str (n : ℤ) : (Value.text (text.str n)).int = .ok n := by
  rw [Value.int, text.int_str isspace_of_isDigit (by decide) (by decide)]

theorem mapM_int_gen_ids (ids : Finset ℤ) : (gen_ids ids).mapM Value.int = .ok (ids.sort (· ≤ ·)) := by
  rw [gen_ids]
  induction ids.sort (· ≤ ·) with
  | nil => rfl
  | cons n ns ih =>
    rw [List.map_cons, List.mapM_cons, int_str, ih]
    rfl

/-- The ids that are generated for a set are parsed as that set. -/
theorem parse_gen_ids (ids : Finset ℤ) : parse_ids (some (gen_ids ids)) = .ok ids := by
  rw [parse_ids, Option.getD_some, mapM_int_gen_ids]
  exact congrArg Except.ok (Finset.sort_toFinset ids (· ≤ ·))

theorem mem_gen_ids {ids : Finset ℤ} {v : Value} : v ∈ gen_ids ids ↔ ∃ i ∈ ids, v = .text (text.str i) := by
  simp only [gen_ids, List.mem_map, Finset.mem_sort, eq_comm]

theorem gen_ids_empty : gen_ids ∅ = [] := by
  rw [gen_ids, Finset.sort_empty]
  rfl

/-- Ids of other templates are not unlinked. -/
theorem unlink_gen_ids {cleared ids : Finset ℤ} (hdisjoint : Disjoint ids cleared) :
    unlink (gen_ids cleared) (gen_ids ids) = gen_ids ids := by
  rw [unlink, List.filter_eq_self]
  intro v hv
  obtain ⟨i, hi, rfl⟩ := mem_gen_ids.mp hv
  rw [decide_eq_true_eq, mem_gen_ids]
  rintro ⟨j, hj, hij⟩
  rw [Value.text.injEq] at hij
  rw [text.str_injective hij] at hi
  exact Finset.disjoint_left.mp hdisjoint hi hj

theorem unlink_nil (templates : List Value) : unlink [] templates = templates := by
  rw [unlink, List.filter_eq_self]
  intro v _
  exact decide_eq_true List.not_mem_nil

variable {A : Type} [DecidableEq A]

theorem changed_self (a : A) : changed a a = none := if_neg fun h => h rfl

theorem getD_changed (old new : A) : (changed old new).getD old = new := by
  unfold changed
  split
  · rfl
  · case isFalse heq => exact not_not.mp heq

theorem diff_templates_spec {host : Host} {linked : Finset ℤ} (hlinked : parse_host_templates host = .ok linked)
    (templates : List ℤ) : ∃ new cleared, diff_templates host templates = .ok (new, cleared) ∧
      cleared.getD [] = gen_ids (linked \ templates.toFinset) ∧
      parse_ids ((new.or host.parentTemplates).map (unlink (cleared.getD []))) = .ok templates.toFinset := by
  have hcleared : (if linked \ templates.toFinset ≠ ∅ then some (gen_ids (linked \ templates.toFinset))
      else none).getD [] = gen_ids (linked \ templates.toFinset) := by
    split
    · rfl
    · case isFalse hempty =>
      rw [not_not.mp hempty, gen_ids_empty]
      rfl
  by_cases hsame : linked = templates.toFinset
  · refine ⟨none, none, ?_, ?_, ?_⟩
    · rw [diff_templates, hlinked]
      exact congrArg Except.ok (if_neg (not_not.mpr hsame))
    · rw [hsame, Finset.sdiff_self, gen_ids_empty]
      rfl
    · have hid : unlink [] = id := funext unlink_nil
      rw [Option.none_or, Option.getD_none, hid, Option.map_id, id, ← hsame]
      exact hlinked
  · refine ⟨some (gen_ids templates.toFinset), _, ?_, hcleared, ?_⟩
    · rw [diff_templates, hlinked]
      exact congrArg Except.ok (if_pos hsame)
    · rw [Option.some_or, Option.map_some, hcleared, unlink_gen_ids Finset.disjoint_sdiff, parse_gen_ids]

theorem diff_templates_same {host : Host} {templates : List ℤ}
    (hlinked : parse_host_templates host = .ok templates.toFinset) : diff_templates host templates = .ok (none, none) := by
  rw [diff_templates, hlinked]
  exact congrArg Except.ok (if_neg (not_not.mpr rfl))

theorem diff_host_groups_spec {host : Host} {ids : Finset ℤ} (hids : parse_host_groups host = .ok ids)
    (groups : List ℤ) : ∃ new, diff_host_groups host groups = .ok new ∧
      parse_ids (new.or host.groups) = .ok groups.toFinset := by
  refine ⟨(changed ids groups.toFinset).map gen_ids, ?_, ?_⟩
  · rw [diff_host_groups, hids]
    rfl
  · unfold changed
    split
    · exact parse_gen_ids _
    · case isFalse hsame =>
      rw [Option.map_none, Option.none_or, ← not_not.mp hsame]
      exact hids

theorem diff_host_groups_same {host : Host} {groups : List ℤ} (hids : parse_host_groups host = .ok groups.toFinset) :
    diff_host_groups host groups = .ok none := by
  rw [diff_host_groups, hids]
  exact congrArg (fun new => Except.ok (Option.map gen_ids new)) (changed_self _)

theorem diff_basic_info_same {host : Host} {desired : Desired} (hhost : host.host = desired.host_id)
    (hname : host.name = desired.host_name)
    (hproxy : (host.proxy_hostid.getD (.number NO_PROXY)).int = .ok desired.proxy_id)
    (hstatus : host.status.int = .ok desired.status) : diff_basic_info host desired = .ok (none, none, none, none) := by
  have hinfo : diff_basic_info host desired = .ok (changed host.host desired.host_id,
      changed host.name desired.host_name, changed desired.proxy_id desired.proxy_id,
      changed desired.status desired.status) := by
    rw [diff_basic_info, hproxy, hstatus]
    rfl
  rw [hinfo, hhost, hname]
  simp only [changed_self]

theorem int_changed {value : Value} {old : ℤ} (hvalue : value.int = .ok old) (new : ℤ) :
    (((changed old new).map Value.number).getD value).int = .ok new := by
  unfold changed
  split
  · rfl
  · case isFalse hsame =>
    rw [Option.map_none, Option.getD_none, hvalue, not_not.mp hsame]

/-! The interfaces: the main agent interface is the only one that is looked at. -/

theorem find_interface_skip {interface : Interface} {hi changed : Bool} {before : List Interface}
    (hbefore : ∀ other ∈ before, is_main_agent other = .ok false) (seen rest : List Interface) :
    find_interface interface hi changed seen (before ++ rest) =
      find_interface interface hi changed (seen ++ before) rest := by
  induction before generalizing seen with
  | nil => rw [List.nil_append, List.append_nil]
  | cons other before ih =>
    obtain ⟨hother, hbefore⟩ := List.forall_mem_cons.mp hbefore
    have hstep : find_interface interface hi changed seen (other :: before ++ rest) =
        find_interface interface hi changed (seen ++ [other]) (before ++ rest) := by
      rw [List.cons_append, find_interface, hother]
      rfl
    rw [hstep, ih hbefore, List.append_assoc, List.singleton_append]

theorem find_interface_end {interface : Interface} {changed : Bool} {after : List Interface}
    (hafter : ∀ other ∈ after, is_main_agent other = .ok false) (seen : List Interface) :
    find_interface interface true changed seen after = .ok (true, if changed then some (seen ++ after) else none) := by
  have hskip := @find_interface_skip interface true changed after hafter seen []
  rw [List.append_nil] at hskip
  exact hskip

theorem find_interface_found {interface iface : Interface} (hiface : is_main_agent iface = .ok true) {differs : Bool}
    (hdiffers : interfaces_differ iface interface = .ok differs) (hid : iface.interfaceid.isSome = true)
    (seen rest : List Interface) : find_interface interface false false seen (iface :: rest) =
      find_interface interface true differs
        (seen ++ [if differs then { interface with interfaceid := iface.interfaceid } else iface]) rest := by
  obtain ⟨id, hid⟩ := Option.isSome_iff_exists.mp hid
  rw [find_interface, hiface, hdiffers, hid]
  cases differs <;> rfl

/-- What is found for a list with one main agent interface. -/
theorem diff_interfaces_eq {host : Host} {interface iface : Interface} {before after : List Interface}
    (hlist : parse_host_interfaces host = before ++ iface :: after) (hiface : is_main_agent iface = .ok true)
    (hother : ∀ other ∈ before ++ after, is_main_agent other = .ok false) {differs : Bool}
    (hdiffers : interfaces_differ iface interface = .ok differs) (hid : iface.interfaceid.isSome = true) :
    diff_interfaces host interface = .ok (if differs then
      some (before ++ { interface with interfaceid := iface.interfaceid } :: after) else none) := by
  obtain ⟨hbefore, hafter⟩ := List.forall_mem_append.mp hother
  rw [diff_interfaces, hlist, find_interface_skip hbefore, List.nil_append, find_interface_found hiface hdiffers hid,
    find_interface_end hafter]
  cases differs with
  | true =>
    rw [List.append_assoc]
    rfl
  | false => rfl

theorem is_ascii_str (n : ℤ) : is_ascii (text.str n) = true := by
  have hdigits : ∀ m : ℕ, ∀ c ∈ Nat.toDigits 10 m, c.toNat < 128 := by
    intro m c hc
    have hdigit := Nat.isDigit_of_mem_toDigits (by decide) (by decide) hc
    simp only [Char.isDigit, Bool.and_eq_true, decide_eq_true_eq, ge_iff_le, UInt32.le_iff_toNat_le] at hdigit
    have hhigh : c.toNat ≤ 57 := hdigit.2
    omega
  rw [is_ascii, List.all_eq_true]
  intro c hc
  apply decide_eq_true
  cases n with
  | ofNat m => exact hdigits m c hc
  | negSucc m =>
    rcases List.mem_cons.mp hc with rfl | hc
    · decide
    · exact hdigits (m + 1) c hc

theorem str_text {cs : Text} (hcs : is_ascii cs = true) : (Value.text cs).str = .ok cs := if_pos hcs

theorem texts_differ_eq {a b : Value} {cs ds : Text} (ha : a.str = .ok cs) (hb : b.str = .ok ds) :
    texts_differ a b = .ok (decide (cs ≠ ds)) := by
  rw [texts_differ, ha, hb]
  rfl

theorem interfaces_differ_eq {iface interface : Interface} {port port' useip useip' : Text}
    (hport : iface.port.str = .ok port) (hport' : interface.port.str = .ok port')
    (huseip : iface.useip.str = .ok useip) (huseip' : interface.useip.str = .ok useip') :
    interfaces_differ iface interface =
      .ok (decide (iface.dns ≠ interface.dns ∨ iface.ip ≠ interface.ip ∨ port ≠ port' ∨ useip ≠ useip')) := by
  rw [interfaces_differ, texts_differ_eq hport hport', texts_differ_eq huseip huseip']
  by_cases hdns : iface.dns ≠ interface.dns ∨ iface.ip ≠ interface.ip
  · rw [if_pos hdns, decide_eq_true (or_assoc.mp (Or.inl hdns))]
  · rw [if_neg hdns]
    obtain ⟨hdns, hip⟩ := not_or.mp hdns
    by_cases hne : port ≠ port'
    · rw [decide_eq_true hne, decide_eq_true (Or.inr (Or.inr (Or.inl hne)))]
      rfl
    · simp only [hdns, hip, hne, false_or, decide_false]
      rfl

theorem get_host_interface_str (dns ip : Option Text) (port : ℤ) (useip : Bool) :
    (get_host_interface dns ip port useip).port.str = .ok (text.str port) ∧
      ∃ cs, (get_host_interface dns ip port useip).useip.str = .ok cs :=
  ⟨str_text (is_ascii_str port), _, rfl⟩

/-- The desired interface is a main agent interface, and does not differ from itself. -/
theorem get_host_interface_spec (dns ip : Option Text) (port : ℤ) (useip : Bool) (id : Option Value) :
    is_main_agent { get_host_interface dns ip port useip with interfaceid := id } = .ok true ∧
      interfaces_differ { get_host_interface dns ip port useip with interfaceid := id }
        (get_host_interface dns ip port useip) = .ok false := by
  obtain ⟨hport, cs, huseip⟩ := get_host_interface_str dns ip port useip
  refine ⟨rfl, (interfaces_differ_eq hport hport huseip huseip).trans (congrArg Except.ok (decide_eq_false ?_))⟩
  rintro (h | h | h | h)
  all_goals exact h rfl

theorem diff_interfaces_spec {host : Host} (hhost : host.Returned) (dns ip : Option Text) (port : ℤ) (useip : Bool) :
    ∃ new, diff_interfaces host (get_host_interface dns ip port useip) = .ok new ∧
      ∀ host' : Host, host'.interfaces = (new.map Collection.list).or host.interfaces →
        diff_interfaces host' (get_host_interface dns ip port useip) = .ok none := by
  obtain ⟨before, iface, after, hlist, hiface, hother⟩ := hhost.main_agent
  have hreturned := hhost.interfaces iface (by rw [hlist]; exact List.mem_append_right _ List.mem_cons_self)
  obtain ⟨_, hport⟩ := hreturned.port
  obtain ⟨_, huseip⟩ := hreturned.useip
  obtain ⟨hport', _, huseip'⟩ := get_host_interface_str dns ip port useip
  obtain ⟨differs, hdiffers⟩ : ∃ differs,
      interfaces_differ iface (get_host_interface dns ip port useip) = .ok differs :=
    ⟨_, interfaces_differ_eq hport hport' huseip huseip'⟩
  refine ⟨_, diff_interfaces_eq hlist hiface hother hdiffers hreturned.interfaceid, fun host' hinterfaces => ?_⟩
  cases differs with
  | true =>
    obtain ⟨hagent, hsame⟩ := get_host_interface_spec dns ip port useip iface.interfaceid
    have hlist' : parse_host_interfaces host' =
        before ++ { get_host_interface dns ip port useip with interfaceid := iface.interfaceid } :: after := by
      rw [parse_host_interfaces, hinterfaces]
      rfl
    exact diff_interfaces_eq hlist' hagent hother hsame hreturned.interfaceid
  | false =>
    have hlist' : parse_host_interfaces host' = before ++ iface :: after := by
      rw [← hlist, parse_host_interfaces, hinterfaces]
      rfl
    exact diff_interfaces_eq hlist' hiface hother hdiffers hreturned.interfaceid

/-! The macros of the host are read as texts, those of the configuration are compared as they are. -/

/-- The text of a value. -/
def Value.repr : Value → Text
  | .text cs => cs
  | .number n => text.str n
  | .float repr _ => repr.1

def Value.Plain (value : Value) : Prop := ∀ cs, value = .text cs → is_ascii cs = true

def Macro.Plain (m : Macro) : Prop := is_ascii m.macro_name = true ∧ m.value.Plain

def insert_macro (d : Dict Text Value) (m : Macro) : Dict Text Value := d.insert m.macro_name (.text m.value.repr)

theorem str_of_plain {value : Value} (hvalue : value.Plain) : value.str = .ok value.repr := by
  cases value with
  | text cs => exact str_text (hvalue cs rfl)
  | number n => rfl
  | float repr truncated => rfl

theorem plain_of_str {value : Value} {cs : Text} (hvalue : value.str = .ok cs) : value.Plain := by
  rintro ds rfl
  rw [Value.str] at hvalue
  by_contra hds
  rw [if_neg hds] at hvalue
  cases hvalue

theorem parse_of_plain {d d' : Dict Text Value} {m : Macro} (hm : m.Plain) (hd : insert_macro d m = d') :
    parse_macro d m = .ok d' := by
  subst hd
  unfold parse_macro
  rw [str_text hm.1, str_of_plain hm.2]
  rfl

theorem plain_of_parse {d d' : Dict Text Value} {m : Macro} (hparse : parse_macro d m = .ok d') : m.Plain := by
  obtain ⟨name, hname, hparse⟩ := bind_eq_ok.mp hparse
  obtain ⟨value, hvalue, -⟩ := bind_eq_ok.mp hparse
  exact ⟨plain_of_str hname _ rfl, plain_of_str hvalue⟩

theorem foldlM_of_plain {ms : List Macro} (hms : ∀ m ∈ ms, m.Plain) (d : Dict Text Value) :
    ms.foldlM parse_macro d = .ok (ms.foldl insert_macro d) := by
  induction ms generalizing d with
  | nil => rfl
  | cons m ms ih =>
    obtain ⟨hm, hms⟩ := List.forall_mem_cons.mp hms
    rw [List.foldlM_cons, parse_of_plain hm rfl, List.foldl_cons]
    exact ih hms _

theorem plain_of_foldlM {ms : List Macro} {d d' : Dict Text Value} (hparse : ms.foldlM parse_macro d = .ok d') :
    ∀ m ∈ ms, m.Plain := by
  induction ms generalizing d with
  | nil => exact fun m hm => absurd hm List.not_mem_nil
  | cons m ms ih =>
    rw [List.foldlM_cons] at hparse
    obtain ⟨next, hm, hms⟩ := bind_eq_ok.mp hparse
    exact List.forall_mem_cons.mpr ⟨plain_of_parse hm, ih hms⟩

/-- Parsed names and values are texts of ASCII characters. -/
theorem foldl_insert_macro_plain {ms : List Macro} (hms : ∀ m ∈ ms, m.Plain) {d : Dict Text Value}
    (hd : ∀ k v, d.lookup k = some v → is_ascii k = true ∧ ∃ cs, v = .text cs ∧ is_ascii cs = true) :
    ∀ k v, (ms.foldl insert_macro d).lookup k = some v →
      is_ascii k = true ∧ ∃ cs, v = .text cs ∧ is_ascii cs = true := by
  induction ms generalizing d with
  | nil => exact hd
  | cons m ms ih =>
    obtain ⟨hm, hms⟩ := List.forall_mem_cons.mp hms
    rw [List.foldl_cons]
    refine ih hms fun k v hlookup => ?_
    unfold insert_macro at hlookup
    rw [Dict.lookup_insert_ite] at hlookup
    split at hlookup
    · case isTrue hk =>
      cases hlookup
      refine ⟨hk ▸ hm.1, _, rfl, ?_⟩
      cases hvalue : m.value with
      | text cs => exact hm.2 cs hvalue
      | number n => exact is_ascii_str n
      | float repr truncated => exact repr.2
    · exact hd k v hlookup

theorem lookup_foldl_insert {entries : List (Sigma fun _ : Text => Value)} (hnodup : entries.NodupKeys)
    (d : Dict Text Value) (k : Text) :
    ((entries.map fun e => (⟨e.1, e.2⟩ : Macro)).foldl insert_macro d).lookup k =
      ((entries.dlookup k).map fun v => Value.text v.repr).or (d.lookup k) := by
  induction entries generalizing d with
  | nil => rfl
  | cons e entries ih =>
    obtain ⟨key, value⟩ := e
    obtain ⟨hkey, hnodup⟩ := List.nodupKeys_cons.mp hnodup
    rw [List.map_cons, List.foldl_cons, ih hnodup, insert_macro, Dict.lookup_insert_ite]
    by_cases hk : k = key
    · subst hk
      rw [if_pos rfl, List.dlookup_cons_eq, List.dlookup_eq_none.mpr hkey]
      rfl
    · rw [if_neg hk, List.dlookup_cons_ne _ _ hk]

/-- The configuration can be compared with the macros of the host: all texts are ASCII, and no value is a number. -/
structure MacrosComparable (host : Host) (macros : Dict Text Value) : Prop where
  host_plain : ∀ m ∈ host_macros host, m.Plain
  texts : ∀ k v, macros.lookup k = some v → is_ascii k = true ∧ ∃ cs, v = .text cs ∧ is_ascii cs = true

theorem lookup_of_mem_gen_host_macros {macros : Dict Text Value} {m : Macro} (hm : m ∈ gen_host_macros macros) :
    macros.lookup m.macro_name = some m.value := by
  obtain ⟨e, he, rfl⟩ := List.mem_map.mp hm
  exact AList.mem_lookup_iff.mpr he

theorem gen_host_macros_plain {macros : Dict Text Value}
    (htexts : ∀ k v, macros.lookup k = some v → is_ascii k = true ∧ ∃ cs, v = .text cs ∧ is_ascii cs = true) :
    ∀ m ∈ gen_host_macros macros, m.Plain := by
  intro m hm
  obtain ⟨hname, cs, hvalue, hcs⟩ := htexts _ _ (lookup_of_mem_gen_host_macros hm)
  refine ⟨hname, fun ds hds => ?_⟩
  rw [hvalue, Value.text.injEq] at hds
  exact hds ▸ hcs

/-- Generated macros are parsed as the dictionary that they were generated for, with texts for values. -/
theorem lookup_parsed (macros : Dict Text Value) (k : Text) :
    ((gen_host_macros macros).foldl insert_macro ∅).lookup k = (macros.lookup k).map fun v => Value.text v.repr := by
  rw [gen_host_macros, lookup_foldl_insert macros.nodupKeys]
  exact Option.or_none

/-- The macros converge if and only if they can be compared. -/
theorem diff_macros_iff (host : Host) (macros : Dict Text Value) :
    (∃ new, diff_macros host (some macros) = .ok new ∧
      ∀ host' : Host, host'.macros = (new.map Collection.list).or host.macros →
        diff_macros host' (some macros) = .ok none) ↔ MacrosComparable host macros := by
  constructor
  · rintro ⟨new, hnew, hnone⟩
    obtain ⟨zx, hzx, hnew⟩ := bind_eq_ok.mp hnew
    have hplain : ∀ m ∈ host_macros host, m.Plain := plain_of_foldlM hzx
    refine ⟨hplain, ?_⟩
    rw [parse_host_macros, foldlM_of_plain hplain] at hzx
    cases hzx
    cases hsame : ((host_macros host).foldl insert_macro ∅).same macros with
    | true =>
      intro k v hlookup
      rw [← Dict.same_iff.mp hsame k] at hlookup
      exact foldl_insert_macro_plain hplain (fun k v h => by cases h) k v hlookup
    | false =>
      rw [hsame] at hnew
      cases hnew
      obtain ⟨zx', hzx', hnone⟩ := bind_eq_ok.mp
        (hnone { host with macros := some (.list (gen_host_macros macros)) } rfl)
      have hplain' : ∀ m ∈ gen_host_macros macros, m.Plain := plain_of_foldlM hzx'
      have hparsed : parse_host_macros { host with macros := some (.list (gen_host_macros macros)) } =
          .ok ((gen_host_macros macros).foldl insert_macro ∅) := foldlM_of_plain hplain' ∅
      cases hzx'.symm.trans hparsed
      have hsame' : ((gen_host_macros macros).foldl insert_macro ∅).same macros = true := by
        by_contra hsame'
        rw [if_neg hsame'] at hnone
        cases hnone
      intro k v hlookup
      rw [← Dict.same_iff.mp hsame' k] at hlookup
      exact foldl_insert_macro_plain hplain' (fun k v h => by cases h) k v hlookup
  · rintro ⟨hplain, htexts⟩
    have hparsed : parse_host_macros host = .ok ((host_macros host).foldl insert_macro ∅) := foldlM_of_plain hplain ∅
    cases hsame : ((host_macros host).foldl insert_macro ∅).same macros with
    | true =>
      refine ⟨none, ?_, fun host' hmacros => ?_⟩
      · rw [diff_macros, hparsed]
        exact congrArg Except.ok (if_pos hsame)
      · have hparsed' : parse_host_macros host' = .ok ((host_macros host).foldl insert_macro ∅) := by
          rw [← hparsed, parse_host_macros, host_macros, hmacros]
          rfl
        rw [diff_macros, hparsed']
        exact congrArg Except.ok (if_pos hsame)
    | false =>
      refine ⟨some (gen_host_macros macros), ?_, fun host' hmacros => ?_⟩
      · rw [diff_macros, hparsed]
        exact congrArg Except.ok (if_neg (Bool.eq_false_iff.mp hsame))
      · have hparsed' : parse_host_macros host' = .ok ((gen_host_macros macros).foldl insert_macro ∅) := by
          rw [parse_host_macros, host_macros, hmacros]
          exact foldlM_of_plain (gen_host_macros_plain htexts) ∅
        rw [diff_macros, hparsed']
        refine congrArg Except.ok (if_pos (Dict.same_iff.mpr fun k => ?_))
        rw [lookup_parsed]
        cases hlookup : macros.lookup k with
        | none => rfl
        | some v =>
          obtain ⟨-, cs, rfl, -⟩ := htexts k v hlookup
          rfl

theorem diff_macros_congr {host host' : Host} (hmacros : host.macros = host'.macros)
    (macros : Option (Dict Text Value)) : diff_macros host macros = diff_macros host' macros := by
  cases macros with
  | none => rfl
  | some macros => rw [diff_macros, diff_macros, parse_host_macros, parse_host_macros, host_macros, host_macros, hmacros]

/-- The parts of an update. -/
theorem diff_host_eq_ok {host : Host} {desired : Desired} {params : Params} :
    diff_host host desired = .ok params ↔
      diff_interfaces host (get_host_interface desired.dns desired.ip desired.port desired.useip) =
          .ok params.interfaces ∧
        diff_basic_info host desired = .ok (params.host, params.name, params.proxy_hostid, params.status) ∧
        diff_templates host desired.templates = .ok (params.templates, params.templates_clear) ∧
        diff_host_groups host desired.groups = .ok params.groups ∧
        diff_macros host desired.macros = .ok params.macros := by
  constructor
  · intro hdiff
    obtain ⟨interfaces, hinterfaces, hdiff⟩ := bind_eq_ok.mp hdiff
    obtain ⟨info, hinfo, hdiff⟩ := bind_eq_ok.mp hdiff
    obtain ⟨templates, htemplates, hdiff⟩ := bind_eq_ok.mp hdiff
    obtain ⟨groups, hgroups, hdiff⟩ := bind_eq_ok.mp hdiff
    obtain ⟨macros, hmacros, hdiff⟩ := bind_eq_ok.mp hdiff
    cases hdiff
    exact ⟨hinterfaces, hinfo, htemplates, hgroups, hmacros⟩
  · rintro ⟨hinterfaces, hinfo, htemplates, hgroups, hmacros⟩
    rw [diff_host, hinterfaces, hinfo, htemplates, hgroups, hmacros]
    rfl

/-- All parts but the macros of an update of a host that the API returned leave nothing to be updated. -/
theorem diff_host_converges {host : Host} (hhost : host.Returned) (desired : Desired) {new : Option (List Macro)}
    (hmacros : diff_macros host desired.macros = .ok new)
    (hnone : ∀ host' : Host, host'.macros = (new.map Collection.list).or host.macros →
      diff_macros host' desired.macros = .ok none) : Converges host desired := by
  obtain ⟨linked, hlinked⟩ := hhost.templates
  obtain ⟨ids, hids⟩ := hhost.groups
  obtain ⟨status, hstatus⟩ := hhost.status
  obtain ⟨proxy, hproxy⟩ : ∃ n, (host.proxy_hostid.getD (.number NO_PROXY)).int = .ok n := by
    cases hvalue : host.proxy_hostid with
    | none => exact ⟨NO_PROXY, rfl⟩
    | some value => exact hhost.proxy_hostid value hvalue
  obtain ⟨interfaces, hinterfaces, hinterfaces_none⟩ :=
    diff_interfaces_spec hhost desired.dns desired.ip desired.port desired.useip
  obtain ⟨templates, cleared, htemplates, hcleared, htemplates_none⟩ := diff_templates_spec hlinked desired.templates
  obtain ⟨groups, hgroups, hgroups_none⟩ := diff_host_groups_spec hids desired.groups
  have hinfo : diff_basic_info host desired = .ok (changed host.host desired.host_id,
      changed host.name desired.host_name, changed proxy desired.proxy_id, changed status desired.status) := by
    rw [diff_basic_info, hproxy, hstatus]
    rfl
  refine ⟨⟨interfaces, _, _, _, _, templates, cleared, groups, new⟩, linked,
    diff_host_eq_ok.mpr ⟨hinterfaces, hinfo, htemplates, hgroups, hmacros⟩,
    diff_host_eq_ok.mpr ⟨hinterfaces_none _ rfl, ?_, diff_templates_same htemplates_none,
      diff_host_groups_same hgroups_none, hnone _ rfl⟩, hlinked, hcleared⟩
  apply diff_basic_info_same
  · exact getD_changed _ _
  · exact getD_changed _ _
  · have hproxy' := int_changed hproxy desired.proxy_id
    cases hvalue : host.proxy_hostid with
    | none =>
      rw [hvalue] at hproxy'
      rw [Params.apply, hvalue, Option.or_none]
      exact hproxy'
    | some value =>
      rw [hvalue] at hproxy'
      rw [Params.apply, hvalue, Option.getD_or]
      exact hproxy'
  · exact int_changed hstatus desired.status

theorem comparable_of_converges {host : Host} {desired : Desired} (hconverges : Converges host desired)
    {macros : Dict Text Value} (hmacros : desired.macros = some macros) : MacrosComparable host macros := by
  obtain ⟨params, linked, hdiff, hempty, -, -⟩ := hconverges
  have hnew := (diff_host_eq_ok.mp hdiff).2.2.2.2
  have hnone := (diff_host_eq_ok.mp hempty).2.2.2.2
  rw [hmacros] at hnew hnone
  apply (diff_macros_iff host macros).mp
  refine ⟨params.macros, hnew, fun host' hhost' => ?_⟩
  rw [@diff_macros_congr host' (params.apply host) hhost']
  exact hnone

/-- A host converges exactly when its macros, if any are configured, can be compared with the configured ones. -/
theorem converges_iff_comparable {host : Host} (hhost : host.Returned) (desired : Desired) :
    Converges host desired ↔ ∀ macros ∈ desired.macros, MacrosComparable host macros := by
  constructor
  · intro hconverges macros hmacros
    exact comparable_of_converges hconverges hmacros
  · intro hcomparable
    cases hmacros : desired.macros with
    | none =>
      have hnone : ∀ host' : Host, diff_macros host' desired.macros = .ok none := fun _ => by
        rw [hmacros]
        rfl
      exact diff_host_converges hhost desired (hnone host) fun host' _ => hnone host'
    | some macros =>
      obtain ⟨new, hnew, hnone⟩ := (diff_macros_iff host macros).mpr (hcomparable macros hmacros)
      rw [← hmacros] at hnew hnone
      exact diff_host_converges hhost desired hnew hnone

end converge

section numeric

/-- A host that is configured as desired, but for its macro, which should have a number for its value. -/
def ram_host (macro_value : Text) : Host where
  host := ['h']
  name := ['n']
  status := .text ['0']
  proxy_hostid := some (.text ['0'])
  interfaces := some (.list [⟨some (.text ['5']), some ['n'], some ['i'], .text ['1'], .text ['1'], .text ['1'],
    .text ['4', '2']⟩])
  groups := some [.text ['2']]
  parentTemplates := some [.text ['1', '0']]
  macros := some (.list [⟨['m'], .text macro_value⟩])

def ram_desired (value : Value) : Desired where
  host_id := ['h']
  host_name := ['n']
  dns := some ['n']
  ip := some ['i']
  port := 42
  useip := true
  groups := [2]
  templates := [11]
  macros := some ((∅ : Dict Text Value).insert ['m'] value)
  status := 0
  proxy_id := 0

theorem ram_host_returned (macro_value : Text) : (ram_host macro_value).Returned where
  status := ⟨0, by rfl⟩
  proxy_hostid := by
    rintro value ⟨⟩
    exact ⟨0, by rfl⟩
  groups := ⟨_, by rfl⟩
  templates := ⟨_, by rfl⟩
  interfaces := by
    intro iface hiface
    rw [List.mem_singleton.mp hiface]
    exact ⟨rfl, ⟨1, by rfl⟩, ⟨1, by rfl⟩, ⟨_, rfl⟩, ⟨_, rfl⟩⟩
  main_agent := ⟨[], _, [], rfl, by rfl, fun _ h => absurd h List.not_mem_nil⟩

/-- A number is sent again and again, and the macros of a host that are not ASCII cannot be read. -/
theorem not_converges_ram :
    ¬Converges (ram_host ['8']) (ram_desired (.number 8)) ∧ ¬Converges (ram_host ['é']) (ram_desired (.text ['8'])) := by
  constructor
  · intro hconverges
    obtain ⟨-, htexts⟩ := comparable_of_converges hconverges rfl
    obtain ⟨-, cs, hvalue, -⟩ := htexts ['m'] (.number 8) (AList.lookup_insert _)
    cases hvalue
  · intro hconverges
    obtain ⟨hplain, -⟩ := comparable_of_converges hconverges rfl
    exact absurd ((hplain _ List.mem_cons_self).2 _ rfl) (by decide)

theorem converges_iff_comparable_ram : Converges (ram_host ['8']) (ram_desired (.text ['9'])) := by
  refine (converges_iff_comparable (ram_host_returned ['8']) _).mpr ?_
  rintro macros ⟨⟩
  constructor
  · intro m hm
    rw [List.mem_singleton.mp hm]
    refine ⟨by decide, ?_⟩
    rintro cs ⟨⟩
    decide
  · intro k v hlookup
    rw [Dict.lookup_insert_ite] at hlookup
    split at hlookup
    · case isTrue hk =>
      cases hlookup
      rw [hk]
      exact ⟨by decide, _, rfl, by decide⟩
    · cases hlookup

end numeric

end api.mon.zabbix
