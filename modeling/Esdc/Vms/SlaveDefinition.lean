import Mathlib
import Esdc.Lib.JsonTree

namespace vms.slave_definition

open text json

/-- The columns of a VM. -/
inductive Attname
  | uuid | hostname | alias | vnc_port | ostype | hvm_type | status | owner_id | node_id | dc_id | template_id
  | uptime | uptime_changed | note | slave_vms | enc_json | enc_json_active | enc_info | status_change | created
  | changed
  deriving DecidableEq

def Vm_meta_fields : List Attname :=
  [.enc_json, .status_change, .created, .changed, .uuid, .hostname, .alias, .vnc_port, .ostype, .hvm_type, .status,
    .owner_id, .node_id, .dc_id, .template_id, .uptime, .uptime_changed, .note, .enc_json_active, .enc_info,
    .slave_vms]

/-- The text of a UUID. -/
abbrev Uuid := { cs : Text // cs.length = 36 }

section columns

variable (L : Type)

/-- What a column holds; a definition is held as what it decodes to. -/
abbrev Attname.Value : Attname → Type
  | .uuid => Uuid
  | .hostname | .alias | .note | .owner_id | .dc_id => Text
  | .node_id | .template_id => Option Text
  | .slave_vms => List Text
  | .enc_json | .enc_json_active | .enc_info => Json L
  | .vnc_port | .ostype | .hvm_type | .status | .uptime | .uptime_changed => ℤ
  | .status_change | .created | .changed => Option ℕ

/-- A VM has a value in each column. -/
abbrev Vm := (attname : Attname) → attname.Value L

/-- The arguments of a slave other than its master, and their defaults. -/
structure Kwargs where
  enc_json : Option (Json L)
  name : Text
  sync_status : ℕ
  last_sync : Option ℕ

structure SlaveVm where
  enc_json : Json L
  name : Text
  sync_status : ℕ
  last_sync : Option ℕ
  master_vm : Vm L
  vm : Vm L

end columns

section source

variable {L : Type}

/-- What is decoded from `EMPTY`. -/
def EMPTY : Json L := .object []

def NOTCREATED : ℤ := 9

def kept : List Attname := [.uuid, .hostname, .enc_json_active, .vnc_port, .created, .changed]

/-- The loop over the columns; those of the list keep the value of the new VM. -/
def copy_fields (master_vm : Vm L) (fields : List Attname) (slave_vm : Vm L) : Vm L :=
  fields.foldl (fun slave_vm attname =>
    if attname ∈ kept then slave_vm else Function.update slave_vm attname (master_vm attname)) slave_vm

def lookup (key : Text) (members : List (Text × Json L)) : Option (Json L) :=
  (members.find? fun member => decide (member.1 = key)).map Prod.snd

def set (key : Text) (value : Json L) (members : List (Text × Json L)) : List (Text × Json L) :=
  members.map fun member => if member.1 = key then (key, value) else member

/-- What a loop over a value goes through. -/
def iter : Json L → Option (List (Json L))
  | .leaf _ => none
  | .str cs => some (cs.map fun c => .str [c])
  | .array items => some items
  | .object members => some (members.map fun member => .str member.1)

/-- `['']` becomes the empty list. -/
def fix_allowed_ips : Json L → Option (Json L)
  | .object nic =>
    match lookup "allowed_ips".toList nic with
    | some (.array [.str []]) => some (.object (set "allowed_ips".toList (.array []) nic))
    | _ => some (.object nic)
  | _ => none

/-- `PickleDict.load`, with what `json.loads` returns. -/
def load (loads : Text → Option (Json L)) (string : Text) : Option (Json L) :=
  match loads string with
  | some (.object members) =>
    match lookup "nics".toList members with
    | none => some (.object members)
    | some nics => ((iter nics).bind fun items => items.mapM fix_allowed_ips).map fun items =>
        match nics with
        | .array _ => .object (set "nics".toList (.array items) members)
        | _ => .object members
  | _ => none

/-- `Model.__init__` gives every column its argument or its default, whatever was set before. -/
def super_init (_enc_json : Json L) (kwargs : Kwargs L) (master_vm vm : Vm L) : SlaveVm L where
  enc_json := kwargs.enc_json.getD EMPTY
  name := kwargs.name
  sync_status := kwargs.sync_status
  last_sync := kwargs.last_sync
  master_vm := master_vm
  vm := vm

/-- The constructor for a master, with the new VM that `Vm()` returns. The replaced definition is set on the slave
itself, before its columns get their values. -/
def init (dumps : Json L → Text) (loads : Text → Option (Json L)) (master_vm new_vm : Vm L) (kwargs : Kwargs L) :
    Option (SlaveVm L) :=
  let slave_vm := copy_fields master_vm Vm_meta_fields new_vm
  let string := replace (master_vm .uuid).1 (slave_vm .uuid).1 (dumps (slave_vm .enc_json))
  (load loads string).map fun json =>
    let self := super_init json kwargs master_vm slave_vm
    { self with vm := Function.update self.vm .status NOTCREATED }

end source

section definition

variable {L : Type}

/-- The definition with one uuid in place of another, wherever it stands. -/
def replace_uuid (old new : Uuid) (json : Json L) : Json L := json.map (replace old.1 new.1)

/-- The uuid stands somewhere in the definition, in a value or a key. -/
def Refers (uuid : Uuid) (json : Json L) : Prop := ∃ cs ∈ json.texts, uuid.1 <:+: cs

/-- The slave's definition is the master's with the uuid replaced, and the master's is as before. -/
def DefinitionReplaced (slave : SlaveVm L) (master_vm : Vm L) : Prop :=
  slave.vm .enc_json = replace_uuid (master_vm .uuid) (slave.vm .uuid) (master_vm .enc_json) ∧
    ¬Refers (master_vm .uuid) (slave.vm .enc_json) ∧ slave.master_vm .enc_json = master_vm .enc_json

theorem replace_uuid_eq_self_iff {old new : Uuid} (hne : old ≠ new) (json : Json L) :
    replace_uuid old new json = json ↔ ¬Refers old json := by
  have hlength : old.1.length = new.1.length := old.2.trans new.2.symm
  have hnil : old.1 ≠ [] := List.ne_nil_of_length_pos (by rw [old.2]; decide)
  have htext : ∀ cs, replace old.1 new.1 cs = cs ↔ ¬old.1 <:+: cs :=
    replace_eq_self_iff hlength hnil fun h => hne (Subtype.ext h)
  rw [replace_uuid, Json.map_eq_self_iff, Refers]
  constructor
  · rintro hall ⟨cs, hcs, hinfix⟩
    exact (htext cs).mp (hall cs hcs) hinfix
  · intro hnot cs hcs
    exact (htext cs).mpr fun hinfix => hnot ⟨cs, hcs, hinfix⟩

/-- The loop copies each column that is not on the list. -/
theorem copy_fields_apply (master_vm slave_vm : Vm L) (fields : List Attname) (attname : Attname) :
    copy_fields master_vm fields slave_vm attname =
      if attname ∈ fields ∧ attname ∉ kept then master_vm attname else slave_vm attname := by
  induction fields generalizing slave_vm with
  | nil => exact (if_neg fun h => List.not_mem_nil h.1).symm
  | cons field fields ih =>
    have hcons : copy_fields master_vm (field :: fields) slave_vm = copy_fields master_vm fields
        (if field ∈ kept then slave_vm else Function.update slave_vm field (master_vm field)) := rfl
    rw [hcons, ih]
    by_cases hfields : attname ∈ fields ∧ attname ∉ kept
    · rw [if_pos hfields, if_pos ⟨List.mem_cons_of_mem field hfields.1, hfields.2⟩]
    · rw [if_neg hfields]
      by_cases hfield : attname = field
      · subst hfield
        by_cases hkept : attname ∈ kept
        · have hnot : ¬(attname ∈ attname :: fields ∧ attname ∉ kept) := fun h => h.2 hkept
          rw [if_pos hkept, if_neg hnot]
        · have hcopied : attname ∈ attname :: fields ∧ attname ∉ kept := ⟨List.mem_cons_self, hkept⟩
          rw [if_neg hkept, if_pos hcopied, Function.update_self]
      · have hnot : ¬(attname ∈ field :: fields ∧ attname ∉ kept) :=
          fun h => hfields ⟨List.mem_of_ne_of_mem hfield h.1, h.2⟩
        rw [if_neg hnot]
        split
        · rfl
        · rw [Function.update_of_ne hfield]

variable {dumps : Json L → Text} {loads : Text → Option (Json L)} {master_vm new_vm : Vm L} {kwargs : Kwargs L}

/-- A slave has the definition of its master as it is, and the uuid of the new VM. -/
theorem init_spec {slave : SlaveVm L} (hinit : init dumps loads master_vm new_vm kwargs = some slave) :
    slave.vm .uuid = new_vm .uuid ∧ slave.vm .enc_json = master_vm .enc_json ∧ slave.master_vm = master_vm ∧
      slave.vm .status = NOTCREATED := by
  obtain ⟨json, -, rfl⟩ := Option.map_eq_some_iff.mp hinit
  have huuid := copy_fields_apply master_vm new_vm Vm_meta_fields .uuid
  have hjson := copy_fields_apply master_vm new_vm Vm_meta_fields .enc_json
  rw [if_neg (by decide)] at huuid
  rw [if_pos (by decide)] at hjson
  refine ⟨huuid, hjson, rfl, ?_⟩
  simp only [Function.update_self]

theorem init_isSome_iff : (init dumps loads master_vm new_vm kwargs).isSome ↔
    (load loads (replace (master_vm .uuid).1 (new_vm .uuid).1 (dumps (master_vm .enc_json)))).isSome := by
  have huuid := copy_fields_apply master_vm new_vm Vm_meta_fields .uuid
  have hjson := copy_fields_apply master_vm new_vm Vm_meta_fields .enc_json
  rw [if_neg (by decide)] at huuid
  rw [if_pos (by decide)] at hjson
  simp only [init, Option.isSome_map, huuid, hjson]

/-- The definition of a slave has the uuid replaced exactly when there was nothing to replace: what is replaced is
never stored in it. -/
theorem definition_replaced_iff_not_refers (hload : (load loads
      (replace (master_vm .uuid).1 (new_vm .uuid).1 (dumps (master_vm .enc_json)))).isSome)
    (hne : master_vm .uuid ≠ new_vm .uuid) :
    (∃ slave, init dumps loads master_vm new_vm kwargs = some slave ∧ DefinitionReplaced slave master_vm) ↔
      ¬Refers (master_vm .uuid) (master_vm .enc_json) := by
  obtain ⟨slave, hinit⟩ := Option.isSome_iff_exists.mp (@init_isSome_iff L dumps loads master_vm new_vm kwargs |>.mpr hload)
  obtain ⟨huuid, hjson, hmaster, -⟩ := init_spec hinit
  constructor
  · rintro ⟨slave', hinit', hreplaced, -, -⟩
    cases hinit.symm.trans hinit'
    rw [hjson, huuid] at hreplaced
    exact (replace_uuid_eq_self_iff hne _).mp hreplaced.symm
  · intro hrefers
    refine ⟨slave, hinit, ?_, ?_, ?_⟩
    · rw [hjson, huuid]
      exact ((replace_uuid_eq_self_iff hne _).mpr hrefers).symm
    · rw [hjson]
      exact hrefers
    · rw [hmaster]

end definition

section zonepath

def uuid_of (c : Char) : Uuid :=
  ⟨join '-' (([8, 4, 4, 4, 12] : List ℕ).map fun n => List.replicate n c), by rfl⟩

/-- A zone whose definition has its uuid and its zonepath. -/
def zone_json (uuid : Uuid) : Json Unit :=
  .object [("uuid".toList, .str uuid.1), ("zonepath".toList, .str ("/zones/".toList ++ uuid.1))]

def zone (uuid : Uuid) (enc_json : Json Unit) : Vm Unit
  | .uuid => uuid
  | .enc_json => enc_json
  | .hostname | .alias | .note | .owner_id | .dc_id => []
  | .node_id | .template_id => none
  | .slave_vms => []
  | .enc_json_active | .enc_info => EMPTY
  | .vnc_port | .ostype | .hvm_type | .status | .uptime | .uptime_changed => 0
  | .status_change | .created | .changed => none

def zone_dumps (_ : Json Unit) : Text :=
  "\x7b\n    \"uuid\": \"".toList ++ (uuid_of '1').1 ++ "\", \n    \"zonepath\": \"/zones/".toList ++ (uuid_of '1').1 ++
    "\"\n\x7d".toList

def zone_loads (_ : Text) : Option (Json Unit) := some (zone_json (uuid_of '2'))

def zone_kwargs : Kwargs Unit := ⟨none, "replica".toList, 0, none⟩

theorem refers_zone : Refers (uuid_of '1') (zone_json (uuid_of '1')) :=
  ⟨(uuid_of '1').1, List.mem_cons_of_mem _ List.mem_cons_self, List.infix_rfl⟩

/-- The slave of a zone has the master's zonepath. -/
theorem not_definition_replaced_zone : ¬∃ slave, init zone_dumps zone_loads
    (zone (uuid_of '1') (zone_json (uuid_of '1'))) (zone (uuid_of '2') EMPTY) zone_kwargs = some slave ∧
      DefinitionReplaced slave (zone (uuid_of '1') (zone_json (uuid_of '1'))) := by
  rintro ⟨slave, hinit, -, hrefers, -⟩
  obtain ⟨-, hjson, -, -⟩ := init_spec hinit
  rw [hjson] at hrefers
  exact hrefers refers_zone

theorem definition_replaced_iff_not_refers_zone :
    (∃ slave, init zone_dumps zone_loads (zone (uuid_of '1') (zone_json (uuid_of '1'))) (zone (uuid_of '2') EMPTY)
        zone_kwargs = some slave ∧ DefinitionReplaced slave (zone (uuid_of '1') (zone_json (uuid_of '1')))) ↔
      ¬Refers (uuid_of '1') (zone_json (uuid_of '1')) :=
  definition_replaced_iff_not_refers (by rfl) (by decide)

end zonepath

end vms.slave_definition
