import Mathlib
import Esdc.Api.Vm.Define.Disk
import Esdc.Api.Vm.Define.NicSaved

namespace api.vm.define.lists

open Fallible (bind_eq_ok)
open api.vm.define.disk (Disk OSType Hypervisor)
open vms.definition (Item Value)

section definition

variable {U D : Type} [DecidableEq U] [DecidableEq D]

/-- The lists of a VM; the disks of a zone are in the root of its definition. -/
structure Definition where
  ostype : OSType
  hvm_type : Hypervisor
  nics : List Item
  disks : List Disk
  json : vms.zone_disks.Json

/-- A request, with the other columns of the VM and the other tables at the time it is made. -/
inductive Request (U D : Type)
  | nic_post (columns : nic.Vm U) (db : nic.Db U D) (req : nic.Request) (nic_id : ℕ) (data : nic.Data)
  | nic_put (columns : nic.Vm U) (db : nic.Db U D) (req : nic.Request) (nic_id : ℕ) (data : nic.Data)
  | nic_delete (columns : nic.Vm U) (db : nic.Db U D) (nic_id : ℕ)
  | disk_post (columns : disk.Vm) (req : disk.Request) (disk_id : ℕ) (data : disk.Data)
  | disk_put (columns : disk.Vm) (req : disk.Request) (disk_id : ℕ) (data : disk.Data)
  | disk_delete (columns : disk.Vm) (req : disk.Request) (disk_id : ℕ)

def Definition.nic_vm (d : Definition) (columns : nic.Vm U) : nic.Vm U := { columns with
  hvm := d.hvm_type ≠ .NONE
  is_linux_zone := d.ostype = .LINUX_ZONE
  nics := d.nics }

def Definition.disk_vm (d : Definition) (columns : disk.Vm) : disk.Vm := { columns with
  ostype := d.ostype
  hvm_type := d.hvm_type
  disks := d.disks
  json := d.json }

def Definition.save_nics (d : Definition) (result : Except nic.Error (nic.Result U)) : Option Definition :=
  result.toOption.map fun result => { d with nics := result.vm.nics }

def Definition.save_disks (d : Definition) (result : Except disk.Error disk.Vm) : Option Definition :=
  result.toOption.map fun vm => { d with disks := vm.disks, json := vm.json }

/-- The definition after a request that is accepted. -/
def Definition.handle (d : Definition) (request : Request U D) : Option Definition :=
  match request with
  | .nic_post columns db req nic_id data => d.save_nics (nic.VmDefineNicView.post db req (d.nic_vm columns) nic_id data)
  | .nic_put columns db req nic_id data => d.save_nics (nic.VmDefineNicView.put db req (d.nic_vm columns) nic_id data)
  | .nic_delete columns db nic_id => d.save_nics (nic.VmDefineNicView.delete db (d.nic_vm columns) nic_id)
  | .disk_post columns req disk_id data =>
    d.save_disks (disk.VmDefineDiskView.post req (d.disk_vm columns) disk_id data)
  | .disk_put columns req disk_id data => d.save_disks (disk.VmDefineDiskView.put req (d.disk_vm columns) disk_id data)
  | .disk_delete columns req disk_id => d.save_disks (disk.VmDefineDiskView.delete req (d.disk_vm columns) disk_id)

/-- A request that is not accepted changes nothing. -/
def Definition.run (d : Definition) (requests : List (Request U D)) : Definition :=
  requests.foldl (fun d request => (d.handle request).getD d) d

/-- The definition of a VM without NICs and disks, with the root of its definition. -/
def Definition.empty (ostype : OSType) (hvm_type : Hypervisor) (json : vms.zone_disks.Json) : Definition where
  ostype := ostype
  hvm_type := hvm_type
  nics := []
  disks := []
  json := json

def Definition.interface (d : Definition) (i : ℕ) : String :=
  (if d.ostype = .LINUX_ZONE then "eth" else "net") ++ toString i

def is_primary (item : Item) : Bool := nic.get item "primary" = .bool true

/-- One primary NIC at most, interfaces in the order of the list, and the boot flag only on the first disk, whatever the
other columns of the VM are. -/
structure ListInvariants (d : Definition) : Prop where
  primary : d.nics.countP is_primary ≤ 1
  interfaces : ∀ (i : ℕ) (item : Item), d.nics[i]? = some item → item.lookup "interface" = some (.str (d.interface i))
  boot : ∀ columns (i : ℕ) (item : Disk), (d.disk_vm columns).json_get_disks[i]? = some item → item.boot = some true → i = 0

/-- What holds of the disks that are stored: only the first one can have the boot flag. -/
def BootFirst (disks : List Disk) : Prop := ∀ disk ∈ disks.tail, disk.boot ≠ some true

end definition

section nics

variable {U D : Type} {db : nic.Db U D} {req : nic.Request} {vm : nic.Vm U} {nic_id : ℕ} {data : nic.Data}
  {ser ser' : nic.VmDefineNicSerializer U}

theorem is_primary_save_nic (vm : nic.Vm U) (i : ℕ) (item : Item) :
    is_primary (vm.save_nic i item) = is_primary item := by
  unfold is_primary nic.get
  rw [nic.lookup_save_nic, if_neg (by decide)]
  have hremoved : ∀ value, nic.removed vm.hvm "primary" value = value.falsy := by
    intro value
    simp [nic.removed]
  simp only [hremoved]
  cases hlookup : item.lookup "primary" with
  | none => rfl
  | some value =>
    rw [Option.filter_some]
    cases hfalsy : value.falsy with
    | false => rfl
    | true =>
      have hne : value ≠ .bool true := by
        rintro rfl
        cases hfalsy
      simp [hne]

theorem countP_mapIdx_save_nic (vm : nic.Vm U) (items : List Item) :
    (items.mapIdx vm.save_nic).countP is_primary = items.countP is_primary := by
  rw [List.mapIdx_eq_zipIdx_map, List.countP_map]
  calc items.zipIdx.countP (is_primary ∘ fun entry => vm.save_nic entry.2 entry.1)
      = items.zipIdx.countP (is_primary ∘ Prod.fst) := by
        congr 1
        funext entry
        exact is_primary_save_nic vm entry.2 entry.1
    _ = items.countP is_primary := by rw [← List.countP_map, List.zipIdx_map_fst]

theorem lookup_interface_save_nic (vm : nic.Vm U) (i : ℕ) (item : Item) :
    (vm.save_nic i item).lookup "interface" = some (.str (vm.interface i)) := by
  rw [nic.lookup_save_nic, if_pos rfl]
  simp [nic.removed, vms.definition.Vm._NICS_REMOVE_EMPTY]

theorem lookup_primary_jsondata (ser : nic.VmDefineNicSerializer U) :
    ser.jsondata.lookup "primary" = (ser.object.getD ∅).lookup "primary" := by
  unfold nic.VmDefineNicSerializer.jsondata
  simp only
  split
  · split
    · simp
    · simp
  · split
    · simp
    · simp

/-- A NIC that has no flag in the definition is not the primary one. -/
theorem fix_before_primary {item : Item} (hfix : nic.fix_before db vm item = .ok ser) :
    ∃ object, ser.object = some object ∧
      object.lookup "primary" = some ((item.lookup "primary").getD (.bool false)) := by
  unfold nic.fix_before at hfix
  obtain ⟨⟨item₁, net⟩, hnet, hfix⟩ := bind_eq_ok.mp hfix
  obtain ⟨⟨item₂, _ip⟩, hip, hfix⟩ := bind_eq_ok.mp hfix
  obtain ⟨-, hsame, -⟩ := nic.fix_net_spec hnet
  obtain rfl := Except.ok.inj hfix
  refine ⟨_, rfl, ?_⟩
  rw [nic.lookup_fix_dummies (by decide), nic.lookup_fix_allowed_ips (by decide), nic.lookup_fix_ip (by decide) hip,
    nic.set_missing, nic.lookup_setdefault, if_pos rfl, nic.lookup_setdefault, if_neg (by decide), nic.lookup_setdefault,
    if_neg (by decide), hsame "primary" (by decide) (by decide)]

theorem find_ip_primary {net : nic.Subnet} (hvalid : nic.find_ip db req net data ser = .ok ser') :
    ser'.attrs.lookup "primary" = ser.attrs.lookup "primary" := by
  unfold nic.find_ip at hvalid
  split at hvalid
  · obtain rfl := Except.ok.inj hvalid
    rfl
  · split at hvalid
    · obtain rfl := Except.ok.inj hvalid
      simp
    · simp only at hvalid
      split at hvalid
      · cases hvalid
      · obtain rfl := Except.ok.inj hvalid
        simp

theorem inherit_net_primary {net : nic.Subnet} (hvalid : nic.inherit_net req net data ser = .ok ser') :
    ser'.attrs.lookup "primary" = ser.attrs.lookup "primary" := by
  unfold nic.inherit_net at hvalid
  obtain ⟨set_gateway, -, hvalid⟩ := bind_eq_ok.mp hvalid
  obtain rfl := Except.ok.inj hvalid
  cases set_gateway <;> cases ser._ip <;> simp

theorem validate_net_primary (hvalid : nic.validate_net db req vm data ser = .ok ser') :
    ser'.object = ser.object ∧ ser'.attrs = ser.attrs := by
  unfold nic.validate_net at hvalid
  split at hvalid
  · obtain rfl := Except.ok.inj hvalid
    exact ⟨rfl, rfl⟩
  · split at hvalid
    · cases hvalid
    · split at hvalid
      · obtain rfl := Except.ok.inj hvalid
        exact ⟨rfl, rfl⟩
      · split at hvalid
        · cases hvalid
        · split at hvalid
          · cases hvalid
          · obtain ⟨_, -, hvalid⟩ := bind_eq_ok.mp hvalid
            split at hvalid
            · obtain rfl := Except.ok.inj hvalid
              exact ⟨rfl, rfl⟩
            · split at hvalid
              · cases hvalid
              · obtain rfl := Except.ok.inj hvalid
                exact ⟨rfl, rfl⟩

variable [DecidableEq U] [DecidableEq D]

theorem validate_primary_attrs (hvalid : nic.validate db req vm data ser = .ok ser') :
    ser'.object = ser.object ∧ ser'.attrs.lookup "primary" = ser.attrs.lookup "primary" := by
  unfold nic.validate at hvalid
  split at hvalid
  · cases hvalid
  · obtain ⟨ser₂, hvalid_ip, hvalid⟩ := bind_eq_ok.mp hvalid
    obtain ⟨ser₃, hvalid_allowed, hvalid⟩ := bind_eq_ok.mp hvalid
    obtain ⟨_, -, hvalid⟩ := bind_eq_ok.mp hvalid
    obtain ⟨ser₄, hvalid_find, hvalid_inherit⟩ := bind_eq_ok.mp hvalid
    obtain ⟨hobject₂, -, hattrs₂, -⟩ := nic.validate_ip_spec hvalid_ip
    obtain ⟨hobject₃, -, -, -, hattrs₃⟩ := nic.validate_allowed_ips_spec hvalid_allowed
    obtain ⟨hobject₄, -⟩ := nic.find_ip_spec hvalid_find
    obtain ⟨hobject₅, -⟩ := nic.inherit_net_spec hvalid_inherit
    refine ⟨by rw [hobject₅, hobject₄, hobject₃, hobject₂], ?_⟩
    rw [inherit_net_primary hvalid_inherit, find_ip_primary hvalid_find, hattrs₃ "primary" (by decide),
      hattrs₂ "primary" (by decide)]

/-- The flag of a serialized NIC is the one that was sent, or else that of the NIC. -/
theorem is_valid_primary (hvalid : nic.is_valid db req vm nic_id data ser = .ok ser') :
    nic.validate_primary vm nic_id data = true ∧
      ser'.jsondata.lookup "primary" =
        (data.primary.map .bool).or (ser.object.bind fun object => object.lookup "primary") := by
  unfold nic.is_valid at hvalid
  obtain ⟨ser₁, hvalid_net, hvalid⟩ := bind_eq_ok.mp hvalid
  obtain ⟨hobject₁, hattrs₁⟩ := validate_net_primary hvalid_net
  split at hvalid
  · case isTrue hfields =>
    obtain ⟨ser₂, hvalidate, hser'⟩ := bind_eq_ok.mp hvalid
    obtain ⟨hobject₂, hprimary₂⟩ := validate_primary_attrs hvalidate
    rw [hobject₁] at hobject₂
    rw [hattrs₁] at hprimary₂
    have hattrs : ser₂.attrs.lookup "primary" = data.primary.map .bool := by
      rw [hprimary₂]
      simp [nic.Data.attrs, nic.lookup_insert_sent]
    obtain rfl := Except.ok.inj hser'
    refine ⟨?_, ?_⟩
    · simp only [nic.valid_fields, Bool.and_eq_true] at hfields
      exact hfields.1.1.1.1.1.1.2
    · rw [lookup_primary_jsondata, Option.getD_some, hobject₂]
      cases ser.object with
      | none =>
        change ser₂.attrs.lookup "primary" = _
        rw [hattrs, Option.bind_none, Option.or_none]
      | some object =>
        change (Dict.update object ser₂.attrs).lookup "primary" = _
        rw [Dict.lookup_update, hattrs, Option.bind_some]
  · cases hvalid

omit [DecidableEq U] in
theorem countP_eq_zero_of_validate_primary (hvalid : nic.validate_primary vm nic_id data = true)
    (hprimary : data.primary = some true) : (vm.nics.eraseIdx nic_id).countP is_primary = 0 := by
  rw [nic.validate_primary, hprimary, Option.all_some, Bool.not_true, Bool.false_or, List.all_eq_true] at hvalid
  rw [List.countP_eq_zero]
  intro item hmem
  have hother := hvalid item hmem
  simpa [is_primary] using hother

/-- The other NICs and the one at a position. -/
theorem countP_eraseIdx {items : List Item} {i : ℕ} {item : Item} (hitem : items[i]? = some item) :
    items.countP is_primary = (items.eraseIdx i).countP is_primary + if is_primary item then 1 else 0 := by
  obtain ⟨hlt, rfl⟩ := List.getElem?_eq_some_iff.mp hitem
  rw [← (List.getElem_cons_eraseIdx_perm hlt).countP_eq, List.countP_cons]

omit [DecidableEq U] in
theorem new_nic_eq (hnew : vm.new_nic nic_id = .ok ()) : nic_id = vm.nics.length := by
  unfold nic.Vm.new_nic at hnew
  split at hnew
  · cases hnew
  · split at hnew
    · cases hnew
    · split at hnew
      · cases hnew
      · omega

omit [DecidableEq U] in
theorem existing_nic_mem {item : Item} (hexisting : vm.existing_nic nic_id = .ok item) :
    vm.nics[nic_id]? = some item := by
  unfold nic.Vm.existing_nic at hexisting
  split at hexisting
  · cases hexisting
  · split at hexisting
    · cases hexisting
    · case h_2 found hfound =>
      obtain rfl := Except.ok.inj hexisting
      exact hfound

/-- The NICs of a `VM` after a request are saved again, and one of them is the primary one at most. -/
def SavedNics (vm : nic.Vm U) (nics : List Item) : Prop :=
  ∃ items : List Item, nics = items.mapIdx vm.save_nic ∧ items.countP is_primary ≤ 1

theorem savedNics_post {result : nic.Result U} (hone : vm.nics.countP is_primary ≤ 1)
    (hpost : nic.VmDefineNicView.post db req vm nic_id data = .ok result) : SavedNics vm result.vm.nics := by
  unfold nic.VmDefineNicView.post at hpost
  obtain ⟨ser, hser, hsaved⟩ := bind_eq_ok.mp hpost
  unfold nic.saved_post at hsaved
  obtain ⟨monitoring_ip, -, hsaved⟩ := bind_eq_ok.mp hsaved
  obtain ⟨addresses, -, hsaved⟩ := bind_eq_ok.mp hsaved
  obtain rfl := Except.ok.inj hsaved
  refine ⟨_, rfl, ?_⟩
  unfold nic.post_serializer at hser
  obtain ⟨_, hnew, hvalid⟩ := bind_eq_ok.mp hser
  obtain ⟨hvalidated, hprimary⟩ := is_valid_primary hvalid
  rw [List.countP_append, List.countP_singleton]
  split
  · case isTrue hnew_primary =>
    have hsent : (data.with_defaults req.defaults).primary = some true := by
      rw [is_primary, nic.get, hprimary] at hnew_primary
      cases hsent : (data.with_defaults req.defaults).primary with
      | none =>
        rw [hsent] at hnew_primary
        cases hnew_primary
      | some value =>
        rw [hsent] at hnew_primary
        cases value with
        | true => rfl
        | false => cases hnew_primary
    have hzero := countP_eq_zero_of_validate_primary hvalidated hsent
    rw [List.eraseIdx_of_length_le (new_nic_eq hnew).ge] at hzero
    change vm.nics.countP is_primary + 1 ≤ 1
    omega
  · exact hone

theorem savedNics_put {result : nic.Result U} (hone : vm.nics.countP is_primary ≤ 1)
    (hput : nic.VmDefineNicView.put db req vm nic_id data = .ok result) : SavedNics vm result.vm.nics := by
  unfold nic.VmDefineNicView.put at hput
  obtain ⟨ser, hser, hsaved⟩ := bind_eq_ok.mp hput
  unfold nic.saved_put at hsaved
  obtain ⟨monitoring_ip, -, hsaved⟩ := bind_eq_ok.mp hsaved
  obtain ⟨addresses, -, hsaved⟩ := bind_eq_ok.mp hsaved
  obtain rfl := Except.ok.inj hsaved
  refine ⟨_, rfl, ?_⟩
  unfold nic.put_serializer at hser
  obtain ⟨item, hexisting, hser⟩ := bind_eq_ok.mp hser
  obtain ⟨ser₀, hfix, hvalid⟩ := bind_eq_ok.mp hser
  have hitem := existing_nic_mem hexisting
  obtain ⟨object, hobject, hstored⟩ := fix_before_primary hfix
  obtain ⟨hvalidated, hprimary⟩ := is_valid_primary hvalid
  rw [hobject, Option.bind_some, hstored] at hprimary
  have hmodified : (vm.nics.modify nic_id fun item => item.update ser.jsondata)[nic_id]? =
      some (Dict.update item ser.jsondata) := by
    rw [List.getElem?_modify_eq, hitem]
    rfl
  have hcount := countP_eraseIdx hitem
  rw [countP_eraseIdx hmodified, List.eraseIdx_modify_of_eq]
  have hupdated : is_primary (Dict.update item ser.jsondata) = data.primary.getD (is_primary item) := by
    rw [is_primary, nic.get, Dict.lookup_update, hprimary]
    cases data.primary with
    | some value => cases value <;> rfl
    | none =>
      rw [is_primary, nic.get]
      cases item.lookup "primary" <;> rfl
  rw [hupdated]
  cases hsent : data.primary with
  | none =>
    rw [Option.getD_none]
    omega
  | some value =>
    rw [Option.getD_some]
    cases value with
    | false =>
      change (vm.nics.eraseIdx nic_id).countP is_primary + 0 ≤ 1
      omega
    | true =>
      rw [countP_eq_zero_of_validate_primary hvalidated hsent]
      exact le_rfl

omit [DecidableEq D] in
theorem savedNics_delete {result : nic.Result U} (hone : vm.nics.countP is_primary ≤ 1)
    (hdelete : nic.VmDefineNicView.delete db vm nic_id = .ok result) : SavedNics vm result.vm.nics := by
  unfold nic.VmDefineNicView.delete at hdelete
  obtain ⟨item, -, hdelete⟩ := bind_eq_ok.mp hdelete
  obtain ⟨ser, -, hdelete⟩ := bind_eq_ok.mp hdelete
  obtain ⟨monitoring_ip, -, hdelete⟩ := bind_eq_ok.mp hdelete
  obtain ⟨addresses, -, hdelete⟩ := bind_eq_ok.mp hdelete
  obtain rfl := Except.ok.inj hdelete
  exact ⟨_, rfl, (List.eraseIdx_sublist _ _).countP_le.trans hone⟩

end nics

section disks

variable {req : disk.Request} {vm vm' : disk.Vm} {disk_id : ℕ} {ser ser' : disk.VmDefineDiskSerializer} {item : Disk}

theorem validate_boot_first {data : disk.Data} (hvalid : disk.validate_boot vm disk_id data = .ok ())
    (hboot : data.boot = some true) : disk_id = 0 := by
  unfold disk.validate_boot at hvalid
  rw [if_pos hboot] at hvalid
  by_contra hother
  rw [if_pos hother] at hvalid
  cases hvalid

theorem check_image_eq (hvalid : disk.check_image vm ser = .ok ser') : ser' = ser := by
  unfold disk.check_image at hvalid
  split at hvalid
  · exact (Except.ok.inj hvalid).symm
  · cases hvalid

/-- The serializers that have the same disk and the same flag. -/
def SameBoot (ser ser' : disk.VmDefineDiskSerializer) : Prop :=
  ser'.object = ser.object ∧ ser'.attrs.boot = ser.attrs.boot

theorem sameBoot_validate_zpool (hvalid : disk.validate_zpool req vm ser = .ok ser') : SameBoot ser ser' := by
  unfold disk.validate_zpool at hvalid
  split at hvalid
  · obtain rfl := Except.ok.inj hvalid
    exact ⟨rfl, rfl⟩
  · split at hvalid
    · split at hvalid
      · obtain rfl := Except.ok.inj hvalid
        exact ⟨rfl, rfl⟩
      · split at hvalid
        · cases hvalid
        · obtain rfl := Except.ok.inj hvalid
          exact ⟨rfl, rfl⟩
    · split at hvalid
      · obtain rfl := Except.ok.inj hvalid
        exact ⟨rfl, rfl⟩
      · cases hvalid

theorem sameBoot_validate_new_image {value : Option String}
    (hvalid : disk.validate_new_image req vm value ser = .ok ser') : SameBoot ser ser' := by
  unfold disk.validate_new_image at hvalid
  split at hvalid
  · obtain rfl := Except.ok.inj hvalid
    exact ⟨rfl, rfl⟩
  · split at hvalid
    · split at hvalid
      · obtain rfl := Except.ok.inj hvalid
        exact ⟨rfl, rfl⟩
      · split at hvalid
        · cases hvalid
        · obtain rfl := check_image_eq hvalid
          exact ⟨rfl, rfl⟩
    · cases hvalid

theorem sameBoot_validate_image (hvalid : disk.validate_image req vm disk_id ser = .ok ser') : SameBoot ser ser' := by
  unfold disk.validate_image at hvalid
  split at hvalid
  · obtain rfl := Except.ok.inj hvalid
    exact ⟨rfl, rfl⟩
  · split at hvalid
    · cases hvalid
    · simp only at hvalid
      split at hvalid
      · cases hvalid
      · split at hvalid
        · obtain ⟨hobject, hboot⟩ := sameBoot_validate_new_image hvalid
          exact ⟨hobject, hboot⟩
        · split at hvalid
          · cases hvalid
          · obtain rfl := check_image_eq hvalid
            exact ⟨rfl, rfl⟩

theorem sameBoot_validate_refreservation {size : ℕ}
    (hvalid : disk.validate_refreservation vm size ser = .ok ser') : SameBoot ser ser' := by
  unfold disk.validate_refreservation at hvalid
  split at hvalid
  · obtain rfl := Except.ok.inj hvalid
    exact ⟨rfl, rfl⟩
  · split at hvalid
    · split at hvalid
      · cases hvalid
      · obtain rfl := Except.ok.inj hvalid
        exact ⟨rfl, rfl⟩
    · cases hvalid
    · split at hvalid
      · obtain rfl := Except.ok.inj hvalid
        exact ⟨rfl, rfl⟩
      · obtain rfl := Except.ok.inj hvalid
        exact ⟨rfl, rfl⟩

theorem sameBoot_validate (hvalid : disk.validate vm disk_id ser = .ok ser') : SameBoot ser ser' := by
  unfold disk.validate at hvalid
  obtain ⟨size, -, hvalid⟩ := bind_eq_ok.mp hvalid
  obtain ⟨zpool, -, hvalid⟩ := bind_eq_ok.mp hvalid
  obtain ⟨_, -, hvalid⟩ := bind_eq_ok.mp hvalid
  obtain ⟨ser₁, hrefreservation, hvalid⟩ := bind_eq_ok.mp hvalid
  simp only at hvalid
  split at hvalid
  · obtain ⟨_, -, hvalid⟩ := bind_eq_ok.mp hvalid
    obtain rfl := Except.ok.inj hvalid
    exact sameBoot_validate_refreservation hrefreservation
  · obtain rfl := Except.ok.inj hvalid
    exact sameBoot_validate_refreservation hrefreservation

/-- The flag of a serialized disk is the one that was sent, and then the disk is the first one, or else that of the disk. -/
theorem is_valid_boot (hvalid : disk.is_valid req vm disk_id ser = .ok ser') (hjson : ser'.jsondata vm = .ok item)
    (hboot : item.boot = some true) : disk_id = 0 ∨ ∃ object, ser.object = some object ∧ object.boot = some true := by
  unfold disk.is_valid at hvalid
  split at hvalid
  swap
  · cases hvalid
  obtain ⟨_, hvalid_boot, hvalid⟩ := bind_eq_ok.mp hvalid
  obtain ⟨ser₁, hzpool, hvalid⟩ := bind_eq_ok.mp hvalid
  obtain ⟨_, -, hvalid⟩ := bind_eq_ok.mp hvalid
  obtain ⟨ser₂, himage, hvalid⟩ := bind_eq_ok.mp hvalid
  obtain ⟨ser₃, hvalidate, hvalid⟩ := bind_eq_ok.mp hvalid
  obtain rfl := Except.ok.inj hvalid
  obtain ⟨hobject₁, hboot₁⟩ := sameBoot_validate_zpool hzpool
  obtain ⟨hobject₂, hboot₂⟩ := sameBoot_validate_image himage
  obtain ⟨hobject₃, hboot₃⟩ := sameBoot_validate hvalidate
  have hobject : ser₃.object = ser.object := by rw [hobject₃, hobject₂, hobject₁]
  have hsent : ser₃.attrs.boot = ser.attrs.boot := by rw [hboot₃, hboot₂, hboot₁]
  have hitem : item.boot = ser.attrs.boot.or (ser.object.getD .empty).boot := by
    rw [← hsent, ← hobject]
    unfold disk.VmDefineDiskSerializer.jsondata at hjson
    simp only at hjson
    split at hjson
    · obtain rfl := Except.ok.inj hjson
      rfl
    · split at hjson
      · split at hjson
        · cases hjson
        · obtain rfl := Except.ok.inj hjson
          rfl
      · obtain rfl := Except.ok.inj hjson
        rfl
  rw [hitem] at hboot
  cases hattrs : ser.attrs.boot with
  | some value =>
    rw [hattrs, Option.some_or] at hboot
    exact .inl (validate_boot_first hvalid_boot (hattrs.trans hboot))
  | none =>
    rw [hattrs, Option.none_or] at hboot
    right
    cases hser : ser.object with
    | none =>
      rw [hser] at hboot
      cases hboot
    | some object =>
      rw [hser] at hboot
      exact ⟨object, rfl, hboot⟩

theorem BootFirst.filter {disks : List Disk} (hfirst : BootFirst disks) (p : Disk → Bool) :
    BootFirst (disks.filter p) := by
  cases disks with
  | nil => exact hfirst
  | cons first rest =>
    intro item hmem
    rw [List.filter_cons] at hmem
    split at hmem
    · exact hfirst item (List.mem_filter.mp hmem).1
    · exact hfirst item (List.mem_filter.mp (List.mem_of_mem_tail hmem)).1

theorem BootFirst.eraseIdx {disks : List Disk} (hfirst : BootFirst disks) (i : ℕ) : BootFirst (disks.eraseIdx i) := by
  cases disks with
  | nil => exact hfirst
  | cons first rest =>
    intro item hmem
    cases i with
    | zero => exact hfirst item (List.mem_of_mem_tail hmem)
    | succ i => exact hfirst item (List.mem_of_mem_eraseIdx hmem)

theorem BootFirst.append {disks : List Disk} (hfirst : BootFirst disks)
    (hitem : item.boot = some true → disks = []) : BootFirst (disks ++ [item]) := by
  cases disks with
  | nil => exact fun _ hmem => absurd hmem List.not_mem_nil
  | cons first rest =>
    intro other hmem hboot
    rw [List.cons_append, List.tail_cons, List.mem_append, List.mem_singleton] at hmem
    rcases hmem with hmem | rfl
    · exact hfirst other hmem hboot
    · cases hitem hboot

theorem BootFirst.set {disks : List Disk} (hfirst : BootFirst disks) {i : ℕ}
    (hitem : item.boot = some true → i = 0) : BootFirst (disks.set i item) := by
  cases disks with
  | nil => exact hfirst
  | cons first rest =>
    intro other hmem hboot
    cases i with
    | zero => exact hfirst other hmem hboot
    | succ i =>
      rcases List.mem_or_eq_of_mem_set hmem with hmem | rfl
      · exact hfirst other hmem hboot
      · cases hitem hboot

theorem bootFirst_json_get_disks (hfirst : BootFirst vm.disks) (hhvm : vm.is_hvm = true) :
    BootFirst vm.json_get_disks := by
  rw [disk.Vm.json_get_disks, if_pos hhvm]
  exact hfirst.filter _

/-- The disks of a zone are not stored as a list. -/
theorem bootFirst_save_disks {disks : List Disk} (hfirst : BootFirst vm.disks)
    (hdisks : vm.is_hvm = true → BootFirst disks) (hsave : vm.save_disks disks = .ok vm') : BootFirst vm'.disks := by
  unfold disk.Vm.save_disks at hsave
  split at hsave
  · case isTrue hhvm =>
    obtain rfl := Except.ok.inj hsave
    intro item hmem
    rw [← List.map_tail, List.mem_map] at hmem
    obtain ⟨item', hmem', rfl⟩ := hmem
    exact hdisks hhvm item' hmem'
  · obtain ⟨zones, -, hsave⟩ := bind_eq_ok.mp hsave
    split at hsave
    · obtain rfl := Except.ok.inj hsave
      exact hfirst
    · cases hsave

theorem new_disk_eq (hnew : vm.new_disk disk_id = .ok ()) : disk_id = vm.json_get_disks.length := by
  unfold disk.Vm.new_disk at hnew
  split at hnew
  · cases hnew
  · split at hnew
    · cases hnew
    · split at hnew
      · cases hnew
      · omega

theorem existing_disk_mem (hexisting : vm.existing_disk disk_id = .ok item) :
    vm.json_get_disks[disk_id]? = some item := by
  unfold disk.Vm.existing_disk at hexisting
  split at hexisting
  · cases hexisting
  · cases hfound : vm.json_get_disks[disk_id]? with
    | none =>
      rw [hfound] at hexisting
      cases hexisting
    | some found =>
      rw [hfound] at hexisting
      rw [Except.ok.inj hexisting]

theorem zone_object_hvm {object : Option Disk} (hhvm : vm.is_hvm = true) :
    disk.zone_object vm disk_id object = .ok object := by
  unfold disk.zone_object
  rw [if_pos hhvm]

theorem fix_before_boot {object : Disk} {img : Option disk.Image} (hfix : disk.fix_before req item = .ok (object, img)) :
    object.boot = item.boot := by
  unfold disk.fix_before at hfix
  split at hfix
  · obtain ⟨rfl, -⟩ := Prod.mk.inj (Except.ok.inj hfix)
    rfl
  · split at hfix
    · cases hfix
    · obtain ⟨rfl, -⟩ := Prod.mk.inj (Except.ok.inj hfix)
      rfl

theorem bootFirst_post {data : disk.Data} (hfirst : BootFirst vm.disks)
    (hpost : disk.VmDefineDiskView.post req vm disk_id data = .ok vm') : BootFirst vm'.disks := by
  unfold disk.VmDefineDiskView.post at hpost
  obtain ⟨_, hnew, hpost⟩ := bind_eq_ok.mp hpost
  split at hpost
  · cases hpost
  obtain ⟨ser, hser, hpost⟩ := bind_eq_ok.mp hpost
  split at hpost
  · cases hpost
  obtain ⟨ser', hvalid, hpost⟩ := bind_eq_ok.mp hpost
  obtain ⟨item, hjson, hsave⟩ := bind_eq_ok.mp hpost
  refine bootFirst_save_disks hfirst (fun hhvm => ?_) hsave
  apply (bootFirst_json_get_disks hfirst hhvm).append
  intro hboot
  unfold disk.VmDefineDiskSerializer.new at hser
  obtain ⟨object, hobject, hser⟩ := bind_eq_ok.mp hser
  rw [zone_object_hvm hhvm] at hobject
  obtain rfl := Except.ok.inj hobject
  obtain rfl := Except.ok.inj hser
  rcases is_valid_boot hvalid hjson hboot with hzero | ⟨object, hnone, -⟩
  · rw [new_disk_eq hnew] at hzero
    exact List.length_eq_zero_iff.mp hzero
  · cases hnone

theorem bootFirst_put {data : disk.Data} (hfirst : BootFirst vm.disks)
    (hput : disk.VmDefineDiskView.put req vm disk_id data = .ok vm') : BootFirst vm'.disks := by
  unfold disk.VmDefineDiskView.put at hput
  obtain ⟨stored, hexisting, hput⟩ := bind_eq_ok.mp hput
  obtain ⟨ser, hser, hput⟩ := bind_eq_ok.mp hput
  obtain ⟨ser', hvalid, hput⟩ := bind_eq_ok.mp hput
  obtain ⟨item, hjson, hsave⟩ := bind_eq_ok.mp hput
  refine bootFirst_save_disks hfirst (fun hhvm => ?_) hsave
  have hdisks := bootFirst_json_get_disks hfirst hhvm
  apply hdisks.set
  intro hboot
  unfold disk.VmDefineDiskSerializer.update at hser
  obtain ⟨⟨object, img⟩, hfix, hser⟩ := bind_eq_ok.mp hser
  obtain ⟨zone, hobject, hser⟩ := bind_eq_ok.mp hser
  rw [zone_object_hvm hhvm] at hobject
  obtain rfl := Except.ok.inj hobject
  obtain rfl := Except.ok.inj hser
  rcases is_valid_boot hvalid hjson hboot with hzero | ⟨object', hsome, hboot'⟩
  · exact hzero
  · obtain rfl := Option.some.inj hsome
    rw [fix_before_boot hfix] at hboot'
    -- a disk that has the flag is the first one
    have hstored := existing_disk_mem hexisting
    cases hlist : vm.json_get_disks with
    | nil =>
      rw [hlist] at hstored
      cases hstored
    | cons first rest =>
      rw [hlist] at hstored hdisks
      cases disk_id with
      | zero => rfl
      | succ i => exact absurd hboot' (hdisks stored (List.mem_of_getElem? hstored))

theorem bootFirst_delete (hfirst : BootFirst vm.disks)
    (hdelete : disk.VmDefineDiskView.delete req vm disk_id = .ok vm') : BootFirst vm'.disks := by
  unfold disk.VmDefineDiskView.delete at hdelete
  obtain ⟨stored, -, hdelete⟩ := bind_eq_ok.mp hdelete
  split at hdelete
  · cases hdelete
  obtain ⟨ser, -, hdelete⟩ := bind_eq_ok.mp hdelete
  have hsave : vm.save_disks (vm.json_get_disks.eraseIdx disk_id) = .ok vm' := by
    split at hdelete
    · exact hdelete
    · obtain ⟨_, -, hdelete⟩ := bind_eq_ok.mp hdelete
      exact hdelete
  exact bootFirst_save_disks hfirst (fun hhvm => (bootFirst_json_get_disks hfirst hhvm).eraseIdx _) hsave

/-- The flags of the disks of a zone do not depend on its definition. -/
theorem boot_zone_disks (vm : vms.zone_disks.Vm) {i : ℕ} {read : vms.zone_disks.JsonDisk}
    (hdisk : vm.json_get_disks[i]? = some read) (hboot : read.boot = true) : i = 0 := by
  unfold vms.zone_disks.Vm.json_get_disks vms.zone_disks.parse_json_disks at hdisk
  simp only at hdisk
  split at hdisk
  · cases hdisk
  · cases i with
    | zero => rfl
    | succ i =>
      split at hdisk
      · cases i with
        | zero =>
          obtain rfl := Option.some.inj hdisk
          cases hboot
        | succ i => cases hdisk
      · cases hdisk

end disks

section runs

variable {U D : Type} [DecidableEq U] [DecidableEq D] {d d' : Definition}

/-- The invariant of the stored lists. -/
structure Stored (d : Definition) : Prop where
  primary : d.nics.countP is_primary ≤ 1
  interfaces : ∀ (i : ℕ) (item : Item), d.nics[i]? = some item → item.lookup "interface" = some (.str (d.interface i))
  boot : BootFirst d.disks

theorem stored_empty (ostype : OSType) (hvm_type : Hypervisor) (json : vms.zone_disks.Json) :
    Stored (Definition.empty ostype hvm_type json) :=
  ⟨Nat.zero_le 1, fun _ _ h => absurd h (by simp [Definition.empty]), fun _ h => absurd h List.not_mem_nil⟩

omit [DecidableEq U] in
theorem interface_nic_vm (columns : nic.Vm U) (i : ℕ) : (d.nic_vm columns).interface i = d.interface i := by
  simp [nic.Vm.interface, Definition.nic_vm, Definition.interface]

omit [DecidableEq U] in
theorem stored_save_nics {columns : nic.Vm U} {result : Except nic.Error (nic.Result U)} (hd : Stored d)
    (hsaved : ∀ saved, result = .ok saved → SavedNics (d.nic_vm columns) saved.vm.nics)
    (hresult : d.save_nics result = some d') : Stored d' := by
  obtain ⟨saved, hsome, rfl⟩ := Option.map_eq_some_iff.mp hresult
  obtain ⟨items, hitems, hone⟩ := hsaved saved (Fallible.toOption_eq_some.mp hsome)
  refine ⟨?_, ?_, hd.boot⟩
  · change saved.vm.nics.countP is_primary ≤ 1
    rw [hitems, countP_mapIdx_save_nic]
    exact hone
  · intro i item hitem
    change saved.vm.nics[i]? = some item at hitem
    rw [hitems, List.getElem?_mapIdx] at hitem
    obtain ⟨item', -, rfl⟩ := Option.map_eq_some_iff.mp hitem
    rw [lookup_interface_save_nic, interface_nic_vm]
    rfl

theorem stored_save_disks {result : Except disk.Error disk.Vm} (hd : Stored d)
    (hsaved : ∀ saved, result = .ok saved → BootFirst saved.disks) (hresult : d.save_disks result = some d') :
    Stored d' := by
  obtain ⟨saved, hsome, rfl⟩ := Option.map_eq_some_iff.mp hresult
  exact ⟨hd.primary, hd.interfaces, hsaved saved (Fallible.toOption_eq_some.mp hsome)⟩

/-- An accepted request keeps the invariant. -/
theorem stored_handle {request : Request U D} (hd : Stored d) (haccepted : d.handle request = some d') : Stored d' := by
  cases request with
  | nic_post columns db req nic_id data =>
    exact stored_save_nics hd (fun _ hpost => savedNics_post hd.primary hpost) haccepted
  | nic_put columns db req nic_id data =>
    exact stored_save_nics hd (fun _ hput => savedNics_put hd.primary hput) haccepted
  | nic_delete columns db nic_id =>
    exact stored_save_nics hd (fun _ hdelete => savedNics_delete hd.primary hdelete) haccepted
  | disk_post columns req disk_id data =>
    have hfirst : BootFirst (d.disk_vm columns).disks := hd.boot
    exact stored_save_disks hd (fun _ hpost => bootFirst_post hfirst hpost) haccepted
  | disk_put columns req disk_id data =>
    have hfirst : BootFirst (d.disk_vm columns).disks := hd.boot
    exact stored_save_disks hd (fun _ hput => bootFirst_put hfirst hput) haccepted
  | disk_delete columns req disk_id =>
    have hfirst : BootFirst (d.disk_vm columns).disks := hd.boot
    exact stored_save_disks hd (fun _ hdelete => bootFirst_delete hfirst hdelete) haccepted

theorem stored_run {requests : List (Request U D)} (hd : Stored d) : Stored (d.run requests) := by
  induction requests generalizing d with
  | nil => exact hd
  | cons request requests ih =>
    rw [Definition.run, List.foldl_cons]
    apply ih
    cases haccepted : d.handle request with
    | none => exact hd
    | some d' => exact stored_handle hd haccepted

theorem listInvariants_of_stored (hd : Stored d) : ListInvariants d := by
  refine ⟨hd.primary, hd.interfaces, ?_⟩
  intro columns i item hitem hboot
  cases hhvm : (d.disk_vm columns).is_hvm with
  | true =>
    have hstored : BootFirst (d.disk_vm columns).disks := hd.boot
    have hfirst := bootFirst_json_get_disks hstored hhvm
    cases hlist : (d.disk_vm columns).json_get_disks with
    | nil =>
      rw [hlist] at hitem
      cases hitem
    | cons first rest =>
      rw [hlist] at hitem hfirst
      cases i with
      | zero => rfl
      | succ i => exact absurd hboot (hfirst item (List.mem_of_getElem? hitem))
  | false =>
    rw [disk.Vm.json_get_disks, hhvm, if_neg Bool.false_ne_true, List.getElem?_map] at hitem
    obtain ⟨read, hread, rfl⟩ := Option.map_eq_some_iff.mp hitem
    exact boot_zone_disks _ hread (Option.some.inj hboot)

/-- After any requests for its NICs and disks the lists of a VM have one primary NIC at most, interfaces in the order of the
list, and no boot flag except on the first disk. -/
theorem lists_valid_of_run (ostype : OSType) (hvm_type : Hypervisor) (json : vms.zone_disks.Json)
    (requests : List (Request U D)) : ListInvariants ((Definition.empty ostype hvm_type json).run requests) :=
  listInvariants_of_stored (stored_run (stored_empty ostype hvm_type json))

/-- A bhyve VM that is not deployed, without a template and default images. -/
def bhyve_columns : disk.Vm where
  toVm := {
    uuid := "00000000-0000-0000-0000-000000000001"
    is_notcreated := true
    json := ⟨none, none, none, none, none, none, none, none, none, none⟩
    image_zone_default := "" }
  ostype := .LINUX
  hvm_type := .BHYVE
  node := none
  template := fun _ => .empty
  settings := ⟨.lz4, "virtio", "virtio", "", ""⟩
  disks := []

def disk_request : disk.Request := ⟨[], fun _ => true, fun _ => true, ""⟩

/-- The first disk is removed, and the next one that is created does not get the flag of it. -/
def disk_requests : List (Request ℕ ℕ) := [
  .disk_post bhyve_columns disk_request 0 { disk.Data.empty with size := some 10240 },
  .disk_post bhyve_columns disk_request 1 { disk.Data.empty with size := some 20480 },
  .disk_delete bhyve_columns disk_request 0,
  .disk_post bhyve_columns disk_request 1 { disk.Data.empty with size := some 30720 }]

example : ((Definition.empty .LINUX .BHYVE bhyve_columns.json).run disk_requests).disks.map
    (fun item => (item.size, item.boot)) = [(some 20480, some false), (some 30720, some false)] := by decide

end runs

end api.vm.define.lists
