import Esdc.Api.Vm.RemovedDisks
import Esdc.Lib.Fallible

namespace vms.columns

open vms.definition (Item Json Value)

variable {U : Type} [DecidableEq U]

/-- The port after the highest one of a node. -/
def next_vnc_port (ports : List Nat) : Nat :=
  match ports.max? with
  | none => 15901
  | some last => if 65535 ≤ last + 1 then 15901 else last + 1

section vnc_port

variable {db : Db U} {node : Option U} {uuid : U} {port : Nat}

theorem choose_vnc_port_eq_some (hport : db.choose_vnc_port node uuid = some port) :
    port = next_vnc_port (db.vnc_ports node uuid) := by
  rw [Db.choose_vnc_port, Fallible.toOption_eq_some] at hport
  unfold next_vnc_port
  cases hmax : (db.vnc_ports node uuid).max? with
  | none =>
    rw [vnc.choose_vnc_port, hmax] at hport
    exact (Except.ok.inj hport).symm
  | some last =>
    rw [vnc.choose_vnc_port_eq hmax] at hport
    dsimp only at hport ⊢
    generalize hnew : (if last < 65534 then last + 1 else 15901) = new_port at hport
    split at hport
    · cases hport
    · rw [← Except.ok.inj hport, ← hnew]
      split_ifs <;> omega

theorem mem_vnc_ports : port ∈ db.vnc_ports node uuid ↔
    ∃ other row, other ≠ uuid ∧ db.vm.lookup other = some row ∧ row.node = node ∧ row.vnc_port = port := by
  constructor
  · intro hport
    obtain ⟨e, he, rfl⟩ := List.mem_map.mp hport
    obtain ⟨hmem, hcond⟩ := List.mem_filter.mp he
    rw [Bool.and_eq_true, decide_eq_true_iff, decide_eq_true_iff] at hcond
    exact ⟨e.1, e.2, hcond.1, AList.mem_lookup_iff.mpr hmem, hcond.2, rfl⟩
  · rintro ⟨other, row, hne, hlookup, hnode, rfl⟩
    refine List.mem_map.mpr ⟨⟨other, row⟩, List.mem_filter.mpr ⟨AList.mem_lookup_iff.mp hlookup, ?_⟩, rfl⟩
    rw [Bool.and_eq_true, decide_eq_true_iff, decide_eq_true_iff]
    exact ⟨hne, hnode⟩

end vnc_port

section sync_json

variable {settings : Settings} {text : U → String} {uuid : U} {row : VmRow U} {vnc_port : Nat} {items : Item}

theorem lookup_setdefault_ne {key key' : String} (value : Value) (hne : key' ≠ key) :
    (setdefault items key value).lookup key' = items.lookup key' := by
  unfold setdefault
  split
  · rfl
  · exact AList.lookup_insert_ne hne

theorem lookup_setdefault {key : String} {value : Value} :
    (setdefault items key value).lookup key = some ((items.lookup key).getD value) := by
  unfold setdefault
  split
  · rename_i hmem
    obtain ⟨v, hv⟩ := Option.isSome_iff_exists.mp (AList.lookup_isSome.mpr hmem)
    rw [hv]
    rfl
  · rename_i hnot
    rw [AList.lookup_insert, AList.lookup_eq_none.mpr hnot]
    rfl

/-- The brand of a definition that may lack it. -/
def hvm_brand (settings : Settings) (items : Item) : Prop :=
  (items.lookup "brand").getD (.str settings.VMS_VM_HVM_TYPE_DEFAULT) ∈ [Value.str "kvm", .str "bhyve"]

instance : Decidable (hvm_brand settings items) := inferInstanceAs (Decidable (_ ∈ _))

theorem lookup_sync_brand {port ostype : Int} :
    (sync_brand settings true port ostype items).lookup "vnc_port" =
      if items.lookup "brand" = some (.str "kvm") ∨ items.lookup "brand" = some (.str "bhyve") then
        some (.int port)
      else items.lookup "vnc_port" := by
  unfold sync_brand
  by_cases hbrand : items.lookup "brand" = some (.str "kvm") ∨ items.lookup "brand" = some (.str "bhyve")
  · simp [hbrand]
  · simp only [if_neg hbrand]
    rw [not_or] at hbrand
    rw [if_neg hbrand.1, if_neg hbrand.2]
    split <;> split <;> simp [lookup_setdefault_ne, AList.lookup_insert_ne]

omit [DecidableEq U] in
theorem lookup_sync_items {node : U} (hnode : row.node = some node) :
    (sync_items settings text uuid row vnc_port items).lookup "vnc_port" =
      if hvm_brand settings items then some (.int vnc_port) else items.lookup "vnc_port" := by
  unfold sync_items
  dsimp only
  rw [hnode, Option.isSome_some, lookup_sync_brand, lookup_setdefault, lookup_setdefault_ne _ (by decide)]
  dsimp only
  split <;> simp [lookup_setdefault_ne, AList.lookup_insert_ne, hvm_brand]

omit [DecidableEq U] in
theorem sync_json_items {json json' : Json} (hjson : sync_json settings text uuid row vnc_port json = some json') :
    json'.items = sync_items settings text uuid row vnc_port json.items := by
  obtain ⟨internal_metadata, _, rfl⟩ := Option.map_eq_some_iff.mp hjson
  rfl

end sync_json

end vms.columns

namespace api.vm.base.tasks

open vms.columns
open vms.definition (Json Item Value)

variable {U : Type} [DecidableEq U]

/-- What a forced change of the node is to leave in the database. -/
structure Moved (db : Db U) (uuid old new : U) (row : VmRow U) : Prop where
  stored : db.vm.lookup uuid = some row
  node : row.node = some new
  node_history : ∃ segment ∈ row.node_history, segment.node_uuid = old
  vnc_port : ∀ port, row.json.items.lookup "vnc_port" = some port → port = .int row.vnc_port
  unused : row.vnc_port ∉ db.vnc_ports (some new) uuid

/-- The port in the definition that is saved will be the port that the VM has. -/
def PortKept (settings : Settings) (db : Db U) (uuid new : U) (row : VmRow U) (json_active : Json) : Prop :=
  if hvm_brand settings json_active.items then next_vnc_port (db.vnc_ports (some new) uuid) = row.vnc_port
  else ∀ port, json_active.items.lookup "vnc_port" = some port → port = .int row.vnc_port

section save

variable {settings : Settings} {text : U → String} {now : Nat} {ipaddress_usage : Db U → Bool} {result : Result}
  {uuid old new : U} {db db' : Db U} {row : VmRow U}

/-- The loaded VM after `set_node`. -/
theorem change_node_eq_ok {json_active : Json} {vm : Vm U} {update_fields : List Column}
    (hnode : row.node = some old) (hne : old ≠ new)
    (hchange : change_node db ⟨uuid, row, some row.vnc_port, none, false⟩ json_active (some new) =
      .ok (vm, update_fields)) :
    vm = ⟨uuid, { row with json := json_active, json_active, node := some new }, some row.vnc_port, some old, true⟩ ∧
      update_fields = _update_fields ++ [.node_id] := by
  unfold change_node at hchange
  dsimp only at hchange
  split at hchange
  next => cases hchange
  next =>
    split at hchange
    · cases hchange
    · split at hchange
      · cases hchange
      · unfold Vm.set_node at hchange
        dsimp only at hchange
        rw [hnode, if_neg fun heq => hne (Option.some.inj heq)] at hchange
        cases hchange
        exact ⟨rfl, rfl⟩

/-- The object that is saved has a new port, which is in its definition if it is a HVM. -/
theorem saved_eq_ok {json_active : Json} {saved : VmRow U}
    (hsaved : Vm.saved settings text now db
      ⟨uuid, { row with json := json_active, json_active, node := some new }, some row.vnc_port, some old, true⟩ =
        .ok saved) :
    saved.node = some new ∧ saved.json.items.lookup "vnc_port" =
      if hvm_brand settings json_active.items then some (.int (next_vnc_port (db.vnc_ports (some new) uuid)))
      else json_active.items.lookup "vnc_port" := by
  unfold Vm.saved at hsaved
  simp only [if_true, Option.none_or] at hsaved
  split at hsaved
  next => cases hsaved
  next port hport =>
    split at hsaved
    next => cases hsaved
    next json hjson =>
      cases hsaved
      refine ⟨rfl, ?_⟩
      rw [sync_json_items hjson, lookup_sync_items rfl, choose_vnc_port_eq_some hport]

/-- What the committed transaction has written: neither the node history nor the port. -/
theorem vm_update_cb_eq_ok (hrow : db.vm.lookup uuid = some row) (hnode : row.node = some old) (hne : old ≠ new)
    (hdone : vm_update_cb settings text now ipaddress_usage result uuid (some new) db = (.ok (), db')) :
    ∃ json_active row', result.json = some json_active ∧ db'.vm = db.vm.insert uuid row' ∧
      row'.node = some new ∧ row'.vnc_port = row.vnc_port ∧ row'.node_history = row.node_history ∧
      row'.json.items.lookup "vnc_port" =
        (if hvm_brand settings json_active.items then some (.int (next_vnc_port (db.vnc_ports (some new) uuid)))
        else json_active.items.lookup "vnc_port") ∧
      row.vnc_port ∉ db.vnc_ports (some new) uuid := by
  unfold vm_update_cb Db.Vm_get at hdone
  rw [hrow, Option.map_some] at hdone
  dsimp only at hdone
  split at hdone
  next =>
    split at hdone
    next => cases hdone
    next json_active hjson =>
      split at hdone
      next => cases hdone
      next ids hids =>
        split at hdone
        next => cases hdone
        next saved_db hsave =>
          cases hdone
          obtain ⟨vm, update_fields, hchange, hsave⟩ := vm_update_cb_save_eq_ok hsave
          obtain ⟨rfl, rfl⟩ := change_node_eq_ok hnode hne hchange
          obtain ⟨saved, row', hsaved, hrow', hunique, rfl⟩ := save_eq_ok hsave
          obtain ⟨hsaved_node, hsaved_port⟩ := saved_eq_ok hsaved
          cases hrow.symm.trans hrow'
          refine ⟨json_active, _, hjson, rfl, hsaved_node, rfl, rfl, hsaved_port, ?_⟩
          intro hused
          apply hunique
          change saved.node.isSome ∧ row.vnc_port ∈ Db.vnc_ports _ saved.node uuid
          rw [hsaved_node]
          exact ⟨rfl, hused⟩
  next => cases hdone

theorem vnc_ports_insert (hvm : db'.vm = db.vm.insert uuid row) (node : Option U) (port : Nat) :
    port ∈ db'.vnc_ports node uuid ↔ port ∈ db.vnc_ports node uuid := by
  rw [mem_vnc_ports, mem_vnc_ports]
  constructor
  · rintro ⟨other, row', hne, hlookup, hrow'⟩
    rw [hvm, AList.lookup_insert_ne hne] at hlookup
    exact ⟨other, row', hne, hlookup, hrow'⟩
  · rintro ⟨other, row', hne, hlookup, hrow'⟩
    refine ⟨other, row', hne, ?_, hrow'⟩
    rw [hvm, AList.lookup_insert_ne hne]
    exact hlookup

end save

/-- The node history is saved in no column that is written, and neither is the port: a forced
change of the node is complete only if the VM has been on the old node before, and its port
is the next one of the new node. -/
theorem vm_update_cb_moved_iff (settings : Settings) (text : U → String) (now : Nat) (ipaddress_usage : Db U → Bool)
    (result : Result) (uuid old new : U) (db db' : Db U) (row : VmRow U) (hrow : db.vm.lookup uuid = some row)
    (hnode : row.node = some old) (hne : old ≠ new)
    (hdone : vm_update_cb settings text now ipaddress_usage result uuid (some new) db = (.ok (), db')) :
    (∃ row', Moved db' uuid old new row') ↔
      (∃ segment ∈ row.node_history, segment.node_uuid = old) ∧
        ∀ json_active, result.json = some json_active → PortKept settings db uuid new row json_active := by
  obtain ⟨json_active, row', hjson, hvm, hnew, hport, hhistory, hjson_port, hunused⟩ :=
    vm_update_cb_eq_ok hrow hnode hne hdone
  have hlookup : db'.vm.lookup uuid = some row' := by
    rw [hvm, AList.lookup_insert]
  have hkept : PortKept settings db uuid new row json_active ↔
      ∀ port, row'.json.items.lookup "vnc_port" = some port → port = .int row'.vnc_port := by
    rw [hjson_port, hport, PortKept]
    split
    · constructor
      · intro heq port hport
        cases hport
        rw [heq]
      · intro h
        exact Int.ofNat.inj (Value.int.inj (h _ rfl))
    · rfl
  constructor
  · rintro ⟨row'', hmoved⟩
    cases hlookup.symm.trans hmoved.stored
    refine ⟨by rw [← hhistory]; exact hmoved.node_history, ?_⟩
    intro json_active' hjson'
    cases hjson.symm.trans hjson'
    exact hkept.mpr hmoved.vnc_port
  · rintro ⟨hsegment, hport_kept⟩
    refine ⟨row', hlookup, hnew, by rw [hhistory]; exact hsegment, hkept.mp (hport_kept json_active hjson), ?_⟩
    rw [vnc_ports_insert hvm, hport]
    exact hunused

section example_run

def kvm_json : Json where
  items := ⟨[⟨"brand", .str "kvm"⟩, ⟨"vnc_port", .int 15905⟩], by simp [List.NodupKeys, List.keys]⟩
  simple item := if item = .internal_metadata then some ∅ else none
  nics := []
  disks := []

/-- A VM on the first of two nodes. -/
def two_nodes (vnc_port : Nat) (node_history : List (Segment Nat)) : Db Nat where
  vm := AList.singleton 1
    ⟨"a", "a", "1", 1, true, false, some 100, vnc_port, kvm_json, kvm_json, node_history, 0⟩
  node := (AList.singleton 100 "first").insert 200 "second"
  snapshot := []
  snapshot_define := []
  backup := []
  backup_define := []

def forced : Result := ⟨0, "", true, some kvm_json⟩

theorem vm_update_cb_two_nodes (vnc_port : Nat) (node_history : List (Segment Nat)) :
    ∃ db', vm_update_cb settings toString 1 (fun _ => true) forced 1 (some 200) (two_nodes vnc_port node_history) =
      (.ok (), db') := ⟨_, rfl⟩

theorem vm_update_cb_moved_back :
    ∃ db', vm_update_cb settings toString 1 (fun _ => true) forced 1 (some 200)
        (two_nodes 15901 [⟨100, "first", 0⟩]) = (.ok (), db') ∧ ∃ row', Moved db' 1 100 200 row' := by
  obtain ⟨db', hdone⟩ := vm_update_cb_two_nodes 15901 [⟨100, "first", 0⟩]
  refine ⟨db', hdone, ?_⟩
  refine (vm_update_cb_moved_iff settings toString 1 (fun _ => true) forced 1 100 200 _ db' _ rfl rfl (by decide)
    hdone).mpr ⟨⟨_, List.mem_singleton_self _, rfl⟩, ?_⟩
  intro json_active hjson
  cases hjson
  rw [PortKept, if_pos (by decide)]
  rfl

/-- The first change of the node of a VM leaves no trace in its history, and its port and the
port in its definition differ. -/
theorem not_moved_of_first_change :
    ∃ db', vm_update_cb settings toString 1 (fun _ => true) forced 1 (some 200) (two_nodes 15905 []) = (.ok (), db') ∧
      (∃ row', db'.vm.lookup 1 = some row' ∧ row'.vnc_port = 15905 ∧
        row'.json.items.lookup "vnc_port" = some (.int 15901)) ∧
      ¬ ∃ row', Moved db' 1 100 200 row' := by
  refine ⟨_, rfl, ⟨_, rfl, rfl, rfl⟩, ?_⟩
  rintro ⟨row', hmoved⟩
  cases hmoved.stored
  obtain ⟨_, hsegment, _⟩ := hmoved.node_history
  cases hsegment

end example_run

end api.vm.base.tasks
