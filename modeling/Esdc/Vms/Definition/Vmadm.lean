import Esdc.Vms.Definition.Update

namespace vms.definition

/-- A NIC or disk is changed by the entries of `update_` that have its key. -/
def update_item (key : String) (update_ : List Item) (item : Item) : Item :=
  (update_.filter fun change => change.lookup key = item.lookup key).foldl Dict.update item

def update_items (key : String) (items : List Item) (changes : Changes) : List Item :=
  (items.filter fun item => (item.lookup key).all (· ∉ changes.remove_)).map
    (update_item key changes.update_) ++ changes.add_

/-- `vmadm update`: what the payload does not name is kept. -/
def vmadm_update (active : Json) (payload : Payload) : Json where
  items := Dict.update active.items payload.items
  simple item :=
    let (set_, remove_) := payload.simple item
    some (Dict.update (Dict.delete ((active.simple item).getD ∅) remove_) set_)
  nics := update_items "mac" active.nics payload.nics
  disks := update_items "path" active.disks payload.disks

/-- A value that means that the attribute is not set. -/
def Value.unset : Value → Bool
  | .null => true
  | .bool b => !b
  | .str s => s = ""
  | .strs ss => ss.isEmpty
  | .int _ | .json _ => false

/-- An attribute that is set to nothing is as good as absent. -/
def Item.value (item : Item) (k : String) : Option Value := (item.lookup k).filter fun v => !v.unset

def Item.Agree (item wanted : Item) : Prop := ∀ k, item.value k = wanted.value k

/-- The items agree one by one: those with a key by their key, the others in some order. -/
def AgreeItems (key : String) (items wanted : List Item) : Prop :=
  ∀ id : Option Value, ∃ order, order.Perm (items.filter fun item => item.lookup key = id) ∧
    List.Forall₂ Item.Agree order (wanted.filter fun item => item.lookup key = id)

/-- The definition is the wanted one as far as `vmadm update` can change it. -/
structure Json.Updated (hvm : Bool) (result wanted : Json) : Prop where
  items : ∀ k ∉ Vm.noupdate, result.items.value k = wanted.items.value k
  simple : ∀ item k,
    ((result.simple item).getD ∅).lookup k = ((wanted.simple item).getD ∅).lookup k
  nics : AgreeItems "mac" result.nics wanted.nics
  disks : hvm → AgreeItems "path" result.disks wanted.disks

/-- Every item has a key, and no two the same one. -/
def Identified (key : String) (items : List Item) : Prop :=
  (∀ item ∈ items, (item.lookup key).isSome) ∧ (items.map fun item => item.lookup key).Nodup

/-- Every vanished attribute can be unset, and no two of the items have the same key. -/
structure Unsettable (key : String) (remove_empty : List (String × Value)) (old new : List Item) : Prop where
  distinct : ∀ v, (new.filter fun item => item.lookup key = some v).length ≤ 1
  vanished : ∀ a ∈ old, ∀ b ∈ new, a.lookup key = b.lookup key → ∀ k, b.lookup k = none →
    a.value k = none ∨ k ∈ remove_empty.map Prod.fst

end vms.definition
