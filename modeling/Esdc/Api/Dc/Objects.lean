import Mathlib
import Esdc.Lib.Dict

namespace api.dc.objects

variable {D N F : Type} [DecidableEq D] [DecidableEq N]

section tables

/-- The objects that can be bound to a datacenter and attached to more than one, without the disk images. -/
inductive Kind
  | network
  | template
  | iso
  deriving DecidableEq

structure VirtObject (D F : Type) where
  dc_bound : Option D
  dc : List D
  /-- The owner, the description, the address of a network and so on. -/
  fields : F
  deriving DecidableEq

structure System (D N F : Type) where
  objects : Kind → Dict N (VirtObject D F)
  VMS_ISO_RESCUECD : N

inductive Error
  | ObjectNotFound
  | ObjectAlreadyExists
  | PermissionDenied
  | PreconditionRequired
  /-- A serializer's error on a field. -/
  | ValidationError

def System.save_object (s : System D N F) (kind : Kind) (name : N) (obj : VirtObject D F) : System D N F :=
  { s with objects := Function.update s.objects kind ((s.objects kind).insert name obj) }

def System.delete_object (s : System D N F) (kind : Kind) (name : N) : System D N F :=
  { s with objects := Function.update s.objects kind ((s.objects kind).erase name) }

/-- The row of a datacenter goes with its relations: `on_delete=SET_NULL` for what is bound to it. -/
def System.delete_dc (s : System D N F) (dc : D) : System D N F :=
  { s with objects := fun kind => (s.objects kind).mapVals fun _ obj =>
      { obj with
        dc_bound := obj.dc_bound.filter (· ≠ dc)
        dc := obj.dc.filter (· ≠ dc) } }

end tables

section requests

structure Request (D : Type) where
  is_staff : Bool
  dc : D
  /-- The datacenters in which the user may administer the objects. -/
  dcs : List D
  /-- What `get_dc` lets the user see. -/
  can_access : D → Bool

def IsSuperAdminOrReadOnly (request : Request D) : Except Error Unit :=
  if request.is_staff then .ok () else .error .PermissionDenied

def AnyDcPermission (request : Request D) : Except Error Unit :=
  if request.is_staff ∨ request.dcs ≠ [] then .ok () else .error .PermissionDenied

/-- What the data of a request says about an object. -/
structure ObjectData (D F : Type) where
  dc_bound : Option Bool
  dc : Option D
  /-- What becomes of the other fields of an object (none if it is new), unless they are not valid. -/
  restore_object : Option F → Option F

def System.get_object (s : System D N F) (kind : Kind) (name : N) : Except Error (VirtObject D F) :=
  ((s.objects kind).lookup name).elim (.error .ObjectNotFound) .ok

/-- An existing object for a request. Users that are not staff get at objects only that are bound to one of their
datacenters. -/
def System.get_virt_object (s : System D N F) (request : Request D) (kind : Kind) (name : N) :
    Except Error (VirtObject D F) := do
  let obj ← s.get_object kind name
  if request.is_staff ∨ obj.dc_bound.any (· ∈ request.dcs) then pure obj else .error .PermissionDenied

/-- `validate_dc_bound`, with the datacenter that the object is bound to after it. -/
def ConditionalDCBoundSerializer.validate_dc_bound (request : Request D) (obj : VirtObject D F) (value : Option Bool) :
    Except Error (Option D) :=
  match value with
  | none => .ok obj.dc_bound
  | some value =>
    if value = obj.dc_bound.isSome then .ok obj.dc_bound
    else if ¬ request.is_staff then .error .ValidationError
    else if value then
      match obj.dc with
      | [dc] => .ok (some dc)
      | _ => .error .ValidationError
    else .ok none

end requests

section attachments

/-- `net.dc.add(dc)`, after which an object that was bound to a datacenter is bound no more. -/
def DcVirtObjectView.post (s : System D N F) (request : Request D) (kind : Kind) (name : N) :
    Except Error (System D N F) := do
  IsSuperAdminOrReadOnly request
  let obj ← s.get_object kind name
  if request.dc ∈ obj.dc then .error .ObjectAlreadyExists
  else pure (s.save_object kind name { obj with dc_bound := none, dc := request.dc :: obj.dc })

/-- `net.dc.remove(dc)`. The object must be attached to the datacenter, and unused there. -/
def DcVirtObjectView.delete (s : System D N F) (request : Request D) (kind : Kind) (name : N) (is_used : Bool) :
    Except Error (System D N F) := do
  IsSuperAdminOrReadOnly request
  let obj ← s.get_object kind name
  if request.dc ∉ obj.dc then .error .ObjectNotFound
  else if is_used then .error .PreconditionRequired
  else pure (s.save_object kind name { obj with dc_bound := none, dc := obj.dc.filter (· ≠ request.dc) })

def DcNetworkView.post (s : System D N F) (request : Request D) (name : N) : Except Error (System D N F) :=
  DcVirtObjectView.post s request .network name

def DcNetworkView.delete (s : System D N F) (request : Request D) (name : N) (is_used_by_vms : Bool) :
    Except Error (System D N F) :=
  DcVirtObjectView.delete s request .network name is_used_by_vms

def DcTemplateView.post (s : System D N F) (request : Request D) (name : N) : Except Error (System D N F) :=
  DcVirtObjectView.post s request .template name

def DcTemplateView.delete (s : System D N F) (request : Request D) (name : N) (is_used_by_vms : Bool) :
    Except Error (System D N F) :=
  DcVirtObjectView.delete s request .template name is_used_by_vms

def DcIsoView.post (s : System D N F) (request : Request D) (name : N) : Except Error (System D N F) :=
  DcVirtObjectView.post s request .iso name

/-- An ISO image is detached whoever uses it. -/
def DcIsoView.delete (s : System D N F) (request : Request D) (name : N) : Except Error (System D N F) :=
  DcVirtObjectView.delete s request .iso name false

/-- The default datacenter and those with nodes, VMs or backups are not deleted. -/
def DcView.delete (s : System D N F) (request : Request D) (dc : D) (is_used : Bool) : Except Error (System D N F) := do
  IsSuperAdminOrReadOnly request
  if is_used then .error .PreconditionRequired else pure (s.delete_dc dc)

/-- The part of `vm_from_json` that makes the network of a harvested VM, which is attached to the datacenter of the VM, and
along with the admin datacenter to the main one. -/
def vm_from_json.new_network (s : System D N F) (request : Request D) (net_name : N) (main_dc : Option D) (fields : F) :
    Except Error (System D N F) := do
  IsSuperAdminOrReadOnly request
  if (s.objects .network).lookup net_name ≠ none then .error .ObjectAlreadyExists
  else pure (s.save_object .network net_name
    { dc_bound := none
      dc := request.dc :: main_dc.toList
      fields := fields })

end attachments

section virt_objects

/-- A new object is attached to the datacenter that it is bound to. -/
def VirtObjectView.post (s : System D N F) (request : Request D) (kind : Kind) (name : N) (data : ObjectData D F) :
    Except Error (System D N F) := do
  AnyDcPermission request
  if (s.objects kind).lookup name ≠ none then .error .ObjectAlreadyExists
  else
    let dc := data.dc.getD request.dc
    if ¬ request.can_access dc then .error .ObjectNotFound
    else if ¬ (request.is_staff ∨ dc ∈ request.dcs) then .error .PermissionDenied
    else
      match data.restore_object none with
      | none => .error .ValidationError
      | some fields => do
        let obj : VirtObject D F := { dc_bound := some dc, dc := [], fields := fields }
        let value := if request.is_staff then data.dc_bound else none
        let dc_bound ← ConditionalDCBoundSerializer.validate_dc_bound request obj value
        if dc_bound ≠ none ∧ data.dc = none then .error .ValidationError
        else pure (s.save_object kind name { obj with dc_bound := dc_bound, dc := dc_bound.toList })

def VirtObjectView.put (s : System D N F) (request : Request D) (kind : Kind) (name : N) (data : ObjectData D F)
    (is_protected : Bool) : Except Error (System D N F) := do
  AnyDcPermission request
  let obj ← s.get_virt_object request kind name
  if is_protected then .error .PermissionDenied
  else do
    let dc_bound ← ConditionalDCBoundSerializer.validate_dc_bound request obj data.dc_bound
    match data.restore_object (some obj.fields) with
    | none => .error .ValidationError
    | some fields => pure (s.save_object kind name { obj with dc_bound := dc_bound, fields := fields })

def VirtObjectView.delete (s : System D N F) (request : Request D) (kind : Kind) (name : N) (is_protected is_used : Bool) :
    Except Error (System D N F) := do
  AnyDcPermission request
  let _ ← s.get_virt_object request kind name
  if is_protected then .error .PermissionDenied
  else if is_used then .error .PreconditionRequired
  else pure (s.delete_object kind name)

def NetworkView.post (s : System D N F) (request : Request D) (name : N) (data : ObjectData D F) :
    Except Error (System D N F) :=
  VirtObjectView.post s request .network name data

/-- That some fields of a network stay while it has addresses or is used by VMs is left to `restore_object`. -/
def NetworkView.put (s : System D N F) (request : Request D) (name : N) (data : ObjectData D F) :
    Except Error (System D N F) :=
  VirtObjectView.put s request .network name data false

def NetworkView.delete (s : System D N F) (request : Request D) (name : N) (is_used_by_vms : Bool) :
    Except Error (System D N F) :=
  VirtObjectView.delete s request .network name false is_used_by_vms

def TemplateView.post (s : System D N F) (request : Request D) (name : N) (data : ObjectData D F) :
    Except Error (System D N F) :=
  VirtObjectView.post s request .template name data

def TemplateView.put (s : System D N F) (request : Request D) (name : N) (data : ObjectData D F) :
    Except Error (System D N F) :=
  VirtObjectView.put s request .template name data false

def TemplateView.delete (s : System D N F) (request : Request D) (name : N) (is_used_by_vms : Bool) :
    Except Error (System D N F) :=
  VirtObjectView.delete s request .template name false is_used_by_vms

def IsoView.post (s : System D N F) (request : Request D) (name : N) (data : ObjectData D F) : Except Error (System D N F) :=
  VirtObjectView.post s request .iso name data

def IsoView.put (s : System D N F) (request : Request D) (name : N) (data : ObjectData D F) : Except Error (System D N F) :=
  VirtObjectView.put s request .iso name data (name = s.VMS_ISO_RESCUECD)

def IsoView.delete (s : System D N F) (request : Request D) (name : N) : Except Error (System D N F) :=
  VirtObjectView.delete s request .iso name (name = s.VMS_ISO_RESCUECD) false

end virt_objects

section runs

/-- The requests. What VMs, nodes and addresses say about an object is an input, and so is the network that a harvested VM
has. -/
inductive Op (D N F : Type)
  | dc_network_post (name : N)
  | dc_network_delete (name : N) (is_used_by_vms : Bool)
  | dc_template_post (name : N)
  | dc_template_delete (name : N) (is_used_by_vms : Bool)
  | dc_iso_post (name : N)
  | dc_iso_delete (name : N)
  | dc_delete (dc : D) (is_used : Bool)
  | harvest_network (net_name : N) (main_dc : Option D) (fields : F)
  | network_post (name : N) (data : ObjectData D F)
  | network_put (name : N) (data : ObjectData D F)
  | network_delete (name : N) (is_used_by_vms : Bool)
  | template_post (name : N) (data : ObjectData D F)
  | template_put (name : N) (data : ObjectData D F)
  | template_delete (name : N) (is_used_by_vms : Bool)
  | iso_post (name : N) (data : ObjectData D F)
  | iso_put (name : N) (data : ObjectData D F)
  | iso_delete (name : N)

/-- The state that a request leaves, if it succeeds. -/
def System.handle (s : System D N F) (request : Request D) : Op D N F → Except Error (System D N F)
  | .dc_network_post name => DcNetworkView.post s request name
  | .dc_network_delete name is_used_by_vms => DcNetworkView.delete s request name is_used_by_vms
  | .dc_template_post name => DcTemplateView.post s request name
  | .dc_template_delete name is_used_by_vms => DcTemplateView.delete s request name is_used_by_vms
  | .dc_iso_post name => DcIsoView.post s request name
  | .dc_iso_delete name => DcIsoView.delete s request name
  | .dc_delete dc is_used => DcView.delete s request dc is_used
  | .harvest_network net_name main_dc fields => vm_from_json.new_network s request net_name main_dc fields
  | .network_post name data => NetworkView.post s request name data
  | .network_put name data => NetworkView.put s request name data
  | .network_delete name is_used_by_vms => NetworkView.delete s request name is_used_by_vms
  | .template_post name data => TemplateView.post s request name data
  | .template_put name data => TemplateView.put s request name data
  | .template_delete name is_used_by_vms => TemplateView.delete s request name is_used_by_vms
  | .iso_post name data => IsoView.post s request name data
  | .iso_put name data => IsoView.put s request name data
  | .iso_delete name => IsoView.delete s request name

/-- A request that fails changes nothing. -/
def System.step (s : System D N F) (op : Request D × Op D N F) : System D N F := (s.handle op.1 op.2).toOption.getD s

/-- Requests that are handled one after another. -/
def System.run (s : System D N F) (ops : List (Request D × Op D N F)) : System D N F := ops.foldl System.step s

end runs

section lookups

variable (s : System D N F) (kind : Kind) (name : N) (kind' : Kind) (name' : N)

omit [DecidableEq D] in
theorem lookup_save_object (obj : VirtObject D F) : ((s.save_object kind name obj).objects kind').lookup name' =
    if kind' = kind ∧ name' = name then some obj else (s.objects kind').lookup name' := by
  by_cases hkind : kind' = kind
  · subst hkind
    simp only [System.save_object, Function.update_self, Dict.lookup_insert_ite, true_and]
  · simp only [System.save_object, Function.update_of_ne hkind, if_neg fun h : kind' = kind ∧ name' = name => hkind h.1]

omit [DecidableEq D] in
theorem lookup_delete_object : ((s.delete_object kind name).objects kind').lookup name' =
    if kind' = kind ∧ name' = name then none else (s.objects kind').lookup name' := by
  by_cases hkind : kind' = kind
  · subst hkind
    simp only [System.delete_object, Function.update_self, Dict.lookup_erase_ite, true_and]
  · simp only [System.delete_object, Function.update_of_ne hkind, if_neg fun h : kind' = kind ∧ name' = name => hkind h.1]

end lookups

end api.dc.objects
