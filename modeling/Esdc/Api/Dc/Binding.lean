import Mathlib
import Esdc.Api.Dc.Objects
import Esdc.Lib.Fallible

/-! Objects that are bound to a datacenter belong to its administrators, and all others to the superadministrators. -/

namespace api.dc.objects

open Fallible (bind_eq_ok)

variable {D N F : Type} [DecidableEq D] [DecidableEq N] {s s' : System D N F} {request : Request D} {kind : Kind} {name : N}

section definitions

/-- An object that is bound to a datacenter is attached to no other. -/
def VirtObject.Bound (obj : VirtObject D F) : Prop := ∀ dc, obj.dc_bound = some dc → obj.dc = [dc]

def System.Bound (s : System D N F) : Prop := ∀ kind name obj, (s.objects kind).lookup name = some obj → obj.Bound

/-- The user is neither a superadministrator nor an administrator of the datacenter. -/
def Request.Foreign (request : Request D) (dc : D) : Prop := request.is_staff = false ∧ dc ∉ request.dcs

/-- What a request can do with the objects, and for whom. -/
inductive ObjectStep (s : System D N F) (request : Request D) : System D N F → Prop
  | unbound (kind : Kind) (name : N) (obj : VirtObject D F) (hobj : obj.dc_bound = none) (hstaff : request.is_staff = true) :
      ObjectStep s request (s.save_object kind name obj)
  | dc_deleted (dc : D) (hstaff : request.is_staff = true) : ObjectStep s request (s.delete_dc dc)
  | created (kind : Kind) (name : N) (hnew : (s.objects kind).lookup name = none) (obj : VirtObject D F)
      (hdc : obj.dc = obj.dc_bound.toList)
      (hallowed : request.is_staff = true ∨ ∃ dc ∈ request.dcs, obj.dc_bound = some dc) :
      ObjectStep s request (s.save_object kind name obj)
  | changed (kind : Kind) (name : N) (obj obj' : VirtObject D F) (hobj : s.get_virt_object request kind name = .ok obj)
      (hdc : obj'.dc = obj.dc) (hbound : obj'.dc_bound = obj.dc_bound ∨ obj'.Bound ∧ request.is_staff = true) :
      ObjectStep s request (s.save_object kind name obj')
  | deleted (kind : Kind) (name : N) (obj : VirtObject D F) (hobj : s.get_virt_object request kind name = .ok obj) :
      ObjectStep s request (s.delete_object kind name)

end definitions

section permissions

omit [DecidableEq D] in
theorem is_staff_of_ok (hok : IsSuperAdminOrReadOnly request = .ok ()) : request.is_staff = true := by
  unfold IsSuperAdminOrReadOnly at hok
  split at hok
  · assumption
  · cases hok

omit [DecidableEq D] in
theorem get_object_eq_ok {obj : VirtObject D F} :
    s.get_object kind name = .ok obj ↔ (s.objects kind).lookup name = some obj := by
  unfold System.get_object
  cases (s.objects kind).lookup name with
  | none => simp
  | some old => simp

theorem get_virt_object_eq_ok {obj : VirtObject D F} : s.get_virt_object request kind name = .ok obj ↔
    (s.objects kind).lookup name = some obj ∧ (request.is_staff = true ∨ obj.dc_bound.any (· ∈ request.dcs) = true) := by
  unfold System.get_virt_object
  rw [bind_eq_ok]
  constructor
  · rintro ⟨obj', hobj, hok⟩
    split at hok
    · case isTrue hallowed =>
      obtain rfl := Except.ok.inj hok
      exact ⟨get_object_eq_ok.mp hobj, hallowed⟩
    · cases hok
  · rintro ⟨hobj, hallowed⟩
    exact ⟨obj, get_object_eq_ok.mpr hobj, if_pos hallowed⟩

omit [DecidableEq D] in
/-- Only staff change the binding, and bind what is attached to one datacenter. -/
theorem validate_dc_bound_eq_ok {obj : VirtObject D F} {value : Option Bool} {dc_bound : Option D}
    (hok : ConditionalDCBoundSerializer.validate_dc_bound request obj value = .ok dc_bound) :
    dc_bound = obj.dc_bound ∨ request.is_staff = true ∧ (dc_bound = none ∨ ∃ dc, obj.dc = [dc] ∧ dc_bound = some dc) := by
  unfold ConditionalDCBoundSerializer.validate_dc_bound at hok
  cases value with
  | none => exact .inl (Except.ok.inj hok).symm
  | some value =>
    simp only at hok
    split at hok
    · exact .inl (Except.ok.inj hok).symm
    · split at hok
      · cases hok
      · case isFalse hstaff =>
        refine .inr ⟨not_not.mp hstaff, ?_⟩
        split at hok
        · split at hok
          · case h_1 dc hdc => exact .inr ⟨dc, hdc, (Except.ok.inj hok).symm⟩
          · cases hok
        · exact .inl (Except.ok.inj hok).symm

end permissions

section steps

theorem dc_object_post_step (hok : DcVirtObjectView.post s request kind name = .ok s') : ObjectStep s request s' := by
  obtain ⟨_, hstaff, hok⟩ := bind_eq_ok.mp hok
  obtain ⟨obj, -, hok⟩ := bind_eq_ok.mp hok
  split at hok
  · cases hok
  · obtain rfl := Except.ok.inj hok
    exact .unbound kind name _ rfl (is_staff_of_ok hstaff)

theorem dc_object_delete_step {is_used : Bool} (hok : DcVirtObjectView.delete s request kind name is_used = .ok s') :
    ObjectStep s request s' := by
  obtain ⟨_, hstaff, hok⟩ := bind_eq_ok.mp hok
  obtain ⟨obj, -, hok⟩ := bind_eq_ok.mp hok
  split at hok
  · cases hok
  · split at hok
    · cases hok
    · obtain rfl := Except.ok.inj hok
      exact .unbound kind name _ rfl (is_staff_of_ok hstaff)

theorem dc_delete_step {dc : D} {is_used : Bool} (hok : DcView.delete s request dc is_used = .ok s') :
    ObjectStep s request s' := by
  obtain ⟨_, hstaff, hok⟩ := bind_eq_ok.mp hok
  split at hok
  · cases hok
  · obtain rfl := Except.ok.inj hok
    exact .dc_deleted dc (is_staff_of_ok hstaff)

theorem new_network_step {main_dc : Option D} {fields : F}
    (hok : vm_from_json.new_network s request name main_dc fields = .ok s') : ObjectStep s request s' := by
  obtain ⟨_, hstaff, hok⟩ := bind_eq_ok.mp hok
  split at hok
  · cases hok
  · obtain rfl := Except.ok.inj hok
    exact .unbound .network name _ rfl (is_staff_of_ok hstaff)

theorem object_post_step {data : ObjectData D F} (hok : VirtObjectView.post s request kind name data = .ok s') :
    ObjectStep s request s' := by
  obtain ⟨_, -, hok⟩ := bind_eq_ok.mp hok
  split at hok
  · cases hok
  · case isFalse hnew =>
    simp only at hok
    split at hok
    · cases hok
    · split at hok
      · cases hok
      · case isFalse hallowed =>
        rw [not_not] at hnew hallowed
        split at hok
        · cases hok
        · obtain ⟨dc_bound, hbound, hok⟩ := bind_eq_ok.mp hok
          split at hok
          · cases hok
          · obtain rfl := Except.ok.inj hok
            refine .created kind name hnew _ rfl ?_
            rcases validate_dc_bound_eq_ok hbound with rfl | ⟨hstaff, -⟩
            · exact hallowed.imp_right fun hdc => ⟨_, hdc, rfl⟩
            · exact .inl hstaff

theorem object_put_step {data : ObjectData D F} {is_protected : Bool}
    (hok : VirtObjectView.put s request kind name data is_protected = .ok s') : ObjectStep s request s' := by
  obtain ⟨_, -, hok⟩ := bind_eq_ok.mp hok
  obtain ⟨obj, hobj, hok⟩ := bind_eq_ok.mp hok
  split at hok
  · cases hok
  · obtain ⟨dc_bound, hbound, hok⟩ := bind_eq_ok.mp hok
    split at hok
    · cases hok
    · obtain rfl := Except.ok.inj hok
      refine .changed kind name obj _ hobj rfl ?_
      rcases validate_dc_bound_eq_ok hbound with rfl | ⟨hstaff, hnone | ⟨dc, hdc, hsome⟩⟩
      · exact .inl rfl
      · exact .inr ⟨fun dc h => (by cases hnone.symm.trans h), hstaff⟩
      · refine .inr ⟨fun dc' h => ?_, hstaff⟩
        obtain rfl := Option.some.inj (hsome.symm.trans h)
        exact hdc

theorem object_delete_step {is_protected is_used : Bool}
    (hok : VirtObjectView.delete s request kind name is_protected is_used = .ok s') : ObjectStep s request s' := by
  obtain ⟨_, -, hok⟩ := bind_eq_ok.mp hok
  obtain ⟨obj, hobj, hok⟩ := bind_eq_ok.mp hok
  split at hok
  · cases hok
  · split at hok
    · cases hok
    · obtain rfl := Except.ok.inj hok
      exact .deleted kind name obj hobj

theorem handle_step {op : Op D N F} (hok : s.handle request op = .ok s') : ObjectStep s request s' := by
  cases op with
  | dc_network_post | dc_template_post | dc_iso_post => exact dc_object_post_step hok
  | dc_network_delete | dc_template_delete | dc_iso_delete => exact dc_object_delete_step hok
  | dc_delete => exact dc_delete_step hok
  | harvest_network => exact new_network_step hok
  | network_post | template_post | iso_post => exact object_post_step hok
  | network_put | template_put | iso_put => exact object_put_step hok
  | network_delete | template_delete | iso_delete => exact object_delete_step hok

end steps

section binding

/-- What is bound to another datacenter than the deleted one stays attached there. -/
theorem VirtObject.Bound.delete_dc {obj : VirtObject D F} (hbound : obj.Bound) (dc : D) :
    VirtObject.Bound { obj with dc_bound := obj.dc_bound.filter (· ≠ dc), dc := obj.dc.filter (· ≠ dc) } := by
  intro dc' hdc'
  obtain ⟨hold, hother⟩ := Option.filter_eq_some_iff.mp hdc'
  change obj.dc.filter (· ≠ dc) = [dc']
  rw [hbound dc' hold, List.filter_eq_self]
  intro a ha
  rwa [List.mem_singleton.mp ha]

theorem ObjectStep.bound (hstep : ObjectStep s request s') (hbound : s.Bound) : s'.Bound := by
  intro kind' name' obj' hobj'
  cases hstep with
  | unbound kind name obj hnone =>
    rw [lookup_save_object] at hobj'
    split at hobj'
    · obtain rfl := Option.some.inj hobj'
      exact fun dc h => (by cases hnone.symm.trans h)
    · exact hbound kind' name' obj' hobj'
  | dc_deleted dc =>
    rw [System.delete_dc, Dict.lookup_mapVals, Option.map_eq_some_iff] at hobj'
    obtain ⟨obj, hobj, rfl⟩ := hobj'
    exact (hbound kind' name' obj hobj).delete_dc dc
  | created kind name hnew obj hdc hallowed =>
    rw [lookup_save_object] at hobj'
    split at hobj'
    · obtain rfl := Option.some.inj hobj'
      intro dc h
      rw [hdc, h]
      rfl
    · exact hbound kind' name' obj' hobj'
  | changed kind name old obj hold hdc hkept =>
    rw [lookup_save_object] at hobj'
    split at hobj'
    · obtain rfl := Option.some.inj hobj'
      rcases hkept with hsame | ⟨hnew, -⟩
      · intro dc h
        rw [hdc]
        exact hbound kind name old (get_virt_object_eq_ok.mp hold).1 dc (hsame ▸ h)
      · exact hnew
    · exact hbound kind' name' obj' hobj'
  | deleted kind name obj hobj =>
    rw [lookup_delete_object] at hobj'
    split at hobj'
    · cases hobj'
    · exact hbound kind' name' obj' hobj'

theorem step_bound {op : Request D × Op D N F} (hbound : s.Bound) : (s.step op).Bound := by
  unfold System.step
  cases hok : s.handle op.1 op.2 with
  | error e => exact hbound
  | ok s' => exact (handle_step hok).bound hbound

theorem run_bound (ops : List (Request D × Op D N F)) (s : System D N F) (hbound : s.Bound) : (s.run ops).Bound := by
  induction ops generalizing s with
  | nil => exact hbound
  | cons op ops ih => exact ih (s.step op) (step_bound hbound)

/-- Whatever is requested, an object that is bound to a datacenter is attached to this one and no other. -/
theorem bound_attached_once (hbound : s.Bound) (ops : List (Request D × Op D N F))
    {obj : VirtObject D F} (hobj : ((s.run ops).objects kind).lookup name = some obj) {dc : D}
    (hdc : obj.dc_bound = some dc) : obj.dc = [dc] :=
  run_bound ops s hbound kind name obj hobj dc hdc

/-- The networks and the rescue CD of a new installation, which are in the datacenters `main` and `admin`. -/
def init : System ℕ String String where
  objects
    | .network => ((∅ : Dict String _).insert "admin" ⟨none, [1, 2], "admin"⟩).insert "lan" ⟨none, [1, 2], "lan"⟩
    | .template => ∅
    | .iso => (∅ : Dict String _).insert "rescuecd.iso" ⟨none, [1, 2], "rescuecd"⟩
  VMS_ISO_RESCUECD := "rescuecd.iso"

theorem init_bound : init.Bound := by
  intro kind name obj hobj dc hdc
  cases kind with
  | network =>
    simp only [init, Dict.lookup_insert_ite] at hobj
    split_ifs at hobj
    · cases hobj
      cases hdc
    · cases hobj
      cases hdc
    · cases hobj
  | template => cases hobj
  | iso =>
    simp only [init, Dict.lookup_insert_ite] at hobj
    split_ifs at hobj
    · cases hobj
      cases hdc
    · cases hobj

def staff (dc : ℕ) : Request ℕ where
  is_staff := true
  dc := dc
  dcs := []
  can_access _ := true

/-- An administrator of one datacenter. -/
def admin (dc : ℕ) : Request ℕ where
  is_staff := false
  dc := dc
  dcs := [dc]
  can_access := (· = dc)

def object_data (dc_bound : Option Bool) (dc : Option ℕ) (fields : String) : ObjectData ℕ String where
  dc_bound := dc_bound
  dc := dc
  restore_object _ := some fields

/-- A network of a customer's datacenter is bound to it, released, attached elsewhere and bound again. -/
def customer_requests : List (Request ℕ × Op ℕ String String) :=
  [(admin 3, .network_post "net" (object_data none (some 3) "new")),
    (staff 3, .network_put "net" (object_data (some false) none "released")),
    (staff 1, .dc_network_post "net"),
    (staff 3, .network_put "net" (object_data (some true) none "refused")),
    (staff 1, .dc_network_delete "net" false),
    (staff 3, .network_put "net" (object_data (some true) none "bound"))]

theorem bound_attached_once_customer :
    ∃ obj, ((init.run customer_requests).objects .network).lookup "net" = some obj ∧
      obj.fields = "bound" ∧ obj.dc = [3] := by
  have hobj : ((init.run customer_requests).objects .network).lookup "net" = some ⟨some 3, [3], "bound"⟩ := by decide
  exact ⟨_, hobj, rfl, bound_attached_once init_bound customer_requests hobj rfl⟩

end binding

section isolation

/-- What users who are not staff get at is bound to one of their datacenters. -/
theorem not_mem_dc_of_get_virt_object {dc : D} (hforeign : request.Foreign dc) (hbound : s.Bound) {obj : VirtObject D F}
    (hobj : s.get_virt_object request kind name = .ok obj) : dc ∉ obj.dc := by
  intro hmem
  obtain ⟨hlookup, hallowed⟩ := get_virt_object_eq_ok.mp hobj
  rw [hforeign.1, Option.any_eq_true] at hallowed
  obtain ⟨dc', hsome, hadmin⟩ := hallowed.resolve_left Bool.false_ne_true
  rw [hbound kind name obj hlookup dc' hsome, List.mem_singleton] at hmem
  exact hforeign.2 (hmem ▸ of_decide_eq_true hadmin)

theorem ObjectStep.foreign {dc : D} (hstep : ObjectStep s request s') (hbound : s.Bound) (hforeign : request.Foreign dc)
    {obj : VirtObject D F} (hdc : dc ∈ obj.dc) :
    (s'.objects kind).lookup name = some obj ↔ (s.objects kind).lookup name = some obj := by
  have hstaff : request.is_staff ≠ true := hforeign.1 ▸ Bool.false_ne_true
  cases hstep with
  | unbound _ _ _ _ h => exact absurd h hstaff
  | dc_deleted _ h => exact absurd h hstaff
  | created kind' name' hnew own hown hallowed =>
    rw [lookup_save_object]
    split
    · case isTrue hsame =>
      obtain ⟨rfl, rfl⟩ := hsame
      obtain ⟨dc', hadmin, hsome⟩ := hallowed.resolve_left hstaff
      constructor
      · intro h
        obtain rfl := Option.some.inj h
        rw [hown, hsome] at hdc
        obtain rfl := List.mem_singleton.mp hdc
        exact absurd hadmin hforeign.2
      · intro h
        cases hnew.symm.trans h
    · exact Iff.rfl
  | changed kind' name' own new hown hkept _ =>
    rw [lookup_save_object]
    split
    · case isTrue hsame =>
      obtain ⟨rfl, rfl⟩ := hsame
      have hnot := not_mem_dc_of_get_virt_object hforeign hbound hown
      constructor
      · intro h
        obtain rfl := Option.some.inj h
        exact absurd (hkept ▸ hdc) hnot
      · intro h
        obtain rfl := Option.some.inj ((get_virt_object_eq_ok.mp hown).1.symm.trans h)
        exact absurd hdc hnot
    · exact Iff.rfl
  | deleted kind' name' own hown =>
    rw [lookup_delete_object]
    split
    · case isTrue hsame =>
      obtain ⟨rfl, rfl⟩ := hsame
      constructor
      · intro h
        cases h
      · intro h
        obtain rfl := Option.some.inj ((get_virt_object_eq_ok.mp hown).1.symm.trans h)
        exact absurd hdc (not_mem_dc_of_get_virt_object hforeign hbound hown)
    · exact Iff.rfl

theorem step_foreign {op : Request D × Op D N F} {dc : D} (hforeign : op.1.Foreign dc) (hbound : s.Bound)
    {obj : VirtObject D F} (hdc : dc ∈ obj.dc) :
    ((s.step op).objects kind).lookup name = some obj ↔ (s.objects kind).lookup name = some obj := by
  unfold System.step
  cases hok : s.handle op.1 op.2 with
  | error e => exact Iff.rfl
  | ok s' => exact (handle_step hok).foreign hbound hforeign hdc

theorem run_foreign {dc : D} (ops : List (Request D × Op D N F)) (s : System D N F)
    (hforeign : ∀ op ∈ ops, op.1.Foreign dc) (hbound : s.Bound) {obj : VirtObject D F} (hdc : dc ∈ obj.dc) :
    ((s.run ops).objects kind).lookup name = some obj ↔ (s.objects kind).lookup name = some obj := by
  induction ops generalizing s with
  | nil => exact Iff.rfl
  | cons op ops ih =>
    obtain ⟨hop, hrest⟩ := List.forall_mem_cons.mp hforeign
    exact (ih (s.step op) hrest (step_bound hbound)).trans (step_foreign hop hbound hdc)

/-- As long as neither an administrator of a datacenter nor a superadministrator is at work, the objects that are attached to
the datacenter stay as they are, and no object is attached to it. -/
theorem foreign_objects_kept (hbound : s.Bound) (ops ops' : List (Request D × Op D N F)) {dc : D}
    (hforeign : ∀ op ∈ ops', op.1.Foreign dc) {obj : VirtObject D F} (hdc : dc ∈ obj.dc) :
    ((s.run (ops ++ ops')).objects kind).lookup name = some obj ↔ ((s.run ops).objects kind).lookup name = some obj := by
  rw [System.run, List.foldl_append]
  exact run_foreign ops' _ hforeign (run_bound ops s hbound) hdc

/-- Requests of the administrator of another datacenter for the network. -/
def foreign_requests : List (Request ℕ × Op ℕ String String) :=
  [(admin 4, .network_put "net" (object_data none none "mine")),
    (admin 4, .network_delete "net" false),
    (admin 4, .dc_network_post "net"),
    (admin 4, .network_post "other" (object_data none (some 4) "other"))]

theorem foreign_objects_kept_customer :
    ((init.run (customer_requests ++ foreign_requests)).objects .network).lookup "net" = some ⟨some 3, [3], "bound"⟩ := by
  refine (foreign_objects_kept init_bound customer_requests foreign_requests ?_ (List.mem_singleton_self 3)).mpr (by decide)
  have hother : (admin 4).Foreign 3 := ⟨rfl, by decide⟩
  simp only [foreign_requests, List.forall_mem_cons, hother, true_and]
  exact List.forall_mem_nil _

end isolation

end api.dc.objects
