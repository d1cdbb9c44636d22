import Esdc.Api.Callback.Data

namespace api.vm.replica

open vms.models (StatusStore)

/-- A JSON value in the output of `esrep`. -/
inductive Json
  | scalar (truthy : Bool)
  | string (text : String)
  | list (items : List Json)
  | dict (items : List (String × Json))

inductive Error
  | type_error
  | key_error
  deriving DecidableEq

def Json.is_string (text : String) : Json → Bool
  | .string text' => text' = text
  | _ => false

/-- `key in out` -/
def Json.contains (out : Json) (key : String) : Except Error Bool :=
  match out with
  | .scalar _ => .error .type_error
  | .string text => .ok (api.callbacks.contains text key)
  | .list items => .ok (items.any (Json.is_string key))
  | .dict items => .ok (items.lookup key).isSome

/-- `out[key]` -/
def Json.getitem (out : Json) (key : String) : Except Error Json :=
  match out with
  | .dict items =>
    match items.lookup key with
    | some value => .ok value
    | none => .error .key_error
  | _ => .error .type_error

/-- A value that is looked up in a dictionary has to be hashable. -/
def Json.hash : Json → Except Error Unit
  | .scalar _ | .string _ => .ok ()
  | .list _ | .dict _ => .error .type_error

/-- `key_json_idx` -/
inductive Index
  | first
  | last

def Index.of (key_json_idx : Index) (jsons : List Json) : Option Json :=
  match key_json_idx with
  | .first => jsons.head?
  | .last => jsons.getLast?

/-- The `msg` and the `rc` of one output. -/
def msg_rc (out : Json) : Except Error Unit := do
  if ← out.contains "msg" then
    discard (out.getitem "msg")
    discard (out.getitem "rc")

/-- Only a missing key is ignored. -/
def time_elapsed (out : Json) : Except Error Unit :=
  match out.getitem "time_elapsed" with
  | .error .type_error => .error .type_error
  | _ => .ok ()

/-- Whether the detail can be composed; its text is not modelled. -/
def _vm_replica_cb_detail (jsons : List Json) (key_json_idx : Index) : Except Error Unit := do
  jsons.forM msg_rc
  match key_json_idx.of jsons with
  | some out => time_elapsed out
  | none => pure ()

/-- The return code of `esrep` and the values in its output, unless that is empty
or cannot be parsed. -/
structure Result where
  returncode : Int
  jsons : Option (List Json)

def _parse_vm_replica_result (result : Result) (key_json_idx : Index) : Except Error (List Json) :=
  match result.jsons with
  | none => .ok []
  | some jsons => do
    _vm_replica_cb_detail jsons key_json_idx
    return jsons

inductive SyncStatus
  | DIS
  | OFF
  | ON
  deriving DecidableEq

/-- `REPLICA_SERVICE_STATES.get(service_state, SlaveVm.OFF)` -/
def REPLICA_SERVICE_STATES (service_state : Json) : SyncStatus :=
  if service_state.is_string "absent" then .DIS
  else if service_state.is_string "online" then .ON
  else .OFF

/-- The last state of the service in the output. -/
def _save_svc_state (jsons : List Json) : Except Error (Option SyncStatus) :=
  jsons.foldlM (fun service_state out => do
    if ← out.contains "service_state" then
      let value ← out.getitem "service_state"
      value.hash
      return some (REPLICA_SERVICE_STATES value)
    else return service_state) none

variable {Time : Type}

/-- What the callback of a POST `vm_replica` saves of the master VM. -/
def vm_replica_cb (result : Result) (store : StatusStore Time) : StatusStore Time :=
  match _parse_vm_replica_result result .first with
  | .error _ => store
  | .ok _ => (vms.models.Vm.get store).revert_notready.save none store

/-- `SlaveVm.fail_over` saves the old master VM as it has been loaded and reverted. -/
def fail_over (old_vm : vms.models.Vm Time) (store : StatusStore Time) : StatusStore Time :=
  old_vm.save none store

/-- What the callback of `vm_replica_failover` saves of the old master VM. -/
def vm_replica_failover_cb (result : Result) (store : StatusStore Time) : StatusStore Time :=
  let vm := vms.models.Vm.get store
  match _parse_vm_replica_result result .last with
  | .error _ => store
  | .ok jsons =>
    match _save_svc_state jsons with
    | .error _ => store
    | .ok _ =>
      if result.returncode ≠ 0 then vm.revert_notready.save none store
      else fail_over vm.revert_notready store

/-- An output that is a dictionary, with its return code if it has a message, and
the state of the service as a text. -/
def Json.WellFormed : Json → Prop
  | .dict items => ((items.lookup "msg").isSome → (items.lookup "rc").isSome) ∧
      ∀ value, items.lookup "service_state" = some value → value.hash = .ok ()
  | _ => False

theorem Json.WellFormed.msg_rc {out : Json} (hwf : out.WellFormed) : msg_rc out = .ok () := by
  cases out with
  | dict items =>
    obtain ⟨hrc, _⟩ := hwf
    rw [api.vm.replica.msg_rc, Json.contains]
    cases hmsg : items.lookup "msg" with
    | none => rfl
    | some msg =>
      obtain ⟨rc, hrc⟩ := Option.isSome_iff_exists.mp (hrc (by rw [hmsg]; rfl))
      simp only [Json.getitem, hmsg, hrc]
      rfl
  | _ => cases hwf

theorem Json.WellFormed.time_elapsed {out : Json} (hwf : out.WellFormed) : time_elapsed out = .ok () := by
  cases out with
  | dict items =>
    rw [api.vm.replica.time_elapsed, Json.getitem]
    cases items.lookup "time_elapsed" <;> rfl
  | _ => cases hwf

/-- Every value in the output, if it can be parsed, is well formed. -/
def Result.WellFormed (result : Result) : Prop :=
  ∀ jsons, result.jsons = some jsons → ∀ out ∈ jsons, out.WellFormed

theorem Result.WellFormed.parse {result : Result} (hwf : result.WellFormed) (key_json_idx : Index) :
    _parse_vm_replica_result result key_json_idx = .ok (result.jsons.getD []) := by
  rw [_parse_vm_replica_result]
  cases hjsons : result.jsons with
  | none => rfl
  | some jsons =>
    have hwf := hwf jsons hjsons
    have hmsgs : jsons.forM msg_rc = (.ok () : Except Error Unit) := by
      clear hjsons
      induction jsons with
      | nil => rfl
      | cons out jsons ih =>
        change (do msg_rc out; jsons.forM msg_rc) = (.ok () : Except Error Unit)
        rw [(hwf out List.mem_cons_self).msg_rc]
        exact ih fun out hout => hwf out (List.mem_cons_of_mem _ hout)
    dsimp only
    rw [_vm_replica_cb_detail, hmsgs]
    cases hkey : key_json_idx.of jsons with
    | none => rfl
    | some out =>
      have hout : out ∈ jsons := by
        cases key_json_idx with
        | first => exact List.mem_of_mem_head? hkey
        | last => exact List.mem_of_mem_getLast? hkey
      change (do time_elapsed out; pure jsons) = (.ok jsons : Except Error (List Json))
      rw [(hwf out hout).time_elapsed]
      rfl

theorem save_svc_state_wellFormed {jsons : List Json} (hwf : ∀ out ∈ jsons, out.WellFormed) :
    ∃ service_state, _save_svc_state jsons = .ok service_state := by
  rw [_save_svc_state]
  generalize (none : Option SyncStatus) = service_state
  induction jsons generalizing service_state with
  | nil => exact ⟨service_state, rfl⟩
  | cons out jsons ih =>
    have htail := ih fun out hout => hwf out (List.mem_cons_of_mem _ hout)
    rw [List.foldlM_cons]
    cases out with
    | dict items =>
      obtain ⟨_, hhash⟩ : (Json.dict items).WellFormed := hwf _ List.mem_cons_self
      rw [Json.contains]
      cases hvalue : items.lookup "service_state" with
      | none => exact htail service_state
      | some value =>
        simp only [bind, Except.bind, Option.isSome_some, if_true, Json.getitem, hvalue, hhash value hvalue]
        exact htail _
    | _ => cases hwf _ List.mem_cons_self

end api.vm.replica
