import Mathlib
import Esdc.Api.Vm.Define.NicView

namespace api.vm.define.nic

open vms.definition (Item Value)
open vms.ipaddress (IPAddress Usage NicIp vm_update_ipaddress_usage)

variable {U D : Type} [DecidableEq U] [DecidableEq D]

section definitions

def nic_ip (nic : Item) : NicIp String :=
  match get nic "ip" with
  | .str ip => if ip = "" then .none else if ip = "dhcp" then .dhcp else .address ip
  | _ => .none

def network_uuid (nic : Item) : Option String :=
  match get nic "network_uuid" with
  | .str uuid => if uuid = "" then none else some uuid
  | _ => none

def to_nic (nic : Item) : vms.ipaddress.Nic String String where
  ip := nic_ip nic
  network_uuid := network_uuid nic
  allowed_ips := addresses_of (get nic "allowed_ips")

def Vm.to_ips (vm : Vm U) : vms.ipaddress.Vm String String U where
  uuid := vm.uuid
  is_notcreated := !vm.is_deployed
  nics := vm.nics.map to_nic
  active_nics := vm.active_nics.map to_nic

/-- All VMs and the tables of networks and addresses. -/
structure System (U D : Type) where
  db : Db U D
  vms : Dict U (Vm U)

inductive Op (U : Type)
  | post (req : Request) (uuid : U) (nic_id : ℕ) (data : Data)
  | put (req : Request) (uuid : U) (nic_id : ℕ) (data : Data)
  | delete (uuid : U) (nic_id : ℕ)
  /-- the callback of a VM that was created or updated on the node, with the NICs that the node reports -/
  | synced (uuid : U) (nics : List Item)
  /-- the callback of a VM that was deleted from the node -/
  | deleted (uuid : U)
  /-- the definition on the node replaces the one in the database -/
  | reverted (uuid : U)

end definitions

section system

def System.is_notcreated (s : System U D) (uuid : U) : Bool := (s.vms.lookup uuid).all fun vm => !vm.is_deployed

/-- A failed request changes nothing. -/
def System.save (s : System U D) (uuid : U) (result : Except Error (Result U)) : System U D :=
  match result with
  | .ok result => { db := { s.db with addresses := result.addresses }, vms := s.vms.insert uuid result.vm }
  | .error _ => s

/-- The usage of the addresses is updated in the transaction that saves the VM. -/
def System.save_usage (s : System U D) (uuid : U) (vm : Vm U) : System U D :=
  match vm_update_ipaddress_usage s.is_notcreated vm.to_ips s.db.addresses with
  | (addresses, .ok ()) => { db := { s.db with addresses := addresses }, vms := s.vms.insert uuid vm }
  | (_, .error _) => s

def System.step (s : System U D) (op : Op U) : System U D :=
  match op with
  | .post req uuid nic_id data =>
    match s.vms.lookup uuid with
    | none => s
    | some vm => s.save uuid (VmDefineNicView.post s.db req vm nic_id data)
  | .put req uuid nic_id data =>
    match s.vms.lookup uuid with
    | none => s
    | some vm => s.save uuid (VmDefineNicView.put s.db req vm nic_id data)
  | .delete uuid nic_id =>
    match s.vms.lookup uuid with
    | none => s
    | some vm => s.save uuid (VmDefineNicView.delete s.db vm nic_id)
  | .synced uuid nics =>
    match s.vms.lookup uuid with
    | none => s
    | some vm => s.save_usage uuid { vm with is_deployed := true, nics := nics, active_nics := nics }
  | .deleted uuid =>
    match s.vms.lookup uuid with
    | none => s
    | some vm => s.save_usage uuid { vm with is_deployed := false, active_nics := [] }
  | .reverted uuid =>
    match s.vms.lookup uuid with
    | none => s
    | some vm => if vm.is_deployed then s.save_usage uuid { vm with nics := vm.active_nics } else s

/-- The operations of a run, each with the state in which it starts. -/
def System.trace (s : System U D) : List (Op U) → List (System U D × Op U)
  | [] => []
  | op :: ops => (s, op) :: (s.step op).trace ops

def System.run (s : System U D) (ops : List (Op U)) : System U D := ops.foldl System.step s

end system

end api.vm.define.nic
