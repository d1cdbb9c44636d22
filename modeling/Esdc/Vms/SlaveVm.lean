import Esdc.Lib.Dict
import Esdc.Vms.IPAddress

namespace vms.slave_vm

open vms.ipaddress (IPAddress Nic)

variable {A S U : Type}

/-- The columns of a VM that replication reads or writes. Nodes are given by their uuids. -/
structure VmRow (A S U : Type) where
  hostname : String
  uptime : Nat
  uptime_changed : Nat
  created : Nat
  node : U
  node_history : List U
  slave_vms : List U
  is_notcreated : Bool
  nics : List (Nic A S)
  active_nics : List (Nic A S)

/-- A replica; the name of a ghost VM of a migration is empty. -/
structure SlaveVm (U : Type) where
  vm : U
  master_vm : U
  name : String
  rep_id : Option Nat
  rep_reinit_required : Bool
  deriving DecidableEq

/-- The other models with a foreign key to a VM. -/
inductive RelatedModel
  | snapshot
  | snapshot_define
  | backup
  | backup_define
  deriving DecidableEq

structure Related (U : Type) where
  model : RelatedModel
  pk : Nat
  vm : U
  deriving DecidableEq

structure Db (A S U : Type) [DecidableEq U] where
  vm : Dict U (VmRow A S U)
  slaves : List (SlaveVm U)
  ipaddresses : List (IPAddress A S U)
  related : List (Related U)

/-- One completed request, with the master and the name of the replica. The hypervisor
returns the definition of a new slave VM. -/
inductive Operation (A S U : Type)
  | create (master : U) (name : String) (uuid node : U) (json : List (Nic A S))
  | failover (master : U) (name : String)
  | reinit (master : U) (name : String)
  | delete (master : U) (name : String)

def REPLICA_PREFIX : String := "_replica-"

def get_rep_hostname (hostname : String) (rep_id : Nat) : String :=
  REPLICA_PREFIX ++ toString rep_id ++ "-" ++ hostname

variable [DecidableEq U]

/-- `add_slave_vm` -/
def VmRow.add_slave_vm (row : VmRow A S U) (uuid : U) : VmRow A S U :=
  { row with slave_vms := row.slave_vms.filter (· ≠ uuid) ++ [uuid] }

/-- `delete_slave_vm`, an error if the uuid is not in the list. -/
def VmRow.delete_slave_vm (row : VmRow A S U) (uuid : U) : Option (VmRow A S U) :=
  if uuid ∈ row.slave_vms then some { row with slave_vms := row.slave_vms.filter (· ≠ uuid) } else none

/-- The VM with this uuid, unless it is a slave VM. -/
def Db.get_vm (db : Db A S U) (uuid : U) : Option (VmRow A S U) :=
  if db.slaves.any (·.vm = uuid) then none else db.vm.lookup uuid

def Db.get_slave (db : Db A S U) (master : U) (name : String) : Option (SlaveVm U) :=
  db.slaves.find? fun slave => slave.master_vm = master && slave.name = name

/-- The replicas of a VM, without a ghost VM. -/
def Db.replicas (db : Db A S U) (master : U) : List (SlaveVm U) :=
  db.slaves.filter fun slave => slave.master_vm = master && slave.name ≠ ""

/-- `VmReplicaSerializer.validate` of a POST request: the `rep_id` of the new replica. -/
def Db.validate (db : Db A S U) (limit : Option Nat) (master : U) : Option Nat :=
  let total := (db.replicas master).length
  match limit with
  | some limit => if limit ≤ total then none else some (total + 1)
  | none => some (total + 1)

/-- The fields that a new slave VM copies from its master. -/
def VmRow.copy (master : VmRow A S U) (rep_id : Nat) (node : U) (json : List (Nic A S)) : VmRow A S U :=
  { master with
    hostname := get_rep_hostname master.hostname rep_id
    created := 0
    node
    is_notcreated := false
    nics := json
    active_nics := json }

/-- `VmReplica.post`, `SlaveVm.save` and the successful callback. -/
def Db.create (db : Db A S U) (limit : Option Nat) (master : U) (name : String) (uuid node : U)
    (json : List (Nic A S)) : Option (Db A S U) :=
  match db.get_vm master, db.validate limit master with
  | some master_vm, some rep_id =>
    let slave_vm := master_vm.copy rep_id node json
    if db.get_slave master name = none ∧ name ≠ "" ∧ uuid ∉ db.vm ∧
        db.vm.entries.all (·.2.hostname ≠ slave_vm.hostname) then
      some { db with
        vm := (db.vm.insert uuid slave_vm).insert master (master_vm.add_slave_vm uuid)
        slaves := db.slaves ++ [⟨uuid, master, name, some rep_id, false⟩] }
    else none
  | _, _ => none

/-- A row of another table after the VM switch. -/
def move (old_vm new_vm vm : U) : U := if vm = old_vm then new_vm else vm

/-- The new master with the old one's node history and exchanged values. -/
def VmRow.promote (new_vm old_vm : VmRow A S U) (old_uuid : U) : VmRow A S U :=
  { new_vm.add_slave_vm old_uuid with
    node_history := old_vm.node_history ++ [old_vm.node]
    uptime := old_vm.uptime
    uptime_changed := old_vm.uptime_changed
    created := old_vm.created
    hostname := old_vm.hostname }

def VmRow.demote (old_vm new_vm : VmRow A S U) : VmRow A S U :=
  { old_vm with
    uptime := new_vm.uptime
    uptime_changed := new_vm.uptime_changed
    created := new_vm.created
    hostname := new_vm.hostname }

/-- The row of the replica after the VM switch, the other rows as they are. -/
def switch (slave other : SlaveVm U) : SlaveVm U :=
  if other = slave then { slave with master_vm := slave.vm, vm := slave.master_vm, rep_reinit_required := true }
  else other

/-- `SlaveVm.fail_over`. The relations of `get_all_related_objects` are moved, but
`slavevm` and `slave_vm`. -/
def Db.fail_over (db : Db A S U) (slave : SlaveVm U) (new_vm old_vm : VmRow A S U) : Option (Db A S U) :=
  (old_vm.delete_slave_vm slave.vm).map fun rest => {
    vm := (db.vm.insert slave.master_vm (rest.demote new_vm)).insert slave.vm (new_vm.promote old_vm slave.master_vm)
    slaves := db.slaves.map (switch slave)
    ipaddresses := db.ipaddresses.map fun row => { row with vm := row.vm.map (move slave.master_vm slave.vm) }
    related := db.related.map fun row => { row with vm := move slave.master_vm slave.vm row.vm } }

def Db.failover (db : Db A S U) (master : U) (name : String) : Option (Db A S U) :=
  match db.get_vm master, db.get_slave master name with
  | some old_vm, some slave =>
    if slave.rep_reinit_required then none
    else (db.vm.lookup slave.vm).bind fun new_vm => db.fail_over slave new_vm old_vm
  | _, _ => none

def Db.reinit (db : Db A S U) (master : U) (name : String) : Option (Db A S U) :=
  match db.get_vm master, db.get_slave master name with
  | some _, some slave =>
    if slave.rep_reinit_required then
      some { db with slaves := db.slaves.map fun other =>
        if other = slave then { slave with rep_reinit_required := false } else other }
    else none
  | _, _ => none

/-- A VM is deleted with the rows that refer to it, and so are the slave VMs of such rows. -/
def Db.delete_vm : Nat → U → Db A S U → Db A S U
  | 0, _, db => db
  | depth + 1, uuid, db =>
    let rest : Db A S U := {
      vm := db.vm.erase uuid
      slaves := db.slaves.filter fun slave => slave.vm ≠ uuid && slave.master_vm ≠ uuid
      ipaddresses := db.ipaddresses.map fun row =>
        { row with vm := if row.vm = some uuid then none else row.vm, vms := row.vms.filter (· ≠ uuid) }
      related := db.related.filter (·.vm ≠ uuid) }
    (db.slaves.filter (·.master_vm = uuid)).foldl (fun db slave => Db.delete_vm depth slave.vm db) rest

/-- `slave_vm.delete()` with `SlaveVm.post_delete`. -/
def Db.delete (db : Db A S U) (master : U) (name : String) : Option (Db A S U) :=
  match db.get_vm master, db.get_slave master name with
  | some master_vm, some slave =>
    match master_vm.delete_slave_vm slave.vm with
    | none => none
    | some master_vm =>
      let rest := Db.delete_vm (db.slaves.length + 1) slave.vm { db with slaves := db.slaves.filter (· ≠ slave) }
      some { rest with vm := rest.vm.insert master master_vm }
  | _, _ => none

def step (limit : Option Nat) (db : Db A S U) : Operation A S U → Option (Db A S U)
  | .create master name uuid node json => db.create limit master name uuid node json
  | .failover master name => db.failover master name
  | .reinit master name => db.reinit master name
  | .delete master name => db.delete master name

end vms.slave_vm
