import Mathlib
import Esdc.Lib.Dict
import Esdc.Lib.Interleave

namespace que.user_tasks

open interleave

/-- The prefix of a task id names the user and the owner, `x` is its random part. -/
structure TaskId (User : Type) where
  user_id : User
  owner_id : User
  x : ℕ
  deriving DecidableEq

def owner_id_from_task_id {User : Type} (task_id : TaskId User) : User := task_id.owner_id

abbrev Apiview := Dict String String

/-- What is stored for a task: the info that an object creates, or that of another caller.
An image adds the key of its source VM. -/
inductive Info (Pk : Type)
  | object (pk : Pk) (vm_pk : Option Pk) (msg : String) (apiview : Apiview)
  | other (apiview : Apiview)

inductive Error
  | UserTaskError
  | AttributeError
  deriving DecidableEq

section redis

variable (User Pk : Type)

/-- The operations on the backend; a pipeline is executed as one. -/
inductive Op
  | ready (task_id : TaskId User)
  | hget (user_id : User) (task_id : TaskId User)
  | hset_sadd (user_id : User) (task_id : TaskId User) (task_info : Info Pk)
  | hdel_srem (user_id : User) (task_id : TaskId User)
  | cache_set (task_id : TaskId User) (apiview : Apiview)
  | finish (task_id : TaskId User)

variable {User Pk}

abbrev Op.Resp : Op User Pk → Type
  | .ready _ => Bool
  | .hget _ _ => Option (Info Pk)
  | .hset_sadd _ _ _ => Bool
  | .hdel_srem _ _ => Bool
  | .cache_set _ _ => Unit
  | .finish _ => Unit

variable [DecidableEq User]

/-- The hashes `tasks-<user>`, the set `tasks`, the task results and the entries `sio-<task>`. -/
structure Redis (User Pk : Type) [DecidableEq User] where
  hashes : Dict (User × TaskId User) (Info Pk)
  tasks : Finset (TaskId User)
  results : Finset (TaskId User)
  sio : Dict (TaskId User) Apiview

def Redis.empty : Redis User Pk := ⟨∅, ∅, ∅, ∅⟩

def exec : (o : Op User Pk) → Redis User Pk → o.Resp × Redis User Pk
  | .ready task_id, s => (decide (task_id ∈ s.results), s)
  | .hget user_id task_id, s => (s.hashes.lookup (user_id, task_id), s)
  | .hset_sadd user_id task_id task_info, s =>
    ((s.hashes.lookup (user_id, task_id)).isNone,
      { s with hashes := s.hashes.insert (user_id, task_id) task_info, tasks := insert task_id s.tasks })
  | .hdel_srem user_id task_id, s =>
    ((s.hashes.lookup (user_id, task_id)).isSome,
      { s with hashes := s.hashes.erase (user_id, task_id), tasks := s.tasks.erase task_id })
  | .cache_set task_id apiview, s => ((), { s with sio := s.sio.insert task_id apiview })
  | .finish task_id, s => ((), { s with results := insert task_id s.results })

end redis

abbrev Prog (User Pk α : Type) := Program (Op User Pk) Op.Resp α

section calls

variable {User Pk : Type} [DecidableEq User]

def UserTasks.add (user_id : User) (task_id : TaskId User) (task_info : Info Pk) : Prog User Pk (Except Error Bool) :=
  .op (.ready task_id) fun ready =>
    if ready then .done (.error .UserTaskError)
    else .op (.hset_sadd user_id task_id task_info) fun res => .done (.ok res)

def UserTasks.delete (user_id : User) (task_id : TaskId User) : Prog User Pk Bool :=
  .op (.hdel_srem user_id task_id) .done

/-- The empty dictionary is `none`. -/
def UserTasks.pop (user_id : User) (task_id : TaskId User) : Prog User Pk (Option (Info Pk)) :=
  .op (.hget user_id task_id) fun task_info =>
    match task_info with
    | none => .done none
    | some task_info => do
      let _ ← UserTasks.delete user_id task_id
      .done (some task_info)

/-- `info.get('apiview', {})` -/
def apiview_of : Option (Info Pk) → Apiview
  | none => ∅
  | some (.object _ _ _ apiview) => apiview
  | some (.other apiview) => apiview

/-- The models that differ here; all the others keep their tasks like VMs. -/
inductive Model (User Pk : Type)
  | vm
  | nodestorage
  | image (owner_id : User) (src_vm : Option (Pk × User))

structure Object (User Pk : Type) where
  model : Model User Pk
  default_apiview : Apiview

/-- The apiview that is stored; the time is added when it is missing. -/
def create_apiview (apiview additional_apiview : Apiview) (now : String) : Apiview :=
  let apiview := apiview.update additional_apiview
  if (apiview.lookup "time").isSome then apiview else apiview.insert "time" now

def _tasks_add (pk : Pk) (task_id : TaskId User) (apiview : Apiview) (msg : String) (additional_apiview : Apiview)
    (now : String) : Prog User Pk (Except Error Bool) :=
  let info := .object pk none msg (create_apiview apiview additional_apiview now)
  UserTasks.add (owner_id_from_task_id task_id) task_id info

def Object.tasks_add (object : Object User Pk) (pk : Pk) (task_id : TaskId User) (apiview : Apiview) (msg : String)
    (additional_apiview : Apiview) (now : String) : Prog User Pk (Except Error Bool) :=
  match object.model with
  | .vm | .nodestorage => _tasks_add pk task_id apiview msg additional_apiview now
  | .image owner_id src_vm =>
    let apiview := create_apiview apiview additional_apiview now
    let vm_pk := if apiview.lookup "view" = some "image_snapshot" then src_vm.map Prod.fst else none
    UserTasks.add owner_id task_id (.object pk vm_pk msg apiview)

def _tasks_del (task_id : TaskId User) (apiview : Option Apiview) (additional_apiview : Apiview) :
    Prog User Pk Apiview := do
  let apiview ← match apiview with
    | none => apiview_of <$> UserTasks.pop (owner_id_from_task_id task_id) task_id
    | some apiview => .done apiview
  let apiview := apiview.update additional_apiview
  .op (.cache_set task_id apiview) fun _ => .done apiview

/-- `tasks_del` of the base class. -/
def Object.base_tasks_del (object : Object User Pk) (task_id : TaskId User) (additional_apiview : Apiview) :
    Prog User Pk Apiview := do
  let info ← UserTasks.pop (owner_id_from_task_id task_id) task_id
  _tasks_del task_id (some ((apiview_of info).update object.default_apiview)) additional_apiview

/-- What an image does after that; without its source VM this is an `AttributeError`. -/
def Object.pop_vm_task (object : Object User Pk) (task_id : TaskId User) (apiview : Apiview) :
    Prog User Pk (Except Error Apiview) :=
  match object.model with
  | .vm | .nodestorage => .done (.ok apiview)
  | .image owner_id src_vm =>
    if apiview.lookup "view" = some "image_snapshot" then
      match src_vm with
      | none => .done (.error .AttributeError)
      | some (_, vm_owner_id) =>
        if vm_owner_id ≠ owner_id then do
          let _ ← UserTasks.pop vm_owner_id task_id
          .done (.ok apiview)
        else .done (.ok apiview)
    else .done (.ok apiview)

def Object.tasks_del (object : Object User Pk) (task_id : TaskId User) (additional_apiview : Apiview) :
    Prog User Pk (Except Error Apiview) := do
  let apiview ← object.base_tasks_del task_id additional_apiview
  object.pop_vm_task task_id apiview

/-- The calls of any process; `finish` is a worker that stores the result of a task. -/
inductive Call (User Pk : Type)
  | add (user_id : User) (task_id : TaskId User) (apiview : Apiview)
  | delete (user_id : User) (task_id : TaskId User)
  | pop (user_id : User) (task_id : TaskId User)
  | tasks_add (pk : Pk) (task_id : TaskId User) (apiview : Apiview) (msg : String) (additional_apiview : Apiview)
      (now : String)
  | tasks_del (pk : Pk) (task_id : TaskId User) (additional_apiview : Apiview)
  | class_tasks_del (task_id : TaskId User) (additional_apiview : Apiview)
  | finish (task_id : TaskId User)

def Call.program (objects : Pk → Object User Pk) : Call User Pk → Prog User Pk Unit
  | .add user_id task_id apiview => do let _ ← UserTasks.add user_id task_id (.other apiview)
  | .delete user_id task_id => do let _ ← UserTasks.delete user_id task_id
  | .pop user_id task_id => do let _ ← UserTasks.pop user_id task_id
  | .tasks_add pk task_id apiview msg additional_apiview now => do
    let _ ← (objects pk).tasks_add pk task_id apiview msg additional_apiview now
  | .tasks_del pk task_id additional_apiview => do let _ ← (objects pk).tasks_del task_id additional_apiview
  | .class_tasks_del task_id additional_apiview => do let _ ← _tasks_del task_id none additional_apiview
  | .finish task_id => .op (.finish task_id) .done

end calls

end que.user_tasks
