import Mathlib
import Esdc.Que.UserTasks

namespace que.user_tasks

open interleave
open transition

variable {User Pk Pid : Type} [DecidableEq User]

/-- The global set has the tasks of all the hashes. -/
def Redis.Consistent (s : Redis User Pk) : Prop :=
  ∀ task_id, task_id ∈ s.tasks ↔ ∃ user_id, (s.hashes.lookup (user_id, task_id)).isSome

/-- The record was added on behalf of the object. -/
def Info.Of (pk : Pk) : Info Pk → Prop
  | .object pk' _ _ _ => pk' = pk
  | .other _ => False

/-- Every record of an object is removed when the object deletes the task. -/
def Redis.Removable (objects : Pk → Object User Pk) (s : Redis User Pk) : Prop :=
  ∀ pk user_id task_id info additional_apiview, s.hashes.lookup (user_id, task_id) = some info → info.Of pk →
    (((objects pk).tasks_del task_id additional_apiview).run exec s).2.hashes.lookup (user_id, task_id) = none

/-- A record of an object is added under the owner that the task id names, and a task is deleted
under one user when no other user has it. -/
def Op.Keeps (s : Redis User Pk) : Op User Pk → Prop
  | .hset_sadd user_id task_id (.object _ _ _ _) => user_id = owner_id_from_task_id task_id
  | .hdel_srem user_id task_id => ∀ other, other ≠ user_id → s.hashes.lookup (other, task_id) = none
  | _ => True

abbrev Keeps : System Pid (Op User Pk) Op.Resp (Redis User Pk) → Event Pid (Call User Pk) → Prop :=
  Allowed fun s o => o.Keeps s

section programs

/-- The user whose hash gets the record of an object. -/
def Object.added_by (object : Object User Pk) (task_id : TaskId User) : User :=
  match object.model with
  | .vm | .nodestorage => owner_id_from_task_id task_id
  | .image owner_id _ => owner_id

def Op.AddsOwn (objects : Pk → Object User Pk) : Op User Pk → Prop
  | .hset_sadd user_id task_id info => ∀ pk, info.Of pk → user_id = (objects pk).added_by task_id
  | _ => True

def Op.AddsNothing : Op User Pk → Prop
  | .hset_sadd _ _ _ => False
  | _ => True

omit [DecidableEq User] in
theorem add_all {p : Op User Pk → Prop} {user_id : User} {task_id : TaskId User} {info : Info Pk}
    (hready : p (.ready task_id)) (hadd : p (.hset_sadd user_id task_id info)) :
    (UserTasks.add user_id task_id info).All p := by
  refine ⟨hready, fun ready => ?_⟩
  cases ready with
  | true => trivial
  | false => exact ⟨hadd, fun _ => trivial⟩

omit [DecidableEq User] in
theorem pop_all {p : Op User Pk → Prop} {user_id : User} {task_id : TaskId User} (hget : p (.hget user_id task_id))
    (hdelete : p (.hdel_srem user_id task_id)) : (UserTasks.pop user_id task_id).All p := by
  refine ⟨hget, fun info => ?_⟩
  cases info with
  | none => trivial
  | some info => exact ⟨hdelete, fun _ => trivial⟩

omit [DecidableEq User] in
theorem base_tasks_del_all {p : Op User Pk → Prop} {object : Object User Pk} {task_id : TaskId User}
    {additional_apiview : Apiview} (hget : ∀ user_id, p (.hget user_id task_id))
    (hdelete : ∀ user_id, p (.hdel_srem user_id task_id)) (hcache : ∀ apiview, p (.cache_set task_id apiview)) :
    (object.base_tasks_del task_id additional_apiview).All p :=
  (pop_all (hget _) (hdelete _)).bind fun _ => ⟨hcache _, fun _ => trivial⟩

theorem pop_vm_task_all {p : Op User Pk → Prop} {object : Object User Pk} {task_id : TaskId User} {apiview : Apiview}
    (hget : ∀ user_id, p (.hget user_id task_id)) (hdelete : ∀ user_id, p (.hdel_srem user_id task_id)) :
    (object.pop_vm_task task_id apiview).All p := by
  unfold Object.pop_vm_task
  cases object.model with
  | vm => trivial
  | nodestorage => trivial
  | image owner_id src_vm =>
    simp only
    split
    · match src_vm with
      | none => trivial
      | some (_, vm_owner_id) =>
        simp only
        split
        · exact (pop_all (hget _) (hdelete _)).bind fun _ => trivial
        · trivial
    · trivial

/-- Whatever is called, the records of an object are only added under one user. -/
theorem program_addsOwn (objects : Pk → Object User Pk) (call : Call User Pk) :
    (call.program objects).All (Op.AddsOwn objects) := by
  cases call with
  | add user_id task_id apiview =>
    have hadd : (UserTasks.add user_id task_id (.other apiview)).All (Op.AddsOwn objects) :=
      add_all trivial fun _ hof => hof.elim
    exact hadd.bind fun _ => trivial
  | delete user_id task_id => exact ⟨trivial, fun _ => trivial⟩
  | pop user_id task_id => exact (pop_all trivial trivial).bind fun _ => trivial
  | tasks_add pk task_id apiview msg additional_apiview now =>
    refine Program.All.bind ?_ fun _ => trivial
    unfold Object.tasks_add
    cases hmodel : (objects pk).model with
    | vm | nodestorage =>
      refine add_all trivial ?_
      rintro _ rfl
      rw [Object.added_by, hmodel]
    | image owner_id src_vm =>
      refine add_all trivial ?_
      rintro _ rfl
      rw [Object.added_by, hmodel]
  | tasks_del pk task_id additional_apiview =>
    have hbase : ((objects pk).base_tasks_del task_id additional_apiview).All (Op.AddsOwn objects) :=
      base_tasks_del_all (fun _ => trivial) (fun _ => trivial) fun _ => trivial
    exact (hbase.bind fun _ => pop_vm_task_all (fun _ => trivial) fun _ => trivial).bind fun _ => trivial
  | class_tasks_del task_id additional_apiview =>
    refine Program.All.bind ?_ fun _ => trivial
    refine Program.All.bind (Program.All.bind (pop_all trivial trivial) fun _ => trivial) ?_
    exact fun _ => ⟨trivial, fun _ => trivial⟩
  | finish task_id => exact ⟨trivial, fun _ => trivial⟩

end programs

section removal

variable {s : Redis User Pk}

theorem pop_lookup (user_id : User) (task_id : TaskId User) (key : User × TaskId User) :
    ((UserTasks.pop user_id task_id).run exec s).2.hashes.lookup key =
      if key = (user_id, task_id) then none else s.hashes.lookup key := by
  simp only [UserTasks.pop, UserTasks.delete, Program.run_op, exec]
  cases hinfo : s.hashes.lookup (user_id, task_id) with
  | none =>
    by_cases hkey : key = (user_id, task_id)
    · rw [if_pos hkey, hkey]
      exact hinfo
    · rw [if_neg hkey]
      rfl
  | some info =>
    by_cases hkey : key = (user_id, task_id)
    · rw [if_pos hkey, hkey]
      exact AList.lookup_erase _ _
    · rw [if_neg hkey]
      exact AList.lookup_erase_ne hkey

theorem base_tasks_del_lookup (object : Object User Pk) (task_id : TaskId User) (additional_apiview : Apiview)
    (key : User × TaskId User) :
    ((object.base_tasks_del task_id additional_apiview).run exec s).2.hashes.lookup key =
      if key = (owner_id_from_task_id task_id, task_id) then none else s.hashes.lookup key := by
  rw [Object.base_tasks_del, Program.run_bind, ← pop_lookup]
  rfl

/-- The record under the owner that the task id names is removed. -/
theorem tasks_del_owner (object : Object User Pk) (task_id : TaskId User) (additional_apiview : Apiview) :
    ((object.tasks_del task_id additional_apiview).run exec s).2.hashes.lookup
      (owner_id_from_task_id task_id, task_id) = none := by
  rw [Object.tasks_del, Program.run_bind]
  have hpopped := base_tasks_del_lookup (s := s) object task_id additional_apiview (owner_id_from_task_id task_id, task_id)
  rw [if_pos rfl] at hpopped
  -- nothing is added after that
  have hrest : ∀ apiview, (object.pop_vm_task task_id apiview).All Op.AddsNothing :=
    fun apiview => pop_vm_task_all (fun _ => trivial) fun _ => trivial
  have hkept : ∀ (o : Op User Pk) (s : Redis User Pk), o.AddsNothing →
      s.hashes.lookup (owner_id_from_task_id task_id, task_id) = none →
        (exec o s).2.hashes.lookup (owner_id_from_task_id task_id, task_id) = none := by
    intro o s hadds hnone
    cases o with
    | hset_sadd user_id task_id' info => exact hadds.elim
    | hdel_srem user_id task_id' =>
      simp only [exec]
      by_cases hkey : (owner_id_from_task_id task_id, task_id) = (user_id, task_id')
      · rw [hkey]
        exact AList.lookup_erase _ _
      · rw [AList.lookup_erase_ne hkey]
        exact hnone
    | ready | hget | cache_set | finish => exact hnone
  exact (hrest _).run hkept hpopped

/-- An image does not look for its own record anywhere else. -/
theorem tasks_del_image {object : Object User Pk} {owner_id : User} {src_vm : Option (Pk × User)}
    (hmodel : object.model = .image owner_id src_vm) {task_id : TaskId User}
    (howner : owner_id ≠ owner_id_from_task_id task_id) (additional_apiview : Apiview) :
    ((object.tasks_del task_id additional_apiview).run exec s).2.hashes.lookup (owner_id, task_id) =
      s.hashes.lookup (owner_id, task_id) := by
  rw [Object.tasks_del, Program.run_bind]
  have hbase := base_tasks_del_lookup (s := s) object task_id additional_apiview (owner_id, task_id)
  rw [if_neg fun heq => howner (Prod.mk.inj heq).1] at hbase
  rw [← hbase]
  simp only [Object.pop_vm_task, hmodel]
  split
  · match src_vm with
    | none => rfl
    | some (_, vm_owner_id) =>
      simp only
      split
      · case isTrue hother =>
        rw [Program.run_bind]
        refine (pop_lookup vm_owner_id task_id (owner_id, task_id)).trans ?_
        rw [if_neg fun heq => hother (Prod.mk.inj heq).1.symm]
      · rfl
  · rfl

end removal

section registry

variable {objects : Pk → Object User Pk} {s : Redis User Pk}

/-- Every record of an object is under the user that the object adds it under. -/
def Redis.AddedOwn (objects : Pk → Object User Pk) (s : Redis User Pk) : Prop :=
  ∀ pk user_id task_id info, s.hashes.lookup (user_id, task_id) = some info → info.Of pk →
    user_id = (objects pk).added_by task_id

/-- Every record of an object is under the owner that the task id names. -/
def Redis.UnderOwner (s : Redis User Pk) : Prop :=
  ∀ pk user_id task_id info, s.hashes.lookup (user_id, task_id) = some info → info.Of pk →
    user_id = owner_id_from_task_id task_id

theorem removable_iff (hadded : s.AddedOwn objects) : s.Removable objects ↔ s.UnderOwner := by
  constructor
  · intro hremovable pk user_id task_id info hlookup hof
    by_contra howner
    have huser := hadded pk user_id task_id info hlookup hof
    unfold Object.added_by at huser
    cases hmodel : (objects pk).model with
    | vm | nodestorage =>
      rw [hmodel] at huser
      exact howner huser
    | image owner_id src_vm =>
      simp only [hmodel] at huser
      subst huser
      have hgone := hremovable pk user_id task_id info ∅ hlookup hof
      rw [tasks_del_image hmodel howner, hlookup] at hgone
      cases hgone
  · intro hunder pk user_id task_id info additional_apiview hlookup hof
    obtain rfl := hunder pk user_id task_id info hlookup hof
    exact tasks_del_owner (objects pk) task_id additional_apiview

theorem addedOwn_exec {o : Op User Pk} (hadded : s.AddedOwn objects) (ho : o.AddsOwn objects) :
    (exec o s).2.AddedOwn objects := by
  cases o with
  | hset_sadd user_id task_id info =>
    intro pk user_id' task_id' info' hlookup hof
    simp only [exec] at hlookup
    by_cases hkey : (user_id', task_id') = (user_id, task_id)
    · rw [hkey, AList.lookup_insert] at hlookup
      obtain rfl := Option.some.inj hlookup
      obtain ⟨rfl, rfl⟩ := Prod.mk.inj hkey
      exact ho pk hof
    · rw [AList.lookup_insert_ne hkey] at hlookup
      exact hadded pk user_id' task_id' info' hlookup hof
  | hdel_srem user_id task_id =>
    intro pk user_id' task_id' info' hlookup hof
    simp only [exec] at hlookup
    by_cases hkey : (user_id', task_id') = (user_id, task_id)
    · rw [hkey, AList.lookup_erase] at hlookup
      cases hlookup
    · rw [AList.lookup_erase_ne hkey] at hlookup
      exact hadded pk user_id' task_id' info' hlookup hof
  | ready | hget | cache_set | finish => exact hadded

/-- A record is added under the owner, or there is one that is not. -/
theorem underOwner_hset_iff (hunder : s.UnderOwner) (user_id : User) (task_id : TaskId User) (info : Info Pk) :
    (exec (.hset_sadd user_id task_id info) s).2.UnderOwner ↔ (Op.hset_sadd user_id task_id info).Keeps s := by
  simp only [exec]
  constructor
  · intro hunder'
    cases info with
    | object pk vm_pk msg apiview => exact hunder' pk user_id task_id _ (AList.lookup_insert _) rfl
    | other apiview => trivial
  · intro hkeeps pk user_id' task_id' info' hlookup hof
    by_cases hkey : (user_id', task_id') = (user_id, task_id)
    · rw [hkey, AList.lookup_insert] at hlookup
      obtain rfl := Option.some.inj hlookup
      obtain ⟨rfl, rfl⟩ := Prod.mk.inj hkey
      cases info with
      | object pk' vm_pk msg apiview => exact hkeeps
      | other apiview => exact hof.elim
    · rw [AList.lookup_insert_ne hkey] at hlookup
      exact hunder pk user_id' task_id' info' hlookup hof

theorem consistent_hset (hconsistent : s.Consistent) (user_id : User) (task_id : TaskId User) (info : Info Pk) :
    (exec (.hset_sadd user_id task_id info) s).2.Consistent := by
  intro task_id'
  simp only [exec, Finset.mem_insert, hconsistent task_id']
  constructor
  · rintro (rfl | ⟨user_id', hsome⟩)
    · exact ⟨user_id, by rw [AList.lookup_insert]; rfl⟩
    · by_cases hkey : (user_id', task_id') = (user_id, task_id)
      · exact ⟨user_id', by rw [hkey, AList.lookup_insert]; rfl⟩
      · exact ⟨user_id', by rw [AList.lookup_insert_ne hkey]; exact hsome⟩
  · rintro ⟨user_id', hsome⟩
    by_cases htask : task_id' = task_id
    · exact Or.inl htask
    · rw [AList.lookup_insert_ne fun heq => htask (Prod.mk.inj heq).2] at hsome
      exact Or.inr ⟨user_id', hsome⟩

/-- A task that another user has too is missing from the global set after its deletion. -/
theorem consistent_hdel_iff (hconsistent : s.Consistent) (user_id : User) (task_id : TaskId User) :
    (exec (.hdel_srem user_id task_id) s).2.Consistent ↔ (Op.hdel_srem user_id task_id : Op User Pk).Keeps s := by
  simp only [Redis.Consistent, exec, Finset.mem_erase]
  constructor
  · intro hconsistent' other hother
    by_contra hsome
    have hkey : (other, task_id) ≠ (user_id, task_id) := fun heq => hother (Prod.mk.inj heq).1
    refine ((hconsistent' task_id).mpr ⟨other, ?_⟩).1 rfl
    rw [AList.lookup_erase_ne hkey]
    exact Option.isSome_iff_ne_none.mpr hsome
  · intro hkeeps task_id'
    by_cases htask : task_id' = task_id
    · subst htask
      constructor
      · exact fun hmem => absurd rfl hmem.1
      · rintro ⟨user_id', hsome⟩
        by_cases huser : user_id' = user_id
        · subst huser
          rw [AList.lookup_erase] at hsome
          cases hsome
        · rw [AList.lookup_erase_ne fun heq => huser (Prod.mk.inj heq).1, hkeeps user_id' huser] at hsome
          cases hsome
    · have hkept : ∀ user_id', (s.hashes.erase (user_id, task_id)).lookup (user_id', task_id') =
          s.hashes.lookup (user_id', task_id') :=
        fun user_id' => AList.lookup_erase_ne fun heq => htask (Prod.mk.inj heq).2
      simp only [hkept, ← hconsistent task_id', htask, not_false_eq_true, ne_eq, true_and]

theorem underOwner_hdel (hunder : s.UnderOwner) (user_id : User) (task_id : TaskId User) :
    (exec (.hdel_srem user_id task_id) s).2.UnderOwner := by
  intro pk user_id' task_id' info' hlookup hof
  simp only [exec] at hlookup
  by_cases hkey : (user_id', task_id') = (user_id, task_id)
  · rw [hkey, AList.lookup_erase] at hlookup
    cases hlookup
  · rw [AList.lookup_erase_ne hkey] at hlookup
    exact hunder pk user_id' task_id' info' hlookup hof

theorem keeps_exec {o : Op User Pk} (hconsistent : s.Consistent) (hunder : s.UnderOwner) :
    (exec o s).2.Consistent ∧ (exec o s).2.UnderOwner ↔ o.Keeps s := by
  cases o with
  | hset_sadd user_id task_id info =>
    rw [← underOwner_hset_iff hunder]
    exact and_iff_right (consistent_hset hconsistent user_id task_id info)
  | hdel_srem user_id task_id =>
    rw [← consistent_hdel_iff hconsistent]
    exact and_iff_left (underOwner_hdel hunder user_id task_id)
  | ready | hget | cache_set | finish => exact iff_of_true ⟨hconsistent, hunder⟩ trivial

end registry

section runs

variable [DecidableEq Pid] {objects : Pk → Object User Pk}

/-- Both parts of what the registry is for. -/
structure Registered (objects : Pk → Object User Pk) (s : Redis User Pk) : Prop where
  consistent : s.Consistent
  removable : s.Removable objects

theorem registered_iff {s : Redis User Pk} (hadded : s.AddedOwn objects) :
    Registered objects s ↔ s.Consistent ∧ s.UnderOwner := by
  rw [← removable_iff hadded]
  exact ⟨fun hregistered => ⟨hregistered.consistent, hregistered.removable⟩, fun h => ⟨h.1, h.2⟩⟩

/-- The calls under way, and what they have added so far, are as the objects add it. -/
structure Own (objects : Pk → Object User Pk) (s : System Pid (Op User Pk) Op.Resp (Redis User Pk)) : Prop where
  pending : Pending (Op.AddsOwn objects) s
  added : s.store.AddedOwn objects

theorem own_step {s u : System Pid (Op User Pk) Op.Resp (Redis User Pk)} {e : Event Pid (Call User Pk)}
    (hown : Own objects s) (hstep : step exec (Call.program objects) s e = some u) : Own objects u := by
  refine ⟨hown.pending.step (program_addsOwn objects) hstep, ?_⟩
  rcases step_cases hstep with ⟨pid, call, -, -, rfl⟩ | ⟨pid, value, -, -, rfl⟩ | ⟨pid, o, next, -, hcall, rfl⟩
  · exact hown.added
  · exact hown.added
  · exact addedOwn_exec hown.added (hown.pending pid _ hcall).1

theorem registered_step {s u : System Pid (Op User Pk) Op.Resp (Redis User Pk)} {e : Event Pid (Call User Pk)}
    (hown : Own objects s) (hregistered : Registered objects s.store)
    (hstep : step exec (Call.program objects) s e = some u) : Registered objects u.store ↔ Keeps s e := by
  refine holds_step_iff hstep hregistered fun pid o next hcall => ?_
  obtain ⟨hconsistent, hunder⟩ := (registered_iff hown.added).mp hregistered
  have hadded := addedOwn_exec hown.added (hown.pending pid _ hcall).1
  rw [registered_iff hadded, keeps_exec hconsistent hunder]

theorem registered_empty : Registered objects (Redis.empty : Redis User Pk) := by
  constructor
  · intro task_id
    constructor
    · intro hmem
      cases hmem
    · rintro ⟨_, hsome⟩
      cases hsome
  · intro _ _ _ _ _ hlookup
    cases hlookup

/-- However the calls interleave, the set and the hashes agree and the objects remove what they
added, as long as records are added under the owner that the task id names and no task is deleted
while another user has it; the first operation that does otherwise breaks one of the two. -/
theorem registered_iff_keeps (objects : Pk → Object User Pk) :
    ∀ es (t : System Pid (Op User Pk) Op.Resp (Redis User Pk)),
      Run (step exec (Call.program objects)) Keeps (idle .empty) es t →
        Registered objects t.store ∧
          ∀ e u, step exec (Call.program objects) t e = some u → (Registered objects u.store ↔ Keeps t e) := by
  intro es t hrun
  have hpreserved : ∀ (s : System Pid (Op User Pk) Op.Resp (Redis User Pk)) e u,
      Own objects s ∧ Registered objects s.store → Keeps s e → step exec (Call.program objects) s e = some u →
        Own objects u ∧ Registered objects u.store := fun s e u hinv hkeeps hstep =>
    ⟨own_step hinv.1 hstep, (registered_step hinv.1 hinv.2 hstep).mpr hkeeps⟩
  have hidle : Own objects (idle .empty : System Pid (Op User Pk) Op.Resp (Redis User Pk)) :=
    ⟨pending_idle _ _, fun _ _ _ _ hlookup => by cases hlookup⟩
  obtain ⟨hown, hregistered⟩ := hrun.invariant hpreserved ⟨hidle, registered_empty⟩
  exact ⟨hregistered, fun e u hstep => registered_step hown hregistered hstep⟩

/-- A task of the owner 2. -/
def task_of_owner : TaskId ℕ := ⟨1, 2, 0⟩

def add_task : List (Event ℕ (Call ℕ ℕ)) :=
  [.start 0 (.tasks_add 0 task_of_owner ∅ "" ∅ "now"), .run 0, .run 0]

/-- A VM adds a record for the task. -/
theorem registered_vm : ∃ t : System ℕ (Op ℕ ℕ) Op.Resp (Redis ℕ ℕ),
    Run (step exec (Call.program fun _ => ⟨.vm, ∅⟩)) Keeps (idle .empty) add_task t ∧
      Registered (fun _ => ⟨.vm, ∅⟩) t.store := by
  have hrun : ∃ t, Run (step exec (Call.program fun _ => ⟨.vm, ∅⟩)) Keeps
      (idle .empty : System ℕ (Op ℕ ℕ) Op.Resp (Redis ℕ ℕ)) add_task t :=
    ⟨_, .cons trivial rfl (.cons (.of_run rfl trivial) rfl (.cons (.of_run rfl rfl) rfl (.nil _)))⟩
  obtain ⟨t, hrun⟩ := hrun
  exact ⟨t, hrun, (registered_iff_keeps _ _ t hrun).1⟩

/-- An image of the user 1 adds the record under its own owner and looks for it under the other. -/
theorem not_registered_image : ¬ ∀ (objects : ℕ → Object ℕ ℕ) es (t : System ℕ (Op ℕ ℕ) Op.Resp (Redis ℕ ℕ)),
    Run (step exec (Call.program objects)) anyStep (idle .empty) es t → Registered objects t.store := by
  intro hclaim
  let objects : ℕ → Object ℕ ℕ := fun _ => ⟨.image 1 none, ∅⟩
  have hexec : (transition.exec (step exec (Call.program objects)) anyStep
      (idle .empty : System ℕ (Op ℕ ℕ) Op.Resp (Redis ℕ ℕ)) add_task).any (fun t =>
        (t.store.hashes.lookup (1, task_of_owner)).any fun info =>
          match info with
          | .object pk _ _ _ => pk = 0
          | .other _ => false) = true := by decide +kernel
  obtain ⟨t, hrun, htest⟩ := Run.exists_of_exec hexec
  obtain ⟨info, hlookup, hinfo⟩ := (Option.any_eq_true _ _).mp htest
  have hof : info.Of 0 := by
    cases info with
    | object pk vm_pk msg apiview =>
      have hpk : pk = 0 := of_decide_eq_true hinfo
      exact hpk
    | other apiview => cases hinfo
  have hgone := (hclaim objects _ t hrun).removable 0 1 task_of_owner info ∅ hlookup hof
  have hmodel : (objects 0).model = .image 1 none := rfl
  rw [tasks_del_image hmodel (by decide), hlookup] at hgone
  cases hgone

end runs

end que.user_tasks
