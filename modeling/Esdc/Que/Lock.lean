import Esdc.Lib.ExpiringStore

open expiring_store

namespace que.lock

variable {K T : Type} [DecidableEq K] [DecidableEq T]

/-- The keys of redis that task locks live in: lock key to task id, and the
reverse relation from a task id (`_get_reverse_key`) to the lock key. -/
structure Redis (K T : Type) where
  locks : Store K T
  reverse : Store T K

def Redis.empty : Redis K T := ⟨.empty, .empty⟩

def Redis.advance (redis : Redis K T) (delay : Nat) : Redis K T :=
  ⟨redis.locks.advance delay, redis.reverse.advance delay⟩

/-- The pipeline of `redis_set` and its first answer. A missing timeout is `0`.
EXPIRE is sent whatever SETNX answers. -/
def redis_set {V : Type} {K : Type} [DecidableEq K] (store : Store K V) (key : K) (value : V)
    (timeout : Nat) (nx : Bool) : Bool × Store K V :=
  let answer := if nx then !store.has key else true
  let stored := if nx then store.setnx key value else store.put key value
  (answer, if timeout ≠ 0 then stored.expire key timeout else stored)

/-- `reverse_key` holds the task id whose reverse key has been cached. -/
structure TaskLock (K T : Type) where
  key : K
  reverse_key : Option T

/-- The redis command of `TaskLock.acquire` that decides it. -/
def TaskLock.acquire (lock : TaskLock K T) (value : T) (timeout : Nat) (redis : Redis K T) :
    Bool × Redis K T :=
  let (res, store) := redis_set redis.locks lock.key value timeout true
  (res, { redis with locks := store })

/-- Follows a successful `acquire` with `save_reverse`. -/
def TaskLock._set_reverse (lock : TaskLock K T) (value : T) (timeout : Nat) (redis : Redis K T) :
    Redis K T :=
  { redis with reverse := (redis_set redis.reverse value lock.key timeout false).2 }

/-- The next redis command of a running `TaskLock.delete`. -/
inductive DeletePc (T : Type)
  | get
  | delete (value : Option T)
  | _delete_reverse (rkey : Option T)
  deriving DecidableEq

/-- One redis command of `TaskLock.delete`; `none` when the call returns. The
value that `get` saw is compared only if the caller gave a `check_value`. -/
def TaskLock.delete (lock : TaskLock K T) (check_value : Option T) (redis : Redis K T) :
    DeletePc T → Redis K T × Option (DeletePc T)
  | .get =>
    let value := redis.locks.get lock.key
    if check_value ≠ none ∧ check_value ≠ value then (redis, none)
    else (redis, some (.delete value))
  | .delete value =>
    let res := redis.locks.has lock.key
    ({ redis with locks := redis.locks.delete lock.key },
      if res then some (._delete_reverse (lock.reverse_key <|> value)) else none)
  | ._delete_reverse rkey =>
    (match rkey with
      | some task_id => { redis with reverse := redis.reverse.delete task_id }
      | none => redis, none)

/-- The next redis command of a running `TaskLock.task_check`. -/
inductive CheckPc
  | has
  | persist
  | persist_reverse
  deriving DecidableEq

/-- What one redis command of `task_check` leads to. -/
inductive CheckResult
  | next (pc : CheckPc)
  | passed
  | raised
  deriving DecidableEq

/-- One redis command of `TaskLock.task_check`. It asks whether the key exists,
not whose task id is stored in it. -/
def TaskLock.task_check (lock : TaskLock K T) (redis : Redis K T) :
    CheckPc → Redis K T × CheckResult
  | .has => (redis, if redis.locks.has lock.key then .next .persist else .raised)
  | .persist => ({ redis with locks := redis.locks.persist lock.key }, .next .persist_reverse)
  | .persist_reverse =>
    (match lock.reverse_key with
      | some task_id => { redis with reverse := redis.reverse.persist task_id }
      | none => redis, .passed)

/-- SETNX stores its value only under a key that is free; EXPIRE touches no value. -/
theorem redis_set_nx_get_eq {V : Type} {store : Store K V} {key other : K} {value held : V}
    {timeout : Nat} (hheld : (redis_set store key value timeout true).2.get other = some held) :
    store.get other = some held ∨ (key = other ∧ value = held ∧ store.get other = none) := by
  have hset : (store.setnx key value).get other = some held := by
    by_cases htimeout : timeout ≠ 0 <;> simpa [redis_set, htimeout] using hheld
  rw [Store.get_setnx] at hset
  split at hset
  next hfree =>
    cases hset
    exact .inr ⟨hfree.1.symm, rfl, hfree.2⟩
  next => exact .inl hset

theorem redis_set_nx_get_self {V : Type} {store : Store K V} {key : K} {value : V} {timeout : Nat}
    (hset : (redis_set store key value timeout true).1 = true) :
    (redis_set store key value timeout true).2.get key = some value := by
  have hfree : store.has key = false := by simpa [redis_set] using hset
  unfold redis_set
  by_cases htimeout : timeout ≠ 0 <;> simp [htimeout, Store.setnx, hfree, Store.get_put]

end que.lock
