import Mathlib.Data.Fintype.Basic
import Esdc.Lib.Transition
import Esdc.Que.Lock

open expiring_store que.lock transition

namespace api.task.mgmt_lock

/-- The arguments of the decorator, with the lock key of the calls. Times are in milliseconds. -/
structure Decorator (K : Type) where
  lock_key : K
  timeout : Nat
  wait_for_release : Bool

/-- Where a call of the decorated function is. A call that waits has slept for `wait`
when it wakes up; a call in its body has acquired the lock `elapsed` ago. -/
inductive Phase (C : Type)
  | idle
  | waiting (wait : Nat) (sleep_seconds : List Nat) (asleep : Nat)
  | body (elapsed : Nat)
  | release (pc : DeletePc C)
  | returned
  deriving DecidableEq

/-- The lock in redis and the calls. The task id under which a call acquires the lock
is represented by the call. -/
structure State (K C : Type) where
  redis : Redis K C
  phase : C → Phase C

inductive Event (C : Type)
  | call (c : C)
  | poll (c : C)
  | finish (c : C)
  | delete (c : C)
  | time (delay : Nat)

def sleep_seconds : List Nat := [3000, 2000, 1500]

/-- The time of the next sleep, the last one of the list while there are several. -/
def next_sleep (sleep_seconds : List Nat) : Nat × List Nat :=
  if sleep_seconds.length > 1 then (sleep_seconds.getLastD 0, sleep_seconds.dropLast)
  else (sleep_seconds.headD 0, sleep_seconds)

variable {K C : Type}

def Decorator.wait_loop (dec : Decorator K) (wait : Nat) (sleep_seconds : List Nat) : Phase C :=
  if wait < dec.timeout then
    let (sleep_time, rest) := next_sleep sleep_seconds
    .waiting (wait + sleep_time) rest sleep_time
  else .returned

/-- What a call does after its first attempt has failed. -/
def Decorator.refused (dec : Decorator K) : Phase C :=
  if dec.wait_for_release then dec.wait_loop 0 sleep_seconds else .returned

variable [DecidableEq K] [DecidableEq C]

def Decorator.task_lock (dec : Decorator K) : TaskLock K C := ⟨dec.lock_key, none⟩

def Decorator.acquire_lock (dec : Decorator K) (c : C) (refused : Phase C) (s : State K C) : State K C :=
  let (res, redis) := dec.task_lock.acquire c dec.timeout s.redis
  { redis, phase := Function.update s.phase c (if res then .body 0 else refused) }

/-- One redis command of `task_lock.delete`, which has no `check_value`. The reverse
key is not deleted. -/
def Decorator.delete (dec : Decorator K) (c : C) (pc : DeletePc C) (s : State K C) : State K C :=
  let (redis, next) := dec.task_lock.delete none s.redis pc
  { redis, phase := Function.update s.phase c (match next with
      | some (.delete value) => .release (.delete value)
      | _ => .returned) }

def Phase.advance (delay : Nat) : Phase C → Phase C
  | .waiting wait sleep_seconds asleep => .waiting wait sleep_seconds (asleep - delay)
  | .body elapsed => .body (elapsed + delay)
  | phase => phase

def Decorator.step (dec : Decorator K) (s : State K C) : Event C → Option (State K C)
  | .call c => match s.phase c with
    | .idle => some (dec.acquire_lock c dec.refused s)
    | _ => none
  | .poll c => match s.phase c with
    | .waiting wait sleep_seconds 0 => some (dec.acquire_lock c (dec.wait_loop wait sleep_seconds) s)
    | _ => none
  | .finish c => match s.phase c with
    | .body _ => some { s with phase := Function.update s.phase c (.release .get) }
    | _ => none
  | .delete c => match s.phase c with
    | .release pc => some (dec.delete c pc s)
    | _ => none
  | .time delay => some ⟨s.redis.advance delay, fun c => (s.phase c).advance delay⟩

def State.init : State K C := ⟨.empty, fun _ => .idle⟩

def Phase.elapsed : Phase C → Option Nat
  | .body elapsed => some elapsed
  | _ => none

def Phase.releasing : Phase C → Bool
  | .release _ => true
  | _ => false

/-- Between its acquire and the end of the release. -/
def Phase.busy (phase : Phase C) : Bool := phase.elapsed.isSome || phase.releasing

/-- Every body finishes before the timeout has run out since its acquire. -/
def Decorator.Finishes (dec : Decorator K) (s : State K C) : Event C → Prop
  | .time delay => ∀ c, ∀ elapsed ∈ (s.phase c).elapsed, dec.timeout = 0 ∨ elapsed + delay < dec.timeout
  | _ => True

/-- A call finds the lock free only while no call has finished its body and not yet
sent its DELETE. -/
def Decorator.Released (dec : Decorator K) (s : State K C) : Event C → Prop
  | .call _ | .poll _ => s.redis.locks.has dec.lock_key = false → ∀ c, (s.phase c).releasing = false
  | _ => True

instance (dec : Decorator K) [Fintype C] : DecidableRel (dec.Finishes : State K C → Event C → Prop) :=
  fun _ e => match e with
    | .time _ => inferInstanceAs (Decidable (∀ _, _))
    | .call _ | .poll _ | .finish _ | .delete _ => isTrue trivial

instance (dec : Decorator K) [Fintype C] : DecidableRel (dec.Released : State K C → Event C → Prop) :=
  fun _ e => match e with
    | .call _ | .poll _ => inferInstanceAs (Decidable (_ → _))
    | .time _ | .finish _ | .delete _ => isTrue trivial

/-- What the stored lock says about the calls. The lock of a body cannot expire before
the body has to be finished, as every attempt sets its time to live anew. -/
structure Decorator.Locked (dec : Decorator K) (s : State K C) : Prop where
  body : ∀ c, ∀ elapsed ∈ (s.phase c).elapsed, ∃ ttl, s.redis.locks dec.lock_key = some ⟨c, ttl⟩ ∧
    (dec.timeout = 0 → ttl = none) ∧ ∀ t ∈ ttl, dec.timeout ≤ elapsed + t
  release : ∀ c, (s.phase c).releasing = true → ∀ entry ∈ s.redis.locks dec.lock_key, entry.value = c
  alone : ∀ c c', (s.phase c).busy = true → (s.phase c').busy = true → c = c'

section store

variable {V : Type} {store : Store K V} {key : K} {entry : Entry V}

/-- A refused SETNX is followed by EXPIRE all the same. -/
theorem redis_set_nx_held (hheld : store key = some entry) (value : V) (timeout : Nat) :
    (redis_set store key value timeout true).1 = false ∧
      (redis_set store key value timeout true).2 key =
        some ⟨entry.value, if timeout = 0 then entry.ttl else some timeout⟩ := by
  have hhas : store.has key = true := by simp [Store.has, hheld]
  by_cases htimeout : timeout = 0
  · simp [redis_set, Store.setnx, hhas, htimeout, hheld]
  · simp [redis_set, Store.setnx, hhas, htimeout, hheld, Store.expire]

theorem redis_set_nx_free (hfree : store key = none) (value : V) (timeout : Nat) :
    (redis_set store key value timeout true).1 = true ∧
      (redis_set store key value timeout true).2 key =
        some ⟨value, if timeout = 0 then none else some timeout⟩ := by
  have hhas : store.has key = false := by simp [Store.has, hfree]
  by_cases htimeout : timeout = 0
  · simp [redis_set, Store.setnx, hhas, htimeout, Store.put]
  · simp [redis_set, Store.setnx, hhas, htimeout, Store.put, Store.expire]

omit [DecidableEq K] in
theorem advance_of_lasting (hheld : store key = some entry) {delay : Nat} (hlasts : ∀ t ∈ entry.ttl, delay < t) :
    store.advance delay key = some ⟨entry.value, entry.ttl.map (· - delay)⟩ := by
  have hexpires : ¬ store.Expires delay key := by
    rintro ⟨t, httl, ht⟩
    have hmem : t ∈ entry.ttl := by simpa [Store.ttl, hheld] using httl
    have := hlasts t hmem
    omega
  simp [Store.advance, hexpires, hheld]

omit [DecidableEq K] in
theorem value_of_advance {delay : Nat} (hentry : entry ∈ store.advance delay key) :
    ∃ before ∈ store key, before.value = entry.value := by
  unfold Store.advance at hentry
  split at hentry
  · cases hentry
  · obtain ⟨before, hbefore, rfl⟩ := Option.map_eq_some_iff.mp hentry
    exact ⟨before, hbefore, rfl⟩

end store

section phases

variable {dec : Decorator K} {s : State K C} {c : C}

omit [DecidableEq K] [DecidableEq C] in
@[simp] theorem elapsed_wait_loop (wait : Nat) (sleeps : List Nat) :
    (dec.wait_loop wait sleeps : Phase C).elapsed = none := by
  unfold Decorator.wait_loop
  split <;> rfl

omit [DecidableEq K] [DecidableEq C] in
@[simp] theorem releasing_wait_loop (wait : Nat) (sleeps : List Nat) :
    (dec.wait_loop wait sleeps : Phase C).releasing = false := by
  unfold Decorator.wait_loop
  split <;> rfl

omit [DecidableEq K] [DecidableEq C] in
@[simp] theorem elapsed_refused : (dec.refused : Phase C).elapsed = none := by
  unfold Decorator.refused
  split
  · exact elapsed_wait_loop 0 sleep_seconds
  · rfl

omit [DecidableEq K] [DecidableEq C] in
@[simp] theorem releasing_refused : (dec.refused : Phase C).releasing = false := by
  unfold Decorator.refused
  split
  · exact releasing_wait_loop 0 sleep_seconds
  · rfl

omit [DecidableEq C] in
theorem elapsed_advance (phase : Phase C) (delay : Nat) :
    (phase.advance delay).elapsed = phase.elapsed.map (· + delay) := by
  cases phase <;> rfl

omit [DecidableEq C] in
theorem releasing_advance (phase : Phase C) (delay : Nat) : (phase.advance delay).releasing = phase.releasing := by
  cases phase <;> rfl

omit [DecidableEq K] [DecidableEq C] in
theorem Decorator.Locked.init : dec.Locked (.init : State K C) where
  body _ _ helapsed := by cases helapsed
  release _ hreleasing := by cases hreleasing
  alone _ _ hbusy := by cases hbusy

theorem acquire_of_held (hlocked : dec.Locked s) {entry : Entry C}
    (hheld : s.redis.locks dec.lock_key = some entry) {refused : Phase C} (helapsed : refused.elapsed = none)
    (hreleasing : refused.releasing = false) : dec.Locked (dec.acquire_lock c refused s) := by
  obtain ⟨hres, hstore⟩ := redis_set_nx_held hheld c dec.timeout
  have hphase : (dec.acquire_lock c refused s).phase = Function.update s.phase c refused := by
    simp [Decorator.acquire_lock, TaskLock.acquire, Decorator.task_lock, hres]
  have hlock : (dec.acquire_lock c refused s).redis.locks dec.lock_key =
      some ⟨entry.value, if dec.timeout = 0 then entry.ttl else some dec.timeout⟩ := hstore
  have hother : ∀ d, (s.phase d).elapsed = ((dec.acquire_lock c refused s).phase d).elapsed ∨
      ((dec.acquire_lock c refused s).phase d).elapsed = none := by
    intro d
    rw [hphase]
    by_cases hd : d = c
    · subst hd
      rw [Function.update_self]
      exact .inr helapsed
    · rw [Function.update_of_ne hd]
      exact .inl rfl
  have hother' : ∀ d, ((dec.acquire_lock c refused s).phase d).releasing = true → (s.phase d).releasing = true := by
    intro d hd
    rw [hphase] at hd
    by_cases hdc : d = c
    · subst hdc
      rw [Function.update_self, hreleasing] at hd
      cases hd
    · rwa [Function.update_of_ne hdc] at hd
  constructor
  · intro d elapsed hd
    rcases hother d with heq | hnone
    · rw [← heq] at hd
      obtain ⟨ttl, hentry, hzero, hlasts⟩ := hlocked.body d elapsed hd
      rw [hheld] at hentry
      cases hentry
      refine ⟨_, hlock, fun htimeout => by rw [if_pos htimeout, hzero htimeout], ?_⟩
      intro t ht
      by_cases htimeout : dec.timeout = 0
      · rw [htimeout]
        omega
      · rw [if_neg htimeout] at ht
        cases ht
        omega
    · rw [hnone] at hd
      cases hd
  · intro d hd entry' hentry'
    rw [hlock] at hentry'
    cases hentry'
    exact hlocked.release d (hother' d hd) entry hheld
  · intro d d' hd hd'
    have hbusy : ∀ e, ((dec.acquire_lock c refused s).phase e).busy = true → (s.phase e).busy = true := by
      intro e he
      rw [Phase.busy, Bool.or_eq_true] at he ⊢
      rcases he with he | he
      · rcases hother e with heq | hnone
        · rw [heq]
          exact .inl he
        · rw [hnone] at he
          cases he
      · exact .inr (hother' e he)
    exact hlocked.alone d d' (hbusy d hd) (hbusy d' hd')

theorem acquire_of_free (hlocked : dec.Locked s) (hfree : s.redis.locks dec.lock_key = none)
    (hreleased : ∀ d, (s.phase d).releasing = false) (refused : Phase C) :
    dec.Locked (dec.acquire_lock c refused s) := by
  obtain ⟨hres, hstore⟩ := redis_set_nx_free hfree c dec.timeout
  have hphase : (dec.acquire_lock c refused s).phase = Function.update s.phase c (.body 0) := by
    simp [Decorator.acquire_lock, TaskLock.acquire, Decorator.task_lock, hres]
  have hlock : (dec.acquire_lock c refused s).redis.locks dec.lock_key =
      some ⟨c, if dec.timeout = 0 then none else some dec.timeout⟩ := hstore
  -- a body would hold the lock
  have hidle : ∀ d, (s.phase d).elapsed = none := by
    intro d
    cases helapsed : (s.phase d).elapsed with
    | none => rfl
    | some elapsed =>
      obtain ⟨ttl, hentry, _⟩ := hlocked.body d elapsed helapsed
      rw [hfree] at hentry
      cases hentry
  have honly : ∀ d, ((dec.acquire_lock c refused s).phase d).busy = true → d = c := by
    intro d hd
    by_cases hdc : d = c
    · exact hdc
    · rw [hphase, Function.update_of_ne hdc, Phase.busy, hidle d, hreleased d] at hd
      cases hd
  constructor
  · intro d elapsed hd
    have hdc := honly d (by rw [Phase.busy, Option.mem_def.mp hd]; rfl)
    subst hdc
    rw [hphase, Function.update_self] at hd
    cases hd
    refine ⟨_, hlock, fun htimeout => if_pos htimeout, ?_⟩
    intro t ht
    by_cases htimeout : dec.timeout = 0
    · rw [htimeout]
      omega
    · rw [if_neg htimeout] at ht
      cases ht
      omega
  · intro d hd entry hentry
    have hdc := honly d (by rw [Phase.busy, hd, Bool.or_true])
    rw [hlock] at hentry
    cases hentry
    exact hdc.symm
  · intro d d' hd hd'
    rw [honly d hd, honly d' hd']

theorem acquire_locked (hlocked : dec.Locked s)
    (hreleased : s.redis.locks.has dec.lock_key = false → ∀ d, (s.phase d).releasing = false)
    {refused : Phase C} (helapsed : refused.elapsed = none) (hreleasing : refused.releasing = false) :
    dec.Locked (dec.acquire_lock c refused s) := by
  cases hlock : s.redis.locks dec.lock_key with
  | some entry => exact acquire_of_held hlocked hlock helapsed hreleasing
  | none =>
    apply acquire_of_free hlocked hlock
    apply hreleased
    simp [Store.has, hlock]

omit [DecidableEq K] in
theorem finish_locked (hlocked : dec.Locked s) {elapsed : Nat} (hbody : s.phase c = .body elapsed) :
    dec.Locked { s with phase := Function.update s.phase c (.release .get) } := by
  have hphase : ∀ d, d ≠ c → Function.update s.phase c (.release .get) d = s.phase d :=
    fun d hd => Function.update_of_ne hd _ _
  obtain ⟨ttl, hentry, _⟩ := hlocked.body c elapsed (by rw [hbody]; rfl)
  constructor
  · intro d elapsed' hd
    change elapsed' ∈ (Function.update s.phase c (.release .get) d).elapsed at hd
    by_cases hdc : d = c
    · subst hdc
      rw [Function.update_self] at hd
      cases hd
    · rw [hphase d hdc] at hd
      exact hlocked.body d elapsed' hd
  · intro d hd entry hmem
    change (Function.update s.phase c (.release .get) d).releasing = true at hd
    by_cases hdc : d = c
    · rw [Option.mem_def, hentry] at hmem
      cases hmem
      exact hdc.symm
    · rw [hphase d hdc] at hd
      exact hlocked.release d hd entry hmem
  · have hbusy : ∀ d, (Function.update s.phase c (.release .get) d).busy = true → (s.phase d).busy = true := by
      intro d hd
      by_cases hdc : d = c
      · subst hdc
        rw [hbody]
        rfl
      · rwa [hphase d hdc] at hd
    intro d d' hd hd'
    exact hlocked.alone d d' (hbusy d hd) (hbusy d' hd')

/-- Only the DELETE changes the lock, and only the call that sends it has had the lock. -/
theorem delete_locked (hlocked : dec.Locked s) {pc : DeletePc C} (hrelease : s.phase c = .release pc) :
    dec.Locked (dec.delete c pc s) := by
  have hbusy : (s.phase c).busy = true := by
    rw [hrelease]
    rfl
  have hphase : ∀ d, ((dec.delete c pc s).phase d).elapsed.isSome = true ∨
      ((dec.delete c pc s).phase d).releasing = true → d = c := by
    intro d hd
    by_cases hdc : d = c
    · exact hdc
    · have heq : (dec.delete c pc s).phase d = s.phase d := Function.update_of_ne hdc _ _
      rw [heq, ← Bool.or_eq_true] at hd
      exact hlocked.alone d c hd hbusy
  have hstore : ∀ entry ∈ (dec.delete c pc s).redis.locks dec.lock_key, entry.value = c := by
    intro entry hentry
    cases pc with
    | get => exact hlocked.release c (by rw [hrelease]; rfl) entry hentry
    | delete value =>
      have hnone : (dec.delete c (.delete value) s).redis.locks dec.lock_key = none := Function.update_self _ _ _
      rw [hnone] at hentry
      cases hentry
    | _delete_reverse rkey =>
      apply hlocked.release c (by rw [hrelease]; rfl) entry
      cases rkey with
      | none => exact hentry
      | some task_id => exact hentry
  have hbody : ((dec.delete c pc s).phase c).elapsed = none := by
    have heq : (dec.delete c pc s).phase c = match (dec.task_lock.delete none s.redis pc).2 with
      | some (.delete value) => .release (.delete value)
      | _ => .returned := Function.update_self _ _ _
    rw [heq]
    split <;> rfl
  constructor
  · intro d elapsed hd
    have hdc := hphase d (.inl (by rw [Option.mem_def.mp hd]; rfl))
    subst hdc
    rw [hbody] at hd
    cases hd
  · intro d hd entry hentry
    rw [hphase d (.inr hd)]
    exact hstore entry hentry
  · intro d d' hd hd'
    rw [Phase.busy, Bool.or_eq_true] at hd hd'
    rw [hphase d hd, hphase d' hd']

omit [DecidableEq K] [DecidableEq C] in
theorem time_locked (hlocked : dec.Locked s) {delay : Nat} (hfinishes : dec.Finishes s (.time delay)) :
    dec.Locked ⟨s.redis.advance delay, fun c => (s.phase c).advance delay⟩ := by
  constructor
  · intro c elapsed hc
    rw [elapsed_advance] at hc
    obtain ⟨before, hbefore, rfl⟩ := Option.map_eq_some_iff.mp hc
    obtain ⟨ttl, hentry, hzero, hlasts⟩ := hlocked.body c before hbefore
    have hdelay : ∀ t ∈ ttl, delay < t := by
      intro t ht
      have hbound := hlasts t ht
      rcases hfinishes c before hbefore with htimeout | hbefore'
      · rw [hzero htimeout] at ht
        cases ht
      · omega
    refine ⟨_, advance_of_lasting hentry hdelay, ?_, ?_⟩
    · intro htimeout
      rw [hzero htimeout]
      rfl
    · intro t ht
      obtain ⟨t', ht', rfl⟩ := Option.map_eq_some_iff.mp ht
      have hbound := hlasts t' ht'
      have hlt := hdelay t' ht'
      omega
  · intro c hc entry hentry
    rw [releasing_advance] at hc
    obtain ⟨before, hbefore, hvalue⟩ := value_of_advance hentry
    rw [← hvalue]
    exact hlocked.release c hc before hbefore
  · intro c c' hc hc'
    rw [Phase.busy, elapsed_advance, releasing_advance, Option.isSome_map] at hc hc'
    exact hlocked.alone c c' hc hc'

theorem step_locked (hlocked : dec.Locked s) {e : Event C} {s' : State K C} (hfinishes : dec.Finishes s e)
    (hreleased : dec.Released s e) (hstep : dec.step s e = some s') : dec.Locked s' := by
  cases e with
  | call c =>
    simp only [Decorator.step] at hstep
    split at hstep
    · cases hstep
      exact acquire_locked hlocked hreleased elapsed_refused releasing_refused
    · cases hstep
  | poll c =>
    simp only [Decorator.step] at hstep
    split at hstep
    · cases hstep
      exact acquire_locked hlocked hreleased (elapsed_wait_loop _ _) (releasing_wait_loop _ _)
    · cases hstep
  | finish c =>
    simp only [Decorator.step] at hstep
    split at hstep
    next hbody =>
      cases hstep
      exact finish_locked hlocked hbody
    next => cases hstep
  | delete c =>
    simp only [Decorator.step] at hstep
    split at hstep
    next hrelease =>
      cases hstep
      exact delete_locked hlocked hrelease
    next => cases hstep
  | time delay =>
    cases hstep
    exact time_locked hlocked hfinishes

end phases

/-- An attempt that finds the lock held leaves its value and its time to live alone exactly
if there is no timeout, or none of it has passed since it was last set. -/
theorem attempt_unchanged_iff {dec : Decorator K} {s s' : State K C} {c : C} {entry : Entry C}
    (hstep : dec.step s (.call c) = some s' ∨ dec.step s (.poll c) = some s')
    (hheld : s.redis.locks dec.lock_key = some entry) :
    s'.redis.locks dec.lock_key = some entry ↔ dec.timeout = 0 ∨ entry.ttl = some dec.timeout := by
  have hlock : s'.redis.locks dec.lock_key =
      some ⟨entry.value, if dec.timeout = 0 then entry.ttl else some dec.timeout⟩ := by
    have hset := (redis_set_nx_held hheld c dec.timeout).2
    simp only [Decorator.step] at hstep
    rcases hstep with hstep | hstep
    · split at hstep <;> cases hstep
      exact hset
    · split at hstep <;> cases hstep
      exact hset
  obtain ⟨value, ttl⟩ := entry
  rw [hlock]
  by_cases htimeout : dec.timeout = 0
  · simp [htimeout]
  · simp [htimeout, eq_comm]

/-- In every run in which each body finishes in time, and no call acquires the lock before
the last one to have had it has sent its DELETE: at most one body runs, a body runs only
while its call has the lock, and a DELETE removes no lock of another call. An attempt
that fails is without effect exactly as `attempt_unchanged_iff` says. -/
theorem mgmt_lock_exclusive {dec : Decorator K} {events : List (Event C)} {s : State K C}
    (hrun : Run dec.step (fun s e => dec.Finishes s e ∧ dec.Released s e) .init events s) :
    (∀ c c', (s.phase c).elapsed.isSome = true → (s.phase c').elapsed.isSome = true → c = c') ∧
      (∀ c, (s.phase c).elapsed.isSome = true → s.redis.locks.get dec.lock_key = some c) ∧
      (∀ c value, s.phase c = .release (.delete value) →
        ∀ owner ∈ s.redis.locks.get dec.lock_key, owner = c) ∧
      ∀ c s' entry, (dec.step s (.call c) = some s' ∨ dec.step s (.poll c) = some s') →
        s.redis.locks dec.lock_key = some entry →
        (s'.redis.locks dec.lock_key = some entry ↔ dec.timeout = 0 ∨ entry.ttl = some dec.timeout) := by
  have hlocked : dec.Locked s := hrun.invariant
    (fun _ _ _ hlocked hok hstep => step_locked hlocked hok.1 hok.2 hstep) Decorator.Locked.init
  refine ⟨?_, ?_, ?_, fun c s' entry => attempt_unchanged_iff⟩
  · intro c c' hc hc'
    apply hlocked.alone
    · rw [Phase.busy, hc, Bool.true_or]
    · rw [Phase.busy, hc', Bool.true_or]
  · intro c hc
    obtain ⟨elapsed, helapsed⟩ := Option.isSome_iff_exists.mp hc
    obtain ⟨ttl, hentry, _⟩ := hlocked.body c elapsed helapsed
    rw [Store.get, hentry]
    rfl
  · intro c value hc owner howner
    obtain ⟨entry, hentry, rfl⟩ := Option.map_eq_some_iff.mp howner
    exact hlocked.release c (by rw [hc]; rfl) entry hentry

/-- A minute's lock for calls that wait. -/
def minute : Decorator Unit := ⟨(), 60000, true⟩

theorem mgmt_lock_exclusive_handover :
    ∃ s : State Unit Bool, Run minute.step (fun s e => minute.Finishes s e ∧ minute.Released s e) .init
        [.call true, .call false, .time 1500, .finish true, .delete true, .delete true, .poll false] s ∧
      (∀ c c', (s.phase c).elapsed.isSome = true → (s.phase c').elapsed.isSome = true → c = c') ∧
      s.phase false = .body 0 := by
  obtain ⟨s, hrun, htest⟩ : ∃ s : State Unit Bool,
      Run minute.step (fun s e => minute.Finishes s e ∧ minute.Released s e) .init
        [.call true, .call false, .time 1500, .finish true, .delete true, .delete true, .poll false] s ∧
      decide (s.phase false = .body 0) = true := Run.exists_of_exec (by decide)
  exact ⟨s, hrun, (mgmt_lock_exclusive hrun).1, of_decide_eq_true htest⟩

/-- A second call that fails to acquire the lock after a second gives it its whole timeout
again. And a body that finishes a millisecond before the timeout, after which the lock
expires and is acquired by a second call, deletes the lock of the second call, so that
a third one runs beside it. Every body finishes in time. -/
theorem mgmt_lock_not_exclusive :
    (∃ s s' : State Unit (Fin 3), Run minute.step minute.Finishes .init [.call 0, .time 1000] s ∧
      minute.step s (.call 1) = some s' ∧ s.redis.locks () = some ⟨0, some 59000⟩ ∧
      s'.redis.locks () = some ⟨0, some 60000⟩ ∧ s'.phase 1 = .waiting 1500 [3000, 2000] 1500) ∧
    ∃ s : State Unit (Fin 3), Run minute.step minute.Finishes .init
        [.call 0, .time 59999, .finish 0, .time 1, .call 1, .delete 0, .delete 0, .call 2] s ∧
      s.phase 1 = .body 0 ∧ s.phase 2 = .body 0 := by
  constructor
  · refine ⟨_, _, .cons (by decide) rfl (.cons (by decide) rfl (.nil _)), rfl, ?_, ?_, ?_⟩
    · decide
    · decide
    · decide
  · obtain ⟨s, hrun, htest⟩ : ∃ s : State Unit (Fin 3), Run minute.step minute.Finishes .init
        [.call 0, .time 59999, .finish 0, .time 1, .call 1, .delete 0, .delete 0, .call 2] s ∧
        decide (s.phase 1 = .body 0 ∧ s.phase 2 = .body 0) = true := Run.exists_of_exec (by decide)
    exact ⟨s, hrun, of_decide_eq_true htest⟩

end api.task.mgmt_lock
