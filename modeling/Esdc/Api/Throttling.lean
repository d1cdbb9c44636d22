import Mathlib
import Esdc.Lib.SlidingWindow
import Esdc.Lib.Text

namespace api.throttling

open text (Text isspace fields strip words join)
open sliding_window

section definitions

inductive Scope
  | anon
  | user
  deriving DecidableEq

def Scope.name : Scope → Text
  | .anon => ['a', 'n', 'o', 'n']
  | .user => ['u', 's', 'e', 'r']

structure Request where
  /-- The primary key of an authenticated user. -/
  user : Option ℕ
  HTTP_X_FORWARDED_FOR : Option Text
  REMOTE_ADDR : Option Text
  disable_throttling : Bool
  /-- When the throttle of the scope reads its timer. -/
  now : Scope → ℚ

structure Settings where
  NUM_PROXIES : Option ℕ
  DEFAULT_THROTTLE_RATES : Scope → Option Text

def get_ident (settings : Settings) (request : Request) : Option Text :=
  match settings.NUM_PROXIES, request.HTTP_X_FORWARDED_FOR with
  | some _, none => request.REMOTE_ADDR
  | some num_proxies, some xff =>
    if num_proxies = 0 then request.REMOTE_ADDR
    else
      let addrs := fields ',' xff
      (addrs[addrs.length - min num_proxies addrs.length]?).map (strip isspace)
  | none, some xff => if xff = [] then request.REMOTE_ADDR else some (words isspace xff).flatten
  | none, none => request.REMOTE_ADDR

structure Rate where
  num_requests : ℤ
  duration : ℚ
  deriving DecidableEq

/-- The duration that the first character of a period stands for. -/
def period : Char → Option ℚ
  | 's' => some 1
  | 'm' => some 60
  | 'h' => some 3600
  | 'd' => some 86400
  | _ => none

def parse_rate (rate : Text) : Option Rate :=
  match fields '/' rate with
  | [num, c :: _] => do
    let num_requests ← text.int isspace num
    let duration ← period c
    some ⟨num_requests, duration⟩
  | _ => none

structure Throttle where
  scope : Scope
  rate : Option Rate

/-- The throttle of a scope, unless the rate of its scope cannot be parsed. -/
def Throttle.init (settings : Settings) (scope : Scope) : Option Throttle :=
  match settings.DEFAULT_THROTTLE_RATES scope with
  | none => some ⟨scope, none⟩
  | some rate => (parse_rate rate).map fun rate => ⟨scope, some rate⟩

def cache_format (scope : Scope) (ident : Text) : Text :=
  ['t', 'h', 'r', 'o', 't', 't', 'l', 'e', '_'] ++ (scope.name ++ '_' :: ident)

/-- The text of an address that may be missing. -/
def ident_text (ident : Option Text) : Text := ident.getD ['N', 'o', 'n', 'e']

def AnonRateThrottle.get_cache_key (settings : Settings) (request : Request) : Option Text :=
  match request.user with
  | some _ => none
  | none => some (cache_format .anon (ident_text (get_ident settings request)))

def UserRateThrottle.get_cache_key (settings : Settings) (request : Request) : Option Text :=
  match request.user with
  | some pk => some (cache_format .user (text.str pk))
  | none => some (cache_format .user (ident_text (get_ident settings request)))

def Throttle.get_cache_key (self : Throttle) (settings : Settings) (request : Request) : Option Text :=
  match self.scope with
  | .anon => AnonRateThrottle.get_cache_key settings request
  | .user => UserRateThrottle.get_cache_key settings request

abbrev Cache := Text → Option (Kept ℚ)

/-- The answer of a throttle, the history it has seen and the state it leaves. -/
structure Answer (S : Type) where
  allowed : Bool
  history : List ℚ
  state : S

/-- What decides about a request, if anything. -/
def Throttle.applies (self : Throttle) (settings : Settings) (request : Request) : Option (Rate × Text) :=
  if request.disable_throttling then none
  else self.rate.bind fun rate => (self.get_cache_key settings request).map fun key => (rate, key)

def Throttle.allow_request (settings : Settings) (self : Throttle) (cache : Cache) (request : Request) : Answer Cache :=
  match self.applies settings request with
  | none => ⟨true, [], cache⟩
  | some (rate, key) =>
    let now := request.now self.scope
    let history := prune rate.duration now (read (cache key) now)
    if rate.num_requests ≤ history.length then ⟨false, history, cache⟩
    else ⟨true, now :: history, Function.update cache key (some ⟨now :: history, now + rate.duration⟩)⟩

def Rate.wait (rate : Rate) (now : ℚ) (history : List ℚ) : Option ℚ :=
  let remaining_duration := match history.getLast? with
    | some oldest => rate.duration - (now - oldest)
    | none => rate.duration
  let available_requests := rate.num_requests - history.length + 1
  if available_requests ≤ 0 then none else some (remaining_duration / available_requests)

def Throttle.wait (self : Throttle) (request : Request) (history : List ℚ) : Option ℚ :=
  self.rate.bind fun rate => rate.wait (request.now self.scope) history

/-- The `wait` of `Throttled` is sent as `Retry-After`. -/
inductive Error
  | throttled (wait : Option ℤ)
  | improperly_configured
  deriving DecidableEq

/-- `Throttled`, which rounds up. -/
def Throttled (wait : Option ℚ) : Error := .throttled (wait.map Int.ceil)

/-- A throttle's decision, over whatever state it needs. -/
abbrev Decide (S : Type) := Throttle → S → Request → Answer S

/-- Asks the throttles one after the other, up to the first that does not allow the request. -/
def check_throttles {S : Type} (allow_request : Decide S) (request : Request) : List Throttle → S → Except Error Unit × S
  | [], s => (.ok (), s)
  | throttle :: throttles, s =>
    let answer := allow_request throttle s request
    if answer.allowed then check_throttles allow_request request throttles answer.state
    else (.error (Throttled (throttle.wait request answer.history)), answer.state)

def get_throttles (settings : Settings) : Option (List Throttle) := [.anon, .user].mapM (Throttle.init settings)

/-- As in the settings of the framework. -/
def api_settings : Settings where
  NUM_PROXIES := none
  DEFAULT_THROTTLE_RATES
    | .anon => some "30/minute".toList
    | .user => some "45/minute".toList

example : get_throttles api_settings = some [⟨.anon, some ⟨30, 60⟩⟩, ⟨.user, some ⟨45, 60⟩⟩] := rfl

def APIView.check_throttles {S : Type} (settings : Settings) (allow_request : Decide S) (s : S) (request : Request) :
    Except Error Unit × S :=
  match get_throttles settings with
  | none => (.error .improperly_configured, s)
  | some throttles => throttling.check_throttles allow_request request throttles s

end definitions

section ledgers

/-- Every time at which a request with the key was allowed, the newest first. -/
abbrev Ledger := Text → List ℚ

/-- The decision of a throttle that forgets nothing: less than the allowed number of requests in the last period. -/
def Throttle.decide (settings : Settings) (self : Throttle) (ledger : Ledger) (request : Request) : Answer Ledger :=
  match self.applies settings request with
  | none => ⟨true, [], ledger⟩
  | some (rate, key) =>
    let now := request.now self.scope
    let history := recent rate.duration now (ledger key)
    if rate.num_requests ≤ history.length then ⟨false, history, ledger⟩
    else ⟨true, now :: history, Function.update ledger key (now :: ledger key)⟩

variable {S : Type} (check : S → Request → Except Error Unit × S)

/-- The answers to requests that come one after the other. -/
def responses (s : S) : List Request → List (Except Error Unit)
  | [] => []
  | request :: requests => (check s request).1 :: responses (check s request).2 requests

def after (s : S) (requests : List Request) : S := requests.foldl (fun s request => (check s request).2) s

/-- The requests that are not rejected. -/
def passed (s : S) : List Request → List Request
  | [] => []
  | request :: requests =>
    if (check s request).1 = .ok () then request :: passed (check s request).2 requests
    else passed (check s request).2 requests

/-- The timers of later requests are not behind those of earlier ones. -/
def Clocked (requests : List Request) : Prop := requests.Pairwise fun r r' => ∀ scope, r.now scope ≤ r'.now scope

end ledgers

section refinement

variable {settings : Settings} {throttles : List Throttle} {last : Scope → ℚ} {cache : Cache} {ledger : Ledger}
  {request : Request}

theorem cache_format_scope {s s' : Scope} {ident ident' : Text} (h : cache_format s ident = cache_format s' ident') :
    s = s' := by
  have hnames := List.append_cancel_left h
  cases s <;> cases s'
  · rfl
  · cases hnames
  · cases hnames
  · rfl

theorem Throttle.get_cache_key_format {self : Throttle} {key : Text} (hkey : self.get_cache_key settings request = some key) :
    ∃ ident, key = cache_format self.scope ident := by
  unfold Throttle.get_cache_key at hkey
  cases hscope : self.scope with
  | anon =>
    rw [hscope] at hkey
    simp only [AnonRateThrottle.get_cache_key] at hkey
    split at hkey
    · cases hkey
    · exact ⟨_, (Option.some.inj hkey).symm⟩
  | user =>
    rw [hscope] at hkey
    simp only [UserRateThrottle.get_cache_key] at hkey
    split at hkey <;> exact ⟨_, (Option.some.inj hkey).symm⟩

theorem Throttle.applies_eq_some {self : Throttle} {rate : Rate} {key : Text} :
    self.applies settings request = some (rate, key) ↔
      request.disable_throttling = false ∧ self.rate = some rate ∧ self.get_cache_key settings request = some key := by
  unfold Throttle.applies
  cases request.disable_throttling with
  | true =>
    rw [if_pos rfl]
    exact ⟨fun h => (by cases h), fun h => (by cases h.1)⟩
  | false =>
    rw [if_neg Bool.false_ne_true]
    simp only [Option.bind_eq_some_iff, Option.map_eq_some_iff, Prod.mk.injEq]
    constructor
    · rintro ⟨rate', hrate, key', hkey, rfl, rfl⟩
      exact ⟨True.intro, hrate, hkey⟩
    · rintro ⟨-, hrate, hkey⟩
      exact ⟨rate, hrate, key, hkey, rfl, rfl⟩

/-- The view has one throttle for each scope. -/
theorem get_throttles_scope (hthrottles : get_throttles settings = some throttles) :
    ∃ anon user, throttles = [anon, user] ∧ anon.scope = .anon ∧ user.scope = .user := by
  have hscope : ∀ scope throttle, Throttle.init settings scope = some throttle → throttle.scope = scope := by
    intro scope throttle hinit
    unfold Throttle.init at hinit
    split at hinit
    · rw [← Option.some.inj hinit]
    · obtain ⟨rate, -, rfl⟩ := Option.map_eq_some_iff.mp hinit
      rfl
  simp only [get_throttles, List.mapM_cons, List.mapM_nil, bind, pure, Option.bind_eq_some_iff,
    Option.some.injEq] at hthrottles
  obtain ⟨anon, hanon, _, ⟨user, huser, _, rfl, rfl⟩, rfl⟩ := hthrottles
  exact ⟨anon, user, rfl, hscope _ _ hanon, hscope _ _ huser⟩

theorem get_throttles_pairwise (hthrottles : get_throttles settings = some throttles) :
    throttles.Pairwise fun t t' => t.scope ≠ t'.scope := by
  obtain ⟨anon, user, rfl, hanon, huser⟩ := get_throttles_scope hthrottles
  refine List.pairwise_pair.mpr ?_
  rw [hanon, huser]
  exact fun h => by cases h

theorem APIView.check_throttles_eq {S : Type} {allow_request : Decide S} {s : S}
    (hthrottles : get_throttles settings = some throttles) : APIView.check_throttles settings allow_request s request =
      throttling.check_throttles allow_request request throttles s := by
  rw [APIView.check_throttles, hthrottles]

theorem get_throttles_inj (hthrottles : get_throttles settings = some throttles) {t t' : Throttle} (ht : t ∈ throttles)
    (ht' : t' ∈ throttles) (hscope : t.scope = t'.scope) : t = t' := by
  obtain ⟨anon, user, rfl, hanon, huser⟩ := get_throttles_scope hthrottles
  simp only [List.mem_cons, List.not_mem_nil, or_false] at ht ht'
  obtain rfl | rfl := ht
  · obtain rfl | rfl := ht'
    · rfl
    · rw [hanon, huser] at hscope
      cases hscope
  · obtain rfl | rfl := ht'
    · rw [hanon, huser] at hscope
      cases hscope
    · rfl

/-- The stored history of a key tells the same as all its times, which keep the rate. -/
structure Tracked (rate : Rate) (last : ℚ) (kept : Option (Kept ℚ)) (times : List ℚ) : Prop where
  keeps : Keeps rate.duration last kept times
  sorted : Sorted times
  limited : Limited rate.num_requests rate.duration times

/-- Every stored history of the throttles tells the same as the ledger. -/
def Tracks (throttles : List Throttle) (last : Scope → ℚ) (cache : Cache) (ledger : Ledger) : Prop :=
  ∀ t ∈ throttles, ∀ rate ∈ t.rate, ∀ ident,
    Tracked rate (last t.scope) (cache (cache_format t.scope ident)) (ledger (cache_format t.scope ident))

theorem tracks_empty (throttles : List Throttle) (last : Scope → ℚ) : Tracks throttles last (fun _ => none) fun _ => [] :=
  fun _ _ rate _ _ => ⟨keeps_none rate.duration _, List.Pairwise.nil, True.intro⟩

theorem Tracks.mono {later : Scope → ℚ} (htracks : Tracks throttles last cache ledger)
    (hle : ∀ scope, last scope ≤ later scope) : Tracks throttles later cache ledger :=
  fun t ht rate hrate ident =>
    let h := htracks t ht rate hrate ident
    ⟨h.keeps.mono (hle t.scope), h.sorted, h.limited⟩

theorem Tracks.update {self : Throttle} {rate : Rate} {key : Text} {kept : Option (Kept ℚ)} {times : List ℚ}
    (hinj : ∀ t ∈ throttles, t.scope = self.scope → t = self) (htracks : Tracks throttles last cache ledger)
    (hrate : self.rate = some rate) (hkey : ∃ ident, key = cache_format self.scope ident)
    (hnew : Tracked rate (last self.scope) kept times) :
    Tracks throttles last (Function.update cache key kept) (Function.update ledger key times) := by
  intro t ht rate' hrate' ident
  by_cases hsame : cache_format t.scope ident = key
  · obtain ⟨ident', rfl⟩ := hkey
    obtain rfl := hinj t ht (cache_format_scope hsame)
    rw [hrate] at hrate'
    obtain rfl := Option.some.inj hrate'
    rw [hsame, Function.update_self, Function.update_self]
    exact hnew
  · rw [Function.update_of_ne hsame, Function.update_of_ne hsame]
    exact htracks t ht rate' hrate' ident

/-- A throttle that prunes its histories and lets them expire decides as if it forgot nothing. -/
theorem allow_request_refines {self : Throttle} (hthrottles : get_throttles settings = some throttles)
    (hself : self ∈ throttles) (htracks : Tracks throttles request.now cache ledger) :
    let answer := self.allow_request settings cache request
    let answer' := self.decide settings ledger request
    answer.allowed = answer'.allowed ∧ answer.history = answer'.history ∧
      Tracks throttles request.now answer.state answer'.state := by
  unfold Throttle.allow_request Throttle.decide
  cases happlies : self.applies settings request with
  | none => exact ⟨rfl, rfl, htracks⟩
  | some applied =>
    obtain ⟨rate, key⟩ := applied
    obtain ⟨-, hrate, hkey⟩ := Throttle.applies_eq_some.mp happlies
    obtain ⟨ident, hident⟩ := Throttle.get_cache_key_format hkey
    have htracked := htracks self hself rate hrate ident
    rw [← hident] at htracked
    simp only
    rw [htracked.keeps.prune_read le_rfl]
    split
    · exact ⟨rfl, rfl, htracks⟩
    · case isFalse hfree =>
      refine ⟨rfl, rfl, htracks.update (fun t ht => get_throttles_inj hthrottles ht hself) hrate ⟨ident, hident⟩ ?_⟩
      refine ⟨htracked.keeps.insert le_rfl htracked.sorted, ?_, ⟨not_le.mp hfree, htracked.limited⟩⟩
      exact List.pairwise_cons.mpr ⟨htracked.keeps.bound, htracked.sorted⟩

theorem check_refines (hthrottles : get_throttles settings = some throttles) {rest : List Throttle}
    (hrest : rest ⊆ throttles) (htracks : Tracks throttles request.now cache ledger) :
    let response := check_throttles (Throttle.allow_request settings) request rest cache
    let response' := check_throttles (Throttle.decide settings) request rest ledger
    response.1 = response'.1 ∧ Tracks throttles request.now response.2 response'.2 := by
  induction rest generalizing cache ledger with
  | nil => exact ⟨rfl, htracks⟩
  | cons t rest ih =>
    obtain ⟨hallowed, hhistory, htracks'⟩ := allow_request_refines hthrottles (hrest List.mem_cons_self) htracks
    simp only [check_throttles]
    rw [hallowed, hhistory]
    split
    · exact ih (fun _ h => hrest (List.mem_cons_of_mem t h)) htracks'
    · exact ⟨rfl, htracks'⟩

theorem Clocked.cons {requests : List Request} (h : Clocked (request :: requests)) :
    (∀ r ∈ requests, ∀ scope, request.now scope ≤ r.now scope) ∧ Clocked requests := List.pairwise_cons.mp h

/-- The view and the ledger answer every request alike. -/
theorem responses_refine (hthrottles : get_throttles settings = some throttles) {requests : List Request}
    (hclock : Clocked requests) (htracks : Tracks throttles last cache ledger)
    (hlast : ∀ r ∈ requests, ∀ scope, last scope ≤ r.now scope) :
    responses (APIView.check_throttles settings (Throttle.allow_request settings)) cache requests =
        responses (APIView.check_throttles settings (Throttle.decide settings)) ledger requests ∧
      passed (APIView.check_throttles settings (Throttle.allow_request settings)) cache requests =
        passed (APIView.check_throttles settings (Throttle.decide settings)) ledger requests := by
  induction requests generalizing cache ledger last with
  | nil => exact ⟨rfl, rfl⟩
  | cons request requests ih =>
    obtain ⟨hresponse, htracks'⟩ := check_refines hthrottles (List.Subset.refl _)
      (htracks.mono (hlast request List.mem_cons_self))
    obtain ⟨hfirst, hclock'⟩ := hclock.cons
    obtain ⟨hresponses, hpassed⟩ := ih hclock' htracks' hfirst
    simp only [responses, passed, APIView.check_throttles_eq hthrottles]
    rw [hresponse, hresponses, hpassed]
    exact ⟨rfl, rfl⟩

theorem after_tracks (hthrottles : get_throttles settings = some throttles) {requests : List Request} {later : Scope → ℚ}
    (hclock : Clocked requests) (htracks : Tracks throttles last cache ledger)
    (hlast : ∀ r ∈ requests, ∀ scope, last scope ≤ r.now scope) (hlater : ∀ r ∈ requests, ∀ scope, r.now scope ≤ later scope)
    (hle : ∀ scope, last scope ≤ later scope) :
    Tracks throttles later (after (APIView.check_throttles settings (Throttle.allow_request settings)) cache requests)
      (after (APIView.check_throttles settings (Throttle.decide settings)) ledger requests) := by
  induction requests generalizing cache ledger last with
  | nil => exact htracks.mono hle
  | cons request requests ih =>
    obtain ⟨-, htracks'⟩ := check_refines hthrottles (List.Subset.refl _) (htracks.mono (hlast request List.mem_cons_self))
    obtain ⟨hfirst, hclock'⟩ := hclock.cons
    have htracks'' := ih hclock' htracks' hfirst (fun r hr => hlater r (List.mem_cons_of_mem _ hr))
      (hlater request List.mem_cons_self)
    rw [after, after, List.foldl_cons, List.foldl_cons, ← after, ← after]
    simp only [APIView.check_throttles_eq hthrottles] at htracks'' ⊢
    exact htracks''

end refinement

section ledgers

variable {settings : Settings} {throttles : List Throttle} {ledger : Ledger} {request : Request} {self : Throttle}
  {rate : Rate} {ident : Text}

/-- A throttle writes the times of the key that it applies to, and no others. -/
theorem decide_other (settings : Settings) (ledger : Ledger) (request : Request) (ident : Text) {t : Throttle}
    (hscope : t.scope ≠ self.scope) :
    (t.decide settings ledger request).state (cache_format self.scope ident) = ledger (cache_format self.scope ident) := by
  unfold Throttle.decide
  cases happlies : t.applies settings request with
  | none => rfl
  | some applied =>
    obtain ⟨-, -, hkey⟩ := Throttle.applies_eq_some.mp happlies
    obtain ⟨ident', hident⟩ := Throttle.get_cache_key_format hkey
    simp only
    split
    · rfl
    · exact Function.update_of_ne (fun h => hscope (cache_format_scope (hident.symm.trans h.symm))) _ _

/-- What a throttle with the rate does with the times of a key. -/
theorem decide_self (settings : Settings) (ledger : Ledger) (request : Request) (hrate : self.rate = some rate) (key : Text) :
    ((self.decide settings ledger request).state key = ledger key ∧
        (self.applies settings request = some (rate, key) → (self.decide settings ledger request).allowed = false ∧
          rate.num_requests ≤ (recent rate.duration (request.now self.scope) (ledger key)).length)) ∨
      self.applies settings request = some (rate, key) ∧
        ((recent rate.duration (request.now self.scope) (ledger key)).length : ℤ) < rate.num_requests ∧
        (self.decide settings ledger request).state key = request.now self.scope :: ledger key := by
  unfold Throttle.decide
  cases happlies : self.applies settings request with
  | none => exact .inl ⟨rfl, fun h => (by cases h)⟩
  | some applied =>
    obtain ⟨rate', key'⟩ := applied
    obtain ⟨-, hrate', -⟩ := Throttle.applies_eq_some.mp happlies
    rw [hrate] at hrate'
    obtain rfl := Option.some.inj hrate'
    simp only
    by_cases hkey : key' = key
    · subst hkey
      split
      · case isTrue hfull => exact .inl ⟨rfl, fun _ => ⟨rfl, hfull⟩⟩
      · case isFalse hfree => exact .inr ⟨rfl, not_le.mp hfree, Function.update_self _ _ _⟩
    · refine .inl ⟨?_, fun h => absurd (Prod.mk.inj (Option.some.inj h)).2 hkey⟩
      split
      · rfl
      · exact Function.update_of_ne (Ne.symm hkey) _ _

/-- The other throttles leave the times of a throttle's keys alone. -/
theorem check_other {rest : List Throttle} (hother : ∀ t ∈ rest, t.scope ≠ self.scope) :
    (check_throttles (Throttle.decide settings) request rest ledger).2 (cache_format self.scope ident) =
      ledger (cache_format self.scope ident) := by
  induction rest generalizing ledger with
  | nil => rfl
  | cons t rest ih =>
    obtain ⟨hfirst, hrest⟩ := List.forall_mem_cons.mp hother
    rw [check_throttles]
    split
    · rw [ih hrest]
      exact decide_other settings _ request ident hfirst
    · exact decide_other settings _ request ident hfirst

/-- Of a request that passes, each throttle that applies to it notes the time, and of one that is rejected by a throttle this
throttle does not. -/
theorem check_self (ledger : Ledger) (request : Request) (ident : Text) (hthrottles : get_throttles settings = some throttles)
    (hself : self ∈ throttles) (hrate : self.rate = some rate) :
    let key := cache_format self.scope ident
    let response := APIView.check_throttles settings (Throttle.decide settings) ledger request
    (response.2 key = ledger key ∧ (self.applies settings request = some (rate, key) → response.1 ≠ .ok ())) ∨
      self.applies settings request = some (rate, key) ∧
        ((recent rate.duration (request.now self.scope) (ledger key)).length : ℤ) < rate.num_requests ∧
        response.2 key = request.now self.scope :: ledger key := by
  obtain ⟨anon, user, rfl, hanon, huser⟩ := get_throttles_scope hthrottles
  have hne : ∀ {t t' : Throttle}, t.scope = .anon → t'.scope = .user → t.scope ≠ t'.scope ∧ t'.scope ≠ t.scope := by
    intro t t' ht ht'
    rw [ht, ht']
    exact ⟨fun h => (by cases h), fun h => (by cases h)⟩
  simp only [APIView.check_throttles, hthrottles]
  rw [check_throttles]
  simp only [List.mem_cons, List.not_mem_nil, or_false] at hself
  obtain rfl | rfl := hself
  · have hlast : ∀ t ∈ [user], t.scope ≠ self.scope := List.forall_mem_singleton.mpr (hne hanon huser).2
    obtain ⟨hkept, hrejected⟩ | ⟨happlies, hfree, hnoted⟩ := decide_self settings ledger request hrate
      (cache_format self.scope ident)
    · left
      split
      · case isTrue hallowed =>
        rw [check_other hlast]
        exact ⟨hkept, fun h => absurd (hallowed.symm.trans (hrejected h).1) Bool.true_eq_false.mp⟩
      · exact ⟨hkept, fun _ h => (by cases h)⟩
    · right
      refine ⟨happlies, hfree, ?_⟩
      split
      · rw [check_other hlast]
        exact hnoted
      · exact hnoted
  · have hfirst := decide_other settings ledger request ident (hne hanon huser).1
    split
    · rw [check_throttles]
      obtain ⟨hkept, hrejected⟩ | ⟨happlies, hfree, hnoted⟩ := decide_self settings
        (anon.decide settings ledger request).state request hrate (cache_format self.scope ident)
      · left
        rw [hfirst] at hkept
        split
        · case isTrue hallowed =>
          exact ⟨hkept, fun h => absurd (hallowed.symm.trans (hrejected h).1) Bool.true_eq_false.mp⟩
        · exact ⟨hkept, fun _ h => (by cases h)⟩
      · right
        rw [hfirst] at hfree hnoted
        refine ⟨happlies, hfree, ?_⟩
        split <;> exact hnoted
    · exact .inl ⟨hfirst, fun _ h => (by cases h)⟩

theorem decide_rejects (hrejects : (self.decide settings ledger request).allowed = false) :
    ∃ rate key, self.applies settings request = some (rate, key) ∧
      rate.num_requests ≤ (recent rate.duration (request.now self.scope) (ledger key)).length ∧
      (self.decide settings ledger request).history = recent rate.duration (request.now self.scope) (ledger key) := by
  unfold Throttle.decide at hrejects ⊢
  cases happlies : self.applies settings request with
  | none =>
    rw [happlies] at hrejects
    cases hrejects
  | some applied =>
    obtain ⟨rate, key⟩ := applied
    rw [happlies] at hrejects
    simp only at hrejects ⊢
    split
    · case isTrue hfull => exact ⟨rate, key, rfl, hfull, rfl⟩
    · case isFalse hfree =>
      rw [if_neg hfree] at hrejects
      cases hrejects

/-- A request is rejected by one of the throttles, which tells how long to wait. -/
theorem check_rejects {rest : List Throttle} (hscopes : rest.Pairwise fun t t' => t.scope ≠ t'.scope) {e : Error}
    (hrejected : (check_throttles (Throttle.decide settings) request rest ledger).1 = .error e) :
    ∃ self ∈ rest, ∃ rate key, self.applies settings request = some (rate, key) ∧
      rate.num_requests ≤ (recent rate.duration (request.now self.scope) (ledger key)).length ∧
      e = Throttled (rate.wait (request.now self.scope) (recent rate.duration (request.now self.scope) (ledger key))) := by
  induction rest generalizing ledger with
  | nil => cases hrejected
  | cons t rest ih =>
    obtain ⟨hfirst, hrest⟩ := List.pairwise_cons.mp hscopes
    rw [check_throttles] at hrejected
    split at hrejected
    · obtain ⟨self, hself, rate, key, happlies, hfull, he⟩ := ih hrest hrejected
      obtain ⟨-, -, hkey⟩ := Throttle.applies_eq_some.mp happlies
      obtain ⟨ident, rfl⟩ := Throttle.get_cache_key_format hkey
      rw [decide_other settings ledger request ident (hfirst self hself)] at hfull he
      exact ⟨self, List.mem_cons_of_mem t hself, rate, _, happlies, hfull, he⟩
    · case isFalse hnot =>
      obtain ⟨rate, key, happlies, hfull, hhistory⟩ := decide_rejects (Bool.eq_false_iff.mpr hnot)
      refine ⟨t, List.mem_cons_self, rate, key, happlies, hfull, ?_⟩
      rw [← Except.error.inj hrejected, Throttle.wait, (Throttle.applies_eq_some.mp happlies).2.1, Option.bind_some, hhistory]

/-- As long as a throttle lets nothing through it notes nothing. -/
theorem after_eq_of_full (hthrottles : get_throttles settings = some throttles) (hself : self ∈ throttles)
    (hrate : self.rate = some rate) {requests : List Request}
    (hfull : ∀ r ∈ requests, self.applies settings r = some (rate, cache_format self.scope ident) →
      rate.num_requests ≤ (recent rate.duration (r.now self.scope) (ledger (cache_format self.scope ident))).length) :
    after (APIView.check_throttles settings (Throttle.decide settings)) ledger requests (cache_format self.scope ident) =
      ledger (cache_format self.scope ident) := by
  induction requests generalizing ledger with
  | nil => rfl
  | cons request requests ih =>
    obtain ⟨hfirst, hrest⟩ := List.forall_mem_cons.mp hfull
    rw [after, List.foldl_cons, ← after]
    obtain ⟨hkept, -⟩ | ⟨happlies, hfree, -⟩ := check_self ledger request ident hthrottles hself hrate
    · rw [ih ?_]
      · exact hkept
      · rw [hkept]
        exact hrest
    · exact absurd hfree (not_lt.mpr (hfirst happlies))

/-- A full history has to lose its oldest time. -/
theorem Rate.wait_of_full {history : List ℚ} {oldest now : ℚ} (hfull : (history.length : ℤ) = rate.num_requests)
    (holdest : history.getLast? = some oldest) : rate.wait now history = some (oldest + rate.duration - now) := by
  unfold Rate.wait
  rw [holdest, ← hfull, sub_self, zero_add, if_neg (by decide)]
  simp only [Int.cast_one, div_one]
  exact congrArg some (by ring)

/-- The times of the requests that passed are among those of the ledger. -/
theorem passed_sublist (ledger : Ledger) (ident : Text) (hthrottles : get_throttles settings = some throttles)
    (hself : self ∈ throttles) (hrate : self.rate = some rate) (requests : List Request) :
    let key := cache_format self.scope ident
    let check := APIView.check_throttles settings (Throttle.decide settings)
    ((((passed check ledger requests).filter fun r => self.applies settings r = some (rate, key)).map
      fun r => r.now self.scope).reverse ++ ledger key).Sublist (after check ledger requests key) := by
  induction requests generalizing ledger with
  | nil => exact List.Sublist.refl _
  | cons request requests ih =>
    have hrest := ih (APIView.check_throttles settings (Throttle.decide settings) ledger request).2
    have hself' := check_self ledger request ident hthrottles hself hrate
    simp only at hrest hself' ⊢
    rw [after, List.foldl_cons, ← after]
    refine List.Sublist.trans ?_ hrest
    rw [passed]
    obtain ⟨hkept, hrejected⟩ | ⟨happlies, -, hnoted⟩ := hself'
    · rw [hkept]
      split
      · case isTrue hok =>
        rw [List.filter_cons, if_neg fun h => hrejected (of_decide_eq_true h) hok]
      · exact List.Sublist.refl _
    · rw [hnoted]
      split
      · rw [List.filter_cons, if_pos (decide_eq_true happlies), List.map_cons, List.reverse_cons, List.append_assoc,
          List.singleton_append]
      · exact (List.Sublist.refl _).append ((List.Sublist.refl _).cons _)

end ledgers

section clients

/-- Who sends requests. -/
inductive Client
  | user (pk : ℕ)
  | address (client_addr : Text)

/-- The header of a request on which each proxy on its way notes where it got it from, after what the client has
sent of it. -/
def forwarded_for (sent : Option Text) (addrs : List Text) : Text :=
  match sent with
  | none => join ',' addrs
  | some xff => xff ++ ',' :: join ',' addrs

/-- The client sends the request through the proxies, with a header of its choice. -/
def Client.Sends (num_proxies : ℕ) (r : Request) : Client → Prop
  | .user pk => r.user = some pk
  | .address client_addr => r.user = none ∧ ∃ sent addr addrs,
      r.HTTP_X_FORWARDED_FOR = some (forwarded_for sent (addr :: addrs)) ∧ strip isspace addr = client_addr ∧
        addrs.length + 1 = num_proxies ∧ ∀ cs ∈ addr :: addrs, ',' ∉ cs

variable {settings : Settings} {request : Request} {num_proxies : ℕ}

theorem fields_forwarded_for (sent : Option Text) {addr : Text} {addrs : List Text} (hcomma : ∀ cs ∈ addr :: addrs, ',' ∉ cs) :
    ∃ before, fields ',' (forwarded_for sent (addr :: addrs)) = before ++ addr :: addrs := by
  cases sent with
  | none => exact ⟨[], text.fields_join hcomma⟩
  | some xff => exact ⟨fields ',' xff, by rw [forwarded_for, text.fields_append_fields, text.fields_join hcomma]⟩

/-- Behind the proxies a client cannot choose what it is identified by. -/
theorem get_ident_of_sends (hproxies : settings.NUM_PROXIES = some num_proxies) {client_addr : Text}
    (hsends : (Client.address client_addr).Sends num_proxies request) : get_ident settings request = some client_addr := by
  obtain ⟨-, sent, addr, addrs, hxff, rfl, hlength, hcomma⟩ := hsends
  obtain ⟨before, hfields⟩ := fields_forwarded_for sent hcomma
  have hpositive : num_proxies ≠ 0 := hlength ▸ Nat.succ_ne_zero _
  have hlast : (before ++ addr :: addrs).length - min num_proxies (before ++ addr :: addrs).length = before.length := by
    rw [List.length_append, List.length_cons]
    omega
  simp only [get_ident, hproxies, hxff, if_neg hpositive]
  rw [hfields, hlast, List.getElem?_append_right le_rfl, Nat.sub_self, List.getElem?_cons_zero, Option.map_some]

def Client.key (scope : Scope) : Client → Text
  | .user pk => cache_format scope (text.str pk)
  | .address client_addr => cache_format scope client_addr

theorem get_cache_key_of_sends (hproxies : settings.NUM_PROXIES = some num_proxies) {client : Client} {self : Throttle}
    (hsends : client.Sends num_proxies request) (hscope : self.scope = .user ∨ ∃ client_addr, client = .address client_addr) :
    self.get_cache_key settings request = some (client.key self.scope) := by
  unfold Throttle.get_cache_key
  cases client with
  | user pk =>
    have huser : request.user = some pk := hsends
    obtain hscope | ⟨_, h⟩ := hscope
    · simp only [hscope, UserRateThrottle.get_cache_key, huser, Client.key]
    · cases h
  | address client_addr =>
    have hident := get_ident_of_sends hproxies hsends
    cases hscope : self.scope with
    | anon => simp only [AnonRateThrottle.get_cache_key, hsends.1, hident, ident_text, Option.getD_some, Client.key]
    | user => simp only [UserRateThrottle.get_cache_key, hsends.1, hident, ident_text, Option.getD_some, Client.key]

end clients

section runs

variable {settings : Settings} {throttles : List Throttle} {self : Throttle} {rate : Rate}

/-- Before the first request nothing is stored. -/
def empty : Cache := fun _ => none

/-- What the view answers to requests, and what state the requests leave. -/
def view (settings : Settings) : Cache → Request → Except Error Unit × Cache :=
  APIView.check_throttles settings (Throttle.allow_request settings)

theorem view_refines (hthrottles : get_throttles settings = some throttles) {cache : Cache} {ledger : Ledger}
    {request : Request} (htracks : Tracks throttles request.now cache ledger) :
    (view settings cache request).1 = (check_throttles (Throttle.decide settings) request throttles ledger).1 := by
  rw [view, APIView.check_throttles_eq hthrottles]
  exact (check_refines hthrottles (List.Subset.refl _) htracks).1

theorem exists_later (requests : List Request) : ∃ later : Scope → ℚ, ∀ r ∈ requests, ∀ scope, r.now scope ≤ later scope := by
  induction requests with
  | nil => exact ⟨fun _ => 0, List.forall_mem_nil _⟩
  | cons request requests ih =>
    obtain ⟨later, hlater⟩ := ih
    refine ⟨fun scope => max (request.now scope) (later scope), ?_⟩
    exact List.forall_mem_cons.mpr ⟨fun _ => le_max_left _ _, fun r hr scope => le_max_of_le_right (hlater r hr scope)⟩

/-- The histories of a run of the view are those of the ledger from the time of its last request on. -/
theorem run_tracks (hthrottles : get_throttles settings = some throttles) {requests : List Request} {later : Scope → ℚ}
    (hclock : Clocked requests) (hlater : ∀ r ∈ requests, ∀ scope, r.now scope ≤ later scope) :
    Tracks throttles later (after (view settings) empty requests)
      (after (APIView.check_throttles settings (Throttle.decide settings)) (fun _ => []) requests) := by
  cases requests with
  | nil => exact tracks_empty throttles later
  | cons request requests =>
    have hfirst : ∀ r ∈ request :: requests, ∀ scope, request.now scope ≤ r.now scope :=
      List.forall_mem_cons.mpr ⟨fun _ => le_rfl, hclock.cons.1⟩
    exact after_tracks hthrottles hclock (tracks_empty throttles request.now) hfirst hlater
      (hlater request List.mem_cons_self)

/-- With histories that expire and are pruned the view answers every request as if each throttle counted all the
requests that it allowed in the last period. -/
theorem responses_eq_ledger (settings : Settings) (requests : List Request) (hclock : Clocked requests) :
    responses (view settings) empty requests =
      responses (APIView.check_throttles settings (Throttle.decide settings)) (fun _ => []) requests := by
  cases hthrottles : get_throttles settings with
  | none =>
    have hfailed : ∀ {S : Type} (allow_request : Decide S) (s : S),
        responses (APIView.check_throttles settings allow_request) s requests =
          requests.map fun _ => .error .improperly_configured := by
      intro S allow_request s
      induction requests with
      | nil => rfl
      | cons request requests ih =>
        rw [responses, APIView.check_throttles, hthrottles, List.map_cons, ih hclock.cons.2]
    rw [view, hfailed, hfailed]
  | some throttles =>
    cases requests with
    | nil => rfl
    | cons request requests =>
      have hfirst : ∀ r ∈ request :: requests, ∀ scope, request.now scope ≤ r.now scope :=
        List.forall_mem_cons.mpr ⟨fun _ => le_rfl, hclock.cons.1⟩
      exact (responses_refine hthrottles hclock (tracks_empty throttles request.now) hfirst).1

theorem passed_eq_ledger (hthrottles : get_throttles settings = some throttles) {requests : List Request}
    (hclock : Clocked requests) : passed (view settings) empty requests =
      passed (APIView.check_throttles settings (Throttle.decide settings)) (fun _ => []) requests := by
  cases requests with
  | nil => rfl
  | cons request requests =>
    have hfirst : ∀ r ∈ request :: requests, ∀ scope, request.now scope ≤ r.now scope :=
      List.forall_mem_cons.mpr ⟨fun _ => le_rfl, hclock.cons.1⟩
    exact (responses_refine hthrottles hclock (tracks_empty throttles request.now) hfirst).2

/-- No period has more requests of one key that pass than the rate says. -/
theorem passed_limited (hthrottles : get_throttles settings = some throttles) (hself : self ∈ throttles)
    (hrate : self.rate = some rate) (key : Text) (requests : List Request) (hclock : Clocked requests) (start : ℚ) :
    ((((passed (view settings) empty requests).filter fun r => self.applies settings r = some (rate, key)).filter
      fun r => start < r.now self.scope ∧ r.now self.scope ≤ start + rate.duration).length : ℤ) ≤
        max rate.num_requests 0 := by
  by_cases hkey : ∃ ident, key = cache_format self.scope ident
  · obtain ⟨ident, rfl⟩ := hkey
    obtain ⟨later, hlater⟩ := exists_later requests
    have htracked := run_tracks hthrottles hclock hlater self hself rate hrate ident
    have hsublist := passed_sublist (fun _ => []) ident hthrottles hself hrate requests
    simp only [List.append_nil] at hsublist
    rw [passed_eq_ledger hthrottles hclock]
    refine le_trans ?_ (htracked.limited.length_le start)
    have hcount := (hsublist.filter fun t => start < t ∧ t ≤ start + rate.duration).length_le
    rw [List.filter_reverse, List.length_reverse, List.filter_map, List.length_map] at hcount
    exact Int.ofNat_le.mpr hcount
  · rw [List.filter_filter, List.filter_eq_nil_iff.mpr, List.length_nil]
    · exact le_max_right _ _
    · intro r _ h
      rw [Bool.and_eq_true, decide_eq_true_eq, decide_eq_true_eq] at h
      exact hkey (Throttle.get_cache_key_format (Throttle.applies_eq_some.mp h.2).2.2)

/-- Whatever headers they send, of the requests of one client no period has more that pass than the rate says. -/
theorem client_limited {num_proxies : ℕ} (hproxies : settings.NUM_PROXIES = some num_proxies)
    (hthrottles : get_throttles settings = some throttles) (hself : self ∈ throttles) (hrate : self.rate = some rate)
    (client : Client) (hscope : self.scope = .user ∨ ∃ client_addr, client = .address client_addr)
    (requests : List Request) (hclock : Clocked requests) (start : ℚ) (those : List Request)
    (hthose : those.Sublist (passed (view settings) empty requests))
    (hsent : ∀ r ∈ those, client.Sends num_proxies r ∧ r.disable_throttling = false)
    (hperiod : ∀ r ∈ those, start < r.now self.scope ∧ r.now self.scope ≤ start + rate.duration) :
    (those.length : ℤ) ≤ max rate.num_requests 0 := by
  refine le_trans ?_ (passed_limited hthrottles hself hrate (client.key self.scope) requests hclock start)
  have hall : those.filter (fun r => self.applies settings r = some (rate, client.key self.scope)) = those := by
    refine List.filter_eq_self.mpr fun r hr => decide_eq_true ?_
    obtain ⟨hsends, henabled⟩ := hsent r hr
    exact Throttle.applies_eq_some.mpr ⟨henabled, hrate, get_cache_key_of_sends hproxies hsends hscope⟩
  have hwindow : those.filter (fun r => start < r.now self.scope ∧ r.now self.scope ≤ start + rate.duration) = those :=
    List.filter_eq_self.mpr fun r hr => decide_eq_true (hperiod r hr)
  have hsublist := (hthose.filter fun r => self.applies settings r = some (rate, client.key self.scope)).filter
    fun r => start < r.now self.scope ∧ r.now self.scope ≤ start + rate.duration
  rw [hall, hwindow] at hsublist
  exact Int.ofNat_le.mpr hsublist.length_le

/-- A rejected client is told, in whole seconds, how long to wait: before that time, up to the rounding, its requests
are rejected, and the first one from then on is let through by the throttle that rejected it. -/
theorem wait_enough (hthrottles : get_throttles settings = some throttles)
    (hnum : ∀ t ∈ throttles, ∀ rate ∈ t.rate, 0 < rate.num_requests) (requests : List Request) (r : Request)
    (hclock : Clocked (requests ++ [r])) (e : Error)
    (hrejected : (view settings (after (view settings) empty requests) r).1 = .error e) :
    ∃ self ∈ throttles, ∃ (rate : Rate) (key : Text) (wait : ℚ), self.applies settings r = some (rate, key) ∧
      e = .throttled (some ⌈wait⌉) ∧ 0 < wait ∧
      ∀ others r', Clocked (requests ++ [r] ++ others ++ [r']) → self.applies settings r' = some (rate, key) →
        (∀ q ∈ others, self.applies settings q = some (rate, key) → q.now self.scope < r.now self.scope + wait) →
        let state := after (view settings) empty (requests ++ [r] ++ others)
        (r'.now self.scope < r.now self.scope + wait → (view settings state r').1 ≠ .ok ()) ∧
          (r.now self.scope + wait ≤ r'.now self.scope → (self.allow_request settings state r').allowed = true) := by
  obtain ⟨hclock₀, -, hlast⟩ := List.pairwise_append.mp hclock
  have htracks := run_tracks hthrottles hclock₀ fun q hq => hlast q hq r (List.mem_singleton_self r)
  set ledger := after (APIView.check_throttles settings (Throttle.decide settings)) (fun _ => []) requests with hledger
  rw [view_refines hthrottles htracks] at hrejected
  obtain ⟨self, hself, rate, key, happlies, hfull, rfl⟩ := check_rejects (get_throttles_pairwise hthrottles) hrejected
  obtain ⟨-, hrate, hkey⟩ := Throttle.applies_eq_some.mp happlies
  obtain ⟨ident, rfl⟩ := Throttle.get_cache_key_format hkey
  have htracked := htracks self hself rate hrate ident
  have hpositive := hnum self hself rate hrate
  have hlength := le_antisymm
    ((htracked.limited.recent_length_le htracked.keeps.bound).trans_eq (max_eq_left hpositive.le)) hfull
  have hne : recent rate.duration (r.now self.scope) (ledger (cache_format self.scope ident)) ≠ [] := by
    intro hnil
    rw [hnil, List.length_nil, Nat.cast_zero] at hlength
    exact hpositive.ne hlength
  have holdest := List.getLast?_eq_some_getLast hne
  obtain ⟨-, hrecent⟩ := mem_recent.mp (List.getLast_mem hne)
  set oldest := (recent rate.duration (r.now self.scope) (ledger (cache_format self.scope ident))).getLast hne
  refine ⟨self, hself, rate, _, oldest + rate.duration - r.now self.scope, happlies, ?_, ?_, ?_⟩
  · rw [Rate.wait_of_full hlength holdest]
    rfl
  · exact sub_pos.mpr (sub_lt_iff_lt_add.mp hrecent)
  · intro others r' hclock' happlies' hothers
    rw [add_sub_cancel] at hothers
    obtain ⟨hclock₁, -, hlast'⟩ := List.pairwise_append.mp hclock'
    have htracks' := run_tracks hthrottles hclock₁ fun q hq => hlast' q hq r' (List.mem_singleton_self r')
    have hr : r ∈ requests ++ [r] ++ others := List.mem_append_left _ (List.mem_append_right _ (List.mem_singleton_self r))
    have hle : r.now self.scope ≤ r'.now self.scope := hlast' r hr r' (List.mem_singleton_self r') self.scope
    -- nothing with the key is let through before the oldest request of the window is over
    have hkept : after (APIView.check_throttles settings (Throttle.decide settings)) (fun _ => []) (requests ++ [r] ++ others)
        (cache_format self.scope ident) = ledger (cache_format self.scope ident) := by
      rw [List.append_assoc, List.singleton_append, after, List.foldl_append, ← after, ← after, ← hledger]
      refine after_eq_of_full hthrottles hself hrate (List.forall_mem_cons.mpr ⟨fun _ => hfull, fun q hq happlies => ?_⟩)
      have hbetween := (List.pairwise_append.mp hclock₁).2.2 r (List.mem_append_right _ (List.mem_singleton_self r)) q hq
      rw [recent_of_lt htracked.sorted holdest (hbetween self.scope) (hothers q hq happlies)]
      exact hfull
    rw [add_sub_cancel]
    constructor
    · intro hearly hok
      rw [view_refines hthrottles htracks', ← APIView.check_throttles_eq hthrottles] at hok
      obtain ⟨-, hrejects⟩ | ⟨-, hfree, -⟩ := check_self _ r' ident hthrottles hself hrate
      · exact hrejects happlies' hok
      · rw [hkept, recent_of_lt htracked.sorted holdest hle hearly] at hfree
        exact absurd hfree (not_lt.mpr hfull)
    · intro hlate
      rw [(allow_request_refines hthrottles hself htracks').1]
      by_contra hnot
      obtain ⟨rate', key', hsame, hfull', -⟩ := decide_rejects (Bool.eq_false_iff.mpr hnot)
      rw [happlies'] at hsame
      cases hsame
      rw [hkept] at hfull'
      have hless := recent_length_lt holdest hle hlate
      exact absurd (hlength.symm ▸ hfull') (not_le.mpr (Int.ofNat_lt.mpr hless))

/-- One proxy, and one anonymous request a minute. -/
def strict : Settings where
  NUM_PROXIES := some 1
  DEFAULT_THROTTLE_RATES
    | .anon => some "1/minute".toList
    | .user => some "45/minute".toList

/-- An anonymous request as it comes from the proxy, with a header that the client made up. -/
def forged (sent : Char) (now : ℚ) : Request where
  user := none
  HTTP_X_FORWARDED_FOR := some (forwarded_for (some [sent]) [['7']])
  REMOTE_ADDR := none
  disable_throttling := false
  now := fun _ => now

theorem strict_throttles : get_throttles strict = some [⟨.anon, some ⟨1, 60⟩⟩, ⟨.user, some ⟨45, 60⟩⟩] := rfl

theorem forged_clocked : Clocked [forged 'a' 0, forged 'b' 10] :=
  List.pairwise_pair.mpr fun _ => by norm_num [forged]

theorem forged_sends (sent : Char) (now : ℚ) : (Client.address ['7']).Sends 1 (forged sent now) :=
  ⟨rfl, some [sent], ['7'], [], rfl, rfl, rfl, by decide⟩

theorem responses_eq_ledger_forged : responses (view strict) empty [forged 'a' 0, forged 'b' 10] =
    responses (APIView.check_throttles strict (Throttle.decide strict)) (fun _ => []) [forged 'a' 0, forged 'b' 10] :=
  responses_eq_ledger strict _ forged_clocked

theorem forged_passed : passed (view strict) empty [forged 'a' 0, forged 'b' 10] = [forged 'a' 0] := by
  rw [passed, if_pos (by decide +kernel), passed, if_neg (by decide +kernel), passed]

theorem client_limited_forged : ((passed (view strict) empty [forged 'a' 0, forged 'b' 10]).length : ℤ) ≤ max 1 0 := by
  have hproxies : strict.NUM_PROXIES = some 1 := rfl
  have hrate : (⟨.anon, some ⟨1, 60⟩⟩ : Throttle).rate = some ⟨1, 60⟩ := rfl
  refine client_limited hproxies strict_throttles List.mem_cons_self hrate (.address ['7']) (.inr ⟨_, rfl⟩) _ forged_clocked
    (-1) _ (List.Sublist.refl _) ?_ ?_
  · rw [forged_passed]
    exact List.forall_mem_singleton.mpr ⟨forged_sends 'a' 0, rfl⟩
  · rw [forged_passed]
    exact List.forall_mem_singleton.mpr (by norm_num [forged])

/-- The second request comes half a second after the first and is told to wait 60 seconds. -/
theorem wait_enough_forged : ∃ self ∈ [(⟨.anon, some ⟨1, 60⟩⟩ : Throttle), ⟨.user, some ⟨45, 60⟩⟩], ∃ rate key,
    self.applies strict (forged 'b' (1 / 2)) = some (rate, key) ∧
      (self.allow_request strict (after (view strict) empty [forged 'a' 0, forged 'b' (1 / 2)])
        (forged 'c' (121 / 2))).allowed = true := by
  have hnum : ∀ t ∈ [(⟨.anon, some ⟨1, 60⟩⟩ : Throttle), ⟨.user, some ⟨45, 60⟩⟩], ∀ rate ∈ t.rate, 0 < rate.num_requests := by
    decide
  have hclocked : Clocked [forged 'a' 0, forged 'b' (1 / 2)] := List.pairwise_pair.mpr fun _ => by norm_num [forged]
  obtain ⟨self, hself, rate, key, wait, happlies, hwait, -, hexact⟩ := wait_enough strict_throttles hnum
    [forged 'a' 0] (forged 'b' (1 / 2)) hclocked (.throttled (some 60)) (by decide +kernel)
  have hclock : Clocked [forged 'a' 0, forged 'b' (1 / 2), forged 'c' (121 / 2)] := by
    refine List.pairwise_cons.mpr ⟨?_, List.pairwise_pair.mpr fun _ => by norm_num [forged]⟩
    exact List.forall_mem_cons.mpr ⟨fun _ => by norm_num [forged],
      List.forall_mem_singleton.mpr fun _ => by norm_num [forged]⟩
  refine ⟨self, hself, rate, key, happlies, (hexact [] (forged 'c' (121 / 2)) hclock ?_ (List.forall_mem_nil _)).2 ?_⟩
  · exact happlies
  · have hle : wait ≤ 60 := by
      have hceil := Int.le_ceil wait
      rw [← Option.some.inj (Error.throttled.inj hwait)] at hceil
      exact_mod_cast hceil
    simp only [forged]
    linarith

end runs

end api.throttling
