import Mathlib
import AgentShield.Auth.Revocation
import AgentShield.Auth.SingleUse
import AgentShield.Auth.Users
import AgentShield.Lib.Delimited
import AgentShield.Server.ChainInput

/-!
# The bound of a rate limit

A request reads the clock, reads its counter and writes it back, one step at a time, and
other requests run in between.  `Tracked` follows a running service with what every request
has read so far.  At most `limit` requests of a bucket and an address pass in one window,
as long as no request reads a counter that another is about to write, and none outlives its
window (`passes_within_limit`).  Two requests that read before either writes both pass
(`two_pass_at_once`).

The text of a counter is read back by `Int.toInt?_repr`; of Mathlib only the whole library
brings that module of `Std` with it.
-/

namespace AgentShield.Auth

open AgentShield.Lib AgentShield.Sdk AgentShield.Server

/-! ## The service -/

structure LimitedRequest where
  bucket : String
  limit : Int
  headers : Dict String String := []
  fallbackIp : Option String := none
  deriving DecidableEq

namespace LimitedRequest

def config (windowSeconds : Int) (r : LimitedRequest) : RateLimitConfig where
  bucket := r.bucket
  limit := r.limit
  windowSeconds := windowSeconds

def ip (r : LimitedRequest) : String := (nonempty (clientIp r.headers r.fallbackIp)).getD "unknown"

/-- The key of the counter of a window. -/
def counterKey (r : LimitedRequest) (window : Int) : String :=
  "ratelimit:" ++ r.bucket ++ ":" ++ r.ip ++ ":" ++ toString window

/-- A key names its window. -/
theorem window_of_counterKey {r r' : LimitedRequest} {window window' : Int}
    (h : r.counterKey window = r'.counterKey window') : window = window' := by
  have hLists := congrArg String.toList h
  have hColon : ∀ n : Int, ':' ∉ (toString n).toList :=
    ChainInput.notMem_toString (by decide) (by decide)
  have hCut : ("ratelimit:" ++ r.bucket ++ ":" ++ r.ip).toList ++ ':' :: (toString window).toList =
      ("ratelimit:" ++ r'.bucket ++ ":" ++ r'.ip).toList ++
        ':' :: (toString window').toList := by
    simpa [counterKey, String.toList_append, List.append_assoc] using hLists
  exact ChainInput.toString_injective
    (Delimited.cut_last (hColon window) (hColon window') hCut).2

end LimitedRequest

section Service

variable (settings : AuthSettings) (windowSeconds : Int)

/-- The window of a time in milliseconds. -/
def windowAt (now : Int) : Int := now / 1000 / windowSeconds

/-- What follows the answer of the counter; the request passes in its window. -/
def settle (window : Int) (exceeded : Bool) : AuthHandler Int := do
  Async.raiseIf (exceeded = true) (apiError 429 .rateLimited)
  return window

/-- `enforceOrBlock` with the window in which the request passes. -/
def enforce (r : LimitedRequest) : AuthHandler Int := do
  let now ← nowMs
  let exceeded ← incrementAndCheck settings (rateLimitKey (r.config windowSeconds) r.ip now)
    r.limit windowSeconds
  settle (windowAt windowSeconds now) exceeded

/-- The rate limit of the routes is `enforce`, without the window that it answers. -/
theorem enforceOrBlock_eq (r : LimitedRequest) :
    enforceOrBlock settings (r.config windowSeconds) r.headers r.fallbackIp =
      enforce settings windowSeconds r >>= fun _ => pure () := by
  unfold enforceOrBlock enforce
  simp only [Async.bind_assoc']
  congr 1
  funext now
  congr 1
  funext exceeded
  cases exceeded <;> rfl

/-- The rate limits of a service, on requests alone; outside them time passes. -/
def rateLimits : Service AuthWorld Failure where
  Req := LimitedRequest
  Res := Int
  handle := enforce settings windowSeconds
  Ext := Nat
  external ns w := { w with server := w.server.tick ns }
  fault := .backend

end Service

/-! ## Where a request stands -/

/-- What a request has read so far: nothing, the clock, no counter, or a count.  Between two
stages other requests may run, and the stored counter may move on. -/
inductive Stage where
  | start
  | read (window : Int)
  | create (window : Int)
  | count (window : Int) (count : Int)
  | ended (res : Except Failure Int)
  deriving DecidableEq

namespace Stage

variable (settings : AuthSettings) (windowSeconds : Int) (r : LimitedRequest)

/-- What is left of the handler at a stage.  `enforce` of the source, cut at its awaits. -/
def prog : Stage → AuthHandler Int
  | start => enforce settings windowSeconds r
  | read window => do
      let exceeded ← incrementAndCheck settings (r.counterKey window) r.limit windowSeconds
      settle window exceeded
  | create window => do
      let _ ← cacheSetIfAbsent (r.counterKey window) "1" windowSeconds
      settle window false
  | count window n => do
      let answer ← cacheSet settings (r.counterKey window) (toString (n + 1))
      settle window (answer.isSome && decide (r.limit < n + 1))
  | ended res => .done res

/-- What the next step does to the world.  A counter that was not found is created, and one
that was found is set to what was read and one more, whatever is stored by then. -/
def update : Stage → AuthWorld → AuthWorld
  | start, w | read _, w | ended _, w => w
  | create window, w =>
      (w.callCache fun s => s.setIfAbsent (r.counterKey window) "1" windowSeconds).1
  | count window n, w =>
      let key := r.counterKey window
      (w.callCache fun s =>
        ({ s with cache := settings.cache.set s.cache key (toString (n + 1)) }, ())).1

/-- Where the request stands when it has read its counter. -/
def afterRead (window : Int) : Option (Option String) → Stage
  | none => ended (.ok window)
  | some none => create window
  | some (some existing) =>
      match existing.toInt? with
      | none => ended (.ok window)
      | some n => count window n

/-- Where the request stands after its next step.  The cache that cannot be reached lets every
request pass, and a count above the limit is refused. -/
def next (w : AuthWorld) : Stage → Stage
  | start => read (windowAt windowSeconds w.server.now)
  | read window =>
      afterRead window (w.callCache fun s => (s, s.cache.live s.clock (r.counterKey window))).2
  | create window => ended (.ok window)
  | count window n =>
      if !w.cacheDown && decide (r.limit < n + 1) then ended (.error (apiError 429 .rateLimited))
      else ended (.ok window)
  | ended res => ended res

theorem callCache_read {α : Type} (f : World → α) (w : AuthWorld) :
    (w.callCache fun s => (s, f s)).1 = w := by
  unfold AuthWorld.callCache
  split <;> rfl

theorem prog_read (window : Int) : (read window).prog settings windowSeconds r =
    cacheGet (r.counterKey window) >>= fun found =>
      (afterRead window found).prog settings windowSeconds r := by
  show (incrementAndCheck settings (r.counterKey window) r.limit windowSeconds >>=
    settle window) = _
  unfold incrementAndCheck
  rw [Async.bind_assoc']
  congr 1
  funext found
  cases found with
  | none => rfl
  | some entry =>
      cases entry with
      | none => rfl
      | some existing =>
          show ((match existing.toInt? with | none => _ | some n => _) >>= settle window) =
            Stage.prog settings windowSeconds r
              (match existing.toInt? with | none => _ | some n => _)
          cases existing.toInt? with
          | none => rfl
          | some n => rfl

/-- **One step of a request**: it has ended, or its next step leads to the next stage. -/
theorem prog_cases (stage : Stage) :
    (∃ res, stage = ended res) ∨
      stage.prog settings windowSeconds r = .await (stage.update settings windowSeconds r)
        fun w => (stage.next windowSeconds r w).prog settings windowSeconds r := by
  cases stage with
  | start => exact .inr rfl
  | read window =>
      right
      have hStay : (fun w : AuthWorld =>
          (w.callCache fun s => (s, s.cache.live s.clock (r.counterKey window))).1) =
          update settings windowSeconds r (read window) := by
        funext w
        exact callCache_read _ w
      rw [prog_read, ← hStay]
      rfl
  | create window => exact .inr rfl
  | count window n =>
      right
      have hNext : ∀ w : AuthWorld,
          (settle window ((w.callCache fun s => ({ s with
            cache := settings.cache.set s.cache (r.counterKey window)
              (toString (n + 1)) }, ())).2.isSome && decide (r.limit < n + 1))) =
          ((count window n).next windowSeconds r w).prog settings windowSeconds r := by
        intro w
        unfold next AuthWorld.callCache
        cases w.cacheDown with
        | true => rfl
        | false =>
            by_cases hLimit : r.limit < n + 1
            · simp only [hLimit]
              rfl
            · simp only [hLimit]
              rfl
      simp only [← hNext]
      rfl
  | ended res => exact .inl ⟨res, rfl⟩

/-- The counter that the request is about to write. -/
def writes : Stage → Option String
  | create window | count window _ => some (r.counterKey window)
  | _ => none

/-- The window that the request has read the clock in and not left. -/
def window? : Stage → Option Int
  | read window | create window | count window _ => some window
  | _ => none

end Stage

/-! ## A running service with the stages of its requests -/

/-- The state, and where every request stands. -/
structure Tracked where
  state : AuthWorld
  threads : List (LimitedRequest × Stage) := []

namespace Tracked

variable (settings : AuthSettings) (windowSeconds : Int)

def resumed (f : Fault) (stage : Stage) : Stage :=
  match f with
  | .none => stage
  | .before | .after => .ended (.error .backend)

def step (t : Tracked) : Event (rateLimits settings windowSeconds) → Tracked
  | .request r =>
      let p : LimitedRequest × Stage := (r, .start)
      { t with threads := t.threads ++ [p] }
  | .resume i f =>
      match t.threads[i]? with
      | none | some (_, .ended _) => t
      | some (r, stage) =>
          { state := Pool.effect f (stage.update settings windowSeconds r) t.state
            threads := t.threads.set i (r, resumed f (stage.next windowSeconds r t.state)) }
  | .external ms => { t with state := (rateLimits settings windowSeconds).external ms t.state }

/-- The run of the service with its stages. -/
def run (t : Tracked) (es : List (Event (rateLimits settings windowSeconds))) : Tracked :=
  es.foldl (step settings windowSeconds) t

/-- The service itself. -/
def pool (t : Tracked) : Pool (rateLimits settings windowSeconds) where
  state := t.state
  threads := t.threads.map fun p => (p.1, p.2.prog settings windowSeconds p.1)

theorem pool_step (t : Tracked) (e : Event (rateLimits settings windowSeconds)) :
    (t.step settings windowSeconds e).pool settings windowSeconds =
      (t.pool settings windowSeconds).step e := by
  cases e with
  | request r =>
      simp only [step, pool, Pool.step, List.map_append, List.map_cons, List.map_nil]
      rfl
  | external ms => rfl
  | resume i f =>
      cases hi : t.threads[i]? with
      | none => simp [step, pool, Pool.step, hi]
      | some p =>
          obtain ⟨r, stage⟩ := p
          rcases stage.prog_cases settings windowSeconds r with ⟨res, rfl⟩ | hAwait
          · have hDone : ((t.pool settings windowSeconds).threads[i]?) =
                some (r, .done res) := by
              show (t.threads.map fun p => (p.1, p.2.prog settings windowSeconds p.1))[i]? = _
              rw [List.getElem?_map, hi]
              rfl
            simp only [step, hi, Pool.step, hDone]
          · have hStep : t.step settings windowSeconds (.resume i f) =
                { state := Pool.effect f (stage.update settings windowSeconds r) t.state
                  threads :=
                    t.threads.set i (r, resumed f (stage.next windowSeconds r t.state)) } := by
              cases stage with
              | ended res => cases hAwait
              | _ => simp only [step, hi]
            rw [hStep]
            simp only [pool, Pool.step, List.getElem?_map, hi, Option.map_some, hAwait,
              List.map_set]
            cases f <;> rfl

/-- **The stages follow the service.** -/
theorem pool_run (t : Tracked) (es : List (Event (rateLimits settings windowSeconds))) :
    (t.run settings windowSeconds es).pool settings windowSeconds =
      (t.pool settings windowSeconds).run es := by
  induction es generalizing t with
  | nil => rfl
  | cons e es ih =>
      show ((t.step settings windowSeconds e).run settings windowSeconds es).pool _ _ = _
      rw [ih, pool_step]
      rfl

/-! ## The condition -/

/-- Where the request is about to read its counter, no other is about to write it. -/
def undisturbed (threads : List (LimitedRequest × Stage)) : LimitedRequest × Stage → Bool
  | (r, .read window) =>
      threads.all fun p => decide (p.2.writes p.1 ≠ some (r.counterKey window))
  | _ => true

/-- The window in which the request read the clock is still open. -/
def inWindow (now : Int) (stage : Stage) : Bool :=
  stage.window?.all fun window => decide (windowAt windowSeconds now = window)

/-- The condition on a step. -/
def orderly (t : Tracked) : Event (rateLimits settings windowSeconds) → Bool
  | .resume i _ => (t.threads[i]?).all fun p =>
      undisturbed t.threads p && inWindow windowSeconds t.state.server.now p.2
  | _ => true

/-- The condition on a run. -/
def Orderly (t : Tracked) : List (Event (rateLimits settings windowSeconds)) → Prop
  | [] => True
  | e :: es => t.orderly settings windowSeconds e = true ∧
      Orderly (t.step settings windowSeconds e) es

end Tracked

/-! ## The counter of one window -/

section Counter

/-- The entry of a key, live or not. -/
def AuthWorld.cached (w : AuthWorld) (key : String) : Option (String × Option Int) :=
  Dict.get? w.server.cache.store key

/-- The request has passed with the counter `key` under a limit of at most `limit`. -/
def passedBy (key : String) (limit : Int) : LimitedRequest × Stage → Bool
  | (r, .ended (.ok window)) => decide (r.counterKey window = key) && decide (r.limit ≤ limit)
  | _ => false

/-- The counter of a window is at least the number of requests that have passed, and lives
until the window ends.  At most one request is about to write it, and what that one has read
is still so. -/
structure Counted (windowSeconds : Int) (key : String) (window limit : Int) (t : Tracked) :
    Prop where
  up : t.state.cacheDown = false
  absent : t.state.cached key = none → t.threads.countP (passedBy key limit) = 0
  present : ∀ value expires, t.state.cached key = some (value, expires) →
    ∃ n : Int, value = toString n ∧ (t.threads.countP (passedBy key limit) : Int) ≤ n ∧
      ∀ time ∈ expires, (window + 1) * windowSeconds * 1000000000 ≤ time
  within : (t.threads.countP (passedBy key limit) : Int) ≤ limit
  creates : ∀ (j : Nat) (r : LimitedRequest) (w : Int),
    t.threads[j]? = some (r, Stage.create w) → r.counterKey w = key → t.state.cached key = none
  counts : ∀ (j : Nat) (r : LimitedRequest) (w n : Int),
    t.threads[j]? = some (r, Stage.count w n) → r.counterKey w = key →
    ∃ expires, t.state.cached key = some (toString n, expires)
  single : ∀ (i j : Nat) (p q : LimitedRequest × Stage), t.threads[i]? = some p →
    t.threads[j]? = some q → p.2.writes p.1 = some key → q.2.writes q.1 = some key → i = j

variable {windowSeconds : Int} {key : String} {window limit : Int} {t : Tracked}

/-- A request moves on to the stage `stage'`, and the state becomes `w'`. -/
theorem Counted.set (h : Counted windowSeconds key window limit t) {i : Nat}
    {r : LimitedRequest} {stage : Stage} (hi : t.threads[i]? = some (r, stage)) (stage' : Stage)
    (hOpen : passedBy key limit (r, stage) = false) {w' : AuthWorld}
    (hUp : w'.cacheDown = false) (passed : Nat)
    (hPassed : passed = t.threads.countP (passedBy key limit) +
      if passedBy key limit (r, stage') then 1 else 0)
    (hAbsent : w'.cached key = none → passed = 0)
    (hPresent : ∀ value expires, w'.cached key = some (value, expires) →
      ∃ n : Int, value = toString n ∧ (passed : Int) ≤ n ∧
        ∀ time ∈ expires, (window + 1) * windowSeconds * 1000000000 ≤ time)
    (hWithin : (passed : Int) ≤ limit)
    (hKeep : stage.writes r = some key ∨ w'.cached key = t.state.cached key)
    (hWriter : stage'.writes r = some key →
      ∀ p ∈ t.threads, p.2.writes p.1 ≠ some key)
    (hCreate : ∀ w, stage' = .create w → r.counterKey w = key → w'.cached key = none)
    (hCount : ∀ w n, stage' = .count w n → r.counterKey w = key →
      ∃ expires, w'.cached key = some (toString n, expires)) :
    Counted windowSeconds key window limit ⟨w', t.threads.set i (r, stage')⟩ := by
  obtain ⟨hLt, hGet⟩ := List.getElem?_eq_some_iff.1 hi
  have hTotal : (t.threads.set i (r, stage')).countP (passedBy key limit) = passed := by
    rw [List.countP_set hLt, hGet, hOpen, hPassed]
    simp
  -- a request at another place is where it was
  have hOther : ∀ j p, (t.threads.set i (r, stage'))[j]? = some p →
      (j = i ∧ p = (r, stage')) ∨ (j ≠ i ∧ t.threads[j]? = some p) := by
    intro j p hj
    by_cases hij : j = i
    · subst hij
      rw [List.getElem?_set_self hLt] at hj
      exact .inl ⟨rfl, (Option.some.inj hj).symm⟩
    · rw [List.getElem?_set_ne (Ne.symm hij)] at hj
      exact .inr ⟨hij, hj⟩
  -- and finds the entry as it was, when it is about to write it
  have hSame : ∀ j p, j ≠ i → t.threads[j]? = some p → p.2.writes p.1 = some key →
      w'.cached key = t.state.cached key := by
    intro j p hij hj hWrites
    rcases hKeep with hOwn | hKeep
    · exact absurd (h.single j i p (r, stage) hj hi hWrites hOwn) hij
    · exact hKeep
  constructor
  · exact hUp
  · rw [hTotal]
    exact hAbsent
  · rw [hTotal]
    exact hPresent
  · rw [hTotal]
    exact hWithin
  · intro j r' w hj hKey
    rcases hOther j _ hj with ⟨-, hp⟩ | ⟨hij, hj⟩
    · obtain ⟨rfl, rfl⟩ := Prod.mk.inj hp
      exact hCreate w rfl hKey
    · rw [hSame j _ hij hj (congrArg some hKey)]
      exact h.creates j r' w hj hKey
  · intro j r' w n hj hKey
    rcases hOther j _ hj with ⟨-, hp⟩ | ⟨hij, hj⟩
    · obtain ⟨rfl, rfl⟩ := Prod.mk.inj hp
      exact hCount w n rfl hKey
    · rw [hSame j _ hij hj (congrArg some hKey)]
      exact h.counts j r' w n hj hKey
  · intro j j' p q hj hj' hp hq
    rcases hOther j p hj with ⟨rfl, rfl⟩ | ⟨-, hOld⟩
    · rcases hOther j' q hj' with ⟨rfl, -⟩ | ⟨-, hOld'⟩
      · rfl
      · exact absurd hq (hWriter hp q (List.mem_of_getElem? hOld'))
    · rcases hOther j' q hj' with ⟨rfl, rfl⟩ | ⟨-, hOld'⟩
      · exact absurd hp (hWriter hq p (List.mem_of_getElem? hOld))
      · exact h.single j j' p q hOld hOld' hp hq

/-- A step that leaves the counter alone, to a stage that does not write it. -/
theorem Counted.quiet (h : Counted windowSeconds key window limit t) {i : Nat}
    {r : LimitedRequest} {stage stage' : Stage} (hi : t.threads[i]? = some (r, stage))
    (hOpen : passedBy key limit (r, stage) = false)
    (hOpen' : passedBy key limit (r, stage') = false) {w' : AuthWorld}
    (hUp : w'.cacheDown = false) (hKeep : w'.cached key = t.state.cached key)
    (hWriter : stage'.writes r ≠ some key) :
    Counted windowSeconds key window limit ⟨w', t.threads.set i (r, stage')⟩ := by
  refine h.set hi stage' hOpen hUp (t.threads.countP (passedBy key limit)) ?_ ?_ ?_ h.within
    (.inr hKeep) (fun hWrites => absurd hWrites hWriter) ?_ ?_
  · rw [hOpen']
    rfl
  · rw [hKeep]
    exact h.absent
  · rw [hKeep]
    exact h.present
  · rintro w rfl hKey
    exact absurd (congrArg some hKey) hWriter
  · rintro w n rfl hKey
    exact absurd (congrArg some hKey) hWriter

/-- The world with another cache. -/
def AuthWorld.withCache (w : AuthWorld) (cache : Cache) : AuthWorld :=
  { w with server := { w.server with cache := cache } }

/-- A reachable cache answers. -/
theorem callCache_up {α : Type} {w : AuthWorld} (hUp : w.cacheDown = false)
    (f : World → World × α) :
    w.callCache f = (w.withCache (f w.server).1.cache, some (f w.server).2) := by
  unfold AuthWorld.callCache
  rw [if_neg (by simp [hUp])]
  rfl

theorem window_bounds (hWindow : 0 < windowSeconds) (w : World) :
    windowAt windowSeconds w.now * windowSeconds * 1000000000 ≤ w.clock ∧
      w.clock < (windowAt windowSeconds w.now + 1) * windowSeconds * 1000000000 := by
  have hNow : w.now = w.clock / 1000000 := rfl
  unfold windowAt
  have hLow := Int.ediv_mul_le (w.now / 1000) (ne_of_gt hWindow)
  have hHigh := Int.lt_ediv_add_one_mul_self (w.now / 1000) hWindow
  generalize hA : w.now / 1000 / windowSeconds * windowSeconds = a at hLow
  generalize hB : (w.now / 1000 / windowSeconds + 1) * windowSeconds = b at hHigh
  omega

/-- In its window the entry of a counter is live. -/
theorem Counted.live (h : Counted windowSeconds key window limit t)
    (hWindow : 0 < windowSeconds)
    (hNow : windowAt windowSeconds t.state.server.now = window) :
    t.state.server.cache.live t.state.server.clock key = (t.state.cached key).map Prod.fst := by
  have hBounds := (window_bounds hWindow t.state.server).2
  rw [hNow] at hBounds
  have hPresent := h.present
  unfold Cache.live
  unfold AuthWorld.cached at hPresent ⊢
  cases hGet : Dict.get? t.state.server.cache.store key with
  | none => rfl
  | some entry =>
      obtain ⟨value, expires⟩ := entry
      cases expires with
      | none => rfl
      | some time =>
          obtain ⟨n, -, -, hTime⟩ := hPresent value (some time) hGet
          have hLater := hTime time rfl
          have hNot : ¬ time < t.state.server.clock := by omega
          simp [hNot]

/-- Overwriting an entry stores the value, under the old expiry or none. -/
theorem cached_set (settings : AuthSettings) (cache : Cache) (k value : String) :
    (∃ expires, Dict.get? (settings.cache.set cache k value).store k = some (value, expires) ∧
      ∀ time ∈ expires, ∃ old, Dict.get? cache.store k = some (old, some time)) ∧
    ∀ k', k ≠ k' → Dict.get? (settings.cache.set cache k value).store k' =
      Dict.get? cache.store k' := by
  unfold CacheBackend.set
  cases settings.cache with
  | memory =>
      refine ⟨⟨_, Dict.get?_set_self _ _ _, ?_⟩, fun k' hNe => Dict.get?_set_ne _ _ hNe⟩
      intro time hTime
      cases hGet : Dict.get? cache.store k with
      | none => simp [hGet] at hTime
      | some entry =>
          obtain ⟨old, expires⟩ := entry
          simp only [hGet, Option.bind_some, Option.mem_def] at hTime
          exact ⟨old, by rw [hTime]⟩
  | redis =>
      refine ⟨⟨none, Dict.get?_set_self _ _ _, ?_⟩, fun k' hNe => Dict.get?_set_ne _ _ hNe⟩
      intro time hTime
      cases hTime

theorem passedBy_ended {r : LimitedRequest} {w : Int} {res : Except Failure Int}
    (hRes : ∀ w', res = .ok w' → w' = w) (h : passedBy key limit (r, .ended res) = true) :
    r.counterKey w = key ∧ r.limit ≤ limit ∧ res = .ok w := by
  cases res with
  | error e => cases h
  | ok w' =>
      obtain rfl := hRes w' rfl
      unfold passedBy at h
      rw [Bool.and_eq_true, decide_eq_true_eq, decide_eq_true_eq] at h
      exact ⟨h.1, h.2, rfl⟩

/-- A request writes the first count and ends.  It is the only one in the window so far, and
the limit is at least one. -/
theorem Counted.created (h : Counted windowSeconds key window limit t)
    (settings : AuthSettings) (hWindow : 0 < windowSeconds) (hLimit : 1 ≤ limit)
    {r₀ : LimitedRequest} (hKey : r₀.counterKey window = key) {i : Nat} {r : LimitedRequest}
    {w : Int} (hi : t.threads[i]? = some (r, .create w))
    (hNow : windowAt windowSeconds t.state.server.now = w) {res : Except Failure Int}
    (hRes : ∀ w', res = .ok w' → w' = w) :
    Counted windowSeconds key window limit
      ⟨(Stage.create w).update settings windowSeconds r t.state,
        t.threads.set i (r, .ended res)⟩ := by
  have hUpdate : (Stage.create w).update settings windowSeconds r t.state =
      t.state.withCache
        (t.state.server.setIfAbsent (r.counterKey w) "1" windowSeconds).1.cache := by
    show (t.state.callCache _).1 = _
    rw [callCache_up h.up]
  rw [hUpdate]
  by_cases hOwn : r.counterKey w = key
  · obtain rfl : w = window := LimitedRequest.window_of_counterKey (hOwn.trans hKey.symm)
    have hAbsent := h.creates i r w hi hOwn
    have hZero := h.absent hAbsent
    have hLive := h.live hWindow hNow
    rw [hAbsent] at hLive
    have hStore : (t.state.withCache
        (t.state.server.setIfAbsent (r.counterKey w) "1" windowSeconds).1.cache).cached key =
        some ("1", some (t.state.server.clock + lifetime windowSeconds)) := by
      unfold AuthWorld.cached World.setIfAbsent Cache.setIfAbsent
      rw [hOwn, hLive]
      exact Dict.get?_set_self _ _ _
    have hBounds := (window_bounds hWindow t.state.server).1
    rw [hNow] at hBounds
    refine h.set hi _ rfl h.up _ rfl ?_ ?_ ?_ (.inl (congrArg some hOwn)) (fun hWrites => ?_)
      (fun w' hCreate => ?_) (fun w' n hCount => ?_)
    · rw [hStore]
      intro hNone
      cases hNone
    · rw [hStore]
      intro value expires hEntry
      obtain ⟨rfl, rfl⟩ := Prod.mk.inj (Option.some.inj hEntry)
      refine ⟨1, rfl, ?_, ?_⟩
      · rw [hZero]
        split <;> simp
      · rintro time ⟨rfl⟩
        have hNext : (w + 1) * windowSeconds * 1000000000 =
            w * windowSeconds * 1000000000 + windowSeconds * 1000000000 := by ring
        unfold lifetime
        omega
    · rw [hZero]
      split
      · simpa using hLimit
      · simp only [Nat.add_zero, Nat.cast_zero]
        omega
    · cases hWrites
    · cases hCreate
    · cases hCount
  · refine h.quiet hi rfl ?_ h.up ?_ (fun hWrites => by cases hWrites)
    · by_contra hPassed
      rw [Bool.not_eq_false] at hPassed
      exact hOwn (passedBy_ended hRes hPassed).1
    · unfold AuthWorld.cached World.setIfAbsent Cache.setIfAbsent
      cases t.state.server.cache.live t.state.server.clock (r.counterKey w) with
      | some _ => rfl
      | none => exact Dict.get?_set_ne _ _ hOwn

/-- A request writes the next count and ends; it passes up to its limit, and the stored number
stays at least the number of those that have passed. -/
theorem Counted.counted (h : Counted windowSeconds key window limit t)
    (settings : AuthSettings) {i : Nat} {r : LimitedRequest} {w n : Int}
    (hi : t.threads[i]? = some (r, .count w n)) {res : Except Failure Int}
    (hRes : ∀ w', res = .ok w' → w' = w ∧ n + 1 ≤ r.limit) :
    Counted windowSeconds key window limit
      ⟨(Stage.count w n).update settings windowSeconds r t.state,
        t.threads.set i (r, .ended res)⟩ := by
  have hUpdate : (Stage.count w n).update settings windowSeconds r t.state =
      t.state.withCache
        (settings.cache.set t.state.server.cache (r.counterKey w) (toString (n + 1))) := by
    show (t.state.callCache _).1 = _
    rw [callCache_up h.up]
  obtain ⟨⟨expires', hStored, hOld⟩, hOthers⟩ := cached_set settings t.state.server.cache
    (r.counterKey w) (toString (n + 1))
  have hWindow' : ∀ w', res = .ok w' → w' = w := fun w' hOk => (hRes w' hOk).1
  rw [hUpdate]
  by_cases hOwn : r.counterKey w = key
  · obtain ⟨expires, hEntry⟩ := h.counts i r w n hi hOwn
    obtain ⟨m, hText, hPassed, hTime⟩ := h.present _ _ hEntry
    obtain rfl : n = m := ChainInput.toString_injective (congrArg String.toList hText)
    have hStore : (t.state.withCache
        (settings.cache.set t.state.server.cache (r.counterKey w) (toString (n + 1)))).cached
          key = some (toString (n + 1), expires') := by
      rw [hOwn] at hStored ⊢
      exact hStored
    refine h.set hi _ rfl h.up _ rfl ?_ ?_ ?_ (.inl (congrArg some hOwn)) (fun hWrites => ?_)
      (fun w' hCreate => ?_) (fun w' n' hCount => ?_)
    · rw [hStore]
      intro hNone
      cases hNone
    · rw [hStore]
      intro value expires'' hEntry'
      obtain ⟨rfl, rfl⟩ := Prod.mk.inj (Option.some.inj hEntry')
      refine ⟨n + 1, rfl, ?_, ?_⟩
      · split <;> simp <;> omega
      · intro time hMem
        obtain ⟨old, hOldEntry⟩ := hOld time hMem
        rw [hOwn] at hOldEntry
        have hSame : some (old, some time) = some (toString n, expires) :=
          hOldEntry.symm.trans hEntry
        obtain ⟨-, rfl⟩ := Prod.mk.inj (Option.some.inj hSame)
        exact hTime time rfl
    · by_cases hPass : passedBy key limit (r, .ended res) = true
      · obtain ⟨-, hLe, hOk⟩ := passedBy_ended hWindow' hPass
        have hUnder := (hRes w hOk).2
        rw [if_pos hPass]
        push_cast
        omega
      · rw [if_neg hPass]
        exact h.within
    · cases hWrites
    · cases hCreate
    · cases hCount
  · refine h.quiet hi rfl ?_ h.up ?_ (fun hWrites => by cases hWrites)
    · by_contra hPassed
      rw [Bool.not_eq_false] at hPassed
      exact hOwn (passedBy_ended hWindow' hPassed).1
    · exact hOthers key hOwn

/-- Away from the counter a request becomes nothing that matters to it. -/
theorem afterRead_apart (limit : Int) {r : LimitedRequest} {w : Int} (hOther : r.counterKey w ≠ key)
    (found : Option (Option String)) :
    passedBy key limit (r, Stage.afterRead w found) = false ∧
      (Stage.afterRead w found).writes r ≠ some key := by
  have hWrites : some (r.counterKey w) ≠ some key := fun h => hOther (Option.some.inj h)
  unfold Stage.afterRead
  split
  · exact ⟨by simp [passedBy, hOther], by simp [Stage.writes]⟩
  · exact ⟨rfl, hWrites⟩
  · split
    · exact ⟨by simp [passedBy, hOther], by simp [Stage.writes]⟩
    · exact ⟨rfl, hWrites⟩

/-- A request reads the counter while no other is about to write it, so that the number it
takes along is the one that is stored. -/
theorem Counted.readCounter (h : Counted windowSeconds key window limit t)
    (hWindow : 0 < windowSeconds) {r₀ : LimitedRequest} (hKey : r₀.counterKey window = key)
    {i : Nat} {r : LimitedRequest} {w : Int} (hi : t.threads[i]? = some (r, .read w))
    (hFree : Tracked.undisturbed t.threads (r, .read w) = true)
    (hNow : windowAt windowSeconds t.state.server.now = w) :
    Counted windowSeconds key window limit
      ⟨t.state, t.threads.set i (r, (Stage.read w).next windowSeconds r t.state)⟩ := by
  have hNext : (Stage.read w).next windowSeconds r t.state = Stage.afterRead w
      (some (t.state.server.cache.live t.state.server.clock (r.counterKey w))) := by
    show Stage.afterRead w (t.state.callCache _).2 = _
    rw [callCache_up h.up]
  rw [hNext]
  by_cases hOwn : r.counterKey w = key
  · obtain rfl : w = window := LimitedRequest.window_of_counterKey (hOwn.trans hKey.symm)
    have hWriter : ∀ p ∈ t.threads, p.2.writes p.1 ≠ some key := by
      unfold Tracked.undisturbed at hFree
      rw [List.all_eq_true] at hFree
      intro p hp
      have hNot := of_decide_eq_true (hFree p hp)
      rwa [hOwn] at hNot
    rw [hOwn, h.live hWindow hNow]
    cases hEntry : t.state.cached key with
    | none =>
        refine h.set hi (.create w) rfl h.up _ rfl ?_ ?_ ?_ (.inr rfl)
          (fun _ => hWriter) (fun _ _ _ => hEntry) (fun w' n hCount => by cases hCount)
        · exact h.absent
        · exact h.present
        · exact h.within
    | some entry =>
        obtain ⟨value, expires⟩ := entry
        obtain ⟨n, hValue, -, -⟩ := h.present value expires hEntry
        have hNumber : value.toInt? = some n := by
          rw [hValue]
          exact Int.toInt?_repr n
        have hCounts : Stage.afterRead w (some ((some (value, expires)).map Prod.fst)) =
            .count w n := by
          simp [Stage.afterRead, hNumber]
        rw [hCounts]
        refine h.set hi (.count w n) rfl h.up _ rfl ?_ ?_ ?_ (.inr rfl)
          (fun _ => hWriter) (fun w' hCreate => by cases hCreate) ?_
        · exact h.absent
        · exact h.present
        · exact h.within
        · intro w' n' hCount _
          obtain ⟨-, rfl⟩ := Stage.count.inj hCount
          exact ⟨expires, by rw [hEntry, hValue]⟩
  · have hApart := afterRead_apart limit hOwn
      (some (t.state.server.cache.live t.state.server.clock (r.counterKey w)))
    exact h.quiet hi rfl hApart.1 h.up rfl hApart.2

/-- A new request. -/
theorem Counted.request (h : Counted windowSeconds key window limit t) (r : LimitedRequest) :
    Counted windowSeconds key window limit ⟨t.state, t.threads ++ [(r, .start)]⟩ := by
  have hCount : (t.threads ++ [(r, Stage.start)]).countP (passedBy key limit) =
      t.threads.countP (passedBy key limit) := by
    rw [List.countP_append]
    rfl
  have hOld : ∀ (j : Nat) (p : LimitedRequest × Stage),
      (t.threads ++ [(r, Stage.start)])[j]? = some p → p.2 ≠ .start →
      t.threads[j]? = some p := by
    intro j p hj hStart
    by_cases hLt : j < t.threads.length
    · rwa [List.getElem?_append_left hLt] at hj
    · rw [List.getElem?_append_right (by omega)] at hj
      have hNew := List.mem_singleton.1 (List.mem_of_getElem? hj)
      rw [hNew] at hStart
      exact absurd rfl hStart
  have hBusy : ∀ p : LimitedRequest × Stage, p.2.writes p.1 = some key → p.2 ≠ .start := by
    intro p hp hStart
    rw [hStart] at hp
    cases hp
  constructor
  · exact h.up
  · rw [hCount]
    exact h.absent
  · rw [hCount]
    exact h.present
  · rw [hCount]
    exact h.within
  · exact fun j r' w hj hKey => h.creates j r' w (hOld j _ hj (by simp)) hKey
  · exact fun j r' w n hj hKey => h.counts j r' w n (hOld j _ hj (by simp)) hKey
  · exact fun j j' p q hj hj' hp hq => h.single j j' p q (hOld j p hj (hBusy p hp))
      (hOld j' q hj' (hBusy q hq)) hp hq

/-- **One event.** -/
theorem Counted.step (h : Counted windowSeconds key window limit t)
    (settings : AuthSettings) (hWindow : 0 < windowSeconds) (hLimit : 1 ≤ limit)
    {r₀ : LimitedRequest} (hKey : r₀.counterKey window = key)
    {e : Event (rateLimits settings windowSeconds)}
    (hOrderly : t.orderly settings windowSeconds e = true) :
    Counted windowSeconds key window limit (t.step settings windowSeconds e) := by
  cases e with
  | request r => exact h.request r
  | external ms =>
      exact ⟨h.up, h.absent, h.present, h.within, h.creates, h.counts, h.single⟩
  | resume i f =>
      have hOrd : (t.threads[i]?).all (fun p => Tracked.undisturbed t.threads p &&
          Tracked.inWindow windowSeconds t.state.server.now p.2) = true := hOrderly
      show Counted windowSeconds key window limit (match t.threads[i]? with
        | none | some (_, .ended _) => t
        | some (r, stage) => ⟨Pool.effect f (stage.update settings windowSeconds r) t.state,
            t.threads.set i (r, Tracked.resumed f (stage.next windowSeconds r t.state))⟩)
      cases hi : t.threads[i]? with
      | none => exact h
      | some p =>
          obtain ⟨r, stage⟩ := p
          rw [hi] at hOrd
          simp only [Option.all_some, Bool.and_eq_true] at hOrd
          obtain ⟨hFree, hNow⟩ := hOrd
          -- a request that fails passes nowhere
          have hFails : ∀ e : Failure, passedBy key limit (r, .ended (.error e)) = false :=
            fun e => rfl
          cases stage with
          | ended res => exact h
          | start =>
              cases f with
              | none => exact h.quiet hi rfl rfl h.up rfl (fun hWrites => by cases hWrites)
              | before => exact h.quiet hi rfl (hFails _) h.up rfl fun hWrites => by cases hWrites
              | after => exact h.quiet hi rfl (hFails _) h.up rfl fun hWrites => by cases hWrites
          | read w =>
              have hIn : windowAt windowSeconds t.state.server.now = w := by
                simpa [Tracked.inWindow, Stage.window?] using hNow
              cases f with
              | none => exact h.readCounter hWindow hKey hi hFree hIn
              | before => exact h.quiet hi rfl (hFails _) h.up rfl fun hWrites => by cases hWrites
              | after => exact h.quiet hi rfl (hFails _) h.up rfl fun hWrites => by cases hWrites
          | create w =>
              have hIn : windowAt windowSeconds t.state.server.now = w := by
                simpa [Tracked.inWindow, Stage.window?] using hNow
              cases f with
              | none =>
                  exact h.created settings hWindow hLimit hKey hi hIn fun w' hOk =>
                    (Except.ok.inj hOk).symm
              | before => exact h.quiet hi rfl (hFails _) h.up rfl fun hWrites => by cases hWrites
              | after =>
                  exact h.created settings hWindow hLimit hKey hi hIn fun w' hOk => by cases hOk
          | count w n =>
              cases f with
              | none =>
                  have hNext : (Stage.count w n).next windowSeconds r t.state =
                      .ended (if r.limit < n + 1 then .error (apiError 429 .rateLimited)
                        else .ok w) := by
                    unfold Stage.next
                    rw [h.up]
                    by_cases hAbove : r.limit < n + 1 <;> simp [hAbove]
                  show Counted _ _ _ _ ⟨_, t.threads.set i (r, Stage.next windowSeconds r t.state
                    (.count w n))⟩
                  rw [hNext]
                  refine h.counted settings hi fun w' hOk => ?_
                  by_cases hAbove : r.limit < n + 1
                  · rw [if_pos hAbove] at hOk
                    cases hOk
                  · rw [if_neg hAbove] at hOk
                    exact ⟨(Except.ok.inj hOk).symm, by omega⟩
              | before => exact h.quiet hi rfl (hFails _) h.up rfl fun hWrites => by cases hWrites
              | after => exact h.counted settings hi fun w' hOk => by cases hOk

/-- **Along a run.** -/
theorem Counted.run (settings : AuthSettings) (hWindow : 0 < windowSeconds) (hLimit : 1 ≤ limit)
    {r₀ : LimitedRequest} (hKey : r₀.counterKey window = key)
    (es : List (Event (rateLimits settings windowSeconds)))
    (h : Counted windowSeconds key window limit t)
    (hOrderly : t.Orderly settings windowSeconds es) :
    Counted windowSeconds key window limit (t.run settings windowSeconds es) := by
  induction es generalizing t with
  | nil => exact h
  | cons e es ih => exact ih (h.step settings hWindow hLimit hKey hOrderly.1) hOrderly.2

/-- Before the first request, without a counter in the cache. -/
theorem counted_start {s : AuthWorld} (hUp : s.cacheDown = false) (hNew : s.cached key = none)
    (hLimit : 1 ≤ limit) : Counted windowSeconds key window limit ⟨s, []⟩ := by
  constructor
  · exact hUp
  · exact fun _ => rfl
  · intro value expires hEntry
    rw [hNew] at hEntry
    cases hEntry
  · show (0 : Int) ≤ limit
    omega
  · intro j r w hj
    cases hj
  · intro j r w n hj
    cases hj
  · intro i j p q hi
    cases hi

end Counter

/-! ## The bound -/

section Bound

/-- The request shares bucket and address with `r₀`, and has passed in the window under a
limit of at most that of `r₀`. -/
def passedIn (r₀ : LimitedRequest) (window : Int) : LimitedRequest × AuthHandler Int → Bool
  | (r, .done (.ok w)) =>
      decide (w = window ∧ r.bucket = r₀.bucket ∧ r.ip = r₀.ip ∧ r.limit ≤ r₀.limit)
  | _ => false

/-- A request that has passed used the counter of its window. -/
theorem passedBy_of_passedIn (settings : AuthSettings) (windowSeconds : Int)
    {r₀ : LimitedRequest} {window : Int} (p : LimitedRequest × Stage)
    (h : passedIn r₀ window (p.1, p.2.prog settings windowSeconds p.1) = true) :
    passedBy (r₀.counterKey window) r₀.limit p = true := by
  obtain ⟨r, stage⟩ := p
  rcases stage.prog_cases settings windowSeconds r with ⟨res, rfl⟩ | hAwait
  · cases res with
    | error e => cases h
    | ok w =>
        obtain ⟨rfl, hBucket, hIp, hLimit⟩ := of_decide_eq_true h
        have hSame : r.counterKey w = r₀.counterKey w := by
          unfold LimitedRequest.counterKey
          rw [hBucket, hIp]
        simp [passedBy, hSame, hLimit]
  · rw [hAwait] at h
    cases h

/-- **At most `limit` requests of a bucket and an address pass in one window**, in every run
that keeps the condition, on either cache.  The invariant counts, for every counter, the
requests that have passed against the number that is stored. -/
theorem passes_within_limit (settings : AuthSettings) {windowSeconds : Int}
    (hWindow : 0 < windowSeconds) {s₀ : AuthWorld} (hUp : s₀.cacheDown = false)
    (hNew : ∀ (r : LimitedRequest) (window : Int), s₀.cached (r.counterKey window) = none)
    (es : List (Event (rateLimits settings windowSeconds)))
    (hOrderly : (Tracked.mk s₀ []).Orderly settings windowSeconds es)
    (r₀ : LimitedRequest) (hLimit : 1 ≤ r₀.limit) (window : Int) :
    (((Pool.start s₀).run es).threads.countP (passedIn r₀ window) : Int) ≤ r₀.limit := by
  have hCounted := (counted_start hUp (hNew r₀ window) hLimit).run settings hWindow hLimit
    rfl es hOrderly
  have hPool : (Pool.start s₀).run es =
      ((Tracked.mk s₀ []).run settings windowSeconds es).pool settings windowSeconds :=
    ((Tracked.mk s₀ []).pool_run settings windowSeconds es).symm
  have hCount : ((Pool.start s₀).run es).threads.countP (passedIn r₀ window) ≤
      ((Tracked.mk s₀ []).run settings windowSeconds es).threads.countP
        (passedBy (r₀.counterKey window) r₀.limit) := by
    rw [hPool]
    calc _ = List.countP (fun p => passedIn r₀ window (p.1, p.2.prog settings windowSeconds p.1))
          ((Tracked.mk s₀ []).run settings windowSeconds es).threads := List.countP_map
      _ ≤ _ := List.countP_mono_left fun p _ => passedBy_of_passedIn settings windowSeconds p
  have hWithin := hCounted.within
  omega

/-- A request finds its counter at a number. -/
theorem Tracked.step_found (settings : AuthSettings) {windowSeconds : Int} {t : Tracked}
    (hUp : t.state.cacheDown = false) {i : Nat} {r : LimitedRequest} {w n : Int}
    (hi : t.threads[i]? = some (r, .read w))
    (hLive : t.state.server.cache.live t.state.server.clock (r.counterKey w) =
      some (toString n)) :
    t.step settings windowSeconds (.resume i .none) =
      { t with threads := t.threads.set i (r, .count w n) } := by
  have hNext : (Stage.read w).next windowSeconds r t.state = .count w n := by
    have hNumber : (toString n).toInt? = some n := Int.toInt?_repr n
    show Stage.afterRead w (t.state.callCache _).2 = _
    rw [callCache_up hUp, hLive]
    simp only [Stage.afterRead, hNumber]
  simp only [Tracked.step, hi, hNext]
  rfl

/-- Past its limit the request is refused. -/
theorem Tracked.step_refused (settings : AuthSettings) {windowSeconds : Int} {t : Tracked}
    (hUp : t.state.cacheDown = false) {i : Nat} {r : LimitedRequest} {w n : Int}
    (hi : t.threads[i]? = some (r, .count w n)) (hOver : r.limit < n + 1) :
    (t.step settings windowSeconds (.resume i .none)).threads =
      t.threads.set i (r, .ended (.error (apiError 429 .rateLimited))) := by
  have hNext : (Stage.count w n).next windowSeconds r t.state =
      .ended (.error (apiError 429 .rateLimited)) := by
    simp only [Stage.next, hUp, hOver, Bool.not_false, Bool.true_and, decide_true, if_true]
  simp only [Tracked.step, hi, hNext]
  rfl

namespace Sample

/-- One request a minute. -/
def limited : LimitedRequest where
  bucket := "signin"
  limit := 1

/-- A request that passes, and a second one up to its counter. -/
def secondReads : List (Event (rateLimits authSettings 60)) :=
  [.request limited, .resume 0 .none, .resume 0 .none, .resume 0 .none, .request limited,
    .resume 1 .none]

/-- The second request reads its counter and writes it. -/
def secondCounts : List (Event (rateLimits authSettings 60)) := [.resume 1 .none, .resume 1 .none]

/-- Two requests that read their counter before either writes it. -/
def twoLimited (settings : AuthSettings) : List (Event (rateLimits settings 60)) :=
  [.request limited, .request limited, .resume 0 .none, .resume 1 .none, .resume 0 .none,
    .resume 1 .none, .resume 0 .none, .resume 1 .none]

def limitedStart : Tracked := { state := AuthWorld.mk authServer authDb [] false 0 [] }

/-- Where the second request is about to read its counter. -/
abbrev atCounter : Tracked := limitedStart.run authSettings 60 secondReads

/-- The second request finds one request, and is one too many. -/
theorem second_refused :
    limitedStart.Orderly authSettings 60 (secondReads ++ secondCounts) ∧
      (limitedStart.run authSettings 60 (secondReads ++ secondCounts)).threads =
        [(limited, .ended (.ok 0)), (limited, .ended (.error (apiError 429 .rateLimited)))] := by
  have hThreads : atCounter.threads = [(limited, .ended (.ok 0)), (limited, .read 0)] := by
    decide +kernel
  have hUp : atCounter.state.cacheDown = false := by decide +kernel
  have hFound : atCounter.step authSettings 60 (.resume 1 .none) =
      { atCounter with threads := [(limited, .ended (.ok 0)), (limited, .count 0 1)] } := by
    have hLive : atCounter.state.server.cache.live atCounter.state.server.clock
        (limited.counterKey 0) = some (toString (1 : Int)) := by decide +kernel
    rw [Tracked.step_found authSettings hUp (by rw [hThreads]; rfl) hLive, hThreads]
    rfl
  have hEnd : limitedStart.run authSettings 60 (secondReads ++ secondCounts) =
      Tracked.step authSettings 60
        { atCounter with threads := [(limited, .ended (.ok 0)), (limited, .count 0 1)] }
        (.resume 1 .none) := by
    rw [← hFound]
    exact List.foldl_append
  refine ⟨⟨by decide +kernel, by decide +kernel, by decide +kernel, by decide +kernel,
    by decide +kernel, by decide +kernel, by decide +kernel, ?_, trivial⟩, ?_⟩
  · show Tracked.orderly authSettings 60 (atCounter.step authSettings 60 (.resume 1 .none)) _ = _
    rw [hFound]
    decide +kernel
  · rw [hEnd]
    exact Tracked.step_refused (n := 1) authSettings (t :=
      { atCounter with threads := [(limited, .ended (.ok 0)), (limited, .count 0 1)] }) hUp rfl
      (by decide)

end Sample

/-- The first request passes, and the second one is refused. -/
theorem passes_within_limit_sample :
    (((Pool.start Sample.limitedStart.state).run
        (Sample.secondReads ++ Sample.secondCounts)).threads.countP
          (passedIn Sample.limited 0) : Int) ≤ 1 ∧
      ((Pool.start Sample.limitedStart.state).run
        (Sample.secondReads ++ Sample.secondCounts)).threads.map (·.2.failed) =
          [false, true] := by
  obtain ⟨hOrderly, hThreads⟩ := Sample.second_refused
  refine ⟨passes_within_limit Sample.authSettings (by decide) rfl (fun _ _ => rfl)
    (Sample.secondReads ++ Sample.secondCounts) hOrderly Sample.limited (by decide) 0, ?_⟩
  have hPool := Sample.limitedStart.pool_run Sample.authSettings 60
    (Sample.secondReads ++ Sample.secondCounts)
  have hStart : (Pool.start Sample.limitedStart.state : Pool (rateLimits Sample.authSettings 60)) =
      Sample.limitedStart.pool Sample.authSettings 60 := rfl
  rw [hStart, ← hPool]
  simp only [Tracked.pool, hThreads]
  rfl

/-- Under a limit of one, two requests of a bucket and an address pass in one window, on
either cache: the answer of `set_if_absent` is not looked at. -/
theorem two_pass_at_once :
    ((Pool.start (AuthWorld.mk Sample.authServer Sample.authDb [] false 0 [])).run
      (Sample.twoLimited { Sample.authSettings with cache := .memory })).threads.countP
        (passedIn Sample.limited 0) = 2 ∧
    ((Pool.start (AuthWorld.mk Sample.authServer Sample.authDb [] false 0 [])).run
      (Sample.twoLimited { Sample.authSettings with cache := .redis })).threads.countP
        (passedIn Sample.limited 0) = 2 := by
  constructor <;> decide +kernel

end Bound

end AgentShield.Auth
