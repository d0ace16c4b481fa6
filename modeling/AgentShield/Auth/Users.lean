import AgentShield.Auth.World

/-!
# Users, the audit log and the rate limits

The steps that the routes of authentication are made of, as far as they work on the users
and on the audit log, and the rate limit in front of them.
-/

namespace AgentShield.Auth

open AgentShield.Lib AgentShield.Sdk AgentShield.Server

variable (settings : AuthSettings)

/-! ## The audit log -/

/-- What a route tells the audit trail, before the row gets its id and its time. -/
structure AuditEvent where
  event : AuthEvent
  userId : Option String := none
  orgId : Option String := none
  ip : Option String := none
  userAgent : Option String := none
  detail : List (String × Json) := []

def AuditEvent.row (a : AuditEvent) (auditId : String) (now : Int) : AuditRow where
  auditId := auditId
  event := a.event
  userId := a.userId
  orgId := a.orgId
  ip := a.ip
  userAgent := a.userAgent
  detail := a.detail
  createdAt := now

/-- `audit.record`: one row of the audit trail. -/
def insertAudit (a : AuditEvent) (reason : Reason := .plain) : AuthHandler Nat :=
  executeNow settings.prim (fun now n => .insertAudit (a.row (settings.prim.uuid n) now)) reason

theorem insertAudit_writes {S : Statement → Reason → Prop} {settings} {reason : Reason}
    (hAudit : ∀ row, S (.insertAudit row) reason) (a : AuditEvent) :
    WritesOnly settings.prim S (insertAudit settings a reason) :=
  executeNow_writes fun _ _ => hAudit _

/-! ## Users -/

/-- `LOCKOUT_THRESHOLD`: the failures in a row that lock an account. -/
def lockoutThreshold : Nat := 5

/-- `LOCKOUT_MINUTES_SCHEDULE`: the minutes of the first locks; the last entry stands for all
further ones. -/
def lockoutMinutesSchedule : List Nat := [5, 10, 20, 30]

/-- The minutes of lockout after a number of failures in a row: none up to the threshold,
then the schedule, whose last value repeats. -/
def lockoutMinutesFor (failedCount : Nat) : Nat :=
  let excess := failedCount - lockoutThreshold
  if excess = 0 then 0
  else lockoutMinutesSchedule.getD (min (excess - 1) (lockoutMinutesSchedule.length - 1)) 0

/-- The end of the lockout that begins at `now`. -/
def lockedUntilFor (failedCount : Nat) (now : Int) : Option Int :=
  if lockoutMinutesFor failedCount = 0 then none
  else some (now + lockoutMinutesFor failedCount * 60000)

/-- An account is locked out while its status says so and its lock has not run out. -/
def lockoutIsActive (user : User) (now : Int) : Bool :=
  user.status = .locked ∧ ∃ lockedUntil ∈ user.lockedUntil, now < lockedUntil

/-- The first user of an organisation, or one who accepts an invite. -/
structure NewUser where
  email : String
  password : String
  name : String := ""
  orgId : String
  role : Role
  invitedBy : Option String := none

/-- The row of a new account, with its password hashed under the active pepper. -/
def NewUser.user (new : NewUser) (n : Nat) (now : Int) : User :=
  let hashed := PasswordHasherService.hash settings.prim settings.peppers n new.password
  { userId := settings.prim.uuid n
    email := new.email
    passwordHash := hashed.1
    passwordPepperKid := hashed.2
    name := new.name
    createdAt := now
    updatedAt := now }

/-- The membership that a new account starts with. -/
def NewUser.membership (new : NewUser) (n : Nat) (now : Int) : Membership where
  userId := settings.prim.uuid n
  orgId := new.orgId
  role := new.role
  invitedBy := new.invitedBy
  joinedAt := now

/-- `create_user`: the account and its membership in one transaction, and the account read
back. -/
def createUser (new : NewUser) (reason : Reason) : AuthHandler User := do
  let n ← executeNow settings.prim
    (fun now n => .insertUser (new.user settings n now) (new.membership settings n now)) reason
  let found ← fetch fun db => db.findByUserId (settings.prim.uuid n)
  Async.require found .lookup

/-- The row of the audit trail that tells of a lock, where there is one. -/
def auditLock (userId : String) (ip userAgent : Option String) (failedCount : Nat) :
    Option Int → AuthHandler Unit
  | none => pure ()
  | some lockedUntil => do
      let _ ← insertAudit settings
        { event := .accountLock
          userId := userId
          ip := ip
          userAgent := userAgent
          detail := [("failed_count", .int failedCount), ("locked_until", .int lockedUntil)] }

/-- The counter after one more failure; it starts at zero where there is no row. -/
def newFailedCount (row : Option User) : Nat := (row.map (·.failedLoginCount)).getD 0 + 1

/-- Counts a wrong password.  The counter is read on a connection of its own, outside the
transaction that writes it, so the row lock of the read ends with the read. -/
def recordFailedLogin (user : User) (ip userAgent : Option String) : AuthHandler Unit := do
  let row ← fetch fun db => db.findByUserId user.userId
  let newCount := newFailedCount row
  let time ← nowMs
  let lockedUntil := lockedUntilFor newCount time
  let _ ← executeNow settings.prim
    (fun now _ => .setFailedLogin newCount lockedUntil now user.userId)
    (.failedLogin user row time)
  auditLock settings user.userId ip userAgent newCount lockedUntil

/-- `reset_failed_login`: the counter goes to zero and the lock away. -/
def resetFailedLogin (userId : String) (reason : Reason) : AuthHandler Nat :=
  executeNow settings.prim (fun now _ => .resetFailedLogin now userId) reason

/-- Stores a fresh hash of a password and returns it. -/
def updatePasswordHash (userId password : String) (reason : Reason) : AuthHandler String := do
  let n ← executeNow settings.prim
    (fun now n =>
      let hashed := PasswordHasherService.hash settings.prim settings.peppers n password
      .setPasswordHash hashed.1 hashed.2 now userId) reason
  return (PasswordHasherService.hash settings.prim settings.peppers n password).1

def setTotpEnabled (userId : String) (enabled : Bool) (reason : Reason) : AuthHandler Nat :=
  executeNow settings.prim (fun now _ => .setTotpEnabled enabled now userId) reason

def setEmailVerified (userId : String) (reason : Reason) : AuthHandler Nat :=
  executeNow settings.prim (fun now _ => .setEmailVerified now userId) reason

/-- `change_role`: one UPDATE, which answers as well where the user is no member. -/
def changeRole (userId orgId : String) (role : Role) (reason : Reason) : AuthHandler Nat :=
  execute settings.prim (fun _ => .setRole role userId orgId) reason

/-! ## Rate limits -/

/-- An HTTP request as the handlers see it; the names of the headers are in lower case. -/
structure Http where
  method : String := "POST"
  headers : Dict String String := []
  cookies : Dict String String := []
  client : Option String := none
  deriving DecidableEq

def Http.userAgent (http : Http) : Option String := Dict.get? http.headers "user-agent"

/-- A text that Python takes for true. -/
def nonempty (text : Option String) : Option String := text.filter (· ≠ "")

/-- `str.strip`. -/
def stripSpace (text : String) : String :=
  String.ofList (((text.toList.dropWhile isSpace).reverse.dropWhile isSpace).reverse)

/-- `client_ip`: the first of the proxy headers that is there, its first entry, or the address
of the connection. -/
def clientIp (headers : Dict String String) (fallback : Option String := none) :
    Option String :=
  let names := [("x-forwarded-for", "X-Forwarded-For"), ("x-real-ip", "X-Real-Ip"),
    ("forwarded", "Forwarded")]
  let raw := names.findSome? fun name =>
    nonempty ((nonempty (Dict.get? headers name.1)).or (Dict.get? headers name.2))
  match raw with
  | some raw => some (stripSpace (String.ofList (raw.toList.takeWhile (· ≠ ','))))
  | none => fallback

structure RateLimitConfig where
  bucket : String
  limit : Int := 10
  windowSeconds : Int := 60

/-- Overwrites an entry of the cache. -/
def CacheBackend.set (backend : CacheBackend) (cache : Cache) (key value : String) : Cache :=
  match backend with
  | memory => cache.set key value
  | redis => { cache with store := Dict.set cache.store key (value, none) }

def cacheGet (key : String) : AuthHandler (Option (Option String)) :=
  onCache fun w => (w, w.cache.live w.clock key)

/-- The cache's `set_if_absent`, or nothing where the cache cannot be reached. -/
def cacheSetIfAbsent (key value : String) (ttlSeconds : Int) : AuthHandler (Option Bool) :=
  onCache fun w => w.setIfAbsent key value ttlSeconds

def cacheSet (key value : String) : AuthHandler (Option Unit) :=
  onCache fun w => ({ w with cache := settings.cache.set w.cache key value }, ())

/-- The request is over the limit.  It is not when the cache fails or holds no number. -/
def incrementAndCheck (key : String) (limit windowSeconds : Int) : AuthHandler Bool := do
  match ← cacheGet key with
  | none => return false
  | some none => do
      let _ ← cacheSetIfAbsent key "1" windowSeconds
      return false
  | some (some existing) =>
      match existing.toInt? with
      | none => return false
      | some count => do
          let answer ← cacheSet settings key (toString (count + 1))
          return answer.isSome && decide (limit < count + 1)

/-- The cache key of a bucket, an address and the window that the time falls in. -/
def rateLimitKey (config : RateLimitConfig) (ip : String) (now : Int) : String :=
  "ratelimit:" ++ config.bucket ++ ":" ++ ip ++ ":" ++
    toString (now / 1000 / config.windowSeconds)

/-- `enforce_or_block`: a request over the limit of its bucket is answered 429. -/
def enforceOrBlock (config : RateLimitConfig) (headers : Dict String String)
    (fallbackIp : Option String) : AuthHandler Unit := do
  let ip := (nonempty (clientIp headers fallbackIp)).getD "unknown"
  let now ← nowMs
  let exceeded ← incrementAndCheck settings (rateLimitKey config ip now) config.limit
    config.windowSeconds
  Async.raiseIf (exceeded = true) (apiError 429 .rateLimited)

end AgentShield.Auth
