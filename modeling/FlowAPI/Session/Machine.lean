import FlowAPI.Semantics.Machine
import FlowAPI.Semantics.Pool
import Mathlib.Algebra.Order.Group.Int

/-! A login session, its entry in Redis and every call on it: `model/user_session.go`.

Times of the process are in nanoseconds, Redis compares milliseconds and the columns of the row hold seconds; all
three are read from one clock. A key of Redis is alive up to and including its expiry.

The calls are cut at their readings of the clock, their Redis commands, which succeed, and their statements, which may
fail. A transaction that locks the row is one step, except for the one of `RevokeUserSessionByRefreshHash`, which
writes to Redis while it holds the lock: until it ends no other call can write the row. -/

set_option autoImplicit false
namespace FlowAPI.Session

inductive Status where
  | active | revoking | revoked
  deriving DecidableEq, Repr

open Status

theorem revoking_ne_active : revoking ≠ .active := by decide
theorem revoked_ne_active : revoked ≠ .active := by decide

structure UserSession where
  sid : String
  (userID version userAuthVersion : Int)
  status : Status
  (refreshHash previousRefreshHash : String)
  previousValidUntil : Int
  (loginMethod ip userAgent : String)
  (createdAt lastActiveAt expiresAt revokedAt : Int)
  revokedReason : String
  deriving DecidableEq, Repr

structure CacheEntry where
  sid : String
  (userID version userAuthVersion : Int)
  status : Status
  (loginMethod ip userAgent : String)
  (createdAt lastActiveAt expiresAt revokedAt : Int)
  revokedReason : String
  deriving DecidableEq, Repr

variable (session : UserSession)

def UserSession.cacheEntry : CacheEntry :=
  { sid := session.sid, userID := session.userID, version := session.version
    userAuthVersion := session.userAuthVersion, status := session.status, loginMethod := session.loginMethod
    ip := session.ip, userAgent := session.userAgent, createdAt := session.createdAt
    lastActiveAt := session.lastActiveAt, expiresAt := session.expiresAt, revokedAt := session.revokedAt
    revokedReason := session.revokedReason }

def UserSession.denied (status : Status) (now : Int) (reason : String) : CacheEntry :=
  { session.cacheEntry with status, revokedAt := now, revokedReason := reason }

def UserSession.Active (now : Int) : Prop :=
  session.status = .active ∧ session.revokedAt = 0 ∧ now < session.expiresAt

instance (session : UserSession) (now : Int) : Decidable (session.Active now) := inferInstanceAs (Decidable (_ ∧ _))
def UserSession.revoke (now : Int) (reason : String) : UserSession :=
  { session with status := .revoked, revokedAt := now, revokedReason := reason }

/-- The checks and defaults of `CreateUserSession`, at a time in seconds. An empty
status of the source is `none` here. -/
def createUserSession (now : Int) (session : UserSession) (status : Option Status) : Option UserSession :=
  if session.sid = "" ∨ session.userID ≤ 0 ∨ session.userAuthVersion ≤ 0 ∨ session.refreshHash = "" ∨
      session.expiresAt ≤ now then none
  else if status.getD .active ≠ .active ∨ session.revokedAt ≠ 0 then none
  else some { session with
    version := if session.version ≤ 0 then 1 else session.version
    status := .active
    lastActiveAt := if session.lastActiveAt = 0 then now else session.lastActiveAt
    createdAt := if session.createdAt = 0 then now else session.createdAt }

theorem createUserSession_version {now : Int} {session row : UserSession} {status : Option Status}
    (created : createUserSession now session status = some row) : 0 < row.version := by
  unfold createUserSession at created
  split at created
  · cases created
  split at created
  · cases created
  cases created
  dsimp only
  split <;> omega

def unix (time : Int) : Int := time / 1000000000

def unixMilli (time : Int) : Int := time / 1000000

def userCacheTTLSeconds (configured : Int) : Int := if configured ≤ 0 then 60 else configured
def userSessionCacheDeadline (ttl time : Int) : Int := time + ttl * 1000000000

inductive WriteError where
  | invalid | stale | inactive

/-- The part of `writeUserSessionCache` before its script: the expiry of an active
entry as a point in time, that of another one as a lifetime, in milliseconds. -/
def redisExpiration (ttl : Int) (entry : CacheEntry) (deadline : Option Int) (time : Int) : Except WriteError Int :=
  let sessionExpiresAt := entry.expiresAt * 1000000000
  if entry.status = .active then
    match deadline with
    | none => .error .invalid
    | some deadline =>
      if deadline - time ≤ 0 then .error .stale
      else if sessionExpiresAt - time ≤ 0 then .error .inactive
      else if min deadline sessionExpiresAt - time < 1000000 then .error .stale
      else .ok (unixMilli (min deadline sessionExpiresAt))
  else
    let lifetime := min (sessionExpiresAt - time) (ttl * 1000000000)
    let lifetime := if lifetime ≤ 0 then 1000000000 else lifetime
    .ok (if unixMilli lifetime ≤ 0 then 1 else unixMilli lifetime)

structure Cached where
  entry : CacheEntry
  expiry : Int
  deriving DecidableEq, Repr

def live (cache : Option Cached) (time : Int) : Option CacheEntry :=
  match cache with
  | none => none
  | some cached => if unixMilli time ≤ cached.expiry then some cached.entry else none

/-- The script lets no active entry over a denial and no version over a later one. -/
def refuses (current : Option CacheEntry) (entry : CacheEntry) : Bool :=
  match current with
  | none => decide (entry.version < 0)
  | some found =>
    decide (entry.status = active ∧ found.status ≠ active) || decide (entry.version < found.version)

def runScript (cache : Option Cached) (entry : CacheEntry) (expiration time : Int) : Bool × Option Cached :=
  if refuses (live cache time) entry then (false, cache)
  else if entry.status = active then
    -- `PEXPIREAT` with a time that is not in the future deletes the key
    (true, if expiration ≤ unixMilli time then none else some ⟨entry, expiration⟩)
  else (true, some ⟨entry, unixMilli time + expiration⟩)

def completed (entry : CacheEntry) (deadline time : Int) : Except WriteError Unit :=
  if deadline ≤ time then .error .stale
  else if entry.expiresAt * 1000000000 ≤ time then .error .inactive
  else .ok ()

/-- Until when a denial that is written now keeps active entries out. -/
def denialEnd (ttl expiresAt time : Int) : Int := min (unixMilli time + ttl * 1000) (expiresAt * 1000 - 1)

theorem redisExpiration_denies {ttl time : Int} {entry : CacheEntry} {deadline : Option Int} {expiration : Int}
    (denies : entry.status ≠ .active) (prepared : redisExpiration ttl entry deadline time = .ok expiration) :
    denialEnd ttl entry.expiresAt time ≤ unixMilli time + expiration := by
  simp only [redisExpiration, if_neg denies] at prepared
  have lifetime := Except.ok.inj prepared
  simp only [denialEnd, unixMilli] at lifetime ⊢
  omega

theorem redisExpiration_active {ttl time deadline expiration : Int} {entry : CacheEntry}
    (active : entry.status = .active) (prepared : redisExpiration ttl entry (some deadline) time = .ok expiration) :
    expiration ≤ unixMilli deadline ∧ expiration ≤ entry.expiresAt * 1000 := by
  simp only [redisExpiration, if_pos active] at prepared
  split at prepared
  · cases prepared
  split at prepared
  · cases prepared
  split_ifs at prepared
  have expires := Except.ok.inj prepared
  simp only [unixMilli] at expires ⊢
  omega

open Semantics

structure Rotation where
  (presentedHash nextHash : String)
  (now graceSeconds : Int)
  deriving DecidableEq, Repr

inductive After where
  | fill (late : Bool) (session : UserSession)
  | publish | ignore
  | rotated (call : Rotation) (session : UserSession)
  | revoke (now : Int) (reason : String) (candidate : UserSession)
  | revokeByHash (now : Int) (reason : String)
  | revokeBatch (now : Int) (reason : String)
  | reuse (call : Rotation) (session : UserSession)
  | finalize
  deriving DecidableEq, Repr

/-- `late` marks a call of `GetUserSessionCached` that has begun after a revocation
has returned success. -/
inductive Job where
  | lookup (late : Bool)
  | capture (late : Bool)
  | readRow (late : Bool) (deadline : Int)
  | judge (late : Bool) (deadline : Int) (session : UserSession)
  | prepare (entry : CacheEntry) (deadline : Option Int) (after : After)
  | script (entry : CacheEntry) (deadline : Option Int) (expiration : Int) (after : After)
  | complete (entry : CacheEntry) (deadline : Int) (after : After)
  | confirm (late : Bool) (session : UserSession)
  | rotate (call : Rotation) (attempts : Nat)
  | rotateRead (call : Rotation) (attempts : Nat) (deadline : Int)
  | rotateSwap (call : Rotation) (attempts : Nat) (deadline : Int) (session : UserSession)
  | confirmRotated (call : Rotation) (session : UserSession)
  | reuseCommit (call : Rotation) (session : UserSession)
  | revokeRead (now : Int) (reason : String)
  | revokeCommit (now : Int) (reason : String) (candidate : UserSession)
  | hashBegin (now : Int) (presentedHash reason : String)
  | hashCommit (now : Int) (reason : String)
  | batchRead (now : Int) (reason : String)
  | batchCommit (now : Int) (reason : String)
  | advance (expectedVersion expectedUserAuthVersion nextUserAuthVersion : Int) (deadline : Int)
  | advanceCommit (expectedVersion expectedUserAuthVersion nextUserAuthVersion : Int) (deadline now : Int)
  deriving DecidableEq, Repr

/-- A rotation that has won the row returns its session unless the cache refuses it; `returned` and `raced` carry the
current hash of the session that is returned. Other errors leave no trace. -/
inductive Outcome where
  | won (call : Rotation)
  | returned (call : Rotation) (refreshHash : String)
  | raced (call : Rotation) (refreshHash : String)
  | invalid (call : Rotation)
  | reused (call : Rotation)
  deriving DecidableEq, Repr

structure State where
  clock : Int
  row : UserSession
  /-- The row as the transaction that holds its lock has read it. -/
  lock : Option UserSession
  cache : Option Cached
  jobs : List Job
  outcomes : List Outcome
  /-- Revocations that have returned success. -/
  revocations : Nat
  /-- Late calls that have returned the session as active. -/
  servedLate : Nat
  deriving DecidableEq, Repr

variable (state : State)

def State.serve (late : Bool) : State := { state with servedLate := state.servedLate + if late then 1 else 0 }
def State.record (outcome : Outcome) : State := { state with outcomes := state.outcomes ++ [outcome] }

def resume : After → Except WriteError Unit → State × List Job
  | .fill late session, .error .stale => (state, [.confirm late session])
  | .fill _ _, .error .inactive => (state, [])
  | .fill late _, _ => (state.serve late, [])
  | .publish, _ | .ignore, _ => (state, [])
  | .rotated call session, .error .stale => (state, [.confirmRotated call session])
  | .rotated _ _, .error .inactive => (state, [])
  | .rotated call session, _ => (state.record (.returned call session.refreshHash), [])
  | .revoke now reason candidate, .ok _ => (state, [.revokeCommit now reason candidate])
  | .revoke _ _ _, .error _ => (state, [])
  | .revokeByHash now reason, .ok _ => (state, [.hashCommit now reason])
  | .revokeByHash _ _, .error _ => ({ state with lock := none }, [])
  | .revokeBatch now reason, .ok _ => (state, [.batchCommit now reason])
  | .revokeBatch _ _, .error _ => (state, [])
  | .reuse call session, .ok _ => (state, [.reuseCommit call session])
  | .reuse _ _, .error _ => (state, [])
  -- a refused tombstone is only logged
  | .finalize, _ => ({ state with revocations := state.revocations + 1 }, [])

def Rotation.swap (call : Rotation) (current : String) (session : UserSession) : UserSession :=
  { session with
    previousRefreshHash := current, previousValidUntil := call.now + call.graceSeconds, refreshHash := call.nextHash
    lastActiveAt := call.now }

def Rotation.decide (call : Rotation) (attempts : Nat) (deadline : Int) (state : State) : State × List Job :=
  let session := state.row
  if ¬ session.Active call.now then (state, [])
  else if session.refreshHash = call.presentedHash then (state, [.rotateSwap call attempts deadline session])
  else if session.previousRefreshHash = "" ∨ session.previousRefreshHash ≠ call.presentedHash then
    (state.record (.invalid call), [])
  else if call.now ≤ session.previousValidUntil then (state.record (.raced call session.refreshHash), [])
  else
    -- a known secret outside its grace window: the whole session is revoked
    (state, [.prepare (session.denied .revoking call.now "refresh_reuse") none (.reuse call session)])

/-- The transaction of a revocation, and the tombstone of the row its caller has read. -/
def commitRevocation (now : Int) (reason : String) (snapshot : UserSession) : State × List Job :=
  ({ state with row := state.row.revoke now reason },
    [.prepare (snapshot.denied .revoked now reason) none .finalize])

def State.Confirms (state : State) (session : UserSession) : Prop :=
  state.row.Active (unix state.clock) ∧ state.row.version = session.version ∧
    state.row.userAuthVersion = session.userAuthVersion

instance (state : State) (session : UserSession) : Decidable (state.Confirms session) :=
  inferInstanceAs (Decidable (_ ∧ _))

/-- Run one job; with `fault` its statement fails. A job that has to write the row
waits while the row is locked. -/
def runJob (ttl : Int) (fault : Bool) (state : State) : Job → Option (State × List Job)
  | .lookup late =>
    some <| match live state.cache state.clock with
    | none => (state, [.capture late])
    | some entry =>
      -- an entry without its versions counts as a miss
      if entry.version ≤ 0 ∨ entry.userAuthVersion ≤ 0 then (state, [.capture late])
      else if entry.status ≠ .active ∨ entry.revokedAt ≠ 0 ∨ entry.expiresAt ≤ unix state.clock then (state, [])
      else (state.serve late, [])
  | .capture late => some (state, [.readRow late (userSessionCacheDeadline ttl state.clock)])
  | .readRow late deadline => some (if fault then (state, []) else (state, [.judge late deadline state.row]))
  | .judge late deadline session =>
    some <| if session.Active (unix state.clock) then
      (state, [.prepare session.cacheEntry (some deadline) (.fill late session)])
    else (state, [.prepare { session.cacheEntry with status := .revoked } none .ignore])
  | .prepare entry deadline after =>
    some <| match redisExpiration ttl entry deadline state.clock with
    | .error error => resume state after (.error error)
    | .ok expiration => (state, [.script entry deadline expiration after])
  | .script entry deadline expiration after =>
    let (accepted, cache) := runScript state.cache entry expiration state.clock
    let written := { state with cache }
    some <| if !accepted then resume written after (.error .inactive)
    else
      match deadline with
      | some deadline => if entry.status = .active then (written, [.complete entry deadline after])
          else resume written after (.ok ())
      | none => resume written after (.ok ())
  | .complete entry deadline after => some (resume state after (completed entry deadline state.clock))
  | .confirm late session =>
    some <| if !fault && decide (state.Confirms session) then (state.serve late, []) else (state, [])
  | .rotate call attempts =>
    some <| match attempts with
    | 0 => (state.record (.invalid call), [])
    | left + 1 => (state, [.rotateRead call left (userSessionCacheDeadline ttl state.clock)])
  | .rotateRead call attempts deadline => some (if fault then (state, []) else call.decide attempts deadline state)
  | .rotateSwap call attempts deadline session =>
    if state.lock ≠ none then none
    else if fault then some (state, [])
    else if state.row.Active call.now ∧ state.row.refreshHash = call.presentedHash then
      some ({ state with row := call.swap session.refreshHash state.row }.record (.won call),
        [.prepare (call.swap session.refreshHash session).cacheEntry (some deadline)
          (.rotated call (call.swap session.refreshHash session))])
    -- the compare-and-swap has lost: read the row again
    else some (state, [.rotate call attempts])
  | .confirmRotated call session =>
    some <| if !fault && decide (state.Confirms session) then
      (state.record (.returned call session.refreshHash), [])
    else (state, [])
  | .reuseCommit call session =>
    if state.lock ≠ none then none
    else if fault then some (state, [])
    else if state.row.Active call.now then
      some ({ state with row := state.row.revoke call.now "refresh_reuse" }.record (.reused call),
        [.prepare (session.denied .revoked call.now "refresh_reuse") none .ignore])
    else some (state, [])
  | .revokeRead now reason =>
    some <| if !fault && decide (state.row.Active now) then
      (state, [.prepare (state.row.denied .revoking now reason) none (.revoke now reason state.row)])
    else (state, [])
  | .revokeCommit now reason candidate =>
    if state.lock ≠ none then none
    else if !fault && decide (state.row.Active now) then some (commitRevocation state now reason candidate)
    else some (state, [])
  | .hashBegin now presentedHash reason =>
    if state.lock ≠ none then none
    else if !fault && decide (state.row.Active now ∧ (state.row.refreshHash = presentedHash ∨
        state.row.previousRefreshHash ≠ "" ∧ now ≤ state.row.previousValidUntil ∧
          state.row.previousRefreshHash = presentedHash)) then
      some ({ state with lock := some state.row },
        [.prepare (state.row.denied .revoking now reason) none (.revokeByHash now reason)])
    else some (state, [])
  | .hashCommit now reason =>
    match state.lock with
    | none => none
    | some session =>
      if fault then some ({ state with lock := none }, [])
      else some (commitRevocation { state with lock := none } now reason session)
  | .batchRead now reason =>
    some <| if !fault && decide (state.row.status = .active ∧ now < state.row.expiresAt) then
      (state, [.prepare (state.row.denied .revoking now reason) none (.revokeBatch now reason)])
    else (state, [])
  | .batchCommit now reason =>
    if state.lock ≠ none then none
    else if !fault && decide (state.row.status = .active) then
      -- the tombstone is written for the rows this transaction has read, not for the candidates
      some (commitRevocation state now reason state.row)
    else some (state, [])
  | .advance expectedVersion expectedUserAuthVersion nextUserAuthVersion deadline =>
    some (state, [.advanceCommit expectedVersion expectedUserAuthVersion nextUserAuthVersion deadline
      (unix state.clock)])
  | .advanceCommit expectedVersion expectedUserAuthVersion nextUserAuthVersion deadline now =>
    if state.lock ≠ none then none
    else if !fault && decide (state.row.status = .active ∧ now < state.row.expiresAt ∧
        state.row.version = expectedVersion ∧ state.row.userAuthVersion = expectedUserAuthVersion) then
      let session := { state.row with
        version := state.row.version + 1, userAuthVersion := nextUserAuthVersion, lastActiveAt := now }
      some ({ state with row := session }, [.prepare session.cacheEntry (some deadline) .publish])
    else some (state, [])

inductive Event where
  | get
  | rotate (call : Rotation)
  | revoke (reason : String)
  | revokeByHash (presentedHash reason : String)
  | revokeBatch (reason : String)
  | advance (expectedVersion expectedUserAuthVersion nextUserAuthVersion : Int)
  | run (index : Nat) (fault : Bool)
  | tick (nanoseconds : Nat)

def Event.start (ttl : Int) (state : State) : Event → List Job
  | .get => [.lookup (decide (0 < state.revocations))]
  | .rotate call =>
    if call.presentedHash = "" ∨ call.nextHash = "" ∨ call.presentedHash = call.nextHash ∨
      call.graceSeconds < 0 then []
    else [.rotate { call with now := if call.now ≤ 0 then unix state.clock else call.now } 3]
  | .revoke reason => [.revokeRead (unix state.clock) reason]
  | .revokeByHash presentedHash reason =>
    if presentedHash = "" then [] else [.hashBegin (unix state.clock) presentedHash reason]
  | .revokeBatch reason => [.batchRead (unix state.clock) reason]
  | .advance expectedVersion expectedUserAuthVersion nextUserAuthVersion =>
    if expectedVersion ≤ 0 ∨ expectedUserAuthVersion ≤ 0 ∨ nextUserAuthVersion ≤ expectedUserAuthVersion then []
    else [.advance expectedVersion expectedUserAuthVersion nextUserAuthVersion
      (userSessionCacheDeadline ttl state.clock)]
  | .run _ _ | .tick _ => []

def step (ttl : Int) (state : State) : Event → Option State
  | .run index fault =>
    (state.jobs[index]?).bind fun job =>
      (runJob ttl fault state job).map fun (after, next) => { after with jobs := Pool.replace state.jobs index next }
  | .tick nanoseconds => some { state with clock := state.clock + nanoseconds }
  | event => some { state with jobs := state.jobs ++ event.start ttl state }

def machine (ttl : Int) : Machine State Event := ⟨step ttl⟩

def State.created (ttl clock : Int) (row : UserSession) : State :=
  { clock, row, lock := none, cache := none
    jobs := [.prepare row.cacheEntry (some (userSessionCacheDeadline ttl clock)) .publish]
    outcomes := [], revocations := 0, servedLate := 0 }

end FlowAPI.Session
