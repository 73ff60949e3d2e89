import FlowAPI.Semantics.Machine
import Mathlib.Algebra.Order.Ring.Rat

/-! The authentication state of one browser tab, and refreshing it.

`stores/auth-store.ts` keeps who is signed in, `lib/auth-session.ts` changes it. Every sign-in, sign-out and rotation
moves `authEpoch` on, which is what a refresh that is under way looks at.

`refreshAuthentication` starts a run of `createRefreshRunner` unless one is under way. Between two `await`s of a run
anything else may happen in the tab, so a stage is what a run waits for. -/

set_option autoImplicit false
namespace FlowAPI.WebClient

/-- A number of the language; a literal out of range is read as an infinity. -/
inductive Number where
  | finite (value : ℚ)
  | infinite (negative : Bool)

/-- What a body is read as. A member that is missing is undefined, here `none`. -/
inductive Value where
  | null
  | bool (value : Bool)
  | number (value : Number)
  | string (value : String)
  | array (elements : List Value)
  | object (members : List (String × Value))

def Value.member (name : String) : Value → Option Value
  | .object members => members.lookup name
  | _ => none

def Value.asBool : Value → Option Bool
  | .bool value => some value
  | _ => none

def Value.asNumber : Value → Option Number
  | .number value => some value
  | _ => none

def Value.asString : Value → Option String
  | .string value => some value
  | _ => none

/-- `typeof value === 'object'` holds of arrays as well. -/
def isRecord : Value → Bool
  | .array _ | .object _ => true
  | _ => false

structure AuthUser where
  id : Nat
  username : String
  role : Number

structure LoginSession where
  sid : String
  current : Bool
  (loginMethod ip userAgent : String)
  (createdAt lastActiveAt expiresAt : Number)

structure AuthBundle where
  (accessToken tokenType : String)
  accessExpiresAt : ℚ
  user : AuthUser
  session : LoginSession

structure AuthTokenRotation where
  (accessToken tokenType : String)
  accessExpiresAt : ℚ
  session : LoginSession

/-! ## Type guards

A guard answers with the value at the type it narrows to. -/

variable (value : Value)

def isAuthUser : Option AuthUser := do
  let .finite id ← (← value.member "id").asNumber | none
  guard (id.den = 1 ∧ 0 < id)
  let username ← (← value.member "username").asString
  let role ← (← value.member "role").asNumber
  return ⟨id.num.toNat, username, role⟩

def isLoginSession : Option LoginSession := do
  let sid ← (← value.member "sid").asString
  guard (0 < sid.length)
  let current ← (← value.member "current").asBool
  let loginMethod ← (← value.member "login_method").asString
  let ip ← (← value.member "ip").asString
  let userAgent ← (← value.member "user_agent").asString
  let createdAt ← (← value.member "created_at").asNumber
  let lastActiveAt ← (← value.member "last_active_at").asNumber
  let expiresAt ← (← value.member "expires_at").asNumber
  return ⟨sid, current, loginMethod, ip, userAgent, createdAt, lastActiveAt, expiresAt⟩

def hasValidTokenFields : Option (String × String × ℚ) := do
  let accessToken ← (← value.member "access_token").asString
  guard (0 < accessToken.length)
  let tokenType ← (← value.member "token_type").asString
  guard (0 < tokenType.length)
  let .finite accessExpiresAt ← (← value.member "access_expires_at").asNumber | none
  guard (0 < accessExpiresAt)
  return (accessToken, tokenType, accessExpiresAt)

def isAuthBundle : Option AuthBundle := do
  let (accessToken, tokenType, accessExpiresAt) ← hasValidTokenFields value
  let user ← isAuthUser (← value.member "user")
  let session ← isLoginSession (← value.member "session")
  return ⟨accessToken, tokenType, accessExpiresAt, user, session⟩

def isAuthTokenRotation : Option AuthTokenRotation := do
  let (accessToken, tokenType, accessExpiresAt) ← hasValidTokenFields value
  guard (tokenType = "Bearer")
  let session ← isLoginSession (← value.member "session")
  guard session.current
  return ⟨accessToken, tokenType, accessExpiresAt, session⟩

inductive BootstrapState where
  | idle | checking | complete
  deriving DecidableEq, Repr

structure Store where
  user : Option AuthUser
  accessToken : Option String
  accessExpiresAt : Option ℚ
  session : Option LoginSession
  bootstrapState : BootstrapState

namespace Store

def initial : Store := ⟨none, none, none, none, .idle⟩
def sid (store : Store) : Option String := store.session.map LoginSession.sid

def setBundle (bundle : AuthBundle) (_ : Store) : Store :=
  { user := some bundle.user, accessToken := some bundle.accessToken
    accessExpiresAt := some bundle.accessExpiresAt, session := some bundle.session, bootstrapState := .complete }

def setBootstrapState (bootstrapState : BootstrapState) (store : Store) : Store := { store with bootstrapState }
def reset (bootstrapState : BootstrapState) (_ : Store) : Store := ⟨none, none, none, none, bootstrapState⟩

end Store

inductive AuthSessionEvent where
  | authenticated (sid : String)
  | signedOut (sid : String)

structure Auth where
  authEpoch : Nat
  store : Store
  published : List AuthSessionEvent

namespace Auth

def initial : Auth := ⟨0, .initial, []⟩

/-- `publishAuthSessionEvent`: a session without an id is not announced. -/
def publish (event : String → AuthSessionEvent) (sid : String) (auth : Auth) : Auth :=
  if sid = "" then auth else { auth with published := auth.published ++ [event sid] }

def applyAuthBundle (bundle : AuthBundle) (synchronizeTabs : Bool) (auth : Auth) : Auth :=
  let previousSID := auth.store.sid
  let applied := { auth with authEpoch := auth.authEpoch + 1, store := auth.store.setBundle bundle }
  if synchronizeTabs ∧ previousSID ≠ some bundle.session.sid then applied.publish .authenticated bundle.session.sid
  else applied

def applyAuthRotation (value : Value) (auth : Auth) : Except String Auth :=
  match isAuthTokenRotation value with
  | none => .error "Invalid authentication rotation response"
  | some rotation =>
    match auth.store.user, auth.store.session with
    | some user, some session =>
      if rotation.session.sid ≠ session.sid then .error "Authentication rotation session mismatch"
      else .ok (auth.applyAuthBundle
        ⟨rotation.accessToken, rotation.tokenType, rotation.accessExpiresAt, user, rotation.session⟩ false)
    | _, _ => .error "Authentication rotation has no active session"

def clearAuthentication (synchronizeTabs : Bool) (bootstrapState : BootstrapState) (auth : Auth) : Auth :=
  let cleared := { auth with
    authEpoch := auth.authEpoch + 1, store := auth.store.reset bootstrapState }
  match auth.store.sid with
  | some sid => if synchronizeTabs then cleared.publish .signedOut sid else cleared
  | none => cleared

@[simp] theorem publish_authEpoch (event : String → AuthSessionEvent) (sid : String) (auth : Auth) :
    (auth.publish event sid).authEpoch = auth.authEpoch := by
  unfold publish
  split_ifs <;> rfl

@[simp] theorem applyAuthBundle_authEpoch (bundle : AuthBundle) (synchronizeTabs : Bool) (auth : Auth) :
    (auth.applyAuthBundle bundle synchronizeTabs).authEpoch = auth.authEpoch + 1 := by
  simp only [applyAuthBundle]
  split_ifs
  · exact publish_authEpoch _ _ _
  · rfl

@[simp] theorem clearAuthentication_authEpoch (synchronizeTabs : Bool) (bootstrapState : BootstrapState)
    (auth : Auth) : (auth.clearAuthentication synchronizeTabs bootstrapState).authEpoch = auth.authEpoch + 1 := by
  simp only [clearAuthentication]
  split
  · split_ifs
    · exact publish_authEpoch _ _ _
    · rfl
  · rfl

theorem applyAuthRotation_authEpoch {value : Value} {auth rotated : Auth}
    (applied : auth.applyAuthRotation value = .ok rotated) : rotated.authEpoch = auth.authEpoch + 1 := by
  simp only [applyAuthRotation] at applied
  split at applied
  · cases applied
  split at applied
  · split_ifs at applied
    cases applied
    exact applyAuthBundle_authEpoch _ _ _
  · cases applied

end Auth

open Semantics Value

/-- The status is 0 when no answer came. -/
structure RefreshResponse where
  status : Nat
  data : Option Value

inductive TransientCause where
  | superseded
  | answered (response : RefreshResponse)
  | locks

inductive RefreshOutcome where
  | authenticated (bundle : AuthBundle)
  | anonymous
  | transientError (cause : TransientCause)
  | outOfSync (code : String)

inductive Stage where
  | locked
  | requested (raceAttempt : Nat) (allowMismatchRetry : Bool)
  | delayed (delay raceAttempt : Nat) (allowMismatchRetry : Bool)
  | settled (outcome : RefreshOutcome)
  | rejected

structure Refresh where
  refreshEpoch : Nat
  requests : List (Option String)
  stage : Stage

def refreshRaceDelays : List Nat := [80, 200, 500]
def Auth.isCurrent (refreshEpoch : Nat) (auth : Auth) : Bool := auth.authEpoch = refreshEpoch

def Auth.clear (synchronizeTabs : Bool) (bootstrapState : Option BootstrapState) (auth : Auth) : Auth :=
  if synchronizeTabs = false ∧ bootstrapState = some .idle then { auth with store := auth.store.reset .idle }
  else auth.clearAuthentication synchronizeTabs (bootstrapState.getD .complete)

def Auth.markTransient (auth : Auth) : Auth := { auth with store := auth.store.setBootstrapState .idle }

namespace Refresh

def settle (outcome : RefreshOutcome) (refresh : Refresh) : Refresh := { refresh with stage := .settled outcome }

def run (auth : Auth) (raceAttempt : Nat) (allowMismatchRetry : Bool) (refresh : Refresh) : Refresh :=
  if auth.isCurrent refresh.refreshEpoch then
    { refresh with
      requests := refresh.requests ++ [auth.store.sid], stage := .requested raceAttempt allowMismatchRetry }
  else refresh.settle (.transientError .superseded)

def answer (auth : Auth) (raceAttempt : Nat) (allowMismatchRetry : Bool) (response : RefreshResponse)
    (refresh : Refresh) : Auth × Refresh :=
  if auth.isCurrent refresh.refreshEpoch then
    let responseData := response.data.filter isRecord
    let code := (responseData.bind (member "code")).bind asString
    let success := (responseData.bind (member "success")).bind asBool = some true
    match if success then (responseData.bind (member "data")).bind isAuthBundle else none with
    | some bundle => (auth.applyAuthBundle bundle false, refresh.settle (.authenticated bundle))
    | none =>
      if response.status = 409 ∧ code = some "AUTH_REFRESH_RACE" then
        match refreshRaceDelays[raceAttempt]? with
        | some delay => (auth, { refresh with stage := .delayed delay (raceAttempt + 1) allowMismatchRetry })
        | none => (auth.clear false none, refresh.settle (.outOfSync "AUTH_REFRESH_RACE"))
      else if response.status = 409 ∧ code = some "AUTH_SESSION_MISMATCH" then
        if allowMismatchRetry then
          (auth.clear false (some .idle), refresh.run (auth.clear false (some .idle)) 0 false)
        else (auth.clear false none, refresh.settle (.outOfSync "AUTH_SESSION_MISMATCH"))
      else if response.status = 401 then (auth.clear true none, refresh.settle .anonymous)
      else if response.status = 0 ∨ 500 ≤ response.status ∨ response.status = 429 then
        (auth.markTransient, refresh.settle (.transientError (.answered response)))
      else (auth.clear false none, refresh.settle (.outOfSync (code.getD "AUTH_INVALID_REFRESH_RESPONSE")))
  else (auth, refresh.settle (.transientError .superseded))

def inFlight (refresh : Refresh) : Bool :=
  match refresh.stage with
  | .settled _ | .rejected => false
  | _ => true

end Refresh

/-- `refreshPromise` is the position of the run whose promise it is. `changes` counts the
sign-ins, sign-outs and rotations that took effect; no code reads it. -/
structure Tab where
  auth : Auth
  refreshPromise : Option Nat
  runs : List Refresh
  changes : Nat

/-- The lock manager of the browser, where it has one. -/
inductive Locks where
  | absent | present | throws

inductive Wake where
  | granted | refused
  | answered (response : RefreshResponse)
  | elapsed

inductive Event where
  | refresh (locks : Locks)
  | bootstrap (now : Nat) (locks : Locks)
  | resume (index : Nat) (wake : Wake)
  | finalize (index : Nat)
  | signIn (bundle : AuthBundle) (synchronizeTabs : Bool)
  | signOut (synchronizeTabs : Bool) (bootstrapState : BootstrapState)
  | rotate (value : Value)

/-- The part of `performRefreshWithBrowserLock` before its first `await`. -/
def performRefreshWithBrowserLock (auth : Auth) (refreshEpoch : Nat) : Locks → Auth × Refresh
  | .absent => (auth, Refresh.run auth 0 true ⟨refreshEpoch, [], .locked⟩)
  | .present => (auth, ⟨refreshEpoch, [], .locked⟩)
  | .throws => (auth.markTransient, ⟨refreshEpoch, [], .settled (.transientError .locks)⟩)

def Refresh.resume (auth : Auth) (refresh : Refresh) : Wake → Option (Auth × Refresh)
  | .granted =>
    match refresh.stage with
    | .locked => some (auth, refresh.run auth 0 true)
    | _ => none
  | .refused =>
    match refresh.stage with
    | .locked => some (auth, { refresh with stage := .rejected })
    | _ => none
  | .answered response =>
    match refresh.stage with
    | .requested raceAttempt allowMismatchRetry => some (refresh.answer auth raceAttempt allowMismatchRetry response)
    | _ => none
  | .elapsed =>
    match refresh.stage with
    | .delayed _ raceAttempt allowMismatchRetry => some (auth, refresh.run auth raceAttempt allowMismatchRetry)
    | _ => none

namespace Tab

def loaded : Tab := ⟨.initial, none, [], 0⟩

def refreshAuthentication (locks : Locks) (tab : Tab) : Tab :=
  match tab.refreshPromise with
  | some _ => tab
  | none =>
    let begun := performRefreshWithBrowserLock tab.auth tab.auth.authEpoch locks
    { tab with auth := begun.1, refreshPromise := some tab.runs.length, runs := tab.runs ++ [begun.2] }

def currentValidAuthBundle (now : Nat) (store : Store) : Option AuthBundle := do
  let user ← store.user
  let accessToken ← store.accessToken
  let accessExpiresAt ← store.accessExpiresAt
  let session ← store.session
  guard (accessToken ≠ "" ∧ accessExpiresAt ≠ 0 ∧ (now : ℚ) < accessExpiresAt)
  return ⟨accessToken, "Bearer", accessExpiresAt, user, session⟩

def setBootstrapState (bootstrapState : BootstrapState) (tab : Tab) : Tab :=
  { tab with auth := { tab.auth with store := tab.auth.store.setBootstrapState bootstrapState } }

def bootstrapAuthentication (now : Nat) (locks : Locks) (tab : Tab) : Tab :=
  match currentValidAuthBundle now tab.auth.store with
  | some _ => tab.setBootstrapState .complete
  | none =>
    let hasStaleSession := tab.auth.store.user.isSome && tab.auth.store.session.isSome
    if tab.auth.store.bootstrapState = .complete ∧ hasStaleSession = false then tab
    else (tab.setBootstrapState .checking).refreshAuthentication locks

def step (tab : Tab) : Event → Option Tab
  | .refresh locks => some (tab.refreshAuthentication locks)
  | .bootstrap now locks => some (tab.bootstrapAuthentication now locks)
  | .resume index wake => do
    let refresh ← tab.runs[index]?
    let resumed ← refresh.resume tab.auth wake
    return { tab with auth := resumed.1, runs := tab.runs.set index resumed.2 }
  | .finalize index => do
    -- the callback of `finally` runs once the promise is settled
    let refresh ← tab.runs[index]?
    guard (refresh.inFlight = false ∧ tab.refreshPromise = some index)
    return { tab with refreshPromise := none }
  | .signIn bundle synchronizeTabs => some { tab with
      auth := tab.auth.applyAuthBundle bundle synchronizeTabs, changes := tab.changes + 1 }
  | .signOut synchronizeTabs bootstrapState => some { tab with
      auth := tab.auth.clearAuthentication synchronizeTabs bootstrapState, changes := tab.changes + 1 }
  | .rotate value =>
    match tab.auth.applyAuthRotation value with
    | .ok auth => some { tab with auth, changes := tab.changes + 1 }
    | .error _ => some tab

def machine : Machine Tab Event := ⟨step⟩

end Tab

end FlowAPI.WebClient
