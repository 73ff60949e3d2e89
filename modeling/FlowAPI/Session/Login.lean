import FlowAPI.Session.Machine

/-! Logins of one user, and the limit on the sessions they open.

`createLoginSession` of `service/auth_session.go` counts the active sessions, then the ones
issued lately, and inserts a row. Nothing is held between the statements: the documentation
accepts that logins at the same time exceed the limit by a few, and the bound below says by how many.
-/

set_option autoImplicit false
namespace FlowAPI.Session
open Semantics List Machine UserSession

structure LoginSettings where
  (userID userSessionActiveLimit userSessionIssuanceLimit userSessionIssuanceWindowSeconds loginSessionTTL : Int)
  /-- `strings.TrimSpace`. -/
  trimSpace : String → String
  /-- A string cut to so many bytes. -/
  truncate : String → Nat → String

structure LoginRequest where
  expectedAuthVersion : Int
  (loginMethod ip userAgent : String)
  deriving DecidableEq, Repr

/-- `ErrLoginSession..`, `ErrUserSession..` and, as `failed`, any other error. -/
inductive LoginError where
  | failed | loginInvalid | loginRevoked | sessionInvalid | sessionInactive | activeLimit | issuanceLimit
  deriving DecidableEq, Repr

/-- The statement a login comes to next; `now` is its reading of the clock. -/
inductive Login where
  | loadUser (request : LoginRequest)
  | countActive (request : LoginRequest) (authVersion now : Int)
  | countIssued (request : LoginRequest) (authVersion now : Int)
  | create (request : LoginRequest) (authVersion now : Int)
  | issue (sid : String)
  | returned (sid : String)
  | refused (error : LoginError)
  deriving DecidableEq, Repr

structure Logins where
  clock : Int
  rows : List UserSession
  logins : List Login
  deriving DecidableEq, Repr

open Logins

structure CachedUser where
  enabled : Bool
  authVersion : Int

/-- `cacheRefused` is a new row whose entry the cache does not take. -/
structure LoginInput where
  user : Option CachedUser
  (sid refreshHash : String)
  (cacheRefused fault : Bool)

def UserSession.counted (now : Int) (session : UserSession) : Bool :=
  session.status = .active ∧ now < session.expiresAt
def activeSessions (rows : List UserSession) (now : Int) : Nat := rows.countP (counted now)

/-- `rows` are the rows of the user; a reading of the clock that is not positive is taken again. -/
def countActiveUserSessions (rows : List UserSession) (userID now clock : Int) : Except LoginError Nat :=
  if userID ≤ 0 then .error .sessionInvalid else .ok (activeSessions rows (if now ≤ 0 then clock else now))

def countUserSessionsCreatedSince (rows : List UserSession) (userID createdAfter : Int) : Except LoginError Nat :=
  if userID < 0 ∨ createdAfter ≤ 0 then .error .sessionInvalid
  else .ok (rows.countP fun session => createdAfter < session.createdAt)

variable (settings : LoginSettings)

def truncateAuthMetadata (value : String) (max : Nat) : String := settings.truncate (settings.trimSpace value) max

def loginSession (request : LoginRequest) (authVersion now : Int) (input : LoginInput) : UserSession :=
  let loginMethod := settings.trimSpace request.loginMethod
  { sid := input.sid, userID := settings.userID, version := 1, userAuthVersion := authVersion
    status := .active, refreshHash := input.refreshHash, previousRefreshHash := "", previousValidUntil := 0
    loginMethod := if loginMethod = "" then "unknown" else loginMethod
    ip := truncateAuthMetadata settings request.ip 64
    userAgent := truncateAuthMetadata settings request.userAgent 512
    createdAt := now, lastActiveAt := now, expiresAt := now + settings.loginSessionTTL
    revokedAt := 0, revokedReason := "" }

def revokeRow (now : Int) (sid reason : String) (rows : List UserSession) : List UserSession :=
  rows.map fun session => if session.sid = sid ∧ session.Active now then session.revoke now reason else session

def runLogin (input : LoginInput) (state : Logins) : Login → List UserSession × Login
  | .loadUser request =>
    (state.rows, match input.user with
      | none => .refused .failed
      | some user =>
        if user.enabled = false ∨ user.authVersion ≤ 0 then .refused .loginInvalid
        else if 0 < request.expectedAuthVersion ∧ user.authVersion ≠ request.expectedAuthVersion then
          .refused .loginRevoked
        else .countActive request user.authVersion state.clock)
  | .countActive request authVersion now =>
    (state.rows, if input.fault then .refused .failed
      else
        match countActiveUserSessions state.rows settings.userID now state.clock with
        | .error error => .refused error
        | .ok count =>
          if settings.userSessionActiveLimit ≤ count then .refused .activeLimit
          else .countIssued request authVersion now)
  | .countIssued request authVersion now =>
    (state.rows, if input.fault then .refused .failed
      else
        match countUserSessionsCreatedSince state.rows settings.userID
            (now - settings.userSessionIssuanceWindowSeconds) with
        | .error error => .refused error
        | .ok count =>
          if settings.userSessionIssuanceLimit ≤ count then .refused .issuanceLimit
          else .create request authVersion now)
  | .create request authVersion now =>
    match createUserSession state.clock (loginSession settings request authVersion now input) (some .active) with
    | none => (state.rows, .refused .sessionInvalid)
    | some row =>
      if input.fault then (state.rows, .refused .failed)
      else (state.rows ++ [row], if input.cacheRefused then .refused .sessionInactive else .issue row.sid)
  | .issue sid =>
    if input.fault then (revokeRow state.clock sid "token_issue_failed" state.rows, .refused .failed)
    else (state.rows, .returned sid)
  | .returned sid => (state.rows, .returned sid)
  | .refused error => (state.rows, .refused error)

inductive LoginEvent where
  | login (request : LoginRequest)
  | run (index : Nat) (input : LoginInput)
  | revoke (sid reason : String)
  | delete (sid : String)
  | tick (seconds : Nat)

def loginStep (state : Logins) : LoginEvent → Option Logins
  | .login request => some { state with logins := state.logins ++ [.loadUser request] }
  | .run index input =>
    (state.logins[index]?).map fun login =>
      let (rows, next) := runLogin settings input state login
      { state with rows, logins := state.logins.set index next }
  | .revoke sid reason => some { state with rows := revokeRow state.clock sid reason state.rows }
  | .delete sid => some { state with rows := state.rows.filter fun session => session.sid ≠ sid }
  | .tick seconds => some { state with clock := state.clock + seconds }

def loginMachine : Machine Logins LoginEvent := ⟨loginStep settings⟩
def Logins.active (state : Logins) : Nat := activeSessions state.rows state.clock

def Login.pending : Login → Bool
  | .countIssued _ _ _ | .create _ _ _ => true
  | _ => false

def Logins.pending (state : Logins) : Nat := state.logins.countP Login.pending

/-- Fewer than `overlap` other logins are pending when a login counts. -/
def Logins.Admits (overlap : Nat) (state : Logins) : Option Login → Prop
  | some (.countActive _ _ _) => state.pending < overlap
  | _ => True

def Overlapping (overlap : Nat) (state : Logins) : LoginEvent → Prop
  | .run index _ => state.Admits overlap state.logins[index]?
  | _ => True

instance (overlap : Nat) (state : Logins) : (login : Option Login) → Decidable (state.Admits overlap login) := fun _ => by
  unfold Logins.Admits
  split <;> infer_instance

instance (overlap : Nat) : DecidableRel (Overlapping overlap) := fun _ _ => by
  unfold Overlapping
  split <;> infer_instance

def Login.ReadBy (clock : Int) : Login → Prop
  | .countActive _ _ now | .countIssued _ _ now | .create _ _ now => now ≤ clock
  | _ => True

/-- The sessions that are active and those that are still to come are at most `bound`. -/
structure Logins.Within (bound : Int) (state : Logins) : Prop where
  room : (state.active + state.pending : Int) ≤ bound
  readings : ∀ login ∈ state.logins, login.ReadBy state.clock

theorem activeSessions_anti {earlier later : Int} (order : earlier ≤ later) (rows : List UserSession) :
    activeSessions rows later ≤ activeSessions rows earlier := by
  refine countP_mono_left fun session _ counted => ?_
  simp only [UserSession.counted, decide_eq_true_eq] at counted ⊢
  exact ⟨counted.1, lt_of_le_of_lt order counted.2⟩

theorem revokeRow_active (now time : Int) (sid reason : String) (rows : List UserSession) :
    activeSessions (revokeRow now sid reason rows) time ≤ activeSessions rows time := by
  unfold activeSessions revokeRow
  rw [countP_map]
  refine countP_mono_left fun session _ counted => ?_
  simp only [Function.comp, UserSession.counted] at counted ⊢
  split_ifs at counted with revoked
  · simp [revoke] at counted
  · exact counted

inductive LoginMove (settings : LoginSettings) (state : Logins) (login : Login) :
    List UserSession → Login → Prop where
  | stays {rows : List UserSession} {next : Login}
      (fewer : activeSessions rows state.clock ≤ state.active)
      (pending : next.pending = true → login.pending = true) : LoginMove settings state login rows next
  | passes (request : LoginRequest) (authVersion now seen : Int)
      (here : login = .countActive request authVersion now) (past : now ≤ state.clock → seen ≤ state.clock)
      (free : activeSessions state.rows seen < settings.userSessionActiveLimit) :
      LoginMove settings state login state.rows (.countIssued request authVersion now)
  | inserts {next : Login} (row : UserSession) (here : login.pending = true) (done : next.pending = false) :
      LoginMove settings state login (state.rows ++ [row]) next

theorem runLogin_move (input : LoginInput) (state : Logins) (login : Login) :
    LoginMove settings state login (runLogin settings input state login).1 (runLogin settings input state login).2 := by
  cases login with simp only [runLogin]
  | loadUser =>
    refine .stays le_rfl fun pending => ?_
    split at pending
    · cases pending
    · split_ifs at pending <;> cases pending
  | countActive request authVersion now =>
    split_ifs with fault
    · exact .stays le_rfl fun pending => by cases pending
    split
    · exact .stays le_rfl fun pending => by cases pending
    next count counted =>
      split_ifs with full
      · exact .stays le_rfl fun pending => by cases pending
      unfold countActiveUserSessions at counted
      split_ifs at counted <;> cases counted
      · exact .passes request authVersion now state.clock rfl (fun _ => le_rfl) (not_le.mp full)
      · exact .passes request authVersion now now rfl id (not_le.mp full)
  | countIssued => exact .stays le_rfl fun _ => rfl
  | create =>
    split
    · exact .stays le_rfl fun _ => rfl
    split_ifs
    · exact .stays le_rfl fun _ => rfl
    · exact .inserts _ rfl rfl
    · exact .inserts _ rfl rfl
  | issue =>
    split_ifs
    · exact .stays (revokeRow_active _ _ _ _ _) fun pending => by cases pending
    · exact .stays le_rfl fun pending => by cases pending
  | returned | refused => exact .stays le_rfl fun pending => by cases pending

theorem runLogin_readBy {settings : LoginSettings} {input : LoginInput} {state : Logins} {login : Login}
    (readBy : login.ReadBy state.clock) : (runLogin settings input state login).2.ReadBy state.clock := by
  cases login with simp only [runLogin]
  | loadUser =>
    split
    · trivial
    split_ifs
    · trivial
    · trivial
    · exact le_rfl
  | countActive | countIssued =>
    split_ifs
    · trivial
    split
    · trivial
    split_ifs
    · trivial
    · exact readBy
  | create =>
    split
    · trivial
    · split_ifs <;> trivial
  | issue => split_ifs <;> trivial
  | returned | refused => trivial

theorem Login.ReadBy.mono {earlier later : Int} {login : Login} (readBy : login.ReadBy earlier)
    (order : earlier ≤ later) : login.ReadBy later := by
  cases login with
  | countActive | countIssued | create => exact le_trans readBy order
  | loadUser | issue | returned | refused => trivial

section
variable {settings : LoginSettings} {overlap : Nat} {bound : Int}

section
variable (enough : settings.userSessionActiveLimit + overlap ≤ bound + 1)
include enough

theorem run_within {input : LoginInput} {state : Logins} {index : Nat} {login : Login} (within : state.Within bound)
    (admitted : Overlapping overlap state (.run index input)) (here : state.logins[index]? = some login) :
    Logins.Within bound { state with
      rows := (runLogin settings input state login).1
      logins := state.logins.set index (runLogin settings input state login).2 } := by
  have read : login.ReadBy state.clock := within.readings login (mem_of_getElem? here)
  constructor
  · have room := within.room
    have swapped := Pool.countP_set here (runLogin settings input state login).2 Login.pending
    have move := runLogin_move settings input state login
    generalize (runLogin settings input state login).1 = rows at move ⊢
    generalize (runLogin settings input state login).2 = next at move swapped ⊢
    simp only [active, pending] at room ⊢
    cases move with
    | stays fewer pending =>
      have order : (if next.pending then 1 else 0) ≤ (if login.pending then 1 else 0) := by
        split_ifs with later earlier
        · exact le_rfl
        · exact absurd (pending later) earlier
        · exact Nat.zero_le _
        · exact le_rfl
      unfold active at fewer
      omega
    | passes _ _ _ _ stage past =>
      subst stage
      -- the count was below the limit, and fewer than `overlap` logins may still insert
      have others : state.Admits overlap state.logins[index]? := admitted
      rw [here] at others
      have others : state.logins.countP Login.pending < overlap := others
      have sooner := activeSessions_anti (past read) state.rows
      simp only [Login.pending] at swapped
      simp only [Bool.false_eq_true, if_false, if_true] at swapped
      omega
    | inserts row pending done =>
      -- the row takes the place of a pending login
      have grown : activeSessions (state.rows ++ [row]) state.clock ≤
          activeSessions state.rows state.clock + 1 := by
        unfold activeSessions
        rw [countP_append]
        have := countP_le_length (p := counted state.clock) (l := [row])
        simp only [length_singleton] at this
        omega
      rw [pending, done] at swapped
      simp only [Bool.false_eq_true, if_false, if_true] at swapped
      omega
  · exact Pool.forall_set within.readings (runLogin_readBy read)

theorem loginStep_within {state next : Logins} {event : LoginEvent} (within : state.Within bound)
    (admitted : Overlapping overlap state event) (stepped : loginStep settings state event = some next) :
    next.Within bound := by
  cases event with
  | login =>
    cases stepped
    constructor
    · simpa [active, pending, Login.pending] using within.room
    · exact forall_mem_append.mpr ⟨within.readings, forall_mem_singleton.mpr trivial⟩
  | run =>
    obtain ⟨login, here, rfl⟩ := Option.map_eq_some_iff.mp stepped
    exact run_within enough within admitted here
  | revoke sid reason =>
    cases stepped
    have fewer := revokeRow_active state.clock state.clock sid reason state.rows
    have room := within.room
    refine ⟨?_, within.readings⟩
    simp only [active, pending] at room ⊢
    omega
  | delete sid =>
    cases stepped
    have fewer : activeSessions (state.rows.filter fun session => session.sid ≠ sid) state.clock ≤
        activeSessions state.rows state.clock := filter_sublist.countP_le
    have room := within.room
    refine ⟨?_, within.readings⟩
    simp only [active, pending] at room ⊢
    omega
  | tick seconds =>
    cases stepped
    have later : state.clock ≤ state.clock + seconds := by omega
    have fewer := activeSessions_anti later state.rows
    have room := within.room
    refine ⟨?_, fun login member => (within.readings login member).mono later⟩
    simp only [active, pending] at room ⊢
    omega

end

end

/-- The active sessions exceed the limit by less than the number of logins that are between
their count and their insertion at once. -/
theorem active_sessions_bounded (settings : LoginSettings) (overlap : Nat) {start final : Logins}
    {events : List LoginEvent} (run : (loginMachine settings).Runs (Overlapping overlap) start events final)
    (fresh : start.logins = []) (within : (start.active : Int) ≤ settings.userSessionActiveLimit) :
    (final.active : Int) ≤ settings.userSessionActiveLimit + (overlap - 1 : Nat) := by
  have enough : settings.userSessionActiveLimit + overlap ≤
      settings.userSessionActiveLimit + (overlap - 1 : Nat) + 1 := by omega
  have initially : start.Within (settings.userSessionActiveLimit + (overlap - 1 : Nat)) := by
    constructor
    · simp only [pending, fresh, countP_nil]
      omega
    · intro login member
      rw [fresh] at member
      cases member
  have final_within := run.invariant (Logins.Within (settings.userSessionActiveLimit + (overlap - 1 : Nat)))
    (fun _ _ _ holds admitted stepped => loginStep_within enough holds admitted stepped) initially
  have room := final_within.room
  omega

def singleSession : LoginSettings :=
  { userID := 9, userSessionActiveLimit := 1, userSessionIssuanceLimit := 100
    userSessionIssuanceWindowSeconds := 3600, loginSessionTTL := 86400, trimSpace := id
    truncate := fun value _ => value }

def passwordLogin : LoginRequest := ⟨0, "password", "10.0.0.1", "browser"⟩
def loginInput (sid : String) : LoginInput := ⟨some ⟨true, 1⟩, sid, "hash-" ++ sid, false, false⟩
def noSessions : Logins := ⟨1700000000, [], []⟩

def wholeLogin (index : Nat) (sid : String) : List LoginEvent :=
  .login passwordLogin :: replicate 5 (.run index (loginInput sid))

def sequentialLogins : List LoginEvent := wholeLogin 0 "a" ++ wholeLogin 1 "b"

def afterLogins (events : List LoginEvent) : Logins :=
  ((loginMachine singleSession).exec unrestricted noSessions events).getD noSessions

theorem active_sessions_bounded_sequential :
    (loginMachine singleSession).Runs (Overlapping 1) noSessions sequentialLogins
      (afterLogins sequentialLogins) ∧ (afterLogins sequentialLogins).active ≤ (1 : Int) :=
  have run : (loginMachine singleSession).Runs (Overlapping 1) noSessions sequentialLogins
      (afterLogins sequentialLogins) := runs_iff_exec.mpr (by decide)
  ⟨run, active_sessions_bounded singleSession 1 run rfl (by decide)⟩

/-- Two logins that take turns, so that both count before either inserts. -/
def overlappingLogins : List LoginEvent :=
  [.login passwordLogin, .login passwordLogin] ++
    (replicate 5 [LoginEvent.run 0 (loginInput "a"), .run 1 (loginInput "b")]).flatten

/-- Both return a session where one is allowed. -/
theorem overlapping_logins_exceed_limit : (loginMachine singleSession).Runs unrestricted noSessions overlappingLogins
        (afterLogins overlappingLogins) ∧
      (afterLogins overlappingLogins).logins = [.returned "a", .returned "b"] ∧
      (afterLogins overlappingLogins).active = 2 ∧ singleSession.userSessionActiveLimit = 1 :=
  ⟨runs_iff_exec.mpr (by decide), by decide, by decide, rfl⟩

end FlowAPI.Session
