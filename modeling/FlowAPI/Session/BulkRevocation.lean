import FlowAPI.Golang.Map
import FlowAPI.Session.Machine
import Mathlib.Data.List.Sort

/-! One call of `revokeUserSessions` among everything else that happens to the sessions.

The call reads a batch of candidates, denies each of them in the cache, revokes the ones that are still active, and
begins again until it reads none. In between other calls create sessions, write rows and entries, and revoke; they too
deny a session first. Rows that are deleted are not written again, and a session identifier is used once. -/

set_option autoImplicit false
namespace FlowAPI.Session
open Semantics List Golang.Map

def userSessionRevokeBatchSize : Nat := 500

/-- The arguments of the call, its reading of the clock in seconds, and the lifetime of entries and the key of a
session in the cache. -/
structure BulkCall where
  userID : Int
  (excludedSID reason : String)
  (now ttl : Int)
  userSessionCacheKey : String → String

inductive BulkStage where
  | query
  | fence (pending candidates : List UserSession)
  | commit (candidates : List UserSession)
  | finalize (revoked : List UserSession)
  | returned | failed
  deriving DecidableEq, Repr

/-- `clock` is in nanoseconds. `issued` and `denials` record which identifiers were used and
the millisecond to which the newest denial that the cache has taken for a session lives. -/
structure Sessions where
  clock : Int
  rows : List UserSession
  cache : Golang.Map String Cached
  issued : List String
  denials : Golang.Map String Int
  stage : BulkStage
  totalAffected : Nat
  deriving DecidableEq

variable (call : BulkCall)

def BulkCall.selects (session : UserSession) : Bool :=
  session.userID = call.userID ∧ session.status = .active ∧ call.now < session.expiresAt ∧
    (call.excludedSID ≠ "" → session.sid ≠ call.excludedSID)

def BulkCall.candidates (rows : List UserSession) : List UserSession :=
  ((rows.filter call.selects).insertionSort fun left right => left.sid ≤ right.sid).take userSessionRevokeBatchSize

variable (state : Sessions)

def Sessions.writeUserSessionCache (entry : CacheEntry) (deadline : Option Int) (reading : Int) : Bool × Sessions :=
  match redisExpiration call.ttl entry deadline (min reading state.clock) with
  | .error _ => (false, state)
  | .ok expiration =>
    match runScript (state.cache.get? (call.userSessionCacheKey entry.sid)) entry expiration state.clock with
    | (false, _) => (false, state)
    | (true, none) => (true, { state with cache := state.cache.delete (call.userSessionCacheKey entry.sid) })
    | (true, some cached) =>
      (true, { state with
        cache := state.cache.set (call.userSessionCacheKey entry.sid) cached
        denials := if entry.status = .active then state.denials else state.denials.set entry.sid cached.expiry })

structure BulkInput where
  fault : Bool
  reading : Int

def revokeSelected (now : Int) (reason : String) (sids : List String) (rows : List UserSession) : List UserSession :=
  rows.map fun session => if session.sid ∈ sids ∧ session.status = .active then session.revoke now reason else session
def lockedRows (sids : List String) (rows : List UserSession) : List UserSession :=
  rows.filter fun session => session.sid ∈ sids ∧ session.status = .active

def BulkCall.firstStage : BulkStage := if call.userID ≤ 0 then .failed else .query

def Sessions.advance (input : BulkInput) (state : Sessions) : Option Sessions :=
  match state.stage with
  | .query =>
    some { state with stage :=
      if input.fault then .failed
      else
        let candidates := call.candidates state.rows
        if candidates = [] then .returned else .fence candidates candidates }
  | .fence [] candidates => some { state with stage := .commit candidates }
  | .fence (session :: pending) candidates =>
    if input.fault then some { state with stage := .failed }
    else
      match state.writeUserSessionCache call (session.denied .revoking call.now call.reason) none input.reading with
      | (false, after) => some { after with stage := .failed }
      | (true, after) => some { after with stage := .fence pending candidates }
  | .commit candidates =>
    if input.fault then some { state with stage := .failed }
    else
      let sids := candidates.map UserSession.sid
      let revoked := lockedRows sids state.rows
      some { state with
        rows := revokeSelected call.now call.reason (revoked.map UserSession.sid) state.rows
        stage := .finalize revoked, totalAffected := state.totalAffected + revoked.length }
  | .finalize [] => some { state with stage := .query }
  | .finalize (session :: rest) =>
    -- a tombstone that is not written is only logged
    let after := if input.fault then state
      else (state.writeUserSessionCache call (session.denied .revoked call.now call.reason) none input.reading).2
    some { after with stage := .finalize rest }
  | .returned | .failed => none

inductive BulkEvent where
  /-- The call's next statement. -/
  | own (input : BulkInput)
  /-- Another call writes an entry, inserts a row, updates one, revokes one it has denied,
  or deletes one. -/
  | write (entry : CacheEntry) (deadline : Option Int) (reading : Int)
  | create (session : UserSession)
  | update (session : UserSession)
  | revoke (sid : String) (now : Int) (reason : String)
  | delete (sid : String)
  | tick (nanoseconds : Nat)

def UserSession.updatedTo (session change : UserSession) : UserSession :=
  { change with
    sid := session.sid, userID := session.userID, status := session.status, expiresAt := session.expiresAt
    revokedAt := session.revokedAt, revokedReason := session.revokedReason }

def updateRow (change : UserSession) (rows : List UserSession) : List UserSession :=
  rows.map fun session => if session.sid = change.sid then session.updatedTo change else session
def Sessions.Denied (sid : String) : Prop := (state.denials.get? sid).isSome
instance (state : Sessions) (sid : String) : Decidable (state.Denied sid) := inferInstanceAs (Decidable (_ = true))

def bulkStep : BulkEvent → Option Sessions
  | .own input => state.advance call input
  | .write entry deadline reading => some (state.writeUserSessionCache call entry deadline reading).2
  | .create session =>
    if session.sid ∈ state.issued then none
    else some { state with rows := state.rows ++ [session], issued := state.issued ++ [session.sid] }
  | .update change => some { state with rows := updateRow change state.rows }
  | .revoke sid now reason =>
    if state.Denied sid then some { state with rows := revokeSelected now reason [sid] state.rows } else none
  | .delete sid => some { state with rows := state.rows.filter fun session => session.sid ≠ sid }
  | .tick nanoseconds => some { state with clock := state.clock + nanoseconds }

def bulkMachine : Machine Sessions BulkEvent := ⟨bulkStep call⟩

def Sessions.Fenced (sid : String) : Prop :=
  ∃ entry, live (state.cache.get? (call.userSessionCacheKey sid)) state.clock = some entry ∧ entry.status ≠ .active

def Sessions.Lapsed (sid : String) : Prop :=
  (state.denials.get? sid).any fun lifetime => decide (lifetime < unixMilli state.clock)

instance (state : Sessions) (sid : String) : Decidable (state.Lapsed sid) := inferInstanceAs (Decidable (_ = true))

structure Records (call : BulkCall) (clock : Int) (cache : Golang.Map String Cached)
    (denials : Golang.Map String Int) : Prop where
  newest : ∀ sid cached, cache.get? (call.userSessionCacheKey sid) = some cached →
    cached.entry.status ≠ .active → denials.get? sid = some cached.expiry
  kept : ∀ sid lifetime, denials.get? sid = some lifetime → unixMilli clock ≤ lifetime →
    ∃ entry, cache.get? (call.userSessionCacheKey sid) = some ⟨entry, lifetime⟩ ∧ entry.status ≠ .active

def Sessions.Recorded : Prop := Records call state.clock state.cache state.denials

theorem Sessions.Recorded.fenced_iff {call : BulkCall} {state : Sessions} (recorded : state.Recorded call)
    {sid : String} (denied : state.Denied sid) : state.Fenced call sid ↔ ¬ state.Lapsed sid := by
  obtain ⟨lifetime, taken⟩ := Option.isSome_iff_exists.mp denied
  have alive : state.Lapsed sid ↔ lifetime < unixMilli state.clock := by simp [Lapsed, taken]
  rw [alive, not_lt]
  constructor
  · rintro ⟨entry, lives, denies⟩
    cases here : state.cache.get? (call.userSessionCacheKey sid) with
    | none => simp [live, here] at lives
    | some cached =>
      simp only [live, here, Option.ite_none_right_eq_some, Option.some.injEq] at lives
      obtain ⟨inTime, rfl⟩ := lives
      cases taken.symm.trans (recorded.newest sid cached here denies)
      exact inTime
  · intro inTime
    obtain ⟨entry, here, denies⟩ := recorded.kept sid lifetime taken inTime
    exact ⟨entry, by simp [live, here, inTime], denies⟩

/-- What a write of an entry does: nothing, or one key of the cache and, for a denial, the record. -/
inductive CacheEffect (call : BulkCall) (state : Sessions) (entry : CacheEntry) : Bool → Sessions → Prop where
  | refused : CacheEffect call state entry false state
  | dropped (active : entry.status = .active)
      (free : ∀ found, live (state.cache.get? (call.userSessionCacheKey entry.sid)) state.clock = some found →
        found.status = .active) :
      CacheEffect call state entry true
        { state with cache := state.cache.delete (call.userSessionCacheKey entry.sid) }
  | filled (cached : Cached) (same : cached.entry = entry) (active : entry.status = .active)
      (free : ∀ found, live (state.cache.get? (call.userSessionCacheKey entry.sid)) state.clock = some found →
        found.status = .active) :
      CacheEffect call state entry true
        { state with cache := state.cache.set (call.userSessionCacheKey entry.sid) cached }
  | denied (cached : Cached) (same : cached.entry = entry) (denies : entry.status ≠ .active) :
      CacheEffect call state entry true
        { state with
          cache := state.cache.set (call.userSessionCacheKey entry.sid) cached
          denials := state.denials.set entry.sid cached.expiry }

theorem writeUserSessionCache_effect (entry : CacheEntry) (deadline : Option Int) (reading : Int) :
    CacheEffect call state entry (state.writeUserSessionCache call entry deadline reading).1
      (state.writeUserSessionCache call entry deadline reading).2 := by
  unfold Sessions.writeUserSessionCache
  cases redisExpiration call.ttl entry deadline (min reading state.clock) with
  | error => exact .refused
  | ok expiration =>
    unfold runScript
    by_cases refused : refuses (live (state.cache.get? (call.userSessionCacheKey entry.sid)) state.clock) entry
    · simp only [refused, if_true]
      exact .refused
    by_cases active : entry.status = .active
    · have free : ∀ found,
          live (state.cache.get? (call.userSessionCacheKey entry.sid)) state.clock = some found →
          found.status = .active := by
        intro found here
        by_contra other
        exact refused (by simp [refuses, here, active, other])
      simp only [refused, active, if_true]
      by_cases late : expiration ≤ unixMilli state.clock
      · simp only [late, if_true]
        exact .dropped active free
      · simp only [late, if_false]
        exact .filled ⟨entry, expiration⟩ rfl active free
    · simp only [refused, active, if_false]
      exact .denied ⟨entry, unixMilli state.clock + expiration⟩ rfl active

section
variable {call : BulkCall} {state after : Sessions} {entry : CacheEntry} {accepted : Bool}

theorem CacheEffect.denied_kept (effect : CacheEffect call state entry accepted after) {sid : String}
    (denied : state.Denied sid) : after.Denied sid := by
  cases effect with
  | refused | dropped | filled => exact denied
  | denied =>
    unfold Sessions.Denied at *
    rw [get?_set]
    split_ifs
    · rfl
    · exact denied

theorem CacheEffect.isDenied (effect : CacheEffect call state entry true after)
    (denies : entry.status ≠ .active) : after.Denied entry.sid := by
  cases effect with
  | dropped active | filled _ _ active => exact absurd active denies
  | denied cached => simp [Sessions.Denied, get?_set]

theorem recorded_of_free (injective : Function.Injective call.userSessionCacheKey) (recorded : state.Recorded call)
    (free : ∀ found, live (state.cache.get? (call.userSessionCacheKey entry.sid)) state.clock = some found →
      found.status = .active) {cache : Golang.Map String Cached}
    (own : ∀ cached, cache.get? (call.userSessionCacheKey entry.sid) = some cached → cached.entry.status = .active)
    (others : ∀ key, key ≠ call.userSessionCacheKey entry.sid → cache.get? key = state.cache.get? key) :
    { state with cache }.Recorded call := by
  constructor
  · intro sid cached here denies
    by_cases same : sid = entry.sid
    · subst same
      exact absurd (own cached here) denies
    · exact recorded.newest sid cached ((others _ (injective.ne same)).symm.trans here) denies
  · intro sid lifetime taken inTime
    obtain ⟨found, here, denies⟩ := recorded.kept sid lifetime taken inTime
    by_cases same : sid = entry.sid
    · subst same
      exact absurd (free found (by simpa [live, here] using inTime)) denies
    · exact ⟨found, (others _ (injective.ne same)).trans here, denies⟩

theorem CacheEffect.recorded (injective : Function.Injective call.userSessionCacheKey)
    (effect : CacheEffect call state entry accepted after) (recorded : state.Recorded call) : after.Recorded call := by
  cases effect with
  | refused => exact recorded
  | dropped _ free =>
    refine recorded_of_free injective recorded free (fun cached here => ?_) fun key other => by simp [get?_delete, other]
    simp [get?_delete] at here
  | filled filled same active free =>
    refine recorded_of_free injective recorded free (fun cached here => ?_) fun key other => by simp [get?_set, other]
    simp only [get?_set, if_true, Option.some.injEq] at here
    rw [← here, same, active]
  | denied written same denies =>
    constructor
    · intro sid cached here found
      by_cases own : sid = entry.sid
      · subst own
        simp only [get?_set, if_true, Option.some.injEq] at here ⊢
        rw [here]
      · simp only [get?_set, injective.eq_iff, own, if_false] at here ⊢
        exact recorded.newest sid cached here found
    · intro sid lifetime taken inTime
      by_cases own : sid = entry.sid
      · subst own
        simp only [get?_set, if_true, Option.some.injEq] at taken ⊢
        exact ⟨entry, by rw [← taken, ← same], denies⟩
      · simp only [get?_set, injective.eq_iff, own, if_false] at taken ⊢
        exact recorded.kept sid lifetime taken inTime

theorem newest_denial_lasts {deadline : Option Int} {reading : Int} (denies : entry.status ≠ .active)
    (taken : (state.writeUserSessionCache call entry deadline reading).1 = true) :
    ∃ lifetime ∈ (state.writeUserSessionCache call entry deadline reading).2.denials.get? entry.sid,
      denialEnd call.ttl entry.expiresAt (min reading state.clock) ≤ lifetime := by
  unfold Sessions.writeUserSessionCache at *
  cases prepared : redisExpiration call.ttl entry deadline (min reading state.clock) with
  | error => simp [prepared] at taken
  | ok expiration =>
    have lasts := redisExpiration_denies denies prepared
    simp only [prepared, runScript, denies, if_false] at taken ⊢
    split_ifs at taken ⊢ with refused
    refine ⟨unixMilli state.clock + expiration, by simp [get?_set], ?_⟩
    have earlier : unixMilli (min reading state.clock) ≤ unixMilli state.clock := by
      simp only [unixMilli]
      omega
    omega

theorem CacheEffect.frame (effect : CacheEffect call state entry accepted after) :
    after.rows = state.rows ∧ after.clock = state.clock ∧ after.issued = state.issued ∧ after.stage = state.stage := by
  cases effect <;> exact ⟨rfl, rfl, rfl, rfl⟩

end

end FlowAPI.Session
