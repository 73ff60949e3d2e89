import FlowAPI.Session.Machine

/-! What the calls on a session do and what they rely on.

A job leaves row and cache alone, runs its script, or makes one move of the row. Each
job holds copies of the row that may be old, a deadline that was captured in the past,
and, before its script, an expiry that was computed from both.
-/

set_option autoImplicit false
namespace FlowAPI.Session
open Semantics List Option Classical

/-- `RevokeUserSession` commits on a row that still has the version it has read. -/
def Job.Current (row : UserSession) : Job → Prop
  | .revokeCommit _ _ candidate => candidate.version = row.version
  | _ => True

instance (row : UserSession) : DecidablePred (Job.Current row) := fun _ => by
  unfold Job.Current
  split <;> infer_instance

def Current (state : State) : Event → Prop
  | .run index _ => ∀ job ∈ state.jobs[index]?, job.Current state.row
  | _ => True

instance : DecidableRel Current := fun _ _ => by
  unfold Current
  split <;> infer_instance

inductive RowMove (before : UserSession) : UserSession → Prop where
  | same : RowMove before before
  | swap (call : Rotation) (current : String) : before.status = .active → RowMove before (call.swap current before)
  | revoke (now : Int) (reason : String) : RowMove before (before.revoke now reason)
  | advance (userAuthVersion now : Int) : before.status = .active →
      RowMove before { before with version := before.version + 1, userAuthVersion, lastActiveAt := now }

structure Copies (version expiresAt : Int) (row : UserSession) : Prop where
  version : version ≤ row.version
  expiresAt : expiresAt = row.expiresAt

section
variable {before after : UserSession} {version expiresAt : Int}

theorem RowMove.expiresAt_eq (move : RowMove before after) : after.expiresAt = before.expiresAt := by
  cases move <;> rfl

theorem RowMove.version_le (move : RowMove before after) : before.version ≤ after.version := by
  cases move with
  | advance => dsimp only; omega
  | _ => exact le_refl _

theorem RowMove.revoked (move : RowMove before after) (revoked : before.status = .revoked) :
    after.status = .revoked ∧ after.version = before.version := by
  cases move with
  | same => exact ⟨revoked, rfl⟩
  | revoke => exact ⟨rfl, rfl⟩
  | swap _ _ active | advance _ _ active => exact absurd (revoked.symm.trans active) revoked_ne_active

theorem Copies.kept (copies : Copies version expiresAt before) (move : RowMove before after) :
    Copies version expiresAt after :=
  ⟨copies.version.trans move.version_le, copies.expiresAt.trans move.expiresAt_eq.symm⟩

theorem Copies.self (row : UserSession) : Copies row.version row.expiresAt row := ⟨le_refl _, rfl⟩

end

structure Untouched (state after : State) : Prop where
  clock : after.clock = state.clock
  row : after.row = state.row
  cache : after.cache = state.cache

theorem Untouched.refl (state : State) : Untouched state state := ⟨rfl, rfl, rfl⟩

theorem resume_untouched (state : State) (then_ : After) (result : Except WriteError Unit) :
    Untouched state (resume state then_ result).1 := by
  unfold resume
  split <;> exact ⟨rfl, rfl, rfl⟩

theorem decide_state (call : Rotation) (attempts : Nat) (deadline : Int) (state : State) :
    ∃ outcomes, (call.decide attempts deadline state).1 = { state with outcomes } := by
  unfold Rotation.decide
  dsimp only
  repeat' split
  all_goals exact ⟨_, rfl⟩

theorem decide_untouched (call : Rotation) (attempts : Nat) (deadline : Int) (state : State) :
    Untouched state (call.decide attempts deadline state).1 := by
  obtain ⟨_, same⟩ := decide_state call attempts deadline state
  rw [same]
  exact ⟨rfl, rfl, rfl⟩

def State.written (state : State) (entry : CacheEntry) (expiration : Int) : State :=
  { state with cache := (runScript state.cache entry expiration state.clock).2 }

inductive Effect (state : State) : Job → State → List Job → Prop where
  | quiet {job : Job} {after : State} {next : List Job} : Untouched state after → Effect state job after next
  | script {entry : CacheEntry} {deadline : Option Int} {expiration : Int} {then_ : After} {after : State}
      {next : List Job} : after.clock = state.clock → after.row = state.row →
      after.cache = (runScript state.cache entry expiration state.clock).2 →
      Effect state (.script entry deadline expiration then_) after next
  | move {job : Job} {after : State} {next : List Job} : after.clock = state.clock → after.cache = state.cache →
      after.lock = none → RowMove state.row after.row → Effect state job after next

variable {ttl : Int} {fault : Bool} {state after : State} {job : Job} {next : List Job}

section
variable {entry : CacheEntry} {deadline : Option Int} {expiration : Int} {then_ : After}
  (ran : runJob ttl fault state (.script entry deadline expiration then_) = some (after, next))
include ran

theorem runJob_script_cases : (∃ result, resume (state.written entry expiration) then_ result = (after, next)) ∨
      ∃ time, deadline = some time ∧ entry.status = .active ∧ after = state.written entry expiration ∧
        next = [.complete entry time then_] := by
  simp only [runJob, some.injEq] at ran
  split at ran
  · exact .inl ⟨_, ran⟩
  split at ran
  next time =>
    split at ran
    next active =>
      cases ran
      exact .inr ⟨time, rfl, active, rfl, rfl⟩
    · exact .inl ⟨_, ran⟩
  · exact .inl ⟨_, ran⟩

theorem runJob_script : after.clock = state.clock ∧ after.row = state.row ∧
      after.cache = (runScript state.cache entry expiration state.clock).2 := by
  rcases runJob_script_cases ran with ⟨result, resumed⟩ | ⟨_, _, _, rfl, _⟩
  · have kept := resume_untouched (state.written entry expiration) then_ result
    rw [resumed] at kept
    exact ⟨kept.clock, kept.row, kept.cache⟩
  · exact ⟨rfl, rfl, rfl⟩
end

theorem runJob_effect (ran : runJob ttl fault state job = some (after, next)) : Effect state job after next := by
  cases job with simp only [runJob] at ran
  | prepare _ _ then_ =>
    simp only [some.injEq] at ran
    split at ran
    · have same := resume_untouched state then_ (.error ‹_›)
      rw [ran] at same
      exact .quiet same
    · cases ran
      exact .quiet (.refl state)
  | script =>
    obtain ⟨clock, row, cache⟩ := runJob_script (show runJob ttl fault state _ = _ from ran)
    exact .script clock row cache
  | complete entry deadline then_ =>
    have same := resume_untouched state then_ (completed entry deadline state.clock)
    rw [some.inj ran] at same
    exact .quiet same
  | rotateRead call attempts deadline =>
    simp only [some.injEq] at ran
    split at ran
    · cases ran
      exact .quiet (.refl state)
    · have same := decide_untouched call attempts deadline state
      rw [ran] at same
      exact .quiet same
  | rotateSwap call _ _ session =>
    obtain ⟨unlocked, ran⟩ := ite_none_left_eq_some.mp ran
    have free := not_not.mp unlocked
    repeat' split at ran
    all_goals cases ran
    · exact .quiet (.refl state)
    next found => exact .move rfl rfl free (.swap call session.refreshHash found.1.1)
    · exact .quiet (.refl state)
  | reuseCommit =>
    obtain ⟨unlocked, ran⟩ := ite_none_left_eq_some.mp ran
    have free := not_not.mp unlocked
    repeat' split at ran
    all_goals cases ran
    · exact .quiet (.refl state)
    · exact .move rfl rfl free (.revoke _ _)
    · exact .quiet (.refl state)
  | revokeCommit | batchCommit =>
    obtain ⟨unlocked, ran⟩ := ite_none_left_eq_some.mp ran
    have free := not_not.mp unlocked
    split at ran <;> cases ran
    · exact .move rfl rfl free (.revoke _ _)
    · exact .quiet (.refl state)
  | hashCommit =>
    repeat' split at ran
    all_goals cases ran
    · exact .quiet ⟨rfl, rfl, rfl⟩
    · exact .move rfl rfl rfl (.revoke _ _)
  | advanceCommit =>
    obtain ⟨unlocked, ran⟩ := ite_none_left_eq_some.mp ran
    have free := not_not.mp unlocked
    split at ran <;> cases ran
    next found => exact .move rfl rfl free (.advance _ _ (of_decide_eq_true (Bool.and_eq_true_iff.mp found).2).1)
    · exact .quiet (.refl state)
  | _ =>
    repeat' split at ran
    all_goals cases ran
    all_goals exact .quiet ⟨rfl, rfl, rfl⟩

theorem Effect.clock (effect : Effect state job after next) : after.clock = state.clock := by
  cases effect with
  | quiet same => exact same.clock
  | script clock | move clock => exact clock

theorem Effect.row (effect : Effect state job after next) : RowMove state.row after.row := by
  cases effect with
  | quiet same =>
    rw [same.row]
    exact .same
  | script _ row =>
    rw [row]
    exact .same
  | move _ _ _ move => exact move

def Within (ttl clock deadline : Int) : Prop := deadline ≤ userSessionCacheDeadline ttl clock

/-- When an active entry that is still to be written will be gone, or how long a denial will last. -/
def Expires (ttl clock expiresAt : Int) (entry : CacheEntry) (expiration : Int) : Prop :=
  if entry.status = .active then expiration ≤ unixMilli clock + ttl * 1000 ∧ expiration ≤ expiresAt * 1000
  else denialEnd ttl expiresAt clock ≤ unixMilli clock + expiration

/-- The tombstone of a revocation has the version of the revoked row. -/
def After.Sound (row : UserSession) (entry : CacheEntry) (deadline : Option Int) : After → Prop
  | .finalize => deadline = none ∧ entry.status ≠ .active ∧ entry.version = row.version ∧ row.status = .revoked
  | .revoke _ _ candidate => Copies candidate.version candidate.expiresAt row
  | .reuse _ session => Copies session.version session.expiresAt row
  | _ => True

def Job.Sound (ttl clock : Int) (row : UserSession) : Job → Prop
  | .readRow _ deadline | .rotateRead _ _ deadline | .advance _ _ _ deadline | .advanceCommit _ _ _ deadline _ =>
    Within ttl clock deadline
  | .judge _ deadline session | .rotateSwap _ _ deadline session =>
    Within ttl clock deadline ∧ Copies session.version session.expiresAt row
  | .prepare entry deadline then_ =>
    (∀ time, deadline = some time → Within ttl clock time) ∧ Copies entry.version entry.expiresAt row ∧
      then_.Sound row entry deadline
  | .script entry deadline expiration then_ =>
    Expires ttl clock row.expiresAt entry expiration ∧ Copies entry.version entry.expiresAt row ∧
      then_.Sound row entry deadline
  | .complete entry deadline then_ => then_.Sound row entry (some deadline)
  | .revokeCommit _ _ session | .reuseCommit _ session => Copies session.version session.expiresAt row
  | _ => True

section
variable {ttl clock later : Int} {before after : UserSession} {entry : CacheEntry}

theorem Within.mono {deadline : Int} (within : Within ttl clock deadline) (passes : clock ≤ later) :
    Within ttl later deadline := by
  simp only [Within, userSessionCacheDeadline] at within ⊢
  omega

theorem Expires.mono {expiresAt expiration : Int} (expires : Expires ttl clock expiresAt entry expiration)
    (passes : clock ≤ later) : Expires ttl later expiresAt entry expiration := by
  unfold Expires at expires ⊢
  split at expires
  · rw [if_pos ‹_›]
    simp only [unixMilli] at expires ⊢
    omega
  · rw [if_neg ‹_›]
    simp only [denialEnd, unixMilli] at expires ⊢
    omega

theorem After.Sound.kept {then_ : After} {deadline : Option Int} (sound : then_.Sound before entry deadline)
    (move : RowMove before after) : then_.Sound after entry deadline := by
  cases then_ with
  | finalize =>
    obtain ⟨deadline, denies, version, revoked⟩ := sound
    obtain ⟨stays, same⟩ := move.revoked revoked
    exact ⟨deadline, denies, version.trans same.symm, stays⟩
  | revoke | reuse => exact Copies.kept sound move
  | _ => trivial

theorem Job.Sound.kept {job : Job} (sound : job.Sound ttl clock before) (passes : clock ≤ later)
    (move : RowMove before after) : job.Sound ttl later after := by
  cases job with
  | readRow | rotateRead | advance | advanceCommit => exact Within.mono sound passes
  | judge | rotateSwap => exact ⟨sound.1.mono passes, sound.2.kept move⟩
  | prepare =>
    exact ⟨fun time captured => (sound.1 time captured).mono passes, sound.2.1.kept move, sound.2.2.kept move⟩
  | script =>
    refine ⟨?_, sound.2.1.kept move, sound.2.2.kept move⟩
    rw [move.expiresAt_eq]
    exact sound.1.mono passes
  | complete => exact After.Sound.kept sound move
  | revokeCommit | reuseCommit => exact Copies.kept sound move
  | _ => trivial

theorem redisExpiration_expires {deadline : Option Int} {expiration : Int}
    (within : ∀ time, deadline = some time → Within ttl clock time) (copies : Copies entry.version entry.expiresAt before)
    (prepared : redisExpiration ttl entry deadline clock = .ok expiration) :
    Expires ttl clock before.expiresAt entry expiration := by
  unfold Expires
  split
  next active =>
    cases deadline with
    | none =>
      simp only [redisExpiration, if_pos active] at prepared
      cases prepared
    | some time =>
      obtain ⟨byDeadline, _⟩ := redisExpiration_active active prepared
      have captured := within time rfl
      rw [← copies.expiresAt]
      simp only [Within, userSessionCacheDeadline, unixMilli] at captured byDeadline ⊢
      omega
  next denies =>
    rw [← copies.expiresAt]
    exact redisExpiration_denies denies prepared

theorem redisExpiration_denies_ok (ttl clock : Int) (deadline : Option Int) (denies : entry.status ≠ .active) :
    ∃ expiration, redisExpiration ttl entry deadline clock = .ok expiration := by
  simp only [redisExpiration, if_neg denies]
  exact ⟨_, rfl⟩

end

def State.LockSound (state : State) : Prop :=
  ∀ session, state.lock = some session → session.version = state.row.version ∧ session.expiresAt = state.row.expiresAt

theorem resume_next_sound {then_ : After} {result : Except WriteError Unit} {entry : CacheEntry}
    {deadline : Option Int} (sound : then_.Sound state.row entry deadline)
    (resumed : resume state then_ result = (after, next)) {added : Job} (member : added ∈ next) :
    added.Sound ttl state.clock after.row := by
  unfold resume at resumed
  split at resumed
  all_goals cases resumed
  all_goals first
    | cases member; done
    | cases mem_singleton.mp member
      exact sound

theorem decide_next_sound {call : Rotation} {attempts : Nat} {deadline : Int}
    (within : Within ttl state.clock deadline) {added : Job}
    (member : added ∈ (call.decide attempts deadline state).2) : added.Sound ttl state.clock state.row := by
  unfold Rotation.decide at member
  dsimp only at member
  repeat' split at member
  · cases member
  · cases mem_singleton.mp member
    exact ⟨within, .self state.row⟩
  · cases member
  · cases member
  · cases mem_singleton.mp member
    exact ⟨(fun _ captured => nomatch captured), .self state.row, .self state.row⟩

theorem commit_next_sound {now : Int} {reason : String} {snapshot : UserSession}
    (version : snapshot.version = state.row.version) (expiresAt : snapshot.expiresAt = state.row.expiresAt)
    {added : Job} (member : added ∈ (commitRevocation state now reason snapshot).2) :
    added.Sound ttl state.clock (state.row.revoke now reason) := by
  cases mem_singleton.mp member
  exact ⟨(fun _ captured => nomatch captured), ⟨le_of_eq version, expiresAt⟩, rfl, revoked_ne_active, version, rfl⟩

theorem denied_next_sound {status : Status} {now : Int} {reason : String} {then_ : After} {session : UserSession}
    (copies : Copies session.version session.expiresAt state.row)
    (sound : then_.Sound state.row (session.denied status now reason) none) :
    (Job.prepare (session.denied status now reason) none then_).Sound ttl state.clock state.row :=
  ⟨(fun _ captured => nomatch captured), copies, sound⟩

theorem runJob_next_sound (ran : runJob ttl fault state job = some (after, next))
    (sound : job.Sound ttl state.clock state.row) (lock : state.LockSound) (current : job.Current state.row)
    {added : Job} (member : added ∈ next) : added.Sound ttl state.clock after.row := by
  cases job with simp only [runJob] at ran
  | lookup =>
    repeat' split at ran
    all_goals cases ran
    all_goals first
      | cases member; done
      | cases mem_singleton.mp member
        trivial
  | capture =>
    cases ran
    cases mem_singleton.mp member
    exact le_refl _
  | readRow =>
    split at ran <;> cases ran
    · cases member
    · cases mem_singleton.mp member
      exact ⟨sound, .self state.row⟩
  | judge =>
    split at ran <;> cases ran <;> cases mem_singleton.mp member
    · refine ⟨fun time captured => ?_, sound.2, trivial⟩
      cases captured
      exact sound.1
    · exact ⟨(fun _ captured => nomatch captured), sound.2, trivial⟩
  | prepare =>
    simp only [some.injEq] at ran
    split at ran
    · exact resume_next_sound sound.2.2 ran member
    next expiration prepared =>
      cases ran
      cases mem_singleton.mp member
      exact ⟨redisExpiration_expires sound.1 sound.2.1 prepared, sound.2⟩
  | script entry deadline expiration then_ =>
    have relies : then_.Sound (state.written entry expiration).row entry deadline := sound.2.2
    rcases runJob_script_cases (show runJob ttl fault state _ = _ from ran) with ⟨_, resumed⟩ | ⟨time, rfl, _, rfl, rfl⟩
    · exact resume_next_sound relies resumed member
    · cases mem_singleton.mp member
      exact relies
  | complete => exact resume_next_sound sound (some.inj ran) member
  | confirm | confirmRotated => split at ran <;> cases ran <;> cases member
  | rotate =>
    split at ran <;> cases ran
    · cases member
    · cases mem_singleton.mp member
      exact le_refl _
  | rotateRead call attempts deadline =>
    simp only [some.injEq] at ran
    split at ran
    · cases ran
      cases member
    have row := (decide_untouched call attempts deadline state).row
    rw [ran] at row
    rw [row]
    exact decide_next_sound sound (by rw [ran]; exact member)
  | rotateSwap =>
    repeat' split at ran
    all_goals cases ran
    · cases member
    next _ =>
      cases mem_singleton.mp member
      refine ⟨fun time captured => ?_, ⟨sound.2.version, sound.2.expiresAt⟩, trivial⟩
      cases captured
      exact sound.1
    · cases mem_singleton.mp member
      trivial
  | reuseCommit =>
    repeat' split at ran
    all_goals cases ran
    · cases member
    · cases mem_singleton.mp member
      exact ⟨(fun _ captured => nomatch captured), ⟨sound.version, sound.expiresAt⟩, trivial⟩
    · cases member
  | revokeRead =>
    split at ran <;> cases ran
    · cases mem_singleton.mp member
      exact denied_next_sound (.self state.row) (.self state.row)
    · cases member
  | revokeCommit =>
    repeat' split at ran
    all_goals cases ran
    · exact commit_next_sound current sound.expiresAt member
    · cases member
  | hashBegin | batchRead =>
    repeat' split at ran
    all_goals cases ran
    · cases mem_singleton.mp member
      exact denied_next_sound (.self state.row) trivial
    · cases member
  | hashCommit now reason =>
    repeat' split at ran
    all_goals cases ran
    · cases member
    next session locked _ =>
      -- the locked session still has the version and the expiry of the row
      obtain ⟨version, expiresAt⟩ := lock session locked
      let unlocked : State := { state with lock := none }
      have tombstone : ∀ added ∈ (commitRevocation unlocked now reason session).2,
          added.Sound ttl state.clock (state.row.revoke now reason) := fun _ => commit_next_sound version expiresAt
      exact tombstone added member
  | batchCommit =>
    repeat' split at ran
    all_goals cases ran
    · exact commit_next_sound rfl rfl member
    · cases member
  | advance =>
    cases ran
    cases mem_singleton.mp member
    exact sound
  | advanceCommit =>
    repeat' split at ran
    all_goals cases ran
    · cases mem_singleton.mp member
      refine ⟨fun time captured => ?_, ⟨le_refl _, rfl⟩, trivial⟩
      cases captured
      exact sound
    · cases member

end FlowAPI.Session
