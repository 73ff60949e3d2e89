import FlowAPI.Session.Calls

/-! No late call is answered from a revoked session.

An active entry carries the deadline its writer captured before it read the row, so
at the moment the row is revoked every entry still to be written dies by a fixed time.
The tombstone that follows lasts at least as long, and so does every denial that is
written over it.
-/

set_option autoImplicit false
namespace FlowAPI.Session
open Semantics List Option Pool Machine

def Job.Limited (expiresAt limit : Int) : Job → Prop
  | .judge _ deadline session => session.status = .active → min (unixMilli deadline) (expiresAt * 1000) ≤ limit
  | .prepare entry deadline _ => entry.status = .active → ∀ time, deadline = some time →
      min (unixMilli time) (expiresAt * 1000) ≤ limit
  | .script entry _ expiration _ => entry.status = .active → expiration ≤ limit
  | _ => True

structure State.Limited (ttl : Int) (state : State) (limit : Int) : Prop where
  revoked : state.row.status = .revoked
  byNow : limit ≤ unixMilli state.clock + ttl * 1000
  bySession : limit ≤ state.row.expiresAt * 1000
  jobs : ∀ job ∈ state.jobs, job.Limited state.row.expiresAt limit

variable {entry : CacheEntry} {then_ : After} {result : Except WriteError Unit}

variable {ttl : Int} {fault : Bool} {state after : State} {job : Job} {next : List Job}

section
variable {limit : Int}

theorem Job.Sound.limited (sound : job.Sound ttl state.clock state.row) :
    job.Limited state.row.expiresAt (min (unixMilli state.clock + ttl * 1000) (state.row.expiresAt * 1000)) := by
  cases job with
  | judge =>
    intro _
    have captured := sound.1
    simp only [Within, userSessionCacheDeadline, unixMilli] at captured ⊢
    omega
  | prepare =>
    intro _ time known
    have captured := sound.1 time known
    simp only [Within, userSessionCacheDeadline, unixMilli] at captured ⊢
    omega
  | script =>
    intro active
    have expires := sound.1
    simp only [Expires, if_pos active] at expires
    omega
  | _ => trivial

variable {expiresAt : Int} {added : Job}

theorem prepare_limited {deadline : Option Int}
    (denies : entry.status ≠ .active) : (Job.prepare entry deadline then_).Limited expiresAt limit :=
  fun active => absurd active denies

theorem resume_next_limited (resumed : resume state then_ result = (after, next)) (member : added ∈ next) :
    added.Limited expiresAt limit := by
  unfold resume at resumed
  split at resumed
  all_goals cases resumed
  all_goals first
    | cases member; done
    | cases mem_singleton.mp member
      trivial

theorem decide_next_limited {call : Rotation} {attempts : Nat} {deadline : Int}
    (member : added ∈ (call.decide attempts deadline state).2) : added.Limited expiresAt limit := by
  unfold Rotation.decide at member
  dsimp only at member
  repeat' split at member
  all_goals first
    | cases member; done
    | cases mem_singleton.mp member
      first
        | trivial
        | exact prepare_limited revoking_ne_active

theorem runJob_next_limited (ran : runJob ttl fault state job = some (after, next))
    (revoked : state.row.status = .revoked) (copies : job.Sound ttl state.clock state.row)
    (limited : job.Limited state.row.expiresAt limit) (member : added ∈ next) :
    added.Limited state.row.expiresAt limit := by
  have inactive : ∀ now, ¬ state.row.Active now := fun now active =>
    absurd (revoked.symm.trans active.1) revoked_ne_active
  cases job with simp only [runJob] at ran
  | readRow =>
    split at ran <;> cases ran
    · cases member
    · cases mem_singleton.mp member
      exact fun active => absurd (revoked.symm.trans active) revoked_ne_active
  | judge =>
    split at ran <;> cases ran <;> cases mem_singleton.mp member
    · intro active time known
      cases known
      exact limited active
    · exact prepare_limited revoked_ne_active
  | prepare _ deadline =>
    simp only [some.injEq] at ran
    split at ran
    · exact resume_next_limited ran member
    next _ prepared =>
      cases ran
      cases mem_singleton.mp member
      intro active
      cases deadline with
      | none =>
        simp only [redisExpiration, if_pos active] at prepared
        cases prepared
      | some time =>
        obtain ⟨_, bySession⟩ := redisExpiration_active active prepared
        have bound := limited active time rfl
        rw [copies.2.1.expiresAt] at bySession
        omega
  | script =>
    rcases runJob_script_cases (show runJob ttl fault state _ = _ from ran) with ⟨_, resumed⟩ | ⟨_, _, _, _, rfl⟩
    · exact resume_next_limited resumed member
    · cases mem_singleton.mp member
      trivial
  | complete => exact resume_next_limited (some.inj ran) member
  | rotateRead =>
    simp only [some.injEq] at ran
    split at ran
    · cases ran
      cases member
    · exact decide_next_limited (by rw [ran]; exact member)
  | rotateSwap call =>
    repeat' split at ran
    all_goals cases ran
    · cases member
    next found => exact absurd found.1 (inactive call.now)
    · cases mem_singleton.mp member
      trivial
  | advanceCommit =>
    repeat' split at ran
    all_goals cases ran
    next found =>
      have active := (of_decide_eq_true (Bool.and_eq_true_iff.mp found).2).1
      exact absurd (revoked.symm.trans active) revoked_ne_active
    · cases member
  | _ =>
    repeat' split at ran
    all_goals cases ran
    all_goals first
      | cases member; done
      | cases mem_singleton.mp member
        first
          | trivial
          | exact prepare_limited revoking_ne_active
          | exact prepare_limited revoked_ne_active

end

def After.late : After → Bool
  | .fill late _ => late
  | _ => false

def Job.late : Job → Bool
  | .lookup late | .capture late | .readRow late _ | .judge late _ _ => late
  | _ => false

def Job.Punctual : Job → Prop
  | .judge late _ session => late = true → session.status ≠ .active
  | .prepare _ _ then_ | .script _ _ _ then_ | .complete _ _ then_ => then_.late = false
  | .confirm late _ => late = false
  | _ => True

section

theorem resume_punctual (early : then_.late = false) (resumed : resume state then_ result = (after, next)) :
    after.servedLate = state.servedLate ∧ ∀ added ∈ next, added.Punctual ∧ added.late = false := by
  unfold resume at resumed
  split at resumed
  all_goals cases resumed
  all_goals simp_all [After.late, State.serve, State.record, Job.Punctual, Job.late]

theorem decide_punctual (call : Rotation) (attempts : Nat) (deadline : Int) (state : State) :
    (call.decide attempts deadline state).1.servedLate = state.servedLate ∧
      ∀ added ∈ (call.decide attempts deadline state).2, added.Punctual ∧ added.late = false := by
  unfold Rotation.decide
  dsimp only
  repeat' split
  all_goals first
    | exact ⟨rfl, forall_mem_nil _⟩
    | exact ⟨rfl, forall_mem_singleton.mpr ⟨trivial, rfl⟩⟩
    | exact ⟨rfl, forall_mem_singleton.mpr ⟨rfl, rfl⟩⟩

theorem runJob_punctual (ran : runJob ttl fault state job = some (after, next)) (punctual : job.Punctual)
    (revoked : job.late = true → state.row.status = .revoked)
    (denied : job.late = true → ∀ entry, live state.cache state.clock = some entry → entry.status ≠ .active) :
    after.servedLate = state.servedLate ∧ ∀ added ∈ next, added.Punctual ∧ (added.late = true → job.late = true) := by
  have early : ∀ {after : State} {next : List Job},
      (after.servedLate = state.servedLate ∧ ∀ added ∈ next, added.Punctual ∧ added.late = false) →
      after.servedLate = state.servedLate ∧ ∀ added ∈ next, added.Punctual ∧ (added.late = true → job.late = true) := by
    rintro _ next ⟨served, all⟩
    refine ⟨served, fun added member => ⟨(all added member).1, fun late => ?_⟩⟩
    rw [(all added member).2] at late
    cases late
  cases job with simp only [runJob] at ran
  | lookup late =>
    split at ran
    · cases ran
      simp [Job.Punctual, Job.late]
    next entry found =>
      split at ran
      · cases ran
        simp [Job.Punctual, Job.late]
      split at ran <;> cases ran
      · simp
      next hit =>
        cases late with
        | false => simp [State.serve]
        -- a late call has met an active entry, which the sealed cache excludes
        | true => exact absurd (Classical.not_not.mp fun other => hit (.inl other)) (denied rfl entry found)
  | readRow =>
    split at ran <;> cases ran
    · simp
    · refine ⟨rfl, forall_mem_singleton.mpr ⟨fun isLate active => ?_, id⟩⟩
      exact absurd ((revoked isLate).symm.trans active) revoked_ne_active
  | judge late =>
    split at ran <;> cases ran
    next active =>
      refine early ⟨rfl, forall_mem_singleton.mpr ?_⟩
      cases late with
      | false => exact ⟨rfl, rfl⟩
      | true => exact absurd active.1 (punctual rfl)
    · exact early ⟨rfl, forall_mem_singleton.mpr ⟨rfl, rfl⟩⟩
  | prepare =>
    simp only [some.injEq] at ran
    split at ran
    · exact early (resume_punctual punctual ran)
    · cases ran
      exact early ⟨rfl, forall_mem_singleton.mpr ⟨punctual, rfl⟩⟩
  | script =>
    rcases runJob_script_cases (show runJob ttl fault state _ = _ from ran) with ⟨_, resumed⟩ | ⟨_, _, _, rfl, rfl⟩
    · obtain ⟨served, all⟩ := resume_punctual punctual resumed
      exact early ⟨served, all⟩
    · exact early ⟨rfl, forall_mem_singleton.mpr ⟨punctual, rfl⟩⟩
  | complete => exact early (resume_punctual punctual (some.inj ran))
  | confirm late =>
    have isEarly : late = false := punctual
    subst isEarly
    split at ran <;> cases ran <;> exact early ⟨rfl, by simp⟩
  | rotateRead call attempts deadline =>
    simp only [some.injEq] at ran
    split at ran
    · cases ran
      exact early ⟨rfl, by simp⟩
    · have decided := decide_punctual call attempts deadline state
      rw [ran] at decided
      exact early decided
  | capture late =>
    cases ran
    simp [Job.Punctual, Job.late]
  | _ =>
    repeat' split at ran
    all_goals cases ran
    all_goals first
      | exact early ⟨rfl, forall_mem_nil _⟩
      | exact early ⟨rfl, forall_mem_singleton.mpr ⟨trivial, rfl⟩⟩
      | exact early ⟨rfl, forall_mem_singleton.mpr ⟨rfl, rfl⟩⟩

/-- The bound is over, or a denial outlasts it. -/
def Lasts (cache : Option Cached) (bound time : Int) : Prop :=
  bound < unixMilli time ∨ ∃ cached, cache = some cached ∧ cached.entry.status ≠ .active ∧ bound ≤ cached.expiry

/-- No active entry is alive, and none that is still to be written will be. -/
structure State.Sealed (ttl : Int) (state : State) (limit : Int) : Prop where
  limited : state.Limited ttl limit
  denied : ∀ entry, live state.cache state.clock = some entry → entry.status ≠ .active
  lasting : Lasts state.cache (min limit (state.row.expiresAt * 1000 - 1)) state.clock

variable {cache : Option Cached} {expiration time bound limit : Int}

theorem denial_lasts (deny : entry.status ≠ .active) {expiry : Int} (lasts : bound ≤ expiry) :
    (∀ found, live (some ⟨entry, expiry⟩) time = some found → found.status ≠ .active) ∧
      Lasts (some ⟨entry, expiry⟩) bound time := by
  refine ⟨fun found alive => ?_, .inr ⟨_, rfl, deny, lasts⟩⟩
  simp only [live] at alive
  split at alive <;> cases alive
  exact deny

theorem runScript_sealed
    (denied : ∀ entry, live cache time = some entry → entry.status ≠ .active) (lasting : Lasts cache bound time)
    (active : entry.status = .active → expiration ≤ bound + 1)
    (denies : entry.status ≠ .active → bound ≤ unixMilli time + expiration) :
    (∀ found, live (runScript cache entry expiration time).2 time = some found → found.status ≠ .active) ∧
      Lasts (runScript cache entry expiration time).2 bound time := by
  unfold runScript
  split
  · exact ⟨denied, lasting⟩
  next accepted =>
    split
    next isActive =>
      -- the denial must be over, and the new entry is already expired
      have passed : bound < unixMilli time := by
        rcases lasting with passed | ⟨cached, rfl, deny, _⟩
        · exact passed
        · by_contra within
          have alive : live (some cached) time = some cached.entry := if_pos (by omega)
          simp [refuses, alive, isActive, deny] at accepted
      have gone : expiration ≤ unixMilli time := by
        have bounded := active isActive
        omega
      rw [if_pos gone]
      exact ⟨(fun _ found => nomatch found), .inl passed⟩
    next deny => exact denial_lasts deny (denies deny)

theorem refuses_denial (time : Int) (positive : 0 ≤ entry.version)
    (older : ∀ cached, cache = some cached → cached.entry.version ≤ entry.version) (deny : entry.status ≠ .active) :
    refuses (live cache time) entry = false := by
  cases cache with
  | none => simpa [refuses, live] using positive
  | some cached =>
    have version := older cached rfl
    simp only [live]
    split
    · simpa [refuses, deny] using version
    · simpa [refuses] using positive

theorem runScript_seals
    (positive : 0 ≤ entry.version) (older : ∀ cached, cache = some cached → cached.entry.version ≤ entry.version)
    (deny : entry.status ≠ .active) (lasts : bound ≤ unixMilli time + expiration) :
    (∀ found, live (runScript cache entry expiration time).2 time = some found → found.status ≠ .active) ∧
      Lasts (runScript cache entry expiration time).2 bound time := by
  have accepted := refuses_denial time positive older deny
  simp only [runScript, accepted, Bool.false_eq_true, if_false, if_neg deny]
  exact denial_lasts deny lasts

structure State.Sound (ttl : Int) (state : State) : Prop where
  positive : 0 ≤ state.row.version
  jobs : ∀ job ∈ state.jobs, job.Sound ttl state.clock state.row
  lock : state.LockSound
  cache : ∀ cached, state.cache = some cached → cached.entry.version ≤ state.row.version
  sealed : 0 < state.revocations → ∃ limit, state.Sealed ttl limit
  punctual : ∀ job ∈ state.jobs, job.Punctual ∧ (job.late = true → 0 < state.revocations)
  served : state.servedLate = 0

theorem runScript_version
    (older : ∀ cached, cache = some cached → cached.entry.version ≤ bound) (version : entry.version ≤ bound) :
    ∀ cached, (runScript cache entry expiration time).2 = some cached → cached.entry.version ≤ bound := by
  intro cached written
  unfold runScript at written
  repeat' split at written
  · exact older cached written
  · cases written
  · cases written
    exact version
  · cases written
    exact version

theorem resume_flags (resumed : resume state then_ result = (after, next)) :
    (after.lock = state.lock ∨ after.lock = none) ∧
      (after.revocations = state.revocations ∨ then_ = .finalize ∧ after.revocations = state.revocations + 1) := by
  unfold resume at resumed
  split at resumed
  all_goals cases resumed
  all_goals first
    | exact ⟨.inl rfl, .inl rfl⟩
    | exact ⟨.inr rfl, .inl rfl⟩
    | exact ⟨.inl rfl, .inr ⟨rfl, rfl⟩⟩

/-- A job takes the lock for the row or gives it back. Success is returned right after the
script of the tombstone. -/
theorem runJob_flags (ran : runJob ttl fault state job = some (after, next))
    (sound : job.Sound ttl state.clock state.row) :
    (after.lock = state.lock ∨ after.lock = none ∨ after.lock = some state.row) ∧
      (after.revocations = state.revocations ∨ (∃ entry expiration, job = .script entry none expiration .finalize) ∧
          after.revocations = state.revocations + 1) := by
  cases job with
  | prepare _ deadline =>
    simp only [runJob, some.injEq] at ran
    split at ran
    next _ prepared =>
      obtain ⟨lock, same | ⟨rfl, _⟩⟩ := resume_flags ran
      · exact ⟨lock.imp_right .inl, .inl same⟩
      -- a denial is always prepared, so the success cannot come from here
      · obtain ⟨expiration, writes⟩ := redisExpiration_denies_ok ttl state.clock deadline sound.2.2.2.1
        rw [writes] at prepared
        cases prepared
    · cases ran
      exact ⟨.inl rfl, .inl rfl⟩
  | script entry deadline expiration then_ =>
    rcases runJob_script_cases ran with ⟨_, resumed⟩ | ⟨_, _, _, rfl, _⟩
    · obtain ⟨lock, same | ⟨rfl, counted⟩⟩ := resume_flags resumed
      · exact ⟨lock.imp_right .inl, .inl same⟩
      · obtain ⟨rfl, _⟩ := sound.2.2
        exact ⟨lock.imp_right .inl, .inr ⟨⟨entry, expiration, rfl⟩, counted⟩⟩
    · exact ⟨.inl rfl, .inl rfl⟩
  | complete _ deadline =>
    obtain ⟨lock, same | ⟨rfl, _⟩⟩ := resume_flags (some.inj ran)
    · exact ⟨lock.imp_right .inl, .inl same⟩
    -- the tombstone has no deadline and never looks at the clock again
    · cases sound.1
  | rotateRead call attempts deadline =>
    simp only [runJob, some.injEq] at ran
    split at ran
    · cases ran
      exact ⟨.inl rfl, .inl rfl⟩
    obtain ⟨_, same⟩ := decide_state call attempts deadline state
    rw [ran] at same
    cases same
    exact ⟨.inl rfl, .inl rfl⟩
  | _ =>
    simp only [runJob] at ran
    repeat' split at ran
    all_goals cases ran
    all_goals first
      | exact ⟨.inl rfl, .inl rfl⟩
      | exact ⟨.inr (.inl rfl), .inl rfl⟩
      | exact ⟨.inr (.inr rfl), .inl rfl⟩

theorem State.LockSound.run_kept (lock : state.LockSound) (ran : runJob ttl fault state job = some (after, next))
    (sound : job.Sound ttl state.clock state.row) : after.LockSound := by
  intro session locked
  have quiet (row : after.row = state.row) : session.version = after.row.version ∧
      session.expiresAt = after.row.expiresAt := by
    rw [row]
    rcases (runJob_flags ran sound).1 with kept | freed | taken
    · exact lock session (kept ▸ locked)
    · rw [freed] at locked
      cases locked
    · rw [taken] at locked
      cases locked
      exact ⟨rfl, rfl⟩
  cases runJob_effect ran with
  | quiet same => exact quiet same.row
  | script _ row => exact quiet row
  | move _ _ free =>
    rw [free] at locked
    cases locked

theorem State.Sealed.limit_le (sealed_ : state.Sealed ttl limit) :
    min limit (state.row.expiresAt * 1000 - 1) ≤ denialEnd ttl state.row.expiresAt state.clock := by
  have byNow := sealed_.limited.byNow
  simp only [denialEnd]
  omega

theorem State.Sealed.run_kept {index : Nat} (sealed_ : state.Sealed ttl limit)
    (selected : state.jobs[index]? = some job) (sound : job.Sound ttl state.clock state.row)
    (ran : runJob ttl fault state job = some (after, next)) :
    State.Sealed ttl { after with jobs := replace state.jobs index next } limit := by
  have effect := runJob_effect ran
  have expiresAt := effect.row.expiresAt_eq
  have limitedJob := sealed_.limited.jobs job (mem_of_getElem? selected)
  have bySession := sealed_.limited.bySession
  have limited : State.Limited ttl { after with jobs := replace state.jobs index next } limit := by
    refine ⟨(effect.row.revoked sealed_.limited.revoked).1, ?_, ?_, ?_⟩
    · rw [effect.clock]
      exact sealed_.limited.byNow
    · rw [expiresAt]
      exact bySession
    · rw [expiresAt]
      exact forall_replace sealed_.limited.jobs fun _ =>
        runJob_next_limited ran sealed_.limited.revoked sound limitedJob
  cases effect with
  | quiet same =>
    refine ⟨limited, ?_, ?_⟩
    · rw [same.cache, same.clock]
      exact sealed_.denied
    · rw [same.cache, same.clock, same.row]
      exact sealed_.lasting
  | @script entry _ expiration _ _ _ clock row cache =>
    have keepsOut : entry.status = .active → expiration ≤ min limit (state.row.expiresAt * 1000 - 1) + 1 := by
      intro active
      have bound : expiration ≤ limit := limitedJob active
      omega
    have outlasts : entry.status ≠ .active →
        min limit (state.row.expiresAt * 1000 - 1) ≤ unixMilli state.clock + expiration := by
      intro denies
      have lasts := sound.1
      simp only [Expires, if_neg denies] at lasts
      exact sealed_.limit_le.trans lasts
    have stays := runScript_sealed sealed_.denied sealed_.lasting keepsOut outlasts
    refine ⟨limited, ?_, ?_⟩
    · rw [cache, clock]
      exact stays.1
    · rw [cache, clock, row]
      exact stays.2
  | move clock cache =>
    refine ⟨limited, ?_, ?_⟩
    · rw [cache, clock]
      exact sealed_.denied
    · rw [cache, clock, expiresAt]
      exact sealed_.lasting

theorem State.Sound.run_kept {index : Nat} (sound : state.Sound ttl) (selected : state.jobs[index]? = some job)
    (ran : runJob ttl fault state job = some (after, next)) (current : job.Current state.row) :
    State.Sound ttl { after with jobs := replace state.jobs index next } := by
  have present := mem_of_getElem? selected
  have relies := sound.jobs job present
  have effect := runJob_effect ran
  have counted := (runJob_flags ran relies).2
  have jobs : ∀ other ∈ replace state.jobs index next, other.Sound ttl after.clock after.row := by
    rw [effect.clock]
    refine forall_replace (fun other old => ?_) fun _ => runJob_next_sound ran relies sound.lock current
    exact (sound.jobs other old).kept (le_refl _) effect.row
  have revoked : job.late = true → ∃ limit, state.Sealed ttl limit :=
    fun late => sound.sealed ((sound.punctual job present).2 late)
  obtain ⟨served, punctual⟩ := runJob_punctual ran (sound.punctual job present).1
    (fun late => (revoked late).elim fun _ sealed_ => sealed_.limited.revoked)
    (fun late => (revoked late).elim fun _ sealed_ => sealed_.denied)
  refine
    { positive := sound.positive.trans effect.row.version_le, jobs
      lock := fun session held => sound.lock.run_kept ran relies session held
      cache := ?_
      sealed := ?_
      punctual := ?_
      served := served.trans sound.served }
  · cases effect with
    | quiet same =>
      rw [same.cache, same.row]
      exact sound.cache
    | script _ row cache =>
      rw [cache, row]
      exact runScript_version sound.cache relies.2.1.version
    | move _ cache _ move =>
      rw [cache]
      exact fun cached known => (sound.cache cached known).trans move.version_le
  · intro returned
    by_cases before : 0 < state.revocations
    · obtain ⟨limit, sealed_⟩ := sound.sealed before
      exact ⟨limit, sealed_.run_kept selected relies ran⟩
    -- the first success: its tombstone has just been written
    rcases counted with same | ⟨⟨entry, _, rfl⟩, _⟩
    · exact absurd (same ▸ returned) before
    obtain ⟨clock, row, cache⟩ := runJob_script ran
    obtain ⟨expires, _, _, deny, version, isRevoked⟩ := relies
    simp only [Expires, if_neg deny] at expires
    have seals := runScript_seals (version ▸ sound.positive)
      (fun cached known => version ▸ sound.cache cached known) deny expires
    refine ⟨min (unixMilli after.clock + ttl * 1000) (after.row.expiresAt * 1000), ⟨?_, ?_, ?_, ?_⟩, ?_, ?_⟩
    · rw [row]
      exact isRevoked
    · exact min_le_left _ _
    · exact min_le_right _ _
    · exact fun other waiting => (jobs other waiting).limited
    · rw [cache, clock]
      exact seals.1
    · rw [cache, clock, row]
      -- the tombstone outlasts every active entry that is still to be written
      have bound : min (min (unixMilli state.clock + ttl * 1000) (state.row.expiresAt * 1000))
          (state.row.expiresAt * 1000 - 1) = denialEnd ttl state.row.expiresAt state.clock := by
        simp only [denialEnd]
        omega
      rw [bound]
      exact seals.2
  · have grows : state.revocations ≤ after.revocations := by omega
    refine forall_replace (fun other old => ?_) fun other added => ?_
    · exact ⟨(sound.punctual other old).1, fun late => lt_of_lt_of_le ((sound.punctual other old).2 late) grows⟩
    · refine ⟨(punctual other added).1, fun late => lt_of_lt_of_le ?_ grows⟩
      exact (sound.punctual job present).2 ((punctual other added).2 late)

theorem live_mono {later : Int} (passes : time ≤ later)
    (alive : live cache later = some entry) : live cache time = some entry := by
  cases cache with
  | none => cases alive
  | some =>
    simp only [live] at alive ⊢
    split_ifs at alive
    rw [if_pos (by simp only [unixMilli] at *; omega)]
    exact alive

theorem State.Sealed.tick_kept (sealed_ : state.Sealed ttl limit) (nanoseconds : Nat) :
    State.Sealed ttl { state with clock := state.clock + nanoseconds } limit := by
  have passes : state.clock ≤ state.clock + nanoseconds := by omega
  have millis : unixMilli state.clock ≤ unixMilli (state.clock + nanoseconds) := by
    simp only [unixMilli]
    omega
  refine ⟨⟨sealed_.limited.revoked, ?_, sealed_.limited.bySession, sealed_.limited.jobs⟩, ?_, ?_⟩
  · have byNow := sealed_.limited.byNow
    dsimp only
    omega
  · exact fun entry alive => sealed_.denied entry (live_mono passes alive)
  · exact sealed_.lasting.imp_left fun passed => lt_of_lt_of_le passed millis

theorem start_sound (ttl : Int) (state : State) (event : Event) :
    ∀ job ∈ event.start ttl state, job.Sound ttl state.clock state.row ∧ job.Punctual ∧
      (∀ limit, job.Limited state.row.expiresAt limit) ∧ (job.late = true → 0 < state.revocations) := by
  intro job member
  cases event with simp only [Event.start] at member
  | get =>
    cases mem_singleton.mp member
    exact ⟨trivial, trivial, fun _ => trivial, of_decide_eq_true⟩
  | advance =>
    split at member
    · cases member
    · cases mem_singleton.mp member
      exact ⟨le_refl _, trivial, fun _ => trivial, fun late => nomatch late⟩
  | _ =>
    (try split at member)
    all_goals first
      | cases member; done
      | cases mem_singleton.mp member
        exact ⟨trivial, trivial, fun _ => trivial, fun late => nomatch late⟩

theorem State.Sound.call_kept (sound : state.Sound ttl) (event : Event) :
    State.Sound ttl { state with jobs := state.jobs ++ event.start ttl state } where
  positive := sound.positive
  jobs := forall_mem_append.mpr ⟨sound.jobs, fun job added => (start_sound ttl state event job added).1⟩
  lock := sound.lock
  cache := sound.cache
  sealed returned := by
    obtain ⟨limit, sealed_⟩ := sound.sealed returned
    refine ⟨limit, ⟨sealed_.limited.revoked, sealed_.limited.byNow, sealed_.limited.bySession, ?_⟩,
      sealed_.denied, sealed_.lasting⟩
    exact forall_mem_append.mpr ⟨sealed_.limited.jobs, fun job added => (start_sound ttl state event job added).2.2.1 limit⟩
  punctual := by
    refine forall_mem_append.mpr ⟨sound.punctual, fun job added => ?_⟩
    have begun := start_sound ttl state event job added
    exact ⟨begun.2.1, begun.2.2.2⟩
  served := sound.served

theorem State.Sound.step_kept {event : Event} {next : State} (sound : state.Sound ttl) (current : Current state event)
    (stepped : step ttl state event = some next) : next.Sound ttl := by
  cases event with
  | run =>
    obtain ⟨job, selected, mapped⟩ := bind_eq_some_iff.mp stepped
    obtain ⟨⟨_, _⟩, ran, rfl⟩ := map_eq_some_iff.mp mapped
    exact sound.run_kept selected ran (current job selected)
  | tick nanoseconds =>
    cases stepped
    have passes : state.clock ≤ state.clock + nanoseconds := by omega
    exact
      { positive := sound.positive
        jobs := fun job member => (sound.jobs job member).kept passes .same
        lock := sound.lock
        cache := sound.cache
        sealed := fun returned => by
          obtain ⟨limit, sealed_⟩ := sound.sealed returned
          exact ⟨limit, sealed_.tick_kept nanoseconds⟩
        punctual := sound.punctual
        served := sound.served }
  | _ =>
    cases stepped
    exact sound.call_kept _

theorem created_sound (ttl clock : Int) {row : UserSession} (positive : 0 < row.version) :
    (State.created ttl clock row).Sound ttl where
  positive := le_of_lt positive
  jobs job member := by
    cases mem_singleton.mp member
    refine ⟨fun time captured => ?_, .self row, trivial⟩
    cases captured
    exact le_refl _
  lock _ locked := nomatch locked
  cache _ known := nomatch known
  sealed returned := absurd returned (Nat.lt_irrefl 0)
  punctual := forall_mem_singleton.mpr ⟨rfl, nofun⟩
  served := rfl

end

/-- Once a revocation has returned success, no call that begins later returns the
session as active. -/
theorem revoked_session_not_served (configured clock : Int) {session row : UserSession} {status : Option Status}
    (created : createUserSession (unix clock) session status = some row) {events : List Event} {final : State}
    (run : (machine (userCacheTTLSeconds configured)).Runs Current
      (.created (userCacheTTLSeconds configured) clock row) events final) : final.servedLate = 0 := by
  have sound := run.invariant (State.Sound (userCacheTTLSeconds configured))
    (fun _ _ _ sound current stepped => sound.step_kept current stepped)
    (created_sound _ clock (createUserSession_version created))
  exact sound.served

def sampleSession : UserSession :=
  { sid := "s", userID := 7, version := 1, userAuthVersion := 1, status := .active, refreshHash := "h"
    previousRefreshHash := "", previousValidUntil := 0, loginMethod := "password", ip := "", userAgent := ""
    createdAt := 1, lastActiveAt := 1, expiresAt := 100000, revokedAt := 0, revokedReason := "" }

def sampleStart : State := .created 60 0 sampleSession
def runs (index count : Nat) : List Event := List.replicate count (.run index false)

/-- A fill of the active row stalls before its script, over a whole revocation and the life of its tombstone. -/
def stalledFill : List Event :=
  runs 0 3 ++ [.tick 61000000000, .get] ++ runs 0 5 ++ [.revoke "logout"] ++ runs 1 6 ++
    [.tick 61000000000] ++ runs 0 3 ++ [.get] ++ runs 0 6

def stalledFillFinal : State := ((machine 60).exec Current sampleStart stalledFill).getD sampleStart

theorem revoked_session_not_served_stalled : stalledFillFinal.revocations = 1 ∧ stalledFillFinal.servedLate = 0 := by
  have run : (machine (userCacheTTLSeconds 60)).Runs Current
      (.created (userCacheTTLSeconds 60) 0 sampleSession) stalledFill stalledFillFinal :=
    runs_iff_exec.mpr (by decide +kernel)
  have created : createUserSession (unix 0) sampleSession none = some sampleSession := by decide
  exact ⟨by decide +kernel, revoked_session_not_served 60 0 created run⟩

/-- `RevokeUserSession` writes its fence and stalls. The session advances to version 2,
the fence expires, a fill publishes version 2, and the tombstone of version 1 is refused. -/
def advancedUnderRevoke : List Event :=
  runs 0 3 ++ [.revoke "logout"] ++ runs 0 3 ++ [.advance 1 1 2] ++ runs 1 4 ++ [.tick 61000000000, .get] ++
    runs 1 7 ++ runs 0 3 ++ [.get, .run 0 false]

def outlivedFinal : State := ((machine 60).exec unrestricted sampleStart advancedUnderRevoke).getD sampleStart

/-- The revocation has returned success, and a later call returns the session as active. -/
theorem advanced_session_outlives_revocation :
    (machine 60).Runs unrestricted sampleStart advancedUnderRevoke outlivedFinal ∧
      outlivedFinal.row.status = .revoked ∧ outlivedFinal.revocations = 1 ∧ outlivedFinal.servedLate = 1 :=
  ⟨runs_iff_exec.mpr (by decide +kernel), by decide +kernel, by decide +kernel, by decide +kernel⟩

/-- A transaction holds the row only while its session is active. -/
def State.Guarded (state : State) : Prop := state.lock ≠ none → state.row.status = .active

theorem resume_lock (state : State) (then_ : After) (result : Except WriteError Unit) :
    (resume state then_ result).1.lock = state.lock ∨ (resume state then_ result).1.lock = none := by
  unfold resume
  split <;> simp [State.serve, State.record]

theorem runJob_guarded {ttl : Int} {fault : Bool} {state after : State} {job : Job} {next : List Job}
    (guarded : state.Guarded) (ran : runJob ttl fault state job = some (after, next)) :
    after.Guarded ∧ (state.row.status = .revoked → after.row = state.row) := by
  unfold State.Guarded at *
  cases job with simp only [runJob] at ran
  | prepare | script | complete => grind [resume_lock, resume_untouched, Untouched]
  | _ => grind [commitRevocation, UserSession.Active, State.record, State.serve, Rotation.decide]

/-- `after` is a later row of the session `before`. -/
structure UserSession.Follows (before after : UserSession) : Prop where
  expiresAt : after.expiresAt = before.expiresAt
  version : before.version ≤ after.version
  revoked : before.status = .revoked → after = before

theorem step_follows {ttl : Int} {state next : State} {event : Event} (guarded : state.Guarded)
    (stepped : step ttl state event = some next) : next.Guarded ∧ state.row.Follows next.row := by
  cases event with
  | run =>
    obtain ⟨_, _, stepped⟩ := bind_eq_some_iff.mp stepped
    obtain ⟨_, ran, rfl⟩ := map_eq_some_iff.mp stepped
    have move := (runJob_effect ran).row
    obtain ⟨guarded, kept⟩ := runJob_guarded guarded ran
    exact ⟨guarded, move.expiresAt_eq, move.version_le, kept⟩
  | _ =>
    cases stepped
    exact ⟨guarded, rfl, le_refl _, fun _ => rfl⟩

/-- No call moves a session back: not to an older version, not to another end, and a revoked one not at all. -/
theorem session_follows {ttl : Int} {start final : State} {events : List Event} (free : start.lock = none)
    (run : (machine ttl).Runs unrestricted start events final) : start.row.Follows final.row := by
  refine (run.invariant (fun state => state.Guarded ∧ start.row.Follows state.row) ?_
    ⟨absurd free, rfl, le_refl _, fun _ => rfl⟩).2
  rintro _ _ _ ⟨guarded, before⟩ _ stepped
  obtain ⟨guarded, after⟩ := step_follows guarded stepped
  refine ⟨guarded, after.expiresAt.trans before.expiresAt, before.version.trans after.version, fun gone => ?_⟩
  have same := before.revoked gone
  exact (after.revoked (same ▸ gone)).trans same

theorem session_follows_revoked : outlivedFinal.row.status = .revoked ∧ sampleStart.row.Follows outlivedFinal.row := by
  have run : (machine 60).Runs unrestricted sampleStart advancedUnderRevoke outlivedFinal :=
    runs_iff_exec.mpr (by decide +kernel)
  exact ⟨by decide +kernel, session_follows rfl run⟩

end FlowAPI.Session
