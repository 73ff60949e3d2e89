import FlowAPI.Session.Revocation

/-! Refresh secrets form one chain.

The calls are `RefreshLoginSession`'s: a caller presents a secret, and the hash it
offers in exchange is that of the secret's successor. The hash of the row moves along
the chain of successors, one step for each rotation that wins, and the previous hash
stays one step behind.
-/

set_option autoImplicit false
namespace FlowAPI.Session
open Semantics List Option Pool Machine Outcome Classical

section
variable {Secret : Type} (hash : Secret → String) (successor : Secret → Secret)

def Rotation.Presents (call : Rotation) (secret : Secret) : Prop :=
  call.presentedHash = hash secret ∧ call.nextHash = hash (successor secret)

def Event.Refreshes : Event → Prop
  | .rotate call => ∃ secret, call.Presents hash successor secret
  | .run _ _ | .tick _ => True
  | _ => False

/-- The secret that `RefreshLoginSession` hands out for the outcome of its rotation. A
rotation that has won the row has not been answered yet. -/
def refreshLoginSession (secret : Secret) : Outcome → Option Secret
  | .returned _ _ => some (successor secret)
  | .raced _ refreshHash => if hash (successor secret) = refreshHash then some (successor secret) else none
  | .won _ | .invalid _ | .reused _ => none

structure Rotation.Valid (call : Rotation) : Prop where
  presents : ∃ secret, call.Presents hash successor secret
  presented : call.presentedHash ≠ ""
  differs : call.presentedHash ≠ call.nextHash

def After.Rotates (row : UserSession) (entry : CacheEntry) (deadline : Option Int) : After → Prop
  | .publish | .ignore => True
  | .rotated call session => call.Valid hash successor ∧ session.refreshHash = call.nextHash
  | .reuse call _ => deadline = none ∧ entry.status ≠ .active ∧ entry.version = row.version ∧
      call.now < row.expiresAt
  | _ => False

def Job.Rotates (row : UserSession) : Job → Prop
  | .rotate call _ | .rotateRead call _ _ => call.Valid hash successor
  | .rotateSwap call _ _ session => call.Valid hash successor ∧ session.refreshHash = call.presentedHash
  | .reuseCommit call _ => call.now < row.expiresAt
  | .prepare entry deadline then_ | .script entry deadline _ then_ => then_.Rotates hash successor row entry deadline
  | .complete entry deadline then_ => entry.status = .active ∧ then_.Rotates hash successor row entry (some deadline)
  | .confirmRotated call session => call.Valid hash successor ∧ session.refreshHash = call.nextHash
  | _ => False

def Chained (row : UserSession) : Prop :=
  row.previousRefreshHash = "" ∨
    ∃ secret, row.previousRefreshHash = hash secret ∧ row.refreshHash = hash (successor secret)

def Settled (row : UserSession) : Prop := row.status = .revoked ∨ row.status = .active ∧ row.revokedAt = 0

structure State.Rotating (state : State) : Prop where
  unlocked : state.lock = none
  jobs : ∀ job ∈ state.jobs, job.Rotates hash successor state.row
  settled : Settled state.row
  chained : Chained hash successor state.row

inductive RotationEffect (state after : State) : Prop where
  | quiet : after.row = state.row → after.outcomes = state.outcomes → RotationEffect state after
  | refuse (call : Rotation) : after.row = state.row → after.outcomes = state.outcomes ++ [.invalid call] →
      RotationEffect state after
  | race (call : Rotation) : after.row = state.row → call.presentedHash ≠ "" →
      state.row.previousRefreshHash = call.presentedHash →
      after.outcomes = state.outcomes ++ [.raced call state.row.refreshHash] → RotationEffect state after
  | answer (call : Rotation) : after.row = state.row → call.Valid hash successor →
      after.outcomes = state.outcomes ++ [.returned call call.nextHash] → RotationEffect state after
  | win (call : Rotation) : call.Valid hash successor → state.row.refreshHash = call.presentedHash →
      after.row = call.swap call.presentedHash state.row → after.outcomes = state.outcomes ++ [.won call] →
      RotationEffect state after
  | reuse (call : Rotation) : after.row = state.row.revoke call.now "refresh_reuse" →
      after.outcomes = state.outcomes ++ [.reused call] → RotationEffect state after

end

section
variable {Secret : Type} {hash : Secret → String} {successor : Secret → Secret}
variable {ttl : Int} {fault : Bool} {state after : State} {job : Job} {next : List Job}

theorem RotationEffect.congr {other later : State} (effect : RotationEffect hash successor state after)
    (row : other.row = state.row) (outcomes : other.outcomes = state.outcomes) (changed : later.row = after.row)
    (added : later.outcomes = after.outcomes) : RotationEffect hash successor other later := by
  cases effect with
  | quiet same kept => exact .quiet (by rw [changed, same, row]) (by rw [added, kept, outcomes])
  | refuse call same grown => exact .refuse call (by rw [changed, same, row]) (by rw [added, grown, outcomes])
  | race call same presented previous grown =>
    exact .race call (by rw [changed, same, row]) presented (by rw [row, previous]) (by rw [added, grown, outcomes, row])
  | answer call same valid grown =>
    exact .answer call (by rw [changed, same, row]) valid (by rw [added, grown, outcomes])
  | win call valid current swapped grown =>
    exact .win call valid (by rw [row, current]) (by rw [changed, swapped, row]) (by rw [added, grown, outcomes])
  | reuse call revoked grown => exact .reuse call (by rw [changed, revoked, row]) (by rw [added, grown, outcomes])

theorem resume_rotates {then_ : After} {entry : CacheEntry} {deadline : Option Int}
    {result : Except WriteError Unit} (rotates : then_.Rotates hash successor state.row entry deadline)
    (resumed : resume state then_ result = (after, next)) :
    RotationEffect hash successor state after ∧ after.lock = state.lock ∧
      ∀ added ∈ next, added.Rotates hash successor state.row := by
  unfold resume at resumed
  split at resumed
  all_goals cases resumed
  all_goals try cases rotates; done
  case h_6 => exact ⟨.quiet rfl rfl, rfl, forall_mem_singleton.mpr rotates⟩
  case h_8 call session _ _ =>
    refine ⟨.answer call rfl rotates.1 ?_, rfl, by simp⟩
    rw [← rotates.2]
    rfl
  case h_15 => exact ⟨.quiet rfl rfl, rfl, forall_mem_singleton.mpr rotates.2.2.2⟩
  all_goals exact ⟨.quiet rfl rfl, rfl, by simp⟩

variable {call : Rotation} {row : UserSession} {event : Event} {later : State} {first : Secret} {index : Nat}

theorem decide_rotates {attempts : Nat} {deadline : Int} (valid : call.Valid hash successor)
    (decided : call.decide attempts deadline state = (after, next)) :
    RotationEffect hash successor state after ∧ after.lock = state.lock ∧
      ∀ added ∈ next, added.Rotates hash successor state.row := by
  unfold Rotation.decide at decided
  dsimp only at decided
  split at decided
  · cases decided
    exact ⟨.quiet rfl rfl, rfl, by simp⟩
  next active =>
    have unexpired := (not_not.mp active).2.2
    split at decided
    next current =>
      cases decided
      exact ⟨.quiet rfl rfl, rfl, forall_mem_singleton.mpr ⟨valid, current⟩⟩
    split at decided
    · cases decided
      exact ⟨.refuse call rfl rfl, rfl, by simp⟩
    next known =>
      obtain ⟨_, previous⟩ := not_or.mp known
      split at decided <;> cases decided
      · exact ⟨.race call rfl valid.presented (not_not.mp previous) rfl, rfl, by simp⟩
      · exact ⟨.quiet rfl rfl, rfl, forall_mem_singleton.mpr ⟨rfl, revoking_ne_active, rfl, unexpired⟩⟩

theorem runJob_rotates (ran : runJob ttl fault state job = some (after, next)) (unlocked : state.lock = none)
    (rotates : job.Rotates hash successor state.row) : RotationEffect hash successor state after ∧ after.lock = none ∧
      ∀ added ∈ next, added.Rotates hash successor state.row := by
  have free : ¬ state.lock ≠ none := not_not.mpr unlocked
  cases job with simp only [runJob] at ran
  | prepare =>
    simp only [some.injEq] at ran
    split at ran
    · obtain ⟨effect, lock, jobs⟩ := resume_rotates rotates ran
      exact ⟨effect, lock.trans unlocked, jobs⟩
    · cases ran
      exact ⟨.quiet rfl rfl, unlocked, forall_mem_singleton.mpr rotates⟩
  | script entry deadline expiration then_ =>
    have relies : then_.Rotates hash successor (state.written entry expiration).row entry deadline := rotates
    rcases runJob_script_cases (show runJob ttl fault state _ = _ from ran) with
      ⟨_, resumed⟩ | ⟨_, rfl, active, rfl, rfl⟩
    · obtain ⟨effect, lock, jobs⟩ := resume_rotates relies resumed
      exact ⟨effect.congr rfl rfl rfl rfl, lock.trans unlocked, jobs⟩
    · exact ⟨.quiet rfl rfl, unlocked, forall_mem_singleton.mpr ⟨active, rotates⟩⟩
  | complete =>
    obtain ⟨effect, lock, jobs⟩ := resume_rotates rotates.2 (some.inj ran)
    exact ⟨effect, lock.trans unlocked, jobs⟩
  | confirmRotated call session =>
    split at ran <;> cases ran
    · refine ⟨.answer call rfl rotates.1 ?_, unlocked, by simp⟩
      rw [← rotates.2]
      rfl
    · exact ⟨.quiet rfl rfl, unlocked, by simp⟩
  | rotate call =>
    split at ran <;> cases ran
    · exact ⟨.refuse call rfl rfl, unlocked, by simp⟩
    · exact ⟨.quiet rfl rfl, unlocked, forall_mem_singleton.mpr rotates⟩
  | rotateRead =>
    simp only [some.injEq] at ran
    split at ran
    · cases ran
      exact ⟨.quiet rfl rfl, unlocked, by simp⟩
    · obtain ⟨effect, lock, jobs⟩ := decide_rotates rotates ran
      exact ⟨effect, lock.trans unlocked, jobs⟩
  | rotateSwap call =>
    simp only [if_neg free] at ran
    repeat' split at ran
    all_goals cases ran
    · exact ⟨.quiet rfl rfl, unlocked, by simp⟩
    next found =>
      refine ⟨.win call rotates.1 found.2 ?_ rfl, unlocked, forall_mem_singleton.mpr ⟨rotates.1, rfl⟩⟩
      simp [State.record, rotates.2]
    · exact ⟨.quiet rfl rfl, unlocked, forall_mem_singleton.mpr rotates.1⟩
  | reuseCommit call =>
    simp only [if_neg free] at ran
    repeat' split at ran
    all_goals cases ran
    · exact ⟨.quiet rfl rfl, unlocked, by simp⟩
    · exact ⟨.reuse call rfl rfl, unlocked, forall_mem_singleton.mpr trivial⟩
    · exact ⟨.quiet rfl rfl, unlocked, by simp⟩
  | _ => cases rotates

section
variable (effect : RotationEffect hash successor state after)
include effect

theorem RotationEffect.version : after.row.version = state.row.version ∧ after.row.expiresAt = state.row.expiresAt := by
  cases effect with
  | quiet row | refuse _ row | race _ row | answer _ row | win _ _ _ row | reuse _ row =>
    rw [row]
    exact ⟨rfl, rfl⟩

theorem RotationEffect.settled (settled : Settled state.row) : Settled after.row := by
  cases effect with
  | quiet row | refuse _ row | race _ row | answer _ row | win _ _ _ row =>
    rw [row]
    exact settled
  | reuse _ row =>
    rw [row]
    exact .inl rfl

theorem RotationEffect.chained (chained : Chained hash successor state.row) : Chained hash successor after.row := by
  cases effect with
  | quiet row | refuse _ row | race _ row | answer _ row | reuse _ row =>
    rw [row]
    exact chained
  | win _ valid _ row =>
    obtain ⟨secret, presented, offered⟩ := valid.presents
    rw [row]
    exact .inr ⟨secret, presented, offered⟩

end

theorem Job.Rotates.kept {before : UserSession} (rotates : job.Rotates hash successor before)
    (version : row.version = before.version) (expiresAt : row.expiresAt = before.expiresAt) :
    job.Rotates hash successor row := by
  cases job with
  | prepare _ _ then_ | script _ _ _ then_ | complete _ _ then_ =>
    cases then_ with
    | reuse =>
      simp only [Job.Rotates, After.Rotates, version, expiresAt] at rotates ⊢
      exact rotates
    | _ => exact rotates
  | reuseCommit =>
    simp only [Job.Rotates, expiresAt] at rotates ⊢
    exact rotates
  | _ => exact rotates

theorem start_rotates (ttl : Int) (state : State) (refreshes : event.Refreshes hash successor) :
    ∀ job ∈ event.start ttl state, job.Rotates hash successor state.row := by
  intro job member
  cases event with
  | rotate =>
    simp only [Event.start] at member
    split at member
    · cases member
    next accepted =>
      cases mem_singleton.mp member
      simp only [not_or] at accepted
      exact ⟨refreshes, accepted.1, accepted.2.2.1⟩
  | run | tick => cases member
  | _ => cases refreshes

theorem State.Rotating.step_kept (rotating : state.Rotating hash successor)
    (refreshes : event.Refreshes hash successor) (stepped : step ttl state event = some later) :
    later.Rotating hash successor ∧ RotationEffect hash successor state later := by
  cases event with
  | run =>
    obtain ⟨job, selected, mapped⟩ := bind_eq_some_iff.mp stepped
    obtain ⟨⟨_, added⟩, ran, rfl⟩ := map_eq_some_iff.mp mapped
    obtain ⟨effect, lock, jobs⟩ := runJob_rotates ran rotating.unlocked (rotating.jobs job (mem_of_getElem? selected))
    obtain ⟨version, expiresAt⟩ := effect.version
    refine ⟨⟨lock, forall_replace (fun other old => ?_) fun other fresh => ?_, effect.settled rotating.settled,
      effect.chained rotating.chained⟩, ?_⟩
    · exact (rotating.jobs other old).kept version expiresAt
    · exact (jobs other fresh).kept version expiresAt
    · exact effect.congr rfl rfl rfl rfl
  | tick =>
    cases stepped
    exact ⟨⟨rotating.unlocked, rotating.jobs, rotating.settled, rotating.chained⟩, .quiet rfl rfl⟩
  | rotate =>
    cases stepped
    exact ⟨⟨rotating.unlocked, forall_mem_append.mpr ⟨rotating.jobs, start_rotates ttl state refreshes⟩,
      rotating.settled, rotating.chained⟩, .quiet rfl rfl⟩
  | _ => cases refreshes

def Outcome.wonHash : Outcome → Option String
  | .won call => some call.presentedHash
  | _ => none

/-- The winners have presented the chain from its first secret on, and the row is where they end. -/
structure State.Positioned (hash : Secret → String) (successor : Secret → Secret) (first : Secret)
    (state : State) : Prop where
  wins : state.outcomes.filterMap wonHash =
    (List.range (state.outcomes.filterMap wonHash).length).map fun count => hash (successor^[count] first)
  current : state.row.refreshHash = hash (successor^[(state.outcomes.filterMap wonHash).length] first)

def State.AnswersAgree (hash : Secret → String) (successor : Secret → Secret) (state : State) : Prop :=
  ∀ call refreshHash, .raced call refreshHash ∈ state.outcomes ∨ .returned call refreshHash ∈ state.outcomes →
    ∀ secret, call.presentedHash = hash secret → refreshHash = hash (successor secret)

theorem RotationEffect.positioned (injective : Function.Injective hash)
    (effect : RotationEffect hash successor state after) (positioned : state.Positioned hash successor first) :
    after.Positioned hash successor first := by
  have lost (row : after.row.refreshHash = state.row.refreshHash)
      (same : after.outcomes.filterMap wonHash = state.outcomes.filterMap wonHash) :
      after.Positioned hash successor first := by
    constructor
    · rw [same]
      exact positioned.wins
    · rw [same, row]
      exact positioned.current
  cases effect with
  | quiet row outcomes | refuse _ row outcomes | race _ row _ _ outcomes | answer _ row _ outcomes
  | reuse _ row outcomes =>
    exact lost (by simp [row, UserSession.revoke]) (by simp [outcomes, wonHash])
  | win call valid current row outcomes =>
    obtain ⟨secret, presented, offered⟩ := valid.presents
    have grown : after.outcomes.filterMap wonHash =
        state.outcomes.filterMap wonHash ++ [call.presentedHash] := by
      rw [outcomes, filterMap_append]
      rfl
    -- the winner has presented the hash of the row, so it stands at the end of the chain
    have here : secret = successor^[(state.outcomes.filterMap wonHash).length] first :=
      injective (presented.symm.trans (current.symm.trans positioned.current))
    constructor
    · rw [grown, length_append, length_singleton, range_succ, map_append, ← positioned.wins,
        map_singleton, ← here, presented]
    · rw [grown, length_append, length_singleton, Function.iterate_succ_apply', ← here, row]
      exact offered

theorem RotationEffect.answers_agree (injective : Function.Injective hash)
    (effect : RotationEffect hash successor state after) (chained : Chained hash successor state.row)
    (agree : state.AnswersAgree hash successor) : after.AnswersAgree hash successor := by
  intro call refreshHash recorded secret presented
  cases effect with
  | quiet _ outcomes => exact agree call refreshHash (outcomes ▸ recorded) secret presented
  | refuse _ _ outcomes | win _ _ _ _ outcomes | reuse _ _ outcomes =>
    exact agree call refreshHash (by simpa [outcomes] using recorded) secret presented
  | race known _ nonempty previous outcomes =>
    simp only [outcomes, mem_append, mem_singleton, Outcome.raced.injEq, reduceCtorEq, or_false] at recorded
    rcases recorded with (old | ⟨rfl, rfl⟩) | old
    · exact agree call refreshHash (.inl old) secret presented
    · rcases chained with empty | ⟨known, before, current⟩
      · exact absurd (previous.symm.trans empty) nonempty
      · have same : known = secret := injective (before.symm.trans (previous.trans presented))
        rw [current, same]
    · exact agree call refreshHash (.inr old) secret presented
  | answer _ _ valid outcomes =>
    simp only [outcomes, mem_append, mem_singleton, Outcome.returned.injEq, reduceCtorEq, or_false] at recorded
    rcases recorded with old | old | ⟨rfl, rfl⟩
    · exact agree call refreshHash (.inl old) secret presented
    · exact agree call refreshHash (.inr old) secret presented
    · obtain ⟨own, before, offered⟩ := valid.presents
      rw [offered, injective (before.symm.trans presented)]

def Job.mayWin : Job → Bool
  | .rotate _ _ | .rotateRead _ _ _ | .rotateSwap _ _ _ _ => true
  | _ => false

def Event.isRotation : Event → Bool
  | .rotate _ => true
  | _ => false

def State.wins (state : State) : Nat := (state.outcomes.filterMap wonHash).length

theorem resume_wins {then_ : After} {result : Except WriteError Unit}
    (resumed : resume state then_ result = (after, next)) :
    after.wins = state.wins ∧ next.countP Job.mayWin = 0 := by
  unfold resume at resumed
  split at resumed
  all_goals
    cases resumed
    simp [State.wins, State.serve, State.record, wonHash, Job.mayWin]

theorem decide_wins {attempts : Nat} {deadline : Int} (decided : call.decide attempts deadline state = (after, next)) :
    after.wins = state.wins ∧ next.countP Job.mayWin ≤ 1 := by
  unfold Rotation.decide at decided
  dsimp only at decided
  repeat' split at decided
  all_goals
    cases decided
    simp [State.wins, State.record, wonHash, Job.mayWin]

theorem runJob_wins (ran : runJob ttl fault state job = some (after, next)) :
    after.wins + next.countP Job.mayWin ≤ state.wins + if job.mayWin then 1 else 0 := by
  have resumed {then_ : After} {result : Except WriteError Unit} {written : State} (kept : written.wins = state.wins)
      (ended : resume written then_ result = (after, next)) :
      after.wins + next.countP Job.mayWin ≤ state.wins + if job.mayWin then 1 else 0 := by
    obtain ⟨same, none⟩ := resume_wins ended
    omega
  cases job with
  | prepare =>
    simp only [runJob, some.injEq] at ran
    split at ran
    · exact resumed rfl ran
    · cases ran
      simp [Job.mayWin]
  | script =>
    rcases runJob_script_cases ran with ⟨_, ended⟩ | ⟨_, _, _, rfl, rfl⟩
    · exact resumed (show (state.written _ _).wins = state.wins from rfl) ended
    · simp [State.wins, State.written, Job.mayWin]
  | complete => exact resumed rfl (some.inj ran)
  | rotateRead =>
    simp only [runJob, some.injEq] at ran
    split at ran
    · cases ran
      simp [Job.mayWin]
    · obtain ⟨same, one⟩ := decide_wins ran
      rw [same]
      exact Nat.add_le_add_left one _
  | _ =>
    simp only [runJob] at ran
    repeat' split at ran
    all_goals cases ran
    all_goals simp [State.wins, State.serve, State.record, filterMap_cons, wonHash, Job.mayWin]

theorem step_wins (stepped : step ttl state event = some later) : later.wins + later.jobs.countP Job.mayWin ≤
      state.wins + state.jobs.countP Job.mayWin + if event.isRotation then 1 else 0 := by
  cases event with
  | run =>
    obtain ⟨job, selected, mapped⟩ := bind_eq_some_iff.mp stepped
    obtain ⟨⟨advanced, added⟩, ran, rfl⟩ := map_eq_some_iff.mp mapped
    have won := runJob_wins ran
    have replaced := countP_replace selected added Job.mayWin
    change advanced.wins + _ ≤ _
    dsimp only
    omega
  | tick =>
    cases stepped
    exact Nat.le_add_right _ _
  | rotate =>
    cases stepped
    simp only [State.wins, countP_append, Event.start]
    split <;> simp [Job.mayWin, Event.isRotation]
    omega
  | _ =>
    cases stepped
    simp only [State.wins, countP_append, Event.start]
    try split
    all_goals simp [Job.mayWin]

theorem wins_le_rotations {events : List Event} {start : State}
    (run : (machine ttl).Runs unrestricted start events state) : state.wins + state.jobs.countP Job.mayWin ≤
      start.wins + start.jobs.countP Job.mayWin + events.countP Event.isRotation := by
  induction run with
  | nil => exact Nat.le_add_right _ _
  | cons _ stepped _ ih =>
    have won := step_wins stepped
    rw [countP_cons]
    omega

theorem State.Positioned.wins_nodup {calls : Nat} (positioned : state.Positioned hash successor first)
    (injective : Function.Injective hash) (distinct : ((List.range calls).map fun count => successor^[count] first).Nodup)
    (enough : state.wins ≤ calls) : (state.outcomes.filterMap wonHash).Nodup := by
  have gone : ((List.range state.wins).map fun count => successor^[count] first).Nodup :=
    distinct.sublist ((range_sublist.mpr enough).map _)
  have hashed := gone.map injective
  rw [List.map_map] at hashed
  rw [positioned.wins]
  exact hashed

def Job.Reuses (call : Rotation) : Job → Prop
  | .prepare _ _ (.reuse known _) | .script _ _ _ (.reuse known _) | .reuseCommit known _ => known = call
  | _ => False

def Job.reuseSteps : Job → Nat
  | .prepare _ _ _ => 2
  | .script _ _ _ _ => 1
  | _ => 0

def ReuseSucceeds (call : Rotation) (state : State) : Event → Prop
  | .run index fault => ∀ job ∈ state.jobs[index]?, job.Reuses call → fault = false
  | _ => True

theorem Settled.active_or (settled : Settled row) {now : Int} (unexpired : now < row.expiresAt) :
    row.Active now ∨ row.status = .revoked :=
  settled.elim .inr fun active => .inl ⟨active.1, active.2, unexpired⟩

theorem runJob_reuses (sound : state.Sound ttl) (rotating : state.Rotating hash successor)
    (rotates : job.Rotates hash successor state.row) (reuses : job.Reuses call) :
    ∃ after next, runJob ttl false state job = some (after, next) ∧ (after.row.status = .revoked ∨
        ∃ added, next = [added] ∧ added.Reuses call ∧ added.reuseSteps < job.reuseSteps) := by
  have free : ¬ state.lock ≠ none := not_not.mpr rotating.unlocked
  cases job with
  | prepare entry deadline then_ =>
    cases then_ with
    | reuse known session =>
      obtain ⟨expiration, prepared⟩ := redisExpiration_denies_ok ttl state.clock deadline rotates.2.1
      refine ⟨state, [.script entry deadline expiration (.reuse known session)], ?_, .inr ⟨_, rfl, reuses, ?_⟩⟩
      · simp [runJob, prepared]
      · exact Nat.lt_succ_self 1
    | _ => cases reuses
  | script entry _ expiration then_ =>
    cases then_ with
    | reuse known session =>
      obtain ⟨rfl, deny, version, _⟩ := rotates
      -- the denial carries the version of the row, and no entry has a later one
      have accepted := refuses_denial state.clock (version ▸ sound.positive)
        (fun cached held => version ▸ sound.cache cached held) deny
      have written : (runScript state.cache entry expiration state.clock).1 = true := by
        simp only [runScript, accepted, Bool.false_eq_true, if_false, if_neg deny]
      refine ⟨{ state with cache := (runScript state.cache entry expiration state.clock).2 },
        [.reuseCommit known session], ?_, .inr ⟨_, rfl, reuses, Nat.lt_succ_self 0⟩⟩
      simp only [runJob, written, Bool.not_true, Bool.false_eq_true, if_false, resume]
    | _ => cases reuses
  | reuseCommit known session =>
    -- the row has not expired by `known.now`, so it is active or another call has revoked it
    rcases rotating.settled.active_or rotates with active | revoked
    · refine ⟨{ state with row := state.row.revoke known.now "refresh_reuse" }.record (.reused known),
        [.prepare (session.denied .revoked known.now "refresh_reuse") none .ignore], ?_, .inl rfl⟩
      simp only [runJob, if_neg free, Bool.false_eq_true, if_false, if_pos active]
    have inactive : ¬ state.row.Active known.now := fun active =>
      absurd (revoked.symm.trans active.1) revoked_ne_active
    refine ⟨state, [], ?_, .inl revoked⟩
    simp only [runJob, if_neg free, Bool.false_eq_true, if_false, if_neg inactive]
  | _ => cases reuses

theorem RotationEffect.revoked (effect : RotationEffect hash successor state after)
    (revoked : state.row.status = .revoked) : after.row.status = .revoked := by
  cases effect with
  | quiet row | refuse _ row | race _ row | answer _ row | win _ _ _ row =>
    rw [row]
    exact revoked
  | reuse _ row =>
    rw [row]
    rfl

theorem State.Rotating.current (rotating : state.Rotating hash successor) : Current state event := by
  cases event with
  | run =>
    intro job selected
    have rotates := rotating.jobs job (mem_of_getElem? selected)
    cases job with
    | revokeCommit => cases rotates
    | _ => trivial
  | _ => trivial

def State.Condemned (call : Rotation) (state : State) : Prop :=
  state.row.status = .revoked ∨ ∃ job ∈ state.jobs, job.Reuses call

theorem State.Condemned.step_kept (condemned : state.Condemned call)
    (sound : state.Sound ttl) (rotating : state.Rotating hash successor)
    (refreshes : event.Refreshes hash successor) (succeeds : ReuseSucceeds call state event)
    (stepped : step ttl state event = some later) : later.Condemned call := by
  rcases condemned with revoked | ⟨reuser, waiting, reuses⟩
  · exact .inl ((rotating.step_kept refreshes stepped).2.revoked revoked)
  cases event with
  | run =>
    obtain ⟨job, selected, mapped⟩ := bind_eq_some_iff.mp stepped
    obtain ⟨⟨_, _⟩, ran, rfl⟩ := map_eq_some_iff.mp mapped
    -- another job may run in between; the revocation then stays in the pool
    by_cases own : reuser = job
    · subst own
      have faultless := succeeds reuser selected reuses
      subst faultless
      obtain ⟨_, _, runs, done⟩ := runJob_reuses sound rotating (rotating.jobs reuser waiting) reuses
      cases some.inj (runs.symm.trans ran)
      rcases done with revoked | ⟨handed, rfl, again, _⟩
      · exact .inl revoked
      · exact .inr ⟨handed, mem_replace_next (mem_singleton_self _), again⟩
    · exact .inr ⟨reuser, mem_replace selected waiting own, reuses⟩
  | tick =>
    cases stepped
    exact .inr ⟨reuser, waiting, reuses⟩
  | rotate =>
    cases stepped
    exact .inr ⟨reuser, mem_append_left _ waiting, reuses⟩
  | _ => cases refreshes

theorem reuse_step (sound : state.Sound ttl) (rotating : state.Rotating hash successor)
    (selected : state.jobs[index]? = some job) (reuses : job.Reuses call) :
    ∃ later, step ttl state (.run index false) = some later ∧ (later.row.status = .revoked ∨
        ∃ handed, later.jobs[index]? = some handed ∧ handed.Reuses call ∧ handed.reuseSteps < job.reuseSteps) := by
  have rotates := rotating.jobs job (mem_of_getElem? selected)
  obtain ⟨after, next, ran, done⟩ := runJob_reuses sound rotating rotates reuses
  refine ⟨{ after with jobs := replace state.jobs index next }, ?_, done.imp_right ?_⟩
  · simp [step, selected, ran]
  · rintro ⟨handed, rfl, again, fewer⟩
    exact ⟨handed, getElem?_replace selected handed, again, fewer⟩

theorem reuse_completes (steps : Nat) (state : State) (job : Job)
    (sound : state.Sound ttl) (rotating : state.Rotating hash successor) (selected : state.jobs[index]? = some job)
    (reuses : job.Reuses call) (bound : job.reuseSteps ≤ steps) :
    ∃ count final, (machine ttl).Runs unrestricted state (replicate count (.run index false)) final ∧
      final.row.status = .revoked := by
  induction steps generalizing state job
  all_goals
    obtain ⟨later, stepped, revoked | ⟨handed, moved, again, fewer⟩⟩ := reuse_step sound rotating selected reuses
    · exact ⟨1, later, .cons trivial stepped (.nil later), revoked⟩
  case zero => omega
  case succ ih =>
    have refreshes : Event.Refreshes hash successor (.run index false) := trivial
    have kept := sound.step_kept rotating.current stepped
    have stays := (rotating.step_kept refreshes stepped).1
    obtain ⟨count, final, run, revoked⟩ := ih later handed kept stays moved again (by omega)
    exact ⟨count + 1, final, .cons trivial stepped run, revoked⟩

def State.Reads (state : State) (index : Nat) (call : Rotation) : Prop :=
  ∃ attempts deadline, state.jobs[index]? = some (.rotateRead call attempts deadline)

theorem State.Reads.step (reads : state.Reads index call) (stepped : step ttl state (.run index false) = some later) :
    ∃ attempts deadline, later = { (call.decide attempts deadline state).1 with
      jobs := replace state.jobs index (call.decide attempts deadline state).2 } := by
  obtain ⟨attempts, deadline, selected⟩ := reads
  refine ⟨attempts, deadline, ?_⟩
  simp only [Session.step, selected, bind_some, runJob, Bool.false_eq_true, if_false, map_some, some.injEq] at stepped
  exact stepped.symm

theorem decide_unknown (attempts : Nat) (deadline : Int) (current : state.row.refreshHash ≠ call.presentedHash)
    (previous : state.row.previousRefreshHash ≠ call.presentedHash) :
    (call.decide attempts deadline state).1.row = state.row ∧
      (call.decide attempts deadline state).1.cache = state.cache ∧ (call.decide attempts deadline state).2 = [] := by
  have unknown : state.row.previousRefreshHash = "" ∨ state.row.previousRefreshHash ≠ call.presentedHash :=
    .inr previous
  simp only [Rotation.decide, if_neg current, if_pos unknown]
  split <;> exact ⟨rfl, rfl, rfl⟩

theorem State.Rotating.previous_current (rotating : state.Rotating hash successor)
    (injective : Function.Injective hash) (reads : state.Reads index call)
    (previous : state.row.previousRefreshHash = call.presentedHash) :
    state.row.refreshHash ≠ call.presentedHash ∧ call.presentedHash ≠ "" := by
  obtain ⟨_, _, selected⟩ := reads
  have valid : call.Valid hash successor := rotating.jobs _ (mem_of_getElem? selected)
  obtain ⟨secret, presented, offered⟩ := valid.presents
  refine ⟨?_, valid.presented⟩
  rcases rotating.chained with empty | ⟨known, before, current⟩
  · exact absurd (previous.symm.trans empty) valid.presented
  · have same : known = secret := injective (before.symm.trans (previous.trans presented))
    rw [current, same, ← offered]
    exact valid.differs.symm

theorem decide_previous {attempts : Nat} {deadline : Int} (active : state.row.Active call.now)
    (current : state.row.refreshHash ≠ call.presentedHash) (presented : call.presentedHash ≠ "")
    (previous : state.row.previousRefreshHash = call.presentedHash) : call.decide attempts deadline state =
      if call.now ≤ state.row.previousValidUntil then (state.record (.raced call state.row.refreshHash), [])
      else (state, [.prepare (state.row.denied .revoking call.now "refresh_reuse") none (.reuse call state.row)]) := by
  have known : ¬ (state.row.previousRefreshHash = "" ∨ state.row.previousRefreshHash ≠ call.presentedHash) := by
    rw [previous]
    exact fun other => other.elim presented fun differs => differs rfl
  simp only [Rotation.decide, active, not_true_eq_false, if_false, if_neg current, if_neg known]

theorem createUserSession_settled {now : Int} {session : UserSession} {status : Option Status}
    (created : createUserSession now session status = some row) : Settled row := by
  unfold createUserSession at created
  split at created
  · cases created
  split at created <;> cases created
  next accepted => exact .inr ⟨rfl, not_not.mp (not_or.mp accepted).2⟩

structure State.Linear (hash : Secret → String) (successor : Secret → Secret) (first : Secret) (ttl : Int)
    (state : State) : Prop where
  sound : state.Sound ttl
  rotating : state.Rotating hash successor
  positioned : state.Positioned hash successor first
  agree : state.AnswersAgree hash successor

section
variable (injective : Function.Injective hash)
include injective

theorem State.Linear.step_kept
    (linear : state.Linear hash successor first ttl) (refreshes : event.Refreshes hash successor)
    (stepped : step ttl state event = some later) : later.Linear hash successor first ttl := by
  obtain ⟨rotating, effect⟩ := linear.rotating.step_kept refreshes stepped
  exact ⟨linear.sound.step_kept linear.rotating.current stepped, rotating,
    effect.positioned injective linear.positioned, effect.answers_agree injective linear.rotating.chained linear.agree⟩

theorem run_linear {clock : Int} {session : UserSession} {status : Option Status} {events : List Event}
    (created : createUserSession (unix clock) session status = some row) (issued : row.refreshHash = hash first)
    (fresh : row.previousRefreshHash = "") (refreshes : ∀ event ∈ events, event.Refreshes hash successor)
    (run : (machine ttl).Runs unrestricted (.created ttl clock row) events state) :
    state.Linear hash successor first ttl := by
  refine (run.restrict (Event.Refreshes hash successor) refreshes).invariant (State.Linear hash successor first ttl)
    (fun _ _ _ linear allowed stepped => linear.step_kept injective allowed.2 stepped) ?_
  exact ⟨created_sound ttl clock (createUserSession_version created),
    ⟨rfl, forall_mem_singleton.mpr trivial, createUserSession_settled created, .inl fresh⟩, ⟨rfl, issued⟩,
    fun _ _ recorded => nomatch recorded⟩

theorem State.Linear.replay_revokes (linear : state.Linear hash successor first ttl)
    (reads : state.Reads index call) (stepped : step ttl state (.run index false) = some later)
    (active : state.row.Active call.now) (previous : state.row.previousRefreshHash = call.presentedHash)
    (late : state.row.previousValidUntil < call.now) :
    (∃ count final, (machine ttl).Runs unrestricted later (replicate count (.run index false)) final ∧
      final.row.status = .revoked) ∧ ∀ events final, (machine ttl).Runs (ReuseSucceeds call) later events final →
      (∀ event ∈ events, event.Refreshes hash successor) → (∀ job ∈ final.jobs, ¬ job.Reuses call) →
      final.row.status = .revoked := by
  have refreshes : Event.Refreshes hash successor (.run index false) := trivial
  have after := linear.step_kept injective refreshes stepped
  obtain ⟨current, presented⟩ := linear.rotating.previous_current injective reads previous
  obtain ⟨_, _, selected⟩ := id reads
  let revocation : Job := .prepare (state.row.denied .revoking call.now "refresh_reuse") none (.reuse call state.row)
  have decided : later = { state with jobs := replace state.jobs index [revocation] } := by
    obtain ⟨_, _, rfl⟩ := reads.step stepped
    rw [decide_previous active current presented previous, if_neg (by omega)]
  have waiting : later.jobs[index]? = some revocation := by
    rw [decided]
    exact getElem?_replace selected revocation
  refine ⟨reuse_completes 2 later revocation after.sound after.rotating waiting rfl (le_refl _), ?_⟩
  intro events final run all ended
  have condemned := (run.restrict (Event.Refreshes hash successor) all).invariant
    (fun state => state.Linear hash successor first ttl ∧ state.Condemned call)
    (fun _ _ _ held allowed stepped => ⟨held.1.step_kept injective allowed.2 stepped,
      held.2.step_kept held.1.sound held.1.rotating allowed.2 allowed.1 stepped⟩)
    ⟨after, .inr ⟨revocation, mem_of_getElem? waiting, rfl⟩⟩
  rcases condemned.2 with revoked | ⟨job, member, reuses⟩
  · exact revoked
  · exact absurd reuses (ended job member)

end

end

/-- Where secrets do not recur: a presented hash wins at most once; a winner that is returned the session and whoever
loses a race within the window are handed the successor of the presented secret; an unknown secret changes nothing; a
previous secret after its window leaves the session revoked; one secret is current. -/
theorem refresh_secrets_form_chain {Secret : Type} {hash : Secret → String} {successor : Secret → Secret}
    {first : Secret} (injective : Function.Injective hash) {ttl clock : Int} {session row : UserSession}
    {status : Option Status} (created : createUserSession (unix clock) session status = some row)
    (issued : row.refreshHash = hash first) (fresh : row.previousRefreshHash = "") {events : List Event}
    (refreshes : ∀ event ∈ events, event.Refreshes hash successor)
    (distinct : ((List.range (events.countP Event.isRotation)).map fun count => successor^[count] first).Nodup)
    {state : State} (run : (machine ttl).Runs unrestricted (.created ttl clock row) events state) :
    (∀ presented, (state.outcomes.filterMap wonHash).count presented ≤ 1) ∧
    (∀ call secret refreshHash, call.presentedHash = hash secret →
      (.returned call refreshHash ∈ state.outcomes → refreshHash = hash (successor secret) ∧
        refreshLoginSession hash successor secret (.returned call refreshHash) = some (successor secret)) ∧
      (.raced call refreshHash ∈ state.outcomes →
        refreshLoginSession hash successor secret (.raced call refreshHash) = some (successor secret))) ∧
    (∀ index call later, state.Reads index call → step ttl state (.run index false) = some later →
      (state.row.Active call.now → state.row.previousRefreshHash = call.presentedHash →
        call.now ≤ state.row.previousValidUntil →
        later.outcomes = state.outcomes ++ [.raced call state.row.refreshHash]) ∧
      (state.row.refreshHash ≠ call.presentedHash → state.row.previousRefreshHash ≠ call.presentedHash →
        later.row = state.row ∧ later.cache = state.cache ∧ later.jobs = replace state.jobs index []) ∧
      (state.row.Active call.now → state.row.previousRefreshHash = call.presentedHash →
        state.row.previousValidUntil < call.now →
        (∃ count final, (machine ttl).Runs unrestricted later (List.replicate count (.run index false)) final ∧
          final.row.status = .revoked) ∧
        ∀ rest final, (machine ttl).Runs (ReuseSucceeds call) later rest final →
          (∀ event ∈ rest, event.Refreshes hash successor) → (∀ job ∈ final.jobs, ¬ job.Reuses call) →
          final.row.status = .revoked)) ∧
    ∀ one other, state.row.refreshHash = hash one → state.row.refreshHash = hash other → one = other := by
  have linear := run_linear injective created issued fresh refreshes run
  refine ⟨?_, ?_, ?_, fun one other here there => injective (here.symm.trans there)⟩
  · have enough : state.wins ≤ events.countP Event.isRotation := by
      have counted := wins_le_rotations run
      have none : (State.created ttl clock row).wins = 0 ∧
          (State.created ttl clock row).jobs.countP Job.mayWin = 0 := ⟨rfl, rfl⟩
      omega
    exact nodup_iff_count_le_one.mp (linear.positioned.wins_nodup injective distinct enough)
  · intro call secret refreshHash presented
    refine ⟨fun recorded => ⟨linear.agree call refreshHash (.inr recorded) secret presented, rfl⟩, fun recorded => ?_⟩
    exact if_pos (linear.agree call refreshHash (.inl recorded) secret presented).symm
  · intro index call later reads stepped
    refine ⟨?_, ?_, ?_⟩
    · intro active previous inTime
      obtain ⟨current, presented⟩ := linear.rotating.previous_current injective reads previous
      obtain ⟨_, _, rfl⟩ := reads.step stepped
      rw [decide_previous active current presented previous, if_pos inTime]
      rfl
    · intro current previous
      obtain ⟨attempts, deadline, rfl⟩ := reads.step stepped
      obtain ⟨row, cache, ended⟩ := decide_unknown attempts deadline current previous
      exact ⟨row, cache, congrArg (replace state.jobs index) ended⟩
    · intro active previous late
      exact linear.replay_revokes injective reads stepped active previous late

def countedHash (secret : Nat) : String := String.ofList (List.replicate (secret + 1) 'a')

theorem countedHash_injective : Function.Injective countedHash := by
  intro one other same
  have lengths := congrArg (fun text : String => text.toList.length) same
  simpa [countedHash] using lengths

def firstSession : UserSession := { sampleSession with refreshHash := "a" }
def countedCall (secret : Nat) (now : Int) : Rotation :=
  { presentedHash := countedHash secret, nextHash := countedHash (secret + 1), now, graceSeconds := 30 }

/-- A rotation, a second call with the same secret within the window, and one after it. -/
def replayed : List Event :=
  runs 0 3 ++ [.rotate (countedCall 0 10)] ++ runs 0 6 ++ [.rotate (countedCall 0 20)] ++ runs 0 2 ++
    [.rotate (countedCall 0 50)] ++ runs 0 5

def replayedFinal : State :=
  ((machine 60).exec unrestricted (.created 60 0 firstSession) replayed).getD (.created 60 0 firstSession)

theorem refresh_secrets_form_chain_replayed : replayedFinal.row.status = .revoked ∧
      (replayedFinal.outcomes.filterMap wonHash).count "a" = 1 ∧
      (replayedFinal.outcomes.filterMap wonHash).count "a" ≤ 1 := by
  have run : (machine 60).Runs unrestricted (.created 60 0 firstSession) replayed replayedFinal :=
    runs_iff_exec.mpr (by decide +kernel)
  have created : createUserSession (unix 0) firstSession none = some firstSession := by decide
  have refreshes : ∀ event ∈ replayed, event.Refreshes countedHash Nat.succ := by
    intro event member
    simp only [replayed, runs, mem_append, mem_replicate, mem_singleton] at member
    rcases member with (((((⟨_, rfl⟩ | rfl) | ⟨_, rfl⟩) | rfl) | ⟨_, rfl⟩) | rfl) | ⟨_, rfl⟩
    all_goals first
      | trivial
      | exact ⟨0, rfl, rfl⟩
  have issued : firstSession.refreshHash = countedHash 0 := by decide +kernel
  have chain := refresh_secrets_form_chain countedHash_injective created issued rfl refreshes (by decide) run
  exact ⟨by decide +kernel, by decide +kernel, chain.1 "a"⟩

def pairHash (secret : Bool) : String := if secret then "a" else "b"
def pairCall (secret : Bool) (now : Int) : Rotation :=
  { presentedHash := pairHash secret, nextHash := pairHash (!secret), now, graceSeconds := 30 }

def alternating : List Event :=
  runs 0 3 ++ [.rotate (pairCall true 10)] ++ runs 0 6 ++ [.rotate (pairCall false 20)] ++ runs 0 6 ++
    [.rotate (pairCall true 30)] ++ runs 0 6

def alternatingFinal : State :=
  ((machine 60).exec unrestricted (.created 60 0 firstSession) alternating).getD (.created 60 0 firstSession)

/-- On a cycle of successors the same hash wins again. -/
theorem recurring_secret_wins_twice :
    Function.Injective pairHash ∧ (∀ event ∈ alternating, event.Refreshes pairHash Bool.not) ∧
      (machine 60).Runs unrestricted (.created 60 0 firstSession) alternating alternatingFinal ∧
      (alternatingFinal.outcomes.filterMap wonHash).count "a" = 2 := by
  refine ⟨?_, ?_, runs_iff_exec.mpr (by decide +kernel), by decide +kernel⟩
  · intro one other
    cases one <;> cases other <;> simp [pairHash]
  intro event member
  simp only [alternating, runs, mem_append, mem_replicate, mem_singleton] at member
  rcases member with (((((⟨_, rfl⟩ | rfl) | ⟨_, rfl⟩) | rfl) | ⟨_, rfl⟩) | rfl) | ⟨_, rfl⟩
  all_goals first
    | trivial
    | exact ⟨true, rfl, rfl⟩
    | exact ⟨false, rfl, rfl⟩

end FlowAPI.Session
