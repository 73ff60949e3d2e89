import FlowAPI.Session.BulkRevocation

/-! What `revokeUserSessions` has done when it returns, and that it returns.

A session that was selected at the start stays selected until it is revoked, and whoever
revokes it has denied it before; the call returns when it selects nothing. Every round takes
at least one session out of the selection, so without new sessions the rounds come to an end.
-/

set_option autoImplicit false
namespace FlowAPI.Session
open Semantics List Machine UserSession Function Nat

section
variable {call : BulkCall} {rows : List UserSession} {session : UserSession}

theorem mem_candidates (member : session ∈ call.candidates rows) : session ∈ rows ∧ call.selects session = true := by
  have sorted := mem_of_mem_take member
  exact mem_filter.mp ((mem_insertionSort _).mp sorted)

theorem candidates_eq_nil (none : call.candidates rows = []) : ∀ session ∈ rows, call.selects session = false := by
  have empty : rows.filter call.selects = [] := by
    have sorted := (take_eq_nil_iff.mp none).resolve_left (by decide)
    have same := (perm_insertionSort (fun left right : UserSession => left.sid ≤ right.sid)
      (rows.filter call.selects)).length_eq
    rw [sorted] at same
    exact length_eq_zero_iff.mp same.symm
  intro session member
  exact Bool.not_eq_true _ ▸ filter_eq_nil_iff.mp empty session member

theorem selects_active (selected : call.selects session = true) : session.status = .active := by
  simp only [BulkCall.selects, decide_eq_true_eq] at selected
  exact selected.2.1

theorem mem_updateRow {change session : UserSession} (member : session ∈ updateRow change rows) :
    ∃ before ∈ rows, before.sid = session.sid ∧ before.status = session.status ∧
      ∀ call : BulkCall, call.selects before = call.selects session := by
  obtain ⟨before, within, rfl⟩ := mem_map.mp member
  refine ⟨before, within, ?_⟩
  split_ifs <;> exact ⟨rfl, rfl, fun _ => rfl⟩

theorem mem_revokeSelected {now : Int} {reason : String} {sids : List String}
    (member : session ∈ revokeSelected now reason sids rows) :
    session ∈ rows ∨ ∃ before ∈ rows, before.sid ∈ sids ∧ before.status = .active ∧
      session = before.revoke now reason := by
  obtain ⟨before, within, rfl⟩ := mem_map.mp member
  split_ifs with hit
  · exact .inr ⟨before, within, hit.1, hit.2, rfl⟩
  · exact .inl within

end

variable (call : BulkCall)

def BulkCall.Target (start : Sessions) (sid : String) : Prop :=
  ∃ session ∈ start.rows, call.selects session = true ∧ session.sid = sid

def Sessions.Knows (target : String → Prop) (state : Sessions) : BulkStage → Prop
  | .fence pending candidates => ∀ session ∈ candidates, session ∈ pending ∨ state.Denied session.sid
  | .commit candidates => ∀ session ∈ candidates, state.Denied session.sid
  | .returned => ∀ session ∈ state.rows, target session.sid → session.status = .revoked
  | .query | .finalize _ | .failed => True

structure Sessions.Sound (call : BulkCall) (target : String → Prop) (state : Sessions) : Prop where
  recorded : state.Recorded call
  targets : ∀ sid, target sid → sid ∈ state.issued
  rows : ∀ session ∈ state.rows, target session.sid →
    call.selects session = true ∨ session.status = .revoked ∧ state.Denied session.sid
  knows : state.Knows target state.stage

section
variable {call : BulkCall} {target : String → Prop} {state after : Sessions}

theorem Sessions.Knows.mono {stage : BulkStage} (knows : state.Knows target stage)
    (grows : ∀ sid, state.Denied sid → after.Denied sid) (rows : ∀ session ∈ after.rows, target session.sid →
      (∃ before ∈ state.rows, before.sid = session.sid ∧ before.status = session.status) ∨
        session.status = .revoked) : after.Knows target stage := by
  cases stage with
  | query | finalize | failed => trivial
  | fence => exact fun session member => (knows session member).imp id (grows session.sid)
  | commit => exact fun session member => grows session.sid (knows session member)
  | returned =>
    intro session member wanted
    rcases rows session member wanted with ⟨before, within, sameSid, sameStatus⟩ | revoked
    · exact sameStatus ▸ knows before within (sameSid ▸ wanted)
    · exact revoked

theorem Sessions.Recorded.tick {call : BulkCall} {state : Sessions} (recorded : state.Recorded call)
    (nanoseconds : Nat) : { state with clock := state.clock + nanoseconds }.Recorded call := by
  refine ⟨recorded.newest, fun sid lifetime taken inTime => recorded.kept sid lifetime taken ?_⟩
  simp only [unixMilli] at inTime ⊢
  omega

variable (sound : state.Sound call target)
include sound

theorem Sessions.Sound.stage {stage : BulkStage} (knows : state.Knows target stage) : { state with stage }.Sound call target :=
  ⟨sound.recorded, sound.targets, sound.rows, by cases stage <;> exact knows⟩

theorem Sessions.Sound.revoke (now : Int) (reason : String) {sids : List String} (denied : ∀ sid ∈ sids, state.Denied sid) :
    { state with rows := revokeSelected now reason sids state.rows }.Sound call target := by
  constructor
  · exact sound.recorded
  · exact sound.targets
  · intro session member wanted
    rcases mem_revokeSelected member with kept | ⟨before, _, listed, _, rfl⟩
    · exact sound.rows session kept wanted
    · exact .inr ⟨rfl, denied _ listed⟩
  · refine sound.knows.mono (fun _ denied => denied) fun session member _ => ?_
    rcases mem_revokeSelected member with kept | ⟨_, _, _, _, rfl⟩
    · exact .inl ⟨session, kept, rfl, rfl⟩
    · exact .inr rfl

variable (injective : Function.Injective call.userSessionCacheKey)
include injective

theorem Sessions.Sound.write {entry : CacheEntry} {accepted : Bool}
    (effect : CacheEffect call state entry accepted after) : after.Sound call target := by
  obtain ⟨rows, _, issued, stage⟩ := effect.frame
  have grows : ∀ sid, state.Denied sid → after.Denied sid := fun _ denied => effect.denied_kept denied
  constructor
  · exact effect.recorded injective sound.recorded
  · rw [issued]
    exact sound.targets
  · rw [rows]
    intro session member wanted
    exact (sound.rows session member wanted).imp id fun revoked => ⟨revoked.1, grows _ revoked.2⟩
  · rw [stage]
    refine sound.knows.mono grows fun session member _ => .inl ⟨session, ?_, rfl, rfl⟩
    rw [rows] at member
    exact member

theorem Sessions.Sound.advance {input : BulkInput} (stepped : state.advance call input = some after) :
    after.Sound call target := by
  have knows := sound.knows
  unfold Sessions.advance at stepped
  split at stepped <;> try cases stepped
  next here =>
    refine sound.stage ?_
    dsimp only
    split_ifs with _ none
    · trivial
    -- an empty batch: whatever the call was to revoke is revoked
    · intro session member wanted
      have unselected := candidates_eq_nil none session member
      exact ((sound.rows session member wanted).resolve_left (by simp [unselected])).1
    · exact fun session member => .inl member
  next candidates here =>
    rw [here] at knows
    exact sound.stage fun session member => (knows session member).resolve_left not_mem_nil
  next session _ candidates here =>
    rw [here] at knows
    split_ifs at stepped
    · cases stepped
      exact sound.stage trivial
    have effect := writeUserSessionCache_effect call state (session.denied .revoking call.now call.reason) none
      input.reading
    split at stepped
    next written same =>
      rw [same] at effect
      cases stepped
      exact (sound.write injective effect).stage trivial
    next _ same =>
      rw [same] at effect
      cases stepped
      refine (sound.write injective effect).stage fun other member => ?_
      rcases knows other member with waiting | denied
      · rcases mem_cons.mp waiting with rfl | later
        · exact .inr (effect.isDenied revoking_ne_active)
        · exact .inl later
      · exact .inr (effect.denied_kept denied)
  next candidates here =>
    rw [here] at knows
    split_ifs at stepped <;> cases stepped
    · exact sound.stage trivial
    -- only candidates are locked, and each has been denied by now
    have denied : ∀ sid ∈ (lockedRows (candidates.map UserSession.sid) state.rows).map UserSession.sid,
        state.Denied sid := by
      intro sid listed
      obtain ⟨_, locked, rfl⟩ := mem_map.mp listed
      have candidate := (of_decide_eq_true (mem_filter.mp locked).2).1
      obtain ⟨session, member, same⟩ := mem_map.mp candidate
      exact same ▸ knows session member
    have revoked := sound.revoke call.now call.reason denied
    exact ⟨revoked.recorded, revoked.targets, revoked.rows, trivial⟩
  next here => exact sound.stage trivial
  next _ _ here =>
    split_ifs
    · exact sound.stage trivial
    · exact (sound.write injective (writeUserSessionCache_effect _ _ _ _ _)).stage trivial

theorem bulkStep_sound {event : BulkEvent} (stepped : bulkStep call state event = some after) :
    after.Sound call target := by
  cases event with simp only [bulkStep] at stepped
  | own => exact sound.advance injective stepped
  | write =>
    cases stepped
    exact sound.write injective (writeUserSessionCache_effect _ _ _ _ _)
  | create session =>
    split_ifs at stepped with used
    cases stepped
    -- a target's identifier is in use already
    have other : ∀ row ∈ state.rows ++ [session], target row.sid → row ∈ state.rows :=
      forall_mem_append.mpr ⟨fun _ earlier _ => earlier,
        forall_mem_singleton.mpr fun wanted => absurd (sound.targets _ wanted) used⟩
    exact
      { recorded := sound.recorded
        targets := fun sid wanted => mem_append_left _ (sound.targets sid wanted)
        rows := fun row member wanted => sound.rows row (other row member wanted) wanted
        knows := sound.knows.mono (fun _ denied => denied) fun row member wanted =>
          .inl ⟨row, other row member wanted, rfl, rfl⟩ }
  | update =>
    cases stepped
    constructor
    · exact sound.recorded
    · exact sound.targets
    · intro row member wanted
      obtain ⟨before, within, sameSid, sameStatus, selects⟩ := mem_updateRow member
      have kept := sound.rows before within (sameSid ▸ wanted)
      rw [selects call, sameSid, sameStatus] at kept
      exact kept
    · refine sound.knows.mono (fun _ denied => denied) fun row member _ => .inl ?_
      obtain ⟨before, within, sameSid, sameStatus, -⟩ := mem_updateRow member
      exact ⟨before, within, sameSid, sameStatus⟩
  | revoke sid now reason =>
    split_ifs at stepped with denied
    cases stepped
    exact sound.revoke now reason (forall_mem_singleton.mpr denied)
  | delete =>
    cases stepped
    exact
      { recorded := sound.recorded, targets := sound.targets
        rows := fun row member wanted => sound.rows row (mem_of_mem_filter member) wanted
        knows := sound.knows.mono (fun _ denied => denied) fun row member _ =>
          .inl ⟨row, mem_of_mem_filter member, rfl, rfl⟩ }
  | tick nanoseconds =>
    cases stepped
    exact ⟨sound.recorded.tick nanoseconds, sound.targets, sound.rows,
      sound.knows.mono (fun _ denied => denied) fun row member _ => .inl ⟨row, member, rfl, rfl⟩⟩

end

def NoCreation : Sessions → BulkEvent → Prop
  | _, .create _ => False
  | _, _ => True

instance : DecidableRel NoCreation := fun _ _ => by
  unfold NoCreation
  split <;> infer_instance

def BulkEvent.isOwn : BulkEvent → Bool
  | .own _ => true
  | _ => false

def BulkCall.remaining (rows : List UserSession) : Nat := rows.countP call.selects
def BulkCall.outside (candidates rows : List UserSession) : Nat :=
  rows.countP fun session => call.selects session ∧ session.sid ∉ candidates.map sid

def roundWeight (size : Nat) : Nat := userSessionRevokeBatchSize + size + 5

def Sessions.left (size : Nat) (state : Sessions) : Nat :=
  match state.stage with
  | .query => call.remaining state.rows * roundWeight size + 1
  | .fence pending candidates => call.outside candidates state.rows * roundWeight size + pending.length + size + 4
  | .commit candidates => call.outside candidates state.rows * roundWeight size + size + 3
  | .finalize revoked => call.remaining state.rows * roundWeight size + revoked.length + 2
  | .returned | .failed => 0

section
variable {call : BulkCall} {rows : List UserSession}

theorem outside_lt_remaining {candidates : List UserSession} (within : candidates ⊆ rows)
    (selected : ∀ session ∈ candidates, call.selects session = true) (found : candidates ≠ []) :
    call.outside candidates rows < call.remaining rows := by
  obtain ⟨first, member⟩ := exists_mem_of_ne_nil _ found
  have split := countP_eq_countP_filter_add rows call.selects fun session => session.sid ∉ candidates.map sid
  have same : call.outside candidates rows =
      (rows.filter fun session => session.sid ∉ candidates.map sid).countP call.selects := by
    rw [countP_filter]
    exact countP_congr fun session _ => by simp
  have inside : 0 < (rows.filter fun session =>
      !decide (session.sid ∉ candidates.map sid)).countP call.selects := by
    refine countP_pos_iff.mpr ⟨first, mem_filter.mpr ⟨within member, ?_⟩, selected first member⟩
    simpa using ⟨first, member, rfl⟩
  unfold BulkCall.remaining
  omega

theorem remaining_after_commit (candidates : List UserSession) (now : Int) (reason : String) :
    call.remaining (revokeSelected now reason ((lockedRows (candidates.map sid) rows).map sid) rows) ≤
      call.outside candidates rows := by
  unfold BulkCall.remaining BulkCall.outside revokeSelected
  rw [countP_map]
  refine countP_mono_left fun session member selected => ?_
  simp only [comp] at selected
  by_cases hit : session.sid ∈ (lockedRows (candidates.map sid) rows).map sid ∧ session.status = .active
  · rw [if_pos hit] at selected
    exact absurd (selects_active selected) revoked_ne_active
  rw [if_neg hit] at selected
  have active := selects_active selected
  refine decide_eq_true ⟨selected, fun candidate => hit ⟨mem_map.mpr ⟨session, ?_, rfl⟩, active⟩⟩
  exact mem_filter.mpr ⟨member, decide_eq_true ⟨candidate, active⟩⟩

theorem remaining_revokeSelected (now : Int) (reason : String) (sids : List String) (keep : UserSession → Bool)
    (kept : ∀ session : UserSession, keep (session.revoke now reason) = false) :
    (revokeSelected now reason sids rows).countP keep ≤ rows.countP keep := by
  unfold revokeSelected
  rw [countP_map]
  refine countP_mono_left fun session _ counted => ?_
  simp only [comp] at counted
  split_ifs at counted with hit
  · rw [kept session] at counted
    cases counted
  · exact counted

theorem selects_revoke (now : Int) (reason : String) (session : UserSession) :
    call.selects (session.revoke now reason) = false := by
  simp [BulkCall.selects, revoke]

end

/-- What another call does to the rows leaves no more of them, and no more of any kind that
updates cannot create. -/
structure Shrinks (call : BulkCall) (before after : Sessions) : Prop where
  stage : after.stage = before.stage
  rows : after.rows.length ≤ before.rows.length
  remaining : call.remaining after.rows ≤ call.remaining before.rows
  outside : ∀ candidates, call.outside candidates after.rows ≤ call.outside candidates before.rows

theorem Shrinks.of_countP {call : BulkCall} {before after : Sessions} (stage : after.stage = before.stage)
    (rows : after.rows.length ≤ before.rows.length) (fewer : ∀ excluded : List String,
      after.rows.countP (fun session => call.selects session ∧ session.sid ∉ excluded) ≤
        before.rows.countP fun session => call.selects session ∧ session.sid ∉ excluded) :
    Shrinks call before after where
  stage := stage
  rows := rows
  remaining := by simpa [BulkCall.remaining] using fewer []
  outside := fun candidates => fewer (candidates.map sid)

section
variable {call : BulkCall} {state after : Sessions}

theorem bulkStep_shrinks {event : BulkEvent} (foreign : event.isOwn = false) (quiet : NoCreation state event)
    (stepped : bulkStep call state event = some after) : Shrinks call state after := by
  cases event with
  | own => cases foreign
  | create => exact absurd quiet id
  | write entry deadline reading =>
    cases stepped
    obtain ⟨rows, -, -, stage⟩ := (writeUserSessionCache_effect call state entry deadline reading).frame
    exact .of_countP stage (by rw [rows]) fun excluded => by rw [rows]
  | update =>
    cases stepped
    refine .of_countP rfl (by simp [updateRow]) fun excluded => ?_
    unfold updateRow
    rw [countP_map]
    refine countP_mono_left fun session _ counted => ?_
    simp only [comp] at counted
    split_ifs at counted <;> exact counted
  | revoke sid now reason =>
    simp only [bulkStep] at stepped
    split_ifs at stepped
    cases stepped
    refine .of_countP rfl (by simp [revokeSelected]) fun excluded => ?_
    exact remaining_revokeSelected now reason [sid]
      (fun session => decide (call.selects session ∧ session.sid ∉ excluded))
      fun session => by simp [selects_revoke]
  | delete =>
    cases stepped
    exact .of_countP rfl (length_filter_le _ _) fun excluded => filter_sublist.countP_le
  | tick =>
    cases stepped
    exact .of_countP rfl le_rfl fun excluded => le_rfl

theorem Shrinks.left_le (shrinks : Shrinks call state after) (size : Nat) :
    after.left call size ≤ state.left call size := by
  unfold Sessions.left
  rw [shrinks.stage]
  have remaining := mul_le_mul_right (roundWeight size) shrinks.remaining
  cases state.stage with
  | query | finalize => simp only; omega
  | fence _ candidates | commit candidates =>
    have outside := mul_le_mul_right (roundWeight size) (shrinks.outside candidates)
    simp only
    omega
  | returned | failed => exact le_rfl

theorem advance_left {size : Nat} (fits : state.rows.length ≤ size) {input : BulkInput}
    (stepped : state.advance call input = some after) :
    after.left call size < state.left call size ∧ after.rows.length ≤ size := by
  unfold Sessions.advance at stepped
  split at stepped <;> try cases stepped
  next here =>
    refine ⟨?_, fits⟩
    simp only [Sessions.left, here]
    by_cases fault : input.fault = true
    · simp [fault]
    simp only [fault]
    by_cases none : call.candidates state.rows = []
    · simp [none]
    simp only [none, if_false]
    -- fewer sessions are outside the batch than there were to revoke
    have fewer := outside_lt_remaining (fun _ member => (mem_candidates member).1)
      (fun _ member => (mem_candidates member).2) none
    have batch : (call.candidates state.rows).length ≤ userSessionRevokeBatchSize := length_take_le _ _
    have weight := mul_le_mul_right (roundWeight size) (succ_le_of_lt fewer)
    rw [succ_mul] at weight
    simp only [Bool.false_eq_true, if_false]
    unfold roundWeight at weight ⊢
    omega
  next candidates here =>
    refine ⟨?_, fits⟩
    simp only [Sessions.left, here, length_nil]
    omega
  next session _ candidates here =>
    split_ifs at stepped
    · cases stepped
      refine ⟨?_, fits⟩
      simp only [Sessions.left, here]
      omega
    have frame := (writeUserSessionCache_effect call state (session.denied .revoking call.now call.reason) none
      input.reading).frame
    split at stepped
    next written same =>
      rw [same] at frame
      cases stepped
      refine ⟨?_, frame.1 ▸ fits⟩
      simp only [Sessions.left, here]
      omega
    next written same =>
      rw [same] at frame
      have rows : written.rows = state.rows := frame.1
      cases stepped
      refine ⟨?_, rows ▸ fits⟩
      simp only [Sessions.left, here, rows, length_cons]
      omega
  next candidates here =>
    split_ifs at stepped <;> cases stepped
    · refine ⟨?_, fits⟩
      simp only [Sessions.left, here]
      omega
    -- after the commit only those outside the batch remain
    have revoked : call.remaining (revokeSelected call.now call.reason
        ((lockedRows (candidates.map sid) state.rows).map sid) state.rows) ≤
        call.outside candidates state.rows := remaining_after_commit candidates call.now call.reason
    have fewer := mul_le_mul_right (roundWeight size) revoked
    have locked : (lockedRows (candidates.map sid) state.rows).length ≤ state.rows.length := length_filter_le _ _
    refine ⟨?_, by simpa [revokeSelected] using fits⟩
    simp only [Sessions.left, here]
    omega
  next here =>
    refine ⟨?_, fits⟩
    simp only [Sessions.left, here, length_nil]
    omega
  next session _ here =>
    have frame : (if input.fault = true then state else (state.writeUserSessionCache call
        (session.denied .revoked call.now call.reason) none input.reading).2).rows = state.rows := by
      split_ifs
      · rfl
      · exact (writeUserSessionCache_effect _ _ _ _ _).frame.1
    refine ⟨?_, frame.symm ▸ fits⟩
    simp only [Sessions.left, here, frame, length_cons]
    omega

theorem run_left {start final : Sessions} {events : List BulkEvent}
    (run : (bulkMachine call).Runs NoCreation start events final) {size : Nat} (fits : start.rows.length ≤ size) :
    events.countP BulkEvent.isOwn + final.left call size ≤ start.left call size := by
  induction run with
  | nil => simp
  | @cons state next _ event _ quiet stepped _ step =>
    cases own : event.isOwn with
    | false =>
      have shrinks := bulkStep_shrinks own quiet stepped
      have later := step (le_trans shrinks.rows fits)
      have less := shrinks.left_le size
      rw [countP_cons_of_neg (by simp [own])]
      omega
    | true =>
      cases event with
      | own =>
        obtain ⟨_, fits⟩ := advance_left fits stepped
        rw [countP_cons_of_pos rfl]
        omega
      | write | create | update | revoke | delete | tick => cases own

theorem advance_isSome {state : Sessions} (running : state.stage ≠ .returned ∧ state.stage ≠ .failed)
    (input : BulkInput) : ∃ next, state.advance call input = some next := by
  unfold Sessions.advance
  split
  · exact ⟨_, rfl⟩
  · exact ⟨_, rfl⟩
  · split_ifs
    · exact ⟨_, rfl⟩
    · split <;> exact ⟨_, rfl⟩
  · split_ifs <;> exact ⟨_, rfl⟩
  · exact ⟨_, rfl⟩
  · exact ⟨_, rfl⟩
  next returned => exact absurd returned running.1
  next failed => exact absurd failed running.2

end

/-- Identifiers are unique and recorded as used, and so are the denials that are in the cache. -/
structure Sessions.WellFormed (call : BulkCall) (state : Sessions) : Prop where
  unique : (state.rows.map sid).Nodup
  issued : ∀ session ∈ state.rows, session.sid ∈ state.issued
  recorded : state.Recorded call

theorem Sessions.WellFormed.sound {call : BulkCall} {start : Sessions} (formed : start.WellFormed call)
    (begins : start.stage = call.firstStage) : start.Sound call (call.Target start) where
  recorded := formed.recorded
  targets := by
    rintro _ ⟨session, member, -, rfl⟩
    exact formed.issued session member
  rows := by
    rintro session member ⟨wanted, there, selected, same⟩
    have one : wanted = session := inj_on_of_nodup_map formed.unique there member same
    exact .inl (one ▸ selected)
  knows := by
    rw [begins]
    unfold BulkCall.firstStage
    split_ifs <;> trivial

def bulkSample : BulkCall := ⟨9, "b", "password_reset", 100, 60, id⟩

def openSession (sid : String) : UserSession :=
  { sid, userID := 9, version := 1, userAuthVersion := 1, status := .active, refreshHash := "hash"
    previousRefreshHash := "", previousValidUntil := 0, loginMethod := "password", ip := "", userAgent := ""
    createdAt := 10, lastActiveAt := 10, expiresAt := 5000, revokedAt := 0, revokedReason := "" }

def threeSessions : Sessions :=
  { clock := 100 * 1000000000, rows := [openSession "a", openSession "b", openSession "c"], cache := .empty
    issued := ["a", "b", "c"], denials := .empty, stage := .query, totalAffected := 0 }

theorem threeSessions_wellFormed : threeSessions.WellFormed bulkSample where
  unique := by decide
  issued := by decide
  recorded := ⟨fun _ _ here => by simp [threeSessions] at here, fun _ _ taken => by simp [threeSessions] at taken⟩

def wholeCall : List BulkEvent := List.replicate 9 (.own ⟨false, 100 * 1000000000⟩)
def afterCall : Sessions := ((bulkMachine bulkSample).exec unrestricted threeSessions wholeCall).getD threeSessions

def oneSession : Sessions := { threeSessions with rows := [openSession "a"] }

/-- The call denies the session and waits for 61 seconds. The denial lapses, a request finds the
row active and publishes it, the row is revoked, and the tombstone cannot be written. -/
def slowCall : List BulkEvent :=
  [.own ⟨false, 100 * 1000000000⟩, .own ⟨false, 100 * 1000000000⟩, .tick 61000000000,
    .write (openSession "a").cacheEntry (some (221 * 1000000000)) (161 * 1000000000),
    .own ⟨false, 0⟩, .own ⟨false, 0⟩, .own ⟨true, 0⟩, .own ⟨false, 0⟩, .own ⟨false, 0⟩]

def afterSlowCall : Sessions := ((bulkMachine bulkSample).exec unrestricted oneSession slowCall).getD oneSession

end FlowAPI.Session
