import FlowAPI.Submission.Machine

/-! What one step of a request can do.

Every event is an arrival or a move of one request. `step_move` opens the steps
of the machine once; the results about runs split over the moves.
-/

set_option autoImplicit false
namespace FlowAPI.Submission
open Semantics Submissions Option

def Answer.Failure : Answer → Prop
  | .invalidSubmissionKey | .submissionStorageFailed => True
  | _ => False

/-- What a row tells a request that does not own it: a conflict for another fingerprint, its task id once it is
accepted, else its status, where a reservation that is open for more than ten minutes counts as unknown. -/
def TaskSubmission.replies (row : TaskSubmission) (fingerprint : String) (now : Int) : Answer :=
  if fingerprint ≠ row.fingerprint then .idempotencyConflict
  else
    match row.status with
    | .accepted => .accepted row.taskID
    | .submitting => .submissionPending (if 600 < now - row.createdAt then .unknown else .submitting)
    | .unknown => .submissionPending .unknown
    | .failed => .submissionPending .failed

/-- The answer is what the row said when it was read, and the row has only moved on since. -/
def Replays (row : TaskSubmission) (fingerprint : String) (answer : Answer) : Prop :=
  ∃ read now, Keeps read row ∧ answer = read.replies fingerprint now

theorem Replays.keep {row later : TaskSubmission} {fingerprint : String} {answer : Answer}
    (replays : Replays row fingerprint answer) (keeps : Keeps row later) : Replays later fingerprint answer := by
  obtain ⟨read, now, before, said⟩ := replays
  exact ⟨read, now, before.trans keeps, said⟩

section
variable (keyHash : String → String)

inductive Move (state : State) (index : Nat) (request : Request) : Submissions → Stage → List Entry → Prop where
  | reserve (candidate : TaskSubmission) : request.stage = .arrived → candidate.owner = request.owner keyHash →
      (∀ row ∈ state.store.table.rows, row.taskID ≠ candidate.taskID) →
      Move state index request (state.store.create candidate) (.reserved candidate.taskID) []
  | own (row : TaskSubmission) : request.stage = .reserved row.taskID →
      state.store.find (request.owner keyHash) = some row → row.fingerprint = request.fingerprint →
      Move state index request state.store
        (.owner { submissionID := row.id, publicID := row.taskID, toSend := false, dispatched := false
                  definiteFailure := false })
        [.owned index (request.owner keyHash)]
  | refuse (answer : Answer) : request.stage = .arrived ∨ (∃ taskID, request.stage = .reserved taskID) →
      answer.Failure → Move state index request state.store .done [.answered index answer]
  | replay (row : TaskSubmission) (now : Int) {taskID : String} : request.stage = .reserved taskID →
      state.store.find (request.owner keyHash) = some row →
      Move state index request state.store .done [.answered index (row.replies request.fingerprint now)]
  | record (handler : Handler) {route : TaskSubmissionRoute} {now : Int} {after : Submissions} :
      request.stage = .owner handler → 0 < now →
      state.store.recordTaskSubmissionDispatch handler.submissionID request.userID request.tokenID route now =
        .ok after →
      Move state index request after (.owner { handler with toSend := true, dispatched := true })
        [.recorded index (request.owner keyHash)]
  | post (handler : Handler) (definiteFailure : Bool) : request.stage = .owner handler → handler.toSend = true →
      Move state index request state.store (.owner { handler with toSend := false, definiteFailure })
        [.posted index (request.owner keyHash)]
  | keep (handler : Handler) {after : Submissions} : request.stage = .owner handler →
      state.store.Evolves after → Move state index request after (.owner handler) []
  | leave {after : Submissions} : state.store.Evolves after → Move state index request after .done []

variable {keyHash} {state next : State} {index : Nat} {request : Request}

theorem reserve_move {taskID : String} (now : Int) (fault : Bool) (arrived : request.stage = .arrived)
    (fresh : ∀ row ∈ state.store.table.rows, row.taskID ≠ taskID) :
    ∃ store stage entries, Move keyHash state index request store stage entries ∧
      reserve keyHash state index request taskID now fault = state.advance index request store stage entries := by
  unfold reserve
  split
  · exact ⟨_, _, _, .refuse .invalidSubmissionKey (.inl arrived) trivial, rfl⟩
  · split
    · exact ⟨_, _, _, .refuse .submissionStorageFailed (.inl arrived) trivial, rfl⟩
    · exact ⟨_, _, _, .reserve (request.candidate keyHash taskID now) arrived rfl fresh, rfl⟩

section
variable {row : TaskSubmission} (located : state.store.find (request.owner keyHash) = some row)
include located

theorem look_owns {taskID : String} (now : Int) (same : row.fingerprint = request.fingerprint)
    (own : row.taskID = taskID) :
    look keyHash state index request taskID now false =
      state.advance index request state.store
        (.owner { submissionID := row.id, publicID := row.taskID, toSend := false, dispatched := false
                  definiteFailure := false })
        [.owned index (request.owner keyHash)] := by
  simp only [look, getTaskSubmission, located, map_some, Bool.false_eq_true, if_false]
  split_ifs <;> simp_all

theorem look_replies {taskID : String} (now : Int)
    (other : ¬ (row.fingerprint = request.fingerprint ∧ row.taskID = taskID)) :
    look keyHash state index request taskID now false =
      state.answer index request (row.replies request.fingerprint now) := by
  simp only [look, getTaskSubmission, located, map_some, Bool.false_eq_true, if_false]
  by_cases same : row.fingerprint = request.fingerprint
  · have differs : row.taskID ≠ taskID := fun own => other ⟨same, own⟩
    cases status : row.status with
    | submitting =>
      by_cases stale : 600 < now - row.createdAt <;>
        simp [TaskSubmission.replies, same, differs, status, stale]
    | accepted | unknown | failed => simp [TaskSubmission.replies, same, differs, status]
  · have conflicts : request.fingerprint ≠ row.fingerprint := fun equal => same equal.symm
    split_ifs <;> simp_all [TaskSubmission.replies]

end

theorem look_move {taskID : String} (now : Int) (fault : Bool) (reserved : request.stage = .reserved taskID) :
    ∃ store stage entries, Move keyHash state index request store stage entries ∧
      look keyHash state index request taskID now fault = state.advance index request store stage entries := by
  cases fault with
  | true => exact ⟨_, _, _, .refuse .submissionStorageFailed (.inr ⟨taskID, reserved⟩) trivial, rfl⟩
  | false =>
    cases located : state.store.find (request.owner keyHash) with
    | none =>
      refine ⟨_, _, _, .refuse .submissionStorageFailed (.inr ⟨taskID, reserved⟩) trivial, ?_⟩
      simp [look, getTaskSubmission, located, State.answer]
    | some row =>
      by_cases own : row.fingerprint = request.fingerprint ∧ row.taskID = taskID
      · exact ⟨_, _, _, .own row (own.2 ▸ reserved) located own.1, look_owns located now own.1 own.2⟩
      · exact ⟨_, _, _, .replay row now reserved located, look_replies located now own⟩

variable {handler : Handler}

theorem dispatch_move (route : TaskSubmissionRoute) {now : Int} (fault : Bool)
    (owner : request.stage = .owner handler) (later : 0 < now) :
    ∃ store stage entries, Move keyHash state index request store stage entries ∧
      dispatch keyHash state index request handler route now fault =
        state.advance index request store stage entries := by
  unfold dispatch
  split
  · exact ⟨_, _, _, .keep handler owner (.refl _), rfl⟩
  · split
    · exact ⟨_, _, _, .keep handler owner (.refl _), rfl⟩
    next recorded => exact ⟨_, _, _, .record handler owner later recorded, rfl⟩

theorem finish_move (now : Int) (fault : Bool) :
    ∃ store stage entries, Move keyHash state index request store stage entries ∧
      finish state index request handler now fault = state.advance index request store stage entries := by
  unfold finish
  split
  · exact ⟨_, _, _, .leave (.refl _), rfl⟩
  · split
    · exact ⟨_, _, _, .leave (.refl _), rfl⟩
    next finished => exact ⟨_, _, _, .leave (finish_evolves finished), rfl⟩

theorem insertTask_move (task : Task) (now : Int) (fault : Bool) (owner : request.stage = .owner handler) :
    ∃ store stage entries tasks, Move keyHash state index request store stage entries ∧
      insertTask state index request handler task now fault =
        { state.advance index request store stage entries with tasks } := by
  unfold insertTask
  split
  · exact ⟨_, _, _, _, .keep handler owner (.refl _), rfl⟩
  · split
    · exact ⟨_, _, _, _, .keep handler owner (.refl _), rfl⟩
    next inserted => exact ⟨_, _, _, _, .keep handler owner (insertTask_evolves inserted), rfl⟩

theorem run_move {event : Event} (distinct : Distinct state event)
    (ran : run keyHash state index request event = some next) :
    ∃ store stage entries tasks, Move keyHash state index request store stage entries ∧
      next = { state.advance index request store stage entries with tasks } := by
  -- all but the insertion of a task leave the tasks alone
  have plain : ∀ {after : State}, (∃ store stage entries, Move keyHash state index request store stage entries ∧
      after = state.advance index request store stage entries) → some after = some next →
      ∃ store stage entries tasks, Move keyHash state index request store stage entries ∧
        next = { state.advance index request store stage entries with tasks } := by
    rintro _ ⟨store, stage, entries, move, rfl⟩ same
    exact ⟨store, stage, entries, state.tasks, move, (some.inj same).symm⟩
  cases event with simp only [run] at ran
  | arrive => cases ran
  | reserve _ _ now fault =>
    split_ifs at ran with arrived
    exact plain (reserve_move now fault arrived distinct) ran
  | look _ now fault =>
    split at ran
    next reserved => exact plain (look_move now fault reserved) ran
    · cases ran
  | dispatch _ route _ fault =>
    split at ran
    next owner => exact plain (dispatch_move route fault owner distinct) ran
    · cases ran
  | post =>
    split at ran
    next handler owner =>
      split_ifs at ran with toSend
      exact plain ⟨_, _, _, .post handler _ owner toSend, rfl⟩ ran
    · cases ran
  | insertTask _ task now fault =>
    split at ran
    next owner =>
      obtain ⟨store, stage, entries, tasks, move, same⟩ := insertTask_move task now fault owner
      rw [same] at ran
      exact ⟨store, stage, entries, tasks, move, (some.inj ran).symm⟩
    · cases ran
  | finish _ now fault =>
    split at ran
    · exact plain (finish_move now fault) ran
    · cases ran
  | crash => exact plain ⟨_, _, _, .leave (.refl _), rfl⟩ ran

theorem step_move {event : Event} (distinct : Distinct state event) (stepped : step keyHash state event = some next) :
    (∃ request : Request, request.stage = .arrived ∧ next = { state with requests := state.requests ++ [request] }) ∨
    ∃ index request store stage entries tasks, state.requests[index]? = some request ∧
      Move keyHash state index request store stage entries ∧
      next = { state.advance index request store stage entries with tasks } := by
  cases event with
  | arrive => exact .inl ⟨_, rfl, (some.inj stepped).symm⟩
  | _ =>
    obtain ⟨request, selected, ran⟩ := bind_eq_some_iff.mp stepped
    obtain ⟨store, stage, entries, tasks, move, same⟩ := run_move distinct ran
    exact .inr ⟨_, request, store, stage, entries, tasks, selected, move, same⟩

theorem Move.evolves {store : Submissions} {stage : Stage} {entries : List Entry}
    (move : Move keyHash state index request store stage entries) : state.store.Evolves store := by
  cases move with
  | reserve _ _ _ fresh => exact evolves_create fresh
  | record _ _ _ recorded => exact record_evolves recorded
  | keep _ _ evolves | leave evolves => exact evolves
  | own | refuse | replay | post => exact .refl _

end

end FlowAPI.Submission
