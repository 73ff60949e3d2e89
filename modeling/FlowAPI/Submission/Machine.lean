import FlowAPI.Semantics.Machine
import FlowAPI.Semantics.Table
import Mathlib.Data.List.MinMax

/-! Idempotency keys, the statements of `model/task_submission.go`, and requests with a key, interleaved in any way.

One row stands for one (user, token, key digest), and the primary key and the task id are unique as well; all three
are fields of the store. The digest is any function of the key.

A request inserts its reservation or finds one, looks the row up, and is answered at once unless the row carries the
task id it generated itself. Only then does it run the handler: record the dispatch, send the paid request, store the
task and finish. Each statement is one step that may fail, and a process may crash before any of them. -/

set_option autoImplicit false
namespace FlowAPI.Submission
open Semantics List Table

inductive SubmissionStatus where
  | submitting | unknown | failed | accepted
  deriving DecidableEq, Repr

structure TaskSubmissionRoute where
  channelID : Int
  (apiKey upstreamModelName : String)
  reservedQuota : Int
  deriving DecidableEq, Repr

/-- What `idx_task_submission_owner` is over. -/
structure Owner where
  (userID tokenID : Int)
  keyHash : String
  deriving DecidableEq, Repr

structure TaskSubmission where
  id : Nat
  owner : Owner
  (clientKey fingerprint taskID : String)
  status : SubmissionStatus
  (createdAt updatedAt dispatchedAt : Int)
  route : Option TaskSubmissionRoute
  deriving DecidableEq, Repr

structure Submissions where
  table : Table TaskSubmission.owner
  ids : (table.rows.map TaskSubmission.id).Nodup
  taskIDs : (table.rows.map TaskSubmission.taskID).Nodup

/-- The fields of a new task that `InsertTaskForSubmission` compares. -/
structure Task where
  (userId tokenId : Int)
  taskID : String
  channelId : Int
  (key upstreamModelName : String)
  deriving DecidableEq, Repr

def Task.follows (task : Task) (route : TaskSubmissionRoute) : Bool :=
  decide (route.channelID = task.channelId ∧ route.apiKey = task.key ∧ route.upstreamModelName = task.upstreamModelName)

def validTaskSubmissionKey (key : String) : Bool :=
  decide (0 < key.utf8ByteSize ∧ key.utf8ByteSize ≤ 200) &&
    key.toList.all fun char => decide (33 ≤ char.toNat ∧ char.toNat ≤ 126)

namespace Submissions

instance : DecidableEq Submissions := fun left right =>
  decidable_of_iff (left.table = right.table) ⟨by cases left; cases right; rintro rfl; rfl, congrArg table⟩
def empty : Submissions := { table := { rows := [], unique := nodup_nil }, ids := nodup_nil, taskIDs := nodup_nil }
def find (store : Submissions) (owner : Owner) : Option TaskSubmission := store.table.find owner

variable (store : Submissions)

def first (id : Nat) : Option TaskSubmission := store.table.rows.find? fun row => decide (row.id = id)
def nextID : Nat := (store.table.rows.map TaskSubmission.id).foldr max 0 + 1

theorem lt_nextID {store : Submissions} {row : TaskSubmission} (member : row ∈ store.table.rows) :
    row.id < store.nextID :=
  Nat.lt_succ_of_le (le_max_of_le' 0 (mem_map_of_mem member) (le_refl row.id))

/-- `INSERT .. ON CONFLICT DO NOTHING`: a conflict on any unique index drops the row. -/
def create (candidate : TaskSubmission) : Submissions :=
  if fresh : (∀ row ∈ store.table.rows, row.owner ≠ candidate.owner) ∧
      ∀ row ∈ store.table.rows, row.taskID ≠ candidate.taskID then
    { table := store.table.insert { candidate with id := store.nextID } fresh.1
      ids := Table.nodup_concat store.ids fun _ member => (lt_nextID member).ne
      taskIDs := Table.nodup_concat store.taskIDs fresh.2 }
  else store

/-- `UPDATE .. WHERE id = ? AND ..` that leaves the unique columns alone. -/
def update (id : Nat) (selects : TaskSubmission → Bool) (change : TaskSubmission → TaskSubmission)
    (keeps : ∀ row, (change row).owner = row.owner ∧ (change row).id = row.id ∧ (change row).taskID = row.taskID) :
    Submissions where
  table := store.table.modify (fun row => decide (row.id = id) && selects row) change fun row _ => (keeps row).1
  ids := by
    simp only [Table.modify]
    rw [Table.map_change _ _ _ _ fun row _ => (keeps row).2.1]
    exact store.ids
  taskIDs := by
    simp only [Table.modify]
    rw [Table.map_change _ _ _ _ fun row _ => (keeps row).2.2]
    exact store.taskIDs

/-- A reservation that is still open after ten minutes reads as unknown. -/
def getTaskSubmission (owner : Owner) (now : Int) : Option TaskSubmission :=
  (store.find owner).map fun row =>
    if row.status = .submitting ∧ 600 < now - row.createdAt then { row with status := .unknown } else row

def recordTaskSubmissionDispatch (id : Nat) (userID tokenID : Int)
    (route : TaskSubmissionRoute) (now : Int) : Except String Submissions :=
  if route.channelID ≤ 0 ∨ route.apiKey = "" ∨ route.upstreamModelName = "" ∨ route.reservedQuota < 0 then
    .error "invalid submission route"
  else
    match store.first id with
    | none => .error "record not found"
    | some submission =>
      if submission.owner.userID ≠ userID ∨ submission.owner.tokenID ≠ tokenID then .error "submission owner mismatch"
      else if submission.status = .submitting ∧ submission.dispatchedAt = 0 then
        .ok (store.update id (fun row => decide (row.status = .submitting ∧ row.dispatchedAt = 0))
          (fun row => { row with route := some route, dispatchedAt := now, updatedAt := now })
          fun _ => ⟨rfl, rfl, rfl⟩)
      else .error "submission already dispatched"

/-- The task and the acceptance are written together or not at all. -/
def insertTaskForSubmission (task : Task) (id : Nat) (now : Int) : Except String Submissions :=
  match store.first id with
  | none => .error "record not found"
  | some submission =>
    if submission.owner.userID ≠ task.userId ∨ submission.owner.tokenID ≠ task.tokenId ∨
        submission.taskID ≠ task.taskID then
      .error "submission owner mismatch"
    else if submission.route.any fun route => !task.follows route then .error "submission route mismatch"
    else if submission.status = .submitting ∨ submission.status = .unknown then
      .ok (store.update id
        (fun row => decide (row.taskID = task.taskID ∧ (row.status = .submitting ∨ row.status = .unknown)))
        (fun row => { row with status := .accepted, updatedAt := now }) fun _ => ⟨rfl, rfl, rfl⟩)
    else .error "submission acceptance conflict"

def finishTaskSubmission (id : Nat) (dispatched definiteFailure : Bool) (now : Int) :
    Except String Submissions :=
  match store.first id with
  | none => .error "record not found"
  | some submission =>
    let status : SubmissionStatus :=
      if definiteFailure then .failed
      else if 0 < submission.dispatchedAt ∨ dispatched = true then .unknown
      else .failed
    .ok (store.update id (fun row => decide (row.status = .submitting))
      (fun row => { row with status, updatedAt := now }) fun _ => ⟨rfl, rfl, rfl⟩)

structure Keeps (row later : TaskSubmission) : Prop where
  id : later.id = row.id
  taskID : later.taskID = row.taskID
  fingerprint : later.fingerprint = row.fingerprint
  dispatched : row.dispatchedAt ≠ 0 → later.dispatchedAt ≠ 0
  accepted : row.status = .accepted → later.status = .accepted

theorem Keeps.refl (row : TaskSubmission) : Keeps row row := ⟨rfl, rfl, rfl, fun was => was, fun was => was⟩

theorem Keeps.trans {first second third : TaskSubmission} (left : Keeps first second) (right : Keeps second third) :
    Keeps first third where
  id := right.id.trans left.id
  taskID := right.taskID.trans left.taskID
  fingerprint := right.fingerprint.trans left.fingerprint
  dispatched := fun was => right.dispatched (left.dispatched was)
  accepted := fun was => right.accepted (left.accepted was)

def Evolves (before after : Submissions) : Prop :=
  ∀ owner row, before.find owner = some row → ∃ later, after.find owner = some later ∧ Keeps row later
theorem Evolves.refl : store.Evolves store :=
  fun _ row found => ⟨row, found, .refl row⟩

section
variable {store after : Submissions} {owner : Owner} {row : TaskSubmission} {id : Nat}

theorem first_of_find (found : store.find owner = some row) : store.first row.id = some row := by
  have member := (mem_of_find found).1
  cases looked : store.first row.id with
  | none => exact absurd (find?_eq_none.mp looked row member) (by simp)
  | some other =>
    have same : other.id = row.id := by simpa using find?_some looked
    rw [inj_on_of_nodup_map store.ids (mem_of_find?_eq_some looked) member same]

theorem find_update (selects : TaskSubmission → Bool) (change : TaskSubmission → TaskSubmission)
    (keeps : ∀ row, (change row).owner = row.owner ∧ (change row).id = row.id ∧ (change row).taskID = row.taskID) :
    (store.update id selects change keeps).find owner =
      (store.find owner).map fun row => if decide (row.id = id) && selects row then change row else row :=
  find_modify _ _ _ (fun row _ => (keeps row).1) owner

section
variable {candidate : TaskSubmission} (fresh : ∀ row ∈ store.table.rows, row.taskID ≠ candidate.taskID)
include fresh

theorem find_create : (store.create candidate).find owner = match store.find candidate.owner with
      | some _ => store.find owner
      | none => if candidate.owner = owner then some { candidate with id := store.nextID } else store.find owner := by
  unfold create
  cases known : store.find candidate.owner with
  | some row =>
    obtain ⟨member, same⟩ := mem_of_find known
    rw [dif_neg fun absent => absent.1 row member same]
  | none =>
    have absent : ∀ row ∈ store.table.rows, row.owner ≠ candidate.owner := by
      intro row member same
      have found : store.find row.owner = some row := find_of_mem member
      rw [same, known] at found
      cases found
    rw [dif_pos ⟨absent, fresh⟩]
    exact find_insert store.table { candidate with id := store.nextID } absent owner

theorem evolves_create : store.Evolves (store.create candidate) := by
  intro owner row found
  refine ⟨row, ?_, .refl row⟩
  rw [find_create fresh]
  split
  · exact found
  next unknown =>
    rw [if_neg]
    · exact found
    · rintro rfl
      rw [unknown] at found
      cases found
end

theorem evolves_update {selects : TaskSubmission → Bool} {change : TaskSubmission → TaskSubmission}
    (keeps : ∀ row, (change row).owner = row.owner ∧ (change row).id = row.id ∧ (change row).taskID = row.taskID)
    (kept : ∀ row, selects row = true → Keeps row (change row)) :
    store.Evolves (store.update id selects change keeps) := by
  intro owner row found
  refine ⟨_, by rw [find_update, found, Option.map_some], ?_⟩
  split
  next selected => exact kept row (Bool.and_eq_true_iff.mp selected).2
  · exact .refl row

variable {route : TaskSubmissionRoute} {userID tokenID now : Int}

section
variable (recorded : store.recordTaskSubmissionDispatch id userID tokenID route now = .ok after)
include recorded

theorem record_inv :
    ∃ submission, store.first id = some submission ∧ submission.status = .submitting ∧ submission.dispatchedAt = 0 ∧
      after = store.update id (fun row => decide (row.status = .submitting ∧ row.dispatchedAt = 0))
        (fun row => { row with route := some route, dispatchedAt := now, updatedAt := now })
        fun _ => ⟨rfl, rfl, rfl⟩ := by
  unfold recordTaskSubmissionDispatch at recorded
  split_ifs at recorded
  split at recorded
  · cases recorded
  next submission found =>
    split at recorded
    · cases recorded
    · split at recorded <;> cases recorded
      next opened => exact ⟨submission, found, opened.1, opened.2, rfl⟩

theorem record_spec (found : store.find owner = some row) (same : row.id = id) :
    row.dispatchedAt = 0 ∧ ∃ later, after.find owner = some later ∧ later.dispatchedAt = now := by
  obtain ⟨_, first, opened, undispatched, rfl⟩ := record_inv recorded
  rw [← same, first_of_find found] at first
  cases first
  refine ⟨undispatched, _, by rw [find_update, found, Option.map_some], ?_⟩
  rw [if_pos (by simp [same, opened, undispatched])]

theorem record_evolves : store.Evolves after := by
  obtain ⟨_, _, _, _, rfl⟩ := record_inv recorded
  apply evolves_update
  intro row selected
  simp only [decide_eq_true_eq] at selected
  exact ⟨rfl, rfl, rfl, fun was => absurd selected.2 was, fun was => was⟩

end

theorem insertTask_evolves {task : Task} {now : Int}
    (inserted : store.insertTaskForSubmission task id now = .ok after) : store.Evolves after := by
  unfold insertTaskForSubmission at inserted
  split at inserted
  · cases inserted
  · split at inserted
    · cases inserted
    · split at inserted
      · cases inserted
      · split at inserted <;> cases inserted
        · apply evolves_update
          intro row selected
          exact ⟨rfl, rfl, rfl, fun was => was, fun _ => rfl⟩

theorem finish_evolves {dispatched definiteFailure : Bool} {now : Int}
    (finished : store.finishTaskSubmission id dispatched definiteFailure now = .ok after) : store.Evolves after := by
  unfold finishTaskSubmission at finished
  split at finished <;> cases finished
  · apply evolves_update
    intro row selected
    refine ⟨rfl, rfl, rfl, fun was => was, fun was => ?_⟩
    rw [was] at selected
    cases selected

end

end Submissions

structure Handler where
  submissionID : Nat
  publicID : String
  -- a dispatch is recorded and its paid request has not been sent yet
  (toSend dispatched definiteFailure : Bool)
  deriving DecidableEq, Repr

inductive Stage where
  | arrived
  | reserved (taskID : String)
  | owner (handler : Handler)
  | done
  deriving DecidableEq, Repr

structure Request where
  (userID tokenID : Int)
  (key fingerprint : String)
  stage : Stage
  deriving DecidableEq, Repr

/-- The answers of the middleware: 400, 500, 409, 200 and 409. -/
inductive Answer where
  | invalidSubmissionKey | submissionStorageFailed | idempotencyConflict
  | accepted (taskID : String)
  | submissionPending (status : SubmissionStatus)
  deriving DecidableEq, Repr

inductive Entry where
  | owned (index : Nat) (owner : Owner)
  | recorded (index : Nat) (owner : Owner)
  | posted (index : Nat) (owner : Owner)
  | answered (index : Nat) (answer : Answer)
  deriving DecidableEq, Repr

structure State where
  store : Submissions
  tasks : List Task
  requests : List Request
  log : List Entry
  deriving DecidableEq

inductive Event where
  | arrive (userID tokenID : Int) (key fingerprint : String)
  | reserve (index : Nat) (taskID : String) (now : Int) (fault : Bool)
  | look (index : Nat) (now : Int) (fault : Bool)
  | dispatch (index : Nat) (route : TaskSubmissionRoute) (now : Int) (fault : Bool)
  | post (index : Nat) (rejected : Bool)
  | insertTask (index : Nat) (task : Task) (now : Int) (fault : Bool)
  | finish (index : Nat) (now : Int) (fault : Bool)
  | crash (index : Nat)

section
variable (keyHash : String → String)

def Request.owner (request : Request) : Owner :=
  { userID := request.userID, tokenID := request.tokenID, keyHash := keyHash request.key }

def Request.candidate (request : Request) (taskID : String) (now : Int) : TaskSubmission :=
  { id := 0, owner := request.owner keyHash, clientKey := request.key, fingerprint := request.fingerprint
    taskID, status := .submitting, createdAt := now, updatedAt := now, dispatchedAt := 0, route := none }

variable (state : State)

def State.advance (index : Nat) (request : Request) (store : Submissions) (stage : Stage)
    (entries : List Entry) : State :=
  { state with
    store, requests := state.requests.set index { request with stage }, log := state.log ++ entries }

def State.answer (state : State) (index : Nat) (request : Request) (answer : Answer) : State :=
  state.advance index request state.store .done [.answered index answer]

/-- The first half of `ReserveTaskSubmission`, after the check of the middleware. -/
def reserve (index : Nat) (request : Request) (taskID : String) (now : Int) (fault : Bool) : State :=
  if validTaskSubmissionKey request.key = false then state.answer index request .invalidSubmissionKey
  else if request.userID ≤ 0 ∨ request.tokenID ≤ 0 ∨ request.fingerprint = "" ∨ fault = true then
    state.answer index request .submissionStorageFailed
  else state.advance index request (state.store.create (request.candidate keyHash taskID now)) (.reserved taskID) []

/-- The second half, and what the middleware makes of it. -/
def look (index : Nat) (request : Request) (taskID : String) (now : Int) (fault : Bool) : State :=
  if fault then state.answer index request .submissionStorageFailed
  else
    match state.store.getTaskSubmission (request.owner keyHash) now with
    | none => state.answer index request .submissionStorageFailed
    | some saved =>
      if saved.fingerprint ≠ request.fingerprint then state.answer index request .idempotencyConflict
      else if saved.taskID = taskID then
        state.advance index request state.store
          (.owner { submissionID := saved.id, publicID := saved.taskID, toSend := false, dispatched := false
                    definiteFailure := false })
          [.owned index (request.owner keyHash)]
      else if saved.status = .accepted then state.answer index request (.accepted saved.taskID)
      else state.answer index request (.submissionPending saved.status)

def dispatch (index : Nat) (request : Request) (handler : Handler) (route : TaskSubmissionRoute)
    (now : Int) (fault : Bool) : State :=
  let failed := state.advance index request state.store (.owner handler) []
  if fault then failed
  else
    match state.store.recordTaskSubmissionDispatch handler.submissionID request.userID request.tokenID route now with
    | .error _ => failed
    | .ok store =>
      state.advance index request store (.owner { handler with toSend := true, dispatched := true })
        [.recorded index (request.owner keyHash)]

def insertTask (index : Nat) (request : Request) (handler : Handler) (task : Task) (now : Int)
    (fault : Bool) : State :=
  let failed := state.advance index request state.store (.owner handler) []
  if fault then failed
  else
    match state.store.insertTaskForSubmission task handler.submissionID now with
    | .error _ => failed
    | .ok store => { state.advance index request store (.owner handler) [] with tasks := state.tasks ++ [task] }

def finish (index : Nat) (request : Request) (handler : Handler) (now : Int) (fault : Bool) : State :=
  let failed := state.advance index request state.store .done []
  if fault then failed
  else
    match state.store.finishTaskSubmission handler.submissionID handler.dispatched handler.definiteFailure now with
    | .error _ => failed
    | .ok store => state.advance index request store .done []

def run (index : Nat) (request : Request) : Event → Option State
  | .reserve _ taskID now fault =>
    if request.stage = .arrived then some (reserve keyHash state index request taskID now fault) else none
  | .look _ now fault =>
    match request.stage with
    | .reserved taskID => some (look keyHash state index request taskID now fault)
    | _ => none
  | .dispatch _ route now fault =>
    match request.stage with
    | .owner handler => some (dispatch keyHash state index request handler route now fault)
    | _ => none
  | .post _ rejected =>
    match request.stage with
    | .owner handler =>
      if handler.toSend then
        some (state.advance index request state.store
          (.owner { handler with
            toSend := false, definiteFailure := handler.definiteFailure || rejected })
          [.posted index (request.owner keyHash)])
      else none
    | _ => none
  | .insertTask _ task now fault =>
    match request.stage with
    | .owner handler => some (insertTask state index request handler task now fault)
    | _ => none
  | .finish _ now fault =>
    match request.stage with
    | .owner handler => some (finish state index request handler now fault)
    | _ => none
  | .crash _ => some (state.advance index request state.store .done [])
  | .arrive _ _ _ _ => none

def Event.index : Event → Nat
  | .arrive _ _ _ _ => 0
  | .reserve index _ _ _ | .look index _ _ | .dispatch index _ _ _ | .post index _ | .insertTask index _ _ _
  | .finish index _ _ | .crash index => index

def step : Event → Option State
  | .arrive userID tokenID key fingerprint =>
    some { state with requests := state.requests ++ [{ userID, tokenID, key, fingerprint, stage := .arrived }] }
  | event => (state.requests[event.index]?).bind fun request => run keyHash state event.index request event

def machine : Machine State Event := ⟨step keyHash⟩

end

def State.opened (store : Submissions) : State := { store, tasks := [], requests := [], log := [] }

/-- Generated task ids are new, and the clock has left zero behind. -/
def Distinct (state : State) : Event → Prop
  | .reserve _ taskID _ _ => ∀ row ∈ state.store.table.rows, row.taskID ≠ taskID
  | .dispatch _ _ now _ => 0 < now
  | _ => True

instance : DecidableRel Distinct := fun _ _ => by
  unfold Distinct
  split <;> infer_instance

end FlowAPI.Submission
