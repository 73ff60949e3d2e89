import FlowAPI.Golang.Strings
import FlowAPI.Semantics.Machine
import FlowAPI.Semantics.Table

/-! One-time flows of authentication ceremonies, and consuming one under any interleaving: `model/auth_flow.go`.

A flow is found by the keyed hash of its token, which is unique in the table. Times are nanoseconds of one clock.

A call of `ConsumeAuthFlowWithAction` is a transaction: it reads the row, with a row lock where the database has one,
checks the copy against the clock, marks the row with a conditional update, runs the action and commits. What it has
written becomes visible then, and an error at any point throws it away. A statement that meets a row held by another
call waits, so it has no step until the row is free. -/

set_option autoImplicit false
namespace FlowAPI.AuthFlow
open Semantics Golang List Table

structure Flow where
  id : Int
  (tokenHash purpose provider intent : String)
  userId : Int
  (sessionId payload : String)
  (createdAt expiresAt : Int)
  consumedAt : Option Int
  deriving DecidableEq, Repr

structure AuthFlowCreate where
  (purpose provider intent : String)
  userId : Int
  (sessionId payload : String)
  expiresAt : Int

structure AuthFlowMatch where
  (purpose provider intent : String)
  userId : Int
  sessionId : String
  deriving DecidableEq, Repr

inductive AuthFlowError where
  | invalid | expired | consumed
  | action (text : String)
  | database
  deriving DecidableEq, Repr

/-- The rows of `auth_flows`, with their primary key and their unique index. -/
structure Flows where
  table : Table Flow.id
  hashes : (table.rows.map Flow.tokenHash).Nodup

@[ext] theorem Flows.ext {left right : Flows} (same : left.table = right.table) : left = right := by
  cases right
  cases same
  rfl

instance : DecidableEq Flows :=
  fun left right => decidable_of_iff (left.table = right.table) ⟨Flows.ext, congrArg Flows.table⟩
def zeroTime : Int := -62135596800000000000
def cleanupRetention : Int := 24 * 3600 * 1000000000

section
variable (authFlowTokenHash : String → String)

def Matches (token : String) (wanted : AuthFlowMatch) (flow : Flow) : Prop :=
  flow.tokenHash = authFlowTokenHash token ∧ flow.purpose = wanted.purpose ∧
    (wanted.provider ≠ "" → flow.provider = wanted.provider) ∧
    (wanted.intent ≠ "" → flow.intent = wanted.intent) ∧
    (wanted.userId ≠ 0 → flow.userId = wanted.userId) ∧
    (wanted.sessionId ≠ "" → flow.sessionId = wanted.sessionId)

instance (token : String) (wanted : AuthFlowMatch) : DecidablePred (Matches authFlowTokenHash token wanted) :=
  fun _ => inferInstanceAs (Decidable (_ ∧ _))

def applyAuthFlowMatch (flows : Flows) (token : String) (wanted : AuthFlowMatch) : Option Flow :=
  flows.table.rows.find? fun flow => decide (Matches authFlowTokenHash token wanted flow)

/-- What `GetAuthFlow` and `ConsumeAuthFlowWithAction` ask of the row they have read. -/
def validate (now : Int) (flow : Flow) : Except AuthFlowError Flow :=
  if flow.consumedAt ≠ none then .error .consumed
  else if flow.expiresAt ≤ now then .error .expired
  else .ok flow

def getAuthFlow (flows : Flows) (now : Int) (token : String) (wanted : AuthFlowMatch) : Except AuthFlowError Flow :=
  if token = "" ∨ wanted.purpose = "" then .error .invalid
  else
    match applyAuthFlowMatch authFlowTokenHash flows token wanted with
    | none => .error .invalid
    | some flow => validate now flow

def AuthFlowCreate.flow (input : AuthFlowCreate) (now : Int) (token : String) (id : Int) : Flow :=
  { id, tokenHash := authFlowTokenHash token, purpose := input.purpose, provider := input.provider
    intent := input.intent, userId := input.userId, sessionId := input.sessionId, payload := input.payload
    createdAt := now, expiresAt := input.expiresAt, consumedAt := none }

def createAuthFlow (flows : Flows) (input : AuthFlowCreate) (now : Int) (token : String) (id : Int) :
    Except AuthFlowError Flows :=
  if trimSpace input.purpose = "" ∨ input.expiresAt = zeroTime ∨ input.expiresAt ≤ now then .error .invalid
  else if fresh : (∀ other ∈ flows.table.rows, other.id ≠ id) ∧
      ∀ other ∈ flows.table.rows, other.tokenHash ≠ authFlowTokenHash token then
    .ok {
      table := flows.table.insert (input.flow authFlowTokenHash now token id) fresh.1
      hashes := Table.nodup_concat flows.hashes fresh.2 }
  else .error .database

end

def Selected (id now : Int) (flow : Flow) : Prop := flow.id = id ∧ flow.consumedAt = none ∧ now < flow.expiresAt
instance (id now : Int) : DecidablePred (Selected id now) := fun _ => inferInstanceAs (Decidable (_ ∧ _))
def Flow.consume (now : Int) (flow : Flow) : Flow := { flow with consumedAt := some now }

/-- `UPDATE auth_flows SET consumed_at = now WHERE ..`. -/
def Flows.consume (flows : Flows) (id now : Int) : Flows where
  table := flows.table.modify (fun flow => decide (Selected id now flow)) (Flow.consume now) fun _ _ => rfl
  hashes := by
    simp only [Table.modify]
    rw [Table.map_change flows.table.rows _ (Flow.consume now) Flow.tokenHash fun _ _ => rfl]
    exact flows.hashes

def Expired (now : Int) (flow : Flow) : Prop :=
  flow.expiresAt < now - cleanupRetention ∨ ∃ taken ∈ flow.consumedAt, taken < now - cleanupRetention
instance (now : Int) : DecidablePred (Expired now) := fun _ => inferInstanceAs (Decidable (_ ∨ _))

def deleteExpiredAuthFlows (flows : Flows) (now : Int) : Flows where
  table := flows.table.delete fun flow => decide (Expired now flow)
  hashes := flows.hashes.sublist (List.Sublist.map _ filter_sublist)

section
variable {authFlowTokenHash : String → String} {flows : Flows} {token : String} {wanted : AuthFlowMatch}
variable {flow other : Flow} {id now : Int}

theorem applyAuthFlowMatch_some (found : applyAuthFlowMatch authFlowTokenHash flows token wanted = some flow) :
    flow ∈ flows.table.rows ∧ Matches authFlowTokenHash token wanted flow := by
  have matched := find?_some found
  exact ⟨mem_of_find?_eq_some found, of_decide_eq_true matched⟩

section
variable (member : flow ∈ flows.table.rows)
include member

theorem Flows.eq_of_hash (listed : other ∈ flows.table.rows) (same : flow.tokenHash = other.tokenHash) : flow = other :=
  inj_on_of_nodup_map flows.hashes member listed same
theorem Flows.eq_of_id (listed : other ∈ flows.table.rows) (same : flow.id = other.id) : flow = other :=
  inj_on_of_nodup_map flows.table.unique member listed same

theorem applyAuthFlowMatch_of_mem (matched : Matches authFlowTokenHash token wanted flow) :
    applyAuthFlowMatch authFlowTokenHash flows token wanted = some flow := by
  cases found : applyAuthFlowMatch authFlowTokenHash flows token wanted with
  | none =>
    have none := find?_eq_none.mp found flow member
    exact absurd (decide_eq_true matched) none
  | some =>
    obtain ⟨listed, also⟩ := applyAuthFlowMatch_some found
    rw [Flows.eq_of_hash listed member (also.1.trans matched.1.symm)]

end

theorem validate_ok {result : Flow} (valid : validate now flow = .ok result) :
    result = flow ∧ flow.consumedAt = none ∧ now < flow.expiresAt := by
  unfold validate at valid
  split at valid
  · cases valid
  next unconsumed =>
    split at valid <;> cases valid
    next unexpired => exact ⟨rfl, Decidable.not_not.mp unconsumed, Int.not_le.mp unexpired⟩

theorem Flows.mem_consume : flow ∈ (flows.consume id now).table.rows ↔
    ∃ before ∈ flows.table.rows, (if Selected id now before then before.consume now else before) = flow := by
  simp [Flows.consume, Table.modify]

theorem mem_deleteExpired : flow ∈ (deleteExpiredAuthFlows flows now).table.rows ↔
    flow ∈ flows.table.rows ∧ ¬ Expired now flow := by
  simp [deleteExpiredAuthFlows, mem_delete]

end

/-- Where a call stands. From the check on it carries the time it has read. -/
inductive Phase (Effect : Type) where
  | started
  | loaded (flow : Flow)
  | checked (flow : Flow) (now : Int)
  | updated (flow : Flow) (now : Int)
  | acted (flow : Flow) (now : Int) (writes : List Effect)
  | succeeded (flow : Flow) (now : Int) (writes : List Effect)
  | failed (error : AuthFlowError)
  deriving DecidableEq, Repr

structure Call (Effect : Type) where
  token : String
  wanted : AuthFlowMatch
  hasAction : Bool
  begunAt : Int
  phase : Phase Effect
  deriving DecidableEq, Repr

/-- Committed rows and effects, and the calls in the order they began. Every
effect is recorded with the call whose transaction has made it. -/
structure State (Effect : Type) where
  now : Int
  flows : Flows
  effects : List (Nat × Effect)
  calls : List (Call Effect)
  answers : List (Except AuthFlowError Flow)
  deriving DecidableEq

/-- The statements of a call before its commit. `act` carries what the action has
written and the error it has returned. -/
inductive Move (Effect : Type) where
  | read | check | update
  | act (writes : List Effect) (error : Option String)
  | abort

inductive Event (Effect : Type) where
  | begin (token : String) (wanted : AuthFlowMatch) (hasAction : Bool)
  | run (index : Nat) (move : Move Effect)
  | commit (index : Nat)
  | get (token : String) (wanted : AuthFlowMatch)
  | cleanup (now : Int)
  | tick (elapsed : Nat)

section
variable {Effect : Type}

def Phase.held (locking : Bool) : Phase Effect → Option Int
  | .loaded flow | .checked flow _ => if locking then some flow.id else none
  | .updated flow _ | .acted flow _ _ => some flow.id
  | .started | .succeeded _ _ _ | .failed _ => none

def Phase.kept : Phase Effect → List Effect
  | .succeeded _ _ writes => writes
  | _ => []

def Held (locking : Bool) (calls : List (Call Effect)) (id : Int) : Prop :=
  ∃ call ∈ calls, call.phase.held locking = some id
instance (locking : Bool) (calls : List (Call Effect)) : DecidablePred (Held locking calls) :=
  fun _ => inferInstanceAs (Decidable (∃ call ∈ calls, _))

variable (authFlowTokenHash : String → String) (locking : Bool)

def Call.move (flows : Flows) (now : Int) (others : List (Call Effect)) (call : Call Effect) :
    Move Effect → Option (Phase Effect)
  | .read =>
    match call.phase with
    | .started =>
      match applyAuthFlowMatch authFlowTokenHash flows call.token call.wanted with
      | none => some (.failed .invalid)
      | some flow => if locking = true ∧ Held locking others flow.id then none else some (.loaded flow)
    | _ => none
  | .check =>
    match call.phase with
    | .loaded flow =>
      match validate now flow with
      | .error error => some (.failed error)
      | .ok flow => some (.checked flow now)
    | _ => none
  | .update =>
    match call.phase with
    | .checked flow now =>
      if Held locking others flow.id then none
      else if ∃ row ∈ flows.table.rows, Selected flow.id now row then
        some (if call.hasAction then .updated flow now else .acted flow now [])
      else some (.failed .consumed)
    | _ => none
  | .act writes error =>
    match call.phase with
    | .updated flow now =>
      match error with
      | some text => some (.failed (.action text))
      | none => some (.acted flow now writes)
    | _ => none
  | .abort =>
    match call.phase with
    | .succeeded _ _ _ | .failed _ => none
    | _ => some (.failed .database)

def State.setPhase (state : State Effect) (index : Nat) (call : Call Effect) (phase : Phase Effect) : State Effect :=
  { state with calls := state.calls.set index { call with phase } }

def step (state : State Effect) : Event Effect → Option (State Effect)
  | .begin token wanted hasAction =>
    let phase := if token = "" ∨ wanted.purpose = "" then .failed .invalid else .started
    some { state with calls := state.calls ++ [⟨token, wanted, hasAction, state.now, phase⟩] }
  | .run index move =>
    (state.calls[index]?).bind fun call =>
      (call.move authFlowTokenHash locking state.flows state.now (state.calls.eraseIdx index) move).map
        (state.setPhase index call)
  | .commit index =>
    (state.calls[index]?).bind fun call =>
      match call.phase with
      | .acted flow now writes =>
        some { state.setPhase index call (.succeeded flow now writes) with
          flows := state.flows.consume flow.id now, effects := state.effects ++ writes.map (index, ·) }
      | _ => none
  | .get token wanted =>
    some { state with
      answers := state.answers ++ [getAuthFlow authFlowTokenHash state.flows state.now token wanted] }
  | .cleanup now =>
    if ∃ row ∈ state.flows.table.rows, Expired now row ∧ Held locking state.calls row.id then none
    else some { state with flows := deleteExpiredAuthFlows state.flows now }
  | .tick elapsed => some { state with now := state.now + elapsed }

def machine : Machine (State Effect) (Event Effect) := ⟨step authFlowTokenHash locking⟩

end

def State.opened {Effect : Type} (flows : Flows) (now : Int) : State Effect :=
  { now, flows, effects := [], calls := [], answers := [] }
def State.effectsOf {Effect : Type} (state : State Effect) (index : Nat) : List Effect :=
  (state.effects.filter fun entry => entry.1 = index).map Prod.snd

end FlowAPI.AuthFlow
