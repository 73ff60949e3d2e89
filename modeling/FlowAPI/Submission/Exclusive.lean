import FlowAPI.Semantics.Pool
import FlowAPI.Submission.Moves

/-! One owner, one dispatch and one paid request per idempotency key.

The insert-or-ignore makes at most one reservation of a key carry the task id
its own request generated, so at most one lookup makes an owner. The dispatch
record is a compare-and-set on a column that never returns to zero. Everyone
else is answered from the row, whose fingerprint and task id never change.
-/

set_option autoImplicit false
namespace FlowAPI.Submission
open Semantics Submissions List Option Pool Entry Request

def Entry.owns (owner : Owner) : Entry → Bool
  | .owned _ identity => identity = owner
  | _ => false

def Entry.records (owner : Owner) : Entry → Bool
  | .recorded _ identity => identity = owner
  | _ => false

def Entry.posts (owner : Owner) : Entry → Bool
  | .posted _ identity => identity = owner
  | _ => false

def Stage.Past : Stage → Prop
  | .owner _ | .done => True
  | .arrived | .reserved _ => False

def Stage.toSend : Stage → Bool
  | .owner handler => handler.toSend
  | _ => false

section
variable (keyHash : String → String)

def Request.waits (owner : Owner) (taskID : String) (request : Request) : Bool :=
  decide (request.owner keyHash = owner ∧ request.stage = .reserved taskID)
def Request.sends (owner : Owner) (request : Request) : Bool :=
  decide (request.owner keyHash = owner) && request.stage.toSend

structure State.Guarded (state : State) : Prop where
  located : ∀ (index : Nat) (request : Request) (taskID : String), state.requests[index]? = some request →
    request.stage = .reserved taskID → ∃ row, state.store.find (request.owner keyHash) = some row
  held : ∀ (index : Nat) (request : Request) (handler : Handler), state.requests[index]? = some request →
    request.stage = .owner handler → .owned index (request.owner keyHash) ∈ state.log ∧
      ∃ row, state.store.find (request.owner keyHash) = some row ∧ row.id = handler.submissionID
  owned : ∀ index owner, .owned index owner ∈ state.log → ∃ request row, state.requests[index]? = some request ∧
    request.owner keyHash = owner ∧ request.stage.Past ∧ state.store.find owner = some row ∧
    row.fingerprint = request.fingerprint
  -- whoever could still become owner and whoever became it
  claims : ∀ owner row, state.store.find owner = some row →
    state.requests.countP (waits keyHash owner row.taskID) + state.log.countP (owns owner) ≤ 1
  dispatched : ∀ owner, state.log.countP (records owner) ≤ 1 ∧
    (0 < state.log.countP (records owner) →
      ∃ row, state.store.find owner = some row ∧ row.dispatchedAt ≠ 0)
  sent : ∀ owner, state.log.countP (posts owner) + state.requests.countP (sends keyHash owner) ≤
    state.log.countP (records owner)
  acted : ∀ index owner, .recorded index owner ∈ state.log ∨ .posted index owner ∈ state.log →
    .owned index owner ∈ state.log
  answered : ∀ index answer, .answered index answer ∈ state.log → ∃ request, state.requests[index]? = some request ∧
    request.stage = .done ∧ (∀ owner, .owned index owner ∉ state.log) ∧
    (¬ answer.Failure → ∃ row, state.store.find (request.owner keyHash) = some row ∧
      Replays row request.fingerprint answer)

variable {keyHash} {state : State} {index : Nat} {request : Request} {store : Submissions} {stage : Stage}
  {entries : List Entry}

theorem set_lookup {requests : List Request} (changed : Request) (selected : requests[index]? = some request)
    {position : Nat} {other : Request} (found : requests[position]? = some other) :
    position = index ∧ other = request ∧ (requests.set index changed)[position]? = some changed ∨
      position ≠ index ∧ (requests.set index changed)[position]? = some other := by
  obtain ⟨bound, _⟩ := List.getElem?_eq_some_iff.mp selected
  by_cases same : position = index
  · subst same
    exact .inl ⟨rfl, some.inj (found.symm.trans selected), by simp [bound]⟩
  · exact .inr ⟨same, by rw [List.getElem?_set_ne (fun equal => same equal.symm), found]⟩

section
variable (move : Move keyHash state index request store stage entries)
include move

theorem Move.past (past : request.stage.Past) :
    stage.Past ∧ (∀ owner, .owned index owner ∉ entries) ∧ ∀ answer, .answered index answer ∉ entries := by
  cases move with
  | reserve _ arrived =>
    rw [arrived] at past
    exact past.elim
  | own _ reserved | replay _ _ reserved =>
    rw [reserved] at past
    exact past.elim
  | refuse _ early =>
    rcases early with arrived | ⟨_, reserved⟩
    · rw [arrived] at past
      exact past.elim
    · rw [reserved] at past
      exact past.elim
  | record | post | keep | leave => exact ⟨trivial, by simp, by simp⟩

theorem Move.done (ended : request.stage = .done) : stage = .done ∧ entries = [] := by
  cases move with
  | leave => exact ⟨rfl, rfl⟩
  | refuse _ early =>
    rcases early with arrived | ⟨_, reserved⟩
    · cases ended.symm.trans arrived
    · cases ended.symm.trans reserved
  | reserve _ stage | own _ stage | replay _ _ stage | record _ stage | post _ _ stage | keep _ stage =>
    cases ended.symm.trans stage

theorem Move.owned_index {position : Nat}
    {owner : Owner} (logged : .owned position owner ∈ entries) : position = index := by
  cases move with
  | own =>
    cases mem_singleton.mp logged
    rfl
  | reserve | keep | leave => cases logged
  | refuse | replay | record | post => cases mem_singleton.mp logged

end

section
variable (guarded : state.Guarded keyHash)
include guarded

theorem State.Guarded.located_kept (move : Move keyHash state index request store stage entries) :
    ∀ (position : Nat) (other : Request) (taskID : String),
      (state.requests.set index { request with stage })[position]? = some other →
      other.stage = .reserved taskID → ∃ row, store.find (other.owner keyHash) = some row := by
  intro position other taskID found waiting
  rcases getElem?_set_cases found with ⟨_, rfl⟩ | ⟨_, before⟩
  · cases move with
    | reserve candidate _ sameOwner fresh =>
      -- the insert leaves a row, its own or the one it met
      have owned : owner keyHash { request with stage := .reserved candidate.taskID } = candidate.owner :=
        sameOwner.symm
      rw [owned, find_create fresh]
      cases known : state.store.find candidate.owner with
      | some row => exact ⟨row, rfl⟩
      | none => exact ⟨_, if_pos rfl⟩
    | own | refuse | replay | record | post | keep | leave => cases waiting
  · obtain ⟨row, located⟩ := guarded.located position other taskID before waiting
    obtain ⟨later, found, _⟩ := move.evolves _ row located
    exact ⟨later, found⟩

section
variable (selected : state.requests[index]? = some request)
include selected

section
variable (move : Move keyHash state index request store stage entries)
include move

theorem State.Guarded.held_kept : ∀ (position : Nat) (other : Request) (handler : Handler),
      (state.requests.set index { request with stage })[position]? = some other →
      other.stage = .owner handler → .owned position (other.owner keyHash) ∈ state.log ++ entries ∧
        ∃ row, store.find (other.owner keyHash) = some row ∧ row.id = handler.submissionID := by
  intro position other handler found holds
  -- whoever held its row before still does
  have still : ∀ (position : Nat) (other : Request) (before : Handler), state.requests[position]? = some other →
      other.stage = .owner before → .owned position (other.owner keyHash) ∈ state.log ++ entries ∧
        ∃ row, store.find (other.owner keyHash) = some row ∧ row.id = before.submissionID := by
    intro position other before listed held
    obtain ⟨owned, row, located, same⟩ := guarded.held position other before listed held
    obtain ⟨later, found, keeps⟩ := move.evolves _ row located
    exact ⟨mem_append_left _ owned, later, found, keeps.id.trans same⟩
  rcases getElem?_set_cases found with ⟨rfl, rfl⟩ | ⟨_, before⟩
  · cases move with
    | own row _ located =>
      cases holds
      exact ⟨mem_append_right _ (mem_singleton_self _), row, located, rfl⟩
    | record previous held | post previous _ held | keep previous held =>
      have kept := still _ request previous selected held
      cases holds
      exact kept
    | reserve | refuse | replay | leave => cases holds
  · exact still position other handler before holds

theorem State.Guarded.owned_kept : ∀ position owner, .owned position owner ∈ state.log ++ entries → ∃ other row,
      (state.requests.set index { request with stage })[position]? = some other ∧ other.owner keyHash = owner ∧
      other.stage.Past ∧ store.find owner = some row ∧ row.fingerprint = other.fingerprint := by
  intro position owner logged
  rcases mem_append.mp logged with old | new
  · obtain ⟨other, row, listed, same, past, located, fingerprint⟩ := guarded.owned position owner old
    obtain ⟨later, found, keeps⟩ := move.evolves _ row located
    rcases set_lookup { request with stage } selected listed with ⟨_, rfl, changed⟩ | ⟨_, kept⟩
    · exact ⟨_, later, changed, same, (move.past past).1, found, keeps.fingerprint.trans fingerprint⟩
    · exact ⟨other, later, kept, same, past, found, keeps.fingerprint.trans fingerprint⟩
  cases move with
  | own row _ located fingerprint =>
    cases mem_singleton.mp new
    rcases set_lookup { request with stage := _ } selected selected with ⟨_, _, changed⟩ | ⟨differs, _⟩
    · exact ⟨_, row, changed, rfl, trivial, located, fingerprint⟩
    · exact absurd rfl differs
  | reserve | keep | leave => cases new
  | refuse | replay | record | post => cases mem_singleton.mp new

theorem State.Guarded.acted_kept : ∀ position owner, .recorded position owner ∈ state.log ++ entries ∨
      .posted position owner ∈ state.log ++ entries → .owned position owner ∈ state.log ++ entries := by
  intro position owner logged
  have old : .recorded position owner ∈ state.log ∨ .posted position owner ∈ state.log →
      .owned position owner ∈ state.log ++ entries :=
    fun before => mem_append_left _ (guarded.acted position owner before)
  simp only [mem_append] at logged
  rcases logged with (before | new) | (before | new)
  · exact old (.inl before)
  · cases move with
    | record handler held =>
      cases mem_singleton.mp new
      exact mem_append_left _ (guarded.held _ request handler selected held).1
    | reserve | keep | leave => cases new
    | own | refuse | replay | post => cases mem_singleton.mp new
  · exact old (.inr before)
  · cases move with
    | post handler _ held =>
      cases mem_singleton.mp new
      exact mem_append_left _ (guarded.held _ request handler selected held).1
    | reserve | keep | leave => cases new
    | own | refuse | replay | record => cases mem_singleton.mp new

theorem State.Guarded.answered_kept : ∀ position answer, .answered position answer ∈ state.log ++ entries → ∃ other,
      (state.requests.set index { request with stage })[position]? = some other ∧ other.stage = .done ∧
      (∀ owner, .owned position owner ∉ state.log ++ entries) ∧
      (¬ answer.Failure → ∃ row, store.find (other.owner keyHash) = some row ∧
        Replays row other.fingerprint answer) := by
  intro position answer logged
  rcases mem_append.mp logged with old | new
  · obtain ⟨other, listed, ended, unowned, replayed⟩ := guarded.answered position answer old
    have later : ¬ answer.Failure → ∃ row, store.find (other.owner keyHash) = some row ∧
        Replays row other.fingerprint answer := by
      intro stored
      obtain ⟨row, located, replays⟩ := replayed stored
      obtain ⟨later, found, keeps⟩ := move.evolves _ row located
      exact ⟨later, found, replays.keep keeps⟩
    rcases set_lookup { request with stage } selected listed with ⟨_, rfl, changed⟩ | ⟨differs, kept⟩
    · obtain ⟨rfl, rfl⟩ := move.done ended
      exact ⟨_, changed, rfl, by simpa using unowned, later⟩
    refine ⟨other, kept, ended, fun owner owned => ?_, later⟩
    rcases mem_append.mp owned with before | added
    · exact unowned owner before
    · exact differs (move.owned_index added)
  -- the answer of this step: a request that is answered was not looked up before
  have fresh : ∀ {reply : Answer}, ¬ request.stage.Past → ∀ owner,
      .owned index owner ∉ state.log ++ [.answered index reply] := by
    intro reply early owner owned
    rcases mem_append.mp owned with before | added
    · obtain ⟨_, _, listed, _, past, _⟩ := guarded.owned index owner before
      cases some.inj (listed.symm.trans selected)
      exact early past
    · cases mem_singleton.mp added
  have changed := set_lookup { request with stage := .done } selected selected
  simp only [true_and, ne_eq, not_true_eq_false, false_and, or_false] at changed
  cases move with
  | refuse _ early failure =>
    cases mem_singleton.mp new
    refine ⟨_, changed, rfl, fresh ?_, fun stored => absurd failure stored⟩
    rcases early with arrived | ⟨_, reserved⟩
    · simp [arrived, Stage.Past]
    · simp [reserved, Stage.Past]
  | replay row now reserved located =>
    cases mem_singleton.mp new
    exact ⟨_, changed, rfl, fresh (by simp [reserved, Stage.Past]), fun _ => ⟨row, located, row, now, .refl row, rfl⟩⟩
  | reserve | keep | leave => cases new
  | own | record | post => cases mem_singleton.mp new

end

end

end

theorem waits_of_stage (request : Request) {owner : Owner} {taskID : String}
    (other : ∀ taskID, request.stage ≠ .reserved taskID) : waits keyHash owner taskID request = false := by
  simp [waits, other taskID]

section
variable (guarded : state.Guarded keyHash)
include guarded

theorem State.Guarded.unclaimed {owner : Owner} (unknown : state.store.find owner = none) (taskID : String) :
    state.requests.countP (Request.waits keyHash owner taskID) = 0 ∧ state.log.countP (Entry.owns owner) = 0 := by
  constructor
  · rw [countP_eq_zero]
    intro other member waits
    simp only [Request.waits, decide_eq_true_eq] at waits
    obtain ⟨position, found⟩ := mem_iff_getElem?.mp member
    obtain ⟨row, located⟩ := guarded.located position other taskID found waits.2
    rw [waits.1, unknown] at located
    cases located
  · rw [countP_eq_zero]
    intro entry member owns
    cases entry with
    | owned position identity =>
      obtain ⟨_, _, _, _, _, located, _⟩ := guarded.owned position identity member
      rw [of_decide_eq_true owns, unknown] at located
      cases located
    | recorded | posted | answered => cases owns

theorem State.Guarded.single (owner : Owner) : state.log.countP (owns owner) ≤ 1 := by
  cases known : state.store.find owner with
  | none => rw [(guarded.unclaimed known "").2]; exact Nat.zero_le 1
  | some row =>
    have claims := guarded.claims owner row known
    omega

theorem State.Guarded.claims_later (evolves : state.store.Evolves store)
    {owner : Owner} {row : TaskSubmission} (found : store.find owner = some row) :
    state.requests.countP (waits keyHash owner row.taskID) + state.log.countP (owns owner) ≤ 1 := by
  cases known : state.store.find owner with
  | none =>
    obtain ⟨unclaimed, _⟩ := guarded.unclaimed known row.taskID
    omega
  | some earlier =>
    obtain ⟨_, there, keeps⟩ := evolves owner earlier known
    cases some.inj (there.symm.trans found)
    rw [keeps.taskID]
    exact guarded.claims owner earlier known

section
variable (selected : state.requests[index]? = some request)
include selected

/-- A reservation claims the row it made, and none it met: its task id is new. -/
theorem State.Guarded.claims_create {candidate : TaskSubmission}
    (fresh : ∀ row ∈ state.store.table.rows, row.taskID ≠ candidate.taskID)
    {owner : Owner} {row : TaskSubmission} (found : (state.store.create candidate).find owner = some row) :
    (state.requests.set index { request with stage := .reserved candidate.taskID }).countP
        (waits keyHash owner row.taskID) + state.log.countP (owns owner) ≤ 1 := by
  have counted := countP_set selected { request with stage := .reserved candidate.taskID }
    (waits keyHash owner row.taskID)
  have claims := guarded.claims_later (evolves_create fresh) found
  by_cases waits : waits keyHash owner row.taskID { request with stage := .reserved candidate.taskID }
  · -- the row carries the generated task id, so it was not there before
    obtain ⟨_, stage⟩ := of_decide_eq_true waits
    have unknown : state.store.find owner = none := by
      cases known : state.store.find owner with
      | none => rfl
      | some earlier =>
        obtain ⟨_, there, keeps⟩ := evolves_create fresh owner earlier known
        cases some.inj (there.symm.trans found)
        exact absurd (keeps.taskID.symm.trans (Stage.reserved.inj stage).symm)
          (fresh earlier (Table.mem_of_find known).1)
    obtain ⟨unclaimed, _⟩ := guarded.unclaimed unknown row.taskID
    rw [if_pos waits] at counted
    omega
  · rw [if_neg waits] at counted
    omega

section
variable (move : Move keyHash state index request store stage entries)
include move

theorem State.Guarded.claims_kept : ∀ owner row, store.find owner = some row →
      (state.requests.set index { request with stage }).countP (waits keyHash owner row.taskID) +
        (state.log ++ entries).countP (Entry.owns owner) ≤ 1 := by
  intro owner row found
  have counted := countP_set selected { request with stage } (waits keyHash owner row.taskID)
  have claims := guarded.claims_later move.evolves found
  have released : (∀ taskID, stage ≠ .reserved taskID) →
      (state.requests.set index { request with stage }).countP (waits keyHash owner row.taskID) +
        (if waits keyHash owner row.taskID request then 1 else 0) =
      state.requests.countP (waits keyHash owner row.taskID) := by
    intro other
    rwa [waits_of_stage { request with stage } other, if_neg Bool.false_ne_true, add_zero] at counted
  rw [countP_append]
  cases move with
  | reserve _ _ _ fresh => exact guarded.claims_create selected fresh found
  | own _ reserved located =>
    -- the claim of this request becomes its ownership
    have left := released (by simp)
    by_cases same : request.owner keyHash = owner
    · rw [same, found] at located
      cases located
      have before : waits keyHash owner row.taskID request = true := by simp [waits, same, reserved]
      have added : [Entry.owned index (request.owner keyHash)].countP (Entry.owns owner) = 1 := by
        simp [Entry.owns, same]
      rw [before, if_pos rfl] at left
      omega
    · have added : [Entry.owned index (request.owner keyHash)].countP (Entry.owns owner) = 0 := by
        simp [Entry.owns, same]
      omega
  | refuse | replay | record | post | keep | leave =>
    have left := released (by simp)
    change _ + (_ + 0) ≤ 1
    omega

theorem State.Guarded.dispatched_kept : ∀ owner, (state.log ++ entries).countP (records owner) ≤ 1 ∧
      (0 < (state.log ++ entries).countP (records owner) →
        ∃ row, store.find owner = some row ∧ row.dispatchedAt ≠ 0) := by
  intro owner
  obtain ⟨once, written⟩ := guarded.dispatched owner
  have still : 0 < state.log.countP (records owner) →
      ∃ row, store.find owner = some row ∧ row.dispatchedAt ≠ 0 := by
    intro before
    obtain ⟨row, located, nonzero⟩ := written before
    obtain ⟨later, found, keeps⟩ := move.evolves _ row located
    exact ⟨later, found, keeps.dispatched nonzero⟩
  rw [countP_append]
  cases move with
  | record handler held _ recorded =>
    by_cases same : request.owner keyHash = owner
    · obtain ⟨_, _, located, sameId⟩ := guarded.held index request handler selected held
      obtain ⟨zero, after, found, _⟩ := record_spec recorded located sameId
      rw [same] at located found
      -- the guard was met, so no dispatch had been recorded for this key
      have none : state.log.countP (records owner) = 0 := by
        by_contra some
        obtain ⟨_, there, nonzero⟩ := written (Nat.pos_of_ne_zero some)
        cases Option.some.inj (there.symm.trans located)
        exact nonzero zero
      refine ⟨by rw [none]; simp [records, same], fun _ => ⟨after, found, by omega⟩⟩
    · have added : [Entry.recorded index (request.owner keyHash)].countP (records owner) = 0 := by
        simp [records, same]
      rw [added]
      exact ⟨once, still⟩
  | reserve | own | refuse | replay | post | keep | leave => exact ⟨once, still⟩

theorem State.Guarded.sent_kept : ∀ owner, (state.log ++ entries).countP (posts owner) +
        (state.requests.set index { request with stage }).countP (sends keyHash owner) ≤
      (state.log ++ entries).countP (records owner) := by
  intro owner
  have sent := guarded.sent owner
  have counted := countP_set selected { request with stage } (sends keyHash owner)
  have after : sends keyHash owner { request with stage } =
      (decide (request.owner keyHash = owner) && stage.toSend) := rfl
  have silent : stage.toSend = false → (state.requests.set index { request with stage }).countP
      (sends keyHash owner) ≤ state.requests.countP (sends keyHash owner) := by
    intro off
    rw [after, off, Bool.and_false, if_neg Bool.false_ne_true] at counted
    omega
  rw [countP_append, countP_append]
  cases move with try have left := silent rfl
  | record handler =>
    -- the right to send is recorded before it is used
    by_cases same : request.owner keyHash = owner
    · have added : [recorded index (request.owner keyHash)].countP (records owner) = 1 := by
        simp [records, same]
      have bound : (if sends keyHash owner { request with
          stage := .owner { handler with toSend := true, dispatched := true } } then 1 else 0) ≤ 1 := by
        split <;> decide
      change _ + 0 + _ ≤ _
      omega
    · rw [after, decide_eq_false same, Bool.false_and, if_neg Bool.false_ne_true] at counted
      change _ + 0 + _ ≤ _
      omega
  | post _ _ held toSend =>
    -- posting uses up the right to send
    by_cases same : request.owner keyHash = owner
    · have added : [posted index (request.owner keyHash)].countP (posts owner) = 1 := by
        simp [posts, same]
      have before : sends keyHash owner request = true := by simp [sends, same, held, Stage.toSend, toSend]
      rw [before, after, if_pos rfl] at counted
      simp only [Stage.toSend, Bool.and_false, Bool.false_eq_true, if_false] at counted
      omega
    · have added : [posted index (request.owner keyHash)].countP (posts owner) = 0 := by
        simp [posts, same]
      omega
  | keep handler held =>
    have unchanged : sends keyHash owner request = sends keyHash owner { request with stage := .owner handler } := by
      rw [after, sends, held]
    rw [unchanged] at counted
    change _ + 0 + _ ≤ _ + 0
    omega
  | reserve | own | refuse | replay | leave =>
    change _ + 0 + _ ≤ _ + 0
    omega

theorem State.Guarded.move_kept (tasks : List Task) :
    State.Guarded keyHash { state.advance index request store stage entries with tasks } where
  located := guarded.located_kept move
  held := guarded.held_kept selected move
  owned := guarded.owned_kept selected move
  claims := guarded.claims_kept selected move
  dispatched := guarded.dispatched_kept selected move
  sent := guarded.sent_kept selected move
  acted := guarded.acted_kept selected move
  answered := guarded.answered_kept selected move

end

end

theorem State.Guarded.arrive_kept (arrived : request.stage = .arrived) :
    State.Guarded keyHash { state with requests := state.requests ++ [request] } := by
  -- a position in the longer list is an old one, or that of a request that has done nothing
  have position : ∀ {index : Nat} {other : Request}, (state.requests ++ [request])[index]? = some other →
      state.requests[index]? = some other ∨ other.stage = .arrived := by
    intro index other found
    rcases getElem?_append_cases found with rfl | old
    · exact .inr arrived
    · exact .inl old
  have older : ∀ {index : Nat} {other : Request}, state.requests[index]? = some other →
      (state.requests ++ [request])[index]? = some other := by
    intro index other found
    obtain ⟨bound, _⟩ := List.getElem?_eq_some_iff.mp found
    rw [List.getElem?_append_left bound, found]
  constructor
  case located =>
    intro index other taskID found waiting
    rcases position found with old | new
    · exact guarded.located index other taskID old waiting
    · cases new.symm.trans waiting
  case held =>
    intro index other handler found holds
    rcases position found with old | new
    · exact guarded.held index other handler old holds
    · cases new.symm.trans holds
  case owned =>
    intro index owner logged
    obtain ⟨other, row, listed, rest⟩ := guarded.owned index owner logged
    exact ⟨other, row, older listed, rest⟩
  case claims =>
    intro owner row found
    have idle : waits keyHash owner row.taskID request = false := waits_of_stage request (by simp [arrived])
    simpa [countP_append, idle] using guarded.claims owner row found
  case dispatched => exact guarded.dispatched
  case sent =>
    intro owner
    have idle : sends keyHash owner request = false := by simp [sends, arrived, Stage.toSend]
    simpa [countP_append, idle] using guarded.sent owner
  case acted => exact guarded.acted
  case answered =>
    intro index answer logged
    obtain ⟨other, listed, rest⟩ := guarded.answered index answer logged
    exact ⟨other, older listed, rest⟩

theorem State.Guarded.step_kept {next : State} {event : Event}
    (distinct : Distinct state event) (stepped : step keyHash state event = some next) : next.Guarded keyHash := by
  rcases step_move distinct stepped with ⟨_, arrived, rfl⟩ | ⟨_, _, _, _, _, tasks, selected, move, rfl⟩
  · exact guarded.arrive_kept arrived
  · exact guarded.move_kept selected move tasks

end

theorem State.opened_guarded (store : Submissions) : (opened store).Guarded keyHash := by
  constructor <;> simp [opened]

end

structure State.Exclusive (keyHash : String → String) (state : State) (owner : Owner) : Prop where
  oneOwner : state.log.countP (owns owner) ≤ 1
  oneDispatch : state.log.countP (records owner) ≤ 1
  postsRecorded : state.log.countP (posts owner) ≤ state.log.countP (records owner)
  onlyOwner : ∀ index, .recorded index owner ∈ state.log ∨ .posted index owner ∈ state.log →
    .owned index owner ∈ state.log
  -- whoever was answered is not the owner and was told what the row said, which has only moved on since
  replayed : ∀ (index : Nat) (answer : Answer) (request : Request), .answered index answer ∈ state.log →
    state.requests[index]? = some request → request.owner keyHash = owner → ¬ answer.Failure →
    .owned index owner ∉ state.log ∧
      ∃ row, state.store.find owner = some row ∧ Replays row request.fingerprint answer
  -- whoever is about to look the row up owns the reservation, or is answered exactly what the row says now
  lookup : ∀ (index : Nat) (request : Request) (taskID : String) (now : Int),
    state.requests[index]? = some request → request.owner keyHash = owner → request.stage = .reserved taskID →
    ∃ row, state.store.find owner = some row ∧
      (row.fingerprint = request.fingerprint ∧ row.taskID = taskID ∨
        step keyHash state (.look index now false) =
          some (state.answer index request (row.replies request.fingerprint now)))

/-- In every state of every run, whatever crashed or failed in between. -/
theorem submission_exclusive (keyHash : String → String) (store : Submissions) {events : List Event} {final : State}
    (run : (machine keyHash).Runs Distinct (.opened store) events final) (userID tokenID : Int) (key : String) :
    final.Exclusive keyHash { userID, tokenID, keyHash := keyHash key } := by
  have guarded : final.Guarded keyHash :=
    run.invariant (State.Guarded keyHash) (fun _ _ _ held distinct stepped => held.step_kept distinct stepped)
      (State.opened_guarded store)
  generalize Owner.mk userID tokenID (keyHash key) = owner
  constructor
  case oneOwner => exact guarded.single owner
  case oneDispatch => exact (guarded.dispatched owner).1
  case postsRecorded => exact Nat.le_of_add_right_le (guarded.sent owner)
  case onlyOwner => exact fun index acted => guarded.acted index owner acted
  case replayed =>
    intro index answer request logged selected same stored
    obtain ⟨_, listed, _, unowned, replays⟩ := guarded.answered index answer logged
    cases some.inj (listed.symm.trans selected)
    rw [same] at replays
    exact ⟨unowned owner, replays stored⟩
  case lookup =>
    intro index request taskID now selected same reserved
    obtain ⟨row, located⟩ := guarded.located index request taskID selected reserved
    refine ⟨row, same ▸ located, ?_⟩
    by_cases own : row.fingerprint = request.fingerprint ∧ row.taskID = taskID
    · exact .inl own
    right
    have ran : Submission.run keyHash final index request (.look index now false) =
        some (look keyHash final index request taskID now false) := by
      simp only [Submission.run, reserved]
    change (final.requests[index]?).bind _ = _
    rw [selected, bind_some, Event.index, ran, look_replies located now own]

/-- Three requests with one key and one body, and one with another body. The
second is answered while the first is being handled, the others after it. -/
def repeated : List Event :=
  let route : TaskSubmissionRoute :=
    { channelID := 7, apiKey := "secret", upstreamModelName := "wan", reservedQuota := 50 }
  let task : Task :=
    { userId := 1, tokenId := 2, taskID := "first", channelId := 7, key := "secret", upstreamModelName := "wan" }
  [.arrive 1 2 "key" "body", .arrive 1 2 "key" "body", .arrive 1 2 "key" "other", .arrive 1 2 "key" "body",
    .reserve 1 "first" 100 false, .reserve 0 "second" 101 false, .look 1 102 false, .look 0 103 false,
    .dispatch 1 route 104 false, .dispatch 1 route 105 false, .post 1 false, .insertTask 1 task 106 false,
    .finish 1 107 false, .reserve 2 "third" 108 false, .look 2 109 false, .reserve 3 "fourth" 110 false,
    .look 3 111 false]

def afterRepeated : State := ((machine id).exec Distinct (.opened .empty) repeated).getD (.opened .empty)

theorem submission_exclusive_repeated :
    afterRepeated.log = [.owned 1 ⟨1, 2, "key"⟩, .answered 0 (.submissionPending .submitting),
      .recorded 1 ⟨1, 2, "key"⟩, .posted 1 ⟨1, 2, "key"⟩, .answered 2 .idempotencyConflict,
      .answered 3 (.accepted "first")] ∧
    afterRepeated.Exclusive id ⟨1, 2, "key"⟩ := by
  have run : (machine id).Runs Distinct (.opened .empty) repeated afterRepeated :=
    Machine.runs_iff_exec.mpr (by decide)
  exact ⟨by decide, submission_exclusive id .empty run 1 2 "key"⟩

end FlowAPI.Submission
