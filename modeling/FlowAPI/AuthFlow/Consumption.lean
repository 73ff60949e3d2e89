import FlowAPI.AuthFlow.Machine
import FlowAPI.Semantics.Pool

/-! A flow is consumed once.

A call that has marked its row holds it until the transaction ends, and the row is
unconsumed underneath. A call that has succeeded leaves no unconsumed row behind. So
two calls that succeed with one token are one call, with or without the row lock of
the reading statement.
-/

set_option autoImplicit false
namespace FlowAPI.AuthFlow
open Semantics List Pool.Exclusive Machine Flows Pool
open Option hiding filter_map

/-- The copy of a row that was there from the start; only the consumption may differ. -/
def Stored (origin : Flows) (flow : Flow) : Prop :=
  ∃ stored ∈ origin.table.rows, ∃ consumedAt, flow = { stored with consumedAt }

theorem Stored.consume {origin : Flows} {flow : Flow} (known : Stored origin flow) (now : Int) :
    Stored origin (flow.consume now) := by
  obtain ⟨stored, member, _, rfl⟩ := known
  exact ⟨stored, member, some now, rfl⟩

theorem Stored.id_eq {origin : Flows} {first second : Flow} (known : Stored origin first)
    (also : Stored origin second) (same : first.tokenHash = second.tokenHash) : first.id = second.id := by
  obtain ⟨_, member, _, rfl⟩ := known
  obtain ⟨_, member', _, rfl⟩ := also
  rw [eq_of_hash member member' same]

section
variable {Effect : Type} (authFlowTokenHash : String → String) (locking : Bool) (origin flows : Flows)

structure Passed (token : String) (wanted : AuthFlowMatch) (begunAt : Int) (flow : Flow) (now : Int) : Prop where
  stored : Stored origin flow
  matched : Matches authFlowTokenHash token wanted flow
  unconsumed : flow.consumedAt = none
  unexpired : now < flow.expiresAt
  begun : begunAt ≤ now

def Open (id now : Int) : Prop := ∃ row ∈ flows.table.rows, Selected id now row

def Call.Sound (call : Call Effect) : Prop :=
  match call.phase with
  | .started | .failed _ => True
  | .loaded flow => Stored origin flow ∧ Matches authFlowTokenHash call.token call.wanted flow
  | .checked flow now => Passed authFlowTokenHash origin call.token call.wanted call.begunAt flow now
  | .updated flow now | .acted flow now _ =>
    Passed authFlowTokenHash origin call.token call.wanted call.begunAt flow now ∧ Open flows flow.id now
  | .succeeded flow now _ =>
    Passed authFlowTokenHash origin call.token call.wanted call.begunAt flow now ∧
      ∀ row ∈ flows.table.rows, row.id = flow.id → row.consumedAt ≠ none

def Phase.consumed : Phase Effect → Option Int
  | .succeeded flow _ _ => some flow.id
  | _ => none

structure State.Sound (state : State Effect) : Prop where
  rows : ∀ row ∈ state.flows.table.rows, Stored origin row
  begun : ∀ call ∈ state.calls, call.begunAt ≤ state.now
  calls : ∀ call ∈ state.calls, call.Sound authFlowTokenHash origin state.flows
  exclusive : ∀ {i j : Nat} {call other : Call Effect} {id : Int}, state.calls[i]? = some call →
    state.calls[j]? = some other → call.phase.held locking = some id → other.phase.held locking = some id → i = j
  once : ∀ {i j : Nat} {call other : Call Effect} {id : Int}, state.calls[i]? = some call →
    state.calls[j]? = some other → call.phase.consumed = some id → other.phase.consumed = some id → i = j
  effects : ∀ index, state.effectsOf index = ((state.calls[index]?).map (·.phase.kept)).getD []

end

section
variable {Effect : Type} {authFlowTokenHash : String → String} {locking : Bool} {origin flows : Flows}

variable {phase : Phase Effect} {now : Int} {call : Call Effect} {index : Nat} {state : State Effect}

theorem kept_of_consumed_eq_none (unconsumed : phase.consumed = none) : phase.kept = [] := by
  cases phase with
  | succeeded => cases unconsumed
  | _ => rfl

attribute [local simp] Phase.held

theorem move_sound {others : List (Call Effect)} {move : Move Effect}
    (rows : ∀ row ∈ flows.table.rows, Stored origin row) (begun : call.begunAt ≤ now)
    (sound : call.Sound authFlowTokenHash origin flows)
    (moved : call.move authFlowTokenHash locking flows now others move = some phase) :
    Call.Sound authFlowTokenHash origin flows { call with phase } ∧ call.phase.consumed = none ∧ phase.consumed = none ∧
      ∀ id, phase.held locking = some id → call.phase.held locking = some id ∨ ¬ Held locking others id := by
  obtain ⟨_, _, hasAction, _, current⟩ := call
  cases move with
  | read =>
    cases current with
    | started =>
      simp only [Call.move] at moved
      split at moved
      · cases moved; exact ⟨trivial, rfl, rfl, by simp⟩
      next flow found =>
        obtain ⟨member, matched⟩ := applyAuthFlowMatch_some found
        split at moved <;> cases moved
        next free =>
          refine ⟨⟨rows flow member, matched⟩, rfl, rfl, fun id held => .inr fun taken => ?_⟩
          simp only [Phase.held] at held
          split_ifs at held with locked
          cases held; exact free ⟨locked, taken⟩
    | _ => cases moved
  | check =>
    cases current with
    | loaded =>
      simp only [Call.move] at moved
      split at moved
      · cases moved; exact ⟨trivial, rfl, rfl, by simp⟩
      next valid =>
        cases moved
        obtain ⟨rfl, unconsumed, unexpired⟩ := validate_ok valid
        exact ⟨⟨sound.1, sound.2, unconsumed, unexpired, begun⟩, rfl, rfl, fun id held => .inl held⟩
    | _ => cases moved
  | update =>
    cases current with
    | checked =>
      simp only [Call.move] at moved
      split at moved
      · cases moved
      next free =>
        split at moved
        next found =>
          cases hasAction
          all_goals
            cases moved
            refine ⟨⟨sound, found⟩, rfl, rfl, fun id held => ?_⟩
            cases held
            exact .inr free
        · cases moved; exact ⟨trivial, rfl, rfl, by simp⟩
    | _ => cases moved
  | act _ error =>
    cases current with
    | updated =>
      cases error with
      | some => cases moved; exact ⟨trivial, rfl, rfl, by simp⟩
      | none =>
        cases moved
        exact ⟨sound, rfl, rfl, fun id held => .inl held⟩
    | _ => cases moved
  | abort =>
    cases current with
    | succeeded | failed => cases moved
    | _ => cases moved; exact ⟨trivial, rfl, rfl, by simp⟩

section
variable (sound : state.Sound authFlowTokenHash locking origin)
include sound

theorem State.Sound.sound_of_getElem? (selected : state.calls[index]? = some call) :
    call.Sound authFlowTokenHash origin state.flows :=
  sound.calls call (mem_of_getElem? selected)

theorem setPhase_sound (selected : state.calls[index]? = some call)
    (callSound : Call.Sound authFlowTokenHash origin state.flows { call with phase })
    (before : call.phase.consumed = none) (after : phase.consumed = none) (takes : ∀ id, phase.held locking = some id →
      call.phase.held locking = some id ∨ ¬ Held locking (state.calls.eraseIdx index) id) :
    (state.setPhase index call phase).Sound authFlowTokenHash locking origin := by
  -- the row the call holds now is held by none of the others
  have alone : ∀ {i : Nat} {other : Call Effect} {id : Int}, index ≠ i → state.calls[i]? = some other →
      phase.held locking = some id → other.phase.held locking ≠ some id := by
    intro i other id differs found held taken
    rcases takes id held with already | free
    · exact differs (sound.exclusive selected found already taken)
    · exact free ⟨other, mem_eraseIdx_iff_getElem?.mpr ⟨i, fun same => differs same.symm, found⟩, taken⟩
  refine ⟨sound.rows, forall_set sound.begun (sound.begun call (mem_of_getElem? selected)),
    forall_set sound.calls callSound, set sound.exclusive alone,
    set sound.once fun _ _ spent => ?_, ?_⟩
  · cases after.symm.trans spent
  · intro i
    have same := sound.effects i
    simp only [State.setPhase, State.effectsOf] at same ⊢
    rw [same, List.getElem?_set]
    split
    next here =>
      subst here
      obtain ⟨bound, _⟩ := List.getElem?_eq_some_iff.mp selected
      rw [if_pos bound, selected]
      simp only [map_some, getD_some]
      rw [kept_of_consumed_eq_none before, kept_of_consumed_eq_none after]
    · rfl

theorem begin_sound (now : call.begunAt = state.now) (phase : call.phase = .started ∨ call.phase = .failed .invalid) :
    State.Sound authFlowTokenHash locking origin { state with calls := state.calls ++ [call] } := by
  have idle : call.Sound authFlowTokenHash origin state.flows ∧ call.phase.held locking = none ∧
      call.phase.consumed = none := by
    unfold Call.Sound
    rcases phase with same | same <;> rw [same] <;> exact ⟨trivial, rfl, rfl⟩
  obtain ⟨callSound, free, unspent⟩ := idle
  refine ⟨sound.rows, forall_mem_append.mpr ⟨sound.begun, forall_mem_singleton.mpr (Int.le_of_eq now)⟩,
    forall_mem_append.mpr ⟨sound.calls, forall_mem_singleton.mpr callSound⟩,
    append sound.exclusive free, append sound.once unspent, ?_⟩
  intro i
  have same := sound.effects i
  simp only [State.effectsOf] at same ⊢
  rw [same]
  rcases Nat.lt_trichotomy i state.calls.length with less | here | _
  · rw [getElem?_append_left less]
  · subst here
    rw [getElem?_concat_length, getElem?_eq_none (Nat.le_refl _)]
    exact (kept_of_consumed_eq_none unspent).symm
  · rw [getElem?_eq_none (by omega), getElem?_eq_none (by simp; omega)]

end

theorem Call.Sound.consume {id : Int}
    (sound : call.Sound authFlowTokenHash origin flows) (other : call.phase.held locking ≠ some id) :
    call.Sound authFlowTokenHash origin (flows.consume id now) := by
  have stays : ∀ {target taken : Int}, target ≠ id → Open flows target taken →
      Open (flows.consume id now) target taken := by
    rintro _ taken differs ⟨row, member, selected⟩
    refine ⟨row, mem_consume.mpr ⟨row, member, if_neg fun also => ?_⟩, selected⟩
    exact differs (selected.1.symm.trans also.1)
  unfold Call.Sound at sound ⊢
  split at sound
  case h_5 flow taken phase | h_6 flow taken _ phase =>
    refine ⟨sound.1, stays (fun same => other ?_) sound.2⟩
    rw [phase, Phase.held, same]
  case h_7 =>
    refine ⟨sound.1, fun row member same => ?_⟩
    obtain ⟨before, listed, rfl⟩ := mem_consume.mp member
    split
    · simp [Flow.consume]
    next unselected =>
      rw [if_neg unselected] at same
      exact sound.2 before listed same
  all_goals exact sound

section
variable (sound : state.Sound authFlowTokenHash locking origin)
include sound

theorem commit_sound {flow : Flow} {writes : List Effect}
    (selected : state.calls[index]? = some call) (acted : call.phase = .acted flow now writes) :
    State.Sound authFlowTokenHash locking origin
      { state.setPhase index call (.succeeded flow now writes) with
        flows := state.flows.consume flow.id now
        effects := state.effects ++ writes.map (index, ·) } := by
  have callSound := sound.sound_of_getElem? selected
  unfold Call.Sound at callSound
  rw [acted] at callSound
  obtain ⟨passed, row, listed, open_⟩ := callSound
  have holds : call.phase.held locking = some flow.id := by rw [acted]; rfl
  -- nobody has consumed the row before
  have first : ∀ {i : Nat} {other : Call Effect}, state.calls[i]? = some other →
      other.phase.consumed ≠ some flow.id := by
    intro i other found spent
    have otherSound := sound.sound_of_getElem? found
    unfold Call.Sound at otherSound
    cases phase : other.phase with
    | succeeded =>
      rw [phase] at otherSound spent
      exact otherSound.2 row listed (open_.1.trans (some.inj spent).symm) open_.2.1
    | _ => rw [phase] at spent; cases spent
  refine ⟨?_, forall_set sound.begun (sound.begun call (mem_of_getElem? selected)), ?_,
    set sound.exclusive (by simp), set sound.once fun _ found spent => ?_, ?_⟩
  · intro row member
    obtain ⟨before, listed, rfl⟩ := mem_consume.mp member
    split
    · exact (sound.rows before listed).consume now
    · exact sound.rows before listed
  · intro other member
    obtain ⟨i, found⟩ := mem_iff_getElem?.mp member
    rcases getElem?_set_cases found with ⟨rfl, rfl⟩ | ⟨differs, old⟩
    · refine ⟨passed, fun after present same => ?_⟩
      obtain ⟨before, known, rfl⟩ := mem_consume.mp present
      split
      · simp [Flow.consume]
      next unselected =>
        rw [if_neg unselected] at same
        rw [eq_of_id known listed (same.trans open_.1.symm)] at unselected
        exact absurd open_ unselected
    · apply (sound.sound_of_getElem? old).consume
      intro held
      exact differs (sound.exclusive selected old holds held)
  · exact some.inj spent ▸ first found
  · intro i
    have same := sound.effects i
    simp only [State.setPhase, State.effectsOf, filter_append, map_append] at same ⊢
    rw [same, List.getElem?_set]
    split
    next here =>
      subst here
      obtain ⟨bound, _⟩ := List.getElem?_eq_some_iff.mp selected
      have before : ((state.calls[index]?).map (·.phase.kept)).getD [] = [] := by
        rw [selected, map_some, getD_some, acted]
        rfl
      rw [before, if_pos bound]
      simp [Phase.kept, filter_map, Function.comp_def]
    next differs => simp [filter_map, Function.comp_def, differs]

theorem cleanup_sound (free : ¬ ∃ row ∈ state.flows.table.rows, Expired now row ∧ Held locking state.calls row.id) :
    State.Sound authFlowTokenHash locking origin { state with flows := deleteExpiredAuthFlows state.flows now } := by
  refine ⟨fun row member => sound.rows row (mem_deleteExpired.mp member).1, sound.begun, ?_, sound.exclusive,
    sound.once, sound.effects⟩
  intro call member
  have callSound := sound.calls call member
  have stays : ∀ {id taken : Int}, call.phase.held locking = some id → Open state.flows id taken →
      Open (deleteExpiredAuthFlows state.flows now) id taken := by
    rintro _ taken held ⟨row, listed, selected⟩
    refine ⟨row, mem_deleteExpired.mpr ⟨listed, fun expired => free ⟨row, listed, expired, call, member, ?_⟩⟩, selected⟩
    rw [held, selected.1]
  unfold Call.Sound at callSound ⊢
  split at callSound
  case h_5 flow taken phase | h_6 flow taken _ phase => exact ⟨callSound.1, stays (by rw [phase]; rfl) callSound.2⟩
  case h_7 => exact ⟨callSound.1, fun row listed => callSound.2 row (mem_deleteExpired.mp listed).1⟩
  all_goals exact callSound

theorem step_sound {next : State Effect} {event : Event Effect}
    (stepped : step authFlowTokenHash locking state event = some next) :
    next.Sound authFlowTokenHash locking origin := by
  cases event with
  | begin =>
    cases stepped
    apply begin_sound sound rfl
    split
    · exact .inr rfl
    · exact .inl rfl
  | run =>
    obtain ⟨call, selected, moved⟩ := bind_eq_some_iff.mp stepped
    obtain ⟨_, reached, rfl⟩ := map_eq_some_iff.mp moved
    have member := mem_of_getElem? selected
    obtain ⟨callSound, before, after, takes⟩ :=
      move_sound sound.rows (sound.begun call member) (sound.calls call member) reached
    exact setPhase_sound sound selected callSound before after takes
  | commit =>
    obtain ⟨call, selected, committed⟩ := bind_eq_some_iff.mp stepped
    split at committed <;> cases committed
    next _ now _ acted => exact commit_sound sound selected acted
  | get =>
    cases stepped
    exact ⟨sound.rows, sound.begun, sound.calls, sound.exclusive, sound.once, sound.effects⟩
  | cleanup =>
    simp only [step] at stepped
    split at stepped <;> cases stepped
    next free => exact cleanup_sound sound free
  | tick elapsed =>
    cases stepped
    refine ⟨sound.rows, fun call member => ?_, sound.calls, sound.exclusive, sound.once, sound.effects⟩
    have begun := sound.begun call member
    show call.begunAt ≤ state.now + elapsed
    omega

end

theorem opened_sound (flows : Flows) (now : Int) :
    (State.opened flows now : State Effect).Sound authFlowTokenHash locking flows where
  rows row member := ⟨row, member, row.consumedAt, rfl⟩
  begun call member := by cases member
  calls call member := by cases member
  exclusive found := by cases found
  once found := by cases found
  effects index := rfl

def consumption (index : Nat) (token : String) (wanted : AuthFlowMatch) (writes : List Effect) : List (Event Effect) :=
  [.begin token wanted true, .run index .read, .run index .check, .run index .update,
    .run index (.act writes none), .commit index]

def State.withCall (state : State Effect) (token : String) (wanted : AuthFlowMatch) (phase : Phase Effect) :
    State Effect :=
  { state with calls := state.calls ++ [⟨token, wanted, true, state.now, phase⟩] }

theorem step_withCall {token : String} {wanted : AuthFlowMatch} {move : Move Effect} {before after : Phase Effect}
    (moved : Call.move authFlowTokenHash locking state.flows state.now state.calls
      ⟨token, wanted, true, state.now, before⟩ move = some after) :
    step authFlowTokenHash locking (state.withCall token wanted before) (.run state.calls.length move) =
      some (state.withCall token wanted after) := by
  have others : (state.withCall token wanted before).calls.eraseIdx state.calls.length = state.calls := by
    rw [State.withCall, eraseIdx_append_of_length_le (Nat.le_refl _)]
    simp
  simp only [step, others]
  simp only [State.withCall, getElem?_concat_length, bind_some, moved, map_some, State.setPhase]
  simp

theorem consumption_runs {token : String} {wanted : AuthFlowMatch} {row : Flow}
    (member : row ∈ state.flows.table.rows) (free : ¬ Held locking state.calls row.id)
    (unconsumed : row.consumedAt = none) (unexpired : state.now < row.expiresAt) (token_ne : token ≠ "")
    (purpose_ne : wanted.purpose ≠ "") (matched : Matches authFlowTokenHash token wanted row) (writes : List Effect) :
    ∃ after, (machine authFlowTokenHash locking).Runs unrestricted state
        (consumption state.calls.length token wanted writes) after ∧
      (after.calls[state.calls.length]?).map Call.phase = some (.succeeded row state.now writes) := by
  have found := applyAuthFlowMatch_of_mem member matched
  have valid : validate state.now row = .ok row := by
    rw [validate, if_neg (not_not.mpr unconsumed), if_neg (Int.not_le.mpr unexpired)]
  have open_ : ∃ before ∈ state.flows.table.rows, Selected row.id state.now before :=
    ⟨row, member, rfl, unconsumed, unexpired⟩
  have asked : ¬ (token = "" ∨ wanted.purpose = "") := not_or.mpr ⟨token_ne, purpose_ne⟩
  have begun : step authFlowTokenHash locking state (.begin token wanted true) =
      some (state.withCall token wanted .started) := by
    simp only [step, if_neg asked, State.withCall]
  have read : Call.move authFlowTokenHash locking state.flows state.now state.calls
      ⟨token, wanted, true, state.now, .started⟩ .read = some (.loaded row) := by
    simp only [Call.move, found]
    exact if_neg fun taken => free taken.2
  have check : Call.move authFlowTokenHash locking state.flows state.now state.calls
      ⟨token, wanted, true, state.now, .loaded row⟩ .check = some (.checked row state.now) := by
    simp [Call.move, valid]
  have update : Call.move authFlowTokenHash locking state.flows state.now state.calls
      ⟨token, wanted, true, state.now, .checked row state.now⟩ .update = some (.updated row state.now) := by
    simp only [Call.move]
    rw [if_neg free, if_pos open_, if_pos trivial]
  have commit : step authFlowTokenHash locking (state.withCall token wanted (.acted row state.now writes))
      (.commit state.calls.length) =
      some { state.withCall token wanted (.succeeded row state.now writes) with
        flows := state.flows.consume row.id state.now
        effects := state.effects ++ writes.map (state.calls.length, ·) } := by
    simp only [step, State.withCall, getElem?_concat_length, bind_some, State.setPhase]
    simp
  refine ⟨_, .cons trivial begun (.cons trivial (step_withCall read) (.cons trivial (step_withCall check)
    (.cons trivial (step_withCall update) (.cons trivial (step_withCall rfl) (.cons trivial commit (.nil _)))))), ?_⟩
  simp [State.withCall]

theorem failed_action_releases {next : State Effect} {writes : List Effect}
    {text : String} (sound : state.Sound authFlowTokenHash locking origin) (selected : state.calls[index]? = some call)
    (stepped : step authFlowTokenHash locking state (.run index (.act writes (some text))) = some next) :
    ∃ row ∈ next.flows.table.rows, row.tokenHash = authFlowTokenHash call.token ∧ row.consumedAt = none ∧
      ¬ Held locking next.calls row.id := by
  simp only [step, selected, bind_some] at stepped
  obtain ⟨phase, moved, rfl⟩ := map_eq_some_iff.mp stepped
  have callSound := sound.sound_of_getElem? selected
  unfold Call.Sound at callSound
  cases current : call.phase with
  | updated flow =>
    rw [current] at callSound
    obtain ⟨passed, row, member, open_⟩ := callSound
    simp only [Call.move, current, some.injEq] at moved
    have same : row.tokenHash = flow.tokenHash := by
      obtain ⟨stored, listed, _, rfl⟩ := sound.rows row member
      obtain ⟨_, listed', _, rfl⟩ := passed.stored
      rw [eq_of_id listed listed' open_.1]
    refine ⟨row, member, same.trans passed.matched.1, open_.2.1, ?_⟩
    rintro ⟨_, present, held⟩
    obtain ⟨_, found⟩ := mem_iff_getElem?.mp present
    rcases getElem?_set_cases found with ⟨rfl, rfl⟩ | ⟨differs, old⟩
    · rw [← moved] at held
      cases held
    · have holds : call.phase.held locking = some row.id := by rw [current, open_.1]; rfl
      exact differs (sound.exclusive selected old holds held)
  | _ =>
    simp only [Call.move, current] at moved
    cases moved

end

/-- At most one call consumes a flow, before it expires and only with what the flow
was made for; the effects of its action are kept exactly when it succeeds; and where
an action fails the next call finds the flow as it was. -/
theorem auth_flow_consumed_once {Effect : Type} {authFlowTokenHash : String → String} {locking : Bool}
    {flows : Flows} {now : Int} {events : List (Event Effect)} {final : State Effect}
    (run : (machine authFlowTokenHash locking).Runs unrestricted (.opened flows now) events final) :
    (∀ {i j : Nat} {call other : Call Effect} {flow flow' : Flow} {taken taken' : Int} {writes writes' : List Effect},
      final.calls[i]? = some call → final.calls[j]? = some other → call.token = other.token →
      call.phase = .succeeded flow taken writes → other.phase = .succeeded flow' taken' writes' → i = j) ∧
    (∀ {call : Call Effect} {flow : Flow} {taken : Int} {writes : List Effect}, call ∈ final.calls →
      call.phase = .succeeded flow taken writes →
      Stored flows flow ∧ Matches authFlowTokenHash call.token call.wanted flow ∧ flow.consumedAt = none ∧
        call.begunAt ≤ taken ∧ taken < flow.expiresAt) ∧
    (∀ {i : Nat} {call : Call Effect}, final.calls[i]? = some call → final.effectsOf i = call.phase.kept) ∧
    (∀ {i : Nat} {call : Call Effect} {writes : List Effect} {text : String} {next : State Effect},
      final.calls[i]? = some call →
      step authFlowTokenHash locking final (.run i (.act writes (some text))) = some next →
      ∃ row ∈ next.flows.table.rows, row.tokenHash = authFlowTokenHash call.token ∧
        ∀ (token : String) (wanted : AuthFlowMatch) (writes' : List Effect), token ≠ "" → wanted.purpose ≠ "" →
          Matches authFlowTokenHash token wanted row → next.now < row.expiresAt →
          ∃ after, (machine authFlowTokenHash locking).Runs unrestricted next
              (consumption next.calls.length token wanted writes') after ∧
            (after.calls[next.calls.length]?).map Call.phase = some (.succeeded row next.now writes')) := by
  have sound := run.invariant (State.Sound authFlowTokenHash locking flows)
    (fun _ _ _ held _ stepped => step_sound held stepped) (opened_sound flows now)
  have succeeded : ∀ {call : Call Effect} {flow : Flow} {taken : Int} {writes : List Effect}, call ∈ final.calls →
      call.phase = .succeeded flow taken writes →
      Passed authFlowTokenHash flows call.token call.wanted call.begunAt flow taken := by
    intro call flow taken writes member phase
    have callSound := sound.calls call member
    unfold Call.Sound at callSound
    rw [phase] at callSound
    exact callSound.1
  refine ⟨?_, ?_, ?_, ?_⟩
  · intro i j call other flow flow' taken taken' writes writes' found found' same phase phase'
    have passed := succeeded (mem_of_getElem? found) phase
    have passed' := succeeded (mem_of_getElem? found') phase'
    -- the token names one flow, and one call has consumed it
    have hash : flow.tokenHash = flow'.tokenHash := by rw [passed.matched.1, passed'.matched.1, same]
    have id := passed.stored.id_eq passed'.stored hash
    exact sound.once found found' (by rw [phase]; rfl) (by rw [phase', id]; rfl)
  · intro call flow taken writes member phase
    have passed := succeeded member phase
    exact ⟨passed.stored, passed.matched, passed.unconsumed, passed.begun, passed.unexpired⟩
  · intro i call found
    rw [sound.effects i, found]
    rfl
  · intro i call writes text next found stepped
    obtain ⟨row, member, hash, unconsumed, free⟩ := failed_action_releases sound found stepped
    refine ⟨row, member, hash, fun token wanted writes' token_ne purpose_ne matched unexpired => ?_⟩
    exact consumption_runs member free unconsumed unexpired token_ne purpose_ne matched writes'

def bindInput : AuthFlowCreate :=
  { purpose := "oauth", provider := "github", intent := "bind", userId := 7, sessionId := "s", payload := ""
    expiresAt := 100 }

def bindMatch : AuthFlowMatch :=
  { purpose := "oauth", provider := "github", intent := "bind", userId := 7, sessionId := "s" }

def emptyFlows : Flows where
  table := ⟨[], nodup_nil⟩
  hashes := nodup_nil

def bindFlows : Flows := (createAuthFlow ("hash:" ++ ·) emptyFlows bindInput 10 "token" 1).toOption.getD emptyFlows

/-- No row lock. Two calls read the flow; the action of the first fails, the second
consumes the flow, and a third that had read it too comes late. -/
def racedEvents : List (Event String) :=
  [.begin "token" bindMatch true, .begin "token" bindMatch true, .begin "token" bindMatch false, .tick 5,
    .run 0 .read, .run 1 .read, .run 2 .read, .get "token" bindMatch, .run 0 .check, .run 1 .check, .run 2 .check,
    .run 0 .update, .run 0 (.act ["half"] (some "refused")), .run 1 .update, .cleanup 20,
    .run 1 (.act ["bound"] none), .commit 1, .run 2 .update]

def racedFinal : State String :=
  ((machine ("hash:" ++ ·) false).exec unrestricted (.opened bindFlows 10) racedEvents).getD (.opened bindFlows 10)

theorem auth_flow_consumed_once_raced : racedFinal.calls.map Call.phase = [.failed (.action "refused"),
        .succeeded (bindInput.flow ("hash:" ++ ·) 10 "token" 1) 15 ["bound"], .failed .consumed] ∧
    racedFinal.effectsOf 0 = [] ∧ racedFinal.effectsOf 1 = ["bound"] := by
  have run : (machine ("hash:" ++ ·) false).Runs unrestricted (.opened bindFlows 10) racedEvents racedFinal :=
    runs_iff_exec.mpr (by decide +kernel)
  obtain ⟨_, _, kept, _⟩ := auth_flow_consumed_once run
  have first : racedFinal.calls[0]? = some ⟨"token", bindMatch, true, 10, .failed (.action "refused")⟩ := by
    decide +kernel
  have second : racedFinal.calls[1]? = some ⟨"token", bindMatch, true, 10,
      .succeeded (bindInput.flow ("hash:" ++ ·) 10 "token" 1) 15 ["bound"]⟩ := by
    decide +kernel
  exact ⟨by decide +kernel, kept first, kept second⟩

end FlowAPI.AuthFlow
