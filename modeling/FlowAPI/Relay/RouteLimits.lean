import FlowAPI.Relay.Route
import FlowAPI.Semantics.Throughout

/-! What the route of a request keeps: its limits, its end, and which channels it tries.

The limits and the end hold for every request. A channel that has been excluded is tried only where the
distributor's channel was not enabled any more when the route started: it is excluded then, and taken from the
request context again.
-/

set_option autoImplicit false
namespace FlowAPI.Relay
open Golang Semantics List RouteState Table
open FlowAPI.Channels

section
variable {compile : String → Option (String → Bool)} {request : RouteRequest} {around : Surroundings}

theorem not_excluded_of_allows {options : ChannelSelectionOptions} {group modelName requestPath : String} {channel : Channel}
    (allowed : options.allows compile group modelName requestPath channel = true) :
    channel.id ∉ options.excludedChannelIDs := by
  intro excluded
  simp [ChannelSelectionOptions.allows, excluded] at allowed

section
variable {drawn : Nat → Int} {select : SelectRequest} {excluded : List Int} {param after : RetryParam} {choice : Choice}

theorem selectResilient_not_excluded {position : Nat} {groups : List String}
    (called : selectResilient (around.routing compile) drawn select excluded param position groups =
      some (after, .ok (some choice))) : choice.channel.id ∉ excluded := by
  induction groups generalizing position with
  | nil => cases called
  | cons _ _ ih =>
    unfold selectResilient at called
    split at called <;> try cases called
    · exact ih called
    next _ selected =>
      have eligible := mem_eligible_of_result compile _ _ _ _ _ _ selected
      obtain ⟨_, _, _, allowed⟩ := (mem_eligible compile _ _ _ _ _ _).mp eligible
      exact not_excluded_of_allows allowed

theorem selected_not_excluded
    (called : cacheGetRandomSatisfiedChannel (around.routing compile) drawn select (some excluded) param =
      some (after, .ok (some choice))) : choice.channel.id ∉ excluded := by
  dsimp only [cacheGetRandomSatisfiedChannel, cacheGetResilientChannel] at called
  split at called
  · split at called
    · cases called
    · exact selectResilient_not_excluded called
  · exact selectResilient_not_excluded called

end

/-- Where a channel that the route gets comes from: the resource that the request is bound to, the request context, or a
selection without the excluded channels. -/
def Offered (request : RouteRequest) (route : Route) (chosen : Chosen) : Prop :=
  if request.minimaxResourceChannelID ≠ 0 then chosen.channel.id = request.minimaxResourceChannelID
  else if route.channelMeta = false then chosen.channel.id = request.currentChannelID
  else chosen.channel.id ∉ route.state.excludedChannelIDs

variable {route : Route} {chosen : Chosen}

theorem getChannel_offered {param : RetryParam}
    (got : getChannel compile request around route = some (param, .ok chosen)) : Offered request route chosen := by
  unfold getChannel at got
  dsimp only at got
  unfold Offered
  split at got
  next bound =>
    rw [if_pos bound]
    split at got
    · cases got
    next _ found =>
      split at got <;> cases got
      exact (mem_of_find found).2
  next unbound =>
    rw [if_neg unbound]
    split at got
    next first =>
      cases got
      rw [if_pos first]
      rfl
    next later =>
      rw [if_neg later]
      split at got <;> try cases got
      next _ _ called =>
        have allowed := selected_not_excluded called
        split at got <;> cases got
        exact allowed

theorem Chosen.maxAttempts_bounds (chosen : Chosen) (request : RouteRequest) :
    1 ≤ chosen.maxAttempts request ∧ chosen.maxAttempts request ≤ maxChannelMaxAttempts := by
  unfold maxAttempts
  split
  · refine getReliabilitySettings_maxAttempts ?_
    intro settings stored
    obtain ⟨checked, _, rfl⟩ := Option.map_eq_some_iff.mp stored
    exact checked.2
  · decide

def Phase.Ended : Phase → Prop
  | .finished _ | .panicked => True
  | .selecting _ | .attempting _ => False

inductive Move (request : RouteRequest) (before after : Route) : Prop where
  | ends : after.phase.Ended → after.state = before.state → after.upstreams = before.upstreams →
      Move request before after
  | enters (chosen : Chosen) (channel : Option Chosen) : before.phase = .selecting channel →
      (channel = some chosen ∨ channel = none ∧ Offered request before chosen) →
      before.state.distinctChannelsAttempted < maxDistinctChannelsPerRequest →
      after = { before with param := after.param, phase := .attempting chosen } → Move request before after
  -- the attempt is over before the upstream is reached
  | fails (chosen : Chosen) : before.phase = .attempting chosen →
      (before.state.attempts chosen.channel.id : Int) < chosen.maxAttempts request → after.phase.Ended →
      after.state = before.state.beginAttempt chosen.channel.id → after.upstreams = before.upstreams →
      Move request before after
  | sends (chosen : Chosen) : before.phase = .attempting chosen →
      (before.state.attempts chosen.channel.id : Int) < chosen.maxAttempts request →
      (after.phase.Ended ∨ after.phase = .attempting chosen ∧ request.transparentFailover = true) →
      after.state = before.state.beginAttempt chosen.channel.id → after.channelMeta = true →
      after.upstreams = before.upstreams ++
        [⟨chosen.channel.id, chosen.maxAttempts request, before.state.excludedChannelIDs⟩] → Move request before after
  | leaves (chosen : Chosen) : before.phase = .attempting chosen →
      chosen.maxAttempts request ≤ before.state.attempts chosen.channel.id →
      after = { before with state := before.state.exclude chosen.channel.id, phase := .selecting none } →
      Move request before after

theorem Route.enter_move {channel : Option Chosen} (selecting : route.phase = .selecting channel)
    (more : route.state.distinctChannelsAttempted < maxDistinctChannelsPerRequest) (param : RetryParam)
    (origin : channel = some chosen ∨ channel = none ∧ Offered request route chosen) :
    Move request route ({ route with param }.enter around chosen) := by
  unfold enter
  split
  · exact .ends trivial rfl rfl
  · exact .enters chosen channel selecting origin more rfl

theorem Route.select_move {channel : Option Chosen} (selecting : route.phase = .selecting channel) :
    Move request route (route.select compile request around channel) := by
  unfold select
  split
  · exact .ends trivial rfl rfl
  next open' =>
    have more : route.state.distinctChannelsAttempted < maxDistinctChannelsPerRequest := by
      simpa [canSelectMoreChannels] using open'
    split
    next chosen => exact enter_move selecting more route.param (.inl rfl)
    · split
      · exact .ends trivial rfl rfl
      · exact .ends trivial rfl rfl
      next param _ got => exact enter_move selecting more param (.inr ⟨rfl, getChannel_offered got⟩)

theorem Route.attempt_move (attempting : route.phase = .attempting chosen)
    (within : (route.state.attempts chosen.channel.id : Int) < chosen.maxAttempts request) :
    Move request route (route.attempt request around chosen) := by
  unfold attempt
  dsimp only
  split
  · exact .fails chosen attempting within trivial rfl rfl
  split
  · exact .fails chosen attempting within trivial rfl rfl
  unfold receive
  split
  · exact .sends chosen attempting within (.inl trivial) rfl rfl rfl
  dsimp only
  split
  · exact .sends chosen attempting within (.inl trivial) rfl rfl rfl
  next goesOn =>
    have failover : request.transparentFailover = true := by simpa using fun none => goesOn (.inl none)
    exact .sends chosen attempting within (.inr ⟨rfl, failover⟩) rfl rfl rfl

theorem Route.step_move (compile : String → Option (String → Bool)) (request : RouteRequest) (route : Route)
    (around : Surroundings) : Move request route (route.step compile request around) := by
  unfold step
  split
  next channel selecting => exact select_move selecting
  next chosen attempting =>
    split
    next can =>
      simp only [canAttempt, Bool.and_eq_true, decide_eq_true_eq] at can
      exact attempt_move attempting can.2
    next cannot =>
      have used : chosen.maxAttempts request ≤ route.state.attempts chosen.channel.id := by
        simp only [canAttempt, Bool.and_eq_true, decide_eq_true_eq] at cannot
        omega
      unfold leave
      split
      · exact .ends trivial rfl rfl
      · exact .leaves chosen attempting used rfl
  next finished => exact .ends (by rw [finished]; trivial) rfl rfl
  next panicked => exact .ends (by rw [panicked]; trivial) rfl rfl

end

namespace RouteState

def tried (state : RouteState) : List Int := state.attemptsByChannel.keys

variable (state : RouteState) (id : Int)

theorem attempts_beginAttempt (target : Int) :
    (state.beginAttempt id).attempts target = if target = id then state.attempts id + 1 else state.attempts target := by
  unfold beginAttempt attempts
  rw [Map.get?_set]
  split <;> rfl

theorem mem_tried_beginAttempt (target : Int) :
    target ∈ (state.beginAttempt id).tried ↔ target = id ∨ target ∈ state.tried :=
  AList.mem_insert _

theorem distinct_beginAttempt : (state.beginAttempt id).distinctChannelsAttempted =
      if id ∈ state.tried then state.distinctChannelsAttempted else state.distinctChannelsAttempted + 1 := by
  have keys : (state.beginAttempt id).tried = id :: state.tried.erase id := AList.keys_insert _
  change (state.beginAttempt id).tried.length = if id ∈ state.tried then state.tried.length else state.tried.length + 1
  rw [keys, length_cons]
  split
  next tried =>
    rw [length_erase_of_mem tried]
    exact Nat.sub_add_cancel (length_pos_of_mem tried)
  next fresh => rw [erase_of_not_mem fresh]

theorem attempts_of_fresh {state : RouteState} {id : Int} (fresh : id ∉ state.tried) : state.attempts id = 0 := by
  unfold attempts
  rw [Map.get?_of_not_mem fresh]
  rfl

end RouteState

variable (request : RouteRequest)

def RouteRequest.firstOffer : Int :=
  if request.minimaxResourceChannelID ≠ 0 then request.minimaxResourceChannelID else request.currentChannelID

open RouteRequest

def Route.sent (route : Route) (id : Int) : Nat := route.upstreams.countP fun up => decide (up.channelID = id)

/-- Only a route that fails over goes on after an attempt. -/
def Route.Underway (route : Route) : Prop :=
  route.state.tried ≠ [] → route.channelMeta = true ∧ request.transparentFailover = true

structure Route.Attempting (request : RouteRequest) (safe : Prop) (route : Route) (chosen : Chosen) : Prop where
  underway : route.Underway request
  others : ∀ id ∈ route.state.tried, id = chosen.channel.id ∨ id ∈ route.state.excludedChannelIDs
  used : (route.state.attempts chosen.channel.id : Int) ≤ chosen.maxAttempts request
  same : ∀ up ∈ route.upstreams, up.channelID = chosen.channel.id → up.maxAttempts = chosen.maxAttempts request
  room : chosen.channel.id ∉ route.state.tried → route.state.distinctChannelsAttempted < maxDistinctChannelsPerRequest
  clean : safe → chosen.channel.id ∉ route.state.excludedChannelIDs

def Phase.Kept (safe : Prop) (route : Route) : Phase → Prop
  | .selecting (some _) => route.state.tried = [] ∧ route.state.excludedChannelIDs = []
  | .selecting none => route.Underway request ∧ (∀ id ∈ route.state.tried, id ∈ route.state.excludedChannelIDs) ∧
      (safe → route.state.tried = [] → request.firstOffer ∉ route.state.excludedChannelIDs)
  | .attempting chosen => route.Attempting request safe chosen
  | .finished _ | .panicked => True

/-- What holds of every route. `safe` is a condition under which no excluded channel is tried. -/
structure Route.Kept (request : RouteRequest) (safe : Prop) (route : Route) : Prop where
  within : ∀ up ∈ route.upstreams, (route.sent up.channelID : Int) ≤ up.maxAttempts ∧
    up.maxAttempts ≤ maxChannelMaxAttempts
  counted : ¬route.phase.Ended → ∀ id, route.sent id ≤ route.state.attempts id
  distinct : route.state.distinctChannelsAttempted ≤ maxDistinctChannelsPerRequest
  clean : safe → ∀ up ∈ route.upstreams, up.channelID ∉ up.excluded
  phase : route.phase.Kept request safe route

section
variable {request : RouteRequest} {safe : Prop} {route after : Route} {chosen : Chosen}

theorem Phase.Ended.kept {phase : Phase} (ended : phase.Ended) : phase.Kept request safe route := by
  cases phase with
  | finished | panicked => trivial
  | selecting | attempting => cases ended

theorem Offered.fresh (offered : Offered request route chosen) (underway : route.Underway request)
    (excluded : ∀ id ∈ route.state.tried, id ∈ route.state.excludedChannelIDs) : chosen.channel.id ∉ route.state.tried ∧
      (chosen.channel.id ∈ route.state.excludedChannelIDs → route.state.tried = [] ∧ chosen.channel.id = request.firstOffer) := by
  unfold Offered at offered
  by_cases first : route.state.tried = []
  · refine ⟨by simp [first], fun out => ⟨first, ?_⟩⟩
    unfold firstOffer
    split at offered
    next bound => rw [if_pos bound, offered]
    next unbound =>
      split at offered
      · rw [if_neg unbound, offered]
      · exact absurd out offered
  · obtain ⟨handled, failover⟩ := underway first
    have unbound : ¬request.minimaxResourceChannelID ≠ 0 := by
      simp only [transparentFailover, Bool.and_eq_true, decide_eq_true_eq] at failover
      exact not_not.mpr failover.2
    rw [if_neg unbound, handled, if_neg (by decide)] at offered
    exact ⟨fun tried => offered (excluded _ tried), fun out => absurd out offered⟩

theorem Chosen.tried_of_used (chosen : Chosen) (used : chosen.maxAttempts request ≤ route.state.attempts chosen.channel.id) :
    chosen.channel.id ∈ route.state.tried := by
  by_contra fresh
  have none := attempts_of_fresh fresh
  have positive := (chosen.maxAttempts_bounds request).1
  omega

section
variable (kept : route.Kept request safe)
include kept

theorem Route.Kept.none_of_fresh (goesOn : ¬route.phase.Ended) {id : Int}
    (fresh : id ∉ route.state.tried) : route.state.attempts id = 0 ∧ ∀ up ∈ route.upstreams, up.channelID ≠ id := by
  have none := attempts_of_fresh fresh
  refine ⟨none, fun up member same => ?_⟩
  have counted := kept.counted goesOn id
  rw [none, Nat.le_zero, sent, countP_eq_zero] at counted
  exact counted up member (decide_eq_true same)

theorem Route.Kept.entered {channel : Option Chosen} (selecting : route.phase = .selecting channel)
    (origin : channel = some chosen ∨ channel = none ∧ Offered request route chosen) :
    chosen.channel.id ∉ route.state.tried ∧ route.Underway request ∧
      (∀ id ∈ route.state.tried, id ∈ route.state.excludedChannelIDs) ∧
      (safe → chosen.channel.id ∉ route.state.excludedChannelIDs) := by
  have phase := kept.phase
  rw [selecting] at phase
  rcases origin with rfl | ⟨rfl, offered⟩
  · obtain ⟨untried, unexcluded⟩ := phase
    simp [Underway, untried, unexcluded]
  obtain ⟨underway, excluded, first⟩ := phase
  obtain ⟨fresh, only⟩ := offered.fresh underway excluded
  refine ⟨fresh, underway, excluded, fun safe out => ?_⟩
  obtain ⟨untried, same⟩ := only out
  exact first safe untried (same ▸ out)

theorem Route.Kept.begun (turn : route.Attempting request safe chosen) :
    (route.state.beginAttempt chosen.channel.id).distinctChannelsAttempted ≤ maxDistinctChannelsPerRequest := by
  rw [distinct_beginAttempt]
  split
  · exact kept.distinct
  next fresh => exact turn.room fresh

theorem Route.Kept.move (move : Move request route after) : after.Kept request safe := by
  cases move with have turn := kept.phase
  | ends ended state upstreams =>
    refine ⟨?_, absurd ended, state ▸ kept.distinct, upstreams ▸ kept.clean, ended.kept⟩
    unfold sent
    rw [upstreams]
    exact kept.within
  | enters chosen channel selecting origin more same =>
    have goesOn : ¬route.phase.Ended := by rw [selecting]; exact id
    obtain ⟨fresh, underway, excluded, clean⟩ := kept.entered selecting origin
    obtain ⟨none, unsent⟩ := kept.none_of_fresh goesOn fresh
    have positive := (chosen.maxAttempts_bounds request).1
    rw [same]
    refine ⟨kept.within, fun _ => kept.counted goesOn, kept.distinct, kept.clean, ?_⟩
    refine ⟨underway, fun id tried => .inr (excluded id tried), ?_, fun up member mine => ?_, fun _ => more, clean⟩
    · change (route.state.attempts chosen.channel.id : Int) ≤ _
      omega
    · exact absurd mine (unsent up member)
  | fails _ attempting _ ended state upstreams =>
    rw [attempting] at turn
    refine ⟨?_, absurd ended, state ▸ kept.begun turn, upstreams ▸ kept.clean, ended.kept⟩
    unfold sent
    rw [upstreams]
    exact kept.within
  | sends chosen attempting _ goesOn state handled upstreams =>
    rw [attempting] at turn
    have counted := kept.counted (by rw [attempting]; exact id)
    have sent : ∀ id, after.sent id = route.sent id + if chosen.channel.id = id then 1 else 0 := by
      intro id
      unfold Route.sent
      rw [upstreams, countP_append, countP_singleton]
      simp
    have split : ∀ up ∈ after.upstreams, up ∈ route.upstreams ∨
        up = ⟨chosen.channel.id, chosen.maxAttempts request, route.state.excludedChannelIDs⟩ := by
      intro up member
      rwa [upstreams, mem_append, mem_singleton] at member
    have same : ∀ up ∈ after.upstreams, up.channelID = chosen.channel.id →
        up.maxAttempts = chosen.maxAttempts request := by
      intro up member mine
      rcases split up member with old | rfl
      · exact turn.same up old mine
      · rfl
    refine ⟨fun up member => ?_, fun _ id => ?_, state ▸ kept.begun turn, fun safe up member => ?_, ?_⟩
    · rw [sent]
      have before := counted chosen.channel.id
      by_cases mine : up.channelID = chosen.channel.id
      · rw [mine, same up member mine, if_pos rfl]
        exact ⟨by omega, (chosen.maxAttempts_bounds request).2⟩
      rw [if_neg (Ne.symm mine)]
      rcases split up member with old | rfl
      · exact kept.within up old
      · exact absurd rfl mine
    · -- The requests of this channel grow with its attempts, those of the others stay.
      rw [sent, state, attempts_beginAttempt]
      have before := counted id
      by_cases mine : chosen.channel.id = id
      · rw [if_pos mine, if_pos mine.symm, mine]
        omega
      · rw [if_neg mine, if_neg (Ne.symm mine)]
        exact before
    · rcases split up member with old | rfl
      · exact kept.clean safe up old
      · exact turn.clean safe
    · rcases goesOn with ended | ⟨again, failover⟩
      · exact ended.kept
      · rw [again]
        refine ⟨fun _ => ⟨handled, failover⟩, fun id member => ?_, ?_, same, fun fresh => ?_, state ▸ turn.clean⟩
        · rw [state] at member ⊢
          rcases (mem_tried_beginAttempt _ _ _).mp member with mine | before
          · exact .inl mine
          · exact turn.others id before
        · rw [state, attempts_beginAttempt, if_pos rfl]
          omega
        · rw [state] at fresh
          exact absurd ((mem_tried_beginAttempt _ _ _).mpr (.inl rfl)) fresh
  | leaves chosen attempting used same =>
    rw [attempting] at turn
    have counted := kept.counted (by rw [attempting]; exact id)
    rw [same]
    refine ⟨kept.within, fun _ => counted, kept.distinct, kept.clean, turn.underway, fun id member => ?_, fun _ none => ?_⟩
    · change id ∈ route.state.excludedChannelIDs ++ [chosen.channel.id]
      rcases turn.others id member with rfl | out
      · simp
      · exact mem_append_left _ out
    · -- A channel whose attempts are used up has been tried.
      exact absurd none (ne_nil_of_mem (chosen.tried_of_used used))

end

/-- The steps that a route has left: for each channel that may be tried its attempts, and its selection and its end. -/
def Route.left (request : RouteRequest) (route : Route) : Nat :=
  let untried := maxDistinctChannelsPerRequest - route.state.distinctChannelsAttempted
  match route.phase with
  | .selecting _ => 12 * untried + 1
  | .attempting chosen =>
    if chosen.channel.id ∈ route.state.tried then
      12 * untried + 2 + (chosen.maxAttempts request - route.state.attempts chosen.channel.id).toNat
    else 12 * untried
  | .finished _ | .panicked => 0

theorem Phase.Ended.left (ended : route.phase.Ended) : route.left request = 0 := by
  unfold Route.left
  cases phase : route.phase with
  | finished | panicked => rfl
  | selecting | attempting => rw [phase] at ended; cases ended

theorem Route.Kept.left_pos (kept : route.Kept request safe) (goesOn : ¬route.phase.Ended) : 0 < route.left request := by
  have phase := kept.phase
  unfold Route.left
  cases current : route.phase with
  | finished | panicked => exact absurd (current ▸ trivial) goesOn
  | selecting => exact Nat.succ_pos _
  | attempting =>
    rw [current] at phase
    dsimp only
    split
    · omega
    next fresh =>
      have room := phase.room fresh
      omega

theorem Route.Kept.move_left (kept : route.Kept request safe) (goesOn : ¬route.phase.Ended)
    (move : Move request route after) : after.left request < route.left request := by
  have positive := kept.left_pos goesOn
  cases move with
  | ends ended => rwa [ended.left]
  | enters _ _ selecting origin _ same =>
    have fresh := (kept.entered selecting origin).1
    rw [same]
    unfold left
    rw [selecting]
    dsimp only
    rw [if_neg fresh]
    exact Nat.lt_succ_self _
  | fails _ _ _ ended => rwa [ended.left]
  | sends chosen attempting _ continues state =>
    rcases continues with ended | ⟨again, _⟩
    · rwa [ended.left]
    have turn := kept.phase
    rw [attempting] at turn
    have bound : chosen.maxAttempts request ≤ 10 := (chosen.maxAttempts_bounds request).2
    have tried : chosen.channel.id ∈ after.state.tried := by
      rw [state]
      exact (mem_tried_beginAttempt _ _ _).mpr (.inl rfl)
    unfold left
    rw [attempting, again]
    dsimp only
    rw [if_pos tried, state, attempts_beginAttempt, if_pos rfl, distinct_beginAttempt]
    -- A first attempt uses up one of the channels, a later one an attempt of its channel.
    by_cases before : chosen.channel.id ∈ route.state.tried
    · rw [if_pos before, if_pos before]
      omega
    · have room := turn.room before
      rw [if_neg before, if_neg before]
      omega
  | leaves chosen attempting used same =>
    rw [same]
    unfold left
    rw [attempting]
    dsimp only
    rw [if_pos (chosen.tried_of_used used)]
    change 12 * (maxDistinctChannelsPerRequest - route.state.distinctChannelsAttempted) + 1 < _
    omega

theorem Route.ended_step {compile : String → Option (String → Bool)} {around : Surroundings} (route : Route)
    (ended : route.phase.Ended) : (route.step compile request around).phase.Ended := by
  unfold step
  split
  next selecting => rw [selecting] at ended; cases ended
  next attempting => rw [attempting] at ended; cases ended
  · exact ended
  · exact ended

/-- The distributor's channel is not enabled any more, and is what the route gets first. -/
def Blocked (request : RouteRequest) : Prop :=
  request.currentChannelID > 0 ∧ request.specificChannel = false ∧ request.firstOffer = request.currentChannelID ∧
    ∃ channel, request.known.find request.currentChannelID = some channel ∧ channel.status ≠ channelStatusEnabled

section
variable (compile : String → Option (String → Bool)) (request : RouteRequest)

theorem startRoute_kept : (startRoute request).Kept request (¬Blocked request) := by
  -- Nothing has been tried yet, so only the phase matters.
  have initial : ∀ route : Route, route.upstreams = [] → route.state.attemptsByChannel = .empty →
      route.phase.Kept request (¬Blocked request) route → route.Kept request (¬Blocked request) := by
    intro route upstreams state phase
    refine ⟨?_, ?_, ?_, ?_, phase⟩
    · simp [upstreams]
    · simp [Route.sent, upstreams]
    · rw [distinctChannelsAttempted, state]
      exact Nat.zero_le _
    · simp [upstreams]
  unfold startRoute
  split
  · refine initial _ rfl rfl ⟨fun some => absurd rfl some, fun _ tried => ?_, fun _ _ => not_mem_nil⟩
    cases tried
  next channel found =>
    split_ifs at found with positive
    split
    next disabled =>
      refine initial _ rfl rfl ⟨fun some => absurd rfl some, fun _ tried => ?_, fun safe _ first => safe ?_⟩
      · cases tried
      · have same : request.firstOffer = channel.id := mem_singleton.mp first
        exact ⟨positive, disabled.2, same.trans (mem_of_find found).2, channel, found, disabled.1⟩
    · exact initial _ rfl rfl ⟨rfl, rfl⟩

theorem startRoute_left : (startRoute request).left request ≤ 241 := by
  unfold startRoute
  split
  · exact Nat.le_refl _
  · split <;> exact Nat.le_refl _

def quiet (id : Int) : Surroundings where
  rows := ⟨⟨[{ id, group := "", models := "" }], nodup_singleton _⟩, []⟩
  now := 0
  candidates _ := []
  drawn _ := 0
  getRandomSatisfiedChannel _ _ _ _ := .done (.ok none)
  retryTimes := 0
  reliability _ := none
  setupError := none
  billingError := none
  bodyError := none
  reply := none
  responseCommitted := false
  requestContext := none
  retrySettings := ⟨fun _ => false, fun _ => false⟩

variable {request} in
theorem relay_blocked (blocked : Blocked request) :
    ∃ up ∈ (relay compile request (List.replicate 2 (quiet request.currentChannelID))).upstreams,
      up.channelID ∈ up.excluded := by
  obtain ⟨positive, unspecific, first, channel, found, disabled⟩ := blocked
  have same := (mem_of_find found).2
  have started : startRoute request =
      { param := request.param, state := exclude {} channel.id, phase := .selecting none } := by
    unfold startRoute
    rw [if_pos positive, found]
    exact if_pos ⟨disabled, unspecific⟩
  obtain ⟨chosen, taken, got⟩ : ∃ chosen : Chosen, chosen.channel.id = channel.id ∧
      getChannel compile request (quiet request.currentChannelID) (startRoute request) =
        some (request.param, .ok chosen) := by
    rw [started]
    unfold getChannel
    -- The channel of the request context, or the bound one, is taken without a look at the excluded ones.
    unfold firstOffer at first
    split at first
    next bound =>
      rw [if_pos bound, first]
      exact ⟨⟨{ id := request.currentChannelID, group := "", models := "" }, none⟩, same.symm, by simp [quiet, find]⟩
    next unbound =>
      rw [if_neg unbound]
      exact ⟨contextChannel request, same.symm, rfl⟩
  have entered : (startRoute request).step compile request (quiet request.currentChannelID) =
      { param := request.param, state := exclude {} channel.id, phase := .attempting chosen } := by
    rw [started] at got ⊢
    unfold Route.step Route.select
    dsimp only
    rw [if_neg (by simp [canSelectMoreChannels, distinctChannelsAttempted, exclude,
      Map.keys, Map.empty, maxDistinctChannelsPerRequest]), got]
    rfl
  have can : (exclude {} channel.id).canAttempt chosen.channel.id (chosen.maxAttempts request) = true := by
    have bounds := chosen.maxAttempts_bounds request
    simp [canAttempt, attempts, exclude]
    omega
  refine ⟨⟨chosen.channel.id, chosen.maxAttempts request, [channel.id]⟩, ?_, mem_singleton.mpr taken⟩
  change _ ∈ (((startRoute request).step compile request _).step compile request _).upstreams
  rw [entered]
  unfold Route.step
  dsimp only
  rw [if_pos can]
  unfold Route.attempt
  have unfailed : (quiet request.currentChannelID).setupError = none := rfl
  dsimp only
  rw [unfailed, ite_self]
  exact mem_singleton_self _

/-- Every route keeps within its limits and comes to its end. It tries no channel that it has excluded exactly where the
distributor's channel is not blocked. -/
theorem relay_limits : (∀ surroundings, let route := relay compile request surroundings
      route.state.distinctChannelsAttempted ≤ maxDistinctChannelsPerRequest ∧
        (∀ up ∈ route.upstreams, (route.sent up.channelID : Int) ≤ up.maxAttempts ∧ up.maxAttempts ≤ maxChannelMaxAttempts) ∧
        (242 ≤ surroundings.length → route.phase.Ended)) ∧
      ((∀ surroundings, ∀ up ∈ (relay compile request surroundings).upstreams,
        up.channelID ∉ up.excluded) ↔ ¬Blocked request) := by
  have start := startRoute_kept request
  have keeps : ∀ (route : Route) (around : Surroundings), route.Kept request (¬Blocked request) →
      (route.step compile request around).Kept request (¬Blocked request) :=
    fun route around kept => kept.move (route.step_move compile request around)
  have kept : ∀ surroundings, (relay compile request surroundings).Kept request (¬Blocked request) :=
    fun surroundings => List.foldlRecOn (motive := Route.Kept request (¬Blocked request)) surroundings _ start
      fun route kept around _ => keeps route around kept
  refine ⟨fun surroundings => ⟨(kept surroundings).distinct, (kept surroundings).within, fun enough => ?_⟩, ?_, ?_⟩
  · have lowers : ∀ (route : Route) (around : Surroundings), route.Kept request (¬Blocked request) →
        ¬route.phase.Ended → (route.step compile request around).left request < route.left request :=
      fun route around kept goesOn => kept.move_left goesOn (route.step_move compile request around)
    exact final_of_measure keeps lowers (fun route around => route.ended_step) start
      (Nat.lt_of_le_of_lt (startRoute_left request) enough)
  · intro clean blocked
    obtain ⟨up, member, excluded⟩ := relay_blocked compile blocked
    exact clean _ up member excluded
  · exact fun safe surroundings => (kept surroundings).clean safe

end

end

def disabledMeanwhile : RouteRequest :=
  { autoGroups := [], crossGroupRetry := false, tokenGroup := "default", modelName := "m", requestPath := ""
    known := ⟨[{ id := 1, status := 2, group := "default", models := "m" }], nodup_singleton _⟩
    reliability := fun _ => none
    currentChannelID := 1, channelType := 1, specificChannel := false, minimaxResourceChannelID := 0
    supportsTransparentFailover := true }

/-- The channel is excluded, and tried. -/
theorem relay_tries_excluded :
    (relay (fun _ => none) disabledMeanwhile [quiet 1, quiet 1]).upstreams = [⟨1, 2, [1]⟩] := by decide

end FlowAPI.Relay
