import FlowAPI.Channels.Eligibility
import FlowAPI.MultiKey.Failures

/-! Polling of keys with the memory cache: `model/channel_resilient_select.go`, `model/channel.go`,
`middleware/distributor.go`.

`GetRandomSatisfiedChannelWithOptions` hands out a copy of the cached channel. `GetNextEnabledKey` reads the
polling position from the cached channel and writes the next one to the copy. So the position of the cached channel
stays where it is, and every request gets the same key.
-/

set_option autoImplicit false
namespace FlowAPI.Channels
open Golang Semantics List Map Table
open MultiKey (ChannelInfo statusAt)
open MultiKey.Channel (KeyError enabledIdx nextFrom pollingStart)

structure KeyedChannel extends Channel where
  key : String
  keys : List String := []
  channelInfo : ChannelInfo

open KeyedChannel

def KeyedChannel.multi (channel : KeyedChannel) : MultiKey.Channel :=
  { key := channel.key, status := channel.status, otherInfo := none, channelInfo := channel.channelInfo
    keys := channel.keys }

variable (row : KeyedChannel)

def KeyedChannel.load : KeyedChannel := { row with keys := [] }

def KeyedChannel.restore : KeyedChannel := { row.load with status := channelStatusEnabled, autoBanUntil := 0 }

theorem KeyedChannel.restore_id : row.restore.id = row.id := rfl

structure Memory where
  cached : Map Int KeyedChannel
  rows : Table fun row : KeyedChannel => row.id
  keyed : ∀ id channel, cached.get? id = some channel → channel.id = id

namespace Memory

variable (memory : Memory) (failing : List Int)

def records : Rows where
  table :=
    { rows := memory.rows.rows.map toChannel
      unique := by
        rw [map_map]
        exact memory.rows.unique }
  failing

theorem read_records (id : Int) : (memory.records failing).read id =
      if id ∈ failing then none else (memory.rows.find id).map toChannel := by
  refine if_congr Iff.rfl rfl ?_
  unfold find records
  rw [List.find?_map]
  rfl

def restores (now : Int) (candidate row : KeyedChannel) : Bool :=
  decide (candidate.status = channelStatusAutoDisabled) && decide (row.status = channelStatusAutoDisabled) &&
    (maybeRestoreAutoBannedChannel (memory.records failing) now candidate.toChannel).isSome

/-- A restored row replaces the cached channel. The candidates are copies, and the turn of one does not change another.
-/
def restoreOne (now : Int) (memory : Memory) (id : Int) : Memory :=
  match memory.cached.get? id with
  | none => memory
  | some candidate =>
    match found : memory.rows.find id with
    | none => memory
    | some row =>
      if memory.restores failing now candidate row then
        { cached := memory.cached.set id row.restore
          rows := memory.rows.modify (fun row => decide (row.id = id)) restore fun row _ => row.restore_id
          keyed := by
            intro target channel present
            rw [get?_set] at present
            split at present
            next same =>
              cases present
              exact (mem_of_find found).2.trans same.symm
            · exact memory.keyed target channel present }
      else memory

def copyOf (now : Int) (candidate : KeyedChannel) : KeyedChannel :=
  if candidate.status = channelStatusAutoDisabled then
    match maybeRestoreAutoBannedChannel (memory.records failing) now candidate.toChannel,
      memory.rows.find candidate.id with
    | some current, some row => { row.load with toChannel := { current with status := channelStatusEnabled } }
    | _, _ => candidate
  else candidate

end Memory

/-- `order` is the order of the map's iteration, `value` the number drawn for the channel and `drawn` the one for the
key. -/
structure SelectCall where
  order : List Int
  now : Int
  failing : List Int
  (group modelName requestPath : String)
  options : ChannelSelectionOptions
  value : Int
  drawn : Nat

section
variable (compile : String → Option (String → Bool)) (parseArray : String → Option (List String))

def SelectCall.candidates (call : SelectCall) (memory : Memory) : List Channel :=
  (call.order.filterMap memory.cached.get?).map toChannel

def SelectCall.selected (call : SelectCall) (memory : Memory) : Option Selected :=
  (getRandomSatisfiedChannelWithOptions compile (memory.records call.failing) call.now call.group call.modelName
    call.requestPath call.options (call.candidates memory)).result call.value

namespace Memory

/-- `SetupContextForSelectedChannel` for a selected channel. The next polling position is written to the copy, which is
not kept. -/
def select (memory : Memory) (call : SelectCall) : Memory × Option (Int × Except KeyError (String × Nat)) :=
  let after := call.order.foldl (restoreOne call.failing call.now) memory
  match call.selected compile memory with
  | some (.ok (some channel)) =>
    match memory.cached.get? channel.id, after.cached.get? channel.id with
    | some candidate, some current =>
      let copy := memory.copyOf call.failing call.now candidate
      (after, some (channel.id,
        (copy.multi.getNextEnabledKey parseArray current.channelInfo.multiKeyPollingIndex call.drawn).result))
    | _, _ => (after, none)
  | _ => (after, none)

def usedKeys (id : Int) : Memory → List SelectCall → List Nat
  | _, [] => []
  | memory, call :: rest =>
    match (memory.select compile parseArray call).2 with
    | some (target, .ok (_, index)) =>
      if target = id then index :: usedKeys id (memory.select compile parseArray call).1 rest
      else usedKeys id (memory.select compile parseArray call).1 rest
    | _ => usedKeys id (memory.select compile parseArray call).1 rest

end Memory

end

/-- Every window of as many requests as there are enabled keys uses each of them once. -/
def RoundRobin (enabled used : List Nat) : Prop :=
  ∀ start, start + enabled.length ≤ used.length → ((used.drop start).take enabled.length).Perm enabled

theorem roundRobin_replicate_iff {enabled : List Nat} (distinct : enabled.Nodup) {index : Nat} (member : index ∈ enabled)
    (count : Nat) : RoundRobin enabled (replicate count index) ↔ enabled.length = 1 ∨ count < enabled.length := by
  constructor
  · intro rotates
    by_contra neither
    have whole : enabled.length ≤ count := by omega
    have window := rotates 0 (by simpa using whole)
    rw [drop_zero, take_replicate, Nat.min_eq_left whole] at window
    have single := nodup_replicate.mp (window.nodup_iff.mpr distinct)
    have positive := length_pos_of_mem member
    omega
  · rintro (single | _) start whole
    · obtain ⟨only, rfl⟩ := length_eq_one_iff.mp single
      cases mem_singleton.mp member
      rw [drop_replicate, take_replicate]
      have one : min [index].length (count - start) = 1 := by
        simp only [length_singleton, length_replicate] at whole ⊢
        omega
      rw [one]
      exact List.Perm.refl _
    · simp only [length_replicate] at whole
      omega

structure KeyedChannel.Polls (parseArray : String → Option (List String)) (keys : List String)
    (statusList : Map Nat Int) (channel : KeyedChannel) : Prop where
  isMultiKey : channel.channelInfo.isMultiKey = true
  mode : channel.channelInfo.multiKeyMode = .polling
  keys : channel.multi.getKeys parseArray = keys
  statuses : ∀ index, statusAt channel.channelInfo.multiKeyStatusList index = statusAt statusList index

def polled (keys : List String) (statusList : Map Nat Int) (saved : Int) : Nat :=
  (nextFrom keys statusList (pollingStart keys saved)).getD ((enabledIdx keys statusList).headD 0)

section
variable {parseArray : String → Option (List String)} {keys : List String} {statusList : Map Nat Int}

theorem polled_mem (enabled : enabledIdx keys statusList ≠ []) (saved : Int) :
    polled keys statusList saved ∈ enabledIdx keys statusList := by
  unfold polled
  cases found : nextFrom keys statusList (pollingStart keys saved) with
  | some => exact MultiKey.Channel.nextFrom_spec found
  | none =>
    obtain ⟨_, _, listed⟩ := exists_cons_of_ne_nil enabled
    rw [listed]
    exact mem_cons_self

theorem KeyedChannel.Polls.result {channel : KeyedChannel}
    (polls : channel.Polls parseArray keys statusList) (enabled : enabledIdx keys statusList ≠ []) (saved : Int)
    (drawn : Nat) : (channel.multi.getNextEnabledKey parseArray saved drawn).result =
      .ok (keys.getD (polled keys statusList saved) "", polled keys statusList saved) := by
  have sameEnabled : enabledIdx keys channel.channelInfo.multiKeyStatusList = enabledIdx keys statusList := by
    unfold enabledIdx
    simp [polls.statuses]
  have sameNext : nextFrom keys channel.channelInfo.multiKeyStatusList = nextFrom keys statusList := by
    funext start
    unfold nextFrom
    simp [polls.statuses]
  have some : keys ≠ [] := by
    rintro rfl
    exact enabled rfl
  obtain ⟨_, _, listed⟩ := exists_cons_of_ne_nil enabled
  unfold MultiKey.Channel.getNextEnabledKey polled
  have multi : channel.multi.channelInfo = channel.channelInfo := rfl
  rw [multi, polls.isMultiKey, if_neg (by decide), polls.keys, if_neg some, sameEnabled, sameNext, polls.mode, listed]
  cases nextFrom keys statusList (pollingStart keys saved) with
  | some | none => rfl

end

namespace Memory

variable {failing : List Int} {now : Int} {memory : Memory} {id : Int}

theorem restoreOne_cases (failing : List Int) (now : Int) (memory : Memory) (turn id : Int) :
    ((memory.restoreOne failing now turn).cached.get? id = memory.cached.get? id ∧
        (memory.restoreOne failing now turn).rows.find id = memory.rows.find id) ∨
      ∃ channel row, turn = id ∧ memory.cached.get? id = some channel ∧ memory.rows.find id = some row ∧
        channel.status = channelStatusAutoDisabled ∧ row.status = channelStatusAutoDisabled ∧
        (memory.restoreOne failing now turn).cached.get? id = some row.restore ∧
        (memory.restoreOne failing now turn).rows.find id = some row.restore := by
  unfold restoreOne
  split
  · exact .inl ⟨rfl, rfl⟩
  next candidate cached =>
    split
    · exact .inl ⟨rfl, rfl⟩
    next row found =>
      split
      next restored =>
        by_cases same : id = turn
        · subst same
          unfold restores at restored
          simp only [Bool.and_eq_true, decide_eq_true_eq] at restored
          refine .inr ⟨candidate, row, rfl, cached, found, restored.1.1, restored.1.2, ?_, ?_⟩
          · rw [get?_set, if_pos rfl]
          · dsimp only
            rw [find_modify, found, Option.map_some, if_pos (decide_eq_true (mem_of_find found).2)]
        left
        refine ⟨by rw [get?_set, if_neg same], ?_⟩
        rw [find_modify]
        cases other : memory.rows.find id with
        | none => rfl
        | some kept =>
          have differs : kept.id ≠ turn := (mem_of_find other).2 ▸ same
          rw [Option.map_some, if_neg (by simpa using differs)]
      · exact .inl ⟨rfl, rfl⟩

structure Steady (parseArray : String → Option (List String)) (keys : List String) (statusList : Map Nat Int) (id : Int)
    (memory : Memory) : Prop where
  cached : ∀ channel, memory.cached.get? id = some channel → channel.Polls parseArray keys statusList
  row : ∀ row, memory.rows.find id = some row → row.load.Polls parseArray keys statusList

/-- The channel and its row do not both wait for the end of a ban. -/
def Ready (memory : Memory) (id : Int) : Prop :=
  ∀ channel row, memory.cached.get? id = some channel → memory.rows.find id = some row →
    channel.status = channelStatusAutoDisabled → row.status ≠ channelStatusAutoDisabled

/-- The polling position that the channel's next use reads. A channel that has to be restored first gets the one of
its row. -/
def savedFor (memory : Memory) (id : Int) : Int :=
  match memory.cached.get? id, memory.rows.find id with
  | some channel, some row =>
    if channel.status = channelStatusAutoDisabled ∧ row.status = channelStatusAutoDisabled then
      row.channelInfo.multiKeyPollingIndex
    else channel.channelInfo.multiKeyPollingIndex
  | some channel, none => channel.channelInfo.multiKeyPollingIndex
  | none, _ => 0

section
variable {parseArray : String → Option (List String)} {keys : List String} {statusList : Map Nat Int}

theorem Steady.restoreOne (steady : memory.Steady parseArray keys statusList id) (failing : List Int) (now turn : Int) :
    (memory.restoreOne failing now turn).Steady parseArray keys statusList id := by
  rcases restoreOne_cases failing now memory turn id with ⟨cached, found⟩ | ⟨_, row, _, _, found, _, _, cached, restored⟩
  · exact ⟨fun channel present => steady.cached channel (cached ▸ present),
      fun row present => steady.row row (found ▸ present)⟩
  have polls := steady.row row found
  refine ⟨fun channel present => ?_, fun other present => ?_⟩
  · cases cached.symm.trans present
    exact ⟨polls.isMultiKey, polls.mode, polls.keys, polls.statuses⟩
  · cases restored.symm.trans present
    exact ⟨polls.isMultiKey, polls.mode, polls.keys, polls.statuses⟩

theorem savedFor_restoreOne (failing : List Int) (now : Int) (memory : Memory) (turn id : Int) :
    (memory.restoreOne failing now turn).savedFor id = memory.savedFor id := by
  unfold savedFor
  rcases restoreOne_cases failing now memory turn id with
    ⟨cached, found⟩ | ⟨channel, row, _, before, found, banned, rowBanned, cached, restored⟩
  · rw [cached, found]
  have enabled : row.restore.status ≠ channelStatusAutoDisabled := by
    change channelStatusEnabled ≠ channelStatusAutoDisabled
    decide
  rw [before, found, cached, restored]
  simp only [banned, rowBanned, enabled, and_self, if_true, if_false]
  rfl

theorem Ready.restoreOne (ready : memory.Ready id) (failing : List Int) (now turn : Int) :
    (memory.restoreOne failing now turn).Ready id := by
  intro channel row cachedAfter foundAfter banned
  rcases restoreOne_cases failing now memory turn id with ⟨cached, found⟩ | ⟨_, _, _, _, _, _, _, _, restored⟩
  · exact ready channel row (cached ▸ cachedAfter) (found ▸ foundAfter) banned
  · cases restored.symm.trans foundAfter
    change channelStatusEnabled ≠ channelStatusAutoDisabled
    decide

end

variable {candidate : KeyedChannel}

section
variable (cached : memory.cached.get? id = some candidate)
  (available : candidate.status = channelStatusAutoDisabled →
    (maybeRestoreAutoBannedChannel (memory.records failing) now candidate.toChannel).isSome = true)
include cached available

theorem restoreOne_ready : (memory.restoreOne failing now id).Ready id := by
  intro channel row cachedAfter foundAfter banned rowBanned
  rcases restoreOne_cases failing now memory id id with ⟨kept, found⟩ | ⟨_, _, _, _, _, _, _, _, restored⟩
  · rw [kept, cached] at cachedAfter
    cases cachedAfter
    rw [found] at foundAfter
    -- Both are banned and the ban has ended, so the turn did restore the row.
    have ended : memory.restores failing now candidate row = true := by
      unfold restores
      rw [decide_eq_true banned, decide_eq_true rowBanned, available banned]
      rfl
    have restored : (memory.restoreOne failing now id).cached.get? id = some row.restore := by
      unfold restoreOne
      rw [cached]
      dsimp only
      split
      next missing => cases foundAfter.symm.trans missing
      next _ present =>
        cases foundAfter.symm.trans present
        rw [if_pos ended]
        rw [get?_set, if_pos rfl]
    rw [kept, cached] at restored
    have status := congrArg (Option.map fun channel : KeyedChannel => channel.status) restored
    rw [Option.map_some, banned] at status
    exact absurd status (by simp [restore, channelStatusAutoDisabled, channelStatusEnabled])
  · cases restored.symm.trans foundAfter
    exact absurd rowBanned (by simp [restore, channelStatusAutoDisabled, channelStatusEnabled])

theorem foldl_ready {order : List Int} (listed : id ∈ order) : (order.foldl (restoreOne failing now) memory).Ready id := by
  induction order generalizing memory with
  | nil => cases listed
  | cons turn rest ih =>
    by_cases same : turn = id
    · subst same
      refine foldlRecOn (motive := fun current : Memory => current.Ready turn) rest _ (restoreOne_ready cached available) ?_
      intro current ready next _
      exact ready.restoreOne failing now next
    have later := (mem_cons.mp listed).resolve_left (Ne.symm same)
    rcases restoreOne_cases failing now memory turn id with ⟨kept, found⟩ | ⟨_, _, turns, _⟩
    · have read : ((memory.restoreOne failing now turn).records failing).read candidate.id =
          (memory.records failing).read candidate.id := by
        rw [read_records, read_records, memory.keyed id candidate cached, found]
      refine ih (kept.trans cached) ?_ later
      unfold maybeRestoreAutoBannedChannel at available ⊢
      rwa [read]
    · exact absurd turns same

end

section
variable {compile : String → Option (String → Bool)} {parseArray : String → Option (List String)} {keys : List String}
  {statusList : Map Nat Int} {call : SelectCall}

theorem selected_spec {channel : Channel} (selected : call.selected compile memory = some (.ok (some channel))) :
    channel.id ∈ call.order ∧ ∃ candidate, memory.cached.get? channel.id = some candidate ∧
      (candidate.status = channelStatusAutoDisabled →
        (maybeRestoreAutoBannedChannel (memory.records call.failing) call.now candidate.toChannel).isSome = true) := by
  have eligible := mem_eligible_of_result compile call.options _ _ _ _ _ selected
  obtain ⟨_, offered, refreshed, allowed⟩ := (mem_eligible compile call.options _ _ _ _ _).mp eligible
  obtain ⟨candidate, present, rfl⟩ := mem_map.mp offered
  obtain ⟨turn, listed, cached⟩ := mem_filterMap.mp present
  have same : channel.id = turn := by
    rw [← refreshed, refresh_id]
    exact memory.keyed turn candidate cached
  refine ⟨same ▸ listed, candidate, same ▸ cached, ?_⟩
  intro banned
  -- Without an end of the ban the candidate would be looked at as it is, and be passed over.
  have enabled := enabled_of_allows compile call.options _ _ _ allowed
  rw [← refreshed, refresh, if_pos banned] at enabled
  split at enabled
  next _ restored => rw [restored]; rfl
  · exact absurd (banned.symm.trans enabled) (by decide)

theorem select_memory (memory : Memory) (call : SelectCall) :
    (memory.select compile parseArray call).1 = call.order.foldl (restoreOne call.failing call.now) memory := by
  unfold select
  dsimp only
  split
  · split <;> rfl
  · rfl

theorem copyOf_toChannel (memory : Memory) (failing : List Int) (now : Int) (candidate : KeyedChannel) :
    (memory.copyOf failing now candidate).toChannel = refresh (memory.records failing) now candidate.toChannel := by
  unfold copyOf refresh
  split
  next banned =>
    cases restored : maybeRestoreAutoBannedChannel (memory.records failing) now candidate.toChannel with
    | none => rfl
    | some =>
      cases found : memory.rows.find candidate.id with
      | some => rfl
      | none =>
        -- Without a row there is no end of a ban.
        have unread : (memory.records failing).read candidate.id = none := by
          rw [read_records, found]
          split <;> rfl
        unfold maybeRestoreAutoBannedChannel at restored
        rw [unread] at restored
        simp [banned] at restored
  · rfl

theorem copyOf_polls (steady : memory.Steady parseArray keys statusList id)
    (cached : memory.cached.get? id = some candidate) :
    (memory.copyOf failing now candidate).Polls parseArray keys statusList := by
  have here := steady.cached candidate cached
  unfold copyOf
  split
  · split
    next _ row _ found =>
      have polls := steady.row row (memory.keyed id candidate cached ▸ found)
      exact ⟨polls.isMultiKey, polls.mode, polls.keys, polls.statuses⟩
    · exact here
  · exact here

theorem Ready.savedFor (ready : memory.Ready id) {channel : KeyedChannel} (cached : memory.cached.get? id = some channel) :
    memory.savedFor id = channel.channelInfo.multiKeyPollingIndex := by
  unfold Memory.savedFor
  rw [cached]
  cases found : memory.rows.find id with
  | none => rfl
  | some row =>
    dsimp only
    rw [if_neg fun both => ready channel row cached found both.1 both.2]

theorem select_key (steady : memory.Steady parseArray keys statusList id) (enabled : enabledIdx keys statusList ≠ [])
    {result : Except KeyError (String × Nat)} (used : (memory.select compile parseArray call).2 = some (id, result)) :
    result = .ok (keys.getD (polled keys statusList (memory.savedFor id)) "",
      polled keys statusList (memory.savedFor id)) := by
  unfold select at used
  dsimp only at used
  split at used
  next channel selected =>
    split at used <;> cases used
    next _ _ cached cachedAfter =>
      obtain ⟨listed, _, present, available⟩ := selected_spec selected
      cases cached.symm.trans present
      have ready := foldl_ready cached available listed
      have saved : (call.order.foldl (restoreOne call.failing call.now) memory).savedFor channel.id =
          memory.savedFor channel.id := by
        refine foldlRecOn (motive := fun after : Memory => after.savedFor channel.id = memory.savedFor channel.id)
          call.order _ rfl ?_
        intro after kept turn _
        rw [savedFor_restoreOne, kept]
      rw [(copyOf_polls steady cached).result enabled, ← ready.savedFor cachedAfter, saved]
  · cases used

variable (calls : List SelectCall) (steady : memory.Steady parseArray keys statusList id)
  (enabled : enabledIdx keys statusList ≠ [])
include steady enabled

theorem usedKeys_same :
    ∀ index ∈ memory.usedKeys compile parseArray id calls, index = polled keys statusList (memory.savedFor id) := by
  induction calls generalizing memory with
  | nil => simp [usedKeys]
  | cons call _ ih =>
    have after : (memory.select compile parseArray call).1.Steady parseArray keys statusList id ∧
        (memory.select compile parseArray call).1.savedFor id = memory.savedFor id := by
      rw [select_memory]
      refine foldlRecOn
        (motive := fun after : Memory => after.Steady parseArray keys statusList id ∧ after.savedFor id = memory.savedFor id)
        call.order _ ⟨steady, rfl⟩ ?_
      rintro _ ⟨kept, saved⟩ turn _
      exact ⟨kept.restoreOne _ _ turn, by rw [savedFor_restoreOne, saved]⟩
    have later := ih after.1
    rw [after.2] at later
    unfold usedKeys
    split
    next _ _ _ used =>
      split
      next same =>
        subst same
        have here := select_key steady enabled used
        cases here
        exact forall_mem_cons.mpr ⟨rfl, later⟩
      · exact later
    · exact later

/-- The uses of a channel rotate through its enabled keys exactly where there is one such key, or where there were fewer
uses than keys. -/
theorem polling_rotates_iff :
    RoundRobin (enabledIdx keys statusList) (memory.usedKeys compile parseArray id calls) ↔
      (enabledIdx keys statusList).length = 1 ∨
        (memory.usedKeys compile parseArray id calls).length < (enabledIdx keys statusList).length := by
  have distinct : (enabledIdx keys statusList).Nodup := nodup_range.filter _
  rw [eq_replicate_of_mem (usedKeys_same calls steady enabled), roundRobin_replicate_iff distinct (polled_mem enabled _),
    length_replicate]

end

end Memory

section
variable (statusList : Map Nat Int)

def twoKeys : KeyedChannel :=
  { id := 1, group := "default", models := "m", key := "a\nb", keys := ["a", "b"]
    channelInfo := ⟨true, 2, statusList, .empty, .empty, 0, .polling⟩ }

def twoKeysCached : Memory where
  cached := empty.set 1 (twoKeys statusList)
  rows := ⟨[(twoKeys statusList).load], nodup_singleton _⟩
  keyed := by
    intro id channel present
    rw [get?_set, get?_empty] at present
    split at present <;> cases present
    next same => exact same.symm

theorem twoKeysCached_steady : (twoKeysCached statusList).Steady (fun _ => none) ["a", "b"] statusList 1 := by
  constructor
  · intro channel present
    have same : channel = twoKeys statusList := (Option.some.inj present).symm
    rw [same]
    exact ⟨rfl, rfl, rfl, fun _ => rfl⟩
  · intro row present
    have same : row = (twoKeys statusList).load := (Option.some.inj present).symm
    rw [same]
    have parsed : (twoKeys .empty).load.load.multi.getKeys (fun _ => none) = ["a", "b"] := by decide
    exact ⟨rfl, rfl, parsed, fun _ => rfl⟩

end

def selectFirst : SelectCall := ⟨[1], 0, [], "default", "m", "", noOptions, 0, 0⟩

/-- With the second key disabled, every request gets the first one. -/
theorem polling_rotates_one_key :
    RoundRobin [0] ((twoKeysCached (empty.set 1 2)).usedKeys (fun _ => none) (fun _ => none) 1
      [selectFirst, selectFirst]) :=
  (Memory.polling_rotates_iff [selectFirst, selectFirst] (twoKeysCached_steady (empty.set 1 2)) (by decide)).mpr
    (.inl (by decide))

/-- With both keys enabled, every request gets the first one too. -/
theorem polling_keeps_first_key :
    (twoKeysCached .empty).Steady (fun _ => none) ["a", "b"] .empty 1 ∧ enabledIdx ["a", "b"] .empty = [0, 1] ∧
      (twoKeysCached .empty).usedKeys (fun _ => none) (fun _ => none) 1 [selectFirst, selectFirst] = [0, 0] ∧
      ¬RoundRobin (enabledIdx ["a", "b"] .empty)
        ((twoKeysCached .empty).usedKeys (fun _ => none) (fun _ => none) 1 [selectFirst, selectFirst]) := by
  have used : (twoKeysCached .empty).usedKeys (fun _ => none) (fun _ => none) 1 [selectFirst, selectFirst] = [0, 0] := by
    decide
  have enabled : enabledIdx ["a", "b"] .empty = [0, 1] := by decide
  refine ⟨twoKeysCached_steady .empty, enabled, used, ?_⟩
  intro rotates
  exact absurd (rotates 0 (by decide)) (by decide)

end FlowAPI.Channels
