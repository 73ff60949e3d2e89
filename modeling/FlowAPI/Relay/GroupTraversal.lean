import FlowAPI.Relay.Route

/-! The order in which a request goes through groups and priorities.

The retry number is clamped to the last priority of a group, and a group is left when the number reaches
`RetryTimes`. So every group gets the same number of tries, however many priorities it has.
-/

set_option autoImplicit false
namespace FlowAPI.Relay
open Semantics List Option
open FlowAPI.Channels

def allLevels : Nat → List Nat → List (Nat × Nat)
  | _, [] => []
  | position, count :: rest => (List.range count).map (Prod.mk position) ++ allLevels (position + 1) rest

/-- The tries that are left with a retry number in the first group: up to `retryTimes` in each group that has levels, at
the last level once they are used up. -/
def tries (retryTimes : Nat) : Nat → Nat → List Nat → List (Nat × Nat)
  | _, _, [] => []
  | position, retry, count :: rest =>
    (if count = 0 then []
      else (List.range' retry (retryTimes + 1 - retry)).map fun number => (position, min number (count - 1))) ++
      tries retryTimes (position + 1) 0 rest

section
variable {retryTimes position retry count : Nat} {rest counts : List Nat}

theorem tries_empty : tries retryTimes position retry (0 :: rest) = tries retryTimes (position + 1) 0 rest := by
  simp [tries]

theorem tries_stay (some : count ≠ 0) (more : retry < retryTimes) : tries retryTimes position retry (count :: rest) =
      (position, min retry (count - 1)) :: tries retryTimes position (retry + 1) (count :: rest) := by
  have length : retryTimes + 1 - retry = (retryTimes + 1 - (retry + 1)) + 1 := by omega
  simp only [tries, some, if_false]
  rw [length, range'_succ]
  rfl

theorem tries_leave (some : count ≠ 0) : tries retryTimes position retryTimes (count :: rest) =
      (position, min retryTimes (count - 1)) :: tries retryTimes (position + 1) 0 rest := by
  have length : retryTimes + 1 - retryTimes = 1 := by omega
  simp only [tries, some, if_false, length]
  rfl

theorem le_of_mem_tries {pair : Nat × Nat} (member : pair ∈ tries retryTimes position retry counts) :
    position ≤ pair.1 := by
  induction counts generalizing position retry with
  | nil => simp [tries] at member
  | cons _ _ ih =>
    rw [tries, mem_append] at member
    rcases member with here | later
    · split at here
      · simp at here
      · obtain ⟨_, _, rfl⟩ := mem_map.mp here
        exact Nat.le_refl _
    · exact Nat.le_of_succ_le (ih later)

theorem le_of_mem_allLevels {pair : Nat × Nat} (member : pair ∈ allLevels position counts) : position ≤ pair.1 := by
  induction counts generalizing position with
  | nil => simp [allLevels] at member
  | cons _ _ ih =>
    rw [allLevels, mem_append] at member
    rcases member with here | later
    · obtain ⟨_, _, rfl⟩ := mem_map.mp here
      exact Nat.le_refl _
    · exact Nat.le_of_succ_le (ih later)

theorem tries_eq_nil_iff : tries retryTimes position 0 counts = [] ↔ ∀ count ∈ counts, count = 0 := by
  induction counts generalizing position with
  | nil => simp [tries]
  | cons count _ ih =>
    by_cases none : count = 0
    · simp [none, tries_empty, ih]
    · simp [tries, none]

theorem tries_within (enough : retryTimes < count) : tries retryTimes position 0 (count :: rest) =
      (range (retryTimes + 1)).map (Prod.mk position) ++ tries retryTimes (position + 1) 0 rest := by
  have some : count ≠ 0 := by omega
  simp only [tries, some, if_false, Nat.sub_zero, ← range_eq_range']
  congr 1
  apply map_congr_left
  intro number member
  have below := mem_range.mp member
  rw [Nat.min_eq_left (by omega)]

theorem enough_of_ordered (some : count ≠ 0)
    (ordered : tries retryTimes position 0 (count :: rest) <+: allLevels position (count :: rest)) :
    retryTimes < count := by
  -- The group has `retryTimes + 1` tries on the one side and `count` levels on the other.
  obtain ⟨_, same⟩ := ordered
  have counted := congrArg (countP fun pair : Nat × Nat => decide (pair.1 = position)) same
  have others : (allLevels (position + 1) rest).countP (fun pair => decide (pair.1 = position)) = 0 := by
    rw [countP_eq_zero]
    intro pair member
    have := le_of_mem_allLevels member
    simp
    omega
  have here : ∀ (numbers : List Nat) (level : Nat → Nat),
      (numbers.map fun number => (position, level number)).countP (fun pair => decide (pair.1 = position)) =
        numbers.length := by
    simp [countP_map, Function.comp_def]
  simp only [tries, allLevels, some, if_false, countP_append, others, here, length_range, length_range'] at counted
  omega

theorem tries_ordered_iff : tries retryTimes position 0 counts <+: allLevels position counts ↔
      (∀ count ∈ counts, count = 0 ∨ retryTimes < count) ∧
        counts.Pairwise fun count later => count = 0 ∨ later = 0 ∨ count = retryTimes + 1 := by
  induction counts generalizing position with
  | nil => simp [tries, allLevels]
  | cons count rest ih =>
    rw [forall_mem_cons, pairwise_cons]
    by_cases none : count = 0
    · have skipped : allLevels position (0 :: rest) = allLevels (position + 1) rest := rfl
      rw [none, tries_empty, skipped, ih]
      simp
    by_cases enough : retryTimes < count
    · obtain ⟨extra, more⟩ : ∃ extra, count = retryTimes + 1 + extra := ⟨count - (retryTimes + 1), by omega⟩
      have parts : range (retryTimes + 1 + extra) =
          range (retryTimes + 1) ++ (range extra).map (retryTimes + 1 + ·) := range_add ..
      rw [tries_within enough, allLevels, more, parts, map_append, append_assoc, prefix_append_right_inj]
      cases extra with
      | zero =>
        simp only [range_zero, map_nil, nil_append, ih]
        simp
      | succ extra =>
        -- The next level of the group comes before the next group.
        have last : (tries retryTimes (position + 1) 0 rest <+:
            ((range (extra + 1)).map (retryTimes + 1 + ·)).map (Prod.mk position) ++
              allLevels (position + 1) rest) ↔ ∀ later ∈ rest, later = 0 := by
          rw [← tries_eq_nil_iff]
          constructor
          · intro ordered
            rw [range_succ_eq_map] at ordered
            cases next : tries retryTimes (position + 1) 0 rest with
            | nil => rfl
            | cons first =>
              have member : first ∈ tries retryTimes (position + 1) 0 rest := by
                rw [next]
                exact mem_cons_self
              have beyond := le_of_mem_tries member
              rw [next] at ordered
              simp only [map_cons, cons_append, cons_prefix_cons] at ordered
              rw [ordered.1] at beyond
              simp at beyond
          · intro nothing
            rw [nothing]
            exact nil_prefix
        rw [last]
        constructor
        · intro nothing
          refine ⟨⟨.inr (by omega), fun later member => .inl (nothing later member)⟩,
            fun later member => .inr (.inl (nothing later member)), ?_⟩
          exact pairwise_of_forall_mem_list fun first member second _ => .inl (nothing first member)
        · rintro ⟨_, pairs, _⟩ later member
          have := pairs later member
          omega
    · refine ⟨fun ordered => absurd (enough_of_ordered none ordered) enough, ?_⟩
      rintro ⟨⟨here, _⟩, _⟩
      exact absurd here (by omega)

end

/-- The loop of a request: it selects a channel as long as there are retries and a channel is found. What is missing is
a draw that panics. -/
def selections (routing : Routing) (request : SelectRequest) : RetryParam → List (Nat → Int) → Option (List Choice)
  | _, [] => some []
  | param, drawn :: rest =>
    if param.retry ≤ routing.retryTimes then
      match cacheGetRandomSatisfiedChannel routing drawn request none param with
      | none => none
      | some (after, .ok (some choice)) => (selections routing request after.increaseRetry rest).map (choice :: ·)
      | some _ => some []
    else some []

structure MemoryMode where
  compile : String → Option (String → Bool)
  cache : Cache
  rows : Rows
  now : Int
  retryTimes : Nat

namespace MemoryMode

variable (mode : MemoryMode) (request : SelectRequest)

def routing : Routing where
  getRandomSatisfiedChannel group model retry requestPath :=
    mode.cache.getRandomSatisfiedChannel mode.compile group model retry requestPath
  getRandomSatisfiedChannelWithOptions group model requestPath options :=
    getRandomSatisfiedChannelWithOptions mode.compile mode.rows mode.now group model requestPath options
      mode.cache.channels
  retryTimes := mode.retryTimes

def eligible (group : String) : List Channel :=
  mode.cache.eligible mode.compile group request.modelName request.requestPath
def levels (group : String) : List Int := descending ((mode.eligible request group).map Channel.getPriority)
def visit (choice : Choice) : Nat × Nat :=
  (choice.position, (mode.levels request choice.group).idxOf choice.channel.getPriority)
def levelCounts (groups : List String) : List Nat := groups.map fun group => (mode.levels request group).length

def WeightsFit (group : String) : Prop :=
  ∀ retry, weightSum (effectiveWeight (onLevel (mode.eligible request group) retry))
    (onLevel (mode.eligible request group) retry) < 2 ^ 63

variable {mode request} {group : String}

theorem levels_eq_nil_iff : mode.levels request group = [] ↔ mode.eligible request group = [] := by
  constructor
  · intro none
    by_contra some
    obtain ⟨_, member⟩ := exists_mem_of_ne_nil _ some
    have listed := mem_descending.mpr (mem_map_of_mem (f := Channel.getPriority) member)
    unfold levels at none
    rw [none] at listed
    cases listed
  · intro none
    rw [levels, none]
    rfl

theorem levels_nodup : (mode.levels request group).Nodup := (perm_insertionSort _ _).nodup_iff.mpr (nodup_dedup _)

theorem candidates_eq_nil (none : mode.eligible request group = []) :
    mode.cache.candidates mode.compile group request.modelName request.requestPath = [] := by
  by_contra some
  obtain ⟨id, member⟩ := exists_mem_of_ne_nil _ some
  obtain ⟨_, found⟩ := isSome_iff_exists.mp (mode.cache.listed_of_mem_candidates mode.compile member)
  exact ne_nil_of_mem (mem_filterMap.mpr ⟨id, member, found⟩) none

/-- A selection over the memory cache finds nothing in a group without channels, and else a channel on the level of the
clamped retry number. -/
theorem selected_level (fits : mode.WeightsFit request group) {retry : Nat} {value : Int} {selected : Selected}
    (drawn : (mode.routing.getRandomSatisfiedChannel group request.modelName retry request.requestPath).result value =
      some selected) : if (mode.levels request group).length = 0 then selected = .ok none
    else ∃ channel, selected = .ok (some channel) ∧
      (mode.levels request group).idxOf channel.getPriority = min retry ((mode.levels request group).length - 1) := by
  dsimp only [routing] at drawn
  split
  next none =>
    unfold Cache.getRandomSatisfiedChannel at drawn
    rw [candidates_eq_nil (levels_eq_nil_iff.mp (length_eq_zero_iff.mp none))] at drawn
    cases drawn
    rfl
  next some =>
    have nonempty : mode.eligible request group ≠ [] :=
      fun none => some (length_eq_zero_iff.mpr (levels_eq_nil_iff.mpr none))
    obtain ⟨_, outcomes, _, _, onTarget, _⟩ := Cache.selects_on_level mode.compile nonempty (fits retry)
    obtain ⟨_, same, member⟩ := Random.mem_outcomes_of_result drawn
    cases outcomes.symm.trans same
    obtain ⟨channel, target, found⟩ := onTarget selected member
    refine ⟨channel, found, ?_⟩
    obtain ⟨level, atLevel, filtered, _⟩ := onLevel_ne_nil nonempty retry
    change (mode.levels request group)[min retry ((mode.levels request group).length - 1)]? = _ at atLevel
    have within : min retry ((mode.levels request group).length - 1) < (mode.levels request group).length := by omega
    have priority : channel.getPriority = level := by
      unfold eligible at filtered
      rw [filtered] at target
      exact of_decide_eq_true (mem_filter.mp target).2
    rw [getElem?_eq_getElem within] at atLevel
    rw [priority, ← Option.some.inj atLevel]
    exact levels_nodup.idxOf_getElem _ within

variable (mode request) in
def remaining (param : RetryParam) : List (Nat × Nat) :=
  tries mode.retryTimes (param.autoGroupIndex.getD 0) param.retry
    (mode.levelCounts request (request.autoGroups.drop (param.autoGroupIndex.getD 0)))

def Counting (mode : MemoryMode) (param : RetryParam) : Prop :=
  param.retry ≤ mode.retryTimes ∧ param.resetNextTry = false

variable (mode request) in
def Advances (left : List (Nat × Nat)) (after : RetryParam) (result : Except RouteError (Option Choice)) : Prop :=
  match left with
  | [] => ∀ choice, result ≠ .ok (some choice)
  | visit :: rest => ∃ choice, result = .ok (some choice) ∧ mode.visit request choice = visit ∧
      mode.Counting after.increaseRetry ∧ mode.remaining request after.increaseRetry = rest

section
variable (fits : ∀ group ∈ request.autoGroups, mode.WeightsFit request group) (cross : request.crossGroupRetry = true)
variable {drawn : Nat → Int} {param after : RetryParam} {result : Except RouteError (Option Choice)}
include fits cross

theorem selectAuto_advances {start position : Nat} {suffix : List String}
    (listed : request.autoGroups.drop position = suffix) (counting : mode.Counting param)
    (fresh : start < position → param.retry = 0)
    (called : selectAuto mode.routing drawn request start position suffix param = some (after, result)) :
    mode.Advances request (tries mode.retryTimes position param.retry (mode.levelCounts request suffix)) after result := by
  induction suffix generalizing position param with
  | nil =>
    cases called
    exact fun _ => nofun
  | cons group rest ih =>
    have member : group ∈ request.autoGroups := mem_of_mem_drop (listed ▸ mem_cons_self)
    have later : request.autoGroups.drop (position + 1) = rest := by
      rw [← drop_drop, listed]
      rfl
    have number : (if position > start then 0 else param.retry) = param.retry := by
      split
      next moved => exact (fresh moved).symm
      · rfl
    unfold selectAuto at called
    rw [number] at called
    dsimp only at called
    split at called
    · cases called
    next channel selected =>
      have level := selected_level (fits group member) selected
      have some : (mode.levels request group).length ≠ 0 := by
        intro none
        rw [if_pos none] at level
        cases level
      rw [if_neg some] at level
      obtain ⟨_, same, index⟩ := level
      cases same
      -- The last try of a group moves the request to the next group.
      by_cases last : param.retry = mode.retryTimes
      · rw [if_pos ⟨cross, Nat.le_of_eq last.symm⟩] at called
        cases called
        rw [last, levelCounts, map_cons, tries_leave some]
        refine ⟨_, rfl, ?_, ⟨Nat.zero_le _, rfl⟩, ?_⟩
        · rw [visit, index, last]
        · change tries mode.retryTimes (position + 1) 0 (mode.levelCounts request
            (request.autoGroups.drop (position + 1))) = _
          rw [later]
          rfl
      have more : param.retry < mode.retryTimes := Nat.lt_of_le_of_ne counting.1 last
      rw [if_neg fun leaves => Nat.not_le_of_lt more leaves.2] at called
      cases called
      rw [levelCounts, map_cons, tries_stay some more]
      have increased : RetryParam.increaseRetry { param with autoGroup := group, autoGroupIndex := position } =
          { param with autoGroup := group, autoGroupIndex := position, retry := param.retry + 1 } :=
        if_neg (by simp [counting.2])
      refine ⟨_, rfl, by rw [visit, index], ?_, ?_⟩
      · rw [increased]
        exact ⟨more, counting.2⟩
      · rw [increased]
        change tries mode.retryTimes position (param.retry + 1) (mode.levelCounts request
          (request.autoGroups.drop position)) = _
        rw [listed]
        rfl
    next _ unfound drawnResult =>
      have level := selected_level (fits group member) drawnResult
      have none : (mode.levels request group).length = 0 := by
        by_contra some
        rw [if_neg some] at level
        obtain ⟨channel, found, _⟩ := level
        exact unfound channel (by rw [found])
      rw [levelCounts, map_cons, none, tries_empty]
      refine ih later ?_ ?_ called
      · exact ⟨Nat.zero_le _, counting.2⟩
      · exact fun _ => rfl

theorem call_advances (auto : request.tokenGroup = "auto") (counting : mode.Counting param)
    (called : cacheGetRandomSatisfiedChannel mode.routing drawn request none param = some (after, result)) :
    mode.Advances request (mode.remaining request param) after result := by
  unfold cacheGetRandomSatisfiedChannel at called
  dsimp only at called
  rw [if_pos auto] at called
  split at called
  next none =>
    cases called
    rw [remaining, none, drop_nil]
    exact fun _ => nofun
  · exact selectAuto_advances fits cross rfl counting (fun moved => absurd moved (Nat.lt_irrefl _)) called

theorem selections_visits (auto : request.tokenGroup = "auto") {draws : List (Nat → Int)} {choices : List Choice}
    (counting : mode.Counting param) (selected : selections mode.routing request param draws = some choices) :
    choices.map (mode.visit request) = (mode.remaining request param).take draws.length := by
  induction draws generalizing param choices with
  | nil =>
    cases selected
    rfl
  | cons _ _ ih =>
    have within : param.retry ≤ mode.routing.retryTimes := counting.1
    unfold selections at selected
    rw [if_pos within] at selected
    split at selected
    · cases selected
    next _ choice called =>
      have advances := call_advances fits cross auto counting called
      cases left : mode.remaining request param with rw [left] at advances
      | nil => exact absurd rfl (advances choice)
      | cons =>
        obtain ⟨_, same, visited, continues, rfl⟩ := advances
        cases same
        obtain ⟨_, ran, rfl⟩ := map_eq_some_iff.mp selected
        rw [map_cons, ih continues ran, visited, length_cons, take_succ_cons]
    next outcome unfound called =>
      cases selected
      have advances := call_advances fits cross auto counting called
      cases left : mode.remaining request param with
      | nil => rfl
      | cons =>
        rw [left] at advances
        obtain ⟨choice, same, _⟩ := advances
        exact (unfound outcome.1 choice (Prod.ext rfl same)).elim

/-- A request goes through the priorities of the groups in order exactly where no group has fewer priorities than tries,
and no group has more that is left for another one. -/
theorem selections_in_order_iff (auto : request.tokenGroup = "auto") {draws : List (Nat → Int)} {choices : List Choice}
    (selected : selections mode.routing request {} draws = some choices) :
    let counts := mode.levelCounts request request.autoGroups
    let visits := choices.map (mode.visit request)
    let fitting := (∀ count ∈ counts, count = 0 ∨ mode.retryTimes < count) ∧
      counts.Pairwise fun count later => count = 0 ∨ later = 0 ∨ count = mode.retryTimes + 1
    (fitting → visits <+: allLevels 0 counts) ∧
      (choices.length < draws.length → (visits <+: allLevels 0 counts ↔ fitting)) := by
  have visits := selections_visits fits cross auto ⟨Nat.zero_le _, rfl⟩ selected
  have all : mode.remaining request {} = tries mode.retryTimes 0 0 (mode.levelCounts request request.autoGroups) := rfl
  rw [all] at visits
  refine ⟨fun fitting => ?_, fun ended => ?_⟩
  · rw [visits]
    have first := take_prefix draws.length (tries mode.retryTimes 0 0 (mode.levelCounts request request.autoGroups))
    exact first.trans (tries_ordered_iff.mpr fitting)
  · have length := congrArg List.length visits
    rw [length_map, length_take] at length
    rw [visits, take_of_length_le (by omega), tries_ordered_iff]

end

end MemoryMode

def twoGroups : List Channel :=
  [{ id := 1, group := "a", models := "m", priority := some 1, weight := some 1 },
    { id := 2, group := "a", models := "m", priority := some 0, weight := some 1 },
    { id := 3, group := "b", models := "m", priority := some 1, weight := some 1 },
    { id := 4, group := "b", models := "m", priority := some 0, weight := some 1 }]

def twoGroupsMode (retryTimes : Nat) : MemoryMode where
  compile _ := none
  cache := (initChannelCache twoGroups
    [⟨"a", "m", 1, true, 1, 1⟩, ⟨"a", "m", 2, true, 0, 1⟩, ⟨"b", "m", 3, true, 1, 1⟩, ⟨"b", "m", 4, true, 0, 1⟩]).get
    (by decide)
  rows := ⟨⟨twoGroups, by decide⟩, []⟩
  now := 0
  retryTimes

def twoGroupsRequest : SelectRequest := ⟨["a", "b"], true, "auto", "m", ""⟩

theorem twoGroups_fit (retryTimes : Nat) :
    ∀ group ∈ twoGroupsRequest.autoGroups, (twoGroupsMode retryTimes).WeightsFit twoGroupsRequest group := by
  -- A retry number above the last level is the last level.
  have clamped : ∀ (eligible : List Channel) (retry : Nat), onLevel eligible retry =
        onLevel eligible (min retry ((descending (eligible.map Channel.getPriority)).length - 1)) := by
    intro eligible retry
    unfold onLevel levelAt
    rw [Nat.min_assoc, Nat.min_self]
  have last : ∀ group ∈ ["a", "b"], (descending (((twoGroupsMode 0).eligible twoGroupsRequest group).map
      Channel.getPriority)).length - 1 = 1 := by decide
  have fit : ∀ group ∈ ["a", "b"], ∀ level ≤ 1,
      weightSum (effectiveWeight (onLevel ((twoGroupsMode 0).eligible twoGroupsRequest group) level))
        (onLevel ((twoGroupsMode 0).eligible twoGroupsRequest group) level) < 2 ^ 63 := by decide
  intro group member retry
  change weightSum (effectiveWeight (onLevel ((twoGroupsMode 0).eligible twoGroupsRequest group) retry))
    (onLevel ((twoGroupsMode 0).eligible twoGroupsRequest group) retry) < 2 ^ 63
  rw [clamped, last group member]
  exact fit group member _ (Nat.min_le_right _ _)

/-- With one retry each priority is tried once. -/
theorem selections_in_order_one_retry :
    ∃ choices, selections (twoGroupsMode 1).routing twoGroupsRequest {} (List.replicate 5 fun _ => 0) = some choices ∧
      choices.map ((twoGroupsMode 1).visit twoGroupsRequest) <+:
        allLevels 0 ((twoGroupsMode 1).levelCounts twoGroupsRequest ["a", "b"]) := by
  have runs : (selections (twoGroupsMode 1).routing twoGroupsRequest {} (List.replicate 5 fun _ => 0)).isSome := by decide
  obtain ⟨choices, ran⟩ := isSome_iff_exists.mp runs
  exact ⟨choices, ran, (MemoryMode.selections_in_order_iff (twoGroups_fit 1) rfl rfl ran).1 (by decide)⟩

/-- With three retries the second priority of the first group is tried three times. -/
theorem selections_repeat_level :
    ∃ choices, selections (twoGroupsMode 3).routing twoGroupsRequest {} (List.replicate 5 fun _ => 0) = some choices ∧
      choices.map ((twoGroupsMode 3).visit twoGroupsRequest) = [(0, 0), (0, 1), (0, 1), (0, 1), (1, 0)] ∧
      allLevels 0 ((twoGroupsMode 3).levelCounts twoGroupsRequest ["a", "b"]) = [(0, 0), (0, 1), (1, 0), (1, 1)] ∧
      ¬choices.map ((twoGroupsMode 3).visit twoGroupsRequest) <+:
        allLevels 0 ((twoGroupsMode 3).levelCounts twoGroupsRequest ["a", "b"]) :=
  ⟨_, rfl, by decide, by decide, by decide⟩

end FlowAPI.Relay
