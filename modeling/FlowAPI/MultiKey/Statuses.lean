import FlowAPI.Golang.Split
import FlowAPI.MultiKey.Machine

/-! No status of a key is lost when every document is written from a copy that is up to
date.

The invariant names, for each call that holds the lock, what its write will do to the
statuses; the write then only carries that out. Calls that wait hold a copy whose keys
include those of the row, so a copy with as many keys has the same ones.
-/

set_option autoImplicit false
namespace FlowAPI.MultiKey
open Golang Semantics List Option Pool Machine Channel Job List.Sublist Nat Map

def lastStatus (sets : List (Nat × Int)) (id : Nat) (initial : Int) : Int :=
  sets.foldl (fun status set => if set.1 = id then set.2 else status) initial

theorem lastStatus_append (first second : List (Nat × Int)) (id : Nat) (initial : Int) :
    lastStatus (first ++ second) id initial = lastStatus second id (lastStatus first id initial) :=
  foldl_append

variable {ids : List Nat} {position index : Nat} {channel after : Channel} {request : MultiKeyManageRequest}

theorem lastStatus_named (distinct : ids.Nodup) {id : Nat} (found : ids[position]? = some id)
    (changes : List (Nat × Int)) (initial : Int) :
    lastStatus (named ids changes) id initial = lastStatus changes position initial := by
  induction changes generalizing initial with
  | nil => rfl
  | cons change rest ih =>
    have head : lastStatus (change :: rest) position initial =
        lastStatus rest position (if change.1 = position then change.2 else initial) := rfl
    rw [head]
    cases other : ids[change.1]? with
    | none =>
      have differs : change.1 ≠ position := by
        intro same
        rw [same, found] at other
        cases other
      have skipped : named ids (change :: rest) = named ids rest := by simp [named, other]
      rw [skipped, if_neg differs, ih]
    | some name =>
      have kept : named ids (change :: rest) = (name, change.2) :: named ids rest := by simp [named, other]
      have same : name = id ↔ change.1 = position := by
        constructor
        · rintro rfl
          exact (List.getElem?_inj (List.getElem?_eq_some_iff.mp other).1 distinct).mp (other.trans found.symm)
        · rintro rfl
          exact some.inj (other.symm.trans found)
      have after : lastStatus ((name, change.2) :: named ids rest) id initial =
          lastStatus (named ids rest) id (if name = id then change.2 else initial) := rfl
      rw [kept, after, ih]
      simp [same]

section
variable (parseArray : String → Option (List String))

def Fresh (channel : Channel) (row : Row) : Prop :=
  channel.getKeys parseArray = row.load.getKeys parseArray ∧ ∀ position < (row.load.getKeys parseArray).length,
      statusAt channel.channelInfo.multiKeyStatusList position = statusAt row.channelInfo.multiKeyStatusList position

instance (channel : Channel) (row : Row) : Decidable (Fresh parseArray channel row) :=
  inferInstanceAs (Decidable (_ ∧ _))

/-- Keys that have a line each, the first and the last not empty, and are not taken for an array. -/
def OnLines (keys : List String) : Prop :=
  keys ≠ [] ∧ (∀ key ∈ keys, '\n' ∉ key.toList) ∧ keys.head? ≠ some "" ∧ keys.getLast? ≠ some "" ∧
    (hasPrefix (trimSpace (join keys '\n')) '[' = true → parseArray (trimSpace (join keys '\n')) = none)

instance (keys : List String) : Decidable (OnLines parseArray keys) :=
  inferInstanceAs (Decidable (_ ∧ _ ∧ _ ∧ _ ∧ _))

def remainingKeys (channel : Channel) (request : MultiKeyManageRequest) : List String :=
  (manageRemaining parseArray channel request).map fun index => (channel.getKeys parseArray).getD index ""

def LeavesLines (channel : Channel) (request : MultiKeyManageRequest) : Prop :=
  request.action = .deleteKey ∨ request.action = .deleteDisabledKeys →
    OnLines parseArray (remainingKeys parseArray channel request)

instance (channel : Channel) (request : MultiKeyManageRequest) : Decidable (LeavesLines parseArray channel request) :=
  inferInstanceAs (Decidable (_ → _))

/-- Whoever takes the lock with a copy has an up-to-date one. -/
def UpToDate (state : State) : Event → Prop
  | .run index _ _ =>
    match state.jobs[index]? with
    | some (.selected copy) => Fresh parseArray copy.channel state.row
    | some (.managing request copy) => Fresh parseArray copy.channel state.row ∧ LeavesLines parseArray copy.channel request
    | _ => True
  | _ => True

instance : DecidableRel (UpToDate parseArray) := fun _ _ => by
  unfold UpToDate
  repeat' split
  all_goals infer_instance

end

theorem statusAt_set (statusList : Map Nat Int) (index : Nat) (status : Int) (position : Nat) :
    statusAt (statusList.set index status) position = if index = position then status else statusAt statusList position := by
  unfold statusAt
  rw [get?_set]
  by_cases same : position = index <;> simp [same, Ne.symm]

theorem statusAt_delete (statusList : Map Nat Int) (index position : Nat) :
    statusAt (statusList.delete index) position =
      if index = position then channelStatusEnabled else statusAt statusList position := by
  unfold statusAt
  rw [get?_delete]
  by_cases same : position = index <;> simp [same, Ne.symm]

theorem statusAt_retain {statusList : Map Nat Int} {size : Nat} (inside : position < size) :
    statusAt (statusList.retain fun index => decide (index < size)) position = statusAt statusList position := by
  unfold statusAt
  rw [get?_retain]
  simp [inside]

theorem statusAt_foldl_set (positions : List Nat) (status : Int) (statusList : Map Nat Int) (position : Nat) :
    statusAt (positions.foldl (fun statusList index => statusList.set index status) statusList) position =
      lastStatus (positions.map fun index => (index, status)) position (statusAt statusList position) := by
  induction positions generalizing statusList with
  | nil => rfl
  | cons _ _ ih =>
    rw [foldl_cons, ih, statusAt_set]
    rfl

theorem lastStatus_map (positions : List Nat) (status initial : Int) :
    lastStatus (positions.map fun index => (index, status)) position initial =
      if position ∈ positions then status else initial := by
  induction positions generalizing initial with
  | nil => rfl
  | cons index rest ih =>
    show lastStatus (rest.map _) position (if index = position then status else initial) = _
    rw [ih]
    by_cases same : index = position <;> simp [same, Ne.symm]

namespace Channel

theorem reindex_concat {V : Type} (front : List Nat) (last : Nat) (carries : Nat → Bool) (map : Map Nat V) :
    reindex (front ++ [last]) carries map = match if carries last then map.get? last else none with
      | some value => (reindex front carries map).set front.length value | none => reindex front carries map := by
  rw [reindex, zipIdx_append, foldl_append, zero_add]
  rfl

theorem get?_reindex {V : Type} (remaining : List Nat) (carries : Nat → Bool) (map : Map Nat V) (position : Nat) :
    (reindex remaining carries map).get? position =
      (remaining[position]?).bind fun index => if carries index then map.get? index else none := by
  induction remaining using reverseRecOn generalizing position with
  | nil => rfl
  | append_singleton front last ih =>
    have beyond : (reindex front carries map).get? front.length = none := by
      rw [ih, getElem?_eq_none (le_refl _)]
      rfl
    rw [reindex_concat]
    by_cases final : position = front.length
    · subst final
      rw [getElem?_concat_length, bind_some]
      cases carried : (if carries last then map.get? last else none) with
      | none => exact beyond
      | some => exact (get?_set _ _ _ _).trans (if_pos rfl)
    have same : (front ++ [last])[position]? = front[position]? := by
      by_cases inside : position < front.length
      · exact getElem?_append_left inside
      · rw [getElem?_eq_none (by simp; omega), getElem?_eq_none (by omega)]
    rw [same, ← ih]
    cases (if carries last then map.get? last else none) with
    | none => rfl
    | some => exact (get?_set _ _ _ _).trans (if_neg final)

theorem statusAt_keepKeys (channel : Channel) (keys : List String) {remaining : List Nat} (noted : Nat → Bool)
    (found : remaining[position]? = some index) :
    statusAt (channel.keepKeys keys remaining noted).channelInfo.multiKeyStatusList position =
      statusAt channel.channelInfo.multiKeyStatusList index := by
  show statusAt (reindex remaining _ _) position = _
  unfold statusAt
  rw [get?_reindex, found]
  by_cases enabled : (channel.channelInfo.multiKeyStatusList.get? index).getD channelStatusEnabled =
      channelStatusEnabled <;> simp [enabled]

variable {parseArray : String → Option (List String)}

theorem getNextEnabledKey_statusList (channel : Channel) (saved : Int) (drawn : Nat) :
    (channel.getNextEnabledKey parseArray saved drawn).channel.channelInfo.multiKeyStatusList =
      channel.channelInfo.multiKeyStatusList := by
  simp only [getNextEnabledKey]
  repeat' split
  all_goals rfl

theorem setKeyStatus_channelInfo (channel : Channel) (keys : List String) (index : Nat) (status : Int) (reason : String)
    (now : Int) :
    (channel.setKeyStatus keys index status reason now).channelInfo.isMultiKey = channel.channelInfo.isMultiKey ∧
      (channel.setKeyStatus keys index status reason now).channelInfo.multiKeyStatusList =
        if status = channelStatusEnabled then channel.channelInfo.multiKeyStatusList.delete index
        else channel.channelInfo.multiKeyStatusList.set index status := by
  unfold setKeyStatus
  by_cases enables : status = channelStatusEnabled
  · simp only [enables, if_true]
    split <;> exact ⟨rfl, rfl⟩
  · simp only [enables, if_false]
    split <;> exact ⟨rfl, rfl⟩

theorem handlerMultiKeyUpdate_statuses (parseArray : String → Option (List String)) (channel : Channel)
    (usingKey : String) (status : Int) (reason : String) (now : Int) :
    (channel.handlerMultiKeyUpdate parseArray usingKey status reason now).channelInfo.isMultiKey =
        channel.channelInfo.isMultiKey ∧ ∀ position,
        statusAt (channel.handlerMultiKeyUpdate parseArray usingKey status reason now).channelInfo.multiKeyStatusList
            position = lastStatus (updateChanges parseArray channel usingKey status) position
            (statusAt channel.channelInfo.multiKeyStatusList position) := by
  unfold handlerMultiKeyUpdate updateChanges
  by_cases none : channel.getKeys parseArray = []
  · rw [if_pos none, none]
    exact ⟨rfl, fun _ => rfl⟩
  rw [if_neg none]
  cases (channel.getKeys parseArray).findIdx? (· = usingKey) with
  | none =>
    dsimp only
    split <;> exact ⟨rfl, fun _ => rfl⟩
  | some index =>
    obtain ⟨multi, statusList⟩ :=
      setKeyStatus_channelInfo channel (channel.getKeys parseArray) index status reason now
    refine ⟨multi, fun position => ?_⟩
    show statusAt _ position = if index = position then status else _
    rw [statusList]
    split
    next enables => rw [statusAt_delete, enables]
    · exact statusAt_set _ _ _ _

theorem updateStatus_statuses {usingKey reason : String} {status now : Int}
    (updated : channel.updateStatus parseArray usingKey status reason now = some after) :
    after.channelInfo.isMultiKey = channel.channelInfo.isMultiKey ∧ (channel.channelInfo.isMultiKey = true → ∀ position,
        statusAt after.channelInfo.multiKeyStatusList position =
          lastStatus (updateChanges parseArray channel usingKey status) position
            (statusAt channel.channelInfo.multiKeyStatusList position)) := by
  obtain ⟨multi, statuses⟩ := handlerMultiKeyUpdate_statuses parseArray channel usingKey status reason now
  unfold updateStatus at updated
  split at updated
  · cases updated
  · split at updated <;> cases updated
    · split <;> exact ⟨multi, fun _ => statuses⟩
    next other => split <;> exact ⟨rfl, fun multi => absurd multi other⟩

theorem atIndex_saves {keyIndex : Option Int} {missing : String} {act : Nat → Managed}
    (saves : (channel.atIndex keyIndex missing act).saves = some after) :
    (act (keyIndex.getD 0).toNat).saves = some after := by
  unfold atIndex at saves
  cases keyIndex with
  | none => cases saves
  | some =>
    dsimp only at saves
    split at saves
    · cases saves
    · exact saves

/-- What a successful action makes of the channel: the statuses of the keys that stay,
the text of the keys, and the rest. -/
structure Effect (parseArray : String → Option (List String)) (channel : Channel) (request : MultiKeyManageRequest)
    (after : Channel) : Prop where
  statuses : ∀ {position index : Nat}, (manageRemaining parseArray channel request)[position]? = some index →
    statusAt after.channelInfo.multiKeyStatusList position =
      lastStatus (manageChanges parseArray channel request) index
        (statusAt channel.channelInfo.multiKeyStatusList index)
  key : after.key =
    if request.action = .deleteKey ∨ request.action = .deleteDisabledKeys then
      join ((manageRemaining parseArray channel request).map fun index => (channel.getKeys parseArray).getD index "") '\n'
    else channel.key
  multi : after.channelInfo.isMultiKey = channel.channelInfo.isMultiKey

theorem range_getElem? {size : Nat} (found : (range size)[position]? = some index) :
    position = index ∧ index < size := by
  obtain ⟨inside, rfl⟩ := List.getElem?_eq_some_iff.mp found
  simp at inside ⊢
  exact inside

theorem act_effect
    (saves : (channel.act parseArray request).saves = some after) : Effect parseArray channel request after := by
  obtain ⟨action, _⟩ := request
  cases action with
  | getKeyStatus | unsupported => cases saves
  | disableKey | enableKey =>
    cases atIndex_saves saves
    refine ⟨fun {position index} found => ?_, rfl, rfl⟩
    obtain ⟨rfl, _⟩ := range_getElem? found
    first
      | exact statusAt_set _ _ _ _
      | exact statusAt_delete _ _ _
  | enableAllKeys =>
    cases saves
    refine ⟨fun {position index} found => ?_, rfl, rfl⟩
    obtain ⟨rfl, inside⟩ := range_getElem? found
    exact ((lastStatus_map _ _ _).trans (if_pos (mem_range.mpr inside))).symm
  | disableAllKeys =>
    have saves : channel.disableAllKeys.saves = some after := saves
    unfold disableAllKeys at saves
    split at saves <;> cases saves
    · refine ⟨fun {position index} found => ?_, rfl, rfl⟩
      obtain ⟨rfl, _⟩ := range_getElem? found
      exact statusAt_foldl_set _ _ _ _
  | deleteKey =>
    have saves := atIndex_saves saves
    dsimp only at saves
    split at saves <;> cases saves
    · exact ⟨fun {position index} found => statusAt_keepKeys _ _ _ found, rfl, rfl⟩
  | deleteDisabledKeys =>
    have saves : (channel.deleteDisabledKeys parseArray).saves = some after := saves
    unfold deleteDisabledKeys at saves
    dsimp only at saves
    split at saves <;> cases saves
    · exact ⟨fun {position index} found => statusAt_keepKeys _ _ _ found, rfl, rfl⟩

end Channel

section
variable {parseArray : String → Option (List String)}

theorem load_getKeys (row : Row) :
    row.load.getKeys parseArray = if row.key = "" then [] else parseKeys parseArray row.key := by
  simp [getKeys, Row.load]

theorem map_getD_range {α : Type} (items : List α) (missing : α) :
    ((range items.length).map fun index => items.getD index missing) = items := by
  refine ext_getElem (by rw [length_map, length_range]) fun index inside bound => ?_
  rw [getElem_map, getElem_range, getD_eq_getElem?_getD, getElem?_eq_getElem bound]
  rfl

variable {row : Row} {job : Job}

theorem update_channelInfo (multi : channel.channelInfo.isMultiKey = true) :
    (row.update parseArray channel).channelInfo =
      trimInfo parseArray channel.channelInfo (row.update parseArray channel).key := by
  refine if_neg ?_
  intro zero
  have single := congrArg ChannelInfo.isMultiKey zero
  unfold trimInfo at single
  rw [if_pos multi] at single
  exact Bool.noConfusion (multi.symm.trans single)

theorem update_statuses (multi : channel.channelInfo.isMultiKey = true)
    (inside : position < ((row.update parseArray channel).load.getKeys parseArray).length) :
    statusAt (row.update parseArray channel).channelInfo.multiKeyStatusList position =
      statusAt channel.channelInfo.multiKeyStatusList position := by
  rw [load_getKeys] at inside
  by_cases blank : (row.update parseArray channel).key = ""
  · rw [if_pos blank] at inside
    exact absurd inside (not_lt_zero _)
  rw [if_neg blank] at inside
  have counted : countedKeys parseArray (row.update parseArray channel).key =
      parseKeys parseArray (row.update parseArray channel).key := by
    unfold countedKeys
    rw [if_neg blank]
    split
    next none =>
      rw [none] at inside
      exact absurd inside (not_lt_zero _)
    · rfl
  rw [update_channelInfo multi]
  unfold trimInfo
  rw [if_pos multi, counted]
  exact statusAt_retain inside

theorem OnLines.read_back {keys : List String} (lines : OnLines parseArray keys) :
    join keys '\n' ≠ "" ∧ parseKeys parseArray (join keys '\n') = keys := by
  obtain ⟨nonempty, apart, first, last, plain⟩ := lines
  have written : join keys '\n' ≠ "" := by
    intro blank
    obtain ⟨key, rest, rfl⟩ := exists_cons_of_ne_nil nonempty
    have chars : ['\n'].intercalate ((key :: rest).map String.toList) = [] := String.ofList_eq_empty_iff.mp blank
    have start := congrArg List.head? chars
    rw [map_cons, head?_intercalate] at start
    by_cases empty : key = ""
    · exact first (by rw [empty]; rfl)
    · simp [empty] at start
  refine ⟨written, ?_⟩
  have split := (split_trim_join_iff written).mpr ⟨nonempty, apart, first, last⟩
  unfold parseKeys
  split
  next array =>
    split_ifs at array with bracket
    rw [plain bracket] at array
    cases array
  next => exact split

theorem update_keys {copy : Row}
    (fresh : Fresh parseArray copy.load row) (lines : LeavesLines parseArray copy.load request)
    (effect : Channel.Effect parseArray copy.load request after) :
    (row.update parseArray after).load.getKeys parseArray = remainingKeys parseArray copy.load request := by
  have key : (row.update parseArray after).key = if after.key ≠ "" then after.key else row.key := rfl
  rw [load_getKeys, key, effect.key]
  by_cases deletes : request.action = .deleteKey ∨ request.action = .deleteDisabledKeys
  · obtain ⟨written, parsed⟩ := (lines deletes).read_back
    rw [remainingKeys] at written parsed
    rw [if_pos deletes, if_pos written, if_neg written, parsed, remainingKeys]
  have all : manageRemaining parseArray copy.load request = range (copy.load.getKeys parseArray).length := by
    unfold manageRemaining
    split
    next deleted => exact absurd (.inl deleted) deletes
    next deleted => exact absurd (.inr deleted) deletes
    · rfl
  rw [if_neg deletes, remainingKeys, all, map_getD_range]
  by_cases blank : copy.key = ""
  · have none : copy.load.getKeys parseArray = [] := if_pos blank
    have unset : ¬ copy.load.key ≠ "" := not_not.mpr blank
    rw [none, if_neg unset, ← load_getKeys]
    exact fresh.1.symm.trans none
  · have kept : copy.load.key ≠ "" := blank
    rw [if_pos kept, if_neg kept, load_getKeys, if_neg blank]
    rfl

variable (parseArray) in
def Ready (row : Row) (ids : List Nat) : Job → Prop
  | .selected copy => copy.ids.length = (copy.channel.getKeys parseArray).length ∧ ids.Sublist copy.ids
  | .updating _ _ _ => True
  | .managing _ copy =>
    copy.row.channelInfo.isMultiKey = true ∧ copy.ids.length = (copy.channel.getKeys parseArray).length ∧
      ids.Sublist copy.ids
  | .saving channel => ∀ position < ids.length,
      statusAt channel.channelInfo.multiKeyStatusList position = statusAt row.channelInfo.multiKeyStatusList position
  | .storing channel sets => ∀ position id, ids[position]? = some id →
      statusAt (row.saveStatusState channel).channelInfo.multiKeyStatusList position =
        lastStatus sets id (statusAt row.channelInfo.multiKeyStatusList position)
  | .rewriting channel sets remaining =>
    remaining.Sublist ids ∧ remaining.length = ((row.update parseArray channel).load.getKeys parseArray).length ∧
      ∀ position id, remaining[position]? = some id → ∃ index, ids[index]? = some id ∧
        statusAt (row.update parseArray channel).channelInfo.multiKeyStatusList position =
          lastStatus sets id (statusAt row.channelInfo.multiKeyStatusList index)

variable (parseArray) in
structure Consistent (initial : Row) (state : State) : Prop where
  counted : state.ids.length = (state.row.load.getKeys parseArray).length
  distinct : state.ids.Nodup
  statuses : ∀ position id, state.ids[position]? = some id →
    statusAt state.row.channelInfo.multiKeyStatusList position =
      lastStatus state.sets id (statusAt initial.channelInfo.multiKeyStatusList id)
  alone : state.jobs.countP holds ≤ 1
  ready : ∀ job ∈ state.jobs, Ready parseArray state.row state.ids job

theorem Ready.waits {row' : Row} {ids' : List Nat} (ready : Ready parseArray row ids job)
    (waits : job.holds = false) (fewer : ids'.Sublist ids) : Ready parseArray row' ids' job := by
  cases job with
  | selected => exact ⟨ready.1, fewer.trans ready.2⟩
  | updating => trivial
  | managing => exact ⟨ready.1, ready.2.1, fewer.trans ready.2.2⟩
  | _ => cases waits

section
variable {initial : Row} {state : State}

section
variable (consistent : Consistent parseArray initial state)
include consistent

theorem Consistent.arrive (waits : job.holds = false) (ready : Ready parseArray state.row state.ids job) :
    Consistent parseArray initial { state with jobs := state.jobs ++ [job] } where
  counted := consistent.counted
  distinct := consistent.distinct
  statuses := consistent.statuses
  alone := by
    rw [countP_append, countP_singleton, waits]
    exact consistent.alone
  ready := forall_mem_append.mpr ⟨consistent.ready, forall_mem_singleton.mpr ready⟩

theorem Consistent.proceed
    (selected : state.jobs[index]? = some job) {rest : List Job} (free : rest ≠ [] → state.jobs.any holds = false)
    (single : rest.length ≤ 1) (ready : ∀ next ∈ rest, Ready parseArray state.row state.ids next) :
    Consistent parseArray initial { state with jobs := replace state.jobs index rest } where
  counted := consistent.counted
  distinct := consistent.distinct
  statuses := consistent.statuses
  alone := by
    have count := countP_replace selected rest holds
    have few : rest.countP holds ≤ rest.length := countP_le_length
    have alone := consistent.alone
    show (replace state.jobs index rest).countP holds ≤ 1
    by_cases empty : rest = []
    · rw [empty] at count ⊢
      simp only [countP_nil] at count
      omega
    · have none : state.jobs.countP holds = 0 := countP_eq_zero.mpr (any_eq_false.mp (free empty))
      omega
  ready := forall_replace consistent.ready ready

theorem Consistent.write (selected : state.jobs[index]? = some job) (holds : job.holds = true)
    {sets : List (Nat × Int)} (fewer : ids.Sublist state.ids)
    (counted : ids.length = (row.load.getKeys parseArray).length)
    (statuses : ∀ position id, ids[position]? = some id → ∃ index, state.ids[index]? = some id ∧
      statusAt row.channelInfo.multiKeyStatusList position =
        lastStatus sets id (statusAt state.row.channelInfo.multiKeyStatusList index)) : Consistent parseArray initial
      { row, ids, sets := state.sets ++ sets, jobs := replace state.jobs index [] } where
  counted := counted
  distinct := consistent.distinct.sublist fewer
  statuses := by
    intro position id found
    obtain ⟨index, before, written⟩ := statuses position id found
    rw [lastStatus_append, ← consistent.statuses index id before]
    exact written
  alone := by
    have count := countP_replace selected [] Job.holds
    have alone := consistent.alone
    rw [holds, countP_nil] at count
    show (replace state.jobs index []).countP Job.holds ≤ 1
    omega
  ready := by
    intro other member
    have count := countP_replace selected [] Job.holds
    have alone := consistent.alone
    rw [holds, countP_nil] at count
    simp only [if_true] at count
    have none : (replace state.jobs index []).countP Job.holds = 0 := by omega
    have waits : other.holds = false := Bool.eq_false_iff.mpr (countP_eq_zero.mp none other member)
    rcases mem_of_replace member with old | new
    · exact (consistent.ready other old).waits waits fewer
    · cases new

theorem Consistent.same_ids {copy : Copy}
    (counted : copy.ids.length = (copy.channel.getKeys parseArray).length) (sublist : state.ids.Sublist copy.ids)
    (fresh : Fresh parseArray copy.channel state.row) : copy.ids = state.ids := by
  refine (sublist.eq_of_length ?_).symm
  rw [consistent.counted, counted, fresh.1]

end

theorem manageRemaining_sublist (channel : Channel) (request : MultiKeyManageRequest) :
    (manageRemaining parseArray channel request).Sublist (range (channel.getKeys parseArray).length) := by
  unfold manageRemaining
  split
  · exact filter_sublist
  · exact filter_sublist
  · exact refl _

section
variable (consistent : Consistent parseArray initial state)
include consistent

theorem Consistent.managed {copy : Copy} (ready : Ready parseArray state.row state.ids (.managing request copy))
    (fresh : Fresh parseArray copy.channel state.row) (lines : LeavesLines parseArray copy.channel request)
    (saves : (copy.channel.act parseArray request).saves = some after) : Ready parseArray state.row state.ids
      (.rewriting after (named copy.ids (manageChanges parseArray copy.channel request))
        ((manageRemaining parseArray copy.channel request).map fun index => copy.ids.getD index 0)) := by
  obtain ⟨multi, counted, sublist⟩ := ready
  have effect := act_effect saves
  have keys := update_keys fresh lines effect
  have remaining : (manageRemaining parseArray copy.channel request).Sublist
      (range (copy.channel.getKeys parseArray).length) := manageRemaining_sublist copy.channel request
  rw [consistent.same_ids counted sublist fresh]
  have size : (copy.channel.getKeys parseArray).length = state.ids.length := by rw [fresh.1, consistent.counted]
  refine ⟨?_, ?_, fun position id found => ?_⟩
  · have moved := remaining.map fun index => state.ids.getD index 0
    rw [size, map_getD_range] at moved
    exact moved
  · rw [keys, remainingKeys, length_map, length_map]
    rfl
  · rw [List.getElem?_map, map_eq_some_iff] at found
    obtain ⟨index, at_, rfl⟩ := found
    have inside : index < state.ids.length := by
      rw [← size, ← mem_range]
      exact remaining.subset (mem_of_getElem? at_)
    have named_ : state.ids[index]? = some (state.ids.getD index 0) := by
      rw [getD_eq_getElem?_getD, List.getElem?_eq_getElem inside]
      rfl
    refine ⟨index, named_, ?_⟩
    have within : position < ((state.row.update parseArray after).load.getKeys parseArray).length := by
      rw [keys, remainingKeys, length_map]
      exact (List.getElem?_eq_some_iff.mp at_).1
    rw [update_statuses (effect.multi.trans multi) within, effect.statuses at_, lastStatus_named consistent.distinct named_,
      fresh.2 index (by rw [← consistent.counted]; exact inside)]

theorem Consistent.advance {drawn : Nat} {now : Int}
    {after : State} {rest : List Job} (selected : state.jobs[index]? = some job)
    (upToDate : UpToDate parseArray state (.run index now drawn))
    (advanced : job.advance parseArray state now drawn = some (after, rest)) :
    Consistent parseArray initial { after with jobs := replace state.jobs index rest } := by
  have ready := consistent.ready job (mem_of_getElem? selected)
  have ended : Consistent parseArray initial { state with jobs := replace state.jobs index [] } :=
    consistent.proceed selected (fun absurd => (absurd rfl).elim) (zero_le 1) (forall_mem_nil _)
  simp only [UpToDate, selected] at upToDate
  cases job with simp only [advance] at advanced
  | selected =>
    split at advanced
    · cases advanced
      exact ended
    · split at advanced <;> cases advanced
      next free =>
        refine consistent.proceed selected (fun _ => Bool.eq_false_iff.mpr free) ?_ fun next member => ?_
        · split
          · exact le_refl 1
          · exact zero_le 1
        · split at member
          · rw [mem_singleton.mp member]
            intro position inside
            rw [getNextEnabledKey_statusList]
            exact upToDate.2 position (consistent.counted ▸ inside)
          · cases member
  | updating =>
    split_ifs at advanced with free
    split at advanced <;> cases advanced
    · exact ended
    next channel updated =>
      obtain ⟨multi, statuses⟩ := updateStatus_statuses updated
      refine consistent.proceed selected (fun _ => Bool.eq_false_iff.mpr free) (le_refl 1)
        (forall_mem_singleton.mpr fun position id found => ?_)
      rw [lastStatus_named consistent.distinct found]
      unfold Row.saveStatusState
      split
      next isMulti => exact statuses (multi ▸ isMulti) position
      · rfl
  | managing =>
    split_ifs at advanced with free
    split at advanced <;> cases advanced
    · exact ended
    next channel saves =>
      exact consistent.proceed selected (fun _ => Bool.eq_false_iff.mpr free) (le_refl 1)
        (forall_mem_singleton.mpr (consistent.managed ready upToDate.1 upToDate.2 saves))
  | saving channel =>
    cases advanced
    have kept : Consistent parseArray initial
        { row := state.row.saveChannelInfo channel, ids := state.ids, sets := state.sets ++ []
          jobs := replace state.jobs index [] } :=
      consistent.write selected rfl (refl _) consistent.counted fun position id found =>
        ⟨position, found, ready position (List.getElem?_eq_some_iff.mp found).1⟩
    rwa [append_nil] at kept
  | storing =>
    cases advanced
    exact consistent.write selected rfl (refl _) consistent.counted fun position id found =>
      ⟨position, found, ready position id found⟩
  | rewriting =>
    cases advanced
    exact consistent.write selected rfl ready.1 ready.2.1 ready.2.2

theorem Consistent.step {event : Event} {next : State}
    (upToDate : UpToDate parseArray state event) (stepped : MultiKey.step parseArray state event = some next) :
    Consistent parseArray initial next := by
  cases event with
  | select =>
    cases stepped
    exact consistent.arrive rfl ⟨consistent.counted, refl _⟩
  | updateChannelStatus =>
    cases stepped
    exact consistent.arrive rfl trivial
  | manageMultiKeys =>
    simp only [MultiKey.step] at stepped
    split at stepped <;> cases stepped
    · exact consistent
    next accepted =>
      refine consistent.arrive rfl ⟨?_, consistent.counted, refl _⟩
      unfold refusal at accepted
      split_ifs at accepted with multi
      exact Bool.not_eq_false _ |>.mp multi
  | run =>
    simp only [MultiKey.step, bind_eq_some_iff, map_eq_some_iff] at stepped
    obtain ⟨_, selected, ⟨_, _⟩, advanced, rfl⟩ := stepped
    exact consistent.advance selected upToDate advanced

end

end

/-- Where whoever takes the lock has an up-to-date copy, the status of every key in the
row is the one that the last completed call has set for it, or the first one. -/
theorem key_statuses_kept {initial : Row} {events : List Event} {final : State}
    (run : (machine parseArray).Runs (UpToDate parseArray) (.opened parseArray initial) events final) :
    final.ids.length = (final.row.load.getKeys parseArray).length ∧ final.ids.Nodup ∧
      ∀ position id, final.ids[position]? = some id → statusAt final.row.channelInfo.multiKeyStatusList position =
          lastStatus final.sets id (statusAt initial.channelInfo.multiKeyStatusList id) := by
  have consistent : Consistent parseArray initial final := by
    refine run.invariant (Consistent parseArray initial)
      (fun state event next kept upToDate stepped => kept.step upToDate stepped) ?_
    refine ⟨length_range, nodup_range, fun position id found => ?_, zero_le 1, fun job member => ?_⟩
    · obtain ⟨rfl, _⟩ := range_getElem? found
      rfl
    · cases member
  exact ⟨consistent.counted, consistent.distinct, consistent.statuses⟩

end

def threeKeys : Row :=
  { key := "a\nb\nc", status := channelStatusEnabled, otherInfo := none
    channelInfo := ⟨true, 3, .empty, .empty, .empty, 0, .polling⟩ }

def undisturbed : List Event :=
  [.select, .run 0 0 0, .run 0 0 0,
    .updateChannelStatus "a" channelStatusAutoDisabled "rejected", .run 0 7 0, .run 0 7 0,
    .manageMultiKeys ⟨.disableKey, some 2⟩ true, .run 0 0 0, .run 0 0 0,
    .manageMultiKeys ⟨.deleteDisabledKeys, none⟩ true, .run 0 0 0, .run 0 0 0]

theorem key_statuses_kept_undisturbed :
    ∃ final, (machine fun _ => none).Runs (UpToDate fun _ => none) (.opened (fun _ => none) threeKeys) undisturbed final ∧
      final.jobs = [] ∧ final.row.key = "b\nc" ∧ final.ids = [1, 2] ∧
      statusAt final.row.channelInfo.multiKeyStatusList 1 = channelStatusManuallyDisabled := by
  have summary : ((machine fun _ => none).exec (UpToDate fun _ => none) (.opened (fun _ => none) threeKeys)
      undisturbed).map (fun final => (final.jobs, final.row.key, final.ids, final.sets)) =
        some ([], "b\nc", [1, 2], [(0, 3), (2, 2)]) := by decide +kernel
  obtain ⟨final, executed, seen⟩ := map_eq_some_iff.mp summary
  obtain ⟨jobs, key, ids, sets⟩ : final.jobs = [] ∧ final.row.key = "b\nc" ∧ final.ids = [1, 2] ∧
      final.sets = [(0, 3), (2, 2)] := by simpa using seen
  have run := runs_iff_exec.mpr executed
  refine ⟨final, run, jobs, key, ids, ?_⟩
  rw [(key_statuses_kept run).2.2 1 2 (by rw [ids]; rfl), sets]
  rfl

/-- A selection reads the channel, a key is disabled, and only then does the selection
save the polling position: with it goes the document it has read. -/
def overtaken : List Event :=
  [.select, .updateChannelStatus "a" channelStatusAutoDisabled "rejected", .run 1 7 0, .run 1 7 0, .run 0 0 0, .run 0 0 0]

theorem polling_save_loses_status :
    ∃ final, (machine fun _ => none).Runs unrestricted (.opened (fun _ => none) threeKeys) overtaken final ∧
      final.jobs = [] ∧ final.ids = [0, 1, 2] ∧ final.sets = [(0, channelStatusAutoDisabled)] ∧
      statusAt final.row.channelInfo.multiKeyStatusList 0 = channelStatusEnabled := by
  have summary : ((machine fun _ => none).exec unrestricted (.opened (fun _ => none) threeKeys)
      overtaken).map (fun final =>
        (final.jobs, final.ids, final.sets, statusAt final.row.channelInfo.multiKeyStatusList 0)) =
        some ([], [0, 1, 2], [(0, channelStatusAutoDisabled)], channelStatusEnabled) := by decide +kernel
  obtain ⟨final, executed, seen⟩ := map_eq_some_iff.mp summary
  exact ⟨final, runs_iff_exec.mpr executed, by simpa using seen⟩

end FlowAPI.MultiKey
