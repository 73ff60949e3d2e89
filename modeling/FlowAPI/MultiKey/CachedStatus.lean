import FlowAPI.MultiKey.Failures
import FlowAPI.Semantics.Throughout

/-! `UpdateChannelStatus` with the memory cache: `model/channel.go`.

One call changes the cached channel and then the row, each by a branch of its own. The branch of the
row ends early where the channel has the status asked for already. For a channel with
several keys the branch of the cache does not.
-/

set_option autoImplicit false
namespace FlowAPI.MultiKey
open Golang Semantics Option Channel Row Map

structure Mirrored where
  cached : Channel
  row : Row

structure StatusCall where
  usingKey : String
  status : Int
  reason : String
  (cachedNow rowNow : Int)

section
variable (parseArray : String → Option (List String))

/-- `InitChannelCache` for one row. -/
def Row.cache (row : Row) : Channel :=
  if row.channelInfo.isMultiKey then { row.load with keys := row.load.getKeys parseArray } else row.load

namespace Channel

/-- The branch of the cache, and whether the call goes on to the row. `CacheUpdateChannelStatus` sets the status that
the channel has by then. -/
def updateCached (cached : Channel) (call : StatusCall) : Channel × Bool :=
  if cached.channelInfo.isMultiKey then
    let updated := cached.handlerMultiKeyUpdate parseArray call.usingKey call.status call.reason call.cachedNow
    (if call.status ≠ channelStatusAutoDisabled then updated.clearAutoBan else updated, true)
  else
    let cleared := if call.status ≠ channelStatusAutoDisabled then cached.clearAutoBan else cached
    if cleared.status = call.status then (cleared, false) else ({ cleared with status := call.status }, true)

end Channel

namespace Mirrored

def updateChannelStatus (mirrored : Mirrored) (call : StatusCall) : Mirrored :=
  let (cached, goesOn) := mirrored.cached.updateCached parseArray call
  if goesOn then
    match mirrored.row.load.updateStatus parseArray call.usingKey call.status call.reason call.rowNow with
    | some channel => ⟨cached, mirrored.row.saveStatusState channel⟩
    | none => ⟨cached, mirrored.row⟩
  else ⟨cached, mirrored.row⟩

end Mirrored

end

structure Channel.SameStatuses (left right : Channel) : Prop where
  status : left.status = right.status
  statusList : ∀ index,
    left.channelInfo.multiKeyStatusList.get? index = right.channelInfo.multiKeyStatusList.get? index
  reasons : ∀ index,
    left.channelInfo.multiKeyDisabledReason.get? index = right.channelInfo.multiKeyDisabledReason.get? index

variable {left right : Channel}

theorem Channel.SameStatuses.symm (same : left.SameStatuses right) : right.SameStatuses left :=
  ⟨same.status.symm, fun index => (same.statusList index).symm, fun index => (same.reasons index).symm⟩

theorem Channel.SameStatuses.trans {middle : Channel} (first : left.SameStatuses middle)
    (second : middle.SameStatuses right) : left.SameStatuses right :=
  ⟨first.status.trans second.status, fun index => (first.statusList index).trans (second.statusList index),
    fun index => (first.reasons index).trans (second.reasons index)⟩

namespace Mirrored

def Agrees (mirrored : Mirrored) : Prop := mirrored.cached.SameStatuses mirrored.row.load

section
variable (parseArray : String → Option (List String))

/-- A call for the status that a channel with several keys has already would not change its row either. -/
def Harmless (row : Row) (call : StatusCall) : Prop :=
  row.channelInfo.isMultiKey = true → row.status = call.status →
    (row.load.handlerMultiKeyUpdate parseArray call.usingKey call.status call.reason call.rowNow).SameStatuses row.load

structure Consistent (mirrored : Mirrored) : Prop where
  agrees : mirrored.Agrees
  multi : mirrored.cached.channelInfo.isMultiKey = mirrored.row.channelInfo.isMultiKey
  keys : mirrored.cached.getKeys parseArray = mirrored.row.load.getKeys parseArray

end

end Mirrored

section
variable {parseArray : String → Option (List String)}

theorem Row.cache_consistent (row : Row) : (Mirrored.mk (row.cache parseArray) row).Consistent parseArray := by
  have keys : (row.cache parseArray).getKeys parseArray = row.load.getKeys parseArray := by
    unfold cache
    split
    · simp only [getKeys, load]
      by_cases blank : row.key = ""
      · simp [blank]
      · simp only [blank, if_false, ne_eq, not_true_eq_false]
        split <;> rfl
    · rfl
  refine ⟨⟨?_, ?_, ?_⟩, ?_, keys⟩ <;> unfold cache <;> split <;> first | rfl | exact fun _ => rfl

namespace Channel

theorem clearAutoBan_same (channel : Channel) : channel.clearAutoBan.SameStatuses channel :=
  ⟨rfl, fun _ => rfl, fun _ => rfl⟩

theorem hasEnabledMultiKey_congr {keys : List String} {left right : Map Nat Int}
    (same : ∀ index, left.get? index = right.get? index) :
    hasEnabledMultiKey keys left = hasEnabledMultiKey keys right := by
  unfold hasEnabledMultiKey statusAt
  simp [same]

theorem SameStatuses.setKeyStatus (same : left.SameStatuses right) (keys : List String)
    (index : Nat) (status : Int) (reason : String) (leftNow rightNow : Int) :
    (left.setKeyStatus keys index status reason leftNow).SameStatuses
      (right.setKeyStatus keys index status reason rightNow) := by
  unfold Channel.setKeyStatus
  by_cases enables : status = channelStatusEnabled
  · have lists : ∀ position, (left.channelInfo.multiKeyStatusList.delete index).get? position =
        (right.channelInfo.multiKeyStatusList.delete index).get? position := by
      intro position
      rw [get?_delete, get?_delete, same.statusList]
    simp only [enables, if_true, hasEnabledMultiKey_congr lists]
    split
    · exact ⟨rfl, lists, same.reasons⟩
    · exact ⟨rfl, lists, same.reasons⟩
  have lists : ∀ position, (left.channelInfo.multiKeyStatusList.set index status).get? position =
      (right.channelInfo.multiKeyStatusList.set index status).get? position := by
    intro position
    rw [get?_set, get?_set, same.statusList]
  have reasons : ∀ position, (left.channelInfo.multiKeyDisabledReason.set index reason).get? position =
      (right.channelInfo.multiKeyDisabledReason.set index reason).get? position := by
    intro position
    rw [get?_set, get?_set, same.reasons]
  simp only [enables, if_false, hasEnabledMultiKey_congr lists]
  split
  · exact ⟨rfl, lists, reasons⟩
  · exact ⟨same.status, lists, reasons⟩

theorem SameStatuses.handlerMultiKeyUpdate (same : left.SameStatuses right)
    (keys : left.getKeys parseArray = right.getKeys parseArray) (usingKey : String) (status : Int) (reason : String)
    (leftNow rightNow : Int) : (left.handlerMultiKeyUpdate parseArray usingKey status reason leftNow).SameStatuses
      (right.handlerMultiKeyUpdate parseArray usingKey status reason rightNow) := by
  unfold Channel.handlerMultiKeyUpdate
  simp only [keys]
  split
  · exact ⟨rfl, same.statusList, same.reasons⟩
  split
  · exact same.setKeyStatus _ _ _ _ _ _
  · split
    · exact same
    · exact ⟨rfl, same.statusList, same.reasons⟩

variable (parseArray : String → Option (List String))

theorem updateCached_multi {cached : Channel} (multi : cached.channelInfo.isMultiKey = true) (call : StatusCall) :
    (cached.updateCached parseArray call).2 = true ∧ (cached.updateCached parseArray call).1.SameStatuses
        (cached.handlerMultiKeyUpdate parseArray call.usingKey call.status call.reason call.cachedNow) := by
  unfold updateCached
  rw [if_pos multi]
  refine ⟨rfl, ?_⟩
  split
  · exact clearAutoBan_same _
  · exact ⟨rfl, fun _ => rfl, fun _ => rfl⟩

theorem updateCached_single {cached : Channel} (single : cached.channelInfo.isMultiKey = false) (call : StatusCall) :
    (cached.updateCached parseArray call).2 = decide (cached.status ≠ call.status) ∧
      (cached.updateCached parseArray call).1.SameStatuses { cached with status := call.status } := by
  have cleared : ∀ channel : Channel, channel.SameStatuses cached →
      (if channel.status = call.status then (channel, false) else ({ channel with status := call.status }, true)).2 =
          decide (cached.status ≠ call.status) ∧
        (if channel.status = call.status then (channel, false)
          else ({ channel with status := call.status }, true)).1.SameStatuses
            { cached with status := call.status } := by
    intro channel same
    by_cases already : channel.status = call.status
    · rw [if_pos already]
      exact ⟨by simp [← same.status, already], already, same.statusList, same.reasons⟩
    · rw [if_neg already]
      exact ⟨by simp [← same.status, already], rfl, same.statusList, same.reasons⟩
  unfold updateCached
  rw [if_neg (by simp [single])]
  refine cleared _ ?_
  split
  · exact clearAutoBan_same cached
  · exact ⟨rfl, fun _ => rfl, fun _ => rfl⟩

theorem updateCached_keeps (cached : Channel) (call : StatusCall) :
    (cached.updateCached parseArray call).1.channelInfo.isMultiKey = cached.channelInfo.isMultiKey ∧
      (cached.updateCached parseArray call).1.getKeys parseArray = cached.getKeys parseArray := by
  unfold updateCached
  split
  · have multi :=
      (handlerMultiKeyUpdate_statuses parseArray cached call.usingKey call.status call.reason call.cachedNow).1
    have keys :=
      (handlerMultiKeyUpdate_keeps parseArray cached call.usingKey call.status call.reason call.cachedNow).1
    split <;> exact ⟨multi, keys⟩
  · dsimp only
    split <;> split <;> exact ⟨rfl, rfl⟩

end Channel

theorem Row.saveStatusState_multi (row : Row) (channel : Channel) (multi : channel.channelInfo.isMultiKey = true) :
    (row.saveStatusState channel).load.SameStatuses channel := by
  refine ⟨rfl, fun index => ?_, fun index => ?_⟩ <;> simp [saveStatusState, load, multi]

theorem Row.saveStatusState_single (row : Row) (channel : Channel) (single : channel.channelInfo.isMultiKey = false) :
    (row.saveStatusState channel).load.SameStatuses { row.load with status := channel.status } := by
  refine ⟨rfl, fun index => ?_, fun index => ?_⟩ <;> simp [saveStatusState, load, single]

namespace Mirrored

variable {mirrored : Mirrored} {call : StatusCall}

theorem cached_updateChannelStatus (mirrored : Mirrored) (call : StatusCall) :
    (mirrored.updateChannelStatus parseArray call).cached = (mirrored.cached.updateCached parseArray call).1 := by
  unfold updateChannelStatus
  dsimp only
  split
  · split <;> rfl
  · rfl

section
variable (goesOn : (mirrored.cached.updateCached parseArray call).2 = true)
include goesOn

theorem row_updateChannelStatus : (mirrored.updateChannelStatus parseArray call).row =
      ((mirrored.row.load.updateStatus parseArray call.usingKey call.status call.reason call.rowNow).map
        mirrored.row.saveStatusState).getD mirrored.row := by
  unfold updateChannelStatus
  dsimp only
  rw [if_pos goesOn]
  split
  next updated => rw [updated]; rfl
  next unchanged => rw [unchanged]; rfl

variable (changes : mirrored.row.status ≠ call.status)
include changes

theorem row_multi (multi : mirrored.row.channelInfo.isMultiKey = true) :
    (mirrored.updateChannelStatus parseArray call).row.load.SameStatuses
      (mirrored.row.load.handlerMultiKeyUpdate parseArray call.usingKey call.status call.reason call.rowNow) := by
  have differs : mirrored.row.load.status ≠ call.status := changes
  have several : mirrored.row.load.channelInfo.isMultiKey = true := multi
  have stays :=
    (handlerMultiKeyUpdate_statuses parseArray mirrored.row.load call.usingKey call.status call.reason call.rowNow).1
  rw [row_updateChannelStatus goesOn, updateStatus, if_neg differs, if_pos several, map_some, getD_some]
  split
  · exact (saveStatusState_multi _ (clearAutoBan _) (stays.trans several)).trans (clearAutoBan_same _)
  · exact saveStatusState_multi _ _ (stays.trans several)

theorem row_single (single : mirrored.row.channelInfo.isMultiKey = false) :
    (mirrored.updateChannelStatus parseArray call).row.load.SameStatuses
      { mirrored.row.load with status := call.status } := by
  have differs : mirrored.row.load.status ≠ call.status := changes
  have one : ¬mirrored.row.load.channelInfo.isMultiKey = true := by simp [load, single]
  rw [row_updateChannelStatus goesOn, updateStatus, if_neg differs, if_neg one, map_some, getD_some]
  split
  · exact saveStatusState_single _ _ single
  · exact saveStatusState_single _ _ single

end

theorem Consistent.agrees_single (consistent : mirrored.Consistent parseArray) (call : StatusCall)
    (single : mirrored.row.channelInfo.isMultiKey = false) : (mirrored.updateChannelStatus parseArray call).Agrees := by
  have same := consistent.agrees
  obtain ⟨goes, cached⟩ := updateCached_single parseArray (consistent.multi.trans single) call
  have target : Channel.SameStatuses { mirrored.cached with status := call.status }
      { mirrored.row.load with status := call.status } := ⟨rfl, same.statusList, same.reasons⟩
  rw [Agrees, cached_updateChannelStatus]
  refine (cached.trans target).trans ?_
  by_cases already : mirrored.cached.status = call.status
  · have stops : (mirrored.cached.updateCached parseArray call).2 = false := by simp [goes, already]
    have unchanged : (mirrored.updateChannelStatus parseArray call).row = mirrored.row := by
      simp [updateChannelStatus, stops]
    rw [unchanged]
    exact ⟨already.symm.trans same.status, fun _ => rfl, fun _ => rfl⟩
  · have goesOn : (mirrored.cached.updateCached parseArray call).2 = true := by simp [goes, already]
    have changes : mirrored.row.status ≠ call.status := fun equal => already (same.status.trans equal)
    exact (row_single goesOn changes single).symm

theorem Consistent.agrees_iff (consistent : mirrored.Consistent parseArray) (call : StatusCall) :
    (mirrored.updateChannelStatus parseArray call).Agrees ↔ Harmless parseArray mirrored.row call := by
  cases several : mirrored.row.channelInfo.isMultiKey with
  | false =>
    have vacuous : Harmless parseArray mirrored.row call := by
      intro multi
      rw [several] at multi
      cases multi
    exact iff_of_true (consistent.agrees_single call several) vacuous
  | true =>
    obtain ⟨goesOn, cached⟩ := updateCached_multi parseArray (consistent.multi.trans several) call
    have both := consistent.agrees.handlerMultiKeyUpdate consistent.keys call.usingKey call.status call.reason
      call.cachedNow call.rowNow
    have toRow := cached.trans both
    rw [Agrees, cached_updateChannelStatus]
    by_cases already : mirrored.row.status = call.status
    · have unchanged : (mirrored.updateChannelStatus parseArray call).row = mirrored.row := by
        have equal : mirrored.row.load.status = call.status := already
        rw [row_updateChannelStatus goesOn, updateStatus, if_pos equal]
        rfl
      rw [unchanged]
      constructor
      · intro agrees _ _
        exact toRow.symm.trans agrees
      · intro harmless
        exact toRow.trans (harmless several already)
    · exact iff_of_true (toRow.trans (row_multi goesOn already several).symm) fun _ equal => absurd equal already

theorem row_keeps (parseArray : String → Option (List String)) (mirrored : Mirrored) (call : StatusCall) :
    (mirrored.updateChannelStatus parseArray call).row.channelInfo.isMultiKey = mirrored.row.channelInfo.isMultiKey ∧
      (mirrored.updateChannelStatus parseArray call).row.load.getKeys parseArray =
        mirrored.row.load.getKeys parseArray := by
  unfold updateChannelStatus
  dsimp only
  split
  · split
    next channel updated =>
      refine ⟨?_, rfl⟩
      have stays := (updateStatus_statuses updated).1
      show (if channel.channelInfo.isMultiKey then channel.channelInfo else mirrored.row.channelInfo).isMultiKey = _
      split
      · exact stays
      · rfl
    · exact ⟨rfl, rfl⟩
  · exact ⟨rfl, rfl⟩

theorem Consistent.step (consistent : mirrored.Consistent parseArray)
    (agrees : (mirrored.updateChannelStatus parseArray call).Agrees) :
    (mirrored.updateChannelStatus parseArray call).Consistent parseArray := by
  obtain ⟨cachedMulti, cachedKeys⟩ := updateCached_keeps parseArray mirrored.cached call
  obtain ⟨rowMulti, rowKeys⟩ := row_keeps parseArray mirrored call
  refine ⟨agrees, ?_, ?_⟩
  · rw [cached_updateChannelStatus, cachedMulti, consistent.multi, rowMulti]
  · rw [cached_updateChannelStatus, cachedKeys, consistent.keys, rowKeys]

/-- Through any calls the cache agrees with the row exactly where each call is harmless when it is made. -/
theorem agrees_throughout_iff {mirrored : Mirrored} (consistent : mirrored.Consistent parseArray)
    (calls : List StatusCall) :
    AfterEach (updateChannelStatus parseArray) Agrees mirrored calls ↔
      BeforeEach (updateChannelStatus parseArray) (fun state call => Harmless parseArray state.row call) mirrored calls :=
  afterEach_iff_beforeEach (fun _ call consistent => consistent.agrees_iff call)
    (fun _ _ consistent agrees => consistent.step agrees) consistent calls

end Mirrored

end

def twoKeys : Row :=
  { key := "a\nb", status := channelStatusEnabled, otherInfo := none
    channelInfo := ⟨true, 2, .empty, .empty, .empty, 0, .random⟩ }

def twoKeysCached : Mirrored := ⟨twoKeys.cache fun _ => none, twoKeys⟩

def failAndRecover : List StatusCall :=
  [⟨"a", channelStatusAutoDisabled, "failed", 1, 1⟩, ⟨"b", channelStatusAutoDisabled, "failed", 2, 2⟩,
    ⟨"a", channelStatusEnabled, "", 3, 3⟩]

theorem agrees_throughout_failures :
    AfterEach (Mirrored.updateChannelStatus fun _ => none) Mirrored.Agrees twoKeysCached failAndRecover := by
  refine (Mirrored.agrees_throughout_iff (cache_consistent twoKeys) failAndRecover).mpr ⟨?_, ?_, ?_, trivial⟩
  · intro _ already
    exact absurd already (by decide)
  · intro _ already
    exact absurd already (by decide)
  · intro _ already
    exact absurd already (by decide)

/-- One key fails and works again while the other one keeps the channel enabled. The row still has the failure. -/
theorem recovered_key_differs : ¬AfterEach (Mirrored.updateChannelStatus fun _ => none) Mirrored.Agrees twoKeysCached
      [⟨"a", channelStatusAutoDisabled, "failed", 1, 1⟩, ⟨"a", channelStatusEnabled, "", 2, 2⟩] := by
  rintro ⟨_, recovered, _⟩
  have differs := recovered.statusList 0
  revert differs
  decide

end FlowAPI.MultiKey
