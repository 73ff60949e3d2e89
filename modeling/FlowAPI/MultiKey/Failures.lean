import FlowAPI.MultiKey.Statuses
import Mathlib.Data.List.GetD
import Mathlib.Data.List.NodupEquivFin

/-! Failures of keys and the choice of the next key: `model/channel.go`.

A failure names a key by its text and is stored at the first position that has this text. The
next key is chosen by position. A key that the list repeats stays in use at its other
positions.
-/

set_option autoImplicit false
namespace FlowAPI.MultiKey
open Golang List Except

inductive KeyCall where
  | update (usingKey : String) (status : Int) (reason : String) (now : Int)
  | next (saved : Int) (drawn : Nat)

def KeyCall.enables (key : String) : KeyCall → Bool
  | .update usingKey status _ _ => decide (usingKey = key) && decide (status = channelStatusEnabled)
  | .next _ _ => false

namespace Channel

variable (parseArray : String → Option (List String))

def call (channel : Channel) : KeyCall → Channel
  | .update usingKey status reason now => channel.handlerMultiKeyUpdate parseArray usingKey status reason now
  | .next saved drawn => (channel.getNextEnabledKey parseArray saved drawn).channel

def calls (channel : Channel) (calls : List KeyCall) : Channel := calls.foldl (call parseArray) channel

/-- Once a key is disabled it is not handed out any more, as long as no call enables it. -/
def KeepsDisabledOut (channel : Channel) (key : String) : Prop :=
  ∀ (before after : List KeyCall) (status : Int) (reason : String) (now : Int), status ≠ channelStatusEnabled →
    (∀ call ∈ after, call.enables key = false) → ∀ (saved : Int) (drawn index : Nat),
      ((((channel.calls parseArray before).handlerMultiKeyUpdate parseArray key status reason now).calls parseArray
        after).getNextEnabledKey parseArray saved drawn).result ≠ .ok (key, index)

variable {parseArray}

variable {keys : List String} {index : Nat} {channel : Channel} {key : String}

theorem mem_enabledIdx {statusList : Map Nat Int} :
    index ∈ enabledIdx keys statusList ↔ index < keys.length ∧ statusAt statusList index = channelStatusEnabled := by
  simp [enabledIdx]

theorem nextFrom_spec {statusList : Map Nat Int} {start : Nat}
    (found : nextFrom keys statusList start = some index) : index ∈ enabledIdx keys statusList := by
  obtain ⟨_, listed, rfl⟩ := mem_map.mp (mem_of_find?_eq_some found)
  have enabled := find?_some found
  have nonempty := mem_range.mp listed
  exact mem_enabledIdx.mpr ⟨Nat.mod_lt _ (by omega), of_decide_eq_true enabled⟩

theorem getNextEnabledKey_spec (multi : channel.channelInfo.isMultiKey = true) {saved : Int}
    {drawn : Nat} (handed : (channel.getNextEnabledKey parseArray saved drawn).result = .ok (key, index)) :
    (channel.getKeys parseArray)[index]? = some key ∧
      statusAt channel.channelInfo.multiKeyStatusList index = channelStatusEnabled := by
  have spec : ∀ position ∈ enabledIdx (channel.getKeys parseArray) channel.channelInfo.multiKeyStatusList,
      ((channel.getKeys parseArray).getD position "", position) = (key, index) →
        (channel.getKeys parseArray)[index]? = some key ∧
          statusAt channel.channelInfo.multiKeyStatusList index = channelStatusEnabled := by
    intro position enabled same
    obtain ⟨inside, isEnabled⟩ := mem_enabledIdx.mp enabled
    cases same
    refine ⟨?_, isEnabled⟩
    rw [getD_eq_getElem?_getD, getElem?_eq_getElem inside]
    rfl
  unfold getNextEnabledKey at handed
  rw [if_neg (by simp [multi])] at handed
  dsimp only at handed
  split_ifs at handed
  split at handed
  · cases handed
  next first others listed =>
    have isFirst : first ∈ enabledIdx (channel.getKeys parseArray) channel.channelInfo.multiKeyStatusList := by
      rw [listed]
      exact mem_cons_self
    split at handed
    · refine spec _ ?_ (ok.inj handed)
      have within : drawn % (others.length + 1) < (first :: others).length := Nat.mod_lt _ (Nat.succ_pos _)
      rw [listed, getD_eq_getElem _ _ within]
      exact getElem_mem within
    · split at handed
      next position found => exact spec position (nextFrom_spec found) (ok.inj handed)
      next => exact spec first isFirst (ok.inj handed)
    · exact spec first isFirst (ok.inj handed)

theorem getNextEnabledKey_channel (parseArray : String → Option (List String)) (channel : Channel) (saved : Int) (drawn : Nat) :
    (channel.getNextEnabledKey parseArray saved drawn).channel.channelInfo.isMultiKey = channel.channelInfo.isMultiKey ∧
      (channel.getNextEnabledKey parseArray saved drawn).channel.getKeys parseArray = channel.getKeys parseArray := by
  unfold getNextEnabledKey
  split
  · exact ⟨rfl, rfl⟩
  dsimp only
  split
  · exact ⟨rfl, rfl⟩
  split
  · exact ⟨rfl, rfl⟩
  split
  · exact ⟨rfl, rfl⟩
  · split <;> exact ⟨rfl, rfl⟩
  · exact ⟨rfl, rfl⟩

theorem handlerMultiKeyUpdate_keeps (parseArray : String → Option (List String)) (channel : Channel)
    (usingKey : String) (status : Int) (reason : String) (now : Int) :
    (channel.handlerMultiKeyUpdate parseArray usingKey status reason now).getKeys parseArray =
        channel.getKeys parseArray ∧
      (channel.handlerMultiKeyUpdate parseArray usingKey status reason now).channelInfo.multiKeyMode =
        channel.channelInfo.multiKeyMode := by
  unfold handlerMultiKeyUpdate setKeyStatus
  dsimp only
  split
  · exact ⟨rfl, rfl⟩
  split
  · split_ifs <;> exact ⟨rfl, rfl⟩
  · split <;> exact ⟨rfl, rfl⟩

def HasKeys (parseArray : String → Option (List String)) (channel : Channel) (keys : List String) : Prop :=
  channel.channelInfo.isMultiKey = true ∧ channel.getKeys parseArray = keys

theorem HasKeys.call (has : channel.HasKeys parseArray keys) (call : KeyCall) :
    (channel.call parseArray call).HasKeys parseArray keys := by
  cases call with
  | update usingKey status reason now =>
    exact ⟨(handlerMultiKeyUpdate_statuses parseArray channel usingKey status reason now).1.trans has.1,
      (handlerMultiKeyUpdate_keeps parseArray channel usingKey status reason now).1.trans has.2⟩
  | next saved drawn =>
    obtain ⟨multi, same⟩ := getNextEnabledKey_channel parseArray channel saved drawn
    exact ⟨multi.trans has.1, same.trans has.2⟩

theorem HasKeys.calls (has : channel.HasKeys parseArray keys)
    (made : List KeyCall) : (channel.calls parseArray made).HasKeys parseArray keys := by
  induction made generalizing channel with
  | nil => exact has
  | cons call _ ih => exact ih (has.call call)

section
variable {keys : List String} {key : String} {position : Nat}

theorem findIdx_of_once (once : keys.count key ≤ 1) (here : keys[position]? = some key) :
    keys.findIdx? (· = key) = some position := by
  obtain ⟨inside, atPosition⟩ := List.getElem?_eq_some_iff.mp here
  refine List.findIdx?_eq_some_iff_getElem.mpr ⟨inside, decide_eq_true atPosition, fun earlier before same => ?_⟩
  -- the same text at an earlier position would make it stand twice
  have twice := duplicate_iff_two_le_count.mp (duplicate_iff_exists_distinct_get.mpr
    ⟨⟨earlier, by omega⟩, ⟨position, inside⟩, before, (of_decide_eq_true same).symm, atPosition.symm⟩)
  omega

section
variable (has : channel.HasKeys parseArray keys)
include has

section
variable (once : keys.count key ≤ 1)
include once

section
variable (here : keys[position]? = some key)
include here

theorem update_disables {status : Int} (disables : status ≠ channelStatusEnabled) (reason : String) (now : Int) :
    statusAt (channel.handlerMultiKeyUpdate parseArray key status reason now).channelInfo.multiKeyStatusList position ≠
      channelStatusEnabled := by
  rw [(handlerMultiKeyUpdate_statuses parseArray channel key status reason now).2]
  simp only [updateChanges, has.2, findIdx_of_once once here, lastStatus, foldl_cons, foldl_nil, if_true]
  exact disables

theorem call_keeps_disabled {call : KeyCall} (silent : call.enables key = false)
    (disabled : statusAt channel.channelInfo.multiKeyStatusList position ≠ channelStatusEnabled) :
    statusAt (channel.call parseArray call).channelInfo.multiKeyStatusList position ≠ channelStatusEnabled := by
  cases call with
  | next =>
    rw [Channel.call, getNextEnabledKey_statusList]
    exact disabled
  | update usingKey status reason now =>
    by_cases same : usingKey = key
    · subst same
      have disables : status ≠ channelStatusEnabled := by simpa [KeyCall.enables] using silent
      exact update_disables has once here disables reason now
    rw [Channel.call, (handlerMultiKeyUpdate_statuses parseArray channel usingKey status reason now).2]
    unfold updateChanges
    cases found : (channel.getKeys parseArray).findIdx? (· = usingKey) with
    | none => exact disabled
    | some index =>
      -- The position that the call finds has another key.
      have other : index ≠ position := by
        rintro rfl
        obtain ⟨inside, equal, _⟩ := findIdx?_eq_some_iff_getElem.mp found
        have atIndex : (channel.getKeys parseArray)[index]? = some usingKey := by
          rw [getElem?_eq_getElem inside]
          exact congrArg some (of_decide_eq_true equal)
        rw [has.2, here] at atIndex
        exact same (Option.some.inj atIndex).symm
      simp only [lastStatus, foldl_cons, foldl_nil, if_neg other]
      exact disabled

theorem calls_keep_disabled {made : List KeyCall} (silent : ∀ call ∈ made, call.enables key = false)
    (disabled : statusAt channel.channelInfo.multiKeyStatusList position ≠ channelStatusEnabled) :
    statusAt (channel.calls parseArray made).channelInfo.multiKeyStatusList position ≠ channelStatusEnabled := by
  induction made generalizing channel with
  | nil => exact disabled
  | cons call _ ih =>
    obtain ⟨first, later⟩ := forall_mem_cons.mp silent
    exact ih (has.call call) later (call_keeps_disabled has once here first disabled)

end

theorem keepsDisabledOut_of_once : channel.KeepsDisabledOut parseArray key := by
  intro before after status reason now disables silent saved drawn index handed
  have started := has.calls before
  have updated := started.call (.update key status reason now)
  obtain ⟨located, enabled⟩ := getNextEnabledKey_spec (updated.calls after).1 handed
  rw [(updated.calls after).2] at located
  exact calls_keep_disabled updated once located silent (update_disables started once located disables reason now) enabled

end

end

end

def drawing (keys : List String) : Channel :=
  { key := "keys", status := channelStatusEnabled, otherInfo := none, keys
    channelInfo := ⟨true, keys.length, .empty, .empty, .empty, 0, .random⟩ }

theorem drawing_hasKeys (parseArray : String → Option (List String)) (some : keys ≠ []) :
    (drawing keys).HasKeys parseArray keys :=
  ⟨rfl, by simp [drawing, getKeys, some]⟩

theorem exists_drawn (has : channel.HasKeys parseArray keys)
    (random : channel.channelInfo.multiKeyMode = .random) (located : keys[index]? = some key)
    (enabled : statusAt channel.channelInfo.multiKeyStatusList index = channelStatusEnabled) (saved : Int) :
    ∃ drawn, (channel.getNextEnabledKey parseArray saved drawn).result = .ok (key, index) := by
  obtain ⟨inside, _⟩ := List.getElem?_eq_some_iff.mp located
  have listed : index ∈ enabledIdx keys channel.channelInfo.multiKeyStatusList := mem_enabledIdx.mpr ⟨inside, enabled⟩
  obtain ⟨place, within, atPlace⟩ := getElem_of_mem listed
  refine ⟨place, ?_⟩
  have some : keys ≠ [] := ne_nil_of_length_pos (by omega)
  unfold getNextEnabledKey
  rw [if_neg (by simp [has.1])]
  simp only [has.2, if_neg some, random]
  cases positions : enabledIdx keys channel.channelInfo.multiKeyStatusList with
  | nil =>
    rw [positions] at listed
    cases listed
  | cons first others =>
    simp only [positions, length_cons] at within atPlace
    have drawn : (first :: others).getD (place % (others.length + 1)) first = index := by
      rw [Nat.mod_eq_of_lt within, getD_eq_getElem _ _ (by simpa using within)]
      exact atPlace
    simp only [drawn, getD_eq_getElem?_getD, located, Option.getD_some]

theorem exists_later (twice : 2 ≤ keys.count key) :
    ∃ index, keys[index]? = some key ∧ keys.findIdx? (· = key) ≠ some index := by
  obtain ⟨first, later, before, atFirst, atLater⟩ :=
    duplicate_iff_exists_distinct_get.mp (duplicate_iff_two_le_count.mpr twice)
  refine ⟨later, ?_, fun found => ?_⟩
  · rw [getElem?_eq_getElem later.isLt]
    exact congrArg some atLater.symm
  · obtain ⟨_, _, earlier⟩ := findIdx?_eq_some_iff_getElem.mp found
    exact earlier first before (decide_eq_true atFirst.symm)

/-- A disabled key stays out of use in every channel with a list of keys exactly where the list does not repeat it. -/
theorem disabled_key_out_iff (parseArray : String → Option (List String)) (keys : List String) (key : String) :
    (∀ channel : Channel, channel.HasKeys parseArray keys → channel.KeepsDisabledOut parseArray key) ↔
      keys.count key ≤ 1 := by
  constructor
  · intro out
    by_contra repeated
    obtain ⟨index, located, later⟩ := exists_later (by omega : 2 ≤ keys.count key)
    have some : keys ≠ [] := by
      rintro rfl
      cases located
    have has := drawing_hasKeys parseArray some
    have updated := has.call (.update key channelStatusAutoDisabled "" 0)
    -- The failure is stored at the first position, so the later one is still enabled.
    have enabled : statusAt ((drawing keys).handlerMultiKeyUpdate parseArray key channelStatusAutoDisabled ""
        0).channelInfo.multiKeyStatusList index = channelStatusEnabled := by
      rw [(handlerMultiKeyUpdate_statuses parseArray (drawing keys) key _ "" 0).2]
      unfold updateChanges
      rw [has.2]
      cases found : keys.findIdx? (· = key) with
      | none => rfl
      | some first =>
        have apart : first ≠ index := by
          rintro rfl
          exact later found
        simp only [lastStatus, foldl_cons, foldl_nil, if_neg apart]
        rfl
    obtain ⟨drawn, handed⟩ := exists_drawn updated
      ((handlerMultiKeyUpdate_keeps parseArray (drawing keys) key channelStatusAutoDisabled "" 0).2.trans rfl)
      located enabled 0
    exact out (drawing keys) has [] [] channelStatusAutoDisabled "" 0 (by decide) (by simp) 0 drawn index handed
  · intro once channel has
    exact keepsDisabledOut_of_once has once

/-- The second position of the key is still handed out. -/
theorem disabled_key_handed_out_again : ¬(drawing ["a", "a"]).KeepsDisabledOut (fun _ => none) "a" := by
  intro out
  refine out [] [] channelStatusAutoDisabled "invalid key" 0 (by decide) (by simp) 0 0 1 ?_
  decide

end Channel

end FlowAPI.MultiKey
