import FlowAPI.MultiKey.Statuses

/-! The keys that the two delete actions of `ManageMultiKeys` leave, as they are read back from the row. -/

set_option autoImplicit false
namespace FlowAPI.MultiKey
open Golang Channel
variable {parseArray : String → Option (List String)} {row : Row} {request : MultiKeyManageRequest} {after : Channel}

/-- Time and reason go with every key, except that deleting the disabled keys drops those of enabled ones. -/
theorem delete_saves (deletes : request.action = .deleteKey ∨ request.action = .deleteDisabledKeys)
    (saves : (row.load.act parseArray request).saves = some after) :
    ∃ noted : Nat → Bool, after = row.load.keepKeys (row.load.getKeys parseArray)
        (manageRemaining parseArray row.load request) noted ∧
      ∀ index, noted index = false ↔ request.action = .deleteDisabledKeys ∧
        statusAt row.channelInfo.multiKeyStatusList index = channelStatusEnabled := by
  obtain ⟨action, keyIndex⟩ := request
  obtain rfl | rfl := deletes
  · have saves := atIndex_saves saves
    dsimp only at saves
    split at saves <;> cases saves
    exact ⟨fun _ => true, rfl, fun _ => by simp⟩
  · have saves : (row.load.deleteDisabledKeys parseArray).saves = some after := saves
    unfold deleteDisabledKeys at saves
    dsimp only at saves
    split at saves <;> cases saves
    refine ⟨_, rfl, fun index => ?_⟩
    rw [decide_eq_false_iff_not, not_not]
    exact (and_iff_right rfl).symm

theorem trimInfo_notes (info : ChannelInfo) (key : String) :
    (trimInfo parseArray info key).multiKeyDisabledTime = info.multiKeyDisabledTime ∧
      (trimInfo parseArray info key).multiKeyDisabledReason = info.multiKeyDisabledReason := by
  unfold trimInfo
  split <;> exact ⟨rfl, rfl⟩

variable (parseArray) in
/-- The update trims the statuses to the number of keys, not the times and reasons. -/
theorem update_notes (multi : row.channelInfo.isMultiKey = true) (noted : Nat → Bool) {remaining : List Nat}
    {position index : Nat} (found : remaining[position]? = some index) :
    let info := (row.update parseArray (row.load.keepKeys (row.load.getKeys parseArray) remaining noted)).channelInfo
    info.multiKeyDisabledTime.get? position =
        (if noted index then row.channelInfo.multiKeyDisabledTime.get? index else none) ∧
      info.multiKeyDisabledReason.get? position =
        if noted index then row.channelInfo.multiKeyDisabledReason.get? index else none := by
  dsimp only
  rw [update_channelInfo multi, (trimInfo_notes _ _).1, (trimInfo_notes _ _).2]
  refine ⟨(get?_reindex _ _ _ _).trans ?_, (get?_reindex _ _ _ _).trans ?_⟩
  · rw [found]
    rfl
  · rw [found]
    rfl

section
variable (shorter : ∀ text keys, parseArray text = some keys → (join keys '\n').length < text.length)
include shorter

theorem onLines_of_read_back {keys : List String} (written : join keys '\n' ≠ "")
    (read : parseKeys parseArray (join keys '\n') = keys) : OnLines parseArray keys := by
  have trimmed : (trimSpace (join keys '\n')).length ≤ (join keys '\n').length := by
    rw [trimSpace, String.length_ofList, ← String.length_toList]
    exact List.rdropWhile_prefix _ _ |>.length_le.trans (List.dropWhile_suffix _).length_le
  unfold parseKeys at read
  split at read
  next parsed array =>
    split_ifs at array
    have less := shorter _ _ array
    rw [read] at less
    omega
  next plain =>
    obtain ⟨nonempty, apart, first, last⟩ := (split_trim_join_iff written).mp read
    have unparsed (bracket : hasPrefix (trimSpace (join keys '\n')) '[' = true) :
        parseArray (trimSpace (join keys '\n')) = none := by
      rw [if_pos bracket] at plain
      exact plain
    exact ⟨nonempty, apart, first, last, unparsed⟩

/-- The action deletes a key. The keys that are left are the stored ones, with all that was noted about them, exactly if
they have a line each and no enabled one has a time or a reason that the deletion of disabled keys would drop. -/
theorem delete_keeps_remaining_iff (multi : row.channelInfo.isMultiKey = true)
    (deletes : request.action = .deleteKey ∨ request.action = .deleteDisabledKeys)
    (saves : (row.load.act parseArray request).saves = some after)
    (fewer : (manageRemaining parseArray row.load request).length < (row.load.getKeys parseArray).length) :
    let remaining := manageRemaining parseArray row.load request
    let info := (row.update parseArray after).channelInfo
    ((row.update parseArray after).load.getKeys parseArray = remainingKeys parseArray row.load request ∧
      ∀ position index, remaining[position]? = some index →
        statusAt info.multiKeyStatusList position = statusAt row.channelInfo.multiKeyStatusList index ∧
          info.multiKeyDisabledTime.get? position = row.channelInfo.multiKeyDisabledTime.get? index ∧
          info.multiKeyDisabledReason.get? position = row.channelInfo.multiKeyDisabledReason.get? index) ↔
      OnLines parseArray (remainingKeys parseArray row.load request) ∧
        (request.action = .deleteDisabledKeys → ∀ index ∈ remaining,
          statusAt row.channelInfo.multiKeyStatusList index = channelStatusEnabled →
            row.channelInfo.multiKeyDisabledTime.get? index = none ∧
              row.channelInfo.multiKeyDisabledReason.get? index = none) := by
  have effect := act_effect saves
  obtain ⟨noted, rfl, dropped⟩ := delete_saves deletes saves
  constructor
  · rintro ⟨keys, kept⟩
    refine ⟨?_, fun disabled index member enabled => ?_⟩
    · have key : (row.update parseArray (row.load.keepKeys (row.load.getKeys parseArray)
          (manageRemaining parseArray row.load request) noted)).key =
            if join (remainingKeys parseArray row.load request) '\n' ≠ "" then
              join (remainingKeys parseArray row.load request) '\n' else row.key := rfl
      rw [load_getKeys, key] at keys
      by_cases written : join (remainingKeys parseArray row.load request) '\n' ≠ ""
      · rw [if_pos written, if_neg written] at keys
        exact onLines_of_read_back shorter written keys
      -- an empty text is not written, and the row keeps all its keys
      · rw [if_neg written, ← load_getKeys] at keys
        have same := congrArg List.length keys
        rw [remainingKeys, List.length_map] at same
        omega
    · obtain ⟨position, found⟩ := List.mem_iff_getElem?.mp member
      obtain ⟨-, time, reason⟩ := kept position index found
      have carried : noted index = false := (dropped index).mpr ⟨disabled, enabled⟩
      obtain ⟨times, reasons⟩ := update_notes parseArray multi noted found
      rw [times, carried] at time
      rw [reasons, carried] at reason
      exact ⟨time.symm, reason.symm⟩
  · rintro ⟨lines, unnoted⟩
    have keys := update_keys ⟨rfl, fun _ _ => rfl⟩ (fun _ => lines) effect
    refine ⟨keys, fun position index found => ⟨?_, ?_⟩⟩
    · rw [update_statuses multi]
      · exact statusAt_keepKeys _ _ _ found
      · rw [keys, remainingKeys, List.length_map]
        exact (List.getElem?_eq_some_iff.mp found).1
    · obtain ⟨times, reasons⟩ := update_notes parseArray multi noted found
      rw [times, reasons]
      cases carried : noted index with
      | true => exact ⟨rfl, rfl⟩
      | false =>
        obtain ⟨disabled, enabled⟩ := (dropped index).mp carried
        obtain ⟨time, reason⟩ := unnoted disabled index (List.mem_of_getElem? found) enabled
        exact ⟨time.symm, reason.symm⟩

end

theorem delete_first_of_three : ∃ after, (threeKeys.load.act (fun _ => none) ⟨.deleteKey, some 0⟩).saves = some after ∧
    (threeKeys.update (fun _ => none) after).load.getKeys (fun _ => none) = ["b", "c"] := by
  have lines : OnLines (fun _ => none) (remainingKeys (fun _ => none) threeKeys.load ⟨.deleteKey, some 0⟩) := by
    decide +kernel
  exact ⟨_, rfl, ((delete_keeps_remaining_iff (by simp) rfl (.inl rfl) rfl (by decide +kernel)).mpr
    ⟨lines, fun same => Action.noConfusion same⟩).1⟩

def allAutoDisabled : Row :=
  { threeKeys with channelInfo := ⟨true, 3, ((Map.empty.set 0 3).set 1 3).set 2 3, .empty, .empty, 0, .polling⟩ }

/-- When no key remains, the empty text of the keys is not written, but the empty statuses are. -/
theorem delete_disabled_enables_keys :
    ∃ after, (allAutoDisabled.load.act (fun _ => none) ⟨.deleteDisabledKeys, none⟩).saves = some after ∧
      manageRemaining (fun _ => none) allAutoDisabled.load ⟨.deleteDisabledKeys, none⟩ = [] ∧
      (allAutoDisabled.update (fun _ => none) after).load.getKeys (fun _ => none) = ["a", "b", "c"] ∧
      ∀ position < 3, statusAt (allAutoDisabled.update (fun _ => none) after).channelInfo.multiKeyStatusList position =
        channelStatusEnabled :=
  ⟨_, rfl, by decide +kernel⟩

end FlowAPI.MultiKey
