import FlowAPI.Channels.Record
import FlowAPI.MultiKey.Statuses
import FlowAPI.Semantics.Throughout

/-! Automatic bans: `model/channel.go`.

Failures in a row are counted in the document `other_info`, whose numbers are taken to be whole. At
the threshold the channel is disabled for a time. Every way back to the enabled status clears the count, except
`EnableChannelByTag`, which writes the status column alone.
-/

set_option autoImplicit false
namespace FlowAPI.MultiKey
open Golang Semantics Row
open FlowAPI.Channels (ChannelReliabilitySettings)
variable (info : Map String OtherValue)

def numberAt (key : String) : Option Int :=
  match info.get? key with
  | some (.number value) => some value
  | _ => none

namespace Row

variable (row : Row)

def getOtherInfo : Map String OtherValue := row.otherInfo.getD .empty
def getAutoBanUntil : Int := (numberAt row.getOtherInfo autoBanUntilInfoKey).getD 0

def getAutoBanFailureCount : Int :=
  match numberAt row.getOtherInfo autoBanFailuresInfoKey with
  | none => 0
  | some value => if value ≤ 0 then 0 else value

def recordChannelAutoBanFailure (autoBan : Bool) (settings : ChannelReliabilitySettings)
    (reason : String) (now : Int) : Row :=
  if row.status ≠ channelStatusEnabled ∨ autoBan = false then row
  else
    let failures := (numberAt row.getOtherInfo autoBanFailuresInfoKey).getD 0 + 1
    let info := row.getOtherInfo.set autoBanFailuresInfoKey (.number failures)
    if settings.autoBanThreshold ≤ failures then
      { row with
        status := channelStatusAutoDisabled
        otherInfo := some
          (((info.set autoBanUntilInfoKey (.number (now + settings.autoBanDurationSecs))).set "status_reason"
            (.text reason)).set "status_time" (.number now)) }
    else { row with otherInfo := some info }

def clearChannelAutoBanFailures : Row :=
  if row.status ≠ channelStatusEnabled then row
  else
    match row.getOtherInfo.get? autoBanFailuresInfoKey with
    | none => row
    | some _ => { row with otherInfo := some (row.getOtherInfo.delete autoBanFailuresInfoKey) }

/-- `MaybeRestoreAutoBannedChannel` for a copy of the channel that may be old. -/
def maybeRestoreAutoBannedChannel (row copy : Row) (copyNow now : Int) : Row :=
  if copy.status ≠ channelStatusAutoDisabled then row
  else if copy.getAutoBanUntil ≤ 0 ∨ copyNow < copy.getAutoBanUntil then row
  else if row.status ≠ channelStatusAutoDisabled then row
  else if row.getAutoBanUntil ≤ 0 ∨ now < row.getAutoBanUntil then row
  else
    { row with
      status := channelStatusEnabled
      otherInfo := some
        ((((row.getOtherInfo.delete autoBanUntilInfoKey).delete autoBanFailuresInfoKey).set "status_reason"
          (.text "automatic ban window expired")).set "status_time" (.number now)) }

/-- `UpdateChannelStatus` on the row, which the memory cache may keep it from. -/
def updateChannelStatus (parseArray : String → Option (List String)) (row : Row) (reached : Bool) (usingKey : String)
    (status : Int) (reason : String) (now : Int) : Row :=
  if reached then
    match row.load.updateStatus parseArray usingKey status reason now with
    | some channel => row.saveStatusState channel
    | none => row
  else row

def enableChannelByTag : Row := { row with status := channelStatusEnabled }

end Row

inductive BanCall where
  | recordFailure (reason : String) (now : Int)
  | clearFailures
  | maybeRestore (copy : Row) (copyNow now : Int)
  | updateStatus (reached : Bool) (usingKey : String) (status : Int) (reason : String) (now : Int)
  | enableByTag

section
variable (parseArray : String → Option (List String)) (autoBan : Bool) (settings : ChannelReliabilitySettings)

def banStep (row : Row) : BanCall → Row
  | .recordFailure reason now => row.recordChannelAutoBanFailure autoBan settings reason now
  | .clearFailures => row.clearChannelAutoBanFailures
  | .maybeRestore copy copyNow now => row.maybeRestoreAutoBannedChannel copy copyNow now
  | .updateStatus reached usingKey status reason now =>
    row.updateChannelStatus parseArray reached usingKey status reason now
  | .enableByTag => row.enableChannelByTag

def BelowThreshold (row : Row) : Prop :=
  row.status = channelStatusEnabled → row.getAutoBanFailureCount < settings.autoBanThreshold

/-- The call does not enable a channel with too many failures by its tag. -/
def EnablesBelow (row : Row) : BanCall → Prop
  | .enableByTag => row.getAutoBanFailureCount < settings.autoBanThreshold
  | _ => True

end

theorem numberAt_set (key target : String) (value : OtherValue) (other : target ≠ key) :
    numberAt (info.set key value) target = numberAt info target := by
  unfold numberAt
  rw [Map.get?_set, if_neg other]

theorem numberAt_getOtherInfo_set (row : Row) (key : String) (value : Int) :
    numberAt (getOtherInfo { row with otherInfo := some (row.getOtherInfo.set key (.number value)) }) key =
      some value := by
  show numberAt (row.getOtherInfo.set key (.number value)) key = some value
  rw [numberAt, Map.get?_set, if_pos rfl]

theorem numberAt_delete (key target : String) :
    numberAt (info.delete key) target = if target = key then none else numberAt info target := by
  unfold numberAt
  rw [Map.get?_delete]
  by_cases same : target = key
  · simp [same]
  · simp [same]

def Channel.failureCount (channel : Channel) : Int := channel.toRow.getAutoBanFailureCount

theorem failureCount_of_info {left right : Row}
    (same : numberAt left.getOtherInfo autoBanFailuresInfoKey = numberAt right.getOtherInfo autoBanFailuresInfoKey) :
    left.getAutoBanFailureCount = right.getAutoBanFailureCount := by
  unfold getAutoBanFailureCount
  rw [same]

theorem failureCount_of_none {row : Row} (none : numberAt row.getOtherInfo autoBanFailuresInfoKey = none) :
    row.getAutoBanFailureCount = 0 := by
  unfold getAutoBanFailureCount
  rw [none]

theorem failureCount_of_some {row : Row} {value : Int}
    (counted : numberAt row.getOtherInfo autoBanFailuresInfoKey = some value) :
    row.getAutoBanFailureCount = if value ≤ 0 then 0 else value := by
  unfold getAutoBanFailureCount
  rw [counted]

theorem failureCount_clearAutoBan (channel : Channel) : channel.clearAutoBan.failureCount = 0 := by
  refine failureCount_of_none ?_
  show numberAt ((channel.getOtherInfo.delete autoBanUntilInfoKey).delete autoBanFailuresInfoKey) _ = none
  rw [numberAt_delete, if_pos rfl]

theorem failureCount_explain (channel : Channel) (reason : String) (now : Int) :
    (channel.explain reason now).failureCount = channel.failureCount := by
  refine failureCount_of_info ?_
  show numberAt ((channel.getOtherInfo.set "status_reason" _).set "status_time" _) _ = _
  rw [numberAt_set _ _ _ _ (by decide), numberAt_set _ _ _ _ (by decide)]
  rfl

theorem autoDisabled_ne_enabled : channelStatusAutoDisabled ≠ channelStatusEnabled := by decide

section
variable {parseArray : String → Option (List String)} {autoBan : Bool} {settings : ChannelReliabilitySettings}

theorem handlerMultiKeyUpdate_enabled {channel : Channel} {usingKey : String} {status : Int} {reason : String} {now : Int}
    (disables : status ≠ channelStatusEnabled)
    (enabled : (channel.handlerMultiKeyUpdate parseArray usingKey status reason now).status = channelStatusEnabled) :
    channel.status = channelStatusEnabled ∧
      (channel.handlerMultiKeyUpdate parseArray usingKey status reason now).failureCount = channel.failureCount := by
  unfold Channel.handlerMultiKeyUpdate at enabled ⊢
  dsimp only at enabled ⊢
  split at enabled
  · exact absurd enabled disables
  next some =>
    rw [if_neg some]
    split at enabled
    next _ _ =>
      simp only [Channel.setKeyStatus, disables, if_false] at enabled ⊢
      split at enabled
      · exact absurd enabled autoDisabled_ne_enabled
      next others =>
        rw [if_neg others]
        exact ⟨enabled, rfl⟩
    next _ =>
      split at enabled
      next named =>
        rw [if_pos named]
        exact ⟨enabled, rfl⟩
      · exact absurd enabled disables

theorem updateStatus_enabled {channel after : Channel} {usingKey : String} {status : Int} {reason : String} {now : Int}
    (updated : channel.updateStatus parseArray usingKey status reason now = some after)
    (enabled : after.status = channelStatusEnabled) :
    after.failureCount = 0 ∨ channel.status = channelStatusEnabled ∧ after.failureCount = channel.failureCount := by
  unfold Channel.updateStatus at updated
  split at updated
  · cases updated
  split at updated
  · dsimp only at updated
    split at updated <;> cases updated
    · exact .inl (failureCount_clearAutoBan _)
    next banned =>
      have disables : status ≠ channelStatusEnabled := by
        rw [not_not.mp banned]
        exact autoDisabled_ne_enabled
      exact .inr (handlerMultiKeyUpdate_enabled disables enabled)
  · cases updated
    have target : status = channelStatusEnabled := enabled
    left
    rw [if_pos (by rw [target]; exact autoDisabled_ne_enabled.symm)]
    exact (failureCount_explain _ reason now).trans (failureCount_clearAutoBan channel)

variable {row : Row} (below : BelowThreshold settings row) (positive : 0 < settings.autoBanThreshold)
include below positive

theorem recordFailure_below (reason : String) (now : Int) :
    BelowThreshold settings (row.recordChannelAutoBanFailure autoBan settings reason now) := by
  unfold recordChannelAutoBanFailure
  split
  · exact below
  dsimp only
  split
  · exact fun enabled => absurd enabled autoDisabled_ne_enabled
  next _ =>
    intro _
    rw [failureCount_of_some (numberAt_getOtherInfo_set row _ _)]
    split <;> omega

theorem clearFailures_below : BelowThreshold settings row.clearChannelAutoBanFailures := by
  unfold clearChannelAutoBanFailures
  split
  · exact below
  split
  · exact below
  intro _
  rw [failureCount_of_none]
  · exact positive
  · show numberAt (row.getOtherInfo.delete autoBanFailuresInfoKey) _ = none
    rw [numberAt_delete, if_pos rfl]

theorem maybeRestore_below (copy : Row) (copyNow now : Int) :
    BelowThreshold settings (row.maybeRestoreAutoBannedChannel copy copyNow now) := by
  unfold maybeRestoreAutoBannedChannel
  split
  · exact below
  split
  · exact below
  split
  · exact below
  split
  · exact below
  intro _
  rw [failureCount_of_none]
  · exact positive
  · show numberAt ((((row.getOtherInfo.delete autoBanUntilInfoKey).delete autoBanFailuresInfoKey).set _ _).set _ _) _ =
      none
    rw [numberAt_set _ _ _ _ (by decide), numberAt_set _ _ _ _ (by decide), numberAt_delete, if_pos rfl]

theorem updateStatus_below (reached : Bool) (usingKey : String) (status : Int) (reason : String) (now : Int) :
    BelowThreshold settings (row.updateChannelStatus parseArray reached usingKey status reason now) := by
  unfold updateChannelStatus
  split
  · split
    next channel updated =>
      intro enabled
      show channel.failureCount < settings.autoBanThreshold
      rcases updateStatus_enabled updated enabled with cleared | ⟨before, same⟩
      · rw [cleared]
        exact positive
      · rw [same]
        exact below before
    · exact below
  · exact below

theorem banStep_below_iff (call : BanCall) :
    BelowThreshold settings (banStep parseArray autoBan settings row call) ↔ EnablesBelow settings row call := by
  cases call with
  | recordFailure reason now => exact iff_of_true (recordFailure_below below positive reason now) trivial
  | clearFailures => exact iff_of_true (clearFailures_below below positive) trivial
  | maybeRestore copy copyNow now => exact iff_of_true (maybeRestore_below below positive copy copyNow now) trivial
  | updateStatus reached usingKey status reason now =>
    exact iff_of_true (updateStatus_below below positive reached usingKey status reason now) trivial
  | enableByTag => exact ⟨fun kept => kept rfl, fun few _ => few⟩

omit below positive

/-- Through any calls an enabled channel has fewer failures than the threshold exactly where no call enables it by its
tag while it has more. -/
theorem failures_below_threshold_iff (parseArray : String → Option (List String)) (autoBan : Bool)
    (positive : 0 < settings.autoBanThreshold) {row : Row} (below : BelowThreshold settings row)
    (calls : List BanCall) :
    AfterEach (banStep parseArray autoBan settings) (BelowThreshold settings) row calls ↔
      BeforeEach (banStep parseArray autoBan settings) (EnablesBelow settings) row calls :=
  afterEach_iff_beforeEach (fun (row : Row) call (kept : BelowThreshold settings row) =>
    banStep_below_iff kept positive call) (fun _ _ _ kept => kept) below calls

end

def bannable : Row := { key := "k", status := channelStatusEnabled, otherInfo := none, channelInfo := .zero }
def twoFailures : ChannelReliabilitySettings := { autoBanThreshold := 2, autoBanDurationSecs := 60 }

def bannedCopy : Row :=
  { bannable with
    status := channelStatusAutoDisabled, otherInfo := some (Map.empty.set autoBanUntilInfoKey (.number 61)) }

/-- The ban ends, and one more failure follows. -/
theorem failures_below_after_restore :
    AfterEach (banStep (fun _ => none) true twoFailures) (BelowThreshold twoFailures) bannable
      [.recordFailure "502" 0, .recordFailure "502" 1, .maybeRestore bannedCopy 90 90, .recordFailure "502" 91] :=
  (failures_below_threshold_iff (fun _ => none) true (by decide) (fun _ => by decide) _).mpr
    ⟨trivial, trivial, trivial, trivial, trivial⟩

/-- The banned channel is enabled by its tag and keeps its count. -/
theorem failures_kept_by_tag :
    ¬AfterEach (banStep (fun _ => none) true twoFailures) (BelowThreshold twoFailures) bannable
      [.recordFailure "502" 0, .recordFailure "502" 1, .enableByTag] := by
  rintro ⟨_, _, below, _⟩
  have few := below rfl
  revert few
  decide

end FlowAPI.MultiKey
