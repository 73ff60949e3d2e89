import FlowAPI.Golang.Map
import FlowAPI.Golang.Strings
import FlowAPI.Semantics.Machine
import FlowAPI.Semantics.Pool

/-! Channels with several keys, `model/channel.go` and `ManageMultiKeys` of `controller/channel.go`: selections, status
updates and management of one channel, interleaved, without the memory cache.

The keys are one text, a JSON array or one key a line. How the array is taken apart is a parameter. The status of a
key is kept by its position, in a document that holds the polling position too.

A selection and a management request read the channel before they take its lock, a status update under it. What
happens between taking the lock and the write is one step, the write the next one: reads do not wait for the lock.
Beside the row stand a number for every key, which a deleted key takes with it, and the statuses that completed calls
have set. -/

set_option autoImplicit false
namespace FlowAPI.MultiKey
open Golang

def channelStatusEnabled : Int := 1
def channelStatusManuallyDisabled : Int := 2
def channelStatusAutoDisabled : Int := 3

inductive MultiKeyMode where
  | random | polling
  | other (name : String)
  deriving DecidableEq, Repr

structure ChannelInfo where
  isMultiKey : Bool
  multiKeySize : Nat
  multiKeyStatusList : Map Nat Int
  multiKeyDisabledReason : Map Nat String
  multiKeyDisabledTime : Map Nat Int
  multiKeyPollingIndex : Int
  multiKeyMode : MultiKeyMode
  deriving DecidableEq

def ChannelInfo.zero : ChannelInfo := ⟨false, 0, .empty, .empty, .empty, 0, .other ""⟩

inductive OtherValue where
  | text (value : String)
  | number (value : Int)
  deriving DecidableEq, Repr

def autoBanFailuresInfoKey : String := "auto_ban_failures"
def autoBanUntilInfoKey : String := "auto_ban_until"

/-- The columns of a channel that the functions below read or write. `otherInfo` is
missing while its text is empty. -/
structure Row where
  key : String
  status : Int
  otherInfo : Option (Map String OtherValue)
  channelInfo : ChannelInfo
  deriving DecidableEq

structure Channel extends Row where
  keys : List String
  deriving DecidableEq

def Row.load (row : Row) : Channel := { row with keys := [] }

def Row.saveStatusState (row : Row) (channel : Channel) : Row :=
  { row with
    status := channel.status, otherInfo := channel.otherInfo
    channelInfo := if channel.channelInfo.isMultiKey then channel.channelInfo else row.channelInfo }

def Row.saveChannelInfo (row : Row) (channel : Channel) : Row := { row with channelInfo := channel.channelInfo }

def statusAt (statusList : Map Nat Int) (index : Nat) : Int := (statusList.get? index).getD channelStatusEnabled

def hasEnabledMultiKey (keys : List String) (statusList : Map Nat Int) : Bool :=
  (List.range keys.length).any fun index => decide (statusAt statusList index = channelStatusEnabled)

namespace Channel

variable (channel : Channel)

def getOtherInfo : Map String OtherValue := channel.otherInfo.getD .empty
def setOtherInfo (info : Map String OtherValue) : Channel := { channel with otherInfo := some info }

def explain (reason : String) (now : Int) : Channel :=
  channel.setOtherInfo
    ((channel.getOtherInfo.set "status_reason" (.text reason)).set "status_time" (.number now))

def clearAutoBan : Channel :=
  channel.setOtherInfo ((channel.getOtherInfo.delete autoBanUntilInfoKey).delete autoBanFailuresInfoKey)

section
variable (parseArray : String → Option (List String))

def parseKeys (key : String) : List String :=
  match if hasPrefix (trimSpace key) '[' then parseArray (trimSpace key) else none with
  | some keys => keys
  | none => split (trim key '\n') '\n'

def getKeys (channel : Channel) : List String :=
  if channel.key = "" then []
  else if channel.keys ≠ [] then channel.keys
  else parseKeys parseArray channel.key

end

/-! ## `GetNextEnabledKey` -/

inductive KeyError where
  | noKeys | noEnabledKeys
  deriving DecidableEq, Repr

def KeyError.message : KeyError → String
  | .noKeys => "no keys available"
  | .noEnabledKeys => "no enabled keys"

/-- What the call returns, the channel as it leaves it, and whether it runs
`SaveChannelInfo` on it (without the memory cache). -/
structure Next where
  result : Except KeyError (String × Nat)
  channel : Channel
  saves : Bool

variable (keys : List String)

def enabledIdx (statusList : Map Nat Int) : List Nat :=
  (List.range keys.length).filter fun index => decide (statusAt statusList index = channelStatusEnabled)

def nextFrom (statusList : Map Nat Int) (start : Nat) : Option Nat :=
  ((List.range keys.length).map fun offset => (start + offset) % keys.length).find?
    fun index => decide (statusAt statusList index = channelStatusEnabled)

def pollingStart (saved : Int) : Nat := if saved < 0 ∨ keys.length ≤ saved then 0 else saved.toNat

/-- `saved` is the polling position that `CacheGetChannelInfo` reads, `drawn` the
number that `rand.Intn` draws. -/
def getNextEnabledKey (parseArray : String → Option (List String)) (channel : Channel) (saved : Int) (drawn : Nat) : Next :=
  if channel.channelInfo.isMultiKey = false then ⟨.ok (channel.key, 0), channel, false⟩
  else
    let keys := channel.getKeys parseArray
    let statusList := channel.channelInfo.multiKeyStatusList
    if keys = [] then ⟨.error .noKeys, channel, false⟩
    else
      match enabledIdx keys statusList with
      | [] => ⟨.error .noEnabledKeys, channel, false⟩
      | first :: others =>
        match channel.channelInfo.multiKeyMode with
        | .random =>
          let selected := (first :: others).getD (drawn % (others.length + 1)) first
          ⟨.ok (keys.getD selected "", selected), channel, false⟩
        | .polling =>
          match nextFrom keys statusList (pollingStart keys saved) with
          | some index =>
            ⟨.ok (keys.getD index "", index),
              { channel with
                channelInfo :=
                  { channel.channelInfo with multiKeyPollingIndex := ((index + 1) % keys.length : Nat) } }, true⟩
          | none => ⟨.ok (keys.getD first "", first), channel, true⟩
        | .other _ => ⟨.ok (keys.getD first "", first), channel, false⟩

/-! ## `UpdateChannelStatus` -/

def setKeyStatus (channel : Channel) (keys : List String) (index : Nat) (status : Int) (reason : String) (now : Int) :
    Channel :=
  let info := channel.channelInfo
  let info :=
    if status = channelStatusEnabled then { info with multiKeyStatusList := info.multiKeyStatusList.delete index }
    else
      { info with
        multiKeyStatusList := info.multiKeyStatusList.set index status
        multiKeyDisabledReason := info.multiKeyDisabledReason.set index reason
        multiKeyDisabledTime := info.multiKeyDisabledTime.set index now }
  let channel := { channel with channelInfo := info }
  if hasEnabledMultiKey keys info.multiKeyStatusList = false then
    explain { channel with status := channelStatusAutoDisabled } "All keys are disabled" now
  else if status = channelStatusEnabled then { channel with status := channelStatusEnabled }
  else channel

variable (parseArray : String → Option (List String))

def handlerMultiKeyUpdate (channel : Channel) (usingKey : String) (status : Int) (reason : String) (now : Int) : Channel :=
  let keys := channel.getKeys parseArray
  if keys = [] then { channel with status }
  else
    match keys.findIdx? (· = usingKey) with
    | some index => channel.setKeyStatus keys index status reason now
    | none => if usingKey ≠ "" then channel else explain { channel with status } reason now

/-- What `UpdateChannelStatus` makes of the channel it has read, without the memory
cache. It returns `false` and writes nothing when there is nothing to change. -/
def updateStatus (channel : Channel) (usingKey : String) (status : Int) (reason : String) (now : Int) : Option Channel :=
  if channel.status = status then none
  else if channel.channelInfo.isMultiKey then
    let channel := channel.handlerMultiKeyUpdate parseArray usingKey status reason now
    some (if status ≠ channelStatusAutoDisabled then channel.clearAutoBan else channel)
  else
    let channel := if status ≠ channelStatusAutoDisabled then channel.clearAutoBan else channel
    some { explain channel reason now with status }

/-! ## `Update` -/

/-- The keys `Update` counts. An empty array counts as one line. -/
def countedKeys (key : String) : List String :=
  if key = "" then []
  else
    match parseKeys parseArray key with
    | [] => split (trim key '\n') '\n'
    | keys => keys

def trimInfo (info : ChannelInfo) (key : String) : ChannelInfo :=
  if info.isMultiKey then
    let size := (countedKeys parseArray key).length
    { info with
      multiKeySize := size
      multiKeyStatusList := info.multiKeyStatusList.retain fun index => decide (index < size) }
  else info

end Channel

/-- `Updates` writes the fields that are set. -/
def Row.update (parseArray : String → Option (List String)) (row : Row) (channel : Channel) : Row :=
  let info := Channel.trimInfo parseArray channel.channelInfo (if channel.key ≠ "" then channel.key else row.key)
  { key := if channel.key ≠ "" then channel.key else row.key
    status := if channel.status ≠ 0 then channel.status else row.status
    otherInfo := if channel.otherInfo.isSome then channel.otherInfo else row.otherInfo
    channelInfo := if info = .zero then row.channelInfo else info }

inductive Action where
  | getKeyStatus | disableKey | enableKey | enableAllKeys | disableAllKeys | deleteKey
  | deleteDisabledKeys
  | unsupported (name : String)
  deriving DecidableEq, Repr

structure MultiKeyManageRequest where
  action : Action
  keyIndex : Option Int
  deriving DecidableEq, Repr

/-- `success` and `message` of the answer, and the channel that `Update` is called on. -/
structure Managed where
  success : Bool
  message : String
  saves : Option Channel

def Managed.refuse (message : String) : Managed := ⟨false, message, none⟩

namespace Channel

variable (channel : Channel)

def withStatusList (statusList : Map Nat Int) : Channel :=
  { channel with channelInfo := { channel.channelInfo with multiKeyStatusList := statusList } }

/-- The three actions on one key: the position must be given and in range. -/
def atIndex (keyIndex : Option Int) (missing : String) (act : Nat → Managed) : Managed :=
  match keyIndex with
  | none => .refuse missing
  | some index => if index < 0 ∨ channel.channelInfo.multiKeySize ≤ index then .refuse "密钥索引超出范围" else act index.toNat

def disableKey (keyIndex : Option Int) : Managed :=
  channel.atIndex keyIndex "未指定要禁用的密钥索引" fun index =>
    ⟨true, "密钥已禁用",
      some (channel.withStatusList
        (channel.channelInfo.multiKeyStatusList.set index channelStatusManuallyDisabled))⟩

def enableKey (keyIndex : Option Int) : Managed :=
  channel.atIndex keyIndex "未指定要启用的密钥索引" fun index =>
    ⟨true, "密钥已启用",
      some { channel with
        channelInfo := { channel.channelInfo with
          multiKeyStatusList := channel.channelInfo.multiKeyStatusList.delete index
          multiKeyDisabledTime := channel.channelInfo.multiKeyDisabledTime.delete index
          multiKeyDisabledReason := channel.channelInfo.multiKeyDisabledReason.delete index } }⟩

def enableAllKeys : Managed :=
  ⟨true, "已启用 " ++ toString channel.channelInfo.multiKeyStatusList.keys.length ++ " 个密钥",
    some { channel with
      channelInfo := { channel.channelInfo with
        multiKeyStatusList := .empty, multiKeyDisabledTime := .empty, multiKeyDisabledReason := .empty } }⟩

def enabledPositions (info : ChannelInfo) : List Nat :=
  (List.range info.multiKeySize).filter fun index =>
    decide (statusAt info.multiKeyStatusList index = channelStatusEnabled)

def disableAllKeys : Managed :=
  match enabledPositions channel.channelInfo with
  | [] => .refuse "没有可禁用的密钥"
  | positions =>
    ⟨true, "已禁用 " ++ toString positions.length ++ " 个密钥",
      some (channel.withStatusList
        (positions.foldl (fun statusList index => statusList.set index channelStatusManuallyDisabled)
          channel.channelInfo.multiKeyStatusList))⟩

def reindex {V : Type} (remaining : List Nat) (carries : Nat → Bool) (map : Map Nat V) : Map Nat V :=
  remaining.zipIdx.foldl
    (fun moved entry =>
      match if carries entry.1 then map.get? entry.1 else none with
      | some value => moved.set entry.2 value
      | none => moved)
    .empty

/-- The channel with the keys at the given positions only. A status other than enabled
goes with its key; `noted` says for which keys time and reason do. -/
def keepKeys (keys : List String) (remaining : List Nat) (noted : Nat → Bool) : Channel :=
  let info := channel.channelInfo
  let disabled := fun index => decide (statusAt info.multiKeyStatusList index ≠ channelStatusEnabled)
  { channel with
    key := join (remaining.map fun index => keys.getD index "") '\n'
    channelInfo := { info with
      multiKeySize := remaining.length, multiKeyStatusList := reindex remaining disabled info.multiKeyStatusList
      multiKeyDisabledTime := reindex remaining noted info.multiKeyDisabledTime
      multiKeyDisabledReason := reindex remaining noted info.multiKeyDisabledReason } }

def positionsWithout (keys : List String) (index : Nat) : List Nat :=
  (List.range keys.length).filter fun position => decide (position ≠ index)
def positionsNotAutoDisabled (keys : List String) (statusList : Map Nat Int) : List Nat :=
  (List.range keys.length).filter fun position => decide (statusAt statusList position ≠ channelStatusAutoDisabled)

variable (parseArray : String → Option (List String))

def deleteKey (channel : Channel) (keyIndex : Option Int) : Managed :=
  channel.atIndex keyIndex "未指定要删除的密钥索引" fun index =>
    let keys := channel.getKeys parseArray
    match positionsWithout keys index with
    | [] => .refuse "不能删除最后一个密钥"
    | remaining => ⟨true, "密钥已删除", some (channel.keepKeys keys remaining fun _ => true)⟩

def deleteDisabledKeys (channel : Channel) : Managed :=
  let keys := channel.getKeys parseArray
  let statusList := channel.channelInfo.multiKeyStatusList
  let deletedCount := (List.range keys.length).countP fun position =>
    decide (statusAt statusList position = channelStatusAutoDisabled)
  if deletedCount = 0 then .refuse "没有需要删除的自动禁用密钥"
  else
    ⟨true, "已删除 " ++ toString deletedCount ++ " 个自动禁用的密钥",
      some (channel.keepKeys keys (positionsNotAutoDisabled keys statusList) fun index =>
        decide (statusAt statusList index ≠ channelStatusEnabled))⟩

def act (channel : Channel) (request : MultiKeyManageRequest) : Managed :=
  match request.action with
  | .getKeyStatus => ⟨true, "", none⟩
  | .disableKey => channel.disableKey request.keyIndex
  | .enableKey => channel.enableKey request.keyIndex
  | .enableAllKeys => channel.enableAllKeys
  | .disableAllKeys => channel.disableAllKeys
  | .deleteKey => channel.deleteKey parseArray request.keyIndex
  | .deleteDisabledKeys => channel.deleteDisabledKeys parseArray
  | .unsupported _ => .refuse "不支持的操作"

/-- The checks before the lock. `permitted` is the right to write credentials. -/
def refusal (channel : Channel) (request : MultiKeyManageRequest) (permitted : Bool) : Option String :=
  if channel.channelInfo.isMultiKey = false then some "该渠道不是多密钥模式"
  else if (request.action = .deleteKey ∨ request.action = .deleteDisabledKeys) ∧ permitted = false then
    some "auth.insufficient_privilege"
  else none

end Channel

open Semantics Channel

structure Copy where
  row : Row
  ids : List Nat
  deriving DecidableEq

def Copy.channel (copy : Copy) : Channel := copy.row.load

/-- Where a call stands. The last three hold the lock and are about to write:
`SaveChannelInfo`, `saveStatusState` and `Update`. -/
inductive Job where
  | selected (copy : Copy)
  | updating (usingKey : String) (status : Int) (reason : String)
  | managing (request : MultiKeyManageRequest) (copy : Copy)
  | saving (channel : Channel)
  | storing (channel : Channel) (sets : List (Nat × Int))
  | rewriting (channel : Channel) (sets : List (Nat × Int)) (ids : List Nat)
  deriving DecidableEq

def Job.holds : Job → Bool
  | .selected _ | .updating _ _ _ | .managing _ _ => false
  | .saving _ | .storing _ _ | .rewriting _ _ _ => true

structure State where
  row : Row
  ids : List Nat
  sets : List (Nat × Int)
  jobs : List Job

inductive Event where
  | select
  | updateChannelStatus (usingKey : String) (status : Int) (reason : String)
  | manageMultiKeys (request : MultiKeyManageRequest) (permitted : Bool)
  | run (index : Nat) (now : Int) (drawn : Nat)

def named (ids : List Nat) (changes : List (Nat × Int)) : List (Nat × Int) :=
  changes.filterMap fun change => (ids[change.1]?).map fun id => (id, change.2)
def MultiKeyManageRequest.position (request : MultiKeyManageRequest) : Nat := (request.keyIndex.getD 0).toNat

variable (parseArray : String → Option (List String))

def updateChanges (channel : Channel) (usingKey : String) (status : Int) : List (Nat × Int) :=
  match (channel.getKeys parseArray).findIdx? (· = usingKey) with
  | some index => [(index, status)]
  | none => []

def manageChanges (channel : Channel) (request : MultiKeyManageRequest) : List (Nat × Int) :=
  match request.action with
  | .disableKey => [(request.position, channelStatusManuallyDisabled)]
  | .enableKey => [(request.position, channelStatusEnabled)]
  | .enableAllKeys => (List.range (channel.getKeys parseArray).length).map fun index => (index, channelStatusEnabled)
  | .disableAllKeys =>
    (enabledPositions channel.channelInfo).map fun index => (index, channelStatusManuallyDisabled)
  | _ => []

def manageRemaining (channel : Channel) (request : MultiKeyManageRequest) : List Nat :=
  let keys := channel.getKeys parseArray
  match request.action with
  | .deleteKey => positionsWithout keys request.position
  | .deleteDisabledKeys => positionsNotAutoDisabled keys channel.channelInfo.multiKeyStatusList
  | _ => List.range keys.length

/-- What a call does next. The outcome is what is left of the call, beside the new state
of the row. -/
def Job.advance (state : State) (now : Int) (drawn : Nat) : Job → Option (State × List Job)
  | .selected copy =>
    if copy.channel.channelInfo.isMultiKey = false ∨ copy.channel.getKeys parseArray = [] then some (state, [])
    else if state.jobs.any Job.holds then none
    else
      let next := copy.channel.getNextEnabledKey parseArray state.row.channelInfo.multiKeyPollingIndex drawn
      some (state, if next.saves then [.saving next.channel] else [])
  | .updating usingKey status reason =>
    if state.jobs.any Job.holds then none
    else
      match state.row.load.updateStatus parseArray usingKey status reason now with
      | none => some (state, [])
      | some channel =>
        let changes :=
          if channel.channelInfo.isMultiKey then updateChanges parseArray state.row.load usingKey status else []
        some (state, [.storing channel (named state.ids changes)])
  | .managing request copy =>
    if state.jobs.any Job.holds then none
    else
      match (copy.channel.act parseArray request).saves with
      | none => some (state, [])
      | some channel =>
        some (state, [.rewriting channel (named copy.ids (manageChanges parseArray copy.channel request))
          ((manageRemaining parseArray copy.channel request).map fun index => copy.ids.getD index 0)])
  | .saving channel => some ({ state with row := state.row.saveChannelInfo channel }, [])
  | .storing channel sets =>
    some ({ state with row := state.row.saveStatusState channel, sets := state.sets ++ sets }, [])
  | .rewriting channel sets ids =>
    some ({ state with row := state.row.update parseArray channel, ids, sets := state.sets ++ sets }, [])

def State.copy (state : State) : Copy := ⟨state.row, state.ids⟩

def step (state : State) : Event → Option State
  | .select => some { state with jobs := state.jobs ++ [.selected state.copy] }
  | .updateChannelStatus usingKey status reason =>
    some { state with jobs := state.jobs ++ [.updating usingKey status reason] }
  | .manageMultiKeys request permitted =>
    match state.row.load.refusal request permitted with
    | some _ => some state
    | none => some { state with jobs := state.jobs ++ [.managing request state.copy] }
  | .run index now drawn =>
    (state.jobs[index]?).bind fun job =>
      (job.advance parseArray state now drawn).map fun (after, rest) =>
        { after with jobs := Pool.replace state.jobs index rest }

def machine : Machine State Event := ⟨step parseArray⟩
def State.opened (row : Row) : State :=
  { row, ids := List.range (row.load.getKeys parseArray).length, sets := [], jobs := [] }

end FlowAPI.MultiKey
