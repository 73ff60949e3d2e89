import FlowAPI.Semantics.Machine
import FlowAPI.Semantics.Pool
import FlowAPI.Semantics.Table
import Mathlib.Data.List.Sort

/-! Asynchronous tasks, the statements of `model/task.go` that polling uses, and any number of passes of
`service/task_polling.go` over one table.

`UpdateWithStatus` writes a whole row if it still has the expected status, `TaskBulkUpdateByID` three columns of many
rows without looking, and `UpdateQuota` one column. A reply carries the result that the adaptor or the passthrough
decoder made of an upstream answer.

A pass reads rows into copies that its goroutines share through a map, works on the copies, and writes back. Go maps
are iterated in any order, so platforms and channels become goroutines of their own. The log keeps which statement
finished a row, and which billing ran. -/

set_option autoImplicit false
namespace FlowAPI.Polling
open Semantics List

inductive TaskStatus where
  | notStart | submitted | queued | inProgress | failure | success | unknown
  -- any other text an upstream may send, the empty one included
  | other (raw : String)
  deriving DecidableEq, Repr

def TaskStatus.finished : TaskStatus → Bool
  | .failure | .success => true
  | _ => false

inductive TaskPlatform where
  | suno | midjourney
  | video (name : String)
  deriving DecidableEq, Repr

structure Task where
  id : Int
  (taskId upstreamTaskId : String)
  platform : TaskPlatform
  (channelId quota : Int)
  status : TaskStatus
  failReason : String
  (submitTime startTime finishTime : Int)
  (progress resultUrl data : String)
  deriving DecidableEq, Repr

def Task.getUpstreamTaskId (task : Task) : String :=
  if task.upstreamTaskId ≠ "" then task.upstreamTaskId else task.taskId

/-- The first instant whose timed-out tasks are refunded, 2026-02-22 00:00:00 UTC. -/
def taskRefundLegacyCutoff : Int := 1771718400

structure TaskSnapshot where
  status : TaskStatus
  progress : String
  (startTime finishTime : Int)
  (failReason resultUrl data : String)
  deriving DecidableEq, Repr

def Task.snapshot (task : Task) : TaskSnapshot :=
  { status := task.status, progress := task.progress, startTime := task.startTime
    finishTime := task.finishTime, failReason := task.failReason, resultUrl := task.resultUrl, data := task.data }

abbrev Tasks := Table Task.id

namespace Tasks

def unfinished (task : Task) : Bool := task.progress ≠ "100%" ∧ task.status.finished = false

variable (tasks : Tasks)

def getTimedOutUnfinishedTasks (cutoff : Int) (limit : Nat) : List Task :=
  ((tasks.rows.filter fun task => unfinished task && decide (task.submitTime < cutoff)).insertionSort
    fun left right => left.submitTime ≤ right.submitTime).take limit

def getAllUnFinishSyncTasks (limit : Nat) : List Task :=
  ((tasks.rows.filter unfinished).insertionSort fun left right => left.id ≤ right.id).take limit

def updateWithStatus (task : Task) (fromStatus : TaskStatus) : Bool × Tasks :=
  ((tasks.find task.id).any fun row => row.status = fromStatus,
    tasks.modify (fun row => row.id = task.id ∧ row.status = fromStatus) (fun _ => task) (by
      intro row selected
      simp only [Bool.decide_and, Bool.and_eq_true, decide_eq_true_eq] at selected
      exact selected.1.symm))

def taskBulkUpdateByID (ids : List Int) (failReason : Option String) : Tasks :=
  tasks.modify (fun row => row.id ∈ ids)
    (fun row => { row with
      status := .failure, progress := "100%", failReason := failReason.getD row.failReason })
    (fun _ _ => rfl)

def updateQuota (id quota : Int) : Tasks :=
  tasks.modify (fun row => row.id = id) (fun row => { row with quota }) (fun _ _ => rfl)

section
variable {tasks : Tasks} {task : Task} {fromStatus : TaskStatus}

theorem find_updateWithStatus (target : Int) : (tasks.updateWithStatus task fromStatus).2.find target =
      (tasks.find target).map fun row => if row.id = task.id ∧ row.status = fromStatus then task else row := by
  simp [updateWithStatus, Table.find_modify]

theorem find_taskBulkUpdateByID (ids : List Int) (failReason : Option String) (target : Int) :
    (tasks.taskBulkUpdateByID ids failReason).find target = (tasks.find target).map fun row => if row.id ∈ ids then
        { row with status := .failure, progress := "100%", failReason := failReason.getD row.failReason } else row := by
  simp [taskBulkUpdateByID, Table.find_modify]

theorem find_updateQuota (id quota target : Int) : (tasks.updateQuota id quota).find target =
      (tasks.find target).map fun row => if row.id = id then { row with quota } else row := by
  simp [updateQuota, Table.find_modify]

end

theorem mem_getTimedOutUnfinishedTasks {tasks : Tasks} {cutoff : Int} {limit : Nat} {task : Task}
    (read : task ∈ tasks.getTimedOutUnfinishedTasks cutoff limit) : task ∈ tasks.rows := by
  have sorted := mem_of_mem_take read
  exact mem_of_mem_filter ((mem_insertionSort _).mp sorted)

theorem mem_getAllUnFinishSyncTasks {tasks : Tasks} {limit : Nat} {task : Task}
    (read : task ∈ tasks.getAllUnFinishSyncTasks limit) : task ∈ tasks.rows := by
  have sorted := mem_of_mem_take read
  exact mem_of_mem_filter ((mem_insertionSort _).mp sorted)

end Tasks

structure Settings where
  taskTimeoutMinutes : Int
  taskQueryLimit : Nat
  buildProxyURL : String → String

def progressSubmitted : String := "10%"
def progressQueued : String := "20%"
def progressInProgress : String := "30%"
def progressComplete : String := "100%"
def Task.isLegacy (task : Task) : Bool := decide (0 < task.submitTime ∧ task.submitTime < taskRefundLegacyCutoff)

variable (settings : Settings)

def timeoutReason : String := "任务超时（" ++ toString settings.taskTimeoutMinutes ++ "分钟）"
def legacyReason : String := "任务超时（旧系统遗留任务，不进行退款，请联系管理员）"

def sweepTask (now : Int) (task : Task) : Task :=
  let closed := { task with status := .failure, progress := "100%", finishTime := now }
  if task.isLegacy then { closed with failReason := legacyReason, quota := 0 }
  else { closed with failReason := timeoutReason settings }

structure SunoItem where
  taskId : String
  status : TaskStatus
  failReason : String
  (submitTime startTime finishTime : Int)
  data : String
  deriving DecidableEq, Repr

def taskNeedsUpdate (old : Task) (new : SunoItem) : Bool :=
  old.submitTime ≠ new.submitTime || old.startTime ≠ new.startTime || old.finishTime ≠ new.finishTime ||
    old.status ≠ new.status || old.failReason ≠ new.failReason ||
    (old.status.finished && old.progress ≠ "100%") ||
    -- the source sorts the bytes of both payloads before it compares them
    !old.data.toList.isPerm new.data.toList

def TaskStatus.isEmpty (status : TaskStatus) : Bool := status = .other ""
def SunoItem.isFailure (item : SunoItem) (task : Task) : Bool :=
  item.failReason ≠ "" || (if item.status.isEmpty then task.status else item.status) = .failure

variable (task : Task)

def applySunoItem (item : SunoItem) : Task :=
  let merged := { task with
    status := if item.status.isEmpty then task.status else item.status
    failReason := if item.failReason ≠ "" then item.failReason else task.failReason
    submitTime := if item.submitTime ≠ 0 then item.submitTime else task.submitTime
    startTime := if item.startTime ≠ 0 then item.startTime else task.startTime
    finishTime := if item.finishTime ≠ 0 then item.finishTime else task.finishTime }
  let failed := if item.isFailure task then { merged with status := .failure, progress := "100%" } else merged
  { failed with
    progress := if item.status = .success then "100%" else failed.progress
    data := item.data }

inductive EmptyStatus where
  | rateLimited | upstreamError | unrecognized | unparsable

structure TaskInfo where
  status : TaskStatus
  (reason url progress : String)
  isText : Bool

def failTaskInfo (reason : String) : TaskInfo :=
  { status := .failure, reason, url := "", progress := "", isText := false }

inductive VideoReply where
  | failed
  | result (info : TaskInfo) (data : String) (empty : EmptyStatus)

/-- `none` is the rate limit, after which the task is left for the next pass. -/
def resolveEmptyStatus (info : TaskInfo) (empty : EmptyStatus) : Option TaskInfo :=
  if info.status.isEmpty then
    match empty with
    | .rateLimited => none
    | .upstreamError => some (failTaskInfo "upstream returned error")
    | .unrecognized => some (failTaskInfo "upstream returned unrecognized message")
    | .unparsable => some info
  else some info

/-- The copy a reply leaves, and whether it asks for persisting with a refund or
a settlement; without a request the call returned early. -/
structure VideoDecision where
  copy : Task
  persist : Option (Bool × Bool)

def withProgress (progress : String) : Task := if progress ≠ "" then { task with progress } else task

def failVideoTask (now : Int) (task : Task) (reason : String) : VideoDecision :=
  { copy := { task with
      status := .failure, progress := progressComplete
      finishTime := if task.finishTime = 0 then now else task.finishTime, failReason := reason }
    persist := some (task.quota ≠ 0, false) }

def unknownReason (grace : Int) : String :=
  "upstream task status stayed UNKNOWN for more than " ++ toString grace ++
    " seconds after submit, task treated as lost"

def resultUrl (info : TaskInfo) : String :=
  if info.isText then ""
  else if info.url.startsWith "data:" then settings.buildProxyURL task.taskId
  else if info.url ≠ "" then info.url
  else settings.buildProxyURL task.taskId

/-- `updateVideoSingleTask` between the fetch and the update. `grace` is the
window of an adaptor that opts into failing tasks which stay UNKNOWN. -/
def videoDecision (grace : Option Int) (now : Int) (task : Task) :
    VideoReply → VideoDecision
  | .failed => { copy := task, persist := none }
  | .result info data empty =>
    match resolveEmptyStatus info empty with
    | none => { copy := { task with data }, persist := none }
    | some info =>
      let copy := { task with data, status := info.status }
      match info.status with
      | .submitted =>
        { copy := withProgress { copy with progress := progressSubmitted } info.progress
          persist := some (false, false) }
      | .queued =>
        { copy := withProgress { copy with progress := progressQueued } info.progress
          persist := some (false, false) }
      | .inProgress =>
        { copy := withProgress { copy with
            progress := progressInProgress
            startTime := if task.startTime = 0 then now else task.startTime } info.progress
          persist := some (false, false) }
      | .success =>
        { copy := withProgress { copy with
            progress := progressComplete, finishTime := if task.finishTime = 0 then now else task.finishTime
            resultUrl := resultUrl settings task info } info.progress
          persist := some (false, true) }
      | .unknown =>
        match grace with
        | none => { copy := task, persist := none }
        | some window =>
          if 0 < task.submitTime ∧ now - task.submitTime ≤ window then { copy := task, persist := none }
          else failVideoTask now copy (if info.reason = "" then unknownReason window else info.reason)
      | .failure => failVideoTask now copy info.reason
      | .notStart | .other _ => { copy, persist := none }

/-- The amounts `settleTaskBillingOnComplete` consults, in its order. -/
structure Settlement where
  (outputSeconds checked : Option Int)
  perCallBilling : Bool
  adjusted : Int
  byTokens : Option Int

def settledQuota (settlement : Settlement) : Option Int :=
  match settlement.outputSeconds, settlement.checked with
  | some actual, _ => some (min actual task.quota)
  | none, some actual => some actual
  | none, none =>
    if settlement.perCallBilling then none
    else if 0 < settlement.adjusted then some settlement.adjusted
    else settlement.byTokens

def recalculateTaskQuota (actual : Option Int) : Option Int :=
  actual.filter fun actual => 0 < actual ∧ actual ≠ task.quota

inductive Closer where
  | bulkUpdate | legacySweep | sweep | suno | video
  deriving DecidableEq, Repr

/-- A row that went from an unfinished to a finished status, with the quota it
had before. -/
structure Closing where
  id : Int
  status : TaskStatus
  quota : Int
  closer : Closer
  deriving DecidableEq, Repr

inductive Billing where
  | refund (id quota : Int)
  | settle (id : Int)
  deriving DecidableEq, Repr

inductive Entry where
  | closed (closing : Closing)
  | billed (billing : Billing)
  deriving DecidableEq, Repr

/-- Copies are positions in the heap; a billing call follows its compare-and-set at once and carries the task it just
wrote. -/
inductive Action where
  | sweep
  | sweepTask (copy : Nat) (now : Int)
  | poll
  | platform (platform : TaskPlatform) (copies : List Nat)
  | channels (platform : TaskPlatform) (channels : List (Int × List String)) (taskM : List (String × Nat))
  | channel (platform : TaskPlatform) (channelId : Int) (taskIds : List String) (taskM : List (String × Nat))
  | sunoItem (item : SunoItem) (taskM : List (String × Nat))
  | videoTask (taskId : String) (taskM : List (String × Nat))
  | bulkUpdate (ids : List Int) (failReason : Option String)
  | refund (copy : Nat) (task : Task)
  | settle (copy : Nat) (task : Task)
  | updateQuota (id quota : Int)
  deriving DecidableEq, Repr

structure State where
  tasks : Tasks
  heap : List Task
  goroutines : List (List Action)
  log : List Entry
  deriving DecidableEq

structure Input where
  now : Int
  -- the database statement or the funding update of this step fails
  (fault channelFound adaptorFound : Bool)
  items : Option (List SunoItem)
  reply : VideoReply
  grace : Option Int
  settlement : Settlement

def State.setCopy (state : State) (copy : Nat) (task : Task) : State :=
  { state with heap := state.heap.set copy task }

def closingOf (closer : Closer) (row : Task) (status : TaskStatus) : List Entry :=
  if row.status.finished = false ∧ status.finished = true then
    [.closed { id := row.id, status, quota := row.quota, closer }]
  else []

def State.updateWithStatus (state : State) (task : Task) (fromStatus : TaskStatus) (closer : Closer) : Bool × State :=
  match state.tasks.find task.id with
  | none => (false, state)
  | some row =>
    if row.status = fromStatus then
      (true, { state with
        tasks := (state.tasks.updateWithStatus task fromStatus).2
        log := state.log ++ closingOf closer row task.status })
    else (false, state)

def State.taskBulkUpdateByID (state : State) (ids : List Int) (failReason : Option String) : State :=
  { state with
    tasks := state.tasks.taskBulkUpdateByID ids failReason
    log := state.log ++ (state.tasks.rows.filter fun row => row.id ∈ ids).flatMap
      fun row => closingOf .bulkUpdate row .failure }

def State.load (state : State) (rows : List Task) : State × List Nat :=
  ({ state with heap := state.heap ++ rows }, List.range' state.heap.length rows.length)

def channelFailReason (platform : TaskPlatform) (channelId : Int) : String :=
  match platform with
  | .suno => "获取渠道信息失败，请联系管理员，渠道ID：" ++ toString channelId
  | _ => "Failed to get channel info, channel ID: " ++ toString channelId

/-- The grouping half of `RunTaskPollingOnce` for one platform. In the map of copies a later duplicate wins. -/
def groupTasks (heap : List Task) (copies : List Nat) : List Int × List (Int × List String) × List (String × Nat) :=
  let read := copies.filterMap fun copy => (heap[copy]?).map fun task => (copy, task)
  let known := read.filter fun pair => pair.2.getUpstreamTaskId ≠ ""
  let taskM := (known.map fun pair => (pair.2.getUpstreamTaskId, pair.1)).reverse
  let channels := (known.map fun pair => pair.2.channelId).dedup
  ((read.filter fun pair => pair.2.getUpstreamTaskId = "").map fun pair => pair.2.id,
    channels.map fun channelId => (channelId,
      (known.filter fun pair => pair.2.channelId = channelId).map fun pair => pair.2.getUpstreamTaskId),
    taskM)

def lookup (heap : List Task) (taskM : List (String × Nat)) (taskId : String) : Option (Nat × Task) :=
  (taskM.lookup taskId).bind fun copy => (heap[copy]?).map fun task => (copy, task)

variable (settings : Settings)

/-- Run one action. The result is the new state, what the goroutine does next,
and the goroutines it starts. -/
def runAction (input : Input) (state : State) :
    Action → State × List Action × List (List Action)
  | .sweep =>
    if settings.taskTimeoutMinutes ≤ 0 ∨ input.fault = true then (state, [], [])
    else
      let cutoff := input.now - settings.taskTimeoutMinutes * 60
      let (state, copies) := state.load (state.tasks.getTimedOutUnfinishedTasks cutoff 100)
      (state, copies.map fun copy => .sweepTask copy input.now, [])
  | .sweepTask copy now =>
    match state.heap[copy]? with
    | none => (state, [], [])
    | some task =>
      let closed := sweepTask settings now task
      let state := state.setCopy copy closed
      if input.fault then (state, [], [])
      else
        let closer := if task.isLegacy then .legacySweep else .sweep
        match state.updateWithStatus closed task.status closer with
        | (false, state) => (state, [], [])
        | (true, state) => (state, if task.isLegacy = false ∧ closed.quota ≠ 0 then [.refund copy closed] else [], [])
  | .poll =>
    if input.fault then (state, [], [])
    else
      let rows := state.tasks.getAllUnFinishSyncTasks settings.taskQueryLimit
      let (loaded, copies) := state.load rows
      let platforms := (rows.map Task.platform).dedup
      (loaded, [], platforms.map fun platform => [.platform platform
        (((copies.zip rows).filter fun pair => pair.2.platform = platform).map Prod.fst)])
  | .platform platform copies =>
    let (nullTaskIds, channels, taskM) := groupTasks state.heap copies
    let failed := if nullTaskIds = [] then [] else [.bulkUpdate nullTaskIds none]
    -- Midjourney has a poller of its own
    (state, failed ++ (if platform = .midjourney then [] else [.channels platform channels taskM]), [])
  | .channels platform channels taskM =>
    (state, [], channels.map fun channel => [.channel platform channel.1 channel.2 taskM])
  | .channel platform channelId taskIds taskM =>
    if input.channelFound = false then
      (state, [.bulkUpdate (taskIds.filterMap fun taskId => (lookup state.heap taskM taskId).map (·.2.id))
        (some (channelFailReason platform channelId))], [])
    else if input.adaptorFound = false then (state, [], [])
    else
      match platform with
      | .suno => (state, (input.items.getD []).map fun item => .sunoItem item taskM, [])
      | _ => (state, taskIds.map fun taskId => .videoTask taskId taskM, [])
  | .sunoItem item taskM =>
    match lookup state.heap taskM item.taskId with
    | none => (state, [], [])
    | some (copy, task) =>
      if taskNeedsUpdate task item = false then (state, [], [])
      else
        let updated := applySunoItem task item
        let state := state.setCopy copy updated
        if input.fault then (state, [], [])
        else
          match state.updateWithStatus updated task.status .suno with
          | (false, state) => (state, [], [])
          | (true, state) =>
            (state, if item.isFailure task = true ∧ task.status ≠ .failure ∧ updated.quota ≠ 0 then
              [.refund copy updated] else [], [])
  | .videoTask taskId taskM =>
    match lookup state.heap taskM taskId with
    | none => (state, [], [])
    | some (copy, task) =>
      let decision := videoDecision settings input.grace input.now task input.reply
      let updated := decision.copy
      let state := state.setCopy copy updated
      match decision.persist with
      | none => (state, [], [])
      | some (shouldRefund, shouldSettle) =>
        let billing := (if shouldSettle then [Action.settle copy updated] else []) ++
          (if shouldRefund then [Action.refund copy updated] else [])
        if updated.status.finished = true ∧ task.status ≠ updated.status then
          if input.fault then (state, [], [])
          else
            match state.updateWithStatus updated task.status .video with
            | (false, state) => (state, [], [])
            | (true, state) => (state, billing, [])
        else if task.snapshot ≠ updated.snapshot ∧ input.fault = false then
          ((state.updateWithStatus updated task.status .video).2, billing, [])
        else (state, billing, [])
  | .bulkUpdate ids failReason =>
    if input.fault then (state, [], []) else (state.taskBulkUpdateByID ids failReason, [], [])
  | .refund copy task =>
    if task.quota = 0 ∨ input.fault = true then (state, [], [])
    else
      ({ state.setCopy copy { task with quota := 0 } with
          log := state.log ++ [.billed (.refund task.id task.quota)] },
        [.updateQuota task.id 0], [])
  | .settle copy task =>
    let billed := { state with log := state.log ++ [.billed (.settle task.id)] }
    match recalculateTaskQuota task (settledQuota task input.settlement) with
    | none => (billed, [], [])
    | some actual =>
      if input.fault then (billed, [], [])
      else (billed.setCopy copy { task with quota := actual }, [.updateQuota task.id actual], [])
  | .updateQuota id quota =>
    if input.fault then (state, [], []) else ({ state with tasks := state.tasks.updateQuota id quota }, [], [])

inductive Event where
  | start
  | run (index : Nat) (input : Input)
  | cancel (index : Nat)

def Action.checksContext : Action → Bool
  | .platform _ _ | .channel _ _ _ _ | .sunoItem _ _ | .videoTask _ _ => true
  | _ => false

def step (state : State) : Event → Option State
  | .start => some { state with goroutines := state.goroutines ++ [[.sweep, .poll]] }
  | .run index input =>
    match state.goroutines[index]? with
    | some (action :: rest) =>
      let (after, next, started) := runAction settings input state action
      some { after with goroutines := Pool.replace state.goroutines index ((next ++ rest) :: started) }
    | _ => none
  | .cancel index =>
    match state.goroutines[index]? with
    | some (action :: _) =>
      if action.checksContext then some { state with goroutines := Pool.replace state.goroutines index [] }
      else none
    | _ => none

def machine : Machine State Event := ⟨step settings⟩
def State.opened (tasks : Tasks) : State := { tasks, heap := [], goroutines := [], log := [] }

def pollOnly : Settings := { taskTimeoutMinutes := 0, taskQueryLimit := 100, buildProxyURL := fun id => id }

def sampleTask (id : Int) (platform : TaskPlatform) (upstreamTaskId : String) : Task :=
  { id, taskId := "", upstreamTaskId, platform, channelId := 7, quota := 50, status := .inProgress
    failReason := "", submitTime := 1780000000, startTime := 0, finishTime := 0, progress := "30%"
    resultUrl := "", data := "" }

def oneTask (task : Task) : Tasks := { rows := [task], unique := List.nodup_singleton _ }

def quietInput : Input :=
  { now := 1790000000, fault := false, channelFound := true, adaptorFound := true, items := none
    reply := .failed, grace := none
    settlement :=
      { outputSeconds := none, checked := none, perCallBilling := true, adjusted := 0, byTokens := none } }

def statusReply (status : TaskStatus) : VideoReply :=
  .result { status, reason := "", url := "", progress := "", isText := true } "" .unrecognized

end FlowAPI.Polling
