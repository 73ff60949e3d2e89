import FlowAPI.Semantics.Machine
import FlowAPI.Semantics.Pool
import FlowAPI.Semantics.Table

/-! Midjourney tasks and any number of polling passes over them: `model/midjourney.go` and
`controller/midjourney.go`. Statuses and progress are texts, since upstream sends what it likes.

A pass of `runMidjourneyTaskUpdateOnce` reads the unfinished tasks into copies, fails the ones without an upstream id,
then asks the channels one by one, in any order, and enters the answers into its copies. Which channel's answer has
changed a task, and which refunds have been made, is kept beside the table. -/

set_option autoImplicit false
namespace FlowAPI.Midjourney

structure Task where
  (id code userId : Int)
  (mjId promptEn state : String)
  (submitTime startTime finishTime : Int)
  (imageUrl videoUrl videoUrls status progress failReason : String)
  (channelId quota : Int)
  (buttons properties : String)
  (tokenId billingChannelId : Int)
  billingSource : String
  deriving DecidableEq, Repr

/-- An item of an answer. `videoUrls` is the text that a list with an element is stored
as, `buttons` and `properties` the text of what is there. -/
structure MidjourneyDto where
  (mjId promptEn state : String)
  (submitTime startTime finishTime : Int)
  (imageUrl videoUrl : String)
  videoUrls : Option String
  (status progress failReason : String)
  (buttons properties : Option String)
  deriving DecidableEq, Repr

def failure : String := "FAILURE"
def finished : String := "100%"
def billingSourceUnlimited : String := "unlimited"

def Task.getBillingChannelId (task : Task) : Int :=
  if task.billingChannelId > 0 then task.billingChannelId else task.channelId

def MidjourneyDto.timedOut (item : MidjourneyDto) (task : Task) (now : Int) : MidjourneyDto :=
  if now - task.submitTime > 3600000 ∧ task.progress ≠ finished then
    { item with failReason := "上游任务超时（超过1小时）", status := failure }
  else item

def checkMjTaskNeedUpdate (oldTask : Task) (newTask : MidjourneyDto) : Bool :=
  oldTask.code != 1 || oldTask.progress != newTask.progress || oldTask.promptEn != newTask.promptEn ||
    oldTask.state != newTask.state || oldTask.submitTime != newTask.submitTime ||
    oldTask.startTime != newTask.startTime || oldTask.finishTime != newTask.finishTime ||
    oldTask.imageUrl != newTask.imageUrl || oldTask.status != newTask.status ||
    oldTask.failReason != newTask.failReason ||
    (oldTask.progress != finished && newTask.failReason != "") || oldTask.videoUrl != newTask.videoUrl ||
    oldTask.videoUrls != newTask.videoUrls.getD ""

def MidjourneyDto.Fails (item : MidjourneyDto) : Prop :=
  item.progress ≠ finished ∧ item.failReason ≠ "" ∨ item.progress = finished ∧ item.status = failure
instance (item : MidjourneyDto) : Decidable item.Fails := inferInstanceAs (Decidable (_ ∨ _))

def Task.enter (task : Task) (item : MidjourneyDto) : Task :=
  { task with
    code := 1, progress := if item.Fails then finished else item.progress, promptEn := item.promptEn
    state := item.state, submitTime := item.submitTime, startTime := item.startTime, finishTime := item.finishTime
    imageUrl := item.imageUrl, status := item.status, failReason := item.failReason
    properties := item.properties.getD task.properties, buttons := item.buttons.getD task.buttons
    videoUrl := item.videoUrl, videoUrls := item.videoUrls.getD "" }

def Task.returnsQuota (task : Task) (item : MidjourneyDto) : Bool := decide (item.Fails ∧ task.quota ≠ 0)

open Semantics

inductive Source where
  | bulkUpdate
  | answer (channelId : Int)
  deriving DecidableEq, Repr

structure Change where
  task : Int
  source : Source
  deriving DecidableEq, Repr

structure Refund where
  (task userId quota tokenId channelId : Int)
  wallet : Bool
  deriving DecidableEq, Repr

/-- Where a pass stands. A refund works on the copy at a position. -/
inductive Phase where
  | scanning
  | answering (channelId : Int) (items : List MidjourneyDto)
  | crediting (copy : Nat) (channelId : Int) (items : List MidjourneyDto)
  | clearing (copy : Nat) (channelId : Int) (items : List MidjourneyDto)
  deriving DecidableEq, Repr

/-- The copies, the tasks without an upstream id that are still to be failed, and the channels still to be asked with
the ids to ask for. -/
structure Pass where
  tasks : List Task
  nullTaskIds : List Int
  channels : List (Int × List String)
  phase : Phase
  deriving DecidableEq, Repr

structure State where
  tasks : Table Task.id
  passes : List Pass
  refunds : List Refund
  changes : List Change

inductive Reply where
  | channelLost | noAnswer
  | answer (items : List MidjourneyDto)

inductive Event where
  | begin
  | failNull (index : Nat)
  | scan (index : Nat) (channelId : Int) (reply : Reply)
  | item (index : Nat) (now : Int)
  | credit (index : Nat)
  | clear (index : Nat)
  | stop (index : Nat)

def taskChannelM (tasks : List Task) : List (Int × List String) :=
  let known := tasks.filter fun task => decide (task.mjId ≠ "")
  (known.map Task.channelId).eraseDups.map fun channelId =>
    (channelId, (known.filter fun task => decide (task.channelId = channelId)).map Task.mjId)

def taskM (tasks : List Task) (mjId : String) : Option Nat :=
  tasks.zipIdx.foldl
    (fun found entry => if entry.1.mjId = mjId ∧ mjId ≠ "" then some entry.2 else found) none

def Pass.begun (tasks : List Task) : Pass :=
  { tasks
    nullTaskIds := (tasks.filter fun task => decide (task.mjId = "")).map Task.id
    channels := taskChannelM tasks
    phase := .scanning }

def getAllUnFinishTasks (tasks : Table Task.id) : List Task :=
  tasks.rows.filter fun task => decide (task.progress ≠ finished)

namespace State

def bulkUpdate (state : State) (selects : Task → Bool) (failReason : Option String) : State :=
  { state with
    tasks := state.tasks.modify selects
      (fun row => { row with
        failReason := failReason.getD row.failReason, status := failure, progress := finished })
      fun _ _ => rfl
    changes := state.changes ++ (state.tasks.rows.filter selects).map fun row => ⟨row.id, .bulkUpdate⟩ }

def selects (id : Int) (fromStatus : String) (row : Task) : Bool := decide (row.id = id ∧ row.status = fromStatus)

variable (state : State)

/-- `UpdateWithStatus` writes every column. -/
def updateWithStatus (task : Task) (fromStatus : String) : Table Task.id :=
  state.tasks.modify (selects task.id fromStatus) (fun _ => task) fun _ selected =>
    (of_decide_eq_true selected).1.symm

def updateBillingState (task : Task) : Table Task.id :=
  state.tasks.modify (fun row => decide (row.id = task.id))
    (fun row => { row with
      quota := task.quota, tokenId := task.tokenId, billingChannelId := task.billingChannelId
      billingSource := task.billingSource })
    fun _ _ => rfl

def setPass (index : Nat) (pass : Pass) : State := { state with passes := Pool.replace state.passes index [pass] }

def enterItem (index : Nat) (pass : Pass) (channelId : Int) (item : MidjourneyDto)
    (rest : List MidjourneyDto) (now : Int) : State :=
  match (taskM pass.tasks item.mjId).bind fun copy => (pass.tasks[copy]?).map fun task => (copy, task) with
  | none => state.setPass index { pass with phase := .answering channelId rest }
  | some (copy, task) =>
    let item := item.timedOut task now
    if checkMjTaskNeedUpdate task item = false then
      state.setPass index { pass with phase := .answering channelId rest }
    else
      let entered := task.enter item
      let won := state.tasks.rows.any (selects task.id task.status)
      let pass :=
        { pass with
          tasks := pass.tasks.set copy entered
          phase :=
            if won && task.returnsQuota item then .crediting copy channelId rest else .answering channelId rest }
      { state.setPass index pass with
        tasks := state.updateWithStatus entered task.status
        changes := state.changes ++ if won then [⟨task.id, .answer channelId⟩] else [] }

end State

def Refund.of (task : Task) : Refund :=
  { task := task.id, userId := task.userId, quota := task.quota, tokenId := task.tokenId
    channelId := task.getBillingChannelId, wallet := decide (task.billingSource ≠ billingSourceUnlimited) }

def step (state : State) : Event → Option State
  | .begin => some { state with passes := state.passes ++ [.begun (getAllUnFinishTasks state.tasks)] }
  | .failNull index =>
    (state.passes[index]?).bind fun pass =>
      if pass.phase = .scanning ∧ pass.nullTaskIds ≠ [] then
        some ((state.bulkUpdate (fun row => decide (row.id ∈ pass.nullTaskIds)) none).setPass index
          { pass with nullTaskIds := [] })
      else none
  | .scan index channelId reply =>
    (state.passes[index]?).bind fun pass =>
      if pass.phase = .scanning ∧ pass.nullTaskIds = [] then
        (pass.channels.find? fun entry => decide (entry.1 = channelId)).map fun entry =>
          let pass := { pass with channels := pass.channels.filter fun entry => decide (entry.1 ≠ channelId) }
          match reply with
          | .channelLost =>
            (state.bulkUpdate (fun row => decide (row.mjId ∈ entry.2))
              (some ("获取渠道信息失败，请联系管理员，渠道ID：" ++ toString channelId))).setPass index pass
          | .noAnswer => state.setPass index pass
          | .answer items => state.setPass index { pass with phase := .answering channelId items }
      else none
  | .item index now =>
    (state.passes[index]?).bind fun pass =>
      match pass.phase with
      | .answering _ [] => some (state.setPass index { pass with phase := .scanning })
      | .answering channelId (item :: rest) => some (state.enterItem index pass channelId item rest now)
      | _ => none
  | .credit index =>
    (state.passes[index]?).bind fun pass =>
      match pass.phase with
      | .crediting copy channelId rest =>
        (pass.tasks[copy]?).map fun task =>
          { state.setPass index { pass with phase := .clearing copy channelId rest } with
            refunds := state.refunds ++ [.of task] }
      | _ => none
  | .clear index =>
    (state.passes[index]?).bind fun pass =>
      match pass.phase with
      | .clearing copy channelId rest =>
        (pass.tasks[copy]?).map fun task =>
          let cleared := { task with quota := 0 }
          { state.setPass index
              { pass with tasks := pass.tasks.set copy cleared, phase := .answering channelId rest } with
            tasks := state.updateBillingState cleared }
      | _ => none
  | .stop index =>
    (state.passes[index]?).bind fun pass =>
      if pass.phase = .scanning ∧ pass.nullTaskIds = [] then
        some { state with passes := Pool.replace state.passes index [] }
      else none

def machine : Machine State Event := ⟨step⟩
def State.opened (tasks : Table Task.id) : State := { tasks, passes := [], refunds := [], changes := [] }

end FlowAPI.Midjourney
