import FlowAPI.Semantics.Machine
import FlowAPI.Semantics.Pool
import FlowAPI.Semantics.Table
import Mathlib.Data.List.MinMax

/-! The two tables of `model/system_task.go`, the statements on them, and runners that call them under one clock.

Every statement is one atomic `INSERT`, `UPDATE` or `DELETE`. The unique indexes are fields of the table of tasks, and
an `UPDATE` of it carries the proof that the rows it selects only move forward: from pending to running, and from
running to an end that gives the active key back.

Each call is cut at its readings of the clock and at its statements, and any statement may fail. A runner has at most
one claim under way. Renewals, state updates and the final call are made for a task that a claim has returned. -/

set_option autoImplicit false
namespace FlowAPI.SystemTask
open Semantics List Table Semantics.Table

inductive SystemTaskStatus where
  | pending | running | succeeded | failed
  deriving DecidableEq, Repr

/-- `activeSystemTaskStatuses`. -/
def SystemTaskStatus.active : SystemTaskStatus → Bool
  | .pending | .running => true
  | .succeeded | .failed => false

structure Task where
  id : Nat
  (taskId type : String)
  status : SystemTaskStatus
  activeKey : Option String
  (payload state result error lockedBy : String)
  (createdAt updatedAt : Int)
  deriving DecidableEq, Repr

structure SystemTaskLock where
  (type taskId lockedBy : String)
  (lockedUntil updatedAt : Int)
  deriving DecidableEq, Repr

inductive Move : Task → Task → Prop where
  | stay {before after : Task} : after.status = before.status → after.activeKey = before.activeKey →
      after.lockedBy = before.lockedBy → Move before after
  | start {before after : Task} : before.status = .pending → after.status = .running →
      after.activeKey = before.activeKey → Move before after
  | finish {before after : Task} : before.status = .running → after.status.active = false →
      after.activeKey = none → Move before after

structure Advances (before after : Task) : Prop where
  id : after.id = before.id
  taskId : after.taskId = before.taskId
  type : after.type = before.type
  move : Move before after

theorem Advances.refl (task : Task) : Advances task task := ⟨rfl, rfl, rfl, .stay rfl rfl rfl⟩

theorem Advances.activeKey {before after : Task} (advances : Advances before after) :
    after.activeKey = before.activeKey ∨ after.activeKey = none := by
  cases advances.move with
  | stay _ key => exact .inl key
  | start _ _ key => exact .inl key
  | finish _ _ key => exact .inr key

structure Tasks where
  rows : List Task
  ids : (rows.map Task.id).Nodup
  taskIds : (rows.map Task.taskId).Nodup
  activeKeys : (rows.filterMap Task.activeKey).Nodup

theorem Tasks.ext {left right : Tasks} (same : left.rows = right.rows) : left = right := by
  cases right
  cases same
  rfl

instance : DecidableEq Tasks :=
  fun left right => decidable_of_iff (left.rows = right.rows) ⟨Tasks.ext, congrArg Tasks.rows⟩

/-- `UPDATE system_tasks SET change WHERE selects`. -/
structure Update where
  selects : Task → Bool
  change : Task → Task
  active : ∀ task, selects task = true → task.status.active = true
  advances : ∀ task, selects task = true → Advances task (change task)

def Update.apply (update : Update) (task : Task) : Task := if update.selects task then update.change task else task

theorem Update.apply_advances (update : Update) (task : Task) : Advances task (update.apply task) := by
  unfold apply
  split
  next selected => exact update.advances task selected
  · exact .refl task

variable {task : Task} {taskId : String} {now : Int}

theorem Update.apply_ended (update : Update) (ended : task.status.active = false) : update.apply task = task := by
  refine if_neg fun selected => ?_
  have active := update.active task selected
  rw [ended] at active
  cases active

theorem Update.map_apply {Column : Type} (update : Update) (rows : List Task) (column : Task → Column)
    (keeps : ∀ task, column (update.apply task) = column task) :
    (rows.map update.apply).map column = rows.map column := by
  rw [map_map]
  exact map_congr_left fun task _ => keeps task

theorem activeKeys_sublist (update : Update) (rows : List Task) :
    ((rows.map update.apply).filterMap Task.activeKey).Sublist (rows.filterMap Task.activeKey) := by
  induction rows with
  | nil => exact .slnil
  | cons head _ ih =>
    rw [map_cons, filterMap_cons, filterMap_cons]
    rcases (update.apply_advances head).activeKey with same | freed
    · rw [same]
      cases head.activeKey with
      | none => exact ih
      | some key => exact ih.cons_cons key
    rw [freed]
    cases head.activeKey with
    | none => exact ih
    | some key => exact ih.cons key

namespace Tasks

variable (tasks : Tasks)

def update (statement : Update) : Tasks where
  rows := tasks.rows.map statement.apply
  ids := by
    rw [statement.map_apply tasks.rows Task.id fun task => (statement.apply_advances task).id]
    exact tasks.ids
  taskIds := by
    rw [statement.map_apply tasks.rows Task.taskId fun task => (statement.apply_advances task).taskId]
    exact tasks.taskIds
  activeKeys := tasks.activeKeys.sublist (activeKeys_sublist statement tasks.rows)

def affects (statement : Update) : Bool := tasks.rows.any statement.selects

variable {tasks : Tasks}

theorem mem_update {statement : Update} :
    task ∈ (tasks.update statement).rows ↔ ∃ before ∈ tasks.rows, statement.apply before = task :=
  mem_map

def nextID (tasks : Tasks) : Nat := (tasks.rows.map Task.id).foldr max 0 + 1
theorem lt_nextID (member : task ∈ tasks.rows) : task.id < tasks.nextID :=
  Nat.lt_succ_of_le (le_max_of_le' 0 (mem_map_of_mem member) (le_refl task.id))

/-- The unique columns of a new row are free. -/
def Free (tasks : Tasks) (taskType taskId : String) : Prop :=
  ∀ task ∈ tasks.rows, task.taskId ≠ taskId ∧ task.activeKey ≠ some taskType

instance (tasks : Tasks) (taskType taskId : String) : Decidable (tasks.Free taskType taskId) :=
  inferInstanceAs (Decidable (∀ task ∈ tasks.rows, _))

def created (tasks : Tasks) (taskType taskId payload state : String) (now : Int) : Task :=
  { id := tasks.nextID, taskId, type := taskType, status := .pending, activeKey := some taskType, payload, state
    result := "", error := "", lockedBy := "", createdAt := now, updatedAt := now }

/-- `CreateSystemTask` under a generated `taskId`; a conflict on a unique index is an error. -/
def createSystemTask (tasks : Tasks) (taskType taskId payload state : String) (now : Int) : Option Tasks :=
  if free : tasks.Free taskType taskId then
    some
      { rows := tasks.rows ++ [tasks.created taskType taskId payload state now]
        ids := nodup_concat tasks.ids fun _ member => (lt_nextID member).ne
        taskIds := nodup_concat tasks.taskIds fun task member => (free task member).1
        activeKeys := by
          rw [filterMap_append]
          refine nodup_append.mpr ⟨tasks.activeKeys, nodup_singleton _, ?_⟩
          intro first listed second added same
          obtain ⟨task, member, key⟩ := mem_filterMap.mp listed
          rw [same, mem_singleton.mp added] at key
          exact (free task member).2 key }
  else none

variable {taskType payload state : String}

theorem mem_createSystemTask {next : Tasks}
    (inserted : tasks.createSystemTask taskType taskId payload state now = some next) (member : task ∈ next.rows) :
    task ∈ tasks.rows ∨ task = tasks.created taskType taskId payload state now := by
  unfold createSystemTask at inserted
  split at inserted <;> cases inserted
  simpa using member

theorem createSystemTask_keeps {next : Tasks}
    (inserted : tasks.createSystemTask taskType taskId payload state now = some next)
    (member : task ∈ tasks.rows) : task ∈ next.rows := by
  unfold createSystemTask at inserted
  split at inserted <;> cases inserted
  exact mem_append_left _ member

end Tasks

def markRunning (id : Nat) (taskType runnerID : String) (now : Int) : Update where
  selects task := decide (task.id = id ∧ task.type = taskType ∧ task.status = .pending)
  change task := { task with status := .running, lockedBy := runnerID, updatedAt := now }
  active _ selected := by rw [(of_decide_eq_true selected).2.2]; rfl
  advances _ selected := ⟨rfl, rfl, rfl, .start (of_decide_eq_true selected).2.2 rfl rfl⟩

def markSystemTaskLeaseExpired (taskId : String) (now : Int) : Update where
  selects task := decide (task.taskId = taskId ∧ task.status = .running)
  change task := { task with status := .failed, activeKey := none, error := "task lease expired", updatedAt := now }
  active _ selected := by rw [(of_decide_eq_true selected).2]; rfl
  advances _ selected := ⟨rfl, rfl, rfl, .finish (of_decide_eq_true selected).2 rfl rfl⟩

/-- The locks of all types; `type` is the primary key. -/
def Locks : Type := Table SystemTaskLock.type

instance : DecidableEq Locks := inferInstanceAs (DecidableEq (Table SystemTaskLock.type))

variable (locks : Locks)

def Locks.exist (taskId lockedBy : String) (now : Int) : Bool :=
  locks.rows.any fun lock => decide (lock.taskId = taskId ∧ lock.lockedBy = lockedBy ∧ now ≤ lock.lockedUntil)

def held (taskId lockedBy : String) (now : Int) (task : Task) : Bool :=
  decide (task.taskId = taskId ∧ task.status = .running ∧ task.lockedBy = lockedBy) &&
    locks.exist task.taskId lockedBy now

theorem held_running {locks : Locks} {lockedBy : String} (selected : held locks taskId lockedBy now task = true) :
    task.taskId = taskId ∧ task.status = .running ∧ task.lockedBy = lockedBy :=
  of_decide_eq_true (Bool.and_eq_true_iff.mp selected).1

theorem held_lock {locks : Locks} {lockedBy : String} (selected : held locks taskId lockedBy now task = true) :
    ∃ lock ∈ locks.rows, lock.taskId = taskId ∧ lock.lockedBy = lockedBy ∧ now ≤ lock.lockedUntil := by
  obtain ⟨lock, member, named⟩ := any_eq_true.mp (Bool.and_eq_true_iff.mp selected).2
  rw [(held_running selected).1] at named
  exact ⟨lock, member, of_decide_eq_true named⟩

def updateSystemTaskState (taskId lockedBy : String) (now : Int) (state : String) : Update where
  selects := held locks taskId lockedBy now
  change task := { task with state, updatedAt := now }
  active _ selected := by rw [(held_running selected).2.1]; rfl
  advances _ _ := ⟨rfl, rfl, rfl, .stay rfl rfl rfl⟩

inductive Ending where
  | succeeded | failed
  deriving DecidableEq, Repr

def Ending.status : Ending → SystemTaskStatus
  | .succeeded => .succeeded
  | .failed => .failed

theorem Ending.status_active (ending : Ending) : ending.status.active = false := by
  cases ending <;> rfl

def finishSystemTask (taskId lockedBy : String) (now : Int) (ending : Ending) (result error : String) : Update where
  selects := held locks taskId lockedBy now
  change task := { task with status := ending.status, activeKey := none, result, error, updatedAt := now }
  active _ selected := by rw [(held_running selected).2.1]; rfl
  advances _ selected := ⟨rfl, rfl, rfl, .finish (held_running selected).2.1 ending.status_active rfl⟩

namespace Locks

variable (locks : Locks)

def Free (taskType : String) : Prop := ∀ lock ∈ locks.rows, lock.type ≠ taskType
instance (locks : Locks) (taskType : String) : Decidable (locks.Free taskType) :=
  inferInstanceAs (Decidable (∀ lock ∈ locks.rows, _))

/-- The `INSERT` of `acquireSystemTaskLock`. -/
def acquire (lock : SystemTaskLock) : Option Locks :=
  if free : locks.Free lock.type then some (insert locks lock free) else none

def stale (taskType : String) (now : Int) (lock : SystemTaskLock) : Bool :=
  decide (lock.type = taskType ∧ lock.lockedUntil < now)

theorem stale_type {lock existing : SystemTaskLock} (selected : stale lock.type now existing = true) :
    lock.type = existing.type :=
  (of_decide_eq_true selected).1.symm

/-- The `UPDATE` of `acquireSystemTaskLock` on an expired lease. -/
def takeOver (lock : SystemTaskLock) (now : Int) : Locks :=
  modify locks (stale lock.type now) (fun _ => lock) fun _ selected => stale_type selected

variable (taskId lockedBy : String)

def renewable (now : Int) (lock : SystemTaskLock) : Bool :=
  decide (lock.taskId = taskId ∧ lock.lockedBy = lockedBy ∧ now ≤ lock.lockedUntil)

variable (lockUntil now : Int)

def extend (lock : SystemTaskLock) : SystemTaskLock := { lock with lockedUntil := lockUntil, updatedAt := now }
theorem extend_type (lock : SystemTaskLock) : (extend lockUntil now lock).type = lock.type := rfl
def renewSystemTaskLock : Locks :=
  modify locks (renewable taskId lockedBy now) (extend lockUntil now) fun lock _ => extend_type lockUntil now lock
def releaseSystemTaskLock : Locks := delete locks fun lock => decide (lock.taskId = taskId ∧ lock.lockedBy = lockedBy)

/-- The `DELETE` of `ExpireStaleSystemTaskLocks` for a lock it has read. -/
def deleteStale (read : SystemTaskLock) (now : Int) : Locks :=
  delete locks fun lock => decide (lock.type = read.type ∧ lock.taskId = read.taskId ∧
    lock.lockedBy = read.lockedBy ∧ lock.lockedUntil < now)

section
variable {locks next : Locks} {lock other : SystemTaskLock} {taskId lockedBy : String} {now : Int}

theorem acquire_keeps (acquired : locks.acquire lock = some next) (member : other ∈ locks.rows) :
    other ∈ next.rows := by
  unfold acquire at acquired
  split at acquired <;> cases acquired
  exact mem_append_left _ member

theorem takeOver_keeps (member : other ∈ locks.rows) (fresh : other.type = lock.type → now ≤ other.lockedUntil) :
    other ∈ (locks.takeOver lock now).rows := by
  refine mem_modify.mpr ⟨other, member, if_neg ?_⟩
  intro selected
  obtain ⟨type, _⟩ := of_decide_eq_true selected
  have valid := fresh type
  omega

theorem renewSystemTaskLock_keeps (taskId lockedBy : String) (lockUntil now : Int) (member : other ∈ locks.rows) :
    (if renewable taskId lockedBy now other then extend lockUntil now other else other) ∈
      (locks.renewSystemTaskLock taskId lockedBy lockUntil now).rows :=
  mem_modify.mpr ⟨other, member, rfl⟩

theorem releaseSystemTaskLock_keeps (member : other ∈ locks.rows)
    (differs : ¬ (other.taskId = taskId ∧ other.lockedBy = lockedBy)) :
    other ∈ (locks.releaseSystemTaskLock taskId lockedBy).rows :=
  mem_delete.mpr ⟨member, decide_eq_false differs⟩

theorem deleteStale_keeps (member : other ∈ locks.rows)
    (fresh : other.taskId = lock.taskId → now ≤ other.lockedUntil) : other ∈ (locks.deleteStale lock now).rows := by
  refine mem_delete.mpr ⟨member, decide_eq_false ?_⟩
  rintro ⟨_, named, _, _⟩
  have valid := fresh named
  omega

end

end Locks

structure Claim where
  id : Nat
  (taskType runnerID : String)
  (lockUntil now : Int)
  deriving DecidableEq, Repr

/-- The next statement of a claim. From the second one on the task is known. -/
inductive ClaimStage where
  | readTask
  | insertLock (taskId : String)
  | readLock (taskId : String)
  | takeOver (taskId expiredTaskId : String)
  | markExpired (taskId expiredTaskId : String)
  | markRunning (taskId : String)
  | release (taskId : String)
  | readAgain (taskId : String)
  deriving DecidableEq, Repr

inductive Job where
  | claim (call : Claim) (stage : ClaimStage)
  | renewCall (taskId runnerID : String) (lockUntil : Int)
  | renew (taskId runnerID : String) (lockUntil now : Int)
  | update (taskId runnerID : String) (now : Int) (state : String)
  | finish (taskId runnerID : String) (now : Int) (ending : Ending) (result error : String)
  | finishRelease (taskId runnerID : String)
  | readStale (runnerID : String) (now : Int)
  | markStale (runnerID : String) (now : Int) (lock : SystemTaskLock) (rest : List SystemTaskLock)
  | deleteStale (runnerID : String) (now : Int) (lock : SystemTaskLock) (rest : List SystemTaskLock)
  deriving DecidableEq, Repr

def Job.runner : Job → String
  | .claim call _ => call.runnerID
  | .renewCall _ runnerID _ | .renew _ runnerID _ _ | .update _ runnerID _ _ | .finish _ runnerID _ _ _ _
  | .finishRelease _ runnerID | .readStale runnerID _ | .markStale runnerID _ _ _
  | .deleteStale runnerID _ _ _ => runnerID

def Job.claimant : Job → Option String
  | .claim call _ => some call.runnerID
  | _ => none

structure Accepted where
  (taskId runnerID : String)
  now : Int
  deriving DecidableEq, Repr

structure State where
  clock : Int
  tasks : Tasks
  locks : Locks
  jobs : List Job
  dispatched : List (String × String)
  accepted : List Accepted
  deriving DecidableEq

def State.opened (clock : Int) : State :=
  { clock, tasks := ⟨[], List.nodup_nil, List.nodup_nil, List.nodup_nil⟩, locks := ⟨[], List.nodup_nil⟩
    jobs := [], dispatched := [], accepted := [] }

def State.update (state : State) (statement : Update) : State := { state with tasks := state.tasks.update statement }
def Claim.lock (call : Claim) (taskId : String) : SystemTaskLock :=
  { type := call.taskType, taskId, lockedBy := call.runnerID, lockedUntil := call.lockUntil, updatedAt := call.now }
def Claim.markRunning (call : Claim) : Update := SystemTask.markRunning call.id call.taskType call.runnerID call.now

def staleJobs (runnerID : String) (now : Int) : List SystemTaskLock → List Job
  | [] => []
  | lock :: rest => [.markStale runnerID now lock rest]

def runClaim (fault : Bool) (state : State) (call : Claim) : ClaimStage → State × List Job
  | .readTask =>
    if fault then (state, [])
    else
      match state.tasks.rows.find? fun task =>
        decide (task.id = call.id ∧ task.type = call.taskType ∧ task.status = .pending) with
      | none => (state, [])
      | some task => (state, [.claim call (.insertLock task.taskId)])
  | .insertLock taskId =>
    -- any error of the insert is taken for a conflict
    if fault then (state, [.claim call (.readLock taskId)])
    else
      match state.locks.acquire (call.lock taskId) with
      | none => (state, [.claim call (.readLock taskId)])
      | some locks => ({ state with locks }, [.claim call (.markRunning taskId)])
  | .readLock taskId =>
    if fault then (state, [])
    else
      match Table.find state.locks call.taskType with
      | none => (state, [])
      | some existing =>
        if call.now ≤ existing.lockedUntil then (state, [])
        else (state, [.claim call (.takeOver taskId existing.taskId)])
  | .takeOver taskId expiredTaskId =>
    if !fault && state.locks.rows.any (Locks.stale call.taskType call.now) then
      ({ state with locks := state.locks.takeOver (call.lock taskId) call.now },
        if expiredTaskId ≠ "" ∧ expiredTaskId ≠ taskId then [.claim call (.markExpired taskId expiredTaskId)]
        else [.claim call (.markRunning taskId)])
    else (state, [])
  | .markExpired taskId expiredTaskId =>
    if fault then (state, [.claim call (.release taskId)])
    else (state.update (markSystemTaskLeaseExpired expiredTaskId state.clock), [.claim call (.markRunning taskId)])
  | .markRunning taskId =>
    if !fault && state.tasks.affects call.markRunning then
      (state.update call.markRunning, [.claim call (.readAgain taskId)])
    else (state, [.claim call (.release taskId)])
  | .release taskId =>
    if fault then (state, [])
    else ({ state with locks := state.locks.releaseSystemTaskLock taskId call.runnerID }, [])
  | .readAgain taskId =>
    if fault then (state, [])
    else ({ state with dispatched := (taskId, call.runnerID) :: state.dispatched }, [])

/-- Run one job; with `fault` its statement fails. -/
def runJob (fault : Bool) (state : State) : Job → State × List Job
  | .claim call stage => runClaim fault state call stage
  | .renewCall taskId runnerID lockUntil => (state, [.renew taskId runnerID lockUntil state.clock])
  | .renew taskId runnerID lockUntil now =>
    if fault then (state, [])
    else ({ state with locks := state.locks.renewSystemTaskLock taskId runnerID lockUntil now }, [])
  | .update taskId runnerID now text =>
    let statement := updateSystemTaskState state.locks taskId runnerID now text
    if !fault && state.tasks.affects statement then
      ({ state.update statement with accepted := state.accepted ++ [⟨taskId, runnerID, now⟩] }, [])
    else (state, [])
  | .finish taskId runnerID now ending result error =>
    let statement := finishSystemTask state.locks taskId runnerID now ending result error
    if !fault && state.tasks.affects statement then
      ({ state.update statement with accepted := state.accepted ++ [⟨taskId, runnerID, now⟩] },
        [.finishRelease taskId runnerID])
    else (state, [])
  | .finishRelease taskId runnerID =>
    if fault then (state, [])
    else ({ state with locks := state.locks.releaseSystemTaskLock taskId runnerID }, [])
  | .readStale runnerID now =>
    if fault then (state, [])
    else (state, staleJobs runnerID now (state.locks.rows.filter fun lock => decide (lock.lockedUntil < now)))
  | .markStale runnerID now lock rest =>
    if fault then (state, [])
    else (state.update (markSystemTaskLeaseExpired lock.taskId state.clock), [.deleteStale runnerID now lock rest])
  | .deleteStale runnerID now lock rest =>
    if fault then (state, [])
    else ({ state with locks := state.locks.deleteStale lock now }, staleJobs runnerID now rest)

def systemTaskLockTTL : Int := 60

inductive LeaseCall where
  | renew
  | update (state : String)
  | finish (ending : Ending) (result error : String)

def LeaseCall.start (clock : Int) (taskId runnerID : String) : LeaseCall → Job
  | .renew => .renewCall taskId runnerID (clock + systemTaskLockTTL)
  | .update text => .update taskId runnerID clock text
  | .finish ending result error => .finish taskId runnerID clock ending result error

inductive Event where
  | create (taskType taskId payload state : String)
  | claim (id : Nat) (taskType runnerID : String) (lockUntil : Int)
  | lease (taskId runnerID : String) (call : LeaseCall)
  | expireStale (runnerID : String)
  | run (index : Nat) (fault : Bool)
  | crash (runnerID : String)
  | tick (seconds : Nat)

def step (state : State) : Event → Option State
  | .create taskType taskId payload text =>
    some { state with
      tasks := (state.tasks.createSystemTask taskType taskId payload text state.clock).getD state.tasks }
  | .claim id taskType runnerID lockUntil =>
    if some runnerID ∈ state.jobs.map Job.claimant then none
    else
      some { state with
        jobs := state.jobs ++ [.claim { id, taskType, runnerID, lockUntil, now := state.clock } .readTask] }
  | .lease taskId runnerID call =>
    if (taskId, runnerID) ∈ state.dispatched then
      some { state with jobs := state.jobs ++ [call.start state.clock taskId runnerID] }
    else none
  | .expireStale runnerID => some { state with jobs := state.jobs ++ [.readStale runnerID state.clock] }
  | .run index fault =>
    (state.jobs[index]?).map fun job =>
      let (after, next) := runJob fault state job
      { after with jobs := Pool.replace state.jobs index next }
  | .crash runnerID =>
    some { state with
      jobs := state.jobs.filter fun job => decide (job.runner ≠ runnerID)
      dispatched := state.dispatched.filter fun pair => decide (pair.2 ≠ runnerID) }
  | .tick seconds => some { state with clock := state.clock + seconds }

def machine : Machine State Event := ⟨step⟩

end FlowAPI.SystemTask
