import FlowAPI.SystemTask.Machine

/-! One active task and one lease for each type, and one way through the statuses.

A step leaves the tasks alone, runs one `UPDATE` that only moves rows forward, or
inserts a pending row under a free key. No condition on stalls, failures or crashes is needed.
-/

set_option autoImplicit false
namespace FlowAPI.SystemTask
open Semantics List Option Machine Tasks

inductive Changes (before : Tasks) : Tasks → Prop where
  | same : Changes before before
  | update (statement : Update) : Changes before (before.update statement)
  | create {after : Tasks} {taskType taskId payload text : String} {now : Int} :
      before.createSystemTask taskType taskId payload text now = some after → Changes before after

section
variable {state next : State} {job : Job} {fault : Bool}

inductive Writes (state : State) : Job → State × List Job → Prop where
  | quiet {job : Job} {result : State × List Job} : result.1.tasks = state.tasks → Writes state job result
  | expire {job : Job} {result : State × List Job} (taskId : String) :
      result.1.tasks = state.tasks.update (markSystemTaskLeaseExpired taskId state.clock) → Writes state job result
  | start (call : Claim) (taskId : String) :
      Writes state (.claim call (.markRunning taskId))
        (state.update call.markRunning, [.claim call (.readAgain taskId)])
  | report {taskId runnerID text : String} {now : Int} {result : State × List Job} :
      result.1.tasks = state.tasks.update (updateSystemTaskState state.locks taskId runnerID now text) →
      Writes state (.update taskId runnerID now text) result
  | finish {taskId runnerID text error : String} {now : Int} {ending : Ending} {result : State × List Job} :
      result.1.tasks = state.tasks.update (finishSystemTask state.locks taskId runnerID now ending text error) →
      Writes state (.finish taskId runnerID now ending text error) result

theorem runClaim_writes (fault : Bool) (state : State) (call : Claim) (stage : ClaimStage) :
    Writes state (.claim call stage) (runClaim fault state call stage) := by
  cases stage with simp only [runClaim]
  | markExpired _ expiredTaskId =>
    split
    · exact .quiet rfl
    · exact .expire expiredTaskId rfl
  | markRunning taskId =>
    split
    · exact .start call taskId
    · exact .quiet rfl
  | _ =>
    repeat' split
    all_goals exact .quiet rfl

theorem runJob_writes (fault : Bool) (state : State) (job : Job) : Writes state job (runJob fault state job) := by
  cases job with simp only [runJob]
  | claim call stage => exact runClaim_writes fault state call stage
  | update =>
    split
    · exact .report rfl
    · exact .quiet rfl
  | finish =>
    split
    · exact .finish rfl
    · exact .quiet rfl
  | markStale _ _ lock =>
    split
    · exact .quiet rfl
    · exact .expire lock.taskId rfl
  | _ =>
    repeat' split
    all_goals exact .quiet rfl

theorem Writes.changes {result : State × List Job} (writes : Writes state job result) :
    Changes state.tasks result.1.tasks := by
  cases writes with
  | quiet same =>
    rw [same]
    exact .same
  | expire _ updated | report updated | finish updated =>
    rw [updated]
    exact .update _
  | start => exact .update _

theorem step_changes {event : Event} (stepped : step state event = some next) : Changes state.tasks next.tasks := by
  cases event with
  | create taskType taskId payload text =>
    cases stepped
    cases inserted : state.tasks.createSystemTask taskType taskId payload text state.clock with
    | none => exact .same
    | some => exact .create inserted
  | claim =>
    obtain ⟨_, ⟨⟩⟩ := ite_none_left_eq_some.mp stepped
    exact .same
  | lease =>
    obtain ⟨_, ⟨⟩⟩ := ite_none_right_eq_some.mp stepped
    exact .same
  | run _ fault =>
    obtain ⟨job, _, rfl⟩ := map_eq_some_iff.mp stepped
    exact (runJob_writes fault state job).changes
  | expireStale | crash | tick =>
    cases stepped
    exact .same

end

/-- A row holds the key of its type exactly while it is pending or running. -/
def Task.Keyed (task : Task) : Prop := task.activeKey = if task.status.active then some task.type else none

variable {before after : Task} {tasks : Tasks} {admits : State → Event → Prop} {events : List Event}
  {state next : State} {taskId : String}

theorem Advances.keyed (advances : Advances before after) (keyed : before.Keyed) : after.Keyed := by
  unfold Task.Keyed at keyed ⊢
  cases advances.move with
  | stay status key => rw [key, status, advances.type, keyed]
  | start pending running key =>
    rw [key, running, advances.type, keyed, pending]
    rfl
  | finish _ ended key => simp [key, ended]

def Tasks.Keyed (tasks : Tasks) : Prop := ∀ task ∈ tasks.rows, task.Keyed

theorem Changes.keyed {before after : Tasks} (changes : Changes before after) (keyed : before.Keyed) : after.Keyed := by
  intro task member
  cases changes with
  | same => exact keyed task member
  | update statement =>
    obtain ⟨old, listed, rfl⟩ := mem_update.mp member
    exact (statement.apply_advances old).keyed (keyed old listed)
  | create inserted =>
    rcases mem_createSystemTask inserted member with listed | rfl
    · exact keyed task listed
    · rfl

theorem Tasks.Keyed.active_unique (keyed : tasks.Keyed) {first second : Task}
    (firstMember : first ∈ tasks.rows) (secondMember : second ∈ tasks.rows)
    (firstActive : first.status.active = true) (secondActive : second.status.active = true)
    (sameType : first.type = second.type) : first = second := by
  have firstKey := keyed first firstMember
  have secondKey := keyed second secondMember
  simp only [Task.Keyed, firstActive, secondActive, if_true] at firstKey secondKey
  rw [sameType] at firstKey
  exact Table.eq_of_nodup_filterMap tasks.activeKeys firstMember secondMember firstKey secondKey

theorem run_keyed {clock : Int} (run : machine.Runs admits (.opened clock) events state) : state.tasks.Keyed :=
  run.invariant (fun state => state.tasks.Keyed) (fun _ _ _ keyed _ stepped => (step_changes stepped).keyed keyed)
    fun _ member => absurd member not_mem_nil

def Tasks.status (tasks : Tasks) (taskId : String) : Option SystemTaskStatus :=
  (tasks.rows.find? fun task => decide (task.taskId = taskId)).map Task.status

def Tasks.Has (tasks : Tasks) (taskId : String) (condition : SystemTaskStatus → Prop) : Prop :=
  ∃ task ∈ tasks.rows, task.taskId = taskId ∧ condition task.status

theorem Tasks.status_iff {status : SystemTaskStatus} :
    tasks.status taskId = some status ↔ tasks.Has taskId (· = status) := by
  constructor
  · intro found
    obtain ⟨task, selected, same⟩ := Option.map_eq_some_iff.mp found
    have named := List.find?_some selected
    exact ⟨task, List.mem_of_find?_eq_some selected, of_decide_eq_true named, same⟩
  · rintro ⟨task, member, rfl, rfl⟩
    let table : Table Task.taskId := ⟨tasks.rows, tasks.taskIds⟩
    have found : table.find task.taskId = some task := Table.find_of_mem member
    exact congrArg (Option.map Task.status) found

theorem Advances.left_pending (advances : Advances before after)
    (left : before.status ≠ .pending) : after.status ≠ .pending := by
  cases advances.move with
  | stay status => rwa [status]
  | start pending => exact absurd pending left
  | finish _ ended =>
    intro pending
    rw [pending] at ended
    cases ended

theorem Advances.ended (advances : Advances before after)
    (ended : before.status.active = false) : after.status = before.status := by
  cases advances.move with
  | stay status => exact status
  | start pending =>
    rw [pending] at ended
    cases ended
  | finish running =>
    rw [running] at ended
    cases ended

theorem Changes.has {before after : Tasks} (changes : Changes before after) {condition : SystemTaskStatus → Prop}
    (kept : ∀ old new : Task, Advances old new → condition old.status → condition new.status)
    (has : before.Has taskId condition) : after.Has taskId condition := by
  obtain ⟨task, member, named, holds⟩ := has
  cases changes with
  | same => exact ⟨task, member, named, holds⟩
  | update statement =>
    have advances := statement.apply_advances task
    exact ⟨_, mem_update.mpr ⟨task, member, rfl⟩, advances.taskId.trans named, kept _ _ advances holds⟩
  | create inserted => exact ⟨task, createSystemTask_keeps inserted member, named, holds⟩

def starts (taskId : String) (state next : State) : Bool :=
  decide (state.tasks.status taskId = some .pending ∧ next.tasks.status taskId = some .running)
def ends (taskId : String) (state next : State) : Bool :=
  (state.tasks.status taskId).all SystemTaskStatus.active && (next.tasks.status taskId).any fun status => !status.active

theorem Tasks.not_has_pending (pending : tasks.status taskId = some .pending) : ¬ tasks.Has taskId (· ≠ .pending) := by
  rintro ⟨task, member, named, left⟩
  have found := status_iff.mpr ⟨task, member, named, rfl⟩
  rw [pending] at found
  exact left (some.inj found).symm

theorem starts_enters (happened : starts taskId state next = true) :
    ¬ state.tasks.Has taskId (· ≠ .pending) ∧ next.tasks.Has taskId (· ≠ .pending) := by
  obtain ⟨pending, running⟩ := of_decide_eq_true happened
  obtain ⟨task, member, named, same⟩ := status_iff.mp running
  refine ⟨not_has_pending pending, task, member, named, ?_⟩
  rw [same]
  decide

theorem ends_enters (happened : ends taskId state next = true) :
    ¬ state.tasks.Has taskId (·.active = false) ∧ next.tasks.Has taskId (·.active = false) := by
  obtain ⟨before, after⟩ := Bool.and_eq_true_iff.mp happened
  constructor
  · rintro ⟨task, member, named, ended⟩
    rw [status_iff.mpr ⟨task, member, named, rfl⟩, all_some, ended] at before
    cases before
  · cases found : next.tasks.status taskId with
    | none =>
      rw [found] at after
      cases after
    | some =>
      obtain ⟨task, member, named, rfl⟩ := status_iff.mp found
      rw [found] at after
      exact ⟨task, member, named, by simpa using after⟩

theorem starts_at_most_once {start final : State} (run : machine.Runs admits start events final) (taskId : String) :
    machine.occurrences (starts taskId) start events ≤ 1 :=
  (run.occurrences_le_one (starts taskId) (fun _ => True) (fun state => state.tasks.Has taskId (· ≠ .pending))
    (fun _ _ _ _ _ _ => trivial) (fun _ _ => starts_enters)
    (fun _ _ _ _ stepped => (step_changes stepped).has fun _ _ advances => advances.left_pending) trivial).1

theorem ends_at_most_once {start final : State} (run : machine.Runs admits start events final) (taskId : String) :
    machine.occurrences (ends taskId) start events ≤ 1 :=
  (run.occurrences_le_one (ends taskId) (fun _ => True) (fun state => state.tasks.Has taskId (·.active = false))
    (fun _ _ _ _ _ _ => trivial) (fun _ _ => ends_enters)
    (fun _ _ _ _ stepped => (step_changes stepped).has fun _ _ advances ended => by rwa [advances.ended ended])
    trivial).1

def State.Leases (state : State) (entry : Accepted) : Prop :=
  (∃ task ∈ state.tasks.rows, task.taskId = entry.taskId ∧ task.status = .running ∧ task.lockedBy = entry.runnerID) ∧
  ∃ lock ∈ state.locks.rows, lock.taskId = entry.taskId ∧ lock.lockedBy = entry.runnerID ∧ entry.now ≤ lock.lockedUntil

theorem leases_of_held {runnerID : String} {now : Int}
    (found : state.tasks.rows.any (held state.locks taskId runnerID now) = true) :
    state.Leases ⟨taskId, runnerID, now⟩ := by
  obtain ⟨task, member, selected⟩ := any_eq_true.mp found
  exact ⟨⟨task, member, held_running selected⟩, held_lock selected⟩

theorem runClaim_accepted (fault : Bool) (state : State) (call : Claim) (stage : ClaimStage) :
    (runClaim fault state call stage).1.accepted = state.accepted := by
  cases stage <;> simp only [runClaim] <;> repeat' split
  all_goals rfl

theorem runJob_accepted (fault : Bool) (state : State) (job : Job) :
    (runJob fault state job).1.accepted = state.accepted ∨
      ∃ entry, (runJob fault state job).1.accepted = state.accepted ++ [entry] ∧ state.Leases entry := by
  cases job with
  | claim call stage => exact .inl (runClaim_accepted fault state call stage)
  | update | finish =>
    simp only [runJob]
    split
    next found => exact .inr ⟨_, rfl, leases_of_held (Bool.and_eq_true_iff.mp found).2⟩
    · exact .inl rfl
  | _ =>
    refine .inl ?_
    simp only [runJob]
    repeat' split
    all_goals rfl

theorem accepted_leases {index : Nat} {fault : Bool} {entry : Accepted}
    (stepped : step state (.run index fault) = some next) (added : next.accepted = state.accepted ++ [entry]) :
    state.Leases entry := by
  obtain ⟨job, _, rfl⟩ := map_eq_some_iff.mp stepped
  rcases runJob_accepted fault state job with same | ⟨_, appended, leases⟩
  · have lengths := congrArg length (same.symm.trans added)
    simp at lengths
  · have last := append_cancel_left (appended.symm.trans added)
    cases last
    exact leases

/-- One active task and one lease for each type, statuses that move once, and
success of a state update or a final call only under a lease of the caller that was
unexpired when the call read the clock. -/
theorem system_tasks_exclusive {clock : Int} {events : List Event} {state : State}
    (run : machine.Runs unrestricted (.opened clock) events state) :
    (∀ first ∈ state.tasks.rows, ∀ second ∈ state.tasks.rows, first.status.active = true →
      second.status.active = true → first.type = second.type → first = second) ∧
    (∀ first ∈ state.locks.rows, ∀ second ∈ state.locks.rows, first.type = second.type → first = second) ∧
    (∀ taskId, machine.occurrences (starts taskId) (.opened clock) events ≤ 1 ∧
      machine.occurrences (ends taskId) (.opened clock) events ≤ 1) ∧
    ∀ index fault next entry, step state (.run index fault) = some next →
      next.accepted = state.accepted ++ [entry] → state.Leases entry := by
  refine ⟨?_, ?_, fun taskId => ⟨starts_at_most_once run taskId, ends_at_most_once run taskId⟩, ?_⟩
  · intro first firstMember second secondMember firstActive secondActive sameType
    exact (run_keyed run).active_unique firstMember secondMember firstActive secondActive sameType
  · intro first firstMember second secondMember sameType
    exact inj_on_of_nodup_map state.locks.unique firstMember secondMember sameType
  · intro index fault next entry stepped added
    exact accepted_leases stepped added

def claimed : List Event :=
  [.create "log_cleanup" "t" "" "", .claim 1 "log_cleanup" "a" 60, .run 0 false, .run 0 false, .run 0 false,
    .run 0 false]

/-- The final call reads the clock in the last second of the lease and stalls. -/
def stalledFinish : List Event := claimed ++ [.tick 60, .lease "t" "a" (.finish .succeeded "" ""), .tick 1]

def stalledState : State := (machine.exec unrestricted (.opened 0) stalledFinish).getD (.opened 0)

theorem system_tasks_exclusive_stalled : machine.occurrences (starts "t") (.opened 0) stalledFinish = 1 ∧
      machine.occurrences (starts "t") (.opened 0) stalledFinish ≤ 1 := by
  have run : machine.Runs unrestricted (.opened 0) stalledFinish stalledState := runs_iff_exec.mpr (by decide)
  exact ⟨by decide, ((system_tasks_exclusive run).2.2.1 "t").1⟩

/-- The statement finds its row although no lease is unexpired any more. -/
theorem finish_accepted_after_expiry : machine.Runs unrestricted (.opened 0) stalledFinish stalledState ∧
      (∀ lock ∈ stalledState.locks.rows, lock.lockedUntil < stalledState.clock) ∧
      (step stalledState (.run 0 false)).map State.accepted = some (stalledState.accepted ++ [⟨"t", "a", 60⟩]) :=
  ⟨runs_iff_exec.mpr (by decide), by decide, by decide⟩

theorem Changes.kept {before after : Tasks} (changes : Changes before after) {task : Task}
    (member : task ∈ before.rows) (ended : task.status.active = false) : task ∈ after.rows := by
  cases changes with
  | same => exact member
  | update statement => exact mem_update.mpr ⟨task, member, statement.apply_ended ended⟩
  | create inserted => exact createSystemTask_keeps inserted member

/-- Whatever stalls, fails or crashes, nobody changes or deletes the row of a task that has ended. -/
theorem ended_task_kept {start final : State} {events : List Event}
    (run : machine.Runs unrestricted start events final) :
    ∀ task ∈ start.tasks.rows, task.status.active = false → task ∈ final.tasks.rows := by
  intro task member ended
  exact run.invariant (task ∈ ·.tasks.rows)
    (fun _ _ _ listed _ stepped => (step_changes stepped).kept listed ended) member

def endedState : State := (step stalledState (.run 0 false)).getD stalledState

def endedAgain : List Event := [.lease "t" "a" (.finish .failed "" "late"), .run 1 false]

def refusedState : State := (machine.exec unrestricted endedState endedAgain).getD endedState

theorem ended_task_kept_again : endedState.tasks.rows.map Task.status = [.succeeded] ∧
    ∀ task ∈ endedState.tasks.rows, task.status.active = false → task ∈ refusedState.tasks.rows := by
  have run : machine.Runs unrestricted endedState endedAgain refusedState := runs_iff_exec.mpr (by decide)
  exact ⟨by decide, ended_task_kept run⟩

end FlowAPI.SystemTask
