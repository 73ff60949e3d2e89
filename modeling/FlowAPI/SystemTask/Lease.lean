import FlowAPI.SystemTask.Lifecycle

/-! The lease of a running task.

A claim takes the lease of a type and then marks the task running. When the lease
is the claimant's and unexpired at that moment, every clock value a call under way
has read before is at most its expiry, no claim of the type can begin while the task
runs, and renewals come later: nothing under way can take the lock row away.
-/

set_option autoImplicit false
namespace FlowAPI.SystemTask
open Semantics List Option Pool Job Tasks Locks

/-- A claim marks its task running under its own, unexpired lease. -/
def Job.Guarded (state : State) : Job → Prop
  | .claim call (.markRunning taskId) =>
    ∃ lock ∈ state.locks.rows, lock.type = call.taskType ∧ lock.taskId = taskId ∧
      lock.lockedBy = call.runnerID ∧ state.clock ≤ lock.lockedUntil
  | _ => True

instance (state : State) : DecidablePred (Job.Guarded state) := fun _ => by
  unfold Job.Guarded
  split <;> infer_instance

def Guarded (state : State) : Event → Prop
  | .run index _ => ∀ job ∈ state.jobs[index]?, job.Guarded state
  | _ => True

instance : DecidableRel Guarded := fun _ _ => by
  unfold Guarded
  split <;> infer_instance

def Tasks.Ran (tasks : Tasks) (task : Task) : Prop :=
  ∃ before ∈ tasks.rows, before.status = .running ∧ before.taskId = task.taskId ∧ before.type = task.type ∧
    before.lockedBy = task.lockedBy

def Tasks.Starts (tasks : Tasks) (call : Claim) (task : Task) : Prop :=
  ∃ before ∈ tasks.rows, before.status = .pending ∧ before.id = call.id ∧ before.type = call.taskType ∧
    before.taskId = task.taskId ∧ before.type = task.type ∧ task.lockedBy = call.runnerID

def Update.Calm (statement : Update) : Prop :=
  ∀ task, statement.selects task = true → task.status = .running ∧ (statement.change task).lockedBy = task.lockedBy

open Update
variable {fault : Bool} {job : Job}

variable {tasks before after : Tasks} {call : Claim} {taskId runnerID : String} {clock since now : Int}

theorem Update.Calm.ran {statement : Update} (calm : statement.Calm) {task : Task}
    (member : task ∈ (tasks.update statement).rows) (running : task.status = .running) : tasks.Ran task := by
  obtain ⟨before, listed, rfl⟩ := mem_update.mp member
  have advances := statement.apply_advances before
  by_cases selected : statement.selects before = true
  · obtain ⟨ran, locked⟩ := calm before selected
    refine ⟨before, listed, ran, advances.taskId.symm, advances.type.symm, ?_⟩
    simp [apply, selected, locked]
  · have same : statement.apply before = before := if_neg selected
    rw [same] at running ⊢
    exact ⟨before, listed, running, rfl, rfl, rfl⟩

theorem markSystemTaskLeaseExpired_calm (taskId : String) (now : Int) : (markSystemTaskLeaseExpired taskId now).Calm :=
  fun _ selected => ⟨(of_decide_eq_true selected).2, rfl⟩

theorem updateSystemTaskState_calm (locks : Locks) (taskId lockedBy : String) (now : Int) (text : String) :
    (updateSystemTaskState locks taskId lockedBy now text).Calm :=
  fun _ selected => ⟨(held_running selected).2.1, rfl⟩

theorem finishSystemTask_calm (locks : Locks) (taskId lockedBy : String) (now : Int) (ending : Ending)
    (result error : String) : (finishSystemTask locks taskId lockedBy now ending result error).Calm :=
  fun _ selected => ⟨(held_running selected).2.1, rfl⟩

theorem markRunning_origin {task : Task}
    (member : task ∈ (tasks.update call.markRunning).rows) (running : task.status = .running) :
    tasks.Ran task ∨ tasks.Starts call task := by
  obtain ⟨before, listed, rfl⟩ := mem_update.mp member
  have advances := call.markRunning.apply_advances before
  by_cases selected : call.markRunning.selects before = true
  · obtain ⟨id, type, pending⟩ := of_decide_eq_true selected
    refine .inr ⟨before, listed, pending, id, type, advances.taskId.symm, advances.type.symm, ?_⟩
    simp only [apply, selected, if_true]
    rfl
  · have same : call.markRunning.apply before = before := if_neg selected
    rw [same] at running ⊢
    exact .inl ⟨before, listed, running, rfl, rfl, rfl⟩

theorem Tasks.ran_self {task : Task} (member : task ∈ tasks.rows)
    (running : task.status = .running) : tasks.Ran task := ⟨task, member, running, rfl, rfl, rfl⟩

theorem runJob_origin {state : State} {task : Task}
    (member : task ∈ (runJob fault state job).1.tasks.rows) (running : task.status = .running) :
    state.tasks.Ran task ∨ ∃ call taskId, job = .claim call (.markRunning taskId) ∧ state.tasks.Starts call task ∧
        runJob fault state job = (state.update call.markRunning, [.claim call (.readAgain taskId)]) := by
  have writes := runJob_writes fault state job
  generalize runJob fault state job = result at member writes ⊢
  cases writes with try rw [updated] at member
  | quiet same =>
    rw [same] at member
    exact .inl (ran_self member running)
  | expire _ updated => exact .inl ((markSystemTaskLeaseExpired_calm _ _).ran member running)
  | report updated => exact .inl ((updateSystemTaskState_calm _ _ _ _ _).ran member running)
  | finish updated => exact .inl ((finishSystemTask_calm _ _ _ _ _ _ _).ran member running)
  | start call taskId =>
    rcases markRunning_origin member running with ran | started
    · exact .inl ran
    · exact .inr ⟨call, taskId, rfl, started, rfl⟩

def ClaimStage.task : ClaimStage → Option String
  | .insertLock taskId | .readLock taskId | .takeOver taskId _ | .markExpired taskId _ | .markRunning taskId
  | .release taskId => some taskId
  | .readTask | .readAgain _ => none

def Tasks.RunningBy (tasks : Tasks) (taskId runnerID : String) : Prop :=
  ∃ task ∈ tasks.rows, task.taskId = taskId ∧ task.status = .running ∧ task.lockedBy = runnerID
def Claim.Names (call : Claim) (taskId : String) (tasks : Tasks) : Prop :=
  ∃ task ∈ tasks.rows, task.id = call.id ∧ task.taskId = taskId ∧ task.type = call.taskType

structure Claim.Sound (call : Claim) (stage : ClaimStage) (clock : Int) (tasks : Tasks) : Prop where
  past : call.now ≤ clock
  names : ∀ taskId, stage.task = some taskId → call.Names taskId tasks
  waits : ∀ taskId, stage.task = some taskId → ¬ tasks.RunningBy taskId call.runnerID
  started : ∀ taskId, stage = .readAgain taskId → tasks.Has taskId (· ≠ .pending)

def Job.Sound (clock : Int) (tasks : Tasks) : Job → Prop
  | .claim call stage => call.Sound stage clock tasks
  | .renewCall taskId _ _ | .renew taskId _ _ _ | .update taskId _ _ _ | .finish taskId _ _ _ _ _ =>
    tasks.Has taskId (· ≠ .pending)
  | .finishRelease taskId _ => tasks.Has taskId (·.active = false)
  | .readStale _ now | .markStale _ now _ _ | .deleteStale _ now _ _ => now ≤ clock

section
variable (changes : Changes before after)
include changes

theorem Changes.started (has : before.Has taskId (· ≠ .pending)) : after.Has taskId (· ≠ .pending) :=
  changes.has (fun _ _ advances => advances.left_pending) has
theorem Changes.ended (has : before.Has taskId (·.active = false)) : after.Has taskId (·.active = false) :=
  changes.has (fun _ _ advances ended => by rwa [advances.ended ended]) has

theorem Changes.names (names : call.Names taskId before) : call.Names taskId after := by
  obtain ⟨task, member, id, named, type⟩ := names
  cases changes with
  | same => exact ⟨task, member, id, named, type⟩
  | update statement =>
    have advances := statement.apply_advances task
    exact ⟨_, mem_update.mpr ⟨task, member, rfl⟩, advances.id.trans id, advances.taskId.trans named,
      advances.type.trans type⟩
  | create inserted => exact ⟨task, createSystemTask_keeps inserted member, id, named, type⟩

end

theorem Job.Sound.kept {later : Int} (sound : job.Sound clock before)
    (passes : clock ≤ later) (changes : Changes before after)
    (waits : ∀ runnerID, job.claimant = some runnerID → ∀ taskId, after.RunningBy taskId runnerID →
      before.RunningBy taskId runnerID) : job.Sound later after := by
  cases job with
  | claim call =>
    exact
      { past := sound.past.trans passes
        names := fun taskId known => changes.names (sound.names taskId known)
        waits := fun taskId known runs => sound.waits taskId known (waits call.runnerID rfl taskId runs)
        started := fun taskId known => changes.started (sound.started taskId known) }
  | renewCall | renew | update | finish => exact changes.started sound
  | finishRelease => exact changes.ended sound
  | readStale | markStale | deleteStale =>
    have past := sound
    simp only [Job.Sound] at past ⊢
    omega

/-- What a job can do to the lock of a task that was marked running at `since`. -/
def Job.Yields (task : Task) (since : Int) : Job → Prop
  | .claim call stage => stage.task ≠ none → call.taskType = task.type → call.now ≤ since
  | .renewCall taskId _ lockUntil | .renew taskId _ lockUntil _ => taskId = task.taskId → since ≤ lockUntil
  | .deleteStale _ now lock _ => lock.taskId = task.taskId → now ≤ since
  | _ => True

def SystemTaskLock.Names (lock : SystemTaskLock) (task : Task) : Prop :=
  lock.type = task.type ∧ lock.taskId = task.taskId ∧ lock.lockedBy = task.lockedBy

structure State.Anchored (state : State) (task : Task) (since : Int) : Prop where
  past : since ≤ state.clock
  locked : ∃ lock ∈ state.locks.rows, lock.Names task ∧ since ≤ lock.lockedUntil
  yields : ∀ job ∈ state.jobs, job.Yields task since

structure State.Sound (state : State) : Prop where
  keyed : state.tasks.Keyed
  single : (state.jobs.filterMap claimant).Nodup
  jobs : ∀ job ∈ state.jobs, job.Sound state.clock state.tasks
  dispatched : ∀ pair ∈ state.dispatched, state.tasks.Has pair.1 (· ≠ .pending)
  anchored : ∀ task ∈ state.tasks.rows, task.status = .running → ∃ since, state.Anchored task since

theorem Job.Yields.congr {task other : Task} (yields : job.Yields task since)
    (taskId : task.taskId = other.taskId) (type : task.type = other.type) : job.Yields other since := by
  cases job <;> simp only [Job.Yields, ← taskId, ← type] at yields ⊢ <;> exact yields

theorem Tasks.eq_of_taskId {first second : Task} (firstMember : first ∈ tasks.rows)
    (secondMember : second ∈ tasks.rows) (same : first.taskId = second.taskId) : first = second :=
  inj_on_of_nodup_map tasks.taskIds firstMember secondMember same

theorem Tasks.Has.of_mem {condition : SystemTaskStatus → Prop} {task : Task}
    (has : tasks.Has taskId condition) (member : task ∈ tasks.rows) (named : task.taskId = taskId) :
    condition task.status := by
  obtain ⟨_, listed, same, _⟩ := has
  rwa [eq_of_taskId member listed (named.trans same.symm)]

section
variable {state : State} {task : Task} {since : Int}

theorem runJob_keeps_lock (fault : Bool) (sound : job.Sound state.clock state.tasks)
    (member : task ∈ state.tasks.rows) (running : task.status = .running) (yields : job.Yields task since)
    {lock : SystemTaskLock} (locked : lock ∈ state.locks.rows) (names : lock.Names task)
    (valid : since ≤ lock.lockedUntil) :
    ∃ kept ∈ (runJob fault state job).1.locks.rows, kept.Names task ∧ since ≤ kept.lockedUntil ∧
      (kept = lock ∨ ∃ lockUntil now, job = .renew task.taskId task.lockedBy lockUntil now) := by
  obtain ⟨type, named, lockedBy⟩ := names
  have remains : lock ∈ (runJob fault state job).1.locks.rows →
      ∃ kept ∈ (runJob fault state job).1.locks.rows, kept.Names task ∧ since ≤ kept.lockedUntil ∧
        (kept = lock ∨ ∃ lockUntil now, job = .renew task.taskId task.lockedBy lockUntil now) :=
    fun stays => ⟨lock, stays, ⟨type, named, lockedBy⟩, valid, .inl rfl⟩
  cases job with
  | claim _ stage =>
    apply remains
    cases stage with simp only [runJob, runClaim]
    | insertLock =>
      repeat' split
      · exact locked
      · exact locked
      next acquired => exact acquire_keeps acquired locked
    | takeOver taskId =>
      split
      · refine takeOver_keeps locked fun same => ?_
        -- a claim of the same type has read the clock before the lease began
        have before := yields (some_ne_none taskId) (same.symm.trans type)
        exact before.trans valid
      · exact locked
    | release taskId =>
      split
      · exact locked
      refine releaseSystemTaskLock_keeps locked ?_
      rintro ⟨sameTask, sameRunner⟩
      -- a claim releases the lock of a task it has not started
      exact sound.waits taskId rfl ⟨task, member, named.symm.trans sameTask, running, lockedBy.symm.trans sameRunner⟩
    | _ =>
      repeat' split
      all_goals exact locked
  | renew taskId runnerID lockUntil now =>
    by_cases renewed : fault = false ∧ renewable taskId runnerID now lock = true
    · obtain ⟨rfl, selected⟩ := renewed
      obtain ⟨sameTask, sameRunner, _⟩ := of_decide_eq_true selected
      have stays := renewSystemTaskLock_keeps taskId runnerID lockUntil now locked
      rw [if_pos selected] at stays
      refine ⟨_, stays, ⟨type, named, lockedBy⟩, yields (sameTask.symm.trans named), .inr ⟨lockUntil, now, ?_⟩⟩
      rw [← sameTask, ← sameRunner, named, lockedBy]
    apply remains
    simp only [runJob]
    split
    · exact locked
    next succeeds =>
      have other : ¬ renewable taskId runnerID now lock = true :=
        fun selected => renewed ⟨Bool.eq_false_iff.mpr succeeds, selected⟩
      have stays := renewSystemTaskLock_keeps taskId runnerID lockUntil now locked
      rwa [if_neg other] at stays
  | finishRelease taskId =>
    apply remains
    simp only [runJob]
    split
    · exact locked
    refine releaseSystemTaskLock_keeps locked ?_
    rintro ⟨sameTask, _⟩
    -- the lock is released for a task that has ended, and this one runs
    have released : state.tasks.Has taskId (·.active = false) := sound
    have ended := released.of_mem member (named.symm.trans sameTask)
    rw [running] at ended
    cases ended
  | deleteStale =>
    apply remains
    simp only [runJob]
    split
    · exact locked
    · exact deleteStale_keeps locked fun same => (yields (same.symm.trans named)).trans valid
  | _ =>
    apply remains
    simp only [runJob]
    repeat' split
    all_goals exact locked

theorem markSystemTaskLeaseExpired_stops {after : Task}
    (member : after ∈ (tasks.update (markSystemTaskLeaseExpired taskId now)).rows) (named : after.taskId = taskId) :
    after.status ≠ .running := by
  obtain ⟨before, _, rfl⟩ := mem_update.mp member
  have same := ((markSystemTaskLeaseExpired taskId now).apply_advances before).taskId
  unfold apply
  split
  · exact fun running => nomatch running
  next ignored =>
    intro running
    exact ignored (decide_eq_true ⟨same.symm.trans named, running⟩)

variable {next : Job} {stage : ClaimStage}

theorem mem_staleJobs {locks : List SystemTaskLock}
    (added : next ∈ staleJobs runnerID now locks) : ∃ lock rest, next = .markStale runnerID now lock rest := by
  cases locks with
  | nil => cases added
  | cons lock rest => exact ⟨lock, rest, mem_singleton.mp added⟩

theorem Tasks.Keyed.no_pending (keyed : tasks.Keyed) (member : task ∈ tasks.rows)
    (running : task.status = .running) {other : Task} (listed : other ∈ tasks.rows)
    (pending : other.status = .pending) : other.type ≠ task.type := by
  intro sameType
  have same := keyed.active_unique listed member (by rw [pending]; rfl) (by rw [running]; rfl) sameType
  rw [same, running] at pending
  cases pending

theorem find_pending {found : Task} (selected : (tasks.rows.find? fun task =>
      decide (task.id = call.id ∧ task.type = call.taskType ∧ task.status = .pending)) = some found) :
    found ∈ tasks.rows ∧ found.id = call.id ∧ found.type = call.taskType ∧ found.status = .pending := by
  have holds := find?_some selected
  exact ⟨mem_of_find?_eq_some selected, of_decide_eq_true holds⟩

section
variable (keyed : state.tasks.Keyed) (member : task ∈ state.tasks.rows) (running : task.status = .running)
include keyed member running

theorem runClaim_next_yields (yields : (claim call stage).Yields task since)
    (added : next ∈ (runClaim fault state call stage).2) : next.Yields task since := by
  cases stage with simp only [runClaim] at added
  | readTask =>
    repeat' split at added
    · cases added
    · cases added
    next _ selected =>
      obtain ⟨listed, _, type, pending⟩ := find_pending selected
      cases mem_singleton.mp added
      exact fun _ sameType => absurd (type.trans sameType) (keyed.no_pending member running listed pending)
  | _ =>
    -- past its first statement a claim keeps its type and time
    repeat' split at added
    all_goals first
      | cases added; done
      | cases mem_singleton.mp added
        exact fun _ sameType => yields (by simp [ClaimStage.task]) sameType

theorem runJob_next_yields (yields : job.Yields task since) {after : Task}
    (listed : after ∈ (runJob fault state job).1.tasks.rows) (named : after.taskId = task.taskId)
    (still : after.status = .running) (added : next ∈ (runJob fault state job).2) : next.Yields task since := by
  cases job with simp only [runJob] at added
  | claim => exact runClaim_next_yields keyed member running yields added
  | renewCall =>
    cases mem_singleton.mp added
    exact yields
  | markStale =>
    simp only [runJob] at added listed
    split at added
    · cases added
    next succeeds =>
      rw [if_neg succeeds] at listed
      cases mem_singleton.mp added
      exact fun same => absurd still (markSystemTaskLeaseExpired_stops listed (named.trans same.symm))
  | finish =>
    split at added
    · cases mem_singleton.mp added
      trivial
    · cases added
  | readStale | deleteStale =>
    split at added
    · cases added
    · obtain ⟨_, _, rfl⟩ := mem_staleJobs added
      trivial
  | _ => split at added <;> cases added
end

theorem Update.Calm.runningBy {statement : Update} (calm : statement.Calm)
    (runs : (tasks.update statement).RunningBy taskId runnerID) : tasks.RunningBy taskId runnerID := by
  obtain ⟨_, listed, named, running, locked⟩ := runs
  obtain ⟨before, known, ran, sameTask, _, sameRunner⟩ := calm.ran listed running
  exact ⟨before, known, sameTask.trans named, ran, sameRunner.trans locked⟩

theorem Claim.Sound.proceed {later : ClaimStage}
    (sound : call.Sound stage clock before) (same : later.task = stage.task)
    (waiting : later.task = some taskId) (changes : Changes before after)
    (calm : ∀ taskId, after.RunningBy taskId call.runnerID → before.RunningBy taskId call.runnerID) :
    call.Sound later clock after where
  past := sound.past
  names taskId known := changes.names (sound.names taskId (same ▸ known))
  waits taskId known runs := sound.waits taskId (same ▸ known) (calm taskId runs)
  started other again := by
    rw [again] at waiting
    cases waiting

theorem markRunning_started (names : call.Names taskId tasks) (found : tasks.affects call.markRunning = true) :
    (tasks.update call.markRunning).Has taskId (· ≠ .pending) := by
  obtain ⟨before, member, selected⟩ := any_eq_true.mp found
  obtain ⟨known, listed, sameId, named, _⟩ := names
  have id : before.id = call.id := (of_decide_eq_true selected).1
  have same : before = known := inj_on_of_nodup_map tasks.ids member listed (id.trans sameId.symm)
  refine ⟨_, mem_update.mpr ⟨before, member, rfl⟩, ?_, ?_⟩
  · rw [(call.markRunning.apply_advances before).taskId, same, named]
  · simp only [apply, selected, if_true]
    exact fun pending => nomatch pending

theorem finishSystemTask_ended {locks : Locks} {ending : Ending} {result error : String}
    (found : tasks.affects (finishSystemTask locks taskId runnerID now ending result error) = true) :
    (tasks.update (finishSystemTask locks taskId runnerID now ending result error)).Has taskId (·.active = false) := by
  obtain ⟨before, member, selected⟩ := any_eq_true.mp found
  have advances := (finishSystemTask locks taskId runnerID now ending result error).apply_advances before
  refine ⟨_, mem_update.mpr ⟨before, member, rfl⟩, advances.taskId.trans (held_running selected).1, ?_⟩
  simp only [apply, selected, if_true]
  exact ending.status_active

theorem runClaim_next_sound
    (sound : call.Sound stage state.clock state.tasks) (added : next ∈ (runClaim fault state call stage).2) :
    next.Sound state.clock (runClaim fault state call stage).1.tasks := by
  cases stage with simp only [runClaim] at added ⊢
  | readTask =>
    split at added
    · cases added
    next succeeds =>
      rw [if_neg succeeds]
      split at added
      · cases added
      next found selected =>
        obtain ⟨listed, id, type, pending⟩ := find_pending selected
        cases mem_singleton.mp added
        refine ⟨sound.past, ?_, ?_, ?_⟩
        · rintro taskId ⟨⟩
          exact ⟨found, listed, id, rfl, type⟩
        · rintro taskId ⟨⟩ ⟨other, known, named, running, _⟩
          rw [eq_of_taskId known listed named, pending] at running
          cases running
        · rintro taskId ⟨⟩
  | markExpired =>
    split at added
    next failed =>
      rw [if_pos failed]
      cases mem_singleton.mp added
      exact sound.proceed rfl rfl .same fun _ runs => runs
    next succeeds =>
      rw [if_neg succeeds]
      cases mem_singleton.mp added
      exact sound.proceed rfl rfl (.update _) fun _ => (markSystemTaskLeaseExpired_calm _ _).runningBy
  | markRunning taskId =>
    split at added
    next found =>
      rw [if_pos found]
      cases mem_singleton.mp added
      refine ⟨sound.past, ?_, ?_, ?_⟩
      · rintro other ⟨⟩
      · rintro other ⟨⟩
      · rintro _ ⟨⟩
        exact markRunning_started (sound.names taskId rfl) (Bool.and_eq_true_iff.mp found).2
    next missed =>
      rw [if_neg missed]
      cases mem_singleton.mp added
      exact sound.proceed rfl rfl .same fun _ runs => runs
  | _ =>
    -- the remaining statements leave the tasks alone
    repeat' split at added
    all_goals first
      | cases added; done
      | cases mem_singleton.mp added
        simp only [*]
        exact sound.proceed rfl rfl .same fun _ runs => runs

theorem runJob_next_sound (sound : job.Sound state.clock state.tasks)
    (added : next ∈ (runJob fault state job).2) : next.Sound state.clock (runJob fault state job).1.tasks := by
  cases job with simp only [runJob] at added
  | claim => exact runClaim_next_sound sound added
  | renewCall =>
    cases mem_singleton.mp added
    exact sound
  | finish =>
    simp only [runJob] at added ⊢
    split at added
    next found =>
      rw [if_pos found]
      cases mem_singleton.mp added
      exact finishSystemTask_ended (Bool.and_eq_true_iff.mp found).2
    · cases added
  | markStale =>
    split at added
    · cases added
    · cases mem_singleton.mp added
      exact sound
  | readStale | deleteStale =>
    split at added
    · cases added
    · obtain ⟨_, _, rfl⟩ := mem_staleJobs added
      exact sound
  | _ => split at added <;> cases added

theorem runJob_clock (fault : Bool) (state : State) (job : Job) : (runJob fault state job).1.clock = state.clock := by
  cases job with
  | claim _ stage =>
    cases stage <;> simp only [runJob, runClaim] <;> repeat' split
    all_goals rfl
  | _ =>
    simp only [runJob]
    repeat' split
    all_goals rfl

theorem staleJobs_claimant (runnerID : String) (now : Int) (locks : List SystemTaskLock) :
    (staleJobs runnerID now locks).filterMap claimant = [] := by
  cases locks <;> rfl

theorem runJob_claimant (fault : Bool) (state : State) (job : Job) :
    ((runJob fault state job).2.filterMap claimant).Sublist ([job].filterMap claimant) := by
  cases job with simp only [runJob]
  | claim _ stage =>
    cases stage <;> simp only [runClaim] <;> repeat' split
    all_goals simp [claimant]
  | readStale | deleteStale =>
    split
    · exact nil_sublist _
    · rw [staleJobs_claimant]
      exact nil_sublist _
  | _ =>
    repeat' split
    all_goals exact nil_sublist _

theorem runJob_dispatches {pair : String × String} (added : pair ∈ (runJob fault state job).1.dispatched) :
    pair ∈ state.dispatched ∨
      ∃ call taskId, job = .claim call (.readAgain taskId) ∧ pair = (taskId, call.runnerID) := by
  cases job with
  | claim call stage =>
    cases stage with
    | readAgain taskId =>
      simp only [runJob, runClaim] at added
      split at added
      · exact .inl added
      · rcases mem_cons.mp added with rfl | old
        · exact .inr ⟨call, taskId, rfl, rfl⟩
        · exact .inl old
    | _ =>
      left
      simp only [runJob, runClaim] at added
      repeat' split at added
      all_goals exact added
  | _ =>
    left
    simp only [runJob] at added
    repeat' split at added
    all_goals exact added

end

section
variable {state next : State} {index : Nat}

theorem State.Sound.anchor_started (sound : state.Sound)
    (selected : state.jobs[index]? = some (.claim call (.markRunning taskId)))
    (guarded : (claim call (.markRunning taskId)).Guarded state) {task : Task}
    (started : state.tasks.Starts call task) : State.Anchored { state.update call.markRunning with
      jobs := replace state.jobs index [.claim call (.readAgain taskId)] } task state.clock := by
  obtain ⟨before, listed, pending, id, type, named, sameType, runner⟩ := started
  obtain ⟨lock, locked, lockType, lockTask, lockRunner, valid⟩ := guarded
  have claims : call.Sound (.markRunning taskId) state.clock state.tasks := sound.jobs _ (mem_of_getElem? selected)
  obtain ⟨known, member, knownId, knownTask, _⟩ := claims.names taskId rfl
  have same : before = known := inj_on_of_nodup_map state.tasks.ids listed member (id.trans knownId.symm)
  have target : task.taskId = taskId := by rw [← named, same, knownTask]
  refine ⟨le_refl _, ⟨lock, locked, ⟨?_, ?_, ?_⟩, valid⟩, ?_⟩
  · rw [lockType, ← type, sameType]
  · rw [lockTask, target]
  · rw [lockRunner, runner]
  · refine forall_replace (fun other waits => ?_) (forall_mem_singleton.mpr fun waiting => absurd rfl waiting)
    · have relies := sound.jobs other waits
      cases other with
      | claim => exact fun _ _ => Claim.Sound.past relies
      | renewCall otherTask | renew otherTask =>
        -- renewals begin after the task has left pending
        intro sameTask
        have left : state.tasks.Has otherTask (· ≠ .pending) := relies
        exact absurd pending (left.of_mem listed (named.trans sameTask.symm))
      | deleteStale => exact fun _ => relies
      | _ => trivial

theorem State.Anchored.run_kept (sound : state.Sound) (selected : state.jobs[index]? = some job) {task after : Task}
    (anchored : state.Anchored task since) (member : task ∈ state.tasks.rows)
    (running : task.status = .running) (listed : after ∈ (runJob fault state job).1.tasks.rows)
    (still : after.status = .running) (named : task.taskId = after.taskId) (type : task.type = after.type)
    (runner : task.lockedBy = after.lockedBy) : State.Anchored { (runJob fault state job).1 with
      jobs := replace state.jobs index (runJob fault state job).2 } after since := by
  have present := mem_of_getElem? selected
  obtain ⟨_, locked, names, valid⟩ := anchored.locked
  obtain ⟨kept, stays, keptNames, keptValid, _⟩ :=
    runJob_keeps_lock fault (sound.jobs job present) member running (anchored.yields job present) locked names valid
  refine ⟨?_, ⟨kept, stays, ?_, keptValid⟩, ?_⟩
  · rw [runJob_clock]
    exact anchored.past
  · rw [SystemTaskLock.Names, ← named, ← type, ← runner]
    exact keptNames
  · refine forall_replace (fun other old => ?_) fun other added => ?_
    · exact (anchored.yields other old).congr named type
    · exact (runJob_next_yields sound.keyed member running (anchored.yields job present) listed named.symm still
        added).congr named type

theorem State.Sound.run_kept (sound : state.Sound) (selected : state.jobs[index]? = some job)
    (guarded : job.Guarded state) : State.Sound { (runJob fault state job).1 with
      jobs := replace state.jobs index (runJob fault state job).2 } := by
  have relies := sound.jobs job (mem_of_getElem? selected)
  have changes := (runJob_writes fault state job).changes
  refine
    { keyed := changes.keyed sound.keyed
      single := nodup_replace sound.single selected (runJob_claimant fault state job), jobs := ?_
      dispatched := ?_, anchored := ?_ }
  · intro other waiting
    rw [runJob_clock]
    rcases mem_of_replace_nodup sound.single selected waiting with added | ⟨old, apart⟩
    · exact runJob_next_sound relies added
    refine (sound.jobs other old).kept (le_refl _) changes ?_
    -- the claim that starts a row is the only one of its runner
    rintro runnerID claims taskId ⟨task, listed, named, running, locked⟩
    rcases runJob_origin listed running with ⟨before, known, ran, sameTask, _, sameRunner⟩ |
      ⟨call, _, rfl, ⟨_, _, _, _, _, _, _, runner⟩, _⟩
    · exact ⟨before, known, sameTask.trans named, ran, sameRunner.trans locked⟩
    · rw [← locked, runner] at claims
      exact absurd claims (apart call.runnerID rfl)
  · intro pair member
    rcases runJob_dispatches member with known | ⟨call, taskId, rfl, rfl⟩
    · exact changes.started (sound.dispatched pair known)
    · exact changes.started (Claim.Sound.started relies taskId rfl)
  · intro task listed running
    rcases runJob_origin listed running with ⟨before, known, ran, named, type, runner⟩ |
      ⟨call, taskId, rfl, started, effect⟩
    · obtain ⟨since, anchored⟩ := sound.anchored before known ran
      exact ⟨since, anchored.run_kept sound selected known ran listed running named type runner⟩
    · have anchored := sound.anchor_started selected guarded started
      rw [effect]
      exact ⟨state.clock, anchored⟩

theorem State.Anchored.mono {task : Task} (anchored : state.Anchored task since)
    (passes : state.clock ≤ next.clock) (locks : next.locks = state.locks)
    (added : ∀ job ∈ next.jobs, job ∈ state.jobs ∨ job.Yields task since) : next.Anchored task since := by
  refine ⟨anchored.past.trans passes, ?_, fun job member => ?_⟩
  · rw [locks]
    exact anchored.locked
  · exact (added job member).elim (anchored.yields job) id

theorem State.Sound.call_kept (sound : state.Sound) (relies : job.Sound state.clock state.tasks)
    (single : ((state.jobs ++ [job]).filterMap claimant).Nodup)
    (yields : ∀ task since, since ≤ state.clock → job.Yields task since) :
    State.Sound { state with jobs := state.jobs ++ [job] } where
  keyed := sound.keyed
  single := single
  jobs := forall_mem_append.mpr ⟨sound.jobs, forall_mem_singleton.mpr relies⟩
  dispatched := sound.dispatched
  anchored task listed running := by
    obtain ⟨since, anchored⟩ := sound.anchored task listed running
    exact ⟨since, anchored.mono (le_refl _) rfl (forall_mem_append.mpr ⟨fun _ => .inl,
      forall_mem_singleton.mpr (.inr (yields task since anchored.past))⟩)⟩

theorem single_append (single : (state.jobs.filterMap claimant).Nodup) (idle : job.claimant = none) :
    ((state.jobs ++ [job]).filterMap claimant).Nodup := by
  rw [filterMap_append, filterMap_cons, idle]
  simpa using single

theorem LeaseCall.start_claimant (call : LeaseCall) (clock : Int) (taskId runnerID : String) :
    (call.start clock taskId runnerID).claimant = none := by
  cases call <;> rfl

theorem LeaseCall.start_sound (call : LeaseCall) (started : state.tasks.Has taskId (· ≠ .pending)) :
    (call.start state.clock taskId runnerID).Sound state.clock state.tasks := by
  cases call <;> exact started

theorem LeaseCall.start_yields (call : LeaseCall) {task : Task}
    (past : since ≤ clock) : (call.start clock taskId runnerID).Yields task since := by
  cases call with
  | renew =>
    intro _
    unfold systemTaskLockTTL
    omega
  | update | finish => trivial

theorem State.Sound.create_kept (sound : state.Sound) {taskType payload text : String}
    (inserted : state.tasks.createSystemTask taskType taskId payload text now = some after) :
    State.Sound { state with tasks := after } := by
  have changes : Changes state.tasks after := .create inserted
  have old : ∀ task ∈ after.rows, task.status = .running → task ∈ state.tasks.rows := by
    intro task member running
    rcases mem_createSystemTask inserted member with listed | rfl
    · exact listed
    · cases running
  refine
    { keyed := changes.keyed sound.keyed, single := sound.single
      jobs := fun job member => (sound.jobs job member).kept (le_refl _) changes ?_
      dispatched := fun pair member => changes.started (sound.dispatched pair member)
      anchored := fun task member running => ?_ }
  · rintro _ _ _ ⟨task, member, named, running, locked⟩
    exact ⟨task, old task member running, named, running, locked⟩
  · obtain ⟨since, anchored⟩ := sound.anchored task (old task member running) running
    exact ⟨since, anchored.mono (le_refl _) rfl fun _ waiting => .inl waiting⟩

theorem State.Sound.step_kept {event : Event} (sound : state.Sound) (guarded : Guarded state event)
    (stepped : step state event = some next) : next.Sound := by
  cases event with
  | create taskType taskId payload text =>
    cases stepped
    cases inserted : state.tasks.createSystemTask taskType taskId payload text state.clock with
    | none => exact sound
    | some => exact sound.create_kept inserted
  | claim =>
    obtain ⟨idle, ⟨⟩⟩ := ite_none_left_eq_some.mp stepped
    refine sound.call_kept ⟨le_refl _, nofun, nofun, nofun⟩ ?_ fun _ _ _ waiting => absurd rfl waiting
    rw [filterMap_append]
    refine nodup_append.mpr ⟨sound.single, nodup_singleton _, ?_⟩
    intro first listed second added same
    obtain ⟨_, member, claims⟩ := mem_filterMap.mp listed
    rw [same, mem_singleton.mp added] at claims
    exact idle (claims ▸ mem_map_of_mem member)
  | lease _ _ call =>
    obtain ⟨known, ⟨⟩⟩ := ite_none_right_eq_some.mp stepped
    exact sound.call_kept (call.start_sound (sound.dispatched _ known))
      (single_append sound.single (call.start_claimant _ _ _)) fun _ _ past => call.start_yields past
  | expireStale =>
    cases stepped
    exact sound.call_kept (le_refl _) (single_append sound.single rfl) fun _ _ _ => trivial
  | run =>
    obtain ⟨job, selected, rfl⟩ := map_eq_some_iff.mp stepped
    exact sound.run_kept selected (guarded job selected)
  | crash =>
    cases stepped
    exact
      { keyed := sound.keyed, single := sound.single.sublist (filter_sublist.filterMap _)
        jobs := fun job member => sound.jobs job (mem_of_mem_filter member)
        dispatched := fun pair member => sound.dispatched pair (mem_of_mem_filter member)
        anchored := fun task listed running => by
          obtain ⟨since, anchored⟩ := sound.anchored task listed running
          exact ⟨since, anchored.mono (le_refl _) rfl fun _ member => .inl (mem_of_mem_filter member)⟩ }
  | tick seconds =>
    cases stepped
    have passes : state.clock ≤ state.clock + seconds := by omega
    exact
      { keyed := sound.keyed, single := sound.single
        jobs := fun job member => (sound.jobs job member).kept passes .same fun _ _ _ runs => runs
        dispatched := sound.dispatched
        anchored := fun task listed running => by
          obtain ⟨since, anchored⟩ := sound.anchored task listed running
          exact ⟨since, anchored.mono passes rfl fun _ member => .inl member⟩ }

theorem opened_sound (clock : Int) : (State.opened clock).Sound where
  keyed := nofun
  single := nodup_nil
  jobs := nofun
  dispatched := nofun
  anchored := nofun

theorem run_sound {events : List Event} (run : machine.Runs Guarded (.opened clock) events state) : state.Sound :=
  run.invariant State.Sound (fun _ _ _ sound guarded stepped => sound.step_kept guarded stepped) (opened_sound clock)

end

end FlowAPI.SystemTask
