import FlowAPI.SystemTask.Lease

/-! A task whose runner has stopped.

Nothing but a cleanup can touch such a task and its lock any more. A cleanup that
begins after the lease has expired reads the lock, and from then on either the lock
is still in its list or the task is failed.
-/

set_option autoImplicit false
namespace FlowAPI.SystemTask
open Semantics List Option Machine Tasks Pool
variable (expirer : String)

def Job.cleans : Job → Bool
  | .readStale runnerID _ | .markStale runnerID _ _ _ | .deleteStale runnerID _ _ _ => decide (runnerID = expirer)
  | _ => false

def State.Idle (state : State) (expirer : String) : Prop := ∀ job ∈ state.jobs, job.cleans expirer = false

def Completes (state : State) : Event → Prop
  | .run index fault => ∀ job ∈ state.jobs[index]?, job.cleans expirer = true → fault = false
  | .crash runnerID => runnerID ≠ expirer
  | _ => True

instance (expirer : String) : DecidableRel (Completes expirer) := by
  rintro _ ⟨⟩ <;> dsimp only [Completes] <;> infer_instance
def Undisturbed (state : State) (event : Event) : Prop := Guarded state event ∧ Completes expirer state event
instance (expirer : String) : DecidableRel (Undisturbed expirer) := fun _ _ => inferInstanceAs (Decidable (_ ∧ _))

structure State.Stopped (state : State) (runnerID : String) : Prop where
  jobs : ∀ job ∈ state.jobs, job.runner ≠ runnerID
  dispatched : ∀ pair ∈ state.dispatched, pair.2 ≠ runnerID

def Tasks.LeaseExpired (tasks : Tasks) (taskId : String) : Prop :=
  ∃ task ∈ tasks.rows, task.taskId = taskId ∧ task.status = .failed ∧ task.activeKey = none ∧
    task.error = "task lease expired"

def Job.Serves (task : Task) : Job → Prop
  | .claim call (.readAgain taskId) => taskId = task.taskId ∧ call.runnerID = task.lockedBy
  | .renewCall taskId runnerID _ | .renew taskId runnerID _ _ | .update taskId runnerID _ _
  | .finish taskId runnerID _ _ _ _ => taskId = task.taskId ∧ runnerID = task.lockedBy
  | _ => False

structure State.Abandons (state : State) (task : Task) : Prop where
  jobs : ∀ job ∈ state.jobs, ¬ job.Serves task
  dispatched : (task.taskId, task.lockedBy) ∉ state.dispatched

theorem State.Stopped.abandons {state : State} {task : Task} (stopped : state.Stopped task.lockedBy) :
    state.Abandons task := by
  refine ⟨fun job member serves => ?_, fun member => stopped.dispatched _ member rfl⟩
  have other := stopped.jobs job member
  cases job with
  | claim _ stage =>
    cases stage with
    | readAgain => exact other serves.2
    | _ => exact serves
  | renewCall | renew | update | finish => exact other serves.2
  | _ => exact serves

def Job.Clears (lock : SystemTaskLock) : Job → Prop
  | .readStale runnerID now => runnerID = expirer ∧ lock.lockedUntil < now
  | .markStale runnerID _ first rest => runnerID = expirer ∧ lock ∈ first :: rest
  | .deleteStale runnerID _ _ rest => runnerID = expirer ∧ lock ∈ rest
  | _ => False

theorem Job.Clears.cleans {expirer : String} {lock : SystemTaskLock} {job : Job} (clears : job.Clears expirer lock) :
    job.cleans expirer = true := by
  cases job with
  | readStale | markStale | deleteStale => exact decide_eq_true clears.1
  | _ => exact clears.elim

theorem Job.Clears.runner {expirer : String} {lock : SystemTaskLock} {job : Job} (clears : job.Clears expirer lock) :
    job.runner = expirer := by
  cases job with
  | readStale | markStale | deleteStale => exact clears.1
  | _ => exact clears.elim

structure State.Awaits (state : State) (expirer : String) (task : Task) (lock : SystemTaskLock) : Prop where
  member : task ∈ state.tasks.rows
  running : task.status = .running
  abandons : state.Abandons task
  locked : lock ∈ state.locks.rows
  names : lock.Names task
  clears : ∃ job ∈ state.jobs, job.Clears expirer lock

theorem Changes.leaseExpired {before after : Tasks} (changes : Changes before after) {taskId : String}
    (expired : before.LeaseExpired taskId) : after.LeaseExpired taskId := by
  obtain ⟨task, member, named, failed, freed, error⟩ := expired
  refine ⟨task, ?_, named, failed, freed, error⟩
  cases changes with
  | same => exact member
  | update statement => exact mem_update.mpr ⟨task, member, statement.apply_ended (by rw [failed]; rfl)⟩
  | create inserted => exact createSystemTask_keeps inserted member

section
variable {state next : State} {task : Task} {lock : SystemTaskLock} {expirer : String} {job : Job} {tasks : Tasks}

theorem Tasks.mem_update_of_not {statement : Update} (member : task ∈ tasks.rows)
    (ignored : ¬ statement.selects task = true) : task ∈ (tasks.update statement).rows :=
  mem_update.mpr ⟨task, member, if_neg ignored⟩

theorem staleJobs_clears {now : Int} {locks : List SystemTaskLock} (listed : lock ∈ locks) :
    ∃ later ∈ staleJobs expirer now locks, later.Clears expirer lock := by
  cases locks with
  | nil => cases listed
  | cons => exact ⟨_, mem_singleton_self _, rfl, listed⟩

section
variable (running : task.status = .running)
include running

theorem markSystemTaskLeaseExpired_expires (now : Int) (member : task ∈ tasks.rows) :
    (tasks.update (markSystemTaskLeaseExpired task.taskId now)).LeaseExpired task.taskId := by
  have selected : (markSystemTaskLeaseExpired task.taskId now).selects task = true := decide_eq_true ⟨rfl, running⟩
  exact ⟨_, mem_update.mpr ⟨task, member, if_pos selected⟩, rfl, rfl, rfl, rfl⟩

theorem markSystemTaskLeaseExpired_cases (taskId : String) (now : Int) (member : task ∈ tasks.rows) :
    task ∈ (tasks.update (markSystemTaskLeaseExpired taskId now)).rows ∨
      (tasks.update (markSystemTaskLeaseExpired taskId now)).LeaseExpired task.taskId := by
  by_cases named : task.taskId = taskId
  · subst named
    exact .inr (markSystemTaskLeaseExpired_expires running now member)
  · exact .inl (mem_update_of_not member fun selected => named (of_decide_eq_true selected).1)

variable (member : task ∈ state.tasks.rows)
include member

theorem runJob_row (fault : Bool) (abandoned : ¬ job.Serves task) :
    task ∈ (runJob fault state job).1.tasks.rows ∨ (runJob fault state job).1.tasks.LeaseExpired task.taskId := by
  have served : ∀ {taskId runnerID : String} {now : Int},
      ¬ (taskId = task.taskId ∧ runnerID = task.lockedBy) → ¬ held state.locks taskId runnerID now task = true := by
    intro taskId runnerID now other selected
    obtain ⟨named, _, locked⟩ := held_running selected
    exact other ⟨named.symm, locked.symm⟩
  have writes := runJob_writes fault state job
  generalize runJob fault state job = result at writes ⊢
  cases writes with
  | quiet same =>
    rw [same]
    exact .inl member
  | expire taskId updated =>
    rw [updated]
    exact markSystemTaskLeaseExpired_cases running taskId state.clock member
  | report updated | finish updated =>
    rw [updated]
    exact .inl (mem_update_of_not member (served abandoned))
  | start =>
    refine .inl (mem_update_of_not member fun selected => ?_)
    have pending := (of_decide_eq_true selected).2.2
    rw [running] at pending
    cases pending

theorem runClaim_next_abandons {fault : Bool} {call : Claim} {stage : ClaimStage} {later : Job}
    (sound : call.Sound stage state.clock state.tasks) (added : later ∈ (runClaim fault state call stage).2) :
    ¬ later.Serves task := by
  cases stage with simp only [runClaim] at added
  | markRunning taskId =>
    split at added
    · cases mem_singleton.mp added
      rintro ⟨named, runner⟩
      exact sound.waits taskId rfl ⟨task, member, named.symm, running, runner.symm⟩
    · cases mem_singleton.mp added
      exact id
  | _ =>
    repeat' split at added
    all_goals first
      | cases added; done
      | cases mem_singleton.mp added
        exact id

theorem runJob_next_abandons {fault : Bool} {later : Job} (sound : job.Sound state.clock state.tasks)
    (abandoned : ¬ job.Serves task) (added : later ∈ (runJob fault state job).2) : ¬ later.Serves task := by
  cases job with simp only [runJob] at added
  | claim => exact runClaim_next_abandons running member sound added
  | renewCall =>
    cases mem_singleton.mp added
    exact abandoned
  | readStale | deleteStale =>
    split at added
    · cases added
    · obtain ⟨_, _, rfl⟩ := mem_staleJobs added
      exact id
  | _ =>
    split at added
    all_goals first
      | cases added; done
      | cases mem_singleton.mp added
        exact id

theorem runJob_clears (clears : job.Clears expirer lock) (locked : lock ∈ state.locks.rows) (names : lock.Names task) :
    (∃ later ∈ (runJob false state job).2, later.Clears expirer lock) ∨
      (runJob false state job).1.tasks.LeaseExpired task.taskId := by
  cases job with
  | readStale =>
    obtain ⟨rfl, expired⟩ := clears
    exact .inl (staleJobs_clears (mem_filter.mpr ⟨locked, decide_eq_true expired⟩))
  | markStale =>
    obtain ⟨rfl, listed⟩ := clears
    rcases mem_cons.mp listed with rfl | later
    · have expired := markSystemTaskLeaseExpired_expires running state.clock member
      rw [← names.2.1] at expired ⊢
      exact .inr expired
    · exact .inl ⟨_, mem_singleton_self _, rfl, later⟩
  | deleteStale =>
    obtain ⟨rfl, listed⟩ := clears
    exact .inl (staleJobs_clears listed)
  | _ => exact clears.elim

end

/-- Either the task is failed and its type free, or the cleanup still has its lock to mark. -/
def State.Doomed (state : State) (expirer : String) (task : Task) (lock : SystemTaskLock) : Prop :=
  state.tasks.LeaseExpired task.taskId ∨ state.Awaits expirer task lock

section
variable (awaits : state.Awaits expirer task lock)
include awaits

theorem State.Awaits.run_kept {index : Nat} {fault : Bool}
    (sound : state.Sound) (selected : state.jobs[index]? = some job)
    (completes : job.cleans expirer = true → fault = false) : State.Doomed { (runJob fault state job).1 with
      jobs := replace state.jobs index (runJob fault state job).2 } expirer task lock := by
  have present := mem_of_getElem? selected
  have abandoned := awaits.abandons.jobs job present
  have relies := sound.jobs job present
  rcases runJob_row awaits.running awaits.member fault abandoned with stays | expired
  · by_cases done : (runJob fault state job).1.tasks.LeaseExpired task.taskId
    · exact .inl done
    obtain ⟨_, anchored⟩ := sound.anchored task awaits.member awaits.running
    obtain ⟨other, otherLocked, otherNames, valid⟩ := anchored.locked
    -- the lock that names the task is the only one of its type
    have same : other = lock := inj_on_of_nodup_map state.locks.unique otherLocked awaits.locked
      (otherNames.1.trans awaits.names.1.symm)
    subst same
    obtain ⟨kept, keptLocked, _, _, unchanged⟩ := runJob_keeps_lock fault relies awaits.member awaits.running
      (anchored.yields job present) awaits.locked awaits.names valid
    have keeps : kept = other := by
      rcases unchanged with same | ⟨_, _, rfl⟩
      · exact same
      · exact absurd ⟨rfl, rfl⟩ abandoned
    subst keeps
    refine .inr ⟨stays, awaits.running, ⟨?_, ?_⟩, keptLocked, awaits.names, ?_⟩
    · exact forall_replace awaits.abandons.jobs fun _ =>
        runJob_next_abandons awaits.running awaits.member relies abandoned
    · intro added
      rcases runJob_dispatches added with old | ⟨_, _, rfl, pair⟩
      · exact awaits.abandons.dispatched old
      · obtain ⟨named, runner⟩ := Prod.mk.inj pair
        exact abandoned ⟨named.symm, runner.symm⟩
    · obtain ⟨cleaner, waiting, clears⟩ := awaits.clears
      -- the cleanup hands the lock from job to job; other jobs leave it in the pool
      by_cases own : cleaner = job
      · subst own
        have succeeds := completes clears.cleans
        subst succeeds
        rcases runJob_clears awaits.running awaits.member clears awaits.locked awaits.names with
          ⟨later, added, hands⟩ | expired
        · exact ⟨later, mem_replace_next added, hands⟩
        · exact absurd expired done
      · exact ⟨cleaner, mem_replace selected waiting own, clears⟩
  · exact .inl expired

theorem State.Awaits.mono (member : task ∈ next.tasks.rows)
    (locks : next.locks = state.locks) (dispatched : ∀ pair ∈ next.dispatched, pair ∈ state.dispatched)
    (added : ∀ job ∈ next.jobs, job ∈ state.jobs ∨ ¬ job.Serves task)
    (kept : ∀ job ∈ state.jobs, job.Clears expirer lock → job ∈ next.jobs) : next.Awaits expirer task lock where
  member := member
  running := awaits.running
  abandons :=
    { jobs := fun job waiting => (added job waiting).elim (awaits.abandons.jobs job) id
      dispatched := fun pair => awaits.abandons.dispatched (dispatched _ pair) }
  locked := by
    rw [locks]
    exact awaits.locked
  names := awaits.names
  clears := by
    obtain ⟨job, waiting, clears⟩ := awaits.clears
    exact ⟨job, kept job waiting clears, clears⟩

theorem State.Awaits.call_kept (other : ¬ job.Serves task) :
    State.Awaits { state with jobs := state.jobs ++ [job] } expirer task lock := by
  refine awaits.mono awaits.member rfl (fun _ pair => pair) ?_ fun _ waiting _ => mem_append_left _ waiting
  exact forall_mem_append.mpr ⟨fun _ => .inl, forall_mem_singleton.mpr (.inr other)⟩

theorem State.Awaits.step_kept {event : Event} (sound : state.Sound)
    (completes : Completes expirer state event) (stepped : step state event = some next) :
    next.Doomed expirer task lock := by
  cases event with
  | create taskType taskId payload text =>
    cases stepped
    refine .inr (awaits.mono ?_ rfl (fun _ pair => pair) (fun _ waiting => .inl waiting) fun _ waiting _ => waiting)
    cases inserted : state.tasks.createSystemTask taskType taskId payload text state.clock with
    | none => exact awaits.member
    | some => exact createSystemTask_keeps inserted awaits.member
  | claim =>
    obtain ⟨_, ⟨⟩⟩ := ite_none_left_eq_some.mp stepped
    exact .inr (awaits.call_kept fun serves => serves)
  | lease _ _ call =>
    obtain ⟨known, ⟨⟩⟩ := ite_none_right_eq_some.mp stepped
    refine .inr (awaits.call_kept fun serves => awaits.abandons.dispatched ?_)
    cases call <;> exact serves.1 ▸ serves.2 ▸ known
  | expireStale =>
    cases stepped
    exact .inr (awaits.call_kept id)
  | run =>
    obtain ⟨job, selected, rfl⟩ := map_eq_some_iff.mp stepped
    exact awaits.run_kept sound selected (completes job selected)
  | crash =>
    cases stepped
    refine .inr (awaits.mono awaits.member rfl (fun _ => mem_of_mem_filter)
      (fun _ waiting => .inl (mem_of_mem_filter waiting)) fun job waiting clears => ?_)
    refine mem_filter.mpr ⟨waiting, decide_eq_true ?_⟩
    rw [clears.runner]
    exact completes.symm
  | tick =>
    cases stepped
    exact .inr (awaits.mono awaits.member rfl (fun _ pair => pair) (fun _ waiting => .inl waiting)
      fun _ waiting _ => waiting)

end

theorem run_doomed {events : List Event} (run : machine.Runs (Undisturbed expirer) state events next)
    (sound : state.Sound) (doomed : state.Doomed expirer task lock) : next.Doomed expirer task lock := by
  refine (run.invariant (fun state => state.Sound ∧ state.Doomed expirer task lock) ?_ ⟨sound, doomed⟩).2
  intro state event next held undisturbed stepped
  refine ⟨held.1.step_kept undisturbed.1 stepped, ?_⟩
  rcases held.2 with expired | awaits
  · exact .inl ((step_changes stepped).leaseExpired expired)
  · exact awaits.step_kept held.1 undisturbed.2 stepped

def State.ranLast (state : State) (front : List Job) (job : Job) : State :=
  { (runJob false state job).1 with jobs := front ++ (runJob false state job).2 }

theorem step_last {front : List Job} (pool : state.jobs = front ++ [job]) (guarded : job.Guarded state) :
    Guarded state (.run front.length false) ∧
      machine.step state (.run front.length false) = some (state.ranLast front job) := by
  have selected : state.jobs[front.length]? = some job := by simp [pool]
  constructor
  · intro other found
    cases selected.symm.trans found
    exact guarded
  · refine map_eq_some_iff.mpr ⟨job, selected, ?_⟩
    simp [State.ranLast, pool, replace_last]

theorem stale_completes {front : List Job} {now : Int} (locks : List SystemTaskLock) (state : State)
    (pool : state.jobs = front ++ staleJobs expirer now locks) :
    ∃ count final, machine.Runs Guarded state (replicate count (.run front.length false)) final ∧
      final.jobs = front := by
  induction locks generalizing state with
  | nil => exact ⟨0, state, .nil state, by simpa [staleJobs] using pool⟩
  | cons lock rest ih =>
    let marked := state.ranLast front (.markStale expirer now lock rest)
    have waiting : marked.jobs = front ++ [.deleteStale expirer now lock rest] := rfl
    obtain ⟨marks, stepped⟩ := step_last pool trivial
    obtain ⟨deletes, after⟩ := step_last waiting trivial
    obtain ⟨count, final, run, ended⟩ := ih (marked.ranLast front (.deleteStale expirer now lock rest)) rfl
    exact ⟨count + 2, final, .cons marks stepped (.cons deletes after run), ended⟩

theorem cleanup_completes {next : State} (begun : step state (.expireStale expirer) = some next) :
    ∃ count final, machine.Runs Guarded next (replicate count (.run state.jobs.length false)) final ∧
      final.jobs = state.jobs := by
  have pool : next.jobs = state.jobs ++ [.readStale expirer state.clock] := by
    cases begun
    rfl
  obtain ⟨reads, stepped⟩ := step_last pool trivial
  obtain ⟨count, final, run, ended⟩ :=
    stale_completes _ (next.ranLast state.jobs (.readStale expirer state.clock)) rfl
  exact ⟨count + 1, final, .cons reads stepped run, ended⟩

end

/-- With every task marked running under its own unexpired lease: a running task has
a lock row that names it; and once its runner has stopped and the lease has expired,
a cleanup can always come to its end, and however it is interleaved with the others,
at its end the task is failed and its type free. -/
theorem running_task_is_leased {clock : Int} {events : List Event} {state : State}
    (run : machine.Runs Guarded (.opened clock) events state) {task : Task} (member : task ∈ state.tasks.rows)
    (running : task.status = .running) :
    ∃ lock ∈ state.locks.rows, lock.Names task ∧
      ∀ expirer next, state.Stopped task.lockedBy → lock.lockedUntil < state.clock → state.Idle expirer →
        step state (.expireStale expirer) = some next →
        (∃ count final, machine.Runs Guarded next (List.replicate count (.run state.jobs.length false)) final ∧
          final.Idle expirer) ∧
        ∀ later final, machine.Runs (Undisturbed expirer) next later final → final.Idle expirer →
          final.tasks.LeaseExpired task.taskId := by
  have sound := run_sound run
  obtain ⟨_, anchored⟩ := sound.anchored task member running
  obtain ⟨lock, locked, names, _⟩ := anchored.locked
  refine ⟨lock, locked, names, fun expirer next stopped expired idle begun => ⟨?_, ?_⟩⟩
  · obtain ⟨count, final, alone, ended⟩ := cleanup_completes begun
    exact ⟨count, final, alone, fun job waiting => idle job (ended ▸ waiting)⟩
  · intro later final rest ended
    have begins : Guarded state (.expireStale expirer) := trivial
    have soundNext : next.Sound := sound.step_kept begins begun
    have awaits : next.Awaits expirer task lock := by
      cases begun
      refine ⟨member, running, ⟨?_, stopped.abandons.dispatched⟩, locked, names,
        ⟨_, mem_append_right _ (mem_singleton_self _), rfl, expired⟩⟩
      intro job waiting
      rcases mem_append.mp waiting with old | added
      · exact stopped.abandons.jobs job old
      · cases mem_singleton.mp added
        exact id
    rcases run_doomed rest soundNext (.inr awaits) with done | waits
    · exact done
    · obtain ⟨job, waiting, clears⟩ := waits.clears
      exact absurd clears.cleans (by simp [ended job waiting])

def crashed : List Event := claimed ++ [.crash "a", .tick 61]

def crashedState : State := (machine.exec Guarded (.opened 0) crashed).getD (.opened 0)

def crashedTask : Task :=
  { id := 1, taskId := "t", type := "log_cleanup", status := .running, activeKey := some "log_cleanup"
    payload := "", state := "", result := "", error := "", lockedBy := "a", createdAt := 0, updatedAt := 0 }

def begunState : State := (step crashedState (.expireStale "b")).getD crashedState

/-- A cleanup by another runner. The type takes no new task before the mark, and one after it. -/
def cleanup : List Event :=
  [.run 0 false, .create "log_cleanup" "u" "" "", .run 0 false, .create "log_cleanup" "v" "" "", .run 0 false]

def cleanedState : State := (machine.exec (Undisturbed "b") begunState cleanup).getD begunState

theorem running_task_is_leased_crashed :
    crashedTask ∈ crashedState.tasks.rows ∧ cleanedState.tasks.LeaseExpired "t" := by
  have run : machine.Runs Guarded (.opened 0) crashed crashedState := runs_iff_exec.mpr (by decide)
  have member : crashedTask ∈ crashedState.tasks.rows := by decide
  obtain ⟨lock, locked, _, recovers⟩ := running_task_is_leased run member rfl
  have expired : ∀ lock ∈ crashedState.locks.rows, lock.lockedUntil < crashedState.clock := by decide
  have stopped : crashedState.Stopped "a" := ⟨by decide, by decide⟩
  have idle : ∀ job ∈ crashedState.jobs, job.cleans "b" = false := by decide
  have cleaned : machine.Runs (Undisturbed "b") begunState cleanup cleanedState := runs_iff_exec.mpr (by decide)
  have ended : ∀ job ∈ cleanedState.jobs, job.cleans "b" = false := by decide
  exact ⟨member, (recovers "b" begunState stopped (expired lock locked) idle (by decide)).2 cleanup cleanedState
    cleaned ended⟩

/-- A claim takes the lease and stalls until it has expired; a cleanup removes the
lock of the still pending task; the claim goes on. -/
def stalledClaim : List Event :=
  [.create "log_cleanup" "t" "" "", .claim 1 "log_cleanup" "a" 60, .run 0 false, .run 0 false, .tick 61,
    .expireStale "b", .run 1 false, .run 1 false, .run 1 false, .run 0 false]

def unleasedState : State := (machine.exec unrestricted (.opened 0) stalledClaim).getD (.opened 0)

/-- The task runs, holds the key of its type, and no lock row is left to expire. -/
theorem stalled_claim_runs_unleased : machine.Runs unrestricted (.opened 0) stalledClaim unleasedState ∧
      (∃ task ∈ unleasedState.tasks.rows, task.status = .running ∧ task.activeKey = some "log_cleanup") ∧
      unleasedState.locks.rows = [] :=
  ⟨runs_iff_exec.mpr (by decide), by decide, by decide⟩

end FlowAPI.SystemTask
