import FlowAPI.Polling.Machine

/-! What one step of a poller can do, and how far SUCCESS and FAILURE are final.

A poll starts from a copy that is not finished yet, as every copy is when it is read. From such a copy the
compare-and-set never touches a finished row. The bulk update looks at nothing: it acts on a list read earlier and
turns a task that succeeded meanwhile into a failed one. -/

set_option autoImplicit false
namespace FlowAPI.Polling
open Semantics Option Polling.Action List

def Action.billing : Action → Option Billing
  | .refund _ task => if task.quota = 0 then none else some (.refund task.id task.quota)
  | .settle _ task => some (.settle task.id)
  | _ => none

def Action.Plain : Action → Prop
  | .refund _ _ | .settle _ _ | .updateQuota _ _ => False
  | _ => True

variable {action : Action}

theorem Action.Plain.billing (plain : action.Plain) : action.billing = none := by
  cases action <;> first | rfl | exact plain.elim

/-- The billing that has to follow a closing. A bulk update and the sweep of a
legacy task refund nothing, and a Suno success keeps its price. -/
def Closing.owes (closing : Closing) : Option Billing :=
  match closing.closer, closing.status with
  | .bulkUpdate, _ | .legacySweep, _ => none
  | _, .failure => if closing.quota = 0 then none else some (.refund closing.id closing.quota)
  | .video, .success => some (.settle closing.id)
  | _, _ => none

def billingActions (closer : Closer) (copy : Nat) (task : Task) : List Action :=
  match closer, task.status with
  | .bulkUpdate, _ | .legacySweep, _ => []
  | _, .failure => if task.quota = 0 then [] else [.refund copy task]
  | .video, .success => [.settle copy task]
  | _, _ => []

def Action.Fresh (heap : List Task) : Action → Prop
  | .sweepTask copy _ => ∀ task ∈ heap[copy]?, task.status.finished = false
  | .sunoItem item taskM => ∀ found ∈ lookup heap taskM item.taskId, found.2.status.finished = false
  | .videoTask taskId taskM => ∀ found ∈ lookup heap taskM taskId, found.2.status.finished = false
  | _ => True

instance (heap : List Task) : DecidablePred (Action.Fresh heap) := fun _ => by
  unfold Action.Fresh
  split <;> infer_instance

/-- Rewriting an unfinished copy: the task stays the same one, and only the sweep
of a legacy task changes its quota. -/
structure Rewrites (heap : List Task) (copy : Nat) (task updated : Task) (closer : Closer) : Prop where
  found : heap[copy]? = some task
  unfinished : task.status.finished = false
  sameId : updated.id = task.id
  sameQuota : updated.quota = task.quota ∨ closer = .legacySweep ∧ updated.status.finished = true

inductive Effect (fault : Bool) (state : State) : Action → State × List Action × List (List Action) → Prop where
  | reads {action : Action} (rows : List Task) {next : List Action} {started : List (List Action)} :
      action.Plain → (∀ row ∈ rows, row ∈ state.tasks.rows) → (∀ action ∈ next, action.Plain) →
      (∀ goroutine ∈ started, ∀ action ∈ goroutine, action.Plain) →
      Effect fault state action ({ state with heap := state.heap ++ rows }, next, started)
  | schedules {action : Action} {next : List Action} {started : List (List Action)} :
      action.billing = none → (∀ action ∈ next, action.Plain) →
      (∀ goroutine ∈ started, ∀ action ∈ goroutine, action.Plain) →
      Effect fault state action (state, next, started)
  | rewrites {action : Action} {copy : Nat} {task updated : Task} {closer : Closer} :
      action.Plain → Rewrites state.heap copy task updated closer →
      Effect fault state action (state.setCopy copy updated, [], [])
  | wins {action : Action} {copy : Nat} {task updated row : Task} {closer : Closer} :
      action.Plain → Rewrites state.heap copy task updated closer →
      state.tasks.find updated.id = some row → row.status = task.status →
      Effect fault state action
        ({ state.setCopy copy updated with
            tasks := (state.tasks.updateWithStatus updated task.status).2
            log := state.log ++ closingOf closer row updated.status },
          billingActions closer copy updated, [])
  | bulk (ids : List Int) (failReason : Option String) :
      Effect fault state (.bulkUpdate ids failReason) (state.taskBulkUpdateByID ids failReason, [], [])
  | refunds (copy : Nat) (task : Task) : task.quota ≠ 0 →
      Effect fault state (.refund copy task)
        ({ state.setCopy copy { task with quota := 0 } with
            log := state.log ++ [.billed (.refund task.id task.quota)] }, [.updateQuota task.id 0], [])
  | settles (copy : Nat) (task : Task) :
      Effect fault state (.settle copy task)
        ({ state with log := state.log ++ [.billed (.settle task.id)] }, [], [])
  | adjusts (copy : Nat) (task : Task) (quota : Int) :
      Effect fault state (.settle copy task)
        ({ state.setCopy copy { task with quota } with
            log := state.log ++ [.billed (.settle task.id)] }, [.updateQuota task.id quota], [])
  | writesQuota (id quota : Int) :
      Effect fault state (.updateQuota id quota)
        ({ state with tasks := state.tasks.updateQuota id quota }, [], [])
  | fails {action : Action} : fault = true → Effect fault state action (state, [], [])

section
variable {settings : Settings} {task : Task} (now : Int)

theorem sweepTask_id : (sweepTask settings now task).id = task.id := by
  unfold sweepTask
  split <;> rfl

theorem sweepTask_status : (sweepTask settings now task).status = .failure := by
  unfold sweepTask
  split <;> rfl

theorem sweepTask_quota : (sweepTask settings now task).quota = if task.isLegacy then 0 else task.quota := by
  unfold sweepTask
  split <;> rfl

variable (item : SunoItem)

theorem applySunoItem_id : (applySunoItem task item).id = task.id := by
  unfold applySunoItem
  dsimp only
  split <;> rfl

theorem applySunoItem_quota : (applySunoItem task item).quota = task.quota := by
  unfold applySunoItem
  dsimp only
  split <;> rfl

theorem applySunoItem_failure : (applySunoItem task item).status = .failure ↔ item.isFailure task = true := by
  unfold applySunoItem
  dsimp only
  split
  next failed => simp [failed]
  next sound =>
    refine iff_of_false (fun failed => sound ?_) sound
    simp only [SunoItem.isFailure, Bool.or_eq_true, decide_eq_true_eq]
    exact .inr failed

theorem withProgress_same (progress : String) :
    (withProgress task progress).id = task.id ∧ (withProgress task progress).quota = task.quota ∧
      (withProgress task progress).status = task.status := by
  unfold withProgress
  split <;> exact ⟨rfl, rfl, rfl⟩

/-- A reply keeps the task and its quota, and the two flags say which finished
status the copy has. -/
structure VideoDecision.Sound (decision : VideoDecision) (task : Task) : Prop where
  sameId : decision.copy.id = task.id
  sameQuota : decision.copy.quota = task.quota
  flags : ∀ refund settle, decision.persist = some (refund, settle) →
    refund = decide (decision.copy.status = .failure ∧ decision.copy.quota ≠ 0) ∧
      settle = decide (decision.copy.status = .success)

theorem failVideoTask_sound {copy : Task} (reason : String) (sameId : copy.id = task.id)
    (sameQuota : copy.quota = task.quota) : (failVideoTask now copy reason).Sound task := by
  refine ⟨sameId, sameQuota, fun refund settle asked => ?_⟩
  simp only [failVideoTask, some.injEq, Prod.mk.injEq] at asked ⊢
  obtain ⟨rfl, rfl⟩ := asked
  simp

theorem videoDecision_sound (grace : Option Int) (now : Int) (reply : VideoReply) :
    (videoDecision settings grace now task reply).Sound task := by
  cases reply with
  | failed => exact ⟨rfl, rfl, by simp [videoDecision]⟩
  | result info =>
    unfold videoDecision
    dsimp only
    split
    · exact ⟨rfl, rfl, by simp⟩
    next info _ =>
      -- only a success settles and only a failure refunds, after the copy took its status
      cases status : info.status with
      | failure => exact failVideoTask_sound now _ rfl rfl
      | unknown =>
        dsimp only
        split
        · exact ⟨rfl, rfl, by simp⟩
        · split
          · exact ⟨rfl, rfl, by simp⟩
          · exact failVideoTask_sound now _ rfl rfl
      | notStart | other => exact ⟨rfl, rfl, by simp⟩
      | submitted | queued | inProgress | success =>
        refine ⟨(withProgress_same _).1, (withProgress_same _).2.1, fun refund settle asked => ?_⟩
        obtain ⟨rfl, rfl⟩ := asked
        rw [(withProgress_same _).2.2]
        exact ⟨rfl, rfl⟩

end

theorem lookup_found {heap : List Task} {taskM : List (String × Nat)} {taskId : String} {copy : Nat} {task : Task}
    (found : lookup heap taskM taskId = some (copy, task)) : heap[copy]? = some task := by
  obtain ⟨_, _, read⟩ := bind_eq_some_iff.mp found
  obtain ⟨_, there, same⟩ := map_eq_some_iff.mp read
  cases same
  exact there

section
variable {settings : Settings} {input : Input} {state : State} {task updated : Task} {copy : Nat} {closer : Closer}

theorem Effect.ofUpdate {fault won : Bool} {after : State} (plain : action.Plain)
    (rewrites : Rewrites state.heap copy task updated closer)
    (outcome : (state.setCopy copy updated).updateWithStatus updated task.status closer = (won, after)) :
    Effect fault state action (after, cond won (billingActions closer copy updated) [], []) := by
  unfold State.updateWithStatus at outcome
  split at outcome
  · cases outcome
    exact .rewrites plain rewrites
  next found =>
    split at outcome <;> cases outcome
    next expected => exact .wins plain rewrites found expected
    · exact .rewrites plain rewrites

theorem sweepTask_rewrites (now : Int) (found : state.heap[copy]? = some task)
    (unfinished : task.status.finished = false) :
    Rewrites state.heap copy task (sweepTask settings now task) (if task.isLegacy then .legacySweep else .sweep) := by
  refine ⟨found, unfinished, sweepTask_id now, ?_⟩
  rw [sweepTask_quota, sweepTask_status]
  cases task.isLegacy
  · exact .inl rfl
  · exact .inr ⟨rfl, rfl⟩

theorem billingActions_sweep (now : Int) :
    billingActions (if task.isLegacy then .legacySweep else .sweep) copy (sweepTask settings now task) =
      if task.isLegacy = false ∧ (sweepTask settings now task).quota ≠ 0 then
        [.refund copy (sweepTask settings now task)] else [] := by
  unfold billingActions
  rw [sweepTask_status]
  cases task.isLegacy
  · by_cases free : (sweepTask settings now task).quota = 0 <;> simp [free]
  · simp

theorem billingActions_suno (item : SunoItem) (unfinished : task.status.finished = false) :
    billingActions .suno copy (applySunoItem task item) =
      if item.isFailure task = true ∧ task.status ≠ .failure ∧ (applySunoItem task item).quota ≠ 0 then
        [.refund copy (applySunoItem task item)] else [] := by
  have notFailed : task.status ≠ .failure := by
    intro failed
    rw [failed] at unfinished
    cases unfinished
  have agrees : (applySunoItem task item).status = .failure ↔ _ := applySunoItem_failure item
  unfold billingActions
  by_cases failed : (applySunoItem task item).status = .failure
  · by_cases free : (applySunoItem task item).quota = 0 <;> simp [failed, free, notFailed, agrees.mp failed]
  · have sound : item.isFailure task = false := by simpa using failed ∘ agrees.mpr
    cases status : (applySunoItem task item).status <;> simp_all

theorem billingActions_video {refund settle : Bool}
    (refunds : refund = decide (updated.status = .failure ∧ updated.quota ≠ 0))
    (settles : settle = decide (updated.status = .success)) :
    (if settle then [Action.settle copy updated] else []) ++ (if refund then [Action.refund copy updated] else [])
      = billingActions .video copy updated := by
  subst refunds settles
  unfold billingActions
  cases updated.status <;> simp

theorem billingActions_unfinished (unfinished : updated.status.finished = false) :
    billingActions closer copy updated = [] := by
  unfold billingActions
  cases closer <;> cases status : updated.status <;> simp_all [TaskStatus.finished]

theorem runAction_sweepTask_effect (now : Int) (fresh : (Action.sweepTask copy now).Fresh state.heap) :
    Effect input.fault state (.sweepTask copy now) (runAction settings input state (.sweepTask copy now)) := by
  simp only [runAction]
  cases found : state.heap[copy]? with
  | none => exact .schedules rfl (by simp) (by simp)
  | some task =>
    have rewrites : Rewrites state.heap copy task (sweepTask settings now task) _ :=
      sweepTask_rewrites now found (fresh task found)
    dsimp only
    split
    next => exact .rewrites trivial rewrites
    next =>
      rw [← billingActions_sweep]
      split <;> next outcome => exact .ofUpdate (by trivial) rewrites outcome

theorem runAction_sunoItem_effect (item : SunoItem) (taskM : List (String × Nat))
    (fresh : (sunoItem item taskM).Fresh state.heap) :
    Effect input.fault state (.sunoItem item taskM) (runAction settings input state (.sunoItem item taskM)) := by
  simp only [runAction]
  cases found : lookup state.heap taskM item.taskId with
  | none => exact .schedules rfl (by simp) (by simp)
  | some pair =>
    obtain ⟨copy, task⟩ := pair
    have unfinished : task.status.finished = false := fresh _ found
    have rewrites : Rewrites state.heap copy task (applySunoItem task item) .suno :=
      ⟨lookup_found found, unfinished, applySunoItem_id item, .inl (applySunoItem_quota item)⟩
    dsimp only
    split
    · exact .schedules rfl (by simp) (by simp)
    · split
      · exact .rewrites trivial rewrites
      · rw [← billingActions_suno item unfinished]
        split <;> next outcome => exact .ofUpdate (by trivial) rewrites outcome

theorem runAction_videoTask_effect (taskId : String) (taskM : List (String × Nat))
    (fresh : (videoTask taskId taskM).Fresh state.heap) :
    Effect input.fault state (.videoTask taskId taskM) (runAction settings input state (.videoTask taskId taskM)) := by
  simp only [runAction]
  cases found : lookup state.heap taskM taskId with
  | none => exact .schedules rfl (by simp) (by simp)
  | some pair =>
    obtain ⟨copy, task⟩ := pair
    have unfinished : task.status.finished = false := fresh _ found
    have sound : (videoDecision settings input.grace input.now task input.reply).Sound task :=
      videoDecision_sound input.grace input.now input.reply
    dsimp only
    generalize videoDecision settings input.grace input.now task input.reply = decision at sound
    have rewrites : Rewrites state.heap copy task decision.copy .video :=
      ⟨lookup_found found, unfinished, sound.sameId, .inl sound.sameQuota⟩
    split
    · exact .rewrites trivial rewrites
    next refund settle asked =>
      obtain ⟨refunds, settles⟩ := sound.flags refund settle asked
      rw [billingActions_video refunds settles]
      split
      · split
        · exact .rewrites trivial rewrites
        · split <;> next outcome => exact .ofUpdate (by trivial) rewrites outcome
      next still =>
        -- a copy that was unfinished and did not change status is unfinished, so nothing is billed
        have unfinishedStill : decision.copy.status.finished = false := by
          by_contra finished
          rw [Bool.not_eq_false] at finished
          refine still ⟨finished, fun same => ?_⟩
          rw [same, finished] at unfinished
          cases unfinished
        rw [billingActions_unfinished unfinishedStill]
        split
        · have effect : Effect input.fault state (.videoTask taskId taskM) _ :=
            .ofUpdate trivial rewrites Prod.mk.eta.symm
          rwa [billingActions_unfinished unfinishedStill, Bool.cond_self] at effect
        · exact .rewrites trivial rewrites

attribute [local simp] Action.Plain

theorem runAction_channel_effect (platform : TaskPlatform) (channelId : Int) (taskIds : List String)
    (taskM : List (String × Nat)) : Effect input.fault state (.channel platform channelId taskIds taskM)
      (runAction settings input state (.channel platform channelId taskIds taskM)) := by
  simp only [runAction]
  split
  · exact .schedules rfl (by simp) (by simp)
  · split
    · exact .schedules rfl (by simp) (by simp)
    · split <;> exact .schedules rfl (by simp) (by simp)

theorem runAction_settle_effect :
    Effect input.fault state (.settle copy task) (runAction settings input state (.settle copy task)) := by
  simp only [runAction]
  split
  · exact .settles copy task
  next actual _ =>
    split
    · exact .settles copy task
    · exact .adjusts copy task actual

theorem runAction_effect (fresh : action.Fresh state.heap) :
    Effect input.fault state action (runAction settings input state action) := by
  cases action with
  | sweep =>
    simp only [runAction]
    split
    · exact .schedules rfl (by simp) (by simp)
    · exact .reads _ trivial (fun _ read => Tasks.mem_getTimedOutUnfinishedTasks read)
        (by simp) (by simp)
  | poll =>
    simp only [runAction]
    split
    · exact .schedules rfl (by simp) (by simp)
    · exact .reads _ trivial (fun _ read => Tasks.mem_getAllUnFinishSyncTasks read) (by simp)
        (by simp)
  | platform =>
    refine .schedules rfl (forall_mem_append.mpr ⟨?_, ?_⟩) (by simp)
    all_goals
      split
      · exact forall_mem_nil _
      · exact forall_mem_singleton.mpr trivial
  | channels =>
    refine .schedules rfl (by simp) (fun goroutine member action listed => ?_)
    obtain ⟨channel, _, rfl⟩ := mem_map.mp member
    rw [mem_singleton.mp listed]
    trivial
  | channel platform channelId taskIds taskM => exact runAction_channel_effect platform channelId taskIds taskM
  | sweepTask _ now => exact runAction_sweepTask_effect now fresh
  | sunoItem item taskM => exact runAction_sunoItem_effect item taskM fresh
  | videoTask taskId taskM => exact runAction_videoTask_effect taskId taskM fresh
  | bulkUpdate ids failReason =>
    simp only [runAction]
    split
    next fault => exact .fails fault
    · exact .bulk ids failReason
  | refund copy task =>
    simp only [runAction]
    split
    next skipped =>
      rcases skipped with free | fault
      · exact .schedules (if_pos free) (by simp) (by simp)
      · exact .fails fault
    next charged => exact .refunds copy task (fun free => charged (.inl free))
  | settle => exact runAction_settle_effect
  | updateQuota id quota =>
    simp only [runAction]
    split
    next fault => exact .fails fault
    · exact .writesQuota id quota

end

def Fresh (state : State) : Event → Prop
  | .run index _ => ∀ goroutine ∈ state.goroutines[index]?, ∀ action ∈ goroutine.head?, action.Fresh state.heap
  | _ => True

instance : DecidableRel Fresh := fun _ _ => by
  unfold Fresh
  split <;> infer_instance

theorem step_run {settings : Settings} {state next : State} {index : Nat} {input : Input}
    (fresh : Fresh state (.run index input)) (stepped : step settings state (.run index input) = some next) :
    ∃ action rest after added started, state.goroutines[index]? = some (action :: rest) ∧
      Effect input.fault state action (after, added, started) ∧
      next = { after with goroutines := Pool.replace state.goroutines index ((added ++ rest) :: started) } := by
  simp only [step] at stepped
  split at stepped
  next action rest selected =>
    cases stepped
    exact ⟨action, rest, _, _, _, selected, runAction_effect (fresh _ selected action rfl), rfl⟩
  · cases stepped

theorem step_cancel {settings : Settings} {state next : State} {index : Nat}
    (stepped : step settings state (.cancel index) = some next) :
    ∃ action rest, state.goroutines[index]? = some (action :: rest) ∧ action.Plain ∧
      next = { state with goroutines := Pool.replace state.goroutines index [] } := by
  simp only [step] at stepped
  split at stepped
  next action rest selected =>
    split_ifs at stepped
    refine ⟨action, rest, selected, ?_, (some.inj stepped).symm⟩
    cases action <;> trivial
  · cases stepped

open Machine

/-- A bulk update that meets no finished row except failed ones. -/
def Action.SparesFinished (tasks : Tasks) : Action → Prop
  | .bulkUpdate ids _ => ∀ row ∈ tasks.rows, row.id ∈ ids → row.status.finished = true → row.status = .failure
  | _ => True

instance (tasks : Tasks) : DecidablePred (Action.SparesFinished tasks) := fun _ => by
  unfold Action.SparesFinished
  split <;> infer_instance

def SparesFinished (state : State) : Event → Prop
  | .run index _ => ∀ goroutine ∈ state.goroutines[index]?, ∀ action ∈ goroutine.head?,
      action.SparesFinished state.tasks
  | _ => True

instance : DecidableRel SparesFinished := by
  rintro _ ⟨⟩ <;> dsimp only [SparesFinished] <;> infer_instance
def Careful (state : State) (event : Event) : Prop := Fresh state event ∧ SparesFinished state event
instance : DecidableRel Careful := fun _ _ => inferInstanceAs (Decidable (_ ∧ _))
def Tasks.HasStatus (tasks : Tasks) (id : Int) (status : TaskStatus) : Prop :=
  ∃ row, tasks.find id = some row ∧ row.status = status

section
variable {state : State} {id : Int} {status : TaskStatus} {tasks : Tasks}

theorem Tasks.HasStatus.updateWithStatus {task : Task} {fromStatus : TaskStatus}
    (has : tasks.HasStatus id status) (differs : status ≠ fromStatus) :
    (tasks.updateWithStatus task fromStatus).2.HasStatus id status := by
  obtain ⟨row, found, rfl⟩ := has
  refine ⟨row, ?_, rfl⟩
  rw [Tasks.find_updateWithStatus, found, Option.map_some, if_neg fun selected => differs selected.2]

theorem Tasks.HasStatus.updateQuota (has : tasks.HasStatus id status) (target quota : Int) :
    (tasks.updateQuota target quota).HasStatus id status := by
  obtain ⟨_, found, rfl⟩ := has
  refine ⟨_, by rw [Tasks.find_updateQuota, found, Option.map_some], ?_⟩
  split <;> rfl

theorem Tasks.HasStatus.taskBulkUpdateByID {ids : List Int} {failReason : Option String}
    (has : tasks.HasStatus id status)
    (spared : ∀ row ∈ tasks.rows, row.id ∈ ids → row.status = status → status = .failure) :
    (tasks.taskBulkUpdateByID ids failReason).HasStatus id status := by
  obtain ⟨row, found, rfl⟩ := has
  refine ⟨_, by rw [Tasks.find_taskBulkUpdateByID, found, Option.map_some], ?_⟩
  split
  next hit => exact (spared row (Table.mem_of_find found).1 hit rfl).symm
  · rfl

theorem Effect.hasStatus {fault : Bool} {action : Action} {after : State} {added : List Action}
    {started : List (List Action)} (effect : Effect fault state action (after, added, started))
    (spares : action.SparesFinished state.tasks) (finished : status.finished = true)
    (has : state.tasks.HasStatus id status) : after.tasks.HasStatus id status := by
  cases effect with
  | wins _ rewrites =>
    apply has.updateWithStatus
    intro same
    have unfinished := rewrites.unfinished
    rw [← same, finished] at unfinished
    cases unfinished
  | bulk =>
    apply has.taskBulkUpdateByID
    intro row listed hit same
    rw [← same] at finished ⊢
    exact spares row listed hit finished
  | writesQuota target quota => exact has.updateQuota target quota
  | _ => exact has

theorem hasStatus_step_kept {settings : Settings} {next : State} {event : Event} (careful : Careful state event)
    (finished : status.finished = true) (stepped : step settings state event = some next)
    (has : state.tasks.HasStatus id status) : next.tasks.HasStatus id status := by
  obtain ⟨fresh, spares⟩ := careful
  cases event with
  | start =>
    cases stepped
    exact has
  | run =>
    obtain ⟨action, _, _, _, _, selected, effect, rfl⟩ := step_run fresh stepped
    exact effect.hasStatus (spares _ selected action rfl) finished has
  | cancel =>
    obtain ⟨_, _, _, _, rfl⟩ := step_cancel stepped
    exact has

end

/-- From any state on, a finished row keeps its status through every run whose
polls start from unfinished copies and whose bulk updates miss the tasks that
succeeded. -/
theorem finished_status_kept (settings : Settings) {start final : State} {events : List Event}
    (run : (machine settings).Runs Careful start events final) (id : Int) (row : Task)
    (found : start.tasks.find id = some row) (finished : row.status.finished = true) :
    ∃ later, final.tasks.find id = some later ∧ later.status = row.status := by
  have kept : final.tasks.HasStatus id row.status :=
    run.invariant (fun state => state.tasks.HasStatus id row.status)
      (fun _ _ _ has careful stepped => hasStatus_step_kept careful finished stepped has) ⟨row, found, rfl⟩
  exact kept

def overlapping : List Event :=
  let go := fun index => Event.run index quietInput
  [.start, go 0, go 0, go 1, go 1, .start, go 3, go 3, go 4, go 4, go 5,
    .run 5 { quietInput with reply := statusReply .success }, go 5]

def beforePasses : State := .opened (oneTask (sampleTask 1 (.video "kling") "up"))
def succeeded : State := ((machine pollOnly).exec unrestricted beforePasses overlapping).getD beforePasses

/-- The first pass then hears of a failure, and its compare-and-set is lost. -/
theorem finished_status_kept_stale : ∃ final later, (machine pollOnly).Runs Careful succeeded
        [.run 2 quietInput, .run 2 { quietInput with reply := statusReply .failure }] final ∧
      final.tasks.find 1 = some later ∧ later.status = .success := by
  have run : (machine pollOnly).Runs Careful succeeded
      [.run 2 quietInput, .run 2 { quietInput with reply := statusReply .failure }] _ :=
    runs_iff_exec.mpr rfl
  obtain ⟨later, found, same⟩ := finished_status_kept pollOnly run 1 _ rfl rfl
  exact ⟨_, later, run, found, same⟩

-- An answer that lists a task twice polls a finished copy, whose compare-and-set expects the finished status.
example : let go := fun index => Event.run index quietInput
    let item := fun status => SunoItem.mk "up" status "" 0 0 0 ""
    let twice := [.start, go 0, go 0, go 1, go 1,
      .run 2 { quietInput with items := some [item .success, item .failure] }, go 2]
    let status := fun events => ((machine pollOnly).exec unrestricted
      (.opened (oneTask (sampleTask 1 .suno "up"))) events).bind fun state => (state.tasks.find 1).map Task.status
    status twice = some .success ∧ status (twice ++ [go 2]) = some .failure := by
  decide

/-- When the first pass cannot load the channel instead, its bulk update turns
the settled success into a failure. -/
theorem bulk_update_overwrites_success : (machine pollOnly).Runs unrestricted beforePasses overlapping succeeded ∧
    (succeeded.tasks.find 1).map Task.status = some .success ∧
    ∃ final, (machine pollOnly).Runs unrestricted succeeded
        [.run 2 { quietInput with channelFound := false }, .run 2 quietInput] final ∧
      (final.tasks.find 1).map Task.status = some .failure := by
  refine ⟨runs_iff_exec.mpr (by decide), by decide, _, runs_iff_exec.mpr rfl, ?_⟩
  decide

end FlowAPI.Polling
