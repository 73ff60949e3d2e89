import FlowAPI.Polling.Effects

/-! A row is closed once.

No step makes a finished row unfinished again, and a quota changes only after
its row is finished. So a copy that is still unfinished carries the quota of the
row it was read from, as long as that row is unfinished too, and no two closings
in the log are about one task.
-/

set_option autoImplicit false
namespace FlowAPI.Polling
open Semantics List Table Tasks

namespace Tasks

def Finished (tasks : Tasks) (id : Int) : Prop := ∀ row, tasks.find id = some row → row.status.finished = true

/-- Whatever is unfinished afterwards was so before, with the same quota. -/
def Advances (before after : Tasks) : Prop :=
  ∀ id later, after.find id = some later → later.status.finished = false →
    ∃ row, before.find id = some row ∧ row.status.finished = false ∧ row.quota = later.quota

variable {before after tasks : Tasks}

theorem Advances.refl (tasks : Tasks) : tasks.Advances tasks :=
  fun _ later found unfinished => ⟨later, found, unfinished, rfl⟩

theorem Advances.finished (advances : before.Advances after) {id : Int} (finished : before.Finished id) :
    after.Finished id := by
  intro later found
  by_contra unfinished
  obtain ⟨row, earlier, still, _⟩ := advances id later found (by simpa using unfinished)
  rw [finished row earlier] at still
  cases still

theorem advances_of_find {selected : Task → Prop} [DecidablePred selected] {change : Task → Task}
    (looked : ∀ id, after.find id = (before.find id).map fun row => if selected row then change row else row)
    (kept : ∀ row, before.find row.id = some row → selected row → (change row).status.finished = false →
      row.status.finished = false ∧ row.quota = (change row).quota) : before.Advances after := by
  intro id later found still
  rw [looked] at found
  obtain ⟨earlier, listed, rfl⟩ := Option.map_eq_some_iff.mp found
  split at still
  next hit =>
    rw [if_pos hit]
    exact ⟨earlier, listed, kept earlier (find_of_mem (mem_of_find listed).1) hit still⟩
  next passed =>
    rw [if_neg passed]
    exact ⟨earlier, listed, still, rfl⟩

theorem advances_updateWithStatus {task row : Task} (found : tasks.find task.id = some row)
    (unfinished : row.status.finished = false) (sameQuota : task.status.finished = false → row.quota = task.quota) :
    tasks.Advances (tasks.updateWithStatus task row.status).2 := by
  refine advances_of_find find_updateWithStatus fun earlier listed selected still => ?_
  rw [selected.1, found] at listed
  cases listed
  exact ⟨unfinished, sameQuota still⟩

theorem advances_taskBulkUpdateByID (ids : List Int) (failReason : Option String) :
    tasks.Advances (tasks.taskBulkUpdateByID ids failReason) := by
  refine advances_of_find (find_taskBulkUpdateByID ids failReason) fun _ _ _ still => ?_
  cases still

theorem advances_updateQuota {id : Int} (finished : tasks.Finished id) (quota : Int) :
    tasks.Advances (tasks.updateQuota id quota) := by
  refine advances_of_find (find_updateQuota id quota) fun earlier listed selected still => ?_
  rw [selected] at listed
  have ended : earlier.status.finished = true := finished earlier listed
  rw [ended] at still
  cases still

theorem finished_updateWithStatus {task row : Task} (found : tasks.find task.id = some row)
    (finished : task.status.finished = true) : (tasks.updateWithStatus task row.status).2.Finished task.id := by
  intro later after
  rw [find_updateWithStatus, found, Option.map_some, Option.some.injEq] at after
  rw [if_pos ⟨(mem_of_find found).2, rfl⟩] at after
  rw [← after]
  exact finished

theorem finished_taskBulkUpdateByID {ids : List Int} {id : Int} (member : id ∈ ids)
    (failReason : Option String) : (tasks.taskBulkUpdateByID ids failReason).Finished id := by
  intro later after
  rw [find_taskBulkUpdateByID] at after
  obtain ⟨_, listed, rfl⟩ := Option.map_eq_some_iff.mp after
  rw [(mem_of_find listed).2.symm] at member
  rw [if_pos member]
  rfl

end Tasks

def Entry.closing : Entry → Option Closing
  | .closed closing => some closing
  | .billed _ => none

def closings (log : List Entry) : List Closing := log.filterMap Entry.closing

@[simp] theorem closings_append (front back : List Entry) :
    closings (front ++ back) = closings front ++ closings back :=
  filterMap_append

@[simp] theorem closings_billed (billing : Billing) : closings [.billed billing] = [] := rfl

theorem mem_closings {log : List Entry} {closing : Closing} : closing ∈ closings log ↔ .closed closing ∈ log := by
  constructor
  · intro member
    obtain ⟨entry, listed, same⟩ := mem_filterMap.mp member
    cases entry with
    | closed =>
      cases same
      exact listed
    | billed => cases same
  · intro listed
    exact mem_filterMap.mpr ⟨.closed closing, listed, rfl⟩

def Action.Follows (tasks : Tasks) : Action → Prop
  | .refund _ task | .settle _ task => task.status.finished = true ∧ tasks.Finished task.id
  | .updateQuota id _ => tasks.Finished id
  | _ => True

structure State.Consistent (state : State) : Prop where
  -- a billing call and the quota write after it come first in their goroutine
  tails : ∀ goroutine ∈ state.goroutines, ∀ action ∈ goroutine.tail, action.Plain
  follows : ∀ goroutine ∈ state.goroutines, ∀ action ∈ goroutine, action.Follows state.tasks
  copies : ∀ copy ∈ state.heap, copy.status.finished = false → ∀ row, state.tasks.find copy.id = some row →
    row.status.finished = false → row.quota = copy.quota
  closed : ∀ closing ∈ closings state.log, state.tasks.Finished closing.id
  once : ((closings state.log).map Closing.id).Nodup

variable {action : Action}

theorem Action.Plain.follows (plain : action.Plain) (tasks : Tasks) : action.Follows tasks := by
  cases action <;> trivial

theorem Action.Follows.advance {before after : Tasks} (follows : action.Follows before)
    (advances : before.Advances after) : action.Follows after := by
  cases action with
  | refund | settle => exact ⟨follows.1, advances.finished follows.2⟩
  | updateQuota => exact advances.finished follows
  | _ => trivial

theorem billingActions_cases (closer : Closer) (copy : Nat) (task : Task) : billingActions closer copy task = [] ∨
      task.status.finished = true ∧ (billingActions closer copy task = [.refund copy task] ∨
        billingActions closer copy task = [.settle copy task]) := by
  unfold billingActions
  split
  · exact .inl rfl
  · exact .inl rfl
  · rename_i failed
    split
    · exact .inl rfl
    · exact .inr ⟨by rw [failed]; rfl, .inl rfl⟩
  · rename_i succeeded
    exact .inr ⟨by rw [succeeded]; rfl, .inr rfl⟩
  · exact .inl rfl

section
variable {fault : Bool} {state after : State} {action : Action} {added : List Action} {started : List (List Action)}

section
variable (effect : Effect fault state action (after, added, started))
include effect

theorem Effect.advances (follows : action.Follows state.tasks) (consistent : state.Consistent) :
    state.tasks.Advances after.tasks := by
  cases effect with
  | @wins _ copy task updated row _ _ rewrites found expected =>
    have unfinished : row.status.finished = false := by rw [expected, rewrites.unfinished]
    have read := consistent.copies task (mem_of_getElem? rewrites.found) rewrites.unfinished row
      (by rw [← rewrites.sameId, found]) unfinished
    rw [← expected]
    apply advances_updateWithStatus found unfinished
    intro still
    rcases rewrites.sameQuota with same | ⟨_, finished⟩
    · rw [read, same]
    · rw [still] at finished
      cases finished
  | bulk ids failReason => exact advances_taskBulkUpdateByID ids failReason
  | writesQuota _ quota => exact advances_updateQuota follows quota
  | _ => exact .refl _

theorem Effect.follows_added (follows : action.Follows state.tasks) : ∀ next ∈ added, next.Follows after.tasks := by
  intro next member
  cases effect with
  | reads _ _ _ plain | schedules _ plain => exact (plain next member).follows _
  | @wins _ copy task updated row closer _ _ found expected =>
    rcases billingActions_cases closer copy updated with none | ⟨finished, one⟩
    · rw [none] at member
      cases member
    have closed := finished_updateWithStatus found finished
    rw [expected] at closed
    rcases one with same | same
    all_goals
      rw [same] at member
      cases mem_singleton.mp member
      exact ⟨finished, closed⟩
  | refunds | adjusts =>
    cases mem_singleton.mp member
    exact follows.2
  | rewrites | bulk | settles | writesQuota | fails => cases member

theorem Effect.tail_plain {rest : List Action}
    (plain : ∀ next ∈ rest, next.Plain) : ∀ next ∈ (added ++ rest).tail, next.Plain := by
  intro next member
  have ofRest : next ∈ rest.tail → next.Plain := fun listed => plain next (mem_of_mem_tail listed)
  cases effect with
  | reads _ _ _ new | schedules _ new => exact forall_mem_append.mpr ⟨new, plain⟩ next (mem_of_mem_tail member)
  | @wins _ copy _ updated _ closer _ _ _ _ =>
    rcases billingActions_cases closer copy updated with none | ⟨_, same | same⟩
    · rw [none] at member
      exact ofRest member
    all_goals
      rw [same] at member
      exact plain next member
  | refunds | adjusts => exact plain next member
  | rewrites | bulk | settles | writesQuota | fails => exact ofRest member

theorem Effect.started_plain : ∀ goroutine ∈ started, ∀ next ∈ goroutine, next.Plain := by
  cases effect with
  | reads _ _ _ _ plain | schedules _ _ plain => exact plain
  | _ => simp

theorem Effect.heap_cases (follows : action.Follows state.tasks) : ∀ copy ∈ after.heap, copy.status.finished = false →
      copy ∈ state.tasks.rows ∨ ∃ earlier ∈ state.heap, earlier.status.finished = false ∧
        earlier.id = copy.id ∧ earlier.quota = copy.quota := by
  intro copy member unfinished
  have kept : copy ∈ state.heap → copy ∈ state.tasks.rows ∨ ∃ earlier ∈ state.heap,
      earlier.status.finished = false ∧ earlier.id = copy.id ∧ earlier.quota = copy.quota :=
    fun listed => .inr ⟨copy, listed, unfinished, rfl, rfl⟩
  cases effect with
  | reads _ _ fromTable =>
    rcases mem_append.mp member with old | read
    · exact kept old
    · exact .inl (fromTable copy read)
  | rewrites _ rewrites | wins _ rewrites =>
    rcases mem_or_eq_of_mem_set member with old | rfl
    · exact kept old
    rcases rewrites.sameQuota with same | ⟨_, finished⟩
    · exact .inr ⟨_, mem_of_getElem? rewrites.found, rewrites.unfinished, rewrites.sameId.symm, same.symm⟩
    · rw [unfinished] at finished
      cases finished
  | refunds | adjusts =>
    rcases mem_or_eq_of_mem_set member with old | rfl
    · exact kept old
    · have finished := follows.1
      rw [unfinished] at finished
      cases finished
  | schedules | bulk | settles | writesQuota | fails => exact kept member

end

theorem closings_closingOf (closer : Closer) (row : Task) (status : TaskStatus) :
    closings (closingOf closer row status) = if row.status.finished = false ∧ status.finished = true then
        [{ id := row.id, status, quota := row.quota, closer }] else [] := by
  unfold closingOf
  split <;> rfl

theorem closings_bulk (rows : List Task) : closings (rows.flatMap fun row => closingOf .bulkUpdate row .failure) =
      (rows.filter fun row => !row.status.finished).map fun row =>
        { id := row.id, status := .failure, quota := row.quota, closer := .bulkUpdate } := by
  induction rows with
  | nil => rfl
  | cons row _ ih =>
    rw [flatMap_cons, closings_append, ih, closings_closingOf]
    cases finished : row.status.finished
    · rw [if_pos ⟨rfl, rfl⟩, filter_cons_of_pos (by simp [finished]), map_cons, singleton_append]
    · simp [finished]

theorem Effect.closings_added (effect : Effect fault state action (after, added, started)) :
    ∃ fresh, closings after.log = closings state.log ++ fresh ∧ (fresh.map Closing.id).Nodup ∧
      ∀ closing ∈ fresh, ¬ state.tasks.Finished closing.id ∧ after.tasks.Finished closing.id := by
  cases effect with
  | @wins _ copy task updated row closer _ rewrites found expected =>
    refine ⟨_, by rw [closings_append, closings_closingOf], ?_, ?_⟩
    · split <;> simp
    · intro closing member
      split at member
      next closes =>
        cases mem_singleton.mp member
        have same : row.id = updated.id := (mem_of_find found).2
        constructor
        · intro finished
          have contrary := finished row (by rw [same, found])
          rw [closes.1] at contrary
          cases contrary
        · rw [← expected, same]
          exact finished_updateWithStatus found closes.2
      next => cases member
  | bulk ids failReason =>
    refine ⟨_, by rw [State.taskBulkUpdateByID, closings_append, closings_bulk], ?_, ?_⟩
    · have sublist := (filter_sublist (p := fun row : Task => !row.status.finished)).trans
        (filter_sublist (p := fun row : Task => decide (row.id ∈ ids)) (l := state.tasks.rows))
      rw [map_map]
      exact state.tasks.unique.sublist (sublist.map Task.id)
    · intro closing member
      obtain ⟨row, listed, rfl⟩ := mem_map.mp member
      obtain ⟨hit, unfinished⟩ := mem_filter.mp listed
      obtain ⟨there, selected⟩ := mem_filter.mp hit
      constructor
      · intro finished
        have contrary := finished row (find_of_mem there)
        simp [contrary] at unfinished
      · exact finished_taskBulkUpdateByID (of_decide_eq_true selected) failReason
  | refunds | settles | adjusts => exact ⟨[], by simp, by simp, by simp⟩
  | reads | schedules | rewrites | writesQuota | fails => exact ⟨[], by simp [State.setCopy], by simp, by simp⟩

end

theorem State.Consistent.effect_kept {fault : Bool} {state after : State} {index : Nat}
    {rest added : List Action} {started : List (List Action)} (consistent : state.Consistent)
    (selected : state.goroutines[index]? = some (action :: rest))
    (effect : Effect fault state action (after, added, started)) : State.Consistent { after with
      goroutines := Pool.replace state.goroutines index ((added ++ rest) :: started) } := by
  have listed := mem_of_getElem? selected
  have follows := consistent.follows _ listed action mem_cons_self
  have advances := effect.advances follows consistent
  obtain ⟨_, grown, distinct, opened⟩ := effect.closings_added
  constructor
  case tails =>
    refine Pool.forall_replace consistent.tails (forall_mem_cons.mpr ⟨?_, fun goroutine begun next inside => ?_⟩)
    · exact effect.tail_plain (consistent.tails _ listed)
    · exact effect.started_plain goroutine begun next (mem_of_mem_tail inside)
  case follows =>
    have kept : ∀ goroutine ∈ state.goroutines, ∀ next ∈ goroutine, next.Follows after.tasks :=
      fun goroutine old next inside => (consistent.follows goroutine old next inside).advance advances
    refine Pool.forall_replace kept (forall_mem_cons.mpr ⟨forall_mem_append.mpr ⟨?_, ?_⟩, ?_⟩)
    · exact effect.follows_added follows
    · exact fun next later => kept _ listed next (mem_cons_of_mem _ later)
    · exact fun goroutine begun next inside => (effect.started_plain goroutine begun next inside).follows _
  case copies =>
    intro copy member unfinished row found still
    obtain ⟨earlier, before, wasOpen, sameQuota⟩ := advances copy.id row found still
    rw [← sameQuota]
    rcases effect.heap_cases follows copy member unfinished with read | ⟨origin, inHeap, originOpen, sameId, same⟩
    · rw [Option.some.inj ((find_of_mem read).symm.trans before)]
    · rw [← same]
      exact consistent.copies origin inHeap originOpen earlier (by rw [sameId, before]) wasOpen
  case closed =>
    intro closing member
    rw [grown] at member
    rcases mem_append.mp member with old | new
    · exact advances.finished (consistent.closed closing old)
    · exact (opened closing new).2
  case once =>
    rw [grown, map_append]
    refine nodup_append.mpr ⟨consistent.once, distinct, ?_⟩
    -- a closing logged before has finished its task, and a new one takes an open row
    intro first inOld second inNew same
    obtain ⟨old, oldListed, rfl⟩ := mem_map.mp inOld
    obtain ⟨new, newListed, rfl⟩ := mem_map.mp inNew
    apply (opened new newListed).1
    rw [← same]
    exact consistent.closed old oldListed

theorem State.Consistent.goroutines_kept {state : State} {goroutines : List (List Action)}
    (consistent : state.Consistent)
    (known : ∀ goroutine ∈ goroutines, goroutine ∈ state.goroutines ∨ ∀ action ∈ goroutine, action.Plain) :
    State.Consistent { state with goroutines } := by
  refine ⟨fun goroutine member => ?_, fun goroutine member action inside => ?_, consistent.copies,
    consistent.closed, consistent.once⟩
  · rcases known goroutine member with old | plain
    · exact consistent.tails goroutine old
    · exact fun action inside => plain action (mem_of_mem_tail inside)
  · rcases known goroutine member with old | plain
    · exact consistent.follows goroutine old action inside
    · exact (plain action inside).follows _

theorem pass_plain : ∀ action ∈ [Action.sweep, Action.poll], action.Plain := by
  simp [Action.Plain]

theorem State.Consistent.step_kept {settings : Settings} {state next : State} {event : Event}
    (consistent : state.Consistent) (fresh : Fresh state event)
    (stepped : step settings state event = some next) : next.Consistent := by
  cases event with
  | start =>
    cases stepped
    apply consistent.goroutines_kept
    exact forall_mem_append.mpr ⟨fun _ => .inl, forall_mem_singleton.mpr (.inr pass_plain)⟩
  | run =>
    obtain ⟨action, rest, _, _, _, selected, effect, rfl⟩ := step_run fresh stepped
    exact consistent.effect_kept selected effect
  | cancel =>
    obtain ⟨_, _, _, _, rfl⟩ := step_cancel stepped
    exact consistent.goroutines_kept (Pool.forall_replace (fun _ => .inl) (forall_mem_nil _))

theorem State.opened_consistent (tasks : Tasks) : (opened tasks).Consistent := by
  constructor <;> simp [opened, closings]

end FlowAPI.Polling
