import FlowAPI.Polling.Closings
import Mathlib.Algebra.Order.Group.Int

/-! Every billing of a task answers one closing of its row.

The statement that closed a row decides which call follows, and that call
carries the quota the row had. So what has been billed and what is still pending
add up to what the closings owe, for any way of weighing billings.
-/

set_option autoImplicit false
namespace FlowAPI.Polling
open Semantics List Option Pool Machine State Entry Polling.Action

def Event.NoFault : Event → Prop
  | .run _ input => input.fault = false
  | _ => True

instance : DecidablePred Event.NoFault := by
  rintro ⟨⟩ <;> dsimp only [Event.NoFault] <;> infer_instance
def State.Done (state : State) : Prop := ∀ goroutine ∈ state.goroutines, goroutine = []
instance : DecidablePred State.Done := fun state => inferInstanceAs (Decidable (∀ _ ∈ state.goroutines, _))

def Billing.id : Billing → Int
  | .refund id _ => id
  | .settle id => id

def Entry.billed? : Entry → Option Billing
  | .billed billing => some billing
  | .closed _ => none

def Entry.bills (id : Int) (entry : Entry) : Bool := entry.billed?.any fun billing => billing.id = id

section
variable (weight : Billing → Int)

def weigh (billing : Option Billing) : Int := billing.elim 0 weight

variable {weight} in
theorem weigh_nonneg (positive : ∀ billing, 0 ≤ weight billing) (billing : Option Billing) :
    0 ≤ weigh weight billing := by
  cases billing with
  | none => exact le_rfl
  | some billing => exact positive billing

def Entry.owes : Entry → Option Billing
  | .closed closing => closing.owes
  | .billed _ => none

def billed (log : List Entry) : Int := total (fun entry => weigh weight entry.billed?) log
def owed (log : List Entry) : Int := total (fun entry => weigh weight entry.owes) log
def pending (goroutine : List Action) : Int := total (fun action => weigh weight action.billing) goroutine

/-- What the closings still owe after the billings made and pending. -/
def State.unbilled (state : State) : Int :=
  owed weight state.log - billed weight state.log - total (pending weight) state.goroutines

@[simp] theorem billed_append (front back : List Entry) :
    billed weight (front ++ back) = billed weight front + billed weight back :=
  total_append _ front back

@[simp] theorem owed_append (front back : List Entry) :
    owed weight (front ++ back) = owed weight front + owed weight back :=
  total_append _ front back

@[simp] theorem pending_append (front back : List Action) :
    pending weight (front ++ back) = pending weight front + pending weight back :=
  total_append _ front back

theorem pending_plain {goroutine : List Action} (plain : ∀ action ∈ goroutine, action.Plain) :
    pending weight goroutine = 0 := by
  apply total_eq_zero
  intro action member
  rw [(plain action member).billing]
  rfl

theorem pending_started {started : List (List Action)}
    (plain : ∀ goroutine ∈ started, ∀ action ∈ goroutine, action.Plain) : total (pending weight) started = 0 :=
  total_eq_zero _ fun goroutine member => pending_plain weight (plain goroutine member)

theorem pending_billingActions (closer : Closer) (copy : Nat) (task : Task) :
    pending weight (billingActions closer copy task) =
      weigh weight (Closing.owes { id := task.id, status := task.status, quota := task.quota, closer }) := by
  unfold billingActions Closing.owes
  dsimp only
  split
  · rfl
  · rfl
  · split
    · rfl
    next charged => simp [pending, billing, charged]
  · simp [pending, billing]
  · rfl

theorem owed_closingOf {closer : Closer} {row task : Task} (copy : Nat) (sameId : row.id = task.id)
    (unfinished : row.status.finished = false) (sameQuota : row.quota = task.quota ∨ closer = .legacySweep) :
    owed weight (closingOf closer row task.status) = pending weight (billingActions closer copy task) := by
  unfold closingOf
  split
  next _ =>
    rw [pending_billingActions, owed, total_cons, total_nil, add_zero, sameId]
    rcases sameQuota with same | rfl
    · rw [same]
      rfl
    · rfl
  next still =>
    rw [billingActions_unfinished (by simpa [unfinished] using still)]
    rfl

theorem owed_bulk (rows : List Task) :
    owed weight (rows.flatMap fun row => closingOf .bulkUpdate row .failure) = 0 := by
  apply total_eq_zero
  intro entry member
  obtain ⟨_, _, inside⟩ := mem_flatMap.mp member
  unfold closingOf at inside
  split at inside
  · rw [mem_singleton.mp inside]
    rfl
  · cases inside

theorem billed_closingOf (closer : Closer) (row : Task) (status : TaskStatus) :
    billed weight (closingOf closer row status) = 0 := by
  unfold closingOf
  split <;> rfl

theorem billed_bulk (rows : List Task) :
    billed weight (rows.flatMap fun row => closingOf .bulkUpdate row .failure) = 0 := by
  induction rows with
  | nil => rfl
  | cons _ _ ih => rw [flatMap_cons, billed_append, ih, billed_closingOf, add_zero]

end

section
variable (weight : Billing → Int) {fault : Bool} {state after : State} {action : Action} {added : List Action}
  {started : List (List Action)}

/-- What one action does to the account: the balance of its log and of the work
it leaves, or a fault that drops the billing it was about to make. -/
theorem Effect.unbilled (effect : Effect fault state action (after, added, started)) (consistent : state.Consistent) :
    ∃ lost, (lost = 0 ∨ fault = true ∧ lost = weigh weight action.billing) ∧
      owed weight after.log - billed weight after.log - pending weight added - total (pending weight) started =
        owed weight state.log - billed weight state.log - weigh weight action.billing + lost := by
  cases effect with
  | reads _ plain _ next begun =>
    refine ⟨0, .inl rfl, ?_⟩
    rw [plain.billing, pending_plain weight next, pending_started weight begun]
    simp [weigh]
  | schedules free next begun =>
    refine ⟨0, .inl rfl, ?_⟩
    rw [free, pending_plain weight next, pending_started weight begun]
    simp [weigh]
  | rewrites plain =>
    refine ⟨0, .inl rfl, ?_⟩
    rw [plain.billing]
    simp [weigh, pending, setCopy]
  | @wins _ copy task updated row closer plain rewrites found expected =>
    refine ⟨0, .inl rfl, ?_⟩
    have unfinished : row.status.finished = false := by rw [expected, rewrites.unfinished]
    have sameQuota : row.quota = updated.quota ∨ closer = .legacySweep := by
      rcases rewrites.sameQuota with same | ⟨legacy, _⟩
      · left
        rw [same]
        exact consistent.copies task (mem_of_getElem? rewrites.found) rewrites.unfinished row
          (by rw [← rewrites.sameId, found]) unfinished
      · exact .inr legacy
    have owes := owed_closingOf weight copy (Table.mem_of_find found).2 unfinished sameQuota
    have free := billed_closingOf weight closer row updated.status
    rw [plain.billing, owed_append, billed_append, owes, free]
    simp only [weigh, elim_none, total_nil]
    omega
  | bulk =>
    refine ⟨0, .inl rfl, ?_⟩
    rw [taskBulkUpdateByID, owed_append, billed_append, owed_bulk, billed_bulk]
    simp [pending, weigh, billing]
  | refunds _ _ charged =>
    refine ⟨0, .inl rfl, ?_⟩
    simp [owed, billed, pending, weigh, billing, owes, billed?, charged]
    omega
  | settles | adjusts =>
    refine ⟨0, .inl rfl, ?_⟩
    simp [owed, billed, pending, weigh, billing, owes, billed?]
    omega
  | writesQuota =>
    refine ⟨0, .inl rfl, ?_⟩
    simp [pending, weigh, billing]
  | fails fault =>
    refine ⟨_, .inr ⟨fault, rfl⟩, ?_⟩
    simp [pending]

theorem Effect.unbilled_replace {index : Nat} {rest : List Action}
    (selected : state.goroutines[index]? = some (action :: rest))
    (effect : Effect fault state action (after, added, started)) (consistent : state.Consistent) :
    ∃ lost, (lost = 0 ∨ fault = true ∧ lost = weigh weight action.billing) ∧ State.unbilled weight { after with
        goroutines := replace state.goroutines index ((added ++ rest) :: started) } = state.unbilled weight + lost := by
  obtain ⟨lost, cause, _⟩ := effect.unbilled weight consistent
  refine ⟨lost, cause, ?_⟩
  have replaced := total_replace (pending weight) selected ((added ++ rest) :: started)
  have first : pending weight (action :: rest) = weigh weight action.billing + pending weight rest :=
    total_cons _ action rest
  simp only [total_cons, pending_append] at replaced
  simp only [State.unbilled, replaced, first]
  omega

theorem State.Consistent.unbilled_step {settings : Settings} {next : State} {event : Event}
    (consistent : state.Consistent) (fresh : Fresh state event) (stepped : step settings state event = some next) :
    ∃ lost, (lost = 0 ∨ ¬ event.NoFault ∧ ∃ billing, lost = weigh weight billing) ∧
      next.unbilled weight = state.unbilled weight + lost := by
  cases event with
  | start =>
    cases stepped
    refine ⟨0, .inl rfl, ?_⟩
    simp [unbilled, pending_plain weight pass_plain]
  | run =>
    obtain ⟨action, rest, _, _, _, selected, effect, rfl⟩ := step_run fresh stepped
    obtain ⟨lost, cause, account⟩ := effect.unbilled_replace weight selected consistent
    refine ⟨lost, ?_, account⟩
    rcases cause with none | ⟨faulty, same⟩
    · exact .inl none
    · exact .inr ⟨by simp [Event.NoFault, faulty], _, same⟩
  | cancel =>
    obtain ⟨action, rest, selected, plain, rfl⟩ := step_cancel stepped
    refine ⟨0, .inl rfl, ?_⟩
    -- a context is checked between two polls, when nothing the goroutine owes is left
    have free : pending weight (action :: rest) = 0 := by
      apply pending_plain
      exact forall_mem_cons.mpr ⟨plain, consistent.tails _ (mem_of_getElem? selected)⟩
    simp [unbilled, total_replace (pending weight) selected, free]

end

section
variable {settings : Settings} {tasks : Tasks} {final : State} {events : List Event}

variable (weight : Billing → Int)

theorem opened_unbilled (tasks : Tasks) : (opened tasks).unbilled weight = 0 := rfl

theorem done_pending (done : final.Done) : total (pending weight) final.goroutines = 0 := by
  apply total_eq_zero
  intro goroutine member
  rw [done goroutine member]
  rfl

variable (run : (machine settings).Runs Fresh (.opened tasks) events final)
include run

theorem run_consistent : final.Consistent :=
  run.invariant State.Consistent (fun _ _ _ held fresh stepped => held.step_kept fresh stepped)
    (opened_consistent tasks)

theorem run_unbilled (faultless : ∀ event ∈ events, event.NoFault) : final.unbilled weight = 0 := by
  have both := (run.restrict Event.NoFault faultless).invariant
    (fun state => state.Consistent ∧ state.unbilled weight = 0)
    (fun state event next held admitted stepped => by
      obtain ⟨consistent, balanced⟩ := held
      obtain ⟨_, cause, account⟩ := consistent.unbilled_step weight admitted.1 stepped
      refine ⟨consistent.step_kept admitted.1 stepped, ?_⟩
      rcases cause with rfl | ⟨faulty, _⟩
      · rw [account, balanced, add_zero]
      · exact absurd admitted.2 faulty)
    ⟨opened_consistent tasks, opened_unbilled weight tasks⟩
  exact both.2

theorem run_unbilled_nonneg {weight : Billing → Int} (positive : ∀ billing, 0 ≤ weight billing) :
    0 ≤ final.unbilled weight := by
  have both := run.invariant (fun state => state.Consistent ∧ 0 ≤ state.unbilled weight)
    (fun state event next held fresh stepped => by
      obtain ⟨consistent, covered⟩ := held
      obtain ⟨_, cause, account⟩ := consistent.unbilled_step weight fresh stepped
      refine ⟨consistent.step_kept fresh stepped, ?_⟩
      rcases cause with rfl | ⟨_, billing, rfl⟩
      · rw [account, add_zero]
        exact covered
      · have dropped := weigh_nonneg positive billing
        omega)
    ⟨opened_consistent tasks, (opened_unbilled weight tasks).ge⟩
  exact both.2

theorem done_billed (faultless : ∀ event ∈ events, event.NoFault) (done : final.Done) :
    billed weight final.log = owed weight final.log := by
  have balanced := run_unbilled weight run faultless
  rw [unbilled, done_pending weight done] at balanced
  omega

theorem billed_le_owed {weight : Billing → Int} (positive : ∀ billing, 0 ≤ weight billing) :
    billed weight final.log ≤ owed weight final.log := by
  have covered := run_unbilled_nonneg run positive
  have waiting : 0 ≤ total (pending weight) final.goroutines :=
    total_nonneg _ fun goroutine _ => total_nonneg _ fun action _ => weigh_nonneg positive _
  rw [unbilled] at covered
  omega

end

variable {closing : Closing}

theorem Closing.owes_id {billing : Billing} (owes : closing.owes = some billing) : billing.id = closing.id := by
  unfold Closing.owes at owes
  split at owes <;> try cases owes
  · split at owes <;> cases owes
    rfl
  · rfl

variable (selects : Billing → Bool)

def indicator (billing : Billing) : Int := if selects billing then 1 else 0

theorem indicator_nonneg (billing : Billing) : 0 ≤ indicator selects billing := by
  unfold indicator
  split <;> decide

attribute [local simp] indicator

theorem billed_indicator (log : List Entry) :
    billed (indicator selects) log = log.countP fun entry => entry.billed?.any selects := by
  induction log with
  | nil => rfl
  | cons entry rest ih =>
    have split : billed (indicator selects) (entry :: rest) =
        weigh (indicator selects) entry.billed? + billed (indicator selects) rest := total_cons _ entry rest
    rw [split, ih, countP_cons]
    cases entry with
    | closed => simp [weigh, billed?]
    | billed billing =>
      by_cases chosen : selects billing <;> simp [weigh, billed?, chosen]
      omega

theorem owed_eq_closings (weight : Billing → Int) (log : List Entry) :
    owed weight log = total (fun closing => weigh weight closing.owes) (closings log) := by
  induction log with
  | nil => rfl
  | cons entry rest ih =>
    have split : owed weight (entry :: rest) = weigh weight entry.owes + owed weight rest := total_cons _ entry rest
    rw [split, ih]
    cases entry with
    | closed closing => exact (total_cons (fun closing => weigh weight closing.owes) closing (closings rest)).symm
    | billed => exact zero_add _

section
variable {state : State} {weight : Billing → Int}

theorem weigh_owes_eq_zero {closing : Closing} (foreign : ∀ billing, billing.id = closing.id → weight billing = 0) :
    weigh weight closing.owes = 0 := by
  cases owes : closing.owes with
  | none => rfl
  | some billing => exact foreign billing (Closing.owes_id owes)

theorem State.Consistent.owed_eq (consistent : state.Consistent) {closing : Closing}
    (closed : .closed closing ∈ state.log) (own : ∀ billing, billing.id ≠ closing.id → weight billing = 0) :
    owed weight state.log = weigh weight closing.owes := by
  rw [owed_eq_closings]
  apply total_eq_weight _ consistent.once (mem_closings.mpr closed)
  intro other _ differs
  apply weigh_owes_eq_zero
  intro billing same
  exact own billing (same ▸ differs)

theorem State.Consistent.owed_le_one (consistent : state.Consistent) (id : Int) :
    owed (indicator fun billing => billing.id = id) state.log ≤ 1 := by
  by_cases known : ∃ closing, .closed closing ∈ state.log ∧ closing.id = id
  · obtain ⟨closing, closed, rfl⟩ := known
    rw [consistent.owed_eq closed (by simp)]
    cases closing.owes with
    | none => simp [weigh]
    | some =>
      simp only [weigh, elim_some, indicator]
      split <;> decide
  rw [owed_eq_closings, total_eq_zero]
  · decide
  · intro closing member
    apply weigh_owes_eq_zero
    intro billing same
    have differs : billing.id ≠ id := fun equal => known ⟨closing, mem_closings.mp member, same ▸ equal⟩
    simp [differs]

end

theorem billed_eq_count (billing : Billing) (log : List Entry) :
    billed (indicator fun other => other = billing) log = log.count (.billed billing) := by
  rw [billed_indicator, count]
  congr 2
  funext entry
  cases entry <;> simp [billed?, BEq.beq]

theorem Closing.owes_failure (failed : closing.status = .failure) (charged : closing.quota ≠ 0)
    (current : closing.closer ≠ .legacySweep) (guarded : closing.closer ≠ .bulkUpdate) :
    closing.owes = some (.refund closing.id closing.quota) := by
  unfold owes
  rw [failed]
  cases closer : closing.closer with
  | bulkUpdate => exact absurd closer guarded
  | legacySweep => exact absurd closer current
  | sweep | suno | video => simp [charged]

theorem Closing.owes_bulkUpdate (bulk : closing.closer = .bulkUpdate) : closing.owes = none := by
  unfold owes
  rw [bulk]

/-- When every goroutine has ended without a fault, a charged task that failed
outside the legacy sweep has been refunded its quota exactly once if and only if
it was not a bulk update that failed it. -/
theorem failure_refunded_once_iff (settings : Settings) (tasks : Tasks) {events : List Event} {final : State}
    (run : (machine settings).Runs Fresh (.opened tasks) events final)
    (faultless : ∀ event ∈ events, event.NoFault) (done : final.Done) (closing : Closing)
    (closed : .closed closing ∈ final.log) (failed : closing.status = .failure) (charged : closing.quota ≠ 0)
    (current : closing.closer ≠ .legacySweep) :
    (∀ amount, final.log.count (.billed (.refund closing.id amount)) = if amount = closing.quota then 1 else 0) ↔
      closing.closer ≠ .bulkUpdate := by
  have counted : ∀ amount, (final.log.count (.billed (.refund closing.id amount)) : Int) =
      weigh (indicator fun other => other = .refund closing.id amount) closing.owes := by
    intro amount
    rw [← billed_eq_count, done_billed _ run faultless done]
    apply (run_consistent run).owed_eq closed
    intro billing foreign
    have differs : billing ≠ .refund closing.id amount := fun same => foreign (by rw [same]; rfl)
    simp [differs]
  constructor
  · intro refunded bulk
    have once := counted closing.quota
    rw [refunded closing.quota, Closing.owes_bulkUpdate bulk] at once
    simp [weigh] at once
  · intro guarded amount
    have once := counted amount
    rw [Closing.owes_failure failed charged current guarded] at once
    by_cases same : amount = closing.quota
    · simp only [same, weigh, elim_some, indicator, decide_true, if_true] at once ⊢
      omega
    · have differs : ¬ closing.quota = amount := fun equal => same equal.symm
      simpa [weigh, same, differs] using once

def racing : List Event :=
  let go := fun index => Event.run index quietInput
  let fail := fun index => Event.run index { quietInput with reply := statusReply .failure }
  [.start, go 0, go 0, go 1, go 1, .start, go 3, go 3, go 4, go 4, go 2, go 5, fail 5, go 5, go 5, fail 2]

def oneVideo : Tasks := oneTask (sampleTask 1 (.video "kling") "up")
def raced : State := ((machine pollOnly).exec Fresh (.opened oneVideo) racing).getD (.opened oneVideo)

theorem failure_refunded_once_iff_raced :
    (∀ amount, raced.log.count (.billed (.refund 1 amount)) = if amount = 50 then 1 else 0) ↔
      Closer.video ≠ .bulkUpdate := by
  have run : (machine pollOnly).Runs Fresh (.opened oneVideo) racing raced := runs_iff_exec.mpr (by decide)
  exact failure_refunded_once_iff pollOnly oneVideo run (by decide) (by decide)
    { id := 1, status := .failure, quota := 50, closer := .video } (by decide) rfl (by decide) (by decide)

-- Two tasks with one upstream id share a copy. Polled again, it needs no compare-and-set to be refunded once more.
example : let twin := fun id => sampleTask id (.video "kling") "up"
    let tasks : Tasks := { rows := [twin 1, twin 2], unique := by decide }
    let again := Event.run 2 { quietInput with reply := statusReply .failure }
    ((machine pollOnly).exec unrestricted (.opened tasks) (racing ++ [again, .run 2 quietInput])).map
        (fun final => final.log.count (.billed (.refund 2 50))) = some 2 := by
  decide

/-- A charged task without an upstream id is failed by the pass itself, and no
goroutine is left that would refund it. -/
theorem bulk_update_keeps_charge : let tasks := oneTask (sampleTask 1 .suno "")
    let go := fun index => Event.run index quietInput
    ∃ final, (machine pollOnly).Runs Fresh (.opened tasks) [.start, go 0, go 0, go 1, go 1, go 1] final ∧
      (tasks.find 1).map (fun row => (row.status, row.quota, row.isLegacy)) = some (.inProgress, 50, false) ∧
      (final.tasks.find 1).map (fun row => (row.status, row.quota)) = some (.failure, 50) ∧ final.Done ∧
      .closed { id := 1, status := .failure, quota := 50, closer := .bulkUpdate } ∈ final.log ∧
      final.log.countP (bills 1) = 0 := by
  refine ⟨_, runs_iff_exec.mpr rfl, ?_⟩
  decide

theorem billed_eq_bills (id : Int) (log : List Entry) :
    billed (indicator fun billing => billing.id = id) log = log.countP (bills id) :=
  billed_indicator _ log

/-- However the passes interleave and whatever fails, a task is billed at most
once. Without faults, once every goroutine has ended, it has been billed exactly
if the statement that closed its row owed a refund or a settlement. -/
theorem billed_at_most_once (settings : Settings) (tasks : Tasks) {events : List Event} {final : State}
    (run : (machine settings).Runs Fresh (.opened tasks) events final) (id : Int) :
    final.log.countP (bills id) ≤ 1 ∧
      ((∀ event ∈ events, event.NoFault) → final.Done → ∀ closing, .closed closing ∈ final.log →
        closing.id = id → final.log.countP (bills id) = if closing.owes = none then 0 else 1) := by
  have consistent := run_consistent run
  constructor
  · have covered := billed_le_owed run (indicator_nonneg fun billing => billing.id = id)
    have single := consistent.owed_le_one id
    rw [billed_eq_bills] at covered
    omega
  · rintro faultless done closing closed rfl
    have settled := done_billed (indicator fun billing => billing.id = closing.id) run faultless done
    rw [billed_eq_bills, consistent.owed_eq closed (by simp +contextual)] at settled
    cases owes : closing.owes with rw [owes] at settled
    | none => simpa [weigh] using settled
    | some =>
      simp only [weigh, elim_some, indicator, Closing.owes_id owes, decide_true, if_true] at settled
      rw [if_neg (by simp)]
      omega

theorem billed_at_most_once_raced : raced.log.countP (bills 1) ≤ 1 ∧
      ((∀ event ∈ racing, event.NoFault) → raced.Done → ∀ closing, .closed closing ∈ raced.log →
        closing.id = 1 → raced.log.countP (bills 1) = if closing.owes = none then 0 else 1) := by
  have run : (machine pollOnly).Runs Fresh (.opened oneVideo) racing raced := runs_iff_exec.mpr (by decide)
  exact billed_at_most_once pollOnly oneVideo run 1

/-- A Suno task that succeeds is finished through a compare-and-set, and nothing
is refunded or settled. -/
theorem suno_success_bills_nothing : let tasks := oneTask (sampleTask 1 .suno "up")
    let go := fun index => Event.run index quietInput
    let item := SunoItem.mk "up" .success "" 1 1 1 ""
    ∃ final, (machine pollOnly).Runs Fresh (.opened tasks)
        [.start, go 0, go 0, go 1, go 1, .run 2 { quietInput with items := some [item] }, go 2] final ∧
      final.Done ∧ .closed { id := 1, status := .success, quota := 50, closer := .suno } ∈ final.log ∧
      (final.tasks.find 1).map Task.status = some .success ∧ final.log.countP (bills 1) = 0 := by
  refine ⟨_, runs_iff_exec.mpr rfl, ?_⟩
  decide

end FlowAPI.Polling
