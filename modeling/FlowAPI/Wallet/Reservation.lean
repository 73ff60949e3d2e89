import FlowAPI.Semantics.Budget
import FlowAPI.Wallet.Ledger
import Mathlib.Algebra.Order.Group.Int

/-! Reservations against the hash spend a budget, as long as the hash and the
row never show more than the balance that is left.

The guard of a reservation reads the hash, the debit waits in the accumulator.
A hydration between the two copies the row, which does not know the debit. The
condition below is exactly that such a copy is covered.
-/

set_option autoImplicit false
namespace FlowAPI.Wallet
open Batch Semantics User List Option State Resume Machine

def Operation.Spends : Operation → Prop
  | .tryReserveUserQuota _ | .getUserCache | .batchUpdate => True
  | _ => False

open Operation

instance : DecidablePred Operation.Spends := by
  rintro ⟨⟩ <;> dsimp only [Operation.Spends] <;> infer_instance

def Spending (_ : State) : Event → Prop
  | .call operation => operation.Spends
  | .run _ fault => fault = false
  | .expire => True

instance : DecidableRel Spending := by
  rintro _ ⟨⟩ <;> dsimp only [Spending] <;> infer_instance

def Job.Covered (state : State) : Job → Prop
  | .publish _ snapshot => ∀ quota ∈ state.published snapshot, quota ≤ state.balance
  | .reserveRow amount => amount ≤ state.row.quota →
      amount ≤ state.balance ∧ ∀ quota ∈ state.cachedQuota, quota ≤ state.balance - amount
  | _ => True

open Job

instance (state : State) : DecidablePred (Job.Covered state) := by
  rintro ⟨⟩ <;> dsimp only [Job.Covered] <;> infer_instance

/-- No publication and no database fallback acts on more than what is left. -/
def Covered (state : State) : Event → Prop
  | .run index _ => ∀ job ∈ state.jobs[index]?, job.Covered state
  | _ => True

instance : DecidableRel Covered := by
  rintro _ ⟨⟩ <;> dsimp only [Covered] <;> infer_instance

def Resume.Positive : Resume → Prop
  | .finish => True
  | .reserve amount => 0 < amount

def Job.Spends : Job → Prop
  | .reserve amount | .retry amount | .reserveRow amount | .persist amount => 0 < amount
  | .lookup resume | .lookupFloor resume _ | .readRow resume | .checkFloor resume _ | .publish resume _ =>
    resume.Positive
  | .flush | .applyFlush _ => True
  | _ => False

/-- A wallet state behind a budget: what the budget has left is what the wallet
will be worth, what it has spent are the accepted reservations. -/
structure Backed (state : State) (budget : Budget Int) : Prop where
  left : budget.left = state.balance
  spent : budget.spent = state.accepted
  ceiling : budget.left + budget.spent ≤ maxInt
  cached : ∀ quota ∈ state.cachedQuota, quota ≤ state.balance
  spends : ∀ job ∈ state.jobs, job.Spends
  recorded : -state.granted ≤ state.store.getD 0 ∧ state.store.getD 0 ≤ 0

section
variable {config : Config} {state next : State} {index : Nat} {job : Job} {budget : Budget Int}

attribute [local simp] Resume.Positive Job.Spends

theorem Resume.hydrated_spends {resume : Resume} (positive : resume.Positive) :
    ∀ job ∈ resume.hydrated, job.Spends := by
  cases resume <;> simp_all [hydrated]

theorem Resume.failed_spends {resume : Resume} (positive : resume.Positive) : ∀ job ∈ resume.failed, job.Spends := by
  cases resume <;> simp_all [failed]

theorem tryScript_spends {amount : Int} {onMiss : List Job} (positive : 0 < amount)
    (missed : ∀ job ∈ onMiss, job.Spends) : ∀ job ∈ (tryScript state amount onMiss).2, job.Spends := by
  unfold tryScript
  split
  · exact missed
  · simp
  · simp [positive]

theorem runJob_spends (batch : config.batchUpdateEnabled = true) (spends : job.Spends) :
    ∀ pending ∈ (runJob config false state job).2, pending.Spends := by
  cases job with simp only [runJob]
  | reserve | retry => exact tryScript_spends spends (by simpa using spends)
  | lookup =>
    split
    · simpa using spends
    · split <;> simpa using spends
  | lookupFloor =>
    split
    · simpa using spends
    · exact hydrated_spends spends
  | readRow =>
    simp only [Bool.false_eq_true, if_false]
    split
    · simpa using spends
    · exact hydrated_spends spends
  | checkFloor =>
    split
    · exact failed_spends spends
    · simpa using spends
  | publish =>
    simp only [Bool.false_eq_true, if_false]
    split
    · exact failed_spends spends
    · exact hydrated_spends spends
  | reserveRow =>
    simp only [Bool.false_eq_true, if_false]
    split <;> simp
  | persist => simp [batch]
  | flush => split <;> simp
  | applyFlush => simp
  | _ => exact spends.elim

theorem tryScript_ledger (state : State) (amount : Int) (onMiss : List Job) :
    (tryScript state amount onMiss).1.store = state.store ∧
      (tryScript state amount onMiss).1.granted = state.granted := by
  unfold tryScript
  split <;> exact ⟨rfl, rfl⟩

theorem Job.Spends.owed_nonneg (spends : job.Spends) : 0 ≤ job.reservationOwed := by
  cases job <;> first | exact le_of_lt spends | exact le_rfl

theorem Operation.start_spends (config : Config) {operation : Operation} (spends : operation.Spends) :
    Pool.total debitOwed (operation.start config) = 0 ∧ ∀ job ∈ operation.start config, job.Spends := by
  cases operation with
  | tryReserveUserQuota =>
    simp only [start]
    split_ifs <;> simp_all
  | getUserCache => simp [start]
  | batchUpdate => simp [start]
  | _ => exact spends.elim

variable (backed : Backed state budget)
include backed

theorem Backed.granted_le : state.granted ≤ budget.spent := by
  have owed := Pool.total_nonneg reservationOwed fun job member => (backed.spends job member).owed_nonneg
  have spent := backed.spent
  simp only [accepted, reservationsOwed] at spent
  omega

theorem Backed.noOverflow (config : Config) (index : Nat) : NoOverflow config state (.run index false) := by
  intro job selected delta recorded
  have member := mem_of_getElem? selected
  have spends := backed.spends job member
  cases job with
  | persist amount =>
    have owed := Pool.weight_le_total reservationOwed
      (fun job member => (backed.spends job member).owed_nonneg) member
    have spent := backed.spent
    have bound := budget.spent_le
    have ceiling := backed.ceiling
    have range := backed.recorded
    have positive : 0 < amount := spends
    simp only [accepted, reservationsOwed] at spent
    simp only [reservationOwed] at owed
    simp only [recordedDelta] at recorded
    split at recorded <;> cases recorded
    · unfold Fits minInt maxInt at *
      omega
  | increase | debit => exact spends.elim
  | _ => cases recorded

theorem Backed.recorded_kept (batch : config.batchUpdateEnabled = true) (selected : state.jobs[index]? = some job) :
    -(runJob config false state job).1.granted ≤ (runJob config false state job).1.store.getD 0 ∧
      (runJob config false state job).1.store.getD 0 ≤ 0 := by
  have spends := backed.spends job (mem_of_getElem? selected)
  have range := backed.recorded
  cases job with simp only [runJob]
  | persist amount =>
    have fits := backed.noOverflow config index _ selected (-amount) (by simp [recordedDelta, batch])
    have positive : 0 < amount := spends
    simp only [batch, if_true, record, grant, getD_some, addNewRecord_exact fits]
    omega
  | reserve amount =>
    obtain ⟨store, granted⟩ := tryScript_ledger state amount [.lookup (.reserve amount)]
    simp [store, granted, range]
  | retry amount =>
    obtain ⟨store, granted⟩ := tryScript_ledger state amount [.reserveRow amount]
    simp [store, granted, range]
  | reserveRow amount =>
    have positive : 0 < amount := spends
    simp only [Bool.false_eq_true, if_false]
    split
    · simp only [addRow, grant]
      omega
    · exact range
  | flush =>
    split
    · exact range
    · simp only [getD_none]
      omega
  | lookup =>
    split
    · exact range
    · split <;> exact range
  | lookupFloor | readRow | checkFloor | publish =>
    split_ifs <;> try split
    all_goals exact range
  | applyFlush => exact range
  | _ => exact spends.elim

theorem Backed.stay (moves : Moves state next 0 0 0)
    (cached : ∀ quota ∈ next.cachedQuota, quota ≤ state.balance) (spends : ∀ job ∈ next.jobs, job.Spends)
    (recorded : -next.granted ≤ next.store.getD 0 ∧ next.store.getD 0 ≤ 0) : Backed next budget := by
  have balance : next.balance = state.balance := moves.balance.trans (add_zero _)
  have accepted : next.accepted = state.accepted := moves.accepted.trans (add_zero _)
  exact ⟨backed.left.trans balance.symm, backed.spent.trans accepted.symm, backed.ceiling,
    balance ▸ cached, spends, recorded⟩

theorem Backed.spend {amount : Int} (moves : Moves state next (-amount) 0 amount)
    (positive : 0 < amount) (enough : amount ≤ state.balance)
    (cached : ∀ quota ∈ next.cachedQuota, quota ≤ state.balance - amount) (spends : ∀ job ∈ next.jobs, job.Spends)
    (recorded : -next.granted ≤ next.store.getD 0 ∧ next.store.getD 0 ≤ 0) :
    ∃ amount spent, Budget.machine.step budget amount = some spent ∧ Backed next spent := by
  have affordable : 0 ≤ amount ∧ amount ≤ budget.left := ⟨le_of_lt positive, backed.left ▸ enough⟩
  have left := backed.left
  have spent := backed.spent
  have ceiling := backed.ceiling
  have balance := moves.balance
  have accepted := moves.accepted
  refine ⟨amount, budget.spend amount affordable.2, dif_pos affordable, ?_, ?_, ?_, ?_, spends, recorded⟩
  · simp only [Budget.spend]
    omega
  · simp only [Budget.spend]
    omega
  · simp only [Budget.spend]
    omega
  · intro quota shown
    have bound := cached quota shown
    omega

theorem Backed.step_matched (redis : config.redisEnabled = true) (batch : config.batchUpdateEnabled = true)
    {event : Event} (spending : Spending state event)
    (covered : Covered state event) (stepped : step config state event = some next) :
    Backed next budget ∨ ∃ amount spent, Budget.machine.step budget amount = some spent ∧ Backed next spent := by
  cases event with
  | call =>
    obtain ⟨debitless, spends⟩ := start_spends config spending
    have moves := call_moves stepped
    rw [debitless, neg_zero] at moves
    cases stepped
    exact .inl (backed.stay moves backed.cached (forall_mem_append.mpr ⟨backed.spends, spends⟩) backed.recorded)
  | run index fault =>
    obtain rfl : fault = false := spending
    obtain ⟨job, selected, same⟩ := step_run stepped
    have member := mem_of_getElem? selected
    have spends : ∀ pending ∈ next.jobs, pending.Spends := by
      rw [same]
      exact Pool.forall_replace backed.spends (runJob_spends batch (backed.spends job member))
    have recorded : -next.granted ≤ next.store.getD 0 ∧ next.store.getD 0 ≤ 0 := by
      rw [same]
      exact backed.recorded_kept batch selected
    have own := backed.spends job member
    cases run_effect redis selected (backed.noOverflow config index) stepped with
    | @accept _ amount quota _ scripted guarded enough taken moves =>
      -- the script takes from what the cache shows, and the budget covers that
      have limit := backed.cached quota guarded
      have positive : 0 < amount := by rcases scripted with rfl | rfl <;> exact own
      refine .inr (backed.spend moves positive (enough.trans limit) ?_ spends recorded)
      intro shown member
      obtain rfl := some.inj (taken.symm.trans member)
      omega
    | apply incremental => rcases incremental with rfl | rfl <;> exact own.elim
    | deposit deposited => rcases deposited with ⟨_, rfl⟩ | rfl <;> exact own.elim
    | @reserveRow amount _ enough keys moves =>
      obtain ⟨affordable, shown⟩ := covered _ selected enough
      rw [← moves.sameCached keys] at shown
      exact .inr (backed.spend moves own affordable shown spends recorded)
    | transfer => exact own.elim
    | @publish resume snapshot _ keys moves =>
      refine .inl (backed.stay moves ?_ spends recorded)
      rw [cachedQuota, keys, moves.sameId, published_eq]
      exact covered _ selected
    | quiet keys moves =>
      refine .inl (backed.stay moves ?_ spends recorded)
      rw [moves.sameCached keys]
      exact backed.cached
  | expire =>
    cases stepped
    have gone : (state.setHash none).cachedQuota = none := by simp [cachedQuota, setHash]
    refine .inl ⟨backed.left, backed.spent, backed.ceiling, ?_, backed.spends, backed.recorded⟩
    simp [gone]

end

theorem State.AtRest.backed {state : State} (rest : state.AtRest) (ungranted : state.granted = 0)
    (representable : Fits state.row.quota) : Backed state (.opened state.row.quota) := by
  have worth := rest.balance_eq
  obtain ⟨cached, recorded, settled⟩ := rest
  refine ⟨worth.symm, ?_, ?_, ?_, by simp [settled], by simp [recorded, ungranted]⟩
  · simp [Budget.opened, accepted, reservationsOwed, settled, ungranted]
  · simpa [Budget.opened] using representable.2
  · intro quota shown
    rw [worth]
    rcases cached with absent | synced
    · simp [cachedQuota, absent] at shown
    · exact le_of_eq (some.inj (shown.symm.trans synced))

section
variable (config : Config) (redis : config.redisEnabled = true) (batch : config.batchUpdateEnabled = true)
  {start final : State} {events : List Event} (rest : start.AtRest) (ungranted : start.granted = 0)
  (representable : Fits start.row.quota)
  (run : (machine config).Runs (fun state event => Spending state event ∧ Covered state event) start events final)
include redis batch rest ungranted representable run

/-- The wallet refines the budget: its accepted reservations are a run of it. -/
theorem wallet_refines_budget : ∃ amounts budget, Budget.machine.Runs unrestricted (.opened start.row.quota) amounts budget ∧
      Backed final budget :=
  run.simulate Backed
    (fun _ _ _ _ backed admitted stepped => backed.step_matched redis batch admitted.1 admitted.2 stepped)
    (rest.backed ungranted representable)

theorem granted_within_balance : final.granted ≤ max 0 start.row.quota := by
  obtain ⟨_, budget, spends, backed⟩ := wallet_refines_budget config redis batch rest ungranted representable run
  calc final.granted ≤ budget.spent := backed.granted_le
    _ ≤ max 0 (budget.left + budget.spent) := budget.spent_le
    _ = max 0 start.row.quota := by
        rw [Budget.runs_total spends]
        simp [Budget.opened]
end

/-- Two reservations of 4 from a wallet of 10, the hash expiring in between but
only after the first one has been flushed. -/
def flushedBeforeExpiry : List Event :=
  [.call (.tryReserveUserQuota 4), .run 0 false, .run 0 false, .call .batchUpdate, .run 0 false,
    .run 0 false, .expire, .call (.tryReserveUserQuota 4)] ++ replicate 7 (.run 0 false)

def flushedFinal : State :=
  ((machine redisBatch).exec (fun state event => Spending state event ∧ Covered state event)
    (.opened (sampleRow 10 0)) flushedBeforeExpiry).getD (.opened (sampleRow 0 0))

theorem granted_within_balance_flushed : flushedFinal.granted = 8 ∧ flushedFinal.granted ≤ max 0 10 := by
  have rest : (opened (sampleRow 10 0)).AtRest := ⟨.inr rfl, rfl, rfl⟩
  have run : (machine redisBatch).Runs (fun state event => Spending state event ∧ Covered state event)
      (.opened (sampleRow 10 0)) flushedBeforeExpiry flushedFinal := runs_iff_exec.mpr (by decide)
  exact ⟨by decide, granted_within_balance redisBatch rfl rfl rest rfl (by decide) run⟩

/-- The hash expires while the first reservation waits in the accumulator. The
row still shows 10, so the hydration lets the whole balance be reserved again. -/
theorem rehydration_reserves_twice : (opened (sampleRow 10 0)).AtRest ∧ ∃ final,
      (machine redisBatch).Runs Spending (.opened (sampleRow 10 0))
        ([.call (.tryReserveUserQuota 10), .run 0 false, .run 0 false, .expire,
          .call (.tryReserveUserQuota 10)] ++ replicate 7 (.run 0 false)) final ∧
      final.granted = 20 := by
  refine ⟨⟨.inr rfl, rfl, rfl⟩, ?_⟩
  exact ⟨_, runs_iff_exec.mpr rfl, by decide⟩

end FlowAPI.Wallet
