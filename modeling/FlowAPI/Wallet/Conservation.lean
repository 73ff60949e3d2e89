import FlowAPI.Wallet.Ledger

/-! Hash, row and accumulator agree while the hash stays in place.

The three places a balance lives in are never equal in the middle of a call. Up
to the increments still in flight, the reservations accepted and not recorded,
and the debits started and not recorded, the hash shows the row plus the batch.
-/

set_option autoImplicit false
namespace FlowAPI.Wallet
open Semantics User Option State

def Operation.Core : Operation → Prop
  | .tryReserveUserQuota _ | .increaseUserQuota _ _ | .decreaseUserQuota _ _ | .batchUpdate => True
  | _ => False

instance : DecidablePred Operation.Core := fun _ => by
  unfold Operation.Core
  split <;> infer_instance

def Event.Core : Event → Prop
  | .call operation => operation.Core
  | .run _ _ => True
  | .expire => False

instance : DecidablePred Event.Core := by
  rintro ⟨⟩ <;> dsimp only [Event.Core] <;> infer_instance

/-- Nothing fails, saturates or removes the hash, and only core calls arrive. -/
def Undisturbed (config : Config) (state : State) (event : Event) : Prop :=
  NoFault event ∧ NoOverflow config state event ∧ event.Core

instance (config : Config) : DecidableRel (Undisturbed config) := fun _ _ => inferInstanceAs (Decidable (_ ∧ _ ∧ _))

structure State.Synced (state : State) : Prop where
  cached : state.cachedQuota = some state.row.quota
  recorded : state.store.getD 0 = 0
  settled : state.jobs = []

def Job.Core : Job → Prop
  | .reserve _ | .persist _ | .increase _ _ | .debit _ _ | .cacheDelta _ | .flush | .applyFlush _ => True
  | _ => False

def Job.OfReserve : Job → Prop
  | .reserve _ | .retry _ | .reserveRow _ | .persist _ | .compensate _ => True
  | .lookup resume | .lookupFloor resume _ | .readRow resume | .checkFloor resume _ | .publish resume _ =>
    resume ≠ .finish
  | _ => False

structure State.Conserved (state : State) : Prop where
  core : ∀ job ∈ state.jobs, job.Core
  balanced : ∃ quota, state.cachedQuota = some quota ∧ quota + state.cacheInFlight = state.balance

section
variable {config : Config} {state next : State} {index : Nat} {job : Job}

theorem runJob_core (core : job.Core) {quota : Int} (guarded : state.cachedQuota = some quota) :
    ∀ pending ∈ (runJob config false state job).2, pending.Core := by
  cases job with simp only [runJob]
  | reserve amount =>
    by_cases short : quota < amount
    · simp [tryScript, reserveScript_insufficient guarded short]
    · simp [tryScript, reserveScript_ok guarded (not_lt.mp short), Job.Core]
  | persist => by_cases batch : config.batchUpdateEnabled <;> simp [batch]
  | increase => split_ifs <;> simp [Job.Core]
  | debit | cacheDelta => split_ifs <;> simp
  | flush => split <;> simp [Job.Core]
  | applyFlush => simp
  | _ => exact core.elim

theorem Effect.balanced (effect : Effect state job next) (core : job.Core)
    {quota : Int} (guarded : state.cachedQuota = some quota) (agrees : quota + state.cacheInFlight = state.balance) :
    ∃ quota, next.cachedQuota = some quota ∧ quota + next.cacheInFlight = next.balance := by
  cases effect with
  | accept _ found _ taken moves =>
    cases some.inj (found.symm.trans guarded)
    exact ⟨_, taken, by rw [moves.balance, moves.flight]; omega⟩
  | apply _ _ applied moves => exact ⟨_, applied quota guarded, by rw [moves.balance, moves.flight]; omega⟩
  | deposit _ keys moves | quiet keys moves =>
    exact ⟨quota, (moves.sameCached keys).trans guarded, by rw [moves.balance, moves.flight]; omega⟩
  | reserveRow | transfer | publish => exact core.elim

theorem Operation.start_core {operation : Operation} (redis : config.redisEnabled = true)
    (core : operation.Core) : ∀ job ∈ operation.start config, job.Core := by
  cases operation <;> first | exact core.elim | skip
  all_goals simp only [start, redis, if_true]
  all_goals try split_ifs
  all_goals simp [Job.Core]

theorem State.Conserved.step_kept (redis : config.redisEnabled = true) (conserved : state.Conserved) {event : Event}
    (undisturbed : Undisturbed config state event) (stepped : step config state event = some next) :
    next.Conserved := by
  obtain ⟨faultless, fits, calls⟩ := undisturbed
  obtain ⟨quota, guarded, agrees⟩ := conserved.balanced
  cases event with
  | call operation =>
    have moves := call_moves stepped
    cases stepped
    exact ⟨List.forall_mem_append.mpr ⟨conserved.core, operation.start_core redis calls⟩, quota, guarded,
      by rw [moves.balance, moves.flight]; omega⟩
  | run _ fault =>
    obtain rfl : fault = false := faultless
    obtain ⟨job, selected, same⟩ := step_run stepped
    have core := conserved.core job (List.mem_of_getElem? selected)
    refine ⟨?_, (run_effect redis selected fits stepped).balanced core guarded agrees⟩
    rw [same]
    exact Pool.forall_replace conserved.core (runJob_core core guarded)
  | expire => exact calls.elim

theorem State.Synced.conserved (synced : state.Synced) : state.Conserved := by
  obtain ⟨cached, recorded, settled⟩ := synced
  refine ⟨by simp [settled], state.row.quota, cached, ?_⟩
  simp [cacheInFlight, balance, pendingBatch, reservationsOwed, debitsOwed, settled, recorded]

theorem reserve_step_floor (core : job.Core) (reserving : job.OfReserve) {quota after : Int}
    (guarded : state.cachedQuota = some quota) (selected : state.jobs[index]? = some job)
    (stepped : step config state (.run index false) = some next)
    (reached : next.cachedQuota = some after) : 0 ≤ after ∨ state.cachedQuota = some after := by
  obtain ⟨other, found, rfl⟩ := step_run stepped
  obtain rfl : other = job := some.inj (found.symm.trans selected)
  cases other with
  | reserve amount =>
    have script : guardedQuota state.row.id state.keys.hash = some quota := guarded
    by_cases short : quota < amount
    · simp only [runJob, tryScript, reserveScript_insufficient script short] at reached
      exact .inr reached
    simp only [runJob, tryScript, reserveScript_ok script (not_lt.mp short)] at reached
    have left := guardedQuota_setQuota (quota - amount) script
    obtain rfl : quota - amount = after := some.inj (left.symm.trans reached)
    omega
  | persist =>
    by_cases batch : config.batchUpdateEnabled <;> simp only [runJob, batch] at reached <;>
      exact .inr reached
  | increase | debit | cacheDelta | flush | applyFlush => exact reserving.elim
  | _ => exact core.elim

end

/-- In every state of a run that leaves the hash in place the three ledgers agree
up to the work in flight, and exactly once there is none. -/
theorem cached_quota_conserved (config : Config) (redis : config.redisEnabled = true)
    {start final : State} {events : List Event} (synced : start.Synced)
    (run : (machine config).Runs (Undisturbed config) start events final) :
    ∃ quota, final.cachedQuota = some quota ∧ quota + final.cacheInFlight =
        final.row.quota + final.pendingBatch - final.reservationsOwed - final.debitsOwed ∧
      (∀ index job next after, final.jobs[index]? = some job → job.OfReserve →
        step config final (.run index false) = some next → next.cachedQuota = some after →
        0 ≤ after ∨ quota = after) ∧
      (final.jobs = [] → quota = final.row.quota + final.store.getD 0) := by
  have conserved : final.Conserved :=
    run.invariant State.Conserved
      (fun _ _ _ held admitted stepped => held.step_kept redis admitted stepped) synced.conserved
  obtain ⟨quota, guarded, agrees⟩ := conserved.balanced
  refine ⟨quota, guarded, agrees, ?_, ?_⟩
  · intro index job next after selected reserving stepped reached
    have core := conserved.core job (List.mem_of_getElem? selected)
    rcases reserve_step_floor core reserving guarded selected stepped reached with floor | same
    · exact .inl floor
    · exact .inr (some.inj (guarded.symm.trans same))
  · intro settled
    simpa [cacheInFlight, balance, pendingBatch, reservationsOwed, debitsOwed, settled] using agrees

def mixedCalls : List Event :=
  [.call (.tryReserveUserQuota 30), .call (.increaseUserQuota 5 false), .run 0 false,
    .call (.decreaseUserQuota 10 false), .run 0 false, .call .batchUpdate, .run 0 false, .run 3 false]

def mixedFinal : State :=
  (((machine redisBatch).exec (Undisturbed redisBatch) (.opened (sampleRow 100 0)) mixedCalls).getD
    (.opened (sampleRow 0 0)))

theorem cached_quota_conserved_mixed : ∃ quota, mixedFinal.cachedQuota = some quota ∧
      quota + mixedFinal.cacheInFlight = mixedFinal.row.quota + mixedFinal.pendingBatch
        - mixedFinal.reservationsOwed - mixedFinal.debitsOwed ∧
      (∀ index job next after, mixedFinal.jobs[index]? = some job → job.OfReserve →
        step redisBatch mixedFinal (.run index false) = some next → next.cachedQuota = some after →
        0 ≤ after ∨ quota = after) ∧
      (mixedFinal.jobs = [] → quota = mixedFinal.row.quota + mixedFinal.store.getD 0) := by
  have synced : (opened (sampleRow 100 0)).Synced := ⟨rfl, rfl, rfl⟩
  have run : (machine redisBatch).Runs (Undisturbed redisBatch) (.opened (sampleRow 100 0)) mixedCalls
      mixedFinal := Machine.runs_iff_exec.mpr (by decide)
  exact cached_quota_conserved redisBatch rfl synced run

/-- `DecreaseUserQuota` starts its goroutine before it touches the row. When the
goroutine wins, the hash is ahead of the row by a debit no other term records. -/
theorem debit_goroutine_outruns_row :
    let start := State.opened (sampleRow 100 0)
    start.Synced ∧ ∃ final quota,
      (machine redisBatch).Runs (Undisturbed redisBatch) start
        [.call (.decreaseUserQuota 5 false), .run 0 false] final ∧
      final.cachedQuota = some quota ∧
      quota + final.cacheInFlight ≠ final.row.quota + final.pendingBatch - final.reservationsOwed := by
  refine ⟨⟨rfl, rfl, rfl⟩, ?_⟩
  refine ⟨_, 95, Machine.runs_iff_exec.mpr rfl, rfl, ?_⟩
  decide

end FlowAPI.Wallet
