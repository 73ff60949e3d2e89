import FlowAPI.Wallet.Machine

/-! What one event can do to the ledgers of a wallet.

Four numbers describe a state: the cached balance, the cache increments in
flight, the balance that remains once all work is done, and the reservations
accepted so far. `run_effect` says how a job moves them.
-/

set_option autoImplicit false
namespace FlowAPI.Wallet
open Batch Semantics User Pool State Job

def State.accepted (state : State) : Int := state.granted + state.reservationsOwed

def Job.recordedDelta (config : Config) : Job → Option Int
  | .persist amount => if config.batchUpdateEnabled then some (-amount) else none
  | .increase amount db => if !db && config.batchUpdateEnabled then some amount else none
  | .debit amount db => if !db && config.batchUpdateEnabled then some (-amount) else none
  | _ => none

def NoOverflow (config : Config) (state : State) : Event → Prop
  | .run index _ => ∀ job ∈ state.jobs[index]?, ∀ delta ∈ job.recordedDelta config,
      Fits (state.store.getD 0 + delta)
  | _ => True

def NoFault : Event → Prop
  | .run _ fault => fault = false
  | _ => True

instance (config : Config) (state : State) : DecidablePred (NoOverflow config state) := fun _ => by
  unfold NoOverflow
  split <;> infer_instance

instance : DecidablePred NoFault := fun _ => by
  unfold NoFault
  split <;> infer_instance

structure Moves (before after : State) (balance flight accepted : Int) : Prop where
  sameId : after.row.id = before.row.id
  balance : after.balance = before.balance + balance
  flight : after.cacheInFlight = before.cacheInFlight + flight
  accepted : after.accepted = before.accepted + accepted

theorem Moves.sameCached {before after : State} {b f a : Int} (moves : Moves before after b f a)
    (keys : after.keys = before.keys) : after.cachedQuota = before.cachedQuota := by
  rw [cachedQuota, cachedQuota, keys, moves.sameId]

/-- A wallet with no work pending, its hash absent or in step with the row. -/
structure State.AtRest (state : State) : Prop where
  cached : state.keys.hash = none ∨ state.cachedQuota = some state.row.quota
  recorded : state.store.getD 0 = 0
  settled : state.jobs = []

/-- The balance the hash shows after a publication: its own, and that of the snapshot where it has none. A snapshot that is
refused changes nothing. -/
def State.published (state : State) (snapshot : UserBase) : Option Int :=
  let version := snapshot.authVersion
  if snapshot.id ≤ 0 ∨ version ≤ 0 ∨ state.keys.fence.getD 0 > version ∨ state.keys.version.getD 0 > version ∨
      hashNumber state.keys.hash (·.authVersion) > version then state.cachedQuota
  else if snapshot.id = state.row.id then some ((state.keys.hash.bind (·.quota)).getD snapshot.quota)
  else none

theorem State.published_eq (state : State) (snapshot : UserBase) :
    guardedQuota state.row.id (populateUserCache snapshot state.keys).2.hash = state.published snapshot := by
  unfold populateUserCache writeUserCache writeUserCacheScript published
  dsimp only
  by_cases invalid : snapshot.id ≤ 0
  · rw [if_pos invalid, if_pos (.inl invalid)]
    rfl
  by_cases unversioned : snapshot.authVersion ≤ 0
  · rw [if_neg invalid, if_pos unversioned, if_pos (.inr (.inl unversioned))]
    rfl
  rw [if_neg invalid, if_neg unversioned]
  by_cases behind : state.keys.fence.getD 0 > snapshot.authVersion ∨ state.keys.version.getD 0 > snapshot.authVersion ∨
      hashNumber state.keys.hash (·.authVersion) > snapshot.authVersion
  · rw [if_pos behind, if_pos (.inr (.inr behind))]
    rfl
  · rw [if_neg behind, if_neg (by tauto)]
    cases fields : (state.keys.hash.bind fun hash => hash.quota) <;> cases hash : state.keys.hash <;>
      simp_all [guardedQuota, hashNumber, stampHash, UserHash.empty, eq_comm]

section
variable {config : Config} {state next : State} {index : Nat} {job : Job}

theorem State.AtRest.balance_eq (rest : state.AtRest) : state.balance = state.row.quota := by
  simp [balance, pendingBatch, reservationsOwed, debitsOwed, rest.settled, rest.recorded]

variable {jobs : List Job}

theorem moves_of_replace (after : State) {balance flight accepted : Int}
    (selected : state.jobs[index]? = some job) (sameId : after.row.id = state.row.id)
    (balanced : after.row.quota - state.row.quota + (after.store.getD 0 - state.store.getD 0)
        - job.batchTaken + Pool.total batchTaken jobs + job.reservationOwed - Pool.total reservationOwed jobs
        + job.debitOwed - Pool.total debitOwed jobs = balance)
    (inFlight : Pool.total Job.cacheInFlight jobs - job.cacheInFlight = flight)
    (accepts : after.granted - state.granted + Pool.total reservationOwed jobs - job.reservationOwed = accepted) :
    Moves state { after with jobs := replace state.jobs index jobs } balance flight accepted := by
  refine ⟨sameId, ?_, ?_, ?_⟩
  · simp only [State.balance, pendingBatch, reservationsOwed, debitsOwed, Pool.total_replace _ selected]
    omega
  · simp only [State.cacheInFlight, Pool.total_replace _ selected]
    omega
  · simp only [State.accepted, reservationsOwed, Pool.total_replace _ selected]
    omega

inductive Effect (state : State) : Job → State → Prop where
  | accept {job : Job} {amount quota : Int} {next : State} :
      job = .reserve amount ∨ job = .retry amount →
      state.cachedQuota = some quota → amount ≤ quota → next.cachedQuota = some (quota - amount) →
      Moves state next (-amount) 0 amount → Effect state job next
  | apply {job : Job} {delta : Int} {next : State} : job = .cacheDelta delta ∨ job = .compensate delta →
      (state.cachedQuota = none → next.keys = state.keys) →
      (∀ quota, state.cachedQuota = some quota → next.cachedQuota = some (quota + delta)) →
      Moves state next 0 (-delta) 0 → Effect state job next
  | deposit {job : Job} {amount : Int} {next : State} :
      (∃ db, job = .increase amount db) ∨ job = .credit amount → next.keys = state.keys →
      Moves state next amount amount 0 → Effect state job next
  | reserveRow {amount : Int} {next : State} : amount ≤ state.row.quota → next.keys = state.keys →
      Moves state next (-amount) 0 amount → Effect state (.reserveRow amount) next
  | transfer {amount : Int} {next : State} : amount ≤ state.row.affQuota → next.keys = state.keys →
      Moves state next amount 0 0 → Effect state (.transferAffQuota amount) next
  | publish {resume : Resume} {snapshot : UserBase} {next : State} :
      next.keys = (populateUserCache snapshot state.keys).2 → Moves state next 0 0 0 →
      Effect state (.publish resume snapshot) next
  | quiet {job : Job} {next : State} : next.keys = state.keys → Moves state next 0 0 0 →
      Effect state job next

theorem Effect.sameId (effect : Effect state job next) : next.row.id = state.row.id := by
  cases effect <;> exact Moves.sameId ‹_›

theorem step_run {fault : Bool} (stepped : step config state (.run index fault) = some next) :
    ∃ job, state.jobs[index]? = some job ∧ next = { (runJob config fault state job).1 with
        jobs := replace state.jobs index (runJob config fault state job).2 } := by
  obtain ⟨job, selected, same⟩ := Option.map_eq_some_iff.mp stepped
  exact ⟨job, selected, same.symm⟩

attribute [local simp] Job.Idle addRow

theorem idle_moves (keys : UserKeys) (selected : state.jobs[index]? = some job)
    (successors : ∀ pending ∈ jobs, pending.Idle) (idle : job.Idle := by simp) :
    Moves state { state with keys, jobs := Pool.replace state.jobs index jobs } 0 0 0 := by
  have total_zero (weight : Job → Int) (zero : ∀ pending ∈ jobs, weight pending = 0) : total weight jobs = 0 := by
    refine List.sum_eq_zero fun amount member => ?_
    obtain ⟨pending, found, same⟩ := List.mem_map.mp member
    rw [← same]
    exact zero pending found
  obtain ⟨flight, owed, debit, taken⟩ := idle
  have flights := total_zero _ fun pending member => (successors pending member).1
  have owes := total_zero _ fun pending member => (successors pending member).2.1
  have debits := total_zero _ fun pending member => (successors pending member).2.2.1
  have takes := total_zero _ fun pending member => (successors pending member).2.2.2
  refine moves_of_replace { state with keys } selected rfl ?_ ?_ ?_
  all_goals simp only [flight, owed, debit, taken, flights, owes, debits, takes, sub_self, add_zero]

theorem quiet_effect (selected : state.jobs[index]? = some job)
    (successors : ∀ pending ∈ jobs, pending.Idle := by simp) (idle : job.Idle := by simp) :
    Effect state job { state with jobs := replace state.jobs index jobs } :=
  .quiet rfl (idle_moves state.keys selected successors idle)

theorem Resume.hydrated_idle (resume : Resume) : ∀ pending ∈ resume.hydrated, pending.Idle := by
  cases resume <;> simp [hydrated]
theorem Resume.failed_idle (resume : Resume) : ∀ pending ∈ resume.failed, pending.Idle := by
  cases resume <;> simp [failed]

theorem script_effect {amount : Int} {onMiss : List Job}
    (scripted : job = .reserve amount ∨ job = .retry amount) (missed : ∀ pending ∈ onMiss, pending.Idle)
    (selected : state.jobs[index]? = some job) : Effect state job { (tryScript state amount onMiss).1 with
      jobs := replace state.jobs index (tryScript state amount onMiss).2 } := by
  have idle : job.Idle := by rcases scripted with rfl | rfl <;> exact ⟨rfl, rfl, rfl, rfl⟩
  cases guarded : guardedQuota state.row.id state.keys.hash with
  | none =>
    simp only [tryScript, reserveScript_miss guarded]
    exact quiet_effect selected missed idle
  | some quota =>
    by_cases short : quota < amount
    · simp only [tryScript, reserveScript_insufficient guarded short]
      exact quiet_effect selected (by simp) idle
    simp only [tryScript, reserveScript_ok guarded (not_lt.mp short)]
    let after := state.setHash (setQuota state.keys.hash (quota - amount))
    refine .accept scripted guarded (not_lt.mp short) (guardedQuota_setQuota _ guarded)
      (moves_of_replace after selected rfl ?_ ?_ ?_)
    all_goals rcases scripted with rfl | rfl <;> simp [after, setHash]

theorem delta_effect {delta : Int} (incremental : job = .cacheDelta delta ∨ job = .compensate delta)
    (selected : state.jobs[index]? = some job) : Effect state job { cacheApplyUserQuotaDelta state delta with
      jobs := Pool.replace state.jobs index [] } := by
  let after := cacheApplyUserQuotaDelta state delta
  refine .apply incremental ?_ ?_ (moves_of_replace after selected rfl ?_ ?_ ?_)
  · intro absent
    simp only [cachedQuota] at absent
    simp [cacheApplyUserQuotaDelta, userQuotaDeltaScript, absent, setHash]
  · intro quota guarded
    simp only [cachedQuota] at guarded
    simp only [cacheApplyUserQuotaDelta, userQuotaDeltaScript, guarded]
    exact guardedQuota_setQuota _ guarded
  all_goals rcases incremental with rfl | rfl <;> simp [after, cacheApplyUserQuotaDelta, setHash]

/-- One case per kind of job: the single place where the jobs are opened. -/
theorem run_effect (redis : config.redisEnabled = true) (selected : state.jobs[index]? = some job)
    (fits : NoOverflow config state (.run index false))
    (stepped : step config state (.run index false) = some next) : Effect state job next := by
  obtain ⟨other, found, rfl⟩ := step_run stepped
  obtain rfl : other = job := Option.some.inj (found.symm.trans selected)
  -- without an overflow the batch adds up exactly
  have exact_record (delta : Int) (recorded : other.recordedDelta config = some delta) :
      addNewRecord state.store delta = state.store.getD 0 + delta :=
    addNewRecord_exact (fits other selected delta recorded)
  cases other with simp only [runJob]
  | reserve => exact script_effect (.inl rfl) (by simp) selected
  | retry => exact script_effect (.inr rfl) (by simp) selected
  | cacheDelta =>
    simp only [redis, Bool.not_true, Bool.or_false, Bool.false_eq_true, if_false]
    exact delta_effect (.inl rfl) selected
  | compensate => exact delta_effect (.inr rfl) selected
  | lookup =>
    split
    · exact quiet_effect selected
    · split <;> exact quiet_effect selected
  | lookupFloor resume =>
    split
    · exact quiet_effect selected
    · exact quiet_effect selected resume.hydrated_idle
  | readRow =>
    simp only [redis, Bool.false_eq_true, if_false, if_true]
    exact quiet_effect selected
  | checkFloor resume =>
    split
    · exact quiet_effect selected resume.failed_idle
    · exact quiet_effect selected
  | publish resume =>
    simp only [Bool.false_eq_true, if_false]
    split
    · exact quiet_effect selected resume.failed_idle
    next _ keys _ published =>
      exact .publish (congrArg Prod.snd published).symm (idle_moves keys selected resume.hydrated_idle)
  | reserveRow amount =>
    by_cases enough : amount ≤ state.row.quota
    · simp only [enough, Bool.false_eq_true, if_false, if_true]
      refine .reserveRow enough rfl (moves_of_replace ((state.addRow (-amount)).grant amount) selected rfl ?_ ?_ ?_)
      all_goals simp [grant]
    · simp only [enough, Bool.false_eq_true, if_false]
      exact quiet_effect selected
  | persist amount =>
    simp only [Bool.false_eq_true, if_false]
    split
    next batch =>
      have sum := exact_record (-amount) (if_pos batch)
      refine .quiet rfl (moves_of_replace ((state.record (-amount)).grant amount) selected rfl ?_ ?_ ?_)
      all_goals simp [record, grant, sum]
    · refine .quiet rfl (moves_of_replace ((state.addRow (-amount)).grant amount) selected rfl ?_ ?_ ?_)
      all_goals simp [grant]
  | increase amount db =>
    split
    next batch =>
      have sum := exact_record amount (if_pos batch)
      refine .deposit (.inl ⟨db, rfl⟩) rfl (moves_of_replace (state.record amount) selected rfl ?_ ?_ ?_)
      all_goals simp [record, sum]
    · split
      · refine .deposit (.inl ⟨db, rfl⟩) rfl (moves_of_replace (state.addRow amount) selected rfl ?_ ?_ ?_)
        all_goals simp
      · exact quiet_effect selected
  | debit amount =>
    simp only [Bool.false_eq_true, if_false]
    split
    next batch =>
      have sum := exact_record (-amount) (if_pos batch)
      refine .quiet rfl (moves_of_replace (state.record (-amount)) selected rfl ?_ ?_ ?_)
      all_goals simp [record, sum]
    · refine .quiet rfl (moves_of_replace (state.addRow (-amount)) selected rfl ?_ ?_ ?_)
      all_goals simp
  | credit amount =>
    split
    · refine .deposit (.inr rfl) rfl (moves_of_replace (state.addRow amount) selected rfl ?_ ?_ ?_)
      all_goals simp
    · exact quiet_effect selected
  | transferAffQuota amount =>
    split
    next enough =>
      refine .transfer (by simpa using enough) rfl (moves_of_replace
        { state.addRow amount with row := { (state.addRow amount).row with affQuota := state.row.affQuota - amount } }
        selected rfl ?_ ?_ ?_)
      all_goals simp
    · exact quiet_effect selected
  | flush =>
    split
    · exact quiet_effect selected
    next delta stored =>
      refine .quiet rfl (moves_of_replace { state with store := none } selected rfl ?_ ?_ ?_)
      all_goals simp [stored]
  | applyFlush delta =>
    simp only [Bool.false_eq_true, if_false]
    refine .quiet rfl (moves_of_replace (state.addRow delta) selected rfl ?_ ?_ ?_)
    all_goals simp

theorem Operation.start_owes (config : Config) (operation : Operation) :
    Pool.total reservationOwed (operation.start config) = 0 ∧ Pool.total batchTaken (operation.start config) = 0 ∧
    Pool.total Job.cacheInFlight (operation.start config) = -Pool.total Job.debitOwed (operation.start config) := by
  cases operation <;> simp only [start] <;> (try split_ifs) <;> simp

theorem call_moves {operation : Operation} (stepped : step config state (.call operation) = some next) :
    Moves state next (-total debitOwed (operation.start config)) (-total debitOwed (operation.start config)) 0 := by
  cases stepped
  obtain ⟨owes, _, forked⟩ := Operation.start_owes config operation
  refine ⟨rfl, ?_, ?_, ?_⟩
  · simp only [balance, pendingBatch, reservationsOwed, debitsOwed, Pool.total_append]
    omega
  · simp [State.cacheInFlight, Pool.total_append, forked]
  · simp [accepted, reservationsOwed, Pool.total_append, owes]

end

end FlowAPI.Wallet
