import FlowAPI.Wallet.Machine

/-! The ceiling on the stored balance.

`increaseUserQuota` and `creditTopUpQuota` compare the row with `MaxWalletQuota`
in the statement that adds to it. `TransferAffQuotaToQuota` and the flush of the
accumulated deltas add without comparing, so a row at the ceiling crosses it.
-/

set_option autoImplicit false
namespace FlowAPI.Wallet
open Semantics User Resume List Machine

/-- What the two unguarded additions need of the row they meet. -/
def Job.Fitting (row : UserRow) : Job → Prop
  | .transferAffQuota amount => row.quota + amount ≤ maxWalletQuota
  | .applyFlush delta => row.quota + delta ≤ maxWalletQuota
  | _ => True

instance (row : UserRow) : DecidablePred (Job.Fitting row) := by
  rintro ⟨⟩ <;> dsimp only [Job.Fitting] <;> infer_instance

def Fitting (state : State) : Event → Prop
  | .run index _ => ∀ job ∈ state.jobs[index]?, job.Fitting state.row
  | _ => True

instance : DecidableRel Fitting := by
  rintro _ ⟨⟩ <;> dsimp only [Fitting] <;> infer_instance

def Resume.Nonneg : Resume → Prop
  | .finish => True
  | .reserve amount => 0 ≤ amount

def Job.Takes : Job → Prop
  | .reserve amount | .retry amount | .reserveRow amount | .persist amount | .debit amount _ => 0 ≤ amount
  | .lookup resume | .lookupFloor resume _ | .readRow resume | .checkFloor resume _ | .publish resume _ =>
    resume.Nonneg
  | _ => True

structure State.Limited (state : State) : Prop where
  row : state.row.quota ≤ maxWalletQuota
  takes : ∀ job ∈ state.jobs, job.Takes

section
variable {config : Config} {state next : State} {job : Job} {fault : Bool}

attribute [local simp] Job.Takes

theorem Resume.hydrated_takes {resume : Resume} (nonneg : resume.Nonneg) : ∀ job ∈ resume.hydrated, job.Takes := by
  cases resume <;> simp_all [hydrated, Nonneg]
theorem Resume.failed_takes {resume : Resume} (nonneg : resume.Nonneg) : ∀ job ∈ resume.failed, job.Takes := by
  cases resume <;> simp_all [failed, Nonneg]

theorem tryScript_takes {amount : Int} {onMiss : List Job} (nonneg : 0 ≤ amount)
    (missed : ∀ job ∈ onMiss, job.Takes) : ∀ job ∈ (tryScript state amount onMiss).2, job.Takes := by
  unfold tryScript
  split
  · exact missed
  · simp
  · simpa using nonneg

theorem runJob_takes (takes : job.Takes) : ∀ pending ∈ (runJob config fault state job).2, pending.Takes := by
  cases job with simp only [runJob]
  | reserve =>
    split
    · simpa using takes
    · exact tryScript_takes takes (by simpa [Nonneg] using takes)
  | retry =>
    split
    · simpa using takes
    · exact tryScript_takes takes (by simpa using takes)
  | lookup =>
    split
    · simpa using takes
    · split <;> simpa using takes
  | lookupFloor =>
    split
    · simpa using takes
    · exact hydrated_takes takes
  | readRow =>
    split
    · exact failed_takes takes
    split
    · simpa using takes
    · exact hydrated_takes takes
  | checkFloor =>
    split
    · exact failed_takes takes
    · simpa using takes
  | publish =>
    split
    · exact hydrated_takes takes
    split
    · exact failed_takes takes
    · exact hydrated_takes takes
  | _ =>
    repeat' split
    all_goals simp

theorem Operation.start_takes (config : Config) (operation : Operation) :
    ∀ job ∈ operation.start config, job.Takes := by
  intro job member
  cases operation with simp only [start] at member
  | tryReserveUserQuota quota =>
    split at member
    · cases member
    next _ =>
      have taken : 0 ≤ quota := by omega
      split at member <;> cases mem_singleton.mp member <;> exact taken
  | decreaseUserQuota =>
    split at member
    · cases member
    next nonneg =>
      rcases mem_pair.mp member with rfl | rfl
      · trivial
      · exact Int.not_lt.mp nonneg
  | _ =>
    (try split at member)
    all_goals first
      | cases member; done
      | cases mem_singleton.mp member
        trivial

theorem addRow_limited {amount : Int} (limited : state.row.quota ≤ maxWalletQuota) (takes : 0 ≤ amount) :
    (state.addRow (-amount)).row.quota ≤ maxWalletQuota := by
  simp only [State.addRow]
  omega

theorem runJob_limited (limited : state.row.quota ≤ maxWalletQuota) (takes : job.Takes)
    (fitting : job.Fitting state.row) : (runJob config fault state job).1.row.quota ≤ maxWalletQuota := by
  cases job with simp only [runJob]
  | reserve | retry =>
    simp only [tryScript]
    repeat' split
    all_goals exact limited
  | reserveRow | persist | debit =>
    repeat' split
    all_goals first
      | exact limited
      | exact addRow_limited limited takes
  | increase =>
    split
    · exact limited
    split
    next compared =>
      simp only [Bool.and_eq_true, decide_eq_true_eq] at compared
      simp only [State.addRow]
      omega
    · exact limited
  | credit =>
    split
    next compared =>
      simp only [Bool.and_eq_true, decide_eq_true_eq] at compared
      simp only [State.addRow]
      omega
    · exact limited
  | transferAffQuota =>
    split
    · exact fitting
    · exact limited
  | applyFlush =>
    split
    · exact limited
    · exact fitting
  | _ =>
    repeat' split
    all_goals exact limited

theorem State.Limited.step_kept (limited : state.Limited) {event : Event} (fitting : Fitting state event)
    (stepped : step config state event = some next) : next.Limited := by
  cases event with
  | call operation =>
    cases stepped
    exact ⟨limited.row, forall_mem_append.mpr ⟨limited.takes, Operation.start_takes config operation⟩⟩
  | run =>
    obtain ⟨job, selected, rfl⟩ := Option.map_eq_some_iff.mp stepped
    have takes := limited.takes job (mem_of_getElem? selected)
    exact ⟨runJob_limited limited.row takes (fitting job selected),
      Pool.forall_replace limited.takes (runJob_takes takes)⟩
  | expire =>
    cases stepped
    exact ⟨limited.row, limited.takes⟩

/-- The ceiling holds in every state reached, with faults anywhere, as long as
the transfers and flushes meet rows that can take their amounts. -/
theorem stored_quota_within_limit (config : Config) {start final : State} {events : List Event}
    (within : start.row.quota ≤ maxWalletQuota) (fresh : start.jobs = [])
    (run : (machine config).Runs Fitting start events final) : final.row.quota ≤ maxWalletQuota := by
  have initially : start.Limited := ⟨within, by simp [fresh]⟩
  exact (run.invariant State.Limited (fun _ _ _ held fitting stepped => held.step_kept fitting stepped) initially).row

end

def topUpToLimit : List Event :=
  [.call (.creditTopUpQuota 600000), .run 0 false, .run 0 false, .call (.creditTopUpQuota 1), .run 0 false,
    .call (.decreaseUserQuota 500000 true), .run 0 false, .run 0 false,
    .call (.transferAffQuotaToQuota 500000), .run 0 false]

def directMode : Config := { redisEnabled := true, batchUpdateEnabled := false, quotaPerUnit := 500000 }
def limitStart (room : Int) : State := .opened (sampleRow (maxWalletQuota - room) 500000)
def limitFinal : State :=
  ((machine directMode).exec Fitting (limitStart 600000) topUpToLimit).getD (limitStart 600000)

theorem stored_quota_within_limit_topped_up :
    limitFinal.row.quota = maxWalletQuota ∧ limitFinal.row.quota ≤ maxWalletQuota := by
  have run : (machine directMode).Runs Fitting (limitStart 600000) topUpToLimit limitFinal :=
    runs_iff_exec.mpr (by decide)
  exact ⟨by decide, stored_quota_within_limit directMode (by decide) rfl run⟩

/-- A wallet at the ceiling takes an affiliate transfer, and in batch mode the
flush of a recorded increase: both rows end above it. -/
theorem transfer_and_flush_cross_limit : (limitStart 0).row.quota ≤ maxWalletQuota ∧
      (((machine directMode).exec unrestricted (limitStart 0)
        [.call (.transferAffQuotaToQuota 500000), .run 0 false]).map (·.row.quota)) =
        some (maxWalletQuota + 500000) ∧
      (((machine redisBatch).exec unrestricted (limitStart 0)
        [.call (.increaseUserQuota 1 false), .run 0 false, .run 0 false, .call .batchUpdate, .run 0 false,
          .run 0 false]).map (·.row.quota)) = some (maxWalletQuota + 1) := by
  decide

end FlowAPI.Wallet
