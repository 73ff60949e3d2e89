import FlowAPI.Payment.Completion

/-! One top-up order under every call of `model/topup.go` that may settle it.

The completions, the expiry and the failure are transactions on the locked row,
so a call is one step. The balances may change in any other way between two
calls. The in-process order lock of the controllers is left out: other instances
do not take it, and the row lock is what the calls rely on.
-/

set_option autoImplicit false
namespace FlowAPI.Payment.Settlement
open Semantics List Machine Ledger

inductive Call where
  | epay (tradeNo actualPaymentMethod : String)
  | stripe (referenceId customerId : String)
  | creem (referenceId customerEmail : String)
  | waffo (tradeNo : String)
  | waffoPancake (tradeNo : String)
  | manual (tradeNo : String)
  | expire (tradeNo : String) (expected : PaymentProvider)
  | fail (tradeNo : String) (expected : PaymentProvider)

variable (quotaPerUnit : ℚ)

def Call.run (now : Int) (db : Db) : Call → Completion
  | .epay tradeNo actualPaymentMethod => rechargeEpay quotaPerUnit now tradeNo actualPaymentMethod db
  | .stripe referenceId customerId => recharge quotaPerUnit now referenceId customerId db
  | .creem referenceId customerEmail => rechargeCreem now referenceId customerEmail db
  | .waffo tradeNo => rechargeWaffo quotaPerUnit now tradeNo db
  | .waffoPancake tradeNo => rechargeWaffoPancake quotaPerUnit now tradeNo db
  | .manual tradeNo => manualCompleteTopUp quotaPerUnit now tradeNo db
  | .expire tradeNo expected => updatePendingTopUpStatus tradeNo expected .expired db
  | .fail tradeNo expected => updatePendingTopUpStatus tradeNo expected .failed db

structure State where
  topUp : TopUp
  ledger : Ledger
  deriving DecidableEq

def State.db (state : State) : Db := ⟨state.topUp, state.ledger.accounts⟩

inductive Event where
  | call (call : Call) (now : Int)
  | adjust (userId amount : Int)

def step (state : State) : Event → Option State
  | .call call now =>
    match call.run quotaPerUnit now state.db with
    | .error _ => some state
    | .ok (none, db) => some { state with topUp := db.topUp }
    | .ok (some quota, db) =>
      some { state with
        topUp := db.topUp, ledger := state.ledger.record db.accounts (.credited db.topUp.userId quota) }
  | .adjust userId amount =>
    some { state with
      ledger := state.ledger.record (adjust state.ledger.accounts userId amount) (.adjusted userId amount) }

def machine : Machine State Event := ⟨step quotaPerUnit⟩
def State.opened (topUp : TopUp) (accounts : Accounts) : State := { topUp, ledger := .opened accounts }

inductive Change (state next : State) : Prop where
  | kept : next.topUp = state.topUp → next.ledger = state.ledger → Change state next
  | adjusted (userId amount : Int) : next.topUp = state.topUp →
      next.ledger = state.ledger.record (adjust state.ledger.accounts userId amount) (.adjusted userId amount) →
      Change state next
  | closed : state.topUp.status = .pending →
      next.topUp.status = .failed ∨ next.topUp.status = .expired →
      next.topUp.userId = state.topUp.userId → next.ledger = state.ledger → Change state next
  | credited (accounts : Accounts) (quota : Int) : state.topUp.status = .pending →
      next.topUp.status = .success → next.topUp.userId = state.topUp.userId →
      Credited state.ledger.accounts accounts state.topUp.userId quota →
      next.ledger = state.ledger.record accounts (.credited state.topUp.userId quota) → Change state next

section
variable {quotaPerUnit : ℚ} {state next : State} {event : Event}

theorem Call.run_ok {call : Call} {now : Int} {db after : Db} {credited : Option Int}
    (done : call.run quotaPerUnit now db = .ok (credited, after)) :
    Completes db credited after ∨ (db.topUp.status = .pending ∧ credited = none ∧ after.topUp.userId = db.topUp.userId ∧
        (after.topUp.status = .failed ∨ after.topUp.status = .expired)) := by
  cases call with try obtain ⟨pending, none, rfl⟩ := updatePendingTopUpStatus_ok done
  | epay => exact .inl (rechargeEpay_completes done)
  | stripe => exact .inl (recharge_completes done)
  | creem => exact .inl (rechargeCreem_completes done)
  | waffo | waffoPancake => exact .inl (rechargeByAmount_completes done)
  | manual => exact .inl (manualCompleteTopUp_completes done)
  | expire => exact .inr ⟨pending, none, rfl, .inr rfl⟩
  | fail => exact .inr ⟨pending, none, rfl, .inl rfl⟩

theorem call_change {call : Call} {now : Int} (stepped : step quotaPerUnit state (.call call now) = some next) :
    Change state next := by
  simp only [step] at stepped
  split at stepped <;> cases stepped
  · exact .kept rfl rfl
  next db done =>
    rcases Call.run_ok done with completes | ⟨pending, -, owner, closed⟩
    · cases completes
      exact .kept rfl rfl
    · exact .closed pending closed owner rfl
  next quota db done =>
    rcases Call.run_ok done with completes | ⟨-, none, -⟩
    · cases completes with
      | credited pending success owner credited =>
        exact .credited db.accounts quota pending success owner credited (by rw [owner]; rfl)
    · cases none

theorem step_change (stepped : step quotaPerUnit state event = some next) : Change state next := by
  cases event with
  | call => exact call_change stepped
  | adjust userId amount =>
    cases stepped
    exact .adjusted userId amount rfl rfl

theorem Change.owner (change : Change state next) : next.topUp.userId = state.topUp.userId := by
  cases change with
  | kept same => rw [same]
  | adjusted _ _ same => rw [same]
  | closed _ _ owner => exact owner
  | credited _ _ _ _ owner => exact owner

theorem Change.settled_kept (change : Change state next) (settled : state.topUp.status ≠ .pending) :
    next.topUp.status = state.topUp.status ∧ next.ledger.credits = state.ledger.credits := by
  cases change with
  | kept sameOrder sameLedger => exact ⟨by rw [sameOrder], by rw [sameLedger]⟩
  | adjusted _ _ sameOrder recorded => exact ⟨by rw [sameOrder], by simp [recorded, Entry.isCredit]⟩
  | closed pending | credited _ _ pending => exact absurd pending settled

structure Reached (topUp : TopUp) (accounts : Accounts) (state : State) : Prop where
  owner : state.topUp.userId = topUp.userId
  credits : state.ledger.credits = if topUp.status ≠ .success ∧ state.topUp.status = .success then 1 else 0
  kept : topUp.status ≠ .pending → state.topUp.status = topUp.status
  payee : ∀ entry ∈ state.ledger.log, entry.isCredit = true → ∃ quota, entry = .credited topUp.userId quota
  balanced : state.ledger.Balanced accounts

theorem Reached.opened (topUp : TopUp) (accounts : Accounts) : Reached topUp accounts (.opened topUp accounts) where
  owner := rfl
  credits := by simp [State.opened, Ledger.credits, Ledger.opened]
  kept := fun _ => rfl
  payee := by simp [State.opened, Ledger.opened]
  balanced := Ledger.opened_balanced accounts

theorem Reached.of_pending {topUp : TopUp} {accounts : Accounts} (reached : Reached topUp accounts state)
    (pending : state.topUp.status = .pending) : topUp.status = .pending ∧ state.ledger.credits = 0 := by
  constructor
  · by_contra settled
    exact settled (reached.kept settled ▸ pending)
  · rw [reached.credits, pending]
    simp

theorem Reached.step_kept {topUp : TopUp} {accounts : Accounts} (reached : Reached topUp accounts state)
    (stepped : step quotaPerUnit state event = some next) : Reached topUp accounts next := by
  have change := step_change stepped
  have owner := change.owner.trans reached.owner
  cases change with
  | kept sameOrder sameLedger =>
    exact ⟨owner, by rw [sameOrder, sameLedger]; exact reached.credits, by rw [sameOrder]; exact reached.kept,
      by rw [sameLedger]; exact reached.payee, by rw [sameLedger]; exact reached.balanced⟩
  | adjusted _ _ sameOrder recorded =>
    refine ⟨owner, ?_, by rw [sameOrder]; exact reached.kept, ?_, ?_⟩
    · simp [sameOrder, recorded, reached.credits, Entry.isCredit]
    · rw [recorded]
      intro entry listed credit
      rcases mem_append.mp listed with earlier | added
      · exact reached.payee entry earlier credit
      · rw [mem_singleton.mp added] at credit
        cases credit
    · rw [recorded]
      exact reached.balanced.record (balance_adjust _ _ _) (.inr rfl)
  | closed pending closed _ sameLedger =>
    obtain ⟨opened, none⟩ := reached.of_pending pending
    refine ⟨owner, ?_, fun settled => absurd opened settled, by rw [sameLedger]; exact reached.payee,
      by rw [sameLedger]; exact reached.balanced⟩
    rw [sameLedger, none]
    rcases closed with failed | expired
    · simp [failed]
    · simp [expired]
  | credited _ quota pending success _ credited recorded =>
    obtain ⟨opened, none⟩ := reached.of_pending pending
    refine ⟨owner, ?_, fun settled => absurd opened settled, ?_, ?_⟩
    · simp [recorded, none, success, opened, Entry.isCredit]
    · rw [recorded]
      intro entry listed credit
      rcases mem_append.mp listed with earlier | added
      · exact reached.payee entry earlier credit
      · exact ⟨quota, by rw [mem_singleton.mp added, reached.owner]⟩
    · rw [recorded]
      exact reached.balanced.record credited.balances (.inl rfl)

/-- However the calls interleave and repeat: the order's user is credited at
most once, exactly when the order becomes a success; a settled order keeps its
status and is not credited again; a call that returns an error changes nothing;
and the balances hold exactly what was credited and adjusted. -/
theorem order_settles_once {topUp : TopUp} {accounts : Accounts} {middle final : State} {before after : List Event}
    (reached : (machine quotaPerUnit).Runs unrestricted (.opened topUp accounts) before middle)
    (continued : (machine quotaPerUnit).Runs unrestricted middle after final) :
    final.ledger.credits ≤ 1 ∧ (final.ledger.credits = 1 ↔ topUp.status ≠ .success ∧ final.topUp.status = .success) ∧
      (∀ entry ∈ final.ledger.log, entry.isCredit = true → ∃ quota, entry = .credited topUp.userId quota) ∧
      (middle.topUp.status ≠ .pending →
        final.topUp.status = middle.topUp.status ∧ final.ledger.credits = middle.ledger.credits) ∧
      (∀ call now error, call.run quotaPerUnit now final.db = .error error →
        step quotaPerUnit final (.call call now) = some final) ∧
      final.ledger.Balanced accounts := by
  have kept : ∀ state event next, Reached topUp accounts state → unrestricted state event →
      (machine quotaPerUnit).step state event = some next → Reached topUp accounts next :=
    fun _ _ _ held _ stepped => held.step_kept stepped
  have atMiddle := reached.invariant _ kept (.opened topUp accounts)
  have atFinal := continued.invariant _ kept atMiddle
  refine ⟨?_, ?_, atFinal.payee, ?_, ?_, atFinal.balanced⟩
  · rw [atFinal.credits]
    split <;> omega
  · rw [atFinal.credits]
    split <;> simp_all
  · intro settled
    -- the second half of the run carries what the order was settled as
    refine continued.invariant (fun state => state.topUp.status = middle.topUp.status ∧
      state.ledger.credits = middle.ledger.credits) ?_ ⟨rfl, rfl⟩
    intro state event next held _ stepped
    have same := (step_change stepped).settled_kept (by rw [held.1]; exact settled)
    exact ⟨same.1.trans held.1, same.2.trans held.2⟩
  · intro call now error failed
    simp [step, failed]

end

def sampleOrder : TopUp := requestStripePay sampleDraft 10 1

def completedTwice : List Event :=
  [.call (.stripe "order" "customer") 20, .call (.stripe "order" "customer") 21, .call (.manual "order") 22,
    .call (.expire "order" .stripe) 23]

def completedFinal : State :=
  ((machine 500000).exec unrestricted (.opened sampleOrder sampleUsers) completedTwice).getD
    (.opened sampleOrder sampleUsers)

theorem order_settles_once_completed :
    completedFinal.ledger.log = [.credited 7 5000000] ∧ completedFinal.ledger.credits ≤ 1 := by
  have run : (machine 500000).Runs unrestricted (.opened sampleOrder sampleUsers) completedTwice completedFinal :=
    runs_iff_exec.mpr (by decide +kernel)
  exact ⟨by decide +kernel, (order_settles_once run (.nil completedFinal)).1⟩

end FlowAPI.Payment.Settlement
