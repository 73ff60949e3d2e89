import FlowAPI.Billing.Session
import Mathlib.Algebra.Order.Group.Int

/-! One session from its reservation to its end.

An open session holds one amount: the pre-consumed quota, the token amount and
the wallet amount agree, and the ledger shows that amount on every account the
session charges. Reserving changes the amount, settling replaces it by the
actual quota, refunding by nothing.
-/

set_option autoImplicit false
namespace FlowAPI.Billing
open BillingSession Ledger Funding

def charge (unlimited isPlayground : Bool) (amount : Int) : Ledger :=
  ⟨if unlimited then 0 else amount, if isPlayground then 0 else amount⟩

def Funding.Holds (unlimited : Bool) (amount : Int) : Funding → Prop
  | .unlimited => unlimited = true
  | .wallet consumed => unlimited = false ∧ consumed = amount

structure Open (unlimited isPlayground : Bool) (session : BillingSession) (ledger : Ledger) : Prop where
  playground : session.relayInfo.isPlayground = isPlayground
  unsettled : session.settled = false
  uncommitted : session.fundingSettled = false
  unrefunded : session.refunded = false
  nonneg : 0 ≤ session.preConsumedQuota
  token : session.tokenConsumed = session.preConsumedQuota
  funding : session.funding.Holds unlimited session.preConsumedQuota
  ledger : ledger = charge unlimited isPlayground session.preConsumedQuota

def UpdatesApplied : SettleFates := ⟨.applied, .applied⟩

section
variable {settings : Settings} {relayInfo : RelayInfo} {session opened : BillingSession}
  {ledger after : Ledger} {unlimited isPlayground : Bool} {quota : Int} {fates : OpenFates}

@[simp] theorem takeWallet_zero : ledger.takeWallet 0 = ledger := by
  simp [takeWallet]
@[simp] theorem takeToken_zero : ledger.takeToken 0 = ledger := by
  simp [takeToken]
@[simp] theorem takeWallet_back (amount : Int) : (ledger.takeWallet amount).takeWallet (-amount) = ledger := by
  simp [takeWallet]
@[simp] theorem charge_zero (unlimited isPlayground : Bool) : charge unlimited isPlayground 0 = .untouched := by
  cases unlimited <;> cases isPlayground <;> rfl

theorem charge_raise (unlimited isPlayground : Bool) (amount delta : Int) :
    ((charge unlimited isPlayground amount).takeWallet (if unlimited then 0 else delta)).takeToken
      (if isPlayground then 0 else delta) = charge unlimited isPlayground (amount + delta) := by
  cases unlimited <;> cases isPlayground <;> simp [charge, takeWallet, takeToken]

variable {fate : ReserveFate} {funding : Funding} {amount delta : Int}

theorem Funding.Holds.sources (holds : funding.Holds unlimited amount) :
    funding = .unlimited ∧ unlimited = true ∨ funding = .wallet amount ∧ unlimited = false := by
  cases funding with
  | unlimited => exact .inl ⟨rfl, holds⟩
  | wallet => exact .inr ⟨congrArg _ holds.2, holds.1⟩

theorem preConsumeTokenQuota_ok {remain : Int} (nonneg : 0 ≤ quota)
    (taken : preConsumeTokenQuota settings relayInfo quota fate remain ledger = .ok after) :
    after = ledger.takeToken (if relayInfo.isPlayground then 0 else quota) := by
  unfold preConsumeTokenQuota at taken
  rw [if_neg (not_lt.mpr nonneg)] at taken
  split at taken
  next playground =>
    cases taken
    simp [takeToken, playground]
  next charged =>
    cases fate with
    | reserved =>
      cases taken
      simp [charged]
    | insufficient | failed => cases taken

theorem Funding.preConsume_ok {funded : Funding} (fresh : funding.Holds unlimited 0) (nonneg : 0 ≤ quota)
    (taken : funding.preConsume quota fate ledger = .ok (funded, after)) :
    funded.Holds unlimited quota ∧ after = ledger.takeWallet (if unlimited then 0 else quota) := by
  rcases fresh.sources with ⟨rfl, rfl⟩ | ⟨rfl, rfl⟩
  · cases taken
    exact ⟨rfl, by simp [takeWallet]⟩
  simp only [preConsume] at taken
  split at taken
  next _ =>
    obtain rfl : quota = 0 := by omega
    cases taken
    exact ⟨⟨rfl, rfl⟩, by simp [takeWallet]⟩
  · cases fate with
    | reserved =>
      cases taken
      exact ⟨⟨rfl, rfl⟩, rfl⟩
    | insufficient | failed => cases taken

theorem preConsume_open (fresh : funding.Holds unlimited 0) (nonneg : 0 ≤ quota)
    (succeeded : (new relayInfo funding).preConsume settings quota fates .untouched =
      (.ok opened, after)) : Open unlimited relayInfo.isPlayground opened after := by
  simp only [BillingSession.preConsume] at succeeded
  generalize (new relayInfo funding).shouldTrust settings = trusted at succeeded
  -- the trusted path is the other one at amount zero
  have effective : 0 ≤ (if trusted = true then 0 else quota) := by split <;> omega
  generalize (if trusted = true then 0 else quota) = amount at succeeded effective
  split at succeeded
  next => cases succeeded
  next held taken token =>
    have holds : held = { new relayInfo funding with trusted, tokenConsumed := amount } ∧
        taken = untouched.takeToken (if relayInfo.isPlayground then 0 else amount) := by
      split at token
      next _ =>
        cases reserved : preConsumeTokenQuota settings (new relayInfo funding).relayInfo amount
            fates.token fates.tokenRemain .untouched with
        | error message =>
          rw [reserved] at token
          cases token
        | ok charged =>
          rw [reserved] at token
          cases token
          exact ⟨rfl, preConsumeTokenQuota_ok effective reserved⟩
      next _ =>
        obtain rfl : amount = 0 := by omega
        cases token
        exact ⟨rfl, by simp [takeToken, untouched]⟩
    obtain ⟨rfl, rfl⟩ := holds
    split at succeeded
    next => cases succeeded
    next _ _ reserved =>
      obtain ⟨holds, rfl⟩ := preConsume_ok fresh effective reserved
      cases succeeded
      exact ⟨rfl, rfl, rfl, rfl, effective, rfl, holds, by
        simp [charge, syncRelayInfo, takeWallet, takeToken, untouched]⟩

theorem preConsumeBilling_open
    (succeeded : preConsumeBilling settings quota relayInfo fates .untouched = (.ok opened, after)) :
    Open relayInfo.userUnlimitedQuota relayInfo.isPlayground opened after := by
  simp only [preConsumeBilling] at succeeded
  split at succeeded
  · cases succeeded
  split at succeeded
  · cases succeeded
  next nonneg =>
    simp only [newBillingSession] at succeeded
    split at succeeded
    next unlimited =>
      have fresh : Funding.Holds true 0 .unlimited := rfl
      rw [unlimited]
      exact preConsume_open fresh (not_lt.mp nonneg) succeeded
    next limited =>
      have fresh : Funding.Holds false 0 (.wallet 0) := ⟨rfl, rfl⟩
      rw [Bool.not_eq_true] at limited
      rw [limited]
      split at succeeded
      · cases succeeded
      split_ifs at succeeded
      · cases succeeded
      · cases succeeded
      · have opens := preConsume_open fresh (not_lt.mp nonneg) succeeded
        exact opens

def Funding.raise (delta : Int) : Funding → Funding
  | .unlimited => .unlimited
  | .wallet consumed => .wallet (consumed + delta)

theorem Funding.Holds.raise (holds : funding.Holds unlimited amount)
    (delta : Int) : (funding.raise delta).Holds unlimited (amount + delta) := by
  cases funding with
  | unlimited => exact holds
  | wallet => exact ⟨holds.1, congrArg (· + delta) holds.2⟩

theorem reserveFunding_ok {fate : UpdateFate} {raised : BillingSession} (holds : session.funding.Holds unlimited amount)
    (taken : session.reserveFunding delta fate ledger = .ok (raised, after)) :
    raised = { session with funding := session.funding.raise delta } ∧
      after = ledger.takeWallet (if unlimited then 0 else delta) := by
  unfold reserveFunding at taken
  rcases holds.sources with ⟨source, rfl⟩ | ⟨source, rfl⟩
  · rw [source] at taken ⊢
    cases taken
    exact ⟨by rw [raise, ← source], by simp [takeWallet]⟩
  rw [source] at taken ⊢
  cases fate with
  | applied =>
    cases taken
    exact ⟨rfl, rfl⟩
  | failed => cases taken

theorem rollbackFundingReserve_raised (holds : session.funding.Holds unlimited amount) :
    { session with funding := session.funding.raise delta }.rollbackFundingReserve delta .applied
      (ledger.takeWallet (if unlimited then 0 else delta)) = (session, ledger) := by
  rcases holds.sources with ⟨source, rfl⟩ | ⟨source, rfl⟩
  · simp only [rollbackFundingReserve, source, raise, if_true, takeWallet_zero]
    rw [← source]
  · simp [rollbackFundingReserve, source, raise]
    rw [← source]

theorem reserveToken_ok {remain : Int} (positive : 0 < delta)
    (taken : session.reserveToken settings delta fate remain ledger = .ok after) :
    after = ledger.takeToken (if session.relayInfo.isPlayground then 0 else delta) := by
  unfold reserveToken at taken
  split at taken
  next skipped =>
    cases taken
    have playground : session.relayInfo.isPlayground = true := by
      rcases skipped with _ | playground
      · omega
      · exact playground
    simp [takeToken, playground]
  · cases reserved : preConsumeTokenQuota settings session.relayInfo delta fate remain ledger with
    | error =>
      rw [reserved] at taken
      cases taken
    | ok =>
      rw [reserved] at taken
      cases taken
      exact preConsumeTokenQuota_ok (le_of_lt positive) reserved

theorem Open.reserve (opened : Open unlimited isPlayground session ledger) (target : Int)
    {fates : ReserveFates} (rollback : fates.rollback = .applied) :
    Open unlimited isPlayground (session.reserve settings target fates ledger).2.1
      (session.reserve settings target fates ledger).2.2 := by
  unfold BillingSession.reserve
  split
  next => exact opened
  next proceed =>
    have positive : 0 < target - session.preConsumedQuota := by omega
    dsimp only
    generalize target - session.preConsumedQuota = delta at positive
    split
    next => exact opened
    next _ _ reserved =>
      obtain ⟨rfl, rfl⟩ := reserveFunding_ok opened.funding reserved
      split
      next =>
        rw [rollback, rollbackFundingReserve_raised opened.funding]
        exact opened
      next _ taken =>
        obtain rfl := reserveToken_ok positive taken
        have nonneg := opened.nonneg
        have playground := opened.playground
        refine ⟨opened.playground, opened.unsettled, opened.uncommitted, opened.unrefunded, ?_, ?_,
          opened.funding.raise delta, ?_⟩
        · simp only [syncRelayInfo]
          omega
        · simp [syncRelayInfo, opened.token]
        · simp only [syncRelayInfo, opened.ledger, playground]
          exact charge_raise unlimited isPlayground session.preConsumedQuota delta

theorem Funding.settle_applied (holds : funding.Holds unlimited amount) (changed : delta ≠ 0) :
    funding.settle delta .applied ledger = .ok (ledger.takeWallet (if unlimited then 0 else delta)) := by
  rcases holds.sources with ⟨rfl, rfl⟩ | ⟨rfl, rfl⟩ <;> simp [settle, changed]

theorem settle_applied (unsettled : session.settled = false)
    (uncommitted : session.fundingSettled = false) (holds : session.funding.Holds unlimited amount)
    (playground : session.relayInfo.isPlayground = isPlayground) (ledger : Ledger) (actual : Int) :
    (session.settle actual UpdatesApplied ledger).2 =
      ({ session with fundingSettled := decide (actual ≠ session.preConsumedQuota), settled := true },
        (ledger.takeWallet (if unlimited then 0 else actual - session.preConsumedQuota)).takeToken
          (if isPlayground then 0 else actual - session.preConsumedQuota)) := by
  unfold BillingSession.settle
  simp only [unsettled, uncommitted, Bool.false_eq_true, if_false]
  by_cases same : actual - session.preConsumedQuota = 0
  · have equal : actual = session.preConsumedQuota := by omega
    simp [equal]
  · have different : actual ≠ session.preConsumedQuota := by omega
    simp only [same, if_false, UpdatesApplied, Funding.settle_applied holds same, playground]
    cases isPlayground <;> simp [different]

theorem Funding.refund_applied (holds : funding.Holds unlimited amount) (positive : 0 < amount) :
    funding.refund .applied ledger = ledger.takeWallet (if unlimited then 0 else -amount) := by
  rcases holds.sources with ⟨rfl, rfl⟩ | ⟨rfl, rfl⟩ <;> simp [refund, not_le.mpr positive]

variable (opens : Open unlimited isPlayground session ledger)
include opens

theorem Open.settle (actual : Int) : (session.settle actual UpdatesApplied ledger).2 =
      ({ session with fundingSettled := decide (actual ≠ session.preConsumedQuota), settled := true },
        charge unlimited isPlayground actual) := by
  have total : session.preConsumedQuota + (actual - session.preConsumedQuota) = actual := by omega
  rw [settle_applied opens.unsettled opens.uncommitted opens.funding opens.playground, opens.ledger,
    charge_raise, total]

theorem Open.refund_empty (empty : session.preConsumedQuota = 0) : session.refund = (session, []) := by
  have nothing : session.needsRefund = false := by simp [needsRefund, opens.token, empty]
  simp [BillingSession.refund, nothing]

theorem Open.refund_held (held : 0 < session.preConsumedQuota) : session.refund =
      ({ session with refunded := true }, [.returnFunding session.preConsumedQuota isPlayground]) := by
  have needed : session.needsRefund = true := by
    simp [needsRefund, opens.unsettled, opens.unrefunded, opens.uncommitted, opens.token, held]
  simp [BillingSession.refund, needed, opens.unsettled, opens.unrefunded, opens.token, opens.playground]

theorem Open.refundCompletely : (session.refundCompletely .applied ledger).2 = .untouched := by
  rcases eq_or_lt_of_le opens.nonneg with empty | held
  · simp [BillingSession.refundCompletely, opens.refund_empty empty.symm, opens.ledger, ← empty]
  simp only [BillingSession.refundCompletely, opens.refund_held held, List.foldl_cons, List.foldl_nil,
    runRefundJob, refund_applied opens.funding held, held, true_and, and_true]
  rw [opens.ledger]
  have cleared := charge_raise unlimited isPlayground session.preConsumedQuota (-session.preConsumedQuota)
  rw [add_neg_cancel, charge_zero] at cleared
  rw [← cleared]
  cases isPlayground <;> simp

end

def reserveAll (settings : Settings) (session : BillingSession) (ledger : Ledger)
    (reserves : List (Int × ReserveFates)) : BillingSession × Ledger :=
  reserves.foldl (fun held reserve => (held.1.reserve settings reserve.1 reserve.2 held.2).2) (session, ledger)

theorem Open.reserveAll (settings : Settings) {session : BillingSession} {ledger : Ledger}
    {unlimited isPlayground : Bool} (opened : Open unlimited isPlayground session ledger)
    {reserves : List (Int × ReserveFates)} (rollbacks : ∀ reserve ∈ reserves, reserve.2.rollback = .applied) :
    Open unlimited isPlayground (reserveAll settings session ledger reserves).1
      (reserveAll settings session ledger reserves).2 := by
  induction reserves generalizing session ledger with
  | nil => exact opened
  | cons reserve _ ih =>
    exact ih (opened.reserve reserve.1 (rollbacks reserve (by simp)))
      fun later member => rollbacks later (List.mem_cons_of_mem _ member)

/-- A session charges exactly the settled amount, or nothing after a refund,
whatever was reserved in between and however those reservations ended. -/
theorem session_charges_exactly (settings : Settings) (relayInfo : RelayInfo) (quota : Int)
    (fates : OpenFates) (session : BillingSession) (ledger : Ledger)
    (opened : preConsumeBilling settings quota relayInfo fates .untouched = (.ok session, ledger))
    (reserves : List (Int × ReserveFates)) (rollbacks : ∀ reserve ∈ reserves, reserve.2.rollback = .applied) :
    let held := reserveAll settings session ledger reserves
    (∀ actual, 0 ≤ actual → (held.1.settle actual UpdatesApplied held.2).2.2 =
      { wallet := if relayInfo.userUnlimitedQuota then 0 else actual
        token := if relayInfo.isPlayground then 0 else actual }) ∧
    (held.1.refundCompletely .applied held.2).2 = { wallet := 0, token := 0 } := by
  have held := (preConsumeBilling_open opened).reserveAll settings rollbacks
  exact ⟨fun actual _ => congrArg Prod.snd (held.settle actual), held.refundCompletely⟩

def plainSettings : Settings := { tokenQuota := 0, trustQuota := 0, formatQuota := toString }

def walletInfo : RelayInfo :=
  { isPlayground := false, tokenUnlimited := false, forcePreConsume := true, userUnlimitedQuota := false
    userQuota := 0, quotaClamp := none, finalPreConsumedQuota := 0, billingSource := none }

def openingGranted : OpenFates :=
  { userQuota := .ok 100, token := .reserved, tokenRemain := 0, funding := .reserved, rollback := .applied
    walletRemain := .ok 0 }

def heldTen : BillingSession :=
  { BillingSession.new { walletInfo with userQuota := 100 } (.wallet 10) with
    preConsumedQuota := 10, tokenConsumed := 10 }.syncRelayInfo

/-- One reservation raises the hold to 15, a second one is refused by the token
and rolled back. -/
def raisedThenRefused : List (Int × ReserveFates) :=
  [(15, ⟨.applied, .reserved, 0, .applied⟩), (40, ⟨.applied, .insufficient, 3, .applied⟩)]

theorem session_charges_exactly_raised : let held := reserveAll plainSettings heldTen ⟨10, 10⟩ raisedThenRefused
    (∀ actual, 0 ≤ actual → (held.1.settle actual UpdatesApplied held.2).2.2 =
      { wallet := if walletInfo.userUnlimitedQuota then 0 else actual
        token := if walletInfo.isPlayground then 0 else actual }) ∧
    (held.1.refundCompletely .applied held.2).2 = { wallet := 0, token := 0 } :=
  session_charges_exactly plainSettings walletInfo 10 openingGranted heldTen ⟨10, 10⟩ rfl raisedThenRefused (by decide)

end FlowAPI.Billing
