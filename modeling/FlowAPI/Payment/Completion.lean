import FlowAPI.Payment.Order

/-! The transactions that complete, expire or fail a top-up order.

Each function locks the order row, so it is one step; it returns the quota it has
credited, `none` where it answers a completed order again, or an error, after
which the transaction is rolled back and nothing is stored.
-/

set_option autoImplicit false
namespace FlowAPI.Payment
open Semantics Wallet Request

structure Db where
  topUp : TopUp
  accounts : Accounts

def Db.lookup (db : Db) (tradeNo : String) : Option TopUp :=
  if db.topUp.tradeNo = tradeNo then some db.topUp else none
abbrev Completion := Except Error (Option Int × Db)
def TopUp.completed (now : Int) (topUp : TopUp) : TopUp := { topUp with completeTime := now, status := .success }

def creditSaved (db : Db) (saved : TopUp) (quota : Int) (updates : Updates) : Completion :=
  match creditTopUpQuota db.accounts saved.userId quota updates with
  | .error error => .error error
  | .ok accounts => .ok (some quota, { topUp := saved, accounts })

/-- The provider functions but epay's report one error for whatever ends the transaction. -/
def masked : Completion → Completion
  | .ok done => .ok done
  | .error _ => .error .rechargeFailed

structure Admission where
  /-- No such order. -/
  missing : Error
  accepts : PaymentProvider → Bool
  /-- A completed order is answered without an error. -/
  repeatable : Bool
  /-- The order is not pending. -/
  closed : Error

def withPending (admission : Admission) (tradeNo : String) (db : Db) (finish : TopUp → Completion) : Completion :=
  match db.lookup tradeNo with
  | none => .error admission.missing
  | some topUp =>
    if !admission.accepts topUp.paymentProvider then .error .paymentMethodMismatch
    else if admission.repeatable ∧ topUp.status = .success then .ok (none, db)
    else if topUp.status ≠ .pending then .error admission.closed
    else finish topUp

variable (quotaPerUnit : ℚ) (now : Int)

def rechargeEpay (tradeNo actualPaymentMethod : String) (db : Db) : Completion :=
  if tradeNo = "" then .error .tradeNoMissing
  else
    withPending { missing := .topUpNotFound, accepts := (· = .epay), repeatable := true, closed := .topUpStatusInvalid }
      tradeNo db fun topUp =>
        let topUp :=
          if actualPaymentMethod ≠ "" ∧ topUp.paymentMethod ≠ actualPaymentMethod then
            { topUp with paymentMethod := actualPaymentMethod }
          else topUp
        match amountQuota quotaPerUnit topUp with
        | .error error => .error error
        | .ok quota => creditSaved db (topUp.completed now) quota .none

def recharge (referenceId customerId : String) (db : Db) : Completion :=
  if referenceId = "" then .error .tradeNoMissing
  else masked <| withPending
      { missing := .orderMissing, accepts := (· = .stripe), repeatable := false, closed := .orderStatusWrong }
      referenceId db fun topUp =>
        let saved := topUp.completed now
        match moneyQuota quotaPerUnit saved with
        | .error error => .error error
        | .ok quota => creditSaved db saved quota { stripeCustomer := some customerId, email := none }

/-- The email of the customer fills an empty one of the user. -/
def creemUpdates (accounts : Accounts) (userId : Int) (customerEmail : String) : Except Error Updates :=
  if customerEmail = "" then .ok .none
  else
    match accounts.find userId with
    | none => .error .recordNotFound
    | some account => .ok { stripeCustomer := none, email := if account.email = "" then some customerEmail else none }

def rechargeCreem (referenceId customerEmail : String) (db : Db) : Completion :=
  if referenceId = "" then .error .tradeNoMissing
  else masked <| withPending
      { missing := .orderMissing, accepts := (· = .creem), repeatable := false, closed := .orderStatusWrong }
      referenceId db fun topUp =>
        let saved := topUp.completed now
        match plainQuota saved with
        | .error error => .error error
        | .ok quota =>
          match creemUpdates db.accounts saved.userId customerEmail with
          | .error error => .error error
          | .ok updates => creditSaved db saved quota updates

/-- Waffo and Waffo Pancake differ in the provider only. -/
def rechargeByAmount (provider : PaymentProvider) (quotaPerUnit : ℚ) (now : Int) (tradeNo : String) (db : Db) :
    Completion :=
  if tradeNo = "" then .error .tradeNoMissing
  else masked <| withPending
      { missing := .orderMissing, accepts := (· = provider), repeatable := true, closed := .orderStatusWrong }
      tradeNo db fun topUp =>
        match amountQuota quotaPerUnit topUp with
        | .error error => .error error
        | .ok quota => creditSaved db (topUp.completed now) quota .none

def rechargeWaffo : ℚ → Int → String → Db → Completion := rechargeByAmount .waffo
def rechargeWaffoPancake : ℚ → Int → String → Db → Completion := rechargeByAmount .waffoPancake

def manualCompleteTopUp (tradeNo : String) (db : Db) : Completion :=
  if tradeNo = "" then .error .orderNoMissing
  else
    withPending { missing := .orderMissing, accepts := fun _ => true, repeatable := true, closed := .orderNotPending }
      tradeNo db fun topUp =>
        match manualQuota quotaPerUnit topUp with
        | .error error => .error error
        | .ok quota => creditSaved db (topUp.completed now) quota .none

def updatePendingTopUpStatus (tradeNo : String) (expected : PaymentProvider) (target : TopUpStatus) (db : Db) :
    Completion :=
  if tradeNo = "" then .error .tradeNoMissing
  else
    withPending
      { missing := .topUpNotFound, accepts := fun provider => expected = .unset || provider = expected
        repeatable := false, closed := .topUpStatusInvalid }
      tradeNo db fun topUp => .ok (none, { db with topUp := { topUp with status := target } })

/-- A completion that returns without an error: a completed order is answered
again, or a pending one becomes a success and its user is credited. -/
inductive Completes (db : Db) : Option Int → Db → Prop where
  | again : db.topUp.status = .success → Completes db none db
  | credited {quota : Int} {after : Db} :
      db.topUp.status = .pending → after.topUp.status = .success →
      after.topUp.userId = db.topUp.userId → Credited db.accounts after.accounts db.topUp.userId quota →
      Completes db (some quota) after

variable {admission : Admission} {finish : TopUp → Completion}

section
variable {db after : Db} {credited : Option Int}

variable {tradeNo : String} {quotaPerUnit : ℚ} {now : Int}

theorem Db.lookup_some {topUp : TopUp} (found : db.lookup tradeNo = some topUp) : topUp = db.topUp := by
  obtain ⟨-, same⟩ := Option.ite_none_right_eq_some.mp found
  exact (Option.some.inj same).symm

theorem masked_ok {result : Completion} {done : Option Int × Db} (ok : masked result = .ok done) :
    result = .ok done := by
  cases result with
  | ok => exact ok
  | error => cases ok

theorem creditSaved_completes {saved : TopUp} {quota : Int} {updates : Updates}
    (done : creditSaved db saved quota updates = .ok (credited, after))
    (pending : db.topUp.status = .pending) (success : saved.status = .success)
    (owner : saved.userId = db.topUp.userId) : Completes db credited after := by
  unfold creditSaved at done
  split at done <;> cases done
  next _ stored => exact .credited pending success owner (owner ▸ creditTopUpQuota_ok stored)

section
variable (done : withPending admission tradeNo db finish = .ok (credited, after))
include done

theorem withPending_ok : (admission.repeatable ∧ db.topUp.status = .success ∧ credited = none ∧ after = db) ∨
      (db.topUp.status = .pending ∧ finish db.topUp = .ok (credited, after)) := by
  unfold withPending at done
  split at done
  · cases done
  next _ found =>
    cases Db.lookup_some found
    split at done
    · cases done
    split at done
    next repeated =>
      cases done
      exact .inl ⟨repeated.1, repeated.2, rfl, rfl⟩
    split_ifs at done with pending
    exact .inr ⟨not_not.mp pending, done⟩

theorem withPending_completes (finished : db.topUp.status = .pending → finish db.topUp = .ok (credited, after) →
      Completes db credited after) : Completes db credited after := by
  rcases withPending_ok done with ⟨-, success, rfl, rfl⟩ | ⟨pending, rest⟩
  · exact .again success
  · exact finished pending rest

end

theorem named_ok {name : String} {missing : Error} {result : Completion} {done : Option Int × Db}
    (ok : (if name = "" then .error missing else result) = .ok done) : result = .ok done := by
  split_ifs at ok
  exact ok

theorem rechargeEpay_completes {actualPaymentMethod : String}
    (done : rechargeEpay quotaPerUnit now tradeNo actualPaymentMethod db = .ok (credited, after)) :
    Completes db credited after := by
  refine withPending_completes (named_ok done) fun pending rest => ?_
  dsimp only at rest
  split at rest
  · cases rest
  · refine creditSaved_completes rest pending rfl ?_
    split <;> rfl

theorem recharge_completes {referenceId customerId : String}
    (done : recharge quotaPerUnit now referenceId customerId db = .ok (credited, after)) :
    Completes db credited after := by
  refine withPending_completes (masked_ok (named_ok done)) fun pending rest => ?_
  dsimp only at rest
  split at rest
  · cases rest
  · exact creditSaved_completes rest pending rfl rfl

theorem rechargeCreem_completes {referenceId customerEmail : String}
    (done : rechargeCreem now referenceId customerEmail db = .ok (credited, after)) : Completes db credited after := by
  refine withPending_completes (masked_ok (named_ok done)) fun pending rest => ?_
  dsimp only at rest
  split at rest
  · cases rest
  split at rest
  · cases rest
  · exact creditSaved_completes rest pending rfl rfl

theorem rechargeByAmount_completes {provider : PaymentProvider}
    (done : rechargeByAmount provider quotaPerUnit now tradeNo db = .ok (credited, after)) :
    Completes db credited after := by
  refine withPending_completes (masked_ok (named_ok done)) fun pending rest => ?_
  split at rest
  · cases rest
  · exact creditSaved_completes rest pending rfl rfl

theorem manualCompleteTopUp_completes (done : manualCompleteTopUp quotaPerUnit now tradeNo db = .ok (credited, after)) :
    Completes db credited after := by
  refine withPending_completes (named_ok done) fun pending rest => ?_
  split at rest
  · cases rest
  · exact creditSaved_completes rest pending rfl rfl

theorem updatePendingTopUpStatus_ok {expected : PaymentProvider} {target : TopUpStatus}
    (done : updatePendingTopUpStatus tradeNo expected target db = .ok (credited, after)) :
    db.topUp.status = .pending ∧ credited = none ∧ after = { db with topUp := { db.topUp with status := target } } := by
  rcases withPending_ok (named_ok done) with ⟨repeatable, -⟩ | ⟨pending, rest⟩
  · cases repeatable
  · cases rest
    exact ⟨pending, rfl, rfl⟩

end

def creditedQuota : Completion → Option Int
  | .ok (quota, _) => quota
  | .error _ => none

/-- What is left of a computed quota once the account has taken or refused it. -/
def settledQuota (accounts : Accounts) (userId : Int) : Except Error Int → Option Int
  | .error _ => none
  | .ok quota =>
    match creditTopUpQuota accounts userId quota .none with
    | .error _ => none
    | .ok _ => some quota

def takes (accounts : Accounts) (userId quota : Int) : Bool :=
  decide (0 < quota ∧ quota ≤ maxWalletQuota) &&
    (accounts.find userId).any fun account => decide (account.quota ≤ maxWalletQuota - quota)

structure Callback where
  (paymentMethod customerId customerEmail : String)

def Request.complete (callback : Callback) (tradeNo : String) (db : Db) :
    Request → Completion
  | .epay _ _ _ => rechargeEpay quotaPerUnit now tradeNo callback.paymentMethod db
  | .stripe _ _ => recharge quotaPerUnit now tradeNo callback.customerId db
  | .creem _ => rechargeCreem now tradeNo callback.customerEmail db
  | .waffo _ _ => rechargeWaffo quotaPerUnit now tradeNo db
  | .waffoPancake _ _ => rechargeWaffoPancake quotaPerUnit now tradeNo db

@[simp] theorem creditedQuota_masked (result : Completion) : creditedQuota (masked result) = creditedQuota result := by
  cases result <;> rfl

theorem creditedQuota_creditSaved (db : Db) (saved : TopUp) (quota : Int) (updates : Updates) :
    creditedQuota (creditSaved db saved quota updates) = settledQuota db.accounts saved.userId (.ok quota) := by
  simp only [creditSaved, settledQuota, creditTopUpQuota]
  cases topUpQuotaMaxCurrent quota with
  | error => rfl
  | ok bound =>
    cases db.accounts.find saved.userId with
    | none => rfl
    | some account => by_cases within : account.quota ≤ bound <;> simp [within, creditedQuota]

theorem takes_eq_false {quota : Int} (outside : ¬ (0 < quota ∧ quota ≤ maxWalletQuota)) (accounts : Accounts)
    (userId : Int) : takes accounts userId quota = false := by
  rw [takes, decide_eq_false outside, Bool.false_and]

theorem settledQuota_ok (accounts : Accounts) (userId quota : Int) :
    settledQuota accounts userId (.ok quota) = if takes accounts userId quota then some quota else none := by
  by_cases refused : quota ≤ 0 ∨ maxWalletQuota < quota
  · rw [takes_eq_false (by omega)]
    simp [settledQuota, creditTopUpQuota, topUpQuotaMaxCurrent, refused]
  · have range : 0 < quota ∧ quota ≤ maxWalletQuota := by omega
    simp only [settledQuota, creditTopUpQuota, topUpQuotaMaxCurrent, if_neg refused, takes, range]
    cases accounts.find userId with
    | none => rfl
    | some account => by_cases room : account.quota ≤ maxWalletQuota - quota <;> simp [room]

/-- A computed quota reaches the account exactly when the wallet takes it once it is rounded. -/
theorem settledQuota_positive (accounts : Accounts) (userId : Int) (value : ℚ) :
    settledQuota accounts userId (positiveQuota value) =
      if takes accounts userId (roundDecimal value) then some (roundDecimal value) else none := by
  unfold positiveQuota walletQuotaFromDecimalStrict
  generalize roundDecimal value = quota
  by_cases outside : maxWalletQuota < quota ∨ quota < -maxWalletQuota
  · rw [if_pos outside, takes_eq_false (by unfold maxWalletQuota at *; omega)]
    rfl
  rw [if_neg outside]
  dsimp only
  by_cases positive : quota ≤ 0
  · rw [if_pos positive, takes_eq_false (by omega)]
    rfl
  · rw [if_neg positive]
    exact settledQuota_ok accounts userId quota

theorem roundDecimal_int (value : Int) : roundDecimal value = value := by
  unfold roundDecimal
  split_ifs
  · rw [Int.floor_intCast_add]
    norm_num
  · rw [sub_eq_add_neg, Int.ceil_intCast_add]
    norm_num

section
variable {db : Db} {tradeNo : String}

theorem withPending_pending (found : db.topUp.tradeNo = tradeNo) (pending : db.topUp.status = .pending)
    (accepted : admission.accepts db.topUp.paymentProvider = true) :
    withPending admission tradeNo db finish = finish db.topUp := by
  simp [withPending, Db.lookup, found, pending, accepted]

variable (quotaPerUnit : ℚ) (now : Int) (named : tradeNo ≠ "") (found : db.topUp.tradeNo = tradeNo)
  (pending : db.topUp.status = .pending)
include named found pending

theorem manualCompleteTopUp_credits : creditedQuota (manualCompleteTopUp quotaPerUnit now tradeNo db) =
      settledQuota db.accounts db.topUp.userId (manualQuota quotaPerUnit db.topUp) := by
  simp only [manualCompleteTopUp, if_neg named, withPending_pending found pending]
  cases manualQuota quotaPerUnit db.topUp with
  | error => rfl
  | ok quota => exact creditedQuota_creditSaved db _ quota .none

theorem rechargeEpay_credits (actualPaymentMethod : String) (provider : db.topUp.paymentProvider = .epay) :
    creditedQuota (rechargeEpay quotaPerUnit now tradeNo actualPaymentMethod db) =
      settledQuota db.accounts db.topUp.userId (amountQuota quotaPerUnit db.topUp) := by
  simp only [rechargeEpay, if_neg named, withPending_pending found pending, provider, decide_true]
  -- the payment method is no part of the quota
  simp only [amountQuota]
  split_ifs
  all_goals
    cases positiveQuota (db.topUp.amount * quotaPerUnit) with
    | error => rfl
    | ok quota => exact creditedQuota_creditSaved db _ quota .none

theorem recharge_credits (customerId : String) (provider : db.topUp.paymentProvider = .stripe) :
    creditedQuota (recharge quotaPerUnit now tradeNo customerId db) =
      settledQuota db.accounts db.topUp.userId (moneyQuota quotaPerUnit db.topUp) := by
  simp only [recharge, if_neg named, creditedQuota_masked, withPending_pending found pending, provider, decide_true]
  simp only [moneyQuota, TopUp.completed]
  cases positiveQuota (db.topUp.money * quotaPerUnit) with
  | error => rfl
  | ok quota => exact creditedQuota_creditSaved db _ quota _

theorem rechargeCreem_credits (customerEmail : String) (provider : db.topUp.paymentProvider = .creem) :
    creditedQuota (rechargeCreem now tradeNo customerEmail db) =
      settledQuota db.accounts db.topUp.userId (plainQuota db.topUp) := by
  simp only [rechargeCreem, if_neg named, creditedQuota_masked, withPending_pending found pending, provider,
    decide_true]
  simp only [plainQuota, TopUp.completed]
  cases positiveQuota db.topUp.amount with
  | error => rfl
  | ok quota =>
    cases fields : creemUpdates db.accounts db.topUp.userId customerEmail with
    | ok updates => simpa only [fields] using creditedQuota_creditSaved db _ quota updates
    | error =>
      -- the user is missing, so the credit would have failed as well
      have missing : db.accounts.find db.topUp.userId = none := by
        simp only [creemUpdates] at fields
        split_ifs at fields
        split at fields
        · assumption
        · cases fields
      simp only [creditedQuota, settledQuota, creditTopUpQuota, missing]
      cases topUpQuotaMaxCurrent quota <;> rfl

theorem rechargeByAmount_credits (provider : PaymentProvider) (own : db.topUp.paymentProvider = provider) :
    creditedQuota (rechargeByAmount provider quotaPerUnit now tradeNo db) =
      settledQuota db.accounts db.topUp.userId (amountQuota quotaPerUnit db.topUp) := by
  simp only [rechargeByAmount, if_neg named, creditedQuota_masked, withPending_pending found pending, own, decide_true]
  cases amountQuota quotaPerUnit db.topUp with
  | error => rfl
  | ok quota => exact creditedQuota_creditSaved db _ quota .none

end

theorem Request.stored_pending (settings : Settings) (draft : Draft) (request : Request) :
    (request.stored settings draft).tradeNo = draft.tradeNo ∧ (request.stored settings draft).status = .pending := by
  cases request <;> exact ⟨rfl, rfl⟩

/-- Two computed quotas settle alike when they round to the same, and when the wallet takes neither. -/
theorem settledQuota_eq_iff (accounts : Accounts) (userId : Int) (left right : ℚ) :
    settledQuota accounts userId (positiveQuota left) = settledQuota accounts userId (positiveQuota right) ↔
      roundDecimal left = roundDecimal right ∨
        takes accounts userId (roundDecimal left) = false ∧ takes accounts userId (roundDecimal right) = false := by
  rw [settledQuota_positive, settledQuota_positive]
  by_cases same : roundDecimal left = roundDecimal right
  · simp [same]
  · cases takes accounts userId (roundDecimal left) <;> cases takes accounts userId (roundDecimal right) <;> simp [same]

/-- For an order as its create path stores it, manual completion credits what
the provider's completion credits, or both credit nothing. A Creem order stores
its quota as the amount, so there the amount times the quota per unit has to
round to the amount itself, unless the wallet takes neither of the two. -/
theorem manual_credits_as_provider_iff (settings : Settings) (draft : Draft) (request : Request) (accounts : Accounts)
    (now later : Int) (callback : Callback) (named : draft.tradeNo ≠ "") :
    creditedQuota (manualCompleteTopUp settings.quotaPerUnit now draft.tradeNo
        ⟨request.stored settings draft, accounts⟩) =
      creditedQuota (request.complete settings.quotaPerUnit later callback draft.tradeNo
        ⟨request.stored settings draft, accounts⟩) ↔
      ∀ product, request = .creem product →
        let credit := roundDecimal (product.quota * settings.quotaPerUnit)
        credit = product.quota ∨
          takes accounts draft.userId credit = false ∧ takes accounts draft.userId product.quota = false := by
  obtain ⟨found, pending⟩ := request.stored_pending settings draft
  rw [manualCompleteTopUp_credits settings.quotaPerUnit now named found pending]
  cases request with
  | epay _ _ paymentMethod =>
    exact iff_of_true
      (rechargeEpay_credits settings.quotaPerUnit later named found pending callback.paymentMethod rfl).symm nofun
  | stripe =>
    exact iff_of_true (recharge_credits settings.quotaPerUnit later named found pending callback.customerId rfl).symm
      nofun
  | creem product =>
    rw [Request.complete, rechargeCreem_credits later named found pending callback.customerEmail rfl]
    have compared := settledQuota_eq_iff accounts draft.userId (product.quota * settings.quotaPerUnit) product.quota
    rw [roundDecimal_int] at compared
    exact compared.trans ⟨fun agrees _ same => by cases same; exact agrees, fun agrees => agrees product rfl⟩
  | waffo | waffoPancake =>
    exact iff_of_true (rechargeByAmount_credits settings.quotaPerUnit later named found pending _ rfl).symm nofun

def sampleSettings : Settings := { quotaPerUnit := 500000, displayTokens := false }
def sampleDraft : Draft := { id := 1, userId := 7, tradeNo := "order", now := 10 }

def sampleUsers : Accounts where
  rows := [⟨7, 0, "", ""⟩]
  unique := by decide

def sampleCallback : Callback := { paymentMethod := "", customerId := "customer", customerEmail := "" }

/-- Ten units through Stripe with a group ratio of one half, and a Creem product worth 1 where a unit is worth 6/5. -/
theorem manual_credits_as_provider_stripe : creditedQuota (manualCompleteTopUp 500000 20 "order"
        ⟨(stripe 10 (1 / 2)).stored sampleSettings sampleDraft, sampleUsers⟩) = some 2500000 ∧
      creditedQuota (manualCompleteTopUp 500000 20 "order"
        ⟨(stripe 10 (1 / 2)).stored sampleSettings sampleDraft, sampleUsers⟩) =
      creditedQuota ((stripe 10 (1 / 2)).complete 500000 30 sampleCallback "order"
        ⟨(stripe 10 (1 / 2)).stored sampleSettings sampleDraft, sampleUsers⟩) ∧
      creditedQuota (manualCompleteTopUp (6 / 5) 20 "order" ⟨requestCreemPay sampleDraft ⟨5, 1⟩, sampleUsers⟩) =
      creditedQuota (rechargeCreem 30 "order" "" ⟨requestCreemPay sampleDraft ⟨5, 1⟩, sampleUsers⟩) :=
  ⟨by decide +kernel,
    (manual_credits_as_provider_iff sampleSettings sampleDraft (.stripe 10 (1 / 2)) sampleUsers 20 30 sampleCallback
      (by decide)).mpr nofun,
    (manual_credits_as_provider_iff ⟨6 / 5, false⟩ sampleDraft (.creem ⟨5, 1⟩) sampleUsers 20 30 sampleCallback
      (by decide)).mpr fun _ same => by cases same; exact .inl (by decide +kernel)⟩

/-- A Creem product worth 1000: its own completion credits 1000, manual
completion 1000 times the quota per unit. -/
theorem manual_multiplies_creem_quota : creditedQuota (rechargeCreem 20 "order" ""
        ⟨requestCreemPay sampleDraft { price := 5, quota := 1000 }, sampleUsers⟩) = some 1000 ∧
      creditedQuota (manualCompleteTopUp 500000 20 "order"
        ⟨requestCreemPay sampleDraft { price := 5, quota := 1000 }, sampleUsers⟩) = some 500000000 := by
  decide +kernel

end FlowAPI.Payment
