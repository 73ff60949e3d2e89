import FlowAPI.Semantics.Table
import FlowAPI.Wallet.Machine
import Mathlib.Data.Rat.Floor

/-! Top-up orders: what each provider's create path stores, the quota each completion computes from it, and how it is
credited by `creditTopUpQuota` of `model/topup.go`.

The comparison with the ceiling and the addition are one statement, and the caller's transaction is rolled back when
it fails.

Prices and the quota per unit are decimals in the source and rationals here; a stored `float64` stands for the decimal
`decimal.NewFromFloat` reads from it, and the products and quotients the create paths take in `float64` are exact. -/

set_option autoImplicit false
namespace FlowAPI.Payment
open Semantics Wallet Option Table

inductive Error where
  | tradeNoMissing | orderNoMissing | orderMissing | topUpNotFound | paymentMethodMismatch
  | topUpStatusInvalid | orderStatusWrong | orderNotPending | invalidTopUpQuota
  | topUpQuotaLimitExceeded | recordNotFound | rechargeFailed

def Error.text : Error → String
  | .tradeNoMissing => "未提供支付单号"
  | .orderNoMissing => "未提供订单号"
  | .orderMissing => "充值订单不存在"
  | .topUpNotFound => "topup not found"
  | .paymentMethodMismatch => "payment method mismatch"
  | .topUpStatusInvalid => "topup status invalid"
  | .orderStatusWrong => "充值订单状态错误"
  | .orderNotPending => "订单状态不是待支付，无法补单"
  | .invalidTopUpQuota => "invalid top-up quota"
  | .topUpQuotaLimitExceeded => "top-up quota limit exceeded"
  | .recordNotFound => "record not found"
  | .rechargeFailed => "充值失败，请稍后重试"

structure Account where
  (id quota : Int)
  (email stripeCustomer : String)
  deriving DecidableEq, Repr

abbrev Accounts := Table Account.id

structure Updates where
  (stripeCustomer email : Option String)

def Updates.none : Updates := ⟨.none, .none⟩

variable (creditedQuota : Int)

def Account.credit (updates : Updates) (account : Account) : Account :=
  { account with
    quota := account.quota + creditedQuota, email := updates.email.getD account.email
    stripeCustomer := updates.stripeCustomer.getD account.stripeCustomer }

@[simp] theorem Account.credit_id (updates : Updates) (account : Account) :
    (account.credit creditedQuota updates).id = account.id := rfl

def topUpQuotaMaxCurrent : Except Error Int :=
  if creditedQuota ≤ 0 ∨ maxWalletQuota < creditedQuota then .error .invalidTopUpQuota
  else .ok (maxWalletQuota - creditedQuota)

variable (accounts : Accounts)

def creditTopUpQuota (userId creditedQuota : Int) (updates : Updates) : Except Error Accounts :=
  match topUpQuotaMaxCurrent creditedQuota with
  | .error error => .error error
  | .ok maxCurrentQuota =>
    match accounts.find userId with
    | none => .error .recordNotFound
    | some account =>
      if account.quota ≤ maxCurrentQuota then
        .ok (accounts.modify (fun row => decide (row.id = userId ∧ row.quota ≤ maxCurrentQuota))
          (Account.credit creditedQuota updates) fun row _ => row.credit_id creditedQuota updates)
      else .error .topUpQuotaLimitExceeded

def balance (userId : Int) : Option Int := (accounts.find userId).map (·.quota)
def addTo (userId amount : Int) (balances : Int → Option Int) (other : Int) : Option Int :=
  if other = userId then (balances other).map (· + amount) else balances other

theorem topUpQuotaMaxCurrent_ok {creditedQuota bound : Int}
    (computed : topUpQuotaMaxCurrent creditedQuota = .ok bound) :
    0 < creditedQuota ∧ bound = maxWalletQuota - creditedQuota := by
  unfold topUpQuotaMaxCurrent at computed
  split at computed <;> cases computed
  next _ => exact ⟨by omega, rfl⟩

/-- What a successful credit does: a positive amount reaches exactly one
existing account, which stays within the ceiling. -/
structure Credited (accounts after : Accounts) (userId amount : Int) : Prop where
  positive : 0 < amount
  known : (balance accounts userId).isSome
  limit : ∀ quota ∈ balance after userId, quota ≤ maxWalletQuota
  balances : balance after = addTo userId amount (balance accounts)

theorem creditTopUpQuota_ok {accounts after : Accounts} {userId creditedQuota : Int} {updates : Updates}
    (credited : creditTopUpQuota accounts userId creditedQuota updates = .ok after) :
    Credited accounts after userId creditedQuota := by
  unfold creditTopUpQuota at credited
  split at credited
  next => cases credited
  next _ bounded =>
    obtain ⟨positive, rfl⟩ := topUpQuotaMaxCurrent_ok bounded
    split at credited
    next => cases credited
    next _ found =>
      split at credited <;> cases credited
      next within =>
        have same := (mem_of_find found).2
        have balances : balance (accounts.modify
            (fun row => decide (row.id = userId ∧ row.quota ≤ maxWalletQuota - creditedQuota))
            (Account.credit creditedQuota updates) fun row _ => row.credit_id creditedQuota updates) =
            addTo userId creditedQuota (balance accounts) := by
          funext other
          simp only [balance, addTo, find_modify, map_map]
          by_cases here : other = userId
          · subst here
            simp [found, same, within, Account.credit]
          cases elsewhere : accounts.find other with
          | none => simp
          | some =>
            have key := (mem_of_find elsewhere).2
            simp [here, key]
        refine ⟨positive, by simp [balance, found], fun quota stored => ?_, balances⟩
        rw [balances] at stored
        simp only [addTo, balance, found, if_true, map_some, mem_def, some.injEq] at stored
        omega

/-- Any other change of a stored balance: consumption, another order, a refund. -/
def adjust (userId amount : Int) : Accounts :=
  accounts.modify (fun row => decide (row.id = userId)) (Account.credit amount .none)
    fun row _ => row.credit_id amount .none

theorem balance_adjust (userId amount : Int) :
    balance (adjust accounts userId amount) = addTo userId amount (balance accounts) := by
  funext other
  simp only [balance, adjust, addTo, find_modify, map_map]
  cases found : accounts.find other with
  | none => simp
  | some =>
    have key := (mem_of_find found).2
    by_cases here : other = userId <;> simp [here, key, Account.credit]

inductive Entry where
  | credited (userId amount : Int)
  | adjusted (userId amount : Int)
  deriving DecidableEq, Repr

def Entry.isCredit : Entry → Bool
  | .credited _ _ => true
  | .adjusted _ _ => false

def Entry.amount (userId : Int) : Entry → Int
  | .credited owner amount | .adjusted owner amount => if userId = owner then amount else 0

structure Ledger where
  accounts : Accounts
  log : List Entry
  deriving DecidableEq

def Ledger.opened : Ledger := ⟨accounts, []⟩
def Ledger.record (ledger : Ledger) (accounts : Accounts) (entry : Entry) : Ledger :=
  ⟨accounts, ledger.log ++ [entry]⟩
def Ledger.credits (ledger : Ledger) : Nat := ledger.log.countP Entry.isCredit

def Ledger.Balanced (initially : Accounts) (ledger : Ledger) : Prop :=
  ∀ userId, balance ledger.accounts userId =
    (balance initially userId).map (· + Pool.total (Entry.amount userId) ledger.log)

theorem Ledger.opened_balanced : (opened accounts).Balanced accounts := by
  intro userId
  simp [opened]

theorem Ledger.Balanced.record {initially after : Accounts} {ledger : Ledger} {entry : Entry} {owner amount : Int}
    (balanced : ledger.Balanced initially) (changed : balance after = addTo owner amount (balance ledger.accounts))
    (recorded : entry = .credited owner amount ∨ entry = .adjusted owner amount) :
    (ledger.record after entry).Balanced initially := by
  intro userId
  have share : entry.amount userId = if userId = owner then amount else 0 := by rcases recorded with rfl | rfl <;> rfl
  simp only [Ledger.record, changed, addTo, balanced userId, map_map, Pool.total_append, Pool.total_cons,
    Pool.total_nil, add_zero, share]
  split
  next => simp [Function.comp_def, add_assoc]
  next => simp

@[simp] theorem Ledger.credits_record (ledger : Ledger) (accounts : Accounts) (entry : Entry) :
    (ledger.record accounts entry).credits = ledger.credits + if entry.isCredit then 1 else 0 := by
  simp [credits, record, List.countP_append, List.countP_cons]

inductive PaymentProvider where
  | unset | epay | stripe | creem | waffo | waffoPancake | balance
  deriving DecidableEq, Repr

inductive TopUpStatus where
  | pending | success | failed | expired
  deriving DecidableEq, Repr

structure TopUp where
  (id userId amount : Int)
  money : ℚ
  (tradeNo paymentMethod : String)
  paymentProvider : PaymentProvider
  (createTime completeTime : Int)
  status : TopUpStatus
  deriving DecidableEq

variable (value : ℚ)

/-- `Decimal.Round(0)` rounds a half away from zero. -/
def roundDecimal : Int := if 0 ≤ value then ⌊value + 1 / 2⌋ else ⌈value - 1 / 2⌉

def intPart : Int := if 0 ≤ value then ⌊value⌋ else ⌈value⌉

/-- A rounded value outside `±MaxWalletQuota` is an error. Inside, its `float64` is exact. -/
def walletQuotaFromDecimalStrict : Option Int :=
  let rounded := roundDecimal value
  if maxWalletQuota < rounded ∨ rounded < -maxWalletQuota then none else some rounded

def positiveQuota : Except Error Int :=
  match walletQuotaFromDecimalStrict value with
  | none => .error .invalidTopUpQuota
  | some quota => if quota ≤ 0 then .error .invalidTopUpQuota else .ok quota

variable (quotaPerUnit : ℚ)

def amountQuota (topUp : TopUp) : Except Error Int := positiveQuota (topUp.amount * quotaPerUnit)

def moneyQuota (topUp : TopUp) : Except Error Int := positiveQuota (topUp.money * quotaPerUnit)

def plainQuota (topUp : TopUp) : Except Error Int := positiveQuota topUp.amount

def manualQuota (topUp : TopUp) : Except Error Int :=
  if topUp.paymentProvider = .stripe then moneyQuota quotaPerUnit topUp else amountQuota quotaPerUnit topUp

structure Settings where
  quotaPerUnit : ℚ
  /-- `QuotaDisplayTypeTokens`: the client sends tokens, not units. -/
  displayTokens : Bool

structure Draft where
  (id userId : Int)
  tradeNo : String
  now : Int

def Draft.topUp (draft : Draft) (amount : Int) (money : ℚ) (paymentMethod : String)
    (paymentProvider : PaymentProvider) : TopUp :=
  { id := draft.id, userId := draft.userId, amount, money, tradeNo := draft.tradeNo, paymentMethod
    paymentProvider, createTime := draft.now, completeTime := 0, status := .pending }

variable (settings : Settings) (draft : Draft)

def requestEpay (amount : Int) (payMoney : ℚ) (paymentMethod : String) :
    TopUp :=
  let stored := if settings.displayTokens then intPart (amount / settings.quotaPerUnit) else amount
  draft.topUp stored payMoney paymentMethod .epay

def getChargedAmount (count topUpGroupRatio : ℚ) : ℚ := count * if topUpGroupRatio = 0 then 1 else topUpGroupRatio
def requestStripePay (amount : Int) (topUpGroupRatio : ℚ) : TopUp :=
  draft.topUp amount (getChargedAmount amount topUpGroupRatio) "stripe" .stripe

structure CreemProduct where
  price : ℚ
  quota : Int

def requestCreemPay (product : CreemProduct) : TopUp := draft.topUp product.quota product.price "creem" .creem

/-- Waffo and Waffo Pancake store at least one unit. -/
def normalizeTopUpAmount (amount : Int) : Int :=
  if settings.displayTokens then max 1 (intPart (amount / settings.quotaPerUnit)) else amount

def requestWaffoPay (amount : Int) (payMoney : ℚ) : TopUp :=
  draft.topUp (normalizeTopUpAmount settings amount) payMoney "waffo" .waffo
def requestWaffoPancakePay (amount : Int) (payMoney : ℚ) : TopUp :=
  draft.topUp (normalizeTopUpAmount settings amount) payMoney "waffo_pancake" .waffoPancake

inductive Request where
  | epay (amount : Int) (payMoney : ℚ) (paymentMethod : String)
  | stripe (amount : Int) (topUpGroupRatio : ℚ)
  | creem (product : CreemProduct)
  | waffo (amount : Int) (payMoney : ℚ)
  | waffoPancake (amount : Int) (payMoney : ℚ)

def Request.stored : Request → TopUp
  | .epay amount payMoney paymentMethod => requestEpay settings draft amount payMoney paymentMethod
  | .stripe amount topUpGroupRatio => requestStripePay draft amount topUpGroupRatio
  | .creem product => requestCreemPay draft product
  | .waffo amount payMoney => requestWaffoPay settings draft amount payMoney
  | .waffoPancake amount payMoney => requestWaffoPancakePay settings draft amount payMoney

end FlowAPI.Payment
