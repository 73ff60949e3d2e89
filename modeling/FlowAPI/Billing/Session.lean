import Mathlib.Data.Int.Order.Basic

/-! The billing session of one request: `service/billing_session.go` and `service/funding_source.go`.

A session moves quota between a wallet, a token and itself. The updates it issues are storage operations whose fate is
decided outside: each applies exactly or fails and changes nothing. The ledger counts what has been taken from either
account, net of what was given back. `NewBillingSession` never builds the subscription source. -/

set_option autoImplicit false
namespace FlowAPI.Billing

inductive BillingSource where
  | wallet | unlimited
  deriving DecidableEq, Repr

structure RelayInfo where
  (isPlayground tokenUnlimited forcePreConsume userUnlimitedQuota : Bool)
  userQuota : Int
  quotaClamp : Option String
  finalPreConsumedQuota : Int
  billingSource : Option BillingSource
  deriving DecidableEq, Repr

/-- What the request context and the configuration contribute: `token_quota`,
`GetTrustQuota` and the rendering of amounts in messages. -/
structure Settings where
  (tokenQuota trustQuota : Int)
  formatQuota : Int → String

inductive ErrorCode where
  | modelPriceError | queryDataError | updateDataError | insufficientUserQuota
  | preConsumeTokenQuotaFailed
  deriving DecidableEq, Repr

structure ApiError where
  message : String
  code : ErrorCode
  statusCode : Nat
  (skipRetry recordErrorLog : Bool)
  deriving DecidableEq, Repr

variable (message : String)

def forbidden (code : ErrorCode) : ApiError :=
  { message, code, statusCode := 403, skipRetry := true, recordErrorLog := false }
def badRequest (code : ErrorCode) : ApiError :=
  { message, code, statusCode := 400, skipRetry := true, recordErrorLog := true }
def internalError (code : ErrorCode) : ApiError :=
  { message, code, statusCode := 500, skipRetry := true, recordErrorLog := true }

/-- The answer of `TryReserveUserQuota` or `TryReserveTokenQuota`. -/
inductive ReserveFate where
  | reserved | insufficient
  | failed (message : String)

inductive UpdateFate where
  | applied
  | failed (message : String)
  deriving DecidableEq, Repr

@[ext] structure Ledger where
  wallet : Int
  token : Int
  deriving DecidableEq, Repr

namespace Ledger

def untouched : Ledger := ⟨0, 0⟩
def takeWallet (ledger : Ledger) (amount : Int) : Ledger := { ledger with wallet := ledger.wallet + amount }
def takeToken (ledger : Ledger) (amount : Int) : Ledger := { ledger with token := ledger.token + amount }

end Ledger

inductive Funding where
  | unlimited
  | wallet (consumed : Int)
  deriving DecidableEq, Repr

def Funding.source : Funding → BillingSource
  | .unlimited => .unlimited
  | .wallet _ => .wallet

inductive FundingError where
  | insufficientWalletQuota
  | other (message : String)

def Funding.preConsume (funding : Funding) (amount : Int) (fate : ReserveFate) (ledger : Ledger) :
    Except FundingError (Funding × Ledger) :=
  match funding with
  | .unlimited => .ok (.unlimited, ledger)
  | .wallet consumed =>
    if amount ≤ 0 then .ok (.wallet consumed, ledger)
    else
      match fate with
      | .failed message => .error (.other message)
      | .insufficient => .error .insufficientWalletQuota
      | .reserved => .ok (.wallet amount, ledger.takeWallet amount)

def Funding.settle (funding : Funding) (delta : Int) (fate : UpdateFate) (ledger : Ledger) : Except String Ledger :=
  match funding with
  | .unlimited => .ok ledger
  | .wallet _ =>
    if delta = 0 then .ok ledger
    else
      match fate with
      | .failed message => .error message
      | .applied => .ok (ledger.takeWallet delta)

/-- `Refund` has no result the session looks at: a failed update is logged. -/
def Funding.refund (funding : Funding) (fate : UpdateFate) (ledger : Ledger) : Ledger :=
  match funding with
  | .unlimited => ledger
  | .wallet consumed =>
    if consumed ≤ 0 then ledger
    else
      match fate with
      | .failed _ => ledger
      | .applied => ledger.takeWallet (-consumed)

structure BillingSession where
  relayInfo : RelayInfo
  funding : Funding
  (preConsumedQuota tokenConsumed extraReserved : Int)
  (trusted fundingSettled settled refunded : Bool)
  deriving DecidableEq, Repr

namespace BillingSession

def new (relayInfo : RelayInfo) (funding : Funding) : BillingSession :=
  { relayInfo, funding, preConsumedQuota := 0, tokenConsumed := 0, extraReserved := 0
    trusted := false, fundingSettled := false, settled := false, refunded := false }

def syncRelayInfo (session : BillingSession) : BillingSession :=
  { session with
    relayInfo := { session.relayInfo with
      finalPreConsumedQuota := session.preConsumedQuota, billingSource := some session.funding.source } }

def shouldTrust (settings : Settings) (session : BillingSession) : Bool :=
  if session.relayInfo.forcePreConsume then false
  else if settings.trustQuota ≤ 0 then false
  else if !(session.relayInfo.tokenUnlimited || decide (settings.tokenQuota > settings.trustQuota)) then false
  else
    match session.funding.source with
    | .wallet => decide (session.relayInfo.userQuota > settings.trustQuota)
    | .unlimited => false

end BillingSession

variable (settings : Settings)

def preConsumeTokenQuota (relayInfo : RelayInfo) (quota : Int) (fate : ReserveFate)
    (remainQuota : Int) (ledger : Ledger) : Except String Ledger :=
  if quota < 0 then .error "quota 不能为负数！"
  else if relayInfo.isPlayground then .ok ledger
  else
    match fate with
    | .failed message => .error message
    | .insufficient =>
      .error ("token quota is not enough, token remain quota: " ++ settings.formatQuota remainQuota ++
        ", need quota: " ++ settings.formatQuota quota)
    | .reserved => .ok (ledger.takeToken quota)

/-- What storage answers while a session opens: the balance read before, the two reservations, the rollback, and the
balances read for messages. -/
structure OpenFates where
  userQuota : Except String Int
  token : ReserveFate
  tokenRemain : Int
  funding : ReserveFate
  rollback : UpdateFate
  walletRemain : Except String Int

def subscriptionMessage : Bool :=
  (message.splitOn "no active subscription").length ≠ 1 ||
    (message.splitOn "subscription quota insufficient").length ≠ 1

def fundingFailure (walletRemain : Except String Int) : FundingError → ApiError
  | .insufficientWalletQuota =>
    let userQuota := match walletRemain with
      | .ok quota => quota
      | .error _ => 0
    forbidden ("用户额度不足, 剩余额度: " ++ settings.formatQuota userQuota) .insufficientUserQuota
  | .other message =>
    if subscriptionMessage message then forbidden ("订阅额度不足或未配置订阅: " ++ message) .insufficientUserQuota
    else internalError message .updateDataError

namespace BillingSession

def preConsume (settings : Settings) (session : BillingSession) (quota : Int) (fates : OpenFates)
    (ledger : Ledger) : Except ApiError BillingSession × Ledger :=
  let trusted := session.shouldTrust settings
  let effectiveQuota := if trusted then 0 else quota
  let session := { session with trusted }
  let token :=
    if 0 < effectiveQuota then
      (preConsumeTokenQuota settings session.relayInfo effectiveQuota fates.token fates.tokenRemain ledger).map
        fun ledger => ({ session with tokenConsumed := effectiveQuota }, ledger)
    else .ok (session, ledger)
  match token with
  | .error message => (.error (forbidden message .preConsumeTokenQuotaFailed), ledger)
  | .ok (session, ledger) =>
    match session.funding.preConsume effectiveQuota fates.funding ledger with
    | .error failure =>
      let rolledBack :=
        if 0 < session.tokenConsumed ∧ session.relayInfo.isPlayground = false ∧ fates.rollback = .applied then
          ledger.takeToken (-session.tokenConsumed)
        else ledger
      (.error (fundingFailure settings fates.walletRemain failure), rolledBack)
    | .ok (funding, ledger) =>
      (.ok { session with funding, preConsumedQuota := effectiveQuota }.syncRelayInfo, ledger)

end BillingSession

def newBillingSession (relayInfo : RelayInfo) (preConsumedQuota : Int)
    (fates : OpenFates) (ledger : Ledger) : Except ApiError BillingSession × Ledger :=
  if relayInfo.userUnlimitedQuota then
    (BillingSession.new relayInfo .unlimited).preConsume settings preConsumedQuota fates ledger
  else
    match fates.userQuota with
    | .error message => (.error (internalError message .queryDataError), ledger)
    | .ok userQuota =>
      if userQuota ≤ 0 then
        (.error (forbidden ("用户额度不足, 剩余额度: " ++ settings.formatQuota userQuota)
          .insufficientUserQuota), ledger)
      else if userQuota - preConsumedQuota < 0 then
        (.error (forbidden ("预扣费额度失败, 用户剩余额度: " ++ settings.formatQuota userQuota ++
          ", 需要预扣费额度: " ++ settings.formatQuota preConsumedQuota) .insufficientUserQuota), ledger)
      else
        (BillingSession.new { relayInfo with userQuota } (.wallet 0)).preConsume settings preConsumedQuota
          fates ledger

def preConsumeBilling (preConsumedQuota : Int) (relayInfo : RelayInfo)
    (fates : OpenFates) (ledger : Ledger) : Except ApiError BillingSession × Ledger :=
  match relayInfo.quotaClamp with
  | some clamp => (.error (badRequest clamp .modelPriceError), ledger)
  | none =>
    if preConsumedQuota < 0 then
      (.error (badRequest ("pre-consume quota cannot be negative: " ++ toString preConsumedQuota)
        .modelPriceError), ledger)
    else newBillingSession settings relayInfo preConsumedQuota fates ledger

structure ReserveFates where
  funding : UpdateFate
  token : ReserveFate
  tokenRemain : Int
  rollback : UpdateFate

structure SettleFates where
  (funding token : UpdateFate)

namespace BillingSession

variable (session : BillingSession)

def reserveFunding (delta : Int) (fate : UpdateFate) (ledger : Ledger) :
    Except ApiError (BillingSession × Ledger) :=
  match session.funding with
  | .unlimited => .ok (session, ledger)
  | .wallet consumed =>
    match fate with
    | .failed message => .error (internalError message .updateDataError)
    | .applied => .ok ({ session with funding := .wallet (consumed + delta) }, ledger.takeWallet delta)

def rollbackFundingReserve (delta : Int) (fate : UpdateFate) (ledger : Ledger) :
    BillingSession × Ledger :=
  match session.funding, fate with
  | .wallet consumed, .applied => ({ session with funding := .wallet (consumed - delta) }, ledger.takeWallet (-delta))
  | _, _ => (session, ledger)

def reserveToken (settings : Settings) (session : BillingSession) (delta : Int) (fate : ReserveFate)
    (remainQuota : Int) (ledger : Ledger) : Except ApiError Ledger :=
  if delta ≤ 0 ∨ session.relayInfo.isPlayground = true then .ok ledger
  else
    (preConsumeTokenQuota settings session.relayInfo delta fate remainQuota ledger).mapError
      (forbidden · .preConsumeTokenQuotaFailed)

def reserve (settings : Settings) (session : BillingSession) (targetQuota : Int) (fates : ReserveFates)
    (ledger : Ledger) : Option ApiError × BillingSession × Ledger :=
  if session.settled = true ∨ session.refunded = true ∨ session.trusted = true ∨
      targetQuota ≤ session.preConsumedQuota then (none, session, ledger)
  else
    let delta := targetQuota - session.preConsumedQuota
    match session.reserveFunding delta fates.funding ledger with
    | .error failure => (some failure, session, ledger)
    | .ok (session, ledger) =>
      match session.reserveToken settings delta fates.token fates.tokenRemain ledger with
      | .error failure => (some failure, session.rollbackFundingReserve delta fates.rollback ledger)
      | .ok ledger =>
        (none, { session with
          preConsumedQuota := session.preConsumedQuota + delta, tokenConsumed := session.tokenConsumed + delta
          extraReserved := session.extraReserved + delta }.syncRelayInfo, ledger)

/-- `Settle`, run under the session's mutex. Once the funding is committed a
failing token update is reported and not retried. -/
def settle (session : BillingSession) (actualQuota : Int) (fates : SettleFates) (ledger : Ledger) :
    Option String × BillingSession × Ledger :=
  if session.settled then (none, session, ledger)
  else
    let delta := actualQuota - session.preConsumedQuota
    if delta = 0 then (none, { session with settled := true }, ledger)
    else
      let funded := if session.fundingSettled then .ok ledger else session.funding.settle delta fates.funding ledger
      match funded with
      | .error message => (some message, session, ledger)
      | .ok ledger =>
        let session := { session with fundingSettled := true, settled := true }
        if session.relayInfo.isPlayground then (none, session, ledger)
        else
          match fates.token with
          | .failed message => (some message, session, ledger)
          | .applied => (none, session, ledger.takeToken delta)

def needsRefund : Bool :=
  if session.settled || session.refunded || session.fundingSettled then false
  else decide (0 < session.tokenConsumed)

end BillingSession

/-- The goroutine of `Refund`. It copies the token amount and keeps a pointer to
the funding source, whose consumed amount it reads when it gets there. -/
inductive RefundJob where
  | returnFunding (tokenConsumed : Int) (isPlayground : Bool)
  | returnToken (tokenConsumed : Int) (isPlayground : Bool)
  deriving DecidableEq, Repr

namespace BillingSession

variable (session : BillingSession)

def refund : BillingSession × List RefundJob :=
  if session.settled = true ∨ session.refunded = true ∨ session.needsRefund = false then (session, [])
  else
    ({ session with refunded := true },
      [.returnFunding session.tokenConsumed session.relayInfo.isPlayground])

def runRefundJob (fate : UpdateFate) (ledger : Ledger) :
    RefundJob → Ledger × List RefundJob
  | .returnFunding tokenConsumed isPlayground =>
    (session.funding.refund fate ledger, [.returnToken tokenConsumed isPlayground])
  | .returnToken tokenConsumed isPlayground =>
    if 0 < tokenConsumed ∧ isPlayground = false ∧ fate = .applied then (ledger.takeToken (-tokenConsumed), [])
    else (ledger, [])

/-- `Refund` followed by its goroutine to the end. Only the first of the two
updates leaves another one. -/
def refundCompletely (fate : UpdateFate) (ledger : Ledger) : BillingSession × Ledger :=
  let (session, jobs) := session.refund
  (session, jobs.foldl (fun ledger job =>
    let (ledger, rest) := session.runRefundJob fate ledger job
    rest.foldl (fun ledger job => (session.runRefundJob fate ledger job).1) ledger) ledger)

end BillingSession

end FlowAPI.Billing
