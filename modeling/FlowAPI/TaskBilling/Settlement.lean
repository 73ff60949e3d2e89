import FlowAPI.Billing.Session
import FlowAPI.Wallet.Machine

/-! What a settlement of an asynchronous task charges: the adjustments and the two settlements of
`service/task_billing.go`, and the dispatcher of `service/task_polling.go` that chooses among them.

One task is followed, with the accounts its updates address: the wallet or the subscription, the token, and the usage
of the user and of the channel. An update is a storage operation whose fate is decided outside.

A recalculation to zero is no recalculation: a checked adaptor that handled a free task leaves the whole reservation
with the user. -/

set_option autoImplicit false
namespace FlowAPI.TaskBilling
open Billing (UpdateFate)
open Wallet (maxWalletQuota)

/-- The `billing_source` column. Only two of its values are compared with. -/
inductive BillingSource where
  | subscription | unlimited
  | other (text : String)
  deriving DecidableEq, Repr

structure TaskBillingContext where
  billingUnit : String
  perCallBilling : Bool

structure Task where
  quota : Int
  billingSource : BillingSource
  (subscriptionId tokenId : Int)
  billingContext : Option TaskBillingContext

inductive LogType where
  | consume | refund

structure BillingLog where
  logType : LogType
  content : String
  quota : Int
  otherReason : Option String

structure UserSubscription where
  (amountTotal amountUsed : Int)

structure Accounts where
  wallet : Int
  subscription : UserSubscription
  (tokenRemain tokenUsed userUsed channelUsed storedQuota : Int)
  logs : List BillingLog

/-- What becomes of the updates of one call. `tokenKey` is empty when the token is gone
or cannot be read. -/
structure Fates where
  funding : UpdateFate
  tokenKey : String
  (token quota userUsed channelUsed : UpdateFate)

namespace Accounts

variable (quota : Int) (fate : UpdateFate) (accounts : Accounts)

def decreaseUserQuota : Except String Accounts :=
  if quota < 0 then .error "quota 不能为负数！"
  else match fate with
    | .failed message => .error message
    | .applied => .ok { accounts with wallet := accounts.wallet - quota }

def increaseUserQuota : Except String Accounts :=
  if quota < 0 then .error "quota 不能为负数！"
  else if maxWalletQuota < quota then .error ("wallet quota exceeds " ++ toString maxWalletQuota)
  else match fate with
    | .failed message => .error message
    | .applied =>
      if accounts.wallet ≤ maxWalletQuota - quota then .ok { accounts with wallet := accounts.wallet + quota }
      else .error "wallet quota limit exceeded"

def postConsumeUserSubscriptionDelta (delta : Int) (fate : UpdateFate) (accounts : Accounts) :
    Except String Accounts :=
  if delta = 0 then .ok accounts
  else match fate with
    | .failed message => .error message
    | .applied =>
      let amountTotal := accounts.subscription.amountTotal
      let newUsed := max 0 (accounts.subscription.amountUsed + delta)
      if 0 < amountTotal ∧ amountTotal < newUsed then
        .error ("subscription used exceeds total, used=" ++ toString newUsed ++ " total=" ++
          toString amountTotal)
      else .ok { accounts with subscription := ⟨amountTotal, newUsed⟩ }

/-- `IncreaseTokenQuota` and `DecreaseTokenQuota` are one update with opposite signs: what is
taken from the remainder is added to the used amount. -/
def chargeToken : Accounts :=
  match fate with
  | .failed _ => accounts
  | .applied => { accounts with
      tokenRemain := accounts.tokenRemain - quota, tokenUsed := accounts.tokenUsed + quota }

def updateUserUsedQuota : Accounts :=
  match fate with
  | .failed _ => accounts
  | .applied => { accounts with userUsed := accounts.userUsed + quota }

def updateChannelUsedQuota : Accounts :=
  match fate with
  | .failed _ => accounts
  | .applied => { accounts with channelUsed := accounts.channelUsed + quota }

def updateQuota : Accounts :=
  match fate with
  | .failed _ => accounts
  | .applied => { accounts with storedQuota := quota }

def recordTaskBillingLog (log : BillingLog) (accounts : Accounts) : Accounts :=
  { accounts with logs := accounts.logs ++ [log] }

end Accounts

structure State where
  task : Task
  accounts : Accounts

variable (task : Task)

def taskIsSubscription : Bool := task.billingSource = .subscription ∧ 0 < task.subscriptionId

def taskAdjustFunding (delta : Int) (fate : UpdateFate) (accounts : Accounts) :
    Except String Accounts :=
  if task.billingSource = .unlimited then .ok accounts
  else if taskIsSubscription task then accounts.postConsumeUserSubscriptionDelta delta fate
  else if 0 < delta then accounts.decreaseUserQuota delta fate
  else accounts.increaseUserQuota (-delta) fate

def taskAdjustTokenQuota (delta : Int) (fates : Fates) (accounts : Accounts) : Accounts :=
  if task.tokenId ≤ 0 ∨ delta = 0 then accounts
  else if fates.tokenKey = "" then accounts
  else accounts.chargeToken delta fates.token

def refundTaskQuota (reason : String) (fates : Fates) (state : State) : Bool × State :=
  let quota := state.task.quota
  if quota = 0 then (true, state)
  else match taskAdjustFunding state.task (-quota) fates.funding state.accounts with
    | .error _ => (false, state)
    | .ok accounts =>
      let accounts := taskAdjustTokenQuota state.task (-quota) fates accounts
      let accounts := accounts.updateUserUsedQuota (-quota) fates.userUsed
      let accounts := accounts.updateChannelUsedQuota (-quota) fates.channelUsed
      let accounts := accounts.recordTaskBillingLog ⟨.refund, "", quota, some reason⟩
      (true, ⟨{ state.task with quota := 0 }, accounts.updateQuota 0 fates.quota⟩)

def recalculationLog (reason : String) (quotaDelta : Int) : BillingLog :=
  if 0 < quotaDelta then ⟨.consume, reason, quotaDelta, none⟩ else ⟨.refund, reason, -quotaDelta, none⟩

def recalculateTaskQuota (actualQuota : Int) (reason : String) (fates : Fates) (state : State) : State :=
  if actualQuota ≤ 0 then state
  else
    let quotaDelta := actualQuota - state.task.quota
    if quotaDelta = 0 then state
    else match taskAdjustFunding state.task quotaDelta fates.funding state.accounts with
      | .error _ => state
      | .ok accounts =>
        let accounts := taskAdjustTokenQuota state.task quotaDelta fates accounts
        let accounts := accounts.updateQuota actualQuota fates.quota
        let accounts := accounts.updateUserUsedQuota quotaDelta fates.userUsed
        let accounts := accounts.updateChannelUsedQuota quotaDelta fates.channelUsed
        ⟨{ state.task with quota := actualQuota },
          accounts.recordTaskBillingLog (recalculationLog reason quotaDelta)⟩

/-- What settling a completed task consults. The `float64` prices are not modelled: `wanActualQuota` is the answer of
`wanActualQuotaChecked`, `checked` that of an adaptor with the checked interface, and `tokenQuota` the amount of
`RecalculateTaskQuotaByTokens`, if it has one. -/
structure Completion where
  wanActualQuota : Int
  checked : Option (Int × Bool)
  (adjusted totalTokens : Int)
  tokenQuota : Option (Int × String)

def Task.outputSeconds : Bool := task.billingContext.any fun context => context.billingUnit = "output_seconds"
def Task.perCallBilling (task : Task) : Bool := task.billingContext.any (·.perCallBilling)

variable (completion : Completion)

def settleByTokens (fates : Fates) (state : State) : State :=
  match completion.tokenQuota with
  | none => state
  | some (actualQuota, reason) => recalculateTaskQuota actualQuota reason fates state

def settleUnchecked (fates : Fates) (state : State) : State :=
  if state.task.perCallBilling then state
  else if 0 < completion.adjusted then recalculateTaskQuota completion.adjusted "adaptor计费调整" fates state
  else if 0 < completion.totalTokens then settleByTokens completion fates state
  else state

def settleTaskBillingOnComplete (fates : Fates) (state : State) : State :=
  if state.task.outputSeconds then
    recalculateTaskQuota (min completion.wanActualQuota state.task.quota) "Wan output duration" fates state
  else match completion.checked with
    | some (actual, true) => recalculateTaskQuota actual "checked adaptor计费调整" fates state
    | some (_, false) | none => settleUnchecked completion fates state

open Accounts

inductive Funding where
  | unlimited | subscription | wallet
  deriving DecidableEq, Repr

/-- Who pays for the task. A subscription without a number is a wallet. -/
def Task.funding (task : Task) : Funding :=
  if task.billingSource = .unlimited then .unlimited
  else if taskIsSubscription task then .subscription
  else .wallet

def WalletAccepts (wallet delta : Int) : Prop := 0 < delta ∨ -delta ≤ maxWalletQuota ∧ wallet ≤ maxWalletQuota + delta
def SubscriptionAccepts (subscription : UserSubscription) (delta : Int) : Prop :=
  subscription.amountTotal ≤ 0 ∨ max 0 (subscription.amountUsed + delta) ≤ subscription.amountTotal

/-- The adjustment succeeds: nothing has to be written, or the update is applied and its
limit respected. -/
def Funding.Accepts (accounts : Accounts) (fate : UpdateFate) (delta : Int) : Funding → Prop
  | .unlimited => True
  | .subscription => fate = .applied ∧ SubscriptionAccepts accounts.subscription delta
  | .wallet => fate = .applied ∧ WalletAccepts accounts.wallet delta

instance (wallet delta : Int) : Decidable (WalletAccepts wallet delta) := inferInstanceAs (Decidable (_ ∨ _))
instance (subscription : UserSubscription) (delta : Int) : Decidable (SubscriptionAccepts subscription delta) :=
  inferInstanceAs (Decidable (_ ∨ _))

instance (accounts : Accounts) (fate : UpdateFate) (delta : Int) :
    (funding : Funding) → Decidable (funding.Accepts accounts fate delta) := fun _ => by
  unfold Funding.Accepts
  split <;> infer_instance

/-- What an adjustment that succeeds makes of the paying account. A subscription's used
amount does not go below zero. -/
def Accounts.fund (funding : Funding) (delta : Int) (accounts : Accounts) : Accounts :=
  match funding with
  | .unlimited => accounts
  | .subscription => { accounts with subscription :=
      ⟨accounts.subscription.amountTotal, max 0 (accounts.subscription.amountUsed + delta)⟩ }
  | .wallet => { accounts with wallet := accounts.wallet - delta }

variable {delta actualQuota : Int} {fates : Fates} {state : State}

theorem postConsumeUserSubscriptionDelta_eq (changed : delta ≠ 0) (fate : UpdateFate) (accounts : Accounts) :
    if fate = .applied ∧ SubscriptionAccepts accounts.subscription delta then
      accounts.postConsumeUserSubscriptionDelta delta fate = .ok (accounts.fund .subscription delta)
    else ∃ message, accounts.postConsumeUserSubscriptionDelta delta fate = .error message := by
  unfold postConsumeUserSubscriptionDelta
  rw [if_neg changed]
  cases fate with
  | failed message => exact ⟨message, rfl⟩
  | applied =>
    by_cases accepted : SubscriptionAccepts accounts.subscription delta
    · have within : ¬(0 < accounts.subscription.amountTotal ∧
          accounts.subscription.amountTotal < max 0 (accounts.subscription.amountUsed + delta)) := by
        unfold SubscriptionAccepts at accepted
        omega
      rw [if_pos ⟨rfl, accepted⟩]
      exact if_neg within
    have beyond : 0 < accounts.subscription.amountTotal ∧
        accounts.subscription.amountTotal < max 0 (accounts.subscription.amountUsed + delta) := by
      unfold SubscriptionAccepts at accepted
      omega
    rw [if_neg fun both => accepted both.2]
    exact ⟨_, if_pos beyond⟩

theorem adjustWallet_eq (delta : Int) (fate : UpdateFate) (accounts : Accounts) :
    if fate = .applied ∧ WalletAccepts accounts.wallet delta then
      (if 0 < delta then accounts.decreaseUserQuota delta fate
        else accounts.increaseUserQuota (-delta) fate) = .ok (accounts.fund .wallet delta)
    else ∃ message, (if 0 < delta then accounts.decreaseUserQuota delta fate
        else accounts.increaseUserQuota (-delta) fate) = .error message := by
  unfold WalletAccepts fund
  by_cases charge : 0 < delta
  · have natural : ¬delta < 0 := by omega
    cases fate with
    | failed | applied => simp [charge, decreaseUserQuota, natural]
  have natural : ¬0 < delta ∧ ¬-delta < 0 := by omega
  unfold increaseUserQuota
  cases fate with
  | failed => by_cases large : maxWalletQuota < -delta <;> simp [natural, large]
  | applied =>
    by_cases large : maxWalletQuota < -delta
    · simp [natural, large]
    · by_cases fits : accounts.wallet ≤ maxWalletQuota + delta
      · simp [natural, large, fits, not_lt.mp large, sub_eq_add_neg]
      · simp [natural, large, fits]

variable (task : Task)

theorem taskAdjustFunding_eq (changed : delta ≠ 0) (fate : UpdateFate) (accounts : Accounts) :
    if task.funding.Accepts accounts fate delta then
      taskAdjustFunding task delta fate accounts = .ok (accounts.fund task.funding delta)
    else ∃ message, taskAdjustFunding task delta fate accounts = .error message := by
  unfold taskAdjustFunding Task.funding
  by_cases unlimited : task.billingSource = .unlimited
  · simp [unlimited, fund, Funding.Accepts]
  · by_cases subscribed : taskIsSubscription task
    · simpa [unlimited, subscribed, Funding.Accepts] using postConsumeUserSubscriptionDelta_eq changed fate accounts
    · simpa [unlimited, subscribed, Funding.Accepts] using adjustWallet_eq delta fate accounts

theorem taskAdjustFunding_of_accepts {task : Task} (changed : delta ≠ 0)
    {fate : UpdateFate} {accounts : Accounts} (accepted : task.funding.Accepts accounts fate delta) :
    taskAdjustFunding task delta fate accounts = .ok (accounts.fund task.funding delta) := by
  simpa [accepted] using taskAdjustFunding_eq task changed fate accounts

theorem taskAdjustFunding_of_not_accepts {task : Task} (changed : delta ≠ 0)
    {fate : UpdateFate} {accounts : Accounts} (refused : ¬task.funding.Accepts accounts fate delta) :
    ∃ message, taskAdjustFunding task delta fate accounts = .error message := by
  simpa [refused] using taskAdjustFunding_eq task changed fate accounts

def settled (task : Task) (delta quota : Int) (log : BillingLog) (fates : Fates) (accounts : Accounts) : Accounts :=
  (taskAdjustTokenQuota task delta fates accounts).updateQuota quota fates.quota
    |>.updateUserUsedQuota delta fates.userUsed
    |>.updateChannelUsedQuota delta fates.channelUsed
    |>.recordTaskBillingLog log

/-- A recalculation is effective if the amount is positive and new and the funding takes it. -/
def Effective (actualQuota : Int) (fates : Fates) (state : State) : Prop :=
  0 < actualQuota ∧ actualQuota ≠ state.task.quota ∧
    state.task.funding.Accepts state.accounts fates.funding (actualQuota - state.task.quota)

theorem recalculateTaskQuota_of_effective (effective : Effective actualQuota fates state) (reason : String) :
    recalculateTaskQuota actualQuota reason fates state =
      ⟨{ state.task with quota := actualQuota }, settled state.task (actualQuota - state.task.quota) actualQuota
          (recalculationLog reason (actualQuota - state.task.quota)) fates
          (state.accounts.fund state.task.funding (actualQuota - state.task.quota))⟩ := by
  obtain ⟨positive, _, accepted⟩ := effective
  have delta : actualQuota - state.task.quota ≠ 0 := by omega
  unfold recalculateTaskQuota
  rw [if_neg (not_le.mpr positive)]
  simp only [if_neg delta, taskAdjustFunding_of_accepts delta accepted]
  rfl

theorem recalculateTaskQuota_of_not_effective (idle : ¬Effective actualQuota fates state) (reason : String) :
    recalculateTaskQuota actualQuota reason fates state = state := by
  unfold recalculateTaskQuota
  by_cases positive : actualQuota ≤ 0
  · exact if_pos positive
  by_cases delta : actualQuota - state.task.quota = 0
  · simp [positive, delta]
  have refused : ¬state.task.funding.Accepts state.accounts fates.funding
      (actualQuota - state.task.quota) := fun accepted =>
    idle ⟨not_le.mp positive, fun same => delta (by omega), accepted⟩
  obtain ⟨_, failed⟩ := taskAdjustFunding_of_not_accepts delta refused
  simp [positive, delta, failed]

def Accounts.funds (accounts : Accounts) : Int × UserSubscription := (accounts.wallet, accounts.subscription)

variable (quota : Int) (fate : UpdateFate) (accounts : Accounts)

@[simp] theorem chargeToken_funds : (accounts.chargeToken quota fate).funds = accounts.funds := by
  cases fate <;> rfl
@[simp] theorem updateQuota_funds : (accounts.updateQuota quota fate).funds = accounts.funds := by
  cases fate <;> rfl
@[simp] theorem updateUserUsedQuota_funds : (accounts.updateUserUsedQuota quota fate).funds = accounts.funds := by
  cases fate <;> rfl
@[simp] theorem updateChannelUsedQuota_funds : (accounts.updateChannelUsedQuota quota fate).funds = accounts.funds := by
  cases fate <;> rfl
@[simp] theorem recordTaskBillingLog_funds (log : BillingLog) (accounts : Accounts) :
    (accounts.recordTaskBillingLog log).funds = accounts.funds := rfl

@[simp] theorem taskAdjustTokenQuota_funds (delta : Int) (fates : Fates) (accounts : Accounts) :
    (taskAdjustTokenQuota task delta fates accounts).funds = accounts.funds := by
  unfold taskAdjustTokenQuota
  split_ifs <;> simp

section
variable (delta quota : Int) (log : BillingLog) (fates : Fates) (accounts : Accounts)

theorem settled_funds : (settled task delta quota log fates accounts).funds = accounts.funds := by
  simp [settled]
@[simp] theorem settled_wallet : (settled task delta quota log fates accounts).wallet = accounts.wallet :=
  congrArg Prod.fst (settled_funds task delta quota log fates accounts)

@[simp] theorem settled_subscription :
    (settled task delta quota log fates accounts).subscription = accounts.subscription :=
  congrArg Prod.snd (settled_funds task delta quota log fates accounts)
end

/-- The amount the task has cost its user when it ends in `after`, having cost its quota in
`before`. Of an unlimited user only the usage is recorded. -/
def netCharge (before after : State) : Int :=
  match before.task.funding with
  | .unlimited => after.task.quota
  | .subscription => before.task.quota +
      (after.accounts.subscription.amountUsed - before.accounts.subscription.amountUsed)
  | .wallet => before.task.quota + (before.accounts.wallet - after.accounts.wallet)

/-- The charge an effective recalculation arrives at: the amount itself, unless the
subscription has less to give back. -/
def reachedCharge (state : State) (actualQuota : Int) : Int :=
  match state.task.funding with
  | .unlimited | .wallet => actualQuota
  | .subscription => max actualQuota (state.task.quota - state.accounts.subscription.amountUsed)

theorem netCharge_self (state : State) : netCharge state state = state.task.quota := by
  unfold netCharge
  cases state.task.funding <;> simp

theorem netCharge_of_effective (effective : Effective actualQuota fates state) (reason : String) :
    netCharge state (recalculateTaskQuota actualQuota reason fates state) = reachedCharge state actualQuota := by
  rw [recalculateTaskQuota_of_effective effective]
  unfold netCharge reachedCharge
  cases paid : state.task.funding with
  | unlimited => rfl
  | subscription =>
    simp only [settled_subscription, fund]
    omega
  | wallet =>
    simp only [settled_wallet, fund]
    omega

instance (actualQuota : Int) (fates : Fates) (state : State) : Decidable (Effective actualQuota fates state) :=
  inferInstanceAs (Decidable (_ ∧ _))

theorem netCharge_recalculate (actualQuota : Int) (reason : String) (fates : Fates) (state : State) :
    netCharge state (recalculateTaskQuota actualQuota reason fates state) =
      if Effective actualQuota fates state then reachedCharge state actualQuota else state.task.quota := by
  by_cases effective : Effective actualQuota fates state
  · rw [netCharge_of_effective effective, if_pos effective]
  · rw [recalculateTaskQuota_of_not_effective effective, if_neg effective, netCharge_self]

/-- The amount is charged if it is positive and the task costs it already or its funding
can follow. -/
def Chargeable (actualQuota : Int) (fates : Fates) (state : State) : Prop :=
  0 < actualQuota ∧ (actualQuota = state.task.quota ∨
    state.task.funding.Accepts state.accounts fates.funding (actualQuota - state.task.quota) ∧
      (state.task.funding = .subscription → state.task.quota ≤ actualQuota + state.accounts.subscription.amountUsed))

theorem reachedCharge_eq_iff (state : State) (actualQuota : Int) : reachedCharge state actualQuota = actualQuota ↔
      (state.task.funding = .subscription →
        state.task.quota ≤ actualQuota + state.accounts.subscription.amountUsed) := by
  unfold reachedCharge
  cases state.task.funding with
  | unlimited | wallet => simp
  | subscription =>
    simp only [forall_const]
    omega

theorem recalculate_charges_iff (charged : 0 < state.task.quota) (actualQuota : Int) (reason : String) (fates : Fates) :
    netCharge state (recalculateTaskQuota actualQuota reason fates state) = actualQuota ↔
      Chargeable actualQuota fates state := by
  rw [netCharge_recalculate]
  unfold Chargeable
  rw [← reachedCharge_eq_iff]
  by_cases same : actualQuota = state.task.quota
  · have idle : ¬Effective actualQuota fates state := fun effective => effective.2.1 same
    rw [if_neg idle]
    exact ⟨fun _ => ⟨same ▸ charged, .inl same⟩, fun _ => same.symm⟩
  by_cases effective : Effective actualQuota fates state
  · rw [if_pos effective]
    exact ⟨fun reached => ⟨effective.1, .inr ⟨effective.2.2, reached⟩⟩,
      fun chargeable => (chargeable.2.resolve_left same).2⟩
  · rw [if_neg effective]
    exact ⟨fun kept => absurd kept.symm same,
      fun chargeable => absurd ⟨chargeable.1, same, (chargeable.2.resolve_left same).1⟩ effective⟩

/-- The reported amount is the measured one, or the reservation where that is kept, or what a subscription with too little
used keeps of it. -/
def ReportedIsMeasured (actual measured : Int) (fates : Fates) (state : State) : Prop :=
  actual = measured ∧ Chargeable measured fates state ∨
    actual = state.task.quota ∧ ¬Effective measured fates state ∨
    actual = state.task.quota - state.accounts.subscription.amountUsed ∧ measured ≤ actual ∧
      state.task.funding = .subscription ∧ Effective measured fates state

theorem recalculate_reaches_iff (actual measured : Int) (reason : String) (fates : Fates) :
    netCharge state (recalculateTaskQuota measured reason fates state) = actual ↔
      ReportedIsMeasured actual measured fates state := by
  rw [netCharge_recalculate]
  unfold ReportedIsMeasured Chargeable
  by_cases effective : Effective measured fates state
  · obtain ⟨positive, changed, accepted⟩ := effective
    rw [if_pos ⟨positive, changed, accepted⟩, reachedCharge]
    cases funding : state.task.funding <;> simp_all [Effective] <;> omega
  · rw [if_neg effective]
    refine ⟨fun kept => .inr (.inl ⟨kept.symm, effective⟩), ?_⟩
    rintro (⟨rfl, positive, same | ⟨accepted, _⟩⟩ | ⟨kept, _⟩ | ⟨_, _, _, reached⟩)
    · exact same.symm
    · by_contra changed
      exact effective ⟨positive, Ne.symm changed, accepted⟩
    · exact kept.symm
    · exact absurd reached effective

/-- When the amount a checked adaptor reports is what the task ends up costing. A task billed
by its output seconds never asks the adaptor. -/
def ReportedIsCharged (actual : Int) (completion : Completion) (fates : Fates) (state : State) : Prop :=
  if state.task.outputSeconds then
    ReportedIsMeasured actual (min completion.wanActualQuota state.task.quota) fates state
  else Chargeable actual fates state

/-- A handled amount is charged if it is positive and the funding follows; a handled zero is not. -/
theorem settle_charges_reported_iff (state : State) (completion : Completion) (fates : Fates) (actual : Int)
    (charged : 0 < state.task.quota) (handled : completion.checked = some (actual, true)) :
    netCharge state (settleTaskBillingOnComplete completion fates state) = actual ↔
      ReportedIsCharged actual completion fates state := by
  unfold settleTaskBillingOnComplete ReportedIsCharged
  by_cases seconds : state.task.outputSeconds
  · rw [if_pos seconds, if_pos seconds]
    exact recalculate_reaches_iff actual _ _ fates
  · rw [if_neg seconds, if_neg seconds, handled]
    exact recalculate_charges_iff charged actual _ fates

def Fates.applied : Fates := ⟨.applied, "sk-task", .applied, .applied, .applied, .applied⟩
def reservedTask (source : BillingSource) (quota : Int) : State :=
  { task := ⟨quota, source, 0, 7, some ⟨"", true⟩⟩, accounts := ⟨1000, ⟨0, 0⟩, 500, quota, quota, quota, quota, []⟩ }
def handledWith (actual : Int) : Completion := ⟨0, some (actual, true), 0, 0, none⟩

theorem settle_charges_reported_forty : netCharge (reservedTask (.other "wallet") 100)
      (settleTaskBillingOnComplete (handledWith 40) .applied (reservedTask (.other "wallet") 100)) = 40 :=
  (settle_charges_reported_iff _ (handledWith 40) .applied 40 (by decide) rfl).mpr (by
    unfold ReportedIsCharged ReportedIsMeasured Chargeable
    decide)

/-- A free operation that the adaptor handled keeps the reservation of a hundred. -/
theorem settle_keeps_free_reservation :
    0 < (reservedTask (.other "wallet") 100).task.quota ∧ (handledWith 0).checked = some (0, true) ∧
      netCharge (reservedTask (.other "wallet") 100)
        (settleTaskBillingOnComplete (handledWith 0) .applied (reservedTask (.other "wallet") 100)) ≠ 0 := by
  decide

end FlowAPI.TaskBilling
