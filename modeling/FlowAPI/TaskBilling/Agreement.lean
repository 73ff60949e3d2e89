import FlowAPI.TaskBilling.Settlement

/-! The accounts of a task move together.

While their updates succeed, a recalculation and a refund move the token, the usage of the user
and the usage of the channel by the amount by which the task's quota moves. The wallet
moves the other way if it is the wallet that pays; a task of an unlimited user or of a
subscription leaves it alone. Where the funding refuses, nothing moves.
-/

set_option autoImplicit false
namespace FlowAPI.TaskBilling
open Accounts TaskBilling.Task

def Task.fromWallet (task : Task) (amount : Int) : Int := if task.funding = .wallet then amount else 0

structure Moved (amount : Int) (before after : State) : Prop where
  task : after.task = { before.task with quota := before.task.quota + amount }
  wallet : after.accounts.wallet = before.accounts.wallet - before.task.fromWallet amount
  tokenRemain : after.accounts.tokenRemain = before.accounts.tokenRemain - amount
  tokenUsed : after.accounts.tokenUsed = before.accounts.tokenUsed + amount
  userUsed : after.accounts.userUsed = before.accounts.userUsed + amount
  channelUsed : after.accounts.channelUsed = before.accounts.channelUsed + amount
  storedQuota : before.accounts.storedQuota = before.task.quota → after.accounts.storedQuota = after.task.quota

theorem Task.fromWallet_add (task : Task) (first second : Int) :
    task.fromWallet (first + second) = task.fromWallet first + task.fromWallet second := by
  unfold fromWallet
  split_ifs <;> simp

theorem Moved.refl (state : State) : Moved 0 state state where
  task := by simp
  wallet := by simp [fromWallet]
  tokenRemain := by simp
  tokenUsed := by simp
  userUsed := by simp
  channelUsed := by simp
  storedQuota := id

theorem Moved.trans {first second : Int} {before middle after : State} (left : Moved first before middle)
    (right : Moved second middle after) : Moved (first + second) before after where
  task := by rw [right.task, left.task, Int.add_assoc]
  wallet := by
    have payer : middle.task.fromWallet second = before.task.fromWallet second := by
      rw [left.task]
      rfl
    rw [right.wallet, left.wallet, payer, fromWallet_add]
    omega
  tokenRemain := by rw [right.tokenRemain, left.tokenRemain]; omega
  tokenUsed := by rw [right.tokenUsed, left.tokenUsed]; omega
  userUsed := by rw [right.userUsed, left.userUsed]; omega
  channelUsed := by rw [right.channelUsed, left.channelUsed]; omega
  storedQuota := fun agreed => right.storedQuota (left.storedQuota agreed)

/-- The updates of the call are applied and the task's token exists. -/
structure Fates.Succeed (fates : Fates) (task : Task) : Prop where
  token : fates.token = .applied
  quota : fates.quota = .applied
  userUsed : fates.userUsed = .applied
  channelUsed : fates.channelUsed = .applied
  tokenKey : fates.tokenKey ≠ ""
  tokenId : 0 < task.tokenId

variable {state : State}

theorem moved_settled {fates : Fates} (succeed : fates.Succeed state.task) {delta : Int}
    (changed : delta ≠ 0) (log : BillingLog) : Moved delta state ⟨{ state.task with quota := state.task.quota + delta },
      settled state.task delta (state.task.quota + delta) log fates
        (state.accounts.fund state.task.funding delta)⟩ := by
  obtain ⟨token, quota, userUsed, channelUsed, tokenKey, tokenId⟩ := succeed
  have found : ¬(state.task.tokenId ≤ 0 ∨ delta = 0) := by omega
  constructor
  case wallet =>
    unfold fund fromWallet
    cases state.task.funding <;> simp
  all_goals
    cases state.task.funding <;>
      simp [settled, taskAdjustTokenQuota, found, tokenKey, token, quota, userUsed, channelUsed,
        chargeToken, updateQuota, updateUserUsedQuota, updateChannelUsedQuota, recordTaskBillingLog, fund]

structure Recalculation where
  actualQuota : Int
  reason : String
  fates : Fates

structure Refund where
  reason : String
  fates : Fates

def Recalculation.apply (call : Recalculation) (state : State) : State :=
  recalculateTaskQuota call.actualQuota call.reason call.fates state
def Refund.apply (call : Refund) (state : State) : State := (refundTaskQuota call.reason call.fates state).2

def recalculateAll (calls : List Recalculation) (state : State) : State :=
  calls.foldl (fun state call => call.apply state) state

def AllSucceed : List Recalculation → State → Prop
  | [], _ => True
  | call :: calls, state => call.fates.Succeed state.task ∧ AllSucceed calls (call.apply state)

def adjustAll (calls : List Recalculation) (refund : Option Refund) (state : State) : State :=
  match refund with
  | none => recalculateAll calls state
  | some call => call.apply (recalculateAll calls state)

theorem recalculation_moves {call : Recalculation} (succeed : call.fates.Succeed state.task) :
    ∃ amount, Moved amount state (call.apply state) := by
  unfold Recalculation.apply
  by_cases effective : Effective call.actualQuota call.fates state
  · have reached : state.task.quota + (call.actualQuota - state.task.quota) = call.actualQuota := by omega
    have moved := moved_settled succeed (sub_ne_zero.mpr effective.2.1)
      (recalculationLog call.reason (call.actualQuota - state.task.quota))
    rw [reached] at moved
    rw [recalculateTaskQuota_of_effective effective]
    exact ⟨_, moved⟩
  · rw [recalculateTaskQuota_of_not_effective effective]
    exact ⟨0, Moved.refl state⟩

variable {calls : List Recalculation}

theorem recalculations_move (succeed : AllSucceed calls state) :
    ∃ amount, Moved amount state (recalculateAll calls state) := by
  induction calls generalizing state with
  | nil => exact ⟨0, Moved.refl state⟩
  | cons call _ step =>
    obtain ⟨_, first⟩ := recalculation_moves succeed.1
    obtain ⟨_, rest⟩ := step succeed.2
    exact ⟨_, first.trans rest⟩

theorem refundTaskQuota_of_accepts (charged : state.task.quota ≠ 0) {fates : Fates}
    (accepted : state.task.funding.Accepts state.accounts fates.funding (-state.task.quota)) (reason : String) :
    refundTaskQuota reason fates state = (true, ⟨{ state.task with quota := 0 },
        settled state.task (-state.task.quota) 0 ⟨.refund, "", state.task.quota, some reason⟩ fates
          (state.accounts.fund state.task.funding (-state.task.quota))⟩) := by
  unfold refundTaskQuota
  simp only [if_neg charged, taskAdjustFunding_of_accepts (neg_ne_zero.mpr charged) accepted]
  unfold settled updateQuota updateUserUsedQuota updateChannelUsedQuota
  cases fates.quota <;> cases fates.userUsed <;> cases fates.channelUsed <;> rfl

theorem refund_moves {call : Refund} (succeed : call.fates.Succeed state.task) :
    ∃ amount, Moved amount state (call.apply state) := by
  unfold Refund.apply
  by_cases free : state.task.quota = 0
  · have untouched : (refundTaskQuota call.reason call.fates state).2 = state := by simp [refundTaskQuota, free]
    rw [untouched]
    exact ⟨0, Moved.refl state⟩
  by_cases accepted : state.task.funding.Accepts state.accounts call.fates.funding (-state.task.quota)
  · have moved := moved_settled succeed (neg_ne_zero.mpr free) ⟨.refund, "", state.task.quota, some call.reason⟩
    rw [Int.add_right_neg] at moved
    rw [refundTaskQuota_of_accepts free accepted]
    exact ⟨_, moved⟩
  · obtain ⟨_, refused⟩ := taskAdjustFunding_of_not_accepts (neg_ne_zero.mpr free) accepted
    have untouched : (refundTaskQuota call.reason call.fates state).2 = state := by
      simp [refundTaskQuota, free, refused]
    rw [untouched]
    exact ⟨0, Moved.refl state⟩

theorem adjustments_move {refund : Option Refund} (succeed : AllSucceed calls state)
    (refunded : ∀ call ∈ refund, call.fates.Succeed (recalculateAll calls state).task) :
    ∃ amount, Moved amount state (adjustAll calls refund state) := by
  obtain ⟨amount, moved⟩ := recalculations_move succeed
  cases refund with
  | none => exact ⟨amount, moved⟩
  | some call =>
    obtain ⟨_, returned⟩ := refund_moves (refunded call rfl)
    exact ⟨_, moved.trans returned⟩

theorem allSucceed_append_left {earlier later : List Recalculation}
    (succeed : AllSucceed (earlier ++ later) state) : AllSucceed earlier state := by
  induction earlier generalizing state with
  | nil => trivial
  | cons _ _ step => exact ⟨succeed.1, step succeed.2⟩

/-- The token and both usages move by one amount, the wallet by its opposite if it pays, and
after every recalculation the task's quota is what the task has been charged. -/
theorem accounts_move_together (state : State) (calls : List Recalculation) (refund : Option Refund)
    (succeed : AllSucceed calls state)
    (refunded : ∀ call ∈ refund, call.fates.Succeed (recalculateAll calls state).task) :
    let after := (adjustAll calls refund state).accounts
    let net := after.tokenUsed - state.accounts.tokenUsed
    after.wallet - state.accounts.wallet = -(if state.task.funding = .wallet then net else 0) ∧
      after.userUsed - state.accounts.userUsed = net ∧
      after.channelUsed - state.accounts.channelUsed = net ∧
      ∀ earlier, earlier <+: calls → let reached := recalculateAll earlier state
        reached.task.quota = state.task.quota + (reached.accounts.tokenUsed - state.accounts.tokenUsed) := by
  intro after net
  obtain ⟨amount, moved⟩ := adjustments_move succeed refunded
  have amount_eq : net = amount := by
    have used := moved.tokenUsed
    simp only [net, after]
    omega
  rw [amount_eq]
  refine ⟨?_, ?_, ?_, ?_⟩
  · have wallet := moved.wallet
    unfold fromWallet at wallet
    simp only [after]
    omega
  · have used := moved.userUsed
    simp only [after]
    omega
  · have used := moved.channelUsed
    simp only [after]
    omega
  · rintro _ ⟨later, rfl⟩ reached
    obtain ⟨charge, first⟩ := recalculations_move (allSucceed_append_left succeed)
    have quota : reached.task.quota = state.task.quota + charge := congrArg quota first.task
    have used : reached.accounts.tokenUsed = state.accounts.tokenUsed + charge := first.tokenUsed
    omega

def recalculateTo (actualQuota : Int) : Recalculation := ⟨actualQuota, "adaptor计费调整", .applied⟩
def refundFailed : Refund := ⟨"task failed", .applied⟩
theorem applied_succeed {task : Task} (token : 0 < task.tokenId) : Fates.applied.Succeed task :=
  ⟨rfl, rfl, rfl, rfl, by decide, token⟩

/-- A hundred reserved, forty charged, then a hundred and thirty, then all of it returned. -/
theorem accounts_move_together_refunded : let state := reservedTask (.other "wallet") 100
    let after := (adjustAll [recalculateTo 40, recalculateTo 130] (some refundFailed) state).accounts
    after.wallet - state.accounts.wallet = -(after.tokenUsed - state.accounts.tokenUsed) ∧
      after.tokenUsed - state.accounts.tokenUsed = -100 :=
  ⟨(accounts_move_together (reservedTask (.other "wallet") 100) [recalculateTo 40, recalculateTo 130]
    (some refundFailed) ⟨applied_succeed (by decide), applied_succeed (by decide), trivial⟩
    (fun call chosen => Option.mem_some_iff.mp chosen ▸ applied_succeed (by decide))).1,
    by decide⟩

/-- A task of an unlimited user is charged thirty more, and the wallet stays. -/
theorem unlimited_task_keeps_wallet : let state := reservedTask .unlimited 100
    let after := (adjustAll [recalculateTo 130] none state).accounts
    AllSucceed [recalculateTo 130] state ∧
      after.wallet - state.accounts.wallet ≠ -(after.tokenUsed - state.accounts.tokenUsed) :=
  ⟨⟨applied_succeed (by decide), trivial⟩, by decide⟩

end FlowAPI.TaskBilling
