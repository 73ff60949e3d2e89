import FlowAPI.Billing.Lifecycle

/-! A call that fails leaves both accounts as they were.

`Reserve` and `preConsume` debit one account and then the other, and give the first debit
back when the second one fails. A failed `preConsume` also leaves a session behind; on the
playground it keeps a token amount that was never taken.
-/

set_option autoImplicit false
namespace FlowAPI.Billing
open BillingSession

structure Recorded where
  (preConsumedQuota extraReserved tokenConsumed : Int)
  deriving DecidableEq

def BillingSession.recorded (session : BillingSession) : Recorded :=
  ⟨session.preConsumedQuota, session.extraReserved, session.tokenConsumed⟩

variable (settings : Settings) (session : BillingSession)

def BillingSession.effectiveQuota (quota : Int) : Int := if session.shouldTrust settings then 0 else quota

def BillingSession.chargeToken (effectiveQuota : Int)
    (fates : OpenFates) (ledger : Ledger) : Except String (BillingSession × Ledger) :=
  if 0 < effectiveQuota then
    (preConsumeTokenQuota settings session.relayInfo effectiveQuota fates.token fates.tokenRemain ledger).map
      fun ledger => ({ session with tokenConsumed := effectiveQuota }, ledger)
  else .ok (session, ledger)

/-- The second step where the funding source refuses: the token gets its debit back and the recorded amount is
cleared, whether the update succeeds or not. On the playground neither happens. -/
def BillingSession.rollbackToken (rollback : UpdateFate) (ledger : Ledger) :
    BillingSession × Ledger :=
  if 0 < session.tokenConsumed ∧ session.relayInfo.isPlayground = false then
    ({ session with tokenConsumed := 0 },
      if rollback = .applied then ledger.takeToken (-session.tokenConsumed) else ledger)
  else (session, ledger)

/-- `preConsume` with the session as the call leaves it, also where it fails. -/
def BillingSession.preConsumeCall (quota : Int) (fates : OpenFates)
    (ledger : Ledger) : Option ApiError × BillingSession × Ledger :=
  let effectiveQuota := session.effectiveQuota settings quota
  let session := { session with trusted := session.shouldTrust settings }
  match session.chargeToken settings effectiveQuota fates ledger with
  | .error message => (some (forbidden message .preConsumeTokenQuotaFailed), session, ledger)
  | .ok (session, ledger) =>
    match session.funding.preConsume effectiveQuota fates.funding ledger with
    | .error failure =>
      (some (fundingFailure settings fates.walletRemain failure), session.rollbackToken fates.rollback ledger)
    | .ok (funding, ledger) =>
      (none, { session with funding, preConsumedQuota := effectiveQuota }.syncRelayInfo, ledger)

section
variable {settings : Settings} {session : BillingSession} {ledger : Ledger}

/-- What the callers of `preConsume` see of a call: its session only where it succeeds. -/
def visible : Option ApiError × BillingSession × Ledger → Except ApiError BillingSession × Ledger
  | (none, opened, after) => (.ok opened, after)
  | (some error, _, after) => (.error error, after)

theorem rollbackToken_ledger (rollback : UpdateFate) : (session.rollbackToken rollback ledger).2 =
      if 0 < session.tokenConsumed ∧ session.relayInfo.isPlayground = false ∧ rollback = .applied then
        ledger.takeToken (-session.tokenConsumed) else ledger := by
  unfold rollbackToken
  by_cases charged : 0 < session.tokenConsumed ∧ session.relayInfo.isPlayground = false
  · by_cases applied : rollback = .applied <;> simp [charged, applied]
  · have kept : ¬(0 < session.tokenConsumed ∧ session.relayInfo.isPlayground = false ∧ rollback = .applied) :=
      fun all => charged ⟨all.1, all.2.1⟩
    rw [if_neg charged, if_neg kept]

theorem preConsume_eq_call (quota : Int) (fates : OpenFates) :
    session.preConsume settings quota fates ledger = visible (session.preConsumeCall settings quota fates ledger) := by
  have charged : session.preConsume settings quota fates ledger =
      match { session with trusted := session.shouldTrust settings }.chargeToken settings
          (session.effectiveQuota settings quota) fates ledger with
      | .error message => (.error (forbidden message .preConsumeTokenQuotaFailed), ledger)
      | .ok (opened, after) =>
        match opened.funding.preConsume (session.effectiveQuota settings quota) fates.funding after with
        | .error failure =>
          (.error (fundingFailure settings fates.walletRemain failure),
            if 0 < opened.tokenConsumed ∧ opened.relayInfo.isPlayground = false ∧ fates.rollback = .applied then
              after.takeToken (-opened.tokenConsumed) else after)
        | .ok (funding, after) =>
          (.ok { opened with funding, preConsumedQuota := session.effectiveQuota settings quota }.syncRelayInfo,
            after) := rfl
  rw [charged]
  unfold preConsumeCall
  dsimp only
  cases { session with trusted := session.shouldTrust settings }.chargeToken settings
      (session.effectiveQuota settings quota) fates ledger with
  | error message => rfl
  | ok result =>
    dsimp only
    cases result.1.funding.preConsume (session.effectiveQuota settings quota) fates.funding result.2 with
    | ok => rfl
    | error => rw [visible, rollbackToken_ledger]

theorem Funding.exists_holds (funding : Funding) : ∃ unlimited amount, funding.Holds unlimited amount := by
  cases funding with
  | unlimited => exact ⟨true, 0, rfl⟩
  | wallet consumed => exact ⟨false, consumed, rfl, rfl⟩

theorem reserve_restores {target : Int} {fates : ReserveFates} {error : ApiError} {after : BillingSession}
    {left : Ledger} (applied : fates.rollback = .applied)
    (failed : session.reserve settings target fates ledger = (some error, after, left)) :
    after = session ∧ left = ledger := by
  unfold reserve at failed
  split at failed
  · cases failed
  dsimp only at failed
  cases reserved : session.reserveFunding (target - session.preConsumedQuota) fates.funding ledger with
  | error =>
    rw [reserved] at failed
    cases failed
    exact ⟨rfl, rfl⟩
  | ok result =>
    obtain ⟨_, _⟩ := result
    obtain ⟨_, _, holds⟩ := session.funding.exists_holds
    obtain ⟨rfl, rfl⟩ := reserveFunding_ok holds reserved
    rw [reserved] at failed
    dsimp only at failed
    split at failed
    · rw [applied, rollbackFundingReserve_raised holds] at failed
      cases failed
      exact ⟨rfl, rfl⟩
    · cases failed

theorem Funding.preConsume_error {funding : Funding} {amount : Int} {fate : ReserveFate} {failure : FundingError}
    (refused : funding.preConsume amount fate ledger = .error failure) : 0 < amount := by
  unfold preConsume at refused
  split at refused
  · cases refused
  · split_ifs at refused with positive
    exact Int.not_le.mp positive

theorem preConsumeTokenQuota_error {relayInfo : RelayInfo} {quota remain : Int} {fate : ReserveFate} {message : String}
    (positive : 0 < quota) (refused : preConsumeTokenQuota settings relayInfo quota fate remain ledger = .error message) :
    relayInfo.isPlayground = false := by
  unfold preConsumeTokenQuota at refused
  rw [if_neg (by omega)] at refused
  split_ifs at refused with elsewhere
  exact Bool.not_eq_true _ ▸ elsewhere

theorem preConsumeCall_restores {relayInfo : RelayInfo} {funding : Funding} {quota : Int} {fates : OpenFates}
    {error : ApiError} {after : BillingSession} {left : Ledger} (applied : fates.rollback = .applied)
    (failed : (new relayInfo funding).preConsumeCall settings quota fates ledger = (some error, after, left)) :
    left = ledger ∧ (after.recorded = (new relayInfo funding).recorded ↔ relayInfo.isPlayground = false) := by
  unfold preConsumeCall at failed
  dsimp only at failed
  generalize (new relayInfo funding).effectiveQuota settings quota = effectiveQuota at failed
  unfold chargeToken at failed
  by_cases positive : 0 < effectiveQuota
  · rw [if_pos positive] at failed
    cases taken : preConsumeTokenQuota settings relayInfo effectiveQuota fates.token fates.tokenRemain ledger with
    | error =>
      have elsewhere := preConsumeTokenQuota_error positive taken
      simp only [new, taken, Except.map] at failed
      cases failed
      exact ⟨rfl, iff_of_true rfl elsewhere⟩
    | ok =>
      obtain rfl := preConsumeTokenQuota_ok (Int.le_of_lt positive) taken
      simp only [new, taken, Except.map] at failed
      split at failed
      next _ _ =>
        cases playground : relayInfo.isPlayground with
        | true =>
          simp [rollbackToken, playground] at failed
          obtain ⟨-, rfl, rfl⟩ := failed
          refine ⟨rfl, iff_of_false ?_ (by simp)⟩
          simp [recorded, new]
          omega
        | false =>
          simp [rollbackToken, playground, positive, applied] at failed
          obtain ⟨-, rfl, rfl⟩ := failed
          exact ⟨by simp [Ledger.takeToken], iff_of_true rfl rfl⟩
      · cases failed
  · rw [if_neg positive] at failed
    dsimp only at failed
    split at failed
    next refused => exact absurd (Funding.preConsume_error refused) positive
    · cases failed

end

/-- Both accounts and what the session records are as before the call. -/
structure Restored (session after : BillingSession) (ledger left : Ledger) : Prop where
  ledger : left = ledger
  recorded : after.recorded = session.recorded

/-- A failed `Reserve` whose rollback succeeds restores everything. A failed `preConsume` of a fresh session does so
exactly outside the playground. -/
theorem failed_call_restores (settings : Settings) (ledger left : Ledger) (after : BillingSession) (error : ApiError) :
    (∀ (session : BillingSession) (target : Int) (fates : ReserveFates), fates.rollback = .applied →
      session.reserve settings target fates ledger = (some error, after, left) → Restored session after ledger left) ∧
    ∀ (relayInfo : RelayInfo) (funding : Funding) (quota : Int) (fates : OpenFates), fates.rollback = .applied →
      (BillingSession.new relayInfo funding).preConsumeCall settings quota fates ledger = (some error, after, left) →
        (Restored (BillingSession.new relayInfo funding) after ledger left ↔ relayInfo.isPlayground = false) := by
  constructor
  · intro session target fates applied failed
    obtain ⟨rfl, rfl⟩ := reserve_restores applied failed
    exact ⟨rfl, rfl⟩
  · intro relayInfo funding quota fates applied failed
    obtain ⟨same, recorded⟩ := preConsumeCall_restores applied failed
    rw [← recorded]
    exact ⟨Restored.recorded, fun kept => ⟨same, kept⟩⟩

section
variable (isPlayground : Bool)

def cautiousSettings : Settings := { tokenQuota := 50, trustQuota := 0, formatQuota := fun _ => "" }

def requestInfo : RelayInfo :=
  { isPlayground, tokenUnlimited := false, forcePreConsume := false, userUnlimitedQuota := false, userQuota := 10
    quotaClamp := none, finalPreConsumedQuota := 0, billingSource := none }

end

def emptyWallet : OpenFates :=
  { userQuota := .ok 10, token := .reserved, tokenRemain := 50, funding := .insufficient, rollback := .applied
    walletRemain := .ok 3 }

def walletError : ApiError := forbidden "用户额度不足, 剩余额度: " .insufficientUserQuota

theorem failed_call_restores_token :
    Restored (BillingSession.new (requestInfo false) (.wallet 0)) (BillingSession.new (requestInfo false) (.wallet 0))
      .untouched .untouched :=
  ((failed_call_restores cautiousSettings .untouched .untouched
    (BillingSession.new (requestInfo false) (.wallet 0)) walletError).2 (requestInfo false) (.wallet 0) 5 emptyWallet
    rfl (by decide)).mpr rfl

/-- On the playground the token is not charged, and the session still records the amount after the failure. -/
theorem playground_session_keeps_token_amount :
    (BillingSession.new (requestInfo true) (.wallet 0)).preConsumeCall cautiousSettings 5 emptyWallet .untouched =
        (some walletError, { BillingSession.new (requestInfo true) (.wallet 0) with tokenConsumed := 5 }, .untouched) ∧
      ¬Restored (BillingSession.new (requestInfo true) (.wallet 0))
        { BillingSession.new (requestInfo true) (.wallet 0) with tokenConsumed := 5 } .untouched .untouched := by
  refine ⟨by decide, fun restored => ?_⟩
  have recorded := restored.recorded
  exact absurd recorded (by decide)

end FlowAPI.Billing
