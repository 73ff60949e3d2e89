import FlowAPI.Billing.Lifecycle
import FlowAPI.Payment.Order

/-! A realtime session and its price: `OpenaiRealtimeHandler` of `relay/channel/openai/relay_realtime.go`,
`WssHelper` and `service/quota.go`.

Ratios and prices are decimals, so they are rationals here. A turn is priced by the ratio that is configured when it
ends and charged at once; the session is priced by what was agreed at its start and settled at its end.

One goroutine reads the client, one the upstream, and the handler waits for either to end. They share three counters:
what the upstream has reported for the turn, what was counted here, and the sum. Nobody waits for the readers. All
updates of wallet and token succeed. -/

set_option autoImplicit false
namespace FlowAPI.Realtime
open Billing

structure RealtimeUsage where
  (totalTokens inputTokens outputTokens inputCachedTokens inputTextTokens inputAudioTokens outputTextTokens : Int)
  outputAudioTokens : Int
  deriving DecidableEq, Repr

namespace RealtimeUsage

def empty : RealtimeUsage := ⟨0, 0, 0, 0, 0, 0, 0, 0⟩

def add (usage more : RealtimeUsage) : RealtimeUsage :=
  { totalTokens := usage.totalTokens + more.totalTokens, inputTokens := usage.inputTokens + more.inputTokens
    outputTokens := usage.outputTokens + more.outputTokens
    inputCachedTokens := usage.inputCachedTokens + more.inputCachedTokens
    inputTextTokens := usage.inputTextTokens + more.inputTextTokens
    inputAudioTokens := usage.inputAudioTokens + more.inputAudioTokens
    outputTextTokens := usage.outputTextTokens + more.outputTextTokens
    outputAudioTokens := usage.outputAudioTokens + more.outputAudioTokens }

def input (text audio : Int) : RealtimeUsage := ⟨text + audio, text + audio, 0, 0, text, audio, 0, 0⟩

def output (text audio : Int) : RealtimeUsage := ⟨text + audio, 0, text + audio, 0, 0, 0, text, audio⟩

end RealtimeUsage

def maxQuota : Int := 2147483647
def minQuota : Int := -2147483648

def quotaFromDecimal (value : ℚ) : Int :=
  let rounded := Payment.roundDecimal value
  if maxQuota < rounded then maxQuota else if rounded < minQuota then minQuota else rounded

structure Ratios where
  (modelRatio completionRatio audioRatio audioCompletionRatio : String → ℚ)
  quotaPerUnit : ℚ

structure QuotaInfo where
  usage : RealtimeUsage
  modelName : String
  usePrice : Bool
  (modelPrice modelRatio groupRatio : ℚ)

def Ratios.weigh (ratios : Ratios) (modelName : String) (usage : RealtimeUsage) : ℚ :=
  usage.inputTextTokens + usage.outputTextTokens * ratios.completionRatio modelName +
    usage.inputAudioTokens * ratios.audioRatio modelName +
    usage.outputAudioTokens * ratios.audioRatio modelName * ratios.audioCompletionRatio modelName

def calculateAudioQuota (ratios : Ratios) (info : QuotaInfo) : Int :=
  if info.usePrice then quotaFromDecimal (info.modelPrice * ratios.quotaPerUnit * info.groupRatio)
  else
    let ratio := info.groupRatio * info.modelRatio
    let quota := ratios.weigh info.modelName info.usage * ratio
    quotaFromDecimal (if ratio ≠ 0 ∧ quota ≤ 0 then 1 else quota)

/-- What the request knows about its price. `relayUsePrice` is `relayInfo.UsePrice`,
`usePrice` that of the price data. `tiered` is `TryTieredSettle`, from the tokens. -/
structure Pricing where
  relayUsePrice : Bool
  (originModelName upstreamModelName : String)
  usePrice : Bool
  (modelPrice modelRatio groupRatio : ℚ)
  tiered : Option (Int → Int → Int)

section
variable (ratios : Ratios) (pricing : Pricing)

def turnQuota (usage : RealtimeUsage) : Int :=
  calculateAudioQuota ratios
    { usage, modelName := pricing.originModelName, usePrice := pricing.relayUsePrice, modelPrice := 0
      modelRatio := ratios.modelRatio pricing.originModelName, groupRatio := pricing.groupRatio }

def sessionQuota (usage : RealtimeUsage) : Int :=
  if usage.totalTokens = 0 then 0
  else
    match pricing.tiered with
    | some settle => settle usage.inputTokens usage.outputTokens
    | none =>
      calculateAudioQuota ratios
        { usage, modelName := pricing.upstreamModelName, usePrice := pricing.usePrice
          modelPrice := pricing.modelPrice, modelRatio := pricing.modelRatio, groupRatio := pricing.groupRatio }

end

def postConsumeQuota (relayInfo : RelayInfo) (quota : Int) (fates : SettleFates) (ledger : Ledger) :
    Option String × Ledger :=
  let funded : Except String Ledger :=
    if relayInfo.userUnlimitedQuota = true ∨ relayInfo.billingSource = some .unlimited then .ok ledger
    else
      match fates.funding with
      | .failed message => .error message
      | .applied => .ok (ledger.takeWallet quota)
  match funded with
  | .error message => (some message, ledger)
  | .ok ledger =>
    if relayInfo.isPlayground then (none, ledger)
    else
      match fates.token with
      | .failed message => (some message, ledger)
      | .applied => (none, ledger.takeToken quota)

structure Balances where
  userQuota : Except String Int
  token : Except String (Bool × Int)

def insufficient (settings : Settings) (relayInfo : RelayInfo) (balances : Balances) (quota : Int) : Option String :=
  match if relayInfo.userUnlimitedQuota then .ok relayInfo.userQuota else balances.userQuota, balances.token with
  | .error message, _ => some message
  | .ok _, .error message => some message
  | .ok userQuota, .ok (unlimited, remainQuota) =>
    if relayInfo.userUnlimitedQuota = false ∧ userQuota < quota then
      some ("user quota is not enough, user quota: " ++ settings.formatQuota userQuota ++ ", need quota: " ++
        settings.formatQuota quota)
    else if unlimited = false ∧ remainQuota < quota then
      some ("token quota is not enough, token remain quota: " ++ settings.formatQuota remainQuota ++ ", need quota: " ++
        settings.formatQuota quota)
    else none

def preWssConsumeQuota (settings : Settings) (ratios : Ratios) (pricing : Pricing) (relayInfo : RelayInfo)
    (balances : Balances) (usage : RealtimeUsage) (fates : SettleFates) (ledger : Ledger) : Option String × Ledger :=
  if pricing.relayUsePrice then (none, ledger)
  else
    match insufficient settings relayInfo balances (turnQuota ratios pricing usage) with
    | some message => (some message, ledger)
    | none => postConsumeQuota relayInfo (turnQuota ratios pricing usage) fates ledger

def settleBilling (relayInfo : RelayInfo) (billing : Option BillingSession) (actualQuota : Int) (fates : SettleFates)
    (ledger : Ledger) : Option String × Option BillingSession × Ledger :=
  match billing with
  | some session =>
    let (failure, session, ledger) := session.settle actualQuota fates ledger
    (failure, some session, ledger)
  | none =>
    let quotaDelta := actualQuota - relayInfo.finalPreConsumedQuota
    if quotaDelta ≠ 0 then
      let (failure, ledger) := postConsumeQuota relayInfo quotaDelta fates ledger
      (failure, none, ledger)
    else (none, none, ledger)

section
variable {ratios : Ratios} {pricing : Pricing}

def Costless (ratios : Ratios) (pricing : Pricing) (usage : RealtimeUsage) : Prop :=
  let ratio := pricing.groupRatio * ratios.modelRatio pricing.originModelName
  let cost := ratios.weigh pricing.originModelName usage * ratio
  ratio = 0 ∨ 0 < cost ∧ cost < 1 / 2

theorem roundDecimal_nonneg {value : ℚ} (nonneg : 0 ≤ value) : 0 ≤ Payment.roundDecimal value := by
  unfold Payment.roundDecimal
  rw [if_pos nonneg, Int.floor_nonneg]
  linarith

theorem quotaFromDecimal_nonneg {value : ℚ} (nonneg : 0 ≤ value) : 0 ≤ quotaFromDecimal value := by
  have rounded := roundDecimal_nonneg nonneg
  unfold quotaFromDecimal maxQuota minQuota
  dsimp only
  split
  · omega
  · split <;> omega

theorem quotaFromDecimal_eq_zero_iff {value : ℚ} (nonneg : 0 ≤ value) : quotaFromDecimal value = 0 ↔ value < 1 / 2 := by
  have zero : quotaFromDecimal value = 0 ↔ Payment.roundDecimal value = 0 := by
    unfold quotaFromDecimal maxQuota minQuota
    dsimp only
    split
    · omega
    · split <;> omega
  rw [zero]
  unfold Payment.roundDecimal
  rw [if_pos nonneg, Int.floor_eq_zero_iff, Set.mem_Ico]
  constructor
  · rintro ⟨_, small⟩
    linarith
  · intro small
    constructor <;> linarith

/-- A turn with a ratio costs something, if only the unit that is set when nothing comes out. -/
theorem turnQuota_cases (plain : pricing.relayUsePrice = false) (usage : RealtimeUsage) :
    0 ≤ turnQuota ratios pricing usage ∧ (turnQuota ratios pricing usage = 0 ↔ Costless ratios pricing usage) := by
  unfold turnQuota calculateAudioQuota Costless
  simp only [plain, Bool.false_eq_true, if_false]
  generalize pricing.groupRatio * ratios.modelRatio pricing.originModelName = ratio
  generalize ratios.weigh pricing.originModelName usage = weight
  by_cases none : ratio = 0
  · have free : quotaFromDecimal 0 = 0 := (quotaFromDecimal_eq_zero_iff (le_refl 0)).mpr (by norm_num)
    simp [none, free]
  by_cases positive : 0 < weight * ratio
  · rw [if_neg fun both => absurd both.2 (not_le.mpr positive)]
    refine ⟨quotaFromDecimal_nonneg positive.le, ?_⟩
    rw [quotaFromDecimal_eq_zero_iff positive.le]
    simp [none, positive]
  rw [if_pos ⟨none, not_lt.mp positive⟩]
  refine ⟨quotaFromDecimal_nonneg zero_le_one, ?_⟩
  rw [quotaFromDecimal_eq_zero_iff zero_le_one]
  constructor
  · intro absurd
    norm_num at absurd
  · rintro (zero | ⟨cost, _⟩)
    · exact absurd zero none
    · exact absurd cost positive

end

open Semantics

inductive ClientMessage where
  | event (text audio : Nat)
  | closed

/-- What the upstream's reader gets. `responseDone` comes with a report or with the
tokens of the tools. -/
inductive TargetMessage where
  | responseDone (usage : RealtimeUsage)
  | unreportedDone (text audio : Nat)
  | session
  | event (text audio : Nat)
  | closed

/-- Where the upstream's reader stands in `preConsumeUsage` and after it. `reported`
tells the two counters apart. -/
inductive Target where
  | reading
  | summing (reported : Bool)
  | charging (reported : Bool)
  | clearing (reported : Bool)
  | forwarding | stopped
  deriving DecidableEq, Repr

/-- `kept` is the counter that the handler has given to `preConsumeUsage`, once the reader has put a new one in its
place. -/
inductive Main where
  | waiting
  | looking (reported : Bool)
  | summing (reported : Bool) (kept : Option RealtimeUsage)
  | charging (reported : Bool) (kept : Option RealtimeUsage)
  | settling | finished
  deriving DecidableEq, Repr

def Main.keep (cleared : Bool → Option RealtimeUsage) : Main → Main
  | .summing reported kept => .summing reported (kept.or (cleared reported))
  | .charging reported kept => .charging reported (kept.or (cleared reported))
  | main => main

/-- `charged` lists the turns that were charged. `recorded` is the quota of the consume
log, `usedQuota` what was added to the used-quota counters. -/
structure State where
  (usage localUsage sumUsage : RealtimeUsage)
  clientStopped : Bool
  target : Target
  main : Main
  ledger : Ledger
  billing : Option BillingSession
  charged : List RealtimeUsage
  recorded : Option Int
  usedQuota : Int

/-- `run` of a goroutine carries the balances it reads; `forward` whether the message
could be passed on. -/
inductive Event where
  | client (message : ClientMessage)
  | upstream (message : TargetMessage)
  | runTarget (balances : Balances)
  | forward (sent : Bool)
  | wake
  | runMain (balances : Balances)

namespace State

variable (state : State)

def turn (reported : Bool) : RealtimeUsage := if reported then state.usage else state.localUsage
def sum (usage : RealtimeUsage) : State := { state with sumUsage := state.sumUsage.add usage }
def countLocally (counted : RealtimeUsage) : State := { state with localUsage := state.localUsage.add counted }

def receive : TargetMessage → State
  | .responseDone usage => { state with usage := state.usage.add usage, target := .summing true }
  | .unreportedDone text audio => { state.countLocally (.input text audio) with target := .summing false }
  | .session => { state with target := .forwarding }
  | .event text audio => { state.countLocally (.output text audio) with target := .forwarding }
  | .closed => { state with target := .stopped }

/-- A finished turn is cleared; a report makes the local count of the turn void. -/
def clear (reported : Bool) : State :=
  { state with
    usage := if reported then .empty else state.usage
    localUsage := .empty
    main := state.main.keep fun counter => if counter && !reported then none else some (state.turn counter) }

end State

variable (settings : Settings) (ratios : Ratios) (pricing : Pricing) (relayInfo : RelayInfo)

def State.charge (state : State) (usage : RealtimeUsage) (balances : Balances) : Option String × State :=
  let (failure, ledger) :=
    preWssConsumeQuota settings ratios pricing relayInfo balances usage UpdatesApplied state.ledger
  (failure,
    { state with
      ledger
      charged := if failure = none ∧ pricing.relayUsePrice = false then state.charged ++ [usage] else state.charged })

def State.settle (state : State) : State :=
  let quota := sessionQuota ratios pricing state.sumUsage
  let (_, billing, ledger) := settleBilling relayInfo state.billing quota UpdatesApplied state.ledger
  { state with
    ledger, billing, recorded := some quota
    usedQuota := if state.sumUsage.totalTokens = 0 then state.usedQuota else state.usedQuota + quota
    main := .finished }

def step (state : State) : Event → Option State
  | .client message =>
    if state.clientStopped then none
    else
      match message with
      | .event text audio => some (state.countLocally (.input text audio))
      | .closed => some { state with clientStopped := true }
  | .upstream message =>
    match state.target with
    | .reading => some (state.receive message)
    | _ => none
  | .runTarget balances =>
    match state.target with
    | .summing reported => some { state.sum (state.turn reported) with target := .charging reported }
    | .charging reported =>
      let (failure, state) := state.charge settings ratios pricing relayInfo (state.turn reported) balances
      some { state with target := if failure = none then .clearing reported else .stopped }
    | .clearing reported => some { state.clear reported with target := .forwarding }
    | _ => none
  | .forward sent =>
    match state.target with
    | .forwarding => some { state with target := if sent then .reading else .stopped }
    | _ => none
  | .wake =>
    match state.main with
    | .waiting => some { state with main := .looking true }
    | _ => none
  | .runMain balances =>
    match state.main with
    | .looking reported =>
      if (state.turn reported).totalTokens ≠ 0 then some { state with main := .summing reported none }
      else some { state with main := if reported then .looking false else .settling }
    | .summing reported kept =>
      some { state.sum (kept.getD (state.turn reported)) with main := .charging reported kept }
    | .charging reported kept =>
      let (_, state) := state.charge settings ratios pricing relayInfo (kept.getD (state.turn reported)) balances
      some { state with main := if reported then .looking false else .settling }
    | .settling => some (state.settle ratios pricing relayInfo)
    | _ => none

def machine : Machine State Event := ⟨step settings ratios pricing relayInfo⟩

def State.opened (billing : Option BillingSession) (ledger : Ledger) : State :=
  { usage := .empty, localUsage := .empty, sumUsage := .empty, clientStopped := false, target := .reading
    main := .waiting, ledger, billing, charged := [], recorded := none, usedQuota := 0 }

end FlowAPI.Realtime
