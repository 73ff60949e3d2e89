import FlowAPI.Realtime.Machine

/-! What a realtime session takes from wallet and token, and what it counts: every report once, and once the local count
of every turn without a report.

The session is settled at the quota of its whole usage, and every turn was charged
before. So what is taken is the recorded quota and the charges of the turns on top. -/

set_option autoImplicit false
namespace FlowAPI.Realtime
open Billing Semantics Machine List

section
variable {settings : Settings} {ratios : Ratios} {pricing : Pricing} {relayInfo : RelayInfo} {isPlayground : Bool}

structure WalletFunded (relayInfo : RelayInfo) (isPlayground : Bool) : Prop where
  limited : relayInfo.userUnlimitedQuota = false
  source : relayInfo.billingSource ≠ some .unlimited
  playground : relayInfo.isPlayground = isPlayground

theorem WalletFunded.postConsumeQuota (funded : WalletFunded relayInfo isPlayground) (amount quota : Int) :
    postConsumeQuota relayInfo quota UpdatesApplied (charge false isPlayground amount) =
      (none, charge false isPlayground (amount + quota)) := by
  have wallet : ¬ (relayInfo.userUnlimitedQuota = true ∨ relayInfo.billingSource = some .unlimited) := by
    rintro (unlimited | unlimited)
    · rw [funded.limited] at unlimited
      cases unlimited
    · exact funded.source unlimited
  rw [← charge_raise]
  unfold Realtime.postConsumeQuota
  rw [if_neg wallet, funded.playground]
  cases isPlayground <;> simp [UpdatesApplied]

def turnCharges (ratios : Ratios) (pricing : Pricing) (charged : List RealtimeUsage) : Int :=
  (charged.map (turnQuota ratios pricing)).sum

def Holds (isPlayground : Bool) (relayInfo : RelayInfo) (held : Int) : Option BillingSession → Prop
  | some session =>
    session.settled = false ∧ session.fundingSettled = false ∧ session.funding.Holds false held ∧
      session.relayInfo.isPlayground = isPlayground ∧ session.preConsumedQuota = held
  | none => relayInfo.finalPreConsumedQuota = held

/-- The ledger shows what is held, or what was recorded, and the charges of the turns. -/
structure Accounted (ratios : Ratios) (pricing : Pricing) (relayInfo : RelayInfo) (isPlayground : Bool) (state : State) :
    Prop where
  before : state.recorded = none → state.main ≠ .finished ∧ state.usedQuota = 0 ∧ ∃ held,
    Holds isPlayground relayInfo held state.billing ∧
      state.ledger = charge false isPlayground (held + turnCharges ratios pricing state.charged)
  after : ∀ {quota}, state.recorded = some quota → state.main = .finished ∧ state.usedQuota = quota ∧
    state.ledger = charge false isPlayground (quota + turnCharges ratios pricing state.charged)
  plain : state.charged ≠ [] → pricing.relayUsePrice = false

section
variable {state next : State} (accounted : Accounted ratios pricing relayInfo isPlayground state)
include accounted

theorem Accounted.frame (ledger : next.ledger = state.ledger) (billing : next.billing = state.billing)
    (charged : next.charged = state.charged) (recorded : next.recorded = state.recorded)
    (used : next.usedQuota = state.usedQuota)
    (main : next.main = .finished ↔ state.main = .finished) : Accounted ratios pricing relayInfo isPlayground next where
  before := by
    rw [recorded, used, ledger, billing, charged]
    intro none
    obtain ⟨unfinished, rest⟩ := accounted.before none
    exact ⟨fun finished => unfinished (main.mp finished), rest⟩
  after := by
    intro quota
    rw [recorded, used, ledger, charged]
    intro some
    obtain ⟨finished, rest⟩ := accounted.after some
    exact ⟨main.mpr finished, rest⟩
  plain := by
    rw [charged]
    exact accounted.plain

variable (funded : WalletFunded relayInfo isPlayground)
include funded

theorem Accounted.charge (settings : Settings) (usage : RealtimeUsage) (balances : Balances) :
    Accounted ratios pricing relayInfo isPlayground
        (state.charge settings ratios pricing relayInfo usage balances).2 ∧
      (state.charge settings ratios pricing relayInfo usage balances).2.main = state.main := by
  refine ⟨?_, rfl⟩
  unfold State.charge preWssConsumeQuota
  dsimp only
  by_cases fixed : pricing.relayUsePrice = true
  · rw [if_pos fixed]
    refine accounted.frame rfl rfl ?_ rfl rfl Iff.rfl
    simp [fixed]
  have plain : pricing.relayUsePrice = false := Bool.eq_false_iff.mpr fixed
  rw [if_neg fixed]
  cases insufficient settings relayInfo balances (turnQuota ratios pricing usage) with
  | some =>
    refine accounted.frame rfl rfl ?_ rfl rfl Iff.rfl
    simp
  | none =>
    have charged : ∀ amount, state.ledger =
          Billing.charge false isPlayground (amount + turnCharges ratios pricing state.charged) →
        Realtime.postConsumeQuota relayInfo (turnQuota ratios pricing usage) UpdatesApplied state.ledger =
          (none, Billing.charge false isPlayground
            (amount + turnCharges ratios pricing (state.charged ++ [usage]))) := by
      intro amount ledger
      rw [ledger, funded.postConsumeQuota]
      simp [turnCharges, add_assoc]
    refine ⟨fun none => ?_, fun {quota} some => ?_, fun _ => plain⟩
    · obtain ⟨unfinished, used, held, holds, ledger⟩ := accounted.before none
      refine ⟨unfinished, used, held, holds, ?_⟩
      simp [charged held ledger, plain]
    · obtain ⟨finished, used, ledger⟩ := accounted.after some
      refine ⟨finished, used, ?_⟩
      simp [charged quota ledger, plain]

theorem Accounted.settle (settling : state.main = .settling) :
    Accounted ratios pricing relayInfo isPlayground (state.settle ratios pricing relayInfo) := by
  have unrecorded : state.recorded = none := by
    cases recorded : state.recorded with
    | none => rfl
    | some =>
      have finished := (accounted.after recorded).1
      rw [settling] at finished
      cases finished
  obtain ⟨_, used, held, holds, ledger⟩ := accounted.before unrecorded
  have settled : ∀ quota, (settleBilling relayInfo state.billing quota UpdatesApplied state.ledger).2.2 =
      Billing.charge false isPlayground (quota + turnCharges ratios pricing state.charged) := by
    intro quota
    have total : held + turnCharges ratios pricing state.charged + (quota - held) =
        quota + turnCharges ratios pricing state.charged := by omega
    unfold settleBilling
    cases billing : state.billing with rw [billing] at holds
    | some session =>
      obtain ⟨unsettled, uncommitted, funding, playground, amount⟩ := holds
      have moved := settle_applied unsettled uncommitted funding playground state.ledger quota
      show (session.settle quota UpdatesApplied state.ledger).2.2 = _
      rw [moved, ledger, amount, charge_raise, total]
    | none =>
      have amount : relayInfo.finalPreConsumedQuota = held := holds
      dsimp only
      rw [amount]
      split
      · rw [ledger, funded.postConsumeQuota, total]
      next _ =>
        have equal : quota = held := by omega
        rw [ledger, equal]
  refine ⟨fun none => ?_, fun {quota} some => ?_, accounted.plain⟩
  · cases none
  · cases some
    refine ⟨rfl, ?_, settled _⟩
    show (if state.sumUsage.totalTokens = 0 then state.usedQuota else _) = sessionQuota ratios pricing state.sumUsage
    split
    next nothing => rw [used, sessionQuota, if_pos nothing]
    · rw [used, zero_add]

theorem Accounted.step {event : Event}
    (stepped : Realtime.step settings ratios pricing relayInfo state event = some next) :
    Accounted ratios pricing relayInfo isPlayground next := by
  cases event with simp only [Realtime.step] at stepped
  | client message =>
    split_ifs at stepped
    cases message <;> cases stepped <;> exact accounted.frame rfl rfl rfl rfl rfl Iff.rfl
  | upstream message =>
    split at stepped
    · cases message <;> cases stepped <;> exact accounted.frame rfl rfl rfl rfl rfl Iff.rfl
    · cases stepped
  | runTarget balances =>
    split at stepped <;> cases stepped
    · exact accounted.frame rfl rfl rfl rfl rfl Iff.rfl
    next reported _ => exact (accounted.charge funded settings _ balances).1.frame rfl rfl rfl rfl rfl Iff.rfl
    -- the handler may keep an old counter, but goes on from where it was
    · refine accounted.frame rfl rfl rfl rfl rfl ?_
      cases main : state.main <;> simp [State.clear, main, Main.keep]
  | forward =>
    split at stepped <;> cases stepped
    · exact accounted.frame rfl rfl rfl rfl rfl Iff.rfl
  | wake =>
    split at stepped <;> cases stepped
    next waiting => exact accounted.frame rfl rfl rfl rfl rfl (by simp [waiting])
  | runMain balances =>
    split at stepped <;> try cases stepped
    next reported looking =>
      split at stepped <;> cases stepped
      · exact accounted.frame rfl rfl rfl rfl rfl (by simp [looking])
      · refine accounted.frame rfl rfl rfl rfl rfl ?_
        cases reported <;> simp [looking]
    next reported _ summing => exact accounted.frame rfl rfl rfl rfl rfl (by simp [summing])
    next reported _ charging =>
      obtain ⟨charged, main⟩ := accounted.charge funded settings _ balances
      refine charged.frame rfl rfl rfl rfl rfl ?_
      rw [main, charging]
      cases reported <;> simp
    next settling => exact accounted.settle funded settling

def Begun (isPlayground : Bool) (relayInfo : RelayInfo) (billing : Option BillingSession) (ledger : Ledger) : Prop :=
  match billing with
  | some session => Open false isPlayground session ledger
  | none => relayInfo.finalPreConsumedQuota = 0 ∧ ledger = .untouched

end

theorem sum_eq_zero_iff {charged : List RealtimeUsage} (plain : charged ≠ [] → pricing.relayUsePrice = false) :
    turnCharges ratios pricing charged = 0 ↔ ∀ usage ∈ charged, Costless ratios pricing usage := by
  by_cases empty : charged = []
  · simp [empty, turnCharges]
  have priced : ∀ usage, 0 ≤ turnQuota ratios pricing usage ∧
      (turnQuota ratios pricing usage = 0 ↔ Costless ratios pricing usage) := turnQuota_cases (plain empty)
  have nonneg : ∀ quota ∈ charged.map (turnQuota ratios pricing), 0 ≤ quota := by
    intro quota member
    obtain ⟨usage, _, rfl⟩ := mem_map.mp member
    exact (priced usage).1
  constructor
  · intro zero usage member
    have free : turnQuota ratios pricing usage = 0 :=
      all_zero_of_le_zero_le_of_sum_eq_zero nonneg zero (mem_map_of_mem member)
    exact (priced usage).2.mp free
  · intro costless
    refine sum_eq_zero fun quota member => ?_
    obtain ⟨usage, listed, rfl⟩ := mem_map.mp member
    exact (priced usage).2.mpr (costless usage listed)

/-- When a wallet-funded session has been settled, the counters show the recorded quota,
and what was taken from wallet and token is the recorded quota exactly when no turn was
charged anything. -/
theorem realtime_taken_iff {billing : Option BillingSession} {ledger : Ledger}
    (funded : WalletFunded relayInfo isPlayground) (begun : Begun isPlayground relayInfo billing ledger)
    {events : List Event} {final : State} {quota : Int}
    (run : (machine settings ratios pricing relayInfo).Runs unrestricted (.opened billing ledger) events final)
    (recorded : final.recorded = some quota) :
    final.usedQuota = quota ∧ (final.ledger = Billing.charge false isPlayground quota ↔
        ∀ usage ∈ final.charged, Costless ratios pricing usage) := by
  have initially : Accounted ratios pricing relayInfo isPlayground (.opened billing ledger) := by
    refine ⟨fun _ => ⟨fun finished => ?_, rfl, ?_⟩, fun {quota} absurd => ?_, fun absurd => (absurd rfl).elim⟩
    · cases finished
    rotate_left
    · cases absurd
    cases billing with
    | some session =>
      have opened : Open false isPlayground session ledger := begun
      refine ⟨session.preConsumedQuota, ⟨opened.unsettled, opened.uncommitted, opened.funding, opened.playground, rfl⟩, ?_⟩
      show ledger = _
      rw [opened.ledger]
      exact congrArg _ (add_zero _).symm
    | none =>
      obtain ⟨nothing, untouched⟩ := begun
      refine ⟨0, nothing, ?_⟩
      rw [untouched]
      cases isPlayground <;> rfl
  have accounted := run.invariant (Accounted ratios pricing relayInfo isPlayground)
    (fun state event next kept _ stepped => kept.step funded stepped) initially
  obtain ⟨_, used, taken⟩ := accounted.after recorded
  refine ⟨used, ?_⟩
  rw [← sum_eq_zero_iff accounted.plain, taken]
  constructor
  · intro same
    have wallet := congrArg Ledger.wallet same
    simp only [Billing.charge, Bool.false_eq_true, if_false] at wallet
    omega
  · intro zero
    rw [zero, add_zero]

end

def sampleInfo : RelayInfo :=
  { isPlayground := false, tokenUnlimited := false, forcePreConsume := false, userUnlimitedQuota := false, userQuota := 500
    quotaClamp := none, finalPreConsumedQuota := 10, billingSource := some .wallet }

def sampleSession : BillingSession :=
  { relayInfo := sampleInfo, funding := .wallet 10, preConsumedQuota := 10, tokenConsumed := 10, extraReserved := 0
    trusted := false, fundingSettled := false, settled := false, refunded := false }

def sampleRatios (modelRatio : ℚ) : Ratios := ⟨fun _ => modelRatio, fun _ => 1, fun _ => 1, fun _ => 1, 500000⟩
def samplePricing (modelRatio : ℚ) : Pricing := ⟨false, "realtime", "realtime", false, 0, modelRatio, 1, none⟩
def sampleSettings : Settings := ⟨500, 0, fun _ => ""⟩
def samplePaid : Balances := ⟨.ok 500, .ok (false, 500)⟩

def sampleTurn : List Event :=
  [.upstream (.responseDone (.input 3 0)), .runTarget samplePaid, .runTarget samplePaid, .runTarget samplePaid,
    .forward true]

def sampleEnd : List Event :=
  [.upstream .closed, .wake, .runMain samplePaid, .runMain samplePaid, .runMain samplePaid]

theorem realtime_taken_iff_small :
    ∃ final, (machine sampleSettings (sampleRatios (1 / 10)) (samplePricing (1 / 10)) sampleInfo).Runs unrestricted
        (.opened (some sampleSession) ⟨10, 10⟩) (sampleTurn ++ sampleTurn ++ sampleEnd) final ∧
      final.recorded = some 1 ∧ final.usedQuota = 1 ∧ final.ledger = ⟨1, 1⟩ := by
  have summary : ((machine sampleSettings (sampleRatios (1 / 10)) (samplePricing (1 / 10)) sampleInfo).exec
      unrestricted (.opened (some sampleSession) ⟨10, 10⟩) (sampleTurn ++ sampleTurn ++ sampleEnd)).map
        (fun final => (final.recorded, final.charged)) = some (some 1, [.input 3 0, .input 3 0]) := by decide +kernel
  obtain ⟨final, executed, seen⟩ := Option.map_eq_some_iff.mp summary
  obtain ⟨recorded, charged⟩ : final.recorded = some 1 ∧ final.charged = [.input 3 0, .input 3 0] := by simpa using seen
  have run := runs_iff_exec.mpr executed
  have begun : Begun false sampleInfo (some sampleSession) ⟨10, 10⟩ :=
    ⟨rfl, rfl, rfl, rfl, by decide, rfl, ⟨rfl, rfl⟩, rfl⟩
  obtain ⟨used, taken⟩ := realtime_taken_iff ⟨rfl, by decide, rfl⟩ begun run recorded
  refine ⟨final, run, recorded, used, taken.mpr fun usage member => ?_⟩
  rw [charged] at member
  have turn : usage = .input 3 0 := by simpa using member
  rw [turn]
  exact .inr (by decide +kernel)

/-- At ratio one the turn of three tokens is charged, and the session settles at three. -/
theorem realtime_turn_charged_twice :
    ((machine sampleSettings (sampleRatios 1) (samplePricing 1) sampleInfo).exec unrestricted
        (.opened (some sampleSession) ⟨10, 10⟩) (sampleTurn ++ sampleEnd)).map
      (fun final => (final.recorded, final.usedQuota, final.ledger)) = some (some 3, 3, ⟨6, 6⟩) := by
  decide +kernel

open RealtimeUsage

/-- `counted` holds the finished turns, `current` what was counted here since. -/
structure Tally where
  (counted current : RealtimeUsage)

namespace Tally

def after (tally : Tally) : Event → Tally
  | .client (.event text audio) => { tally with current := tally.current.add (.input text audio) }
  | .upstream (.event text audio) => { tally with current := tally.current.add (.output text audio) }
  | .upstream (.responseDone usage) => ⟨tally.counted.add usage, .empty⟩
  | .upstream (.unreportedDone text audio) => ⟨tally.counted.add (tally.current.add (.input text audio)), .empty⟩
  | _ => tally

def total (tally : Tally) : RealtimeUsage := tally.counted.add tally.current

end Tally

def tallied (events : List Event) : RealtimeUsage := (events.foldl Tally.after ⟨.empty, .empty⟩).total

variable (usage : RealtimeUsage)

@[simp] theorem RealtimeUsage.add_empty : usage.add .empty = usage := by
  simp [add, empty]
@[simp] theorem RealtimeUsage.empty_add : empty.add usage = usage := by
  simp [add, empty]

/-- Tokens counted here are never negative, so a zero total is an empty count. -/
def CountedHere : Prop :=
  ∃ inText inAudio outText outAudio : Nat, usage = (input inText inAudio).add (.output outText outAudio)

namespace CountedHere

variable {usage : RealtimeUsage}

theorem empty : CountedHere .empty := ⟨0, 0, 0, 0, rfl⟩

theorem add (counted : CountedHere usage) (inText inAudio outText outAudio : Nat) :
    CountedHere (usage.add ((input inText inAudio).add (.output outText outAudio))) := by
  obtain ⟨text, audio, text', audio', rfl⟩ := counted
  refine ⟨text + inText, audio + inAudio, text' + outText, audio' + outAudio, ?_⟩
  simp only [RealtimeUsage.add, input, output, RealtimeUsage.mk.injEq]
  omega

theorem eq_empty (counted : CountedHere usage) (zero : usage.totalTokens = 0) : usage = .empty := by
  obtain ⟨_, _, _, _, rfl⟩ := counted
  simp only [RealtimeUsage.add, input, output, RealtimeUsage.empty, RealtimeUsage.mk.injEq] at zero ⊢
  omega

end CountedHere

theorem CountedHere.after {tally : Tally} (counted : CountedHere tally.current) (event : Event) :
    CountedHere (tally.after event).current := by
  unfold Tally.after
  split
  next text audio => simpa [RealtimeUsage.add, output] using counted.add text audio 0 0
  next text audio => simpa [RealtimeUsage.add, input] using counted.add 0 0 text audio
  · exact .empty
  · exact .empty
  · exact counted

def Target.between : Target → Bool
  | .reading | .forwarding | .stopped => true
  | _ => false

section

variable (settings : Settings) (ratios : Ratios) (pricing : Pricing) (relayInfo : RelayInfo)

/-- No reader goes on once the handler has woken, the client counts nothing and the
handler does not wake while a turn is being closed, and every turn can be charged. -/
def Undisturbed (state : State) : Event → Prop
  | .client _ => state.main = .waiting ∧ state.target.between = true
  | .upstream _ | .forward _ => state.main = .waiting
  | .runTarget balances =>
    state.main = .waiting ∧ ∀ reported, state.target = .charging reported →
      (state.charge settings ratios pricing relayInfo (state.turn reported) balances).1 = none
  | .wake => state.target.between = true
  | .runMain _ => True

instance : DecidableRel (Undisturbed settings ratios pricing relayInfo) := fun _ _ => by
  unfold Undisturbed
  split <;> infer_instance

end

/-- The counters against the tally, by where reader and handler stand. -/
def Agrees (state : State) (tally : Tally) : Prop :=
  match state.main, state.target with
  | .waiting, .summing reported =>
    state.sumUsage.add (state.turn reported) = tally.counted ∧ tally.current = .empty ∧
      (reported = false → state.usage = .empty)
  | .waiting, .charging reported | .waiting, .clearing reported =>
    state.sumUsage = tally.counted ∧ tally.current = .empty ∧ (reported = false → state.usage = .empty)
  | .waiting, _ | .looking _, _ | .summing false none, _ =>
    state.sumUsage = tally.counted ∧ state.localUsage = tally.current ∧ state.usage = .empty
  | .summing _ _, _ | .charging true _, _ => False
  | _, _ => state.sumUsage = tally.total

variable {settings : Settings} {ratios : Ratios} {pricing : Pricing} {relayInfo : RelayInfo}

theorem Agrees.step {state next : State} {tally : Tally} {event : Event} (agrees : Agrees state tally)
    (counted : CountedHere tally.current) (calm : Undisturbed settings ratios pricing relayInfo state event)
    (stepped : Realtime.step settings ratios pricing relayInfo state event = some next) :
    Agrees next (tally.after event) := by
  obtain ⟨usage, _, _, _, target, main, _, _, _, _, _⟩ := state
  cases event with
  | client message =>
    obtain ⟨rfl, between⟩ := calm
    simp only [Realtime.step] at stepped
    split_ifs at stepped
    cases target <;> cases between
    all_goals
      obtain ⟨rfl, rfl, rfl⟩ := agrees
      cases message <;> cases stepped <;> exact ⟨rfl, rfl, rfl⟩
  | upstream message =>
    cases calm
    cases target <;> cases stepped
    obtain ⟨rfl, rfl, rfl⟩ := agrees
    cases message with
    | responseDone usage => exact ⟨congrArg _ (empty_add usage), rfl, by simp⟩
    | unreportedDone => exact ⟨rfl, rfl, fun _ => rfl⟩
    | session | event | closed => exact ⟨rfl, rfl, rfl⟩
  | runTarget balances =>
    obtain ⟨rfl, paid⟩ := calm
    cases target with
    | reading | forwarding | stopped => cases stepped
    | summing reported =>
      cases stepped
      exact agrees
    | charging reported =>
      simp only [Realtime.step, paid reported rfl, if_true] at stepped
      cases stepped
      exact agrees
    | clearing reported =>
      obtain ⟨rfl, none, unreported⟩ := agrees
      cases stepped
      refine ⟨rfl, none.symm, ?_⟩
      cases reported with
      | true => rfl
      | false => exact unreported rfl
  | forward sent =>
    cases calm
    cases target <;> cases stepped
    cases sent <;> exact agrees
  | wake =>
    cases main <;> cases stepped
    cases target <;> first | exact agrees | cases calm
  | runMain balances =>
    cases main with
    | waiting | finished => cases stepped
    | looking reported =>
      obtain ⟨rfl, rfl, rfl⟩ := agrees
      cases reported with
      | true =>
        cases stepped
        exact ⟨rfl, rfl, rfl⟩
      | false =>
        simp only [Realtime.step, State.turn, Bool.false_eq_true, if_false] at stepped
        split at stepped
        · cases stepped; exact ⟨rfl, rfl, rfl⟩
        next zero =>
          cases stepped
          -- the rest is not charged, but there is none
          have nothing := counted.eq_empty (not_not.mp zero)
          show tally.counted = tally.counted.add tally.current
          rw [nothing, add_empty]
    | summing reported kept =>
      cases reported with
      | true => exact agrees.elim
      | false =>
        cases kept with
        | some usage => exact agrees.elim
        | none =>
          obtain ⟨rfl, rfl, -⟩ := agrees
          cases stepped
          rfl
    | charging reported =>
      cases reported with
      | true => exact agrees.elim
      | false =>
        cases stepped
        exact agrees
    | settling =>
      cases stepped
      exact agrees

/-- A session whose readers are not in each other's way and whose turns can all be
charged returns what its events add up to. -/
theorem usage_counted_once {billing : Option BillingSession} {ledger : Ledger} {events : List Event} {final : State}
    (run : (machine settings ratios pricing relayInfo).Runs (Undisturbed settings ratios pricing relayInfo)
      (.opened billing ledger) events final)
    (returned : final.main = .settling) : final.sumUsage = tallied events := by
  have initially : Agrees (.opened billing ledger) ⟨.empty, .empty⟩ ∧ CountedHere .empty := ⟨⟨rfl, rfl, rfl⟩, .empty⟩
  obtain ⟨agrees, _⟩ := run.tracked Tally.after (fun state tally => Agrees state tally ∧ CountedHere tally.current)
    (fun state event next _ kept calm stepped => ⟨kept.1.step kept.2 calm stepped, kept.2.after event⟩) initially
  unfold Agrees at agrees
  rw [returned] at agrees
  exact agrees

def sampleTalk : List Event :=
  .client (.event 2 0) :: sampleTurn ++ [.client (.event 4 0), .upstream (.unreportedDone 1 0), .runTarget samplePaid,
    .runTarget samplePaid, .runTarget samplePaid, .forward true, .client (.event 5 0)] ++ sampleEnd ++ [.runMain samplePaid]

theorem usage_counted_once_talk : ∃ final, (machine sampleSettings (sampleRatios 1) (samplePricing 1) sampleInfo).Runs
        (Undisturbed sampleSettings (sampleRatios 1) (samplePricing 1) sampleInfo) (.opened none .untouched) sampleTalk final ∧
      final.main = .settling ∧ final.sumUsage = .input 13 0 := by
  have ended : ((machine sampleSettings (sampleRatios 1) (samplePricing 1) sampleInfo).exec
      (Undisturbed sampleSettings (sampleRatios 1) (samplePricing 1) sampleInfo) (.opened none .untouched) sampleTalk).map
        State.main = some .settling := by decide +kernel
  obtain ⟨final, executed, settling⟩ := Option.map_eq_some_iff.mp ended
  have run := Machine.runs_iff_exec.mpr executed
  exact ⟨final, run, settling, usage_counted_once run settling⟩

def unpaidTalk : List Event :=
  let empty : Balances := ⟨.ok 0, .ok (false, 0)⟩
  [.upstream (.responseDone (.input 3 0)), .runTarget empty, .runTarget empty, .wake, .runMain empty, .runMain empty,
    .runMain empty, .runMain empty]

/-- A report that cannot be charged is summed by the reader and again by the handler. -/
theorem failed_charge_counted_twice :
    ((machine sampleSettings (sampleRatios 1) (samplePricing 1) sampleInfo).exec Machine.unrestricted
        (.opened none .untouched) unpaidTalk).map (fun final => (final.main, final.sumUsage)) =
      some (.settling, .input 6 0) ∧ tallied unpaidTalk = .input 3 0 := by
  decide +kernel

end FlowAPI.Realtime
