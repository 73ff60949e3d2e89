import FlowAPI.Billing.Lifecycle
import FlowAPI.Semantics.Machine
import FlowAPI.Semantics.Pool

/-! Any number of `Settle` and `Refund` calls on one session, in any order.

The goroutine of a refund runs its two updates between other calls. Four phases
describe every such run: nothing has happened, the session was settled, it was
refunded, or it was refunded and charged again. The last one exists because
`Settle` looks at `settled` only.
-/

set_option autoImplicit false
namespace FlowAPI.Billing
open Semantics Machine BillingSession

inductive Call where
  | settle (actual : Int)
  | refund
  deriving DecidableEq, Repr

inductive Event where
  | call (call : Call)
  | run (index : Nat)

structure System where
  session : BillingSession
  ledger : Ledger
  jobs : List RefundJob
  deriving DecidableEq, Repr

def step (system : System) : Event → Option System
  | .call (.settle actual) =>
    let settled := system.session.settle actual UpdatesApplied system.ledger
    some { system with session := settled.2.1, ledger := settled.2.2 }
  | .call .refund =>
    let refunded := system.session.refund
    some { system with session := refunded.1, jobs := system.jobs ++ refunded.2 }
  | .run index =>
    (system.jobs[index]?).map fun job =>
      let paid := system.session.runRefundJob .applied system.ledger job
      { system with ledger := paid.1, jobs := Pool.replace system.jobs index paid.2 }

def machine : Machine System Event := ⟨step⟩

def Event.calls (events : List Event) : List Call :=
  events.filterMap fun
    | .call issued => some issued
    | .run _ => none

def alone (session : BillingSession) (ledger : Ledger) : Call → Ledger
  | .settle actual => (session.settle actual UpdatesApplied ledger).2.2
  | .refund => (session.refundCompletely .applied ledger).2

inductive Phase where
  | opened
  | settled (actual : Int)
  | refunded
  | recharged (actual : Int)
  deriving DecidableEq, Repr

open Phase
variable (held : Int)

def Phase.next : Phase → Call → Phase
  | .opened, .settle actual => .settled actual
  | .opened, .refund => if 0 < held then .refunded else .opened
  | .refunded, .settle actual => .recharged actual
  | phase, _ => phase

def Phase.after (phase : Phase) : Event → Phase
  | .call call => phase.next held call
  | .run _ => phase

def halfReturned (unlimited isPlayground : Bool) (held base : Int) : Ledger :=
  ⟨(charge unlimited isPlayground base).wallet, (charge unlimited isPlayground (base + held)).token⟩

inductive Returning (unlimited isPlayground : Bool) (held base : Int) : List RefundJob → Ledger → Prop where
  | started : Returning unlimited isPlayground held base [.returnFunding held isPlayground]
      (charge unlimited isPlayground (base + held))
  | funded : Returning unlimited isPlayground held base [.returnToken held isPlayground]
      (halfReturned unlimited isPlayground held base)
  | done : Returning unlimited isPlayground held base [] (charge unlimited isPlayground base)

structure Refunded (unlimited isPlayground : Bool) (held : Int) (session : BillingSession) : Prop where
  refunded : session.refunded = true
  playground : session.relayInfo.isPlayground = isPlayground
  amount : session.preConsumedQuota = held
  positive : 0 < held
  funding : session.funding.Holds unlimited held

inductive Matches (unlimited isPlayground : Bool) (held : Int) : System → Phase → Prop where
  | opened {session : BillingSession} {ledger : Ledger} : Open unlimited isPlayground session ledger →
      session.preConsumedQuota = held → Matches unlimited isPlayground held ⟨session, ledger, []⟩ .opened
  | settled {session : BillingSession} (actual : Int) : session.settled = true → session.refunded = false →
      Matches unlimited isPlayground held ⟨session, charge unlimited isPlayground actual, []⟩ (.settled actual)
  | refunded {session : BillingSession} {ledger : Ledger} {jobs : List RefundJob} :
      Refunded unlimited isPlayground held session → session.settled = false →
      session.fundingSettled = false → Returning unlimited isPlayground held 0 jobs ledger →
      Matches unlimited isPlayground held ⟨session, ledger, jobs⟩ .refunded
  | recharged {session : BillingSession} {ledger : Ledger} {jobs : List RefundJob} (actual : Int) :
      Refunded unlimited isPlayground held session → session.settled = true →
      Returning unlimited isPlayground held (actual - held) jobs ledger →
      Matches unlimited isPlayground held ⟨session, ledger, jobs⟩ (.recharged actual)

variable {unlimited isPlayground : Bool} {session : BillingSession} {ledger : Ledger}

section
variable {held base : Int} {jobs : List RefundJob}

theorem halfReturned_raise (delta : Int) :
    ((halfReturned unlimited isPlayground held base).takeWallet (if unlimited then 0 else delta)).takeToken
      (if isPlayground then 0 else delta) = halfReturned unlimited isPlayground held (base + delta) := by
  cases unlimited <;> cases isPlayground <;>
    simp [halfReturned, charge, Ledger.takeWallet, Ledger.takeToken, add_right_comm]

section
variable (returning : Returning unlimited isPlayground held base jobs ledger)
include returning

theorem Returning.raise (delta : Int) : Returning unlimited isPlayground held (base + delta) jobs
      ((ledger.takeWallet (if unlimited then 0 else delta)).takeToken (if isPlayground then 0 else delta)) := by
  cases returning with
  | started =>
    rw [charge_raise, add_right_comm]
    exact .started
  | funded =>
    rw [halfReturned_raise]
    exact .funded
  | done =>
    rw [charge_raise]
    exact .done

theorem Returning.run (refunded : Refunded unlimited isPlayground held session) {index : Nat} {job : RefundJob}
    (selected : jobs[index]? = some job) : Returning unlimited isPlayground held base
      (Pool.replace jobs index (session.runRefundJob .applied ledger job).2)
      (session.runRefundJob .applied ledger job).1 := by
  cases returning with
  | started =>
    obtain ⟨rfl, rfl⟩ : index = 0 ∧ job = .returnFunding held isPlayground := by cases index <;> simp_all
    have paid : session.funding.refund .applied (charge unlimited isPlayground (base + held)) =
        halfReturned unlimited isPlayground held base := by
      rw [Funding.refund_applied refunded.funding refunded.positive]
      cases unlimited <;> simp [halfReturned, charge, Ledger.takeWallet]
    simp only [runRefundJob, paid]
    exact .funded
  | funded =>
    obtain ⟨rfl, rfl⟩ : index = 0 ∧ job = .returnToken held isPlayground := by cases index <;> simp_all
    have paid : (session.runRefundJob .applied (halfReturned unlimited isPlayground held base)
        (.returnToken held isPlayground)) = (charge unlimited isPlayground base, []) := by
      cases isPlayground <;>
        simp [runRefundJob, refunded.positive, halfReturned, charge, Ledger.takeToken]
    rw [paid]
    exact .done
  | done => simp at selected

end

theorem refund_closed (closed : session.settled = true ∨ session.refunded = true) : session.refund = (session, []) := by
  unfold refund
  rw [if_pos]
  tauto

theorem settle_settled (settled : session.settled = true) (actual : Int) :
    session.settle actual UpdatesApplied ledger = (none, session, ledger) := by
  unfold settle
  rw [if_pos settled]

variable {event : Event}

theorem Open.step_kept {next : System} (opened : Open unlimited isPlayground session ledger)
    (amount : session.preConsumedQuota = held) (stepped : step ⟨session, ledger, []⟩ event = some next) :
    Matches unlimited isPlayground held next (after held .opened event) := by
  cases event with
  | call issued =>
    cases issued with
    | settle actual =>
      cases stepped
      simp only [opened.settle actual]
      exact .settled actual rfl opened.unrefunded
    | refund =>
      cases stepped
      rcases eq_or_lt_of_le opened.nonneg with empty | positive
      · have still : after held .opened (.call .refund) = .opened := by
          simp [after, next, ← amount, ← empty]
        rw [still, opened.refund_empty empty.symm]
        exact .opened opened amount
      have moved : after held .opened (.call .refund) = .refunded := by
        simp [after, next, ← amount, positive]
      have start : charge unlimited isPlayground (0 + held) = ledger := by rw [opened.ledger, amount, zero_add]
      rw [moved, opened.refund_held positive]
      simp only [amount, List.nil_append, ← start]
      exact .refunded ⟨rfl, opened.playground, rfl, amount ▸ positive, amount ▸ opened.funding⟩
        opened.unsettled opened.uncommitted .started
  | run => simp [step] at stepped

theorem Refunded.step_kept {next : System} (refunded : Refunded unlimited isPlayground held session)
    (unsettled : session.settled = false) (uncommitted : session.fundingSettled = false)
    (returning : Returning unlimited isPlayground held 0 jobs ledger)
    (stepped : step ⟨session, ledger, jobs⟩ event = some next) :
    Matches unlimited isPlayground held next (after held .refunded event) := by
  cases event with
  | call issued =>
    cases issued with
    | settle actual =>
      -- `Settle` does not look at `refunded`
      have closed := settle_applied unsettled uncommitted refunded.funding refunded.playground ledger actual
      have raised := returning.raise (actual - held)
      rw [zero_add] at raised
      cases stepped
      simp only [closed, refunded.amount]
      exact .recharged actual ⟨refunded.refunded, refunded.playground, rfl, refunded.positive,
        refunded.funding⟩ rfl raised
    | refund =>
      cases stepped
      rw [refund_closed (.inr refunded.refunded)]
      simp only [List.append_nil]
      exact .refunded refunded unsettled uncommitted returning
  | run =>
    obtain ⟨_, selected, rfl⟩ := Option.map_eq_some_iff.mp stepped
    exact .refunded refunded unsettled uncommitted (returning.run refunded selected)

theorem settled_call (settled : session.settled = true) (issued : Call) :
    step ⟨session, ledger, jobs⟩ (.call issued) = some ⟨session, ledger, jobs⟩ := by
  cases issued with
  | settle => simp only [step, settle_settled settled]
  | refund => simp [step, refund_closed (.inl settled)]

theorem Matches.step_kept {system next : System} {phase : Phase}
    (matched : Matches unlimited isPlayground held system phase) (stepped : step system event = some next) :
    Matches unlimited isPlayground held next (phase.after held event) := by
  cases matched with
  | opened opened amount => exact opened.step_kept amount stepped
  | settled actual settled refunded =>
    cases event with
    | call =>
      rw [settled_call settled] at stepped
      cases stepped
      exact .settled actual settled refunded
    | run => simp [step] at stepped
  | refunded refunded unsettled uncommitted returning =>
    exact refunded.step_kept unsettled uncommitted returning stepped
  | recharged actual refunded settled returning =>
    cases event with
    | call =>
      rw [settled_call settled] at stepped
      cases stepped
      exact .recharged actual refunded settled returning
    | run =>
      obtain ⟨_, selected, rfl⟩ := Option.map_eq_some_iff.mp stepped
      exact .recharged actual refunded settled (returning.run refunded selected)

end

def firstSettle : List Call → Option Int
  | [] => none
  | .settle actual :: _ => some actual
  | .refund :: rest => firstSettle rest

theorem foldl_settled (held actual : Int) (calls : List Call) :
    calls.foldl (next held) (.settled actual) = .settled actual := by
  induction calls with
  | nil => rfl
  | cons _ _ ih => exact ih

theorem foldl_recharged (held actual : Int) (calls : List Call) :
    calls.foldl (next held) (.recharged actual) = .recharged actual := by
  induction calls with
  | nil => rfl
  | cons _ _ ih => exact ih

theorem foldl_refunded (calls : List Call) :
    calls.foldl (next held) .refunded = (firstSettle calls).elim .refunded .recharged := by
  induction calls with
  | nil => rfl
  | cons call rest ih =>
    cases call with
    | settle actual => exact foldl_recharged held actual rest
    | refund => exact ih

theorem foldl_opened_empty {held : Int} (empty : held ≤ 0) (calls : List Call) :
    calls.foldl (next held) .opened = (firstSettle calls).elim .opened .settled := by
  induction calls with
  | nil => rfl
  | cons call rest ih =>
    cases call with
    | settle actual => exact foldl_settled held actual rest
    | refund =>
      rw [List.foldl_cons, next, if_neg (not_lt.mpr empty)]
      exact ih

theorem foldl_after (phase : Phase) (events : List Event) :
    events.foldl (after held) phase = (Event.calls events).foldl (next held) phase := by
  induction events generalizing phase with
  | nil => rfl
  | cons event _ ih =>
    cases event with
    | call | run => exact ih _

theorem Event.calls_append (front : List Event) (issued : Call) (back : List Event) :
    calls (front ++ .call issued :: back) = calls front ++ issued :: calls back := by
  simp [calls]

variable {calls : List Call}

theorem firstSettle_mem {actual : Int} (first : firstSettle calls = some actual) : .settle actual ∈ calls := by
  induction calls with
  | nil => cases first
  | cons call _ ih =>
    cases call with
    | settle =>
      cases first
      exact List.mem_cons_self
    | refund => exact List.mem_cons_of_mem _ (ih first)

theorem foldl_opened (calls : List Call) : calls.foldl (next held) .opened =
      if 0 < held ∧ calls.head? = some .refund then (firstSettle calls).elim .refunded .recharged
      else (firstSettle calls).elim .opened .settled := by
  rcases le_or_gt held 0 with empty | positive
  · simp [foldl_opened_empty empty, not_lt.mpr empty]
  rcases calls with _ | ⟨_ | _, _⟩ <;>
    simp [next, positive, foldl_settled, foldl_refunded, firstSettle]

theorem phase_recharged_iff {held actual : Int} : calls.foldl (next held) .opened = .recharged actual ↔
      0 < held ∧ calls.head? = some .refund ∧ firstSettle calls = some actual := by
  rw [foldl_opened]
  split_ifs with entered <;> cases firstSettle calls <;> simp_all

theorem head_refund (issued : calls ≠ []) (first : firstSettle calls = none) : calls.head? = some .refund := by
  rcases calls with _ | ⟨_ | _, _⟩ <;> simp_all [firstSettle]

theorem recharge_point {held actual : Int} (events : List Event) {phase : Phase}
    (reached : events.foldl (after held) phase = .recharged actual) :
    phase = .recharged actual ∨ ∃ front back, events = front ++ .call (.settle actual) :: back ∧
      front.foldl (after held) phase = .refunded := by
  induction events generalizing phase with
  | nil => exact .inl reached
  | cons event rest ih =>
    rcases ih reached with entered | ⟨front, back, rfl, before⟩
    · cases event with
      | run => exact .inl entered
      | call issued =>
        cases phase with
        | opened =>
          cases issued with
          | settle => cases entered
          | refund =>
            simp only [after, next] at entered
            split at entered <;> cases entered
        | settled => cases entered
        | refunded =>
          cases issued with
          | settle =>
            cases entered
            exact .inr ⟨[], rest, rfl, rfl⟩
          | refund => cases entered
        | recharged => exact .inl entered
    · exact .inr ⟨event :: front, back, rfl, before⟩

/-- The total effect is that of one of the calls, a refunded session is not
charged or credited, and a settled one is not refunded. -/
structure Exclusive (session : BillingSession) (ledger : Ledger) (events : List Event) (final : System) :
    Prop where
  one : Event.calls events ≠ [] → ∃ call ∈ Event.calls events, final.ledger = alone session ledger call
  uncharged : ∀ front actual back middle, events = front ++ .call (.settle actual) :: back →
    machine.Runs unrestricted ⟨session, ledger, []⟩ front middle →
    middle.session.refunded = true →
    (middle.session.settle actual UpdatesApplied middle.ledger).2.2 = middle.ledger
  unrefunded : ∀ front back middle, events = front ++ .call .refund :: back →
    machine.Runs unrestricted ⟨session, ledger, []⟩ front middle →
    middle.session.settled = true → middle.session.refund = (middle.session, [])

/-- The calls that charge a refunded session: an effective refund comes first and
the first `Settle` after it differs from what was held, on an account in use. -/
def ChargedAfterRefund (session : BillingSession) (calls : List Call) : Prop :=
  0 < session.preConsumedQuota ∧ calls.head? = some .refund ∧
    ∃ actual, firstSettle calls = some actual ∧ actual ≠ session.preConsumedQuota ∧
      (session.funding ≠ .unlimited ∨ session.relayInfo.isPlayground = false)

section
variable {events : List Event} {final : System}

theorem take_same_iff (delta : Int) :
    (ledger.takeWallet (if unlimited then 0 else delta)).takeToken (if isPlayground then 0 else delta) = ledger ↔
      delta = 0 ∨ unlimited = true ∧ isPlayground = true := by
  cases unlimited <;> cases isPlayground <;> simp [Ledger.ext_iff, Ledger.takeWallet, Ledger.takeToken]

theorem Refunded.settle_same_iff {held : Int} (refunded : Refunded unlimited isPlayground held session)
    (unsettled : session.settled = false) (uncommitted : session.fundingSettled = false) (actual : Int) :
    (session.settle actual UpdatesApplied ledger).2.2 = ledger ↔
      actual = held ∨ unlimited = true ∧ isPlayground = true := by
  rw [settle_applied unsettled uncommitted refunded.funding refunded.playground, take_same_iff,
    refunded.amount, sub_eq_zero]

variable (opened : Open unlimited isPlayground session ledger)
include opened

theorem Open.accounts : (session.funding ≠ .unlimited ∨ session.relayInfo.isPlayground = false) ↔
      ¬(unlimited = true ∧ isPlayground = true) := by
  rcases opened.funding.sources with ⟨source, rfl⟩ | ⟨source, rfl⟩ <;> simp [source, opened.playground]

theorem Open.charged_iff (calls : List Call) : ChargedAfterRefund session calls ↔
      ∃ actual, calls.foldl (next session.preConsumedQuota) .opened = .recharged actual ∧
        ¬(actual = session.preConsumedQuota ∨ unlimited = true ∧ isPlayground = true) := by
  simp only [ChargedAfterRefund, opened.accounts, phase_recharged_iff]
  constructor
  · rintro ⟨positive, first, actual, settles, different, accounts⟩
    exact ⟨actual, ⟨positive, first, settles⟩, fun harmless => harmless.elim different accounts⟩
  · rintro ⟨actual, ⟨positive, first, settles⟩, harmful⟩
    exact ⟨positive, first, actual, settles, fun same => harmful (.inl same), fun idle => harmful (.inr idle)⟩

variable (run : machine.Runs unrestricted ⟨session, ledger, []⟩ events final)
include run

theorem Open.matches_run : Matches unlimited isPlayground session.preConsumedQuota final
      ((Event.calls events).foldl (next session.preConsumedQuota) .opened) := by
  rw [← foldl_after]
  exact run.tracked (after session.preConsumedQuota) (Matches unlimited isPlayground session.preConsumedQuota)
    (fun _ _ _ _ matched _ stepped => matched.step_kept stepped) (.opened opened rfl)

theorem Open.uncharged_iff : (∀ front actual back middle, events = front ++ .call (.settle actual) :: back →
      machine.Runs unrestricted ⟨session, ledger, []⟩ front middle → middle.session.refunded = true →
      (middle.session.settle actual UpdatesApplied middle.ledger).2.2 = middle.ledger) ↔
    ¬ChargedAfterRefund session (Event.calls events) := by
  rw [opened.charged_iff]
  constructor
  · rintro uncharged ⟨actual, reached, harmful⟩
    rw [← foldl_after] at reached
    rcases recharge_point events reached with entered | ⟨front, back, rfl, before⟩
    · cases entered
    obtain ⟨middle, toMiddle, _⟩ := run.split
    have matched := opened.matches_run toMiddle
    rw [← foldl_after, before] at matched
    cases matched with
    | refunded refunded unsettled uncommitted =>
      have same := uncharged front actual back _ rfl toMiddle refunded.refunded
      exact harmful ((refunded.settle_same_iff unsettled uncommitted actual).mp same)
  · rintro safe front actual _ _ rfl toMiddle already
    have matched := opened.matches_run toMiddle
    generalize phaseEq : (Event.calls front).foldl (next session.preConsumedQuota) .opened = phase at matched
    cases matched with
    | opened opened =>
      rw [opened.unrefunded] at already
      cases already
    | settled _ _ unrefunded =>
      rw [unrefunded] at already
      cases already
    | refunded refunded unsettled uncommitted =>
      refine (refunded.settle_same_iff unsettled uncommitted actual).mpr ?_
      by_contra harmful
      refine safe ⟨actual, ?_, harmful⟩
      rw [Event.calls_append, List.foldl_append, phaseEq]
      exact foldl_recharged _ _ _
    | recharged _ _ settled => rw [settle_settled settled]

theorem Open.one_effect (finished : final.jobs = [])
    (safe : ¬ChargedAfterRefund session (Event.calls events)) (issued : Event.calls events ≠ []) :
    ∃ call ∈ Event.calls events, final.ledger = alone session ledger call := by
  have matched := opened.matches_run run
  have refundAlone : alone session ledger .refund = charge unlimited isPlayground 0 := by
    rw [charge_zero]
    exact opened.refundCompletely
  generalize phase : (Event.calls events).foldl (next session.preConsumedQuota) .opened = reached at matched
  rw [foldl_opened] at phase
  split_ifs at phase with entered
  · have member := List.mem_of_head? entered.2
    cases first : firstSettle (Event.calls events) with
    | none =>
      rw [first] at phase
      subst phase
      cases matched with
      | refunded _ _ _ returning =>
        cases finished
        cases returning
        exact ⟨_, member, refundAlone.symm⟩
    | some actual =>
      -- a settlement that charges something after the refund is excluded
      have harmless : actual = session.preConsumedQuota ∨ unlimited = true ∧ isPlayground = true := by
        by_contra harmful
        exact safe ((opened.charged_iff _).mpr ⟨actual, phase_recharged_iff.mpr ⟨entered.1, entered.2, first⟩, harmful⟩)
      rw [first] at phase
      subst phase
      cases matched with
      | recharged _ _ _ returning =>
        cases finished
        cases returning
        refine ⟨_, member, refundAlone.symm ▸ ?_⟩
        rcases harmless with same | ⟨rfl, rfl⟩
        · rw [same, sub_self]
        · rfl
  · cases first : firstSettle (Event.calls events) with
    | none =>
      have refunds := head_refund issued first
      have nothing : session.preConsumedQuota = 0 :=
        le_antisymm (not_lt.mp fun positive => entered ⟨positive, refunds⟩) opened.nonneg
      rw [first] at phase
      subst phase
      cases matched with
      | opened still amount => exact ⟨_, List.mem_of_head? refunds, by rw [refundAlone, still.ledger, amount, nothing]⟩
    | some actual =>
      rw [first] at phase
      subst phase
      cases matched with
      | settled => exact ⟨_, firstSettle_mem first, (congrArg Prod.snd (opened.settle actual)).symm⟩

end

/-- Exactly one of the calls takes effect unless a refunded session is settled
at another amount than the one it held. -/
theorem exclusive_iff_not_charged_after_refund (settings : Settings) (relayInfo : RelayInfo) (quota : Int)
    (fates : OpenFates) (session : BillingSession) (ledger : Ledger)
    (opened : preConsumeBilling settings quota relayInfo fates .untouched = (.ok session, ledger))
    (reserves : List (Int × ReserveFates)) (rollbacks : ∀ reserve ∈ reserves, reserve.2.rollback = .applied)
    (events : List Event) (final : System)
    (run : machine.Runs unrestricted
      ⟨(reserveAll settings session ledger reserves).1, (reserveAll settings session ledger reserves).2, []⟩
      events final) (finished : final.jobs = []) :
    Exclusive (reserveAll settings session ledger reserves).1 (reserveAll settings session ledger reserves).2
      events final ↔
    ¬ChargedAfterRefund (reserveAll settings session ledger reserves).1 (Event.calls events) := by
  have held := (preConsumeBilling_open opened).reserveAll settings rollbacks
  constructor
  · intro exclusive
    exact (held.uncharged_iff run).mp exclusive.uncharged
  · intro safe
    exact ⟨held.one_effect run finished safe, (held.uncharged_iff run).mpr safe,
      fun _ _ _ _ _ settled => refund_closed (.inl settled)⟩

def settledThenRefunded : List Event := [.call (.settle 12), .call .refund, .call (.settle 30)]
def settledTwelve : System := ⟨{ heldTen with fundingSettled := true, settled := true }, ⟨12, 12⟩, []⟩

theorem exclusive_iff_not_charged_after_refund_settled :
    Exclusive heldTen ⟨10, 10⟩ settledThenRefunded settledTwelve ↔
      ¬ChargedAfterRefund heldTen (Event.calls settledThenRefunded) := by
  have run : machine.Runs unrestricted ⟨heldTen, ⟨10, 10⟩, []⟩ settledThenRefunded settledTwelve :=
    runs_iff_exec.mpr (by decide)
  exact exclusive_iff_not_charged_after_refund plainSettings walletInfo 10 openingGranted heldTen ⟨10, 10⟩ rfl []
    (by simp) settledThenRefunded settledTwelve run rfl

/-- A request that held 10 is refunded and then settled at 15. Wallet and token
end up charged with 5, which neither call does alone. -/
theorem settle_charges_refunded_session :
    let events : List Event := [.call .refund, .run 0, .run 0, .call (.settle 15)]
    preConsumeBilling plainSettings 10 walletInfo openingGranted .untouched = (.ok heldTen, ⟨10, 10⟩) ∧
    ∃ final, machine.Runs unrestricted ⟨heldTen, ⟨10, 10⟩, []⟩ events final ∧ final.jobs = [] ∧
      final.ledger = ⟨5, 5⟩ ∧ ¬Exclusive heldTen ⟨10, 10⟩ events final := by
  refine ⟨rfl, _, runs_iff_exec.mpr rfl, rfl, rfl, fun exclusive => ?_⟩
  obtain ⟨call, _, _⟩ := exclusive.one (by decide)
  revert call
  decide

end FlowAPI.Billing
