import FlowAPI.Payment.Order

/-! Redemption codes: `Redeem` and `Update` of `model/redemption.go` and the edit in `controller/redemption.go`.

`Redeem` reads the code and then flips it from enabled to used with a compare-and-set; the two statements are separate
steps because the row lock is left out on SQLite. An administrator's edit reads the row, changes its name, quota and
expiry in memory, and later writes these columns back together with the status and the redemption time it has read. -/

set_option autoImplicit false
namespace FlowAPI.Payment.Redeem
open Semantics Wallet

inductive Status where
  | enabled | disabled | used
  deriving DecidableEq, Repr

structure Redemption where
  (id userId : Int)
  key : String
  status : Status
  name : String
  (quota createdTime redeemedTime usedUserId expiredTime : Int)
  deriving DecidableEq, Repr

inductive RedeemError where
  | missingKey | invalidUserId | invalidCode | alreadyUsed | expired
  | credit (error : Payment.Error)

def RedeemError.text : RedeemError → String
  | .missingKey => "未提供兑换码"
  | .invalidUserId => "无效的 user id"
  | .invalidCode => "无效的兑换码"
  | .alreadyUsed => "该兑换码已被使用"
  | .expired => "该兑换码已过期"
  | .credit error => error.text

/-- What the caller is told: whatever ends the transaction is one error outside. -/
def RedeemError.reported : RedeemError → String
  | .missingKey => RedeemError.missingKey.text
  | .invalidUserId => RedeemError.invalidUserId.text
  | _ => "redeem.failed"

def lookUp (key : String) (userId now : Int) (code : Redemption) : Except RedeemError Redemption :=
  if key = "" then .error .missingKey
  else if userId = 0 then .error .invalidUserId
  else if code.key ≠ key then .error .invalidCode
  else if code.status ≠ .enabled then .error .alreadyUsed
  else if code.expiredTime ≠ 0 ∧ code.expiredTime < now then .error .expired
  else .ok code

/-- The rest of `Redeem`; `copy` is the row its first statement has read. -/
def redeem (userId now : Int) (copy code : Redemption) (accounts : Accounts) :
    Except RedeemError (Redemption × Accounts) :=
  if code.status ≠ .enabled then .error .alreadyUsed
  else
    match creditTopUpQuota accounts userId copy.quota .none with
    | .error error => .error (.credit error)
    | .ok accounts => .ok ({ code with redeemedTime := now, status := .used, usedUserId := userId }, accounts)

inductive EditError where
  | quotaNotPositive | quotaExceedsWallet | expireTimeInvalid

def validateExpiredTime (expired now : Int) : Bool := !(expired ≠ 0 && expired < now)

def editCopy (name : String) (quota expiredTime now : Int) (code : Redemption) : Except EditError Redemption :=
  if quota ≤ 0 then .error .quotaNotPositive
  else if maxWalletQuota < quota then .error .quotaExceedsWallet
  else if !validateExpiredTime expiredTime now then .error .expireTimeInvalid
  else .ok { code with name, quota, expiredTime }

/-- `Redemption.Update`, which writes five columns of the copy. -/
def update (copy code : Redemption) : Except EditError Redemption :=
  if copy.quota ≤ 0 then .error .quotaNotPositive
  else if maxWalletQuota < copy.quota then .error .quotaExceedsWallet
  else .ok { code with
    name := copy.name, status := copy.status, quota := copy.quota, redeemedTime := copy.redeemedTime
    expiredTime := copy.expiredTime }

inductive Pending where
  | redeem (userId : Int) (copy : Redemption)
  | edit (copy : Redemption)
  deriving DecidableEq, Repr

structure State where
  code : Redemption
  ledger : Ledger
  pending : List Pending
  deriving DecidableEq

inductive Event where
  | lookUp (key : String) (userId now : Int)
  | read (name : String) (quota expiredTime now : Int)
  | run (index : Nat) (now : Int)
  | adjust (userId amount : Int)

def runPending (now : Int) (state : State) : Pending → State
  | .redeem userId copy =>
    match redeem userId now copy state.code state.ledger.accounts with
    | .error _ => state
    | .ok (code, accounts) =>
      { state with code, ledger := state.ledger.record accounts (.credited userId copy.quota) }
  | .edit copy =>
    match update copy state.code with
    | .error _ => state
    | .ok code => { state with code }

def step (state : State) : Event → Option State
  | .lookUp key userId now =>
    match lookUp key userId now state.code with
    | .error _ => some state
    | .ok copy => some { state with pending := state.pending ++ [.redeem userId copy] }
  | .read name quota expiredTime now =>
    match editCopy name quota expiredTime now state.code with
    | .error _ => some state
    | .ok copy => some { state with pending := state.pending ++ [.edit copy] }
  | .run index now =>
    (state.pending[index]?).map fun job =>
      { runPending now state job with pending := Pool.replace state.pending index [] }
  | .adjust userId amount =>
    some { state with
      ledger := state.ledger.record (adjust state.ledger.accounts userId amount) (.adjusted userId amount) }

def machine : Machine State Event := ⟨step⟩
def State.opened (code : Redemption) (accounts : Accounts) : State :=
  { code, ledger := .opened accounts, pending := [] }

/-- An edit is written while the code still has the status the edit has read. -/
def Current (state : State) : Event → Prop
  | .run index _ => ∀ copy, state.pending[index]? = some (.edit copy) → copy.status = state.code.status
  | _ => True

instance : DecidableRel Current
  | state, .run index _ =>
    match selected : state.pending[index]? with
    | some (.edit copy) => decidable_of_iff (copy.status = state.code.status) (by simp [Current, selected])
    | some (.redeem _ _) | none => isTrue (by simp [Current, selected])
  | _, .lookUp _ _ _ | _, .read _ _ _ _ | _, .adjust _ _ => inferInstanceAs (Decidable True)

variable {copy code after : Redemption}

theorem redeem_ok {userId now : Int} {accounts accounts' : Accounts}
    (redeemed : redeem userId now copy code accounts = .ok (after, accounts')) :
    code.status = .enabled ∧ after.status = .used ∧ Credited accounts accounts' userId copy.quota := by
  unfold redeem at redeemed
  split_ifs at redeemed with enabled
  split at redeemed <;> cases redeemed
  next credited => exact ⟨not_not.mp enabled, rfl, creditTopUpQuota_ok credited⟩

theorem update_ok (updated : update copy code = .ok after) : after.status = copy.status := by
  unfold update at updated
  split at updated
  next => cases updated
  split at updated <;> cases updated
  next => rfl

structure State.Single (initially : Accounts) (state : State) : Prop where
  once : state.ledger.credits ≤ 1
  used : state.ledger.credits ≠ 0 → state.code.status = .used
  balanced : state.ledger.Balanced initially

theorem runPending_single (now : Int) {initially : Accounts} {state : State} {job : Pending}
    (single : state.Single initially) (current : ∀ copy, job = .edit copy → copy.status = state.code.status) :
    (runPending now state job).Single initially := by
  cases job with simp only [runPending]
  | redeem =>
    split
    next => exact single
    next code _ redeemed =>
      obtain ⟨enabled, used, credited⟩ := redeem_ok redeemed
      -- the compare-and-set has found the code enabled
      have none : state.ledger.credits = 0 := by
        by_contra some
        rw [single.used some] at enabled
        cases enabled
      refine ⟨?_, fun _ => used, single.balanced.record credited.balances (.inl rfl)⟩
      simp [none, Entry.isCredit]
  | edit copy =>
    split
    next => exact single
    next _ updated =>
      refine ⟨single.once, fun credited => ?_, single.balanced⟩
      rw [update_ok updated, current copy rfl]
      exact single.used credited

theorem step_single {initially : Accounts} {state next : State} {event : Event}
    (single : state.Single initially) (current : Current state event)
    (stepped : step state event = some next) : next.Single initially := by
  cases event with
  | lookUp | read =>
    simp only [step] at stepped
    split at stepped <;> cases stepped <;> exact ⟨single.once, single.used, single.balanced⟩
  | run _ now =>
    obtain ⟨_, selected, rfl⟩ := Option.map_eq_some_iff.mp stepped
    have kept := runPending_single now single fun copy same => current copy (same ▸ selected)
    exact ⟨kept.once, kept.used, kept.balanced⟩
  | adjust =>
    cases stepped
    refine ⟨?_, ?_, single.balanced.record (balance_adjust _ _ _) (.inr rfl)⟩
    · simpa [Entry.isCredit] using single.once
    · simpa [Entry.isCredit] using single.used

/-- One code is credited at most once, and the balances hold exactly what was
credited and adjusted, when no edit writes back a status the code has left. -/
theorem code_credited_at_most_once {code : Redemption} {accounts : Accounts} {final : State} {events : List Event}
    (run : machine.Runs Current (.opened code accounts) events final) :
    final.ledger.credits ≤ 1 ∧ final.ledger.Balanced accounts := by
  have initially : (State.opened code accounts).Single accounts :=
    ⟨Nat.zero_le 1, fun credited => absurd rfl credited, Ledger.opened_balanced accounts⟩
  have single := run.invariant (State.Single accounts)
    (fun _ _ _ held current stepped => step_single held current stepped) initially
  exact ⟨single.once, single.balanced⟩

def sampleCode : Redemption :=
  { id := 1, userId := 1, key := "code", status := .enabled, name := "gift", quota := 100, createdTime := 5
    redeemedTime := 0, usedUserId := 0, expiredTime := 0 }

def sampleAccounts : Accounts where
  rows := [⟨1, 0, "", ""⟩, ⟨2, 0, "", ""⟩]
  unique := by decide

def editedFirst : List Event :=
  [.read "gift" 200 0 10, .run 0 11, .lookUp "code" 1 12, .lookUp "code" 2 12, .run 0 13, .run 0 14]
def editedFirstFinal : State :=
  (machine.exec Current (.opened sampleCode sampleAccounts) editedFirst).getD (.opened sampleCode sampleAccounts)

theorem code_credited_at_most_once_edited :
    editedFirstFinal.ledger.log = [.credited 1 200] ∧ editedFirstFinal.ledger.credits ≤ 1 := by
  have run : machine.Runs Current (.opened sampleCode sampleAccounts) editedFirst editedFirstFinal :=
    Machine.runs_iff_exec.mpr (by decide)
  exact ⟨by decide, (code_credited_at_most_once run).1⟩

/-- The edit reads an enabled code, user 1 redeems it, the edit writes the
status back, and user 2 redeems it again. -/
theorem edit_revives_used_code :
    ((machine.exec Machine.unrestricted (.opened sampleCode sampleAccounts)
      [.read "gift" 100 0 10, .lookUp "code" 1 11, .run 1 11, .run 0 12, .lookUp "code" 2 13, .run 0 13]).map
      (·.ledger.log)) = some [.credited 1 100, .credited 2 100] := by
  decide

end FlowAPI.Payment.Redeem
