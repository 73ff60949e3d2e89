import FlowAPI.Batch.Accumulator
import FlowAPI.Semantics.Machine
import FlowAPI.Semantics.Pool
import FlowAPI.User.Cache

/-! Every operation on one user's wallet, cut at its accesses to shared storage.

A call becomes a job. Running a job performs one Redis command, one database statement or one locked section, and
leaves the jobs that remain of the call. A `credit` is the transaction of a top-up or of `Redeem`, which both end in
`creditTopUpQuota`. -/

set_option autoImplicit false
namespace FlowAPI.Wallet
open Batch Semantics User Pool

def maxWalletQuota : Int := 2 ^ 53 - 1

structure Config where
  (redisEnabled batchUpdateEnabled : Bool)
  quotaPerUnit : Int

structure UserRow extends UserBase where
  affQuota : Int
  deriving DecidableEq, Repr

inductive Resume where
  | finish
  | reserve (amount : Int)
  deriving DecidableEq, Repr

/-- `reserve` to `retry` are the two scripts of `TryReserveUserQuota` with the hydration between them, `reserveRow` is
its database fallback, `persist` and `compensate` follow an accepted reservation. `debit` is what is left of
`DecreaseUserQuota` once its goroutine has started. -/
inductive Job where
  | reserve (amount : Int)
  | lookup (resume : Resume)
  | lookupFloor (resume : Resume) (authVersion : Int)
  | readRow (resume : Resume)
  | checkFloor (resume : Resume) (snapshot : UserBase)
  | publish (resume : Resume) (snapshot : UserBase)
  | retry (amount : Int)
  | reserveRow (amount : Int)
  | persist (amount : Int)
  | compensate (amount : Int)
  | increase (amount : Int) (db : Bool)
  | debit (amount : Int) (db : Bool)
  | cacheDelta (delta : Int)
  | credit (amount : Int)
  | transferAffQuota (amount : Int)
  | flush
  | applyFlush (delta : Int)
  deriving DecidableEq, Repr

/-- `store` is the accumulator of this user, `granted` the sum of the reservations
that have returned success. -/
structure State where
  keys : UserKeys
  row : UserRow
  store : Option Int
  jobs : List Job
  granted : Int
  deriving DecidableEq, Repr

variable (state : State)

def State.setHash (hash : Option UserHash) : State := { state with keys := { state.keys with hash } }
def State.addRow (delta : Int) : State := { state with row := { state.row with quota := state.row.quota + delta } }
def State.record (delta : Int) : State := { state with store := some (addNewRecord state.store delta) }
def State.grant (amount : Int) : State := { state with granted := state.granted + amount }

def Resume.hydrated : Resume → List Job
  | .finish => []
  | .reserve amount => [.retry amount]

def Resume.failed : Resume → List Job
  | .finish => []
  | .reserve amount => [.reserveRow amount]

def tryScript (amount : Int) (onMiss : List Job) : State × List Job :=
  match userQuotaReserveScript state.keys.hash amount state.row.id with
  | (.miss, _) => (state, onMiss)
  | (.insufficient, _) => (state, [])
  | (.ok, hash) => (state.setHash hash, [.persist amount])

def cacheApplyUserQuotaDelta (delta : Int) : State :=
  state.setHash (userQuotaDeltaScript state.keys.hash delta state.row.id).2

variable (config : Config)

/-- Run one job. With `fault` its Redis command or database statement fails;
the accumulators live in memory and never do. -/
def runJob (fault : Bool) (state : State) : Job → State × List Job
  | .reserve amount =>
    if fault then (state, [.reserveRow amount])
    else tryScript state amount [.lookup (.reserve amount)]
  | .lookup resume =>
    if fault || !config.redisEnabled then (state, [.readRow resume])
    else
      match readUserHash state.row.id state.keys.hash with
      | none => (state, [.readRow resume])
      | some user => (state, [.lookupFloor resume user.authVersion])
  | .lookupFloor resume authVersion =>
    if fault || decide (authVersion < getUserAuthVersionFloor state.keys) then (state, [.readRow resume])
    else (state, resume.hydrated)
  | .readRow resume =>
    if fault then (state, resume.failed)
    else if config.redisEnabled then (state, [.checkFloor resume state.row.toUserBase])
    else (state, resume.hydrated)
  | .checkFloor resume snapshot =>
    -- an unreadable floor does not stop the publication
    if !fault && decide (snapshot.authVersion < getUserAuthVersionFloor state.keys) then (state, resume.failed)
    else (state, [.publish resume snapshot])
  | .publish resume snapshot =>
    if fault then (state, resume.hydrated)
    else
      match populateUserCache snapshot state.keys with
      | (.pending, _) => (state, resume.failed)
      | (_, keys) => ({ state with keys }, resume.hydrated)
  | .retry amount => if fault then (state, [.reserveRow amount]) else tryScript state amount [.reserveRow amount]
  | .reserveRow amount =>
    if fault then (state, [])
    else if amount ≤ state.row.quota then ((state.addRow (-amount)).grant amount, [])
    else (state, [])
  | .persist amount =>
    if config.batchUpdateEnabled then ((state.record (-amount)).grant amount, [])
    else if fault then (state, [.compensate amount])
    else ((state.addRow (-amount)).grant amount, [])
  | .compensate amount => if fault then (state, []) else (cacheApplyUserQuotaDelta state amount, [])
  | .increase amount db =>
    if !db && config.batchUpdateEnabled then (state.record amount, [.cacheDelta amount])
    else if !fault && decide (state.row.quota ≤ maxWalletQuota - amount) then
      (state.addRow amount, [.cacheDelta amount])
    else (state, [])
  | .debit amount db =>
    if !db && config.batchUpdateEnabled then (state.record (-amount), [])
    else if fault then (state, [])
    else (state.addRow (-amount), [])
  | .cacheDelta delta =>
    if fault || !config.redisEnabled then (state, []) else (cacheApplyUserQuotaDelta state delta, [])
  | .credit amount =>
    if !fault && decide (state.row.quota ≤ maxWalletQuota - amount) then (state.addRow amount, [.cacheDelta amount])
    else (state, [])
  | .transferAffQuota amount =>
    if !fault && decide (amount ≤ state.row.affQuota) then
      ({ state.addRow amount with
          row := { (state.addRow amount).row with affQuota := state.row.affQuota - amount } }, [])
    else (state, [])
  | .flush =>
    match state.store with
    | none => (state, [])
    | some delta => ({ state with store := none }, [.applyFlush delta])
  | .applyFlush delta => if fault then (state, []) else (state.addRow delta, [])

inductive Operation where
  | tryReserveUserQuota (quota : Int)
  | getUserCache
  | increaseUserQuota (quota : Int) (db : Bool)
  | decreaseUserQuota (quota : Int) (db : Bool)
  | creditTopUpQuota (quota : Int)
  | transferAffQuotaToQuota (quota : Int)
  | batchUpdate

def Operation.start : Operation → List Job
  | .tryReserveUserQuota quota =>
    -- a negative amount is an error, a reservation of zero succeeds at once
    if quota ≤ 0 then [] else if config.redisEnabled then [.reserve quota] else [.reserveRow quota]
  | .getUserCache => [.lookup .finish]
  | .increaseUserQuota quota db => if quota < 0 ∨ maxWalletQuota < quota then [] else [.increase quota db]
  | .decreaseUserQuota quota db => if quota < 0 then [] else [.cacheDelta (-quota), .debit quota db]
  | .creditTopUpQuota quota => if quota ≤ 0 ∨ maxWalletQuota < quota then [] else [.credit quota]
  | .transferAffQuotaToQuota quota => if quota < config.quotaPerUnit then [] else [.transferAffQuota quota]
  | .batchUpdate => [.flush]

inductive Event where
  | call (operation : Operation)
  | run (index : Nat) (fault : Bool)
  | expire

def step (state : State) : Event → Option State
  | .call operation => some { state with jobs := state.jobs ++ operation.start config }
  | .run index fault =>
    (state.jobs[index]?).map fun job =>
      let (after, next) := runJob config fault state job
      { after with jobs := replace state.jobs index next }
  | .expire => some (state.setHash none)

def machine : Machine State Event := ⟨step config⟩

/-! ## What the pending jobs owe

Cache increments issued and not applied, reservations accepted and not recorded,
debits started and not recorded, and deltas a flush has taken and not written.
-/

@[simp] def Job.cacheInFlight : Job → Int
  | .cacheDelta delta => delta
  | .compensate amount => amount
  | _ => 0

@[simp] def Job.reservationOwed : Job → Int
  | .persist amount => amount
  | _ => 0

@[simp] def Job.debitOwed : Job → Int
  | .debit amount _ => amount
  | _ => 0

@[simp] def Job.batchTaken : Job → Int
  | .applyFlush delta => delta
  | _ => 0

def Job.Idle (job : Job) : Prop :=
  job.cacheInFlight = 0 ∧ job.reservationOwed = 0 ∧ job.debitOwed = 0 ∧ job.batchTaken = 0

def State.cachedQuota : Option Int := guardedQuota state.row.id state.keys.hash
def State.cacheInFlight (state : State) : Int := total Job.cacheInFlight state.jobs
def State.reservationsOwed : Int := total Job.reservationOwed state.jobs
def State.debitsOwed : Int := total Job.debitOwed state.jobs
def State.pendingBatch : Int := state.store.getD 0 + total Job.batchTaken state.jobs

def State.balance : Int := state.row.quota + state.pendingBatch - state.reservationsOwed - state.debitsOwed

def State.opened (row : UserRow) : State :=
  { keys := { hash := some { stampHash row.toUserBase .empty with quota := some row.quota }, fence := none
              version := some row.authVersion }
    row
    store := none
    jobs := []
    granted := 0 }

def sampleRow (quota affQuota : Int) : UserRow :=
  { id := 1, group := "default", email := "", quota, unlimitedQuota := false, status := 1, role := 1
    username := "user", setting := "", authVersion := 1, affQuota }

def redisBatch : Config := { redisEnabled := true, batchUpdateEnabled := true, quotaPerUnit := 500000 }

end FlowAPI.Wallet
