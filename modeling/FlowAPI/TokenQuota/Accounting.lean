import FlowAPI.Batch.Accumulator
import FlowAPI.Semantics.Machine
import FlowAPI.Semantics.Pool
import FlowAPI.User.Cache

/-! One API token: its row, its Redis hash, the calls that change its quota, and what the row is worth once they are
over.

`model/quota_reserve.go`, `model/token.go` and `model/token_cache.go` are cut at their accesses to Redis and the
database as the wallet is. An edit reads the row, changes a few columns in memory, raises the fence, drops the hash
and writes the columns of its copy, `remain_quota` among them. A hash is only ever created with all its fields.

Each job moves the row, the accumulator and the reported sums together, except for the write of an edit, which sets
the row. -/

set_option autoImplicit false
namespace FlowAPI.TokenQuota
open Batch Semantics
open User (CacheQuotaResult)

inductive TokenStatus where
  | enabled | disabled | expired | exhausted
  | other (code : Int)
  deriving DecidableEq, Repr

structure Token where
  (id userId : Int)
  key : String
  status : TokenStatus
  name : String
  (createdTime accessedTime expiredTime remainQuota : Int)
  (unlimitedQuota modelLimitsEnabled : Bool)
  (modelLimits allowIps : String)
  usedQuota : Int
  group : String
  crossGroupRetry : Bool
  autoGroups : String
  deriving DecidableEq, Repr

def Token.shift (delta now : Int) (token : Token) : Token :=
  { token with
    remainQuota := token.remainQuota + delta, usedQuota := token.usedQuota - delta, accessedTime := now }

def tokenQuotaReserveScript (hash : Option Token) (amount tokenId now : Int) : CacheQuotaResult × Option Token :=
  match hash with
  | none => (.miss, none)
  | some token =>
    if token.id ≠ tokenId then (.miss, hash)
    else if token.remainQuota < amount then (.insufficient, hash)
    else (.ok, some (token.shift (-amount) now))

def tokenQuotaDeltaScript (hash : Option Token) (delta tokenId now : Int) : CacheQuotaResult × Option Token :=
  match hash with
  | none => (.miss, none)
  | some token => if token.id ≠ tokenId then (.miss, hash) else (.ok, some (token.shift delta now))

def cacheInitToken (snapshot : Token) (fence : Bool) (hash : Option Token) : Option Token :=
  if fence then hash else some (hash.getD snapshot)

inductive Edit where
  | status (status : TokenStatus)
  | disableModelLimits
  deriving DecidableEq, Repr

def Edit.copy (now : Int) (row : Token) : Edit → Option Token
  | .status target =>
    if target = .enabled ∧ row.status = .expired ∧ row.expiredTime ≤ now ∧ row.expiredTime ≠ -1 then none
    else if target = .enabled ∧ row.status = .exhausted ∧ row.remainQuota ≤ 0 ∧ ¬ row.unlimitedQuota then none
    else some { row with status := target }
  | .disableModelLimits => some { row with modelLimitsEnabled := false, modelLimits := "" }

def updateToken (copy row : Token) : Token :=
  { row with
    name := copy.name, status := copy.status, expiredTime := copy.expiredTime, remainQuota := copy.remainQuota
    unlimitedQuota := copy.unlimitedQuota, modelLimitsEnabled := copy.modelLimitsEnabled
    modelLimits := copy.modelLimits, allowIps := copy.allowIps, group := copy.group
    crossGroupRetry := copy.crossGroupRetry, autoGroups := copy.autoGroups }

structure Config where
  (redisEnabled batchUpdateEnabled : Bool)

/-- `resume` is the amount of the reservation that waits for a hydration. -/
inductive Job where
  | reserve (amount : Int)
  | hydrate (resume : Option Int)
  | initCache (resume : Option Int) (snapshot : Token)
  | retry (amount : Int)
  | reserveRow (amount : Int)
  | persist (amount : Int)
  | compensate (amount : Int)
  | cacheDelta (delta : Int)
  | increase (amount : Int)
  | decrease (amount : Int)
  | read (edit : Edit)
  | raiseFence (copy : Token)
  | dropHash (copy : Token)
  | write (copy : Token)
  | flush
  | applyFlush (delta : Int)
  deriving DecidableEq, Repr

/-- The last three fields sum what calls have reported as done. -/
structure State where
  hash : Option Token
  fence : Bool
  row : Token
  store : Option Int
  jobs : List Job
  (granted increased decreased : Int)
  deriving DecidableEq, Repr

variable (state : State)

def State.shiftRow (delta now : Int) : State := { state with row := state.row.shift delta now }
def State.record (delta : Int) : State := { state with store := some (addNewRecord state.store delta) }
def State.grant (amount : Int) : State := { state with granted := state.granted + amount }
def State.increase (amount : Int) : State := { state with increased := state.increased + amount }
def State.decrease (amount : Int) : State := { state with decreased := state.decreased + amount }

variable (config : Config)

/-- Write a quota change: to the accumulator in batch mode, to the row otherwise. -/
def State.persist (state : State) (delta now : Int) : State :=
  if config.batchUpdateEnabled then state.record delta else state.shiftRow delta now

def tryScript (state : State) (amount now : Int) (onMiss : List Job) : State × List Job :=
  match tokenQuotaReserveScript state.hash amount state.row.id now with
  | (.miss, _) => (state, onMiss)
  | (.insufficient, _) => (state, [])
  | (.ok, hash) => ({ state with hash }, [.persist amount])

def cacheApplyTokenQuotaDelta (state : State) (delta now : Int) : State :=
  { state with hash := (tokenQuotaDeltaScript state.hash delta state.row.id now).2 }

/-- Run one job at time `now`. With `fault` its Redis command or database
statement fails; recording in an accumulator cannot. -/
def runJob (fault : Bool) (now : Int) (state : State) : Job → State × List Job
  | .reserve amount =>
    if fault then (state, [.reserveRow amount]) else tryScript state amount now [.hydrate (some amount)]
  | .hydrate resume =>
    if fault then (state, resume.toList.map .reserveRow)
    else if config.redisEnabled then (state, [.initCache resume state.row])
    else (state, [])
  | .initCache resume snapshot =>
    if fault then (state, resume.toList.map .retry)
    else ({ state with hash := cacheInitToken snapshot state.fence state.hash }, resume.toList.map .retry)
  | .retry amount => if fault then (state, [.reserveRow amount]) else tryScript state amount now [.reserveRow amount]
  | .reserveRow amount =>
    if !fault && decide (amount ≤ state.row.remainQuota) then ((state.shiftRow (-amount) now).grant amount, [])
    else (state, [])
  | .persist amount =>
    if fault && !config.batchUpdateEnabled then (state, [.compensate amount])
    else ((state.persist config (-amount) now).grant amount, [])
  | .compensate amount => if fault then (state, []) else (cacheApplyTokenQuotaDelta state amount now, [])
  | .cacheDelta delta => if fault then (state, []) else (cacheApplyTokenQuotaDelta state delta now, [])
  | .increase amount =>
    if fault && !config.batchUpdateEnabled then (state, [])
    else ((state.persist config amount now).increase amount, [])
  | .decrease amount =>
    if fault && !config.batchUpdateEnabled then (state, [])
    else ((state.persist config (-amount) now).decrease amount, [])
  | .read edit =>
    if fault then (state, [])
    else
      match edit.copy now state.row with
      | none => (state, [])
      | some copy => if config.redisEnabled then (state, [.raiseFence copy]) else (state, [.write copy])
  | .raiseFence copy =>
    -- a failed invalidation is logged and the edit goes on
    if fault then (state, [.write copy]) else ({ state with fence := true }, [.dropHash copy])
  | .dropHash copy => if fault then (state, [.write copy]) else ({ state with hash := none }, [.write copy])
  | .write copy => if fault then (state, []) else ({ state with row := updateToken copy state.row }, [])
  | .flush =>
    match state.store with
    | none => (state, [])
    | some delta => ({ state with store := none }, [.applyFlush delta])
  | .applyFlush delta => if fault then (state, []) else (state.shiftRow delta now, [])

inductive Operation where
  | tryReserveTokenQuota (quota : Int) (unlimited : Bool)
  | getTokenByKey
  | increaseTokenQuota (quota : Int)
  | decreaseTokenQuota (quota : Int)
  | edit (edit : Edit)
  | batchUpdate

def cacheGoroutine (delta : Int) : List Job := if config.redisEnabled then [.cacheDelta delta] else []
def decreaseTokenQuota (quota : Int) : List Job :=
  if quota < 0 then [] else cacheGoroutine config (-quota) ++ [.decrease quota]

def Operation.start : Operation → List Job
  | .tryReserveTokenQuota quota unlimited =>
    if quota ≤ 0 then []
    else if unlimited then TokenQuota.decreaseTokenQuota config quota
    else if config.redisEnabled then [.reserve quota]
    else [.reserveRow quota]
  | .getTokenByKey => [.hydrate none]
  | .increaseTokenQuota quota => if quota < 0 then [] else cacheGoroutine config quota ++ [.increase quota]
  | .decreaseTokenQuota quota => TokenQuota.decreaseTokenQuota config quota
  | .edit change => [.read change]
  | .batchUpdate => [.flush]

inductive Event where
  | call (operation : Operation)
  | run (index : Nat) (fault : Bool) (now : Int)
  | expireHash | expireFence

def step (state : State) : Event → Option State
  | .call operation => some { state with jobs := state.jobs ++ operation.start config }
  | .run index fault now =>
    (state.jobs[index]?).map fun job =>
      let (after, next) := runJob config fault now state job
      { after with jobs := Pool.replace state.jobs index next }
  | .expireHash => some { state with hash := none }
  | .expireFence => some { state with fence := false }

def machine : Machine State Event := ⟨step config⟩
def State.opened (row : Token) (hash : Option Token) (fence : Bool) : State :=
  { hash, fence, row, store := none, jobs := [], granted := 0, increased := 0, decreased := 0 }

structure State.Quiescent (state : State) : Prop where
  done : state.jobs = []
  flushed : state.store.getD 0 = 0

open Option Pool Machine State Job

def Recordable (config : Config) (state : State) (delta : Int) : Prop :=
  config.batchUpdateEnabled = true → Fits (state.store.getD 0 + delta)

instance (config : Config) (state : State) (delta : Int) : Decidable (Recordable config state delta) :=
  inferInstanceAs (Decidable (_ → _))

/-- An edit writes the `remain_quota` the row has, the accumulator does not
saturate, and the statement of a flush succeeds. -/
def Job.Exact (config : Config) (fault : Bool) (state : State) : Job → Prop
  | .write copy => copy.remainQuota = state.row.remainQuota
  | .persist amount | .decrease amount => Recordable config state (-amount)
  | .increase amount => Recordable config state amount
  | .applyFlush _ => fault = false
  | _ => True

instance (config : Config) (fault : Bool) (state : State) : DecidablePred (Job.Exact config fault state) := fun _ => by
  unfold Job.Exact
  split <;> infer_instance

def Exact (config : Config) (state : State) : Event → Prop
  | .run index fault _ => ∀ job ∈ state.jobs[index]?, job.Exact config fault state
  | _ => True

instance (config : Config) : DecidableRel (Exact config) := fun _ _ => by
  unfold Exact
  split <;> infer_instance

@[simp] def Job.batchTaken : Job → Int
  | .applyFlush delta => delta
  | _ => 0

/-- What the row and the accumulator hold beyond the reported changes. -/
def State.base (state : State) : Int :=
  state.row.remainQuota + state.store.getD 0 - (state.increased - state.decreased - state.granted)

/-- The base once the deltas that flushes have taken are written. -/
def State.opening (state : State) : Int := state.base + total batchTaken state.jobs

section
variable {config : Config} {state next : State} {job : Job} {fault : Bool}

theorem State.persist_base {delta : Int} (now : Int) (recordable : Recordable config state delta) :
    (state.persist config delta now).base = state.base + delta := by
  unfold persist
  split
  next batch =>
    have sum := addNewRecord_exact (recordable batch)
    simp only [base, record, getD_some, sum]
    omega
  · simp only [base, shiftRow, Token.shift]
    omega

theorem tryScript_base (state : State) (amount now : Int) (onMiss : List Job) :
    (tryScript state amount now onMiss).1.base = state.base := by
  unfold tryScript
  split <;> rfl

theorem tryScript_taken {amount now : Int} {onMiss : List Job} (missed : total batchTaken onMiss = 0) :
    total batchTaken (tryScript state amount now onMiss).2 = 0 := by
  unfold tryScript
  split
  · exact missed
  · rfl
  · simp

theorem total_resume (resume : Option Int) (continuation : Int → Job)
    (idle : ∀ amount, (continuation amount).batchTaken = 0) :
    total batchTaken (resume.toList.map continuation) = 0 := by
  cases resume with
  | none => rfl
  | some => simp only [toList_some, List.map_cons, List.map_nil, total_cons, total_nil, idle, add_zero]

theorem runJob_base (now : Int) (exact_ : job.Exact config fault state) : (runJob config fault now state job).1.base +
        total batchTaken (runJob config fault now state job).2 = state.base + job.batchTaken := by
  cases job with simp only [runJob]
  | reserve | retry =>
    split
    · simp
    · rw [tryScript_base, tryScript_taken (by simp)]
      rfl
  | hydrate =>
    split
    · rw [total_resume _ _ fun _ => rfl]
      rfl
    split <;> simp
  | initCache => split <;> rw [total_resume _ _ fun _ => rfl] <;> rfl
  | reserveRow =>
    split
    · simp only [base, grant, shiftRow, Token.shift, total_nil, batchTaken]
      omega
    · simp
  | persist | increase | decrease =>
    split
    · simp
    · have moved := persist_base now exact_
      simp only [base, grant, State.increase, State.decrease, total_nil, batchTaken] at moved ⊢
      omega
  | compensate | cacheDelta => split <;> simp [base, cacheApplyTokenQuotaDelta]
  | read =>
    repeat' split
    all_goals simp
  | raiseFence | dropHash => split <;> simp [base]
  | write copy =>
    split
    · simp
    -- the edit writes back the quota it has read
    · have same : copy.remainQuota = state.row.remainQuota := exact_
      simp [base, updateToken, same]
  | flush =>
    split
    · simp
    next _ stored =>
      simp only [base, stored, getD_some, getD_none, total_cons, total_nil, batchTaken]
      omega
  | applyFlush =>
    -- a flush that fails loses what it has taken
    have succeeds : fault = false := exact_
    simp only [succeeds, Bool.false_eq_true, if_false, base, shiftRow, Token.shift, total_nil, batchTaken]
    omega

theorem Operation.start_taken (config : Config) (operation : Operation) :
    total batchTaken (operation.start config) = 0 := by
  cases operation <;> simp only [start, TokenQuota.decreaseTokenQuota, cacheGoroutine] <;> (try split_ifs) <;> simp

theorem step_opening {event : Event} (exact_ : Exact config state event)
    (stepped : step config state event = some next) : next.opening = state.opening := by
  cases event with
  | call =>
    cases stepped
    simp only [opening, total_append, Operation.start_taken, add_zero]
    rfl
  | run _ _ now =>
    obtain ⟨job, selected, rfl⟩ := map_eq_some_iff.mp stepped
    have moved := runJob_base now (exact_ job selected)
    simp only [opening, base, total_replace _ selected] at moved ⊢
    omega
  | expireHash | expireFence =>
    cases stepped
    rfl

/-- At quiescence the row holds its initial quota and every change that a call
has reported, with faults anywhere but in the flush. -/
theorem remain_quota_accounts_for_all (config : Config) {row : Token} {hash : Option Token} {fence : Bool}
    {final : State} {events : List Event}
    (run : (machine config).Runs (Exact config) (.opened row hash fence) events final) (quiescent : final.Quiescent) :
    final.row.remainQuota = row.remainQuota + final.increased - final.decreased - final.granted := by
  have opening := run.invariant (fun state => state.opening = row.remainQuota)
    (fun _ _ _ held exact_ stepped => (step_opening exact_ stepped).trans held)
    (by simp [State.opening, State.base, State.opened])
  have flushed := quiescent.flushed
  simp only [State.opening, State.base, quiescent.done, Pool.total_nil, flushed] at opening
  omega

def Token.sum (token : Token) : Int := token.remainQuota + token.usedQuota

theorem Token.shift_sum (delta now : Int) (token : Token) : (token.shift delta now).sum = token.sum := by
  simp only [sum, shift]
  omega

def Job.isWrite : Job → Bool
  | .write _ => true
  | _ => false

theorem runJob_sum (now : Int) (moves : job.isWrite = false) :
    (runJob config fault now state job).1.row.sum = state.row.sum := by
  cases job with simp only [runJob, tryScript, State.persist]
  | write => cases moves
  | _ =>
    repeat' split
    all_goals first
      | rfl
      | exact Token.shift_sum _ _ _

/-- As `Exact`, but an edit may write any `remain_quota`. -/
def Counted (config : Config) (state : State) : Event → Prop
  | .run index fault _ => ∀ job ∈ state.jobs[index]?, job.isWrite = true ∨ job.Exact config fault state
  | _ => True

instance (config : Config) : DecidableRel (Counted config) := fun _ _ => by
  unfold Counted
  split <;> infer_instance

theorem runJob_used (now : Int) (counted : job.isWrite = true ∨ job.Exact config fault state) :
    (runJob config fault now state job).1.row.sum - (runJob config fault now state job).1.base -
        total batchTaken (runJob config fault now state job).2 = state.row.sum - state.base - job.batchTaken := by
  cases job with
  | write =>
    simp only [runJob]
    split
    · simp
    · simp only [Token.sum, base, updateToken, total_nil, batchTaken]
      omega
  | _ =>
    have moved := runJob_base now (counted.resolve_left nofun)
    rw [runJob_sum now rfl]
    omega

theorem step_used {event : Event} (counted : Counted config state event)
    (stepped : step config state event = some next) : next.row.sum - next.opening = state.row.sum - state.opening := by
  cases event with
  | run _ _ now =>
    obtain ⟨job, selected, rfl⟩ := map_eq_some_iff.mp stepped
    have moved := runJob_used now (counted job selected)
    simp only [opening, base, total_replace _ selected] at moved ⊢
    omega
  | _ =>
    have same := step_opening (by trivial) stepped
    cases stepped
    rw [same]

/-- Edits may overwrite `remain_quota`: `used_quota` and what is still to be flushed account for every change that a
call has reported. -/
theorem used_quota_accounts_for_all {row : Token} {hash : Option Token} {fence : Bool} {final : State}
    {events : List Event} (run : (machine config).Runs (Counted config) (.opened row hash fence) events final) :
    final.row.usedQuota - (final.store.getD 0 + total batchTaken final.jobs) =
      row.usedQuota + final.granted + final.decreased - final.increased := by
  have used := run.invariant (fun state => state.row.sum - state.opening = row.usedQuota)
    (fun _ _ _ held counted stepped => (step_used counted stepped).trans held)
    (by simp [opening, base, State.opened, Token.sum])
  simp only [opening, base, Token.sum] at used
  omega

end

def sampleToken (remainQuota : Int) : Token :=
  { id := 3, userId := 7, key := "sk", status := .enabled, name := "token", createdTime := 1, accessedTime := 1
    expiredTime := -1, remainQuota, unlimitedQuota := false, modelLimitsEnabled := true, modelLimits := "wan"
    allowIps := "", usedQuota := 0, group := "", crossGroupRetry := false, autoGroups := "" }

/-- An edit that is written before the token is used; then a reservation that
hydrates the hash, a refund and a flush. -/
def editedThenUsed : List Event :=
  [.call (.edit .disableModelLimits), .run 0 false 10, .run 0 false 10, .run 0 false 10, .run 0 false 10,
    .expireFence, .call (.tryReserveTokenQuota 30 false), .run 0 false 11, .run 0 false 11, .run 0 false 11,
    .run 0 false 11, .run 0 false 11, .call (.increaseTokenQuota 5), .run 0 false 12, .run 0 false 12,
    .call .batchUpdate, .run 0 false 13, .run 0 false 13]

def batchMode : Config := { redisEnabled := true, batchUpdateEnabled := true }
def usedStart : State := .opened (sampleToken 100) none false
def usedFinal : State := ((machine batchMode).exec (Exact batchMode) usedStart editedThenUsed).getD usedStart

theorem remain_quota_accounts_for_all_edited :
    usedFinal.granted = 30 ∧ usedFinal.row.remainQuota = 100 + usedFinal.increased - usedFinal.decreased -
      usedFinal.granted := by
  have run : (machine batchMode).Runs (Exact batchMode) usedStart editedThenUsed usedFinal :=
    runs_iff_exec.mpr (by decide)
  exact ⟨by decide, remain_quota_accounts_for_all batchMode run ⟨by decide, by decide⟩⟩

def deductedUnderEdit : List Event :=
  [.call (.edit (.status .disabled)), .run 0 false 10, .call (.decreaseTokenQuota 40), .run 2 false 11,
    .run 1 false 11, .run 0 false 12, .run 0 false 12, .run 0 false 12]

def directMode : Config := { redisEnabled := true, batchUpdateEnabled := false }
def overwrittenFinal : State := ((machine directMode).exec unrestricted usedStart deductedUnderEdit).getD usedStart

/-- The deduction was reported and is gone. -/
theorem status_edit_loses_deduction :
    (machine directMode).Runs unrestricted usedStart deductedUnderEdit overwrittenFinal ∧
      overwrittenFinal.Quiescent ∧ overwrittenFinal.decreased = 40 ∧
      overwrittenFinal.row.remainQuota ≠
        100 + overwrittenFinal.increased - overwrittenFinal.decreased - overwrittenFinal.granted :=
  ⟨runs_iff_exec.mpr (by decide), ⟨by decide, by decide⟩, by decide, by decide⟩

theorem used_quota_accounts_for_all_edited : overwrittenFinal.row.remainQuota = 100 ∧
    overwrittenFinal.row.usedQuota - (overwrittenFinal.store.getD 0 + total batchTaken overwrittenFinal.jobs) =
      0 + overwrittenFinal.granted + overwrittenFinal.decreased - overwrittenFinal.increased := by
  have run : (machine directMode).Runs (Counted directMode) usedStart deductedUnderEdit overwrittenFinal :=
    runs_iff_exec.mpr (by decide)
  exact ⟨by decide, used_quota_accounts_for_all run⟩

end FlowAPI.TokenQuota
