import FlowAPI.Golang.Map
import FlowAPI.RateLimit.TokenBucket

/-! The success limit of one user: `middleware/model-rate-limit.go` over Redis and over `InMemoryRateLimiter`.

The Redis handler keeps the times of the last successes, newest first, under a key that may expire at any time. The
memory handler asks a queue about each request that arrives, oldest first and in seconds. The requests of a history may
overlap in any way, and its clock is in milliseconds. -/

set_option autoImplicit false
namespace FlowAPI.RateLimit
open List Golang

/-- A check fails with an error or a panic. -/
inductive Answer
  | passed
  | total
  | success
  | failed
  deriving DecidableEq

inductive Event
  | arrives (request : Nat)
  | ends (request status : Nat)
  | expires

def Event.isArrival : Event → Bool
  | .arrives _ => true
  | .ends .. | .expires => false

/-- The parts before and after `c.Next()`, and the end of what is stored. -/
structure Handler (Store : Type) where
  start : Store
  check : Int → Store → Answer × Store
  record : Int → Store → Store
  clear : Int → Store → Store

structure Run (Store : Type) where
  store : Store
  running : List Nat
  arrivals : List Int
  successes : List Int

namespace Handler
variable {Store : Type} (handler : Handler Store)

def step (run : Run Store) (now : Int) : Event → Run Store
  | .arrives request =>
    let checked := handler.check now run.store
    if checked.1 = .passed then
      ⟨checked.2, request :: run.running, now :: run.arrivals, run.successes⟩
    else { run with store := checked.2 }
  | .ends request status =>
    if request ∈ run.running then
      let run := { run with running := run.running.erase request }
      if status < 400 then
        { run with store := handler.record now run.store, successes := now :: run.successes }
      else run
    else run
  | .expires => { run with store := handler.clear now run.store }

def initially : Run Store := ⟨handler.start, [], [], []⟩

/-- The condition holds of the run up to each request that arrives. -/
def Always (condition : Run Store → Int → Prop) : Run Store → List (Int × Event) → Prop
  | _, [] => True
  | run, (now, event) :: later =>
    (event.isArrival → condition run now) ∧ Always condition (handler.step run now event) later

variable {handler} {clock : Int} {run : Run Store} {history : List (Int × Event)}

theorem always_of_kept {condition : Run Store → Int → Prop} (holds : Int → Run Store → Prop)
    (kept : ∀ clock run now event, clock ≤ now → holds clock run → holds now (handler.step run now event))
    (implied : ∀ clock run now, clock ≤ now → holds clock run → condition run now)
    (sorted : (history.map Prod.fst).Pairwise (· ≤ ·)) (holding : ∀ clock, holds clock run) :
    handler.Always condition run history := by
  have later (clock : Int) (holding : holds clock run) (sorted : (clock :: history.map Prod.fst).Pairwise (· ≤ ·)) :
      handler.Always condition run history := by
    clear * - kept implied sorted holding
    induction history generalizing clock run with
    | nil => trivial
    | cons timed later ih =>
      obtain ⟨follow, sorted⟩ := pairwise_cons.mp sorted
      have next := follow timed.1 mem_cons_self
      exact ⟨fun _ => implied clock run timed.1 next holding, ih _ (kept clock run timed.1 timed.2 next holding) sorted⟩
  cases history with
  | nil => trivial
  | cons timed rest =>
    refine later timed.1 (holding _) (pairwise_cons.mpr ⟨forall_mem_cons.mpr ⟨le_rfl, ?_⟩, sorted⟩)
    exact (pairwise_cons.mp sorted).1

theorem always_congr {left right : Run Store → Int → Prop}
    (same : handler.Always (fun run now => left run now ↔ right run now) run history) :
    handler.Always left run history ↔ handler.Always right run history := by
  induction history generalizing run with
  | nil => rfl
  | cons timed later ih => exact and_congr (imp_congr_right same.1) (ih same.2)

end Handler

structure Settings where
  (totalMaxCount successMaxCount duration : Int)

def within (duration now time : Int) : Bool := (now - time).tdiv 1000 < duration

/-- A request is rejected only where as many as the maximum have succeeded within the window. -/
def Handler.Limits {Store : Type} (handler : Handler Store) (settings : Settings) : List (Int × Event) → Prop :=
  handler.Always (fun run now => (handler.check now run.store).1 = .success → 0 < settings.successMaxCount ∧
    settings.successMaxCount ≤ run.successes.countP (within settings.duration now)) handler.initially

/-! ### Redis -/

/-- No answer is an error: the time of an empty list cannot be parsed. -/
def checkRedisRateLimit (times : List Int) (maxCount duration now : Int) : Option Bool :=
  if maxCount = 0 then some true
  else if times.length < maxCount then some true
  else times.getLast?.map fun oldTime => !within duration now oldTime

def recordRedisRequest (maxCount : Int) (times : List Int) (now : Int) : List Int :=
  if maxCount = 0 then times
  -- `LTrim` counts an index below zero from the end of the list.
  else (now :: times).take (if 0 < maxCount then maxCount else maxCount + times.length + 1).toNat

structure Keys where
  times : List Int
  bucket : Option Bucket

def redisRateLimitHandler (settings : Settings) : Handler Keys where
  start := ⟨[], none⟩
  check now keys :=
    let allowed := checkRedisRateLimit keys.times settings.successMaxCount settings.duration now
    if allowed = none then (.failed, keys)
    else if allowed = some false then (.success, keys)
    else if settings.totalMaxCount > 0 then
      let script := allow (totalLimit settings.totalMaxCount settings.duration) keys.bucket (now / 1000)
      (if script.1 then .passed else .total, { keys with bucket := script.2 })
    else (.passed, keys)
  record now keys := { keys with times := recordRedisRequest settings.successMaxCount keys.times now }
  clear _ keys := { keys with times := [] }

section
variable {settings : Settings}

structure Newest (settings : Settings) (clock : Int) (run : Run Keys) : Prop where
  short : run.store.times.length ≤ settings.successMaxCount.toNat
  newest : settings.successMaxCount ≠ 0 → run.store.times <+: run.successes
  ordered : (clock :: run.successes).Pairwise (· ≥ ·)

theorem check_times (now : Int) (keys : Keys) :
    ((redisRateLimitHandler settings).check now keys).2.times = keys.times := by
  simp only [redisRateLimitHandler]
  split_ifs <;> rfl

theorem Newest.step {clock now : Int} {run : Run Keys} (next : clock ≤ now) (holds : Newest settings clock run)
    (event : Event) : Newest settings now ((redisRateLimitHandler settings).step run now event) := by
  obtain ⟨short, newest, ordered⟩ := holds
  obtain ⟨before, sorted⟩ := pairwise_cons.mp ordered
  have before : ∀ time ∈ run.successes, time ≤ now := fun time member => (before time member).trans next
  have ordered : (now :: run.successes).Pairwise (· ≥ ·) := pairwise_cons.mpr ⟨before, sorted⟩
  cases event with
  | arrives request =>
    have same := @check_times settings now run.store
    unfold Handler.step
    dsimp only
    split <;> exact ⟨by rwa [same], by rwa [same], ordered⟩
  | expires => exact ⟨Nat.zero_le _, fun _ => nil_prefix, ordered⟩
  | ends request status =>
    unfold Handler.step
    dsimp only
    split_ifs
    · have ends : (now :: now :: run.successes).Pairwise (· ≥ ·) :=
        pairwise_cons.mpr ⟨forall_mem_cons.mpr ⟨le_rfl, before⟩, ordered⟩
      dsimp only [redisRateLimitHandler, recordRedisRequest]
      by_cases unlimited : settings.successMaxCount = 0
      · rw [if_pos unlimited]
        exact ⟨short, absurd unlimited, ends⟩
      · rw [if_neg unlimited]
        refine ⟨?_, fun limited => ?_, ends⟩
        · rw [length_take]
          split_ifs <;> omega
        · exact take_prefix _ _ |>.trans ((prefix_cons_inj now).mpr (newest limited))
    · exact ⟨short, newest, ordered⟩
    · exact ⟨short, newest, ordered⟩

theorem Newest.limited {clock now : Int} {run : Run Keys} (holds : Newest settings clock run)
    (rejected : ((redisRateLimitHandler settings).check now run.store).1 = .success) :
    0 < settings.successMaxCount ∧
      settings.successMaxCount ≤ run.successes.countP (within settings.duration now) := by
  obtain ⟨few, newest, ordered⟩ := holds
  simp only [redisRateLimitHandler] at rejected
  have rejected : checkRedisRateLimit run.store.times settings.successMaxCount settings.duration now = some false := by
    grind
  rw [checkRedisRateLimit] at rejected
  split_ifs at rejected with unlimited short
  · simp at rejected
  · simp at rejected
  obtain ⟨oldest, last, recent⟩ := Option.map_eq_some_iff.mp rejected
  obtain ⟨newer, split⟩ := getLast?_eq_some_iff.mp last
  have newest := newest unlimited
  rw [split] at few short newest
  -- newest first: if the last time counts, all before it do
  have order := (pairwise_append.mp (ordered.of_cons.sublist newest.sublist)).2.2
  have all : ∀ time ∈ newer ++ [oldest], within settings.duration now time := by
    intro time member
    simp only [within, Bool.not_eq_false', decide_eq_true_eq] at recent ⊢
    rcases mem_append.mp member with new | old
    · have later := order time new oldest (mem_singleton_self _)
      have shorter := Int.tdiv_le_tdiv (show (0 : Int) < 1000 by decide) (show now - time ≤ now - oldest by omega)
      exact Int.lt_of_le_of_lt shorter recent
    · rwa [mem_singleton.mp old]
  have counted := newest.sublist.countP_le (p := within settings.duration now)
  rw [countP_eq_length.mpr all] at counted
  rw [length_append, length_singleton] at *
  omega

end

/-! ### Memory -/

abbrev Store := Map String (List Int)

/-- `InMemoryRateLimiter.Request`; no answer is a panic. -/
def request (key : String) (maxRequestNum duration now : Int) (store : Store) : Option Bool × Store :=
  match store.get? key with
  | some queue =>
    if queue.length < maxRequestNum then (some true, store.set key (queue ++ [now]))
    else queue.head?.elim (none, store) fun oldest =>
      if now - oldest ≥ duration then (some true, store.set key (queue.tail ++ [now])) else (some false, store)
  | none => if maxRequestNum < 0 then (none, store) else (some true, store.set key [now])

/-- A pass of `clearExpiredItems`. The window is also the time after which a queue is removed. -/
def clearExpiredItems (duration now : Int) (store : Store) : Store :=
  store.retain fun key => (store.get? key).any fun queue => queue.getLast?.any fun newest => now - newest ≤ duration

def checkKey (userId : String) : String := "MRRLS" ++ userId ++ "_check"

def totalAllowed (userId : String) (settings : Settings) (now : Int) (store : Store) : Option Bool × Store :=
  if settings.totalMaxCount > 0 then request ("MRRL" ++ userId) settings.totalMaxCount settings.duration (now / 1000) store
  else (some true, store)

def memoryRateLimitHandler (userId : String) (settings : Settings) : Handler Store where
  start := .empty
  check now store :=
    let total := totalAllowed userId settings now store
    if total.1 = some true then
      let success := request (checkKey userId) settings.successMaxCount settings.duration (now / 1000) total.2
      (success.1.elim .failed fun allowed => if allowed then .passed else .success, success.2)
    else (total.1.elim .failed fun _ => .total, total.2)
  record now store :=
    (request ("MRRLS" ++ userId) settings.successMaxCount settings.duration (now / 1000) store).2
  clear now := clearExpiredItems settings.duration (now / 1000)

section
variable {userId : String} {settings : Settings}

def Holds (store : Store) (key : String) (queue : List Int) : Prop :=
  store.get? key = if queue = [] then none else some queue

theorem request_elsewhere {key target : String} (other : target ≠ key) (maxRequestNum duration now : Int)
    (store : Store) : (request key maxRequestNum duration now store).2.get? target = store.get? target := by
  unfold request
  cases store.get? key with
  | none => dsimp only; split_ifs <;> simp [Map.get?_set, other]
  | some queue => cases queue <;> dsimp <;> split_ifs <;> simp [Map.get?_set, other]

theorem checkKey_ne {mark : String} (short : mark.length ≤ "MRRLS".length) : checkKey userId ≠ mark ++ userId := by
  intro same
  have lengths := congrArg String.length same
  rw [checkKey, String.length_append, String.length_append, String.length_append] at lengths
  have longer : 0 < "_check".length := by decide
  omega

theorem request_cases {store : Store} {key : String} {queue : List Int} (held : Holds store key queue)
    {maxRequestNum : Int} (valid : 0 ≤ maxRequestNum ∨ queue = []) (duration now : Int) :
    let result := request key maxRequestNum duration now store
    (queue.length < max 1 maxRequestNum ∧ 0 ≤ maxRequestNum ∧ result = (some true, store.set key (queue ++ [now]))) ∨
      (∃ oldest newer, queue = oldest :: newer ∧ max 1 maxRequestNum ≤ queue.length ∧
        (duration ≤ now - oldest ∧ result = (some true, store.set key (newer ++ [now])) ∨
          now - oldest < duration ∧ result = (some false, store))) ∨
      maxRequestNum < 0 ∧ queue = [] ∧ result = (none, store) := by
  unfold request
  rw [held]
  cases queue with
  | nil =>
    rcases lt_or_ge maxRequestNum 0 with below | above
    · exact .inr (.inr ⟨below, rfl, if_pos below⟩)
    · refine .inl ⟨by simp, above, if_neg above.not_gt⟩
  | cons oldest newer =>
    have above : 0 ≤ maxRequestNum := valid.resolve_right (by simp)
    rcases lt_or_ge ((oldest :: newer).length : Int) maxRequestNum with free | full
    · exact .inl ⟨lt_max_of_lt_right free, above, if_pos free⟩
    · refine .inr (.inl ⟨oldest, newer, rfl, max_le (by simp) full, ?_⟩)
      rcases lt_or_ge (now - oldest) duration with recent | old
      · exact .inr ⟨recent, (if_neg full.not_gt).trans (if_neg recent.not_ge)⟩
      · exact .inl ⟨old, (if_neg full.not_gt).trans (if_pos old)⟩

/-- The queue holds the last requests let through, and the others have left the window. -/
structure Counted (userId : String) (settings : Settings) (clock : Int) (run : Run Store) (queue dropped : List Int) :
    Prop where
  held : Holds run.store (checkKey userId) queue
  split : run.arrivals.map (· / 1000) = queue.reverse ++ dropped
  old : ∀ time ∈ dropped, settings.duration ≤ clock / 1000 - time
  short : queue.length ≤ max 1 settings.successMaxCount
  valid : 0 ≤ settings.successMaxCount ∨ queue = []
  ordered : (clock / 1000 :: run.arrivals.map (· / 1000)).Pairwise (· ≥ ·)

namespace Counted
variable {clock now : Int} {run : Run Store} {queue dropped : List Int}
  (counted : Counted userId settings clock run queue dropped)
include counted

theorem advance (next : clock ≤ now) : Counted userId settings now run queue dropped := by
  have later : clock / 1000 ≤ now / 1000 := Int.ediv_le_ediv (by decide) next
  obtain ⟨before, sorted⟩ := pairwise_cons.mp counted.ordered
  exact { counted with
    old := fun time member => (counted.old time member).trans (Int.sub_le_sub_right later time)
    ordered := pairwise_cons.mpr ⟨fun time member => (before time member).trans later, sorted⟩ }

theorem elsewhere {store : Store} (same : store.get? (checkKey userId) = run.store.get? (checkKey userId))
    (running : List Nat) (successes : List Int) :
    Counted userId settings clock ⟨store, running, run.arrivals, successes⟩ queue dropped :=
  { counted with held := same.trans counted.held }

theorem queue_sorted : queue.Pairwise (· ≤ ·) := by
  have sorted := counted.ordered.of_cons
  rw [counted.split] at sorted
  exact pairwise_reverse.mp (pairwise_append.mp sorted).1

theorem totalAllowed_elsewhere (now : Int) :
    Holds (totalAllowed userId settings now run.store).2 (checkKey userId) queue := by
  unfold totalAllowed
  split
  · exact (request_elsewhere (checkKey_ne (by decide)) _ _ _ _).trans counted.held
  · exact counted.held

theorem arrives (request : Nat) :
    ∃ queue dropped, Counted userId settings clock
      ((memoryRateLimitHandler userId settings).step run clock (.arrives request)) queue dropped := by
  have held := counted.totalAllowed_elsewhere clock
  have same := held.trans counted.held.symm
  simp only [Handler.step, memoryRateLimitHandler]
  by_cases allowed : (totalAllowed userId settings clock run.store).1 = some true
  · rw [if_pos allowed]
    obtain ⟨before, sorted⟩ := pairwise_cons.mp counted.ordered
    rcases request_cases held counted.valid settings.duration (clock / 1000) with
      ⟨free, valid, result⟩ | ⟨oldest, newer, rfl, full, ⟨old, result⟩ | ⟨recent, result⟩⟩ | ⟨_, _, result⟩
    · simp only [result, Option.elim_some, if_true]
      refine ⟨queue ++ [clock / 1000], dropped, ?_, ?_, counted.old, ?_, .inl valid, ?_⟩
      · simp [Holds, Map.get?_set]
      · simp [counted.split]
      · rw [length_append, length_singleton]
        exact Int.add_one_le_of_lt free
      · exact pairwise_cons.mpr ⟨forall_mem_cons.mpr ⟨le_rfl, before⟩, counted.ordered⟩
    -- the oldest request has left the window and makes room
    · simp only [result, Option.elim_some, if_true]
      refine ⟨newer ++ [clock / 1000], oldest :: dropped, ?_, ?_, forall_mem_cons.mpr ⟨old, counted.old⟩, ?_,
        .inl (counted.valid.resolve_right (by simp)), ?_⟩
      · simp [Holds, Map.get?_set]
      · simp [counted.split]
      · simpa using counted.short
      · exact pairwise_cons.mpr ⟨forall_mem_cons.mpr ⟨le_rfl, before⟩, counted.ordered⟩
    · simp only [result]
      exact ⟨_, dropped, counted.elsewhere same _ _⟩
    · simp only [result]
      exact ⟨queue, dropped, counted.elsewhere same _ _⟩
  · rw [if_neg allowed]
    refine ⟨queue, dropped, ?_⟩
    cases answer : (totalAllowed userId settings clock run.store).1 with
    | none => exact counted.elsewhere same _ _
    | some => exact counted.elsewhere same _ _

theorem clears : ∃ queue dropped, Counted userId settings clock
    { run with store := clearExpiredItems settings.duration (clock / 1000) run.store } queue dropped := by
  have cleared := Map.get?_retain (fun key => (run.store.get? key).any fun queue => queue.getLast?.any fun newest =>
    clock / 1000 - newest ≤ settings.duration) run.store (checkKey userId)
  split at cleared
  next => exact ⟨queue, dropped, counted.elsewhere cleared _ _⟩
  next expired =>
    refine ⟨[], queue.reverse ++ dropped, cleared, counted.split, ?_, by simp, .inr rfl, counted.ordered⟩
    refine forall_mem_append.mpr ⟨fun time member => ?_, counted.old⟩
    have member := mem_reverse.mp member
    have filled : queue ≠ [] := ne_nil_of_mem member
    obtain ⟨newest, isLast⟩ := Option.isSome_iff_exists.mp (getLast?_isSome.mpr filled)
    obtain ⟨others, rfl⟩ := getLast?_eq_some_iff.mp isLast
    rw [counted.held, if_neg filled] at expired
    simp only [Option.any_some, isLast, decide_eq_true_eq] at expired
    have before : time ≤ newest := by
      rcases mem_append.mp member with other | last
      · exact (pairwise_append.mp counted.queue_sorted).2.2 time other newest (mem_singleton_self _)
      · exact (mem_singleton.mp last).le
    omega

theorem rejected_iff : ((memoryRateLimitHandler userId settings).check clock run.store).1 = .success ↔
    (totalAllowed userId settings clock run.store).1 = some true ∧ max 1 settings.successMaxCount ≤
      run.arrivals.countP fun time => clock / 1000 - time / 1000 < settings.duration := by
  have count : (run.arrivals.countP fun time => clock / 1000 - time / 1000 < settings.duration) =
      queue.countP fun time => clock / 1000 - time < settings.duration := by
    have gone : (dropped.countP fun time => clock / 1000 - time < settings.duration) = 0 :=
      countP_eq_zero.mpr fun time member => by simpa using counted.old time member
    have mapped := congrArg (countP fun time => clock / 1000 - time < settings.duration) counted.split
    rw [countP_map, countP_append, countP_reverse, gone] at mapped
    exact mapped
  rw [count]
  simp only [memoryRateLimitHandler]
  by_cases allowed : (totalAllowed userId settings clock run.store).1 = some true
  · have held := counted.totalAllowed_elsewhere clock
    rw [if_pos allowed, and_iff_right allowed]
    have most : (queue.countP fun time => clock / 1000 - time < settings.duration) ≤ queue.length := countP_le_length
    rcases request_cases held counted.valid settings.duration (clock / 1000) with
      ⟨free, valid, result⟩ | ⟨oldest, newer, rfl, full, ⟨old, result⟩ | ⟨recent, result⟩⟩ | ⟨_, rfl, result⟩ <;>
      simp only [result]
    · refine iff_of_false (by simp) ?_
      omega
    · refine iff_of_false (by simp) ?_
      have short := counted.short
      have least : (newer.countP fun time => clock / 1000 - time < settings.duration) ≤ newer.length := countP_le_length
      rw [countP_cons_of_neg (by simpa using old)]
      rw [length_cons] at short
      omega
    -- the oldest is within the window, and so are all after it
    · refine iff_of_true (by simp) ?_
      have all : ∀ time ∈ oldest :: newer, decide (clock / 1000 - time < settings.duration) = true := by
        refine forall_mem_cons.mpr ⟨decide_eq_true recent, fun time member => decide_eq_true ?_⟩
        have later := (pairwise_cons.mp counted.queue_sorted).1 time member
        omega
      rwa [countP_eq_length.mpr all]
    · exact iff_of_false (by simp) (by simp)
  · rw [if_neg allowed]
    refine iff_of_false ?_ fun passes => allowed passes.1
    cases (totalAllowed userId settings clock run.store).1 <;> simp

end Counted

theorem Counted.step {clock now : Int} (next : clock ≤ now) {run : Run Store} (event : Event)
    (counted : ∃ queue dropped, Counted userId settings clock run queue dropped) :
    ∃ queue dropped, Counted userId settings now
      ((memoryRateLimitHandler userId settings).step run now event) queue dropped := by
  obtain ⟨queue, dropped, counted⟩ := counted
  have counted := counted.advance next
  cases event with
  | arrives request => exact counted.arrives request
  | expires => exact counted.clears
  | ends request status =>
    refine ⟨queue, dropped, ?_⟩
    simp only [Handler.step]
    split_ifs
    · exact counted.elsewhere (request_elsewhere (checkKey_ne (by decide)) _ _ _ _) _ _
    · exact counted.elsewhere rfl _ _
    · exact counted

end

/-- Where as many requests as the maximum, or one for a maximum of 0, were let through within the window, as many as the
maximum have succeeded within it. -/
def Covered (userId : String) (settings : Settings) : List (Int × Event) → Prop :=
  let handler := memoryRateLimitHandler userId settings
  handler.Always (fun run now => (totalAllowed userId settings now run.store).1 = some true ∧
      (max 1 settings.successMaxCount ≤
        run.arrivals.countP fun time => now / 1000 - time / 1000 < settings.duration) →
    0 < settings.successMaxCount ∧
      settings.successMaxCount ≤ run.successes.countP (within settings.duration now)) handler.initially

end FlowAPI.RateLimit
