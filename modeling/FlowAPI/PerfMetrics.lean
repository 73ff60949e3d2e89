import FlowAPI.Semantics.Machine
import FlowAPI.Semantics.Pool
import Mathlib.Algebra.Ring.Pi
import Mathlib.Data.Fintype.Pi
import Mathlib.Tactic.LinearCombination

/-! The counters of `pkg/perf_metrics`. `Record` adds a sample to the hot bucket of its model, group and period, one
counter at a time, while flush passes take the counters of completed buckets away, one at a time, and add them to the
rows of the database. -/

set_option autoImplicit false
namespace FlowAPI.PerfMetrics
open Semantics Pool Machine Option Prod

inductive Counter where
  | requestCount | successCount | totalLatencyMs | ttftSumMs | ttftCount | outputTokens | generationMs
  deriving DecidableEq, Repr

open Counter

/-- In the order of `drain` and `addCounters`. -/
def counters : List Counter :=
  [requestCount, successCount, totalLatencyMs, ttftSumMs, ttftCount, outputTokens, generationMs]

instance : Fintype Counter where
  elems := ⟨counters, by decide⟩
  complete counter := by cases counter <;> decide

abbrev Counters := Counter → Int

structure BucketKey where
  (model group : String)
  bucketTs : Int
  deriving DecidableEq, Repr

structure Sample where
  (model group : String)
  (hasTtft success : Bool)
  (latencyMs ttftMs outputTokens generationMs : Int)
  deriving Repr

def Sample.additions (sample : Sample) : List (Counter × Int) :=
  [(requestCount, 1)] ++ (if sample.success then [(successCount, 1)] else []) ++
    (if 0 < sample.latencyMs then [(totalLatencyMs, sample.latencyMs)] else []) ++
    (if sample.hasTtft ∧ 0 ≤ sample.ttftMs then [(ttftSumMs, sample.ttftMs), (ttftCount, 1)] else []) ++
    if 0 < sample.outputTokens ∧ 0 < sample.generationMs then
      [(.outputTokens, sample.outputTokens), (.generationMs, sample.generationMs)]
    else []

/-- Calls may hold a bucket that is no longer in `hotBuckets`. -/
structure Bucket where
  key : BucketKey
  hot : Bool
  counters : Counters

inductive Stage where
  | add (left : List (Counter × Int))
  | drain (left : List Counter) (drained : Counters)
  | delete

open Stage

structure Job where
  bucket : Nat
  stage : Stage

/-- A row is the sum of the upserts under its key. -/
structure State where
  buckets : List Bucket := []
  rows : List (BucketKey × Counters) := []
  recorded : List Sample := []
  jobs : List Job := []

variable (bucket : Bucket) (dayAgo : Int)

def advance (fails : Bool) : Stage → Bucket × List (BucketKey × Counters) × List Stage
  | .add [] => (bucket, [], [])
  | .add ((counter, amount) :: left) =>
    ({ bucket with counters := bucket.counters + Pi.single counter amount }, [], [.add left])
  | .drain (counter :: left) drained =>
    -- the counter is swapped for zero
    let value := Pi.single counter (bucket.counters counter)
    ({ bucket with counters := bucket.counters - value }, [], [.drain left (drained + value)])
  | .drain [] drained =>
    -- without a request the other counters are neither stored nor put back
    if drained requestCount = 0 then (bucket, [], [.delete])
    else if fails then (bucket, [], [.add (counters.map fun counter => (counter, drained counter))])
    else (bucket, [(bucket.key, drained)], [.delete])
  -- `hotBuckets.Delete` goes by the key; with one flush loop no other bucket has been stored under it
  | .delete => ({ bucket with hot := bucket.hot && dayAgo ≤ bucket.key.bucketTs }, [], [])

/-- The clock is read by the environment. A call of `Record` that returns at once is no event. -/
inductive Event where
  | record (sample : Sample) (bucketTs : Int)
  | visit (bucket : Nat) (currentBucket : Int)
  | run (job : Nat) (fails : Bool) (dayAgo : Int)
  deriving Repr

def loadOrStore (key : BucketKey) (buckets : List Bucket) : Nat × List Bucket :=
  let index := buckets.findIdx fun bucket => bucket.hot && bucket.key == key
  (index, if index < buckets.length then buckets else buckets ++ [⟨key, true, 0⟩])

def step (state : State) : Event → Option State
  | .record sample bucketTs =>
    let group := if sample.group = "" then "default" else sample.group
    let (index, buckets) := loadOrStore ⟨sample.model, group, bucketTs⟩ state.buckets
    some ⟨buckets, state.rows, sample :: state.recorded, ⟨index, .add sample.additions⟩ :: state.jobs⟩
  | .visit index currentBucket => do
    let bucket ← state.buckets[index]?
    if bucket.hot && bucket.key.bucketTs < currentBucket then
      some { state with jobs := ⟨index, .drain counters 0⟩ :: state.jobs }
    else none
  | .run index fails dayAgo => do
    let job ← state.jobs[index]?
    let bucket ← state.buckets[job.bucket]?
    let (next, upserted, stages) := advance bucket dayAgo fails job.stage
    some ⟨replace state.buckets job.bucket [next], upserted ++ state.rows, state.recorded,
      replace state.jobs index (stages.map (Job.mk job.bucket))⟩

/-- No counter moves in a bucket that has left `hotBuckets`, a drain that finds no request finds nothing else, and only
an empty bucket is deleted. -/
def lossless : Stage → Bool
  | .add [] => true
  | .add _ | .drain (_ :: _) _ => bucket.hot
  | .drain [] drained => drained requestCount ≠ 0 || drained = 0
  | .delete => dayAgo ≤ bucket.key.bucketTs || bucket.counters = 0

def admits (state : State) : Event → Bool
  | .run index _ dayAgo => state.jobs[index]?.all fun job => state.buckets[job.bucket]?.all (lossless · dayAgo job.stage)
  | _ => true

def added (left : List (Counter × Int)) : Counters := total (fun (counter, amount) => Pi.single counter amount) left
def Bucket.amount : Counters := if bucket.hot then bucket.counters else 0

def Stage.held : Stage → Counters
  | .add left => added left
  | .drain _ drained => drained
  | .delete => 0

def Conserved (state : State) : Prop :=
  total snd state.rows + total Bucket.amount state.buckets + total (·.stage.held) state.jobs =
    total (added ·.additions) state.recorded

theorem total_loadOrStore (key : BucketKey) (buckets : List Bucket) :
    total Bucket.amount (loadOrStore key buckets).2 = total Bucket.amount buckets := by
  simp only [loadOrStore]
  split_ifs <;> simp [Bucket.amount]

variable {bucket dayAgo} {stage : Stage}

theorem advance_conserves (kept : lossless bucket dayAgo stage) (fails : Bool) :
    let (next, upserted, stages) := advance bucket dayAgo fails stage
    total snd upserted + next.amount + total held stages = bucket.amount + stage.held := by
  obtain (_ | ⟨⟨counter, amount⟩, left⟩) | ⟨_ | ⟨counter, left⟩, drained⟩ | _ := stage
  · simp [advance, held, added]
  · simp [advance, held, added, Bucket.amount, show bucket.hot from kept, add_assoc]
  · simp only [advance]
    split_ifs with none
    · have empty : drained = 0 := by simpa [lossless, none] using kept
      simp [held, empty]
    -- a failed upsert puts every counter back
    · have restored : added (counters.map fun counter => (counter, drained counter)) = drained := by
        funext counter
        cases counter <;> simp [added, counters]
      simp [held, restored]
    · simp [held, add_comm]
  · simp [advance, held, Bucket.amount, show bucket.hot from kept]
  · obtain recent | empty : dayAgo ≤ bucket.key.bucketTs ∨ bucket.counters = 0 := by simpa [lossless] using kept
    · simp [advance, held, Bucket.amount, recent]
    · simp [advance, held, Bucket.amount, empty]

variable {state next : State} {event : Event}

theorem step_conserves (conserved : Conserved state) (admitted : admits state event)
    (stepped : step state event = some next) : Conserved next := by
  unfold Conserved at conserved ⊢
  cases event with
  | record sample bucketTs =>
    simp only [step, some.injEq] at stepped
    rw [← stepped, total_loadOrStore, total_cons, total_cons, held]
    linear_combination conserved
  | visit index currentBucket =>
    obtain ⟨bucket, -, stepped⟩ := bind_eq_some_iff.mp stepped
    obtain ⟨-, ⟨⟩⟩ := ite_none_right_eq_some.mp stepped
    rwa [total_cons, held, zero_add]
  | run index fails dayAgo =>
    obtain ⟨job, selected, stepped⟩ := bind_eq_some_iff.mp stepped
    obtain ⟨bucket, present, stepped⟩ := bind_eq_some_iff.mp stepped
    have kept : lossless bucket dayAgo job.stage := by simpa [admits, selected, present] using admitted
    have moved := advance_conserves kept fails
    generalize advance bucket dayAgo fails job.stage = outcome at moved stepped
    obtain ⟨after, upserted, stages⟩ := outcome
    cases stepped
    have held : total (·.stage.held) (stages.map (Job.mk job.bucket)) = total held stages := by
      simp [total, Function.comp_def]
    rw [total_replace _ selected, total_replace _ present, total_append, total_cons, total_nil, held]
    linear_combination conserved + moved

/-- When no call is in flight, every counter of the rows and the hot buckets is what was recorded. -/
theorem recorded_conserved {events : List Event} (run : Runs ⟨step⟩ (admits · ·) {} events next) (idle : next.jobs = []) :
    total snd next.rows + total Bucket.amount next.buckets = total (added ·.additions) next.recorded := by
  have conserved := run.invariant Conserved (fun _ _ _ => step_conserves) rfl
  rwa [Conserved, idle, total_nil, add_zero] at conserved

def flushed : List Event := .visit 0 60 :: List.replicate 9 (.run 0 false 0)

/-- A request that succeeds, with `pass` between the steps that record it. -/
def recording (pass : List Event) : List Event :=
  [.record ⟨"m", "", false, true, 0, 0, 0, 0⟩ 0, .run 0 false 0] ++ pass ++ List.replicate 2 (.run 0 false 0) ++ flushed

def final (pass : List Event) : State := (exec ⟨step⟩ unrestricted {} (recording pass)).getD {}

/-- A pass whose upsert fails, so that it puts the seven counters back. -/
def restored : List Event :=
  .visit 0 60 :: List.replicate 7 (.run 0 false 0) ++ .run 0 true 0 :: List.replicate 8 (.run 0 false 0)

theorem recorded_conserved_final : total snd (final restored).rows + total Bucket.amount (final restored).buckets =
    total (added ·.additions) (final restored).recorded :=
  @recorded_conserved _ (recording restored) (runs_iff_exec.mpr rfl) rfl

/-- The pass takes the request away; the next one finds no request and throws the success away. -/
theorem success_dropped : (final flushed).jobs.length = 0 ∧ total snd (final flushed).rows successCount = 0 ∧
    total Bucket.amount (final flushed).buckets successCount = 0 ∧
    total (added ·.additions) (final flushed).recorded successCount = 1 := by
  decide

end FlowAPI.PerfMetrics
