import Mathlib.Algebra.Order.Ring.Int
import Mathlib.Tactic.Linarith
import Mathlib.Tactic.Positivity

/-! The token bucket of the model rate limit: `common/limiter/lua/rate_limit.lua` as `middleware/model-rate-limit.go`
calls it.

A request costs a token for each second of the window, and each request that the window allows brings a token a second.
The script counts in doubles; the amounts here are the integers that these hold exactly. -/

set_option autoImplicit false
namespace FlowAPI.RateLimit
open List

structure Config where
  (capacity rate requested : Int)

def rateLimitCapacity (count durationSeconds : Int) : Int :=
  if count ≤ 0 ∨ durationSeconds ≤ 0 then 0
  else if count > (2 ^ 63 - 1) / durationSeconds then 2 ^ 63 - 1
  else count * durationSeconds

def totalLimit (totalMaxCount duration : Int) : Config :=
  ⟨rateLimitCapacity totalMaxCount duration, totalMaxCount, duration⟩

structure Bucket where
  (tokens lastTime : Int)

def Bucket.Kept (times : List Int) (bucket : Bucket) : Prop :=
  0 ≤ bucket.tokens ∧ ∀ time ∈ times, bucket.lastTime ≤ time

variable (config : Config) (bucket : Option Bucket) (now : Int)

def available : Int :=
  match bucket with
  | none => config.capacity
  | some bucket => min config.capacity (bucket.tokens + (now - bucket.lastTime) * config.rate)

def allow : Bool × Bucket :=
  let tokens := available config bucket now
  if tokens ≥ config.requested then (true, ⟨tokens - config.requested, now⟩) else (false, ⟨tokens, now⟩)

def answers : Option Bucket → List Int → List Bool
  | _, [] => []
  | bucket, now :: later => (allow config bucket now).1 :: answers (some (allow config bucket now).2) later

def bucketAfter (times : List Int) : Option Bucket := times.foldl (fun bucket now => some (allow config bucket now).2) none

theorem available_le : available config bucket now ≤ config.capacity := by
  cases bucket
  · exact le_rfl
  · exact min_le_left _ _

theorem allow_cases : config.requested ≤ available config bucket now ∧
        allow config bucket now = (true, ⟨available config bucket now - config.requested, now⟩) ∨
      available config bucket now < config.requested ∧
        allow config bucket now = (false, ⟨available config bucket now, now⟩) := by
  rcases le_or_gt config.requested (available config bucket now) with enough | short
  · exact .inl ⟨enough, if_pos enough⟩
  · exact .inr ⟨short, if_neg short.not_ge⟩

theorem answers_eq (later : List Int) :
    answers config bucket (now :: later) = answers config (some ⟨available config bucket now, now⟩) (now :: later) := by
  have same : available config (some ⟨available config bucket now, now⟩) now = available config bucket now := by
    simp [available.eq_2, available_le]
  rw [answers, answers, allow, allow, same]

variable {config} {times : List Int} {bucket : Option Bucket} {now : Int} (gains : 0 ≤ config.rate)
  (holds : 0 ≤ config.capacity)
include gains holds

section
variable (kept : ∀ hash ∈ bucket, hash.Kept (now :: times)) (sorted : (now :: times).Pairwise (· ≤ ·))
include kept sorted

theorem available_kept : Bucket.Kept (now :: times) ⟨available config bucket now, now⟩ := by
  refine ⟨?_, forall_mem_cons.mpr ⟨le_rfl, (pairwise_cons.mp sorted).1⟩⟩
  cases bucket with
  | none => exact holds
  | some hash =>
    obtain ⟨filled, later⟩ := kept hash rfl
    exact le_min holds (add_nonneg filled (mul_nonneg (sub_nonneg.mpr (later now mem_cons_self)) gains))

theorem allow_kept : (allow config bucket now).2.Kept times ∧ (allow config bucket now).2.lastTime = now := by
  obtain ⟨filled, follows⟩ := available_kept gains holds kept sorted
  have follows := (forall_mem_cons.mp follows).2
  rcases allow_cases config bucket now with ⟨enough, same⟩ | ⟨_, same⟩ <;> rw [same]
  · exact ⟨⟨sub_nonneg.mpr enough, follows⟩, rfl⟩
  · exact ⟨⟨filled, follows⟩, rfl⟩
end

theorem count_answers_le (bucket : Bucket) (kept : bucket.Kept times) {last : Int} (ends : bucket.lastTime ≤ last)
    (within : ∀ time ∈ times, time ≤ last) (sorted : times.Pairwise (· ≤ ·)) :
    config.requested * (answers config bucket times).count true ≤
      bucket.tokens + (last - bucket.lastTime) * config.rate := by
  induction times generalizing bucket with
  | nil => simpa [answers] using add_nonneg kept.1 (mul_nonneg (sub_nonneg.mpr ends) gains)
  | cons now rest ih =>
    obtain ⟨ends, within⟩ := forall_mem_cons.mp within
    have most : available config bucket now ≤ bucket.tokens + (now - bucket.lastTime) * config.rate := min_le_right _ _
    have left : (allow config bucket now).2.Kept rest := (allow_kept gains holds (by simpa using kept) sorted).1
    have served := ih _ left
    rw [answers]
    rcases allow_cases config bucket now with ⟨_, same⟩ | ⟨_, same⟩ <;>
      rw [same] at served ⊢ <;> have served := served ends within sorted.of_cons
    · rw [count_cons_self]
      push_cast
      linarith
    · rw [count_cons_of_ne Bool.false_ne_true]
      linarith

theorem bucketAfter_kept {before : List Int} (sorted : (before ++ times).Pairwise (· ≤ ·)) :
    ∀ hash ∈ bucketAfter config before, hash.Kept times ∧ hash.lastTime ∈ before := by
  induction before using reverseRecOn generalizing times with
  | nil => simp [bucketAfter]
  | append_singleton before now ih =>
    rw [append_assoc] at sorted
    obtain ⟨kept, last⟩ := allow_kept gains holds (fun hash member => (ih sorted hash member).1)
      (pairwise_append.mp sorted).2.1
    rw [bucketAfter, foldl_concat]
    rintro hash ⟨⟩
    exact ⟨kept, mem_append_right _ (mem_singleton.mpr last)⟩

theorem answers_served (priced : 0 ≤ config.requested) {number : Nat} (bucket : Bucket) (kept : bucket.Kept times)
    (enough : number * config.requested ≤ bucket.tokens) (most : number * config.requested ≤ config.capacity)
    (sorted : times.Pairwise (· ≤ ·)) : ∀ answer ∈ (answers config bucket times).take number, answer = true := by
  induction times generalizing number bucket with
  | nil => simp [answers]
  | cons now rest ih =>
    cases number with
    | zero => simp
    | succ number =>
      have coming := mul_nonneg (sub_nonneg.mpr (kept.2 now mem_cons_self)) gains
      have left : 0 ≤ number * config.requested := by positivity
      push_cast at enough most
      have available : (number + 1) * config.requested ≤ available config bucket now := le_min most (by linarith)
      have later : (allow config bucket now).2.Kept rest := (allow_kept gains holds (by simpa using kept) sorted).1
      rw [answers, take_succ_cons]
      rcases allow_cases config bucket now with ⟨_, same⟩ | ⟨short, same⟩
      · rw [same] at later ⊢
        exact forall_mem_cons.mpr ⟨rfl, ih _ later (by linarith) (by linarith) sorted.of_cons⟩
      · linarith

omit gains holds

theorem totalLimit_bounds {count window : Int} (positive : 0 < count) (lasts : 0 < window)
    (representable : count * window ≤ 2 ^ 53) {before after : List Int} (sorted : (before ++ after).Pairwise (· ≤ ·)) :
    let config := totalLimit count window
    (∀ first length, (∀ time ∈ after, first ≤ time ∧ time ≤ first + length) → 0 ≤ length →
        (answers config (bucketAfter config before) after).count true ≤ count + count * length / window) ∧
      ((∀ old ∈ before, ∀ time ∈ after, old + window ≤ time) →
        ∀ answer ∈ (answers config (bucketAfter config before) after).take count.toNat, answer = true) := by
  intro config
  have capacity : config.capacity = count * window := by
    have fits : count ≤ (2 ^ 63 - 1) / window := (Int.le_ediv_iff_mul_le lasts).mpr (by omega)
    simp only [config, totalLimit, rateLimitCapacity]
    rw [if_neg (by omega), if_neg (by omega)]
  have holds : 0 ≤ config.capacity := capacity ▸ mul_nonneg positive.le lasts.le
  have gains : 0 ≤ config.rate := positive.le
  have kept := bucketAfter_kept gains holds sorted
  have sorted := (pairwise_append.mp sorted).2.1
  cases after with
  | nil =>
    refine ⟨fun first length _ long => ?_, by simp [answers]⟩
    have := Int.ediv_nonneg (mul_nonneg positive.le long) lasts.le
    simp [answers]
    omega
  | cons now rest =>
    have found := available_kept gains holds (fun hash member => (kept hash member).1) sorted
    rw [answers_eq]
    refine ⟨fun first length within _ => ?_, fun pause => ?_⟩
    · -- the stretch begins with a full bucket at most
      have spent := count_answers_le gains holds _ found (within now mem_cons_self).2
        (fun time member => (within time member).2) sorted
      have most := (available_le config (bucketAfter config before) now).trans_eq capacity
      have opened := mul_le_mul_of_nonneg_right (within now mem_cons_self).1 positive.le
      rw [add_comm count, ← Int.add_mul_ediv_left _ _ lasts.ne', Int.le_ediv_iff_mul_le lasts]
      simp only [show config.requested = window from rfl, show config.rate = count from rfl] at spent
      linarith
    · -- a window without requests has filled the bucket
      have enough : count.toNat * config.requested = config.capacity := by
        rw [Int.toNat_of_nonneg positive.le, capacity]
        rfl
      refine answers_served gains holds lasts.le _ found ?_ enough.le sorted
      rw [enough]
      cases stored : bucketAfter config before with
      | none => exact le_rfl
      | some hash =>
        obtain ⟨⟨filled, _⟩, old⟩ := kept hash stored
        have pause := mul_le_mul_of_nonneg_right (pause _ old now mem_cons_self) positive.le
        refine le_min le_rfl ?_
        simp only [config, totalLimit] at capacity ⊢
        linarith

theorem two_a_minute_bounded : ((answers (totalLimit 2 60) none [0, 0, 29]).count true : Int) ≤ 2 + 2 * 29 / 60 ∧
    ∀ answer ∈ (answers (totalLimit 2 60) (bucketAfter (totalLimit 2 60) [0, 0, 29]) [89, 89]).take 2, answer = true := by
  have positive : (0 : Int) < 2 := by decide
  have lasts : (0 : Int) < 60 := by decide
  have sorted : ([] ++ [0, 0, 29] : List Int).Pairwise (· ≤ ·) := by decide
  have followed : ([0, 0, 29] ++ [89, 89] : List Int).Pairwise (· ≤ ·) := by decide
  exact ⟨(totalLimit_bounds positive lasts (by decide) sorted).1 0 29 (by decide) (by decide),
    (totalLimit_bounds positive lasts (by decide) followed).2 (by decide)⟩

end FlowAPI.RateLimit
