import Mathlib.Data.List.Count
import Mathlib.Algebra.BigOperators.Ring.List
import Mathlib.Algebra.Order.BigOperators.Group.List
import Mathlib.Algebra.Order.Ring.Nat

/-! Random choice by weight.

A computation draws at most one number below a bound; its outcomes are the results of all numbers it may draw. A
weighted choice takes the weights of the items from the number one by one and stops at the item where a condition
holds. If it stops below zero, every item is chosen for as many numbers as its weight says. If it stops at zero
already, the first item is chosen once more and the last one once less. -/

set_option autoImplicit false
namespace Semantics
open List

inductive Random (α : Type) where
  | done (value : α)
  | draw (bound : Int) (next : Int → α)

variable {α : Type}

/-- The equally likely outcomes. There are none where the bound is not positive and the draw panics. -/
def Random.outcomes : Random α → Option (List α)
  | .done value => some [value]
  | .draw bound next => if 0 < bound then some ((List.range bound.toNat).map fun value : Nat => next value) else none

def Random.result (value : Int) : Random α → Option α
  | .done result => some result
  | .draw bound next => if 0 ≤ value ∧ value < bound then some (next value) else none

theorem Random.mem_outcomes_of_result {random : Random α} {value : Int} {result : α}
    (drawn : random.result value = some result) : ∃ results, random.outcomes = some results ∧ result ∈ results := by
  cases random with
  | done =>
    cases drawn
    exact ⟨[result], rfl, mem_singleton_self result⟩
  | draw _ next =>
    unfold Random.result at drawn
    dsimp only at drawn
    split at drawn <;> cases drawn
    next range =>
      refine ⟨_, if_pos (by omega), mem_map.mpr ⟨value.toNat, mem_range.mpr (by omega), ?_⟩⟩
      rw [Int.toNat_of_nonneg range.1]

def Random.map {β : Type} (change : α → β) : Random α → Random β
  | .done value => .done (change value)
  | .draw bound next => .draw bound fun value => change (next value)

section
variable (stops : Int → Bool) (step : Int → α → Int)

/-- The item at which a value stops, each step taking an item's weight from it. -/
def pick : List α → Int → Option α
  | [], _ => none
  | item :: rest, value => if stops (step value item) then some item else pick rest (step value item)

theorem mem_of_pick {items : List α} {value : Int} {item : α} (picked : pick stops step items value = some item) :
    item ∈ items := by
  induction items generalizing value with
  | nil => cases picked
  | cons _ _ ih =>
    rw [pick] at picked
    split at picked
    · cases picked
      exact mem_cons_self
    · exact mem_cons_of_mem _ (ih picked)

end

/-- A step takes the weight exactly, for values below a bound. -/
def Takes (step : Int → α → Int) (weight : α → Nat) (bound : Nat) (items : List α) : Prop :=
  ∀ item ∈ items, ∀ value : Nat, value < bound → step value item = value - weight item

def weightSum (weight : α → Nat) (items : List α) : Nat := (items.map weight).sum

section
variable {step : Int → α → Int} {weight : α → Nat} {bound : Nat} {items : List α}

attribute [local simp] weightSum

theorem weightSum_cons (item : α) (rest : List α) : weightSum weight (item :: rest) = weight item + weightSum weight rest := by
  simp

theorem weightSum_mul (factor : Nat) :
    weightSum (fun item => weight item * factor) items = weightSum weight items * factor :=
  sum_map_mul_right items weight factor

variable {item : α}

theorem weight_le_weightSum (member : item ∈ items) : weight item ≤ weightSum weight items :=
  le_sum_of_mem (mem_map_of_mem member)
theorem Takes.tail (takes : Takes step weight bound (item :: items)) : Takes step weight bound items :=
  fun other member => takes other (mem_cons_of_mem _ member)

variable {value : Nat}

theorem pick_cons (takes : Takes step weight bound (item :: items)) (below : value < bound) :
    pick (· < 0) step (item :: items) value =
      if value < weight item then some item else pick (· < 0) step items ((value - weight item : Nat) : Int) := by
  have taken := takes item mem_cons_self value below
  rw [pick, taken]
  by_cases stopped : value < weight item
  · have negative : (value : Int) - weight item < 0 := by omega
    simp [stopped, negative]
  have rest : (value : Int) - weight item = ((value - weight item : Nat) : Int) := by omega
  have remains : ¬((value - weight item : Nat) : Int) < 0 := by omega
  rw [rest]
  simp [stopped, remains]

theorem pick_isSome (takes : Takes step weight bound items) (below : value < weightSum weight items)
    (within : value < bound) : (pick (· < 0) step items value).isSome := by
  induction items generalizing value with
  | nil => simp at below
  | cons _ _ ih =>
    rw [pick_cons takes within]
    split
    · rfl
    next _ =>
      rw [weightSum_cons] at below
      exact ih takes.tail (by omega) (by omega)

/-- Every item is picked for as many values as its weight says, once for each of its occurrences. -/
theorem countP_pick [DecidableEq α] (takes : Takes step weight bound items) (fits : weightSum weight items ≤ bound)
    (item : α) :
    (range (weightSum weight items)).countP (fun value : Nat => pick (· < 0) step items value = some item) =
      items.count item * weight item := by
  induction items with
  | nil => simp
  | cons first rest ih =>
    rw [weightSum_cons] at fits
    have here : (range (weight first)).countP
        (fun value : Nat => pick (· < 0) step (first :: rest) value = some item) =
          if first = item then weight first else 0 := by
      have chosen : ∀ value ∈ range (weight first),
          decide (pick (· < 0) step (first :: rest) (value : Nat) = some item) = decide (first = item) := by
        intro value member
        rw [mem_range] at member
        rw [pick_cons takes (by omega), if_pos member]
        simp
      rw [countP_congr fun value member => by rw [chosen value member]]
      by_cases same : first = item <;> simp [same]
    have later : ((range (weightSum weight rest)).map (weight first + ·)).countP
        (fun value : Nat => pick (· < 0) step (first :: rest) value = some item) =
          rest.count item * weight item := by
      rw [← ih takes.tail (by omega), countP_map]
      apply countP_congr
      intro value member
      rw [mem_range] at member
      have beyond : ¬weight first + value < weight first := by omega
      have remaining : weight first + value - weight first = value := by omega
      simp only [Function.comp_apply]
      rw [pick_cons takes (by omega), if_neg beyond, remaining]
    rw [weightSum_cons, range_add, countP_append, here, later, count_cons]
    by_cases same : first = item
    · simp [same, Nat.add_mul, Nat.add_comm]
    · simp [same]

theorem pick_succ (takes : Takes step weight bound items) (within : value + 1 < bound) :
    pick (· ≤ 0) step items ((value + 1 : Nat) : Int) = pick (· < 0) step items value := by
  induction items generalizing value with
  | nil => rfl
  | cons item _ ih =>
    have taken := takes item mem_cons_self (value + 1) within
    rw [pick_cons takes (by omega), pick, taken]
    simp only [decide_eq_true_eq]
    by_cases stopped : value < weight item
    · have reached : ((value + 1 : Nat) : Int) - weight item ≤ 0 := by omega
      rw [if_pos reached, if_pos stopped]
    · have remaining : ((value + 1 : Nat) : Int) - weight item = ((value - weight item + 1 : Nat) : Int) := by omega
      have positive : ¬((value - weight item + 1 : Nat) : Int) ≤ 0 := by omega
      rw [remaining, if_neg positive, if_neg stopped, ih takes.tail (by omega)]

theorem pick_zero (takes : Takes step weight bound (item :: items)) (within : 0 < bound) :
    pick (· ≤ 0) step (item :: items) 0 = (item :: items).head? := by
  have taken := takes item mem_cons_self 0 within
  rw [Int.natCast_zero] at taken
  rw [pick, taken]
  simp

theorem pick_last (takes : Takes step weight bound items) (positive : ∀ item ∈ items, 0 < weight item)
    (largest : value + 1 = weightSum weight items) (within : value < bound) :
    pick (· < 0) step items value = items.getLast? := by
  induction items generalizing value with
  | nil => simp at largest
  | cons item rest ih =>
    rw [weightSum_cons] at largest
    rw [pick_cons takes within]
    cases rest with
    | nil =>
      have here : value < weight item := by simp at largest; omega
      simp [here]
    | cons next =>
      have further := positive next (by simp)
      have beyond : ¬value < weight item := by
        rw [weightSum_cons] at largest
        omega
      rw [if_neg beyond, ih takes.tail (fun other member => positive other (mem_cons_of_mem _ member)) (by omega)
        (by omega), getLast?_cons_cons]

/-- Stopping at zero favours the first item by one value, at the cost of the last one. -/
theorem countP_pick_atMost [DecidableEq α] (takes : Takes step weight bound items)
    (positive : ∀ item ∈ items, 0 < weight item) (fits : weightSum weight items ≤ bound) (item : α) :
    (range (weightSum weight items)).countP (fun value : Nat => pick (· ≤ 0) step items value = some item) +
        (if items.getLast? = some item then 1 else 0) =
      items.count item * weight item + (if items.head? = some item then 1 else 0) := by
  cases items with
  | nil => simp
  | cons first rest =>
    have weighty := positive first mem_cons_self
    obtain ⟨largest, sum⟩ : ∃ largest, largest + 1 = weightSum weight (first :: rest) := by
      refine ⟨weightSum weight (first :: rest) - 1, ?_⟩
      rw [weightSum_cons]
      omega
    have exact := countP_pick takes fits item
    rw [← sum, range_succ, countP_append] at exact
    have last := pick_last takes positive sum (by omega)
    have shifted : ((range largest).map (· + 1)).countP
        (fun value : Nat => pick (· ≤ 0) step (first :: rest) value = some item) =
          (range largest).countP (fun value : Nat => pick (· < 0) step (first :: rest) value = some item) := by
      rw [countP_map]
      apply countP_congr
      intro value member
      rw [mem_range] at member
      simp only [Function.comp_apply]
      rw [pick_succ takes (by omega)]
    have zero := pick_zero takes (by omega)
    rw [← sum, range_succ_eq_map, countP_cons, shifted, ← exact]
    simp only [countP_singleton, decide_eq_true_eq, last, Int.natCast_zero, zero]
    omega

end

end Semantics
