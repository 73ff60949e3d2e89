import FlowAPI.Channels.Selection

/-! How often `GetChannel` picks each ability.

Its loop stops at zero, so among several abilities the first one is picked once too
often and the last one once too rarely.
-/

set_option autoImplicit false
namespace FlowAPI.Channels
open Golang Semantics List

namespace Database

def drawWeight (ability : Ability) : Nat := ability.weight.toNat + 10

/-- The values 0 up to the sum of all `Weight + 10` are drawn, each picks an ability, and each ability is picked by
`Weight + 10` of them. -/
def Fair (abilities : List Ability) : Prop :=
  ∃ results, (pickAbility abilities).outcomes = some results ∧ results.length = weightSum drawWeight abilities ∧
    (∀ result ∈ results, result.isSome) ∧ ∀ ability ∈ abilities, results.count (some ability) = drawWeight ability

theorem toNat_abilityWeightSum (abilities : List Ability) :
    (abilityWeightSum abilities).toNat = weightSum drawWeight abilities % 2 ^ 64 := by
  have folded : ∀ sum : UInt64,
      (abilities.foldl (fun weightSum ability => weightSum + (ability.weight + 10)) sum).toNat =
        (sum.toNat + weightSum drawWeight abilities) % 2 ^ 64 := by
    induction abilities with
    | nil => simp [weightSum]
    | cons _ _ ih =>
      intro sum
      rw [foldl_cons, ih, weightSum_cons, UInt64.toNat_add, UInt64.toNat_add]
      simp [drawWeight]
      omega
  simpa [abilityWeightSum] using folded 0

variable {abilities : List Ability}

theorem takes_of_fits (fits : weightSum drawWeight abilities < 2 ^ 63) : Takes takeAbility drawWeight
      (weightSum drawWeight abilities) abilities := by
  intro ability member value below
  have bounded : drawWeight ability ≤ weightSum drawWeight abilities := weight_le_weightSum member
  have heavy : drawWeight ability = ability.weight.toNat + 10 := rfl
  have weight : int ability.weight.toNat = ability.weight.toNat := int_of_fits (by omega) (by omega)
  have raised : int ((ability.weight.toNat : Int) + 10) = ability.weight.toNat + 10 := int_of_fits (by omega) (by omega)
  rw [takeAbility, weight, raised, int_of_fits (by omega) (by omega), drawWeight]
  omega

theorem outcomes_pickAbility (nonempty : abilities ≠ []) (fits : weightSum drawWeight abilities < 2 ^ 63) :
    (pickAbility abilities).outcomes = some ((range (weightSum drawWeight abilities)).map fun value : Nat =>
      pick (· ≤ 0) takeAbility abilities value) := by
  obtain ⟨ability, rest, rfl⟩ := exists_cons_of_ne_nil nonempty
  have positive : 0 < weightSum drawWeight (ability :: rest) := by
    rw [weightSum_cons, drawWeight]
    omega
  have bound : int (abilityWeightSum (ability :: rest)).toNat = weightSum drawWeight (ability :: rest) := by
    rw [toNat_abilityWeightSum, Nat.mod_eq_of_lt (by omega)]
    exact int_of_fits (by omega) (by omega)
  rw [pickAbility, Random.outcomes, bound, if_pos (by omega), Int.toNat_natCast]

theorem sum_lt_of_fair (fair : Fair abilities) : weightSum drawWeight abilities < 2 ^ 63 := by
  obtain ⟨_, drawn, length, -, -⟩ := fair
  rw [pickAbility, Random.outcomes] at drawn
  split_ifs at drawn
  rw [Option.some.injEq] at drawn
  rw [← drawn, length_map, length_range] at length
  have upper := int_lt (abilityWeightSum abilities).toNat
  omega

theorem count_map_pick (pick : Nat → Option Ability) (values : List Nat) (ability : Ability) :
    (values.map pick).count (some ability) = values.countP fun value => pick value = some ability := by
  rw [count_eq_countP, countP_map]
  apply countP_congr
  intro value _
  simp

theorem candidateAbilities_nodup {compile : String → Option (String → Bool)} {db : Database} {group model : String}
    {retry : Nat} {requestPath : String}
    (found : db.candidateAbilities compile group model retry requestPath = .ok abilities) : abilities.Nodup := by
  have enabled : (db.enabledAbilities group model).Nodup := (List.Nodup.of_map _ db.abilities.unique).filter _
  have sorted : ∀ priority : Int,
      (((db.enabledAbilities group model).filter fun ability => decide (ability.priority = priority)).insertionSort
        fun left right => left.weight ≥ right.weight).Nodup :=
    fun priority => (perm_insertionSort _ _).nodup_iff.mpr (enabled.filter _)
  have filtered : ∀ rows : List Ability, rows.Nodup →
      (db.filterAbilitiesByRequestPathAndModel compile rows requestPath model).Nodup := by
    intro rows distinct
    unfold filterAbilitiesByRequestPathAndModel
    split
    · exact distinct
    · exact distinct.filter _
  have queried : ∀ rows, db.getChannelQuery group model retry = .ok rows → rows.Nodup := by
    intro rows asked
    unfold getChannelQuery at asked
    split at asked
    · cases level : db.getPriority group model retry with rw [level] at asked
      | error => cases asked
      | ok priority =>
        cases asked
        exact sorted priority
    · cases asked
      cases ((db.enabledAbilities group model).map Ability.priority).max? with
      | none => exact nodup_nil
      | some priority => exact sorted priority
  unfold candidateAbilities at found
  cases asked : db.getChannelQuery group model retry with
  | error =>
    rw [asked] at found
    cases found
  | ok rows =>
    rw [asked] at found
    cases found
    exact filtered rows (queried rows asked)

theorem single_of_fair {first : Ability} {rest : List Ability} (distinct : (first :: rest).Nodup)
    (fair : Fair (first :: rest)) : rest = [] := by
  have fits := sum_lt_of_fair fair
  obtain ⟨_, drawn, -, -, counts⟩ := fair
  rw [outcomes_pickAbility (cons_ne_nil _ _) fits, Option.some.injEq] at drawn
  have positive : ∀ ability ∈ first :: rest, 0 < drawWeight ability := fun ability _ => by
    unfold drawWeight
    omega
  have shifted := countP_pick_atMost (takes_of_fits fits) positive (Nat.le_refl _) first
  have exact := counts first mem_cons_self
  have once : (first :: rest).count first = 1 := count_eq_one_of_mem distinct mem_cons_self
  rw [← drawn, count_map_pick] at exact
  rw [exact, once, head?_cons, if_pos rfl] at shifted
  have last : (first :: rest).getLast? = some first := by
    by_contra other
    rw [if_neg other] at shifted
    omega
  cases rest with
  | nil => rfl
  | cons =>
    rw [getLast?_cons_cons] at last
    exact absurd (mem_of_getLast? last) (nodup_cons.mp distinct).1

theorem fair_single {first : Ability} (fits : weightSum drawWeight [first] < 2 ^ 63) : Fair [first] := by
  have whole : weightSum drawWeight [first] = drawWeight first := by simp [weightSum]
  have picked : ∀ value < weightSum drawWeight [first],
      pick (· ≤ 0) takeAbility [first] (value : Nat) = some first := by
    intro value below
    have taken := takes_of_fits fits first mem_cons_self value below
    have reached : (value : Int) - drawWeight first ≤ 0 := by omega
    rw [pick, taken]
    simp only [decide_eq_true_eq]
    rw [if_pos reached]
  have same : ((range (weightSum drawWeight [first])).map fun value : Nat =>
      pick (· ≤ 0) takeAbility [first] value) = replicate (weightSum drawWeight [first]) (some first) := by
    rw [eq_replicate_iff]
    refine ⟨by simp, fun result member => ?_⟩
    obtain ⟨value, inRange, rfl⟩ := mem_map.mp member
    exact picked value (mem_range.mp inRange)
  have drawn := outcomes_pickAbility (cons_ne_nil first []) fits
  rw [same] at drawn
  refine ⟨_, drawn, length_replicate, fun result member => ?_, fun ability member => ?_⟩
  · rw [(mem_replicate.mp member).2]
    rfl
  · rw [mem_singleton.mp member, count_replicate_self, whole]

/-- The draw is fair exactly for a single ability whose sum fits a signed integer: among several abilities the
first is picked once too often. -/
theorem getChannel_fair_iff (compile : String → Option (String → Bool)) (db : Database) (group model : String)
    (retry : Nat) (requestPath : String) (abilities : List Ability)
    (found : db.candidateAbilities compile group model retry requestPath = .ok abilities) (nonempty : abilities ≠ []) :
    db.getChannel compile group model retry requestPath = (pickAbility abilities).map db.firstChannel ∧
      (Fair abilities ↔ abilities.length = 1 ∧ weightSum drawWeight abilities < 2 ^ 63) := by
  have distinct := candidateAbilities_nodup found
  obtain ⟨_, rest, rfl⟩ := exists_cons_of_ne_nil nonempty
  refine ⟨by rw [getChannel, found], fun fair => ?_, fun ⟨length, fits⟩ => ?_⟩
  · have single := single_of_fair distinct fair
    exact ⟨by rw [single, length_singleton], sum_lt_of_fair fair⟩
  · obtain rfl : rest = [] := eq_nil_of_length_eq_zero (by simpa using length)
    exact fair_single fits

section
variable (weights : List UInt64)

def sampleAbilities : List Ability :=
  weights.zipIdx.map fun (weight, position) => ⟨"default", "m", position + 1, true, 0, weight⟩

end

def singleAbility : Database where
  abilities := ⟨sampleAbilities [5], by decide⟩
  channels := ⟨[{ id := 1, group := "default", models := "m" }], by decide⟩

theorem getChannel_fair_single :
    (singleAbility.getChannel (fun _ => none) "default" "m" 0 "") =
        (pickAbility (sampleAbilities [5])).map singleAbility.firstChannel ∧ Fair (sampleAbilities [5]) := by
  have draw := getChannel_fair_iff (fun _ => none) singleAbility "default" "m" 0 "" (sampleAbilities [5]) (by decide)
    (by decide)
  exact ⟨draw.1, draw.2.mpr (by decide)⟩

def twoAbilities : Database where
  abilities := ⟨sampleAbilities [0, 0], by decide⟩
  channels := ⟨[{ id := 1, group := "default", models := "m" }, { id := 2, group := "default", models := "m" }], by
    decide⟩

/-- Of twenty values the first of two equal abilities is picked by eleven. -/
theorem getChannel_favours_first :
    twoAbilities.candidateAbilities (fun _ => none) "default" "m" 0 "" = .ok (sampleAbilities [0, 0]) ∧
      ((pickAbility (sampleAbilities [0, 0])).outcomes.map fun results =>
        (sampleAbilities [0, 0]).map fun ability => results.count (some ability)) = some [11, 9] ∧
      ¬Fair (sampleAbilities [0, 0]) := by
  have counted : ((pickAbility (sampleAbilities [0, 0])).outcomes.map fun results =>
      (sampleAbilities [0, 0]).map fun ability => results.count (some ability)) = some [11, 9] := by decide
  refine ⟨by decide, counted, ?_⟩
  rintro ⟨_, drawn, -, -, counts⟩
  rw [drawn, Option.map_some, map_congr_left counts] at counted
  exact absurd counted (by decide)

end Database

end FlowAPI.Channels
