import Mathlib.Data.List.Dedup
import Mathlib.Data.List.Perm.Basic

/-! Lists grouped by a key, and maps into which a loop writes one key after the other.

Grouping loses no entry and doubles none. A map that is written in a loop keeps the last
value of every key, so it is an association list read from its end.
-/

set_option autoImplicit false
namespace Semantics.Grouping
open List
variable {α κ : Type}

section
variable [DecidableEq κ] (key : α → κ)

theorem flatMap_filter_perm {keys : List κ} (distinct : keys.Nodup) {entries : List α}
    (keyed : ∀ entry ∈ entries, key entry ∈ keys) :
    (keys.flatMap fun group => entries.filter fun entry => key entry = group).Perm entries := by
  induction keys generalizing entries with
  | nil =>
    cases entries with
    | nil => exact .nil
    | cons entry => exact absurd (keyed entry mem_cons_self) not_mem_nil
  | cons first keys step =>
    obtain ⟨absent, distinct⟩ := nodup_cons.mp distinct
    -- the other groups do not notice that the first one is gone
    have others : ∀ group ∈ keys, (entries.filter fun entry => key entry = group) =
        (entries.filter fun entry => !decide (key entry = first)).filter fun entry => key entry = group := by
      intro group within
      rw [filter_filter]
      refine filter_congr fun entry _ => ?_
      have differs : key entry = group → key entry ≠ first := fun here there => absent (there ▸ here ▸ within)
      by_cases here : key entry = group
      · simp [here, here ▸ differs here]
      · simp [here]
    have rest := step distinct fun entry
        (within : entry ∈ entries.filter fun entry => !decide (key entry = first)) => by
      obtain ⟨member, apart⟩ := mem_filter.mp within
      have apart : key entry ≠ first := by simpa using apart
      exact mem_of_ne_of_mem apart (keyed entry member)
    rw [flatMap_cons]
    have same : (keys.flatMap fun group => entries.filter fun entry => key entry = group) =
        keys.flatMap fun group => (entries.filter fun entry => !decide (key entry = first)).filter
          fun entry => key entry = group := by
      rw [flatMap_def, flatMap_def, map_congr_left others]
    rw [same]
    exact (rest.append_left _).trans (filter_append_perm _ entries)

theorem grouped_perm (entries : List α) :
    ((entries.map key).dedup.flatMap fun group => entries.filter fun entry => key entry = group).Perm entries :=
  flatMap_filter_perm key (nodup_dedup _) fun _ member => mem_dedup.mpr (mem_map_of_mem member)

theorem filter_key_eq {entries : List α} (distinct : (entries.map key).Nodup) {entry : α}
    (member : entry ∈ entries) : (entries.filter fun other => key other = key entry) = [entry] := by
  classical
  have same : ∀ other ∈ entries, decide (key other = key entry) = decide (other = entry) := fun other listed =>
    decide_eq_decide.mpr ⟨inj_on_of_nodup_map distinct listed member, congrArg key⟩
  rw [filter_congr same, filter_eq, count_eq_one_of_mem (Nodup.of_map _ distinct) member, replicate_one]

end

section
variable [DecidableEq κ] {ν : Type} (key : α → κ) (value : α → ν)

def written (entries : List α) : List (κ × ν) := (entries.map fun entry => (key entry, value entry)).reverse

variable {target : κ}

theorem lookup_mem {pairs : List (κ × ν)} {found : ν} (here : pairs.lookup target = some found) :
    (target, found) ∈ pairs := by
  obtain ⟨before, _, rfl, -⟩ := lookup_eq_some_iff.mp here
  exact mem_append_right before mem_cons_self

theorem lookup_isSome_of_mem {pairs : List (κ × ν)} {held : ν} (member : (target, held) ∈ pairs) :
    ∃ found, pairs.lookup target = some found := by
  cases looked : pairs.lookup target with
  | some found => exact ⟨found, rfl⟩
  | none =>
    have absent := lookup_eq_none_iff.mp looked _ member
    simp at absent

theorem written_lookup {entries : List α} {found : ν} (here : (written key value entries).lookup target = some found) :
    ∃ entry ∈ entries, key entry = target ∧ value entry = found := by
  obtain ⟨entry, member, same⟩ := mem_map.mp (mem_reverse.mp (lookup_mem here))
  exact ⟨entry, member, congrArg Prod.fst same, congrArg Prod.snd same⟩

theorem written_holds {entries : List α} {entry : α} (member : entry ∈ entries) :
    ∃ found, (written key value entries).lookup (key entry) = some found :=
  lookup_isSome_of_mem (mem_reverse.mpr (mem_map_of_mem member))

end

/-- Numbers that start again with each group are distinct only if at most one group has any. -/
theorem nodup_restarts_iff (first : Nat) (count : α → Nat) (groups : List α) :
    (groups.flatMap fun group => List.range' first (count group)).Nodup ↔
      groups.Pairwise fun earlier later => count earlier = 0 ∨ count later = 0 := by
  rw [nodup_flatMap, and_iff_right fun _ _ => nodup_range']
  refine List.Pairwise.iff fun earlier later => ?_
  constructor
  · intro apart
    by_contra both
    exact apart (mem_range'_1.mpr (show first ≤ first ∧ _ by omega))
      (mem_range'_1.mpr (show first ≤ first ∧ _ by omega))
  · rintro (none | none) <;> simp [Function.onFun, none]

end Semantics.Grouping
