import Mathlib.Data.List.Nodup
import Mathlib.Data.List.Pairwise

/-! Keyed tables and conditional updates.

A table is a list of rows whose keys are distinct, and the distinctness is part
of the type. A statement `UPDATE .. WHERE ..` changes the rows it selects and
keeps every key, so looking a row up after it is looking it up before. An
`INSERT` needs a key that no row has.
-/

set_option autoImplicit false
namespace Semantics
open List
variable {Row Key : Type}

structure Table (key : Row → Key) where
  rows : List Row
  unique : (rows.map key).Nodup

namespace Table

variable {key : Row → Key}

@[ext] theorem ext {left right : Table key} (same : left.rows = right.rows) : left = right := by
  cases right
  cases same
  rfl

instance [DecidableEq Row] : DecidableEq (Table key) :=
  fun left right => decidable_of_iff (left.rows = right.rows) ⟨ext, congrArg rows⟩

section
variable [DecidableEq Key]

def find (table : Table key) (target : Key) : Option Row := table.rows.find? fun row => decide (key row = target)

theorem mem_of_find {table : Table key} {target : Key} {row : Row} (found : table.find target = some row) :
    row ∈ table.rows ∧ key row = target := by
  have matched := find?_some found
  exact ⟨mem_of_find?_eq_some found, of_decide_eq_true matched⟩

theorem find_of_mem {table : Table key} {row : Row} (member : row ∈ table.rows) : table.find (key row) = some row := by
  cases found : table.find (key row) with
  | none => exact absurd (find?_eq_none.mp found row member) (by simp)
  | some =>
    obtain ⟨listed, same⟩ := mem_of_find found
    rw [inj_on_of_nodup_map table.unique listed member same]

end

theorem map_change {Column : Type} (rows : List Row) (selects : Row → Bool) (change : Row → Row)
    (column : Row → Column) (keeps : ∀ row, selects row = true → column (change row) = column row) :
    (rows.map fun row => if selects row then change row else row).map column = rows.map column := by
  rw [map_map]
  apply map_congr_left
  intro row _
  simp only [Function.comp]
  split
  next selected => exact keeps row selected
  next => rfl

/-- A unique index on a nullable column separates the rows that have a value. -/
theorem eq_of_nodup_filterMap {Column : Type} {rows : List Row} {column : Row → Option Column}
    (unique : (rows.filterMap column).Nodup) {first second : Row} (firstMember : first ∈ rows)
    (secondMember : second ∈ rows) {value : Column} (firstValue : column first = some value)
    (secondValue : column second = some value) : first = second := by
  have symmetric : Std.Symm fun first second =>
      ∀ value, column first = some value → ∀ other, column second = some other → value ≠ other :=
    ⟨fun _ _ apart value has other shares => (apart other shares value has).symm⟩
  by_contra differs
  exact (pairwise_filterMap.mp unique).forall firstMember secondMember differs value firstValue value secondValue rfl

theorem nodup_concat {Column : Type} {rows : List Row} {column : Row → Column} {row : Row}
    (unique : (rows.map column).Nodup) (fresh : ∀ other ∈ rows, column other ≠ column row) :
    ((rows ++ [row]).map column).Nodup := by
  rw [map_append]
  refine nodup_append.mpr ⟨unique, nodup_singleton _, ?_⟩
  intro first listed second added same
  obtain ⟨other, member, rfl⟩ := mem_map.mp listed
  exact fresh other member (same.trans (mem_singleton.mp added))

/-- `UPDATE .. SET change WHERE selects`. -/
def modify (table : Table key) (selects : Row → Bool) (change : Row → Row)
    (keeps : ∀ row, selects row = true → key (change row) = key row) : Table key where
  rows := table.rows.map fun row => if selects row then change row else row
  unique := by
    rw [map_change table.rows selects change key keeps]
    exact table.unique

/-- `INSERT` of a row whose key is new. -/
def insert (table : Table key) (row : Row) (fresh : ∀ other ∈ table.rows, key other ≠ key row) : Table key where
  rows := table.rows ++ [row]
  unique := nodup_concat table.unique fresh

/-- `DELETE .. WHERE selects`. -/
def delete (table : Table key) (selects : Row → Bool) : Table key where
  rows := table.rows.filter fun row => !selects row
  unique := table.unique.sublist (List.Sublist.map key filter_sublist)

theorem mem_delete {table : Table key} {selects : Row → Bool} {row : Row} :
    row ∈ (table.delete selects).rows ↔ row ∈ table.rows ∧ selects row = false := by
  simp [delete]

theorem mem_modify {table : Table key} {selects : Row → Bool} {change : Row → Row}
    {keeps : ∀ row, selects row = true → key (change row) = key row} {row : Row} :
    row ∈ (table.modify selects change keeps).rows ↔
      ∃ before ∈ table.rows, (if selects before then change before else before) = row :=
  mem_map

variable [DecidableEq Key]

theorem find_modify (table : Table key) (selects : Row → Bool) (change : Row → Row)
    (keeps : ∀ row, selects row = true → key (change row) = key row) (target : Key) :
    (table.modify selects change keeps).find target =
      (table.find target).map fun row => if selects row then change row else row := by
  have same : ((fun row => decide (key row = target)) ∘ fun row => if selects row then change row else row) =
      fun row => decide (key row = target) := by
    funext row
    simp only [Function.comp]
    split
    next selected => rw [keeps row selected]
    next => rfl
  rw [find, find, modify, List.find?_map, same]

theorem find_insert (table : Table key) (row : Row) (fresh : ∀ other ∈ table.rows, key other ≠ key row) (target : Key) :
    (table.insert row fresh).find target = if key row = target then some row else table.find target := by
  by_cases same : key row = target
  · subst same
    have absent : (table.rows.find? fun other => decide (key other = key row)) = none :=
      List.find?_eq_none.mpr fun other member => by simpa using fresh other member
    simp [find, insert, List.find?_append, absent]
  · simp [find, insert, List.find?_append, same]

end Table

end Semantics
