import Mathlib.Data.List.AList

/-! Go maps with decidable equality. A nil map is an empty one: reading cannot tell them
apart, and the code makes a map before it writes to one. -/

set_option autoImplicit false
namespace FlowAPI.Golang

structure Map (K V : Type) [DecidableEq K] where
  entries : AList fun _ : K => V

namespace Map

variable {K V : Type} [DecidableEq K]

theorem ext {left right : Map K V} (same : left.entries.entries = right.entries.entries) : left = right := by
  exact congrArg Map.mk (AList.ext same)
instance [DecidableEq V] : DecidableEq (Map K V) := fun left right =>
  decidable_of_iff (left.entries.entries = right.entries.entries) ⟨ext, fun same => same ▸ rfl⟩
def empty : Map K V := ⟨∅⟩

variable (map : Map K V)

def get? (key : K) : Option V := map.entries.lookup key
def set (key : K) (value : V) : Map K V := ⟨map.entries.insert key value⟩
def delete (key : K) : Map K V := ⟨map.entries.erase key⟩
def keys (map : Map K V) : List K := map.entries.keys

/-- `for key := range map { if … { delete(map, key) } }`. -/
def retain (keep : K → Bool) (map : Map K V) : Map K V :=
  map.keys.foldl (fun rest key => if keep key then rest else rest.delete key) map

/-- `for key, value := range map { map[key] = … }`. -/
def update (change : V → V) (map : Map K V) : Map K V :=
  map.keys.foldl
    (fun changed key =>
      match changed.get? key with
      | some value => changed.set key (change value)
      | none => changed) map

@[simp] theorem get?_empty (key : K) : (empty : Map K V).get? key = none := rfl

theorem get?_set (key : K) (value : V) (target : K) :
    (map.set key value).get? target = if target = key then some value else map.get? target := by
  unfold get? set
  split
  next same => rw [same, AList.lookup_insert]
  next differs => rw [AList.lookup_insert_ne differs]

theorem get?_delete (key target : K) :
    (map.delete key).get? target = if target = key then none else map.get? target := by
  unfold get? delete
  split
  next same => rw [same, AList.lookup_erase]
  next differs => rw [AList.lookup_erase_ne differs]

theorem get?_of_not_mem {map : Map K V} {key : K} (missing : key ∉ map.keys) : map.get? key = none :=
  AList.lookup_eq_none.mpr missing

/-- A loop over the keys of a map that changes the entry of each key by itself, and makes none. -/
private theorem get?_range {step : Map K V → K → Map K V} (entry : K → Option V → Option V)
    (absent : ∀ key, entry key none = none)
    (own : ∀ map key target,
      (step map key).get? target = if target = key then entry key (map.get? key) else map.get? target)
    (map : Map K V) (target : K) : (map.keys.foldl step map).get? target = entry target (map.get? target) := by
  have loop (keys : List K) (distinct : keys.Nodup) (start : Map K V) : (keys.foldl step start).get? target =
      if target ∈ keys then entry target (start.get? target) else start.get? target := by
    induction keys generalizing start with
    | nil => simp
    | cons key _ ih =>
      obtain ⟨fresh, distinct⟩ := List.nodup_cons.mp distinct
      rw [List.foldl_cons, ih distinct, own]
      by_cases same : target = key
      · simp [same, fresh]
      · simp [same]
  rw [loop map.keys map.entries.nodupKeys]
  by_cases present : target ∈ map.keys
  · rw [if_pos present]
  · rw [if_neg present, get?_of_not_mem present, absent]

theorem get?_retain (keep : K → Bool) (map : Map K V) (target : K) :
    (map.retain keep).get? target = if keep target then map.get? target else none := by
  refine get?_range (fun key value => if keep key then value else none) (fun _ => ite_self _) ?_ map target
  intro map key target
  by_cases kept : keep key = true
  · by_cases same : target = key <;> simp [kept, same]
  · simp [kept, get?_delete]

theorem get?_update (change : V → V) (map : Map K V) (target : K) :
    (map.update change).get? target = (map.get? target).map change := by
  refine get?_range (fun _ value => value.map change) (fun _ => rfl) ?_ map target
  intro map key target
  cases found : map.get? key with
  | none => by_cases same : target = key <;> simp [same, found]
  | some => simp [get?_set]

end Map

end FlowAPI.Golang
