import Mathlib.Algebra.Order.BigOperators.Group.List
import Mathlib.Data.List.Nodup
import Mathlib.Tactic.Abel

/-! Pools of pending jobs and additive weights over them.

A concurrent program is a list of jobs. Running the job at a position replaces
it by the jobs it leaves behind: none when it ends, several when it forks.
Whatever the remaining jobs still owe is a sum over the pool, and one equation
says how a single job changes it.
-/

set_option autoImplicit false
namespace Semantics.Pool
open List
variable {Job : Type}

def replace (jobs : List Job) (index : Nat) (next : List Job) : List Job :=
  jobs.take index ++ next ++ jobs.drop (index + 1)

variable {jobs next : List Job} {index : Nat} {job other : Job}

theorem split_at (selected : jobs[index]? = some job) : jobs = jobs.take index ++ job :: jobs.drop (index + 1) := by
  obtain ⟨_, same⟩ := List.getElem?_eq_some_iff.mp selected
  rw [← same, getElem_cons_drop, take_append_drop]

theorem mem_of_replace (member : job ∈ replace jobs index next) : job ∈ jobs ∨ job ∈ next := by
  simp only [replace, mem_append] at member
  rcases member with (front | added) | back
  · exact .inl (mem_of_mem_take front)
  · exact .inr added
  · exact .inl (mem_of_mem_drop back)

theorem forall_replace {P : Job → Prop} (old : ∀ job ∈ jobs, P job) (new : ∀ job ∈ next, P job) :
    ∀ job ∈ replace jobs index next, P job :=
  fun job member => (mem_of_replace member).elim (old job) (new job)

theorem forall_set {P : Job → Prop} (old : ∀ job ∈ jobs, P job) (new : P job) : ∀ other ∈ jobs.set index job, P other :=
  fun other member => (mem_or_eq_of_mem_set member).elim (old other) (· ▸ new)

theorem getElem?_set_cases {position : Nat} (selected : (jobs.set index job)[position]? = some other) :
    index = position ∧ other = job ∨ index ≠ position ∧ jobs[position]? = some other := by
  rw [List.getElem?_set] at selected
  split at selected
  next same =>
    split_ifs at selected
    exact .inl ⟨same, (Option.some.inj selected).symm⟩
  next differs => exact .inr ⟨differs, selected⟩

theorem getElem?_append_cases (selected : (jobs ++ [job])[index]? = some other) :
    other = job ∨ jobs[index]? = some other := by
  rw [List.getElem?_append] at selected
  split at selected
  next => exact .inr selected
  next => exact .inl (mem_singleton.mp (mem_of_getElem? selected))

theorem mem_replace (selected : jobs[index]? = some job)
    (member : other ∈ jobs) (differs : other ≠ job) : other ∈ replace jobs index next := by
  rw [split_at selected] at member
  rcases mem_append.mp member with front | rest
  · exact mem_append_left _ (mem_append_left _ front)
  · rcases mem_cons.mp rest with same | back
    · exact absurd same differs
    · exact mem_append_right _ back

theorem mem_replace_next (member : other ∈ next) : other ∈ replace jobs index next :=
  mem_append_left _ (mem_append_right _ member)

theorem getElem?_replace (selected : jobs[index]? = some job)
    (next : Job) : (replace jobs index [next])[index]? = some next := by
  obtain ⟨_, _⟩ := List.getElem?_eq_some_iff.mp selected
  have length : (jobs.take index).length = index := by simp; omega
  simp [replace, length]

theorem replace_last (front next : List Job) (job : Job) :
    replace (front ++ [job]) front.length next = front ++ next := by
  simp [replace]

section
variable {Key : Type} {key : Job → Option Key} {jobs next : List Job} {index : Nat} {job : Job}

/-- No two positions of the pool have one key. -/
def Exclusive (key : Job → Option Key) (jobs : List Job) : Prop :=
  ∀ {i j : Nat} {job other : Job} {value : Key}, jobs[i]? = some job → jobs[j]? = some other →
    key job = some value → key other = some value → i = j

theorem Exclusive.set (exclusive : Exclusive key jobs) (free : ∀ {i : Nat} {other : Job} {value : Key}, index ≠ i →
    jobs[i]? = some other → key job = some value → key other ≠ some value) : Exclusive key (jobs.set index job) := by
  intro i j first second value found found' has has'
  rcases getElem?_set_cases found with ⟨rfl, rfl⟩ | ⟨differs, old⟩ <;>
    rcases getElem?_set_cases found' with ⟨rfl, rfl⟩ | ⟨differs', old'⟩
  · rfl
  · exact absurd has' (free differs' old' has)
  · exact absurd has (free differs old has')
  · exact exclusive old old' has has'

theorem Exclusive.append (exclusive : Exclusive key jobs) (idle : key job = none) : Exclusive key (jobs ++ [job]) := by
  intro i j first second value found found' has has'
  rcases getElem?_append_cases found with rfl | old
  · cases idle.symm.trans has
  rcases getElem?_append_cases found' with rfl | old'
  · cases idle.symm.trans has'
  · exact exclusive old old' has has'

theorem mem_of_replace_nodup (unique : (jobs.filterMap key).Nodup) (selected : jobs[index]? = some job)
    (member : other ∈ replace jobs index next) :
    other ∈ next ∨ other ∈ jobs ∧ ∀ value, key job = some value → key other ≠ some value := by
  rw [split_at selected, filterMap_append, nodup_append] at unique
  obtain ⟨_, rear, apart⟩ := unique
  simp only [replace, mem_append] at member
  rcases member with (front | added) | back
  · refine .inr ⟨mem_of_mem_take front, fun value has shares => ?_⟩
    exact apart value (mem_filterMap.mpr ⟨other, front, shares⟩) value
      (mem_filterMap.mpr ⟨job, mem_cons_self, has⟩) rfl
  · exact .inl added
  · refine .inr ⟨mem_of_mem_drop back, fun value has shares => ?_⟩
    rw [filterMap_cons, has] at rear
    exact (nodup_cons.mp rear).1 (mem_filterMap.mpr ⟨other, back, shares⟩)

theorem nodup_replace (unique : (jobs.filterMap key).Nodup) (selected : jobs[index]? = some job)
    (inherits : (next.filterMap key).Sublist ([job].filterMap key)) :
    ((replace jobs index next).filterMap key).Nodup := by
  refine List.Nodup.sublist ?_ unique
  rw [replace, append_assoc, filterMap_append, filterMap_append]
  have whole : jobs.filterMap key = (jobs.take index).filterMap key ++
      ([job].filterMap key ++ (jobs.drop (index + 1)).filterMap key) := by
    rw [← filterMap_append, ← filterMap_append, singleton_append, ← split_at selected]
  rw [whole]
  exact (List.Sublist.refl _).append (inherits.append (List.Sublist.refl _))

end

theorem countP_replace (selected : jobs[index]? = some job) (next : List Job) (counts : Job → Bool) :
    (replace jobs index next).countP counts + (if counts job then 1 else 0) =
      jobs.countP counts + next.countP counts := by
  have whole := congrArg (countP counts) (split_at selected)
  rw [countP_append, countP_cons] at whole
  simp only [replace, countP_append]
  omega

theorem countP_set (selected : jobs[index]? = some job) (next : Job) (counts : Job → Bool) :
    (jobs.set index next).countP counts + (if counts job then 1 else 0) =
      jobs.countP counts + if counts next then 1 else 0 := by
  obtain ⟨bound, _⟩ := List.getElem?_eq_some_iff.mp selected
  have whole := congrArg (List.countP counts) (split_at selected)
  rw [countP_append, countP_cons] at whole
  rw [set_eq_take_append_cons_drop, if_pos bound, countP_append, countP_cons]
  omega

section
variable {Amount : Type} [AddCommGroup Amount]

def total (weight : Job → Amount) (jobs : List Job) : Amount := (jobs.map weight).sum

variable (weight : Job → Amount)

@[simp] theorem total_nil : total weight [] = 0 := rfl

@[simp] theorem total_cons (job : Job) (jobs : List Job) :
    total weight (job :: jobs) = weight job + total weight jobs := by
  simp [total]

@[simp] theorem total_append (front back : List Job) :
    total weight (front ++ back) = total weight front + total weight back := by
  simp [total]

theorem total_replace (selected : jobs[index]? = some job) (next : List Job) :
    total weight (replace jobs index next) = total weight jobs - weight job + total weight next := by
  have whole := congrArg (total weight) (split_at selected)
  simp only [total_append, total_cons] at whole
  simp only [replace, total_append, whole]
  abel

theorem total_eq_zero (free : ∀ job ∈ jobs, weight job = 0) : total weight jobs = 0 := by
  apply sum_eq_zero
  intro amount member
  obtain ⟨job, listed, rfl⟩ := mem_map.mp member
  exact free job listed

/-- With distinct keys, a weight that only one key carries is the weight of its job. -/
theorem total_eq_weight {Key : Type} {key : Job → Key} (unique : (jobs.map key).Nodup) (member : job ∈ jobs)
    (others : ∀ other ∈ jobs, key other ≠ key job → weight other = 0) : total weight jobs = weight job := by
  classical
  have single := sum_map_eq_nsmul_single job weight fun other differs listed =>
    others other listed fun same => differs (inj_on_of_nodup_map unique listed member same)
  rw [total, single, count_eq_one_of_mem (Nodup.of_map _ unique) member, one_nsmul]

variable [PartialOrder Amount] [IsOrderedAddMonoid Amount]

theorem total_nonneg (positive : ∀ job ∈ jobs, 0 ≤ weight job) : 0 ≤ total weight jobs := by
  refine sum_nonneg fun amount member => ?_
  obtain ⟨job, found, rfl⟩ := mem_map.mp member
  exact positive job found

theorem weight_le_total
    (positive : ∀ job ∈ jobs, 0 ≤ weight job) (member : job ∈ jobs) : weight job ≤ total weight jobs := by
  refine single_le_sum (fun amount listed => ?_) _ (mem_map_of_mem member)
  obtain ⟨other, found, rfl⟩ := mem_map.mp listed
  exact positive other found

end

end Semantics.Pool
