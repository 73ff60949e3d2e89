import FlowAPI.Golang.Strings

/-! What is read back of texts that are joined with a separator. -/

set_option autoImplicit false
namespace FlowAPI.Golang
open List

variable {separator : Char}

theorem not_mem_of_mem_splitOn {text part : List Char} (member : part ∈ text.splitOn separator) : separator ∉ part := by
  induction text generalizing part with
  | nil =>
    rw [splitOn_nil, mem_singleton] at member
    simp [member]
  | cons char rest ih =>
    rw [splitOn_cons_eq_if_modifyHead] at member
    obtain ⟨first, later, parts⟩ := exists_cons_of_ne_nil (splitOn_ne_nil separator rest)
    rw [parts] at ih member
    split at member
    next =>
      rcases mem_cons.mp member with rfl | member
      · exact not_mem_nil
      · exact ih member
    next differs =>
      rcases mem_cons.mp member with rfl | member
      · have own : separator ≠ char := fun same => differs (beq_iff_eq.mpr same.symm)
        exact not_mem_cons_of_ne_of_not_mem own (ih mem_cons_self)
      · exact ih (mem_cons_of_mem _ member)

theorem head?_intercalate (part : List Char) (rest : List (List Char)) :
    ([separator].intercalate (part :: rest)).head? =
      if part = [] then (if rest = [] then none else some separator) else part.head? := by
  by_cases alone : rest = []
  · cases part <;> simp [alone]
  · rw [intercalate_cons_of_ne_nil alone]
    cases part <;> simp [alone]

theorem getLast?_intercalate (before : List (List Char)) (part : List Char) :
    ([separator].intercalate (before ++ [part])).getLast? =
      if part = [] then (if before = [] then none else some separator) else part.getLast? := by
  induction before with
  | nil => cases part <;> simp
  | cons first more ih =>
    rw [cons_append, intercalate_cons_of_ne_nil (by simp), getLast?_append, ih]
    by_cases empty : part = []
    · by_cases alone : more = [] <;> simp [empty, alone]
    · obtain ⟨_, last⟩ := Option.isSome_iff_exists.mp (getLast?_isSome.mpr empty)
      simp [empty, last]

theorem trim_eq_self_iff (text : String) (cut : Char) :
    trim text cut = text ↔ text.toList.head? ≠ some cut ∧ text.toList.getLast? ≠ some cut := by
  have chars : trim text cut = text ↔
      (text.toList.dropWhile (· == cut)).rdropWhile (· == cut) = text.toList := by
    rw [trim, ← String.toList_inj, String.toList_ofList]
  rw [chars]
  generalize text.toList = list
  have shorter : ((list.dropWhile (· == cut)).rdropWhile (· == cut)).length ≤ (list.dropWhile (· == cut)).length :=
    rdropWhile_prefix _ _ |>.length_le
  have whole : (list.dropWhile (· == cut)).rdropWhile (· == cut) = list ↔
      list.dropWhile (· == cut) = list ∧ list.rdropWhile (· == cut) = list := by
    constructor
    · intro same
      rw [same] at shorter
      have left : list.dropWhile (· == cut) = list :=
        (dropWhile_suffix _).eq_of_length (le_antisymm (dropWhile_suffix _).length_le shorter)
      rw [left] at same
      exact ⟨left, same⟩
    · rintro ⟨left, right⟩
      rw [left, right]
  rw [whole, dropWhile_eq_self_iff, rdropWhile_eq_self_iff]
  cases list with
  | nil => simp
  | cons first rest => simp [getLast?_eq_getLast_of_ne_nil]

theorem join_split (text : String) : join (split text separator) separator = text := by
  have parts : (split text separator).map String.toList = text.toList.splitOn separator := by simp [split]
  rw [join, parts, intercalate_splitOn, String.ofList_toList]

theorem split_join {texts : List String} (nonempty : texts ≠ []) (apart : ∀ text ∈ texts, separator ∉ text.toList) :
    split (join texts separator) separator = texts := by
  rw [split, join, String.toList_ofList, splitOn_intercalate separator (by simpa using apart) (by simpa using nonempty)]
  simp

/-- Texts are read back from the lines to which they are joined exactly if none has a separator in it and
neither the first nor the last is empty. -/
theorem split_trim_join_iff {texts : List String} (written : join texts separator ≠ "") :
    split (trim (join texts separator) separator) separator = texts ↔
      texts ≠ [] ∧ (∀ text ∈ texts, separator ∉ text.toList) ∧ texts.head? ≠ some "" ∧ texts.getLast? ≠ some "" := by
  have nonempty : texts ≠ [] := fun none => written (by rw [none]; rfl)
  have ends (apart : ∀ text ∈ texts, separator ∉ text.toList) :
      trim (join texts separator) separator = join texts separator ↔
        texts.head? ≠ some "" ∧ texts.getLast? ≠ some "" := by
    have chars : (join texts separator).toList = [separator].intercalate (texts.map String.toList) :=
      String.toList_ofList ..
    rw [trim_eq_self_iff, chars]
    refine and_congr ?_ ?_
    · obtain ⟨first, rest, rfl⟩ := exists_cons_of_ne_nil nonempty
      have own : first.toList.head? ≠ some separator := fun found => apart first mem_cons_self (mem_of_head? found)
      rw [map_cons, head?_intercalate]
      by_cases empty : first = ""
      · have more : rest ≠ [] := fun none => written (by rw [empty, none]; rfl)
        simp [empty, more]
      · simp [empty, own]
    · obtain ⟨before, last, rfl⟩ := eq_nil_or_concat texts |>.resolve_left nonempty
      have own : last.toList.getLast? ≠ some separator := fun found => apart last (by simp) (mem_of_getLast? found)
      rw [concat_eq_append, map_append, map_singleton, getLast?_intercalate]
      by_cases empty : last = ""
      · have more : before ≠ [] := fun none => written (by rw [empty, none]; rfl)
        simp [empty, more]
      · simp [empty, own]
  constructor
  · intro same
    have apart : ∀ text ∈ texts, separator ∉ text.toList := by
      intro text member
      rw [← same, split, mem_map] at member
      obtain ⟨part, found, rfl⟩ := member
      rw [String.toList_ofList]
      exact not_mem_of_mem_splitOn found
    have kept := @join_split separator (trim (join texts separator) separator)
    rw [same] at kept
    exact ⟨nonempty, apart, (ends apart).mp kept.symm⟩
  · rintro ⟨-, apart, outer⟩
    rw [(ends apart).mpr outer, split_join nonempty apart]

end FlowAPI.Golang
