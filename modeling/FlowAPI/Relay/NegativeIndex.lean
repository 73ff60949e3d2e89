import FlowAPI.Golang.Split

/-! Negative array indices in the path of an override (`processNegativeIndex` of `relay/common/override.go`). Texts are
lists of characters, and the document is what gjson finds in it: the length of the array at each path.

The loop replaces text: an index is looked up behind the text before its first occurrence in the path, and its number is
put where its text first follows a dot. A path is segments between dots, and so is what the loop makes of it. -/

set_option autoImplicit false
namespace FlowAPI.Relay
open List

abbrev Text := List Char

/-- The group of the match of `\.(-\d+)` that begins here. -/
def negativeIndexAt : Text → Option Text
  | '.' :: '-' :: digit :: rest =>
    if digit.isDigit then some ('-' :: digit :: rest.takeWhile Char.isDigit) else none
  | _ => none

/-- `FindAllStringSubmatch`: a match has its only dot in front, so none begins inside another. -/
def negativeIndexes (path : Text) : List Text := path.tails.filterMap negativeIndexAt

/-- The text before and after the first occurrence, from which `strings.Split(…)[0]` and the replacement of one
occurrence are read. -/
def cut (old : Text) : Text → Option (Text × Text)
  | [] => none
  | char :: rest =>
    if old.isPrefixOf (char :: rest) then some ([], (char :: rest).drop old.length)
    else (cut old rest).map fun (before, after) => (char :: before, after)

def atoi (negIndex : Text) : Int :=
  -(negIndex.tail.foldl (fun value digit => 10 * value + (digit.toNat - 48)) 0 : Nat)

def actualIndex (array : Option Nat) (negIndex : Text) : Option Int := do
  let length ← array
  let index := length + atoi negIndex
  if 0 ≤ index ∧ index < length then some index else none

def itoa (index : Int) : Text := (toString index).toList

def arrayPath (path negIndex : Text) : Text :=
  let arrayPath := ((cut negIndex path).map Prod.fst).getD path
  if ['.'].isSuffixOf arrayPath then arrayPath.dropLast else arrayPath

def replaceFirst (old new result : Text) : Text :=
  match cut old result with
  | some (before, after) => before ++ (new ++ after)
  | none => result

section
variable (arrays : Text → Option Nat) (path : Text)

/-- What the loop finds for an index. The array is looked up in the path as it was given, where other indices are still
negative. -/
def found (negIndex : Text) : Option Int := actualIndex (arrays (arrayPath path negIndex)) negIndex

def replaceIndex (result negIndex : Text) : Text :=
  match found arrays path negIndex with
  | some index => replaceFirst ('.' :: negIndex) ('.' :: itoa index) result
  | none => result

def processNegativeIndex : Text := (negativeIndexes path).foldl (replaceIndex arrays path) path

end

/-! ### What the path should become -/

def indexText (segment : Text) : Option Text := negativeIndexAt ('.' :: segment)

def spell (first : Text) (rest : List Text) : Text := first ++ rest.flatMap ('.' :: ·)

/-- A segment that is a negative index becomes its position in the array, if that is in range. -/
def resolveSegment (array : Option Nat) (segment : Text) : Text :=
  if indexText segment = some segment then (actualIndex array segment).elim segment itoa else segment

section
variable (arrays : Text → Option Nat)

/-- The segments after a path, each resolved in the array at what the segments before it have become. -/
def resolveAfter : Text → List Text → List Text
  | _, [] => []
  | before, segment :: rest =>
    let here := resolveSegment (arrays before) segment
    here :: resolveAfter (before ++ '.' :: here) rest

/-- The document itself may be an array, whose length is `root`. -/
def resolvePath (root : Option Nat) (path : Text) : Text :=
  match path.splitOn '.' with
  | [] => []
  | first :: rest => spell (resolveSegment root first) (resolveAfter arrays (resolveSegment root first) rest)

/-- For a negative index the loop finds the position in the array that is indexed, and for a text that only begins like
one it finds none. -/
def Agrees (path : Text) : Text → List Text → Prop
  | _, [] => True
  | before, segment :: rest =>
    (∀ negIndex ∈ indexText segment, found arrays path negIndex =
      if negIndex = segment then actualIndex (arrays before) segment else none) ∧
    Agrees path (before ++ '.' :: resolveSegment (arrays before) segment) rest

end

/-- No index begins with the text of another one, as `-12` does with that of `-1`. -/
def Apart (segments : List Text) : Prop :=
  ∀ segment ∈ segments, ∀ other ∈ segments, ∀ negIndex ∈ indexText segment, ∀ longer ∈ indexText other,
    negIndex <+: longer → negIndex = longer

/-! ### The loop on segments -/

theorem indexText_eq_some {segment negIndex : Text} (index : indexText segment = some negIndex) :
    ∃ digit rest, digit.isDigit = true ∧ segment = '-' :: digit :: rest ∧
      negIndex = '-' :: digit :: rest.takeWhile Char.isDigit := by
  unfold indexText negativeIndexAt at index
  split at index
  next digit rest same =>
    obtain ⟨isDigit, ⟨⟩⟩ := Option.ite_none_right_eq_some.mp index
    cases same
    exact ⟨digit, rest, isDigit, rfl, rfl⟩
  · cases index

theorem prefix_of_indexText {segment negIndex : Text} (index : indexText segment = some negIndex) : negIndex <+: segment := by
  obtain ⟨digit, rest, -, rfl, rfl⟩ := indexText_eq_some index
  simpa using takeWhile_prefix Char.isDigit

theorem indexText_dotless {segment negIndex : Text} (index : indexText segment = some negIndex) : '.' ∉ negIndex := by
  obtain ⟨digit, rest, isDigit, -, rfl⟩ := indexText_eq_some index
  rintro (_ | ⟨_, _ | ⟨_, inside⟩⟩)
  · exact absurd isDigit (by decide)
  · exact absurd (mem_takeWhile_imp inside) (by decide)

theorem itoa_natCast (index : Nat) : itoa index = Nat.toDigits 10 index := by
  have shown : toString (index : Int) = toString index := rfl
  rw [itoa, shown, Nat.toString_eq_ofList_toDigits, String.toList_ofList]

theorem isDigit_of_mem_itoa {index : Nat} {char : Char} (member : char ∈ itoa index) : char.isDigit = true := by
  rw [itoa_natCast] at member
  exact Nat.isDigit_of_mem_toDigits (by decide) (by decide) member

theorem itoa_inj {left right : Nat} (same : itoa left = itoa right) : left = right := by
  rw [itoa_natCast, itoa_natCast] at same
  rw [← @Nat.ofDigitChars_ten_toDigits left, same, Nat.ofDigitChars_ten_toDigits]

theorem actualIndex_natural {array : Option Nat} {negIndex : Text} {index : Int}
    (found : actualIndex array negIndex = some index) : ∃ natural : Nat, index = natural := by
  cases array with
  | none => cases found
  | some length =>
    obtain ⟨⟨positive, -⟩, same⟩ := Option.ite_none_right_eq_some.mp found
    cases same
    exact Int.eq_ofNat_of_zero_le positive

theorem not_prefix_itoa {segment negIndex : Text} (index : indexText segment = some negIndex) (number : Nat) (after : Text) :
    ¬negIndex <+: itoa number ++ after := by
  intro begins
  obtain ⟨digit, rest, -, -, rfl⟩ := indexText_eq_some index
  obtain ⟨char, others, chars⟩ := exists_cons_of_ne_nil (show itoa number ≠ [] by
    rw [itoa_natCast]
    exact Nat.toDigits_ne_nil)
  have isDigit : char.isDigit = true := isDigit_of_mem_itoa (chars ▸ mem_cons_self)
  rw [chars, cons_append, cons_prefix_cons] at begins
  rw [← begins.1] at isDigit
  exact absurd isDigit (by decide)

theorem exists_indexText {segment earlier negIndex : Text} (begins : indexText segment = some negIndex)
    (starts : negIndex <+: earlier) : ∃ longer, indexText earlier = some longer ∧ negIndex <+: longer := by
  obtain ⟨digit, rest, isDigit, -, rfl⟩ := indexText_eq_some begins
  obtain ⟨after, rfl⟩ := starts
  refine ⟨_, if_pos isDigit, ?_⟩
  have digits : ((rest.takeWhile Char.isDigit).append after).takeWhile Char.isDigit =
      rest.takeWhile Char.isDigit ++ after.takeWhile Char.isDigit :=
    takeWhile_append_of_pos fun _ member => mem_takeWhile_imp member
  rw [digits]
  exact prefix_append ('-' :: digit :: rest.takeWhile Char.isDigit) _

/-! ### Texts and segments -/

section
variable {rest : List Text} (dotless : ∀ segment ∈ rest, '.' ∉ segment)

theorem not_dotted {negIndex segment : Text} (free : '.' ∉ negIndex) :
    negIndex <+: segment ++ rest.flatMap ('.' :: ·) ↔ negIndex <+: segment := by
  refine ⟨fun found => ?_, fun found => found.trans (prefix_append _ _)⟩
  rcases prefix_or_prefix_of_prefix found (prefix_append segment _) with inside | ⟨more, rfl⟩
  · exact inside
  · have more_ := (prefix_append_right_inj segment).mp found
    cases rest with
    | nil => simp_all
    | cons =>
      obtain rfl | ⟨tail, rfl, -⟩ := prefix_cons_iff.mp more_
      · simp
      · simp at free

theorem negativeIndexes_append {front : Text} (free : '.' ∉ front) (back : Text) :
    negativeIndexes (front ++ back) = negativeIndexes back := by
  induction front with
  | nil => rfl
  | cons char front ih =>
    obtain ⟨other, free⟩ := not_or.mp (mt mem_cons.mpr free)
    have none : negativeIndexAt (char :: (front ++ back)) = none := by
      unfold negativeIndexAt
      split
      next same => exact absurd (cons.inj same).1.symm other
      · rfl
    rw [← ih free]
    simp [negativeIndexes, tails, none]

theorem indexText_append (segment : Text) :
    negativeIndexAt ('.' :: (segment ++ rest.flatMap ('.' :: ·))) = indexText segment := by
  have digits (text : Text) : (text ++ rest.flatMap ('.' :: ·)).takeWhile Char.isDigit = text.takeWhile Char.isDigit := by
    induction text with
    | nil => cases rest <;> simp
    | cons char _ ih => cases isDigit : char.isDigit <;> simp [isDigit, ih]
  unfold indexText
  match segment with
  | [] => cases rest <;> simp [negativeIndexAt]
  | [char] =>
    by_cases minus : char = '-'
    · cases rest <;> simp [negativeIndexAt, minus]
    · simp [negativeIndexAt, minus]
  | char :: digit :: text =>
    by_cases minus : char = '-'
    · simp [negativeIndexAt, minus, digits]
    · simp [negativeIndexAt, minus]

include dotless

theorem negativeIndexes_segments : negativeIndexes (rest.flatMap ('.' :: ·)) = rest.filterMap indexText := by
  induction rest with
  | nil => rfl
  | cons segment rest ih =>
    obtain ⟨free, dotless⟩ := forall_mem_cons.mp dotless
    have later := (negativeIndexes_append free (rest.flatMap ('.' :: ·))).trans (ih dotless)
    rw [flatMap_cons, cons_append, filterMap_cons, ← later]
    unfold negativeIndexes
    rw [tails, filterMap_cons, indexText_append]

omit dotless in
theorem replaceFirst_append {front : Text} (free : '.' ∉ front) (negIndex new back : Text) :
    replaceFirst ('.' :: negIndex) new (front ++ back) = front ++ replaceFirst ('.' :: negIndex) new back := by
  induction front with
  | nil => rfl
  | cons char front ih =>
    obtain ⟨other, free⟩ := not_or.mp (mt mem_cons.mpr free)
    have shifted := ih free
    unfold replaceFirst at shifted ⊢
    rw [cons_append, cut, if_neg (by simp [other])]
    cases text : cut ('.' :: negIndex) (front ++ back) with rw [text] at shifted
    | none => exact congrArg (char :: ·) shifted
    | some => exact congrArg (char :: ·) shifted

theorem replaceFirst_own {negIndex : Text} (free : '.' ∉ negIndex) (others : ∀ segment ∈ rest, ¬negIndex <+: segment)
    (number after : Text) (later : List Text) :
    replaceFirst ('.' :: negIndex) ('.' :: number) ((rest ++ (negIndex ++ after) :: later).flatMap ('.' :: ·)) =
      (rest ++ (number ++ after) :: later).flatMap ('.' :: ·) := by
  induction rest with
  | nil => simp [replaceFirst, cut]
  | cons segment rest ih =>
    obtain ⟨own, dotless⟩ := forall_mem_cons.mp dotless
    obtain ⟨here, others⟩ := forall_mem_cons.mp others
    have shifted := replaceFirst_append own negIndex ('.' :: number)
      ((rest ++ (negIndex ++ after) :: later).flatMap ('.' :: ·))
    rw [ih dotless others] at shifted
    rw [cons_append, flatMap_cons, cons_append, cons_append, flatMap_cons, cons_append, ← shifted]
    have absent : ¬negIndex <+: segment ++ (rest ++ (negIndex ++ after) :: later).flatMap ('.' :: ·) :=
      mt (not_dotted free).mp here
    unfold replaceFirst
    rw [cut, if_neg (by simpa using absent)]
    cases cut ('.' :: negIndex) (segment ++ (rest ++ (negIndex ++ after) :: later).flatMap ('.' :: ·)) with
    | none => rfl
    | some => rfl

end

theorem spell_eq (first : Text) (rest : List Text) : spell first rest = ['.'].intercalate (first :: rest) := by
  induction rest generalizing first with
  | nil => simp [spell]
  | cons segment rest ih =>
    rw [intercalate_cons_cons, ← ih]
    simp [spell]

theorem spell_inj {first other : Text} {rest others : List Text} (dotless : ∀ segment ∈ first :: rest, '.' ∉ segment)
    (free : ∀ segment ∈ other :: others, '.' ∉ segment) (same : spell first rest = spell other others) :
    first = other ∧ rest = others := by
  rw [spell_eq, spell_eq] at same
  have parts := congrArg (splitOn '.') same
  rw [splitOn_intercalate '.' dotless (cons_ne_nil _ _), splitOn_intercalate '.' free (cons_ne_nil _ _)] at parts
  exact cons.inj parts

/-! ### The loop against the path it should make -/

section
variable {arrays : Text → Option Nat} {path : Text}

/-- What the loop makes of a segment where indices do not get into each other's way. -/
def replaced (arrays : Text → Option Nat) (path segment : Text) : Text :=
  ((indexText segment).bind fun negIndex =>
    (found arrays path negIndex).map fun index => itoa index ++ segment.drop negIndex.length).getD segment

theorem replaced_kept {segment : Text} (none : ∀ negIndex ∈ indexText segment, found arrays path negIndex = none) :
    replaced arrays path segment = segment := by
  unfold replaced
  cases index : indexText segment with
  | none => rfl
  | some negIndex => simp [none negIndex index]

theorem replaced_found {segment negIndex : Text} {index : Int} (begins : indexText segment = some negIndex)
    (isFound : found arrays path negIndex = some index) :
    replaced arrays path segment = itoa index ++ segment.drop negIndex.length := by
  simp [replaced, begins, isFound]

theorem replaced_cases (arrays : Text → Option Nat) (path segment : Text) :
    (∀ negIndex ∈ indexText segment, found arrays path negIndex = none) ∨
      ∃ (negIndex : Text) (number : Nat), indexText segment = some negIndex ∧
        found arrays path negIndex = some (number : Int) := by
  cases begins : indexText segment with
  | none => exact .inl (by simp)
  | some negIndex =>
    cases isFound : found arrays path negIndex with
    | none => exact .inl (by simp [isFound])
    | some index =>
      obtain ⟨number, rfl⟩ := actualIndex_natural isFound
      exact .inr ⟨negIndex, number, rfl, isFound⟩

theorem dotless_itoa (number : Nat) : '.' ∉ itoa number := fun member =>
  absurd (isDigit_of_mem_itoa member) (by decide)

theorem dotless_replaced {segment : Text} (free : '.' ∉ segment) : '.' ∉ replaced arrays path segment := by
  rcases replaced_cases arrays path segment with none | ⟨negIndex, number, begins, isFound⟩
  · rw [replaced_kept none]
    exact free
  · rw [replaced_found begins isFound, mem_append, not_or]
    exact ⟨dotless_itoa number, fun kept => free (mem_of_mem_drop kept)⟩

theorem dotless_resolveSegment {array : Option Nat} {segment : Text} (free : '.' ∉ segment) :
    '.' ∉ resolveSegment array segment := by
  unfold resolveSegment
  split
  · cases found : actualIndex array segment with
    | none => exact free
    | some index =>
      obtain ⟨number, rfl⟩ := actualIndex_natural found
      exact dotless_itoa number
  · exact free

theorem dotless_resolveAfter {before : Text} {rest : List Text} (dotless : ∀ segment ∈ rest, '.' ∉ segment) :
    ∀ segment ∈ resolveAfter arrays before rest, '.' ∉ segment := by
  induction rest generalizing before with
  | nil => exact dotless
  | cons _ _ ih =>
    obtain ⟨free, dotless⟩ := forall_mem_cons.mp dotless
    exact forall_mem_cons.mpr ⟨dotless_resolveSegment free, ih dotless⟩

theorem Apart.passed {segments : List Text} (apart : Apart segments) {segment negIndex : Text} {index : Int}
    (member : segment ∈ segments) (begins : indexText segment = some negIndex)
    (isFound : found arrays path negIndex = some index) {earlier : Text} (present : earlier ∈ segments) :
    ¬negIndex <+: replaced arrays path earlier := by
  intro starts
  rcases replaced_cases arrays path earlier with none | ⟨_, number, here, isNumber⟩
  · rw [replaced_kept none] at starts
    obtain ⟨longer, isLonger, further⟩ := exists_indexText begins starts
    have same := apart segment member earlier present negIndex begins longer isLonger further
    rw [same, none longer isLonger] at isFound
    cases isFound
  · rw [replaced_found here isNumber] at starts
    exact not_prefix_itoa begins number _ starts

theorem foldl_replaceIndex {first : Text} (free : '.' ∉ first) {passed todo : List Text} (apart : Apart (passed ++ todo))
    (dotless : ∀ segment ∈ passed, '.' ∉ segment) (later : ∀ segment ∈ todo, '.' ∉ segment) :
    (todo.filterMap indexText).foldl (replaceIndex arrays path) (spell first (passed.map (replaced arrays path) ++ todo)) =
      spell first ((passed ++ todo).map (replaced arrays path)) := by
  -- the segments that were passed are as the loop leaves them, the others as they were
  induction todo generalizing passed with
  | nil => simp
  | cons segment todo ih =>
    obtain ⟨here, later⟩ := forall_mem_cons.mp later
    have together : passed ++ segment :: todo = passed ++ [segment] ++ todo := by simp
    have step := ih (together ▸ apart) (forall_mem_append.mpr ⟨dotless, forall_mem_singleton.mpr here⟩) later
    rw [map_append, map_singleton, append_assoc, singleton_append] at step
    rw [together, ← step]
    cases begins : indexText segment with
    | none => rw [filterMap_cons_none begins, replaced_kept (by simp [begins])]
    | some negIndex =>
      rw [filterMap_cons_some begins, foldl_cons]
      congr 1
      cases isFound : found arrays path negIndex with
      | none => rw [replaced_kept (by simp [begins, isFound]), replaceIndex, isFound]
      | some index =>
        have others : ∀ other ∈ passed.map (replaced arrays path), '.' ∉ other ∧ ¬negIndex <+: other := by
          intro other member
          obtain ⟨earlier, inside, rfl⟩ := mem_map.mp member
          exact ⟨dotless_replaced (dotless earlier inside),
            apart.passed (by simp) begins isFound (mem_append_left _ inside)⟩
        obtain ⟨after, rfl⟩ := prefix_of_indexText begins
        rw [replaced_found begins isFound, drop_left]
        simp only [replaceIndex, isFound, spell]
        rw [replaceFirst_append free, replaceFirst_own (fun other member => (others other member).1)
          (indexText_dotless begins) fun other member => (others other member).2]

theorem replaced_eq_iff {segment : Text} {array : Option Nat} :
    replaced arrays path segment = resolveSegment array segment ↔ ∀ negIndex ∈ indexText segment,
      found arrays path negIndex = if negIndex = segment then actualIndex array segment else none := by
  unfold resolveSegment
  rcases replaced_cases arrays path segment with none | ⟨negIndex, number, begins, isFound⟩
  · rw [replaced_kept none]
    split
    next whole =>
      cases position : actualIndex array segment with
      | none => simp [whole, none segment whole]
      | some index =>
        obtain ⟨number, rfl⟩ := actualIndex_natural position
        have differs : segment ≠ itoa number := fun same => not_prefix_itoa whole number [] (by simp [← same])
        simp [whole, none segment whole, differs]
    next partly =>
      refine iff_of_true rfl fun negIndex begins => ?_
      have longer : negIndex ≠ segment := fun same => partly (same ▸ begins)
      rw [none negIndex begins, if_neg longer]
  · have differs (text : Text) : itoa number ++ text ≠ segment := fun same =>
      not_prefix_itoa begins number text (same ▸ prefix_of_indexText begins)
    rw [replaced_found begins isFound]
    split
    next whole =>
      obtain rfl : negIndex = segment := Option.some.inj (begins.symm.trans whole)
      cases position : actualIndex array negIndex with
      | none => simpa [whole, isFound] using differs []
      | some index =>
        obtain ⟨other, rfl⟩ := actualIndex_natural position
        have same : itoa number = itoa other ↔ (number : Int) = other :=
          ⟨fun same => by rw [itoa_inj same], fun same => by rw [Int.ofNat_inj.mp same]⟩
        simp [whole, isFound, same]
    next partly =>
      have longer : negIndex ≠ segment := fun same => partly (same ▸ begins)
      simp [begins, isFound, longer, differs]

theorem map_replaced_iff {before : Text} {rest : List Text} :
    rest.map (replaced arrays path) = resolveAfter arrays before rest ↔ Agrees arrays path before rest := by
  induction rest generalizing before with
  | nil => simp [resolveAfter, Agrees]
  | cons segment rest ih => rw [map_cons, resolveAfter, cons.injEq, replaced_eq_iff, ih, Agrees]

end

/-- The document `{"a": [[5]]}`. -/
def single (path : Text) : Option Nat := if path = "a".toList ∨ path = "a.0".toList then some 1 else none

/-- The document `{"a": [{"b": [1, 2]}]}`. -/
def nested (path : Text) : Option Nat :=
  if path = "a".toList then some 1 else if path = "a.0.b".toList then some 2 else none

end FlowAPI.Relay
