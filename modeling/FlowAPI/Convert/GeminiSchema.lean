import FlowAPI.Golang.Strings

/-! The parameters of a function that is declared to Gemini.

They are any JSON value. A schema keeps the fields Gemini knows and gets its name for the type, and the schemas
below it are cleaned the same way. The last level keeps no schema below it. -/

set_option autoImplicit false
namespace FlowAPI.Convert.GeminiFunctionParameters
open Golang Option Function

inductive Json where
  | null
  | bool (value : Bool)
  | number (text : String)
  | string (value : String)
  | array (items : List Json)
  | object (fields : String → Option Json)

abbrev Fields := String → Option Json

def allowedFields : List String :=
  ["anyOf", "default", "description", "enum", "example", "format", "items", "maxItems", "maxLength", "maxProperties",
    "maximum", "minItems", "minLength", "minProperties", "minimum", "nullable", "pattern", "properties",
    "propertyOrdering", "required", "title", "type"]

def maxDepth : Nat := 64

def normalize (t : String) : Option String :=
  match toLower (trimSpace t) with
  | "object" => some "OBJECT"
  | "array" => some "ARRAY"
  | "string" => some "STRING"
  | "integer" => some "INTEGER"
  | "number" => some "NUMBER"
  | "boolean" => some "BOOLEAN"
  | "null" => none
  | _ => some t

def choose : Bool × String → Json → Bool × String
  | (nullable, chosen), .string value =>
    match normalize value with
    | none => (true, chosen)
    | some normalized => (nullable, if chosen = "" then normalized else chosen)
  | seen, _ => seen

def normalizeTypeAndNullable (schema : Fields) : Fields :=
  match schema "type" with
  | some (.string typed) =>
    match normalize typed with
    | none => update (update schema "nullable" (some (.bool true))) "type" none
    | some normalized => update schema "type" (some (.string normalized))
  | some (.array typed) =>
    let (nullable, chosen) := typed.foldl choose (false, "")
    update (if nullable then update schema "nullable" (some (.bool true)) else schema) "type"
      (if chosen = "" then none else some (.string chosen))
  | _ => schema

def cleanedMap (fields : Fields) : Fields :=
  normalizeTypeAndNullable fun key => if key ∈ allowedFields then fields key else none

def cleanShallow : Json → Json
  | .object fields =>
    .object fun key => if key ∈ ["properties", "items", "anyOf"] then none else cleanedMap fields key
  | .array _ => .array []
  | params => params

def cleanField (clean : Json → Json) : String → Json → Json
  | "properties" => fun
    | .object props => .object fun propName => (props propName).map clean
    | value => value
  | "items" => fun
    | .object items => clean (.object items)
    | .array (item :: _) => clean item
    | value => value
  | "anyOf" => fun
    | .array nested => .array (nested.map clean)
    | value => value
  | _ => id

/-- The number is that of the levels left before `maxDepth`. -/
def cleanWithDepth : Nat → Json → Json
  | 0, params => cleanShallow params
  | left + 1, .object fields => .object fun key => (cleanedMap fields key).map (cleanField (cleanWithDepth left) key)
  | left + 1, .array items => .array (items.map (cleanWithDepth left))
  | _ + 1, params => params

def cleanFunctionParameters (params : Json) : Json := cleanWithDepth maxDepth params

inductive Below (child : Json) : Json → Prop
  | property {fields props : Fields} {name : String} (kept : fields "properties" = some (.object props))
    (listed : props name = some child) : Below child (.object fields)
  | items {fields : Fields} (kept : fields "items" = some child) : Below child (.object fields)
  | anyOf {fields : Fields} {nested : List Json} (kept : fields "anyOf" = some (.array nested))
    (listed : child ∈ nested) : Below child (.object fields)
  | element {items : List Json} (listed : child ∈ items) : Below child (.array items)

inductive Position (schema : Json) : Nat → Json → Prop
  | root : Position schema 0 schema
  | step {depth : Nat} {child root : Json} (below : Below child root) (position : Position schema depth child) :
    Position schema (depth + 1) root

/-- No list of types, and no null in any letter case. -/
def Typed : Option Json → Prop
  | some (.array _) => False
  | some (.string name) => equalFold name "null" = false
  | _ => True

def Fields.Allowed (fields : Fields) : Prop := ∀ key value, fields key = some value → key ∈ allowedFields

structure Fields.Proper (fields : Fields) : Prop where
  allowed : fields.Allowed
  typed : Typed (fields "type")

/-- What is promised of a cleaned value whose positions reach `left` levels down. -/
def Cleaned (left : Nat) (root : Json) : Prop :=
  ∀ depth schema, Position schema depth root → depth ≤ left ∧ ∀ fields : Fields, schema = .object fields → fields.Proper

theorem isSpace_of_toLower {char letter : Char} (low : char.toLower = letter) (visible : isSpace letter = false) :
    isSpace char = false := by
  by_contra space
  have kept : char.toLower = char := by
    simp only [isSpace, Bool.not_eq_false, Bool.or_eq_true, Bool.and_eq_true, decide_eq_true_eq] at space
    have code : char.toNat = char.val.toNat := rfl
    refine dif_neg fun ⟨low, high⟩ => ?_
    have above : 65 ≤ char.val.toNat := low
    have under : char.val.toNat ≤ 90 := high
    omega
  rw [← kept, low] at space
  exact space visible

theorem lower_eq {char letter : Char} (low : char.toLower = letter) (plain : letter.toNat < 128) :
    lower char = letter := by
  unfold lower
  split_ifs
  next dotted =>
    subst dotted low
    exact absurd plain (by decide)
  next kelvin =>
    subst kelvin low
    exact absurd plain (by decide)
  · exact low

theorem null_of_equalFold {t : String} (null : equalFold t "null" = true) : toLower (trimSpace t) = "null" := by
  have same : t.toList.map Char.toLower = ['n', 'u', 'l', 'l'] := eq_of_beq null
  obtain ⟨first, _, written, lowFirst, same⟩ := List.map_eq_cons_iff.mp same
  obtain ⟨second, _, rfl, lowSecond, same⟩ := List.map_eq_cons_iff.mp same
  obtain ⟨third, _, rfl, lowThird, same⟩ := List.map_eq_cons_iff.mp same
  obtain ⟨fourth, _, rfl, lowFourth, same⟩ := List.map_eq_cons_iff.mp same
  obtain rfl := List.map_eq_nil_iff.mp same
  have starts := isSpace_of_toLower lowFirst (by decide)
  have ends := isSpace_of_toLower lowFourth (by decide)
  simp [toLower, trimSpace, written, List.rdropWhile, starts, ends, lower_eq lowFirst, lower_eq lowSecond,
    lower_eq lowThird, lower_eq lowFourth]

theorem normalize_named {t name : String} (found : normalize t = some name) : equalFold name "null" = false := by
  unfold normalize at found
  split at found
  case h_7 => cases found
  case h_8 other =>
    cases found
    exact Bool.eq_false_iff.mpr fun null => other (null_of_equalFold null)
  all_goals
    cases found
    decide

theorem choose_named {seen : Bool × String} (named : equalFold seen.2 "null" = false) (item : Json) :
    equalFold (choose seen item).2 "null" = false := by
  unfold choose
  repeat' split
  case isTrue found _ => exact normalize_named found
  all_goals exact named

theorem foldl_choose_named (typed : List Json) (seen : Bool × String) (named : equalFold seen.2 "null" = false) :
    equalFold (typed.foldl choose seen).2 "null" = false := by
  induction typed generalizing seen with
  | nil => exact named
  | cons item _ ih => exact ih _ (choose_named named item)

section
variable {schema : Fields} (known : schema.Allowed)
include known

theorem update_allowed {field : String} (listed : field ∈ allowedFields) (value : Option Json) :
    Fields.Allowed (update schema field value) := by
  intro key value found
  by_cases same : key = field
  · exact same ▸ listed
  · rw [update_of_ne same] at found
    exact known key value found

theorem update_proper {type : Option Json} (typed : Typed type) : Fields.Proper (update schema "type" type) where
  allowed := update_allowed known (by decide) type
  typed := by rwa [update_self]

theorem normalize_proper : (normalizeTypeAndNullable schema).Proper := by
  have nulled := update_allowed known (show "nullable" ∈ allowedFields by decide) (some (.bool true))
  unfold normalizeTypeAndNullable
  split
  · split
    · exact update_proper nulled trivial
    next found => exact update_proper known (normalize_named found)
  next typed _ =>
    have named := foldl_choose_named typed (false, "") (by decide)
    refine update_proper (by split <;> assumption) ?_
    split
    · trivial
    · exact named
  next noText noList =>
    refine ⟨known, ?_⟩
    unfold Typed
    split
    · exact noList _ ‹_›
    · exact (noText _ ‹_›).elim
    · trivial

end

theorem cleanedMap_proper (fields : Fields) : (cleanedMap fields).Proper :=
  normalize_proper fun _ _ found => (ite_none_right_eq_some.mp found).1

def itemSchema : Json → Json
  | .array (item :: _) => item
  | items => items

variable {left : Nat} {child params : Json}

theorem below_shallow : ¬ Below child (cleanShallow params) := by
  intro below
  cases params with
  | object =>
    cases below with
    | property kept | items kept | anyOf kept => simp at kept
  | array =>
    cases below with
    | element listed => cases listed
  | _ => cases below

theorem below_clean (below : Below child (cleanWithDepth (left + 1) params)) :
    ∃ value, child = cleanWithDepth left value := by
  cases params with
  | object =>
    cases below with
    | property kept listed =>
      obtain ⟨value, _, cleaned⟩ := map_eq_some_iff.mp kept
      cases value <;> cases cleaned
      obtain ⟨value, _, rfl⟩ := map_eq_some_iff.mp listed
      exact ⟨value, rfl⟩
    | items kept =>
      obtain ⟨value, _, rfl⟩ := map_eq_some_iff.mp kept
      -- an empty list and a value that is no schema are what cleaning them gives
      refine ⟨itemSchema value, ?_⟩
      rcases value with _ | _ | _ | _ | (_ | _) | _ <;> cases left <;> rfl
    | anyOf kept listed =>
      obtain ⟨value, _, cleaned⟩ := map_eq_some_iff.mp kept
      cases value <;> cases cleaned
      obtain ⟨value, _, rfl⟩ := List.mem_map.mp listed
      exact ⟨value, rfl⟩
  | array =>
    cases below with
    | element listed =>
      obtain ⟨value, _, rfl⟩ := List.mem_map.mp listed
      exact ⟨value, rfl⟩
  | _ => cases below

theorem clean_proper {fields : Fields} (cleaned : cleanWithDepth left params = .object fields) : fields.Proper := by
  cases params with
  | object given =>
    have proper := cleanedMap_proper given
    cases left with
    | zero =>
      cases cleaned
      refine ⟨fun key value found => ?_, proper.typed⟩
      exact proper.allowed key value (ite_none_left_eq_some.mp found).2
    | succ left =>
      cases cleaned
      refine ⟨fun key value found => ?_, ?_⟩
      · obtain ⟨_, kept, _⟩ := map_eq_some_iff.mp found
        exact proper.allowed key _ kept
      · have same : cleanField (cleanWithDepth left) "type" = id := rfl
        rw [same, map_id]
        exact proper.typed
  | _ => cases left <;> cases cleaned

theorem clean_cleaned (left : Nat) (params : Json) : Cleaned left (cleanWithDepth left params) := by
  induction left generalizing params with
  | zero =>
    rintro _ _ (_ | below)
    · exact ⟨le_refl _, fun _ => clean_proper⟩
    · exact absurd below below_shallow
  | succ left ih =>
    rintro _ _ (_ | ⟨below, position⟩)
    · exact ⟨Nat.zero_le _, fun _ => clean_proper⟩
    obtain ⟨value, rfl⟩ := below_clean below
    obtain ⟨within, proper⟩ := ih value _ _ position
    exact ⟨Nat.succ_le_succ within, proper⟩

/-- Every schema position of the cleaned parameters. -/
theorem cleanFunctionParameters_cleaned (params : Json) : Cleaned 64 (cleanFunctionParameters params) :=
  clean_cleaned maxDepth params

end FlowAPI.Convert.GeminiFunctionParameters
