import Mathlib.Data.List.Forall2
import Mathlib.Data.List.Infix

/-! Patterns of the SQL operator `LIKE .. ESCAPE`.

A pattern is read into tokens, and a text is matched against the tokens. Which characters the
collation of a column takes for equal is a parameter. A literal text that is quoted with the
escape character between two wildcards asks for a part that equals it.
-/

set_option autoImplicit false
namespace Semantics
open List

namespace Like

inductive Token where
  | many | one
  | char (char : Char)

/-- The tokens of a pattern. The flag says that the character before was the escape character. -/
def tokens (escape : Char) : Bool → List Char → List Token
  | _, [] => []
  | true, char :: rest => .char char :: tokens escape false rest
  | false, char :: rest =>
    if char = escape then tokens escape true rest
    else if char = '%' then .many :: tokens escape false rest
    else if char = '_' then .one :: tokens escape false rest
    else .char char :: tokens escape false rest

def quote (escape : Char) (literal : List Char) : List Char :=
  literal.flatMap fun char => if char = escape ∨ char = '%' ∨ char = '_' then [escape, char] else [char]

theorem tokens_quote (escape : Char) (literal rest : List Char) :
    tokens escape false (quote escape literal ++ rest) = literal.map Token.char ++ tokens escape false rest := by
  induction literal with
  | nil => rfl
  | cons char _ ih =>
    rw [quote, flatMap_cons, append_assoc, ← quote]
    split
    next => simp [tokens, ih]
    next plain =>
      have other : char ≠ escape ∧ char ≠ '%' ∧ char ≠ '_' := by simpa using plain
      simp [tokens, other, ih]

section
variable (same : Char → Char → Bool)

def accepts : List Token → List Char → Bool
  | [], text => text.isEmpty
  | .many :: rest, text => text.tails.any (accepts rest)
  | .one :: _, [] => false
  | .one :: rest, _ :: text => accepts rest text
  | .char _ :: _, [] => false
  | .char char :: rest, other :: text => same char other && accepts rest text

theorem accepts_many {rest : List Token} {text : List Char} :
    accepts same (.many :: rest) text = true ↔ ∃ before after, text = before ++ after ∧ accepts same rest after = true := by
  rw [accepts, any_eq_true]
  constructor
  · rintro ⟨after, suffix, accepted⟩
    obtain ⟨before, joined⟩ := (mem_tails after text).mp suffix
    exact ⟨before, after, joined.symm, accepted⟩
  · rintro ⟨before, after, rfl, accepted⟩
    exact ⟨after, (mem_tails _ _).mpr (suffix_append before after), accepted⟩

theorem accepts_chars {literal : List Char} {rest : List Token} {text : List Char} :
    accepts same (literal.map Token.char ++ rest) text = true ↔
      ∃ part after, text = part ++ after ∧ List.Forall₂ (fun char other => same char other = true) literal part ∧
        accepts same rest after = true := by
  induction literal generalizing text with
  | nil =>
    constructor
    · intro accepted
      exact ⟨[], text, rfl, .nil, accepted⟩
    · rintro ⟨part, after, rfl, equal, accepted⟩
      cases equal
      exact accepted
  | cons _ _ ih =>
    cases text with
    | nil =>
      constructor
      · intro accepted
        cases accepted
      · rintro ⟨part, after, joined, equal, _⟩
        cases equal
        cases joined
    | cons other =>
      rw [map_cons, cons_append, accepts, Bool.and_eq_true, ih]
      constructor
      · rintro ⟨first, part, after, rfl, equal, accepted⟩
        exact ⟨other :: part, after, rfl, .cons first equal, accepted⟩
      · rintro ⟨_, after, joined, equal, accepted⟩
        obtain ⟨_, later, first, others, rfl⟩ := forall₂_cons_left_iff.mp equal
        cases joined
        exact ⟨first, later, after, rfl, others, accepted⟩

def Holds (literal text : List Char) : Prop :=
  ∃ before part after, text = before ++ part ++ after ∧
    List.Forall₂ (fun char other => same char other = true) literal part

/-- Between wildcards a quoted literal asks for a part that equals it. -/
theorem accepts_quoted {escape : Char} (plain : escape ≠ '%') (literal text : List Char) :
    accepts same (tokens escape false ('%' :: quote escape literal ++ ['%'])) text = true ↔ Holds same literal text := by
  have read : tokens escape false ('%' :: quote escape literal ++ ['%']) =
      .many :: (literal.map Token.char ++ [.many]) := by
    rw [cons_append, tokens, if_neg plain.symm, if_pos rfl, tokens_quote]
    simp [tokens, plain.symm]
  have rest : ∀ after : List Char, accepts same [.many] after = true := by
    intro after
    rw [accepts_many]
    exact ⟨after, [], (append_nil after).symm, rfl⟩
  rw [read, accepts_many, Holds]
  constructor
  · rintro ⟨before, _, rfl, accepted⟩
    obtain ⟨part, after, rfl, equal, _⟩ := (accepts_chars same).mp accepted
    exact ⟨before, part, after, (append_assoc before part after).symm, equal⟩
  · rintro ⟨before, part, after, rfl, equal⟩
    exact ⟨before, part ++ after, append_assoc before part after, (accepts_chars same).mpr ⟨part, after, rfl, equal, rest after⟩⟩

end

end Like

/-- `text LIKE pattern ESCAPE escape`. -/
def like (same : Char → Char → Bool) (escape : Char) (text pattern : List Char) : Bool :=
  Like.accepts same (Like.tokens escape false pattern) text

end Semantics
