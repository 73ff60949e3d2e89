import FlowAPI.Convert.ClaudeGrammar
import Mathlib.Algebra.Order.BigOperators.Group.List
import Mathlib.Algebra.Order.Group.Nat
import Mathlib.Algebra.Order.Monoid.Canonical.Basic

/-! What a chunk stream carries, and how it is divided between what the converter reads and what it passes over. -/

set_option autoImplicit false
namespace FlowAPI.Convert
open List Fragment ChatChunk Piece Reading
open String (join join_append join_cons)

def ChatChunk.content (chunk : ChatChunk) : String :=
  match chunk.choices with
  | [] => ""
  | choice :: _ => choice.delta.getContentString

def ChatChunk.reasoning (chunk : ChatChunk) : String :=
  match chunk.choices with
  | [] => ""
  | choice :: _ => choice.delta.getReasoningContent

variable (chunks : List ChatChunk)

def streamContent : String := join (chunks.map content)
def streamReasoning : String := join (chunks.map reasoning)

structure ToolUse where
  (id name arguments : String)

def Source.speaks (source : Source) : Bool := source.named || source.2.function.arguments != ""
def argumentsOf (tool : Int) (sources : List Source) : String :=
  join ((sources.filter fun source => source.1 = tool).map fun source => source.2.function.arguments)

def firsts : List Source → List Source
  | [] => []
  | source :: rest => source :: (firsts rest).filter fun later => later.1 != source.1

def chatTools : List ToolUse :=
  (firsts (streamSources chunks)).map fun source =>
    ⟨source.2.id, source.2.function.name, argumentsOf source.1 (streamSources chunks)⟩

theorem length_join (texts : List String) : (join texts).length = (texts.map String.length).sum := by
  induction texts with
  | nil => rfl
  | cons _ _ ih => rw [join_cons, String.length_append, ih, map_cons, sum_cons]

/-- Texts that join to the same text as a division of them have only empty texts in the other part. -/
theorem all_empty_of_join_eq {whole part rest : List String} (divided : whole.Perm (part ++ rest))
    (same : join part = join whole) : ∀ text ∈ rest, text = "" := by
  have lengths : (whole.map String.length).sum = (part.map String.length).sum + (rest.map String.length).sum := by
    rw [(divided.map String.length).sum_eq, map_append, sum_append]
  have equal := congrArg String.length same
  rw [length_join, length_join] at equal
  have zero : (rest.map String.length).sum = 0 := by omega
  intro text member
  exact String.length_eq_zero_iff.mp (sum_eq_zero_iff.mp zero _ (mem_map_of_mem member))

theorem join_filter {α : Type} (keep : α → Bool) (text : α → String) (items : List α)
    (dropped : ∀ item ∈ items, keep item = false → text item = "") :
    join ((items.filter keep).map text) = join (items.map text) := by
  induction items with
  | nil => rfl
  | cons item _ ih =>
    have following := ih fun other member => dropped other (mem_cons_of_mem _ member)
    cases kept : keep item with
    | true => simp [kept, following, join_cons]
    | false => simp [kept, following, join_cons, dropped item mem_cons_self kept]

theorem join_read_iff {whole read passed : List String} (inOrder : read.Sublist whole)
    (all : whole.Perm (read ++ passed)) : join read = join whole ↔ ∀ spoken ∈ passed, spoken = "" := by
  constructor
  · intro same
    exact all_empty_of_join_eq all same
  · intro empty
    have dropped : ∀ list : List String, join (list.filter (· != "")) = join list := by
      intro list
      simpa using join_filter (· != "") id list fun spoken _ quiet => by simpa using quiet
    have same : read.filter (· != "") = whole.filter (· != "") := by
      refine (inOrder.filter _).eq_of_length ?_
      have none : passed.filter (· != "") = [] := by simpa [filter_eq_nil_iff] using empty
      rw [(all.filter _).length_eq, filter_append, none, append_nil]
    rw [← dropped, same, dropped]

inductive Atom where
  | text (text : String)
  | thinking (thinking : String)
  | call (source : Source)

open Atom hiding call

def Piece.atoms : Piece → List Atom
  | .text spoken => if spoken = "" then [] else [.text spoken]
  | .thinking thought => if thought = "" then [] else [.thinking thought]
  | .tools fragments => fragments.map fun fragment => .call fragment.source

def atoms (pieces : List Piece) : List Atom := pieces.flatMap Piece.atoms

variable (left right : List Piece)

theorem atoms_append : atoms (left ++ right) = atoms left ++ atoms right := flatMap_append

/-- What is read and what is passed over make up the whole, and what is read stays in order. -/
structure Splits (whole : List Piece) (reading : Reading) : Prop where
  inOrder : (atoms reading.read).Sublist (atoms whole)
  all : (atoms whole).Perm (atoms reading.read ++ atoms reading.passed)

theorem Splits.append {left right : List Piece} {first second : Reading} (before : Splits left first)
    (after : Splits right second) : Splits (left ++ right) (first ++ second) where
  inOrder := by
    rw [read_append, atoms_append, atoms_append]
    exact before.inOrder.append after.inOrder
  all := by
    rw [read_append, passed_append, atoms_append, atoms_append, atoms_append]
    refine (before.all.append after.all).trans ?_
    simp only [append_assoc]
    exact (perm_append_comm_assoc _ _ _).append_left _

variable (pieces : List Piece)

theorem splits_passed : Splits pieces { passed := pieces } := ⟨nil_sublist _, List.Perm.refl _⟩
theorem splits_read : Splits pieces { read := pieces } := ⟨List.Sublist.refl _, by simp [atoms]⟩
theorem splits_empty {piece : Piece} (empty : piece.atoms = []) : Splits [piece] {} :=
  ⟨nil_sublist _, by simp [atoms, empty]⟩

theorem readContent_splits (delta : ChatDelta) :
    Splits [.thinking delta.getReasoningContent, .text delta.getContentString] (readContent delta) := by
  unfold readContent
  by_cases reasoned : delta.getReasoningContent = ""
  · have noThought : Splits [.thinking delta.getReasoningContent] {} := splits_empty (by simp [Piece.atoms, reasoned])
    by_cases spoken : delta.getContentString = ""
    · have noText : Splits [.text delta.getContentString] {} := splits_empty (by simp [Piece.atoms, spoken])
      rw [if_neg (not_not.mpr reasoned), if_neg (not_not.mpr spoken)]
      exact noThought.append noText
    · rw [if_neg (not_not.mpr reasoned), if_pos spoken]
      exact noThought.append (splits_read [.text delta.getContentString])
  · rw [if_pos reasoned]
    exact (splits_read [.thinking delta.getReasoningContent]).append (splits_passed [.text delta.getContentString])

theorem readLeadingTool_splits (calls : List ToolCallResponse) :
    Splits [.tools (fragmentsFrom 0 calls)] (readLeadingTool calls) := by
  cases calls with
  | nil => exact splits_empty rfl
  | cons => exact ⟨by simp [readLeadingTool, atoms, Piece.atoms, fragmentsFrom, leadingFragment,
      source], by simp [readLeadingTool, atoms, Piece.atoms, fragmentsFrom, leadingFragment, source]⟩

variable (chunk : ChatChunk)

theorem readFirst_splits : Splits chunk.pieces (readFirst chunk) := by
  unfold readFirst pieces
  cases chunk.choices with
  | nil => exact splits_read []
  | cons choice => exact (readLeadingTool_splits _).append (readContent_splits choice.delta)

theorem readDelta_splits (delta : ChatDelta) :
    Splits [.tools (fragmentsFrom 0 delta.toolCalls), .thinking delta.getReasoningContent,
      .text delta.getContentString] (readDelta delta) := by
  unfold readDelta
  by_cases calls : delta.toolCalls = []
  · rw [if_pos calls]
    exact (splits_empty (by rw [calls]; rfl)).append (readContent_splits delta)
  · rw [if_neg calls]
    exact (splits_read [.tools (fragmentsFrom 0 delta.toolCalls)]).append
      (splits_passed [.thinking delta.getReasoningContent, .text delta.getContentString])

theorem readLater_splits : Splits chunk.pieces (readLater chunk) := by
  have deferred := splits_passed chunk.pieces
  unfold readLater
  cases chosen : chunk.choices with
  | nil =>
    have nothing : chunk.pieces = [] := by simp [pieces, chosen]
    rw [nothing]
    exact splits_read []
  | cons choice =>
    dsimp only
    split
    · exact deferred
    · simpa [pieces, chosen] using readDelta_splits choice.delta

theorem readRest_splits (stored : Option Usage) (chunks : List ChatChunk) :
    Splits (chunks.flatMap ChatChunk.pieces) (readRest stored chunks) := by
  induction chunks with
  | nil => exact splits_read []
  | cons chunk _ ih =>
    refine (readLater_splits chunk).append ?_
    split
    · exact splits_passed _
    · exact ih

theorem reading_splits (stored : Option Usage) (chunks : List ChatChunk) :
    Splits (chunks.flatMap ChatChunk.pieces) (reading stored chunks) := by
  cases chunks with
  | nil => exact splits_read []
  | cons chunk rest =>
    refine (readFirst_splits chunk).append ?_
    split
    · exact splits_passed _
    · exact readRest_splits stored rest

def Atom.text? : Atom → Option String
  | .text spoken => some spoken
  | .thinking _ | .call _ => none

def Atom.thinking? : Atom → Option String
  | .thinking thought => some thought
  | .text _ | .call _ => none

def Atom.source? : Atom → Option Source
  | .call source => some source
  | .text _ | .thinking _ => none

variable (pieces : List Piece)

def texts : List String := (atoms pieces).filterMap text?
def thoughts : List String := (atoms pieces).filterMap thinking?
def sources : List Source := (atoms pieces).filterMap source?

theorem texts_append : texts (left ++ right) = texts left ++ texts right := by
  simp [texts, atoms_append]
theorem thoughts_append : thoughts (left ++ right) = thoughts left ++ thoughts right := by
  simp [thoughts, atoms_append]
theorem sources_append : sources (left ++ right) = sources left ++ sources right := by
  simp [sources, atoms_append]

@[simp] theorem texts_nil : texts [] = [] := rfl
@[simp] theorem thoughts_nil : thoughts [] = [] := rfl
@[simp] theorem sources_nil : sources [] = [] := rfl

section pieces

variable (fragments : List Fragment) (spoken : String) (rest : List Piece)

@[simp] theorem texts_tools : texts (.tools fragments :: rest) = texts rest := by
  have none : (fragments.map fun fragment => Atom.call fragment.source).filterMap text? = [] := by
    simp [filterMap_eq_nil_iff, text?]
  simp only [texts, atoms, flatMap_cons, filterMap_append, Piece.atoms, none, nil_append]

@[simp] theorem texts_thinking : texts (.thinking spoken :: rest) = texts rest := by
  by_cases empty : spoken = "" <;> simp [texts, atoms, Piece.atoms, empty, text?, filterMap_cons]
@[simp] theorem texts_text : texts (.text spoken :: rest) = (if spoken = "" then [] else [spoken]) ++ texts rest := by
  by_cases empty : spoken = "" <;> simp [texts, atoms, Piece.atoms, empty, text?]

@[simp] theorem thoughts_tools : thoughts (.tools fragments :: rest) = thoughts rest := by
  have none : (fragments.map fun fragment => Atom.call fragment.source).filterMap thinking? = [] := by
    simp [filterMap_eq_nil_iff, thinking?]
  simp only [thoughts, atoms, flatMap_cons, filterMap_append, Piece.atoms, none, nil_append]

@[simp] theorem thoughts_thinking :
    thoughts (.thinking spoken :: rest) = (if spoken = "" then [] else [spoken]) ++ thoughts rest := by
  by_cases empty : spoken = "" <;> simp [thoughts, atoms, Piece.atoms, empty, thinking?]

@[simp] theorem thoughts_text : thoughts (.text spoken :: rest) = thoughts rest := by
  by_cases empty : spoken = "" <;> simp [thoughts, atoms, Piece.atoms, empty, thinking?, filterMap_cons]

@[simp] theorem sources_tools : sources (.tools fragments :: rest) = fragments.map Fragment.source ++ sources rest := by
  have all : (fragments.map fun fragment => Atom.call fragment.source).filterMap source? =
      fragments.map Fragment.source := by
    rw [filterMap_map, ← filterMap_eq_map]
    rfl
  simp only [sources, atoms, flatMap_cons, filterMap_append, Piece.atoms, all]

@[simp] theorem sources_thinking : sources (.thinking spoken :: rest) = sources rest := by
  by_cases empty : spoken = "" <;> simp [sources, atoms, Piece.atoms, empty, source?, filterMap_cons]
@[simp] theorem sources_text : sources (.text spoken :: rest) = sources rest := by
  by_cases empty : spoken = "" <;> simp [sources, atoms, Piece.atoms, empty, source?, filterMap_cons]

end pieces

theorem join_texts_pieces : join (texts chunk.pieces) = chunk.content := by
  unfold pieces content
  cases chunk.choices with
  | nil => rfl
  | cons choice => by_cases spoken : choice.delta.getContentString = "" <;> simp [spoken, join_cons]

theorem join_thoughts_pieces : join (thoughts chunk.pieces) = chunk.reasoning := by
  unfold pieces reasoning
  cases chunk.choices with
  | nil => rfl
  | cons choice => by_cases thought : choice.delta.getReasoningContent = "" <;> simp [thought, join_cons]

theorem sources_pieces : sources chunk.pieces = streamSources [chunk] := by
  cases chosen : chunk.choices with
  | nil | cons => simp [pieces, streamSources, chosen]

variable (chunks : List ChatChunk)

theorem join_texts : join (texts (chunks.flatMap ChatChunk.pieces)) = streamContent chunks := by
  induction chunks with
  | nil => rfl
  | cons _ _ ih =>
    rw [flatMap_cons, texts_append, join_append, join_texts_pieces, ih]
    simp [streamContent, join_cons]

theorem join_thoughts : join (thoughts (chunks.flatMap ChatChunk.pieces)) = streamReasoning chunks := by
  induction chunks with
  | nil => rfl
  | cons _ _ ih =>
    rw [flatMap_cons, thoughts_append, join_append, join_thoughts_pieces, ih]
    simp [streamReasoning, join_cons]

theorem sources_stream : sources (chunks.flatMap ChatChunk.pieces) = streamSources chunks := by
  induction chunks with
  | nil => rfl
  | cons _ _ ih =>
    rw [flatMap_cons, sources_append, sources_pieces, ih]
    simp [streamSources]

end FlowAPI.Convert
