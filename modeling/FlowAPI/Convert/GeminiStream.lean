import FlowAPI.Convert.ToChat
import FlowAPI.Semantics.Grouping
import Mathlib.Data.List.Flatten

/-! What a whole stream of Gemini responses keeps when it is converted to chat chunks.

Tool indices and the choice between reasoning and content are decided for one response at a time, so both go wrong
where a candidate calls functions in two responses or thinks and speaks in one. Texts are compared as they stand, with the
separator that the conversion puts between the parts of one response; a part that is only a line break is dropped. -/

set_option autoImplicit false
namespace FlowAPI.Convert.GeminiToChat
open List Semantics

structure Arrival where
  response : GeminiChatResponse
  usage : Option Usage := none
  uuid : Nat → Nat → String

def convertStream (model : String) : State → List Arrival → List ChatChunk
  | state, [] => (finalize model state).1
  | state, arrival :: rest =>
    let converted := convertChunk arrival.uuid arrival.response model arrival.usage state
    converted.1 ++ convertStream model converted.2 rest

/-- The parts of one response, each on a line of its own. -/
def lines (texts : List String) : List Char := ("\n".intercalate texts).toList

def saidBy {β : Type} (number : Int) (read : ChatDelta → List β) (choices : List ChatChoice) : List β :=
  choices.flatMap fun choice => if choice.index = number then read choice.delta else []

def candidatesOf (number : Int) (arrivals : List Arrival) : List GeminiChatCandidate :=
  (arrivals.flatMap fun arrival => arrival.response.candidates).filter fun candidate => candidate.index = number

def reasoningOf (delta : ChatDelta) : List Char := delta.getReasoningContent.toList
def contentOf (delta : ChatDelta) : List Char := delta.getContentString.toList
def toolIndices (delta : ChatDelta) : List (Option Int) := delta.toolCalls.map ToolCallResponse.index

def isBreak (part : GeminiPart) : Bool :=
  part.inlineData.isNone && part.functionCall.isNone && !part.thought && part.executableCode.isNone &&
    part.codeExecutionResult.isNone && part.text = "\n"

def speech (part : GeminiPart) : Option String := if isBreak part then some "\n" else piece part

variable (candidate : GeminiChatCandidate)

def thoughtTexts : List String := (candidate.parts.filter isThought).map GeminiPart.text
def spokenTexts : List String := (candidate.parts.filter fun part => !isThought part).filterMap speech

def calls : Nat := candidate.parts.countP fun part => (partToolCall "" part).isSome

/-- The law of a converted stream: for each candidate the tool indices are distinct, its thoughts are the reasoning
and what else it says is the content. -/
structure Faithful (arrivals : List Arrival) (choices : List ChatChoice) (number : Int) : Prop where
  indices : (saidBy number toolIndices choices).Nodup
  reasoning : saidBy number reasoningOf choices =
    (candidatesOf number arrivals).flatMap fun candidate => lines (thoughtTexts candidate)
  content : saidBy number contentOf choices =
    (candidatesOf number arrivals).flatMap fun candidate => lines (spokenTexts candidate)

section
variable {β : Type} {read : ChatDelta → List β} (number : Int)

theorem saidBy_append (first second : List ChatChoice) :
    saidBy number read (first ++ second) = saidBy number read first ++ saidBy number read second :=
  flatMap_append

theorem saidBy_cleared (choices : List ChatChoice) :
    saidBy number read (choices.map clearToolFinish) = saidBy number read choices := by
  unfold saidBy
  rw [flatMap_map]
  refine flatMap_congr fun choice _ => ?_
  unfold clearToolFinish
  split_ifs <;> rfl

theorem saidBy_candidates {said : GeminiChatCandidate → List β}
    (reads : ∀ uuid candidate, read (candidateChoice uuid candidate).delta = said candidate)
    (uuid : Nat → Nat → String) (place : Nat) (candidates : List GeminiChatCandidate) :
    saidBy number read (candidateChoices uuid place candidates) =
      (candidates.filter fun candidate => candidate.index = number).flatMap said := by
  induction candidates generalizing place with
  | nil => rfl
  | cons candidate _ ih =>
    have index : (candidateChoice (uuid place) candidate).index = candidate.index := rfl
    have rest := ih (place + 1)
    unfold saidBy at rest ⊢
    rw [candidateChoices, flatMap_cons, rest, reads, index]
    by_cases own : candidate.index = number <;> simp [own]

variable (silent : read {} = [])
include silent

theorem saidBy_terminal (model : String) (state : State) :
    saidBy number read (terminalChunk model state).1.choices = [] := by
  simp [saidBy, terminalChunk, silent]

theorem saidBy_convertChunk (arrival : Arrival) (model : String) (state : State) :
    saidBy number read ((convertChunk arrival.uuid arrival.response model arrival.usage state).1.flatMap (·.choices)) =
      saidBy number read (candidateChoices arrival.uuid 0 arrival.response.candidates) := by
  unfold convertChunk
  dsimp only
  -- neither the terminal chunk nor a cleared finish reason says anything
  split_ifs <;>
    simp [saidBy_append, saidBy_terminal, silent, saidBy_cleared, streamResponseGeminiChat2OpenAI]

theorem saidBy_stream {said : GeminiChatCandidate → List β}
    (reads : ∀ uuid candidate, read (candidateChoice uuid candidate).delta = said candidate)
    (model : String) (state : State) (arrivals : List Arrival) :
    saidBy number read ((convertStream model state arrivals).flatMap (·.choices)) =
      (candidatesOf number arrivals).flatMap said := by
  induction arrivals generalizing state with
  | nil =>
    unfold convertStream finalize
    split_ifs
    · rfl
    · simp [saidBy_terminal, silent, candidatesOf]
  | cons arrival _ ih =>
    rw [convertStream, flatMap_append, saidBy_append, saidBy_convertChunk number silent, ih,
      saidBy_candidates number reads]
    simp [candidatesOf]

end

theorem partToolCall_isSome (uuid : String) (part : GeminiPart) :
    (partToolCall uuid part).isSome = (partToolCall "" part).isSome := by
  unfold partToolCall geminiResponseToolCall
  cases part.functionCall <;> split_ifs <;> simp

variable (uuid : Nat → String)

theorem toolCalls_indices (place index : Nat) (parts : List GeminiPart) :
    (toolCalls uuid place index parts).map ToolCallResponse.index =
      (range' index (parts.countP fun part => (partToolCall "" part).isSome)).map fun index : Nat => some (index : Int) := by
  induction parts generalizing place index with
  | nil => rfl
  | cons part _ ih =>
    have drawn := partToolCall_isSome (uuid place) part
    unfold toolCalls
    cases called : partToolCall (uuid place) part with
    | none =>
      rw [called] at drawn
      simp [← drawn, ih]
    | some call =>
      rw [called] at drawn
      simp [← drawn, ih, range'_succ]

variable (candidate : GeminiChatCandidate)

theorem candidateChoice_indices : toolIndices (candidateChoice uuid candidate).delta =
      (range' 0 (calls candidate)).map fun index : Nat => some (index : Int) := by
  rw [calls, ← toolCalls_indices uuid 0]
  unfold candidateChoice
  split_ifs <;> rfl

theorem candidateChoice_reasoning : reasoningOf (candidateChoice uuid candidate).delta =
      if candidate.parts.any isThought then lines (candidate.parts.filterMap piece) else [] := by
  unfold candidateChoice
  split_ifs <;> rfl

theorem candidateChoice_content : contentOf (candidateChoice uuid candidate).delta =
      if candidate.parts.any isThought then [] else lines (candidate.parts.filterMap piece) := by
  unfold candidateChoice
  split_ifs <;> rfl

def weight (texts : List String) : Nat := (texts.map fun text => text.toList.length + 1).sum

theorem length_lines (texts : List String) : (lines texts).length = weight texts - 1 := by
  unfold lines weight
  induction texts with
  | nil => rfl
  | cons text rest ih =>
    cases rest with
    | nil => simp
    | cons =>
      simp_all
      omega

theorem piece_of_thought {part : GeminiPart} (thinks : isThought part = true) : piece part = some part.text := by
  unfold isThought at thinks
  unfold piece
  cases data : part.inlineData <;> simp_all

theorem piece_of_break {part : GeminiPart} (only : isBreak part = true) : piece part = none := by
  unfold isBreak at only
  unfold piece
  cases data : part.inlineData <;> simp_all

theorem weight_spoken (parts : List GeminiPart) :
    weight (parts.filterMap speech) = weight (parts.filterMap piece) + 2 * parts.countP isBreak := by
  induction parts with
  | nil => rfl
  | cons part rest ih =>
    unfold weight at ih ⊢
    cases only : isBreak part with
    | true =>
      simp [speech, only, piece_of_break only, ih]
      omega
    | false =>
      cases said : piece part with
      | none => simp [speech, only, said, ih]
      | some =>
        simp [speech, only, said, ih]
        omega

theorem weight_pieces (parts : List GeminiPart) : weight (parts.filterMap piece) =
    weight ((parts.filter isThought).map GeminiPart.text) +
      weight ((parts.filter fun part => !isThought part).filterMap piece) := by
  induction parts with
  | nil => rfl
  | cons part rest ih =>
    unfold weight at ih ⊢
    cases thinks : isThought part with
    | true =>
      simp [piece_of_thought thinks, thinks, ih]
      omega
    | false =>
      cases said : piece part with
      | none => simp [said, thinks, ih]
      | some =>
        simp [said, thinks, ih]
        omega

theorem flatMap_eq_iff {α β : Type} {first second : α → List β} {elements : List α}
    (shorter : ∀ element ∈ elements, (first element).length ≤ (second element).length) :
    (elements.flatMap first).length ≤ (elements.flatMap second).length ∧
      (elements.flatMap first = elements.flatMap second ↔ ∀ element ∈ elements, first element = second element) := by
  induction elements with
  | nil => simp
  | cons element rest ih =>
    obtain ⟨here, later⟩ := forall_mem_cons.mp shorter
    obtain ⟨less, same⟩ := ih later
    rw [flatMap_cons, flatMap_cons, forall_mem_cons, ← same, length_append, length_append]
    refine ⟨by omega, fun whole => append_inj whole ?_, fun ⟨left, right⟩ => by rw [left, right]⟩
    have lengths := congrArg length whole
    rw [length_append, length_append] at lengths
    omega

/-- A candidate that thinks says nothing else in the same response, and one that speaks has no part that is only a line
break. -/
def Clear : Prop :=
  if candidate.parts.any isThought then spokenTexts candidate = [] else ∀ part ∈ candidate.parts, isBreak part = false

section
variable {candidate : GeminiChatCandidate}

theorem weight_eq_zero {texts : List String} (none : weight texts = 0) : texts = [] := by
  cases texts with
  | nil => rfl
  | cons => simp [weight] at none

theorem speech_none {part : GeminiPart} (silent : speech part = none) : piece part = none := by
  unfold speech at silent
  split_ifs at silent
  exact silent

theorem pieces_of_thoughts (silent : spokenTexts candidate = []) :
    candidate.parts.filterMap piece = thoughtTexts candidate := by
  unfold spokenTexts thoughtTexts at *
  generalize candidate.parts = parts at silent ⊢
  induction parts with
  | nil => rfl
  | cons part rest ih =>
    cases thinks : isThought part with
    | true =>
      rw [filter_cons_of_neg (by simp [thinks])] at silent
      simp [piece_of_thought thinks, thinks, ih silent]
    | false =>
      rw [filter_cons_of_pos (by simp [thinks]), filterMap_cons] at silent
      split at silent
      next none => simp [speech_none none, thinks, ih silent]
      · cases silent

section
variable (thinks : candidate.parts.any isThought = true)
include thinks

theorem weight_thoughts : 0 < weight (thoughtTexts candidate) := by
  obtain ⟨part, member, thought⟩ := any_eq_true.mp thinks
  refine Nat.pos_of_ne_zero fun none => ?_
  have listed : part.text ∈ thoughtTexts candidate := mem_map_of_mem (mem_filter.mpr ⟨member, thought⟩)
  rw [weight_eq_zero none] at listed
  cases listed

theorem silent_iff :
    lines (thoughtTexts candidate) = lines (candidate.parts.filterMap piece) ∧ [] = lines (spokenTexts candidate) ↔
      spokenTexts candidate = [] := by
  constructor
  · rintro ⟨reasoning, content⟩
    have thoughts := weight_thoughts thinks
    have reasoned := congrArg length reasoning
    have spoken := congrArg length content
    rw [length_lines, length_lines, weight_pieces] at reasoned
    rw [length_nil, length_lines] at spoken
    have split := weight_spoken (candidate.parts.filter fun part => !isThought part)
    unfold thoughtTexts at thoughts reasoned
    unfold spokenTexts at spoken ⊢
    exact weight_eq_zero (by omega)
  · intro silent
    rw [pieces_of_thoughts silent, silent]
    exact ⟨rfl, rfl⟩

end

section
variable (speaks : ¬candidate.parts.any isThought = true)
include speaks

theorem no_thoughts : thoughtTexts candidate = [] ∧ spokenTexts candidate = candidate.parts.filterMap speech := by
  have none : ∀ part ∈ candidate.parts, isThought part = false := by simpa using speaks
  have thoughts : candidate.parts.filter isThought = [] := by simpa [filter_eq_nil_iff] using none
  have others : candidate.parts.filter (fun part => !isThought part) = candidate.parts := by
    simpa [filter_eq_self] using none
  rw [thoughtTexts, spokenTexts, thoughts, others]
  exact ⟨rfl, rfl⟩

theorem unbroken_iff : lines (candidate.parts.filterMap piece) = lines (spokenTexts candidate) ↔
      ∀ part ∈ candidate.parts, isBreak part = false := by
  rw [(no_thoughts speaks).2]
  constructor
  · intro same
    have lengths := congrArg length same
    rw [length_lines, length_lines, weight_spoken] at lengths
    have none : candidate.parts.countP isBreak = 0 := by omega
    simpa [countP_eq_zero] using none
  · intro unbroken
    have all : candidate.parts.filterMap speech = candidate.parts.filterMap piece :=
      filterMap_congr fun part member => by simp [speech, unbroken part member]
    rw [all]

end

variable (candidate)

theorem thoughts_le_reasoning : (lines (thoughtTexts candidate)).length ≤
    (if candidate.parts.any isThought then lines (candidate.parts.filterMap piece) else []).length := by
  split_ifs with thinks
  · rw [length_lines, length_lines, weight_pieces]
    exact Nat.sub_le_sub_right (Nat.le_add_right _ _) 1
  · rw [(no_thoughts thinks).1]
    exact Nat.le_refl 0

theorem content_le_spoken : (if candidate.parts.any isThought then [] else
    lines (candidate.parts.filterMap piece)).length ≤ (lines (spokenTexts candidate)).length := by
  split_ifs with thinks
  · exact Nat.zero_le _
  · rw [length_lines, length_lines, (no_thoughts thinks).2, weight_spoken]
    exact Nat.sub_le_sub_right (Nat.le_add_right _ _) 1

theorem clear_iff : Clear candidate ↔
    lines (thoughtTexts candidate) =
        (if candidate.parts.any isThought then lines (candidate.parts.filterMap piece) else []) ∧
      (if candidate.parts.any isThought then [] else lines (candidate.parts.filterMap piece)) =
        lines (spokenTexts candidate) := by
  unfold Clear
  split_ifs with thinks
  · exact (silent_iff thinks).symm
  · rw [(no_thoughts thinks).1, unbroken_iff thinks]
    exact (and_iff_right rfl).symm

end

end FlowAPI.Convert.GeminiToChat
