import FlowAPI.Convert.ToChat
import FlowAPI.Convert.StreamContent

/-! A Claude message, converted as a whole and event by event. -/

set_option autoImplicit false
namespace FlowAPI.Convert
open List ClaudeToChat
open String (join join_append join_cons)

/-- A content block; `input` is the marshalled input of a tool. -/
structure ContentBlock extends ClaudeMediaMessage where
  input : String := ""

structure ChatMessage where
  text : String := ""
  reasoning : Option String := none
  tools : List ToolUse := []

def ChatMessage.read (message : ChatMessage) (block : ContentBlock) : ChatMessage :=
  match block.type with
  | .toolUse => { message with tools := message.tools ++ [⟨block.id, block.name, block.input⟩] }
  | .thinking => { message with reasoning := block.thinking.or message.reasoning }
  | .text => { message with text := block.text.getD "" }
  | _ => message

def responseClaude2OpenAI (content : List ContentBlock) : ChatMessage :=
  let read := content.foldl ChatMessage.read { text := ((content.head?).bind (·.text)).getD "" }
  let thinkingContent := read.reasoning.getD ""
  let responseThinking := ((content.head?).bind (·.thinking)).getD ""
  { read with
    reasoning :=
      if thinkingContent ≠ "" then some thinkingContent
      else if responseThinking ≠ "" then some responseThinking else none }

/-- A block with the parts in which it is streamed. The input of a tool is the text to which the whole message's value
marshals; its parts are the provider's own text of that value. -/
inductive Block where
  | text (parts : List String)
  | thinking (parts signatures : List String)
  | toolUse (id name input : String) (parts : List String)

namespace Block

def content : Block → ContentBlock
  | .text parts => { type := .text, text := some (join parts) }
  | .thinking parts _ => { type := .thinking, thinking := some (join parts) }
  | .toolUse id name input _ => { type := .toolUse, id, name, input }

def events (index : Int) : Block → List ClaudeResponse
  | .text parts => textBlockStart index :: parts.map (textDelta index)
  | .thinking parts signatures => thinkingBlockStart index :: parts.map (thinkingDelta index) ++
      signatures.map fun _ =>
        { type := .contentBlockDelta, index := some index, delta := some { type := .signatureDelta } }
  | .toolUse id name _ parts => toolUseBlockStart index { id, function := { name } } :: parts.map (inputJsonDelta index)

end Block

def eventsFrom : Int → List Block → List ClaudeResponse
  | _, [] => []
  | index, block :: rest => block.events index ++ generateStopBlock index :: eventsFrom (index + 1) rest

def messageEvents (blocks : List Block) (stopReason : String) : List ClaudeResponse :=
  { type := .messageStart } :: eventsFrom 0 blocks ++ [messageDelta none stopReason, messageStop]

def deltasOf (responses : List ClaudeResponse) : List ChatDelta :=
  responses.filterMap fun response => ((streamResponseClaude2OpenAI response).join.bind (·.choices.head?)).map (·.delta)

def mergeCall (known : List (Option Int × ToolUse)) (call : ToolCallResponse) : List (Option Int × ToolUse) :=
  if ∃ use ∈ known, use.1 = call.index then
    known.map fun use =>
      if use.1 = call.index then (use.1, { use.2 with arguments := use.2.arguments ++ call.function.arguments }) else use
  else known ++ [(call.index, ⟨call.id, call.function.name, call.function.arguments⟩)]

def collect (deltas : List ChatDelta) : ChatMessage where
  text := join (deltas.filterMap (·.content))
  reasoning := some (join (deltas.filterMap (·.reasoningContent)))
  tools := ((deltas.flatMap (·.toolCalls)).foldl mergeCall []).map Prod.snd

namespace Block

def deltas (index : Int) : Block → List ChatDelta
  | .text parts => { content := some "" } :: parts.map fun part => { content := some part }
  | .thinking parts signatures => {} :: parts.map (fun part => { reasoningContent := some part }) ++
      signatures.map fun _ => { reasoningContent := some "\n" }
  | .toolUse id name _ parts => { toolCalls := [{ index := some index, id, function := { name } }] } ::
      parts.map fun part => { toolCalls := [{ index := some index, function := { arguments := part } }] }

def texts : Block → List String
  | .text parts => [join parts]
  | _ => []

def thoughts : Block → List String
  | .thinking parts _ => [join parts]
  | _ => []

def marks : Block → List String
  | .thinking _ signatures => signatures.map fun _ => "\n"
  | _ => []

def uses : Block → List ToolUse
  | .toolUse id name input _ => [⟨id, name, input⟩]
  | _ => []

def streamedUses : Block → List ToolUse
  | .toolUse id name _ parts => [⟨id, name, join parts⟩]
  | _ => []

variable (index : Int) (block : Block)

theorem deltasOf_events : deltasOf (block.events index) = block.deltas index := by
  cases block <;>
    simp [-map_const', deltasOf, events, deltas, Function.comp_def, streamResponseClaude2OpenAI, choiceOf,
      blockDelta, blockStart, textBlockStart, thinkingBlockStart, toolUseBlockStart, textDelta,
      thinkingDelta, inputJsonDelta]

theorem contents_deltas : join ((block.deltas index).filterMap (·.content)) = join block.texts := by
  cases block <;> simp [deltas, texts, join_cons]

theorem reasonings_deltas : join ((block.deltas index).filterMap (·.reasoningContent)) =
    join (block.thoughts ++ block.marks) := by
  cases block <;> simp [deltas, thoughts, marks, join_cons]

section
variable {known : List (Option Int × ToolUse)} {index : Int} (fresh : ∀ use ∈ known, use.1 ≠ some index)
include fresh

theorem merge_parts (use : ToolUse) (parts : List String) :
    (parts.map fun part => { index := some index, function := { arguments := part } }).foldl mergeCall
        (known ++ [(some index, use)]) =
      known ++ [(some index, { use with arguments := use.arguments ++ join parts })] := by
  have others : ∀ part : String, known.map (fun use => if use.1 = some index then
      (use.1, { use.2 with arguments := use.2.arguments ++ part }) else use) = known := by
    intro part
    rw [map_congr_left fun use member => if_neg (fresh use member), map_id']
  induction parts generalizing use with
  | nil => simp
  | cons part _ ih => simp [mergeCall, others, ih, join_cons, String.append_assoc]

theorem merge_block : ((block.deltas index).flatMap (·.toolCalls)).foldl mergeCall known =
    known ++ block.streamedUses.map (Prod.mk (some index)) := by
  have silent {α : Type} (parts : List α) : parts.flatMap (fun _ => ([] : List ToolCallResponse)) = [] :=
    flatMap_eq_nil_iff.mpr fun _ _ => rfl
  cases block with
  | text | thinking => simp [deltas, streamedUses, flatMap_map, silent, -map_const']
  | toolUse id name _ parts =>
    have unknown : ¬∃ use ∈ known, use.1 = some index := fun ⟨use, member, same⟩ => fresh use member same
    rw [deltas, flatMap_cons, flatMap_map, ← map_eq_flatMap, singleton_append, foldl_cons,
      mergeCall, if_neg unknown, merge_parts fresh]
    simp [streamedUses]

end

end Block

variable (blocks : List Block)

theorem collect_events (index : Int) :
    join ((deltasOf (eventsFrom index blocks)).filterMap (·.content)) = join (blocks.flatMap Block.texts) ∧
      join ((deltasOf (eventsFrom index blocks)).filterMap (·.reasoningContent)) =
        join (blocks.flatMap fun block => block.thoughts ++ block.marks) ∧
      ∀ known : List (Option Int × ToolUse), (∀ use ∈ known, ∃ place, use.1 = some place ∧ place < index) →
        (((deltasOf (eventsFrom index blocks)).flatMap (·.toolCalls)).foldl mergeCall known).map Prod.snd =
          known.map Prod.snd ++ blocks.flatMap Block.streamedUses := by
  induction blocks generalizing index with
  | nil => exact ⟨rfl, rfl, fun known _ => by simp [eventsFrom, deltasOf]⟩
  | cons block rest ih =>
    obtain ⟨texts, thoughts, uses⟩ := ih (index + 1)
    have first : deltasOf (eventsFrom index (block :: rest)) =
        block.deltas index ++ deltasOf (eventsFrom (index + 1) rest) := by
      rw [← Block.deltasOf_events]
      exact filterMap_append
    simp only [first, filterMap_append, join_append, Block.contents_deltas, Block.reasonings_deltas, texts,
      thoughts, flatMap_cons, flatMap_append, foldl_append, true_and]
    intro known below
    have fresh : ∀ use ∈ known, use.1 ≠ some index := by
      intro use member same
      obtain ⟨place, found, before⟩ := below use member
      cases found.symm.trans same
      omega
    rw [Block.merge_block block fresh, uses]
    · simp [Function.comp_def]
    · intro use member
      rcases mem_append.mp member with old | new
      · obtain ⟨place, found, before⟩ := below use old
        exact ⟨place, found, by omega⟩
      · obtain ⟨_, _, rfl⟩ := mem_map.mp new
        exact ⟨index, rfl, by omega⟩

theorem read_blocks (message : ChatMessage) : (blocks.map Block.content).foldl ChatMessage.read message =
      { text := ((blocks.flatMap Block.texts).getLast?).getD message.text
        reasoning := ((blocks.flatMap Block.thoughts).getLast?).or message.reasoning
        tools := message.tools ++ blocks.flatMap Block.uses } := by
  induction blocks generalizing message with
  | nil => simp
  | cons block rest ih =>
    rw [map_cons, foldl_cons, ih]
    cases block <;>
      simp [ChatMessage.read, Block.content, Block.texts, Block.thoughts, Block.uses, getLast?_cons]

theorem join_eq_iff {whole part rest : List String} (divided : whole.Perm (part ++ rest)) (single : part.length ≤ 1) :
    join whole = join part ↔ ∀ text ∈ rest, text = "" := by
  rw [eq_comm]
  refine join_read_iff ?_ divided
  match part, single with
  | [], _ => exact nil_sublist _
  | [_], _ => exact singleton_sublist.mpr (divided.mem_iff.mpr mem_cons_self)

theorem dropLast_perm (texts : List String) : texts.Perm ((texts.getLast?).toList ++ texts.dropLast) := by
  rcases texts.eq_nil_or_concat with rfl | ⟨before, last, rfl⟩
  · simp
  · simp

theorem join_toList (text : Option String) : join text.toList = text.getD "" := by
  cases text <;> simp [join_cons]

def firstThought : List String := (blocks.take 1).flatMap Block.thoughts

theorem responseClaude2OpenAI_blocks :
    (responseClaude2OpenAI (blocks.map Block.content)).text = ((blocks.flatMap Block.texts).getLast?).getD "" ∧
      (responseClaude2OpenAI (blocks.map Block.content)).reasoning.getD "" =
        (if ((blocks.flatMap Block.thoughts).getLast?).getD "" ≠ "" then
          ((blocks.flatMap Block.thoughts).getLast?).getD "" else join (firstThought blocks)) ∧
      (responseClaude2OpenAI (blocks.map Block.content)).tools = blocks.flatMap Block.uses := by
  have choose (last first : String) : (if last ≠ "" then some last else if first ≠ "" then some first else none).getD "" =
      if last ≠ "" then last else first := by
    split_ifs with _ empty <;> simp_all
  rw [responseClaude2OpenAI, read_blocks]
  refine ⟨?_, ?_, rfl⟩
  · match blocks with
    | [] | .thinking .. :: _ | .toolUse .. :: _ => rfl
    | .text _ :: _ => simp [Block.texts, getLast?_cons]
  · rw [choose, Option.or_none]
    match blocks with
    | [] | .thinking .. :: _ | .toolUse .. :: _ | .text _ :: _ =>
      simp [firstThought, Block.content, Block.thoughts, join_cons]

/-- Only the last text and one thought, unsigned, have something to say. -/
@[mk_iff]
structure Undivided : Prop where
  texts : ∀ text ∈ (blocks.flatMap Block.texts).dropLast, text = ""
  unsigned : ∀ block ∈ blocks, block.marks = []
  thoughts : if ((blocks.flatMap Block.thoughts).getLast?).getD "" ≠ "" then
      ∀ thought ∈ (blocks.flatMap Block.thoughts).dropLast, thought = ""
    else ∀ thought ∈ (blocks.drop 1).flatMap Block.thoughts, thought = ""

def Verbatim : Prop := ∀ id name input parts, .toolUse id name input parts ∈ blocks → join parts = input

theorem streamedUses_eq_iff : blocks.flatMap Block.streamedUses = blocks.flatMap Block.uses ↔ Verbatim blocks := by
  unfold Verbatim
  induction blocks with
  | nil => simp
  | cons block rest ih =>
    cases block with
    | text | thinking => simpa [Block.uses, Block.streamedUses] using ih
    | toolUse id name input parts =>
      simp only [flatMap_cons, Block.uses, Block.streamedUses, singleton_append, cons.injEq, ToolUse.mk.injEq, true_and, ih]
      constructor
      · rintro ⟨here, later⟩ id name input parts member
        rcases mem_cons.mp member with same | member
        · cases same
          exact here
        · exact later id name input parts member
      · intro all
        exact ⟨all id name input parts mem_cons_self, fun id name input parts member =>
          all id name input parts (mem_cons_of_mem _ member)⟩

/-- The two conversions of a message agree in the tool calls exactly where the streamed parts spell the inputs as they
marshal, and in text and reasoning exactly where the message is not divided into several. -/
theorem claude_message_streamed_iff (stopReason : String) :
    ((collect (deltasOf (messageEvents blocks stopReason))).tools =
        (responseClaude2OpenAI (blocks.map Block.content)).tools ↔ Verbatim blocks) ∧
      ((collect (deltasOf (messageEvents blocks stopReason))).text =
          (responseClaude2OpenAI (blocks.map Block.content)).text ∧
        (collect (deltasOf (messageEvents blocks stopReason))).reasoning.getD "" =
          (responseClaude2OpenAI (blocks.map Block.content)).reasoning.getD "" ↔ Undivided blocks) := by
  obtain ⟨texts, thoughts, uses⟩ := collect_events blocks 0
  obtain ⟨text, reasoning, tools⟩ := responseClaude2OpenAI_blocks blocks
  have framed : deltasOf (messageEvents blocks stopReason) =
      { content := some "", role := "assistant" } :: deltasOf (eventsFrom 0 blocks) ++ [({} : ChatDelta)] := by
    simp [deltasOf, messageEvents, messageDelta, messageStop, streamResponseClaude2OpenAI, choiceOf,
      stopReasonChoice]
    split <;> rfl
  have thought : blocks.flatMap Block.thoughts = firstThought blocks ++ (blocks.drop 1).flatMap Block.thoughts := by
    rw [firstThought, ← flatMap_append, take_append_drop]
  have single : (firstThought blocks).length ≤ 1 := by
    match blocks with
    | [] | .thinking .. :: _ | .toolUse .. :: _ | .text _ :: _ => simp [firstThought, Block.thoughts]
  have unsigned : (∀ mark ∈ blocks.flatMap Block.marks, mark = "") ↔ ∀ block ∈ blocks, block.marks = [] := by
    rw [forall_mem_flatMap]
    refine forall₂_congr fun block _ => ?_
    cases block <;> simp [Block.marks, eq_nil_iff_forall_not_mem, -map_const']
  have divided := (flatMap_append_perm blocks Block.thoughts Block.marks).symm
  -- the whole message keeps one thought and no mark, so everything else has to be empty
  have taken : (join (blocks.flatMap fun block => block.thoughts ++ block.marks) =
      if ((blocks.flatMap Block.thoughts).getLast?).getD "" ≠ "" then
        ((blocks.flatMap Block.thoughts).getLast?).getD "" else join (firstThought blocks)) ↔
      (∀ block ∈ blocks, block.marks = []) ∧ if ((blocks.flatMap Block.thoughts).getLast?).getD "" ≠ "" then
        ∀ thought ∈ (blocks.flatMap Block.thoughts).dropLast, thought = ""
      else ∀ thought ∈ (blocks.drop 1).flatMap Block.thoughts, thought = "" := by
    split
    · have apart := divided.trans ((dropLast_perm _).append_right _)
      rw [append_assoc] at apart
      rw [← join_toList, join_eq_iff apart (by grind), forall_mem_append, unsigned, and_comm]
    · rw [thought, append_assoc] at divided
      rw [join_eq_iff divided single, forall_mem_append, unsigned, and_comm]
  have last := join_eq_iff (dropLast_perm (blocks.flatMap Block.texts)) (by grind)
  rw [join_toList] at last
  simp only [collect, framed, cons_append, filterMap_cons, filterMap_append, filterMap_nil,
    flatMap_cons, flatMap_append, flatMap_nil, append_nil, nil_append, Option.getD_some,
    join_cons, String.empty_append, text, reasoning, tools, texts, thoughts, last, taken, undivided_iff, and_true]
  rw [uses [] (by simp), map_nil, nil_append]
  exact streamedUses_eq_iff blocks

/-- Of two texts the whole message keeps the second. -/
theorem divided_text_differs :
    (collect (deltasOf (messageEvents [.text ["one"], .text ["two"]] "end_turn"))).text = "onetwo" ∧
      (responseClaude2OpenAI ([.text ["one"], .text ["two"]].map Block.content)).text = "two" := by
  decide +kernel

end FlowAPI.Convert
