import FlowAPI.Convert.ChatToClaude
import FlowAPI.Convert.ChatToResponses
import FlowAPI.Convert.ResponsesToChat

/-! The terminal events of the stateful converters.

Each converter has a flag that it sets together with its terminal event. A stream whose flag is not set has one
terminal event left, and no step emits one without setting the flag. -/

set_option autoImplicit false
namespace FlowAPI.Convert
open Semantics Emitter List ClaudeResponse ChatChunk Quiet

def terminalsLeft (flag : Bool) : Nat := if flag then 0 else 1

namespace ChatToResponses

def Event.isTerminal (event : Event) : Bool := event.type = .completed || event.type = .incomplete

open Event

namespace State

abbrev Silent (step : Emitter State Event) : Prop := Quiet isTerminal State.finalized step

theorem appendTextDelta_silent (delta : String) : Silent (appendTextDelta delta) := by
  intro state
  unfold appendTextDelta startText
  split <;> simp [responsesStreamEvent, isTerminal, nextIndex]

theorem appendReasoningDelta_silent (delta : String) : Silent (appendReasoningDelta delta) := by
  intro state
  unfold appendReasoningDelta startReasoning
  split <;> simp [responsesStreamEvent, isTerminal, nextIndex]

theorem ensureTool_silent (toolCall : ToolCallResponse) : Silent fun state => (ensureTool toolCall state).2 := by
  intro state
  simp only [ensureTool]
  split <;> simp [responsesStreamEvent, isTerminal, nextIndex]

theorem appendToolCallDelta_silent (toolCall : ToolCallResponse) : Silent (appendToolCallDelta toolCall) := by
  intro state
  obtain ⟨silent, kept⟩ := ensureTool_silent toolCall state
  unfold appendToolCallDelta
  refine ⟨?_, kept⟩
  rw [countP_append, silent]
  split <;> simp [responsesStreamEvent, isTerminal]

theorem textDoneEvents_silent : Silent textDoneEvents := by
  intro state
  unfold textDoneEvents
  split <;> simp [responsesStreamEvent, isTerminal]

theorem reasoningDoneEvents_silent : Silent reasoningDoneEvents := by
  intro state
  unfold reasoningDoneEvents
  split <;> simp [responsesStreamEvent, isTerminal]

theorem toolDoneEvents_silent (tool : Tool) : Silent (toolDoneEvents tool) := by
  intro state
  unfold toolDoneEvents
  split <;> simp [responsesStreamEvent, isTerminal]

theorem doneDeltaEvents_silent : Silent doneDeltaEvents := by
  have tools : Silent toolsDoneEvents := fun state => each toolDoneEvents_silent state.sortedTools state
  exact (textDoneEvents_silent.andThen reasoningDoneEvents_silent).andThen tools

theorem convertFinish_silent (choice : ChatChoice) : Silent (convertFinish choice) := by
  intro state
  unfold convertFinish
  split
  · exact ⟨rfl, rfl⟩
  · obtain ⟨silent, kept⟩ := doneDeltaEvents_silent (applyFinishReason choice.finish state)
    exact ⟨silent, kept⟩

theorem convertChoice_silent (choice : ChatChoice) : Silent (convertChoice choice) := by
  have reasoning : Silent (convertReasoning choice.delta) := by
    intro state
    unfold convertReasoning
    split
    · exact ⟨rfl, rfl⟩
    · exact appendReasoningDelta_silent _ state
  have text : Silent (convertText choice.delta) := by
    intro state
    unfold convertText
    split
    · exact ⟨rfl, rfl⟩
    · exact appendTextDelta_silent _ state
  exact ((reasoning.andThen text).andThen (each appendToolCallDelta_silent _)).andThen
    (convertFinish_silent choice)

end State

theorem chunk_silent (chunk : ChatChunk) : State.Silent (chatCompletionsStreamChunkToResponsesEvents chunk) := by
  have created : State.Silent State.ensureCreated := by
    intro state
    unfold State.ensureCreated
    split <;> simp [responsesStreamEvent, isTerminal]
  exact fun state => created.andThen (each State.convertChoice_silent chunk.choices) (state.noteChunk chunk)

theorem finalize_spends (state : State) :
    ((finalizeChatCompletionsStreamToResponses state).1.countP isTerminal = terminalsLeft state.finalized) ∧
      (finalizeChatCompletionsStreamToResponses state).2.finalized = true ∧
      (state.finalized = true → (finalizeChatCompletionsStreamToResponses state).1 = []) := by
  unfold finalizeChatCompletionsStreamToResponses
  cases finalized : state.finalized with
  | true => simp [terminalsLeft, finalized]
  | false =>
    have terminal : ∀ (status : Status) (payload : ResponsesStreamResponse),
        isTerminal (responsesStreamEvent (if status = .incomplete then .incomplete else .completed) payload) =
          true := by
      intro status payload
      cases status <;> rfl
    simp [terminalsLeft, countP_append, (State.doneDeltaEvents_silent state).1, terminal]

end ChatToResponses

namespace ResponsesToChat

namespace State

abbrev Silent (step : Emitter State ChatChunk) : Prop := Quiet isFinished State.finalized step

theorem isFinished_makeChunk (state : State) (delta : ChatDelta) (finishReason : Option String) :
    (state.makeChunk delta finishReason).isFinished = (finishReason.getD "" != "") := rfl

attribute [local simp] isFinished_makeChunk

theorem ensureStart_silent : Silent ensureStart := by
  intro state
  unfold ensureStart
  split <;> simp

theorem sendDelta_silent (delta : ChatDelta) : Silent (sendDelta delta) :=
  ensureStart_silent.andThen fun state => ⟨by simp, rfl⟩

theorem textDelta_silent (delta : String) : Silent (textDelta delta) := by
  intro state
  unfold textDelta
  split
  · exact ⟨rfl, rfl⟩
  · exact sendDelta_silent _ _

theorem reasoningDelta_silent (delta : String) : Silent (reasoningDelta delta) := by
  intro state
  unfold reasoningDelta
  split
  · exact ⟨rfl, rfl⟩
  · exact sendDelta_silent _ _

/-! The bookkeeping of tools leaves the flag. -/

variable (state : State) (place : Nat)

theorem takeByOutputIndex_finalized (index : Int) :
    (takeByOutputIndex place index state).finalized = state.finalized := by
  unfold takeByOutputIndex
  split <;> rfl

theorem takeByItemID_finalized (itemID : String) : (takeByItemID place itemID state).finalized = state.finalized := by
  unfold takeByItemID
  split <;> rfl

variable (key : ToolKey)

theorem noteOutputIndex_finalized (event : ResponsesStreamResponse) :
    (noteOutputIndex place key event state).finalized = state.finalized := by
  unfold noteOutputIndex
  split
  · rfl
  · exact takeByOutputIndex_finalized _ _ _

theorem noteItemID_finalized (event : ResponsesStreamResponse) :
    (noteItemID place key event state).finalized = state.finalized := by
  simp only [noteItemID]
  split
  · rfl
  · exact takeByItemID_finalized _ _ _

variable (item : ResponsesOutput)

theorem noteCallID_finalized : (noteCallID place key item state).finalized = state.finalized := by
  simp only [noteCallID]
  split <;> rfl

theorem noteName_finalized : (noteName place item state).finalized = state.finalized := by
  simp only [noteName]
  split <;> rfl

theorem locateTool_finalized (event : ResponsesStreamResponse) :
    (locateTool key item event state).2.finalized = state.finalized := by
  unfold locateTool
  split
  · rfl
  · split <;> rfl

theorem ensureToolForEvent_finalized (event : ResponsesStreamResponse) :
    (ensureToolForEvent item event state).2.finalized = state.finalized := by
  unfold ensureToolForEvent
  split
  · rfl
  · simp [noteName_finalized, noteCallID_finalized, noteItemID_finalized, noteOutputIndex_finalized, locateTool_finalized]

variable (event : ResponsesStreamResponse)

theorem ensureFallbackToolForEvent_finalized :
    (ensureFallbackToolForEvent event state).2.finalized = state.finalized := by
  unfold ensureFallbackToolForEvent
  split
  · rfl
  · simp only [noteItemID_finalized, noteOutputIndex_finalized]
    split <;> rfl

theorem holdArguments_finalized : (holdArguments event state).finalized = state.finalized := by
  unfold holdArguments
  split
  · rfl
  · dsimp only
    split <;> rfl

theorem toolDelta_silent (explicitDelta : String) : Silent (toolDelta place explicitDelta) := by
  intro state
  unfold toolDelta
  split
  · exact ⟨rfl, rfl⟩
  split
  · exact ⟨rfl, rfl⟩
  · obtain ⟨silent, kept⟩ := ensureStart_silent state
    exact ⟨by simp [sendTool, silent], kept⟩

theorem toolItem_silent (event : ResponsesStreamResponse) : Silent (toolItem item event) := by
  intro state
  have kept := ensureToolForEvent_finalized state item event
  unfold toolItem
  split
  next ensured =>
    rw [ensured] at kept
    exact ⟨rfl, kept⟩
  next ensured =>
    rw [ensured] at kept
    refine ⟨(toolDelta_silent _ _ _).1, (toolDelta_silent _ _ _).2.trans ?_⟩
    split <;> exact kept

theorem toolArgumentsDelta_silent : Silent (toolArgumentsDelta event) := by
  intro state
  unfold toolArgumentsDelta
  split
  · exact ⟨rfl, rfl⟩
  · split
    · exact ⟨rfl, holdArguments_finalized state event⟩
    · exact toolDelta_silent _ _ _

theorem flushPendingTool_silent : Silent (flushPendingTool event) := by
  intro state
  have kept := ensureFallbackToolForEvent_finalized state event
  unfold flushPendingTool
  split
  · exact toolDelta_silent _ _ state
  split
  next ensured =>
    rw [ensured] at kept
    exact ⟨rfl, kept⟩
  next ensured =>
    rw [ensured] at kept
    exact ⟨(toolDelta_silent _ _ _).1, (toolDelta_silent _ _ _).2.trans kept⟩

theorem flushKey_silent : Silent (flushKey key) := by
  intro state
  refine ⟨(toolDelta_silent _ _ _).1, (toolDelta_silent _ _ _).2.trans ?_⟩
  cases key <;> simp only [takeByOutputIndex_finalized, takeByItemID_finalized] <;> split <;> rfl

theorem terminalOutputChunk_silent (output : ResponsesOutput) : Silent (terminalOutputChunk output) := by
  intro state
  unfold terminalOutputChunk
  split
  · exact textDelta_silent _ state
  split
  · exact reasoningDelta_silent _ state
  · split
    · exact toolItem_silent _ _ state
    · exact ⟨rfl, rfl⟩

variable (response : Option OpenAIResponsesResponse)

theorem finishReason_ne_empty (state : State) : finishReason response state ≠ "" := by
  unfold finishReason responsesFinishReasonFromStatus
  split
  next _ found =>
    split at found
    · cases found
    · split at found
      · cases found
      · split at found <;> cases found <;> decide
  next => split <;> decide

theorem finalize_spends (state : State) :
    (finalize response state).1.countP isFinished = terminalsLeft state.finalized ∧
      (finalize response state).2.finalized = true ∧ (state.finalized = true → (finalize response state).1 = []) := by
  unfold finalize
  cases finalized : state.finalized with
  | true => simp [terminalsLeft, finalized]
  | false =>
    have flush : Silent flushAllPendingTools := fun state => each flushKey_silent state.pendingKeys state
    have usage : Silent usageChunk := by
      intro state
      unfold usageChunk
      split <;> simp [isFinished]
    have finish : ∀ state, (finishChunk response state).1.countP isFinished = 1 := by
      simp [finishChunk, finishReason_ne_empty]
    obtain ⟨silent, kept⟩ := flush.andThen ensureStart_silent { state with finalized := true }
    rw [if_neg Bool.false_ne_true, countP_andThen, countP_andThen, silent, finish, (usage _).1]
    exact ⟨rfl, (usage _).2.trans kept, nofun⟩

theorem terminate_spends (state : State) :
    (terminate response state).1.countP isFinished + terminalsLeft (terminate response state).2.finalized =
      terminalsLeft state.finalized := by
  have output : Silent (terminalOutputChunks response) := each terminalOutputChunk_silent _
  have final : Spends isFinished (fun state => terminalsLeft state.finalized) (finalize response) := by
    intro state
    obtain ⟨count, finalized, _⟩ := finalize_spends response state
    rw [count]
    exact congrArg (fun flag => terminalsLeft state.finalized + terminalsLeft flag) finalized
  have same : (applyResponseMetadata response state).finalized = state.finalized := by cases response <;> rfl
  exact ((output.spends terminalsLeft).andThen final (applyResponseMetadata response state)).trans (congrArg terminalsLeft same)

end State

theorem event_spends {event : ResponsesStreamResponse} {state : State} {converted : List ChatChunk × State}
    (success : responsesStreamEventToChatChunks event state = some converted) :
    converted.1.countP isFinished + terminalsLeft converted.2.finalized = terminalsLeft state.finalized := by
  unfold responsesStreamEventToChatChunks at success
  cases kind : event.type <;> simp only [kind, Option.some.injEq, reduceCtorEq] at success
  case created =>
    subst success
    refine (State.ensureStart_silent.spends terminalsLeft _).trans ?_
    cases event.response <;> rfl
  case reasoningSummaryDelta | reasoningTextDelta =>
    subst success
    exact (State.reasoningDelta_silent _).spends terminalsLeft state
  case reasoningSummaryDone | reasoningTextDone | outputTextDone | other =>
    subst success
    exact Nat.zero_add _
  case outputTextDelta =>
    subst success
    exact (State.textDelta_silent _).spends terminalsLeft state
  case outputItemAdded | outputItemDone =>
    split at success
    · cases success
      exact Nat.zero_add _
    · split at success <;> cases success
      · exact (State.toolItem_silent _ _).spends terminalsLeft state
      · exact Nat.zero_add _
  case functionArgsDelta | customToolInputDelta =>
    subst success
    exact (State.toolArgumentsDelta_silent _).spends terminalsLeft state
  case functionArgsDone | customToolInputDone =>
    subst success
    exact (State.flushPendingTool_silent _).spends terminalsLeft state
  case completed | done | incomplete =>
    subst success
    exact State.terminate_spends _ _

end ResponsesToChat

def ClaudeResponse.isTerminal (response : ClaudeResponse) : Bool := response.type = .messageStop

abbrev ClaudeSilent (step : Emitter ClaudeConvertInfo ClaudeResponse) : Prop :=
  Quiet isTerminal ClaudeConvertInfo.done step

attribute [local simp] isTerminal

theorem countP_stopOpenBlocks (state : ClaudeConvertInfo) : (stopOpenBlocks state).countP isTerminal = 0 := by
  unfold stopOpenBlocks
  split <;> simp [countP_eq_zero, generateStopBlock]

theorem stopOpenBlocksAndAdvance_silent : ClaudeSilent stopOpenBlocksAndAdvance := by
  intro state
  unfold stopOpenBlocksAndAdvance
  split <;> simp [countP_stopOpenBlocks]

variable (delta : ChatDelta)

theorem content_silent : ClaudeSilent (convertContent delta) ∧ ClaudeSilent (startWithContent delta) := by
  constructor
  all_goals
    intro state
    obtain ⟨silent, kept⟩ := stopOpenBlocksAndAdvance_silent state
    simp only [convertContent, startWithContent]
    split
    · split <;> simp [silent, kept, thinkingBlockStart, thinkingDelta]
    · split
      · split <;> simp [silent, kept, textBlockStart, textDelta]
      · exact ⟨rfl, rfl⟩

theorem countP_toolCallLoop (base : Int) (position : Nat) (maxOffset : Int) (toolCalls : List ToolCallResponse) :
    (toolCallLoop base position maxOffset toolCalls).1.countP isTerminal = 0 := by
  induction toolCalls generalizing position maxOffset with
  | nil => rfl
  | cons _ _ ih =>
    simp only [toolCallLoop, countP_append, ih, toolCallResponses]
    split <;> split <;> rfl

theorem convertToolCalls_silent (toolCalls : List ToolCallResponse) : ClaudeSilent (convertToolCalls toolCalls) := by
  intro state
  obtain ⟨silent, kept⟩ := stopOpenBlocksAndAdvance_silent state
  simp only [convertToolCalls, countP_append, countP_toolCallLoop]
  split <;> simp [silent, kept]

theorem convertDelta_silent : ClaudeSilent (convertDelta delta) := by
  intro state
  unfold convertDelta
  split
  · exact (content_silent delta).1 state
  · exact convertToolCalls_silent delta.toolCalls state

theorem startWithDelta_silent : ClaudeSilent (startWithDelta delta) := by
  have tool : ClaudeSilent (startWithToolCall delta.toolCalls) := by
    intro state
    unfold startWithToolCall
    split
    · exact ⟨rfl, rfl⟩
    · refine ⟨?_, rfl⟩
      split <;> rfl
  exact tool.andThen (content_silent delta).2

theorem countP_ending (state : ClaudeConvertInfo) (usage : Option Usage) (stopReason : String) :
    (stopOpenBlocks state ++ [messageDelta usage stopReason, messageStop]).countP isTerminal = 1 := by
  rw [countP_append, countP_stopOpenBlocks]
  rfl

variable (chunk : ChatChunk) {state : ClaudeConvertInfo}

theorem startWithFinish_spends (finishReason : String) (unfinished : state.done = false) :
    (startWithFinish chunk finishReason state).1.countP isTerminal +
      terminalsLeft (startWithFinish chunk finishReason state).2.done = 1 := by
  unfold startWithFinish
  split
  · simp [terminalsLeft, unfinished]
  split
  · simp [terminalsLeft, unfinished]
  · rw [countP_ending]
    rfl

theorem firstChunk_spends (estimatePromptTokens : Int) (unfinished : state.done = false) :
    (firstChunk chunk estimatePromptTokens state).1.countP isTerminal +
      terminalsLeft (firstChunk chunk estimatePromptTokens state).2.done = 1 := by
  have start : ¬ (messageStart chunk estimatePromptTokens).isTerminal = true := Bool.false_ne_true
  simp only [firstChunk]
  split
  · rw [countP_cons_of_neg start, countP_nil, unfinished]
    rfl
  next choice _ _ =>
    obtain ⟨silent, kept⟩ := startWithDelta_silent choice.delta state
    rw [countP_cons_of_neg start, countP_append, silent, Nat.zero_add]
    exact startWithFinish_spends chunk choice.finish (kept.trans unfinished)

theorem usageOnlyChunk_spends (unfinished : state.done = false) :
    (usageOnlyChunk chunk state).1.countP isTerminal + terminalsLeft (usageOnlyChunk chunk state).2.done = 1 := by
  unfold usageOnlyChunk
  split
  · simp [terminalsLeft, unfinished]
  · rw [countP_ending]
    rfl

theorem choiceChunk_spends (choice : ChatChoice) (unfinished : state.done = false) :
    (choiceChunk chunk choice state).1.countP isTerminal +
      terminalsLeft (choiceChunk chunk choice state).2.done = 1 := by
  simp only [choiceChunk]
  split
  · obtain ⟨silent, kept⟩ := convertDelta_silent choice.delta state
    rw [silent, kept, unfinished]
    rfl
  split
  · simp [terminalsLeft, unfinished]
  · obtain ⟨silent, _⟩ := convertDelta_silent choice.delta { state with finishReason := choice.finish }
    rw [append_assoc, countP_append, silent, countP_ending]
    rfl

theorem streamResponse_spends (info : Meta) : (streamResponseOpenAI2Claude chunk info).1.countP isTerminal +
      terminalsLeft (streamResponseOpenAI2Claude chunk info).2.claudeConvertInfo.done =
        terminalsLeft info.claudeConvertInfo.done := by
  unfold streamResponseOpenAI2Claude
  cases finished : info.claudeConvertInfo.done with
  | true => simp [finished]
  | false =>
    rw [if_neg Bool.false_ne_true]
    split
    · exact firstChunk_spends chunk info.estimatePromptTokens finished
    unfold laterChunk
    split
    · exact usageOnlyChunk_spends chunk finished
    · exact choiceChunk_spends chunk _ finished

theorem finalizeStreamResponse_spends (info : Meta) : (finalizeStreamResponseOpenAI2Claude info).1.countP isTerminal =
        terminalsLeft info.claudeConvertInfo.done ∧
      (finalizeStreamResponseOpenAI2Claude info).2.claudeConvertInfo.done = true ∧
      (info.claudeConvertInfo.done = true → (finalizeStreamResponseOpenAI2Claude info).1 = []) := by
  unfold finalizeStreamResponseOpenAI2Claude
  cases finished : info.claudeConvertInfo.done with
  | true => simp [terminalsLeft, finished]
  | false =>
    simp only [finished, Bool.false_eq_true, if_false, countP_ending]
    exact ⟨rfl, trivial, nofun⟩

end FlowAPI.Convert
