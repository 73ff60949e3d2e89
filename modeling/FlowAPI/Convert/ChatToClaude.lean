import FlowAPI.Convert.Formats

/-! The conversion of a stream of chat chunks into Claude stream responses.

Claude numbers the content blocks of a message and brackets each one by a start and a stop. The converter
keeps, between two chunks, only the type of the blocks that are open and their indices: one block for text and
for thinking, the blocks `toolCallBaseIndex` to `toolCallBaseIndex + toolCallMaxIndexOffset` for tools. -/

set_option autoImplicit false
namespace FlowAPI.Convert

def openAIFinishReasonToClaudeStopReason (finishReason : String) : String :=
  match Golang.toLower finishReason with
  | "stop" => "end_turn"
  | "stop_sequence" => "stop_sequence"
  | "length" | "max_tokens" => "max_tokens"
  | "content_filter" => "refusal"
  | "tool_calls" => "tool_use"
  | _ => finishReason

def messageStart (chunk : ChatChunk) (estimatePromptTokens : Int) : ClaudeResponse :=
  { type := .messageStart
    message := some
      { id := chunk.id, model := chunk.model, type := .message, role := "assistant"
        usage := some { inputTokens := estimatePromptTokens } } }

variable (index : Int)

def textBlockStart : ClaudeResponse :=
  { type := .contentBlockStart, index := some index, contentBlock := some { type := .text, text := some "" } }
def thinkingBlockStart : ClaudeResponse :=
  { type := .contentBlockStart, index := some index, contentBlock := some { type := .thinking, thinking := some "" } }

def toolUseBlockStart (toolCall : ToolCallResponse) : ClaudeResponse :=
  { type := .contentBlockStart, index := some index
    contentBlock := some { id := toolCall.id, type := .toolUse, name := toolCall.function.name } }

def textDelta (index : Int) (text : String) : ClaudeResponse :=
  { type := .contentBlockDelta, index := some index, delta := some { type := .textDelta, text := some text } }

def thinkingDelta (index : Int) (thinking : String) : ClaudeResponse :=
  { type := .contentBlockDelta, index := some index
    delta := some { type := .thinkingDelta, thinking := some thinking } }

def inputJsonDelta (index : Int) (arguments : String) : ClaudeResponse :=
  { type := .contentBlockDelta, index := some index
    delta := some { type := .inputJsonDelta, partialJson := some arguments } }

def generateStopBlock : ClaudeResponse := { type := .contentBlockStop, index := some index }

def messageDelta (usage : Option Usage) (stopReason : String) : ClaudeResponse :=
  { type := .messageDelta, usage := buildClaudeUsageFromOpenAIUsage usage
    delta := some { stopReason := some stopReason } }

def messageStop : ClaudeResponse := { type := .messageStop }

def stopOpenBlocks (state : ClaudeConvertInfo) : List ClaudeResponse :=
  match state.lastMessagesType with
  | .text | .thinking => [generateStopBlock state.index]
  | .tools =>
    (List.range (state.toolCallMaxIndexOffset + 1).toNat).map fun offset : Nat =>
      generateStopBlock (state.toolCallBaseIndex + offset)
  | .none => []

def stopOpenBlocksAndAdvance (state : ClaudeConvertInfo) : List ClaudeResponse × ClaudeConvertInfo :=
  match state.lastMessagesType with
  | .none => ([], state)
  | .tools =>
    (stopOpenBlocks state,
      { state with
        index := state.toolCallBaseIndex + state.toolCallMaxIndexOffset + 1, toolCallBaseIndex := 0
        toolCallMaxIndexOffset := 0, lastMessagesType := .none })
  | .text | .thinking => (stopOpenBlocks state, { state with index := state.index + 1, lastMessagesType := .none })

def startWithToolCall (toolCalls : List ToolCallResponse) (state : ClaudeConvertInfo) :
    List ClaudeResponse × ClaudeConvertInfo :=
  match toolCalls with
  | [] => ([], state)
  | toolCall :: _ =>
    (toolUseBlockStart 0 toolCall ::
        (if toolCall.function.arguments ≠ "" then [inputJsonDelta 0 toolCall.function.arguments] else []),
      { state with lastMessagesType := .tools, toolCallBaseIndex := 0, toolCallMaxIndexOffset := 0 })

variable (delta : ChatDelta)

def startWithContent (state : ClaudeConvertInfo) : List ClaudeResponse × ClaudeConvertInfo :=
  if delta.getReasoningContent ≠ "" then
    let stopped := if state.lastMessagesType = .thinking then ([], state) else stopOpenBlocksAndAdvance state
    (stopped.1 ++
        [thinkingBlockStart stopped.2.index, thinkingDelta stopped.2.index delta.getReasoningContent],
      { stopped.2 with lastMessagesType := .thinking })
  else if delta.getContentString ≠ "" then
    let stopped := if state.lastMessagesType = .text then ([], state) else stopOpenBlocksAndAdvance state
    (stopped.1 ++ [textBlockStart stopped.2.index, textDelta stopped.2.index delta.getContentString],
      { stopped.2 with lastMessagesType := .text })
  else ([], state)

def startWithDelta (state : ClaudeConvertInfo) : List ClaudeResponse × ClaudeConvertInfo :=
  let tool := startWithToolCall delta.toolCalls state
  let content := startWithContent delta tool.2
  (tool.1 ++ content.1, content.2)

variable (chunk : ChatChunk)

/-- A first chunk can carry a finish reason before usage; the terminal responses wait for the usage. -/
def startWithFinish (finishReason : String) (state : ClaudeConvertInfo) :
    List ClaudeResponse × ClaudeConvertInfo :=
  if finishReason = "" then ([], state)
  else
    match chunk.usage.orElse fun _ => state.usage with
    | none => ([], { state with finishReason })
    | some usage =>
      (stopOpenBlocks state ++
          [messageDelta (some usage) (openAIFinishReasonToClaudeStopReason finishReason), messageStop],
        { state with finishReason, done := true })

def firstChunk (estimatePromptTokens : Int) (state : ClaudeConvertInfo) :
    List ClaudeResponse × ClaudeConvertInfo :=
  match chunk.choices with
  | [] => ([messageStart chunk estimatePromptTokens], state)
  | choice :: _ =>
    let started := startWithDelta choice.delta state
    let finish := startWithFinish chunk choice.finish started.2
    (messageStart chunk estimatePromptTokens :: (started.1 ++ finish.1), finish.2)

variable (state : ClaudeConvertInfo)

/-- Some upstreams end with a chunk that carries only usage. -/
def usageOnlyChunk : List ClaudeResponse × ClaudeConvertInfo :=
  match chunk.usage.orElse fun _ => state.usage with
  | none => ([], state)
  | some usage =>
    let stopReason := openAIFinishReasonToClaudeStopReason state.finishReason
    (stopOpenBlocks state ++
        [messageDelta (some usage) (if stopReason = "" then "end_turn" else stopReason), messageStop],
      { state with done := true })

/-- The place of a tool fragment among the tools of its run: its index, or its position in the chunk. -/
def toolOffset (position : Nat) (toolCall : ToolCallResponse) : Int := toolCall.index.getD position

def toolCallResponses (blockIndex : Int) (toolCall : ToolCallResponse) : List ClaudeResponse :=
  (if toolCall.function.name ≠ "" then [toolUseBlockStart blockIndex toolCall] else []) ++
    (if toolCall.function.arguments ≠ "" then [inputJsonDelta blockIndex toolCall.function.arguments] else [])

def toolCallLoop (base : Int) : Nat → Int → List ToolCallResponse → List ClaudeResponse × Int
  | _, maxOffset, [] => ([], maxOffset)
  | position, maxOffset, toolCall :: rest =>
    let offset := toolOffset position toolCall
    let looped := toolCallLoop base (position + 1) (max maxOffset offset) rest
    (toolCallResponses (base + offset) toolCall ++ looped.1, looped.2)

def convertToolCalls (toolCalls : List ToolCallResponse) (state : ClaudeConvertInfo) :
    List ClaudeResponse × ClaudeConvertInfo :=
  let started :=
    if state.lastMessagesType = .tools then ([], state)
    else
      let stopped := stopOpenBlocksAndAdvance state
      (stopped.1, { stopped.2 with toolCallBaseIndex := stopped.2.index, toolCallMaxIndexOffset := 0 })
  let base := started.2.toolCallBaseIndex
  let looped := toolCallLoop base 0 started.2.toolCallMaxIndexOffset toolCalls
  (started.1 ++ looped.1,
    { started.2 with
      lastMessagesType := .tools, toolCallMaxIndexOffset := looped.2, index := base + looped.2 })

def convertContent : List ClaudeResponse × ClaudeConvertInfo :=
  if delta.getReasoningContent ≠ "" then
    let started :=
      if state.lastMessagesType = .thinking then ([], state)
      else
        let stopped := stopOpenBlocksAndAdvance state
        (stopped.1 ++ [thinkingBlockStart stopped.2.index], stopped.2)
    (started.1 ++ [thinkingDelta started.2.index delta.getReasoningContent],
      { started.2 with lastMessagesType := .thinking })
  else if delta.getContentString ≠ "" then
    let started :=
      if state.lastMessagesType = .text then ([], state)
      else
        let stopped := stopOpenBlocksAndAdvance state
        (stopped.1 ++ [textBlockStart stopped.2.index], stopped.2)
    (started.1 ++ [textDelta started.2.index delta.getContentString],
      { started.2 with lastMessagesType := .text })
  else ([], state)

def convertDelta : List ClaudeResponse × ClaudeConvertInfo :=
  if delta.toolCalls = [] then convertContent delta state else convertToolCalls delta.toolCalls state

def choiceChunk (choice : ChatChoice) (state : ClaudeConvertInfo) :
    List ClaudeResponse × ClaudeConvertInfo :=
  if choice.finish = "" then convertDelta choice.delta state
  else
    match chunk.usage with
    -- The usage comes in a later chunk; the whole chunk is left until then.
    | none => ([], { state with finishReason := choice.finish })
    | some usage =>
      let converted := convertDelta choice.delta { state with finishReason := choice.finish }
      (converted.1 ++ stopOpenBlocks converted.2 ++
          [messageDelta (some usage) (openAIFinishReasonToClaudeStopReason choice.finish), messageStop],
        { converted.2 with done := true })

def laterChunk : List ClaudeResponse × ClaudeConvertInfo :=
  match chunk.choices with
  | [] => usageOnlyChunk chunk state
  | choice :: _ => choiceChunk chunk choice state

def streamResponseOpenAI2Claude (info : Meta) : List ClaudeResponse × Meta :=
  if info.claudeConvertInfo.done then ([], info)
  else
    let converted :=
      if info.sendResponseCount = 1 then firstChunk chunk info.estimatePromptTokens info.claudeConvertInfo
      else laterChunk chunk info.claudeConvertInfo
    (converted.1, { info with claudeConvertInfo := converted.2 })

def finalizeStreamResponseOpenAI2Claude (info : Meta) : List ClaudeResponse × Meta :=
  let state := info.claudeConvertInfo
  if state.done then ([], info)
  else
    let stopReason := openAIFinishReasonToClaudeStopReason state.finishReason
    (stopOpenBlocks state ++
        [messageDelta state.usage (if stopReason = "" then "end_turn" else stopReason), messageStop],
      { info with claudeConvertInfo := { state with done := true } })

def convertChunks : Meta → List ChatChunk → List ClaudeResponse × Meta
  | info, [] => ([], info)
  | info, chunk :: rest =>
    let converted := streamResponseOpenAI2Claude chunk info.incrSendResponseCount
    let following := convertChunks converted.2 rest
    (converted.1 ++ following.1, following.2)

def convertStream (info : Meta) (chunks : List ChatChunk) : List ClaudeResponse :=
  let converted := convertChunks info chunks
  converted.1 ++ (finalizeStreamResponseOpenAI2Claude converted.2).1

end FlowAPI.Convert
