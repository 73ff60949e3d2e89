import FlowAPI.Convert.Formats

/-! The conversions of Claude and Gemini stream responses into chat chunks. Only Gemini's keeps a state. -/

set_option autoImplicit false
namespace FlowAPI.Convert

def claudeStopReasonToOpenAIFinishReason (stopReason : String) : String :=
  match Golang.toLower stopReason with
  | "stop_sequence" | "end_turn" => "stop"
  | "max_tokens" => "length"
  | "tool_use" => "tool_calls"
  | "refusal" => "content_filter"
  | _ => stopReason

namespace ClaudeToChat

/-- What became of a response: a chunk, nothing, or a panic on a delta that lacks its JSON. -/
inductive Outcome where
  | chunk (choice : ChatChoice)
  | skipped | panic

def blockStart (index : Int) (block : ClaudeMediaMessage) : ChatChoice :=
  if block.type = .toolUse then
    { delta := { toolCalls := [{ index := some index, id := block.id, function := { name := block.name } }] } }
  else if block.type = .text then { delta := { content := block.text } }
  else {}

def blockDelta (index : Int) (delta : ClaudeMediaMessage) : Outcome :=
  match delta.type with
  | .inputJsonDelta =>
    match delta.partialJson with
    | none => .panic
    | some arguments => .chunk { delta := { toolCalls := [{ index := some index, function := { arguments } }] } }
  | .signatureDelta => .chunk { delta := { content := delta.text, reasoningContent := some "\n" } }
  | .thinkingDelta => .chunk { delta := { content := delta.text, reasoningContent := delta.thinking } }
  | _ => .chunk { delta := { content := delta.text } }

def stopReasonChoice (delta : Option ClaudeMediaMessage) : ChatChoice :=
  match (delta.bind (·.stopReason)).map claudeStopReasonToOpenAIFinishReason with
  | some reason => if reason = "null" then {} else { finishReason := some reason }
  | none => {}

def choiceOf (response : ClaudeResponse) : Outcome :=
  let index := response.index.getD 0
  match response.type with
  | .messageStart => .chunk { delta := { role := "assistant", content := some "" } }
  | .contentBlockStart =>
    match response.contentBlock with
    | some block => .chunk (blockStart index block)
    | none => .skipped
  | .contentBlockDelta =>
    match response.delta with
    | some delta => blockDelta index delta
    | none => .chunk {}
  | .messageDelta => .chunk (stopReasonChoice response.delta)
  | .message | .contentBlockStop | .messageStop | .other _ => .skipped

def header (response : ClaudeResponse) : ChatChunk :=
  match response.type, response.message with
  | .messageStart, some message => { id := message.id, model := message.model }
  | _, _ => { model := response.model }

end ClaudeToChat

/-- The chunk of a response, `none` where there is none. The outer `none` is a panic. -/
def streamResponseClaude2OpenAI (response : ClaudeResponse) : Option (Option ChatChunk) :=
  match ClaudeToChat.choiceOf response with
  | .chunk choice => some (some { ClaudeToChat.header response with choices := [choice] })
  | .skipped => some none
  | .panic => none

def usageFromClaudeResponse (response : ClaudeResponse) : Option Usage :=
  (response.usage.orElse fun _ => response.message.bind (·.usage)).map usageFromClaudeAPIUsage

open Golang

structure GeminiInlineData where
  (mimeType data : String)

structure GeminiFunctionCall where
  functionName : String
  arguments : Option String

structure GeminiExecutableCode where
  (language code : String)

structure GeminiPart where
  text : String := ""
  thought : Bool := false
  inlineData : Option GeminiInlineData := none
  functionCall : Option GeminiFunctionCall := none
  executableCode : Option GeminiExecutableCode := none
  /-- The output of a `CodeExecutionResult`. -/
  codeExecutionResult : Option String := none

structure GeminiChatCandidate where
  index : Int := 0
  parts : List GeminiPart := []
  finishReason : Option String := none

structure GeminiChatResponse where
  candidates : List GeminiChatCandidate := []
  usageMetadata : GeminiUsageMetadata := {}
  hasUsageMetadata : Bool := false

def GeminiChatResponse.getUsageMetadata (response : GeminiChatResponse) : Option GeminiUsageMetadata :=
  if response.hasUsageMetadata || hasGeminiUsageMetadataTokens response.usageMetadata.toGeminiCounts then
    some response.usageMetadata
  else none

namespace GeminiToChat

def geminiResponseToolCall (uuid : String) (call : GeminiFunctionCall) : Option ToolCallResponse :=
  call.arguments.map fun arguments => { id := "call_" ++ uuid, function := { name := call.functionName, arguments } }

def piece (part : GeminiPart) : Option String :=
  match part.inlineData with
  | some inlineData =>
    if startsWith inlineData.mimeType "image" then
      some ("![image](data:" ++ inlineData.mimeType ++ ";base64," ++ inlineData.data ++ ")")
    else none
  | none =>
    if part.functionCall.isSome then none
    else if part.thought then some part.text
    else
      match part.executableCode, part.codeExecutionResult with
      | some executable, _ => some ("```" ++ executable.language ++ "\n" ++ executable.code ++ "\n```\n")
      | none, some output => some ("```output\n" ++ output ++ "\n```\n")
      | none, none => if part.text = "\n" then none else some part.text

def isTool (part : GeminiPart) : Bool := part.inlineData.isNone && part.functionCall.isSome

def isThought (part : GeminiPart) : Bool := part.inlineData.isNone && part.functionCall.isNone && part.thought
def partToolCall (uuid : String) (part : GeminiPart) : Option ToolCallResponse :=
  if part.inlineData.isSome then none else part.functionCall.bind (geminiResponseToolCall uuid)

def toolCalls (uuid : Nat → String) : Nat → Nat → List GeminiPart → List ToolCallResponse
  | _, _, [] => []
  | place, index, part :: rest =>
    match partToolCall (uuid place) part with
    | some call => { call with index := some index } :: toolCalls uuid (place + 1) (index + 1) rest
    | none => toolCalls uuid (place + 1) index rest

def chatFinishReason : String → String
  | "STOP" => "stop"
  | "MAX_TOKENS" => "length"
  | _ => "content_filter"

def isStop (candidate : GeminiChatCandidate) : Bool := candidate.finishReason = some "STOP"

def candidateChoice (uuid : Nat → String) (candidate : GeminiChatCandidate) : ChatChoice :=
  let content := "\n".intercalate (candidate.parts.filterMap piece)
  let calls := toolCalls uuid 0 0 candidate.parts
  { index := candidate.index
    delta :=
      if candidate.parts.any isThought then { toolCalls := calls, reasoningContent := some content }
      else { toolCalls := calls, content := some content }
    finishReason :=
      if candidate.parts.any isTool then some "tool_calls"
      -- A stop is left to the terminal chunk.
      else if isStop candidate then none
      else candidate.finishReason.map chatFinishReason }

def candidateChoices (uuid : Nat → Nat → String) : Nat → List GeminiChatCandidate → List ChatChoice
  | _, [] => []
  | place, candidate :: rest => candidateChoice (uuid place) candidate :: candidateChoices uuid (place + 1) rest

def streamResponseGeminiChat2OpenAI (uuid : Nat → Nat → String) (response : GeminiChatResponse) : ChatChunk × Bool :=
  ({ choices := candidateChoices uuid 0 response.candidates }, response.candidates.any isStop)

/-- `GeminiToChatStreamState`. -/
structure State where
  id : String
  created : Int
  (sawToolCall finishEmitted : Bool := false)
  latestUsage : Option Usage := none

def newGeminiToChatStreamState (id : String) (created : Int) (uuid : String) (now : Int) : State :=
  { id := if trimSpace id = "" then "chatcmpl-" ++ uuid else trimSpace id
    created := if created = 0 then now else created }

def terminalChunk (model : String) (state : State) : ChatChunk × State :=
  ({ id := state.id, created := state.created, model
     choices := [{ finishReason := some (if state.sawToolCall then "tool_calls" else "stop") }]
     usage := state.latestUsage },
    { state with finishEmitted := true })

def hasNonStopFinish (response : GeminiChatResponse) : Bool :=
  response.candidates.any fun candidate =>
    candidate.finishReason.getD "" != "" && candidate.finishReason.getD "" != "STOP"

def clearToolFinish (choice : ChatChoice) : ChatChoice :=
  if choice.finishReason = some "tool_calls" then { choice with finishReason := none } else choice

def convertChunk (uuid : Nat → Nat → String) (response : GeminiChatResponse) (model : String) (usage : Option Usage)
    (state : State) : List ChatChunk × State :=
  let converted := streamResponseGeminiChat2OpenAI uuid response
  let chunk : ChatChunk := { converted.1 with id := state.id, created := state.created, model, usage }
  let cleared : ChatChunk :=
    if chunk.isToolCall && !hasNonStopFinish response then { chunk with choices := chunk.choices.map clearToolFinish }
    else chunk
  let noted : State :=
    { state with
      sawToolCall := state.sawToolCall || chunk.isToolCall
      latestUsage := usage.orElse fun _ => state.latestUsage
      finishEmitted := state.finishEmitted || cleared.choices.any (·.finish != "") }
  if converted.2 && !noted.finishEmitted then
    let terminal := terminalChunk model noted
    ([cleared, terminal.1], terminal.2)
  else ([cleared], noted)

def finalize (model : String) (state : State) : List ChatChunk × State :=
  if state.finishEmitted then ([], state)
  else
    let terminal := terminalChunk model state
    ([terminal.1], terminal.2)

end GeminiToChat

end FlowAPI.Convert
