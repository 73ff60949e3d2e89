import FlowAPI.Convert.Formats
import FlowAPI.Golang.Map
import FlowAPI.Semantics.Emission
import Mathlib.Data.List.Sort

/-! The conversion of a stream of chat chunks into Responses events.

The text, the reasoning and every tool of the stream are output items. An item is opened by its first delta and
gets the next output index. The items are closed together, by a finish reason or by the finalization, which then
sends the terminal event with the final response. -/

set_option autoImplicit false
namespace FlowAPI.Convert.ChatToResponses
open Golang Semantics Emitter

/-- `ChatToResponsesStreamEvent`. -/
structure Event where
  type : ResponsesEventType
  payload : ResponsesStreamResponse

/-- `chatToResponsesStreamTool`. -/
structure Tool where
  (chatIndex outputIndex : Int)
  (id name : String)
  arguments : String := ""
  done : Bool := false

/-- `chatToResponsesOutputRef`. -/
inductive OutputRef where
  | message | reasoning
  | tool (index : Int)

inductive Status where | completed | incomplete
deriving DecidableEq

def Status.text : Status → String
  | .completed => "completed"
  | .incomplete => "incomplete"

/-- `ChatToResponsesStreamState`. -/
structure State where
  (id model : String)
  created : Int
  usage : Usage := {}
  status : Status := .completed
  incompleteDetails : Option IncompleteDetails := none
  sentCreated : Bool := false
  textOutputIndex : Int := -1
  (textStarted textDone : Bool := false)
  reasoningIndex : Int := -1
  (reasoningStarted reasoningDone finalized : Bool := false)
  nextOutputIndex : Int := 0
  toolsByIndex : Map Int Tool := .empty
  outputOrder : List OutputRef := []
  (text reasoning : String := "")

def newChatToResponsesStreamState (id model : String) (now : Int) : State := { id, model, created := now }
def responsesStreamEvent (type : ResponsesEventType) (payload : ResponsesStreamResponse) : Event :=
  ⟨type, { payload with type }⟩

namespace State

variable (state : State)

def messageID : String := state.id ++ "_msg_0"
def reasoningID : String := state.id ++ "_reasoning_0"

def messageOutput (status : String) : ResponsesOutput :=
  { type := .message, id := state.messageID, status, role := "assistant"
    content := [{ type := .outputText, text := state.text }] }

def reasoningOutput (status : String) : ResponsesOutput :=
  { type := .reasoning, id := state.reasoningID, status
    content := [{ type := .summaryText, text := state.reasoning }] }

def toolOutput (tool : Tool) (status : String) : ResponsesOutput :=
  { type := .functionCall, id := tool.id, status, callId := tool.id, name := tool.name
    arguments := .text tool.arguments }

def outputStatus : String := state.status.text

def nextIndex (ref : OutputRef) : Int × State :=
  (state.nextOutputIndex,
    { state with nextOutputIndex := state.nextOutputIndex + 1, outputOrder := state.outputOrder ++ [ref] })

def sortedTools : List Tool := (state.toolsByIndex.keys.insertionSort (· ≤ ·)).filterMap state.toolsByIndex.get?

def startText : List Event × State :=
  if state.textStarted then ([], state)
  else
    let indexed := nextIndex { state with textStarted := true } .message
    ([responsesStreamEvent .outputItemAdded
        { type := .outputItemAdded, outputIndex := some indexed.1
          item := some { type := .message, id := state.messageID, status := "in_progress", role := "assistant" } }],
      { indexed.2 with textOutputIndex := indexed.1 })

def appendTextDelta (delta : String) (state : State) : List Event × State :=
  let started := startText state
  (started.1 ++ [responsesStreamEvent .outputTextDelta
        { type := .outputTextDelta, outputIndex := some started.2.textOutputIndex, contentIndex := some 0
          delta, itemID := started.2.messageID }],
    { started.2 with text := started.2.text ++ delta })

def startReasoning : List Event × State :=
  if state.reasoningStarted then ([], state)
  else
    let indexed := nextIndex { state with reasoningStarted := true } .reasoning
    ([responsesStreamEvent .outputItemAdded
        { type := .outputItemAdded, outputIndex := some indexed.1
          item := some { type := .reasoning, id := state.reasoningID, status := "in_progress" } }],
      { indexed.2 with reasoningIndex := indexed.1 })

def appendReasoningDelta (delta : String) (state : State) : List Event × State :=
  let started := startReasoning state
  (started.1 ++ [responsesStreamEvent .reasoningSummaryDelta
        { type := .reasoningSummaryDelta, outputIndex := some started.2.reasoningIndex, summaryIndex := some 0
          delta, itemID := started.2.reasoningID }],
    { started.2 with reasoning := started.2.reasoning ++ delta })

def ensureTool (toolCall : ToolCallResponse) (state : State) : Tool × List Event × State :=
  let chatIndex := toolCall.index.getD 0
  match state.toolsByIndex.get? chatIndex with
  | some tool => (tool, [], state)
  | none =>
    let indexed := nextIndex state (.tool chatIndex)
    let id := trimSpace toolCall.id
    let tool : Tool :=
      { chatIndex, outputIndex := indexed.1
        id := if id = "" then state.id ++ "_call_" ++ toString chatIndex else id
        name := trimSpace toolCall.function.name }
    (tool, [responsesStreamEvent .outputItemAdded
        { type := .outputItemAdded, outputIndex := some tool.outputIndex, itemID := tool.id
          item := some
            { type := .functionCall, id := tool.id, status := "in_progress", callId := tool.id, name := tool.name
              arguments := .text "" } }],
      { indexed.2 with toolsByIndex := indexed.2.toolsByIndex.set chatIndex tool })

def appendToolCallDelta (toolCall : ToolCallResponse) (state : State) : List Event × State :=
  let ensured := ensureTool toolCall state
  let id := trimSpace toolCall.id
  let name := trimSpace toolCall.function.name
  let arguments := toolCall.function.arguments
  let tool : Tool :=
    { ensured.1 with
      id := if id = "" then ensured.1.id else id
      name := if name = "" then ensured.1.name else name
      arguments := ensured.1.arguments ++ arguments }
  (ensured.2.1 ++ (if arguments = "" then [] else [responsesStreamEvent .functionArgsDelta
        { type := .functionArgsDelta, outputIndex := some tool.outputIndex, itemID := tool.id
          delta := arguments }]),
    { ensured.2.2 with toolsByIndex := ensured.2.2.toolsByIndex.set tool.chatIndex tool })

def textDoneEvents : List Event × State :=
  if state.textStarted && !state.textDone then
    ([responsesStreamEvent .outputTextDone
        { type := .outputTextDone, outputIndex := some state.textOutputIndex, contentIndex := some 0
          itemID := state.messageID },
      responsesStreamEvent .outputItemDone
        { type := .outputItemDone, outputIndex := some state.textOutputIndex
          item := some (state.messageOutput state.outputStatus) }],
      { state with textDone := true })
  else ([], state)

def reasoningDoneEvents : List Event × State :=
  if state.reasoningStarted && !state.reasoningDone then
    ([responsesStreamEvent .reasoningSummaryDone
        { type := .reasoningSummaryDone, outputIndex := some state.reasoningIndex, summaryIndex := some 0
          itemID := state.reasoningID, part := some { type := .summaryText, text := state.reasoning } },
      responsesStreamEvent .outputItemDone
        { type := .outputItemDone, outputIndex := some state.reasoningIndex
          item := some (state.reasoningOutput state.outputStatus) }],
      { state with reasoningDone := true })
  else ([], state)

def toolDoneEvents (tool : Tool) (state : State) : List Event × State :=
  if tool.done then ([], state)
  else
    ([responsesStreamEvent .functionArgsDone
        { type := .functionArgsDone, outputIndex := some tool.outputIndex, itemID := tool.id },
      responsesStreamEvent .outputItemDone
        { type := .outputItemDone, outputIndex := some tool.outputIndex
          item := some (toolOutput tool state.outputStatus) }],
      { state with toolsByIndex := state.toolsByIndex.set tool.chatIndex { tool with done := true } })

def toolsDoneEvents : List Event × State := each toolDoneEvents state.sortedTools state
def doneDeltaEvents : State → List Event × State :=
  (andThen textDoneEvents reasoningDoneEvents).andThen toolsDoneEvents

/-- The status a finish reason names is never empty, so every finish reason sets the status. -/
def applyFinishReason (finishReason : String) (state : State) : State :=
  let status := responsesStatusFromChatFinishReason finishReason
  { state with
    status := if status.1 = "incomplete" then .incomplete else .completed, incompleteDetails := status.2 }

def createdResponse : OpenAIResponsesResponse :=
  { id := state.id, createdAt := state.created, status := .text "in_progress", model := state.model }

def outputOf (status : String) : OutputRef → Option ResponsesOutput
  | .message => some (state.messageOutput status)
  | .reasoning => some (state.reasoningOutput status)
  | .tool index => (state.toolsByIndex.get? index).map (toolOutput · status)

def finalResponse : OpenAIResponsesResponse :=
  { id := state.id, createdAt := state.created, status := .text state.status.text
    incompleteDetails := state.incompleteDetails, model := state.model
    output := state.outputOrder.filterMap (state.outputOf state.outputStatus), usage := some state.usage }

def noteChunk (chunk : ChatChunk) (state : State) : State :=
  { state with
    id := if state.id = "" then chunk.id else state.id
    model := if state.model = "" then chunk.model else state.model
    created := if state.created = 0 then chunk.created else state.created
    usage := (chunk.usage.map usageFromChatUsage).getD state.usage }

def ensureCreated : List Event × State :=
  if state.sentCreated then ([], state)
  else
    ([responsesStreamEvent .created { type := .created, response := some state.createdResponse }],
      { state with sentCreated := true })

def convertReasoning (delta : ChatDelta) (state : State) : List Event × State :=
  if delta.getReasoningContent = "" then ([], state) else appendReasoningDelta delta.getReasoningContent state
def convertText (delta : ChatDelta) (state : State) : List Event × State :=
  if delta.getContentString = "" then ([], state) else appendTextDelta delta.getContentString state

def convertFinish (choice : ChatChoice) (state : State) : List Event × State :=
  if trimSpace choice.finish = "" then ([], state)
  else doneDeltaEvents (applyFinishReason choice.finish state)

def convertChoice (choice : ChatChoice) : State → List Event × State :=
  ((andThen (convertReasoning choice.delta) (convertText choice.delta)).andThen
    (each appendToolCallDelta choice.delta.toolCalls)).andThen (convertFinish choice)

end State

def chatCompletionsStreamChunkToResponsesEvents (chunk : ChatChunk) (state : State) : List Event × State :=
  andThen State.ensureCreated (each State.convertChoice chunk.choices) (state.noteChunk chunk)

def finalizeChatCompletionsStreamToResponses (state : State) : List Event × State :=
  if state.finalized then ([], state)
  else
    let closed := state.doneDeltaEvents
    let final : State := { closed.2 with finalized := true }
    let type : ResponsesEventType := if final.status = .incomplete then .incomplete else .completed
    (closed.1 ++ [responsesStreamEvent type { type, response := some final.finalResponse }], final)

end FlowAPI.Convert.ChatToResponses
