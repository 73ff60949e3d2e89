import FlowAPI.Convert.Formats
import FlowAPI.Golang.Map
import FlowAPI.Semantics.Emission
import Mathlib.Data.List.Sort

/-! The conversion of a stream of Responses events into chat chunks.

An event names its tool by an output index, an item ID or a call ID, and the first event of a tool need not be the
one that adds it. The converter files the tools under keys made of these names; several keys can lead to one tool.
The tools live in a list here, and a key leads to a place in it. Deltas whose tool is unknown wait under their output
index or item ID. -/

set_option autoImplicit false
namespace FlowAPI.Convert.ResponsesToChat
open Golang Semantics Emitter

inductive ToolKey where
  | output (index : Int)
  | item (id : String)
  | call (id : String)
deriving DecidableEq

def ToolKey.text : ToolKey → String
  | .output index => "output:" ++ toString index
  | .item id => "item:" ++ id
  | .call id => "call:" ++ id

/-- `responsesStreamTool`. -/
structure Tool where
  key : ToolKey
  (callID itemID name arguments : String := "")
  index : Int
  (sent nameSent : Bool := false)
  argsSentAt : Nat := 0

structure State where
  id : String := ""
  model : String
  created : Int
  includeUsage : Bool
  usage : Usage := {}
  (sentStart finalized hasSentText sawToolCall hasSentReasoning needsReasoningSummaryBreak : Bool := false)
  nextToolIndex : Int := 0
  tools : List Tool := []
  toolByKey : Map ToolKey Nat := .empty
  outputIndexToKey : Map Int ToolKey := .empty
  (itemIDToKey callIDToKey : Map String ToolKey := .empty)
  pendingArgsByOutputIndex : Map Int String := .empty
  pendingArgsByItemID : Map String String := .empty
  usageText : String := ""

def newResponsesToChatStreamState (model : String) (includeUsage : Bool) (now : Int) : State :=
  { model, created := now, includeUsage }

/-- The text from a byte on. Bytes of a character that the cut divides are no text any more, and each is encoded as
the replacement character. -/
def fromByte : List Char → Nat → List Char
  | chars, 0 => chars
  | [], _ + 1 => []
  | char :: rest, bytes + 1 =>
    if char.utf8Size ≤ bytes + 1 then fromByte rest (bytes + 1 - char.utf8Size)
    else List.replicate (char.utf8Size - (bytes + 1)) '�' ++ rest

variable (event : ResponsesStreamResponse)

def responseStreamEventItemID : String :=
  match event.item with
  | some item => if trimSpace item.id = "" then trimSpace event.itemID else trimSpace item.id
  | none => trimSpace event.itemID

def fallbackToolKey (itemID callID : String) (outputIndex : Option Int) : Option ToolKey :=
  match outputIndex with
  | some index => some (.output index)
  | none =>
    if trimSpace itemID ≠ "" then some (.item (trimSpace itemID))
    else if trimSpace callID ≠ "" then some (.call (trimSpace callID))
    else none

def fallbackCallID : String :=
  if trimSpace event.itemID ≠ "" then trimSpace event.itemID
  else
    match event.outputIndex with
    | some index => "call_output_" ++ toString index
    | none => ""

def itemIDKey : Option ToolKey := if trimSpace event.itemID ≠ "" then some (.item (trimSpace event.itemID)) else none

def keyForEvent : Option ToolKey :=
  match event.outputIndex with
  | some index => some (.output index)
  | none =>
    match event.item with
    | some item =>
      if trimSpace item.id ≠ "" then some (.item (trimSpace item.id))
      else if trimSpace item.callId ≠ "" then some (.call (trimSpace item.callId))
      else itemIDKey event
    | none => itemIDKey event

namespace State

def makeChunk (state : State) (delta : ChatDelta) (finishReason : Option String) : ChatChunk :=
  { id := state.id, created := state.created, model := state.model, choices := [{ delta, finishReason }] }

def ensureStart (state : State) : List ChatChunk × State :=
  if state.sentStart then ([], state)
  else ([state.makeChunk { role := "assistant", content := some "" } none], { state with sentStart := true })

def sendDelta (delta : ChatDelta) : State → List ChatChunk × State :=
  andThen ensureStart fun state => ([state.makeChunk delta none], state)

def textDelta (delta : String) (state : State) : List ChatChunk × State :=
  if delta = "" then ([], state)
  else sendDelta { content := some delta } { state with usageText := state.usageText ++ delta, hasSentText := true }

def summaryBreak (delta : String) (state : State) : String :=
  if !state.needsReasoningSummaryBreak then delta
  else if startsWith delta "\n\n" then delta
  else if startsWith delta "\n" then "\n" ++ delta
  else "\n\n" ++ delta

def reasoningDelta (delta : String) (state : State) : List ChatChunk × State :=
  if delta = "" then ([], state)
  else
    let delta := summaryBreak delta state
    let sent := sendDelta { reasoningContent := some delta }
      { state with needsReasoningSummaryBreak := false, usageText := state.usageText ++ delta }
    (sent.1, { sent.2 with hasSentReasoning := true })

def modifyTool (state : State) (place : Nat) (change : Tool → Tool) : State :=
  { state with tools := state.tools.modify place change }

def addTool (state : State) (key : ToolKey) (callID : String) : Nat × State :=
  (state.tools.length,
    { state with
      tools := state.tools ++ [{ key, index := state.nextToolIndex, callID }]
      nextToolIndex := state.nextToolIndex + 1, toolByKey := state.toolByKey.set key state.tools.length })

variable (place : Nat)

def takeByOutputIndex (index : Int) (state : State) : State :=
  match state.pendingArgsByOutputIndex.get? index with
  | none => state
  | some pending =>
    { state.modifyTool place fun tool => { tool with arguments := tool.arguments ++ pending } with
      pendingArgsByOutputIndex := state.pendingArgsByOutputIndex.delete index }

def takeByItemID (itemID : String) (state : State) : State :=
  match state.pendingArgsByItemID.get? itemID with
  | none => state
  | some pending =>
    { state.modifyTool place fun tool => { tool with arguments := tool.arguments ++ pending } with
      pendingArgsByItemID := state.pendingArgsByItemID.delete itemID }

variable (key : ToolKey)

def noteOutputIndex (event : ResponsesStreamResponse) (state : State) : State :=
  match event.outputIndex with
  | none => state
  | some index => takeByOutputIndex place index { state with outputIndexToKey := state.outputIndexToKey.set index key }

def noteItemID (event : ResponsesStreamResponse) (state : State) : State :=
  let itemID := responseStreamEventItemID event
  if itemID = "" then state
  else
    takeByItemID place itemID
      { state.modifyTool place fun tool => { tool with itemID } with
        itemIDToKey := state.itemIDToKey.set itemID key }

variable (item : ResponsesOutput) (event : ResponsesStreamResponse)

def aliasOf (state : State) : Option Nat :=
  let byItemID :=
    if responseStreamEventItemID event = "" then none
    else (state.itemIDToKey.get? (responseStreamEventItemID event)).bind state.toolByKey.get?
  byItemID.orElse fun _ =>
    if trimSpace item.callId = "" then none
    else (state.callIDToKey.get? (trimSpace item.callId)).bind state.toolByKey.get?

def locateTool (item : ResponsesOutput) (event : ResponsesStreamResponse) (state : State) :
    Nat × State :=
  match state.toolByKey.get? key with
  | some place => (place, state)
  | none =>
    match aliasOf item event state with
    | some place => (place, { state with toolByKey := state.toolByKey.set key place })
    | none => addTool state key ""

def noteCallID (item : ResponsesOutput) (state : State) : State :=
  let callID := trimSpace item.callId
  if callID ≠ "" then
    { state.modifyTool place fun tool => { tool with callID } with
      callIDToKey := state.callIDToKey.set callID key }
  else
    state.modifyTool place fun tool => if tool.callID = "" then { tool with callID := trimSpace item.id } else tool

def noteName (state : State) : State :=
  let name := trimSpace item.name
  if name = "" then state else state.modifyTool place fun tool => { tool with name }

def ensureToolForEvent (state : State) :
    Option Nat × State :=
  match (keyForEvent event).orElse fun _ => fallbackToolKey item.id item.callId event.outputIndex with
  | none => (none, state)
  | some key =>
    let located := locateTool key item event state
    let indexed := noteOutputIndex located.1 key event located.2
    let identified := noteItemID located.1 key event indexed
    let called := noteCallID located.1 key item identified
    (some located.1, noteName located.1 item called)

variable (event : ResponsesStreamResponse) (state : State)

def findToolForEvent : Option Nat :=
  match event.outputIndex.bind state.outputIndexToKey.get? with
  | some key => state.toolByKey.get? key
  | none =>
    let itemID := trimSpace event.itemID
    match if itemID = "" then none else state.itemIDToKey.get? itemID with
    | some key => state.toolByKey.get? key
    | none => if event.item.isSome then (keyForEvent event).bind state.toolByKey.get? else none

def ensureFallbackToolForEvent : Option Nat × State :=
  match (event.outputIndex.map ToolKey.output).orElse fun _ => itemIDKey event with
  | none => (none, state)
  | some key =>
    let located :=
      match state.toolByKey.get? key with
      | some place => (place, state)
      | none => addTool state key (fallbackCallID event)
    (some located.1, noteItemID located.1 key event (noteOutputIndex located.1 key event located.2))

def argsDelta (tool : Tool) (explicitDelta : String) : String :=
  if explicitDelta = "" && tool.argsSentAt < tool.arguments.utf8ByteSize then
    String.ofList (fromByte tool.arguments.toList tool.argsSentAt)
  else explicitDelta

def argsDeltaSize (tool : Tool) (explicitDelta : String) : Nat :=
  if explicitDelta = "" then tool.arguments.utf8ByteSize - tool.argsSentAt else explicitDelta.utf8ByteSize

def sendTool (tool : Tool) (explicitDelta : String) (state : State) : List ChatChunk × State :=
  let delta := argsDelta tool explicitDelta
  let callID := trimSpace tool.callID
  let name := if tool.nameSent then "" else tool.name
  let started := ensureStart state
  let marked := started.2.modifyTool place fun tool =>
    { tool with
      nameSent := tool.nameSent || tool.name != "", sent := true
      argsSentAt := tool.argsSentAt + argsDeltaSize tool explicitDelta }
  let sent := { marked with usageText := marked.usageText ++ delta ++ name, sawToolCall := true }
  (started.1 ++
      [sent.makeChunk
        { toolCalls :=
            [{ index := some tool.index, id := if callID = "" then tool.key.text else callID
               function := { name, arguments := delta } }] } none],
    sent)

def toolDelta (explicitDelta : String) (state : State) : List ChatChunk × State :=
  match state.tools[place]? with
  | none => ([], state)
  | some tool =>
    if tool.sent && argsDelta tool explicitDelta = "" && (tool.name = "" || tool.nameSent) then ([], state)
    else sendTool place tool explicitDelta state

def toolItem : List ChatChunk × State :=
  match ensureToolForEvent item event state with
  | (none, state) => ([], state)
  | (some place, state) =>
    let arguments := item.argumentsString
    toolDelta place ""
      (if arguments = "" then state else state.modifyTool place fun tool => { tool with arguments })

def holdArguments : State :=
  match event.outputIndex with
  | some index =>
    { state with
      pendingArgsByOutputIndex := state.pendingArgsByOutputIndex.set index
        ((state.pendingArgsByOutputIndex.get? index).getD "" ++ event.delta) }
  | none =>
    let itemID := trimSpace event.itemID
    if itemID = "" then state
    else
      { state with
        pendingArgsByItemID := state.pendingArgsByItemID.set itemID
          ((state.pendingArgsByItemID.get? itemID).getD "" ++ event.delta) }

def toolArgumentsDelta : List ChatChunk × State :=
  if event.delta = "" then ([], state)
  else
    match findToolForEvent event state with
    | none => ([], holdArguments event state)
    | some place =>
      toolDelta place event.delta
        (state.modifyTool place fun tool => { tool with arguments := tool.arguments ++ event.delta })

def flushPendingTool : List ChatChunk × State :=
  match findToolForEvent event state with
  | some place => toolDelta place "" state
  | none =>
    match ensureFallbackToolForEvent event state with
    | (none, state) => ([], state)
    | (some place, state) => toolDelta place "" state

/-- The keys of the tools and of the arguments that still wait for one, in the order of their texts. -/
def pendingKeys : List ToolKey :=
  let filed := state.toolByKey.keys
  let byOutputIndex := (state.pendingArgsByOutputIndex.keys.map ToolKey.output).filter (· ∉ filed)
  let byItemID := (state.pendingArgsByItemID.keys.map ToolKey.item).filter (· ∉ filed)
  (filed ++ byOutputIndex ++ byItemID).insertionSort fun left right => left.text ≤ right.text

def pendingCallID : ToolKey → String
  | .output index => "call_output_" ++ toString index
  | .item id => id
  | .call id => "call:" ++ id

def flushKey : List ChatChunk × State :=
  let located :=
    match state.toolByKey.get? key with
    | some place => (place, state)
    | none => addTool state key (pendingCallID key)
  let supplied :=
    match key with
    | .output index => takeByOutputIndex located.1 index located.2
    | .item id => takeByItemID located.1 id located.2
    | .call _ => located.2
  toolDelta located.1 "" supplied

def flushAllPendingTools : List ChatChunk × State := each flushKey state.pendingKeys state

variable (response : Option OpenAIResponsesResponse)

def finishReason (state : State) : String :=
  match responsesFinishReasonFromStatus response with
  | some reason => reason
  | none => if state.sawToolCall then "tool_calls" else "stop"

def finishChunk (state : State) : List ChatChunk × State :=
  ([state.makeChunk {} (some (finishReason response state))], state)

def usageChunk (state : State) : List ChatChunk × State :=
  if state.includeUsage then
    ([{ id := state.id, created := state.created, model := state.model, usage := some state.usage }], state)
  else ([], state)

def finalize (state : State) : List ChatChunk × State :=
  if state.finalized then ([], state)
  else
    (((andThen flushAllPendingTools ensureStart).andThen (finishChunk response)).andThen usageChunk)
      { state with finalized := true }

def applyResponseMetadata (state : State) : State :=
  match response with
  | none => state
  | some response =>
    { state with
      id := if response.id ≠ "" && state.id = "" then response.id else state.id
      model := if response.model ≠ "" then response.model else state.model
      created := if response.createdAt ≠ 0 then response.createdAt else state.created
      usage := if response.usage.isSome then usageFromResponsesUsage response.usage else state.usage }

def contentText (counts : ResponsesOutputContent → Bool) (content : List ResponsesOutputContent) : String :=
  String.join ((content.filter counts).map (·.text))

def terminalOutputChunk (output : ResponsesOutput) (state : State) : List ChatChunk × State :=
  if output.type = .message && !state.hasSentText then
    textDelta (contentText (·.type = .outputText) output.content) state
  else if output.type = .reasoning && !state.hasSentReasoning then
    reasoningDelta (contentText (fun _ => true) output.content) state
  else if isResponsesToolOutputType output.type then toolItem output { type := .other "", item := some output } state
  else ([], state)

def terminalOutputChunks : State → List ChatChunk × State :=
  each terminalOutputChunk ((response.map (·.output)).getD [])
def terminate (state : State) : List ChatChunk × State :=
  andThen (terminalOutputChunks response) (finalize response) (applyResponseMetadata response state)

end State

def responsesStreamEventToChatChunks (state : State) :
    Option (List ChatChunk × State) :=
  match event.type with
  | .created => some (state.applyResponseMetadata event.response).ensureStart
  | .reasoningSummaryDelta | .reasoningTextDelta => some (state.reasoningDelta event.delta)
  | .reasoningSummaryDone | .reasoningTextDone =>
    some ([],
      { state with needsReasoningSummaryBreak := state.needsReasoningSummaryBreak || state.hasSentReasoning })
  | .outputTextDelta => some (state.textDelta event.delta)
  | .outputItemAdded | .outputItemDone =>
    match event.item with
    | none => some ([], state)
    | some item => if isResponsesToolOutputType item.type then some (state.toolItem item event) else some ([], state)
  | .functionArgsDelta | .customToolInputDelta => some (state.toolArgumentsDelta event)
  | .functionArgsDone | .customToolInputDone => some (state.flushPendingTool event)
  | .completed | .done => some (state.terminate event.response)
  | .incomplete => some (state.terminate (some (ensureIncompleteResponse event.response)))
  | .failed | .error => none
  | .outputTextDone | .other _ => some ([], state)

def finalizeResponsesToChatStream (state : State) : List ChatChunk × State := state.finalize none

end FlowAPI.Convert.ResponsesToChat
