import FlowAPI.Convert.ChatToClaude
import FlowAPI.Convert.ChatToResponses
import FlowAPI.Convert.ResponsesToChat
import FlowAPI.Convert.ToChat

/-! The registry of stream converters and the streams that are converted along its routes.

A route is one converter, or two with the chat format between them. Each converter of a route keeps its own state
between two chunks; the conversion to Claude keeps it in the context that the caller passes to every call. The
routes that end at Gemini are left out: their converter keeps no state and has no terminal event. -/

set_option autoImplicit false
namespace FlowAPI.Convert
open Golang ResponsesToChat ChatToResponses GeminiToChat

inductive RelayFormat where
  | openAI | claude | gemini | openAIResponses
  | other (name : String)
deriving DecidableEq

/-- A value on a route. A whole response is recognised by its format and tells a usage, but no stream converter
takes it. -/
inductive Response where
  | chat (chunk : ChatChunk)
  | responses (event : ResponsesStreamResponse)
  | responsesEvent (event : ChatToResponses.Event)
  | claude (response : ClaudeResponse)
  | gemini (response : GeminiChatResponse)
  | whole (format : RelayFormat) (usage : Option Usage)
  | absent | unsupported

open Response

inductive StepState where
  | stateless
  | chatToResponses (state : ChatToResponses.State)
  | responsesToChat (state : ResponsesToChat.State)
  | geminiToChat (state : GeminiToChat.State)

inductive Failure where
  | nilResponse | unsupportedResponse | unexpectedResponse | stateRequired
  | responsesStreamError (type : ResponsesEventType)
  | noStreamImplementation | missingStep | indirectStep | mismatchedStep | notRegistered | panic

/-- What converters draw from outside: UUIDs, by two numbers that tell apart the draws of one call, and the time. -/
structure Draws where
  uuid : Nat → Nat → String
  now : Int

structure ResponseStreamOptions where
  (id model : String := "")
  created : Int := 0
  includeUsage : Bool := false

/-- What a converter makes of a call: values and usage, and the context and its state after it. -/
structure Converted where
  values : List Response := []
  usage : Option Usage := none
  info : Option Meta
  state : StepState

variable (info : Option Meta)

def fallbackPromptTokens : Int := (info.map (·.estimatePromptTokens)).getD 0

def upstreamModelName (info : Option Meta) : String :=
  match info with
  | some info => if info.channelMetaAttached then info.upstreamModelName else ""
  | none => ""

def newOAIChatToOAIResponsesStreamState (uuid : String) (now : Int) (options : ResponseStreamOptions) : StepState :=
  let id := if trimSpace options.id = "" then "resp_" ++ uuid else trimSpace options.id
  let state := newChatToResponsesStreamState id (trimSpace options.model) now
  .chatToResponses (if options.created ≠ 0 then { state with created := options.created } else state)

def convertOAIChatStreamResponseToOAIResponses (_ : Draws) (info : Option Meta) (response : Response)
    (state : StepState) : Except Failure Converted :=
  match response with
  | .chat chunk =>
    match state with
    | .chatToResponses state =>
      let converted := chatCompletionsStreamChunkToResponsesEvents chunk state
      .ok
        { values := converted.1.map responsesEvent, usage := some converted.2.usage, info
          state := .chatToResponses converted.2 }
    | _ => .error .stateRequired
  | _ => .error .unexpectedResponse

variable (state : StepState)

def finalizeOAIChatStreamResponseToOAIResponses : Except Failure Converted :=
  match state with
  | .chatToResponses state =>
    let final := finalizeChatCompletionsStreamToResponses state
    .ok
      { values := final.1.map responsesEvent, usage := some final.2.usage, info
        state := .chatToResponses final.2 }
  | _ => .error .stateRequired

def newOAIResponsesToOAIChatStreamState (_ : String) (now : Int) (options : ResponseStreamOptions) : StepState :=
  let state := newResponsesToChatStreamState (trimSpace options.model) options.includeUsage now
  let identified := { state with id := trimSpace options.id }
  .responsesToChat (if options.created ≠ 0 then { identified with created := options.created } else identified)

def convertOAIResponsesStreamResponseToOAIChat (_ : Draws) (info : Option Meta) (response : Response)
    (state : StepState) : Except Failure Converted :=
  match response with
  | .responses event =>
    match state with
    | .responsesToChat state =>
      match responsesStreamEventToChatChunks event state with
      | some converted =>
        .ok
          { values := converted.1.map chat, usage := some converted.2.usage, info
            state := .responsesToChat converted.2 }
      | none => .error (.responsesStreamError event.type)
    | _ => .error .stateRequired
  | _ => .error .unexpectedResponse

def finalizeOAIResponsesStreamResponseToOAIChat : Except Failure Converted :=
  match state with
  | .responsesToChat state =>
    let final := finalizeResponsesToChatStream state
    .ok
      { values := final.1.map chat, usage := some final.2.usage, info, state := .responsesToChat final.2 }
  | _ => .error .stateRequired

/-- Without a context the converter works on one of its own, which the next call does not see. -/
def convertOAIChatStreamResponseToClaudeMessages (response : Response) :
    Except Failure Converted :=
  match response with
  | .chat chunk =>
    let converted := streamResponseOpenAI2Claude chunk (info.getD {})
    .ok
      { values := converted.1.map claude, usage := chunk.usage.map usageFromChatUsage
        info := info.map fun _ => converted.2, state := .stateless }
  | _ => .error .unexpectedResponse

def finalizeOAIChatStreamResponseToClaudeMessages :
    Except Failure Converted :=
  let session := info.getD {}
  let final := finalizeStreamResponseOpenAI2Claude session
  .ok
    { values := final.1.map claude, usage := session.claudeConvertInfo.usage
      info := info.map fun _ => final.2, state }

def convertClaudeMessagesStreamResponseToOAIChat (response : Response) :
    Except Failure Converted :=
  match response with
  | .claude response =>
    let usage := usageFromClaudeResponse response
    match streamResponseClaude2OpenAI response with
    | some (some chunk) =>
      .ok
        { values := [.chat { chunk with usage := usage.orElse fun _ => chunk.usage }], usage, info
          state := .stateless }
    | some none => .ok { usage, info, state := .stateless }
    | none => .error .panic
  | _ => .error .unexpectedResponse

def newGeminiChatToOAIChatStreamState (uuid : String) (now : Int) (options : ResponseStreamOptions) : StepState :=
  .geminiToChat (newGeminiToChatStreamState options.id options.created uuid now)

variable (draws : Draws) (info : Option Meta)

def convertGeminiChatStreamResponseChunkToOAIChat (response : Response)
    (state : StepState) : Except Failure Converted :=
  match response with
  | .gemini response =>
    match state with
    | .geminiToChat state =>
      let usage := usageFromGeminiMetadata response.getUsageMetadata (fallbackPromptTokens info)
      let converted := convertChunk draws.uuid response (upstreamModelName info) usage state
      .ok
        { values := converted.1.map chat, usage, info, state := .geminiToChat converted.2 }
    | _ => .error .stateRequired
  | _ => .error .unexpectedResponse

def finalizeGeminiChatStreamResponseToOAIChat (state : StepState) : Except Failure Converted :=
  match state with
  | .geminiToChat state =>
    let final := finalize (upstreamModelName info) state
    .ok
      { values := final.1.map chat, usage := final.2.latestUsage, info, state := .geminiToChat final.2 }
  | _ => .error .stateRequired

inductive ConverterID where
  | claudeMessagesToOpenAIChat | openAIChatToClaudeMessages | geminiContentToOpenAIChat
  | openAIChatToOpenAIResponses | openAIResponsesToOpenAIChat | claudeToResponses | geminiToClaude
  | geminiToResponses | responsesToClaude
deriving DecidableEq

/-- The stream side of a `ResponseConverterSpec`. -/
structure ResponseConverterSpec where
  id : ConverterID
  (source target : RelayFormat)
  convertStream : Option (Option Meta → Response → Except Failure Converted) := none
  newStreamState : Option (String → Int → ResponseStreamOptions → StepState) := none
  convertStreamChunk : Option (Draws → Option Meta → Response → StepState → Except Failure Converted) := none
  finalizeStream : Option (Option Meta → StepState → Except Failure Converted) := none
  stepConverters : List ConverterID := []

def claudeMessagesToOpenAIChat : ResponseConverterSpec :=
  { id := .claudeMessagesToOpenAIChat, source := .claude, target := .openAI
    convertStream := some convertClaudeMessagesStreamResponseToOAIChat }

def openAIChatToClaudeMessages : ResponseConverterSpec :=
  { id := .openAIChatToClaudeMessages, source := .openAI, target := .claude
    convertStream := some convertOAIChatStreamResponseToClaudeMessages
    finalizeStream := some finalizeOAIChatStreamResponseToClaudeMessages }

/-- The converter has a stateless stream side too, which a stream with state never uses. -/
def geminiContentToOpenAIChat : ResponseConverterSpec :=
  { id := .geminiContentToOpenAIChat, source := .gemini, target := .openAI
    newStreamState := some newGeminiChatToOAIChatStreamState
    convertStreamChunk := some convertGeminiChatStreamResponseChunkToOAIChat
    finalizeStream := some finalizeGeminiChatStreamResponseToOAIChat }

def openAIChatToOpenAIResponses : ResponseConverterSpec :=
  { id := .openAIChatToOpenAIResponses, source := .openAI, target := .openAIResponses
    newStreamState := some newOAIChatToOAIResponsesStreamState
    convertStreamChunk := some convertOAIChatStreamResponseToOAIResponses
    finalizeStream := some finalizeOAIChatStreamResponseToOAIResponses }

def openAIResponsesToOpenAIChat : ResponseConverterSpec :=
  { id := .openAIResponsesToOpenAIChat, source := .openAIResponses, target := .openAI
    newStreamState := some newOAIResponsesToOAIChatStreamState
    convertStreamChunk := some convertOAIResponsesStreamResponseToOAIChat
    finalizeStream := some finalizeOAIResponsesStreamResponseToOAIChat }

def builtinTextConverters : List ResponseConverterSpec :=
  [claudeMessagesToOpenAIChat, openAIChatToClaudeMessages, geminiContentToOpenAIChat, openAIChatToOpenAIResponses,
    openAIResponsesToOpenAIChat,
    { id := .claudeToResponses, source := .claude, target := .openAIResponses
      stepConverters := [.claudeMessagesToOpenAIChat, .openAIChatToOpenAIResponses] },
    { id := .geminiToClaude, source := .gemini, target := .claude
      stepConverters := [.geminiContentToOpenAIChat, .openAIChatToClaudeMessages] },
    { id := .geminiToResponses, source := .gemini, target := .openAIResponses
      stepConverters := [.geminiContentToOpenAIChat, .openAIChatToOpenAIResponses] },
    { id := .responsesToClaude, source := .openAIResponses, target := .claude
      stepConverters := [.openAIResponsesToOpenAIChat, .openAIChatToClaudeMessages] }]

def lookupResponseConverter (id : ConverterID) : Option ResponseConverterSpec :=
  builtinTextConverters.find? (·.id = id)
def lookupResponseRoute (source target : RelayFormat) : Option ResponseConverterSpec :=
  builtinTextConverters.find? fun spec => spec.source = source && spec.target = target

/-- The steps from one format to another, each of which starts where the one before ended. -/
def stepsFrom (target : RelayFormat) : RelayFormat → List ConverterID → Except Failure (List ResponseConverterSpec)
  | current, [] => if current = target then .ok [] else .error .mismatchedStep
  | current, id :: rest =>
    match lookupResponseConverter id with
    | none => .error .missingStep
    | some step =>
      if step.stepConverters ≠ [] then .error .indirectStep
      else if step.source ≠ current then .error .mismatchedStep
      else (stepsFrom target step.target rest).map (step :: ·)

variable (spec : ResponseConverterSpec)

def expandResponseConverterSteps : Except Failure (List ResponseConverterSpec) :=
  if spec.stepConverters = [] then
    if spec.convertStream.isNone && spec.convertStreamChunk.isNone then .error .noStreamImplementation else .ok [spec]
  else stepsFrom spec.target spec.source spec.stepConverters

structure ResponseStreamState where
  (source target : RelayFormat)
  converter : Option ConverterID := none
  specs : List ResponseConverterSpec := []
  stepStates : List StepState := []
  usage : Option Usage := none

structure ResponseResult where
  value : Response
  usage : Option Usage
  (source target : RelayFormat)
  converter : Option ConverterID

def newStepStates (draws : Draws) (options : ResponseStreamOptions) : Nat → List ResponseConverterSpec → List StepState
  | _, [] => []
  | place, spec :: rest =>
    (spec.newStreamState.map fun create => create (draws.uuid place 0) draws.now options).getD .stateless ::
      newStepStates draws options (place + 1) rest

def newResponseStreamState (source target : RelayFormat) (options : ResponseStreamOptions) :
    Except Failure ResponseStreamState :=
  if source = target then .ok { source, target }
  else
    match lookupResponseRoute source target with
    | none => .error .notRegistered
    | some spec =>
      (expandResponseConverterSteps spec).map fun specs =>
        { source, target, converter := some spec.id, specs
          stepStates := newStepStates draws options 0 specs }

def StepState.usage : StepState → Option Usage
  | .chatToResponses state => some state.usage
  | .responsesToChat state => some state.usage
  | .stateless | .geminiToChat _ => none

variable (stream : ResponseStreamState)

def ResponseStreamState.getUsage : Option Usage :=
  stream.usage.orElse fun _ => stream.stepStates.findSome? StepState.usage

def responseStreamResults (values : List Response) (usage : Option Usage) :
    List ResponseResult :=
  values.map fun value =>
    { value, usage, source := stream.source, target := stream.target
      converter := stream.converter }

/-- The converter to Claude or Gemini tells the first chunk by the number of responses. -/
def prepareResponseStreamInfo : Option Meta :=
  if spec.source = .openAI && (spec.target = .claude || spec.target = .gemini) then
    info.map Meta.incrSendResponseCount
  else info

def executeResponseStreamStep (state : StepState) (response : Response) : Except Failure Converted :=
  match spec.convertStreamChunk with
  | some convert => convert draws info response state
  | none =>
    match spec.convertStream with
    | some convert => (convert info response).map fun converted => { converted with state }
    | none => .error .noStreamImplementation

def finalizeResponseStreamStep (state : StepState) :
    Except Failure Converted :=
  match spec.finalizeStream with
  | some finalize => finalize info state
  | none => .ok { info, state }

/-- What a call carries along besides the states: the context, the usage it has seen itself, and the usage that the
stream remembers. -/
structure Call where
  info : Option Meta
  usage : Option Usage := none
  remembered : Option Usage

def Call.after (call : Call) (converted : Converted) : Call :=
  { info := converted.info
    usage := converted.usage.orElse fun _ => call.usage
    remembered := converted.usage.orElse fun _ => call.remembered }

def convertValues (draws : Draws) (spec : ResponseConverterSpec) :
    List Response → StepState → Call → Except Failure (List Response × StepState × Call)
  | [], state, call => .ok ([], state, call)
  | value :: rest, state, call => do
    let converted ← executeResponseStreamStep draws (prepareResponseStreamInfo call.info spec) spec state value
    let following ← convertValues draws spec rest converted.state (call.after converted)
    return (converted.values ++ following.1, following.2)

def executeResponseStreamSteps (draws : Draws) : List ResponseConverterSpec → List StepState → List Response → Call →
      Except Failure (List Response × List StepState × Call)
  | spec :: specs, state :: states, values, call => do
    let converted ← convertValues draws spec values state call
    if converted.1.isEmpty then return ([], converted.2.1 :: states, converted.2.2)
    else
      let following ← executeResponseStreamSteps draws specs states converted.1 converted.2.2
      return (following.1, converted.2.1 :: following.2.1, following.2.2)
  | _, states, values, call => .ok (values, states, call)

def passOn (specs : List ResponseConverterSpec) (states : List StepState) (values : List Response)
    (call : Call) : Except Failure (List Response × List StepState × Call) :=
  if values.isEmpty then .ok ([], states, call) else executeResponseStreamSteps draws specs states values call

/-- The steps are finalized in turn, each after it has taken the last values of those before. -/
def finalizeSteps (draws : Draws) :
    List ResponseConverterSpec → List StepState → Call → Except Failure (List Response × List StepState × Call)
  | spec :: specs, state :: states, call => do
    let final ← finalizeResponseStreamStep call.info spec state
    let passed ← passOn draws specs states final.values (call.after final)
    let following ← finalizeSteps draws specs passed.2.1 passed.2.2
    return (passed.1 ++ following.1, final.state :: following.2.1, following.2.2)
  | _, states, call => .ok ([], states, call)

def inferResponseRelayFormat : Response → Except Failure RelayFormat
  | .chat _ => .ok .openAI
  | .responses _ => .ok .openAIResponses
  | .claude _ => .ok .claude
  | .gemini _ => .ok .gemini
  | .whole format _ => .ok format
  | .absent => .error .nilResponse
  | .responsesEvent _ | .unsupported => .error .unsupportedResponse

abbrev Answer := List ResponseResult × ResponseStreamState × Option Meta

def answer (executed : List Response × List StepState × Call) : Answer :=
  (responseStreamResults stream executed.1 executed.2.2.usage,
    { stream with stepStates := executed.2.1, usage := executed.2.2.remembered }, executed.2.2.info)

def canonicalUsageFromResponse : Response → Option Usage
  | .chat chunk => chunk.usage.map usageFromChatUsage
  | .responses event => event.response.map fun response => usageFromResponsesUsage response.usage
  | .claude response => usageFromClaudeResponse response
  | .gemini response => usageFromGeminiMetadata response.getUsageMetadata 0
  | .whole _ usage => usage
  | .responsesEvent _ | .absent | .unsupported => none

def convertStreamResponseChunk (stream : ResponseStreamState) (response : Response) : Except Failure Answer := do
  let source ← inferResponseRelayFormat response
  if source ≠ stream.source then .error .unexpectedResponse
  else if stream.source = stream.target then
    let usage := canonicalUsageFromResponse response
    return (responseStreamResults stream [response] usage,
      { stream with usage := usage.orElse fun _ => stream.usage }, info)
  else
    let executed ← executeResponseStreamSteps draws stream.specs stream.stepStates [response]
      { info, remembered := stream.usage }
    return answer stream executed

/-- The context of a stream to Claude learns the usage before the stream is finalized. -/
def lendUsage : Option Meta :=
  if stream.target = .claude then
    info.map fun session =>
      { session with
        claudeConvertInfo :=
          { session.claudeConvertInfo with
            usage := session.claudeConvertInfo.usage.orElse fun _ => stream.getUsage } }
  else info

def finalizeStreamResponse (stream : ResponseStreamState) :
    Except Failure Answer :=
  if stream.source = stream.target then .ok ([], stream, info)
  else do
    let executed ← finalizeSteps draws stream.specs stream.stepStates
      { info := lendUsage info stream, remembered := stream.usage }
    return answer stream executed

def convertStreamResponseChunks : List (Draws × Response) → ResponseStreamState → Option Meta → Except Failure Answer
  | [], stream, info => .ok ([], stream, info)
  | (draws, response) :: rest, stream, info => do
    let converted ← convertStreamResponseChunk draws info stream response
    let following ← convertStreamResponseChunks rest converted.2.1 converted.2.2
    return (converted.1 ++ following.1, following.2)

def finalizeStreamResponses :
    List Draws → ResponseStreamState → Option Meta → Except Failure (List (List ResponseResult))
  | [], _, _ => .ok []
  | draws :: rest, stream, info => do
    let final ← finalizeStreamResponse draws info stream
    let following ← finalizeStreamResponses rest final.2.1 final.2.2
    return final.1 :: following

end FlowAPI.Convert
