import FlowAPI.Golang.Strings
import FlowAPI.Semantics.Machine

/-! Reading an upstream event stream: `streamScannerHandler` of `relay/helper/stream_scanner.go`, and what the gate of
`relay/helper/stream_gate.go` makes of one event.

Frames are byte strings as the upstream sent them. The parser behind them is a parameter.

The scanner passes the payloads of lines through a channel to the data handler, a third goroutine sends pings, and the
caller waits for an end of any kind. With the gate the scanner holds events back until the first content. A goroutine
moves by one operation on what they share at a time. -/

set_option autoImplicit false
namespace FlowAPI.Stream
open Golang

def streamGateEventCap : Nat := 64
def streamGateByteCap : Nat := 10 * 2 ^ 20

inductive StreamProtocol where
  | anthropic | openAIChat | openAIResponses | gemini | openAIImage
  deriving DecidableEq, Repr

/-- A failure before the first content, with the start of the frame that showed it. -/
structure StreamPrecommitFailure where
  reason : String
  frame : List UInt8
  deriving DecidableEq, Repr

/-- An element of an array: whether it is null, its text, its source. -/
structure ResultItem where
  isNull : Bool
  (text raw : List UInt8)

structure PathResult where
  (found isNull isArray isObject : Bool)
  (text raw : List UInt8)
  items : List ResultItem

/-- `gjson.Valid` and `gjson.Get`. -/
structure Parser where
  valid : List UInt8 → Bool
  get : List UInt8 → String → PathResult

inductive StreamFrameVerdict where
  | neutral | content | error | completed | terminal | malformed

def truncateStreamFrame (data : List UInt8) : List UInt8 := data.take 2000

section
variable (parser : Parser) (data : List UInt8)

def streamPathNonEmpty (path : String) : Bool :=
  let result := parser.get data path
  if result.found = false ∨ result.isNull = true then false
  else if result.isArray then
    result.items.any fun item =>
      item.isNull = false ∧ trimSpaceBytes item.text ≠ [] ∧ item.raw ≠ ascii "[]" ∧ item.raw ≠ ascii "\x7b\x7d"
  else if result.isObject then result.raw ≠ ascii "\x7b\x7d"
  else trimSpaceBytes result.text ≠ []

def streamAnyPathNonEmpty (paths : List String) : Bool := paths.any (streamPathNonEmpty parser data)

variable (frameType data : List UInt8)

def streamResponsesContent : Bool :=
  if hasSuffixBytes frameType ".delta" ∧ streamPathNonEmpty parser data "delta" then true
  else if frameType = ascii "response.image_generation_call.partial_image" ∧
      streamPathNonEmpty parser data "partial_image_b64" then true
  else if frameType ∈ ["response.output_text.done", "response.reasoning_text.done",
      "response.reasoning_summary_text.done"].map ascii then streamPathNonEmpty parser data "text"
  else if frameType = ascii "response.audio.transcript.done" then
    streamAnyPathNonEmpty parser data ["transcript", "text"]
  else if frameType = ascii "response.refusal.done" then streamPathNonEmpty parser data "refusal"
  else if frameType ∈ ["response.function_call_arguments.done", "response.mcp_call_arguments.done"].map ascii then
    streamPathNonEmpty parser data "arguments"
  else if frameType = ascii "response.custom_tool_call_input.done" then streamPathNonEmpty parser data "input"
  else if frameType = ascii "response.code_interpreter_call_code.done" then streamPathNonEmpty parser data "code"
  else if frameType ∈ ["response.output_item.added", "response.output_item.done"].map ascii then
    streamAnyPathNonEmpty parser data ["item.content.#.text", "item.summary.#.text", "item.arguments",
      "item.input", "item.action", "item.queries", "item.query", "item.code", "item.command",
      "item.operation", "item.result"]
  else if frameType = ascii "response.completed" then
    streamAnyPathNonEmpty parser data ["response.output.#.content.#.text", "response.output.#.summary.#.text",
      "response.output.#.arguments", "response.output.#.input", "response.output.#.action",
      "response.output.#.queries", "response.output.#.query", "response.output.#.code",
      "response.output.#.command", "response.output.#.operation", "response.output.#.result"]
  else false

def classifyAnthropic : StreamFrameVerdict :=
  if frameType = ascii "error" ∨ frameType = ascii "response.error" then .error
  else if frameType = ascii "message_delta" ∧ streamPathNonEmpty parser data "delta.stop_reason" then .completed
  else if frameType = ascii "message_stop" then .terminal
  else if frameType = ascii "content_block_delta" ∧
      ((parser.get data "delta.type").text = ascii "thinking_delta" ∨
        streamAnyPathNonEmpty parser data
          ["delta.text", "delta.partial_json", "delta.thinking", "delta.signature", "delta.citation"]) then .content
  else if frameType = ascii "content_block_start" ∧
      streamAnyPathNonEmpty parser data ["content_block.data", "content_block.content", "content_block.file_id",
        "content_block.fileId", "content_block.url", "content_block.result"] then .content
  else .neutral

def classifyOpenAIChat : StreamFrameVerdict :=
  if streamAnyPathNonEmpty parser data ["choices.#.delta.content", "choices.#.delta.reasoning_content",
      "choices.#.delta.tool_calls.#.function.arguments", "choices.#.delta.function_call.arguments",
      "choices.#.delta.refusal", "choices.#.delta.audio.data", "choices.#.delta.audio.transcript"] then .content
  else if streamPathNonEmpty parser data "choices.#.finish_reason" then .completed
  else .neutral

def classifyOpenAIResponses : StreamFrameVerdict :=
  if frameType = ascii "error" ∨ frameType = ascii "response.error" ∨ frameType = ascii "response.failed" ∨
      streamPathNonEmpty parser data "response.error" then .error
  else if streamResponsesContent parser frameType data then .content
  else if frameType = ascii "response.completed" ∨ frameType = ascii "response.incomplete" then .completed
  else if frameType = ascii "response.done" then .terminal
  else .neutral

def classifyGemini : StreamFrameVerdict :=
  let response := parser.get data "response"
  let payload := if response.isObject then response.raw else data
  if streamPathNonEmpty parser payload "error" ∨ streamPathNonEmpty parser payload "promptFeedback.blockReason" then
    .error
  else if streamAnyPathNonEmpty parser payload ["candidates.#.content.parts.#.text",
      "candidates.#.content.parts.#.inlineData.data", "candidates.#.content.parts.#.fileData.fileUri",
      "candidates.#.content.parts.#.functionCall.name", "candidates.#.content.parts.#.functionResponse.name",
      "candidates.#.content.parts.#.executableCode.code",
      "candidates.#.content.parts.#.codeExecutionResult.output"] then .content
  else if streamPathNonEmpty parser payload "candidates.#.finishReason" then .completed
  else .neutral

def classifyOpenAIImage : StreamFrameVerdict :=
  if frameType = ascii "error" ∨ frameType = ascii "upstream_error" then .error
  else if (hasPrefixBytes frameType "image_generation." ∨ hasPrefixBytes frameType "image_edit.") ∧
      streamAnyPathNonEmpty parser data ["b64_json", "partial_image_b64", "url", "result"] then .content
  else .neutral

def claimsStructure : Bool := hasPrefixBytes data "\x7b" ∨ hasPrefixBytes data "["

def classifyStreamFrame (protocol : StreamProtocol) (frame : List UInt8) : StreamFrameVerdict :=
  let data := trimSpaceBytes frame
  if data = ascii "[DONE]" then .terminal
  else if data = [] then .neutral
  else if claimsStructure data = false then .neutral
  else if parser.valid data = false then .malformed
  else
    let frameType := (parser.get data "type").text
    if streamPathNonEmpty parser data "error" then .error
    else match protocol with
      | .anthropic => classifyAnthropic parser frameType data
      | .openAIChat => classifyOpenAIChat parser data
      | .openAIResponses => classifyOpenAIResponses parser frameType data
      | .gemini => classifyGemini parser data
      | .openAIImage => classifyOpenAIImage parser frameType data

def isStreamKeepAlive (frame : List UInt8) : Bool :=
  let data := trimSpaceBytes frame
  data = [] ∨ claimsStructure data = false

def isStreamRequestEcho (protocol : StreamProtocol) (data : List UInt8) : Bool :=
  protocol = .openAIResponses ∧ (parser.get data "type").text ∈
    ["response.created", "response.in_progress", "response.queued"].map ascii

end

open Semantics

inductive StreamEndReason where
  | done | timeout | clientGone | scannerErr | handlerStop | eof | panic | pingFail
  deriving DecidableEq, Repr

def StreamEndReason.text : StreamEndReason → String
  | .done => "done"
  | .timeout => "timeout"
  | .clientGone => "client_gone"
  | .scannerErr => "scanner_error"
  | .handlerStop => "handler_stop"
  | .eof => "eof"
  | .panic => "panic"
  | .pingFail => "ping_fail"

/-- Without a protocol the gate is off. -/
structure Settings where
  protocol : Option StreamProtocol
  parser : Parser
  (pingEnabled idleTimeout : Bool)

structure Held where
  frames : List (List UInt8)
  (events bytes totalBytes : Nat)
  deriving DecidableEq, Repr

inductive Onward where
  | scan
  | deliver (data : List UInt8)
  deriving DecidableEq, Repr

inductive ScannerEnd where
  | done | handlerStop | eof
  deriving DecidableEq, Repr

def ScannerEnd.reason : ScannerEnd → StreamEndReason
  | .done => .done
  | .handlerStop => .handlerStop
  | .eof => .eof

inductive Scanner where
  | scanning
  | checking (line : List UInt8)
  | failing (failure : StreamPrecommitFailure) (ends : ScannerEnd)
  | ending (ends : ScannerEnd)
  | locking (onward : Onward)
  | writing (onward : Onward)
  | marking (onward : Onward)
  | unlocking (onward : Onward)
  | replaying (pending : List (List UInt8)) (onward : Onward)
  | delivering (data : List UInt8)
  | sending (data : List UInt8)
  | drained
  | closing (panicked : Bool)
  | recovering (panicked : Bool)
  | stopping | exited
  deriving DecidableEq, Repr

inductive Handled where
  | continued | stopped | done | panicked
  deriving DecidableEq, Repr

inductive Handler where
  | receiving
  | locking (data : List UInt8)
  | handling
  | unlocking (result : Handled)
  | recovering (panicked : Bool)
  | stopping | exited
  deriving DecidableEq, Repr

inductive Ping where
  | waiting | locking | writing
  | unlocking (written : Bool)
  | failing | recovering | stopping | exited
  deriving DecidableEq, Repr

inductive Main where
  | waiting | idle | failing | expired | gone | cancelling | stopping | joining
  | returned (error : Option StreamPrecommitFailure)
  deriving DecidableEq, Repr

inductive Goroutine where
  | scanner | handler | ping
  deriving DecidableEq, Repr

/-- `headers`, `pings` and `handled` are what has reached the response; `handled` are the payloads that the data
handler was called with. -/
structure State where
  endReason : Option StreamEndReason
  committed : Bool
  precommitErr : Option StreamPrecommitFailure
  (stopped cancelled clientGone : Bool)
  writeMutex : Option Goroutine
  dataChan : List (List UInt8)
  (chanClosed headers : Bool)
  pings : Nat
  handled : List (List UInt8)
  held : Held
  scanner : Scanner
  handler : Handler
  ping : Ping
  main : Main
  deriving DecidableEq, Repr

/-- `make(chan string, 10)`. -/
def dataChanCapacity : Nat := 10

namespace State

/-- Only the first reason is kept. -/
def setEndReason (reason : StreamEndReason) (state : State) : State :=
  { state with endReason := state.endReason.or (some reason) }

def setPrecommitErr (failure : StreamPrecommitFailure) (state : State) : State :=
  { state with precommitErr := state.precommitErr.or (some failure) }
def lock (goroutine : Goroutine) (state : State) : Option State :=
  if state.writeMutex = none then some { state with writeMutex := some goroutine } else none
def unlock (state : State) : State := { state with writeMutex := none }

/-- `gateEnabled && !info.StreamStatus.IsCommitted()`. -/
def gated (settings : Settings) (state : State) : Bool := settings.protocol.isSome && !state.committed

end State

def payload (line : List UInt8) : Option (List UInt8) :=
  if line.length < 6 then none
  else if line.take 5 ≠ ascii "data:" ∧ line.take 6 ≠ ascii "[DONE]" then none
  else
    let data := trimSpaceBytes (line.drop 5)
    if data = [] then none else some data

def Held.append (parser : Parser) (protocol : StreamProtocol) (data : List UInt8) (held : Held) : Held :=
  { frames := held.frames ++ [data], totalBytes := held.totalBytes + data.length
    bytes := if isStreamRequestEcho parser protocol data then held.bytes else held.bytes + data.length
    events := if isStreamKeepAlive data then held.events else held.events + 1 }

def Held.capReached (held : Held) : Bool :=
  streamGateEventCap < held.events ∨ streamGateByteCap < held.bytes ∨ 2 * streamGateByteCap < held.totalBytes

def Onward.stage : Onward → Scanner
  | .scan => .scanning
  | .deliver data => .delivering data

def State.hold (parser : Parser) (protocol : StreamProtocol) (data : List UInt8) (state : State) : State :=
  match classifyStreamFrame parser protocol data with
  | .error => { state with scanner := .failing ⟨"upstream_error", truncateStreamFrame data⟩ .handlerStop }
  | .malformed => { state with scanner := .failing ⟨"malformed_event", truncateStreamFrame data⟩ .handlerStop }
  | .terminal =>
    if state.held.frames = [] then { state with scanner := .failing ⟨"empty_stream", truncateStreamFrame data⟩ .eof }
    else { state with scanner := .locking (.deliver data) }
  | .neutral =>
    let held := state.held.append parser protocol data
    { state with held, scanner := if held.capReached then .locking .scan else .scanning }
  | .completed | .content => { state with scanner := .locking (.deliver data) }

variable (settings : Settings)

def State.process (line : List UInt8) (state : State) : State :=
  match payload line with
  | none => { state with scanner := .scanning }
  | some data =>
    match settings.protocol with
    | some protocol =>
      if state.committed then { state with scanner := .delivering data }
      else state.hold settings.parser protocol data
    | none => { state with scanner := .delivering data }

/-- The scanner reads a line, comes to the end or panics; it goes on; or its `select` sends or leaves. -/
inductive ScannerInput where
  | line (line : List UInt8)
  | ended (failed : Bool)
  | panic | go | send | abort

def State.send (data : List UInt8) (next : Scanner) (state : State) : Option State :=
  if state.dataChan.length < dataChanCapacity then
    some { state with dataChan := state.dataChan ++ [data], scanner := next }
  else none

variable (state : State)

def State.abort : Option State :=
  if state.cancelled ∨ state.stopped then some { state with scanner := .closing false } else none

def scannerStep : ScannerInput → Option State
  | .line line =>
    match state.scanner with
    | .scanning => some { state with scanner := .checking line }
    | _ => none
  | .ended failed =>
    match state.scanner with
    | .scanning => some { (if failed then state.setEndReason .scannerErr else state) with scanner := .drained }
    | _ => none
  | .panic =>
    match state.scanner with
    | .scanning => some { state with scanner := .closing true }
    | _ => none
  | .send =>
    match state.scanner with
    | .replaying (data :: pending) onward => state.send data (.replaying pending onward)
    | .sending data => state.send data .scanning
    | _ => none
  | .abort =>
    match state.scanner with
    | .replaying (_ :: _) _ => state.abort
    | .sending _ => state.abort
    | _ => none
  | .go =>
    match state.scanner with
    | .checking line =>
      some (if state.stopped ∨ state.cancelled then { state with scanner := .closing false }
        else state.process settings line)
    | .failing failure ends => some { state.setPrecommitErr failure with scanner := .ending ends }
    | .ending ends => some { state.setEndReason ends.reason with scanner := .closing false }
    | .locking onward => (state.lock .scanner).map fun locked => { locked with scanner := .writing onward }
    | .writing onward => some { state with headers := true, scanner := .marking onward }
    | .marking onward => some { state with committed := true, scanner := .unlocking onward }
    | .unlocking onward => some { state.unlock with scanner := .replaying state.held.frames onward }
    | .replaying [] onward => some { state with
        held := { state.held with frames := [] }, scanner := onward.stage }
    | .delivering data => some { state with
        scanner := if hasPrefixBytes data "[DONE]" then .ending .done else .sending data }
    | .drained => some { state with
        scanner := if state.gated settings then .failing ⟨"empty_stream", []⟩ .eof else .ending .eof }
    | .closing panicked => some { state with chanClosed := true, scanner := .recovering panicked }
    | .recovering panicked =>
      some { (if panicked then state.setEndReason .panic else state) with scanner := .stopping }
    | .stopping => some { state with stopped := true, scanner := .exited }
    | _ => none

inductive HandlerInput where
  | go
  | handled (result : Handled)

def State.note (result : Handled) (state : State) : State :=
  match result with
  | .stopped => state.setEndReason .handlerStop
  | .done => state.setEndReason .done
  | .continued | .panicked => state

def handlerStep : HandlerInput → Option State
  | .handled result =>
    match state.handler with
    | .handling => some { state.note result with handler := .unlocking result }
    | _ => none
  | .go =>
    match state.handler with
    | .receiving =>
      match state.dataChan with
      | data :: rest => some { state with dataChan := rest, handler := .locking data }
      | [] => if state.chanClosed then some { state with handler := .recovering false } else none
    | .locking data => (state.lock .handler).map fun locked =>
        { locked with handled := locked.handled ++ [data], handler := .handling }
    | .unlocking result => some { state.unlock with handler := match result with
        | .continued => .receiving
        | .stopped | .done => .recovering false
        | .panicked => .recovering true }
    | .recovering panicked =>
      some { (if panicked then state.setEndReason .panic else state) with handler := .stopping }
    | .stopping => some { state with stopped := true, handler := .exited }
    | _ => none

/-- `expire` is the end of the thirty minutes that the goroutine may run. -/
inductive PingInput where
  | tick
  | wrote (written : Bool)
  | panic | leave | expire | go

def pingStep : PingInput → Option State
  | .tick =>
    match state.ping with
    | .waiting => some (if state.gated settings then state else { state with ping := .locking })
    | _ => none
  | .wrote written =>
    match state.ping with
    | .writing => some { state with pings := state.pings + 1, ping := .unlocking written }
    | _ => none
  | .panic =>
    match state.ping with
    | .writing => some { state.unlock with ping := .recovering }
    | _ => none
  | .leave =>
    match state.ping with
    | .waiting =>
      if state.cancelled ∨ state.stopped ∨ state.clientGone then some { state with ping := .exited } else none
    | _ => none
  | .expire =>
    match state.ping with
    | .waiting => some { state with ping := .exited }
    | _ => none
  | .go =>
    match state.ping with
    | .locking => (state.lock .ping).map fun locked => { locked with ping := .writing }
    | .unlocking written => some { state.unlock with ping := if written then .waiting else .failing }
    | .failing => some { state.setEndReason .pingFail with ping := .exited }
    | .recovering => some { state.setEndReason .panic with ping := .stopping }
    | .stopping => some { state with stopped := true, ping := .exited }
    | _ => none

inductive MainInput where
  | idle | stopped | gone | go

def State.verdict : Option StreamPrecommitFailure :=
  if state.committed then none
  else match state.precommitErr with
    | some failure => some failure
    | none =>
      if settings.protocol.isSome ∧ state.endReason ≠ some .clientGone then
        some ⟨(state.endReason.map StreamEndReason.text).getD "", []⟩
      else none

def mainStep : MainInput → Option State
  | .idle =>
    match state.main with
    | .waiting => if settings.idleTimeout then some { state with main := .idle } else none
    | _ => none
  | .stopped =>
    match state.main with
    | .waiting => if state.stopped then some { state with main := .cancelling } else none
    | _ => none
  | .gone =>
    match state.main with
    | .waiting => if state.clientGone then some { state with main := .gone } else none
    | _ => none
  | .go =>
    match state.main with
    | .idle => some { state with main := if state.gated settings then .failing else .expired }
    | .failing => some { state.setPrecommitErr ⟨"idle_timeout", []⟩ with main := .expired }
    | .expired => some { state.setEndReason .timeout with main := .cancelling }
    | .gone => some { state.setEndReason .clientGone with main := .cancelling }
    | .cancelling => some { state with cancelled := true, main := .stopping }
    | .stopping => some { state with stopped := true, main := .joining }
    | .joining =>
      if state.scanner = .exited ∧ state.handler = .exited ∧ state.ping = .exited then
        some { state with main := .returned (state.verdict settings) }
      else none
    | _ => none

inductive Event where
  | scanner (input : ScannerInput)
  | handler (input : HandlerInput)
  | ping (input : PingInput)
  | main (input : MainInput)
  | disconnect

def step : Event → Option State
  | .scanner input => scannerStep settings state input
  | .handler input => handlerStep state input
  | .ping input => pingStep settings state input
  | .main input => mainStep settings state input
  | .disconnect => some { state with clientGone := true }

def machine : Machine State Event := ⟨step settings⟩

/-- With the gate off the headers are set before anything is read. -/
def initial : State :=
  { endReason := none, committed := false, precommitErr := none, stopped := false, cancelled := false
    clientGone := false, writeMutex := none, dataChan := [], chanClosed := false
    headers := settings.protocol.isNone, pings := 0, handled := [], held := ⟨[], 0, 0, 0⟩
    scanner := .scanning, handler := .receiving, ping := if settings.pingEnabled then .waiting else .exited
    main := .waiting }

end FlowAPI.Stream
