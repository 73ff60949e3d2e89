import FlowAPI.Channels.Eligibility

/-! The route of a request over channels: `Relay` in `controller/relay.go`, `service/route_state.go`,
`service/relay_retry.go`, and `service/channel_select.go`.

A request for the group `auto` goes through a list of groups. Without excluded channels the position in the list
is kept on the request context, beside the retry counter. With excluded channels every call starts at the first group.

The loop tries a channel up to its number of attempts, excludes it and selects another one. What the handlers, the
billing and the upstreams do is the environment's, and the channels may change between two steps. -/

set_option autoImplicit false
namespace FlowAPI.Relay
open Golang Semantics
open FlowAPI.Channels

structure SelectRequest where
  autoGroups : List String
  crossGroupRetry : Bool
  (tokenGroup modelName requestPath : String)

/-- The retry counter, which reads as 0 before it is set, and the keys of the request context that change. -/
structure RetryParam where
  retry : Nat := 0
  resetNextTry : Bool := false
  (autoGroupIndex autoGroupRetryIndex : Option Nat := none)
  autoGroup : Option String := none

def RetryParam.increaseRetry (param : RetryParam) : RetryParam :=
  if param.resetNextTry then { param with resetNextTry := false } else { param with retry := param.retry + 1 }

structure Routing where
  getRandomSatisfiedChannel : String → String → Nat → String → Random Selected
  getRandomSatisfiedChannelWithOptions : String → String → String → ChannelSelectionOptions → Random Selected
  retryTimes : Nat

structure Choice where
  position : Nat
  group : String
  channel : Channel

inductive RouteError where
  | autoGroupsNotEnabled
  | select (group : String) (error : SelectError)

def RouteError.message : RouteError → String
  | .autoGroupsNotEnabled => "auto groups is not enabled"
  | .select _ error => error.message

def RouteError.selectGroup (tokenGroup : String) : RouteError → String
  | .autoGroupsNotEnabled => tokenGroup
  | .select group _ => group

abbrev Called := Option (RetryParam × Except RouteError (Option Choice))

section
variable (routing : Routing) (drawn : Nat → Int) (request : SelectRequest)

/-- The loop over the groups from a position on. `drawn` gives the number that is drawn for the group at a position. An
error counts as a group without a channel. -/
def selectAuto (startGroupIndex : Nat) : Nat → List String → RetryParam → Called
  | _, [], param => some (param, .ok none)
  | position, autoGroup :: rest, param =>
    let priorityRetry := if position > startGroupIndex then 0 else param.retry
    match (routing.getRandomSatisfiedChannel autoGroup request.modelName priorityRetry request.requestPath).result
        (drawn position) with
    | none => none
    | some (.ok (some channel)) =>
      let after :=
        if request.crossGroupRetry ∧ priorityRetry ≥ routing.retryTimes then
          { param with
            autoGroup := some autoGroup, autoGroupIndex := some (position + 1), retry := 0, resetNextTry := true }
        else { param with autoGroup := some autoGroup, autoGroupIndex := some position }
      some (after, .ok (some ⟨position, autoGroup, channel⟩))
    | some _ =>
      selectAuto startGroupIndex (position + 1) rest
        { param with autoGroupIndex := some (position + 1), autoGroupRetryIndex := some 0, retry := 0 }

def selectResilient (excluded : List Int) (param : RetryParam) : Nat → List String → Called
  | _, [] => some (param, .ok none)
  | position, group :: rest =>
    match (routing.getRandomSatisfiedChannelWithOptions group request.modelName request.requestPath
        ⟨excluded, some fun channel => decide (channel.status = FlowAPI.Channels.channelStatusEnabled)⟩).result
        (drawn position) with
    | none => none
    | some (.error error) => some (param, .error (.select group error))
    | some (.ok none) => selectResilient excluded param (position + 1) rest
    | some (.ok (some channel)) =>
      some (if request.tokenGroup = "auto" then { param with autoGroup := some group } else param,
        .ok (some ⟨position, group, channel⟩))

def cacheGetResilientChannel (excluded : List Int) (param : RetryParam) : Called :=
  if request.tokenGroup = "auto" then
    if request.autoGroups = [] then some (param, .error .autoGroupsNotEnabled)
    else selectResilient routing drawn request excluded param 0 request.autoGroups
  else selectResilient routing drawn request excluded param 0 [request.tokenGroup]

def cacheGetRandomSatisfiedChannel (excludedChannelIDs : Option (List Int)) (param : RetryParam) : Called :=
  match excludedChannelIDs with
  | some excluded => cacheGetResilientChannel routing drawn request excluded param
  | none =>
    if request.tokenGroup = "auto" then
      if request.autoGroups = [] then some (param, .error .autoGroupsNotEnabled)
      else
        let startGroupIndex := param.autoGroupIndex.getD 0
        selectAuto routing drawn request startGroupIndex startGroupIndex (request.autoGroups.drop startGroupIndex) param
    else
      match (routing.getRandomSatisfiedChannel request.tokenGroup request.modelName param.retry
          request.requestPath).result (drawn 0) with
      | none => none
      | some (.error error) => some (param, .error (.select request.tokenGroup error))
      | some (.ok channel) => some (param, .ok (channel.map fun channel => ⟨0, request.tokenGroup, channel⟩))

end

structure ApiError where
  (message code : String)
  statusCode : Int
  skipRetry : Bool := false

/-! ### `ClassifyRelayRetry` -/

inductive ContextError where
  | canceled | deadlineExceeded

structure RelayRetryDecision where
  (retryable autoBanEligible : Bool := false)
  reason : String

structure RetrySettings where
  isAlwaysSkipRetryCode : String → Bool
  shouldRetryByStatusCode : Int → Bool

def localOrClientErrors : List String :=
  ["invalid_request", "read_request_body_failed", "convert_request_failed", "count_token_failed", "model_price_error",
    "insufficient_user_quota", "pre_consume_token_quota_failed"]

def isChannelError (error : ApiError) : Bool := "channel:".toList.isPrefixOf error.code.toList
def retryOn (reason : String) : RelayRetryDecision := { retryable := true, autoBanEligible := true, reason }

def classifyRelayRetry (settings : RetrySettings) (requestContext : Option ContextError) (relayErr : Option ApiError)
    (responseCommitted : Bool) : RelayRetryDecision :=
  match relayErr with
  | none => { reason := "success" }
  | some error =>
    if responseCommitted then { reason := "response_committed" }
    else if error.statusCode = 499 then { reason := "client_aborted" }
    else
      match requestContext with
      | some .canceled => { reason := "client_cancelled" }
      | some .deadlineExceeded => { reason := "request_deadline" }
      | none =>
        if error.skipRetry then { reason := "explicit_skip" }
        else if error.code ∈ localOrClientErrors then { reason := "local_or_client_error" }
        else if isChannelError error then retryOn "channel_error"
        else if error.code = "bad_response_body" then retryOn "invalid_precommit_upstream_response"
        else if 200 ≤ error.statusCode ∧ error.statusCode < 300 then { reason := "successful_status" }
        else if error.statusCode < 100 ∨ error.statusCode > 599 then retryOn "network_error"
        else if error.statusCode = 408 ∨ error.statusCode = 504 ∨ error.statusCode = 524 then retryOn "upstream_timeout"
        else if settings.isAlwaysSkipRetryCode error.code then { reason := "configured_skip" }
        else if settings.shouldRetryByStatusCode error.statusCode then retryOn "retryable_upstream_status"
        else { reason := "non_retryable_status" }

/-! ### `RouteState` -/

def maxDistinctChannelsPerRequest : Nat := 20

structure RouteState where
  excludedChannelIDs : List Int := []
  attemptsByChannel : Map Int Nat := .empty

namespace RouteState

variable (state : RouteState) (channelID : Int)

def attempts : Nat := (state.attemptsByChannel.get? channelID).getD 0
def beginAttempt : RouteState :=
  { state with attemptsByChannel := state.attemptsByChannel.set channelID (state.attempts channelID + 1) }
def exclude : RouteState := { state with excludedChannelIDs := state.excludedChannelIDs ++ [channelID] }
def distinctChannelsAttempted : Nat := state.attemptsByChannel.keys.length
def canAttempt (maxAttempts : Int) : Bool :=
  decide (maxAttempts > 0) && decide ((state.attempts channelID : Int) < maxAttempts)
def canSelectMoreChannels : Bool := decide (state.distinctChannelsAttempted < maxDistinctChannelsPerRequest)

end RouteState

/-- Settings that passed the check when they were stored. -/
abbrev StoredReliability := { settings : ChannelReliabilitySettings // settings.validate = none }

/-- A request as the loop finds it. The distributor has set `currentChannelID` and `channelType`, and `known` are the
channels that `CacheGetChannel` reads, with their settings. -/
structure RouteRequest extends SelectRequest where
  param : RetryParam := {}
  known : Table Channel.id
  reliability : Int → Option StoredReliability
  (currentChannelID channelType : Int)
  specificChannel : Bool
  minimaxResourceChannelID : Int
  supportsTransparentFailover : Bool

def RouteRequest.transparentFailover (request : RouteRequest) : Bool :=
  request.supportsTransparentFailover && !request.specificChannel && decide (request.minimaxResourceChannelID = 0)

structure Chosen where
  channel : Channel
  reliability : Option StoredReliability

/-- `GetReliabilitySettings().MaxAttempts`, one without failover. -/
def Chosen.maxAttempts (chosen : Chosen) (request : RouteRequest) : Int :=
  if request.transparentFailover then (getReliabilitySettings (chosen.reliability.map Subtype.val)).maxAttempts else 1

inductive Phase where
  -- the head of the outer loop
  | selecting (channel : Option Chosen)
  -- the inner loop
  | attempting (chosen : Chosen)
  | finished (error : Option ApiError)
  -- a draw panics, or the status of an error is read where there is none
  | panicked

structure Upstream where
  (channelID maxAttempts : Int)
  excluded : List Int
  deriving DecidableEq

structure Route where
  param : RetryParam
  state : RouteState := {}
  -- a handler has set `ChannelMeta`
  channelMeta : Bool := false
  newAPIError : Option ApiError := none
  phase : Phase
  upstreams : List Upstream := []

/-- What the environment decides in a step. `getRandomSatisfiedChannel` is not called, since the route has a set of
excluded channels. -/
structure Surroundings where
  rows : Rows
  now : Int
  candidates : String → List Channel
  drawn : Nat → Int
  getRandomSatisfiedChannel : String → String → Nat → String → Random Selected
  retryTimes : Nat
  reliability : Int → Option StoredReliability
  (setupError billingError : Option ApiError)
  -- the error of `GetBodyStorage`, and whether the body is too large
  bodyError : Option (String × Bool)
  -- the result of the handler, after `NormalizeViolationFeeError`
  reply : Option ApiError
  responseCommitted : Bool
  requestContext : Option ContextError
  retrySettings : RetrySettings

section
variable (compile : String → Option (String → Bool))

def Surroundings.routing (around : Surroundings) : Routing where
  getRandomSatisfiedChannel := around.getRandomSatisfiedChannel
  getRandomSatisfiedChannelWithOptions group model requestPath options :=
    getRandomSatisfiedChannelWithOptions compile around.rows around.now group model requestPath options
      (around.candidates group)
  retryTimes := around.retryTimes

/-- An error that is not retried, with the code of a failed selection. -/
def getChannelFailed (message : String) : ApiError := ⟨message, "get_channel_failed", 500, true⟩

variable (request : RouteRequest)

def contextChannel : Chosen where
  channel := { id := request.currentChannelID, type := request.channelType, status := 0, group := "", models := "" }
  reliability := none

def getChannel (around : Surroundings) (route : Route) :
    Option (RetryParam × Except ApiError Chosen) :=
  let setup (param : RetryParam) (channel : Channel) : RetryParam × Except ApiError Chosen :=
    match around.setupError with
    | some error => (param, .error error)
    | none => (param, .ok ⟨channel, around.reliability channel.id⟩)
  if request.minimaxResourceChannelID ≠ 0 then
    match around.rows.table.find request.minimaxResourceChannelID with
    | none => some (route.param, .error (getChannelFailed "record not found"))
    | some channel => some (setup route.param channel)
  else if route.channelMeta = false then some (route.param, .ok (contextChannel request))
  else
    match cacheGetRandomSatisfiedChannel (around.routing compile) around.drawn request.toSelectRequest
        (some route.state.excludedChannelIDs) route.param with
    | none => none
    | some (after, .error error) =>
      some (after, .error (getChannelFailed ("获取分组 " ++ RouteError.selectGroup request.tokenGroup error ++ " 下模型 " ++
        request.modelName ++ " 的可用渠道失败（retry）: " ++ error.message)))
    | some (after, .ok none) =>
      some (after, .error (getChannelFailed ("分组 " ++ request.tokenGroup ++ " 下模型 " ++ request.modelName ++
        " 的可用渠道不存在（retry）")))
    | some (after, .ok (some choice)) => some (setup after choice.channel)

namespace Route

def finish (route : Route) (error : Option ApiError) : Route :=
  { route with newAPIError := error, phase := .finished error }

def enter (around : Surroundings) (route : Route) (chosen : Chosen) : Route :=
  match around.billingError with
  | some error => route.finish (some error)
  | none => { route with phase := .attempting chosen }

variable (request : RouteRequest) (around : Surroundings) (route : Route)

def select (channel : Option Chosen) : Route :=
  if route.state.canSelectMoreChannels = false then route.finish route.newAPIError
  else
    match channel with
    | some chosen => route.enter around chosen
    | none =>
      match getChannel compile request around route with
      | none => { route with phase := .panicked }
      | some (param, .error error) => { route with param }.finish (some (route.newAPIError.getD error))
      | some (param, .ok chosen) => { route with param }.enter around chosen

def send (chosen : Chosen) : Route :=
  { route with
    channelMeta := true
    upstreams := route.upstreams ++
      [⟨chosen.channel.id, chosen.maxAttempts request, route.state.excludedChannelIDs⟩] }

def receive (chosen : Chosen) : Route :=
  match around.reply with
  | none => route.finish none
  | some error =>
    let decision := classifyRelayRetry around.retrySettings around.requestContext (some error) around.responseCommitted
    if request.transparentFailover = false ∨ decision.retryable = false then route.finish (some error)
    else { route with newAPIError := some error, phase := .attempting chosen }

def attempt (chosen : Chosen) : Route :=
  let begun := { route with state := route.state.beginAttempt chosen.channel.id }
  match if begun.state.attempts chosen.channel.id > 1 then around.setupError else none with
  | some error => begun.finish (some error)
  | none =>
    match around.bodyError with
    | some (message, tooLarge) =>
      begun.finish (some ⟨message, "read_request_body_failed", if tooLarge then 413 else 400, true⟩)
    | none => (begun.send request chosen).receive request around chosen

def leave (chosen : Chosen) : Route :=
  match route.newAPIError with
  | none => { route with phase := .panicked }
  | some _ => { route with state := route.state.exclude chosen.channel.id, phase := .selecting none }

def step (around : Surroundings) : Route :=
  match route.phase with
  | .selecting channel => route.select compile request around channel
  | .attempting chosen =>
    if route.state.canAttempt chosen.channel.id (chosen.maxAttempts request) then route.attempt request around chosen
    else route.leave chosen
  | .finished _ | .panicked => route

end Route

/-- The channel that the distributor has chosen is excluded where it is not enabled any more. -/
def startRoute : Route :=
  match if request.currentChannelID > 0 then request.known.find request.currentChannelID else none with
  | none => { param := request.param, phase := .selecting none }
  | some channel =>
    if channel.status ≠ channelStatusEnabled ∧ request.specificChannel = false then
      { param := request.param, state := RouteState.exclude {} channel.id, phase := .selecting none }
    else { param := request.param, phase := .selecting (some ⟨channel, request.reliability channel.id⟩) }

def relay (surroundings : List Surroundings) : Route :=
  surroundings.foldl (Route.step compile request) (startRoute request)

end

end FlowAPI.Relay
