import FlowAPI.Golang.Strings
import Mathlib.Tactic.NormNum

/-! Channels as their selection sees them: `model/channel.go`, `relaykit/dto/model_redirect.go`,
`relaykit/dto/channel_settings.go`, `relaykit/dto/channel_reliability.go`.

A channel's settings and its model mapping are JSON texts. They are given here as what
they parse to. Regular expressions are a parameter: a pattern that compiles is the
predicate it denotes. -/

set_option autoImplicit false
namespace FlowAPI.Channels
open Golang

inductive ModelRedirectMatchType where
  | exact | first | last | contains | regex | other
  deriving DecidableEq, Repr

structure ModelRedirectRule where
  matchType : ModelRedirectMatchType
  (source target : String)
  deriving DecidableEq, Repr

structure AdvancedCustomRoute where
  incomingPath : String
  models : List String
  deriving DecidableEq, Repr

structure AdvancedCustomConfig where
  routes : List AdvancedCustomRoute
  deriving DecidableEq, Repr

def channelStatusEnabled : Int := 1
def channelStatusAutoDisabled : Int := 3
def channelTypeAdvancedCustom : Int := 58
def int (value : Int) : Int := value.bmod (2 ^ 64)

theorem int_of_fits {value : Int} (lower : -2 ^ 63 ≤ value) (upper : value < 2 ^ 63) : int value = value := by
  exact Int.bmod_eq_of_le (by omega) (by omega)

theorem int_lt (value : Int) : int value < 2 ^ 63 := by
  have upper : value.bmod (2 ^ 64) < ((2 ^ 64 : Nat) + 1 : Int) / 2 := Int.bmod_lt (Nat.two_pow_pos 64)
  exact upper

/-- `modelRedirectRules` is missing where the mapping does not parse, and `autoBanUntil` is what `GetAutoBanUntil`
finds in `other_info`. -/
structure Channel where
  id : Int
  type : Int := 1
  status : Int := channelStatusEnabled
  (group models : String)
  priority : Option Int := none
  weight : Option UInt64 := none
  modelRedirectRules : Option (List ModelRedirectRule) := some []
  advancedCustom : Option AdvancedCustomConfig := none
  autoBanUntil : Int := 0
  deriving DecidableEq

section
variable (compile : String → Option (String → Bool))

def regexMatches (pattern text : String) : Bool :=
  match compile pattern with
  | some accepts => accepts text
  | none => false

def ModelRedirectRule.matches (rule : ModelRedirectRule) (model : String) : Bool :=
  match rule.matchType with
  | .exact => model == rule.source
  | .first => startsWith model rule.source
  | .last => endsWith model rule.source
  | .contains => containsText model rule.source
  | .regex => regexMatches compile rule.source model
  | .other => false

def matchModelRedirect (rules : List ModelRedirectRule) (model : String) : Option String :=
  (rules.find? fun rule => rule.matches compile model).map ModelRedirectRule.target
def advancedCustomModelPlaceholder : String := "\x7bmodel\x7d"
def advancedCustomModelRegexPrefix : String := "re:"

def matchAdvancedCustomIncomingPathTemplate (configuredPath requestPath : String) : Bool :=
  if !containsText configuredPath advancedCustomModelPlaceholder then configuredPath == requestPath
  else
    match splitText configuredPath advancedCustomModelPlaceholder with
    | [before, after] =>
      if !startsWith requestPath before || !endsWith requestPath after then false
      else
        let model := trimSuffix (trimPrefix requestPath before) after
        model != "" && !containsText model "/"
    | _ => false

def matchAdvancedCustomIncomingPath (configuredPath requestPath : String) : Bool :=
  matchAdvancedCustomIncomingPathTemplate configuredPath requestPath ||
    (containsText configuredPath ":generateContent" &&
      matchAdvancedCustomIncomingPathTemplate
        (replaceFirst configuredPath ":generateContent" ":streamGenerateContent") requestPath)

def normalizeAdvancedCustomRouteModels (models : List String) : List String := (models.map trimSpace).filter (· != "")

def matchAdvancedCustomRouteModelRule (rule model : String) : Bool :=
  if !startsWith rule advancedCustomModelRegexPrefix then rule == model
  else
    let pattern := trimPrefix rule advancedCustomModelRegexPrefix
    pattern != "" && regexMatches compile pattern model

def matchAdvancedCustomRouteModel (models : List String) (model : String) : Bool :=
  match normalizeAdvancedCustomRouteModels models with
  | [] => true
  | allowed => allowed.any fun rule => matchAdvancedCustomRouteModelRule compile rule model

namespace AdvancedCustomConfig

def matchPathForModel (config : AdvancedCustomConfig) (requestPath model : String) : Option AdvancedCustomRoute :=
  config.routes.find? fun route =>
    matchAdvancedCustomIncomingPath (trimSpace route.incomingPath) requestPath &&
      matchAdvancedCustomRouteModel compile route.models (trimSpace model)

def supportsPathForModel (config : AdvancedCustomConfig) (requestPath model : String) : Bool :=
  (config.matchPathForModel compile requestPath model).isSome

end AdvancedCustomConfig

namespace Channel

variable (channel : Channel)

def getPriority : Int := channel.priority.getD 0

/-- `int(*channel.Weight)`: a weight from 2^63 on is a negative integer. -/
def getWeight : Int :=
  match channel.weight with
  | none => 0
  | some weight => int weight.toNat

def getModels : List String := if channel.models = "" then [] else split (trim channel.models ',') ','
def getGroups : List String := if channel.group = "" then [] else (split (trim channel.group ',') ',').map trimSpace

def supportsModel (modelName : String) : Bool :=
  let name := trimSpace modelName
  if name = "" then false
  else if channel.getModels.any fun supported => trimSpace supported == name then true
  else
    match channel.modelRedirectRules with
    | none => false
    | some rules => (matchModelRedirect compile rules name).isSome

def supportsRequestPath (requestPath modelName : String) : Bool :=
  if channel.type ≠ channelTypeAdvancedCustom then true
  else
    match channel.advancedCustom with
    | none => false
    | some config =>
      if config.supportsPathForModel compile requestPath modelName then true
      else
        match channel.modelRedirectRules with
        | none => false
        | some rules =>
          match matchModelRedirect compile rules modelName with
          | none => false
          | some target => config.supportsPathForModel compile requestPath target

def inGroup (group : String) : Bool := channel.getGroups.any fun candidateGroup => trimSpace candidateGroup == group

end Channel

end

def handleThinkingBudgetModel (name first wildcard : String) : String :=
  if startsWith name first && containsText name "-thinking-" then wildcard else name

/-- The name under which models that differ only in a budget or in a suffix are listed. -/
def formatMatchingModelName (name : String) : String :=
  let name :=
    if startsWith name "gemini-2.5-flash-lite" then
      handleThinkingBudgetModel name "gemini-2.5-flash-lite" "gemini-2.5-flash-lite-thinking-*"
    else if startsWith name "gemini-2.5-flash" then
      handleThinkingBudgetModel name "gemini-2.5-flash" "gemini-2.5-flash-thinking-*"
    else if startsWith name "gemini-2.5-pro" then
      handleThinkingBudgetModel name "gemini-2.5-pro" "gemini-2.5-pro-thinking-*"
    else name
  let name := if startsWith name "gpt-4-gizmo" then "gpt-4-gizmo-*" else name
  if startsWith name "gpt-4o-gizmo" then "gpt-4o-gizmo-*" else name

def defaultChannelMaxAttempts : Int := 2
def defaultAutoBanThreshold : Int := 5
def defaultAutoBanDurationSeconds : Int := 30 * 60
def maxChannelMaxAttempts : Int := 10
def maxAutoBanThreshold : Int := 100
def maxAutoBanDurationSeconds : Int := 24 * 60 * 60

structure ChannelReliabilitySettings where
  (streamingIdleTimeoutSeconds nonStreamingTimeoutSeconds : Option Int := none)
  (maxAttempts autoBanThreshold autoBanDurationSecs : Int := 0)

def defaultChannelReliabilitySettings : ChannelReliabilitySettings :=
  { maxAttempts := defaultChannelMaxAttempts, autoBanThreshold := defaultAutoBanThreshold
    autoBanDurationSecs := defaultAutoBanDurationSeconds }

namespace ChannelReliabilitySettings

def withDefaults (settings : ChannelReliabilitySettings) : ChannelReliabilitySettings :=
  let defaults := defaultChannelReliabilitySettings
  { settings with
    maxAttempts := if settings.maxAttempts = 0 then defaults.maxAttempts else settings.maxAttempts
    autoBanThreshold := if settings.autoBanThreshold = 0 then defaults.autoBanThreshold else settings.autoBanThreshold
    autoBanDurationSecs :=
      if settings.autoBanDurationSecs = 0 then defaults.autoBanDurationSecs else settings.autoBanDurationSecs }

def checkTimeout (name : String) (value : Option Int) (min max : Int) : Option String :=
  match value with
  | none => none
  | some seconds =>
    if seconds ≠ 0 ∧ (seconds < min ∨ seconds > max) then
      some ("reliability." ++ name ++ " must be 0 or between " ++ toString min ++ " and " ++ toString max)
    else none

def checkBound (name : String) (value max : Int) : Option String :=
  if value < 1 ∨ value > max then some ("reliability." ++ name ++ " must be between 1 and " ++ toString max) else none

def validate (settings : ChannelReliabilitySettings) : Option String :=
  let filled := settings.withDefaults
  (checkTimeout "streaming_idle_timeout_seconds" settings.streamingIdleTimeoutSeconds 60 600).or <|
    (checkTimeout "non_streaming_timeout_seconds" settings.nonStreamingTimeoutSeconds 60 1800).or <|
      (checkBound "max_attempts" filled.maxAttempts maxChannelMaxAttempts).or <|
        (checkBound "auto_ban_threshold" filled.autoBanThreshold maxAutoBanThreshold).or <|
          checkBound "auto_ban_duration_seconds" filled.autoBanDurationSecs maxAutoBanDurationSeconds

theorem bounds_of_checkBound {name : String} {value max : Int} (passed : checkBound name value max = none) :
    1 ≤ value ∧ value ≤ max := by
  unfold checkBound at passed
  split_ifs at passed
  omega

theorem maxAttempts_of_validate {settings : ChannelReliabilitySettings} (valid : settings.validate = none) :
    1 ≤ settings.withDefaults.maxAttempts ∧ settings.withDefaults.maxAttempts ≤ maxChannelMaxAttempts := by
  simp only [validate, Option.or_eq_none_iff] at valid
  exact bounds_of_checkBound valid.2.2.1

end ChannelReliabilitySettings

def getReliabilitySettings (reliability : Option ChannelReliabilitySettings) : ChannelReliabilitySettings :=
  match reliability with
  | none => defaultChannelReliabilitySettings
  | some settings => settings.withDefaults

theorem getReliabilitySettings_maxAttempts {reliability : Option ChannelReliabilitySettings}
    (valid : ∀ settings, reliability = some settings → settings.validate = none) :
    1 ≤ (getReliabilitySettings reliability).maxAttempts ∧
      (getReliabilitySettings reliability).maxAttempts ≤ maxChannelMaxAttempts := by
  cases reliability with
  | none => exact ⟨by decide, by decide⟩
  | some settings => exact ChannelReliabilitySettings.maxAttempts_of_validate (valid settings rfl)

end FlowAPI.Channels
