import FlowAPI.Golang.Strings
import Mathlib.Algebra.Order.Ring.Int

/-! Token usage as the text formats report it, the conversions between the reports, the stream messages of the chat,
Claude and Responses formats, and the context that converters share.

A usage record may carry a `BillingUsage` that holds the report it was made from. Every read of such a copy
goes through `CloneBillingUsage`, which clears the billing usage inside it, so the copies are modelled by
records without one. -/

set_option autoImplicit false
namespace FlowAPI.Convert
open Option

structure InputTokenDetails where
  (cachedTokens cachedCreationTokens cacheWriteTokens textTokens audioTokens imageTokens : Int := 0)

structure OutputTokenDetails where
  (textTokens audioTokens imageTokens reasoningTokens : Int := 0)

/-- `dto.Usage` without its `BillingUsage`. -/
structure OpenAICounts where
  (promptTokens completionTokens totalTokens promptCacheHitTokens : Int := 0)
  (usageSemantic usageSource : String := "")
  promptTokensDetails : InputTokenDetails := {}
  completionTokenDetails : OutputTokenDetails := {}
  (inputTokens outputTokens : Int := 0)
  inputTokensDetails : Option InputTokenDetails := none
  (claudeCacheCreation5mTokens claudeCacheCreation1hTokens : Int := 0)
  cost : Option String := none

structure ClaudeCacheCreationUsage where
  (ephemeral5mInputTokens ephemeral1hInputTokens : Int := 0)

/-- `dto.ClaudeUsage` without its `BillingUsage`. -/
structure ClaudeCounts where
  (inputTokens cacheCreationInputTokens cacheReadInputTokens outputTokens : Int := 0)
  cacheCreation : Option ClaudeCacheCreationUsage := none
  (claudeCacheCreation5mTokens claudeCacheCreation1hTokens : Int := 0)
  webSearchRequests : Option Int := none

structure GeminiPromptTokensDetails where
  modality : String
  tokenCount : Int

/-- `dto.GeminiUsageMetadata` without its `BillingUsage`. -/
structure GeminiCounts where
  (promptTokenCount toolUsePromptTokenCount candidatesTokenCount totalTokenCount thoughtsTokenCount : Int := 0)
  (cachedContentTokenCount : Int := 0)
  (promptTokensDetails toolUsePromptTokensDetails candidatesTokensDetails : List GeminiPromptTokensDetails := [])

inductive BillingUsageSource where
  | claudeMessages | geminiChat | oaiChat | oaiResponses
  | other (name : String)
deriving DecidableEq

inductive BillingUsageSemantic where
  | anthropic | gemini | openai
  | other (name : String)
deriving DecidableEq

structure BillingUsage where
  source : BillingUsageSource
  semantic : BillingUsageSemantic
  estimated : Bool := false
  openAIUsage : Option OpenAICounts := none
  claudeUsage : Option ClaudeCounts := none
  geminiUsageMetadata : Option GeminiCounts := none

structure Usage extends OpenAICounts where
  billingUsage : Option BillingUsage := none

structure ClaudeUsage extends ClaudeCounts where
  billingUsage : Option BillingUsage := none

structure GeminiUsageMetadata extends GeminiCounts where
  billingUsage : Option BillingUsage := none

def InputTokenDetails.cacheCreationTokensTotal (details : InputTokenDetails) : Int :=
  max (max details.cachedCreationTokens details.cacheWriteTokens) 0

def InputTokenDetails.isZero (details : InputTokenDetails) : Bool :=
  details.cachedTokens = 0 && details.cachedCreationTokens = 0 && details.cacheWriteTokens = 0 &&
    details.textTokens = 0 && details.imageTokens = 0 && details.audioTokens = 0

def OutputTokenDetails.isZero (details : OutputTokenDetails) : Bool :=
  details.reasoningTokens = 0 && details.textTokens = 0 && details.imageTokens = 0 && details.audioTokens = 0

variable (usage : OpenAICounts)

def hasOpenAIUsageTokens : Bool :=
  !(usage.promptTokens = 0 && usage.completionTokens = 0 && usage.totalTokens = 0 && usage.inputTokens = 0 &&
    usage.outputTokens = 0 && usage.promptCacheHitTokens = 0 && usage.claudeCacheCreation5mTokens = 0 &&
    usage.claudeCacheCreation1hTokens = 0) ||
  !usage.promptTokensDetails.isZero || !usage.completionTokenDetails.isZero || usage.inputTokensDetails.isSome

def newOpenAIBillingUsage (source : BillingUsageSource) (usage : OpenAICounts) : Option BillingUsage :=
  if hasOpenAIUsageTokens usage then some { source, semantic := .openai, openAIUsage := some usage }
  else none

def newOpenAIChatBillingUsage : Option BillingUsage := newOpenAIBillingUsage .oaiChat usage
def newOpenAIResponsesBillingUsage : Option BillingUsage := newOpenAIBillingUsage .oaiResponses usage

def hasClaudeUsageTokens (usage : ClaudeCounts) : Bool :=
  !(usage.inputTokens = 0 && usage.outputTokens = 0 && usage.cacheCreationInputTokens = 0 &&
    usage.cacheReadInputTokens = 0 && usage.claudeCacheCreation5mTokens = 0 &&
    usage.claudeCacheCreation1hTokens = 0) ||
  match usage.cacheCreation with
  | none => false
  | some creation => !(creation.ephemeral5mInputTokens = 0 && creation.ephemeral1hInputTokens = 0)

def newClaudeMessagesBillingUsage (usage : ClaudeCounts) : Option BillingUsage :=
  if hasClaudeUsageTokens usage then
    some { source := .claudeMessages, semantic := .anthropic, claudeUsage := some usage }
  else none

def hasGeminiUsageMetadataTokens (metadata : GeminiCounts) : Bool :=
  !(metadata.promptTokenCount = 0 && metadata.toolUsePromptTokenCount = 0 && metadata.candidatesTokenCount = 0 &&
    metadata.totalTokenCount = 0 && metadata.thoughtsTokenCount = 0 && metadata.cachedContentTokenCount = 0) ||
  metadata.promptTokensDetails.any (·.tokenCount != 0) ||
  metadata.toolUsePromptTokensDetails.any (·.tokenCount != 0) ||
  metadata.candidatesTokensDetails.any (·.tokenCount != 0)

def newGeminiChatBillingUsage (metadata : GeminiCounts) : Option BillingUsage :=
  if hasGeminiUsageMetadataTokens metadata then
    some { source := .geminiChat, semantic := .gemini, geminiUsageMetadata := some metadata }
  else none

def normalizeCacheCreationSplit (totalTokens tokens5m tokens1h : Int) : Int × Int :=
  (tokens5m + max (totalTokens - tokens5m - tokens1h) 0, tokens1h)

variable (usage : Usage)

def openAIBillingUsageForClaude : Option BillingUsage :=
  match usage.billingUsage with
  | some billing =>
    if billing.openAIUsage.isSome &&
        (billing.source = .oaiChat || billing.source = .oaiResponses || billing.semantic = .openai) then
      some billing
    else newOpenAIChatBillingUsage usage.toOpenAICounts
  | none => newOpenAIChatBillingUsage usage.toOpenAICounts

def claudeUsageFromCounts : ClaudeUsage :=
  let details := usage.promptTokensDetails
  let split := normalizeCacheCreationSplit details.cachedCreationTokens usage.claudeCacheCreation5mTokens
    usage.claudeCacheCreation1hTokens
  let cacheCreationTokens := details.cacheCreationTokensTotal
  { -- Native cache writes are counted inside the prompt tokens, Claude's input tokens leave them out.
    inputTokens :=
      if details.cacheWriteTokens > 0 then max (usage.promptTokens - details.cachedTokens - cacheCreationTokens) 0
      else usage.promptTokens
    outputTokens := usage.completionTokens
    cacheCreationInputTokens := cacheCreationTokens
    cacheReadInputTokens := details.cachedTokens
    cacheCreation := if split.1 > 0 || split.2 > 0 then some ⟨split.1, split.2⟩ else none
    billingUsage := openAIBillingUsageForClaude usage }

def buildClaudeUsageFromOpenAIUsage : Option Usage → Option ClaudeUsage
  | none => none
  | some usage =>
    match usage.billingUsage with
    | some { source, semantic, claudeUsage := some claude, .. } =>
      if source = .claudeMessages || semantic = .anthropic then some { toClaudeCounts := claude }
      else some (claudeUsageFromCounts usage)
    | _ => some (claudeUsageFromCounts usage)

def usageFromChatUsage (source : Usage) : Usage :=
  { usageSemantic := source.usageSemantic, usageSource := source.usageSource
    billingUsage := source.billingUsage.orElse fun _ => newOpenAIChatBillingUsage source.toOpenAICounts
    cost := source.cost
    promptTokens := source.promptTokens
    inputTokens := source.promptTokens
    completionTokens := source.completionTokens
    outputTokens := source.completionTokens
    totalTokens :=
      if source.totalTokens ≠ 0 then source.totalTokens else source.promptTokens + source.completionTokens
    inputTokensDetails := if source.promptTokensDetails.isZero then none else some source.promptTokensDetails
    completionTokenDetails := if source.completionTokenDetails.isZero then {} else source.completionTokenDetails
    claudeCacheCreation5mTokens := source.claudeCacheCreation5mTokens
    claudeCacheCreation1hTokens := source.claudeCacheCreation1hTokens }

def usageFromResponsesUsage : Option Usage → Usage
  | none => {}
  | some source =>
    { usageSemantic := source.usageSemantic, usageSource := source.usageSource
      billingUsage := source.billingUsage.orElse fun _ => newOpenAIResponsesBillingUsage source.toOpenAICounts
      cost := source.cost
      promptTokens := source.inputTokens
      inputTokens := source.inputTokens
      completionTokens := source.outputTokens
      outputTokens := source.outputTokens
      totalTokens := if source.totalTokens ≠ 0 then source.totalTokens else source.inputTokens + source.outputTokens
      promptTokensDetails := source.inputTokensDetails.getD {}
      completionTokenDetails := if source.completionTokenDetails.isZero then {} else source.completionTokenDetails
      claudeCacheCreation5mTokens := source.claudeCacheCreation5mTokens
      claudeCacheCreation1hTokens := source.claudeCacheCreation1hTokens }

def cacheCreationTokensForOpenAIUsage : Int :=
  let split := usage.claudeCacheCreation5mTokens + usage.claudeCacheCreation1hTokens
  if split = 0 then usage.promptTokensDetails.cachedCreationTokens
  else max usage.promptTokensDetails.cachedCreationTokens split

def buildOpenAIStyleUsageFromClaudeUsage : Usage :=
  let split := normalizeCacheCreationSplit usage.promptTokensDetails.cachedCreationTokens
    usage.claudeCacheCreation5mTokens usage.claudeCacheCreation1hTokens
  let cacheCreationTokens := cacheCreationTokensForOpenAIUsage usage
  let totalInputTokens := usage.promptTokens + usage.promptTokensDetails.cachedTokens + cacheCreationTokens
  { usage with
    claudeCacheCreation5mTokens := split.1, claudeCacheCreation1hTokens := split.2
    promptTokensDetails := { usage.promptTokensDetails with cacheWriteTokens := cacheCreationTokens }
    promptTokens := totalInputTokens, inputTokens := totalInputTokens
    totalTokens := totalInputTokens + usage.completionTokens, usageSemantic := "openai", usageSource := "anthropic" }

def usageFromClaudeAPIUsage (usage : ClaudeUsage) : Usage :=
  buildOpenAIStyleUsageFromClaudeUsage
    { promptTokens := usage.inputTokens, completionTokens := usage.outputTokens, usageSemantic := "anthropic"
      usageSource := "anthropic"
      billingUsage := usage.billingUsage.orElse fun _ => newClaudeMessagesBillingUsage usage.toClaudeCounts
      promptTokensDetails :=
        { cachedTokens := usage.cacheReadInputTokens, cachedCreationTokens := usage.cacheCreationInputTokens }
      claudeCacheCreation5mTokens := (usage.cacheCreation.map (·.ephemeral5mInputTokens)).getD 0
      claudeCacheCreation1hTokens := (usage.cacheCreation.map (·.ephemeral1hInputTokens)).getD 0 }

def modalityTokens (modality : String) (details : List GeminiPromptTokensDetails) : Int :=
  ((details.filter (·.modality == modality)).map (·.tokenCount)).sum

def usageFromGeminiMetadata (metadata : Option GeminiUsageMetadata) (fallbackPromptTokens : Int) : Option Usage :=
  match metadata with
  | none =>
    if fallbackPromptTokens ≤ 0 then none
    else some
      { promptTokens := fallbackPromptTokens, promptTokensDetails := { textTokens := fallbackPromptTokens } }
  | some metadata =>
    let counted := metadata.promptTokenCount + metadata.toolUsePromptTokenCount
    let promptTokens := if counted ≤ 0 && fallbackPromptTokens > 0 then fallbackPromptTokens else counted
    let completionTokens := metadata.candidatesTokenCount + metadata.thoughtsTokenCount
    let prompt := metadata.promptTokensDetails ++ metadata.toolUsePromptTokensDetails
    let audioTokens := modalityTokens "AUDIO" prompt
    let textTokens := modalityTokens "TEXT" prompt
    some
      { promptTokens
        completionTokens :=
          if metadata.totalTokenCount > 0 && completionTokens ≤ 0 then metadata.totalTokenCount - promptTokens
          else completionTokens
        totalTokens := metadata.totalTokenCount
        billingUsage := metadata.billingUsage.orElse fun _ => newGeminiChatBillingUsage metadata.toGeminiCounts
        completionTokenDetails :=
          { reasoningTokens := metadata.thoughtsTokenCount
            imageTokens := modalityTokens "IMAGE" metadata.candidatesTokensDetails
            audioTokens := modalityTokens "AUDIO" metadata.candidatesTokensDetails
            textTokens := modalityTokens "TEXT" metadata.candidatesTokensDetails }
        promptTokensDetails :=
          { cachedTokens := metadata.cachedContentTokenCount, audioTokens
            imageTokens := modalityTokens "IMAGE" prompt
            textTokens :=
              if promptTokens > 0 && textTokens = 0 && audioTokens = 0 then promptTokens else textTokens } }

/-- Claude's three input counts make up the prompt, and the two tiers of a cache write its count. -/
def ClaudeUsage.AddsUp (usage : ClaudeUsage) (promptTokens : Int) : Prop :=
  usage.inputTokens + usage.cacheReadInputTokens + usage.cacheCreationInputTokens = promptTokens ∧
    ∀ split ∈ usage.cacheCreation,
      split.ephemeral5mInputTokens + split.ephemeral1hInputTokens = usage.cacheCreationInputTokens

section
variable {usage : Usage}

theorem buildClaudeUsage_unattached (unattached : ∀ billing ∈ usage.billingUsage, billing.claudeUsage = none) :
    buildClaudeUsageFromOpenAIUsage (some usage) = some (claudeUsageFromCounts usage) := by
  simp only [buildClaudeUsageFromOpenAIUsage]
  split
  next attached => cases unattached _ attached
  · rfl

theorem cacheCreation_sums (fiveMinutes : 0 ≤ usage.claudeCacheCreation5mTokens)
    (oneHour : 0 ≤ usage.claudeCacheCreation1hTokens) (total : Int) :
    (∀ split ∈ (claudeUsageFromCounts usage).cacheCreation,
      split.ephemeral5mInputTokens + split.ephemeral1hInputTokens = total) ↔
      let tiers := max usage.promptTokensDetails.cachedCreationTokens
        (usage.claudeCacheCreation5mTokens + usage.claudeCacheCreation1hTokens)
      0 < tiers → tiers = total := by
  unfold claudeUsageFromCounts
  simp only [normalizeCacheCreationSplit, mem_def, ite_none_right_eq_some, some.injEq,
    and_imp, forall_apply_eq_imp_iff, gt_iff_lt, Bool.or_eq_true, decide_eq_true_eq]
  omega

end

/-- The counts add up exactly when native writes were
reported, or nothing was cached or created at all, and the tiers do not fall short of the native writes. -/
theorem built_usage_adds_up_iff (usage : Usage)
    (counts : ∀ count ∈ [usage.promptTokens, usage.promptTokensDetails.cachedTokens,
      usage.promptTokensDetails.cachedCreationTokens, usage.promptTokensDetails.cacheWriteTokens,
      usage.claudeCacheCreation5mTokens, usage.claudeCacheCreation1hTokens], 0 ≤ count)
    (unattached : ∀ billing ∈ usage.billingUsage, billing.claudeUsage = none)
    (within : usage.promptTokensDetails.cachedTokens + usage.promptTokensDetails.cacheWriteTokens ≤
      usage.promptTokens) :
    (∃ claude, buildClaudeUsageFromOpenAIUsage (some usage) = some claude ∧ claude.AddsUp usage.promptTokens) ↔
      let details := usage.promptTokensDetails
      let tiers := max details.cachedCreationTokens
        (usage.claudeCacheCreation5mTokens + usage.claudeCacheCreation1hTokens)
      (if 0 < details.cacheWriteTokens then details.cachedTokens + details.cachedCreationTokens ≤ usage.promptTokens
        else details.cachedTokens = 0 ∧ details.cachedCreationTokens = 0) ∧
      (0 < tiers → tiers = max details.cachedCreationTokens details.cacheWriteTokens) := by
  simp only [List.forall_mem_cons, List.not_mem_nil, false_implies, implies_true, and_true] at counts
  obtain ⟨_, cached, created, written, fiveMinutes, oneHour⟩ := counts
  rw [buildClaudeUsage_unattached unattached]
  simp only [some.injEq, exists_eq_left', ClaudeUsage.AddsUp]
  apply and_congr
  · simp only [claudeUsageFromCounts, InputTokenDetails.cacheCreationTokensTotal]
    split_ifs <;> omega
  · have total : (claudeUsageFromCounts usage).cacheCreationInputTokens =
        max usage.promptTokensDetails.cachedCreationTokens usage.promptTokensDetails.cacheWriteTokens := by
      simp only [claudeUsageFromCounts, InputTokenDetails.cacheCreationTokensTotal]
      omega
    rw [total]
    exact cacheCreation_sums fiveMinutes oneHour _

theorem built_usage_adds_up_written : ∃ claude, buildClaudeUsageFromOpenAIUsage
        (some { promptTokens := 10, promptTokensDetails := { cachedTokens := 4, cacheWriteTokens := 3 } }) =
      some claude ∧ claude.AddsUp 10 :=
  (built_usage_adds_up_iff { promptTokens := 10, promptTokensDetails := { cachedTokens := 4, cacheWriteTokens := 3 } }
    (by decide) (by simp) (by decide)).mpr (by decide)

/-- Ten prompt tokens of which four were cached are reported as ten uncached and four cached ones. -/
theorem cached_prompt_counted_twice : ∃ claude, buildClaudeUsageFromOpenAIUsage
        (some { promptTokens := 10, promptTokensDetails := { cachedTokens := 4 } }) = some claude ∧
      claude.inputTokens + claude.cacheReadInputTokens + claude.cacheCreationInputTokens = 14 :=
  ⟨_, rfl, by decide⟩

structure FunctionResponse where
  (name arguments : String := "")

structure ToolCallResponse where
  index : Option Int := none
  id : String := ""
  function : FunctionResponse := {}

structure ChatDelta where
  (content reasoningContent reasoning : Option String := none)
  role : String := ""
  toolCalls : List ToolCallResponse := []

def ChatDelta.getContentString (delta : ChatDelta) : String := delta.content.getD ""
def ChatDelta.getReasoningContent (delta : ChatDelta) : String :=
  (delta.reasoningContent.orElse fun _ => delta.reasoning).getD ""

structure ChatChoice where
  delta : ChatDelta := {}
  finishReason : Option String := none
  index : Int := 0

def ChatChoice.finish (choice : ChatChoice) : String := choice.finishReason.getD ""

/-- `dto.ChatCompletionsStreamResponse`. -/
structure ChatChunk where
  id : String := ""
  created : Int := 0
  model : String := ""
  choices : List ChatChoice := []
  usage : Option Usage := none

def ChatChunk.isToolCall (chunk : ChatChunk) : Bool :=
  match chunk.choices with
  | [] => false
  | choice :: _ => !choice.delta.toolCalls.isEmpty

def ChatChunk.isFinished (chunk : ChatChunk) : Bool :=
  match chunk.choices with
  | [] => false
  | choice :: _ => choice.finish != ""

inductive ClaudeType where
  | message | messageStart | contentBlockStart | contentBlockDelta | contentBlockStop | messageDelta | messageStop
  | other (name : String)
deriving DecidableEq

inductive MediaType where
  | message | text | thinking | toolUse | textDelta | thinkingDelta | inputJsonDelta | signatureDelta
  | other (name : String)
deriving DecidableEq

structure ClaudeMediaMessage where
  type : MediaType := .other ""
  text : Option String := none
  model : String := ""
  usage : Option ClaudeUsage := none
  (stopReason partialJson : Option String := none)
  role : String := ""
  thinking : Option String := none
  (id name : String := "")

structure ClaudeResponse where
  type : ClaudeType
  model : String := ""
  usage : Option ClaudeUsage := none
  index : Option Int := none
  (contentBlock delta message : Option ClaudeMediaMessage := none)

inductive LastMessageType where | none | text | tools | thinking
deriving DecidableEq

/-- `convmeta.ClaudeConvertInfo`, the state of a conversion from chat chunks to Claude responses. -/
structure ClaudeConvertInfo where
  lastMessagesType : LastMessageType := .none
  index : Int := 0
  usage : Option Usage := none
  finishReason : String := ""
  done : Bool := false
  (toolCallBaseIndex toolCallMaxIndexOffset : Int := 0)

/-- What the stream converters read of a `convmeta.Meta`. -/
structure Meta where
  channelMetaAttached : Bool := false
  upstreamModelName : String := ""
  estimatePromptTokens : Int := 0
  claudeConvertInfo : ClaudeConvertInfo := {}
  sendResponseCount : Nat := 0

def Meta.incrSendResponseCount (info : Meta) : Meta := { info with sendResponseCount := info.sendResponseCount + 1 }

open Golang

/-- A `json.RawMessage`, by what its readers tell apart: no bytes, `null`, a string, or any other value. -/
inductive RawMessage where
  | absent | null
  | text (value : String)
  | other (raw : String)
deriving DecidableEq

def jsonRawMessageToString : RawMessage → String
  | .absent | .null => ""
  | .text value => value
  | .other raw => raw

/-- `Unmarshal` into a string, where a failure leaves the string empty. -/
def RawMessage.stringValue : RawMessage → String
  | .text value => value
  | .absent | .null | .other _ => ""

inductive ResponsesEventType where
  | created | completed | done | incomplete | failed | error
  | outputTextDelta | outputTextDone
  | outputItemAdded | outputItemDone
  | functionArgsDelta | functionArgsDone
  | customToolInputDelta | customToolInputDone
  | reasoningSummaryDelta | reasoningSummaryDone
  | reasoningTextDelta | reasoningTextDone
  | other (name : String)
deriving DecidableEq

inductive OutputType where
  | message | reasoning | functionCall | customToolCall
  | other (name : String)
deriving DecidableEq

inductive OutputContentType where
  | outputText | summaryText
  | other (name : String)
deriving DecidableEq

structure ResponsesOutputContent where
  type : OutputContentType
  text : String := ""

structure ResponsesOutput where
  type : OutputType
  (id status role : String := "")
  content : List ResponsesOutputContent := []
  (callId name : String := "")
  arguments : RawMessage := .absent

def ResponsesOutput.argumentsString (output : ResponsesOutput) : String := jsonRawMessageToString output.arguments

structure IncompleteDetails where
  reason : String := ""

structure OpenAIResponsesResponse where
  id : String := ""
  createdAt : Int := 0
  status : RawMessage := .absent
  incompleteDetails : Option IncompleteDetails := none
  model : String := ""
  output : List ResponsesOutput := []
  usage : Option Usage := none

structure ResponsesReasoningSummaryPart where
  type : OutputContentType
  text : String := ""

structure ResponsesStreamResponse where
  type : ResponsesEventType
  response : Option OpenAIResponsesResponse := none
  delta : String := ""
  item : Option ResponsesOutput := none
  (outputIndex contentIndex summaryIndex : Option Int := none)
  itemID : String := ""
  part : Option ResponsesReasoningSummaryPart := none

def responseStatusString (response : OpenAIResponsesResponse) : String := trimSpace response.status.stringValue

def responsesStatusFromChatFinishReason (finishReason : String) : String × Option IncompleteDetails :=
  match trimSpace finishReason with
  | "length" => ("incomplete", some ⟨"max_output_tokens"⟩)
  | "content_filter" => ("incomplete", some ⟨"content_filter"⟩)
  | _ => ("completed", none)

def responsesFinishReasonFromStatus : Option OpenAIResponsesResponse → Option String
  | none => none
  | some response =>
    if responseStatusString response ≠ "incomplete" then none
    else if (response.incompleteDetails.map fun details => trimSpace details.reason).getD "" = "content_filter" then
      some "content_filter"
    else some "length"

def ensureIncompleteResponse (response : Option OpenAIResponsesResponse) : OpenAIResponsesResponse :=
  let response := response.getD {}
  if response.status = .absent then { response with status := .text "incomplete" } else response

def isResponsesToolOutputType (type : OutputType) : Bool := type = .functionCall || type = .customToolCall

end FlowAPI.Convert
