import FlowAPI.Channels.Record
import FlowAPI.Convert.Registry
import FlowAPI.Golang.Float

/-! The length of a request's input: `service/text_quota.go`, `service/tiered_settle.go`.

A settled request tells the length of its input twice. `channelCacheSample` reports it for the hit rate of the cache,
and `BuildTieredTokenParams` for the choice of a price tier. They add the counts of the cache where the prompt tokens
leave them out, and do not take the counts from the same fields.
-/

set_option autoImplicit false
namespace FlowAPI.TextQuota
open Golang
open FlowAPI.Channels (int int_of_fits)
open FlowAPI.Convert (OpenAICounts RelayFormat)

def channelTypeOpenRouter : Int := 20

structure PriceData where
  usePrice : Bool := false
  (modelRatio completionRatio cacheRatio cacheCreationRatio : Rat := 1)

/-- `channelType` is missing where `ChannelMeta` is. The empty format is `.other ""`. -/
structure RelayInfo where
  relayFormat : RelayFormat
  finalRequestRelayFormat : RelayFormat := .other ""
  requestConversionChain : List RelayFormat := []
  originModelName : String := ""
  channelType : Option Int := none
  priceData : PriceData := {}

def RelayInfo.getFinalRequestRelayFormat (info : RelayInfo) : RelayFormat :=
  if info.finalRequestRelayFormat ≠ .other "" then info.finalRequestRelayFormat
  else info.requestConversionChain.getLast?.getD info.relayFormat

def usageSemanticFromUsage (info : RelayInfo) (usage : OpenAICounts) : String :=
  if usage.usageSemantic ≠ "" then usage.usageSemantic
  else if info.getFinalRequestRelayFormat = .claude then "anthropic"
  else "openai"

def isLegacyClaudeDerivedOpenAIUsage (info : RelayInfo) (usage : OpenAICounts) : Bool :=
  if info.getFinalRequestRelayFormat = .claude then false
  else if usage.usageSource ≠ "" ∨ usage.usageSemantic ≠ "" then false
  else decide (usage.claudeCacheCreation5mTokens > 0) || decide (usage.claudeCacheCreation1hTokens > 0)

structure Summary where
  (promptTokens completionTokens totalTokens cacheTokens cacheCreationTokens cacheCreationTokens5m : Int)
  (cacheCreationTokens1h imageTokens audioTokens : Int)
  (isClaudeUsageSemantic legacyClaudeDerived : Bool)
  usageSemantic : String

/-- The default ratios of models, and the estimate of the cache writes from the cost that OpenRouter reports. -/
structure Pricing where
  defaultModelRatio : String → Option Rat
  calcOpenRouterCacheCreateTokens : OpenAICounts → PriceData → Int

section
variable (pricing : Pricing) (info : RelayInfo) (usage : OpenAICounts)

def hasCustomModelRatio (modelName : String) (currentRatio : Rat) : Bool :=
  match pricing.defaultModelRatio modelName with
  | none => true
  | some defaultRatio => decide (currentRatio ≠ defaultRatio)

/-- The cache writes of a request to Claude through OpenRouter, where `promptTokens` are left. A cost that was decoded
is never equal to the integer 0 it is compared with. -/
def openRouterCacheCreationTokens (promptTokens : Int) : Int :=
  let reported := usage.promptTokensDetails.cacheCreationTokensTotal
  let isUsingCustomSettings := info.priceData.usePrice ||
    hasCustomModelRatio pricing info.originModelName info.priceData.modelRatio
  if reported = 0 ∧ info.priceData.cacheCreationRatio ≠ 1 ∧ isUsingCustomSettings = false then
    let maybeCacheCreationTokens := pricing.calcOpenRouterCacheCreateTokens usage info.priceData
    if maybeCacheCreationTokens ≥ 0 ∧ promptTokens ≥ maybeCacheCreationTokens then maybeCacheCreationTokens
    else reported
  else reported

def isOpenRouterClaudeBilling : Bool :=
  decide (info.channelType = some channelTypeOpenRouter) && decide (usageSemanticFromUsage info usage = "anthropic")

def calculateTextQuotaSummary : Summary :=
  let summary : Summary :=
    { promptTokens := usage.promptTokens, completionTokens := usage.completionTokens
      totalTokens := int (usage.promptTokens + usage.completionTokens)
      cacheTokens := usage.promptTokensDetails.cachedTokens
      cacheCreationTokens := usage.promptTokensDetails.cacheCreationTokensTotal
      cacheCreationTokens5m := usage.claudeCacheCreation5mTokens
      cacheCreationTokens1h := usage.claudeCacheCreation1hTokens, imageTokens := usage.promptTokensDetails.imageTokens
      audioTokens := usage.promptTokensDetails.audioTokens
      isClaudeUsageSemantic := decide (usageSemanticFromUsage info usage = "anthropic")
      legacyClaudeDerived := isLegacyClaudeDerivedOpenAIUsage info usage
      usageSemantic := usageSemanticFromUsage info usage }
  if isOpenRouterClaudeBilling info usage then
    let promptTokens := int (usage.promptTokens - usage.promptTokensDetails.cachedTokens)
    let cacheCreationTokens := openRouterCacheCreationTokens pricing info usage promptTokens
    { summary with promptTokens := int (promptTokens - cacheCreationTokens), cacheCreationTokens }
  else summary

end

def cacheWriteTokensTotal (summary : Summary) : Int :=
  if summary.cacheCreationTokens5m > 0 ∨ summary.cacheCreationTokens1h > 0 then
    let splitCacheWriteTokens := int (summary.cacheCreationTokens5m + summary.cacheCreationTokens1h)
    if summary.cacheCreationTokens > splitCacheWriteTokens then summary.cacheCreationTokens else splitCacheWriteTokens
  else summary.cacheCreationTokens

structure ChannelCacheSample where
  (cacheReadTokens cacheWriteTokens cacheInputTokens : Int)

def channelCacheSample (summary : Summary) : ChannelCacheSample :=
  let writeTokens := cacheWriteTokensTotal summary
  { cacheReadTokens := summary.cacheTokens, cacheWriteTokens := writeTokens
    cacheInputTokens :=
      if summary.isClaudeUsageSemantic || summary.legacyClaudeDerived then
        int (int (summary.promptTokens + summary.cacheTokens) + writeTokens)
      else summary.promptTokens }

/-- `billingexpr.TokenParams`, whose values are floats. -/
structure TokenParams where
  (p c len cr cc cc1h img imgO ai ao : Int)

/-- What is left of a float after the counts that the expression prices by a variable of their own. -/
def exclude (usedVars : String → Bool) (total : Int) (priced : List (String × Int)) : Int :=
  priced.foldl (fun rest entry => if usedVars entry.1 then float64 (rest - entry.2) else rest) total

variable (usage : OpenAICounts)

def buildTieredTokenParams (isClaudeUsageSemantic : Bool) (usedVars : String → Bool) :
    TokenParams :=
  let tagged := decide (usage.usageSemantic = "anthropic")
  let p := float64 usage.promptTokens
  let c := float64 usage.completionTokens
  let cr := float64 usage.promptTokensDetails.cachedTokens
  let cc5m :=
    if tagged then float64 usage.claudeCacheCreation5mTokens
    else float64 usage.promptTokensDetails.cacheCreationTokensTotal
  let cc1h := if tagged then float64 usage.claudeCacheCreation1hTokens else 0
  let img := float64 usage.promptTokensDetails.imageTokens
  let ai := float64 usage.promptTokensDetails.audioTokens
  let imgO := float64 usage.completionTokenDetails.imageTokens
  let ao := float64 usage.completionTokenDetails.audioTokens
  let inputLen := if isClaudeUsageSemantic then float64 (float64 (float64 (p + cr) + cc5m) + cc1h) else p
  let p :=
    if isClaudeUsageSemantic then p
    else exclude usedVars p [("cr", cr), ("cc", cc5m), ("cc1h", cc1h), ("img", img), ("ai", ai)]
  let c := if isClaudeUsageSemantic then c else exclude usedVars c [("img_o", imgO), ("ao", ao)]
  { p := max p 0, c := max c 0, len := inputLen, cr, cc := cc5m, cc1h, img, imgO, ai, ao }

structure NonNegative (usage : OpenAICounts) : Prop where
  prompt : 0 ≤ usage.promptTokens
  cached : 0 ≤ usage.promptTokensDetails.cachedTokens
  fiveMinutes : 0 ≤ usage.claudeCacheCreation5mTokens
  oneHour : 0 ≤ usage.claudeCacheCreation1hTokens

def Exact : Prop :=
  usage.promptTokens + usage.promptTokensDetails.cachedTokens + usage.promptTokensDetails.cacheCreationTokensTotal +
    usage.claudeCacheCreation5mTokens + usage.claudeCacheCreation1hTokens ≤ 2 ^ 53

def tierWriteTokens : Int :=
  if usage.usageSemantic = "anthropic" then usage.claudeCacheCreation5mTokens + usage.claudeCacheCreation1hTokens
  else usage.promptTokensDetails.cacheCreationTokensTotal

section
variable {info : RelayInfo} {usage : OpenAICounts}

theorem cacheCreationTokensTotal_nonneg (usage : OpenAICounts) :
    0 ≤ usage.promptTokensDetails.cacheCreationTokensTotal := le_max_right _ _

theorem len_claude (counts : NonNegative usage) (exact : Exact usage) (usedVars : String → Bool) :
    (buildTieredTokenParams usage true usedVars).len =
      usage.promptTokens + usage.promptTokensDetails.cachedTokens + tierWriteTokens usage := by
  obtain ⟨prompt, cached, fiveMinutes, oneHour⟩ := counts
  have creation := cacheCreationTokensTotal_nonneg usage
  unfold Exact at exact
  -- Every part of the sum is exact.
  have part : ∀ value : Int, 0 ≤ value → value ≤ 2 ^ 53 → float64 value = value :=
    fun value lower upper => float64_exact (by omega)
  have first := part _ prompt (by omega)
  have second := part _ cached (by omega)
  have both := part (usage.promptTokens + usage.promptTokensDetails.cachedTokens) (by omega) (by omega)
  unfold buildTieredTokenParams tierWriteTokens
  by_cases tagged : usage.usageSemantic = "anthropic"
  · simp only [tagged, decide_true, if_true, first, second, both]
    have three := part (usage.promptTokens + usage.promptTokensDetails.cachedTokens + usage.claudeCacheCreation5mTokens)
      (by omega) (by omega)
    rw [part _ fiveMinutes (by omega), part _ oneHour (by omega), three, part _ (by omega) (by omega)]
    omega
  · simp only [tagged, decide_false, if_true, if_false, Bool.false_eq_true, first, second, both]
    have three := part (usage.promptTokens + usage.promptTokensDetails.cachedTokens +
      usage.promptTokensDetails.cacheCreationTokensTotal) (by omega) (by omega)
    rw [part _ creation (by omega), three, Int.add_zero, three]

theorem len_other (usage : OpenAICounts) (usedVars : String → Bool) :
    (buildTieredTokenParams usage false usedVars).len = float64 usage.promptTokens := rfl

theorem cacheWriteTokensTotal_eq {summary : Summary} (fiveMinutes : 0 ≤ summary.cacheCreationTokens5m)
    (oneHour : 0 ≤ summary.cacheCreationTokens1h) (creation : 0 ≤ summary.cacheCreationTokens)
    (fits : summary.cacheCreationTokens5m + summary.cacheCreationTokens1h < 2 ^ 63) : cacheWriteTokensTotal summary =
      max summary.cacheCreationTokens (summary.cacheCreationTokens5m + summary.cacheCreationTokens1h) := by
  unfold cacheWriteTokensTotal
  rw [int_of_fits (by omega) fits]
  split
  · dsimp only
    split <;> omega
  · omega

theorem cacheInputTokens_eq {summary : Summary}
    (adds : (summary.isClaudeUsageSemantic || summary.legacyClaudeDerived) = true)
    (fiveMinutes : 0 ≤ summary.cacheCreationTokens5m) (oneHour : 0 ≤ summary.cacheCreationTokens1h)
    (creation : 0 ≤ summary.cacheCreationTokens) (lower : -2 ^ 63 ≤ summary.promptTokens + summary.cacheTokens)
    (upper : summary.promptTokens + summary.cacheTokens + summary.cacheCreationTokens +
      summary.cacheCreationTokens5m + summary.cacheCreationTokens1h < 2 ^ 63)
    (split : summary.cacheCreationTokens5m + summary.cacheCreationTokens1h < 2 ^ 63) :
    (channelCacheSample summary).cacheInputTokens = summary.promptTokens + summary.cacheTokens +
        max summary.cacheCreationTokens (summary.cacheCreationTokens5m + summary.cacheCreationTokens1h) := by
  have both : int (summary.promptTokens + summary.cacheTokens) = summary.promptTokens + summary.cacheTokens :=
    int_of_fits lower (by omega)
  unfold channelCacheSample
  dsimp only
  rw [adds, if_pos rfl, cacheWriteTokensTotal_eq fiveMinutes oneHour creation split, both,
    int_of_fits (by omega) (by omega)]

theorem openRouterCacheCreationTokens_cases (pricing : Pricing) (info : RelayInfo) (usage : OpenAICounts)
    (promptTokens : Int) : let creation := openRouterCacheCreationTokens pricing info usage promptTokens
    creation = usage.promptTokensDetails.cacheCreationTokensTotal ∨ 0 ≤ creation ∧ creation ≤ promptTokens := by
  unfold openRouterCacheCreationTokens
  dsimp only
  split
  · split
    next estimated => exact .inr estimated
    next => exact .inl rfl
  · exact .inl rfl

section
variable (pricing : Pricing) (info : RelayInfo) (usage : OpenAICounts)

def sampledLength : Int :=
  (channelCacheSample (calculateTextQuotaSummary pricing info usage)).cacheInputTokens
def tierLength (usedVars : String → Bool) : Int :=
  (buildTieredTokenParams usage (calculateTextQuotaSummary pricing info usage).isClaudeUsageSemantic usedVars).len

/-- The cache writes of a request through OpenRouter. Its prompt tokens hold the counts of the cache. -/
def routedWriteTokens : Int :=
  openRouterCacheCreationTokens pricing info usage (usage.promptTokens - usage.promptTokensDetails.cachedTokens)

theorem tierLength_eq (usedVars : String → Bool) : tierLength pricing info usage usedVars =
      (buildTieredTokenParams usage (decide (usageSemanticFromUsage info usage = "anthropic")) usedVars).len := by
  unfold tierLength calculateTextQuotaSummary
  split <;> rfl

end

section
variable (pricing : Pricing)

theorem sampledLength_direct (direct : isOpenRouterClaudeBilling info usage = false)
    (adds : (decide (usageSemanticFromUsage info usage = "anthropic") || isLegacyClaudeDerivedOpenAIUsage info usage) =
      true) (counts : NonNegative usage) (exact : Exact usage) : sampledLength pricing info usage =
      usage.promptTokens + usage.promptTokensDetails.cachedTokens +
        max usage.promptTokensDetails.cacheCreationTokensTotal
          (usage.claudeCacheCreation5mTokens + usage.claudeCacheCreation1hTokens) := by
  obtain ⟨_, _, fiveMinutes, oneHour⟩ := counts
  have creation := cacheCreationTokensTotal_nonneg usage
  unfold Exact at exact
  have kept : calculateTextQuotaSummary pricing info usage = _ := if_neg (by rw [direct]; decide)
  rw [sampledLength, kept]
  refine cacheInputTokens_eq adds fiveMinutes oneHour creation ?_ ?_ ?_
  all_goals
    dsimp only
    omega

theorem sampledLength_openRouter (routed : isOpenRouterClaudeBilling info usage = true) (counts : NonNegative usage)
    (exact : Exact usage) : sampledLength pricing info usage =
      usage.promptTokens + max 0 (usage.claudeCacheCreation5mTokens + usage.claudeCacheCreation1hTokens -
        routedWriteTokens pricing info usage) := by
  obtain ⟨_, _, _, _⟩ := counts
  have reported := cacheCreationTokensTotal_nonneg usage
  unfold Exact at exact
  have left : int (usage.promptTokens - usage.promptTokensDetails.cachedTokens) =
      usage.promptTokens - usage.promptTokensDetails.cachedTokens := int_of_fits (by omega) (by omega)
  have bounds := openRouterCacheCreationTokens_cases pricing info usage
    (usage.promptTokens - usage.promptTokensDetails.cachedTokens)
  have taken : calculateTextQuotaSummary pricing info usage = _ := if_pos routed
  rw [left] at taken
  unfold sampledLength routedWriteTokens
  rw [int_of_fits (by omega) (by omega)] at taken
  have claude : decide (usageSemanticFromUsage info usage = "anthropic") = true := by
    exact (Bool.and_eq_true_iff.mp routed).2
  rw [taken, cacheInputTokens_eq]
  · dsimp only
    omega
  · dsimp only
    rw [claude, Bool.true_or]
  all_goals
    dsimp only
    omega

theorem sampledLength_plain (other : usageSemanticFromUsage info usage ≠ "anthropic")
    (tagged : isLegacyClaudeDerivedOpenAIUsage info usage = false) :
    sampledLength pricing info usage = usage.promptTokens := by
  have kept : calculateTextQuotaSummary pricing info usage = _ := if_neg (by simp [isOpenRouterClaudeBilling, other])
  rw [sampledLength, kept]
  rw [tagged, decide_eq_false other]
  rfl

/-- For Claude the sample counts the larger one of the divided and the undivided cache writes, and through OpenRouter
it counts nothing twice. -/
def LengthsAgree (info : RelayInfo) (usage : OpenAICounts) : Prop :=
  let split := usage.claudeCacheCreation5mTokens + usage.claudeCacheCreation1hTokens
  if usageSemanticFromUsage info usage ≠ "anthropic" then isLegacyClaudeDerivedOpenAIUsage info usage = false
  else if info.channelType ≠ some channelTypeOpenRouter then
    max usage.promptTokensDetails.cacheCreationTokensTotal split = tierWriteTokens usage
  else
    max 0 (split - routedWriteTokens pricing info usage) =
      usage.promptTokensDetails.cachedTokens + tierWriteTokens usage

theorem split_pos_of_legacy (counts : NonNegative usage) (legacy : isLegacyClaudeDerivedOpenAIUsage info usage = true) :
    0 < usage.claudeCacheCreation5mTokens + usage.claudeCacheCreation1hTokens := by
  obtain ⟨_, _, _, _⟩ := counts
  unfold isLegacyClaudeDerivedOpenAIUsage at legacy
  split at legacy
  · cases legacy
  split_ifs at legacy
  simp only [Bool.or_eq_true, decide_eq_true_eq] at legacy
  omega

/-- The two lengths are the same without the counts of the cache, and with them exactly where these agree. -/
theorem cacheInputTokens_len_iff (info : RelayInfo) (usedVars : String → Bool) (counts : NonNegative usage) :
    (usageSemanticFromUsage info usage ≠ "anthropic" → isLegacyClaudeDerivedOpenAIUsage info usage = false →
        float64 (sampledLength pricing info usage) = tierLength pricing info usage usedVars) ∧
      (Exact usage →
        (float64 (sampledLength pricing info usage) = tierLength pricing info usage usedVars ↔
          LengthsAgree pricing info usage)) := by
  rw [tierLength_eq]
  have plain : usageSemanticFromUsage info usage ≠ "anthropic" → isLegacyClaudeDerivedOpenAIUsage info usage = false →
      float64 (sampledLength pricing info usage) =
        (buildTieredTokenParams usage (decide (usageSemanticFromUsage info usage = "anthropic")) usedVars).len := by
    intro other tagged
    rw [sampledLength_plain _ other tagged, decide_eq_false other, len_other]
  refine ⟨plain, fun exact => ?_⟩
  have creation := cacheCreationTokensTotal_nonneg usage
  have sum := exact
  unfold Exact at sum
  unfold LengthsAgree
  split
  next other =>
    -- The tiers take the prompt tokens as they are.
    refine ⟨fun same => ?_, plain other⟩
    by_contra legacy
    rw [Bool.not_eq_false] at legacy
    have positive := split_pos_of_legacy counts legacy
    rw [sampledLength_direct _ (by simp [isOpenRouterClaudeBilling, other]) (by rw [legacy, Bool.or_true]) counts exact,
      decide_eq_false other, len_other] at same
    obtain ⟨prompt, cached, _, _⟩ := counts
    rw [float64_exact (by omega), float64_exact (by omega)] at same
    omega
  next claude =>
    have semantic : usageSemanticFromUsage info usage = "anthropic" := not_not.mp claude
    rw [decide_eq_true semantic, len_claude counts exact]
    split
    next direct =>
      rw [sampledLength_direct _ (by simp [isOpenRouterClaudeBilling, direct]) (by rw [semantic]; rfl) counts exact]
      obtain ⟨prompt, cached, fiveMinutes, oneHour⟩ := counts
      rw [float64_exact (by omega)]
      omega
    next routed =>
      have through := not_not.mp routed
      have bounds : routedWriteTokens pricing info usage = _ ∨ 0 ≤ routedWriteTokens pricing info usage ∧ _ :=
        openRouterCacheCreationTokens_cases pricing info usage _
      rw [sampledLength_openRouter _ (by simp [isOpenRouterClaudeBilling, through, semantic]) counts exact]
      obtain ⟨_, _, _, _⟩ := counts
      rw [float64_exact (by omega)]
      omega

end

end

def claudeRequest : RelayInfo := { relayFormat := .claude }

def claudeCounts (usageSemantic : String) : OpenAICounts :=
  { promptTokens := 200, completionTokens := 50, usageSemantic, promptTokensDetails := { cachedTokens := 800 }
    claudeCacheCreation5mTokens := 60, claudeCacheCreation1hTokens := 40 }

theorem claudeCounts_nonNegative (usageSemantic : String) : NonNegative (claudeCounts usageSemantic) := by
  constructor <;> simp [claudeCounts]
def noPricing : Pricing := ⟨fun _ => none, fun _ _ => 0⟩

/-- With the tag of Claude both lengths are 1100. -/
theorem cacheInputTokens_len_tagged :
    float64 (sampledLength noPricing claudeRequest (claudeCounts "anthropic")) =
      tierLength noPricing claudeRequest (claudeCounts "anthropic") fun _ => false :=
  ((cacheInputTokens_len_iff noPricing claudeRequest (fun _ => false) (claudeCounts_nonNegative "anthropic")).2
    (by unfold Exact; decide)).mpr (by unfold LengthsAgree; decide)

/-- Without the tag the sample has the 100 tokens that were written, and the tiers do not. -/
theorem cacheInputTokens_len_untagged :
    NonNegative (claudeCounts "") ∧ sampledLength noPricing claudeRequest (claudeCounts "") = 1100 ∧
      (tierLength noPricing claudeRequest (claudeCounts "") fun _ => false) = 1000 :=
  ⟨claudeCounts_nonNegative "", by decide, by decide⟩

end FlowAPI.TextQuota
