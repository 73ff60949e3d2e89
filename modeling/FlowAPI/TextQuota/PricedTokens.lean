import FlowAPI.TextQuota.CacheSample

/-! What a billing expression prices of a usage record.

An expression divides the prompt tokens and the completion tokens into the counts it has a variable for and the rest.
Its variables for cache writes are to cover the writes that the ratios charge for the same record. -/

set_option autoImplicit false
namespace FlowAPI.TextQuota
open Golang
open FlowAPI.Channels (int int_of_fits)
open FlowAPI.Convert (OpenAICounts)

section
variable (usedVars : String → Bool)

/-- The counts that an expression prices by variables of their own. -/
def pricedTokens (priced : List (String × Int)) : Int := ((priced.filter fun entry => usedVars entry.1).map (·.2)).sum

theorem pricedTokens_cons (entry : String × Int) (rest : List (String × Int)) : pricedTokens usedVars (entry :: rest) =
      (if usedVars entry.1 then entry.2 else 0) + pricedTokens usedVars rest := by
  cases used : usedVars entry.1 <;> simp [pricedTokens, used]

def ExactCount (value : Int) : Prop := 0 ≤ value ∧ value ≤ 2 ^ 53

theorem ExactCount.float64_eq {value : Int} (count : ExactCount value) : float64 value = value := by
  obtain ⟨_, _⟩ := count
  exact float64_exact (by omega)

theorem exclude_cases {total : Int} (upper : total ≤ 2 ^ 53) {priced : List (String × Int)}
    (counts : ∀ entry ∈ priced, ExactCount entry.2) : 0 ≤ pricedTokens usedVars priced ∧
      (pricedTokens usedVars priced ≤ total → exclude usedVars total priced = total - pricedTokens usedVars priced) ∧
      (total < pricedTokens usedVars priced → exclude usedVars total priced < 0) := by
  -- A remainder is exact until it is negative, and then it stays negative.
  induction priced generalizing total with
  | nil => simp [pricedTokens, exclude]
  | cons entry rest ih =>
    obtain ⟨⟨_, _⟩, others⟩ := List.forall_mem_cons.mp counts
    rw [pricedTokens_cons]
    unfold exclude
    rw [List.foldl_cons]
    change _ ∧ (_ → exclude usedVars _ rest = _) ∧ (_ → exclude usedVars _ rest < 0)
    cases usedVars entry.1 with
    | false => simpa using ih upper others
    | true =>
      simp only [if_true]
      by_cases within : entry.2 ≤ total
      · rw [float64_exact (by omega)]
        obtain ⟨nonneg, exact, exceeded⟩ := @ih (total - entry.2) (by omega) others
        refine ⟨by omega, fun fits => ?_, fun more => exceeded (by omega)⟩
        omega
      · have negative : float64 (total - entry.2) < 0 := float64_neg (by omega)
        obtain ⟨_, _, exceeded⟩ := ih (by omega : float64 (total - entry.2) ≤ 2 ^ 53) others
        exact ⟨by omega, fun fits => by omega, fun _ => exceeded (by omega)⟩

end

/-- The parts of the prompt tokens that an expression can price by themselves. A record with the tag of Claude divides
its cache writes. -/
def promptParts (usage : OpenAICounts) : List (String × Int) :=
  let tagged := usage.usageSemantic = "anthropic"
  [("cr", usage.promptTokensDetails.cachedTokens),
    ("cc", if tagged then usage.claudeCacheCreation5mTokens else usage.promptTokensDetails.cacheCreationTokensTotal),
    ("cc1h", if tagged then usage.claudeCacheCreation1hTokens else 0),
    ("img", usage.promptTokensDetails.imageTokens), ("ai", usage.promptTokensDetails.audioTokens)]

def completionParts (usage : OpenAICounts) : List (String × Int) :=
  [("img_o", usage.completionTokenDetails.imageTokens), ("ao", usage.completionTokenDetails.audioTokens)]

theorem exact_parts {parts : List (String × Int)} (counts : ∀ entry ∈ parts, ExactCount entry.2) :
    parts.map (fun entry => (entry.1, float64 entry.2)) = parts := by
  refine (List.map_congr_left fun entry listed => ?_).trans (List.map_id parts)
  rw [(counts entry listed).float64_eq]
  rfl

theorem tiered_parts (usage : OpenAICounts) (usedVars : String → Bool) :
    (buildTieredTokenParams usage false usedVars).p =
        max (exclude usedVars (float64 usage.promptTokens)
          ((promptParts usage).map fun entry => (entry.1, float64 entry.2))) 0 ∧
      (buildTieredTokenParams usage false usedVars).c =
        max (exclude usedVars (float64 usage.completionTokens)
          ((completionParts usage).map fun entry => (entry.1, float64 entry.2))) 0 := by
  refine ⟨?_, rfl⟩
  unfold buildTieredTokenParams promptParts
  by_cases tagged : usage.usageSemantic = "anthropic"
  · simp [tagged]
  · simp [tagged, float64_exact]

/-- An expression divides the prompt tokens and the completion tokens without a rest, as long as the counts it prices by
themselves do not exceed them. -/
theorem tiered_division (usage : OpenAICounts) (usedVars : String → Bool) (prompt : ExactCount usage.promptTokens)
    (completion : ExactCount usage.completionTokens) (inputs : ∀ entry ∈ promptParts usage, ExactCount entry.2)
    (outputs : ∀ entry ∈ completionParts usage, ExactCount entry.2) :
    let params := buildTieredTokenParams usage false usedVars
    let input := pricedTokens usedVars (promptParts usage)
    let output := pricedTokens usedVars (completionParts usage)
    (input ≤ usage.promptTokens → params.p + input = usage.promptTokens) ∧
      (usage.promptTokens < input → params.p = 0) ∧
      (output ≤ usage.completionTokens → params.c + output = usage.completionTokens) ∧
      (usage.completionTokens < output → params.c = 0) ∧ params.len = usage.promptTokens := by
  obtain ⟨_, inputExact, inputMore⟩ := exclude_cases usedVars prompt.2 inputs
  obtain ⟨_, outputExact, outputMore⟩ := exclude_cases usedVars completion.2 outputs
  obtain ⟨p, c⟩ := tiered_parts usage usedVars
  rw [prompt.float64_eq, exact_parts inputs] at p
  rw [completion.float64_eq, exact_parts outputs] at c
  dsimp only
  rw [p, c]
  refine ⟨fun fits => ?_, fun more => ?_, fun fits => ?_, fun more => ?_, prompt.float64_eq⟩
  · rw [inputExact fits]
    omega
  · exact max_eq_right (inputMore more).le
  · rw [outputExact fits]
    omega
  · exact max_eq_right (outputMore more).le

def cachedCounts : OpenAICounts :=
  { promptTokens := 1000, completionTokens := 50, promptTokensDetails := { cachedTokens := 300, imageTokens := 100 } }

theorem tiered_division_cached : (buildTieredTokenParams cachedCounts false fun _ => true).p + 400 = 1000 :=
  (tiered_division cachedCounts (fun _ => true) (by unfold ExactCount; decide) (by unfold ExactCount; decide)
    (by unfold ExactCount; decide) (by unfold ExactCount; decide)).1 (by decide)

theorem large_prompt_rounded :
    let usage : OpenAICounts := { promptTokens := 2 ^ 53 + 1 }
    (buildTieredTokenParams usage false fun _ => false).len ≠ usage.promptTokens := by
  decide

/-- The cache writes that the ratios charge: without a term, for five minutes and for one hour. -/
def chargedWriteTokens (summary : Summary) : Int × Int × Int :=
  let hasSplit := summary.cacheCreationTokens5m > 0 ∨ summary.cacheCreationTokens1h > 0
  if summary.cacheCreationTokens = 0 ∧ ¬ hasSplit then (0, 0, 0)
  else if summary.isClaudeUsageSemantic || summary.legacyClaudeDerived then
    let remaining :=
      int (int (summary.cacheCreationTokens - summary.cacheCreationTokens5m) - summary.cacheCreationTokens1h)
    (if remaining < 0 then 0 else remaining, summary.cacheCreationTokens5m, summary.cacheCreationTokens1h)
  else (summary.cacheCreationTokens, 0, 0)

section
variable {info : RelayInfo} {usage : OpenAICounts} (pricing : Pricing)

theorem summary_counts (info : RelayInfo) (counts : NonNegative usage) (exact : Exact usage) :
    let summary := calculateTextQuotaSummary pricing info usage
    summary.cacheCreationTokens5m = usage.claudeCacheCreation5mTokens ∧
      summary.cacheCreationTokens1h = usage.claudeCacheCreation1hTokens ∧
      summary.isClaudeUsageSemantic = decide (usageSemanticFromUsage info usage = "anthropic") ∧
      0 ≤ summary.cacheCreationTokens ∧ summary.cacheCreationTokens ≤ 2 ^ 53 := by
  obtain ⟨_, _, _, _⟩ := counts
  have reported := cacheCreationTokensTotal_nonneg usage
  unfold Exact at exact
  unfold calculateTextQuotaSummary
  split
  · have left : int (usage.promptTokens - usage.promptTokensDetails.cachedTokens) =
        usage.promptTokens - usage.promptTokensDetails.cachedTokens := int_of_fits (by omega) (by omega)
    have bounds := openRouterCacheCreationTokens_cases pricing info usage
      (usage.promptTokens - usage.promptTokensDetails.cachedTokens)
    rw [left]
    dsimp only at bounds ⊢
    exact ⟨rfl, rfl, rfl, by omega, by omega⟩
  · exact ⟨rfl, rfl, rfl, reported, by dsimp only; omega⟩

theorem tiered_writes (counts : NonNegative usage) (exact : Exact usage) (isClaude : Bool) (usedVars : String → Bool) :
    (buildTieredTokenParams usage isClaude usedVars).cc + (buildTieredTokenParams usage isClaude usedVars).cc1h =
      tierWriteTokens usage := by
  obtain ⟨_, _, _, _⟩ := counts
  have reported := cacheCreationTokensTotal_nonneg usage
  unfold Exact at exact
  unfold buildTieredTokenParams tierWriteTokens
  by_cases tagged : usage.usageSemantic = "anthropic"
  · simp only [tagged, decide_true, if_true]
    rw [float64_exact (by omega), float64_exact (by omega)]
  · simp only [tagged, decide_false, if_false, Bool.false_eq_true]
    rw [float64_exact (by omega), Int.add_zero]

theorem summary_writes (info : RelayInfo) (counts : NonNegative usage) (exact : Exact usage)
    (claude : usageSemanticFromUsage info usage = "anthropic") :
    (calculateTextQuotaSummary pricing info usage).cacheCreationTokens =
      if info.channelType = some channelTypeOpenRouter then routedWriteTokens pricing info usage
      else usage.promptTokensDetails.cacheCreationTokensTotal := by
  obtain ⟨_, _, _, _⟩ := counts
  have reported := cacheCreationTokensTotal_nonneg usage
  unfold Exact at exact
  have left : int (usage.promptTokens - usage.promptTokensDetails.cachedTokens) =
      usage.promptTokens - usage.promptTokensDetails.cachedTokens := int_of_fits (by omega) (by omega)
  unfold calculateTextQuotaSummary isOpenRouterClaudeBilling routedWriteTokens
  by_cases routed : info.channelType = some channelTypeOpenRouter
  · simp [routed, claude, left]
  · simp [routed]

/-- A record with the tag gives the tiers its divided writes, so the undivided count has to be within these; a record
without the tag gives them the reported count, so the divided ones and OpenRouter's estimate have to be within that. -/
def WritesPriced (info : RelayInfo) (usage : OpenAICounts) : Prop :=
  let divided := usage.claudeCacheCreation5mTokens + usage.claudeCacheCreation1hTokens
  let reported := usage.promptTokensDetails.cacheCreationTokensTotal
  let routed := info.channelType = some channelTypeOpenRouter
  if usage.usageSemantic = "anthropic" then
    (if routed then routedWriteTokens pricing info usage else reported) ≤ divided
  else divided ≤ reported ∧ (routed → routedWriteTokens pricing info usage ≤ reported)

/-- The tiers price every cache write that the ratios charge exactly where its own counts say so. -/
theorem charged_writes_priced_iff (usedVars : String → Bool) (counts : NonNegative usage) (exact : Exact usage)
    (claude : usageSemanticFromUsage info usage = "anthropic") :
    let summary := calculateTextQuotaSummary pricing info usage
    let params := buildTieredTokenParams usage summary.isClaudeUsageSemantic usedVars
    let charged := chargedWriteTokens summary
    charged.1 + charged.2.1 + charged.2.2 ≤ params.cc + params.cc1h ↔ WritesPriced pricing info usage := by
  have priced : WritesPriced pricing info usage ↔
      (calculateTextQuotaSummary pricing info usage).cacheCreationTokens ≤ tierWriteTokens usage ∧
        usage.claudeCacheCreation5mTokens + usage.claudeCacheCreation1hTokens ≤ tierWriteTokens usage := by
    rw [summary_writes pricing info counts exact claude]
    unfold WritesPriced tierWriteTokens
    by_cases tagged : usage.usageSemantic = "anthropic"
    · simp [tagged]
    · by_cases routed : info.channelType = some channelTypeOpenRouter
      · simp [tagged, routed, and_comm]
      · simp [tagged, routed]
  rw [priced]
  obtain ⟨five, hour, semantic, _, _⟩ := summary_counts pricing info counts exact
  dsimp only at *
  rw [tiered_writes counts exact]
  rw [decide_eq_true claude] at semantic
  unfold chargedWriteTokens
  dsimp only
  rw [five, hour, semantic, Bool.true_or, if_pos rfl]
  generalize (calculateTextQuotaSummary pricing info usage).cacheCreationTokens = created at *
  obtain ⟨_, _, _, _⟩ := counts
  have reported := cacheCreationTokensTotal_nonneg usage
  unfold Exact at exact
  split
  · dsimp only
    omega
  dsimp only
  have undivided : int (created - usage.claudeCacheCreation5mTokens) = created - usage.claudeCacheCreation5mTokens :=
    int_of_fits (by omega) (by omega)
  rw [undivided, int_of_fits (by omega) (by omega)]
  split <;> omega

end

theorem charged_writes_priced_tagged :
    let summary := calculateTextQuotaSummary noPricing claudeRequest (claudeCounts "anthropic")
    let params := buildTieredTokenParams (claudeCounts "anthropic") summary.isClaudeUsageSemantic fun _ => true
    let charged := chargedWriteTokens summary
    charged = (0, 60, 40) ∧ charged.1 + charged.2.1 + charged.2.2 ≤ params.cc + params.cc1h :=
  ⟨by decide, (charged_writes_priced_iff noPricing (fun _ => true) (claudeCounts_nonNegative "anthropic")
    (by unfold Exact; decide) (by decide)).mpr (by unfold WritesPriced; decide)⟩

/-- Writes that are not divided into terms are charged by the ratios, and not by the tiers. -/
theorem undivided_writes_unpriced : let usage : OpenAICounts :=
      { promptTokens := 200, usageSemantic := "anthropic", promptTokensDetails := { cachedCreationTokens := 100 } }
    let summary := calculateTextQuotaSummary noPricing claudeRequest usage
    let params := buildTieredTokenParams usage summary.isClaudeUsageSemantic fun _ => true
    NonNegative usage ∧ usageSemanticFromUsage claudeRequest usage = "anthropic" ∧
      chargedWriteTokens summary = (100, 0, 0) ∧ params.cc + params.cc1h = 0 :=
  ⟨by constructor <;> decide, by decide, by decide, by decide⟩

end FlowAPI.TextQuota
