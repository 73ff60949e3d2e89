import FlowAPI.Channels.Eligibility
import FlowAPI.Channels.Listing

/-! Which channels the selections over the memory cache return.

A channel serves a request by what is written in its own row. `GetRandomSatisfiedChannel` reads the index instead, so it
returns exactly these channels while the index lists what the channels say, as it does after `InitChannelCache`.
-/

set_option autoImplicit false
namespace FlowAPI.Channels
open Golang Semantics List

/-- The channel is enabled, names the group and the model, and a custom one has a route for the path. -/
structure Channel.Serves (compile : String → Option (String → Bool)) (group name model requestPath : String)
    (channel : Channel) : Prop where
  enabled : channel.status = channelStatusEnabled
  inGroup : group ∈ split channel.group ','
  named : name ∈ split channel.models ','
  routed : requestPath ≠ "" → channel.type = channelTypeAdvancedCustom →
    ∃ config ∈ channel.advancedCustom, config.supportsPathForModel compile requestPath model = true

namespace Cache

variable (cache : Cache)

/-- The index has the enabled channels under the groups and models that they name, and their routes. -/
structure Accurate : Prop where
  listed : ∀ group name id, id ∈ cache.group2model2channels.ids group name ↔ ∃ channel, cache.Keeps channel ∧
    channel.id = id ∧ channel.status = channelStatusEnabled ∧ group ∈ split channel.group ',' ∧
      name ∈ split channel.models ','
  configs : ∀ channel, cache.Keeps channel → channel.type = channelTypeAdvancedCustom →
    cache.channel2advancedCustomConfig.get? channel.id = channel.advancedCustom

section
variable (compile : String → Option (String → Bool)) (group model requestPath : String)

/-- The channel serves the model or, where no channel does, its normalized name. -/
def Eligible (channel : Channel) : Prop :=
  cache.Keeps channel ∧ (channel.Serves compile group model model requestPath ∨
    (∀ other, cache.Keeps other → ¬other.Serves compile group model model requestPath) ∧
      channel.Serves compile group (formatMatchingModelName model) model requestPath)

variable {cache} {compile group model requestPath}

theorem mem_filterChannels {ids : List Int} {channel : Channel} (accurate : cache.Accurate) (kept : cache.Keeps channel) :
    channel.id ∈ cache.filterChannelsByRequestPathAndModel compile ids requestPath model ↔ channel.id ∈ ids ∧
      (requestPath ≠ "" → channel.type = channelTypeAdvancedCustom →
        ∃ config ∈ channel.advancedCustom, config.supportsPathForModel compile requestPath model = true) := by
  have present : cache.channelsIDM.get? channel.id = some channel := kept
  unfold filterChannelsByRequestPathAndModel
  by_cases unpathed : requestPath = ""
  · simp [unpathed]
  · by_cases custom : channel.type = channelTypeAdvancedCustom
    · simp [unpathed, present, custom, accurate.configs channel kept custom, Option.any_eq_true]
    · simp [unpathed, present, custom]

theorem mem_served (accurate : cache.Accurate) {name : String} {id : Int} :
    id ∈ cache.filterChannelsByRequestPathAndModel compile (cache.group2model2channels.ids group name) requestPath model ↔
      ∃ channel, cache.Keeps channel ∧ channel.id = id ∧ channel.Serves compile group name model requestPath := by
  constructor
  · intro passed
    have within : id ∈ cache.group2model2channels.ids group name := by
      unfold filterChannelsByRequestPathAndModel at passed
      split at passed
      · exact passed
      · exact (mem_filter.mp passed).1
    obtain ⟨channel, kept, rfl, enabled, inGroup, named⟩ := (accurate.listed group name id).mp within
    exact ⟨channel, kept, rfl, enabled, inGroup, named, ((mem_filterChannels accurate kept).mp passed).2⟩
  · rintro ⟨channel, kept, rfl, serves⟩
    exact (mem_filterChannels accurate kept).mpr ⟨(accurate.listed group name _).mpr
      ⟨channel, kept, rfl, serves.enabled, serves.inGroup, serves.named⟩, serves.routed⟩

theorem mem_eligible_iff (accurate : cache.Accurate) {channel : Channel} :
    channel ∈ cache.eligible compile group model requestPath ↔ cache.Eligible compile group model requestPath channel := by
  have found : channel ∈ cache.eligible compile group model requestPath ↔
      cache.Keeps channel ∧ channel.id ∈ cache.candidates compile group model requestPath := by
    rw [eligible, mem_filterMap]
    constructor
    · rintro ⟨id, member, present⟩
      have same := cache.keyed id channel present
      subst same
      exact ⟨present, member⟩
    · rintro ⟨kept, member⟩
      exact ⟨channel.id, member, kept⟩
  have own : ∀ name, (∃ other, cache.Keeps other ∧ other.id = channel.id ∧
      other.Serves compile group name model requestPath) → cache.Keeps channel →
        channel.Serves compile group name model requestPath := by
    rintro name ⟨other, keepsOther, same, serves⟩ kept
    rw [Keeps, same, show cache.channelsIDM.get? channel.id = some channel from kept] at keepsOther
    cases keepsOther
    exact serves
  rw [found, Eligible]
  refine and_congr_right fun kept => ?_
  unfold candidates
  dsimp only
  split
  -- the normalized name is looked up only where no channel serves the model
  next none =>
    have unserved : ∀ other, cache.Keeps other → ¬other.Serves compile group model model requestPath := by
      intro other keepsOther serves
      have listed := (mem_served accurate).mpr ⟨other, keepsOther, rfl, serves⟩
      rw [none] at listed
      cases listed
    rw [mem_served accurate]
    constructor
    · exact fun listed => .inr ⟨unserved, own _ listed kept⟩
    · rintro (serves | ⟨-, serves⟩)
      · exact absurd serves (unserved channel kept)
      · exact ⟨channel, kept, rfl, serves⟩
  next some =>
    obtain ⟨id, member⟩ := exists_mem_of_ne_nil _ some
    obtain ⟨other, keepsOther, -, served⟩ := (mem_served accurate).mp member
    rw [mem_served accurate]
    constructor
    · exact fun listed => .inl (own _ listed kept)
    · rintro (serves | ⟨unserved, -⟩)
      · exact ⟨channel, kept, rfl, serves⟩
      · exact absurd served (unserved other keepsOther)

theorem candidates_nodup (distinct : ∀ name, (cache.group2model2channels.ids group name).Nodup) :
    (cache.candidates compile group model requestPath).Nodup := by
  have filtered : ∀ name, (cache.filterChannelsByRequestPathAndModel compile
      (cache.group2model2channels.ids group name) requestPath model).Nodup := by
    intro name
    unfold filterChannelsByRequestPathAndModel
    split
    · exact distinct name
    · exact (distinct name).filter _
  unfold candidates
  dsimp only
  split
  · exact filtered _
  · exact filtered _

end

end Cache

theorem get?_configMap {channels : List Channel} (distinct : (channels.map Channel.id).Nodup) (id : Int) :
    (configMap channels).get? id = (channels.find? fun channel => decide (channel.id = id)).bind fun channel =>
      if channel.type = channelTypeAdvancedCustom then channel.advancedCustom else none := by
  induction channels using reverseRecOn with
  | nil => rfl
  | append_singleton before last ih =>
    rw [map_append, map_singleton, nodup_append] at distinct
    have earlier := ih distinct.1
    have grown : configMap (before ++ [last]) =
        (if last.type = channelTypeAdvancedCustom then last.advancedCustom else none).elim (configMap before)
          ((configMap before).set last.id) := by
      unfold configMap
      rw [foldl_concat]
      split
      next config => rw [config, Option.elim_some]
      next none => rw [none, Option.elim_none]
    rw [grown, find?_append]
    by_cases same : last.id = id
    · have absent : before.find? (fun channel => decide (channel.id = id)) = none := by
        refine find?_eq_none.mpr fun channel member => ?_
        simpa [same] using distinct.2.2 channel.id (mem_map_of_mem member) last.id (mem_singleton_self _)
      rw [absent] at earlier ⊢
      cases own : if last.type = channelTypeAdvancedCustom then last.advancedCustom else none with
      | none => simpa [same, own] using earlier
      | some => simp [Map.get?_set, same, own]
    · have skipped : [last].find? (fun channel => decide (channel.id = id)) = none := by simp [same]
      rw [skipped, Option.or_none, ← earlier]
      cases if last.type = channelTypeAdvancedCustom then last.advancedCustom else none with
      | none => rfl
      | some => rw [Option.elim_some, Map.get?_set, if_neg (Ne.symm same)]

theorem initChannelCache_accurate {rows : Table Channel.id} {abilities : List Ability} {cache : Cache}
    (loaded : initChannelCache rows.rows abilities = some cache) : cache.Accurate where
  listed := by
    intro group name id
    rw [← count_pos_iff, count_initChannelCache loaded, count_pos_iff, placesOf, mem_flatMap]
    constructor
    · rintro ⟨channel, member, place⟩
      obtain ⟨member, enabled, same⟩ : channel ∈ rows.rows ∧ channel.status = channelStatusEnabled ∧ channel.id = id := by
        simpa using member
      exact ⟨channel, (keeps_initChannelCache loaded).mpr member, same, enabled, Channel.mem_places.mp place⟩
    · rintro ⟨channel, kept, same, enabled, named⟩
      refine ⟨channel, ?_, Channel.mem_places.mpr named⟩
      simp [(keeps_initChannelCache loaded).mp kept, same, enabled]
  configs := by
    intro channel kept custom
    have configs : cache.channel2advancedCustomConfig = configMap rows.rows := by
      unfold initChannelCache at loaded
      split at loaded <;> cases loaded
      rfl
    have found : rows.rows.find? (fun other => decide (other.id = channel.id)) = some channel :=
      rows.find_of_mem ((keeps_initChannelCache loaded).mp kept)
    rw [configs, get?_configMap rows.unique, found]
    simp [custom]

/-! ### `GetRandomSatisfiedChannelWithOptions` -/

def Channel.BanOver (now : Int) (channel : Channel) : Prop :=
  channel.status = channelStatusAutoDisabled ∧ 0 < channel.autoBanUntil ∧ channel.autoBanUntil ≤ now

/-- An enabled channel is offered as the cache has it, and one whose ban is over as its row has it, if that is enabled
or its ban is over there too. -/
inductive Offered (rows : Rows) (now : Int) : Channel → Channel → Prop
  | enabled {channel : Channel} (enabled : channel.status = channelStatusEnabled) : Offered rows now channel channel
  | reread {candidate row : Channel} (expired : candidate.BanOver now) (read : rows.read candidate.id = some row)
      (enabled : row.status = channelStatusEnabled) : Offered rows now candidate row
  | restored {candidate row : Channel} (expired : candidate.BanOver now) (read : rows.read candidate.id = some row)
      (stored : row.BanOver now) :
      Offered rows now candidate { row with status := channelStatusEnabled, autoBanUntil := 0 }

theorem Offered.refresh_eq {rows : Rows} {now : Int} {candidate channel : Channel}
    (offered : Offered rows now candidate channel) : refresh rows now candidate = channel := by
  cases offered with
  | enabled enabled => simp [refresh, enabled, channelStatusEnabled, channelStatusAutoDisabled]
  | reread expired read enabled =>
    obtain ⟨banned, since, ended⟩ := expired
    have waited : ¬(candidate.autoBanUntil ≤ 0 ∨ now < candidate.autoBanUntil) := by omega
    rw [refresh, if_pos banned, maybeRestoreAutoBannedChannel, if_neg (not_not_intro banned), if_neg waited, read]
    simp only [enabled, if_true]
    rw [← enabled]
  | restored expired read stored =>
    obtain ⟨banned, since, ended⟩ := expired
    obtain ⟨rowBanned, rowSince, rowEnded⟩ := stored
    have waited : ¬(candidate.autoBanUntil ≤ 0 ∨ now < candidate.autoBanUntil) := by omega
    rw [refresh, if_pos banned, maybeRestoreAutoBannedChannel, if_neg (not_not_intro banned), if_neg waited, read]
    simp only [rowBanned]
    rw [if_neg (by decide), if_neg (by simp), if_neg (by omega)]

theorem offered_refresh {rows : Rows} {now : Int} {candidate : Channel}
    (enabled : (refresh rows now candidate).status = channelStatusEnabled) :
    Offered rows now candidate (refresh rows now candidate) := by
  by_cases banned : candidate.status = channelStatusAutoDisabled
  · rw [refresh, if_pos banned] at enabled ⊢
    cases restored : maybeRestoreAutoBannedChannel rows now candidate with
    | none =>
      rw [restored] at enabled
      rw [show candidate.status = _ from enabled] at banned
      cases banned
    | some current =>
      rw [maybeRestoreAutoBannedChannel, if_neg (not_not_intro banned)] at restored
      split_ifs at restored with waits
      cases read : rows.read candidate.id with rw [read] at restored
      | none => cases restored
      | some row =>
        have expired : candidate.BanOver now := ⟨banned, by omega, by omega⟩
        dsimp only at restored ⊢
        split_ifs at restored with rowEnabled other rowWaits
        · obtain rfl := Option.some.inj restored
          have same : { row with status := channelStatusEnabled } = row := by rw [← rowEnabled]
          rw [same]
          exact .reread expired read rowEnabled
        · cases restored
          have stored : row.BanOver now := ⟨not_not.mp other, by omega, by omega⟩
          have offered := Offered.restored expired read stored
          exact offered
  · rw [refresh, if_neg banned] at enabled ⊢
    exact .enabled enabled

section
variable (compile : String → Option (String → Bool)) (channel : Channel)

def Channel.Supports (name : String) : Prop :=
  trimSpace name ≠ "" ∧ ((∃ entry ∈ channel.getModels, trimSpace entry = trimSpace name) ∨
    ∃ rules ∈ channel.modelRedirectRules, (matchModelRedirect compile rules (trimSpace name)).isSome)

/-- A custom channel has a route for the path and the model, or for the model that it redirects it to. -/
def Channel.Routes (requestPath model : String) : Prop :=
  ∃ config ∈ channel.advancedCustom, config.supportsPathForModel compile requestPath model = true ∨
    ∃ rules ∈ channel.modelRedirectRules, ∃ target ∈ matchModelRedirect compile rules model,
      config.supportsPathForModel compile requestPath target = true

structure ChannelSelectionOptions.Eligible (options : ChannelSelectionOptions) (group model requestPath : String) : Prop where
  enabled : channel.status = channelStatusEnabled
  inGroup : ∃ entry ∈ channel.getGroups, trimSpace entry = group
  supported : channel.Supports compile model ∨ channel.Supports compile (formatMatchingModelName model)
  routed : channel.type = channelTypeAdvancedCustom → channel.Routes compile requestPath model
  included : channel.id ∉ options.excludedChannelIDs
  allowed : ∀ allowed ∈ options.candidateAllowed, allowed channel = true

theorem Channel.supportsModel_iff {name : String} :
    channel.supportsModel compile name = true ↔ channel.Supports compile name := by
  unfold supportsModel Supports
  dsimp only
  split_ifs with empty listed
  · simp [empty]
  · obtain ⟨entry, member, same⟩ := any_eq_true.mp listed
    exact iff_of_true rfl ⟨empty, .inl ⟨entry, member, beq_iff_eq.mp same⟩⟩
  · have unlisted : ¬∃ entry ∈ channel.getModels, trimSpace entry = trimSpace name := by simpa using listed
    rw [or_iff_right unlisted]
    cases channel.modelRedirectRules with simp [empty]

theorem Channel.supportsRequestPath_iff {requestPath model : String}
    (custom : channel.type = channelTypeAdvancedCustom) :
    channel.supportsRequestPath compile requestPath model = true ↔ channel.Routes compile requestPath model := by
  rw [supportsRequestPath, if_neg (not_not_intro custom), Routes]
  cases channel.advancedCustom with
  | none => simp
  | some config =>
    cases routed : config.supportsPathForModel compile requestPath model with
    | true => simp [routed]
    | false =>
      cases channel.modelRedirectRules with
      | none => simp [routed]
      | some rules => cases target : matchModelRedirect compile rules model with simp [routed, target]

theorem ChannelSelectionOptions.allows_iff {options : ChannelSelectionOptions} {group model requestPath : String} :
    options.allows compile group model requestPath channel = true ↔
      options.Eligible compile channel group model requestPath := by
  have grouped : channel.inGroup group = true ↔ ∃ entry ∈ channel.getGroups, trimSpace entry = group := by
    simp [Channel.inGroup]
  have named : (!channel.supportsModel compile model && (formatMatchingModelName model == model ||
      !channel.supportsModel compile (formatMatchingModelName model))) = false ↔
        channel.Supports compile model ∨ channel.Supports compile (formatMatchingModelName model) := by
    rw [← Channel.supportsModel_iff, ← Channel.supportsModel_iff]
    by_cases normal : formatMatchingModelName model = model
    · simp [normal]
    · cases channel.supportsModel compile model <;> simp [normal]
  have routed : (decide (channel.type = channelTypeAdvancedCustom) &&
      !channel.supportsRequestPath compile requestPath model) = false ↔
        (channel.type = channelTypeAdvancedCustom → channel.Routes compile requestPath model) := by
    by_cases custom : channel.type = channelTypeAdvancedCustom
    · simp [custom, ← Channel.supportsRequestPath_iff compile channel custom]
    · simp [custom]
  unfold allows
  dsimp only
  constructor
  · intro allowed
    split_ifs at allowed with barred excluded unsupported unrouted
    simp only [Bool.or_eq_true, Bool.not_eq_true', decide_eq_true_eq, not_or, not_not, Bool.not_eq_false] at barred
    refine ⟨barred.1, grouped.mp barred.2, named.mp (Bool.eq_false_of_not_eq_true unsupported),
      routed.mp (Bool.eq_false_of_not_eq_true unrouted), excluded, ?_⟩
    cases given : options.candidateAllowed with rw [given] at allowed
    | none => simp
    | some => simpa using allowed
  · intro eligible
    rw [named.mpr eligible.supported, routed.mpr eligible.routed, if_neg eligible.included]
    simp only [eligible.enabled, grouped.mpr eligible.inGroup]
    cases given : options.candidateAllowed with
    | none => simp
    | some allowed => simpa using eligible.allowed allowed (by simp [given])

end

def threeChannels : Table Channel.id where
  rows :=
    [{ id := 1, group := "default", models := "m", priority := some 5, weight := some 1 },
      { id := 2, group := "default", models := "m", priority := some 5, weight := some 2 },
      { id := 3, group := "default", models := "m" }]
  unique := by decide

def threeAbilities : List Ability :=
  [⟨"default", "m", 1, true, 5, 1⟩, ⟨"default", "m", 2, true, 5, 2⟩, ⟨"default", "m", 3, true, 0, 0⟩]
def threeCached : Cache := (initChannelCache threeChannels.rows threeAbilities).get (by decide)

end FlowAPI.Channels
