import FlowAPI.Channels.MemoryDraw
import FlowAPI.Semantics.Like

/-! The candidates of `GetRandomSatisfiedChannelWithOptions` with and without the memory cache: `model/channel.go`,
`model/channel_resilient_select.go`.

The memory cache offers every channel. The query asks for the group in the stored text with
`LIKE`, where the loop that follows compares trimmed entries. An entry with blanks around it passes the second
test and not the first.
-/

set_option autoImplicit false
namespace FlowAPI.Channels
open Golang Semantics List ChannelSelectionOptions Like

def normalizeChannelGroupFilter (group : String) : String :=
  let group := trimSpace group
  if group = "" || equalFold group "all" || equalFold group "null" then "" else group

def escapeGroup (group : String) : List Char :=
  group.toList.flatMap fun char =>
    if char = '!' then ['!', '!'] else if char = '%' then ['!', '%'] else if char = '_' then ['!', '_'] else [char]

def channelGroupFilterPattern (group : String) : List Char := '%' :: ',' :: escapeGroup group ++ [',', '%']

section
variable (same : Char → Char → Bool)

def applyChannelGroupFilter (group : String) (channels : List Channel) : List Channel :=
  let group := normalizeChannelGroupFilter group
  if group = "" then channels
  else
    channels.filter fun channel =>
      like same '!' (',' :: channel.group.toList ++ [',']) (channelGroupFilterPattern group)

def databaseCandidates (rows : Rows) (group : String) : List Channel :=
  applyChannelGroupFilter same group (rows.table.rows.filter fun channel =>
      decide (channel.status = channelStatusEnabled) || decide (channel.status = channelStatusAutoDisabled))

/-- The stored text holds the group between commas, as the collation compares characters. -/
def HoldsGroup (text group : String) : Prop :=
  Like.Holds same (',' :: group.toList ++ [',']) (',' :: text.toList ++ [','])

theorem escapeGroup_eq (group : String) : escapeGroup group = quote '!' group.toList := by
  unfold escapeGroup quote
  congr 1
  funext char
  by_cases escape : char = '!'
  · simp [escape]
  · by_cases many : char = '%'
    · simp [many]
    · by_cases one : char = '_' <;> simp [escape, many, one]

theorem like_channelGroupFilterPattern (text group : String) :
    like same '!' (',' :: text.toList ++ [',']) (channelGroupFilterPattern group) = true ↔
      HoldsGroup same text group := by
  have quoted : channelGroupFilterPattern group = '%' :: quote '!' (',' :: group.toList ++ [',']) ++ ['%'] := by
    rw [channelGroupFilterPattern, escapeGroup_eq]
    simp [quote]
  rw [quoted]
  exact accepts_quoted same (by decide) _ _

theorem mem_databaseCandidates {rows : Rows} {group : String} {channel : Channel} :
    channel ∈ databaseCandidates same rows group ↔ channel ∈ rows.table.rows ∧
        (channel.status = channelStatusEnabled ∨ channel.status = channelStatusAutoDisabled) ∧
        (normalizeChannelGroupFilter group = "" ∨
          HoldsGroup same channel.group (normalizeChannelGroupFilter group)) := by
  unfold databaseCandidates applyChannelGroupFilter
  dsimp only
  split
  next all => simp [all]
  next named =>
    simp only [mem_filter, like_channelGroupFilterPattern, named, false_or, Bool.or_eq_true, decide_eq_true_eq,
      and_assoc]

end

theorem keeps_initChannelCache {rows : Table Channel.id} {abilities : List Ability} {cache : Cache}
    (loaded : initChannelCache rows.rows abilities = some cache) {channel : Channel} :
    cache.Keeps channel ↔ channel ∈ rows.rows := by
  have kept : cache.channelsIDM = channelMap rows.rows := by
    unfold initChannelCache at loaded
    split at loaded <;> cases loaded
    rfl
  rw [Cache.Keeps, kept, get?_channelMap]
  constructor
  · intro present
    exact mem_reverse.mp (mem_of_find?_eq_some present)
  · intro member
    cases present : rows.rows.reverse.find? fun other => decide (other.id = channel.id) with
    | none => exact absurd (find?_eq_none.mp present channel (mem_reverse.mpr member)) (by simp)
    | some other =>
      have listed := mem_reverse.mp (mem_of_find?_eq_some present)
      have equal : other.id = channel.id := by simpa using find?_some present
      rw [inj_on_of_nodup_map rows.unique listed member equal]

theorem mem_channels_initChannelCache {rows : Table Channel.id} {abilities : List Ability} {cache : Cache}
    (loaded : initChannelCache rows.rows abilities = some cache) {channel : Channel} :
    channel ∈ cache.channels ↔ channel ∈ rows.rows :=
  Cache.mem_channels.trans (keeps_initChannelCache loaded)

section
variable (compile : String → Option (String → Bool)) (options : ChannelSelectionOptions) (rows : Rows) (now : Int)
variable (group modelName requestPath : String) {channel : Channel}

theorem mem_eligible {candidates : List Channel} :
    channel ∈ options.eligible compile rows now group modelName requestPath candidates ↔
      ∃ candidate ∈ candidates, refresh rows now candidate = channel ∧
        options.allows compile group modelName requestPath channel = true := by
  unfold eligible
  rw [mem_filter, mem_map]
  constructor
  · rintro ⟨⟨candidate, member, refreshed⟩, allowed⟩
    exact ⟨candidate, member, refreshed, allowed⟩
  · rintro ⟨candidate, member, refreshed, allowed⟩
    exact ⟨⟨candidate, member, refreshed⟩, allowed⟩

theorem mem_of_selectionOf {targets : List Channel} {picked : Option Channel}
    (listed : ∀ channel ∈ picked, channel ∈ targets) (selected : selectionOf picked = .ok (some channel)) :
    channel ∈ targets := by
  unfold selectionOf at selected
  split at selected <;> cases selected
  exact listed channel rfl

theorem mem_of_selectByWeight {targets : List Channel} {value : Int}
    (drawn : (selectByWeight targets).result value = some (.ok (some channel))) : channel ∈ targets := by
  unfold selectByWeight at drawn
  dsimp only at drawn
  split at drawn
  · unfold Random.result at drawn
    dsimp only at drawn
    split_ifs at drawn
    exact mem_of_selectionOf (fun _ found => mem_of_getElem? found) (Option.some.inj drawn)
  unfold Random.result at drawn
  dsimp only at drawn
  split_ifs at drawn
  exact mem_of_selectionOf (fun _ picked => mem_of_pick _ _ picked) (Option.some.inj drawn)

theorem mem_eligible_of_result {candidates : List Channel} {value : Int}
    (drawn : (getRandomSatisfiedChannelWithOptions compile rows now group modelName requestPath options
      candidates).result value = some (.ok (some channel))) :
    channel ∈ options.eligible compile rows now group modelName requestPath candidates := by
  rw [getRandomSatisfiedChannelWithOptions_eq] at drawn
  split at drawn
  · cases drawn
  · exact (mem_filter.mp (mem_of_selectByWeight drawn)).1

theorem enabled_of_allows (allowed : options.allows compile group modelName requestPath channel = true) :
    channel.status = channelStatusEnabled := by
  by_contra other
  simp [allows, other] at allowed

theorem status_of_allows {candidate : Channel}
    (allowed : options.allows compile group modelName requestPath (refresh rows now candidate) = true) :
    candidate.status = channelStatusEnabled ∨ candidate.status = channelStatusAutoDisabled := by
  by_cases banned : candidate.status = channelStatusAutoDisabled
  · exact .inr banned
  · left
    rw [refresh, if_neg banned] at allowed
    exact enabled_of_allows compile options group modelName requestPath allowed

/-- The same channels are eligible with and without the memory cache exactly where every eligible channel's stored
text holds the group. -/
theorem eligible_same_iff (same : Char → Char → Bool) {abilities : List Ability} {cache : Cache}
    (loaded : initChannelCache rows.table.rows abilities = some cache) :
    (∀ channel, channel ∈ options.eligible compile rows now group modelName requestPath cache.channels ↔
        channel ∈ options.eligible compile rows now group modelName requestPath (databaseCandidates same rows group)) ↔
      ∀ row ∈ rows.table.rows, options.allows compile group modelName requestPath (refresh rows now row) = true →
          normalizeChannelGroupFilter group = "" ∨ HoldsGroup same row.group (normalizeChannelGroupFilter group) := by
  simp only [mem_eligible]
  constructor
  · intro agree row member allowed
    obtain ⟨candidate, offered, refreshed, _⟩ := (agree (refresh rows now row)).mp
      ⟨row, (mem_channels_initChannelCache loaded).mpr member, rfl, allowed⟩
    obtain ⟨listed, _, held⟩ := (mem_databaseCandidates same).mp offered
    -- The look at the bans keeps the identifier, and the rows have different ones.
    have equal : candidate.id = row.id := by rw [← refresh_id rows now candidate, refreshed, refresh_id]
    rw [inj_on_of_nodup_map rows.table.unique listed member equal] at held
    exact held
  · intro holds channel
    constructor
    · rintro ⟨candidate, offered, rfl, allowed⟩
      have member := (mem_channels_initChannelCache loaded).mp offered
      have status := status_of_allows compile options rows now group modelName requestPath allowed
      exact ⟨candidate, (mem_databaseCandidates same).mpr ⟨member, status, holds candidate member allowed⟩, rfl, allowed⟩
    · rintro ⟨candidate, offered, refreshed, allowed⟩
      exact ⟨candidate, (mem_channels_initChannelCache loaded).mpr ((mem_databaseCandidates same).mp offered).1, refreshed,
        allowed⟩

end

def groupRows (text : String) : Rows := ⟨⟨[{ id := 1, group := text, models := "m" }], by simp⟩, []⟩
def groupAbilities (text : String) : List Ability := (split text ',').map fun group => ⟨group, "m", 1, true, 0, 0⟩

theorem eligible_same_plain :
    (initChannelCache (groupRows "vip,a").table.rows (groupAbilities "vip,a")).isSome = true ∧ ∀ channel,
      channel ∈ noOptions.eligible (fun _ => none) (groupRows "vip,a") 0 "a" "m" ""
          ((initChannelCache (groupRows "vip,a").table.rows (groupAbilities "vip,a")).get (by decide)).channels ↔
        channel ∈ noOptions.eligible (fun _ => none) (groupRows "vip,a") 0 "a" "m" ""
          (databaseCandidates (· == ·) (groupRows "vip,a") "a") := by
  refine ⟨by decide, (eligible_same_iff (fun _ => none) noOptions (groupRows "vip,a") 0 "a" "m" "" (· == ·)
    (Option.some_get _).symm).mpr ?_⟩
  intro row member _
  cases mem_singleton.mp member
  exact .inr ⟨",vip".toList, ",a,".toList, [], by decide, by decide⟩

/-- The blank before the second entry hides it from the query. -/
theorem eligible_differs_blank : ¬∀ channel,
      channel ∈ noOptions.eligible (fun _ => none) (groupRows "vip, a") 0 "a" "m" ""
          ((initChannelCache (groupRows "vip, a").table.rows (groupAbilities "vip, a")).get (by decide)).channels ↔
        channel ∈ noOptions.eligible (fun _ => none) (groupRows "vip, a") 0 "a" "m" ""
          (databaseCandidates (· == ·) (groupRows "vip, a") "a") := by
  intro agree
  have offered := (agree { id := 1, group := "vip, a", models := "m" }).mp (by decide)
  revert offered
  decide

end FlowAPI.Channels
