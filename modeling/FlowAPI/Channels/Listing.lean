import FlowAPI.Channels.MemoryDraw

/-! What the memory cache lists after `InitChannelCache`, and what is left of it after a channel is disabled.

A channel is listed once for each pair of an entry of its group text and an entry of its models
text. Loading panics on a group for which there is no ability, and disabling a channel takes away one
occurrence of it from each list.
-/

set_option autoImplicit false
namespace FlowAPI.Channels
open Golang Semantics List Option Channel Listing List.Sublist

theorem split_ne_nil (text : String) (separator : Char) : split text separator ≠ [] := by
  unfold split
  simp

variable {channel : Channel} {group model : String} {id : Int} {channels : List Channel}

namespace Channel

theorem mem_places :
    (group, model) ∈ channel.places ↔ group ∈ split channel.group ',' ∧ model ∈ split channel.models ',' := by
  simp [places]

theorem places_nodup_iff (channel : Channel) :
    channel.places.Nodup ↔ (split channel.group ',').Nodup ∧ (split channel.models ',').Nodup := by
  obtain ⟨group, groupListed⟩ := exists_mem_of_ne_nil _ (split_ne_nil channel.group ',')
  obtain ⟨model, modelListed⟩ := exists_mem_of_ne_nil _ (split_ne_nil channel.models ',')
  have injective : ∀ group : String, Function.Injective fun model : String => (group, model) :=
    fun _ _ _ same => congrArg Prod.snd same
  unfold places
  rw [nodup_flatMap]
  constructor
  · rintro ⟨inner, apart⟩
    refine ⟨apart.imp ?_, (nodup_map_iff (injective group)).mp (inner group groupListed)⟩
    rintro left right disjoint rfl
    exact disjoint (mem_map_of_mem modelListed) (mem_map_of_mem modelListed)
  · rintro ⟨groups, models⟩
    refine ⟨fun group _ => models.map (injective group), groups.imp ?_⟩
    intro left right differ place onLeft onRight
    obtain ⟨_, _, rfl⟩ := mem_map.mp onLeft
    obtain ⟨_, _, same⟩ := mem_map.mp onRight
    exact differ (congrArg Prod.fst same).symm

end Channel

def GroupsCovered (channels : List Channel) (abilities : List Ability) : Prop :=
  ∀ channel ∈ channels, channel.status = channelStatusEnabled →
    ∀ group ∈ split channel.group ',', ∃ ability ∈ abilities, ability.group = group

def placesOf (channels : List Channel) (id : Int) : List (String × String) :=
  (channels.filter fun channel => decide (channel.status = channelStatusEnabled) && decide (channel.id = id)).flatMap
    places

namespace Listing

variable {listing loaded : Listing}

theorem append_isSome : (listing.append group model id).isSome ↔ (listing.get? group).isSome := by
  simp [append]

theorem get?_append (done : listing.append group model id = some loaded)
    (target : String) : (loaded.get? target).isSome ↔ (listing.get? target).isSome := by
  obtain ⟨_, found, rfl⟩ := map_eq_some_iff.mp done
  rw [Map.get?_set]
  by_cases same : target = group
  · simp [same, found]
  · simp [same]

variable {places : List (String × String)}

theorem get?_appendAll (done : appendAll id places listing = some loaded)
    (target : String) : (loaded.get? target).isSome ↔ (listing.get? target).isSome := by
  induction places generalizing listing with
  | nil =>
    cases done
    exact Iff.rfl
  | cons _ _ ih =>
    obtain ⟨_, first, done⟩ := bind_eq_some_iff.mp done
    exact (ih done).trans (get?_append first target)

theorem appendAll_isSome_iff :
    (appendAll id places listing).isSome ↔ ∀ place ∈ places, (listing.get? place.1).isSome := by
  induction places generalizing listing with
  | nil => simp [appendAll]
  | cons place _ ih =>
    rw [forall_mem_cons, ← append_isSome, appendAll]
    cases first : listing.append place.1 place.2 id with
    | none => simp
    | some =>
      simp only [bind_some, isSome_some, true_and, ih]
      exact forall₂_congr fun other _ => get?_append first other.1

theorem load_isSome_iff : (load channels listing).isSome ↔ ∀ channel ∈ channels, channel.status = channelStatusEnabled →
        ∀ place ∈ channel.places, (listing.get? place.1).isSome := by
  induction channels generalizing listing with
  | nil => simp [load]
  | cons channel _ ih =>
    rw [forall_mem_cons, load]
    by_cases enabled : channel.status = channelStatusEnabled
    · rw [if_neg (not_not_intro enabled), ← appendAll_isSome_iff]
      cases first : appendAll channel.id channel.places listing with
      | none => simp [enabled]
      | some =>
        simp only [bind_some, isSome_some, implies_true, true_and, ih]
        refine forall₂_congr fun other _ => forall_congr' fun _ => forall₂_congr fun place _ => ?_
        exact get?_appendAll first place.1
    · rw [if_pos enabled]
      simp [enabled, ih]

theorem ids_appendAll (done : appendAll id places listing = some loaded) (group model : String) :
    loaded.ids group model = listing.ids group model ++ List.replicate (places.count (group, model)) id := by
  induction places generalizing listing with
  | nil =>
    cases done
    simp
  | cons place _ ih =>
    obtain ⟨_, first, done⟩ := bind_eq_some_iff.mp done
    rw [ih done, ids_append first, count_cons]
    by_cases here : group = place.1 ∧ model = place.2
    · have same : place = (group, model) := Prod.ext here.1.symm here.2.symm
      rw [if_pos here, if_pos (beq_iff_eq.mpr same), replicate_succ, append_assoc, singleton_append]
    have differ : place ≠ (group, model) := by
      rintro rfl
      exact here ⟨rfl, rfl⟩
    simp [here, differ]

theorem count_load (done : load channels listing = some loaded) (id : Int) (group model : String) :
    (loaded.ids group model).count id =
      (listing.ids group model).count id + (placesOf channels id).count (group, model) := by
  induction channels generalizing listing with
  | nil =>
    cases done
    simp [placesOf]
  | cons channel _ ih =>
    rw [load] at done
    by_cases enabled : channel.status = channelStatusEnabled
    · rw [if_neg (not_not_intro enabled)] at done
      obtain ⟨_, first, done⟩ := bind_eq_some_iff.mp done
      rw [ih done, ids_appendAll first, count_append, count_replicate]
      by_cases same : channel.id = id
      · simp [placesOf, enabled, same, Nat.add_assoc]
      · simp [placesOf, enabled, same]
    · rw [if_pos enabled] at done
      rw [ih done]
      simp [placesOf, enabled]

end Listing

theorem get?_abilityGroups (abilities : List Ability) (group : String) :
    ((abilityGroups abilities).get? group).isSome ↔ ∃ ability ∈ abilities, ability.group = group := by
  have added : ∀ (listing : Listing),
      ((abilities.foldl (fun listing ability => listing.set ability.group .empty) listing).get? group).isSome ↔
        (listing.get? group).isSome ∨ ∃ ability ∈ abilities, ability.group = group := by
    induction abilities with
    | nil => simp
    | cons ability _ ih =>
      intro listing
      rw [foldl_cons, ih, Map.get?_set]
      by_cases same : group = ability.group
      · simp [same]
      · simp [same, Ne.symm same]
  rw [abilityGroups, added]
  simp

theorem initChannelCache_isSome_iff (channels : List Channel) (abilities : List Ability) :
    (initChannelCache channels abilities).isSome ↔ GroupsCovered channels abilities := by
  have loads : (initChannelCache channels abilities).isSome ↔ (load channels (abilityGroups abilities)).isSome := by
    unfold initChannelCache
    split <;> simp_all
  rw [loads, load_isSome_iff]
  refine forall₂_congr fun channel _ => forall_congr' fun _ => ?_
  constructor
  · intro covered group listed
    obtain ⟨model, modelListed⟩ := exists_mem_of_ne_nil _ (split_ne_nil channel.models ',')
    exact (get?_abilityGroups abilities group).mp (covered (group, model) (mem_places.mpr ⟨listed, modelListed⟩))
  · rintro covered ⟨group, _⟩ listed
    exact (get?_abilityGroups abilities group).mpr (covered group (mem_places.mp listed).1)

section
variable {channels : List Channel} {abilities : List Ability} {cache : Cache}

theorem count_initChannelCache (loaded : initChannelCache channels abilities = some cache) (id : Int)
    (group model : String) :
    (cache.group2model2channels.ids group model).count id = (placesOf channels id).count (group, model) := by
  unfold initChannelCache at loaded
  split at loaded <;> cases loaded
  next _ filled =>
    rw [ids_change _ rfl, sortByPriority, (perm_insertionSort _ _).count_eq, count_load filled, ids_abilityGroups]
    simp

/-- The cache lists every enabled channel under each of its groups and models. -/
def Cache.Lists (cache : Cache) (channels : List Channel) : Prop :=
  ∀ channel ∈ channels, channel.status = channelStatusEnabled →
    ∀ group ∈ split channel.group ',', ∀ model ∈ split channel.models ',',
      channel.id ∈ cache.group2model2channels.ids group model

theorem initChannelCache_lists (loaded : initChannelCache channels abilities = some cache) : cache.Lists channels := by
  intro channel member enabled group groupListed model modelListed
  rw [← count_pos_iff, count_initChannelCache loaded, count_pos_iff]
  refine mem_flatMap.mpr ⟨channel, ?_, mem_places.mpr ⟨groupListed, modelListed⟩⟩
  simp [member, enabled]

end

/-- Loading ends, with every enabled channel listed, exactly for tables in which the abilities name every group of
the enabled channels. -/
theorem initChannelCache_lists_iff (channels : List Channel) (abilities : List Ability) :
    (∃ cache, initChannelCache channels abilities = some cache ∧ cache.Lists channels) ↔
      GroupsCovered channels abilities := by
  rw [← initChannelCache_isSome_iff, isSome_iff_exists]
  constructor
  · rintro ⟨cache, loaded, _⟩
    exact ⟨cache, loaded⟩
  · rintro ⟨cache, loaded⟩
    exact ⟨cache, loaded, initChannelCache_lists loaded⟩

def deletedMeanwhile : Channel := { id := 1, group := "default", models := "m" }

theorem initChannelCache_panics_on_deleted :
    ¬ ∃ cache, initChannelCache [deletedMeanwhile] [] = some cache ∧ cache.Lists [deletedMeanwhile] := by
  rintro ⟨_, loaded, _⟩
  have panics : (initChannelCache [deletedMeanwhile] []).isSome = false := by decide
  rw [loaded] at panics
  cases panics

inductive CacheUpdate where
  | setStatus (id status : Int)
  | replace (channel : Channel)

def CacheUpdate.enables (id : Int) : CacheUpdate → Bool
  | .setStatus target status => decide (target = id) && decide (status = channelStatusEnabled)
  | .replace channel => decide (channel.id = id) && decide (channel.status = channelStatusEnabled)

namespace Cache

def apply (cache : Cache) : CacheUpdate → Cache
  | .setStatus id status => cache.updateChannelStatus id status
  | .replace channel => cache.updateChannel channel

def applyAll (cache : Cache) (updates : List CacheUpdate) : Cache := updates.foldl apply cache

variable (cache : Cache)

theorem ids_updateChannelStatus (id status : Int) (group model : String) :
    (cache.updateChannelStatus id status).group2model2channels.ids group model =
      if status ≠ channelStatusEnabled then (cache.group2model2channels.ids group model).erase id
      else cache.group2model2channels.ids group model := by
  unfold updateChannelStatus
  split
  · rw [ids_change _ rfl]
  · rfl

theorem ids_apply_sublist (update : CacheUpdate) (group model : String) :
    List.Sublist ((cache.apply update).group2model2channels.ids group model)
      (cache.group2model2channels.ids group model) := by
  cases update with
  | setStatus =>
    rw [apply, ids_updateChannelStatus]
    split
    · exact erase_sublist
    · exact refl _
  | replace => exact refl _

theorem ids_applyAll_sublist (updates : List CacheUpdate) (group model : String) :
    List.Sublist ((cache.applyAll updates).group2model2channels.ids group model)
      (cache.group2model2channels.ids group model) := by
  induction updates generalizing cache with
  | nil => exact refl _
  | cons update _ ih => exact (ih (cache.apply update)).trans (ids_apply_sublist cache update group model)

theorem ids_applyAll_disable {status : Int} (disables : status ≠ channelStatusEnabled)
    (ids : List Int) (group model : String) :
    (cache.applyAll (ids.map fun id => .setStatus id status)).group2model2channels.ids group model =
      (cache.group2model2channels.ids group model).diff ids := by
  induction ids generalizing cache with
  | nil => simp [applyAll]
  | cons _ _ ih =>
    rw [map_cons, applyAll, foldl_cons, ← applyAll, ih, diff_cons, apply, ids_updateChannelStatus, if_pos disables]

section
variable (compile : String → Option (String → Bool))

def Returns (cache : Cache) (id : Int) : Prop :=
  ∃ (group model requestPath : String) (retry : Nat) (outcomes : List Selected) (channel : Channel),
    (cache.getRandomSatisfiedChannel compile group model retry requestPath).outcomes = some outcomes ∧
      .ok (some channel) ∈ outcomes ∧ channel.id = id

/-- Once the channel is disabled no call returns it, as long as nothing enables it. -/
def KeepsDisabledOut (cache : Cache) (id : Int) : Prop :=
  ∀ (before after : List CacheUpdate) (status : Int), status ≠ channelStatusEnabled →
    (∀ update ∈ after, update.enables id = false) →
      ¬(((cache.applyAll before).updateChannelStatus id status).applyAll after).Returns compile id

variable {cache : Cache}

theorem mem_of_lookupAll {ids : List Int} (found : cache.lookupAll ids = .ok channels) (member : channel ∈ channels) :
    channel.id ∈ ids := by
  induction ids generalizing channels with
  | nil =>
    cases found
    cases member
  | cons id rest ih =>
    rw [lookupAll] at found
    split at found
    · cases found
    next _ present =>
      cases later : cache.lookupAll rest with
      | error => simp [later, Except.map] at found
      | ok =>
        simp only [later, Except.map, Except.ok.injEq] at found
        subst found
        rcases mem_cons.mp member with rfl | other
        · simp [cache.keyed id _ present]
        · exact mem_cons_of_mem _ (ih later other)

theorem mem_of_selectSmoothed {targets : List Channel} {outcomes : List Selected}
    (drawn : (selectSmoothed targets).outcomes = some outcomes) (member : .ok (some channel) ∈ outcomes) :
    channel ∈ targets := by
  unfold selectSmoothed at drawn
  simp only [Random.outcomes] at drawn
  split at drawn <;> cases drawn
  obtain ⟨_, _, selected⟩ := mem_map.mp member
  unfold selectionOf at selected
  split at selected
  next picked =>
    cases selected
    exact mem_of_pick _ _ picked
  · cases selected

theorem mem_candidates_of_outcome {requestPath : String} {retry : Nat} {outcomes : List Selected}
    (drawn : (cache.getRandomSatisfiedChannel compile group model retry requestPath).outcomes = some outcomes)
    (member : .ok (some channel) ∈ outcomes) : channel.id ∈ cache.candidates compile group model requestPath := by
  unfold getRandomSatisfiedChannel at drawn
  split at drawn
  · cases drawn
    simp at member
  next id only =>
    split at drawn <;> cases drawn
    next returned present =>
      have same : channel = returned := by simpa using member
      rw [only, same, cache.keyed id returned present]
      exact mem_singleton_self id
    · simp at member
  · split at drawn
    · cases drawn
      simp at member
    next _ found =>
      split at drawn
      · cases drawn
        simp at member
      · split at drawn
        · cases drawn
          simp at member
        · exact mem_of_lookupAll found (mem_of_mem_filter (mem_of_selectSmoothed drawn member))

theorem returns_of_only (only : cache.group2model2channels.ids group model = [id]) : cache.Returns compile id := by
  obtain ⟨channel, present⟩ := isSome_iff_exists.mp (cache.listed group model id (by simp [only]))
  have candidate : cache.candidates compile group model "" = [id] := by
    simp [candidates, filterChannelsByRequestPathAndModel, only]
  refine ⟨group, model, "", 0, [.ok (some channel)], channel, ?_, mem_singleton_self _, cache.keyed id channel present⟩
  simp [getRandomSatisfiedChannel, candidate, present, Random.outcomes]

theorem diff_erase_self {ids : List Int} (member : id ∈ ids) : ids.diff (ids.erase id) = [id] := by
  rw [← perm_singleton, perm_iff_count]
  intro other
  have positive := count_pos_iff.mpr member
  rw [count_diff, count_erase, count_singleton]
  by_cases same : id = other
  · subst same
    simp only [beq_self_eq_true, if_true]
    omega
  · simp [same]

theorem keepsDisabledOut_iff (cache : Cache) (id : Int) : cache.KeepsDisabledOut compile id ↔
      ∀ group model, (cache.group2model2channels.ids group model).count id ≤ 1 := by
  constructor
  · intro out group model
    by_contra twice
    -- All other listed channels are disabled, and this one until it is listed once.
    have still : id ∈ (cache.group2model2channels.ids group model).erase id := by
      rw [← count_pos_iff, count_erase_self]
      omega
    have left := ids_applyAll_disable (cache.updateChannelStatus id 2) (by decide : (2 : Int) ≠ channelStatusEnabled)
      (((cache.group2model2channels.ids group model).erase id).erase id) group model
    rw [ids_updateChannelStatus, if_pos (by decide), diff_erase_self still] at left
    exact out [] _ 2 (by decide) (by simp [CacheUpdate.enables, channelStatusEnabled]) (returns_of_only compile left)
  · rintro single before after _ disables _ ⟨group, _, _, _, _, _, drawn, member, same⟩
    obtain ⟨name, listed⟩ := candidates_listed compile (mem_candidates_of_outcome compile drawn member)
    rw [same] at listed
    have erased := (ids_applyAll_sublist _ after group name).subset listed
    rw [ids_updateChannelStatus, if_pos disables, ← count_pos_iff, count_erase_self] at erased
    have atMost := (ids_applyAll_sublist cache before group name).count_le id
    have once := single group name
    omega

end

end Cache

section
variable (compile : String → Option (String → Bool))

def NamedOnce (channels : List Channel) (id : Int) : Prop :=
  ∀ channel ∈ channels, channel.id = id → channel.status = channelStatusEnabled →
    (split channel.group ',').Nodup ∧ (split channel.models ',').Nodup

theorem placesOf_nodup_iff (distinct : (channels.map Channel.id).Nodup) (id : Int) :
    (placesOf channels id).Nodup ↔ NamedOnce channels id := by
  unfold placesOf NamedOnce
  rw [nodup_flatMap]
  have one : List.Pairwise (Function.onFun List.Disjoint places)
      (channels.filter fun channel => decide (channel.status = channelStatusEnabled) && decide (channel.id = id)) := by
    have apart := (pairwise_map.mp distinct).filter
      fun channel => decide (channel.status = channelStatusEnabled) && decide (channel.id = id)
    refine apart.imp_of_mem ?_
    intro left right inLeft inRight differ
    simp only [mem_filter, Bool.and_eq_true, decide_eq_true_eq] at inLeft inRight
    exact absurd (inLeft.2.2.trans inRight.2.2.symm) differ
  simp only [one, and_true, places_nodup_iff, mem_filter, Bool.and_eq_true, decide_eq_true_eq]
  exact ⟨fun once channel member same enabled => once channel ⟨member, enabled, same⟩,
    fun once channel member => once channel member.1 member.2.2 member.2.1⟩

/-- A channel that is disabled in a loaded cache is not returned any more exactly where its texts name no group and no
model twice. -/
theorem disabled_channel_out_iff {channels : List Channel} {abilities : List Ability} {cache : Cache}
    (distinct : (channels.map Channel.id).Nodup) (loaded : initChannelCache channels abilities = some cache) (id : Int) :
    cache.KeepsDisabledOut compile id ↔ NamedOnce channels id := by
  rw [Cache.keepsDisabledOut_iff, ← placesOf_nodup_iff distinct, nodup_iff_count_le_one]
  constructor
  · intro single place
    rw [← count_initChannelCache loaded id place.1 place.2]
    exact single place.1 place.2
  · intro single group model
    rw [count_initChannelCache loaded]
    exact single (group, model)

def listedTwice : Channel := { id := 7, group := "default", models := "m,m" }
def listedOnce : Channel := { id := 7, group := "default", models := "m,n" }
def defaultAbility : Ability := ⟨"default", "m", 7, true, 0, 0⟩

theorem disabled_channel_out_listed_once :
    ((initChannelCache [listedOnce] [defaultAbility]).get (by decide)).KeepsDisabledOut (fun _ => none) 7 :=
  (disabled_channel_out_iff (fun _ => none) (by decide) (some_get _).symm 7).mpr (by
      unfold NamedOnce
      decide)

/-- The second occurrence stays, and the disabled channel is returned. -/
theorem disabled_channel_listed_twice_returned :
    ¬((initChannelCache [listedTwice] [defaultAbility]).get (by decide)).KeepsDisabledOut (fun _ => none) 7 := by
  intro out
  refine out [] [] 3 (by decide) (by simp)
    ⟨"default", "m", "", 0, [.ok (some { listedTwice with status := 3 })], { listedTwice with status := 3 }, ?_,
      mem_singleton_self _, rfl⟩
  decide

end

end FlowAPI.Channels
