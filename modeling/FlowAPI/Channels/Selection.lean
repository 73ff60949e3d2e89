import FlowAPI.Channels.Record
import FlowAPI.Golang.Map
import FlowAPI.Semantics.Draw
import FlowAPI.Semantics.Table
import Mathlib.Data.List.Dedup
import Mathlib.Data.List.Sort

/-! The memory cache of channels and the selection of one for a request: `model/channel_cache.go`, `model/ability.go`
and `model/channel_resilient_select.go`.

The cache lists the identifiers of enabled channels by group and model, and keeps all channels by identifier. That
every identifier it lists is a channel it keeps is part of the type. A selection draws at most one random number; it
is given as the number it may draw and the result for each of its values. -/

set_option autoImplicit false
namespace FlowAPI.Channels
open Golang List Map

structure Ability where
  (group model : String)
  channelId : Int
  enabled : Bool
  priority : Int
  weight : UInt64
  deriving DecidableEq

abbrev Listing := Map String (Map String (List Int))
def Listing.ids (listing : Listing) (group model : String) : List Int :=
  ((listing.get? group).bind fun models => models.get? model).getD []
def Listing.Within (listing : Listing) (ids : Int → Prop) : Prop :=
  ∀ group model, ∀ id ∈ listing.ids group model, ids id

structure Cache where
  channelsIDM : Map Int Channel
  group2model2channels : Listing
  channel2advancedCustomConfig : Map Int AdvancedCustomConfig
  keyed : ∀ id channel, channelsIDM.get? id = some channel → channel.id = id
  listed : group2model2channels.Within fun id => (channelsIDM.get? id).isSome

/-- Appends an identifier. The map of a group without abilities is nil, and writing to it panics. -/
def Listing.append (listing : Listing) (group model : String) (id : Int) : Option Listing :=
  (listing.get? group).map fun models => listing.set group (models.set model ((models.get? model).getD [] ++ [id]))

theorem Listing.ids_append {listing appended : Listing} {group model : String} {id : Int}
    (done : listing.append group model id = some appended) (target name : String) : appended.ids target name =
      if target = group ∧ name = model then listing.ids target name ++ [id] else listing.ids target name := by
  obtain ⟨_, found, rfl⟩ := Option.map_eq_some_iff.mp done
  unfold ids
  rw [get?_set]
  by_cases sameGroup : target = group
  · by_cases sameModel : name = model
    · simp [sameGroup, sameModel, found, get?_set]
    · simp [sameGroup, sameModel, found, get?_set]
  · simp [sameGroup]

def Channel.places (channel : Channel) : List (String × String) :=
  (split channel.group ',').flatMap fun group => (split channel.models ',').map fun model => (group, model)

def Listing.appendAll (id : Int) : List (String × String) → Listing → Option Listing
  | [], listing => some listing
  | (group, model) :: rest, listing => (listing.append group model id).bind (appendAll id rest)

def Listing.load : List Channel → Listing → Option Listing
  | [], listing => some listing
  | channel :: rest, listing =>
    if channel.status ≠ channelStatusEnabled then load rest listing
    else (Listing.appendAll channel.id channel.places listing).bind (load rest)

section
variable {ids : Int → Prop} {listing loaded : Listing}

theorem Listing.Within.appendAll {id : Int} {places : List (String × String)} (within : listing.Within ids)
    (member : ids id) (done : Listing.appendAll id places listing = some loaded) : loaded.Within ids := by
  induction places generalizing listing with
  | nil =>
    cases done
    exact within
  | cons _ _ ih =>
    obtain ⟨_, first, done⟩ := Option.bind_eq_some_iff.mp done
    refine ih ?_ done
    intro group model other listed
    rw [Listing.ids_append first] at listed
    split at listed
    · rcases mem_append.mp listed with old | new
      · exact within group model other old
      · rw [mem_singleton.mp new]
        exact member
    · exact within group model other listed

theorem Listing.Within.load {channels : List Channel} (within : listing.Within ids)
    (members : ∀ channel ∈ channels, ids channel.id) (done : Listing.load channels listing = some loaded) :
    loaded.Within ids := by
  induction channels generalizing listing with
  | nil =>
    cases done
    exact within
  | cons _ _ ih =>
    obtain ⟨first, members⟩ := forall_mem_cons.mp members
    rw [Listing.load] at done
    split at done
    · exact ih within members done
    · obtain ⟨_, placed, done⟩ := Option.bind_eq_some_iff.mp done
      exact ih (within.appendAll first placed) members done

end

variable (channels : List Channel)

def channelMap : Map Int Channel := channels.foldl (fun map channel => map.set channel.id channel) .empty

theorem get?_foldl_set (map : Map Int Channel) (id : Int) :
    (channels.foldl (fun map channel => map.set channel.id channel) map).get? id =
      (channels.reverse.find? fun channel => channel.id = id).or (map.get? id) := by
  induction channels generalizing map with
  | nil => simp
  | cons channel _ ih =>
    rw [foldl_cons, ih, reverse_cons, find?_append, Option.or_assoc, get?_set]
    by_cases same : id = channel.id
    · simp [same]
    · simp [same, Ne.symm same]

theorem get?_channelMap (id : Int) :
    (channelMap channels).get? id = channels.reverse.find? fun channel => channel.id = id := by
  rw [channelMap, get?_foldl_set]
  simp

def configMap : Map Int AdvancedCustomConfig :=
  channels.foldl
    (fun map channel =>
      match if channel.type = channelTypeAdvancedCustom then channel.advancedCustom else none with
      | some config => map.set channel.id config
      | none => map) .empty

variable (abilities : List Ability)

def abilityGroups : Listing := abilities.foldl (fun listing ability => listing.set ability.group .empty) .empty

theorem ids_abilityGroups (group model : String) : (abilityGroups abilities).ids group model = [] := by
  have empty : ∀ (listing : Listing), listing.ids group model = [] →
      (abilities.foldl (fun listing ability => listing.set ability.group .empty) listing).ids group model = [] := by
    induction abilities with
    | nil => exact fun _ none => none
    | cons ability _ ih =>
      intro listing none
      refine ih _ ?_
      unfold Listing.ids at none ⊢
      rw [get?_set]
      by_cases same : group = ability.group
      · simp [same]
      · simpa [same] using none
  exact empty .empty rfl

def sortByPriority (channels : Map Int Channel) (ids : List Int) : List Int :=
  ids.insertionSort fun left right =>
    ((channels.get? right).map Channel.getPriority).getD 0 ≤ ((channels.get? left).map Channel.getPriority).getD 0

def Listing.change (change : List Int → List Int) (listing : Listing) : Listing :=
  listing.update fun models => models.update change

theorem Listing.ids_change (change : List Int → List Int) (nothing : change [] = []) (listing : Listing)
    (group model : String) : (listing.change change).ids group model = change (listing.ids group model) := by
  unfold ids Listing.change
  rw [get?_update]
  cases listing.get? group with
  | none => exact nothing.symm
  | some models =>
    simp only [Option.map_some, Option.bind_some, get?_update]
    cases models.get? model with
    | none => exact nothing.symm
    | some => rfl

/-- `InitChannelCache` with the rows that its two queries return. It panics on a channel whose group has no
ability. -/
def initChannelCache : Option Cache :=
  match loaded : Listing.load channels (abilityGroups abilities) with
  | none => none
  | some listing =>
    some
      { channelsIDM := channelMap channels
        group2model2channels := listing.change (sortByPriority (channelMap channels))
        channel2advancedCustomConfig := configMap channels
        keyed := by
          intro id channel found
          rw [get?_channelMap] at found
          simpa using find?_some found
        listed := by
          intro group model id member
          rw [Listing.ids_change _ rfl] at member
          have within : listing.Within fun id => ∃ channel ∈ channels, channel.id = id := by
            refine Listing.Within.load ?_ (fun channel member => ⟨channel, member, rfl⟩) loaded
            intro group model id member
            rw [ids_abilityGroups] at member
            cases member
          obtain ⟨channel, inChannels, same⟩ := within group model id ((mem_insertionSort _).mp member)
          rw [get?_channelMap, find?_isSome]
          exact ⟨channel, mem_reverse.mpr inChannels, decide_eq_true same⟩ }

/-- `CacheUpdateChannelStatus`: a channel that is not enabled any more is taken out of each list at its first place. -/
def Cache.updateChannelStatus (cache : Cache) (id status : Int) : Cache where
  channelsIDM :=
    match cache.channelsIDM.get? id with
    | some channel => cache.channelsIDM.set id { channel with status }
    | none => cache.channelsIDM
  group2model2channels :=
    if status ≠ channelStatusEnabled then cache.group2model2channels.change fun ids => ids.erase id
    else cache.group2model2channels
  channel2advancedCustomConfig := cache.channel2advancedCustomConfig
  keyed := by
    intro target channel found
    cases present : cache.channelsIDM.get? id with
    | none =>
      rw [present] at found
      exact cache.keyed target channel found
    | some old =>
      simp only [present, get?_set] at found
      by_cases same : target = id
      · rw [if_pos same] at found
        cases found
        exact (cache.keyed id old present).trans same.symm
      · rw [if_neg same] at found
        exact cache.keyed target channel found
  listed := by
    intro group model other member
    have before : other ∈ cache.group2model2channels.ids group model := by
      split at member
      · rw [Listing.ids_change _ rfl] at member
        exact mem_of_mem_erase member
      · exact member
    have kept := cache.listed group model other before
    cases present : cache.channelsIDM.get? id with
    | none => exact kept
    | some channel =>
      simp only [get?_set]
      split
      · rfl
      · exact kept

def Cache.updateChannel (cache : Cache) (channel : Channel) : Cache where
  channelsIDM := cache.channelsIDM.set channel.id channel
  group2model2channels := cache.group2model2channels
  channel2advancedCustomConfig :=
    match if channel.type = channelTypeAdvancedCustom then channel.advancedCustom else none with
    | some config => (cache.channel2advancedCustomConfig.delete channel.id).set channel.id config
    | none => cache.channel2advancedCustomConfig.delete channel.id
  keyed := by
    intro target other found
    rw [get?_set] at found
    split at found
    next same =>
      cases found
      exact same.symm
    next => exact cache.keyed target other found
  listed := by
    intro group model id member
    rw [get?_set]
    split
    · rfl
    · exact cache.listed group model id member

open Semantics Ability

inductive SelectError where
  | missing (id : Int)
  | noChannel (group model : String) (priority : Int)
  | inconsistent | notFound | recordNotFound
  deriving DecidableEq

def SelectError.message : SelectError → String
  | .missing id => "数据库一致性错误，渠道# " ++ toString id ++ " 不存在，请联系管理员修复"
  | .noChannel group model priority =>
    "no channel found, group: " ++ group ++ ", model: " ++ model ++ ", priority: " ++ toString priority
  | .inconsistent => "数据库一致性被破坏"
  | .notFound => "channel not found"
  | .recordNotFound => "record not found"

abbrev Selected := Except SelectError (Option Channel)
def descending (priorities : List Int) : List Int := priorities.dedup.insertionSort (· ≥ ·)

def levelAt (priorities : List Int) (retry : Nat) : Option Int := priorities[min retry (priorities.length - 1)]?

section
variable (compile : String → Option (String → Bool))

/-! ### `GetChannel` -/

structure Database where
  abilities : Table fun ability : Ability => (ability.group, ability.model, ability.channelId)
  channels : Table Channel.id

namespace Database

variable (db : Database) (group model : String)

def enabledAbilities : List Ability :=
  db.abilities.rows.filter fun ability =>
    decide (ability.group = group) && decide (ability.model = model) && ability.enabled

variable (retry : Nat)

def getPriority : Except SelectError Int :=
  match levelAt (descending ((db.enabledAbilities group model).map priority)) retry with
  | some priority => .ok priority
  | none => .error .inconsistent

/-- `getChannelQuery` and the rows it finds. Without a retry the highest priority is asked for, in one query. -/
def getChannelQuery : Except SelectError (List Ability) :=
  let atPriority (priority : Int) :=
    ((db.enabledAbilities group model).filter fun ability => decide (ability.priority = priority)).insertionSort
      fun left right => left.weight ≥ right.weight
  if retry ≠ 0 then (db.getPriority group model retry).map atPriority
  else .ok (((db.enabledAbilities group model).map priority).max?.elim [] atPriority)

variable (abilities : List Ability)

def filterAbilitiesByRequestPathAndModel (requestPath model : String) :
    List Ability :=
  if requestPath = "" then abilities
  else
    abilities.filter fun ability =>
      match db.channels.find ability.channelId with
      | none => true
      | some channel =>
        if channel.type ≠ channelTypeAdvancedCustom then true
        else channel.advancedCustom.any fun config => config.supportsPathForModel compile requestPath model

def candidateAbilities (requestPath : String) :
    Except SelectError (List Ability) :=
  (db.getChannelQuery group model retry).map fun abilities =>
    db.filterAbilitiesByRequestPathAndModel compile abilities requestPath model

def abilityWeightSum : UInt64 := abilities.foldl (fun weightSum ability => weightSum + (ability.weight + 10)) 0
def takeAbility (weight : Int) (ability : Ability) : Int := int (weight - int (int ability.weight.toNat + 10))
def pickAbility : Random (Option Ability) :=
  .draw (int (abilityWeightSum abilities).toNat) (pick (· ≤ 0) takeAbility abilities)

def firstChannel (ability : Option Ability) : Selected :=
  match db.channels.find ((ability.map channelId).getD 0) with
  | some channel => .ok (some channel)
  | none => .error .recordNotFound

def getChannel (requestPath : String) : Random Selected :=
  match db.candidateAbilities compile group model retry requestPath with
  | .error error => .done (.error error)
  | .ok [] => .done (.ok none)
  | .ok abilities => (pickAbility abilities).map db.firstChannel

end Database

/-! ### `GetRandomSatisfiedChannel` -/

namespace Cache

def filterChannelsByRequestPathAndModel (cache : Cache) (ids : List Int) (requestPath model : String) : List Int :=
  if requestPath = "" then ids
  else
    ids.filter fun id =>
      match cache.channelsIDM.get? id with
      | none => true
      | some channel =>
        if channel.type ≠ channelTypeAdvancedCustom then true
        else
          (cache.channel2advancedCustomConfig.get? id).any fun config =>
            config.supportsPathForModel compile requestPath model

/-- The channels listed for the model or, where there are none, for its normalized name. -/
def candidates (cache : Cache) (group model requestPath : String) : List Int :=
  let exact := cache.filterChannelsByRequestPathAndModel compile (cache.group2model2channels.ids group model)
    requestPath model
  if exact = [] then
    cache.filterChannelsByRequestPathAndModel compile
      (cache.group2model2channels.ids group (formatMatchingModelName model)) requestPath model
  else exact

def lookupAll (cache : Cache) : List Int → Except SelectError (List Channel)
  | [] => .ok []
  | id :: rest =>
    match cache.channelsIDM.get? id with
    | none => .error (.missing id)
    | some channel => (cache.lookupAll rest).map (channel :: ·)

end Cache

structure Smoothing where
  (sumWeight smoothingFactor smoothingAdjustment : Int)

def sumWeight (channels : List Channel) : Int := channels.foldl (fun sum channel => int (sum + channel.getWeight)) 0

def smoothing (targetChannels : List Channel) : Smoothing :=
  let sum := sumWeight targetChannels
  if sum = 0 then ⟨int (targetChannels.length * 100), 1, 100⟩
  else if sum.tdiv targetChannels.length < 10 then ⟨sum, 100, 0⟩
  else ⟨sum, 1, 0⟩

def Smoothing.take (smoothing : Smoothing) (randomWeight : Int) (channel : Channel) : Int :=
  int (randomWeight - int (int (channel.getWeight * smoothing.smoothingFactor) + smoothing.smoothingAdjustment))

def selectionOf (picked : Option Channel) : Selected :=
  match picked with
  | some channel => .ok (some channel)
  | none => .error .notFound

def selectSmoothed (targetChannels : List Channel) : Random Selected :=
  let smoothing := smoothing targetChannels
  .draw (int (smoothing.sumWeight * smoothing.smoothingFactor)) fun randomWeight =>
    selectionOf (pick (· < 0) smoothing.take targetChannels randomWeight)

def Cache.getRandomSatisfiedChannel (cache : Cache) (group model : String) (retry : Nat) (requestPath : String) :
    Random Selected :=
  match cache.candidates compile group model requestPath with
  | [] => .done (.ok none)
  | [id] =>
    match cache.channelsIDM.get? id with
    | some channel => .done (.ok (some channel))
    | none => .done (.error (.missing id))
  | ids =>
    match cache.lookupAll ids with
    | .error error => .done (.error error)
    | .ok channels =>
      match levelAt (descending (channels.map Channel.getPriority)) retry with
      | none => .done (.error .notFound)
      | some targetPriority =>
        match channels.filter fun channel => decide (channel.getPriority = targetPriority) with
        | [] => .done (.error (.noChannel group model targetPriority))
        | targetChannels => selectSmoothed targetChannels

/-! ### `GetRandomSatisfiedChannelWithOptions` -/

structure ChannelSelectionOptions where
  excludedChannelIDs : List Int
  candidateAllowed : Option (Channel → Bool)

structure Rows where
  table : Table Channel.id
  failing : List Int

variable (rows : Rows)

def Rows.read (id : Int) : Option Channel := if id ∈ rows.failing then none else rows.table.find id

/-- `MaybeRestoreAutoBannedChannel`: the channel that is available after it, if any. The row is read again, and a
transaction that fails leaves the channel as it is. -/
def maybeRestoreAutoBannedChannel (now : Int) (channel : Channel) : Option Channel :=
  if channel.status ≠ channelStatusAutoDisabled then
    if channel.status = channelStatusEnabled then some channel else none
  else if channel.autoBanUntil ≤ 0 ∨ now < channel.autoBanUntil then none
  else
    match rows.read channel.id with
    | none => none
    | some current =>
      if current.status = channelStatusEnabled then some current
      else if current.status ≠ channelStatusAutoDisabled then none
      else if current.autoBanUntil ≤ 0 ∨ now < current.autoBanUntil then none
      else some { current with status := channelStatusEnabled, autoBanUntil := 0 }

def refresh (now : Int) (channel : Channel) : Channel :=
  if channel.status = channelStatusAutoDisabled then
    match maybeRestoreAutoBannedChannel rows now channel with
    | some current => { current with status := channelStatusEnabled }
    | none => channel
  else channel

def ChannelSelectionOptions.allows (options : ChannelSelectionOptions) (group modelName requestPath : String)
    (channel : Channel) : Bool :=
  let normalizedModel := formatMatchingModelName modelName
  if channel.status ≠ channelStatusEnabled || !channel.inGroup group then false
  else if channel.id ∈ options.excludedChannelIDs then false
  else if !channel.supportsModel compile modelName &&
      (normalizedModel == modelName || !channel.supportsModel compile normalizedModel) then false
  else if channel.type = channelTypeAdvancedCustom && !channel.supportsRequestPath compile requestPath modelName then
    false
  else
    match options.candidateAllowed with
    | none => true
    | some allowed => allowed channel

structure Highest where
  priority : Option Int
  eligible : List Channel

def Highest.add (highest : Highest) (channel : Channel) : Highest :=
  let raised : Highest :=
    match highest.priority with
    | none => ⟨some channel.getPriority, []⟩
    | some priority => if channel.getPriority > priority then ⟨some channel.getPriority, []⟩ else highest
  if raised.priority = some channel.getPriority then { raised with eligible := raised.eligible ++ [channel] } else raised

def selectByWeight (eligible : List Channel) : Random Selected :=
  let weightSum := sumWeight eligible
  if weightSum = 0 then .draw eligible.length fun position => selectionOf eligible[position.toNat]?
  else
    .draw weightSum fun weight =>
      selectionOf (pick (· < 0) (fun weight channel => int (weight - channel.getWeight)) eligible weight)

/-- `GetRandomSatisfiedChannelWithOptions` with the candidates in the order in which the map of channels, or the
query, returns them. -/
def getRandomSatisfiedChannelWithOptions (now : Int) (group modelName requestPath : String)
    (options : ChannelSelectionOptions) (candidates : List Channel) : Random Selected :=
  let highest : Highest := candidates.foldl
    (fun (highest : Highest) candidate =>
      let channel := refresh rows now candidate
      if options.allows compile group modelName requestPath channel then highest.add channel else highest)
    ⟨none, []⟩
  match highest.eligible with
  | [] => .done (.ok none)
  | eligible => selectByWeight eligible

end

end FlowAPI.Channels
