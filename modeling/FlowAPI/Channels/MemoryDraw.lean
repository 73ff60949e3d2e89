import FlowAPI.Channels.Selection

/-! How often the selections over the memory cache return each channel.

Their loops stop below zero and return every channel as often as its weight in the draw says.
-/

set_option autoImplicit false
namespace FlowAPI.Channels
open Golang Semantics List Highest Int

def Channel.rowWeight (channel : Channel) : Nat := (channel.weight.map UInt64.toNat).getD 0

open Channel (rowWeight)

/-- The weight of a channel in a draw among channels: 100 where all weights are zero, a hundred times its weight where
the average is below 10, and else its weight. -/
def effectiveWeight (targets : List Channel) (channel : Channel) : Nat :=
  if weightSum Channel.rowWeight targets = 0 then 100
  else if weightSum Channel.rowWeight targets / targets.length < 10 then channel.rowWeight * 100
  else channel.rowWeight

/-- Every outcome is a target, and each target is the outcome of as many draws as its weight says, once for
each of its occurrences. -/
def SelectsByWeight (selection : Random Selected) (targets : List Channel) (weight : Channel → Nat) : Prop :=
  ∃ results, selection.outcomes = some results ∧ results.length = weightSum weight targets ∧ results ≠ [] ∧
    (∀ result ∈ results, ∃ channel ∈ targets, result = .ok (some channel)) ∧
    ∀ channel ∈ targets, results.count (.ok (some channel)) = targets.count channel * weight channel

variable {targets : List Channel}

theorem selectsByWeight_of_takes {weight : Channel → Nat} {step : Int → Channel → Int}
    {bound : Int} (takes : Takes step weight (weightSum weight targets) targets)
    (exact : bound = weightSum weight targets) (positive : 0 < weightSum weight targets) :
    SelectsByWeight (.draw bound fun value => selectionOf (pick (· < 0) step targets value)) targets weight := by
  have picked : ∀ value < weightSum weight targets, ∃ channel ∈ targets,
      pick (· < 0) step targets (value : Nat) = some channel := by
    intro value below
    obtain ⟨channel, found⟩ := Option.isSome_iff_exists.mp (pick_isSome takes below below)
    exact ⟨channel, mem_of_pick _ _ found, found⟩
  refine ⟨_, by rw [Random.outcomes, exact, if_pos (by omega), toNat_natCast], by simp, by simp; omega, ?_, ?_⟩
  · intro result member
    obtain ⟨value, inRange, rfl⟩ := mem_map.mp member
    obtain ⟨channel, inTargets, found⟩ := picked value (mem_range.mp inRange)
    exact ⟨channel, inTargets, by rw [found]; rfl⟩
  · intro channel _
    rw [← countP_pick takes (Nat.le_refl _), count_eq_countP, countP_map]
    apply countP_congr
    intro value inRange
    obtain ⟨_, -, found⟩ := picked value (mem_range.mp inRange)
    simp [found, selectionOf]

theorem getWeight_of_fits {channel : Channel} (fits : channel.rowWeight < 2 ^ 63) :
    channel.getWeight = channel.rowWeight := by
  unfold Channel.getWeight
  cases given : channel.weight with
  | none => simp [rowWeight, given]
  | some weight =>
    have row : channel.rowWeight = weight.toNat := by simp [rowWeight, given]
    rw [row] at fits ⊢
    exact int_of_fits (by omega) (by omega)

theorem sumWeight_of_fits {channels : List Channel} (fits : weightSum rowWeight channels < 2 ^ 63) :
    sumWeight channels = weightSum rowWeight channels := by
  have folded : ∀ sum : Nat, sum + weightSum rowWeight channels < 2 ^ 63 →
      channels.foldl (fun sum channel => int (sum + channel.getWeight)) (sum : Int) =
        ((sum + weightSum rowWeight channels : Nat) : Int) := by
    clear fits
    induction channels with
    | nil => simp [weightSum]
    | cons channel _ ih =>
      intro sum fits
      rw [weightSum_cons] at fits ⊢
      have added : int ((sum : Int) + channel.getWeight) = ((sum + channel.rowWeight : Nat) : Int) := by
        rw [getWeight_of_fits (by omega), int_of_fits (by omega) (by omega)]
        omega
      rw [foldl_cons, added, ih _ (by omega), Nat.add_assoc]
  simpa [sumWeight] using folded 0 (by omega)

theorem weightSum_const (channels : List Channel) (weight : Nat) :
    weightSum (fun _ => weight) channels = channels.length * weight := by
  simp [weightSum]

theorem rowWeight_eq_zero {channels : List Channel} (none : weightSum rowWeight channels = 0)
    {channel : Channel} (member : channel ∈ channels) : channel.rowWeight = 0 := by
  have bounded : channel.rowWeight ≤ weightSum rowWeight channels := weight_le_weightSum member
  omega

theorem selectSmoothed_of {weight : Channel → Nat} {factors : Smoothing}
    (smoothed : smoothing targets = factors) (adjusted : 0 ≤ factors.smoothingAdjustment)
    (scaled : ∀ channel ∈ targets, 0 ≤ channel.getWeight * factors.smoothingFactor ∧
      channel.getWeight * factors.smoothingFactor + factors.smoothingAdjustment = weight channel)
    (whole : factors.sumWeight * factors.smoothingFactor = weightSum weight targets)
    (positive : 0 < weightSum weight targets) (fits : weightSum weight targets < 2 ^ 63) :
    SelectsByWeight (selectSmoothed targets) targets weight := by
  rw [selectSmoothed, smoothed]
  refine selectsByWeight_of_takes ?_ ?_ positive
  · intro channel member value below
    obtain ⟨_, sum⟩ := scaled channel member
    have bounded : weight channel ≤ weightSum weight targets := weight_le_weightSum member
    have product : int (channel.getWeight * factors.smoothingFactor) = channel.getWeight * factors.smoothingFactor :=
      int_of_fits (by omega) (by omega)
    have raised : int (weight channel) = weight channel := int_of_fits (by omega) (by omega)
    rw [Smoothing.take, product, sum, raised]
    exact int_of_fits (by omega) (by omega)
  · rw [whole]
    exact int_of_fits (by omega) (by omega)

theorem selectSmoothed_selects (nonempty : targets ≠ []) (fits : weightSum (effectiveWeight targets) targets < 2 ^ 63) :
    SelectsByWeight (selectSmoothed targets) targets (effectiveWeight targets) := by
  have some : 0 < targets.length := length_pos_iff.mpr nonempty
  by_cases none : weightSum rowWeight targets = 0
  -- all weights are zero, and every channel counts alike
  · have weight : effectiveWeight targets = fun _ => 100 := funext fun channel => by rw [effectiveWeight, if_pos none]
    have sum : sumWeight targets = 0 := by
      rw [sumWeight_of_fits (by omega), none]
      rfl
    rw [weight, weightSum_const] at fits
    have level : int (targets.length * 100) = targets.length * 100 := int_of_fits (by omega) (by omega)
    have smoothed : smoothing targets = ⟨targets.length * 100, 1, 100⟩ := by rw [smoothing, if_pos sum, level]
    rw [weight]
    refine selectSmoothed_of smoothed (by dsimp only; omega) ?_ ?_ ?_ ?_
    · intro channel member
      have zero := rowWeight_eq_zero none member
      rw [getWeight_of_fits (by omega), zero]
      exact ⟨by omega, rfl⟩
    · rw [weightSum_const]
      dsimp only
      omega
    · rw [weightSum_const]
      omega
    · rw [weightSum_const]
      exact fits
  by_cases low : weightSum rowWeight targets / targets.length < 10
  -- small weights are scaled
  · have weight : effectiveWeight targets = fun channel => channel.rowWeight * 100 := by
      funext channel
      rw [effectiveWeight, if_neg none, if_pos low]
    rw [weight, weightSum_mul] at fits
    have sum : sumWeight targets = weightSum rowWeight targets := sumWeight_of_fits (by omega)
    have smoothed : smoothing targets = ⟨weightSum rowWeight targets, 100, 0⟩ := by
      have average : (weightSum rowWeight targets : Int).tdiv targets.length < 10 := by
        rw [← ofNat_tdiv]
        omega
      rw [smoothing, sum, if_neg (by omega), if_pos average]
    rw [weight]
    refine selectSmoothed_of smoothed (le_refl 0) ?_ ?_ ?_ ?_
    · intro channel member
      have bounded : channel.rowWeight ≤ weightSum rowWeight targets := weight_le_weightSum member
      rw [getWeight_of_fits (by omega)]
      dsimp only
      omega
    · rw [weightSum_mul]
      dsimp only
      omega
    · rw [weightSum_mul]
      omega
    · rw [weightSum_mul]
      exact fits
  -- the weights count as they are
  · have weight : effectiveWeight targets = rowWeight := by
      funext channel
      rw [effectiveWeight, if_neg none, if_neg low]
    rw [weight] at fits ⊢
    have sum := sumWeight_of_fits fits
    have smoothed : smoothing targets = ⟨weightSum rowWeight targets, 1, 0⟩ := by
      have average : ¬(weightSum rowWeight targets : Int).tdiv targets.length < 10 := by
        rw [← ofNat_tdiv]
        omega
      rw [smoothing, sum, if_neg (by omega), if_neg average]
    refine selectSmoothed_of smoothed (le_refl 0) ?_ (by simp) (by omega) fits
    intro channel member
    have bounded : channel.rowWeight ≤ weightSum rowWeight targets := weight_le_weightSum member
    rw [getWeight_of_fits (by omega)]
    dsimp only
    omega

theorem mem_descending {priorities : List Int} {priority : Int} :
    priority ∈ descending priorities ↔ priority ∈ priorities := by
  rw [descending, mem_insertionSort, mem_dedup]

theorem exists_levelAt {priorities : List Int} (nonempty : priorities ≠ []) (retry : Nat) :
    ∃ level ∈ priorities, levelAt (descending priorities) retry = some level := by
  obtain ⟨_, member⟩ := exists_mem_of_ne_nil _ nonempty
  have some : 0 < (descending priorities).length := length_pos_of_mem (mem_descending.mpr member)
  have within : min retry ((descending priorities).length - 1) < (descending priorities).length := by omega
  refine ⟨(descending priorities)[min retry ((descending priorities).length - 1)], ?_, ?_⟩
  · exact mem_descending.mp (getElem_mem within)
  · exact getElem?_eq_getElem within

def onLevel (eligible : List Channel) (retry : Nat) : List Channel :=
  match levelAt (descending (eligible.map Channel.getPriority)) retry with
  | none => []
  | some level => eligible.filter fun channel => decide (channel.getPriority = level)

theorem onLevel_singleton (channel : Channel) (retry : Nat) : onLevel [channel] retry = [channel] := by
  obtain ⟨_, member, found⟩ := exists_levelAt (cons_ne_nil channel.getPriority []) retry
  rw [mem_singleton] at member
  simp [onLevel, found, member]

theorem onLevel_ne_nil {eligible : List Channel} (nonempty : eligible ≠ []) (retry : Nat) :
    ∃ level, levelAt (descending (eligible.map Channel.getPriority)) retry = some level ∧
      onLevel eligible retry = eligible.filter (fun channel => decide (channel.getPriority = level)) ∧
      onLevel eligible retry ≠ [] := by
  have some : eligible.map Channel.getPriority ≠ [] := mt map_eq_nil_iff.mp nonempty
  obtain ⟨level, member, found⟩ := exists_levelAt some retry
  obtain ⟨channel, present, priority⟩ := mem_map.mp member
  have here : onLevel eligible retry = eligible.filter (fun channel => decide (channel.getPriority = level)) := by
    simp only [onLevel, found]
  refine ⟨level, found, here, ?_⟩
  rw [here]
  exact ne_nil_of_mem (mem_filter.mpr ⟨present, decide_eq_true priority⟩)

/-! ### `GetRandomSatisfiedChannel` -/

section
variable (compile : String → Option (String → Bool))

def Cache.eligible (cache : Cache) (group model requestPath : String) : List Channel :=
  (cache.candidates compile group model requestPath).filterMap cache.channelsIDM.get?

variable {cache : Cache} {group model requestPath : String}

theorem Cache.candidates_listed {id : Int} (member : id ∈ cache.candidates compile group model requestPath) :
    ∃ name, id ∈ cache.group2model2channels.ids group name := by
  have filtered : ∀ {ids : List Int},
      id ∈ cache.filterChannelsByRequestPathAndModel compile ids requestPath model → id ∈ ids := by
    intro ids kept
    unfold filterChannelsByRequestPathAndModel at kept
    split at kept
    · exact kept
    · exact (mem_filter.mp kept).1
  unfold candidates at member
  dsimp only at member
  split at member
  · exact ⟨_, filtered member⟩
  · exact ⟨_, filtered member⟩

theorem Cache.listed_of_mem_candidates {id : Int}
    (member : id ∈ cache.candidates compile group model requestPath) : (cache.channelsIDM.get? id).isSome := by
  obtain ⟨name, listed⟩ := candidates_listed compile member
  exact cache.listed group name id listed

theorem Cache.lookupAll_eq {ids : List Int} (listed : ∀ id ∈ ids, (cache.channelsIDM.get? id).isSome) :
    cache.lookupAll ids = .ok (ids.filterMap cache.channelsIDM.get?) := by
  induction ids with
  | nil => rfl
  | cons _ _ ih =>
    obtain ⟨here, later⟩ := forall_mem_cons.mp listed
    obtain ⟨_, found⟩ := Option.isSome_iff_exists.mp here
    simp [lookupAll, found, ih later, Except.map]

/-- The weight of a channel in the draw. A channel that is the only one eligible is returned without one. -/
def memoryWeight (eligible targets : List Channel) : Channel → Nat :=
  if eligible.length = 1 then fun _ => 1 else effectiveWeight targets

theorem Cache.selects_on_level {retry : Nat} (nonempty : cache.eligible compile group model requestPath ≠ [])
    (fits : weightSum (effectiveWeight (onLevel (cache.eligible compile group model requestPath) retry))
      (onLevel (cache.eligible compile group model requestPath) retry) < 2 ^ 63) :
    SelectsByWeight (cache.getRandomSatisfiedChannel compile group model retry requestPath)
      (onLevel (cache.eligible compile group model requestPath) retry)
      (memoryWeight (cache.eligible compile group model requestPath)
        (onLevel (cache.eligible compile group model requestPath) retry)) := by
  have listed : ∀ id ∈ cache.candidates compile group model requestPath, (cache.channelsIDM.get? id).isSome :=
    fun _ => listed_of_mem_candidates compile
  unfold getRandomSatisfiedChannel
  rw [eligible] at nonempty fits ⊢
  generalize cache.candidates compile group model requestPath = ids at listed nonempty fits ⊢
  match ids with
  | [] => exact absurd rfl nonempty
  | [id] =>
    obtain ⟨channel, found⟩ := Option.isSome_iff_exists.mp (listed id mem_cons_self)
    have only : [id].filterMap cache.channelsIDM.get? = [channel] := by simp [found]
    simp only [found, only, onLevel_singleton]
    exact ⟨[.ok (some channel)], rfl, by simp [memoryWeight, weightSum], by simp, by simp, by simp [memoryWeight]⟩
  | id :: next :: rest =>
    have several : ((id :: next :: rest).filterMap cache.channelsIDM.get?).length ≠ 1 := by
      obtain ⟨_, foundFirst⟩ := Option.isSome_iff_exists.mp (listed id (by simp))
      obtain ⟨_, foundSecond⟩ := Option.isSome_iff_exists.mp (listed next (by simp))
      simp [foundFirst, foundSecond]
    obtain ⟨_, found, here, some⟩ := onLevel_ne_nil nonempty retry
    have selection := selectSmoothed_selects some fits
    rw [memoryWeight, if_neg several]
    simp only [lookupAll_eq listed, found]
    rw [here] at some selection ⊢
    split
    next none => exact absurd none some
    · exact selection

theorem Cache.eligible_nodup (distinct : (cache.candidates compile group model requestPath).Nodup) :
    (cache.eligible compile group model requestPath).Nodup := by
  refine distinct.filterMap ?_
  intro left right channel foundLeft foundRight
  rw [← cache.keyed left channel foundLeft, ← cache.keyed right channel foundRight]

theorem onLevel_nodup {eligible : List Channel} (distinct : eligible.Nodup) (retry : Nat) :
    (onLevel eligible retry).Nodup := by
  unfold onLevel
  split
  · exact nodup_nil
  · exact distinct.filter _

/-! ### `GetRandomSatisfiedChannelWithOptions` -/

def ChannelSelectionOptions.eligible (options : ChannelSelectionOptions) (rows : Rows) (now : Int)
    (group modelName requestPath : String) (candidates : List Channel) : List Channel :=
  (candidates.map (refresh rows now)).filter (options.allows compile group modelName requestPath)

def onTop (eligible : List Channel) : List Channel :=
  eligible.filter fun channel => decide ((eligible.map Channel.getPriority).max? = some channel.getPriority)

variable (eligible : List Channel) (channel : Channel)

theorem onTop_raised (above : ∀ other ∈ eligible, other.getPriority < channel.getPriority) :
    ((eligible ++ [channel]).map Channel.getPriority).max? = some channel.getPriority ∧
      onTop (eligible ++ [channel]) = [channel] := by
  have top : ((eligible ++ [channel]).map Channel.getPriority).max? = some channel.getPriority := by
    refine max?_eq_some_iff.mpr ⟨by simp, ?_⟩
    simp only [map_append, map_cons, map_nil, mem_append, mem_map, mem_singleton]
    rintro _ (⟨other, member, rfl⟩ | rfl)
    · exact le_of_lt (above other member)
    · exact le_refl _
  refine ⟨top, ?_⟩
  have others : eligible.filter (fun other => decide (some channel.getPriority = some other.getPriority)) = [] := by
    refine filter_eq_nil_iff.mpr fun other member => ?_
    have below := above other member
    simp only [decide_eq_true_eq, Option.some.injEq]
    omega
  rw [onTop, top, filter_append, others]
  simp

theorem onTop_kept {eligible : List Channel} {top : Int}
    (highest : (eligible.map Channel.getPriority).max? = some top) (below : channel.getPriority ≤ top) :
    ((eligible ++ [channel]).map Channel.getPriority).max? = some top ∧
      onTop (eligible ++ [channel]) = onTop eligible ++ (if top = channel.getPriority then [channel] else []) := by
  obtain ⟨member, upper⟩ := max?_eq_some_iff.mp highest
  have same : ((eligible ++ [channel]).map Channel.getPriority).max? = some top := by
    refine max?_eq_some_iff.mpr ⟨by simp only [map_append, mem_append]; exact Or.inl member, ?_⟩
    intro priority found
    rw [map_append, mem_append] at found
    rcases found with old | new
    · exact upper priority old
    · rw [mem_singleton.mp new]
      exact below
  refine ⟨same, ?_⟩
  rw [onTop, same, onTop, highest, filter_append]
  by_cases level : top = channel.getPriority <;> simp [level]

theorem Highest.add_eq : add ⟨(eligible.map Channel.getPriority).max?, onTop eligible⟩ channel =
      ⟨((eligible ++ [channel]).map Channel.getPriority).max?, onTop (eligible ++ [channel])⟩ := by
  cases highest : (eligible.map Channel.getPriority).max? with
  | none =>
    have none : eligible = [] := map_eq_nil_iff.mp (max?_eq_none_iff.mp highest)
    obtain ⟨top, alone⟩ := onTop_raised eligible channel (by simp [none])
    rw [top, alone]
    simp [add]
  | some top =>
    by_cases raised : channel.getPriority > top
    · have above : ∀ other ∈ eligible, other.getPriority < channel.getPriority := by
        intro other member
        have upper := (max?_eq_some_iff.mp highest).2 other.getPriority (mem_map_of_mem member)
        omega
      obtain ⟨newTop, alone⟩ := onTop_raised eligible channel above
      rw [newTop, alone]
      simp [add, raised]
    · obtain ⟨same, joined⟩ := onTop_kept channel highest (by omega)
      rw [same, joined]
      by_cases level : top = channel.getPriority <;> simp [add, raised, level]

theorem foldl_add_eq : eligible.foldl add ⟨none, []⟩ = ⟨(eligible.map Channel.getPriority).max?, onTop eligible⟩ := by
  induction eligible using reverseRecOn with
  | nil => rfl
  | append_singleton _ _ ih => rw [foldl_append, ih, foldl_cons, foldl_nil, add_eq]

theorem onTop_ne_nil {eligible : List Channel} (nonempty : eligible ≠ []) : onTop eligible ≠ [] := by
  cases highest : (eligible.map Channel.getPriority).max? with
  | none => exact absurd (map_eq_nil_iff.mp (max?_eq_none_iff.mp highest)) nonempty
  | some =>
    obtain ⟨_, member, priority⟩ := mem_map.mp (max?_eq_some_iff.mp highest).1
    refine ne_nil_of_mem (mem_filter.mpr ⟨member, ?_⟩)
    rw [highest, priority, decide_eq_true rfl]

/-- The weight of a channel in the draw with options: 1 where all weights are zero. -/
def optionsWeight (targets : List Channel) (channel : Channel) : Nat :=
  if weightSum Channel.rowWeight targets = 0 then 1 else channel.rowWeight

theorem selectByWeight_selects (nonempty : targets ≠ []) (fits : weightSum rowWeight targets < 2 ^ 63) :
    SelectsByWeight (selectByWeight targets) targets (optionsWeight targets) := by
  have sum := sumWeight_of_fits fits
  have counted : 0 < targets.length := length_pos_iff.mpr nonempty
  by_cases none : weightSum rowWeight targets = 0
  · have weight : optionsWeight targets = fun _ => 1 := funext fun channel => by rw [optionsWeight, if_pos none]
    have outcomes : ((List.range targets.length).map fun position : Nat =>
        selectionOf targets[(position : Int).toNat]?) = targets.map fun channel => .ok (some channel) := by
      refine ext_getElem (by simp) fun position within _ => ?_
      simp only [length_map, length_range] at within
      simp [selectionOf, within]
    have injective : Function.Injective fun channel : Channel => (Except.ok (some channel) : Selected) := by
      intro left right same
      injection same with same
      injection same
    rw [selectByWeight, if_pos (by omega), weight]
    refine ⟨targets.map fun channel => .ok (some channel), ?_, by simp [weightSum], by simp [nonempty], by simp, ?_⟩
    · rw [Random.outcomes, if_pos (by omega), toNat_natCast, outcomes]
    · intro channel _
      rw [count_map_of_injective _ _ injective, Nat.mul_one]
  · have weight : optionsWeight targets = rowWeight := by
      funext channel
      rw [optionsWeight, if_neg none]
    rw [selectByWeight, if_neg (by omega), weight]
    refine selectsByWeight_of_takes ?_ sum (by omega)
    intro channel member value below
    have bounded : channel.rowWeight ≤ weightSum rowWeight targets := weight_le_weightSum member
    dsimp only
    rw [getWeight_of_fits (by omega)]
    exact int_of_fits (by omega) (by omega)

theorem getRandomSatisfiedChannelWithOptions_eq (rows : Rows) (now : Int) (group modelName requestPath : String)
    (options : ChannelSelectionOptions) (candidates : List Channel) :
    getRandomSatisfiedChannelWithOptions compile rows now group modelName requestPath options candidates =
      if options.eligible compile rows now group modelName requestPath candidates = [] then .done (.ok none)
      else selectByWeight (onTop (options.eligible compile rows now group modelName requestPath candidates)) := by
  have folded : candidates.foldl (fun (highest : Highest) candidate =>
        if options.allows compile group modelName requestPath (refresh rows now candidate) then
          highest.add (refresh rows now candidate) else highest) ⟨none, []⟩ =
      (options.eligible compile rows now group modelName requestPath candidates).foldl add ⟨none, []⟩ := by
    rw [ChannelSelectionOptions.eligible, foldl_filter, foldl_map]
  unfold getRandomSatisfiedChannelWithOptions
  rw [folded, foldl_add_eq]
  dsimp only
  by_cases none : options.eligible compile rows now group modelName requestPath candidates = []
  · rw [none, if_pos rfl]
    rfl
  have some := onTop_ne_nil none
  rw [if_neg none]
  split
  next empty => exact absurd empty some
  · rfl

theorem refresh_id (rows : Rows) (now : Int) (channel : Channel) : (refresh rows now channel).id = channel.id := by
  have row : ∀ current, rows.read channel.id = some current → current.id = channel.id := by
    intro current found
    unfold Rows.read at found
    split at found
    · cases found
    · exact (Table.mem_of_find found).2
  unfold refresh
  split
  next banned =>
    unfold maybeRestoreAutoBannedChannel
    rw [if_neg (not_not.mpr banned)]
    split
    next _ restored =>
      split at restored
      · cases restored
      cases found : rows.read channel.id with rw [found] at restored
      | none => cases restored
      | some stored =>
        dsimp only at restored
        have same := row stored found
        split at restored
        · cases restored
          exact same
        split at restored
        · cases restored
        · split at restored <;> cases restored
          exact same
    · rfl
  · rfl

theorem ChannelSelectionOptions.eligible_nodup (options : ChannelSelectionOptions) (rows : Rows) (now : Int)
    (group modelName requestPath : String) {candidates : List Channel} (distinct : (candidates.map Channel.id).Nodup) :
    (options.eligible compile rows now group modelName requestPath candidates).Nodup := by
  refine List.Nodup.filter _ (List.Nodup.of_map Channel.id ?_)
  have same : Channel.id ∘ refresh rows now = Channel.id := funext (refresh_id rows now)
  rw [map_map, same]
  exact distinct

def Cache.channels (cache : Cache) : List Channel := cache.channelsIDM.keys.filterMap cache.channelsIDM.get?

def Cache.Keeps (cache : Cache) (channel : Channel) : Prop := cache.channelsIDM.get? channel.id = some channel

theorem Cache.mem_channels {channel : Channel} : channel ∈ cache.channels ↔ cache.Keeps channel := by
  rw [channels, mem_filterMap]
  constructor
  · rintro ⟨id, _, present⟩
    rw [Keeps, cache.keyed id channel present]
    exact present
  · intro present
    refine ⟨channel.id, ?_, present⟩
    by_contra missing
    rw [Keeps, Map.get?_of_not_mem missing] at present
    cases present

theorem Cache.channels_nodup (cache : Cache) : (cache.channels.map Channel.id).Nodup := by
  rw [channels, map_filterMap]
  refine List.Nodup.filterMap ?_ cache.channelsIDM.entries.nodupKeys
  intro left right id foundLeft foundRight
  obtain ⟨first, isLeft, rfl⟩ := Option.map_eq_some_iff.mp foundLeft
  obtain ⟨second, isRight, same⟩ := Option.map_eq_some_iff.mp foundRight
  rw [← cache.keyed left first isLeft, ← cache.keyed right second isRight, same]

end

def noOptions : ChannelSelectionOptions := ⟨[], none⟩

end FlowAPI.Channels
