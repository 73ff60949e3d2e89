import FlowAPI.Convert.ClaudeContent
import Mathlib.Data.List.Pairwise

/-! The chunk streams whose content survives the conversion to Claude responses.

The tool fragments of a stream are compared with the blocks they are placed in. Nothing is lost, doubled or mixed up where
the converter passes over nothing that says something, reads one named fragment of each tool, and places two fragments
of a run alike exactly if they belong to one tool, each of which keeps to one run. -/

set_option autoImplicit false
namespace FlowAPI.Convert
open List Placed Source List.Pairwise Segment
open String (join)

theorem firsts_sublist (whole : List Source) : (firsts whole).Sublist whole := by
  induction whole with
  | nil => exact .refl _
  | cons source rest ih => exact (filter_sublist.trans ih).cons_cons source

theorem exists_first {whole : List Source} : ∀ source ∈ whole, ∃ first ∈ firsts whole, first.1 = source.1 := by
  induction whole with
  | nil => simp
  | cons head rest ih =>
    intro source member
    by_cases same : source.1 = head.1
    · exact ⟨head, mem_cons_self, same.symm⟩
    · have later := (mem_cons.mp member).resolve_left fun here => same (here ▸ rfl)
      obtain ⟨first, found, tool⟩ := ih source later
      exact ⟨first, mem_cons_of_mem _ (mem_filter.mpr ⟨found, by simp [tool, same]⟩), tool⟩

theorem firsts_nodup (whole : List Source) : ((firsts whole).map Prod.fst).Nodup := by
  induction whole with
  | nil => exact .nil
  | cons head rest ih =>
    refine nodup_cons.mpr ⟨?_, ih.sublist (filter_sublist.map _)⟩
    simp [mem_filter]

theorem map_perm_of_map_perm {α β γ δ : Type} {f : α → γ} {g : β → γ} {f' : α → δ} {g' : β → δ} {items : List α}
    {others : List β} (paired : (items.map f).Perm (others.map g))
    (implied : ∀ item ∈ items, ∀ other ∈ others, f item = g other → f' item = g' other) :
    (items.map f').Perm (others.map g') := by
  induction items generalizing others with
  | nil => simpa using paired
  | cons item items ih =>
    obtain ⟨other, member, same⟩ := mem_map.mp (paired.subset mem_cons_self)
    obtain ⟨before, after, rfl⟩ := append_of_mem member
    rw [map_append, map_cons, map_cons, same] at paired
    have rest := (paired.trans perm_middle).cons_inv
    rw [← map_append] at rest
    have kept := ih rest fun item inside other listed => implied item (mem_cons_of_mem _ inside) other (by
      rcases mem_append.mp listed with left | right <;> simp [*])
    rw [map_append] at kept
    rw [map_append, map_cons, map_cons, implied item mem_cons_self other member same.symm]
    exact (kept.cons _).trans perm_middle.symm

def Placed.speaks (item : Placed) : Bool := item.source.speaks
def inputAt (block : Int) (items : List Placed) : String :=
  join ((items.filter fun item => item.block = block).map arguments)

/-- Fragments that say something share a block exactly if they belong to one tool. -/
def OwnBlocks (items : List Placed) : Prop :=
  ∀ item ∈ items, ∀ other ∈ items, item.speaks = true → other.speaks = true →
    (item.block = other.block ↔ item.fragment.tool = other.fragment.tool)

theorem jsonAt_placed (block : Int) (items : List Placed) :
    jsonAt block ((items.filter argues).map fun item => (item.block, item.arguments)) = inputAt block items := by
  have silent : ∀ item ∈ items.filter fun item => item.block = block, item.argues = false → item.arguments = "" := by
    simp [argues]
  rw [inputAt, ← join_filter argues arguments _ silent, jsonAt, filter_map, map_map, filter_filter, filter_filter]
  simp only [Function.comp_def, Bool.and_comm]

variable {item : Placed}

theorem arguments_of_silent (silent : item.speaks = false) : item.arguments = "" := by
  simp only [Placed.speaks, Source.speaks, Bool.or_eq_false_iff, bne_eq_false_iff_eq] at silent
  exact silent.2

theorem speaks_of_named (opens : item.source.named = true) : item.speaks = true := by
  simp [Placed.speaks, Source.speaks, opens]

theorem inputAt_of_own {items : List Placed} (own : OwnBlocks items) (member : item ∈ items)
    (speaks : item.speaks = true) : inputAt item.block items = argumentsOf item.fragment.tool (items.map source) := by
  have silent : ∀ keep : Placed → Bool, ∀ other ∈ items.filter keep, other.speaks = false → other.arguments = "" :=
    fun _ _ _ => arguments_of_silent
  have same : (items.filter fun other => other.block = item.block).filter Placed.speaks =
      (items.filter fun other => other.fragment.tool = item.fragment.tool).filter Placed.speaks := by
    rw [filter_filter, filter_filter]
    apply filter_congr
    intro other present
    cases heard : other.speaks with
    | false => simp
    | true => simp [own other present item member heard speaks]
  calc
    inputAt item.block items
      = join (((items.filter fun other => other.block = item.block).filter Placed.speaks).map
          arguments) := (join_filter _ _ _ (silent _)).symm
    _ = join (((items.filter fun other => other.fragment.tool = item.fragment.tool).filter Placed.speaks).map
          arguments) := by rw [same]
    _ = join ((items.filter fun other => other.fragment.tool = item.fragment.tool).map arguments) :=
        join_filter _ _ _ (silent _)
    _ = argumentsOf item.fragment.tool (items.map source) := by
      rw [argumentsOf, filter_map, map_map]
      rfl

structure LaidOut (whole : List Source) (items : List Placed) (rest : List Source) : Prop where
  inOrder : (items.map source).Sublist whole
  all : whole.Perm (items.map source ++ rest)
  firstNamed : ∀ source ∈ firsts whole, source.named = true
  opens : ∀ item ∈ items, item.opens = item.source.named
  places : ∀ item ∈ items, item.fragment.offset = item.fragment.tool ∨
    item.base = 0 ∧ item.fragment.offset = 0 ∧ item.opens = true
  lower : ∀ item ∈ items, 0 ≤ item.base ∧ 0 ≤ item.fragment.offset
  ordered : items.Pairwise fun item later => item.base = later.base ∨ item.base < later.base ∧ item.block < later.base

/-- Every tool of a stream has its block, with its id, its name and its arguments and nothing else. -/
structure Kept (whole : List Source) (items : List Placed) : Prop where
  tools : ((items.filter opens).map fun item =>
      (⟨item.fragment.call.id, item.fragment.call.function.name, inputAt item.block items⟩ : ToolUse)).Perm
    ((firsts whole).map fun source => ⟨source.2.id, source.2.function.name, argumentsOf source.1 whole⟩)
  separate : ((items.filter opens).map block).Nodup
  noStray : ∀ item ∈ items, item.argues = true →
    ∃ opening ∈ items, opening.opens = true ∧ opening.block = item.block

/-- A tool index with the id and the name of a fragment. -/
def Source.label (source : Source) : Int × String × String := (source.1, source.2.id, source.2.function.name)

/-- Of the given fragments one of each tool is named, with the id and the name of the tool's first one. -/
def NamedOnce (whole given : List Source) : Prop := ((given.filter named).map label).Perm ((firsts whole).map label)

/-- No id is used for two tools. -/
def IdsApart (whole : List Source) : Prop :=
  ∀ source ∈ whole, ∀ other ∈ whole, source.named = true → other.named = true → source.2.id = other.2.id →
    source.1 = other.1

namespace LaidOut

variable {whole rest : List Source} {items : List Placed} (laid : LaidOut whole items rest)

include laid

theorem opening_sources : (items.filter Placed.opens).map Placed.source = (items.map Placed.source).filter named := by
  rw [filter_map]
  congr 1
  exact filter_congr laid.opens

theorem mem_whole {item : Placed} (member : item ∈ items) : item.source ∈ whole :=
  laid.inOrder.subset (mem_map_of_mem member)

variable {item other : Placed}

theorem eq_place_of_block (member : item ∈ items) (present : other ∈ items)
    (same : item.block = other.block) : item.base = other.base ∧ item.fragment.offset = other.fragment.offset := by
  have apart : ∀ item ∈ items, ∀ other ∈ items,
      item.base = other.base ∨ item.base < other.base ∧ item.block < other.base ∨
        other.base < item.base ∧ other.block < item.base := by
    refine forall_of_forall_of_flip (fun _ _ => Or.inl rfl) (laid.ordered.imp ?_) (laid.ordered.imp ?_)
    · intro item later order
      omega
    · intro item later order
      simp only [flip]
      omega
  have lower := laid.lower item member
  have upper := laid.lower other present
  have order := apart item member other present
  simp only [block] at same order
  omega

section
variable (once : NamedOnce whole (items.map Placed.source))
include once

theorem opening_tools : ((items.filter Placed.opens).map fun item => item.fragment.tool).Perm
    ((firsts whole).map Prod.fst) := by
  have tools := once.map Prod.fst
  rw [← laid.opening_sources, map_map, map_map, map_map] at tools
  exact tools

theorem exists_opening {source : Source} (member : source ∈ whole) :
    ∃ opening ∈ items, opening.opens = true ∧ opening.fragment.tool = source.1 := by
  obtain ⟨first, found, tool⟩ := exists_first source member
  have listed := (laid.opening_tools once).symm.subset (mem_map_of_mem found)
  obtain ⟨opening, opens, same⟩ := mem_map.mp listed
  obtain ⟨present, opens⟩ := mem_filter.mp opens
  exact ⟨opening, present, opens, same.trans tool⟩

theorem eq_of_tool (member : item ∈ items) (present : other ∈ items)
    (opens : item.opens = true) (reopens : other.opens = true)
    (same : item.fragment.tool = other.fragment.tool) : item = other :=
  inj_on_of_nodup_map ((laid.opening_tools once).symm.nodup (firsts_nodup whole)) (mem_filter.mpr ⟨member, opens⟩)
    (mem_filter.mpr ⟨present, reopens⟩) same

theorem kept_of_own (silent : ∀ source ∈ rest, source.2.function.arguments = "") (own : OwnBlocks items) :
    Kept whole items := by
  have named : ∀ item ∈ items, item.opens = true → item.speaks = true :=
    fun item member opens => speaks_of_named ((laid.opens item member).symm.trans opens)
  have arguments (tool : Int) : argumentsOf tool (items.map Placed.source) = argumentsOf tool whole := by
    have divided := laid.all.filter fun source => source.1 = tool
    rw [filter_append] at divided
    refine (join_read_iff ((laid.inOrder.filter _).map _) ((divided.map _).trans (by rw [map_append]))).mpr ?_
    exact forall_mem_map.mpr fun source member => silent source (mem_filter.mp member).1
  refine ⟨?_, ?_, ?_⟩
  · have tools := once.map fun label : Int × String × String =>
      (⟨label.2.1, label.2.2, argumentsOf label.1 whole⟩ : ToolUse)
    rw [← laid.opening_sources, map_map, map_map, map_map] at tools
    refine .trans (.of_eq (map_congr_left ?_)) tools
    intro item opening
    obtain ⟨member, opens⟩ := mem_filter.mp opening
    rw [inputAt_of_own own member (named item member opens), arguments]
    rfl
  · refine List.Nodup.map_on ?_ (.of_map _ ((laid.opening_tools once).symm.nodup (firsts_nodup whole)))
    intro item opening other reopening same
    obtain ⟨member, opens⟩ := mem_filter.mp opening
    obtain ⟨present, reopens⟩ := mem_filter.mp reopening
    refine laid.eq_of_tool once member present opens reopens ?_
    exact (own item member other present (named item member opens) (named other present reopens)).mp same
  · intro item member argues
    obtain ⟨opening, present, opens, tool⟩ := laid.exists_opening once (laid.mem_whole member)
    have heard : item.speaks = true := by
      simp only [Placed.speaks, Source.speaks, Bool.or_eq_true]
      exact Or.inr argues
    exact ⟨opening, present, opens, (own opening present item member (named opening present opens) heard).mpr tool⟩

end

theorem tool_of_id (apart : IdsApart whole) (member : item ∈ items.filter Placed.opens) {first : Source} (found : first ∈ firsts whole)
    (same : item.fragment.call.id = first.2.id) : item.fragment.tool = first.1 := by
  obtain ⟨present, opens⟩ := mem_filter.mp member
  exact apart item.source (laid.mem_whole present) first ((firsts_sublist whole).subset found)
    ((laid.opens item present).symm.trans opens) (laid.firstNamed first found) same

variable (kept : Kept whole items)

include kept

omit laid in
theorem eq_of_block (member : item ∈ items) (present : other ∈ items)
    (opens : item.opens = true) (reopens : other.opens = true) (same : item.block = other.block) : item = other :=
  inj_on_of_nodup_map kept.separate (mem_filter.mpr ⟨member, opens⟩) (mem_filter.mpr ⟨present, reopens⟩) same

theorem clean_of_regular (member : item ∈ items) (opens : item.opens = true)
    (regular : item.fragment.offset = item.fragment.tool) (present : other ∈ items) (same : other.block = item.block) :
    other.fragment.tool = item.fragment.tool := by
  rcases laid.places other present with place | ⟨-, -, reopens⟩
  · have offsets := (laid.eq_place_of_block present member same).2
    omega
  · rw [eq_of_block kept present member reopens opens same]

variable (apart : IdsApart whole)

include apart

theorem named_once : NamedOnce whole (items.map Placed.source) := by
  unfold NamedOnce
  rw [← laid.opening_sources, map_map]
  refine map_perm_of_map_perm kept.tools fun item member first found same => ?_
  obtain ⟨id, name, -⟩ := ToolUse.mk.inj same
  exact Prod.ext (laid.tool_of_id apart member found id) (Prod.ext id name)

theorem input_of_opening (member : item ∈ items) (opens : item.opens = true) :
    inputAt item.block items = argumentsOf item.fragment.tool whole := by
  have inside := mem_filter.mpr ⟨member, opens⟩
  obtain ⟨first, found, same⟩ := mem_map.mp (kept.tools.subset (mem_map_of_mem inside))
  obtain ⟨id, -, input⟩ := ToolUse.mk.inj same
  rw [← input, laid.tool_of_id apart inside found id.symm]

theorem gathers (member : item ∈ items) (opens : item.opens = true)
    (clean : ∀ other ∈ items, other.block = item.block → other.fragment.tool ≠ item.fragment.tool → other.arguments = "") :
    (∀ other ∈ items, other.fragment.tool = item.fragment.tool → other.block ≠ item.block → other.arguments = "") ∧
      ∀ source ∈ rest, source.1 = item.fragment.tool → source.2.function.arguments = "" := by
  have own : inputAt item.block items = join (((items.filter fun other => other.block = item.block).filter fun other =>
      other.fragment.tool = item.fragment.tool).map arguments) := by
    refine (join_filter _ _ _ fun other inside differs => ?_).symm
    obtain ⟨present, here⟩ := mem_filter.mp inside
    exact clean other present (of_decide_eq_true here) (of_decide_eq_false differs)
  rw [laid.input_of_opening kept apart member opens] at own
  have placed := (filter_append_perm (fun other => other.block = item.block)
    (items.filter fun other => other.fragment.tool = item.fragment.tool)).map arguments
  have divided := (laid.all.filter fun source => source.1 = item.fragment.tool).map fun source =>
    source.2.function.arguments
  rw [filter_append, map_append, filter_map, map_map] at divided
  rw [map_append, filter_comm] at placed
  have divided := divided.trans (placed.symm.append_right _)
  rw [append_assoc] at divided
  obtain ⟨elsewhere, passed⟩ := forall_mem_append.mp (all_empty_of_join_eq divided own.symm)
  refine ⟨fun other present same apart => ?_, fun source present same => ?_⟩
  · refine elsewhere _ (mem_map_of_mem (mem_filter.mpr ⟨mem_filter.mpr ⟨present, ?_⟩, ?_⟩))
    · exact decide_eq_true same
    · simpa using apart
  · exact passed _ (mem_map_of_mem (mem_filter.mpr ⟨present, decide_eq_true same⟩))

theorem clean (member : item ∈ items) (opens : item.opens = true) (present : other ∈ items)
    (same : other.block = item.block) (differs : other.fragment.tool ≠ item.fragment.tool) : other.arguments = "" := by
  rcases laid.places item member with regular | ⟨base, offset, -⟩
  · exact absurd (laid.clean_of_regular kept member opens regular present same) differs
  -- The block is the one of a first chunk: a tool at its place has opened a block of its own.
  obtain ⟨opening, found, reopens, tool⟩ :=
    laid.exists_opening (laid.named_once kept apart) (laid.mem_whole present)
  have elsewhere : opening.block ≠ item.block := by
    intro here
    rw [eq_of_block kept found member reopens opens here] at tool
    exact differs tool.symm
  have regular : opening.fragment.offset = opening.fragment.tool := by
    rcases laid.places opening found with regular | ⟨first, lowest, -⟩
    · exact regular
    · refine absurd ?_ elsewhere
      simp only [Placed.block]
      omega
  refine (laid.gathers kept apart found reopens ?_).1 other present tool.symm (same ▸ elsewhere.symm)
  intro other present same apart_
  exact absurd (laid.clean_of_regular kept found reopens regular present same) apart_

theorem home (member : item ∈ items) (heard : item.speaks = true) :
    ∃ opening ∈ items, opening.opens = true ∧ opening.block = item.block ∧
      opening.fragment.tool = item.fragment.tool := by
  obtain ⟨opening, present, opens, tool⟩ :=
    laid.exists_opening (laid.named_once kept apart) (laid.mem_whole member)
  refine ⟨opening, present, opens, ?_, tool⟩
  by_contra elsewhere
  have silent := (laid.gathers kept apart present opens fun _ => laid.clean kept apart present opens).1 item member
    tool.symm (Ne.symm elsewhere)
  cases reopens : item.opens with
  | true =>
    rw [laid.eq_of_tool (laid.named_once kept apart) present member opens reopens tool] at elsewhere
    exact elsewhere rfl
  | false =>
    have unnamed : item.source.named = false := (laid.opens item member).symm.trans reopens
    have quiet : item.speaks = false := by
      simp only [Placed.speaks, Source.speaks, unnamed, Bool.false_or, bne_eq_false_iff_eq]
      exact silent
    rw [quiet] at heard
    cases heard

theorem own_of_kept : OwnBlocks items := by
  intro item member other present heard overheard
  obtain ⟨_, inItems, opens, block, tool⟩ := laid.home kept apart member heard
  obtain ⟨_, inItems', reopens, block', tool'⟩ := laid.home kept apart present overheard
  constructor
  · intro same
    have one := eq_of_block kept inItems inItems' opens reopens (by omega)
    rw [← tool, ← tool', one]
  · intro same
    have one := laid.eq_of_tool (laid.named_once kept apart) inItems inItems' opens reopens (by omega)
    rw [← block, ← block', one]

theorem silent_of_kept : ∀ source ∈ rest, source.2.function.arguments = "" := by
  intro source passed
  obtain ⟨opening, member, opens, tool⟩ :=
    laid.exists_opening (laid.named_once kept apart) (laid.all.symm.subset (mem_append_right _ passed))
  exact (laid.gathers kept apart member opens fun _ => laid.clean kept apart member opens).2 source passed tool.symm

end LaidOut

/-- The tools of a stream keep to one run each, and within a run two fragments that say something share a place
exactly if they belong to one tool. -/
structure OwnPlaces (runs : List (List Fragment)) : Prop where
  within : ∀ run ∈ runs, ∀ fragment ∈ run, ∀ other ∈ run,
    fragment.source.speaks = true → other.source.speaks = true →
      (fragment.offset = other.offset ↔ fragment.tool = other.tool)
  across : runs.Pairwise fun run earlier => ∀ fragment ∈ run, ∀ other ∈ earlier,
    fragment.source.speaks = true → other.source.speaks = true → fragment.tool ≠ other.tool

instance : DecidablePred OwnPlaces := fun _ =>
  decidable_of_iff (_ ∧ _) ⟨fun ⟨within, across⟩ => ⟨within, across⟩, fun ⟨within, across⟩ => ⟨within, across⟩⟩

theorem mem_placed_iff (segments : List Segment) (fragment : Fragment) :
    (∃ item ∈ placed segments, item.fragment = fragment) ↔ ∃ run ∈ segments.filterMap run?, fragment ∈ run := by
  induction segments with
  | nil => simp [placed]
  | cons segment _ ih =>
    cases segment with
    | text | thinking => exact ih
    | tools =>
      simp only [placed, mem_append, or_and_right, exists_or, ih, run?, filterMap_cons,
        mem_cons, mem_map, exists_eq_left]
      rw [or_comm]
      simp

theorem ownBlocks_append_iff (earlier later : List Placed) :
    OwnBlocks (earlier ++ later) ↔ OwnBlocks earlier ∧ OwnBlocks later ∧
      ∀ item ∈ earlier, ∀ other ∈ later, item.speaks = true → other.speaks = true →
        (item.block = other.block ↔ item.fragment.tool = other.fragment.tool) := by
  constructor
  · intro own
    refine ⟨fun item member other present => own item (mem_append_left _ member) other
        (mem_append_left _ present), fun item member other present =>
        own item (mem_append_right _ member) other (mem_append_right _ present), ?_⟩
    intro item member other present
    exact own item (mem_append_left _ member) other (mem_append_right _ present)
  · rintro ⟨before, after, between⟩ item member other present heard overheard
    rcases mem_append.mp member with old | new <;> rcases mem_append.mp present with old' | new'
    · exact before item old other old' heard overheard
    · exact between item old other new' heard overheard
    · rw [eq_comm, between other old' item new overheard heard, eq_comm]
    · exact after item new other new' heard overheard

theorem ownBlocks_iff (segments : List Segment) (nonneg : ∀ item ∈ placed segments, 0 ≤ item.fragment.offset) :
    OwnBlocks (placed segments) ↔ OwnPlaces (segments.filterMap run?) := by
  induction segments with
  | nil => exact ⟨fun _ => ⟨by simp, nil⟩, fun _ => by simp [OwnBlocks, placed]⟩
  | cons segment older ih =>
    cases segment with
    | text | thinking => exact ih nonneg
    | tools run =>
      have before := ih fun item member => nonneg item (mem_append_left _ member)
      have inRun : OwnBlocks (run.map (mk (width older))) ↔
          ∀ fragment ∈ run, ∀ other ∈ run, fragment.source.speaks = true → other.source.speaks = true →
            (fragment.offset = other.offset ↔ fragment.tool = other.tool) := by
        simp [OwnBlocks, Placed.block, Placed.speaks, Placed.source]
      have apart : ∀ item ∈ placed older, ∀ fragment ∈ run, item.block ≠ (mk (width older) fragment).block := by
        intro item member fragment new
        have upper := (placed_bounds older item member).2.2
        have lower := nonneg ⟨width older, fragment⟩ (mem_append_right _ (mem_map_of_mem new))
        simp only [Placed.block] at upper lower ⊢
        omega
      rw [placed, ownBlocks_append_iff, before, inRun]
      constructor
      · rintro ⟨⟨within, across⟩, newest, between⟩
        refine ⟨forall_mem_cons.mpr ⟨newest, within⟩, pairwise_cons.mpr ⟨?_, across⟩⟩
        intro earlier found fragment new other old heard overheard same
        obtain ⟨item, member, rfl⟩ := (mem_placed_iff older other).mpr ⟨earlier, found, old⟩
        refine apart item member fragment new ?_
        exact (between item member _ (mem_map_of_mem new) overheard heard).mpr same.symm
      · rintro ⟨within, across⟩
        obtain ⟨newest, within⟩ := forall_mem_cons.mp within
        obtain ⟨between, across⟩ := pairwise_cons.mp across
        refine ⟨⟨within, across⟩, newest, ?_⟩
        intro item member other placedNew heard overheard
        obtain ⟨fragment, new, rfl⟩ := mem_map.mp placedNew
        obtain ⟨earlier, found, old⟩ := (mem_placed_iff older item.fragment).mp ⟨item, member, rfl⟩
        refine ⟨fun same => absurd same (apart item member fragment new), fun same => ?_⟩
        exact absurd same.symm (between earlier found fragment new item.fragment old overheard heard)

theorem sources_placed (stored : Option Usage) (chunks : List ChatChunk) :
    (placed (streamSegments stored chunks)).map source = sources (reading stored chunks).read := by
  obtain ⟨_, grown, fragments⟩ := (foldl_push_adds [] (reading stored chunks).read).fragments
  rw [sources_fragments, ← fragments, map_map, streamSegments, grown]
  rfl

/-- The first fragment of each tool is named; later ones may be too. -/
structure Announced (chunks : List ChatChunk) : Prop where
  nonempty : chunks ≠ []
  singleChoice : ∀ chunk ∈ chunks, chunk.choices.length ≤ 1
  firstNamed : ∀ source ∈ firsts (streamSources chunks), source.named = true

theorem laidOut_stream (stored : Option Usage) {chunks : List ChatChunk} (announced : Announced chunks)
    (nonneg : ∀ source ∈ streamSources chunks, 0 ≤ source.1) :
    LaidOut (streamSources chunks) (placed (streamSegments stored chunks)) (sources (reading stored chunks).passed) := by
  have splits := reading_splits stored chunks
  have inOrder : ((placed (streamSegments stored chunks)).map Placed.source).Sublist (streamSources chunks) := by
    rw [sources_placed, ← sources_stream]
    exact splits.inOrder.filterMap Atom.source?
  have positions : ∀ item ∈ placed (streamSegments stored chunks), item.opens = item.source.named ∧
      (item.fragment.offset = item.fragment.tool ∨ item.base = 0 ∧ item.fragment.offset = 0 ∧ item.opens = true) := by
    have ofRegular : ∀ item : Placed, item.fragment.Regular → item.opens = item.source.named ∧
        (item.fragment.offset = item.fragment.tool ∨ item.base = 0 ∧ item.fragment.offset = 0 ∧ item.opens = true) :=
      fun item regular => ⟨regular.2, Or.inl regular.1⟩
    rcases placed_regular stored chunks with regular | ⟨_, _, eq, regular, _, first⟩
    · exact fun item member => ofRegular item (regular item member)
    rw [eq]
    refine forall_mem_cons.mpr ⟨⟨?_, Or.inr ⟨rfl, rfl, rfl⟩⟩, fun item member => ofRegular item (regular item member)⟩
    exact (announced.firstNamed _ (first ▸ mem_cons_self)).symm
  refine
    { inOrder, all := ?_, firstNamed := announced.firstNamed
      opens := fun item member => (positions item member).1
      places := fun item member => (positions item member).2
      lower := ?_
      ordered := placed_ordered _ }
  · rw [sources_placed, ← sources_stream, sources, sources, sources, ← filterMap_append]
    exact splits.all.filterMap Atom.source?
  · intro item member
    refine ⟨(placed_bounds _ item member).1, ?_⟩
    rcases (positions item member).2 with regular | ⟨-, lowest, -⟩
    · rw [regular]
      exact nonneg item.source (inOrder.subset (mem_map_of_mem member))
    · rw [lowest]

theorem filterMap_message {β : Type} (read : ClaudeResponse → Option β) (chunk : ChatChunk) (estimate : Int)
    (segments : List Segment) (usage : Option Usage) (stopReason : String)
    (started : read (messageStart chunk estimate) = none) (finishing : read (messageDelta usage stopReason) = none)
    (stopped : read messageStop = none) :
    (messageStart chunk estimate :: (written segments ++ [messageDelta usage stopReason, messageStop])).filterMap read =
      (written segments).filterMap read := by
  rw [filterMap_cons, started, filterMap_append]
  simp [finishing, stopped]

theorem preserved_iff (info : Meta) (stored : Option Usage) {chunks : List ChatChunk} (nonempty : chunks ≠ []) :
    Preserved chunks (convertStream (info.fresh stored) chunks) ↔
      join (texts (reading stored chunks).read) = streamContent chunks ∧
      join (thoughts (reading stored chunks).read) = streamReasoning chunks ∧
      Kept (streamSources chunks) (placed (streamSegments stored chunks)) := by
  obtain ⟨chunk, rest, rfl⟩ := exists_cons_of_ne_nil nonempty
  obtain ⟨_, _, converted⟩ := convertStream_eq info stored chunk rest
  generalize convertStream (info.fresh stored) (chunk :: rest) = responses at converted ⊢
  have adds := foldl_push_adds [] (reading stored (chunk :: rest)).read
  have text : claudeText responses = join (texts (reading stored (chunk :: rest)).read) := by
    rw [converted, claudeText, filterMap_message _ _ _ _ _ _ rfl rfl rfl, textDeltas_written]
    simpa [segmentTexts, streamSegments] using adds.texts
  have thinking : claudeThinking responses = join (thoughts (reading stored (chunk :: rest)).read) := by
    rw [converted, claudeThinking, filterMap_message _ _ _ _ _ _ rfl rfl rfl, thinkingDeltas_written]
    simpa [segmentThoughts, streamSegments] using adds.thoughts
  -- the blocks and deltas of tools are those of the placed fragments
  have blocks : toolBlocks responses =
      ((placed (streamSegments stored (chunk :: rest))).filter opens).map toolBlock := by
    rw [converted, toolBlocks, filterMap_message _ _ _ _ _ _ rfl rfl rfl]
    exact toolBlocks_written _
  have deltas : jsonDeltas responses = ((placed (streamSegments stored (chunk :: rest))).filter argues).map fun item =>
        (item.block, item.arguments) := by
    rw [converted, jsonDeltas, filterMap_message _ _ _ _ _ _ rfl rfl rfl]
    exact jsonDeltas_written _
  have tools : claudeTools responses = ((placed (streamSegments stored (chunk :: rest))).filter opens).map fun item =>
        ⟨item.fragment.call.id, item.fragment.call.function.name,
          inputAt item.block (placed (streamSegments stored (chunk :: rest)))⟩ := by
    rw [claudeTools, blocks, deltas, map_map]
    apply map_congr_left
    intro item _
    exact congrArg _ (jsonAt_placed item.block _)
  have indices : (toolBlocks responses).map ToolBlock.index =
      ((placed (streamSegments stored (chunk :: rest))).filter opens).map block := by
    rw [blocks, map_map]
    rfl
  have stray : (∀ delta ∈ jsonDeltas responses, delta.1 ∈ (toolBlocks responses).map ToolBlock.index) ↔
      ∀ item ∈ placed (streamSegments stored (chunk :: rest)), item.argues = true →
        ∃ opening ∈ placed (streamSegments stored (chunk :: rest)), opening.opens = true ∧ opening.block = item.block := by
    rw [deltas, indices, forall_mem_map]
    simp [and_assoc]
  constructor
  · rintro ⟨textKept, thinkingKept, toolsKept, separate, noStray⟩
    exact ⟨text.symm.trans textKept, thinking.symm.trans thinkingKept, tools ▸ toolsKept, indices ▸ separate,
      stray.mp noStray⟩
  · rintro ⟨textKept, thinkingKept, toolsKept, separate, noStray⟩
    exact ⟨text.trans textKept, thinking.trans thinkingKept, tools ▸ toolsKept, indices ▸ separate, stray.mpr noStray⟩

/-- What the converter passes over says nothing, of what it reads one fragment of each tool is named, and every tool keeps
to places of its own. -/
structure Intact (stored : Option Usage) (chunks : List ChatChunk) : Prop where
  text : ∀ spoken ∈ texts (reading stored chunks).passed, spoken = ""
  thinking : ∀ thought ∈ thoughts (reading stored chunks).passed, thought = ""
  arguments : ∀ source ∈ sources (reading stored chunks).passed, source.2.function.arguments = ""
  namedOnce : NamedOnce (streamSources chunks) (sources (reading stored chunks).read)
  places : OwnPlaces (toolRuns stored chunks)

/-- The content of an intact stream survives the conversion and, where ids tell the tools apart, that of no other one. -/
theorem claude_stream_preserved_iff (info : Meta) (stored : Option Usage) (chunks : List ChatChunk)
    (announced : Announced chunks) (nonneg : ∀ source ∈ streamSources chunks, 0 ≤ source.1) :
    (Intact stored chunks → Preserved chunks (convertStream (info.fresh stored) chunks)) ∧
      (IdsApart (streamSources chunks) → Preserved chunks (convertStream (info.fresh stored) chunks) →
        Intact stored chunks) := by
  have splits := reading_splits stored chunks
  have laid := laidOut_stream stored announced nonneg
  have places : OwnBlocks (placed (streamSegments stored chunks)) ↔ OwnPlaces (toolRuns stored chunks) :=
    ownBlocks_iff (streamSegments stored chunks) fun item member => (laid.lower item member).2
  have text : join (texts (reading stored chunks).read) = streamContent chunks ↔
      ∀ spoken ∈ texts (reading stored chunks).passed, spoken = "" := by
    rw [← join_texts]
    exact join_read_iff (splits.inOrder.filterMap _) (filterMap_append ▸ splits.all.filterMap _)
  have thinking : join (thoughts (reading stored chunks).read) = streamReasoning chunks ↔
      ∀ thought ∈ thoughts (reading stored chunks).passed, thought = "" := by
    rw [← join_thoughts]
    exact join_read_iff (splits.inOrder.filterMap _) (filterMap_append ▸ splits.all.filterMap _)
  rw [preserved_iff info stored announced.nonempty, text, thinking]
  have read := sources_placed stored chunks
  constructor
  · rintro ⟨spoken, thought, silent, once, own⟩
    exact ⟨spoken, thought, laid.kept_of_own (read ▸ once) silent (places.mpr own)⟩
  · rintro apart ⟨spoken, thought, kept⟩
    exact ⟨spoken, thought, laid.silent_of_kept kept apart, read ▸ laid.named_once kept apart,
      places.mp (laid.own_of_kept kept apart)⟩

theorem claude_stream_preserved_parallel : IdsApart (streamSources parallelTools) ∧ Intact none parallelTools ∧
    Preserved parallelTools (convertStream (Meta.fresh {} none) parallelTools) := by
  have apart : IdsApart (streamSources parallelTools) := by
    unfold IdsApart
    decide
  have announced : Announced parallelTools := ⟨by decide, by decide, by decide⟩
  have intact : Intact none parallelTools := ⟨by decide, by decide, by decide, by unfold NamedOnce; decide, by decide⟩
  have preserved := (claude_stream_preserved_iff {} none parallelTools announced (by decide)).1 intact
  exact ⟨apart, (claude_stream_preserved_iff {} none parallelTools announced (by decide)).2 apart preserved, preserved⟩

def textWithFinish : List ChatChunk :=
  [roleChunk, textChunk "Hello ",
    { choices := [{ delta := { content := some "world" }, finishReason := some "stop" }] },
    { usage := some { promptTokens := 7, completionTokens := 3 } }]

/-- The chunk with the finish reason is deferred until usage is known, and its text is dropped. -/
theorem claude_stream_drops_text :
    Announced textWithFinish ∧ claudeText (convertStream (Meta.fresh {} none) textWithFinish) = "Hello " ∧
      ¬Preserved textWithFinish (convertStream (Meta.fresh {} none) textWithFinish) := by
  have spoken : claudeText (convertStream (Meta.fresh {} none) textWithFinish) = "Hello " := by decide
  refine ⟨⟨by decide, by decide, by decide⟩, spoken, fun preserved => ?_⟩
  have whole : streamContent textWithFinish = "Hello world" := by decide
  have lost : "Hello " = "Hello world" := spoken.symm.trans (preserved.text.trans whole)
  exact absurd lost (by decide)

end FlowAPI.Convert
