import FlowAPI.Convert.StreamContent

/-! Which chunk streams keep their content when they are converted to Claude responses.

Text and reasoning are kept as far as they are read. A tool call is kept if all its fragments that say something
are read and fall into one block that no other tool uses. -/

set_option autoImplicit false
namespace FlowAPI.Convert
open ClaudeResponse Option
open List hiding beq_eq_decide

open String (join join_append join_cons)
variable (response : ClaudeResponse)

def ClaudeResponse.textDelta? : Option String :=
  if response.type = .contentBlockDelta then
    response.delta.bind fun delta => if delta.type = .textDelta then delta.text else none
  else none

def ClaudeResponse.thinkingDelta? : Option String :=
  if response.type = .contentBlockDelta then
    response.delta.bind fun delta => if delta.type = .thinkingDelta then delta.thinking else none
  else none

def ClaudeResponse.jsonDelta? : Option (Int × String) :=
  if response.type = .contentBlockDelta then
    response.delta.bind fun delta =>
      if delta.type = .inputJsonDelta then
        response.index.bind fun index => delta.partialJson.map fun json => (index, json)
      else none
  else none

structure ToolBlock where
  index : Int
  (id name : String)

def ClaudeResponse.toolBlock? : Option ToolBlock :=
  if response.type = .contentBlockStart then
    response.contentBlock.bind fun block =>
      if block.type = .toolUse then response.index.map fun index => ⟨index, block.id, block.name⟩ else none
  else none

variable (responses : List ClaudeResponse)

def claudeText : String := join (responses.filterMap textDelta?)
def claudeThinking : String := join (responses.filterMap thinkingDelta?)
def toolBlocks : List ToolBlock := responses.filterMap toolBlock?
def jsonDeltas : List (Int × String) := responses.filterMap jsonDelta?

def jsonAt (index : Int) (deltas : List (Int × String)) : String :=
  join ((deltas.filter fun delta => delta.1 = index).map fun delta => delta.2)
def claudeTools : List ToolUse :=
  (toolBlocks responses).map fun block => ⟨block.id, block.name, jsonAt block.index (jsonDeltas responses)⟩

/-- Nothing is lost and nothing is duplicated: text and reasoning are the same, the tool blocks are the tool calls,
each in a block of its own, and no tool input lies outside them. -/
structure Preserved (chunks : List ChatChunk) (responses : List ClaudeResponse) : Prop where
  text : claudeText responses = streamContent chunks
  thinking : claudeThinking responses = streamReasoning chunks
  tools : (claudeTools responses).Perm (chatTools chunks)
  separate : ((toolBlocks responses).map ToolBlock.index).Nodup
  noStray : ∀ delta ∈ jsonDeltas responses, delta.1 ∈ (toolBlocks responses).map ToolBlock.index

structure Placed where
  base : Int
  fragment : Fragment

open Placed

def Placed.block (placed : Placed) : Int := placed.base + placed.fragment.offset
def Placed.source (placed : Placed) : Source := placed.fragment.source

def placed : List Segment → List Placed
  | [] => []
  | .text _ :: older | .thinking _ :: older => placed older
  | .tools run :: older => placed older ++ run.map (Placed.mk (width older))

def segmentTexts : List Segment → List String
  | [] => []
  | .text parts :: older => segmentTexts older ++ parts
  | .thinking _ :: older | .tools _ :: older => segmentTexts older

def segmentThoughts : List Segment → List String
  | [] => []
  | .thinking parts :: older => segmentThoughts older ++ parts
  | .text _ :: older | .tools _ :: older => segmentThoughts older

section reading

variable {β : Type} (read : ClaudeResponse → Option β)

theorem filterMap_fed {α : Type} {first : ClaudeResponse} (feed : α → ClaudeResponse) (parts : List α)
    (ignored : read first = none) :
    (first :: parts.map feed).filterMap read = parts.filterMap fun part => read (feed part) := by
  rw [filterMap_cons, ignored, filterMap_map]
  rfl

theorem filterMap_run (starts : Placed → Option β) (inputs : Placed → Option β) (base : Int) (run : List Fragment)
    (started : ∀ fragment, read (toolUseBlockStart (base + fragment.offset) fragment.call) = starts ⟨base, fragment⟩)
    (argued : ∀ fragment, read (inputJsonDelta (base + fragment.offset) fragment.call.function.arguments) =
      inputs ⟨base, fragment⟩) : (Segment.opening base (.tools run)).filterMap read =
      (run.map (mk base)).flatMap fun placed => (if placed.fragment.opens then (starts placed).toList else []) ++
          (if placed.fragment.call.function.arguments ≠ "" then (inputs placed).toList else []) := by
  simp only [Segment.opening, filterMap_flatMap, flatMap_map]
  congr 1
  funext fragment
  by_cases opens : fragment.opens = true <;> by_cases argues : fragment.call.function.arguments = "" <;>
    simp [Fragment.responses, opens, argues, started, argued, filterMap_cons] <;>
    cases starts ⟨base, fragment⟩ <;> cases inputs ⟨base, fragment⟩ <;> rfl

theorem flatMap_keep {α : Type} (keep : α → Bool) (item : α → β) (elements : List α) :
    elements.flatMap (fun element => if keep element then [item element] else []) =
      (elements.filter keep).map item := by
  induction elements with
  | nil => rfl
  | cons element _ ih => cases kept : keep element <;> simp [kept, ih]

variable (segments : List Segment)

theorem filterMap_written (silent : ∀ index, read (generateStopBlock index) = none) (reads : List Segment → List β)
    (empty : reads [] = []) (opened : ∀ segment older,
      reads older ++ (segment.opening (width older)).filterMap read = reads (segment :: older)) :
    (written segments).filterMap read = reads segments := by
  induction segments with
  | nil => exact empty.symm
  | cons segment older ih =>
    have stops : (segment.closing (width older)).filterMap read = [] := by
      cases segment <;> simp [Segment.closing, silent]
    simp [written, ih, stops, opened]

end reading

variable (segments : List Segment)

theorem textDeltas_written : (written segments).filterMap textDelta? = segmentTexts segments := by
  refine filterMap_written _ segments (fun _ => rfl) _ rfl fun segment older => ?_
  cases segment with try rw [Segment.opening, filterMap_fed _ _ _ rfl]
  | text => exact congrArg _ filterMap_some
  | thinking => simp [segmentTexts, textDelta?, thinkingDelta]
  | tools =>
    rw [filterMap_run _ (fun _ => none) (fun _ => none) _ _ (fun _ => rfl) fun _ => rfl]
    simp [segmentTexts]

theorem thinkingDeltas_written : (written segments).filterMap thinkingDelta? = segmentThoughts segments := by
  refine filterMap_written _ segments (fun _ => rfl) _ rfl fun segment older => ?_
  cases segment with try rw [Segment.opening, filterMap_fed _ _ _ rfl]
  | text => simp [segmentThoughts, thinkingDelta?, textDelta]
  | thinking => exact congrArg _ filterMap_some
  | tools =>
    rw [filterMap_run _ (fun _ => none) (fun _ => none) _ _ (fun _ => rfl) fun _ => rfl]
    simp [segmentThoughts]

def Placed.toolBlock (placed : Placed) : ToolBlock :=
  ⟨placed.block, placed.fragment.call.id, placed.fragment.call.function.name⟩

def Placed.opens (placed : Placed) : Bool := placed.fragment.opens
def Placed.arguments (placed : Placed) : String := placed.fragment.call.function.arguments
def Placed.argues (placed : Placed) : Bool := placed.arguments != ""

theorem toolBlocks_written : toolBlocks (written segments) = ((placed segments).filter opens).map toolBlock := by
  refine filterMap_written _ segments (fun _ => rfl) (fun segments => ((placed segments).filter opens).map _) rfl
    fun segment older => ?_
  cases segment with
  | text | thinking =>
    rw [Segment.opening, filterMap_fed _ _ _ rfl]
    simp [placed, toolBlock?, textDelta, thinkingDelta]
  | tools =>
    rw [filterMap_run _ (fun placed => some placed.toolBlock) (fun _ => none) _ _ (fun _ => rfl) fun _ => rfl]
    simp only [toList_some, toList_none, ite_self, append_nil, placed, filter_append, map_append]
    exact congrArg _ (flatMap_keep opens toolBlock _)

theorem jsonDeltas_written : jsonDeltas (written segments) =
      ((placed segments).filter argues).map fun placed => (placed.block, placed.arguments) := by
  refine filterMap_written _ segments (fun _ => rfl) (fun segments => ((placed segments).filter argues).map _) rfl
    fun segment older => ?_
  cases segment with
  | text | thinking =>
    rw [Segment.opening, filterMap_fed _ _ _ rfl]
    simp [placed, jsonDelta?, textDelta, thinkingDelta]
  | tools =>
    rw [filterMap_run _ (fun _ => none) (fun placed => some (placed.block, placed.arguments)) _ _ (fun _ => rfl)
      fun _ => rfl]
    simp only [toList_some, toList_none, ite_self, nil_append, placed, filter_append, map_append]
    refine congrArg _ (Eq.trans ?_ (flatMap_keep argues _ _))
    simp [argues, arguments]

theorem placed_bounds :
    ∀ item ∈ placed segments, 0 ≤ item.base ∧ item.base < width segments ∧ item.block < width segments := by
  induction segments with
  | nil => simp [placed]
  | cons segment older ih =>
    have wide := segment_width_pos segment
    have before : ∀ item ∈ placed older, 0 ≤ item.base ∧ item.base < width (segment :: older) ∧
        item.block < width (segment :: older) := by
      intro item member
      obtain ⟨lower, _, block⟩ := ih item member
      simp only [width]
      omega
    cases segment with
    | text | thinking => exact before
    | tools run =>
      intro item member
      rcases mem_append.mp member with old | new
      · exact before item old
      obtain ⟨_, inRun, rfl⟩ := mem_map.mp new
      have place := offset_le_top inRun
      have highest := top_nonneg run
      have lower := width_nonneg older
      simp only [block, width, Segment.width]
      omega

theorem placed_ordered : (placed segments).Pairwise fun item later =>
      item.base = later.base ∨ item.base < later.base ∧ item.block < later.base := by
  induction segments with
  | nil => exact List.Pairwise.nil
  | cons segment older ih =>
    cases segment with
    | text | thinking => exact ih
    | tools =>
      refine pairwise_append.mpr ⟨ih, pairwise_map.mpr ?_, ?_⟩
      · exact pairwise_of_forall fun _ _ => Or.inl rfl
      · intro item old later new
        obtain ⟨_, -, rfl⟩ := mem_map.mp new
        exact Or.inr (placed_bounds older item old).2

def Piece.fragments : Piece → List Fragment
  | .tools fragments => fragments
  | .text _ | .thinking _ => []

open Piece

structure Adds (before after : List Segment) (pieces : List Piece) : Prop where
  texts : join (segmentTexts after) = join (segmentTexts before) ++ join (texts pieces)
  thoughts : join (segmentThoughts after) = join (segmentThoughts before) ++ join (thoughts pieces)
  fragments : ∃ added, placed after = placed before ++ added ∧
    added.map fragment = pieces.flatMap fragments

theorem join_optional (spoken : String) : join (if spoken = "" then [] else [spoken]) = spoken := by
  by_cases empty : spoken = "" <;> simp [empty, join_cons]
theorem fragments_placed (base : Int) (fragments : List Fragment) :
    fragments.map (fragment ∘ mk base) = fragments := map_id fragments

theorem push_adds (piece : Piece) : Adds segments (push segments piece) [piece] := by
  fun_cases push segments piece <;>
    constructor <;>
    simp [segmentTexts, segmentThoughts, placed, fragments, join_append, join_cons, join_optional,
      fragments_placed, String.append_assoc]

variable (pieces : List Piece)

theorem foldl_push_adds : Adds segments (pieces.foldl push segments) pieces := by
  induction pieces generalizing segments with
  | nil => exact ⟨by simp, by simp, [], by simp, rfl⟩
  | cons piece rest ih =>
    have first := push_adds segments piece
    have following := ih (push segments piece)
    obtain ⟨added, placedFirst, fragmentsFirst⟩ := first.fragments
    obtain ⟨more, placedRest, fragmentsRest⟩ := following.fragments
    have whole : piece :: rest = [piece] ++ rest := rfl
    refine ⟨?_, ?_, added ++ more, ?_, ?_⟩
    · rw [foldl_cons, following.texts, first.texts, whole, texts_append, join_append, String.append_assoc]
    · rw [foldl_cons, following.thoughts, first.thoughts, whole, thoughts_append, join_append, String.append_assoc]
    · rw [foldl_cons, placedRest, placedFirst, append_assoc]
    · rw [map_append, fragmentsFirst, fragmentsRest, whole, flatMap_append]

theorem sources_fragments : sources pieces = (pieces.flatMap fragments).map Fragment.source := by
  induction pieces with
  | nil => rfl
  | cons piece _ ih => cases piece <;> simp [fragments, ih]

def Fragment.Regular (fragment : Fragment) : Prop :=
  fragment.offset = fragment.tool ∧ fragment.opens = fragment.source.named

theorem fragmentsFrom_regular (position : Nat) (calls : List ToolCallResponse) :
    ∀ fragment ∈ fragmentsFrom position calls, fragment.Regular := by
  induction calls generalizing position with
  | nil => simp [fragmentsFrom]
  | cons _ _ ih =>
    intro fragment member
    rcases mem_cons.mp member with rfl | later
    · exact ⟨rfl, by simp [Fragment.source, Source.named, bne, beq_eq_decide]⟩
    · exact ih (position + 1) fragment later

theorem readContent_fragments (delta : ChatDelta) : (readContent delta).read.flatMap fragments = [] := by
  unfold readContent
  split
  · rfl
  · split <;> rfl

theorem readLater_regular (chunk : ChatChunk) :
    ∀ fragment ∈ (readLater chunk).read.flatMap fragments, fragment.Regular := by
  unfold readLater
  cases chunk.choices with
  | nil => simp
  | cons choice =>
    dsimp only
    split
    · simp
    unfold readDelta
    split
    · simp [readContent_fragments]
    · simpa [fragments] using fragmentsFrom_regular 0 choice.delta.toolCalls

theorem readRest_regular (stored : Option Usage) (chunks : List ChatChunk) :
    ∀ fragment ∈ (readRest stored chunks).read.flatMap fragments, fragment.Regular := by
  induction chunks with
  | nil => simp [readRest]
  | cons chunk _ ih =>
    intro fragment member
    rw [readRest, Reading.read_append, flatMap_append] at member
    rcases mem_append.mp member with first | later
    · exact readLater_regular chunk fragment first
    · split at later
      · simp at later
      · exact ih fragment later

theorem placed_foldl_regular (regular : ∀ fragment ∈ pieces.flatMap fragments, fragment.Regular) :
    ∃ added, placed (pieces.foldl push segments) = placed segments ++ added ∧
      ∀ item ∈ added, item.fragment.Regular := by
  obtain ⟨added, grown, fragments⟩ := (foldl_push_adds segments pieces).fragments
  refine ⟨added, grown, fun item member => regular _ ?_⟩
  rw [← fragments]
  exact mem_map_of_mem member

/-- Of the fragments that are read, only the very first one may be out of its place, and it starts block 0. -/
theorem placed_regular (stored : Option Usage) (chunks : List ChatChunk) :
    (∀ item ∈ placed (streamSegments stored chunks), item.fragment.Regular) ∨
      ∃ call rest, placed (streamSegments stored chunks) = ⟨0, leadingFragment call⟩ :: rest ∧
        (∀ item ∈ rest, item.fragment.Regular) ∧
        ∃ others, streamSources chunks = (leadingFragment call).source :: others := by
  cases chunks with
  | nil => exact Or.inl (by simp [streamSegments, reading, placed])
  | cons chunk rest =>
    have later : ∀ fragment ∈ (if endsFirst stored chunk then passedRest rest
        else readRest stored rest).read.flatMap fragments, fragment.Regular := by
      split
      · simp
      · exact readRest_regular stored rest
    rw [streamSegments, reading]
    generalize (if endsFirst stored chunk then passedRest rest else readRest stored rest) = body at later
    have ofFirst (fragmentless : (readFirst chunk).read.flatMap fragments = []) :
        ∀ item ∈ placed ((readFirst chunk ++ body).read.foldl push []), item.fragment.Regular := by
      obtain ⟨added, grown, regular⟩ := placed_foldl_regular [] (readFirst chunk ++ body).read
        (by simpa [fragmentless] using later)
      rw [grown]
      exact regular
    cases chosen : chunk.choices with
    | nil => exact Or.inl (ofFirst (by simp [readFirst, chosen]))
    | cons choice =>
      cases calls : choice.delta.toolCalls with
      | nil => exact Or.inl (ofFirst (by simp [readFirst, chosen, calls, readLeadingTool, readContent_fragments]))
      | cons call more =>
        obtain ⟨added, grown, regular⟩ := placed_foldl_regular [.tools [leadingFragment call]]
          ((readContent choice.delta).read ++ body.read) (by simpa [readContent_fragments] using later)
        refine Or.inr ⟨call, added, ?_, regular, (fragmentsFrom 1 more).map Fragment.source ++ streamSources rest, ?_⟩
        · simpa [readFirst, chosen, calls, readLeadingTool, push, placed, width] using grown
        · simp [streamSources, chosen, calls, fragmentsFrom, Fragment.source, leadingFragment]

end FlowAPI.Convert
