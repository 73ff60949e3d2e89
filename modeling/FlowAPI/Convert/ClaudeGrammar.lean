import FlowAPI.Convert.Blocks

/-! The grammar of a Claude message stream, and the chunk streams whose conversion obeys it.

Content blocks are judged index by index: the events of one index are none at all, or a start, deltas of the
type started and one stop. The blocks of different segments have different indices, so a stream is grammatical
as soon as each run of tool fragments is complete in itself. -/

set_option autoImplicit false
namespace FlowAPI.Convert
open List Int

inductive BlockKind where | text | thinking | toolUse
deriving DecidableEq

inductive StreamEvent where
  | messageStart
  | start (index : Int) (kind : BlockKind)
  | delta (index : Int) (kind : BlockKind)
  | stop (index : Int)
  | messageDelta | messageStop | other
deriving DecidableEq

open StreamEvent

def MediaType.blockKind : MediaType → Option BlockKind
  | .text => some .text
  | .thinking => some .thinking
  | .toolUse => some .toolUse
  | _ => none

def MediaType.deltaKind : MediaType → Option BlockKind
  | .textDelta => some .text
  | .thinkingDelta => some .thinking
  | .inputJsonDelta => some .toolUse
  | _ => none

def ClaudeResponse.event (response : ClaudeResponse) : StreamEvent :=
  match response.type with
  | .messageStart => .messageStart
  | .contentBlockStart =>
    match response.index, response.contentBlock.bind (·.type.blockKind) with
    | some index, some kind => .start index kind
    | _, _ => .other
  | .contentBlockDelta =>
    match response.index, response.delta.bind (·.type.deltaKind) with
    | some index, some kind => .delta index kind
    | _, _ => .other
  | .contentBlockStop =>
    match response.index with
    | some index => .stop index
    | none => .other
  | .messageDelta => .messageDelta
  | .messageStop => .messageStop
  | _ => .other

def StreamEvent.block? : StreamEvent → Option Int
  | .start index _ | .delta index _ | .stop index => some index
  | _ => none

def blockEvents (index : Int) (responses : List ClaudeResponse) : List StreamEvent :=
  (responses.map ClaudeResponse.event).filter fun event => event.block? = some index

/-- The events of one index: no block, or one block that is started, fed with its own type and stopped. -/
def Bracketed (index : Int) (events : List StreamEvent) : Prop :=
  events = [] ∨ ∃ kind count,
    events = .start index kind :: (List.replicate count (.delta index kind) ++ [.stop index])

/-- The Anthropic stream grammar: `message_start` first and once, the content blocks, then one `message_delta`
and one `message_stop`. -/
def Grammatical (responses : List ClaudeResponse) : Prop :=
  ∃ body, responses.map ClaudeResponse.event = .messageStart :: (body ++ [.messageDelta, .messageStop]) ∧
    (∀ event ∈ body, event.block?.isSome) ∧
    ∀ index, Bracketed index (body.filter fun event => event.block? = some index)

theorem Grammatical.bracketed {responses : List ClaudeResponse} (grammatical : Grammatical responses) (index : Int) :
    Bracketed index (blockEvents index responses) := by
  obtain ⟨_, events, _, bracketed⟩ := grammatical
  simpa [blockEvents, events, block?] using bracketed index

theorem Bracketed.of_stop {index : Int} {left right : List StreamEvent} (bracketed : Bracketed index (left ++ right))
    (stopped : .stop index ∈ left) : right = [] := by
  rcases bracketed with empty | ⟨kind, count, block⟩
  · exact (append_eq_nil_iff.mp empty).2
  rcases eq_nil_or_concat right with rfl | ⟨init, last, rfl⟩
  · rfl
  have front : left ++ init = .start index kind :: replicate count (.delta index kind) := by
    have same : (left ++ init) ++ [last] =
        (.start index kind :: replicate count (.delta index kind)) ++ [.stop index] := by
      simpa using block
    exact (append_inj' same rfl).1
  have inFront : stop index ∈ left ++ init := mem_append_left _ stopped
  rw [front] at inFront
  simp [mem_replicate] at inFront

theorem Bracketed.of_no_stop {index : Int} {events : List StreamEvent} (bracketed : Bracketed index events)
    (unstopped : .stop index ∉ events) : events = [] := by
  rcases bracketed with empty | ⟨_, _, rfl⟩
  · exact empty
  · simp at unstopped

theorem bracketed_stop_iff {index : Int} {events : List StreamEvent} : Bracketed index (events ++ [.stop index]) ↔
      ∃ kind count, events = .start index kind :: replicate count (.delta index kind) := by
  constructor
  · rintro (empty | ⟨kind, count, block⟩)
    · simp at empty
    · have same : events ++ [.stop index] =
          (.start index kind :: replicate count (.delta index kind)) ++ [.stop index] := by simpa using block
      exact ⟨kind, count, (append_inj' same rfl).1⟩
  · rintro ⟨kind, count, rfl⟩
    exact .inr ⟨kind, count, rfl⟩

variable (index : Int)

theorem blockEvents_append (left right : List ClaudeResponse) :
    blockEvents index (left ++ right) = blockEvents index left ++ blockEvents index right := by
  simp [blockEvents]

section responses

variable (index : Int)

@[simp] theorem event_messageStart (chunk : ChatChunk) (estimate : Int) :
    (messageStart chunk estimate).event = .messageStart := rfl
@[simp] theorem event_textBlockStart : (textBlockStart index).event = .start index .text := rfl
@[simp] theorem event_thinkingBlockStart : (thinkingBlockStart index).event = .start index .thinking := rfl
@[simp] theorem event_toolUseBlockStart (call : ToolCallResponse) :
    (toolUseBlockStart index call).event = .start index .toolUse := rfl
@[simp] theorem event_textDelta (text : String) : (textDelta index text).event = .delta index .text := rfl
@[simp] theorem event_thinkingDelta (thinking : String) :
    (thinkingDelta index thinking).event = .delta index .thinking := rfl
@[simp] theorem event_inputJsonDelta (arguments : String) :
    (inputJsonDelta index arguments).event = .delta index .toolUse := rfl
@[simp] theorem event_generateStopBlock : (generateStopBlock index).event = .stop index := rfl
@[simp] theorem event_messageDelta (usage : Option Usage) (stopReason : String) :
    (messageDelta usage stopReason).event = .messageDelta := rfl
@[simp] theorem event_messageStop : messageStop.event = .messageStop := rfl

end responses

variable (index base : Int)

theorem blockEvents_fed (kind : BlockKind) {α : Type} (first : ClaudeResponse)
    (feed : α → ClaudeResponse) (parts : List α) (started : first.event = .start base kind)
    (fed : ∀ part, (feed part).event = .delta base kind) : blockEvents index (first :: parts.map feed) =
      if index = base then .start base kind :: replicate parts.length (.delta base kind) else [] := by
  have deltas : (parts.map feed).map ClaudeResponse.event = replicate parts.length (.delta base kind) := by
    rw [map_map, eq_replicate_iff]
    simp [fed]
  by_cases same : index = base
  · simp [blockEvents, started, deltas, block?, same]
  · have other : base ≠ index := Ne.symm same
    simp [blockEvents, started, deltas, block?, same, other]

theorem blockEvents_stop : blockEvents index [generateStopBlock base] = if index = base then [.stop base] else [] := by
  by_cases same : index = base
  · simp [blockEvents, block?, same]
  · have other : base ≠ index := Ne.symm same
    simp [blockEvents, block?, same, other]

theorem blockEvents_stops (count : Nat) :
    blockEvents index ((List.range count).map fun offset : Nat => generateStopBlock (base + offset)) =
      if base ≤ index ∧ index < base + count then [.stop index] else [] := by
  induction count with
  | zero =>
    have never : ¬(base ≤ index ∧ index < base + (0 : Nat)) := by omega
    rw [if_neg never]
    rfl
  | succ count ih =>
    rw [range_succ, map_append, blockEvents_append, ih, map_singleton, blockEvents_stop]
    by_cases last : index = base + count
    · have within : base ≤ index ∧ index < base + (count + 1 : Nat) := by omega
      have beyond : ¬(base ≤ index ∧ index < base + count) := by omega
      rw [if_pos within, if_neg beyond, if_pos last, last]
      rfl
    · have within : (base ≤ index ∧ index < base + (count + 1 : Nat)) ↔ base ≤ index ∧ index < base + count := by
        omega
      simp only [last, if_false, append_nil, within]

def Fragment.speaks (fragment : Fragment) : Bool := fragment.opens || fragment.call.function.arguments != ""

open Fragment

def speaking (offset : Int) (run : List Fragment) : List Fragment :=
  run.filter fun fragment => fragment.offset = offset && fragment.speaks

/-- The first of the fragments starts a block, and it alone does. -/
def Introduced : List Fragment → Prop
  | [] => False
  | first :: others => first.opens = true ∧ ∀ fragment ∈ others, fragment.opens = false

instance : DecidablePred Introduced := fun _ => by
  unfold Introduced
  split <;> infer_instance

/-- No response at a negative place, and at each place up to the largest one a fragment that starts the block before
any other response there, and alone. -/
structure Complete (run : List Fragment) : Prop where
  silent : ∀ fragment ∈ run, fragment.offset < 0 → fragment.speaks = false
  introduced : ∀ offset, 0 ≤ offset → offset ≤ top run → Introduced (speaking offset run)

variable (run : List Fragment)

theorem complete_iff : Complete run ↔ (∀ fragment ∈ run, fragment.offset < 0 → fragment.speaks = false) ∧
      ∀ offset ∈ List.range (top run + 1).toNat, Introduced (speaking (offset : Nat) run) := by
  constructor
  · intro complete
    refine ⟨complete.silent, fun offset member => complete.introduced offset (by omega) ?_⟩
    have := mem_range.mp member
    omega
  · rintro ⟨silent, introduced⟩
    refine ⟨silent, fun offset lower upper => ?_⟩
    have member : offset.toNat ∈ List.range (top run + 1).toNat := mem_range.mpr (by omega)
    have found := introduced offset.toNat member
    rwa [toNat_of_nonneg lower] at found

instance : DecidablePred Complete := fun run => decidable_of_iff _ (complete_iff run).symm

theorem le_foldl_max (highest : Int) :
    highest ≤ run.foldl (fun highest fragment => max highest fragment.offset) highest := by
  induction run generalizing highest with
  | nil => exact le_refl highest
  | cons _ _ ih => exact le_trans (le_max_left _ _) (ih _)

theorem top_nonneg : 0 ≤ top run := le_foldl_max run 0

variable {fragment : Fragment}

theorem offset_le_top {run : List Fragment} (member : fragment ∈ run) : fragment.offset ≤ top run := by
  obtain ⟨_, after, rfl⟩ := append_of_mem member
  rw [top_append, foldl_cons]
  exact le_trans (le_max_right _ _) (le_foldl_max after _)

def Fragment.events (index : Int) (fragment : Fragment) : List StreamEvent :=
  (if fragment.opens then [.start index .toolUse] else []) ++
    (if fragment.call.function.arguments ≠ "" then [.delta index .toolUse] else [])

theorem Fragment.events_of_silent (silent : fragment.speaks = false) (index : Int) : fragment.events index = [] := by
  simp only [speaks, Bool.or_eq_false_iff, bne_eq_false_iff_eq] at silent
  simp [events, silent]

theorem Fragment.events_ne_nil (speaks : fragment.speaks = true) (index : Int) : fragment.events index ≠ [] := by
  simp only [Fragment.speaks, Bool.or_eq_true, bne_iff_ne] at speaks
  rcases speaks with opens | argued
  · simp [events, opens]
  · simp [events, argued]

theorem blockEvents_fragment (fragment : Fragment) : blockEvents index (fragment.responses base) =
      if fragment.offset = index - base then fragment.events index else [] := by
  by_cases here : fragment.offset = index - base
  · have same : base + fragment.offset = index := by omega
    rw [if_pos here]
    by_cases opens : fragment.opens = true <;> by_cases argued : fragment.call.function.arguments = "" <;>
      simp [blockEvents, responses, events, opens, argued, same, block?]
  have other : ¬base + fragment.offset = index := by omega
  rw [if_neg here]
  by_cases opens : fragment.opens = true <;> by_cases argued : fragment.call.function.arguments = "" <;>
    simp [blockEvents, responses, opens, argued, other, block?]

theorem blockEvents_run : blockEvents index (Segment.opening base (.tools run)) =
      (speaking (index - base) run).flatMap (events index) := by
  induction run with
  | nil => rfl
  | cons fragment rest ih =>
    have split : Segment.opening base (.tools (fragment :: rest)) =
        fragment.responses base ++ Segment.opening base (.tools rest) := rfl
    rw [split, blockEvents_append, ih, blockEvents_fragment, speaking, speaking, filter_cons]
    by_cases here : fragment.offset = index - base
    · cases speaks : fragment.speaks with
      | true => simp [here]
      | false => simp [here, events_of_silent speaks]
    · simp [here]

theorem events_of_unopened (fragments : List Fragment)
    (speak : ∀ fragment ∈ fragments, fragment.speaks = true) (closed : ∀ fragment ∈ fragments, fragment.opens = false) :
    fragments.flatMap (events index) = replicate fragments.length (.delta index .toolUse) := by
  induction fragments with
  | nil => rfl
  | cons fragment _ ih =>
    have unopened : fragment.opens = false := closed fragment (by simp)
    have argued : fragment.call.function.arguments ≠ "" := by
      simpa [speaks, unopened] using speak fragment (by simp)
    have following := ih (fun other member => speak other (by simp [member]))
      (fun other member => closed other (by simp [member]))
    simp [events, unopened, argued, following, replicate_succ]

theorem introduced_iff (fragments : List Fragment) (speak : ∀ fragment ∈ fragments, fragment.speaks = true) :
    (∃ kind count, fragments.flatMap (events index) =
        .start index kind :: replicate count (.delta index kind)) ↔ Introduced fragments := by
  cases fragments with
  | nil => simp [Introduced]
  | cons first others =>
    constructor
    · rintro ⟨kind, count, block⟩
      have opens : first.opens = true := by
        by_contra closed
        have argued : first.call.function.arguments ≠ "" := by
          simpa [speaks, closed] using speak first (by simp)
        simp [events, closed, argued] at block
      refine ⟨opens, fun fragment member => ?_⟩
      by_contra opensAgain
      have again : fragment.opens = true := by simpa using opensAgain
      have tail : start index .toolUse ∈ replicate count (delta index kind) := by
        have rest : (if first.call.function.arguments ≠ "" then [delta index .toolUse] else []) ++
            others.flatMap (events index) = replicate count (.delta index kind) := by
          simp only [flatMap_cons, events, opens, if_true, cons_append] at block
          exact (List.cons.inj block).2
        rw [← rest]
        refine mem_append_right _ (mem_flatMap.mpr ⟨fragment, member, ?_⟩)
        simp [events, again]
      simp [mem_replicate] at tail
    · rintro ⟨opens, closed⟩
      have deltas := events_of_unopened index others (fun other member => speak other (by simp [member])) closed
      by_cases argued : first.call.function.arguments = ""
      · exact ⟨.toolUse, others.length, by simp [events, opens, argued, deltas]⟩
      · exact ⟨.toolUse, others.length + 1, by simp [events, opens, argued, deltas, replicate_succ]⟩

variable (segment : Segment)

theorem segment_width_pos : 0 < segment.width := by
  cases segment with
  | text | thinking => exact one_pos
  | tools run =>
    have := top_nonneg run
    simp only [Segment.width]
    omega

variable (segments : List Segment)

theorem width_nonneg : 0 ≤ width segments := by
  induction segments with
  | nil => exact le_refl 0
  | cons segment =>
    have := segment_width_pos segment
    simp only [width]
    omega

theorem blockEvents_closing : blockEvents index (segment.closing base) =
      if base ≤ index ∧ index < base + segment.width then [.stop index] else [] := by
  cases segment with
  | text | thinking =>
    rw [Segment.closing, blockEvents_stop]
    by_cases same : index = base
    · rw [if_pos same, if_pos (by simp only [Segment.width]; omega), same]
    · rw [if_neg same, if_neg (by simp only [Segment.width]; omega)]
  | tools run =>
    have := top_nonneg run
    rw [Segment.closing, blockEvents_stops, toNat_of_nonneg (by omega)]
    rfl

theorem blockEvents_opening_beyond {index base : Int} (beyond : base + segment.width ≤ index) :
    blockEvents index (segment.opening base) = [] := by
  cases segment with
  | text parts | thinking parts =>
    simp only [Segment.width] at beyond
    rw [Segment.opening, blockEvents_fed index base _ _ _ parts rfl fun _ => rfl, if_neg (by omega)]
  | tools run =>
    have none : speaking (index - base) run = [] := by
      rw [speaking, filter_eq_nil_iff]
      intro fragment member
      have := offset_le_top member
      simp only [Segment.width] at beyond
      have other : ¬fragment.offset = index - base := by omega
      simp [other]
    rw [blockEvents_run, none]
    rfl

theorem blockEvents_written (segment : Segment) (older : List Segment) :
    blockEvents index (written (segment :: older)) =
      blockEvents index (written older) ++ blockEvents index (segment.opening (width older)) ++
        blockEvents index (segment.closing (width older)) := by
  simp only [written, blockEvents_append]

theorem blockEvents_beyond {index : Int} (beyond : width segments ≤ index) :
    blockEvents index (written segments) = [] := by
  induction segments with
  | nil => rfl
  | cons segment _ ih =>
    have := segment_width_pos segment
    simp only [width] at beyond
    rw [blockEvents_written, ih (by omega), blockEvents_opening_beyond segment beyond, blockEvents_closing,
      if_neg (by omega)]
    rfl

theorem stop_mem_written {index : Int} (lower : 0 ≤ index) (upper : index < width segments) :
    .stop index ∈ blockEvents index (written segments) := by
  induction segments with
  | nil => simp only [width] at upper; omega
  | cons _ older ih =>
    rw [blockEvents_written]
    by_cases before : index < width older
    · exact mem_append_left _ (mem_append_left _ (ih before))
    · simp only [width] at upper
      rw [blockEvents_closing, if_pos ⟨by omega, upper⟩]
      simp

theorem stop_not_mem_opening : .stop index ∉ blockEvents index (segment.opening base) := by
  cases segment with
  | text parts | thinking parts =>
    rw [Segment.opening, blockEvents_fed index base _ _ _ parts rfl fun _ => rfl]
    split <;> simp [mem_replicate]
  | tools =>
    rw [blockEvents_run, mem_flatMap]
    rintro ⟨fragment, -, stopped⟩
    by_cases opens : fragment.opens = true <;> by_cases argued : fragment.call.function.arguments = "" <;>
      simp [events, opens, argued] at stopped

theorem stop_not_mem_negative {index : Int} (negative : index < 0) :
    .stop index ∉ blockEvents index (written segments) := by
  induction segments with
  | nil => simp [written, blockEvents]
  | cons segment older ih =>
    have := width_nonneg older
    rw [blockEvents_written, blockEvents_closing, if_neg (by omega), append_nil, mem_append]
    rintro (stopped | stopped)
    · exact ih stopped
    · exact stop_not_mem_opening index _ segment stopped

structure Sound (base : Int) (segment : Segment) : Prop where
  nothingBefore : ∀ index, index < base → blockEvents index (segment.opening base) = []
  bracketed : ∀ index, base ≤ index →
    Bracketed index (blockEvents index (segment.opening base) ++ blockEvents index (segment.closing base))

/-- Segments are well formed one by one: what an older segment has stopped stays stopped, and nothing stops what
a newer one writes before its own blocks. -/
theorem bracketed_cons_iff (older : List Segment) :
    (∀ index, Bracketed index (blockEvents index (written (segment :: older)))) ↔
      (∀ index, Bracketed index (blockEvents index (written older))) ∧ Sound (width older) segment := by
  constructor
  · intro bracketed
    have before : ∀ index, index < width older → blockEvents index (segment.opening (width older)) = [] ∧
        Bracketed index (blockEvents index (written older)) := by
      intro index below
      have whole := bracketed index
      rw [blockEvents_written, blockEvents_closing, if_neg (by omega), append_nil] at whole
      by_cases negative : index < 0
      · have unstopped : .stop index ∉
            blockEvents index (written older) ++ blockEvents index (segment.opening (width older)) := by
          rw [mem_append]
          rintro (stopped | stopped)
          · exact stop_not_mem_negative older negative stopped
          · exact stop_not_mem_opening index _ segment stopped
        obtain ⟨left, right⟩ := append_eq_nil_iff.mp (whole.of_no_stop unstopped)
        exact ⟨right, .inl left⟩
      · have nothing := whole.of_stop (stop_mem_written older (by omega) below)
        rw [nothing, append_nil] at whole
        exact ⟨nothing, whole⟩
    refine ⟨fun index => ?_, fun index below => (before index below).1, fun index atLeast => ?_⟩
    · by_cases below : index < width older
      · exact (before index below).2
      · exact .inl (blockEvents_beyond older (by omega))
    · have whole := bracketed index
      rw [blockEvents_written, blockEvents_beyond older atLeast, nil_append] at whole
      exact whole
  · rintro ⟨bracketed, sound⟩ index
    rw [blockEvents_written]
    by_cases below : index < width older
    · rw [sound.nothingBefore index below, blockEvents_closing, if_neg (by omega), append_nil, append_nil]
      exact bracketed index
    · rw [blockEvents_beyond older (by omega), nil_append]
      exact sound.bracketed index (by omega)

theorem sound_of_fed {base : Int} {segment : Segment} {kind : BlockKind} {count : Nat}
    (opening : ∀ index, blockEvents index (segment.opening base) =
      if index = base then .start base kind :: replicate count (.delta base kind) else [])
    (narrow : segment.width = 1) : Sound base segment where
  nothingBefore := by
    intro index below
    rw [opening, if_neg (by omega)]
  bracketed := by
    intro index atLeast
    rw [opening, blockEvents_closing, narrow]
    by_cases same : index = base
    · rw [if_pos same, if_pos (by omega), same]
      exact .inr ⟨kind, count, rfl⟩
    · rw [if_neg same, if_neg (by omega)]
      exact .inl rfl

theorem sound_text (base : Int) (parts : List String) : Sound base (.text parts) :=
  sound_of_fed (fun index => blockEvents_fed index base .text _ _ parts rfl fun _ => rfl) rfl
theorem sound_thinking (base : Int) (parts : List String) : Sound base (.thinking parts) :=
  sound_of_fed (fun index => blockEvents_fed index base .thinking _ _ parts rfl fun _ => rfl) rfl

theorem sound_tools_iff (base : Int) (run : List Fragment) : Sound base (.tools run) ↔ Complete run := by
  have speak : ∀ offset : Int, ∀ fragment ∈ speaking offset run, fragment.speaks = true := by
    intro offset fragment member
    have := (mem_filter.mp member).2
    simp only [Bool.and_eq_true] at this
    exact this.2
  constructor
  · intro sound
    refine ⟨fun fragment member negative => ?_, fun offset lower upper => ?_⟩
    · by_contra loud
      have nothing := sound.nothingBefore (base + fragment.offset) (by omega)
      rw [blockEvents_run, flatMap_eq_nil_iff] at nothing
      have speaks : fragment.speaks = true := by simpa using loud
      refine events_ne_nil speaks _ (nothing fragment (mem_filter.mpr ⟨member, ?_⟩))
      have here : fragment.offset = base + fragment.offset - base := by omega
      simp only [← here, speaks, decide_true, Bool.and_self]
    · have whole := sound.bracketed (base + offset) (by omega)
      rw [blockEvents_closing, if_pos ⟨by omega, by simp only [Segment.width]; omega⟩, bracketed_stop_iff,
        blockEvents_run, introduced_iff _ _ (speak _)] at whole
      have here : base + offset - base = offset := by omega
      rwa [here] at whole
  · intro complete
    refine ⟨fun index below => ?_, fun index atLeast => ?_⟩
    · have none : speaking (index - base) run = [] := by
        rw [speaking, filter_eq_nil_iff]
        intro fragment member
        by_cases here : fragment.offset = index - base
        · simp [complete.silent fragment member (by omega)]
        · simp [here]
      rw [blockEvents_run, none]
      rfl
    · by_cases within : index < base + (Segment.tools run).width
      · have upper : index - base ≤ top run := by
          simp only [Segment.width] at within
          omega
        rw [blockEvents_closing, if_pos ⟨atLeast, within⟩, bracketed_stop_iff, blockEvents_run,
          introduced_iff _ _ (speak _)]
        exact complete.introduced (index - base) (by omega) upper
      · rw [blockEvents_opening_beyond _ (by omega), blockEvents_closing, if_neg (by omega)]
        exact .inl rfl

theorem bracketed_iff_complete : (∀ index, Bracketed index (blockEvents index (written segments))) ↔
      ∀ run, .tools run ∈ segments → Complete run := by
  induction segments with
  | nil => simp [written, blockEvents, Bracketed]
  | cons segment _ ih =>
    rw [bracketed_cons_iff, ih]
    cases segment with
    | text => simp [sound_text]
    | thinking => simp [sound_thinking]
    | tools run =>
      rw [sound_tools_iff]
      simp only [mem_cons, forall_eq_or_imp, Segment.tools.injEq]
      exact and_comm

theorem block_of_opening (base : Int) (segment : Segment) :
    ∀ response ∈ segment.opening base, response.event.block?.isSome := by
  cases segment with
  | text | thinking => simp [Segment.opening, block?]
  | tools =>
    intro response member
    obtain ⟨fragment, -, written⟩ := mem_flatMap.mp member
    by_cases opens : fragment.opens = true <;> by_cases argued : fragment.call.function.arguments = "" <;>
      simp_all [responses, block?]
    rcases written with rfl | rfl <;> rfl

theorem block_of_closing (base : Int) (segment : Segment) :
    ∀ response ∈ segment.closing base, response.event.block?.isSome := by
  cases segment <;> simp [Segment.closing, block?]

theorem block_of_written : ∀ event ∈ (written segments).map ClaudeResponse.event, event.block?.isSome := by
  induction segments with
  | nil => simp [written]
  | cons segment _ ih =>
    simp only [written, map_append, mem_append, mem_map]
    rintro event ((before | ⟨response, member, rfl⟩) | ⟨response, member, rfl⟩)
    · exact ih event (mem_map.mpr before)
    · exact block_of_opening _ segment response member
    · exact block_of_closing _ segment response member

theorem grammatical_message_iff (chunk : ChatChunk) (estimate : Int) (segments : List Segment) (usage : Option Usage)
    (stopReason : String) :
    Grammatical (messageStart chunk estimate :: (written segments ++ [messageDelta usage stopReason, messageStop])) ↔
      ∀ index, Bracketed index (blockEvents index (written segments)) := by
  constructor
  · intro grammatical index
    simpa [blockEvents, block?] using grammatical.bracketed index
  · intro bracketed
    exact ⟨(written segments).map ClaudeResponse.event, by simp, block_of_written segments, bracketed⟩

def Segment.run? : Segment → Option (List Fragment)
  | .tools run => some run
  | .text _ | .thinking _ => none

def toolRuns (stored : Option Usage) (chunks : List ChatChunk) : List (List Fragment) :=
  (streamSegments stored chunks).filterMap Segment.run?

theorem mem_toolRuns {stored : Option Usage} {chunks : List ChatChunk} {run : List Fragment} :
    run ∈ toolRuns stored chunks ↔ .tools run ∈ streamSegments stored chunks := by
  simp only [toolRuns, mem_filterMap]
  constructor
  · rintro ⟨segment, member, found⟩
    cases segment with
    | text | thinking => cases found
    | tools =>
      cases found
      exact member
  · intro member
    exact ⟨.tools run, member, rfl⟩

abbrev Source := Int × ToolCallResponse

def Source.named (source : Source) : Bool := source.2.function.name != ""
def Fragment.source (fragment : Fragment) : Source := (fragment.tool, fragment.call)

def streamSources (chunks : List ChatChunk) : List Source :=
  chunks.flatMap fun chunk =>
    match chunk.choices with
    | [] => []
    | choice :: _ => (fragmentsFrom 0 choice.delta.toolCalls).map source

/-- The first fragment of each tool index carries its name, and later ones do not. -/
def NamedFirst : List Int → List Source → Prop
  | _, [] => True
  | seen, source :: rest => (source.named = true ↔ source.1 ∉ seen) ∧ NamedFirst (source.1 :: seen) rest

instance decidableNamedFirst : (seen : List Int) → (sources : List Source) → Decidable (NamedFirst seen sources)
  | _, [] => inferInstanceAs (Decidable True)
  | seen, source :: rest =>
    haveI := decidableNamedFirst (source.1 :: seen) rest
    inferInstanceAs (Decidable (_ ∧ NamedFirst (source.1 :: seen) rest))

/-- A chat chunk stream with a single choice. -/
structure Conforming (chunks : List ChatChunk) : Prop where
  nonempty : chunks ≠ []
  singleChoice : ∀ chunk ∈ chunks, chunk.choices.length ≤ 1
  namedFirst : NamedFirst [] (streamSources chunks)

/-- The conversion of a stream obeys the grammar exactly if each run of tool fragments that it reads is complete:
the places of the run are 0 up to some last one, and each is introduced once, before its arguments. -/
theorem claude_stream_grammatical_iff (info : Meta) (stored : Option Usage) (chunks : List ChatChunk)
    (nonempty : chunks ≠ []) :
    Grammatical (convertStream (info.fresh stored) chunks) ↔ ∀ run ∈ toolRuns stored chunks, Complete run := by
  obtain ⟨chunk, rest, rfl⟩ := exists_cons_of_ne_nil nonempty
  obtain ⟨_, _, converted⟩ := convertStream_eq info stored chunk rest
  rw [converted, grammatical_message_iff, bracketed_iff_complete]
  simp only [mem_toolRuns]

section streams

def roleChunk : ChatChunk := { choices := [{ delta := { role := "assistant", content := some "" } }] }
def textChunk (text : String) : ChatChunk := { choices := [{ delta := { content := some text } }] }
def toolChunk (calls : List ToolCallResponse) : ChatChunk := { choices := [{ delta := { toolCalls := calls } }] }

def finishChunk (reason : String) : ChatChunk :=
  { choices := [{ finishReason := some reason }], usage := some { promptTokens := 7, completionTokens := 3 } }
def callStart (index : Int) (id name : String) : ToolCallResponse := ⟨some index, id, ⟨name, ""⟩⟩
def callArguments (index : Int) (arguments : String) : ToolCallResponse := ⟨some index, "", ⟨"", arguments⟩⟩

/-- Text, then two tools whose fragments interleave, then the finish reason with usage. -/
def parallelTools : List ChatChunk :=
  [roleChunk, textChunk "Looking", toolChunk [callStart 0 "a" "lookup", callStart 1 "b" "search"],
    toolChunk [callArguments 1 "{}", callArguments 0 "{}"], finishChunk "tool_calls"]

theorem claude_stream_grammatical_parallel :
    Conforming parallelTools ∧ Grammatical (convertStream (Meta.fresh {} none) parallelTools) := by
  refine ⟨⟨by decide, by decide, by decide⟩, ?_⟩
  exact (claude_stream_grammatical_iff {} none parallelTools (by decide)).mpr (by decide)

def interruptedTools : List ChatChunk :=
  [roleChunk, toolChunk [callStart 0 "a" "lookup", callArguments 0 "{}"], textChunk "and",
    toolChunk [callStart 1 "b" "search", callArguments 1 "{}"], finishChunk "tool_calls"]

/-- The second tool opens a new run, in which place 0 is stopped without having been started. -/
theorem claude_stream_ungrammatical :
    Conforming interruptedTools ∧ ¬Grammatical (convertStream (Meta.fresh {} none) interruptedTools) := by
  refine ⟨⟨by decide, by decide, by decide⟩, fun grammatical => ?_⟩
  have unstarted : blockEvents 2 (convertStream (Meta.fresh {} none) interruptedTools) = [.stop 2] := by decide
  rcases unstarted ▸ grammatical.bracketed 2 with empty | ⟨_, _, block⟩
  · cases empty
  · cases block

end streams

end FlowAPI.Convert
