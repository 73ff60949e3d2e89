import FlowAPI.Convert.ChatToClaude
import Mathlib.Tactic.Cases

/-! What the converter reads of a chunk stream, and the content blocks it writes for it.

A stream is cut into pieces: the text, the reasoning and the tool fragments of each chunk. The converter passes
over some of them; the ones it reads are gathered into segments, and each segment becomes one block, or a range
of blocks for a run of tool fragments. The responses of a stream are the blocks of its segments between the
start and the end of the message. -/

set_option autoImplicit false
namespace FlowAPI.Convert
open List Option

/-- A tool fragment: the tool index it belongs to, its place in its run, and whether it starts a block. -/
structure Fragment where
  (tool offset : Int)
  opens : Bool
  call : ToolCallResponse

open Fragment

inductive Piece where
  | text (text : String)
  | thinking (thinking : String)
  | tools (fragments : List Fragment)

def fragmentsFrom : Nat → List ToolCallResponse → List Fragment
  | _, [] => []
  | position, call :: rest =>
    ⟨toolOffset position call, toolOffset position call, call.function.name ≠ "", call⟩ ::
      fragmentsFrom (position + 1) rest

/-- The fragment of a first chunk: it starts block 0 whatever its index and name are. -/
def leadingFragment (call : ToolCallResponse) : Fragment := ⟨toolOffset 0 call, 0, true, call⟩

def ChatChunk.pieces (chunk : ChatChunk) : List Piece :=
  match chunk.choices with
  | [] => []
  | choice :: _ =>
    [.tools (fragmentsFrom 0 choice.delta.toolCalls), .thinking choice.delta.getReasoningContent,
      .text choice.delta.getContentString]

structure Reading where
  (read passed : List Piece := [])

instance : Append Reading := ⟨fun left right => ⟨left.read ++ right.read, left.passed ++ right.passed⟩⟩
@[simp] theorem Reading.read_append (left right : Reading) : (left ++ right).read = left.read ++ right.read := rfl
@[simp] theorem Reading.passed_append (left right : Reading) :
    (left ++ right).passed = left.passed ++ right.passed := rfl

/-- Reasoning is read before text, and text only where there is no reasoning. -/
def readContent (delta : ChatDelta) : Reading :=
  if delta.getReasoningContent ≠ "" then
    { read := [.thinking delta.getReasoningContent], passed := [.text delta.getContentString] }
  else if delta.getContentString ≠ "" then { read := [.text delta.getContentString] }
  else {}

def readLeadingTool : List ToolCallResponse → Reading
  | [] => {}
  | call :: rest => { read := [.tools [leadingFragment call]], passed := [.tools (fragmentsFrom 1 rest)] }

def readFirst (chunk : ChatChunk) : Reading :=
  match chunk.choices with
  | [] => {}
  | choice :: _ => readLeadingTool choice.delta.toolCalls ++ readContent choice.delta

def readDelta (delta : ChatDelta) : Reading :=
  if delta.toolCalls = [] then readContent delta
  else
    { read := [.tools (fragmentsFrom 0 delta.toolCalls)]
      passed := [.thinking delta.getReasoningContent, .text delta.getContentString] }

def readLater (chunk : ChatChunk) : Reading :=
  match chunk.choices with
  | [] => {}
  | choice :: _ =>
    -- A finish reason without usage defers the chunk, and what it carries is never read.
    if choice.finish ≠ "" ∧ chunk.usage.isNone then { passed := chunk.pieces } else readDelta choice.delta

variable (stored : Option Usage)

def endsFirst (chunk : ChatChunk) : Bool :=
  match chunk.choices with
  | [] => false
  | choice :: _ => choice.finish != "" && (chunk.usage.isSome || stored.isSome)

def endsLater (chunk : ChatChunk) : Bool :=
  match chunk.choices with
  | [] => chunk.usage.isSome || stored.isSome
  | choice :: _ => choice.finish != "" && chunk.usage.isSome

variable (chunks : List ChatChunk)

def passedRest : Reading := { passed := chunks.flatMap ChatChunk.pieces }

@[simp] theorem read_passedRest : (passedRest chunks).read = [] := rfl

def readRest (stored : Option Usage) : List ChatChunk → Reading
  | [] => {}
  | chunk :: rest => readLater chunk ++ (if endsLater stored chunk then passedRest rest else readRest stored rest)

def reading : List ChatChunk → Reading
  | [] => {}
  | chunk :: rest => readFirst chunk ++ (if endsFirst stored chunk then passedRest rest else readRest stored rest)

inductive Segment where
  | text (parts : List String)
  | thinking (parts : List String)
  | tools (fragments : List Fragment)

def top (fragments : List Fragment) : Int := fragments.foldl (fun highest fragment => max highest fragment.offset) 0

/-- Segments are listed from the newest on; a piece extends the newest one or starts another. -/
def push : List Segment → Piece → List Segment
  | .text parts :: older, .text text => .text (parts ++ [text]) :: older
  | .thinking parts :: older, .thinking thinking => .thinking (parts ++ [thinking]) :: older
  | .tools run :: older, .tools fragments => .tools (run ++ fragments) :: older
  | older, .text text => .text [text] :: older
  | older, .thinking thinking => .thinking [thinking] :: older
  | older, .tools fragments => .tools fragments :: older

def Segment.width : Segment → Int
  | .text _ | .thinking _ => 1
  | .tools fragments => top fragments + 1

def width : List Segment → Int
  | [] => 0
  | segment :: older => width older + segment.width

def Fragment.responses (base : Int) (fragment : Fragment) : List ClaudeResponse :=
  (if fragment.opens then [toolUseBlockStart (base + fragment.offset) fragment.call] else []) ++
    (if fragment.call.function.arguments ≠ "" then
      [inputJsonDelta (base + fragment.offset) fragment.call.function.arguments] else [])

def Segment.opening (base : Int) : Segment → List ClaudeResponse
  | .text parts => textBlockStart base :: parts.map (textDelta base)
  | .thinking parts => thinkingBlockStart base :: parts.map (thinkingDelta base)
  | .tools fragments => fragments.flatMap (responses base)

def Segment.closing (base : Int) : Segment → List ClaudeResponse
  | .text _ | .thinking _ => [generateStopBlock base]
  | .tools fragments =>
    (List.range (top fragments + 1).toNat).map fun offset : Nat => generateStopBlock (base + offset)

def written : List Segment → List ClaudeResponse
  | [] => []
  | segment :: older => written older ++ segment.opening (width older) ++ segment.closing (width older)

def pending : List Segment → List ClaudeResponse
  | [] => []
  | segment :: older => written older ++ segment.opening (width older)

def closing : List Segment → List ClaudeResponse
  | [] => []
  | segment :: older => segment.closing (width older)

theorem pending_closing (segments : List Segment) : pending segments ++ closing segments = written segments := by
  cases segments with
  | nil | cons => rfl

theorem top_append (run fragments : List Fragment) :
    top (run ++ fragments) = fragments.foldl (fun highest fragment => max highest fragment.offset) (top run) := by
  simp [top, foldl_append]

def Follows (state : ClaudeConvertInfo) : List Segment → Prop
  | [] => state.lastMessagesType = .none ∧ state.index = 0
  | .text _ :: older => state.lastMessagesType = .text ∧ state.index = width older
  | .thinking _ :: older => state.lastMessagesType = .thinking ∧ state.index = width older
  | .tools run :: older =>
    state.lastMessagesType = .tools ∧ state.toolCallBaseIndex = width older ∧ state.toolCallMaxIndexOffset = top run

structure SameTerminal (before after : ClaudeConvertInfo) : Prop where
  usage : after.usage = before.usage
  done : after.done = before.done

theorem SameTerminal.refl (state : ClaudeConvertInfo) : SameTerminal state state := ⟨rfl, rfl⟩

theorem SameTerminal.trans {first second third : ClaudeConvertInfo} (left : SameTerminal first second)
    (right : SameTerminal second third) : SameTerminal first third :=
  ⟨right.usage.trans left.usage, right.done.trans left.done⟩

variable {state : ClaudeConvertInfo}

variable {segments : List Segment}

theorem stopOpenBlocks_of_follows (follows : Follows state segments) : stopOpenBlocks state = closing segments := by
  rcases segments with _ | ⟨_ | _ | _, _⟩ <;>
    simp [stopOpenBlocks, closing, Segment.closing, follows.1, follows.2]

theorem stopOpenBlocksAndAdvance_of_follows (follows : Follows state segments) :
    (stopOpenBlocksAndAdvance state).1 = closing segments ∧ (stopOpenBlocksAndAdvance state).2.index = width segments ∧
      SameTerminal state (stopOpenBlocksAndAdvance state).2 := by
  have stops := stopOpenBlocks_of_follows follows
  rcases segments with _ | ⟨_ | _ | _, _⟩ <;> simp only [stopOpenBlocksAndAdvance, follows.1]
  · exact ⟨rfl, follows.2, .refl state⟩
  · exact ⟨stops, by simp [width, Segment.width, follows.2], ⟨rfl, rfl⟩⟩
  · exact ⟨stops, by simp [width, Segment.width, follows.2], ⟨rfl, rfl⟩⟩
  · exact ⟨stops, by simp [width, Segment.width, follows.2]; omega, ⟨rfl, rfl⟩⟩

structure Extends (before : List Segment) (pieces : List Piece) (state : ClaudeConvertInfo)
    (output : List ClaudeResponse × ClaudeConvertInfo) : Prop where
  grown : pending (pieces.foldl push before) = pending before ++ output.1
  follows : Follows output.2 (pieces.foldl push before)
  same : SameTerminal state output.2

theorem toolCallLoop_eq (base : Int) (position : Nat) (highest : Int) (calls : List ToolCallResponse) :
    toolCallLoop base position highest calls = ((fragmentsFrom position calls).flatMap (responses base),
        (fragmentsFrom position calls).foldl (fun highest fragment => max highest fragment.offset) highest) := by
  induction calls generalizing position highest with
  | nil => rfl
  | cons _ _ ih => simp [toolCallLoop, fragmentsFrom, ih, responses, toolCallResponses]

variable {output : List ClaudeResponse × ClaudeConvertInfo}

theorem Extends.fresh {piece : Piece} {segment : Segment} (fresh : push segments piece = segment :: segments)
    (responses : output.1 = closing segments ++ segment.opening (width segments))
    (follows : Follows output.2 (segment :: segments)) (same : SameTerminal state output.2) :
    Extends segments [piece] state output where
  grown := by
    rw [foldl_cons, foldl_nil, fresh, responses, ← append_assoc, pending_closing]
    rfl
  follows := by
    rw [foldl_cons, foldl_nil, fresh]
    exact follows
  same := same

section
variable (parts : List String) (older : List Segment) (index : state.index = width older)
include index

theorem follows_text : Follows { state with lastMessagesType := .text } (.text parts :: older) :=
  ⟨rfl, index⟩

theorem follows_thinking : Follows { state with lastMessagesType := .thinking } (.thinking parts :: older) :=
  ⟨rfl, index⟩
end

section
variable (follows : Follows state segments)
include follows

theorem push_text_fresh (other : state.lastMessagesType ≠ .text) (text : String) :
    push segments (.text text) = .text [text] :: segments := by
  rcases segments with _ | ⟨_ | _ | _, _⟩
  case cons.text => exact absurd follows.1 other
  all_goals rfl

theorem push_thinking_fresh (other : state.lastMessagesType ≠ .thinking)
    (thinking : String) : push segments (.thinking thinking) = .thinking [thinking] :: segments := by
  rcases segments with _ | ⟨_ | _ | _, _⟩
  case cons.thinking => exact absurd follows.1 other
  all_goals rfl

theorem push_tools_fresh (other : state.lastMessagesType ≠ .tools)
    (fragments : List Fragment) : push segments (.tools fragments) = .tools fragments :: segments := by
  rcases segments with _ | ⟨_ | _ | _, _⟩
  case cons.tools => exact absurd follows.1 other
  all_goals rfl

theorem newest_text (type : state.lastMessagesType = .text) :
    ∃ parts older, segments = .text parts :: older ∧ state.index = width older := by
  rcases segments with _ | ⟨_ | _ | _, _⟩
  case cons.text => exact ⟨_, _, rfl, follows.2⟩
  all_goals exact absurd (type.symm.trans follows.1) nofun

theorem newest_thinking (type : state.lastMessagesType = .thinking) :
    ∃ parts older, segments = .thinking parts :: older ∧ state.index = width older := by
  rcases segments with _ | ⟨_ | _ | _, _⟩
  case cons.thinking => exact ⟨_, _, rfl, follows.2⟩
  all_goals exact absurd (type.symm.trans follows.1) nofun

theorem newest_tools (type : state.lastMessagesType = .tools) :
    ∃ run older, segments = .tools run :: older ∧ state.toolCallBaseIndex = width older ∧
      state.toolCallMaxIndexOffset = top run := by
  rcases segments with _ | ⟨_ | _ | _, _⟩
  case cons.tools => exact ⟨_, _, rfl, follows.2⟩
  all_goals exact absurd (type.symm.trans follows.1) nofun

end

variable (delta : ChatDelta)

section
variable (follows : Follows state segments)
include follows

theorem convertContent_extends : Extends segments (readContent delta).read state (convertContent delta state) := by
  obtain ⟨stops, advanced, same⟩ := stopOpenBlocksAndAdvance_of_follows follows
  unfold convertContent readContent
  by_cases reasoned : delta.getReasoningContent = ""
  · by_cases spoken : delta.getContentString = ""
    · simp only [reasoned, spoken, ne_eq, not_true_eq_false, if_false]
      exact ⟨by simp, follows, .refl state⟩
    · simp only [reasoned, spoken, ne_eq, not_true_eq_false, not_false_eq_true, if_false, if_true]
      by_cases type : state.lastMessagesType = .text
      · obtain ⟨parts, older, rfl, index⟩ := newest_text follows type
        simp only [type, if_true]
        exact ⟨by simp [push, pending, Segment.opening, index], follows_text _ older index, ⟨rfl, rfl⟩⟩
      have fresh := push_text_fresh follows type delta.getContentString
      simp only [type, if_false]
      exact .fresh fresh (by simp [stops, advanced, Segment.opening]) (follows_text _ segments advanced)
        ⟨same.usage, same.done⟩
  · simp only [reasoned, ne_eq, not_false_eq_true, if_true]
    by_cases type : state.lastMessagesType = .thinking
    · obtain ⟨_, older, rfl, index⟩ := newest_thinking follows type
      simp only [type, if_true]
      exact ⟨by simp [push, pending, Segment.opening, index], follows_thinking _ older index, ⟨rfl, rfl⟩⟩
    have fresh := push_thinking_fresh follows type delta.getReasoningContent
    simp only [type, if_false]
    exact .fresh fresh (by simp [stops, advanced, Segment.opening]) (follows_thinking _ segments advanced)
      ⟨same.usage, same.done⟩

theorem convertToolCalls_extends (calls : List ToolCallResponse) :
    Extends segments [.tools (fragmentsFrom 0 calls)] state (convertToolCalls calls state) := by
  obtain ⟨stops, advanced, same⟩ := stopOpenBlocksAndAdvance_of_follows follows
  unfold convertToolCalls
  by_cases type : state.lastMessagesType = .tools
  · obtain ⟨run, _, rfl, base, highest⟩ := newest_tools follows type
    simp only [type, if_true, toolCallLoop_eq, base, highest]
    exact ⟨by simp [push, pending, Segment.opening], ⟨rfl, rfl, (top_append run _).symm⟩, ⟨rfl, rfl⟩⟩
  · have fresh := push_tools_fresh follows type (fragmentsFrom 0 calls)
    simp only [type, if_false, toolCallLoop_eq, advanced, stops]
    exact .fresh fresh (by simp [Segment.opening]) ⟨rfl, rfl, rfl⟩ ⟨same.usage, same.done⟩

theorem convertDelta_extends : Extends segments (readDelta delta).read state (convertDelta delta state) := by
  unfold convertDelta readDelta
  split
  · exact convertContent_extends delta follows
  · exact convertToolCalls_extends follows delta.toolCalls

theorem startWithContent_extends (toolsOnly : state.lastMessagesType = .none ∨ state.lastMessagesType = .tools) :
    Extends segments (readContent delta).read state (startWithContent delta state) := by
  have notText : state.lastMessagesType ≠ .text := by rcases toolsOnly with type | type <;> simp [type]
  have notThinking : state.lastMessagesType ≠ .thinking := by rcases toolsOnly with type | type <;> simp [type]
  have same : startWithContent delta state = convertContent delta state := by
    simp only [startWithContent, convertContent, if_neg notText, if_neg notThinking, append_assoc]
    rfl
  rw [same]
  exact convertContent_extends delta follows

end

def Ends (before : List Segment) (pieces : List Piece) (output : List ClaudeResponse × ClaudeConvertInfo) : Prop :=
  output.2.done = true ∧ ∃ usage stopReason,
    pending before ++ output.1 =
      written (pieces.foldl push before) ++ [messageDelta usage stopReason, messageStop]

theorem Extends.ends {pieces : List Piece}
    (extended : Extends segments pieces state output) (usage : Option Usage) (stopReason : String) :
    pending segments ++ (output.1 ++ (stopOpenBlocks output.2 ++ [messageDelta usage stopReason, messageStop])) =
      written (pieces.foldl push segments) ++ [messageDelta usage stopReason, messageStop] := by
  rw [stopOpenBlocks_of_follows extended.follows, ← pending_closing, extended.grown]
  simp

theorem Extends.none (follows : Follows state segments) : Extends segments [] state ([], state) :=
  ⟨by simp, follows, .refl state⟩

theorem Extends.append {first second : List Piece} {middle final : List ClaudeResponse × ClaudeConvertInfo}
    (left : Extends segments first state middle) (right : Extends (first.foldl push segments) second middle.2 final) :
    Extends segments (first ++ second) state (middle.1 ++ final.1, final.2) where
  grown := by rw [foldl_append, right.grown, left.grown, append_assoc]
  follows := by rw [foldl_append]; exact right.follows
  same := left.same.trans right.same

section
variable (follows : Follows state segments)
include follows

theorem Follows.noted (finishReason : String) : Follows { state with finishReason } segments := by
  rcases segments with _ | ⟨_ | _ | _, _⟩ <;> exact follows

theorem laterChunk_extends {chunk : ChatChunk} (continues : endsLater state.usage chunk = false) :
    Extends segments (readLater chunk).read state (laterChunk chunk state) := by
  unfold laterChunk readLater
  unfold endsLater at continues
  match chunk.choices, continues with
  | [], continues =>
    have noUsage : (chunk.usage.orElse fun _ => state.usage) = none := by
      cases own : chunk.usage <;> cases stored : state.usage <;> simp_all
    simp only [usageOnlyChunk, noUsage]
    exact .none follows
  | choice :: _, continues =>
    by_cases finished : choice.finish = ""
    · simp only [choiceChunk, finished, if_true, ne_eq, not_true_eq_false, false_and, if_false]
      exact convertDelta_extends choice.delta follows
    have noUsage : chunk.usage = none := by cases own : chunk.usage <;> simp_all
    simp only [choiceChunk, finished, noUsage, if_false, ne_eq, not_false_eq_true, isNone_none, and_self, if_true]
    exact ⟨by simp, follows, ⟨rfl, rfl⟩⟩

theorem laterChunk_ends {chunk : ChatChunk} (ended : endsLater state.usage chunk = true) :
    Ends segments (readLater chunk).read (laterChunk chunk state) := by
  unfold laterChunk readLater
  unfold endsLater at ended
  match chunk.choices, ended with
  | [], ended =>
    obtain ⟨usage, found⟩ : ∃ usage, (chunk.usage.orElse fun _ => state.usage) = some usage := by
      cases own : chunk.usage <;> cases stored : state.usage <;> simp_all
    simp only [usageOnlyChunk, found]
    exact ⟨rfl, some usage, _, (Extends.none follows).ends (some usage) _⟩
  | choice :: _, ended =>
    obtain ⟨finished, hasUsage⟩ : choice.finish ≠ "" ∧ chunk.usage.isSome = true := by simpa using ended
    obtain ⟨usage, found⟩ := isSome_iff_exists.mp hasUsage
    simp only [choiceChunk, finished, found, if_false, ne_eq, not_false_eq_true, isNone_some,
      Bool.false_eq_true, and_false]
    refine ⟨rfl, some usage, openAIFinishReasonToClaudeStopReason choice.finish, ?_⟩
    rw [append_assoc]
    exact (convertDelta_extends choice.delta (follows.noted _)).ends (some usage) _

end

theorem startWithDelta_extends (type : state.lastMessagesType = .none) (index : state.index = 0) :
    Extends [] (readLeadingTool delta.toolCalls ++ readContent delta).read state (startWithDelta delta state) := by
  have tool : Extends [] (readLeadingTool delta.toolCalls).read state (startWithToolCall delta.toolCalls state) ∧
      ((startWithToolCall delta.toolCalls state).2.lastMessagesType = .none ∨
        (startWithToolCall delta.toolCalls state).2.lastMessagesType = .tools) := by
    match delta.toolCalls with
    | [] => exact ⟨.none ⟨type, index⟩, .inl type⟩
    | call :: _ =>
      refine ⟨⟨?_, ⟨rfl, rfl, rfl⟩, ⟨rfl, rfl⟩⟩, .inr rfl⟩
      simp [readLeadingTool, startWithToolCall, push, pending, written, width, Segment.opening, responses,
        leadingFragment]
  exact tool.1.append (startWithContent_extends delta tool.1.follows tool.2)

variable {chunk : ChatChunk}

theorem startWithFinish_extends {finishReason : String} (follows : Follows state segments)
    (continues : (finishReason != "" && (chunk.usage.isSome || state.usage.isSome)) = false) :
    Extends segments [] state (startWithFinish chunk finishReason state) := by
  unfold startWithFinish
  by_cases finished : finishReason = ""
  · simp only [finished, if_true]
    exact .none follows
  have noUsage : (chunk.usage.orElse fun _ => state.usage) = none := by
    cases own : chunk.usage <;> cases stored : state.usage <;> simp_all
  simp only [finished, if_false, noUsage]
  exact ⟨by simp, follows.noted _, ⟨rfl, rfl⟩⟩

theorem startWithFinish_ends {finishReason : String} (follows : Follows state segments)
    (ended : (finishReason != "" && (chunk.usage.isSome || state.usage.isSome)) = true) :
    Ends segments [] (startWithFinish chunk finishReason state) := by
  obtain ⟨finished, _⟩ : finishReason ≠ "" ∧ (chunk.usage.isSome || state.usage.isSome) = true := by simpa using ended
  obtain ⟨usage, found⟩ : ∃ usage, (chunk.usage.orElse fun _ => state.usage) = some usage := by
    cases own : chunk.usage <;> cases stored : state.usage <;> simp_all
  simp only [startWithFinish, finished, if_false, found]
  exact ⟨rfl, some usage, _, (Extends.none follows).ends (some usage) _⟩

section
variable (estimatePromptTokens : Int) (state : ClaudeConvertInfo) (type : state.lastMessagesType = .none)
  (index : state.index = 0)
include type index

theorem firstChunk_extends (continues : endsFirst state.usage chunk = false) :
    ∃ output, firstChunk chunk estimatePromptTokens state =
        (messageStart chunk estimatePromptTokens :: output.1, output.2) ∧
      Extends [] (readFirst chunk).read state output := by
  unfold firstChunk readFirst
  unfold endsFirst at continues
  match chunk.choices, continues with
  | [], _ => exact ⟨([], state), rfl, .none ⟨type, index⟩⟩
  | choice :: _, continues =>
    have started := startWithDelta_extends choice.delta type index
    rw [← started.same.usage] at continues
    have finished := startWithFinish_extends started.follows continues
    have both := started.append finished
    rw [append_nil] at both
    exact ⟨((startWithDelta choice.delta state).1 ++ _, _), rfl, both⟩

theorem firstChunk_ends (ended : endsFirst state.usage chunk = true) :
    ∃ output, firstChunk chunk estimatePromptTokens state =
        (messageStart chunk estimatePromptTokens :: output.1, output.2) ∧ Ends [] (readFirst chunk).read output := by
  unfold firstChunk readFirst
  unfold endsFirst at ended
  match chunk.choices, ended with
  | choice :: _, ended =>
    have started := startWithDelta_extends choice.delta type index
    rw [← started.same.usage] at ended
    obtain ⟨done, usage, stopReason, terminal⟩ := startWithFinish_ends started.follows ended
    refine ⟨((startWithDelta choice.delta state).1 ++ _, _), rfl, done, usage, stopReason, ?_⟩
    rw [← append_assoc, ← started.grown]
    exact terminal
end

theorem convertChunks_done {info : Meta} (done : info.claudeConvertInfo.done = true) (chunks : List ChatChunk) :
    (convertChunks info chunks).1 = [] ∧ (convertChunks info chunks).2.claudeConvertInfo.done = true := by
  induction chunks generalizing info with
  | nil => exact ⟨rfl, done⟩
  | cons chunk _ ih =>
    have quiet : streamResponseOpenAI2Claude chunk info.incrSendResponseCount = ([], info.incrSendResponseCount) := by
      simp [streamResponseOpenAI2Claude, Meta.incrSendResponseCount, done]
    simp only [convertChunks, quiet, nil_append]
    exact ih done

theorem convertStream_done {info : Meta} (done : info.claudeConvertInfo.done = true) (chunks : List ChatChunk) :
    convertStream info chunks = [] := by
  obtain ⟨quiet, still⟩ := convertChunks_done done chunks
  simp [convertStream, quiet, finalizeStreamResponseOpenAI2Claude, still]

variable (info : Meta)

theorem convertStream_cons (chunk : ChatChunk) (rest : List ChatChunk) : convertStream info (chunk :: rest) =
      (streamResponseOpenAI2Claude chunk info.incrSendResponseCount).1 ++
        convertStream (streamResponseOpenAI2Claude chunk info.incrSendResponseCount).2 rest := by
  simp [convertStream, convertChunks]

theorem convertStream_rest {segments : List Segment} (chunks : List ChatChunk)
    (follows : Follows info.claudeConvertInfo segments) (going : info.claudeConvertInfo.done = false)
    (begun : info.sendResponseCount ≠ 0) : ∃ usage stopReason, pending segments ++ convertStream info chunks =
      written ((readRest info.claudeConvertInfo.usage chunks).read.foldl push segments) ++
        [messageDelta usage stopReason, messageStop] := by
  induction chunks generalizing info segments with
  | nil =>
    simp only [convertStream, convertChunks, finalizeStreamResponseOpenAI2Claude, going, Bool.false_eq_true, if_false]
    exact ⟨info.claudeConvertInfo.usage, _, (Extends.none follows).ends _ _⟩
  | cons chunk _ ih =>
    have later : streamResponseOpenAI2Claude chunk info.incrSendResponseCount =
        ((laterChunk chunk info.claudeConvertInfo).1,
          { info.incrSendResponseCount with claudeConvertInfo := (laterChunk chunk info.claudeConvertInfo).2 }) := by
      simp [streamResponseOpenAI2Claude, Meta.incrSendResponseCount, going, begun]
    rw [convertStream_cons, later, ← append_assoc]
    cases ended : endsLater info.claudeConvertInfo.usage chunk with
    | false =>
      have extended := laterChunk_extends follows ended
      obtain ⟨usage, stopReason, terminal⟩ := ih
        { info.incrSendResponseCount with claudeConvertInfo := (laterChunk chunk info.claudeConvertInfo).2 }
        extended.follows (extended.same.done.trans going) (Nat.succ_ne_zero _)
      refine ⟨usage, stopReason, ?_⟩
      rw [← extended.grown, terminal, extended.same.usage]
      simp [readRest, ended]
    | true =>
      obtain ⟨done, usage, stopReason, terminal⟩ := laterChunk_ends follows ended
      refine ⟨usage, stopReason, ?_⟩
      rw [convertStream_done done, append_nil, terminal]
      simp [readRest, ended]

/-- The context of a stream that has not begun; the host may have stored a usage. -/
def Meta.fresh (stored : Option Usage) : Meta :=
  { info with claudeConvertInfo := { usage := stored }, sendResponseCount := 0 }

def streamSegments : List Segment := (reading stored chunks).read.foldl push []

theorem convertStream_eq (stored : Option Usage) (chunk : ChatChunk) (rest : List ChatChunk) :
    ∃ usage stopReason, convertStream (info.fresh stored) (chunk :: rest) =
      messageStart chunk info.estimatePromptTokens ::
        (written (streamSegments stored (chunk :: rest)) ++ [messageDelta usage stopReason, messageStop]) := by
  have first : streamResponseOpenAI2Claude chunk (info.fresh stored).incrSendResponseCount =
      ((firstChunk chunk info.estimatePromptTokens { usage := stored }).1,
        { (info.fresh stored).incrSendResponseCount with
          claudeConvertInfo := (firstChunk chunk info.estimatePromptTokens { usage := stored }).2 }) := by
    simp [streamResponseOpenAI2Claude, Meta.incrSendResponseCount, Meta.fresh]
  rw [convertStream_cons, first]
  cases ended : endsFirst stored chunk with
  | false =>
    obtain ⟨output, converted, extended⟩ :=
      firstChunk_extends info.estimatePromptTokens { usage := stored } rfl rfl ended
    rw [converted]
    obtain ⟨usage, stopReason, terminal⟩ := convertStream_rest
      { (info.fresh stored).incrSendResponseCount with claudeConvertInfo := output.2 } rest
      extended.follows extended.same.done (Nat.succ_ne_zero _)
    refine ⟨usage, stopReason, ?_⟩
    have grown : pending ((readFirst chunk).read.foldl push []) = output.1 := by simpa [pending] using extended.grown
    rw [grown] at terminal
    simp only [cons_append, terminal, extended.same.usage]
    simp [streamSegments, reading, ended]
  | true =>
    obtain ⟨_, converted, done, usage, stopReason, terminal⟩ :=
      firstChunk_ends info.estimatePromptTokens { usage := stored } rfl rfl ended
    refine ⟨usage, stopReason, ?_⟩
    rw [converted, convertStream_done done, append_nil]
    simpa [streamSegments, reading, ended, pending] using terminal

end FlowAPI.Convert
