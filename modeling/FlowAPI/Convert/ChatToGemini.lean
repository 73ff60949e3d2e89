import FlowAPI.Convert.StreamContent
import FlowAPI.Semantics.Grouping

/-! The conversion of a stream of chat chunks into Gemini responses.

The converter keeps nothing between two chunks. A fragment of a tool call becomes a function call of its own, with
the arguments that this fragment holds, and a chunk with tool calls passes over its content. -/

set_option autoImplicit false
namespace FlowAPI.Convert.ChatToGemini
open Semantics List ToolCallResponse Function
open String (join join_append join_cons)

/-- A choice of a chunk. Its tool calls may be missing or an empty list. -/
structure StreamChoice where
  index : Int := 0
  content : Option String := none
  toolCalls : Option (List ToolCallResponse) := none
  finishReason : Option String := none

def StreamChoice.getContentString (choice : StreamChoice) : String := choice.content.getD ""

/-- How the text of the arguments is read: `Unmarshal` into a map, the empty map, and the map that holds a text under
the key `arguments`. -/
structure ArgumentReader (Args : Type) where
  unmarshal : String → Option Args
  empty : Args
  wrap : String → Args

inductive Part (Args : Type) where
  | text (said : String)
  | functionCall (call : String × Args)

open ChatToGemini.Part

def Part.text? {Args : Type} : Part Args → Option String
  | .text said => some said
  | .functionCall _ => none

def Part.functionCall? {Args : Type} : Part Args → Option (String × Args)
  | .text _ => none
  | .functionCall call => some call

structure Candidate (Args : Type) where
  index : Int
  parts : List (Part Args)
  finishReason : Option String

section
variable {Args : Type} (reader : ArgumentReader Args)

def parseArguments (arguments : String) : Args :=
  if arguments ≠ "" then (reader.unmarshal arguments).getD (reader.wrap arguments) else reader.empty

def geminiFinishReason : String → String
  | "length" => "MAX_TOKENS"
  | "content_filter" => "SAFETY"
  | _ => "STOP"

def functionCall (call : ToolCallResponse) : String × Args :=
  (call.function.name, parseArguments reader call.function.arguments)

variable (choice : StreamChoice)

def parts : List (Part Args) :=
  match choice.toolCalls with
  | some calls => calls.map fun call => .functionCall (functionCall reader call)
  | none => if choice.getContentString ≠ "" then [.text choice.getContentString] else []

def streamResponseOpenAI2Gemini (choices : List StreamChoice) : Option (List (Candidate Args)) :=
  let hasContent := choices.any fun choice =>
    decide (choice.getContentString ≠ "") || decide (choice.toolCalls.getD [] ≠ [])
  let hasFinishReason := choices.any fun choice => choice.finishReason.isSome
  if !hasContent && !hasFinishReason then none
  else some (choices.map fun choice =>
    { index := choice.index, parts := parts reader choice
      finishReason := choice.finishReason.map geminiFinishReason })

variable (chunks : List (List StreamChoice))

def convertStream : List (Part Args) :=
  (chunks.filterMap (streamResponseOpenAI2Gemini reader)).flatten.flatMap Candidate.parts

def fragments : List ToolCallResponse := chunks.flatten.flatMap fun choice => choice.toolCalls.getD []

/-- The tool calls of a stream: the fragments of each index, in the order in which the indices appear, with their names
and their arguments joined. -/
def accumulated (fragments : List ToolCallResponse) : List (String × Args) :=
  (fragments.map index).reverse.dedup.reverse.map fun index =>
    let own := fragments.filter fun fragment => fragment.index = index
    (join (own.map (·.function.name)), parseArguments reader (join (own.map (·.function.arguments))))

theorem convertStream_eq : convertStream reader chunks = chunks.flatten.flatMap (parts reader) := by
  induction chunks with
  | nil => rfl
  | cons choices rest ih =>
    unfold convertStream at ih ⊢
    rw [filterMap_cons, flatten_cons, flatMap_append, ← ih]
    unfold streamResponseOpenAI2Gemini
    dsimp only
    split_ifs with skipped
    · -- a chunk that is skipped has neither content nor a tool call
      have silent : choices.flatMap (parts reader) = [] := by
        rw [flatMap_eq_nil_iff]
        intro choice member
        simp only [Bool.and_eq_true, Bool.not_eq_true', any_eq_false, Bool.or_eq_true, decide_eq_true_eq,
          not_or, not_not] at skipped
        obtain ⟨blank, none⟩ := skipped.1 choice member
        unfold parts
        cases calls : choice.toolCalls <;> simp_all
      rw [silent, nil_append]
    · rw [flatten_cons, flatMap_append, flatMap_map]

theorem parts_functionCalls :
    (parts reader choice).filterMap functionCall? = (choice.toolCalls.getD []).map (functionCall reader) := by
  unfold parts
  cases choice.toolCalls with
  | some calls => simp [filterMap_map, functionCall?, comp_def]
  | none => split_ifs <;> rfl

theorem parts_texts : join ((parts reader choice).filterMap text?) =
      if choice.toolCalls = none then choice.getContentString else "" := by
  unfold parts
  cases choice.toolCalls with
  | some calls => simp [filterMap_map, text?, comp_def]
  | none => by_cases silent : choice.getContentString = "" <;> simp [silent, text?, join_cons]

theorem functionCalls_eq :
    (convertStream reader chunks).filterMap functionCall? = (fragments chunks).map (functionCall reader) := by
  rw [convertStream_eq, fragments, filterMap_flatMap, map_flatMap]
  exact flatMap_congr fun choice _ => parts_functionCalls reader choice

theorem accumulated_eq_iff (fragments : List ToolCallResponse) :
    fragments.map (functionCall reader) = accumulated reader fragments ↔ (fragments.map index).Nodup := by
  constructor
  · -- a repeated index makes fewer tool calls than there are fragments
    intro same
    have lengths := congrArg List.length same
    simp only [accumulated, length_map, length_reverse] at lengths
    have whole := (dedup_sublist (fragments.map index).reverse).eq_of_length (by simp [lengths])
    rw [← nodup_reverse, ← whole]
    exact nodup_dedup _
  · intro distinct
    unfold accumulated
    rw [dedup_eq_self.mpr (nodup_reverse.mpr distinct), reverse_reverse, map_map]
    refine map_congr_left fun fragment member => ?_
    simp only [comp, Grouping.filter_key_eq index distinct member]
    simp [functionCall, join_cons]

end

theorem texts_eq_iff {Args : Type} (reader : ArgumentReader Args) (choices : List StreamChoice) :
    join ((choices.flatMap (parts reader)).filterMap text?) = join (choices.map StreamChoice.getContentString) ↔
      ∀ choice ∈ choices, choice.toolCalls ≠ none → choice.getContentString = "" := by
  have joined : join ((choices.flatMap (parts reader)).filterMap text?) =
      join ((choices.filter fun choice => choice.toolCalls = none).map StreamChoice.getContentString) := by
    induction choices with
    | nil => rfl
    | cons choice rest ih =>
      rw [flatMap_cons, filterMap_append, join_append, parts_texts, ih]
      by_cases plain : choice.toolCalls = none <;> simp [plain, join_cons]
  rw [joined]
  constructor
  · intro same choice member called
    have divided := (filter_append_perm (fun choice : StreamChoice => choice.toolCalls = none) choices).symm.map
      StreamChoice.getContentString
    rw [map_append] at divided
    exact all_empty_of_join_eq divided same _ (mem_map_of_mem (mem_filter.mpr ⟨member, by simpa using called⟩))
  · intro blank
    refine join_filter _ _ choices fun choice member called => blank choice member ?_
    simpa using called

/-- The converted stream has the tool calls of the chat stream and its content exactly if every tool call came in one
fragment and no chunk with tool calls had content. -/
theorem gemini_stream_faithful_iff {Args : Type} (reader : ArgumentReader Args) (chunks : List (List StreamChoice)) :
    (convertStream reader chunks).filterMap functionCall? = accumulated reader (fragments chunks) ∧
      join ((convertStream reader chunks).filterMap text?) =
        join (chunks.flatten.map StreamChoice.getContentString) ↔
    ((fragments chunks).map index).Nodup ∧
      ∀ choice ∈ chunks.flatten, choice.toolCalls ≠ none → choice.getContentString = "" := by
  rw [functionCalls_eq, accumulated_eq_iff, convertStream_eq, texts_eq_iff]

/-- A tool call in two fragments, as OpenAI streams it, becomes two function calls: one without arguments, one
without a name. -/
theorem split_call_doubled :
    let object := "\x7b\"city\":1\x7d"
    let reader : ArgumentReader String := ⟨fun text => if text = object then some text else none, "\x7b\x7d", id⟩
    let chunk := fun name arguments =>
      [{ toolCalls := some [{ index := some 0, function := { name, arguments } }] : StreamChoice }]
    let chunks := [chunk "lookup" "", chunk "" object]
    (convertStream reader chunks).filterMap functionCall? = [("lookup", "\x7b\x7d"), ("", object)] ∧
      accumulated reader (fragments chunks) = [("lookup", object)] := by
  decide

end FlowAPI.Convert.ChatToGemini
