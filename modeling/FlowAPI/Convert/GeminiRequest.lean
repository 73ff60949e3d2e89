import FlowAPI.Convert.ToChat
import FlowAPI.Semantics.Grouping

/-! The tool calls of a Gemini request that is converted to a chat request.

Gemini's function calls have no ids. The conversion numbers the calls of each content from 1 and gives a function
response the number of calls before it in its own content. -/

set_option autoImplicit false
namespace FlowAPI.Convert.GeminiRequest
open Semantics List

structure FileData where
  (mimeType fileUri : String)

/-- A part of a content. Calls and responses have a name and the text that their arguments or results marshal to. -/
structure Part where
  text : String := ""
  inlineData : Option GeminiInlineData := none
  fileData : Option FileData := none
  functionCall : Option (String × String) := none
  functionResponse : Option (String × String) := none

structure Content where
  role : String
  parts : List Part

inductive MediaContent where
  | text (said : String)
  | imageUrl (url mimeType : String)

inductive MessageContent where
  | text (said : String)
  | media (contents : List MediaContent)

structure ToolCallRequest where
  (id name arguments : String)

structure Message where
  role : String
  content : Option MessageContent := none
  toolCalls : List ToolCallRequest := []
  toolCallId : String := ""

inductive Kind where
  | media (content : MediaContent)
  | call (name arguments : String)
  | response (name result : String)
  | empty

def Part.kind (part : Part) : Kind :=
  if part.text ≠ "" then .media (.text part.text)
  else
    match part.inlineData, part.fileData, part.functionCall, part.functionResponse with
    | some inline, _, _, _ =>
      .media (.imageUrl ("data:" ++ inline.mimeType ++ ";base64," ++ inline.data) inline.mimeType)
    | none, some file, _, _ => .media (.imageUrl file.fileUri file.mimeType)
    | none, none, some (name, arguments), _ => .call name arguments
    | none, none, none, some (name, result) => .response name result
    | none, none, none, none => .empty

def callId (number : Nat) : String := "call_" ++ toString number

structure Reading where
  mediaContents : List MediaContent := []
  toolCalls : List ToolCallRequest := []
  messages : List Message := []

open GeminiRequest.Reading

def Reading.part (reading : Reading) (kind : Kind) : Reading :=
  match kind with
  | .media content => { reading with mediaContents := reading.mediaContents ++ [content] }
  | .call name arguments =>
    { reading with toolCalls := reading.toolCalls ++ [⟨callId (reading.toolCalls.length + 1), name, arguments⟩] }
  | .response _ result =>
    { reading with
      messages := reading.messages ++
        [{ role := "tool", content := some (.text result), toolCallId := callId reading.toolCalls.length }] }
  | .empty => reading

def convertGeminiRoleToOpenAI : String → String
  | "model" => "assistant"
  | "function" => "function"
  | _ => "user"

variable (content : Content)

def Content.kinds : List Kind := content.parts.map Part.kind

def convertContent : List Message :=
  let reading := content.kinds.foldl part {}
  let role := convertGeminiRoleToOpenAI content.role
  reading.messages ++
    if reading.toolCalls ≠ [] then [{ role, toolCalls := reading.toolCalls }]
    else
      match reading.mediaContents with
      | [] => []
      | [.text said] => [{ role, content := some (.text said) }]
      | contents => [{ role, content := some (.media contents) }]

def convertContents (contents : List Content) : List Message := contents.flatMap convertContent

/-- The keys of the calls that the responses answer: each the oldest one of its name that is still open. -/
def answering {Key : Type} (opened : List (String × Key)) : List Key → List Kind → List (Option Key)
  | _, [] => []
  | keys, .call name _ :: rest => answering (opened ++ (keys.head?.map fun key => (name, key)).toList) keys.tail rest
  | keys, .response name _ :: rest =>
    (opened.find? fun call => call.1 = name).map Prod.snd ::
      answering (opened.eraseP fun call => call.1 = name) keys rest
  | keys, _ :: rest => answering opened keys rest

def callIds (messages : List Message) : List String := messages.flatMap fun message => message.toolCalls.map (·.id)
def answerIds (messages : List Message) : List String :=
  (messages.filter fun message => message.role = "tool").map Message.toolCallId

/-- The ids of the tool calls are distinct, and every tool message has the id of the call that it answers. -/
structure Linked (contents : List Content) (messages : List Message) : Prop where
  distinct : (callIds messages).Nodup
  answers : answering [] (callIds messages) (contents.flatMap Content.kinds) = (answerIds messages).map some

def Kind.isCall : Kind → Bool
  | .call _ _ => true
  | _ => false

def Content.calls : Nat := content.kinds.countP Kind.isCall

def callsBefore (count : Nat) : List Kind → List Nat
  | [] => []
  | .call _ _ :: rest => callsBefore (count + 1) rest
  | .response _ _ :: rest => count :: callsBefore count rest
  | _ :: rest => callsBefore count rest

theorem callId_injective : Function.Injective callId := by
  intro first second same
  have digits : Nat.toDigits 10 first = Nat.toDigits 10 second := by
    simpa [callId, Nat.repr_eq_ofList_toDigits] using congrArg String.toList same
  simpa using congrArg (Nat.ofDigitChars 10 · 0) digits

theorem foldl_part (kinds : List Kind) (reading : Reading) :
    (kinds.foldl part reading).toolCalls.map (·.id) = reading.toolCalls.map (·.id) ++
        (range' (reading.toolCalls.length + 1) (kinds.countP Kind.isCall)).map callId ∧
      callIds (kinds.foldl part reading).messages = callIds reading.messages ∧
      answerIds (kinds.foldl part reading).messages =
        answerIds reading.messages ++ (callsBefore reading.toolCalls.length kinds).map callId := by
  induction kinds generalizing reading with
  | nil => simp [callsBefore]
  | cons kind rest ih =>
    have following := ih (reading.part kind)
    cases kind <;>
      simp_all [part, Kind.isCall, callsBefore, callIds, answerIds, countP_cons, range'_succ]

theorem convertContent_ids : callIds (convertContent content) = (range' 1 content.calls).map callId ∧
      answerIds (convertContent content) = (callsBefore 0 content.kinds).map callId := by
  obtain ⟨calls, silent, answers⟩ := foldl_part content.kinds {}
  have role : convertGeminiRoleToOpenAI content.role ≠ "tool" := by
    unfold convertGeminiRoleToOpenAI
    split <;> decide
  unfold convertContent
  dsimp only
  split_ifs with called
  · simp_all [callIds, answerIds, Content.calls]
  · rw [not_not.mp called] at calls
    have none : content.calls = 0 := by simpa [Content.calls] using (congrArg length calls).symm
    split <;> simp_all [callIds, answerIds]

theorem answering_map {Key Key' : Type} (rename : Key → Key') (opened : List (String × Key)) (keys : List Key)
    (kinds : List Kind) : answering (opened.map fun call => (call.1, rename call.2)) (keys.map rename) kinds =
      (answering opened keys kinds).map (Option.map rename) := by
  induction kinds generalizing opened keys with
  | nil => rfl
  | cons kind rest ih =>
    cases kind with
    | call name =>
      simp only [answering, ← ih, map_append, map_tail]
      cases keys <;> rfl
    | response name =>
      simp only [answering, map_cons, ← ih, find?_map, eraseP_map, Option.map_map]
      rfl
    | media | empty => exact ih opened keys

/-- The links hold exactly if at most one content has function calls and each response's call has, among the calls of
its content, the number of the calls that come before the response in the response's own content. -/
theorem tool_calls_linked_iff (contents : List Content) :
    Linked contents (convertContents contents) ↔
      contents.Pairwise (fun earlier later => earlier.calls = 0 ∨ later.calls = 0) ∧
        answering [] (contents.flatMap fun content => List.range' 1 content.calls) (contents.flatMap Content.kinds) =
          (contents.flatMap fun content => callsBefore 0 content.kinds).map some := by
  have calls : callIds (convertContents contents) =
      (contents.flatMap fun content => List.range' 1 content.calls).map callId := by
    rw [map_flatMap, convertContents, callIds, flatMap_assoc]
    exact flatMap_congr fun content _ => (convertContent_ids content).1
  have answers : answerIds (convertContents contents) =
      (contents.flatMap fun content => callsBefore 0 content.kinds).map callId := by
    rw [map_flatMap, convertContents, answerIds, filter_flatMap, map_flatMap]
    exact flatMap_congr fun content _ => (convertContent_ids content).2
  have renamed := answering_map callId [] (contents.flatMap fun content => List.range' 1 content.calls)
    (contents.flatMap Content.kinds)
  have placed : (answerIds (convertContents contents)).map some =
      ((contents.flatMap fun content => callsBefore 0 content.kinds).map some).map (Option.map callId) := by
    simp [answers, Function.comp_def]
  rw [← Grouping.nodup_restarts_iff 1, ← nodup_map_iff callId_injective,
    ← (map_injective_iff.mpr (Option.map_injective callId_injective)).eq_iff, ← renamed, ← placed, ← calls]
  exact ⟨fun linked => ⟨linked.distinct, linked.answers⟩, fun both => ⟨both.1, both.2⟩⟩

/-- The usual turns of a function call: the response gets an id that no call has. -/
theorem response_answers_no_call :
    let contents : List Content := [⟨"model", [{ functionCall := some ("lookup", "[]") }]⟩,
      ⟨"user", [{ functionResponse := some ("lookup", "[]") }]⟩]
    callIds (convertContents contents) = ["call_1"] ∧ answerIds (convertContents contents) = ["call_0"] ∧
      ¬ Linked contents (convertContents contents) :=
  ⟨by decide +kernel, by decide +kernel, fun linked => absurd linked.answers (by decide +kernel)⟩

end FlowAPI.Convert.GeminiRequest
