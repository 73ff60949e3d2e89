import FlowAPI.Convert.Registry
import FlowAPI.Convert.Terminal

/-! Streams end once.

The last step of a route holds at most one terminal event back. A conversion spends it or leaves it, and the
finalization spends what is left. The step before only feeds the last one: it does not touch the context, and once
it is finalized it has nothing more to say. -/

set_option autoImplicit false
namespace FlowAPI.Convert
open List Response ResponsesToChat.State ResponsesToChat Nat ChatToResponses

/-- Terminal events of the formats: a chunk with a finish reason, a completed or incomplete response, and
`message_stop`. -/
def Response.isTerminal : Response → Bool
  | .chat chunk => chunk.isFinished
  | .responsesEvent event => event.isTerminal
  | .claude response => response.isTerminal
  | .responses _ | .gemini _ | .whole _ _ | .absent | .unsupported => false

variable (info : Option Meta)

def ended : Option Bool := info.map (·.claudeConvertInfo.done)

theorem ended_prepare (spec : ResponseConverterSpec) : ended (prepareResponseStreamInfo info spec) = ended info := by
  unfold prepareResponseStreamInfo
  split
  · cases info <;> rfl
  · rfl

theorem ended_lendUsage (stream : ResponseStreamState) : ended (lendUsage info stream) = ended info := by
  unfold lendUsage
  split
  · cases info <;> rfl
  · rfl

/-- A step that can end a route. `holds` says how many terminal events a state of the step has left. -/
structure Closing (spec : ResponseConverterSpec) (holds : StepState → Option Bool → Nat → Prop) : Prop where
  convert : ∀ {draws : Draws} {info : Option Meta} {state : StepState} {value : Response} {converted : Converted}
    {left : Nat}, holds state (ended info) left →
      executeResponseStreamStep draws info spec state value = .ok converted →
        ∃ rest, holds converted.state (ended converted.info) rest ∧
          converted.values.countP isTerminal + rest = left
  finalize : ∀ {info : Option Meta} {state : StepState} {left : Nat}, holds state (ended info) left →
    ∃ final, finalizeResponseStreamStep info spec state = .ok final ∧ holds final.state (ended final.info) 0 ∧
      final.values.countP isTerminal = left ∧ (left = 0 → final.values = [])

def Accepts (spec : ResponseConverterSpec) (holds : StepState → Option Bool → Nat → Prop) : Prop :=
  ∀ (draws : Draws) {info : Option Meta} {state : StepState} {left : Nat} (chunk : ChatChunk),
    holds state (ended info) left →
      ∃ converted, executeResponseStreamStep draws info spec state (.chat chunk) = .ok converted

structure Feeding (spec : ResponseConverterSpec) (ready spent : StepState → Prop) : Prop where
  convert : ∀ {draws : Draws} {info : Option Meta} {state : StepState} {value : Response} {converted : Converted},
    ready state → executeResponseStreamStep draws info spec state value = .ok converted →
      ready converted.state ∧ ended converted.info = ended info
  finalize : ∀ (info : Option Meta) {state : StepState}, ready state →
    ∃ final, finalizeResponseStreamStep info spec state = .ok final ∧ spent final.state ∧
      ended final.info = ended info ∧ ∃ chunks : List ChatChunk, final.values = chunks.map chat
  again : ∀ (info : Option Meta) {state : StepState}, spent state →
    ∃ final, finalizeResponseStreamStep info spec state = .ok final ∧ spent final.state ∧
      ended final.info = ended info ∧ final.values = []

theorem terminalsLeft_eq_zero {flag : Bool} (none : terminalsLeft flag = 0) : flag = true := by
  cases flag
  · cases none
  · rfl

def chatToResponsesHolds (state : StepState) (_ : Option Bool) (left : Nat) : Prop :=
  ∃ inner, state = .chatToResponses inner ∧ left = terminalsLeft inner.finalized

theorem chatToResponses_new (uuid : String) (now : Int) (options : ResponseStreamOptions) (ended : Option Bool) :
    chatToResponsesHolds (newOAIChatToOAIResponsesStreamState uuid now options) ended 1 :=
  ⟨_, rfl, by split <;> rfl⟩

theorem chatToResponses_closing : Closing openAIChatToOpenAIResponses chatToResponsesHolds where
  convert := by
    rintro _ info state value _ left ⟨inner, rfl, rfl⟩ success
    cases value <;> try cases success
    case chat chunk =>
      obtain ⟨silent, kept⟩ := chunk_silent chunk inner
      refine ⟨_, ⟨_, rfl, rfl⟩, ?_⟩
      rw [countP_map, kept]
      exact (congrArg (· + _) silent).trans (zero_add _)
  finalize := by
    rintro _ _ _ ⟨inner, rfl, rfl⟩
    obtain ⟨count, finalized, nothing⟩ := finalize_spends inner
    refine ⟨_, rfl, ⟨_, rfl, by rw [finalized]; rfl⟩, countP_map.trans count, fun none => ?_⟩
    rw [nothing (terminalsLeft_eq_zero none)]
    rfl

theorem chatToResponses_accepts : Accepts openAIChatToOpenAIResponses chatToResponsesHolds := by
  rintro _ _ _ _ _ ⟨_, rfl, rfl⟩
  exact ⟨_, rfl⟩

def chatToClaudeHolds (_ : StepState) (ended : Option Bool) (left : Nat) : Prop :=
  ∃ done, ended = some done ∧ left = terminalsLeft done

theorem chatToClaude_closing : Closing openAIChatToClaudeMessages chatToClaudeHolds where
  convert := by
    rintro _ info state value _ left ⟨done, present, rfl⟩ success
    obtain ⟨session, rfl, rfl⟩ := Option.map_eq_some_iff.mp present
    cases value <;> try cases success
    case chat chunk =>
      exact ⟨_, ⟨_, rfl, rfl⟩, (congrArg (· + _) countP_map).trans (streamResponse_spends chunk session)⟩
  finalize := by
    rintro _ _ _ ⟨_, present, rfl⟩
    obtain ⟨session, rfl, rfl⟩ := Option.map_eq_some_iff.mp present
    obtain ⟨count, finished, nothing⟩ := finalizeStreamResponse_spends session
    refine ⟨_, rfl, ⟨true, congrArg some finished, rfl⟩, countP_map.trans count, fun none => ?_⟩
    rw [show (some session : Option Meta).getD {} = session from rfl, nothing (terminalsLeft_eq_zero none)]
    rfl

theorem chatToClaude_accepts : Accepts openAIChatToClaudeMessages chatToClaudeHolds := fun _ _ _ _ _ _ => ⟨_, rfl⟩
def responsesToChatHolds (state : StepState) (_ : Option Bool) (left : Nat) : Prop :=
  ∃ inner, state = .responsesToChat inner ∧ left = terminalsLeft inner.finalized

theorem responsesToChat_new (uuid : String) (now : Int) (options : ResponseStreamOptions) (ended : Option Bool) :
    responsesToChatHolds (newOAIResponsesToOAIChatStreamState uuid now options) ended 1 :=
  ⟨_, rfl, by split <;> rfl⟩

variable {info : Option Meta}

theorem responsesToChat_converted {draws : Draws} {inner : ResponsesToChat.State}
    {value : Response} {converted : Converted}
    (success : executeResponseStreamStep draws info openAIResponsesToOpenAIChat (.responsesToChat inner) value =
      .ok converted) :
    ∃ event sent, value = .responses event ∧ responsesStreamEventToChatChunks event inner = some sent ∧
      converted.values = sent.1.map chat ∧ converted.state = .responsesToChat sent.2 ∧ converted.info = info := by
  cases value <;> try cases success
  case responses event =>
    simp only [executeResponseStreamStep, openAIResponsesToOpenAIChat,
      convertOAIResponsesStreamResponseToOAIChat] at success
    split at success <;> cases success
    next sent found => exact ⟨event, sent, rfl, found, rfl, rfl, rfl⟩

theorem responsesToChat_closing : Closing openAIResponsesToOpenAIChat responsesToChatHolds where
  convert := by
    rintro _ info state _ _ left ⟨inner, rfl, rfl⟩ success
    obtain ⟨_, sent, rfl, found, values, state, _⟩ := responsesToChat_converted success
    refine ⟨_, ⟨sent.2, state, rfl⟩, ?_⟩
    rw [values, countP_map]
    exact event_spends found
  finalize := by
    rintro _ _ _ ⟨inner, rfl, rfl⟩
    obtain ⟨count, finalized, nothing⟩ := finalize_spends none inner
    refine ⟨_, rfl, ⟨_, rfl, ?_⟩, countP_map.trans count, fun none => ?_⟩
    · exact (congrArg terminalsLeft finalized).symm
    · exact congrArg (map chat) (nothing (terminalsLeft_eq_zero none))

theorem responsesToChat_feeding :
    Feeding openAIResponsesToOpenAIChat (fun state => ∃ inner, state = .responsesToChat inner)
      fun state => ∃ inner, state = .responsesToChat inner ∧ inner.finalized = true where
  convert := by
    rintro _ info state _ _ ⟨inner, rfl⟩ success
    obtain ⟨_, sent, rfl, _, _, state, context⟩ := responsesToChat_converted success
    exact ⟨⟨sent.2, state⟩, congrArg ended context⟩
  finalize := by
    rintro info state ⟨inner, rfl⟩
    exact ⟨_, rfl, ⟨_, rfl, (finalize_spends none inner).2.1⟩, rfl, _, rfl⟩
  again := by
    rintro _ _ ⟨inner, rfl, finalized⟩
    obtain ⟨_, still, nothing⟩ := finalize_spends none inner
    exact ⟨_, rfl, ⟨_, rfl, still⟩, rfl, congrArg (map chat) (nothing finalized)⟩

theorem geminiToChat_feeding : Feeding geminiContentToOpenAIChat (fun state => ∃ inner, state = .geminiToChat inner)
      fun state => ∃ inner, state = .geminiToChat inner ∧ inner.finishEmitted = true where
  convert := by
    rintro _ info state value _ ⟨inner, rfl⟩ success
    cases value <;> try cases success
    case gemini response => exact ⟨⟨_, rfl⟩, rfl⟩
  finalize := by
    rintro info state ⟨inner, rfl⟩
    refine ⟨_, rfl, ⟨_, rfl, ?_⟩, rfl, _, rfl⟩
    unfold GeminiToChat.finalize
    split
    · assumption
    · rfl
  again := by
    rintro info _ ⟨inner, rfl, emitted⟩
    have nothing : GeminiToChat.finalize (upstreamModelName info) inner = ([], inner) := if_pos emitted
    refine ⟨_, rfl, ⟨inner, ?_, emitted⟩, rfl, ?_⟩
    · rw [nothing]
    · rw [nothing]
      rfl

theorem claudeToChat_feeding : Feeding claudeMessagesToOpenAIChat (fun _ => True) fun _ => True where
  convert := by
    rintro _ info _ value _ - success
    refine ⟨trivial, ?_⟩
    cases value <;> try cases success
    case claude response =>
      simp only [executeResponseStreamStep, claudeMessagesToOpenAIChat,
        convertClaudeMessagesStreamResponseToOAIChat] at success
      split at success <;> cases success <;> rfl
  finalize := fun info _ _ => ⟨_, rfl, trivial, rfl, [], rfl⟩
  again := fun info _ _ => ⟨_, rfl, trivial, rfl, rfl⟩

private theorem except_bind_ok {α β : Type} {source : Except Failure α} {next : α → Except Failure β} {result : β}
    (success : (source >>= next) = .ok result) : ∃ value, source = .ok value ∧ next value = .ok result := by
  cases source with
  | error => cases success
  | ok value => exact ⟨value, rfl, success⟩

variable {draws : Draws} {spec : ResponseConverterSpec} {holds : StepState → Option Bool → Nat → Prop}
  {values out : List Response} {call last : Call} {left : Nat} {specs : List ResponseConverterSpec}

section
variable {ready spent : StepState → Prop} {state final : StepState}

theorem Closing.loop (closing : Closing spec holds) (held : holds state (ended call.info) left)
    (success : convertValues draws spec values state call = .ok (out, final, last)) :
    ∃ rest, holds final (ended last.info) rest ∧ out.countP isTerminal + rest = left := by
  induction values generalizing state call out left with
  | nil =>
    cases success
    exact ⟨left, held, zero_add left⟩
  | cons _ _ ih =>
    obtain ⟨_, executed, success⟩ := except_bind_ok success
    obtain ⟨⟨_, _, _⟩, later, success⟩ := except_bind_ok success
    cases success
    rw [← ended_prepare call.info spec] at held
    obtain ⟨_, held, _⟩ := closing.convert held executed
    obtain ⟨remaining, held, _⟩ := ih held later
    refine ⟨remaining, held, countP_append.symm ▸ ?_⟩
    dsimp only
    omega

theorem Feeding.loop (feeding : Feeding spec ready spent) (isReady : ready state)
    (success : convertValues draws spec values state call = .ok (out, final, last)) :
    ready final ∧ ended last.info = ended call.info := by
  induction values generalizing state call out with
  | nil =>
    cases success
    exact ⟨isReady, rfl⟩
  | cons _ _ ih =>
    obtain ⟨_, executed, success⟩ := except_bind_ok success
    obtain ⟨⟨_, _, _⟩, later, success⟩ := except_bind_ok success
    cases success
    obtain ⟨isReady, same⟩ := feeding.convert isReady executed
    obtain ⟨isReady, kept⟩ := ih isReady later
    exact ⟨isReady, kept.trans (same.trans (ended_prepare call.info spec))⟩

theorem Accepts.loop (draws : Draws) (call : Call) (accepts : Accepts spec holds) (closing : Closing spec holds)
    (held : holds state (ended call.info) left) (chunks : List ChatChunk) :
    ∃ result, convertValues draws spec (chunks.map chat) state call = .ok result := by
  induction chunks generalizing state call left with
  | nil => exact ⟨_, rfl⟩
  | cons chunk _ ih =>
    rw [← ended_prepare call.info spec] at held
    obtain ⟨converted, executed⟩ := accepts draws chunk held
    obtain ⟨_, held, _⟩ := closing.convert held executed
    obtain ⟨following, later⟩ := ih (call.after converted) held
    refine ⟨(converted.values ++ following.1, following.2), ?_⟩
    rw [map_cons, convertValues, executed]
    show (convertValues draws spec _ converted.state (call.after converted) >>= _) = _
    rw [later]
    rfl

end

inductive Armed : List ResponseConverterSpec → List StepState → Option Meta → Nat → Prop
  | alone {spec : ResponseConverterSpec} {holds : StepState → Option Bool → Nat → Prop} {state : StepState}
      {info : Option Meta} {left : Nat} (closing : Closing spec holds) (held : holds state (ended info) left) :
      Armed [spec] [state] info left
  | fed {first last : ResponseConverterSpec} {ready spent : StepState → Prop}
      {holds : StepState → Option Bool → Nat → Prop} {start state : StepState} {info : Option Meta} {left : Nat}
      (feeding : Feeding first ready spent) (isReady : ready start) (closing : Closing last holds)
      (accepts : Accepts last holds) (held : holds state (ended info) left) :
      Armed [first, last] [start, state] info left

inductive Exhausted : List ResponseConverterSpec → List StepState → Option Meta → Prop
  | alone {spec : ResponseConverterSpec} {holds : StepState → Option Bool → Nat → Prop} {state : StepState}
      {info : Option Meta} (closing : Closing spec holds) (held : holds state (ended info) 0) :
      Exhausted [spec] [state] info
  | fed {first last : ResponseConverterSpec} {ready spent : StepState → Prop}
      {holds : StepState → Option Bool → Nat → Prop} {start state : StepState} {info : Option Meta}
      (feeding : Feeding first ready spent) (isSpent : spent start) (closing : Closing last holds)
      (held : holds state (ended info) 0) :
      Exhausted [first, last] [start, state] info

theorem Armed.context {states : List StepState} {other : Option Meta}
    {left : Nat} (armed : Armed specs states info left) (same : ended other = ended info) :
    Armed specs states other left := by
  cases armed with
  | alone closing held => exact .alone closing (same ▸ held)
  | fed feeding isReady closing accepts held => exact .fed feeding isReady closing accepts (same ▸ held)

theorem Exhausted.context {states : List StepState} {other : Option Meta}
    (exhausted : Exhausted specs states info) (same : ended other = ended info) : Exhausted specs states other := by
  cases exhausted with
  | alone closing held => exact .alone closing (same ▸ held)
  | fed feeding isSpent closing held => exact .fed feeding isSpent closing (same ▸ held)

section
variable {states after : List StepState}

variable {state : StepState}

theorem execute_alone : executeResponseStreamSteps draws [spec] [state] values call =
      (convertValues draws spec values state call).map fun converted =>
        (converted.1, [converted.2.1], converted.2.2) := by
  rw [executeResponseStreamSteps]
  cases convertValues draws spec values state call with
  | error => rfl
  | ok converted =>
    obtain ⟨values, _, _⟩ := converted
    cases values <;> rfl

theorem Closing.execute (closing : Closing spec holds) (held : holds state (ended call.info) left)
    (success : executeResponseStreamSteps draws [spec] [state] values call = .ok (out, after, last)) :
    ∃ final rest, after = [final] ∧ holds final (ended last.info) rest ∧ out.countP isTerminal + rest = left := by
  rw [execute_alone] at success
  cases converted : convertValues draws spec values state call with
  | error =>
    rw [converted] at success
    cases success
  | ok result =>
    obtain ⟨_, final, _⟩ := result
    rw [converted] at success
    cases success
    obtain ⟨rest, held, count⟩ := closing.loop held converted
    exact ⟨final, rest, rfl, held, count⟩

theorem Armed.execute (armed : Armed specs states call.info left)
    (success : executeResponseStreamSteps draws specs states values call = .ok (out, after, last)) :
    ∃ rest, Armed specs after last.info rest ∧ out.countP isTerminal + rest = left := by
  cases armed with
  | alone closing held =>
    obtain ⟨final, rest, rfl, held, count⟩ := closing.execute held success
    exact ⟨rest, .alone closing held, count⟩
  | fed feeding isReady closing accepts held =>
    obtain ⟨⟨passed, _, _⟩, first, success⟩ := except_bind_ok success
    obtain ⟨isReady, same⟩ := feeding.loop isReady first
    rw [← same] at held
    cases passed with
    | nil =>
      cases success
      exact ⟨left, .fed feeding isReady closing accepts held, zero_add left⟩
    | cons =>
      obtain ⟨⟨_, _, _⟩, second, success⟩ := except_bind_ok success
      cases success
      obtain ⟨_, rest, rfl, held, count⟩ := closing.execute held second
      exact ⟨rest, .fed feeding isReady closing accepts held, count⟩

theorem Closing.passOn (closing : Closing spec holds) (accepts : Accepts spec holds) (draws : Draws) (call : Call)
    (held : holds state (ended call.info) left) (chunks : List ChatChunk) :
    ∃ passed final during rest, passOn draws [spec] [state] (chunks.map chat) call = .ok (passed, [final], during) ∧
        holds final (ended during.info) rest ∧ passed.countP isTerminal + rest = left := by
  cases chunks with
  | nil => exact ⟨[], state, call, left, rfl, held, zero_add left⟩
  | cons chunk chunks =>
    obtain ⟨⟨passed, final, during⟩, converted⟩ := accepts.loop draws call closing held (chunk :: chunks)
    obtain ⟨rest, held, count⟩ := closing.loop held converted
    refine ⟨passed, final, during, rest, ?_, held, count⟩
    show executeResponseStreamSteps draws [spec] [state] ((chunk :: chunks).map chat) call = _
    rw [execute_alone, converted]
    rfl

theorem Closing.ending (closing : Closing spec holds) (draws : Draws) (call : Call)
    (held : holds state (ended call.info) left) :
    ∃ values final last, finalizeSteps draws [spec] [state] call = .ok (values, [final], last) ∧
      holds final (ended last.info) 0 ∧ values.countP isTerminal = left ∧ (left = 0 → values = []) := by
  obtain ⟨⟨values, usage, info, final⟩, success, held, count, nothing⟩ := closing.finalize held
  refine ⟨values, final, call.after ⟨values, usage, info, final⟩, ?_, held, count, nothing⟩
  rw [finalizeSteps, success]
  cases values with
  | nil => rfl
  | cons => exact congrArg Except.ok (Prod.ext (append_nil _) rfl)

theorem finalizeSteps_two {first last : ResponseConverterSpec} {start final : StepState} {fed : Converted}
    {passed values : List Response} {during after : Call} {middle : StepState}
    (started : finalizeResponseStreamStep call.info first start = .ok fed)
    (given : passOn draws [last] [state] fed.values (call.after fed) = .ok (passed, [middle], during))
    (ending : finalizeSteps draws [last] [middle] during = .ok (values, [final], after)) :
    finalizeSteps draws [first, last] [start, state] call = .ok (passed ++ values, [fed.state, final], after) := by
  rw [finalizeSteps, started]
  show (passOn draws [last] [state] fed.values (call.after fed) >>= _) = _
  rw [given]
  show (finalizeSteps draws [last] [middle] during >>= _) = _
  rw [ending]
  rfl

theorem Armed.finalize (draws : Draws) (call : Call) (armed : Armed specs states call.info left) :
    ∃ values after last, finalizeSteps draws specs states call = .ok (values, after, last) ∧
      Exhausted specs after last.info ∧ values.countP isTerminal = left := by
  cases armed with
  | alone closing held =>
    obtain ⟨values, final, last, success, held, count, _⟩ := closing.ending draws call held
    exact ⟨values, [final], last, success, .alone closing held, count⟩
  | fed feeding isReady closing accepts held =>
    obtain ⟨fed, started, isSpent, same, chunks, chats⟩ := feeding.finalize call.info isReady
    rw [← same] at held
    obtain ⟨_, _, during, _, given, held, before⟩ := closing.passOn accepts draws (call.after fed) held chunks
    obtain ⟨_, _, _, ending, held, count, _⟩ := closing.ending draws during held
    rw [← chats] at given
    refine ⟨_, _, _, finalizeSteps_two started given ending, .fed feeding isSpent closing held, ?_⟩
    rw [countP_append, count, before]

theorem Exhausted.finalize (draws : Draws) (call : Call) (exhausted : Exhausted specs states call.info) :
    ∃ after last, finalizeSteps draws specs states call = .ok ([], after, last) ∧ Exhausted specs after last.info := by
  cases exhausted with
  | alone closing held =>
    obtain ⟨values, final, last, success, held, _, nothing⟩ := closing.ending draws call held
    rw [nothing rfl] at success
    exact ⟨[final], last, success, .alone closing held⟩
  | @fed _ closer _ _ _ _ state _ feeding isSpent closing held =>
    obtain ⟨fed, started, isSpent, same, nothing⟩ := feeding.again call.info isSpent
    rw [← same] at held
    have given : passOn draws [closer] [state] fed.values (call.after fed) = .ok ([], [state], call.after fed) := by
      rw [nothing]
      rfl
    obtain ⟨_, _, _, ending, held, _, silent⟩ := closing.ending draws (call.after fed) held
    rw [silent rfl] at ending
    exact ⟨_, _, finalizeSteps_two started given ending, .fed feeding isSpent closing held⟩

end

def ResponseResult.isTerminal (result : ResponseResult) : Bool := result.value.isTerminal

theorem countP_results (stream : ResponseStreamState) (values : List Response) (usage : Option Usage) :
    (responseStreamResults stream values usage).countP ResponseResult.isTerminal = values.countP isTerminal :=
  countP_map

structure Live (stream : ResponseStreamState) (info : Option Meta) (left : Nat) : Prop where
  converts : stream.source ≠ stream.target
  armed : Armed stream.specs stream.stepStates info left

structure Finished (stream : ResponseStreamState) (info : Option Meta) : Prop where
  converts : stream.source ≠ stream.target
  exhausted : Exhausted stream.specs stream.stepStates info

section
variable {stream after : ResponseStreamState} {info context : Option Meta} {results : List ResponseResult}

theorem Live.chunk {response : Response} (live : Live stream info left)
    (success : convertStreamResponseChunk draws info stream response = .ok (results, after, context)) :
    ∃ rest, Live after context rest ∧ results.countP ResponseResult.isTerminal + rest = left := by
  obtain ⟨_, _, success⟩ := except_bind_ok success
  split at success
  · cases success
  rw [if_neg live.converts] at success
  obtain ⟨⟨_, _, _⟩, executed, success⟩ := except_bind_ok success
  cases success
  obtain ⟨rest, armed, count⟩ := live.armed.execute executed
  exact ⟨rest, ⟨live.converts, armed⟩, by rw [countP_results, count]⟩

theorem Live.chunks {chunks : List (Draws × Response)} (live : Live stream info left)
    (success : convertStreamResponseChunks chunks stream info = .ok (results, after, context)) :
    ∃ rest, Live after context rest ∧ results.countP ResponseResult.isTerminal + rest = left := by
  induction chunks generalizing stream info results left with
  | nil =>
    cases success
    exact ⟨left, live, zero_add left⟩
  | cons _ _ ih =>
    obtain ⟨⟨_, _, _⟩, converted, success⟩ := except_bind_ok success
    obtain ⟨⟨_, _, _⟩, later, success⟩ := except_bind_ok success
    cases success
    obtain ⟨_, live, _⟩ := live.chunk converted
    obtain ⟨remaining, live, _⟩ := ih live later
    refine ⟨remaining, live, ?_⟩
    rw [countP_append]
    dsimp only
    omega

theorem Live.finalize (live : Live stream info left) (draws : Draws) :
    ∃ results after context, finalizeStreamResponse draws info stream = .ok (results, after, context) ∧
      Finished after context ∧ results.countP ResponseResult.isTerminal = left := by
  obtain ⟨values, states, last, success, exhausted, count⟩ :=
    (live.armed.context (ended_lendUsage info stream)).finalize draws
      { info := lendUsage info stream, remembered := stream.usage }
  refine ⟨responseStreamResults stream values last.usage,
    { stream with stepStates := states, usage := last.remembered }, last.info, ?_, ⟨live.converts, exhausted⟩,
    (countP_results stream values last.usage).trans count⟩
  rw [finalizeStreamResponse, if_neg live.converts, success]
  rfl

theorem Finished.finalizations (finished : Finished stream info) (draws : List Draws) :
    finalizeStreamResponses draws stream info = .ok (draws.map fun _ => []) := by
  induction draws generalizing stream info with
  | nil => rfl
  | cons first draws ih =>
    obtain ⟨states, last, success, exhausted⟩ :=
      (finished.exhausted.context (ended_lendUsage info stream)).finalize first
        { info := lendUsage info stream, remembered := stream.usage }
    have here : finalizeStreamResponse first info stream =
        .ok ([], { stream with stepStates := states, usage := last.remembered }, last.info) := by
      rw [finalizeStreamResponse, if_neg finished.converts, success]
      rfl
    have later : finalizeStreamResponses draws { stream with stepStates := states, usage := last.remembered }
        last.info = .ok (draws.map fun _ => []) :=
      ih ⟨finished.converts, exhausted⟩
    rw [finalizeStreamResponses, here, map_cons]
    exact congrArg (· >>= fun following => .ok ([] :: following)) later

end

/-- Whatever chunks are converted, the first finalization brings the terminal event if they did not, and every later
finalization brings nothing. -/
def EndsOnce (source target : RelayFormat) (info : Option Meta) : Prop :=
  ∀ (draws : Draws) (options : ResponseStreamOptions) (stream : ResponseStreamState),
    newResponseStreamState draws source target options = .ok stream →
  ∀ (chunks : List (Draws × Response)) (results : List ResponseResult) (after : ResponseStreamState)
    (context : Option Meta), convertStreamResponseChunks chunks stream info = .ok (results, after, context) →
  ∀ (once : Draws) (again : List Draws), ∃ last,
    finalizeStreamResponses (once :: again) after context = .ok (last :: again.map fun _ => []) ∧
      (results ++ last).countP ResponseResult.isTerminal = 1

variable {source target : RelayFormat}

/-- A new stream has its terminal event left, unless the context of a stream to Claude has no room for it. -/
theorem live_of_new {draws : Draws} {options : ResponseStreamOptions} {stream : ResponseStreamState}
    (concerned : target = .openAIResponses ∨ target = .claude ∨ source = .openAIResponses ∧ target = .openAI)
    (different : source ≠ target) (fresh : target = .claude → ended info = some false)
    (created : newResponseStreamState draws source target options = .ok stream) : Live stream info 1 := by
  rw [newResponseStreamState, if_neg different] at created
  split at created
  · cases created
  next _ found =>
    have listed := mem_of_find?_eq_some found
    have matched := find?_some found
    simp only [Bool.and_eq_true, decide_eq_true_eq] at matched
    obtain ⟨rfl, rfl⟩ := matched
    simp only [builtinTextConverters, mem_cons, not_mem_nil, or_false] at listed
    rcases listed with rfl | rfl | rfl | rfl | rfl | rfl | rfl | rfl | rfl
    · simp [claudeMessagesToOpenAIChat] at concerned
    · cases created
      exact ⟨different, .alone chatToClaude_closing ⟨false, fresh rfl, rfl⟩⟩
    · simp [geminiContentToOpenAIChat] at concerned
    · cases created
      exact ⟨different, .alone chatToResponses_closing (chatToResponses_new _ _ _ _)⟩
    · cases created
      exact ⟨different, .alone responsesToChat_closing (responsesToChat_new (draws.uuid 0 0) _ _ _)⟩
    · cases created
      exact ⟨different, .fed claudeToChat_feeding trivial chatToResponses_closing chatToResponses_accepts
        (chatToResponses_new _ _ _ _)⟩
    · cases created
      exact ⟨different, .fed geminiToChat_feeding ⟨_, rfl⟩ chatToClaude_closing chatToClaude_accepts
        ⟨false, fresh rfl, rfl⟩⟩
    · cases created
      exact ⟨different, .fed geminiToChat_feeding ⟨_, rfl⟩ chatToResponses_closing chatToResponses_accepts
        (chatToResponses_new _ _ _ _)⟩
    · cases created
      exact ⟨different, .fed responsesToChat_feeding ⟨_, rfl⟩ chatToClaude_closing chatToClaude_accepts
        ⟨false, fresh rfl, rfl⟩⟩

theorem source_ne_target (registered : (lookupResponseRoute source target).isSome) : source ≠ target := by
  obtain ⟨spec, found⟩ := Option.isSome_iff_exists.mp registered
  have listed := mem_of_find?_eq_some found
  have matched := find?_some found
  simp only [Bool.and_eq_true, decide_eq_true_eq] at matched
  obtain ⟨rfl, rfl⟩ := matched
  have differ : ∀ spec ∈ builtinTextConverters, spec.source ≠ spec.target := by
    simp [builtinTextConverters, claudeMessagesToOpenAIChat, openAIChatToClaudeMessages, geminiContentToOpenAIChat,
      openAIChatToOpenAIResponses, openAIResponsesToOpenAIChat]
  exact differ spec listed

/-- Every registered route to Responses or Claude, and the route from Responses to chat, ends once. On a route to
Claude the context must carry the state of the message, which has not ended when the stream begins. -/
theorem registered_stream_ends_once {source target : RelayFormat} {info : Option Meta}
    (registered : (lookupResponseRoute source target).isSome)
    (concerned : target = .openAIResponses ∨ target = .claude ∨ source = .openAIResponses ∧ target = .openAI)
    (fresh : target = .claude → ∃ session, info = some session ∧ session.claudeConvertInfo.done = false) :
    EndsOnce source target info := by
  have unended : target = .claude → ended info = some false := by
    intro claude
    obtain ⟨_, rfl, unfinished⟩ := fresh claude
    exact congrArg some unfinished
  intro draws options stream created chunks results after context converted once again
  obtain ⟨_, live, before⟩ := (live_of_new concerned (source_ne_target registered) unended created).chunks converted
  obtain ⟨last, _, _, success, finished, count⟩ := live.finalize once
  refine ⟨last, ?_, ?_⟩
  · rw [finalizeStreamResponses, success]
    exact congrArg (· >>= fun following => .ok (last :: following)) (finished.finalizations again)
  · rw [countP_append, count, before]

theorem registered_stream_ends_once_gemini : EndsOnce .gemini .claude (some {}) :=
  registered_stream_ends_once rfl (.inr (.inl rfl)) fun _ => ⟨{}, rfl, rfl⟩

/-- Without a context every finalization of a stream to Claude starts from a state of its own. -/
theorem stream_without_context_ends_twice :
    (lookupResponseRoute .openAI .claude).isSome = true ∧ ¬ EndsOnce .openAI .claude none := by
  refine ⟨rfl, fun endsOnce => ?_⟩
  have draws : Draws := ⟨fun _ _ => "", 0⟩
  obtain ⟨_, success, _⟩ := endsOnce draws {} _ rfl [] [] _ _ rfl draws [draws]
  cases success

end FlowAPI.Convert
