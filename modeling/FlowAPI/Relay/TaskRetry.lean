import FlowAPI.Semantics.Machine
import Mathlib.Data.Int.Order.Basic

/-! The retry loop of `RelayTask`, and when it submits a task twice.

Each turn of the loop picks a channel and runs `RelayTaskSubmit`. The decision to
go on reads flags on the request context. One says that a paid request has been
sent, another that an upstream refused one for certain, and neither is ever
reset. What adaptors, channel selection and upstreams do is the environment's.
-/

set_option autoImplicit false
namespace FlowAPI.Relay
open Semantics List Machine

structure TaskError where
  (code message : String)
  statusCode : Int
  localError : Bool

def taskErrorWrapper (message code : String) (statusCode : Int) : TaskError :=
  { code, message, statusCode, localError := false }
def taskErrorWrapperLocal (message code : String) (statusCode : Int) : TaskError :=
  { taskErrorWrapper message code statusCode with localError := true }

structure Request where
  retryTimes : Int
  (minimaxResource wanCreatePath specificChannel lockedChannel : Bool)
  -- the request reserved an idempotency key
  hasSubmission : Bool

structure Context where
  (taskPaidDispatched taskSubmissionDispatched taskSubmissionUncertain taskSubmissionDefiniteFailure : Bool)

/-- The adaptor may turn a refusal into an error of its own, and may fail on the body of a success. -/
inductive Reply where
  | transportError (message : String)
  | response (statusCode : Int) (body : String) (own : Option TaskError) (parseError : Option TaskError)

def rejected (statusCode : Int) : Bool := decide (400 ≤ statusCode ∧ statusCode < 500 ∧ statusCode ≠ 408)

/-- A 4xx answer other than 408: the upstream did not accept the task. -/
def Reply.definiteRejection : Reply → Bool
  | .transportError _ => false
  | .response statusCode _ _ _ => rejected statusCode

def Reply.ambiguous (reply : Reply) : Bool := !reply.definiteRejection

inductive Submit where
  -- an error before the request is sent: validation, price, reservation, body, dispatch record
  | refused (error : TaskError)
  | sent (reply : Reply)

def Submit.reply : Submit → Option Reply
  | .refused _ => none
  | .sent reply => some reply

def Context.dispatch (context : Context) (hasSubmission : Bool) : Context :=
  { context with
    taskPaidDispatched := true, taskSubmissionDispatched := context.taskSubmissionDispatched || hasSubmission
    taskSubmissionUncertain := context.taskSubmissionUncertain || hasSubmission }

variable (request : Request)

def relayTaskSubmit (context : Context) : Submit → Context × Option TaskError
  | .refused error => (context, some error)
  | .sent reply =>
    let context := context.dispatch request.hasSubmission
    match reply with
    | .transportError message => (context, some (taskErrorWrapper message "do_request_failed" 500))
    | .response statusCode body own parseError =>
      if statusCode < 200 ∨ 300 ≤ statusCode then
        let context := if rejected statusCode then
            { context with taskSubmissionUncertain := false, taskSubmissionDefiniteFailure := true }
          else context
        (context, some (own.getD (taskErrorWrapper body "fail_to_fetch_task" statusCode)))
      else
        match parseError with
        | some error => (context, some error)
        | none => ({ context with taskSubmissionUncertain := false }, none)

def isAlwaysSkipRetryStatusCode (statusCode : Int) : Bool := statusCode = 504 || statusCode = 524

def shouldRetryTaskRelay (context : Context) (skipsRetry : Bool) (error : TaskError) (retryTimes : Int) : Bool :=
  if request.minimaxResource || request.wanCreatePath ||
      (context.taskPaidDispatched && !context.taskSubmissionDefiniteFailure) then false
  else if skipsRetry then false
  else if retryTimes ≤ 0 then false
  else if request.specificChannel then false
  else if error.statusCode = 429 then true
  else if error.statusCode = 307 then true
  else if error.statusCode.tdiv 100 = 5 then !isAlwaysSkipRetryStatusCode error.statusCode
  else if error.statusCode = 400 then false
  else if error.statusCode = 408 then false
  else if error.localError then false
  else if error.statusCode.tdiv 100 = 2 then false
  else true

/-- Channel affinity may forbid a retry, and the selection of a channel may keep the retry counter for the next turn.
-/
inductive Turn where
  | channelFailed (message : String)
  | bodyFailed (tooLarge : Bool) (message : String)
  | submit (submit : Submit) (skipsRetry resetNextTry : Bool)

structure Loop where
  retry : Int
  context : Context
  -- every request that was sent, in order
  submissions : List Reply
  taskErr : Option TaskError
  running : Bool

def Loop.started : Loop :=
  { retry := 0
    context :=
      { taskPaidDispatched := false, taskSubmissionDispatched := false, taskSubmissionUncertain := false
        taskSubmissionDefiniteFailure := false }
    submissions := [], taskErr := none, running := true }

variable (loop : Loop)

def Loop.stop (taskErr : Option TaskError) : Loop := { loop with taskErr, running := false }

def Loop.submit (request : Request) (loop : Loop) (submit : Submit) (skipsRetry resetNextTry : Bool) : Loop :=
  let (context, taskErr) := relayTaskSubmit request loop.context submit
  let attempted := { loop with context, submissions := loop.submissions ++ submit.reply.toList, taskErr }
  match taskErr with
  | none => attempted.stop none
  | some error =>
    if shouldRetryTaskRelay request context skipsRetry error (request.retryTimes - loop.retry) then
      { attempted with retry := if resetNextTry then loop.retry else loop.retry + 1 }
    else attempted.stop (some error)

def step (turn : Turn) : Option Loop :=
  if loop.running = false ∨ request.retryTimes < loop.retry then none
  else
    match turn with
    | .channelFailed message =>
      if request.lockedChannel then
        -- a locked channel is only set up again for a retry
        if loop.retry = 0 then none
        else some (loop.stop (some (taskErrorWrapperLocal message "setup_locked_channel_failed" 500)))
      else some (loop.stop (some (taskErrorWrapperLocal message "get_channel_failed" 500)))
    | .bodyFailed tooLarge message =>
      some (loop.stop (some (taskErrorWrapperLocal message "read_request_body_failed" (if tooLarge then 413 else 400))))
    | .submit submit skipsRetry resetNextTry => some (loop.submit request submit skipsRetry resetNextTry)

def machine : Machine Loop Turn := ⟨step request⟩

def Reply.error : Reply → Option TaskError
  | .transportError message => some (taskErrorWrapper message "do_request_failed" 500)
  | .response statusCode body own parseError =>
    if statusCode < 200 ∨ 300 ≤ statusCode then
      some (own.getD (taskErrorWrapper body "fail_to_fetch_task" statusCode))
    else parseError

def TaskError.retryable (error : TaskError) : Bool :=
  error.statusCode = 429 || error.statusCode = 307 ||
    (if error.statusCode.tdiv 100 = 5 then !isAlwaysSkipRetryStatusCode error.statusCode
      else !(error.statusCode = 400 || error.statusCode = 408 || error.localError || error.statusCode.tdiv 100 = 2))

def Retryable (skipsRetry : Bool) (error : TaskError) (retryTimes : Int) : Prop :=
  request.minimaxResource = false ∧ request.wanCreatePath = false ∧ skipsRetry = false ∧ 0 < retryTimes ∧
    request.specificChannel = false ∧ error.retryable = true

instance (request : Request) (skipsRetry : Bool) (error : TaskError) (retryTimes : Int) :
    Decidable (Retryable request skipsRetry error retryTimes) :=
  inferInstanceAs (Decidable (_ ∧ _))

/-- An ambiguous reply with a retryable error that meets the flag of an earlier
rejection. -/
def MeetsStaleFlag : Turn → Prop
  | .submit (.sent reply) skipsRetry _ => reply.ambiguous = true ∧
      loop.context.taskSubmissionDefiniteFailure = true ∧
      ∃ error ∈ reply.error, Retryable request skipsRetry error (request.retryTimes - loop.retry)
  | _ => False

instance (request : Request) (loop : Loop) : DecidablePred (MeetsStaleFlag request loop) := fun _ => by
  unfold MeetsStaleFlag
  split <;> infer_instance

def FlagFresh (turn : Turn) : Prop := ¬ MeetsStaleFlag request loop turn
instance (request : Request) : DecidableRel (FlagFresh request) := fun _ _ => inferInstanceAs (Decidable (¬ _))

def AmbiguousIsLast (submissions : List Reply) : Prop :=
  ∀ front reply back, submissions = front ++ reply :: back → reply.ambiguous = true → back = []

section
variable {request : Request} {context : Context} {loop next : Loop}

theorem retryable_eq (error : TaskError) : error.retryable = if error.statusCode = 429 then true
      else if error.statusCode = 307 then true
      else if error.statusCode.tdiv 100 = 5 then !isAlwaysSkipRetryStatusCode error.statusCode
      else if error.statusCode = 400 then false else if error.statusCode = 408 then false
      else if error.localError then false else if error.statusCode.tdiv 100 = 2 then false else true := by
  unfold TaskError.retryable
  by_cases limited : error.statusCode = 429
  · simp [limited]
  by_cases redirected : error.statusCode = 307
  · simp [redirected]
  by_cases server : error.statusCode.tdiv 100 = 5
  · simp [limited, redirected, server]
  · simp only [limited, redirected, server, decide_false, Bool.false_or, if_false]
    split_ifs <;> simp_all

/-- The paid request that is out and not refused for certain comes before all
other rules. -/
theorem shouldRetryTaskRelay_iff {skipsRetry : Bool} {error : TaskError} {retryTimes : Int} :
    shouldRetryTaskRelay request context skipsRetry error retryTimes = true ↔
      (context.taskPaidDispatched = true → context.taskSubmissionDefiniteFailure = true) ∧
        Retryable request skipsRetry error retryTimes := by
  unfold shouldRetryTaskRelay Retryable
  rw [← retryable_eq]
  cases request.minimaxResource
  case true => simp
  cases request.wanCreatePath
  case true => simp
  cases skipsRetry
  case true => simp
  cases request.specificChannel
  case true => simp
  by_cases spent : retryTimes ≤ 0
  · simp [spent, not_lt.mpr spent]
  · cases context.taskPaidDispatched <;> cases context.taskSubmissionDefiniteFailure <;>
      simp [spent, not_le.mp spent]

section
variable (request : Request) (context : Context) (reply : Reply)

theorem relayTaskSubmit_error : (relayTaskSubmit request context (.sent reply)).2 = reply.error := by
  cases reply with
  | transportError => rfl
  | response _ _ _ parseError =>
    simp only [relayTaskSubmit, Reply.error]
    split
    · rfl
    · cases parseError <;> rfl

theorem relayTaskSubmit_paidDispatched :
    (relayTaskSubmit request context (.sent reply)).1.taskPaidDispatched = true := by
  cases reply with
  | transportError => rfl
  | response statusCode _ _ parseError =>
    simp only [relayTaskSubmit]
    split
    · cases rejected statusCode <;> rfl
    · cases parseError <;> rfl

theorem relayTaskSubmit_definiteFailure :
    (relayTaskSubmit request context (.sent reply)).1.taskSubmissionDefiniteFailure =
      (context.taskSubmissionDefiniteFailure || reply.definiteRejection) := by
  cases reply with
  | transportError => simp [relayTaskSubmit, Context.dispatch, Reply.definiteRejection]
  | response statusCode _ _ parseError =>
    simp only [relayTaskSubmit, Reply.definiteRejection]
    split
    · cases rejected statusCode <;> simp [Context.dispatch]
    next _ =>
      have accepted : rejected statusCode = false := by
        simp only [rejected, decide_eq_false_iff_not]
        omega
      cases parseError <;> simp [Context.dispatch, accepted]
end

theorem Loop.submit_submissions (submit : Submit) (skipsRetry resetNextTry : Bool) :
    (loop.submit request submit skipsRetry resetNextTry).submissions = loop.submissions ++ submit.reply.toList := by
  unfold Loop.submit
  dsimp only
  split
  · rfl
  · split <;> rfl

variable {skipsRetry resetNextTry : Bool}

theorem Loop.submit_running_iff {reply : Reply} (running : loop.running = true) (ambiguous : reply.ambiguous = true) :
    (loop.submit request (.sent reply) skipsRetry resetNextTry).running = true ↔
      MeetsStaleFlag request loop (.submit (.sent reply) skipsRetry resetNextTry) := by
  have unsure : reply.definiteRejection = false := by simpa [Reply.ambiguous] using ambiguous
  have paid := relayTaskSubmit_paidDispatched request loop.context reply
  have flag := relayTaskSubmit_definiteFailure request loop.context reply
  have failed := relayTaskSubmit_error request loop.context reply
  rw [unsure, Bool.or_false] at flag
  unfold submit MeetsStaleFlag
  dsimp only
  rw [failed]
  cases reply.error with
  | none => simp [stop]
  | some error =>
    dsimp only
    by_cases retries : shouldRetryTaskRelay request (relayTaskSubmit request loop.context (.sent reply)).1 skipsRetry
        error (request.retryTimes - loop.retry) = true
    · rw [if_pos retries]
      rw [shouldRetryTaskRelay_iff, paid, flag] at retries
      simp [running, ambiguous, retries.1, retries.2]
    rw [if_neg retries]
    rw [shouldRetryTaskRelay_iff, paid, flag] at retries
    simp only [stop, Bool.false_eq_true, false_iff]
    rintro ⟨_, stale, _, same, retryable⟩
    cases Option.some.inj same
    exact retries ⟨fun _ => stale, retryable⟩

structure Loop.Sound (loop : Loop) : Prop where
  refused : loop.running = true → ∀ reply ∈ loop.submissions, reply.ambiguous = false
  last : AmbiguousIsLast loop.submissions

theorem Loop.started_sound : started.Sound := by
  constructor
  · intro _ reply member
    cases member
  · intro front reply back same
    simp [started] at same

theorem Loop.Sound.stop (sound : loop.Sound) (taskErr : Option TaskError) : (loop.stop taskErr).Sound :=
  ⟨nofun, sound.last⟩

theorem AmbiguousIsLast.snoc {submissions : List Reply} (refused : ∀ reply ∈ submissions, reply.ambiguous = false)
    (latest : Reply) : AmbiguousIsLast (submissions ++ [latest]) := by
  intro front reply back same ambiguous
  rcases eq_nil_or_concat back with rfl | ⟨_, _, rfl⟩
  · rfl
  rw [concat_eq_append, ← cons_append, ← append_assoc] at same
  obtain ⟨before, _⟩ := append_inj' same rfl
  have sure := refused reply (by rw [before]; simp)
  rw [sure] at ambiguous
  cases ambiguous

theorem Loop.Sound.submit (sound : loop.Sound) (running : loop.running = true) {submit : Submit}
    (fresh : FlagFresh request loop (.submit submit skipsRetry resetNextTry)) :
    (loop.submit request submit skipsRetry resetNextTry).Sound := by
  have refused := sound.refused running
  cases submit with
  | refused error =>
    have unchanged : (loop.submit request (.refused error) skipsRetry resetNextTry).submissions = loop.submissions := by
      rw [Loop.submit_submissions, Submit.reply, Option.toList_none, append_nil]
    constructor
    · rw [unchanged]
      exact fun _ => refused
    · rw [unchanged]
      exact sound.last
  | sent reply =>
    have grown : (loop.submit request (.sent reply) skipsRetry resetNextTry).submissions =
        loop.submissions ++ [reply] := Loop.submit_submissions _ _ _
    constructor
    · intro still other member
      rw [grown] at member
      rcases mem_append.mp member with old | new
      · exact refused other old
      · rw [mem_singleton.mp new]
        by_contra ambiguous
        exact fresh ((Loop.submit_running_iff running (by simpa using ambiguous)).mp still)
    · rw [grown]
      exact AmbiguousIsLast.snoc refused reply

theorem Loop.Sound.step_kept (sound : loop.Sound) {turn : Turn} (fresh : FlagFresh request loop turn)
    (stepped : step request loop turn = some next) : next.Sound := by
  unfold step at stepped
  split at stepped
  · cases stepped
  next active =>
    have running : loop.running = true := by
      by_contra stopped
      exact active (.inl (by simpa using stopped))
    cases turn with
    | channelFailed =>
      dsimp only at stepped
      split at stepped
      · split at stepped
        · cases stepped
        · cases stepped
          exact sound.stop _
      · cases stepped
        exact sound.stop _
    | bodyFailed =>
      cases stepped
      exact sound.stop _
    | submit submit =>
      cases stepped
      exact sound.submit running fresh

end

/-- In every run in which no ambiguous reply with a retryable error meets the
flag of an earlier rejection, nothing is sent after an ambiguous request. -/
theorem ambiguous_submission_is_last (request : Request) {turns : List Turn} {final : Loop}
    (run : (machine request).Runs (FlagFresh request) .started turns final) : AmbiguousIsLast final.submissions := by
  have sound : final.Sound :=
    run.invariant Loop.Sound (fun _ _ _ held fresh stepped => held.step_kept fresh stepped) Loop.started_sound
  exact sound.last

def twoRetries : Request :=
  { retryTimes := 2, minimaxResource := false, wanCreatePath := false, specificChannel := false
    lockedChannel := false, hasSubmission := false }

def answered (statusCode : Int) : Turn := .submit (.sent (.response statusCode "" none none)) false false
def timedOut : Turn := .submit (.sent (.transportError "context deadline exceeded")) false false

/-- A request that is refused twice and then times out on its last retry. -/
theorem ambiguous_submission_is_last_timedOut :
    ∃ final, (machine twoRetries).Runs (FlagFresh twoRetries) .started [answered 429, answered 403, timedOut] final ∧
      final.submissions.length = 3 ∧ AmbiguousIsLast final.submissions := by
  have run : (machine twoRetries).Runs (FlagFresh twoRetries) .started [answered 429, answered 403, timedOut] _ :=
    runs_iff_exec.mpr rfl
  exact ⟨_, run, rfl, ambiguous_submission_is_last twoRetries run⟩

/-- A rate limit on the first channel leaves its flag behind, so the time-out on
the second channel is retried and a third channel accepts the task again. -/
theorem timeout_resubmitted_after_rejection : ∃ final, (machine twoRetries).Runs unrestricted .started
        [answered 429, timedOut, answered 200] final ∧
      final.submissions = [.response 429 "" none none, .transportError "context deadline exceeded",
        .response 200 "" none none] ∧
      (Reply.transportError "context deadline exceeded").ambiguous = true ∧
      ¬ AmbiguousIsLast final.submissions := by
  refine ⟨_, runs_iff_exec.mpr rfl, rfl, rfl, ?_⟩
  intro last
  have impossible := last [.response 429 "" none none] (.transportError "context deadline exceeded")
    [.response 200 "" none none] rfl rfl
  cases impossible

end FlowAPI.Relay
