import FlowAPI.Stream.Moves

/-! The stream gate: what a returned error promises.

As long as the attempt is not committed nothing of it has reached the response. The scanner alone
commits, and the caller looks at the flag after every goroutine has exited, so an error is
returned only for an attempt that another channel may repeat.
-/

set_option autoImplicit false
namespace FlowAPI.Stream
open Semantics Machine Nat

structure State.Beside (state next : State) : Prop where
  committed : state.committed = true → next.committed = true
  main : next.main = state.main
  clientGone : next.clientGone = state.clientGone
  endReason : next.endReason = some .clientGone → state.endReason = some .clientGone

structure State.Apart (state next : State) : Prop extends state.Beside next where
  committed_eq : next.committed = state.committed
  held : next.held = state.held
  scanner : next.scanner = state.scanner

open State.Apart
variable {scanner : Scanner} {handler : Handler} {ping : Ping} {held : Held}
  {precommitErr : Option StreamPrecommitFailure} {writeMutex : Option Goroutine} {stopped : Bool} {event : Event}

variable {settings : Settings} {state next : State} {protocol : StreamProtocol}

section

theorem State.Beside.refl (state : State) : state.Beside state := ⟨id, rfl, rfl, id⟩

theorem State.Beside.ended {reason : StreamEndReason} (other : reason ≠ .clientGone) :
    state.Beside (state.setEndReason reason) :=
  ⟨id, rfl, rfl, setEndReason_gone other⟩

variable {dataChan handled : List (List UInt8)}

theorem State.Beside.update (beside : state.Beside next) {chanClosed headers : Bool} {pings : Nat} :
    state.Beside { next with scanner, handler, ping, held, precommitErr, writeMutex, dataChan, handled
                             chanClosed, stopped, headers, pings } :=
  ⟨beside.committed, beside.main, beside.clientGone, beside.endReason⟩

theorem State.Apart.refl (state : State) : state.Apart state := ⟨.refl state, rfl, rfl, rfl⟩

theorem State.Apart.ended {reason : StreamEndReason} (other : reason ≠ .clientGone) :
    state.Apart (state.setEndReason reason) :=
  ⟨.ended other, rfl, rfl, rfl⟩

theorem State.Apart.update (apart : state.Apart next) {pings : Nat} :
    state.Apart { next with handler, ping, writeMutex, dataChan, handled, stopped, pings } :=
  ⟨apart.toBeside.update, apart.committed_eq, apart.held, apart.scanner⟩

theorem ScannerMove.beside (move : ScannerMove settings state next) : state.Beside next := by
  have same := State.Beside.refl state
  cases move with
  | breaks | recovers => exact (State.Beside.ended (by decide)).update
  | processes _ _ move => cases move <;> exact same.update
  | ends ends => exact (State.Beside.ended (by cases ends <;> decide)).update
  | commits => exact ⟨fun _ => rfl, rfl, rfl, id⟩
  | reads | drains | panics | leaves | records | locks | writes | unlocks | replays | replayed | delivers
  | finishes | sends | aborts | empties | exhausts | closes | returns | stops => exact same.update

theorem HandlerMove.apart (move : HandlerMove state next) : state.Apart next := by
  have same := refl state
  cases move with
  | notes result =>
    cases result with
    | continued | panicked => exact same.update
    | stopped | done => exact (ended (by decide)).update
  | recovers => exact (ended (by decide)).update
  | receives | drains | calls | continues | leaves | returns | stops => exact same.update

theorem PingMove.apart (move : PingMove settings state next) : state.Apart next := by
  have same := refl state
  cases move with
  | skips => exact same
  | fails | recovers => exact (ended (by decide)).update
  | ticks | locks | writes | panics | unlocks | stops | leaves => exact same.update

end

def Scanner.released : Scanner → Bool
  | .unlocking _ | .replaying _ _ | .delivering _ | .sending _ => true
  | _ => false

def Handler.busy : Handler → Bool
  | .locking _ | .handling | .unlocking _ => true
  | _ => false

def Ping.busy : Ping → Bool
  | .waiting | .exited => false
  | _ => true

/-- Nothing has reached the response, and nobody is about to write to it but the scanner, which
sets the headers right before it commits. -/
structure State.Quiet (state : State) : Prop where
  scanner : state.scanner.released = false
  headers : state.headers = true → ∃ onward, state.scanner = .marking onward
  dataChan : state.dataChan = []
  handler : state.handler.busy = false
  handled : state.handled = []
  ping : state.ping.busy = false
  pings : state.pings = 0

def State.Guarded (state : State) : Prop := state.committed = true ∨ state.Quiet

section
variable {endReason : Option StreamEndReason}

theorem State.Quiet.move {chanClosed : Bool} (quiet : state.Quiet) {place : Scanner} (here : state.scanner = place)
    (unmarked : ∀ onward, place ≠ .marking onward) (shut : scanner.released = false) :
    State.Quiet { state with scanner, held, precommitErr, endReason, chanClosed, stopped, writeMutex } := by
  refine ⟨shut, fun set => ?_, quiet.dataChan, quiet.handler, quiet.handled, quiet.ping, quiet.pings⟩
  obtain ⟨onward, marking⟩ := quiet.headers set
  exact absurd (here.symm.trans marking) (unmarked onward)

theorem State.Quiet.elsewhere {main : Main}
    {cancelled clientGone : Bool} (quiet : state.Quiet) (idle : handler.busy = false) (waits : ping.busy = false) :
    State.Quiet { state with handler, ping, main, precommitErr, endReason, stopped, cancelled, clientGone } :=
  ⟨quiet.scanner, quiet.headers, quiet.dataChan, idle, quiet.handled, waits, quiet.pings⟩

theorem State.Quiet.not_released (quiet : state.Quiet) (here : state.scanner = scanner)
    (released : scanner.released = true) : False := by
  have shut := quiet.scanner
  rw [here, released] at shut
  cases shut

theorem LineMove.quiet (gate : settings.protocol = some protocol) {line : List UInt8}
    (move : LineMove settings state next) (here : state.scanner = .checking line) (quiet : state.Quiet)
    (shut : ¬ state.committed = true) : next.Quiet := by
  cases move with
  | delivers _ released =>
    rcases released with ungated | committed
    · rw [gate] at ungated
      cases ungated
    · exact absurd committed shut
  | skips | fails | opens | holds | fills => exact quiet.move here nofun rfl

theorem ScannerMove.guarded (gate : settings.protocol = some protocol) (move : ScannerMove settings state next)
    (guarded : state.Guarded) : next.Guarded := by
  by_cases committed : state.committed = true
  · exact .inl (move.beside.committed committed)
  have quiet : state.Quiet := guarded.resolve_left committed
  cases move with
  | processes _ here move => exact .inr (move.quiet gate here quiet committed)
  | writes onward =>
    exact .inr ⟨rfl, fun _ => ⟨onward, rfl⟩, quiet.dataChan, quiet.handler, quiet.handled, quiet.ping, quiet.pings⟩
  | commits => exact .inl rfl
  | reads _ here | drains here | breaks here | panics here | leaves _ here | records _ _ here | ends _ here
  | locks _ here | empties here | exhausts here | closes _ here | recovers here | returns here | stops here =>
    exact .inr (quiet.move here nofun rfl)
  | unlocks _ here | replays _ _ _ here | replayed _ here | delivers _ here | finishes _ here | sends _ here =>
    exact (quiet.not_released here rfl).elim
  | aborts here =>
    rcases here with ⟨_, _, here⟩ | ⟨_, here⟩
    · exact (quiet.not_released here rfl).elim
    · exact (quiet.not_released here rfl).elim

theorem HandlerMove.guarded (move : HandlerMove state next) (guarded : state.Guarded) : next.Guarded := by
  rcases guarded with committed | quiet
  · exact .inl (move.apart.committed committed)
  have idle := quiet.handler
  cases move with
  | receives _ _ _ sent =>
    rw [quiet.dataChan] at sent
    cases sent
  | calls _ here | notes _ here | continues here | leaves _ here =>
    rw [here] at idle
    cases idle
  | drains | recovers | returns | stops => exact .inr (quiet.elsewhere rfl quiet.ping)

theorem PingMove.guarded (gate : settings.protocol = some protocol) (move : PingMove settings state next)
    (guarded : state.Guarded) : next.Guarded := by
  by_cases committed : state.committed = true
  · exact .inl (move.apart.committed committed)
  have quiet : state.Quiet := guarded.resolve_left committed
  have waits := quiet.ping
  cases move with
  | skips => exact .inr quiet
  | ticks _ released => simp [State.gated, gate, committed] at released
  | locks here | writes _ here | panics here | unlocks _ here | fails here | recovers here | stops here =>
    rw [here] at waits
    cases waits
  | leaves => exact .inr (quiet.elsewhere quiet.handler rfl)

theorem CallerMove.guarded (move : CallerMove settings state next) (guarded : state.Guarded) : next.Guarded := by
  cases move with
  | moves | returns => exact guarded.imp id fun quiet => quiet.elsewhere quiet.handler quiet.ping

theorem step_guarded (gate : settings.protocol = some protocol)
    (stepped : step settings state event = some next) (guarded : state.Guarded) : next.Guarded := by
  cases event with
  | scanner => exact (scannerStep_move stepped).guarded gate guarded
  | handler => exact (handlerStep_move stepped).guarded guarded
  | ping => exact (pingStep_move stepped).guarded gate guarded
  | main => exact (mainStep_move stepped).guarded guarded
  | disconnect =>
    cases stepped
    exact guarded.imp id fun quiet => quiet.elsewhere quiet.handler quiet.ping

structure State.Answered (settings : Settings) (state : State) : Prop where
  returned : ∀ error, state.main = .returned error →
    (state.scanner = .exited ∧ state.handler = .exited ∧ state.ping = .exited) ∧
      error = state.verdict settings
  gone : state.main = .gone ∨ state.endReason = some .clientGone → state.clientGone = true

theorem ScannerMove.active (move : ScannerMove settings state next) : state.scanner ≠ .exited := by
  cases move with
  | aborts here => rcases here with ⟨_, _, here⟩ | ⟨_, here⟩ <;> simp [here]
  | reads _ here | drains here | breaks here | panics here | leaves _ here | processes _ here | records _ _ here
  | ends _ here | locks _ here | writes _ here | commits _ here | unlocks _ here | replays _ _ _ here
  | replayed _ here | delivers _ here | finishes _ here | sends _ here | empties here | exhausts here
  | closes _ here | recovers here | returns here | stops here => simp [here]

theorem HandlerMove.active (move : HandlerMove state next) : state.handler ≠ .exited := by
  cases move with
  | receives _ _ here | drains here | calls _ here | notes _ here | continues here | leaves _ here
  | recovers here | returns here | stops here => simp [here]

theorem PingMove.active (move : PingMove settings state next) : state.ping ≠ .exited := by
  cases move with
  | skips here | ticks here | locks here | writes _ here | panics here | unlocks _ here | fails here
  | recovers here | stops here | leaves here => simp [here]

theorem State.Beside.answered (beside : state.Beside next) (answered : state.Answered settings)
    (active : ¬ (state.scanner = .exited ∧ state.handler = .exited ∧ state.ping = .exited)) :
    next.Answered settings := by
  refine ⟨fun error returned => ?_, fun gone => ?_⟩
  · rw [beside.main] at returned
    exact absurd (answered.returned error returned).1 active
  · rw [beside.clientGone]
    rw [beside.main] at gone
    exact answered.gone (gone.imp id beside.endReason)

theorem CallerMove.answered (move : CallerMove settings state next) (answered : state.Answered settings) :
    next.Answered settings := by
  cases move with
  | moves _ running gone =>
    refine ⟨fun error returned => absurd returned (running error), fun now => ?_⟩
    rcases gone now with before | already | before
    · exact answered.gone (.inl before)
    · exact already
    · exact answered.gone (.inr before)
  | returns _ exited =>
    refine ⟨fun error returned => ⟨exited, ?_⟩, fun gone => answered.gone (gone.imp nofun id)⟩
    exact (Main.returned.inj returned).symm

theorem step_answered (stepped : step settings state event = some next)
    (answered : state.Answered settings) : next.Answered settings := by
  cases event with
  | scanner =>
    have move := scannerStep_move stepped
    exact move.beside.answered answered fun exited => move.active exited.1
  | handler =>
    have move := handlerStep_move stepped
    exact move.apart.toBeside.answered answered fun exited => move.active exited.2.1
  | ping =>
    have move := pingStep_move stepped
    exact move.apart.toBeside.answered answered fun exited => move.active exited.2.2
  | main => exact (mainStep_move stepped).answered answered
  | disconnect =>
    cases stepped
    exact ⟨answered.returned, fun _ => rfl⟩

theorem verdict_some {failure : StreamPrecommitFailure} (failed : state.verdict settings = some failure) :
    state.committed = false := by
  unfold State.verdict at failed
  split at failed
  · cases failed
  next shut => exact Bool.eq_false_iff.mpr shut

theorem verdict_none (gate : settings.protocol = some protocol) (passed : state.verdict settings = none) :
    state.committed = true ∨ state.endReason = some .clientGone := by
  unfold State.verdict at passed
  split at passed
  next committed => exact .inl committed
  · split at passed
    · cases passed
    · split_ifs at passed with failed
      simp only [gate, Option.isSome_some, true_and, not_not] at failed
      exact .inr failed

end

def Held.size (held : Held) : Nat := (held.frames.map List.length).sum
def Held.newest (held : Held) : Nat := (held.frames.getLast?.map List.length).getD 0

def Scanner.committing : Scanner → Bool
  | .locking _ | .writing _ | .marking _ => true
  | _ => false

/-- While the scanner reads on, what is held back is below the cap; the event that goes beyond it
makes the scanner commit. -/
structure State.Bounded (state : State) : Prop where
  counted : state.held.size ≤ state.held.totalBytes
  room : state.committed = true ∨ state.scanner.committing = true ∨
    state.held.totalBytes ≤ 2 * streamGateByteCap
  bound : state.held.size ≤ 2 * streamGateByteCap + state.held.newest

section

theorem Held.append_size (parser : Parser) (data : List UInt8) (held : Held) :
    (held.append parser protocol data).size = held.size + data.length := by
  simp [size, append]

theorem Held.append_newest (parser : Parser) (data : List UInt8) (held : Held) :
    (held.append parser protocol data).newest = data.length := by
  simp [newest, append]

theorem State.Bounded.keep (bounded : state.Bounded) (held : next.held = state.held)
    (room : next.committed = true ∨ next.scanner.committing = true ∨
      state.held.totalBytes ≤ 2 * streamGateByteCap) : next.Bounded := by
  refine ⟨?_, ?_, ?_⟩
  · rw [held]
    exact bounded.counted
  · rwa [held]
  · rw [held]
    exact bounded.bound

theorem State.Bounded.of_reading (bounded : state.Bounded) (here : state.scanner = scanner)
    (reading : scanner.committing = false) :
    state.committed = true ∨ state.held.totalBytes ≤ 2 * streamGateByteCap := by
  have room := bounded.room
  rw [here, reading] at room
  exact room.imp id fun rest => rest.resolve_left nofun

theorem State.Bounded.append (bounded : state.Bounded) {parser : Parser} {data : List UInt8}
    (below : state.held.totalBytes ≤ 2 * streamGateByteCap) (held : next.held = state.held.append parser protocol data)
    (room : next.scanner.committing = true ∨ next.held.totalBytes ≤ 2 * streamGateByteCap) : next.Bounded := by
  have counted := bounded.counted
  refine ⟨?_, .inr room, ?_⟩
  · rw [held, Held.append_size]
    simp only [Held.append]
    omega
  · rw [held, Held.append_size, Held.append_newest]
    omega

theorem State.Apart.bounded (apart : state.Apart next) (bounded : state.Bounded) : next.Bounded := by
  apply bounded.keep apart.held
  rw [apart.committed_eq, apart.scanner]
  exact bounded.room

theorem capReached_below (below : held.capReached = false) : held.totalBytes ≤ 2 * streamGateByteCap := by
  simp only [Held.capReached, decide_eq_false_iff_not, not_or, not_lt] at below
  exact below.2.2

theorem LineMove.bounded {line : List UInt8} (move : LineMove settings state next)
    (here : state.scanner = .checking line) (bounded : state.Bounded) : next.Bounded := by
  have free := bounded.of_reading here rfl
  have below (shut : state.gated settings = true) : state.held.totalBytes ≤ 2 * streamGateByteCap := by
    refine free.resolve_left fun committed => ?_
    simp [State.gated, committed] at shut
  cases move with
  | skips | delivers | fails => exact bounded.keep rfl (free.imp id .inr)
  | opens => exact bounded.keep rfl (.inr (.inl rfl))
  | holds _ _ shut cap => exact bounded.append (below shut) rfl (.inr (capReached_below cap))
  | fills _ _ shut => exact bounded.append (below shut) rfl (.inl rfl)

theorem ScannerMove.bounded (move : ScannerMove settings state next) (guarded : state.Guarded)
    (bounded : state.Bounded) : next.Bounded := by
  have keep {after : State} {scanner : Scanner} (here : state.scanner = scanner)
      (reading : scanner.committing = false) (held : after.held = state.held)
      (committed : after.committed = state.committed) : after.Bounded :=
    bounded.keep held ((bounded.of_reading here reading).imp committed.trans .inr)
  cases move with
  | processes _ here move => exact move.bounded here bounded
  | locks | writes => exact bounded.keep rfl (.inr (.inl rfl))
  | commits => exact bounded.keep rfl (.inl rfl)
  | replayed _ here =>
    have committed : state.committed = true := guarded.resolve_right fun quiet => quiet.not_released here rfl
    exact ⟨zero_le _, .inl committed, zero_le _⟩
  | aborts here =>
    rcases here with ⟨_, _, here⟩ | ⟨_, here⟩
    · exact keep here rfl rfl rfl
    · exact keep here rfl rfl rfl
  | reads _ here | drains here | breaks here | panics here | leaves _ here | records _ _ here | ends _ here
  | unlocks _ here | replays _ _ _ here | delivers _ here | finishes _ here | sends _ here | empties here
  | exhausts here | closes _ here | recovers here | returns here | stops here => exact keep here rfl rfl rfl

theorem step_bounded (stepped : step settings state event = some next)
    (guarded : state.Guarded) (bounded : state.Bounded) : next.Bounded := by
  cases event with
  | scanner => exact (scannerStep_move stepped).bounded guarded bounded
  | handler => exact (handlerStep_move stepped).apart.bounded bounded
  | ping => exact (pingStep_move stepped).apart.bounded bounded
  | main =>
    cases mainStep_move stepped with
    | moves | returns => exact bounded.keep rfl bounded.room
  | disconnect =>
    cases stepped
    exact bounded.keep rfl bounded.room

end

section
variable {events : List Event} {state : State}

section
variable (gate : settings.protocol = some protocol)
  (run : (machine settings).Runs unrestricted (initial settings) events state)
include gate run

theorem run_guarded : state.Guarded ∧ state.Answered settings ∧ state.Bounded := by
  refine run.invariant (fun state => state.Guarded ∧ state.Answered settings ∧ state.Bounded) ?_ ?_
  · rintro _ _ _ ⟨guarded, answered, bounded⟩ _ stepped
    exact ⟨step_guarded gate stepped guarded, step_answered stepped answered, step_bounded stepped guarded bounded⟩
  · refine ⟨.inr ⟨rfl, fun set => ?_, rfl, rfl, rfl, ?_, rfl⟩, ⟨nofun, fun gone => ?_⟩, ?_⟩
    · simp [initial, gate] at set
    · simp only [initial]
      split_ifs <;> rfl
    · rcases gone with here | here <;> cases here
    · exact ⟨le_refl _, .inr (.inr (zero_le _)), zero_le _⟩

/-- With the gate, an error is returned only if nothing reached the response, no error only if the
attempt was committed or the client has gone, and the events held back take at most twice the cap
and one more event. -/
theorem gated_stream_failover :
    (∀ failure, state.main = .returned (some failure) → state.handled = [] ∧ state.headers = false ∧ state.pings = 0) ∧
      (state.main = .returned none → state.clientGone = false → state.committed = true) ∧
      state.held.size ≤ 2 * streamGateByteCap + state.held.newest := by
  obtain ⟨guarded, answered, bounded⟩ := run_guarded gate run
  refine ⟨fun failure returned => ?_, fun returned present => ?_, bounded.bound⟩
  · obtain ⟨⟨exited, _, _⟩, error⟩ := answered.returned _ returned
    have shut := verdict_some error.symm
    have quiet : state.Quiet := guarded.resolve_left (by simp [shut])
    refine ⟨quiet.handled, ?_, quiet.pings⟩
    by_contra set
    obtain ⟨_, here⟩ := quiet.headers (by simpa using set)
    rw [exited] at here
    cases here
  · obtain ⟨_, error⟩ := answered.returned _ returned
    rcases verdict_none gate error.symm with committed | gone
    · exact committed
    · rw [answered.gone (.inr gone)] at present
      cases present
end

end

def chatFrame (letter : String) : List UInt8 :=
  Golang.ascii ("\x7b\"choices\":[\x7b\"delta\":\x7b\"content\":\"" ++ letter ++ "\"\x7d\x7d]\x7d")

def chatParser : Parser where
  valid data := data == Golang.ascii "\x7b\x7d" || ["a", "b"].any fun letter => data == chatFrame letter
  get data path :=
    let letters := if path = "choices.#.delta.content" then ["a", "b"].filter fun letter => data == chatFrame letter else []
    let items := letters.map fun letter => ⟨false, Golang.ascii letter, Golang.ascii ("\"" ++ letter ++ "\"")⟩
    let raw := items.flatMap fun item => Golang.ascii "[" ++ item.raw ++ Golang.ascii "]"
    ⟨!letters.isEmpty, false, !letters.isEmpty, false, raw, raw, items⟩

def chatSettings : Settings :=
  { protocol := some .openAIChat, pingEnabled := true, idleTimeout := true, parser := chatParser }

def emptyStream : List Event :=
  [.scanner (.ended false), .scanner .go, .scanner .go, .scanner .go, .scanner .go, .scanner .go,
    .scanner .go, .handler .go, .handler .go, .handler .go, .main .stopped, .main .go, .main .go,
    .ping .leave, .main .go]

def lateContent : List Event :=
  [.scanner (.line (Golang.ascii "data:" ++ chatFrame "a")), .main .idle, .main .go, .scanner .go, .main .go, .main .go,
    .scanner .go, .scanner .go, .scanner .go, .scanner .go, .scanner .go, .scanner .go, .main .go, .main .go,
    .scanner .abort, .scanner .go, .scanner .go, .scanner .go, .handler .go, .handler .go, .handler .go,
    .ping .leave, .main .go]

def afterStream (events : List Event) : State :=
  ((machine chatSettings).exec unrestricted (initial chatSettings) events).getD (initial chatSettings)

/-- The empty stream is an error with nothing written. The late content is committed, and the
failure that was noted is of no account. -/
theorem gated_stream_failover_race : (afterStream emptyStream).main = .returned (some ⟨"empty_stream", []⟩) ∧
      ((afterStream emptyStream).handled = [] ∧ (afterStream emptyStream).headers = false ∧
        (afterStream emptyStream).pings = 0) ∧
      (afterStream lateContent).main = .returned none ∧
      (afterStream lateContent).precommitErr = some ⟨"idle_timeout", []⟩ ∧
      (afterStream lateContent).committed = true := by
  have empty : (machine chatSettings).Runs unrestricted (initial chatSettings) emptyStream
      (afterStream emptyStream) := runs_iff_exec.mpr (by decide)
  have late : (machine chatSettings).Runs unrestricted (initial chatSettings) lateContent
      (afterStream lateContent) := runs_iff_exec.mpr (by decide)
  have failed : (afterStream emptyStream).main = .returned (some ⟨"empty_stream", []⟩) := by decide
  have passed : (afterStream lateContent).main = .returned none := by decide
  have noted : (afterStream lateContent).precommitErr = some ⟨"idle_timeout", []⟩ := by decide
  exact ⟨failed, (gated_stream_failover rfl empty).1 _ failed, passed, noted,
    (gated_stream_failover rfl late).2.1 passed (by decide)⟩

end FlowAPI.Stream
