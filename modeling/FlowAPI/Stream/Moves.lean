import FlowAPI.Stream.Machine

/-! What each goroutine of a stream can do in one step, as relations with a rule for every step. -/

set_option autoImplicit false
namespace FlowAPI.Stream
open Golang Option State Bool

inductive LineMove (settings : Settings) (state : State) : State → Prop where
  | skips : LineMove settings state { state with scanner := .scanning }
  | delivers (data : List UInt8) (released : settings.protocol = none ∨ state.committed = true) :
      LineMove settings state { state with scanner := .delivering data }
  | fails (failure : StreamPrecommitFailure) (ends : ScannerEnd) (shut : state.gated settings = true) :
      LineMove settings state { state with scanner := .failing failure ends }
  | opens (data : List UInt8) (shut : state.gated settings = true) :
      LineMove settings state { state with scanner := .locking (.deliver data) }
  | holds (protocol : StreamProtocol) (data : List UInt8) (shut : state.gated settings = true)
      (below : (state.held.append settings.parser protocol data).capReached = false) :
      LineMove settings state { state with
        held := state.held.append settings.parser protocol data, scanner := .scanning }
  | fills (protocol : StreamProtocol) (data : List UInt8) (shut : state.gated settings = true)
      (reached : (state.held.append settings.parser protocol data).capReached = true) :
      LineMove settings state { state with
        held := state.held.append settings.parser protocol data, scanner := .locking .scan }

inductive ScannerMove (settings : Settings) (state : State) : State → Prop where
  | reads (line : List UInt8) (here : state.scanner = .scanning) :
      ScannerMove settings state { state with scanner := .checking line }
  | drains (here : state.scanner = .scanning) : ScannerMove settings state { state with scanner := .drained }
  | breaks (here : state.scanner = .scanning) :
      ScannerMove settings state { state.setEndReason .scannerErr with scanner := .drained }
  | panics (here : state.scanner = .scanning) : ScannerMove settings state { state with scanner := .closing true }
  | leaves (line : List UInt8) (here : state.scanner = .checking line)
      (told : state.stopped = true ∨ state.cancelled = true) :
      ScannerMove settings state { state with scanner := .closing false }
  | processes {next : State} (line : List UInt8) (here : state.scanner = .checking line)
      (move : LineMove settings state next) : ScannerMove settings state next
  | records (failure : StreamPrecommitFailure) (ends : ScannerEnd) (here : state.scanner = .failing failure ends) :
      ScannerMove settings state { state.setPrecommitErr failure with scanner := .ending ends }
  | ends (ends : ScannerEnd) (here : state.scanner = .ending ends) :
      ScannerMove settings state { state.setEndReason ends.reason with scanner := .closing false }
  | locks (onward : Onward) (here : state.scanner = .locking onward) (free : state.writeMutex = none) :
      ScannerMove settings state { state with writeMutex := some .scanner, scanner := .writing onward }
  | writes (onward : Onward) (here : state.scanner = .writing onward) :
      ScannerMove settings state { state with headers := true, scanner := .marking onward }
  | commits (onward : Onward) (here : state.scanner = .marking onward) :
      ScannerMove settings state { state with committed := true, scanner := .unlocking onward }
  | unlocks (onward : Onward) (here : state.scanner = .unlocking onward) :
      ScannerMove settings state { state.unlock with scanner := .replaying state.held.frames onward }
  | replays (data : List UInt8) (pending : List (List UInt8)) (onward : Onward)
      (here : state.scanner = .replaying (data :: pending) onward)
      (room : state.dataChan.length < dataChanCapacity) :
      ScannerMove settings state { state with
        dataChan := state.dataChan ++ [data], scanner := .replaying pending onward }
  | replayed (onward : Onward) (here : state.scanner = .replaying [] onward) :
      ScannerMove settings state { state with
        held := { state.held with frames := [] }, scanner := onward.stage }
  | delivers (data : List UInt8) (here : state.scanner = .delivering data)
      (more : hasPrefixBytes data "[DONE]" = false) :
      ScannerMove settings state { state with scanner := .sending data }
  | finishes (data : List UInt8) (here : state.scanner = .delivering data)
      (last : hasPrefixBytes data "[DONE]" = true) :
      ScannerMove settings state { state with scanner := .ending .done }
  | sends (data : List UInt8) (here : state.scanner = .sending data)
      (room : state.dataChan.length < dataChanCapacity) :
      ScannerMove settings state { state with dataChan := state.dataChan ++ [data], scanner := .scanning }
  | aborts (here : (∃ pending onward, state.scanner = .replaying pending onward) ∨ ∃ data, state.scanner = .sending data)
      (told : state.cancelled = true ∨ state.stopped = true) :
      ScannerMove settings state { state with scanner := .closing false }
  | empties (here : state.scanner = .drained) (shut : state.gated settings = true) :
      ScannerMove settings state { state with scanner := .failing ⟨"empty_stream", []⟩ .eof }
  | exhausts (here : state.scanner = .drained) (released : state.gated settings = false) :
      ScannerMove settings state { state with scanner := .ending .eof }
  | closes (panicked : Bool) (here : state.scanner = .closing panicked) :
      ScannerMove settings state { state with chanClosed := true, scanner := .recovering panicked }
  | recovers (here : state.scanner = .recovering true) :
      ScannerMove settings state { state.setEndReason .panic with scanner := .stopping }
  | returns (here : state.scanner = .recovering false) :
      ScannerMove settings state { state with scanner := .stopping }
  | stops (here : state.scanner = .stopping) :
      ScannerMove settings state { state with stopped := true, scanner := .exited }

inductive HandlerMove (state : State) : State → Prop where
  | receives (data : List UInt8) (rest : List (List UInt8)) (here : state.handler = .receiving)
      (sent : state.dataChan = data :: rest) :
      HandlerMove state { state with dataChan := rest, handler := .locking data }
  | drains (here : state.handler = .receiving) (sent : state.dataChan = []) (closed : state.chanClosed = true) :
      HandlerMove state { state with handler := .recovering false }
  | calls (data : List UInt8) (here : state.handler = .locking data) (free : state.writeMutex = none) :
      HandlerMove state { state with
        writeMutex := some .handler, handled := state.handled ++ [data], handler := .handling }
  | notes (result : Handled) (here : state.handler = .handling) :
      HandlerMove state { state.note result with handler := .unlocking result }
  | continues (here : state.handler = .unlocking .continued) :
      HandlerMove state { state.unlock with handler := .receiving }
  | leaves (result : Handled) (here : state.handler = .unlocking result) (last : result ≠ .continued) :
      HandlerMove state { state.unlock with handler := .recovering (result = .panicked) }
  | recovers (here : state.handler = .recovering true) :
      HandlerMove state { state.setEndReason .panic with handler := .stopping }
  | returns (here : state.handler = .recovering false) : HandlerMove state { state with handler := .stopping }
  | stops (here : state.handler = .stopping) :
      HandlerMove state { state with stopped := true, handler := .exited }

inductive PingMove (settings : Settings) (state : State) : State → Prop where
  | skips (here : state.ping = .waiting) (shut : state.gated settings = true) : PingMove settings state state
  | ticks (here : state.ping = .waiting) (released : state.gated settings = false) :
      PingMove settings state { state with ping := .locking }
  | locks (here : state.ping = .locking) (free : state.writeMutex = none) :
      PingMove settings state { state with writeMutex := some .ping, ping := .writing }
  | writes (written : Bool) (here : state.ping = .writing) :
      PingMove settings state { state with pings := state.pings + 1, ping := .unlocking written }
  | panics (here : state.ping = .writing) : PingMove settings state { state.unlock with ping := .recovering }
  | unlocks (written : Bool) (here : state.ping = .unlocking written) :
      PingMove settings state { state.unlock with ping := if written then .waiting else .failing }
  | fails (here : state.ping = .failing) :
      PingMove settings state { state.setEndReason .pingFail with ping := .exited }
  | recovers (here : state.ping = .recovering) :
      PingMove settings state { state.setEndReason .panic with ping := .stopping }
  | stops (here : state.ping = .stopping) : PingMove settings state { state with stopped := true, ping := .exited }
  | leaves (here : state.ping = .waiting) : PingMove settings state { state with ping := .exited }

inductive CallerMove (settings : Settings) (state : State) : State → Prop where
  | moves {main : Main} {precommitErr : Option StreamPrecommitFailure} {endReason : Option StreamEndReason}
      {cancelled stopped : Bool} (here : ∀ error, state.main ≠ .returned error)
      (running : ∀ error, main ≠ .returned error)
      (gone : main = .gone ∨ endReason = some .clientGone →
        state.main = .gone ∨ state.clientGone = true ∨ state.endReason = some .clientGone) :
      CallerMove settings state { state with main, precommitErr, endReason, cancelled, stopped }
  | returns (here : state.main = .joining)
      (exited : state.scanner = .exited ∧ state.handler = .exited ∧ state.ping = .exited) :
      CallerMove settings state { state with main := .returned (state.verdict settings) }

section
variable {settings : Settings} {state next : State}

theorem lock_eq {goroutine : Goroutine} {onward : State → State}
    (taken : (state.lock goroutine).map onward = some next) :
    state.writeMutex = none ∧ next = onward { state with writeMutex := some goroutine } := by
  unfold lock at taken
  split at taken
  next free => exact ⟨free, (some.inj taken).symm⟩
  · cases taken

theorem setEndReason_gone {reason : StreamEndReason} (other : reason ≠ .clientGone)
    (gone : (state.setEndReason reason).endReason = some .clientGone) : state.endReason = some .clientGone := by
  unfold setEndReason at gone
  cases before : state.endReason with
  | none =>
    rw [before] at gone
    exact absurd (some.inj gone) other
  | some =>
    rw [before] at gone
    exact gone

theorem hold_move {protocol : StreamProtocol} (gate : settings.protocol = some protocol)
    (shut : state.committed = false) (data : List UInt8) :
    LineMove settings state (state.hold settings.parser protocol data) := by
  have gated : state.gated settings = true := by simp [gated, gate, shut]
  unfold hold
  split
  · exact .fails _ _ gated
  · exact .fails _ _ gated
  · split_ifs
    · exact .fails _ _ gated
    · exact .opens data gated
  · simp only
    split_ifs with reached
    · exact .fills protocol data gated reached
    · exact .holds protocol data gated (eq_false_iff.mpr reached)
  · exact .opens data gated
  · exact .opens data gated

theorem process_move (line : List UInt8) : LineMove settings state (state.process settings line) := by
  unfold process
  split
  · exact .skips
  next data _ =>
    split
    next _ gate =>
      split_ifs with committed
      · exact .delivers data (.inr committed)
      · exact hold_move gate (eq_false_iff.mpr committed) data
    next ungated => exact .delivers data (.inl ungated)

theorem scannerStep_move {input : ScannerInput} (stepped : scannerStep settings state input = some next) :
    ScannerMove settings state next := by
  cases input with simp only [scannerStep] at stepped
  | line line =>
    split at stepped <;> cases stepped
    next here => exact .reads line here
  | ended failed =>
    split at stepped <;> cases stepped
    next here =>
      cases failed with
      | true => exact .breaks here
      | false => exact .drains here
  | panic =>
    split at stepped <;> cases stepped
    next here => exact .panics here
  | send =>
    simp only [send] at stepped
    split at stepped
    next data pending onward here =>
      split_ifs at stepped with room
      cases stepped
      exact .replays data pending onward here room
    next data here =>
      split_ifs at stepped with room
      cases stepped
      exact .sends data here room
    · cases stepped
  | abort =>
    simp only [abort] at stepped
    split at stepped
    next here =>
      split_ifs at stepped with told
      cases stepped
      exact .aborts (.inl ⟨_, _, here⟩) told
    next here =>
      split_ifs at stepped with told
      cases stepped
      exact .aborts (.inr ⟨_, here⟩) told
    · cases stepped
  | go =>
    split at stepped <;> try cases stepped
    next line here =>
      split_ifs with told
      · exact .leaves line here told
      · exact .processes line here (process_move line)
    next failure ends here => exact .records failure ends here
    next ends here => exact .ends ends here
    next onward here =>
      obtain ⟨free, rfl⟩ := lock_eq stepped
      exact .locks onward here free
    next onward here => exact .writes onward here
    next onward here => exact .commits onward here
    next onward here => exact .unlocks onward here
    next onward here => exact .replayed onward here
    next data here =>
      split_ifs with last
      · exact .finishes data here last
      · exact .delivers data here (eq_false_iff.mpr last)
    next here =>
      split_ifs with shut
      · exact .empties here shut
      · exact .exhausts here (eq_false_iff.mpr shut)
    next panicked here => exact .closes panicked here
    next panicked here =>
      cases panicked with
      | true => exact .recovers here
      | false => exact .returns here
    next here => exact .stops here

theorem handlerStep_move {input : HandlerInput} (stepped : handlerStep state input = some next) :
    HandlerMove state next := by
  cases input with simp only [handlerStep] at stepped
  | handled result =>
    split at stepped <;> cases stepped
    next here => exact .notes result here
  | go =>
    split at stepped <;> try cases stepped
    next here =>
      split at stepped
      next data rest sent =>
        cases stepped
        exact .receives data rest here sent
      next sent =>
        split_ifs at stepped with closed
        cases stepped
        exact .drains here sent closed
    next data here =>
      obtain ⟨free, rfl⟩ := lock_eq stepped
      exact .calls data here free
    next result here =>
      cases result with
      | continued => exact .continues here
      | stopped => exact .leaves .stopped here (by decide)
      | done => exact .leaves .done here (by decide)
      | panicked => exact .leaves .panicked here (by decide)
    next panicked here =>
      cases panicked with
      | true => exact .recovers here
      | false => exact .returns here
    next here => exact .stops here

theorem pingStep_move {input : PingInput} (stepped : pingStep settings state input = some next) :
    PingMove settings state next := by
  cases input with simp only [pingStep] at stepped
  | tick =>
    split at stepped <;> cases stepped
    next here =>
      split_ifs with shut
      · exact .skips here shut
      · exact .ticks here (eq_false_iff.mpr shut)
  | wrote written =>
    split at stepped <;> cases stepped
    next here => exact .writes written here
  | panic =>
    split at stepped <;> cases stepped
    next here => exact .panics here
  | leave =>
    split at stepped
    next here =>
      split_ifs at stepped
      cases stepped
      exact .leaves here
    · cases stepped
  | expire =>
    split at stepped <;> cases stepped
    next here => exact .leaves here
  | go =>
    split at stepped <;> try cases stepped
    next here =>
      obtain ⟨free, rfl⟩ := lock_eq stepped
      exact .locks here free
    next written here => exact .unlocks written here
    next here => exact .fails here
    next here => exact .recovers here
    next here => exact .stops here

theorem mainStep_move {input : MainInput} (stepped : mainStep settings state input = some next) :
    CallerMove settings state next := by
  have before : state.endReason = some .clientGone →
      state.main = .gone ∨ state.clientGone = true ∨ state.endReason = some .clientGone := fun gone => .inr (.inr gone)
  cases input with simp only [mainStep] at stepped
  | idle | stopped =>
    split at stepped
    next here =>
      split_ifs at stepped
      cases stepped
      exact .moves (by simp [here]) nofun fun gone => before (gone.resolve_left nofun)
    · cases stepped
  | gone =>
    split at stepped
    next here =>
      split_ifs at stepped with gone
      cases stepped
      exact .moves (by simp [here]) nofun fun _ => .inr (.inl gone)
    · cases stepped
  | go =>
    split at stepped <;> try cases stepped
    next here =>
      refine .moves (by simp [here]) (fun error => ?_) fun gone => before (gone.resolve_left ?_)
      · split_ifs <;> nofun
      · split_ifs <;> nofun
    next here => exact .moves (by simp [here]) nofun fun gone => before (gone.resolve_left nofun)
    next here =>
      exact .moves (by simp [here]) nofun fun gone => before (setEndReason_gone (by decide) (gone.resolve_left nofun))
    next here => exact .moves (by simp [here]) nofun fun _ => .inl here
    next here => exact .moves (by simp [here]) nofun fun gone => before (gone.resolve_left nofun)
    next here => exact .moves (by simp [here]) nofun fun gone => before (gone.resolve_left nofun)
    next here =>
      split_ifs at stepped with exited
      cases stepped
      exact .returns here exited

end

end FlowAPI.Stream
