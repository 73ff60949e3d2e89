import FlowAPI.Stream.Gate

/-! The data handler gets what the upstream sent, in order and once.

A payload goes from the scanner, which may hold it back, through the channel to the handler. -/

set_option autoImplicit false
namespace FlowAPI.Stream
open Golang Semantics Option Machine List State

def Onward.data : Onward → List (List UInt8)
  | .scan => []
  | .deliver data => [data]

/-- What was read is passed on, held back or in the hands of the scanner. A scanner that leaves may drop the last
part. -/
def Scanner.Flows (read passed held : List (List UInt8)) (gated : Bool) : Scanner → Prop
  | .scanning => read = passed ++ held ∧ (gated = false → held = [])
  | .checking line => read = passed ++ held ++ (payload line).toList ∧ (gated = false → held = [])
  | .locking onward | .writing onward | .marking onward | .unlocking onward => read = passed ++ held ++ onward.data
  | .replaying pending onward => read = passed ++ pending ++ onward.data
  | .delivering data | .sending data => read = passed ++ [data] ∧ held = []
  | _ => passed <+: read

def Handler.taken : Handler → List (List UInt8)
  | .locking data => [data]
  | _ => []

def State.passed (state : State) : List (List UInt8) := state.handled ++ state.handler.taken ++ state.dataChan

def State.Flows (settings : Settings) (read : List (List UInt8)) (state : State) : Prop :=
  state.scanner.Flows read state.passed state.held.frames (state.gated settings)

def received (read : List (List UInt8)) : Event → List (List UInt8)
  | .scanner (.line line) => read ++ (payload line).toList
  | _ => read

variable {settings : Settings} {state next : State} {read : List (List UInt8)}

theorem State.Flows.passed (flows : state.Flows settings read) : state.passed <+: read := by
  unfold Flows at flows
  cases here : state.scanner with simp only [here, Scanner.Flows] at flows
  | scanning | checking | delivering | sending => simp [flows.1]
  | locking | writing | marking | unlocking | replaying => simp [flows]
  | _ => exact flows

theorem process_flows {line : List UInt8} (here : state.scanner = .checking line) (flows : state.Flows settings read) :
    (state.process settings line).Flows settings read := by
  have kept := flows.passed
  simp only [Flows, here, Scanner.Flows] at flows
  obtain ⟨order, clear⟩ := flows
  unfold process
  split
  next skipped =>
    rw [skipped, toList_none, append_nil] at order
    exact ⟨order, clear⟩
  next data found =>
    rw [found, toList_some] at order
    have delivered (released : state.gated settings = false) :
        read = state.passed ++ [data] ∧ state.held.frames = [] := by
      rw [order, clear released, append_nil]
      exact ⟨rfl, rfl⟩
    split
    next gate =>
      split
      next committed => exact delivered (by simp [gated, committed])
      next shut =>
        have later : read = state.passed ++ (state.held.frames ++ [data]) := by rw [order, append_assoc]
        unfold hold
        dsimp only
        repeat' split
        all_goals first
          | exact kept
          | exact order
          | exact later.trans (append_nil _).symm
          | exact ⟨later, by simp [gated, gate, shut]⟩
    next gate => exact delivered (by simp [gated, gate])

theorem scannerStep_flows {input : ScannerInput} (stepped : scannerStep settings state input = some next)
    (flows : state.Flows settings read) : next.Flows settings (received read (.scanner input)) := by
  have kept := flows.passed
  cases input with simp only [scannerStep] at stepped
  | line =>
    split at stepped <;> cases stepped
    next here =>
      rw [Flows, here] at flows
      exact ⟨congrArg (· ++ _) flows.1, flows.2⟩
  | ended failed =>
    split at stepped <;> cases stepped
    cases failed <;> exact kept
  | panic =>
    split at stepped <;> cases stepped
    exact kept
  | send =>
    split at stepped <;> try cases stepped
    all_goals
      next here =>
        obtain ⟨_, ⟨⟩⟩ := ite_none_right_eq_some.mp stepped
        rw [Flows, here] at flows
        first
          | exact Eq.trans flows (by simp [passed])
          | exact ⟨flows.1.trans (by simp [passed, flows.2]), fun _ => flows.2⟩
  | abort =>
    split at stepped <;> try cases stepped
    all_goals
      obtain ⟨_, ⟨⟩⟩ := ite_none_right_eq_some.mp stepped
      exact kept
  | go =>
    split at stepped <;> try cases stepped
    case h_1 here =>
      split
      · exact kept
      · exact process_flows here flows
    case h_4 here =>
      obtain ⟨_, rfl⟩ := lock_eq stepped
      rw [Flows, here] at flows
      exact flows
    -- the end of the replay empties what was held
    case h_8 onward here =>
      rw [Flows, here, Scanner.Flows, append_nil] at flows
      cases onward with
      | scan => exact ⟨flows, fun _ => rfl⟩
      | deliver => exact ⟨flows, rfl⟩
    case h_9 here =>
      rw [Flows, here] at flows
      split
      · exact kept
      · exact flows
    case h_10 => split <;> exact kept
    case h_12 panicked _ => cases panicked <;> exact kept
    all_goals first
      | exact kept
      | next here =>
        rw [Flows, here] at flows
        exact flows

theorem HandlerMove.passed (move : HandlerMove state next) : next.passed = state.passed := by
  cases move with
  | receives _ _ here sent => simp [passed, Handler.taken, here, sent]
  | calls _ here => simp [passed, Handler.taken, here]
  | notes result here =>
    rw [passed, passed, here]
    cases result <;> rfl
  | drains here | continues here | leaves _ here | recovers here | returns here | stops here =>
    rw [passed, passed, here]
    rfl

theorem step_flows {event : Event} (stepped : step settings state event = some next)
    (flows : state.Flows settings read) : next.Flows settings (received read event) := by
  cases event with
  | scanner => exact scannerStep_flows stepped flows
  | handler =>
    have move := handlerStep_move stepped
    rw [Flows, move.passed, move.apart.scanner, move.apart.held, gated, move.apart.committed_eq]
    exact flows
  | ping => cases pingStep_move stepped <;> exact flows
  | main => cases mainStep_move stepped <;> exact flows
  | disconnect =>
    cases stepped
    exact flows

/-- Whatever ends the stream, the data handler is called with the payloads of the first lines, in order and each once;
and with all of them when the gate is open, the scanner waits for a line and nothing is on its way. -/
theorem stream_in_order {events : List Event}
    (run : (machine settings).Runs unrestricted (initial settings) events state) :
    state.handled <+: events.foldl received [] ∧
      (state.gated settings = false → state.scanner = .scanning → state.handler = .receiving → state.dataChan = [] →
        state.handled = events.foldl received []) := by
  have flows : state.Flows settings (events.foldl received []) :=
    run.tracked received (fun state read => state.Flows settings read)
      (fun _ _ _ _ flows _ stepped => step_flows stepped flows) ⟨rfl, fun _ => rfl⟩
  refine ⟨.trans ⟨_, (append_assoc _ _ _).symm⟩ flows.passed, fun released waits idle empty => ?_⟩
  rw [Flows, waits] at flows
  rw [flows.1, flows.2 released, passed, idle, empty]
  simp [Handler.taken]

/-- An event that is held back, the content that opens the gate and has it replayed, and more content. -/
def heldThenContent : List Event :=
  let handles : List Event := [.handler .go, .handler .go, .handler (.handled .continued), .handler .go]
  [.scanner (.line (ascii "data: \x7b\x7d")), .scanner .go, .scanner (.line (ascii "data: " ++ chatFrame "a"))] ++
    replicate 5 (.scanner .go) ++ [.scanner .send] ++ handles ++ [.scanner .go, .scanner .go, .scanner .send] ++
    handles ++ [.scanner (.line (ascii "data: " ++ chatFrame "b")), .scanner .go, .scanner .go, .scanner .send] ++ handles

theorem stream_in_order_content :
    (afterStream (heldThenContent.take 2)).held.frames = [ascii "\x7b\x7d"] ∧
    (afterStream heldThenContent).handled = [ascii "\x7b\x7d", chatFrame "a", chatFrame "b"] ∧
    (afterStream heldThenContent).handled = heldThenContent.foldl received [] := by
  have run : (machine chatSettings).Runs unrestricted (initial chatSettings) heldThenContent
      (afterStream heldThenContent) := runs_iff_exec.mpr (by decide +kernel)
  exact ⟨by decide +kernel, by decide +kernel,
    (stream_in_order run).2 (by decide +kernel) (by decide +kernel) (by decide +kernel) (by decide +kernel)⟩

end FlowAPI.Stream
