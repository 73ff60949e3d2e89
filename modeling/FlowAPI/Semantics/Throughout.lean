import Mathlib.Data.List.Basic

/-! What holds after each step of a run, and what holds before each.

A property of the states that a run of a total step function passes through is often the same
as a condition on the steps it takes: each step keeps the property exactly where the condition holds
at the moment it is taken. A run of steps that lower a measure comes to a final state.
-/

set_option autoImplicit false
namespace Semantics

variable {State Event : Type} (step : State → Event → State)

def AfterEach (holds : State → Prop) : State → List Event → Prop
  | _, [] => True
  | state, event :: rest => holds (step state event) ∧ AfterEach holds (step state event) rest

def BeforeEach (admits : State → Event → Prop) : State → List Event → Prop
  | _, [] => True
  | state, event :: rest => admits state event ∧ BeforeEach admits (step state event) rest

variable {step}

/-- From a state with the invariant, the property holds throughout exactly where each step is admitted. -/
theorem afterEach_iff_beforeEach {invariant holds : State → Prop} {admits : State → Event → Prop}
    (exact : ∀ state event, invariant state → (holds (step state event) ↔ admits state event))
    (kept : ∀ state event, invariant state → holds (step state event) → invariant (step state event))
    {state : State} (initially : invariant state) (events : List Event) :
    AfterEach step holds state events ↔ BeforeEach step admits state events := by
  induction events generalizing state with
  | nil => exact Iff.rfl
  | cons event _ ih =>
    rw [AfterEach, BeforeEach, ← exact state event initially]
    exact and_congr_right fun holds => ih (kept state event initially holds)

/-- A measure that every step lowers until a final state is reached bounds the length of the runs that have not reached
one. -/
theorem final_of_measure {invariant final : State → Prop} {measure : State → Nat}
    (kept : ∀ state event, invariant state → invariant (step state event))
    (lowers : ∀ state event, invariant state → ¬final state → measure (step state event) < measure state)
    (stays : ∀ state event, final state → final (step state event))
    {state : State} (initially : invariant state) {events : List Event} (enough : measure state < events.length) :
    final (events.foldl step state) := by
  induction events generalizing state with
  | nil => cases enough
  | cons event rest ih =>
    by_cases done : final state
    · exact List.foldlRecOn (motive := final) rest step (stays state event done) fun state done event _ =>
        stays state event done
    · have lower := lowers state event initially done
      rw [List.length_cons] at enough
      exact ih (kept state event initially) (by omega)

end Semantics
