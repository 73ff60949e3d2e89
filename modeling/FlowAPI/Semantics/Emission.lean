import Mathlib.Data.List.Count

/-! Steps that pass a state along and emit events.

Some events are marked. A quiet step emits none of them and keeps a part of the state. A step with an allowance spends
it on marked events: what it emits and what is left of the allowance make up what there was. Both notions are closed
under sequence and under loops.
-/

set_option autoImplicit false
namespace Semantics

variable {State Event Input Part : Type}

abbrev Emitter (State Event : Type) := State → List Event × State

namespace Emitter

def andThen (first second : Emitter State Event) : Emitter State Event := fun state =>
  ((first state).1 ++ (second (first state).2).1, (second (first state).2).2)

variable (marked : Event → Bool)

theorem countP_andThen (first second : Emitter State Event) (state : State) :
    (first.andThen second state).1.countP marked =
      (first state).1.countP marked + (second (first state).2).1.countP marked :=
  List.countP_append

def each (step : Input → Emitter State Event) : List Input → Emitter State Event
  | [], state => ([], state)
  | input :: rest, state => andThen (step input) (each step rest) state

def Quiet (part : State → Part) (step : Emitter State Event) : Prop :=
  ∀ state, (step state).1.countP marked = 0 ∧ part (step state).2 = part state

section
variable {marked : Event → Bool} {part : State → Part} {first second : Emitter State Event}

theorem Quiet.skip : Quiet marked part fun state => ([], state) := fun _ => ⟨rfl, rfl⟩

theorem Quiet.andThen (one : Quiet marked part first) (two : Quiet marked part second) :
    Quiet marked part (first.andThen second) := by
  intro state
  obtain ⟨silent, kept⟩ := one state
  obtain ⟨silent', kept'⟩ := two (first state).2
  refine ⟨?_, kept'.trans kept⟩
  rw [countP_andThen, silent, silent']

theorem Quiet.each {step : Input → Emitter State Event} (steps : ∀ input, Quiet marked part (step input))
    (inputs : List Input) : Quiet marked part (each step inputs) := by
  induction inputs with
  | nil => exact .skip
  | cons input _ ih => exact (steps input).andThen ih

end

def Spends (left : State → Nat) (step : Emitter State Event) : Prop :=
  ∀ state, (step state).1.countP marked + left (step state).2 = left state

theorem Quiet.spends {marked : Event → Bool} {part : State → Part} {step : Emitter State Event}
    (quiet : Quiet marked part step) (allowance : Part → Nat) :
    Spends marked (fun state => allowance (part state)) step := by
  intro state
  obtain ⟨silent, kept⟩ := quiet state
  rw [silent, Nat.zero_add]
  exact congrArg allowance kept

theorem Spends.andThen {marked : Event → Bool} {left : State → Nat} {first second : Emitter State Event}
    (one : Spends marked left first) (two : Spends marked left second) : Spends marked left (first.andThen second) := by
  intro state
  have before := one state
  have after := two (first state).2
  rw [countP_andThen]
  show _ + left (second (first state).2).2 = left state
  omega

end Emitter

end Semantics
