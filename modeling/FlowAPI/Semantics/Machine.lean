import Mathlib.Data.List.Basic

/-! Labelled machines with a partial step function, and what whole runs preserve.

A label names the process that moves together with everything the environment
decides at that moment, so an interleaving is a list of labels. A condition on
the state before each step selects the runs a result speaks about.
-/

set_option autoImplicit false
namespace Semantics

structure Machine (State Label : Type) where
  step : State → Label → Option State

namespace Machine

variable {State Label : Type} (m : Machine State Label)

/-- Runs whose every step is admitted in the state it leaves. -/
inductive Runs (admits : State → Label → Prop) : State → List Label → State → Prop where
  | nil (state : State) : Runs admits state [] state
  | cons {state next final : State} {label : Label} {rest : List Label} :
      admits state label → m.step state label = some next → Runs admits next rest final →
      Runs admits state (label :: rest) final

def unrestricted : State → Label → Prop := fun _ _ => True
instance : DecidableRel (@unrestricted State Label) := fun _ _ => inferInstanceAs (Decidable True)

def exec (admits : State → Label → Prop) [DecidableRel admits] : State → List Label → Option State
  | state, [] => some state
  | state, label :: rest =>
      if admits state label then (m.step state label).bind fun next => exec admits next rest else none

variable {m}

variable {admits : State → Label → Prop} {start final : State} {labels : List Label}

theorem runs_iff_exec [DecidableRel admits] :
    m.Runs admits start labels final ↔ m.exec admits start labels = some final := by
  constructor
  · intro run
    induction run with
    | nil => rfl
    | cons admitted stepped _ ih => simp [exec, admitted, stepped, ih]
  · intro executed
    induction labels generalizing start with
    | nil =>
      cases Option.some.inj executed
      exact .nil _
    | cons _ _ ih =>
      simp only [exec] at executed
      split_ifs at executed with admitted
      obtain ⟨next, stepped, tail⟩ := Option.bind_eq_some_iff.mp executed
      exact .cons admitted stepped (ih tail)

/-- What every admitted step keeps holds of the state a run ends in, hence of every state it passes through. -/
theorem Runs.invariant (run : m.Runs admits start labels final) (holds : State → Prop)
    (kept : ∀ state label next, holds state → admits state label → m.step state label = some next → holds next)
    (initially : holds start) : holds final := by
  induction run with
  | nil => exact initially
  | cons admitted stepped _ ih => exact ih (kept _ _ _ initially admitted stepped)

theorem Runs.split {front back : List Label} (run : m.Runs admits start (front ++ back) final) :
    ∃ middle, m.Runs admits start front middle ∧ m.Runs admits middle back final := by
  induction front generalizing start with
  | nil => exact ⟨start, .nil start, run⟩
  | cons _ _ ih =>
    cases run with
    | cons admitted stepped tail =>
      obtain ⟨middle, first, second⟩ := ih tail
      exact ⟨middle, .cons admitted stepped first, second⟩

/-- A relation to a value that the labels alone determine. -/
theorem Runs.tracked {Image : Type} (run : m.Runs admits start labels final) (after : Image → Label → Image)
    (related : State → Image → Prop) (kept : ∀ state label next image, related state image → admits state label →
      m.step state label = some next → related next (after image label))
    {image : Image} (initially : related start image) : related final (labels.foldl after image) := by
  induction run generalizing image with
  | nil => exact initially
  | cons admitted stepped _ ih => exact ih (kept _ _ _ _ initially admitted stepped)

theorem Runs.restrict (run : m.Runs admits start labels final) (allowed : Label → Prop)
    (all : ∀ label ∈ labels, allowed label) :
    m.Runs (fun state label => admits state label ∧ allowed label) start labels final := by
  induction run with
  | nil state => exact .nil state
  | cons admitted stepped _ ih =>
    obtain ⟨first, rest⟩ := List.forall_mem_cons.mp all
    exact .cons ⟨admitted, first⟩ stepped (ih rest)

def occurrences (m : Machine State Label) (happens : State → State → Bool) : State → List Label → Nat
  | _, [] => 0
  | state, label :: rest =>
    match m.step state label with
    | none => 0
    | some next => (if happens state next then 1 else 0) + occurrences m happens next rest

/-- A step that enters what no step leaves is taken at most once. -/
theorem Runs.occurrences_le_one
    (run : m.Runs admits start labels final) (happens : State → State → Bool) (holds entered : State → Prop)
    (kept : ∀ state label next, holds state → admits state label → m.step state label = some next → holds next)
    (enters : ∀ state next, happens state next = true → ¬ entered state ∧ entered next)
    (stable : ∀ state label next, holds state → m.step state label = some next → entered state → entered next)
    (initially : holds start) :
    m.occurrences happens start labels ≤ 1 ∧ (entered start → m.occurrences happens start labels = 0) := by
  induction run with
  | nil => exact ⟨Nat.zero_le _, fun _ => rfl⟩
  | @cons state next _ _ _ admitted stepped _ ih =>
    obtain ⟨atMost, never⟩ := ih (kept _ _ _ initially admitted stepped)
    simp only [occurrences, stepped]
    cases happened : happens state next with
    | true =>
      obtain ⟨outside, inside⟩ := enters state next happened
      exact ⟨by simp [never inside], fun entered => absurd entered outside⟩
    | false =>
      refine ⟨by simpa using atMost, fun entered => ?_⟩
      simpa using never (stable _ _ _ initially stepped entered)

/-- Forward simulation with stuttering. A step of the concrete machine is
matched by one abstract step or leaves the abstract state alone. -/
theorem Runs.simulate {Abstract Move : Type} {spec : Machine Abstract Move}
    (run : m.Runs admits start labels final) (related : State → Abstract → Prop)
    (matched : ∀ state label next image, related state image → admits state label →
      m.step state label = some next → related next image ∨
        ∃ move image', spec.step image move = some image' ∧ related next image')
    {image : Abstract} (initially : related start image) :
    ∃ moves image', spec.Runs unrestricted image moves image' ∧ related final image' := by
  induction run generalizing image with
  | nil => exact ⟨[], image, .nil image, initially⟩
  | cons admitted stepped _ ih =>
    rcases matched _ _ _ _ initially admitted stepped with same | ⟨move, _, moved, after⟩
    · exact ih same
    · obtain ⟨moves, image', rest, ended⟩ := ih after
      exact ⟨move :: moves, image', .cons trivial moved rest, ended⟩

end Machine

end Semantics
