import FlowAPI.Semantics.Machine
import Mathlib.Algebra.Order.Group.Defs
import Mathlib.Tactic.Abel

/-! A budget that is only spent from what is left.

This is what a reservation system is for, with nothing of how one works: an
amount may be spent when it is covered. A budget that opens overdrawn stays as
it is, so an overdraft is a field of the type and not a case of every proof.
-/

set_option autoImplicit false
namespace Semantics

variable {Amount : Type} [AddCommGroup Amount] [LinearOrder Amount] [IsOrderedAddMonoid Amount]

structure Budget (Amount : Type) [AddCommGroup Amount] [LinearOrder Amount] where
  (left spent : Amount)
  covered : spent = 0 ∨ 0 ≤ left

namespace Budget

def opened (amount : Amount) : Budget Amount := ⟨amount, 0, .inl rfl⟩
def spend (budget : Budget Amount) (amount : Amount) (enough : amount ≤ budget.left) : Budget Amount :=
  ⟨budget.left - amount, budget.spent + amount, .inr (sub_nonneg.mpr enough)⟩

def machine : Machine (Budget Amount) Amount where
  step budget amount :=
    if enough : 0 ≤ amount ∧ amount ≤ budget.left then some (budget.spend amount enough.2) else none

theorem step_total {budget next : Budget Amount} {amount : Amount}
    (stepped : machine.step budget amount = some next) : next.left + next.spent = budget.left + budget.spent := by
  simp only [machine] at stepped
  split at stepped <;> cases stepped
  next _ =>
    simp only [spend]
    abel

theorem runs_total {start final : Budget Amount} {amounts : List Amount}
    (run : machine.Runs Machine.unrestricted start amounts final) :
    final.left + final.spent = start.left + start.spent :=
  run.invariant (fun budget => budget.left + budget.spent = start.left + start.spent)
    (fun _ _ _ held _ stepped => (step_total stepped).trans held) rfl

theorem spent_le (budget : Budget Amount) : budget.spent ≤ max 0 (budget.left + budget.spent) := by
  rcases budget.covered with none_spent | solvent
  · rw [none_spent]
    exact le_max_left _ _
  · exact le_max_of_le_right (le_add_of_nonneg_left solvent)

end Budget

end Semantics
