import Mathlib.Algebra.Group.Int.Defs
import Mathlib.Algebra.Group.Nat.Defs
import Mathlib.Data.Int.Order.Basic

/-! The in-memory accumulators of `model/utils.go`.

In batch mode a balance change is not written to its row. It is added to a
per-record accumulator and written later by a flush. Accumulators are Go `int`
values: the addition wraps at 64 bits, and a wrapped sum is replaced by the
nearest bound.
-/

set_option autoImplicit false
namespace FlowAPI.Batch

def maxInt : Int := 2 ^ 63 - 1
def minInt : Int := -2 ^ 63
def Fits (value : Int) : Prop := minInt ≤ value ∧ value ≤ maxInt
instance (value : Int) : Decidable (Fits value) := inferInstanceAs (Decidable (_ ∧ _))
def wrap (value : Int) : Int := value.bmod (2 ^ 64)

def addNewRecord (stored : Option Int) (value : Int) : Int :=
  match stored with
  | none => value
  | some old =>
    let sum := wrap (old + value)
    -- a sum on the wrong side of the old value has wrapped
    if (0 < value ∧ sum < old) ∨ (value < 0 ∧ old < sum) then if 0 < value then maxInt else minInt
    else sum

theorem wrap_of_fits {value : Int} (fits : Fits value) : wrap value = value := by
  unfold Fits minInt maxInt at fits
  exact Int.bmod_eq_of_le (by omega) (by omega)

theorem addNewRecord_exact {stored : Option Int} {value : Int}
    (fits : Fits (stored.getD 0 + value)) : addNewRecord stored value = stored.getD 0 + value := by
  cases stored with
  | none => simp [addNewRecord]
  | some =>
    simp only [Option.getD_some] at fits ⊢
    simp only [addNewRecord, wrap_of_fits fits]
    split
    next _ => omega
    next => rfl

end FlowAPI.Batch
