import Mathlib.Algebra.Order.Ring.Int

/-! Values of type `float64` that are integers.

A value is an integer with at most 53 significant bits. Conversions and sums round to the nearest such integer, and
to the even one of two that are equally near. Up to 2 ^ 53 they are exact.
-/

set_option autoImplicit false
namespace FlowAPI.Golang

def roundToNearest (value : Nat) : Nat :=
  let unit := 2 ^ (value.log2 - 52)
  let down := value / unit
  let rest := value % unit
  if unit < 2 * rest ∨ 2 * rest = unit ∧ down % 2 = 1 then (down + 1) * unit else down * unit

def float64 (value : Int) : Int := value.sign * roundToNearest value.natAbs

theorem roundToNearest_exact {value : Nat} (small : value ≤ 2 ^ 53) : roundToNearest value = value := by
  rcases Nat.lt_or_eq_of_le small with below | rfl
  · have bits : value.log2 - 52 = 0 := by
      by_cases zero : value = 0
      · rw [zero]
        rfl
      · have := (Nat.log2_lt zero).mpr below
        omega
    simp [roundToNearest, bits, Nat.mod_one]
  · decide

theorem float64_exact {value : Int} (small : value.natAbs ≤ 2 ^ 53) : float64 value = value := by
  rw [float64, roundToNearest_exact small, Int.sign_mul_natAbs]

theorem roundToNearest_pos {value : Nat} (positive : 0 < value) : 0 < roundToNearest value := by
  have unit : 2 ^ (value.log2 - 52) ≤ value :=
    (Nat.pow_le_pow_right Nat.two_pos (Nat.sub_le _ _)).trans (Nat.log2_self_le positive.ne')
  have down : 0 < value / 2 ^ (value.log2 - 52) := Nat.div_pos unit (Nat.two_pow_pos _)
  unfold roundToNearest
  dsimp only
  split
  · exact Nat.mul_pos (Nat.succ_pos _) (Nat.two_pow_pos _)
  · exact Nat.mul_pos down (Nat.two_pow_pos _)

theorem float64_neg {value : Int} (negative : value < 0) : float64 value < 0 := by
  have positive := roundToNearest_pos (Int.natAbs_pos.mpr negative.ne)
  rw [float64, Int.sign_eq_neg_one_of_neg negative]
  omega

end FlowAPI.Golang
