import Mathlib.Algebra.Order.Field.Rat
import Mathlib.Data.Int.Log
import Mathlib.Data.Rat.Floor
import Mathlib.Data.Nat.Prime.Basic
import Mathlib.Tactic.Linarith
import Mathlib.Tactic.NormNum
import Mathlib.Tactic.Positivity
import Mathlib.Tactic.Ring

/-!
# Binary floating point numbers

The numbers that a 64-bit float represents, the nearest of them to a rational
number. The rule that decides between two integers at the same distance is a parameter.
-/

set_option autoImplicit false

namespace CogniDQ.Python.Binary64

section Nearest

variable (round : Rat → Int)

/-- The exponent of the last place of the floats around a number. -/
def lastPlace (value : Rat) : Int := max (Int.log 2 |value| - 52) (-1074)

def nearest (value : Rat) : Rat :=
  round (value / 2 ^ lastPlace value) * 2 ^ lastPlace value

def Nearest : Prop := ∀ value : Rat, |(round value : Rat) - value| ≤ 1 / 2

variable {round} (near : Nearest round)

include near in
theorem Nearest.of_int (value : Int) : round value = value := by
  have close := near value
  rw [← Int.cast_sub, ← Int.cast_abs] at close
  have below : |round value - value| < 1 := by
    have strict : ((|round value - value| : Int) : Rat) < (1 : Int) :=
      close.trans_lt (by norm_num)
    exact_mod_cast strict
  exact sub_eq_zero.mp (Int.abs_lt_one_iff.mp below)

end Nearest

end CogniDQ.Python.Binary64

/-!
## Decimal numbers

Numbers of a fixed count of significant digits. The rule that decides between two integers at the
same distance is a parameter.
-/

namespace CogniDQ.Python.Decimals

open CogniDQ.Python.Binary64 (Nearest)

section Significant

variable (round : Rat → Int) (precision : Nat)

def lastDigit (value : Rat) : Int := Int.log 10 |value| + 1 - precision

def significant (value : Rat) : Rat :=
  round (value / 10 ^ lastDigit precision value) * 10 ^ lastDigit precision value

variable {round precision}

theorem round_le (near : Nearest round) {value : Rat} {bound : Int} (below : value ≤ bound) :
    round value ≤ bound := by
  have close := (abs_le.mp (near value)).2
  have strict : (round value : Rat) < ((bound + 1 : Int) : Rat) := by
    push_cast
    linarith
  exact Int.lt_add_one_iff.mp (by exact_mod_cast strict)

theorem round_nonneg (near : Nearest round) {value : Rat} (above : 0 ≤ value) : 0 ≤ round value := by
  have close := (abs_le.mp (near value)).1
  have strict : ((-1 : Int) : Rat) < round value := by
    push_cast
    linarith
  have below : (-1 : Int) < round value := by exact_mod_cast strict
  omega

theorem significant_nonneg (near : Nearest round) {value : Rat} (above : 0 ≤ value) :
    0 ≤ significant round precision value := by
  have unit : (0 : Rat) < 10 ^ lastDigit precision value := zpow_pos (by norm_num) _
  have whole := round_nonneg near (div_nonneg above unit.le)
  exact mul_nonneg (by exact_mod_cast whole) unit.le

theorem significant_le_pow (near : Nearest round) {value : Rat} {power : Int} (above : 0 ≤ value)
    (below : value ≤ 10 ^ power) : significant round (precision + 1) value ≤ 10 ^ power := by
  have ten : (1 : Rat) < 10 := by norm_num
  have scale : (0 : Rat) < 10 ^ lastDigit (precision + 1) value := zpow_pos (by norm_num) _
  -- in units of the last digit the value is below a power of ten that is no fraction
  have bounded : ∀ digits : Nat, value ≤ 10 ^ (digits + lastDigit (precision + 1) value) →
      significant round (precision + 1) value ≤ 10 ^ (digits + lastDigit (precision + 1) value) := by
    intro digits small
    have split : (10 : Rat) ^ (digits + lastDigit (precision + 1) value) =
        ((10 ^ digits : Int) : Rat) * 10 ^ lastDigit (precision + 1) value := by
      rw [zpow_add₀ (by norm_num), zpow_natCast]
      push_cast
      rfl
    rw [split] at small ⊢
    have rounded := round_le near ((div_le_iff₀ scale).mpr small)
    exact mul_le_mul_of_nonneg_right (by exact_mod_cast rounded) scale.le
  rcases eq_or_lt_of_le above with rfl | positive
  · have zero : round 0 = 0 := Nearest.of_int near 0
    unfold significant
    rw [zero_div, zero, Int.cast_zero, zero_mul]
    exact below
  · have magnitude : |value| = value := abs_of_pos positive
    have most := Int.lt_zpow_succ_log_self (by decide : 1 < 10) |value|
    have least := Int.zpow_log_le_self (by decide : 1 < 10) (abs_pos.mpr positive.ne')
    rw [magnitude, Nat.cast_ofNat] at most least
    rcases lt_or_ge (Int.log 10 |value|) power with smaller | larger
    · have exponent : ((precision + 1 : Nat) : Int) + lastDigit (precision + 1) value =
          Int.log 10 |value| + 1 := by
        unfold lastDigit
        ring
      refine (bounded (precision + 1) ?_).trans ?_
      · rw [exponent, magnitude]
        exact most.le
      · rw [exponent]
        exact zpow_le_zpow_right₀ ten.le smaller
    · have exponent : (precision : Int) + lastDigit (precision + 1) value = Int.log 10 |value| := by
        unfold lastDigit
        push_cast
        ring
      have same : Int.log 10 |value| = power := by
        refine le_antisymm ?_ larger
        rw [magnitude]
        exact (zpow_le_zpow_iff_right₀ ten).mp (least.trans below)
      have limit := bounded precision
      rw [exponent, same] at limit
      exact limit below

end Significant

end CogniDQ.Python.Decimals
