import Mathlib.Algebra.BigOperators.Group.List.Basic
import Mathlib.Algebra.BigOperators.Ring.List
import Mathlib.Algebra.Order.BigOperators.Group.List
import Mathlib.Algebra.Order.Field.Basic
import Mathlib.Analysis.Real.Sqrt
import Mathlib.Tactic.FieldSimp
import Mathlib.Tactic.Linarith
import Mathlib.Tactic.Positivity
import Mathlib.Tactic.Ring

/-!
# Deviation from the mean of a sample

The mean and the sample variance of numbers, and how many standard deviations one of the numbers
lies below the mean of all of them. The number is part of the sample that it is measured by: what it
adds to the variance bounds how far below the mean it can lie.
-/

set_option autoImplicit false

namespace CogniDQ.Database

variable {F : Type} [Field F] [LinearOrder F] [IsStrictOrderedRing F]

def sampleMean (values : List F) : F := values.sum / values.length

def spread (values : List F) : F := (values.map fun value => (value - sampleMean values) ^ 2).sum

/-- The sample variance, `VAR_SAMP(column)`: nothing for fewer than two numbers. -/
def sampleVariance (values : List F) : Option F :=
  if values.length < 2 then none else some (spread values / ((values.length : F) - 1))

/-- A difference below zero by more than a number of standard deviations, without square roots. -/
def LiesBelow (threshold variance difference : F) : Prop :=
  difference < 0 ∧ threshold ^ 2 * variance < difference ^ 2

instance (threshold variance difference : F) : Decidable (LiesBelow threshold variance difference) :=
  inferInstanceAs (Decidable (_ ∧ _))

theorem LiesBelow.of_difference_le {threshold variance difference lower : F}
    (lowered : lower ≤ difference) (below : LiesBelow threshold variance difference) :
    LiesBelow threshold variance lower := by
  refine ⟨lt_of_le_of_lt lowered below.1, lt_of_lt_of_le below.2 ?_⟩
  have negative := below.1
  nlinarith

variable {rest values others : List F} {value level threshold : F}

omit [LinearOrder F] [IsStrictOrderedRing F] in
theorem sampleMean_perm (same : values.Perm others) : sampleMean values = sampleMean others := by
  rw [sampleMean, sampleMean, same.sum_eq, same.length_eq]

omit [LinearOrder F] [IsStrictOrderedRing F] in
theorem spread_perm (same : values.Perm others) : spread values = spread others := by
  rw [spread, spread, sampleMean_perm same]
  exact (same.map _).sum_eq

omit [LinearOrder F] [IsStrictOrderedRing F] in
theorem sampleVariance_perm (same : values.Perm others) :
    sampleVariance values = sampleVariance others := by
  rw [sampleVariance, sampleVariance, spread_perm same, same.length_eq]

theorem spread_nonneg : 0 ≤ spread values :=
  List.sum_nonneg fun square member => by
    obtain ⟨value, -, rfl⟩ := List.mem_map.mp member
    exact sq_nonneg _

omit [LinearOrder F] [IsStrictOrderedRing F] in
theorem sum_squares (point : F) (values : List F) :
    (values.map fun value => (value - point) ^ 2).sum =
      (values.map (· ^ 2)).sum - 2 * point * values.sum + values.length * point ^ 2 := by
  induction values with
  | nil => simp
  | cons value rest ih =>
      simp only [List.map_cons, List.sum_cons, ih, List.length_cons, Nat.cast_succ]
      ring

theorem spread_eq (given : values ≠ []) :
    spread values = (values.map (· ^ 2)).sum - values.sum ^ 2 / values.length := by
  have length : (values.length : F) ≠ 0 :=
    Nat.cast_ne_zero.mpr (List.length_pos_iff.mpr given).ne'
  rw [spread, sum_squares, sampleMean]
  field_simp
  ring

section Cons

variable (given : rest ≠ [])

include given

theorem sub_sampleMean_cons :
    value - sampleMean (value :: rest) =
      -(rest.length / (rest.length + 1) * (sampleMean rest - value)) := by
  have length : (0 : F) < rest.length := Nat.cast_pos.mpr (List.length_pos_iff.mpr given)
  simp only [sampleMean, List.sum_cons, List.length_cons, Nat.cast_succ]
  field_simp
  ring

theorem spread_cons :
    spread (value :: rest) =
      spread rest + rest.length / (rest.length + 1) * (sampleMean rest - value) ^ 2 := by
  have length : (0 : F) < rest.length := Nat.cast_pos.mpr (List.length_pos_iff.mpr given)
  rw [spread_eq (List.cons_ne_nil _ _), spread_eq given, sampleMean]
  simp only [List.map_cons, List.sum_cons, List.length_cons, Nat.cast_succ]
  field_simp
  ring

theorem sampleVariance_cons :
    sampleVariance (value :: rest) = some ((spread rest +
      rest.length / (rest.length + 1) * (sampleMean rest - value) ^ 2) / rest.length) := by
  have enough : ¬(value :: rest).length < 2 := by
    have := List.length_pos_iff.mpr given
    simp only [List.length_cons]
    omega
  rw [sampleVariance, if_neg enough, spread_cons given]
  simp

theorem variance_cons_pos (less : value < sampleMean rest) :
    0 < (spread rest + rest.length / (rest.length + 1) * (sampleMean rest - value) ^ 2) /
      rest.length := by
  have length : (0 : F) < rest.length := Nat.cast_pos.mpr (List.length_pos_iff.mpr given)
  have ratio : (0 : F) < rest.length / (rest.length + 1) := by positivity
  have distance : 0 < (sampleMean rest - value) ^ 2 := pow_pos (sub_pos.mpr less) 2
  exact div_pos (add_pos_of_nonneg_of_pos spread_nonneg (mul_pos ratio distance)) length

/-- When a number lies below the mean of its sample: it is less than the mean of the others, and its
distance outweighs their spread by a factor that their number bounds. -/
theorem liesBelow_cons_iff :
    LiesBelow threshold ((spread rest +
        rest.length / (rest.length + 1) * (sampleMean rest - value) ^ 2) / rest.length)
      (value - sampleMean (value :: rest)) ↔
    value < sampleMean rest ∧ threshold ^ 2 * spread rest <
      (sampleMean rest - value) ^ 2 * (rest.length / (rest.length + 1) *
        (rest.length ^ 2 / (rest.length + 1) - threshold ^ 2)) := by
  have length : (0 : F) < rest.length := Nat.cast_pos.mpr (List.length_pos_iff.mpr given)
  have ratio : (0 : F) < rest.length / (rest.length + 1) := by positivity
  rw [LiesBelow, sub_sampleMean_cons given]
  refine and_congr ?_ ?_
  · rw [neg_lt_zero, mul_pos_iff_of_pos_left ratio, sub_pos]
  · rw [mul_div_assoc', div_lt_iff₀ length, ← sub_pos, ← sub_pos (b := threshold ^ 2 * spread rest)]
    refine iff_of_eq (congrArg (0 < ·) ?_)
    field_simp
    ring

/-- A number that lies below the mean of its sample lies below it as well when it is lowered. -/
theorem liesBelow_cons_of_le {lower : F} (lowered : lower ≤ value)
    (below : LiesBelow threshold ((spread rest +
        rest.length / (rest.length + 1) * (sampleMean rest - value) ^ 2) / rest.length)
      (value - sampleMean (value :: rest))) :
    LiesBelow threshold ((spread rest +
        rest.length / (rest.length + 1) * (sampleMean rest - lower) ^ 2) / rest.length)
      (lower - sampleMean (lower :: rest)) := by
  obtain ⟨less, outweighs⟩ := (liesBelow_cons_iff given).mp below
  refine (liesBelow_cons_iff given).mpr ⟨lt_of_le_of_lt lowered less, lt_of_lt_of_le outweighs ?_⟩
  have distance : (sampleMean rest - value) ^ 2 ≤ (sampleMean rest - lower) ^ 2 :=
    pow_le_pow_left₀ (sub_nonneg.mpr less.le) (by linarith) 2
  have weighs : 0 < (sampleMean rest - value) ^ 2 * (rest.length / (rest.length + 1) *
      (rest.length ^ 2 / (rest.length + 1) - threshold ^ 2)) :=
    lt_of_le_of_lt (mul_nonneg (sq_nonneg _) spread_nonneg) outweighs
  have factor := (mul_pos_iff_of_pos_left (pow_pos (sub_pos.mpr less) 2)).mp weighs
  exact mul_le_mul_of_nonneg_right distance factor.le

end Cons

/-- Lowering a number keeps it below the mean by every threshold, whether or not it is one of the
sample. -/
theorem exists_variance_lowered {after : List F} {lower variance : F} (lowered : lower ≤ value)
    (moved : after = values ∨ ∃ rest, values.Perm (value :: rest) ∧ after.Perm (lower :: rest))
    (measured : sampleVariance values = some variance) (varies : variance ≠ 0)
    (less : value < sampleMean values) :
    ∃ changed, sampleVariance after = some changed ∧ changed ≠ 0 ∧ ∀ threshold,
      LiesBelow threshold variance (value - sampleMean values) →
        LiesBelow threshold changed (lower - sampleMean after) := by
  rcases moved with rfl | ⟨rest, before, later⟩
  · refine ⟨variance, measured, varies, fun threshold below => ?_⟩
    exact below.of_difference_le (sub_le_sub_right lowered _)
  · have given : rest ≠ [] := by
      rintro rfl
      rw [sampleVariance_perm before] at measured
      cases measured
    rw [sampleVariance_perm before, sampleVariance_cons given] at measured
    rw [sampleMean_perm before, ← sub_neg, sub_sampleMean_cons given] at less
    obtain rfl := Option.some.inj measured
    rw [sampleVariance_perm later, sampleMean_perm later, sampleMean_perm before]
    refine ⟨_, sampleVariance_cons given, ?_, fun threshold below =>
      liesBelow_cons_of_le given lowered below⟩
    have length : (0 : F) < rest.length := Nat.cast_pos.mpr (List.length_pos_iff.mpr given)
    have ratio : (0 : F) < rest.length / (rest.length + 1) := by positivity
    rw [neg_lt_zero, mul_pos_iff_of_pos_left ratio, sub_pos] at less
    exact (variance_cons_pos given (lt_of_le_of_lt lowered less)).ne'

theorem sampleMean_replicate {count : Nat} (some : 0 < count) :
    sampleMean (List.replicate count level) = level := by
  have length : (count : F) ≠ 0 := Nat.cast_ne_zero.mpr some.ne'
  simp [sampleMean, length]

theorem spread_replicate {count : Nat} (some : 0 < count) :
    spread (List.replicate count level) = 0 := by
  simp [spread, sampleMean_replicate some]

/-- A number below a level sample lies below by more than two standard deviations when the sample
has at least five other numbers, and by how much it is less does not matter. -/
theorem liesBelow_replicate_iff {count : Nat} (some : 0 < count) (less : value < level) :
    LiesBelow 2 ((spread (List.replicate count level) +
        (List.replicate count level).length / ((List.replicate count level).length + 1) *
          (sampleMean (List.replicate count level) - value) ^ 2) /
        (List.replicate count level).length)
      (value - sampleMean (value :: List.replicate count level)) ↔ 5 ≤ count := by
  have given : List.replicate count level ≠ [] := by simp [some.ne']
  rw [liesBelow_cons_iff given, sampleMean_replicate some, spread_replicate some,
    List.length_replicate, mul_zero]
  have length : (0 : F) < count := Nat.cast_pos.mpr some
  have distance : 0 < (level - value) ^ 2 := pow_pos (sub_pos.mpr less) 2
  have ratio : (0 : F) < count / (count + 1) := by positivity
  rw [mul_pos_iff_of_pos_left distance, mul_pos_iff_of_pos_left ratio, sub_pos,
    lt_div_iff₀ (by positivity)]
  refine (and_iff_right less).trans ?_
  have cast : (2 : F) ^ 2 * (count + 1) < (count : F) ^ 2 ↔ 4 * (count + 1) < count ^ 2 := by
    rw [← Nat.cast_lt (α := F)]
    push_cast
    norm_num
  rw [cast]
  constructor
  · intro far
    by_contra few
    have atMost : count ≤ 4 := by omega
    nlinarith
  · intro enough
    nlinarith

end CogniDQ.Database
