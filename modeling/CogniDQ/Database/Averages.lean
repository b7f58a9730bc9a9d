import Mathlib.Algebra.BigOperators.Group.List.Basic
import Mathlib.Algebra.Order.BigOperators.Group.List
import Mathlib.Algebra.Order.Field.Rat
import Mathlib.Algebra.Order.Field.Basic
import Mathlib.Data.Rat.Cast.Order
import Mathlib.Algebra.Order.Ring.Abs

/-!
# Averages

The average of a column, the mean of averages that are weighted by the numbers of rows, and sums
over the groups of a column.
-/

set_option autoImplicit false

namespace CogniDQ.Database

/-- `AVG(column)` over the values that are not null. -/
def average (values : List Rat) : Option Rat :=
  if values = [] then none else some (values.sum / values.length)

/-- The mean of numbers, each counted as often as its weight says. -/
def weightedMean (entries : List (Nat × Rat)) : Rat :=
  (entries.map fun entry => (entry.1 : Rat) * entry.2).sum / (entries.map (·.1)).sum

theorem sums_filter_weights (entries : List (Nat × Rat)) :
    ((entries.filter fun entry => 0 < entry.1).map fun entry => (entry.1 : Rat) * entry.2).sum =
        (entries.map fun entry => (entry.1 : Rat) * entry.2).sum ∧
      ((entries.filter fun entry => 0 < entry.1).map (·.1)).sum = (entries.map (·.1)).sum := by
  induction entries with
  | nil => exact ⟨rfl, rfl⟩
  | cons entry rest ih =>
    by_cases weighs : 0 < entry.1
    · rw [List.filter_cons_of_pos (by simpa using weighs)]
      simp only [List.map_cons, List.sum_cons, ih, and_self]
    · rw [List.filter_cons_of_neg (by simpa using weighs)]
      simp only [List.map_cons, List.sum_cons, ih, Nat.eq_zero_of_not_pos weighs, Nat.cast_zero,
        zero_mul, zero_add, and_self]

theorem weightedMean_filter (entries : List (Nat × Rat)) :
    weightedMean (entries.filter fun entry => 0 < entry.1) = weightedMean entries := by
  unfold weightedMean
  rw [(sums_filter_weights entries).1, (sums_filter_weights entries).2]

/-- The mean of averages is the average of all values, if each group of values weighs as many as
it has. -/
theorem weightedMean_of_groups {α : Type} {groups : List α} {weight : α → Nat} {total : α → Rat}
    (none : ∀ group ∈ groups, weight group = 0 → total group = 0) :
    weightedMean (groups.map fun group => (weight group, total group / weight group)) =
      (groups.map total).sum / (groups.map weight).sum := by
  unfold weightedMean
  rw [List.map_map, List.map_map]
  congr 2
  refine List.map_congr_left fun group listed => ?_
  rcases Nat.eq_zero_or_pos (weight group) with empty | some
  · simp [empty, none group listed empty]
  · exact mul_div_cancel₀ _ (Nat.cast_ne_zero.mpr some.ne')

section Rounding

variable {round : Rat → Rat} {tolerance : Rat}

private theorem weighted_near (near : ∀ value, |round value - value| ≤ tolerance)
    (entries : List (Nat × Rat)) :
    |((entries.map fun entry => (entry.1, round entry.2)).map fun entry => (entry.1 : Rat) * entry.2).sum -
        (entries.map fun entry => (entry.1 : Rat) * entry.2).sum| ≤ (entries.map (·.1)).sum * tolerance := by
  induction entries with
  | nil => simp
  | cons entry rest ih =>
    simp only [List.map_cons, List.sum_cons, Nat.cast_add] at ih ⊢
    have weight : (0 : Rat) ≤ entry.1 := Nat.cast_nonneg _
    have first : |(entry.1 : Rat) * round entry.2 - entry.1 * entry.2| ≤ entry.1 * tolerance := by
      rw [← mul_sub, abs_mul, abs_of_nonneg weight]
      exact mul_le_mul_of_nonneg_left (near entry.2) weight
    rw [add_sub_add_comm, add_mul]
    exact (abs_add_le _ _).trans (add_le_add first ih)

theorem weightedMean_near (near : ∀ value, |round value - value| ≤ tolerance)
    (entries : List (Nat × Rat)) :
    |weightedMean (entries.map fun entry => (entry.1, round entry.2)) - weightedMean entries| ≤
      tolerance := by
  have weights : ((entries.map fun entry => (entry.1, round entry.2)).map (·.1)).sum =
      (entries.map (·.1)).sum := by
    rw [List.map_map]
    rfl
  have nonneg : 0 ≤ tolerance := (abs_nonneg _).trans (near 0)
  unfold weightedMean
  rw [weights, ← sub_div, abs_div, Nat.abs_cast]
  rcases Nat.eq_zero_or_pos (entries.map (·.1)).sum with none | some
  · rw [none, Nat.cast_zero, div_zero]
    exact nonneg
  · rw [div_le_iff₀ (Nat.cast_pos.mpr some), mul_comm]
    exact weighted_near near entries

end Rounding

section Groups

variable {α κ M : Type} [AddCommMonoid M] {weight : α → M} {items : List α}

theorem sum_filter_disjoint {first second whole : α → Bool}
    (cover : ∀ item, whole item = (first item || second item))
    (disjoint : ∀ item, first item = true → second item = false) :
    ((items.filter whole).map weight).sum =
      ((items.filter first).map weight).sum + ((items.filter second).map weight).sum := by
  induction items with
  | nil => simp
  | cons item rest ih =>
    have apart := disjoint item
    cases ofFirst : first item with
    | true =>
      rw [List.filter_cons_of_pos (by rw [cover item, ofFirst, Bool.true_or]),
        List.filter_cons_of_pos ofFirst, List.filter_cons_of_neg (by simp [apart ofFirst]),
        List.map_cons, List.map_cons, List.sum_cons, List.sum_cons, ih, add_assoc]
    | false =>
      cases ofSecond : second item with
      | true =>
        rw [List.filter_cons_of_pos (by rw [cover item, ofSecond, Bool.or_true]),
          List.filter_cons_of_neg (by simp [ofFirst]), List.filter_cons_of_pos ofSecond,
          List.map_cons, List.map_cons, List.sum_cons, List.sum_cons, ih, add_left_comm]
      | false =>
        rw [List.filter_cons_of_neg (by simp [cover item, ofFirst, ofSecond]),
          List.filter_cons_of_neg (by simp [ofFirst]), List.filter_cons_of_neg (by simp [ofSecond]),
          ih]

variable [DecidableEq κ] {group : α → Option κ}

def inGroups (group : α → Option κ) (keys : List κ) (item : α) : Bool :=
  (group item).any fun key => decide (key ∈ keys)

theorem sum_groups {keys : List κ} (distinct : keys.Nodup) :
    (keys.map fun key =>
        ((items.filter fun item => decide (group item = some key)).map weight).sum).sum =
      ((items.filter (inGroups group keys)).map weight).sum := by
  induction keys with
  | nil =>
    have none : items.filter (inGroups group []) = [] := by
      rw [List.filter_eq_nil_iff]
      intro item _
      unfold inGroups
      cases group item <;> simp
    rw [none]
    rfl
  | cons key keys ih =>
    obtain ⟨fresh, distinct⟩ := List.nodup_cons.mp distinct
    rw [List.map_cons, List.sum_cons, ih distinct]
    refine (sum_filter_disjoint (fun item => ?_) (fun item ofKey => ?_)).symm
    · unfold inGroups
      cases group item with
      | none => simp
      | some other => simp
    · unfold inGroups
      rw [of_decide_eq_true ofKey]
      exact decide_eq_false fresh

end Groups

end CogniDQ.Database
