import Mathlib.Algebra.BigOperators.Group.List.Basic
import Mathlib.Data.List.Pairwise
import Mathlib.Tactic.Common
import Mathlib.Algebra.GroupWithZero.Nat

/-!
# Grouping

Rows are grouped by an equality of their keys that need not be identity. What the sizes of
the groups of more than one row add up to is the number of rows that are not alone.
-/

set_option autoImplicit false

namespace CogniDQ.Sql

section Groups

variable {α : Type} (alike : α → α → Bool)

def representatives (rows : List α) : List α :=
  rows.pwFilter fun row other => alike row other = false

def groupSize (rows : List α) (row : α) : Nat := rows.countP (alike row)

def shared (rows : List α) (row : α) : Bool := 1 < groupSize alike rows row

/-- The sum of the sizes of the groups `HAVING COUNT(*) > 1`. -/
def repeatedCount (rows : List α) : Nat :=
  (((representatives alike rows).filter (shared alike rows)).map (groupSize alike rows)).sum

structure Equating : Prop where
  refl : ∀ row, alike row row = true
  symm : ∀ {row other}, alike row other = true → alike other row = true
  trans : ∀ {first second third}, alike first second = true → alike second third = true →
    alike first third = true

end Groups

section Sums

variable {α : Type} {alike : α → α → Bool}

theorem countP_le_one {keys : List α} (equating : Equating alike)
    (apart : keys.Pairwise fun key other => alike key other = false) (row : α) :
    (keys.countP fun key => alike key row) = if keys.any fun key => alike key row then 1 else 0 := by
  induction keys with
  | nil => rfl
  | cons key rest ih =>
      obtain ⟨first, later⟩ := List.pairwise_cons.mp apart
      rw [List.countP_cons, ih later, List.any_cons]
      cases like : alike key row with
      | false => simp
      | true =>
          have none : (rest.any fun other => alike other row) = false := by
            rw [List.any_eq_false]
            intro other member same
            have joined := equating.trans like (equating.symm same)
            rw [first other member] at joined
            cases joined
          simp [none]

theorem sum_sizes {keys : List α} (equating : Equating alike)
    (apart : keys.Pairwise fun key other => alike key other = false) (rows : List α) :
    (keys.map fun key => rows.countP (alike key)).sum =
      rows.countP fun row => keys.any fun key => alike key row := by
  induction rows with
  | nil =>
      clear apart
      induction keys with
      | nil => rfl
      | cons key keys ih => simp
  | cons row rest ih =>
      have split : (keys.map fun key => (row :: rest).countP (alike key)).sum =
          (keys.map fun key => rest.countP (alike key)).sum + keys.countP fun key => alike key row := by
        clear ih apart
        induction keys with
        | nil => rfl
        | cons key keys ih =>
            simp only [List.map_cons, List.sum_cons, List.countP_cons] at ih ⊢
            omega
      rw [split, ih, countP_le_one equating apart, List.countP_cons]

theorem groupSize_congr {rows : List α} {row other : α} (equating : Equating alike)
    (same : alike row other = true) : groupSize alike rows row = groupSize alike rows other := by
  refine List.countP_congr fun third _ => ?_
  exact ⟨equating.trans (equating.symm same), equating.trans same⟩

theorem exists_representative (equating : Equating alike) {rows : List α} {row : α}
    (member : row ∈ rows) : ∃ key ∈ representatives alike rows, alike key row = true := by
  refine Classical.byContradiction fun none => ?_
  have apart : ∀ key ∈ representatives alike rows, alike row key = false := by
    intro key chosen
    cases like : alike row key with
    | false => rfl
    | true => exact absurd ⟨key, chosen, equating.symm like⟩ none
  have split : ∀ {first second third}, alike first third = false →
      alike first second = false ∨ alike second third = false := by
    intro first second third distinct
    cases left : alike first second with
    | false => exact .inl rfl
    | true =>
        cases right : alike second third with
        | false => exact .inr rfl
        | true => exact absurd (equating.trans left right) (by rw [distinct]; decide)
  have self := (@List.forall_mem_pwFilter _ (fun row other => alike row other = false) _ split row
    rows).mp apart row member
  rw [equating.refl row] at self
  cases self

theorem repeatedCount_eq (equating : Equating alike) (rows : List α) :
    repeatedCount alike rows = rows.countP (shared alike rows) := by
  have apart : ((representatives alike rows).filter (shared alike rows)).Pairwise
      fun key other => alike key other = false :=
    (List.pairwise_pwFilter rows).filter _
  have sizes := sum_sizes equating apart rows
  refine sizes.trans (List.countP_congr fun row member => ?_)
  rw [List.any_eq_true]
  constructor
  · rintro ⟨key, kept, like⟩
    have several := (List.mem_filter.mp kept).2
    unfold shared at several ⊢
    rwa [← groupSize_congr equating like]
  · intro several
    obtain ⟨key, chosen, like⟩ := exists_representative equating member
    refine ⟨key, List.mem_filter.mpr ⟨chosen, ?_⟩, like⟩
    unfold shared at several ⊢
    rwa [groupSize_congr equating like]

theorem countP_shared_pair (refl : ∀ row, alike row row = true)
    (symm : ∀ row other, alike row other = alike other row) (row other : α) :
    [row, other].countP (shared alike [row, other]) = if alike row other then 2 else 0 := by
  unfold shared groupSize
  simp only [List.countP_cons, List.countP_nil, refl, symm other row, Nat.zero_add]
  cases alike row other <;> rfl

theorem countP_eq_iff {left right : α → Bool} (rows : List α) :
    rows.countP left = rows.countP right ↔
      (rows.countP fun row => left row && !right row) =
        rows.countP fun row => right row && !left row := by
  have balance : rows.countP left + (rows.countP fun row => right row && !left row) =
      rows.countP right + rows.countP fun row => left row && !right row := by
    induction rows with
    | nil => rfl
    | cons row rest ih =>
        simp only [List.countP_cons]
        cases left row <;> cases right row <;> simp <;> omega
  omega

end Sums

/-! ## Distinct values -/

section Distinct

variable {α : Type}

def distinctCount (alike : α → α → Bool) (values : List α) : Nat :=
  (representatives alike values).length

def commonCount (alike : α → α → Bool) (values others : List α) : Nat :=
  (representatives alike values).countP fun value => others.any (alike value)

variable {alike : α → α → Bool}

theorem apart_representatives (equating : Equating alike) {value : α} {values : List α} :
    (∀ key ∈ representatives alike values, alike value key = false) ↔
      values.any (alike value) = false := by
  rw [List.any_eq_false]
  constructor
  · intro apart other member like
    obtain ⟨key, chosen, same⟩ := exists_representative equating member
    have joined := equating.trans like (equating.symm same)
    rw [apart key chosen] at joined
    cases joined
  · intro apart key chosen
    exact Bool.eq_false_iff.mpr (apart key (List.pwFilter_subset values chosen))

theorem representatives_cons (equating : Equating alike) (value : α) (values : List α) :
    representatives alike (value :: values) =
      if values.any (alike value) then representatives alike values
      else value :: representatives alike values := by
  unfold representatives
  cases known : values.any (alike value) with
  | false => exact List.pwFilter_cons_of_pos ((apart_representatives equating).mpr known)
  | true =>
      refine List.pwFilter_cons_of_neg fun apart => ?_
      rw [(apart_representatives equating).mp apart] at known
      cases known

theorem distinctCount_append (equating : Equating alike) (values others : List α) :
    distinctCount alike values + distinctCount alike others =
      distinctCount alike (values ++ others) + commonCount alike values others := by
  unfold distinctCount commonCount
  induction values with
  | nil => simp [representatives]
  | cons value values ih =>
      rw [List.cons_append, representatives_cons equating, representatives_cons equating,
        List.any_append]
      cases values.any (alike value) with
      | true => exact ih
      | false =>
          cases common : others.any (alike value) with
          | true =>
              simp only [Bool.false_or, Bool.false_eq_true, if_false, if_true, List.length_cons,
                List.countP_cons, common]
              omega
          | false =>
              simp only [Bool.false_or, Bool.false_eq_true, if_false, List.length_cons,
                List.countP_cons, common]
              omega

theorem distinctCount_le (equating : Equating alike) {values items : List α}
    (covered : ∀ value ∈ values, items.any (alike value) = true) :
    distinctCount alike values ≤ items.length := by
  have apart := @List.pairwise_pwFilter _ (fun row other => alike row other = false) _ values
  calc distinctCount alike values
      = ((representatives alike values).map fun key => items.countP (alike key)).length :=
        List.length_map _ |>.symm
    _ ≤ ((representatives alike values).map fun key => items.countP (alike key)).sum := by
        refine List.length_le_sum_of_one_le _ fun size member => ?_
        obtain ⟨key, chosen, rfl⟩ := List.mem_map.mp member
        obtain ⟨item, present, like⟩ := List.any_eq_true.mp
          (covered key (List.pwFilter_subset values chosen))
        exact List.countP_pos_iff.mpr ⟨item, present, like⟩
    _ = items.countP fun item => (representatives alike values).any fun key => alike key item :=
        sum_sizes equating apart items
    _ ≤ items.length := List.countP_le_length

end Distinct

end CogniDQ.Sql
