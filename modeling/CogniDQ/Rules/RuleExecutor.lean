import Mathlib.Algebra.Order.Floor.Ring
import Mathlib.Data.Rat.Floor
import CogniDQ.Execution.ResultNormalizer
import CogniDQ.Python.Binary64

/-!
# The numbers of an execution

What an execution of a rule reports of the rows it read, and how a share of them is rounded.
-/

set_option autoImplicit false

namespace CogniDQ.Rules

open CogniDQ.Python CogniDQ.Execution

structure Counts where
  rowsScanned : Int
  rowsPassed : Int
  rowsFailed : Int
deriving DecidableEq, Repr

/-- `round(value)`: halves to the even number. -/
def roundHalfEven (value : Rat) : Int :=
  let below := ⌊value⌋
  if value - below < 1 / 2 then below
  else if 1 / 2 < value - below then below + 1
  else if below % 2 = 0 then below
  else below + 1

theorem roundHalfEven_near : Binary64.Nearest roundHalfEven := by
  intro value
  have lower := Int.floor_le value
  have upper := Int.lt_floor_add_one value
  unfold roundHalfEven
  dsimp only
  rw [abs_le]
  split_ifs <;> push_cast <;> constructor <;> linarith

theorem roundHalfEven_mono {smaller larger : Rat} (le : smaller ≤ larger) :
    roundHalfEven smaller ≤ roundHalfEven larger := by
  have floors := Int.floor_le_floor le
  have bounds : ∀ value : Rat, ⌊value⌋ ≤ roundHalfEven value ∧ roundHalfEven value ≤ ⌊value⌋ + 1 := by
    intro value
    unfold roundHalfEven
    dsimp only
    split_ifs <;> omega
  rcases floors.lt_or_eq with below | same
  · have ofSmaller := (bounds smaller).2
    have ofLarger := (bounds larger).1
    omega
  · unfold roundHalfEven
    dsimp only
    rw [same]
    have shifted : smaller - ⌊larger⌋ ≤ larger - ⌊larger⌋ := sub_le_sub_right le _
    split_ifs with down half even upper evenLarger upper upper <;> first | omega | linarith

end CogniDQ.Rules
