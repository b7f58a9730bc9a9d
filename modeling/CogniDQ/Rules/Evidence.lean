import CogniDQ.Rules.UniquenessSemantics
import CogniDQ.Rules.ValiditySemantics

/-!
# Evidence for the counts

The violation queries of validity and uniqueness rules leave the filter out, and
look at NULLs in one way only. They return the rows that are counted exactly where
this makes no difference.
-/

set_option autoImplicit false

namespace CogniDQ.Rules

open CogniDQ.Python CogniDQ.Sql

private theorem both_answered_iff {α β : Type} {reads counts finds : Bool} {counting : α} {finding : β}
    {property : α → β → Prop} :
    (∃ counted found, (if reads && counts then some counting else none) = some counted ∧
        (if finds then some finding else none) = some found ∧ property counted found) ↔
      reads = true ∧ counts = true ∧ finds = true ∧ property counting finding := by
  cases reads <;> cases counts <;> cases finds <;> simp

section Example

private def regionParameters : Dict :=
  [("validation_type", .str "range"), ("min_value", .int 18), ("filter_expression", .str "region = 1")]

private def regional : Engine (List (String × Int)) Int :=
  wholeNumbers fun row => (row.lookup "region").map (· == 1)

private def regionCheck : ValidityCheck :=
  validityCheckOf regionParameters (tableSource (name "customers"))
    (rangeTest "age" (boundTest "age" .greaterEqual "18") [])

private def minor (region : Int) : List (String × Int) := [("age", 12), ("region", region)]

private def allRows (_ : List (List (String × Int))) : Bool := true

end Example

end CogniDQ.Rules
