import Mathlib.Algebra.Order.Floor.Ring
import Mathlib.Data.Rat.Floor
import CogniDQ.Python.Value
import CogniDQ.Sql.Phrase

/-!
# Aggregate queries

The columns of a query that returns one row of counts and rates: their SQL, and
their values once it is known how many rows each of the counted arguments has.
-/

set_option autoImplicit false

namespace CogniDQ.Sql

open CogniDQ.Python

/-- A whole number of rows: `COUNT(argument)`, a count by SQL of its own, a constant,
or a difference. -/
inductive Tally (α : Type) where
  | count (argument : α)
  | rows (written : Phrase)
  | constant (value : Nat)
  | minus (whole part : Tally α)

/-- What a column computes. A rate is a percentage rounded to two decimals, and NULL
where the whole is zero. -/
inductive Aggregate (α : Type) where
  | tally (size : Tally α)
  | rate (part whole : Tally α)
  | restRate (whole part : Tally α)
  | decimal (value : Rat) (written : String)
  | scalar (written : Phrase)

/-- `ROUND(value, 2)`: halves away from zero. -/
def round2 (value : Rat) : Rat :=
  if 0 ≤ value then (⌊value * 100 + 1 / 2⌋ : Rat) / 100
  else -((⌊-value * 100 + 1 / 2⌋ : Rat) / 100)

/-- What a database finds when it evaluates the arguments of a query. -/
structure Valuation (α : Type) where
  count : α → Nat
  rows : Phrase → Nat
  scalar : Phrase → Value

namespace Tally

variable {α β : Type}

def phrase : Tally Phrase → Phrase
  | .count argument => "COUNT(" ++ argument ++ ")"
  | .rows written => written
  | .constant value => Phrase.ofText (toString value)
  | .minus whole part => whole.phrase ++ " - " ++ part.phrase

def map (render : α → β) : Tally α → Tally β
  | .count argument => .count (render argument)
  | .rows written => .rows written
  | .constant value => .constant value
  | .minus whole part => .minus (whole.map render) (part.map render)

def value (valuation : Valuation α) : Tally α → Int
  | .count argument => valuation.count argument
  | .rows written => valuation.rows written
  | .constant value => value
  | .minus whole part => whole.value valuation - part.value valuation

end Tally

def percentage (part whole : Int) : Value :=
  if whole = 0 then .none else .float (round2 (100 * part / whole))

namespace Aggregate

variable {α β : Type}

def phrase : Aggregate Phrase → Phrase
  | .tally size => size.phrase
  | .rate part whole =>
      "ROUND(100.0 * " ++ part.phrase ++ " / NULLIF(" ++ whole.phrase ++ ", 0), 2)"
  | .restRate whole part =>
      "ROUND(100.0 * (" ++ whole.phrase ++ " -\n                    " ++ part.phrase ++
        ") /\n                    NULLIF(" ++ whole.phrase ++ ", 0), 2)"
  | .decimal _ written => Phrase.ofText written
  | .scalar written => written

def map (render : α → β) : Aggregate α → Aggregate β
  | .tally size => .tally (size.map render)
  | .rate part whole => .rate (part.map render) (whole.map render)
  | .restRate whole part => .restRate (whole.map render) (part.map render)
  | .decimal value written => .decimal value written
  | .scalar written => .scalar written

def value (valuation : Valuation α) : Aggregate α → Value
  | .tally size => .int (size.value valuation)
  | .rate part whole => percentage (part.value valuation) (whole.value valuation)
  | .restRate whole part =>
      percentage (whole.value valuation - part.value valuation) (whole.value valuation)
  | .decimal value _ => .float value
  | .scalar written => valuation.scalar written

end Aggregate

/-- A column of a query: what it computes, the key of its value in a result row, and
how the query names it. -/
structure Column (α : Type) where
  aggregate : Aggregate α
  key : String
  naming : String

namespace Column

variable {α β : Type}

def named (keyword key : String) (aggregate : Aggregate α) : Column α :=
  { aggregate, key, naming := keyword ++ key }

def map (render : α → β) (column : Column α) : Column β :=
  { column with aggregate := column.aggregate.map render }

def phrase (column : Column Phrase) : Phrase := column.aggregate.phrase ++ column.naming

end Column

/-- A query that computes columns: its text before them, between them and after. -/
structure Query (α : Type) where
  opening : Phrase
  columns : List (Column α)
  separator : String
  closing : Phrase

namespace Query

variable {α β : Type}

def map (render : α → β) (query : Query α) : Query β :=
  { query with columns := query.columns.map (Column.map render) }

def phrase (query : Query Phrase) : Phrase :=
  query.opening ++ Phrase.join query.separator (query.columns.map Column.phrase) ++ query.closing

theorem text_congr {first second : Query Phrase} (openings : first.opening.chars = second.opening.chars)
    (separators : first.separator = second.separator)
    (columns : first.columns.map (Phrase.chars ∘ Column.phrase) =
      second.columns.map (Phrase.chars ∘ Column.phrase))
    (closings : first.closing.chars = second.closing.chars) :
    first.phrase.text = second.phrase.text := by
  have joined := @Phrase.chars_join_congr first.separator (first.columns.map Column.phrase)
    (second.columns.map Column.phrase) (by simpa only [List.map_map] using columns)
  unfold phrase Phrase.text
  simp only [Phrase.chars_append]
  rw [openings, joined, closings, separators]

def row (query : Query α) (valuation : Valuation α) : Dict :=
  query.columns.map fun column => (column.key, column.aggregate.value valuation)

end Query

end CogniDQ.Sql
