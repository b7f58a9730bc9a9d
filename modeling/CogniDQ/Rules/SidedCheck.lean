import CogniDQ.Rules.ValidityCheck
import CogniDQ.Sql.Sides

/-!
# Rules that count rows on two sides

Conformity, consistency and accuracy queries count the rows that meet a comparison and
the rows that do not by two conditions of their own.
-/

set_option autoImplicit false

namespace CogniDQ.Rules

open CogniDQ.Python CogniDQ.Sql

theorem chars_whereAll_congr {first second : List Phrase}
    (same : first.map Phrase.chars = second.map Phrase.chars) :
    (whereAll first).chars = (whereAll second).chars := by
  have lengths : first.isEmpty = second.isEmpty := by
    cases first <;> cases second <;> simp_all
  unfold whereAll
  rw [lengths]
  split
  · rfl
  · rw [Phrase.chars_append, Phrase.chars_append, Phrase.chars_join_congr same]

theorem admits_single {Row V : Type} {engine : Engine Row V} {row : Row} (condition : Predicate) :
    admits engine row [condition] = condition.holds engine row := by
  rw [Bool.eq_iff_iff, admits_iff]
  simp

/-- What a database makes of a query: the user's expressions it can read where they stand, the names it
takes for one, and the rows over which it can compute the comparison. A pattern has to be a regular
expression for that, and a value with a structure a document of its format. -/
structure Reader (Row : Type) where
  reads : String → Bool
  sameName : String → String → Bool
  computes : List Row → Bool

inductive SidedDimension where
  | conformity
  | consistency
  | accuracy

namespace SidedDimension

def passingKey : SidedDimension → String
  | conformity => "conforming_rows"
  | consistency => "consistent_rows"
  | accuracy => "accurate_rows"

def failingKey : SidedDimension → String
  | conformity => "non_conforming_rows"
  | consistency => "inconsistent_rows"
  | accuracy => "inaccurate_rows"

def evaluatedKey : SidedDimension → String
  | accuracy => "verified_rows"
  | _ => "total_rows"

def columns {α : Type} (all passing failing : α) : SidedDimension → List (Column α)
  | conformity =>
      [.named " as " "total_rows" (.tally (.count all)),
        .named " as " "conforming_rows" (.tally (.count passing)),
        .named " as " "non_conforming_rows" (.tally (.count failing))]
  | consistency =>
      [.named " as " "total_rows" (.tally (.count all)),
        .named " as " "consistent_rows" (.tally (.count passing)),
        .named " as " "inconsistent_rows" (.tally (.count failing))]
  | accuracy =>
      [.named " AS " "total_rows" (.tally (.count all)),
        .named " AS " "verified_rows" (.tally (.count all)),
        .named " AS " "unverifiable_rows" (.tally (.constant 0)),
        .named " AS " "accurate_rows" (.tally (.count passing)),
        .named " AS " "inaccurate_rows" (.tally (.count failing))]

def separator : SidedDimension → String
  | conformity => ",\n                "
  | _ => ", "

end SidedDimension

/-- A compiled rule of these dimensions before it is written as SQL. The text after the
columns is written around the WHERE clause. -/
structure SidedCheck where
  dimension : SidedDimension
  opening : Phrase
  sides : Sides
  closing : Phrase → Phrase
  conditions : List Predicate
  nullHandling : Value

namespace SidedCheck

variable (check : SidedCheck)

def queryOf (passing failing wherePhrase : Phrase) : Query Phrase where
  opening := check.opening
  columns := check.dimension.columns "*" (caseWhen passing) (caseWhen failing)
  separator := check.dimension.separator
  closing := check.closing wherePhrase

def query : Query Argument where
  opening := check.opening
  columns := check.dimension.columns .rows (.cases check.sides.passing) (.cases check.sides.failing)
  separator := check.dimension.separator
  closing := check.closing (whereAll (check.conditions.map Predicate.phrase))

def Renders (compiled : Compiled) : Prop :=
  compiled.query.phrase.text = (check.query.map Argument.phrase).phrase.text

theorem text_queryOf {passing failing wherePhrase : Phrase}
    (passes : check.sides.passing.phrase.chars = passing.chars)
    (fails : check.sides.failing.phrase.chars = failing.chars)
    (kept : (check.closing (whereAll (check.conditions.map Predicate.phrase))).chars =
      (check.closing wherePhrase).chars) :
    (check.queryOf passing failing wherePhrase).phrase.text =
      (check.query.map Argument.phrase).phrase.text := by
  refine Query.text_congr rfl rfl ?_ kept.symm
  unfold queryOf query Query.map
  cases check.dimension <;>
    simp [SidedDimension.columns, Column.phrase, Column.map, Column.named, Aggregate.phrase,
      Aggregate.map, Tally.phrase, Tally.map, Argument.phrase, caseWhen, passes, fails]

section Rows

variable {Row V : Type} (engine : Engine Row V)

def evaluated (rows : List Row) : List Row := engine.selected check.conditions rows

def result (rows : List Row) : Dict := check.query.row (engine.valuation (check.evaluated engine rows))

/-- The row that the query returns, if the database can answer it. -/
def answer (answers : Bool) (rows : List Row) : Option Dict :=
  if answers then some (check.result engine rows) else none

/-- Every evaluated row is counted on one side, rows that lack something on the side
the NULL handling says, and the two columns add up to the evaluated rows. -/
structure Conserves (rows : List Row) (counted : Dict) : Prop where
  counts : check.sides.CountsOnce engine (check.evaluated engine rows)
  failed : check.nullHandling.is "fail" = true → ∀ row ∈ check.evaluated engine rows,
    check.sides.lacks engine row = true → check.sides.fails engine row = true
  passed : check.nullHandling.is "pass" = true → ∀ row ∈ check.evaluated engine rows,
    check.sides.lacks engine row = true → check.sides.passes engine row = true
  passing : counted.get check.dimension.passingKey =
    .int ((check.evaluated engine rows).countP (check.sides.passes engine))
  failing : counted.get check.dimension.failingKey =
    .int ((check.evaluated engine rows).countP (check.sides.fails engine))
  total : counted.get check.dimension.evaluatedKey =
    .int ((check.evaluated engine rows).countP (check.sides.passes engine) +
      (check.evaluated engine rows).countP (check.sides.fails engine))

end Rows

/-- Rows that lack something are meant to pass under `pass` only. -/
def Suits : Prop := check.sides.cover.lenient = check.nullHandling.is "pass"

variable {check} {Row V : Type} {engine : Engine Row V}

theorem conserves_iff (made : check.sides.Made engine) (suits : check.Suits) (rows : List Row) :
    check.Conserves engine rows (check.result engine rows) ↔
      ∀ row ∈ check.evaluated engine rows, check.sides.decided engine row = true := by
  rw [← made.countsOnce_iff]
  constructor
  · exact Conserves.counts
  · intro counts
    have strict : check.nullHandling.is "fail" = true → check.sides.cover.lenient = false := by
      intro failing
      rw [suits, Value.is_iff.mp failing]
      rfl
    have length : ((check.evaluated engine rows).length : Int) =
        (check.evaluated engine rows).countP (check.sides.passes engine) +
          (check.evaluated engine rows).countP (check.sides.fails engine) := by
      exact_mod_cast counts.sum.symm
    refine ⟨counts, fun mode row member lacking => ?_, fun mode row member lacking => ?_, ?_, ?_, ?_⟩
    · have side := counts.lacking row member lacking
      rwa [strict mode] at side
    · have side := counts.lacking row member lacking
      rwa [suits, mode] at side
    · unfold result query
      cases check.dimension <;> rfl
    · unfold result query
      cases check.dimension <;> rfl
    · rw [← length, ← List.countP_true]
      unfold result query
      cases check.dimension <;> rfl

end SidedCheck

end CogniDQ.Rules
