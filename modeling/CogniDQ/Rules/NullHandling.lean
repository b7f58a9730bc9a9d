import CogniDQ.Rules.AccuracySides
import CogniDQ.Rules.Compiler
import CogniDQ.Rules.ConformitySides

/-!
# NULL handling on two sides

Conformity, consistency and accuracy rules count a row twice, never or once. They count
it once exactly where the comparison they are made of is decided.
-/

set_option autoImplicit false

namespace CogniDQ.Rules

open CogniDQ.Python CogniDQ.Sql

/-- The table is taken for the statistics that an accuracy query makes. -/
def Reader.hides {Row : Type} (reader : Reader Row) (table : Phrase) : Bool :=
  match table.segments with
  | [.name identifier] => reader.sameName identifier "stats"
  | _ => false

/-- The rule compares within the rows of its table. -/
inductive CanonicalRule.Sided {Row : Type} (rule : CanonicalRule) (reader : Reader Row)
    (table : Phrase) : Prop where
  | conformity (dimension : rule.dimension = .str "conformity")
  | consistency (dimension : rule.dimension = .str "consistency") {type : String}
      (chosen : consistencyType rule.parameters = .str type) (within : type ∈ rowTypes)
  | accuracy (dimension : rule.dimension = .str "accuracy") {type : String}
      (chosen : accuracyType rule.parameters = .str type) (within : type ∈ tableTypes)
      (shown : type = "statistical" → reader.hides table = false)

/-- The query is closed, and the expressions and operators in it are such as filters are made of. -/
structure Compiled.Legible (runtime : Runtime) (compiled : Compiled) : Prop where
  closed : compiled.query.phrase.closed = true
  vetted : ∀ spliced ∈ compiled.query.phrase.spliced,
    validateFilterExpression runtime.toUnicode spliced.toList = true

/-- The query is the text of the check, and is read as it is meant. -/
structure SidedCheck.ReadsAs (runtime : Runtime) (check : SidedCheck) (compiled : Compiled) : Prop where
  renders : check.Renders compiled
  legible : compiled.Legible runtime

section Rows

variable {Row : Type} (runtime : Runtime) (reader : Reader Row)

/-- The check of a rule, and whether each name in its query stands for one column. -/
inductive SidedRule (table : Phrase) (column : String) (parameters : Dict) (compiled : Compiled) :
    SidedCheck → Bool → Prop where
  | conformity {chosen : Value} {sides : Sides} (first : conformityColumn column parameters = .ok chosen)
      (mode : ConformityMode parameters (runtime.str chosen) sides)
      (reads : (conformityCheckOf runtime table chosen parameters sides).ReadsAs runtime compiled) :
      SidedRule table column parameters compiled
        (conformityCheckOf runtime table chosen parameters sides) true
  | consistency {type : String} {columns : List String} {sides : Sides}
      (mode : ConsistencyMode runtime parameters column type sides)
      (reads : (consistencyCheckOf runtime table parameters columns sides).ReadsAs runtime compiled) :
      SidedRule table column parameters compiled
        (consistencyCheckOf runtime table parameters columns sides) true
  | accuracy {type : String} {opening source : Phrase} {sides : Sides}
      (mode : AccuracyMode runtime parameters column type sides)
      (reads : (accuracyCheckOf runtime parameters opening source column sides).ReadsAs runtime compiled) :
      SidedRule table column parameters compiled
        (accuracyCheckOf runtime parameters opening source column sides)
        (!ambiguous parameters reader.sameName column type)

end Rows

/-- Whether the query is answered, by the rows it evaluates. -/
def Reader.answers {Row : Type} (reader : Reader Row) (compiled : Compiled) (distinct : Bool)
    (evaluated : List Row) : Bool :=
  compiled.query.phrase.spliced.all reader.reads && distinct && reader.computes evaluated

theorem SidedCheck.answered_conserves_iff {Row V : Type} {check : SidedCheck} {engine : Engine Row V}
    {answers : Bool} (made : check.sides.Made engine) (suits : check.Suits) (rows : List Row) :
    (∃ counted, check.answer engine answers rows = some counted ∧
        check.Conserves engine rows counted) ↔
      answers = true ∧ ∀ row ∈ check.evaluated engine rows, check.sides.decided engine row = true :=
  answered_iff.trans (and_congr_right' (SidedCheck.conserves_iff made suits rows))

/-- NULL handling counts each evaluated row once, and on the side the mode says, exactly if the query
can be answered and every comparison it is left to is decided: all its operands are there, and none is
divided by that is zero. -/
theorem compileRule_conserves_iff {Row V : Type} {runtime : Runtime} {rule : CanonicalRule}
    {targetSchema targetTable : String} {targetColumns : List String} {compiled : Compiled}
    (success : compileRule runtime rule targetSchema targetTable targetColumns = .ok (.compiled compiled))
    {reader : Reader Row} (sided : rule.Sided reader (rule.table targetSchema targetTable))
    (legible : compiled.Legible runtime) (engine : Engine Row V) (rows : List Row) :
    ∃ check distinct, SidedRule runtime reader (rule.table targetSchema targetTable)
        (rule.column targetColumns) rule.parameters compiled check distinct ∧
      let evaluated := check.evaluated engine rows
      ((∃ counted, check.answer engine (reader.answers compiled distinct evaluated) rows = some counted ∧
          check.Conserves engine rows counted) ↔
        reader.answers compiled distinct evaluated = true ∧
          ∀ row ∈ evaluated, check.sides.decided engine row = true) := by
  cases sided with
  | conformity dimension =>
      simp only [compileRule, dimension] at success
      obtain ⟨chosen, first, sides, mode, renders, suits⟩ := compileConformityRule_check success
      exact ⟨_, _, .conformity first mode ⟨renders, legible⟩,
        SidedCheck.answered_conserves_iff mode.made suits rows⟩
  | consistency dimension chosen within =>
      simp only [compileRule, dimension] at success
      obtain ⟨columns, sides, mode, renders, suits⟩ :=
        compileConsistencyRule_check success chosen within
      exact ⟨_, _, .consistency mode ⟨renders, legible⟩,
        SidedCheck.answered_conserves_iff mode.made suits rows⟩
  | accuracy dimension chosen within shown =>
      simp only [compileRule, dimension] at success
      obtain ⟨opening, source, sides, mode, renders, suits⟩ :=
        compileAccuracyRule_check success chosen within
      exact ⟨_, _, .accuracy mode ⟨renders, legible⟩,
        SidedCheck.answered_conserves_iff mode.made suits rows⟩

section Example

/-- An order is not shipped before it is placed; what is not shipped fails. -/
private def shippingRule : CanonicalRule where
  dimension := .str "consistency"
  entity := "orders.shipped"
  condition := .none
  parameters := [("comparison_column", .str "placed"), ("null_handling", .str "fail")]

private def shippingCheck : SidedCheck :=
  consistencyCheckOf Runtime.ascii (name "orders") shippingRule.parameters []
    (temporalSides shippingRule.parameters "shipped" "placed" .greaterEqual)

private def orders : Engine (List (String × Int)) Int := wholeNumbers fun _ => some true

private def orderReader : Reader (List (String × Int)) := ⟨fun _ => true, (· == ·), fun _ => true⟩

/-- One order shipped after it was placed, and one before. -/
private def shipped : List (List (String × Int)) :=
  [[("placed", 1), ("shipped", 3)], [("placed", 4), ("shipped", 2)]]

theorem shipped_conserves :
    ∃ compiled check distinct,
      compileRule Runtime.ascii shippingRule "" "orders" ["shipped"] = .ok (.compiled compiled) ∧
        SidedRule Runtime.ascii orderReader (name "orders") "shipped" shippingRule.parameters
            compiled check distinct ∧
          let evaluated := check.evaluated orders shipped
          ((∃ counted, check.answer orders (orderReader.answers compiled distinct evaluated) shipped =
              some counted ∧ check.Conserves orders shipped counted) ↔
            orderReader.answers compiled distinct evaluated = true ∧
              ∀ row ∈ evaluated, check.sides.decided orders row = true) := by
  have compiles : ∃ compiled,
      compileRule Runtime.ascii shippingRule "" "orders" ["shipped"] = .ok (.compiled compiled) ∧
        compiled.Legible Runtime.ascii :=
    ⟨_, rfl, by decide +kernel, by decide +kernel⟩
  obtain ⟨compiled, success, legible⟩ := compiles
  obtain ⟨check, distinct, shape, conserves⟩ := compileRule_conserves_iff success
    (.consistency rfl rfl (by decide)) legible orders shipped
  exact ⟨compiled, check, distinct, success, shape, conserves⟩

/-- An order that is not shipped is counted on neither side. -/
theorem unshipped_lost :
    (∃ compiled distinct,
      compileRule Runtime.ascii shippingRule "" "orders" ["shipped"] = .ok (.compiled compiled) ∧
        SidedRule Runtime.ascii orderReader (name "orders") "shipped" shippingRule.parameters
          compiled shippingCheck distinct) ∧
    shippingCheck.answer orders true [[("placed", 1)]] =
      some [("total_rows", .int 1), ("consistent_rows", .int 0), ("inconsistent_rows", .int 0)] ∧
    ¬ ∃ counted, shippingCheck.answer orders true [[("placed", 1)]] = some counted ∧
      shippingCheck.Conserves orders [[("placed", 1)]] counted := by
  refine ⟨⟨_, _, rfl, .consistency (.temporal "placed" .greaterEqual) ⟨rfl, ?_, ?_⟩⟩, rfl, ?_⟩
  · decide +kernel
  · decide +kernel
  · rintro ⟨counted, _, conserves⟩
    have evaluated : [("placed", 1)] ∈ shippingCheck.evaluated orders [[("placed", 1)]] := by
      decide +kernel
    exact absurd (conserves.counts.once _ evaluated) (by decide +kernel)

end Example

end CogniDQ.Rules
