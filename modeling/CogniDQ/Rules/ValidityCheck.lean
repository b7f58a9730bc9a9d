import CogniDQ.Rules.Validity
import CogniDQ.Sql.Predicate

/-!
# Validity rules as checks

The query a validity rule compiles to, with its conditions as trees. Every compiled
rule is the text of a check of its validation type.
-/

set_option autoImplicit false

namespace CogniDQ.Rules

open CogniDQ.Python CogniDQ.Sql

def filterCondition (runtime : Runtime) (filter : Value) : List Predicate :=
  if filter.truthy then [.paren (.atom (.supplied (runtime.str filter)))] else []

theorem phrase_filterCondition (runtime : Runtime) (filter : Value) :
    (filterCondition runtime filter).map Predicate.phrase = filterPart runtime filter := by
  unfold filterCondition filterPart
  split <;> rfl

private theorem whereClause_filterCondition (runtime : Runtime) (filter : Value) :
    whereAll ((filterCondition runtime filter).map Predicate.phrase) =
      whereClause runtime filter none := by
  rw [phrase_filterCondition]
  simp [whereClause]

/-- A filter is spliced in unqualified: behind a join the database has to find each of its columns in
the checked table only. -/
def filterRead (runtime : Runtime) (filter : Value) (reads : String → Bool) : Bool :=
  !filter.truthy || reads (runtime.str filter)

/-- What a database makes of a join: the filters that it can read behind it, and whether it compares the
type of the checked column with that of the joined one. -/
structure Joining where
  reads : String → Bool
  compares : Bool

def Joining.answers (joining : Joining) (runtime : Runtime) (filter : Value) : Bool :=
  filterRead runtime filter joining.reads && joining.compares

theorem answered_iff {α : Type} {answers : Bool} {answer : α} {property : α → Prop} :
    (∃ found, (if answers then some answer else none) = some found ∧ property found) ↔
      answers = true ∧ property answer := by
  cases answers <;> simp

structure RowTest where
  holds : Predicate
  alone : Predicate := holds
  fails : Predicate
  isNull : Predicate
  isNotNull : Predicate

def RowTest.phrase (test : RowTest) : ValidityTest where
  holds := test.holds.phrase
  alone := test.alone.phrase
  fails := test.fails.phrase
  isNull := test.isNull.phrase
  isNotNull := test.isNotNull.phrase

/-- A compiled validity rule before it is written as SQL. -/
structure ValidityCheck where
  source : ValiditySource
  test : RowTest
  nullHandling : Value
  filter : Value

namespace ValidityCheck

variable (runtime : Runtime) (check : ValidityCheck)

def passes : Bool := check.nullHandling.is "pass"

def skips : Bool := check.nullHandling.is "skip"

def totalArgument : Argument :=
  if check.skips then .cases check.test.isNotNull else .rows

def validArgument : Argument :=
  if check.passes then .cases (.or check.test.holds check.test.isNull)
  else if check.skips then .cases (.and check.test.isNotNull check.test.holds)
  else .cases check.test.alone

def invalidArgument : Argument :=
  if check.passes || check.skips then .cases (.and check.test.isNotNull check.test.fails)
  else .cases (.or check.test.fails check.test.isNull)

def skippedArgument : Option Argument :=
  if check.skips then some (.cases check.test.isNull) else none

def query : Query Argument where
  opening := check.source.before ++ "SELECT\n                "
  columns :=
    [.named " as " "total_rows" (.tally (.count check.totalArgument)),
      .named " as " "valid_rows" (.tally (.count check.validArgument)),
      .named " as " "invalid_rows" (.tally (.count check.invalidArgument)),
      .named " as " "validity_rate" (.rate (.count check.validArgument) (.count check.totalArgument))] ++
    (check.skippedArgument.map fun argument =>
      Column.named " as " "skipped_rows" (.tally (.count argument))).toList
  separator := ",\n                "
  closing := "\n            FROM " ++ check.source.tables ++ "\n            " ++
    whereAll ((filterCondition runtime check.filter).map Predicate.phrase)

def violation : Predicate := .or check.test.fails check.test.isNull

/-- Whether the query returns a row, by the filters that the database reads behind a join. -/
def answers (reads : String → Bool) : Bool :=
  check.source.star == "*" || filterRead runtime check.filter reads

structure Renders (compiled : Compiled) : Prop where
  query : compiled.query = (check.query runtime).map Argument.phrase
  violation : compiled.violation = check.source.before ++ "SELECT " ++ check.source.star ++
    "\n            FROM " ++ check.source.tables ++ "\n            WHERE " ++ check.violation.phrase

/-- The texts are those of the check, and end where they are meant to. -/
structure ReadsAs (compiled : Compiled) : Prop where
  renders : check.Renders runtime compiled
  closed : compiled.closed = true

variable {runtime check}

theorem map_query : (check.query runtime).map Argument.phrase =
    validityQuery check.source check.test.phrase check.nullHandling
      (whereClause runtime check.filter none) := by
  have total : check.totalArgument.phrase = check.test.phrase.totalArgument check.nullHandling := by
    unfold totalArgument ValidityTest.totalArgument skips
    split <;> rfl
  have valid : check.validArgument.phrase = check.test.phrase.validCase check.nullHandling := by
    unfold validArgument ValidityTest.validCase passes skips
    split
    · rfl
    · split <;> rfl
  have invalid : check.invalidArgument.phrase = check.test.phrase.invalidCase check.nullHandling := by
    unfold invalidArgument ValidityTest.invalidCase passes skips
    split <;> rfl
  have skipped : check.skippedArgument.map Argument.phrase =
      check.test.phrase.skippedArgument check.nullHandling := by
    unfold skippedArgument ValidityTest.skippedArgument skips
    split <;> rfl
  unfold validityQuery validityColumns Query.map query
  rw [← total, ← valid, ← invalid, ← skipped, whereClause_filterCondition]
  cases check.skippedArgument <;> rfl

theorem renders_of_validityCompiled {parameters : Dict} {source : ValiditySource} {test : RowTest}
    {written : ValidityTest} {forMysql : String → String} {compiled : Compiled}
    (same : test.phrase = written)
    (success : validityCompiled runtime parameters source written forMysql = .compiled compiled) :
    Renders runtime
      { source, test, nullHandling := parameters.getD "null_handling" (.str "fail")
        filter := parameters.get "filter_expression" } compiled := by
  subst same
  obtain rfl := Outcome.compiled.inj success
  constructor
  · rw [map_query]
  · simp only [validityViolation, violation, Predicate.phrase, RowTest.phrase, Phrase.append_assoc]

end ValidityCheck

/-! ## The validation types -/

section Types

def cellTest (column : String) (holds alone fails : Predicate) : RowTest where
  holds := holds
  alone := alone
  fails := fails
  isNull := .atom (.isNull (.cell column))
  isNotNull := .atom (.isNotNull (.cell column))

/-- The column behind `t`, the alias of the checked table. -/
def Expr.checked (column : String) : Expr := .column ⟨"t", column⟩

def joinedTest (column : String) (holds fails : Predicate) : RowTest where
  holds := holds
  fails := fails
  isNull := .atom (.isNull (Expr.checked column))
  isNotNull := .atom (.isNotNull (Expr.checked column))

def regexTest (column pattern : String) : RowTest :=
  let holds := Predicate.atom (.compare .regex (.cell column) (.literal pattern pattern))
  cellTest column holds holds (.atom (.compare .notRegex (.cell column) (.literal pattern pattern)))

def boundTest (column : String) (comparison : Comparison) (bound : String) : Predicate :=
  .atom (.compare comparison (.cell column) (.raw bound))

def rangeTest (column : String) (first : Predicate) (rest : List Predicate) : RowTest :=
  let range := Predicate.allOf first rest
  cellTest column (.paren range) range (.notParen range)

def allowedTest (column : String) (caseSensitive : Bool) (values : List (String × String)) : RowTest :=
  let subject := if caseSensitive then Expr.cell column else .unary "LOWER(" ")" (.cell column)
  let holds := Predicate.atom (.oneOf subject values)
  cellTest column holds holds (.atom (.notOneOf subject values))

def comparisonTest (column other : String) (cast : Expr → Expr) (comparison : Comparison) : RowTest :=
  let compared := Predicate.atom (.chosen comparison (cast (.cell column)) (cast (.cell other)))
  { holds := .paren compared, fails := .notParen compared
    isNull := .eitherNull (.cell column) (.cell other)
    isNotNull := .not (.eitherNull (.cell column) (.cell other)) }

def lookupTest (column found : String) : RowTest :=
  joinedTest column (.atom (.isNotNull (.column ⟨"ref", found⟩)))
    (.atom (.isNull (.column ⟨"ref", found⟩)))

def listedTest (column : String) : RowTest :=
  joinedTest column (.atom (.ownIsNotNull "ref_values.val")) (.atom (.ownIsNull "ref_values.val"))

def businessTest (column expression : String) : RowTest :=
  let holds := Predicate.paren (.atom (.supplied expression))
  cellTest column holds holds (.not holds)

def negativeTest (column expression : String) : RowTest :=
  let fails := Predicate.paren (.atom (.supplied expression))
  cellTest column (.not fails) (.not fails) fails

variable (runtime : Runtime) (column : String) (parameters : Dict)

def rangeBounds : List Predicate :=
  (if (parameters.get "min_value").isNone then []
    else [boundTest column .greaterEqual (runtime.str (parameters.get "min_value"))]) ++
  (if (parameters.get "max_value").isNone then []
    else [boundTest column .lessEqual (runtime.str (parameters.get "max_value"))])

def allowedPair (caseSensitive : Bool) (value : Value) : String × String :=
  let sanitized := String.ofList (doubleQuotes (runtime.str value).toList)
  if caseSensitive then (runtime.str value, sanitized)
  else (runtime.lowerStr (runtime.str value), runtime.lowerStr sanitized)

/-- The test of each validation type, over the rows of the table or of a join. -/
inductive ValidityMode : String → RowTest → Prop where
  | regex (pattern : String) : ValidityMode "regex" (regexTest column pattern)
  | range {first : Predicate} {rest : List Predicate}
      (bounds : rangeBounds runtime column parameters = first :: rest) :
      ValidityMode "range" (rangeTest column first rest)
  | allowed (caseSensitive : Bool) (values : List (String × String)) :
      ValidityMode "allowed_values" (allowedTest column caseSensitive values)
  | listed {values : List Value}
      (elements : (parameters.getD "allowed_values" (.list [])).elements = .ok values)
      (many : 1000 < values.length) : ValidityMode "allowed_values" (listedTest column)
  | lookup (found : String) : ValidityMode "reference_lookup" (lookupTest column found)
  | business (expression : String) : ValidityMode "business_rule" (businessTest column expression)
  | crossField (other : String) (comparison : Comparison) :
      ValidityMode "cross_field" (comparisonTest column other (fun operand => operand) comparison)
  | dateLogic (other : String) (comparison : Comparison) :
      ValidityMode "date_logic"
        (comparisonTest column other (.unary "CAST(" " AS DATE)") comparison)
  | negative (expression : String) : ValidityMode "negative" (negativeTest column expression)

end Types

/-! ## Every compiled rule is a check -/

section Inversion

variable {runtime : Runtime} {table : Phrase} {column : String} {parameters : Dict}
  {compiled : Compiled}

def validityCheckOf (parameters : Dict) (source : ValiditySource) (test : RowTest) : ValidityCheck where
  source := source
  test := test
  nullHandling := parameters.getD "null_handling" (.str "fail")
  filter := parameters.get "filter_expression"

def IsValidityCheck (runtime : Runtime) (column : String) (parameters : Dict) (type : String)
    (compiled : Compiled) : Prop :=
  ∃ source test, ValidityMode runtime column parameters type test ∧
    (validityCheckOf parameters source test).Renders runtime compiled

theorem isValidityCheck_of_mode {type : String} {source : ValiditySource} {test : RowTest}
    {written : ValidityTest} {forMysql : String → String}
    (mode : ValidityMode runtime column parameters type test) (same : test.phrase = written)
    (success : validityCompiled runtime parameters source written forMysql = .compiled compiled) :
    IsValidityCheck runtime column parameters type compiled :=
  ⟨source, test, mode, ValidityCheck.renders_of_validityCompiled same success⟩

private theorem validityRegex_check
    (success : validityRegex runtime table column parameters = .ok (.compiled compiled)) :
    IsValidityCheck runtime column parameters "regex" compiled :=
  isValidityCheck_of_mode (.regex _) rfl (Except.ok.inj success)

private theorem phrase_rangeBounds : (rangeBounds runtime column parameters).map Predicate.phrase =
    (if (parameters.get "min_value").isNone then []
      else [name column ++ " >= " ++ raw (runtime.str (parameters.get "min_value"))]) ++
    (if (parameters.get "max_value").isNone then []
      else [name column ++ " <= " ++ raw (runtime.str (parameters.get "max_value"))]) := by
  unfold rangeBounds
  split <;> split <;> rfl

private theorem validityRange_check
    (success : validityRange runtime table column parameters = .ok (.compiled compiled)) :
    IsValidityCheck runtime column parameters "range" compiled := by
  unfold validityRange at success
  dsimp only at success
  split at success
  · cases success
  · rename_i given
    cases bounds : rangeBounds runtime column parameters with
    | nil =>
        simp only [rangeBounds, List.append_eq_nil_iff] at bounds
        simp_all
    | cons first rest =>
        refine isValidityCheck_of_mode (.range bounds) ?_ (Except.ok.inj success)
        have joined := Predicate.phrase_allOf first rest
        rw [← bounds, phrase_rangeBounds] at joined
        rw [← joined]
        rfl

theorem phrase_literalList (caseSensitive : Bool) (values : List Value) :
    literalList (values.map (allowedPair runtime caseSensitive)) =
      Phrase.join ", " (values.map (allowedValue runtime caseSensitive)) := by
  unfold literalList
  rw [List.map_map]
  congr 1
  refine List.map_congr_left fun value _ => ?_
  cases caseSensitive <;> rfl

theorem phrase_allowedTest (caseSensitive : Bool) (values : List Value) :
    let subject : Phrase :=
      if caseSensitive then name column else "LOWER(" ++ name column ++ ")"
    let listed := Phrase.join ", " (values.map (allowedValue runtime caseSensitive))
    (allowedTest column caseSensitive (values.map (allowedPair runtime caseSensitive))).phrase =
      columnTest column (subject ++ " IN (" ++ listed ++ ")") (subject ++ " IN (" ++ listed ++ ")")
        (subject ++ " NOT IN (" ++ listed ++ ")") := by
  intro subject listed
  simp only [listed, ← phrase_literalList]
  cases caseSensitive <;> rfl

private theorem validityAllowedValues_check
    (success : validityAllowedValues runtime table column parameters = .ok (.compiled compiled)) :
    IsValidityCheck runtime column parameters "allowed_values" compiled := by
  simp only [validityAllowedValues] at success
  split at success
  · cases success
  · obtain ⟨values, elements, success⟩ := bind_eq_ok success
    split at success
    · rename_i many
      exact isValidityCheck_of_mode (.listed elements many) rfl (Except.ok.inj success)
    · exact isValidityCheck_of_mode (.allowed _ _) (phrase_allowedTest _ values)
        (Except.ok.inj success)

private theorem validityReferenceLookup_check
    (success : validityReferenceLookup runtime table column parameters = .ok (.compiled compiled)) :
    IsValidityCheck runtime column parameters "reference_lookup" compiled := by
  simp only [validityReferenceLookup] at success
  split at success
  · cases success
  · obtain ⟨dataset, _, success⟩ := bind_eq_ok success
    split at success
    · cases success
    · obtain ⟨found, _, success⟩ := bind_eq_ok success
      split at success
      · cases success
      · exact isValidityCheck_of_mode (.lookup _) rfl (Except.ok.inj success)

private theorem validityBusinessRule_check
    (success : validityBusinessRule runtime table column parameters = .ok (.compiled compiled)) :
    IsValidityCheck runtime column parameters "business_rule" compiled := by
  simp only [validityBusinessRule] at success
  split at success
  · cases success
  · obtain ⟨accepted, _, success⟩ := bind_eq_ok success
    split at success
    · cases success
    · exact isValidityCheck_of_mode (.business _) rfl (Except.ok.inj success)

private theorem validityNegative_check
    (success : validityNegative runtime table column parameters = .ok (.compiled compiled)) :
    IsValidityCheck runtime column parameters "negative" compiled := by
  simp only [validityNegative] at success
  split at success
  · cases success
  · obtain ⟨accepted, _, success⟩ := bind_eq_ok success
    split at success
    · cases success
    · exact isValidityCheck_of_mode (.negative _) rfl (Except.ok.inj success)

private theorem comparison_of_operator {operator : String}
    (valid : validComparisonOperators.contains operator = true) :
    ∃ comparison : Comparison, comparison.operator = operator := by
  simp only [validComparisonOperators, List.contains_eq_mem, List.mem_cons, List.not_mem_nil,
    or_false, decide_eq_true_eq] at valid
  obtain rfl | rfl | rfl | rfl | rfl | rfl := valid
  · exact ⟨.notEqual, rfl⟩
  · exact ⟨.less, rfl⟩
  · exact ⟨.lessEqual, rfl⟩
  · exact ⟨.equal, rfl⟩
  · exact ⟨.greater, rfl⟩
  · exact ⟨.greaterEqual, rfl⟩

private theorem validityComparison_check {requires default type : String} {cast : Phrase → Phrase}
    {castExpr : Expr → Expr} (casts : ∀ operand, (castExpr operand).phrase = cast operand.phrase)
    (mode : ∀ other comparison, ValidityMode runtime column parameters type
      (comparisonTest column other castExpr comparison))
    (success : validityComparison runtime table column parameters requires default cast =
      .ok (.compiled compiled)) :
    IsValidityCheck runtime column parameters type compiled := by
  unfold validityComparison at success
  dsimp only at success
  split at success
  · cases success
  · split at success
    · cases success
    · rename_i known
      obtain ⟨comparison, same⟩ := comparison_of_operator (by simpa using known)
      rw [← same] at success
      refine isValidityCheck_of_mode
        (mode (runtime.str (parameters.get "comparison_column")) comparison) ?_
        (Except.ok.inj success)
      simp only [RowTest.phrase, comparisonTest, Predicate.phrase, Atomic.phrase, casts]
      rfl

theorem compileValidityRule_check
    (success : compileValidityRule runtime table column parameters = .ok (.compiled compiled)) :
    ∃ type, parameters.getD "validation_type" (.str (inferValidationType parameters)) = .str type ∧
      rejects runtime (parameters.get "filter_expression") = .ok false ∧
        IsValidityCheck runtime column parameters type compiled := by
  obtain ⟨known, found, success⟩ := bind_eq_ok success
  obtain ⟨member, success⟩ := check_passed success
  have valid : known = true := by simpa using member
  obtain ⟨type, listed, chosen⟩ := Value.eq_str_of_memberOf (valid ▸ found)
  obtain ⟨rejected, passed, success⟩ := bind_eq_ok success
  obtain ⟨accepted, success⟩ := check_passed success
  refine ⟨type, chosen, eq_false_of_ne_true accepted ▸ passed, ?_⟩
  have named {name : String} : (Value.str type).is name = true ↔ type = name := by simp [Value.is]
  rw [chosen] at success
  rcases ite_eq_iff.mp success with ⟨same, success⟩ | ⟨allowedValues, success⟩
  · exact named.mp same ▸ validityAllowedValues_check success
  rcases ite_eq_iff.mp success with ⟨same, success⟩ | ⟨range, success⟩
  · exact named.mp same ▸ validityRange_check success
  rcases ite_eq_iff.mp success with ⟨same, success⟩ | ⟨regex, success⟩
  · exact named.mp same ▸ validityRegex_check success
  rcases ite_eq_iff.mp success with ⟨same, success⟩ | ⟨lookup, success⟩
  · exact named.mp same ▸ validityReferenceLookup_check success
  rcases ite_eq_iff.mp success with ⟨same, success⟩ | ⟨business, success⟩
  · exact named.mp same ▸ validityBusinessRule_check success
  rcases ite_eq_iff.mp success with ⟨same, success⟩ | ⟨crossField, success⟩
  · exact named.mp same ▸ validityComparison_check (fun _ => rfl) .crossField success
  rcases ite_eq_iff.mp success with ⟨same, success⟩ | ⟨dateLogic, success⟩
  · exact named.mp same ▸ validityComparison_check (fun _ => rfl) .dateLogic success
  · obtain rfl : type = "negative" := by
      rw [named] at allowedValues range regex lookup business crossField dateLogic
      simp only [validValidationTypes] at listed
      simp_all
    exact validityNegative_check success

end Inversion

end CogniDQ.Rules
