import CogniDQ.Rules.ValidityCheck

/-!
# What the validity queries count

The rows behind the counts of a validity query. The counts divide the selected rows
where the test of a row is unknown only if a compared column is NULL.
-/

set_option autoImplicit false

namespace CogniDQ.Rules

open CogniDQ.Python CogniDQ.Sql

namespace RowTest

variable {Row V : Type} (engine : Engine Row V) (test : RowTest)

/-- The tests for NULL are definite, and the negation of each other. -/
def TestsNull : Prop := ∀ row, ∃ absent,
  test.isNull.eval engine row = some absent ∧ test.isNotNull.eval engine row = some !absent

/-- The test is unknown where a compared column is NULL. -/
structure Strict : Prop where
  testsNull : test.TestsNull engine
  holds : ∀ row, test.holds.eval engine row = test.alone.eval engine row
  fails : ∀ row, test.fails.eval engine row = (test.alone.eval engine row).not
  unknown : ∀ row, test.isNull.holds engine row = true → (test.alone.eval engine row).isSome = false

end RowTest

namespace ValidityCheck

variable {Row V : Type}

section Counting

variable (runtime : Runtime) (engine : Engine Row V) (check : ValidityCheck)

def selected (rows : List Row) : List Row :=
  engine.selected (filterCondition runtime check.filter) rows

def result (rows : List Row) : Dict :=
  (check.query runtime).row (engine.valuation (check.selected runtime engine rows))

def countsValid (row : Row) : Bool := check.validArgument.holds engine row

def countsInvalid (row : Row) : Bool := check.invalidArgument.holds engine row

def countsSkipped (row : Row) : Bool :=
  check.skippedArgument.any fun argument => argument.holds engine row

def lacks (row : Row) : Bool := check.test.isNull.holds engine row

def knows (row : Row) : Bool := (check.test.alone.eval engine row).isSome

/-- The test of a selected row is unknown only where a compared column is NULL. -/
def Decided (rows : List Row) : Prop :=
  ∀ row ∈ check.selected runtime engine rows, check.lacks engine row = false →
    check.knows engine row = true

/-- The row that the query returns, by the rows over which the database can compute the test: over a
pattern that is no regular expression it cannot. -/
def answer (computes : List Row → Bool) (rows : List Row) : Option Dict :=
  if computes (check.selected runtime engine rows) then some (check.result runtime engine rows) else none

/-- The division of the selected rows, and the columns that count its parts. -/
structure Partitions (rows : List Row) (counted : Dict) : Prop where
  once : ∀ row ∈ check.selected runtime engine rows,
    [check.countsValid engine row, check.countsInvalid engine row, check.countsSkipped engine row].count
      true = 1
  tested : ∀ row ∈ check.selected runtime engine rows, check.lacks engine row = false →
    check.countsValid engine row = check.test.alone.holds engine row
  skipping : check.skips = false → ∀ row, check.countsSkipped engine row = false
  passed : check.passes = true → ∀ row ∈ check.selected runtime engine rows,
    check.lacks engine row = true → check.countsValid engine row = true
  skipped : check.skips = true → ∀ row ∈ check.selected runtime engine rows,
    check.lacks engine row = true → check.countsSkipped engine row = true
  failed : check.passes = false → check.skips = false → ∀ row ∈ check.selected runtime engine rows,
    check.lacks engine row = true → check.countsInvalid engine row = true
  valid : counted.get "valid_rows" =
    .int ((check.selected runtime engine rows).countP (check.countsValid engine))
  invalid : counted.get "invalid_rows" =
    .int ((check.selected runtime engine rows).countP (check.countsInvalid engine))
  skippedRows : check.skips = true → counted.get "skipped_rows" =
    .int ((check.selected runtime engine rows).countP (check.countsSkipped engine))
  total : counted.get "total_rows" =
    .int ((check.selected runtime engine rows).countP (check.countsValid engine) +
      (check.selected runtime engine rows).countP (check.countsInvalid engine))

def invalidRows (rows : List Row) : List Row :=
  (check.selected runtime engine rows).filter (check.countsInvalid engine)

/-- The rows that the query counts as invalid, if it returns a row. -/
def countedRows (reads : String → Bool) (computes : List Row → Bool) (rows : List Row) :
    Option (List Row) :=
  if check.answers runtime reads && computes (check.selected runtime engine rows) then
    some (check.invalidRows runtime engine rows)
  else none

def violates (row : Row) : Bool := check.violation.holds engine row

def violationRows (rows : List Row) : List Row := rows.filter (check.violates engine)

/-- What the violation query returns: it tests every row of the table. -/
def foundRows (computes : List Row → Bool) (rows : List Row) : Option (List Row) :=
  if computes rows then some (check.violationRows engine rows) else none

/-- When the violation query returns the rows that are counted: the filter keeps every
row that fails or has a NULL, and where NULLs pass or are skipped there are none. -/
structure Exact (rows : List Row) : Prop where
  inFilter : ∀ row ∈ rows, check.violates engine row = true →
    admits engine row (filterCondition runtime check.filter) = true
  noNulls : check.passes = true ∨ check.skips = true →
    ∀ row ∈ rows, check.lacks engine row = false

end Counting

section Rows

variable {runtime : Runtime} {engine : Engine Row V} {check : ValidityCheck}

theorem not_skips_of_passes (passing : check.passes = true) : check.skips = false := by
  have same := Value.is_iff.mp passing
  simp [skips, same, Value.is]

theorem isNotNull_holds (testsNull : check.test.TestsNull engine) (row : Row) :
    check.test.isNotNull.holds engine row = !check.lacks engine row := by
  obtain ⟨absent, isNull, isNotNull⟩ := testsNull row
  simp [lacks, Predicate.holds, isNull, isNotNull]

theorem holds_eq (strict : check.test.Strict engine) (row : Row) :
    check.test.holds.holds engine row = check.test.alone.holds engine row := by
  simp only [Predicate.holds, strict.holds]

private theorem alone_of_lacks (strict : check.test.Strict engine) {row : Row}
    (lacking : check.lacks engine row = true) :
    check.test.alone.holds engine row = false :=
  Predicate.holds_of_unknown (strict.unknown row lacking)

theorem fails_eq (strict : check.test.Strict engine) (row : Row) :
    check.test.fails.holds engine row =
      (check.knows engine row && !check.test.alone.holds engine row) :=
  Predicate.holds_of_negation (strict.fails row)

theorem countsValid_eq (strict : check.test.Strict engine) (row : Row) :
    check.countsValid engine row =
      if check.lacks engine row then check.passes else check.test.alone.holds engine row := by
  have absent := isNotNull_holds strict.testsNull row
  have never : check.lacks engine row = true → _ := alone_of_lacks strict
  have same := holds_eq strict row
  unfold countsValid validArgument
  cases lacking : check.lacks engine row <;> cases check.passes <;> cases check.skips <;>
    simp_all [Argument.holds, lacks]

theorem countsInvalid_eq (strict : check.test.Strict engine) (row : Row) :
    check.countsInvalid engine row =
      if check.lacks engine row then !check.passes && !check.skips
      else check.knows engine row && !check.test.alone.holds engine row := by
  have absent := isNotNull_holds strict.testsNull row
  have fails := fails_eq strict row
  have never : check.lacks engine row = true → check.knows engine row = false := strict.unknown row
  unfold countsInvalid invalidArgument
  cases lacking : check.lacks engine row <;> cases check.passes <;> cases check.skips <;>
    simp_all [Argument.holds, lacks]

theorem countsSkipped_eq (row : Row) :
    check.countsSkipped engine row = (check.skips && check.lacks engine row) := by
  unfold countsSkipped skippedArgument
  cases check.skips <;> simp [Argument.holds, lacks]

private theorem not_valid_and_invalid (strict : check.test.Strict engine) (row : Row) :
    ¬ (check.countsValid engine row = true ∧ check.countsInvalid engine row = true) := by
  rw [countsValid_eq strict, countsInvalid_eq strict]
  cases check.lacks engine row <;> cases check.passes <;>
    cases check.test.alone.holds engine row <;> simp

private theorem totalArgument_holds (strict : check.test.Strict engine) {row : Row}
    (decided : check.lacks engine row = false → check.knows engine row = true) :
    check.totalArgument.holds engine row =
      (check.countsValid engine row || check.countsInvalid engine row) := by
  have apart : check.passes = true → check.skips = false := not_skips_of_passes
  have present := isNotNull_holds strict.testsNull row
  rw [countsValid_eq strict, countsInvalid_eq strict]
  unfold totalArgument
  cases lacking : check.lacks engine row <;> cases passing : check.passes <;>
    cases skipping : check.skips <;> simp_all [Argument.holds]

private theorem partitions_of_decided (strict : check.test.Strict engine) {rows : List Row}
    (decided : check.Decided runtime engine rows) :
    check.Partitions runtime engine rows (check.result runtime engine rows) where
  once row member := by
    have known := decided row member
    rw [countsValid_eq strict, countsInvalid_eq strict, countsSkipped_eq]
    have apart : check.passes = true → check.skips = false := not_skips_of_passes
    cases lacking : check.lacks engine row <;> cases passing : check.passes <;>
      cases skipping : check.skips <;> cases check.test.alone.holds engine row <;> simp_all
  tested row _ present := by
    rw [countsValid_eq strict, present]
    rfl
  skipping mode row := by rw [countsSkipped_eq, mode, Bool.false_and]
  passed mode row _ lacking := by rw [countsValid_eq strict, lacking, if_pos rfl, mode]
  skipped mode row _ lacking := by rw [countsSkipped_eq, mode, lacking, Bool.and_self]
  failed passing skipping row _ lacking := by
    rw [countsInvalid_eq strict, lacking, if_pos rfl, passing, skipping]
    rfl
  valid := rfl
  invalid := rfl
  skippedRows mode := by
    have given : check.skippedArgument = some (.cases check.test.isNull) := by
      unfold skippedArgument
      rw [mode, if_pos rfl]
    have counted : check.countsSkipped engine = fun row => check.test.isNull.holds engine row := by
      unfold countsSkipped
      rw [given]
      rfl
    simp only [result, Query.row, query, given, counted]
    rfl
  total := by
    have summed : (check.selected runtime engine rows).countP
          (fun row => check.totalArgument.holds engine row) =
        (check.selected runtime engine rows).countP (check.countsValid engine) +
          (check.selected runtime engine rows).countP (check.countsInvalid engine) := by
      rw [← countP_or fun row _ => not_valid_and_invalid strict row]
      refine List.countP_congr fun row member => ?_
      rw [totalArgument_holds strict (decided row member)]
    exact congrArg (fun count : Nat => Value.int count) summed

private theorem partitions_iff_decided (strict : check.test.Strict engine) {rows : List Row} :
    check.Partitions runtime engine rows (check.result runtime engine rows) ↔
      check.Decided runtime engine rows := by
  refine ⟨fun partitions row member present => ?_, partitions_of_decided strict⟩
  have once := partitions.once row member
  rw [countsValid_eq strict, countsInvalid_eq strict, countsSkipped_eq, present] at once
  cases known : check.knows engine row with
  | true => rfl
  | false =>
      rw [known, Predicate.holds_of_unknown known] at once
      simp at once

theorem violates_eq (row : Row) :
    check.violates engine row = (check.test.fails.holds engine row || check.lacks engine row) := by
  rw [violates, violation, Predicate.holds_or]
  rfl

private theorem countsInvalid_iff_violates (testsNull : check.test.TestsNull engine) (row : Row) :
    check.countsInvalid engine row = true ↔ check.violates engine row = true ∧
      (check.passes = true ∨ check.skips = true → check.lacks engine row = false) := by
  have present := isNotNull_holds testsNull row
  rw [violates_eq]
  unfold countsInvalid invalidArgument lacks at *
  generalize missing : check.test.isNull.holds engine row = absent at present ⊢
  cases check.passes <;> cases check.skips <;> cases absent <;>
    simp [Argument.holds, present, missing]

theorem violationRows_eq_iff {Out : Type} (testsNull : check.test.TestsNull engine) (rows : List Row)
    (shown : Row → Out) :
    (check.violationRows engine rows).map shown = (check.invalidRows runtime engine rows).map shown ↔
      check.Exact runtime engine rows := by
  have counted : check.invalidRows runtime engine rows = rows.filter fun row =>
      check.countsInvalid engine row && admits engine row (filterCondition runtime check.filter) := by
    rw [invalidRows, selected, Engine.selected, List.filter_filter]
  rw [counted, violationRows, map_filter_eq_iff fun row _ holds => ?_]
  · constructor
    · intro every
      refine ⟨fun row member violating => ?_, fun mode row member => ?_⟩
      · exact (Bool.and_eq_true _ _ ▸ every row member violating).2
      · cases lacking : check.lacks engine row
        · rfl
        · have violating : check.violates engine row = true := by
            rw [violates_eq, lacking, Bool.or_true]
          have invalid := (Bool.and_eq_true _ _ ▸ every row member violating).1
          exact lacking ▸ ((countsInvalid_iff_violates testsNull row).mp invalid).2 mode
    · intro exact row member violating
      rw [Bool.and_eq_true, countsInvalid_iff_violates testsNull]
      exact ⟨⟨violating, fun mode => exact.noNulls mode row member⟩,
        exact.inFilter row member violating⟩
  · rw [Bool.and_eq_true, countsInvalid_iff_violates testsNull] at holds
    exact holds.1.1

end Rows

end ValidityCheck

/-! ## The validation types -/

section Types

variable {Row V : Type} {engine : Engine Row V} {runtime : Runtime} {column type : String}
  {parameters : Dict} {test : RowTest}

theorem strict_cellTest {holds alone fails : Predicate}
    (same : ∀ row, holds.eval engine row = alone.eval engine row)
    (negated : ∀ row, fails.eval engine row = (alone.eval engine row).not)
    (unknown : ∀ row, (Expr.cell column).isNull engine row = true →
      (alone.eval engine row).isSome = false) :
    (cellTest column holds alone fails).Strict engine where
  testsNull _ := ⟨_, rfl, rfl⟩
  holds := same
  fails := negated
  unknown row null := unknown row (by simpa [cellTest, Predicate.holds_isNull] using null)

theorem isSome_compare {comparison : Comparison} {left right : Expr} {row : Row}
    (null : left.isNull engine row = true) :
    (comparison.eval engine row left right).isSome = false := by
  rw [Comparison.eval_isSome, null]
  rfl

private theorem strict_regexTest (pattern : String) : (regexTest column pattern).Strict engine :=
  strict_cellTest (fun _ => rfl) (fun _ => Comparison.eval_negation .regex _ _)
    fun _ null => isSome_compare null

theorem mem_rangeBounds {bound : Predicate} (member : bound ∈ rangeBounds runtime column parameters) :
    ∃ comparison written, bound = boundTest column comparison written := by
  unfold rangeBounds at member
  obtain lower | upper := List.mem_append.mp member
  · split at lower
    · cases lower
    · exact ⟨_, _, List.mem_singleton.mp lower⟩
  · split at upper
    · cases upper
    · exact ⟨_, _, List.mem_singleton.mp upper⟩

private theorem strict_rangeTest {first : Predicate} {rest : List Predicate}
    (bounds : rangeBounds runtime column parameters = first :: rest) :
    (rangeTest column first rest).Strict engine := by
  refine strict_cellTest (fun _ => rfl) (fun _ => rfl) fun row null => ?_
  refine Predicate.isSome_allOf fun bound member => ?_
  obtain ⟨comparison, written, rfl⟩ := mem_rangeBounds (bounds ▸ member)
  exact isSome_compare null

theorem known_allowedTest (caseSensitive : Bool) (values : List (String × String)) (row : Row) :
    ((allowedTest column caseSensitive values).alone.eval engine row).isSome =
      !(Expr.cell column).isNull engine row := by
  refine (memberEval_isSome _ values).trans ?_
  cases caseSensitive
  · exact congrArg (!·) Expr.isNull_unary
  · rfl

theorem strict_allowedTest (caseSensitive : Bool) (values : List (String × String)) :
    (allowedTest column caseSensitive values).Strict engine := by
  refine strict_cellTest (fun _ => rfl) (fun _ => rfl) fun row null => ?_
  exact (known_allowedTest caseSensitive values row).trans (congrArg (!·) null)

theorem strict_comparisonTest {other : String} {cast : Expr → Expr} {comparison : Comparison}
    (total : ∀ row operand, (cast operand).isNull engine row = operand.isNull engine row) :
    (comparisonTest column other cast comparison).Strict engine where
  testsNull _ := ⟨_, rfl, rfl⟩
  holds _ := rfl
  fails _ := rfl
  unknown row null := by
    refine (Comparison.eval_isSome comparison _ _).trans ?_
    have either : ((Expr.cell column).isNull engine row || (Expr.cell other).isNull engine row) = true := by
      simpa [comparisonTest, Predicate.holds, Predicate.eval] using null
    rw [total, total, ← Bool.not_or, either]
    rfl

theorem testsNull_of_mode (mode : ValidityMode runtime column parameters type test) :
    test.TestsNull engine := by
  cases mode with
  | regex pattern => exact fun _ => ⟨_, rfl, rfl⟩
  | range bounds => exact fun _ => ⟨_, rfl, rfl⟩
  | allowed caseSensitive values => exact fun _ => ⟨_, rfl, rfl⟩
  | listed elements many => exact fun _ => ⟨_, rfl, rfl⟩
  | lookup found => exact fun _ => ⟨_, rfl, rfl⟩
  | business expression => exact fun _ => ⟨_, rfl, rfl⟩
  | crossField other comparison => exact fun _ => ⟨_, rfl, rfl⟩
  | dateLogic other comparison => exact fun _ => ⟨_, rfl, rfl⟩
  | negative expression => exact fun _ => ⟨_, rfl, rfl⟩

def strictTypes : List String := ["regex", "range", "allowed_values", "cross_field", "date_logic"]

def ListedInline (parameters : Dict) : Prop :=
  ∀ values, (parameters.getD "allowed_values" (.list [])).elements = .ok values → values.length ≤ 1000

private theorem strict_of_mode (mode : ValidityMode runtime column parameters type test)
    (strict : type ∈ strictTypes) (inline : type = "allowed_values" → ListedInline parameters) :
    test.Strict engine := by
  cases mode with
  | regex pattern => exact strict_regexTest pattern
  | range bounds => exact strict_rangeTest bounds
  | allowed caseSensitive values => exact strict_allowedTest caseSensitive values
  | listed elements many => exact absurd (inline rfl _ elements) (Nat.not_le.mpr many)
  | lookup found => exact absurd strict (by decide)
  | business expression => exact absurd strict (by decide)
  | crossField other comparison => exact strict_comparisonTest fun _ _ => rfl
  | dateLogic other comparison => exact strict_comparisonTest fun _ _ => Expr.isNull_unary
  | negative expression => exact absurd strict (by decide)

/-- Null handling in validity SQL is exhaustive and exclusive for the types that compare values,
where the text is closed: each selected row is counted once, rows with a NULL as the mode has it, and
the total is the sum of valid and invalid rows, exactly if the test can be computed and is unknown
only for a NULL in a compared column. -/
theorem compileValidityRule_partitions_iff {table : Phrase} {compiled : Compiled}
    (success : compileValidityRule runtime table column parameters = .ok (.compiled compiled))
    (chosen : parameters.getD "validation_type" (.str (inferValidationType parameters)) = .str type)
    (strict : type ∈ strictTypes) (inline : type = "allowed_values" → ListedInline parameters)
    (closed : compiled.closed = true) (engine : Engine Row V) (computes : List Row → Bool)
    (rows : List Row) :
    ∃ source test, ValidityMode runtime column parameters type test ∧
      let check := validityCheckOf parameters source test
      check.ReadsAs runtime compiled ∧
        ((∃ counted, check.answer runtime engine computes rows = some counted ∧
            check.Partitions runtime engine rows counted) ↔
          computes (check.selected runtime engine rows) = true ∧ check.Decided runtime engine rows) := by
  obtain ⟨found, same, _, source, test, mode, renders⟩ := compileValidityRule_check success
  obtain rfl : type = found := by simpa using chosen.symm.trans same
  exact ⟨source, test, mode, ⟨renders, closed⟩, answered_iff.trans (and_congr_right'
    (ValidityCheck.partitions_iff_decided (strict_of_mode mode strict inline)))⟩

end Types

section Example

private def adultParameters : Dict :=
  [("validation_type", .str "range"), ("min_value", .int 18), ("null_handling", .str "skip")]

/-- One customer is of age, one is not, and the age of one is not known. -/
private def customers : List (List (String × Int)) := [[("age", 40)], [("age", 12)], []]

private def alwaysComputes (_ : List (List (String × Int))) : Bool := true

theorem adults_partitions :
    ∃ compiled source test,
      compileValidityRule Runtime.ascii (name "customers") "age" adultParameters =
          .ok (.compiled compiled) ∧
        ValidityMode Runtime.ascii "age" adultParameters "range" test ∧
          let check := validityCheckOf adultParameters source test
          let engine := wholeNumbers fun _ => some true
          check.ReadsAs Runtime.ascii compiled ∧
            ((∃ counted, check.answer Runtime.ascii engine alwaysComputes customers = some counted ∧
                check.Partitions Runtime.ascii engine customers counted) ↔
              alwaysComputes (check.selected Runtime.ascii engine customers) = true ∧
                check.Decided Runtime.ascii engine customers) := by
  have compiles : ∃ compiled, compileValidityRule Runtime.ascii (name "customers") "age"
      adultParameters = .ok (.compiled compiled) ∧ compiled.closed = true :=
    ⟨_, rfl, by decide +kernel⟩
  obtain ⟨compiled, success, closed⟩ := compiles
  obtain ⟨source, test, found⟩ := compileValidityRule_partitions_iff success rfl (by decide)
    (fun other => absurd other (by decide)) closed (wholeNumbers fun _ => some true) alwaysComputes
    customers
  exact ⟨compiled, source, test, success, found⟩

private def splicedPattern : Dict := [("regex_pattern", .str "a' OR 'a' = 'a")]

/-- The test as a database reads it, with literals that end at their quotes. -/
private def readPattern : ValidityCheck :=
  let same := Predicate.atom (.compare .equal (.literal "a" "a") (.literal "a" "a"))
  let holds := Predicate.or
    (.atom (.compare .regex (.cell "age") (.literal "a" "a"))) same
  validityCheckOf splicedPattern (tableSource (name "customers")) (cellTest "age" holds holds
    (.or (.atom (.compare .notRegex (.cell "age") (.literal "a" "a"))) same))

private def unknownBound : Dict := [("min_value", .str "NULL")]

private theorem text_validityQuery_congr {source : ValiditySource} {first second : ValidityTest}
    {nullHandling : Value} {wherePhrase : Phrase} (holds : first.holds.chars = second.holds.chars)
    (alone : first.alone.chars = second.alone.chars) (fails : first.fails.chars = second.fails.chars)
    (isNull : first.isNull = second.isNull) (isNotNull : first.isNotNull = second.isNotNull) :
    (validityQuery source first nullHandling wherePhrase).phrase.text =
      (validityQuery source second nullHandling wherePhrase).phrase.text := by
  refine Query.text_congr rfl rfl ?_ rfl
  unfold validityQuery validityColumns ValidityTest.totalArgument ValidityTest.validCase
    ValidityTest.invalidCase ValidityTest.skippedArgument
  cases nullHandling.is "pass" <;> cases nullHandling.is "skip" <;>
    simp [Column.phrase, Column.named, Aggregate.phrase, Tally.phrase, caseWhen, holds, alone, fails,
      isNull, isNotNull]

/-- A row is counted as valid and as invalid, and under a bound that is NULL as neither. -/
theorem spliced_not_partitioned :
    (∃ compiled, compileValidityRule Runtime.ascii (name "customers") "age" splicedPattern =
        .ok (.compiled compiled) ∧
      compiled.query.phrase.text =
        ((readPattern.query Runtime.ascii).map Argument.phrase).phrase.text ∧
      ((readPattern.query Runtime.ascii).map Argument.phrase).phrase.closed = true ∧
      ∀ key ∈ ["total_rows", "valid_rows", "invalid_rows"],
        (readPattern.result Runtime.ascii (wholeNumbers fun _ => some true) [[("age", 40)]]).get key =
          .int 1) ∧
    ∃ compiled source test,
      compileValidityRule Runtime.ascii (name "customers") "age" unknownBound =
          .ok (.compiled compiled) ∧
        compiled.closed = true ∧
        (validityCheckOf unknownBound source test).Renders Runtime.ascii compiled ∧
        ∀ counted, ¬(validityCheckOf unknownBound source test).Partitions Runtime.ascii
          (wholeNumbers fun _ => some true) [[("age", 40)]] counted := by
  constructor
  · refine ⟨_, rfl, ?_, by decide +kernel, fun key member => ?_⟩
    · rw [ValidityCheck.map_query]
      exact text_validityQuery_congr (by decide +kernel) (by decide +kernel) (by decide +kernel) rfl rfl
    simp only [List.mem_cons, List.not_mem_nil, or_false] at member
    obtain rfl | rfl | rfl := member <;> rfl
  · refine ⟨_, tableSource (name "customers"), rangeTest "age" (boundTest "age" .greaterEqual "NULL") [],
      rfl, by decide +kernel, ⟨rfl, rfl⟩, fun counted partitions => ?_⟩
    have once := partitions.once [("age", 40)] (by decide +kernel)
    revert once
    decide +kernel

end Example

end CogniDQ.Rules
