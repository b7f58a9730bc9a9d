import CogniDQ.Rules.ValidityParameters
import CogniDQ.Rules.ValiditySemantics
import CogniDQ.Sql.Like
import CogniDQ.Sql.Phrase
import CogniDQ.Python.Text
import CogniDQ.Sql.Escapes

/-!
# Negative patterns

A validity check of values that must not occur: the expression it is built with, read back from its
text, and the rows that the compiled query counts.
-/

set_option autoImplicit false

namespace CogniDQ.Rules

open CogniDQ.Python CogniDQ.Sql

/-! ## Reading a comparison -/

inductive TextOperator where
  | equal
  | like
  | regex
deriving DecidableEq, Repr

def TextOperator.chars : TextOperator → List Char
  | .equal => " = ".toList
  | .like => " LIKE ".toList
  | .regex => " ~ ".toList

def readComparison (text : List Char) : Option (List Char × TextOperator × List Char) :=
  match lex .standard text with
  | some (.identifier column :: rest) =>
      match rest.getLast?, [TextOperator.equal, .like, .regex].find? fun operator =>
          rest.dropLast = operator.chars.map .char with
      | some (.literal pattern), some operator => some (column, operator, pattern)
      | _, _ => none
  | _ => none

def TextOperator.holds (regex : List Char → List Char → Bool) (pattern value : List Char) :
    TextOperator → Ternary
  | .equal => some (value == pattern)
  | .like => Sql.like pattern value
  | .regex => some (regex pattern value)

/-- Rows of texts. Comparisons of a column with a literal are read from their text, any other
expression has a value of its own in each row. -/
def textEngine {Row : Type} (cell : Row → String → Option (List Char))
    (regex : List Char → List Char → Bool) (other : Row → String → Ternary) :
    Engine Row (List Char) where
  column row reference := cell row reference.column
  own _ _ := none
  literal value := value.toList
  whole value := (toString value).toList
  raw _ written := some written.toList
  value _ _ := none
  truth row expression :=
    match readComparison expression.toList with
    | some (column, operator, pattern) =>
        (cell row (String.ofList column)).bind (operator.holds regex pattern)
    | none => other row expression
  related _ _ _ _ := none
  unary _ _ operand := operand
  binary _ _ _ first _ := first
  isZero _ := false
  regex value pattern := regex pattern value
  equal first second := first == second
  less _ _ := false

/-! ## What a pattern means -/

inductive NegativeMode where
  | exact
  | contains
  | regex
deriving DecidableEq, Repr

def negativeMode (config : Dict) : NegativeMode :=
  let mode := config.getD "negative_match_mode" (.str "regex")
  if mode.is "exact" then .exact else if mode.is "contains" then .contains else .regex

/-- The value is one that must not occur. -/
def NegativeMode.Matches (regex : List Char → List Char → Bool) (pattern value : List Char) :
    NegativeMode → Prop
  | .exact => value = pattern
  | .contains => pattern <:+: value
  | .regex => regex pattern value = true

def NegativeMode.operator : NegativeMode → TextOperator
  | .exact => .equal
  | .contains => .like
  | .regex => .regex

/-- What stands between the quotes, before its own quotes are doubled. -/
def NegativeMode.literal (pattern : List Char) : NegativeMode → List Char
  | .contains => '%' :: pattern ++ ['%']
  | _ => pattern

/-- The check that a rule with a negative expression is compiled to. -/
def negativeCheckOf (runtime : Runtime) (rule : CanonicalRule) (targetSchema tableName : String) :
    ValidityCheck :=
  validityCheckOf rule.parameters (tableSource (rule.table targetSchema tableName))
    (negativeTest (rule.column []) (runtime.str (rule.parameters.get "negative_expression")))

/-- The invalid rows are the rows with a value that must not occur, the valid rows all others with a
value. -/
structure MeansPattern (runtime : Runtime) (check : ValidityCheck) (column : String)
    (mode : NegativeMode) (pattern : String) : Prop where
  invalid : ∀ (Row : Type) (cell : Row → String → Option (List Char))
    (regex : List Char → List Char → Bool) (other : Row → String → Ternary) (rows : List Row),
    ∀ row ∈ check.selected runtime (textEngine cell regex other) rows,
      (check.countsInvalid (textEngine cell regex other) row = true ↔
        ∃ value, cell row column = some value ∧ mode.Matches regex pattern.toList value)
  valid : ∀ (Row : Type) (cell : Row → String → Option (List Char))
    (regex : List Char → List Char → Bool) (other : Row → String → Ternary) (rows : List Row),
    ∀ row ∈ check.selected runtime (textEngine cell regex other) rows,
      (check.countsValid (textEngine cell regex other) row = true ↔
        ∃ value, cell row column = some value ∧ ¬mode.Matches regex pattern.toList value)
  counted : ∀ (Row : Type) (engine : Engine Row (List Char)) (rows : List Row),
    (check.result runtime engine rows).get "invalid_rows" =
        .int ((check.selected runtime engine rows).countP (check.countsInvalid engine)) ∧
      (check.result runtime engine rows).get "valid_rows" =
        .int ((check.selected runtime engine rows).countP (check.countsValid engine))

/-- The names are read as they are meant, and a pattern to be contained has no character with a
meaning of its own. -/
structure PatternKept (tableName column : String) (mode : NegativeMode) (pattern : String) :
    Prop where
  table : '.' ∉ tableName.toList
  column : '"' ∉ column.toList
  pattern : mode = .contains → ∀ c ∈ pattern.toList, isPlainLike c = true

/-! ## The text of the expression -/

@[simp] theorem doubleQuotes_quote (rest : List Char) :
    doubleQuotes ('\'' :: rest) = '\'' :: '\'' :: doubleQuotes rest := rfl

theorem doubleQuotes_cons {c : Char} {rest : List Char} (plain : c ≠ '\'') :
    doubleQuotes (c :: rest) = c :: doubleQuotes rest := by
  simp [doubleQuotes, plain]

private theorem doubleQuotes_append {first rest : List Char} :
    doubleQuotes (first ++ rest) = doubleQuotes first ++ doubleQuotes rest :=
  List.flatMap_append

private theorem lexFrom_literal_doubled {read content rest : List Char} :
    lexFrom .standard (.literal read) (doubleQuotes content ++ '\'' :: rest) =
      lexFrom .standard (.closing (read ++ content)) rest := by
  induction content generalizing read with
  | nil => simp [lexFrom, next, doubleQuotes]
  | cons c content ih =>
      by_cases quote : c = '\''
      · subst quote
        simpa [lexFrom, next] using @ih (read ++ ['\''])
      · rw [doubleQuotes_cons quote]
        simpa [lexFrom, next, quote, Dialect.standard] using @ih (read ++ [c])

private theorem chars_negativePatternExpression (column pattern : String) (mode : NegativeMode) :
    (negativePatternExpression column
      (match mode with | .exact => "exact" | .contains => "contains" | .regex => "regex")
      pattern).toList =
    '"' :: column.toList ++ '"' :: (mode.operator.chars ++
      '\'' :: (doubleQuotes (mode.literal pattern.toList) ++ ['\''])) := by
  cases mode with
  | exact =>
    simp [negativePatternExpression, NegativeMode.operator, NegativeMode.literal,
      TextOperator.chars]
  | contains =>
    have doubled : doubleQuotes ('%' :: (pattern.toList ++ ['%'])) =
        '%' :: (doubleQuotes pattern.toList ++ ['%']) := by
      rw [doubleQuotes_cons (by decide), doubleQuotes_append]
      rfl
    simp [negativePatternExpression, NegativeMode.operator, NegativeMode.literal,
      TextOperator.chars, doubled]
  | regex =>
    simp [negativePatternExpression, NegativeMode.operator, NegativeMode.literal,
      TextOperator.chars]

theorem lex_name {name rest : List Char} (plain : '"' ∉ name) :
    lex .standard ('"' :: name ++ '"' :: rest) =
      (lex .standard rest).map (.identifier name :: ·) := by
  have opened : lex .standard ('"' :: name ++ '"' :: rest) =
      lexFrom .standard (.identifier []) (name ++ '"' :: rest) := by
    simp [lex, lexFrom, next, opening]
  rw [opened, lexFrom_identifier fun c member isQuote => plain (isQuote ▸ member)]
  rfl

private theorem readComparison_eq {name content : List Char} {operator : TextOperator}
    (plain : '"' ∉ name) :
    readComparison ('"' :: name ++ '"' :: (operator.chars ++
      '\'' :: (doubleQuotes content ++ ['\'']))) = some (name, operator, content) := by
  have literal : lexFrom .standard .plain ('\'' :: (doubleQuotes content ++ ['\''])) =
      some [.literal content] := by
    have opened : lexFrom .standard .plain ('\'' :: (doubleQuotes content ++ ['\''])) =
        lexFrom .standard (.literal []) (doubleQuotes content ++ ['\'']) := by
      simp [lexFrom, next, opening]
    rw [opened, lexFrom_literal_doubled]
    rfl
  have symbols : ∀ c ∈ operator.chars,
      c ≠ '\'' ∧ c ≠ '"' ∧ (c = '[' → Dialect.standard.brackets = false) := by
    cases operator <;> simp [TextOperator.chars]
  have tokens := @lexFrom_plain_chars .standard operator.chars
    ('\'' :: (doubleQuotes content ++ ['\''])) symbols
  rw [literal] at tokens
  unfold readComparison
  rw [lex_name plain, lex, tokens]
  simp only [Option.map_some, List.getLast?_append, List.getLast?_singleton, List.dropLast_concat]
  cases operator <;> rfl

private theorem column_of_readComparison {name rest : List Char} (plain : '"' ∉ name)
    {comparison : List Char × TextOperator × List Char}
    (found : readComparison ('"' :: name ++ '"' :: rest) = some comparison) :
    comparison.1 = name := by
  unfold readComparison at found
  rw [lex_name plain] at found
  cases lexed : lex .standard rest with
  | none =>
    rw [lexed] at found
    cases found
  | some tokens =>
    rw [lexed] at found
    simp only [Option.map_some] at found
    split at found
    · obtain rfl := Option.some.inj found
      rfl
    · cases found

/-! ## The rows that are counted -/

section Counting

variable {runtime : Runtime} {parameters : Dict} {source : ValiditySource} {name expression : String}
  {Row : Type} {cell : Row → String → Option (List Char)} {regex : List Char → List Char → Bool}
  {other : Row → String → Ternary}

theorem negative_counts (skips : (parameters.getD "null_handling" (.str "fail")).is "skip" = true)
    (row : Row) :
    (validityCheckOf parameters source (negativeTest name expression)).countsInvalid
        (textEngine cell regex other) row =
      ((cell row name).isSome && ((textEngine cell regex other).truth row expression == some true)) ∧
    (validityCheckOf parameters source (negativeTest name expression)).countsValid
        (textEngine cell regex other) row =
      ((cell row name).isSome &&
        ((textEngine cell regex other).truth row expression == some false)) := by
  have noPass : (parameters.getD "null_handling" (.str "fail")).is "pass" = false := by
    rw [Value.is_iff.mp skips]
    rfl
  have present : (Expr.cell name).isNull (textEngine cell regex other) row =
      !(cell row name).isSome := by
    change (cell row name).isNone = _
    rw [Option.not_isSome]
  constructor
  · unfold ValidityCheck.countsInvalid ValidityCheck.invalidArgument ValidityCheck.passes
      ValidityCheck.skips
    simp only [validityCheckOf, skips, Bool.or_true, if_true, Argument.holds, negativeTest, cellTest,
      Predicate.holds_and, Predicate.holds_isNotNull, present, Bool.not_not]
    rfl
  · unfold ValidityCheck.countsValid ValidityCheck.validArgument ValidityCheck.passes
      ValidityCheck.skips
    simp only [validityCheckOf, skips, noPass, Bool.false_eq_true, if_false, if_true, Argument.holds,
      negativeTest, cellTest, Predicate.holds_and, Predicate.holds_isNotNull, present, Bool.not_not]
    congr 1
    change (((textEngine cell regex other).truth row expression).not == some true) = _
    rcases (textEngine cell regex other).truth row expression with _ | _ | _ <;> rfl

end Counting

/-! ## The check of a pattern -/

private theorem get_setTruthy_self {key : String} {value : Value} {params : Dict}
    (given : value.truthy = true) : (setTruthy key value params).get key = value := by
  rw [setTruthy, if_pos given]
  exact Dict.get_set_self

private theorem get_setTruthy_of_ne {key other : String} {value : Value} {params : Dict}
    (distinct : key ≠ other) : (setTruthy key value params).get other = params.get other := by
  unfold setTruthy
  split
  · exact Dict.get_set_of_ne distinct
  · rfl

private theorem get_setGiven_of_ne {key other : String} {value : Value} {params : Dict}
    (distinct : key ≠ other) : (setGiven key value params).get other = params.get other := by
  unfold setGiven
  split
  · rfl
  · exact Dict.get_set_of_ne distinct

private theorem get_withCommonParameters (config params : Dict) :
    (withCommonParameters config params).get "negative_expression" =
      params.get "negative_expression" := by
  unfold withCommonParameters
  dsimp only
  rw [get_setTruthy_of_ne (by decide), get_setGiven_of_ne (by decide)]
  cases nodeCaseSensitive config with
  | none => exact get_setTruthy_of_ne (by decide)
  | some value =>
    rw [Dict.get_set_of_ne (by decide)]
    exact get_setTruthy_of_ne (by decide)

theorem get_negative_expression {runtime : Runtime} {column : String} {config parameters : Dict}
    (built : validityParameters runtime column config = .ok parameters)
    (given : (nodeNegativeExpression runtime column config).truthy = true) :
    parameters.get "negative_expression" = nodeNegativeExpression runtime column config := by
  obtain ⟨validationType, -, built⟩ := bind_eq_ok built
  obtain ⟨pattern, -, built⟩ := bind_eq_ok built
  obtain ⟨allowedValues, -, built⟩ := bind_eq_ok built
  obtain ⟨minValue, -, built⟩ := bind_eq_ok built
  obtain ⟨maxValue, -, built⟩ := bind_eq_ok built
  obtain ⟨operator, -, built⟩ := bind_eq_ok built
  rw [← Except.ok.inj built, get_withCommonParameters]
  exact get_setTruthy_self given

private theorem nodeNegativeExpression_of_pattern {runtime : Runtime} {column pattern : String}
    {config : Dict} (noExpression : (config.get "negativeExpression").truthy = false)
    (isPattern : config.get "negative_pattern" = .str pattern) (given : pattern ≠ "") :
    ∃ expression, nodeNegativeExpression runtime column config = .str expression ∧
      expression.toList = '"' :: column.toList ++ '"' :: ((negativeMode config).operator.chars ++
        '\'' :: (doubleQuotes ((negativeMode config).literal pattern.toList) ++ ['\''])) := by
  have truthy : (config.get "negative_pattern").truthy = true := by
    rw [isPattern]
    exact bne_iff_ne.mpr given
  refine ⟨_, ?_, chars_negativePatternExpression column pattern (negativeMode config)⟩
  unfold nodeNegativeExpression negativeMode
  rw [noExpression, truthy, isPattern]
  simp only [Bool.false_eq_true, if_false, if_true, Runtime.str_str]
  split
  · rfl
  · split <;> rfl

private theorem dropWhile_until_dot {before rest : List Char} (plain : '.' ∉ before) :
    (before ++ '.' :: rest).dropWhile (· != '.') = '.' :: rest := by
  have skips : ∀ c ∈ before, (c != '.') = true := fun c member =>
    bne_iff_ne.mpr fun same => plain (same ▸ member)
  rw [List.dropWhile_append_of_pos skips]
  rfl

/-- The column that is read off an entity is the column of the rule, unless the name of the table has
a dot. -/
theorem splitDot_entity (tableName column : String) :
    (splitDot (tableName ++ "." ++ column)).2.getD "*" = column ↔ '.' ∉ tableName.toList := by
  have chars : (tableName ++ "." ++ column).toList =
      tableName.toList ++ '.' :: column.toList := by simp
  unfold splitDot
  by_cases dotted : '.' ∈ tableName.toList
  · refine iff_of_false (fun same => ?_) (not_not.mpr dotted)
    obtain ⟨before, after, shape, plain⟩ := List.eq_append_cons_of_mem dotted
    rw [chars, shape, List.append_assoc, List.cons_append, dropWhile_until_dot plain] at same
    have lengths := congrArg (fun text : String => text.toList.length) same
    simp only [Option.getD_some, String.toList_ofList, List.length_append, List.length_cons]
      at lengths
    omega
  · refine iff_of_true ?_ dotted
    rw [chars, dropWhile_until_dot dotted]
    exact String.ofList_toList

section Pattern

variable {runtime : Runtime} {config : Dict} {rule : CanonicalRule} {column pattern : String}
  {tableName targetSchema : String}

/-- The check of a pattern reads the column of the rule in its expression, and the one of its entity
in its tests for NULL. -/
structure PatternCheck (rule : CanonicalRule) (column pattern : String) (mode : NegativeMode)
    (tableName expression : String) : Prop where
  written : rule.parameters.get "negative_expression" = .str expression
  chars : expression.toList = '"' :: column.toList ++ '"' :: (mode.operator.chars ++
    '\'' :: (doubleQuotes (mode.literal pattern.toList) ++ ['\'']))
  column_iff : rule.column [] = column ↔ '.' ∉ tableName.toList
  dimension : rule.dimension = .str "validity"

theorem patternCheck_of_built (built : validityNodeRule runtime config tableName = .ok rule)
    (isColumn : nodeColumn runtime config = .ok column)
    (noExpression : (config.get "negativeExpression").truthy = false)
    (isPattern : config.get "negative_pattern" = .str pattern) (given : pattern ≠ "") :
    ∃ expression, PatternCheck rule column pattern (negativeMode config) tableName expression := by
  obtain ⟨expression, isExpression, chars⟩ :=
    @nodeNegativeExpression_of_pattern runtime column pattern config noExpression isPattern given
  obtain ⟨found, isFound, built⟩ := bind_eq_ok built
  obtain rfl := Except.ok.inj (isColumn.symm.trans isFound)
  obtain ⟨parameters, isParameters, built⟩ := bind_eq_ok built
  obtain ⟨regexPattern, -, built⟩ := bind_eq_ok built
  obtain rfl := Except.ok.inj built
  refine ⟨expression, ?_, chars, splitDot_entity tableName column, rfl⟩
  have truthy : (nodeNegativeExpression runtime column config).truthy = true := by
    rw [isExpression]
    refine bne_iff_ne.mpr fun empty => ?_
    rw [empty] at chars
    exact absurd chars (List.cons_ne_nil _ _).symm
  exact (get_negative_expression isParameters truthy).trans isExpression

private theorem negativeCheck_renders {compiled : Compiled}
    (dimension : rule.dimension = .str "validity")
    (negative : rule.parameters.get "validation_type" = .str "negative")
    (success : compileRule runtime rule targetSchema tableName [] = .ok (.compiled compiled)) :
    (negativeCheckOf runtime rule targetSchema tableName).Renders runtime compiled := by
  have chosen (default : Value) : rule.parameters.getD "validation_type" default =
      .str "negative" := by
    unfold Dict.get Dict.getD at negative
    unfold Dict.getD
    cases found : List.lookup "validation_type" rule.parameters with
    | none =>
      rw [found] at negative
      cases negative
    | some value =>
      rw [found] at negative
      exact negative
  have success : compileValidityRule runtime (rule.table targetSchema tableName) (rule.column [])
      rule.parameters = .ok (.compiled compiled) := by
    unfold compileRule at success
    rw [dimension] at success
    exact success
  unfold compileValidityRule at success
  rw [chosen] at success
  obtain ⟨known, isKnown, success⟩ := bind_eq_ok success
  obtain rfl : true = known := Except.ok.inj isKnown
  obtain ⟨rejected, -, success⟩ := bind_eq_ok success
  cases rejected with
  | true => cases success
  | false =>
    change validityNegative runtime (rule.table targetSchema tableName) (rule.column [])
      rule.parameters = .ok (.compiled compiled) at success
    simp only [validityNegative] at success
    split at success
    · cases success
    · obtain ⟨accepted, -, success⟩ := bind_eq_ok success
      split at success
      · cases success
      · exact ValidityCheck.renders_of_validityCompiled rfl (Except.ok.inj success)

variable {expression : String} {mode : NegativeMode}

theorem PatternCheck.counts (check : PatternCheck rule column pattern mode tableName expression)
    (skips : (rule.parameters.getD "null_handling" (.str "fail")).is "skip" = true)
    {Row : Type} (cell : Row → String → Option (List Char))
    (regex : List Char → List Char → Bool) (other : Row → String → Ternary) (row : Row) :
    (negativeCheckOf runtime rule targetSchema tableName).countsInvalid
        (textEngine cell regex other) row =
      ((cell row (rule.column [])).isSome &&
        ((textEngine cell regex other).truth row expression == some true)) ∧
    (negativeCheckOf runtime rule targetSchema tableName).countsValid
        (textEngine cell regex other) row =
      ((cell row (rule.column [])).isSome &&
        ((textEngine cell regex other).truth row expression == some false)) := by
  have counts := @negative_counts _ (tableSource (rule.table targetSchema tableName))
    (rule.column []) expression _ cell regex other skips row
  unfold negativeCheckOf
  rw [check.written]
  exact counts

theorem PatternCheck.truth (check : PatternCheck rule column pattern mode tableName expression)
    (plain : '"' ∉ column.toList) {Row : Type} (cell : Row → String → Option (List Char))
    (regex : List Char → List Char → Bool) (other : Row → String → Ternary) (row : Row) :
    (textEngine cell regex other).truth row expression =
      (cell row column).bind
        (mode.operator.holds regex (mode.literal pattern.toList)) := by
  have read := @readComparison_eq _ (mode.literal pattern.toList) mode.operator plain
  rw [← check.chars] at read
  simp only [textEngine, read, String.ofList_toList]

theorem NegativeMode.holds_iff {regex : List Char → List Char → Bool} {chars value : List Char}
    (plain : mode = .contains → ∀ c ∈ chars, isPlainLike c = true) :
    ∃ verdict, mode.operator.holds regex (mode.literal chars) value = some verdict ∧
      (verdict = true ↔ mode.Matches regex chars value) := by
  cases mode with
  | exact => exact ⟨value == chars, rfl, beq_iff_eq⟩
  | contains => exact ⟨_, like_search (plain rfl) value, decide_eq_true_iff⟩
  | regex => exact ⟨regex chars value, rfl, Iff.rfl⟩

theorem PatternCheck.means (check : PatternCheck rule column pattern mode tableName expression)
    (skips : (rule.parameters.getD "null_handling" (.str "fail")).is "skip" = true)
    (kept : PatternKept tableName column mode pattern) :
    MeansPattern runtime (negativeCheckOf runtime rule targetSchema tableName) column mode pattern := by
  have same := check.column_iff.mpr kept.table
  have counts {Row : Type} (cell : Row → String → Option (List Char))
      (regex : List Char → List Char → Bool) (other : Row → String → Ternary) (row : Row) :=
    @PatternCheck.counts runtime _ _ _ _ targetSchema _ _ check skips Row cell regex other row
  refine ⟨fun Row cell regex other rows row _ => ?_, fun Row cell regex other rows row _ => ?_,
    fun Row engine rows => ⟨rfl, rfl⟩⟩
  · rw [(counts cell regex other row).1, check.truth kept.column, same]
    cases found : cell row column with
    | none => simp
    | some value =>
      obtain ⟨verdict, holds, isMatch⟩ := @NegativeMode.holds_iff _ regex _ value kept.pattern
      simp [holds, isMatch]
  · rw [(counts cell regex other row).2, check.truth kept.column, same]
    cases found : cell row column with
    | none => simp
    | some value =>
      obtain ⟨verdict, holds, isMatch⟩ := @NegativeMode.holds_iff _ regex _ value kept.pattern
      simp [holds, ← isMatch]

theorem mem_selected_of_unfiltered {Row V : Type} {engine : Engine Row V} {check : ValidityCheck}
    (unfiltered : check.filter.truthy = false) {rows : List Row} {row : Row} (member : row ∈ rows) :
    row ∈ check.selected runtime engine rows := by
  refine List.mem_filter.mpr ⟨member, admits_iff.mpr ?_⟩
  rw [filterCondition, if_neg (Bool.not_eq_true _ ▸ unfiltered)]
  exact fun condition inside => nomatch inside

theorem PatternCheck.kept (check : PatternCheck rule column pattern mode tableName expression)
    (skips : (rule.parameters.getD "null_handling" (.str "fail")).is "skip" = true)
    (unfiltered : (rule.parameters.get "filter_expression").truthy = false)
    (means : MeansPattern runtime (negativeCheckOf runtime rule targetSchema tableName) column mode
      pattern) : PatternKept tableName column mode pattern := by
  have inside {Row : Type} {engine : Engine Row (List Char)} (row : Row) :
      row ∈ (negativeCheckOf runtime rule targetSchema tableName).selected runtime engine [row] :=
    mem_selected_of_unfiltered unfiltered List.mem_cons_self
  -- A row with a value is counted on one of the sides.
  have counted (cell : Unit → String → Option (List Char)) (value : List Char)
      (found : cell () column = some value) : (cell () (rule.column [])).isSome = true ∧
        (textEngine cell (fun _ _ => false) (fun _ _ => none)).truth () expression ≠ none := by
    obtain ⟨invalid, valid⟩ := check.counts skips
      cell (fun _ _ => false) (fun _ _ => none) ()
    have isInvalid := means.invalid Unit cell (fun _ _ => false) (fun _ _ => none) [()] () (inside ())
    have isValid := means.valid Unit cell (fun _ _ => false) (fun _ _ => none) [()] () (inside ())
    rw [invalid] at isInvalid
    rw [valid] at isValid
    by_cases matched : mode.Matches (fun _ _ => false) pattern.toList value
    · obtain ⟨present, truth⟩ := Bool.and_eq_true_iff.mp (isInvalid.mpr ⟨value, found, matched⟩)
      exact ⟨present, fun unknown => by rw [unknown] at truth; cases truth⟩
    · obtain ⟨present, truth⟩ := Bool.and_eq_true_iff.mp (isValid.mpr ⟨value, found, matched⟩)
      exact ⟨present, fun unknown => by rw [unknown] at truth; cases truth⟩
  have only (value : List Char) :=
    counted (fun _ name => if name = column then some value else none) value (if_pos rfl)
  have table : '.' ∉ tableName.toList := by
    refine check.column_iff.mp ?_
    by_contra apart
    have present := (only []).1
    rw [if_neg apart] at present
    cases present
  have plain : '"' ∉ column.toList := by
    intro quoted
    obtain ⟨before, after, shape, unquoted⟩ := List.eq_append_cons_of_mem quoted
    obtain ⟨tail, chars⟩ : ∃ tail, expression.toList = '"' :: column.toList ++ tail :=
      ⟨_, check.chars⟩
    have read_from : '"' :: column.toList ++ tail = '"' :: before ++ '"' :: (after ++ tail) := by
      simp [shape]
    have shorter : String.ofList before ≠ column := by
      intro same
      rw [← same, String.toList_ofList] at shape
      exact absurd (congrArg List.length shape) (by simp)
    refine (only []).2 ?_
    simp only [textEngine]
    cases read : readComparison expression.toList with
    | none => rfl
    | some comparison =>
      rw [chars, read_from] at read
      have isBefore := column_of_readComparison unquoted read
      simp only [isBefore, if_neg shorter, Option.bind_none]
  refine ⟨table, plain, fun contains => ?_⟩
  subst contains
  by_contra special
  obtain ⟨matched, outside⟩ := like_sample special
  have isInvalid := means.invalid Unit (fun _ _ => some (likeSample pattern.toList))
    (fun _ _ => false) (fun _ _ => none) [()] () (inside ())
  rw [(check.counts skips _ _ _ ()).1,
    check.truth plain] at isInvalid
  obtain ⟨value, found, isMatch⟩ := isInvalid.mp (by
    simp only [Option.isSome_some, Option.bind_some, Bool.true_and, beq_iff_eq]
    exact matched)
  obtain rfl := Option.some.inj found
  exact outside isMatch

/-- A check built from a negative pattern, with NULLs skipped, counts the values that must not occur
and all others if the names are read as they are meant and a pattern to be contained has no
character with a meaning of its own; on unfiltered tables only if. -/
theorem negativePattern_means_iff {compiled : Compiled}
    (built : validityNodeRule runtime config tableName = .ok rule)
    (isColumn : nodeColumn runtime config = .ok column)
    (negative : rule.parameters.get "validation_type" = .str "negative")
    (noExpression : (config.get "negativeExpression").truthy = false)
    (isPattern : config.get "negative_pattern" = .str pattern) (given : pattern ≠ "")
    (skips : (rule.parameters.getD "null_handling" (.str "fail")).is "skip" = true)
    (success : compileRule runtime rule targetSchema tableName [] = .ok (.compiled compiled)) :
    (negativeCheckOf runtime rule targetSchema tableName).Renders runtime compiled ∧
      (PatternKept tableName column (negativeMode config) pattern →
        MeansPattern runtime (negativeCheckOf runtime rule targetSchema tableName) column
          (negativeMode config) pattern) ∧
      ((rule.parameters.get "filter_expression").truthy = false →
        (MeansPattern runtime (negativeCheckOf runtime rule targetSchema tableName) column
            (negativeMode config) pattern ↔
          PatternKept tableName column (negativeMode config) pattern)) := by
  obtain ⟨expression, check⟩ := patternCheck_of_built built isColumn noExpression isPattern given
  have means := @PatternCheck.means runtime _ _ _ _ targetSchema _ _ check skips
  exact ⟨negativeCheck_renders check.dimension negative success, means,
    fun unfiltered => ⟨check.kept skips unfiltered, means⟩⟩

end Pattern

/-! ## Codes -/

private def codesConfig (pattern : String) : Dict :=
  [("columns", .list [.str "code"]), ("subtype", .str "negative"), ("negative_pattern", .str pattern),
    ("negative_match_mode", .str "contains"), ("null_handling", .str "skip")]

private def codesRule (expression : String) : CanonicalRule where
  dimension := .str "validity"
  entity := "orders.code"
  condition := .str ""
  parameters :=
    [("validation_type", .str "negative"), ("threshold_pass", .int 100),
      ("negative_expression", .str expression), ("null_handling", .str "skip")]

private def codesCompiled (expression : String) : Bool :=
  match compileRule Runtime.ascii (codesRule expression) "public" "orders" [] with
  | .ok (.compiled _) => true
  | _ => false

theorem compiled_of_codesCompiled {expression : String} (accepted : codesCompiled expression = true) :
    ∃ compiled, compileRule Runtime.ascii (codesRule expression) "public" "orders" [] =
      .ok (.compiled compiled) := by
  unfold codesCompiled at accepted
  split at accepted
  · rename_i compiled success
    exact ⟨compiled, success⟩
  · cases accepted

/-- Codes with a test mark are found. -/
theorem marked_codes_found :
    ∃ compiled, compileRule Runtime.ascii (codesRule "\"code\" LIKE '%test%'") "public" "orders" [] =
        .ok (.compiled compiled) ∧
      MeansPattern Runtime.ascii
        (negativeCheckOf Runtime.ascii (codesRule "\"code\" LIKE '%test%'") "public" "orders") "code"
        .contains "test" := by
  have accepted : codesCompiled "\"code\" LIKE '%test%'" = true := by decide +kernel
  obtain ⟨compiled, success⟩ := compiled_of_codesCompiled accepted
  have built : validityNodeRule Runtime.ascii (codesConfig "test") "orders" =
      .ok (codesRule "\"code\" LIKE '%test%'") := rfl
  obtain ⟨-, means, -⟩ := negativePattern_means_iff built rfl rfl rfl rfl
    (by decide) rfl success
  exact ⟨compiled, success, means ⟨by decide, by decide, fun _ => by simp [isPlainLike]⟩⟩

/-- Codes with an underscore are looked for by a wildcard. -/
theorem underscore_is_wildcard :
    ∃ rule compiled, validityNodeRule Runtime.ascii (codesConfig "a_b") "orders" = .ok rule ∧
      compileRule Runtime.ascii rule "public" "orders" [] = .ok (.compiled compiled) ∧
        ¬MeansPattern Runtime.ascii (negativeCheckOf Runtime.ascii rule "public" "orders") "code"
          .contains "a_b" := by
  have accepted : codesCompiled "\"code\" LIKE '%a_b%'" = true := by decide +kernel
  obtain ⟨compiled, success⟩ := compiled_of_codesCompiled accepted
  have built : validityNodeRule Runtime.ascii (codesConfig "a_b") "orders" =
      .ok (codesRule "\"code\" LIKE '%a_b%'") := rfl
  obtain ⟨expression, check⟩ := patternCheck_of_built built rfl
    rfl rfl (by decide)
  refine ⟨_, compiled, built, success, fun means => ?_⟩
  have kept := (check.kept rfl rfl means).pattern rfl '_' (by decide)
  exact absurd kept (by decide)

end CogniDQ.Rules
