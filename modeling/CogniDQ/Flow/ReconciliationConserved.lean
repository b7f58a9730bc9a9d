import CogniDQ.Flow.CheckResults
import CogniDQ.Rules.ReconciliationSides

/-!
# Accounts of reconciliation checks

Each reconciliation type recombines the counts of its query by a formula of its own. The passed and
the failed rows are the scanned ones where the counts divide what the formula takes for the whole.
-/

set_option autoImplicit false

namespace CogniDQ.Flow

open CogniDQ.Python CogniDQ.Execution CogniDQ.Rules CogniDQ.Sql

/-! ## Formulas -/

/-- No count is negative, the passed and the failed rows are the scanned ones, and the rate is a
percentage. -/
structure Matching.Sound (matching : Matching) : Prop where
  passed : 0 ≤ matching.passed
  failed : 0 ≤ matching.failed
  scanned : matching.passed + matching.failed = matching.total
  rate : 0 ≤ matching.rate ∧ matching.rate ≤ 100

namespace Matching

private theorem recordCount_sound (source target : Nat) : (recordCount source target).Sound := by
  have low : 0 ≤ min (source : Int) (target : Int) :=
    le_min (Int.natCast_nonneg _) (Int.natCast_nonneg _)
  refine ⟨low, abs_nonneg _, ?_, rateOf_bounded low (min_le_max)⟩
  show min (source : Int) target + |(source : Int) - target| = max (source : Int) target
  rcases le_total (source : Int) target with less | more
  · rw [min_eq_left less, max_eq_right less, abs_of_nonpos (by omega)]
    omega
  · rw [min_eq_right more, max_eq_left more, abs_of_nonneg (by omega)]
    omega

private theorem aggregate_sound (agrees : Bool) : (aggregate agrees).Sound := by
  cases agrees with
  | false => exact ⟨by decide, by decide, rfl, by decide, by decide⟩
  | true => exact ⟨by decide, by decide, rfl, by decide, by decide⟩

private theorem sided_sound_iff {matched passed failed : Nat} (within : passed + failed ≤ matched) :
    (sided matched passed failed).Sound ↔ passed + failed = matched := by
  have total : (sided matched passed failed).total = matched := by
    unfold sided
    dsimp only
    split
    · rfl
    · omega
  have rate : (sided matched passed failed).rate = rateOf passed matched :=
    congrArg (rateOf passed) total
  constructor
  · intro sound
    have scanned := sound.scanned
    rw [total] at scanned
    have sum : (passed : Int) + failed = matched := scanned
    omega
  · intro covered
    refine ⟨Int.natCast_nonneg _, Int.natCast_nonneg _, ?_, ?_⟩
    · rw [total]
      show (passed : Int) + failed = matched
      omega
    · rw [rate]
      exact rateOf_bounded (Int.natCast_nonneg _) (by omega)

theorem missingExtra_sound {source missing : Nat} (extra : Nat) (within : missing ≤ source) :
    (missingExtra source missing extra).Sound := by
  have passed : (0 : Int) ≤ source + extra - (missing + extra) := by omega
  refine ⟨passed, ?_, ?_, rateOf_bounded passed (by omega)⟩
  · show (0 : Int) ≤ missing + extra
    omega
  · show (source : Int) + extra - (missing + extra) + (missing + extra) = source + extra
    omega

theorem oneToOne_sound_iff {source target matched missing extra : Nat} :
    (oneToOne source target matched missing extra).Sound ↔
      matched + (missing + extra) = max source target := by
  have cast : max (source : Int) target = (max source target : Nat) := (Nat.cast_max _ _).symm
  constructor
  · intro sound
    have scanned : (matched : Int) + (missing + extra) = max (source : Int) target := sound.scanned
    rw [cast] at scanned
    exact_mod_cast scanned
  · intro covered
    refine ⟨Int.natCast_nonneg _, ?_, ?_, rateOf_bounded (Int.natCast_nonneg _) ?_⟩
    · show (0 : Int) ≤ missing + extra
      omega
    · show (matched : Int) + (missing + extra) = max (source : Int) target
      rw [cast, ← covered]
      push_cast
      rfl
    · rw [cast]
      omega

end Matching

/-! ## What is read of a row -/

section Reading

variable {runtime : Runtime} {decimal : Value → Except Exn Decimal} {row parameters : Dict}

/-- The result of a row is well formed. -/
def Conserved (runtime : Runtime) (decimal : Value → Except Exn Decimal) (parameters row : Dict) :
    Prop :=
  ∃ result, parseReconciliationResults runtime decimal row parameters = .ok result ∧
    0 ≤ result.rowsPassed ∧ 0 ≤ result.rowsFailed ∧
      result.rowsPassed + result.rowsFailed = result.rowsScanned ∧
        0 ≤ result.matchRate ∧ result.matchRate ≤ 100

structure Reads (runtime : Runtime) (row : Dict) (source target matched missing extra : Int) :
    Prop where
  source : readCount runtime row "source_count" = .ok source
  target : readCount runtime row "target_count" = .ok target
  matched : readCount runtime row "matched_count" = .ok matched
  missing : readCount runtime row "missing_in_target" = .ok missing
  extra : readCount runtime row "extra_in_target" = .ok extra

/-- The handler reads the counts of a row; what the row does not have is 0. -/
def CountsRead (runtime : Runtime) (row : Dict) : Prop :=
  ∃ source target matched missing extra, Reads runtime row source target matched missing extra

variable {source target matched missing extra : Int}

private theorem countsRead_of_conserved (conserved : Conserved runtime decimal parameters row) :
    CountsRead runtime row := by
  obtain ⟨result, parsed, -⟩ := conserved
  obtain ⟨source, sourceRead, parsed⟩ := bind_eq_ok parsed
  obtain ⟨target, targetRead, parsed⟩ := bind_eq_ok parsed
  obtain ⟨matched, matchedRead, parsed⟩ := bind_eq_ok parsed
  obtain ⟨missing, missingRead, parsed⟩ := bind_eq_ok parsed
  obtain ⟨extra, extraRead, -⟩ := bind_eq_ok parsed
  exact ⟨_, _, _, _, _, sourceRead, targetRead, matchedRead, missingRead, extraRead⟩

theorem conserved_iff (reads : Reads runtime row source target matched missing extra) :
    Conserved runtime decimal parameters row ↔
      ThresholdsRead runtime parameters ∧
        ∃ matching, matchingOf runtime decimal row parameters source target matched missing extra =
          .ok matching ∧ matching.Sound := by
  have step : ∀ {α β : Type} (value : α) (continuation : α → Except Exn β),
      (Except.ok value >>= continuation) = continuation value := fun _ _ => rfl
  unfold Conserved parseReconciliationResults
  simp only [reads.source, reads.target, reads.matched, reads.missing, reads.extra, step]
  constructor
  · rintro ⟨result, parsed, passed, failed, scanned, rate⟩
    obtain ⟨matching, found, parsed⟩ := bind_eq_ok parsed
    obtain ⟨thresholds, read, parsed⟩ := bind_eq_ok parsed
    obtain rfl := Except.ok.inj parsed
    exact ⟨⟨thresholds, read⟩, matching, found, passed, failed, scanned, rate⟩
  · rintro ⟨⟨thresholds, read⟩, matching, found, sound⟩
    simp only [found, read, step]
    exact ⟨_, rfl, sound.passed, sound.failed, sound.scanned, sound.rate⟩

end Reading

/-! ## The rows of each type -/

/-- What a database answers: the rows of the items that are read FROM, by their texts, the values of
other sub-selects and the group that it returns first. -/
structure ReconciliationData (Row V : Type) where
  engine : Engine Row V
  read : String → Option (List Row)
  valuation : Valuation Phrase
  group : Value
  decimal : Value → Except Exn Decimal

section Modes

variable {Row V : Type}

/-- The matched pairs and the rows without a partner are as many as the rows of the larger dataset. On
its side the pairs beyond the first of a row and the rows that the other dataset has alone stand
against the rows that are not counted, those whose first key is NULL. -/
def OneToOneBalanced (rule : KeyedReconciliation) (data : ReconciliationData Row V)
    (source target : List Row) : Prop :=
  ∃ sourceCount targetCount,
    (data.read rule.countedSource.text).map List.length = some sourceCount ∧
      (data.read rule.countedTarget.text).map List.length = some targetCount ∧
        if targetCount ≤ sourceCount then
          repeatedPairs (rule.matched data.engine) source target +
              (antiJoin (turned (rule.matched data.engine)) target source).countP
                (fun row => !rule.targetNull data.engine row) + source.length =
            source.countP (rule.sourceNull data.engine) + sourceCount
        else
          repeatedPairs (turned (rule.matched data.engine)) target source +
              (antiJoin (rule.matched data.engine) source target).countP
                (fun row => !rule.sourceNull data.engine row) + target.length =
            target.countP (rule.targetNull data.engine) + targetCount

/-- The first row of an aggregate query. With `group_by_columns` there is one for each group, and only
the first of them is named of one side: any other, and one that is called like an aggregate, is
ambiguous behind the join. -/
def aggregateRow (runtime : Runtime) (parameters : Dict) (compiled : Compiled)
    (data : ReconciliationData Row V) (source target : List Row) : Option Dict :=
  let aggregates := compiled.query.row data.valuation
  let groupBy := parameters.get "group_by_columns"
  if groupBy.truthy then
    match groupBy.elements with
    | .ok [column] =>
        if runtime.str column = "source_agg" ∨ runtime.str column = "target_agg" ∨
            source = [] ∧ target = [] then none
        else some ((runtime.str column, data.group) :: aggregates)
    | _ => none
  else some aggregates

/-- The row that the query of a type returns, and when its counts divide the rows that are scanned. -/
inductive ReconciliationMode (runtime : Runtime) (column : String) (parameters : Dict)
    (compiled : Compiled) (data : ReconciliationData Row V) (source target : List Row) :
    String → Option Dict → Prop → Prop where
  | recordCount :
      ReconciliationMode runtime column parameters compiled data source target "record_count"
        (some (compiled.query.row data.valuation)) True
  | aggregate :
      ReconciliationMode runtime column parameters compiled data source target "aggregate"
        (aggregateRow runtime parameters compiled data source target)
        (∃ row, aggregateRow runtime parameters compiled data source target = some row ∧
          CountsRead runtime row ∧ ∃ agrees, aggregatesAgree data.decimal row parameters = .ok agrees)
  | oneToOne {first : Value × Value} {rest : List (Value × Value)}
      (normalized : normalizeJoinKeys (parameters.get "join_keys") = .ok (first :: rest))
      (text : compiled.query.phrase.text =
        ((keyedReconciliation runtime parameters first rest).oneToOneQuery.map
          Argument.phrase).phrase.text) :
      ReconciliationMode runtime column parameters compiled data source target "one_to_one"
        ((keyedReconciliation runtime parameters first rest).oneToOneRow data.engine data.read)
        (OneToOneBalanced (keyedReconciliation runtime parameters first rest) data source target)
  | fieldLevel {first : Value × Value} {rest : List (Value × Value)} {compared : Value}
      {others : List Value}
      (normalized : normalizeJoinKeys (parameters.get "join_keys") = .ok (first :: rest))
      (elements : (parameters.get "compare_columns").elements = .ok (compared :: others))
      (text : compiled.query.phrase.text =
        (((keyedReconciliation runtime parameters first rest).fieldLevelQuery (runtime.str compared)
          (others.map runtime.str)).map Argument.phrase).phrase.text) :
      ReconciliationMode runtime column parameters compiled data source target "field_level"
        ((keyedReconciliation runtime parameters first rest).sidedRow data.engine data.read
          ((keyedReconciliation runtime parameters first rest).fieldLevelQuery (runtime.str compared)
            (others.map runtime.str)))
        (∀ row ∈ source, ∀ partner ∈ partners
            ((keyedReconciliation runtime parameters first rest).matched data.engine) target row,
          KeyedReconciliation.fieldsDecided data.engine
            (runtime.str compared :: others.map runtime.str) row partner = true)
  | tolerance {first : Value × Value} {rest : List (Value × Value)}
      (normalized : normalizeJoinKeys (parameters.get "join_keys") = .ok (first :: rest))
      (text : compiled.query.phrase.text =
        (((keyedReconciliation runtime parameters first rest).toleranceQuery
          (runtime.str (parameters.getD "compare_column" (.str column)))).map
            Argument.phrase).phrase.text) :
      ReconciliationMode runtime column parameters compiled data source target "tolerance"
        ((keyedReconciliation runtime parameters first rest).sidedRow data.engine data.read
          ((keyedReconciliation runtime parameters first rest).toleranceQuery
            (runtime.str (parameters.getD "compare_column" (.str column)))))
        (∀ row ∈ source, ∀ partner ∈ partners
            ((keyedReconciliation runtime parameters first rest).matched data.engine) target row,
          (keyedReconciliation runtime parameters first rest).toleranceDecided data.engine
            (runtime.str (parameters.getD "compare_column" (.str column))) row partner = true)
  | missingExtra {first : Value × Value} {rest : List (Value × Value)}
      (normalized : normalizeJoinKeys (parameters.get "join_keys") = .ok (first :: rest))
      (text : compiled.query.phrase.text =
        ((keyedReconciliation runtime parameters first rest).missingExtraQuery.map
          Argument.phrase).phrase.text) :
      ReconciliationMode runtime column parameters compiled data source target "missing_extra"
        ((keyedReconciliation runtime parameters first rest).missingExtraRow data.engine data.read)
        True

end Modes

section Types

variable {Row V : Type} {runtime : Runtime} {column : String} {parameters : Dict}
  {compiled : Compiled} {data : ReconciliationData Row V} {source target : List Row}

/-- The pairs and the rows without a partner are as many as a dataset has rows, exactly if what is
counted more than once stands against what is not counted. -/
theorem account_iff {L R : Type} {on : L → R → Bool} {left : List L} {right : List R}
    {null : L → Bool} {count extra : Nat}
    (alone : ∀ row ∈ left, null row = true → row ∈ antiJoin on left right) :
    pairCount on left right + ((antiJoin on left right).countP (fun row => !null row) + extra) = count ↔
      repeatedPairs on left right + extra + left.length = left.countP null + count := by
  have pairs := @pairCount_eq _ _ on left right
  have parts := @length_semiJoin_add_antiJoin _ _ on left right
  have nulls : left.countP null = (antiJoin on left right).countP null := by
    unfold antiJoin at alone ⊢
    rw [List.countP_filter]
    refine List.countP_congr fun row member => ?_
    constructor
    · intro isNull
      rw [isNull, (List.mem_filter.mp (alone row member isNull)).2]
      rfl
    · intro both
      exact (Bool.and_eq_true _ _ ▸ both).1
  have split := @List.length_eq_countP_add_countP _ null (antiJoin on left right)
  have rest : (antiJoin on left right).countP (fun row => decide ¬ null row = true) =
      (antiJoin on left right).countP fun row => !null row :=
    List.countP_congr fun row _ => by simp
  rw [rest] at split
  omega

private theorem oneToOne_conserved_iff {first : Value × Value} {rest : List (Value × Value)}
    (kind : parameters.getD "reconciliation_type" (.str "one_to_one") = .str "one_to_one")
    (sourceRead : data.read (sourceTable runtime parameters).text = some source)
    (targetRead : data.read (targetTable runtime parameters).text = some target) :
    let rule := keyedReconciliation runtime parameters first rest
    (∃ row, rule.oneToOneRow data.engine data.read = some row ∧
        Conserved runtime data.decimal parameters row) ↔
      ThresholdsRead runtime parameters ∧ OneToOneBalanced rule data source target := by
  intro rule
  have sound : ∀ {sourceCount targetCount : Nat},
      (Matching.oneToOne sourceCount targetCount (pairCount (rule.matched data.engine) source target)
        ((antiJoin (rule.matched data.engine) source target).countP
          fun row => !rule.sourceNull data.engine row)
        ((antiJoin (turned (rule.matched data.engine)) target source).countP
          fun row => !rule.targetNull data.engine row)).Sound ↔
      if targetCount ≤ sourceCount then
        repeatedPairs (rule.matched data.engine) source target +
            (antiJoin (turned (rule.matched data.engine)) target source).countP
              (fun row => !rule.targetNull data.engine row) + source.length =
          source.countP (rule.sourceNull data.engine) + sourceCount
      else
        repeatedPairs (turned (rule.matched data.engine)) target source +
            (antiJoin (rule.matched data.engine) source target).countP
              (fun row => !rule.sourceNull data.engine row) + target.length =
          target.countP (rule.targetNull data.engine) + targetCount := by
    intro sourceCount targetCount
    rw [Matching.oneToOne_sound_iff]
    split
    · next larger =>
        rw [max_eq_left larger]
        exact account_iff fun row => KeyedReconciliation.mem_antiJoin_of_null
    · next smaller =>
        rw [max_eq_right (by omega), ← pairCount_turned,
          Nat.add_comm (List.countP _ (antiJoin (rule.matched data.engine) source target))]
        exact account_iff fun row => KeyedReconciliation.mem_antiJoin_of_targetNull
  have oneToOne : ∀ (row : Dict) (sourceCount targetCount matched missing extra : Int),
      matchingOf runtime data.decimal row parameters sourceCount targetCount matched missing extra =
        .ok (.oneToOne sourceCount targetCount matched missing extra) := by
    intro row sourceCount targetCount matched missing extra
    unfold matchingOf
    rw [kind]
    rfl
  constructor
  · rintro ⟨row, returned, conserved⟩
    obtain ⟨sourceCount, targetCount, sourceCounted, targetCounted⟩ :=
      KeyedReconciliation.counted_of_oneToOneRow returned
    rw [KeyedReconciliation.oneToOneRow_eq sourceCounted targetCounted sourceRead targetRead]
      at returned
    obtain rfl := Option.some.inj returned
    obtain ⟨thresholds, matching, found, isSound⟩ := (conserved_iff ⟨rfl, rfl, rfl, rfl, rfl⟩).mp conserved
    obtain rfl := Except.ok.inj ((oneToOne _ _ _ _ _ _).symm.trans found)
    exact ⟨thresholds, sourceCount, targetCount, sourceCounted, targetCounted, sound.mp isSound⟩
  · rintro ⟨thresholds, sourceCount, targetCount, sourceCounted, targetCounted, balanced⟩
    refine ⟨_, KeyedReconciliation.oneToOneRow_eq sourceCounted targetCounted sourceRead targetRead, ?_⟩
    exact (conserved_iff ⟨rfl, rfl, rfl, rfl, rfl⟩).mpr
      ⟨thresholds, _, oneToOne _ _ _ _ _ _, sound.mpr balanced⟩

private theorem sided_conserved_iff {first : Value × Value} {rest : List (Value × Value)}
    {passedKey failedKey : String} {passing failing : Predicate} {decided : Row → Row → Bool}
    (sourceRead : data.read (sourceTable runtime parameters).text = some source)
    (targetRead : data.read (targetTable runtime parameters).text = some target)
    (negated : ∀ pair, failing.eval (data.engine.joined "a" "b" (KeyedReconciliation.cell data.engine))
      pair = (passing.eval (data.engine.joined "a" "b" (KeyedReconciliation.cell data.engine)) pair).not)
    (known : ∀ row partner, (passing.eval
      (data.engine.joined "a" "b" (KeyedReconciliation.cell data.engine)) (row, some partner)).isSome =
        decided row partner)
    (reads : ∀ matched passed failed : Nat,
      let row : Dict := [("matched_count", .int matched), (passedKey, .int passed), (failedKey, .int failed)]
      Reads runtime row 0 0 matched 0 0 ∧
        matchingOf runtime data.decimal row parameters 0 0 matched 0 0 =
          .ok (.sided matched passed failed)) :
    let rule := keyedReconciliation runtime parameters first rest
    (∃ row, rule.sidedRow data.engine data.read (rule.sidedQuery passedKey failedKey passing failing) =
          some row ∧ Conserved runtime data.decimal parameters row) ↔
      ThresholdsRead runtime parameters ∧
        ∀ row ∈ source, ∀ partner ∈ partners (rule.matched data.engine) target row,
          decided row partner = true := by
  intro rule
  have covers := @KeyedReconciliation.sides_cover_iff _ _ rule data.engine source target passing failing
    decided negated known
  dsimp only at covers
  generalize sized : (rule.pairs data.engine source target).countP (fun pair =>
    passing.holds (data.engine.joined "a" "b" (KeyedReconciliation.cell data.engine)) pair) = passed
    at covers
  generalize failedSize : (rule.pairs data.engine source target).countP (fun pair =>
    failing.holds (data.engine.joined "a" "b" (KeyedReconciliation.cell data.engine)) pair) = failed
    at covers
  have within : passed + failed ≤ (rule.pairs data.engine source target).length := by
    rw [← sized, ← failedSize, countP_sides negated]
    exact List.countP_le_length
  have returned : rule.sidedRow data.engine data.read
      (rule.sidedQuery passedKey failedKey passing failing) =
        some [("matched_count", .int (rule.pairs data.engine source target).length),
          (passedKey, .int passed), (failedKey, .int failed)] := by
    have sourceItem : data.read rule.source.text = some source := sourceRead
    have targetItem : data.read rule.target.text = some target := targetRead
    unfold KeyedReconciliation.sidedRow
    rw [sourceItem, targetItem, ← sized, ← failedSize, ← List.countP_true]
    rfl
  obtain ⟨read, found⟩ := reads (rule.pairs data.engine source target).length passed failed
  constructor
  · rintro ⟨row, returnedRow, conserved⟩
    obtain rfl := Option.some.inj (returned.symm.trans returnedRow)
    obtain ⟨thresholds, matching, foundMatching, isSound⟩ := (conserved_iff read).mp conserved
    obtain rfl := Except.ok.inj (found.symm.trans foundMatching)
    exact ⟨thresholds, covers.mp ((Matching.sided_sound_iff within).mp isSound)⟩
  · rintro ⟨thresholds, every⟩
    exact ⟨_, returned, (conserved_iff read).mpr
      ⟨thresholds, _, found, (Matching.sided_sound_iff within).mpr (covers.mpr every)⟩⟩

private theorem missingExtra_conserved_iff {first : Value × Value} {rest : List (Value × Value)}
    (kind : parameters.getD "reconciliation_type" (.str "one_to_one") = .str "missing_extra")
    (sourceRead : data.read (sourceTable runtime parameters).text = some source)
    (targetRead : data.read (targetTable runtime parameters).text = some target) :
    let rule := keyedReconciliation runtime parameters first rest
    (∃ row, rule.missingExtraRow data.engine data.read = some row ∧
        Conserved runtime data.decimal parameters row) ↔ ThresholdsRead runtime parameters ∧ True := by
  intro rule
  have returned : rule.missingExtraRow data.engine data.read = _ :=
    KeyedReconciliation.missingExtraRow_eq sourceRead targetRead
  have within : (antiJoin (rule.matched data.engine) source target).length ≤ source.length :=
    List.length_filter_le _ _
  have found : ∀ (row : Dict) (sourceCount targetCount matched missing extra : Int),
      matchingOf runtime data.decimal row parameters sourceCount targetCount matched missing extra =
        .ok (.missingExtra sourceCount missing extra) := by
    intro row sourceCount targetCount matched missing extra
    unfold matchingOf
    rw [kind]
    rfl
  constructor
  · rintro ⟨row, returnedRow, conserved⟩
    obtain rfl := Option.some.inj (returned.symm.trans returnedRow)
    exact ⟨((conserved_iff ⟨rfl, rfl, rfl, rfl, rfl⟩).mp conserved).1, trivial⟩
  · rintro ⟨thresholds, _⟩
    exact ⟨_, returned, (conserved_iff ⟨rfl, rfl, rfl, rfl, rfl⟩).mpr
      ⟨thresholds, _, found _ _ _ _ _ _, Matching.missingExtra_sound _ within⟩⟩

private theorem recordCount_conserved_iff
    (kind : parameters.getD "reconciliation_type" (.str "one_to_one") = .str "record_count")
    (success : reconciliationRecordCount runtime parameters = .ok (.compiled compiled)) :
    (∃ row, some (compiled.query.row data.valuation) = some row ∧
        Conserved runtime data.decimal parameters row) ↔ ThresholdsRead runtime parameters ∧ True := by
  obtain rfl := Outcome.compiled.inj (Except.ok.inj success)
  have found : ∀ (row : Dict) (sourceCount targetCount matched missing extra : Int),
      matchingOf runtime data.decimal row parameters sourceCount targetCount matched missing extra =
        .ok (.recordCount sourceCount targetCount) := by
    intro row sourceCount targetCount matched missing extra
    unfold matchingOf
    rw [kind]
    rfl
  constructor
  · rintro ⟨row, returned, conserved⟩
    obtain rfl := Option.some.inj returned
    exact ⟨((conserved_iff ⟨rfl, rfl, rfl, rfl, rfl⟩).mp conserved).1, trivial⟩
  · rintro ⟨thresholds, _⟩
    exact ⟨_, rfl, (conserved_iff ⟨rfl, rfl, rfl, rfl, rfl⟩).mpr
      ⟨thresholds, _, found _ _ _ _ _ _, Matching.recordCount_sound _ _⟩⟩

private theorem aggregate_conserved_iff {returned : Option Dict}
    (kind : parameters.getD "reconciliation_type" (.str "one_to_one") = .str "aggregate") :
    (∃ row, returned = some row ∧ Conserved runtime data.decimal parameters row) ↔
      ThresholdsRead runtime parameters ∧ ∃ row, returned = some row ∧ CountsRead runtime row ∧
        ∃ agrees, aggregatesAgree data.decimal row parameters = .ok agrees := by
  have found : ∀ (row : Dict) (source target matched missing extra : Int),
      matchingOf runtime data.decimal row parameters source target matched missing extra =
        (aggregatesAgree data.decimal row parameters).map .aggregate := by
    intro row source target matched missing extra
    unfold matchingOf
    rw [kind]
    rfl
  constructor
  · rintro ⟨row, same, conserved⟩
    obtain ⟨_, _, _, _, _, reads⟩ := countsRead_of_conserved conserved
    obtain ⟨thresholds, matching, foundMatching, _⟩ := (conserved_iff reads).mp conserved
    rw [found] at foundMatching
    cases agrees : aggregatesAgree data.decimal row parameters with
    | error raised =>
        rw [agrees] at foundMatching
        cases foundMatching
    | ok answer => exact ⟨thresholds, row, same, ⟨_, _, _, _, _, reads⟩, answer, agrees⟩
  · rintro ⟨thresholds, row, same, ⟨_, _, _, _, _, reads⟩, answer, agrees⟩
    refine ⟨row, same, (conserved_iff reads).mpr ⟨thresholds, _, ?_, Matching.aggregate_sound answer⟩⟩
    rw [found, agrees]
    rfl

end Types

section Example

def matchParameters : Dict := ("reconciliation_type", .str "one_to_one") :: orderParameters .none

def matchData (orders shipments : List String) : ReconciliationData (List (String × String)) String where
  engine := texts
  read := items "orders" (orders.map fun id => [("id", id)]) (shipments.map fun id => [("id", id)])
  valuation := ⟨fun _ => 0, fun _ => 0, fun _ => .none⟩
  group := .none
  decimal _ := .error .invalidOperation

private def matchRule : KeyedReconciliation :=
  keyedReconciliation Runtime.ascii matchParameters (.str "id", .str "id") []

private theorem source_matchRule : (sourceTable Runtime.ascii matchParameters).text = "orders" := by
  decide +kernel

theorem target_matchRule : (targetTable Runtime.ascii matchParameters).text = "shipments" := by
  decide +kernel

def idRows (ids : List String) : List (List (String × String)) := ids.map fun id => [("id", id)]

private def matchRow (source target matched missing extra : Nat) : Dict :=
  [("source_count", .int source), ("target_count", .int target), ("matched_count", .int matched),
    ("missing_in_target", .int missing), ("extra_in_target", .int extra)]

private theorem oneToOneRow_matchData {orders shipments : List String} {matched missing extra : Nat}
    (pairs : pairCount (matchRule.matched texts) (idRows orders) (idRows shipments) = matched)
    (alone : ((antiJoin (matchRule.matched texts) (idRows orders) (idRows shipments)).countP fun row =>
      !matchRule.sourceNull texts row) = missing)
    (other : ((antiJoin (turned (matchRule.matched texts)) (idRows shipments) (idRows orders)).countP
      fun row => !matchRule.targetNull texts row) = extra) :
    matchRule.oneToOneRow texts (matchData orders shipments).read =
      some (matchRow (idRows orders).length (idRows shipments).length matched missing extra) := by
  have source : matchRule.source.text = "orders" := source_matchRule
  have target : matchRule.target.text = "shipments" := target_matchRule
  have countedSource : matchRule.countedSource.text = "orders" :=
    text_beforeAlias_of_plain rfl (by decide) (by decide) (by decide)
  have countedTarget : matchRule.countedTarget.text = "shipments" :=
    text_beforeAlias_of_plain rfl (by decide) (by decide) (by decide)
  rw [← pairs, ← alone, ← other]
  exact KeyedReconciliation.oneToOneRow_eq (by rw [countedSource]; rfl) (by rw [countedTarget]; rfl)
    (by rw [source]; rfl) (by rw [target]; rfl)

private theorem not_conserved_matchRow {decimal : Value → Except Exn Decimal}
    {source target matched missing extra : Nat}
    (unbalanced : matched + (missing + extra) ≠ max source target) :
    ¬ Conserved Runtime.ascii decimal matchParameters
      (matchRow source target matched missing extra) := by
  intro conserved
  obtain ⟨_, matching, found, sound⟩ := (conserved_iff ⟨rfl, rfl, rfl, rfl, rfl⟩).mp conserved
  have made : matchingOf Runtime.ascii decimal (matchRow source target matched missing extra)
      matchParameters source target matched missing extra =
        .ok (.oneToOne source target matched missing extra) := rfl
  obtain rfl := Except.ok.inj (made.symm.trans found)
  exact unbalanced (Matching.oneToOne_sound_iff.mp sound)

end Example

end CogniDQ.Flow
