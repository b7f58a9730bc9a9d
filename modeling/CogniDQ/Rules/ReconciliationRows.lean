import CogniDQ.Rules.Reconciliation
import CogniDQ.Sql.Join

/-!
# The rows of keyed reconciliations

Two of the reconciliation types look for rows without a partner. One classifies the rows of a full
outer join by whether the first key column is NULL, the other counts what two anti joins leave.
-/

set_option autoImplicit false

namespace CogniDQ.Rules

open CogniDQ.Python CogniDQ.Sql

/-- What a rule that joins two datasets by key columns is compiled from. A key column has a name in
either dataset. -/
structure KeyedReconciliation where
  runtime : Runtime
  parameters : Dict
  first : String × String
  rest : List (String × String)

namespace KeyedReconciliation

section Rule

variable (rule : KeyedReconciliation)

def source : Phrase := sourceTable rule.runtime rule.parameters

def target : Phrase := targetTable rule.runtime rule.parameters

/-- What is left of a dataset that is counted in `one_to_one`. -/
def countedSource : Phrase := beforeAlias " a" (rule.source ++ " a")

def countedTarget : Phrase := beforeAlias " b" (rule.target ++ " b")

def on (sourceName targetName : String) : List Predicate :=
  (rule.first :: rule.rest).map fun pair =>
    .atom (.compare .equal (.column ⟨sourceName, pair.1⟩) (.column ⟨targetName, pair.2⟩))

def joinCond (sourceName targetName : String) : Phrase :=
  Phrase.join " AND " ((rule.on sourceName targetName).map Predicate.phrase)

def sourceKey (sourceName : String) : Expr := .column ⟨sourceName, rule.first.1⟩

def targetKey (targetName : String) : Expr := .column ⟨targetName, rule.first.2⟩

def isMatched : Predicate :=
  .and (.atom (.isNotNull (rule.sourceKey "a"))) (.atom (.isNotNull (rule.targetKey "b")))

def isMissing : Predicate :=
  .and (.atom (.isNotNull (rule.sourceKey "a"))) (.atom (.isNull (rule.targetKey "b")))

def isExtra : Predicate :=
  .and (.atom (.isNull (rule.sourceKey "a"))) (.atom (.isNotNull (rule.targetKey "b")))

def oneToOneQuery : Query Argument where
  opening := "SELECT "
  columns :=
    [.named " AS " "source_count" (.tally (.rows ("(SELECT COUNT(*) FROM " ++ rule.countedSource ++ ")"))),
      .named " AS " "target_count" (.tally (.rows ("(SELECT COUNT(*) FROM " ++ rule.countedTarget ++ ")"))),
      .named " AS " "matched_count" (.tally (.count (.cases rule.isMatched))),
      .named " AS " "missing_in_target" (.tally (.count (.cases rule.isMissing))),
      .named " AS " "extra_in_target" (.tally (.count (.cases rule.isExtra)))]
  separator := ", "
  closing := " FROM " ++ (rule.source ++ " a") ++ " FULL OUTER JOIN " ++ (rule.target ++ " b") ++
    " ON " ++ rule.joinCond "a" "b"

def missingExtraQuery : Query Argument where
  opening := "SELECT "
  columns :=
    [.named " AS " "source_count" (.tally (.rows ("(SELECT COUNT(*) FROM " ++ rule.source ++ ")"))),
      .named " AS " "target_count" (.tally (.rows ("(SELECT COUNT(*) FROM " ++ rule.target ++ ")"))),
      .named " AS " "missing_in_target" (.tally (.rows ("(SELECT COUNT(*) FROM " ++ rule.source ++
        " a LEFT JOIN " ++ rule.target ++ " b ON " ++ rule.joinCond "a" "b" ++ " WHERE " ++
          (Predicate.atom (.isNull (rule.targetKey "b"))).phrase ++ ")"))),
      .named " AS " "extra_in_target" (.tally (.rows ("(SELECT COUNT(*) FROM " ++ rule.target ++
        " b2 LEFT JOIN " ++ rule.source ++ " a2 ON " ++ rule.joinCond "a2" "b2" ++ " WHERE " ++
          (Predicate.atom (.isNull (rule.sourceKey "a2"))).phrase ++ ")")))]
  separator := ", "
  closing := Phrase.empty

end Rule

section Rows

variable {Row V : Type} (rule : KeyedReconciliation) (engine : Engine Row V)
  (read : String → Option (List Row))

def cell (row : Row) (column : String) : Option V := engine.column row ⟨"", column⟩

def matched (row partner : Row) : Bool :=
  admits (engine.joined "a" "b" (cell engine)) (row, some partner) (rule.on "a" "b")

/-- The rows are joined, with the tables the other way round and under other names. -/
def matchedTurned (partner row : Row) : Bool :=
  admits (engine.joined "b2" "a2" (cell engine)) (partner, some row) (rule.on "a2" "b2")

/-- The row of `one_to_one`, by the rows of each item that is read FROM. Where the text of an item is
none, the query fails. -/
def oneToOneRow : Option Dict := do
  let sourceCount ← (read rule.countedSource.text).map List.length
  let targetCount ← (read rule.countedTarget.text).map List.length
  let source ← read rule.source.text
  let target ← read rule.target.text
  let joined := fullJoin (rule.matched engine) source target
  let count (condition : Predicate) : Nat :=
    joined.countP fun pair => condition.holds (engine.outer "a" "b") pair
  return [("source_count", .int sourceCount), ("target_count", .int targetCount),
    ("matched_count", .int (count rule.isMatched)), ("missing_in_target", .int (count rule.isMissing)),
    ("extra_in_target", .int (count rule.isExtra))]

def missingExtraRow : Option Dict := do
  let source ← read rule.source.text
  let target ← read rule.target.text
  let missing := (leftJoin (rule.matched engine) target source).countP fun pair =>
    (Predicate.atom (.isNull (rule.targetKey "b"))).holds (engine.joined "a" "b" (cell engine)) pair
  let extra := (leftJoin (rule.matchedTurned engine) source target).countP fun pair =>
    (Predicate.atom (.isNull (rule.sourceKey "a2"))).holds (engine.joined "b2" "a2" (cell engine)) pair
  return [("source_count", .int source.length), ("target_count", .int target.length),
    ("missing_in_target", .int missing), ("extra_in_target", .int extra)]

/-- Both queries return a row, with the same counts. -/
def Agree : Prop :=
  ∃ one, rule.oneToOneRow engine read = some one ∧
    ∃ both, rule.missingExtraRow engine read = some both ∧
      ∀ key ∈ ["source_count", "target_count", "missing_in_target", "extra_in_target"],
        one.get key = both.get key

def sourceNull (row : Row) : Bool := (cell engine row rule.first.1).isNone

def targetNull (row : Row) : Bool := (cell engine row rule.first.2).isNone

end Rows

section Counts

variable {Row V : Type} {rule : KeyedReconciliation} {engine : Engine Row V} {source target : List Row}

theorem matched_eq (row partner : Row) :
    rule.matched engine row partner = (rule.first :: rule.rest).all fun pair =>
      match cell engine row pair.1, cell engine partner pair.2 with
      | some left, some right => engine.equal left right
      | _, _ => false := by
  have apart : ¬ "b" = "a" := by decide
  rw [Bool.eq_iff_iff, matched, admits_iff, on, List.forall_mem_map, List.all_eq_true]
  refine forall₂_congr fun pair _ => ?_
  rw [Predicate.holds_equal]
  simp only [Expr.eval, Engine.joined, if_true, if_neg apart, Option.bind_some]
  rfl

private theorem matchedTurned_eq : rule.matchedTurned engine = turned (rule.matched engine) := by
  funext partner row
  have apart : ¬ "a2" = "b2" := by decide
  rw [turned, matched_eq, Bool.eq_iff_iff, matchedTurned, admits_iff, on, List.forall_mem_map,
    List.all_eq_true]
  refine forall₂_congr fun pair _ => ?_
  rw [Predicate.holds_equal]
  simp only [Expr.eval, Engine.joined, if_true, if_neg apart, Option.bind_some]
  rfl

theorem present_of_matched {row partner : Row} (joined : rule.matched engine row partner = true) :
    rule.sourceNull engine row = false ∧ rule.targetNull engine partner = false := by
  rw [matched_eq] at joined
  have first := List.all_eq_true.mp joined rule.first List.mem_cons_self
  unfold sourceNull targetNull
  cases left : cell engine row rule.first.1 with
  | none => simp [left] at first
  | some value =>
      cases right : cell engine partner rule.first.2 with
      | none => simp [left, right] at first
      | some other => exact ⟨rfl, rfl⟩

theorem present_of_partner {row partner : Row}
    (member : partner ∈ partners (rule.matched engine) target row) :
    rule.sourceNull engine row = false ∧ rule.targetNull engine partner = false :=
  present_of_matched (List.mem_filter.mp member).2

theorem countP_isMatched :
    ((fullJoin (rule.matched engine) source target).countP fun pair =>
      rule.isMatched.holds (engine.outer "a" "b") pair) =
        pairCount (rule.matched engine) source target := by
  have counts := @countP_fullJoin _ _ (rule.matched engine) source target
    (fun pair => rule.isMatched.holds (engine.outer "a" "b") pair) true (fun _ => false)
    (fun _ => false)
    (fun row _ partner member => by
      have present := @present_of_partner _ _ rule engine target row partner member
      simp_all [isMatched, sourceKey, targetKey, Expr.isNull, Expr.eval, Engine.outer, sourceNull,
        targetNull, cell])
    (fun row => by simp [isMatched, targetKey, Expr.isNull, Expr.eval, Engine.outer])
    (fun partner => by simp [isMatched, sourceKey, Expr.isNull, Expr.eval, Engine.outer])
  rw [counts]
  simp

theorem countP_isMissing :
    ((fullJoin (rule.matched engine) source target).countP fun pair =>
      rule.isMissing.holds (engine.outer "a" "b") pair) =
        (antiJoin (rule.matched engine) source target).countP fun row =>
          !rule.sourceNull engine row := by
  have counts := @countP_fullJoin _ _ (rule.matched engine) source target
    (fun pair => rule.isMissing.holds (engine.outer "a" "b") pair) false
    (fun row => !rule.sourceNull engine row) (fun _ => false)
    (fun row _ partner member => by
      have present := @present_of_partner _ _ rule engine target row partner member
      simp_all [isMissing, sourceKey, targetKey, Expr.isNull, Expr.eval, Engine.outer, sourceNull,
        targetNull, cell, Predicate.holds_isNull])
    (fun row => by
      simp [isMissing, sourceKey, targetKey, Expr.isNull, Expr.eval, Engine.outer,
        Predicate.holds_isNull, sourceNull, cell])
    (fun partner => by simp [isMissing, sourceKey, Expr.isNull, Expr.eval, Engine.outer])
  rw [counts]
  simp

theorem countP_isExtra :
    ((fullJoin (rule.matched engine) source target).countP fun pair =>
      rule.isExtra.holds (engine.outer "a" "b") pair) =
        (antiJoin (turned (rule.matched engine)) target source).countP fun row =>
          !rule.targetNull engine row := by
  have counts := @countP_fullJoin _ _ (rule.matched engine) source target
    (fun pair => rule.isExtra.holds (engine.outer "a" "b") pair) false (fun _ => false)
    (fun row => !rule.targetNull engine row)
    (fun row _ partner member => by
      have present := @present_of_partner _ _ rule engine target row partner member
      simp_all [isExtra, sourceKey, targetKey, Expr.isNull, Expr.eval, Engine.outer, sourceNull,
        targetNull, cell, Predicate.holds_isNull])
    (fun row => by
      simp [isExtra, targetKey, Expr.isNull, Expr.eval, Engine.outer])
    (fun partner => by
      simp [isExtra, sourceKey, targetKey, Expr.isNull, Expr.eval, Engine.outer,
        Predicate.holds_isNull, targetNull, cell])
  rw [counts]
  simp

theorem countP_missing :
    ((leftJoin (rule.matched engine) target source).countP fun pair =>
      (Predicate.atom (.isNull (rule.targetKey "b"))).holds (engine.joined "a" "b" (cell engine)) pair) =
        (antiJoin (rule.matched engine) source target).length := by
  have counts := @countP_leftJoin_split _ _ (rule.matched engine) source target
    (fun pair => (Predicate.atom (.isNull (rule.targetKey "b"))).holds
      (engine.joined "a" "b" (cell engine)) pair) false (fun _ => true)
    (fun row _ partner member => by
      have present := (@present_of_partner _ _ rule engine target row partner member).2
      simp_all [targetKey, Expr.isNull, Expr.eval, Engine.joined, targetNull, Predicate.holds_isNull])
    (fun row => by
      rw [Predicate.holds_isNull]
      exact isNull_right_of_none (by decide))
  rw [counts]
  simp

theorem countP_extra :
    ((leftJoin (rule.matchedTurned engine) source target).countP fun pair =>
      (Predicate.atom (.isNull (rule.sourceKey "a2"))).holds
        (engine.joined "b2" "a2" (cell engine)) pair) =
          (antiJoin (turned (rule.matched engine)) target source).length := by
  have counts := @countP_leftJoin_split _ _ (rule.matchedTurned engine) target source
    (fun pair => (Predicate.atom (.isNull (rule.sourceKey "a2"))).holds
      (engine.joined "b2" "a2" (cell engine)) pair) false (fun _ => true)
    (fun partner _ row member => by
      rw [matchedTurned_eq] at member
      have present := (@present_of_matched _ _ rule engine row partner (List.mem_filter.mp member).2).1
      simp_all [sourceKey, Expr.isNull, Expr.eval, Engine.joined, sourceNull, Predicate.holds_isNull])
    (fun row => by
      rw [Predicate.holds_isNull]
      exact isNull_right_of_none (by decide))
  rw [counts, matchedTurned_eq]
  simp

end Counts

end KeyedReconciliation

end CogniDQ.Rules
