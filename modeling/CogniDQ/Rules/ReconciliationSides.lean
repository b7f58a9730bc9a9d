import CogniDQ.Rules.ReconciliationAgreement
import CogniDQ.Rules.ReferenceCounts

/-!
# Matched rows on two sides

Two of the reconciliation types count the pairs of an inner join by a comparison and by its negation.
A pair is on neither side where the comparison is unknown.
-/

set_option autoImplicit false

namespace CogniDQ.Sql

private theorem Ternary.isSome_all (values : List Ternary) :
    (Ternary.all values).isSome = (values.any (· == some false) || values.all Option.isSome) := by
  induction values with
  | nil => rfl
  | cons value values ih =>
      have head : Ternary.all (value :: values) = value.and (Ternary.all values) := rfl
      have falsified : Ternary.all values = some false ↔ values.any (· == some false) = true := by
        clear ih head
        induction values with
        | nil => simp [Ternary.all]
        | cons value values ih =>
            have head : Ternary.all (value :: values) = value.and (Ternary.all values) := rfl
            rw [head, List.any_cons, Bool.or_eq_true, ← ih]
            rcases value with _ | _ | _ <;> rcases Ternary.all values with _ | _ | _ <;>
              simp [Ternary.and]
      rw [head, List.any_cons, List.all_cons]
      have some : ∀ known, Ternary.all values = some known →
          (values.any (· == some false)) = !known := by
        intro known joined
        rw [Bool.eq_iff_iff, ← falsified, joined]
        cases known <;> simp
      cases joined : Ternary.all values with
      | none =>
          rw [joined] at ih falsified
          rcases value with _ | _ | _ <;> simp_all [Ternary.and]
      | some known =>
          rw [joined] at ih
          rw [some known joined] at ih ⊢
          rcases value with _ | _ | _ <;> cases known <;> simp_all [Ternary.and]

theorem countP_sides {Row V : Type} {engine : Engine Row V} {passing failing : Predicate}
    (negated : ∀ row, failing.eval engine row = (passing.eval engine row).not) (rows : List Row) :
    rows.countP (fun row => passing.holds engine row) + rows.countP (fun row => failing.holds engine row) =
      rows.countP fun row => (passing.eval engine row).isSome := by
  have negative : ∀ row, failing.holds engine row =
      ((passing.eval engine row).isSome && !passing.holds engine row) := fun row =>
    Predicate.holds_of_negation (negated row)
  have apart : ∀ row ∈ rows, ¬ (passing.holds engine row = true ∧ failing.holds engine row = true) := by
    intro row _
    rw [negative]
    cases passing.holds engine row <;> simp
  rw [← countP_or apart]
  refine List.countP_congr fun row _ => ?_
  rw [negative]
  unfold Predicate.holds
  rcases passing.eval engine row with _ | _ | _ <;> simp

end CogniDQ.Sql

namespace CogniDQ.Rules

open CogniDQ.Python CogniDQ.Sql

namespace KeyedReconciliation

section Rule

variable (rule : KeyedReconciliation)

/-- The query that counts the pairs of an inner join on two sides. -/
def sidedQuery (passedKey failedKey : String) (passing failing : Predicate) : Query Argument where
  opening := "SELECT "
  columns :=
    [.named " AS " "matched_count" (.tally (.count .rows)),
      .named " AS " passedKey (.tally (.count (.cases passing))),
      .named " AS " failedKey (.tally (.count (.cases failing)))]
  separator := ", "
  closing := " FROM " ++ (rule.source ++ " a INNER JOIN " ++ rule.target ++ " b ON " ++
    rule.joinCond "a" "b")

/-- The query of `field_level`, over the columns that are compared. -/
def fieldLevelQuery (first : String) (rest : List String) : Query Argument :=
  rule.sidedQuery "field_match_count" "field_mismatch_count" (allMatch first rest)
    (.notParen (allMatch first rest))

def tolerance (compared : String) : Tolerance :=
  accuracyTolerance rule.runtime (.column ⟨"a", compared⟩) (.column ⟨"b", compared⟩)
    (rule.parameters.getD "tolerance_type" (.str "absolute")) (rule.parameters.get "tolerance_value")

def toleranceQuery (compared : String) : Query Argument :=
  rule.sidedQuery "within_tolerance" "outside_tolerance" (rule.tolerance compared).matched
    (rule.tolerance compared).mismatched

end Rule

section Rows

variable {Row V : Type} (rule : KeyedReconciliation) (engine : Engine Row V)
  (read : String → Option (List Row))

def pairs (source target : List Row) : List (Row × Option Row) :=
  Sql.innerJoin (rule.matched engine) target source

def sidedRow (query : Query Argument) : Option Dict := do
  let source ← read rule.source.text
  let target ← read rule.target.text
  return query.row ((engine.joined "a" "b" (cell engine)).valuation (rule.pairs engine source target))

/-- The compared columns of a pair decide: two values differ, or none is NULL. -/
def fieldsDecided (columns : List String) (row partner : Row) : Bool :=
  (columns.any fun column =>
    match cell engine row column, cell engine partner column with
    | some left, some right => !engine.equal left right
    | _, _ => false) ||
  columns.all fun column => (cell engine row column).isSome && (cell engine partner column).isSome

def toleranceDecided (compared : String) (row partner : Row) : Bool :=
  allMet (engine.joined "a" "b" (cell engine)) (row, some partner) (rule.tolerance compared).needs

end Rows

section Decided

variable {Row V : Type} {rule : KeyedReconciliation} {engine : Engine Row V} {source target : List Row}

theorem isSome_allMatch (first : String) (rest : List String) (row partner : Row) :
    ((allMatch first rest).eval (engine.joined "a" "b" (cell engine)) (row, some partner)).isSome =
      fieldsDecided engine (first :: rest) row partner := by
  have apart : ¬ "b" = "a" := by decide
  have one : ∀ column, (Predicate.atom (.compare .equal (.column ⟨"a", column⟩)
        (.column ⟨"b", column⟩))).eval (engine.joined "a" "b" (cell engine)) (row, some partner) =
      match cell engine row column, cell engine partner column with
      | some left, some right => some (engine.equal left right)
      | _, _ => none := by
    intro column
    simp only [Predicate.eval, Atomic.eval, Comparison.eval, Expr.eval, Engine.joined, if_true,
      if_neg apart, Option.bind_some]
    unfold cell
    cases engine.column row ⟨"", column⟩ with
    | none => rfl
    | some left => cases engine.column partner ⟨"", column⟩ <;> rfl
  have conditions : (Predicate.atom (.compare .equal (.column ⟨"a", first⟩) (.column ⟨"b", first⟩)) ::
      equalKeys "a" "b" rest) = (first :: rest).map fun column =>
        .atom (.compare .equal (.column ⟨"a", column⟩) (.column ⟨"b", column⟩)) := rfl
  rw [allMatch, Predicate.eval_allOf, conditions, List.map_map, Ternary.isSome_all, fieldsDecided,
    List.any_map, List.all_map]
  refine congrArg₂ _ (congrArg (List.any _) (funext fun column => ?_))
    (congrArg (List.all _) (funext fun column => ?_))
  · simp only [Function.comp_apply, one]
    cases cell engine row column with
    | none => rfl
    | some left =>
        cases cell engine partner column with
        | none => rfl
        | some right =>
            show (some (engine.equal left right) == some false) = !engine.equal left right
            cases engine.equal left right <;> rfl
  · simp only [Function.comp_apply, one]
    cases cell engine row column with
    | none => rfl
    | some left => cases cell engine partner column <;> rfl

theorem isSome_tolerance (compared : String) (row partner : Row) :
    ((rule.tolerance compared).matched.eval (engine.joined "a" "b" (cell engine))
      (row, some partner)).isSome = rule.toleranceDecided engine compared row partner :=
  known_accuracyTolerance _

theorem sides_cover_iff {passing failing : Predicate} {decided : Row → Row → Bool}
    (negated : ∀ pair, failing.eval (engine.joined "a" "b" (cell engine)) pair =
      (passing.eval (engine.joined "a" "b" (cell engine)) pair).not)
    (known : ∀ row partner, (passing.eval (engine.joined "a" "b" (cell engine))
      (row, some partner)).isSome = decided row partner) :
    let pairs := rule.pairs engine source target
    pairs.countP (fun pair => passing.holds (engine.joined "a" "b" (cell engine)) pair) +
        pairs.countP (fun pair => failing.holds (engine.joined "a" "b" (cell engine)) pair) =
          pairs.length ↔
      ∀ row ∈ source, ∀ partner ∈ partners (rule.matched engine) target row,
        decided row partner = true := by
  intro pairs
  rw [countP_sides negated, List.countP_eq_length]
  constructor
  · intro every row member partner inside
    rw [← known]
    refine every (row, some partner) (List.mem_flatMap.mpr ⟨row, member, ?_⟩)
    exact List.mem_map_of_mem inside
  · intro every pair member
    obtain ⟨row, present, inside⟩ := List.mem_flatMap.mp member
    obtain ⟨partner, joined, rfl⟩ := List.mem_map.mp inside
    rw [known]
    exact every row present partner joined

end Decided

end KeyedReconciliation

section Compiled

variable {runtime : Runtime} {column : String} {parameters : Dict} {compiled : Compiled}

theorem normalizeJoinKeys_ne_nil {keys : Value} {pairs : List (Value × Value)}
    (normalized : normalizeJoinKeys keys = .ok pairs) : pairs ≠ [] := by
  obtain ⟨first, chosen, normalized⟩ := bind_eq_ok normalized
  have some : ∀ {elements}, keys.elements = .ok elements → elements ≠ [] := by
    intro elements read empty
    rw [empty] at read
    cases keys with
    | list values =>
        obtain rfl := Except.ok.inj read
        cases chosen
    | str text =>
        have none : text.toList = [] := List.map_eq_nil_iff.mp (Except.ok.inj read)
        simp [Value.first, none] at chosen
    | dict entries => cases chosen
    | _ => cases read
  cases first with
  | dict entries =>
      obtain ⟨elements, read, normalized⟩ := bind_eq_ok normalized
      intro empty
      rw [empty] at normalized
      cases elements with
      | nil => exact some read rfl
      | cons element rest =>
          rw [List.mapM_cons] at normalized
          obtain ⟨_, _, normalized⟩ := bind_eq_ok normalized
          obtain ⟨_, _, normalized⟩ := bind_eq_ok normalized
          cases normalized
  | _ =>
      obtain ⟨elements, read, normalized⟩ := bind_eq_ok normalized
      obtain rfl := Except.ok.inj normalized
      exact fun empty => some read (List.map_eq_nil_iff.mp empty)

theorem text_sidedQuery {passedKey failedKey : String} {passing failing : Predicate}
    {passed failed violation : Phrase} {mysql : Option String} {first : Value × Value}
    {rest : List (Value × Value)} (passes : passing.phrase.chars = passed.chars)
    (fails : failing.phrase.chars = failed.chars) :
    let compiled : Compiled := {
      query := reconciliationQuery
        [.named " AS " "matched_count" (.tally (.count "*")),
          .named " AS " passedKey (.tally (.count (caseWhen passed))),
          .named " AS " failedKey (.tally (.count (caseWhen failed)))]
        (" FROM " ++ innerJoin runtime parameters (joinCondition runtime "a" "b" (first :: rest)))
      mysql
      violation }
    compiled.query.phrase.text =
      (((keyedReconciliation runtime parameters first rest).sidedQuery passedKey failedKey passing
        failing).map Argument.phrase).phrase.text := by
  refine Query.text_congr rfl rfl ?_ ?_
  · simp [KeyedReconciliation.sidedQuery, reconciliationQuery, Query.map, Column.map, Column.named,
      Aggregate.map, Tally.map, Column.phrase, Aggregate.phrase, Tally.phrase, Argument.phrase,
      caseWhen, passes, fails]
  · simp only [reconciliationQuery, KeyedReconciliation.sidedQuery, Query.map, Phrase.chars_append,
      innerJoin, @chars_joinCond runtime parameters first rest "a" "b" (by decide) (by decide)]
    rfl

private theorem chars_allMatch {first : Value} {rest : List Value} :
    (allMatch (runtime.str first) (rest.map runtime.str)).phrase.chars =
      (equalColumns "a" "b" (namesOf runtime (first :: rest))).chars := by
  have joined : (allMatch (runtime.str first) (rest.map runtime.str)).phrase =
      Phrase.join " AND " ((equalKeys "a" "b" ((first :: rest).map runtime.str)).map
        Predicate.phrase) := Predicate.phrase_allOf _ _
  rw [joined, namesOf_eq]
  exact chars_equalKeys (by decide) (by decide) _

theorem fieldLevel_rule
    (success : reconciliationFieldLevel runtime parameters = .ok (.compiled compiled)) :
    ∃ first rest column columns, normalizeJoinKeys (parameters.get "join_keys") = .ok (first :: rest) ∧
      (parameters.get "compare_columns").elements = .ok (column :: columns) ∧
        compiled.query.phrase.text =
          (((keyedReconciliation runtime parameters first rest).fieldLevelQuery (runtime.str column)
            (columns.map runtime.str)).map Argument.phrase).phrase.text := by
  simp only [reconciliationFieldLevel] at success
  split at success
  · cases success
  · split at success
    · cases success
    · rename_i given
      obtain ⟨pairs, normalized, success⟩ := bind_eq_ok success
      obtain ⟨columns, elements, success⟩ := bind_eq_ok success
      obtain rfl := Outcome.compiled.inj (Except.ok.inj success)
      cases pairs with
      | nil => exact absurd rfl (normalizeJoinKeys_ne_nil normalized)
      | cons first rest =>
          cases columns with
          | nil =>
              rw [Value.truthy_of_no_elements elements] at given
              exact absurd rfl given
          | cons column columns =>
              have written := @chars_allMatch runtime column columns
              refine ⟨first, rest, column, columns, normalized, elements, text_sidedQuery written ?_⟩
              simp only [Predicate.phrase, Phrase.chars_append, written]

theorem tolerance_rule
    (success : reconciliationTolerance runtime column parameters = .ok (.compiled compiled)) :
    ∃ first rest, normalizeJoinKeys (parameters.get "join_keys") = .ok (first :: rest) ∧
      compiled.query.phrase.text =
        (((keyedReconciliation runtime parameters first rest).toleranceQuery
          (runtime.str (parameters.getD "compare_column" (.str column)))).map
            Argument.phrase).phrase.text := by
  simp only [reconciliationTolerance] at success
  split at success
  · cases success
  · split at success
    · cases success
    · split at success
      · cases success
      · obtain ⟨pairs, normalized, success⟩ := bind_eq_ok success
        obtain rfl := Outcome.compiled.inj (Except.ok.inj success)
        cases pairs with
        | nil => exact absurd rfl (normalizeJoinKeys_ne_nil normalized)
        | cons first rest =>
            obtain ⟨matched, mismatched⟩ := @chars_accuracyTolerance runtime
              (.column ⟨"a", runtime.str (parameters.getD "compare_column" (.str column))⟩)
              (.column ⟨"b", runtime.str (parameters.getD "compare_column" (.str column))⟩)
              (parameters.getD "tolerance_type" (.str "absolute")) (parameters.get "tolerance_value")
            exact ⟨first, rest, normalized, text_sidedQuery matched mismatched⟩

end Compiled

end CogniDQ.Rules
