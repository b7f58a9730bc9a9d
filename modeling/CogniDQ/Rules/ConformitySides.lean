import CogniDQ.Rules.Conformity
import CogniDQ.Rules.SidedCheck

/-!
# The sides of conformity rules

Each conformity type compares the column with something made of it or of constants, so
that the comparison needs the column only. A structure is parsed or not.
-/

set_option autoImplicit false

namespace CogniDQ.Rules

open CogniDQ.Python CogniDQ.Sql

section Sides

variable (parameters : Dict) (chosen : String)

def subjectExpr : Expr :=
  if (parameters.getD "trim_whitespace" (.bool true)).truthy then .unary "TRIM(" ")" (.cell chosen)
  else .cell chosen

def testSides (holds fails : Predicate) : Sides :=
  if (conformityNullHandling parameters).is "pass" then
    { passing := .or (.atom (.isNull (.cell chosen))) holds
      failing := .and (.atom (.isNotNull (.cell chosen))) fails
      needs := [.value (.cell chosen)]
      cover := .guarded (.cell chosen) }
  else { passing := holds, failing := fails, needs := [.value (.cell chosen)], cover := .plain }

def patternSides (pattern : String) : Sides :=
  testSides parameters chosen
    (.atom (.compare .regex (subjectExpr parameters chosen) (.literal pattern pattern)))
    (.atom (.compare .notRegex (subjectExpr parameters chosen) (.literal pattern pattern)))

def limitTest (limit : Comparison × Int) : Predicate :=
  .atom (.compare limit.1 (.unary "CHAR_LENGTH(" ")" (subjectExpr parameters chosen)) (.whole limit.2))

def lengthSides (first : Comparison × Int) (rest : List (Comparison × Int)) : Sides :=
  let cond := Predicate.allOf (limitTest parameters chosen first) (rest.map (limitTest parameters chosen))
  testSides parameters chosen
    (if (conformityNullHandling parameters).is "pass" then .paren cond else cond) (.notParen cond)

def caseSides (sqlFunc : String) : Sides :=
  let subject := subjectExpr parameters chosen
  let converted : Expr := .unary (sqlFunc ++ "(") ")" subject
  testSides parameters chosen (.atom (.compare .equal subject converted))
    (.atom (.compare .notEqual subject converted))

def parsedExpr (json : Bool) : Expr :=
  if json then .unary "" "::json" (.cell chosen) else .unary "XMLPARSE(DOCUMENT " ")" (.cell chosen)

def structuralSides (json : Bool) : Sides :=
  let parsed := parsedExpr chosen json
  let cell := Expr.cell chosen
  if (conformityNullHandling parameters).is "pass" then
    { passing := .or (.atom (.isNull cell))
        (if json then .paren (.and (.atom (.isNotNull cell)) (.atom (.isNotNull parsed)))
          else .atom (.isNotNull parsed))
      failing := .and (.atom (.isNotNull cell)) (.atom (.isNull parsed))
      needs := []
      cover := .settled cell true }
  else
    { passing := .atom (.isNotNull parsed), failing := .atom (.isNull parsed), needs := []
      cover := .settled cell false }

inductive ConformityMode : Sides → Prop where
  | pattern (pattern : String) : ConformityMode (patternSides parameters chosen pattern)
  | length (first : Comparison × Int) (rest : List (Comparison × Int)) :
      ConformityMode (lengthSides parameters chosen first rest)
  | case (sqlFunc : String) : ConformityMode (caseSides parameters chosen sqlFunc)
  | structural (json : Bool) : ConformityMode (structuralSides parameters chosen json)

def limitTests (first : Comparison × Int) (rest : List (Comparison × Int)) : Predicate :=
  Predicate.allOf (limitTest parameters chosen first) (rest.map (limitTest parameters chosen))

/-- The tests of the types that compare the column, with their negations. -/
inductive ConformityTest : Predicate → Predicate → Prop where
  | pattern (pattern : String) :
      ConformityTest (.atom (.compare .regex (subjectExpr parameters chosen) (.literal pattern pattern)))
        (.atom (.compare .notRegex (subjectExpr parameters chosen) (.literal pattern pattern)))
  | length (first : Comparison × Int) (rest : List (Comparison × Int)) :
      ConformityTest
        (if (conformityNullHandling parameters).is "pass" then .paren (limitTests parameters chosen first rest)
          else limitTests parameters chosen first rest)
        (.notParen (limitTests parameters chosen first rest))
  | case (sqlFunc : String) :
      ConformityTest
        (.atom (.compare .equal (subjectExpr parameters chosen)
          (.unary (sqlFunc ++ "(") ")" (subjectExpr parameters chosen))))
        (.atom (.compare .notEqual (subjectExpr parameters chosen)
          (.unary (sqlFunc ++ "(") ")" (subjectExpr parameters chosen))))

end Sides

section Made

variable {Row V : Type} {engine : Engine Row V} {parameters : Dict} {chosen : String}

private theorem made_testSides {holds fails : Predicate}
    (known : ∀ row, (holds.eval engine row).isSome = !(Expr.cell chosen).isNull engine row)
    (negated : ∀ row, fails.eval engine row = (holds.eval engine row).not) :
    (testSides parameters chosen holds fails).Made engine := by
  have met : ∀ row, (holds.eval engine row).isSome = allMet engine row [.value (.cell chosen)] := by
    intro row
    simp [known, allMet, Need.met]
  unfold testSides
  split
  · refine .guarded (fun row => holds.eval engine row) met (fun _ => rfl) fun row => ?_
    rw [← negated]
    rfl
  · exact .plain (fun row => holds.eval engine row) met (fun _ => rfl) negated

private theorem isNull_subjectExpr (row : Row) :
    (subjectExpr parameters chosen).isNull engine row = (Expr.cell chosen).isNull engine row := by
  unfold subjectExpr
  split
  · exact Expr.isNull_unary
  · rfl

theorem ConformityTest.mode {holds fails : Predicate} (test : ConformityTest parameters chosen holds fails) :
    ConformityMode parameters chosen (testSides parameters chosen holds fails) := by
  cases test with
  | pattern pattern => exact .pattern pattern
  | length first rest => exact .length first rest
  | case sqlFunc => exact .case sqlFunc

theorem ConformityTest.known {holds fails : Predicate} (test : ConformityTest parameters chosen holds fails)
    (row : Row) : (holds.eval engine row).isSome = !(Expr.cell chosen).isNull engine row := by
  cases test with
  | pattern pattern =>
      refine (Comparison.isSome_of_present rfl).trans ?_
      rw [isNull_subjectExpr]
  | length first rest =>
      have each : ∀ condition ∈ (first :: rest).map (limitTest parameters chosen),
          (condition.eval engine row).isSome = !(Expr.cell chosen).isNull engine row := by
        intro condition member
        obtain ⟨limit, _, rfl⟩ := List.mem_map.mp member
        refine (Comparison.isSome_of_present rfl).trans ?_
        rw [Expr.isNull_unary, isNull_subjectExpr]
      split
      · exact Predicate.isSome_allOf each
      · exact Predicate.isSome_allOf each
  | case sqlFunc =>
      refine (Comparison.eval_isSome _ _ _).trans ?_
      rw [Expr.isNull_unary, isNull_subjectExpr, Bool.and_self]

private theorem ConformityTest.negated {holds fails : Predicate}
    (test : ConformityTest parameters chosen holds fails) (row : Row) :
    fails.eval engine row = (holds.eval engine row).not := by
  cases test with
  | pattern pattern => exact Comparison.eval_negation .regex _ _
  | length first rest =>
      split <;> rfl
  | case sqlFunc => exact Comparison.eval_negation .equal _ _

theorem ConformityTest.made {holds fails : Predicate} (test : ConformityTest parameters chosen holds fails) :
    (testSides parameters chosen holds fails).Made engine :=
  made_testSides test.known test.negated

theorem ConformityMode.made {sides : Sides} (mode : ConformityMode parameters chosen sides) :
    sides.Made engine := by
  cases mode with
  | pattern pattern => exact (ConformityTest.pattern pattern).made
  | length first rest => exact (ConformityTest.length first rest).made
  | case sqlFunc => exact (ConformityTest.case sqlFunc).made
  | structural json =>
      have parsed : ∀ row, (parsedExpr chosen json).isNull engine row =
          (Expr.cell chosen).isNull engine row := by
        intro row
        cases json <;> exact Expr.isNull_unary
      unfold structuralSides
      dsimp only
      split
      · -- What is not NULL parses, or the query fails.
        have passes : ∀ row, (Predicate.or (.atom (.isNull (.cell chosen)))
            (if json then .paren (.and (.atom (.isNotNull (.cell chosen)))
              (.atom (.isNotNull (parsedExpr chosen json))))
            else .atom (.isNotNull (parsedExpr chosen json)))).eval engine row = some true := by
          intro row
          cases json <;> simp only [Predicate.eval, Atomic.eval, parsed, if_true,
            Bool.false_eq_true, if_false] <;> cases (Expr.cell chosen).isNull engine row <;> rfl
        refine .settled (fun row => ⟨true, passes row, ?_⟩) fun row _ => passes row
        simp only [Predicate.eval, Atomic.eval, parsed]
        cases (Expr.cell chosen).isNull engine row <;> rfl
      · refine .settled (fun row => ⟨!(Expr.cell chosen).isNull engine row, ?_⟩) fun row absent => ?_
        · simp [Predicate.eval, Atomic.eval, parsed]
        · simp [Predicate.eval, Atomic.eval, parsed, absent]

end Made

/-! ## Every compiled rule has such sides -/

section Inversion

variable {runtime : Runtime} {table : Phrase} {column : Value} {parameters : Dict}
  {compiled : Compiled}

def conformityCheckOf (runtime : Runtime) (table : Phrase) (column : Value) (parameters : Dict)
    (sides : Sides) : SidedCheck where
  dimension := .conformity
  opening := "\n            SELECT\n                "
  sides := sides
  closing wherePhrase := "\n            FROM " ++ table ++ "\n            " ++ wherePhrase ++ "\n        "
  conditions :=
    (if (conformityNullHandling parameters).is "fail" || (conformityNullHandling parameters).is "pass"
      then [] else [.atom (.isNotNull (.cell (runtime.str column)))]) ++
      filterCondition runtime (parameters.get "filter_expression")
  nullHandling := conformityNullHandling parameters

/-- The rule is the text of a check with the sides of a conformity type. -/
def IsConformityCheck (runtime : Runtime) (table : Phrase) (column : Value) (parameters : Dict)
    (compiled : Compiled) : Prop :=
  ∃ sides, ConformityMode parameters (runtime.str column) sides ∧
    (conformityCheckOf runtime table column parameters sides).Renders compiled ∧
      (conformityCheckOf runtime table column parameters sides).Suits

private theorem conformityWhere_eq (sides : Sides) :
    whereAll ((conformityCheckOf runtime table column parameters sides).conditions.map Predicate.phrase) =
      conformityWhere runtime column parameters := by
  unfold conformityCheckOf conformityWhere
  rw [List.map_append, phrase_filterCondition]
  split <;> rfl

theorem renders_of_conformityCompiled {conforming nonConforming violating : Phrase} {sides : Sides}
    (passes : sides.passing.phrase.chars = conforming.chars)
    (fails : sides.failing.phrase.chars = nonConforming.chars)
    (success : conformityCompiled runtime table column parameters conforming nonConforming violating =
      .compiled compiled) :
    (conformityCheckOf runtime table column parameters sides).Renders compiled := by
  obtain rfl := Outcome.compiled.inj success
  have written := (conformityCheckOf runtime table column parameters sides).text_queryOf passes fails
    (congrArg (fun kept => ((conformityCheckOf runtime table column parameters sides).closing kept).chars)
      (conformityWhere_eq sides))
  exact written

def IsConformityTest (runtime : Runtime) (table : Phrase) (column : Value) (parameters : Dict)
    (compiled : Compiled) : Prop :=
  ∃ holding failing, ∃ holds fails : Phrase,
    ConformityTest parameters (runtime.str column) holding failing ∧
      holding.phrase.chars = holds.chars ∧ failing.phrase.chars = fails.chars ∧
        conformityTest runtime table column parameters holds fails = .compiled compiled

private theorem suits_testSides (holding failing : Predicate) :
    (conformityCheckOf runtime table column parameters
      (testSides parameters (runtime.str column) holding failing)).Suits := by
  unfold SidedCheck.Suits conformityCheckOf testSides
  cases (conformityNullHandling parameters).is "pass" <;> rfl

private theorem renders_of_test {holds fails : Phrase} {holding failing : Predicate}
    (passes : holding.phrase.chars = holds.chars) (rejects : failing.phrase.chars = fails.chars)
    (success : conformityTest runtime table column parameters holds fails = .compiled compiled) :
    (conformityCheckOf runtime table column parameters
      (testSides parameters (runtime.str column) holding failing)).Renders compiled := by
  unfold conformityTest at success
  unfold testSides
  split at success
  · rename_i pass
    rw [if_pos pass]
    refine renders_of_conformityCompiled ?_ ?_ success
    · simp [Predicate.phrase, Atomic.phrase, columnRef, passes]
    · simp [Predicate.phrase, Atomic.phrase, columnRef, rejects]
  · rename_i pass
    rw [if_neg pass]
    exact renders_of_conformityCompiled passes rejects success

theorem IsConformityTest.check (tested : IsConformityTest runtime table column parameters compiled) :
    IsConformityCheck runtime table column parameters compiled := by
  obtain ⟨holding, failing, holds, fails, test, passes, rejects, success⟩ := tested
  exact ⟨_, test.mode, renders_of_test passes rejects success, suits_testSides holding failing⟩

theorem phrase_subjectExpr :
    (subjectExpr parameters (runtime.str column)).phrase = columnExpr runtime column parameters := by
  unfold subjectExpr columnExpr
  split <;> rfl

theorem conformityPattern_test {pattern : String}
    (success : conformityPattern runtime table column parameters pattern = .compiled compiled) :
    IsConformityTest runtime table column parameters compiled := by
  refine ⟨_, _, _, _, .pattern pattern, ?_, ?_, success⟩
  · simp [Predicate.phrase, Atomic.phrase, Expr.phrase, phrase_subjectExpr]
    rfl
  · simp [Predicate.phrase, Atomic.phrase, Expr.phrase, phrase_subjectExpr]
    rfl

private theorem conformityRegex_test
    (success : conformityRegex runtime table column parameters = .ok (.compiled compiled)) :
    IsConformityTest runtime table column parameters compiled := by
  unfold conformityRegex at success
  dsimp only at success
  split at success
  · cases success
  · exact conformityPattern_test (Except.ok.inj success)

private theorem conformityPattern_set {value : Value} (pattern : String) :
    conformityPattern runtime table column (parameters.set "regex_pattern" value) pattern =
      conformityPattern runtime table column parameters pattern := by
  have nulls : conformityNullHandling (parameters.set "regex_pattern" value) =
      conformityNullHandling parameters := Dict.getD_set_of_ne (by decide)
  have filter : (parameters.set "regex_pattern" value).get "filter_expression" =
      parameters.get "filter_expression" := Dict.get_set_of_ne (by decide)
  have trims : (parameters.set "regex_pattern" value).getD "trim_whitespace" (.bool true) =
      parameters.getD "trim_whitespace" (.bool true) := Dict.getD_set_of_ne (by decide)
  unfold conformityPattern conformityTest conformityCompiled conformityWhere columnExpr
  rw [nulls, filter, trims]

private theorem conformityStandard_test
    (success : conformityStandard runtime table column parameters = .ok (.compiled compiled)) :
    IsConformityTest runtime table column parameters compiled := by
  simp only [conformityStandard] at success
  split at success
  · cases success
  · obtain ⟨found, _, success⟩ := bind_eq_ok success
    cases found with
    | none => cases success
    | some pattern =>
        unfold conformityRegex at success
        dsimp only at success
        split at success
        · cases success
        · have made := Except.ok.inj success
          rw [conformityPattern_set] at made
          exact conformityPattern_test made

private theorem conformityCase_test
    (success : conformityCase runtime table column parameters = .ok (.compiled compiled)) :
    IsConformityTest runtime table column parameters compiled := by
  simp only [conformityCase] at success
  split at success
  · cases success
  · obtain ⟨found, _, success⟩ := bind_eq_ok success
    cases found with
    | none => cases success
    | some sqlFunc =>
        refine ⟨_, _, _, _, .case sqlFunc, ?_, ?_, Except.ok.inj success⟩
        · simp [Predicate.phrase, Atomic.phrase, Expr.phrase, phrase_subjectExpr]
          rfl
        · simp [Predicate.phrase, Atomic.phrase, Expr.phrase, phrase_subjectExpr]
          rfl

private theorem structuralParse_eq {format : Value} {written : Phrase}
    (parsed : structuralParse format (name (runtime.str column)) = some written) :
    ∃ json, format.is "json" = json ∧ (parsedExpr (runtime.str column) json).phrase.chars = written.chars := by
  unfold structuralParse at parsed
  cases json : format.is "json" with
  | true =>
      rw [json, if_pos rfl] at parsed
      refine ⟨true, rfl, ?_⟩
      rw [← Option.some.inj parsed]
      simp [parsedExpr, Expr.phrase]
  | false =>
      rw [json] at parsed
      simp only [Bool.false_eq_true, if_false] at parsed
      split at parsed
      · refine ⟨false, rfl, ?_⟩
        rw [← Option.some.inj parsed]
        simp [parsedExpr, Expr.phrase]
      · cases parsed

private theorem conformityStructural_check
    (success : conformityStructural runtime table column parameters = .ok (.compiled compiled)) :
    IsConformityCheck runtime table column parameters compiled := by
  unfold conformityStructural at success
  dsimp only at success
  split at success
  · cases success
  · split at success
    · cases success
    · split at success
      · rename_i parsed bare found _
        obtain ⟨json, isJson, written⟩ := structuralParse_eq found
        refine ⟨_, .structural json, ?_, ?_⟩
        · unfold structuralSides
          dsimp only
          split at success
          · rename_i pass
            rw [if_pos pass]
            refine renders_of_conformityCompiled ?_ ?_ (Except.ok.inj success)
            · rw [isJson]
              cases json <;> simp [Predicate.phrase, Atomic.phrase, columnRef, written]
            · simp [Predicate.phrase, Atomic.phrase, columnRef, written]
          · rename_i pass
            rw [if_neg pass]
            refine renders_of_conformityCompiled ?_ ?_ (Except.ok.inj success)
            · simp [Predicate.phrase, Atomic.phrase, written]
            · simp [Predicate.phrase, Atomic.phrase, written]
        · unfold SidedCheck.Suits conformityCheckOf structuralSides
          cases mode : (conformityNullHandling parameters).is "pass" <;> rfl
      · cases success

theorem limits_of_bound {mark : String} {comparison : Comparison} {value : Value} {bounds : List Phrase}
    (marked : mark = " " ++ comparison.operator ++ " ")
    (read : (if value.isNone then .ok []
      else (value.toInt runtime).map fun number =>
        ["CHAR_LENGTH(" ++ columnExpr runtime column parameters ++ ")" ++ Phrase.ofText mark ++
          Phrase.ofText (toString number)]) = (.ok bounds : Except Exn (List Phrase))) :
    ∃ limits, bounds = limits.map (fun limit =>
        (limitTest parameters (runtime.str column) limit).phrase) ∧
      (limits = [] → value.isNone = true) := by
  split at read
  · rename_i absent
    exact ⟨[], (Except.ok.inj read).symm, fun _ => absent⟩
  · cases number : value.toInt runtime with
    | error exn =>
        rw [number] at read
        cases read
    | ok found =>
        rw [number] at read
        refine ⟨[(comparison, found)], ?_, fun none => nomatch none⟩
        rw [← Except.ok.inj read, marked, ← phrase_subjectExpr]
        rfl

theorem phrase_limitTests {chosen : String} (first : Comparison × Int) (rest : List (Comparison × Int)) :
    (limitTests parameters chosen first rest).phrase =
      Phrase.join " AND " ((first :: rest).map fun limit => (limitTest parameters chosen limit).phrase) := by
  unfold limitTests
  rw [Predicate.phrase_allOf, ← List.map_cons, List.map_map]
  rfl

private theorem conformityLength_test
    (success : conformityLength runtime table column parameters = .ok (.compiled compiled)) :
    IsConformityTest runtime table column parameters compiled := by
  simp only [conformityLength] at success
  split at success
  · cases success
  · rename_i given
    obtain ⟨lower, readLower, success⟩ := bind_eq_ok success
    obtain ⟨upper, readUpper, success⟩ := bind_eq_ok success
    obtain ⟨below, rfl, noneBelow⟩ := @limits_of_bound _ _ _ _ .greaterEqual _ _ rfl readLower
    obtain ⟨above, rfl, noneAbove⟩ := @limits_of_bound _ _ _ _ .lessEqual _ _ rfl readUpper
    rw [← List.map_append] at success
    cases limits : below ++ above with
    | nil =>
        obtain ⟨empty, bare⟩ := List.append_eq_nil_iff.mp limits
        exact absurd (by rw [noneBelow empty, noneAbove bare]; rfl) given
    | cons first rest =>
        rw [limits] at success
        have joined := @phrase_limitTests parameters (runtime.str column) first rest
        refine ⟨_, _, _, _, .length first rest, ?_, ?_, Except.ok.inj success⟩
        · split
          · simp only [Predicate.phrase, joined]
          · rw [joined]
        · simp only [Predicate.phrase, joined]

private theorem conformityCharset_test
    (success : conformityCharset runtime table column parameters = .ok (.compiled compiled)) :
    IsConformityTest runtime table column parameters compiled := by
  unfold conformityCharset at success
  dsimp only at success
  split at success
  · cases success
  · exact conformityPattern_test (Except.ok.inj success)

theorem compileConformityRule_check {chosen : String}
    (success : compileConformityRule runtime table chosen parameters = .ok (.compiled compiled)) :
    ∃ column, conformityColumn chosen parameters = .ok column ∧
      IsConformityCheck runtime table column parameters compiled := by
  obtain ⟨known, found, success⟩ := bind_eq_ok success
  split at success
  · cases success
  · obtain ⟨rejected, _, success⟩ := bind_eq_ok success
    split at success
    · cases success
    · obtain ⟨column, first, success⟩ := bind_eq_ok success
      refine ⟨column, first, ?_⟩
      split_ifs at success
      · exact (conformityRegex_test success).check
      · exact (conformityStandard_test success).check
      · exact (conformityLength_test success).check
      · exact (conformityCharset_test success).check
      · exact (conformityCase_test success).check
      · exact conformityStructural_check success

/-! ## Violating rows -/

end Inversion

end CogniDQ.Rules
