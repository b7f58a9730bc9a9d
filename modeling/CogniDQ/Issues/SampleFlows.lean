import CogniDQ.Execution.ResultNormalizer
import CogniDQ.Execution.NormalizerFlows
import Mathlib.Data.List.Forall2

/-!
# Sample capture

The violating rows of a check, from its result to the sample stored with an issue.
-/

set_option autoImplicit false

namespace CogniDQ.Issues

open CogniDQ.Python CogniDQ.Execution

structure ResultData where
  canonicalViolations : List Row
  violations : List Dict

/-- What the check node puts into its result. `summary` is the outcome of `normalize_summary`,
and no rule is the empty one. -/
def resultData (runtime : Runtime) (context canonicalRule : Dict) (summary : Except Exn Unit)
    (resultIds : Nat → String) (violations : List Dict) : ResultData where
  violations := violations.take 100
  canonicalViolations :=
    if canonicalRule.truthy then
      match summary >>= fun _ =>
          normalizeViolations runtime context canonicalRule resultIds (violations.take 100) with
      | .ok rows => rows
      | .error _ => []
    else []

def sampleMaxRows : Nat := 50

def maskSensitiveAt : List String := ["confidential", "restricted"]

/-- `_load_sensitivity_map`, of the rows that the database returns. -/
def loadSensitivityMap (fields : List (String × Value)) : Dict :=
  fields.foldl (fun sensitivity field => sensitivity.set field.1 field.2) []

def sensitive (sensitivityMap : Dict) (col : String) : Bool :=
  maskSensitiveAt.any (sensitivityMap.get col).is

def maskRow (sensitivityMap : Dict) (row : Row) : Row :=
  row.map fun (col, val) =>
    (col, if sensitive sensitivityMap col then .held (.str "[MASKED]") else val)

def applyMasking (rows : List Row) (sensitivityMap : Dict) : List Row × Bool :=
  (rows.map (maskRow sensitivityMap), rows.any fun row => row.any fun entry =>
    sensitive sensitivityMap entry.1)

def rawRow (row : Dict) : Row := List.map (fun (col, val) => (col, .held val)) row

structure Sample where
  sampleCount : Nat
  rows : List Row
  maskingApplied : Bool
  maskingThreshold : Option String

/-- `capture_for_issue`, up to the row that the repository inserts. -/
def captureForIssue (sensitivityMap : Dict) (data : ResultData) : Option Sample :=
  let rawViolations :=
    if data.canonicalViolations.isEmpty then data.violations.map rawRow
    else data.canonicalViolations
  let capped := rawViolations.take sampleMaxRows
  if capped.isEmpty then none
  else
    let (maskedRows, anyMasked) := applyMasking capped sensitivityMap
    some {
      sampleCount := maskedRows.length
      rows := maskedRows
      maskingApplied := anyMasked
      maskingThreshold := if anyMasked then some "confidential" else none }

end CogniDQ.Issues

/-!
## What sensitive columns reach in a sample

A sample is masked by the names of its fields. A field of a normalized row has another name than
the columns it is drawn from, so that a sensitive column is hidden only where every field that is
drawn from it is masked, too.
-/

namespace CogniDQ.Issues

open CogniDQ.Python CogniDQ.Execution

def maskCell (sensitivityMap : Dict) (field : String) (cell : Cell) : Cell :=
  if sensitive sensitivityMap field then .held (.str "[MASKED]") else cell

/-- What a stored row shows, its random `result_id` aside. -/
def shown (sensitivityMap : Dict) (row : Row) : Row :=
  (maskRow sensitivityMap row).filter fun entry => entry.1 ≠ "result_id"

section Rows

variable {runtime : Runtime} {sensitivityMap : Dict} {first second : Dict}

/-- Two violating rows differ only in the values of sensitive columns. -/
def SameButFor (sensitivityMap : Dict) (first second : Dict) : Prop :=
  List.Forall₂ (fun one other => one.1 = other.1 ∧
    (sensitive sensitivityMap one.1 = false → one.2 = other.2)) first second

private theorem SameButFor.get (same : SameButFor sensitivityMap first second) {key : String}
    (plain : sensitive sensitivityMap key = false) : first.get key = second.get key := by
  have looked : List.lookup key first = List.lookup key second := by
    induction same with
    | nil => rfl
    | @cons one other _ _ alike _ ih =>
      obtain ⟨name, value⟩ := one
      obtain ⟨otherName, otherValue⟩ := other
      obtain ⟨rfl, equal⟩ : name = otherName ∧ (sensitive sensitivityMap name = false →
        value = otherValue) := alike
      rw [List.lookup_cons, List.lookup_cons, ih]
      by_cases here : key = name
      · subst here
        rw [equal plain]
      · have skipped : (key == name) = false := by simpa using here
        rw [skipped]
  exact congrArg (Option.getD · .none) looked

private theorem SameButFor.metadata (same : SameButFor sensitivityMap first second)
    (skipped : ∀ col, sensitive sensitivityMap col = true → col ∈ skipKeys) :
    buildViolationMetadata first = buildViolationMetadata second := by
  have filtered : List.filter (fun entry => !skipKeys.contains entry.1) first =
      List.filter (fun entry => !skipKeys.contains entry.1) second := by
    induction same with
    | nil => rfl
    | @cons one other _ _ alike _ ih =>
      obtain ⟨name, value⟩ := one
      obtain ⟨otherName, otherValue⟩ := other
      obtain ⟨rfl, equal⟩ : name = otherName ∧ (sensitive sensitivityMap name = false →
        value = otherValue) := alike
      cases marked : sensitive sensitivityMap name with
      | false =>
        rw [equal marked, List.filter_cons, List.filter_cons, ih]
      | true =>
        have left : (!skipKeys.contains name) = false := by simpa using skipped name marked
        rw [List.filter_cons, List.filter_cons, ih, left]
        rfl
  unfold buildViolationMetadata
  rw [filtered]

private theorem SameButFor.shown (same : SameButFor sensitivityMap first second) :
    shown sensitivityMap (rawRow first) = shown sensitivityMap (rawRow second) := by
  have masked : maskRow sensitivityMap (rawRow first) = maskRow sensitivityMap (rawRow second) := by
    unfold maskRow rawRow
    induction same with
    | nil => rfl
    | @cons one other _ _ alike _ ih =>
      obtain ⟨name, value⟩ := one
      obtain ⟨otherName, otherValue⟩ := other
      obtain ⟨rfl, equal⟩ : name = otherName ∧ (sensitive sensitivityMap name = false →
        value = otherValue) := alike
      simp only [List.map_cons, ih]
      cases marked : sensitive sensitivityMap name with
      | false => rw [equal marked]
      | true => rfl
  unfold Issues.shown
  rw [masked]

end Rows

section Normalized

variable {runtime : Runtime} {context : Dict} {header : Header} {sensitivityMap : Dict}
  {resultId otherId : String} {first second : Dict} {cell other : Cell}

/-- The row that a violation is normalized to, by what its fields are drawn from. -/
def drawnRow (runtime : Runtime) (context : Dict) (header : Header) (resultId : String)
    (violation : Dict) (deviation : Cell) : Row :=
  [("result_id", .held (.str resultId)),
    ("execution_id", .held (context.get "execution_id")),
    ("rule_id", .held header.ruleId),
    ("dimension", .held header.dimension),
    ("dimension_subtype", .held header.subtype),
    ("dataset_name", .held header.targetTable),
    ("column_name", .held header.columnName),
    ("business_key", .held (textOf runtime (firstOf violation businessKeys))),
    ("check_status", .held (.str "FAIL")),
    ("observed_value", .held (textOf runtime (observed header.dimension violation))),
    ("expected_value", .held (textOf runtime (expected header.dimension violation))),
    ("deviation", deviation),
    ("issue_reason", .held (.str
      (buildIssueReason runtime header.dimension header.subtype violation))),
    ("severity", .held header.severity),
    ("execution_timestamp", .held (context.get "execution_timestamp")),
    ("metadata", .held (buildViolationMetadata violation))]

theorem normalizeViolation_eq :
    normalizeViolation runtime context header resultId first =
      (deviation runtime header.dimension first).map
        (drawnRow runtime context header resultId first) := by
  unfold normalizeViolation
  rw [extractObservedExpected_eq]
  cases deviation runtime header.dimension first <;> rfl

theorem shown_drawnRow_iff :
    shown sensitivityMap (drawnRow runtime context header resultId first cell) =
      shown sensitivityMap (drawnRow runtime context header otherId second other) ↔
    maskCell sensitivityMap "business_key" (.held (textOf runtime (firstOf first businessKeys))) =
        maskCell sensitivityMap "business_key"
          (.held (textOf runtime (firstOf second businessKeys))) ∧
      maskCell sensitivityMap "observed_value"
          (.held (textOf runtime (observed header.dimension first))) =
        maskCell sensitivityMap "observed_value"
          (.held (textOf runtime (observed header.dimension second))) ∧
      maskCell sensitivityMap "expected_value"
          (.held (textOf runtime (expected header.dimension first))) =
        maskCell sensitivityMap "expected_value"
          (.held (textOf runtime (expected header.dimension second))) ∧
      maskCell sensitivityMap "deviation" cell = maskCell sensitivityMap "deviation" other ∧
      maskCell sensitivityMap "issue_reason" (.held (.str
          (buildIssueReason runtime header.dimension header.subtype first))) =
        maskCell sensitivityMap "issue_reason" (.held (.str
          (buildIssueReason runtime header.dimension header.subtype second))) ∧
      maskCell sensitivityMap "metadata" (.held (buildViolationMetadata first)) =
        maskCell sensitivityMap "metadata" (.held (buildViolationMetadata second)) := by
  simp [shown, maskRow, drawnRow, maskCell]

private theorem maskCell_congr {field : String}
    (same : sensitive sensitivityMap field = false → cell = other) :
    maskCell sensitivityMap field cell = maskCell sensitivityMap field other := by
  unfold maskCell
  cases marked : sensitive sensitivityMap field with
  | false => rw [same marked]
  | true => rfl

theorem maskCell_eq {field : String} (plain : sensitive sensitivityMap field = false)
    (same : maskCell sensitivityMap field cell = maskCell sensitivityMap field other) :
    cell = other := by
  unfold maskCell at same
  rw [plain] at same
  exact same

/-- No sensitive column is read as a float, and every field that is drawn from one is masked. -/
structure Contained (sensitivityMap : Dict) (dimension : Value) : Prop where
  raising : ∀ col ∈ raisingKeys dimension, sensitive sensitivityMap col = false
  drawn : ∀ field col, Draws dimension field col → sensitive sensitivityMap col = true →
    sensitive sensitivityMap field = true

private theorem Contained.plain {dimension : Value} {field col : String}
    (contained : Contained sensitivityMap dimension) (draws : Draws dimension field col)
    (unmasked : sensitive sensitivityMap field = false) : sensitive sensitivityMap col = false := by
  cases marked : sensitive sensitivityMap col with
  | false => rfl
  | true => exact absurd (contained.drawn field col draws marked) (by rw [unmasked]; decide)

private theorem normalizeViolation_alike (contained : Contained sensitivityMap header.dimension)
    (same : SameButFor sensitivityMap first second) :
    (normalizeViolation runtime context header resultId first).map (shown sensitivityMap) =
      (normalizeViolation runtime context header otherId second).map (shown sensitivityMap) := by
  have deviations : deviation runtime header.dimension first =
      deviation runtime header.dimension second :=
    deviation_congr fun key member => same.get (contained.raising key member)
  rw [normalizeViolation_eq, normalizeViolation_eq, deviations]
  cases deviation runtime header.dimension second with
  | error raised => rfl
  | ok cell =>
    refine congrArg Except.ok (shown_drawnRow_iff.mpr ⟨?_, ?_, ?_, rfl, ?_, ?_⟩)
    · refine maskCell_congr fun unmasked => ?_
      rw [firstOf_congr fun key member =>
        same.get (contained.plain (.businessKey member) unmasked)]
    · refine maskCell_congr fun unmasked => ?_
      rw [observed_congr fun key member => same.get (contained.plain (.observed member) unmasked)]
    · refine maskCell_congr fun unmasked => ?_
      rw [expected_congr fun key member => same.get (contained.plain (.expected member) unmasked)]
    · refine maskCell_congr fun unmasked => ?_
      rw [buildIssueReason_congr fun key member =>
        same.get (contained.plain (.reason member) unmasked)]
    · refine maskCell_congr fun unmasked => ?_
      rw [same.metadata fun col marked => ?_]
      by_contra kept
      have plain := contained.plain (.metadata kept) unmasked
      rw [plain] at marked
      cases marked

theorem map_mapM {α β γ : Type} (render : β → γ) (step : α → Except Exn β) (inputs : List α) :
    (inputs.mapM step).map (List.map render) = inputs.mapM fun input => (step input).map render := by
  induction inputs with
  | nil => rfl
  | cons input rest ih =>
    rw [List.mapM_cons, List.mapM_cons, ← ih]
    cases step input with
    | error raised => rfl
    | ok made => cases rest.mapM step <;> rfl

/-- Rows that differ only in sensitive columns are normalized to rows that show the same, or both
raise the same error. -/
theorem normalizeRows_alike {rows others : List Dict}
    (contained : Contained sensitivityMap header.dimension)
    (same : List.Forall₂ (SameButFor sensitivityMap) rows others) (resultIds otherIds : Nat → String)
    (start : Nat) :
    ((rows.zipIdx start).mapM fun entry =>
        normalizeViolation runtime context header (resultIds entry.2) entry.1).map
        (List.map (shown sensitivityMap)) =
      ((others.zipIdx start).mapM fun entry =>
        normalizeViolation runtime context header (otherIds entry.2) entry.1).map
        (List.map (shown sensitivityMap)) := by
  rw [map_mapM, map_mapM]
  induction same generalizing start with
  | nil => rfl
  | cons alike _ ih =>
    rw [List.zipIdx_cons, List.zipIdx_cons, List.mapM_cons, List.mapM_cons, ih (start + 1),
      normalizeViolation_alike contained alike]

end Normalized

section Samples

variable {runtime : Runtime} {context canonicalRule : Dict} {header : Header}
  {summary : Except Exn Unit} {sensitivityMap : Dict}

def chosen (data : ResultData) : List Row :=
  if data.canonicalViolations.isEmpty then data.violations.map rawRow
  else data.canonicalViolations

/-- The rows of the sample that is stored, their random `result_id`s aside. -/
def stored (sensitivityMap : Dict) (data : ResultData) : Option (List Row) :=
  (captureForIssue sensitivityMap data).map fun sample =>
    sample.rows.map fun row => row.filter fun entry => entry.1 ≠ "result_id"

theorem stored_eq (data : ResultData) :
    stored sensitivityMap data =
      if ((chosen data).map (shown sensitivityMap)).isEmpty then none
      else some (((chosen data).map (shown sensitivityMap)).take sampleMaxRows) := by
  have captured : stored sensitivityMap data =
      if ((chosen data).take sampleMaxRows).isEmpty then none
      else some ((((chosen data).take sampleMaxRows).map (maskRow sensitivityMap)).map
        fun row => row.filter fun entry => entry.1 ≠ "result_id") := by
    unfold stored captureForIssue
    show Option.map _ (if ((chosen data).take sampleMaxRows).isEmpty then none else some _) = _
    split <;> rfl
  have empty : ((chosen data).take sampleMaxRows).isEmpty =
      ((chosen data).map (shown sensitivityMap)).isEmpty := by
    cases chosen data <;> rfl
  rw [captured, empty, List.map_map, List.map_take]
  rfl

theorem normalizeViolations_alike (runtime : Runtime) (context : Dict) {rows others : List Dict}
    (contained : ∀ header, Execution.header canonicalRule = .ok header →
      Contained sensitivityMap header.dimension)
    (same : List.Forall₂ (SameButFor sensitivityMap) rows others)
    (resultIds otherIds : Nat → String) :
    (normalizeViolations runtime context canonicalRule resultIds rows).map
        (List.map (shown sensitivityMap)) =
      (normalizeViolations runtime context canonicalRule otherIds others).map
        (List.map (shown sensitivityMap)) := by
  unfold normalizeViolations
  have empty : rows.isEmpty = others.isEmpty := by cases same <;> rfl
  rw [empty]
  split
  · rfl
  · cases found : Execution.header canonicalRule with
    | error raised => rfl
    | ok header => exact normalizeRows_alike (contained header found) same resultIds otherIds 0

theorem canonicalViolations_alike (runtime : Runtime) (context : Dict) {rows others : List Dict}
    (contained : canonicalRule.truthy = true → summary = .ok () → ∀ header,
      Execution.header canonicalRule = .ok header → Contained sensitivityMap header.dimension)
    (same : List.Forall₂ (SameButFor sensitivityMap) rows others)
    (resultIds otherIds : Nat → String) :
    (resultData runtime context canonicalRule summary resultIds rows).canonicalViolations.map
        (shown sensitivityMap) =
      (resultData runtime context canonicalRule summary otherIds others).canonicalViolations.map
        (shown sensitivityMap) := by
  unfold resultData
  dsimp only
  split
  · next given =>
    cases summary with
    | error raised => rfl
    | ok =>
      have normalized := normalizeViolations_alike runtime context
        (contained given rfl) (List.forall₂_take 100 same) resultIds otherIds
      simp only [bind, Except.bind]
      cases first : normalizeViolations runtime context canonicalRule resultIds (rows.take 100) with
      | error raised =>
        cases second : normalizeViolations runtime context canonicalRule otherIds
            (others.take 100) with
        | error _ => rfl
        | ok _ =>
          rw [first, second] at normalized
          cases normalized
      | ok made =>
        cases second : normalizeViolations runtime context canonicalRule otherIds
            (others.take 100) with
        | error _ =>
          rw [first, second] at normalized
          cases normalized
        | ok _ =>
          rw [first, second] at normalized
          exact Except.ok.inj normalized
  · rfl

private theorem rawRows_alike {rows others : List Dict}
    (same : List.Forall₂ (SameButFor sensitivityMap) rows others) :
    (rows.map rawRow).map (shown sensitivityMap) = (others.map rawRow).map (shown sensitivityMap) := by
  induction same with
  | nil => rfl
  | cons alike _ ih =>
    simp only [List.map_cons]
    rw [alike.shown, ih]

private theorem stored_alike {rows others : List Dict}
    (contained : canonicalRule.truthy = true → summary = .ok () → ∀ header,
      Execution.header canonicalRule = .ok header → Contained sensitivityMap header.dimension)
    (same : List.Forall₂ (SameButFor sensitivityMap) rows others)
    (resultIds otherIds : Nat → String) :
    stored sensitivityMap (resultData runtime context canonicalRule summary resultIds rows) =
      stored sensitivityMap (resultData runtime context canonicalRule summary otherIds others) := by
  have canonical := canonicalViolations_alike runtime context contained same
    resultIds otherIds
  have empty : (resultData runtime context canonicalRule summary resultIds
        rows).canonicalViolations.isEmpty =
      (resultData runtime context canonicalRule summary otherIds
        others).canonicalViolations.isEmpty := by
    have lengths := congrArg List.isEmpty canonical
    simpa only [List.isEmpty_map] using lengths
  have raw := rawRows_alike (List.forall₂_take 100 same)
  have shownAlike : (chosen (resultData runtime context canonicalRule summary resultIds rows)).map
        (shown sensitivityMap) =
      (chosen (resultData runtime context canonicalRule summary otherIds others)).map
        (shown sensitivityMap) := by
    unfold chosen
    rw [empty]
    split
    · exact raw
    · exact canonical
  rw [stored_eq, stored_eq, shownAlike]

theorem normalizeViolations_single {resultIds : Nat → String} {violation : Dict}
    (found : Execution.header canonicalRule = .ok header) :
    normalizeViolations runtime context canonicalRule resultIds [violation] =
      (deviation runtime header.dimension violation).map fun cell =>
        [drawnRow runtime context header (resultIds 0) violation cell] := by
  unfold normalizeViolations
  rw [found]
  simp only [List.isEmpty_cons, Bool.false_eq_true, if_false, bind, Except.bind, List.zipIdx_cons,
    List.zipIdx_nil, List.mapM_cons, List.mapM_nil, normalizeViolation_eq]
  cases deviation runtime header.dimension violation <;> rfl

theorem stored_normalized {resultIds : Nat → String} {violation : Dict} {cell : Cell}
    (given : canonicalRule.truthy = true) (found : Execution.header canonicalRule = .ok header)
    (made : deviation runtime header.dimension violation = .ok cell) :
    stored sensitivityMap (resultData runtime context canonicalRule (.ok ()) resultIds [violation]) =
      some [shown sensitivityMap
        (drawnRow runtime context header (resultIds 0) violation cell)] := by
  have normalized : normalizeViolations runtime context canonicalRule resultIds [violation] =
      .ok [drawnRow runtime context header (resultIds 0) violation cell] := by
    rw [normalizeViolations_single found, made]
    rfl
  have rows : chosen (resultData runtime context canonicalRule (.ok ()) resultIds [violation]) =
      [drawnRow runtime context header (resultIds 0) violation cell] := by
    have canonical : (resultData runtime context canonicalRule (.ok ()) resultIds
        [violation]).canonicalViolations =
          [drawnRow runtime context header (resultIds 0) violation cell] := by
      unfold resultData
      dsimp only
      rw [if_pos given]
      show (match normalizeViolations runtime context canonicalRule resultIds [violation] with
        | .ok rows => rows
        | .error _ => []) = _
      rw [normalized]
    unfold chosen
    rw [canonical]
    rfl
  rw [stored_eq, rows]
  rfl

private theorem stored_raw {resultIds : Nat → String} {violation : Dict} {raised : Exn}
    (found : Execution.header canonicalRule = .ok header)
    (failed : deviation runtime header.dimension violation = .error raised) :
    stored sensitivityMap (resultData runtime context canonicalRule (.ok ()) resultIds [violation]) =
      some [shown sensitivityMap (rawRow violation)] := by
  have unnormalized : normalizeViolations runtime context canonicalRule resultIds [violation] =
      .error raised := by
    rw [normalizeViolations_single found, failed]
    rfl
  have rows : chosen (resultData runtime context canonicalRule (.ok ()) resultIds [violation]) =
      [rawRow violation] := by
    have canonical : (resultData runtime context canonicalRule (.ok ()) resultIds
        [violation]).canonicalViolations = [] := by
      unfold resultData
      dsimp only
      split
      · show (match normalizeViolations runtime context canonicalRule resultIds [violation] with
          | .ok rows => rows
          | .error _ => []) = _
        rw [unnormalized]
      · rfl
    unfold chosen
    rw [canonical]
    rfl
  rw [stored_eq, rows]
  rfl

end Samples

section Noninterference

variable {runtime : Runtime} {context canonicalRule : Dict} {header : Header}
  {sensitivityMap : Dict} {col field : String}

private theorem length_shown_drawnRow {resultId : String} {violation : Dict} {cell : Cell} :
    (shown sensitivityMap (drawnRow runtime context header resultId violation cell)).length = 15 := by
  simp [shown, maskRow, drawnRow]

theorem metadata_lone {value : Value} (kept : col ∉ skipKeys) :
    buildViolationMetadata (lone col value) = .dict [(col, value)] := by
  have left : (!skipKeys.contains col) = true := by simpa using kept
  unfold buildViolationMetadata lone
  rw [List.filter_cons, left]
  rfl

/-- What does not depend on sensitive columns: the stored rows of any violations. -/
def Independent (runtime : Runtime) (context canonicalRule : Dict) (summary : Except Exn Unit)
    (sensitivityMap : Dict) : Prop :=
  ∀ resultIds otherIds rows others, List.Forall₂ (SameButFor sensitivityMap) rows others →
    stored sensitivityMap (resultData runtime context canonicalRule summary resultIds rows) =
      stored sensitivityMap (resultData runtime context canonicalRule summary otherIds others)

/-- A column that is read as a float is not sensitive: a value that is too large leaves the rows
unnormalized. -/
theorem Independent.raising (independent : Independent runtime context canonicalRule (.ok ())
      sensitivityMap) (given : canonicalRule.truthy = true)
    (found : Execution.header canonicalRule = .ok header) (member : col ∈ raisingKeys header.dimension) :
    sensitive sensitivityMap col = false := by
  by_contra marked
  have alike : SameButFor sensitivityMap (paired col tooLarge) (paired col 1) :=
    .cons ⟨rfl, fun plain => absurd plain marked⟩ (.cons ⟨rfl, fun _ => rfl⟩ .nil)
  obtain ⟨cell, made⟩ := deviation_paired_one runtime member
  have same := independent (fun _ => "") (fun _ => "") _ _ (.cons alike .nil)
  rw [stored_raw found (deviation_paired_tooLarge member), stored_normalized given found made] at same
  have lengths := congrArg List.length (List.cons.inj (Option.some.inj same)).1
  rw [length_shown_drawnRow] at lengths
  have short : (shown sensitivityMap (rawRow (paired col tooLarge))).length ≤ 2 :=
    (List.length_filter_le _ _).trans_eq rfl
  omega

private theorem Independent.drawn (independent : Independent runtime context canonicalRule (.ok ())
      sensitivityMap) (given : canonicalRule.truthy = true)
    (found : Execution.header canonicalRule = .ok header) (draws : Draws header.dimension field col)
    (marked : sensitive sensitivityMap col = true) : sensitive sensitivityMap field = true := by
  by_contra left
  have unmasked : sensitive sensitivityMap field = false := eq_false_of_ne_true left
  have quiet : col ∉ raisingKeys header.dimension := fun member => by
    have plain := independent.raising given found member
    rw [marked] at plain
    cases plain
  have alike : SameButFor sensitivityMap (lone col (.str "a")) (lone col (.str "b")) :=
    .cons ⟨rfl, fun plain => absurd (marked.symm.trans plain) (by decide)⟩ .nil
  have same := independent (fun _ => "") (fun _ => "") _ _ (.cons alike .nil)
  rw [stored_normalized given found (deviation_lone quiet),
    stored_normalized given found (deviation_lone quiet)] at same
  obtain ⟨business, seen, wanted, -, reason, metadata⟩ :=
    shown_drawnRow_iff.mp (List.cons.inj (Option.some.inj same)).1
  cases draws with
  | businessKey member =>
    have cells := maskCell_eq unmasked business
    rw [firstOf_lone member (by decide), firstOf_lone member (by decide)] at cells
    injection cells with values
    injection values with texts
    exact absurd (show "a" = "b" from texts) (by decide)
  | observed member =>
    have cells := maskCell_eq unmasked seen
    rw [observed_lone member (by decide), observed_lone member (by decide)] at cells
    injection cells with values
    injection values with texts
    exact absurd (show "a" = "b" from texts) (by decide)
  | expected member =>
    have cells := maskCell_eq unmasked wanted
    rw [expected_lone member (by decide), expected_lone member (by decide)] at cells
    injection cells with values
    injection values with texts
    exact absurd (show "a" = "b" from texts) (by decide)
  | reason member =>
    have cells := maskCell_eq unmasked reason
    injection cells with values
    injection values with texts
    exact buildIssueReason_lone member texts
  | metadata kept =>
    have cells := maskCell_eq unmasked metadata
    rw [metadata_lone kept, metadata_lone kept] at cells
    injection cells with values
    injection values with entries
    injection entries with entry
    injection entry with name value
    injection value with texts
    exact absurd texts (by decide)

/-- The stored rows do not depend on sensitive columns exactly when, where a rule's rows are
normalized at all, no sensitive column is read as a float and every field that is drawn from one is
masked. -/
theorem samples_independent_iff (runtime : Runtime) (context canonicalRule : Dict)
    (summary : Except Exn Unit) (fields : List (String × Value)) :
    (∀ resultIds otherIds rows others,
      List.Forall₂ (SameButFor (loadSensitivityMap fields)) rows others →
        stored (loadSensitivityMap fields)
            (resultData runtime context canonicalRule summary resultIds rows) =
          stored (loadSensitivityMap fields)
            (resultData runtime context canonicalRule summary otherIds others)) ↔
    (canonicalRule.truthy = true → summary = .ok () → ∀ header,
      Execution.header canonicalRule = .ok header →
        Contained (loadSensitivityMap fields) header.dimension) := by
  constructor
  · intro independent given summarized header found
    subst summarized
    exact ⟨fun col member => Independent.raising independent given found member,
      fun field col draws marked => Independent.drawn independent given found draws marked⟩
  · intro contained resultIds otherIds rows others same
    exact stored_alike contained same resultIds otherIds

private def emailMap : Dict := loadSensitivityMap [("email", .str "confidential")]

private def emailRule : Dict :=
  [("dimension", .str "completeness"),
    ("parameters", .dict [("check_mode", .str "null"), ("columns", .list [.str "phone"])])]

private def emailData (email : String) : ResultData :=
  resultData .ascii [] emailRule (.ok ()) (fun _ => "r1") [lone "email" (.str email)]

/-- A confidential column that the metadata hold is stored as it is. -/
theorem email_stored :
    List.Forall₂ (SameButFor emailMap) [lone "email" (.str "ann@example.com")]
        [lone "email" (.str "bob@example.com")] ∧
      stored emailMap (emailData "ann@example.com") ≠ stored emailMap (emailData "bob@example.com") := by
  have confidential : sensitive emailMap "email" = true := by decide
  refine ⟨.cons (.cons ⟨rfl, fun plain => absurd (confidential.symm.trans plain) (by decide)⟩ .nil)
    .nil, fun same => ?_⟩
  have found : ∃ header, Execution.header emailRule = .ok header ∧
      "email" ∉ raisingKeys header.dimension := ⟨_, rfl, by decide⟩
  obtain ⟨header, found, quiet⟩ := found
  have rows (email : String) : stored emailMap (emailData email) = some [shown emailMap
      (drawnRow .ascii [] header "r1" (lone "email" (.str email)) (.held .none))] :=
    stored_normalized rfl found (deviation_lone quiet)
  rw [rows, rows] at same
  obtain ⟨-, -, -, -, -, metadata⟩ :=
    shown_drawnRow_iff.mp (List.cons.inj (Option.some.inj same)).1
  have cells := maskCell_eq (by decide) metadata
  rw [metadata_lone (by decide), metadata_lone (by decide)] at cells
  injection cells with values
  injection values with entries
  injection entries with entry
  injection entry with name value
  injection value with texts
  exact absurd texts (by decide)

end Noninterference

end CogniDQ.Issues
