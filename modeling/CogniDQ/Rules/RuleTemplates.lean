import CogniDQ.Execution.ResultNormalizer
import CogniDQ.Text.Placeholders
import Mathlib.Data.List.Dedup
import Mathlib.Data.List.Sort
import Mathlib.Data.String.Basic

/-!
# Rule templates

The service that makes a rule of a template: it looks for placeholders by a pattern and replaces them
key by key. The outcome is the documented one exactly if no key occurs in another placeholder or in
the text that the value of another one has become a part of.
-/

set_option autoImplicit false

namespace CogniDQ.Rules.RuleTemplates

open CogniDQ.Python CogniDQ.Execution CogniDQ.Text

/-! ### Placeholders -/

/-- `__[A-Z][A-Z0-9_]*__`. -/
def placeholderForm : Syntax where
  mark := '_'
  initial c := decide ('A' ≤ c ∧ c ≤ 'Z')
  word c := decide ('A' ≤ c ∧ c ≤ 'Z') || decide ('0' ≤ c ∧ c ≤ '9') || c == '_'
  word_mark := by decide
  word_initial c initial := by rw [initial]; rfl

mutual

def texts : Value → List String
  | .str text => [text]
  | .dict entries => entryTexts entries
  | .list values => listTexts values
  | _ => []

def entryTexts : List (String × Value) → List String
  | [] => []
  | (_, value) :: rest => texts value ++ entryTexts rest

def listTexts : List Value → List String
  | [] => []
  | value :: rest => texts value ++ listTexts rest

end

mutual

def mapTexts (f : String → String) : Value → Value
  | .str text => .str (f text)
  | .dict entries => .dict (mapEntryTexts f entries)
  | .list values => .list (mapListTexts f values)
  | other => other

def mapEntryTexts (f : String → String) : List (String × Value) → List (String × Value)
  | [] => []
  | (key, value) :: rest => (key, mapTexts f value) :: mapEntryTexts f rest

def mapListTexts (f : String → String) : List Value → List Value
  | [] => []
  | value :: rest => mapTexts f value :: mapListTexts f rest

end

def extractPlaceholders (template : List (String × Value)) : List String :=
  (entryTexts template).flatMap fun text =>
    (placeholderForm.placeholders text.toList).map String.ofList

def substituteText (mapping : List (String × String)) (text : String) : String :=
  mapping.foldl (fun result item => replaceStr item.1 item.2 result) text

def substitutePlaceholders (template : List (String × Value)) (mapping : List (String × String)) :
    List (String × Value) :=
  mapEntryTexts (substituteText mapping) template

def validateMappingComplete (required : List String) (provided : List (String × String)) :
    List String :=
  (required.filter fun token => token ∉ provided.map Prod.fst).dedup.insertionSort (· ≤ ·)

/-! ### Overrides -/

def validSeverities : List String := ["blocker", "critical", "high", "medium", "low"]

/-- What is left open: the text of a set of strings. -/
structure Shown extends Runtime where
  setText : List String → String

section Overrides

variable (shown : Shown) (overrides : Dict)

def given (key : String) : Option Value :=
  if overrides.has key && !(overrides.get key).isNone then some (overrides.get key) else none

def readThreshold (key : String) (value : Value) : Except Exn Rat := do
  match ← toFloat shown.toRuntime value with
  | .finite number =>
    if 0 ≤ number ∧ number ≤ 100 then return number
    else throw (.valueError (key ++ " must be between 0 and 100"))
  | _ => throw (.valueError (key ++ " must be between 0 and 100"))

def setParameter (rule : Dict) (key : String) (value : Value) : Except Exn Dict :=
  match rule.getD "parameters" (.dict []) with
  | .dict parameters => .ok (rule.set "parameters" (.dict (Dict.set parameters key value)))
  | _ => .error .typeError

def overridePass (rule : Dict) : Except Exn Dict :=
  match given overrides "threshold_pass" with
  | none => .ok rule
  | some value => do
    let number ← readThreshold shown "threshold_pass" value
    let changed ← setParameter rule "threshold_pass" (.float number)
    return changed.set "expectation" (.str (shown.str (.float number) ++ "%"))

def overrideWarn (rule : Dict) : Except Exn Dict :=
  match given overrides "threshold_warn" with
  | none => .ok rule
  | some value => do
    let number ← readThreshold shown "threshold_warn" value
    setParameter rule "threshold_warn" (.float number)

def overrideSeverity (rule : Dict) : Except Exn Dict :=
  match given overrides "severity" with
  | none => .ok rule
  | some value =>
    let severity := shown.lowerStr (shown.str value)
    if severity ∈ validSeverities then .ok (rule.set "severity" (.str severity))
    else .error (.valueError ("severity must be one of " ++ shown.setText validSeverities))

def applyOverrides (rule : Dict) (targetTable : String) : Except Exn Dict := do
  let passed ← overridePass shown overrides rule
  let warned ← overrideWarn shown overrides passed
  let judged ← overrideSeverity shown overrides warned
  return judged.set "target_table" (.str targetTable)

end Overrides

/-! ### Application -/

structure RuleTemplate where
  id : String
  name : String
  canonicalRuleTemplate : List (String × Value)
  useCount : Nat
  isActive : Bool

structure Applied where
  canonicalRule : Dict
  templateId : String
  templateName : String

inductive Failure where
  /-- A `LookupError`. -/
  | notFound (message : String)
  | raised (exception : Exn)

def fullMapping (columnMapping : List (String × String)) (targetTable : String) :
    List (String × String) :=
  if "__TABLE__" ∈ columnMapping.map Prod.fst then
    columnMapping.map fun item => if item.1 = "__TABLE__" then (item.1, targetTable) else item
  else columnMapping ++ [("__TABLE__", targetTable)]

def requiredPlaceholders (template : List (String × Value)) : List String :=
  (extractPlaceholders template).filter (· ≠ "__TABLE__")

def buildRule (shown : Shown) (template : List (String × Value)) (targetTable : String)
    (columnMapping : List (String × String)) (overrides : Dict) : Except Exn Dict := do
  let missing := validateMappingComplete (requiredPlaceholders template) columnMapping
  if missing ≠ [] then
    throw (.valueError ("Missing required column mappings: " ++ join ", " missing))
  applyOverrides shown overrides
    (substitutePlaceholders template (fullMapping columnMapping targetTable)) targetTable

def getTemplateById (templates : List RuleTemplate) (templateId : String) : Option RuleTemplate :=
  templates.find? fun template => template.id = templateId && template.isActive

def applyTemplate (shown : Shown) (templates : List RuleTemplate) (templateId targetTable : String)
    (columnMapping : List (String × String)) (overrides : Option Dict) :
    Except Failure Applied × List RuleTemplate :=
  match getTemplateById templates templateId with
  | none => (.error (.notFound ("Template " ++ templateId ++ " not found")), templates)
  | some template =>
    match buildRule shown template.canonicalRuleTemplate targetTable columnMapping
        (overrides.getD []) with
    | .error exception => (.error (.raised exception), templates)
    | .ok rule =>
      (.ok { canonicalRule := rule, templateId := template.id, templateName := template.name },
        templates.map fun row =>
          if row.id = templateId then { row with useCount := row.useCount + 1 } else row)

/-! ### Exact application -/

section Exact

def chars (mapping : List (String × String)) : List (List Char × List Char) :=
  mapping.map fun item => (item.1.toList, item.2.toList)

def instantiateText (mapping : List (String × String)) (text : String) : String :=
  String.ofList (placeholderForm.instantiate (chars mapping) text.toList)

variable (shown : Shown) (templates : List RuleTemplate) (template : List (String × Value))
  (templateId targetTable : String) (columnMapping : List (String × String))
  (overrides : Option Dict)

def ValidThreshold (overrides : Dict) (key : String) : Prop :=
  ∀ value, given overrides key = some value →
    ∃ number, toFloat shown.toRuntime value = .ok (.finite number) ∧ 0 ≤ number ∧ number ≤ 100

structure ValidOverrides (overrides : Dict) : Prop where
  pass : ValidThreshold shown overrides "threshold_pass"
  warn : ValidThreshold shown overrides "threshold_warn"
  severity : ∀ value, given overrides "severity" = some value →
    shown.lowerStr (shown.str value) ∈ validSeverities

def Mapped : Prop :=
  ∀ token ∈ extractPlaceholders template, token ≠ "__TABLE__" → token ∈ columnMapping.map Prod.fst

structure AppliedExactly : Prop where
  raises : (∃ failure, (applyTemplate shown templates templateId targetTable columnMapping
      overrides).1 = .error failure) ↔
    ¬ (Mapped template columnMapping ∧ ValidOverrides shown (overrides.getD []))
  unchanged : ∀ failure, (applyTemplate shown templates templateId targetTable columnMapping
      overrides).1 = .error failure →
    (applyTemplate shown templates templateId targetTable columnMapping overrides).2 = templates
  /-- In any order of the mapping, each key is replaced where it is a placeholder of the template
  and nowhere else. -/
  once : ∀ order : List (String × String), order.Perm columnMapping → ∀ applied,
    (applyTemplate shown templates templateId targetTable order overrides).1 = .ok applied →
      ∀ text ∈ entryTexts template,
        placeholderForm.Steady (chars (fullMapping order targetTable)) text.toList
  /-- In any order of the mapping, the rule is the template with the values in place of the
  placeholders, and with the overrides and the table. -/
  simultaneous : ∀ order : List (String × String), order.Perm columnMapping → ∀ applied,
    (applyTemplate shown templates templateId targetTable order overrides).1 = .ok applied →
      applyOverrides shown (overrides.getD [])
        (mapEntryTexts (instantiateText (fullMapping columnMapping targetTable)) template)
        targetTable = .ok applied.canonicalRule

/-- No key with another value occurs in another placeholder, nor in what becomes of the run of
another placeholder. The table, unless it is mapped, comes last. -/
def Undisturbed (run : List Char) : Prop :=
  ∀ before placeholder after, placeholderForm.cut run = some (before, placeholder, after) →
    ∀ key value, (key, value) ∈ chars (fullMapping columnMapping targetTable) →
      placeholder ≠ key → value ≠ key →
        (key ∈ (chars columnMapping).map Prod.fst → ¬ key <:+: placeholder) ∧
        (placeholder ∈ (chars columnMapping).map Prod.fst → ∀ filled,
          (placeholder, filled) ∈ chars (fullMapping columnMapping targetTable) →
            ¬ key <:+: before ++ filled ++ after)

end Exact

/-! ### When an application raises -/

section Raising

variable {shown : Shown} {rule : Dict} {overrides : Dict}

def HasParameters (rule : Dict) : Prop :=
  ∀ value, List.lookup "parameters" rule = some value → ∃ entries, value = .dict entries

theorem setParameter_ok (object : HasParameters rule) (key : String) (value : Value) :
    ∃ changed, setParameter rule key value = .ok changed ∧ HasParameters changed := by
  obtain ⟨parameters, found⟩ : ∃ parameters, rule.getD "parameters" (.dict []) = .dict parameters := by
    rw [Dict.getD]
    cases stored : List.lookup "parameters" rule with
    | none => exact ⟨[], rfl⟩
    | some value =>
        obtain ⟨entries, rfl⟩ := object value stored
        exact ⟨entries, rfl⟩
  refine ⟨_, by rw [setParameter, found], ?_⟩
  intro stored same
  rw [Dict.lookup_set_self] at same
  obtain rfl := Option.some.inj same
  exact ⟨_, rfl⟩

private theorem HasParameters.set {key : String} {value : Value} (object : HasParameters rule)
    (other : "parameters" ≠ key) : HasParameters (rule.set key value) := by
  intro stored same
  exact object stored ((Dict.lookup_set_of_ne other.symm).symm.trans same)

theorem readThreshold_ok_iff {key : String} {value : Value} :
    (∃ number, readThreshold shown key value = .ok number) ↔
      ∃ number, toFloat shown.toRuntime value = .ok (.finite number) ∧ 0 ≤ number ∧ number ≤ 100 := by
  constructor
  · rintro ⟨number, read⟩
    obtain ⟨double, found, read⟩ := bind_eq_ok read
    cases double with
    | finite value =>
        dsimp only at read
        split at read
        · rename_i within
          exact ⟨value, found, within⟩
        · cases read
    | infinity negative => cases read
    | nan => cases read
  · rintro ⟨number, found, within⟩
    refine ⟨number, ?_⟩
    rw [readThreshold, found]
    exact if_pos within

private theorem overridePass_ok_iff (object : HasParameters rule) :
    (∃ changed, overridePass shown overrides rule = .ok changed) ↔
      ValidThreshold shown overrides "threshold_pass" := by
  rw [overridePass, ValidThreshold]
  cases stated : given overrides "threshold_pass" with
  | none => exact iff_of_true ⟨rule, rfl⟩ nofun
  | some value =>
      simp only [Option.some.injEq, forall_eq']
      rw [← @readThreshold_ok_iff shown "threshold_pass" value]
      constructor
      · rintro ⟨changed, done⟩
        obtain ⟨number, read, _⟩ := bind_eq_ok done
        exact ⟨number, read⟩
      · rintro ⟨number, read⟩
        obtain ⟨changed, done, _⟩ := setParameter_ok object "threshold_pass" (.float number)
        exact ⟨_, by rw [read]; simp only [bind, Except.bind, done]; rfl⟩

private theorem overridePass_parameters (object : HasParameters rule) {changed : Dict}
    (done : overridePass shown overrides rule = .ok changed) : HasParameters changed := by
  rw [overridePass] at done
  split at done
  · obtain rfl := Except.ok.inj done
    exact object
  · obtain ⟨number, _, done⟩ := bind_eq_ok done
    obtain ⟨inner, set, kept⟩ := setParameter_ok object "threshold_pass" (.float number)
    obtain ⟨found, same, done⟩ := bind_eq_ok done
    obtain rfl := Except.ok.inj (set.symm.trans same)
    obtain rfl := Except.ok.inj done
    exact kept.set (by decide)

private theorem overrideWarn_ok_iff (object : HasParameters rule) :
    (∃ changed, overrideWarn shown overrides rule = .ok changed) ↔
      ValidThreshold shown overrides "threshold_warn" := by
  rw [overrideWarn, ValidThreshold]
  cases stated : given overrides "threshold_warn" with
  | none => exact iff_of_true ⟨rule, rfl⟩ nofun
  | some value =>
      simp only [Option.some.injEq, forall_eq']
      rw [← @readThreshold_ok_iff shown "threshold_warn" value]
      constructor
      · rintro ⟨changed, done⟩
        obtain ⟨number, read, _⟩ := bind_eq_ok done
        exact ⟨number, read⟩
      · rintro ⟨number, read⟩
        obtain ⟨changed, done, _⟩ := setParameter_ok object "threshold_warn" (.float number)
        exact ⟨changed, by rw [read]; exact done⟩

private theorem overrideSeverity_ok_iff :
    (∃ changed, overrideSeverity shown overrides rule = .ok changed) ↔
      ∀ value, given overrides "severity" = some value →
        shown.lowerStr (shown.str value) ∈ validSeverities := by
  rw [overrideSeverity]
  cases stated : given overrides "severity" with
  | none => exact iff_of_true ⟨rule, rfl⟩ nofun
  | some value =>
      simp only [Option.some.injEq, forall_eq']
      by_cases known : shown.lowerStr (shown.str value) ∈ validSeverities
      · exact iff_of_true ⟨_, if_pos known⟩ known
      · refine iff_of_false ?_ known
        rintro ⟨changed, done⟩
        rw [if_neg known] at done
        cases done

private theorem applyOverrides_ok_iff (object : HasParameters rule) (targetTable : String) :
    (∃ applied, applyOverrides shown overrides rule targetTable = .ok applied) ↔
      ValidOverrides shown overrides := by
  constructor
  · rintro ⟨applied, done⟩
    obtain ⟨passed, first, done⟩ := bind_eq_ok done
    obtain ⟨warned, second, done⟩ := bind_eq_ok done
    obtain ⟨judged, third, _⟩ := bind_eq_ok done
    constructor
    · exact (overridePass_ok_iff object).mp ⟨passed, first⟩
    · exact (overrideWarn_ok_iff (overridePass_parameters object first)).mp ⟨warned, second⟩
    · exact overrideSeverity_ok_iff.mp ⟨judged, third⟩
  · intro valid
    obtain ⟨passed, first⟩ := (overridePass_ok_iff object).mpr valid.pass
    obtain ⟨warned, second⟩ :=
      (overrideWarn_ok_iff (overridePass_parameters object first)).mpr valid.warn
    obtain ⟨judged, third⟩ := (@overrideSeverity_ok_iff shown warned overrides).mpr valid.severity
    refine ⟨judged.set "target_table" (.str targetTable), ?_⟩
    simp only [applyOverrides, first, bind, Except.bind, second, third]
    rfl

theorem lookup_mapEntryTexts (f : String → String) (key : String) (entries : List (String × Value)) :
    (mapEntryTexts f entries).lookup key = (entries.lookup key).map (mapTexts f) := by
  induction entries with
  | nil => rfl
  | cons entry rest ih =>
      obtain ⟨name, value⟩ := entry
      rw [mapEntryTexts, List.lookup_cons, List.lookup_cons]
      cases key == name with
      | true => rfl
      | false => exact ih

theorem hasParameters_mapEntryTexts {template : List (String × Value)} (object : HasParameters template)
    (f : String → String) : HasParameters (mapEntryTexts f template) := by
  intro value found
  rw [lookup_mapEntryTexts] at found
  obtain ⟨stored, listed, rfl⟩ := Option.map_eq_some_iff.mp found
  obtain ⟨entries, rfl⟩ := object stored listed
  exact ⟨_, rfl⟩

theorem missing_eq_nil_iff {template : List (String × Value)} {columnMapping : List (String × String)} :
    validateMappingComplete (requiredPlaceholders template) columnMapping = [] ↔
      Mapped template columnMapping := by
  have sorted (tokens : List String) : tokens.dedup.insertionSort (· ≤ ·) = [] ↔ tokens = [] := by
    rw [← List.length_eq_zero_iff, List.length_insertionSort, List.length_eq_zero_iff,
      List.dedup_eq_nil]
  rw [validateMappingComplete, sorted, List.filter_eq_nil_iff]
  simp only [requiredPlaceholders, List.mem_filter, decide_eq_true_eq, not_not, and_imp, Mapped]

theorem buildRule_eq {template : List (String × Value)} {columnMapping : List (String × String)}
    (targetTable : String) (mapped : Mapped template columnMapping) :
    buildRule shown template targetTable columnMapping overrides =
      applyOverrides shown overrides
        (substitutePlaceholders template (fullMapping columnMapping targetTable)) targetTable := by
  have complete := missing_eq_nil_iff.mpr mapped
  simp only [buildRule, complete, ne_eq, not_true_eq_false, if_false]

theorem buildRule_ok_iff {template : List (String × Value)} (object : HasParameters template)
    (targetTable : String) (columnMapping : List (String × String)) :
    (∃ applied, buildRule shown template targetTable columnMapping overrides = .ok applied) ↔
      Mapped template columnMapping ∧ ValidOverrides shown overrides := by
  by_cases mapped : Mapped template columnMapping
  · rw [buildRule_eq targetTable mapped, and_iff_right mapped]
    exact applyOverrides_ok_iff (hasParameters_mapEntryTexts object _) targetTable
  · refine iff_of_false ?_ fun both => mapped both.1
    rintro ⟨applied, done⟩
    have incomplete := mt missing_eq_nil_iff.mp mapped
    simp only [buildRule, ne_eq, incomplete, not_false_eq_true, if_true] at done
    cases done

end Raising

/-! ### When an application is exact -/

section Substitution

mutual

theorem mapTexts_congr {f g : String → String} : (value : Value) →
    (∀ text ∈ texts value, f text = g text) → mapTexts f value = mapTexts g value
  | .str text, same => by
    rw [mapTexts, mapTexts, same text (List.mem_singleton_self _)]
  | .dict entries, same => by
    rw [mapTexts, mapTexts, mapEntryTexts_congr entries same]
  | .list values, same => by
    rw [mapTexts, mapTexts, mapListTexts_congr values same]
  | .none, _ | .bool _, _ | .int _, _ | .float _, _ => rfl

private theorem mapEntryTexts_congr {f g : String → String} : (entries : List (String × Value)) →
    (∀ text ∈ entryTexts entries, f text = g text) → mapEntryTexts f entries = mapEntryTexts g entries
  | [], _ => rfl
  | (key, value) :: rest, same => by
    rw [mapEntryTexts, mapEntryTexts,
      mapTexts_congr value fun text member => same text (List.mem_append_left _ member),
      mapEntryTexts_congr rest fun text member => same text (List.mem_append_right _ member)]

theorem mapListTexts_congr {f g : String → String} : (values : List Value) →
    (∀ text ∈ listTexts values, f text = g text) → mapListTexts f values = mapListTexts g values
  | [], _ => rfl
  | value :: rest, same => by
    rw [mapListTexts, mapListTexts,
      mapTexts_congr value fun text member => same text (List.mem_append_left _ member),
      mapListTexts_congr rest fun text member => same text (List.mem_append_right _ member)]

end

private theorem toList_substituteText (mapping : List (String × String)) (text : String) :
    (substituteText mapping text).toList = Syntax.replaceEach (chars mapping) text.toList := by
  induction mapping generalizing text with
  | nil => rfl
  | cons item rest ih =>
      have first : (replaceStr item.1 item.2 text).toList =
          replace item.1.toList item.2.toList text.toList := String.toList_ofList
      exact (ih _).trans (congrArg (Syntax.replaceEach (chars rest)) first)

private theorem substituteText_of_steady {mapping : List (String × String)} {text : String}
    (steady : placeholderForm.Steady (chars mapping) text.toList) :
    substituteText mapping text = instantiateText mapping text := by
  rw [← String.toList_inj, toList_substituteText, steady.whole, instantiateText,
    String.toList_ofList]

variable {columnMapping : List (String × String)} {targetTable : String}

theorem mem_fullMapping {item : String × String} :
    item ∈ fullMapping columnMapping targetTable ↔
      item = ("__TABLE__", targetTable) ∨ item ∈ columnMapping ∧ item.1 ≠ "__TABLE__" := by
  rw [fullMapping]
  split
  · rename_i mapped
    rw [List.mem_map]
    constructor
    · rintro ⟨stored, listed, rfl⟩
      split
      · rename_i table
        exact .inl (by rw [table])
      · rename_i column
        exact .inr ⟨listed, column⟩
    · rintro (rfl | ⟨listed, column⟩)
      · obtain ⟨stored, listed, table⟩ := List.mem_map.mp mapped
        exact ⟨stored, listed, by rw [if_pos table, table]⟩
      · exact ⟨item, listed, if_neg column⟩
  · rename_i unmapped
    rw [List.mem_append, List.mem_singleton]
    constructor
    · rintro (listed | table)
      · refine .inr ⟨listed, fun table => unmapped ?_⟩
        rw [← table]
        exact List.mem_map_of_mem listed
      · exact .inl table
    · rintro (table | ⟨listed, _⟩)
      · exact .inr table
      · exact .inl listed

theorem keys_fullMapping (columnMapping : List (String × String)) (targetTable : String) :
    (fullMapping columnMapping targetTable).map Prod.fst =
      if "__TABLE__" ∈ columnMapping.map Prod.fst then columnMapping.map Prod.fst
      else columnMapping.map Prod.fst ++ ["__TABLE__"] := by
  rw [fullMapping]
  split
  · rw [List.map_map]
    refine List.map_congr_left fun item _ => ?_
    rw [Function.comp_apply]
    split <;> rfl
  · rw [List.map_append]
    rfl

theorem nodup_fullMapping (unique : (columnMapping.map Prod.fst).Nodup) :
    ((fullMapping columnMapping targetTable).map Prod.fst).Nodup := by
  rw [keys_fullMapping]
  split
  · exact unique
  · rename_i absent
    refine List.nodup_append.mpr ⟨unique, List.nodup_singleton _, fun key listed table same => ?_⟩
    rw [List.mem_singleton] at same
    intro equal
    rw [equal, same] at listed
    exact absent listed

theorem exists_of_mem_chars {mapping : List (String × String)} {item : List Char × List Char}
    (member : item ∈ chars mapping) :
    ∃ key value, (key, value) ∈ mapping ∧ item = (key.toList, value.toList) := by
  obtain ⟨stored, listed, rfl⟩ := List.mem_map.mp member
  exact ⟨stored.1, stored.2, listed, rfl⟩

private theorem mem_keys_chars {mapping : List (String × String)} {key : String} :
    key.toList ∈ (chars mapping).map Prod.fst ↔ key ∈ mapping.map Prod.fst := by
  simp [chars, String.toList_inj]

theorem keys_chars (mapping : List (String × String)) :
    (chars mapping).map Prod.fst = (mapping.map Prod.fst).map String.toList := by
  rw [chars, List.map_map, List.map_map]
  rfl

theorem nodup_chars {mapping : List (String × String)} (unique : (mapping.map Prod.fst).Nodup) :
    ((chars mapping).map Prod.fst).Nodup := by
  rw [keys_chars]
  exact unique.map fun _ _ same => String.toList_inj.mp same

/-- The keys of the form that the pattern finds. -/
def KeyForm (columnMapping : List (String × String)) : Prop :=
  ∀ item ∈ columnMapping, placeholderForm.IsKey item.1.toList

theorem isKey_fullMapping (form : KeyForm columnMapping) :
    ∀ item ∈ chars (fullMapping columnMapping targetTable), placeholderForm.IsKey item.1 := by
  intro item member
  obtain ⟨key, value, listed, rfl⟩ := exists_of_mem_chars member
  rcases mem_fullMapping.mp listed with table | ⟨mapped, _⟩
  · obtain ⟨rfl, rfl⟩ := Prod.mk.inj table
    show placeholderForm.IsKey "__TABLE__".toList
    decide
  · exact form _ mapped

theorem lookup_eq_some_iff {mapping : List (List Char × List Char)}
    (unique : (mapping.map Prod.fst).Nodup) {key value : List Char} :
    mapping.lookup key = some value ↔ (key, value) ∈ mapping := by
  induction mapping with
  | nil => simp
  | cons item rest ih =>
      obtain ⟨name, stored⟩ := item
      obtain ⟨absent, unique⟩ := List.nodup_cons.mp unique
      rw [List.lookup_cons, List.mem_cons]
      by_cases same : key = name
      · subst same
        have missing : (key, value) ∉ rest := fun listed => absent (List.mem_map.mpr ⟨_, listed, rfl⟩)
        simp [missing, eq_comm]
      · rw [beq_eq_false_iff_ne.mpr same, ih unique]
        simp [same]

private theorem instantiate_perm {first second : List (List Char × List Char)}
    (unique : (first.map Prod.fst).Nodup) (perm : first.Perm second) (text : List Char) :
    placeholderForm.instantiate first text = placeholderForm.instantiate second text := by
  have same : ∀ key, first.lookup key = second.lookup key := by
    intro key
    ext value
    rw [lookup_eq_some_iff unique, lookup_eq_some_iff ((perm.map _).nodup_iff.mp unique),
      perm.mem_iff]
  simp only [Syntax.instantiate, same]

theorem fullMapping_perm {order : List (String × String)} (perm : order.Perm columnMapping) :
    (fullMapping order targetTable).Perm (fullMapping columnMapping targetTable) := by
  have same := (perm.map Prod.fst).mem_iff (a := "__TABLE__")
  rw [fullMapping, fullMapping]
  by_cases mapped : "__TABLE__" ∈ columnMapping.map Prod.fst
  · rw [if_pos mapped, if_pos (same.mpr mapped)]
    exact perm.map _
  · rw [if_neg mapped, if_neg (mt same.mp mapped)]
    exact perm.append_right _

theorem early_key {order : List (String × String)} {front more : List (List Char × List Char)}
    {item : List Char × List Char}
    (split : chars (fullMapping order targetTable) = front ++ item :: more) (followed : more ≠ []) :
    item.1 ∈ (chars order).map Prod.fst := by
  have keys := congrArg (List.map Prod.fst) split
  rw [keys_chars, keys_fullMapping, List.map_append, List.map_cons] at keys
  rw [keys_chars]
  by_cases mapped : "__TABLE__" ∈ order.map Prod.fst
  · rw [if_pos mapped] at keys
    rw [keys]
    exact List.mem_append_right _ List.mem_cons_self
  · rw [if_neg mapped, List.map_append, List.map_singleton] at keys
    have behind : more.map Prod.fst ≠ [] := by simpa using followed
    have shorter := congrArg List.dropLast keys
    rw [List.dropLast_concat, List.dropLast_append_of_ne_nil (List.cons_ne_nil _ _),
      List.dropLast_cons_of_ne_nil behind] at shorter
    rw [shorter]
    exact List.mem_append_right _ List.mem_cons_self

private theorem fullMapping_cons (item : String × String) (others : List (String × String)) :
    ∃ value rest, fullMapping (item :: others) targetTable = (item.1, value) :: rest := by
  rw [fullMapping]
  split
  · rw [List.map_cons]
    split
    · exact ⟨_, _, rfl⟩
    · exact ⟨item.2, _, rfl⟩
  · exact ⟨item.2, _, rfl⟩

theorem value_unique {mapping : List (List Char × List Char)} (unique : (mapping.map Prod.fst).Nodup)
    {key first second : List Char} (one : (key, first) ∈ mapping) (other : (key, second) ∈ mapping) :
    first = second := by
  rw [← lookup_eq_some_iff unique] at one other
  exact Option.some.inj (one.symm.trans other)

private theorem exists_order {key : List Char}
    (mapped : key ∈ (chars columnMapping).map Prod.fst) :
    ∃ order : List (String × String), order.Perm columnMapping ∧
      ∃ value rest, chars (fullMapping order targetTable) = (key, value) :: rest := by
  obtain ⟨stored, member, rfl⟩ := List.mem_map.mp mapped
  obtain ⟨name, value, listed, rfl⟩ := exists_of_mem_chars member
  obtain ⟨filled, rest, first⟩ :=
    @fullMapping_cons targetTable (name, value) (columnMapping.erase (name, value))
  refine ⟨_, (List.perm_cons_erase listed).symm, filled.toList, chars rest, ?_⟩
  rw [first]
  rfl

theorem chars_perm {order : List (String × String)} (perm : order.Perm columnMapping) :
    (chars (fullMapping order targetTable)).Perm (chars (fullMapping columnMapping targetTable)) :=
  (fullMapping_perm perm).map _

variable {template : List (String × Value)}

private theorem steady_of_undisturbed (unique : (columnMapping.map Prod.fst).Nodup)
    (form : KeyForm columnMapping) (mapped : Mapped template columnMapping)
    {order : List (String × String)} (perm : order.Perm columnMapping) {text : String}
    (listed : text ∈ entryTexts template)
    (undisturbed : ∀ run ∈ placeholderForm.runs text.toList,
      Undisturbed targetTable columnMapping run) :
    placeholderForm.Steady (chars (fullMapping order targetTable)) text.toList := by
  have orderUnique : (order.map Prod.fst).Nodup := (perm.map _).nodup_iff.mpr unique
  have orderForm : KeyForm order := fun item member => form item (perm.mem_iff.mp member)
  have sameKeys {key : List Char} (found : key ∈ (chars order).map Prod.fst) :
      key ∈ (chars columnMapping).map Prod.fst :=
    ((perm.map _).map _).mem_iff.mp found
  rw [Syntax.steady_iff (nodup_chars (nodup_fullMapping orderUnique)) (isKey_fullMapping orderForm)]
  intro done key value rest split run member before placeholder after parts distinct changed
  have within {item : List Char × List Char} (found : item ∈ chars (fullMapping order targetTable)) :
      item ∈ chars (fullMapping columnMapping targetTable) := (chars_perm perm).mem_iff.mp found
  have own : (key, value) ∈ chars (fullMapping order targetTable) := by
    rw [split]
    exact List.mem_append_right _ List.mem_cons_self
  obtain ⟨apart, free⟩ :=
    undisturbed run member before placeholder after parts key value (within own) distinct changed
  rw [Syntax.standing]
  cases found : done.lookup placeholder with
  | some filled =>
      -- The placeholder has been replaced before, so its key is not the last one.
      have fullUnique := nodup_chars (@nodup_fullMapping order targetTable orderUnique)
      rw [split, List.map_append] at fullUnique
      have stored := (lookup_eq_some_iff (List.nodup_append.mp fullUnique).1).mp found
      obtain ⟨front, back, rfl⟩ := List.append_of_mem stored
      have early : chars (fullMapping order targetTable) =
          front ++ (placeholder, filled) :: (back ++ (key, value) :: rest) := by
        rw [split, List.append_assoc, List.cons_append]
      refine free (sameKeys (early_key early (by simp))) filled (within ?_)
      rw [early]
      exact List.mem_append_right _ List.mem_cons_self
  | none =>
      -- The placeholder is still to be replaced, so this key is not the last one.
      have token : String.ofList placeholder ∈ extractPlaceholders template :=
        List.mem_flatMap.mpr ⟨text, listed,
          List.mem_map_of_mem (Syntax.mem_placeholders_of_cut member parts)⟩
      have present : placeholder ∈ (chars (fullMapping order targetTable)).map Prod.fst := by
        have name : String.ofList placeholder ∈ (fullMapping order targetTable).map Prod.fst := by
          by_cases table : String.ofList placeholder = "__TABLE__"
          · rw [table]
            exact List.mem_map.mpr ⟨_, mem_fullMapping.mpr (.inl rfl), rfl⟩
          · obtain ⟨item, stored, same⟩ := List.mem_map.mp (mapped _ token table)
            refine List.mem_map.mpr ⟨item, mem_fullMapping.mpr (.inr ⟨perm.mem_iff.mpr stored, ?_⟩), same⟩
            rw [same]
            exact table
        have listed := mem_keys_chars.mpr name
        rwa [String.toList_ofList] at listed
      refine apart (sameKeys (early_key split ?_))
      intro last
      rw [split, last, List.map_append, List.mem_append] at present
      rcases present with before_ | self
      · obtain ⟨item, stored, same⟩ := List.mem_map.mp before_
        exact List.lookup_eq_none_iff.mp found item stored |> fun other => by
          simp [same] at other
      · exact distinct (by simpa using self)

private theorem undisturbed_of_steady (unique : (columnMapping.map Prod.fst).Nodup)
    (form : KeyForm columnMapping) {text : String}
    (steady : ∀ order : List (String × String), order.Perm columnMapping →
      placeholderForm.Steady (chars (fullMapping order targetTable)) text.toList) :
    ∀ run ∈ placeholderForm.runs text.toList, Undisturbed targetTable columnMapping run := by
  intro run member before placeholder after parts key value listed distinct changed
  have untouched {order : List (String × String)} (perm : order.Perm columnMapping) :=
    (Syntax.steady_iff (nodup_chars (nodup_fullMapping ((perm.map _).nodup_iff.mpr unique)))
      (isKey_fullMapping fun item found => form item (perm.mem_iff.mp found)) text.toList).mp
        (steady order perm)
  have values {order : List (String × String)} (perm : order.Perm columnMapping) :
      ((chars (fullMapping order targetTable)).map Prod.fst).Nodup :=
    nodup_chars (nodup_fullMapping ((perm.map _).nodup_iff.mpr unique))
  constructor
  · intro mapped
    obtain ⟨order, perm, filled, rest, first⟩ := @exists_order columnMapping targetTable key mapped
    have own := (@chars_perm columnMapping targetTable _ perm).mem_iff.mpr listed
    have same : filled = value := value_unique (values perm) (by rw [first]; exact List.mem_cons_self) own
    rw [same] at first
    exact untouched perm [] key value rest first run member before placeholder after parts distinct
      changed
  · intro mapped filled stored
    obtain ⟨order, perm, value_, rest, first⟩ :=
      @exists_order columnMapping targetTable placeholder mapped
    have own := (@chars_perm columnMapping targetTable _ perm).mem_iff.mpr listed
    have same : value_ = filled := value_unique (values perm) (by rw [first]; exact List.mem_cons_self)
      ((@chars_perm columnMapping targetTable _ perm).mem_iff.mpr stored)
    rw [first, same] at own
    have later : (key, value) ∈ rest := by
      rcases List.mem_cons.mp own with equal | later
      · exact absurd (Prod.mk.inj equal).1.symm distinct
      · exact later
    obtain ⟨front, back, rfl⟩ := List.append_of_mem later
    rw [same] at first
    have result := untouched perm ((placeholder, filled) :: front) key value back first run member before
      placeholder after parts distinct changed
    rwa [Syntax.standing, List.lookup_cons_self] at result

end Substitution

section Application

variable {shown : Shown} {templates : List RuleTemplate} {template : RuleTemplate}
  {templateId targetTable : String} {columnMapping : List (String × String)}
  {overrides : Option Dict}

theorem applyTemplate_of_error (active : getTemplateById templates templateId = some template)
    {exception : Exn}
    (built : buildRule shown template.canonicalRuleTemplate targetTable columnMapping
      (overrides.getD []) = .error exception) :
    applyTemplate shown templates templateId targetTable columnMapping overrides =
      (.error (.raised exception), templates) := by
  simp only [applyTemplate, active, built]

theorem applyTemplate_of_ok (active : getTemplateById templates templateId = some template)
    {rule : Dict}
    (built : buildRule shown template.canonicalRuleTemplate targetTable columnMapping
      (overrides.getD []) = .ok rule) :
    (applyTemplate shown templates templateId targetTable columnMapping overrides).1 =
      .ok ⟨rule, template.id, template.name⟩ := by
  simp only [applyTemplate, active, built]

theorem applyTemplate_error_iff (active : getTemplateById templates templateId = some template)
    (object : HasParameters template.canonicalRuleTemplate) :
    (∃ failure, (applyTemplate shown templates templateId targetTable columnMapping overrides).1 =
        .error failure) ↔
      ¬ (Mapped template.canonicalRuleTemplate columnMapping ∧
        ValidOverrides shown (overrides.getD [])) := by
  rw [← @buildRule_ok_iff shown (overrides.getD []) _ object targetTable columnMapping]
  cases built : buildRule shown template.canonicalRuleTemplate targetTable columnMapping
      (overrides.getD []) with
  | error exception =>
      rw [applyTemplate_of_error active built]
      exact iff_of_true ⟨_, rfl⟩ fun ⟨_, done⟩ => by cases done
  | ok rule =>
      rw [applyTemplate_of_ok active built]
      exact iff_of_false (fun ⟨_, raised⟩ => by cases raised) fun none => none ⟨rule, rfl⟩

theorem applyTemplate_unchanged (active : getTemplateById templates templateId = some template)
    {failure : Failure}
    (raised : (applyTemplate shown templates templateId targetTable columnMapping overrides).1 =
      .error failure) :
    (applyTemplate shown templates templateId targetTable columnMapping overrides).2 = templates := by
  cases built : buildRule shown template.canonicalRuleTemplate targetTable columnMapping
      (overrides.getD []) with
  | error exception => rw [applyTemplate_of_error active built]
  | ok rule =>
      rw [applyTemplate_of_ok active built] at raised
      cases raised

private theorem buildRule_of_applied (active : getTemplateById templates templateId = some template)
    {applied : Applied}
    (success : (applyTemplate shown templates templateId targetTable columnMapping overrides).1 =
      .ok applied) :
    buildRule shown template.canonicalRuleTemplate targetTable columnMapping (overrides.getD []) =
      .ok applied.canonicalRule := by
  cases built : buildRule shown template.canonicalRuleTemplate targetTable columnMapping
      (overrides.getD []) with
  | error exception =>
      rw [applyTemplate_of_error active built] at success
      cases success
  | ok rule =>
      rw [applyTemplate_of_ok active built] at success
      obtain rfl := Except.ok.inj success
      rfl

private theorem mapped_perm {rule : List (String × Value)} {order : List (String × String)}
    (perm : order.Perm columnMapping) : Mapped rule order ↔ Mapped rule columnMapping := by
  simp only [Mapped, (perm.map Prod.fst).mem_iff]

/-- An application is exact if and only if, where it returns, no key occurs where it is not a
placeholder of the template. -/
theorem applyTemplate_exact_iff (active : getTemplateById templates templateId = some template)
    (object : HasParameters template.canonicalRuleTemplate)
    (unique : (columnMapping.map Prod.fst).Nodup) (form : KeyForm columnMapping) :
    AppliedExactly shown templates template.canonicalRuleTemplate templateId targetTable columnMapping
        overrides ↔
      (Mapped template.canonicalRuleTemplate columnMapping ∧
          ValidOverrides shown (overrides.getD []) →
        ∀ text ∈ entryTexts template.canonicalRuleTemplate,
          ∀ run ∈ placeholderForm.runs text.toList, Undisturbed targetTable columnMapping run) := by
  have accepted {order : List (String × String)} {applied : Applied}
      (perm : order.Perm columnMapping)
      (success : (applyTemplate shown templates templateId targetTable order overrides).1 =
        .ok applied) :
      Mapped template.canonicalRuleTemplate columnMapping ∧
        ValidOverrides shown (overrides.getD []) := by
    rw [← mapped_perm perm]
    exact (buildRule_ok_iff object targetTable order).mp ⟨_, buildRule_of_applied active success⟩
  constructor
  · intro exact_ accepts text listed
    refine undisturbed_of_steady unique form fun order perm => ?_
    cases result : (applyTemplate shown templates templateId targetTable order overrides).1 with
    | error failure =>
        refine absurd ?_ ((applyTemplate_error_iff active object).mp ⟨failure, result⟩)
        rw [mapped_perm perm]
        exact accepts
    | ok applied => exact exact_.once order perm applied result text listed
  · intro undisturbed
    have steady {order : List (String × String)} {applied : Applied}
        (perm : order.Perm columnMapping)
        (success : (applyTemplate shown templates templateId targetTable order overrides).1 =
          .ok applied) : ∀ text ∈ entryTexts template.canonicalRuleTemplate,
        placeholderForm.Steady (chars (fullMapping order targetTable)) text.toList :=
      fun text listed => steady_of_undisturbed unique form (accepted perm success).1 perm listed
        (undisturbed (accepted perm success) text listed)
    constructor
    · exact applyTemplate_error_iff active object
    · exact fun failure raised => applyTemplate_unchanged active raised
    · exact fun order perm applied success => steady perm success
    · intro order perm applied success
      have orderUnique : (order.map Prod.fst).Nodup := (perm.map _).nodup_iff.mpr unique
      have same : mapEntryTexts (instantiateText (fullMapping columnMapping targetTable))
            template.canonicalRuleTemplate =
          substitutePlaceholders template.canonicalRuleTemplate (fullMapping order targetTable) := by
        refine mapEntryTexts_congr _ fun text listed => ?_
        rw [substituteText_of_steady (steady perm success text listed), instantiateText,
          instantiateText, instantiate_perm (nodup_chars (nodup_fullMapping orderUnique))
            (chars_perm perm)]
      rw [same, ← buildRule_eq targetTable ((mapped_perm perm).mpr (accepted perm success).1)]
      exact buildRule_of_applied active success

end Application

section Column

private def plainShown : Shown where
  toRuntime := .ascii
  setText := join ", "

private def columnTemplate : RuleTemplate where
  id := "not_null"
  name := "Not null"
  canonicalRuleTemplate := [("column", .str "__COLUMN__")]
  useCount := 0
  isActive := true

private theorem columnTemplate_parameters : HasParameters columnTemplate.canonicalRuleTemplate := by
  intro value found
  have missing : columnTemplate.canonicalRuleTemplate.lookup "parameters" = none := by decide
  rw [missing] at found
  cases found

theorem age_applied_exactly :
    AppliedExactly plainShown [columnTemplate] columnTemplate.canonicalRuleTemplate "not_null"
      "customers" [("__COLUMN__", "age")] none := by
  have form : KeyForm [("__COLUMN__", "age")] := by
    intro item member
    obtain rfl := List.mem_singleton.mp member
    decide
  refine (applyTemplate_exact_iff rfl columnTemplate_parameters (by decide) form).mpr ?_
  intro _ text listed run member before placeholder after parts key value stored distinct changed
  obtain rfl := List.mem_singleton.mp listed
  have single : run = "__COLUMN__".toList := List.mem_singleton.mp member
  rw [single] at parts
  have whole : ([], "__COLUMN__".toList, []) = (before, placeholder, after) :=
    Option.some.inj parts
  cases whole
  have table : (key, value) = ("__TABLE__".toList, "customers".toList) := by
    rcases List.mem_cons.mp stored with own | later
    · exact absurd (congrArg Prod.fst own).symm distinct
    · exact List.mem_singleton.mp later
  cases table
  constructor
  · intro mapped
    exact absurd mapped (by decide)
  · intro _ filled found
    have age : filled = "age".toList := by
      rcases List.mem_cons.mp found with own | later
      · exact congrArg Prod.snd own
      · have table : "__COLUMN__".toList = "__TABLE__".toList :=
          congrArg Prod.fst (List.mem_singleton.mp later)
        exact absurd table (by decide)
    rw [age]
    decide

/-- The name of a column is the placeholder of another key. -/
theorem reference_replaced_twice :
    ¬ AppliedExactly plainShown [columnTemplate] columnTemplate.canonicalRuleTemplate "not_null"
      "customers" [("__COLUMN__", "__REF__"), ("__REF__", "age")] none := by
  intro exact_
  have returned := exact_.simultaneous _ (.refl _) _ rfl
  have same : [("column", Value.str "__REF__"), ("target_table", .str "customers")] =
      [("column", .str "age"), ("target_table", .str "customers")] := Except.ok.inj returned
  simp at same

end Column

end CogniDQ.Rules.RuleTemplates
