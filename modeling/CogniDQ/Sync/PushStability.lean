import CogniDQ.Python.Value
import CogniDQ.Sync.RuleFlowSync

/-!
# Pushing a rule and mirroring it back

After a push the linked check nodes carry the overrides. Whether these are the rule's own fields,
and whether mirroring the nodes back leaves the rule alone, depends on what the rule's metadata
still says about the check.
-/

set_option autoImplicit false

namespace CogniDQ.Sync

open CogniDQ.Python CogniDQ.Flow

section Push

theorem lookup_filter_not_none {entries : List (String × Value)} (key : String)
    (distinct : (entries.map (·.1)).Nodup) :
    (entries.filter fun entry => !entry.2.isNone).lookup key =
      (entries.lookup key).filter (!·.isNone) := by
  have kept := distinct.sublist ((List.filter_sublist (p := fun entry => !entry.2.isNone)).map _)
  cases found : entries.lookup key with
  | none =>
    refine lookup_of_absent fun listed => ?_
    obtain ⟨entry, member, rfl⟩ := List.mem_map.mp listed
    have present := lookup_of_member distinct (List.mem_filter.mp member).1
    cases found.symm.trans present
  | some value =>
    have member : (key, value) ∈ entries := Value.mem_of_lookup found
    cases dropped : value.isNone with
    | true =>
      have absent : key ∉ (entries.filter fun entry => !entry.2.isNone).map (·.1) := by
        intro listed
        obtain ⟨entry, kept, rfl⟩ := List.mem_map.mp listed
        obtain ⟨older, given⟩ := List.mem_filter.mp kept
        have same := Option.some.inj (found.symm.trans (lookup_of_member distinct older))
        simp [← same, dropped] at given
      rw [lookup_of_absent absent]
      simp [Option.filter, dropped]
    | false =>
      rw [lookup_of_member kept (List.mem_filter.mpr ⟨member, by simp [dropped]⟩)]
      simp [Option.filter, dropped]

/-- What the config holds under a key once an override has been pushed. -/
def pushedValue (held value : Value) : Value := if held.eq value then held else value

theorem pushedValue_eq (held value : Value) : (pushedValue held value).eq value = true := by
  unfold pushedValue
  split
  · assumption
  · exact Value.eq_refl value

private theorem get_pushEntry_self (state : Dict × Bool) (key : String) (value : Value) :
    (pushEntry state (key, value)).1.get key = pushedValue (state.1.get key) value := by
  unfold pushEntry pushedValue
  split
  · rfl
  · exact Dict.get_set_self

private theorem get_pushEntry_of_ne (state : Dict × Bool) {key other : String} (value : Value)
    (apart : key ≠ other) : (pushEntry state (key, value)).1.get other = state.1.get other := by
  unfold pushEntry
  split
  · rfl
  · exact Dict.get_set_of_ne apart

theorem get_pushConfig {overrides : List (String × Value)}
    (distinct : (overrides.map (·.1)).Nodup) (config : Dict) (key : String) :
    (pushConfig overrides config).1.get key =
      match overrides.lookup key with
      | some value => pushedValue (config.get key) value
      | none => config.get key := by
  unfold pushConfig
  generalize false = changed
  induction overrides generalizing config changed with
  | nil => rfl
  | cons entry rest ih =>
    obtain ⟨name, value⟩ := entry
    obtain ⟨absent, distinct⟩ := List.nodup_cons.mp distinct
    rw [List.foldl_cons]
    refine (ih distinct (pushEntry (config, changed) (name, value)).1
      (pushEntry (config, changed) (name, value)).2).trans ?_
    by_cases same : key = name
    · subst same
      rw [lookup_of_absent absent, List.lookup_cons_self]
      exact get_pushEntry_self ..
    · have skipped : (key == name) = false := by simpa using same
      rw [List.lookup_cons, skipped, get_pushEntry_of_ne _ value (Ne.symm same)]

private theorem pushEntry_unchanged {state : Dict × Bool} {entry : String × Value}
    (same : (state.1.get entry.1).eq entry.2 = true) : pushEntry state entry = state := if_pos same

private theorem pushConfig_unchanged {overrides : List (String × Value)} {config : Dict}
    (carried : ∀ entry ∈ overrides, (config.get entry.1).eq entry.2 = true) :
    pushConfig overrides config = (config, false) := by
  unfold pushConfig
  generalize false = changed
  induction overrides with
  | nil => rfl
  | cons entry rest ih =>
    rw [List.foldl_cons, pushEntry_unchanged (carried entry List.mem_cons_self)]
    exact ih fun later member => carried later (List.mem_cons_of_mem _ member)

private theorem pushConfig_again {overrides : List (String × Value)}
    (distinct : (overrides.map (·.1)).Nodup) (config : Dict) :
    pushConfig overrides (pushConfig overrides config).1 = ((pushConfig overrides config).1, false) := by
  refine pushConfig_unchanged fun entry member => ?_
  rw [get_pushConfig distinct, lookup_of_member distinct member]
  exact pushedValue_eq ..

end Push

section Mirror

variable {Uuid : Type}

theorem get_eq_of_eqEntries {left right : Dict} (same : Value.eqEntries [] left right = true)
    (key : String) : (left.get key).eq (right.get key) = true := by
  have related := Value.eqEntries_iff.mp same key List.not_mem_nil
  unfold Dict.get Dict.getD
  generalize List.lookup key left = found at related
  generalize List.lookup key right = other at related
  cases related with
  | none => rfl
  | some equal => exact equal

/-- A threshold is not mirrored: it is not given, or it is the rule's already. -/
def thresholdKept (current : Dict) (key : String) (value : Value) : Prop :=
  value.isNone = true ∨ (current.get key).eq value = true

theorem pullThreshold_kept {current : Dict} {key : String} {value : Value} {thresholds : Dict}
    (kept : thresholdKept current key value) :
    pullThreshold current key value thresholds = thresholds := by
  unfold pullThreshold
  rcases kept with none | same
  · simp [none]
  · simp [same]

theorem get_pullThreshold {current : Dict} {key : String} {value : Value} {thresholds : Dict}
    (changed : ¬thresholdKept current key value) :
    (pullThreshold current key value thresholds).get key = value := by
  have taken : (!value.isNone && !(current.get key).eq value) = true := by
    unfold thresholdKept at changed
    push Not at changed
    simp [changed.1, changed.2]
  unfold pullThreshold
  rw [if_pos taken]
  exact Dict.get_set_self

theorem get_pullThreshold_of_ne {current : Dict} {key other : String} {value : Value}
    {thresholds : Dict} (apart : key ≠ other) :
    (pullThreshold current key value thresholds).get other = thresholds.get other := by
  unfold pullThreshold
  split
  · exact Dict.get_set_of_ne apart
  · rfl

private theorem eqEntries_refl (entries : List (String × Value)) :
    Value.eqEntries [] entries entries = true := by
  obtain ⟨others, same, equal⟩ := Value.eq_dict.mp (Value.eq_refl (.dict entries))
  cases same
  exact equal

private theorem newThresholds_kept_iff (cfg current : Dict) :
    Value.eqEntries [] (newThresholds cfg current) current = true ↔
      thresholdKept current "pass_threshold" (cfg.get "threshold_pass") ∧
        thresholdKept current "warning_threshold" (cfg.get "threshold_warn") := by
  unfold newThresholds
  constructor
  · intro same
    constructor
    · by_contra changed
      have equal := get_eq_of_eqEntries same "pass_threshold"
      rw [get_pullThreshold_of_ne (by decide), get_pullThreshold changed] at equal
      exact changed (.inr (Value.eq_symm _ equal))
    · by_contra changed
      have equal := get_eq_of_eqEntries same "warning_threshold"
      rw [get_pullThreshold changed] at equal
      exact changed (.inr (Value.eq_symm _ equal))
  · rintro ⟨passKept, warnKept⟩
    rw [pullThreshold_kept warnKept, pullThreshold_kept passKept]
    exact eqEntries_refl current

structure Mirrored (runtime : Runtime) (cfg : Dict) (rule : DQRule Uuid) : Prop where
  name : ((cfg.get "ruleName").or (cfg.get "rule_name")).truthy = true →
    ((cfg.get "ruleName").or (cfg.get "rule_name")).eq rule.name = true
  description : (cfg.get "description").isNone = false →
    (cfg.get "description").eq (rule.description.or (.str "")) = true
  subtype : (cfg.get "subtype").truthy = true → (cfg.get "subtype").eq rule.ruleType = true
  columns : (cfg.get "columns").isNone = false → ∃ listed, (cfg.get "columns").elements = .ok listed ∧
    Value.eqList listed (rule.targetColumns.getD []) = true
  severity : (cfg.get "severity").truthy = true →
    rule.canonicalRule.get "severity" = .str (backendSeverity runtime (cfg.get "severity"))
  pass : thresholdKept (rule.thresholdConfig.getD []) "pass_threshold" (cfg.get "threshold_pass")
  warn : thresholdKept (rule.thresholdConfig.getD []) "warning_threshold" (cfg.get "threshold_warn")

theorem ite_none_iff {α : Type} {condition : Prop} [Decidable condition] {value : α} :
    (if condition then some value else none) = none ↔ ¬condition := by
  split <;> simp [*]

private theorem ite_none_left_iff {α : Type} {condition : Prop} [Decidable condition] {value : α} :
    (if condition then none else some value) = none ↔ condition := by
  split <;> simp [*]

theorem map_eq_ok {α β : Type} {outcome : Except Exn α} {render : α → β} {result : β}
    (success : outcome.map render = .ok result) :
    ∃ source, outcome = .ok source ∧ render source = result := by
  cases outcome with
  | error error => cases success
  | ok source => exact ⟨source, rfl, Except.ok.inj success⟩

private theorem patchWith_empty_iff (runtime : Runtime) (cfg : Dict) (rule : DQRule Uuid)
    (targetColumns : Option (List Value)) :
    (patchWith runtime cfg rule targetColumns).isEmpty = true ↔
      (((cfg.get "ruleName").or (cfg.get "rule_name")).truthy = true →
        ((cfg.get "ruleName").or (cfg.get "rule_name")).eq rule.name = true) ∧
      ((cfg.get "description").isNone = false →
        (cfg.get "description").eq (rule.description.or (.str "")) = true) ∧
      ((cfg.get "subtype").truthy = true → (cfg.get "subtype").eq rule.ruleType = true) ∧
      targetColumns = none ∧
      ((cfg.get "severity").truthy = true →
        rule.canonicalRule.get "severity" = .str (backendSeverity runtime (cfg.get "severity"))) ∧
      thresholdKept (rule.thresholdConfig.getD []) "pass_threshold" (cfg.get "threshold_pass") ∧
      thresholdKept (rule.thresholdConfig.getD []) "warning_threshold" (cfg.get "threshold_warn") := by
  have kept : (if Value.eqEntries [] (newThresholds cfg (rule.thresholdConfig.getD []))
      (rule.thresholdConfig.getD []) = true then none
      else some (newThresholds cfg (rule.thresholdConfig.getD []))) = none ↔ _ :=
    ite_none_left_iff.trans (newThresholds_kept_iff cfg _)
  simp only [Patch.isEmpty, patchWith, Bool.and_eq_true, Option.isNone_iff_eq_none, ite_none_iff,
    kept, Bool.not_eq_true', not_and, Bool.not_eq_false, Value.eq_str, and_assoc]

theorem nodeToRulePatch_empty_iff (runtime : Runtime) (cfg : Dict) (rule : DQRule Uuid) :
    (∃ patch, nodeToRulePatch runtime cfg rule = .ok patch ∧ patch.isEmpty = true) ↔
      Mirrored runtime cfg rule := by
  constructor
  · rintro ⟨patch, success, empty⟩
    obtain ⟨targetColumns, columns, rfl⟩ := map_eq_ok success
    obtain ⟨name, description, subtype, rfl, severity, pass, warn⟩ :=
      (patchWith_empty_iff ..).mp empty
    refine ⟨name, description, subtype, fun given => ?_, severity, pass, warn⟩
    unfold pullColumns at columns
    rw [if_neg (by simp [given])] at columns
    obtain ⟨listed, iterated, same⟩ := map_eq_ok columns
    refine ⟨listed, iterated, ?_⟩
    by_contra different
    rw [if_neg different] at same
    cases same
  · intro mirrored
    have columns : pullColumns (cfg.get "columns") (rule.targetColumns.getD []) = .ok none := by
      unfold pullColumns
      split_ifs with none
      · rfl
      · obtain ⟨listed, iterated, same⟩ := mirrored.columns (by simpa using none)
        simp [iterated, same, Except.map]
    refine ⟨_, by rw [nodeToRulePatch, columns]; rfl, (patchWith_empty_iff ..).mpr ?_⟩
    exact ⟨mirrored.name, mirrored.description, mirrored.subtype, rfl, mirrored.severity,
      mirrored.pass, mirrored.warn⟩

end Mirror

section Overrides

variable {Uuid : Type}

/-- `check_config` of the rule's metadata, as far as it is a dictionary. -/
def dictOf : Value → Dict
  | .dict entries => entries
  | _ => []

/-- The value can be read by key: it is a dictionary, or counts as none. -/
def readable (value : Value) : Prop := value.truthy = true → ∃ entries, value = .dict entries

theorem dictOr_eq_ok_iff {value : Value} {entries : Dict} :
    dictOr value = .ok entries ↔ readable value ∧ entries = dictOf value := by
  unfold dictOr readable
  split_ifs with given
  · cases value with
    | dict held =>
      constructor
      · intro success
        exact ⟨fun _ => ⟨held, rfl⟩, (Except.ok.inj success).symm⟩
      · rintro ⟨-, rfl⟩
        rfl
    | _ =>
      constructor
      · intro success
        cases success
      · rintro ⟨legible, -⟩
        obtain ⟨held, same⟩ := legible given
        cases same
  · have none : dictOf value = [] := by
      cases value with
      | dict held =>
        cases held with
        | nil => rfl
        | cons first rest => exact absurd rfl given
      | _ => rfl
    rw [none]
    constructor
    · intro success
      exact ⟨fun given' => absurd given' given, (Except.ok.inj success).symm⟩
    · rintro ⟨-, rfl⟩
      rfl

def savedConfig (rule : DQRule Uuid) : Value := (rule.metaData.getD []).get "check_config"

def ruleParameters (rule : DQRule Uuid) : Value := rule.canonicalRule.get "parameters"

def orParameter (rule : DQRule Uuid) (value : Value) (key : String) : Value :=
  if value.truthy then value else (dictOf (ruleParameters rule)).get key

/-- Reading the parameter raises no error, or is not needed. -/
def parameterReadable (rule : DQRule Uuid) (value : Value) : Prop :=
  value.truthy = true ∨ readable (ruleParameters rule)

private theorem orGet_eq_ok_iff {rule : DQRule Uuid} {value found : Value} {key : String} :
    orGet value (ruleParameters rule) key = .ok found ↔
      parameterReadable rule value ∧ found = orParameter rule value key := by
  unfold orGet parameterReadable orParameter
  split_ifs with given
  · simp [given, eq_comm]
  · have rejected : value.truthy = false := by simpa using given
    constructor
    · intro success
      obtain ⟨entries, read, rfl⟩ := map_eq_ok success
      obtain ⟨legible, rfl⟩ := dictOr_eq_ok_iff.mp read
      exact ⟨.inr legible, rfl⟩
    · rintro ⟨given | legible, rfl⟩
      · cases rejected.symm.trans given
      · rw [dictOr_eq_ok_iff.mpr ⟨legible, rfl⟩]
        rfl

def savedOr (rule : DQRule Uuid) (key : String) (default : Value) : Value :=
  ((dictOf (savedConfig rule)).get key).or default

structure Legible (rule : DQRule Uuid) : Prop where
  saved : readable (savedConfig rule)
  subtype : parameterReadable rule (savedOr rule "subtype" rule.ruleType)
  columns : parameterReadable rule (savedOr rule "columns" (.list (rule.targetColumns.getD [])))
  nullHandling : parameterReadable rule ((dictOf (savedConfig rule)).get "null_handling")
  filterExpression : parameterReadable rule ((dictOf (savedConfig rule)).get "filter_expression")

/-- The overrides of a legible rule, those without a value included. -/
def overridesOf (rule : DQRule Uuid) : List (String × Value) :=
  let saved := dictOf (savedConfig rule)
  let thresh := rule.thresholdConfig.getD []
  [("ruleName", rule.name),
    ("rule_name", rule.name),
    ("description", rule.description.or (.str "")),
    ("severity", ((rule.canonicalRule.get "severity").or (saved.get "severity")).or (.str "major")),
    ("subtype", orParameter rule (savedOr rule "subtype" rule.ruleType) "subtype"),
    ("columns",
      (orParameter rule (savedOr rule "columns" (.list (rule.targetColumns.getD []))) "columns").or
        (.list [])),
    ("threshold_pass", notNoneOr (saved.get "threshold_pass") (thresh.get "pass_threshold")),
    ("threshold_warn", notNoneOr (saved.get "threshold_warn") (thresh.get "warning_threshold")),
    ("null_handling", orParameter rule (saved.get "null_handling") "null_handling"),
    ("filter_expression", orParameter rule (saved.get "filter_expression") "filter_expression")]

theorem overridesOf_distinct (rule : DQRule Uuid) : ((overridesOf rule).map (·.1)).Nodup := by
  have keys : (overridesOf rule).map (·.1) =
      ["ruleName", "rule_name", "description", "severity", "subtype", "columns", "threshold_pass",
        "threshold_warn", "null_handling", "filter_expression"] := rfl
  rw [keys]
  decide

theorem overrideEntries_eq_ok_iff {rule : DQRule Uuid} {entries : Dict} :
    overrideEntries rule = .ok entries ↔ Legible rule ∧ entries = overridesOf rule := by
  constructor
  · intro success
    simp only [overrideEntries] at success
    obtain ⟨saved, savedRead, success⟩ := bind_eq_ok success
    obtain ⟨legible, rfl⟩ := dictOr_eq_ok_iff.mp savedRead
    obtain ⟨subtype, subtypeRead, success⟩ := bind_eq_ok success
    obtain ⟨columns, columnsRead, success⟩ := bind_eq_ok success
    obtain ⟨nullHandling, nullRead, success⟩ := bind_eq_ok success
    obtain ⟨filterExpression, filterRead, success⟩ := bind_eq_ok success
    obtain ⟨subtypeLegible, rfl⟩ := orGet_eq_ok_iff.mp subtypeRead
    obtain ⟨columnsLegible, rfl⟩ := orGet_eq_ok_iff.mp columnsRead
    obtain ⟨nullLegible, rfl⟩ := orGet_eq_ok_iff.mp nullRead
    obtain ⟨filterLegible, rfl⟩ := orGet_eq_ok_iff.mp filterRead
    cases success
    exact ⟨⟨legible, subtypeLegible, columnsLegible, nullLegible, filterLegible⟩, rfl⟩
  · rintro ⟨legible, rfl⟩
    have subtype := (@orGet_eq_ok_iff _ rule _ _ "subtype").mpr ⟨legible.subtype, rfl⟩
    have columns := (@orGet_eq_ok_iff _ rule _ _ "columns").mpr ⟨legible.columns, rfl⟩
    have nullHandling := (@orGet_eq_ok_iff _ rule _ _ "null_handling").mpr ⟨legible.nullHandling, rfl⟩
    have filter := (@orGet_eq_ok_iff _ rule _ _ "filter_expression").mpr ⟨legible.filterExpression, rfl⟩
    have saved : dictOr ((rule.metaData.getD []).get "check_config") =
        .ok (dictOf (savedConfig rule)) := dictOr_eq_ok_iff.mpr ⟨legible.saved, rfl⟩
    simp only [savedOr, ruleParameters] at subtype columns nullHandling filter
    simp only [overrideEntries, bind, Except.bind, saved, subtype, columns, nullHandling, filter]
    rfl

def overridden (held value : Value) : Value :=
  if value.isNone then held else pushedValue held value

private theorem get_pushed {rule : DQRule Uuid} {overrides : Dict} (config : Dict)
    (computed : ruleToNodeConfigOverrides rule = .ok overrides) (key : String) (value : Value)
    (listed : (key, value) ∈ overridesOf rule) :
    (pushConfig overrides config).1.get key = overridden (config.get key) value := by
  obtain ⟨entries, made, rfl⟩ := map_eq_ok computed
  obtain ⟨-, rfl⟩ := overrideEntries_eq_ok_iff.mp made
  have distinct := overridesOf_distinct rule
  rw [get_pushConfig (distinct.sublist (List.filter_sublist.map _)),
    lookup_filter_not_none key distinct, lookup_of_member distinct listed]
  unfold overridden
  cases dropped : value.isNone <;> simp [Option.filter, dropped]

end Overrides

section Settling

variable {Uuid : Type}

def backendLevels : List String := ["blocker", "critical", "major", "minor", "info"]

private theorem backendSeverity_mem (runtime : Runtime) (severity : Value) :
    backendSeverity runtime severity ∈ backendLevels := by
  have listed : ∀ entry ∈ severityToBackend, entry.2 ∈ backendLevels := by decide
  unfold backendSeverity
  cases found : severityToBackend.lookup (runtime.lowerStr (runtime.str severity)) with
  | none => decide
  | some level =>
    obtain ⟨before, after, split, -⟩ := List.lookup_eq_some_iff.mp found
    exact listed (runtime.lowerStr (runtime.str severity), level) (by rw [split]; simp)

theorem backendSeverity_level (runtime : Runtime) {level : String} (known : level ∈ backendLevels) :
    backendSeverity runtime (.str level) = level := by
  have plain : ∀ name ∈ backendLevels, (∀ c ∈ name.toList, c.toNat < 128) ∧
      String.ofList (name.toList.map Char.toLower) = name ∧
      (severityToBackend.lookup name).getD "major" = name := by
    intro name member
    simp only [backendLevels, List.mem_cons, List.not_mem_nil, or_false] at member
    rcases member with rfl | rfl | rfl | rfl | rfl <;> exact ⟨by simp, rfl, rfl⟩
  obtain ⟨ascii, lowered, mapped⟩ := plain level known
  unfold backendSeverity
  rw [Runtime.str_str, Runtime.lowerStr, runtime.lower_ascii _ ascii, lowered, mapped]

private theorem truthy_of_level {level : String} (known : level ∈ backendLevels) :
    (Value.str level).truthy = true := by
  have nonempty : ∀ name ∈ backendLevels, (Value.str name).truthy = true := by decide
  exact nonempty level known

theorem isNone_iff {value : Value} : value.isNone = true ↔ value = .none := by
  cases value <;> simp [Value.isNone]

theorem isNone_congr {left right : Value} (same : left.eq right = true) :
    left.isNone = right.isNone := by
  cases left with
  | none => rw [Value.eq_none.mp same]
  | _ =>
    cases right with
    | none => cases Value.eq_none.mp (Value.eq_symm _ same)
    | _ => rfl

theorem isNone_of_truthy {value : Value} (given : value.truthy = true) : value.isNone = false := by
  cases value with
  | none => cases given
  | _ => rfl

theorem or_of_truthy {left : Value} (right : Value) (given : left.truthy = true) :
    left.or right = left := if_pos given

theorem or_of_not_truthy {left : Value} (right : Value) (rejected : left.truthy = false) :
    left.or right = right := if_neg (by simp [rejected])

theorem overridden_eq {held value : Value} (given : value.isNone = false) :
    (overridden held value).eq value = true := by
  unfold overridden
  rw [given]
  exact pushedValue_eq ..

theorem truthy_overridden {held value : Value} (given : value.isNone = false) :
    (overridden held value).truthy = value.truthy := Value.truthy_congr (overridden_eq given)

/-- The linked node carries the rule's own fields. -/
structure Carried (cfg : Dict) (rule : DQRule Uuid) : Prop where
  name : (cfg.get "ruleName").eq rule.name = true
  description : (cfg.get "description").eq (rule.description.or (.str "")) = true
  severity : (rule.canonicalRule.get "severity").truthy = true →
    (cfg.get "severity").eq (rule.canonicalRule.get "severity") = true
  subtype : rule.ruleType.truthy = true → (cfg.get "subtype").eq rule.ruleType = true
  columns : ∃ listed, (cfg.get "columns").elements = .ok listed ∧
    Value.eqList listed (rule.targetColumns.getD []) = true
  pass : ((rule.thresholdConfig.getD []).get "pass_threshold").isNone = false →
    (cfg.get "threshold_pass").eq ((rule.thresholdConfig.getD []).get "pass_threshold") = true
  warn : ((rule.thresholdConfig.getD []).get "warning_threshold").isNone = false →
    (cfg.get "threshold_warn").eq ((rule.thresholdConfig.getD []).get "warning_threshold") = true

/-- A threshold the metadata saves is the rule's; else the rule or no one has one. -/
def thresholdSettled (saved current held : Value) : Prop :=
  (saved.isNone = false → saved.eq current = true) ∧
    (saved.isNone = true → current.isNone = false ∨ held.isNone = true)

/-- The severity is the backend's own, and what the metadata or the parameters say of the check
agrees with the rule's columns, for a linked node with the given config. -/
structure Settled (rule : DQRule Uuid) (config : Dict) : Prop where
  severity : ∃ level ∈ backendLevels, rule.canonicalRule.get "severity" = .str level
  savedSubtype : ((dictOf (savedConfig rule)).get "subtype").truthy = true →
    ((dictOf (savedConfig rule)).get "subtype").eq rule.ruleType = true
  otherSubtype : ((dictOf (savedConfig rule)).get "subtype").truthy = false →
    rule.ruleType.truthy = true ∨
      (notNoneOr ((dictOf (ruleParameters rule)).get "subtype") (config.get "subtype")).truthy = false
  savedColumns : ((dictOf (savedConfig rule)).get "columns").truthy = true →
    ∃ listed, (pushedValue (config.get "columns")
      ((dictOf (savedConfig rule)).get "columns")).elements = .ok listed ∧
      Value.eqList listed (rule.targetColumns.getD []) = true
  otherColumns : ((dictOf (savedConfig rule)).get "columns").truthy = false →
    rule.targetColumns.getD [] ≠ [] ∨
      ((dictOf (ruleParameters rule)).get "columns").truthy = false
  pass : thresholdSettled ((dictOf (savedConfig rule)).get "threshold_pass")
    ((rule.thresholdConfig.getD []).get "pass_threshold") (config.get "threshold_pass")
  warn : thresholdSettled ((dictOf (savedConfig rule)).get "threshold_warn")
    ((rule.thresholdConfig.getD []).get "warning_threshold") (config.get "threshold_warn")

theorem thresholdSettled_iff {saved current held pushed : Value} {thresholds : Dict} {key : String}
    (read : thresholds.get key = current) (written : pushed = overridden held (notNoneOr saved current)) :
    (current.isNone = false → pushed.eq current = true) ∧ thresholdKept thresholds key pushed ↔
      thresholdSettled saved current held := by
  subst read written
  unfold thresholdKept thresholdSettled notNoneOr
  cases unsaved : saved.isNone with
  | false =>
    have equal := @overridden_eq held _ unsaved
    have given : (overridden held saved).isNone = false := (isNone_congr equal).trans unsaved
    have swapped : (thresholds.get key).eq (overridden held saved) = saved.eq (thresholds.get key) := by
      rw [Value.eq_swap, Value.eq_congr_left equal]
    simp only [given, Bool.false_eq_true, ↓reduceIte, false_or, swapped, Value.eq_congr_left equal,
      true_implies, false_implies, and_true]
    exact ⟨fun both => both.2, fun same => ⟨fun _ => same, same⟩⟩
  | true =>
    simp only [↓reduceIte, Bool.true_eq_false, false_implies, true_implies, true_and]
    cases none : (thresholds.get key).isNone with
    | false =>
      have equal := @overridden_eq held _ none
      simp [equal, Value.eq_symm _ equal]
    | true =>
      rw [isNone_iff.mp none]
      simp [overridden, Value.isNone, ← isNone_iff]

private theorem settled_subtype_iff {rule : DQRule Uuid} {held pushed : Value}
    (written : pushed =
      overridden held (orParameter rule (savedOr rule "subtype" rule.ruleType) "subtype")) :
    ((rule.ruleType.truthy = true → pushed.eq rule.ruleType = true) ∧
      (pushed.truthy = true → pushed.eq rule.ruleType = true)) ↔
    (((dictOf (savedConfig rule)).get "subtype").truthy = true →
      ((dictOf (savedConfig rule)).get "subtype").eq rule.ruleType = true) ∧
    (((dictOf (savedConfig rule)).get "subtype").truthy = false →
      rule.ruleType.truthy = true ∨
        (notNoneOr ((dictOf (ruleParameters rule)).get "subtype") held).truthy = false) := by
  subst written
  unfold orParameter savedOr
  generalize (dictOf (savedConfig rule)).get "subtype" = saved
  generalize (dictOf (ruleParameters rule)).get "subtype" = parameter
  cases given : saved.truthy with
  | true =>
    rw [or_of_truthy _ given, if_pos given]
    have equal := @overridden_eq held _ (isNone_of_truthy given)
    rw [Value.eq_congr_left equal, Value.truthy_congr equal, given]
    simp +contextual
  | false =>
    rw [or_of_not_truthy _ given]
    cases typed : rule.ruleType.truthy with
    | true =>
      rw [if_pos rfl]
      simp [@overridden_eq held _ (isNone_of_truthy typed)]
    | false =>
      rw [if_neg Bool.false_ne_true]
      have agree : (overridden held parameter).truthy = (notNoneOr parameter held).truthy := by
        unfold notNoneOr
        cases none : parameter.isNone with
        | true => simp [overridden, none]
        | false => simp [truthy_overridden none]
      rw [← agree]
      constructor
      · rintro ⟨-, mirrored⟩
        refine ⟨nofun, fun _ => .inr ?_⟩
        by_contra held
        have same := Value.truthy_congr (mirrored (by simpa using held))
        simp [typed, held] at same
      · rintro ⟨-, settled⟩
        refine ⟨nofun, fun held => ?_⟩
        rcases settled rfl with typed | rejected
        · cases typed
        · cases held.symm.trans rejected

private theorem settled_columns_iff {rule : DQRule Uuid} {held pushed : Value}
    (written : pushed = overridden held
      ((orParameter rule (savedOr rule "columns" (.list (rule.targetColumns.getD []))) "columns").or
        (.list []))) :
    (∃ listed, pushed.elements = .ok listed ∧
      Value.eqList listed (rule.targetColumns.getD []) = true) ↔
    (((dictOf (savedConfig rule)).get "columns").truthy = true →
      ∃ listed, (pushedValue held ((dictOf (savedConfig rule)).get "columns")).elements =
        .ok listed ∧ Value.eqList listed (rule.targetColumns.getD []) = true) ∧
    (((dictOf (savedConfig rule)).get "columns").truthy = false →
      rule.targetColumns.getD [] ≠ [] ∨
        ((dictOf (ruleParameters rule)).get "columns").truthy = false) := by
  subst written
  unfold orParameter savedOr
  generalize (dictOf (savedConfig rule)).get "columns" = saved
  generalize (dictOf (ruleParameters rule)).get "columns" = parameter
  generalize rule.targetColumns.getD [] = current
  cases given : saved.truthy with
  | true =>
    rw [or_of_truthy _ given, if_pos given, or_of_truthy _ given]
    simp [overridden, isNone_of_truthy given]
  | false =>
    rw [or_of_not_truthy _ given]
    cases current with
    | cons first rest =>
      have typed : (Value.list (first :: rest)).truthy = true := rfl
      rw [if_pos typed, or_of_truthy _ typed]
      have equal := @overridden_eq held _ (isNone_of_truthy typed)
      obtain ⟨others, same, listed⟩ := Value.eq_list.mp (Value.eq_symm _ equal)
      rw [same]
      simpa [Value.elements] using Value.eqList_symm _ listed
    | nil =>
      rw [if_neg (by simp [Value.truthy])]
      cases parameterised : parameter.truthy with
      | true =>
        rw [or_of_truthy _ parameterised]
        have pushedTruthy :=
          (@truthy_overridden held _ (isNone_of_truthy parameterised)).trans parameterised
        constructor
        · rintro ⟨listed, iterated, same⟩
          cases listed with
          | nil => cases pushedTruthy.symm.trans (Value.truthy_of_no_elements iterated)
          | cons first rest => cases same
        · rintro ⟨-, settled⟩
          rcases settled rfl with given | rejected
          · exact absurd rfl given
          · cases rejected
      | false =>
        rw [or_of_not_truthy _ parameterised]
        have equal := @overridden_eq held (.list []) rfl
        obtain ⟨others, same, listed⟩ := Value.eq_list.mp (Value.eq_symm _ equal)
        rw [same]
        simpa [Value.elements] using Value.eqList_symm _ listed

theorem settled_severity_iff {runtime : Runtime} {rule : DQRule Uuid} {saved held pushed : Value}
    (written : pushed =
      overridden held (((rule.canonicalRule.get "severity").or saved).or (.str "major"))) :
    ((rule.canonicalRule.get "severity").truthy = true →
      pushed.eq (rule.canonicalRule.get "severity") = true) ∧
      (pushed.truthy = true →
        rule.canonicalRule.get "severity" = .str (backendSeverity runtime pushed)) ↔
    ∃ level ∈ backendLevels, rule.canonicalRule.get "severity" = .str level := by
  subst written
  generalize rule.canonicalRule.get "severity" = severity
  have chosen : ((severity.or saved).or (.str "major")).truthy = true := by
    cases given : (severity.or saved).truthy with
    | true => rw [or_of_truthy _ given, given]
    | false =>
      rw [or_of_not_truthy _ given]
      rfl
  constructor
  · rintro ⟨-, mirrored⟩
    refine ⟨_, backendSeverity_mem runtime _, mirrored ?_⟩
    rw [truthy_overridden (isNone_of_truthy chosen), chosen]
  · rintro ⟨level, known, rfl⟩
    have given := truthy_of_level known
    rw [or_of_truthy _ given, or_of_truthy _ given]
    have equal := @overridden_eq held _ (isNone_of_truthy given)
    have same : overridden held (.str level) = .str level :=
      Value.eq_str.mp (Value.eq_symm _ equal)
    rw [same]
    exact ⟨fun _ => Value.eq_refl _, fun _ => by rw [backendSeverity_level runtime known]⟩

/-- A linked node carries the rule after the push and mirrors nothing back exactly when the rule
and the node's config were settled before it. -/
theorem settled_iff {runtime : Runtime} {rule : DQRule Uuid} {config overrides : Dict}
    (named : rule.name.isNone = false) (computed : ruleToNodeConfigOverrides rule = .ok overrides) :
    Carried (pushConfig overrides config).1 rule ∧
        Mirrored runtime (pushConfig overrides config).1 rule ↔
      Settled rule config := by
  have severity := @settled_severity_iff _ runtime rule
    ((dictOf (savedConfig rule)).get "severity") _ _
    (get_pushed config computed "severity" _ (by simp [overridesOf]))
  have subtype := @settled_subtype_iff _ rule _ _
    (get_pushed config computed "subtype" _ (by simp [overridesOf]))
  have columns := @settled_columns_iff _ rule _ _
    (get_pushed config computed "columns" _ (by simp [overridesOf]))
  have pass := @thresholdSettled_iff ((dictOf (savedConfig rule)).get "threshold_pass") _ _ _
    (rule.thresholdConfig.getD []) "pass_threshold" rfl
    (get_pushed config computed "threshold_pass" _ (by simp [overridesOf]))
  have warn := @thresholdSettled_iff ((dictOf (savedConfig rule)).get "threshold_warn") _ _ _
    (rule.thresholdConfig.getD []) "warning_threshold" rfl
    (get_pushed config computed "threshold_warn" _ (by simp [overridesOf]))
  have ruleName : ((pushConfig overrides config).1.get "ruleName").eq rule.name = true := by
    rw [get_pushed config computed _ rule.name (by simp [overridesOf])]
    exact overridden_eq named
  have rule_name : ((pushConfig overrides config).1.get "rule_name").eq rule.name = true := by
    rw [get_pushed config computed _ rule.name (by simp [overridesOf])]
    exact overridden_eq named
  have description : ((pushConfig overrides config).1.get "description").eq
      (rule.description.or (.str "")) = true := by
    rw [get_pushed config computed _ (rule.description.or (.str "")) (by simp [overridesOf])]
    refine overridden_eq ?_
    cases given : rule.description.truthy with
    | true => rw [or_of_truthy _ given, isNone_of_truthy given]
    | false =>
      rw [or_of_not_truthy _ given]
      rfl
  generalize (pushConfig overrides config).1 = cfg at *
  constructor
  · rintro ⟨carried, mirrored⟩
    obtain ⟨savedSubtype, otherSubtype⟩ := subtype.mp ⟨carried.subtype, mirrored.subtype⟩
    obtain ⟨savedColumns, otherColumns⟩ := columns.mp carried.columns
    exact ⟨severity.mp ⟨carried.severity, mirrored.severity⟩, savedSubtype, otherSubtype,
      savedColumns, otherColumns, pass.mp ⟨carried.pass, mirrored.pass⟩,
      warn.mp ⟨carried.warn, mirrored.warn⟩⟩
  · intro settled
    obtain ⟨carriedSeverity, mirroredSeverity⟩ := severity.mpr settled.severity
    obtain ⟨carriedSubtype, mirroredSubtype⟩ :=
      subtype.mpr ⟨settled.savedSubtype, settled.otherSubtype⟩
    have listed := columns.mpr ⟨settled.savedColumns, settled.otherColumns⟩
    obtain ⟨carriedPass, mirroredPass⟩ := pass.mpr settled.pass
    obtain ⟨carriedWarn, mirroredWarn⟩ := warn.mpr settled.warn
    refine ⟨⟨ruleName, description, carriedSeverity, carriedSubtype, listed, carriedPass,
      carriedWarn⟩, fun _ => ?_, fun _ => description, mirroredSubtype, fun _ => listed,
      mirroredSeverity, mirroredPass, mirroredWarn⟩
    unfold Value.or
    split
    · exact ruleName
    · exact rule_name

end Settling

section Flows

variable {Uuid : Type} {linking : Linking Uuid} {rule : DQRule Uuid} {overrides : Dict}

theorem rule_id_of_linked {node : StoredNode} {ruleId : Uuid}
    (linked : node.linked linking ruleId = true) :
    node.config.get "rule_id" = .str (linking.str ruleId) := by
  unfold StoredNode.linked at linked
  simp only [Bool.and_eq_true, beq_iff_eq] at linked
  have text := linking.str_of_text _ _ linked.2
  unfold Value.or at text
  split at text
  · exact text
  · exact absurd (Value.str.inj text).symm (linking.str_ne_empty ruleId)

theorem overrides_distinct (computed : ruleToNodeConfigOverrides rule = .ok overrides) :
    (List.map (·.1) overrides).Nodup ∧ List.lookup "rule_id" overrides = none := by
  obtain ⟨entries, made, rfl⟩ := map_eq_ok computed
  obtain ⟨-, rfl⟩ := overrideEntries_eq_ok_iff.mp made
  have distinct := overridesOf_distinct rule
  refine ⟨distinct.sublist (List.filter_sublist.map _), ?_⟩
  rw [lookup_filter_not_none _ distinct]
  rfl

private theorem pushConfig_snd {overrides : List (String × Value)} {config : Dict} {changed : Bool}
    (kept : (overrides.foldl pushEntry (config, changed)).2 = false) :
    overrides.foldl pushEntry (config, changed) = (config, false) ∧ changed = false := by
  induction overrides generalizing config changed with
  | nil =>
    cases kept
    exact ⟨rfl, rfl⟩
  | cons entry rest ih =>
    rw [List.foldl_cons] at kept ⊢
    cases same : (config.get entry.1).eq entry.2 with
    | true =>
      have unchanged : pushEntry (config, changed) entry = (config, changed) := if_pos same
      rw [unchanged] at kept ⊢
      exact ih kept
    | false =>
      have written : pushEntry (config, changed) entry = (config.set entry.1 entry.2, true) :=
        if_neg (by simp [same])
      rw [written] at kept
      cases (ih kept).2

private theorem pushNode_unchanged {node : StoredNode}
    (kept : (pushNode linking rule overrides node).2 = false) :
    (pushNode linking rule overrides node).1 = node := by
  unfold pushNode at kept ⊢
  split_ifs at kept ⊢
  · dsimp only at kept ⊢
    have same := congrArg Prod.fst (pushConfig_snd kept).1
    change (pushConfig overrides node.config).1 = node.config at same
    rw [same]
  · rfl

theorem pushNode_config {node : StoredNode} (linked : node.linked linking rule.id = true) :
    (pushNode linking rule overrides node).1.config = (pushConfig overrides node.config).1 ∧
      (pushNode linking rule overrides node).1.type = node.type := by
  unfold pushNode
  rw [if_pos linked]
  dsimp only
  split <;> exact ⟨rfl, rfl⟩

theorem pushNode_linked (computed : ruleToNodeConfigOverrides rule = .ok overrides)
    (node : StoredNode) :
    (pushNode linking rule overrides node).1.linked linking rule.id =
      node.linked linking rule.id := by
  by_cases linked : node.linked linking rule.id = true
  · obtain ⟨config, type⟩ := @pushNode_config _ linking rule overrides node linked
    obtain ⟨distinct, absent⟩ := overrides_distinct computed
    unfold StoredNode.linked
    rw [config, type, get_pushConfig distinct, absent]
  · unfold pushNode
    rw [if_neg linked]

theorem pushFlow_nodes (flow : DQFlow Uuid) :
    (pushFlow linking rule overrides flow).1.flowDefinition.nodes =
      flow.flowDefinition.nodes.map fun node => (pushNode linking rule overrides node).1 := by
  unfold pushFlow
  dsimp only
  by_cases changed : ((flow.flowDefinition.nodes.map (pushNode linking rule overrides)).any
      (·.2)) = true
  · rw [if_pos changed]
    simp [List.map_map, Function.comp_def]
  · rw [if_neg changed]
    have kept : ∀ node ∈ flow.flowDefinition.nodes,
        (pushNode linking rule overrides node).1 = node := by
      intro node member
      apply pushNode_unchanged
      by_contra written
      refine changed (List.any_eq_true.mpr ⟨_, List.mem_map_of_mem member, ?_⟩)
      simpa using written
    exact ((List.map_congr_left kept).trans (List.map_id _)).symm

private theorem pushFlow_workspace (flow : DQFlow Uuid) :
    (pushFlow linking rule overrides flow).1.workspaceId = flow.workspaceId := by
  unfold pushFlow
  dsimp only
  split <;> rfl

private theorem pushNode_same {node : StoredNode}
    (config : pushConfig overrides node.config = (node.config, false))
    (label : (rule.name.truthy && !node.label.eq rule.name) = false) :
    (pushNode linking rule overrides node).2 = false := by
  unfold pushNode
  split
  · rw [config]
    dsimp only
    rw [label]
    rfl
  · rfl

private theorem pushNode_again (computed : ruleToNodeConfigOverrides rule = .ok overrides)
    (node : StoredNode) :
    (pushNode linking rule overrides (pushNode linking rule overrides node).1).2 = false := by
  by_cases linked : node.linked linking rule.id = true
  · obtain ⟨config, -⟩ := @pushNode_config _ linking rule overrides node linked
    apply pushNode_same
    · rw [config]
      exact pushConfig_again (overrides_distinct computed).1 node.config
    · unfold pushNode
      rw [if_pos linked]
      dsimp only
      split_ifs with stale
      · simp
      · simpa using stale
  · have same : pushNode linking rule overrides node = (node, false) := if_neg linked
    rw [same, same]

private theorem pushFlow_same {flow : DQFlow Uuid}
    (kept : (flow.flowDefinition.nodes.map (pushNode linking rule overrides)).any (·.2) = false) :
    pushFlow linking rule overrides flow = (flow, false) := by
  unfold pushFlow
  dsimp only
  rw [kept]
  rfl

private theorem pushFlow_again (computed : ruleToNodeConfigOverrides rule = .ok overrides)
    (flow : DQFlow Uuid) :
    (pushFlow linking rule overrides (pushFlow linking rule overrides flow).1).2 = false := by
  rw [pushFlow_same]
  rw [pushFlow_nodes, List.map_map, List.any_eq_false]
  intro result pushed
  obtain ⟨node, -, rfl⟩ := List.mem_map.mp pushed
  simpa using pushNode_again computed node

variable [DecidableEq Uuid]

private theorem selected_of_linked {workspaceId : Uuid} {flow : DQFlow Uuid} {node : StoredNode}
    (here : flow.workspaceId = workspaceId) (member : node ∈ flow.flowDefinition.nodes)
    (linked : node.linked linking rule.id = true) :
    selected linking workspaceId rule flow = true := by
  have found := linking.mentions_of_mem _ node _ member (rule_id_of_linked linked)
  simp [selected, here, found]

theorem propagateRuleToFlows_eq_ok_iff {workspaceId : Uuid} {flows pushed : List (DQFlow Uuid)}
    {affected : Nat} :
    propagateRuleToFlows linking false workspaceId rule flows = .ok (pushed, affected) ↔
      ∃ overrides, ruleToNodeConfigOverrides rule = .ok overrides ∧
        pushed = flows.map (fun flow =>
          (if selected linking workspaceId rule flow then pushFlow linking rule overrides flow
            else (flow, false)).1) ∧
        affected = flows.countP fun flow =>
          (if selected linking workspaceId rule flow then pushFlow linking rule overrides flow
            else (flow, false)).2 := by
  constructor
  · intro success
    simp only [propagateRuleToFlows, Bool.false_eq_true, ↓reduceIte] at success
    obtain ⟨overrides, computed, success⟩ := bind_eq_ok success
    cases success
    exact ⟨overrides, computed, List.map_map .., List.countP_map ..⟩
  · rintro ⟨overrides, computed, rfl, rfl⟩
    simp only [propagateRuleToFlows, Bool.false_eq_true, ↓reduceIte, computed, bind, Except.bind]
    simp only [List.map_map, List.countP_map]
    rfl

private theorem propagateRuleToFlows_again {workspaceId : Uuid} {flows pushed : List (DQFlow Uuid)}
    {affected : Nat}
    (success : propagateRuleToFlows linking false workspaceId rule flows = .ok (pushed, affected)) :
    ∃ again, propagateRuleToFlows linking false workspaceId rule pushed = .ok (again, 0) := by
  obtain ⟨overrides, computed, rfl, rfl⟩ := propagateRuleToFlows_eq_ok_iff.mp success
  refine ⟨_, propagateRuleToFlows_eq_ok_iff.mpr ⟨overrides, computed, rfl, ?_⟩⟩
  symm
  rw [List.countP_eq_zero]
  intro after member
  obtain ⟨flow, listed, rfl⟩ := List.mem_map.mp member
  by_cases chosen : selected linking workspaceId rule flow = true
  · rw [if_pos chosen]
    split
    · simp [pushFlow_again computed flow]
    · simp
  · rw [if_neg chosen, if_neg chosen]
    simp

private theorem linked_of_pushed {workspaceId : Uuid} {flows pushed : List (DQFlow Uuid)}
    (computed : ruleToNodeConfigOverrides rule = .ok overrides)
    (same : pushed = flows.map fun flow =>
      (if selected linking workspaceId rule flow then pushFlow linking rule overrides flow
        else (flow, false)).1) (holds : StoredNode → Prop) :
    (∀ flow ∈ pushed, flow.workspaceId = workspaceId → ∀ node ∈ flow.flowDefinition.nodes,
      node.linked linking rule.id = true → holds node) ↔
    ∀ flow ∈ flows, flow.workspaceId = workspaceId → ∀ node ∈ flow.flowDefinition.nodes,
      node.linked linking rule.id = true → holds (pushNode linking rule overrides node).1 := by
  subst same
  constructor
  · intro after flow member here node inside linked
    have chosen := selected_of_linked here inside linked
    refine after _ (List.mem_map_of_mem member) ?_ _ ?_ ?_
    · rw [if_pos chosen, pushFlow_workspace]
      exact here
    · rw [if_pos chosen, pushFlow_nodes]
      exact List.mem_map_of_mem inside
    · rw [pushNode_linked computed, linked]
  · intro before flow member here node inside linked
    obtain ⟨source, listed, rfl⟩ := List.mem_map.mp member
    by_cases chosen : selected linking workspaceId rule source = true
    · rw [if_pos chosen, pushFlow_workspace] at here
      rw [if_pos chosen, pushFlow_nodes] at inside
      obtain ⟨original, known, rfl⟩ := List.mem_map.mp inside
      rw [pushNode_linked computed] at linked
      exact before source listed here original known linked
    · rw [if_neg chosen] at here inside
      exact absurd (selected_of_linked here inside linked) chosen

theorem pullNode_of_empty {workspaceId : Uuid} {node : StoredNode} {rules : List (DQRule Uuid)}
    {patch : Patch} (linked : node.linked linking rule.id = true)
    (found : rules.find? (fun other => other.id == rule.id && other.workspaceId == workspaceId) =
      some rule)
    (made : nodeToRulePatch linking.runtime node.config rule = .ok patch)
    (empty : patch.isEmpty = true) (oldNodes : Dict) (affected : Nat) (key : String) :
    pullNode linking workspaceId oldNodes (rules, affected) (key, .dict node.config) =
      .ok (rules, affected) := by
  have named := rule_id_of_linked linked
  have config : dictOr (.dict node.config) = .ok node.config := by
    cases entries : node.config with
    | nil => rfl
    | cons entry rest => rfl
  have parsed : ruleIdOf linking (node.config.get "rule_id") = some rule.id := by
    rw [named]
    exact linking.parse_str rule.id
  simp only [pullNode, config, parsed, found, made, empty, bind, Except.bind, pure, Except.pure,
    ↓reduceIte, ite_self]

/-- A push leaves the linked nodes with the rule's own fields and nothing to mirror back, a pull of
them leaves the rules as they are, and a second push has nothing to do, exactly when the overrides
can be computed and every linked node was settled. -/
theorem push_stable_iff (linking : Linking Uuid) (workspaceId : Uuid) (rule : DQRule Uuid)
    (flows : List (DQFlow Uuid)) (named : rule.name.isNone = false) :
    (∃ pushed affected,
      propagateRuleToFlows linking false workspaceId rule flows = .ok (pushed, affected) ∧
      (∀ flow ∈ pushed, flow.workspaceId = workspaceId → ∀ node ∈ flow.flowDefinition.nodes,
        node.linked linking rule.id = true → Carried node.config rule ∧
          (∃ patch, nodeToRulePatch linking.runtime node.config rule = .ok patch ∧
            patch.isEmpty = true) ∧
          ∀ rules, rules.find? (fun other => other.id == rule.id &&
              other.workspaceId == workspaceId) = some rule →
            ∀ oldNodes affected key,
              pullNode linking workspaceId oldNodes (rules, affected) (key, .dict node.config) =
                .ok (rules, affected)) ∧
      ∃ again, propagateRuleToFlows linking false workspaceId rule pushed = .ok (again, 0)) ↔
    Legible rule ∧ ∀ flow ∈ flows, flow.workspaceId = workspaceId →
      ∀ node ∈ flow.flowDefinition.nodes, node.linked linking rule.id = true →
        Settled rule node.config := by
  constructor
  · rintro ⟨pushed, affected, success, stable, -⟩
    obtain ⟨overrides, computed, same, -⟩ := propagateRuleToFlows_eq_ok_iff.mp success
    obtain ⟨entries, made, -⟩ := map_eq_ok computed
    refine ⟨(overrideEntries_eq_ok_iff.mp made).1, fun flow member here node inside linked => ?_⟩
    obtain ⟨carried, mirrored, -⟩ :=
      (linked_of_pushed computed same _).mp stable flow member here node inside linked
    rw [(pushNode_config linked).1] at carried mirrored
    exact (settled_iff named computed).mp ⟨carried, (nodeToRulePatch_empty_iff ..).mp mirrored⟩
  · rintro ⟨legible, settled⟩
    have computed : ruleToNodeConfigOverrides rule =
        .ok ((overridesOf rule).filter fun entry => !entry.2.isNone) := by
      rw [ruleToNodeConfigOverrides, overrideEntries_eq_ok_iff.mpr ⟨legible, rfl⟩]
      rfl
    have success : propagateRuleToFlows linking false workspaceId rule flows = .ok (_, _) :=
      propagateRuleToFlows_eq_ok_iff.mpr ⟨_, computed, rfl, rfl⟩
    refine ⟨_, _, success, ?_, propagateRuleToFlows_again success⟩
    refine (linked_of_pushed computed rfl _).mpr fun flow member here node inside linked => ?_
    obtain ⟨config, -⟩ := @pushNode_config _ linking rule
      ((overridesOf rule).filter fun entry => !entry.2.isNone) node linked
    obtain ⟨carried, mirrored⟩ := (settled_iff named computed).mpr
      (settled flow member here node inside linked)
    obtain ⟨patch, made, empty⟩ := (nodeToRulePatch_empty_iff linking.runtime _ rule).mpr mirrored
    rw [← config] at made carried
    exact ⟨carried, ⟨patch, made, empty⟩, fun rules found =>
      pullNode_of_empty ((pushNode_linked computed node).trans linked) found made empty⟩

end Flows

section Runs

private theorem digits_ne (count : Nat) : Nat.repr count ≠ "r" := by
  intro same
  have member : 'r' ∈ Nat.toDigits 10 count := by
    have text : (Nat.repr count).toList = ['r'] := by rw [same]; rfl
    simp only [Nat.repr, String.toList_ofList] at text
    simp [text]
  exact absurd (Nat.isDigit_of_mem_toDigits (by decide) (by decide) member) (by decide)

private theorem number_ne (count : Int) : toString count ≠ "r" := by
  cases count with
  | ofNat count => exact digits_ne count
  | negSucc count =>
    intro same
    have first : (toString (Int.negSucc count)).toList.head? = some 'r' := by rw [same]; rfl
    simp [toString, Int.repr] at first

/-- Rules of one id, `r`. -/
def oneRule : Linking Unit where
  runtime := Runtime.ascii
  str _ := "r"
  parse text := if text = "r" then some () else none
  mentions _ _ := true
  str_of_text value _ same := by
    cases value with
    | str text => exact congrArg _ same
    | int count => exact absurd same (number_ne count)
    | bool value => cases value <;> simp [Runtime.str] at same
    | _ => simp [Runtime.str, Runtime.ascii] at same
  str_ne_empty _ := by decide
  parse_str _ := rfl
  mentions_of_mem _ _ _ _ _ := rfl

/-- A rule whose `rule_type` was changed; `savedSubtype` is what its metadata says of the check. -/
def retyped (savedSubtype : String) : DQRule Unit where
  id := ()
  workspaceId := ()
  name := .str "orders email"
  description := .none
  category := .str "completeness"
  ruleType := .str "null_check"
  canonicalRule := [("dimension", .str "completeness"), ("severity", .str "major")]
  compiled := { sql := "", postgres := none, mysql := none, snowflake := none }
  dataSourceId := none
  targetSchema := none
  targetTable := some "orders"
  targetColumns := some [.str "email"]
  status := .active
  isActive := true
  schedule := none
  thresholdConfig := none
  notificationConfig := none
  tags := none
  createdBy := none
  ownerUserId := none
  metaData := some [("check_config", .dict [("subtype", .str savedSubtype)])]

private def checkFlow : DQFlow Unit where
  id := ()
  workspaceId := ()
  name := "nightly"
  description := none
  flowDefinition :=
    { nodes := [{ id := "n1", type := .check, config := [("rule_id", .str "r")], checkType := none,
                  label := .str "check" }]
      connections := [] }
  status := .draft
  isActive := true
  schedule := none
  tags := none
  version := 1
  createdBy := none
  ownerUserId := none

/-- The push writes the type that the metadata still says, and the pull would mirror it back. -/
theorem retyped_not_stable :
    ¬∃ pushed affected,
      propagateRuleToFlows oneRule false () (retyped "empty_string") [checkFlow] =
        .ok (pushed, affected) ∧
      (∀ flow ∈ pushed, flow.workspaceId = () → ∀ node ∈ flow.flowDefinition.nodes,
        node.linked oneRule () = true → Carried node.config (retyped "empty_string") ∧
          (∃ patch, nodeToRulePatch oneRule.runtime node.config (retyped "empty_string") =
            .ok patch ∧ patch.isEmpty = true) ∧
          ∀ rules, rules.find? (fun other => other.id == () && other.workspaceId == ()) =
              some (retyped "empty_string") →
            ∀ oldNodes affected key,
              pullNode oneRule () oldNodes (rules, affected) (key, .dict node.config) =
                .ok (rules, affected)) ∧
      ∃ again, propagateRuleToFlows oneRule false () (retyped "empty_string") pushed =
        .ok (again, 0) := by
  rintro ⟨pushed, affected, success, stable, -⟩
  cases success
  obtain ⟨carried, -, -⟩ := stable _ (List.mem_singleton.mpr rfl) rfl _ (List.mem_singleton.mpr rfl)
    (by decide +kernel)
  exact absurd (carried.subtype (by decide +kernel)) (by decide +kernel)

theorem retyped_stable :
    ∃ pushed affected,
      propagateRuleToFlows oneRule false () (retyped "null_check") [checkFlow] =
        .ok (pushed, affected) ∧
      ∀ flow ∈ pushed, ∀ node ∈ flow.flowDefinition.nodes,
        node.linked oneRule () = true → Carried node.config (retyped "null_check") := by
  have settled : Legible (retyped "null_check") ∧
      ∀ flow ∈ [checkFlow], flow.workspaceId = () → ∀ node ∈ flow.flowDefinition.nodes,
        node.linked oneRule () = true → Settled (retyped "null_check") node.config := by
    refine ⟨⟨fun _ => ⟨_, rfl⟩, .inl rfl, .inl rfl, .inr nofun, .inr nofun⟩, ?_⟩
    · intro flow listed _ node inside _
      cases List.mem_singleton.mp listed
      cases List.mem_singleton.mp inside
      exact
        { severity := ⟨"major", by decide, rfl⟩
          savedSubtype := fun _ => by decide +kernel
          otherSubtype := fun _ => .inl rfl
          savedColumns := nofun
          otherColumns := fun _ => .inl (by simp [retyped])
          pass := ⟨nofun, fun _ => .inr rfl⟩
          warn := ⟨nofun, fun _ => .inr rfl⟩ }
  obtain ⟨pushed, affected, success, stable, -⟩ :=
    (push_stable_iff oneRule () (retyped "null_check") [checkFlow] rfl).mpr settled
  exact ⟨pushed, affected, success, fun flow member node inside linked =>
    (stable flow member rfl node inside linked).1⟩

end Runs

end CogniDQ.Sync
