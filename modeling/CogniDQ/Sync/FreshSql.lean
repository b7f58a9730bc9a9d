import CogniDQ.Sync.StoredErrors

/-!
# Stale SQL

The SQL of a rule is compiled for the schema, table and column that one reading of its entity
gives, and stored beside the targets that another reading gives. It goes stale where the two
readings differ, and where the targets are changed without a compilation.
-/

set_option autoImplicit false

namespace CogniDQ.Sync

open CogniDQ.Python CogniDQ.Rules

/-- What `compile_rule` reads of targets: the schema, the table and the column. -/
def Targets.read (runtime : Runtime) (entity : String) (targets : Targets) :
    String × String × String :=
  (targets.schema.getD "",
    if targets.table.getD "" = "" then (splitDot entity).1 else targets.table.getD "",
    match targets.columns with
    | column :: _ => runtime.str column
    | [] => (splitDot entity).2.getD "*")

def DQRule.targets {Uuid : Type} (rule : DQRule Uuid) : Targets where
  schema := rule.targetSchema
  table := rule.targetTable
  columns := rule.targetColumns.getD []

/-- The stored SQL is what the stored canonical rule compiles to for the stored targets. -/
def Fresh {Uuid : Type} (runtime : Runtime) (rule : DQRule Uuid) : Prop :=
  ∃ outcome, compileCanonical runtime rule.canonicalRule rule.targets = .ok outcome ∧
    rule.compiled = compiledSql outcome

section Readings

variable {runtime : Runtime} {first second : Targets}

private theorem compileRule_congr {rule : CanonicalRule}
    (same : first.read runtime rule.entity = second.read runtime rule.entity) :
    compileRule runtime rule (first.schema.getD "") (first.table.getD "")
        (first.columns.map runtime.str) =
      compileRule runtime rule (second.schema.getD "") (second.table.getD "")
        (second.columns.map runtime.str) := by
  obtain ⟨schema, table, column⟩ : _ ∧ _ ∧ _ := by simpa only [Targets.read, Prod.mk.injEq] using same
  have tables : rule.table (first.schema.getD "") (first.table.getD "") =
      rule.table (second.schema.getD "") (second.table.getD "") := by
    unfold CanonicalRule.table
    rw [schema, table]
  have columns : rule.column (first.columns.map runtime.str) =
      rule.column (second.columns.map runtime.str) := by
    unfold CanonicalRule.column
    cases firstColumns : first.columns <;> cases secondColumns : second.columns <;>
      simp_all
  unfold compileRule
  rw [tables, columns]

theorem compileCanonical_congr {canonical other : Dict}
    (dimension : canonical.get "dimension" = other.get "dimension")
    (entity : canonical.get "entity" = other.get "entity")
    (condition : canonical.get "condition" = other.get "condition")
    (parameters : canonical.getD "parameters" (.dict []) = other.getD "parameters" (.dict []))
    (same : ∀ named, canonical.get "entity" = .str named →
      first.read runtime named = second.read runtime named) :
    compileCanonical runtime canonical first = compileCanonical runtime other second := by
  unfold compileCanonical
  rw [← dimension, ← entity, ← condition, ← parameters]
  cases named : canonical.get "entity" with
  | str text =>
    have rules (parameters : Dict) := @compileRule_congr runtime first second
      ⟨canonical.get "dimension", text, canonical.get "condition", parameters⟩ (same text named)
    dsimp only
    split
    · next given => exact rules _
    · exact congrArg (ite _ _) (rules [])
  | _ => rfl

end Readings

namespace RuleService

open CogniDQ.Flow

section Steps

variable {Uuid : Type} {linking : Linking Uuid} {store next : Store Uuid}

def overriding (request : UpdateRuleRequest) (targets : Targets) : Targets :=
  { targets with
    table := request.targetTable.or targets.table
    columns := (request.targetColumns.map fun columns => columns.map .str).getD targets.columns }

private theorem targets_overwrite (request : UpdateRuleRequest) (rule : DQRule Uuid) :
    (overwrite request rule).targets = overriding request rule.targets := by
  unfold overwrite overriding DQRule.targets
  cases request.targetColumns <;> rfl

/-- The columns of a changed node that names the rule begin with the column that the rule's SQL is
compiled for. -/
def KeepsColumn (linking : Linking Uuid) (workspaceId : Uuid)
    (oldDefinition newDefinition : Option StoredDefinition) (rule : DQRule Uuid) : Prop :=
  ∀ entry : String × Value, List.Mem entry (extractCheckNodes linking newDefinition) →
    ruleIdOf linking ((dictOf entry.2).get "rule_id") = some rule.id →
      rule.workspaceId = workspaceId →
        ((extractCheckNodes linking oldDefinition).get entry.1).eq entry.2 = false →
          ((dictOf entry.2).get "columns").isNone = false →
            ∀ columns, ((dictOf entry.2).get "columns").elements = .ok columns →
              ∀ entity, rule.canonicalRule.get "entity" = .str entity →
                { rule.targets with columns }.read linking.runtime entity =
                  rule.targets.read linking.runtime entity

theorem Fresh.retarget {runtime : Runtime} {rule other : DQRule Uuid} (fresh : Fresh runtime rule)
    (compiled : other.compiled = rule.compiled) (canonical : other.canonicalRule = rule.canonicalRule)
    (same : ∀ entity, rule.canonicalRule.get "entity" = .str entity →
      other.targets.read runtime entity = rule.targets.read runtime entity) :
    Fresh runtime other := by
  obtain ⟨outcome, made, stored⟩ := fresh
  refine ⟨outcome, ?_, compiled.trans stored⟩
  rw [← made, canonical]
  exact compileCanonical_congr rfl rfl rfl rfl same

private theorem read_createColumns {runtime : Runtime} {request : CreateRuleRequest}
    (named : ∀ rest, request.targetColumns = some ("" :: rest) →
      (splitDot request.canonicalRule.entity).2.getD "*" = "") :
    { createTargets request with columns := createColumns request }.read runtime
        request.canonicalRule.entity =
      (createTargets request).read runtime request.canonicalRule.entity := by
  unfold createColumns
  by_cases empty : createColumn request = ""
  · have targets : (createTargets request).columns = [] := if_pos empty
    rw [if_pos empty]
    cases given : request.targetColumns with
    | none => simp [Targets.read, targets]
    | some columns =>
      cases columns with
      | nil => simp [Targets.read, targets]
      | cons column rest =>
        have first : column = "" := by
          unfold createColumn at empty
          rw [given] at empty
          exact empty
        subst first
        simp [Targets.read, targets, named rest given]
  · rw [if_neg empty]
    have targets : (createTargets request).columns = [.str (createColumn request)] := if_neg empty
    simp [Targets.read, targets]

private theorem createRule_fresh {id createdBy workspaceId : Uuid} {accepted : Bool}
    {request : CreateRuleRequest} (fresh : ∀ rule ∈ store.rules, Fresh linking.runtime rule)
    (named : ∀ rest, request.targetColumns = some ("" :: rest) →
      (splitDot request.canonicalRule.entity).2.getD "*" = "")
    (success : createRule linking id createdBy workspaceId accepted request store = .ok next) :
    ∀ rule ∈ next.rules, Fresh linking.runtime rule := by
  obtain ⟨compilation, created, compiled, -, -, stored, rules, canonical, schema, table, columns⟩ :=
    createRule_eq_ok success
  have targets : created.targets =
      { createTargets request with columns := createColumns request } := by
    unfold DQRule.targets
    rw [schema, table, columns]
    rfl
  have new : Fresh linking.runtime created := by
    refine ⟨compilation, ?_, stored⟩
    rw [← compiled, canonical, targets]
    refine compileCanonical_congr rfl rfl rfl rfl fun entity held => ?_
    cases held
    exact read_createColumns named
  intro rule member
  rw [rules] at member
  rcases List.mem_append.mp member with older | created
  · exact fresh rule older
  · exact List.mem_singleton.mp created ▸ new

variable [DecidableEq Uuid]

/-- The targets that a request leaves a rule with are read as those its SQL is compiled for. -/
def Call.keepsTargets (linking : Linking Uuid) (store : Store Uuid) : Call Uuid → Prop
  | .createRule _ _ _ _ request =>
    ∀ rest, request.targetColumns = some ("" :: rest) →
      (splitDot request.canonicalRule.entity).2.getD "*" = ""
  | .updateRule ruleId workspaceId _ request =>
    ∀ rule, store.rules.find? (ofId workspaceId ruleId) = some rule →
      match changedRule request rule with
      | some definition =>
        (overriding request (updateTargets definition.entity)).read linking.runtime
            definition.entity =
          Targets.read linking.runtime definition.entity ⟨none, none, []⟩
      | none =>
        ∀ entity, rule.canonicalRule.get "entity" = .str entity →
          (overriding request rule.targets).read linking.runtime entity =
            rule.targets.read linking.runtime entity
  | .deleteRule _ _ _ => True
  | .propagateFlowToRules workspaceId commits oldDefinition newDefinition =>
    commits = true → ∀ rule ∈ store.rules,
      KeepsColumn linking workspaceId oldDefinition newDefinition rule

theorem updateRule_fresh {ruleId workspaceId : Uuid} {accepted : Bool} {request : UpdateRuleRequest}
    (fresh : ∀ rule ∈ store.rules, Fresh linking.runtime rule)
    (keeps : (Call.updateRule ruleId workspaceId accepted request).keepsTargets linking store)
    (success : updateRule linking ruleId workspaceId accepted request store = .ok next) :
    ∀ rule ∈ next.rules, Fresh linking.runtime rule := by
  rcases updateRule_eq_ok success with ⟨-, rfl⟩ | ⟨rule, recompiled, found, made, -, rules⟩
  · exact fresh
  · rw [rules]
    refine writeRule_all _ fresh ?_
    have kept := keeps rule found
    rcases recompile_eq_ok made with ⟨unchanged, rfl⟩ |
      ⟨definition, compilation, changed, compiled, -, rfl⟩
    · rw [unchanged] at kept
      refine Fresh.retarget (fresh _ (List.mem_of_find?_eq_some found)) rfl rfl ?_
      rw [targets_overwrite]
      exact kept
    · rw [changed] at kept
      refine ⟨compilation, ?_, rfl⟩
      rw [← compiled, targets_overwrite]
      refine compileCanonical_congr rfl rfl rfl rfl fun entity held => ?_
      cases held
      exact kept

end Steps

section Patches

variable {Uuid : Type} {linking : Linking Uuid} {runtime : Runtime} {cfg : Dict}
  {rule : DQRule Uuid} {patch : Patch} {metaData : Option Dict} {workspaceId : Uuid}
  {oldDefinition newDefinition : Option StoredDefinition}

private theorem getD_canonicalRule_patched {key : String} {default : Value}
    (made : nodeToRulePatch runtime cfg rule = .ok patch) (other : key ≠ "severity") :
    (applyPatchToRule rule patch).canonicalRule.getD key default =
      rule.canonicalRule.getD key default := by
  obtain ⟨columns, -, rfl⟩ := map_eq_ok made
  unfold applyPatchToRule patchWith
  dsimp only
  split
  · exact Dict.getD_set_of_ne (Ne.symm other)
  · rfl

private theorem columns_patched (made : nodeToRulePatch runtime cfg rule = .ok patch) :
    (applyPatchToRule rule patch).targets = rule.targets ∨
      ∃ columns, (cfg.get "columns").isNone = false ∧ (cfg.get "columns").elements = .ok columns ∧
        (applyPatchToRule rule patch).targets = { rule.targets with columns } := by
  obtain ⟨taken, pulled, rfl⟩ := map_eq_ok made
  unfold pullColumns at pulled
  split at pulled
  · cases pulled
    exact .inl rfl
  · next given =>
    obtain ⟨columns, listed, rfl⟩ := map_eq_ok pulled
    split
    · exact .inl rfl
    · exact .inr ⟨columns, eq_false_of_ne_true given, listed, rfl⟩

private theorem fresh_patched {entry : String × Value}
    (member : List.Mem entry (extractCheckNodes linking newDefinition))
    (named : ruleIdOf linking ((dictOf entry.2).get "rule_id") = some rule.id)
    (workspace : rule.workspaceId = workspaceId)
    (differs : ((extractCheckNodes linking oldDefinition).get entry.1).eq entry.2 = false)
    (made : nodeToRulePatch linking.runtime (dictOf entry.2) rule = .ok patch)
    (fresh : Fresh linking.runtime rule)
    (keeps : KeepsColumn linking workspaceId oldDefinition newDefinition rule) :
    Fresh linking.runtime { applyPatchToRule rule patch with metaData } ∧
      KeepsColumn linking workspaceId oldDefinition newDefinition
        { applyPatchToRule rule patch with metaData } := by
  have entity : (applyPatchToRule rule patch).canonicalRule.get "entity" =
      rule.canonicalRule.get "entity" := getD_canonicalRule_patched made (by decide)
  have same (text : String) (held : rule.canonicalRule.get "entity" = .str text) :
      (applyPatchToRule rule patch).targets.read linking.runtime text =
        rule.targets.read linking.runtime text := by
    rcases columns_patched made with targets | ⟨columns, given, listed, targets⟩
    · rw [targets]
    · rw [targets]
      exact keeps entry member named workspace differs given columns listed text held
  constructor
  · obtain ⟨outcome, compiled, stored⟩ := fresh
    refine ⟨outcome, ?_, stored⟩
    rw [← compiled]
    exact compileCanonical_congr (getD_canonicalRule_patched made (by decide)) entity
      (getD_canonicalRule_patched made (by decide)) (getD_canonicalRule_patched made (by decide))
      fun text held => same text (entity.symm.trans held)
  · intro other listed otherNamed otherWorkspace otherDiffers given columns elements text held
    have before : rule.canonicalRule.get "entity" = .str text := entity.symm.trans held
    exact (keeps other listed otherNamed otherWorkspace otherDiffers given columns elements text
      before).trans (same text before).symm

end Patches

section Runs

variable {Uuid : Type} [DecidableEq Uuid] {linking : Linking Uuid} {store next : Store Uuid}

private theorem propagate_fresh {workspaceId : Uuid} {commits : Bool}
    {oldDefinition newDefinition : Option StoredDefinition}
    (fresh : ∀ rule ∈ store.rules, Fresh linking.runtime rule)
    (keeps : (Call.propagateFlowToRules workspaceId commits oldDefinition newDefinition).keepsTargets
      linking store)
    (success : propagate linking workspaceId commits oldDefinition newDefinition store = .ok next) :
    ∀ rule ∈ next.rules, Fresh linking.runtime rule := by
  have both := propagate_all (fun rule => Fresh linking.runtime rule ∧ (commits = true →
      KeepsColumn linking workspaceId oldDefinition newDefinition rule))
    (fun committed entry member rule patch metaData holds named workspace differs made => by
      obtain ⟨patchedFresh, patchedKeeps⟩ :=
        fresh_patched member named workspace differs made holds.1 (holds.2 committed)
      exact ⟨patchedFresh, fun _ => patchedKeeps⟩)
    (fun rule member => ⟨fresh rule member, fun committed => keeps committed rule member⟩) success
  exact fun rule member => (both rule member).1

theorem Call.step_fresh (fresh : ∀ rule ∈ store.rules, Fresh linking.runtime rule) (call : Call Uuid)
    (keeps : (∃ next, call.run linking store = .ok next) → call.keepsTargets linking store) :
    ∀ rule ∈ (call.step linking store).rules, Fresh linking.runtime rule := by
  unfold Call.step
  split
  · next next success =>
    have kept := keeps ⟨next, success⟩
    cases call with
    | createRule id createdBy workspaceId accepted request =>
      exact createRule_fresh fresh kept success
    | updateRule ruleId workspaceId accepted request => exact updateRule_fresh fresh kept success
    | deleteRule ruleId workspaceId softDelete =>
      cases success
      exact deleteRule_all _ (fun rule fresh => fresh) fresh
    | propagateFlowToRules workspaceId commits oldDefinition newDefinition =>
      exact propagate_fresh fresh kept success
  · exact fresh

def KeepsTargets (linking : Linking Uuid) (store : Store Uuid) : List (Call Uuid) → Prop
  | [] => True
  | call :: rest =>
    ((∃ next, call.run linking store = .ok next) → call.keepsTargets linking store) ∧
      KeepsTargets linking (call.step linking store) rest

private theorem reached_fresh (calls : List (Call Uuid))
    (fresh : ∀ rule ∈ store.rules, Fresh linking.runtime rule)
    (keeps : KeepsTargets linking store calls) :
    ∀ state ∈ reached linking store calls, ∀ rule ∈ state.rules, Fresh linking.runtime rule := by
  induction calls generalizing store with
  | nil =>
    intro state member
    rw [List.mem_singleton.mp member]
    exact fresh
  | cons call rest ih =>
    intro state member
    rcases List.mem_cons.mp member with rfl | later
    · exact fresh
    · exact ih (Call.step_fresh fresh call keeps.1) keeps.2 state later

end Runs

section Agreement

def canonicalCreation (name : String) (definition : CanonicalRuleDefinition) :
    CreateRuleRequest where
  name
  description := none
  canonicalRule := definition
  dataSourceId := none
  targetSchema := none
  targetTable := none
  targetColumns := none
  schedule := none
  thresholdConfig := none
  notificationConfig := none
  tags := none

def canonicalUpdate (definition : CanonicalRuleDefinition) : UpdateRuleRequest where
  name := none
  description := none
  category := none
  ruleType := none
  canonicalRule := some definition
  dataSourceId := none
  targetTable := none
  targetColumns := none
  status := none
  isActive := none
  schedule := none
  thresholdConfig := none
  notificationConfig := none
  tags := none
  metadata := none

/-- Creation and update read the same targets from the entity: three parts of which the last names
a column, or more with the first two and the third and last alike. -/
def ReadAlike (entity : String) : Prop :=
  ∃ schema table column rest, splitDots entity = schema :: table :: column :: rest ∧ column ≠ "" ∧
    (rest = [] ∨ schema = table ∧ rest.getLast? = some column)

private theorem createTargets_canonical (name : String) (definition : CanonicalRuleDefinition) :
    (createTargets (canonicalCreation name definition)).schema = (entityTargets definition.entity).1 ∧
    (createTargets (canonicalCreation name definition)).table =
      some (entityTargets definition.entity).2.1 ∧
    createColumns (canonicalCreation name definition) =
      if (entityTargets definition.entity).2.2.getD "" = "" then []
      else [.str ((entityTargets definition.entity).2.2.getD "")] := ⟨rfl, rfl, rfl⟩

private theorem targets_agree_iff (name : String) (definition : CanonicalRuleDefinition) :
    ((createTargets (canonicalCreation name definition)).schema =
        (updateTargets definition.entity).schema ∧
      (createTargets (canonicalCreation name definition)).table =
        (updateTargets definition.entity).table ∧
      createColumns (canonicalCreation name definition) =
        (updateTargets definition.entity).columns) ↔
    ReadAlike definition.entity := by
  obtain ⟨schema, table, columns⟩ := createTargets_canonical name definition
  rw [schema, table, columns]
  unfold ReadAlike entityTargets updateTargets
  rcases splitDots definition.entity with _ | ⟨schema, _ | ⟨table, _ | ⟨column, rest⟩⟩⟩
  · simp
  · simp
  · simp
  · cases rest with
    | nil => by_cases empty : column = "" <;> simp [empty]
    | cons next rest =>
      by_cases empty : column = ""
      · simp [empty]
      · obtain ⟨last, held⟩ : ∃ last, (next :: rest).getLast? = some last :=
          ⟨_, List.getLast?_eq_some_getLast (List.cons_ne_nil next rest)⟩
        simp [empty, held, eq_comm]

variable {Uuid : Type} [DecidableEq Uuid] {linking : Linking Uuid}

/-- Runs whose requests keep the targets keep the stored SQL fresh. An update to a canonical rule
leaves what a creation with it stores exactly when both read the same targets from its entity, and it
compiles to the same SQL for these as for none. -/
theorem stored_sql_fresh (linking : Linking Uuid) :
    (∀ flows calls, KeepsTargets linking ⟨flows, []⟩ calls →
      ∀ store ∈ reached linking ⟨flows, []⟩ calls, ∀ rule ∈ store.rules,
        ∃ outcome, compileCanonical linking.runtime rule.canonicalRule
            ⟨rule.targetSchema, rule.targetTable, rule.targetColumns.getD []⟩ = .ok outcome ∧
          rule.compiled = compiledSql outcome) ∧
    (∀ name definition id createdBy workspaceId first created, createRule linking id createdBy
        workspaceId true (canonicalCreation name definition) first = .ok created →
      ∀ ruleId updatedIn second rule updated, second.rules.find? (ofId updatedIn ruleId) = some rule →
        changedRule (canonicalUpdate definition) rule = some definition →
        updateRule linking ruleId updatedIn true (canonicalUpdate definition) second = .ok updated →
          ∃ new renewed, created.rules = first.rules ++ [new] ∧
            updated.rules = writeRule updatedIn ruleId renewed second.rules ∧
            (new.compiled = renewed.compiled ∧ new.targetSchema = renewed.targetSchema ∧
                new.targetTable = renewed.targetTable ∧
                new.targetColumns = renewed.targetColumns ↔
              ReadAlike definition.entity ∧
                (compileCanonical linking.runtime definition.dict
                    (createTargets (canonicalCreation name definition))).map compiledSql =
                  (compileCanonical linking.runtime definition.dict ⟨none, none, []⟩).map
                    compiledSql)) := by
  refine ⟨?runs, ?agreement⟩
  case runs =>
    intro flows calls keeps
    exact reached_fresh calls (fun rule member => absurd member List.not_mem_nil) keeps
  case agreement =>
    intro name definition id createdBy workspaceId first created creation ruleId updatedIn second
      rule updated found changed update
    obtain ⟨compilation, new, made, -, -, stored, rules, -, schema, table, columns⟩ :=
      createRule_eq_ok creation
    have compiled : compileCanonical linking.runtime definition.dict
        (createTargets (canonicalCreation name definition)) = .ok compilation := made
    rcases updateRule_eq_ok update with ⟨unknown, -⟩ |
      ⟨other, recompiled, foundOther, renewed, -, written⟩
    · cases found.symm.trans unknown
    · cases found.symm.trans foundOther
      rcases recompile_eq_ok renewed with ⟨unchanged, -⟩ |
        ⟨other, recompilation, changedOther, compiledOther, -, rfl⟩
      · cases changed.symm.trans unchanged
      · cases changed.symm.trans changedOther
        refine ⟨new, _, rules, written, ?_⟩
        have agree := targets_agree_iff name definition
        rw [stored, schema, table, columns, compiled, compiledOther]
        constructor
        · rintro ⟨same, sameSchema, sameTable, sameColumns⟩
          exact ⟨agree.mp ⟨sameSchema, sameTable, Option.some.inj sameColumns⟩,
            congrArg Except.ok same⟩
        · rintro ⟨alike, same⟩
          obtain ⟨sameSchema, sameTable, sameColumns⟩ := agree.mpr alike
          exact ⟨Except.ok.inj same, sameSchema, sameTable, congrArg some sameColumns⟩

private def complete (entity : String) : CanonicalRuleDefinition where
  dimension := .completeness
  entity
  condition := "IS NOT NULL"
  expectation := "100%"
  severity := .blocker
  parameters := some []

private def createThenUpdate : List (Call Unit) :=
  [.createRule () () () true (canonicalCreation "identified" (complete "orders.id")),
    .updateRule () () true (canonicalUpdate (complete "customers.email"))]

private def queryChars (targets : Targets) : Option (List Char) :=
  match compileCanonical oneRule.runtime (complete "customers.email").dict targets with
  | .ok (.compiled result) => some result.query.phrase.chars
  | _ => none

private theorem complete_apart :
    (queryChars ⟨some "customers", some "customers", [.str "email"]⟩).isSome = true ∧
      queryChars ⟨some "customers", some "customers", [.str "email"]⟩ ≠ queryChars ⟨none, none, []⟩ := by
  decide +kernel

/-- An update to an entity of two parts stores the table as the schema, too. -/
theorem update_stale : ¬∀ store ∈ reached oneRule ⟨[], []⟩ createThenUpdate,
    ∀ rule ∈ store.rules, Fresh oneRule.runtime rule := by
  intro fresh
  have compiles : ∃ result, compileCanonical oneRule.runtime
      (canonicalCreation "identified" (complete "orders.id")).canonicalRule.dict
      (createTargets (canonicalCreation "identified" (complete "orders.id"))) =
        .ok (.compiled result) := ⟨_, rfl⟩
  have recompiles : ∃ result, compileCanonical oneRule.runtime (complete "customers.email").dict
      ⟨none, none, []⟩ = .ok (.compiled result) := ⟨_, rfl⟩
  obtain ⟨result, compiles⟩ := compiles
  obtain ⟨renewedResult, recompiles⟩ := recompiles
  obtain ⟨created, creation⟩ : ∃ created, createRule oneRule () () () true
      (canonicalCreation "identified" (complete "orders.id")) ⟨[], []⟩ = .ok created :=
    createRule_of_compiled compiles (compiled_not_empty compiles)
  obtain ⟨-, new, -, -, -, -, rules, canonical, -⟩ := createRule_eq_ok creation
  have found : created.rules.find? (ofId () ()) = some new := by
    rw [rules]
    rfl
  have changed : changedRule (canonicalUpdate (complete "customers.email")) new =
      some (complete "customers.email") :=
    changedRule_eq_some.mpr ⟨rfl, by rw [canonical]; decide +kernel⟩
  obtain ⟨updated, update⟩ := updateRule_of_compiled found changed recompiles (compiled_not_empty recompiles)
  have visited : updated ∈ reached oneRule ⟨[], []⟩ createThenUpdate := by
    have first : (Call.createRule () () () true
        (canonicalCreation "identified" (complete "orders.id"))).step oneRule ⟨[], []⟩ = created :=
      Call.step_of_ok creation
    have second : (Call.updateRule () () true
        (canonicalUpdate (complete "customers.email"))).step oneRule created = updated :=
      Call.step_of_ok update
    simp [createThenUpdate, reached, first, second]
  rcases updateRule_eq_ok update with ⟨unknown, -⟩ | ⟨other, recompiled, foundOther, renewed, -, written⟩
  · cases found.symm.trans unknown
  · cases found.symm.trans foundOther
    rcases recompile_eq_ok renewed with ⟨unchanged, -⟩ |
      ⟨other, recompilation, changedOther, compiled, -, rfl⟩
    · cases changed.symm.trans unchanged
    · cases changed.symm.trans changedOther
      obtain ⟨outcome, expected, stored⟩ := fresh updated visited _ (written ▸ written_mem found)
      have sameSql : compiledSql recompilation = compiledSql outcome := stored
      have stale : compileCanonical oneRule.runtime (complete "customers.email").dict
          ⟨some "customers", some "customers", [.str "email"]⟩ = .ok outcome := expected
      obtain ⟨answered, apart⟩ := complete_apart
      cases recompiles.symm.trans compiled
      unfold queryChars at answered apart
      rw [stale] at answered apart
      rw [recompiles] at apart
      cases outcome with
      | failed style message => cases answered
      | compiled staleResult =>
        have texts : renewedResult.query.phrase.text = staleResult.query.phrase.text :=
          congrArg CompiledSql.sql sameSql
        exact apart (congrArg some (String.ofList_injective texts.symm))

end Agreement

end RuleService

end CogniDQ.Sync
