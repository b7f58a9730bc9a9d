import CogniDQ.Rules.CompileErrors
import CogniDQ.Sync.PullReflection
import CogniDQ.Sync.RuleService

/-!
# Stored errors

A rule is stored unless its compiled SQL is empty. Only three of the compilers leave it empty when
they report an error: the others' error messages are stored as if they were SQL.
-/

set_option autoImplicit false

namespace CogniDQ.Sync.RuleService

open CogniDQ.Python CogniDQ.Rules CogniDQ.Flow CogniDQ.Sql

section Rows

variable {Uuid : Type} [DecidableEq Uuid] {linking : Linking Uuid} {ruleId workspaceId : Uuid}
  {store next : Store Uuid} (holds : DQRule Uuid → Prop)

theorem writeRule_all {rules : List (DQRule Uuid)} {written : DQRule Uuid}
    (all : ∀ rule ∈ rules, holds rule) (new : holds written) :
    ∀ rule ∈ writeRule workspaceId ruleId written rules, holds rule := by
  intro rule member
  obtain ⟨source, listed, rfl⟩ := List.mem_map.mp member
  split
  · exact new
  · exact all source listed

theorem written_mem {rules : List (DQRule Uuid)} {rule written : DQRule Uuid}
    (found : rules.find? (ofId workspaceId ruleId) = some rule) :
    written ∈ writeRule workspaceId ruleId written rules :=
  List.mem_map.mpr ⟨rule, List.mem_of_find?_eq_some found, if_pos (List.find?_some found)⟩

theorem deleteRule_all {softDelete : Bool}
    (archived : ∀ rule, holds rule → holds { rule with isActive := false, status := .archived })
    (all : ∀ rule ∈ store.rules, holds rule) :
    ∀ rule ∈ (deleteRule ruleId workspaceId softDelete store).1.rules, holds rule := by
  unfold deleteRule
  split
  · exact all
  · next rule found =>
    split
    · exact writeRule_all holds all (archived rule (all rule (List.mem_of_find?_eq_some found)))
    · exact fun rule member => all rule (List.mem_filter.mp member).1

theorem propagate_all {commits : Bool} {oldDefinition newDefinition : Option StoredDefinition}
    (keeps : commits = true → ∀ entry : String × Value,
      List.Mem entry (extractCheckNodes linking newDefinition) → ∀ rule patch metaData, holds rule →
        ruleIdOf linking ((dictOf entry.2).get "rule_id") = some rule.id →
          rule.workspaceId = workspaceId →
            ((extractCheckNodes linking oldDefinition).get entry.1).eq entry.2 = false →
              nodeToRulePatch linking.runtime (dictOf entry.2) rule = .ok patch →
                holds { applyPatchToRule rule patch with metaData })
    (all : ∀ rule ∈ store.rules, holds rule)
    (success : propagate linking workspaceId commits oldDefinition newDefinition store = .ok next) :
    ∀ rule ∈ next.rules, holds rule := by
  simp only [propagate] at success
  obtain ⟨⟨rules, affected⟩, pulled, success⟩ := bind_eq_ok success
  cases success
  rcases propagateFlowToRules_eq_ok pulled with ⟨syncing, -⟩ | ⟨-, after, folded, rfl⟩
  · cases syncing
  · intro rule member
    dsimp only at member
    split at member
    · next committed =>
      simp only [Bool.and_eq_true] at committed
      exact pull_all (configs_extractCheckNodes newDefinition) (keeps committed.2) folded all
        rule member
    · exact all rule member

theorem Call.step_of_ok {call : Call Uuid} (success : call.run linking store = .ok next) :
    call.step linking store = next := by
  unfold Call.step
  rw [success]

private theorem Call.step_of_error {call : Call Uuid} {error : Exn}
    (raised : call.run linking store = .error error) : call.step linking store = store := by
  unfold Call.step
  rw [raised]

end Rows

section Compilations

variable {runtime : Runtime} {canonical : Dict} {targets : Targets}

/-- The text runs on the database, and is no error marker. `executes` tells the texts that run. -/
structure Executable (executes : String → Bool) (compiled : CompiledSql) : Prop where
  runs : executes compiled.sql = true
  unmarked : ∀ message, compiled.sql ≠ "-- ERROR: " ++ message

theorem compileCanonical_reports :
    Reports (errorStyle (canonical.get "dimension")) Compiled.opens
      (compileCanonical runtime canonical targets) := by
  unfold compileCanonical
  split
  · dsimp only
    split
    · exact compileRule_reports _ _ _ _
    · exact .ite (.error _) (compileRule_reports _ _ _ _)
  · exact .error _

section Compiled

variable {result : Compiled} (made : compileCanonical runtime canonical targets = .ok (.compiled result))
include made

theorem compiled_begins :
    ∃ first rest, (compiledSql (.compiled result)).sql.toList = first :: rest ∧ first ≠ '-' := by
  have opens : Opens result.query.opening := compileCanonical_reports _ made
  obtain ⟨first, rest, chars, other⟩ := (opens.append _).append result.query.closing
  refine ⟨first, rest, ?_, other⟩
  show result.query.phrase.text.toList = first :: rest
  rw [Phrase.text, String.toList_ofList]
  exact chars

theorem compiled_not_empty : (compiledSql (.compiled result)).sql ≠ "" := by
  obtain ⟨first, rest, begun, -⟩ := compiled_begins made
  intro empty
  rw [empty] at begun
  cases begun

private theorem compiled_unmarked (message : String) :
    (compiledSql (.compiled result)).sql ≠ "-- ERROR: " ++ message := by
  obtain ⟨first, rest, begun, other⟩ := compiled_begins made
  intro same
  rw [same, String.toList_append] at begun
  exact other (List.cons.inj begun).1.symm

end Compiled

private theorem errorStyle_str {dimension : String} :
    errorStyle (.str dimension) = .flagged ↔ dimension ∈ flaggedDimensions := by
  have any : flaggedDimensions.any (Value.str dimension).is = true ↔ dimension ∈ flaggedDimensions := by
    simp [flaggedDimensions, Value.is]
  unfold errorStyle
  split_ifs with flagged conformity
  · exact iff_of_true rfl (any.mp flagged)
  · exact iff_of_false (by decide) fun member => flagged (any.mpr member)
  · exact iff_of_false (by decide) fun member => flagged (any.mpr member)

theorem compiledSql_failed (style : ErrorStyle) (message : String) :
    (compiledSql (.failed style message)).sql = "" ↔ style = .flagged := by
  cases style <;> simp [compiledSql]

theorem failed_style {style : ErrorStyle} {message : String} {definition : CanonicalRuleDefinition}
    (failing : compileCanonical runtime definition.dict targets = .ok (.failed style message)) :
    style = .flagged ↔ definition.dimension.value ∈ flaggedDimensions := by
  have reported : style = errorStyle (definition.dict.get "dimension") :=
    compileCanonical_reports _ failing
  rw [reported]
  exact errorStyle_str

/-- The error leaves the texts empty, or the text runs. -/
def Sound (executes : String → Bool) (dimension : String) : Outcome Compiled → Prop
  | .failed _ _ => dimension ∈ flaggedDimensions
  | .compiled result => executes (compiledSql (.compiled result)).sql = true

/-- What is stored of a canonical rule that compiles to a text is executable exactly if the
compilation is sound. -/
theorem executable_iff_sound {executes : String → Bool} {compilation : Outcome Compiled}
    {definition : CanonicalRuleDefinition}
    (compiled : compileCanonical runtime definition.dict targets = .ok compilation)
    (written : (compiledSql compilation).sql ≠ "") :
    Executable executes (compiledSql compilation) ↔
      Sound executes definition.dimension.value compilation := by
  cases compilation with
  | failed style message =>
    refine iff_of_false (fun executable => ?_) fun flagged => ?_
    · cases style with
      | flagged => exact written rfl
      | commented => exact executable.unmarked message rfl
      | commentedWithoutViolation => exact executable.unmarked message rfl
    · exact written ((compiledSql_failed style message).mpr ((failed_style compiled).mpr flagged))
  | compiled result => exact ⟨Executable.runs, fun runs => ⟨runs, compiled_unmarked compiled⟩⟩

/-- What is not stored, since its text is empty, is an error. -/
theorem sound_of_empty {executes : String → Bool} {compilation : Outcome Compiled}
    {definition : CanonicalRuleDefinition}
    (compiled : compileCanonical runtime definition.dict targets = .ok compilation)
    (empty : (compiledSql compilation).sql = "") :
    Sound executes definition.dimension.value compilation := by
  cases compilation with
  | failed style message =>
    exact (failed_style compiled).mp ((compiledSql_failed style message).mp empty)
  | compiled result => exact absurd empty (compiled_not_empty compiled)

end Compilations

section Steps

variable {Uuid : Type} {linking : Linking Uuid} {id createdBy workspaceId : Uuid} {accepted : Bool}
  {request : CreateRuleRequest} {store next : Store Uuid} {style : ErrorStyle} {message : String}

theorem createRule_eq_ok
    (success : createRule linking id createdBy workspaceId accepted request store = .ok next) :
    ∃ compilation rule, compileCanonical linking.runtime request.canonicalRule.dict
        (createTargets request) = .ok compilation ∧
      (compiledSql compilation).sql ≠ "" ∧ accepted = true ∧ rule.compiled = compiledSql compilation ∧
      next.rules = store.rules ++ [rule] ∧ rule.canonicalRule = request.canonicalRule.dict ∧
      rule.targetSchema = (createTargets request).schema ∧
      rule.targetTable = (createTargets request).table ∧
      rule.targetColumns = some (createColumns request) := by
  simp only [createRule] at success
  obtain ⟨compilation, compiled, success⟩ := bind_eq_ok success
  by_cases empty : (compiledSql compilation).sql = ""
  · rw [if_pos empty] at success
    cases success
  · rw [if_neg empty] at success
    cases accepted with
    | false => cases success
    | true =>
      cases success
      exact ⟨compilation, _, compiled, empty, rfl, rfl, rfl, rfl, rfl, rfl, rfl⟩

theorem createRule_of_compiled {compilation : Outcome Compiled}
    (compiled : compileCanonical linking.runtime request.canonicalRule.dict (createTargets request) =
      .ok compilation) (written : (compiledSql compilation).sql ≠ "") :
    ∃ next, createRule linking id createdBy workspaceId true request store = .ok next := by
  simp only [createRule, compiled, bind, Except.bind]
  rw [if_neg written]
  exact ⟨_, rfl⟩

/-- A creation whose rule does not compile is refused exactly when the error leaves the texts
empty, or the database does not take the row. -/
theorem createRule_refused_iff (failing : compileCanonical linking.runtime
      request.canonicalRule.dict (createTargets request) = .ok (.failed style message)) :
    (∃ error, createRule linking id createdBy workspaceId accepted request store = .error error) ↔
      request.canonicalRule.dimension.value ∈ flaggedDimensions ∨ accepted = false := by
  rw [← failed_style failing, ← compiledSql_failed style message]
  simp only [createRule, failing, bind, Except.bind]
  by_cases empty : (compiledSql (.failed style message)).sql = ""
  · rw [if_pos empty]
    exact iff_of_true ⟨_, rfl⟩ (.inl empty)
  · rw [if_neg empty]
    cases accepted with
    | false => exact iff_of_true ⟨_, rfl⟩ (.inr rfl)
    | true => exact iff_of_false (fun ⟨_, raised⟩ => nomatch raised) (fun either => either.elim empty nofun)

/-- The canonical rule that an update compiles: one that differs from the stored one. -/
def changedRule (update : UpdateRuleRequest) (rule : DQRule Uuid) : Option CanonicalRuleDefinition :=
  update.canonicalRule.filter fun definition =>
    !Value.eqEntries [] definition.dict rule.canonicalRule

theorem changedRule_eq_some {update : UpdateRuleRequest} {rule : DQRule Uuid}
    {definition : CanonicalRuleDefinition} : changedRule update rule = some definition ↔
      update.canonicalRule = some definition ∧
        Value.eqEntries [] definition.dict rule.canonicalRule = false := by
  simp [changedRule, Option.filter_eq_some_iff]

theorem recompile_eq_ok {update : UpdateRuleRequest} {rule recompiled : DQRule Uuid}
    (success : recompile linking update rule = .ok recompiled) :
    (changedRule update rule = none ∧ recompiled = rule) ∨
    ∃ definition compilation, changedRule update rule = some definition ∧
      compileCanonical linking.runtime definition.dict ⟨none, none, []⟩ = .ok compilation ∧
      (compiledSql compilation).sql ≠ "" ∧
      recompiled = { rule with
        canonicalRule := definition.dict
        category := .str definition.dimension.value
        compiled := compiledSql compilation
        targetSchema := (updateTargets definition.entity).schema
        targetTable := (updateTargets definition.entity).table
        targetColumns := some (updateTargets definition.entity).columns } := by
  unfold recompile at success
  split at success
  · next absent =>
    cases success
    exact .inl ⟨by rw [changedRule, absent]; rfl, rfl⟩
  · next definition given =>
    split at success
    · next same =>
      cases success
      exact .inl ⟨by simp [changedRule, given, same], rfl⟩
    · next differs =>
      obtain ⟨compilation, compiled, success⟩ := bind_eq_ok success
      dsimp only at success
      split at success
      · cases success
      · next written =>
        cases success
        exact .inr ⟨definition, compilation,
          changedRule_eq_some.mpr ⟨given, eq_false_of_ne_true differs⟩, compiled, written, rfl⟩

variable [DecidableEq Uuid] {ruleId : Uuid} {update : UpdateRuleRequest} {rule : DQRule Uuid}
  {definition : CanonicalRuleDefinition}

theorem updateRule_eq_ok
    (success : updateRule linking ruleId workspaceId accepted update store = .ok next) :
    (store.rules.find? (ofId workspaceId ruleId) = none ∧ next = store) ∨
    ∃ rule recompiled, store.rules.find? (ofId workspaceId ruleId) = some rule ∧
      recompile linking update rule = .ok recompiled ∧ accepted = true ∧
      next.rules = writeRule workspaceId ruleId (overwrite update recompiled) store.rules := by
  unfold updateRule at success
  split at success
  · next unknown =>
    cases success
    exact .inl ⟨unknown, rfl⟩
  · next rule found =>
    obtain ⟨recompiled, made, success⟩ := bind_eq_ok success
    cases accepted with
    | false => cases success
    | true =>
      cases success
      exact .inr ⟨rule, recompiled, found, made, rfl, rfl⟩

theorem updateRule_of_compiled {compilation : Outcome Compiled}
    (found : store.rules.find? (ofId workspaceId ruleId) = some rule)
    (changed : changedRule update rule = some definition)
    (compiled : compileCanonical linking.runtime definition.dict ⟨none, none, []⟩ = .ok compilation)
    (written : (compiledSql compilation).sql ≠ "") :
    ∃ next, updateRule linking ruleId workspaceId true update store = .ok next := by
  obtain ⟨given, differs⟩ := changedRule_eq_some.mp changed
  simp only [updateRule, found, recompile, given, differs, compiled, bind, Except.bind]
  rw [if_neg Bool.false_ne_true, if_neg written]
  exact ⟨_, rfl⟩

/-- An update to a canonical rule that does not compile is refused exactly when the canonical rule
differs from the stored one and the error leaves the texts empty, or the database does not take the
row. -/
theorem updateRule_refused_iff (found : store.rules.find? (ofId workspaceId ruleId) = some rule)
    (given : update.canonicalRule = some definition)
    (failing : compileCanonical linking.runtime definition.dict ⟨none, none, []⟩ =
      .ok (.failed style message)) :
    (∃ error, updateRule linking ruleId workspaceId accepted update store = .error error) ↔
      Value.eqEntries [] definition.dict rule.canonicalRule = false ∧
        definition.dimension.value ∈ flaggedDimensions ∨ accepted = false := by
  rw [← failed_style failing, ← compiledSql_failed style message]
  simp only [updateRule, found, recompile, given, failing, bind, Except.bind]
  cases Value.eqEntries [] definition.dict rule.canonicalRule with
  | true => cases accepted <;> simp [pure, Except.pure]
  | false =>
    by_cases empty : (compiledSql (.failed style message)).sql = ""
    · simp [empty]
    · cases accepted <;> simp [empty, pure, Except.pure]

end Steps

section Runs

variable {Uuid : Type} [DecidableEq Uuid] {linking : Linking Uuid} {store next : Store Uuid}
  {executes : String → Bool} {accepted : Bool}

def AllExecutable (executes : String → Bool) (store : Store Uuid) : Prop :=
  ∀ rule ∈ store.rules, Executable executes rule.compiled

/-- A rule that the request would store compiles to a text that runs; or it does not compile, and is of
a dimension whose errors leave the texts empty. -/
def Call.sound (executes : String → Bool) (linking : Linking Uuid) (store : Store Uuid) :
    Call Uuid → Prop
  | .createRule _ _ _ accepted request =>
    accepted = true → ∀ compilation,
      compileCanonical linking.runtime request.canonicalRule.dict (createTargets request) =
          .ok compilation →
        Sound executes request.canonicalRule.dimension.value compilation
  | .updateRule ruleId workspaceId accepted request =>
    accepted = true → ∀ rule definition compilation,
      store.rules.find? (ofId workspaceId ruleId) = some rule →
        changedRule request rule = some definition →
          compileCanonical linking.runtime definition.dict ⟨none, none, []⟩ = .ok compilation →
            Sound executes definition.dimension.value compilation
  | _ => True

theorem createRule_executable {id createdBy workspaceId : Uuid} {request : CreateRuleRequest}
    (all : AllExecutable executes store)
    (sound : (Call.createRule id createdBy workspaceId accepted request).sound executes linking store)
    (success : createRule linking id createdBy workspaceId accepted request store = .ok next) :
    AllExecutable executes next := by
  obtain ⟨compilation, created, compiled, written, taken, stored, rules, -⟩ := createRule_eq_ok success
  have executable := (executable_iff_sound compiled written).mpr (sound taken compilation compiled)
  intro rule member
  rw [rules] at member
  rcases List.mem_append.mp member with older | new
  · exact all rule older
  · rw [List.mem_singleton.mp new, stored]
    exact executable

private theorem updateRule_executable {ruleId workspaceId : Uuid} {update : UpdateRuleRequest}
    (all : AllExecutable executes store)
    (sound : (Call.updateRule ruleId workspaceId accepted update).sound executes linking store)
    (success : updateRule linking ruleId workspaceId accepted update store = .ok next) :
    AllExecutable executes next := by
  rcases updateRule_eq_ok success with ⟨-, rfl⟩ | ⟨rule, recompiled, found, made, taken, rules⟩
  · exact all
  · have executable : Executable executes recompiled.compiled := by
      rcases recompile_eq_ok made with ⟨-, rfl⟩ |
        ⟨definition, compilation, changed, compiled, written, rfl⟩
      · exact all _ (List.mem_of_find?_eq_some found)
      · exact (executable_iff_sound compiled written).mpr
          (sound taken rule definition compilation found changed compiled)
    intro current member
    rw [rules] at member
    have new : Executable executes (overwrite update recompiled).compiled := executable
    exact writeRule_all (fun rule => Executable executes rule.compiled) all new current member

private theorem createRule_sound {id createdBy workspaceId : Uuid} {request : CreateRuleRequest}
    (all : AllExecutable executes
      ((Call.createRule id createdBy workspaceId accepted request).step linking store)) :
    (Call.createRule id createdBy workspaceId accepted request).sound executes linking store := by
  rintro rfl compilation compiled
  by_cases empty : (compiledSql compilation).sql = ""
  · exact sound_of_empty compiled empty
  · obtain ⟨next, run⟩ : ∃ next, createRule linking id createdBy workspaceId true request store =
        .ok next := createRule_of_compiled compiled empty
    rw [Call.step_of_ok (show (Call.createRule id createdBy workspaceId true request).run linking
      store = _ from run)] at all
    obtain ⟨other, created, compiledOther, -, -, stored, rules, -⟩ := createRule_eq_ok run
    cases compiled.symm.trans compiledOther
    have executable := all created (by rw [rules]; exact List.mem_append_right _ List.mem_cons_self)
    rw [stored] at executable
    exact (executable_iff_sound compiled empty).mp executable

private theorem updateRule_sound {ruleId workspaceId : Uuid} {update : UpdateRuleRequest}
    (all : AllExecutable executes
      ((Call.updateRule ruleId workspaceId accepted update).step linking store)) :
    (Call.updateRule ruleId workspaceId accepted update).sound executes linking store := by
  rintro rfl rule definition compilation found changed compiled
  by_cases empty : (compiledSql compilation).sql = ""
  · exact sound_of_empty compiled empty
  · obtain ⟨next, run⟩ := updateRule_of_compiled found changed compiled empty
    rw [Call.step_of_ok (show (Call.updateRule ruleId workspaceId true update).run linking store = _
      from run)] at all
    rcases updateRule_eq_ok run with ⟨unknown, -⟩ | ⟨other, recompiled, again, made, -, rules⟩
    · cases found.symm.trans unknown
    · cases found.symm.trans again
      rcases recompile_eq_ok made with ⟨unchanged, -⟩ | ⟨_, _, changedOther, compiledOther, -, rfl⟩
      · cases changed.symm.trans unchanged
      · cases changed.symm.trans changedOther
        cases compiled.symm.trans compiledOther
        exact (executable_iff_sound compiled empty).mp (all _ (rules ▸ written_mem found))

private theorem Call.step_executable_iff (all : AllExecutable executes store) (call : Call Uuid) :
    AllExecutable executes (call.step linking store) ↔ call.sound executes linking store := by
  constructor
  · intro executable
    cases call with
    | createRule id createdBy workspaceId accepted request => exact createRule_sound executable
    | updateRule ruleId workspaceId accepted request => exact updateRule_sound executable
    | _ => trivial
  · intro sound
    unfold Call.step
    split
    · next next success =>
      cases call with
      | createRule id createdBy workspaceId accepted request =>
        exact createRule_executable all sound success
      | updateRule ruleId workspaceId accepted request =>
        exact updateRule_executable all sound success
      | deleteRule ruleId workspaceId softDelete =>
        cases success
        exact deleteRule_all (fun rule => Executable executes rule.compiled)
          (fun rule executable => executable) all
      | propagateFlowToRules workspaceId commits oldDefinition newDefinition =>
        exact propagate_all (fun rule => Executable executes rule.compiled)
          (fun _ _ _ rule patch metaData executable _ _ _ _ => executable) all success
    · exact all

/-- Every request of a run is sound in the store it finds. -/
def AllSound (executes : String → Bool) (linking : Linking Uuid) (store : Store Uuid) :
    List (Call Uuid) → Prop
  | [] => True
  | call :: rest =>
    call.sound executes linking store ∧ AllSound executes linking (call.step linking store) rest

theorem reached_executable_iff (all : AllExecutable executes store) (calls : List (Call Uuid)) :
    (∀ state ∈ reached linking store calls, AllExecutable executes state) ↔
      AllSound executes linking store calls := by
  induction calls generalizing store with
  | nil => simpa [reached, AllSound] using all
  | cons call rest ih =>
    have step : AllExecutable executes (call.step linking store) ↔ call.sound executes linking store :=
      Call.step_executable_iff all call
    have first : call.step linking store ∈ reached linking (call.step linking store) rest := by
      cases rest <;> exact List.mem_cons_self
    unfold reached AllSound
    rw [List.forall_mem_cons, and_iff_right all]
    constructor
    · intro executable
      have next := executable _ first
      exact ⟨step.mp next, (ih next).mp executable⟩
    · rintro ⟨sound, later⟩
      exact (ih (step.mpr sound)).mpr later

/-- A request whose rule does not compile is refused, and runs from no rules store texts that run and no
error markers, exactly where the errors leave the compiled texts empty and what compiles runs. -/
theorem errors_refused_iff (linking : Linking Uuid) (executes : String → Bool) :
    (∀ id createdBy workspaceId accepted request store style message,
      compileCanonical linking.runtime request.canonicalRule.dict (createTargets request) =
          .ok (.failed style message) →
        ((∃ error, (Call.createRule id createdBy workspaceId accepted request).run linking store =
            .error error) ∧
          (Call.createRule id createdBy workspaceId accepted request).step linking store = store ↔
        request.canonicalRule.dimension.value ∈ flaggedDimensions ∨ accepted = false)) ∧
    (∀ ruleId workspaceId accepted request definition store style message,
      request.canonicalRule = some definition →
        compileCanonical linking.runtime definition.dict ⟨none, none, []⟩ =
            .ok (.failed style message) →
          ((∃ error, (Call.updateRule ruleId workspaceId accepted request).run linking store =
              .error error) ∧
            (Call.updateRule ruleId workspaceId accepted request).step linking store = store ↔
          ∃ rule, store.rules.find? (ofId workspaceId ruleId) = some rule ∧
            (Value.eqEntries [] definition.dict rule.canonicalRule = false ∧
              definition.dimension.value ∈ flaggedDimensions ∨ accepted = false))) ∧
    ∀ flows calls,
      (∀ store ∈ reached linking ⟨flows, []⟩ calls, ∀ rule ∈ store.rules,
        executes rule.compiled.sql = true ∧
          ∀ message, rule.compiled.sql ≠ "-- ERROR: " ++ message) ↔
      AllSound executes linking ⟨flows, []⟩ calls := by
  refine ⟨?create, ?update, ?runs⟩
  case create =>
    intro id createdBy workspaceId accepted request store style message failing
    refine Iff.trans ⟨And.left, ?_⟩ (createRule_refused_iff failing)
    rintro ⟨error, raised⟩
    exact ⟨⟨error, raised⟩, Call.step_of_error raised⟩
  case update =>
    intro ruleId workspaceId accepted request definition store style message given failing
    constructor
    · rintro ⟨⟨error, raised⟩, -⟩
      cases found : store.rules.find? (ofId workspaceId ruleId) with
      | none => simp [Call.run, updateRule, found] at raised
      | some rule =>
        exact ⟨rule, rfl, (updateRule_refused_iff found given failing).mp ⟨error, raised⟩⟩
    · rintro ⟨rule, found, refused⟩
      obtain ⟨error, raised⟩ := (updateRule_refused_iff found given failing).mpr refused
      exact ⟨⟨error, raised⟩, Call.step_of_error raised⟩
  case runs =>
    intro flows calls
    have none : AllExecutable executes (⟨flows, []⟩ : Store Uuid) :=
      fun rule member => absurd member List.not_mem_nil
    refine Iff.trans ?_ (reached_executable_iff none calls)
    constructor
    · intro sound store visited rule member
      obtain ⟨runs, unmarked⟩ := sound store visited rule member
      exact ⟨runs, unmarked⟩
    · intro all store visited rule member
      have executable := all store visited rule member
      exact ⟨executable.runs, executable.unmarked⟩

private def unpatterned : CreateRuleRequest where
  name := "email format"
  description := none
  canonicalRule :=
    { dimension := .conformity, entity := "customers.email", condition := "REGEX",
      expectation := "100%", severity := .major,
      parameters := some [("conformity_type", .str "regex")] }
  dataSourceId := none
  targetSchema := none
  targetTable := none
  targetColumns := none
  schedule := none
  thresholdConfig := none
  notificationConfig := none
  tags := none

/-- A conformity rule without its pattern does not compile, and is stored with the error. -/
theorem conformity_error_stored :
    (∃ style message, compileCanonical oneRule.runtime unpatterned.canonicalRule.dict
      (createTargets unpatterned) = .ok (.failed style message)) ∧
    (¬∃ error, createRule oneRule () () () true unpatterned ⟨[], []⟩ = .error error) ∧
    ∃ rule ∈ ((Call.createRule () () () true unpatterned).step oneRule ⟨[], []⟩).rules,
      rule.compiled.sql = "-- ERROR: regex conformity_type requires regex_pattern parameter" := by
  have created : ∃ next, createRule oneRule () () () true unpatterned ⟨[], []⟩ = .ok next ∧
      (next.rules.map fun rule => rule.compiled.sql) =
        ["-- ERROR: regex conformity_type requires regex_pattern parameter"] := ⟨_, rfl, rfl⟩
  obtain ⟨next, created, stored⟩ := created
  refine ⟨⟨_, _, rfl⟩, ?_, ?_⟩
  · rintro ⟨error, raised⟩
    cases created.symm.trans raised
  · rw [Call.step_of_ok (show (Call.createRule () () () true unpatterned).run oneRule ⟨[], []⟩ = _
      from created)]
    cases rules : next.rules with
    | nil => simp [rules] at stored
    | cons rule rest =>
      rw [rules] at stored
      exact ⟨rule, List.mem_cons_self, (List.cons.inj stored).1⟩

end Runs

end CogniDQ.Sync.RuleService
