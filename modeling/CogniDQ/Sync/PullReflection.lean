import CogniDQ.Sync.PushStability

/-!
# What an edited flow brings to its rules

A pull takes the rules in the order of the check nodes. A rule that one node names is changed by
that node alone, so what it holds afterwards can be read from the node's config and the rule.
-/

set_option autoImplicit false

namespace CogniDQ.Sync

open CogniDQ.Python CogniDQ.Flow

section Rows

variable {Uuid : Type} [DecidableEq Uuid]

variable {workspaceId ruleId : Uuid} {rules : List (DQRule Uuid)} {rule next : DQRule Uuid}

theorem ofId_iff : ofId workspaceId ruleId rule = true ↔
    rule.id = ruleId ∧ rule.workspaceId = workspaceId := by
  simp [ofId]

theorem find_writeRule (found : rules.find? (ofId workspaceId ruleId) = some rule)
    (same : ofId workspaceId ruleId next = true) :
    (writeRule workspaceId ruleId next rules).find? (ofId workspaceId ruleId) = some next := by
  induction rules with
  | nil => cases found
  | cons first rest ih =>
    unfold writeRule at ih ⊢
    rw [List.map_cons, List.find?_cons]
    rw [List.find?_cons] at found
    by_cases chosen : ofId workspaceId ruleId first = true
    · rw [if_pos chosen, same]
    · rw [if_neg chosen]
      simp only [chosen] at found ⊢
      exact ih found

theorem find_writeRule_of_ne {other : Uuid} (apart : other ≠ ruleId)
    (same : ofId workspaceId ruleId next = true) :
    (writeRule workspaceId ruleId next rules).find? (ofId workspaceId other) =
      rules.find? (ofId workspaceId other) := by
  have unseen {row : DQRule Uuid} (named : ofId workspaceId ruleId row = true) :
      ofId workspaceId other row = false := by
    rw [← Bool.not_eq_true, ofId_iff]
    rintro ⟨id, -⟩
    exact apart (id.symm.trans (ofId_iff.mp named).1)
  induction rules with
  | nil => rfl
  | cons first rest ih =>
    unfold writeRule at ih ⊢
    rw [List.map_cons, List.find?_cons, List.find?_cons, ih]
    by_cases chosen : ofId workspaceId ruleId first = true
    · rw [if_pos chosen, unseen chosen, unseen same]
    · rw [if_neg chosen]

theorem known_writeRule (other : Uuid) (found : rules.find? (ofId workspaceId ruleId) = some rule)
    (same : ofId workspaceId ruleId next = true) :
    ((writeRule workspaceId ruleId next rules).find? (ofId workspaceId other)).isSome =
      (rules.find? (ofId workspaceId other)).isSome := by
  by_cases named : other = ruleId
  · subst named
    rw [find_writeRule found same, found]
    rfl
  · rw [find_writeRule_of_ne named same]

end Rows

section Step

variable {Uuid : Type}

/-- `list(columns)` succeeds, or is not reached. -/
def Listable (columns : Value) : Prop :=
  columns.isNone = false → ∃ listed, columns.elements = .ok listed

theorem nodeToRulePatch_isOk_iff {runtime : Runtime} {cfg : Dict} {rule : DQRule Uuid} :
    (∃ patch, nodeToRulePatch runtime cfg rule = .ok patch) ↔ Listable (cfg.get "columns") := by
  unfold nodeToRulePatch pullColumns Listable
  cases none : (cfg.get "columns").isNone with
  | true => simp [Except.map]
  | false =>
    cases iterated : (cfg.get "columns").elements with
    | error error => simp [Except.map]
    | ok listed => simp [Except.map]

theorem dictOr_dict (entries : Dict) : dictOr (.dict entries) = .ok entries := by
  cases entries with
  | nil => rfl
  | cons entry rest => rfl

variable [DecidableEq Uuid] {linking : Linking Uuid} {workspaceId ruleId : Uuid}
  {oldNodes : Dict} {rules : List (DQRule Uuid)} {rule : DQRule Uuid}

/-- Reading the node's columns raises no error, or the rule is not looked at. -/
def Pullable (linking : Linking Uuid) (workspaceId : Uuid) (oldNodes : Dict)
    (rules : List (DQRule Uuid)) (entry : String × Value) : Prop :=
  ∀ ruleId, ruleIdOf linking ((dictOf entry.2).get "rule_id") = some ruleId →
    (rules.find? (ofId workspaceId ruleId)).isSome = true →
      (oldNodes.get entry.1).eq entry.2 = false → Listable ((dictOf entry.2).get "columns")

theorem pullNode_changed {state : List (DQRule Uuid) × Nat} {key : String} {cfg : Dict}
    {patch : Patch} (named : ruleIdOf linking (cfg.get "rule_id") = some ruleId)
    (found : state.1.find? (ofId workspaceId ruleId) = some rule)
    (changed : (oldNodes.get key).eq (.dict cfg) = false)
    (made : nodeToRulePatch linking.runtime cfg rule = .ok patch) :
    pullNode linking workspaceId oldNodes state (key, .dict cfg) = .ok (
      if patch.isEmpty then state
      else match mergeCheckConfigIntoMeta rule.metaData cfg with
        | .ok merged => (writeRule workspaceId ruleId
            { applyPatchToRule rule patch with metaData := some merged } state.1, state.2 + 1)
        | .error _ => (writeRule workspaceId ruleId (applyPatchToRule rule patch) state.1,
            state.2)) := by
  have search : (state.1.find? fun rule => rule.id == ruleId && rule.workspaceId == workspaceId) =
      some rule := found
  have metaData : (applyPatchToRule rule patch).metaData = rule.metaData := rfl
  simp only [pullNode, dictOr_dict, named, search, changed, made, metaData, bind, Except.bind,
    pure, Except.pure]
  rw [if_neg Bool.false_ne_true]
  split_ifs with empty
  · rfl
  · cases mergeCheckConfigIntoMeta rule.metaData cfg <;> rfl

theorem ofId_patched (found : rules.find? (ofId workspaceId ruleId) = some rule) (patch : Patch)
    (metaData : Option Dict) :
    ofId workspaceId ruleId { applyPatchToRule rule patch with metaData } = true := by
  obtain ⟨id, workspace⟩ := ofId_iff.mp (List.find?_some found)
  exact ofId_iff.mpr ⟨id, workspace⟩

theorem pullNode_cases {state after : List (DQRule Uuid) × Nat} {key : String} {cfg : Dict}
    (success : pullNode linking workspaceId oldNodes state (key, .dict cfg) = .ok after) :
    after = state ∨ ∃ ruleId rule patch metaData,
      ruleIdOf linking (cfg.get "rule_id") = some ruleId ∧
      state.1.find? (ofId workspaceId ruleId) = some rule ∧
      (oldNodes.get key).eq (.dict cfg) = false ∧
      nodeToRulePatch linking.runtime cfg rule = .ok patch ∧
      after.1 =
        writeRule workspaceId ruleId { applyPatchToRule rule patch with metaData } state.1 ∧
      state.2 ≤ after.2 := by
  have original := success
  simp only [pullNode, dictOr_dict, bind, Except.bind, pure, Except.pure] at success
  split at success
  · cases success
    exact .inl rfl
  · next ruleId named =>
    split at success
    · cases success
      exact .inl rfl
    · next rule found =>
      split at success
      · cases success
        exact .inl rfl
      · next changed =>
        split at success
        · cases success
        · next patch made =>
          have differs : (oldNodes.get key).eq (.dict cfg) = false := by simpa using changed
          rw [pullNode_changed named found differs made] at original
          cases original
          split_ifs with empty
          · exact .inl rfl
          · refine .inr ⟨ruleId, rule, patch, ?_⟩
            cases mergeCheckConfigIntoMeta rule.metaData cfg with
            | ok merged => exact ⟨some merged, named, found, differs, made, rfl, Nat.le_succ _⟩
            | error error => exact ⟨rule.metaData, named, found, differs, made, rfl, le_rfl⟩

theorem pullNode_isOk_iff {state : List (DQRule Uuid) × Nat} {key : String} {cfg : Dict} :
    (∃ after, pullNode linking workspaceId oldNodes state (key, .dict cfg) = .ok after) ↔
      Pullable linking workspaceId oldNodes state.1 (key, .dict cfg) := by
  unfold Pullable
  dsimp only [dictOf]
  cases named : ruleIdOf linking (cfg.get "rule_id") with
  | none => simp [pullNode, dictOr_dict, named, bind, Except.bind, pure, Except.pure]
  | some ruleId =>
    cases found : state.1.find? (ofId workspaceId ruleId) with
    | none =>
      have search : (state.1.find? fun rule => rule.id == ruleId && rule.workspaceId == workspaceId) =
          none := found
      have unknown : ∀ row ∈ state.1, ¬ofId workspaceId ruleId row = true := by
        simpa using found
      simpa [pullNode, dictOr_dict, named, search, bind, Except.bind, pure, Except.pure] using
        fun row member matched => absurd matched (unknown row member)
    | some rule =>
      have search : (state.1.find? fun rule => rule.id == ruleId && rule.workspaceId == workspaceId) =
          some rule := found
      cases changed : (oldNodes.get key).eq (.dict cfg) with
      | true =>
        simp [pullNode, dictOr_dict, named, search, changed, bind, Except.bind, pure, Except.pure]
      | false =>
        constructor
        · rintro ⟨after, success⟩ other same - -
          refine (@nodeToRulePatch_isOk_iff _ linking.runtime cfg rule).mp ?_
          simp only [pullNode, dictOr_dict, named, search, changed, bind, Except.bind] at success
          cases made : nodeToRulePatch linking.runtime cfg rule with
          | ok patch => exact ⟨patch, rfl⟩
          | error error => simp [made] at success
        · intro pullable
          obtain ⟨patch, made⟩ := (@nodeToRulePatch_isOk_iff _ linking.runtime cfg rule).mpr
            (pullable ruleId rfl (by rw [found]; rfl) rfl)
          exact ⟨_, pullNode_changed named found changed made⟩

private theorem find_pullNode {state after : List (DQRule Uuid) × Nat} {key : String} {cfg : Dict}
    (success : pullNode linking workspaceId oldNodes state (key, .dict cfg) = .ok after)
    (unnamed : ruleIdOf linking (cfg.get "rule_id") ≠ some ruleId) :
    after.1.find? (ofId workspaceId ruleId) = state.1.find? (ofId workspaceId ruleId) := by
  rcases pullNode_cases success with rfl |
    ⟨other, rule, patch, metaData, named, found, -, -, written, -⟩
  · rfl
  · rw [written]
    refine find_writeRule_of_ne (fun equal => unnamed ?_) (ofId_patched found patch metaData)
    rw [named, equal]

private theorem known_pullNode {state after : List (DQRule Uuid) × Nat} {key : String} {cfg : Dict}
    (success : pullNode linking workspaceId oldNodes state (key, .dict cfg) = .ok after)
    (ruleId : Uuid) :
    (after.1.find? (ofId workspaceId ruleId)).isSome =
      (state.1.find? (ofId workspaceId ruleId)).isSome := by
  rcases pullNode_cases success with rfl |
    ⟨other, rule, patch, metaData, -, found, -, -, written, -⟩
  · rfl
  · rw [written]
    exact known_writeRule ruleId found (ofId_patched found patch metaData)

theorem affected_pullNode {state after : List (DQRule Uuid) × Nat} {key : String} {cfg : Dict}
    (success : pullNode linking workspaceId oldNodes state (key, .dict cfg) = .ok after) :
    state.2 ≤ after.2 := by
  rcases pullNode_cases success with rfl | ⟨_, _, _, _, -, -, -, -, -, counted⟩
  · exact le_rfl
  · exact counted

private theorem pullNode_all {holds : DQRule Uuid → Prop} {state after : List (DQRule Uuid) × Nat}
    {key : String} {cfg : Dict}
    (keeps : ∀ rule ∈ state.1, ∀ patch metaData, holds rule →
      ruleIdOf linking (cfg.get "rule_id") = some rule.id → rule.workspaceId = workspaceId →
        (oldNodes.get key).eq (.dict cfg) = false →
          nodeToRulePatch linking.runtime cfg rule = .ok patch →
            holds { applyPatchToRule rule patch with metaData })
    (success : pullNode linking workspaceId oldNodes state (key, .dict cfg) = .ok after)
    (all : ∀ rule ∈ state.1, holds rule) : ∀ rule ∈ after.1, holds rule := by
  rcases pullNode_cases success with rfl |
    ⟨ruleId, rule, patch, metaData, named, found, differs, made, written, -⟩
  · exact all
  · obtain ⟨id, workspace⟩ := ofId_iff.mp (List.find?_some found)
    have member := List.mem_of_find?_eq_some found
    have patched := keeps rule member patch metaData (all rule member) (by rw [named, id]) workspace
      differs made
    intro current listed
    rw [written] at listed
    obtain ⟨source, inside, rfl⟩ := List.mem_map.mp listed
    split
    · exact patched
    · exact all source inside

end Step

section Run

variable {Uuid : Type} [DecidableEq Uuid] {linking : Linking Uuid} {workspaceId ruleId : Uuid}
  {oldNodes : Dict} {entries : List (String × Value)} {state after : List (DQRule Uuid) × Nat}

/-- Every entry holds the config of a node. -/
def Configs (entries : List (String × Value)) : Prop :=
  ∀ entry ∈ entries, ∃ cfg : Dict, entry.2 = .dict cfg

theorem Configs.tail {entry : String × Value} (configs : Configs (entry :: entries)) :
    Configs entries := fun later member => configs later (List.mem_cons_of_mem _ member)

theorem find_pull (configs : Configs entries)
    (success : entries.foldlM (pullNode linking workspaceId oldNodes) state = .ok after)
    (unnamed : ∀ entry ∈ entries,
      ruleIdOf linking ((dictOf entry.2).get "rule_id") ≠ some ruleId) :
    after.1.find? (ofId workspaceId ruleId) = state.1.find? (ofId workspaceId ruleId) := by
  induction entries generalizing state with
  | nil =>
    cases success
    rfl
  | cons entry rest ih =>
    obtain ⟨key, value⟩ := entry
    obtain ⟨cfg, rfl⟩ : ∃ cfg : Dict, value = .dict cfg := configs _ List.mem_cons_self
    rw [List.foldlM_cons] at success
    obtain ⟨middle, first, success⟩ := bind_eq_ok success
    rw [ih configs.tail success fun later member => unnamed later (List.mem_cons_of_mem _ member)]
    exact find_pullNode first (unnamed (key, .dict cfg) List.mem_cons_self)

private theorem affected_pull (configs : Configs entries)
    (success : entries.foldlM (pullNode linking workspaceId oldNodes) state = .ok after) :
    state.2 ≤ after.2 := by
  induction entries generalizing state with
  | nil =>
    cases success
    exact le_rfl
  | cons entry rest ih =>
    obtain ⟨key, value⟩ := entry
    obtain ⟨cfg, rfl⟩ : ∃ cfg : Dict, value = .dict cfg := configs _ List.mem_cons_self
    rw [List.foldlM_cons] at success
    obtain ⟨middle, first, success⟩ := bind_eq_ok success
    exact (affected_pullNode first).trans (ih configs.tail success)

theorem pull_all {holds : DQRule Uuid → Prop} (configs : Configs entries)
    (keeps : ∀ entry ∈ entries, ∀ rule patch metaData, holds rule →
      ruleIdOf linking ((dictOf entry.2).get "rule_id") = some rule.id →
        rule.workspaceId = workspaceId → (oldNodes.get entry.1).eq entry.2 = false →
          nodeToRulePatch linking.runtime (dictOf entry.2) rule = .ok patch →
            holds { applyPatchToRule rule patch with metaData })
    (success : entries.foldlM (pullNode linking workspaceId oldNodes) state = .ok after)
    (all : ∀ rule ∈ state.1, holds rule) : ∀ rule ∈ after.1, holds rule := by
  induction entries generalizing state with
  | nil =>
    cases success
    exact all
  | cons entry rest ih =>
    obtain ⟨key, value⟩ := entry
    obtain ⟨cfg, rfl⟩ : ∃ cfg : Dict, value = .dict cfg := configs _ List.mem_cons_self
    rw [List.foldlM_cons] at success
    obtain ⟨middle, first, success⟩ := bind_eq_ok success
    refine ih configs.tail (fun later member => keeps later (List.mem_cons_of_mem _ member)) success
      (pullNode_all (fun rule _ => keeps (key, .dict cfg) List.mem_cons_self rule) first all)

private theorem pullable_congr {rules others : List (DQRule Uuid)} {entry : String × Value}
    (known : ∀ ruleId, (rules.find? (ofId workspaceId ruleId)).isSome =
      (others.find? (ofId workspaceId ruleId)).isSome) :
    Pullable linking workspaceId oldNodes rules entry ↔
      Pullable linking workspaceId oldNodes others entry := by
  unfold Pullable
  simp only [known]

/-- A pull raises no error exactly when none of its nodes does, whichever rules the nodes before
have written. -/
theorem pull_isOk_iff (configs : Configs entries) :
    (∃ after, entries.foldlM (pullNode linking workspaceId oldNodes) state = .ok after) ↔
      ∀ entry ∈ entries, Pullable linking workspaceId oldNodes state.1 entry := by
  induction entries generalizing state with
  | nil => simp [pure, Except.pure]
  | cons entry rest ih =>
    obtain ⟨key, value⟩ := entry
    obtain ⟨cfg, rfl⟩ : ∃ cfg : Dict, value = .dict cfg := configs _ List.mem_cons_self
    simp only [List.foldlM_cons, List.forall_mem_cons]
    constructor
    · rintro ⟨after, success⟩
      obtain ⟨middle, first, success⟩ := bind_eq_ok success
      refine ⟨pullNode_isOk_iff.mp ⟨middle, first⟩, fun entry member => ?_⟩
      exact (pullable_congr (known_pullNode first)).mp
        ((ih configs.tail).mp ⟨after, success⟩ entry member)
    · rintro ⟨pullable, others⟩
      obtain ⟨middle, first⟩ := pullNode_isOk_iff.mpr pullable
      obtain ⟨after, success⟩ := (ih configs.tail).mpr fun entry member =>
        (pullable_congr (known_pullNode first)).mpr (others entry member)
      exact ⟨after, by rw [first]; exact success⟩

end Run

section Reflection

/-- The keys of a check node's config that are mirrored. -/
inductive SyncedKey where
  | ruleName
  | description
  | severity
  | subtype
  | columns
  | thresholdPass
  | thresholdWarn
  | nullHandling
  | filterExpression
deriving DecidableEq, Repr

namespace SyncedKey

def text : SyncedKey → String
  | ruleName => "ruleName"
  | description => "description"
  | severity => "severity"
  | subtype => "subtype"
  | columns => "columns"
  | thresholdPass => "threshold_pass"
  | thresholdWarn => "threshold_warn"
  | nullHandling => "null_handling"
  | filterExpression => "filter_expression"

private theorem text_mem (key : SyncedKey) : key.text ∈ mirroredKeys := by
  cases key <;> decide

variable {Uuid : Type}

/-- A column holds the value, or both are empty. -/
def agrees (column value : Value) : Prop :=
  column.eq value = true ∨ column.truthy = false ∧ value.truthy = false

/-- The column of the key, where it has one, shows what the config says. -/
def shown (runtime : Runtime) (cfg : Dict) (rule : DQRule Uuid) : SyncedKey → Prop
  | ruleName => agrees rule.name (cfg.get "ruleName")
  | description => agrees rule.description (cfg.get "description")
  | severity =>
    if (cfg.get "severity").truthy then
      rule.canonicalRule.get "severity" = .str (backendSeverity runtime (cfg.get "severity"))
    else (rule.canonicalRule.get "severity").truthy = false
  | subtype => agrees rule.ruleType (cfg.get "subtype")
  | columns =>
    if (cfg.get "columns").isNone then rule.targetColumns.getD [] = []
    else ∃ listed, (cfg.get "columns").elements = .ok listed ∧
      Value.eqList listed (rule.targetColumns.getD []) = true
  | thresholdPass =>
    ((rule.thresholdConfig.getD []).get "pass_threshold").eq (cfg.get "threshold_pass") = true
  | thresholdWarn =>
    ((rule.thresholdConfig.getD []).get "warning_threshold").eq (cfg.get "threshold_warn") = true
  | nullHandling | filterExpression => True

/-- The config's value is one that a patch takes over. -/
def given (cfg : Dict) : SyncedKey → Prop
  | ruleName => (cfg.get "ruleName").truthy = true
  | description => (cfg.get "description").isNone = false
  | severity => (cfg.get "severity").truthy = true
  | subtype => (cfg.get "subtype").truthy = true
  | columns => (cfg.get "columns").isNone = false
  | thresholdPass => (cfg.get "threshold_pass").isNone = false
  | thresholdWarn => (cfg.get "threshold_warn").isNone = false
  | nullHandling | filterExpression => True

/-- The column is empty before the pull, and the config gives it no other value. -/
def bare (cfg : Dict) (rule : DQRule Uuid) : SyncedKey → Prop
  | ruleName => rule.name.truthy = false ∧ (cfg.get "rule_name").truthy = false
  | description => rule.description.truthy = false
  | severity => (rule.canonicalRule.get "severity").truthy = false
  | subtype => rule.ruleType.truthy = false
  | columns => rule.targetColumns.getD [] = []
  | thresholdPass => ((rule.thresholdConfig.getD []).get "pass_threshold").isNone = true
  | thresholdWarn => ((rule.thresholdConfig.getD []).get "warning_threshold").isNone = true
  | nullHandling | filterExpression => True

/-- The node's config gives the key another value than before. -/
def changed (oldConfig cfg : Dict) (key : SyncedKey) : Prop :=
  (oldConfig.get key.text).eq (cfg.get key.text) = false

instance (oldConfig cfg : Dict) (key : SyncedKey) : Decidable (key.changed oldConfig cfg) :=
  inferInstanceAs (Decidable (_ = _))

/-- The rule's metadata and the column of the key say what the config says. -/
def reflected (runtime : Runtime) (cfg : Dict) (rule : DQRule Uuid) (key : SyncedKey) : Prop :=
  readable (savedConfig rule) ∧
    ((dictOf (savedConfig rule)).get key.text).eq (cfg.get key.text) = true ∧
    key.shown runtime cfg rule

end SyncedKey

theorem eq_isNone {value : Value} (none : value.isNone = true) : value = .none :=
  isNone_iff.mp none

theorem agrees_of_absent {column value : Value} (empty : value.truthy = false) :
    SyncedKey.agrees column value ↔ column.truthy = false := by
  constructor
  · rintro (same | ⟨bare, -⟩)
    · exact (Value.truthy_congr same).trans empty
    · exact bare
  · exact fun bare => .inr ⟨bare, empty⟩

theorem agrees_patched {column value : Value} :
    SyncedKey.agrees ((if value.truthy && !value.eq column then some value else none).getD column)
      value ↔ value.truthy = true ∨ column.truthy = false := by
  cases given : value.truthy with
  | true =>
    simp only [Bool.true_and, true_or, iff_true]
    cases same : value.eq column with
    | true => exact .inl (Value.eq_symm _ same)
    | false => exact .inl (Value.eq_refl _)
  | false => simpa using agrees_of_absent given

variable {Uuid : Type} {runtime : Runtime} {cfg : Dict} {rule : DQRule Uuid} {patch : Patch}

private theorem get_pullThreshold_eq {current thresholds : Dict} {key : String} {value : Value}
    (same : thresholds.get key = current.get key) :
    ((pullThreshold current key value thresholds).get key).eq value = true ↔
      value.isNone = false ∨ (current.get key).isNone = true := by
  by_cases kept : thresholdKept current key value
  · rw [pullThreshold_kept kept, same]
    rcases kept with none | equal
    · rw [eq_isNone none, Value.eq_swap, Value.eq_none, isNone_iff]
      simp [Value.isNone]
    · rw [equal, isNone_congr equal]
      simp
  · rw [get_pullThreshold kept]
    unfold thresholdKept at kept
    push Not at kept
    simp [kept.1]

private theorem get_patchedThresholds {current : Option Dict} (key : String) (value : Value) :
    ((((if Value.eqEntries [] (newThresholds cfg (current.getD [])) (current.getD []) then none
      else some (newThresholds cfg (current.getD []))).or current).getD []).get key).eq value =
      ((newThresholds cfg (current.getD [])).get key).eq value := by
  split
  · next same =>
    rw [Option.none_or, Value.eq_congr_left (get_eq_of_eqEntries same key)]
  · rfl

private theorem agrees_description :
    SyncedKey.agrees ((if !(cfg.get "description").isNone &&
        !(cfg.get "description").eq (rule.description.or (.str "")) then
        some (cfg.get "description") else none).getD rule.description) (cfg.get "description") ↔
      (cfg.get "description").isNone = false ∨ rule.description.truthy = false := by
  generalize cfg.get "description" = value
  cases none : value.isNone with
  | true =>
    rw [eq_isNone none]
    simpa using agrees_of_absent rfl
  | false =>
    simp only [Bool.not_false, Bool.true_and, true_or, iff_true]
    cases same : value.eq (rule.description.or (.str "")) with
    | false => exact .inl (Value.eq_refl _)
    | true =>
      cases described : rule.description.truthy with
      | true =>
        rw [or_of_truthy _ described] at same
        exact .inl (Value.eq_symm _ same)
      | false =>
        rw [or_of_not_truthy _ described] at same
        exact .inr ⟨described, Value.truthy_congr same⟩

private theorem agrees_name {name other column : Value} :
    SyncedKey.agrees ((if (name.or other).truthy && !(name.or other).eq column then
        some (name.or other) else none).getD column) name ↔
      name.truthy = true ∨ column.truthy = false ∧ other.truthy = false := by
  cases given : name.truthy with
  | true =>
    rw [or_of_truthy _ given, agrees_patched, given]
    simp
  | false =>
    rw [or_of_not_truthy _ given, agrees_of_absent given]
    cases renamed : other.truthy with
    | false => simp
    | true =>
      cases same : other.eq column with
      | true => simp [← Value.truthy_congr same, renamed]
      | false => simp [renamed]

theorem shown_applyPatch (made : nodeToRulePatch runtime cfg rule = .ok patch) (key : SyncedKey) :
    key.shown runtime cfg (applyPatchToRule rule patch) ↔ key.given cfg ∨ key.bare cfg rule := by
  obtain ⟨targetColumns, listed, rfl⟩ := map_eq_ok made
  cases key with
  | ruleName => exact agrees_name
  | description => exact agrees_description
  | severity =>
    unfold SyncedKey.shown SyncedKey.given SyncedKey.bare applyPatchToRule patchWith
    dsimp only
    cases given : (cfg.get "severity").truthy with
    | false => simp
    | true =>
      simp only [Bool.true_and, true_or, iff_true, ↓reduceIte]
      split_ifs with differs
      · exact Dict.get_set_self
      · simpa using differs
  | subtype => exact agrees_patched
  | columns =>
    unfold pullColumns at listed
    unfold SyncedKey.shown SyncedKey.given SyncedKey.bare applyPatchToRule patchWith
    dsimp only
    split_ifs at listed ⊢ with none
    · cases listed
      simp [none]
    · obtain ⟨values, iterated, rfl⟩ := map_eq_ok listed
      simp only [Bool.not_eq_true] at none
      simp only [none, true_or, iff_true]
      refine ⟨values, iterated, ?_⟩
      split_ifs with same
      · exact same
      · exact Value.eqList_refl values
  | thresholdPass =>
    refine (iff_of_eq (congrArg (· = true) (get_patchedThresholds _ _))).trans ?_
    unfold newThresholds
    rw [get_pullThreshold_of_ne (by decide)]
    exact get_pullThreshold_eq rfl
  | thresholdWarn =>
    refine (iff_of_eq (congrArg (· = true) (get_patchedThresholds _ _))).trans ?_
    unfold newThresholds
    exact get_pullThreshold_eq (get_pullThreshold_of_ne (by decide))
  | nullHandling => simp [SyncedKey.shown, SyncedKey.given]
  | filterExpression => simp [SyncedKey.shown, SyncedKey.given]

end Reflection

section Merge

variable {Uuid : Type} {cfg : Dict} {metaData : Option Dict}

private theorem get_mirrorKey (keys : List String) (saved : Dict) (key : String) :
    (keys.foldl (mirrorKey cfg) saved).get key =
      if key ∈ keys ∧ cfg.has key = true then cfg.get key else saved.get key := by
  induction keys generalizing saved with
  | nil => simp
  | cons first rest ih =>
    rw [List.foldl_cons, ih]
    unfold mirrorKey
    by_cases same : first = key
    · subst same
      by_cases present : cfg.has first = true
      · simp [present, Dict.get_set_self]
      · simp [present]
    · have other : (if cfg.has first = true then saved.set first (cfg.get first) else saved).get key =
          saved.get key := by
        split
        · exact Dict.get_set_of_ne same
        · rfl
      rw [other]
      simp [Ne.symm same]

private theorem merge_of_readable (legible : readable ((metaData.getD []).get "check_config")) :
    ∃ merged, mergeCheckConfigIntoMeta metaData cfg = .ok merged ∧
      merged.get "check_config" = .dict (mirroredKeys.foldl (mirrorKey cfg)
        (dictOf ((metaData.getD []).get "check_config"))) := by
  have read := dictOr_eq_ok_iff.mpr ⟨legible, rfl⟩
  refine ⟨_, by simp only [mergeCheckConfigIntoMeta, read, bind, Except.bind]; rfl, ?_⟩
  rw [Dict.get_set_of_ne (by decide), Dict.get_set_self]
  rfl

theorem merge_of_not_readable (illegible : ¬readable ((metaData.getD []).get "check_config")) :
    ∃ error, mergeCheckConfigIntoMeta metaData cfg = .error error := by
  cases merge : mergeCheckConfigIntoMeta metaData cfg with
  | error error => exact ⟨error, rfl⟩
  | ok merged =>
    simp only [mergeCheckConfigIntoMeta] at merge
    obtain ⟨saved, read, -⟩ := bind_eq_ok merge
    exact absurd (dictOr_eq_ok_iff.mp read).1 illegible

private theorem saved_of_merged {rule : DQRule Uuid} {merged : Dict} (key : SyncedKey)
    (config : merged.get "check_config" =
      .dict (mirroredKeys.foldl (mirrorKey cfg) (dictOf (savedConfig rule)))) :
    ((dictOf (merged.get "check_config")).get key.text).eq (cfg.get key.text) = true ↔
      cfg.has key.text = true ∨ ((dictOf (savedConfig rule)).get key.text).isNone = true := by
  have read : dictOf (merged.get "check_config") =
      mirroredKeys.foldl (mirrorKey cfg) (dictOf (savedConfig rule)) := by
    rw [config]
    rfl
  rw [read, get_mirrorKey]
  cases present : cfg.has key.text with
  | true =>
    rw [if_pos ⟨key.text_mem, rfl⟩, Value.eq_refl]
    exact iff_of_true rfl (.inl rfl)
  | false =>
    have absent : cfg.get key.text = .none := by
      unfold Dict.has at present
      simp only [Option.isSome_eq_false_iff, Option.isNone_iff_eq_none] at present
      simp [Dict.get, Dict.getD, present]
    rw [absent, if_neg (by simp), Value.eq_swap, Value.eq_none, isNone_iff]
    simp

end Merge

section Extraction

variable {Uuid : Type} {linking : Linking Uuid}

def linkedNodes [DecidableEq Uuid] (linking : Linking Uuid) (definition : Option StoredDefinition) (ruleId : Uuid) :
    List StoredNode :=
  (definition.elim [] (·.nodes)).filter fun node =>
    node.type = .check && (node.config.get "rule_id").truthy &&
      ruleIdOf linking (node.config.get "rule_id") = some ruleId

theorem set_of_has {entries : List (String × Value)} {key : String} {value : Value}
    (present : Dict.has entries key = true) :
    Dict.set entries key value =
      entries.map fun entry => if entry.1 = key then (key, value) else entry := if_pos present

theorem set_of_absent {entries : List (String × Value)} {key : String} {value : Value}
    (absent : ¬Dict.has entries key = true) :
    Dict.set entries key value = entries ++ [(key, value)] := if_neg absent

private theorem mem_set {entries : List (String × Value)} {key : String} {value : Value}
    {entry : String × Value} (member : List.Mem entry (Dict.set entries key value)) :
    entry = (key, value) ∨ entry ∈ entries := by
  by_cases present : Dict.has entries key = true
  · rw [set_of_has present] at member
    obtain ⟨source, listed, same⟩ := List.mem_map.mp member
    split at same
    · exact .inl same.symm
    · exact .inr (same ▸ listed)
  · rw [set_of_absent present] at member
    rcases List.mem_append.mp member with older | added
    · exact .inr older
    · exact .inl (List.mem_singleton.mp added)

private theorem keys_set_nodup {entries : List (String × Value)} {key : String} {value : Value}
    (distinct : (entries.map (·.1)).Nodup) :
    (List.map (·.1) (Dict.set entries key value)).Nodup := by
  by_cases present : Dict.has entries key = true
  · rw [set_of_has present, List.map_map]
    have same : entries.map ((·.1) ∘ fun entry : String × Value =>
        if entry.1 = key then (key, value) else entry) = entries.map (·.1) := by
      refine List.map_congr_left fun entry _ => ?_
      dsimp only [Function.comp]
      split
      · next named => exact named.symm
      · rfl
    rw [same]
    exact distinct
  · have fresh : key ∉ entries.map (·.1) := by
      intro listed
      obtain ⟨entry, member, rfl⟩ := List.mem_map.mp listed
      have found := lookup_of_member distinct member
      exact present (by unfold Dict.has; rw [found]; rfl)
    rw [set_of_absent present, List.map_append, List.nodup_append]
    refine ⟨distinct, List.pairwise_singleton .., fun name listed other single same => fresh ?_⟩
    have named : other = key := List.mem_singleton.mp single
    rw [← named, ← same]
    exact listed

def collectNode (linking : Linking Uuid) (out : List (String × Value)) (node : StoredNode) :
    List (String × Value) :=
  if node.type = .check && (node.config.get "rule_id").truthy then
    Dict.set out (nodeKey linking node) (.dict node.config)
  else out

private theorem keys_collectNode {out : List (String × Value)} (distinct : (out.map (·.1)).Nodup)
    (node : StoredNode) : ((collectNode linking out node).map (·.1)).Nodup := by
  by_cases chosen : (node.type = .check && (node.config.get "rule_id").truthy) = true
  · rw [show collectNode linking out node = _ from if_pos chosen]
    exact keys_set_nodup distinct
  · rw [show collectNode linking out node = _ from if_neg chosen]
    exact distinct

theorem mem_collectNode {out : List (String × Value)} {node : StoredNode} {entry : String × Value}
    (member : entry ∈ collectNode linking out node) :
    entry ∈ out ∨ node.type = .check ∧ (node.config.get "rule_id").truthy = true ∧
      entry = (nodeKey linking node, .dict node.config) := by
  by_cases chosen : (node.type = .check && (node.config.get "rule_id").truthy) = true
  · rw [show collectNode linking out node = _ from if_pos chosen] at member
    simp only [Bool.and_eq_true, decide_eq_true_eq] at chosen
    rcases mem_set member with added | older
    · exact .inr ⟨chosen.1, chosen.2, added⟩
    · exact .inl older
  · rw [show collectNode linking out node = _ from if_neg chosen] at member
    exact .inl member

private theorem keys_collected (nodes : List StoredNode) {out : List (String × Value)}
    (distinct : (out.map (·.1)).Nodup) :
    ((nodes.foldl (collectNode linking) out).map (·.1)).Nodup := by
  induction nodes generalizing out with
  | nil => exact distinct
  | cons node rest ih => exact ih (keys_collectNode distinct node)

private theorem mem_collected {nodes : List StoredNode} {out : List (String × Value)}
    {entry : String × Value} (member : entry ∈ nodes.foldl (collectNode linking) out) :
    entry ∈ out ∨ ∃ node ∈ nodes, node.type = .check ∧
      (node.config.get "rule_id").truthy = true ∧
        entry = (nodeKey linking node, .dict node.config) := by
  induction nodes generalizing out with
  | nil => exact .inl member
  | cons node rest ih =>
    rcases ih member with older | ⟨other, listed, found⟩
    · rcases mem_collectNode older with older | found
      · exact .inl older
      · exact .inr ⟨node, List.mem_cons_self, found⟩
    · exact .inr ⟨other, List.mem_cons_of_mem _ listed, found⟩

private theorem extractCheckNodes_keys (definition : Option StoredDefinition) :
    (List.map (·.1) (extractCheckNodes linking definition)).Nodup := by
  cases definition with
  | none => exact List.nodup_nil
  | some definition => exact keys_collected definition.nodes List.nodup_nil

theorem mem_extractCheckNodes {definition : Option StoredDefinition} {entry : String × Value}
    (member : List.Mem entry (extractCheckNodes linking definition)) :
    ∃ node ∈ definition.elim [] (·.nodes), node.type = .check ∧
      (node.config.get "rule_id").truthy = true ∧
        entry = (nodeKey linking node, .dict node.config) := by
  cases definition with
  | none => cases member
  | some definition =>
    rcases mem_collected member with none | found
    · cases none
    · exact found

theorem configs_extractCheckNodes (definition : Option StoredDefinition) :
    Configs (extractCheckNodes linking definition) := by
  intro entry member
  obtain ⟨node, -, -, -, rfl⟩ := mem_extractCheckNodes member
  exact ⟨_, rfl⟩

theorem entry_of_linked [DecidableEq Uuid] {definition : Option StoredDefinition} {ruleId : Uuid}
    {node : StoredNode} (alone : linkedNodes linking definition ruleId = [node])
    {entry : String × Value} (member : List.Mem entry (extractCheckNodes linking definition))
    (named : ruleIdOf linking ((dictOf entry.2).get "rule_id") = some ruleId) :
    entry = (nodeKey linking node, .dict node.config) := by
  obtain ⟨other, listed, check, given, rfl⟩ := mem_extractCheckNodes member
  have linked : other ∈ linkedNodes linking definition ruleId := by
    refine List.mem_filter.mpr ⟨listed, ?_⟩
    rw [check, given, show ruleIdOf linking (other.config.get "rule_id") = _ from named]
    simp
  rw [alone, List.mem_singleton] at linked
  rw [linked]

end Extraction

section Outcome

variable {Uuid : Type} {rule : DQRule Uuid} {key : String} {cfg : Dict}

/-- What a pull leaves of a rule that one entry names. -/
inductive Pulled (runtime : Runtime) (cfg : Dict) (rule current : DQRule Uuid) (affected : Nat) :
    Prop where
  | unchanged (mirrored : Mirrored runtime cfg rule) (same : current = rule)
  | merged (patch : Patch) (saved : Dict) (legible : readable (savedConfig rule)) (different : ¬Mirrored runtime cfg rule)
      (made : nodeToRulePatch runtime cfg rule = .ok patch)
      (config : saved.get "check_config" =
        .dict (mirroredKeys.foldl (mirrorKey cfg) (dictOf (savedConfig rule))))
      (same : current = { applyPatchToRule rule patch with metaData := some saved })
      (counted : 0 < affected)
  | unmerged (patch : Patch) (illegible : ¬readable (savedConfig rule))
      (different : ¬Mirrored runtime cfg rule) (same : current = applyPatchToRule rule patch)

variable {runtime : Runtime}

/-- A merged rule reflects a key exactly when the config has it, or nothing was saved under it, and
a value is given for its column, or the column was empty. -/
theorem reflected_of_merged {patch : Patch} {saved : Dict}
    (made : nodeToRulePatch runtime cfg rule = .ok patch)
    (config : saved.get "check_config" =
      .dict (mirroredKeys.foldl (mirrorKey cfg) (dictOf (savedConfig rule)))) (key : SyncedKey) :
    key.reflected runtime cfg { applyPatchToRule rule patch with metaData := some saved } ↔
      (cfg.has key.text = true ∨ ((dictOf (savedConfig rule)).get key.text).isNone = true) ∧
        (key.given cfg ∨ key.bare cfg rule) := by
  have columns : key.shown runtime cfg { applyPatchToRule rule patch with metaData := some saved } ↔
      key.shown runtime cfg (applyPatchToRule rule patch) := by
    cases key <;> exact Iff.rfl
  have metaData : savedConfig { applyPatchToRule rule patch with metaData := some saved } =
      saved.get "check_config" := rfl
  unfold SyncedKey.reflected
  rw [columns, shown_applyPatch made, metaData, saved_of_merged key config]
  exact and_iff_right fun _ => ⟨_, config⟩

private theorem Pulled.mono {current : DQRule Uuid} {affected more : Nat}
    (pulled : Pulled runtime cfg rule current affected) (counted : affected ≤ more) :
    Pulled runtime cfg rule current more := by
  cases pulled with
  | unchanged mirrored same => exact .unchanged mirrored same
  | merged patch saved legible different made config same positive =>
    exact .merged patch saved legible different made config same (positive.trans_le counted)
  | unmerged patch illegible different same => exact .unmerged patch illegible different same

variable [DecidableEq Uuid] {linking : Linking Uuid} {workspaceId : Uuid} {oldNodes : Dict}
  {entries : List (String × Value)} {state after : List (DQRule Uuid) × Nat}

private theorem pulled_by_node (named : ruleIdOf linking (cfg.get "rule_id") = some rule.id)
    (found : state.1.find? (ofId workspaceId rule.id) = some rule)
    (changed : (oldNodes.get key).eq (.dict cfg) = false)
    (success : pullNode linking workspaceId oldNodes state (key, .dict cfg) = .ok after) :
    ∃ current, after.1.find? (ofId workspaceId rule.id) = some current ∧
      Pulled linking.runtime cfg rule current after.2 := by
  have known : (state.1.find? (ofId workspaceId rule.id)).isSome = true := by
    rw [found]
    rfl
  have listable := pullNode_isOk_iff.mp ⟨after, success⟩ rule.id named known changed
  obtain ⟨patch, made⟩ := (@nodeToRulePatch_isOk_iff _ linking.runtime cfg rule).mpr listable
  have mirrored := nodeToRulePatch_empty_iff linking.runtime cfg rule
  have matched := ofId_iff.mp (List.find?_some found)
  rw [pullNode_changed named found changed made] at success
  cases success
  split_ifs with empty
  · exact ⟨rule, found, .unchanged (mirrored.mp ⟨patch, made, empty⟩) rfl⟩
  · have different : ¬Mirrored linking.runtime cfg rule := by
      intro same
      obtain ⟨other, madeAlso, none⟩ := mirrored.mpr same
      cases made.symm.trans madeAlso
      exact empty none
    by_cases legible : readable (savedConfig rule)
    · obtain ⟨saved, merge, config⟩ := @merge_of_readable cfg rule.metaData legible
      rw [merge]
      exact ⟨_, find_writeRule found (ofId_iff.mpr matched),
        .merged patch saved legible different made config rfl (Nat.succ_pos _)⟩
    · obtain ⟨error, merge⟩ := @merge_of_not_readable cfg rule.metaData legible
      rw [merge]
      exact ⟨_, find_writeRule found (ofId_iff.mpr matched), .unmerged patch legible different rfl⟩

private theorem pulled_by_run (configs : Configs entries)
    (alone : ∀ entry ∈ entries, ruleIdOf linking ((dictOf entry.2).get "rule_id") = some rule.id →
      entry = (key, .dict cfg))
    (distinct : (entries.map (·.1)).Nodup) (member : (key, .dict cfg) ∈ entries)
    (named : ruleIdOf linking (cfg.get "rule_id") = some rule.id)
    (found : state.1.find? (ofId workspaceId rule.id) = some rule)
    (changed : (oldNodes.get key).eq (.dict cfg) = false)
    (success : entries.foldlM (pullNode linking workspaceId oldNodes) state = .ok after) :
    ∃ current, after.1.find? (ofId workspaceId rule.id) = some current ∧
      Pulled linking.runtime cfg rule current after.2 := by
  obtain ⟨before, later, rfl⟩ := List.append_of_mem member
  have apart : key ∉ before.map (·.1) ∧ key ∉ later.map (·.1) := by
    rw [List.map_append, List.map_cons, List.perm_middle.nodup_iff, List.nodup_cons,
      List.mem_append, not_or] at distinct
    exact distinct.1
  rw [List.foldlM_append] at success
  obtain ⟨middle, first, success⟩ := bind_eq_ok success
  rw [List.foldlM_cons] at success
  obtain ⟨next, own, success⟩ := bind_eq_ok success
  have foundBefore : middle.1.find? (ofId workspaceId rule.id) = some rule := by
    rw [find_pull (fun entry listed => configs entry (List.mem_append_left _ listed)) first, found]
    intro entry listed names
    have same := alone entry (List.mem_append_left _ listed) names
    exact apart.1 (List.mem_map.mpr ⟨entry, listed, by rw [same]⟩)
  have laterConfigs : Configs later := fun entry listed =>
    configs entry (List.mem_append_right _ (List.mem_cons_of_mem _ listed))
  obtain ⟨current, written, pulled⟩ := pulled_by_node named foundBefore changed own
  refine ⟨current, ?_, pulled.mono (affected_pull laterConfigs success)⟩
  rw [find_pull laterConfigs success, written]
  intro entry listed names
  have same := alone entry (List.mem_append_right _ (List.mem_cons_of_mem _ listed)) names
  exact apart.2 (List.mem_map.mpr ⟨entry, listed, by rw [same]⟩)

/-- The pull writes and commits the rule: no pull or push is under way, no later check node has
the node's id, and a column differs from what the node's config gives. -/
structure Written (linking : Linking Uuid) (syncing commits : Bool)
    (newDefinition : Option StoredDefinition) (node : StoredNode) (rule : DQRule Uuid) : Prop where
  idle : syncing = false
  committed : commits = true
  extracted : (extractCheckNodes linking newDefinition).get (nodeKey linking node) =
    .dict node.config
  differs : ¬Mirrored linking.runtime node.config rule

theorem propagateFlowToRules_eq_ok {syncing commits : Bool}
    {oldDefinition newDefinition : Option StoredDefinition} {rules changed : List (DQRule Uuid)}
    {affected : Nat} (success : propagateFlowToRules linking syncing commits workspaceId
      oldDefinition newDefinition rules = .ok (changed, affected)) :
    syncing = true ∧ changed = rules ∨
      syncing = false ∧ ∃ after, List.foldlM
          (pullNode linking workspaceId (extractCheckNodes linking oldDefinition)) (rules, 0)
          (extractCheckNodes linking newDefinition) = .ok after ∧
        changed = if 0 < after.2 && commits then after.1 else rules := by
  unfold propagateFlowToRules at success
  cases syncing with
  | true =>
    cases success
    exact .inl ⟨rfl, rfl⟩
  | false =>
    rw [if_neg Bool.false_ne_true] at success
    obtain ⟨after, pulled, success⟩ := bind_eq_ok success
    refine .inr ⟨rfl, after, pulled, ?_⟩
    dsimp only at success
    split_ifs at success ⊢ <;> cases success <;> rfl

/-- The rule after a pull: merged with the node's config where the pull writes it and its metadata
can be read, untouched where the pull does not write it. -/
theorem rule_after_pull {syncing commits : Bool}
    {oldDefinition newDefinition : Option StoredDefinition} {rules changed : List (DQRule Uuid)}
    {affected : Nat} {node : StoredNode}
    (found : rules.find? (ofId workspaceId rule.id) = some rule)
    (alone : linkedNodes linking newDefinition rule.id = [node])
    (edited : ((extractCheckNodes linking oldDefinition).get (nodeKey linking node)).eq
      (.dict node.config) = false)
    (success : propagateFlowToRules linking syncing commits workspaceId oldDefinition
      newDefinition rules = .ok (changed, affected)) :
    ∃ current, changed.find? (ofId workspaceId rule.id) = some current ∧
      (¬Written linking syncing commits newDefinition node rule → current = rule) ∧
      (¬readable (savedConfig rule) → savedConfig current = savedConfig rule) ∧
      (Written linking syncing commits newDefinition node rule → readable (savedConfig rule) →
        ∃ patch saved, nodeToRulePatch linking.runtime node.config rule = .ok patch ∧
          saved.get "check_config" =
            .dict (mirroredKeys.foldl (mirrorKey node.config) (dictOf (savedConfig rule))) ∧
          current = { applyPatchToRule rule patch with metaData := some saved }) := by
  rcases propagateFlowToRules_eq_ok success with ⟨busy, rfl⟩ | ⟨idle, after, pulled, rfl⟩
  · exact ⟨rule, found, fun _ => rfl, fun _ => rfl, fun written => by
      cases busy.symm.trans written.idle⟩
  · have configs := @configs_extractCheckNodes _ linking newDefinition
    have linked : node ∈ linkedNodes linking newDefinition rule.id := by
      rw [alone]
      exact List.mem_singleton.mpr rfl
    have named : ruleIdOf linking (node.config.get "rule_id") = some rule.id := by
      have named := (List.mem_filter.mp linked).2
      simp only [Bool.and_eq_true, decide_eq_true_eq] at named
      exact named.2
    by_cases extracted : (extractCheckNodes linking newDefinition).get (nodeKey linking node) =
        .dict node.config
    · have member : List.Mem (nodeKey linking node, Value.dict node.config)
          (extractCheckNodes linking newDefinition) := by
        refine Value.mem_of_lookup ?_
        unfold Dict.get Dict.getD at extracted
        cases search : List.lookup (nodeKey linking node)
            (extractCheckNodes linking newDefinition) with
        | none => simp [search] at extracted
        | some value => simpa [search] using extracted
      obtain ⟨current, written, outcome⟩ := pulled_by_run configs
        (fun entry listed names => entry_of_linked alone listed names)
        (extractCheckNodes_keys newDefinition) member named found edited pulled
      by_cases kept : (decide (0 < after.2) && commits) = true
      · rw [if_pos kept]
        refine ⟨current, written, ?_⟩
        simp only [Bool.and_eq_true] at kept
        cases outcome with
        | unchanged mirrored same =>
          exact ⟨fun _ => same, fun _ => by rw [same], fun wrote => absurd mirrored wrote.differs⟩
        | merged patch saved legible different made config same counted =>
          exact ⟨fun unwritten => absurd ⟨idle, kept.2, extracted, different⟩ unwritten,
            fun illegible => absurd legible illegible,
            fun _ _ => ⟨patch, saved, made, config, same⟩⟩
        | unmerged patch illegible different same =>
          exact ⟨fun unwritten => absurd ⟨idle, kept.2, extracted, different⟩ unwritten,
            fun _ => by rw [same]; rfl, fun _ legible => absurd legible illegible⟩
      · rw [if_neg kept]
        refine ⟨rule, found, fun _ => rfl, fun _ => rfl, fun wrote legible => ?_⟩
        cases outcome with
        | unchanged mirrored same => exact absurd mirrored wrote.differs
        | merged patch saved legible different made config same counted =>
          exact absurd (by simp [counted, wrote.committed]) kept
        | unmerged patch illegible different same => exact absurd legible illegible
    · have passedOver : after.1.find? (ofId workspaceId rule.id) = some rule := by
        rw [find_pull configs pulled, found]
        intro entry listed names
        have same := entry_of_linked alone listed names
        have search := lookup_of_member (extractCheckNodes_keys newDefinition) listed
        rw [same] at search
        refine extracted ?_
        unfold Dict.get Dict.getD
        rw [search]
        rfl
      refine ⟨rule, ?_, fun _ => rfl, fun _ => rfl, fun wrote => absurd wrote.extracted extracted⟩
      split_ifs
      · exact passedOver
      · exact found

/-- A pull brings every changed key of a rule's one node to the rule exactly when no node's columns
are unreadable, and for every changed key the rule's saved config can be read and either the pull
writes the rule, with a value for the key or nothing held under it before, or the rule said the
same already. -/
theorem pull_reflects_iff (linking : Linking Uuid) (syncing commits : Bool) (workspaceId : Uuid)
    (oldDefinition newDefinition : Option StoredDefinition) (rules : List (DQRule Uuid))
    (rule : DQRule Uuid) (node : StoredNode)
    (stored : rules.find? (ofId workspaceId rule.id) = some rule)
    (alone : linkedNodes linking newDefinition rule.id = [node])
    (edited : ((extractCheckNodes linking oldDefinition).get (nodeKey linking node)).eq
      (.dict node.config) = false) :
    (∃ changed affected current,
      propagateFlowToRules linking syncing commits workspaceId oldDefinition newDefinition rules =
        .ok (changed, affected) ∧
      changed.find? (ofId workspaceId rule.id) = some current ∧
      ∀ key : SyncedKey,
        key.changed (dictOf ((extractCheckNodes linking oldDefinition).get (nodeKey linking node)))
          node.config → key.reflected linking.runtime node.config current) ↔
    (syncing = false → ∀ entry, List.Mem entry (extractCheckNodes linking newDefinition) →
      Pullable linking workspaceId (extractCheckNodes linking oldDefinition) rules entry) ∧
    ∀ key : SyncedKey,
      key.changed (dictOf ((extractCheckNodes linking oldDefinition).get (nodeKey linking node)))
        node.config →
      readable (savedConfig rule) ∧
      (Written linking syncing commits newDefinition node rule →
        (node.config.has key.text = true ∨
          ((dictOf (savedConfig rule)).get key.text).isNone = true) ∧
        (key.given node.config ∨ key.bare node.config rule)) ∧
      (¬Written linking syncing commits newDefinition node rule →
        key.reflected linking.runtime node.config rule) := by
  have configs := @configs_extractCheckNodes _ linking newDefinition
  constructor
  · rintro ⟨changed, affected, current, success, present, reflects⟩
    refine ⟨fun idle => ?_, fun key differs => ?_⟩
    · rcases propagateFlowToRules_eq_ok success with ⟨busy, -⟩ | ⟨-, after, pulled, -⟩
      · cases busy.symm.trans idle
      · exact (pull_isOk_iff configs).mp ⟨after, pulled⟩
    · obtain ⟨rest, same, untouched, illegible, merged⟩ :=
        rule_after_pull stored alone edited success
      cases present.symm.trans same
      have legible : readable (savedConfig rule) := by
        by_contra unread
        exact unread (illegible unread ▸ (reflects key differs).1)
      refine ⟨legible, fun written => ?_, fun unwritten => ?_⟩
      · obtain ⟨patch, saved, made, config, rfl⟩ := merged written legible
        exact (reflected_of_merged made config key).mp (reflects key differs)
      · exact untouched unwritten ▸ reflects key differs
  · rintro ⟨pullable, settled⟩
    obtain ⟨changed, affected, success⟩ : ∃ changed affected, propagateFlowToRules linking syncing
        commits workspaceId oldDefinition newDefinition rules = .ok (changed, affected) := by
      unfold propagateFlowToRules
      cases syncing with
      | true => exact ⟨rules, 0, rfl⟩
      | false =>
        obtain ⟨after, pulled⟩ := (@pull_isOk_iff _ _ linking workspaceId _ _ (rules, 0)
          configs).mpr (pullable rfl)
        rw [if_neg Bool.false_ne_true]
        dsimp only
        rw [show List.foldlM _ _ _ = Except.ok after from pulled]
        dsimp only [bind, Except.bind]
        split_ifs <;> exact ⟨_, _, rfl⟩
    obtain ⟨current, present, untouched, -, merged⟩ := rule_after_pull stored alone edited success
    refine ⟨changed, affected, current, success, present, fun key differs => ?_⟩
    obtain ⟨legible, whenWritten, otherwise⟩ := settled key differs
    by_cases written : Written linking syncing commits newDefinition node rule
    · obtain ⟨patch, saved, made, config, rfl⟩ := merged written legible
      exact (reflected_of_merged made config key).mpr (whenWritten written)
    · exact untouched written ▸ otherwise written

end Outcome

section Runs

/-- A flow with one check node for the rule, which says something under one more key. -/
private def flowWith (key said : String) : StoredDefinition where
  nodes :=
    [{ id := "n1", type := .check, config := [("rule_id", .str "r"), (key, .str said)],
       checkType := none, label := .str "check" }]
  connections := []

private def nodeWith (key said : String) : StoredNode where
  id := "n1"
  type := .check
  config := [("rule_id", .str "r"), (key, .str said)]
  checkType := none
  label := .str "check"

/-- A changed `null_handling` alone is no column's value, so the rule is left as it is. -/
theorem null_handling_not_reflected :
    [retyped "null_check"].find? (ofId () (retyped "null_check").id) = some (retyped "null_check") ∧
    linkedNodes oneRule (some (flowWith "null_handling" "skip")) (retyped "null_check").id =
      [nodeWith "null_handling" "skip"] ∧
    ((extractCheckNodes oneRule (some (flowWith "null_handling" "fail"))).get "n1").eq
      (.dict (nodeWith "null_handling" "skip").config) = false ∧
    ¬∃ changed affected current,
      propagateFlowToRules oneRule false true () (some (flowWith "null_handling" "fail"))
        (some (flowWith "null_handling" "skip")) [retyped "null_check"] = .ok (changed, affected) ∧
      changed.find? (ofId () (retyped "null_check").id) = some current ∧
      ∀ key : SyncedKey,
        key.changed (dictOf ((extractCheckNodes oneRule
          (some (flowWith "null_handling" "fail"))).get "n1"))
          (nodeWith "null_handling" "skip").config →
        key.reflected oneRule.runtime (nodeWith "null_handling" "skip").config current := by
  refine ⟨rfl, rfl, by decide +kernel, ?_⟩
  rintro ⟨changed, affected, current, success, present, reflects⟩
  cases success
  cases present
  have reflected := reflects .nullHandling (by decide +kernel)
  exact absurd reflected.2.1 (by decide +kernel)

theorem description_reflected :
    ∃ changed affected current,
      propagateFlowToRules oneRule false true () (some (flowWith "description" "old"))
        (some (flowWith "description" "new")) [retyped "null_check"] = .ok (changed, affected) ∧
      changed.find? (ofId () (retyped "null_check").id) = some current ∧
      ∀ key : SyncedKey,
        key.changed (dictOf ((extractCheckNodes oneRule
          (some (flowWith "description" "old"))).get "n1"))
          (nodeWith "description" "new").config →
        key.reflected oneRule.runtime (nodeWith "description" "new").config current := by
  refine (pull_reflects_iff oneRule false true () (some (flowWith "description" "old"))
    (some (flowWith "description" "new")) [retyped "null_check"] (retyped "null_check")
    (nodeWith "description" "new") rfl rfl (by decide +kernel)).mpr ⟨?_, ?_⟩
  · intro _ entry member
    cases List.mem_singleton.mp member
    intro ruleId _ _ _ given
    cases given
  · have written : Written oneRule false true (some (flowWith "description" "new"))
        (nodeWith "description" "new") (retyped "null_check") :=
      ⟨rfl, rfl, rfl, fun mirrored => absurd (mirrored.description rfl) (by decide +kernel)⟩
    intro key differs
    refine ⟨fun _ => ⟨_, rfl⟩, fun _ => ?_, fun unwritten => absurd written unwritten⟩
    cases key with
    | description => exact ⟨.inl (by decide +kernel), .inl rfl⟩
    | _ => exact absurd differs (by decide +kernel)

end Runs

end CogniDQ.Sync
