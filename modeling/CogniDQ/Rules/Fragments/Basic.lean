import CogniDQ.Rules.Outcome

/-!
# Vetted fragments

What it means that the user-supplied SQL in a phrase has passed the validator or is an
operator of a fixed list, and how this property goes through the parts a phrase is
put together from.
-/

set_option autoImplicit false

namespace CogniDQ.Rules

open CogniDQ.Python CogniDQ.Sql

def allowedOperators : List String := ["=", "!=", "<", ">", "<=", ">="]

/-- The text passes the validator as a whole, or is an operator of the fixed list. -/
def Vetted (runtime : Runtime) (supplied : String) : Prop :=
  validateFilterExpression runtime.toUnicode supplied.toList = true ∨ supplied ∈ allowedOperators

instance (runtime : Runtime) (supplied : String) : Decidable (Vetted runtime supplied) :=
  inferInstanceAs (Decidable (_ ∨ _))

def Only (property : String → Prop) (phrase : Phrase) : Prop :=
  ∀ supplied ∈ phrase.fragments, property supplied

/-- All user-supplied SQL in the phrases has a property. -/
def Each (property : String → Prop) (parts : List Phrase) : Prop :=
  ∀ part ∈ parts, Only property part

/-- All user-supplied SQL in `compiled_sql` and `violation_sql` is vetted. -/
def AllVetted (runtime : Runtime) (compiled : Compiled) : Prop :=
  ∀ supplied ∈ compiled.fragments, Vetted runtime supplied

section Only

variable {property : String → Prop} {left right phrase : Phrase}

@[simp] theorem only_append : Only property (left ++ right) ↔ Only property left ∧ Only property right := by
  simp [Only, or_imp, forall_and]

@[simp] theorem only_ofText (written : String) : Only property (Phrase.ofText written) := by
  simp [Only]

@[simp] theorem only_name (identifier : String) : Only property (name identifier) := by simp [Only]

@[simp] theorem only_raw (written : String) : Only property (raw written) := by simp [Only]

@[simp] theorem only_literal (value written : String) : Only property (literal value written) := by
  simp [Only]

@[simp] theorem only_quoted (value : String) : Only property (quoted value) := by simp [Only]

@[simp] theorem only_empty : Only property Phrase.empty := by simp [Only]

@[simp] theorem only_fragment (supplied : String) :
    Only property (fragment supplied) ↔ property supplied := by simp [Only]

@[simp] theorem only_trimmed (supplied written : String) :
    Only property ⟨[.fragment supplied written]⟩ ↔ property supplied := by
  simp [Only, Phrase.fragments, Segment.supplied?]

@[simp] theorem only_spliced (runtime : Runtime) (value : Value) :
    Only property (spliced runtime value) ↔ property (runtime.str value) := by simp [Only]

@[simp] theorem only_join {separator : String} {parts : List Phrase} :
    Only property (Phrase.join separator parts) ↔ Each property parts := by
  simp only [Each, Only, Phrase.mem_fragments_join]
  exact ⟨fun held part member supplied inside => held supplied ⟨part, member, inside⟩,
    fun held supplied ⟨part, member, inside⟩ => held part member supplied inside⟩

@[simp] theorem only_whereAll {parts : List Phrase} :
    Only property (whereAll parts) ↔ Each property parts := by
  simp only [Each, Only, mem_fragments_whereAll]
  exact ⟨fun held part member supplied inside => held supplied ⟨part, member, inside⟩,
    fun held supplied ⟨part, member, inside⟩ => held part member supplied inside⟩

@[simp] theorem only_ite {condition : Prop} [Decidable condition] :
    Only property (if condition then left else right) ↔
      (condition → Only property left) ∧ (¬ condition → Only property right) := by
  split <;> simp [*]

@[simp] theorem each_nil : Each property [] := by simp [Each]

@[simp] theorem each_cons {part : Phrase} {parts : List Phrase} :
    Each property (part :: parts) ↔ Only property part ∧ Each property parts := by
  simp [Each]

@[simp] theorem each_append {first second : List Phrase} :
    Each property (first ++ second) ↔ Each property first ∧ Each property second := by
  simp [Each, or_imp, forall_and]

@[simp] theorem each_map {α : Type} {render : α → Phrase} {sources : List α} :
    Each property (sources.map render) ↔ ∀ source ∈ sources, Only property (render source) := by
  simp [Each]

@[simp] theorem each_flatMap {α : Type} {render : α → List Phrase} {sources : List α} :
    Each property (sources.flatMap render) ↔ ∀ source ∈ sources, Each property (render source) := by
  simp only [Each, List.mem_flatMap]
  exact ⟨fun held source member part inside => held part ⟨source, member, inside⟩,
    fun held part ⟨source, member, inside⟩ => held source member part inside⟩

@[simp] theorem each_ite {condition : Prop} [Decidable condition] {first second : List Phrase} :
    Each property (if condition then first else second) ↔
      (condition → Each property first) ∧ (¬ condition → Each property second) := by
  split <;> simp [*]

@[simp] theorem only_nameList (names : List String) : Only property (nameList names) := by
  simp [nameList]

theorem only_stripEnd {test : Char → Bool} (held : Only property phrase) :
    Only property (phrase.stripEnd test) :=
  fun supplied member => held supplied (Phrase.fragments_take member)

theorem only_stripStart {test : Char → Bool} (held : Only property phrase) :
    Only property (phrase.stripStart test) :=
  fun supplied member => held supplied (Phrase.fragments_drop member)

theorem only_take {count : Nat} (held : Only property phrase) : Only property (phrase.take count) :=
  fun supplied member => held supplied (Phrase.fragments_take member)

@[simp] theorem only_caseWhen : Only property (caseWhen phrase) ↔ Only property phrase := by
  simp [caseWhen]

private theorem each_filterPart {runtime : Runtime} {filter : Value} :
    Each property (filterPart runtime filter) ↔
      (filter.truthy = true → property (runtime.str filter)) := by
  simp [filterPart]

theorem only_whereClause {runtime : Runtime} {filter : Value} {existing : Option Phrase}
    (held : filter.truthy = true → property (runtime.str filter))
    (own : ∀ condition ∈ existing, Only property condition) :
    Only property (whereClause runtime filter existing) := by
  simp only [whereClause, only_whereAll, each_append, each_filterPart]
  refine ⟨held, ?_⟩
  cases existing with
  | none => simp
  | some condition => simpa using own condition rfl

theorem only_query {query : Query Phrase} :
    Only property query.phrase ↔ Only property query.opening ∧
      (∀ column ∈ query.columns, Only property column.aggregate.phrase) ∧
        Only property query.closing := by
  simp [Query.phrase, Column.phrase, and_assoc]

end Only

section Validator

variable {runtime : Runtime} {value : Value}

private theorem text_of_validate (accepted : validateFilterValue runtime value = .ok true) :
    ∃ expr, value = .str expr ∧ validateFilterExpression runtime.toUnicode expr.toList = true := by
  unfold validateFilterValue at accepted
  split at accepted
  · cases accepted
  · cases value with
    | str expr => exact ⟨expr, rfl, by simpa using accepted⟩
    | list values => dsimp only at accepted; split at accepted <;> cases accepted
    | dict entries => dsimp only at accepted; split at accepted <;> cases accepted
    | _ => cases accepted

theorem vetted_of_validate (accepted : validateFilterValue runtime value = .ok true) :
    Vetted runtime (runtime.str value) := by
  obtain ⟨expr, rfl, validated⟩ := text_of_validate accepted
  exact .inl validated

theorem vetted_of_guard {accepted : Bool}
    (validated : validateFilterValue runtime value = .ok accepted) (passed : ¬ (!accepted) = true) :
    Vetted runtime (runtime.str value) :=
  vetted_of_validate (by simpa [show accepted = true by simpa using passed] using validated)

private theorem validate_of_not_rejected (passed : rejects runtime value = .ok false)
    (present : value.truthy = true) : validateFilterValue runtime value = .ok true := by
  rw [rejects, if_pos present] at passed
  cases result : validateFilterValue runtime value with
  | error error => simp [result, Except.map] at passed
  | ok accepted => simpa [result, Except.map] using passed

theorem vetted_of_not_rejected (passed : rejects runtime value = .ok false)
    (present : value.truthy = true) : Vetted runtime (runtime.str value) :=
  vetted_of_validate (validate_of_not_rejected passed present)

end Validator

/-- What a helper relies on: the filter has been checked, where there is one. -/
def FilterVetted (runtime : Runtime) (filter : Value) : Prop :=
  filter.truthy = true → Vetted runtime (runtime.str filter)

theorem filterVetted_of_guard {runtime : Runtime} {filter : Value} {rejected : Bool}
    (checked : rejects runtime filter = .ok rejected) (passed : ¬ rejected = true) :
    FilterVetted runtime filter :=
  vetted_of_not_rejected (by simpa [show rejected = false by simpa using passed] using checked)

theorem FilterVetted.each {runtime : Runtime} {filter : Value} (vetted : FilterVetted runtime filter) :
    Each (Vetted runtime) (filterPart runtime filter) :=
  each_filterPart.mpr vetted

theorem allVetted_iff {runtime : Runtime} {compiled : Compiled} :
    AllVetted runtime compiled ↔
      Only (Vetted runtime) compiled.query.phrase ∧ Only (Vetted runtime) compiled.violation := by
  simp [AllVetted, Compiled.fragments, Only, or_imp, forall_and]

end CogniDQ.Rules
