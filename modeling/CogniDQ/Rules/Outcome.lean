import CogniDQ.Python.Dynamic
import CogniDQ.Rules.Filter
import CogniDQ.Sql.Aggregate

/-!
# What compiling a rule yields

The outcome of a dimension's compiler, and the parts all of them share: the check
of a filter expression and the WHERE clause it goes into.
-/

set_option autoImplicit false

namespace CogniDQ.Rules

open CogniDQ.Python CogniDQ.Sql

/-- How a compiler reports an error: empty texts and a flag beside the message, or
the message as a comment in place of each text, the violation query's included or
not. -/
inductive ErrorStyle where
  | flagged
  | commented
  | commentedWithoutViolation
deriving DecidableEq, Repr

/-- A compiled rule. The query is `compiled_sql` and `compiled_postgres`, and where
there is a `compiled_mysql` also `compiled_snowflake`. -/
structure Compiled where
  query : Query Phrase
  mysql : Option String
  violation : Phrase

inductive Outcome (α : Type) where
  | failed (style : ErrorStyle) (message : String)
  | compiled (result : α)

def Outcome.map {α β : Type} (render : α → β) : Outcome α → Outcome β
  | .failed style message => .failed style message
  | .compiled result => .compiled (render result)

theorem Outcome.eq_of_map {α β : Type} {render : α → β} {outcome : Except Exn (Outcome α)} {result : β}
    (success : outcome.map (Outcome.map render) = .ok (.compiled result)) :
    ∃ source, outcome = .ok (.compiled source) ∧ result = render source := by
  rcases outcome with error | outcome
  · cases success
  · cases outcome with
    | failed style message => cases success
    | compiled source =>
        cases success
        exact ⟨source, rfl, rfl⟩

theorem Outcome.eq_of_pure {made compiled : Compiled}
    (success : (pure (.compiled made) : Except Exn (Outcome Compiled)) = .ok (.compiled compiled)) :
    made = compiled :=
  Outcome.compiled.inj (Except.ok.inj success)

/-- The user-supplied SQL in `compiled_sql` and `violation_sql`. -/
def Compiled.fragments (compiled : Compiled) : List String :=
  compiled.query.phrase.fragments ++ compiled.violation.fragments

def Compiled.closed (compiled : Compiled) : Bool :=
  compiled.query.phrase.closed && compiled.violation.closed

/-- What compiles has passed a check that reports an error. -/
theorem check_passed {α : Type} {rejected : Prop} [Decidable rejected] {style : ErrorStyle}
    {message : String} {rest : Except Exn (Outcome α)} {result : α}
    (success : (if rejected then pure (.failed style message) else rest) = .ok (.compiled result)) :
    ¬rejected ∧ rest = .ok (.compiled result) := by
  split at success
  · cases success
  · exact ⟨by assumption, success⟩

/-- `_validate_filter_expression` on a value: `len` and `re.sub` reject what is no
text, unless its length settles the matter before. -/
def validateFilterValue (runtime : Runtime) (value : Value) : Except Exn Bool :=
  if !value.truthy then .ok false
  else
    match value with
    | .str expr => .ok (validateFilterExpression runtime.toUnicode expr.toList)
    | .list values => if values.length > 2000 then .ok false else .error .typeError
    | .dict entries => if entries.length > 2000 then .ok false else .error .typeError
    | _ => .error .typeError

def rejects (runtime : Runtime) (value : Value) : Except Exn Bool :=
  if value.truthy then (validateFilterValue runtime value).map (!·) else .ok false

/-- An expression or operator of the user, spliced in as an f-string does. -/
def spliced (runtime : Runtime) (value : Value) : Phrase := fragment (runtime.str value)

/-- `f"({filter_expression})"`, where there is one. -/
def filterPart (runtime : Runtime) (filter : Value) : List Phrase :=
  if filter.truthy then ["(" ++ spliced runtime filter ++ ")"] else []

def whereAll (parts : List Phrase) : Phrase :=
  if parts.isEmpty then Phrase.empty else "WHERE " ++ Phrase.join " AND " parts

/-- `_build_where_clause` on the phrases its arguments are made of. -/
def whereClause (runtime : Runtime) (filter : Value) (existing : Option Phrase) : Phrase :=
  whereAll (filterPart runtime filter ++
    (existing.map fun condition => ("(" ++ condition ++ ")" : Phrase)).toList)

def quoted (value : String) : Phrase :=
  literal value (String.ofList (doubleQuotes value.toList))

def formatted (runtime : Runtime) (parameters : Dict) (key default : String) : String :=
  if parameters.has key then runtime.str (parameters.get key) else default

def formattedOr (runtime : Runtime) (value : Value) (default : String) : String :=
  if value.isNone then default else runtime.str value

def caseWhen (condition : Phrase) : Phrase := "CASE WHEN " ++ condition ++ " THEN 1 END"

/-- `f'"{column}"'` for each column, separated by commas. -/
def nameList (names : List String) : Phrase := Phrase.join ", " (names.map name)

section Fragments

variable {runtime : Runtime} {supplied : String}

@[simp] theorem fragments_spliced (value : Value) :
    (spliced runtime value).fragments = [runtime.str value] := rfl

@[simp] theorem fragments_quoted (value : String) : (quoted value).fragments = [] := rfl

theorem mem_fragments_whereAll {parts : List Phrase} :
    supplied ∈ (whereAll parts).fragments ↔ ∃ part ∈ parts, supplied ∈ part.fragments := by
  unfold whereAll
  split
  · rename_i none
    simp [List.isEmpty_iff.mp none]
  · simp [Phrase.mem_fragments_join]

@[simp] theorem fragments_nameList (names : List String) : (nameList names).fragments = [] := by
  refine List.eq_nil_iff_forall_not_mem.mpr fun supplied member => ?_
  obtain ⟨part, inside, held⟩ := Phrase.mem_fragments_join.mp member
  obtain ⟨identifier, _, rfl⟩ := List.mem_map.mp inside
  simp at held

end Fragments

end CogniDQ.Rules
