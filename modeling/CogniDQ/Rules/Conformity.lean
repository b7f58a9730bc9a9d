import CogniDQ.Rules.Outcome

/-!
# Conformity rules

Every conformity type tests the column by one expression and its negation; NULLs are
left out of the rows, fail the test or pass it.
-/

set_option autoImplicit false

namespace CogniDQ.Rules

open CogniDQ.Python CogniDQ.Sql

def conformityStandards : List (String × String) :=
  [("credit_card", "^\\d\x7b13,19\x7d$"),
    ("date_iso", "^\\d\x7b4\x7d-\\d\x7b2\x7d-\\d\x7b2\x7d(T\\d\x7b2\x7d:\\d\x7b2\x7d(:\\d\x7b2\x7d)?(\\.\\d+)?(Z|[+-]\\d\x7b2\x7d:\\d\x7b2\x7d)?)?$"),
    ("e164", "^\\+[1-9]\\d\x7b1,14\x7d$"),
    ("email", "^[a-zA-Z0-9._%+-]+@[a-zA-Z0-9.-]+\\.[a-zA-Z]\x7b2,\x7d$"),
    ("email_rfc5322", "^[a-zA-Z0-9._%+-]+@[a-zA-Z0-9.-]+\\.[a-zA-Z]\x7b2,\x7d$"),
    ("iban", "^[A-Z]\x7b2\x7d\\d\x7b2\x7d[A-Z0-9]\x7b4,30\x7d$"),
    ("ip_address", "^((25[0-5]|2[0-4]\\d|[01]?\\d\\d?)\\.)\x7b3\x7d(25[0-5]|2[0-4]\\d|[01]?\\d\\d?)$"),
    ("iso_3166", "^[A-Z]\x7b2\x7d$"), ("iso_4217", "^[A-Z]\x7b3\x7d$"),
    ("iso_8601", "^\\d\x7b4\x7d-\\d\x7b2\x7d-\\d\x7b2\x7d(T\\d\x7b2\x7d:\\d\x7b2\x7d(:\\d\x7b2\x7d)?(\\.\\d+)?(Z|[+-]\\d\x7b2\x7d:\\d\x7b2\x7d)?)?$"),
    ("phone", "^\\+?[\\d\\s\\-\\.\\(\\)]\x7b7,\x7d$"),
    ("postal_code", "^[A-Z0-9]\x7b3,10\x7d(-[A-Z0-9]\x7b3,10\x7d)?$"),
    ("ssn", "^\\d\x7b3\x7d-\\d\x7b2\x7d-\\d\x7b4\x7d$"),
    ("url", "^https?://[^\\s/$.?#].[^\\s]*$"),
    ("uuid", "^[0-9a-fA-F]\x7b8\x7d-[0-9a-fA-F]\x7b4\x7d-[1-5][0-9a-fA-F]\x7b3\x7d-[89abAB][0-9a-fA-F]\x7b3\x7d-[0-9a-fA-F]\x7b12\x7d$")]

def validConformityTypes : List String :=
  ["case", "charset", "length", "regex", "standard", "structural"]

def inferConformityType (parameters : Dict) : String :=
  if (parameters.get "regex_pattern").truthy then "regex"
  else if (parameters.get "standard_name").truthy then "standard"
  else if !(parameters.get "min_length").isNone || !(parameters.get "max_length").isNone then "length"
  else if (parameters.get "allowed_characters").truthy then "charset"
  else if (parameters.get "case_rule").truthy then "case"
  else if (parameters.get "structural_format").truthy then "structural"
  else "regex"

def conformityErrorResult {α : Type} (message : String) : Outcome α :=
  .failed .commentedWithoutViolation message

section Helpers

variable (runtime : Runtime) (table : Phrase) (column : Value) (parameters : Dict)

def conformityNullHandling : Value := parameters.getD "null_handling" (.str "skip")

def columnRef : Phrase := name (runtime.str column)

/-- `col_expr`: the column, trimmed unless that is switched off. -/
def columnExpr : Phrase :=
  if (parameters.getD "trim_whitespace" (.bool true)).truthy then
    "TRIM(" ++ columnRef runtime column ++ ")"
  else columnRef runtime column

def conformityWhere : Phrase :=
  let nulls : List Phrase :=
    if (conformityNullHandling parameters).is "fail" || (conformityNullHandling parameters).is "pass"
    then []
    else [columnRef runtime column ++ " IS NOT NULL"]
  whereAll (nulls ++ filterPart runtime (parameters.get "filter_expression"))

/-- What every helper returns once it knows the condition of conforming rows, that of
the others, and the condition of the violation query. -/
def conformityCompiled (conforming nonConforming violating : Phrase) : Outcome Compiled :=
  let wherePhrase := conformityWhere runtime column parameters
  .compiled {
    query := {
      opening := "\n            SELECT\n                "
      columns :=
        [.named " as " "total_rows" (.tally (.count "*")),
          .named " as " "conforming_rows" (.tally (.count (caseWhen conforming))),
          .named " as " "non_conforming_rows" (.tally (.count (caseWhen nonConforming)))]
      separator := ",\n                "
      closing := "\n            FROM " ++ table ++ "\n            " ++ wherePhrase ++ "\n        " }
    mysql := none
    violation := "\n            SELECT *\n            FROM " ++ table ++ "\n            " ++ wherePhrase ++
      (if wherePhrase = Phrase.empty then " WHERE " else " AND " : String) ++ violating ++ "\n        " }

def conformityTest (holds fails : Phrase) : Outcome Compiled :=
  if (conformityNullHandling parameters).is "pass" then
    conformityCompiled runtime table column parameters
      (columnRef runtime column ++ " IS NULL OR " ++ holds)
      (columnRef runtime column ++ " IS NOT NULL AND " ++ fails) fails
  else conformityCompiled runtime table column parameters holds fails fails

def conformityPattern (pattern : String) : Outcome Compiled :=
  let subject := columnExpr runtime column parameters
  conformityTest runtime table column parameters (subject ++ " ~ " ++ literal pattern pattern)
    (subject ++ " !~ " ++ literal pattern pattern)

def conformityRegex : Except Exn (Outcome Compiled) :=
  let pattern := (parameters.get "regex_pattern").or (parameters.getD "pattern" (.str ""))
  if !pattern.truthy then
    .ok (conformityErrorResult "regex conformity_type requires regex_pattern parameter")
  else .ok (conformityPattern runtime table column parameters (runtime.str pattern))

def conformityStandard : Except Exn (Outcome Compiled) := do
  let standardName := parameters.getD "standard_name" (.str "")
  if !standardName.truthy then
    pure (conformityErrorResult "standard conformity_type requires standard_name parameter")
  else
    match ← standardName.lookupIn conformityStandards with
    | none =>
        pure (conformityErrorResult ("Unknown standard_name: " ++ runtime.str standardName ++
          ". Allowed: " ++ join ", " (conformityStandards.map Prod.fst)))
    | some pattern =>
        conformityRegex runtime table column (parameters.set "regex_pattern" (.str pattern))

def conformityLength : Except Exn (Outcome Compiled) := do
  let minLength := parameters.get "min_length"
  let maxLength := parameters.get "max_length"
  if minLength.isNone && maxLength.isNone then
    pure (conformityErrorResult "length conformity_type requires min_length and/or max_length")
  else
    let measured : Phrase := "CHAR_LENGTH(" ++ columnExpr runtime column parameters ++ ")"
    let bound (mark : String) (value : Value) : Except Exn (List Phrase) :=
      if value.isNone then .ok []
      else (value.toInt runtime).map fun number => [measured ++ mark ++ Phrase.ofText (toString number)]
    let lower ← bound " >= " minLength
    let upper ← bound " <= " maxLength
    let cond := Phrase.join " AND " (lower ++ upper)
    let passNulls := (conformityNullHandling parameters).is "pass"
    pure (conformityTest runtime table column parameters
      (if passNulls then "(" ++ cond ++ ")" else cond) ("NOT (" ++ cond ++ ")"))

def conformityCharset : Except Exn (Outcome Compiled) :=
  let allowedCharacters := parameters.getD "allowed_characters" (.str "")
  if !allowedCharacters.truthy then
    .ok (conformityErrorResult "charset conformity_type requires allowed_characters parameter")
  else
    .ok (conformityPattern runtime table column parameters
      ("^[" ++ runtime.str allowedCharacters ++ "]*$"))

def caseFunctions : List (String × String) :=
  [("upper", "UPPER"), ("lower", "LOWER"), ("title", "INITCAP")]

def conformityCase : Except Exn (Outcome Compiled) := do
  let caseRule := parameters.getD "case_rule" (.str "")
  if !caseRule.truthy then
    pure (conformityErrorResult "case conformity_type requires case_rule parameter")
  else
    match ← caseRule.lookupIn caseFunctions with
    | none =>
        pure (conformityErrorResult ("Unknown case_rule: " ++ runtime.str caseRule ++
          ". Allowed: upper, lower, title"))
    | some sqlFunc =>
        let subject := columnExpr runtime column parameters
        let converted : Phrase := Phrase.ofText sqlFunc ++ "(" ++ subject ++ ")"
        pure (conformityTest runtime table column parameters (subject ++ " = " ++ converted)
          (subject ++ " != " ++ converted))

/-- The text of a case expression without its keywords, which are taken out wherever
they stand, also in the name of the column. -/
def withoutCaseWords (text : String) : String :=
  replaceStr " THEN 1 END" "" (replaceStr "CASE WHEN " "" text)

def structuralParse (format : Value) (operand : Phrase) : Option Phrase :=
  if format.is "json" then some (operand ++ "::json")
  else if format.is "xml" then some ("XMLPARSE(DOCUMENT " ++ operand ++ ")")
  else none

def conformityStructural : Except Exn (Outcome Compiled) :=
  let format := parameters.getD "structural_format" (.str "")
  let operand := columnRef runtime column
  if !format.truthy then
    .ok (conformityErrorResult "structural conformity_type requires structural_format parameter")
  else if format.is "json" && !column.isText then
    -- The Spark code for JSON concatenates the column with text.
    .error .typeError
  else
    match structuralParse format operand, structuralParse format (name (withoutCaseWords (runtime.str column))) with
    | some parsed, some bare =>
        let bareOperand := name (withoutCaseWords (runtime.str column))
        if (conformityNullHandling parameters).is "pass" then
          let holds : Phrase :=
            if format.is "json" then
              "(" ++ operand ++ " IS NOT NULL AND " ++ parsed ++ " IS NOT NULL)"
            else parsed ++ " IS NOT NULL"
          .ok (conformityCompiled runtime table column parameters
            (operand ++ " IS NULL OR " ++ holds) (operand ++ " IS NOT NULL AND " ++ parsed ++ " IS NULL")
            (bareOperand ++ " IS NOT NULL AND " ++ bare ++ " IS NULL"))
        else
          .ok (conformityCompiled runtime table column parameters (parsed ++ " IS NOT NULL")
            (parsed ++ " IS NULL") (bare ++ " IS NULL"))
    | _, _ =>
        .ok (conformityErrorResult ("Unknown structural_format: " ++ runtime.str format ++
          ". Allowed: json, xml"))

end Helpers

/-- The first of the columns, or the column where there are none. -/
def conformityColumn (column : String) (parameters : Dict) : Except Exn Value :=
  let columns := parameters.getD "columns" (.list (if column = "" then [] else [.str column]))
  if columns.truthy then columns.first else .ok (.str column)

def compileConformityRule (runtime : Runtime) (table : Phrase) (column : String) (parameters : Dict) :
    Except Exn (Outcome Compiled) := do
  let conformityType :=
    (parameters.get "conformity_type").or (.str (inferConformityType parameters))
  if !(← conformityType.memberOf validConformityTypes) then
    pure (conformityErrorResult ("Unknown conformity_type: " ++ runtime.str conformityType ++
      ". Allowed: " ++ join ", " validConformityTypes))
  else if ← rejects runtime (parameters.get "filter_expression") then
    pure (conformityErrorResult "Invalid filter_expression — possible SQL injection")
  else
    let chosen ← conformityColumn column parameters
    if conformityType.is "regex" then conformityRegex runtime table chosen parameters
    else if conformityType.is "standard" then conformityStandard runtime table chosen parameters
    else if conformityType.is "length" then conformityLength runtime table chosen parameters
    else if conformityType.is "charset" then conformityCharset runtime table chosen parameters
    else if conformityType.is "case" then conformityCase runtime table chosen parameters
    else conformityStructural runtime table chosen parameters

end CogniDQ.Rules
