import CogniDQ.Python.Text
import CogniDQ.Sql.Lexer

/-!
# Filter expressions

The validator of user-supplied SQL: literals are blanked, then the rest is
searched for comment markers, its parentheses are counted, and it must cut into
allowed tokens.
-/

set_option autoImplicit false

namespace CogniDQ.Rules

open CogniDQ.Python CogniDQ.Sql

/-- The rest of a match of `(?:[^']|'')*'`: greedy, and giving back a pair of
quotes where the text would otherwise end before a closing quote. -/
def literalRest : List Char → Option (List Char)
  | [] => none
  | c :: rest =>
      if c = '\'' then
        match rest with
        | [] => some rest
        | second :: others =>
            if second = '\'' then
              match literalRest others with
              | some after => some after
              | none => some rest
            else some rest
      else literalRest rest

/-- `re.sub(r"'(?:[^']|'')*'", "''", expr)`, with fuel for each character. -/
def blankLiterals : Nat → List Char → List Char
  | 0, text => text
  | _, [] => []
  | fuel + 1, c :: rest =>
      if c = '\'' then
        match literalRest rest with
        | some after => '\'' :: '\'' :: blankLiterals fuel after
        | none => c :: blankLiterals fuel rest
      else c :: blankLiterals fuel rest

/-- Comment markers, statement separators and escape characters. -/
def rejectedMarks : List (List Char) :=
  ["--".toList, "/*".toList, "*/".toList, ['#'], [';'], ['\\'], ['`']]

def parensBalanced : Int → List Char → Bool
  | depth, [] => depth = 0
  | depth, c :: rest =>
      if c = '(' then parensBalanced (depth + 1) rest
      else if c = ')' then
        if depth - 1 < 0 then false else parensBalanced (depth - 1) rest
      else parensBalanced depth rest

/-- `[A-Za-z_][A-Za-z0-9_ ]*`, the inside of a quoted identifier. -/
def isNameStart (c : Char) : Bool := c.isAlpha || c == '_'

def isNamePart (c : Char) : Bool := c.isAlphanum || c == '_' || c == ' '

def quotedName (close : Char) (rest : List Char) : Option (List Char × List Char) :=
  match rest with
  | [] => none
  | first :: more =>
      if isNameStart first then
        match more.dropWhile isNamePart with
        | c :: after =>
            if c = close then some (first :: more.takeWhile isNamePart, after) else none
        | [] => none
      else none

/-- `\d+(?:\.\d+)?` after its first digit. -/
def numberRest (unicode : Unicode) (digits rest : List Char) : List Char × List Char :=
  match rest with
  | point :: more =>
      if point = '.' ∧ (more.takeWhile unicode.isDigit).isEmpty = false then
        (digits ++ point :: more.takeWhile unicode.isDigit, more.dropWhile unicode.isDigit)
      else (digits, rest)
  | [] => (digits, rest)

/-- The operators and marks of `_FILTER_TOKEN`, in the order of its alternatives. -/
def filterOperators : List (List Char) :=
  ["!~*".toList, "!~".toList, "~*".toList, "~".toList, "||".toList, "::".toList, "<>".toList,
    "!=".toList, "<=".toList, ">=".toList, "=".toList, "<".toList, ">".toList, "(".toList,
    ")".toList, ",".toList, ".".toList, "+".toList, "-".toList, "*".toList, "/".toList,
    "%".toList]

/-- `_FILTER_TOKEN.match`: the first alternative that matches, and what follows it. -/
def filterToken (unicode : Unicode) : List Char → Option (List Char × List Char)
  | [] => none
  | c :: rest =>
      if unicode.isSpace c then
        some (c :: rest.takeWhile unicode.isSpace, rest.dropWhile unicode.isSpace)
      else if c = '\'' then
        match rest with
        | second :: after => if second = '\'' then some ("''".toList, after) else none
        | [] => none
      else if c = '"' then
        (quotedName '"' rest).map fun (name, after) => (c :: name ++ ['"'], after)
      else if c = '[' then
        (quotedName ']' rest).map fun (name, after) => (c :: name ++ [']'], after)
      else if unicode.isDigit c then
        some (numberRest unicode (c :: rest.takeWhile unicode.isDigit)
          (rest.dropWhile unicode.isDigit))
      else if isWordStart c then
        some (c :: rest.takeWhile isWordPart, rest.dropWhile isWordPart)
      else
        (filterOperators.find? fun operator => operator.isPrefixOf (c :: rest)).map
          fun operator => (operator, (c :: rest).drop operator.length)

def filterForbiddenWords : List (List Char) :=
  ["select", "insert", "update", "delete", "drop", "alter", "create", "truncate", "merge",
    "grant", "revoke", "exec", "execute", "call", "copy", "vacuum", "union", "into", "returning",
    "sleep", "pg_sleep", "benchmark", "waitfor", "load_file", "outfile", "dumpfile",
    "information_schema", "pg_catalog", "sysobjects", "xp_cmdshell"].map String.toList

def acceptsTokens (unicode : Unicode) : Nat → List Char → Bool
  | _, [] => true
  | 0, _ => false
  | fuel + 1, text =>
      match filterToken unicode text with
      | none => false
      | some (token, rest) =>
          !filterForbiddenWords.contains (unicode.lower token) && acceptsTokens unicode fuel rest

def validateFilterExpression (unicode : Unicode) (expr : List Char) : Bool :=
  if expr.isEmpty || expr.length > 2000 then false
  else
    let stripped := blankLiterals expr.length expr
    if isIn ['\''] (replace "''".toList [] stripped) then false
    else if rejectedMarks.any fun mark => isIn mark stripped then false
    else parensBalanced 0 stripped && acceptsTokens unicode stripped.length stripped

def buildWhereClause (filterExpression existingWhere : Option String) : String :=
  let clause := fun (text : Option String) =>
    match text with
    | some text => if text = "" then [] else ["(" ++ text ++ ")"]
    | none => []
  let clauses := clause filterExpression ++ clause existingWhere
  if clauses.isEmpty then "" else "WHERE " ++ join " AND " clauses

end CogniDQ.Rules
