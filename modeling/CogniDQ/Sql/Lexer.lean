import Mathlib.Data.List.Infix

/-!
# A lexer for SQL text

Cuts a text into literals, quoted identifiers and the characters outside them,
for the two points on which dialects differ: whether a backslash escapes inside
a literal, and whether brackets quote an identifier. What an attacker would need
outside of the quotes (comment markers, words, closing parentheses) is read off
the tokens.
-/

set_option autoImplicit false

namespace CogniDQ.Sql

structure Dialect where
  backslash : Bool
  brackets : Bool
deriving DecidableEq, Repr

/-- Doubled quotes escape in literals, double quotes quote identifiers. -/
def Dialect.standard : Dialect := { backslash := false, brackets := false }

inductive Token where
  | literal (content : List Char)
  | identifier (name : List Char)
  | bracketed (name : List Char)
  | char (value : Char)
deriving DecidableEq, Repr

/-- Where the lexer stands, with what it has read of an open token. A quote in a
literal closes it unless another quote follows. -/
inductive Mode where
  | plain
  | literal (content : List Char)
  | escaping (content : List Char)
  | closing (content : List Char)
  | identifier (name : List Char)
  | bracketed (name : List Char)
deriving DecidableEq, Repr

def opening (dialect : Dialect) (c : Char) : Mode × List Token :=
  if c = '\'' then (.literal [], [])
  else if c = '"' then (.identifier [], [])
  else if c = '[' ∧ dialect.brackets = true then (.bracketed [], [])
  else (.plain, [.char c])

def next (dialect : Dialect) : Mode → Char → Mode × List Token
  | .plain, c => opening dialect c
  | .literal content, c =>
      if c = '\'' then (.closing content, [])
      else if c = '\\' ∧ dialect.backslash = true then (.escaping content, [])
      else (.literal (content ++ [c]), [])
  | .escaping content, c => (.literal (content ++ [c]), [])
  | .closing content, c =>
      if c = '\'' then (.literal (content ++ ['\'']), [])
      else ((opening dialect c).1, .literal content :: (opening dialect c).2)
  | .identifier name, c =>
      if c = '"' then (.plain, [.identifier name]) else (.identifier (name ++ [c]), [])
  | .bracketed name, c =>
      if c = ']' then (.plain, [.bracketed name]) else (.bracketed (name ++ [c]), [])

def finishMode : Mode → Option (List Token)
  | .plain => some []
  | .closing content => some [.literal content]
  | _ => none

/-- Scan left to right. A text that ends inside a token has no tokens. -/
def lexFrom (dialect : Dialect) : Mode → List Char → Option (List Token)
  | mode, [] => finishMode mode
  | mode, c :: rest =>
      (lexFrom dialect (next dialect mode c).1 rest).map ((next dialect mode c).2 ++ ·)

def lex (dialect : Dialect) (text : List Char) : Option (List Token) :=
  lexFrom dialect .plain text

/-! ## The text outside quotes -/

/-- The characters outside quotes, with a gap for each quoted token. -/
def outside (tokens : List Token) : List (Option Char) :=
  tokens.map fun
    | .char value => some value
    | _ => none

theorem outside_append (left right : List Token) :
    outside (left ++ right) = outside left ++ outside right := by
  simp [outside]

@[simp] theorem outside_chars (text : List Char) : outside (text.map .char) = text.map some := by
  simp [outside, Function.comp_def]

theorem eq_chars_of_outside {tokens : List Token} {text : List Char}
    (same : outside tokens = text.map some) : tokens = text.map .char := by
  induction tokens generalizing text with
  | nil =>
      cases text with
      | nil => rfl
      | cons c text => simp [outside] at same
  | cons token tokens ih =>
      cases text with
      | nil => simp [outside] at same
      | cons c text =>
          simp only [outside, List.map_cons, List.cons.injEq] at same
          rw [ih same.2]
          cases token <;> simp_all

def isWordStart (c : Char) : Bool := c.isAlpha || c == '_'

def isWordPart (c : Char) : Bool := c.isAlphanum || c == '_' || c == '$'

def finishWord (word : List Char) : List (List Char) :=
  if word.isEmpty then [] else [word]

/-- The words of an unquoted text, given the word that is being read. -/
def wordsFrom : List Char → List (Option Char) → List (List Char)
  | word, [] => finishWord word
  | word, none :: rest => finishWord word ++ wordsFrom [] rest
  | word, some c :: rest =>
      if !word.isEmpty && isWordPart c then wordsFrom (word ++ [c]) rest
      else finishWord word ++ wordsFrom (if isWordStart c then [c] else []) rest

def words (tokens : List Token) : List (List Char) := wordsFrom [] (outside tokens)

/-- The nesting depth after a text, or nothing when it closes more than it opened. -/
def closeParens : Nat → List (Option Char) → Option Nat
  | depth, [] => some depth
  | depth, c :: rest =>
      if c = some '(' then closeParens (depth + 1) rest
      else if c = some ')' then
        match depth with
        | 0 => none
        | depth + 1 => closeParens depth rest
      else closeParens depth rest

/-- What follows the parenthesis that closes the innermost open one. -/
def afterClosing : Nat → List Token → Option (List Token)
  | _, [] => none
  | depth, token :: rest =>
      if token = .char '(' then afterClosing (depth + 1) rest
      else if token = .char ')' then
        match depth with
        | 0 => some rest
        | depth + 1 => afterClosing depth rest
      else afterClosing depth rest

/-- A text that stays in its place: it ends outside quotes, holds none of the
marks outside of them, and closes exactly the parentheses it opens. -/
def Contained (dialect : Dialect) (marks : List (List Char)) (text : List Char) : Prop :=
  ∃ tokens, lex dialect text = some tokens ∧
    (∀ mark ∈ marks, ¬ mark.map some <:+: outside tokens) ∧
    closeParens 0 (outside tokens) = some 0

/-- No word outside quotes is in the list, whatever its case. -/
def AvoidsWords (dialect : Dialect) (forbidden : List (List Char)) (text : List Char) : Prop :=
  ∃ tokens, lex dialect text = some tokens ∧
    ∀ word ∈ words tokens, word.map Char.toLower ∉ forbidden

/-! ## Scanning one part after the other -/

section Lex

variable {dialect : Dialect} {tokens : List Token}

theorem opening_char {c : Char} (noQuote : c ≠ '\'') (noDouble : c ≠ '"')
    (noBracket : c = '[' → dialect.brackets = false) :
    opening dialect c = (.plain, [.char c]) := by
  have closed : ¬ (c = '[' ∧ dialect.brackets = true) := by
    rintro ⟨bracket, on⟩
    simp [noBracket bracket] at on
  simp [opening, noQuote, noDouble, closed]

theorem lexFrom_plain_chars {text rest : List Char}
    (plain : ∀ c ∈ text, c ≠ '\'' ∧ c ≠ '"' ∧ (c = '[' → dialect.brackets = false)) :
    lexFrom dialect .plain (text ++ rest) =
      (lexFrom dialect .plain rest).map (text.map .char ++ ·) := by
  induction text with
  | nil => simp
  | cons c text ih =>
      obtain ⟨noQuote, noDouble, noBracket⟩ := plain c List.mem_cons_self
      have tail := ih fun other member => plain other (List.mem_cons_of_mem _ member)
      simp [lexFrom, next, opening_char noQuote noDouble noBracket, tail, Option.map_map,
        Function.comp_def]

theorem lexFrom_identifier {name read rest : List Char} (plain : ∀ c ∈ name, c ≠ '"') :
    lexFrom dialect (.identifier read) (name ++ '"' :: rest) =
      (lexFrom dialect .plain rest).map (.identifier (read ++ name) :: ·) := by
  induction name generalizing read with
  | nil => simp [lexFrom, next]
  | cons c name ih =>
      have noDouble := plain c List.mem_cons_self
      have tail := @ih (read ++ [c]) fun other member =>
        plain other (List.mem_cons_of_mem _ member)
      simpa [lexFrom, next, noDouble] using tail

theorem lexFrom_bracketed {name read rest : List Char} (plain : ∀ c ∈ name, c ≠ ']') :
    lexFrom dialect (.bracketed read) (name ++ ']' :: rest) =
      (lexFrom dialect .plain rest).map (.bracketed (read ++ name) :: ·) := by
  induction name generalizing read with
  | nil => simp [lexFrom, next]
  | cons c name ih =>
      have noBracket := plain c List.mem_cons_self
      have tail := @ih (read ++ [c]) fun other member =>
        plain other (List.mem_cons_of_mem _ member)
      simpa [lexFrom, next, noBracket] using tail

theorem lexFrom_literal_quote {content rest : List Char} :
    lexFrom dialect (.literal content) ('\'' :: rest) =
      lexFrom dialect (.closing content) rest := by
  simp [lexFrom, next]

theorem lexFrom_closing {content rest : List Char} (noQuote : rest.head? ≠ some '\'') :
    lexFrom dialect (.closing content) rest =
      (lexFrom dialect .plain rest).map (.literal content :: ·) := by
  cases rest with
  | nil => simp [lexFrom, finishMode]
  | cons c rest =>
      have different : c ≠ '\'' := by simpa using noQuote
      simp [lexFrom, next, different, Option.map_map, Function.comp_def]

/-- A text that ends outside quotes lexes by itself in front of anything that
does not begin with a quote. -/
theorem lexFrom_append {mode : Mode} {text rest : List Char}
    (lexed : lexFrom dialect mode text = some tokens) (noQuote : rest.head? ≠ some '\'') :
    lexFrom dialect mode (text ++ rest) =
      (lexFrom dialect .plain rest).map (tokens ++ ·) := by
  induction text generalizing mode tokens with
  | nil =>
      cases mode with
      | plain =>
          obtain rfl : [] = tokens := by simpa [lexFrom, finishMode] using lexed
          simp
      | closing content =>
          obtain rfl : [Token.literal content] = tokens := by
            simpa [lexFrom, finishMode] using lexed
          simpa using lexFrom_closing noQuote
      | _ => simp [lexFrom, finishMode] at lexed
  | cons c text ih =>
      obtain ⟨tail, lexedTail, rfl⟩ := Option.map_eq_some_iff.mp lexed
      simp [lexFrom, ih lexedTail, Option.map_map, Function.comp_def]

/-- In a contained text every parenthesis is closed, so the next closing one
closes the parenthesis that was open before it. -/
theorem afterClosing_of_closeParens {depth : Nat} {rest : List Token}
    (balanced : closeParens depth (outside tokens) = some 0) :
    afterClosing depth (tokens ++ .char ')' :: rest) = some rest := by
  induction tokens generalizing depth with
  | nil =>
      obtain rfl : depth = 0 := by simpa [outside, closeParens] using balanced
      simp [afterClosing]
  | cons token tokens ih =>
      cases token with
      | char c =>
          simp only [outside, List.map_cons, closeParens, Option.some.injEq] at balanced
          by_cases opens : c = '('
          · subst opens
            simpa [afterClosing] using ih balanced
          by_cases closes : c = ')'
          · subst closes
            cases depth with
            | zero => simp at balanced
            | succ depth => simpa [afterClosing] using ih balanced
          · simp only [opens, closes, if_false] at balanced
            simpa [afterClosing, opens, closes] using ih balanced
      | literal content => simpa [afterClosing] using ih (by simpa [outside, closeParens] using balanced)
      | identifier name => simpa [afterClosing] using ih (by simpa [outside, closeParens] using balanced)
      | bracketed name => simpa [afterClosing] using ih (by simpa [outside, closeParens] using balanced)

/-- The parenthesis opened before a contained text is closed exactly by the one
written after it. -/
theorem Contained.afterClosing {marks : List (List Char)} {text : List Char}
    (contained : Contained dialect marks text) (rest : List Char) :
    (lex dialect (text ++ ')' :: rest)).bind (Sql.afterClosing 0) = lex dialect rest := by
  obtain ⟨tokens, lexed, _, balanced⟩ := contained
  have tail : lexFrom dialect .plain (')' :: rest) =
      (lexFrom dialect .plain rest).map (.char ')' :: ·) := by
    simp [lexFrom, next, opening]
  rw [lex, lexFrom_append lexed (by simp), tail, lex]
  cases lexFrom dialect .plain rest with
  | none => rfl
  | some after => simp [afterClosing_of_closeParens balanced]

end Lex

/-! ## Words -/

theorem wordsFrom_some_start {c : Char} {rest : List (Option Char)} (start : isWordStart c) :
    wordsFrom [] (some c :: rest) = wordsFrom [c] rest := by
  simp [wordsFrom, finishWord, start]

theorem wordsFrom_parts {word part : List Char} {rest : List (Option Char)} (begun : word ≠ [])
    (parts : ∀ c ∈ part, isWordPart c = true) :
    wordsFrom word (part.map some ++ rest) = wordsFrom (word ++ part) rest := by
  induction part generalizing word with
  | nil => simp
  | cons c part ih =>
      have here := parts c List.mem_cons_self
      have begins : (!word.isEmpty) = true := by simpa using begun
      simp only [List.map_cons, List.cons_append, wordsFrom, here, begins, Bool.and_true, if_true]
      rw [ih (by simp) fun other member => parts other (List.mem_cons_of_mem _ member)]
      simp

theorem wordsFrom_end {word : List Char} {rest : List (Option Char)} (begun : word ≠ [])
    (stops : ∀ c, rest.head? = some (some c) → isWordPart c = false) :
    wordsFrom word rest = word :: wordsFrom [] rest := by
  cases rest with
  | nil => simp [wordsFrom, finishWord, begun]
  | cons c rest =>
      cases c with
      | none => simp [wordsFrom, finishWord, begun]
      | some c => simp [wordsFrom, finishWord, begun, stops c rfl]

theorem wordsFrom_skip {skipped : List Char} {rest : List (Option Char)}
    (symbols : ∀ c ∈ skipped, isWordStart c = false) :
    wordsFrom [] (skipped.map some ++ rest) = wordsFrom [] rest := by
  induction skipped with
  | nil => rfl
  | cons c skipped ih =>
      have here := symbols c List.mem_cons_self
      simp only [List.map_cons, List.cons_append, wordsFrom, List.isEmpty_nil, Bool.not_true,
        Bool.false_and, Bool.false_eq_true, if_false, here, finishWord, if_true, List.nil_append]
      exact ih fun other member => symbols other (List.mem_cons_of_mem _ member)

end CogniDQ.Sql
