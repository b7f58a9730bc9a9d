import CogniDQ.Rules.FilterProperties

/-!
# What acceptance of a filter expression guarantees

For the standard lexer an accepted expression stays in its place in the SQL. For
a lexer with backslash escapes it does so exactly when it escapes no quote.
-/

set_option autoImplicit false

namespace CogniDQ.Rules

open CogniDQ.Python CogniDQ.Sql

variable {unicode : Unicode} {expr : List Char}

def breakoutMarks : List (List Char) :=
  ["--".toList, "/*".toList, "*/".toList, ['#'], [';']]

def bracketDialect : Dialect := { backslash := false, brackets := true }

/-- What the validator has checked of an accepted expression. -/
structure Accepted (unicode : Unicode) (expr blanked : List Char) : Prop where
  nonempty : expr ≠ []
  blanked_eq : blanked = blankLiterals expr.length expr
  paired : '\'' ∉ replace ['\'', '\''] [] blanked
  unmarked : ∀ mark ∈ rejectedMarks, ¬ mark <:+: blanked
  balanced : parensBalanced 0 blanked = true
  tokens : acceptsTokens unicode blanked.length blanked = true

theorem accepted_of_validate (accepted : validateFilterExpression unicode expr = true) :
    Accepted unicode expr (blankLiterals expr.length expr) := by
  unfold validateFilterExpression at accepted
  dsimp only at accepted
  split at accepted
  · cases accepted
  · rename_i size
    simp only [Bool.or_eq_true, List.isEmpty_iff, decide_eq_true_eq, not_or] at size
    split at accepted
    · cases accepted
    · rename_i paired
      split at accepted
      · cases accepted
      · rename_i unmarked
        simp only [Bool.and_eq_true] at accepted
        refine ⟨size.1, rfl, ?_, ?_, accepted.1, accepted.2⟩
        · intro member
          refine paired (decide_eq_true ?_)
          exact (List.singleton_infix_iff _ _).mpr member
        · intro mark member inside
          exact unmarked (List.any_eq_true.mpr ⟨mark, member, decide_eq_true inside⟩)

namespace Accepted

variable {blanked : List Char}

private theorem even (accepted : Accepted unicode expr blanked) : expr.count '\'' % 2 = 0 := by
  have none := List.count_eq_zero.mpr accepted.paired
  have pairs := replace_pairs_count blanked
  have blanks := blankLiterals_count expr.length expr
  rw [← accepted.blanked_eq] at blanks
  omega

theorem read (accepted : Accepted unicode expr blanked) (dialect : Dialect)
    (plain : dialect.backslash = false) :
    ∃ tokens, lex dialect expr = some tokens ∧ Read dialect tokens blanked := by
  refine read_of_acceptsTokens ?_ accepted.tokens
  rw [accepted.blanked_eq]
  exact stripped_blankLiterals plain (Nat.le_refl _) accepted.even

end Accepted

section Read

variable {dialect : Dialect} {tokens : List Token} {blanked : List Char}

theorem Read.infix_of_outside (read : Read dialect tokens blanked) {mark : List Char}
    (marked : mark.map some <:+: outside tokens) : mark <:+: blanked := by
  obtain ⟨before, after, whole⟩ := marked
  obtain ⟨first, right, rfl, firstEq, _⟩ := List.map_eq_append_iff.mp whole.symm
  obtain ⟨left, middle, rfl, _, middleEq⟩ := List.map_eq_append_iff.mp firstEq
  obtain rfl := eq_chars_of_outside middleEq
  refine ⟨left.flatMap blankToken, right.flatMap blankToken, ?_⟩
  rw [← read.text, List.flatMap_append, List.flatMap_append, List.flatMap_map]
  simp [blankToken]

private theorem parensBalanced_append_plain {depth : Int} {text rest : List Char}
    (plain : ∀ c ∈ text, c ≠ '(' ∧ c ≠ ')') :
    parensBalanced depth (text ++ rest) = parensBalanced depth rest := by
  induction text with
  | nil => rfl
  | cons c text ih =>
      obtain ⟨noOpen, noClose⟩ := plain c List.mem_cons_self
      rw [List.cons_append, parensBalanced, if_neg noOpen, if_neg noClose]
      exact ih fun other member => plain other (List.mem_cons_of_mem _ member)

private theorem closeParens_of_balanced {depth : Nat}
    (names : ∀ name, .identifier name ∈ tokens ∨ .bracketed name ∈ tokens →
      ∀ c ∈ name, isNamePart c = true)
    (balanced : parensBalanced depth (tokens.flatMap blankToken) = true) :
    closeParens depth (outside tokens) = some 0 := by
  induction tokens generalizing depth with
  | nil =>
      have zero : depth = 0 := by simpa [parensBalanced] using balanced
      simp [outside, closeParens, zero]
  | cons token tokens ih =>
      have namesRest : ∀ name, .identifier name ∈ tokens ∨ .bracketed name ∈ tokens →
          ∀ c ∈ name, isNamePart c = true :=
        fun name member =>
          names name (member.imp (List.mem_cons_of_mem _) (List.mem_cons_of_mem _))
      rw [List.flatMap_cons] at balanced
      cases token with
      | char c =>
          simp only [blankToken, List.singleton_append, parensBalanced] at balanced
          simp only [outside, List.map_cons, closeParens, Option.some.injEq]
          by_cases opens : c = '('
          · simp only [opens, if_true] at balanced ⊢
            exact ih namesRest (by exact_mod_cast balanced)
          by_cases closes : c = ')'
          · subst closes
            cases depth with
            | zero => simp at balanced
            | succ depth =>
                have same : ((depth + 1 : Nat) : Int) - 1 = depth := by omega
                rw [same] at balanced
                simpa [outside] using ih namesRest (by simpa using balanced)
          · simp only [opens, closes, if_false] at balanced ⊢
            exact ih namesRest balanced
      | literal content =>
          rw [parensBalanced_append_plain (by simp [blankToken])] at balanced
          simpa [outside, closeParens] using ih namesRest balanced
      | identifier name =>
          have parts := names name (.inl List.mem_cons_self)
          rw [parensBalanced_append_plain] at balanced
          · simpa [outside, closeParens] using ih namesRest balanced
          · intro c member
            simp only [blankToken, List.cons_append, List.mem_cons, List.mem_append,
              List.not_mem_nil, or_false] at member
            rcases member with rfl | member | rfl
            · decide
            · exact ⟨isNamePart_ne (parts c member) (by decide),
                isNamePart_ne (parts c member) (by decide)⟩
            · decide
      | bracketed name =>
          have parts := names name (.inr List.mem_cons_self)
          rw [parensBalanced_append_plain] at balanced
          · simpa [outside, closeParens] using ih namesRest balanced
          · intro c member
            simp only [blankToken, List.cons_append, List.mem_cons, List.mem_append,
              List.not_mem_nil, or_false] at member
            rcases member with rfl | member | rfl
            · decide
            · exact ⟨isNamePart_ne (parts c member) (by decide),
                isNamePart_ne (parts c member) (by decide)⟩
            · decide

end Read

private theorem breakoutMarks_rejected : ∀ mark ∈ breakoutMarks, mark ∈ rejectedMarks := by decide

namespace Accepted

variable {blanked : List Char}

theorem contained (accepted : Accepted unicode expr blanked) :
    Contained .standard breakoutMarks expr := by
  obtain ⟨tokens, lexed, read⟩ := accepted.read .standard rfl
  refine ⟨tokens, lexed, fun mark member marked => ?_, ?_⟩
  · exact accepted.unmarked mark (breakoutMarks_rejected mark member)
      (read.infix_of_outside marked)
  · exact closeParens_of_balanced read.names (read.text ▸ accepted.balanced)

theorem avoidsWords (accepted : Accepted unicode expr blanked) :
    AvoidsWords bracketDialect filterForbiddenWords expr := by
  obtain ⟨tokens, lexed, read⟩ := accepted.read bracketDialect rfl
  exact ⟨tokens, lexed, read.words rfl⟩

private theorem backslashesQuoted (accepted : Accepted unicode expr blanked) :
    backslashesQuoted .plain expr = true := by
  obtain ⟨tokens, lexed, read⟩ := accepted.read .standard rfl
  have unslashed : ¬ ['\\'] <:+: blanked := accepted.unmarked _ (by decide)
  refine backslashesQuoted_of_lexFrom rfl (by simp) lexed ?_ ?_
  · intro member
    refine unslashed (read.infix_of_outside ?_)
    exact (List.singleton_infix_iff _ _).mpr (List.mem_map.mpr ⟨_, member, rfl⟩)
  · intro name member inName
    exact isNamePart_ne (read.names name (.inl member) _ inName) (by decide) rfl

end Accepted

private theorem buildWhereClause_eq (nonempty : expr ≠ []) (existingWhere : Option String) :
    ∃ tail, (buildWhereClause (some (String.ofList expr)) existingWhere).toList =
      "WHERE (".toList ++ (expr ++ ')' :: tail) := by
  have given : String.ofList expr ≠ "" := by
    intro empty
    exact nonempty (by simpa using congrArg String.toList empty)
  unfold buildWhereClause
  cases existingWhere with
  | none => exact ⟨[], by simp [given, join]⟩
  | some existing =>
      by_cases empty : existing = ""
      · exact ⟨[], by simp [given, empty, join]⟩
      · refine ⟨" AND (".toList ++ existing.toList ++ [')'], ?_⟩
        simp [given, empty, join]

/-- An accepted expression ends outside of quotes, has no comment marker and no
semicolon outside of them, keeps its parentheses balanced, and uses no forbidden
word outside literals, quoted and bracketed identifiers; in the WHERE clause the
parenthesis before it is closed by the one after it. -/
theorem accepted_contained (unicode : Unicode) (expr : List Char)
    (accepted : validateFilterExpression unicode expr = true) :
    Contained .standard breakoutMarks expr ∧
      AvoidsWords bracketDialect filterForbiddenWords expr ∧
      ∀ existingWhere, ∃ tail,
        (buildWhereClause (some (String.ofList expr)) existingWhere).toList =
          "WHERE (".toList ++ (expr ++ ')' :: tail) ∧
        ∀ rest, (lex .standard (expr ++ ')' :: (tail ++ rest))).bind (afterClosing 0) =
          lex .standard (tail ++ rest) := by
  have checked := accepted_of_validate accepted
  refine ⟨checked.contained, checked.avoidsWords, fun existingWhere => ?_⟩
  obtain ⟨tail, text⟩ := buildWhereClause_eq checked.nonempty existingWhere
  exact ⟨tail, text, fun rest => checked.contained.afterClosing (tail ++ rest)⟩

theorem accepted_contained_comparison :
    Contained .standard breakoutMarks "name = 'it''s; --'".toList :=
  (accepted_contained .ascii "name = 'it''s; --'".toList (by decide +kernel)).1

/-- A bracketed word is accepted, though brackets quote nothing for the standard lexer. -/
theorem bracketed_select_accepted :
    validateFilterExpression .ascii "[select]".toList = true ∧
      ¬ AvoidsWords .standard filterForbiddenWords "[select]".toList := by
  refine ⟨by decide +kernel, ?_⟩
  rintro ⟨tokens, lexed, avoids⟩
  obtain rfl : "[select]".toList.map Token.char = tokens := by
    refine Option.some.inj (Eq.trans ?_ lexed)
    decide
  revert avoids
  decide

/-- The dialects in which a backslash escapes the next character of a literal. -/
def backslashDialect : Dialect := { backslash := true, brackets := false }

def backslashBracketDialect : Dialect := { backslash := true, brackets := true }

/-- For a lexer with backslash escapes an accepted expression stays in its place
if and only if none of its quotes follows an odd run of backslashes. -/
theorem accepted_contained_backslash_iff (unicode : Unicode) (expr : List Char)
    (accepted : validateFilterExpression unicode expr = true) :
    (Contained backslashDialect breakoutMarks expr ∧
        AvoidsWords backslashBracketDialect filterForbiddenWords expr) ↔
      noEscapedQuote false expr = true := by
  have checked := accepted_of_validate accepted
  constructor
  · rintro ⟨⟨tokens, lexed, _⟩, _⟩
    by_contra escapes
    obtain ⟨standard, lexedStandard, _⟩ := checked.contained
    have unread := not_lex_backslash lexedStandard checked.backslashesQuoted
      (by simpa using escapes)
    rw [backslashDialect, unread] at lexed
    cases lexed
  · intro unescaped
    exact ⟨checked.contained.backslash unescaped, checked.avoidsWords.backslash unescaped⟩

theorem accepted_contained_backslash_comparison :
    Contained backslashDialect breakoutMarks "path = 'C:\\temp'".toList ∧
      AvoidsWords backslashBracketDialect filterForbiddenWords "path = 'C:\\temp'".toList :=
  (accepted_contained_backslash_iff .ascii "path = 'C:\\temp'".toList (by decide +kernel)).mpr (by decide +kernel)

/-- The escaped quote hides the end of the first literal: what the standard
lexer takes for a second literal is read as code, with a comment marker. -/
theorem escaped_quote_accepted :
    validateFilterExpression .ascii "a = '\\' OR b = ' or 1=1 -- '".toList = true ∧
      ¬ Contained backslashDialect breakoutMarks "a = '\\' OR b = ' or 1=1 -- '".toList ∧
      ¬ Contained backslashDialect breakoutMarks "a = '\\' OR b = ' or 1=1 -- ".toList := by
  refine ⟨by decide +kernel, ?_, ?_⟩
  · rintro ⟨tokens, lexed, _⟩
    have unread : lex backslashDialect "a = '\\' OR b = ' or 1=1 -- '".toList = none := by
      decide +kernel
    rw [unread] at lexed
    cases lexed
  · rintro ⟨tokens, lexed, free, _⟩
    obtain ⟨others, lexedOthers, marked⟩ : ∃ others,
        lex backslashDialect "a = '\\' OR b = ' or 1=1 -- ".toList = some others ∧
          "--".toList.map some <:+: outside others :=
      ⟨_, rfl, by decide +kernel⟩
    obtain rfl := Option.some.inj (lexedOthers.symm.trans lexed)
    exact free _ (by decide) marked

end CogniDQ.Rules
