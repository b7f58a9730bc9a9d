import CogniDQ.Rules.Filter
import CogniDQ.Sql.Escapes
import Mathlib.Data.List.Count
import Mathlib.Data.List.TakeWhile
import Mathlib

/-!
# Accepted filter expressions stay in their place

The validator blanks literals with a backtracking match and looks at what is
left. An accepted expression has an even number of quotes, so the match cuts the
text where a left-to-right scan does, and the tokens found in the blanked text
are the tokens of the expression.
-/

set_option autoImplicit false

namespace CogniDQ.Rules

open CogniDQ.Python CogniDQ.Sql

/-! ## Blanking literals -/

/-- With an odd number of quotes ahead, the match ends at the quote that closes
the literal for a lexer without backslash escapes. -/
theorem literalRest_closes {rest : List Char} (odd : rest.count '\'' % 2 = 1) :
    ∃ after, literalRest rest = some after ∧ after.length < rest.length ∧
      after.count '\'' % 2 = 0 ∧
      ∀ dialect : Dialect, dialect.backslash = false → ∀ content, ∃ literal,
        lexFrom dialect (.literal content) rest =
          (lexFrom dialect .plain after).map (.literal literal :: ·) := by
  fun_induction literalRest rest with
  | case1 => simp at odd
  | case2 =>
      refine ⟨[], rfl, by simp, by simp, fun dialect _ content => ⟨content, ?_⟩⟩
      simp [lexFrom, next, finishMode]
  | case3 others after found ih =>
      have oddOthers : others.count '\'' % 2 = 1 := by
        simp only [List.count_cons_self] at odd
        omega
      obtain ⟨after', found', shorter, even, closes⟩ := ih oddOthers
      refine ⟨after', by rw [← found, found'], ?_, even, fun dialect plain content => ?_⟩
      · simp only [List.length_cons]
        omega
      · obtain ⟨literal, lexed⟩ := closes dialect plain (content ++ ['\''])
        exact ⟨literal, by simpa [lexFrom, next] using lexed⟩
  | case4 others found ih =>
      have oddOthers : others.count '\'' % 2 = 1 := by
        simp only [List.count_cons_self] at odd
        omega
      obtain ⟨after, found', _⟩ := ih oddOthers
      simp [found] at found'
  | case5 second others different =>
      refine ⟨second :: others, rfl, by simp, ?_, fun dialect _ content => ⟨content, ?_⟩⟩
      · rw [List.count_cons_self] at odd
        omega
      · rw [lexFrom_literal_quote, lexFrom_closing (by simpa using different)]
  | case6 c rest different ih =>
      have oddRest : rest.count '\'' % 2 = 1 := by
        rwa [List.count_cons_of_ne different] at odd
      obtain ⟨after, found, shorter, even, closes⟩ := ih oddRest
      refine ⟨after, found, by simp only [List.length_cons]; omega, even, ?_⟩
      intro dialect plain content
      obtain ⟨literal, lexed⟩ := closes dialect plain (content ++ [c])
      exact ⟨literal, by simpa [lexFrom, next, different, plain] using lexed⟩

private theorem literalRest_count {rest after : List Char} (found : literalRest rest = some after) :
    rest.count '\'' % 2 = (after.count '\'' + 1) % 2 := by
  fun_induction literalRest rest generalizing after with
  | case1 => cases found
  | case2 =>
      obtain rfl := Option.some.inj found
      simp
  | case3 others inner innerFound ih =>
      obtain rfl := Option.some.inj found
      have := ih innerFound
      simp only [List.count_cons_self]
      omega
  | case4 others none ih =>
      obtain rfl := Option.some.inj found
      simp only [List.count_cons_self]
  | case5 second others different =>
      obtain rfl := Option.some.inj found
      simp only [List.count_cons_self]
  | case6 c rest different ih =>
      rw [List.count_cons_of_ne different]
      exact ih found

theorem blankLiterals_count (fuel : Nat) (text : List Char) :
    (blankLiterals fuel text).count '\'' % 2 = text.count '\'' % 2 := by
  fun_induction blankLiterals fuel text with
  | case1 => rfl
  | case2 => rfl
  | case3 fuel rest after found ih =>
      have matched := literalRest_count found
      simp only [List.count_cons_self]
      omega
  | case4 fuel rest none ih =>
      simp only [List.count_cons_self]
      omega
  | case5 fuel c rest different ih =>
      rw [List.count_cons_of_ne different, List.count_cons_of_ne different]
      exact ih

theorem replace_pairs_count (text : List Char) :
    (replace ['\'', '\''] [] text).count '\'' % 2 = text.count '\'' % 2 := by
  unfold replace
  induction length : text.length using Nat.strong_induction_on generalizing text with
  | _ size ih =>
      match text with
      | [] => rfl
      | [c] =>
          by_cases quote : c = '\''
          · subst quote
            rfl
          · simp [replaceFrom]
      | first :: second :: rest =>
          by_cases pair : first = '\'' ∧ second = '\''
          · obtain ⟨rfl, rfl⟩ := pair
            have shorter : rest.length < size := by
              simp only [List.length_cons] at length
              omega
            have tail := ih rest.length shorter rest rfl
            simp only [replaceFrom, List.isPrefixOf, List.count_cons_self]
            simp only [beq_self_eq_true, Bool.and_self, if_true, List.nil_append, List.length_cons,
              List.length_nil, Nat.zero_add, Nat.add_one_sub_one, replaceFrom]
            omega
          · have tail := ih (second :: rest).length (by simp [← length]) (second :: rest) rfl
            have unpaired : ['\'', '\''].isPrefixOf (first :: second :: rest) = false := by
              simp only [List.isPrefixOf, Bool.and_true, Bool.and_eq_false_iff, beq_eq_false_iff_ne]
              by_cases quote : first = '\''
              · exact .inr fun same => pair ⟨quote, same.symm⟩
              · exact .inl fun same => quote same.symm
            rw [replaceFrom, unpaired]
            simp only [Bool.false_eq_true, if_false, List.count_cons]
            simp only [List.count_cons] at tail
            omega

/-- A text and what blanking leaves of it: each literal, as the dialect reads
it, has become an empty one. -/
inductive Stripped (dialect : Dialect) : List Char → List Char → Prop where
  | nil : Stripped dialect [] []
  | char {c : Char} {text blanked : List Char} : c ≠ '\'' → Stripped dialect text blanked →
      Stripped dialect (c :: text) (c :: blanked)
  | literal {rest after blanked content : List Char} :
      lexFrom dialect (.literal []) rest =
        (lexFrom dialect .plain after).map (.literal content :: ·) →
      Stripped dialect after blanked →
      Stripped dialect ('\'' :: rest) ('\'' :: '\'' :: blanked)

theorem stripped_blankLiterals {dialect : Dialect} (plain : dialect.backslash = false)
    {fuel : Nat} {text : List Char} (enough : text.length ≤ fuel)
    (even : text.count '\'' % 2 = 0) : Stripped dialect text (blankLiterals fuel text) := by
  induction fuel generalizing text with
  | zero =>
      obtain rfl := List.eq_nil_of_length_eq_zero (Nat.le_zero.mp enough)
      exact .nil
  | succ fuel ih =>
      cases text with
      | nil => exact .nil
      | cons c rest =>
          simp only [List.length_cons] at enough
          by_cases quote : c = '\''
          · subst quote
            rw [List.count_cons_self] at even
            have odd : rest.count '\'' % 2 = 1 := by omega
            obtain ⟨after, found, shorter, evenAfter, closes⟩ := literalRest_closes odd
            obtain ⟨literal, lexed⟩ := closes dialect plain []
            simp only [blankLiterals, if_true, found]
            exact .literal lexed (ih (by omega) evenAfter)
          · rw [List.count_cons_of_ne quote] at even
            simp only [blankLiterals, quote, if_false]
            exact .char quote (ih (by omega) even)

private theorem Stripped.split {dialect : Dialect} {text token rest : List Char}
    (stripped : Stripped dialect text (token ++ rest)) (noQuote : '\'' ∉ token) :
    ∃ tail, text = token ++ tail ∧ Stripped dialect tail rest := by
  induction token generalizing text with
  | nil => exact ⟨text, rfl, stripped⟩
  | cons c token ih =>
      rw [List.cons_append] at stripped
      generalize whole : token ++ rest = blanked at stripped
      cases stripped with
      | char different stripped =>
          subst whole
          obtain ⟨tail, rfl, strippedTail⟩ :=
            ih stripped fun member => noQuote (List.mem_cons_of_mem _ member)
          exact ⟨tail, rfl, strippedTail⟩
      | literal lexed stripped => simp at noQuote

private theorem Stripped.literal_inv {dialect : Dialect} {text blanked : List Char}
    (stripped : Stripped dialect text ('\'' :: '\'' :: blanked)) :
    ∃ rest after content, text = '\'' :: rest ∧
      lexFrom dialect (.literal []) rest =
        (lexFrom dialect .plain after).map (.literal content :: ·) ∧
      Stripped dialect after blanked := by
  cases stripped with
  | char different stripped => exact absurd rfl different
  | literal lexed stripped => exact ⟨_, _, _, rfl, lexed, stripped⟩

/-! ## The allowed tokens -/

/-- What an allowed token looks like to a lexer, given the text after it. -/
inductive TokenShape : List Char → List Char → Prop where
  | literal {rest : List Char} : TokenShape ['\'', '\''] rest
  | identifier {name rest : List Char} : (∀ c ∈ name, isNamePart c = true) →
      TokenShape ('"' :: name ++ ['"']) rest
  | bracketed {name rest : List Char} : (∀ c ∈ name, isNamePart c = true) →
      TokenShape ('[' :: name ++ [']']) rest
  | word {first : Char} {more rest : List Char} : isWordStart first = true →
      (∀ c ∈ more, isWordPart c = true) →
      (∀ c, rest.head? = some c → isWordPart c = false) → TokenShape (first :: more) rest
  | symbols {token rest : List Char} :
      (∀ c ∈ token, c ≠ '\'' ∧ c ≠ '"' ∧ c ≠ '[' ∧ isWordStart c = false) →
      TokenShape token rest

theorem isWordStart_bounds {c : Char} (start : isWordStart c = true) :
    65 ≤ c.toNat ∧ c.toNat ≤ 122 := by
  simp only [isWordStart, Char.isAlpha, Char.isUpper, Char.isLower, Bool.or_eq_true,
    Bool.and_eq_true, decide_eq_true_eq, beq_iff_eq] at start
  rcases start with (⟨low, high⟩ | ⟨low, high⟩) | rfl
  · have low := UInt32.le_iff_toNat_le.mp low
    have high := UInt32.le_iff_toNat_le.mp high
    simp at low high
    omega
  · have low := UInt32.le_iff_toNat_le.mp low
    have high := UInt32.le_iff_toNat_le.mp high
    simp at low high
    omega
  · decide

theorem symbol_of_isSpace {unicode : Unicode} {c : Char} (space : unicode.isSpace c = true) :
    c ≠ '\'' ∧ c ≠ '"' ∧ c ≠ '[' ∧ isWordStart c = false := by
  have visible : ∀ d : Char, 32 < d.toNat → d.toNat < 127 → c ≠ d := by
    rintro d low high rfl
    simp [unicode.not_isSpace low high] at space
  refine ⟨visible _ (by decide) (by decide), visible _ (by decide) (by decide),
    visible _ (by decide) (by decide), ?_⟩
  by_contra start
  have bounds := isWordStart_bounds (by simpa using start)
  exact visible c (by omega) (by omega) rfl

theorem symbol_of_isDigit {unicode : Unicode} {c : Char} (digit : unicode.isDigit c = true) :
    c ≠ '\'' ∧ c ≠ '"' ∧ c ≠ '[' ∧ isWordStart c = false := by
  have other : ∀ d : Char, d.toNat < 128 → d.isDigit = false → c ≠ d := by
    rintro d ascii noDigit rfl
    simp [unicode.isDigit_ascii c ascii, noDigit] at digit
  refine ⟨other _ (by decide) (by decide), other _ (by decide) (by decide),
    other _ (by decide) (by decide), ?_⟩
  by_contra start
  have bounds := isWordStart_bounds (by simpa using start)
  refine other c (by omega) ?_ rfl
  simp only [Char.isDigit, Bool.and_eq_false_iff, decide_eq_false_iff_not, UInt32.le_iff_toNat_le]
  refine .inr ?_
  simp
  omega

private theorem quotedName_shape {close : Char} {text name rest : List Char}
    (found : quotedName close text = some (name, rest)) :
    text = name ++ close :: rest ∧ ∀ c ∈ name, isNamePart c = true := by
  unfold quotedName at found
  split at found
  · cases found
  · rename_i first more
    split at found
    · rename_i start
      split at found
      · rename_i c after dropped
        split at found
        · rename_i same
          obtain ⟨rfl, rfl⟩ := Prod.mk.inj (Option.some.inj found)
          subst same
          refine ⟨?_, ?_⟩
          · rw [List.cons_append, ← dropped, List.takeWhile_append_dropWhile]
          · intro c member
            rcases List.mem_cons.mp member with rfl | member
            · simp only [isNameStart, Bool.or_eq_true] at start
              simp only [isNamePart, Char.isAlphanum, Bool.or_eq_true]
              exact .inl (start.imp_left .inl)
            · exact List.mem_takeWhile_imp member
        · cases found
      · cases found
    · cases found

private theorem numberRest_shape {unicode : Unicode} {digits rest : List Char}
    (digitsPlain : ∀ c ∈ digits, c ≠ '\'' ∧ c ≠ '"' ∧ c ≠ '[' ∧ isWordStart c = false) :
    (numberRest unicode digits rest).1 ++ (numberRest unicode digits rest).2 = digits ++ rest ∧
      ∀ c ∈ (numberRest unicode digits rest).1,
        c ≠ '\'' ∧ c ≠ '"' ∧ c ≠ '[' ∧ isWordStart c = false := by
  unfold numberRest
  split
  · rename_i point more
    split
    · rename_i fraction
      obtain ⟨rfl, _⟩ := fraction
      refine ⟨by simp, ?_⟩
      intro c member
      rcases List.mem_append.mp member with old | new
      · exact digitsPlain c old
      · rcases List.mem_cons.mp new with rfl | new
        · decide
        · exact symbol_of_isDigit (List.mem_takeWhile_imp new)
    · exact ⟨rfl, digitsPlain⟩
  · exact ⟨rfl, digitsPlain⟩

private theorem filterOperators_symbols : ∀ operator ∈ filterOperators, ∀ c ∈ operator,
    c ≠ '\'' ∧ c ≠ '"' ∧ c ≠ '[' ∧ isWordStart c = false := by
  simp [filterOperators, isWordStart]

private theorem filterToken_shape {unicode : Unicode} {text token rest : List Char}
    (found : filterToken unicode text = some (token, rest)) :
    text = token ++ rest ∧ TokenShape token rest := by
  unfold filterToken at found
  split at found
  · cases found
  · rename_i c more
    split at found
    · rename_i space
      obtain ⟨rfl, rfl⟩ := Prod.mk.inj (Option.some.inj found)
      refine ⟨by simp, .symbols fun d member => ?_⟩
      rcases List.mem_cons.mp member with rfl | member
      · exact symbol_of_isSpace space
      · exact symbol_of_isSpace (List.mem_takeWhile_imp member)
    · split at found
      · rename_i quote
        subst quote
        split at found
        · split at found
          · rename_i second after same
            obtain ⟨rfl, rfl⟩ := Prod.mk.inj (Option.some.inj found)
            subst same
            exact ⟨rfl, .literal⟩
          · cases found
        · cases found
      · split at found
        · rename_i double
          subst double
          obtain ⟨⟨name, after⟩, quoted, equal⟩ := Option.map_eq_some_iff.mp found
          obtain ⟨rfl, rfl⟩ := Prod.mk.inj equal
          obtain ⟨rfl, parts⟩ := quotedName_shape quoted
          exact ⟨by simp, .identifier parts⟩
        · split at found
          · rename_i bracket
            subst bracket
            obtain ⟨⟨name, after⟩, quoted, equal⟩ := Option.map_eq_some_iff.mp found
            obtain ⟨rfl, rfl⟩ := Prod.mk.inj equal
            obtain ⟨rfl, parts⟩ := quotedName_shape quoted
            exact ⟨by simp, .bracketed parts⟩
          · split at found
            · rename_i digit
              have digitsPlain : ∀ d ∈ c :: more.takeWhile unicode.isDigit,
                  d ≠ '\'' ∧ d ≠ '"' ∧ d ≠ '[' ∧ isWordStart d = false := by
                intro d member
                rcases List.mem_cons.mp member with rfl | member
                · exact symbol_of_isDigit digit
                · exact symbol_of_isDigit (List.mem_takeWhile_imp member)
              obtain ⟨whole, plain⟩ := numberRest_shape digitsPlain
              rw [Option.some.inj found] at whole plain
              exact ⟨by simpa using whole.symm, .symbols plain⟩
            · split at found
              · rename_i start
                obtain ⟨rfl, rfl⟩ := Prod.mk.inj (Option.some.inj found)
                refine ⟨by simp, .word start (fun d member => List.mem_takeWhile_imp member) ?_⟩
                intro d head
                simpa [head] using List.head?_dropWhile_not isWordPart more
              · obtain ⟨operator, selected, equal⟩ := Option.map_eq_some_iff.mp found
                obtain ⟨rfl, rfl⟩ := Prod.mk.inj equal
                refine ⟨?_, .symbols (filterOperators_symbols _ (List.mem_of_find?_eq_some selected))⟩
                have begins := List.find?_some selected
                obtain ⟨tail, whole⟩ := List.isPrefixOf_iff_prefix.mp begins
                rw [← whole]
                simp

/-! ## The tokens of an accepted expression -/

def blankToken : Token → List Char
  | .literal _ => ['\'', '\'']
  | .identifier name => '"' :: name ++ ['"']
  | .bracketed name => '[' :: name ++ [']']
  | .char c => [c]

/-- What the tokens of an accepted expression have to do with its blanked text. -/
structure Read (dialect : Dialect) (tokens : List Token) (blanked : List Char) : Prop where
  text : tokens.flatMap blankToken = blanked
  names : ∀ name, .identifier name ∈ tokens ∨ .bracketed name ∈ tokens →
    ∀ c ∈ name, isNamePart c = true
  words : dialect.brackets = true →
    ∀ word ∈ words tokens, word.map Char.toLower ∉ filterForbiddenWords

section Read

variable {dialect : Dialect} {tokens : List Token} {blanked : List Char}

theorem isNamePart_ne {c d : Char} (part : isNamePart c = true) (other : isNamePart d = false) :
    c ≠ d := by
  rintro rfl
  simp [part] at other

theorem isWordPart_ne {c d : Char} (part : isWordPart c = true) (other : isWordPart d = false) :
    c ≠ d := by
  rintro rfl
  simp [part] at other

private theorem isWordStart_isWordPart {c : Char} (start : isWordStart c = true) :
    isWordPart c = true := by
  simp only [isWordStart, Bool.or_eq_true] at start
  simp only [isWordPart, Char.isAlphanum, Bool.or_eq_true]
  exact .inl (start.imp_left .inl)

private theorem isWordPart_ascii {c : Char} (part : isWordPart c = true) : c.toNat < 128 := by
  simp only [isWordPart, Char.isAlphanum, Bool.or_eq_true, beq_iff_eq] at part
  rcases part with ((alpha | digit) | rfl) | rfl
  · have bounds := isWordStart_bounds (c := c) (by simp [isWordStart, alpha])
    omega
  · simp only [Char.isDigit, Bool.and_eq_true, decide_eq_true_eq] at digit
    have high := UInt32.le_iff_toNat_le.mp digit.2
    simp at high
    omega
  · decide
  · decide

private theorem Read.cons_gap (read : Read dialect tokens blanked) (token : Token)
    (gap : outside [token] = [none])
    (names : ∀ name, token = .identifier name ∨ token = .bracketed name →
      ∀ c ∈ name, isNamePart c = true) :
    Read dialect (token :: tokens) (blankToken token ++ blanked) where
  text := by simp [read.text]
  names := by
    intro name member
    simp only [List.mem_cons] at member
    rcases member with (here | there) | (here | there)
    · exact names name (.inl here.symm)
    · exact read.names name (.inl there)
    · exact names name (.inr here.symm)
    · exact read.names name (.inr there)
  words := by
    intro brackets word member
    have first : outside (token :: tokens) = none :: outside tokens := by
      rw [← List.singleton_append, outside_append, gap, List.singleton_append]
    refine read.words brackets word ?_
    simpa [Sql.words, first, wordsFrom, finishWord] using member

private theorem Read.append_chars (read : Read dialect tokens blanked) {text : List Char}
    (words : dialect.brackets = true →
      ∀ word ∈ wordsFrom [] (text.map some ++ outside tokens),
        word.map Char.toLower ∉ filterForbiddenWords) :
    Read dialect (text.map .char ++ tokens) (text ++ blanked) where
  text := by
    rw [List.flatMap_append, read.text, List.flatMap_map]
    simp [blankToken]
  names := by
    intro name member
    simp only [List.mem_append, List.mem_map, reduceCtorEq, and_false, exists_false,
      false_or] at member
    exact read.names name member
  words := by
    intro brackets word member
    rw [Sql.words, outside_append, outside_chars] at member
    exact words brackets word member

private theorem Read.head (read : Read dialect tokens blanked) {c : Char}
    (first : (outside tokens).head? = some (some c)) : blanked.head? = some c := by
  rw [← read.text]
  cases tokens with
  | nil => simp [outside] at first
  | cons token tokens => cases token <;> simp_all [outside, blankToken]

theorem read_of_acceptsTokens {unicode : Unicode} {fuel : Nat} {text blanked : List Char}
    (stripped : Stripped dialect text blanked)
    (accepted : acceptsTokens unicode fuel blanked = true) :
    ∃ tokens, lexFrom dialect .plain text = some tokens ∧ Read dialect tokens blanked := by
  induction fuel generalizing text blanked with
  | zero =>
      cases blanked with
      | cons c rest => simp [acceptsTokens] at accepted
      | nil =>
          cases stripped
          exact ⟨[], rfl, rfl, by simp, by simp [words, outside, wordsFrom, finishWord]⟩
  | succ fuel ih =>
      cases blanked with
      | nil =>
          cases stripped
          exact ⟨[], rfl, rfl, by simp, by simp [words, outside, wordsFrom, finishWord]⟩
      | cons c more =>
          simp only [acceptsTokens] at accepted
          split at accepted
          · cases accepted
          · rename_i token rest found
            simp only [Bool.and_eq_true, Bool.not_eq_true', List.contains_eq_mem,
              decide_eq_false_iff_not] at accepted
            obtain ⟨allowed, acceptedRest⟩ := accepted
            obtain ⟨whole, shape⟩ := filterToken_shape found
            rw [whole] at stripped ⊢
            cases shape with
            | literal =>
                obtain ⟨lit, after, content, rfl, lexed, strippedRest⟩ := stripped.literal_inv
                obtain ⟨tokens, lexedRest, read⟩ := ih strippedRest acceptedRest
                refine ⟨.literal content :: tokens, ?_, read.cons_gap (.literal content) rfl (by simp)⟩
                simp [lexFrom, next, opening, lexed, lexedRest]
            | @identifier name _ parts =>
                obtain ⟨tail, rfl, strippedTail⟩ := stripped.split (by
                  simp only [List.cons_append, List.mem_cons, List.mem_append, List.not_mem_nil]
                  rintro (absurd' | member | absurd' | none)
                  · cases absurd'
                  · exact isNamePart_ne (parts _ member) (by decide) rfl
                  · cases absurd'
                  · exact none)
                obtain ⟨tokens, lexedRest, read⟩ := ih strippedTail acceptedRest
                refine ⟨_, ?_, read.cons_gap (.identifier name) rfl ?_⟩
                · have lexed := @lexFrom_identifier dialect name [] tail
                    fun c member => isNamePart_ne (d := '"') (parts c member) (by decide)
                  simp only [List.cons_append, List.append_assoc, List.nil_append, lexFrom, next,
                    opening] at lexed ⊢
                  simp [lexed, lexedRest]
                · rintro other (same | same)
                  · cases same
                    exact parts
                  · cases same
            | @bracketed name _ parts =>
                obtain ⟨tail, rfl, strippedTail⟩ := stripped.split (by
                  simp only [List.cons_append, List.mem_cons, List.mem_append, List.not_mem_nil]
                  rintro (absurd' | member | absurd' | none)
                  · cases absurd'
                  · exact isNamePart_ne (parts _ member) (by decide) rfl
                  · cases absurd'
                  · exact none)
                obtain ⟨tokens, lexedRest, read⟩ := ih strippedTail acceptedRest
                by_cases brackets : dialect.brackets = true
                · refine ⟨_, ?_, read.cons_gap (.bracketed name) rfl ?_⟩
                  · have lexed := @lexFrom_bracketed dialect name [] tail fun c member =>
                        isNamePart_ne (d := ']') (parts c member) (by decide)
                    simp only [List.cons_append, List.append_assoc, List.nil_append, lexFrom,
                      next, opening] at lexed ⊢
                    simp [lexed, lexedRest, brackets]
                  · rintro other (same | same)
                    · cases same
                    · cases same
                      exact parts
                · refine ⟨_, ?_, read.append_chars fun on => absurd on brackets⟩
                  rw [lexFrom_plain_chars, lexedRest, Option.map_some]
                  intro c member
                  simp only [List.cons_append, List.mem_cons, List.mem_append,
                    List.not_mem_nil, or_false] at member
                  rcases member with rfl | member | rfl
                  · simp [brackets]
                  · exact ⟨isNamePart_ne (parts c member) (by decide),
                      isNamePart_ne (parts c member) (by decide), fun _ => by simpa using brackets⟩
                  · simp
            | @word first word _ start parts stops =>
                have allParts : ∀ c ∈ first :: word, isWordPart c = true := by
                  intro c member
                  rcases List.mem_cons.mp member with rfl | member
                  · exact isWordStart_isWordPart start
                  · exact parts c member
                obtain ⟨tail, rfl, strippedTail⟩ := stripped.split fun member =>
                  isWordPart_ne (allParts _ member) (by decide) rfl
                obtain ⟨tokens, lexedRest, read⟩ := ih strippedTail acceptedRest
                refine ⟨_, ?_, read.append_chars fun brackets other member => ?_⟩
                · rw [lexFrom_plain_chars, lexedRest, Option.map_some]
                  intro c member
                  exact ⟨isWordPart_ne (allParts c member) (by decide),
                    isWordPart_ne (allParts c member) (by decide),
                    fun same => absurd same (isWordPart_ne (allParts c member) (by decide))⟩
                · rw [List.map_cons, List.cons_append, wordsFrom_some_start start,
                    wordsFrom_parts (by simp) parts,
                    wordsFrom_end (by simp) fun c head => stops c (read.head head)] at member
                  rcases List.mem_cons.mp member with rfl | member
                  · rw [unicode.lower_ascii _ fun c inWord =>
                      isWordPart_ascii (allParts c inWord)] at allowed
                    exact allowed
                  · exact read.words brackets other member
            | symbols plain =>
                obtain ⟨tail, rfl, strippedTail⟩ := stripped.split fun member =>
                  (plain _ member).1 rfl
                obtain ⟨tokens, lexedRest, read⟩ := ih strippedTail acceptedRest
                refine ⟨_, ?_, read.append_chars fun brackets other member => ?_⟩
                · rw [lexFrom_plain_chars, lexedRest, Option.map_some]
                  intro c member
                  exact ⟨(plain c member).1, (plain c member).2.1,
                    fun same => absurd same (plain c member).2.2.1⟩
                · rw [wordsFrom_skip fun c inToken => (plain c inToken).2.2.2] at member
                  exact read.words brackets other member

end Read

end CogniDQ.Rules
