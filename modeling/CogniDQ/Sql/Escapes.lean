import CogniDQ.Sql.Lexer

/-!
# Backslash escapes

One text under two dialects: where no quote follows an odd run of backslashes,
a backslash dialect cuts the text where the standard one does. Where one does,
and the standard dialect sees backslashes inside literals only, the two stay out
of step up to the end of the text.
-/

set_option autoImplicit false

namespace CogniDQ.Sql

/-- No quote follows an odd run of backslashes; `odd` is the run read so far. -/
def noEscapedQuote : Bool → List Char → Bool
  | _, [] => true
  | odd, c :: rest => !(odd && c == '\'') && noEscapedQuote (!odd && c == '\\') rest

/-! ## Texts on which the dialects agree -/

/-- The modes of the standard and of the backslash lexer after the same text. -/
inductive InStep : Bool → Mode → Mode → Prop where
  | plain {odd} : InStep odd .plain .plain
  | literal {standard escaped} : InStep false (.literal standard) (.literal escaped)
  | escaping {standard escaped} : InStep true (.literal standard) (.escaping escaped)
  | closing {odd standard escaped} : InStep odd (.closing standard) (.closing escaped)
  | identifier {odd name} : InStep odd (.identifier name) (.identifier name)
  | bracketed {odd name} : InStep odd (.bracketed name) (.bracketed name)

theorem opening_inStep {odd brackets : Bool} {c : Char}
    (unescaped : c = '\'' → odd = false) :
    InStep (!odd && c == '\\') (opening { backslash := false, brackets } c).1
        (opening { backslash := true, brackets } c).1 ∧
      (opening { backslash := false, brackets } c).2 =
        (opening { backslash := true, brackets } c).2 := by
  by_cases quote : c = '\''
  · subst quote
    simp only [opening, if_true, and_true]
    simpa using InStep.literal
  by_cases double : c = '"'
  · simpa [opening, double] using InStep.identifier
  by_cases bracket : c = '[' ∧ brackets = true
  · simpa [opening, bracket] using InStep.bracketed
  · simpa [opening, quote, double, bracket] using InStep.plain

theorem next_inStep {odd brackets : Bool} {standard escaped : Mode} {c : Char}
    (inStep : InStep odd standard escaped) (unescaped : c = '\'' → odd = false) :
    InStep (!odd && c == '\\') (next { backslash := false, brackets } standard c).1
        (next { backslash := true, brackets } escaped c).1 ∧
      outside (next { backslash := false, brackets } standard c).2 =
        outside (next { backslash := true, brackets } escaped c).2 := by
  have opened := @opening_inStep odd brackets c unescaped
  cases inStep with
  | plain => exact ⟨opened.1, congrArg outside opened.2⟩
  | literal =>
      by_cases quote : c = '\''
      · simpa [next, quote] using InStep.closing
      by_cases backslash : c = '\\'
      · simpa [next, backslash] using InStep.escaping
      · have even : (!false && c == '\\') = false := by simpa using backslash
        rw [even]
        simpa [next, quote, backslash] using InStep.literal
  | escaping =>
      have quote : c ≠ '\'' := fun quote => by simp at unescaped; exact unescaped quote
      simpa [next, quote] using InStep.literal
  | closing =>
      by_cases quote : c = '\''
      · subst quote
        simpa [next] using InStep.literal
      · refine ⟨by simpa [next, quote] using opened.1, ?_⟩
        simp only [next, quote, if_false, outside, List.map_cons, opened.2]
  | identifier =>
      by_cases double : c = '"'
      · simpa [next, double] using InStep.plain
      · simpa [next, double] using InStep.identifier
  | bracketed =>
      by_cases bracket : c = ']'
      · simpa [next, bracket] using InStep.plain
      · simpa [next, bracket] using InStep.bracketed

/-- Without an escaped quote, the backslash dialect sees the same text outside quotes. -/
theorem lexFrom_backslash {odd brackets : Bool} {standard escaped : Mode} {text : List Char}
    {tokens : List Token} (inStep : InStep odd standard escaped)
    (unescaped : noEscapedQuote odd text = true)
    (lexed : lexFrom { backslash := false, brackets } standard text = some tokens) :
    ∃ others, lexFrom { backslash := true, brackets } escaped text = some others ∧
      outside others = outside tokens := by
  induction text generalizing odd standard escaped tokens with
  | nil =>
      cases inStep <;> simp_all [lexFrom, finishMode]
      subst lexed
      rfl
  | cons c rest ih =>
      simp only [noEscapedQuote, Bool.and_eq_true, Bool.not_eq_true'] at unescaped
      have quoteEven : c = '\'' → odd = false := by
        rintro rfl
        simpa using unescaped.1
      obtain ⟨tail, lexedTail, rfl⟩ := Option.map_eq_some_iff.mp lexed
      obtain ⟨stepped, emitted⟩ := next_inStep inStep quoteEven
      obtain ⟨others, lexedOthers, same⟩ := ih stepped unescaped.2 lexedTail
      refine ⟨(next { backslash := true, brackets } escaped c).2 ++ others,
        by simp [lexFrom, lexedOthers], ?_⟩
      simp only [outside, List.map_append] at same emitted ⊢
      rw [same, emitted]

theorem Contained.backslash {brackets : Bool} {marks : List (List Char)} {text : List Char}
    (contained : Contained { backslash := false, brackets } marks text)
    (unescaped : noEscapedQuote false text = true) :
    Contained { backslash := true, brackets } marks text := by
  obtain ⟨tokens, lexed, free, balanced⟩ := contained
  obtain ⟨others, lexedOthers, same⟩ := lexFrom_backslash .plain unescaped lexed
  exact ⟨others, lexedOthers, same ▸ free, same ▸ balanced⟩

theorem AvoidsWords.backslash {brackets : Bool} {forbidden : List (List Char)}
    {text : List Char} (avoids : AvoidsWords { backslash := false, brackets } forbidden text)
    (unescaped : noEscapedQuote false text = true) :
    AvoidsWords { backslash := true, brackets } forbidden text := by
  obtain ⟨tokens, lexed, free⟩ := avoids
  obtain ⟨others, lexedOthers, same⟩ := lexFrom_backslash .plain unescaped lexed
  exact ⟨others, lexedOthers, by simpa only [words, same] using free⟩

/-! ## Texts on which they fall out of step -/

/-- What the position of a lexer in a text without brackets comes down to. A
closing quote counts as outside: a second one opens a literal again. -/
inductive Region where
  | plain
  | literal
  | escaped
  | identifier
deriving DecidableEq, Repr

def Region.next (backslash : Bool) : Region → Char → Region
  | .plain, c => if c = '\'' then .literal else if c = '"' then .identifier else .plain
  | .literal, c =>
      if c = '\'' then .plain else if c = '\\' ∧ backslash = true then .escaped else .literal
  | .escaped, _ => .literal
  | .identifier, c => if c = '"' then .plain else .identifier

def Region.after (backslash : Bool) : Region → List Char → Region
  | region, [] => region
  | region, c :: rest => Region.after backslash (region.next backslash c) rest

/-- The region of a mode; without brackets as quotes no mode is bracketed. -/
def Mode.region : Mode → Option Region
  | .plain | .closing _ => some .plain
  | .literal _ => some .literal
  | .escaping _ => some .escaped
  | .identifier _ => some .identifier
  | .bracketed _ => none

theorem opening_region {backslash : Bool} (c : Char) :
    (opening { backslash, brackets := false } c).1.region =
      some (Region.plain.next backslash c) := by
  by_cases quote : c = '\''
  · simp [opening, quote, Mode.region, Region.next]
  by_cases double : c = '"'
  · simp [opening, double, Mode.region, Region.next]
  · simp [opening, quote, double, Mode.region, Region.next]

theorem next_region {backslash : Bool} {mode : Mode} {region : Region}
    (at' : mode.region = some region) (c : Char) :
    (next { backslash, brackets := false } mode c).1.region =
      some (region.next backslash c) := by
  cases mode with
  | plain =>
      obtain rfl : Region.plain = region := by simpa [Mode.region] using at'
      exact opening_region c
  | literal content =>
      obtain rfl : Region.literal = region := by simpa [Mode.region] using at'
      by_cases quote : c = '\''
      · simp [next, quote, Mode.region, Region.next]
      by_cases escape : c = '\\' ∧ backslash = true
      · simp [next, escape, Mode.region, Region.next]
      · simp [next, quote, escape, Mode.region, Region.next]
  | escaping content =>
      obtain rfl : Region.escaped = region := by simpa [Mode.region] using at'
      simp [next, Mode.region, Region.next]
  | closing content =>
      obtain rfl : Region.plain = region := by simpa [Mode.region] using at'
      by_cases quote : c = '\''
      · simp [next, quote, Mode.region, Region.next]
      · simpa [next, quote] using opening_region c
  | identifier name =>
      obtain rfl : Region.identifier = region := by simpa [Mode.region] using at'
      by_cases double : c = '"'
      · simp [next, double, Mode.region, Region.next]
      · simp [next, double, Mode.region, Region.next]
  | bracketed name => simp [Mode.region] at at'

theorem after_of_lexFrom {backslash : Bool} {text : List Char} {mode : Mode} {region : Region}
    {tokens : List Token} (at' : mode.region = some region)
    (lexed : lexFrom { backslash, brackets := false } mode text = some tokens) :
    region.after backslash text = .plain := by
  induction text generalizing mode region tokens with
  | nil =>
      cases mode <;> simp_all [lexFrom, finishMode, Mode.region, Region.after]
  | cons c rest ih =>
      obtain ⟨tail, lexedTail, _⟩ := Option.map_eq_some_iff.mp lexed
      exact ih (next_region at' c) lexedTail

/-- Every backslash of the text lies inside a literal of the standard dialect. -/
def backslashesQuoted : Region → List Char → Bool
  | _, [] => true
  | region, c :: rest =>
      (c != '\\' || region == .literal) && backslashesQuoted (region.next false c) rest

/-- Away from literals a character permutes the regions, so two lexers that
differ go on to differ. -/
theorem next_ne {standard slashed : Region} {c : Char} (differ : standard ≠ slashed)
    (awake : standard ≠ .escaped ∧ slashed ≠ .escaped)
    (quoted : c = '\\' → standard = .literal) :
    standard.next false c ≠ slashed.next true c ∧
      standard.next false c ≠ .escaped ∧ slashed.next true c ≠ .escaped := by
  by_cases quote : c = '\''
  · subst quote
    cases standard <;> cases slashed <;> simp_all [Region.next]
  by_cases double : c = '"'
  · subst double
    cases standard <;> cases slashed <;> simp_all [Region.next]
  by_cases backslash : c = '\\'
  · subst backslash
    cases standard <;> cases slashed <;> simp_all [Region.next]
  · cases standard <;> cases slashed <;> simp_all [Region.next]

theorem after_ne {text : List Char} {standard slashed : Region} (differ : standard ≠ slashed)
    (awake : standard ≠ .escaped ∧ slashed ≠ .escaped)
    (quoted : backslashesQuoted standard text = true) :
    standard.after false text ≠ slashed.after true text := by
  induction text generalizing standard slashed with
  | nil => exact differ
  | cons c rest ih =>
      simp only [backslashesQuoted, Bool.and_eq_true, Bool.or_eq_true, bne_iff_ne, ne_eq,
        beq_iff_eq] at quoted
      obtain ⟨differ, awake⟩ := next_ne differ awake
        fun backslash => quoted.1.resolve_left (not_not_intro backslash)
      exact ih differ awake quoted.2

theorem next_standard_ne_escaped (region : Region) (c : Char) :
    region.next false c ≠ .escaped := by
  cases region <;> grind [Region.next]

theorem after_ne_of_escaped {text : List Char} {odd : Bool} {region : Region}
    (awake : region ≠ .escaped) (within : odd = true → region = .literal)
    (quoted : backslashesQuoted region text = true)
    (escapes : noEscapedQuote odd text = false) :
    region.after false text ≠
      Region.after true (if odd then .escaped else region) text := by
  induction text generalizing odd region with
  | nil => simp [noEscapedQuote] at escapes
  | cons c rest ih =>
      simp only [backslashesQuoted, Bool.and_eq_true, Bool.or_eq_true, bne_iff_ne, ne_eq,
        beq_iff_eq] at quoted
      cases odd with
      | true =>
          obtain rfl := within rfl
          by_cases quote : c = '\''
          · subst quote
            simp only [Region.after, Region.next, if_true]
            exact after_ne (by simp) (by simp) (by simpa [Region.next] using quoted.2)
          · have stays : Region.literal.next false c = .literal := by simp [Region.next, quote]
            have rest' := ih (by simp) (by simp)
              (stays ▸ quoted.2) (by simpa [noEscapedQuote, quote] using escapes)
            simpa [Region.after, Region.next, quote] using rest'
      | false =>
          by_cases backslash : c = '\\'
          · subst backslash
            obtain rfl := quoted.1.resolve_left (by simp)
            have rest' := @ih _ .literal (by simp) (by simp)
              (by simpa [Region.next] using quoted.2) (by simpa [noEscapedQuote] using escapes)
            simpa [Region.after, Region.next] using rest'
          · have moves : region.next true c = region.next false c := by
              cases region <;> simp [Region.next, backslash]
            have even : (c == '\\') = false := by simpa using backslash
            have rest' := @ih false _ (next_standard_ne_escaped region c) (by simp)
              quoted.2 (by simpa [noEscapedQuote, even] using escapes)
            simpa [Region.after, moves] using rest'

theorem not_lex_backslash {text : List Char} {tokens : List Token}
    (lexed : lex .standard text = some tokens)
    (quoted : backslashesQuoted .plain text = true)
    (escapes : noEscapedQuote false text = false) :
    lex { backslash := true, brackets := false } text = none := by
  have closed := after_of_lexFrom rfl lexed
  have differ := after_ne_of_escaped (by simp) (by simp) quoted escapes
  cases others : lex { backslash := true, brackets := false } text with
  | none => rfl
  | some tokens =>
      have closed' := after_of_lexFrom rfl others
      simp only [Bool.false_eq_true, if_false] at differ
      exact absurd (closed.trans closed'.symm) differ

theorem identifier_mem_lexFrom {dialect : Dialect} {text name : List Char} {tokens : List Token}
    (lexed : lexFrom dialect (.identifier name) text = some tokens) :
    ∃ more, .identifier (name ++ more) ∈ tokens := by
  induction text generalizing name tokens with
  | nil => simp [lexFrom, finishMode] at lexed
  | cons c rest ih =>
      obtain ⟨tail, lexedTail, rfl⟩ := Option.map_eq_some_iff.mp lexed
      by_cases double : c = '"'
      · exact ⟨[], by simp [next, double]⟩
      · simp only [next, double, if_false] at lexedTail ⊢
        obtain ⟨more, member⟩ := ih lexedTail
        exact ⟨c :: more, by simpa using member⟩

/-- When no backslash stands outside the literals of the standard tokens, all
backslashes are quoted. -/
theorem backslashesQuoted_of_lexFrom {text : List Char} {mode : Mode} {region : Region}
    {tokens : List Token} (at' : mode.region = some region) (awake : region ≠ .escaped)
    (lexed : lexFrom .standard mode text = some tokens)
    (charsFree : .char '\\' ∉ tokens)
    (namesFree : ∀ name, .identifier name ∈ tokens → '\\' ∉ name) :
    backslashesQuoted region text = true := by
  induction text generalizing mode region tokens with
  | nil => rfl
  | cons c rest ih =>
      obtain ⟨tail, lexedTail, rfl⟩ := Option.map_eq_some_iff.mp lexed
      have tailQuoted := ih (next_region at' c) (next_standard_ne_escaped region c) lexedTail
        (fun member => charsFree (List.mem_append_right _ member))
        (fun name member => namesFree name (List.mem_append_right _ member))
      simp only [backslashesQuoted, tailQuoted, Bool.and_true, Bool.or_eq_true, bne_iff_ne, ne_eq,
        beq_iff_eq]
      by_cases backslash : c = '\\'
      · subst backslash
        refine .inr ?_
        cases mode with
        | plain => simp [next, opening] at charsFree
        | literal content => simpa [Mode.region, eq_comm] using at'
        | escaping content => simp [Mode.region, awake.symm] at at'
        | closing content => simp [next, opening] at charsFree
        | identifier name =>
            simp only [next] at lexedTail
            obtain ⟨more, member⟩ := identifier_mem_lexFrom (by simpa using lexedTail)
            exact absurd (by simp) (namesFree _ (List.mem_append_right _ member))
        | bracketed name => simp [Mode.region] at at'
      · exact .inl backslash

end CogniDQ.Sql
