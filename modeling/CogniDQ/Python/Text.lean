import Mathlib.Data.List.Infix

/-!
# Python text

The string methods the rule compiler uses, on lists of characters, and the facts
about Unicode they rest on.
-/

set_option autoImplicit false

namespace CogniDQ.Python

/-- Each single quote written twice: `text.replace("'", "''")`. -/
def doubleQuotes (text : List Char) : List Char :=
  text.flatMap fun c => if c = '\'' then ['\'', '\''] else [c]

/-- What `\s`, `\d`, `str.strip` and `str.lower` know of Unicode. Only their
behaviour on ASCII is fixed; the tables beyond it grow with each version. A quote
is no letter: it is kept, and doubling it changes no letter beside it. -/
structure Unicode where
  isSpace : Char → Bool
  isDigit : Char → Bool
  lower : List Char → List Char
  isSpace_ascii : ∀ c, c.toNat < 128 →
    isSpace c = (c.toNat = 32 || (9 ≤ c.toNat && c.toNat ≤ 13) || (28 ≤ c.toNat && c.toNat ≤ 31))
  isDigit_ascii : ∀ c, c.toNat < 128 → isDigit c = c.isDigit
  lower_ascii : ∀ text, (∀ c ∈ text, c.toNat < 128) → lower text = text.map Char.toLower
  lower_doubleQuotes : ∀ text, lower (doubleQuotes text) = doubleQuotes (lower text)

theorem toLower_ne_quote {c : Char} (noQuote : c ≠ '\'') : c.toLower ≠ '\'' := by
  intro same
  unfold Char.toLower at same
  split at same
  · rename_i upper
    have code := congrArg Char.toNat same
    have low : 65 ≤ c.toNat := upper.1
    have high : c.toNat ≤ 90 := upper.2
    simp at code
    omega
  · exact noQuote same

namespace Unicode

def ascii : Unicode where
  isSpace c :=
    c.toNat = 32 || (9 ≤ c.toNat && c.toNat ≤ 13) || (28 ≤ c.toNat && c.toNat ≤ 31)
  isDigit := Char.isDigit
  lower := List.map Char.toLower
  isSpace_ascii _ _ := rfl
  isDigit_ascii _ _ := rfl
  lower_ascii _ _ := rfl
  lower_doubleQuotes text := by
    rw [doubleQuotes, doubleQuotes, List.map_flatMap, List.flatMap_map]
    refine List.flatMap_congr fun c _ => ?_
    by_cases quote : c = '\''
    · subst quote
      rfl
    · have kept : c.toLower ≠ '\'' := toLower_ne_quote quote
      simp [quote, kept]

theorem not_isSpace (unicode : Unicode) {c : Char} (visible : 32 < c.toNat)
    (ascii : c.toNat < 127) : unicode.isSpace c = false := by
  rw [unicode.isSpace_ascii c (by omega)]
  simp only [Bool.or_eq_false_iff, Bool.and_eq_false_iff, decide_eq_false_iff_not]
  omega

def strip (unicode : Unicode) (text : List Char) : List Char :=
  ((text.dropWhile unicode.isSpace).reverse.dropWhile unicode.isSpace).reverse

end Unicode

/-- `text.replace(old, new)` for a nonempty `old`: left to right, without overlaps.
`skip` counts the characters of a match still to be passed over. -/
def replaceFrom (old new : List Char) : Nat → List Char → List Char
  | _, [] => []
  | skip + 1, _ :: rest => replaceFrom old new skip rest
  | 0, c :: rest =>
      if old.isPrefixOf (c :: rest) then new ++ replaceFrom old new (old.length - 1) rest
      else c :: replaceFrom old new 0 rest

def replace (old new text : List Char) : List Char := replaceFrom old new 0 text

def replaceStr (old new text : String) : String :=
  String.ofList (replace old.toList new.toList text.toList)

def join (separator : String) : List String → String
  | [] => ""
  | [part] => part
  | part :: next :: rest => part ++ separator ++ join separator (next :: rest)

def isIn (mark text : List Char) : Bool := decide (mark <:+: text)

end CogniDQ.Python

/-!
## Replacing a piece of text

How `text.replace(old, new)` acts on the two halves of a text, which characters it
makes, and when it leaves a text as it is.
-/

namespace CogniDQ.Python

variable {old new text first rest : List Char}

/-- No match takes the last character of the first text and the first of the second. -/
def Unbroken (old first rest : List Char) : Prop :=
  ∀ c ∈ first.getLast?, ∀ d ∈ rest.head?, ¬ (c ∈ old.dropLast ∧ d ∈ old.tail)

theorem isPrefixOf_append (unbroken : Unbroken old first rest) (given : first ≠ []) :
    old.isPrefixOf (first ++ rest) = old.isPrefixOf first := by
  rw [Bool.eq_iff_iff, List.isPrefixOf_iff_prefix, List.isPrefixOf_iff_prefix]
  refine ⟨fun matched => ?_, fun matched => matched.trans (List.prefix_append first rest)⟩
  rcases List.prefix_or_prefix_of_prefix matched (List.prefix_append first rest) with inside | outside
  · exact inside
  obtain ⟨remainder, rfl⟩ := outside
  cases remainder with
  | nil => simp
  | cons d remainder =>
      -- The match goes on behind the end of the first text.
      obtain ⟨front, last, rfl⟩ : ∃ front last, first = front ++ [last] :=
        ⟨_, _, (List.dropLast_append_getLast given).symm⟩
      obtain ⟨after, found⟩ := (List.prefix_append_right_inj _).mp matched
      refine absurd ⟨?_, ?_⟩ (unbroken last (by simp) d (by simp [← found]))
      · rw [List.dropLast_append_of_ne_nil (by simp)]
        simp
      · cases front with
        | nil => simp
        | cons c front => simp

theorem replaceFrom_append {skip : Nat} (unbroken : Unbroken old first rest)
    (within : skip ≤ first.length) :
    replaceFrom old new skip (first ++ rest) =
      replaceFrom old new skip first ++ replaceFrom old new 0 rest := by
  induction first generalizing skip with
  | nil =>
      obtain rfl : skip = 0 := by simpa using within
      simp [replaceFrom]
  | cons c first ih =>
      have tail : Unbroken old first rest := by
        intro last member
        refine unbroken last ?_
        cases first with
        | nil => cases member
        | cons next first => simpa using member
      cases skip with
      | succ skip => exact ih tail (by simpa using within)
      | zero =>
          have same := isPrefixOf_append unbroken (by simp)
          simp only [List.cons_append] at same
          simp only [List.cons_append, replaceFrom, same]
          split
          · rename_i matched
            have length := (List.isPrefixOf_iff_prefix.mp matched).length_le
            rw [ih tail (by simp only [List.length_cons] at length; omega), List.append_assoc]
          · rw [ih tail (by omega), List.cons_append]

theorem replace_append (unbroken : Unbroken old first rest) :
    replace old new (first ++ rest) = replace old new first ++ replace old new rest :=
  replaceFrom_append unbroken (Nat.zero_le _)

theorem replace_cons_of_not_mem {d : Char} (given : old ≠ []) (absent : d ∉ old) :
    replace old new (d :: rest) = d :: replace old new rest := by
  have unmatched : ¬ old.isPrefixOf (d :: rest) = true := by
    obtain ⟨o, os, rfl⟩ := List.exists_cons_of_ne_nil given
    rw [List.isPrefixOf_iff_prefix, List.cons_prefix_cons]
    rintro ⟨rfl, _⟩
    exact absent List.mem_cons_self
  simp [replace, replaceFrom, unmatched]

theorem replace_divided {d : Char} (given : old ≠ []) (absent : d ∉ old) :
    replace old new (first ++ d :: rest) = replace old new first ++ d :: replace old new rest := by
  have unbroken : Unbroken old first (d :: rest) := by
    intro c _ e head
    obtain rfl : d = e := by simpa using head
    exact fun broken => absent (List.mem_of_mem_tail broken.2)
  rw [replace_append unbroken, replace_cons_of_not_mem given absent]

end CogniDQ.Python
