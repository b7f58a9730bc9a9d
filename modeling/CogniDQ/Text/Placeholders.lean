import CogniDQ.Python.Text
import Mathlib.Data.List.TakeWhile

/-!
# Placeholders

Placeholders stand between doubled marks, and a search takes the longest one from the left. A loop
that replaces one key after the other agrees with the search exactly if no key occurs in another
placeholder or in what another placeholder has become.
-/

set_option autoImplicit false

namespace CogniDQ.Text

open CogniDQ.Python

/-! ### Replacing a piece -/

section Replace

variable {old new text : List Char}

theorem le_length_replaceFrom (given : old ≠ []) (longer : old.length ≤ new.length) {skip : Nat} :
    text.length - skip ≤ (replaceFrom old new skip text).length := by
  induction text generalizing skip with
  | nil => simp
  | cons c rest ih =>
      cases skip with
      | succ skip =>
          rw [replaceFrom, List.length_cons, Nat.add_sub_add_right]
          exact ih
      | zero =>
          rw [replaceFrom]
          split
          · rw [List.length_append, List.length_cons]
            have positive := List.length_pos_of_ne_nil given
            have later := @ih (old.length - 1)
            omega
          · rw [List.length_cons, List.length_cons]
            have later := @ih 0
            omega

theorem length_replaceFrom_le (shorter : new.length ≤ old.length) {skip : Nat}
    (within : skip ≤ text.length) :
    (replaceFrom old new skip text).length ≤ text.length - skip := by
  induction text generalizing skip with
  | nil => simp [replaceFrom]
  | cons c rest ih =>
      cases skip with
      | succ skip =>
          rw [replaceFrom, List.length_cons, Nat.add_sub_add_right]
          exact ih (by simpa using within)
      | zero =>
          rw [replaceFrom]
          split
          · rename_i found
            have fits := (List.isPrefixOf_iff_prefix.mp found).length_le
            rw [List.length_cons] at fits
            have later := @ih (old.length - 1) (by omega)
            rw [List.length_append, List.length_cons]
            omega
          · rw [List.length_cons, List.length_cons]
            have later := @ih 0 (Nat.zero_le _)
            omega

theorem le_length_replace (given : old ≠ []) (longer : old.length ≤ new.length) :
    text.length ≤ (replace old new text).length :=
  @le_length_replaceFrom old new text given longer 0

theorem length_replace_le (shorter : new.length ≤ old.length) :
    (replace old new text).length ≤ text.length :=
  @length_replaceFrom_le old new text shorter 0 (Nat.zero_le _)

theorem replace_of_absent (absent : ¬ old <:+: text) :
    replace old new text = text := by
  induction text with
  | nil => rfl
  | cons c rest ih =>
      rw [List.infix_cons_iff, not_or] at absent
      have unmatched : ¬ old.isPrefixOf (c :: rest) = true := fun found =>
        absent.1 (List.isPrefixOf_iff_prefix.mp found)
      rw [replace, replaceFrom, if_neg unmatched, ← replace, ih absent.2]

theorem replaceFrom_self (given : old ≠ []) {skip : Nat} :
    replaceFrom old old skip text = text.drop skip := by
  induction text generalizing skip with
  | nil => simp [replaceFrom]
  | cons c rest ih =>
      cases skip with
      | succ skip => rw [replaceFrom, ih, List.drop_succ_cons]
      | zero =>
          rw [replaceFrom, List.drop_zero]
          split
          · rename_i found
            obtain ⟨after, whole⟩ := List.isPrefixOf_iff_prefix.mp found
            have positive := List.length_pos_of_ne_nil given
            rw [ih, ← whole]
            have tail : rest = old.drop 1 ++ after := by
              have cut := congrArg (List.drop 1) whole
              rw [List.drop_append_of_le_length (by omega)] at cut
              exact cut.symm
            rw [tail, List.drop_left' (by simp)]
          · rw [ih, List.drop_zero]

theorem replace_eq_self_iff_of_ne_nil (given : old ≠ []) :
    replace old new text = text ↔ new = old ∨ ¬ old <:+: text := by
  constructor
  · intro same
    by_contra changed
    obtain ⟨other, found⟩ := not_or.mp changed
    rw [not_not] at found
    induction text with
    | nil => exact given (List.eq_nil_of_infix_nil found)
    | cons c rest ih =>
        rw [replace, replaceFrom] at same
        split at same
        · rename_i matched
          obtain ⟨after, whole⟩ := List.isPrefixOf_iff_prefix.mp matched
          have lengths := congrArg List.length same
          have total := congrArg List.length whole
          rw [List.length_append, List.length_cons] at lengths total
          have positive := List.length_pos_of_ne_nil given
          have equal : new.length = old.length := by
            rcases Nat.le_total old.length new.length with longer | shorter
            · have least := @le_length_replaceFrom old new rest given longer (old.length - 1)
              omega
            · have most := @length_replaceFrom_le old new rest shorter (old.length - 1) (by omega)
              omega
          rw [← whole] at same
          exact other (List.append_inj same equal).1
        · rename_i unmatched
          rw [List.infix_cons_iff] at found
          rcases found with first | later
          · exact unmatched (List.isPrefixOf_iff_prefix.mpr first)
          · exact ih (List.cons.inj same).2 (not_or.mpr ⟨other, not_not.mpr later⟩) later
  · rintro (rfl | absent)
    · exact @replaceFrom_self new text given 0
    · exact replace_of_absent absent

theorem replace_once (given : old ≠ []) {before after : List Char}
    (once : ∀ front back, before ++ old ++ after = front ++ old ++ back → front = before) :
    replace old new (before ++ old ++ after) = before ++ new ++ after := by
  induction before with
  | nil =>
      obtain ⟨c, rest, rfl⟩ := List.exists_cons_of_ne_nil given
      have absent : ¬ (c :: rest) <:+: after := by
        rintro ⟨front, back, rfl⟩
        have start := once ((c :: rest) ++ front) back (by simp)
        simp at start
      have found : (c :: rest).isPrefixOf (c :: rest ++ after) = true :=
        List.isPrefixOf_iff_prefix.mpr (List.prefix_append _ _)
      rw [List.nil_append, List.nil_append, List.cons_append, replace, replaceFrom,
        ← List.cons_append, if_pos found]
      have passed : replaceFrom (c :: rest) new ((c :: rest).length - 1) (rest ++ after) =
          replace (c :: rest) new after := by
        have skipped (skip : List Char) : replaceFrom (c :: rest) new skip.length (skip ++ after) =
            replace (c :: rest) new after := by
          induction skip with
          | nil => rfl
          | cons d skip ih => exact ih
        exact skipped rest
      rw [passed, replace_of_absent absent]
  | cons d before ih =>
      have unmatched : ¬ old.isPrefixOf (d :: (before ++ old ++ after)) = true := by
        intro found
        obtain ⟨back, whole⟩ := List.isPrefixOf_iff_prefix.mp found
        have start := once [] back (by simpa using whole.symm)
        exact absurd start (List.cons_ne_nil _ _).symm
      have later := ih fun front back same => by
        have start := once (d :: front) back (by simpa using same)
        exact (List.cons.inj start).2
      rw [List.cons_append, List.cons_append, replace, replaceFrom, if_neg unmatched, ← replace,
        later]
      rfl

end Replace

/-! ### Searching -/

/-- A placeholder begins and ends with two marks; what stands between is a word that begins with an
initial. -/
structure Syntax where
  mark : Char
  initial : Char → Bool
  word : Char → Bool
  word_mark : word mark = true
  word_initial : ∀ c, initial c = true → word c = true

/-- A part of a text: a placeholder, or a character outside of one. -/
inductive Piece where
  | char (c : Char)
  | placeholder (text : List Char)

namespace Syntax

variable (form : Syntax)

def closing : List Char → Option Nat
  | [] => none
  | c :: rest =>
    match closing rest with
    | some position => some (position + 1)
    | none => if c = form.mark ∧ rest.head? = some form.mark then some 2 else none

/-- The length of the longest placeholder at the head of a text. -/
def matchLength : List Char → Option Nat
  | first :: second :: c :: rest =>
    if first = form.mark ∧ second = form.mark ∧ form.initial c = true then
      (form.closing (rest.takeWhile form.word)).map (· + 3)
    else none
  | _ => none

/-- `skip` counts the characters of a placeholder still to be passed over. -/
def scan : Nat → List Char → List Piece
  | _, [] => []
  | skip + 1, _ :: rest => scan skip rest
  | 0, c :: rest =>
    match form.matchLength (c :: rest) with
    | some length => .placeholder ((c :: rest).take length) :: scan (length - 1) rest
    | none => .char c :: scan 0 rest

def pieces (text : List Char) : List Piece := form.scan 0 text

def placeholders (text : List Char) : List (List Char) :=
  (form.pieces text).filterMap fun
    | .char _ => none
    | .placeholder text => some text

/-- Every placeholder with a value is replaced by it, all at once. -/
def instantiate (mapping : List (List Char × List Char)) (text : List Char) : List Char :=
  (form.pieces text).flatMap fun
    | .char c => [c]
    | .placeholder text => (mapping.lookup text).getD text

/-- The whole text is a placeholder. -/
def IsKey (key : List Char) : Prop := form.matchLength key = some key.length

instance (key : List Char) : Decidable (form.IsKey key) :=
  inferInstanceAs (Decidable (form.matchLength key = some key.length))

def cut : List Char → Option (List Char × List Char × List Char)
  | [] => none
  | c :: rest =>
    match form.matchLength (c :: rest) with
    | some length => some ([], (c :: rest).take length, (c :: rest).drop length)
    | none => (cut rest).map fun parts => (c :: parts.1, parts.2)

def runs (text : List Char) : List (List Char) := text.splitOnP fun c => !form.word c

variable {form}

/-! ### Placeholders in a run -/

theorem closing_ne_none (before after : List Char) :
    form.closing (before ++ [form.mark, form.mark] ++ after) ≠ none := by
  induction before with
  | nil =>
      simp only [List.nil_append, List.cons_append, closing]
      split
      · exact nofun
      · simp
  | cons c before ih =>
      rw [List.cons_append, List.cons_append, closing]
      cases result : form.closing (before ++ [form.mark, form.mark] ++ after) with
      | none => exact absurd result ih
      | some position => exact nofun

theorem closing_eq_some {text : List Char} {position : Nat}
    (found : form.closing text = some position) :
    (∃ before after, text = before ++ [form.mark, form.mark] ++ after ∧
        position = before.length + 2) ∧
      ∀ before after, text = before ++ [form.mark, form.mark] ++ after →
        before.length + 2 ≤ position := by
  induction text generalizing position with
  | nil => cases found
  | cons c rest ih =>
      rw [closing] at found
      split at found
      · rename_i inner later
        obtain rfl := Option.some.inj found
        obtain ⟨⟨before, after, rfl, rfl⟩, last⟩ := ih later
        refine ⟨⟨c :: before, after, rfl, rfl⟩, ?_⟩
        intro front back same
        cases front with
        | nil => simp
        | cons d front =>
            have inside := last front back (List.cons.inj same).2
            simp only [List.length_cons]
            omega
      · rename_i none
        split at found
        · rename_i doubled
          obtain ⟨rfl, next⟩ := doubled
          obtain rfl := Option.some.inj found
          obtain ⟨after, rfl⟩ : ∃ after, rest = form.mark :: after := by
            cases rest with
            | nil => cases next
            | cons d after => exact ⟨after, by rw [Option.some.inj next]⟩
          refine ⟨⟨[], after, rfl, rfl⟩, ?_⟩
          intro front back same
          cases front with
          | nil => simp
          | cons d front =>
              have absent : form.closing (front ++ [form.mark, form.mark] ++ back) = Option.none := by
                rw [← none]
                exact congrArg _ (List.cons.inj same).2.symm
              exact absurd absent (closing_ne_none front back)
        · cases found

theorem closing_concat (before : List Char) :
    form.closing (before ++ [form.mark, form.mark]) = some (before.length + 2) := by
  have found := @closing_ne_none form before []
  rw [List.append_nil] at found
  obtain ⟨position, result⟩ := Option.ne_none_iff_exists'.mp found
  obtain ⟨⟨front, back, same, rfl⟩, last⟩ := closing_eq_some result
  have least := last before [] (by simp)
  have lengths := congrArg List.length same
  simp only [List.length_append, List.length_cons, List.length_nil] at lengths
  rw [result]
  congr 1
  omega

theorem takeWhile_word {text : List Char} (words : ∀ c ∈ text, form.word c = true) :
    text.takeWhile form.word = text :=
  List.takeWhile_eq_self_iff.mpr words

theorem matchLength_eq_some {text : List Char} {length : Nat}
    (found : form.matchLength text = some length) :
    ∃ c rest position, text = form.mark :: form.mark :: c :: rest ∧ form.initial c = true ∧
      form.closing (rest.takeWhile form.word) = some position ∧ length = position + 3 := by
  match text, found with
  | first :: second :: c :: rest, found =>
      rw [matchLength] at found
      split at found
      · rename_i opens
        obtain ⟨rfl, rfl, initial⟩ := opens
        obtain ⟨position, closed, rfl⟩ := Option.map_eq_some_iff.mp found
        exact ⟨c, rest, position, rfl, initial, closed, rfl⟩
      · cases found
  | [], found => cases found
  | [_], found => cases found
  | [_, _], found => cases found

theorem isKey_iff {key : List Char} :
    form.IsKey key ↔ ∃ c front, key = form.mark :: form.mark :: c :: (front ++ [form.mark, form.mark]) ∧
      form.initial c = true ∧ ∀ d ∈ front, form.word d = true := by
  constructor
  · intro isKey
    obtain ⟨c, rest, position, rfl, initial, closed, length⟩ := matchLength_eq_some isKey
    obtain ⟨⟨front, back, same, rfl⟩, _⟩ := closing_eq_some closed
    have prefix_ := List.takeWhile_prefix (l := rest) form.word
    have whole : rest.takeWhile form.word = rest := by
      refine prefix_.eq_of_length_le ?_
      rw [same]
      simp only [List.length_cons, List.length_append, List.length_nil] at length ⊢
      omega
    have lengths := congrArg List.length (whole.symm.trans same)
    simp only [List.length_cons, List.length_append, List.length_nil] at length lengths
    have none : back = [] := List.length_eq_zero_iff.mp (by omega)
    rw [whole, none, List.append_nil] at same
    subst same
    refine ⟨c, front, rfl, initial, fun d member => ?_⟩
    exact List.takeWhile_eq_self_iff.mp whole d (List.mem_append_left _ member)
  · rintro ⟨c, front, rfl, initial, words⟩
    have body : ∀ d ∈ front ++ [form.mark, form.mark], form.word d = true := by
      intro d member
      rcases List.mem_append.mp member with inside | marks
      · exact words d inside
      · simp only [List.mem_cons, List.not_mem_nil, or_false, or_self] at marks
        rw [marks]
        exact form.word_mark
    rw [IsKey, matchLength, if_pos ⟨rfl, rfl, initial⟩, takeWhile_word body, closing_concat]
    simp

theorem IsKey.words {key : List Char} (isKey : form.IsKey key) : ∀ c ∈ key, form.word c = true := by
  obtain ⟨c, front, rfl, initial, words⟩ := isKey_iff.mp isKey
  intro d member
  simp only [List.mem_cons, List.mem_append, List.not_mem_nil, or_false] at member
  rcases member with rfl | rfl | rfl | inside | rfl | rfl
  · exact form.word_mark
  · exact form.word_mark
  · exact form.word_initial _ initial
  · exact words _ inside
  · exact form.word_mark
  · exact form.word_mark

theorem IsKey.ne_nil {key : List Char} (isKey : form.IsKey key) : key ≠ [] := by
  obtain ⟨c, front, rfl, _⟩ := isKey_iff.mp isKey
  exact List.cons_ne_nil _ _

theorem matchLength_ne_none {key after : List Char} (isKey : form.IsKey key)
    (words : ∀ c ∈ after, form.word c = true) : form.matchLength (key ++ after) ≠ none := by
  obtain ⟨c, front, rfl, initial, inside⟩ := isKey_iff.mp isKey
  have body : ∀ d ∈ front ++ [form.mark, form.mark] ++ after, form.word d = true := by
    intro d member
    have listed : d ∈ form.mark :: form.mark :: c :: (front ++ [form.mark, form.mark]) ∨ d ∈ after := by
      rcases List.mem_append.mp member with first | later
      · exact .inl (List.mem_cons_of_mem _ (List.mem_cons_of_mem _ (List.mem_cons_of_mem _ first)))
      · exact .inr later
    rcases listed with first | later
    · exact isKey.words d first
    · exact words d later
  simp only [List.cons_append]
  rw [matchLength, if_pos ⟨rfl, rfl, initial⟩, takeWhile_word body]
  obtain ⟨position, closed⟩ := Option.ne_none_iff_exists'.mp (@closing_ne_none form front after)
  rw [closed]
  exact nofun

theorem matchLength_run {run : List Char} {length : Nat} (words : ∀ c ∈ run, form.word c = true)
    (found : form.matchLength run = some length) :
    form.IsKey (run.take length) ∧ length ≤ run.length ∧
      (∀ before key after, form.IsKey key → run = before ++ key ++ after →
        before.length + key.length ≤ length) ∧
      ¬ [form.mark, form.mark] <:+: run.drop length := by
  obtain ⟨c, rest, position, rfl, initial, closed, rfl⟩ := matchLength_eq_some found
  have inside : ∀ d ∈ rest, form.word d = true := fun d member =>
    words d (by simp [member])
  rw [takeWhile_word inside] at closed
  obtain ⟨⟨front, back, rfl, rfl⟩, last⟩ := closing_eq_some closed
  have taken : (front ++ [form.mark, form.mark] ++ back).take (front.length + 2) =
      front ++ [form.mark, form.mark] := List.take_left' (by simp)
  have dropped : (front ++ [form.mark, form.mark] ++ back).drop (front.length + 2) = back :=
    List.drop_left' (by simp)
  refine ⟨?_, by simp, ?_, ?_⟩
  · simp only [List.take_succ_cons, taken]
    refine isKey_iff.mpr ⟨c, front, rfl, initial, fun d member => inside d ?_⟩
    simp [member]
  · intro before key after isKey same
    obtain ⟨e, middle, rfl, _, _⟩ := isKey_iff.mp isKey
    -- The last two marks of the key lie behind the first three characters.
    have regrouped : before ++ form.mark :: form.mark :: e :: (middle ++ [form.mark, form.mark]) ++ after =
        (before ++ form.mark :: form.mark :: e :: middle) ++ ([form.mark, form.mark] ++ after) := by
      simp
    have behind := congrArg (List.drop 3) (same.trans regrouped)
    rw [List.drop_append_of_le_length (by simp only [List.length_append, List.length_cons]; omega),
      ← List.append_assoc] at behind
    have reach := last _ after behind
    simp only [List.length_drop, List.length_append, List.length_cons, List.length_nil] at reach ⊢
    omega
  · simp only [List.drop_succ_cons, dropped]
    rintro ⟨before, after, rfl⟩
    have reach := last (front ++ [form.mark, form.mark] ++ before) after (by simp)
    simp only [List.length_append, List.length_cons, List.length_nil] at reach
    omega

theorem scan_drop (skip : Nat) (text : List Char) :
    form.scan skip text = form.pieces (text.drop skip) := by
  induction text generalizing skip with
  | nil => cases skip <;> rfl
  | cons c rest ih =>
      cases skip with
      | zero => rfl
      | succ skip => rw [scan, ih, List.drop_succ_cons]

theorem pieces_of_match {c : Char} {rest : List Char} {length : Nat}
    (found : form.matchLength (c :: rest) = some length) :
    form.pieces (c :: rest) =
      .placeholder ((c :: rest).take length) :: form.pieces ((c :: rest).drop length) := by
  obtain ⟨_, _, position, _, _, _, rfl⟩ := matchLength_eq_some found
  rw [pieces, scan, found]
  simp only [scan_drop, List.drop_succ_cons, Nat.add_one_sub_one]

theorem pieces_of_no_match {c : Char} {rest : List Char}
    (absent : form.matchLength (c :: rest) = none) :
    form.pieces (c :: rest) = .char c :: form.pieces rest := by
  rw [pieces, scan, absent]
  rfl

theorem pieces_plain {text : List Char} (single : ¬ [form.mark, form.mark] <:+: text) :
    form.pieces text = text.map .char := by
  induction text with
  | nil => rfl
  | cons c rest ih =>
      rw [List.infix_cons_iff, not_or] at single
      cases found : form.matchLength (c :: rest) with
      | none => rw [pieces_of_no_match found, ih single.2, List.map_cons]
      | some length =>
          obtain ⟨d, after, position, same, _⟩ := matchLength_eq_some found
          exact absurd ⟨d :: after, same.symm⟩ single.1

theorem cut_none {run : List Char} (words : ∀ c ∈ run, form.word c = true)
    (uncut : form.cut run = none) :
    form.pieces run = run.map .char ∧ ∀ key, form.IsKey key → ¬ key <:+: run := by
  induction run with
  | nil => exact ⟨rfl, fun key isKey found => isKey.ne_nil (List.eq_nil_of_infix_nil found)⟩
  | cons c rest ih =>
      rw [cut] at uncut
      split at uncut
      · cases uncut
      · rename_i absent
        have inside := fun d member => words d (List.mem_cons_of_mem _ member)
        obtain ⟨plain, keyless⟩ := ih inside (Option.map_eq_none_iff.mp uncut)
        refine ⟨by rw [pieces_of_no_match absent, plain, List.map_cons], fun key isKey found => ?_⟩
        rcases List.infix_cons_iff.mp found with ⟨after, same⟩ | later
        · refine matchLength_ne_none isKey (fun d member => words d ?_) (same ▸ absent)
          rw [← same]
          exact List.mem_append_right _ member
        · exact keyless key isKey later

/-- A run that is cut has one placeholder, which holds every key that occurs in the run. -/
theorem cut_some {run before key after : List Char} (words : ∀ c ∈ run, form.word c = true)
    (parts : form.cut run = some (before, key, after)) :
    run = before ++ key ++ after ∧ form.IsKey key ∧
      form.pieces run = before.map .char ++ .placeholder key :: after.map .char ∧
      (∀ other, form.IsKey other → other <:+: run → other <:+: key) ∧
      ∀ front back, run = front ++ key ++ back → front = before := by
  induction run generalizing before with
  | nil => cases parts
  | cons c rest ih =>
      rw [cut] at parts
      split at parts
      · rename_i length found
        obtain ⟨isKey, within, ends, single⟩ := matchLength_run words found
        obtain ⟨rfl, rfl, rfl⟩ : [] = before ∧ (c :: rest).take length = key ∧
            (c :: rest).drop length = after := by simpa using parts
        have size : ((c :: rest).take length).length = length := by
          rw [List.length_take]
          omega
        refine ⟨by simp, isKey, ?_, ?_, ?_⟩
        · rw [pieces_of_match found, pieces_plain single]
          rfl
        · rintro other isOther ⟨front, back, same⟩
          have reach := ends front other back isOther same.symm
          have begins : front ++ other <+: c :: rest := ⟨back, same⟩
          have taken : front ++ other <+: (c :: rest).take length := by
            rw [List.prefix_take_iff]
            exact ⟨begins, by rw [List.length_append]; exact reach⟩
          exact (List.suffix_append front other).isInfix.trans taken.isInfix
        · intro front back same
          have reach := ends front _ back isKey same
          rw [size] at reach
          exact List.length_eq_zero_iff.mp (by omega)
      · rename_i absent
        obtain ⟨⟨inner, other, rest_⟩, innerParts, same⟩ := Option.map_eq_some_iff.mp parts
        obtain ⟨rfl, rfl, rfl⟩ : c :: inner = before ∧ other = key ∧ rest_ = after := by
          simpa using same
        have inside := fun d member => words d (List.mem_cons_of_mem _ member)
        obtain ⟨whole, isKey, found, holds, once⟩ := ih inside innerParts
        have unmatched : ∀ key, form.IsKey key → ¬ key <+: c :: rest := by
          rintro key isKey ⟨after, same⟩
          refine matchLength_ne_none isKey (fun d member => words d ?_) (same ▸ absent)
          rw [← same]
          exact List.mem_append_right _ member
        refine ⟨by rw [whole]; rfl, isKey, ?_, ?_, ?_⟩
        · rw [pieces_of_no_match absent, found]
          rfl
        · intro key isOther occurs
          rcases List.infix_cons_iff.mp occurs with first | later
          · exact absurd first (unmatched key isOther)
          · exact holds key isOther later
        · intro front back same
          cases front with
          | nil => exact absurd ⟨back, same.symm⟩ (unmatched _ isKey)
          | cons d front =>
              obtain ⟨rfl, tails⟩ := List.cons.inj same
              rw [once front back tails]

/-! ### Texts of several runs -/

theorem matchLength_divided {run rest : List Char} {d : Char}
    (words : ∀ c ∈ run, form.word c = true) (divides : form.word d = false) :
    form.matchLength (run ++ d :: rest) = form.matchLength run := by
  have notMark : d ≠ form.mark := fun same => by
    rw [same, form.word_mark] at divides
    cases divides
  have notInitial : form.initial d ≠ true := fun same => by
    rw [form.word_initial d same] at divides
    cases divides
  match run, words with
  | [], _ =>
      match rest with
      | [] => rfl
      | [_] => rfl
      | _ :: _ :: _ => exact if_neg fun opens => notMark opens.1
  | [_], _ =>
      match rest with
      | [] => rfl
      | _ :: _ => exact if_neg fun opens => notMark opens.2.1
  | [_, _], _ => exact if_neg fun opens => notInitial opens.2.2
  | first :: second :: c :: inside, words =>
      have inner : ∀ e ∈ inside, form.word e = true := fun e member => words e (by simp [member])
      have stops : (inside ++ d :: rest).takeWhile form.word = inside := by
        rw [List.takeWhile_append_of_pos inner, List.takeWhile_cons_of_neg (by simp [divides]),
          List.append_nil]
      simp only [List.cons_append, matchLength, stops, takeWhile_word inner]

theorem matchLength_le {text : List Char} {length : Nat}
    (found : form.matchLength text = some length) : length ≤ text.length := by
  obtain ⟨c, rest, position, rfl, _, closed, rfl⟩ := matchLength_eq_some found
  obtain ⟨⟨front, back, same, rfl⟩, _⟩ := closing_eq_some closed
  have fits := (List.takeWhile_prefix (l := rest) form.word).length_le
  rw [same] at fits
  simp only [List.length_append, List.length_cons, List.length_nil] at fits ⊢
  omega

theorem pieces_divided {run rest : List Char} {d : Char} (words : ∀ c ∈ run, form.word c = true)
    (divides : form.word d = false) :
    form.pieces (run ++ d :: rest) = form.pieces run ++ .char d :: form.pieces rest := by
  induction size : run.length using Nat.strongRecOn generalizing run with
  | ind size ih =>
      cases run with
      | nil =>
          have absent := @matchLength_divided form [] rest d words divides
          rw [List.nil_append, pieces_of_no_match absent]
          rfl
      | cons c inside =>
          have same := @matchLength_divided form (c :: inside) rest d words divides
          have inner := fun e member => words e (List.mem_cons_of_mem _ member)
          rw [List.cons_append] at same ⊢
          cases found : form.matchLength (c :: inside) with
          | none =>
              rw [pieces_of_no_match found, pieces_of_no_match (same.trans found),
                ih inside.length (by rw [← size, List.length_cons]; omega) inner rfl]
              rfl
          | some length =>
              have within := matchLength_le found
              have positive : 0 < length := by
                obtain ⟨_, _, position, _, _, _, rfl⟩ := matchLength_eq_some found
                omega
              rw [pieces_of_match found, pieces_of_match (same.trans found), ← List.cons_append,
                List.take_append_of_le_length within, List.drop_append_of_le_length within,
                ih ((c :: inside).drop length).length (by rw [← size, List.length_drop]; omega)
                  (fun e member => words e (List.mem_of_mem_drop member)) rfl]
              rfl

theorem runs_divided {run rest : List Char} {d : Char} (words : ∀ c ∈ run, form.word c = true)
    (divides : form.word d = false) : form.runs (run ++ d :: rest) = run :: form.runs rest :=
  List.splitOnP_append_cons_of_forall_mem (fun c member => by simp [words c member]) d
    (by simp [divides]) rest

theorem runs_of_words {run : List Char} (words : ∀ c ∈ run, form.word c = true) :
    form.runs run = [run] :=
  List.splitOnP_eq_singleton fun c member => by simp [words c member]

theorem text_induction {motive : List Char → Prop}
    (run : ∀ run, (∀ c ∈ run, form.word c = true) → motive run)
    (divided : ∀ run d rest, (∀ c ∈ run, form.word c = true) → form.word d = false →
      motive rest → motive (run ++ d :: rest)) (text : List Char) : motive text := by
  induction size : text.length using Nat.strongRecOn generalizing text with
  | ind size ih =>
      have whole := List.takeWhile_append_dropWhile (p := form.word) (l := text)
      have words : ∀ c ∈ text.takeWhile form.word, form.word c = true :=
        fun c member => List.mem_takeWhile_imp member
      cases later : text.dropWhile form.word with
      | nil =>
          rw [later, List.append_nil] at whole
          rw [← whole]
          exact run _ words
      | cons d rest =>
          have divides : form.word d = false := by
            have head := List.head_dropWhile_not form.word (l := text) (by rw [later]; exact nofun)
            simpa [later] using head
          rw [later] at whole
          rw [← whole]
          refine divided _ d rest words divides (ih rest.length ?_ rest rfl)
          rw [← size, ← whole, List.length_append, List.length_cons]
          omega

theorem mem_placeholders_of_cut {text run before key after : List Char} (member : run ∈ form.runs text)
    (parts : form.cut run = some (before, key, after)) : key ∈ form.placeholders text := by
  have own {run : List Char} (words : ∀ c ∈ run, form.word c = true)
      (parts : form.cut run = some (before, key, after)) : Piece.placeholder key ∈ form.pieces run := by
    rw [(cut_some words parts).2.2.1]
    exact List.mem_append_right _ List.mem_cons_self
  have found : Piece.placeholder key ∈ form.pieces text := by
    induction text using @text_induction form with
    | run whole words =>
        rw [runs_of_words words, List.mem_singleton] at member
        subst member
        exact own words parts
    | divided first d rest words divides ih =>
        rw [runs_divided words divides] at member
        rw [pieces_divided words divides]
        rcases List.mem_cons.mp member with rfl | later
        · exact List.mem_append_left _ (own words parts)
        · exact List.mem_append_right _ (List.mem_cons_of_mem _ (ih later))
  exact List.mem_filterMap.mpr ⟨_, found, rfl⟩

/-! ### Replacing one key after the other -/

/-- What a run holds once the keys of a mapping are replaced: the placeholder, or the run with its
value. -/
def standing (done : List (List Char × List Char)) (before placeholder after : List Char) :
    List Char :=
  match done.lookup placeholder with
  | some value => before ++ value ++ after
  | none => placeholder

/-- The replacement of a key does not touch the placeholder of a run that is another one. -/
def Untouched (form : Syntax) (done : List (List Char × List Char)) (key value run : List Char) :
    Prop :=
  ∀ before placeholder after, form.cut run = some (before, placeholder, after) →
    placeholder ≠ key → value ≠ key → ¬ key <:+: standing done before placeholder after

theorem instantiate_divided {mapping : List (List Char × List Char)} {run rest : List Char}
    {d : Char} (words : ∀ c ∈ run, form.word c = true) (divides : form.word d = false) :
    form.instantiate mapping (run ++ d :: rest) =
      form.instantiate mapping run ++ d :: form.instantiate mapping rest := by
  rw [instantiate, pieces_divided words divides, List.flatMap_append, List.flatMap_cons]
  rfl

theorem flatMap_chars (mapping : List (List Char × List Char)) (text : List Char) :
    ((text.map Piece.char).flatMap fun
      | .char c => [c]
      | .placeholder text => (mapping.lookup text).getD text) = text := by
  rw [List.flatMap_map]
  exact List.flatMap_singleton' text

theorem instantiate_uncut {mapping : List (List Char × List Char)} {run : List Char}
    (words : ∀ c ∈ run, form.word c = true) (uncut : form.cut run = none) :
    form.instantiate mapping run = run := by
  rw [instantiate, (cut_none words uncut).1, flatMap_chars]

theorem instantiate_cut {mapping : List (List Char × List Char)} {run before key after : List Char}
    (words : ∀ c ∈ run, form.word c = true) (parts : form.cut run = some (before, key, after)) :
    form.instantiate mapping run = before ++ (mapping.lookup key).getD key ++ after := by
  obtain ⟨_, _, found, _⟩ := cut_some words parts
  rw [instantiate, found, List.flatMap_append, flatMap_chars, List.flatMap_cons, flatMap_chars,
    List.append_assoc]

theorem lookup_concat {done : List (List Char × List Char)} {key value other : List Char}
    (fresh : done.lookup key = none) :
    (done ++ [(key, value)]).lookup other = if other = key then some value else done.lookup other := by
  rw [List.lookup_append]
  by_cases same : other = key
  · rw [if_pos same, same, fresh, List.lookup_cons_self, Option.none_or]
  · rw [if_neg same, List.lookup_cons, beq_eq_false_iff_ne.mpr same]
    simp

/-- On a run, replacing a key is replacing its placeholders exactly if it touches no other one. -/
theorem replace_run_iff {done : List (List Char × List Char)} {key value run : List Char}
    (words : ∀ c ∈ run, form.word c = true) (isKey : form.IsKey key)
    (fresh : done.lookup key = none) :
    replace key value (form.instantiate done run) =
        form.instantiate (done ++ [(key, value)]) run ↔
      Untouched form done key value run := by
  cases parts : form.cut run with
  | none =>
      have kept := @replace_of_absent key value _ ((cut_none words parts).2 key isKey)
      rw [instantiate_uncut words parts, instantiate_uncut words parts, kept]
      exact iff_of_true rfl fun before placeholder after found => by
        rw [parts] at found
        cases found
  | some cutting =>
      obtain ⟨before, placeholder, after⟩ := cutting
      obtain ⟨whole, _, _, holds, once⟩ := cut_some words parts
      rw [instantiate_cut words parts, instantiate_cut words parts, lookup_concat fresh]
      by_cases own : placeholder = key
      · subst own
        rw [if_pos rfl, fresh, Option.getD_none, Option.getD_some]
        refine iff_of_true (replace_once isKey.ne_nil (whole ▸ once)) ?_
        intro front other back found distinct
        rw [parts] at found
        cases found
        exact absurd rfl distinct
      · have state : Untouched form done key value run ↔
            (value ≠ key → ¬ key <:+: standing done before placeholder after) := by
          constructor
          · exact fun untouched => untouched before placeholder after parts own
          · intro untouched front other back found _
            rw [parts] at found
            cases found
            exact untouched
        rw [if_neg own, replace_eq_self_iff_of_ne_nil isKey.ne_nil, state, standing]
        cases found : done.lookup placeholder with
        | some filled =>
            rw [Option.getD_some]
            exact or_iff_not_imp_left
        | none =>
            have inside : key <:+: before ++ placeholder ++ after ↔ key <:+: placeholder :=
              ⟨fun occurs => holds key isKey (whole ▸ occurs),
                fun occurs => occurs.trans ⟨before, after, rfl⟩⟩
            rw [Option.getD_none, inside]
            exact or_iff_not_imp_left

section Step

variable {done : List (List Char × List Char)} {key value : List Char} (isKey : form.IsKey key)
  (fresh : done.lookup key = none)
include isKey fresh

omit fresh in
theorem replace_key_divided {first rest : List Char} {d : Char} (divides : form.word d = false) :
    replace key value (first ++ d :: rest) =
      replace key value first ++ d :: replace key value rest := by
  refine replace_divided isKey.ne_nil fun member => ?_
  rw [isKey.words d member] at divides
  cases divides

/-- What is touched as well gets longer or shorter like the placeholders of the key. -/
theorem replace_run_or {run : List Char} (words : ∀ c ∈ run, form.word c = true) :
    replace key value (form.instantiate done run) =
        form.instantiate (done ++ [(key, value)]) run ∨
      form.instantiate (done ++ [(key, value)]) run = form.instantiate done run := by
  cases parts : form.cut run with
  | none => exact .inr (by rw [instantiate_uncut words parts, instantiate_uncut words parts])
  | some cutting =>
      obtain ⟨before, placeholder, after⟩ := cutting
      by_cases own : placeholder = key
      · refine .inl ((replace_run_iff words isKey fresh).mpr ?_)
        intro front other back found distinct
        rw [parts] at found
        cases found
        exact absurd own distinct
      · refine .inr ?_
        rw [instantiate_cut words parts, instantiate_cut words parts, lookup_concat fresh,
          if_neg own]

theorem length_instantiate_le (longer : key.length ≤ value.length) (text : List Char) :
    (form.instantiate (done ++ [(key, value)]) text).length ≤
      (replace key value (form.instantiate done text)).length := by
  induction text using @text_induction form with
  | run run words =>
      rcases replace_run_or isKey fresh words with same | kept
      · rw [same]
      · rw [kept]
        exact le_length_replace isKey.ne_nil longer
  | divided run d rest words divides ih =>
      rw [instantiate_divided words divides, instantiate_divided words divides,
        replace_key_divided isKey divides, List.length_append, List.length_append,
        List.length_cons, List.length_cons]
      rcases replace_run_or isKey fresh words with same | kept
      · rw [same]
        omega
      · have first := @le_length_replace key value (form.instantiate done run) isKey.ne_nil longer
        rw [kept]
        omega

theorem le_length_instantiate (shorter : value.length ≤ key.length) (text : List Char) :
    (replace key value (form.instantiate done text)).length ≤
      (form.instantiate (done ++ [(key, value)]) text).length := by
  induction text using @text_induction form with
  | run run words =>
      rcases replace_run_or isKey fresh words with same | kept
      · rw [same]
      · rw [kept]
        exact length_replace_le shorter
  | divided run d rest words divides ih =>
      rw [instantiate_divided words divides, instantiate_divided words divides,
        replace_key_divided isKey divides, List.length_append, List.length_append,
        List.length_cons, List.length_cons]
      rcases replace_run_or isKey fresh words with same | kept
      · rw [same]
        omega
      · have first := @length_replace_le key value (form.instantiate done run) shorter
        rw [kept]
        omega

/-- Replacing a key is replacing its placeholders exactly if it touches no other one. -/
theorem replace_iff (text : List Char) :
    replace key value (form.instantiate done text) =
        form.instantiate (done ++ [(key, value)]) text ↔
      ∀ run ∈ form.runs text, Untouched form done key value run := by
  induction text using @text_induction form with
  | run run words =>
      rw [runs_of_words words, List.forall_mem_singleton, replace_run_iff words isKey fresh]
  | divided run d rest words divides ih =>
      rw [runs_divided words divides, List.forall_mem_cons, ← replace_run_iff words isKey fresh,
        ← ih, instantiate_divided words divides, instantiate_divided words divides,
        replace_key_divided isKey divides]
      constructor
      · intro same
        have total := congrArg List.length same
        simp only [List.length_append, List.length_cons] at total
        -- Both sides have grown, or both have shrunk, so the runs are of one length.
        have lengths : (replace key value (form.instantiate done run)).length =
            (form.instantiate (done ++ [(key, value)]) run).length := by
          rcases Nat.le_total key.length value.length with longer | shorter
          · have first := length_instantiate_le isKey fresh longer run
            have later := length_instantiate_le isKey fresh longer rest
            omega
          · have first := le_length_instantiate isKey fresh shorter run
            have later := le_length_instantiate isKey fresh shorter rest
            omega
        obtain ⟨first, later⟩ := List.append_inj same lengths
        exact ⟨first, (List.cons.inj later).2⟩
      · rintro ⟨first, later⟩
        rw [first, later]

end Step

def replaceEach (mapping : List (List Char × List Char)) (text : List Char) : List Char :=
  mapping.foldl (fun text item => replace item.1 item.2 text) text

theorem replaceEach_concat (done : List (List Char × List Char)) (item : List Char × List Char)
    (text : List Char) :
    replaceEach (done ++ [item]) text = replace item.1 item.2 (replaceEach done text) := by
  rw [replaceEach, List.foldl_append]
  rfl

theorem instantiate_nil (text : List Char) : form.instantiate [] text = text := by
  induction text using @text_induction form with
  | run run words =>
      cases parts : form.cut run with
      | none => exact instantiate_uncut words parts
      | some cutting =>
          obtain ⟨before, placeholder, after⟩ := cutting
          rw [instantiate_cut words parts, (cut_some words parts).1]
          rfl
  | divided run d rest words divides ih =>
      cases parts : form.cut run with
      | none => rw [instantiate_divided words divides, instantiate_uncut words parts, ih]
      | some cutting =>
          obtain ⟨before, placeholder, after⟩ := cutting
          rw [instantiate_divided words divides, instantiate_cut words parts, ih,
            (cut_some words parts).1]
          rfl

/-- After each replacement of the loop, exactly the placeholders of the keys so far have their
values. -/
def Steady (form : Syntax) (order : List (List Char × List Char)) (text : List Char) : Prop :=
  ∀ count, replaceEach (order.take count) text = form.instantiate (order.take count) text

theorem steady_iff {order : List (List Char × List Char)} (unique : (order.map Prod.fst).Nodup)
    (isKey : ∀ item ∈ order, form.IsKey item.1) (text : List Char) :
    Steady form order text ↔
      ∀ done key value rest, order = done ++ (key, value) :: rest →
        ∀ run ∈ form.runs text, Untouched form done key value run := by
  have fresh {done rest : List (List Char × List Char)} {key value : List Char}
      (split : order = done ++ (key, value) :: rest) : done.lookup key = none := by
    rw [split, List.map_append, List.map_cons] at unique
    rw [List.lookup_eq_none_iff]
    intro item member
    have distinct := (List.nodup_append.mp unique).2.2 item.1 (List.mem_map_of_mem member) key
      List.mem_cons_self
    simpa using distinct.symm
  constructor
  · intro steady done key value rest split
    have before := steady done.length
    have after := steady (done.length + 1)
    rw [split, List.take_left] at before
    have taken : order.take (done.length + 1) = done ++ [(key, value)] := by
      rw [split, List.take_append, List.take_of_length_le (by omega)]
      simp
    rw [taken, replaceEach_concat, before] at after
    exact (replace_iff (isKey _ (split ▸ by simp)) (fresh split) text).mp after
  · intro untouched count
    induction count with
    | zero => rw [List.take_zero, instantiate_nil]; rfl
    | succ count ih =>
        by_cases more : count < order.length
        · have split : order = order.take count ++ order[count] :: order.drop (count + 1) := by
            rw [List.getElem_cons_drop, List.take_append_drop]
          rw [List.take_succ_eq_append_getElem more, replaceEach_concat, ih]
          exact (replace_iff (isKey _ (List.getElem_mem more)) (fresh split) text).mpr
            (untouched _ _ _ _ split)
        · have full : order.take (count + 1) = order.take count := by
            rw [List.take_of_length_le (by omega), List.take_of_length_le (by omega)]
          rw [full, ih]

theorem Steady.whole {order : List (List Char × List Char)} {text : List Char}
    (steady : Steady form order text) : replaceEach order text = form.instantiate order text := by
  have last := steady order.length
  rwa [List.take_length] at last

end Syntax

end CogniDQ.Text
