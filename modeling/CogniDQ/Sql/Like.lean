import Mathlib.Data.List.Infix

/-!
# LIKE patterns

A pattern of `LIKE`, read with the backslash as its escape character: a percent sign stands for any
text, an underscore for any character. A pattern between percent signs is a search for a text where it
holds none of the three.
-/

set_option autoImplicit false

namespace CogniDQ.Sql

inductive LikeItem where
  | literal (c : Char)
  | one
  | any
deriving DecidableEq, Repr

/-- The items of a pattern. One that ends with the escape character is an error. -/
def likeItems : List Char → Option (List LikeItem)
  | [] => some []
  | ['\\'] => none
  | '\\' :: c :: rest => (likeItems rest).map (LikeItem.literal c :: ·)
  | '%' :: rest => (likeItems rest).map (LikeItem.any :: ·)
  | '_' :: rest => (likeItems rest).map (LikeItem.one :: ·)
  | c :: rest => (likeItems rest).map (LikeItem.literal c :: ·)

def likeMatches : List LikeItem → List Char → Bool
  | [], text => text.isEmpty
  | .any :: rest, text => text.tails.any (likeMatches rest)
  | .one :: _, [] => false
  | .one :: rest, _ :: text => likeMatches rest text
  | .literal _ :: _, [] => false
  | .literal c :: rest, d :: text => c == d && likeMatches rest text

def like (pattern text : List Char) : Option Bool :=
  (likeItems pattern).map fun items => likeMatches items text

def isPlainLike (c : Char) : Bool := c != '%' && c != '_' && c != '\\'

theorem isPlainLike_iff {c : Char} : isPlainLike c = true ↔ c ≠ '%' ∧ c ≠ '_' ∧ c ≠ '\\' := by
  simp only [isPlainLike, Bool.and_eq_true, bne_iff_ne, and_assoc]

theorem likeItems_cons {c : Char} (plain : isPlainLike c = true) (rest : List Char) :
    likeItems (c :: rest) = (likeItems rest).map (LikeItem.literal c :: ·) := by
  obtain ⟨noPercent, noUnderscore, noEscape⟩ := isPlainLike_iff.mp plain
  rw [likeItems]
  all_goals simp_all

theorem likeItems_plain {pattern : List Char} (plain : ∀ c ∈ pattern, isPlainLike c = true)
    (rest : List Char) :
    likeItems (pattern ++ rest) =
      (likeItems rest).map (pattern.map LikeItem.literal ++ ·) := by
  induction pattern with
  | nil => exact Option.map_id'.symm
  | cons c pattern ih =>
    have later := ih fun other member => plain other (List.mem_cons_of_mem _ member)
    rw [List.cons_append, likeItems_cons (plain c List.mem_cons_self), later]
    cases likeItems rest <;> rfl

theorem likeMatches_any {items : List LikeItem} {text : List Char} :
    likeMatches (.any :: items) text = true ↔ ∃ rest, rest <:+ text ∧ likeMatches items rest = true := by
  rw [likeMatches, List.any_eq_true]
  simp only [List.mem_tails]

theorem likeMatches_last {text : List Char} : likeMatches [.any] text = true :=
  likeMatches_any.mpr ⟨[], List.nil_suffix, rfl⟩

theorem likeMatches_literals {pattern text : List Char} :
    likeMatches (pattern.map LikeItem.literal ++ [.any]) text = true ↔ pattern <+: text := by
  induction pattern generalizing text with
  | nil => exact iff_of_true likeMatches_last List.nil_prefix
  | cons c pattern ih =>
    cases text with
    | nil => simp [likeMatches]
    | cons d text =>
      rw [List.map_cons, List.cons_append, likeMatches, Bool.and_eq_true, beq_iff_eq, ih,
        List.cons_prefix_cons]

/-- A pattern of plain characters between percent signs is looked for in the text. -/
theorem like_search {pattern : List Char} (plain : ∀ c ∈ pattern, isPlainLike c = true)
    (text : List Char) :
    like ('%' :: pattern ++ ['%']) text = some (decide (pattern <:+: text)) := by
  have items : likeItems ('%' :: pattern ++ ['%']) =
      some (.any :: (pattern.map LikeItem.literal ++ [.any])) := by
    have inner := likeItems_plain plain ['%']
    rw [List.cons_append, likeItems, inner]
    rfl
  rw [like, items, Option.map_some, Option.some.injEq, Bool.eq_iff_iff, decide_eq_true_eq,
    likeMatches_any]
  simp only [likeMatches_literals]
  rw [List.infix_iff_prefix_suffix]
  exact exists_congr fun rest => and_comm

/-! ## Patterns that are more than a search -/

/-- The shortest text that a pattern and a percent sign match: nothing for a percent sign, another
character for an underscore. -/
def likeSample : List Char → List Char
  | [] => []
  | ['\\'] => ['%']
  | '\\' :: c :: rest => c :: likeSample rest
  | '%' :: rest => likeSample rest
  | '_' :: rest => 'x' :: likeSample rest
  | c :: rest => c :: likeSample rest

theorem likeSample_matches (pattern : List Char) :
    ∃ items, likeItems (pattern ++ ['%']) = some items ∧
      likeMatches items (likeSample pattern) = true := by
  fun_induction likeSample pattern with
  | case1 => exact ⟨_, rfl, rfl⟩
  | case2 => exact ⟨_, rfl, rfl⟩
  | case3 c rest ih =>
    obtain ⟨items, found, matched⟩ := ih
    refine ⟨.literal c :: items, ?_, ?_⟩
    · rw [List.cons_append, List.cons_append, likeItems, found]
      rfl
    · rw [likeMatches, matched, beq_self_eq_true, Bool.and_self]
  | case4 rest ih =>
    obtain ⟨items, found, matched⟩ := ih
    refine ⟨.any :: items, ?_, ?_⟩
    · rw [List.cons_append, likeItems, found]
      rfl
    · exact likeMatches_any.mpr ⟨_, List.suffix_refl _, matched⟩
  | case5 rest ih =>
    obtain ⟨items, found, matched⟩ := ih
    refine ⟨.one :: items, ?_, ?_⟩
    · rw [List.cons_append, likeItems, found]
      rfl
    · exact matched
  | case6 c rest noEnd noEscape noPercent noUnderscore ih =>
    obtain ⟨items, found, matched⟩ := ih
    have noBackslash : c ≠ '\\' := by
      intro same
      cases rest with
      | nil => exact noEnd same rfl
      | cons d rest => exact noEscape d rest same rfl
    refine ⟨.literal c :: items, ?_, ?_⟩
    · rw [List.cons_append, likeItems_cons (isPlainLike_iff.mpr
        ⟨noPercent, noUnderscore, noBackslash⟩), found]
      rfl
    · rw [likeMatches, matched, beq_self_eq_true, Bool.and_self]

theorem length_likeSample (pattern : List Char) : (likeSample pattern).length ≤ pattern.length := by
  fun_induction likeSample pattern with
  | case1 => exact le_rfl
  | case2 => exact le_rfl
  | case3 c rest ih =>
    simp only [List.length_cons]
    omega
  | case4 rest ih =>
    simp only [List.length_cons]
    omega
  | case5 rest ih => exact Nat.succ_le_succ ih
  | case6 c rest noEnd noEscape noPercent noUnderscore ih => exact Nat.succ_le_succ ih

theorem plain_of_likeSample_eq {pattern : List Char} (same : likeSample pattern = pattern) :
    ∀ c ∈ pattern, isPlainLike c = true := by
  fun_induction likeSample pattern with
  | case1 => exact fun _ member => nomatch member
  | case2 => exact absurd same (by decide)
  | case3 c rest ih =>
    have shorter := length_likeSample rest
    have longer := congrArg List.length same
    simp only [List.length_cons] at longer
    omega
  | case4 rest ih =>
    have shorter := length_likeSample rest
    have longer := congrArg List.length same
    simp only [List.length_cons] at longer
    omega
  | case5 rest ih => exact absurd (List.cons.inj same).1 (by decide)
  | case6 c rest noEnd noEscape noPercent noUnderscore ih =>
    have noBackslash : c ≠ '\\' := by
      intro isEscape
      cases rest with
      | nil => exact noEnd isEscape rfl
      | cons d rest => exact noEscape d rest isEscape rfl
    intro other member
    rcases List.mem_cons.mp member with rfl | later
    · exact isPlainLike_iff.mpr ⟨noPercent, noUnderscore, noBackslash⟩
    · exact ih (List.cons.inj same).2 other later

theorem like_sample {pattern : List Char} (special : ¬∀ c ∈ pattern, isPlainLike c = true) :
    like ('%' :: pattern ++ ['%']) (likeSample pattern) = some true ∧
      ¬pattern <:+: likeSample pattern := by
  constructor
  · obtain ⟨items, found, matched⟩ := likeSample_matches pattern
    rw [like, List.cons_append, likeItems, found]
    exact congrArg some (likeMatches_any.mpr ⟨_, List.suffix_refl _, matched⟩)
  · intro inside
    exact special (plain_of_likeSample_eq
      (inside.eq_of_length (inside.length_le.antisymm (length_likeSample pattern))).symm)

end CogniDQ.Sql
