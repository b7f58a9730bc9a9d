import Mathlib.Data.List.Infix
import Mathlib.Data.List.Perm.Basic
import Mathlib.Data.List.ReduceOption
import Mathlib.Algebra.GroupWithZero.Nat

/-!
# Masking words in a text

A masked text is a list of kept characters and marks. `mask` puts one mark for every block of
overlapping occurrences of some words; `hideAll` hides the words one after the other, from the left and
without overlaps. Hiding never makes fewer marks or keeps fewer characters than masking, and does the
same in every order exactly when no two occurrences overlap.
-/

set_option autoImplicit false

namespace CogniDQ.Text

variable {α : Type} [DecidableEq α]

/-! ### Hiding -/

/-- The occurrences of a word, from the left and without overlaps, each become a mark. `skip` counts
the characters of an occurrence still to be passed over. -/
def hideFrom (word : List α) : Nat → List (Option α) → List (Option α)
  | _, [] => []
  | skip + 1, _ :: rest => hideFrom word skip rest
  | 0, piece :: rest =>
    if (word.map some).isPrefixOf (piece :: rest) then none :: hideFrom word (word.length - 1) rest
    else piece :: hideFrom word 0 rest

def hide (word : List α) (text : List (Option α)) : List (Option α) := hideFrom word 0 text

def hideAll (words : List (List α)) (text : List (Option α)) : List (Option α) :=
  words.foldl (fun text word => hide word text) text

@[simp] theorem hideAll_cons (word : List α) (words : List (List α)) (text : List (Option α)) :
    hideAll (word :: words) text = hideAll words (hide word text) := rfl

/-! ### Masking -/

/-- How far the longest of the words goes that begin at the head of a text. -/
def reach (words : List (List α)) (text : List α) : Nat :=
  ((words.filter fun word => word.isPrefixOf text).map List.length).foldr max 0

/-- `left` counts the characters that still belong to the block. -/
def maskFrom (words : List (List α)) : Nat → List α → List (Option α)
  | _, [] => []
  | 0, c :: rest =>
    match reach words (c :: rest) with
    | 0 => some c :: maskFrom words 0 rest
    | span + 1 => none :: maskFrom words span rest
  | left + 1, c :: rest => maskFrom words (max left (reach words (c :: rest) - 1)) rest

def mask (words : List (List α)) (text : List α) : List (Option α) := maskFrom words 0 text

/-- Whether a character belongs to an occurrence of a word. -/
def covered (words : List (List α)) (text : List α) (position : Nat) : Bool :=
  (List.range (position + 1)).any fun start => words.any fun word =>
    word.isPrefixOf (text.drop start) && decide (position < start + word.length)

/-- Overlapping occurrences are the same. -/
def Separate (words : List (List α)) (text : List α) : Prop :=
  ∀ first ∈ words, ∀ second ∈ words, ∀ start begin_,
    first <+: text.drop start → second <+: text.drop begin_ →
      begin_ < start + first.length → start < begin_ + second.length →
        start = begin_ ∧ first = second

variable {words : List (List α)} {text rest : List α} {word : List α}

theorem length_le_reach (member : word ∈ words) (found : word <+: text) :
    word.length ≤ reach words text := by
  have bound (lengths : List Nat) (n : Nat) (listed : n ∈ lengths) : n ≤ lengths.foldr max 0 := by
    induction lengths with
    | nil => cases listed
    | cons m lengths ih =>
      rcases List.mem_cons.mp listed with rfl | later
      · exact le_max_left _ _
      · exact (ih later).trans (le_max_right _ _)
  exact bound _ _ (List.mem_map_of_mem (List.mem_filter.mpr
    ⟨member, List.isPrefixOf_iff_prefix.mpr found⟩))

theorem exists_of_reach (positive : 0 < reach words text) :
    ∃ word ∈ words, word <+: text ∧ word.length = reach words text := by
  have attained (lengths : List Nat) (positive : 0 < lengths.foldr max 0) :
      lengths.foldr max 0 ∈ lengths := by
    induction lengths with
    | nil => cases positive
    | cons m lengths ih =>
      rw [List.foldr_cons] at positive ⊢
      rcases le_total (lengths.foldr max 0) m with small | large
      · rw [max_eq_left small]
        exact List.mem_cons_self
      · rw [max_eq_right large] at positive ⊢
        exact List.mem_cons_of_mem _ (ih positive)
  obtain ⟨word, listed, length⟩ := List.mem_map.mp (attained _ positive)
  obtain ⟨member, found⟩ := List.mem_filter.mp listed
  exact ⟨word, member, List.isPrefixOf_iff_prefix.mp found, length⟩

theorem reach_le_length : reach words text ≤ text.length := by
  rcases Nat.eq_zero_or_pos (reach words text) with none | positive
  · omega
  · obtain ⟨word, -, found, length⟩ := exists_of_reach positive
    exact length ▸ found.length_le

theorem reach_perm {others : List (List α)} (perm : words.Perm others) (text : List α) :
    reach words text = reach others text :=
  ((perm.filter _).map _).foldr_eq 0

theorem mask_perm {others : List (List α)} (perm : words.Perm others) (text : List α) :
    mask words text = mask others text := by
  have same (left : Nat) : maskFrom words left text = maskFrom others left text := by
    induction text generalizing left with
    | nil => simp [maskFrom]
    | cons c rest ih =>
      cases left with
      | zero => simp only [maskFrom, reach_perm perm, ih]
      | succ left => simp only [maskFrom, reach_perm perm, ih]
  exact same 0

/-! ### What a mask keeps -/

theorem lt_reach_iff {count : Nat} :
    count < reach words text ↔ ∃ word ∈ words, word <+: text ∧ count < word.length := by
  constructor
  · intro less
    obtain ⟨word, member, found, length⟩ := exists_of_reach (Nat.zero_lt_of_lt less)
    exact ⟨word, member, found, length ▸ less⟩
  · rintro ⟨word, member, found, less⟩
    exact less.trans_le (length_le_reach member found)

theorem covered_iff {position : Nat} :
    covered words text position = true ↔
      ∃ start ≤ position, position - start < reach words (text.drop start) := by
  simp only [covered, List.any_eq_true, List.mem_range, Bool.and_eq_true, decide_eq_true_eq,
    List.isPrefixOf_iff_prefix, lt_reach_iff]
  constructor
  · rintro ⟨start, before, word, member, found, within⟩
    exact ⟨start, by omega, word, member, found, by omega⟩
  · rintro ⟨start, before, word, member, found, within⟩
    exact ⟨start, by omega, word, member, found, by omega⟩

theorem covered_succ {c : α} {position : Nat} :
    covered words (c :: rest) (position + 1) =
      (decide (position + 1 < reach words (c :: rest)) || covered words rest position) := by
  rw [Bool.eq_iff_iff, Bool.or_eq_true, decide_eq_true_eq, covered_iff, covered_iff]
  constructor
  · rintro ⟨start, before, within⟩
    cases start with
    | zero => exact .inl within
    | succ start => exact .inr ⟨start, by omega, by simpa using within⟩
  · rintro (first | ⟨start, before, within⟩)
    · exact ⟨0, by omega, first⟩
    · exact ⟨start + 1, by omega, by simpa using within⟩

theorem covered_zero {c : α} :
    covered words (c :: rest) 0 = decide (0 < reach words (c :: rest)) := by
  rw [Bool.eq_iff_iff, decide_eq_true_eq, covered_iff]
  constructor
  · rintro ⟨start, before, within⟩
    obtain rfl : start = 0 := by omega
    exact within
  · intro within
    exact ⟨0, Nat.le_refl 0, within⟩

/-- A mask keeps the characters that belong to no occurrence. -/
theorem reduceOption_mask (words : List (List α)) (text : List α) :
    (mask words text).reduceOption =
      (text.zipIdx.filter fun entry => !covered words text entry.2).map (·.1) := by
  have kept (left : Nat) : (maskFrom words left text).reduceOption =
      (text.zipIdx.filter fun entry =>
        decide (left ≤ entry.2) && !covered words text entry.2).map (·.1) := by
    induction text generalizing left with
    | nil => cases left <;> rfl
    | cons c rest ih =>
      -- What the head covers of the rest is what is left of its block.
      have later (left : Nat) (behind : Nat)
          (same : behind = max left (reach words (c :: rest)) - 1) :
          ((c :: rest).zipIdx.filter fun entry =>
            decide (left ≤ entry.2) && !covered words (c :: rest) entry.2).map (·.1) =
          (if left = 0 ∧ reach words (c :: rest) = 0 then [c] else []) ++
            (maskFrom words behind rest).reduceOption := by
        rw [ih behind, List.zipIdx_cons, Nat.zero_add, List.zipIdx_succ, List.filter_cons,
          List.filter_map, covered_zero]
        have tail : (rest.zipIdx.filter ((fun entry =>
            decide (left ≤ entry.2) && !covered words (c :: rest) entry.2) ∘
              fun entry => (entry.1, entry.2 + 1))) =
            rest.zipIdx.filter fun entry =>
              decide (behind ≤ entry.2) && !covered words rest entry.2 := by
          refine List.filter_congr fun entry _ => ?_
          simp only [Function.comp_apply, covered_succ]
          rw [Bool.eq_iff_iff]
          simp only [Bool.and_eq_true, Bool.not_eq_true', Bool.or_eq_false_iff,
            decide_eq_true_eq, decide_eq_false_iff_not]
          constructor
          · rintro ⟨after, short, free⟩
            exact ⟨by omega, free⟩
          · rintro ⟨after, free⟩
            exact ⟨by omega, by omega, free⟩
        rw [tail]
        split_ifs with head fresh fresh
        · simp
        · simp at head
          omega
        · simp at head
          omega
        · simp
      cases left with
      | zero =>
        rw [later 0 (reach words (c :: rest) - 1) (by omega)]
        simp only [maskFrom]
        split
        · rename_i none
          simp [none]
        · rename_i span some
          simp [some]
      | succ left =>
        rw [later (left + 1) (max left (reach words (c :: rest) - 1)) (by omega)]
        simp [maskFrom]
  have whole := kept 0
  simpa only [mask, Nat.zero_le, decide_true, Bool.true_and] using whole

section Pieces

omit [DecidableEq α]

/-! ### Masked texts -/

inductive Hides : List α → List (Option α) → Prop
  | nil : Hides [] []
  | keep {text : List α} {masked : List (Option α)} (c : α) :
      Hides text masked → Hides (c :: text) (some c :: masked)
  | mark {text : List α} {masked : List (Option α)} {word : List α} :
      word ≠ [] → Hides text masked → Hides (word ++ text) (none :: masked)

theorem Hides.kept (text : List α) : Hides text (text.map some) := by
  induction text with
  | nil => exact .nil
  | cons c rest ih => exact .keep c ih

variable {masked more : List (Option α)}

theorem Hides.prefix_of_kept (hides : Hides text masked) (found : word.map some <+: masked) :
    word <+: text := by
  induction hides generalizing word with
  | nil => simpa using found
  | keep c hides ih =>
    cases word with
    | nil => exact List.nil_prefix
    | cons d word =>
      rw [List.map_cons, List.cons_prefix_cons] at found
      obtain ⟨same, found⟩ := found
      rw [Option.some.inj same, List.cons_prefix_cons]
      exact ⟨rfl, ih found⟩
  | mark given hides ih =>
    cases word with
    | nil => exact List.nil_prefix
    | cons d word => simp at found

theorem Hides.length_le (hides : Hides text masked) : masked.length ≤ text.length := by
  induction hides with
  | nil => exact Nat.le_refl 0
  | keep c hides ih => simpa using ih
  | mark given hides ih =>
    have := List.length_pos_iff.mpr given
    rw [List.length_cons, List.length_append]
    omega

theorem Hides.split {first second : List (Option α)} (hides : Hides text (first ++ second)) :
    ∃ before after, text = before ++ after ∧ Hides before first ∧ Hides after second := by
  induction first generalizing text with
  | nil => exact ⟨[], text, rfl, .nil, hides⟩
  | cons piece first ih =>
    cases hides with
    | keep c hides =>
      obtain ⟨before, after, rfl, left, right⟩ := ih hides
      exact ⟨c :: before, after, rfl, .keep c left, right⟩
    | @mark _ _ word given hides =>
      obtain ⟨before, after, rfl, left, right⟩ := ih hides
      exact ⟨word ++ before, after, (List.append_assoc ..).symm, .mark given left, right⟩

theorem Hides.append {before after : List α} {first second : List (Option α)}
    (left : Hides before first) (right : Hides after second) :
    Hides (before ++ after) (first ++ second) := by
  induction left with
  | nil => exact right
  | keep c _ ih => exact .keep c ih
  | mark given _ ih =>
    rw [List.append_assoc]
    exact .mark given ih

theorem Hides.eq_of_kept (hides : Hides text (word.map some)) : text = word := by
  induction word generalizing text with
  | nil =>
    cases hides
    rfl
  | cons c word ih =>
    cases hides with
    | keep c hides => rw [ih hides]

/-- No word takes characters of both texts. -/
def Closed (words : List (List α)) (block rest : List α) : Prop :=
  ∀ word ∈ words, ∀ front back, block = front ++ back → back ≠ [] →
    word <+: back ++ rest → word <+: back

/-- A word that takes no characters of both texts takes none of both masked texts. -/
theorem Hides.closed {block rest : List α} {front back more : List (Option α)}
    (closed : Closed [word] block rest) (left : Hides block (front ++ back))
    (right : Hides rest more) (given : back ≠ []) (found : word.map some <+: back ++ more) :
    word.map some <+: back := by
  obtain ⟨before, after, rfl, -, inBlock⟩ := left.split
  have nonempty : after ≠ [] := by
    rintro rfl
    have := inBlock.length_le
    exact given (List.length_eq_zero_iff.mp (by simpa using this))
  have inText := closed word List.mem_cons_self before after rfl nonempty
    ((inBlock.append right).prefix_of_kept found)
  refine List.prefix_of_prefix_length_le found (List.prefix_append back more) ?_
  by_contra longer
  rw [not_le] at longer
  -- Then everything up to the border is kept, and the word is no longer than that.
  have within : back <+: word.map some :=
    List.prefix_of_prefix_length_le (List.prefix_append back more) found longer.le
  obtain ⟨shorter, -, rfl⟩ : ∃ shorter, shorter <+: word ∧ back = shorter.map some := by
    obtain ⟨tail, whole⟩ := within
    obtain ⟨shorter, others, rfl, same, -⟩ := List.map_eq_append_iff.mp whole.symm
    exact ⟨shorter, List.prefix_append _ _, same.symm⟩
  obtain rfl := inBlock.eq_of_kept
  have := inText.length_le
  simp only [List.length_map] at longer
  omega

end Pieces

/-! ### One word at a time -/

section Hiding

variable {masked more : List (Option α)}

theorem hideFrom_append {passed : List (Option α)} :
    hideFrom word passed.length (passed ++ more) = hide word more := by
  induction passed with
  | nil => rfl
  | cons piece passed ih => exact ih

theorem hide_found (given : word ≠ []) :
    hide word (word.map some ++ more) = none :: hide word more := by
  obtain ⟨c, tail, rfl⟩ := List.exists_cons_of_ne_nil given
  have found : ((c :: tail).map some).isPrefixOf (some c :: (tail.map some ++ more)) = true :=
    List.isPrefixOf_iff_prefix.mpr (List.prefix_append _ _)
  have passed := @hideFrom_append α _ (c :: tail) more (tail.map some)
  rw [List.length_map] at passed
  simp only [List.map_cons, List.cons_append, hide, hideFrom] at found ⊢
  rw [if_pos found]
  exact congrArg _ passed

theorem hide_cons {piece : Option α} (absent : ¬word.map some <+: piece :: masked) :
    hide word (piece :: masked) = piece :: hide word masked := by
  rw [← List.isPrefixOf_iff_prefix] at absent
  simp only [hide, hideFrom]
  rw [if_neg absent]

theorem hide_mark (given : word ≠ []) :
    hide word (none :: masked) = none :: hide word masked := by
  obtain ⟨c, tail, rfl⟩ := List.exists_cons_of_ne_nil given
  exact hide_cons (by simp)

/-- A masked text is hidden from left to right: an occurrence, or a piece where none begins. -/
theorem hide_induction {motive : List (Option α) → Prop} (given : word ≠ []) (nil : motive [])
    (found : ∀ rest, motive rest → motive (word.map some ++ rest))
    (other : ∀ piece rest, ¬word.map some <+: piece :: rest → motive rest → motive (piece :: rest))
    (masked : List (Option α)) : motive masked := by
  induction length : masked.length using Nat.strong_induction_on generalizing masked with
  | _ n ih =>
    cases masked with
    | nil => exact nil
    | cons piece rest =>
      by_cases begins : word.map some <+: piece :: rest
      · obtain ⟨rest', same⟩ := begins
        rw [← same]
        refine found rest' (ih rest'.length ?_ rest' rfl)
        have shorter := congrArg List.length same
        have := List.length_pos_iff.mpr given
        rw [List.length_append, List.length_map] at shorter
        omega
      · exact other piece rest begins (ih rest.length (by rw [← length]; simp) rest rfl)

theorem Hides.hide (given : word ≠ []) (hides : Hides text masked) :
    Hides text (hide word masked) := by
  induction masked using hide_induction given generalizing text with
  | nil => exact hides
  | found rest ih =>
    obtain ⟨before, after, rfl, left, right⟩ := hides.split
    obtain rfl := left.eq_of_kept
    rw [hide_found given]
    exact .mark given (ih right)
  | other piece rest absent ih =>
    rw [hide_cons absent]
    cases hides with
    | keep c hides => exact .keep c (ih hides)
    | mark given hides => exact .mark given (ih hides)

theorem hide_append (given : word ≠ [])
    (closed : ∀ front back, masked = front ++ back → back ≠ [] →
      word.map some <+: back ++ more → word.map some <+: back) :
    hide word (masked ++ more) = hide word masked ++ hide word more := by
  induction masked using hide_induction given with
  | nil => rfl
  | found rest ih =>
    rw [List.append_assoc, hide_found given, hide_found given, List.cons_append]
    exact congrArg _ (ih fun front back split => closed (word.map some ++ front) back
      (by rw [split, List.append_assoc]))
  | other piece rest absent ih =>
    have outside : ¬word.map some <+: piece :: (rest ++ more) :=
      fun begins => absent (closed [] (piece :: rest) rfl (by simp) begins)
    rw [List.cons_append, hide_cons outside, hide_cons absent, List.cons_append]
    exact congrArg _ (ih fun front back split => closed (piece :: front) back (by rw [split]; rfl))

theorem hide_of_absent (given : word ≠ []) (absent : ¬word.map some <:+: masked) :
    hide word masked = masked := by
  induction masked using hide_induction given with
  | nil => rfl
  | found rest ih => exact absurd (List.prefix_append _ _).isInfix absent
  | other piece rest begins ih =>
    rw [hide_cons begins, ih fun later => absent (later.trans (List.suffix_cons _ _).isInfix)]

theorem none_mem_hide_of_occurs (given : word ≠ []) (found : word.map some <:+: masked) :
    none ∈ hide word masked := by
  induction masked using hide_induction given with
  | nil => simp [given] at found
  | found rest ih =>
    rw [hide_found given]
    exact List.mem_cons_self
  | other piece rest begins ih =>
    rw [hide_cons begins]
    rcases List.infix_cons_iff.mp found with here | later
    · exact absurd here begins
    · exact List.mem_cons_of_mem _ (ih later)

theorem none_mem_hide (given : word ≠ []) (marked : none ∈ masked) : none ∈ hide word masked := by
  induction masked using hide_induction given with
  | nil => exact marked
  | found rest ih =>
    rw [hide_found given]
    exact List.mem_cons_self
  | other piece rest begins ih =>
    rw [hide_cons begins]
    rcases List.mem_cons.mp marked with rfl | later
    · exact List.mem_cons_self
    · exact List.mem_cons_of_mem _ (ih later)

theorem hide_ne_nil (given : word ≠ []) (nonempty : masked ≠ []) : hide word masked ≠ [] := by
  induction masked using hide_induction given with
  | nil => exact absurd rfl nonempty
  | found rest ih =>
    rw [hide_found given]
    exact List.cons_ne_nil _ _
  | other piece rest begins ih =>
    rw [hide_cons begins]
    exact List.cons_ne_nil _ _

theorem two_le_length_hide (given : word ≠ []) (marked : none ∈ masked)
    (several : 2 ≤ masked.length) : 2 ≤ (hide word masked).length := by
  obtain ⟨front, back, rfl⟩ := List.append_of_mem marked
  have parts : hide word (front ++ none :: back) =
      hide word front ++ none :: hide word back := by
    rw [← hide_mark given]
    refine hide_append given fun before after _ _ begins => ?_
    rcases List.prefix_or_prefix_of_prefix begins (List.prefix_append after _) with
      inside | ⟨tail, same⟩
    · exact inside
    · rw [← same, List.prefix_append_right_inj] at begins
      cases tail with
      | nil => exact ⟨[], by rw [← same]; simp⟩
      | cons piece tail =>
        obtain ⟨rfl, -⟩ := List.cons_prefix_cons.mp begins
        have inWord : none ∈ word.map some := same ▸ by simp
        simp at inWord
  rw [parts]
  rw [List.length_append, List.length_cons] at several ⊢
  by_cases noFront : front = []
  · subst noFront
    have := List.length_pos_iff.mpr (@hide_ne_nil α _ word back given (by
      rintro rfl
      simp at several))
    omega
  · have := List.length_pos_iff.mpr (hide_ne_nil given noFront)
    omega

theorem eq_of_hide_eq_mark (given : word ≠ []) (whole : hide word (text.map some) = [none]) :
    text = word := by
  cases text with
  | nil => cases whole
  | cons c rest =>
    rw [List.map_cons] at whole
    by_cases begins : word.map some <+: some c :: rest.map some
    · obtain ⟨more, same⟩ := begins
      rw [← same, hide_found given] at whole
      have nothing : more = [] := by
        by_contra nonempty
        exact hide_ne_nil given nonempty (List.cons.inj whole).2
      rw [nothing, List.append_nil, ← List.map_cons] at same
      exact (List.map_injective_iff.mpr (fun _ _ => Option.some.inj) same).symm
    · rw [hide_cons begins] at whole
      cases (List.cons.inj whole).1

end Hiding

/-! ### All words -/

section Words

variable {masked more : List (Option α)} {order : List (List α)}

theorem hideAll_empty (order : List (List α)) : hideAll order ([] : List (Option α)) = [] := by
  induction order with
  | nil => rfl
  | cons word order ih => exact ih

/-- Where no word takes characters of both texts, they are hidden in each by itself. -/
theorem hideAll_append {block : List α} (given : ∀ word ∈ order, word ≠ [])
    (closed : Closed order block rest) (left : Hides block masked) (right : Hides rest more) :
    hideAll order (masked ++ more) = hideAll order masked ++ hideAll order more := by
  induction order generalizing masked more with
  | nil => rfl
  | cons word order ih =>
    rw [List.forall_mem_cons] at given
    have alone : Closed [word] block rest := fun other member =>
      closed other (List.mem_singleton.mp member ▸ List.mem_cons_self)
    have parted : hide word (masked ++ more) = hide word masked ++ hide word more :=
      hide_append given.1 fun front back split nonempty begins =>
        Hides.closed alone (split ▸ left) right nonempty begins
    simp only [hideAll_cons, parted]
    exact ih given.2 (fun other member => closed other (List.mem_cons_of_mem _ member))
      (left.hide given.1) (right.hide given.1)

theorem none_mem_hideAll (given : ∀ word ∈ order, word ≠ []) (marked : none ∈ masked) :
    none ∈ hideAll order masked := by
  induction order generalizing masked with
  | nil => exact marked
  | cons word order ih =>
    rw [List.forall_mem_cons] at given
    exact ih given.2 (none_mem_hide given.1 marked)

theorem two_le_length_hideAll (given : ∀ word ∈ order, word ≠ []) (marked : none ∈ masked)
    (several : 2 ≤ masked.length) : 2 ≤ (hideAll order masked).length := by
  induction order generalizing masked with
  | nil => exact several
  | cons word order ih =>
    rw [List.forall_mem_cons] at given
    exact ih given.2 (none_mem_hide given.1 marked) (two_le_length_hide given.1 marked several)

omit [DecidableEq α] in
theorem infix_map_some {block : List α} : word.map some <:+: block.map some ↔ word <:+: block := by
  constructor
  · intro found
    simpa using found.filterMap id
  · intro found
    exact found.map some

theorem none_mem_hideAll_of_occurs {block : List α} (given : ∀ word ∈ order, word ≠ [])
    (member : word ∈ order) (found : word <:+: block) : none ∈ hideAll order (block.map some) := by
  induction order with
  | nil => cases member
  | cons first order ih =>
    rw [List.forall_mem_cons] at given
    by_cases here : first.map some <:+: block.map some
    · rw [hideAll_cons]
      exact none_mem_hideAll given.2 (none_mem_hide_of_occurs given.1 here)
    · rw [hideAll_cons, hide_of_absent given.1 here]
      rcases List.mem_cons.mp member with rfl | later
      · exact absurd (infix_map_some.mpr found) here
      · exact ih given.2 later

theorem hideAll_word (given : ∀ word ∈ order, word ≠ []) (member : word ∈ order)
    (only : ∀ other ∈ order, other <:+: word → other = word) :
    hideAll order (word.map some) = [none] := by
  have marked (order : List (List α)) (given : ∀ word ∈ order, word ≠ []) :
      hideAll order [none] = [(none : Option α)] := by
    induction order with
    | nil => rfl
    | cons first order ih =>
      rw [List.forall_mem_cons] at given
      rw [hideAll_cons, hide_mark given.1]
      exact ih given.2
  induction order with
  | nil => cases member
  | cons first order ih =>
    rw [List.forall_mem_cons] at given
    by_cases same : first = word
    · subst same
      have alone := @hide_found α _ first [] given.1
      rw [List.append_nil] at alone
      rw [hideAll_cons, alone]
      exact marked order given.2
    · have absent : ¬first.map some <:+: word.map some := fun found =>
        same (only first List.mem_cons_self (infix_map_some.mp found))
      rw [hideAll_cons, hide_of_absent given.1 absent]
      exact ih given.2 ((List.mem_cons.mp member).resolve_left (Ne.symm same))
        fun other listed => only other (List.mem_cons_of_mem _ listed)

end Words

/-! ### Blocks -/

section Blocks

omit [DecidableEq α] in
theorem Closed.nil : Closed words [] rest := by
  intro word _ front back split nonempty _
  exact absurd (List.append_eq_nil_iff.mp split.symm).2 nonempty

theorem Closed.cons {c : α} {block : List α} (closed : Closed words block rest)
    (within : reach words (c :: (block ++ rest)) ≤ block.length + 1) :
    Closed words (c :: block) rest := by
  intro word member front back split nonempty begins
  cases front with
  | nil =>
    obtain rfl : c :: block = back := split
    have length := length_le_reach member begins
    rw [List.cons_append] at length
    refine List.prefix_of_prefix_length_le begins (List.prefix_append _ _) ?_
    rw [List.length_cons]
    omega
  | cons d front => exact closed word member front back (List.cons.inj split).2 nonempty begins

theorem exists_block {left : Nat} (within : left ≤ text.length) :
    ∃ block rest, text = block ++ rest ∧ left ≤ block.length ∧ Closed words block rest ∧
      maskFrom words left text = mask words rest := by
  induction text generalizing left with
  | nil =>
    refine ⟨[], [], rfl, within, Closed.nil, ?_⟩
    simp [mask, maskFrom]
  | cons c rest ih =>
    cases left with
    | zero => exact ⟨[], c :: rest, rfl, Nat.le_refl 0, Closed.nil, rfl⟩
    | succ left =>
      have span : reach words (c :: rest) ≤ rest.length + 1 := reach_le_length
      rw [List.length_cons] at within
      obtain ⟨block, after, rfl, longer, closed, masked⟩ :=
        @ih (max left (reach words (c :: rest) - 1)) (by omega)
      refine ⟨c :: block, after, rfl, ?_, closed.cons (by omega), masked⟩
      rw [List.length_cons]
      omega

/-- A text falls into characters where no word begins, and blocks with a word at their heads. -/
theorem block_induction {motive : List α → Prop} (words : List (List α)) (nil : motive [])
    (keep : ∀ c rest, reach words (c :: rest) = 0 → motive rest → motive (c :: rest))
    (block : ∀ block rest, Closed words block rest → (∃ word ∈ words, word <+: block) →
      mask words (block ++ rest) = none :: mask words rest → motive rest → motive (block ++ rest))
    (text : List α) : motive text := by
  induction length : text.length using Nat.strong_induction_on generalizing text with
  | _ n ih =>
    cases text with
    | nil => exact nil
    | cons c rest =>
      rcases Nat.eq_zero_or_pos (reach words (c :: rest)) with none | positive
      · exact keep c rest none (ih rest.length (by rw [← length]; simp) rest rfl)
      · obtain ⟨span, reached⟩ := Nat.exists_eq_succ_of_ne_zero positive.ne'
        have within : reach words (c :: rest) ≤ rest.length + 1 := reach_le_length
        obtain ⟨inside, after, rfl, longer, closed, masked⟩ :=
          @exists_block α _ words rest span (by omega)
        obtain ⟨word, member, begins, wordLength⟩ := exists_of_reach positive
        have inBlock : word <+: c :: inside := by
          refine List.prefix_of_prefix_length_le begins (List.prefix_append (c :: inside) after) ?_
          rw [List.length_cons]
          omega
        refine block (c :: inside) after (closed.cons (by omega)) ⟨word, member, inBlock⟩ ?_
          (ih after.length (by rw [← length, List.length_cons, List.length_append]; omega) after rfl)
        rw [List.cons_append, mask, maskFrom, reached]
        exact congrArg _ masked

/-- The number of characters when a mark is written with so many. -/
def size (mark : Nat) (masked : List (Option α)) : Nat :=
  (masked.map fun piece => if piece.isNone then mark else 1).sum

variable {masked more : List (Option α)} {mark : Nat}

omit [DecidableEq α]

theorem size_append : size mark (masked ++ more) = size mark masked + size mark more := by
  simp [size]

theorem size_cons {piece : Option α} :
    size mark (piece :: masked) = (if piece.isNone then mark else 1) + size mark masked := by
  simp [size]

theorem length_le_size (positive : 0 < mark) : masked.length ≤ size mark masked := by
  induction masked with
  | nil => exact Nat.zero_le _
  | cons piece masked ih =>
    rw [size_cons, List.length_cons]
    split <;> omega

theorem mark_le_size (positive : 0 < mark) (marked : none ∈ masked) :
    mark ≤ size mark masked ∧ (size mark masked = mark → masked = [none]) := by
  obtain ⟨front, back, rfl⟩ := List.append_of_mem marked
  have before := @length_le_size α front mark positive
  have after := @length_le_size α back mark positive
  rw [size_append, size_cons, Option.isNone_none, if_pos rfl]
  refine ⟨by omega, fun same => ?_⟩
  obtain rfl : front = [] := List.length_eq_zero_iff.mp (by omega)
  obtain rfl : back = [] := List.length_eq_zero_iff.mp (by omega)
  rfl

end Blocks

section Orders

variable {order : List (List α)} {mark : Nat}

theorem not_prefix_of_reach {c : α} (given : ∀ word ∈ words, word ≠ [])
    (none : reach words (c :: rest) = 0) : ∀ word ∈ words, ¬word <+: c :: rest := by
  intro word member begins
  have := length_le_reach member begins
  exact given word member (List.length_eq_zero_iff.mp (by omega))

theorem hideAll_keep {c : α} (given : ∀ word ∈ words, word ≠ [])
    (none : reach words (c :: rest) = 0) :
    hideAll words ((c :: rest).map some) = some c :: hideAll words (rest.map some) := by
  have absent := not_prefix_of_reach given none
  have closed : Closed words [c] rest := by
    refine Closed.cons Closed.nil ?_
    rw [List.nil_append, none]
    exact Nat.zero_le _
  have parted := hideAll_append given closed (Hides.kept [c]) (Hides.kept rest)
  have alone (order : List (List α)) (given : ∀ word ∈ order, word ≠ [])
      (absent : ∀ word ∈ order, ¬word <+: c :: rest) : hideAll order [some c] = [some c] := by
    induction order with
    | nil => rfl
    | cons word order ih =>
      rw [List.forall_mem_cons] at given absent
      have outside : ¬word.map some <+: some c :: [] := fun begins =>
        absent.1 (((Hides.kept [c]).prefix_of_kept begins).trans (List.prefix_append [c] rest))
      rw [hideAll_cons, hide_cons outside]
      exact ih given.2 absent.2
  rw [List.map_cons, List.map_nil, alone words given absent] at parted
  simpa using parted

/-- Hiding makes no text shorter than masking does, and as short a text only in the same way. -/
theorem size_mask_le (given : ∀ word ∈ words, word ≠ []) (positive : 0 < mark) (text : List α) :
    size mark (mask words text) ≤ size mark (hideAll words (text.map some)) ∧
      (size mark (hideAll words (text.map some)) = size mark (mask words text) →
        hideAll words (text.map some) = mask words text) := by
  induction text using block_induction words with
  | nil =>
    rw [List.map_nil, hideAll_empty]
    exact ⟨Nat.le_refl _, fun _ => rfl⟩
  | keep c rest none ih =>
    have masked : mask words (c :: rest) = some c :: mask words rest := by
      rw [mask, maskFrom, none]
      rfl
    rw [hideAll_keep given none, masked, size_cons, size_cons]
    refine ⟨Nat.add_le_add_left ih.1 _, fun same => ?_⟩
    rw [ih.2 (Nat.add_left_cancel same)]
  | block block rest closed head masked ih =>
    obtain ⟨word, member, begins⟩ := head
    have parted := hideAll_append given closed (Hides.kept block) (Hides.kept rest)
    obtain ⟨least, only⟩ := mark_le_size positive
      (none_mem_hideAll_of_occurs given member begins.isInfix)
    rw [List.map_append, parted, masked, size_append, size_cons, Option.isNone_none, if_pos rfl]
    refine ⟨by omega, fun same => ?_⟩
    rw [only (by omega), ih.2 (by omega)]
    rfl

omit [DecidableEq α] in
theorem Separate.tail {c : α} (separate : Separate words (c :: rest)) : Separate words rest := by
  intro first isFirst second isSecond start begin_ found later before after
  have same := separate first isFirst second isSecond (start + 1) (begin_ + 1) found later
    (by omega) (by omega)
  exact ⟨by omega, same.2⟩

omit [DecidableEq α] in
theorem Separate.drop (count : Nat) (separate : Separate words text) :
    Separate words (text.drop count) := by
  induction count generalizing text with
  | zero => exact separate
  | succ count ih =>
    cases text with
    | nil => exact separate
    | cons c rest => exact ih separate.tail

omit [DecidableEq α] in
theorem Separate.at_head (given : ∀ word ∈ words, word ≠ []) (separate : Separate words (word ++ rest))
    (member : word ∈ words) {other front back : List α} (listed : other ∈ words)
    (split : word = front ++ back) (nonempty : back ≠ []) (begins : other <+: back ++ rest) :
    front = [] ∧ other = word := by
  have otherNonempty := List.length_pos_iff.mpr (given other listed)
  have inside := List.length_pos_iff.mpr nonempty
  have lengths : word.length = front.length + back.length := by rw [split, List.length_append]
  have found : other <+: (word ++ rest).drop front.length := by
    rw [split, List.append_assoc, List.drop_left]
    exact begins
  obtain ⟨same, equal⟩ := separate other listed word member front.length 0 found
    (List.prefix_append word rest) (by omega) (by omega)
  exact ⟨List.length_eq_zero_iff.mp same, equal⟩

theorem maskFrom_idle {inside : List α}
    (idle : ∀ front back, inside = front ++ back → back ≠ [] → reach words (back ++ rest) = 0) :
    maskFrom words inside.length (inside ++ rest) = mask words rest := by
  induction inside with
  | nil => rfl
  | cons c inside ih =>
    have here := idle [] (c :: inside) rfl (List.cons_ne_nil _ _)
    rw [List.cons_append] at here
    rw [List.length_cons, List.cons_append, maskFrom, here, Nat.max_eq_left (Nat.zero_le _)]
    exact ih fun front back split nonempty => idle (c :: front) back (by rw [split]; rfl) nonempty

theorem Separate.block_at_head (given : ∀ word ∈ words, word ≠ [])
    (separate : Separate words (word ++ rest)) (member : word ∈ words)
    (longest : word.length = reach words (word ++ rest)) :
    Closed words word rest ∧ mask words (word ++ rest) = none :: mask words rest ∧
      hideAll words (word.map some) = [none] := by
  have overlapping {other front back : List α} (listed : other ∈ words)
      (split : word = front ++ back) (nonempty : back ≠ []) (begins : other <+: back ++ rest) :
      front = [] ∧ other = word := separate.at_head given member listed split nonempty begins
  refine ⟨?_, ?_, ?_⟩
  · intro other listed front back split nonempty begins
    obtain ⟨rfl, rfl⟩ := overlapping listed split nonempty begins
    rw [List.nil_append] at split
    rw [← split]
  · obtain ⟨c, inside, rfl⟩ := List.exists_cons_of_ne_nil (given word member)
    rw [List.cons_append] at longest ⊢
    rw [mask, maskFrom, ← longest, List.length_cons]
    refine congrArg _ (maskFrom_idle fun front back split nonempty => ?_)
    by_contra reached
    obtain ⟨other, listed, begins, -⟩ := exists_of_reach (Nat.pos_of_ne_zero reached)
    have shifted := @overlapping other (c :: front) _ listed (by rw [split]; rfl) nonempty begins
    exact absurd shifted.1 (List.cons_ne_nil _ _)
  · refine hideAll_word given member fun other listed found => ?_
    obtain ⟨front, back, split⟩ := found
    rw [List.append_assoc] at split
    refine (overlapping listed split.symm ?_ ?_).2
    · simp [given other listed]
    · rw [List.append_assoc]
      exact List.prefix_append _ _

theorem hideAll_of_separate (given : ∀ word ∈ words, word ≠ []) (separate : Separate words text) :
    hideAll words (text.map some) = mask words text := by
  induction length : text.length using Nat.strong_induction_on generalizing text with
  | _ n ih =>
    rcases Nat.eq_zero_or_pos (reach words text) with none | positive
    · cases text with
      | nil => exact hideAll_empty words
      | cons c rest =>
        rw [hideAll_keep given none,
          ih rest.length (by rw [← length]; simp) separate.tail rfl, mask, mask, maskFrom, none]
    · obtain ⟨word, member, ⟨after, rfl⟩, longest⟩ := exists_of_reach positive
      obtain ⟨closed, masked, alone⟩ := separate.block_at_head given member longest
      have shorter := List.length_pos_iff.mpr (given word member)
      have later := ih after.length (by rw [← length, List.length_append]; omega)
        (by simpa using separate.drop word.length) rfl
      rw [List.map_append, hideAll_append given closed (Hides.kept word) (Hides.kept after), alone,
        later, masked]
      rfl

theorem eq_block {block : List α} (given : ∀ word ∈ words, word ≠ [])
    (whole : ∀ order, order.Perm words → hideAll order (block.map some) = [none])
    (member : word ∈ words) (found : word <:+: block) : block = word := by
  have first := whole (word :: words.erase word) (List.perm_cons_erase member).symm
  have others : ∀ other ∈ words.erase word, other ≠ [] :=
    fun other listed => given other (List.mem_of_mem_erase listed)
  have marked := none_mem_hide_of_occurs (given word member) (infix_map_some.mpr found)
  refine eq_of_hide_eq_mark (given word member) ?_
  rw [hideAll_cons] at first
  by_contra several
  have least := (mark_le_size Nat.one_pos marked).2
  have two : 2 ≤ (hide word (block.map some)).length := by
    by_contra short
    have positive := List.length_pos_iff.mpr (List.ne_nil_of_mem marked)
    obtain ⟨piece, single⟩ := List.length_eq_one_iff.mp (by omega :
      (hide word (block.map some)).length = 1)
    rw [single, List.mem_singleton] at marked
    exact several (by rw [single, ← marked])
  have left := two_le_length_hideAll others marked two
  rw [first] at left
  simp at left

theorem separate_of_hideAll (given : ∀ word ∈ words, word ≠ [])
    (same : ∀ order, order.Perm words → hideAll order (text.map some) = mask words text) :
    Separate words text := by
  induction text using block_induction words with
  | nil =>
    intro first isFirst second _ start begin_ found _ _ _
    rw [List.drop_nil, List.prefix_nil] at found
    exact absurd found (given first isFirst)
  | keep c rest none ih =>
    have absent := not_prefix_of_reach given none
    have separate : Separate words rest := by
      refine ih fun order perm => ?_
      have whole := same order perm
      rw [hideAll_keep (fun word member => given word (perm.mem_iff.mp member))
        ((reach_perm perm _).trans none), mask, maskFrom, none] at whole
      exact (List.cons.inj whole).2
    intro first isFirst second isSecond start begin_ found later before after
    cases start with
    | zero => exact absurd found (absent first isFirst)
    | succ start =>
      cases begin_ with
      | zero => exact absurd later (absent second isSecond)
      | succ begin_ =>
        have equal := separate first isFirst second isSecond start begin_ found later
          (by omega) (by omega)
        exact ⟨by omega, equal.2⟩
  | block block rest closed head masked ih =>
    obtain ⟨word, member, begins⟩ := head
    have parts (order : List (List α)) (perm : order.Perm words) :
        hideAll order (block.map some) = [none] ∧
          hideAll order (rest.map some) = mask words rest := by
      have ofOrder : ∀ word ∈ order, word ≠ [] := fun word member =>
        given word (perm.mem_iff.mp member)
      have whole := same order perm
      rw [List.map_append, hideAll_append ofOrder
        (fun word member => closed word (perm.mem_iff.mp member)) (Hides.kept block)
        (Hides.kept rest), masked] at whole
      obtain ⟨least, only⟩ := mark_le_size Nat.one_pos
        (none_mem_hideAll_of_occurs ofOrder (perm.mem_iff.mpr member) begins.isInfix)
      have bound := (size_mask_le ofOrder Nat.one_pos rest).1
      rw [mask_perm perm] at bound
      have sizes := congrArg (size 1) whole
      rw [size_append, size_cons, Option.isNone_none, if_pos rfl] at sizes
      have alone := only (by omega)
      rw [alone] at whole
      exact ⟨alone, (List.cons.inj whole).2⟩
    have separate := ih fun order perm => (parts order perm).2
    have only {word : List α} (member : word ∈ words) (found : word <:+: block) : block = word :=
      eq_block given (fun order perm => (parts order perm).1) member found
    -- An occurrence that begins in the block is the block.
    have inBlock {word : List α} {start : Nat} (member : word ∈ words) (within : start < block.length)
        (found : word <+: (block ++ rest).drop start) : start = 0 ∧ block = word := by
      have found := closed word member (block.take start) (block.drop start)
        (List.take_append_drop start block).symm (by simpa using within) (by
          rwa [List.drop_append_of_le_length within.le] at found)
      have equal := only member (found.isInfix.trans (List.drop_suffix start block).isInfix)
      have length := found.length_le
      rw [← equal, List.length_drop] at length
      exact ⟨by omega, equal⟩
    intro first isFirst second isSecond start begin_ found later before after
    by_cases isIn : start < block.length
    · obtain ⟨rfl, rfl⟩ := inBlock isFirst isIn found
      obtain ⟨rfl, equal⟩ := inBlock isSecond (by omega) later
      exact ⟨rfl, equal⟩
    · by_cases isIn' : begin_ < block.length
      · obtain ⟨rfl, rfl⟩ := inBlock isSecond isIn' later
        omega
      · rw [List.drop_append, List.drop_eq_nil_of_le (by omega), List.nil_append] at found later
        have equal := separate first isFirst second isSecond _ _ found later (by omega) (by omega)
        exact ⟨by omega, equal.2⟩

end Orders

end CogniDQ.Text
