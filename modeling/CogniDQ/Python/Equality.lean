import CogniDQ.Python.Value
import Mathlib.Data.List.Infix

/-!
# Equality of values

The equality of the language: numbers compare across their types, truth values as numbers, and
dictionaries without regard to the order of their keys.
-/

set_option autoImplicit false

namespace CogniDQ.Python

namespace Value

def number : Value → Option Rat
  | .bool true => some 1
  | .bool false => some 0
  | .int value => some value
  | .float value => some value
  | _ => Option.none

mutual

def eq : Value → Value → Bool
  | .none, .none => true
  | .str left, .str right => left == right
  | .list left, .list right => eqList left right
  | .dict left, .dict right => eqEntries [] left right
  | left, right =>
    match left.number, right.number with
    | some left, some right => left == right
    | _, _ => false

def eqList : List Value → List Value → Bool
  | [], [] => true
  | left :: lefts, right :: rights => eq left right && eqList lefts rights
  | _, _ => false

/-- The entries of a dictionary against another one; the keys already `seen` are settled. -/
def eqEntries (seen : List String) : List (String × Value) → List (String × Value) → Bool
  | [], right => right.all fun entry => seen.contains entry.1
  | (key, value) :: rest, right =>
    (seen.contains key ||
      match right.lookup key with
      | some other => eq value other
      | Option.none => false) &&
      eqEntries (key :: seen) rest right

end

/-- `element in value`: equal to an entry of a list, a key of a dictionary, a part of a text. -/
def isIn (element : Value) : Value → Except Exn Bool
  | .list values => .ok (values.any (·.eq element))
  | .str text =>
      match element with
      | .str part => .ok (decide (part.toList <:+: text.toList))
      | _ => .error .typeError
  | .dict entries =>
      match element with
      | .str key => .ok (Dict.has entries key)
      | .list _ => .error .typeError
      | .dict _ => .error .typeError
      | _ => .ok false
  | _ => .error .typeError

@[simp] theorem eq_none {value : Value} : Value.none.eq value = true ↔ value = .none := by
  cases value <;> simp [eq, number]

@[simp] theorem eq_str {text : String} {value : Value} :
    (Value.str text).eq value = true ↔ value = .str text := by
  cases value with
  | str other =>
    simp only [eq, beq_iff_eq, str.injEq]
    exact eq_comm
  | _ => simp [eq, number]

theorem eq_list {values : List Value} {value : Value} :
    (Value.list values).eq value = true ↔
      ∃ others, value = .list others ∧ eqList values others = true := by
  cases value <;> simp [eq, number]

theorem eq_dict {entries : List (String × Value)} {value : Value} :
    (Value.dict entries).eq value = true ↔
      ∃ others, value = .dict others ∧ eqEntries [] entries others = true := by
  cases value <;> simp [eq, number]

theorem eq_number {left right : Value} {count : Rat} (numeric : left.number = some count) :
    left.eq right = true ↔ right.number = some count := by
  have compared : left.eq right =
      match left.number, right.number with
      | some left, some right => left == right
      | _, _ => false := by
    cases left <;> first | rfl | cases numeric
  rw [compared, numeric]
  cases right.number with
  | none => simp
  | some other =>
    simp only [beq_iff_eq, Option.some.injEq]
    exact eq_comm

theorem mem_of_lookup {entries : List (String × Value)} {key : String} {value : Value}
    (found : entries.lookup key = some value) : (key, value) ∈ entries := by
  obtain ⟨before, after, split, -⟩ := List.lookup_eq_some_iff.mp found
  rw [split]
  simp

theorem eqEntries_iff {seen : List String} {left right : List (String × Value)} :
    eqEntries seen left right = true ↔ ∀ key, key ∉ seen →
      Option.Rel (fun value other => eq value other = true) (left.lookup key) (right.lookup key) := by
  induction left generalizing seen with
  | nil =>
    simp only [eqEntries, List.all_eq_true, List.contains_iff_mem, List.lookup_nil]
    constructor
    · intro settled key unseen
      cases found : right.lookup key with
      | none => exact .none
      | some value =>
        obtain ⟨before, after, split, -⟩ := List.lookup_eq_some_iff.mp found
        exact absurd (settled (key, value) (by rw [split]; simp)) unseen
    · intro agree entry member
      by_contra unseen
      have related := agree entry.1 unseen
      cases found : right.lookup entry.1 with
      | none =>
        have absent := List.lookup_eq_none_iff.mp found entry member
        simp at absent
      | some value =>
        rw [found] at related
        cases related
  | cons entry rest ih =>
    obtain ⟨name, value⟩ := entry
    simp only [eqEntries, Bool.and_eq_true, Bool.or_eq_true, List.contains_iff_mem, ih]
    constructor
    · rintro ⟨here, later⟩ key unseen
      by_cases same : key = name
      · subst same
        rw [List.lookup_cons_self]
        cases found : right.lookup key with
        | none => simp [found, unseen] at here
        | some other =>
          simp only [found] at here
          exact .some (here.resolve_left unseen)
      · have skipped : (key == name) = false := by simpa using same
        rw [List.lookup_cons, skipped]
        exact later key (by simp [same, unseen])
    · intro agree
      refine ⟨?_, fun key unseen => ?_⟩
      · by_cases settled : name ∈ seen
        · exact .inl settled
        · right
          have related := agree name settled
          rw [List.lookup_cons_self] at related
          cases found : right.lookup name with
          | none =>
            rw [found] at related
            cases related
          | some other =>
            rw [found] at related
            cases related with
            | some equal => exact equal
      · obtain ⟨different, unseen⟩ := not_or.mp (mt List.mem_cons.mpr unseen)
        have skipped : (key == name) = false := by simpa using different
        have related := agree key unseen
        rw [List.lookup_cons, skipped] at related
        exact related

mutual

@[simp] theorem eq_refl : (value : Value) → value.eq value = true
  | .none => eq_none.mpr rfl
  | .bool true => rfl
  | .bool false => rfl
  | .int value => (eq_number rfl).mpr rfl
  | .float value => (eq_number rfl).mpr rfl
  | .str text => eq_str.mpr rfl
  | .list values => eq_list.mpr ⟨values, rfl, eqList_refl values⟩
  | .dict entries => by
    refine eq_dict.mpr ⟨entries, rfl, eqEntries_iff.mpr fun key _ => ?_⟩
    cases found : entries.lookup key with
    | none => exact .none
    | some value => exact .some (eqValues_refl entries _ (mem_of_lookup found))

theorem eqList_refl : (values : List Value) → eqList values values = true
  | [] => rfl
  | value :: rest => by rw [eqList, eq_refl value, eqList_refl rest]; rfl

theorem eqValues_refl : (entries : List (String × Value)) →
    ∀ entry ∈ entries, entry.2.eq entry.2 = true
  | [], _, member => nomatch member
  | (key, value) :: rest, entry, member => by
    rcases List.mem_cons.mp member with rfl | later
    · exact eq_refl value
    · exact eqValues_refl rest entry later

end

mutual

theorem eq_symm : (left : Value) → {right : Value} → left.eq right = true → right.eq left = true
  | .none, _, same => by
    obtain rfl := eq_none.mp same
    rfl
  | .bool true, _, same => (eq_number ((eq_number rfl).mp same)).mpr rfl
  | .bool false, _, same => (eq_number ((eq_number rfl).mp same)).mpr rfl
  | .int _, _, same => (eq_number ((eq_number rfl).mp same)).mpr rfl
  | .float _, _, same => (eq_number ((eq_number rfl).mp same)).mpr rfl
  | .str _, _, same => by
    obtain rfl := eq_str.mp same
    exact same
  | .list values, _, same => by
    obtain ⟨others, rfl, same⟩ := eq_list.mp same
    exact eq_list.mpr ⟨values, rfl, eqList_symm values same⟩
  | .dict entries, _, same => by
    obtain ⟨others, rfl, same⟩ := eq_dict.mp same
    refine eq_dict.mpr ⟨entries, rfl, eqEntries_iff.mpr fun key unseen => ?_⟩
    have related := eqEntries_iff.mp same key unseen
    cases found : entries.lookup key with
    | none =>
      rw [found] at related
      cases other : others.lookup key with
      | none => exact .none
      | some _ =>
        rw [other] at related
        cases related
    | some value =>
      rw [found] at related
      cases other : others.lookup key with
      | none =>
        rw [other] at related
        cases related
      | some held =>
        rw [other] at related
        cases related with
        | some equal => exact .some (eqValues_symm entries _ (mem_of_lookup found) equal)

theorem eqList_symm : (lefts : List Value) → {rights : List Value} →
    eqList lefts rights = true → eqList rights lefts = true
  | [], [], _ => rfl
  | left :: lefts, right :: rights, same => by
    rw [eqList, Bool.and_eq_true] at same ⊢
    exact ⟨eq_symm left same.1, eqList_symm lefts same.2⟩

theorem eqValues_symm : (entries : List (String × Value)) → ∀ entry ∈ entries,
    ∀ {other : Value}, entry.2.eq other = true → other.eq entry.2 = true
  | [], _, member, _, _ => nomatch member
  | (key, value) :: rest, entry, member, other, same => by
    rcases List.mem_cons.mp member with rfl | later
    · exact eq_symm value same
    · exact eqValues_symm rest entry later same

end

mutual

theorem eq_trans : (left : Value) → {middle right : Value} → left.eq middle = true →
    middle.eq right = true → left.eq right = true
  | .none, _, _, first, second => by
    obtain rfl := eq_none.mp first
    exact second
  | .bool true, _, _, first, second => (eq_number rfl).mpr ((eq_number ((eq_number rfl).mp first)).mp second)
  | .bool false, _, _, first, second => (eq_number rfl).mpr ((eq_number ((eq_number rfl).mp first)).mp second)
  | .int _, _, _, first, second => (eq_number rfl).mpr ((eq_number ((eq_number rfl).mp first)).mp second)
  | .float _, _, _, first, second => (eq_number rfl).mpr ((eq_number ((eq_number rfl).mp first)).mp second)
  | .str _, _, _, first, second => by
    obtain rfl := eq_str.mp first
    exact second
  | .list values, _, _, first, second => by
    obtain ⟨others, rfl, first⟩ := eq_list.mp first
    obtain ⟨last, rfl, second⟩ := eq_list.mp second
    exact eq_list.mpr ⟨last, rfl, eqList_trans values first second⟩
  | .dict entries, _, _, first, second => by
    obtain ⟨others, rfl, first⟩ := eq_dict.mp first
    obtain ⟨last, rfl, second⟩ := eq_dict.mp second
    refine eq_dict.mpr ⟨last, rfl, eqEntries_iff.mpr fun key unseen => ?_⟩
    have before := eqEntries_iff.mp first key unseen
    have after := eqEntries_iff.mp second key unseen
    cases found : entries.lookup key with
    | none =>
      rw [found] at before
      generalize others.lookup key = held at before after
      cases before
      exact after
    | some value =>
      rw [found] at before
      generalize others.lookup key = held at before after
      generalize last.lookup key = reached at after
      cases before with
      | some equal =>
        cases after with
        | some further =>
          exact .some (eqValues_trans entries _ (mem_of_lookup found) equal further)

theorem eqList_trans : (lefts : List Value) → {middles rights : List Value} →
    eqList lefts middles = true → eqList middles rights = true → eqList lefts rights = true
  | [], [], [], _, _ => rfl
  | left :: lefts, middle :: middles, right :: rights, first, second => by
    rw [eqList, Bool.and_eq_true] at first second ⊢
    exact ⟨eq_trans left first.1 second.1, eqList_trans lefts first.2 second.2⟩

theorem eqValues_trans : (entries : List (String × Value)) → ∀ entry ∈ entries,
    ∀ {middle right : Value}, entry.2.eq middle = true → middle.eq right = true →
      entry.2.eq right = true
  | [], _, member, _, _, _, _ => nomatch member
  | (key, value) :: rest, entry, member, _, _, first, second => by
    rcases List.mem_cons.mp member with rfl | later
    · exact eq_trans value first second
    · exact eqValues_trans rest entry later first second

end

theorem eq_swap {left right : Value} : left.eq right = right.eq left :=
  Bool.eq_iff_iff.mpr ⟨eq_symm left, eq_symm right⟩

theorem eq_congr_left {left other right : Value} (same : left.eq other = true) :
    left.eq right = other.eq right :=
  Bool.eq_iff_iff.mpr ⟨eq_trans other (eq_symm left same), eq_trans left same⟩

theorem truthy_eq_number {value : Value} {count : Rat} (numeric : value.number = some count) :
    value.truthy = (count != 0) := by
  cases value with
  | bool value => cases value <;> (cases numeric; rfl)
  | int value =>
    cases numeric
    simp [truthy, bne]
  | float value =>
    cases numeric
    rfl
  | _ => cases numeric

theorem truthy_congr {left right : Value} (same : left.eq right = true) :
    left.truthy = right.truthy := by
  cases numeric : left.number with
  | some count => rw [truthy_eq_number numeric, truthy_eq_number ((eq_number numeric).mp same)]
  | none =>
    cases left with
    | none => rw [eq_none.mp same]
    | str text => rw [eq_str.mp same]
    | list values =>
      obtain ⟨others, rfl, same⟩ := eq_list.mp same
      cases values <;> cases others <;> first | rfl | cases same
    | dict entries =>
      obtain ⟨others, rfl, same⟩ := eq_dict.mp same
      have agree := eqEntries_iff.mp same
      cases entries with
      | nil =>
        cases others with
        | nil => rfl
        | cons entry rest =>
          have related := agree entry.1 List.not_mem_nil
          rw [List.lookup_cons_self] at related
          cases related
      | cons entry rest =>
        cases others with
        | nil =>
          have related := agree entry.1 List.not_mem_nil
          rw [List.lookup_cons_self] at related
          cases related
        | cons => rfl
    | bool value => cases value <;> cases numeric
    | int => cases numeric
    | float => cases numeric

end Value

end CogniDQ.Python
