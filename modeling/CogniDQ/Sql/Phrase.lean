import CogniDQ.Python.Text
import CogniDQ.Sql.Lexer

/-!
# Generated SQL

SQL that a generator puts together, kept as segments: what the generator wrote
itself, the identifiers and literals it quoted, and what it took over from the
user unquoted. The text is what the segments write; the tokens are what they are
meant to be read as.
-/

set_option autoImplicit false

namespace CogniDQ.Sql

open CogniDQ.Python

/-- A piece of generated SQL. A literal holds the value it stands for and what is
written between its quotes; a fragment holds the expression or operator as the user
supplied it and as it is spliced in. -/
inductive Segment where
  | text (written : String)
  | name (identifier : String)
  | literal (value written : String)
  | fragment (supplied spliced : String)
  | raw (written : String)
deriving DecidableEq, Repr

namespace Segment

def chars : Segment → List Char
  | .text written => written.toList
  | .name identifier => '"' :: identifier.toList ++ ['"']
  | .literal _ written => '\'' :: written.toList ++ ['\'']
  | .fragment _ spliced => spliced.toList
  | .raw written => written.toList

def supplied? : Segment → Option String
  | .fragment supplied _ => some supplied
  | _ => none

def spliced? : Segment → Option String
  | .fragment _ spliced => some spliced
  | _ => none

/-- The segment with its first characters only. What is left of quoted text is no
longer quoted. -/
def take (count : Nat) (segment : Segment) : Segment :=
  if segment.chars.length ≤ count then segment
  else
    match segment with
    | .fragment supplied spliced => .fragment supplied (String.ofList (spliced.toList.take count))
    | other => .raw (String.ofList (other.chars.take count))

def drop (count : Nat) (segment : Segment) : Segment :=
  if count = 0 then segment
  else
    match segment with
    | .fragment supplied spliced => .fragment supplied (String.ofList (spliced.toList.drop count))
    | other => .raw (String.ofList (other.chars.drop count))

/-- `-18`, `0.85`, `1e-05`. -/
def isNumber (written : List Char) : Bool :=
  let unsigned := if written.head? = some '-' then written.tail else written
  let mantissa := unsigned.takeWhile fun c => c != 'e' && c != 'E'
  let exponent := (unsigned.drop mantissa.length).tail
  let power := if exponent.head? = some '-' || exponent.head? = some '+' then exponent.tail else exponent
  mantissa.any Char.isDigit && mantissa.all (fun c => c.isDigit || c == '.') &&
    mantissa.count '.' ≤ 1 && power.all Char.isDigit &&
    (power.isEmpty == (mantissa.length == unsigned.length))

/-- What is quoted is read as the name or value it stands for, and what is written as an operand
without quotes is a number or NULL. -/
def closed : Segment → Bool
  | .name identifier =>
      identifier != "" &&
        lex .standard (Segment.name identifier).chars == some [.identifier identifier.toList]
  | .literal value written =>
      lex .standard (Segment.literal value written).chars == some [.literal value.toList]
  | .raw written => isNumber written.toList || written.toUpper == "NULL"
  | _ => true

theorem chars_take (count : Nat) (segment : Segment) :
    (segment.take count).chars = segment.chars.take count := by
  unfold take
  split
  · next whole => exact (List.take_of_length_le whole).symm
  · cases segment <;> simp [chars]

@[simp] theorem supplied?_take (count : Nat) (segment : Segment) :
    (segment.take count).supplied? = segment.supplied? := by
  unfold take
  split
  · rfl
  · cases segment <;> rfl

@[simp] theorem supplied?_drop (count : Nat) (segment : Segment) :
    (segment.drop count).supplied? = segment.supplied? := by
  unfold drop
  split
  · rfl
  · cases segment <;> rfl

end Segment

structure Phrase where
  segments : List Segment
deriving DecidableEq, Repr

def name (identifier : String) : Phrase := ⟨[.name identifier]⟩

/-- `'written'`, standing for a value. -/
def literal (value written : String) : Phrase := ⟨[.literal value written]⟩

def fragment (supplied : String) : Phrase := ⟨[.fragment supplied supplied]⟩

def raw (written : String) : Phrase := ⟨[.raw written]⟩

namespace Phrase

def ofText (written : String) : Phrase := ⟨[.text written]⟩

instance : Coe String Phrase := ⟨ofText⟩

instance : Append Phrase := ⟨fun left right => ⟨left.segments ++ right.segments⟩⟩

def empty : Phrase := ⟨[]⟩

def join (separator : String) : List Phrase → Phrase
  | [] => empty
  | [part] => part
  | part :: next :: rest => part ++ separator ++ join separator (next :: rest)

def chars (phrase : Phrase) : List Char := phrase.segments.flatMap Segment.chars

def text (phrase : Phrase) : String := String.ofList phrase.chars

def fragments (phrase : Phrase) : List String :=
  phrase.segments.filterMap Segment.supplied?

def spliced (phrase : Phrase) : List String := phrase.segments.filterMap Segment.spliced?

/-- Nothing that is quoted or spliced in ends elsewhere than where it is meant to. -/
def closed (phrase : Phrase) : Bool := phrase.segments.all Segment.closed

def takeFrom : Nat → List Segment → List Segment
  | _, [] => []
  | count, segment :: rest =>
      if count = 0 then []
      else segment.take count :: takeFrom (count - segment.chars.length) rest

def take (count : Nat) (phrase : Phrase) : Phrase := ⟨takeFrom count phrase.segments⟩

def dropFrom : Nat → List Segment → List Segment
  | _, [] => []
  | count, segment :: rest =>
      if segment.chars.length ≤ count then dropFrom (count - segment.chars.length) rest
      else segment.drop count :: rest

def drop (count : Nat) (phrase : Phrase) : Phrase := ⟨dropFrom count phrase.segments⟩

/-- `text.rstrip` of the characters that meet a test. -/
def stripEnd (test : Char → Bool) (phrase : Phrase) : Phrase :=
  phrase.take (phrase.chars.length - (phrase.chars.reverse.takeWhile test).length)

/-- `text.lstrip` of the characters that meet a test. -/
def stripStart (test : Char → Bool) (phrase : Phrase) : Phrase :=
  phrase.drop (phrase.chars.takeWhile test).length

section Segments

variable {left right phrase : Phrase}

@[simp] theorem segments_append : (left ++ right).segments = left.segments ++ right.segments := rfl

theorem append_assoc (left middle right : Phrase) :
    left ++ middle ++ right = left ++ (middle ++ right) :=
  congrArg Phrase.mk (List.append_assoc left.segments middle.segments right.segments)

@[simp] theorem chars_append : (left ++ right).chars = left.chars ++ right.chars :=
  List.flatMap_append

@[simp] theorem chars_ofText (written : String) : (ofText written).chars = written.toList := by
  simp [chars, ofText, Segment.chars]

@[simp] theorem chars_raw (written : String) : (raw written).chars = written.toList := by
  simp [chars, raw, Segment.chars]

theorem chars_join_congr {separator : String} {first second : List Phrase}
    (same : first.map chars = second.map chars) :
    (join separator first).chars = (join separator second).chars := by
  induction first generalizing second with
  | nil => rw [List.map_eq_nil_iff.mp same.symm]
  | cons part rest ih =>
      cases second with
      | nil => cases same
      | cons other others =>
          obtain ⟨here, later⟩ := List.cons.inj same
          cases rest with
          | nil =>
              rw [List.map_eq_nil_iff.mp later.symm]
              exact here
          | cons next rest =>
              cases others with
              | nil => cases later
              | cons beyond others => simp only [join, chars_append, here, ih later]

theorem chars_take (count : Nat) : (phrase.take count).chars = phrase.chars.take count := by
  unfold take chars
  dsimp only
  induction phrase.segments generalizing count with
  | nil => simp [takeFrom]
  | cons segment rest ih =>
      rw [takeFrom, List.flatMap_cons, List.take_append]
      split
      · next empty => simp [empty]
      · rw [List.flatMap_cons, ih, Segment.chars_take]

theorem chars_stripEnd (test : Char → Bool) :
    (phrase.stripEnd test).chars =
      phrase.chars.take (phrase.chars.length - (phrase.chars.reverse.takeWhile test).length) :=
  chars_take _

@[simp] theorem fragments_append :
    (left ++ right).fragments = left.fragments ++ right.fragments :=
  List.filterMap_append

@[simp] theorem fragments_ofText (written : String) : (ofText written).fragments = [] := rfl

@[simp] theorem fragments_name (identifier : String) : (name identifier).fragments = [] := rfl

@[simp] theorem fragments_literal (value written : String) :
    (literal value written).fragments = [] := rfl

@[simp] theorem fragments_raw (written : String) : (raw written).fragments = [] := rfl

@[simp] theorem fragments_fragment (supplied : String) :
    (fragment supplied).fragments = [supplied] := rfl

@[simp] theorem fragments_empty : empty.fragments = [] := rfl

theorem mem_fragments_join {separator supplied : String} {parts : List Phrase} :
    supplied ∈ (join separator parts).fragments ↔ ∃ part ∈ parts, supplied ∈ part.fragments := by
  induction parts with
  | nil => simp [join]
  | cons part rest ih =>
      cases rest with
      | nil => simp [join]
      | cons next rest => simp [join, ih]

theorem fragments_takeFrom {count : Nat} {segments : List Segment} {supplied : String}
    (member : supplied ∈ (takeFrom count segments).filterMap Segment.supplied?) :
    supplied ∈ segments.filterMap Segment.supplied? := by
  induction segments generalizing count with
  | nil => simp [takeFrom] at member
  | cons segment rest ih =>
      unfold takeFrom at member
      split at member
      · cases member
      · simp only [List.mem_filterMap, List.mem_cons, exists_eq_or_imp, Segment.supplied?_take]
          at member ih ⊢
        exact member.imp id ih

theorem fragments_dropFrom {count : Nat} {segments : List Segment} {supplied : String}
    (member : supplied ∈ (dropFrom count segments).filterMap Segment.supplied?) :
    supplied ∈ segments.filterMap Segment.supplied? := by
  induction segments generalizing count with
  | nil => simp [dropFrom] at member
  | cons segment rest ih =>
      unfold dropFrom at member
      simp only [List.mem_filterMap, List.mem_cons, exists_eq_or_imp] at ih ⊢
      split at member
      · exact .inr (ih (by simpa using member))
      · simpa using member

theorem fragments_take {count : Nat} {supplied : String}
    (member : supplied ∈ (phrase.take count).fragments) : supplied ∈ phrase.fragments :=
  fragments_takeFrom member

theorem fragments_drop {count : Nat} {supplied : String}
    (member : supplied ∈ (phrase.drop count).fragments) : supplied ∈ phrase.fragments :=
  fragments_dropFrom member

end Segments

end Phrase

end CogniDQ.Sql
