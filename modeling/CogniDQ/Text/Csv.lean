import Mathlib.Algebra.BigOperators.Group.List.Basic
import Mathlib.Data.List.Basic
import Mathlib.Algebra.GroupWithZero.Nat

/-!
# Records and lines of a delimited file

A delimited file is made of records and blank lines. A quoted field may hold line feeds, so a record
may reach over several lines; the lines of a file are as many as its records and its blank lines and
the line feeds inside its records.
-/

set_option autoImplicit false

namespace CogniDQ.Text

variable {α : Type} [DecidableEq α]

/-! ### Lines -/

/-- A text cut behind every mark. What follows the last mark is a piece if it is not empty. -/
def cutAfter (mark : α) : List α → List (List α)
  | [] => []
  | c :: rest =>
    if c = mark then [c] :: cutAfter mark rest
    else
      match cutAfter mark rest with
      | [] => [[c]]
      | piece :: pieces => (c :: piece) :: pieces

theorem cutAfter_ne_nil {mark c : α} {rest : List α} : cutAfter mark (c :: rest) ≠ [] := by
  simp only [cutAfter]
  split
  · exact List.cons_ne_nil _ _
  · split <;> exact List.cons_ne_nil _ _

def openEnded (mark : α) (text : List α) : Bool := text.getLast?.any (· ≠ mark)

theorem length_cutAfter (mark : α) (text : List α) :
    (cutAfter mark text).length = text.count mark + (openEnded mark text).toNat := by
  induction text with
  | nil => rfl
  | cons c rest ih =>
      cases rest with
      | nil => by_cases same : c = mark <;> simp [cutAfter, openEnded, same]
      | cons d rest =>
          have ending : openEnded mark (c :: d :: rest) = openEnded mark (d :: rest) := rfl
          rw [ending]
          by_cases same : c = mark
          · subst same
            rw [cutAfter, if_pos rfl, List.length_cons, ih, List.count_cons_self]
            omega
          · rw [List.count_cons_of_ne same, ← ih, cutAfter, if_neg same]
            split
            · rename_i none
              exact absurd none cutAfter_ne_nil
            · rename_i pieces
              simp [pieces]

/-! ### Fields and records -/

structure Marks (α : Type) where
  delimiter : α
  quote : α
  carriageReturn : α
  lineFeed : α
  distinct : [delimiter, quote, carriageReturn, lineFeed].Nodup

namespace Marks

variable (marks : Marks α)

def all : List α := [marks.delimiter, marks.quote, marks.carriageReturn, marks.lineFeed]

omit [DecidableEq α] in
theorem delimiter_ne_lineFeed : marks.delimiter ≠ marks.lineFeed := by
  have distinct := marks.distinct
  simp only [List.nodup_cons, List.mem_cons, not_or] at distinct
  exact distinct.1.2.2.1

omit [DecidableEq α] in
theorem quote_ne_lineFeed : marks.quote ≠ marks.lineFeed := by
  have distinct := marks.distinct
  simp only [List.nodup_cons, List.mem_cons, not_or] at distinct
  exact distinct.2.1.2.1

omit [DecidableEq α] in
theorem carriageReturn_ne_lineFeed : marks.carriageReturn ≠ marks.lineFeed := by
  have distinct := marks.distinct
  simp only [List.nodup_cons, List.mem_cons, not_or] at distinct
  exact distinct.2.2.1.1

end Marks

/-- What a field holds. Without quotes it has none of the marks. -/
inductive Field (marks : Marks α) where
  | bare (content : List α) (plain : ∀ c ∈ content, c ∉ marks.all)
  | quoted (content : List α)

namespace Field

variable {marks : Marks α}

omit [DecidableEq α] in
def content : Field marks → List α
  | bare content _ => content
  | quoted content => content

def text : Field marks → List α
  | bare content _ => content
  | quoted content =>
    marks.quote ::
      (content.flatMap fun c => if c = marks.quote then [marks.quote, marks.quote] else [c]) ++
        [marks.quote]

theorem count_text (field : Field marks) :
    field.text.count marks.lineFeed = field.content.count marks.lineFeed := by
  have other := marks.quote_ne_lineFeed
  cases field with
  | bare content plain => rfl
  | quoted content =>
      rw [text, List.cons_append, List.count_cons_of_ne other, List.count_append,
        List.count_cons_of_ne other, List.count_nil, Nat.add_zero, Field.content]
      induction content with
      | nil => rfl
      | cons c rest ih =>
          rw [List.flatMap_cons, List.count_append, ih]
          by_cases quote : c = marks.quote
          · simp [quote, List.count_cons_of_ne other]
          · rw [if_neg quote, List.count_singleton, List.count_cons]
            omega

theorem getLast?_text (field : Field marks) : field.text.getLast? ≠ some marks.lineFeed := by
  cases field with
  | bare content plain =>
      intro last
      exact plain _ (List.mem_of_getLast? last) (by simp [Marks.all])
  | quoted content =>
      rw [text, List.getLast?_concat]
      simpa using marks.quote_ne_lineFeed

end Field

/-- A line that holds nothing is blank, not a record. -/
structure Record (marks : Marks α) where
  fields : List (Field marks)
  given : [marks.delimiter].intercalate (fields.map Field.text) ≠ []

theorem count_intercalate {mark delimiter : α} (different : delimiter ≠ mark)
    (pieces : List (List α)) :
    ([delimiter].intercalate pieces).count mark = (pieces.map (List.count mark)).sum := by
  induction pieces with
  | nil => simp
  | cons piece rest ih =>
      cases rest with
      | nil => simp
      | cons next rest =>
          rw [List.intercalate_cons_cons, List.count_append, List.count_append, ih,
            List.count_singleton, beq_eq_false_iff_ne.mpr different]
          simp

omit [DecidableEq α] in
theorem getLast?_intercalate {mark delimiter : α} (different : delimiter ≠ mark)
    (pieces : List (List α)) (each : ∀ piece ∈ pieces, piece.getLast? ≠ some mark) :
    ([delimiter].intercalate pieces).getLast? ≠ some mark := by
  induction pieces with
  | nil => simp
  | cons piece rest ih =>
      cases rest with
      | nil => simpa using each
      | cons next rest =>
          have later := ih fun piece member => each piece (List.mem_cons_of_mem _ member)
          rw [List.intercalate_cons_cons, List.append_assoc, List.getLast?_append,
            List.getLast?_append]
          cases last : ([delimiter].intercalate (next :: rest)).getLast? with
          | none => simpa using different
          | some c => simpa [last] using later

namespace Record

variable {marks : Marks α}

def text (record : Record marks) : List α :=
  [marks.delimiter].intercalate (record.fields.map Field.text)

def OneLine (record : Record marks) : Prop :=
  ∀ field ∈ record.fields, marks.lineFeed ∉ field.content

def breaks (record : Record marks) : Nat := record.text.count marks.lineFeed

theorem breaks_eq_zero_iff (record : Record marks) : record.breaks = 0 ↔ record.OneLine := by
  rw [breaks, text, count_intercalate marks.delimiter_ne_lineFeed]
  simp only [List.map_map, List.sum_eq_zero_iff_forall_eq_nat, List.mem_map, Function.comp_apply, OneLine,
    forall_exists_index, and_imp, forall_apply_eq_imp_iff₂, Field.count_text, List.count_eq_zero]

theorem openEnded_text (record : Record marks) : openEnded marks.lineFeed record.text = true := by
  have ending : record.text.getLast? ≠ some marks.lineFeed :=
    getLast?_intercalate marks.delimiter_ne_lineFeed _ (by simp [Field.getLast?_text])
  rw [openEnded]
  cases last : record.text.getLast? with
  | none => exact absurd (List.getLast?_eq_none_iff.mp last) record.given
  | some c =>
      rw [last] at ending
      simpa using ending

end Record

/-! ### Files -/

inductive Ending where
  | lineFeed
  | carriageReturnLineFeed
  deriving DecidableEq

def Ending.text (marks : Marks α) : Ending → List α
  | lineFeed => [marks.lineFeed]
  | carriageReturnLineFeed => [marks.carriageReturn, marks.lineFeed]

theorem Ending.count_text (marks : Marks α) (ending : Ending) :
    (ending.text marks).count marks.lineFeed = 1 := by
  cases ending with
  | lineFeed => simp [Ending.text]
  | carriageReturnLineFeed =>
      simp [Ending.text, List.count_cons_of_ne marks.carriageReturn_ne_lineFeed]

/-- Records and blank lines that end in a line break, and a record at the end that does not. -/
structure File (marks : Marks α) where
  lines : List (Option (Record marks) × Ending)
  last : Option (Record marks)

namespace File

variable {marks : Marks α}

def lineText (line : Option (Record marks) × Ending) : List α :=
  (line.1.map Record.text).getD [] ++ line.2.text marks

def text (file : File marks) : List α :=
  file.lines.flatMap lineText ++ (file.last.map Record.text).getD []

omit [DecidableEq α] in
def records (file : File marks) : List (Record marks) :=
  file.lines.filterMap Prod.fst ++ file.last.toList

def OneLineEach (file : File marks) : Prop :=
  (∀ line ∈ file.lines, line.1 ≠ none) ∧ ∀ record ∈ file.records, record.OneLine

def breaks (records : List (Record marks)) : Nat := (records.map Record.breaks).sum

theorem count_lines (lines : List (Option (Record marks) × Ending)) :
    (lines.flatMap lineText).count marks.lineFeed =
      (lines.filterMap Prod.fst).length + lines.countP (·.1.isNone) +
        breaks (lines.filterMap Prod.fst) := by
  induction lines with
  | nil => rfl
  | cons line rest ih =>
      obtain ⟨content, ending⟩ := line
      rw [List.flatMap_cons, List.count_append, ih, lineText, List.count_append,
        ending.count_text]
      cases content with
      | none =>
          simp only [Option.map_none, Option.getD_none, List.count_nil, List.filterMap_cons,
            List.countP_cons, Option.isNone_none, if_true]
          omega
      | some record =>
          simp only [Option.map_some, Option.getD_some, List.filterMap_cons, List.length_cons,
            List.countP_cons, Option.isNone_some, Bool.false_eq_true, if_false, breaks,
            List.map_cons, List.sum_cons, Record.breaks]
          omega

theorem openEnded_text (file : File marks) :
    openEnded marks.lineFeed file.text = file.last.isSome := by
  rw [text]
  cases file.last with
  | some record =>
      have ending := record.openEnded_text
      simp only [openEnded, Option.map_some, Option.getD_some, List.getLast?_append] at ending ⊢
      cases last : record.text.getLast? with
      | none => simp [last] at ending
      | some c => simpa [last] using ending
  | none =>
      simp only [Option.map_none, Option.getD_none, List.append_nil, Option.isSome_none, openEnded]
      rcases List.eq_nil_or_concat file.lines with none | ⟨front, line, lines⟩
      · simp [none]
      · rw [lines, List.concat_eq_append, List.flatMap_append, List.getLast?_append]
        cases ending : line.2 <;> simp [lineText, ending, Ending.text, List.getLast?_append]

theorem length_lines (file : File marks) :
    (cutAfter marks.lineFeed file.text).length =
      file.records.length + file.lines.countP (·.1.isNone) + breaks file.records := by
  rw [length_cutAfter, openEnded_text, text, List.count_append, count_lines, records,
    List.length_append, breaks, breaks, List.map_append, List.sum_append]
  cases file.last with
  | none => simp
  | some record =>
      simp only [Option.map_some, Option.getD_some, Option.isSome_some, Bool.toNat_true,
        Option.toList_some, List.length_singleton, List.map_singleton, List.sum_singleton,
        Record.breaks]
      omega

theorem length_lines_eq_iff (file : File marks) :
    (cutAfter marks.lineFeed file.text).length = file.records.length ↔ file.OneLineEach := by
  have filled : file.lines.countP (·.1.isNone) = 0 ↔ ∀ line ∈ file.lines, line.1 ≠ none := by
    simp [List.countP_eq_zero]
  have whole : breaks file.records = 0 ↔ ∀ record ∈ file.records, record.OneLine := by
    simp [breaks, List.sum_eq_zero_iff_forall_eq_nat, Record.breaks_eq_zero_iff]
  rw [length_lines, OneLineEach, ← filled, ← whole]
  omega

end File

end CogniDQ.Text
