import CogniDQ.Ingestion.BatchIngestion
import CogniDQ.Python.Text
import CogniDQ.Python.Value
import CogniDQ.Text.Csv
import Mathlib.Data.List.TakeWhile

/-!
# Parsed files

The parsers of CSV and JSON files, the service that picks one by the type of a file, and the
ingestion job that takes its totals from the result. What pandas, chardet and the codecs do with a
file is given.
-/

set_option autoImplicit false

namespace CogniDQ.Ingestion

open CogniDQ.Python

/-- Why `json.loads` raised. -/
inductive LoadError where
  | decode (message : String)
  | other (message : String)

/-- The functions that the parsers call. An error is the text of the exception. -/
structure Readers (DataFrame Columns : Type) where
  unicode : Unicode
  /-- The encoding and how sure `chardet` is of it. -/
  detect : List UInt8 → Option String × Rat
  decode : String → List UInt8 → Except String (List Char)
  decodeIgnoring : String → List UInt8 → Except String (List Char)
  readCsv : List UInt8 → String → String → Int → Except String DataFrame
  loads : List Char → Except LoadError Value
  dataFrame : List Value → Except String DataFrame
  empty : DataFrame → Bool
  rows : DataFrame → Nat
  /-- Rewrites the texts in the columns of objects. -/
  mapText : (List Char → Option (List Char)) → DataFrame → DataFrame
  columnMetadata : DataFrame → Except String Columns

structure ParseResult (DataFrame Columns : Type) where
  data : DataFrame
  columns : Columns
  rowCount : Int
  fileSize : Nat
  encoding : Option String

variable {DataFrame Columns : Type} (readers : Readers DataFrame Columns)

/-! ### CSV -/

structure CSVParser where
  maxSampleSize : Int
  delimiter : Option String
  encoding : Option String

namespace CSVParser

/-- The number that `0.7` denotes. -/
def sureness : Rat := 3152519739159347 / 4503599627370496

def detectEncoding (file : List UInt8) : String :=
  match readers.detect (file.take 10240) with
  | (none, _) => "utf-8"
  | (some encoding, confidence) =>
    if encoding = "" ∨ confidence < sureness then "utf-8" else encoding

def delimiters : List Char := [',', ';', '\t', '|']

/-- The delimiter that occurs most often, and of several the first. -/
def mostFrequent (sample : List Char) : Char :=
  match delimiters.filter fun delimiter => 0 < sample.count delimiter with
  | [] => ','
  | first :: rest =>
    rest.foldl (fun best delimiter =>
      if sample.count best < sample.count delimiter then delimiter else best) first

def detectDelimiter (file : List UInt8) (encoding : String) : Except String String := do
  let sample ← readers.decodeIgnoring encoding (file.take 4096)
  return String.singleton (mostFrequent sample)

def normalizeCell (text : List Char) : Option (List Char) :=
  match readers.unicode.strip text with
  | [] => none
  | stripped => some stripped

/-- Iterating over a binary file gives its lines; the header is one of them. -/
def totalRows (file : List UInt8) : Int := (Text.cutAfter 10 file).length - 1

def parseSample (parser : CSVParser) (file : List UInt8) (encoding delimiter : String) :
    Except String (ParseResult DataFrame Columns) := do
  let sample ← readers.readCsv file encoding delimiter parser.maxSampleSize
  if readers.empty sample then throw "CSV file is empty or could not be parsed"
  let data := readers.mapText (normalizeCell readers) sample
  let columns ← readers.columnMetadata data
  return {
    data := data
    columns := columns
    rowCount := totalRows file
    fileSize := file.length
    encoding := some encoding }

def unset : Option String → Bool
  | none => true
  | some text => text = ""

def chosenEncoding (parser : CSVParser) (file : List UInt8) : String :=
  if unset parser.encoding then detectEncoding readers file else parser.encoding.getD ""

def chosenDelimiter (parser : CSVParser) (file : List UInt8) (encoding : String) :
    Except String String :=
  if unset parser.delimiter then detectDelimiter readers file encoding
  else .ok (parser.delimiter.getD "")

def parse (parser : CSVParser) (file : List UInt8) :
    Except String (ParseResult DataFrame Columns) := do
  let encoding := chosenEncoding readers parser file
  let delimiter ← chosenDelimiter readers parser file encoding
  match parseSample readers parser file encoding delimiter with
  | .ok result => .ok result
  | .error message => .error ("Failed to parse CSV file: " ++ message)

end CSVParser

/-! ### JSON -/

structure JSONParser where
  maxSampleSize : Int
  isLines : Bool

namespace JSONParser

/-- `values[:stop]`, where a negative stop counts from the end. -/
def upTo {α : Type} (values : List α) (stop : Int) : List α :=
  if stop < 0 then values.take (values.length + stop).toNat else values.take stop.toNat

def given (line : List Char) : Bool := !(readers.unicode.strip line).isEmpty

/-- The values of the lines from a number on, up to the sample size. -/
def readLines (maxSampleSize : Int) : Nat → List (List Char) → Except LoadError (List Value)
  | _, [] => .ok []
  | number, line :: rest => do
    if maxSampleSize ≤ number then return []
    if given readers line then
      let value ← readers.loads line
      let values ← readLines maxSampleSize (number + 1) rest
      return value :: values
    else readLines maxSampleSize (number + 1) rest

def jsonLines (content : List Char) : List (List Char) :=
  (readers.unicode.strip content).splitOn '\n'

def sampled (maxSampleSize : Int) : Value → Except LoadError (List Value)
  | .list values => .ok (upTo values maxSampleSize)
  | .dict entries =>
    match entries.findSome? fun entry => match entry.2 with
      | .list values => some values
      | _ => none with
    | some values => .ok (upTo values maxSampleSize)
    | none => .ok [.dict entries]
  | _ => .error (.other "JSON must be an array or object")

def values (parser : JSONParser) (isLines : Bool) (content : List Char) :
    Except LoadError (List Value) :=
  if isLines then readLines readers parser.maxSampleSize 0 (jsonLines readers content)
  else do
    let data ← readers.loads content
    sampled parser.maxSampleSize data

def orOther {α : Type} : Except String α → Except LoadError α
  | .ok value => .ok value
  | .error message => .error (.other message)

def parseContent (parser : JSONParser) (file : List UInt8) (isLines : Bool) :
    Except LoadError (ParseResult DataFrame Columns) := do
  let content ← orOther (readers.decode "utf-8" file)
  let values ← parser.values readers isLines content
  let data ← orOther (readers.dataFrame values)
  if readers.empty data then throw (.other "JSON file is empty or could not be parsed")
  let columns ← orOther (readers.columnMetadata data)
  return {
    data := data
    columns := columns
    rowCount := readers.rows data
    fileSize := file.length
    encoding := some "utf-8" }

def byLines (parser : JSONParser) (filename : List Char) : Bool :=
  parser.isLines || ".jsonl".toList.isSuffixOf filename

def parse (parser : JSONParser) (file : List UInt8) (filename : List Char) :
    Except String (ParseResult DataFrame Columns) :=
  match parser.parseContent readers file (parser.byLines filename) with
  | .ok result => .ok result
  | .error (.decode message) => .error ("Invalid JSON format: " ++ message)
  | .error (.other message) => .error ("Failed to parse JSON file: " ++ message)

end JSONParser

/-! ### The ingestion job -/

structure OtherParsers (DataFrame Columns : Type) where
  excel : List UInt8 → Except String (ParseResult DataFrame Columns)
  parquet : List UInt8 → Except String (ParseResult DataFrame Columns)

variable (others : OtherParsers DataFrame Columns)

def parseFile (file : List UInt8) (fileType : String) (originalFilename : List Char) :
    Except String (ParseResult DataFrame Columns) :=
  if fileType = "csv" then
    CSVParser.parse readers { maxSampleSize := 10000, delimiter := none, encoding := none } file
  else if fileType = "excel" then others.excel file
  else if fileType = "json" then
    JSONParser.parse readers { maxSampleSize := 10000, isLines := false } file originalFilename
  else if fileType = "parquet" then others.parquet file
  else .error ("Unsupported file type: " ++ fileType)

def pathName (path : List Char) : List Char :=
  ((path.splitOn '/').filter fun part => part ≠ [] ∧ part ≠ ['.']).getLast?.getD []

/-- The name from its last dot on, unless the dot is at one of its ends. -/
def pathSuffix (path : List Char) : List Char :=
  let name := pathName path
  let extension := (name.reverse.takeWhile (· ≠ '.')).reverse
  if extension ≠ [] ∧ extension.length + 1 < name.length then '.' :: extension else []

def fileTypeMap : List (String × String) :=
  [(".csv", "csv"), (".txt", "csv"), (".tsv", "csv"), (".xlsx", "excel"), (".xls", "excel"),
    (".json", "json"), (".jsonl", "json"), (".parquet", "parquet")]

def fileTypeOf (filePath : List Char) : String :=
  let ext := readers.unicode.lower (pathSuffix filePath)
  (fileTypeMap.lookup (String.ofList ext)).getD "csv"

def fileName (filePath : List Char) : List Char := (filePath.splitOn '/').getLast?.getD []

variable {Moment Profile : Type} [DecidableEq Moment] [DecidableEq Profile] [DecidableEq Columns]

/-- What `process_job` does once the job is marked as running. -/
def completeJob (profile : DataFrame → Except String Profile) (filePath : List Char)
    (file : List UInt8) (now : Moment) (job : IngestionJob Moment (Profile × Columns)) :
    Except String (IngestionJob Moment (Profile × Columns)) := do
  let result ← parseFile readers others file (fileTypeOf readers filePath) (fileName filePath)
  let profiled ← profile result.data
  return saveCompleted (some job) result.rowCount (profiled, result.columns) now job

end CogniDQ.Ingestion

/-!
## Row totals

The row count of a parsed file against the number of its data records. A CSV file is counted by its
physical lines, a JSON file by the rows of its sample, so each count is right for some files only.
-/

namespace CogniDQ.Ingestion

open CogniDQ.Python

/-! ### Lines that are not blank -/

section Blank

variable {DataFrame Columns : Type} {readers : Readers DataFrame Columns}

theorem given_eq_false_iff {line : List Char} :
    JSONParser.given readers line = false ↔ ∀ c ∈ line, readers.unicode.isSpace c = true := by
  have stripped : readers.unicode.strip line = [] ↔ ∀ c ∈ line, readers.unicode.isSpace c = true := by
    rw [Unicode.strip, List.reverse_eq_nil_iff, List.dropWhile_eq_nil_iff]
    constructor
    · intro blank
      by_contra visible
      have kept : line.dropWhile readers.unicode.isSpace ≠ [] := fun none =>
        visible (List.dropWhile_eq_nil_iff.mp none)
      have first := List.head_dropWhile_not readers.unicode.isSpace kept
      rw [blank _ (List.mem_reverse.mpr (List.head_mem kept))] at first
      exact absurd first (by decide)
    · intro blank c member
      exact blank c ((List.dropWhile_suffix _).subset (List.mem_reverse.mp member))
  rw [← stripped, JSONParser.given, Bool.not_eq_false', List.isEmpty_iff]

theorem given_cons {c : Char} {line : List Char} (space : readers.unicode.isSpace c = true) :
    JSONParser.given readers (c :: line) = JSONParser.given readers line := by
  rw [Bool.eq_iff_iff, ← not_iff_not, Bool.not_eq_true, Bool.not_eq_true, given_eq_false_iff,
    given_eq_false_iff, List.forall_mem_cons, and_iff_right space]

theorem given_concat {c : Char} {line : List Char} (space : readers.unicode.isSpace c = true) :
    JSONParser.given readers (line ++ [c]) = JSONParser.given readers line := by
  rw [Bool.eq_iff_iff, ← not_iff_not, Bool.not_eq_true, Bool.not_eq_true, given_eq_false_iff,
    given_eq_false_iff]
  simp [or_imp, forall_and, space]

variable (readers) in
/-- The number of records of a text that has one on every line that is not blank. -/
def lineRecords (content : List Char) : Nat :=
  (content.splitOn '\n').countP (JSONParser.given readers)

private theorem lineRecords_cons {c : Char} {content : List Char}
    (space : readers.unicode.isSpace c = true) :
    lineRecords readers (c :: content) = lineRecords readers content := by
  rw [lineRecords, lineRecords, List.splitOn_cons_eq_if_modifyHead]
  split
  · rw [List.countP_cons_of_neg]
    simp [given_eq_false_iff]
  · obtain ⟨line, lines, split⟩ := List.exists_cons_of_ne_nil (List.splitOn_ne_nil '\n' content)
    rw [split, List.modifyHead_cons, List.countP_cons, List.countP_cons, given_cons space]

private theorem splitOn_concat {c mark : Char} (other : c ≠ mark) (content : List Char) :
    ∃ lines last, content.splitOn mark = lines ++ [last] ∧
      (content ++ [c]).splitOn mark = lines ++ [last ++ [c]] := by
  induction content with
  | nil => exact ⟨[], [], by simp, by simp [List.splitOn_cons_eq_if_modifyHead, other]⟩
  | cons d content ih =>
      obtain ⟨lines, last, before, after⟩ := ih
      rw [List.cons_append, List.splitOn_cons_eq_if_modifyHead, List.splitOn_cons_eq_if_modifyHead,
        before, after]
      split
      · exact ⟨[] :: lines, last, rfl, rfl⟩
      · cases lines with
        | nil => exact ⟨[], d :: last, rfl, rfl⟩
        | cons line lines => exact ⟨(d :: line) :: lines, last, rfl, rfl⟩

private theorem lineRecords_concat {c : Char} {content : List Char}
    (space : readers.unicode.isSpace c = true) :
    lineRecords readers (content ++ [c]) = lineRecords readers content := by
  rw [lineRecords, lineRecords]
  by_cases newline : c = '\n'
  · rw [newline, List.splitOn_append_cons_self, List.countP_append, List.splitOn_nil,
      List.countP_singleton, given_eq_false_iff.mpr (by simp)]
    rfl
  · obtain ⟨lines, last, before, after⟩ := splitOn_concat newline content
    rw [before, after, List.countP_append, List.countP_append, List.countP_singleton,
      List.countP_singleton, given_concat space]

private theorem lineRecords_dropWhile (content : List Char) :
    lineRecords readers (content.dropWhile readers.unicode.isSpace) =
      lineRecords readers content := by
  induction content with
  | nil => rfl
  | cons c content ih =>
      cases space : readers.unicode.isSpace c with
      | false => rw [List.dropWhile_cons_of_neg (by simp [space])]
      | true => rw [List.dropWhile_cons_of_pos space, ih, lineRecords_cons space]

private theorem lineRecords_reverse_dropWhile (content : List Char) :
    lineRecords readers (content.dropWhile readers.unicode.isSpace).reverse =
      lineRecords readers content.reverse := by
  induction content with
  | nil => rfl
  | cons c content ih =>
      cases space : readers.unicode.isSpace c with
      | false => rw [List.dropWhile_cons_of_neg (by simp [space])]
      | true =>
          rw [List.dropWhile_cons_of_pos space, ih, List.reverse_cons, lineRecords_concat space]

private theorem lineRecords_strip (content : List Char) :
    lineRecords readers (readers.unicode.strip content) = lineRecords readers content := by
  rw [Unicode.strip, lineRecords_reverse_dropWhile, List.reverse_reverse, lineRecords_dropWhile]

end Blank

/-! ### What the parsers count -/

section Counts

variable {DataFrame Columns : Type}

structure Tabular (readers : Readers DataFrame Columns) : Prop where
  rows_dataFrame : ∀ (objects : List (List (String × Value))) data, readers.dataFrame (objects.map Value.dict) = .ok data →
    readers.rows data = objects.length
  /-- A data frame without rows is empty. -/
  empty_of_rows : ∀ data, readers.rows data = 0 → readers.empty data = true

variable {readers : Readers DataFrame Columns}

private theorem CSVParser.rowCount_of_parse {parser : CSVParser} {file : List UInt8}
    {result : ParseResult DataFrame Columns} (parsed : parser.parse readers file = .ok result) :
    result.rowCount = CSVParser.totalRows file := by
  obtain ⟨delimiter, _, parsed⟩ := bind_eq_ok parsed
  split at parsed
  · rename_i inner sampled
    obtain rfl := Except.ok.inj parsed
    obtain ⟨sample, _, sampled⟩ := bind_eq_ok sampled
    split at sampled
    · cases sampled
    · obtain ⟨columns, _, sampled⟩ := bind_eq_ok sampled
      obtain rfl := Except.ok.inj sampled
      rfl
  · cases parsed

namespace JSONParser

private theorem orOther_eq_ok {α : Type} {source : Except String α} {value : α}
    (read : orOther source = .ok value) : source = .ok value := by
  cases source with
  | error message => cases read
  | ok found => exact congrArg Except.ok (Except.ok.inj read)

theorem values_of_parse {parser : JSONParser} {file : List UInt8} {filename : List Char}
    {result : ParseResult DataFrame Columns} (parsed : parser.parse readers file filename = .ok result) :
    ∃ content values data, readers.decode "utf-8" file = .ok content ∧
      parser.values readers (parser.byLines filename) content = .ok values ∧
      readers.dataFrame values = .ok data ∧ readers.empty data = false ∧
      result.rowCount = readers.rows data := by
  rw [parse] at parsed
  split at parsed
  · rename_i inner parsedContent
    obtain rfl := Except.ok.inj parsed
    obtain ⟨content, decoded, parsedContent⟩ := bind_eq_ok parsedContent
    obtain ⟨values, read, parsedContent⟩ := bind_eq_ok parsedContent
    obtain ⟨data, made, parsedContent⟩ := bind_eq_ok parsedContent
    split at parsedContent
    · cases parsedContent
    · rename_i filled
      obtain ⟨columns, _, parsedContent⟩ := bind_eq_ok parsedContent
      obtain rfl := Except.ok.inj parsedContent
      exact ⟨content, values, data, orOther_eq_ok decoded, read, orOther_eq_ok made, by simpa using filled,
        rfl⟩
  · cases parsed
  · cases parsed

private theorem upTo_map {α β : Type} (f : α → β) (values : List α) (stop : Int) :
    upTo (values.map f) stop = (upTo values stop).map f := by
  rw [upTo, upTo, List.length_map]
  split <;> rw [List.map_take]

/-- A sample that is not empty is the whole list exactly if the list is no longer than the sample
size. -/
theorem length_upTo_eq_iff {α : Type} {values : List α} {stop : Int}
    (filled : (upTo values stop).length ≠ 0) :
    (upTo values stop).length = values.length ↔ (values.length : Int) ≤ stop := by
  rw [upTo] at filled ⊢
  split at filled
  · rw [if_pos ‹_›, List.length_take] at *
    omega
  · rw [if_neg ‹_›, List.length_take] at *
    omega

private theorem readLines_spec {maxSampleSize : Int} {lines : List (List Char)} {number : Nat}
    {values : List Value}
    (read : readLines readers maxSampleSize number lines = .ok values) :
    (∀ value ∈ values, ∃ line ∈ lines, given readers line = true ∧ readers.loads line = .ok value) ∧
      values.length = (lines.take (maxSampleSize - number).toNat).countP (given readers) := by
  induction lines generalizing number values with
  | nil =>
      obtain rfl := Except.ok.inj read
      simp
  | cons line rest ih =>
      rw [readLines] at read
      by_cases reached : maxSampleSize ≤ number
      · rw [if_pos reached] at read
        obtain rfl := Except.ok.inj read
        rw [Int.toNat_of_nonpos (by omega)]
        simp
      · rw [if_neg reached] at read
        have room : (maxSampleSize - number).toNat = (maxSampleSize - (number + 1 : Nat)).toNat + 1 := by
          omega
        rw [room, List.take_succ_cons]
        by_cases kept : given readers line = true
        · rw [if_pos kept] at read
          obtain ⟨value, loaded, read⟩ := bind_eq_ok read
          obtain ⟨later, readLater, read⟩ := bind_eq_ok read
          obtain rfl := Except.ok.inj read
          obtain ⟨each, count⟩ := ih readLater
          rw [List.countP_cons_of_pos kept, List.length_cons, count]
          refine ⟨?_, rfl⟩
          intro other member
          rcases List.mem_cons.mp member with rfl | member
          · exact ⟨line, List.mem_cons_self, kept, loaded⟩
          · obtain ⟨line, listed, found⟩ := each other member
            exact ⟨line, List.mem_cons_of_mem _ listed, found⟩
        · rw [if_neg kept] at read
          obtain ⟨each, count⟩ := ih read
          rw [List.countP_cons_of_neg kept]
          refine ⟨?_, count⟩
          intro other member
          obtain ⟨line, listed, found⟩ := each other member
          exact ⟨line, List.mem_cons_of_mem _ listed, found⟩

private theorem exists_objects {values : List Value}
    (objects : ∀ value ∈ values, ∃ entries, value = .dict entries) :
    ∃ list : List (List (String × Value)), values = list.map Value.dict := by
  induction values with
  | nil => exact ⟨[], rfl⟩
  | cons value rest ih =>
      obtain ⟨entries, rfl⟩ := objects value List.mem_cons_self
      obtain ⟨list, rfl⟩ := ih fun other member => objects other (List.mem_cons_of_mem _ member)
      exact ⟨entries :: list, rfl⟩

end JSONParser

/-! ### True counts -/

def Counts (parsed : Except String (ParseResult DataFrame Columns)) (records : Nat)
    (condition : Prop) : Prop :=
  ∀ result, parsed = .ok result → (result.rowCount = records ↔ condition)

def byteMarks (delimiter : UInt8) (other : delimiter ∉ [34, 13, 10]) : Text.Marks UInt8 where
  delimiter := delimiter
  quote := 34
  carriageReturn := 13
  lineFeed := 10
  distinct := List.nodup_cons.mpr ⟨other, by decide⟩

private theorem CSVParser.counts {delimiter : UInt8} {other : delimiter ∉ [34, 13, 10]}
    (file : Text.File (byteMarks delimiter other)) (header : file.records ≠ [])
    (parser : CSVParser) :
    Counts (parser.parse readers file.text) file.records.tail.length file.OneLineEach := by
  intro result parsed
  have lines : result.rowCount = ((Text.cutAfter 10 file.text).length : Int) - 1 :=
    rowCount_of_parse parsed
  have exact : (Text.cutAfter 10 file.text).length = file.records.length ↔ file.OneLineEach :=
    file.length_lines_eq_iff
  have positive := List.length_pos_of_ne_nil header
  rw [lines, List.length_tail, ← exact]
  omega

private theorem JSONParser.counts_array (tabular : Tabular readers) {file : List UInt8}
    {content filename : List Char} {objects : List (List (String × Value))}
    (decoded : readers.decode "utf-8" file = .ok content)
    (loaded : readers.loads content = .ok (.list (objects.map Value.dict)))
    (parser : JSONParser) (whole : parser.byLines filename = false) :
    Counts (parser.parse readers file filename) objects.length
      ((objects.length : Int) ≤ parser.maxSampleSize) := by
  intro result parsed
  obtain ⟨found, values, data, decodedFound, read, made, filled, count⟩ := values_of_parse parsed
  obtain rfl := Except.ok.inj (decoded.symm.trans decodedFound)
  have sample : values = (upTo objects parser.maxSampleSize).map Value.dict := by
    rw [JSONParser.values, whole, if_neg Bool.false_ne_true, loaded] at read
    rw [← upTo_map]
    exact (Except.ok.inj read).symm
  rw [sample] at made
  have rows := tabular.rows_dataFrame _ _ made
  have nonempty : (upTo objects parser.maxSampleSize).length ≠ 0 := by
    intro none
    rw [tabular.empty_of_rows data (rows.trans none)] at filled
    cases filled
  rw [count, rows, Int.natCast_inj, length_upTo_eq_iff nonempty]

private theorem JSONParser.counts_lines (tabular : Tabular readers) {file : List UInt8}
    {content filename : List Char} (decoded : readers.decode "utf-8" file = .ok content)
    (objects : ∀ line ∈ jsonLines readers content, given readers line = true →
      ∃ entries, readers.loads line = .ok (.dict entries))
    (parser : JSONParser) (divided : parser.byLines filename = true) :
    Counts (parser.parse readers file filename) (lineRecords readers content)
      (∀ line ∈ (jsonLines readers content).drop parser.maxSampleSize.toNat,
        given readers line = false) := by
  intro result parsed
  obtain ⟨found, values, data, decodedFound, read, made, filled, count⟩ := values_of_parse parsed
  obtain rfl := Except.ok.inj (decoded.symm.trans decodedFound)
  rw [JSONParser.values, divided, if_pos rfl] at read
  obtain ⟨each, length⟩ := readLines_spec read
  obtain ⟨list, rfl⟩ : ∃ list : List (List (String × Value)), values = list.map Value.dict := by
    refine exists_objects fun value member => ?_
    obtain ⟨line, listed, kept, loaded⟩ := each value member
    obtain ⟨entries, object⟩ := objects line listed kept
    exact ⟨entries, Except.ok.inj (loaded.symm.trans object)⟩
  have rows := tabular.rows_dataFrame _ _ made
  rw [List.length_map] at length
  have all : lineRecords readers content =
      ((jsonLines readers content).take parser.maxSampleSize.toNat).countP (given readers) +
        ((jsonLines readers content).drop parser.maxSampleSize.toNat).countP (given readers) := by
    rw [← List.countP_append, List.take_append_drop, ← lineRecords_strip]
    rfl
  have past : ((jsonLines readers content).drop parser.maxSampleSize.toNat).countP (given readers) = 0 ↔
      ∀ line ∈ (jsonLines readers content).drop parser.maxSampleSize.toNat,
        given readers line = false := by
    simp [List.countP_eq_zero]
  rw [count, rows, length, all, ← past, Int.natCast_inj]
  simp

end Counts

/-! ### True totals -/

section Totals

variable {DataFrame Columns Moment Profile : Type} [DecidableEq Moment] [DecidableEq Profile]
  [DecidableEq Columns] {readers : Readers DataFrame Columns}
  {others : OtherParsers DataFrame Columns}

/-- The total of a completed job is the number exactly under a condition. -/
def Totals (completed : Except String (IngestionJob Moment (Profile × Columns))) (records : Nat)
    (condition : Prop) : Prop :=
  ∀ job, completed = .ok job → (job.totalRows = some (records : Int) ↔ condition)

theorem totals_of_counts {profile : DataFrame → Except String Profile} {filePath : List Char}
    {file : List UInt8} {now : Moment} {job : IngestionJob Moment (Profile × Columns)}
    {records : Nat} {condition : Prop}
    (counts : Counts
      (parseFile readers others file (fileTypeOf readers filePath) (fileName filePath)) records
      condition) :
    Totals (completeJob readers others profile filePath file now job) records condition := by
  intro completed success
  obtain ⟨result, parsed, success⟩ := bind_eq_ok success
  obtain ⟨profiled, _, success⟩ := bind_eq_ok success
  obtain rfl := Except.ok.inj success
  have total : (saveCompleted (some job) result.rowCount (profiled, result.columns) now job).totalRows =
      some result.rowCount := by
    simp only [saveCompleted, saved, Option.map_some]
    split
    · rename_i same
      exact Option.some.inj same
    · rfl
  rw [total, Option.some_inj]
  exact counts result parsed

/-- A CSV file is counted right exactly if it has no blank line and no record with a line feed in a
field; a JSON array exactly if it fits into the sample; a file of JSON lines exactly if no line past
the sample holds an object. -/
theorem rowTotals_true_iff (tabular : Tabular readers)
    (profile : DataFrame → Except String Profile) (filePath : List Char) (now : Moment)
    (job : IngestionJob Moment (Profile × Columns)) :
    (∀ (delimiter : UInt8) (other : delimiter ∉ [34, 13, 10])
        (file : Text.File (byteMarks delimiter other)), file.records ≠ [] →
      (∀ parser : CSVParser, Counts (parser.parse readers file.text) file.records.tail.length
        file.OneLineEach) ∧
      (fileTypeOf readers filePath = "csv" →
        Totals (completeJob readers others profile filePath file.text now job)
          file.records.tail.length file.OneLineEach)) ∧
    (∀ (file : List UInt8) (content : List Char) (objects : List (List (String × Value))),
        readers.decode "utf-8" file = .ok content →
        readers.loads content = .ok (.list (objects.map Value.dict)) →
      (∀ (parser : JSONParser) (filename : List Char), parser.byLines filename = false →
        Counts (parser.parse readers file filename) objects.length
          ((objects.length : Int) ≤ parser.maxSampleSize)) ∧
      (fileTypeOf readers filePath = "json" → ¬ ".jsonl".toList <:+ fileName filePath →
        Totals (completeJob readers others profile filePath file now job) objects.length
          (objects.length ≤ 10000))) ∧
    ∀ (file : List UInt8) (content : List Char), readers.decode "utf-8" file = .ok content →
        (∀ line ∈ JSONParser.jsonLines readers content, JSONParser.given readers line = true →
          ∃ entries, readers.loads line = .ok (.dict entries)) →
      (∀ (parser : JSONParser) (filename : List Char), parser.byLines filename = true →
        Counts (parser.parse readers file filename) (lineRecords readers content)
          (∀ line ∈ (JSONParser.jsonLines readers content).drop parser.maxSampleSize.toNat,
            JSONParser.given readers line = false)) ∧
      (fileTypeOf readers filePath = "json" → ".jsonl".toList <:+ fileName filePath →
        Totals (completeJob readers others profile filePath file now job)
          (lineRecords readers content)
          (∀ line ∈ (JSONParser.jsonLines readers content).drop 10000,
            JSONParser.given readers line = false)) := by
  refine ⟨?_, ?_, ?_⟩
  · intro delimiter other file header
    refine ⟨fun parser => parser.counts file header, ?_⟩
    intro type
    refine totals_of_counts ?_
    rw [type, parseFile, if_pos rfl]
    exact CSVParser.counts file header _
  · intro file content objects decoded loaded
    refine ⟨fun parser filename whole => parser.counts_array tabular decoded loaded whole, ?_⟩
    intro type name
    refine totals_of_counts ?_
    rw [type, parseFile, if_neg (by decide), if_neg (by decide), if_pos rfl]
    intro result parsed
    have whole : JSONParser.byLines ⟨10000, false⟩ (fileName filePath) = false := by
      simpa [JSONParser.byLines, ← List.isSuffixOf_iff_suffix] using name
    rw [JSONParser.counts_array tabular decoded loaded _ whole result parsed]
    exact @Int.ofNat_le objects.length 10000
  · intro file content decoded objects
    refine ⟨fun parser filename divided => parser.counts_lines tabular decoded objects divided, ?_⟩
    intro type name
    refine totals_of_counts ?_
    rw [type, parseFile, if_neg (by decide), if_neg (by decide), if_pos rfl]
    have divided : JSONParser.byLines ⟨10000, false⟩ (fileName filePath) = true := by
      simpa [JSONParser.byLines, ← List.isSuffixOf_iff_suffix] using name
    exact JSONParser.counts_lines tabular decoded objects _ divided

private def plainReaders (rowCount : Nat) : Readers Nat Unit where
  unicode := .ascii
  detect _ := (some "ascii", 1)
  decode _ file := .ok (file.map fun byte => Char.ofNat byte.toNat)
  decodeIgnoring _ file := .ok (file.map fun byte => Char.ofNat byte.toNat)
  readCsv _ _ _ _ := .ok rowCount
  loads _ := .error (.decode "Expecting value: line 1 column 1 (char 0)")
  dataFrame values := .ok values.length
  empty rows := rows == 0
  rows := id
  mapText _ rows := rows
  columnMetadata _ := .ok ()

private def letterRecord : Text.Record (byteMarks 44 (by decide)) :=
  ⟨[.bare [97] (by simp [byteMarks, Text.Marks.all])], List.cons_ne_nil 97 []⟩

private def quotedRecord : Text.Record (byteMarks 44 (by decide)) :=
  ⟨[.quoted [97, 44, 97]], by decide⟩

private def letters : Text.File (byteMarks 44 (by decide)) :=
  ⟨[(some letterRecord, .lineFeed), (some quotedRecord, .lineFeed)], some letterRecord⟩

/-- Two records below the header, one of them quoted. -/
theorem letters_counted :
    ∃ result, CSVParser.parse (plainReaders 2) ⟨10000, none, none⟩ letters.text = .ok result ∧
      result.rowCount = 2 := by
  have tabular : Tabular (plainReaders 2) := by
    constructor
    · intro objects data made
      have rows : (objects.map Value.dict).length = data := Except.ok.inj made
      rw [← rows, List.length_map]
      rfl
    · intro data none
      exact beq_iff_eq.mpr none
  have counted :=
    (@rowTotals_true_iff Nat Unit Unit Unit _ _ _ (plainReaders 2)
      ⟨fun _ => .error "", fun _ => .error ""⟩ tabular (fun _ => .ok ()) [] ()
      (createdJob "" "")).1 44 (by decide) letters (List.cons_ne_nil _ _)
  refine ⟨_, rfl, (counted.1 ⟨10000, none, none⟩ _ rfl).mpr ⟨?_, ?_⟩⟩
  · simp [letters]
  · intro record member
    have either : record = letterRecord ∨ record = quotedRecord := by
      simpa [Text.File.records, letters, or_comm] using member
    rcases either with rfl | rfl
    · intro field listed
      obtain rfl := List.mem_singleton.mp listed
      exact (by decide : (10 : UInt8) ∉ [97])
    · intro field listed
      obtain rfl := List.mem_singleton.mp listed
      exact (by decide : (10 : UInt8) ∉ [97, 44, 97])

private def letterBreak : Text.File (byteMarks 44 (by decide)) :=
  ⟨[(some letterRecord, .lineFeed), (some ⟨[.quoted [97, 10, 97]], by decide⟩, .lineFeed)], none⟩

theorem letterBreak_counted_twice :
    letterBreak.records.tail.length = 1 ∧
      ∃ result, CSVParser.parse (plainReaders 1) ⟨10000, none, none⟩ letterBreak.text =
          .ok result ∧
        result.rowCount = 2 :=
  ⟨rfl, _, rfl, rfl⟩

end Totals

end CogniDQ.Ingestion
