import CogniDQ.Python.IpAddress

/-!
# Numeric hosts

The addresses that a socket takes in numeric form: what `inet_aton` reads, where a part may be
decimal, octal or hexadecimal and the last part may stand for several bytes, and version 6 addresses.
-/

set_option autoImplicit false

namespace CogniDQ.Python.IpAddress

def readDigits (base : Nat) (digits : List Char) : Option Nat :=
  if digits.isEmpty then none
  else digits.foldlM (fun value digit =>
    ((hexDigit digit).filter fun number => decide (number < base)).map (base * value + ·)) 0

/-- One part, in the notation of C: hexadecimal after `0x`, octal after a zero. -/
def parseNumber : List Char → Option Nat
  | '0' :: mark :: digits =>
    if mark = 'x' || mark = 'X' then readDigits 16 digits else readDigits 8 (mark :: digits)
  | digits => readDigits 10 digits

/-- Every part but the last is a byte; the last one fills the bytes that are left. -/
def packParts : List Nat → Option Nat
  | [last] => if last < 2 ^ 32 then some last else none
  | [first, last] =>
    if first < 256 ∧ last < 2 ^ 24 then some (first * 2 ^ 24 + last) else none
  | [first, second, last] =>
    if first < 256 ∧ second < 256 ∧ last < 2 ^ 16 then
      some ((first * 256 + second) * 2 ^ 16 + last)
    else none
  | [first, second, third, last] =>
    if first < 256 ∧ second < 256 ∧ third < 256 ∧ last < 256 then
      some (((first * 256 + second) * 256 + third) * 256 + last)
    else none
  | _ => none

def inetAton (text : List Char) : Option Nat :=
  ((text.splitOn '.').mapM parseNumber).bind packParts

/-- A host in numeric form. Left out are digits that IDNA maps to decimal ones, labels of more than 63
characters, and whether the scope of a version 6 address names an interface. -/
def ofNumericHost (host : String) : Option IpAddress :=
  match inetAton host.toList with
  | some bits => some (.v4 bits)
  | none => (parseV6 host.toList).map .v6

example : inetAton "127.1".toList = some (127 * 2 ^ 24 + 1) := by decide +kernel

example : inetAton "0x7f.0.0.010".toList = some (127 * 2 ^ 24 + 8) ∧
    inetAton "127.0.0.08".toList = none := by decide +kernel

/-! ### A dotted quad is read in the same way by both -/

theorem hexDigit_of_isDigit {digit : Char} (decimal : digit.isDigit = true) :
    hexDigit digit = some (digit.toNat - '0'.toNat) := by
  simp [hexDigit, decimal]

theorem readDigits_decimal {digits : List Char} (given : digits ≠ [])
    (decimal : ∀ digit ∈ digits, digit.isDigit = true) :
    readDigits 10 digits =
      some (digits.foldl (fun value digit => 10 * value + (digit.toNat - '0'.toNat)) 0) := by
  have folded (start : Nat) : digits.foldlM (fun value digit =>
      ((hexDigit digit).filter fun number => decide (number < 10)).map (10 * value + ·)) start =
        some (digits.foldl (fun value digit => 10 * value + (digit.toNat - '0'.toNat)) start) := by
    clear given
    induction digits generalizing start with
    | nil => rfl
    | cons digit rest ih =>
      rw [List.forall_mem_cons] at decimal
      have small : digit.toNat - '0'.toNat < 10 := by
        have bounds := decimal.1
        simp only [Char.isDigit, Bool.and_eq_true, decide_eq_true_eq] at bounds
        have high : digit.toNat ≤ 57 := bounds.2
        have zero : '0'.toNat = 48 := rfl
        omega
      have kept : (some (digit.toNat - '0'.toNat)).filter (fun number => decide (number < 10)) =
          some (digit.toNat - '0'.toNat) := if_pos (decide_eq_true small)
      rw [List.foldlM_cons, hexDigit_of_isDigit decimal.1, kept, List.foldl_cons]
      exact ih decimal.2 _
  rw [readDigits, if_neg (by simpa using given)]
  exact folded 0

theorem parseNumber_of_parseOctet {text : List Char} {value : Nat}
    (read : parseOctet text = some value) : parseNumber text = some value ∧ value < 256 := by
  unfold parseOctet at read
  dsimp only at read
  split_ifs at read with malformed padded large
  simp only [Bool.or_eq_true, List.isEmpty_iff, Bool.not_eq_true', List.all_eq_false,
    decide_eq_true_eq, not_or, not_exists, not_and, Bool.not_eq_true, Bool.not_eq_false] at malformed
  have decimal := readDigits_decimal malformed.1.1 fun digit listed => by
    simpa using malformed.1.2 digit listed
  refine ⟨?_, by have := Option.some.inj read; omega⟩
  rw [← read, ← decimal]
  match text, padded with
  | [], _ => rfl
  | [_], _ => simp [parseNumber]
  | first :: mark :: digits, padded =>
    have other : first ≠ '0' := by
      rintro rfl
      simp at padded
    unfold parseNumber
    split
    · rename_i same
      exact absurd (List.cons.inj same).1 other
    · rfl

theorem inetAton_of_parseV4 {text : List Char} {bits : Nat} (read : parseV4 text = some bits) :
    inetAton text = some bits := by
  unfold parseV4 at read
  split at read
  · rename_i first second third fourth parts
    simp only [Option.bind_eq_bind, Option.bind_eq_some_iff] at read
    obtain ⟨a, readA, b, readB, c, readC, d, readD, packed⟩ := read
    obtain ⟨numberA, smallA⟩ := parseNumber_of_parseOctet readA
    obtain ⟨numberB, smallB⟩ := parseNumber_of_parseOctet readB
    obtain ⟨numberC, smallC⟩ := parseNumber_of_parseOctet readC
    obtain ⟨numberD, smallD⟩ := parseNumber_of_parseOctet readD
    rw [inetAton, parts, ← packed]
    simp [numberA, numberB, numberC, numberD, packParts, smallA, smallB, smallC, smallD]
  · cases read

/-! ### The characters of a numeric host -/

/-- A digit of some base, the mark of a hexadecimal number, or the dot between the parts. -/
def InQuad (c : Char) : Prop := c = '.' ∨ c = 'x' ∨ c = 'X' ∨ (hexDigit c).isSome = true

theorem hexDigit_of_readDigits {base value : Nat} {digits : List Char}
    (read : readDigits base digits = some value) :
    ∀ digit ∈ digits, (hexDigit digit).isSome = true := by
  unfold readDigits at read
  split_ifs at read with blank
  have folded (start : Nat) (result : digits.foldlM (fun value digit =>
      ((hexDigit digit).filter fun number => decide (number < base)).map (base * value + ·)) start =
        some value) : ∀ digit ∈ digits, (hexDigit digit).isSome = true := by
    clear read blank
    induction digits generalizing start with
    | nil => exact fun _ listed => nomatch listed
    | cons digit rest ih =>
      rw [List.foldlM_cons] at result
      obtain ⟨next, stepped, result⟩ := Option.bind_eq_some_iff.mp result
      obtain ⟨number, kept, -⟩ := Option.map_eq_some_iff.mp stepped
      obtain ⟨known, -⟩ := Option.filter_eq_some_iff.mp kept
      rw [List.forall_mem_cons]
      exact ⟨by rw [known]; rfl, ih next result⟩
  exact folded 0 read

theorem inQuad_of_parseNumber {part : List Char} {value : Nat}
    (read : parseNumber part = some value) : ∀ c ∈ part, InQuad c := by
  have digits {base : Nat} {text : List Char} (read : readDigits base text = some value) :
      ∀ c ∈ text, InQuad c :=
    fun c listed => .inr (.inr (.inr (hexDigit_of_readDigits read c listed)))
  have zero : InQuad '0' := .inr (.inr (.inr rfl))
  unfold parseNumber at read
  split at read
  · rename_i mark rest
    rw [List.forall_mem_cons]
    split_ifs at read with hexadecimal
    · rw [List.forall_mem_cons]
      rw [Bool.or_eq_true, decide_eq_true_eq, decide_eq_true_eq] at hexadecimal
      exact ⟨zero, hexadecimal.elim (fun same => .inr (.inl same))
        (fun same => .inr (.inr (.inl same))), digits read⟩
    · exact ⟨zero, digits read⟩
  · exact digits read

theorem inQuad_of_inetAton {text : List Char} {bits : Nat} (read : inetAton text = some bits) :
    ∀ c ∈ text, InQuad c := by
  obtain ⟨numbers, parsed, -⟩ := Option.bind_eq_some_iff.mp read
  have inParts (parts : List (List Char)) (numbers : List Nat)
      (parsed : parts.mapM parseNumber = some numbers) :
      ∀ c ∈ ['.'].intercalate parts, InQuad c := by
    induction parts generalizing numbers with
    | nil => exact fun _ listed => nomatch listed
    | cons part rest ih =>
      rw [List.mapM_cons] at parsed
      obtain ⟨number, first, parsed⟩ := Option.bind_eq_some_iff.mp parsed
      obtain ⟨others, remaining, -⟩ := Option.bind_eq_some_iff.mp parsed
      cases rest with
      | nil => simpa [List.intercalate] using inQuad_of_parseNumber first
      | cons second rest =>
        intro c listed
        rw [List.intercalate_cons_cons] at listed
        rcases List.mem_append.mp listed with before | after
        · rcases List.mem_append.mp before with inPart | dot
          · exact inQuad_of_parseNumber first c inPart
          · exact .inl (List.mem_singleton.mp dot)
        · exact ih others remaining c after
  have whole := inParts _ _ parsed
  rwa [List.intercalate_splitOn] at whole

theorem hexDigit_ascii {c : Char} (digit : (hexDigit c).isSome = true) : c.toNat < 128 := by
  unfold hexDigit at digit
  split_ifs at digit with decimal lower upper
  · simp only [Char.isDigit, Bool.and_eq_true, decide_eq_true_eq] at decimal
    have high : c.toNat ≤ 57 := decimal.2
    omega
  · have high : c.toNat ≤ 102 := lower.2
    omega
  · have high : c.toNat ≤ 70 := upper.2
    omega
  · cases digit

theorem InQuad.ascii {c : Char} (inQuad : InQuad c) : c.toNat < 128 := by
  rcases inQuad with rfl | rfl | rfl | digit
  · decide
  · decide
  · decide
  · exact hexDigit_ascii digit

theorem InQuad.toLower_ne {c : Char} (inQuad : InQuad c) : c.toLower ≠ 'l' := by
  intro same
  unfold Char.toLower at same
  split at same
  · rename_i upper
    have code := congrArg Char.toNat same
    have low : 65 ≤ c.toNat := upper.1
    have high : c.toNat ≤ 90 := upper.2
    simp at code
    obtain rfl : c = 'L' := Char.ext (UInt32.toNat_inj.mp (by change c.toNat = 76; omega))
    simp [InQuad, hexDigit] at inQuad
  · subst same
    simp [InQuad, hexDigit] at inQuad

theorem colon_of_parseV6 {text : List Char} {bits : Nat} (read : parseV6 text = some bits) :
    ':' ∈ text := by
  by_contra absent
  have parts : (text.takeWhile (· != '%')).splitOn ':' = [text.takeWhile (· != '%')] :=
    List.splitOn_eq_singleton fun listed => absent (List.takeWhile_subset _ listed)
  unfold parseV6 at read
  simp [parts] at read

theorem inetAton_of_colon {text : List Char} (colon : ':' ∈ text) : inetAton text = none := by
  cases read : inetAton text with
  | none => rfl
  | some bits =>
    have inQuad := inQuad_of_inetAton read ':' colon
    simp [InQuad, hexDigit] at inQuad

end CogniDQ.Python.IpAddress
