import CogniDQ.Python.Text
import CogniDQ.Python.Value

/-!
# Dynamically typed operations

What the compiler does with a parameter whose type nothing has checked: format
it, walk it, compare it, look it up in a set, read a number from its text.
-/

set_option autoImplicit false

namespace CogniDQ.Python

/-- What is left to the interpreter: the Unicode tables, the text of floats and
containers, the nearest float to a number, and the reading of a float (nothing for
`ValueError` and for NaN, an infinity as `some none`). -/
structure Runtime extends Unicode where
  isWord : Char → Bool
  upper : List Char → List Char
  repr : Value → String
  digitValue : Char → Nat
  nearest : Rat → Rat
  parseFloat : List Char → Option (Option Rat)
  isWord_ascii : ∀ c, c.toNat < 128 → isWord c = (c.isAlphanum || c == '_')
  upper_ascii : ∀ text, (∀ c ∈ text, c.toNat < 128) → upper text = text.map Char.toUpper
  digitValue_ascii : ∀ c, c.isDigit = true → digitValue c = c.toNat - '0'.toNat

namespace Runtime

/-- `str(value)`, which an f-string applies to what stands between its braces. -/
def str (runtime : Runtime) : Value → String
  | .none => "None"
  | .bool true => "True"
  | .bool false => "False"
  | .int value => toString value
  | .str value => value
  | other => runtime.repr other

@[simp] theorem str_str (runtime : Runtime) (text : String) : runtime.str (.str text) = text := rfl

def int (runtime : Runtime) (digits : List Char) : Nat :=
  digits.foldl (fun value c => 10 * value + runtime.digitValue c) 0

def stripStr (runtime : Runtime) (text : String) : String :=
  String.ofList (runtime.strip text.toList)

def lowerStr (runtime : Runtime) (text : String) : String :=
  String.ofList (runtime.lower text.toList)

def upperStr (runtime : Runtime) (text : String) : String :=
  String.ofList (runtime.upper text.toList)

/-- The digits of an integer literal, which single underscores may separate. -/
def digitsOf (runtime : Runtime) : Bool → List Char → Option (List Char)
  | _, [] => some []
  | afterDigit, c :: rest =>
      if runtime.isDigit c then (digitsOf runtime true rest).map (c :: ·)
      else if c = '_' ∧ afterDigit = true then
        match rest with
        | next :: _ => if runtime.isDigit next then digitsOf runtime false rest else none
        | [] => none
      else none

def parseInt (runtime : Runtime) (text : List Char) : Option Int :=
  let unsigned (digits : List Char) : Option Int :=
    if digits.isEmpty then none
    else (digitsOf runtime false digits).map fun found => (runtime.int found : Int)
  match runtime.strip text with
  | '-' :: digits => (unsigned digits).map (-·)
  | '+' :: digits => unsigned digits
  | digits => unsigned digits

/-- The tables restricted to ASCII, with no floats and no containers to format. -/
def ascii : Runtime where
  toUnicode := Unicode.ascii
  isWord c := c.isAlphanum || c == '_'
  upper := List.map Char.toUpper
  repr _ := ""
  digitValue c := c.toNat - '0'.toNat
  nearest value := value
  parseFloat _ := none
  isWord_ascii _ _ := rfl
  upper_ascii _ _ := rfl
  digitValue_ascii _ _ := rfl

end Runtime

namespace Value

def is (value : Value) (text : String) : Bool :=
  match value with
  | .str other => other == text
  | _ => false

@[simp] theorem is_iff {value : Value} {text : String} :
    value.is text = true ↔ value = .str text := by
  cases value <;> simp [is]

def elements : Value → Except Exn (List Value)
  | .list values => .ok values
  | .str text => .ok (text.toList.map fun c => .str (String.singleton c))
  | .dict entries => .ok (entries.map fun entry => .str entry.1)
  | _ => .error .typeError

def first : Value → Except Exn Value
  | .list (value :: _) => .ok value
  | .list [] => .error .indexError
  | .str text =>
      match text.toList with
      | c :: _ => .ok (.str (String.singleton c))
      | [] => .error .indexError
  | .dict _ => .error (.keyError "0")
  | _ => .error .typeError

def isText : Value → Bool
  | .str _ => true
  | _ => false

def asText : Value → Except Exn String
  | .str text => .ok text
  | _ => .error .attributeError

def toInt (runtime : Runtime) : Value → Except Exn Int
  | .int value => .ok value
  | .bool value => .ok (if value then 1 else 0)
  | .float value => .ok (value.num.tdiv value.den)
  | .str text =>
      match runtime.parseInt text.toList with
      | some value => .ok value
      | Option.none => .error (.valueError "invalid literal for int()")
  | _ => .error .typeError

/-- `value in {...}`: a list or a dictionary has no hash. -/
def memberOf (value : Value) (members : List String) : Except Exn Bool :=
  match value with
  | .str text => .ok (members.contains text)
  | .list _ => .error .typeError
  | .dict _ => .error .typeError
  | _ => .ok false

def lookupIn {α : Type} (value : Value) (entries : List (String × α)) : Except Exn (Option α) :=
  match value with
  | .str text => .ok (entries.lookup text)
  | .list _ => .error .typeError
  | .dict _ => .error .typeError
  | _ => .ok Option.none

theorem eq_str_of_memberOf {value : Value} {members : List String}
    (member : value.memberOf members = .ok true) : ∃ text ∈ members, value = .str text := by
  cases value with
  | str text => exact ⟨text, by simpa [memberOf] using member, rfl⟩
  | _ => simp [memberOf] at member

theorem truthy_of_elements {value element : Value} {rest : List Value}
    (found : value.elements = .ok (element :: rest)) : value.truthy = true := by
  cases value with
  | list values =>
      obtain rfl := Except.ok.inj found
      rfl
  | str text =>
      have given := Except.ok.inj found
      have nonempty : text ≠ "" := by
        rintro rfl
        simp at given
      simpa [truthy] using nonempty
  | dict entries =>
      have given := Except.ok.inj found
      have nonempty : entries ≠ [] := by
        rintro rfl
        simp at given
      simpa [truthy] using nonempty
  | _ => cases found

theorem truthy_of_no_elements {value : Value} (none : value.elements = .ok []) :
    value.truthy = false := by
  cases value with
  | list values =>
      obtain rfl := Except.ok.inj none
      rfl
  | str text =>
      have empty := List.map_eq_nil_iff.mp (Except.ok.inj none)
      simp [truthy, String.toList_eq_nil_iff.mp empty]
  | dict entries =>
      obtain rfl := List.map_eq_nil_iff.mp (Except.ok.inj none)
      rfl
  | _ => cases none

end Value

/-- `text.split(mark)[0]`: what stands before the first occurrence. -/
def beforeMark (mark : List Char) : List Char → List Char
  | [] => []
  | c :: rest =>
      if mark.isPrefixOf (c :: rest) then [] else c :: beforeMark mark rest

/-- `text.split(".", 1)`: the first part, and the rest if there is a dot. -/
def splitDot (text : String) : String × Option String :=
  match text.toList.dropWhile (· != '.') with
  | _ :: rest => (String.ofList (text.toList.takeWhile (· != '.')), some (String.ofList rest))
  | [] => (text, none)

end CogniDQ.Python
