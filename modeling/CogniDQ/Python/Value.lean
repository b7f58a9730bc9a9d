import Mathlib.Data.Rat.Defs
import Mathlib.Data.List.Perm.Basic

/-!
# Python values

The dynamically typed values that configurations, rule parameters and result
rows hold, with the reading conventions of the language: truthiness, dictionary
access with a default, and the unspecified order in which a set is walked.
-/

set_option autoImplicit false

namespace CogniDQ.Python

/-- A JSON-like value. A float is kept as the rational number it denotes. -/
inductive Value where
  | none
  | bool (value : Bool)
  | int (value : Int)
  | float (value : Rat)
  | str (value : String)
  | list (values : List Value)
  | dict (entries : List (String × Value))

def Dict : Type := List (String × Value)

/-- The exceptions the modelled code raises. `outOfFuel` is not one of Python's:
it marks a loop that a model cut short, and no reachable call produces it. -/
inductive Exn where
  | keyError (key : String)
  | indexError
  | valueError (message : String)
  | overflowError
  | attributeError
  | typeError
  | invalidOperation
  | recursionError
  | databaseError
  | outOfFuel
deriving DecidableEq, Repr

theorem bind_eq_ok {Error α β : Type} {source : Except Error α} {continuation : α → Except Error β}
    {result : β} (success : (source >>= continuation) = .ok result) :
    ∃ value, source = .ok value ∧ continuation value = .ok result := by
  cases source with
  | error error => simp [bind, Except.bind] at success
  | ok value => exact ⟨value, rfl, success⟩

namespace Value

/-- `bool(value)`: zero and the empty containers are false. -/
def truthy : Value → Bool
  | .none => false
  | .bool value => value
  | .int value => value != 0
  | .float value => value != 0
  | .str value => value != ""
  | .list values => !values.isEmpty
  | .dict entries => !entries.isEmpty

def isNone : Value → Bool
  | .none => true
  | _ => false

/-- `left or right`, which returns one of its operands. -/
def or (left right : Value) : Value := if left.truthy then left else right

end Value

namespace Dict

def has (dictionary : Dict) (key : String) : Bool := (List.lookup key dictionary).isSome

/-- `dictionary.get(key, default)`: the default is used only when the key is absent. -/
def getD (dictionary : Dict) (key : String) (default : Value) : Value :=
  (List.lookup key dictionary).getD default

def get (dictionary : Dict) (key : String) : Value := dictionary.getD key .none

def set (dictionary : Dict) (key : String) (value : Value) : Dict :=
  if dictionary.has key then
    List.map (fun entry => if entry.1 = key then (key, value) else entry) dictionary
  else List.append dictionary [(key, value)]

def truthy (dictionary : Dict) : Bool := !List.isEmpty dictionary

theorem lookup_set_self {dictionary : Dict} {key : String} {value : Value} :
    List.lookup key (dictionary.set key value) = some value := by
  have mapped (entries : List (String × Value)) (present : (entries.lookup key).isSome = true) :
      (entries.map fun entry => if entry.1 = key then (key, value) else entry).lookup key =
        some value := by
    induction entries with
    | nil => cases present
    | cons entry rest ih =>
        obtain ⟨name, held⟩ := entry
        by_cases same : name = key
        · simp [same]
        · have skipped : (key == name) = false := by simpa using Ne.symm same
          simp only [List.lookup_cons, skipped] at present
          simp [List.lookup_cons, same, skipped, ih present]
  have appended (entries : List (String × Value)) (absent : entries.lookup key = Option.none) :
      (entries ++ [(key, value)]).lookup key = some value := by
    simp [List.lookup_append, absent]
  by_cases present : dictionary.has key = true
  · exact (congrArg (List.lookup key) (if_pos present)).trans (mapped dictionary present)
  · exact (congrArg (List.lookup key) (if_neg present)).trans
      (appended dictionary (by simpa [has] using present))

theorem get_set_self {dictionary : Dict} {key : String} {value : Value} :
    (dictionary.set key value).get key = value :=
  congrArg (fun found => found.getD Value.none) lookup_set_self

theorem lookup_set_of_ne {dictionary : Dict} {key other : String} {value : Value}
    (distinct : key ≠ other) :
    List.lookup other (dictionary.set key value) = List.lookup other dictionary := by
  have mapped (entries : List (String × Value)) :
      (entries.map fun entry => if entry.1 = key then (key, value) else entry).lookup other =
        entries.lookup other := by
    induction entries with
    | nil => rfl
    | cons entry rest ih =>
        obtain ⟨name, held⟩ := entry
        by_cases same : name = key
        · have skipped : (other == key) = false := by simpa using distinct.symm
          simp [List.lookup_cons, same, ih, skipped]
        · simp [List.lookup_cons, same, ih]
  have appended (entries : List (String × Value)) :
      (entries ++ [(key, value)]).lookup other = entries.lookup other := by
    have skipped : (other == key) = false := by simpa using distinct.symm
    simp [List.lookup_append, List.lookup_cons, skipped]
  by_cases present : dictionary.has key = true
  · exact (congrArg (List.lookup other) (if_pos present)).trans (mapped dictionary)
  · exact (congrArg (List.lookup other) (if_neg present)).trans (appended dictionary)

theorem getD_set_of_ne {dictionary : Dict} {key other : String} {value default : Value}
    (distinct : key ≠ other) :
    (dictionary.set key value).getD other default = dictionary.getD other default :=
  congrArg (Option.getD · default) (lookup_set_of_ne distinct)

theorem get_set_of_ne {dictionary : Dict} {key other : String} {value : Value}
    (distinct : key ≠ other) : (dictionary.set key value).get other = dictionary.get other :=
  getD_set_of_ne distinct

end Dict

/-- The order in which a set is walked. Python leaves it open, so it is any
rearrangement of the elements. -/
structure SetOrder (α : Type) where
  toList : List α → List α
  perm : ∀ elements, (toList elements).Perm elements

namespace SetOrder

variable {α : Type}

def insertion : SetOrder α := ⟨id, List.Perm.refl⟩

@[simp] theorem mem_toList (order : SetOrder α) {elements : List α} {element : α} :
    element ∈ order.toList elements ↔ element ∈ elements :=
  (order.perm elements).mem_iff

@[simp] theorem nodup_toList (order : SetOrder α) {elements : List α} :
    (order.toList elements).Nodup ↔ elements.Nodup :=
  (order.perm elements).nodup_iff

end SetOrder

/-! ### Entries with distinct keys -/

theorem lookup_of_absent {entries : List (String × Value)} {key : String}
    (absent : key ∉ entries.map (·.1)) : entries.lookup key = none := by
  rw [List.lookup_eq_none_iff]
  intro entry member
  have different : key ≠ entry.1 := fun same => absent (same ▸ List.mem_map_of_mem member)
  simpa using different

theorem lookup_of_member {entries : List (String × Value)} {entry : String × Value}
    (distinct : (entries.map (·.1)).Nodup) (member : entry ∈ entries) :
    entries.lookup entry.1 = some entry.2 := by
  induction entries with
  | nil => cases member
  | cons first rest ih =>
    obtain ⟨absent, distinct⟩ := List.nodup_cons.mp distinct
    rcases List.mem_cons.mp member with rfl | later
    · exact List.lookup_cons_self
    · have skipped : (entry.1 == first.1) = false := by
        have different : entry.1 ≠ first.1 := by
          intro same
          exact absent (List.mem_map.mpr ⟨entry, later, same⟩)
        simpa using different
      rw [List.lookup_cons, skipped]
      exact ih distinct later

end CogniDQ.Python
