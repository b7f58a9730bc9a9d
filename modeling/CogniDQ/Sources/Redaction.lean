import CogniDQ.Python.Text
import CogniDQ.Text.Masking

/-!
# Redaction of error messages

`sanitize_error_message` replaces the values of credentials one after the other in a text that
changes under them. What is asked of it is a mask: one marker for each block of overlapping
occurrences, and every other character.
-/

set_option autoImplicit false

namespace CogniDQ.Sources

open CogniDQ.Python CogniDQ.Text

def redacted : String := "[REDACTED]"

def sanitizeErrorMessage (message : String) (credentialFields : List String) : String :=
  credentialFields.foldl
    (fun safe value => if 1 < value.length then replaceStr value redacted safe else safe) message

def secretWords (values : List String) : List (List Char) :=
  (values.filter fun value => decide (1 < value.length)).map String.toList

def render (masked : List (Option Char)) : List Char :=
  masked.flatMap fun piece => piece.elim redacted.toList ([·])

def redaction (values : List String) (message : String) : String :=
  String.ofList (render (mask (secretWords values) message.toList))

example : redaction ["user", "user123"] "no role user123 for user" =
    "no role [REDACTED] for [REDACTED]" := by decide +kernel

/-- Whatever the order of the values, the message comes back with its secrets masked. -/
def RedactsInEveryOrder (values : List String) (message : String) : Prop :=
  ∀ order : List String, order.Perm values →
    sanitizeErrorMessage message order = redaction values message

/-- Where the word stands in the text, it stands in the message: it takes nothing from a marker. -/
def Clear (word : List Char) (masked : List (Option Char)) : Prop :=
  ∀ before after, render masked = before ++ word ++ after →
    ∃ front back, masked = front ++ word.map some ++ back ∧ render front = before ∧
      render back = after

/-- No word takes anything from a marker that was put in for an earlier one. -/
def Undisturbed : List (List Char) → List (Option Char) → Prop
  | [], _ => True
  | word :: words, masked => Clear word masked ∧ Undisturbed words (hide word masked)

/-! ### Rendered texts -/

variable {masked more : List (Option Char)} {word text rest : List Char}

@[simp] theorem render_kept (c : Char) : render (some c :: masked) = c :: render masked := rfl

@[simp] theorem render_mark : render (none :: masked) = redacted.toList ++ render masked := rfl

@[simp] theorem render_append : render (masked ++ more) = render masked ++ render more :=
  List.flatMap_append

@[simp] theorem render_map_some : render (text.map some) = text := by
  induction text with
  | nil => rfl
  | cons c text ih => rw [List.map_cons, render_kept, ih]

private theorem length_render : (render masked).length = size redacted.toList.length masked := by
  induction masked with
  | nil => rfl
  | cons piece masked ih =>
    rw [size_cons, ← ih]
    cases piece with
    | none => rw [render_mark, List.length_append]; rfl
    | some c => rw [render_kept, List.length_cons, Nat.add_comm]; rfl

private theorem eq_nil_of_render (nothing : render masked = []) : masked = [] := by
  cases masked with
  | nil => rfl
  | cons piece masked =>
    cases piece with
    | none => cases (List.append_eq_nil_iff.mp nothing).1
    | some c => cases nothing

/-! ### Replacing in a rendered text -/

private theorem replaceFrom_passed (old new passed rest : List Char) :
    replaceFrom old new passed.length (passed ++ rest) = replace old new rest := by
  induction passed with
  | nil => rfl
  | cons c passed ih => exact ih

private theorem replace_found (new : List Char) (given : word ≠ []) :
    replace word new (word ++ rest) = new ++ replace word new rest := by
  obtain ⟨c, tail, rfl⟩ := List.exists_cons_of_ne_nil given
  have found : (c :: tail).isPrefixOf (c :: (tail ++ rest)) = true :=
    List.isPrefixOf_iff_prefix.mpr (List.prefix_append (c :: tail) rest)
  simp only [List.cons_append, replace, replaceFrom]
  rw [if_pos found]
  exact congrArg _ (replaceFrom_passed (c :: tail) new tail rest)

private theorem replace_passed (new : List Char)
    (absent : ∀ front back, text = front ++ back → back ≠ [] → ¬word <+: back ++ rest) :
    replace word new (text ++ rest) = text ++ replace word new rest := by
  induction text with
  | nil => rfl
  | cons c text ih =>
    have here := absent [] (c :: text) rfl (List.cons_ne_nil _ _)
    rw [List.cons_append, ← List.isPrefixOf_iff_prefix] at here
    simp only [List.cons_append, replace, replaceFrom]
    rw [if_neg here]
    exact congrArg _ (ih fun front back split => absent (c :: front) back (by rw [split]; rfl))

private theorem Clear.suffix (clear : Clear word (masked ++ more)) : Clear word more := by
  intro before after found
  obtain ⟨front, back, split, sameFront, sameBack⟩ := clear (render masked ++ before) after
    (by rw [render_append, found]; simp)
  rw [List.append_assoc] at split
  rcases List.append_eq_append_iff.mp split with ⟨middle, rfl, inMore⟩ | ⟨middle, rfl, inMore⟩
  · rw [render_append, List.append_cancel_left_eq] at sameFront
    exact ⟨middle, back, by rw [inMore, List.append_assoc], sameFront, sameBack⟩
  · -- What stands before the occurrence is no less than the first part.
    rw [render_append, List.append_assoc, List.self_eq_append_right,
      List.append_eq_nil_iff] at sameFront
    obtain rfl := eq_nil_of_render sameFront.1
    obtain rfl := sameFront.2
    exact ⟨[], back, inMore.symm, rfl, sameBack⟩

private theorem replace_render (given : word ≠ []) (clear : Clear word masked) :
    replace word redacted.toList (render masked) = render (hide word masked) := by
  induction masked using hide_induction given with
  | nil => rfl
  | found rest ih =>
    rw [hide_found given, render_append, render_map_some, replace_found _ given, render_mark,
      ih clear.suffix]
  | other piece rest begins ih =>
    rw [hide_cons begins]
    have apart (tail : List (Option Char)) :
        render (piece :: tail) = render [piece] ++ render tail := @render_append [piece] tail
    have later := ih (@Clear.suffix [piece] rest word clear)
    have outside (front back : List Char) (split : render [piece] = front ++ back)
        (nonempty : back ≠ []) : ¬word <+: back ++ render rest := by
      rintro ⟨after, found⟩
      obtain ⟨pieces, tail, whole, sameFront, -⟩ := clear front after (by
        rw [apart, split, List.append_assoc, ← found, List.append_assoc])
      cases pieces with
      | nil =>
        rw [List.nil_append] at whole
        exact begins ⟨tail, whole.symm⟩
      | cons first pieces =>
        obtain ⟨rfl, -⟩ := List.cons.inj whole
        have lengths := congrArg List.length split
        rw [List.length_append, ← sameFront] at lengths
        have longer : (render [piece]).length ≤ (render (piece :: pieces)).length := by
          rw [apart pieces, List.length_append]
          exact Nat.le_add_right _ _
        have := List.length_pos_iff.mpr nonempty
        omega
    have passed := replace_passed redacted.toList outside
    rw [later] at passed
    rw [apart, passed, ← apart]

private theorem toList_sanitizeErrorMessage {values : List String} {message : String}
    (same : message.toList = render masked) (undisturbed : Undisturbed (secretWords values) masked) :
    (sanitizeErrorMessage message values).toList = render (hideAll (secretWords values) masked) := by
  induction values generalizing message masked with
  | nil => exact same
  | cons value values ih =>
    unfold sanitizeErrorMessage secretWords at *
    by_cases long : 1 < value.length
    · rw [List.filter_cons_of_pos (by simpa using long), List.map_cons] at undisturbed ⊢
      rw [List.foldl_cons, if_pos long, hideAll_cons]
      refine ih ?_ undisturbed.2
      have given : value.toList ≠ [] := by
        intro empty
        rw [← String.length_toList, empty] at long
        simp at long
      rw [replaceStr, String.toList_ofList, same, replace_render given undisturbed.1]
    · rw [List.filter_cons_of_neg (by simpa using long)] at undisturbed ⊢
      rw [List.foldl_cons, if_neg long]
      exact ih same undisturbed

/-! ### The two sides -/

theorem secretWords_ne_nil (values : List String) : ∀ word ∈ secretWords values, word ≠ [] := by
  intro word listed
  obtain ⟨value, kept, rfl⟩ := List.mem_map.mp listed
  have long := of_decide_eq_true (List.mem_filter.mp kept).2
  rw [← String.length_toList] at long
  exact List.length_pos_iff.mp (by omega)

private theorem secretWords_perm {order values : List String} (perm : order.Perm values) :
    (secretWords order).Perm (secretWords values) :=
  (perm.filter _).map _

/-- What a redaction keeps of a message are the characters that belong to no secret, in their
order. -/
theorem redaction_keeps (values : List String) (message : String) :
    ∃ masked, redaction values message = String.ofList (render masked) ∧
      masked.reduceOption = (message.toList.zipIdx.filter fun entry =>
        !covered (secretWords values) message.toList entry.2).map (·.1) :=
  ⟨_, rfl, reduceOption_mask (secretWords values) message.toList⟩

private theorem exists_order {values : List String} {words : List (List Char)}
    (perm : words.Perm (secretWords values)) :
    ∃ order : List String, order.Perm values ∧ secretWords order = words := by
  let long := fun value : String => decide (1 < value.length)
  have texts : (words.map String.ofList).Perm (values.filter long) := by
    have listed := perm.map String.ofList
    simpa [secretWords, long, Function.comp_def, String.ofList_toList] using listed
  refine ⟨words.map String.ofList ++ values.filter fun value => !long value,
    (texts.append_right _).trans (List.filter_append_perm long values), ?_⟩
  have kept : (words.map String.ofList).filter long = words.map String.ofList :=
    List.filter_eq_self.mpr fun value listed => (List.mem_filter.mp (texts.mem_iff.mp listed)).2
  have dropped : (values.filter fun value => !long value).filter long = [] := by
    rw [List.filter_eq_nil_iff]
    intro value listed isLong
    simp [isLong] at listed
  rw [secretWords, List.filter_append, kept, dropped, List.append_nil, List.map_map]
  exact List.map_id'' (fun _ => String.toList_ofList) words

/-- Of values that take nothing from the markers of others, in whatever order they come, the message
comes back with its secrets masked exactly when no two of their occurrences overlap in it. -/
theorem redactsInEveryOrder_iff (values : List String) (message : String)
    (undisturbed : ∀ order : List String, order.Perm values →
      Undisturbed (secretWords order) (message.toList.map some)) :
    RedactsInEveryOrder values message ↔ Separate (secretWords values) message.toList := by
  have sanitized (order : List String) (perm : order.Perm values) :=
    toList_sanitizeErrorMessage render_map_some.symm (undisturbed order perm)
  constructor
  · intro redacts
    refine separate_of_hideAll (secretWords_ne_nil values) fun words perm => ?_
    obtain ⟨order, ordered, rfl⟩ := exists_order perm
    have same := sanitized order ordered
    rw [redacts order ordered, redaction, String.toList_ofList] at same
    have lengths := congrArg List.length same
    rw [length_render, length_render, ← mask_perm perm] at lengths
    rw [← mask_perm perm]
    exact (size_mask_le (secretWords_ne_nil order) (by decide) message.toList).2 lengths.symm
  · intro separate order perm
    have words := secretWords_perm perm
    have same := sanitized order perm
    rw [hideAll_of_separate (secretWords_ne_nil order), mask_perm words] at same
    · rw [redaction, ← same, String.ofList_toList]
    · intro first isFirst second isSecond
      exact separate first (words.mem_iff.mp isFirst) second (words.mem_iff.mp isSecond)

theorem password_redacted : RedactsInEveryOrder ["pw"] "pw?" := by
  have words : secretWords ["pw"] = [['p', 'w']] := by decide +kernel
  have separate : Separate (secretWords ["pw"]) "pw?".toList := by
    rw [words]
    intro first isFirst second isSecond start begin_ found later _ _
    obtain rfl := List.mem_singleton.mp isFirst
    obtain rfl := List.mem_singleton.mp isSecond
    have only (position : Nat) (begins : ['p', 'w'] <+: "pw?".toList.drop position) :
        position = 0 := by
      match position, begins with
      | 0, _ => rfl
      | 1, begins => exact absurd begins (by decide)
      | 2, begins => exact absurd begins (by decide)
      | _ + 3, begins => exact absurd begins (by simp)
    exact ⟨(only start found).trans (only begin_ later).symm, rfl⟩
  refine (redactsInEveryOrder_iff ["pw"] "pw?" fun order perm => ?_).mpr separate
  obtain rfl := List.perm_singleton.mp perm
  rw [words]
  refine ⟨fun before after found => ?_, trivial⟩
  match before, found with
  | [], found =>
    obtain rfl : ['?'] = after := by simpa [render] using found
    exact ⟨[], [some '?'], rfl, rfl, rfl⟩
  | ['p'], found => simp [render] at found
  | ['p', 'w'], found => simp [render] at found
  | _ :: _ :: _ :: _, found => simp [render] at found

/-- A user name that begins the password leaves the rest of the password in the message. -/
theorem password_tail_survives :
    sanitizeErrorMessage "user123" ["user", "user123"] = "[REDACTED]123" ∧
      ¬RedactsInEveryOrder ["user", "user123"] "user123" := by
  refine ⟨by decide +kernel, fun redacts => ?_⟩
  exact absurd (redacts _ (List.Perm.refl _)) (by decide +kernel)

end CogniDQ.Sources
