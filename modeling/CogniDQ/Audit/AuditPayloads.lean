import Mathlib.Data.List.Dedup
import CogniDQ.Python.Equality

/-!
# Audit payloads

`strip_sensitive_fields`, which takes secrets out of a state before it is logged, and
`compute_audit_diff`, the fields of two states that differ.
-/

set_option autoImplicit false

namespace CogniDQ.Audit

open CogniDQ.Python

def sensitiveFields : List String :=
  ["password", "password_hash", "hashed_password", "connection_string", "credentials", "secret",
    "api_key", "token"]

/-! ### The code -/

mutual

def stripValue : Value → Value
  | .dict entries => .dict (stripEntries entries)
  | value => value

def stripEntries : List (String × Value) → List (String × Value)
  | [] => []
  | (key, value) :: rest =>
    if sensitiveFields.contains key then stripEntries rest
    else (key, stripValue value) :: stripEntries rest

end

def stripSensitiveFields (data : Option Dict) : Option Dict := data.map stripEntries

def withFields (keys : List String) (field : String → Value) : Dict :=
  keys.map fun key => (key, field key)

/-- The keys whose values differ; the keys of both states are walked in the order of a set. -/
def changedKeys (order : SetOrder String) (before after : Dict) : List String :=
  (order.toList (List.map Prod.fst before ++ List.map Prod.fst after).dedup).filter fun key =>
    !(before.get key).eq (after.get key)

def computeAuditDiff (order : SetOrder String) (before after : Dict) : Option Dict × Dict :=
  let changed := changedKeys order before after
  if changed.isEmpty then (none, withFields [] before.get)
  else (some (withFields changed before.get), withFields changed after.get)

/-! ### Stripping at every depth -/

mutual

def clean : Value → Bool
  | .dict entries => cleanEntries entries
  | .list values => cleanList values
  | _ => true

def cleanList : List Value → Bool
  | [] => true
  | value :: rest => clean value && cleanList rest

def cleanEntries : List (String × Value) → Bool
  | [] => true
  | (key, value) :: rest => !sensitiveFields.contains key && clean value && cleanEntries rest

end

mutual

/-- The value without its sensitive keys, at every depth, and as it was otherwise. -/
def purge : Value → Value
  | .dict entries => .dict (purgeEntries entries)
  | .list values => .list (purgeList values)
  | value => value

def purgeList : List Value → List Value
  | [] => []
  | value :: rest => purge value :: purgeList rest

def purgeEntries : List (String × Value) → List (String × Value)
  | [] => []
  | (key, value) :: rest =>
    if sensitiveFields.contains key then purgeEntries rest
    else (key, purge value) :: purgeEntries rest

end

mutual

/-- The lists that are reached through objects, under keys that are kept, have no sensitive key in
them. -/
def listsClean : Value → Bool
  | .dict entries => entriesListsClean entries
  | .list values => cleanList values
  | _ => true

def entriesListsClean : List (String × Value) → Bool
  | [] => true
  | (key, value) :: rest =>
    (sensitiveFields.contains key || listsClean value) && entriesListsClean rest

end

theorem length_purgeEntries_le (entries : List (String × Value)) :
    (purgeEntries entries).length ≤ entries.length := by
  induction entries with
  | nil => exact Nat.le_refl _
  | cons entry rest ih =>
    obtain ⟨key, value⟩ := entry
    rw [purgeEntries]
    split
    · exact ih.trans (Nat.le_succ _)
    · exact Nat.succ_le_succ ih

mutual

theorem clean_purge : (value : Value) → clean (purge value) = true
  | .dict entries => cleanEntries_purge entries
  | .list values => cleanList_purge values
  | .none | .bool _ | .int _ | .float _ | .str _ => rfl

theorem cleanList_purge : (values : List Value) → cleanList (purgeList values) = true
  | [] => rfl
  | value :: rest => by
    rw [purgeList, cleanList, clean_purge value, cleanList_purge rest]
    rfl

private theorem cleanEntries_purge : (entries : List (String × Value)) →
    cleanEntries (purgeEntries entries) = true
  | [] => rfl
  | (key, value) :: rest => by
    rw [purgeEntries]
    split
    · exact cleanEntries_purge rest
    · rename_i kept
      rw [cleanEntries, clean_purge value, cleanEntries_purge rest]
      simpa using kept

end

mutual

theorem purge_eq_self_iff : (value : Value) → (purge value = value ↔ clean value = true)
  | .dict entries => by simp [purge, clean, purgeEntries_eq_self_iff entries]
  | .list values => by simp [purge, clean, purgeList_eq_self_iff values]
  | .none | .bool _ | .int _ | .float _ | .str _ => iff_of_true rfl rfl

theorem purgeList_eq_self_iff : (values : List Value) →
    (purgeList values = values ↔ cleanList values = true)
  | [] => iff_of_true rfl rfl
  | value :: rest => by
    simp [purgeList, cleanList, purge_eq_self_iff value, purgeList_eq_self_iff rest]

theorem purgeEntries_eq_self_iff : (entries : List (String × Value)) →
    (purgeEntries entries = entries ↔ cleanEntries entries = true)
  | [] => iff_of_true rfl rfl
  | (key, value) :: rest => by
    rw [purgeEntries]
    split
    · rename_i sensitive
      rw [List.contains_iff_mem] at sensitive
      refine iff_of_false (fun same => ?_) (by simp [cleanEntries, sensitive])
      have shorter := length_purgeEntries_le rest
      rw [same, List.length_cons] at shorter
      omega
    · rename_i kept
      rw [List.contains_iff_mem] at kept
      simp [cleanEntries, kept, purge_eq_self_iff value, purgeEntries_eq_self_iff rest]

end

mutual

theorem stripValue_eq_purge_iff : (value : Value) →
    (stripValue value = purge value ↔ listsClean value = true)
  | .dict entries => by simp [stripValue, purge, listsClean, stripEntries_eq_purge_iff entries]
  | .list values => by
    rw [stripValue, purge, listsClean, ← purgeList_eq_self_iff, Value.list.injEq, eq_comm]
    exact fun _ same => nomatch same
  | .none | .bool _ | .int _ | .float _ | .str _ => iff_of_true rfl rfl

private theorem stripEntries_eq_purge_iff : (entries : List (String × Value)) →
    (stripEntries entries = purgeEntries entries ↔ entriesListsClean entries = true)
  | [] => iff_of_true rfl rfl
  | (key, value) :: rest => by
    rw [stripEntries, purgeEntries, entriesListsClean]
    split
    · rename_i sensitive
      rw [List.contains_iff_mem] at sensitive
      simp [sensitive, stripEntries_eq_purge_iff rest]
    · rename_i kept
      rw [List.contains_iff_mem] at kept
      simp [kept, stripValue_eq_purge_iff value, stripEntries_eq_purge_iff rest]

end

/-! ### Differences -/

def overlay (state : Dict) : List (String × Value) → Dict
  | [] => state
  | (key, value) :: rest => overlay (state.set key value) rest

/-- The fields of a difference turn each state into the other, an absent key read as null. -/
structure ExactPatch (before after : Dict) (diff : Option Dict × Dict) : Prop where
  forward : ∀ key, ((overlay before diff.2).get key).eq (after.get key) = true
  backward : ∀ key, ((diff.1.elim after fun changes : Dict => overlay after changes).get key).eq
    (before.get key) = true
  empty_iff : diff = (none, withFields [] before.get) ↔
    ∀ key, (before.get key).eq (after.get key) = true

theorem overlay_get (state : Dict) (changed : List String) (field : String → Value) (key : String) :
    (overlay state (withFields changed field)).get key =
      if key ∈ changed then field key else state.get key := by
  induction changed generalizing state with
  | nil => rfl
  | cons first rest ih =>
    refine (ih (state.set first (field first))).trans ?_
    by_cases later : key ∈ rest
    · rw [if_pos later, if_pos (List.mem_cons_of_mem _ later)]
    · rw [if_neg later]
      by_cases here : first = key
      · subst here
        rw [Dict.get_set_self, if_pos List.mem_cons_self]
      · rw [Dict.get_set_of_ne here, if_neg]
        simp [later, Ne.symm here]

private theorem get_of_not_mem {dictionary : Dict} {key : String}
    (absent : key ∉ List.map Prod.fst dictionary) : dictionary.get key = .none := by
  have missing : List.lookup key dictionary = none := by
    refine List.lookup_eq_none_iff.mpr fun entry listed => ?_
    rw [bne_iff_ne]
    rintro rfl
    exact absent (List.mem_map_of_mem listed)
  exact congrArg (Option.getD · Value.none) missing

private theorem mem_changedKeys {order : SetOrder String} {before after : Dict} {key : String} :
    key ∈ changedKeys order before after ↔ (before.get key).eq (after.get key) = false := by
  rw [changedKeys, List.mem_filter, SetOrder.mem_toList, List.mem_dedup, List.mem_append,
    Bool.not_eq_true']
  refine and_iff_right_of_imp fun differ => ?_
  by_contra absent
  rw [not_or] at absent
  rw [get_of_not_mem absent.1, get_of_not_mem absent.2] at differ
  cases differ

private theorem exactPatch_computeAuditDiff (order : SetOrder String) (before after : Dict) :
    ExactPatch before after (computeAuditDiff order before after) := by
  have kept {key : String} (unlisted : key ∉ changedKeys order before after) :
      (before.get key).eq (after.get key) = true :=
    Bool.not_eq_false _ ▸ mt mem_changedKeys.mpr unlisted
  unfold computeAuditDiff
  dsimp only
  split_ifs with unchanged
  · rw [List.isEmpty_iff] at unchanged
    have agree (key : String) : (before.get key).eq (after.get key) = true :=
      kept (unchanged ▸ List.not_mem_nil)
    exact ⟨agree, fun key => Value.eq_symm _ (agree key), iff_of_true rfl agree⟩
  · rw [List.isEmpty_iff] at unchanged
    refine ⟨fun key => ?_, fun key => ?_, iff_of_false (fun same => nomatch same) fun agree => ?_⟩
    · rw [overlay_get]
      split_ifs with changed
      · exact Value.eq_refl _
      · exact kept changed
    · change ((overlay after (withFields (changedKeys order before after) before.get)).get key).eq
        (before.get key) = true
      rw [overlay_get]
      split_ifs with changed
      · exact Value.eq_refl _
      · exact Value.eq_symm _ (kept changed)
    · obtain ⟨key, listed⟩ := List.exists_mem_of_ne_nil _ unchanged
      have differ := mem_changedKeys.mp listed
      rw [agree key] at differ
      cases differ

/-! ### What an audit entry may say -/

/-- The state that is logged has no sensitive key, and is the given one otherwise. -/
structure Stripped (data logged : Dict) : Prop where
  clean : cleanEntries logged = true
  same : logged = purgeEntries data

/-- A payload carries no secrets exactly when no list that is reached through its objects holds a
sensitive key; the fields that differ are right in any case. -/
theorem audit_payload_iff (order : SetOrder String) (data before after : Dict) :
    ((∃ logged, stripSensitiveFields (some data) = some logged ∧ Stripped data logged) ∧
      ExactPatch before after (computeAuditDiff order before after)) ↔
        entriesListsClean data = true := by
  rw [and_iff_left (exactPatch_computeAuditDiff order before after)]
  refine Iff.trans ?_ (stripEntries_eq_purge_iff data)
  constructor
  · rintro ⟨logged, given, stripped⟩
    rw [← stripped.same]
    exact Option.some.inj given
  · intro same
    refine ⟨stripEntries data, rfl, ?_, same⟩
    rw [same]
    exact cleanEntries_purge data

/-- A password in an object of a list is logged. -/
theorem listed_password_logged :
    stripSensitiveFields (some [("users", .list [.dict [("password", .str "s3cret")]])]) =
      some [("users", .list [.dict [("password", .str "s3cret")]])] ∧
    ¬∃ logged, stripSensitiveFields (some [("users", .list [.dict [("password", .str "s3cret")]])]) =
      some logged ∧ Stripped [("users", .list [.dict [("password", .str "s3cret")]])] logged := by
  refine ⟨rfl, ?_⟩
  rintro ⟨logged, given, stripped⟩
  obtain rfl := Option.some.inj given
  exact absurd stripped.clean (by decide)

end CogniDQ.Audit
