import Mathlib.Data.List.Induction
import Mathlib.Data.List.Nodup

/-!
# Grouping by a key

Dictionaries that a loop over keyed values fills: `defaultdict(list)` with an `append`, where a list
may have room for so many values only, and a dictionary that keeps the first value of each key. The
keys stay in the order in which they first come up.
-/

set_option autoImplicit false

namespace CogniDQ.Python.Grouping

variable {κ α : Type} [DecidableEq κ]

/-! ### The loops -/

def addTo (room : Nat → Bool) (values : List α) (value : α) : List α :=
  if room values.length then values ++ [value] else values

def appendTo (room : Nat → Bool) (key : κ) (value : α) : List (κ × List α) → List (κ × List α)
  | [] => [(key, addTo room [] value)]
  | (other, values) :: rest =>
    if other = key then (other, addTo room values value) :: rest
    else (other, values) :: appendTo room key value rest

def gather (room : Nat → Bool) (items : List (κ × α)) : List (κ × List α) :=
  items.foldl (fun groups item => appendTo room item.1 item.2 groups) []

/-- `if key not in table: table[key] = value`. -/
def keepFirst (table : List (κ × α)) (item : κ × α) : List (κ × α) :=
  if item.1 ∈ table.map Prod.fst then table else table ++ [item]

def firsts (items : List (κ × α)) : List (κ × α) := items.foldl keepFirst []

/-! ### What they fill in -/

def keys (items : List (κ × α)) : List κ := (items.map Prod.fst).eraseDups

def valuesOf (items : List (κ × α)) (key : κ) : List α :=
  (items.filter fun item => item.1 = key).map Prod.snd

variable {items : List (κ × α)} {key : κ}

theorem mem_keys : key ∈ keys items ↔ ∃ value, (key, value) ∈ items := by
  simp [keys, List.mem_eraseDups]

theorem nodup_eraseDups (known : List κ) : known.eraseDups.Nodup := by
  induction length : known.length using Nat.strongRecOn generalizing known with
  | ind size ih =>
      cases known with
      | nil => simp
      | cons first rest =>
          rw [List.eraseDups_cons]
          refine List.nodup_cons.mpr ⟨by simp, ?_⟩
          refine ih _ ?_ _ rfl
          rw [← length, List.length_cons]
          exact Nat.lt_succ_of_le (List.length_filter_le _ _)

theorem nodup_keys (items : List (κ × α)) : (keys items).Nodup := nodup_eraseDups _

theorem mem_valuesOf {value : α} : value ∈ valuesOf items key ↔ (key, value) ∈ items := by
  simp [valuesOf]

theorem valuesOf_ne_nil (member : key ∈ keys items) : valuesOf items key ≠ [] := by
  obtain ⟨value, listed⟩ := mem_keys.mp member
  exact List.ne_nil_of_mem (mem_valuesOf.mpr listed)

theorem keys_concat (items : List (κ × α)) (item : κ × α) :
    keys (items ++ [item]) = if item.1 ∈ keys items then keys items else keys items ++ [item.1] := by
  have same : item.1 ∈ keys items ↔ item.1 ∈ items.map Prod.fst := List.mem_eraseDups
  rw [keys, List.map_append, List.eraseDups_append]
  by_cases member : item.1 ∈ items.map Prod.fst
  · rw [if_pos (same.mpr member), keys]
    simp [List.removeAll, member]
  · rw [if_neg (mt same.mp member), keys]
    simp [List.removeAll, member, List.eraseDups_cons]

theorem valuesOf_concat (items : List (κ × α)) (item : κ × α) (key : κ) :
    valuesOf (items ++ [item]) key =
      valuesOf items key ++ if item.1 = key then [item.2] else [] := by
  rw [valuesOf, List.filter_append, List.map_append, valuesOf, List.filter_singleton]
  split <;> simp_all

theorem valuesOf_eq_nil (absent : key ∉ keys items) : valuesOf items key = [] := by
  rw [List.eq_nil_iff_forall_not_mem]
  intro value member
  exact absent (mem_keys.mpr ⟨value, mem_valuesOf.mp member⟩)

/-- What is left of values that are appended while there is room. -/
def collect (room : Nat → Bool) (values : List α) : List α := values.foldl (addTo room) []

theorem collect_all (values : List α) : collect (fun _ => true) values = values := by
  induction values using List.reverseRecOn with
  | nil => rfl
  | append_singleton values value ih =>
      rw [collect, List.foldl_append, ← collect, ih]
      rfl

theorem collect_lt (limit : Nat) (values : List α) :
    collect (fun count => count < limit) values = values.take limit := by
  induction values using List.reverseRecOn with
  | nil => simp [collect]
  | append_singleton values value ih =>
      rw [collect, List.foldl_append, ← collect, ih, List.foldl_cons, List.foldl_nil, addTo,
        List.length_take, List.take_append]
      by_cases room : values.length < limit
      · have left : limit - values.length = (limit - values.length - 1) + 1 := by omega
        rw [if_pos (by simp only [decide_eq_true_eq]; omega), left, List.take_succ_cons, List.take_nil]
      · have full : limit - values.length = 0 := by omega
        rw [if_neg (by simp only [decide_eq_true_eq]; omega), full, List.take_zero, List.append_nil]

theorem appendTo_map {room : Nat → Bool} {value : α} {known : List κ} (unique : known.Nodup)
    (values : κ → List α) :
    appendTo room key value (known.map fun other => (other, values other)) =
      (if key ∈ known then known else known ++ [key]).map fun other =>
        (other, if other = key then addTo room (if key ∈ known then values key else []) value
          else values other) := by
  induction known with
  | nil => simp [appendTo]
  | cons first rest ih =>
      obtain ⟨absent, unique⟩ := List.nodup_cons.mp unique
      rw [List.map_cons, appendTo]
      by_cases same : first = key
      · subst same
        have listed : first ∈ first :: rest := List.mem_cons_self
        simp only [if_pos listed, if_true, List.map_cons]
        congr 1
        refine List.map_congr_left fun other member => ?_
        have distinct : other ≠ first := fun equal => absent (equal ▸ member)
        rw [if_neg distinct]
      · rw [if_neg same, ih unique]
        have within : key ∈ first :: rest ↔ key ∈ rest := by simp [Ne.symm same]
        by_cases member : key ∈ rest
        · simp [member, same]
        · simp [member, same, within]

theorem gather_eq (room : Nat → Bool) (items : List (κ × α)) :
    gather room items = (keys items).map fun key => (key, collect room (valuesOf items key)) := by
  induction items using List.reverseRecOn with
  | nil => rfl
  | append_singleton items item ih =>
      rw [gather, List.foldl_append, ← gather, ih, List.foldl_cons, List.foldl_nil,
        appendTo_map (nodup_keys items), keys_concat]
      refine List.map_congr_left fun key member => ?_
      rw [valuesOf_concat]
      by_cases same : key = item.1
      · subst same
        rw [if_pos rfl, if_pos rfl, collect, collect, List.foldl_append]
        by_cases known : item.1 ∈ keys items
        · rw [if_pos known]
          rfl
        · rw [if_neg known, valuesOf_eq_nil known]
          rfl
      · rw [if_neg same, if_neg (Ne.symm same), List.append_nil]

theorem firsts_eq (items : List (κ × α)) :
    firsts items = (keys items).filterMap fun key =>
      (valuesOf items key).head?.map fun value => (key, value) := by
  induction items using List.reverseRecOn with
  | nil => rfl
  | append_singleton items item ih =>
      have known : (firsts items).map Prod.fst = keys items := by
        rw [ih, List.map_filterMap]
        rw [List.filterMap_congr (g := some), List.filterMap_some]
        intro key member
        obtain ⟨value, rest, values⟩ := List.exists_cons_of_ne_nil (valuesOf_ne_nil member)
        simp [values]
      have kept : ∀ key ∈ keys items,
          (valuesOf (items ++ [item]) key).head? = (valuesOf items key).head? := by
        intro key member
        obtain ⟨value, rest, values⟩ := List.exists_cons_of_ne_nil (valuesOf_ne_nil member)
        rw [valuesOf_concat, values]
        rfl
      have same : ((keys items).filterMap fun key =>
          (valuesOf (items ++ [item]) key).head?.map fun value => (key, value)) = firsts items := by
        rw [ih]
        refine List.filterMap_congr fun key member => ?_
        rw [kept key member]
      rw [firsts, List.foldl_append, ← firsts, List.foldl_cons, List.foldl_nil, keepFirst, known,
        keys_concat]
      by_cases member : item.1 ∈ keys items
      · rw [if_pos member, if_pos member, same]
      · rw [if_neg member, if_neg member, List.filterMap_append, same, List.filterMap_cons,
          valuesOf_concat, valuesOf_eq_nil member, if_pos rfl]
        rfl

/-! ### Values that are computed from rows -/

section Rows

variable {ρ : Type} (rows : List ρ) (keyOf : ρ → κ)

theorem keys_map (value : ρ → α) :
    keys (rows.map fun row => (keyOf row, value row)) = (rows.map keyOf).eraseDups := by
  rw [keys, List.map_map]
  rfl

theorem valuesOf_map (value : ρ → α) (key : κ) :
    valuesOf (rows.map fun row => (keyOf row, value row)) key =
      (rows.filter fun row => keyOf row = key).map value := by
  rw [valuesOf, List.filter_map, List.map_map]
  rfl

def firstRows : List ρ := (firsts (rows.map fun row => (keyOf row, row))).map Prod.snd

variable {rows keyOf}

theorem mem_firstRows {row : ρ} :
    row ∈ firstRows rows keyOf ↔
      (rows.filter fun other => keyOf other = keyOf row).head? = some row := by
  have unique := nodup_keys (rows.map fun row => (keyOf row, row))
  rw [firstRows, firsts_eq, List.mem_map]
  constructor
  · rintro ⟨item, member, rfl⟩
    obtain ⟨key, _, first⟩ := List.mem_filterMap.mp member
    rw [valuesOf_map, List.map_id'] at first
    obtain ⟨row, head, rfl⟩ := Option.map_eq_some_iff.mp first
    have listed := List.mem_of_head? head
    have same : keyOf row = key := by simpa using (List.mem_filter.mp listed).2
    rw [same]
    exact head
  · intro head
    refine ⟨(keyOf row, row), List.mem_filterMap.mpr ⟨keyOf row, ?_, ?_⟩, rfl⟩
    · exact mem_keys.mpr ⟨row, List.mem_map.mpr ⟨row, (List.mem_filter.mp (List.mem_of_head? head)).1, rfl⟩⟩
    · rw [valuesOf_map, List.map_id', head]
      rfl

theorem exists_firstRow {row : ρ} (member : row ∈ rows) :
    ∃ first ∈ firstRows rows keyOf, keyOf first = keyOf row := by
  have listed : row ∈ rows.filter fun other => keyOf other = keyOf row := by simpa using member
  obtain ⟨first, rest, found⟩ := List.exists_cons_of_ne_nil (List.ne_nil_of_mem listed)
  have same : keyOf first = keyOf row := by
    have kept : first ∈ rows.filter fun other => keyOf other = keyOf row := by simp [found]
    simpa using (List.mem_filter.mp kept).2
  refine ⟨first, mem_firstRows.mpr ?_, same⟩
  rw [same, found]
  rfl

theorem map_firstRows : (firstRows rows keyOf).map keyOf = (rows.map keyOf).eraseDups := by
  rw [firstRows, List.map_map, ← keys_map rows keyOf id, firsts_eq, List.map_filterMap]
  refine (List.filterMap_congr ?_).trans List.filterMap_some
  intro key member
  rw [keys_map, List.mem_eraseDups, List.mem_map] at member
  obtain ⟨row, listed, rfl⟩ := member
  obtain ⟨first, found, same⟩ := @exists_firstRow _ _ _ rows keyOf row listed
  rw [valuesOf_map, List.map_id', ← same, mem_firstRows.mp found]
  rfl

theorem firsts_map (value : ρ → α) :
    firsts (rows.map fun row => (keyOf row, value row)) =
      (firstRows rows keyOf).map fun row => (keyOf row, value row) := by
  rw [firsts_eq, keys_map, ← map_firstRows, List.filterMap_map]
  refine (List.filterMap_congr fun row member => ?_).trans (congrFun List.filterMap_eq_map _)
  rw [Function.comp_apply, valuesOf_map, List.head?_map, mem_firstRows.mp member]
  rfl

theorem lookup_firsts_map {row : ρ} (member : row ∈ firstRows rows keyOf) (value : ρ → α) :
    (firsts (rows.map fun row => (keyOf row, value row))).lookup (keyOf row) =
      some (value row) := by
  have unique : ((firstRows rows keyOf).map keyOf).Nodup := by
    rw [map_firstRows]
    exact nodup_eraseDups _
  rw [firsts_map]
  generalize firstRows rows keyOf = firsts at member unique
  induction firsts with
  | nil => cases member
  | cons first rest ih =>
      obtain ⟨absent, unique⟩ := List.nodup_cons.mp unique
      rcases List.mem_cons.mp member with rfl | later
      · simp
      · have distinct : keyOf row ≠ keyOf first := fun same =>
          absent (List.mem_map.mpr ⟨row, later, same⟩)
        rw [List.map_cons, List.lookup_cons, beq_eq_false_iff_ne.mpr distinct]
        exact ih later unique

end Rows

end CogniDQ.Python.Grouping
