import CogniDQ.Database.ReadCommitted

/-!
# Rows under a unique key

Deleting the rows that do not meet a condition, and what is read after one row was written.
-/

set_option autoImplicit false

namespace CogniDQ.Database

variable {Key Row : Type} [DecidableEq Key]

def Rows.keep (rows : Rows Key Row) (kept : Key → Row → Bool) : Rows Key Row :=
  ⟨rows.entries.filter fun entry => kept entry.1 entry.2,
    rows.nodupKeys.sublist List.filter_sublist⟩

theorem Rows.lookup_keep (rows : Rows Key Row) (kept : Key → Row → Bool) (key : Key) :
    (rows.keep kept).lookup key = (rows.lookup key).filter (kept key) := by
  ext row
  rw [Option.filter_eq_some_iff]
  constructor
  · intro found
    have listed := List.mem_filter.mp (AList.mem_lookup_iff.mp found)
    exact ⟨AList.mem_lookup_iff.mpr listed.1, listed.2⟩
  · rintro ⟨found, isKept⟩
    exact AList.mem_lookup_iff.mpr (List.mem_filter.mpr ⟨AList.mem_lookup_iff.mp found, isKept⟩)

theorem Rows.lookup_keep_eq_some {rows : Rows Key Row} {kept : Key → Row → Bool} {key : Key}
    {row : Row} (found : (rows.keep kept).lookup key = some row) :
    rows.lookup key = some row ∧ kept key row = true := by
  rw [Rows.lookup_keep] at found
  exact Option.filter_eq_some_iff.mp found

theorem Rows.lookup_keep_of_kept {rows : Rows Key Row} {kept : Key → Row → Bool} {key : Key}
    (all : ∀ row, kept key row = true) : (rows.keep kept).lookup key = rows.lookup key := by
  rw [Rows.lookup_keep]
  cases rows.lookup key with
  | none => rfl
  | some row => exact if_pos (all row)

theorem Rows.lookup_keep_of_dropped {rows : Rows Key Row} {kept : Key → Row → Bool} {key : Key}
    (all : ∀ row, kept key row = false) : (rows.keep kept).lookup key = none := by
  rw [Rows.lookup_keep]
  cases rows.lookup key with
  | none => rfl
  | some row => exact if_neg (by rw [all row]; decide)

theorem Rows.lookup_insert_cases {rows : Rows Key Row} {key written : Key} {row value : Row}
    (found : AList.lookup key (AList.insert written value rows) = some row) :
    key = written ∧ row = value ∨ key ≠ written ∧ rows.lookup key = some row := by
  by_cases same : key = written
  · subst same
    rw [AList.lookup_insert] at found
    exact .inl ⟨rfl, (Option.some.inj found).symm⟩
  · rw [AList.lookup_insert_ne same] at found
    exact .inr ⟨same, found⟩

section Inserts

variable {Item : Type} {keyOf : Item → Key} {value : Item → Row} {items : List Item}
  {rows : Rows Key Row} {key : Key} {row : Row}

theorem Rows.lookup_foldl_insert_of_fresh (fresh : key ∉ items.map keyOf) :
    (items.foldl (fun rows item => AList.insert (keyOf item) (value item) rows) rows).lookup key =
      rows.lookup key := by
  induction items generalizing rows with
  | nil => rfl
  | cons item rest ih =>
    obtain ⟨other, later⟩ := not_or.mp (mt List.mem_cons.mpr fresh)
    rw [List.foldl_cons, ih later, AList.lookup_insert_ne other]

/-- What is found after a loop of inserts is one of the inserted rows, or was there before. -/
theorem Rows.lookup_foldl_insert_cases
    (found : (items.foldl (fun rows item => AList.insert (keyOf item) (value item) rows)
      rows).lookup key = some row) :
    (∃ item ∈ items, key = keyOf item ∧ row = value item) ∨ rows.lookup key = some row := by
  induction items generalizing rows with
  | nil => exact .inr found
  | cons item rest ih =>
    rw [List.foldl_cons] at found
    rcases ih found with ⟨later, listed, same⟩ | before
    · exact .inl ⟨later, List.mem_cons_of_mem _ listed, same⟩
    · rcases Rows.lookup_insert_cases before with same | ⟨-, earlier⟩
      · exact .inl ⟨item, List.mem_cons_self, same⟩
      · exact .inr earlier

end Inserts

def Rows.modify (rows : Rows Key Row) (key : Key) (change : Row → Row) : Rows Key Row :=
  match rows.lookup key with
  | none => rows
  | some row => rows.insert key (change row)

theorem Rows.lookup_modify (rows : Rows Key Row) (key other : Key) (change : Row → Row) :
    (rows.modify key change).lookup other =
      if other = key then (rows.lookup other).map change else rows.lookup other := by
  unfold Rows.modify
  cases found : rows.lookup key with
  | none =>
    split_ifs with same
    · rw [same, found]
      rfl
    · rfl
  | some row =>
    split_ifs with same
    · rw [same, AList.lookup_insert, found]
      rfl
    · exact AList.lookup_insert_ne same

theorem Rows.lookup_foldl_modify {keys : List Key} (distinct : keys.Nodup)
    (change : Key → Row → Row) (rows : Rows Key Row) (key : Key) :
    (keys.foldl (fun rows key => rows.modify key (change key)) rows).lookup key =
      if key ∈ keys then (rows.lookup key).map (change key) else rows.lookup key := by
  induction keys generalizing rows with
  | nil => rfl
  | cons head rest ih =>
    obtain ⟨fresh, distinctRest⟩ := List.nodup_cons.mp distinct
    rw [List.foldl_cons, ih distinctRest, Rows.lookup_modify]
    by_cases same : key = head
    · subst same
      rw [if_neg fresh, if_pos rfl, if_pos List.mem_cons_self]
    · rw [if_neg same]
      simp only [List.mem_cons, same, false_or]

def Rows.updateWhere (rows : Rows Key Row) (selected : Key → Row → Bool)
    (change : Key → Row → Row) : Rows Key Row :=
  ((rows.keep selected).keys).foldl (fun rows key => rows.modify key (change key)) rows

theorem Rows.lookup_updateWhere (rows : Rows Key Row) (selected : Key → Row → Bool)
    (change : Key → Row → Row) (key : Key) :
    (rows.updateWhere selected change).lookup key =
      (rows.lookup key).map fun row => if selected key row then change key row else row := by
  have listed : key ∈ (rows.keep selected).keys ↔ ((rows.keep selected).lookup key).isSome :=
    AList.lookup_isSome.symm
  unfold Rows.updateWhere
  rw [Rows.lookup_foldl_modify (rows.keep selected).keys_nodup]
  rw [Rows.lookup_keep] at listed
  cases found : rows.lookup key with
  | none => exact ite_self _
  | some row =>
    rw [found] at listed
    cases chosen : selected key row with
    | true => rw [if_pos (listed.mpr (by rw [Option.filter_some_pos chosen]; rfl))]; simp [chosen]
    | false =>
      rw [if_neg (fun member => by
        have some := listed.mp member
        rw [Option.filter, chosen] at some
        cases some)]
      simp [chosen]

end CogniDQ.Database

/-!
## Rows inserted or rewritten from another table

`INSERT … SELECT … ON CONFLICT DO UPDATE`: one row for each selected row of a source, under a key
that tells the source rows apart.
-/

namespace CogniDQ.Database

variable {Id Source Key Row : Type} [DecidableEq Key]

/-- The row that a source row is written to, given the one that is there. -/
def Rows.upsertFrom (rows : Rows Key Row) (source : Rows Id Source) (keyOf : Id → Key)
    (value : Id → Source → Option Row → Row) : Rows Key Row :=
  source.entries.foldl (fun rows entry =>
    rows.insert (keyOf entry.1) (value entry.1 entry.2 (rows.lookup (keyOf entry.1)))) rows

def Rows.inserted (rows : Rows Key Row) (source : Rows Id Source) (keyOf : Id → Key) : Nat :=
  (source.entries.filter fun entry => (rows.lookup (keyOf entry.1)).isNone).length

variable {rows : Rows Key Row} {source : Rows Id Source} {keyOf : Id → Key}
  {value : Id → Source → Option Row → Row} {key : Key}

private theorem lookup_foldl_upsert_of_ne {entries : List (Sigma fun _ : Id => Source)}
    (apart : ∀ entry ∈ entries, key ≠ keyOf entry.1) :
    (entries.foldl (fun rows entry =>
      rows.insert (keyOf entry.1) (value entry.1 entry.2 (rows.lookup (keyOf entry.1))))
        rows).lookup key = rows.lookup key := by
  induction entries generalizing rows with
  | nil => rfl
  | cons entry rest ih =>
    rw [List.foldl_cons, ih fun later listed => apart later (List.mem_cons_of_mem _ listed)]
    exact AList.lookup_insert_ne (apart entry List.mem_cons_self)

theorem Rows.lookup_upsertFrom_of_ne (apart : ∀ id, key ≠ keyOf id) :
    (rows.upsertFrom source keyOf value).lookup key = rows.lookup key :=
  lookup_foldl_upsert_of_ne fun entry _ => apart entry.1

theorem Rows.lookup_upsertFrom [DecidableEq Id] (injective : Function.Injective keyOf) (id : Id) :
    (rows.upsertFrom source keyOf value).lookup (keyOf id) =
      (source.lookup id).elim (rows.lookup (keyOf id)) fun row =>
        some (value id row (rows.lookup (keyOf id))) := by
  obtain ⟨entries, distinct⟩ := source
  change (entries.foldl _ rows).lookup (keyOf id) =
    (entries.dlookup id).elim (rows.lookup (keyOf id)) fun row =>
      some (value id row (rows.lookup (keyOf id)))
  induction entries generalizing rows with
  | nil => rfl
  | cons entry rest ih =>
    obtain ⟨first, row⟩ := entry
    obtain ⟨fresh, distinctRest⟩ := List.nodupKeys_cons.mp distinct
    rw [List.foldl_cons]
    by_cases same : id = first
    · subst same
      rw [List.dlookup_cons_eq, lookup_foldl_upsert_of_ne]
      · exact AList.lookup_insert _
      · intro later listed equal
        have key : later.1 ∈ rest.keys := List.mem_map_of_mem listed
        rw [← injective equal] at key
        exact fresh key
    · rw [List.dlookup_cons_ne _ _ same, ih distinctRest]
      have apart : keyOf id ≠ keyOf first := fun equal => same (injective equal)
      rw [AList.lookup_insert_ne apart]

theorem Rows.inserted_eq_zero [DecidableEq Id]
    (present : ∀ id row, source.lookup id = some row → (rows.lookup (keyOf id)).isSome) :
    rows.inserted source keyOf = 0 := by
  unfold Rows.inserted
  rw [List.length_eq_zero_iff, List.filter_eq_nil_iff]
  intro entry listed
  have stored := present entry.1 entry.2 (AList.mem_lookup_iff.mpr listed)
  rw [Option.isSome_iff_exists] at stored
  obtain ⟨row, found⟩ := stored
  rw [found]
  exact Bool.false_ne_true

end CogniDQ.Database
