import Mathlib.Data.List.AList
import Mathlib.Logic.Function.Basic

/-!
# Transactions under READ COMMITTED

A table with a unique key, written by concurrent transactions. A transaction reads the committed
rows under its own uncommitted writes. A row it has locked or written stays its own until it ends,
and other transactions wait for it.

The second half is about keeping some row of a kind in the table: a transaction either leaves every
committed row of that kind alone, or holds the lock on one that it does not give up.
-/

set_option autoImplicit false

namespace CogniDQ.Database

/-- The rows under a unique key. -/
abbrev Rows (Key Row : Type) : Type := AList fun _ : Key => Row

structure Table (Tx Key Row : Type) where
  committed : Rows Key Row
  /-- The transaction that has locked or written a row. -/
  holder : Key → Option Tx
  /-- Uncommitted writes: a new version of the row, or its deletion. -/
  pending : Tx → Rows Key (Option Row)

section Operations

variable {Tx Key Row : Type} [DecidableEq Key]

def applyWrite (write : Sigma fun _ : Key => Option Row) (rows : Rows Key Row) : Rows Key Row :=
  match write.2 with
  | some row => rows.insert write.1 row
  | none => rows.erase write.1

def overlay (rows : Rows Key Row) (writes : Rows Key (Option Row)) : Rows Key Row :=
  writes.entries.foldr applyWrite rows

namespace Table

def quiet (committed : Rows Key Row) : Table Tx Key Row :=
  { committed, holder := fun _ => none, pending := fun _ => ∅ }

def view (table : Table Tx Key Row) (tx : Tx) : Rows Key Row :=
  overlay table.committed (table.pending tx)

def lock (table : Table Tx Key Row) (tx : Tx) (key : Key) : Table Tx Key Row :=
  { table with holder := Function.update table.holder key (some tx) }

variable [DecidableEq Tx]

def free (table : Table Tx Key Row) (tx : Tx) (key : Key) : Bool :=
  (table.holder key).all (· == tx)

def write (table : Table Tx Key Row) (tx : Tx) (key : Key) (value : Option Row) :
    Table Tx Key Row :=
  { table.lock tx key with
    pending := Function.update table.pending tx ((table.pending tx).insert key value) }

def release (table : Table Tx Key Row) (tx : Tx) : Table Tx Key Row :=
  { table with
    holder := fun key => if table.holder key = some tx then none else table.holder key
    pending := Function.update table.pending tx ∅ }

def commit (table : Table Tx Key Row) (tx : Tx) : Table Tx Key Row :=
  { table.release tx with committed := table.view tx }

end Table

end Operations

section Reading

variable {Tx Key Row : Type} [DecidableEq Key] {table : Table Tx Key Row} {tx : Tx} {key : Key}

theorem lookup_overlay (rows : Rows Key Row) (writes : Rows Key (Option Row)) (key : Key) :
    (overlay rows writes).lookup key = (writes.lookup key).getD (rows.lookup key) := by
  unfold overlay AList.lookup
  induction writes.entries with
  | nil => rfl
  | cons write rest ih =>
    obtain ⟨written, value⟩ := write
    change (applyWrite ⟨written, value⟩ (rest.foldr applyWrite rows)).lookup key = _
    by_cases same : key = written
    · subst same
      rw [List.dlookup_cons_eq]
      cases value with
      | some row => exact AList.lookup_insert _
      | none => exact AList.lookup_erase _ _
    · rw [List.dlookup_cons_ne _ _ same, ← ih]
      cases value with
      | some row => exact AList.lookup_insert_ne same
      | none => exact AList.lookup_erase_ne same

namespace Table

theorem lookup_view (table : Table Tx Key Row) (tx : Tx) (key : Key) :
    (table.view tx).lookup key =
      ((table.pending tx).lookup key).getD (table.committed.lookup key) :=
  lookup_overlay _ _ _

@[simp] theorem pending_lock (writer : Tx) :
    (table.lock tx key).pending writer = table.pending writer := rfl

def Owned (table : Table Tx Key Row) : Prop :=
  ∀ tx key, ((table.pending tx).lookup key).isSome → table.holder key = some tx

theorem owned_quiet (committed : Rows Key Row) :
    (quiet committed : Table Tx Key Row).Owned := by
  intro tx key written
  cases written

/-- What a step of one transaction leaves to another: its locks and the committed rows under them,
and its writes. -/
structure Frame (before after : Table Tx Key Row) (tx : Tx) : Prop where
  held : ∀ key, before.holder key = some tx → after.holder key = some tx
  committed : ∀ key, before.holder key = some tx →
    after.committed.lookup key = before.committed.lookup key
  pending : after.pending tx = before.pending tx

theorem Frame.refl (table : Table Tx Key Row) (tx : Tx) : table.Frame table tx :=
  ⟨fun _ held => held, fun _ _ => rfl, rfl⟩

theorem Frame.view {before after : Table Tx Key Row} (frame : before.Frame after tx)
    (held : before.holder key = some tx) :
    (after.view tx).lookup key = (before.view tx).lookup key := by
  rw [lookup_view, lookup_view, frame.pending, frame.committed key held]

/-! ### Keeping a row of a kind -/

variable {kind : Key → Row → Prop}

def Present (table : Table Tx Key Row) (kind : Key → Row → Prop) : Prop :=
  ∃ key row, table.committed.lookup key = some row ∧ kind key row

def Holds (table : Table Tx Key Row) (tx : Tx) (kind : Key → Row → Prop) (key : Key) : Prop :=
  table.holder key = some tx ∧ ∃ row, (table.view tx).lookup key = some row ∧ kind key row

/-- No pending write takes a committed row out of the kind. -/
def Preserves (table : Table Tx Key Row) (tx : Tx) (kind : Key → Row → Prop) : Prop :=
  ∀ key row value, table.committed.lookup key = some row → kind key row →
    (table.pending tx).lookup key = some value → ∃ written, value = some written ∧ kind key written

def Safe (table : Table Tx Key Row) (tx : Tx) (kind : Key → Row → Prop) : Prop :=
  table.Preserves tx kind ∨ ∃ key, table.Holds tx kind key

theorem safe_of_idle (idle : table.pending tx = ∅) : table.Safe tx kind := by
  left
  intro key row value _ _ written
  rw [idle] at written
  cases written

theorem Holds.frame {after : Table Tx Key Row} (holds : table.Holds tx kind key)
    (frame : table.Frame after tx) : after.Holds tx kind key := by
  obtain ⟨held, row, seen, ofKind⟩ := holds
  exact ⟨frame.held key held, row, (frame.view held).trans seen, ofKind⟩

theorem Safe.frame {after : Table Tx Key Row} (safe : table.Safe tx kind) (owned : table.Owned)
    (frame : table.Frame after tx) : after.Safe tx kind := by
  rcases safe with preserves | ⟨key, holds⟩
  · left
    intro key row value committed ofKind written
    rw [frame.pending] at written
    have held := owned tx key (by rw [written]; rfl)
    rw [frame.committed key held] at committed
    exact preserves key row value committed ofKind written
  · exact .inr ⟨key, holds.frame frame⟩

theorem Holds.lock (holds : table.Holds tx kind key) (locked : Key) :
    (table.lock tx locked).Holds tx kind key := by
  obtain ⟨held, seen⟩ := holds
  refine ⟨?_, seen⟩
  by_cases same : key = locked
  · subst same
    exact Function.update_self ..
  · exact (Function.update_of_ne same ..).trans held

theorem holds_of_lock {row : Row} (seen : (table.view tx).lookup key = some row)
    (ofKind : kind key row) : (table.lock tx key).Holds tx kind key :=
  ⟨Function.update_self .., row, seen, ofKind⟩

theorem Safe.lock (safe : table.Safe tx kind) (locked : Key) :
    (table.lock tx locked).Safe tx kind := by
  rcases safe with preserves | ⟨anchor, holds⟩
  · exact .inl preserves
  · exact .inr ⟨anchor, holds.lock locked⟩

end Table

end Reading

section Counting

variable {Key Row : Type} [DecidableEq Key] {rows : Rows Key Row} {counts : Row → Bool}

theorem another_of_count {key : Key} {row : Row} (present : rows.lookup key = some row)
    (counted : counts row = true)
    (several : (rows.entries.filter fun entry => counts entry.2).length ≠ 1) :
    ∃ other version, other ≠ key ∧ rows.lookup other = some version ∧ counts version = true := by
  have listed : (⟨key, row⟩ : Sigma fun _ => Row) ∈
      rows.entries.filter fun entry => counts entry.2 :=
    List.mem_filter.mpr ⟨AList.mem_lookup_iff.mp present, counted⟩
  have distinct : ((rows.entries.filter fun entry => counts entry.2).map Sigma.fst).Nodup :=
    List.Nodup.sublist (List.filter_sublist.map _) rows.nodupKeys
  have found : ∀ entry ∈ rows.entries.filter fun entry => counts entry.2,
      rows.lookup entry.1 = some entry.2 ∧ counts entry.2 = true := by
    intro entry member
    obtain ⟨inRows, holds⟩ := List.mem_filter.mp member
    exact ⟨AList.mem_lookup_iff.mpr inRows, holds⟩
  generalize rows.entries.filter (fun entry => counts entry.2) = selected at *
  match selected with
  | [] => cases listed
  | [_] => exact absurd rfl several
  | first :: second :: rest =>
    have apart : first.1 ≠ second.1 := by
      rintro same
      simp [same] at distinct
    by_cases sameFirst : first.1 = key
    · have inSelected := found second (List.mem_cons_of_mem _ List.mem_cons_self)
      exact ⟨second.1, second.2, fun same => apart (sameFirst.trans same.symm), inSelected⟩
    · exact ⟨first.1, first.2, sameFirst, found first List.mem_cons_self⟩

end Counting

section Steps

variable {Tx Key Row : Type} [DecidableEq Key] [DecidableEq Tx] {table : Table Tx Key Row}
  {tx other : Tx} {key : Key}

namespace Table

omit [DecidableEq Key] in
theorem free_iff {table : Table Tx Key Row} {tx : Tx} {key : Key} :
    table.free tx key = true ↔ ∀ other, table.holder key = some other → other = tx := by
  unfold free
  cases table.holder key <;> simp

@[simp] theorem pending_write_self (value : Option Row) :
    (table.write tx key value).pending tx = (table.pending tx).insert key value :=
  Function.update_self ..

@[simp] theorem pending_write_of_ne (value : Option Row) (apart : other ≠ tx) :
    (table.write tx key value).pending other = table.pending other :=
  Function.update_of_ne apart ..

theorem Owned.lock (owned : table.Owned) (available : table.free tx key) :
    (table.lock tx key).Owned := by
  intro writer row written
  have held := owned writer row written
  by_cases same : row = key
  · subst same
    have mine := free_iff.mp available writer held
    subst mine
    exact Function.update_self ..
  · exact (Function.update_of_ne same ..).trans held

theorem Owned.write (owned : table.Owned) (available : table.free tx key) (value : Option Row) :
    (table.write tx key value).Owned := by
  intro writer row written
  by_cases mine : writer = tx
  · subst mine
    by_cases same : row = key
    · subst same
      exact Function.update_self ..
    · apply owned.lock available
      simpa [AList.lookup_insert_ne same] using written
  · apply owned.lock available
    simpa [pending_write_of_ne value mine] using written

theorem Owned.release (owned : table.Owned) (tx : Tx) : (table.release tx).Owned := by
  intro writer row written
  by_cases ended : writer = tx
  · subst ended
    simp [Table.release] at written
  · have held := owned writer row (by simpa [Table.release, ended] using written)
    simp [Table.release, held, ended]

theorem frame_lock (available : table.free tx key) (apart : other ≠ tx) :
    table.Frame (table.lock tx key) other := by
  refine ⟨fun row held => ?_, fun _ _ => rfl, rfl⟩
  have different : row ≠ key := by
    rintro rfl
    exact apart (free_iff.mp available other held)
  exact (Function.update_of_ne different ..).trans held

theorem frame_write (available : table.free tx key) (value : Option Row) (apart : other ≠ tx) :
    table.Frame (table.write tx key value) other :=
  ⟨(frame_lock available apart).held, fun _ _ => rfl, Function.update_of_ne apart ..⟩

theorem frame_release (apart : other ≠ tx) : table.Frame (table.release tx) other := by
  refine ⟨fun row held => ?_, fun _ _ => rfl, Function.update_of_ne apart ..⟩
  simp [release, held, apart]

theorem frame_commit (owned : table.Owned) (apart : other ≠ tx) :
    table.Frame (table.commit tx) other := by
  refine ⟨(frame_release apart).held, fun row held => ?_, (frame_release apart).pending⟩
  have untouched : (table.pending tx).lookup row = none := by
    by_contra written
    have mine := owned tx row (Option.isSome_iff_ne_none.mpr written)
    exact apart (Option.some.inj (held.symm.trans mine))
  change (table.view tx).lookup row = _
  rw [lookup_view, untouched]
  rfl

variable {kind : Key → Row → Prop}

theorem lookup_view_write_self (value : Option Row) :
    ((table.write tx key value).view tx).lookup key = value := by
  rw [lookup_view, pending_write_self, AList.lookup_insert]
  rfl

theorem Holds.write (holds : table.Holds tx kind key) {written : Key} (apart : key ≠ written)
    (value : Option Row) : (table.write tx written value).Holds tx kind key := by
  obtain ⟨held, row, seen, ofKind⟩ := holds
  refine ⟨(Function.update_of_ne apart ..).trans held, row, ?_, ofKind⟩
  rw [lookup_view, pending_write_self, AList.lookup_insert_ne apart]
  rw [lookup_view] at seen
  exact seen

theorem Safe.write (safe : table.Safe tx kind) {value : Option Row}
    (kept : (∃ written, value = some written ∧ kind key written) ∨
      ∀ row, (table.view tx).lookup key = some row → ¬kind key row) :
    (table.write tx key value).Safe tx kind := by
  rcases safe with preserves | ⟨anchor, holds⟩
  · left
    intro row old new committed ofKind written
    by_cases same : row = key
    · subst same
      have newest : new = value := by
        simpa [eq_comm] using written
      subst newest
      rcases kept with good | notOfKind
      · exact good
      · exfalso
        cases earlier : (table.pending tx).lookup row with
        | none => exact notOfKind old (by rw [lookup_view, earlier]; exact committed) ofKind
        | some version =>
          obtain ⟨stillThere, rfl, still⟩ := preserves row old version committed ofKind earlier
          exact notOfKind stillThere (by rw [lookup_view, earlier]; rfl) still
    · refine preserves row old new committed ofKind ?_
      simpa [AList.lookup_insert_ne same] using written
  · right
    by_cases same : anchor = key
    · subst same
      rcases kept with ⟨written, rfl, good⟩ | notOfKind
      · exact ⟨anchor, Function.update_self .., written, lookup_view_write_self _, good⟩
      · obtain ⟨-, row, seen, ofKind⟩ := holds
        exact absurd ofKind (notOfKind row seen)
    · exact ⟨anchor, holds.write same value⟩

theorem Present.commit (present : table.Present kind) (safe : table.Safe tx kind) :
    (table.commit tx).Present kind := by
  rcases safe with preserves | ⟨anchor, -, row, seen, ofKind⟩
  · obtain ⟨key, row, committed, ofKind⟩ := present
    cases written : (table.pending tx).lookup key with
    | none => exact ⟨key, row, by rw [← committed]; simp [Table.commit, lookup_view, written], ofKind⟩
    | some value =>
      obtain ⟨version, rfl, still⟩ := preserves key row value committed ofKind written
      exact ⟨key, version, by simp [Table.commit, lookup_view, written], still⟩
  · exact ⟨anchor, row, seen, ofKind⟩

end Table

end Steps

end CogniDQ.Database

/-!
## Uncommitted writes of one row

What a transaction reads and commits when it has written one row of a table and no other.
-/

namespace CogniDQ.Database

variable {Tx Key Row : Type} [DecidableEq Key]

namespace Table

structure Wrote (table : Table Tx Key Row) (tx : Tx) (key : Key) (row : Row) : Prop where
  written : (table.pending tx).lookup key = some (some row)
  others : ∀ other, other ≠ key → (table.pending tx).lookup other = none

section Reading

variable {table after : Table Tx Key Row} {tx : Tx} {key : Key} {row : Row}

theorem view_of_quiet (quiet : table.pending tx = ∅) : table.view tx = table.committed := by
  unfold view overlay
  rw [quiet]
  rfl

theorem view_of_unwritten (unwritten : (table.pending tx).lookup key = none) :
    (table.view tx).lookup key = table.committed.lookup key := by
  rw [lookup_view, unwritten]
  rfl

theorem view_of_written (written : (table.pending tx).lookup key = some (some row)) :
    (table.view tx).lookup key = some row := by
  rw [lookup_view, written]
  rfl

theorem Wrote.view_self (wrote : table.Wrote tx key row) : (table.view tx).lookup key = some row :=
  view_of_written wrote.written

theorem Wrote.view_other (wrote : table.Wrote tx key row) {other : Key} (apart : other ≠ key) :
    (table.view tx).lookup other = table.committed.lookup other :=
  view_of_unwritten (wrote.others other apart)

theorem Wrote.held (wrote : table.Wrote tx key row) (owned : table.Owned) :
    table.holder key = some tx :=
  owned tx key (by rw [wrote.written]; rfl)

theorem Wrote.frame (wrote : table.Wrote tx key row) (frame : table.Frame after tx) :
    after.Wrote tx key row := by
  constructor
  · rw [frame.pending]
    exact wrote.written
  · rw [frame.pending]
    exact wrote.others

omit [DecidableEq Key] in
theorem free_of_held [DecidableEq Tx] (held : table.holder key = some tx) :
    table.free tx key = true := by
  unfold free
  rw [held]
  exact beq_self_eq_true tx

end Reading

variable [DecidableEq Tx] {table : Table Tx Key Row} {tx : Tx} {key : Key} {row : Row}

theorem wrote_of_quiet (quiet : table.pending tx = ∅) {value : Option Row}
    (stored : value = some row) : (table.write tx key value).Wrote tx key row := by
  subst stored
  constructor
  · rw [pending_write_self]
    exact AList.lookup_insert _
  · intro other apart
    rw [pending_write_self, AList.lookup_insert_ne apart, quiet]
    rfl

theorem Wrote.again {earlier : Row} (wrote : table.Wrote tx key earlier) {value : Option Row}
    (stored : value = some row) : (table.write tx key value).Wrote tx key row := by
  subst stored
  constructor
  · rw [pending_write_self]
    exact AList.lookup_insert _
  · intro other apart
    rw [pending_write_self, AList.lookup_insert_ne apart]
    exact wrote.others other apart

theorem committed_of_quiet (quiet : table.pending tx = ∅) :
    (table.commit tx).committed = table.committed :=
  view_of_quiet quiet

end Table

end CogniDQ.Database
