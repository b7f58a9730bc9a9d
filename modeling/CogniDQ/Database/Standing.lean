import CogniDQ.Database.ReadCommitted

/-!
# Rows that no transaction gives up

A committed row whose deletion no transaction has pending survives every commit. A property of
every row that is written is one of every committed row.
-/

set_option autoImplicit false

namespace CogniDQ.Database

variable {Tx Key Row : Type} [DecidableEq Key]

namespace Table

section Statements

variable (table : Table Tx Key Row)

/-- No transaction has the deletion of the row pending. -/
def Undeleted (key : Key) : Prop := ∀ tx, (table.pending tx).lookup key ≠ some none

/-- A committed row of the kind that no transaction has deleted. -/
def Standing (kind : Key → Prop) : Prop :=
  ∃ key row, table.committed.lookup key = some row ∧ kind key ∧ table.Undeleted key

/-- Every row, committed or about to be, has a key that is allowed. -/
structure Confined (allowed : Key → Prop) : Prop where
  committed : ∀ key row, table.committed.lookup key = some row → allowed key
  pending : ∀ tx key row, (table.pending tx).lookup key = some (some row) → allowed key

end Statements

theorem standing_quiet {committed : Rows Key Row} {kind : Key → Prop} {key : Key} {row : Row}
    (found : committed.lookup key = some row) (ofKind : kind key) :
    (quiet committed : Table Tx Key Row).Standing kind :=
  ⟨key, row, found, ofKind, fun _ deleted => nomatch deleted⟩

theorem confined_quiet {committed : Rows Key Row} {allowed : Key → Prop}
    (within : ∀ key row, committed.lookup key = some row → allowed key) :
    (quiet committed : Table Tx Key Row).Confined allowed :=
  ⟨within, fun _ _ _ written => nomatch written⟩

variable [DecidableEq Tx] {table : Table Tx Key Row} {kind allowed : Key → Prop} {tx : Tx}
  {key other : Key}

theorem Undeleted.write (undeleted : table.Undeleted key) {value : Option Row}
    (kept : other = key → value ≠ none) : (table.write tx other value).Undeleted key := by
  intro writer deleted
  by_cases mine : writer = tx
  · subst mine
    rw [pending_write_self] at deleted
    by_cases same : key = other
    · subst same
      rw [AList.lookup_insert] at deleted
      exact kept rfl (Option.some.inj deleted)
    · rw [AList.lookup_insert_ne same] at deleted
      exact undeleted writer deleted
  · rw [pending_write_of_ne value mine] at deleted
    exact undeleted writer deleted

theorem Undeleted.release (undeleted : table.Undeleted key) (tx : Tx) :
    (table.release tx).Undeleted key := by
  intro writer deleted
  by_cases mine : writer = tx
  · subst mine
    simp [Table.release] at deleted
  · exact undeleted writer (by simpa [Table.release, mine] using deleted)

theorem Standing.write (standing : table.Standing kind) (row : Row) :
    (table.write tx key (some row)).Standing kind := by
  obtain ⟨kept, version, found, ofKind, undeleted⟩ := standing
  exact ⟨kept, version, found, ofKind, undeleted.write fun _ => Option.some_ne_none row⟩

theorem standing_of_delete {row : Row} (found : table.committed.lookup other = some row)
    (ofKind : kind other) (undeleted : table.Undeleted other) (apart : other ≠ key) :
    (table.write tx key none).Standing kind :=
  ⟨other, row, found, ofKind, undeleted.write fun same => absurd same.symm apart⟩

theorem standing_delete_of_not (standing : table.Standing kind) (foreign : ¬kind key) :
    (table.write tx key none).Standing kind := by
  obtain ⟨kept, row, found, ofKind, undeleted⟩ := standing
  refine standing_of_delete found ofKind undeleted fun same => ?_
  subst same
  exact foreign ofKind

theorem Standing.release (standing : table.Standing kind) : (table.release tx).Standing kind := by
  obtain ⟨kept, row, found, ofKind, undeleted⟩ := standing
  exact ⟨kept, row, found, ofKind, undeleted.release tx⟩

theorem Standing.commit (standing : table.Standing kind) : (table.commit tx).Standing kind := by
  obtain ⟨kept, row, found, ofKind, undeleted⟩ := standing
  have after : (table.commit tx).Undeleted kept := undeleted.release tx
  cases written : (table.pending tx).lookup kept with
  | none => exact ⟨kept, row, by rw [← found]; simp [Table.commit, lookup_view, written], ofKind, after⟩
  | some value =>
    cases value with
    | none => exact absurd written (undeleted tx)
    | some version =>
      exact ⟨kept, version, by simp [Table.commit, lookup_view, written], ofKind, after⟩

theorem Confined.write (confined : table.Confined allowed) {value : Option Row}
    (within : value.isSome → allowed key) : (table.write tx key value).Confined allowed := by
  refine ⟨confined.committed, fun writer written row stored => ?_⟩
  by_cases mine : writer = tx
  · subst mine
    rw [pending_write_self] at stored
    by_cases same : written = key
    · subst same
      rw [AList.lookup_insert] at stored
      exact within (by rw [Option.some.inj stored]; rfl)
    · rw [AList.lookup_insert_ne same] at stored
      exact confined.pending writer written row stored
  · rw [pending_write_of_ne value mine] at stored
    exact confined.pending writer written row stored

theorem Confined.release (confined : table.Confined allowed) (tx : Tx) :
    (table.release tx).Confined allowed := by
  refine ⟨confined.committed, fun writer written row stored => ?_⟩
  by_cases mine : writer = tx
  · subst mine
    simp [Table.release] at stored
  · exact confined.pending writer written row (by simpa [Table.release, mine] using stored)

theorem Confined.commit (confined : table.Confined allowed) :
    (table.commit tx).Confined allowed := by
  refine ⟨fun written row stored => ?_, (confined.release tx).pending⟩
  change (table.view tx).lookup written = some row at stored
  rw [lookup_view] at stored
  cases mine : (table.pending tx).lookup written with
  | none =>
    rw [mine] at stored
    exact confined.committed written row stored
  | some value =>
    rw [mine] at stored
    refine confined.pending tx written row ?_
    rw [mine]
    exact congrArg some stored

end Table

end CogniDQ.Database
