import Mathlib.Init
import Mathlib.Data.List.Basic

/-!
# Programs over a session

A session runs its statements in one transaction, which sees its own writes. A statement that the
database refuses leaves the transaction aborted: every later statement is refused too, and whatever
ends the transaction rolls it back. What a program establishes is composed from what its statements
do, at its normal end and where it raises.
-/

set_option autoImplicit false

namespace CogniDQ.Database

structure Session (Store : Type) where
  store : Store
  /-- A statement was refused. -/
  aborted : Bool

/-- What can go wrong at a statement: the database refuses it, or the program raises before it. -/
inductive Fault where
  | refused (message : String)
  | raised (message : String)

/-- Why a program ended early: a fault, or an error of its own. -/
inductive Failure (Error : Type) where
  | fault (message : String)
  | error (error : Error)

abbrev Program (Store Error α : Type) : Type := ExceptT (Failure Error) (StateM (Session Store)) α

section Programs

variable {Store Error α β : Type}

/-- What ends the transaction of a session leaves behind, if it commits. -/
def Session.committed (session : Session Store) (before : Store) : Store :=
  if session.aborted then before else session.store

namespace Program

/-- A statement with its effect, which may violate a constraint. -/
def statement (fault : Option Fault) (effect : Store → Except String (α × Store)) :
    Program Store Error α := fun session =>
  match fault with
  | some (.raised message) => (.error (.fault message), session)
  | some (.refused message) => (.error (.fault message), { session with aborted := true })
  | none =>
    if session.aborted then
      (.error (.fault
        "current transaction is aborted, commands ignored until end of transaction block"), session)
    else
      match effect session.store with
      | .ok (value, store) => (.ok value, { session with store })
      | .error message => (.error (.fault message), { session with aborted := true })

def select (fault : Option Fault) (query : Store → α) : Program Store Error α :=
  statement fault fun store => .ok (query store, store)

/-- From a session as assumed, the program ends or raises as stated. -/
def Meets (program : Program Store Error α) (before : Session Store → Prop)
    (after : α → Session Store → Prop) (raised : Failure Error → Session Store → Prop) : Prop :=
  ∀ session, before session →
    match program session with
    | (.ok value, final) => after value final
    | (.error failure, final) => raised failure final

variable {program : Program Store Error α} {continuation : α → Program Store Error β}
  {before : Session Store → Prop} {after : α → Session Store → Prop}
  {afterAll : β → Session Store → Prop} {raised caught : Failure Error → Session Store → Prop}

theorem meets_pure {value : α} (holds : ∀ session, before session → after value session) :
    Meets (pure value : Program Store Error α) before after raised :=
  holds

theorem meets_throw {failure : Failure Error}
    (holds : ∀ session, before session → raised failure session) :
    Meets (throw failure : Program Store Error α) before after raised :=
  holds

theorem meets_of_fact {fact : Prop} (holds : fact → program.Meets before after raised) :
    program.Meets (fun session => fact ∧ before session) after raised :=
  fun session assumed => holds assumed.1 session assumed.2

theorem bind_apply (program : Program Store Error α) (continuation : α → Program Store Error β)
    (session : Session Store) : (program >>= continuation) session =
      match program session with
      | (.ok value, final) => continuation value final
      | (.error failure, final) => (.error failure, final) := by
  change ExceptT.bindCont continuation (program session).1 (program session).2 = _
  cases program session with
  | mk result final => cases result <;> rfl

theorem catch_apply (program : Program Store Error α)
    (handler : Failure Error → Program Store Error α) (session : Session Store) :
    (tryCatch program handler) session =
      match program session with
      | (.ok value, final) => (.ok value, final)
      | (.error failure, final) => handler failure final := by
  simp only [tryCatch, tryCatchThe, MonadExceptOf.tryCatch, ExceptT.tryCatch, ExceptT.mk, bind,
    StateT.bind]
  cases program session with
  | mk result final => cases result <;> rfl

theorem meets_bind (first : program.Meets before after raised)
    (rest : ∀ value, (continuation value).Meets (after value) afterAll raised) :
    Meets (program >>= continuation) before afterAll raised := by
  intro session assumed
  have ended := first session assumed
  rw [bind_apply]
  cases ran : program session with
  | mk result final =>
    rw [ran] at ended
    cases result with
    | ok value => exact rest value final ended
    | error failure => exact ended

theorem meets_catch {handler : Failure Error → Program Store Error α}
    (body : program.Meets before after caught)
    (handles : ∀ failure, (handler failure).Meets (caught failure) after raised) :
    Meets (tryCatch program handler) before after raised := by
  intro session assumed
  have ended := body session assumed
  rw [catch_apply]
  cases ran : program session with
  | mk result final =>
    rw [ran] at ended
    cases result with
    | ok value => exact ended
    | error failure => exact handles failure final ended

theorem meets_statement {fault : Option Fault} {effect : Store → Except String (α × Store)}
    (stays : ∀ message session, before session → raised (.fault message) session)
    (refused : ∀ message session, before session →
      raised (.fault message) { session with aborted := true })
    (done : ∀ session value store, before session → session.aborted = false →
      effect session.store = .ok (value, store) → after value { session with store }) :
    Meets (statement fault effect : Program Store Error α) before after raised := by
  intro session assumed
  unfold statement
  cases fault with
  | some fault =>
    cases fault with
    | raised message => exact stays message session assumed
    | refused message => exact refused message session assumed
  | none =>
    cases live : session.aborted with
    | true => exact stays _ session assumed
    | false =>
      cases effected : effect session.store with
      | ok result =>
        simp only [Bool.false_eq_true, if_false]
        have ended := done session result.1 result.2 assumed live effected
        rw [live] at ended
        exact ended
      | error message =>
        simp only [Bool.false_eq_true, if_false]
        exact refused message session assumed

theorem meets_select {fault : Option Fault} {query : Store → α}
    (stays : ∀ message session, before session → raised (.fault message) session)
    (refused : ∀ message session, before session →
      raised (.fault message) { session with aborted := true })
    (done : ∀ session, before session → session.aborted = false →
      after (query session.store) session) :
    Meets (select fault query : Program Store Error α) before after raised := by
  refine meets_statement stays refused fun session value store assumed live selected => ?_
  obtain ⟨rfl, rfl⟩ := Prod.mk.inj (Except.ok.inj selected)
  exact done session assumed live

end Program

end Programs

end CogniDQ.Database

/-!
## Inserts that are flushed one by one

A session tries inserts one after the other, and each one that fails rolls the transaction back.
What is still pending at the end, against what was accepted on the way.
-/

namespace CogniDQ.Database

variable {Row : Type} {tries : List (Row × Bool)}

def accepted (tries : List (Row × Bool)) : List Row := (tries.filter (·.2)).map (·.1)

/-- The pending rows after inserts each failure of which rolls back. -/
def surviving (pending : List Row) : List (Row × Bool) → List Row
  | [] => pending
  | (row, true) :: rest => surviving (pending ++ [row]) rest
  | (_, false) :: rest => surviving [] rest

/-- Once an insert has succeeded, none fails. -/
def FailuresFirst (tries : List (Row × Bool)) : Prop :=
  tries.Pairwise fun earlier later => earlier.2 = true → later.2 = true

theorem accepted_append (first second : List (Row × Bool)) :
    accepted (first ++ second) = accepted first ++ accepted second := by
  simp [accepted]

theorem surviving_append (pending : List Row) (first second : List (Row × Bool)) :
    surviving pending (first ++ second) = surviving (surviving pending first) second := by
  induction first generalizing pending with
  | nil => rfl
  | cons head rest ih =>
      obtain ⟨row, ok⟩ := head
      cases ok with
      | true => exact ih _
      | false => exact ih _

theorem length_surviving_le (pending : List Row) (tries : List (Row × Bool)) :
    (surviving pending tries).length ≤ pending.length + (accepted tries).length := by
  induction tries generalizing pending with
  | nil => exact Nat.le_add_right ..
  | cons head rest ih =>
      obtain ⟨row, ok⟩ := head
      cases ok with
      | true =>
          have tail := ih (pending ++ [row])
          simp only [surviving, accepted, List.filter_cons_of_pos, List.map_cons, List.length_cons,
            List.length_append, List.length_nil] at tail ⊢
          omega
      | false =>
          have tail := ih []
          simp only [surviving, accepted, List.length_nil] at tail ⊢
          simp only [Bool.false_eq_true, not_false_eq_true, List.filter_cons_of_neg]
          omega

theorem surviving_of_pending {pending : List Row} (some_ : pending ≠ []) :
    surviving pending tries = pending ++ accepted tries ↔ ∀ entry ∈ tries, entry.2 = true := by
  induction tries generalizing pending with
  | nil => simp [surviving, accepted]
  | cons head rest ih =>
      obtain ⟨row, ok⟩ := head
      cases ok with
      | true =>
          have more : pending ++ [row] ≠ [] := by simp
          have tail := ih more
          simpa [surviving, accepted] using tail
      | false =>
          constructor
          · intro same
            have bound := length_surviving_le [] rest
            have lengths := congrArg List.length same
            have nonempty := List.length_pos_iff.mpr some_
            simp only [surviving, accepted, Bool.false_eq_true, not_false_eq_true,
              List.filter_cons_of_neg, List.length_append, List.length_nil] at lengths bound
            omega
          · intro all
            exact absurd (all _ List.mem_cons_self) (by simp)

theorem surviving_eq_accepted_iff : surviving [] tries = accepted tries ↔ FailuresFirst tries := by
  induction tries with
  | nil => simp [surviving, accepted, FailuresFirst]
  | cons head rest ih =>
      obtain ⟨row, ok⟩ := head
      unfold FailuresFirst
      rw [List.pairwise_cons]
      cases ok with
      | true =>
          have tail : surviving [row] rest = [row] ++ accepted rest ↔
              ∀ entry ∈ rest, entry.2 = true := surviving_of_pending (by simp)
          have first : surviving [] ((row, true) :: rest) = surviving [row] rest := rfl
          have kept : accepted ((row, true) :: rest) = [row] ++ accepted rest := by simp [accepted]
          rw [first, kept, tail]
          constructor
          · intro all
            refine ⟨fun later listed _ => all later listed, ?_⟩
            exact List.pairwise_of_forall_mem_list fun _ _ later listed _ => all later listed
          · intro ordered later listed
            exact ordered.1 later listed rfl
      | false =>
          have first : surviving [] ((row, false) :: rest) = surviving [] rest := rfl
          have kept : accepted ((row, false) :: rest) = accepted rest := by simp [accepted]
          rw [first, kept, ih]
          refine ⟨fun ordered => ⟨fun _ _ failed => absurd failed (by simp), ordered⟩, fun ordered => ordered.2⟩

end CogniDQ.Database
