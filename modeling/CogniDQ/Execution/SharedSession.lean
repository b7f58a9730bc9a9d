import CogniDQ.Python.Dynamic
import Mathlib.Logic.Function.Basic

/-!
# The Spark connector

How a check query for a database is turned into one over a temporary view: the table
is taken from the first FROM that names a schema, and every such FROM is rewritten.
-/

set_option autoImplicit false

namespace CogniDQ.Execution

open CogniDQ.Python

section Text

variable (runtime : Runtime)

/-- `FROM\s+`, whatever the case: what follows it. -/
def afterFrom : List Char → Option (List Char)
  | f :: r :: o :: m :: rest =>
      if f.toLower = 'f' ∧ r.toLower = 'r' ∧ o.toLower = 'o' ∧ m.toLower = 'm' ∧
          (rest.head?.map runtime.isSpace).getD false = true then
        some (rest.dropWhile runtime.isSpace)
      else none
  | _ => none

/-- `\w+`, and what follows it. -/
def word (text : List Char) : Option (List Char × List Char) :=
  if (text.takeWhile runtime.isWord).isEmpty then none
  else some (text.takeWhile runtime.isWord, text.dropWhile runtime.isWord)

def isQuote (c : Char) : Bool := c = '"' || c = '\''

/-- `(["\']?)(\w+)\1`: the word, and what follows the quote that closes it. -/
def matchedWord : List Char → Option (List Char × List Char)
  | [] => none
  | c :: rest =>
      if isQuote c then
        (word runtime rest).bind fun (found, after) =>
          if after.head? = some c then some (found, after.tail) else none
      else word runtime (c :: rest)

def afterDot : List Char → Option (List Char)
  | '.' :: rest => some rest
  | _ => none

/-- `FROM\s+(["\']?)(\w+)\1\.(["\']?)(\w+)\3`: the schema and the table. -/
def matchTable (text : List Char) : Option (String × String) := do
  let (schema, rest) ← matchedWord runtime (← afterFrom runtime text)
  let (table, _) ← matchedWord runtime (← afterDot rest)
  some (String.ofList schema, String.ofList table)

/-- `re.search`: the first place that matches. -/
def searchTable : List Char → Option (String × String)
  | [] => none
  | c :: rest => (matchTable runtime (c :: rest)).or (searchTable rest)

/-- `["\']?\w+["\']?`: what follows it. -/
def afterLooseWord (text : List Char) : Option (List Char) :=
  let opened := if (text.head?.map isQuote).getD false then text.tail else text
  (word runtime opened).map fun (_, after) =>
    if (after.head?.map isQuote).getD false then after.tail else after

/-- `FROM\s+["\']?\w+["\']?\.["\']?\w+["\']?`: what follows it. -/
def afterLooseTable (text : List Char) : Option (List Char) := do
  afterLooseWord runtime (← afterDot (← afterLooseWord runtime (← afterFrom runtime text)))

/-- `re.sub` of that pattern: left to right, without overlaps. `skip` counts the
characters of a match still to be passed over. -/
def substituteFrom (replacement : List Char) : Nat → List Char → List Char
  | _, [] => []
  | skip + 1, _ :: rest => substituteFrom replacement skip rest
  | 0, c :: rest =>
      match afterLooseTable runtime (c :: rest) with
      | some after => replacement ++ substituteFrom replacement (rest.length - after.length) rest
      | none => c :: substituteFrom replacement 0 rest

/-- The temporary view a query is evaluated on, where it names a table with a schema. -/
def tempViewName (schema table : String) : String := schema ++ "_" ++ table ++ "_temp"

def modifiedQuery (query : String) : String :=
  match searchTable runtime query.toList with
  | some (schema, table) =>
      String.ofList (substituteFrom runtime ("FROM " ++ tempViewName schema table).toList 0 query.toList)
  | none => query

end Text

example : searchTable Runtime.ascii "SELECT COUNT(*) from \"sales\".\"orders\" t".toList =
    some ("sales", "orders") := by decide +kernel

/-- Every FROM that names a schema is taken for the checked table. -/
example : modifiedQuery Runtime.ascii "SELECT 1 FROM a.b, x WHERE y IN (SELECT z FROM c.d)" =
    "SELECT 1 FROM a_b_temp, x WHERE y IN (SELECT z FROM a_b_temp)" := by decide +kernel

end CogniDQ.Execution

/-!
## Checks on the shared Spark session

Concurrent checks meet in the temporary views of one session. Each loads its data,
registers a view and submits SQL, in steps that interleave in any order; the name of
the view comes from the schema and the table, or from the name of a file's table.
-/

namespace CogniDQ.Execution

open CogniDQ.Python

/-- A check that runs on the session: `SparkConnector.execute_check_query`, with what
`read_table` finds on its connection, or `execute_check_on_dataframe`. -/
inductive Check (Row : Type) where
  | query (connection : String → String → Option (List Row)) (sql : String)
  | dataframe (rows : List Row) (tableName compiledSql violationSql : String) (sampleLimit : Nat)

structure DataFrame (ι Row : Type) where
  check : ι
  rows : List Row
deriving DecidableEq, Repr

inductive Progress (Row : Type) where
  | begun
  | loaded (rows : List Row)
  | registered
  | checked
  | ended
deriving DecidableEq, Repr

/-- SQL that a check has submitted, with the views of the session when it did. -/
structure Evaluation (ι Row : Type) where
  check : ι
  sql : String
  views : String → Option (DataFrame ι Row)

structure Session (ι Row : Type) where
  views : String → Option (DataFrame ι Row)
  progress : ι → Progress Row
  evaluations : List (Evaluation ι Row)

inductive Action (ι : Type) where
  | load (check : ι)
  | createView (check : ι)
  | submit (check : ι)
  | submitViolations (check : ι)
  | finish (check : ι)
deriving DecidableEq, Repr

/-- What is Spark's own: the form under which a session files the name of a view, and
the names that a SQL text refers to. -/
structure Spark where
  viewKey : String → String
  tableNames : String → List String

section Steps

variable {ι Row : Type} (runtime : Runtime)

def Check.viewName : Check Row → Option String
  | .query _ sql => (searchTable runtime sql.toList).map fun (schema, table) => tempViewName schema table
  | .dataframe _ tableName _ _ _ => some tableName

def Check.load : Check Row → Option (List Row)
  | .query connection sql =>
      (searchTable runtime sql.toList).bind fun (schema, table) => connection schema table
  | .dataframe rows _ _ _ _ => if rows.isEmpty then none else some rows

def Check.aggregateSql : Check Row → String
  | .query _ sql => modifiedQuery runtime sql
  | .dataframe _ _ compiledSql _ _ => compiledSql

def limitedSql (sql : String) (sampleLimit : Nat) : String :=
  let strip (test : Char → Bool) (text : List Char) := (text.reverse.dropWhile test).reverse
  let stripped := strip (· == ';') (strip runtime.isSpace sql.toList)
  if " limit ".toList <:+: runtime.lower stripped then String.ofList stripped
  else String.ofList stripped ++ " LIMIT " ++ toString sampleLimit

/-- The query that collects failing rows, which only a check on a data frame submits. -/
def Check.violationSql : Check Row → Option String
  | .query _ _ => none
  | .dataframe _ _ _ violationSql sampleLimit =>
      if violationSql = "" then none else some (limitedSql runtime violationSql sampleLimit)

variable [DecidableEq ι]

namespace Session

def initial : Session ι Row where
  views _ := none
  progress _ := .begun
  evaluations := []

def advance (session : Session ι Row) (check : ι) (progress : Progress Row) : Session ι Row :=
  { session with progress := Function.update session.progress check progress }

/-- `spark.sql`: names are resolved when it is called. -/
def evaluate (session : Session ι Row) (check : ι) (sql : String) : Session ι Row :=
  { session with evaluations := session.evaluations ++ [⟨check, sql, session.views⟩] }

def register (session : Session ι Row) (key : String) (frame : DataFrame ι Row) : Session ι Row :=
  { session with views := Function.update session.views key (some frame) }

/-- One step of one check. A check can end at any time, by returning or by an error. -/
def step (spark : Spark) (checks : ι → Check Row) (session : Session ι Row) :
    Action ι → Option (Session ι Row)
  | .load check =>
      match session.progress check, (checks check).load runtime with
      | .begun, some rows => some (session.advance check (.loaded rows))
      | _, _ => none
  | .createView check =>
      match session.progress check, (checks check).viewName runtime with
      | .loaded rows, some viewName =>
          some ((session.register (spark.viewKey viewName) ⟨check, rows⟩).advance check .registered)
      | _, _ => none
  | .submit check =>
      match session.progress check, (checks check).viewName runtime with
      | .registered, some _ =>
          some ((session.evaluate check ((checks check).aggregateSql runtime)).advance check .checked)
      -- A query that names no schema is submitted as it is.
      | .begun, none =>
          some ((session.evaluate check ((checks check).aggregateSql runtime)).advance check .ended)
      | _, _ => none
  | .submitViolations check =>
      match session.progress check, (checks check).violationSql runtime with
      | .checked, some sql => some ((session.evaluate check sql).advance check .ended)
      | _, _ => none
  | .finish check => some (session.advance check .ended)

def resume (spark : Spark) (checks : ι → Check Row) (session : Session ι Row)
    (actions : List (Action ι)) : Option (Session ι Row) :=
  actions.foldlM (step runtime spark checks) session

def run (spark : Spark) (checks : ι → Check Row) (actions : List (Action ι)) :
    Option (Session ι Row) :=
  initial.resume runtime spark checks actions

end Session

end Steps

/-! ## Whose data a check reads -/

section Isolation

variable {ι Row : Type} (runtime : Runtime) (spark : Spark) (checks : ι → Check Row)

/-- The SQL is evaluated on the data frame of its own check: the view of the check still
holds it, and no name in the SQL leads to the data frame of another. -/
structure Evaluation.Own (evaluation : Evaluation ι Row) : Prop where
  view : ∀ viewName ∈ (checks evaluation.check).viewName runtime,
    ∃ frame, evaluation.views (spark.viewKey viewName) = some frame ∧ frame.check = evaluation.check
  names : ∀ name ∈ spark.tableNames evaluation.sql, ∀ frame,
    evaluation.views (spark.viewKey name) = some frame → frame.check = evaluation.check

/-- The check has registered its view and has SQL left to submit. -/
def Pending (session : Session ι Row) (check : ι) : Prop :=
  session.progress check = .registered ∨
    (session.progress check = .checked ∧ ((checks check).violationSql runtime).isSome)

def Session.Unshadowed (session : Session ι Row) (check : ι) (sql : String) : Prop :=
  ∀ name ∈ spark.tableNames sql,
    (∀ viewName ∈ (checks check).viewName runtime, spark.viewKey name ≠ spark.viewKey viewName) →
      session.views (spark.viewKey name) = none

/-- The step does not come between another check and its view: a view is not registered
under a name that a pending check has registered, and submitted SQL names no registered
view but its own. -/
def Undisturbed (session : Session ι Row) : Action ι → Prop
  | .createView check =>
      ∀ other, other ≠ check → Pending runtime checks session other →
        ∀ viewName ∈ (checks check).viewName runtime, ∀ otherName ∈ (checks other).viewName runtime,
          spark.viewKey otherName ≠ spark.viewKey viewName
  | .submit check =>
      session.Unshadowed runtime spark checks check ((checks check).aggregateSql runtime)
  | .submitViolations check =>
      ∀ sql ∈ (checks check).violationSql runtime, session.Unshadowed runtime spark checks check sql
  | _ => True

def UndisturbedRun [DecidableEq ι] : Session ι Row → List (Action ι) → Prop
  | _, [] => True
  | session, action :: rest =>
      Undisturbed runtime spark checks session action ∧
        ∀ next, session.step runtime spark checks action = some next → UndisturbedRun next rest

/-- Views are filed under the names of the checks that registered them, a pending check
still has its view, and all that was evaluated was evaluated on its own data. -/
structure Isolated (session : Session ι Row) : Prop where
  filed : ∀ key frame, session.views key = some frame →
    ∃ viewName ∈ (checks frame.check).viewName runtime, spark.viewKey viewName = key
  held : ∀ check, Pending runtime checks session check → ∀ viewName ∈ (checks check).viewName runtime,
    ∃ frame, session.views (spark.viewKey viewName) = some frame ∧ frame.check = check
  own : ∀ evaluation ∈ session.evaluations, evaluation.Own runtime spark checks

namespace Isolated

variable {runtime spark checks} {session : Session ι Row} {check : ι}

private theorem initial : Isolated runtime spark checks (Session.initial : Session ι Row) where
  filed := by
    intro key frame bound
    cases bound
  held := by
    intro check pending
    rcases pending with registered | ⟨checked, _⟩
    · cases registered
    · cases checked
  own := by
    intro evaluation member
    cases member

theorem foreign_of_shadowed (isolated : Isolated runtime spark checks session) {sql : String}
    (shadowed : ¬ session.Unshadowed runtime spark checks check sql) :
    ¬ (Evaluation.mk check sql session.views).Own runtime spark checks := by
  intro own
  simp only [Session.Unshadowed, not_forall] at shadowed
  obtain ⟨name, mentioned, distinct, bound⟩ := shadowed
  obtain ⟨frame, bound⟩ := Option.ne_none_iff_exists'.mp bound
  have owner : frame.check = check := own.names name mentioned frame bound
  obtain ⟨viewName, named, same⟩ := isolated.filed _ frame bound
  exact distinct viewName (owner ▸ named) same.symm

variable [DecidableEq ι]

private theorem advance (isolated : Isolated runtime spark checks session) {progress : Progress Row}
    (idle : Pending runtime checks (session.advance check progress) check →
      Pending runtime checks session check) :
    Isolated runtime spark checks (session.advance check progress) where
  filed := isolated.filed
  held := by
    intro other pending
    by_cases same : other = check
    · subst same
      exact isolated.held other (idle pending)
    · refine isolated.held other ?_
      simpa [Pending, Session.advance, Function.update_of_ne same] using pending
  own := isolated.own

private theorem evaluate (isolated : Isolated runtime spark checks session) {sql : String}
    (view : ∀ viewName ∈ (checks check).viewName runtime,
      ∃ frame, session.views (spark.viewKey viewName) = some frame ∧ frame.check = check)
    (unshadowed : session.Unshadowed runtime spark checks check sql) :
    Isolated runtime spark checks (session.evaluate check sql) where
  filed := isolated.filed
  held := isolated.held
  own := by
    intro evaluation member
    rcases List.mem_append.mp member with earlier | now
    · exact isolated.own evaluation earlier
    · obtain rfl := List.mem_singleton.mp now
      refine ⟨view, ?_⟩
      intro name mentioned frame bound
      by_contra foreign
      have unbound : session.views (spark.viewKey name) = none := by
        refine unshadowed name mentioned fun viewName named same => ?_
        obtain ⟨own, ownBound, ownCheck⟩ := view viewName named
        have equal : some frame = some own := bound.symm.trans (same ▸ ownBound)
        exact foreign (Option.some.inj equal ▸ ownCheck)
      cases bound.symm.trans unbound

private theorem register (isolated : Isolated runtime spark checks session) {viewName : String}
    {rows : List Row} (named : (checks check).viewName runtime = some viewName)
    (undisturbed : Undisturbed runtime spark checks session (.createView check)) :
    Isolated runtime spark checks
      ((session.register (spark.viewKey viewName) ⟨check, rows⟩).advance check .registered) where
  filed := by
    intro key frame bound
    by_cases same : key = spark.viewKey viewName
    · subst same
      have equal : some (⟨check, rows⟩ : DataFrame ι Row) = some frame := by
        simpa [Session.advance, Session.register] using bound
      cases equal
      exact ⟨viewName, named, rfl⟩
    · refine isolated.filed key frame ?_
      simpa [Session.advance, Session.register, Function.update_of_ne same] using bound
  held := by
    intro other pending otherName otherNamed
    by_cases same : other = check
    · subst same
      obtain rfl : viewName = otherName := Option.some.inj (named.symm.trans otherNamed)
      exact ⟨⟨other, rows⟩, by simp [Session.advance, Session.register], rfl⟩
    · have before : Pending runtime checks session other := by
        simpa [Pending, Session.advance, Session.register, Function.update_of_ne same] using pending
      obtain ⟨frame, bound, owner⟩ := isolated.held other before otherName otherNamed
      have distinct := undisturbed other same before viewName named otherName otherNamed
      refine ⟨frame, ?_, owner⟩
      simpa [Session.advance, Session.register, Function.update_of_ne distinct] using bound
  own := isolated.own

private theorem step (isolated : Isolated runtime spark checks session) {action : Action ι}
    {next : Session ι Row} (undisturbed : Undisturbed runtime spark checks session action)
    (moved : session.step runtime spark checks action = some next) :
    Isolated runtime spark checks next := by
  cases action with
  | load check =>
      simp only [Session.step] at moved
      split at moved
      · cases moved
        refine isolated.advance fun pending => ?_
        simp [Pending, Session.advance] at pending
      · cases moved
  | createView check =>
      simp only [Session.step] at moved
      split at moved
      · rename_i rows viewName _ named
        cases moved
        exact isolated.register named undisturbed
      · cases moved
  | submit check =>
      simp only [Session.step] at moved
      split at moved
      · rename_i registered named
        cases moved
        refine (isolated.evaluate (isolated.held check (.inl registered)) undisturbed).advance ?_
        exact fun _ => .inl registered
      · rename_i _ unnamed
        cases moved
        refine (isolated.evaluate ?_ undisturbed).advance fun pending => ?_
        · intro viewName named
          cases unnamed.symm.trans named
        · simp [Pending, Session.advance] at pending
      · cases moved
  | submitViolations check =>
      simp only [Session.step] at moved
      split at moved
      · rename_i sql checked given
        cases moved
        have pending : Pending runtime checks session check := .inr ⟨checked, by simp [given]⟩
        refine (isolated.evaluate (isolated.held check pending) (undisturbed sql given)).advance ?_
        exact fun _ => pending
      · cases moved
  | finish check =>
      cases moved
      refine isolated.advance fun pending => ?_
      simp [Pending, Session.advance] at pending

private theorem run {actions : List (Action ι)} {final : Session ι Row}
    (isolated : Isolated runtime spark checks session)
    (undisturbed : UndisturbedRun runtime spark checks session actions)
    (moved : session.resume runtime spark checks actions = some final) :
    Isolated runtime spark checks final := by
  induction actions generalizing session with
  | nil =>
      cases moved
      exact isolated
  | cons action rest ih =>
      rw [Session.resume, List.foldlM_cons] at moved
      obtain ⟨next, stepped, moved⟩ := Option.bind_eq_some_iff.mp moved
      exact ih (isolated.step undisturbed.1 stepped) (undisturbed.2 next stepped) moved

end Isolated

variable {runtime spark checks} [DecidableEq ι] {session : Session ι Row}

/-- The steps lead to SQL that is evaluated on the data of another check. -/
def ReadsForeign (runtime : Runtime) (spark : Spark) (checks : ι → Check Row)
    (session : Session ι Row) (actions : List (Action ι)) : Prop :=
  ∃ final, session.resume runtime spark checks actions = some final ∧
    ∃ evaluation ∈ final.evaluations, ¬ evaluation.Own runtime spark checks

theorem foreign_of_replaced {check other : ι} {viewName otherName : String} {rows : List Row}
    (different : other ≠ check) (pending : Pending runtime checks session other)
    (named : (checks other).viewName runtime = some otherName)
    (same : spark.viewKey otherName = spark.viewKey viewName) :
    ∃ action, ReadsForeign runtime spark checks
      ((session.register (spark.viewKey viewName) ⟨check, rows⟩).advance check .registered) [action] := by
  have foreign (sql : String) : ¬ (Evaluation.mk other sql
      (Function.update session.views (spark.viewKey viewName) (some ⟨check, rows⟩))).Own
        runtime spark checks := by
    intro own
    obtain ⟨frame, bound, owner⟩ := own.view otherName named
    rw [same] at bound
    have equal : some (⟨check, rows⟩ : DataFrame ι Row) = some frame := by simpa using bound
    cases equal
    exact different owner.symm
  have kept (progress : Progress Row) :
      Function.update session.progress check progress other = session.progress other :=
    Function.update_of_ne different progress session.progress
  rcases pending with registered | ⟨checked, given⟩
  · refine ⟨.submit other, (((session.register (spark.viewKey viewName) ⟨check, rows⟩).advance check
      .registered).evaluate other ((checks other).aggregateSql runtime)).advance other .checked, ?_, ?_⟩
    · simp [Session.resume, Session.step, Session.advance, Session.register, kept, registered, named]
    · exact ⟨_, List.mem_append_right _ (List.mem_singleton.mpr rfl), foreign _⟩
  · obtain ⟨sql, given⟩ := Option.isSome_iff_exists.mp given
    refine ⟨.submitViolations other, (((session.register (spark.viewKey viewName) ⟨check, rows⟩).advance
      check .registered).evaluate other sql).advance other .ended, ?_, ?_⟩
    · simp [Session.resume, Session.step, Session.advance, Session.register, kept, checked, given]
    · exact ⟨_, List.mem_append_right _ (List.mem_singleton.mpr rfl), foreign _⟩

theorem Isolated.disturbed (isolated : Isolated runtime spark checks session) {action : Action ι}
    {next : Session ι Row} (disturbed : ¬ Undisturbed runtime spark checks session action)
    (moved : session.step runtime spark checks action = some next) :
    ∃ more, ReadsForeign runtime spark checks next more := by
  cases action with
  | load check => exact absurd trivial disturbed
  | finish check => exact absurd trivial disturbed
  | createView check =>
      simp only [Undisturbed, not_forall, ne_eq, not_not] at disturbed
      obtain ⟨other, different, pending, viewName, named, otherName, otherNamed, same⟩ := disturbed
      simp only [Session.step] at moved
      split at moved
      · rename_i rows found _ namedHere
        obtain rfl : viewName = found := Option.some.inj (named.symm.trans namedHere)
        cases moved
        obtain ⟨following, foreign⟩ := foreign_of_replaced different pending otherNamed same
        exact ⟨[following], foreign⟩
      · cases moved
  | submit check =>
      have foreign := isolated.foreign_of_shadowed disturbed
      simp only [Session.step] at moved
      split at moved
      · cases moved
        exact ⟨[], _, rfl, _, List.mem_append_right _ (List.mem_singleton.mpr rfl), foreign⟩
      · cases moved
        exact ⟨[], _, rfl, _, List.mem_append_right _ (List.mem_singleton.mpr rfl), foreign⟩
      · cases moved
  | submitViolations check =>
      simp only [Undisturbed, not_forall] at disturbed
      obtain ⟨sql, given, shadowed⟩ := disturbed
      have foreign := isolated.foreign_of_shadowed shadowed
      simp only [Session.step] at moved
      split at moved
      · rename_i found _ givenHere
        obtain rfl : sql = found := Option.some.inj ((Option.mem_def.mp given).symm.trans givenHere)
        cases moved
        exact ⟨[], _, rfl, _, List.mem_append_right _ (List.mem_singleton.mpr rfl), foreign⟩
      · cases moved

/-- In every run of undisturbed steps all SQL is evaluated on the data its own check
loaded; and after the first step that is not, a check reads foreign data, at once or
when it takes its next step. -/
theorem undisturbedRun_own {actions : List (Action ι)}
    (undisturbed : UndisturbedRun runtime spark checks Session.initial actions)
    (reached : Session.run runtime spark checks actions = some session) :
    (∀ evaluation ∈ session.evaluations, evaluation.Own runtime spark checks) ∧
      ∀ action next, session.step runtime spark checks action = some next →
        ¬ Undisturbed runtime spark checks session action →
          ∃ more, ReadsForeign runtime spark checks next more := by
  have isolated := Isolated.initial.run undisturbed reached
  exact ⟨isolated.own, fun action next moved disturbed => isolated.disturbed disturbed moved⟩

end Isolation

section Example

/-- Two tenants check a table of the same name, each on a connection of its own. -/
private def tenants : Bool → Check String
  | tenant => .query (fun _ _ => some [if tenant then "theirs" else "ours"])
      "SELECT COUNT(*) FROM public.orders"

/-- Names are filed in lower case, and the queries name their view only. -/
private def ordersSpark : Spark where
  viewKey name := Runtime.ascii.lowerStr name
  tableNames _ := ["public_orders_temp"]

private theorem tenants_viewName (tenant : Bool) :
    (tenants tenant).viewName Runtime.ascii = some "public_orders_temp" := by
  cases tenant <;> decide +kernel

private theorem tenants_load (tenant : Bool) :
    (tenants tenant).load Runtime.ascii = some [if tenant then "theirs" else "ours"] := by
  cases tenant <;> decide +kernel

theorem ordersSpark_viewKey : ordersSpark.viewKey "public_orders_temp" = "public_orders_temp" := by
  decide +kernel

/-- The second tenant replaces the view of the first before it is read. -/
theorem tenants_mixed : ∃ session,
    Session.run Runtime.ascii ordersSpark tenants
        [.load false, .load true, .createView false, .createView true, .submit false] = some session ∧
      session.evaluations.map (fun evaluation =>
        (evaluation.check, evaluation.views "public_orders_temp")) = [(false, some ⟨true, ["theirs"]⟩)] ∧
      ∃ evaluation ∈ session.evaluations,
        ¬ evaluation.Own Runtime.ascii ordersSpark tenants := by
  have read : (Session.run Runtime.ascii ordersSpark tenants
      [.load false, .load true, .createView false, .createView true, .submit false]).map (fun session =>
        session.evaluations.map fun evaluation =>
          (evaluation.check, evaluation.views "public_orders_temp")) =
      some [(false, some ⟨true, ["theirs"]⟩)] := by
    decide +kernel
  obtain ⟨session, reached, evaluations⟩ := Option.map_eq_some_iff.mp read
  obtain ⟨evaluation, alone, found⟩ := List.map_eq_singleton_iff.mp evaluations
  obtain ⟨reader, bound⟩ := Prod.mk.inj found
  refine ⟨session, reached, evaluations, evaluation, by simp [alone], fun own => ?_⟩
  obtain ⟨frame, own, owner⟩ := own.view _ (tenants_viewName _)
  rw [ordersSpark_viewKey, bound] at own
  cases own
  exact absurd (owner.trans reader) (by decide)

theorem tenants_own : ∃ session,
    Session.run Runtime.ascii ordersSpark tenants
        [.load false, .load true, .createView false, .submit false] = some session ∧
      ∀ evaluation ∈ session.evaluations, evaluation.Own Runtime.ascii ordersSpark tenants := by
  have finished : (Session.run Runtime.ascii ordersSpark tenants
      [.load false, .load true, .createView false, .submit false]).isSome = true := by
    decide +kernel
  obtain ⟨session, reached⟩ := Option.isSome_iff_exists.mp finished
  refine ⟨session, reached, (undisturbedRun_own ?_ reached).1⟩
  refine ⟨trivial, fun first loaded => ⟨trivial, fun second both => ⟨?_, fun third registered =>
    ⟨?_, fun _ _ => trivial⟩⟩⟩⟩
  · -- The other check has not registered anything yet.
    simp only [Session.step, Session.initial, tenants_load, Option.some.injEq] at loaded
    subst loaded
    simp [Session.step, Session.advance, tenants_load] at both
    subst both
    intro other different pending
    obtain rfl : other = true := by simpa using different
    simp [Pending] at pending
  · intro name mentioned distinct
    obtain rfl := List.mem_singleton.mp mentioned
    exact absurd rfl (distinct _ (tenants_viewName false))

end Example

end CogniDQ.Execution
