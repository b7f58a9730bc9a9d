import Mathlib.Init

/-!
# Runs of a partial step

A system takes labelled steps, and a step may not be possible in a state. What every possible step
preserves holds at the end of every run, under a condition on the steps if need be.
-/

set_option autoImplicit false

namespace CogniDQ.Protocol

variable {State Action : Type} {step : State → Action → Option State} {start final : State}
  {schedule : List Action}

def run (step : State → Action → Option State) (state : State) : List Action → Option State
  | [] => some state
  | action :: rest => (step state action).bind fun next => run step next rest

/-- Every step of a schedule meets the condition where it is taken. -/
def RunMeets (step : State → Action → Option State) (condition : State → Action → Prop)
    (state : State) : List Action → Prop
  | [] => True
  | action :: rest =>
    condition state action ∧ ∀ next, step state action = some next →
      RunMeets step condition next rest

theorem runMeets_of_forall {condition : State → Action → Prop}
    (always : ∀ state action, condition state action) :
    RunMeets step condition start schedule := by
  induction schedule generalizing start with
  | nil => trivial
  | cons action rest ih => exact ⟨always start action, fun _ _ => ih⟩

/-- Whether a schedule meets a condition can be run. -/
instance decidableRunMeets {condition : State → Action → Prop}
    [decides : ∀ state action, Decidable (condition state action)] (state : State) :
    (schedule : List Action) → Decidable (RunMeets step condition state schedule)
  | [] => isTrue trivial
  | action :: rest =>
    match decides state action with
    | isFalse fails => isFalse fun meets => fails meets.1
    | isTrue holds =>
      match stepped : step state action with
      | none => isTrue ⟨holds, fun _ taken => nomatch stepped.symm.trans taken⟩
      | some next =>
        match decidableRunMeets next rest with
        | isFalse fails => isFalse fun meets => fails (meets.2 next stepped)
        | isTrue later =>
          isTrue ⟨holds, fun _ taken => Option.some.inj (stepped.symm.trans taken) ▸ later⟩

theorem run_cons {action : Action} {rest : List Action}
    (ran : run step start (action :: rest) = some final) :
    ∃ next, step start action = some next ∧ run step next rest = some final :=
  Option.bind_eq_some_iff.mp ran

/-- An invariant of the steps that meet a condition is one of the runs whose steps meet it. -/
theorem run_preserves {invariant : State → Prop} {condition : State → Action → Prop}
    (preserved : ∀ state action next, invariant state → condition state action →
      step state action = some next → invariant next)
    (begun : invariant start) (meets : RunMeets step condition start schedule)
    (ran : run step start schedule = some final) : invariant final := by
  induction schedule generalizing start with
  | nil =>
      cases ran
      exact begun
  | cons action rest ih =>
      obtain ⟨next, stepped, continued⟩ := run_cons ran
      exact ih (preserved start action next begun meets.1 stepped) (meets.2 next stepped) continued

theorem run_preserves_recorded {Record : Type} {record : Record → Action → Record}
    {invariant : Record → State → Prop} {condition : State → Action → Prop} {kept : Record}
    (preserved : ∀ kept state action next, invariant kept state → condition state action →
      step state action = some next → invariant (record kept action) next)
    (begun : invariant kept start) (meets : RunMeets step condition start schedule)
    (ran : run step start schedule = some final) :
    invariant (schedule.foldl record kept) final := by
  induction schedule generalizing start kept with
  | nil =>
      cases ran
      exact begun
  | cons action rest ih =>
      obtain ⟨next, stepped, continued⟩ := run_cons ran
      exact ih (preserved kept start action next begun meets.1 stepped) (meets.2 next stepped)
        continued

theorem runMeets_append {condition : State → Action → Prop} {later : List Action}
    (meets : RunMeets step condition start (schedule ++ later))
    (ran : run step start schedule = some final) :
    RunMeets step condition start schedule ∧ RunMeets step condition final later := by
  induction schedule generalizing start with
  | nil =>
      cases ran
      exact ⟨trivial, meets⟩
  | cons action rest ih =>
      obtain ⟨reached, stepped, continued⟩ := run_cons ran
      obtain ⟨now, further⟩ := meets
      refine ⟨⟨now, fun next steppedNext => ?_⟩, (ih (further reached stepped) continued).2⟩
      obtain rfl := Option.some.inj (stepped.symm.trans steppedNext)
      exact (ih (further reached stepped) continued).1

theorem runMeets_of_mem {condition : State → Action → Prop}
    (always : ∀ state, ∀ action ∈ schedule, condition state action) :
    RunMeets step condition start schedule := by
  induction schedule generalizing start with
  | nil => trivial
  | cons action rest ih =>
      exact ⟨always start action List.mem_cons_self, fun _ _ =>
        ih fun state later listed => always state later (List.mem_cons_of_mem _ listed)⟩

theorem runMeets_and {first second : State → Action → Prop}
    (meetsFirst : RunMeets step first start schedule)
    (meetsSecond : RunMeets step second start schedule) :
    RunMeets step (fun state action => first state action ∧ second state action) start schedule := by
  induction schedule generalizing start with
  | nil => trivial
  | cons action rest ih =>
      exact ⟨⟨meetsFirst.1, meetsSecond.1⟩, fun next stepped =>
        ih (meetsFirst.2 next stepped) (meetsSecond.2 next stepped)⟩

/-- If a step against a condition spoils the state for good, a run that does not end spoiled has met
the condition throughout. -/
theorem runMeets_of_unspoiled {invariant spoiled : State → Prop}
    {admits condition : State → Action → Prop}
    (preserved : ∀ state action next, invariant state → admits state action →
      step state action = some next → invariant next)
    (kept : ∀ state action next, spoiled state → admits state action →
      step state action = some next → spoiled next)
    (spoils : ∀ state action next, invariant state → admits state action →
      ¬condition state action → step state action = some next → spoiled next)
    (begun : invariant start) (admitted : RunMeets step admits start schedule)
    (ran : run step start schedule = some final) (unspoiled : ¬spoiled final) :
    RunMeets step condition start schedule := by
  induction schedule generalizing start with
  | nil => trivial
  | cons action rest ih =>
      obtain ⟨reached, stepped, continued⟩ := run_cons ran
      obtain ⟨now, later⟩ := admitted
      constructor
      · refine Classical.byContradiction fun against => ?_
        have gone := spoils start action reached begun now against stepped
        exact unspoiled (run_preserves kept gone (later reached stepped) continued)
      · intro next steppedNext
        obtain rfl := Option.some.inj (stepped.symm.trans steppedNext)
        exact ih (preserved start action reached begun now stepped) (later reached stepped) continued

end CogniDQ.Protocol
