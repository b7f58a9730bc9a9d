import Mathlib.Data.List.TakeWhile
import CogniDQ.Database.Rows
import CogniDQ.Python.Dynamic

/-!
# Answers to clarification questions

A session holds the questions about an ambiguous rule and the answers given so far. A call applies a
list of answers, one after the other, to the session object that the service keeps.
-/

set_option autoImplicit false

namespace CogniDQ.Proposals

open CogniDQ.Database CogniDQ.Python

inductive AnswerType where
  | singleSelect
  | multiSelect
  | freeText
  | numeric
deriving DecidableEq, Repr

inductive SessionStatus where
  | open
  | resolved
  | cancelled
  | expired
deriving DecidableEq, Repr

structure ClarificationQuestion where
  questionId : String
  answerType : AnswerType
  options : List String
  required : Bool
deriving DecidableEq

structure ClarificationAnswer where
  questionId : String
  selectedOptionIds : List String
  valueText : Option String
  valueNumber : Option Rat
deriving DecidableEq

structure DisambiguationSession (Uuid : Type) where
  sessionId : Uuid
  questions : List ClarificationQuestion
  answers : Rows String ClarificationAnswer
  status : SessionStatus

/-- The errors of a call, all of them `ValueError`s. -/
inductive AnswerError where
  | sessionNotFound
  | unknownQuestion (questionId : String)
  | optionsRequired (questionId : String)
  | invalidOptions (questionId : String) (invalid : List String)
  | oneOptionRequired (questionId : String)
  | textRequired (questionId : String)
  | numberRequired (questionId : String)
deriving DecidableEq, Repr

structure ApplyAnswersResult (Uuid : Type) where
  sessionId : Uuid
  canResumePipeline : Bool
  pendingRequiredQuestionIds : List String
  answeredQuestionIds : List String

section Service

variable {Uuid : Type} [DecidableEq Uuid] (runtime : Runtime)

def AnswerError.message : AnswerError → String
  | .sessionNotFound => "disambiguation session not found"
  | .unknownQuestion questionId => "unknown question_id: " ++ questionId
  | .optionsRequired questionId => "selected_option_ids required for question " ++ questionId
  | .invalidOptions questionId invalid =>
      "invalid option id(s) for question " ++ questionId ++ ": " ++
        runtime.str (.list (invalid.map .str))
  | .oneOptionRequired questionId =>
      "single_select question " ++ questionId ++ " requires exactly one option"
  | .textRequired questionId => "value_text required for question " ++ questionId
  | .numberRequired questionId => "value_number required for question " ++ questionId

def validateAnswer (question : ClarificationQuestion) (answer : ClarificationAnswer) :
    Except AnswerError Unit :=
  if question.answerType = .singleSelect ∨ question.answerType = .multiSelect then
    if answer.selectedOptionIds = [] then .error (.optionsRequired question.questionId)
    else
      let invalid := answer.selectedOptionIds.filter fun option => !question.options.contains option
      if invalid ≠ [] then .error (.invalidOptions question.questionId invalid)
      else if question.answerType = .singleSelect ∧ answer.selectedOptionIds.length ≠ 1 then
        .error (.oneOptionRequired question.questionId)
      else .ok ()
  else if question.answerType = .freeText then
    if question.required ∧ runtime.stripStr (answer.valueText.getD "") = "" then
      .error (.textRequired question.questionId)
    else .ok ()
  else if answer.valueNumber = none then .error (.numberRequired question.questionId)
  else .ok ()

/-- `{q.question_id: q for q in questions}.get(question_id)`: the last question of the id. -/
def questionFor (questions : List ClarificationQuestion) (questionId : String) :
    Option ClarificationQuestion :=
  questions.reverse.find? (·.questionId == questionId)

def DisambiguationSession.registerAnswer (session : DisambiguationSession Uuid)
    (answer : ClarificationAnswer) : DisambiguationSession Uuid :=
  { session with answers := session.answers.insert answer.questionId answer }

def DisambiguationSession.resolve (session : DisambiguationSession Uuid) :
    DisambiguationSession Uuid :=
  { session with status := .resolved }

/-- The loop over the answers: the session as the loop leaves it, and the ids it has answered or the
error that ended it. -/
def registerAnswers (session : DisambiguationSession Uuid) (answeredIds : List String) :
    List ClarificationAnswer → DisambiguationSession Uuid × Except AnswerError (List String)
  | [] => (session, .ok answeredIds)
  | answer :: rest =>
      match questionFor session.questions answer.questionId with
      | none => (session, .error (.unknownQuestion answer.questionId))
      | some question =>
          match validateAnswer runtime question answer with
          | .error error => (session, .error error)
          | .ok () =>
              registerAnswers (session.registerAnswer answer) (answeredIds ++ [answer.questionId]) rest

def DisambiguationSession.pendingRequired (session : DisambiguationSession Uuid) : List String :=
  (session.questions.filter fun question =>
    question.required && (session.answers.lookup question.questionId).isNone).map (·.questionId)

def DisambiguationSession.applyAnswers (session : DisambiguationSession Uuid)
    (answers : List ClarificationAnswer) :
    DisambiguationSession Uuid × Except AnswerError (ApplyAnswersResult Uuid) :=
  match registerAnswers runtime session [] answers with
  | (session, .error error) => (session, .error error)
  | (session, .ok answeredIds) =>
      let pendingRequired := session.pendingRequired
      (if pendingRequired = [] then session.resolve else session,
        .ok
          { sessionId := session.sessionId
            canResumePipeline := pendingRequired = []
            pendingRequiredQuestionIds := pendingRequired
            answeredQuestionIds := answeredIds })

/-- `DisambiguationSessionService.apply_answers`, on the sessions that the service keeps. -/
def applyAnswers (sessions : Rows Uuid (DisambiguationSession Uuid)) (sessionId : Uuid)
    (answers : List ClarificationAnswer) :
    Rows Uuid (DisambiguationSession Uuid) × Except AnswerError (ApplyAnswersResult Uuid) :=
  match sessions.lookup sessionId with
  | none => (sessions, .error .sessionNotFound)
  | some session =>
      let applied := session.applyAnswers runtime answers
      (sessions.insert sessionId applied.1, applied.2)

/-- The question of an answer is known and the answer passes its validation. -/
def accepts (questions : List ClarificationQuestion) (answer : ClarificationAnswer) : Bool :=
  (questionFor questions answer.questionId).any fun question =>
    (validateAnswer runtime question answer).isOk

def lastAnswer (answers : List ClarificationAnswer) (questionId : String) :
    Option ClarificationAnswer :=
  answers.reverse.find? (·.questionId == questionId)

end Service

variable {Uuid : Type} [DecidableEq Uuid] {runtime : Runtime} {session : DisambiguationSession Uuid}
  {answers : List ClarificationAnswer} {questionId : String} {ids : List String}

private theorem lastAnswer_cons (answer : ClarificationAnswer) (rest : List ClarificationAnswer) :
    lastAnswer (answer :: rest) questionId =
      (lastAnswer rest questionId).or (if answer.questionId = questionId then some answer else none) := by
  unfold lastAnswer
  rw [List.reverse_cons, List.find?_append]
  by_cases same : answer.questionId = questionId <;> simp [same]

omit [DecidableEq Uuid] in
theorem registerAnswers_fst :
    (registerAnswers runtime session ids answers).1.questions = session.questions ∧
      (registerAnswers runtime session ids answers).1.status = session.status ∧
      ∀ questionId, (registerAnswers runtime session ids answers).1.answers.lookup questionId =
        (lastAnswer (answers.takeWhile (accepts runtime session.questions)) questionId).or
          (session.answers.lookup questionId) := by
  induction answers generalizing session ids with
  | nil => exact ⟨rfl, rfl, fun questionId => rfl⟩
  | cons answer rest ih =>
      rw [registerAnswers]
      cases known : questionFor session.questions answer.questionId with
      | none =>
          have refused : accepts runtime session.questions answer = false := by simp [accepts, known]
          simp [refused, lastAnswer]
      | some question =>
          cases valid : validateAnswer runtime question answer with
          | error error =>
              have refused : accepts runtime session.questions answer = false := by
                simp [accepts, known, valid, Except.isOk, Except.toBool]
              simp [valid, refused, lastAnswer]
          | ok _ =>
              have accepted : accepts runtime session.questions answer = true := by
                simp [accepts, known, valid, Except.isOk, Except.toBool]
              simp only [valid]
              obtain ⟨sameQuestions, sameStatus, found⟩ :=
                @ih (session.registerAnswer answer) (ids ++ [answer.questionId])
              refine ⟨sameQuestions, sameStatus, fun questionId => ?_⟩
              have registered : (session.registerAnswer answer).answers.lookup questionId =
                  (if answer.questionId = questionId then some answer else none).or
                    (session.answers.lookup questionId) := by
                by_cases same : answer.questionId = questionId
                · subst same
                  simp [DisambiguationSession.registerAnswer]
                · rw [if_neg same]
                  exact AList.lookup_insert_ne (Ne.symm same)
              rw [List.takeWhile_cons, if_pos accepted, lastAnswer_cons, Option.or_assoc, ← registered]
              exact found questionId

omit [DecidableEq Uuid] in
theorem registerAnswers_isOk :
    (registerAnswers runtime session ids answers).2.isOk =
      answers.all (accepts runtime session.questions) := by
  induction answers generalizing session ids with
  | nil => rfl
  | cons answer rest ih =>
      rw [registerAnswers, List.all_cons]
      cases known : questionFor session.questions answer.questionId with
      | none => simp [accepts, known, Except.isOk, Except.toBool]
      | some question =>
          cases valid : validateAnswer runtime question answer with
          | error error => simp [accepts, known, valid, Except.isOk, Except.toBool]
          | ok _ =>
              have accepted : accepts runtime session.questions answer = true := by
                simp [accepts, known, valid, Except.isOk, Except.toBool]
              simp only [valid, accepted, Bool.true_and]
              exact ih

/-! ## Safe calls -/

/-- A call that raises leaves the answers and the status alone; one that returns lets the pipeline
resume exactly when every required question has a valid answer; a closed session stays closed. -/
structure AppliesSafely (runtime : Runtime) (before after : DisambiguationSession Uuid)
    (result : Except AnswerError (ApplyAnswersResult Uuid)) : Prop where
  atomic : ∀ error, result = .error error →
    (∀ questionId, after.answers.lookup questionId = before.answers.lookup questionId) ∧
      after.status = before.status
  resumes : ∀ applied, result = .ok applied → (applied.canResumePipeline = true ↔
    ∀ question ∈ before.questions, question.required = true → ∃ answer,
      after.answers.lookup question.questionId = some answer ∧
        validateAnswer runtime question answer = .ok ())
  closed : before.status = .cancelled ∨ before.status = .expired → after.status ≠ .resolved

/-- Every required question has an answer, of the call or from before. -/
def Complete (session : DisambiguationSession Uuid) (answers : List ClarificationAnswer) : Prop :=
  ∀ question ∈ session.questions, question.required = true →
    ((lastAnswer answers question.questionId).or
      (session.answers.lookup question.questionId)).isSome = true

/-- When a call is safe: the answers before a refused one repeat what the session has; and a call
that completes an open session finds valid answers to the required questions it does not answer, and
gives valid ones to those that another question of the same id hides. -/
structure SafeCall (runtime : Runtime) (session : DisambiguationSession Uuid)
    (answers : List ClarificationAnswer) : Prop where
  repeated : answers.all (accepts runtime session.questions) = false → ∀ questionId answer,
    lastAnswer (answers.takeWhile (accepts runtime session.questions)) questionId = some answer →
      session.answers.lookup questionId = some answer
  earlier : answers.all (accepts runtime session.questions) = true → Complete session answers →
    ∀ question ∈ session.questions, question.required = true →
      lastAnswer answers question.questionId = none → ∀ answer,
        session.answers.lookup question.questionId = some answer →
          validateAnswer runtime question answer = .ok ()
  hidden : answers.all (accepts runtime session.questions) = true → Complete session answers →
    ∀ question ∈ session.questions, question.required = true →
      questionFor session.questions question.questionId ≠ some question → ∀ answer,
        lastAnswer answers question.questionId = some answer →
          validateAnswer runtime question answer = .ok ()
  stillOpen : answers.all (accepts runtime session.questions) = true → Complete session answers →
    session.status ≠ .cancelled ∧ session.status ≠ .expired

omit [DecidableEq Uuid] in
private theorem pendingRequired_eq_nil_iff :
    session.pendingRequired = [] ↔ ∀ question ∈ session.questions, question.required = true →
      (session.answers.lookup question.questionId).isSome = true := by
  unfold DisambiguationSession.pendingRequired
  simp only [List.map_eq_nil_iff, List.filter_eq_nil_iff, Bool.and_eq_true, not_and,
    Bool.not_eq_true, Option.isNone_eq_false_iff]

omit [DecidableEq Uuid] in
theorem registerAnswers_accepted (accepted : answers.all (accepts runtime session.questions) = true)
    (questionId : String) :
    (registerAnswers runtime session ids answers).1.answers.lookup questionId =
      (lastAnswer answers questionId).or (session.answers.lookup questionId) := by
  have whole : answers.takeWhile (accepts runtime session.questions) = answers :=
    List.takeWhile_eq_self_iff.mpr (List.all_eq_true.mp accepted)
  have found := (@registerAnswers_fst Uuid runtime session answers ids).2.2 questionId
  rwa [whole] at found

omit [DecidableEq Uuid] in
theorem valid_of_lastAnswer (accepted : answers.all (accepts runtime session.questions) = true)
    {question : ClarificationQuestion} {answer : ClarificationAnswer}
    (known : questionFor session.questions question.questionId = some question)
    (isLast : lastAnswer answers question.questionId = some answer) :
    validateAnswer runtime question answer = .ok () := by
  have listed : answer ∈ answers := List.mem_reverse.mp (List.mem_of_find?_eq_some isLast)
  have named : answer.questionId = question.questionId := by
    simpa using List.find?_some isLast
  have valid := List.all_eq_true.mp accepted answer listed
  rw [accepts, named, known, Option.any_some] at valid
  cases result : validateAnswer runtime question answer with
  | error error => simp [result, Except.isOk, Except.toBool] at valid
  | ok _ => rfl

omit [DecidableEq Uuid] in
theorem applyAnswers_refused (refused : answers.all (accepts runtime session.questions) = false) :
    ∃ error, (session.applyAnswers runtime answers).2 = .error error ∧
      (session.applyAnswers runtime answers).1.status = session.status ∧
      ∀ questionId, (session.applyAnswers runtime answers).1.answers.lookup questionId =
        (lastAnswer (answers.takeWhile (accepts runtime session.questions)) questionId).or
          (session.answers.lookup questionId) := by
  have failed := @registerAnswers_isOk Uuid runtime session answers []
  obtain ⟨-, sameStatus, found⟩ := @registerAnswers_fst Uuid runtime session answers []
  unfold DisambiguationSession.applyAnswers
  rw [refused] at failed
  generalize registerAnswers runtime session [] answers = outcome at *
  obtain ⟨after, result⟩ := outcome
  cases result with
  | ok ids => cases failed
  | error error => exact ⟨error, rfl, sameStatus, found⟩

omit [DecidableEq Uuid] in
theorem applyAnswers_accepted (accepted : answers.all (accepts runtime session.questions) = true) :
    ∃ applied, (session.applyAnswers runtime answers).2 = .ok applied ∧
      (applied.canResumePipeline = true ↔ Complete session answers) ∧
      (∀ questionId, (session.applyAnswers runtime answers).1.answers.lookup questionId =
        (lastAnswer answers questionId).or (session.answers.lookup questionId)) ∧
      (Complete session answers → (session.applyAnswers runtime answers).1.status = .resolved) ∧
      (¬Complete session answers →
        (session.applyAnswers runtime answers).1.status = session.status) := by
  have succeeded := @registerAnswers_isOk Uuid runtime session answers []
  have found := @registerAnswers_accepted Uuid runtime session answers [] accepted
  obtain ⟨sameQuestions, sameStatus, -⟩ := @registerAnswers_fst Uuid runtime session answers []
  unfold DisambiguationSession.applyAnswers
  rw [accepted] at succeeded
  generalize registerAnswers runtime session [] answers = outcome at *
  obtain ⟨after, result⟩ := outcome
  cases result with
  | error error => cases succeeded
  | ok ids =>
      have complete : after.pendingRequired = [] ↔ Complete session answers := by
        rw [pendingRequired_eq_nil_iff, Complete, sameQuestions]
        simp only [found]
      refine ⟨_, rfl, ?_, fun questionId => ?_, fun whole => ?_, fun lacking => ?_⟩
      · simp only [decide_eq_true_eq]
        exact complete
      · dsimp only
        split <;> exact found questionId
      · simp only [if_pos (complete.mpr whole)]
        rfl
      · simp only [if_neg (mt complete.mp lacking)]
        exact sameStatus

omit [DecidableEq Uuid] in
theorem safe_refused_iff (refused : answers.all (accepts runtime session.questions) = false) :
    AppliesSafely runtime session (session.applyAnswers runtime answers).1
        (session.applyAnswers runtime answers).2 ↔ SafeCall runtime session answers := by
  obtain ⟨error, raised, sameStatus, found⟩ := applyAnswers_refused refused
  have notAccepted : answers.all (accepts runtime session.questions) ≠ true := by simp [refused]
  constructor
  · intro safe
    refine ⟨fun _ questionId answer isLast => ?_, fun accepted => absurd accepted notAccepted,
      fun accepted => absurd accepted notAccepted, fun accepted => absurd accepted notAccepted⟩
    have kept := (safe.atomic error raised).1 questionId
    rw [found questionId, isLast, Option.some_or] at kept
    exact kept.symm
  · intro safe
    refine ⟨fun _ _ => ⟨fun questionId => ?_, sameStatus⟩, fun applied returned => ?_,
      fun closed => ?_⟩
    · rw [found questionId]
      cases isLast : lastAnswer (answers.takeWhile (accepts runtime session.questions)) questionId with
      | none => rfl
      | some answer => exact (safe.repeated refused questionId answer isLast).symm
    · rw [raised] at returned
      cases returned
    · rw [sameStatus]
      rcases closed with isClosed | isClosed <;> rw [isClosed] <;> decide

omit [DecidableEq Uuid] in
theorem safe_accepted_iff (accepted : answers.all (accepts runtime session.questions) = true) :
    AppliesSafely runtime session (session.applyAnswers runtime answers).1
        (session.applyAnswers runtime answers).2 ↔ SafeCall runtime session answers := by
  obtain ⟨applied, returned, resumes, found, resolved, kept⟩ := applyAnswers_accepted accepted
  have notRefused : answers.all (accepts runtime session.questions) ≠ false := by simp [accepted]
  constructor
  · intro safe
    -- A completed session resumes, so that what it holds for a required question is valid.
    have valid (complete : Complete session answers) (question : ClarificationQuestion)
        (listed : question ∈ session.questions) (required : question.required = true)
        (answer : ClarificationAnswer) (held : (lastAnswer answers question.questionId).or
          (session.answers.lookup question.questionId) = some answer) :
        validateAnswer runtime question answer = .ok () := by
      obtain ⟨stored, isStored, passes⟩ :=
        (safe.resumes applied returned).mp (resumes.mpr complete) question listed required
      rw [found, held] at isStored
      obtain rfl := Option.some.inj isStored
      exact passes
    refine ⟨fun refused => absurd refused notRefused, ?_, ?_, ?_⟩
    · intro _ complete question listed required unanswered answer stored
      refine valid complete question listed required answer ?_
      rw [unanswered, Option.none_or, stored]
    · intro _ complete question listed required _ answer isLast
      refine valid complete question listed required answer ?_
      rw [isLast, Option.some_or]
    · intro _ complete
      have isResolved := resolved complete
      constructor <;> intro closed
      · exact safe.closed (.inl closed) isResolved
      · exact safe.closed (.inr closed) isResolved
  · intro safe
    refine ⟨fun error raised => ?_, fun other returns => ?_, fun closed isResolved => ?_⟩
    · rw [returned] at raised
      cases raised
    · obtain rfl : applied = other := Except.ok.inj (returned.symm.trans returns)
      refine resumes.trans ⟨fun complete question listed required => ?_, fun answered => ?_⟩
      · obtain ⟨answer, held⟩ := Option.isSome_iff_exists.mp (complete question listed required)
        refine ⟨answer, (found question.questionId).trans held, ?_⟩
        cases isLast : lastAnswer answers question.questionId with
        | none =>
            rw [isLast, Option.none_or] at held
            exact safe.earlier accepted complete question listed required isLast answer held
        | some last =>
            rw [isLast, Option.some_or] at held
            obtain rfl := Option.some.inj held
            by_cases known : questionFor session.questions question.questionId = some question
            · exact valid_of_lastAnswer accepted known isLast
            · exact safe.hidden accepted complete question listed required known last isLast
      · intro question listed required
        obtain ⟨answer, stored, -⟩ := answered question listed required
        rw [← found, stored]
        rfl
    · by_cases complete : Complete session answers
      · obtain ⟨notCancelled, notExpired⟩ := safe.stillOpen accepted complete
        exact closed.elim notCancelled notExpired
      · rw [kept complete] at isResolved
        rw [isResolved] at closed
        rcases closed with wrong | wrong <;> cases wrong

/-- What a call does to a saved session is safe exactly when the call is. -/
theorem applyAnswers_safe_iff {sessions : Rows Uuid (DisambiguationSession Uuid)} {sessionId : Uuid}
    (saved : sessions.lookup sessionId = some session) :
    (∃ after, (applyAnswers runtime sessions sessionId answers).1.lookup sessionId = some after ∧
      AppliesSafely runtime session after (applyAnswers runtime sessions sessionId answers).2) ↔
      SafeCall runtime session answers := by
  have stored : (applyAnswers runtime sessions sessionId answers).1.lookup sessionId =
      some (session.applyAnswers runtime answers).1 := by
    simp [applyAnswers, saved]
  have result : (applyAnswers runtime sessions sessionId answers).2 =
      (session.applyAnswers runtime answers).2 := by
    simp [applyAnswers, saved]
  have safe : AppliesSafely runtime session (session.applyAnswers runtime answers).1
      (session.applyAnswers runtime answers).2 ↔ SafeCall runtime session answers := by
    cases accepted : answers.all (accepts runtime session.questions) with
    | false => exact safe_refused_iff accepted
    | true => exact safe_accepted_iff accepted
  rw [stored, result]
  constructor
  · rintro ⟨after, isAfter, applies⟩
    obtain rfl := Option.some.inj isAfter
    exact safe.mp applies
  · intro call
    exact ⟨_, rfl, safe.mpr call⟩

/-! ## Two sessions -/

private def thresholdQuestion : ClarificationQuestion := ⟨"threshold", .numeric, [], true⟩

private def thresholdAnswer : ClarificationAnswer := ⟨"threshold", [], none, some 95⟩

private def thresholdSession : DisambiguationSession Nat := ⟨1, [thresholdQuestion], ∅, .open⟩

theorem threshold_answered :
    ∃ after, (applyAnswers Runtime.ascii (AList.singleton 1 thresholdSession) 1
        [thresholdAnswer]).1.lookup 1 = some after ∧
      AppliesSafely Runtime.ascii thresholdSession after
        (applyAnswers Runtime.ascii (AList.singleton 1 thresholdSession) 1 [thresholdAnswer]).2 := by
  refine (@applyAnswers_safe_iff Nat _ Runtime.ascii thresholdSession _ _ 1 rfl).mpr ⟨?_, ?_, ?_, ?_⟩
  · intro refused
    exact absurd refused (by decide)
  · intro _ _ question listed _ unanswered
    obtain rfl := List.mem_singleton.mp listed
    exact absurd unanswered (by decide)
  · intro _ _ question listed _ hidden
    obtain rfl := List.mem_singleton.mp listed
    exact absurd rfl hidden
  · intro _ _
    decide

/-- A call that raises at its second answer has registered the first one. -/
theorem first_answer_kept :
    ∃ error, (applyAnswers Runtime.ascii (AList.singleton 1 thresholdSession) 1
        [thresholdAnswer, ⟨"dataset", ["orders"], none, none⟩]).2 = .error error ∧
      ¬∃ after, (applyAnswers Runtime.ascii (AList.singleton 1 thresholdSession) 1
          [thresholdAnswer, ⟨"dataset", ["orders"], none, none⟩]).1.lookup 1 = some after ∧
        AppliesSafely Runtime.ascii thresholdSession after
          (applyAnswers Runtime.ascii (AList.singleton 1 thresholdSession) 1
            [thresholdAnswer, ⟨"dataset", ["orders"], none, none⟩]).2 := by
  refine ⟨.unknownQuestion "dataset", rfl, ?_⟩
  rintro ⟨after, stored, safe⟩
  have kept := (safe.atomic (.unknownQuestion "dataset") rfl).1 "threshold"
  obtain rfl := Option.some.inj stored
  exact absurd kept (by decide)

end CogniDQ.Proposals
