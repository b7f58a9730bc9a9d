import CogniDQ.Alerts.NotificationDispatcher
import Mathlib.Data.Fintype.Basic

/-!
# Sending a notification once

What concurrent workers make of an event, as long as none of them takes up an event that another
one is dispatching, or that has changed since its session loaded it.
-/

set_option autoImplicit false

namespace CogniDQ.Alerts

open CogniDQ.Database CogniDQ.Protocol

section Events

variable {Uuid : Type}

/-- An attempt is left to an open event, unless it has none at all. -/
structure NotificationEvent.WithinRetries (event : NotificationEvent Uuid) : Prop where
  bounded : event.retryCount ≤ event.maxRetries
  remaining : event.isOpen = true → 0 < event.maxRetries → event.retryCount < event.maxRetries

inductive NotificationEvent.Dispatched (event : NotificationEvent Uuid) :
    NotificationEvent Uuid → Bool → Prop where
  | sent (sentAt deliveredAt : Int) : Dispatched event (event.markSent sentAt deliveredAt) true
  | failed (error : String) : Dispatched event (event.markFailed error) false
  | retry (message : String) (limited : 0 < event.maxRetries) :
      Dispatched event (event.markRetry message) false

variable {event changed : NotificationEvent Uuid} {delivered : Bool}

private theorem flushColumn_self {Column : Type} [DecidableEq Column] (loaded changed : Column) :
    flushColumn loaded changed loaded = changed := by
  unfold flushColumn
  split_ifs with same
  · exact same.symm
  · rfl

theorem NotificationEvent.Dispatched.flush (dispatched : event.Dispatched changed delivered) :
    event.flush changed event = changed := by
  simp only [NotificationEvent.flush, flushColumn_self]
  cases dispatched with
  | sent => rfl
  | failed => rfl
  | retry => rfl

private theorem NotificationEvent.Dispatched.closed (dispatched : event.Dispatched changed true) :
    changed.isOpen = false := by
  cases dispatched with
  | sent => rfl

theorem NotificationEvent.Dispatched.within (dispatched : event.Dispatched changed delivered)
    (open_ : event.isOpen = true) (within : event.WithinRetries) : changed.WithinRetries := by
  cases dispatched with
  | sent => exact ⟨within.bounded, nofun⟩
  | failed => exact ⟨within.bounded, nofun⟩
  | retry message limited =>
      have left := within.remaining open_ limited
      have limit : event.retryLimit = event.maxRetries := if_neg limited.ne'
      refine ⟨left, fun stillOpen _ => ?_⟩
      by_contra exhausted
      have atLimit : event.retryLimit ≤ event.retryCount + 1 := by
        rw [limit]
        exact not_lt.mp exhausted
      simp [NotificationEvent.isOpen, NotificationEvent.markRetry, atLimit] at stillOpen

end Events

section Phases

variable {Uuid : Type}

def Phase.taken : Phase Uuid → Option (EventRow Uuid)
  | .checked eventId event _ => some (eventId, event)
  | .delivering eventId event _ _ => some (eventId, event)
  | .committing eventId event _ _ _ => some (eventId, event)
  | _ => none

/-- The event has been delivered and its row does not show it yet. -/
def Phase.Delivered (eventId : Uuid) : Phase Uuid → Prop
  | .committing dispatched _ _ true _ => dispatched = eventId
  | _ => False

/-- What is about to be committed comes from the event as it was loaded. -/
def Phase.Recorded : Phase Uuid → Prop
  | .committing _ event changed delivered _ => event.Dispatched changed delivered
  | _ => True

def Phase.takesUp : Phase Uuid → Action Uuid → Option Uuid
  | .idle _, .dispatchEvent eventId => some eventId
  | .looping ⟨eventId :: _, _⟩, .nextEvent => some eventId
  | _, _ => none

def Phase.raises : Phase Uuid → Action Uuid → Option (NotificationEvent Uuid)
  | .delivering _ event channel _, .deliver outcome _ _ =>
    if (channel.deliver outcome).isOk then none else some event
  | _, _ => none

end Phases

section Workers

variable {Worker Uuid : Type} [DecidableEq Worker] [DecidableEq Uuid]

def World.Unclaimed (world : World Worker Uuid) (worker : Worker) (eventId : Uuid) : Prop :=
  ∀ other, other ≠ worker → ∀ event, (world.phase other).taken ≠ some (eventId, event)

/-- The condition on a step: an open event is taken up by one worker at a time and as it is
committed, and the delivery of an event without any attempts does not fail. -/
structure World.Careful (world : World Worker Uuid) (action : Worker × Action Uuid) : Prop where
  alone : ∀ eventId event, (world.phase action.1).takesUp action.2 = some eventId →
    world.found action.1 eventId = some event → event.isOpen = true →
      world.committed.lookup eventId = some event ∧ world.Unclaimed action.1 eventId
  limited : ∀ event, (world.phase action.1).raises action.2 = some event → 0 < event.maxRetries

/-- The condition can be checked step by step. -/
instance decidableCareful [Fintype Worker] (world : World Worker Uuid)
    (action : Worker × Action Uuid) : Decidable (world.Careful action) :=
  decidable_of_iff
    ((∀ eventId ∈ (world.phase action.1).takesUp action.2, ∀ event ∈ world.found action.1 eventId,
        event.isOpen = true → world.committed.lookup eventId = some event ∧
          ∀ other, other ≠ action.1 → ∀ taken ∈ (world.phase other).taken, taken.1 ≠ eventId) ∧
      ∀ event ∈ (world.phase action.1).raises action.2, 0 < event.maxRetries)
    ⟨fun ⟨alone, limited⟩ =>
      ⟨fun eventId event takes found isOpen =>
        (alone eventId takes event found isOpen).imp_right fun apart other different _ taken =>
          apart other different _ taken rfl,
        fun event raised => limited event raised⟩,
      fun careful =>
        ⟨fun eventId takes event found isOpen =>
          (careful.alone eventId event takes found isOpen).imp_right
            fun unclaimed other different held taken same =>
              unclaimed other different held.2 (same ▸ taken),
          fun event raised => careful.limited event raised⟩⟩

structure World.Sound (world : World Worker Uuid) : Prop where
  apart : ∀ worker eventId event, (world.phase worker).taken = some (eventId, event) →
    world.Unclaimed worker eventId
  current : ∀ worker eventId event, (world.phase worker).taken = some (eventId, event) →
    world.committed.lookup eventId = some event ∧ event.isOpen = true
  recorded : ∀ worker, (world.phase worker).Recorded
  within : ∀ eventId event, world.committed.lookup eventId = some event → event.WithinRetries
  once : ∀ eventId, world.deliveries.count eventId ≤ 1
  unsent : ∀ eventId event, world.committed.lookup eventId = some event → event.isOpen = true →
    eventId ∈ world.deliveries → ∃ worker, (world.phase worker).Delivered eventId

omit [DecidableEq Worker] in
private theorem World.sound_start {start : EventRows Uuid}
    (within : ∀ eventId event, start.lookup eventId = some event → event.WithinRetries) :
    (World.start start : World Worker Uuid).Sound where
  apart _ _ _ taken := nomatch taken
  current _ _ _ taken := nomatch taken
  recorded _ := trivial
  within := within
  once _ := Nat.zero_le 1
  unsent _ _ _ _ delivered := nomatch delivered

variable {world next : World Worker Uuid} {worker : Worker} {phase : Phase Uuid}

/-- A statement of one worker that delivers and commits nothing. -/
structure World.Moves (world next : World Worker Uuid) (worker : Worker) (phase : Phase Uuid) :
    Prop where
  committed : next.committed = world.committed
  deliveries : next.deliveries = world.deliveries
  phase : next.phase = Function.update world.phase worker phase

omit [DecidableEq Uuid] in
theorem World.Moves.goto (world : World Worker Uuid) (worker : Worker) (phase : Phase Uuid) :
    world.Moves (world.goto worker phase) worker phase :=
  ⟨rfl, rfl, rfl⟩

theorem World.Moves.load (world : World Worker Uuid) (worker : Worker) (eventId : Uuid)
    (phase : Phase Uuid) :
    world.Moves ((world.load worker eventId).goto worker phase) worker phase :=
  ⟨rfl, rfl, rfl⟩

theorem World.Moves.loads (events : List Uuid) (world : World Worker Uuid) (worker : Worker)
    (phase : Phase Uuid) :
    world.Moves ((events.foldl (fun world eventId => world.load worker eventId) world).goto
      worker phase) worker phase := by
  induction events generalizing world with
  | nil => exact Moves.goto world worker phase
  | cons eventId rest ih =>
      have loaded := ih (world.load worker eventId)
      exact ⟨loaded.committed, loaded.deliveries, loaded.phase⟩

omit [DecidableEq Uuid] in
theorem World.Moves.self (moves : world.Moves next worker phase) : next.phase worker = phase := by
  rw [moves.phase, Function.update_self]

omit [DecidableEq Uuid] in
private theorem World.Moves.other (moves : world.Moves next worker phase) {other : Worker}
    (different : other ≠ worker) : next.phase other = world.phase other := by
  rw [moves.phase, Function.update_of_ne different]

theorem World.Sound.advance (sound : world.Sound)
    (others : ∀ other, other ≠ worker → next.phase other = world.phase other)
    (kept : ∀ eventId, (∀ event, (world.phase worker).taken ≠ some (eventId, event)) →
      next.committed.lookup eventId = world.committed.lookup eventId)
    (claims : ∀ eventId event, (next.phase worker).taken = some (eventId, event) →
      (next.committed.lookup eventId = some event ∧ event.isOpen = true) ∧
        world.Unclaimed worker eventId)
    (recorded : (next.phase worker).Recorded)
    (within : ∀ eventId event, next.committed.lookup eventId = some event → event.WithinRetries)
    (once : ∀ eventId, next.deliveries.count eventId ≤ 1)
    (unsent : ∀ eventId event, next.committed.lookup eventId = some event → event.isOpen = true →
      eventId ∈ next.deliveries → ∃ worker, (next.phase worker).Delivered eventId) : next.Sound := by
  refine ⟨?_, ?_, ?_, within, once, unsent⟩
  · intro first eventId event taken second different other takenToo
    by_cases firstSame : first = worker
    · subst firstSame
      rw [others second different] at takenToo
      exact (claims eventId event taken).2 second different other takenToo
    · rw [others first firstSame] at taken
      by_cases secondSame : second = worker
      · subst secondSame
        exact (claims eventId other takenToo).2 first firstSame event taken
      · rw [others second secondSame] at takenToo
        exact sound.apart first eventId event taken second different other takenToo
  · intro other eventId event taken
    by_cases same : other = worker
    · subst same
      exact (claims eventId event taken).1
    · rw [others other same] at taken
      have untouched := kept eventId fun mine takenToo =>
        sound.apart other eventId event taken worker (Ne.symm same) mine takenToo
      rw [untouched]
      exact sound.current other eventId event taken
  · intro other
    by_cases same : other = worker
    · subst same
      exact recorded
    · rw [others other same]
      exact sound.recorded other

theorem World.Sound.moves (sound : world.Sound) (moves : world.Moves next worker phase)
    (undelivered : ∀ eventId, ¬(world.phase worker).Delivered eventId)
    (claims : ∀ eventId event, phase.taken = some (eventId, event) →
      (world.phase worker).taken = some (eventId, event) ∨
        (world.committed.lookup eventId = some event ∧ event.isOpen = true) ∧
          world.Unclaimed worker eventId)
    (recorded : phase.Recorded) : next.Sound := by
  have others : ∀ other, other ≠ worker → next.phase other = world.phase other :=
    fun other => moves.other
  apply sound.advance others
  · intro eventId _
    rw [moves.committed]
  · intro eventId event taken
    rw [moves.self] at taken
    rw [moves.committed]
    rcases claims eventId event taken with mine | new
    · exact ⟨sound.current worker eventId event mine, sound.apart worker eventId event mine⟩
    · exact new
  · rw [moves.self]
    exact recorded
  · rw [moves.committed]
    exact sound.within
  · rw [moves.deliveries]
    exact sound.once
  · intro eventId event present open_ delivered
    rw [moves.committed] at present
    rw [moves.deliveries] at delivered
    obtain ⟨other, pending⟩ := sound.unsent eventId event present open_ delivered
    have different : other ≠ worker := by
      rintro rfl
      exact undelivered eventId pending
    exact ⟨other, by rwa [moves.other different]⟩

omit [DecidableEq Worker] in
theorem World.Sound.notYet (sound : world.Sound) {eventId : Uuid} {event : NotificationEvent Uuid}
    (taken : (world.phase worker).taken = some (eventId, event))
    (undelivered : ¬(world.phase worker).Delivered eventId) : eventId ∉ world.deliveries := by
  intro delivered
  obtain ⟨present, open_⟩ := sound.current worker eventId event taken
  obtain ⟨other, pending⟩ := sound.unsent eventId event present open_ delivered
  have different : other ≠ worker := by
    rintro rfl
    exact undelivered pending
  have dispatching : ∃ event, (world.phase other).taken = some (eventId, event) := by
    unfold Phase.Delivered at pending
    split at pending
    · rename_i dispatched event _ _ phase
      subst pending
      exact ⟨event, by rw [phase]; rfl⟩
    · exact pending.elim
  obtain ⟨event, takenToo⟩ := dispatching
  exact sound.apart worker eventId _ taken other different event takenToo

/-! ### The statements -/

omit [DecidableEq Worker] [DecidableEq Uuid] in
theorem undelivered_of (at_ : world.phase worker = phase)
    (undelivered : ∀ eventId, ¬phase.Delivered eventId) (eventId : Uuid) :
    ¬(world.phase worker).Delivered eventId := by
  rw [at_]
  exact undelivered eventId

theorem World.Sound.leave (sound : world.Sound) (moves : world.Moves next worker phase)
    (undelivered : ∀ eventId, ¬(world.phase worker).Delivered eventId)
    (free : phase.taken = none) : next.Sound := by
  apply sound.moves moves undelivered
  · intro eventId event taken
    rw [free] at taken
    cases taken
  · cases phase with
    | committing => cases free
    | _ => trivial

private theorem World.Sound.dispatchPending (sound : world.Sound) {answer : Option Answer}
    (at_ : world.phase worker = .idle answer) (workspaceId : Option Uuid) (batchSize : Nat)
    (arrangement : Arrangement Uuid) :
    (world.dispatchPending worker workspaceId batchSize arrangement).Sound := by
  exact sound.leave (Moves.loads ..) (undelivered_of at_ fun _ => id) rfl

private theorem World.Sound.dispatchEvent (sound : world.Sound) {eventId : Uuid}
    (alone : ∀ event, world.found worker eventId = some event → event.isOpen = true →
      world.committed.lookup eventId = some event ∧ world.Unclaimed worker eventId)
    (undelivered : ∀ eventId, ¬(world.phase worker).Delivered eventId)
    (batch : Option (Batch Uuid)) : (world.dispatchEvent worker eventId batch).Sound := by
  unfold World.dispatchEvent
  split
  · cases batch with
    | none => exact sound.leave (Moves.goto ..) undelivered rfl
    | some batch => exact sound.leave (Moves.goto ..) undelivered rfl
  · rename_i event found
    split_ifs with open_
    · obtain ⟨present, unclaimed⟩ := alone event found open_
      apply sound.moves (Moves.load ..) undelivered
      · intro taken loaded same
        cases same
        exact .inr ⟨⟨present, open_⟩, unclaimed⟩
      · trivial
    · cases batch with
      | none => exact sound.leave (Moves.load ..) undelivered rfl
      | some batch => exact sound.leave (Moves.load ..) undelivered rfl

theorem World.Sound.proceed (sound : world.Sound) (moves : world.Moves next worker phase)
    (undelivered : ∀ eventId, ¬(world.phase worker).Delivered eventId)
    (same : phase.taken = (world.phase worker).taken) (recorded : phase.Recorded) :
    next.Sound := by
  apply sound.moves moves undelivered
  · intro eventId event taken
    exact .inl (same ▸ taken)
  · exact recorded

variable {eventId : Uuid} {event : NotificationEvent Uuid} {batch : Option (Batch Uuid)}

private theorem World.Sound.findChannel (sound : world.Sound)
    (at_ : world.phase worker = .checked eventId event batch) (channel : Option AlertChannel) :
    (world.findChannel worker eventId event batch channel).Sound := by
  have undelivered := undelivered_of at_ fun _ => id
  cases channel with
  | none =>
      apply sound.proceed (Moves.goto ..) undelivered
      · rw [at_]
        rfl
      · exact .failed _
  | some channel =>
      dsimp only [World.findChannel]
      split_ifs
      · apply sound.proceed (Moves.goto ..) undelivered
        · rw [at_]
          rfl
        · trivial
      · apply sound.proceed (Moves.goto ..) undelivered
        · rw [at_]
          rfl
        · exact .failed _

private theorem World.Sound.deliver (sound : world.Sound) {channel : AlertChannel}
    (at_ : world.phase worker = .delivering eventId event channel batch)
    {outcome : Except String Unit}
    (limited : (channel.deliver outcome).isOk = false → 0 < event.maxRetries)
    (sentAt deliveredAt : Int) :
    (world.deliver worker eventId event channel batch outcome sentAt deliveredAt).Sound := by
  have taken : (world.phase worker).taken = some (eventId, event) := by
    rw [at_]
    rfl
  have undelivered := undelivered_of at_ fun _ => id
  unfold World.deliver
  split
  · have first := List.count_eq_zero_of_not_mem (sound.notYet taken (undelivered eventId))
    apply sound.advance fun other (different : other ≠ worker) =>
      Function.update_of_ne different ..
    · exact fun _ _ => rfl
    · intro claimed loaded same
      dsimp only [World.goto] at same
      rw [Function.update_self] at same
      cases same
      exact ⟨sound.current worker _ _ taken, sound.apart worker _ _ taken⟩
    · dsimp only [World.goto]
      rw [Function.update_self]
      exact .sent sentAt deliveredAt
    · exact sound.within
    · intro delivered
      by_cases same : delivered = eventId
      · subst same
        rw [List.count_cons_self, first]
      · rw [List.count_cons_of_ne (Ne.symm same)]
        exact sound.once delivered
    · intro delivered row present open_ listed
      rcases List.mem_cons.mp listed with same | earlier
      · refine ⟨worker, ?_⟩
        dsimp only [World.goto]
        rw [Function.update_self]
        exact same.symm
      · obtain ⟨other, pending⟩ := sound.unsent delivered row present open_ earlier
        have different : other ≠ worker := by
          rintro rfl
          exact undelivered delivered pending
        refine ⟨other, ?_⟩
        dsimp only [World.goto]
        rwa [Function.update_of_ne different]
  · rename_i message raised
    apply sound.proceed (Moves.goto ..) undelivered
    · rw [taken]
      rfl
    · exact .retry message (limited (by rw [raised]; rfl))

omit [DecidableEq Uuid] in
private theorem afterCommit_taken (delivered : Bool) :
    (World.afterCommit eventId delivered batch).taken = none := by
  unfold World.afterCommit
  split
  · rfl
  · split_ifs <;> rfl

theorem lookup_store {committed : EventRows Uuid} {changed : NotificationEvent Uuid}
    {delivered : Bool} (present : committed.lookup eventId = some event)
    (dispatched : event.Dispatched changed delivered) (other : Uuid) :
    (World.store eventId event changed committed).lookup other =
      if other = eventId then some changed else committed.lookup other := by
  unfold World.store
  rw [present]
  dsimp only
  rw [dispatched.flush]
  split_ifs with same
  · rw [same, AList.lookup_insert]
  · rw [AList.lookup_insert_ne same]

private theorem World.Sound.commit (sound : world.Sound) {changed : NotificationEvent Uuid}
    {delivered : Bool} (at_ : world.phase worker = .committing eventId event changed delivered batch) :
    (world.commit worker eventId event changed delivered batch).Sound := by
  have taken : (world.phase worker).taken = some (eventId, event) := by
    rw [at_]
    rfl
  have dispatched : event.Dispatched changed delivered := by
    have recorded := sound.recorded worker
    rwa [at_] at recorded
  obtain ⟨present, open_⟩ := sound.current worker eventId event taken
  have stored := lookup_store present dispatched
  have phase : ((world.commit worker eventId event changed delivered batch).phase worker).taken =
      none := by
    dsimp only [World.commit, World.goto]
    rw [Function.update_self, afterCommit_taken]
  apply sound.advance fun other (different : other ≠ worker) =>
    Function.update_of_ne different ..
  · intro other free
    refine (stored other).trans (if_neg ?_)
    rintro rfl
    exact free event taken
  · intro claimed loaded same
    rw [phase] at same
    cases same
  · generalize (world.commit worker eventId event changed delivered batch).phase worker = after
      at phase ⊢
    cases after with
    | committing => cases phase
    | _ => trivial
  · intro other row found
    rw [World.commit, World.goto, stored other] at found
    split_ifs at found
    · cases found
      exact dispatched.within open_ (sound.within eventId event present)
    · exact sound.within other row found
  · exact sound.once
  · intro other row found stillOpen listed
    rw [World.commit, World.goto, stored other] at found
    split_ifs at found with same
    · subst same
      cases found
      cases delivered with
      | true =>
          rw [dispatched.closed] at stillOpen
          cases stillOpen
      | false =>
          refine absurd listed (sound.notYet taken ?_)
          rw [at_]
          exact id
    · obtain ⟨sender, pending⟩ := sound.unsent other row found stillOpen listed
      have different : sender ≠ worker := by
        rintro rfl
        rw [at_] at pending
        cases delivered with
        | true => exact same pending.symm
        | false => exact pending
      refine ⟨sender, ?_⟩
      dsimp only [World.commit, World.goto]
      rwa [Function.update_of_ne different]

private theorem World.Sound.count (sound : world.Sound) {batch : Batch Uuid}
    (at_ : world.phase worker = .counting eventId batch) :
    (world.count worker eventId batch).Sound := by
  have undelivered := undelivered_of at_ fun _ => id
  unfold World.count
  split
  · exact sound.leave (Moves.goto ..) undelivered rfl
  · exact sound.leave (Moves.load ..) undelivered rfl

private theorem World.Sound.step (sound : world.Sound) {action : Worker × Action Uuid}
    (careful : world.Careful action) (stepped : world.step action = some next) : next.Sound := by
  obtain ⟨worker, action⟩ := action
  obtain ⟨alone, limited⟩ := careful
  dsimp only [World.step] at stepped
  split at stepped
  case h_1 answer at_ =>
    cases stepped
    have stays : world.Moves (world.expire worker) worker (.idle answer) :=
      ⟨rfl, rfl, by rw [← at_, Function.update_eq_self]; rfl⟩
    exact sound.leave stays (undelivered_of at_ fun _ => id) rfl
  case h_2 at_ =>
    cases stepped
    exact sound.dispatchPending at_ ..
  case h_3 eventId _ at_ =>
    cases stepped
    refine sound.dispatchEvent (fun event => alone eventId event ?_)
      (undelivered_of at_ fun _ => id) none
    rw [at_]
    rfl
  case h_4 at_ =>
    cases stepped
    exact sound.leave (Moves.goto ..) (undelivered_of at_ fun _ => id) rfl
  case h_5 eventId _ _ at_ =>
    cases stepped
    refine sound.dispatchEvent (fun event => alone eventId event ?_)
      (undelivered_of at_ fun _ => id) _
    rw [at_]
    rfl
  case h_6 channel _ _ _ at_ =>
    cases stepped
    exact sound.findChannel at_ channel
  case h_7 sentAt deliveredAt _ event _ _ at_ =>
    cases stepped
    refine sound.deliver at_ (fun raised => limited event ?_) sentAt deliveredAt
    rw [at_]
    exact if_neg (by rw [raised]; nofun)
  case h_8 at_ =>
    cases stepped
    exact sound.commit at_
  case h_9 at_ =>
    cases stepped
    exact sound.count at_
  case h_10 => cases stepped

/-! ### Settled events -/

/-- What a statement can do to the rows and to the deliveries. -/
inductive World.Effect (world next : World Worker Uuid) : Prop where
  | none (committed : next.committed = world.committed)
      (deliveries : next.deliveries = world.deliveries)
  | delivery {worker : Worker} {eventId : Uuid} {event : NotificationEvent Uuid}
      (taken : (world.phase worker).taken = some (eventId, event))
      (committed : next.committed = world.committed)
      (deliveries : next.deliveries = eventId :: world.deliveries)
  | commit {worker : Worker} {eventId : Uuid} {event changed : NotificationEvent Uuid}
      {delivered : Bool} {batch : Option (Batch Uuid)}
      (at_ : world.phase worker = .committing eventId event changed delivered batch)
      (committed : next.committed = World.store eventId event changed world.committed)
      (deliveries : next.deliveries = world.deliveries)

private theorem World.Moves.effect (moves : world.Moves next worker phase) : world.Effect next :=
  .none moves.committed moves.deliveries

private theorem effect_skip (eventId : Uuid) (batch : Option (Batch Uuid)) :
    world.Effect (world.skip worker eventId batch) := by
  cases batch with
  | none => exact .none rfl rfl
  | some batch => exact .none rfl rfl

private theorem effect_dispatchEvent (eventId : Uuid) (batch : Option (Batch Uuid)) :
    world.Effect (world.dispatchEvent worker eventId batch) := by
  unfold World.dispatchEvent
  split
  · exact effect_skip eventId batch
  · split_ifs
    · exact .none rfl rfl
    · cases batch with
      | none => exact .none rfl rfl
      | some batch => exact .none rfl rfl

theorem step_effect {action : Worker × Action Uuid} (stepped : world.step action = some next) :
    world.Effect next := by
  obtain ⟨worker, action⟩ := action
  dsimp only [World.step] at stepped
  split at stepped
  case h_1 =>
    cases stepped
    exact .none rfl rfl
  case h_2 =>
    cases stepped
    exact (World.Moves.loads ..).effect
  case h_3 =>
    cases stepped
    exact effect_dispatchEvent ..
  case h_4 =>
    cases stepped
    exact .none rfl rfl
  case h_5 =>
    cases stepped
    exact effect_dispatchEvent ..
  case h_6 channel _ _ _ _ =>
    cases stepped
    cases channel with
    | none => exact .none rfl rfl
    | some channel =>
        dsimp only [World.findChannel]
        split_ifs
        · exact .none rfl rfl
        · exact .none rfl rfl
  case h_7 at_ =>
    cases stepped
    unfold World.deliver
    split
    · exact .delivery (by rw [at_]; rfl) rfl rfl
    · exact .none rfl rfl
  case h_8 at_ =>
    cases stepped
    exact .commit at_ rfl rfl
  case h_9 =>
    cases stepped
    unfold World.count
    split
    · exact .none rfl rfl
    · exact .none rfl rfl
  case h_10 => cases stepped

/-- The events that one world has sent or given up are as they were in another, and have not been
delivered again. -/
def World.Keeps (reached world : World Worker Uuid) : Prop :=
  ∀ eventId event, reached.committed.lookup eventId = some event → event.isOpen = false →
    world.committed.lookup eventId = some event ∧
      world.deliveries.count eventId = reached.deliveries.count eventId

private theorem World.Sound.keeps (sound : world.Sound) {action : Worker × Action Uuid}
    (stepped : world.step action = some next) : world.Keeps next := by
  intro settled row present closed
  have notTaken : ∀ {worker eventId event},
      (world.phase worker).taken = some (eventId, event) → settled ≠ eventId := by
    rintro worker eventId event taken rfl
    obtain ⟨found, open_⟩ := sound.current worker settled event taken
    rw [present] at found
    cases found
    rw [closed] at open_
    cases open_
  cases step_effect stepped with
  | none committed deliveries => exact ⟨by rw [committed, present], by rw [deliveries]⟩
  | delivery taken committed deliveries =>
      refine ⟨by rw [committed, present], ?_⟩
      rw [deliveries, List.count_cons_of_ne (Ne.symm (notTaken taken))]
  | @commit worker eventId event changed delivered batch at_ committed deliveries =>
      have taken : (world.phase worker).taken = some (eventId, event) := by
        rw [at_]
        rfl
      have dispatched : event.Dispatched changed delivered := by
        have recorded := sound.recorded worker
        rwa [at_] at recorded
      obtain ⟨stored, _⟩ := sound.current worker eventId event taken
      refine ⟨?_, by rw [deliveries]⟩
      rw [committed, lookup_store stored dispatched, if_neg (notTaken taken), present]

/-! ### Runs -/

variable {start : EventRows Uuid} {before later : List (Worker × Action Uuid)}
  {reached final : World Worker Uuid}

/-- In a careful run every event is delivered at most once, an event that is sent or failed stays
as it is, and no event is retried more often than it may be. -/
theorem notification_sent_at_most_once
    (within : ∀ eventId event, start.lookup eventId = some event → event.WithinRetries)
    (careful : RunMeets World.step World.Careful (World.start start) (before ++ later))
    (ran : run World.step (World.start start) before = some reached)
    (continued : run World.step reached later = some final) :
    (∀ eventId, final.deliveries.count eventId ≤ 1) ∧ reached.Keeps final ∧
      ∀ eventId event, final.committed.lookup eventId = some event →
        event.retryCount ≤ event.maxRetries := by
  obtain ⟨carefulBefore, carefulLater⟩ := runMeets_append careful ran
  have soundReached : reached.Sound :=
    run_preserves (fun _ _ _ sound careful => sound.step careful) (World.sound_start within)
      carefulBefore ran
  have preserved : ∀ world action next, world.Sound ∧ reached.Keeps world →
      World.Careful world action → World.step world action = some next →
        next.Sound ∧ reached.Keeps next := by
    rintro world action next ⟨sound, keeps⟩ careful stepped
    refine ⟨sound.step careful stepped, fun eventId event present closed => ?_⟩
    obtain ⟨still, same⟩ := keeps eventId event present closed
    obtain ⟨now, again⟩ := sound.keeps stepped eventId event still closed
    exact ⟨now, again.trans same⟩
  have kept := run_preserves preserved ⟨soundReached, fun _ _ present _ => ⟨present, rfl⟩⟩
    carefulLater continued
  exact ⟨kept.1.once, kept.2, fun eventId event present =>
    (kept.1.within eventId event present).bounded⟩

end Workers

section Schedules

private def event (createdAt : Int) (maxRetries : Int) : NotificationEvent Nat where
  workspaceId := 1
  alertChannelId := 1
  status := .pending
  retryCount := 0
  maxRetries
  lastError := none
  sentAt := none
  deliveredAt := none
  createdAt := createdAt

private def twoEvents (maxRetries : Int) : EventRows Nat :=
  AList.insert 1 (event 0 maxRetries) (AList.insert 2 (event 1 maxRetries) ∅)

private def webhook : Option AlertChannel := some ⟨true, "webhook"⟩

private def refused : Except String Unit := .error "Webhook returned 500: "

private def selecting {Worker : Type} (worker : Worker) : List (Worker × Action Nat) :=
  [(worker, .dispatchPending none 50 (OrderBy.stable _))]

private def taking {Worker : Type} (worker : Worker) : List (Worker × Action Nat) :=
  [(worker, .nextEvent), (worker, .findChannel webhook)]

private def finishing {Worker : Type} (worker : Worker) (outcome : Except String Unit) :
    List (Worker × Action Nat) :=
  [(worker, .deliver outcome 7 7), (worker, .commit)]

/-- The first worker sends the first event. The second one takes the other event while the first is
still at its batch, and is refused. -/
private def sharedBatch : List (Bool × Action Nat) :=
  selecting false ++ taking false ++ finishing false (.ok ()) ++ selecting true ++ taking true ++
    finishing true refused

/-- The first worker goes on to the other event before the second one ends its batch. -/
private def retried : List (Bool × Action Nat) :=
  taking false ++ finishing false (.ok ()) ++ [(true, .count), (true, .nextEvent)]

private theorem twoEvents_fresh :
    ∀ eventId row, (twoEvents 3).lookup eventId = some row →
      row.retryCount = 0 ∧ row.maxRetries = 3 := by
  intro eventId row present
  have entries : ∀ entry ∈ (twoEvents 3).entries,
      entry.2.retryCount = 0 ∧ entry.2.maxRetries = 3 := by decide
  exact entries ⟨eventId, row⟩ (List.of_mem_dlookup present)

private theorem twoEvents_within (eventId : Nat) (row : NotificationEvent Nat)
    (present : (twoEvents 3).lookup eventId = some row) : row.WithinRetries := by
  obtain ⟨none_, limit⟩ := twoEvents_fresh eventId row present
  exact ⟨by omega, fun _ _ => by omega⟩

/-- Both events are sent once, the second by one worker after a retry by the other. -/
theorem two_events_sent_once :
    ∃ reached final : World Bool Nat,
      run World.step (World.start (twoEvents 3)) sharedBatch = some reached ∧
      run World.step reached retried = some final ∧
        (∀ eventId, final.deliveries.count eventId ≤ 1) ∧ reached.Keeps final ∧
          ∀ eventId event, final.committed.lookup eventId = some event →
            event.retryCount ≤ event.maxRetries := by
  have ran : ∃ reached final, run World.step (World.start (twoEvents 3)) sharedBatch =
      some reached ∧ run World.step reached retried = some final := ⟨_, _, rfl, rfl⟩
  obtain ⟨reached, final, ran, continued⟩ := ran
  exact ⟨reached, final, ran, continued, notification_sent_at_most_once twoEvents_within
    (by decide +kernel) ran continued⟩

/-- Two workers take the same pending event, and the first one sends it. -/
private def firstSends : List (Bool × Action Nat) :=
  selecting false ++ selecting true ++ taking false ++ taking true ++ finishing false (.ok ())

private def secondFails : List (Bool × Action Nat) :=
  finishing true refused

private def sentAgain : List (Bool × Action Nat) :=
  [(true, .count)] ++ taking true ++ finishing true (.ok ()) ++ [(true, .nextEvent)] ++
    selecting true ++ taking true ++ finishing true (.ok ())

/-- The delivery of one worker fails after the other one has sent the event: the sent event becomes
one to retry, and is sent again. An event without retries is tried again too. -/
theorem event_sent_twice :
    (∃ reached failed final : World Bool Nat,
      run World.step (World.start (twoEvents 3)) firstSends = some reached ∧
      run World.step reached secondFails = some failed ∧
      run World.step failed sentAgain = some final ∧
      (reached.committed.lookup 1).map (·.status) = some .sent ∧
      (failed.committed.lookup 1).map (·.status) = some .retrying ∧
      final.deliveries.count 1 = 2) ∧
    ∃ final : World Bool Nat,
      run World.step (World.start (twoEvents 0)) (selecting false ++ taking false ++
        finishing false refused) = some final ∧
      (final.committed.lookup 1).map (fun event => (event.retryCount, event.maxRetries)) =
        some (1, 0) := by
  refine ⟨⟨_, _, _, rfl, rfl, rfl, rfl, rfl, ?_⟩, _, rfl, rfl⟩
  decide

end Schedules

end CogniDQ.Alerts
