import CogniDQ.Webhooks.WebhookService

/-!
# The lifecycle of a delivery

Both functions count their posts and stop at the last allowed one, but `retry_pending` reads the
backoff table one place further than `dispatch_event`, which shows after the second failure.
-/

set_option autoImplicit false

namespace CogniDQ.Webhooks

open CogniDQ.Database CogniDQ.Protocol CogniDQ.Python

/-! ### One delivery -/

section Deliveries

variable {Uuid : Type}

def Delivery.failedAt (delivery : Delivery Uuid) : Option Int :=
  match delivery.posts with
  | [] => none
  | last :: _ => if last.succeeded then none else some last.time

def backoff (failures : Nat) : Int := seconds (retryBackoffSeconds.getD (min failures 3 - 1) 0)

structure Delivery.FollowsLifecycle (delivery : Delivery Uuid) : Prop where
  counted : delivery.log.attemptCount = delivery.posts.length
  bounded : delivery.log.attemptCount ≤ delivery.log.maxAttempts
  abandoned : delivery.interrupted = false →
    (delivery.log.status = .abandoned ↔
      delivery.posts.length = delivery.log.maxAttempts ∧ delivery.failedAt ≠ none)
  scheduled : ∀ time, delivery.failedAt = some time →
    delivery.posts.length < delivery.log.maxAttempts →
    delivery.log.nextAttemptAt = some (time + backoff delivery.posts.length)

/-- What every call keeps of a delivery, with the status that tells how its last post ended. -/
structure Delivery.Sound (delivery : Delivery Uuid) : Prop where
  begun : 0 < delivery.posts.length
  counted : delivery.log.attemptCount = delivery.posts.length
  bounded : delivery.log.attemptCount ≤ delivery.log.maxAttempts
  delivered : delivery.log.status = .delivered ↔ delivery.failedAt = none
  exhausted : delivery.failedAt ≠ none →
    delivery.log.attemptCount = delivery.log.maxAttempts → delivery.log.status = .abandoned
  abandoned : delivery.log.status = .abandoned →
    delivery.interrupted = true ∨ delivery.log.attemptCount = delivery.log.maxAttempts
  scheduled : ∀ time, delivery.failedAt = some time →
    delivery.log.attemptCount < delivery.log.maxAttempts →
    delivery.log.nextAttemptAt = some (time + backoff delivery.log.attemptCount)

theorem Delivery.Sound.followsLifecycle {delivery : Delivery Uuid} (sound : delivery.Sound) :
    delivery.FollowsLifecycle := by
  refine ⟨sound.counted, sound.bounded, fun uninterrupted => ?_, ?_⟩
  · constructor
    · intro abandoned
      constructor
      · rcases sound.abandoned abandoned with interrupted | exhausted
        · cases uninterrupted.symm.trans interrupted
        · exact sound.counted.symm.trans exhausted
      · intro succeeded
        cases abandoned.symm.trans (sound.delivered.mpr succeeded)
    · intro last
      exact sound.exhausted last.2 (sound.counted.trans last.1)
  · rw [← sound.counted]
    exact sound.scheduled

/-- How a post ends that is followed by a wait if it failed and another one is allowed. -/
inductive WebhookDeliveryLog.Settled (log : WebhookDeliveryLog Uuid) (post : Post) (wait : Int) :
    Prop where
  | delivered : post.succeeded = true → log.status = .delivered → Settled log post wait
  | rescheduled : post.succeeded = false → log.attemptCount < log.maxAttempts →
      log.status = .retrying → log.nextAttemptAt = some (post.time + wait) → Settled log post wait
  | exhausted : post.succeeded = false → log.maxAttempts ≤ log.attemptCount →
      log.status = .abandoned → Settled log post wait

private theorem attemptInline_settled (log : WebhookDeliveryLog Uuid) (answer : Answer) :
    (log.attemptInline answer).Settled ⟨(send answer.response).1, answer.settledAt⟩
      (retryDelay (cappedIndex 0)) := by
  unfold WebhookDeliveryLog.attemptInline
  generalize send answer.response = sent
  obtain ⟨success, httpCode, error⟩ := sent
  cases success with
  | true => exact .delivered rfl rfl
  | false =>
    dsimp only
    rw [if_neg Bool.false_ne_true]
    split_ifs with further
    · exact .rescheduled rfl further rfl rfl
    · exact .exhausted rfl (Nat.le_of_not_lt further) rfl

theorem reattempt_settled (log : WebhookDeliveryLog Uuid) (retrying : log.status = .retrying)
    (now : Int) (response : Except String Int) :
    (log.reattempt now response).Settled ⟨(send response).1, now⟩
      (retryDelay (cappedIndex (log.attemptCount + 1))) := by
  unfold WebhookDeliveryLog.reattempt
  generalize send response = sent
  obtain ⟨success, httpCode, error⟩ := sent
  cases success with
  | true => exact .delivered rfl rfl
  | false =>
    dsimp only
    rw [if_neg Bool.false_ne_true]
    split_ifs with last
    · exact .exhausted rfl last rfl
    · exact .rescheduled rfl (Nat.lt_of_not_ge last) retrying rfl

theorem attemptInline_counts (log : WebhookDeliveryLog Uuid) (answer : Answer) :
    (log.attemptInline answer).attemptCount = 1 ∧
      (log.attemptInline answer).maxAttempts = log.maxAttempts ∧
      (log.attemptInline answer).subscriptionId = log.subscriptionId := by
  unfold WebhookDeliveryLog.attemptInline
  split
  dsimp only
  split_ifs
  all_goals exact ⟨rfl, rfl, rfl⟩

theorem reattempt_counts (log : WebhookDeliveryLog Uuid) (now : Int)
    (response : Except String Int) :
    (log.reattempt now response).attemptCount = log.attemptCount + 1 ∧
      (log.reattempt now response).maxAttempts = log.maxAttempts ∧
      (log.reattempt now response).subscriptionId = log.subscriptionId := by
  unfold WebhookDeliveryLog.reattempt
  split
  dsimp only
  split_ifs
  all_goals exact ⟨rfl, rfl, rfl⟩

private theorem failedAt_cons {delivery : Delivery Uuid} {post : Post} {earlier : List Post}
    (posts : delivery.posts = post :: earlier) :
    delivery.failedAt = if post.succeeded then none else some post.time := by
  unfold Delivery.failedAt
  rw [posts]

theorem Delivery.sound_of_settled {delivery : Delivery Uuid} {post : Post} {earlier : List Post}
    {wait : Int} (posts : delivery.posts = post :: earlier)
    (counted : delivery.log.attemptCount = earlier.length + 1)
    (bounded : delivery.log.attemptCount ≤ delivery.log.maxAttempts)
    (settled : delivery.log.Settled post wait)
    (right : post.succeeded = false → delivery.log.attemptCount < delivery.log.maxAttempts →
      wait = backoff delivery.log.attemptCount) : delivery.Sound := by
  have length : delivery.posts.length = earlier.length + 1 := by rw [posts, List.length_cons]
  have begun : 0 < delivery.posts.length := length ▸ Nat.succ_pos _
  have ended := failedAt_cons posts
  cases settled with
  | delivered succeeded status =>
    rw [if_pos succeeded] at ended
    exact
      { begun
        counted := counted.trans length.symm
        bounded
        delivered := iff_of_true status ended
        exhausted := fun failed => absurd ended failed
        abandoned := fun abandoned => nomatch status.symm.trans abandoned
        scheduled := fun _ failed => nomatch ended.symm.trans failed }
  | rescheduled failed further status scheduled =>
    rw [if_neg (ne_true_of_eq_false failed)] at ended
    exact
      { begun
        counted := counted.trans length.symm
        bounded
        delivered := iff_of_false (fun delivered => nomatch status.symm.trans delivered)
          (fun success => nomatch ended.symm.trans success)
        exhausted := fun _ last => absurd last (Nat.ne_of_lt further)
        abandoned := fun abandoned => nomatch status.symm.trans abandoned
        scheduled := fun time failedAt _ => by
          obtain rfl := Option.some.inj (ended.symm.trans failedAt)
          rw [scheduled, right failed further] }
  | exhausted failed reached status =>
    have last := Nat.le_antisymm bounded reached
    rw [if_neg (ne_true_of_eq_false failed)] at ended
    exact
      { begun
        counted := counted.trans length.symm
        bounded
        delivered := iff_of_false (fun delivered => nomatch status.symm.trans delivered)
          (fun success => nomatch ended.symm.trans success)
        exhausted := fun _ _ => status
        abandoned := fun _ => .inr last
        scheduled := fun _ _ further => absurd last (Nat.ne_of_lt further) }

private theorem Delivery.Sound.interrupt {delivery : Delivery Uuid} (sound : delivery.Sound) :
    Delivery.Sound { delivery with interrupted := true } :=
  { begun := sound.begun
    counted := sound.counted
    bounded := sound.bounded
    delivered := sound.delivered
    exhausted := sound.exhausted
    abandoned := fun _ => .inl rfl
    scheduled := sound.scheduled }

theorem dispatch_sound {maxAttempts : Nat} (positive : 1 ≤ maxAttempts) (subscriptionId : Uuid)
    (payload : PayloadBody Uuid) (answer : Answer) :
    (Delivery.dispatch maxAttempts subscriptionId payload answer).Sound := by
  obtain ⟨counts, allowed, -⟩ :=
    attemptInline_counts (.new maxAttempts subscriptionId payload) answer
  refine Delivery.sound_of_settled rfl counts ?_ (attemptInline_settled _ answer) ?_
  · exact (counts.trans_le positive).trans_eq allowed.symm
  · intro _ _
    unfold Delivery.dispatch
    rw [counts]
    rfl

variable {tables : WebhookTables Uuid} {now : Int} {response : Except String Int}
  {delivery : Delivery Uuid}

theorem due_retrying (due : delivery.log.due now = true) : delivery.log.status = .retrying :=
  of_decide_eq_true ((Bool.and_eq_true _ _).mp due).1

variable [DecidableEq Uuid]

/-- The second post of a delivery that may be tried again is not due, or succeeds. -/
def Delivery.secondPostSucceeds (tables : WebhookTables Uuid) (now : Int)
    (response : Except String Int) (delivery : Delivery Uuid) : Bool :=
  !(delivery.log.due now && tables.isEnabled delivery.log.subscriptionId &&
    decide (delivery.log.attemptCount = 1) && decide (2 < delivery.log.maxAttempts)) ||
  (send response).1

private theorem retryDelay_of_later {failures : Nat} (later : 2 ≤ failures) :
    retryDelay (cappedIndex (failures + 1)) = backoff (failures + 1) := by
  have capped : cappedIndex (failures + 1) = 2 := Nat.min_eq_right (Nat.le_succ_of_le later)
  have spared : min (failures + 1) 3 = 3 := Nat.min_eq_right (Nat.succ_le_succ later)
  unfold backoff
  rw [capped, spared]
  rfl

private theorem retry_frame (tables : WebhookTables Uuid) (now : Int) (response : Except String Int)
    (delivery : Delivery Uuid) :
    (delivery.retry tables now response).interrupted = delivery.interrupted ∧
      (delivery.retry tables now response).log.subscriptionId = delivery.log.subscriptionId := by
  unfold Delivery.retry
  split_ifs
  · exact ⟨rfl, (reattempt_counts delivery.log now response).2.2⟩
  · exact ⟨rfl, rfl⟩

private theorem retry_sound (sound : delivery.Sound) (due : delivery.log.due now = true)
    (second : delivery.secondPostSucceeds tables now response = true)
    (uninterrupted : delivery.interrupted = false →
      tables.isEnabled delivery.log.subscriptionId = true) :
    (delivery.retry tables now response).Sound := by
  have retrying := due_retrying due
  have failed : delivery.failedAt ≠ none := fun success =>
    nomatch retrying.symm.trans (sound.delivered.mpr success)
  have further : delivery.log.attemptCount < delivery.log.maxAttempts :=
    Nat.lt_of_le_of_ne sound.bounded fun last =>
      nomatch retrying.symm.trans (sound.exhausted failed last)
  unfold Delivery.retry
  cases enabled : tables.isEnabled delivery.log.subscriptionId with
  | true =>
    rw [if_pos rfl]
    obtain ⟨counts, allowed, -⟩ := reattempt_counts delivery.log now response
    refine Delivery.sound_of_settled rfl (counts.trans (congrArg (· + 1) sound.counted)) ?_
      (reattempt_settled _ retrying now response) ?_
    · exact (counts.trans_le further).trans_eq allowed.symm
    · intro failure again
      dsimp only at failure again ⊢
      rw [counts, allowed] at again
      rw [counts]
      refine retryDelay_of_later ?_
      have begun : 1 ≤ delivery.log.attemptCount := sound.counted ▸ sound.begun
      refine Nat.lt_of_le_of_ne begun fun first => ?_
      rw [← first] at again
      unfold Delivery.secondPostSucceeds at second
      rw [due, enabled, ← first, failure, decide_eq_true again] at second
      cases second
  | false =>
    rw [if_neg Bool.false_ne_true]
    have interrupted : delivery.interrupted = true :=
      eq_true_of_ne_false fun uninterruptedYet =>
        nomatch enabled.symm.trans (uninterrupted uninterruptedYet)
    exact
      { begun := sound.begun
        counted := sound.counted
        bounded := sound.bounded
        delivered := iff_of_false (fun delivered => nomatch delivered) failed
        exhausted := fun _ _ => rfl
        abandoned := fun _ => .inl interrupted
        scheduled := sound.scheduled }

end Deliveries

/-! ### Calls -/

section Calls

variable {Uuid : Type} [DecidableEq Uuid] {maxAttempts : Nat} {tables next : WebhookTables Uuid}
  {call : Call Uuid}

structure WebhookTables.Sound (tables : WebhookTables Uuid) : Prop where
  deliveries : ∀ id delivery, tables.deliveries.lookup id = some delivery → delivery.Sound
  uninterrupted : ∀ id delivery, tables.deliveries.lookup id = some delivery →
    delivery.interrupted = false → tables.isEnabled delivery.log.subscriptionId = true
  issued : ∀ id delivery, tables.deliveries.lookup id = some delivery → id ∈ tables.issued

def secondPostsSucceed (tables : WebhookTables Uuid) : Call Uuid → Bool
  | .retryPending now response => tables.deliveries.entries.all fun entry =>
      entry.2.secondPostSucceeds tables now (response entry.1)
  | _ => true

theorem dispatchEvent_cases {dispatched : DispatchCall Uuid}
    (possible : dispatchEvent maxAttempts tables dispatched = some next) :
    next = tables ∨
    ((dispatched.subscriptions tables).map dispatched.deliveryId).Nodup ∧
    (∀ id ∈ (dispatched.subscriptions tables).map dispatched.deliveryId, id ∉ tables.issued) ∧
    next = { tables with
      deliveries := (dispatched.subscriptions tables).foldl
        (fun deliveries subscriptionId => deliveries.insert (dispatched.deliveryId subscriptionId)
          (.dispatch maxAttempts subscriptionId dispatched.payloadBody
            (dispatched.answer subscriptionId)))
        tables.deliveries
      issued := (dispatched.subscriptions tables).map dispatched.deliveryId ++ tables.issued } := by
  unfold dispatchEvent at possible
  split_ifs at possible with valid
  · dsimp only at possible
    split_ifs at possible with fresh
    exact .inr ⟨fresh.1, fresh.2, (Option.some.inj possible).symm⟩
  · exact .inl (Option.some.inj possible).symm

private theorem isEnabled_of_selected {dispatched : DispatchCall Uuid} {subscriptionId : Uuid}
    (selected : subscriptionId ∈ dispatched.subscriptions tables) :
    tables.isEnabled subscriptionId = true := by
  obtain ⟨subscription, found⟩ := Option.isSome_iff_exists.mp (AList.lookup_isSome.mpr selected)
  obtain ⟨present, listens⟩ := Rows.lookup_keep_eq_some found
  unfold WebhookTables.isEnabled
  rw [present]
  exact ((Bool.and_eq_true _ _).mp ((Bool.and_eq_true _ _).mp listens).1).2

theorem WebhookTables.Sound.dispatchEvent (sound : tables.Sound) (positive : 1 ≤ maxAttempts)
    {dispatched : DispatchCall Uuid}
    (possible : dispatchEvent maxAttempts tables dispatched = some next) : next.Sound := by
  rcases dispatchEvent_cases possible with rfl | ⟨-, -, rfl⟩
  · exact sound
  constructor
  · intro id delivery found
    rcases Rows.lookup_foldl_insert_cases found with ⟨subscriptionId, -, -, rfl⟩ | before
    · exact dispatch_sound positive _ _ _
    · exact sound.deliveries id delivery before
  · intro id delivery found
    rcases Rows.lookup_foldl_insert_cases found with ⟨subscriptionId, selected, -, rfl⟩ | before
    · intro _
      have same := (attemptInline_counts (.new maxAttempts subscriptionId dispatched.payloadBody)
        (dispatched.answer subscriptionId)).2.2
      unfold Delivery.dispatch
      rw [same]
      exact isEnabled_of_selected selected
    · exact sound.uninterrupted id delivery before
  · intro id delivery found
    rcases Rows.lookup_foldl_insert_cases found with ⟨subscriptionId, selected, rfl, -⟩ | before
    · exact List.mem_append_left _ (List.mem_map_of_mem selected)
    · exact List.mem_append_right _ (sound.issued id delivery before)

theorem retryPending_cases {now : Int} {response : Uuid → Except String Int} {id : Uuid}
    {delivery : Delivery Uuid}
    (found : (retryPending tables now response).deliveries.lookup id = some delivery) :
    tables.deliveries.lookup id = some delivery ∨
    ∃ before, tables.deliveries.lookup id = some before ∧ before.log.due now = true ∧
      delivery = before.retry tables now (response id) := by
  rw [retryPending, Rows.lookup_updateWhere] at found
  obtain ⟨before, present, rfl⟩ := Option.map_eq_some_iff.mp found
  cases due : before.log.due now with
  | true => exact .inr ⟨before, present, due, if_pos rfl⟩
  | false => exact .inl present

theorem saveSubscription_cases {subscriptionId id : Uuid} {subscription : WebhookSubscription Uuid}
    {delivery : Delivery Uuid}
    (found : (saveSubscription tables subscriptionId subscription).deliveries.lookup id =
      some delivery) :
    ∃ before, tables.deliveries.lookup id = some before ∧
      (delivery = { before with interrupted := true } ∨
        delivery = before ∧
          (before.log.subscriptionId = subscriptionId → subscription.enabled = true)) := by
  rw [saveSubscription, Rows.lookup_updateWhere] at found
  obtain ⟨before, present, rfl⟩ := Option.map_eq_some_iff.mp found
  refine ⟨before, present, ?_⟩
  split_ifs with disabled
  · exact .inl rfl
  · refine .inr ⟨rfl, fun own => ?_⟩
    rw [decide_eq_true own, Bool.true_and, Bool.not_eq_true'] at disabled
    exact eq_true_of_ne_false disabled

private theorem WebhookTables.Sound.retryPending (sound : tables.Sound) {now : Int}
    {response : Uuid → Except String Int}
    (careful : secondPostsSucceed tables (.retryPending now response) = true) :
    (retryPending tables now response).Sound := by
  constructor
  · intro id delivery found
    rcases retryPending_cases found with same | ⟨before, present, due, rfl⟩
    · exact sound.deliveries id delivery same
    · have second := List.all_eq_true.mp careful ⟨id, before⟩ (AList.mem_lookup_iff.mp present)
      exact retry_sound (sound.deliveries id before present) due second
        (sound.uninterrupted id before present)
  · intro id delivery found uninterrupted
    rcases retryPending_cases found with same | ⟨before, present, -, rfl⟩
    · exact sound.uninterrupted id delivery same uninterrupted
    · obtain ⟨interrupted, subscription⟩ := retry_frame tables now (response id) before
      rw [subscription]
      exact sound.uninterrupted id before present (interrupted.symm.trans uninterrupted)
  · intro id delivery found
    rcases retryPending_cases found with same | ⟨before, present, -, -⟩
    · exact sound.issued id delivery same
    · exact sound.issued id before present

private theorem WebhookTables.Sound.saveSubscription (sound : tables.Sound) (subscriptionId : Uuid)
    (subscription : WebhookSubscription Uuid) :
    (saveSubscription tables subscriptionId subscription).Sound := by
  constructor
  · intro id delivery found
    obtain ⟨before, present, rfl | ⟨rfl, -⟩⟩ := saveSubscription_cases found
    · exact (sound.deliveries id before present).interrupt
    · exact sound.deliveries id delivery present
  · intro id delivery found uninterrupted
    obtain ⟨before, present, rfl | ⟨rfl, enabled⟩⟩ := saveSubscription_cases found
    · cases uninterrupted
    · have earlier := sound.uninterrupted id delivery present uninterrupted
      unfold WebhookTables.isEnabled Webhooks.saveSubscription at *
      by_cases own : delivery.log.subscriptionId = subscriptionId
      · rw [own, AList.lookup_insert]
        exact enabled own
      · rw [AList.lookup_insert_ne own]
        exact earlier
  · intro id delivery found
    obtain ⟨before, present, -⟩ := saveSubscription_cases found
    exact sound.issued id before present

theorem WebhookTables.Sound.deleteSubscription (sound : tables.Sound) (subscriptionId : Uuid) :
    (deleteSubscription tables subscriptionId).Sound := by
  constructor
  · intro id delivery found
    exact sound.deliveries id delivery (Rows.lookup_keep_eq_some found).1
  · intro id delivery found uninterrupted
    obtain ⟨present, other⟩ := Rows.lookup_keep_eq_some found
    have earlier := sound.uninterrupted id delivery present uninterrupted
    unfold WebhookTables.isEnabled Webhooks.deleteSubscription at *
    rw [AList.lookup_erase_ne (of_decide_eq_true other)]
    exact earlier
  · intro id delivery found
    exact sound.issued id delivery (Rows.lookup_keep_eq_some found).1

private theorem step_sound (positive : 1 ≤ maxAttempts) (sound : tables.Sound)
    (careful : secondPostsSucceed tables call = true)
    (stepped : step maxAttempts tables call = some next) : next.Sound := by
  cases call with
  | dispatchEvent => exact sound.dispatchEvent positive stepped
  | retryPending =>
    cases stepped
    exact sound.retryPending careful
  | saveSubscription subscriptionId subscription =>
    cases stepped
    exact sound.saveSubscription subscriptionId subscription
  | deleteSubscription subscriptionId =>
    cases stepped
    exact sound.deleteSubscription subscriptionId

/-! ### Ended deliveries -/

/-- A delivery is gone or has been left alone, and its identity is not given again. -/
structure WebhookTables.Leaves (id : Uuid) (delivery : Delivery Uuid)
    (tables : WebhookTables Uuid) : Prop where
  issued : id ∈ tables.issued
  same : ∀ later, tables.deliveries.lookup id = some later →
    later.log = delivery.log ∧ later.posts = delivery.posts

private theorem step_leaves {id : Uuid} {delivery : Delivery Uuid}
    (ended : delivery.log.status = .delivered ∨ delivery.log.status = .abandoned)
    (leaves : tables.Leaves id delivery)
    (stepped : step maxAttempts tables call = some next) : next.Leaves id delivery := by
  cases call with
  | dispatchEvent dispatched =>
    rcases dispatchEvent_cases stepped with rfl | ⟨-, fresh, rfl⟩
    · exact leaves
    · refine ⟨List.mem_append_right _ leaves.issued, fun later found => ?_⟩
      have other := mt (fresh id) (not_not_intro leaves.issued)
      rw [Rows.lookup_foldl_insert_of_fresh other] at found
      exact leaves.same later found
  | retryPending =>
    cases stepped
    refine ⟨leaves.issued, fun later found => ?_⟩
    rcases retryPending_cases found with same | ⟨before, present, due, -⟩
    · exact leaves.same later same
    · have retrying := due_retrying due
      rw [(leaves.same before present).1] at retrying
      rcases ended with delivered | abandoned
      · cases retrying.symm.trans delivered
      · cases retrying.symm.trans abandoned
  | saveSubscription subscriptionId subscription =>
    cases stepped
    refine ⟨leaves.issued, fun later found => ?_⟩
    obtain ⟨before, present, rfl | ⟨rfl, -⟩⟩ := saveSubscription_cases found
    · exact leaves.same before present
    · exact leaves.same later present
  | deleteSubscription subscriptionId =>
    cases stepped
    exact ⟨leaves.issued, fun later found =>
      leaves.same later (Rows.lookup_keep_eq_some found).1⟩

/-! ### Runs -/

/-- Every delivery follows its lifecycle, and one that was delivered or abandoned stays as it is. -/
structure WebhookTables.FollowLifecycle (maxAttempts : Nat) (tables : WebhookTables Uuid) :
    Prop where
  deliveries : ∀ id delivery, tables.deliveries.lookup id = some delivery →
    delivery.FollowsLifecycle
  terminal : ∀ id delivery, tables.deliveries.lookup id = some delivery →
    delivery.log.status = .delivered ∨ delivery.log.status = .abandoned →
    ∀ calls later, run (step maxAttempts) tables calls = some later →
    ∀ after, later.deliveries.lookup id = some after →
      after.log = delivery.log ∧ after.posts = delivery.posts

theorem WebhookTables.Sound.terminal (sound : tables.Sound) {id : Uuid} {delivery : Delivery Uuid}
    (found : tables.deliveries.lookup id = some delivery)
    (ended : delivery.log.status = .delivered ∨ delivery.log.status = .abandoned)
    {calls : List (Call Uuid)} {later : WebhookTables Uuid}
    (ran : run (step maxAttempts) tables calls = some later) : later.Leaves id delivery := by
  have begun : tables.Leaves id delivery := by
    refine ⟨sound.issued id delivery found, fun same present => ?_⟩
    obtain rfl := Option.some.inj (found.symm.trans present)
    exact ⟨rfl, rfl⟩
  exact run_preserves
    (fun _ _ _ (leaves : WebhookTables.Leaves id delivery _) (_ : True) stepped =>
      step_leaves ended leaves stepped)
    begun (runMeets_of_forall fun _ _ => trivial) ran

/-- In a run in which no second post fails with a third one allowed, deliveries follow one
lifecycle. -/
theorem deliveries_follow_one_lifecycle (positive : 1 ≤ maxAttempts) {start reached :
    WebhookTables Uuid} (empty : start.deliveries = ∅) {calls : List (Call Uuid)}
    (careful : RunMeets (step maxAttempts)
      (fun tables call => secondPostsSucceed tables call = true) start calls)
    (ran : run (step maxAttempts) start calls = some reached) :
    reached.FollowLifecycle maxAttempts := by
  have begun : start.Sound := by
    constructor
    all_goals
      intro id delivery found
      rw [empty] at found
      cases found
  have sound : reached.Sound :=
    run_preserves (fun _ _ _ (sound : WebhookTables.Sound _) careful stepped =>
      step_sound positive sound careful stepped) begun careful ran
  exact
    { deliveries := fun id delivery found => (sound.deliveries id delivery found).followsLifecycle
      terminal := fun _ _ found ended _ _ ranOn => (sound.terminal found ended ranOn).same }

end Calls

/-! One webhook, whose first post is answered with an error. -/

private def oneWebhook : WebhookTables Nat where
  subscriptions := (∅ : Rows Nat (WebhookSubscription Nat)).insert 1
    { workspaceId := 10, targetUrl := "https://hooks.test/dq", secretKey := "00ff",
      eventTypes := ["issue_created"], enabled := true }
  deliveries := ∅
  issued := []

private def failedEvent (response : Except String Int) : List (Call Nat) :=
  [.dispatchEvent
    { workspaceId := 10
      eventType := "issue_created"
      data := .dict []
      now := 0
      deliveryId := fun subscriptionId => subscriptionId + 100
      answer := fun _ => ⟨.ok 503, 0, 0⟩ },
    .retryPending (seconds 30) fun _ => response]

theorem second_post_succeeds :
    ∃ reached, run (step defaultMaxAttempts) oneWebhook (failedEvent (.ok 200)) = some reached ∧
      reached.FollowLifecycle defaultMaxAttempts := by
  have careful : RunMeets (step defaultMaxAttempts)
      (fun tables call => secondPostsSucceed tables call = true) oneWebhook
      (failedEvent (.ok 200)) := by
    decide +kernel
  exact ⟨_, rfl, deliveries_follow_one_lifecycle (by decide) rfl careful rfl⟩

/-- After its second failure the delivery waits for five minutes instead of two. -/
theorem second_failure_waits_too_long :
    ∃ reached, run (step defaultMaxAttempts) oneWebhook (failedEvent (.ok 503)) = some reached ∧
      ¬reached.FollowLifecycle defaultMaxAttempts := by
  refine ⟨_, rfl, fun follow => ?_⟩
  have scheduled := (follow.deliveries 101 _ rfl).scheduled (seconds 30) rfl (by decide)
  exact absurd scheduled (by decide)

end CogniDQ.Webhooks
