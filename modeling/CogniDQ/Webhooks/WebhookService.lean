import CogniDQ.Database.Rows
import CogniDQ.Protocol.Runs
import CogniDQ.Python.Value

/-!
# Webhook deliveries

`dispatch_event` makes the first post of every delivery, `retry_pending` the others. What a receiver
answers is an input; times are in microseconds.
-/

set_option autoImplicit false

namespace CogniDQ.Webhooks

open CogniDQ.Database CogniDQ.Python

inductive DeliveryStatus where
  | pending
  | delivered
  | failed
  | retrying
  | abandoned
deriving DecidableEq

structure WebhookSubscription (Uuid : Type) where
  workspaceId : Uuid
  targetUrl : String
  secretKey : String
  eventTypes : List String
  enabled : Bool

structure PayloadBody (Uuid : Type) where
  eventType : String
  occurredAt : Int
  workspaceId : Uuid
  data : Value

structure WebhookDeliveryLog (Uuid : Type) where
  subscriptionId : Uuid
  workspaceId : Uuid
  eventType : String
  payload : PayloadBody Uuid
  status : DeliveryStatus
  attemptCount : Nat
  maxAttempts : Nat
  lastAttemptAt : Option Int
  nextAttemptAt : Option Int
  httpResponseCode : Option Int
  lastError : Option String
  deliveredAt : Option Int

structure Post where
  succeeded : Bool
  time : Int

/-- A row with the posts made for it, the last one first, and whether its subscription has been
disabled since the dispatch. -/
structure Delivery (Uuid : Type) where
  log : WebhookDeliveryLog Uuid
  posts : List Post
  interrupted : Bool

structure WebhookTables (Uuid : Type) where
  subscriptions : Rows Uuid (WebhookSubscription Uuid)
  deliveries : Rows Uuid (Delivery Uuid)
  /-- The identities that deliveries have been given. -/
  issued : List Uuid

def validEventTypes : List String :=
  ["execution_failed", "issue_created", "incident_created", "incident_updated"]

def defaultMaxAttempts : Nat := 3

def retryBackoffSeconds : List Int := [30, 120, 300]

def seconds (count : Int) : Int := count * 1000000

def retryDelay (index : Nat) : Int := seconds (retryBackoffSeconds.getD index 0)

def cappedIndex (index : Nat) : Nat := min index (retryBackoffSeconds.length - 1)

/-- `_send`, from the status code of the response or the text of the exception. -/
def send (response : Except String Int) : Bool × Option Int × Option String :=
  match response with
  | .error message => (false, none, some message)
  | .ok statusCode =>
    let success := decide (200 ≤ statusCode) && decide (statusCode < 300)
    (success, some statusCode, if success then none else some s!"HTTP {statusCode}")

/-- What came back from a first post, with the clock read for `last_attempt_at` and then again. -/
structure Answer where
  response : Except String Int
  attemptedAt : Int
  settledAt : Int

section Operations

variable {Uuid : Type}

def WebhookDeliveryLog.new (maxAttempts : Nat) (subscriptionId : Uuid) (payload : PayloadBody Uuid) :
    WebhookDeliveryLog Uuid where
  subscriptionId := subscriptionId
  workspaceId := payload.workspaceId
  eventType := payload.eventType
  payload := payload
  status := .pending
  attemptCount := 0
  maxAttempts := maxAttempts
  lastAttemptAt := none
  nextAttemptAt := none
  httpResponseCode := none
  lastError := none
  deliveredAt := none

/-- The row after the post of `dispatch_event`. -/
def WebhookDeliveryLog.attemptInline (log : WebhookDeliveryLog Uuid) (answer : Answer) :
    WebhookDeliveryLog Uuid :=
  let (success, httpCode, error) := send answer.response
  let attempted : WebhookDeliveryLog Uuid :=
    { log with
      attemptCount := 1
      lastAttemptAt := some answer.attemptedAt
      httpResponseCode := httpCode }
  if success then
    { attempted with status := .delivered, deliveredAt := some answer.settledAt }
  else if attempted.attemptCount < attempted.maxAttempts then
    { attempted with
      lastError := error
      status := .retrying
      nextAttemptAt :=
        some (answer.settledAt + retryDelay (cappedIndex (attempted.attemptCount - 1))) }
  else
    { attempted with lastError := error, status := .abandoned }

/-- The row after a post of `retry_pending`. -/
def WebhookDeliveryLog.reattempt (log : WebhookDeliveryLog Uuid) (now : Int)
    (response : Except String Int) : WebhookDeliveryLog Uuid :=
  let (success, httpCode, error) := send response
  let attempted : WebhookDeliveryLog Uuid :=
    { log with
      attemptCount := log.attemptCount + 1
      lastAttemptAt := some now
      httpResponseCode := httpCode }
  if success then
    { attempted with status := .delivered, deliveredAt := some now, lastError := none }
  else if attempted.attemptCount ≥ attempted.maxAttempts then
    { attempted with lastError := error, status := .abandoned }
  else
    { attempted with
      lastError := error
      nextAttemptAt := some (now + retryDelay (cappedIndex attempted.attemptCount)) }

def WebhookDeliveryLog.abandon (log : WebhookDeliveryLog Uuid) : WebhookDeliveryLog Uuid :=
  { log with status := .abandoned, lastError := some "Subscription deleted or disabled" }

/-- What `retry_pending` selects. -/
def WebhookDeliveryLog.due (log : WebhookDeliveryLog Uuid) (now : Int) : Bool :=
  decide (log.status = .retrying) && log.nextAttemptAt.any (decide <| · ≤ now)

def Delivery.dispatch (maxAttempts : Nat) (subscriptionId : Uuid) (payload : PayloadBody Uuid)
    (answer : Answer) : Delivery Uuid where
  log := (WebhookDeliveryLog.new maxAttempts subscriptionId payload).attemptInline answer
  posts := [⟨(send answer.response).1, answer.settledAt⟩]
  interrupted := false

variable [DecidableEq Uuid]

def WebhookTables.isEnabled (webhooks : WebhookTables Uuid) (subscriptionId : Uuid) : Bool :=
  (webhooks.subscriptions.lookup subscriptionId).any (·.enabled)

/-- One pass of the loop of `retry_pending`. -/
def Delivery.retry (webhooks : WebhookTables Uuid) (now : Int) (response : Except String Int)
    (delivery : Delivery Uuid) : Delivery Uuid :=
  if webhooks.isEnabled delivery.log.subscriptionId then
    { delivery with
      log := delivery.log.reattempt now response
      posts := ⟨(send response).1, now⟩ :: delivery.posts }
  else
    { delivery with log := delivery.log.abandon }

structure DispatchCall (Uuid : Type) where
  workspaceId : Uuid
  eventType : String
  data : Value
  now : Int
  /-- The identity of the new row for a subscription, and the answer to its post. -/
  deliveryId : Uuid → Uuid
  answer : Uuid → Answer

def DispatchCall.payloadBody (call : DispatchCall Uuid) : PayloadBody Uuid where
  eventType := call.eventType
  occurredAt := call.now
  workspaceId := call.workspaceId
  data := call.data

def DispatchCall.subscriptions (call : DispatchCall Uuid) (webhooks : WebhookTables Uuid) :
    List Uuid :=
  (webhooks.subscriptions.keep fun _ subscription =>
    decide (subscription.workspaceId = call.workspaceId) && subscription.enabled &&
      subscription.eventTypes.contains call.eventType).keys

def dispatchEvent (maxAttempts : Nat) (webhooks : WebhookTables Uuid) (call : DispatchCall Uuid) :
    Option (WebhookTables Uuid) :=
  if validEventTypes.contains call.eventType then
    let subscriptions := call.subscriptions webhooks
    let ids := subscriptions.map call.deliveryId
    if ids.Nodup ∧ ∀ id ∈ ids, id ∉ webhooks.issued then
      some { webhooks with
        deliveries := subscriptions.foldl
          (fun deliveries subscriptionId => deliveries.insert (call.deliveryId subscriptionId)
            (.dispatch maxAttempts subscriptionId call.payloadBody (call.answer subscriptionId)))
          webhooks.deliveries
        issued := ids ++ webhooks.issued }
    else
      none
  else
    some webhooks

/-- The answers are those to the posts of the deliveries that are due. -/
def retryPending (webhooks : WebhookTables Uuid) (now : Int) (response : Uuid → Except String Int) :
    WebhookTables Uuid :=
  { webhooks with
    deliveries := webhooks.deliveries.updateWhere (fun _ delivery => delivery.log.due now)
      fun id => Delivery.retry webhooks now (response id) }

def saveSubscription (webhooks : WebhookTables Uuid) (subscriptionId : Uuid)
    (subscription : WebhookSubscription Uuid) : WebhookTables Uuid :=
  { webhooks with
    subscriptions := webhooks.subscriptions.insert subscriptionId subscription
    deliveries := webhooks.deliveries.updateWhere
      (fun _ delivery =>
        decide (delivery.log.subscriptionId = subscriptionId) && !subscription.enabled)
      fun _ delivery => { delivery with interrupted := true } }

def deleteSubscription (webhooks : WebhookTables Uuid) (subscriptionId : Uuid) : WebhookTables Uuid :=
  { webhooks with
    subscriptions := webhooks.subscriptions.erase subscriptionId
    deliveries := webhooks.deliveries.keep fun _ delivery =>
      decide (delivery.log.subscriptionId ≠ subscriptionId) }

inductive Call (Uuid : Type) where
  | dispatchEvent (call : DispatchCall Uuid)
  | retryPending (now : Int) (response : Uuid → Except String Int)
  | saveSubscription (subscriptionId : Uuid) (subscription : WebhookSubscription Uuid)
  | deleteSubscription (subscriptionId : Uuid)

def step (maxAttempts : Nat) (webhooks : WebhookTables Uuid) : Call Uuid → Option (WebhookTables Uuid)
  | .dispatchEvent call => Webhooks.dispatchEvent maxAttempts webhooks call
  | .retryPending now response => some (Webhooks.retryPending webhooks now response)
  | .saveSubscription subscriptionId subscription =>
    some (Webhooks.saveSubscription webhooks subscriptionId subscription)
  | .deleteSubscription subscriptionId =>
    some (Webhooks.deleteSubscription webhooks subscriptionId)

end Operations

end CogniDQ.Webhooks
