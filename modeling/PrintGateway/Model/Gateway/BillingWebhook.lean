import PrintGateway.Machine.Keyed
import PrintGateway.Machine.Run
import PrintGateway.Model.Gateway.Subscription

/-!
# The Stripe webhook

`billing/webhook/route.ts`, for events whose signature and shape have been checked.  A delivery reads
what is known of the subscription, fetches the current Stripe resource, and only then opens its
transaction; deliveries run side by side and each of their statements is a step.  The row of the
workspace is locked, judged, written and committed in the last of them.
-/

namespace PrintGateway.Gateway

open Machine

inductive BillingEventType
  | checkoutSessionCompleted
  | subscriptionCreated
  | subscriptionUpdated
  | subscriptionPaused
  | subscriptionResumed
  | subscriptionPendingUpdateApplied
  | subscriptionPendingUpdateExpired
  | subscriptionDeleted
  /-- Any other `customer.subscription.` event. -/
  | subscriptionOther
  /-- Invoices and whatever else Stripe sends. -/
  | other
  deriving DecidableEq

namespace BillingEventType

/-- `currentSnapshotSubscriptionEvents`. -/
def isCurrentSnapshot : BillingEventType → Bool
  | .subscriptionCreated | .subscriptionUpdated | .subscriptionPaused | .subscriptionResumed
  | .subscriptionPendingUpdateApplied | .subscriptionPendingUpdateExpired => true
  | .checkoutSessionCompleted | .subscriptionDeleted | .subscriptionOther | .other => false

/-- The type starts with `customer.subscription.`. -/
def isSubscription : BillingEventType → Bool
  | .checkoutSessionCompleted | .other => false
  | _ => true

/-- `subscriptionStateEvent`. -/
def isSubscriptionState (type : BillingEventType) : Bool :=
  type = .subscriptionDeleted || type.isCurrentSnapshot

/-- `priceMappingAuthoritative`. -/
def isPriceAuthoritative (type : BillingEventType) : Bool :=
  type = .subscriptionCreated || type = .subscriptionUpdated

end BillingEventType

structure StripeEvent where
  id : Text
  type : BillingEventType
  /-- In seconds. -/
  created : ℕ
  object : StripeObject
  deriving DecidableEq

def StripeEvent.createdAt (event : StripeEvent) : ℤ := event.created * 1000

inductive DeliveryStage
  | received
  | fetching
  | fetched
  | claimed
  | identified
  deriving DecidableEq

structure Delivery where
  event : StripeEvent
  stage : DeliveryStage
  fetchedRevision : Option ℕ
  staleSnapshotEvent : Bool
  stateObj : StripeObject
  checkoutSubscription : Option StripeObject
  boundTenantId : Option Text
  billingIdentityConflict : Bool
  deriving DecidableEq

namespace Delivery

/-- A delivery that has found its event not processed yet. -/
def receive (event : StripeEvent) : Delivery :=
  { event
    stage := .received
    fetchedRevision := none
    staleSnapshotEvent := false
    stateObj := event.object
    checkoutSubscription := none
    boundTenantId := none
    billingIdentityConflict := false }

def candidateTenantId (d : Delivery) : Option Text :=
  d.stateObj.tenantId <|> d.event.object.tenantId <|> d.event.object.clientReferenceId

def customerId (d : Delivery) : Option Text := d.stateObj.customer <|> d.event.object.customer

/-- `subscriptionIdForEvent`. -/
def objectSubscriptionId (d : Delivery) : Option Text :=
  d.stateObj.subscription <|> if d.event.type.isSubscription then d.stateObj.id else none

/-- The subscription a delivery asks Stripe for. -/
def requestedId (d : Delivery) : Option Text :=
  if d.event.type.isCurrentSnapshot then filled d.event.object.id
  else if d.event.type = .checkoutSessionCompleted then filled d.event.object.subscription
  else none

end Delivery

/-- What a transaction does with the row: nothing, a write, or a rollback after which the event is
handled again from the start. -/
inductive RowVerdict
  | leave
  | write (row : Subscription)
  | snapshotChanged
  deriving DecidableEq

/-- The row after a completed checkout of a subscription. -/
def bindCheckout (d : Delivery) (clock : ℤ) (subId : Text) (current : Subscription) : Subscription :=
  let differentSubscription := (filled current.stripeSubscriptionId).any (· ≠ subId)
  let adoptPeriod := differentSubscription || current.stripeLastEventCreatedAt.isNone
  { current with
    stripeSubscriptionId :=
      if differentSubscription then some subId else current.stripeSubscriptionId <|> some subId
    stripeCustomerId := current.stripeCustomerId <|> d.customerId
    checkoutStatus := .completed
    stripeStateRevision := current.stripeStateRevision + 1
    checkoutSessionId := d.event.object.id
    currentPeriodStart :=
      if adoptPeriod then (stripePeriodStart d.checkoutSubscription).getD current.currentPeriodStart
      else current.currentPeriodStart
    currentPeriodEnd :=
      if adoptPeriod then stripePeriodEnd d.checkoutSubscription <|> current.currentPeriodEnd
      else current.currentPeriodEnd
    stripeLastEventCreatedAt := if differentSubscription then none else current.stripeLastEventCreatedAt
    updatedAt := clock }

/-- The branch of `checkout.session.completed`. -/
def judgeCheckout (d : Delivery) (clock : ℤ) (subId : Text) (current : Option Subscription) : RowVerdict :=
  if d.checkoutSubscription.isSome ∧
      (current.map (·.stripeStateRevision)).getD 0 ≠ d.fetchedRevision.getD 0 then .snapshotChanged
  else
    match current with
    | none => .leave
    | some row =>
      let differentSubscription := (filled row.stripeSubscriptionId).any (· ≠ subId)
      let checkoutCustomer := (d.checkoutSubscription.bind (·.customer)) <|> d.customerId
      let checkoutStatus := d.checkoutSubscription.bind (·.status)
      if differentSubscription ∧ !row.status.isTerminal then .leave
      else if ∃ mine ∈ filled checkoutCustomer, ∃ other ∈ filled d.customerId, mine ≠ other then .leave
      else if differentSubscription ∧ row.status = .cancelled ∧ checkoutStatus = some "canceled".toList then
        .leave
      else if ∃ mine ∈ filled row.stripeCustomerId, ∃ other ∈ filled d.customerId, mine ≠ other then .leave
      else .write (bindCheckout d clock subId row)

/-- Whether a subscription event may write the row. -/
def mayUpdate (d : Delivery) (subId : Text) (row : Subscription) : Bool :=
  let createdAt := d.event.createdAt
  let differentSubscription := (filled row.stripeSubscriptionId).any (· ≠ subId)
  let sameOrUnbound := filled row.stripeSubscriptionId = none || row.stripeSubscriptionId = some subId
  let isNewer : Bool := row.stripeLastEventCreatedAt.all (· < createdAt)
  let newerReplacement := differentSubscription && row.status.isTerminal && isNewer
  let terminalDelete : Bool := d.event.type = .subscriptionDeleted
  let boundHere : Bool := row.stripeSubscriptionId = some subId
  let adoptableCheckout :=
    row.status = .cancelled && boundHere && row.checkoutStatus = .completed && !terminalDelete &&
      (row.stripeLastEventCreatedAt.isNone || isNewer)
  let snapshotAuthoritative :=
    d.event.type.isCurrentSnapshot && !d.staleSnapshotEvent && row.stripeLastEventCreatedAt.all (· ≤ createdAt)
  let sameCanUpdate :=
    sameOrUnbound && (snapshotAuthoritative || terminalDelete || isNewer) &&
      !(row.status = .cancelled && boundHere && !terminalDelete && !adoptableCheckout)
  sameCanUpdate || newerReplacement

/-- The row after a subscription event. -/
def applySubscription (d : Delivery) (clock : ℤ) (plans : List Plan) (subId : Text) (row : Subscription) :
    Subscription :=
  let createdAt := d.event.createdAt
  let priceId := filled d.stateObj.priceId
  let plan := priceId.bind (planOfPrice plans)
  let authoritative := d.event.type.isPriceAuthoritative
  let blocked := if authoritative then plan.isNone else row.entitlementBlocked
  let nextStatus := (d.stateObj.status.map statusOf).getD row.status
  let next : Subscription :=
    { row with
      stripeCustomerId := d.stateObj.customer <|> row.stripeCustomerId
      stripeSubscriptionId := if subId ≠ [] then some subId else row.stripeSubscriptionId
      status := nextStatus
      stripeStateRevision := row.stripeStateRevision + 1
      currentPeriodStart := (stripePeriodStart (some d.stateObj)).getD row.currentPeriodStart
      currentPeriodEnd := stripePeriodEnd (some d.stateObj) <|> row.currentPeriodEnd
      cancelAtPeriodEnd := d.stateObj.cancelAtPeriodEnd
      planId := (plan.map (·.id)).getD row.planId
      entitlementBlocked := blocked
      entitlementBlockedReason :=
        if authoritative && blocked then
          some ("stripe_price_unmapped:" ++ priceId.getD "missing")
        else if authoritative then none else row.entitlementBlockedReason
      stripeLastEventCreatedAt := some (max (row.stripeLastEventCreatedAt.getD createdAt) createdAt)
      updatedAt := clock }
  if nextStatus.isTerminal then
    { next with
      checkoutStatus := .none
      checkoutPlanId := none
      checkoutIdempotencyKey := none
      checkoutSessionId := none
      checkoutSessionUrl := none
      checkoutSessionExpiresAt := none
      billingOperationId := none
      billingOperationType := none
      billingOperationIdempotencyKey := none
      billingOperationSubscriptionId := none }
  else next

/-- The branch of the subscription events. -/
def judgeSubscription (d : Delivery) (clock : ℤ) (plans : List Plan) (current : Option Subscription) : RowVerdict :=
  let subId := d.stateObj.id.getD []
  match current with
  | none => .leave
  | some row =>
    if d.event.type.isCurrentSnapshot ∧ !d.staleSnapshotEvent ∧
        row.stripeStateRevision ≠ d.fetchedRevision.getD 0 then .snapshotChanged
    else if mayUpdate d subId row then .write (applySubscription d clock plans subId row)
    else .leave

def judgeRow (d : Delivery) (clock : ℤ) (plans : List Plan) (current : Option Subscription) : RowVerdict :=
  if d.event.type = .checkoutSessionCompleted then
    match filled d.event.object.subscription with
    | some subId => judgeCheckout d clock subId current
    | none => .leave
  else if d.event.type.isSubscriptionState then judgeSubscription d clock plans current
  else .leave

/-- A workspace bound to a subscription by a completed checkout, with the time of its event. -/
structure CheckoutBinding where
  tenantId : Text
  subscriptionId : Text
  createdAt : ℤ
  deriving DecidableEq

/-- The committed tables and the deliveries in progress.  For each event that changed a row, `changes`
has its id and the workspace; `bindings` has what completed checkouts have bound. -/
structure Billing where
  clock : ℤ
  tenants : List Text
  plans : List Plan
  rows : Keyed Text Subscription
  /-- `billing_events`: whether `processed_at` is set. -/
  events : Keyed Text Bool
  deliveries : Keyed ℕ Delivery
  changes : List (Text × Text)
  bindings : List CheckoutBinding
  deriving DecidableEq

inductive BillingStep
  | tick (ms : ℕ)
  | setPlans (plans : List Plan)
  | receive (id : ℕ) (event : StripeEvent)
  /-- What is known of the subscription. -/
  | read (id : ℕ)
  /-- Stripe answers, or does not. -/
  | fetch (id : ℕ) (answer : Option StripeObject)
  /-- `INSERT INTO billing_events`, and the lock of the row that is there. -/
  | claim (id : ℕ)
  /-- The workspaces bound to the subscription or the customer. -/
  | identify (id : ℕ)
  /-- The row locked, judged and written, the event marked, and the commit. -/
  | settle (id : ℕ)
  /-- A failure before the commit. -/
  | fail (id : ℕ)
  deriving DecidableEq

namespace Billing

def finish (s : Billing) (id : ℕ) : Billing :=
  { s with deliveries := s.deliveries.filter fun other _ => other ≠ id }

def setDelivery (s : Billing) (id : ℕ) (d : Delivery) : Billing :=
  { s with deliveries := s.deliveries.put id d }

def readKnown (s : Billing) (id : ℕ) (d : Delivery) : Billing :=
  if d.event.type.isCurrentSnapshot then
    match filled d.event.object.id with
    | none => s.finish id
    | some subscriptionId =>
      let known := (s.rows.entries.find? fun entry => entry.2.stripeSubscriptionId = some subscriptionId).map (·.2)
      let stale := (known.bind (·.stripeLastEventCreatedAt)).any (d.event.createdAt < ·)
      s.setDelivery id { d with
        stage := if stale then .fetched else .fetching
        fetchedRevision := known.map (·.stripeStateRevision)
        staleSnapshotEvent := stale }
  else
    match d.requestedId with
    | none => s.setDelivery id { d with stage := .fetched }
    | some _ =>
      let known := (filled d.candidateTenantId).bind s.rows.find?
      s.setDelivery id { d with stage := .fetching, fetchedRevision := known.map (·.stripeStateRevision) }

def applyFetch (s : Billing) (id : ℕ) (d : Delivery) : Option StripeObject → Option Billing
  | none => some (s.finish id)
  | some object =>
    -- Stripe answers with the subscription it is asked for
    if object.id ≠ d.requestedId then none
    else if d.event.type.isCurrentSnapshot then
      some (s.setDelivery id { d with stage := .fetched, stateObj := object })
    else some (s.setDelivery id { d with stage := .fetched, checkoutSubscription := some object })

/-- Another delivery holds the row of the event. -/
def isClaimed (s : Billing) (id : ℕ) (eventId : Text) : Bool :=
  s.deliveries.entries.any fun entry =>
    entry.1 ≠ id ∧ entry.2.event.id = eventId ∧ (entry.2.stage = .claimed ∨ entry.2.stage = .identified)

def claimEvent (s : Billing) (id : ℕ) (d : Delivery) : Option Billing :=
  if s.isClaimed id d.event.id then none
  else if s.events.find? d.event.id = some true then some (s.finish id)
  else some (s.setDelivery id { d with stage := .claimed })

def identifyTenant (s : Billing) (id : ℕ) (d : Delivery) : Billing :=
  let found := (s.rows.entries.filter fun entry =>
    (∃ subscriptionId ∈ filled d.objectSubscriptionId, entry.2.stripeSubscriptionId = some subscriptionId) ∨
      ∃ customerId ∈ filled d.customerId, entry.2.stripeCustomerId = some customerId).map (·.1)
  let bound := found.head?
  s.setDelivery id { d with
    stage := .identified
    boundTenantId := bound
    billingIdentityConflict :=
      (found.any fun tenantId => some tenantId ≠ bound) ||
        bound.any fun tenantId => (filled d.candidateTenantId).any (· ≠ tenantId) }

/-- The event marked as processed, and the delivery over. -/
def mark (s : Billing) (id : ℕ) (d : Delivery) : Billing :=
  { s.finish id with events := s.events.put d.event.id true }

/-- The unique indexes of the table. -/
def isTaken (s : Billing) (tenantId : Text) (row : Subscription) : Bool :=
  s.rows.entries.any fun entry => entry.1 ≠ tenantId ∧
    (row.stripeSubscriptionId.isSome ∧ entry.2.stripeSubscriptionId = row.stripeSubscriptionId ∨
      row.stripeCustomerId.isSome ∧ entry.2.stripeCustomerId = row.stripeCustomerId)

def writeRow (s : Billing) (id : ℕ) (d : Delivery) (tenantId : Text) (row : Subscription) : Billing :=
  if s.rows.find? tenantId = none then s.mark id d
  else if s.isTaken tenantId row then s.finish id
  else
    { s.mark id d with
      rows := s.rows.put tenantId row
      changes := (d.event.id, tenantId) :: s.changes
      bindings :=
        if d.event.type = .checkoutSessionCompleted then
          match row.stripeSubscriptionId with
          | some subscriptionId => ⟨tenantId, subscriptionId, d.event.createdAt⟩ :: s.bindings
          | none => s.bindings
        else s.bindings }

def settleEvent (s : Billing) (id : ℕ) (d : Delivery) : Billing :=
  if d.billingIdentityConflict then s.mark id d
  else
    match d.boundTenantId <|> d.candidateTenantId with
    | none => s.mark id d
    | some tenantId =>
      -- the foreign key of `billing_events`
      if tenantId ∉ s.tenants then s.finish id
      else
        match judgeRow d s.clock s.plans (s.rows.find? tenantId) with
        | .leave => s.mark id d
        | .write row => s.writeRow id d tenantId row
        | .snapshotChanged => s.finish id

/-- A delivery at a stage. -/
def at? (s : Billing) (id : ℕ) (stage : DeliveryStage) : Option Delivery :=
  (s.deliveries.find? id).filter fun d => d.stage = stage

def step (s : Billing) : BillingStep → Option Billing
  | .tick ms => some { s with clock := s.clock + ms }
  | .setPlans plans => some { s with plans }
  | .receive id event =>
    if event.id = [] ∨ (s.deliveries.find? id).isSome then none
    else if s.events.find? event.id = some true then some s
    else some (s.setDelivery id (.receive event))
  | .read id => (s.at? id .received).map (s.readKnown id)
  | .fetch id answer => (s.at? id .fetching).bind fun d => s.applyFetch id d answer
  | .claim id => (s.at? id .fetched).bind (s.claimEvent id)
  | .identify id => (s.at? id .claimed).map (s.identifyTenant id)
  | .settle id => (s.at? id .identified).map (s.settleEvent id)
  | .fail id => some (s.finish id)

/-- Deliveries on any tables. -/
def system : System Billing BillingStep where
  init s := s.deliveries = .empty ∧ s.changes = [] ∧ s.bindings = []
  step := step

end Billing

end PrintGateway.Gateway
