import PrintGateway.Model.Text

/-!
# Subscriptions of workspaces

The row of `tenant_subscriptions` and the Stripe objects that the billing routes read.  A Stripe
object is kept with the entries that are read from it, each as far as it has the type the route asks
for.  Dates are milliseconds.
-/

namespace PrintGateway.Gateway

/-- A text that is there and not empty. -/
def filled (text : Option Text) : Option Text := text.filter (· ≠ [])

theorem eq_of_filled {text : Option Text} {value : Text} (found : filled text = some value) : text = some value :=
  (Option.filter_eq_some_iff.mp found).1

inductive SubscriptionStatus
  | trialing
  | active
  | pastDue
  | incomplete
  | incompleteExpired
  | unpaid
  | paused
  | cancelled
  deriving DecidableEq

namespace SubscriptionStatus

/-- Terminal at Stripe: another subscription may take the place of this one. -/
def isTerminal : SubscriptionStatus → Bool
  | .cancelled | .incompleteExpired => true
  | .trialing | .active | .pastDue | .incomplete | .unpaid | .paused => false

end SubscriptionStatus

/-- The local status of a Stripe status. -/
def statusOf (status : Text) : SubscriptionStatus :=
  if status = "trialing" then .trialing
  else if status = "active" then .active
  else if status = "past_due" then .pastDue
  else if status = "incomplete" then .incomplete
  else if status = "incomplete_expired" then .incompleteExpired
  else if status = "unpaid" then .unpaid
  else if status = "paused" then .paused
  else .cancelled

inductive CheckoutStatus
  | none
  | creating
  | opened
  | completed
  deriving DecidableEq

structure Subscription where
  planId : Text
  stripeCustomerId : Option Text
  stripeSubscriptionId : Option Text
  status : SubscriptionStatus
  currentPeriodStart : ℤ
  currentPeriodEnd : Option ℤ
  stripeLastEventCreatedAt : Option ℤ
  stripeStateRevision : ℕ
  cancelAtPeriodEnd : Bool
  checkoutStatus : CheckoutStatus
  checkoutPlanId : Option Text
  checkoutIdempotencyKey : Option Text
  checkoutRequestParams : Option (List (Text × Text))
  checkoutIntentCreatedAt : Option ℤ
  checkoutSessionId : Option Text
  checkoutSessionUrl : Option Text
  checkoutSessionExpiresAt : Option ℤ
  billingOperationId : Option Text
  billingOperationType : Option Text
  billingOperationIdempotencyKey : Option Text
  billingOperationSubscriptionId : Option Text
  entitlementBlocked : Bool
  entitlementBlockedReason : Option Text
  updatedAt : ℤ
  deriving DecidableEq

/-- A plan of the catalogue, whose ids have at least two characters. -/
structure Plan where
  id : Text
  named : id ≠ []
  isActive : Bool
  isPublic : Bool
  stripePriceId : Option Text
  stripePriceHistory : List Text

instance : DecidableEq Plan := fun
  | ⟨id, _, isActive, isPublic, price, history⟩, ⟨id', _, isActive', isPublic', price', history'⟩ =>
    decidable_of_iff (id = id' ∧ isActive = isActive' ∧ isPublic = isPublic' ∧ price = price' ∧ history = history')
      (by simp)

/-- The plan that alone has a price, now or in its history. -/
def planOfPrice (plans : List Plan) (priceId : Text) : Option Plan :=
  match plans.filter fun plan => plan.stripePriceId = some priceId ∨ priceId ∈ plan.stripePriceHistory with
  | [plan] => some plan
  | _ => none

structure StripeObject where
  id : Option Text
  customer : Option Text
  status : Option Text
  subscription : Option Text
  clientReferenceId : Option Text
  /-- `metadata.tenant_id`. -/
  tenantId : Option Text
  /-- `metadata.plan_id`. -/
  planId : Option Text
  /-- The price of the first item. -/
  priceId : Option Text
  cancelAtPeriodEnd : Bool
  /-- The period of the first item, in seconds. -/
  itemPeriodStart : Option ℤ
  itemPeriodEnd : Option ℤ
  currentPeriodStart : Option ℤ
  currentPeriodEnd : Option ℤ
  deriving DecidableEq

/-- A number of seconds that is a date. -/
def stripeDate (seconds : ℤ) : Option ℤ :=
  if 0 ≤ seconds ∧ seconds ≤ 8640000000000 then some (seconds * 1000) else none

/-- `stripeSubscriptionPeriod`, its start. -/
def stripePeriodStart (subscription : Option StripeObject) : Option ℤ :=
  (subscription.bind fun object => object.itemPeriodStart <|> object.currentPeriodStart).bind stripeDate

/-- `stripeSubscriptionPeriod`, its end. -/
def stripePeriodEnd (subscription : Option StripeObject) : Option ℤ :=
  (subscription.bind fun object => object.itemPeriodEnd <|> object.currentPeriodEnd).bind stripeDate

end PrintGateway.Gateway
