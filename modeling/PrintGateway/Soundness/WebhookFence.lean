import PrintGateway.Model.Gateway.BillingWebhook

/-!
# What webhook deliveries do to a subscription row

An event holds its row of `billing_events` from its claim to its commit, so it writes at most once
however often and however concurrently it is delivered.  The time of the last event fences the row
against older snapshots.  A completed checkout that replaces a subscription empties that fence while
the row is still cancelled, and an event of the old subscription then passes it.
-/

namespace PrintGateway.Gateway

open Machine

/-- The event's row of `billing_events` is held by the delivery. -/
def DeliveryStage.holds : DeliveryStage → Bool
  | .claimed | .identified => true
  | .received | .fetching | .fetched => false

namespace Billing

variable {s : Billing} {d : Delivery} {id other : ℕ}

theorem find?_of_at? {stage : DeliveryStage} (found : s.at? id stage = some d) :
    s.deliveries.find? id = some d ∧ d.stage = stage := by
  obtain ⟨found, same⟩ := Option.filter_eq_some_iff.mp found
  exact ⟨found, of_decide_eq_true same⟩

theorem find?_finish (found : (s.finish id).deliveries.find? other = some d) :
    s.deliveries.find? other = some d ∧ other ≠ id := by
  obtain ⟨found, kept⟩ := Keyed.find?_filter_eq_some_iff.mp found
  exact ⟨found, of_decide_eq_true kept⟩

theorem find?_setDelivery {d' : Delivery} (found : (s.setDelivery id d).deliveries.find? other = some d') :
    (other = id ∧ d' = d) ∨ (other ≠ id ∧ s.deliveries.find? other = some d') := by
  by_cases same : other = id
  · subst same
    have stored := (Keyed.find?_put_self s.deliveries other d).symm.trans found
    exact .inl ⟨rfl, (Option.some.inj stored).symm⟩
  · exact .inr ⟨same, (Keyed.find?_put_of_ne s.deliveries d same).symm.trans found⟩

/-! ## What a step writes -/

/-- A commit that writes the row of a workspace. -/
structure Writes (s : Billing) (e : BillingStep) (s' : Billing) (d : Delivery) (tenantId : Text)
    (row row' : Subscription) : Prop where
  settled : ∃ id, e = .settle id ∧ s.at? id .identified = some d ∧ s'.deliveries = (s.finish id).deliveries
  stored : s.rows.find? tenantId = some row
  judged : judgeRow d s.clock s.plans (some row) = .write row'
  rows : s'.rows = s.rows.put tenantId row'
  events : s'.events = s.events.put d.event.id true
  changes : s'.changes = (d.event.id, tenantId) :: s.changes

/-- A step leaves the rows alone, or it is the commit of one delivery. -/
theorem step_cases {s' : Billing} {e : BillingStep} (moved : s.step e = some s') :
    (s'.rows = s.rows ∧ s'.changes = s.changes ∧ s'.bindings = s.bindings) ∨
      ∃ d tenantId row row', Writes s e s' d tenantId row row' := by
  cases e with
  | tick ms | setPlans plans | fail id =>
    cases moved
    exact .inl ⟨rfl, rfl, rfl⟩
  | receive id event =>
    obtain ⟨-, moved⟩ := Option.ite_none_left_eq_some.mp moved
    split at moved <;> cases moved <;> exact .inl ⟨rfl, rfl, rfl⟩
  | read id =>
    obtain ⟨d, -, rfl⟩ := Option.map_eq_some_iff.mp moved
    refine .inl ?_
    unfold readKnown
    split
    · split <;> exact ⟨rfl, rfl, rfl⟩
    · split <;> exact ⟨rfl, rfl, rfl⟩
  | fetch id answer =>
    obtain ⟨d, -, fetched⟩ := Option.bind_eq_some_iff.mp moved
    cases answer with
    | none =>
      cases fetched
      exact .inl ⟨rfl, rfl, rfl⟩
    | some object =>
      obtain ⟨-, fetched⟩ := Option.ite_none_left_eq_some.mp fetched
      split at fetched <;> cases fetched <;> exact .inl ⟨rfl, rfl, rfl⟩
  | claim id =>
    obtain ⟨d, -, claimed⟩ := Option.bind_eq_some_iff.mp moved
    obtain ⟨-, claimed⟩ := Option.ite_none_left_eq_some.mp claimed
    split at claimed <;> cases claimed <;> exact .inl ⟨rfl, rfl, rfl⟩
  | identify id =>
    obtain ⟨d, -, rfl⟩ := Option.map_eq_some_iff.mp moved
    exact .inl ⟨rfl, rfl, rfl⟩
  | settle id =>
    obtain ⟨d, found, rfl⟩ := Option.map_eq_some_iff.mp moved
    unfold settleEvent
    split
    · exact .inl ⟨rfl, rfl, rfl⟩
    split
    · exact .inl ⟨rfl, rfl, rfl⟩
    rename_i tenantId _
    split
    · exact .inl ⟨rfl, rfl, rfl⟩
    split
    · exact .inl ⟨rfl, rfl, rfl⟩
    · rename_i row' judged
      unfold writeRow
      split
      · exact .inl ⟨rfl, rfl, rfl⟩
      split
      · exact .inl ⟨rfl, rfl, rfl⟩
      · rename_i stored _
        obtain ⟨row, stored⟩ := Option.ne_none_iff_exists'.mp stored
        rw [stored] at judged
        exact .inr ⟨d, tenantId, row, row', ⟨id, rfl, found, rfl⟩, stored, judged, rfl, rfl, rfl⟩
    · exact .inl ⟨rfl, rfl, rfl⟩

/-! ## Deliveries of one event -/

/-- An event that has written is marked and has written once.  Of the deliveries of an event one at
most holds its row, and only while the event is not marked.  The resource of a subscription event is
the one the event is about. -/
structure Consistent (s : Billing) : Prop where
  marked : ∀ change ∈ s.changes, s.events.find? change.1 = some true
  once : (s.changes.map Prod.fst).Nodup
  unmarked : ∀ id d, s.deliveries.find? id = some d → d.stage.holds → s.events.find? d.event.id ≠ some true
  alone : ∀ id d id' d', s.deliveries.find? id = some d → d.stage.holds →
    s.deliveries.find? id' = some d' → d'.stage.holds → d.event.id = d'.event.id → id = id'
  asked : ∀ id d, s.deliveries.find? id = some d → d.stage = .fetching → d.requestedId.isSome
  resource : ∀ id d, s.deliveries.find? id = some d → d.event.type.isSubscriptionState →
    d.stateObj.id = d.event.object.id

namespace Consistent

variable {s : Billing} {id : ℕ} {d : Delivery}

theorem init (none : s.deliveries = .empty) (nothing : s.changes = []) : Consistent s where
  marked := by simp [nothing]
  once := by simp [nothing]
  unmarked id d found := by
    rw [none] at found
    cases found
  alone id d id' d' found := by
    rw [none] at found
    cases found
  asked id d found := by
    rw [none] at found
    cases found
  resource id d found := by
    rw [none] at found
    cases found

section

variable (consistent : Consistent s)

include consistent

/-- A delivery ends without a commit. -/
theorem finish (id : ℕ) : Consistent (s.finish id) where
  marked := consistent.marked
  once := consistent.once
  unmarked other d found := consistent.unmarked other d (find?_finish found).1
  alone other d other' d' found holds found' :=
    consistent.alone other d other' d' (find?_finish found).1 holds (find?_finish found').1
  asked other d found := consistent.asked other d (find?_finish found).1
  resource other d found := consistent.resource other d (find?_finish found).1

/-- A delivery that is new or has moved on. -/
theorem setDelivery (unmarked : d.stage.holds → s.events.find? d.event.id ≠ some true)
    (alone : d.stage.holds → ∀ other d', s.deliveries.find? other = some d' → d'.stage.holds →
      d.event.id = d'.event.id → other = id)
    (asked : d.stage = .fetching → d.requestedId.isSome)
    (resource : d.event.type.isSubscriptionState → d.stateObj.id = d.event.object.id) :
    Consistent (s.setDelivery id d) where
  marked := consistent.marked
  once := consistent.once
  unmarked other d' found := by
    rcases find?_setDelivery found with ⟨-, rfl⟩ | ⟨-, old⟩
    · exact unmarked
    · exact consistent.unmarked other d' old
  alone first d₁ second d₂ found₁ holds₁ found₂ holds₂ same := by
    rcases find?_setDelivery found₁ with ⟨rfl, rfl⟩ | ⟨-, old₁⟩ <;>
      rcases find?_setDelivery found₂ with ⟨rfl, rfl⟩ | ⟨-, old₂⟩
    · rfl
    · exact (alone holds₁ second d₂ old₂ holds₂ same).symm
    · exact alone holds₂ first d₁ old₁ holds₁ same.symm
    · exact consistent.alone first d₁ second d₂ old₁ holds₁ old₂ holds₂ same
  asked other d' found := by
    rcases find?_setDelivery found with ⟨-, rfl⟩ | ⟨-, old⟩
    · exact asked
    · exact consistent.asked other d' old
  resource other d' found := by
    rcases find?_setDelivery found with ⟨-, rfl⟩ | ⟨-, old⟩
    · exact resource
    · exact consistent.resource other d' old

/-- The commit of a delivery that holds its event. -/
theorem mark (found : s.deliveries.find? id = some d) (holds : d.stage.holds) : Consistent (s.mark id d) where
  marked change member := by
    by_cases same : change.1 = d.event.id
    · exact same ▸ Keyed.find?_put_self s.events _ _
    · exact (Keyed.find?_put_of_ne s.events true same).trans (consistent.marked change member)
  once := consistent.once
  unmarked other d' found' holds' := by
    obtain ⟨found', different⟩ := find?_finish found'
    have other : d'.event.id ≠ d.event.id := fun same =>
      different (consistent.alone other d' id d found' holds' found holds same)
    rw [show (s.mark id d).events = s.events.put d.event.id true from rfl, Keyed.find?_put_of_ne _ _ other]
    exact consistent.unmarked _ d' found' holds'
  alone other d₁ other' d₂ found₁ holds₁ found₂ :=
    consistent.alone other d₁ other' d₂ (find?_finish found₁).1 holds₁ (find?_finish found₂).1
  asked other d' found' := consistent.asked other d' (find?_finish found').1
  resource other d' found' := consistent.resource other d' (find?_finish found').1

/-- A delivery moves on without touching its event. -/
theorem advance {d' : Delivery} (same : d'.event = d.event) (free : d'.stage.holds = false)
    (asked : d'.stage = .fetching → d'.requestedId.isSome)
    (resource : d.event.type.isSubscriptionState → d'.stateObj.id = d.event.object.id) :
    Consistent (s.setDelivery id d') := by
  have idle (holds : d'.stage.holds) : False := by simp [free] at holds
  exact consistent.setDelivery (fun holds => (idle holds).elim) (fun holds => (idle holds).elim) asked
    (same.symm ▸ resource)

theorem readKnown (found : s.deliveries.find? id = some d) : Consistent (s.readKnown id d) := by
  have resource := consistent.resource id d found
  unfold Billing.readKnown
  split
  · rename_i snapshot
    split
    · exact consistent.finish id
    · rename_i subscriptionId named
      refine consistent.advance rfl ?_ (fun _ => ?_) resource
      · dsimp only
        split <;> rfl
      · rw [Delivery.requestedId, if_pos snapshot]
        exact Option.isSome_iff_exists.mpr ⟨subscriptionId, named⟩
  · split
    · exact consistent.advance rfl rfl (fun fetching => by cases fetching) resource
    · rename_i subscriptionId asked
      refine consistent.advance rfl rfl (fun _ => ?_) resource
      exact Option.isSome_iff_exists.mpr ⟨subscriptionId, asked⟩

theorem applyFetch (found : s.deliveries.find? id = some d) (fetching : d.stage = .fetching)
    {answer : Option StripeObject} {s' : Billing} (fetched : s.applyFetch id d answer = some s') :
    Consistent s' := by
  cases answer with
  | none =>
    cases fetched
    exact consistent.finish id
  | some object =>
    obtain ⟨same, fetched⟩ := Option.ite_none_left_eq_some.mp fetched
    split at fetched
    · rename_i snapshot
      cases fetched
      refine consistent.advance rfl rfl (fun fetching => by cases fetching) fun _ => ?_
      obtain ⟨subscriptionId, asked⟩ := Option.isSome_iff_exists.mp (consistent.asked id d found fetching)
      refine (not_not.mp same).trans (asked.trans ?_)
      rw [Delivery.requestedId, if_pos snapshot] at asked
      exact (eq_of_filled asked).symm
    · cases fetched
      exact consistent.advance rfl rfl (fun fetching => by cases fetching) (consistent.resource id d found)

theorem claimEvent (found : s.deliveries.find? id = some d) {s' : Billing}
    (claimed : s.claimEvent id d = some s') : Consistent s' := by
  obtain ⟨free, claimed⟩ := Option.ite_none_left_eq_some.mp claimed
  split at claimed
  · cases claimed
    exact consistent.finish id
  · rename_i unmarked
    cases claimed
    refine consistent.setDelivery (fun _ => unmarked) (fun _ other d' found' holds same => ?_)
      (fun fetching => by cases fetching) (consistent.resource id d found)
    by_contra different
    refine free (List.any_eq_true.mpr ⟨(other, d'), Keyed.mem_of_find?_eq_some found',
      decide_eq_true ⟨different, same.symm, ?_⟩⟩)
    cases stage : d'.stage with
    | claimed => exact .inl rfl
    | identified => exact .inr rfl
    | received | fetching | fetched => simp [stage, DeliveryStage.holds] at holds

theorem settleEvent (found : s.deliveries.find? id = some d) (holds : d.stage.holds) :
    Consistent (s.settleEvent id d) := by
  have marked := consistent.mark found holds
  unfold Billing.settleEvent
  split
  · exact marked
  split
  · exact marked
  split
  · exact consistent.finish id
  split
  · exact marked
  · unfold Billing.writeRow
    split
    · exact marked
    split
    · exact consistent.finish id
    · refine ⟨?_, ?_, marked.unmarked, marked.alone, marked.asked, marked.resource⟩
      · exact List.forall_mem_cons.mpr ⟨Keyed.find?_put_self s.events _ _, marked.marked⟩
      · refine List.nodup_cons.mpr ⟨fun written => ?_, consistent.once⟩
        obtain ⟨change, member, same⟩ := List.mem_map.mp written
        have same : change.1 = d.event.id := same
        exact consistent.unmarked id d found holds (same ▸ consistent.marked change member)
  · exact consistent.finish id

theorem step {e : BillingStep} {s' : Billing} (moved : s.step e = some s') : Consistent s' := by
  cases e with
  | tick ms | setPlans plans =>
    cases moved
    exact ⟨consistent.marked, consistent.once, consistent.unmarked, consistent.alone, consistent.asked,
      consistent.resource⟩
  | receive id event =>
    obtain ⟨-, moved⟩ := Option.ite_none_left_eq_some.mp moved
    split at moved
    · cases moved
      exact consistent
    · cases moved
      exact consistent.setDelivery (fun holds => by cases holds) (fun holds => by cases holds)
        (fun fetching => by cases fetching) fun _ => rfl
  | read id =>
    obtain ⟨d, found, rfl⟩ := Option.map_eq_some_iff.mp moved
    exact consistent.readKnown (find?_of_at? found).1
  | fetch id answer =>
    obtain ⟨d, found, fetched⟩ := Option.bind_eq_some_iff.mp moved
    exact consistent.applyFetch (find?_of_at? found).1 (find?_of_at? found).2 fetched
  | claim id =>
    obtain ⟨d, found, claimed⟩ := Option.bind_eq_some_iff.mp moved
    exact consistent.claimEvent (find?_of_at? found).1 claimed
  | identify id =>
    obtain ⟨d, found, rfl⟩ := Option.map_eq_some_iff.mp moved
    obtain ⟨found, claimed⟩ := find?_of_at? found
    have holds : d.stage.holds = true := claimed ▸ rfl
    refine consistent.setDelivery (fun _ => consistent.unmarked id d found holds) ?_
      (fun fetching => by cases fetching) (consistent.resource id d found)
    exact fun _ other d' found' holds' same =>
      consistent.alone other d' id d found' holds' found holds same.symm
  | settle id =>
    obtain ⟨d, found, rfl⟩ := Option.map_eq_some_iff.mp moved
    obtain ⟨found, identified⟩ := find?_of_at? found
    exact consistent.settleEvent found (identified ▸ rfl)
  | fail id =>
    cases moved
    exact consistent.finish id

end

theorem of_reaches {Allowed : Billing → BillingStep → Prop} (reached : system.Reaches Allowed s) : Consistent s :=
  reached.invariant (fun _ initial => init initial.1 initial.2.1)
    fun _ _ _ consistent _ moved => consistent.step moved

end Consistent

/-! ## The fence of a row -/

variable {row row' : Subscription} {subId tenantId : Text} {clock : ℤ} {plans : List Plan}
  {s' : Billing} {e : BillingStep}

theorem bindCheckout_subscription {d : Delivery}
    (same : (bindCheckout d clock subId row).stripeSubscriptionId = row.stripeSubscriptionId) :
    (bindCheckout d clock subId row).stripeLastEventCreatedAt = row.stripeLastEventCreatedAt := by
  cases different : (filled row.stripeSubscriptionId).any (· ≠ subId) with
  | false => simp only [bindCheckout, different, Bool.false_eq_true, if_false]
  | true =>
    obtain ⟨bound, named, other⟩ := (Option.any_eq_true _ _).mp different
    simp only [bindCheckout, different, if_true] at same
    rw [eq_of_filled named] at same
    exact absurd (Option.some.inj same).symm (of_decide_eq_true other)

theorem applySubscription_fence (d : Delivery) (clock : ℤ) (plans : List Plan) (subId : Text)
    (row : Subscription) :
    (applySubscription d clock plans subId row).stripeLastEventCreatedAt =
      some (max (row.stripeLastEventCreatedAt.getD d.event.createdAt) d.event.createdAt) := by
  unfold applySubscription
  dsimp only
  split <;> rfl

/-- The revision check of a fetched snapshot does not stop the event. -/
def PassesRevision (d : Delivery) (row : Subscription) : Prop :=
  d.event.type.isCurrentSnapshot = true → d.staleSnapshotEvent = false →
    row.stripeStateRevision = d.fetchedRevision.getD 0

instance decidablePassesRevision (d : Delivery) (row : Subscription) : Decidable (PassesRevision d row) :=
  inferInstanceAs (Decidable (_ → _ → _))

/-- A write by a checkout or by a subscription event. -/
theorem judgeRow_cases {d : Delivery} (judged : judgeRow d clock plans (some row) = .write row') :
    (d.event.type = .checkoutSessionCompleted ∧ ∃ subId, row' = bindCheckout d clock subId row) ∨
      (d.event.type.isSubscriptionState ∧ (PassesRevision d row ∧ mayUpdate d (d.stateObj.id.getD []) row) ∧
        row' = applySubscription d clock plans (d.stateObj.id.getD []) row) := by
  unfold judgeRow at judged
  split at judged
  · rename_i checkout
    split at judged
    · rename_i subId _
      refine .inl ⟨checkout, subId, ?_⟩
      unfold judgeCheckout at judged
      split at judged
      · cases judged
      dsimp only at judged
      repeat' split at judged
      all_goals cases judged
      rfl
    · cases judged
  split at judged
  · rename_i state
    unfold judgeSubscription at judged
    dsimp only at judged
    split at judged
    · cases judged
    rename_i current
    split at judged
    · rename_i may
      cases judged
      exact .inr ⟨state, ⟨fun fetched fresh => by simpa [fetched, fresh] using current, may⟩, rfl⟩
    · cases judged
  · cases judged

/-- The time of the last event does not go back while the subscription stays. -/
theorem fence_le_of_judgeRow {d : Delivery} (judged : judgeRow d clock plans (some row) = .write row')
    (same : row'.stripeSubscriptionId = row.stripeSubscriptionId) :
    ∀ fence ∈ row.stripeLastEventCreatedAt, ∃ fence' ∈ row'.stripeLastEventCreatedAt, fence ≤ fence' := by
  intro fence stored
  rcases judgeRow_cases judged with ⟨-, subId, rfl⟩ | ⟨-, -, rfl⟩
  · exact ⟨fence, (bindCheckout_subscription same).trans stored, le_refl _⟩
  · refine ⟨_, applySubscription_fence .., ?_⟩
    rw [Option.mem_def.mp stored]
    exact le_max_left _ _

/-- A subscription event from before the fence. -/
theorem mayUpdate_of_older {d : Delivery} {fence : ℤ} (stored : row.stripeLastEventCreatedAt = some fence)
    (older : d.event.createdAt < fence) (kept : d.event.type ≠ .subscriptionDeleted) :
    mayUpdate d subId row = false := by
  have notNewer : ¬fence < d.event.createdAt := by omega
  have notEqual : ¬fence ≤ d.event.createdAt := by omega
  simp [mayUpdate, stored, notNewer, notEqual, kept]

/-- An event of another subscription, on a row that is not terminal or has a fence. -/
theorem mayUpdate_of_other {d : Delivery} {bound : Text}
    (named : filled row.stripeSubscriptionId = some bound) (other : bound ≠ subId)
    (fenced : row.status.isTerminal → ∃ fence ∈ row.stripeLastEventCreatedAt, d.event.createdAt ≤ fence) :
    mayUpdate d subId row = false := by
  have stored := eq_of_filled named
  rw [stored] at named
  cases terminal : row.status.isTerminal with
  | false => simp [mayUpdate, named, stored, other, terminal]
  | true =>
    obtain ⟨fence, fence_eq, later⟩ := fenced terminal
    have notNewer : ¬fence < d.event.createdAt := by omega
    simp [mayUpdate, named, stored, other, terminal, Option.mem_def.mp fence_eq, notNewer]

/-- The subscription a workspace is bound to. -/
def subscriptionOf (s : Billing) (tenantId : Text) : Option (Option Text) :=
  (s.rows.find? tenantId).map (·.stripeSubscriptionId)

/-- The time of the last event of a workspace. -/
def fenceOf (s : Billing) (tenantId : Text) : Option ℤ :=
  (s.rows.find? tenantId).bind (·.stripeLastEventCreatedAt)

/-- The row of a workspace after a write. -/
theorem Writes.find? {s : Billing} {d : Delivery} (writes : Writes s e s' d tenantId row row')
    (other : Text) : s'.rows.find? other = if other = tenantId then some row' else s.rows.find? other := by
  rw [writes.rows, Keyed.find?_put]

theorem fenceOf_step {s : Billing} (moved : s.step e = some s') {tenantId : Text}
    (same : s'.subscriptionOf tenantId = s.subscriptionOf tenantId) :
    ∀ fence ∈ s.fenceOf tenantId, ∃ fence' ∈ s'.fenceOf tenantId, fence ≤ fence' := by
  intro fence stored
  rcases step_cases moved with ⟨rows, -, -⟩ | ⟨d, written, row, row', writes⟩
  · refine ⟨fence, ?_, le_refl _⟩
    rw [fenceOf, rows]
    exact stored
  · by_cases here : tenantId = written
    · subst here
      rw [subscriptionOf, subscriptionOf, writes.find?, if_pos rfl, writes.stored] at same
      rw [fenceOf, writes.stored] at stored
      rw [fenceOf, writes.find?, if_pos rfl]
      exact fence_le_of_judgeRow writes.judged (Option.some.inj same) fence stored
    · refine ⟨fence, ?_, le_refl _⟩
      rw [fenceOf, writes.find?, if_neg here]
      exact stored

/-- Along a run on which the workspace keeps its subscription. -/
theorem fenceOf_run {subscription : Option (Option Text)} {steps : List BillingStep} {s : Billing}
    (ran : system.runWithin (fun s _ => s.subscriptionOf tenantId = subscription) s steps = some s')
    (last : s'.subscriptionOf tenantId = subscription) :
    ∀ fence ∈ s.fenceOf tenantId, ∃ fence' ∈ s'.fenceOf tenantId, fence ≤ fence' := by
  induction steps generalizing s with
  | nil =>
    cases ran
    exact fun fence stored => ⟨fence, stored, le_refl _⟩
  | cons e steps ih =>
    intro fence stored
    obtain ⟨first, ran⟩ := Option.ite_none_right_eq_some.mp ran
    obtain ⟨next, moved, ran⟩ := Option.bind_eq_some_iff.mp ran
    have kept : next.subscriptionOf tenantId = subscription := by
      cases steps with
      | nil =>
        cases ran
        exact last
      | cons e' steps => exact (Option.ite_none_right_eq_some.mp ran).1
    obtain ⟨middle, stored, before⟩ := fenceOf_step moved (kept.trans first.symm) fence stored
    obtain ⟨fence', stored, after⟩ := ih ran middle stored
    exact ⟨fence', stored, before.trans after⟩

/-- Only the commit of a delivery changes a row, and it is logged under its event. -/
theorem change_of_step {s : Billing} (moved : s.step e = some s') {tenantId : Text}
    (changed : s'.rows.find? tenantId ≠ s.rows.find? tenantId) :
    ∃ id d, e = .settle id ∧ s.deliveries.find? id = some d ∧ s'.changes = (d.event.id, tenantId) :: s.changes := by
  rcases step_cases moved with ⟨rows, -, -⟩ | ⟨d, written, row, row', writes⟩
  · exact absurd (by rw [rows]) changed
  · obtain ⟨id, rfl, found, -⟩ := writes.settled
    have here : tenantId = written := by
      by_contra elsewhere
      exact changed (by rw [writes.find?, if_neg elsewhere])
    exact ⟨id, d, rfl, (find?_of_at? found).1, here ▸ writes.changes⟩

/-- A commit that may not update leaves the rows. -/
theorem kept_of_not_mayUpdate {s : Billing} {id : ℕ} {d : Delivery} (found : s.deliveries.find? id = some d)
    (moved : s.step (.settle id) = some s') (event : d.event.type.isSubscription) {tenantId : Text}
    {row : Subscription} (stored : s.rows.find? tenantId = some row)
    (refused : d.event.type.isSubscriptionState → PassesRevision d row →
      mayUpdate d (d.stateObj.id.getD []) row = false) :
    s'.rows.find? tenantId = some row := by
  rcases step_cases moved with ⟨rows, -, -⟩ | ⟨d', written, row₁, row', writes⟩
  · rw [rows, stored]
  · obtain ⟨id', same, found', -⟩ := writes.settled
    cases same
    obtain rfl := Option.some.inj (found.symm.trans (find?_of_at? found').1)
    rw [writes.find?]
    split
    · rename_i here
      subst here
      obtain rfl := Option.some.inj (stored.symm.trans writes.stored)
      rcases judgeRow_cases writes.judged with ⟨checkout, -⟩ | ⟨state, ⟨current, may⟩, -⟩
      · rw [checkout] at event
        cases event
      · rw [refused state current] at may
        cases may
    · exact stored

/-! ## Samples -/

/-- A subscription of one customer. -/
def sampleObject (id status : Text) : StripeObject :=
  { id := some id, customer := some "cus_1", status := some status, subscription := none
    clientReferenceId := none, tenantId := none, planId := none, priceId := none, cancelAtPeriodEnd := false
    itemPeriodStart := none, itemPeriodEnd := none, currentPeriodStart := none, currentPeriodEnd := none }

/-- The session of a completed checkout. -/
def sampleSession (subscription : Text) : StripeObject :=
  { sampleObject "cs_1" [] with
    status := none, subscription := some subscription, clientReferenceId := some "acme" }

/-- A workspace of that customer and no delivery yet. -/
def sampleBilling (subscription : Option Text) (status : SubscriptionStatus) : Billing where
  clock := 0
  tenants := ["acme"]
  plans := []
  rows := ⟨[("acme",
    { planId := "basic", stripeCustomerId := some "cus_1", stripeSubscriptionId := subscription
      status, currentPeriodStart := 0, currentPeriodEnd := none, stripeLastEventCreatedAt := none
      stripeStateRevision := 0, cancelAtPeriodEnd := false, checkoutStatus := .none, checkoutPlanId := none
      checkoutIdempotencyKey := none, checkoutRequestParams := none, checkoutIntentCreatedAt := none
      checkoutSessionId := none, checkoutSessionUrl := none, checkoutSessionExpiresAt := none
      billingOperationId := none, billingOperationType := none, billingOperationIdempotencyKey := none
      billingOperationSubscriptionId := none, entitlementBlocked := false
      entitlementBlockedReason := none, updatedAt := 0 })], by simp⟩
  events := .empty
  deliveries := .empty
  changes := []
  bindings := []

/-- The steps of a delivery up to its commit. -/
def sampleDelivery (id : ℕ) (event : StripeEvent) (answer : Option StripeObject) : List BillingStep :=
  [.receive id event, .read id] ++ (answer.toList.map fun object => .fetch id (some object)) ++
    [.claim id, .identify id]

/-- An event changes the row of a workspace at most once, however often it is delivered; the time of
the last event does not go back while the workspace keeps its subscription; and a subscription event
that is not a deletion changes nothing when it is older than that time. -/
theorem webhook_once_and_fenced (s : Billing) (reached : system.Reachable s) : (s.changes.map Prod.fst).Nodup ∧
    (∀ e s', s.step e = some s' → ∀ tenantId, s'.rows.find? tenantId ≠ s.rows.find? tenantId →
      ∃ id d, e = .settle id ∧ s.deliveries.find? id = some d ∧ s'.changes = (d.event.id, tenantId) :: s.changes) ∧
    (∀ tenantId subscription steps s',
      system.runWithin (fun s _ => s.subscriptionOf tenantId = subscription) s steps = some s' →
      s'.subscriptionOf tenantId = subscription →
      ∀ fence ∈ s.fenceOf tenantId, ∃ fence' ∈ s'.fenceOf tenantId, fence ≤ fence') ∧
    (∀ id d s', s.deliveries.find? id = some d → s.step (.settle id) = some s' →
      d.event.type.isSubscription → d.event.type ≠ .subscriptionDeleted →
      ∀ tenantId row fence, s.rows.find? tenantId = some row →
        row.stripeLastEventCreatedAt = some fence → d.event.createdAt < fence →
        s'.rows.find? tenantId = some row) := by
  refine ⟨(Consistent.of_reaches reached).once, fun e s' moved tenantId changed => ?_,
    fun tenantId subscription steps s' ran last => fenceOf_run ran last, ?_⟩
  · exact change_of_step moved changed
  · intro id d s' found moved event kept tenantId row fence stored fenced older
    exact kept_of_not_mayUpdate found moved event stored fun _ _ => mayUpdate_of_older fenced older kept

/-- An event delivered twice and an older one after it: one change, and the fence of the first. -/
theorem webhook_once_and_fenced_duplicate : ∃ s : Billing, (s.changes.length = 1 ∧ s.fenceOf "acme" = some 200000) ∧
      (s.changes.map Prod.fst).Nodup := by
  let updated (id : Text) (created : ℕ) : StripeEvent :=
    ⟨id, .subscriptionUpdated, created, sampleObject "sub_A" "active"⟩
  let answer := some (sampleObject "sub_A" "active")
  let steps := sampleDelivery 0 (updated "evt_1" 200) answer ++ [.settle 0] ++ [.receive 1 (updated "evt_1" 200)] ++
    sampleDelivery 2 (updated "evt_2" 100) none ++ [.settle 2]
  have ran : (system.run (sampleBilling (some "sub_A") .active) steps).any
      (fun s => s.changes.length = 1 ∧ s.fenceOf "acme" = some 200000) = true := by
    decide +kernel
  obtain ⟨s, executed, counts⟩ := (Option.any_eq_true _ _).mp ran
  have reached : system.Reachable s := System.Reaches.run (s := sampleBilling (some "sub_A") .active)
    (.init ⟨rfl, rfl, rfl⟩) steps executed
  exact ⟨s, of_decide_eq_true counts, (webhook_once_and_fenced s reached).1⟩

/-! ## Late events of an old subscription -/

/-- A subscription event from before a completed checkout of another subscription. -/
def IsLate (d : Delivery) (binding : CheckoutBinding) : Prop :=
  d.event.type.isSubscription = true ∧ d.event.createdAt < binding.createdAt ∧
    ∃ subscriptionId ∈ d.event.object.id, subscriptionId ≠ binding.subscriptionId

instance (d : Delivery) (binding : CheckoutBinding) : Decidable (IsLate d binding) :=
  inferInstanceAs (Decidable (_ ∧ _ ∧ ∃ subscriptionId ∈ d.event.object.id, _))

/-- A late event that no revision check stops, such as a deletion, finds the workspace bound to another subscription,
and the row is not terminal or its last event is not older. -/
def FencedAgainstLate (s : Billing) : BillingStep → Prop
  | .settle id => ∀ d ∈ s.deliveries.find? id, ∀ binding ∈ s.bindings, IsLate d binding →
      ∀ row ∈ s.rows.find? binding.tenantId, PassesRevision d row →
        (∃ bound ∈ filled row.stripeSubscriptionId, some bound ≠ d.event.object.id) ∧
        (row.status.isTerminal → ∃ fence ∈ row.stripeLastEventCreatedAt, d.event.createdAt ≤ fence)
  | _ => True

instance (s : Billing) (e : BillingStep) : Decidable (FencedAgainstLate s e) :=
  match e with
  | .settle id => inferInstanceAs (Decidable (∀ d ∈ s.deliveries.find? id, ∀ binding ∈ s.bindings,
      IsLate d binding → ∀ row ∈ s.rows.find? binding.tenantId, PassesRevision d row →
        (∃ bound ∈ filled row.stripeSubscriptionId, some bound ≠ d.event.object.id) ∧
        (row.status.isTerminal → ∃ fence ∈ row.stripeLastEventCreatedAt, d.event.createdAt ≤ fence)))
  | .tick _ | .setPlans _ | .receive _ _ | .read _ | .fetch _ _ | .claim _ | .identify _ | .fail _ =>
    .isTrue trivial

/-- The subscription, the status and the plan of a workspace. -/
def termsOf (s : Billing) (tenantId : Text) : Option (Option Text × SubscriptionStatus × Text) :=
  (s.rows.find? tenantId).map fun row => (row.stripeSubscriptionId, row.status, row.planId)

/-- After a completed checkout has bound a workspace, an earlier event of another subscription changes
neither the subscription nor the status nor the plan. -/
theorem late_event_changes_nothing (s : Billing) (reached : system.Reaches FencedAgainstLate s)
    (id : ℕ) (d : Delivery) (s' : Billing) (found : s.deliveries.find? id = some d)
    (fenced : FencedAgainstLate s (.settle id)) (moved : s.step (.settle id) = some s')
    (binding : CheckoutBinding) (bound : binding ∈ s.bindings) (late : IsLate d binding) :
    s'.termsOf binding.tenantId = s.termsOf binding.tenantId := by
  unfold termsOf
  cases stored : s.rows.find? binding.tenantId with
  | none =>
    have kept : s'.rows.find? binding.tenantId = none := by
      rcases step_cases moved with ⟨rows, -, -⟩ | ⟨d', written, row₁, row', writes⟩
      · rw [rows, stored]
      · have elsewhere : binding.tenantId ≠ written := by
          rintro rfl
          rw [writes.stored] at stored
          cases stored
        rw [writes.find?, if_neg elsewhere, stored]
    rw [kept]
  | some row =>
    have kept : s'.rows.find? binding.tenantId = some row := by
      refine kept_of_not_mayUpdate found moved late.1 stored fun state current => ?_
      obtain ⟨⟨other, named, different⟩, terminal⟩ := fenced d found binding bound late row stored current
      obtain ⟨subscriptionId, about, -⟩ := late.2.2
      have resource := (Consistent.of_reaches reached).resource id d found state
      rw [resource, Option.mem_def.mp about, Option.getD_some]
      exact mayUpdate_of_other named (fun same => different (same ▸ about.symm)) terminal
    rw [kept]

/-- The old subscription is cancelled, a checkout binds the workspace to a new one, and the deletion
of the old one arrives last. -/
def sampleLate (created : ℕ) : List BillingStep :=
  sampleDelivery 1 ⟨"evt_2", .checkoutSessionCompleted, 300, sampleSession "sub_B"⟩
      (some (sampleObject "sub_B" "active")) ++ [.settle 1] ++
    sampleDelivery 2 ⟨"evt_3", .subscriptionDeleted, created, sampleObject "sub_A" "canceled"⟩ none

/-- A trial workspace bound by a checkout keeps its subscription when an old one is deleted. -/
theorem late_event_changes_nothing_trial : ∃ s s' : Billing, s.step (.settle 2) = some s' ∧
      s.subscriptionOf "acme".toList = some (some "sub_B".toList) ∧
      s'.termsOf "acme" = s.termsOf "acme" := by
  have ran : (system.runWithin FencedAgainstLate (sampleBilling none .trialing) (sampleLate 200)).any (fun s =>
      (s.deliveries.find? 2).any fun d => (s.step (.settle 2)).isSome &&
        decide (s.subscriptionOf "acme".toList = some (some "sub_B".toList) ∧
          (⟨"acme", "sub_B", 300000⟩ : CheckoutBinding) ∈ s.bindings ∧
          IsLate d ⟨"acme".toList, "sub_B".toList, 300000⟩ ∧
          FencedAgainstLate s (.settle 2))) = true := by
    decide +kernel
  obtain ⟨s, executed, ran⟩ := (Option.any_eq_true _ _).mp ran
  obtain ⟨d, found, ran⟩ := (Option.any_eq_true _ _).mp ran
  obtain ⟨enabled, ran⟩ := Bool.and_eq_true_iff.mp ran
  obtain ⟨s', moved⟩ := Option.isSome_iff_exists.mp enabled
  obtain ⟨bound, member, late, fenced⟩ := of_decide_eq_true ran
  have reached : system.Reaches FencedAgainstLate s :=
    System.Reaches.runWithin (s := sampleBilling none .trialing) (.init ⟨rfl, rfl, rfl⟩) _ executed
  exact ⟨s, s', moved, bound, late_event_changes_nothing s reached 2 d s' found fenced moved _ member late⟩

/-- The deletion of the old subscription takes the workspace back from the new one. -/
theorem late_event_takes_over : ∃ (s s' : Billing) (d : Delivery) (binding : CheckoutBinding), system.Reachable s ∧
      s.deliveries.find? 2 = some d ∧ s.step (.settle 2) = some s' ∧ binding ∈ s.bindings ∧
      IsLate d binding ∧ s'.termsOf binding.tenantId ≠ s.termsOf binding.tenantId := by
  let steps := sampleDelivery 0 ⟨"evt_1", .subscriptionUpdated, 100, sampleObject "sub_A" "active"⟩
      (some (sampleObject "sub_A" "canceled")) ++ [.settle 0] ++ sampleLate 200
  have ran : (system.run (sampleBilling (some "sub_A") .active) steps).any (fun s =>
      (s.deliveries.find? 2).any fun d => (s.step (.settle 2)).any fun s' => s.bindings.any fun binding =>
        IsLate d binding ∧ s'.termsOf binding.tenantId ≠ s.termsOf binding.tenantId) = true := by
    decide +kernel
  obtain ⟨s, executed, ran⟩ := (Option.any_eq_true _ _).mp ran
  obtain ⟨d, found, ran⟩ := (Option.any_eq_true _ _).mp ran
  obtain ⟨s', moved, ran⟩ := (Option.any_eq_true _ _).mp ran
  obtain ⟨binding, member, ran⟩ := List.any_eq_true.mp ran
  have reached : system.Reachable s := System.Reaches.run (s := sampleBilling (some "sub_A") .active)
    (.init ⟨rfl, rfl, rfl⟩) steps executed
  exact ⟨s, s', d, binding, reached, found, moved, member, of_decide_eq_true ran⟩

end Billing

end PrintGateway.Gateway
