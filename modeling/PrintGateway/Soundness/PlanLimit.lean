import PrintGateway.Soundness.Inventory

/-!
# The plan limit on printers

A page makes a printer count against the plan in three ways: it creates a row, it brings an absent one
back, and it shares a denied one again.  Each id for which this happens is a candidate within the limit.
Every other write of the page leaves the count of a row as it is or takes it away.
-/

namespace PrintGateway.Gateway

open Machine Text

/-- The id is a candidate of the page and within the limit. -/
def WithinPlan (context : PageContext) (printers : List SanitizedPrinter) (id : Text) : Prop :=
  id ∉ context.overLimit ∧ id ∈ printers.filterMap (capacityCandidate context.agentId context.page context.inventory)

theorem countedPrinter_iff {row : StoredPrinter} :
    countedPrinter row = true ↔ row.printer.lifecycle ≠ .retired ∧ row.printer.sharedWithGateway = true ∧
      (row.printer.managementSource ≠ .agent ∨ row.printer.inventoryPresent = true) := by
  simp [countedPrinter, and_assoc]

/-! ### Known printers -/

section Known

variable {context : PageContext} {printers : List SanitizedPrinter} {id : Text}
  {existing row : StoredPrinter} {printer : SanitizedPrinter}

/-- What the first loop keeps of a row that was `existing` when the inventory was read. -/
structure Charged (context : PageContext) (printers : List SanitizedPrinter) (id : Text)
    (existing row : StoredPrinter) : Prop where
  lifecycle : row.printer.lifecycle = existing.printer.lifecycle
  source : row.printer.managementSource = existing.printer.managementSource
  shared : row.printer.lifecycle ≠ .retired → row.printer.sharedWithGateway = true →
    existing.printer.sharedWithGateway = true ∨ WithinPlan context printers id
  counted : countedPrinter row = true → countedPrinter existing = true ∨ WithinPlan context printers id

theorem Charged.refl (context : PageContext) (printers : List SanitizedPrinter) (id : Text)
    (existing : StoredPrinter) : Charged context printers id existing existing :=
  ⟨rfl, rfl, fun _ => .inl, .inl⟩

/-- A denied row that the page shares again. -/
theorem withinPlan_of_shares (found : context.inventory.find? id = some existing)
    (own : existing.agentId = context.agentId) (listed : printer ∈ printers) (same : printer.id = id)
    (live : existing.printer.lifecycle ≠ .retired) (denied : existing.printer.sharedWithGateway = false)
    (shares : context.shares printer existing = true) : WithinPlan context printers id := by
  subst same
  obtain ⟨permitted, within⟩ := Bool.and_eq_true_iff.mp shares
  refine ⟨?_, List.mem_filterMap.mpr ⟨printer, listed, ?_⟩⟩
  · simpa [PageContext.reshareBlocked, denied, permitted] using within
  · simp [capacityCandidate, found, own, live, denied, permitted]

/-- An absent row that the page brings back. -/
theorem withinPlan_of_returns (found : context.inventory.find? id = some existing)
    (own : existing.agentId = context.agentId) (listed : printer ∈ printers) (same : printer.id = id)
    (live : existing.printer.lifecycle ≠ .retired) (shared : existing.printer.sharedWithGateway = true)
    (managed : existing.printer.managementSource = .agent)
    (absent : existing.printer.inventoryPresent = false)
    (returns : context.reactivationBlocked printer existing = false) : WithinPlan context printers id := by
  subst same
  refine ⟨?_, List.mem_filterMap.mpr ⟨printer, listed, ?_⟩⟩
  · simpa [PageContext.reactivationBlocked, shared, managed, live, absent] using returns
  · simp [capacityCandidate, found, own, live, shared, managed, absent]

theorem Charged.observedRow (charged : Charged context printers id existing row)
    (found : context.inventory.find? id = some existing) (own : existing.agentId = context.agentId)
    (listed : printer ∈ printers) (same : printer.id = id) :
    Charged context printers id existing (context.observedRow printer existing row) := by
  have shared : row.printer.lifecycle ≠ .retired →
      (context.observedRow printer existing row).printer.sharedWithGateway = true →
      existing.printer.sharedWithGateway = true ∨ WithinPlan context printers id := by
    intro live shared
    cases denied : existing.printer.sharedWithGateway with
    | true => exact .inl rfl
    | false =>
      rcases Bool.or_eq_true_iff.mp shared with shares | before
      · exact .inr (withinPlan_of_shares found own listed same (charged.lifecycle ▸ live) denied shares)
      · exact .inr ((charged.shared live before).resolve_left (by simp [denied]))
  refine ⟨charged.lifecycle, charged.source, shared, fun counted => ?_⟩
  obtain ⟨live, permitted, placed⟩ := countedPrinter_iff.mp counted
  rcases shared live permitted with before | within
  · have live : existing.printer.lifecycle ≠ .retired := charged.lifecycle ▸ live
    cases present : existing.printer.inventoryPresent with
    | true => exact .inl (countedPrinter_iff.mpr ⟨live, before, .inr present⟩)
    | false =>
      by_cases managed : existing.printer.managementSource = .agent
      · have returns := placed.resolve_left (not_not.mpr (charged.source.trans managed))
        refine .inr (withinPlan_of_returns found own listed same live before managed present ?_)
        simpa [PageContext.observedRow] using returns
      · exact .inl (countedPrinter_iff.mpr ⟨live, before, .inl managed⟩)
  · exact .inr within

/-- The first loop charges no row of the inventory beyond the plan. -/
theorem charged_of_observeKnown {progress : PageProgress} (found : context.inventory.find? id = some existing)
    (current : progress.printers.find? id = some existing) :
    ∃ row, (printers.foldl context.observeKnown progress).printers.find? id = some row ∧
      Charged context printers id existing row := by
  obtain ⟨row, after, -, charged⟩ := foldl_keeps
    (fun progress : PageProgress => ∃ row, progress.printers.find? id = some row ∧
      ObservedFrom context printers id existing row ∧ Charged context printers id existing row)
    ⟨existing, current, .refl .., .refl ..⟩ (by
      rintro progress printer listed ⟨row, current, observed, charged⟩
      rcases observeKnown_row printer found current observed with ⟨kept, -⟩ | ⟨assigned, same, own⟩
      · exact ⟨row, kept, observed, charged⟩
      · exact ⟨_, assigned, (observed.observedRow own listed same).1, charged.observedRow found own listed same⟩)
  exact ⟨row, after, charged⟩

end Known

/-! ### New printers -/

/-- The second loop creates rows within the plan only. -/
theorem withinPlan_of_insertUnknown {context : PageContext} {printers : List SanitizedPrinter} {id : Text}
    {progress : PageProgress} (unknown : context.inventory.find? id = none)
    (absent : progress.printers.find? id = none) :
    ∀ row, (printers.foldl context.insertUnknown progress).printers.find? id = some row →
      WithinPlan context printers id := by
  refine foldl_keeps (fun after : PageProgress => ∀ row, after.printers.find? id = some row →
    WithinPlan context printers id) (by simp [absent]) ?_
  intro after printer listed created row found
  unfold PageContext.insertUnknown at found
  split at found
  · exact created row found
  split at found
  · exact created row found
  split at found
  · exact created row found
  next unowned =>
  split at found
  · exact created row found
  next within =>
  split at found
  · by_cases same : printer.id = id
    · subst same
      refine ⟨within, List.mem_filterMap.mpr ⟨printer, listed, ?_⟩⟩
      simp [capacityCandidate, unknown, unowned]
    · rw [Keyed.find?_insert_of_ne _ _ (Ne.symm same)] at found
      exact created row found
  · split at found
    · rw [Keyed.find?_update] at found
      obtain ⟨before, stored, -⟩ := Option.map_eq_some_iff.mp found
      exact created before stored
    · exact created row found

/-! ### Whole pages -/

section Page

variable {call : HeartbeatCall} {page : HeartbeatPage} {columns : SnapshotColumns}
  {printers : PrinterTable} {row : StoredPrinter} {id : Text}

/-- A row counted after the loops was counted before them or is within the plan. -/
theorem counted_after_loops (found : (call.progress page printers).printers.find? id = some row)
    (counted : countedPrinter row = true) :
    (∃ existing, (call.denied page printers).find? id = some existing ∧ countedPrinter existing = true) ∨
      WithinPlan (call.context page printers) (call.observed page printers) id := by
  cases known : (call.denied page printers).find? id with
  | some existing =>
    rw [HeartbeatCall.progress, insertUnknown_known known] at found
    obtain ⟨seen, after, charged⟩ := @charged_of_observeKnown (call.context page printers)
      (call.observed page printers) id existing (call.start page printers) known known
    obtain rfl := Option.some.inj (after.symm.trans found)
    exact (charged.counted counted).imp_left fun before => ⟨existing, rfl, before⟩
  | none => exact .inr (withinPlan_of_insertUnknown known (observeKnown_none known) row found)

theorem counted_of_acknowledged {agentId : Text} {ack : DesiredStateAck}
    (counted : countedPrinter (acknowledgeRow agentId id row ack) = true) : countedPrinter row = true := by
  unfold acknowledgeRow at counted
  split at counted
  · split at counted
    · exact counted
    · exact counted
  · exact counted

/-- Acknowledgements and denials make no row count. -/
theorem counted_of_denied (counted : countedPrinter (call.deniedRow page id row) = true) :
    countedPrinter row = true := by
  have acknowledged : countedPrinter (page.desiredStateAcks.foldl (acknowledgeRow call.agentId id) row) = true := by
    unfold HeartbeatCall.deniedRow denyRow at counted
    split at counted
    · simp [countedPrinter_iff] at counted
    · exact counted
  exact foldl_keeps (fun later => countedPrinter later = true → countedPrinter row = true)
    (fun counted => counted)
    (fun _ _ _ before counted => before (counted_of_acknowledged counted)) acknowledged

/-- Absence makes no row count. -/
theorem counted_of_final (counted : countedPrinter (call.finalRow page columns printers row) = true) :
    countedPrinter row = true := by
  unfold HeartbeatCall.finalRow at counted
  split at counted
  · unfold absentRow at counted
    split at counted
    next matched => simp [countedPrinter_iff, matched.2.1] at counted
    · exact counted
  · exact counted

theorem count_denied_le : (call.denied page printers).count countedPrinter ≤ printers.count countedPrinter := by
  refine @Keyed.count_le_add_length _ _ _ _ _ _ [] fun id row found counted => .inl ?_
  rw [find?_denied] at found
  obtain ⟨before, stored, rfl⟩ := Option.map_eq_some_iff.mp found
  exact ⟨before, stored, counted_of_denied counted⟩

/-- The candidates within the limit. -/
theorem mem_take_of_withinPlan {available : ℕ}
    (limit : (call.context page printers).overLimit = (call.capacityCandidateIds page printers).drop available)
    (within : WithinPlan (call.context page printers) (call.observed page printers) id) :
    id ∈ (call.capacityCandidateIds page printers).take available := by
  have candidate : id ∈ call.capacityCandidateIds page printers := by
    rw [HeartbeatCall.capacityCandidateIds, sortUtf16, List.mem_mergeSort, List.mem_eraseDups]
    exact within.2
  rw [← List.take_append_drop available (call.capacityCandidateIds page printers)] at candidate
  exact (List.mem_append.mp candidate).resolve_right (limit ▸ within.1)

/-- The page adds as many counted printers as places are available. -/
theorem count_printersAfter_le (columns : SnapshotColumns) (available : ℕ)
    (limit : (call.context page printers).overLimit = (call.capacityCandidateIds page printers).drop available) :
    (call.printersAfter page columns printers).count countedPrinter ≤
      (call.denied page printers).count countedPrinter + available := by
  refine (Keyed.count_le_add_length fun id row found counted => ?_).trans
    (Nat.add_le_add_left (List.length_take_le available (call.capacityCandidateIds page printers)) _)
  rw [find?_printersAfter] at found
  obtain ⟨seen, stored, rfl⟩ := Option.map_eq_some_iff.mp found
  exact (counted_after_loops stored (counted_of_final counted)).imp_right (mem_take_of_withinPlan limit)

/-- After an accepted page the printers that count are at most the plan's limit or as many as before, and
no more than before while billing is unresolved. -/
theorem printer_limit_kept {s s' : AgentInventory} {reply : HeartbeatReply}
    (accepted : call.process page s = .ok (s', reply)) :
    (∀ limit, call.entitlement = .limit (some limit) →
      s'.printers.count countedPrinter ≤ max limit (s.printers.count countedPrinter)) ∧
    (call.entitlement = .billingError → s'.printers.count countedPrinter ≤ s.printers.count countedPrinter) := by
  unfold HeartbeatCall.process at accepted
  split at accepted
  · simp at accepted
  split at accepted
  swap
  · simp at accepted
  obtain ⟨rfl, -⟩ := Prod.mk.inj (Except.ok.inj accepted)
  have denied : (call.denied page s.printers).count countedPrinter ≤ s.printers.count countedPrinter :=
    count_denied_le
  constructor
  · intro limit plan
    have available : (call.context page s.printers).overLimit = (call.capacityCandidateIds page s.printers).drop
          (limit - (call.denied page s.printers).count countedPrinter) := by
      simp only [HeartbeatCall.context, plan, overLimitIds]
    have added := count_printersAfter_le s.snapshot _ available
    dsimp only
    omega
  · intro blocked
    have none : (call.context page s.printers).overLimit = (call.capacityCandidateIds page s.printers).drop 0 := by
      simp only [HeartbeatCall.context, blocked, overLimitIds, List.drop_zero]
    exact (count_printersAfter_le s.snapshot 0 none).trans denied

end Page

/-- A page with two printers the tenant does not know. -/
def samplePage : HeartbeatPage where
  status := .online
  page := 1
  pageCount := 1
  snapshotId := none
  version := none
  complete := false
  printers := ["c".toList, "d".toList].map fun id =>
    .printer ⟨some id, some id, .absent, .ok ⟨.network, .raw, .online⟩⟩
  privatePrinterIds := []
  gatewayOwnedPrinterIds := []
  keepAlive := []
  desiredStateAcks := []
  positive := by decide
  bounded := by decide
  identified := by decide
  counted := by decide
  denials := by decide
  permissions := by decide

/-- With two printers and a limit of three, one of two new printers is taken. -/
theorem printer_limit_kept_three : ∃ s' reply, (heartbeatCall id "agent" 1 (.limit (some 3))).process samplePage
        sampleInventory.inventory = .ok (s', reply) ∧
      s'.printers.count countedPrinter ≤ max 3 (sampleInventory.inventory.printers.count countedPrinter) := by
  have accepted : ∃ s' reply, (heartbeatCall id "agent" 1 (.limit (some 3))).process samplePage
      sampleInventory.inventory = .ok (s', reply) := ⟨_, _, rfl⟩
  obtain ⟨s', reply, accepted⟩ := accepted
  exact ⟨s', reply, accepted, (printer_limit_kept accepted).1 3 rfl⟩

end PrintGateway.Gateway
