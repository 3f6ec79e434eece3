import PrintGateway.Soundness.InventoryRows
import PrintGateway.Soundness.Lifecycle

/-!
# Runs of heartbeats and declared absence

The heartbeats of one agent, from its registration on, while other agents and the operators write the
rest of the tenant; the agent's own `POST /api/printers` is no heartbeat and not a step here.  A snapshot
spreads over pages; the agent row remembers which pages came, and each printer row which snapshot saw it
last.  A printer becomes absent only on the last page of a complete versioned snapshot that was received
page by page, without a rejected printer, and that never listed it.
-/

namespace PrintGateway.Gateway

open Machine

variable {printers printers' : PrinterTable} {agentId snapshotId : Text} {row' : StoredPrinter}
  {page : HeartbeatPage} {columns : SnapshotColumns} {version : ℕ} {call : HeartbeatCall}

/-- An accepted page with what it listed under stored ids, what it skipped, and the table it left. -/
structure AcceptedPage where
  page : HeartbeatPage
  observed : List SanitizedPrinter
  skipped : List SkippedPrinter
  printers : PrinterTable

variable {recent : List AcceptedPage}

/-- One agent's inventory and the pages accepted so far, oldest first. -/
structure InventoryRun where
  inventory : AgentInventory
  accepted : List AcceptedPage

variable {s s' : InventoryRun}

inductive InventoryEvent
  | heartbeat (now : ℤ) (entitlement : Entitlement) (request : HeartbeatRequest)
  | others (agent : AgentRow) (printers : PrinterTable) (jobs : Keyed Text PrinterJob)

/-- The row of a printer an operator registers for the agent. -/
def RegisteredRow (row : StoredPrinter) : Prop :=
  row.printer.managementSource = .manager ∧ row.printer.sharedWithGateway = true ∧
    row.sharedWithGatewayVersion = none ∧ row.inventorySnapshotId = none

instance (row : StoredPrinter) : Decidable (RegisteredRow row) := inferInstanceAs (Decidable (_ ∧ _))

/-- What other writers leave of a row of the agent: its snapshot and its sharing columns; they may take
over its management, and never give it back. -/
def KeptByOthers (row row' : StoredPrinter) : Prop :=
  row'.agentId = row.agentId ∧ row'.inventorySnapshotId = row.inventorySnapshotId ∧
    row'.printer.sharedWithGateway = row.printer.sharedWithGateway ∧
    row'.sharedWithGatewayVersion = row.sharedWithGatewayVersion ∧
    (row'.printer.managementSource = .agent → row.printer.managementSource = .agent)

instance (row row' : StoredPrinter) : Decidable (KeptByOthers row row') :=
  inferInstanceAs (Decidable (_ ∧ _))

/-- Other writers keep the rows of the agent and add only rows an operator registers. -/
def WrittenByOthers (agentId : Text) (printers printers' : PrinterTable) : Prop :=
  (∀ entry ∈ printers.entries, entry.2.agentId = agentId →
    (printers'.find? entry.1).any (fun row' => KeptByOthers entry.2 row') = true) ∧
  ∀ entry ∈ printers'.entries, entry.2.agentId = agentId →
    (printers.find? entry.1).any (fun row => row.agentId == agentId) = true ∨ RegisteredRow entry.2

instance (agentId : Text) (printers printers' : PrinterTable) :
    Decidable (WrittenByOthers agentId printers printers') :=
  inferInstanceAs (Decidable (_ ∧ _))

/-- The call a heartbeat of the agent makes. -/
def heartbeatCall (sha256 : Text → Text) (agentId : Text) (now : ℤ) (entitlement : Entitlement) :
    HeartbeatCall := ⟨sha256, agentId, now, entitlement⟩

/-- A heartbeat; a rejected one leaves everything as it was. -/
def InventoryRun.heartbeat (call : HeartbeatCall) (request : HeartbeatRequest) (s : InventoryRun) : InventoryRun :=
  match validateHeartbeat request with
  | .error _ => s
  | .ok page =>
    match call.process page s.inventory with
    | .error _ => s
    | .ok (inventory, reply) =>
      { inventory
        accepted := s.accepted ++
          [⟨page, call.observed page s.inventory.printers, reply.skippedPrinters, inventory.printers⟩] }

def InventoryRun.step (sha256 : Text → Text) (agentId : Text) (s : InventoryRun) :
    InventoryEvent → Option InventoryRun
  | .heartbeat now entitlement request =>
    some (s.heartbeat (heartbeatCall sha256 agentId now entitlement) request)
  | .others agent printers jobs =>
    if WrittenByOthers agentId s.inventory.printers printers then
      some { s with inventory := { s.inventory with agent, printers, jobs } }
    else none

/-- The inventory of one agent from its registration on. -/
def inventory (sha256 : Text → Text) (agentId : Text) : System InventoryRun InventoryEvent where
  init s := s.inventory.snapshot = .initial ∧ s.accepted = []
  step := InventoryRun.step sha256 agentId

/-- The log entry of an accepted page. -/
def logEntry (call : HeartbeatCall) (page : HeartbeatPage) (s s' : InventoryRun) : AcceptedPage where
  page := page
  observed := call.observed page s.inventory.printers
  skipped := (call.progress page s.inventory.printers).skipped
  printers := s'.inventory.printers

/-- An accepted page, unpacked. -/
structure Accepted (call : HeartbeatCall) (page : HeartbeatPage) (s s' : InventoryRun) : Prop where
  accepts : s.inventory.snapshot.Accepts page
  snapshot : s'.inventory.snapshot =
    s.inventory.snapshot.after page (call.progress page s.inventory.printers).hadErrors
  printers : s'.inventory.printers = call.printersAfter page s.inventory.snapshot s.inventory.printers
  jobs : s'.inventory.jobs = call.jobsAfter page s.inventory.printers s.inventory.jobs
  logged : s'.accepted = s.accepted ++ [logEntry call page s s']

/-- The inversion lemma of a heartbeat: nothing happened, or its page was accepted. -/
theorem heartbeat_cases (call : HeartbeatCall) (request : HeartbeatRequest) (s : InventoryRun) :
    s.heartbeat call request = s ∨
      ∃ page, validateHeartbeat request = .ok page ∧ Accepted call page s (s.heartbeat call request) := by
  unfold InventoryRun.heartbeat
  split
  · exact .inl rfl
  · rename_i page validated
    split
    · exact .inl rfl
    · rename_i inventory reply processed
      refine .inr ⟨page, validated, ?_⟩
      unfold HeartbeatCall.process at processed
      split at processed
      · cases processed
      · split at processed
        · rename_i accepts
          cases processed
          exact ⟨accepts, rfl, rfl, rfl, rfl⟩
        · cases processed

/-- What other writers leave of a row of the agent. -/
theorem WrittenByOthers.kept {id : Text} {row : StoredPrinter}
    (written : WrittenByOthers agentId printers printers') (found : printers.find? id = some row)
    (own : row.agentId = agentId) : ∃ row', printers'.find? id = some row' ∧ KeptByOthers row row' := by
  obtain ⟨row', found', kept⟩ := (Option.any_eq_true _ _).mp
    (written.1 _ (Keyed.mem_of_find?_eq_some found) own)
  exact ⟨row', found', of_decide_eq_true kept⟩

/-- Where a row of the agent comes from, after other writers. -/
theorem WrittenByOthers.row {id : Text} (written : WrittenByOthers agentId printers printers')
    (found : printers'.find? id = some row') (own : row'.agentId = agentId) :
    (∃ row, printers.find? id = some row ∧ row.agentId = agentId ∧ KeptByOthers row row') ∨ RegisteredRow row' := by
  rcases written.2 _ (Keyed.mem_of_find?_eq_some found) own with before | registered
  · obtain ⟨row, stored, owned⟩ := (Option.any_eq_true _ _).mp before
    have owned : row.agentId = agentId := beq_iff_eq.mp owned
    obtain ⟨row'', found', kept⟩ := written.kept stored owned
    obtain rfl := Option.some.inj (found.symm.trans found')
    exact .inl ⟨row, stored, owned, kept⟩
  · exact .inr registered

/-! ### The retained version -/

theorem version_le_of_allows {version : Option ℕ} {retained page : ℕ}
    (allows : inventoryVersionAllowsPage version retained page = true) :
    retained ≤ version.getD retained := by
  cases version with
  | none => exact le_rfl
  | some version =>
    simp only [inventoryVersionAllowsPage] at allows
    simp only [Option.getD_some]
    split at allows
    · exact (of_decide_eq_true allows).le
    · exact (beq_iff_eq.mp allows).ge

theorem version_after_le (errors : Bool) (accepts : columns.Accepts page) :
    columns.version ≤ (columns.after page errors).version := by
  unfold SnapshotColumns.after
  split
  · exact le_rfl
  · split <;> exact version_le_of_allows accepts.1

/-! ### Snapshots in progress -/

/-- A skip that is no error: the tenant's plan has no room. -/
def OverPlan (skipped : SkippedPrinter) : Prop :=
  skipped.reason = "billing_required" ∨ skipped.reason = "max_printers_exceeded"

/-- The page belongs to the versioned snapshot. -/
structure PageOf (snapshotId : Text) (version pageCount : ℕ) (complete : Bool)
    (accepted : AcceptedPage) : Prop where
  snapshotId : accepted.page.snapshotId = some snapshotId
  version : accepted.page.version = some version
  pageCount : accepted.page.pageCount = pageCount
  complete : accepted.page.complete = complete

/-- The accepted pages end with `recent`, the first `count` pages of the snapshot in order. -/
structure Collected (accepted : List AcceptedPage) (snapshotId : Text) (version pageCount : ℕ)
    (complete : Bool) (count : ℕ) (recent : List AcceptedPage) : Prop where
  suffix : ∃ earlier, accepted = earlier ++ recent
  numbers : recent.map (·.page.page) = List.range' 1 count
  pages : ∀ page ∈ recent, PageOf snapshotId version pageCount complete page

theorem Collected.none (accepted : List AcceptedPage) (snapshotId : Text) (version pageCount : ℕ)
    (complete : Bool) : Collected accepted snapshotId version pageCount complete 0 [] :=
  ⟨⟨accepted, (List.append_nil _).symm⟩, rfl, nofun⟩

/-- The next page extends what was collected. -/
theorem Collected.append {accepted : List AcceptedPage} {pageCount count : ℕ} {complete : Bool}
    {next : AcceptedPage}
    (collected : Collected accepted snapshotId version pageCount complete count recent)
    (number : next.page.page = count + 1) (page : PageOf snapshotId version pageCount complete next) :
    Collected (accepted ++ [next]) snapshotId version pageCount complete (count + 1)
      (recent ++ [next]) := by
  obtain ⟨earlier, rfl⟩ := collected.suffix
  refine ⟨⟨earlier, by rw [List.append_assoc]⟩, ?_, ?_⟩
  · rw [List.map_append, collected.numbers, List.range'_concat, List.map_singleton, number]
    simp [Nat.add_comm]
  · intro other member
    rcases List.mem_append.mp member with member | member
    · exact collected.pages other member
    · exact List.mem_singleton.mp member ▸ page

/-- What the pages listed is stamped with the snapshot, where it is a row the agent manages. -/
def ListedStamped (agentId : Text) (printers : PrinterTable) (snapshotId : Text)
    (recent : List AcceptedPage) : Prop :=
  ∀ page ∈ recent, ∀ printer ∈ page.observed, ∀ row, printers.find? printer.id = some row →
    row.agentId = agentId → row.printer.managementSource = .agent →
    row.inventorySnapshotId = some snapshotId

/-- The pages skipped nothing but for the plan. -/
def PagesClean (recent : List AcceptedPage) : Prop :=
  ∀ page ∈ recent, ∀ skipped ∈ page.skipped, OverPlan skipped

/-- A versioned snapshot in progress is what the accepted pages end with. -/
def SnapshotTracked (agentId : Text) (s : InventoryRun) : Prop :=
  ∀ snapshotId, s.inventory.snapshot.snapshotId = some snapshotId → s.inventory.snapshot.version ≠ 0 →
    ∃ recent, 2 ≤ s.inventory.snapshot.nextPage ∧
      Collected s.accepted snapshotId s.inventory.snapshot.version s.inventory.snapshot.pageCount
        s.inventory.snapshot.complete (s.inventory.snapshot.nextPage - 1) recent ∧
      (s.inventory.snapshot.hadErrors = false → PagesClean recent) ∧
      ListedStamped agentId s.inventory.printers snapshotId recent

/-- The snapshot an accepted versioned page belongs to, up to that page. -/
theorem SnapshotTracked.before (tracked : SnapshotTracked agentId s)
    (accepts : s.inventory.snapshot.Accepts page) (named : page.snapshotId = some snapshotId)
    (versioned : page.version = some version) :
    ∃ recent, Collected s.accepted snapshotId version page.pageCount page.complete (page.page - 1) recent ∧
      (s.inventory.snapshot.priorErrors page = false → PagesClean recent) ∧
      ListedStamped agentId s.inventory.printers snapshotId recent := by
  have nothing : ∀ {P : AcceptedPage → Prop}, ∀ page ∈ ([] : List AcceptedPage), P page :=
    nofun
  by_cases first : page.page = 1
  · rw [first]
    exact ⟨[], .none .., fun _ => nothing, nothing⟩
  · have later : 1 < page.page := by
      have := page.positive
      omega
    obtain ⟨sameId, sameCount, sameNext, sameComplete⟩ := accepts.2 ⟨by rw [named]; rfl, later⟩
    have sameVersion : s.inventory.snapshot.version = version := by
      have allows := accepts.1
      rw [versioned] at allows
      simp only [inventoryVersionAllowsPage, if_neg first, beq_iff_eq] at allows
      exact allows.symm
    have nonzero : s.inventory.snapshot.version ≠ 0 := by
      have := page.counted version versioned
      omega
    obtain ⟨recent, -, collected, clean, stamped⟩ := tracked snapshotId (sameId.trans named) nonzero
    rw [sameVersion, sameCount, sameNext, sameComplete] at collected
    refine ⟨recent, collected, fun prior => clean ?_, stamped⟩
    have : (page.page != 1) = true := by simpa using first
    simpa [SnapshotColumns.priorErrors, this] using prior

/-- A row after a page that names a snapshot: stamped when the page listed it. -/
theorem stamped_of_listed {printer : SanitizedPrinter} {row : StoredPrinter}
    (named : page.snapshotId = some snapshotId) (listed : printer ∈ call.observed page printers)
    (after : (call.printersAfter page columns printers).find? printer.id = some row)
    (own : row.agentId = call.agentId) : row.inventorySnapshotId = some snapshotId := by
  cases before : printers.find? printer.id with
  | none => exact (row_created_by_page before after).snapshotId.trans named
  | some earlier =>
    obtain ⟨existing, seen, -, -, observed, stamped, final⟩ := row_after_page call page columns before
    obtain rfl := Option.some.inj (final.symm.trans after)
    have kept := finalFrom call page columns printers seen
    have owned : existing.agentId = call.agentId :=
      observed.agentId.symm.trans (kept.agentId.symm.trans own)
    refine kept.snapshotId.trans ((stamped ⟨printer, listed, rfl⟩ owned).trans ?_)
    change page.snapshotId.or _ = _
    rw [named]
    rfl

/-- A stamp of the snapshot survives its later pages. -/
theorem stamped_kept {id : Text} {row : StoredPrinter} (named : page.snapshotId = some snapshotId)
    (before : ∀ row, printers.find? id = some row → row.agentId = call.agentId →
      row.printer.managementSource = .agent → row.inventorySnapshotId = some snapshotId)
    (after : (call.printersAfter page columns printers).find? id = some row)
    (own : row.agentId = call.agentId) (managed : row.printer.managementSource = .agent) :
    row.inventorySnapshotId = some snapshotId := by
  cases stored : printers.find? id with
  | none => exact (row_created_by_page stored after).snapshotId.trans named
  | some earlier =>
    obtain ⟨existing, seen, denied, -, observed, -, final⟩ := row_after_page call page columns stored
    obtain rfl := Option.some.inj (final.symm.trans after)
    have kept := finalFrom call page columns printers seen
    have stamped : existing.inventorySnapshotId = some snapshotId := by
      refine denied.place.snapshotId.trans (before earlier stored ?_ ?_)
      · exact denied.place.agentId.symm.trans (observed.agentId.symm.trans (kept.agentId.symm.trans own))
      · exact denied.place.source.symm.trans (observed.source.symm.trans (kept.source.symm.trans managed))
    refine kept.snapshotId.trans ?_
    rcases observed.snapshotId with same | stampedNow
    · exact same.trans stamped
    · refine stampedNow.trans ?_
      change page.snapshotId.or _ = _
      rw [named]
      rfl

/-- An accepted page extends what its snapshot collected. -/
theorem Accepted.collected (accepted : Accepted call page s s') (named : page.snapshotId = some snapshotId)
    (versioned : page.version = some version)
    (collected : Collected s.accepted snapshotId version page.pageCount page.complete (page.page - 1) recent) :
    Collected s'.accepted snapshotId version page.pageCount page.complete page.page
      (recent ++ [logEntry call page s s']) := by
  have positive := page.positive
  have number : (logEntry call page s s').page.page = page.page - 1 + 1 := by
    change page.page = _
    omega
  have extended := collected.append number ⟨named, versioned, rfl, rfl⟩
  rw [← number] at extended
  rw [accepted.logged]
  exact extended

theorem overPlan_of_clean (clean : (call.progress page printers).hadErrors = false) :
    ∀ skipped ∈ (call.progress page printers).skipped, OverPlan skipped := by
  intro skipped member
  have reason := skipped_of_clean clean skipped member
  unfold PageContext.overLimitReason at reason
  unfold OverPlan
  split at reason
  · exact .inl reason
  · exact .inr reason

theorem Accepted.tracked (accepted : Accepted call page s s') (tracked : SnapshotTracked call.agentId s) :
    SnapshotTracked call.agentId s' := by
  intro snapshotId named nonzero
  rw [accepted.snapshot] at named nonzero ⊢
  have allows := accepted.accepts.1
  cases page_id : page.snapshotId with
  | none =>
    -- a page without a snapshot is unversioned, and then no version was ever retained
    have unversioned : page.version = none := by
      by_contra some'
      have := page.identified (Option.isSome_iff_ne_none.mpr some')
      rw [page_id] at this
      cases this
    simp only [SnapshotColumns.after, page_id] at nonzero
    rw [unversioned] at allows
    exact absurd (beq_iff_eq.mp allows) nonzero
  | some pageId =>
    simp only [SnapshotColumns.after, page_id] at named nonzero ⊢
    by_cases final : page.isFinal = true
    · rw [if_pos final] at named
      cases named
    · rw [if_neg final] at named nonzero ⊢
      obtain rfl : pageId = snapshotId := Option.some.inj named
      cases versioned : page.version with
      | none =>
        rw [versioned] at allows nonzero
        exact absurd (beq_iff_eq.mp allows) nonzero
      | some version =>
        obtain ⟨recent, collected, clean, stamped⟩ := tracked.before accepted.accepts page_id versioned
        refine ⟨recent ++ [logEntry call page s s'], ?_, ?_, ?_, ?_⟩
        · exact Nat.succ_le_succ page.positive
        · exact accepted.collected page_id versioned collected
        · intro errors
          obtain ⟨prior, here⟩ := Bool.or_eq_false_iff.mp errors
          intro other member
          rcases List.mem_append.mp member with member | member
          · exact clean prior other member
          · obtain rfl := List.mem_singleton.mp member
            exact overPlan_of_clean here
        · intro other member printer listed row found own managed
          rw [accepted.printers] at found
          rcases List.mem_append.mp member with member | member
          · exact stamped_kept page_id
              (fun row found own managed => stamped other member printer listed row found own managed)
              found own managed
          · obtain rfl := List.mem_singleton.mp member
            exact stamped_of_listed page_id listed found own

theorem SnapshotTracked.others {agent : AgentRow} {jobs : Keyed Text PrinterJob}
    (tracked : SnapshotTracked agentId s) (written : WrittenByOthers agentId s.inventory.printers printers) :
    SnapshotTracked agentId { s with inventory := { s.inventory with agent, printers, jobs } } := by
  intro snapshotId named nonzero
  obtain ⟨recent, started, collected, clean, stamped⟩ := tracked snapshotId named nonzero
  refine ⟨recent, started, collected, clean, ?_⟩
  intro page member printer listed row' found own managed
  rcases written.row found own with ⟨row, before, owned, -, sameId, -, -, source⟩ | ⟨registered, -⟩
  · exact sameId.trans (stamped page member printer listed row before owned (source managed))
  · cases managed.symm.trans registered

theorem snapshotTracked_of_reachable {sha256 : Text → Text}
    (reachable : (inventory sha256 agentId).Reachable s) : SnapshotTracked agentId s := by
  refine reachable.invariant ?_ ?_
  · rintro s ⟨initial, -⟩ snapshotId named
    rw [initial] at named
    cases named
  · intro s event s' tracked _ step
    cases event with
    | heartbeat now entitlement request =>
      cases step
      rcases heartbeat_cases (heartbeatCall sha256 agentId now entitlement) request s with
        same | ⟨page, -, accepted⟩
      · rwa [same]
      · exact accepted.tracked tracked
    | others agent printers jobs =>
      obtain ⟨written, same⟩ := Option.ite_none_right_eq_some.mp step
      cases same
      exact tracked.others written

/-! ### Absence -/

/-- A complete versioned snapshot that the accepted pages end with: every page in order, nothing
skipped but for the plan, and `id` never listed. -/
structure ReportedWithout (accepted : List AcceptedPage) (snapshotId : Text) (version pageCount : ℕ)
    (id : Text) (recent : List AcceptedPage) : Prop where
  collected : Collected accepted snapshotId version pageCount true pageCount recent
  clean : PagesClean recent
  unlisted : ∀ page ∈ recent, ∀ printer ∈ page.observed, printer.id ≠ id

/-- A page that makes a printer absent ends a complete snapshot without it. -/
theorem Accepted.absent {id : Text} {row : StoredPrinter} (accepted : Accepted call page s s')
    (tracked : SnapshotTracked call.agentId s) (before : s.inventory.printers.find? id = some row)
    (after : s'.inventory.printers.find? id = some row') (present : row.printer.inventoryPresent = true)
    (absent : row'.printer.inventoryPresent = false) :
    row.agentId = call.agentId ∧ page.page = page.pageCount ∧ ∃ snapshotId version recent,
        ReportedWithout s'.accepted snapshotId version page.pageCount id recent := by
  rw [accepted.printers] at after
  obtain ⟨existing, seen, denied, -, observed, stampedHere, final⟩ :=
    row_after_page call page s.inventory.snapshot before
  obtain rfl := Option.some.inj (final.symm.trans after)
  obtain ⟨snapshotId, reconciled, own, managed, unstamped⟩ :=
    (finalFrom call page s.inventory.snapshot s.inventory.printers seen).absent
      (observed.present (denied.place.present.trans present)) absent
  obtain ⟨named, isVersioned, last, complete, prior, clean⟩ := reconciledSnapshot_eq reconciled
  obtain ⟨version, versioned⟩ := Option.isSome_iff_exists.mp isVersioned
  have last : page.page = page.pageCount := beq_iff_eq.mp last
  have owned : row.agentId = call.agentId :=
    denied.place.agentId.symm.trans (observed.agentId.symm.trans own)
  obtain ⟨recent, collected, priorClean, stamped⟩ := tracked.before accepted.accepts named versioned
  refine ⟨owned, last, snapshotId, version, recent ++ [logEntry call page s s'], ?_, ?_, ?_⟩
  · have extended := accepted.collected named versioned collected
    rwa [complete, last] at extended
  · intro other member
    rcases List.mem_append.mp member with member | member
    · exact priorClean prior other member
    · obtain rfl := List.mem_singleton.mp member
      exact overPlan_of_clean clean
  · -- a listed row carries the stamp of the snapshot, which the absent one does not
    intro other member printer listed equal
    refine unstamped ?_
    rcases List.mem_append.mp member with member | member
    · have earlier := stamped other member printer listed row (equal ▸ before) owned
        (denied.place.source.symm.trans (observed.source.symm.trans managed))
      rcases observed.snapshotId with same | stampedNow
      · exact same.trans (denied.place.snapshotId.trans earlier)
      · refine stampedNow.trans ?_
        change page.snapshotId.or _ = _
        rw [named]
        rfl
    · obtain rfl := List.mem_singleton.mp member
      refine (stampedHere ⟨printer, listed, equal⟩ (observed.agentId.symm.trans own)).trans ?_
      change page.snapshotId.or _ = _
      rw [named]
      rfl

/-- Over every run of an agent's heartbeats the retained version never decreases, and a heartbeat makes
a printer absent only as the last page of a complete snapshot whose pages were all accepted, in order
and under one version, without an error, and did not list it. -/
theorem absence_needs_complete_snapshot (sha256 : Text → Text) (agentId : Text) {s s' : InventoryRun}
    {event : InventoryEvent} (reachable : (inventory sha256 agentId).Reachable s)
    (step : (inventory sha256 agentId).step s event = some s') :
    s.inventory.snapshot.version ≤ s'.inventory.snapshot.version ∧
      ∀ now entitlement request, event = .heartbeat now entitlement request →
        ∀ id row row', s.inventory.printers.find? id = some row → s'.inventory.printers.find? id = some row' →
          row.printer.inventoryPresent = true → row'.printer.inventoryPresent = false →
          row.agentId = agentId ∧ ∃ page, validateHeartbeat request = .ok page ∧
            page.page = page.pageCount ∧ ∃ snapshotId version recent,
              ReportedWithout s'.accepted snapshotId version page.pageCount id recent := by
  have tracked := snapshotTracked_of_reachable reachable
  cases event with
  | heartbeat now entitlement request =>
    cases step
    rcases heartbeat_cases (heartbeatCall sha256 agentId now entitlement) request s with
      same | ⟨page, validated, accepted⟩
    · rw [same]
      refine ⟨le_rfl, ?_⟩
      intro _ _ _ _ id row row' before after present absent
      obtain rfl := Option.some.inj (before.symm.trans after)
      rw [present] at absent
      cases absent
    · constructor
      · rw [accepted.snapshot]
        exact version_after_le _ accepted.accepts
      · intro _ _ _ same id row row' before after present absent
        cases same
        obtain ⟨own, last, complete⟩ := accepted.absent tracked before after present absent
        exact ⟨own, page, validated, last, complete⟩
  | others agent printers jobs =>
    obtain ⟨-, same⟩ := Option.ite_none_right_eq_some.mp step
    cases same
    refine ⟨le_rfl, ?_⟩
    rintro _ _ _ ⟨⟩

/-- A page of a complete snapshot of two pages. -/
def sampleHeartbeat (version : Text) (page : ℤ) (shared denied : List Text) : HeartbeatRequest where
  status := .absent
  heartbeatPage := .value page
  heartbeatPageCount := .value 2
  inventorySnapshotId := .value ("inventory-" ++ version)
  inventorySnapshotVersion := .value version
  inventoryComplete := .value true
  desiredStatePaging := .absent
  printers := shared.map fun id => .printer ⟨some id, some id, .value true, .ok ⟨.network, .raw, .online⟩⟩
  privatePrinterIds := .value (denied.map some)
  gatewayOwnedPrinterIds := []
  keepAliveJobIds := []
  desiredStateAcks := []

/-- An agent with two shared printers and no heartbeat yet. -/
def sampleInventory : InventoryRun where
  inventory :=
    { agent := sampleOwners.agent
      snapshot := .initial
      printers := ⟨[("a", ⟨"agent", sampleOwners.printer, none, none⟩),
        ("b", ⟨"agent", sampleOwners.printer, none, none⟩)], by decide⟩
      jobs := .empty }
  accepted := []

/-- The first page lists one printer and the second none. -/
def sampleFirstPage : InventoryRun :=
  sampleInventory.heartbeat (heartbeatCall id "agent" 1 (.limit none))
    (sampleHeartbeat "5" 1 ["a"] [])

def sampleSecondPage : HeartbeatRequest := sampleHeartbeat "5" 2 [] []

theorem absence_needs_complete_snapshot_two_pages : ∃ s' row row', (inventory id "agent").step sampleFirstPage
        (.heartbeat 2 (.limit none) sampleSecondPage) = some s' ∧
      sampleFirstPage.inventory.printers.find? "b" = some row ∧
      s'.inventory.printers.find? "b" = some row' ∧
      row.printer.inventoryPresent = true ∧ row'.printer.inventoryPresent = false ∧
      ∃ page, validateHeartbeat sampleSecondPage = .ok page ∧ page.page = page.pageCount ∧
        ∃ snapshotId version recent, ReportedWithout s'.accepted snapshotId version page.pageCount "b" recent := by
  refine ⟨_, _, _, rfl, rfl, rfl, rfl, rfl, ?_⟩
  exact ((absence_needs_complete_snapshot id "agent"
    (System.Reaches.run (s := sampleInventory) (.init ⟨rfl, rfl⟩)
      [.heartbeat 1 (.limit none) (sampleHeartbeat "5" 1 ["a"] [])] rfl) rfl).2
    2 (.limit none) sampleSecondPage rfl "b" _ _ rfl rfl rfl rfl).2

/-! ### Other agents -/

/-- What an id names for the other agents of the tenant: a printer of theirs, a job of theirs. -/
def AgentInventory.ofOthers (s : AgentInventory) (agentId id : Text) : Option StoredPrinter × Option PrinterJob :=
  ((s.printers.find? id).filter (·.agentId ≠ agentId), (s.jobs.find? id).filter (·.agentId ≠ agentId))

theorem printersAfter_foreign (call : HeartbeatCall) (page : HeartbeatPage) (columns : SnapshotColumns)
    (printers : PrinterTable) (id : Text) :
    ((call.printersAfter page columns printers).find? id).filter (·.agentId ≠ call.agentId) =
      (printers.find? id).filter (·.agentId ≠ call.agentId) := by
  cases found : printers.find? id with
  | none =>
    refine Option.filter_eq_none_iff.mpr fun row after => ?_
    have created : row.agentId = call.agentId := (row_created_by_page found after).agentId
    simpa using created
  | some row =>
    obtain ⟨existing, seen, denied, -, observed, -, after⟩ := row_after_page call page columns found
    have final := finalFrom call page columns printers seen
    have owner := final.agentId.trans (observed.agentId.trans denied.place.agentId)
    rw [after]
    by_cases own : row.agentId = call.agentId
    · rw [Option.filter_some_neg (by simpa using owner.trans own), Option.filter_some_neg (by simpa using own)]
    · obtain rfl := denied.foreign own
      obtain rfl := observed.foreign own
      have kept : call.finalRow page columns printers seen = seen := by
        unfold HeartbeatCall.finalRow
        split
        · exact if_neg fun matched => own matched.1
        · rfl
      rw [kept]

/-- A heartbeat writes nothing of another agent. -/
theorem heartbeat_ofOthers (call : HeartbeatCall) (request : HeartbeatRequest) (s : InventoryRun) (id : Text) :
    (s.heartbeat call request).inventory.ofOthers call.agentId id = s.inventory.ofOthers call.agentId id := by
  rcases heartbeat_cases call request s with same | ⟨page, -, accepted⟩
  · rw [same]
  · unfold AgentInventory.ofOthers
    rw [accepted.printers, printersAfter_foreign, accepted.jobs, HeartbeatCall.jobsAfter, Keyed.find?_update]
    cases s.inventory.jobs.find? id with
    | none => rfl
    | some job => by_cases own : job.agentId = call.agentId <;> simp [HeartbeatCall.jobAfter, own, Option.filter_some]

/-- Whatever heartbeats an agent sends, the printers and jobs of the other agents stay as they are, and it
adds none to them. -/
theorem heartbeats_keep_other_agents (sha256 : Text → Text) (agentId id : Text) (s : InventoryRun)
    (beats : List (ℤ × Entitlement × HeartbeatRequest)) :
    (beats.foldl (fun s beat => s.heartbeat (heartbeatCall sha256 agentId beat.1 beat.2.1) beat.2.2)
      s).inventory.ofOthers agentId id = s.inventory.ofOthers agentId id :=
  foldl_keeps (fun s' : InventoryRun => s'.inventory.ofOthers agentId id = _) rfl fun _ _ _ kept =>
    (heartbeat_ofOthers _ _ _ id).trans kept

end PrintGateway.Gateway
