import PrintGateway.Model.Gateway.Inventory

/-!
# What a page does to one printer row

The loops of a heartbeat read the inventory once and write rows one after the other.  The lemmas here
follow the row under one id through the phases of a page; everything proved about runs of heartbeats
rests on `row_after_page` and `row_created_by_page`.
-/

namespace PrintGateway.Gateway

open Machine

/-! ### Acknowledgements and denials -/

variable {second first third row existing : StoredPrinter} {context : PageContext}
  {printers : List SanitizedPrinter} {id snapshotId : Text} {progress : PageProgress}
  {call : HeartbeatCall} {page : HeartbeatPage} {columns : SnapshotColumns}

/-- The columns that place a row in the inventory, sharing apart. -/
structure SamePlace (row row' : StoredPrinter) : Prop where
  agentId : row'.agentId = row.agentId
  snapshotId : row'.inventorySnapshotId = row.inventorySnapshotId
  present : row'.printer.inventoryPresent = row.printer.inventoryPresent
  source : row'.printer.managementSource = row.printer.managementSource

/-- The sharing columns of two rows agree. -/
structure SameSharing (row row' : StoredPrinter) : Prop where
  shared : row'.printer.sharedWithGateway = row.printer.sharedWithGateway
  version : row'.sharedWithGatewayVersion = row.sharedWithGatewayVersion

theorem SamePlace.refl (row : StoredPrinter) : SamePlace row row := ⟨rfl, rfl, rfl, rfl⟩

theorem SamePlace.trans (left : SamePlace first second) (right : SamePlace second third) : SamePlace first third where
  agentId := right.agentId.trans left.agentId
  snapshotId := right.snapshotId.trans left.snapshotId
  present := right.present.trans left.present
  source := right.source.trans left.source

theorem SameSharing.refl (row : StoredPrinter) : SameSharing row row := ⟨rfl, rfl⟩

theorem SameSharing.trans (left : SameSharing first second) (right : SameSharing second third) :
    SameSharing first third where
  shared := right.shared.trans left.shared
  version := right.version.trans left.version

/-- An acknowledgement changes revisions only, and no row of another agent. -/
theorem acknowledgeRow_same (agentId id : Text) (row : StoredPrinter) (ack : DesiredStateAck) :
    SamePlace row (acknowledgeRow agentId id row ack) ∧ SameSharing row (acknowledgeRow agentId id row ack) ∧
      (row.agentId ≠ agentId → acknowledgeRow agentId id row ack = row) := by
  unfold acknowledgeRow
  split
  · split
    · rename_i matched
      exact ⟨⟨rfl, rfl, rfl, rfl⟩, ⟨rfl, rfl⟩, fun foreign => absurd matched.2.1 foreign⟩
    · exact ⟨.refl row, .refl row, fun _ => rfl⟩
  · exact ⟨.refl row, .refl row, fun _ => rfl⟩

theorem acknowledgeRows_same (agentId id : Text) (row : StoredPrinter) (acks : List DesiredStateAck) :
    SamePlace row (acks.foldl (acknowledgeRow agentId id) row) ∧
      SameSharing row (acks.foldl (acknowledgeRow agentId id) row) ∧
      (row.agentId ≠ agentId → acks.foldl (acknowledgeRow agentId id) row = row) := by
  induction acks generalizing row with
  | nil => exact ⟨.refl row, .refl row, fun _ => rfl⟩
  | cons ack acks ih =>
    obtain ⟨place, sharing, foreign⟩ := acknowledgeRow_same agentId id row ack
    obtain ⟨place', sharing', foreign'⟩ := ih (acknowledgeRow agentId id row ack)
    refine ⟨place.trans place', sharing.trans sharing', fun other => ?_⟩
    exact (foreign' (place.agentId ▸ other)).trans (foreign other)

/-- The effect of acknowledgements and denials on a row. -/
structure DeniedFrom (call : HeartbeatCall) (page : HeartbeatPage) (id : Text)
    (row row' : StoredPrinter) : Prop where
  place : SamePlace row row'
  foreign : row.agentId ≠ call.agentId → row' = row
  allowed : id ∉ page.privatePrinterIds → SameSharing row row'
  denied : row.agentId = call.agentId → id ∈ page.privatePrinterIds →
    (∀ retained ∈ row.sharedWithGatewayVersion, ∃ incoming ∈ page.version, retained ≤ incoming) →
    row'.printer.sharedWithGateway = false ∧ row'.sharedWithGatewayVersion = page.version

theorem deniedFrom (call : HeartbeatCall) (page : HeartbeatPage) (id : Text) (row : StoredPrinter) :
    DeniedFrom call page id row (call.deniedRow page id row) := by
  unfold HeartbeatCall.deniedRow
  obtain ⟨place, sharing, foreign⟩ := acknowledgeRows_same call.agentId id row page.desiredStateAcks
  generalize page.desiredStateAcks.foldl (acknowledgeRow call.agentId id) row = acked at *
  unfold denyRow
  split
  · rename_i matched
    refine ⟨⟨place.agentId, place.snapshotId, place.present, place.source⟩, ?_, ?_, ?_⟩
    · intro other
      exact absurd (place.agentId.symm.trans matched.1) other
    · intro allowed
      exact absurd matched.2.1 allowed
    · exact fun _ _ _ => ⟨rfl, rfl⟩
  · rename_i missed
    refine ⟨place, foreign, fun _ => sharing, fun own listed older => ?_⟩
    refine absurd ⟨place.agentId.trans own, listed, ?_⟩ missed
    rw [sharing.version, Option.all_eq_true]
    intro retained stored
    obtain ⟨incoming, versioned, le⟩ := older retained stored
    exact (Option.any_eq_true _ _).mpr ⟨incoming, versioned, by simpa using le⟩

theorem find?_denied (call : HeartbeatCall) (page : HeartbeatPage) (printers : PrinterTable) (id : Text) :
    (call.denied page printers).find? id = (printers.find? id).map (call.deniedRow page id) :=
  Keyed.find?_update _ _ _

/-! ### Observations of known printers -/

/-- What the first loop may make of a row that was `existing` when the inventory was read. -/
structure ObservedFrom (context : PageContext) (printers : List SanitizedPrinter) (id : Text)
    (existing row : StoredPrinter) : Prop where
  agentId : row.agentId = existing.agentId
  source : row.printer.managementSource = existing.printer.managementSource
  foreign : existing.agentId ≠ context.agentId → row = existing
  snapshotId : row.inventorySnapshotId = existing.inventorySnapshotId ∨
    row.inventorySnapshotId = context.page.snapshotId.or existing.inventorySnapshotId
  present : existing.printer.inventoryPresent = true → row.printer.inventoryPresent = true
  sharing : SameSharing existing row ∨
    (row.printer.sharedWithGateway = true ∧ row.sharedWithGatewayVersion = context.page.version ∧
      ∃ printer ∈ printers, printer.id = id ∧ mayUpdateSharing context.page.version printer existing = true)

theorem ObservedFrom.refl (context : PageContext) (printers : List SanitizedPrinter) (id : Text)
    (existing : StoredPrinter) : ObservedFrom context printers id existing existing :=
  ⟨rfl, rfl, fun _ => rfl, .inl rfl, fun present => present, .inl (.refl existing)⟩

/-- The stamp a listed row ends with. -/
def Stamped (context : PageContext) (existing row : StoredPrinter) : Prop :=
  row.inventorySnapshotId = context.page.snapshotId.or existing.inventorySnapshotId

theorem or_or_self (first second : Option Text) : first.or (first.or second) = first.or second := by
  cases first <;> rfl

/-- One assignment of the first loop. -/
theorem ObservedFrom.observedRow {printer : SanitizedPrinter}
    (observed : ObservedFrom context printers id existing row) (own : existing.agentId = context.agentId)
    (listed : printer ∈ printers) (same : printer.id = id) :
    ObservedFrom context printers id existing (context.observedRow printer existing row) ∧
      Stamped context existing (context.observedRow printer existing row) := by
  have stamped : Stamped context existing (context.observedRow printer existing row) := by
    unfold Stamped PageContext.observedRow
    rcases observed.snapshotId with kept | stamped
    · rw [kept]
    · rw [stamped]
      exact or_or_self _ _
  refine ⟨⟨observed.agentId, observed.source, fun foreign => absurd own foreign, .inr stamped, ?_, ?_⟩, stamped⟩
  · intro present
    simp [PageContext.observedRow, PageContext.reactivationBlocked, present]
  · by_cases shares : context.shares printer existing = true
    · refine .inr ⟨?_, ?_, printer, listed, same, (Bool.and_eq_true_iff.mp shares).1⟩
      · simp [PageContext.observedRow, shares]
      · simp [PageContext.observedRow, shares]
    · rcases observed.sharing with kept | ⟨shared, version, permitted⟩
      · exact .inl ⟨by simpa [PageContext.observedRow, shares] using kept.shared,
          by simpa [PageContext.observedRow, shares] using kept.version⟩
      · exact .inr ⟨by simpa [PageContext.observedRow, shares] using shared,
          by simpa [PageContext.observedRow, shares] using version, permitted⟩

/-- One turn of the first loop, as the row under `id` sees it. -/
theorem observeKnown_row (printer : SanitizedPrinter) (found : context.inventory.find? id = some existing)
    (current : progress.printers.find? id = some row)
    (observed : ObservedFrom context printers id existing row) :
    ((context.observeKnown progress printer).printers.find? id = some row ∧
        (printer.id = id → existing.agentId ≠ context.agentId)) ∨
      ((context.observeKnown progress printer).printers.find? id = some (context.observedRow printer existing row) ∧
        printer.id = id ∧ existing.agentId = context.agentId) := by
  unfold PageContext.observeKnown
  by_cases same : printer.id = id
  · rw [same, found]
    dsimp only
    by_cases own : existing.agentId = context.agentId
    · rw [if_neg (not_not.mpr own), Keyed.find?_update, current]
      refine .inr ⟨congrArg some (if_pos ⟨rfl, ?_, ?_⟩), rfl, own⟩
      · exact observed.agentId.trans own
      · exact observed.source
    · rw [if_pos own]
      exact .inl ⟨current, fun _ => own⟩
  · refine .inl ⟨?_, fun equal => absurd equal same⟩
    split
    · exact current
    · split
      · exact current
      · rw [Keyed.find?_update, current]
        exact congrArg some (if_neg fun matched => same matched.1.symm)

/-- The first loop, as a row of the inventory sees it; a listed row of the agent is stamped. -/
theorem observeKnown_fold (printers : List SanitizedPrinter) {id : Text} {existing : StoredPrinter}
    {progress : PageProgress} (found : context.inventory.find? id = some existing)
    (current : progress.printers.find? id = some existing) :
    ∃ row, (printers.foldl context.observeKnown progress).printers.find? id = some row ∧
      ObservedFrom context printers id existing row ∧
      ((∃ printer ∈ printers, printer.id = id) → existing.agentId = context.agentId →
        Stamped context existing row) := by
  have start : ∃ row, progress.printers.find? id = some row ∧
      ObservedFrom context printers id existing row := ⟨existing, current, .refl ..⟩
  have keep : ∀ progress : PageProgress, ∀ printer ∈ printers,
      (∃ row, progress.printers.find? id = some row ∧ ObservedFrom context printers id existing row) →
      ∃ row, (context.observeKnown progress printer).printers.find? id = some row ∧
        ObservedFrom context printers id existing row := by
    rintro progress printer listed ⟨row, current, observed⟩
    rcases observeKnown_row printer found current observed with ⟨same, -⟩ | ⟨assigned, equal, own⟩
    · exact ⟨row, same, observed⟩
    · exact ⟨_, assigned, (observed.observedRow own listed equal).1⟩
  obtain ⟨row, final, observed⟩ := foldl_keeps
    (fun progress : PageProgress => ∃ row, progress.printers.find? id = some row ∧
      ObservedFrom context printers id existing row) start keep
  refine ⟨row, final, observed, ?_⟩
  rintro ⟨printer, listed, equal⟩ own
  have stamped : ∀ row, (printers.foldl context.observeKnown progress).printers.find? id = some row →
      Stamped context existing row := by
    refine foldl_establishes
      (fun progress : PageProgress => ∃ row, progress.printers.find? id = some row ∧
        ObservedFrom context printers id existing row)
      (fun progress : PageProgress => ∀ row, progress.printers.find? id = some row →
        Stamped context existing row) start keep listed ?_ ?_
    · rintro progress ⟨row, current, observed⟩ row' after
      rcases observeKnown_row printer found current observed with ⟨-, foreign⟩ | ⟨assigned, -, -⟩
      · exact absurd own (foreign equal)
      · obtain rfl := Option.some.inj (assigned.symm.trans after)
        exact (observed.observedRow own listed equal).2
    · rintro progress other member ⟨row, current, observed⟩ stamped row' after
      rcases observeKnown_row other found current observed with ⟨same, -⟩ | ⟨assigned, equal, -⟩
      · exact stamped row' (current.trans (same.symm.trans after))
      · obtain rfl := Option.some.inj (assigned.symm.trans after)
        exact (observed.observedRow own member equal).2
  exact stamped row final

theorem observeKnown_none (absent : progress.printers.find? id = none) :
    (printers.foldl context.observeKnown progress).printers.find? id = none := by
  refine foldl_keeps (fun progress : PageProgress => progress.printers.find? id = none) absent ?_
  intro progress printer _ absent
  unfold PageContext.observeKnown
  split
  · exact absent
  · split
    · exact absent
    · rw [Keyed.find?_update, absent]
      rfl

/-! ### New printers -/

/-- The second loop does not touch a printer of the inventory. -/
theorem insertUnknown_known (found : context.inventory.find? id = some existing) :
    (printers.foldl context.insertUnknown progress).printers.find? id = progress.printers.find? id := by
  refine foldl_keeps (fun after : PageProgress => after.printers.find? id = progress.printers.find? id)
    rfl ?_
  intro after printer _ same
  by_cases equal : printer.id = id
  · have known : (context.inventory.find? printer.id).isSome = true := by rw [equal, found]; rfl
    unfold PageContext.insertUnknown
    rw [if_pos known]
    exact same
  · unfold PageContext.insertUnknown
    repeat' split
    all_goals try exact same
    · exact (Keyed.find?_insert_of_ne _ _ (Ne.symm equal)).trans same
    · rw [Keyed.find?_update, ← same]
      cases after.printers.find? id with
      | none => rfl
      | some row => exact congrArg some (if_neg fun matched => equal matched.1.symm)

/-- The row of a printer that the page saw for the first time. -/
structure CreatedBy (context : PageContext) (printers : List SanitizedPrinter) (id : Text)
    (row : StoredPrinter) : Prop where
  agentId : row.agentId = context.agentId
  snapshotId : row.inventorySnapshotId = context.page.snapshotId
  present : row.printer.inventoryPresent = true
  shared : row.printer.sharedWithGateway = true
  version : ∃ printer ∈ printers, printer.id = id ∧
    row.sharedWithGatewayVersion = if printer.sharedWithGateway then context.page.version else none

theorem insertUnknown_unknown (absent : progress.printers.find? id = none) :
    ∀ row, (printers.foldl context.insertUnknown progress).printers.find? id = some row →
      CreatedBy context printers id row := by
  refine foldl_keeps (fun after : PageProgress => ∀ row, after.printers.find? id = some row →
    CreatedBy context printers id row) (by simp [absent]) ?_
  intro after printer listed created row found
  unfold PageContext.insertUnknown at found
  repeat' split at found
  all_goals try exact created row found
  · rename_i vacant
    by_cases equal : printer.id = id
    · subst equal
      rw [Keyed.find?_insert_self _ vacant] at found
      cases found
      exact ⟨rfl, rfl, rfl, rfl, printer, listed, rfl, rfl⟩
    · rw [Keyed.find?_insert_of_ne _ _ (Ne.symm equal)] at found
      exact created row found
  · rw [Keyed.find?_update] at found
    obtain ⟨before, stored, rfl⟩ := Option.map_eq_some_iff.mp found
    have earlier := created before stored
    split
    · refine ⟨earlier.agentId, ?_, rfl, earlier.shared, earlier.version⟩
      simp only [PageContext.racedRow, earlier.snapshotId]
      cases context.page.snapshotId <;> rfl
    · exact earlier

/-! ### Whole pages -/

/-- The last write to a row: absence, where the page declares it. -/
def HeartbeatCall.finalRow (call : HeartbeatCall) (page : HeartbeatPage) (columns : SnapshotColumns)
    (printers : PrinterTable) (row : StoredPrinter) : StoredPrinter :=
  match call.reconciledSnapshot page columns printers with
  | some snapshotId => absentRow call.agentId snapshotId row
  | none => row

/-- Absence takes a stamped row's presence at most, and only from an agent-managed row of the agent
that the reconciled snapshot did not stamp. -/
structure FinalFrom (call : HeartbeatCall) (page : HeartbeatPage) (columns : SnapshotColumns)
    (printers : PrinterTable) (row row' : StoredPrinter) : Prop where
  agentId : row'.agentId = row.agentId
  source : row'.printer.managementSource = row.printer.managementSource
  snapshotId : row'.inventorySnapshotId = row.inventorySnapshotId
  sharing : SameSharing row row'
  absent : row.printer.inventoryPresent = true → row'.printer.inventoryPresent = false →
    ∃ snapshotId, call.reconciledSnapshot page columns printers = some snapshotId ∧
      row.agentId = call.agentId ∧ row.printer.managementSource = .agent ∧
      row.inventorySnapshotId ≠ some snapshotId

theorem finalFrom (call : HeartbeatCall) (page : HeartbeatPage) (columns : SnapshotColumns)
    (printers : PrinterTable) (row : StoredPrinter) :
    FinalFrom call page columns printers row (call.finalRow page columns printers row) := by
  have same : FinalFrom call page columns printers row row := by
    refine ⟨rfl, rfl, rfl, .refl row, fun present absent => ?_⟩
    rw [present] at absent
    cases absent
  unfold HeartbeatCall.finalRow
  split
  · rename_i snapshotId reconciled
    unfold absentRow
    split
    · rename_i matched
      exact ⟨rfl, rfl, rfl, ⟨rfl, rfl⟩,
        fun _ _ => ⟨snapshotId, reconciled, matched.1, matched.2.1, matched.2.2.2.2.2⟩⟩
    · exact same
  · exact same

theorem find?_printersAfter (call : HeartbeatCall) (page : HeartbeatPage) (columns : SnapshotColumns)
    (printers : PrinterTable) (id : Text) :
    (call.printersAfter page columns printers).find? id =
      ((call.progress page printers).printers.find? id).map (call.finalRow page columns printers) := by
  unfold HeartbeatCall.printersAfter HeartbeatCall.finalRow
  cases call.reconciledSnapshot page columns printers with
  | some snapshotId => exact Keyed.find?_update _ _ _
  | none => exact Option.map_id'.symm

/-- A row of the table through a whole page: denial, observation, absence. -/
theorem row_after_page (call : HeartbeatCall) (page : HeartbeatPage) (columns : SnapshotColumns)
    {printers : PrinterTable} {id : Text} {row : StoredPrinter} (found : printers.find? id = some row) :
    ∃ existing seen, DeniedFrom call page id row existing ∧ (call.denied page printers).find? id = some existing ∧
      ObservedFrom (call.context page printers) (call.observed page printers) id existing seen ∧
      ((∃ printer ∈ call.observed page printers, printer.id = id) → existing.agentId = call.agentId →
        Stamped (call.context page printers) existing seen) ∧
      (call.printersAfter page columns printers).find? id = some (call.finalRow page columns printers seen) := by
  have known : (call.denied page printers).find? id = some (call.deniedRow page id row) := by
    rw [find?_denied, found]
    rfl
  have inventory : (call.context page printers).inventory.find? id = some (call.deniedRow page id row) :=
    known
  have start : (call.start page printers).printers.find? id = some (call.deniedRow page id row) := known
  obtain ⟨seen, after, observed, stamped⟩ :=
    observeKnown_fold (call.observed page printers) inventory start
  refine ⟨_, seen, deniedFrom call page id row, known, observed, stamped, ?_⟩
  rw [find?_printersAfter]
  have progress : (call.progress page printers).printers.find? id = some seen := by
    unfold HeartbeatCall.progress
    rw [insertUnknown_known inventory]
    exact after
  rw [progress]
  rfl

theorem absentRow_of_stamped {agentId : Text} (stamped : row.inventorySnapshotId = some snapshotId) :
    absentRow agentId snapshotId row = row :=
  if_neg fun matched => matched.2.2.2.2.2 stamped

theorem reconciledSnapshot_eq {printers : PrinterTable}
    (reconciled : call.reconciledSnapshot page columns printers = some snapshotId) :
    page.snapshotId = some snapshotId ∧ page.version.isSome = true ∧ page.isFinal = true ∧
      page.complete = true ∧ columns.priorErrors page = false ∧
      (call.progress page printers).hadErrors = false := by
  obtain ⟨⟨version, final, complete, prior, clean⟩, named⟩ := Option.ite_none_right_eq_some.mp reconciled
  exact ⟨named, version, final, complete, prior, clean⟩

/-- A row that appears on a page was created by it, and is present. -/
theorem row_created_by_page {printers : PrinterTable} (absent : printers.find? id = none)
    (after : (call.printersAfter page columns printers).find? id = some row) :
    CreatedBy (call.context page printers) (call.observed page printers) id row := by
  rw [find?_printersAfter] at after
  obtain ⟨created, stored, rfl⟩ := Option.map_eq_some_iff.mp after
  have fresh : CreatedBy (call.context page printers) (call.observed page printers) id created := by
    refine insertUnknown_unknown ?_ created stored
    refine observeKnown_none ?_
    change (call.denied page printers).find? id = none
    rw [find?_denied, absent]
    rfl
  suffices same : call.finalRow page columns printers created = created by rwa [same]
  unfold HeartbeatCall.finalRow
  split
  · rename_i snapshotId reconciled
    exact absentRow_of_stamped (fresh.snapshotId.trans (reconciledSnapshot_eq reconciled).1)
  · rfl

/-- Nothing was skipped but for the tenant's plan, unless an error is recorded. -/
def PageProgress.Clean (context : PageContext) (progress : PageProgress) : Prop :=
  progress.hadErrors = false → ∀ skipped ∈ progress.skipped, skipped.reason = context.overLimitReason

theorem PageProgress.Clean.overLimit {progress' : PageProgress} (clean : progress.Clean context)
    (errors : progress'.hadErrors = progress.hadErrors)
    (skipped : progress'.skipped = progress.skipped ++ [⟨id, context.overLimitReason⟩]) :
    progress'.Clean context := by
  intro none skip member
  rw [skipped, List.mem_append, List.mem_singleton] at member
  rcases member with member | rfl
  · exact clean (errors.symm.trans none) skip member
  · rfl

theorem PageProgress.Clean.observeKnown (clean : progress.Clean context) (printer : SanitizedPrinter) :
    (context.observeKnown progress printer).Clean context := by
  unfold PageContext.observeKnown
  split
  · exact clean
  · split
    · intro none
      cases none
    · dsimp only
      split
      · exact clean.overLimit rfl rfl
      · exact clean

theorem PageProgress.Clean.insertUnknown (clean : progress.Clean context) (printer : SanitizedPrinter) :
    (context.insertUnknown progress printer).Clean context := by
  unfold PageContext.insertUnknown
  repeat' split
  all_goals try exact clean
  · intro none
    cases none
  · exact clean.overLimit rfl rfl
  · intro none
    cases none

/-- A page without errors skipped printers for the tenant's plan only. -/
theorem skipped_of_clean {printers : PrinterTable} :
    (call.progress page printers).Clean (call.context page printers) := by
  have start : (call.start page printers).Clean (call.context page printers) := by
    intro none skipped member
    have empty : (sanitizeReported page.privatePrinterIds page.printers).2 = [] := by
      simpa [HeartbeatCall.start] using none
    rw [show (call.start page printers).skipped = [] from empty] at member
    cases member
  refine foldl_keeps (PageProgress.Clean _) (foldl_keeps (PageProgress.Clean _) start ?_) ?_
  · exact fun _ printer _ clean => clean.observeKnown printer
  · exact fun _ printer _ clean => clean.insertUnknown printer

/-- The released printers are ones of the agent, with a listed permission newer than their row. -/
def PageProgress.ReleasesPermitted (context : PageContext) (printers : List SanitizedPrinter)
    (progress : PageProgress) : Prop :=
  ∀ id ∈ progress.positivelySharedIds, ∃ existing, context.inventory.find? id = some existing ∧
    existing.agentId = context.agentId ∧ ∃ printer ∈ printers, printer.id = id ∧
      mayUpdateSharing context.page.version printer existing = true

theorem releasesPermitted (call : HeartbeatCall) (page : HeartbeatPage) (printers : PrinterTable) :
    (call.progress page printers).ReleasesPermitted (call.context page printers)
      (call.observed page printers) := by
  refine foldl_keeps (PageProgress.ReleasesPermitted _ _)
    (foldl_keeps (PageProgress.ReleasesPermitted _ _) ?_ ?_) ?_
  · exact nofun
  · intro progress printer listed permitted
    unfold PageContext.observeKnown
    split
    · exact permitted
    · rename_i existing found
      split
      · exact permitted
      · rename_i own
        intro id member
        dsimp only at member
        split at member
        · rename_i newer
          rcases List.mem_append.mp member with member | member
          · exact permitted id member
          · obtain rfl := List.mem_singleton.mp member
            exact ⟨existing, found, not_not.mp own, printer, listed, rfl, (Bool.and_eq_true_iff.mp newer).1⟩
        · exact permitted id member
  · intro progress printer _ permitted
    unfold PageContext.insertUnknown
    repeat' split
    all_goals exact permitted

end PrintGateway.Gateway
