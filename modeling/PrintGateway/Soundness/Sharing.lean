import PrintGateway.Soundness.Inventory

/-!
# The order of sharing decisions

A page may deny a printer or permit it.  A row keeps the version of the last decision written to it, and
versions only grow, so a decision is never undone by an older page: what was denied is shared again only
by a strictly newer permission, and what is paused for it is released by one only.
-/

namespace PrintGateway.Gateway

open Machine

section Decisions

variable {agentId id : Text}

/-! ### One page -/

variable {printer : SanitizedPrinter} {page : HeartbeatPage} {row : StoredPrinter}
  {version : Option ℕ} {s : InventoryRun}

/-- What a page decides about a row of the agent. -/
inductive SharingStep (page : HeartbeatPage) (observed : List SanitizedPrinter) (id : Text)
    (row row' : StoredPrinter) : Prop
  | kept (silent : id ∉ page.privatePrinterIds) (same : SameSharing row row')
  | denied (listed : id ∈ page.privatePrinterIds) (shared : row'.printer.sharedWithGateway = false)
      (version : row'.sharedWithGatewayVersion = page.version)
  | permitted (silent : id ∉ page.privatePrinterIds) (shared : row'.printer.sharedWithGateway = true)
      (version : row'.sharedWithGatewayVersion = page.version)
      (newer : ∃ printer ∈ observed, printer.id = id ∧ mayUpdateSharing page.version printer row = true)

/-- No observation counts under an id the page denies. -/
theorem not_private_of_observed {call : HeartbeatCall} {printers : PrinterTable}
    (listed : printer ∈ call.observed page printers) : printer.id ∉ page.privatePrinterIds :=
  of_decide_eq_true (List.mem_filter.mp listed).2

theorem mayUpdateSharing_congr {row' : StoredPrinter} (same : SameSharing row row') :
    mayUpdateSharing version printer row' = mayUpdateSharing version printer row := by
  unfold mayUpdateSharing
  rw [same.version]

/-- Permission that counts comes with a version above the one the row retains. -/
theorem newer_of_mayUpdateSharing (counts : mayUpdateSharing version printer row = true) :
    printer.sharedWithGateway = true ∧ ∃ incoming, version = some incoming ∧
      ∀ retained ∈ row.sharedWithGatewayVersion, retained < incoming := by
  obtain ⟨shared, newer⟩ := Bool.and_eq_true_iff.mp counts
  cases version with
  | none => cases newer
  | some incoming =>
    refine ⟨shared, incoming, rfl, fun retained kept => ?_⟩
    have kept : row.sharedWithGatewayVersion = some retained := kept
    rw [kept] at newer
    exact of_decide_eq_true newer

/-- The decision of a page on a row of the agent whose last decision is not newer than the page. -/
theorem sharing_after_page (call : HeartbeatCall) (page : HeartbeatPage) (columns : SnapshotColumns)
    {printers : PrinterTable} {row row' : StoredPrinter} (found : printers.find? id = some row)
    (own : row.agentId = call.agentId)
    (older : page.version.isSome = true → ∀ retained ∈ row.sharedWithGatewayVersion,
      ∃ incoming ∈ page.version, retained ≤ incoming)
    (after : (call.printersAfter page columns printers).find? id = some row') :
    row'.agentId = row.agentId ∧ SharingStep page (call.observed page printers) id row row' := by
  obtain ⟨existing, seen, denied, -, observed, -, final⟩ := row_after_page call page columns found
  obtain rfl := Option.some.inj (final.symm.trans after)
  have kept := finalFrom call page columns printers seen
  refine ⟨kept.agentId.trans (observed.agentId.trans denied.place.agentId), ?_⟩
  by_cases listed : id ∈ page.privatePrinterIds
  · obtain ⟨unshared, version⟩ :=
      denied.denied own listed (older (page.denials (List.ne_nil_of_mem listed)))
    rcases observed.sharing with same | ⟨-, -, printer, member, equal, -⟩
    · exact .denied listed (kept.sharing.shared.trans (same.shared.trans unshared))
        (kept.sharing.version.trans (same.version.trans version))
    · exact absurd (equal ▸ listed) (not_private_of_observed member)
  · have unchanged := denied.allowed listed
    rcases observed.sharing with same | ⟨shared, version, printer, member, equal, newer⟩
    · exact .kept listed ((unchanged.trans same).trans kept.sharing)
    · refine .permitted listed (kept.sharing.shared.trans shared) (kept.sharing.version.trans version) ?_
      rw [show (call.context page printers).page = page from rfl, mayUpdateSharing_congr unchanged] at newer
      exact ⟨printer, member, equal, newer⟩

/-! ### Controlling pages -/

/-- The accepted page carries permission for the id. -/
def Permits (id : Text) (entry : AcceptedPage) : Prop :=
  ∃ printer ∈ entry.observed, printer.id = id ∧ printer.sharedWithGateway = true

/-- The accepted page decided about the agent's row under the id: it denied the row, or the row is left
with the page's permission. -/
def Controls (agentId id : Text) (entry : AcceptedPage) : Prop :=
  ∃ row, entry.printers.find? id = some row ∧ row.agentId = agentId ∧ (id ∈ entry.page.privatePrinterIds ∨
      Permits id entry ∧ row.printer.sharedWithGateway = true ∧ row.sharedWithGatewayVersion = entry.page.version)

/-- The page permits the printer under a version above that of every controlling page before it. -/
def NewerThan (earlier : List AcceptedPage) (agentId id : Text) (entry : AcceptedPage) : Prop :=
  Permits id entry ∧ ∃ version, entry.page.version = some version ∧
    ∀ other ∈ earlier, Controls agentId id other → ∀ past ∈ other.page.version, past < version

/-- The heartbeats of an agent from before its row under `id` carries a decision; the snapshot columns
may be those of any earlier heartbeats. -/
def sharing (sha256 : Text → Text) (agentId id : Text) : System InventoryRun InventoryEvent where
  init s := s.accepted = [] ∧ ∀ row, s.inventory.printers.find? id = some row →
    row.agentId = agentId → row.sharedWithGatewayVersion = none
  step := InventoryRun.step sha256 agentId

/-- Every controlling page is covered by the row's version, and that one by the retained version. -/
structure SharingOrdered (agentId id : Text) (s : InventoryRun) : Prop where
  covered : ∀ entry ∈ s.accepted, Controls agentId id entry →
    ∃ row, s.inventory.printers.find? id = some row ∧ row.agentId = agentId ∧
      ∀ past ∈ entry.page.version, ∃ retained ∈ row.sharedWithGatewayVersion, past ≤ retained
  bounded : ∀ row, s.inventory.printers.find? id = some row → row.agentId = agentId →
    ∀ retained ∈ row.sharedWithGatewayVersion, retained ≤ s.inventory.snapshot.version

theorem version_le_after {columns : SnapshotColumns} {version : ℕ} (errors : Bool)
    (versioned : page.version = some version) : (columns.after page errors).version = version := by
  obtain ⟨snapshotId, named⟩ := Option.isSome_iff_exists.mp (page.identified (by rw [versioned]; rfl))
  simp only [SnapshotColumns.after, named, versioned]
  split <;> rfl

/-- The decision retained in the row is not newer than an accepted page. -/
theorem SharingOrdered.older (ordered : SharingOrdered agentId id s)
    (accepts : s.inventory.snapshot.Accepts page) (found : s.inventory.printers.find? id = some row)
    (own : row.agentId = agentId) (versioned : page.version.isSome = true) :
    ∀ retained ∈ row.sharedWithGatewayVersion, ∃ incoming ∈ page.version, retained ≤ incoming := by
  intro retained stored
  obtain ⟨version, named⟩ := Option.isSome_iff_exists.mp versioned
  have newer := version_le_of_allows accepts.1
  rw [named] at newer
  exact ⟨version, named, (ordered.bounded row found own retained stored).trans newer⟩

/-- Permission that counts is newer than every decision the row covers. -/
theorem SharingOrdered.newerThan {entry : AcceptedPage} (ordered : SharingOrdered agentId id s)
    (found : s.inventory.printers.find? id = some row)
    (permitted : ∃ printer ∈ entry.observed, printer.id = id ∧
      mayUpdateSharing entry.page.version printer row = true) :
    NewerThan s.accepted agentId id entry := by
  obtain ⟨printer, listed, same, counts⟩ := permitted
  obtain ⟨shared, version, versioned, newer⟩ := newer_of_mayUpdateSharing counts
  refine ⟨⟨printer, listed, same, shared⟩, version, versioned, ?_⟩
  intro other member controls past stored
  obtain ⟨row', found', -, covered⟩ := ordered.covered other member controls
  obtain rfl := Option.some.inj (found.symm.trans found')
  obtain ⟨retained, kept, le⟩ := covered past stored
  exact lt_of_le_of_lt le (newer retained kept)

section Page

variable {call : HeartbeatCall} {page : HeartbeatPage} {s s' : InventoryRun}

section

variable (accepted : Accepted call page s s')

include accepted

/-- The decision of an accepted page on the row it leaves. -/
theorem Accepted.sharingStep (ordered : SharingOrdered call.agentId id s) {row row' : StoredPrinter}
    (found : s.inventory.printers.find? id = some row) (own : row.agentId = call.agentId)
    (after : s'.inventory.printers.find? id = some row') : row'.agentId = row.agentId ∧
      SharingStep page (call.observed page s.inventory.printers) id row row' := by
  rw [accepted.printers] at after
  exact sharing_after_page call page s.inventory.snapshot found own
    (ordered.older accepted.accepts found own) after

/-- An own row after an accepted page was one before, or was created by it. -/
theorem Accepted.origin {row' : StoredPrinter} (after : s'.inventory.printers.find? id = some row')
    (own : row'.agentId = call.agentId) :
    (∃ row, s.inventory.printers.find? id = some row ∧ row.agentId = call.agentId) ∨
      (s.inventory.printers.find? id = none ∧ CreatedBy (call.context page s.inventory.printers)
          (call.observed page s.inventory.printers) id row') := by
  rw [accepted.printers] at after
  cases before : s.inventory.printers.find? id with
  | none => exact .inr ⟨rfl, row_created_by_page before after⟩
  | some row =>
    obtain ⟨existing, seen, denied, -, observed, -, final⟩ :=
      row_after_page call page s.inventory.snapshot before
    obtain rfl := Option.some.inj (final.symm.trans after)
    have kept := finalFrom call page s.inventory.snapshot s.inventory.printers seen
    refine .inl ⟨row, rfl, ?_⟩
    exact denied.place.agentId.symm.trans (observed.agentId.symm.trans (kept.agentId.symm.trans own))

/-- A row of the table stays in it. -/
theorem Accepted.persists {row : StoredPrinter} (found : s.inventory.printers.find? id = some row) :
    ∃ row', s'.inventory.printers.find? id = some row' := by
  obtain ⟨-, seen, -, -, -, -, final⟩ := row_after_page call page s.inventory.snapshot found
  exact ⟨_, accepted.printers ▸ final⟩

theorem Accepted.sharingOrdered (ordered : SharingOrdered call.agentId id s) : SharingOrdered call.agentId id s' := by
  have grown : s.inventory.snapshot.version ≤ s'.inventory.snapshot.version := by
    rw [accepted.snapshot]
    exact version_after_le _ accepted.accepts
  have own_version : ∀ version, page.version = some version → version ≤ s'.inventory.snapshot.version := by
    intro version versioned
    rw [accepted.snapshot, version_le_after _ versioned]
  constructor
  · intro entry member controls
    rw [accepted.logged] at member
    rcases List.mem_append.mp member with member | member
    · -- an earlier page: the row's version did not decrease
      obtain ⟨row, found, own, covered⟩ := ordered.covered entry member controls
      obtain ⟨row', after⟩ := accepted.persists found
      obtain ⟨sameAgent, step⟩ := accepted.sharingStep ordered found own after
      refine ⟨row', after, sameAgent.trans own, fun past stored => ?_⟩
      obtain ⟨retained, kept, le⟩ := covered past stored
      cases step with
      | kept _ same => exact ⟨retained, same.version ▸ kept, le⟩
      | denied listed _ version =>
        obtain ⟨incoming, versioned, le'⟩ := ordered.older accepted.accepts found own
          (page.denials (List.ne_nil_of_mem listed)) retained kept
        exact ⟨incoming, version ▸ versioned, le.trans le'⟩
      | permitted _ _ version newer =>
        obtain ⟨printer, -, -, counts⟩ := newer
        obtain ⟨-, incoming, versioned, newer⟩ := newer_of_mayUpdateSharing counts
        exact ⟨incoming, version.trans versioned, le.trans (newer retained kept).le⟩
    · -- this page: the row carries its version
      obtain rfl := List.mem_singleton.mp member
      obtain ⟨row', after, own', decided⟩ := controls
      refine ⟨row', after, own', fun past stored => ⟨past, ?_, le_rfl⟩⟩
      rcases decided with listed | ⟨-, -, version⟩
      · rcases accepted.origin after own' with ⟨row, found, own⟩ | ⟨-, created⟩
        · cases (accepted.sharingStep ordered found own after).2 with
          | kept silent _ | permitted silent => exact absurd listed silent
          | denied _ _ version => exact version ▸ stored
        · obtain ⟨printer, member, equal, -⟩ := created.version
          exact absurd (equal ▸ listed) (not_private_of_observed member)
      · exact version ▸ stored
  · intro row' after own' retained kept
    rcases accepted.origin after own' with ⟨row, found, own⟩ | ⟨-, created⟩
    · cases (accepted.sharingStep ordered found own after).2 with
      | kept _ same => exact (ordered.bounded row found own retained (same.version ▸ kept)).trans grown
      | denied _ _ version | permitted _ _ version => exact own_version retained (version ▸ kept)
    · obtain ⟨printer, -, -, version⟩ := created.version
      rw [version] at kept
      split at kept
      · exact own_version retained kept
      · cases kept

end

/-- Keep-alive does not match a queued row. -/
theorem keptAlive_of_queued {row : JobRow} (jobId : Text) (queued : row.status = .queued) :
    call.keptAlive page jobId row = row := by
  refine foldl_keeps (fun after => after = row) rfl ?_
  rintro after pair - rfl
  split
  · refine Update.next_of_not_guard ?_
    rintro ⟨claimed | printing, -⟩
    · cases queued.symm.trans claimed
    · cases queued.symm.trans printing
  · rfl

/-- A job the page took out of its pause belongs to a printer the page permits anew. -/
theorem Accepted.released (accepted : Accepted call page s s')
    (ordered : SharingOrdered call.agentId id s) {jobId : Text} {job job' : PrinterJob}
    (before : s.inventory.jobs.find? jobId = some job) (printer : job.printerId = id)
    (paused : resumeShared.guard job.row) (after : s'.inventory.jobs.find? jobId = some job')
    (released : ¬ resumeShared.guard job'.row) :
    NewerThan s.accepted call.agentId id (logEntry call page s s') := by
  rw [accepted.jobs, HeartbeatCall.jobsAfter, Keyed.find?_update, before, Option.map_some,
    HeartbeatCall.jobAfter, keptAlive_of_queued jobId paused.1] at after
  cases after
  split at released
  · dsimp only at released
    split at released
    · rename_i member
      rw [printer] at member
      obtain ⟨existing, found, owned, observed, listed, same, counts⟩ :=
        releasesPermitted call page s.inventory.printers id member
      have found : (call.denied page s.inventory.printers).find? id = some existing := found
      rw [find?_denied] at found
      obtain ⟨row, stored, rfl⟩ := Option.map_eq_some_iff.mp found
      have silent := not_private_of_observed listed
      rw [same] at silent
      have unchanged := (deniedFrom call page id row).allowed silent
      refine ordered.newerThan stored ⟨observed, listed, same, ?_⟩
      exact (mayUpdateSharing_congr unchanged).symm.trans counts
    · exact absurd paused released
  · exact absurd paused released

end Page

theorem SharingOrdered.others {s : InventoryRun} {agent : AgentRow} {printers : PrinterTable}
    {jobs : Keyed Text PrinterJob} (ordered : SharingOrdered agentId id s)
    (written : WrittenByOthers agentId s.inventory.printers printers) :
    SharingOrdered agentId id { s with inventory := { s.inventory with agent, printers, jobs } } := by
  constructor
  · intro entry member controls
    obtain ⟨row, found, own, covered⟩ := ordered.covered entry member controls
    obtain ⟨row', found', kept⟩ := written.kept found own
    exact ⟨row', found', kept.1.trans own, fun past stored => kept.2.2.2.1 ▸ covered past stored⟩
  · intro row' found own retained kept
    rcases written.row found own with ⟨row, before, owned, -, -, -, version, -⟩ | ⟨-, -, none, -⟩
    · exact ordered.bounded row before owned retained (version ▸ kept)
    · rw [none] at kept
      cases kept

theorem sharingOrdered_of_reachable {sha256 : Text → Text} {s : InventoryRun}
    (reachable : (sharing sha256 agentId id).Reachable s) : SharingOrdered agentId id s := by
  refine reachable.invariant ?_ ?_
  · rintro s ⟨empty, undecided⟩
    constructor
    · intro entry member
      rw [empty] at member
      cases member
    · intro row found own retained kept
      rw [undecided row found own] at kept
      cases kept
  · intro s event s' ordered _ step
    cases event with
    | heartbeat now entitlement request =>
      cases step
      rcases heartbeat_cases (heartbeatCall sha256 agentId now entitlement) request s with
        same | ⟨page, -, accepted⟩
      · rwa [same]
      · exact accepted.sharingOrdered ordered
    | others agent printers jobs =>
      obtain ⟨written, same⟩ := Option.ite_none_right_eq_some.mp step
      cases same
      exact ordered.others written

end Decisions

/-! ### Runs -/

/-- Over every run of an agent's heartbeats, from the creation of its row under `id` on: a heartbeat
shares the denied row again, or releases a job paused for it, only as an accepted page that is newer
than every controlling page before it; and an accepted page that denies the id leaves the row denied. -/
theorem sharing_decisions_ordered (sha256 : Text → Text) (agentId id : Text) {s : InventoryRun}
    (reachable : (sharing sha256 agentId id).Reachable s) (now : ℤ) (entitlement : Entitlement)
    (request : HeartbeatRequest) :
    let s' := s.heartbeat (heartbeatCall sha256 agentId now entitlement) request
    (∀ row row', s.inventory.printers.find? id = some row → row.agentId = agentId →
      s'.inventory.printers.find? id = some row' →
      row.printer.sharedWithGateway = false → row'.printer.sharedWithGateway = true →
      ∃ entry, s'.accepted = s.accepted ++ [entry] ∧ NewerThan s.accepted agentId id entry) ∧
    (∀ jobId job job', s.inventory.jobs.find? jobId = some job → job.printerId = id →
      job.row.status = .queued ∧ job.row.error = some printerNotSharedPause →
      s'.inventory.jobs.find? jobId = some job' →
      ¬ (job'.row.status = .queued ∧ job'.row.error = some printerNotSharedPause) →
      ∃ entry, s'.accepted = s.accepted ++ [entry] ∧ NewerThan s.accepted agentId id entry) ∧
    ∀ entry, s'.accepted = s.accepted ++ [entry] → id ∈ entry.page.privatePrinterIds →
      ∀ row', s'.inventory.printers.find? id = some row' → row'.agentId = agentId →
        row'.printer.sharedWithGateway = false := by
  intro s'
  have ordered := sharingOrdered_of_reachable reachable
  rcases heartbeat_cases (heartbeatCall sha256 agentId now entitlement) request s with
    same | ⟨page, -, accepted⟩
  · have same : s' = s := same
    rw [same]
    refine ⟨?_, ?_, ?_⟩
    · intro row row' before _ after unshared shared
      obtain rfl := Option.some.inj (before.symm.trans after)
      cases unshared.symm.trans shared
    · intro jobId job job' before _ paused after released
      obtain rfl := Option.some.inj (before.symm.trans after)
      exact absurd paused released
    · intro entry logged
      exact absurd logged (by simp)
  · have accepted : Accepted (heartbeatCall sha256 agentId now entitlement) page s s' := accepted
    refine ⟨?_, ?_, ?_⟩
    · intro row row' before own after unshared shared
      refine ⟨_, accepted.logged, ?_⟩
      cases (accepted.sharingStep ordered before own after).2 with
      | kept _ same => cases unshared.symm.trans (same.shared.symm.trans shared)
      | denied _ denied _ => cases denied.symm.trans shared
      | permitted _ _ _ newer => exact ordered.newerThan before newer
    · intro jobId job job' before printer paused after released
      exact ⟨_, accepted.logged, accepted.released ordered before printer paused after released⟩
    · intro entry logged listed row' after own'
      obtain rfl : logEntry (heartbeatCall sha256 agentId now entitlement) page s s' = entry := by
        have := accepted.logged.symm.trans logged
        simpa using this
      rcases accepted.origin after own' with ⟨row, found, own⟩ | ⟨-, created⟩
      · cases (accepted.sharingStep ordered found own after).2 with
        | kept silent _ | permitted silent => exact absurd listed silent
        | denied _ unshared _ => exact unshared
      · obtain ⟨printer, member, equal, -⟩ := created.version
        exact absurd (equal ▸ listed) (not_private_of_observed member)

/-- The first page of version 5 denies one of two printers. -/
def sampleDenied : InventoryRun :=
  sampleInventory.heartbeat (heartbeatCall id "agent" 1 (.limit none))
    (sampleHeartbeat "5" 1 [] ["a"])

/-- The first page of version 6 permits it again. -/
def samplePermitted : InventoryRun :=
  sampleDenied.heartbeat (heartbeatCall id "agent" 2 (.limit none))
    (sampleHeartbeat "6" 1 ["a"] [])

theorem sharing_decisions_ordered_permitted : ∃ row row', sampleDenied.inventory.printers.find? "a" = some row ∧
      samplePermitted.inventory.printers.find? "a" = some row' ∧
      row.printer.sharedWithGateway = false ∧ row'.printer.sharedWithGateway = true ∧
      ∃ entry, samplePermitted.accepted = sampleDenied.accepted ++ [entry] ∧
        NewerThan sampleDenied.accepted "agent" "a" entry := by
  refine ⟨_, _, rfl, rfl, rfl, rfl, ?_⟩
  refine (sharing_decisions_ordered id "agent" "a"
    (System.Reaches.run (s := sampleInventory) (.init ⟨rfl, ?_⟩)
      [.heartbeat 1 (.limit none) (sampleHeartbeat "5" 1 [] ["a"])] rfl)
    2 (.limit none) (sampleHeartbeat "6" 1 ["a"] [])).1 _ _ rfl rfl rfl rfl rfl
  intro row found _
  cases found
  rfl

end PrintGateway.Gateway
