import PrintGateway.Model.Agent.Process
import PrintGateway.Soundness.Lifecycle

/-!
# No second print of a job that may have printed

Once a dispatch may have put something on paper, the ledger row is closed and keeps its token until
the Gateway has ended the job; a closed row admits no attempt, and a job the Gateway has ended gets no
acknowledgement for `printing`.  The one statement that reopens a closed row is the `AbortPrint` of a
gate before `BeginPrint`, which does not ask whose attempt the row belongs to.
-/

namespace PrintGateway.Agent

open Machine Gateway

/-! ### Answers of the Gateway -/

variable {row' job row : JobRow}

/-- What a successful answer did. -/
inductive Answered (stamp : Instant) (owners : Owners) (report : StatusReport) : StoredJob → StoredJob → Prop
  | replayed {row : JobRow} : row.status.isTerminal = true → report.requested = row.status →
      Answered stamp owners report (.live row) (.live row)
  | planned {row : JobRow} {u : Update JobRow} : PlannedReport stamp owners report u → u.guard row →
      Answered stamp owners report (.live row) (.live (u.set row))
  | receipt {receipt : Receipt} : receipt.status = report.requested →
      Answered stamp owners report (.archived receipt) (.archived receipt)

theorem replayed_of_exec {report : StatusReport}
    (replayed : ((replayAcknowledgement job report).bind fun u => u.exec row) = some row') :
    row.status.isTerminal = true ∧ report.requested = row.status ∧ row' = row := by
  obtain ⟨u, planned, executed⟩ := Option.bind_eq_some_iff.mp replayed
  obtain ⟨matched, rfl⟩ := Update.exec_eq_some_iff.mp executed
  unfold replayAcknowledgement at planned
  split at planned
  · split at planned
    · rename_i terminal
      cases planned
      have same : row.status = job.status := matched.1
      refine ⟨same ▸ terminal.1, same ▸ terminal.2, ?_⟩
      rw [← same]
    · cases planned
  · cases planned

theorem planned_of_exec {stamp : Instant} {owners : Owners} {report : StatusReport}
    (updated : ((reportStatement stamp owners job report).toOption.bind fun u => u.exec row) =
      some row') : ∃ u, PlannedReport stamp owners report u ∧ u.guard row ∧ row' = u.set row := by
  obtain ⟨u, decided, executed⟩ := Option.bind_eq_some_iff.mp updated
  obtain ⟨matched, rfl⟩ := Update.exec_eq_some_iff.mp executed
  have statement : reportStatement stamp owners job report = .ok u := by
    cases planned : reportStatement stamp owners job report with
    | error refusal => simp [planned, Except.toOption] at decided
    | ok u' =>
      simp only [planned, Except.toOption, Option.some.injEq] at decided
      rw [decided]
  exact ⟨u, planned_of_reportStatement statement, matched, rfl⟩

theorem answer_cases (stamp : Instant) (owners : Owners) (read : Option JobRow)
    (report : StatusReport) (job : StoredJob) :
    ((answer stamp owners read report job).2 = true ∧
        Answered stamp owners report job (answer stamp owners read report job).1) ∨
      ((answer stamp owners read report job).2 = false ∧ (answer stamp owners read report job).1 = job) := by
  cases job with
  | archived receipt =>
    by_cases same : (answer stamp owners read report (.archived receipt)).2 = true
    · refine .inl ⟨same, .receipt ?_⟩
      simp only [answer, Bool.and_eq_true, beq_iff_eq] at same
      exact same.1.2
    · exact .inr ⟨Bool.not_eq_true _ ▸ same, rfl⟩
  | live row =>
    unfold answer
    cases read with
    | none => exact .inr ⟨rfl, rfl⟩
    | some job =>
      dsimp only
      split
      · rename_i row' replayed
        obtain ⟨terminal, same, rfl⟩ := replayed_of_exec replayed
        exact .inl ⟨rfl, .replayed terminal same⟩
      · split
        · rename_i row' updated
          obtain ⟨u, planned, matched, rfl⟩ := planned_of_exec updated
          exact .inl ⟨rfl, .planned planned matched⟩
        · exact .inr ⟨rfl, rfl⟩

section Answers

variable {stamp : Instant} {owners : Owners} {report : StatusReport} {job job' : StoredJob}

/-- Only an open job is acknowledged for `printing`. -/
theorem Answered.open_of_printing (answered : Answered stamp owners report job job')
    (printing : report.requested = .printing)
    (archived : ∀ receipt, job = .archived receipt → receipt.status.isTerminal = true) :
    job.status.isTerminal = false := by
  cases answered with
  | replayed terminal same => rw [← same, printing] at terminal; cases terminal
  | receipt same => have terminal := archived _ rfl; rw [same, printing] at terminal; cases terminal
  | @planned row u planned matched =>
    cases planned with
    | expire requested _ => cases printing.symm.trans requested
    | crashRequeue _ requested _ => cases printing.symm.trans requested
    | handBack _ _ requested => cases printing.symm.trans requested
    | reconcile _ requested => cases printing.symm.trans requested
    | lateSuccess _ _ _ requested _ _ _ => cases printing.symm.trans requested
    | transition update _ _ _ _ _ current _ =>
      have held : row.status = update.current := matched.1.1
      change row.status.isTerminal = false
      rcases current with claimed | printing <;> rw [held, ‹update.current = _›] <;> rfl

/-- An acknowledged terminal report leaves the job ended. -/
theorem Answered.ended (answered : Answered stamp owners report job job')
    (terminal : report.requested = .success ∨ report.requested = .failed) :
    job'.status.isTerminal = true := by
  have requested : report.requested.isTerminal = true := by
    rcases terminal with same | same <;> rw [same] <;> rfl
  cases answered with
  | replayed ended _ => exact ended
  | receipt same => change _ = true; rwa [StoredJob.status, same]
  | @planned row u planned matched =>
    cases planned with
    | expire _ _ => rfl
    | crashRequeue _ queued _ => rw [queued] at requested; cases requested
    | handBack _ _ queued => rw [queued] at requested; cases requested
    | reconcile _ _ => rfl
    | lateSuccess update _ _ _ same _ _ =>
      change update.requested.isTerminal = true
      rw [same]
      rfl
    | transition update _ _ same _ _ _ _ =>
      change update.requested.isTerminal = true
      rwa [same]

/-- An answer keeps an ended job ended. -/
theorem Answered.terminal (answered : Answered stamp owners report job job')
    (terminal : job.status.isTerminal = true) : job'.status.isTerminal = true := by
  cases answered with
  | replayed _ _ | receipt _ => exact terminal
  | @planned row u planned matched =>
    have written : Written stamp row (.patch owners row report) (u.set row) := .reported planned matched
    exact written.terminal terminal

/-- A receipt is answered as it is. -/
theorem Answered.archived (answered : Answered stamp owners report job job') {receipt : Receipt}
    (archived : job' = .archived receipt) : job = .archived receipt := by
  cases answered with
  | replayed _ _ | planned _ _ => cases archived
  | receipt _ => exact archived

end Answers

/-- A gate before `BeginPrint` whose `AbortPrint` goes through finds no row in `printing`. -/
def NoStaleAbort (s : PrintRun) : PrintEvent → Prop
  | .attempt (.refuse _ _ true) => ∀ row ∈ s.ledger, row.status ≠ .printing
  | _ => True

instance (s : PrintRun) (event : PrintEvent) : Decidable (NoStaleAbort s event) := by
  unfold NoStaleAbort
  split <;> infer_instance

/-! ### The invariant -/

namespace PrintRun

/-- A dispatch ended that may have put something on paper. -/
def PossiblyPrinted (s : PrintRun) : Prop :=
  ∃ outcome, .ended outcome ∈ s.log ∧ outcome.possiblyPrinted = true

/-- The Gateway has ended the job. -/
def Ended (s : PrintRun) : Prop := s.gateway.status.isTerminal = true

/-- A closed ledger row that still has its token. -/
def Fenced (s : PrintRun) : Prop := ∃ row ∈ s.ledger, row.Closed ∧ row.claimToken.isSome = true

/-- The ledger row of an attempt past `BeginPrint`. -/
def Printing (s : PrintRun) (token : Token) : Prop :=
  ∃ row ∈ s.ledger, row.status = .printing ∧ row.claimToken = some token

/-- What is known of the attempt in flight. -/
def Tracks (s : PrintRun) (attempt : Attempt) : Prop :=
  match attempt.phase with
  | .received | .parsed | .reserved => True
  | .begun => s.Printing attempt.claimToken ∧ (s.PossiblyPrinted → s.Ended)
  | .reporting request =>
    s.Printing attempt.claimToken ∧ (s.PossiblyPrinted → s.Ended) ∧
      ((request, true) ∈ s.answers → ¬ s.PossiblyPrinted) ∧
      ∃ report, s.reports[request]? = some report ∧ report.requested = .printing
  | .admitted | .atHardware => s.Printing attempt.claimToken ∧ ¬ s.PossiblyPrinted

/-- No dispatch started after one that may have printed. -/
def PrintsOnce (s : PrintRun) : Prop :=
  s.log.Pairwise fun later earlier => later = .started → ∀ outcome, earlier = .ended outcome →
    outcome.possiblyPrinted = false

/-- What holds whatever the process is doing. -/
structure Guarded (s : PrintRun) : Prop where
  archived : ∀ receipt, s.gateway = .archived receipt → receipt.status.isTerminal = true
  kept : s.PossiblyPrinted → s.Ended ∨ s.Fenced
  acknowledged : ∀ request report, (request, true) ∈ s.answers → s.reports[request]? = some report →
    report.requested = .success ∨ report.requested = .failed → s.Ended
  sent : ∀ request success, (request, success) ∈ s.answers → request < s.reports.length
  once : s.PrintsOnce

/-- The attempt in flight, if there is one, is tracked. -/
def Tracked (s : PrintRun) : Prop :=
  ∀ process ∈ s.process, ∀ attempt ∈ process.inFlight, s.Tracks attempt

section Guarding

variable {s : PrintRun}

/-- An attempt past `BeginPrint` fences its row. -/
theorem Printing.fenced {token : Token} (printing : s.Printing token) : s.Fenced := by
  obtain ⟨row, present, status, held⟩ := printing
  exact ⟨row, present, .inl status, held ▸ rfl⟩

section

variable (guarded : s.Guarded)

include guarded

/-- Sending reports changes no answer. -/
theorem Guarded.send (reports : List StatusReport) : (s.send reports).Guarded :=
  { guarded with
    acknowledged := by
      intro request report answered sent
      have known : request < s.reports.length := guarded.sent request true answered
      exact guarded.acknowledged request report answered (List.getElem?_append_left known ▸ sent)
    sent := by
      intro request success answered
      have known : request < s.reports.length := guarded.sent request success answered
      exact Nat.lt_of_lt_of_le known (by simp [PrintRun.send]) }

/-- The process is no part of what is guarded. -/
theorem Guarded.setProcess (process : Option Process) : ({ s with process := process } : PrintRun).Guarded :=
  { guarded with }

/-- A change of the ledger that keeps a fence, if there is one and the job is open. -/
theorem Guarded.setLedger {ledger : Option LedgerRow}
    (keep : s.PossiblyPrinted → ¬ s.Ended → s.Fenced → ∃ row ∈ ledger, row.Closed ∧ row.claimToken.isSome = true) :
    ({ s with ledger := ledger } : PrintRun).Guarded :=
  { guarded with
    kept := by
      intro printed
      by_cases ended : s.Ended
      · exact .inl ended
      · exact .inr (keep printed ended ((guarded.kept printed).resolve_left ended)) }

/-- A statement that keeps closed rows closed and their tokens. -/
theorem Guarded.onLedger {written : Bool} {statement : LedgerRow → LedgerRow}
    (keep : written = true → ∀ row ∈ s.ledger, s.PossiblyPrinted → ¬ s.Ended → row.Closed →
      row.claimToken.isSome = true → (statement row).Closed ∧ (statement row).claimToken.isSome = true) :
    (s.onLedger written statement).Guarded := by
  unfold PrintRun.onLedger
  split
  · rename_i executed
    apply guarded.setLedger
    rintro printed unended ⟨row, present, closed, held⟩
    exact ⟨statement row, Option.mem_map_of_mem statement present,
      keep executed row present printed unended closed held⟩
  · exact guarded

/-- A Gateway that keeps an ended job ended. -/
theorem Guarded.setGateway {gateway : StoredJob} {issued : List Token}
    (ended : s.Ended → gateway.status.isTerminal = true)
    (archived : ∀ receipt, gateway = .archived receipt → receipt.status.isTerminal = true) :
    ({ s with gateway := gateway, issued := issued } : PrintRun).Guarded :=
  { guarded with
    archived := archived
    kept := fun printed => (guarded.kept printed).imp_left ended
    acknowledged := fun request report answered sent terminal =>
      ended (guarded.acknowledged request report answered sent terminal) }

/-- A dispatch that ends over a fenced row. -/
theorem Guarded.logEnd (outcome : DispatchEnd) (fenced : s.Fenced) :
    ({ s with log := .ended outcome :: s.log } : PrintRun).Guarded :=
  { guarded with
    kept := fun _ => .inr fenced
    once := List.pairwise_cons.mpr ⟨fun _ _ => nofun, guarded.once⟩ }

/-- A dispatch that starts while nothing may have been printed. -/
theorem Guarded.logStart (clean : ¬ s.PossiblyPrinted) : ({ s with log := .started :: s.log } : PrintRun).Guarded :=
  { guarded with
    kept := by
      rintro ⟨outcome, member, possible⟩
      refine absurd ⟨outcome, ?_, possible⟩ clean
      simpa using member
    once := by
      refine List.pairwise_cons.mpr ⟨fun earlier member _ outcome same => ?_, guarded.once⟩
      by_contra possible
      exact clean ⟨outcome, same ▸ member, Bool.not_eq_false _ ▸ possible⟩ }

end

end Guarding

/-! ### The attempt in flight -/

section Tracking

variable {s s' : PrintRun} {process : Process} {token : Token} {phase : Phase}

theorem tracked_leave (s : PrintRun) (process : Process) : (s.leave process).Tracked := by
  rintro _ ⟨⟩ _ ⟨⟩

theorem tracked_goTo (tracks : s.Tracks ⟨token, phase⟩) : (s.goTo process token phase).Tracked := by
  rintro _ ⟨⟩ _ ⟨⟩
  exact tracks

/-- What a step must not disturb for the attempt in flight to stay tracked. -/
structure Undisturbed (s s' : PrintRun) : Prop where
  printing : ∀ token, s.Printing token → s'.Printing token
  ended : s.Ended → s'.Ended
  printed : s'.PossiblyPrinted → s.PossiblyPrinted
  reports : ∀ (request : ℕ) (report : StatusReport), s.reports[request]? = some report →
    s'.reports[request]? = some report
  answers : ∀ (request : ℕ) (report : StatusReport), s.reports[request]? = some report →
    report.requested = .printing → (request, true) ∈ s'.answers →
    (request, true) ∈ s.answers ∨ ¬ s.Ended

theorem Tracks.extend {attempt : Attempt} (tracks : s.Tracks attempt) (calm : s.Undisturbed s') :
    s'.Tracks attempt := by
  cases phase : attempt.phase with
  | received | parsed | reserved => simp only [Tracks, phase]
  | begun =>
    simp only [Tracks, phase] at tracks ⊢
    exact ⟨calm.printing _ tracks.1, fun printed => calm.ended (tracks.2 (calm.printed printed))⟩
  | reporting request =>
    simp only [Tracks, phase] at tracks ⊢
    obtain ⟨printing, ended, clean, report, sent, requested⟩ := tracks
    refine ⟨calm.printing _ printing, fun printed => calm.ended (ended (calm.printed printed)),
      fun answered printed => ?_, report, calm.reports request report sent, requested⟩
    -- a new acknowledgement of `printing` is only given while the job is open
    rcases calm.answers request report sent requested answered with earlier | unended
    · exact clean earlier (calm.printed printed)
    · exact unended (ended (calm.printed printed))
  | admitted | atHardware =>
    simp only [Tracks, phase] at tracks ⊢
    exact ⟨calm.printing _ tracks.1, fun printed => tracks.2 (calm.printed printed)⟩

/-- A step outside the attempt. -/
theorem Tracked.extend (tracked : s.Tracked) (calm : s.Undisturbed s')
    (process : s'.process = s.process) : s'.Tracked := by
  intro p running attempt inFlight
  rw [process] at running
  exact (tracked p running attempt inFlight).extend calm

theorem undisturbed_send (s : PrintRun) (reports : List StatusReport) : s.Undisturbed (s.send reports) where
  printing _ := id
  ended := id
  printed := id
  reports _ _ sent := (List.getElem?_append_left (List.getElem?_eq_some_iff.mp sent).1).trans sent
  answers _ _ _ _ := .inl

/-- A ledger that keeps a row in `printing`. -/
theorem undisturbed_setLedger {ledger : Option LedgerRow}
    (keep : ∀ row ∈ s.ledger, row.status = .printing → row ∈ ledger) :
    s.Undisturbed { s with ledger := ledger } where
  printing := by
    rintro token ⟨row, present, printing, held⟩
    exact ⟨row, keep row present printing, printing, held⟩
  ended := id
  printed := id
  reports _ _ := id
  answers _ _ _ _ := .inl

/-- The invariant of a run. -/
def Safe (s : PrintRun) : Prop := s.Guarded ∧ s.Tracked

theorem Safe.send (safe : s.Safe) (reports : List StatusReport) : (s.send reports).Safe :=
  ⟨safe.1.send reports, safe.2.extend (s.undisturbed_send reports) rfl⟩

theorem Guarded.leave (guarded : s.Guarded) (process : Process) : (s.leave process).Safe :=
  ⟨guarded.setProcess _, s.tracked_leave process⟩

theorem Guarded.goTo (guarded : s.Guarded) (tracks : s.Tracks ⟨token, phase⟩) : (s.goTo process token phase).Safe :=
  ⟨guarded.setProcess _, tracked_goTo tracks⟩

end Tracking

/-! ### Steps of an attempt -/

section Attempts

variable {s : PrintRun} {process : Process} {attempt : Attempt}

theorem abortPrint_next_of_not_printing {now : ℤ} {reason : Text} {row : LedgerRow}
    (idle : row.status ≠ .printing) : (abortPrint now reason).next row = row :=
  Update.next_of_not_guard idle

section

variable (guarded : s.Guarded)

include guarded

variable {token : Token}

/-- `AbortPrint` by an attempt that leaves nothing to protect. -/
theorem Guarded.abort (now : ℤ) (reason : Text) (written : Bool)
    (clean : s.PossiblyPrinted → s.Ended) : (s.onLedger written (abortPrint now reason).next).Guarded :=
  guarded.onLedger fun _ _ _ printed unended => absurd (clean printed) unended

theorem Guarded.lookUp (token : Token) (readable reread payloadValid : Bool) :
    (s.lookUp process token readable reread payloadValid).Safe := by
  unfold PrintRun.lookUp
  split
  · exact (guarded.leave process).send _
  split
  · exact (guarded.leave process).send _
  split
  · exact (guarded.leave process).send _
  split
  · exact guarded.goTo trivial
  · exact (guarded.leave process).send _

theorem Guarded.reserve (now : ℤ) (token : Token) :
    ({ s with ledger := some (reserveBeforeDispatch now token s.ledger) } : PrintRun).Guarded := by
  apply guarded.setLedger
  rintro - - ⟨row, present, closed, held⟩
  rw [Option.mem_def.mp present, reserveBeforeDispatch_of_closed closed]
  exact ⟨row, rfl, closed, held⟩

/-- A gate that finds no row in `printing` changes nothing. -/
theorem Guarded.refuse (now : ℤ) (reason : Text) {written : Bool}
    (apart : written = true → ∀ row ∈ s.ledger, row.status ≠ .printing) :
    (s.onLedger written (abortPrint now reason).next).Guarded := by
  refine guarded.onLedger fun executed row present _ _ closed held => ?_
  rw [abortPrint_next_of_not_printing (apart executed row present)]
  exact ⟨closed, held⟩

theorem Guarded.enterPrinting (token : Token) (now : ℤ) (reread : Bool) :
    (s.enterPrinting process token now reread).Safe := by
  unfold PrintRun.enterPrinting
  split
  · rename_i begun accepted
    obtain ⟨unclosed, printing, held⟩ := beginPrint_ok accepted
    have unfenced : ¬ s.Fenced := fun ⟨row, present, closed, _⟩ => unclosed row present closed
    -- the row was not closed, so what may have been printed is known to the Gateway
    have ended : s.PossiblyPrinted → s.Ended := fun printed =>
      (guarded.kept printed).resolve_right unfenced
    refine (guarded.setLedger fun _ _ fenced => absurd fenced unfenced).goTo ?_
    exact ⟨⟨begun, rfl, printing, held⟩, ended⟩
  · exact guarded.leave process
  · exact (guarded.leave process).send _

theorem Guarded.report (tracks : s.Tracks ⟨token, .begun⟩) :
    ((s.goTo process token (.reporting s.reports.length)).send
      [statusReport .printing [] token none]).Safe := by
  refine ⟨(guarded.setProcess _).send _, ?_⟩
  rintro _ ⟨⟩ _ ⟨⟩
  refine ⟨tracks.1, tracks.2, fun answered => ?_, statusReport .printing [] token none, ?_, rfl⟩
  · exact absurd (guarded.sent _ true answered) (Nat.lt_irrefl _)
  · exact List.getElem?_concat_length

/-- The end of the physical phase leaves the row fenced if paper may have come out. -/
theorem Guarded.finish (tracks : s.Tracks ⟨token, .atHardware⟩) (now : ℤ) (result : PhysicalResult)
    (written : Bool) : (s.finish process token now result written).Safe := by
  obtain ⟨printing, clean⟩ := tracks
  have ended := guarded.logEnd result.ended printing.fenced
  refine Safe.send (Guarded.leave (ended.onLedger ?_) _) _
  rintro - row - ⟨outcome, member, possible⟩ - - held
  rcases List.mem_cons.mp member with same | earlier
  · cases same
    refine ⟨result.write_closed now row possible, ?_⟩
    cases result <;> exact held
  · exact absurd ⟨outcome, earlier, possible⟩ clean

end

theorem marked_of_startsWith {text : Text} (starts : Text.startsWith text (unknownDelivery []) = true) :
    hasUnknownOutcomeMarker text = true := by
  obtain ⟨rest, rfl⟩ := List.isPrefixOf_iff_prefix.mp starts
  rw [unknownDelivery, List.append_nil, List.append_assoc]
  exact hasUnknownOutcomeMarker_append (by decide) _

/-- A panic poisons the row whenever the attempt may have reached the printer. -/
theorem Guarded.recoverPanic (guarded : s.Guarded) (tracks : s.Tracks attempt) (now : ℤ)
    (message : Text) (readable written : Bool) :
    (s.recoverPanic process attempt now message readable written).Safe := by
  have ended : (if attempt.phase = .atHardware then { s with log := .ended .unknown :: s.log }
      else s : PrintRun).Guarded := by
    split
    · rename_i hardware
      simp only [Tracks, hardware] at tracks
      exact guarded.logEnd .unknown tracks.1.fenced
    · exact guarded
  refine Safe.send (Guarded.leave (ended.onLedger ?_) _) _
  intro poisoned row _ _ _ _ held
  simp only [Bool.and_eq_true] at poisoned
  exact ⟨LedgerRow.closed_of_marked rfl rfl (marked_of_startsWith poisoned.1.2), held⟩

/-- Every step of an attempt keeps the invariant. -/
theorem Guarded.attemptStep {event : AttemptEvent} {s' : PrintRun} (guarded : s.Guarded)
    (tracks : s.Tracks attempt) (apart : NoStaleAbort s (.attempt event))
    (step : s.attemptStep process attempt event = some s') : s'.Safe := by
  obtain ⟨token, phase⟩ := attempt
  cases event with
  | lookUp readable reread payloadValid =>
    obtain ⟨-, step⟩ := Option.ite_none_right_eq_some.mp step
    cases step
    exact guarded.lookUp token readable reread payloadValid
  | reserve now written =>
    obtain ⟨-, step⟩ := Option.ite_none_right_eq_some.mp step
    split at step
    · cases step
      exact (guarded.reserve now token).goTo trivial
    · cases step
      exact (guarded.leave process).send _
  | refuse now gate written =>
    obtain ⟨-, step⟩ := Option.ite_none_right_eq_some.mp step
    cases step
    refine ((guarded.refuse now gate.reason ?_).leave process).send _
    rintro rfl
    exact apart
  | alreadyProcessed =>
    obtain ⟨-, step⟩ := Option.ite_none_right_eq_some.mp step
    cases step
    exact guarded.leave process
  | beginPrint now written reread =>
    obtain ⟨-, step⟩ := Option.ite_none_right_eq_some.mp step
    split at step
    · cases step
      exact guarded.enterPrinting token now reread
    · cases step
      exact (guarded.leave process).send _
  | report =>
    obtain ⟨begun, step⟩ := Option.ite_none_right_eq_some.mp step
    cases step
    cases begun
    exact guarded.report tracks
  | acknowledged =>
    simp only [PrintRun.attemptStep] at step
    split at step
    · obtain ⟨answered, step⟩ := Option.ite_none_right_eq_some.mp step
      cases step
      exact guarded.goTo ⟨tracks.1, tracks.2.2.1 answered⟩
    · cases step
  | unacknowledged now reason written =>
    simp only [PrintRun.attemptStep] at step
    split at step
    · cases step
      exact (guarded.abort now reason written tracks.2.1).leave process
    · cases step
  | cancelled now reason written =>
    obtain ⟨admitted, step⟩ := Option.ite_none_right_eq_some.mp step
    cases step
    cases admitted
    exact (guarded.abort now reason written fun printed => absurd printed tracks.2).leave process
  | dispatch =>
    obtain ⟨admitted, step⟩ := Option.ite_none_right_eq_some.mp step
    cases step
    cases admitted
    refine (guarded.logStart tracks.2).goTo ⟨tracks.1, ?_⟩
    rintro ⟨outcome, member, possible⟩
    exact tracks.2 ⟨outcome, by simpa using member, possible⟩
  | finish now result written =>
    obtain ⟨hardware, step⟩ := Option.ite_none_right_eq_some.mp step
    cases step
    cases hardware
    exact guarded.finish tracks now result written
  | panic now message readable written =>
    cases step
    exact guarded.recoverPanic tracks now message readable written

end Attempts

/-! ### Steps around the attempt -/

theorem interruptedMessage_marked : hasUnknownOutcomeMarker interruptedMessage = true := by
  rw [interruptedMessage, List.append_assoc]
  exact hasUnknownOutcomeMarker_append (by decide) _

section Around

variable {s : PrintRun}

section

variable (safe : s.Safe)

include safe

variable {gateway : StoredJob} {request : ℕ}

/-- Another writer of the Gateway row, or its archiving. -/
theorem Safe.setGateway {issued : List Token} (ended : s.Ended → gateway.status.isTerminal = true)
    (archived : ∀ receipt, gateway = .archived receipt → receipt.status.isTerminal = true) :
    ({ s with gateway := gateway, issued := issued } : PrintRun).Safe := by
  refine ⟨safe.1.setGateway ended archived, safe.2.extend ?_ rfl⟩
  exact ⟨fun _ => id, ended, id, fun _ _ => id, fun _ _ _ _ => .inl⟩

theorem Safe.archive {archived : JobRow → Option Receipt} {s' : PrintRun}
    (terminal : ∀ row receipt, archived row = some receipt → receipt.status.isTerminal = true)
    (step : s.archive archived = some s') : s'.Safe := by
  unfold PrintRun.archive at step
  split at step
  · rename_i row live
    obtain ⟨receipt, stored, rfl⟩ := Option.map_eq_some_iff.mp step
    refine safe.setGateway (fun _ => terminal row receipt stored) ?_
    rintro _ ⟨⟩
    exact terminal row receipt stored
  · cases step

/-- An answer of the Gateway. -/
theorem Safe.answered {report : StatusReport} (sent : s.reports[request]? = some report)
    {success : Bool} (ended : s.Ended → gateway.status.isTerminal = true)
    (archived : ∀ receipt, gateway = .archived receipt → receipt.status.isTerminal = true)
    (printing : success = true → report.requested = .printing → ¬ s.Ended)
    (terminal : success = true → report.requested = .success ∨ report.requested = .failed →
      gateway.status.isTerminal = true) :
    ({ s with gateway := gateway, answers := (request, success) :: s.answers } : PrintRun).Safe := by
  obtain ⟨guarded, tracked⟩ := safe
  constructor
  · refine { guarded with
      archived := archived
      kept := fun printed => (guarded.kept printed).imp_left ended
      acknowledged := ?_
      sent := ?_ }
    · intro request' report' member sent' reported
      rcases List.mem_cons.mp member with same | earlier
      · cases same
        cases sent.symm.trans sent'
        exact terminal rfl reported
      · exact ended (guarded.acknowledged request' report' earlier sent' reported)
    · intro request' success' member
      rcases List.mem_cons.mp member with same | earlier
      · cases same
        exact (List.getElem?_eq_some_iff.mp sent).1
      · exact guarded.sent request' success' earlier
  · refine tracked.extend ⟨fun _ => id, ended, id, fun _ _ => id, ?_⟩ rfl
    intro request' report' sent' requested member
    rcases List.mem_cons.mp member with same | earlier
    · cases same
      cases sent.symm.trans sent'
      exact .inr (printing rfl requested)
    · exact .inl earlier

/-- The Gateway handles a report. -/
theorem Safe.handle {report : StatusReport} (sent : s.reports[request]? = some report)
    (stamp : Instant) (owners : Owners) (read : Option JobRow) : ({ s with
      gateway := (answer stamp owners read report s.gateway).1
      answers := (request, (answer stamp owners read report s.gateway).2) :: s.answers } :
      PrintRun).Safe := by
  rcases answer_cases stamp owners read report s.gateway with ⟨-, answered⟩ | ⟨refused, same⟩
  · refine safe.answered sent answered.terminal ?_ ?_ fun _ => answered.ended
    · exact fun receipt archived => safe.1.archived receipt (answered.archived archived)
    · intro _ printing ended
      rw [Ended, answered.open_of_printing printing safe.1.archived] at ended
      cases ended
  · rw [refused, same]
    exact safe.answered sent id safe.1.archived nofun nofun

/-- A ledger statement that leaves rows in `printing` alone. -/
theorem Safe.onLedger {statement : LedgerRow → LedgerRow}
    (guarded : (s.onLedger true statement).Guarded)
    (printing : ∀ row, row.status = .printing → statement row = row) :
    (s.onLedger true statement).Safe := by
  refine ⟨guarded, safe.2.extend (undisturbed_setLedger ?_) rfl⟩
  intro row present status
  have moved := Option.mem_map_of_mem statement present
  rwa [printing row status] at moved

/-- An acknowledged terminal report frees its token. -/
theorem Safe.clearToken (ended : s.Ended) (token : Token) : (s.onLedger true (clearClaimToken token).next).Safe := by
  refine safe.onLedger (safe.1.onLedger fun _ _ _ _ unended => absurd ended unended) ?_
  intro row printing
  refine Update.next_of_not_guard fun matched => ?_
  have terminal : row.isTerminal = true := matched.1
  simp [LedgerRow.isTerminal, printing] at terminal

/-- An answered hand-back frees the token of a row that never left `queued`. -/
theorem Safe.clearReturn (now : ℤ) (token : Token) :
    (s.onLedger true (clearPreDispatchClaim now token).next).Safe := by
  refine safe.onLedger (safe.1.onLedger fun _ row _ _ _ closed held => ?_) ?_
  · have untouched : (clearPreDispatchClaim now token).next row = row :=
      Update.next_of_not_guard fun matched => closed.ne_queued matched.1
    rw [untouched]
    exact ⟨closed, held⟩
  · intro row printing
    refine Update.next_of_not_guard fun matched => ?_
    cases printing.symm.trans matched.1

/-- A row that may be deleted has lost its token. -/
theorem Safe.deleteRow {due : LedgerRow → Bool}
    (tokenless : ∀ row, due row = true → row.claimToken = none)
    (terminal : ∀ row, due row = true → row.status ≠ .printing) : (s.deleteRow due).Safe := by
  constructor
  · refine safe.1.setLedger fun _ _ ⟨row, present, closed, held⟩ => ?_
    refine ⟨row, Option.mem_filter_iff.mpr ⟨present, ?_⟩, closed, held⟩
    by_contra deleted
    simp only [Bool.not_eq_true', Bool.not_eq_false] at deleted
    rw [tokenless row deleted] at held
    cases held
  · refine safe.2.extend (undisturbed_setLedger fun row present printing => ?_) rfl
    refine Option.mem_filter_iff.mpr ⟨present, ?_⟩
    by_contra deleted
    simp only [Bool.not_eq_true', Bool.not_eq_false] at deleted
    exact terminal row deleted printing

/-- `dispatchJob` starts an attempt or sends a report. -/
theorem Safe.dispatchJob (process : Process) (token : Token) (intake : Intake) :
    (s.dispatchJob process token intake).Safe := by
  unfold PrintRun.dispatchJob
  split
  · exact safe.send _
  · exact safe.send _
  · exact safe
  · exact safe.send _
  · exact safe.1.goTo trivial

/-- A crash at the printer leaves the row of the attempt in `printing`. -/
theorem Safe.crash {process : Process} (running : process ∈ s.process) : (s.crash process).Safe := by
  refine ⟨?_, fun _ gone => absurd gone (Option.not_mem_none _)⟩
  unfold PrintRun.crash
  split
  · rename_i hardware
    obtain ⟨attempt, inFlight, phase⟩ := (Option.any_eq_true _ _).mp hardware
    have tracks := safe.2 process running attempt inFlight
    simp only [Tracks, beq_iff_eq.mp phase] at tracks
    exact (safe.1.logEnd .crash tracks.1.fenced).setProcess none
  · exact safe.1.setProcess none

theorem Safe.restart (now : ℤ) (written : Bool) : (s.restart now written).Safe := by
  have started : ({ s with process := some ⟨none, none⟩ } : PrintRun).Safe :=
    ⟨safe.1.setProcess _, by rintro _ ⟨⟩ _ ⟨⟩⟩
  unfold PrintRun.restart
  split
  · refine Safe.send ⟨started.1.onLedger fun _ row _ _ _ closed held => ?_, ?_⟩ _
    · rcases Update.next_cases (markInterrupted now) row with ⟨-, marked⟩ | missed
      · rw [marked]
        exact ⟨LedgerRow.closed_of_marked rfl rfl interruptedMessage_marked, held⟩
      · rw [missed]
        exact ⟨closed, held⟩
    · rintro _ ⟨⟩ _ ⟨⟩
  · exact started

end

end Around

/-! ### Runs -/

variable {s : PrintRun}

/-- Every step keeps the invariant. -/
theorem Safe.step {s' : PrintRun} {event : PrintEvent} (safe : s.Safe)
    (apart : NoStaleAbort s event) (step : s.step event = some s') : s'.Safe := by
  cases event with
  | write stamp op =>
    simp only [PrintRun.step] at step
    split at step
    · rename_i row live
      obtain ⟨-, step⟩ := Option.ite_none_right_eq_some.mp step
      cases step
      refine safe.setGateway (fun ended => ?_) nofun
      rw [Ended, live] at ended
      exact (op.written stamp row).terminal ended
    · cases step
  | cleanup now =>
    refine safe.archive (fun row receipt stored => ?_) step
    simp only [cleanupTerminalPrintJobs, Option.ite_none_right_eq_some, Option.some.injEq] at stored
    exact stored.2 ▸ stored.1.1
  | operatorCleanup before =>
    refine safe.archive (fun row receipt stored => ?_) step
    simp only [cleanupByOperator, Option.ite_none_right_eq_some, Option.some.injEq] at stored
    exact stored.2 ▸ stored.1.1
  | deleteAgent stamp =>
    refine safe.archive (fun row receipt stored => ?_) step
    cases stored
    by_cases terminal : row.status.isTerminal = true
    · simp [Gateway.deleteAgent, terminal]
    · have failed : (Gateway.deleteAgent stamp row).status = .failed := if_neg terminal
      rw [failed]
      rfl
  | handle request stamp owners read =>
    obtain ⟨report, sent, rfl⟩ := Option.map_eq_some_iff.mp step
    exact safe.handle sent stamp owners read
  | deliver token intake =>
    obtain ⟨-, step⟩ := Option.ite_none_right_eq_some.mp step
    obtain ⟨process, -, rfl⟩ := Option.map_eq_some_iff.mp step
    exact safe.dispatchJob process token intake
  | attempt event =>
    obtain ⟨process, running, step⟩ := Option.bind_eq_some_iff.mp step
    obtain ⟨attempt, inFlight, step⟩ := Option.bind_eq_some_iff.mp step
    exact safe.1.attemptStep (safe.2 process running attempt inFlight) apart step
  | clearToken request =>
    obtain ⟨report, answered, step⟩ := Option.bind_eq_some_iff.mp step
    obtain ⟨terminal, step⟩ := Option.ite_none_right_eq_some.mp step
    obtain ⟨token, -, rfl⟩ := Option.map_eq_some_iff.mp step
    obtain ⟨acknowledged, sent⟩ := Option.ite_none_right_eq_some.mp answered
    exact safe.clearToken (safe.1.acknowledged request report acknowledged sent terminal) token
  | clearReturn request now =>
    obtain ⟨report, -, step⟩ := Option.bind_eq_some_iff.mp step
    obtain ⟨-, step⟩ := Option.ite_none_right_eq_some.mp step
    obtain ⟨token, -, rfl⟩ := Option.map_eq_some_iff.mp step
    exact safe.clearReturn now token
  | reportPending =>
    obtain ⟨row, -, step⟩ := Option.bind_eq_some_iff.mp step
    obtain ⟨token, -, rfl⟩ := Option.map_eq_some_iff.mp step
    exact safe.send _
  | returnPending reason =>
    obtain ⟨-, step⟩ := Option.ite_none_right_eq_some.mp step
    obtain ⟨row, -, step⟩ := Option.bind_eq_some_iff.mp step
    obtain ⟨token, -, rfl⟩ := Option.map_eq_some_iff.mp step
    exact safe.send _
  | retain now =>
    cases step
    refine safe.deleteRow (fun row due => ?_) fun row due printing => ?_
    · exact (of_decide_eq_true due).1
    · have terminal : row.isTerminal = true := (of_decide_eq_true due).2.1
      simp [LedgerRow.isTerminal, printing] at terminal
  | localCleanup includeUnknown =>
    cases step
    refine safe.deleteRow (fun row due => ?_) fun row due printing => ?_
    · exact (of_decide_eq_true due).elim (fun ended => ended.1) fun unknown => unknown.2.2.1
    · rcases of_decide_eq_true due with ⟨-, success | failed⟩ | ⟨-, failed, -⟩
      · cases printing.symm.trans success
      · cases printing.symm.trans failed.1
      · cases printing.symm.trans failed
  | crash =>
    obtain ⟨process, running, rfl⟩ := Option.map_eq_some_iff.mp step
    exact safe.crash running
  | restart now written =>
    obtain ⟨-, step⟩ := Option.ite_none_right_eq_some.mp step
    cases step
    exact safe.restart now written

end PrintRun

theorem safe_of_init (initial : printRun.init s) : s.Safe := by
  obtain ⟨⟨createdAt, expiresAt, live⟩, -, ledger, process, reports, answers, log⟩ := initial
  constructor
  · constructor
    · intro receipt archived
      cases live.symm.trans archived
    · simp [PrintRun.PossiblyPrinted, log]
    · simp [answers]
    · simp [answers]
    · simp [PrintRun.PrintsOnce, log]
  · simp [PrintRun.Tracked, process]

/-- In every run in which no gate before `BeginPrint` rolls back a row that is in `printing`, no
dispatch starts after one that ended with success, with an unknown outcome or with a crash. -/
theorem no_reprint {s : PrintRun} (reached : printRun.Reaches NoStaleAbort s) : s.PrintsOnce := by
  have safe : s.Safe := reached.invariant (fun _ => safe_of_init) fun _ _ _ safe apart step =>
    safe.step apart step
  exact safe.1.once

/-! ### A frame that arrives again -/

def sampleRun : PrintRun := ⟨.live (.enqueued 0 (hours 1)), [], none, none, [], [], []⟩

/-- A start of the Agent and a claim, whose frame it accepts. -/
def sampleDelivered : List PrintEvent :=
  [.restart 0 true, .write ⟨1, 1⟩ (.claimJobForDelivery sampleOwners 0 true 7), .deliver 7 .accepted]

/-- An attempt up to the printer; its report is the request with the given number. -/
def sampleAttempt (request : ℕ) (read : Option JobRow) : List PrintEvent :=
  [.attempt (.lookUp true true true), .attempt (.reserve 2 true), .attempt (.beginPrint 2 true true),
    .attempt .report, .handle request ⟨3, 3⟩ sampleOwners read, .attempt .acknowledged,
    .attempt .dispatch]

/-- The row the Gateway reads after the claim. -/
def sampleClaim : JobRow :=
  (JobOp.claimJobForDelivery sampleOwners 0 true 7).next ⟨1, 1⟩ (.enqueued 0 (hours 1))

/-- A crash at the printer, a restart and the same frame again. -/
def sampleCrashed : List PrintEvent :=
  sampleDelivered ++ sampleAttempt 0 (some sampleClaim) ++
    [.crash, .restart 4 true, .deliver 7 .accepted, .attempt (.lookUp true true true)]

/-- After a crash the frame is answered from the ledger. -/
theorem no_reprint_crashed : ∃ s, printRun.runWithin NoStaleAbort sampleRun sampleCrashed = some s ∧
      s.log = [.ended .crash, .started] ∧ s.process = some ⟨none, none⟩ ∧ s.PrintsOnce := by
  have reached : ∀ s, printRun.runWithin NoStaleAbort sampleRun sampleCrashed = some s →
      printRun.Reaches NoStaleAbort s := fun s ran =>
    System.Reaches.runWithin (s := sampleRun)
      (.init ⟨⟨_, _, rfl⟩, rfl, rfl, rfl, rfl, rfl, rfl⟩) _ ran
  exact ⟨_, rfl, rfl, rfl, no_reprint (reached _ rfl)⟩

def sampleDrawerError : TransportError := ⟨"write tcp: connection reset", true⟩

/-- The row the Gateway reads once the attempt was admitted. -/
def sampleAdmitted : JobRow :=
  (JobOp.patch sampleOwners sampleClaim (statusReport .printing [] 7 none)).next ⟨3, 3⟩ sampleClaim

/-- A drawer kick with an unknown outcome whose ledger write fails, the same frame stopped at a gate,
and the same frame once more. -/
def sampleReopened : List PrintEvent :=
  sampleDelivered ++ sampleAttempt 0 (some sampleClaim) ++
    [.attempt (.finish 4 (.drawerFailed sampleDrawerError) false), .deliver 7 .accepted,
      .attempt (.lookUp true true true), .attempt (.reserve 5 true),
      .attempt (.refuse 5 .notAtDesiredState true), .deliver 7 .accepted] ++
    sampleAttempt 3 (some sampleAdmitted)

/-- The gate rolls back the row of the first attempt, and the job is dispatched a second time. -/
theorem reprint_after_stale_abort :
    ∃ s, printRun.Reachable s ∧ s.log = [.started, .ended .unknown, .started] ∧ ¬ s.PrintsOnce := by
  refine ⟨_, System.Reaches.run (s := sampleRun)
    (.init ⟨⟨_, _, rfl⟩, rfl, rfl, rfl, rfl, rfl, rfl⟩) sampleReopened rfl, rfl, ?_⟩
  intro once
  have first := (List.pairwise_cons.mp once).1 (.ended .unknown) (by decide) rfl .unknown rfl
  cases first

end PrintGateway.Agent
