import PrintGateway.Model.Agent.RawWrite
import PrintGateway.Soundness.IppAcceptance

/-!
# What a raw TCP write tells about the paper

Whatever the connection accepts, refuses or reports, the accepted bytes are the beginning of the payload.  The
message of an error carries a marker exactly when there is an accepted byte.
-/

namespace PrintGateway.Agent

variable {c : PrintConnection} {data address : Bytes} {round written : ℕ}

/-- The bytes the connection accepted, over all writes. -/
def WriteResult.accepted (result : WriteResult) : Bytes := result.writes.flatMap ConnWrite.accepted

/-- The half-close did not fail. -/
def PrintConnection.Closes (c : PrintConnection) : Prop := ∀ error, c.closeWrite ≠ some (some error)

/-- No marker starts with another letter than these three. -/
theorem unmarked_of_first {first : UInt8} (rest : Bytes) (other : first ∉ ascii "AJU") :
    Printer.hasUnknownOutcomeMarker (first :: rest) = false := by
  have starts : ∀ marker ∈ Printer.outcomeMarkers, ∃ letter ∈ ascii "AJU", marker.head? = some letter := by
    decide
  rw [Printer.hasUnknownOutcomeMarker, List.any_eq_false]
  intro marker listed carried
  obtain ⟨letter, known, head⟩ := starts marker listed
  obtain ⟨tail, same⟩ := List.isPrefixOf_iff_prefix.mp carried
  cases marker with
  | nil => cases head
  | cons byte marker =>
    cases head
    obtain rfl : letter = first := (List.cons.inj same).1
    exact other known

/-- What a pass of the loop and all after it come to, from an offset of the payload on. -/
structure Classified (c : PrintConnection) (data : Bytes) (written : ℕ) (result : WriteResult) : Prop where
  sent : result.accepted <+: data.drop written
  count : result.written = written + result.accepted.length
  success : result.error = none ↔
    result.accepted = data.drop written ∧ (∀ write ∈ result.writes, write.error = none) ∧ c.Closes
  failure : ∀ message, result.error = some message →
    (Printer.hasUnknownOutcomeMarker message = true ↔ 0 < result.written)

/-- A pass that ends with an error. -/
theorem classified_of_error {marked plain : Bytes} {writes : List ConnWrite} {n : ℕ}
    (sent : writes.flatMap ConnWrite.accepted <+: data.drop written)
    (count : (writes.flatMap ConnWrite.accepted).length = n)
    (stopped : writes.flatMap ConnWrite.accepted ≠ data.drop written ∨ ∃ write ∈ writes, write.error ≠ none)
    (unmarked : Printer.hasUnknownOutcomeMarker plain = false) :
    Classified c data written ⟨written + n, some (if 0 < written + n then markUnknown marked else plain), writes⟩ where
  sent := sent
  count := by rw [WriteResult.accepted, count]
  success := by
    refine iff_of_false nofun ?_
    rintro ⟨whole, fine, -⟩
    rcases stopped with short | ⟨write, listed, failed⟩
    · exact short whole
    · exact failed (fine write listed)
  failure := by
    rintro message same
    cases same
    split
    case isTrue some => exact iff_of_true (marked_markUnknown _) some
    case isFalse none => exact iff_of_false (by rw [unmarked]; exact Bool.false_ne_true) none

theorem unsent (more : written < data.length) : ([] : Bytes) ≠ data.drop written := fun empty => by
  have := List.drop_eq_nil_iff.mp empty.symm
  omega

theorem classified_finishWrite (nonempty : data ≠ []) (done : ¬written < data.length) :
    Classified c data written (finishWrite c data address written) := by
  have rest : data.drop written = [] := List.drop_of_length_le (not_lt.mp done)
  have positive : 0 < written := lt_of_lt_of_le (List.length_pos_of_ne_nil nonempty) (not_lt.mp done)
  rw [finishWrite]
  split
  case h_1 error failed =>
    refine ⟨List.nil_prefix, rfl, iff_of_false nofun fun whole => whole.2.2 error failed, ?_⟩
    rintro message same
    cases same
    exact iff_of_true (marked_markUnknown _) positive
  case h_2 closed =>
    refine ⟨List.nil_prefix, rfl, iff_of_true rfl ⟨rest.symm, nofun, fun error => closed error⟩, nofun⟩

/-- The accepted part of a chunk is the next part of the payload. -/
theorem accepted_chunk (report : WriteReport ((data.drop written).take networkWriteChunkSize).length) :
    (ConnWrite.mk ((data.drop written).take networkWriteChunkSize) report.n report.error).accepted =
        (data.drop written).take report.n ∧ ((data.drop written).take report.n).length = report.n := by
  have bounded : report.n ≤ min networkWriteChunkSize (data.drop written).length :=
    report.bounded.trans_eq (List.length_take ..)
  refine ⟨?_, by rw [List.length_take]; omega⟩
  change ((data.drop written).take networkWriteChunkSize).take report.n = _
  rw [List.take_take, min_eq_left (by omega)]

theorem classified_writeLoop (nonempty : data ≠ []) :
    Classified c data written (writeLoop c data address round written) := by
  fun_induction writeLoop c data address round written with
  | case1 round written more error cancelled message | case2 round written more _ error failed =>
    exact classified_of_error (n := 0) List.nil_prefix rfl (.inl (unsent more)) (unmarked_of_first _ (by decide))
  | case3 round written more _ chunk _ report write error failed message =>
    obtain ⟨part, count⟩ := accepted_chunk report
    have sent : [write].flatMap ConnWrite.accepted = (data.drop written).take report.n := by
      rw [List.flatMap_singleton]
      exact part
    refine classified_of_error ?_ ?_ (.inr ⟨write, List.mem_singleton_self _, ?_⟩) (unmarked_of_first _ (by decide))
    · rw [sent]
      exact List.take_prefix _ _
    · rw [sent, count]
    · exact fun fine => nomatch failed.symm.trans fine
  | case4 round written more _ chunk _ report write failed empty =>
    have sent : [write].flatMap ConnWrite.accepted = [] := by
      rw [List.flatMap_singleton, (accepted_chunk report).1, empty, List.take_zero]
    refine classified_of_error (n := 0) ?_ ?_ (.inl ?_) (unmarked_of_first _ (by decide))
    · rw [sent]
      exact List.nil_prefix
    · rw [sent]
      rfl
    · rw [sent]
      exact unsent more
  | case5 round written more _ chunk _ report write fine some rest ih =>
    obtain ⟨part, count⟩ := accepted_chunk report
    have split : (data.drop written).take report.n ++ data.drop (written + report.n) = data.drop written := by
      rw [← List.drop_drop, List.take_append_drop]
    have sent : WriteResult.accepted ⟨rest.written, rest.error, write :: rest.writes⟩ =
        (data.drop written).take report.n ++ rest.accepted := by
      rw [WriteResult.accepted, List.flatMap_cons]
      exact congrArg (· ++ _) part
    generalize (data.drop written).take report.n = front at count split sent
    refine ⟨?_, ?_, ?_, ih.failure⟩
    · rw [sent, ← split]
      exact (List.prefix_append_right_inj _).mpr ih.sent
    · rw [sent, List.length_append, count, ← Nat.add_assoc]
      exact ih.count
    · rw [sent, ← split, List.append_right_inj]
      refine ih.success.trans (and_congr_right fun _ => and_congr_left fun _ => ?_)
      simp only [List.mem_cons, forall_eq_or_imp]
      exact (and_iff_right fine).symm
  | case6 => exact classified_finishWrite nonempty ‹_›

/-- The accepted bytes are a prefix of the payload.  The write succeeds exactly when they are the whole payload,
no write failed and the half-close went through; the message of an error carries a marker exactly when a byte
was accepted. -/
theorem writePrintPayload_classifies (c : PrintConnection) (data address : Bytes) (nonempty : data ≠ []) :
    (writePrintPayload c data address).accepted <+: data ∧
    ((writePrintPayload c data address).error = none ↔ (writePrintPayload c data address).accepted = data ∧
        (∀ write ∈ (writePrintPayload c data address).writes, write.error = none) ∧ c.Closes) ∧
    ∀ message, (writePrintPayload c data address).error = some message →
      (Printer.hasUnknownOutcomeMarker message = true ↔ (writePrintPayload c data address).accepted ≠ []) := by
  rw [writePrintPayload]
  split
  case h_1 error refused =>
    refine ⟨List.nil_prefix, iff_of_false (Option.some_ne_none _) fun whole => nonempty whole.1.symm, ?_⟩
    rintro message same
    obtain rfl := Option.some.inj same
    have unmarked : Printer.hasUnknownOutcomeMarker (ascii "network print admission refused: " ++ error) = false :=
      unmarked_of_first _ (by decide)
    refine iff_of_false ?_ fun some => some rfl
    rw [unmarked]
    exact Bool.false_ne_true
  case h_2 =>
    obtain ⟨sent, count, success, failure⟩ : Classified c data 0 (writeLoop c data address 0 0) :=
      classified_writeLoop nonempty
    rw [List.drop_zero] at sent success
    refine ⟨sent, success, fun message failed => (failure message failed).trans ?_⟩
    rw [count, Nat.zero_add, List.length_pos_iff]

/-- A connection that accepts one byte and then fails. -/
def droppedConnection : PrintConnection where
  cancelledBefore := none
  refused := none
  cancelledAfter := none
  rounds round :=
    { cancelled := none
      deadline := none
      write := fun offered => ⟨min 1 offered, min_le_right _ _, if round = 0 then none else some (ascii "broken pipe")⟩ }
  closeWrite := none

/-- Two bytes of three are out when the connection breaks. -/
theorem writePrintPayload_classifies_dropped :
    (writePrintPayload droppedConnection [1, 2, 3] (ascii "10.0.0.7:9100")).accepted = [1, 2] ∧
      ∃ message, (writePrintPayload droppedConnection [1, 2, 3] (ascii "10.0.0.7:9100")).error = some message ∧
        Printer.hasUnknownOutcomeMarker message = true := by
  have sent : (writePrintPayload droppedConnection [1, 2, 3] (ascii "10.0.0.7:9100")).accepted = [1, 2] := by
    decide +kernel
  have failed : (writePrintPayload droppedConnection [1, 2, 3] (ascii "10.0.0.7:9100")).error.isSome = true := by
    decide +kernel
  obtain ⟨message, reported⟩ := Option.isSome_iff_exists.mp failed
  obtain ⟨-, -, marked⟩ :=
    writePrintPayload_classifies droppedConnection [1, 2, 3] (ascii "10.0.0.7:9100") (by decide)
  exact ⟨sent, message, reported, (marked message reported).mpr (by rw [sent]; decide)⟩

end PrintGateway.Agent
