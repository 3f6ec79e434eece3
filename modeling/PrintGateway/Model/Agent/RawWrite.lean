import PrintGateway.Model.Agent.IppPrint

/-!
# Writing to a raw TCP printer

`writePrintPayload` of `network.go`.  What the context and the connection answer is given beforehand, one
round for every pass of the loop; the result keeps the writes the connection was asked for.
-/

namespace PrintGateway.Agent

/-- What `conn.Write` reports for an offer: how many bytes it accepted, and an error. -/
structure WriteReport (offered : ℕ) where
  n : ℕ
  bounded : n ≤ offered
  error : Option Bytes

/-- One pass of the loop. -/
structure WriteRound where
  /-- `ctx.Err()` if the context is done -/
  cancelled : Option Bytes
  /-- the error of `SetWriteDeadline` -/
  deadline : Option Bytes
  write : ∀ offered, WriteReport offered

/-- The context and the connection of one print. -/
structure PrintConnection where
  /-- `ctx.Err()` before the admission -/
  cancelledBefore : Option Bytes
  /-- the error of the admission, if one is registered -/
  refused : Option Bytes
  /-- `ctx.Err()` after the admission -/
  cancelledAfter : Option Bytes
  rounds : ℕ → WriteRound
  /-- the error of `CloseWrite`, if the connection has one -/
  closeWrite : Option (Option Bytes)

/-- A call of `conn.Write`. -/
structure ConnWrite where
  chunk : Bytes
  n : ℕ
  error : Option Bytes
  deriving DecidableEq, Repr

/-- The bytes the connection accepted. -/
def ConnWrite.accepted (write : ConnWrite) : Bytes := write.chunk.take write.n

structure WriteResult where
  written : ℕ
  error : Option Bytes
  writes : List ConnWrite
  deriving DecidableEq, Repr

def networkWriteChunkSize : ℕ := 16 * 1024

def runDispatchAdmission (c : PrintConnection) : Option Bytes :=
  c.cancelledBefore <|> c.refused <|> c.cancelledAfter

/-- `%d/%d`. -/
def progress (written : ℕ) (data : Bytes) : Bytes := decimalBytes written ++ ascii "/" ++ decimalBytes data.length

/-- The half-close after the last byte. -/
def finishWrite (c : PrintConnection) (data address : Bytes) (written : ℕ) : WriteResult :=
  match c.closeWrite with
  | some (some error) =>
    ⟨written, some (markUnknown (ascii "TCP half-close to " ++ address ++ ascii " failed after " ++
      progress written data ++ ascii " bytes: " ++ error)), []⟩
  | _ => ⟨written, none, []⟩

/-- The loop of `writePrintPayload`. -/
def writeLoop (c : PrintConnection) (data address : Bytes) (round written : ℕ) : WriteResult :=
  if written < data.length then
    match (c.rounds round).cancelled with
    | some error =>
      let message := ascii "print cancelled after " ++ progress written data ++ ascii " bytes: " ++ error
      ⟨written, some (if 0 < written then markUnknown message else message), []⟩
    | none =>
      let chunk := (data.drop written).take networkWriteChunkSize
      match (c.rounds round).deadline with
      | some error =>
        ⟨written, some (if 0 < written then
          markUnknown (ascii "set printer write deadline after " ++ progress written data ++ ascii " bytes: " ++ error)
          else ascii "set printer write deadline: " ++ error), []⟩
      | none =>
        let report := (c.rounds round).write chunk.length
        let write : ConnWrite := ⟨chunk, report.n, report.error⟩
        match report.error with
        | some error =>
          let message := ascii "write " ++ progress (written + report.n) data ++ ascii " to " ++ address ++
            ascii ": " ++ error
          ⟨written + report.n, some (if 0 < written + report.n then markUnknown message else message), [write]⟩
        | none =>
          if report.n = 0 then
            ⟨written, some (if 0 < written then
              markUnknown (ascii "short write 0 bytes after " ++ progress written data ++ ascii " to " ++ address)
              else ascii "short write 0 bytes to " ++ address), [write]⟩
          else
            let rest := writeLoop c data address (round + 1) (written + report.n)
            { rest with writes := write :: rest.writes }
  else finishWrite c data address written
termination_by data.length - written
decreasing_by
  have accepted : ((c.rounds round).write (List.take networkWriteChunkSize (List.drop written data)).length).n ≠ 0 := ‹_›
  omega

def writePrintPayload (c : PrintConnection) (data address : Bytes) : WriteResult :=
  match runDispatchAdmission c with
  | some error => ⟨0, some (ascii "network print admission refused: " ++ error), []⟩
  | none => writeLoop c data address 0 0

end PrintGateway.Agent
