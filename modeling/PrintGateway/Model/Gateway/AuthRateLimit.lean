import PrintGateway.Machine.Keyed
import PrintGateway.Machine.Run
import PrintGateway.Model.Gateway.Destination

/-!
# The authentication rate limiter

`auth-rate-limit.ts`.  A login attempt reserves a place in the bucket of its account and, when the
client address is known, in the bucket of that address.  The statements of one call run in a
transaction at `READ COMMITTED`: the clock is read first, each bucket row is created if it is
missing, and only then are the rows locked, judged and written.  Other calls and the cleanup run in
between.  Times are milliseconds, as a JavaScript `Date` keeps them; the database clock has
microseconds.
-/

namespace PrintGateway.Gateway

open Machine Text

def authRateWindowMs : ℤ := 15 * 60 * 1000

/-- The interval of `cleanupAuthRateLimits`, in microseconds. -/
def authRateRetention : ℤ := 24 * 60 * 60 * 1000000

inductive RateLimitCurve
  | account
  | ip
  deriving DecidableEq

def thresholdsFor : RateLimitCurve → List ℕ
  | .account => [5, 10, 15, 20]
  | .ip => [20, 30, 40, 50]

def lockDurationsMs : List ℤ := [0, 30000, 5 * 60000, 15 * 60000]

def longestLockMs : ℤ := 60 * 60000

/-- The duration beside the first threshold that is not reached, or the longest one. -/
def lockDurationFor (curve : RateLimitCurve) (failures : ℕ) : ℤ :=
  match ((thresholdsFor curve).zip lockDurationsMs).find? fun step => failures < step.1 with
  | some step => step.2
  | none => longestLockMs

def activeLimitFor (failures : ℕ) (curve : RateLimitCurve) : ℕ :=
  match (thresholdsFor curve).find? fun threshold => failures ≤ threshold with
  | some threshold => threshold
  | none => (thresholdsFor curve).getLastD 0

/-- `slice(0, n)`, which counts UTF-16 units; half a pair is dropped. -/
def sliceUnits : ℕ → Text → Text
  | _, [] => []
  | n, c :: text =>
    let units := if c.toNat < 65536 then 1 else 2
    if units ≤ n then c :: sliceUnits (n - units) text else []

def accountKey (username : Text) : Text :=
  "acct:" ++ sliceUnits 128 (toLowerCase (trim username))

def ipKey (ip : Text) : Text := "ip:" ++ sliceUnits 128 ip

/-- The keys of a call.  Sorting leaves the account first. -/
def authKeys (ip username : Text) : List Text :=
  if isIP ip ≠ 0 then [accountKey username, ipKey ip] else [accountKey username]

def curveOf (key : Text) : RateLimitCurve :=
  if startsWith key "ip:" then .ip else .account

/-- A row of `auth_rate_limits` beside its key. -/
structure Bucket where
  failures : ℕ
  windowStartedAt : ℤ
  lockedUntil : Option ℤ
  updatedAt : ℤ
  deriving DecidableEq

namespace Bucket

/-- The row an `INSERT` creates. -/
def fresh (now : ℤ) : Bucket := ⟨0, now, none, now⟩

def isLocked (bucket : Bucket) (now : ℤ) : Bool :=
  match bucket.lockedUntil with
  | some lockedUntil => now < lockedUntil
  | none => false

/-- The row after an admitted attempt. -/
def attempt (curve : RateLimitCurve) (now : ℤ) (bucket : Bucket) : Bucket :=
  let windowExpired : Bool := bucket.windowStartedAt < now - authRateWindowMs
  let attempts := if windowExpired then 1 else bucket.failures + 1
  let lockMs := lockDurationFor curve attempts
  { failures := attempts
    windowStartedAt := if windowExpired then now else bucket.windowStartedAt
    lockedUntil := if 0 < lockMs then some (now + lockMs) else none
    updatedAt := now }

/-- The condition of `cleanupAuthRateLimits`. -/
def isStale (bucket : Bucket) (clock : ℤ) : Bool :=
  bucket.updatedAt * 1000 < clock - authRateRetention

end Bucket

structure RateLimitBucketSnapshot where
  limit : ℕ
  remaining : ℕ
  resetAtMs : ℤ
  lockedUntilMs : Option ℤ
  deriving DecidableEq

structure RateLimitDecision where
  allowed : Bool
  retryAfterSec : Option ℤ
  limit : ℕ
  remaining : ℕ
  resetAtEpochSec : ℤ
  deriving DecidableEq

def snapshotBucket (curve : RateLimitCurve) (now : ℤ) (bucket : Bucket) : RateLimitBucketSnapshot :=
  let limit := activeLimitFor bucket.failures curve
  let unlocked : RateLimitBucketSnapshot :=
    ⟨limit, limit - bucket.failures, bucket.windowStartedAt + authRateWindowMs, none⟩
  match bucket.lockedUntil with
  | some lockedUntil => if now < lockedUntil then ⟨limit, 0, lockedUntil, some lockedUntil⟩ else unlocked
  | none => unlocked

/-- `Math.ceil(ms / 1000)`. -/
def ceilSeconds (ms : ℤ) : ℤ := (ms + 999) / 1000

/-- The snapshot with the smallest share of attempts left, the first of them. -/
def effectiveSnapshot (first : RateLimitBucketSnapshot) (others : List RateLimitBucketSnapshot) :
    RateLimitBucketSnapshot :=
  others.foldl (fun best current =>
    if (current.remaining : ℚ) / current.limit < (best.remaining : ℚ) / best.limit then current else best) first

/-- The decision that the latest of some locks gives. -/
def lockDecision (allowed : Bool) (now : ℤ) (first : RateLimitBucketSnapshot)
    (others : List RateLimitBucketSnapshot) : RateLimitDecision :=
  let latestLockMs := (others.map (·.resetAtMs)).foldl max first.resetAtMs
  let limiting := ((first :: others).find? fun snapshot => snapshot.resetAtMs = latestLockMs).getD first
  { allowed
    retryAfterSec := some (max 1 (ceilSeconds (latestLockMs - now)))
    limit := limiting.limit
    remaining := 0
    resetAtEpochSec := ceilSeconds latestLockMs }

/-- `blockedDecision` on the locked snapshots, of which there is one. -/
def blockedDecision (snapshots : List RateLimitBucketSnapshot) (now : ℤ) : Option RateLimitDecision :=
  match snapshots.filter (·.lockedUntilMs.isSome) with
  | first :: others => some (lockDecision false now first others)
  | [] => none

/-- `none` where `reduce` has nothing to start from and throws. -/
def allowedDecision (snapshots : List RateLimitBucketSnapshot) (now : ℤ) : Option RateLimitDecision :=
  match snapshots.filter (·.lockedUntilMs.isSome), snapshots with
  | first :: others, _ => some (lockDecision true now first others)
  | [], first :: others =>
    let snapshot := effectiveSnapshot first others
    some ⟨true, none, snapshot.limit, snapshot.remaining, ceilSeconds snapshot.resetAtMs⟩
  | [], [] => none

/-- The locked rows of a call judged and written: the decision and the rows as they are committed,
or `none` when the call throws and its transaction is rolled back. -/
def judgeRows (now : ℤ) (rows : List (Text × Bucket)) : Option (RateLimitDecision × List (Text × Bucket)) :=
  let snapshots (rows : List (Text × Bucket)) := rows.map fun row => snapshotBucket (curveOf row.1) now row.2
  if rows.any fun row => row.2.isLocked now then
    (blockedDecision (snapshots rows) now).map fun decision => (decision, rows)
  else
    let written := rows.map fun row => (row.1, row.2.attempt (curveOf row.1) now)
    (allowedDecision (snapshots written) now).map fun decision => (decision, written)

/-- A call of `reserveAuthAttempt` that has read the clock: how many of its `INSERT`s have run and
the keys of the rows they created, which nobody else sees before the commit. -/
structure AuthCall where
  ip : Text
  username : Text
  now : ℤ
  inserted : ℕ
  own : List Text
  deriving DecidableEq

namespace AuthCall

def keys (call : AuthCall) : List Text := authKeys call.ip call.username

def account (call : AuthCall) : Text := accountKey call.username

/-- What `SELECT … ORDER BY key FOR UPDATE` returns to the call. -/
def rows (call : AuthCall) (table : Keyed Text Bucket) : List (Text × Bucket) :=
  call.keys.filterMap fun key =>
    (if key ∈ call.own then some (Bucket.fresh call.now) else table.find? key).map fun bucket => (key, bucket)

end AuthCall

/-- An admitted attempt: its account, its reading of the clock, and the window of the account's row
in which it was counted, if it was. -/
structure Admission where
  account : Text
  now : ℤ
  window : Option ℤ
  deriving DecidableEq

/-- The committed rows, the calls in progress, and what has been decided so far: the attempts
admitted, and for each call that obtained the lock of its account's row its reading of the clock. -/
structure AuthLimits where
  clock : ℤ
  table : Keyed Text Bucket
  calls : Keyed ℕ AuthCall
  admitted : List Admission
  served : List (Text × ℤ)
  deriving DecidableEq

inductive AuthEvent
  /-- Time passes. -/
  | tick (micros : ℕ)
  /-- A call starts and reads the clock. -/
  | start (id : ℕ) (ip username : Text)
  /-- A call runs its next `INSERT … ON CONFLICT DO NOTHING`. -/
  | insert (id : ℕ)
  /-- A call locks its rows, judges and writes them, and commits. -/
  | reserve (id : ℕ)
  /-- A call is rolled back. -/
  | abort (id : ℕ)
  | cleanupAuthRateLimits
  | recordAuthSuccess (ip username : Text)
  deriving DecidableEq

namespace AuthLimits

/-- Some other call holds an uncommitted row under the key. -/
def isHeld (s : AuthLimits) (id : ℕ) (key : Text) : Bool :=
  s.calls.entries.any fun entry => entry.1 ≠ id ∧ key ∈ entry.2.own

def endCall (s : AuthLimits) (id : ℕ) : AuthLimits :=
  { s with calls := s.calls.filter fun other _ => other ≠ id }

/-- An `INSERT` of a call.  It waits while another call holds the key. -/
def insertRow (s : AuthLimits) (id : ℕ) (call : AuthCall) : Option AuthLimits :=
  match call.keys[call.inserted]? with
  | none => none
  | some key =>
    let next := { call with inserted := call.inserted + 1 }
    match s.table.find? key with
    | some _ => some { s with calls := s.calls.put id next }
    | none =>
      if s.isHeld id key then none
      else some { s with calls := s.calls.put id { next with own := key :: call.own } }

/-- The rest of a call after its `INSERT`s. -/
def reserveRows (s : AuthLimits) (id : ℕ) (call : AuthCall) : Option AuthLimits :=
  if call.inserted < call.keys.length then none
  else
    let rows := call.rows s.table
    match judgeRows call.now rows with
    | none => some (s.endCall id)
    | some (decision, written) =>
      let window := (written.find? fun row => row.1 = call.account).map (·.2.windowStartedAt)
      some { s.endCall id with
        table := written.foldl (fun table row => table.put row.1 row.2) s.table
        admitted := if decision.allowed then ⟨call.account, call.now, window⟩ :: s.admitted else s.admitted
        served := if window.isSome then (call.account, call.now) :: s.served else s.served }

def step (s : AuthLimits) : AuthEvent → Option AuthLimits
  | .tick micros => some { s with clock := s.clock + micros }
  | .start id ip username =>
    match s.calls.find? id with
    | some _ => none
    | none => some { s with calls := s.calls.put id ⟨ip, username, s.clock / 1000, 0, []⟩ }
  | .insert id => (s.calls.find? id).bind (s.insertRow id)
  | .reserve id => (s.calls.find? id).bind (s.reserveRows id)
  | .abort id => some (s.endCall id)
  | .cleanupAuthRateLimits =>
    some { s with table := s.table.filter fun _ bucket => !bucket.isStale s.clock }
  | .recordAuthSuccess ip username =>
    some { s with table := s.table.filter fun key _ => key ∉ authKeys ip username }

/-- The limiter on an empty table. -/
def start (clock : ℤ) : AuthLimits := ⟨clock, .empty, .empty, [], []⟩

def system : System AuthLimits AuthEvent where
  init s := ∃ clock, s = start clock
  step := step

/-- The calls on an account obtain the lock of its row in the order of their clock readings, and no
login on the account succeeds. -/
def InLockOrder (account : Text) (s : AuthLimits) : AuthEvent → Prop
  | .reserve id =>
    ∀ call ∈ s.calls.find? id, call.account = account →
      ∀ reading ∈ s.served, reading.1 = account → reading.2 ≤ call.now
  | .recordAuthSuccess _ username => accountKey username ≠ account
  | _ => True

/-- The cleanup deletes the row of an account only while no call on the account is in progress. -/
def SparesCalls (account : Text) (s : AuthLimits) : AuthEvent → Prop
  | .cleanupAuthRateLimits =>
    (∃ entry ∈ s.calls.entries, entry.2.account = account) →
      ∀ bucket ∈ s.table.find? account, bucket.isStale s.clock = false
  | _ => True

end AuthLimits

end PrintGateway.Gateway
