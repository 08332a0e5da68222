import JobQueue.Collections.Framing
import JobQueue.Collections.KeyedTable
import JobQueue.Runtime.Errors

/-!
# Rows of the SQL queue

The `queue_jobs` table and the statements that the SQL driver executes on it.
Every statement is atomic. A claim writes a freshly generated token into its
row, and every settlement of the claim is fenced by that token; a token may stay
on a pending row as the link to the generation that held it before.

Payload, metadata and the two audit timestamps of a row are left out: no
statement selects by them or derives another column from them.
-/

namespace JobQueue.SqlQueue

/-- The stored states. -/
inductive RowState
  | pending
  | processing
  | dead
  deriving DecidableEq, Repr

/-- One row of `queue_jobs`. -/
structure Row where
  queueName : String
  jobType : String
  timeoutSeconds : Option Int
  maxRetry : Int
  backoffMillis : Int
  attempt : Int
  availableAt : Int
  processingStartedAt : Option Int
  processingToken : Option String
  lastError : Option String
  state : RowState
  deriving DecidableEq, Repr

/-- The table, by row id. -/
abbrev Table : Type := KeyedTable Int Row

/-- `dbJob`: what a claim read of its row. -/
structure DbJob where
  id : Int
  processingToken : String
  queueName : String
  jobType : String
  timeoutSeconds : Option Int
  maxRetry : Int
  backoffMillis : Int
  attempt : Int
  recovered : Bool
  recoveryToken : String
  applicationStateCommitted : Bool
  deriving DecidableEq, Repr

/-- The parts of `localDatabaseConfig` that statements depend on, in
milliseconds where they are durations. -/
structure Settings where
  defaultQueue : String
  /-- `usesOptimisticClaimLoop`: the driver is SQLite. -/
  optimisticClaimLoop : Bool
  processingRecoveryGrace : Int
  processingLeaseNoTimeout : Int
  pollInterval : Int
  deriving DecidableEq, Repr

/-- Attempts to settle a row. -/
def databaseFinalizeRetryCount : Nat := 3

/-- The delay between them. -/
def databaseFinalizeRetryDelay : Int := 25

/-- The length of a token. -/
def databaseProcessingTokenBytes : Nat := 16

/-- Marks a recovered row. -/
def databaseRecoveryMarker : String :=
  "queue:internal:stale-processing-recovery:v1"

/-- The error of a recovered row. -/
def databaseRecoveryDiagnostic : String := "recovered stale processing job"

/-- `queuecore.NormalizeQueueName`. -/
def normalizeQueueName (name : String) : String :=
  if name = "" then "default" else name

/-! ## Tokens -/

/-- A digit of the canonical lowercase encoding. -/
def isLowerHex (digit : Char) : Bool :=
  ('0' ≤ digit && digit ≤ '9') || ('a' ≤ digit && digit ≤ 'f')

/-- The canonical lowercase encoding of sixteen bytes. -/
def databaseProcessingTokenValid (token : String) : Bool :=
  token.toList.length == databaseProcessingTokenBytes * 2 && token.toList.all isLowerHex

/-- `hex.EncodeToString`. -/
def hexEncode (bytes : List UInt8) : String := String.ofList (Framing.hex bytes)

/-- `newDatabaseProcessingToken`, given the random bytes. -/
def newDatabaseProcessingToken (random : List UInt8) : Option String :=
  if random.length = databaseProcessingTokenBytes then some (hexEncode random)
  else none

theorem isLowerHex_digitChar (bounded : digit < 16) : isLowerHex (Nat.digitChar digit) = true := by
  decide +revert

/-- Generated tokens are valid. -/
theorem databaseProcessingTokenValid_new
    (created : newDatabaseProcessingToken random = some token) :
    databaseProcessingTokenValid token = true := by
  unfold newDatabaseProcessingToken at created
  split at created
  · rename_i sized
    cases created
    have width : ∀ bytes : List UInt8, (hexEncode bytes).toList.length = bytes.length * 2 := by
      intro bytes
      simp [hexEncode, Framing.hex, List.length_flatMap]
    have digits : ∀ bytes : List UInt8, (hexEncode bytes).toList.all isLowerHex = true := by
      intro bytes
      simp only [hexEncode, Framing.hex, String.toList_ofList, List.all_flatMap, List.all_eq_true]
      intro byte _ digit member
      have small := byte.toNat_lt
      rcases List.mem_cons.mp member with rfl | last
      · exact isLowerHex_digitChar (by omega)
      · rw [List.mem_singleton.mp last]
        exact isLowerHex_digitChar (by omega)
    simp [databaseProcessingTokenValid, width, digits, sized]
  · cases created

theorem databaseProcessingTokenValid_empty : databaseProcessingTokenValid "" = false := by
  decide +kernel

theorem ne_empty_of_valid (valid : databaseProcessingTokenValid token = true) : token ≠ "" := by
  rintro rfl
  rw [databaseProcessingTokenValid_empty] at valid
  cases valid

/-- `databaseRecoveryProof`: the generation a pending row still names, and
whether the row was returned to the queue by its transport. -/
def databaseRecoveryProof : Option String -> String × Bool
  | none => ("", false)
  | some token =>
    if token = databaseRecoveryMarker then ("", true)
    else if !databaseProcessingTokenValid token then ("", false)
    else (token, true)

theorem databaseRecoveryProof_of_valid (valid : databaseProcessingTokenValid token = true) :
    databaseRecoveryProof (some token) = (token, true) := by
  have unmarked : token ≠ databaseRecoveryMarker := by
    rintro rfl
    exact absurd valid (by decide +kernel)
  simp [databaseRecoveryProof, unmarked, valid]

theorem databaseRecoveryProof_of_not_valid (invalid : databaseProcessingTokenValid token = false) :
    (databaseRecoveryProof (some token)).1 = "" := by
  simp only [databaseRecoveryProof, invalid, Bool.not_false, if_true]
  split <;> rfl

/-! ## Claims and stale recovery -/

namespace Row

/-- The row that `selectPendingJob` looks for. -/
def claimable (settings : Settings) (now : Int) (row : Row) : Bool :=
  row.queueName = settings.defaultQueue && row.state = .pending && row.availableAt ≤ now

/-- The row after a claim. -/
def claim (now : Int) (token : String) (row : Row) : Row :=
  { row with state := .processing, processingStartedAt := some now, processingToken := some token }

/-- The lease of a processing row has run out. -/
def stale (settings : Settings) (now : Int) (row : Row) : Bool :=
  row.state = .processing && match row.processingStartedAt with
    | none => false
    | some started =>
      match row.timeoutSeconds with
      | none => started ≤ max 0 (now - settings.processingLeaseNoTimeout)
      | some timeout =>
        if 0 < timeout then
          started + timeout * 1000 + settings.processingRecoveryGrace ≤ now
        else started ≤ max 0 (now - settings.processingLeaseNoTimeout)

/-- The row after stale recovery, which keeps the token of the lost claim. -/
def recover (now : Int) (row : Row) : Row :=
  { row with
    state := .pending
    availableAt := now
    processingStartedAt := none
    processingToken :=
      match row.processingToken with
      | some token =>
        if token ≠ "" then some token else some databaseRecoveryMarker
      | none => some databaseRecoveryMarker
    lastError := some databaseRecoveryDiagnostic }

end Row

/-- The job that `claimOne` hands to `processJob`. -/
def claimedJob (id : Int) (row : Row) (token : String) : DbJob :=
  { id := id
    processingToken := token
    queueName := row.queueName
    jobType := row.jobType
    timeoutSeconds := row.timeoutSeconds
    maxRetry := row.maxRetry
    backoffMillis := row.backoffMillis
    attempt := row.attempt
    recovered := (databaseRecoveryProof row.processingToken).2
    recoveryToken := (databaseRecoveryProof row.processingToken).1
    applicationStateCommitted := false }

/-- The claim's `UPDATE` of one row. -/
def claimRow (id : Int) (now : Int) (token : String) (table : Table) : Table :=
  table.update (fun other row => other = id && row.state = .pending)
    fun row => some (row.claim now token)

/-- `recoverStaleProcessing`. -/
def recoverStaleProcessing (settings : Settings) (now : Int) (table : Table) : Table :=
  table.update (fun _ row => row.stale settings now) fun row => some (row.recover now)

/-! ## Settlement -/

/-- `databaseFailureSettlement`. -/
structure FailureSettlement where
  state : RowState
  attempt : Int
  availableAt : Int
  deriving DecidableEq, Repr

variable (job : DbJob)

/-- `databasePendingSettlement`. -/
def databasePendingSettlement (attempt now : Int) : FailureSettlement :=
  { state := .pending
    attempt := attempt
    availableAt :=
      if 0 < job.backoffMillis then now + job.backoffMillis else now }

/-- The physical attempt of a claimed job. -/
def DbJob.deliveryAttempt : DeliveryAttempt :=
  { number := job.attempt, maxRetry := job.maxRetry }

/-- `classifyDatabaseFailure`. -/
def classifyDatabaseFailure (runErr : GoError) (now : Int) : Except GoError FailureSettlement :=
  match classifyAttempt job.deliveryAttempt (some runErr) with
  | .retry => .ok (databasePendingSettlement job (job.attempt + 1) now)
  | .failed => .ok { state := .dead, attempt := job.attempt + 1, availableAt := 0 }
  | .redeliver => .ok (databasePendingSettlement job job.attempt now)
  | .succeeded => .error (.text "cannot persist a successful attempt as failed")

/-- `databasePendingRecoveryToken`: the link a pending row keeps after a failed
attempt. -/
def databasePendingRecoveryToken (settlement : FailureSettlement) : Option String :=
  if settlement.state ≠ .pending ∨ settlement.attempt ≠ job.attempt then none
  else if job.applicationStateCommitted then
    if !databaseProcessingTokenValid job.processingToken then none
    else some job.processingToken
  else if !job.recovered then none
  else if job.recoveryToken = "" then some databaseRecoveryMarker
  else if !databaseProcessingTokenValid job.recoveryToken then none
  else some job.recoveryToken

/-- `databaseSettlementRecoveryToken`: the inherited link a repair restores, if
there is one to restore. -/
def databaseSettlementRecoveryToken : Except GoError (Option String) :=
  if !job.recovered || job.applicationStateCommitted then .ok none
  else if job.recoveryToken = "" then .ok (some databaseRecoveryMarker)
  else if !databaseProcessingTokenValid job.recoveryToken then
    .error (.text ("recovered database settlement generation " ++
      quoted job.recoveryToken ++ " is invalid"))
  else .ok (some job.recoveryToken)

/-- `databaseProcessingClaim`: the fenced identity of a claim. -/
def databaseProcessingClaim : Except GoError (Int × String) :=
  if job.id ≤ 0 then
    .error (.text "database settlement job id must be positive")
  else if job.processingToken = "" then
    .error (.text "database settlement processing token is empty")
  else .ok (job.id, job.processingToken)

/-- `databaseSettlementRecoveryDelay`. -/
def databaseSettlementRecoveryDelay (pollInterval : Int) : Int :=
  if databaseFinalizeRetryDelay < pollInterval then pollInterval
  else databaseFinalizeRetryDelay

/-- A fenced statement by which a claim settles or repairs its row. -/
inductive Statement
  /-- `markDone`. -/
  | done (id : Int) (token : String)
  /-- `markFailed` of a terminal failure. -/
  | dead (attempt : Int) (lastError : String) (id : Int) (token : String)
  /-- `markFailed` of a failure that is attempted or delivered again. -/
  | pending (attempt availableAt : Int) (lastError : String)
      (recovery : Option String) (id : Int) (token : String)
  /-- `restoreRecoveredSettlementLineage`. -/
  | repair (availableAt : Int) (recovery : String) (lastError : String)
      (id : Int) (token : String) (attempt : Int)
  deriving DecidableEq, Repr

namespace Statement

/-- The row it is about. -/
def id : Statement -> Int
  | .done id _ => id
  | .dead _ _ id _ => id
  | .pending _ _ _ _ id _ => id
  | .repair _ _ _ id _ _ => id

/-- The token that fences it. -/
def token : Statement -> String
  | .done _ token => token
  | .dead _ _ _ token => token
  | .pending _ _ _ _ _ token => token
  | .repair _ _ _ _ token _ => token

/-- The statement's `WHERE` clause. -/
def selects (statement : Statement) (id : Int) (row : Row) : Bool :=
  id = statement.id && row.state = .processing && row.processingToken = some statement.token &&
    match statement with
    | .repair _ _ _ _ _ attempt => row.attempt = attempt
    | _ => true

/-- What the statement writes; `none` deletes the row. -/
def change : Statement -> Row -> Option Row
  | .done _ _, _ => none
  | .dead attempt lastError _ _, row =>
    some { row with
      state := .dead
      attempt := attempt
      processingStartedAt := none
      processingToken := none
      lastError := some lastError }
  | .pending attempt availableAt lastError recovery _ _, row =>
    some { row with
      state := .pending
      attempt := attempt
      availableAt := availableAt
      lastError := some lastError
      processingStartedAt := none
      processingToken := recovery }
  | .repair availableAt recovery lastError _ _ _, row =>
    some { row with
      state := .pending
      availableAt := availableAt
      processingStartedAt := none
      processingToken := some recovery
      lastError := some lastError }

/-- Rows affected by the statement. -/
def rowsAffected (statement : Statement) (table : Table) : Nat :=
  table.affected statement.selects

/-- The table after the statement. -/
def apply (statement : Statement) (table : Table) : Table :=
  table.update statement.selects statement.change

/-- The row is processing under a token. -/
def Held (token : String) (row : Row) : Prop :=
  row.state = .processing ∧ row.processingToken = some token

theorem held_of_selects {statement : Statement} {id : Int}
    (selected : statement.selects id row = true) :
    id = statement.id ∧ Held statement.token row := by
  simp only [selects, Bool.and_eq_true, decide_eq_true_eq] at selected
  exact ⟨selected.1.1.1, selected.1.1.2, selected.1.2⟩

theorem state_of_change {statement : Statement} (changed : statement.change row = some next) :
    next.state ≠ .processing := by
  cases statement <;> cases changed <;> simp

/-- A statement affects at most the row of its claim. -/
theorem rowsAffected_eq (statement : Statement) (table : Table) :
    statement.rowsAffected table =
      ((table.get statement.id).any (statement.selects statement.id)).toNat :=
  table.affected_single fun _ _ selected => (held_of_selects selected).1

/-- Either a statement affects nothing or it finds its row under the token of
its claim and affects that row alone. -/
theorem rowsAffected_cases (statement : Statement) (table : Table) :
    (statement.rowsAffected table = 0 ∧ statement.apply table = table) ∨
    (statement.rowsAffected table = 1 ∧ ∃ row, table.get statement.id = some row ∧
        statement.selects statement.id row = true ∧
        (statement.apply table).get statement.id = statement.change row) := by
  have counted := statement.rowsAffected_eq table
  cases chosen : (table.get statement.id).any (statement.selects statement.id) with
  | false =>
    rw [chosen] at counted
    exact .inl ⟨counted, table.update_eq_self counted⟩
  | true =>
    rw [chosen] at counted
    cases found : table.get statement.id with
    | none =>
      rw [found] at chosen
      cases chosen
    | some row =>
      have selected : statement.selects statement.id row = true := by simpa [found] using chosen
      refine .inr ⟨counted, row, rfl, selected, ?_⟩
      rw [apply, KeyedTable.get_update, found]
      simp [selected]

/-- Every other row stays as it is. -/
theorem get_apply_of_ne (statement : Statement) (different : other ≠ statement.id) :
    (statement.apply table).get other = table.get other := by
  rw [apply, KeyedTable.get_update]
  cases table.get other with
  | none => rfl
  | some row =>
    have unselected : statement.selects other row = false := by
      rw [Bool.eq_false_iff]
      exact fun selected => different (held_of_selects selected).1
    simp [unselected]

end Statement

/-! ## Administration and dispatch -/

/-- The row that `Dispatch` inserts. -/
def Row.dispatched (queueName jobType : String) (timeoutSeconds : Option Int)
    (maxRetry backoffMillis availableAt : Int) : Row :=
  { queueName := queueName
    jobType := jobType
    timeoutSeconds := timeoutSeconds
    maxRetry := maxRetry
    backoffMillis := backoffMillis
    attempt := 0
    availableAt := availableAt
    processingStartedAt := none
    processingToken := none
    lastError := none
    state := .pending }

/-- An administrative statement. -/
inductive Admin
  | retryJob (queueName : String) (id now : Int)
  | cancelJob (id : Int)
  | deleteJob (queueName : String) (id : Int)
  | clearQueue (queueName : String)
  deriving DecidableEq, Repr

namespace Admin

/-- The statement's `WHERE` clause. -/
def selects : Admin -> Int -> Row -> Bool
  | .retryJob queueName id _, other, row =>
    other = id && row.queueName = normalizeQueueName queueName
  | .cancelJob id, other, _ => other = id
  | .deleteJob queueName id, other, row =>
    other = id && row.queueName = normalizeQueueName queueName
  | .clearQueue queueName, _, row => row.queueName = normalizeQueueName queueName

/-- What the statement writes; `none` deletes the row. -/
def change : Admin -> Row -> Option Row
  | .retryJob _ _ now, row =>
    some { row with
      state := .pending
      availableAt := now
      processingStartedAt := none
      processingToken := none
      lastError := none }
  | .cancelJob _, row =>
    some { row with
      state := .dead
      processingStartedAt := none
      processingToken := none
      lastError := some "canceled from queue admin" }
  | .deleteJob _ _, _ => none
  | .clearQueue _, _ => none

/-- The table after the statement. -/
def apply (admin : Admin) (table : Table) : Table :=
  table.update admin.selects admin.change

/-- Administration keeps a row, deletes it, or takes it out of processing with
its attempt unchanged and its token cleared. -/
theorem get_apply_cases (admin : Admin) (table : Table) (id : Int) :
    (admin.apply table).get id = table.get id ∨
    (admin.apply table).get id = none ∨
    ∃ row next, table.get id = some row ∧ (admin.apply table).get id = some next ∧
      next.state ≠ .processing ∧ next.processingToken = none ∧
      next.attempt = row.attempt ∧ next.maxRetry = row.maxRetry := by
  rw [apply, KeyedTable.get_update]
  cases table.get id with
  | none => exact .inl rfl
  | some row =>
    simp only [Option.bind_some]
    split
    · cases admin with
      | retryJob queueName job now => exact .inr (.inr ⟨row, _, rfl, rfl, by simp, rfl, rfl, rfl⟩)
      | cancelJob job => exact .inr (.inr ⟨row, _, rfl, rfl, by simp, rfl, rfl, rfl⟩)
      | deleteJob queueName job => exact .inr (.inl rfl)
      | clearQueue queueName => exact .inr (.inl rfl)
    · exact .inl rfl

end Admin

end JobQueue.SqlQueue
