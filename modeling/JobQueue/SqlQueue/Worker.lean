import JobQueue.Interleaving.Invariant
import JobQueue.SqlQueue.Rows

/-!
# Workers of the SQL queue

A worker polls: it returns stale rows to the queue, claims one pending row, runs
the handler and settles the row. Workers, dispatchers and administrators
interleave statement by statement. A statement may be executed although the
driver reports it failed, and a claim may be committed although nobody learns
of it. A process stop is a worker that is never scheduled again.

The handler belongs to the application: the moment it reports that its state is
committed and the moment it returns are separate operations with free answers.
-/

namespace JobQueue.SqlQueue

open Interleaving

/-- What the driver learns of an executed statement. -/
inductive ExecResult
  | failed (error : GoError)
  /-- Executed, but the number of affected rows could not be read. -/
  | unread (error : GoError)
  | affected (rows : Nat)
  deriving DecidableEq, Repr

/-- What `claimOne` learns of one claim transaction. -/
inductive ClaimAnswer
  | failed (error : GoError)
  | empty
  | contended
  | claimed (job : DbJob)
  deriving DecidableEq, Repr

/-- Facts that the driver reports to its observer. -/
inductive Event
  | processRecovered
  | settlementFailed (job : DbJob) (error : GoError)
  | processArchived (job : DbJob) (error : GoError)
  deriving DecidableEq, Repr

/-- Operations of a worker. -/
inductive Op
  /-- Read the clock. -/
  | now
  | recoverStaleProcessing (now : Int)
  /-- One claim transaction. -/
  | claim (now : Int)
  | lookup (jobType : String)
  /-- Whether the handler reported its application state as committed. -/
  | reports (job : DbJob)
  /-- The result of the handler. -/
  | result (job : DbJob)
  /-- A settlement statement, with the decision it persists. -/
  | settle (decision : AttemptDecision) (statement : Statement)
  /-- A lineage repair. -/
  | repair (statement : Statement)
  /-- `DeliverySettlement.Commit`, which runs the deferred facts. -/
  | commit (job : DbJob)
  | observe (event : Event)

/-- What an operation answers. -/
@[reducible] def Op.Answer : Op -> Type
  | .now => Int
  | .recoverStaleProcessing _ => ExecResult
  | .claim _ => ClaimAnswer
  | .lookup _ => Bool
  | .reports _ => Bool
  | .result _ => Option GoError
  | .settle _ _ => ExecResult
  | .repair _ => ExecResult
  | .commit _ => Unit
  | .observe _ => Unit

/-- Programs of a worker. -/
abbrev Worker : Type -> Type := Prog Op Op.Answer

/-- Ask for one operation. -/
def ask (operation : Op) : Worker operation.Answer := Prog.perform operation

/-! ## Programs -/

/-- The error of `ExecContext`, or `requireDatabaseSettlementRow`. -/
def requireDatabaseSettlementRow : ExecResult -> Option GoError
  | .failed error => some error
  | .unread error => some (.wrap "read database settlement rows" error)
  | .affected rows =>
    if rows = 1 then none
    else some (.text ("database settlement affected " ++ toString rows ++ " rows, want 1"))

/-- One `EventProcessRecovered` for each recovered row. -/
def observeRecovered : Nat -> Worker Unit
  | 0 => pure ()
  | rows + 1 => do
      ask (.observe .processRecovered)
      observeRecovered rows

/-- The claim loop of `claimOne`. -/
def claimLoop (now : Int) : Nat -> Worker (Except GoError (Option DbJob))
  | 0 => pure (.ok none)
  | attempts + 1 => do
      match ← ask (.claim now) with
      | .failed error => pure (.error error)
      | .empty => pure (.ok none)
      | .contended => claimLoop now attempts
      | .claimed job => pure (.ok (some job))

/-- Recover stale rows, then claim. -/
def claimOne (settings : Settings) : Worker (Except GoError (Option DbJob)) := do
  let now ← ask .now
  match ← ask (.recoverStaleProcessing now) with
  | .failed error => pure (.error error)
  | .unread _ => claimLoop now (if settings.optimisticClaimLoop then 5 else 1)
  | .affected rows => do
      observeRecovered rows
      claimLoop now (if settings.optimisticClaimLoop then 5 else 1)

/-- Settle a success. -/
def markDone (job : DbJob) : Worker (Option GoError) :=
  match databaseProcessingClaim job with
  | .error error => pure (some error)
  | .ok (id, token) => do
      let result ← ask (.settle .succeeded (.done id token))
      pure (requireDatabaseSettlementRow result)

/-- The statement that persists a classified failure. -/
def failureStatement (job : DbJob) (runErr : GoError) (settlement : FailureSettlement)
    (id : Int) (token : String) : Statement :=
  if settlement.state = .dead then
    .dead settlement.attempt runErr.message id token
  else
    .pending settlement.attempt settlement.availableAt runErr.message
      (databasePendingRecoveryToken job settlement) id token

/-- Settle a failure. -/
def markFailed (job : DbJob) (runErr : GoError) : Worker (Option GoError) :=
  match databaseProcessingClaim job with
  | .error error => pure (some error)
  | .ok (id, token) => do
      let now ← ask .now
      match classifyDatabaseFailure job runErr now with
      | .error error => pure (some error)
      | .ok settlement => do
          let result ← ask
            (.settle (classifyAttempt job.deliveryAttempt (some runErr))
              (failureStatement job runErr settlement id token))
          pure (requireDatabaseSettlementRow result)

/-- The loop shared by `markDoneWithRetry` and `markFailedWithRetry`. -/
def finalizeLoop (operation : String) (finalize : Worker (Option GoError)) :
    Nat -> GoError -> Worker (Option GoError)
  | 0, lastErr => pure (some (.wrap operation lastErr))
  | attempts + 1, _ => do
      match ← finalize with
      | none => pure none
      | some error => finalizeLoop operation finalize attempts error

/-- Settle a success, retrying. -/
def markDoneWithRetry (job : DbJob) : Worker (Option GoError) :=
  finalizeLoop "finalize successful database job" (markDone job)
    databaseFinalizeRetryCount (.text "%!w(<nil>)")

/-- Settle a failure, retrying. -/
def markFailedWithRetry (job : DbJob) (runErr : GoError) : Worker (Option GoError) :=
  finalizeLoop "finalize failed database job" (markFailed job runErr)
    databaseFinalizeRetryCount (.text "%!w(<nil>)")

/-- Repair the lineage of a row. -/
def restoreRecoveredSettlementLineage
    (settings : Settings) (job : DbJob) (settlementErr : GoError) :
    Worker (Option GoError) := do
  let now ← ask .now
  match databaseSettlementRecoveryToken job with
  | .error error => pure (some error)
  | .ok none => pure none
  | .ok (some recoveryToken) =>
    match databaseProcessingClaim job with
    | .error error => pure (some error)
    | .ok (id, token) => do
        let availableAt := now + databaseSettlementRecoveryDelay settings.pollInterval
        let result ← ask (.repair
          (.repair availableAt recoveryToken settlementErr.message id token job.attempt))
        pure (requireDatabaseSettlementRow result)

/-- Repair and report. -/
def handleSettlementFailure (settings : Settings) (job : DbJob) (settlementErr : GoError) :
    Worker Unit := do
  match ← restoreRecoveredSettlementLineage settings job settlementErr with
  | none => ask (.observe (.settlementFailed job settlementErr))
  | some repairErr =>
    ask (.observe (.settlementFailed job (.join settlementErr
        (.wrap "restore recovered database settlement lineage" repairErr))))

/-- Report an archived job. -/
def observeConfirmedProcessArchive (job : DbJob) (runErr : GoError) : Worker Unit :=
  if classifyAttempt job.deliveryAttempt (some runErr) = .failed then
    ask (.observe (.processArchived job runErr))
  else pure ()

/-- The error of a job type without a handler. -/
def noHandlerError (job : DbJob) : GoError :=
  .text ("no handler registered for job type " ++ quoted job.jobType)

/-- Handle and settle one job. -/
def processJob (settings : Settings) (job : DbJob) : Worker Unit := do
  if ← ask (.lookup job.jobType) then
    let committed ← ask (.reports job)
    let err ← ask (.result job)
    let job := { job with applicationStateCommitted := committed }
    match err with
    | none =>
      match ← markDoneWithRetry job with
      | some settlementErr => handleSettlementFailure settings job settlementErr
      | none => ask (.commit job)
    | some err =>
      match ← markFailedWithRetry job err with
      | some settlementErr => handleSettlementFailure settings job settlementErr
      | none => do
          ask (.commit job)
          observeConfirmedProcessArchive job err
  else
    let runErr := noHandlerError job
    match ← markFailedWithRetry job runErr with
    | some settlementErr => handleSettlementFailure settings job settlementErr
    | none => observeConfirmedProcessArchive job runErr

/-- One round of `workerLoop`, returning the token of the claim it
processed. -/
def workerRound (settings : Settings) : Worker (Option String) := do
  match ← claimOne settings with
  | .error _ => pure none
  | .ok none => pure none
  | .ok (some job) => do
      processJob settings job
      pure (some job.processingToken)

/-! ## The machine -/

/-- A committed claim and the worker that made it. -/
structure Claim where
  label : Nat
  job : DbJob
  deriving DecidableEq, Repr

/-- A settlement or repair that changed a row; a repair persists no
decision. -/
structure Change where
  decision : Option AttemptDecision
  statement : Statement
  before : Row
  deriving DecidableEq, Repr

/-- The token that fences it. -/
def Change.token (change : Change) : String := change.statement.token

/-- The table, the next row id, and the history of a run, newest first. -/
structure World where
  table : Table
  nextId : Int
  claims : List Claim
  /-- Generations that reported their application state as committed. -/
  reported : List String
  changes : List Change
  /-- Settlements of one affected row that the driver learned of. -/
  confirmed : List (String × AttemptDecision)
  /-- Generations whose deferred facts were run. -/
  committed : List String
  events : List Event
  /-- Generations whose `processJob` returned. -/
  returned : List String

/-- A table in which nothing has happened yet. -/
def World.start (table : Table) (nextId : Int) : World :=
  { table := table, nextId := nextId, claims := [], reported := [],
    changes := [], confirmed := [], committed := [], events := [],
    returned := [] }

/-- The change that a statement makes to a table, if it makes one. -/
def Statement.changeOf (statement : Statement) (decision : Option AttemptDecision)
    (table : Table) : List Change :=
  match table.get statement.id with
  | none => []
  | some row =>
    if statement.selects statement.id row then
      [{ decision := decision, statement := statement, before := row }]
    else []

/-- Execute a settlement or repair. -/
def World.execute (world : World) (decision : Option AttemptDecision)
    (statement : Statement) : World :=
  { world with
    table := statement.apply world.table
    changes := statement.changeOf decision world.table ++ world.changes }

/-- Record a settlement of one row that the driver learned of. -/
def World.confirm (world : World) (token : String) (decision : AttemptDecision)
    (rows : Nat) : World :=
  if rows = 1 then
    { world with confirmed := (token, decision) :: world.confirmed }
  else world

/-- The fate of one statement. -/
inductive Execution
  | reported
  /-- Executed, but the affected rows could not be read. -/
  | unread (error : GoError)
  /-- Executed, but reported as failed. -/
  | lost (error : GoError)
  /-- Not executed. -/
  | refused (error : GoError)
  deriving DecidableEq, Repr

/-- What the environment chooses about an operation. -/
inductive Choice
  | time (now : Int)
  | execution (execution : Execution)
  /-- Claim a row with random bytes; the commit may be reported as failed. -/
  | claim (id : Int) (random : List UInt8) (commitError : Option GoError)
  | claimFailed (error : GoError)
  | noRow
  | contended
  | registered (found : Bool)
  | reports (committed : Bool)
  | result (error : Option GoError)
  | unit
  deriving DecidableEq, Repr

/-- The token was never given to a claim. -/
def World.unused (world : World) (token : String) : Bool :=
  world.claims.all fun claim => claim.job.processingToken ≠ token

/-- Perform one operation. -/
def exec (settings : Settings) (label : Nat) (world : World) :
    (operation : Op) -> Choice -> Option (Option operation.Answer × World)
  | .now, .time now => some (some now, world)
  | .recoverStaleProcessing now, .execution execution =>
    let after := { world with table := recoverStaleProcessing settings now world.table }
    match execution with
    | .reported =>
      some (some (.affected (world.table.affected fun _ row => row.stale settings now)), after)
    | .unread error => some (some (.unread error), after)
    | .lost error => some (some (.failed error), after)
    | .refused error => some (some (.failed error), world)
  | .claim now, .claim id random commitError =>
    match world.table.get id, newDatabaseProcessingToken random with
    | some row, some token =>
      if row.claimable settings now && world.unused token then
        let job := claimedJob id row token
        some
          (some (match commitError with
            | none => .claimed job
            | some error => .failed error),
          { world with
            table := claimRow id now token world.table
            claims := { label := label, job := job } :: world.claims })
      else none
    | _, _ => none
  | .claim _, .claimFailed error => some (some (.failed error), world)
  | .claim _, .noRow => some (some .empty, world)
  | .claim _, .contended => some (some .contended, world)
  | .lookup _, .registered found => some (some found, world)
  | .reports job, .reports committed =>
    some (some committed, if committed then
        { world with reported := job.processingToken :: world.reported }
      else world)
  | .result _, .result error => some (some error, world)
  | .settle decision statement, .execution execution =>
    let after := world.execute (some decision) statement
    match execution with
    | .reported =>
      let rows := statement.rowsAffected world.table
      some (some (.affected rows), after.confirm statement.token decision rows)
    | .unread error => some (some (.unread error), after)
    | .lost error => some (some (.failed error), after)
    | .refused error => some (some (.failed error), world)
  | .repair statement, .execution execution =>
    let after := world.execute none statement
    match execution with
    | .reported => some (some (.affected (statement.rowsAffected world.table)), after)
    | .unread error => some (some (.unread error), after)
    | .lost error => some (some (.failed error), after)
    | .refused error => some (some (.failed error), world)
  | .commit job, .unit =>
    some (some (), { world with committed := job.processingToken :: world.committed })
  | .observe event, .unit => some (some (), { world with events := event :: world.events })
  | _, _ => none

/-- Moves of dispatchers, administrators and the scheduler. -/
inductive Move
  | dispatch (queueName jobType : String) (timeoutSeconds : Option Int)
      (maxRetry backoffMillis availableAt : Int)
  | admin (admin : Admin)
  | poll
  deriving DecidableEq, Repr

/-- Perform one move of the environment. -/
def external (settings : Settings) (_label : Nat) (world : World) :
    Move -> Option (World × Option (Worker (Option String)))
  | .dispatch queueName jobType timeoutSeconds maxRetry backoffMillis availableAt =>
      some
        ({ world with
            table := world.table.insert world.nextId
              (.dispatched queueName jobType timeoutSeconds maxRetry backoffMillis availableAt)
            nextId := world.nextId + 1 },
          none)
  | .admin admin => some ({ world with table := admin.apply world.table }, none)
  | .poll => some (world, some (workerRound settings))

/-- The SQL queue with its workers. -/
def queue (settings : Settings) : Machine World Op Op.Answer (Option String) Choice Move where
  exec := exec settings
  finish := fun _ result world =>
    some { world with returned := result.toList ++ world.returned }
  external := external settings

/-! ## What a worker does, phase by phase -/

/-- The settlement statement of a claim for the result of its handler. -/
inductive Settles (job : DbJob) : Option GoError -> AttemptDecision -> Statement -> Prop
  | done : Settles job none .succeeded (.done job.id job.processingToken)
  | failed
      {error : GoError} {now : Int} {settlement : FailureSettlement}
      (classified : classifyDatabaseFailure job error now = .ok settlement) :
      Settles job (some error) (classifyAttempt job.deliveryAttempt error)
        (failureStatement job error settlement job.id job.processingToken)

/-- The repair statement of a claim. -/
inductive Repairs (job : DbJob) : Statement -> Prop
  | mk
      {recovery : String} (availableAt : Int) (lastError : String)
      (inherited : databaseSettlementRecoveryToken job = .ok (some recovery)) :
      Repairs job (.repair availableAt recovery lastError job.id job.processingToken job.attempt)

/-- Where a worker is in its round. -/
inductive Phase
  | polling
  | claimed (job : DbJob)
  | called (job : DbJob)
  | running (job : DbJob) (committed : Bool)
  /-- `handled` is false when there is no handler. -/
  | settling (job : DbJob) (result : Option GoError) (handled : Bool)
  /-- Settled, with deferred facts still to run. -/
  | confirmed (job : DbJob) (result : Option GoError)
  /-- Settled, with nothing left but an archive fact. -/
  | published (job : DbJob) (result : Option GoError)
  | failing (job : DbJob)
  | ended (token : String)

/-- Operations of a worker in each phase. -/
inductive WorkerMoves : Phase -> (operation : Op) -> operation.Answer -> Phase -> Prop
  | now (phase : Phase) (time : Int) : WorkerMoves phase .now time phase
  | recovers (now : Int) (result : ExecResult) :
      WorkerMoves .polling (.recoverStaleProcessing now) result .polling
  | observes : WorkerMoves .polling (.observe .processRecovered) () .polling
  | claims (now : Int) (job : DbJob) :
      WorkerMoves .polling (.claim now) (.claimed job) (.claimed job)
  | claimless (now : Int) {answer : ClaimAnswer} (unclaimed : ∀ job, answer ≠ .claimed job) :
      WorkerMoves .polling (.claim now) answer .polling
  | missing (job : DbJob) :
      WorkerMoves (.claimed job) (.lookup job.jobType) false
        (.settling job (some (noHandlerError job)) false)
  | found (job : DbJob) : WorkerMoves (.claimed job) (.lookup job.jobType) true (.called job)
  | reports (job : DbJob) (committed : Bool) :
      WorkerMoves (.called job) (.reports job) committed (.running job committed)
  | result (job : DbJob) (committed : Bool) (result : Option GoError) :
      WorkerMoves (.running job committed) (.result job) result
        (.settling { job with applicationStateCommitted := committed } result true)
  | settles
      {job : DbJob} {result : Option GoError} (handled : Bool)
      {decision : AttemptDecision} {statement : Statement}
      {answer : ExecResult}
      (settles : Settles job result decision statement)
      (unconfirmed : requireDatabaseSettlementRow answer ≠ none) :
      WorkerMoves (.settling job result handled) (.settle decision statement)
        answer (.settling job result handled)
  | confirms
      {job : DbJob} {result : Option GoError} (handled : Bool)
      {decision : AttemptDecision} {statement : Statement}
      (settles : Settles job result decision statement) :
      WorkerMoves (.settling job result handled) (.settle decision statement) (.affected 1)
        (if handled then .confirmed job result else .published job result)
  | repairs
      {job : DbJob} (result : Option GoError) (handled : Bool)
      {statement : Statement} (answer : ExecResult)
      (repairs : Repairs job statement) :
      WorkerMoves (.settling job result handled) (.repair statement) answer (.failing job)
  | fails (job : DbJob) (result : Option GoError) (handled : Bool) (error : GoError) :
      WorkerMoves (.settling job result handled) (.observe (.settlementFailed job error)) ()
        (.ended job.processingToken)
  | failsRepaired (job : DbJob) (error : GoError) :
      WorkerMoves (.failing job) (.observe (.settlementFailed job error)) ()
        (.ended job.processingToken)
  | commits (job : DbJob) (result : Option GoError) :
      WorkerMoves (.confirmed job result) (.commit job) () (.published job result)
  | archives
      {job : DbJob} {error : GoError}
      (failed : classifyAttempt job.deliveryAttempt error = .failed) :
      WorkerMoves (.published job (some error)) (.observe (.processArchived job error)) ()
        (.ended job.processingToken)

/-- The phases in which a round may end, and the claim it then reports. -/
def WorkerStop : Phase -> Option String -> Prop
  | .polling, none => True
  | .published job _, some token => token = job.processingToken
  | .ended settled, some token => token = settled
  | _, _ => False

/-- The protocol of workers. -/
def workerProtocol : Protocol World Op Op.Answer (Option String) Move Phase where
  moves := WorkerMoves
  stop := WorkerStop
  entry := fun _ _ _ phase => phase = .polling

/-! ## Workers keep to the protocol -/

theorem requireDatabaseSettlementRow_eq_none
    (confirmed : requireDatabaseSettlementRow result = none) :
    result = .affected 1 := by
  cases result with
  | failed error => cases confirmed
  | unread error => cases confirmed
  | affected rows =>
    simp only [requireDatabaseSettlementRow] at confirmed
    split at confirmed
    · rename_i single
      rw [single]
    · cases confirmed

theorem databaseProcessingClaim_eq_ok
    {id : Int} (claimed : databaseProcessingClaim job = .ok (id, token)) :
    id = job.id ∧ token = job.processingToken := by
  unfold databaseProcessingClaim at claimed
  split at claimed
  · cases claimed
  · split at claimed
    · cases claimed
    · cases claimed
      exact ⟨rfl, rfl⟩

theorem meets_observeRecovered :
    Meets WorkerMoves (observeRecovered rows) .polling fun _ after => after = .polling := by
  induction rows with
  | zero => rfl
  | succ rows ih =>
    intro answer
    exact ⟨.polling, .observes, ih⟩

/-- The phase after a claim was or was not made. -/
def AfterClaim : Except GoError (Option DbJob) -> Phase -> Prop
  | .ok (some job), after => after = .claimed job
  | _, after => after = .polling

theorem meets_claimLoop : Meets WorkerMoves (claimLoop now attempts) .polling AfterClaim := by
  induction attempts with
  | zero => rfl
  | succ attempts ih =>
    intro answer
    cases answer with
    | failed error => exact ⟨.polling, .claimless now (by simp), rfl⟩
    | empty => exact ⟨.polling, .claimless now (by simp), rfl⟩
    | contended => exact ⟨.polling, .claimless now (by simp), ih⟩
    | claimed job => exact ⟨.claimed job, .claims now job, rfl⟩

theorem meets_claimOne : Meets WorkerMoves (claimOne settings) .polling AfterClaim := by
  intro now
  refine ⟨.polling, .now _ _, ?_⟩
  intro result
  refine ⟨.polling, .recovers now result, ?_⟩
  cases result with
  | failed error => rfl
  | unread error => exact meets_claimLoop
  | affected rows =>
    refine meets_observeRecovered.bind ?_
    rintro _ _ rfl
    exact meets_claimLoop

/-- The phase after an attempt to settle: confirmed, or as before. -/
def AfterSettle (job : DbJob) (result : Option GoError) (handled : Bool) :
    Option GoError -> Phase -> Prop
  | none, after => after = if handled then .confirmed job result else .published job result
  | some _, after => after = .settling job result handled

theorem meets_settle (settles : Settles job result decision statement) :
    Meets WorkerMoves (do
        let answer ← ask (.settle decision statement)
        pure (requireDatabaseSettlementRow answer))
      (.settling job result handled) (AfterSettle job result handled) := by
  intro answer
  cases row : requireDatabaseSettlementRow answer with
  | none =>
    cases requireDatabaseSettlementRow_eq_none row
    exact ⟨_, .confirms handled settles, rfl⟩
  | some error =>
    refine ⟨_, .settles handled settles (by simp [row]), ?_⟩
    change AfterSettle job result handled (requireDatabaseSettlementRow answer) _
    rw [row]
    rfl

theorem meets_markDone :
    Meets WorkerMoves (markDone job) (.settling job none handled)
      (AfterSettle job none handled) := by
  unfold markDone
  split
  · rfl
  · rename_i id token claimed
    obtain ⟨rfl, rfl⟩ := databaseProcessingClaim_eq_ok claimed
    exact meets_settle .done

theorem meets_markFailed :
    Meets WorkerMoves (markFailed job error) (.settling job (some error) handled)
      (AfterSettle job (some error) handled) := by
  unfold markFailed
  split
  · rfl
  · rename_i id token claimed
    obtain ⟨rfl, rfl⟩ := databaseProcessingClaim_eq_ok claimed
    intro now
    refine ⟨_, .now _ _, ?_⟩
    dsimp only [Prog.bind]
    split
    · rfl
    · rename_i settlement classified
      exact meets_settle (.failed classified)

theorem meets_finalizeLoop
    (meets : Meets WorkerMoves finalize (.settling job result handled)
      (AfterSettle job result handled))
    (lastErr : GoError) :
    Meets WorkerMoves (finalizeLoop operation finalize attempts lastErr)
      (.settling job result handled) (AfterSettle job result handled) := by
  induction attempts generalizing lastErr with
  | zero => rfl
  | succ attempts ih =>
    refine meets.bind ?_
    intro outcome after reached
    cases outcome with
    | none => exact reached
    | some error =>
      cases reached
      exact ih error

/-- A round that ends with a claim ends where `processJob` may return. -/
def AfterProcess (job : DbJob) (_ : Unit) (after : Phase) : Prop :=
  WorkerStop after (some job.processingToken)

theorem meets_handleSettlementFailure :
    Meets WorkerMoves (handleSettlementFailure settings job settlementErr)
      (.settling job result handled) (AfterProcess job) := by
  have repaired : Meets WorkerMoves (restoreRecoveredSettlementLineage settings job settlementErr)
      (.settling job result handled)
      fun _ after => after = .settling job result handled ∨ after = .failing job := by
    intro now
    refine ⟨_, .now _ _, ?_⟩
    dsimp only
    split
    · exact .inl rfl
    · exact .inl rfl
    · rename_i recovery inherited
      split
      · exact .inl rfl
      · rename_i id token claimed
        obtain ⟨rfl, rfl⟩ := databaseProcessingClaim_eq_ok claimed
        intro answer
        exact ⟨_, .repairs result handled answer (.mk _ _ inherited), .inr rfl⟩
  refine repaired.bind ?_
  intro outcome after reached
  rcases reached with rfl | rfl <;> cases outcome <;> intro answer
  · exact ⟨_, .fails job result handled _, rfl⟩
  · exact ⟨_, .fails job result handled _, rfl⟩
  · exact ⟨_, .failsRepaired job _, rfl⟩
  · exact ⟨_, .failsRepaired job _, rfl⟩

theorem meets_observeConfirmedProcessArchive :
    Meets WorkerMoves (observeConfirmedProcessArchive job error)
      (.published job (some error)) (AfterProcess job) := by
  unfold observeConfirmedProcessArchive
  split
  · rename_i failed
    intro answer
    exact ⟨_, .archives failed, rfl⟩
  · rfl

theorem meets_processJob :
    Meets WorkerMoves (processJob settings job) (.claimed job) (AfterProcess job) := by
  intro registered
  cases registered with
  | false =>
    refine ⟨_, .missing job, ?_⟩
    refine (meets_finalizeLoop meets_markFailed _).bind ?_
    intro outcome after reached
    cases outcome with
    | none =>
      cases reached
      exact meets_observeConfirmedProcessArchive
    | some error =>
      cases reached
      exact meets_handleSettlementFailure
  | true =>
    refine ⟨_, .found job, ?_⟩
    intro committed
    refine ⟨_, .reports job committed, ?_⟩
    intro result
    refine ⟨_, .result job committed result, ?_⟩
    cases result with
    | none =>
      refine (meets_finalizeLoop meets_markDone _).bind ?_
      intro outcome after reached
      cases outcome with
      | none =>
        cases reached
        intro answer
        exact ⟨_, .commits _ none, rfl⟩
      | some error =>
        cases reached
        exact meets_handleSettlementFailure
    | some error =>
      refine (meets_finalizeLoop meets_markFailed _).bind ?_
      intro outcome after reached
      cases outcome with
      | none =>
        cases reached
        intro answer
        exact ⟨_, .commits _ (some error), meets_observeConfirmedProcessArchive⟩
      | some settlementErr =>
        cases reached
        exact meets_handleSettlementFailure

/-- Every worker round keeps to the protocol. -/
theorem governs : workerProtocol.Governs (queue settings) := by
  intro label before world move program moved
  cases move with
  | dispatch => cases moved
  | admin admin => cases moved
  | poll =>
    cases moved
    refine ⟨.polling, rfl, ?_⟩
    refine meets_claimOne.bind ?_
    intro outcome after reached
    rcases outcome with error | claimed
    · cases reached
      trivial
    · cases claimed with
      | none =>
        cases reached
        trivial
      | some job =>
        cases reached
        refine meets_processJob.bind ?_
        intro _ after stops
        exact stops

end JobQueue.SqlQueue
