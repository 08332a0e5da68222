import JobQueue.Workflow.Chain

/-!
# Batches

The programs that dispatch a batch, deliver one of its members and recover a
delivery whose settlement was committed before the delivery itself was
settled.
-/

namespace JobQueue.Workflow

variable (r : Runtime) (context : DeliveryContext) (env : Envelope)
  (outcome : StoredJobOutcome) (state : BatchState)

/-! ## Terminal facts and callbacks -/

/-- `dispatchBatchTerminalCallbacks`. -/
def dispatchBatchTerminalCallbacks : Engine Unit := do
  let succeeded := state.completed && !state.cancelled
  ask (.registry (.prepareBatchTerminalCallbacks env.batchID succeeded (decide (0 < state.failed))))
  if succeeded then
    let _ ← dispatchCallback env .batchThen none
  let _ ← dispatchCallback env .batchFinally none
  ask (.registry (.cleanupBatchCallbacks env.batchID))

/-- `dispatchBatchTerminal`. -/
def dispatchBatchTerminal : Engine Unit := do
  if state.completed ∧ ¬state.cancelled then
    emitFact context .batchCompleted (batchFactID .batchCompleted env) env none
  dispatchBatchTerminalCallbacks env state

/-- `settleBatchJob`: stores without ownership always own the outcome. -/
def settleBatchJob (batchID jobID : String) (outcome : BatchJobOutcome) (claim : TransitionClaim) :
    Engine (Except GoError BatchSettlementResult) :=
  match r.store.batchSettlementStore with
  | some settleBatchOutcome => settleBatchOutcome batchID jobID outcome claim
  | none =>
    match r.store.outcomeStore with
    | some store => do
        let answer ← store.settleBatchJob batchID jobID outcome
        return answer.map fun result =>
          { state := result.1, owned := result.2, claimedNow := true }
    | none =>
      match outcome with
      | .succeeded => do
          let answer ← r.store.markBatchJobSucceeded batchID jobID
          return answer.map fun result =>
            { state := result.1, owned := true, claimedNow := true }
      | .failed => do
          let answer ← r.store.markBatchJobFailed batchID jobID
          return answer.map fun result =>
            { state := result.1, owned := true, claimedNow := true }
      | .unsupported _ => return .error (.text "unsupported batch job outcome")

/-- `batchSettlementOwnsTerminal`. -/
def batchSettlementOwnsTerminal
    (settled : BatchSettlementResult) (outcome : BatchJobOutcome) : Bool :=
  if ¬settled.state.completed then false
  else
    match settled.receipt with
    | none => true
    | some receipt =>
      receipt.supported && decide (receipt.outcome = outcome) && receipt.aggregateCompleted &&
        receipt.aggregateCancelled == settled.state.cancelled

/-- `emitCommittedBatchSuccessFacts`. -/
def emitCommittedBatchSuccessFacts : Engine Unit := do
  emitStoredJobOutcome context { outcome with error := none }
  emitFact context .batchProgressed (batchFactID .batchProgressed env) env none

/-- `batchProgressCallback`: a snapshot of the progress closure. -/
def batchProgressCallback (batchID : String) : Engine Bool := do
  let callbacks ← readBatchCallbacks batchID
  return callbacks.onProgress

/-- `invokeBatchProgress`. -/
def invokeBatchProgress (progress : Bool) : Engine Unit :=
  if progress then ask (.runProgress state) else return ()

/-! ## Recovery -/

/-- `validateRecoveredBatchState`. -/
def validateRecoveredBatchState : Option GoError :=
  if state.batchID ≠ env.batchID then
    some (.text ("requested batch " ++ quoted env.batchID ++
      " returned state for " ++ quoted state.batchID))
  else if dispatchMismatch state.dispatchID env.dispatchID then
    some (.text ("batch " ++ quoted env.batchID ++ " dispatch mismatch"))
  else if state.total ≤ 0 ∨ state.pending < 0 ∨ state.processed < 0 ∨
      state.failed < 0 ∨ state.pending + state.processed ≠ state.total ∨
      state.processed < state.failed then
    some (.text ("batch " ++ quoted env.batchID ++ " has inconsistent counters"))
  else if ¬state.completed ∧ state.pending = 0 then
    some (.text ("batch " ++ quoted env.batchID ++ " exhausted pending members without completing"))
  else if state.completed ∧ ¬state.cancelled ∧ state.pending ≠ 0 then
    some (.text ("batch " ++ quoted env.batchID ++ " completed with pending members"))
  else none

/-- `validateRecoveredBatchReceiptShape`. -/
def validateRecoveredBatchReceiptShape (receipt : TransitionReceipt) : Option GoError :=
  if receipt.aggregateCancelled ∧ ¬receipt.aggregateCompleted then
    some (.text "batch transition receipt cancellation is not completed")
  else if receipt.aggregateCancelled ∧ receipt.outcome ≠ .failed then
    some (.text "batch transition receipt cancellation does not own failure")
  else if ¬receipt.aggregateCompleted then none
  else if ¬state.completed then
    some (.text "batch transition receipt owns completion for nonterminal state")
  else if receipt.aggregateCancelled ≠ state.cancelled then
    some (.text ("batch transition receipt cancellation does not match aggregate" ++ " state"))
  else none

/-- A receipt describes the member and incarnation of a batch state. -/
def receiptMatchesBatch (receipt : TransitionReceipt) : Bool :=
  decide (receipt.workflowKind = .batch) &&
    receipt.workflowID == env.batchID && receipt.memberID == env.jobID &&
    receipt.workflowDispatchID == state.dispatchID &&
    receipt.workflowCreatedAt == state.createdAt

/-- Report the completion that the receipt of this generation owns. -/
def reportRecoveredBatchCompletion
    (receipt : TransitionReceipt) (exactFactOwner : Bool) : Engine Unit :=
  if exactFactOwner && receipt.aggregateCompleted &&
      !receipt.aggregateCancelled && decide (state.pending = 0) &&
      state.completed && !state.cancelled then
    emitFact context .batchCompleted (batchFactID .batchCompleted env) env none
  else return ()

/-- The error that a recovered failed member is settled with. -/
def committedMemberFailure : GoError :=
  (GoError.text ("batch " ++ quoted env.batchID ++ " member " ++
    quoted env.jobID ++ " was already committed as failed;" ++
    " original cause was not persisted")).asPermanent

/-- Recovery of a settlement once its receipt was read. -/
def recoverBatchReceipt (provenance : DeliveryProvenance)
    (env : Envelope) (state : BatchState) (receipt : TransitionReceipt) :
    Engine (Option GoError) := do
  let refuse (error : GoError) : Option GoError :=
    some (uncommittedMutationError "recover committed batch transition" error)
  if ¬receiptMatchesBatch env state receipt then
    return refuse (.text "transition receipt does not match batch state")
  else
    match validateRecoveredTransitionReceipt env receipt true with
    | some error => return refuse error
    | none =>
      match validateRecoveredBatchReceiptShape state receipt with
      | some error => return refuse error
      | none =>
        let exact := transitionReceiptOwnsRecoveredFacts env receipt provenance
        match receipt.outcome with
        | .succeeded =>
          if ¬exact then return none
          else
            let observed ← readClock
            match recoveredStoredJobSuccess env receipt observed with
            | .error error => return refuse error
            | .ok outcome =>
              emitCommittedBatchSuccessFacts context env outcome
              reportRecoveredBatchCompletion context env state receipt exact
              return none
        | .failed =>
          reportRecoveredBatchCompletion context env state receipt exact
          return some (committedMemberFailure env)
        | .unsupported text =>
          return refuse (.text ("unsupported transition receipt outcome " ++ quoted text))

/-- `recoverCommittedBatchTransition`. -/
def recoverCommittedBatchTransition : Engine (Option (Option GoError)) := do
  let refuse (error : GoError) : Option (Option GoError) :=
    some (some (uncommittedMutationError "recover committed batch transition" error))
  match recoveredDeliveryProvenance context with
  | none => return none
  | some provenance =>
    match ← r.store.getBatch env.batchID with
    | .error error => return refuse error
    | .ok state =>
      match validateRecoveredBatchState env state with
      | some error => return refuse error
      | none =>
        match r.store.transitionReceiptStore with
        | none => return none
        | some receipts =>
          match ← receipts.batchTransitionReceipt env.batchID env.jobID with
          | .error error => return refuse error
          | .ok none => return none
          | .ok (some receipt) =>
            let result ← recoverBatchReceipt context provenance env state receipt
            return some result

/-! ## Delivery -/

/-- A failure this delivery claimed. -/
def reportBatchFailure (ownsTerminal progress : Bool) : Engine (Option GoError) := do
  emitStoredJobOutcome context outcome
  emitFact context .batchProgressed (batchFactID .batchProgressed env) env outcome.error
  if ownsTerminal && state.cancelled then
    emitFresh context .batchFailed env outcome.error
    emitFresh context .batchCancelled env none
  if state.failed = 1 then
    let _ ← dispatchCallback env .batchCatch outcome.error
  invokeBatchProgress state progress
  if ownsTerminal then dispatchBatchTerminal context env state
  return outcome.error

/-- A failure that was committed by an earlier delivery. -/
def replayBatchFailure (ownsTerminal : Bool) : Engine (Option GoError) := do
  match recoveredDeliveryProvenance context with
  | some _ => return none
  | none =>
    if state.failed = 1 then
      let _ ← dispatchCallback env .batchCatch outcome.error
    if ownsTerminal then dispatchBatchTerminalCallbacks env state
    return none

/-- `handleInternalBatchJob` after an attempt that ends in failure. -/
def failBatchDelivery (progress : Bool) : Engine (Option GoError) := do
  match ← settleBatchJob r env.batchID env.jobID .failed
      (transitionClaimFromOutcome context outcome) with
  | .error error => return some (uncommittedMutationError "mark batch job failed" error)
  | .ok settled =>
    markDeliveryTransitionCommitted settled.claimedNow settled.receipt.isSome
    if ¬settled.owned then
      match recoveredDeliveryProvenance context with
      | none => return none
      | some _ =>
        let recovered ← recoverCommittedBatchTransition r context outcome.env
        return recovered.getD none
    else
      let ownsTerminal := batchSettlementOwnsTerminal settled .failed
      if ¬settled.claimedNow then
        replayBatchFailure context env outcome settled.state ownsTerminal
      else
        reportBatchFailure context env outcome settled.state ownsTerminal progress

/-- A success this delivery claimed. -/
def reportBatchSuccess (ownsTerminal progress : Bool) : Engine (Option GoError) := do
  emitCommittedBatchSuccessFacts context env outcome
  invokeBatchProgress state progress
  if ownsTerminal then dispatchBatchTerminal context env state
  return none

/-- `handleInternalBatchJob` after an attempt that succeeded. -/
def succeedBatchDelivery (progress : Bool) : Engine (Option GoError) := do
  match ← settleBatchJob r env.batchID env.jobID .succeeded
      (transitionClaimFromOutcome context outcome) with
  | .error error => return some (uncommittedMutationError "mark batch job succeeded" error)
  | .ok settled =>
    markDeliveryTransitionCommitted settled.claimedNow settled.receipt.isSome
    if ¬settled.owned then return none
    else
      let ownsTerminal := batchSettlementOwnsTerminal settled .succeeded
      if ¬settled.claimedNow then
        match recoveredDeliveryProvenance context with
        | some _ =>
          let recovered ← recoverCommittedBatchTransition r context outcome.env
          return recovered.getD none
        | none =>
          if ownsTerminal then
            dispatchBatchTerminalCallbacks env settled.state
          return none
      else
        reportBatchSuccess context env outcome settled.state ownsTerminal progress

/-- The ordinary path of `handleInternalBatchJob`. -/
def executeBatchJob : Engine (Option GoError) := do
  let progress ← batchProgressCallback env.batchID
  match ← r.store.markBatchJobStarted env.batchID env.jobID with
  | some error => return some (uncommittedMutationError "mark batch job started" error)
  | none =>
    let outcome ← executeStoredJobAttempt context env
    match classifyAttempt outcome.attempt outcome.error with
    | .retry => return outcome.error
    | .redeliver => return outcome.error
    | .failed => failBatchDelivery r context env outcome progress
    | .succeeded => succeedBatchDelivery r context env outcome progress

/-- `handleInternalBatchJob`. -/
def handleInternalBatchJob : Engine (Option GoError) := do
  match recoveredDeliveryProvenance context with
  | none => executeBatchJob r context env
  | some _ =>
    let env := applyDeliveryAttempt context env
    match ← recoverCommittedBatchTransition r context env with
    | some result => return result
    | none => executeBatchJob r context env

/-! ## Dispatch -/

/-- A batch builder with its closures. -/
structure BatchBuilder where
  jobs : List Job
  name : String := ""
  queue : String := ""
  allowFailed : Bool := false
  callbacks : BatchCallbacks := {}

/-- Give every job of a batch its member. -/
def batchJobs (queue : String) : List Job -> Engine (Except GoError (List BatchJob))
  | [] => return .ok []
  | job :: jobs => do
      match toStoredJob job with
      | .error error => return .error error
      | .ok stored =>
        let id ← newID "job"
        match ← batchJobs queue jobs with
        | .error error => return .error error
        | .ok members =>
          return .ok ({ jobID := id, job := withDefaultQueue queue stored } :: members)

/-- The envelope of a batch member. -/
def batchJobEnvelope (dispatchID batchID : String) (member : BatchJob) : Envelope where
  dispatchID := dispatchID
  kind := .batchJob
  batchID := batchID
  jobID := member.jobID
  job := member.job

/-- The batch was cancelled after a rejection: report it and run its
callbacks. -/
def reportRejectedBatch (dispatchID batchID : String) (member : BatchJob) (error : GoError) :
    Engine (String × Option GoError) := do
  let env := batchJobEnvelope dispatchID batchID member
  emitFresh context .batchFailed env (some error)
  emitFresh context .batchCancelled env none
  match ← r.store.getBatch batchID with
  | .error stateErr =>
    return (batchID, some (.join error (uncommittedMutationError
      "read batch after initial dispatch rejection" stateErr)))
  | .ok state =>
    let base : Envelope :=
      { dispatchID := dispatchID, kind := .batchJob, batchID := batchID, job := member.job }
    ask (.registry (.prepareBatchTerminalCallbacks batchID false (decide (0 < state.failed))))
    let catchErr ← invokeCallbackInline r context base .batchCatch (some error)
    let finallyErr ← invokeCallbackInline r context base .batchFinally none
    ask (.registry (.cleanupBatchCallbacks batchID))
    return (batchID, GoError.joinAll [some error, catchErr, finallyErr])

/-- The enqueue of a member was rejected. -/
def rejectMember (dispatchID batchID : String) (member : BatchJob) (error : GoError) :
    Engine (String × Option GoError) := do
  let state ← r.store.getBatch batchID
  let progressed : Bool :=
    match state with
    | .error _ => false
    | .ok state => state.completed || decide (0 < state.processed) || decide (0 < state.failed)
  if progressed then return (batchID, some error)
  else
    match ← r.store.cancelBatch batchID with
    | some cancelErr =>
      return (batchID, some (uncommittedMutationError
        "cancel batch after initial dispatch rejection"
        (.join error cancelErr)))
    | none => reportRejectedBatch r context dispatchID batchID member error

/-- The loop of `batchBuilder.Dispatch` over the members. -/
def dispatchMembers (allowFailed : Bool) (dispatchID batchID : String) :
    List BatchJob -> Option GoError -> Engine (String × Option GoError)
  | [], synchronousErr => return (batchID, synchronousErr)
  | member :: members, synchronousErr => do
      let result ← dispatchEnvelope .batchJob (batchJobEnvelope dispatchID batchID member)
      match result with
      | none => dispatchMembers allowFailed dispatchID batchID members synchronousErr
      | some error =>
        match acceptedExecutionError (some error) with
        | some executionError =>
          if allowFailed ∧ ¬executionError.isUncommitted then
            dispatchMembers allowFailed dispatchID batchID
              members (synchronousErr <|> some executionError)
          else return (batchID, some executionError)
        | none => rejectMember r context dispatchID batchID member error

/-- `batchBuilder.Dispatch`. -/
def BatchBuilder.dispatch (b : BatchBuilder) (r : Runtime) (context : DeliveryContext) :
    Engine (String × Option GoError) := do
  if b.jobs = [] then
    return ("", some (.text "batch requires at least one job"))
  else
    let batchID ← newID "bat"
    let dispatchID ← newID "dsp"
    match ← batchJobs b.queue b.jobs with
    | .error error => return ("", some error)
    | .ok members =>
      let createdAt ← readClock
      match ← r.store.createBatch
          { batchID := batchID
            dispatchID := dispatchID
            name := b.name
            queue := b.queue
            allowFailed := b.allowFailed
            jobs := members
            createdAt := createdAt } with
      | some error => return ("", some error)
      | none =>
        if ¬r.ephemeralCallbacksDisabled ∧ b.callbacks.any then
          ask (.registry (.registerBatch batchID b.callbacks))
        match members with
        | [] => return (batchID, none)
        | first :: _ =>
          emitFresh context .batchStarted
            { dispatchID := dispatchID, kind := .batchJob,
              batchID := batchID, job := first.job } none
          dispatchMembers r context b.allowFailed dispatchID batchID members none

/-! ## Routing -/

/-- `handleInternalCallback`. -/
def handleInternalCallback : Engine (Option GoError) :=
  handleCallbackEnvelope r context env

/-- The handlers that `NewWithStore` registers for the delivery types. -/
def handleDelivery (kind : DeliveryType) (env : Envelope) : Engine (Option GoError) :=
  match kind with
  | .direct => executeStoredJob context env
  | .chainNode => handleInternalChainNode r context env
  | .batchJob => handleInternalBatchJob r context env
  | .callback => handleInternalCallback r context env

end JobQueue.Workflow
