import JobQueue.Workflow.Store.Builtin

/-!
# The workflow runtime

What chains and batches share: reporting facts, executing one attempt of a
stored job, validating receipts before recovery trusts them, enqueueing
envelopes, and scheduling and running ephemeral callbacks.

Encoding an envelope cannot fail and decoding is its inverse, so an inbound
delivery is given by its envelope.
-/

namespace JobQueue.Workflow

/-- The parts of `runtime` that its methods read and never change. -/
structure Runtime where
  store : Store
  ephemeralCallbacksDisabled : Bool := false

variable (r : Runtime) (context : DeliveryContext) (env : Envelope)

/-- `newID`. -/
def newID (kind : String) : Engine String := ask (.newID kind)

/-- Reading of the runtime clock. -/
def readClock : Engine Time := ask .now

/-- `emit`: positive facts wait when the driver owns a settlement boundary. -/
def emit (event : Event) : Engine Unit :=
  ask (.emit event (eventWaitsForDeliverySettlement event.kind && context.settlement))

/-- The fact is about a chain; the other facts of workflows are about batches. -/
def EventKind.ofChain : EventKind -> Bool
  | .chainStarted | .chainAdvanced | .chainCompleted | .chainFailed => true
  | _ => false

/-- Report a fact about the workflow of an envelope, without attempt or duration.
Facts about chains name no batch, and facts about batches no chain. -/
def emitFact (kind : EventKind) (eventID : EventID)
    (env : Envelope) (error : Option GoError) : Engine Unit := do
  let time ← readClock
  emit context
    { eventID := eventID
      kind := kind
      dispatchID := env.dispatchID
      jobID := env.jobID
      chainID := if kind.ofChain then env.chainID else ""
      batchID := if kind.ofChain then "" else env.batchID
      jobType := env.job.jobType
      jobKey := storedJobEventKey env.job
      queue := env.job.options.queue
      time := time
      error := error }

/-- Report a fact under a random identifier. -/
def emitFresh (kind : EventKind) (env : Envelope) (error : Option GoError) : Engine Unit := do
  let id ← newID "evt"
  emitFact context kind (.minted id) env error

/-! ## One attempt of a stored job -/

/-- `lookupHandler`. -/
def lookupHandler (jobType : String) : Engine Bool :=
  ask (.lookupHandler jobType)

/-- An application handler is missing for the job type. -/
def missingHandlerError (jobType : String) : GoError :=
  .text ("bus handler not registered for " ++ quoted jobType)

/-- `executeStoredJobAttempt`. -/
def executeStoredJobAttempt : Engine StoredJobOutcome := do
  let attempt := deliveryAttempt context env
  let env := applyDeliveryAttempt context env
  let started ← readClock
  let id ← newID "evt"
  emit context
    { eventID := .minted id
      kind := .jobStarted
      dispatchID := env.dispatchID
      jobID := env.jobID
      chainID := env.chainID
      batchID := env.batchID
      attempt := env.attempt
      jobType := env.job.jobType
      jobKey := storedJobEventKey env.job
      queue := env.job.options.queue
      time := started }
  let registered ← lookupHandler env.job.jobType
  if registered then
    let error ← ask (.handle env)
    let finished ← readClock
    return {
      env := env, attempt := attempt, started := started,
      finished := finished, error := error }
  else
    let finished ← readClock
    return {
      env := env, attempt := attempt, started := started,
      finished := finished,
      error := some (missingHandlerError env.job.jobType) }

/-- `storedJobOutcomeFactID`: a success with complete correlation has a stable
identifier. -/
def storedJobOutcomeFactID (kind : EventKind) (outcome : StoredJobOutcome) : Engine EventID := do
  if kind ≠ .jobSucceeded ∨ outcome.env.dispatchID = "" ∨
      outcome.env.jobID = "" then
    let id ← newID "evt"
    return .minted id
  else
    return .stable kind
      { fields := [outcome.env.dispatchID, outcome.env.jobID,
          outcome.env.chainID, outcome.env.batchID, outcome.env.job.jobType]
        key := storedJobEventKey outcome.env.job
        queue := outcome.env.job.options.queue
        attempt := some outcome.env.attempt }

/-- `emitStoredJobOutcome`: only outcomes that end the logical job. -/
def emitStoredJobOutcome (outcome : StoredJobOutcome) : Engine Unit := do
  if outcome.error ≠ none ∧
      classifyAttempt outcome.attempt outcome.error ≠ .failed then
    return ()
  else
    let kind : EventKind :=
      if outcome.error = none then .jobSucceeded else .jobFailed
    let id ← storedJobOutcomeFactID kind outcome
    emit context
      { eventID := id
        kind := kind
        dispatchID := outcome.env.dispatchID
        jobID := outcome.env.jobID
        chainID := outcome.env.chainID
        batchID := outcome.env.batchID
        attempt := outcome.env.attempt
        jobType := outcome.env.job.jobType
        jobKey := storedJobEventKey outcome.env.job
        queue := outcome.env.job.options.queue
        duration := outcome.finished - outcome.started
        time := outcome.finished
        error := outcome.error }

/-- `executeStoredJob`: a direct job reports its outcome at once. -/
def executeStoredJob : Engine (Option GoError) := do
  let outcome ← executeStoredJobAttempt context env
  emitStoredJobOutcome context outcome
  return outcome.error

/-- `markDeliveryTransitionCommitted`. -/
def markDeliveryTransitionCommitted (claimedNow receiptKnown : Bool) : Engine Unit :=
  if claimedNow && receiptKnown then
    ask .markDeliveryApplicationStateCommitted
  else return ()

/-! ## Receipts and recovery -/

variable (receipt : TransitionReceipt)

/-- `validateRecoveredTransitionReceipt`. -/
def validateRecoveredTransitionReceipt (requireOwnerJobID : Bool) : Option GoError :=
  match validateTransitionReceiptSupport receipt with
  | some error => some error
  | none =>
    if ¬receipt.owner.valid then
      some (.text "transition receipt has incomplete owner identity")
    else if env.dispatchID = "" then
      some (.text "delivery dispatch id is required")
    else if env.jobID = "" then
      some (.text "delivery job id is required")
    else if receipt.owner.dispatchID ≠ env.dispatchID then
      some (.text "transition receipt dispatch does not match delivery")
    else if receipt.owner.jobFingerprint ≠
        storedJobReceiptFingerprint env.job then
      some (.text "transition receipt job fingerprint does not match delivery")
    else if requireOwnerJobID ∧ receipt.owner.jobID ≠ env.jobID then
      some (.text "transition receipt member job id does not match delivery")
    else none

/-- `validateRecoveredTransitionFactIdentity`. -/
def validateRecoveredTransitionFactIdentity : Option GoError :=
  match validateRecoveredTransitionReceipt env receipt true with
  | some error => some error
  | none =>
    if receipt.owner.attempt ≠ env.attempt then
      some (.text ("transition receipt attempt " ++ toString receipt.owner.attempt ++
        " does not match delivery attempt " ++ toString env.attempt))
    else none

/-- `transitionReceiptOwnsRecoveredFacts`. -/
def transitionReceiptOwnsRecoveredFacts (provenance : DeliveryProvenance) : Bool :=
  provenance.recoveredGenerationID != "" &&
    receipt.owner.deliveryID == provenance.recoveredGenerationID &&
    receipt.owner.attempt == env.attempt &&
    receipt.owner.jobID == env.jobID

/-- `recoveredStoredJobSuccess`. -/
def recoveredStoredJobSuccess (observed : Time) : Except GoError StoredJobOutcome :=
  if receipt.outcome ≠ .succeeded then
    .error (.text "transition receipt does not own success")
  else
    match validateRecoveredTransitionFactIdentity env receipt with
    | some error => .error error
    | none =>
      .ok
        { env := env
          attempt := { number := receipt.owner.attempt, maxRetry := 0 }
          started := observed
          finished := observed }

/-! ## Enqueueing -/

/-- `dispatchEnvelope`. -/
def dispatchEnvelope (kind : DeliveryType) (env : Envelope) : Engine (Option GoError) :=
  ask (.busDispatch kind env)

/-- The error that an enqueue reported after the message was accepted. -/
def acceptedExecutionError (error : Option GoError) : Option GoError :=
  error.bind GoError.acceptedDispatchExecutionError

/-! ## Ephemeral callbacks -/

/-- The retained closures of a chain. -/
def readChainCallbacks (chainID : String) : Engine ChainCallbacks :=
  ask (.registry (.chainCallbacks chainID))

/-- The retained closures of a batch. -/
def readBatchCallbacks (batchID : String) : Engine BatchCallbacks :=
  ask (.registry (.batchCallbacks batchID))

/-- `callbackConfigured`. -/
def callbackConfigured (base : Envelope) (kind : CallbackKind) : Engine Bool := do
  match kind with
  | .chainCatch =>
    let callbacks ← readChainCallbacks base.chainID
    return callbacks.onCatch
  | .chainFinally =>
    let callbacks ← readChainCallbacks base.chainID
    return callbacks.onFinally
  | .batchCatch =>
    let callbacks ← readBatchCallbacks base.batchID
    return callbacks.onCatch
  | .batchThen =>
    let callbacks ← readBatchCallbacks base.batchID
    return callbacks.onThen
  | .batchFinally =>
    let callbacks ← readBatchCallbacks base.batchID
    return callbacks.onFinally
  | .unknown _ => return false

/-- `callbackEnvelope`. -/
def callbackEnvelope (base : Envelope) (kind : CallbackKind) (error : Option GoError) :
    Engine (Option Envelope) := do
  let configured ← callbackConfigured base kind
  if configured then
    let id ← newID "job"
    return some
      { dispatchID := base.dispatchID
        kind := .callback
        jobID := id
        chainID := base.chainID
        batchID := base.batchID
        callbackKind := kind
        job :=
          { jobType := base.job.jobType
            payload := base.job.payload
            options := { queue := base.job.options.queue } }
        error := (error.map GoError.message).getD "" }
  else return none

/-- `dispatchCallback`; every caller discards its result. -/
def dispatchCallback (base : Envelope) (kind : CallbackKind) (error : Option GoError) :
    Engine (Option GoError) := do
  match ← callbackEnvelope base kind error with
  | none => return none
  | some callback => dispatchEnvelope .callback callback

/-- `errCallbackAlreadyInvoked`. -/
def errCallbackAlreadyInvoked : GoError :=
  .sentinel "workflow callback already invoked"

/-- `errCallbackUnavailable`. -/
def errCallbackUnavailable : GoError :=
  .sentinel "workflow callback is unavailable"

/-- `errCallbackNotReady`. -/
def errCallbackNotReady : GoError :=
  .sentinel "workflow callback state is not ready"

/-- `callbackOnce`. -/
def callbackOnce (key : String) : Engine (Except GoError Bool) := do
  match ← r.store.markCallbackInvoked key with
  | .error error => return .error (uncommittedMutationError "mark callback invoked" error)
  | .ok marked => return .ok marked

/-- What distinguishes the five callbacks once their state was read. -/
structure CallbackTarget where
  workflowID : String
  key : String
  ready : Bool
  /-- Read whether the closure is still retained. -/
  retained : Engine Bool
  /-- Release the closure after it ran. -/
  release : Engine Unit

/-- The shared shape of the five `invoke…Observed` functions: check the state,
claim the key, report the start, run the retained closure. Returns the result
and the instant from which the run is timed. -/
def invokeObserved (kind : CallbackKind) (target : CallbackTarget)
    (cause : Option GoError) (start : Time) (onClaimed : Engine Time) :
    Engine (Option GoError × Time) := do
  if ¬target.ready then return (some errCallbackNotReady, start)
  else
    match ← callbackOnce r target.key with
    | .error error => return (some error, start)
    | .ok false => return (some errCallbackAlreadyInvoked, start)
    | .ok true =>
      let claimed ← onClaimed
      let retained ← target.retained
      if retained then
        let result ← ask (.runCallback kind target.workflowID cause)
        target.release
        return (result, claimed)
      else return (some errCallbackUnavailable, claimed)

/-- `invokeChainCatchObserved`. -/
def invokeChainCatchObserved (state : ChainState) (cause : Option GoError)
    (start : Time) (onClaimed : Engine Time) :
    Engine (Option GoError × Time) :=
  invokeObserved r .chainCatch
    { workflowID := state.chainID
      key := "chain_catch:" ++ state.chainID
      ready := state.failed && !state.completed
      retained := do
        let callbacks ← readChainCallbacks state.chainID
        return callbacks.onCatch
      release := ask (.registry (.finishChainCallback state.chainID
        .chainCatch)) } cause start onClaimed

/-- `invokeChainFinallyObserved`. -/
def invokeChainFinallyObserved (state : ChainState) (start : Time) (onClaimed : Engine Time) :
    Engine (Option GoError × Time) :=
  invokeObserved r .chainFinally
    { workflowID := state.chainID
      key := "chain_finally:" ++ state.chainID
      ready := state.failed || state.completed
      retained := do
        let callbacks ← readChainCallbacks state.chainID
        return callbacks.onFinally
      release := ask (.registry (.finishChainCallback state.chainID
        .chainFinally)) } none start onClaimed

/-- `invokeBatchCatchObserved`. -/
def invokeBatchCatchObserved (state : BatchState) (cause : Option GoError)
    (start : Time) (onClaimed : Engine Time) :
    Engine (Option GoError × Time) :=
  invokeObserved r .batchCatch
    { workflowID := state.batchID
      key := "batch_catch:" ++ state.batchID
      ready := decide (0 < state.failed) || state.cancelled
      retained := do
        let callbacks ← readBatchCallbacks state.batchID
        return callbacks.onCatch
      release := ask (.registry (.finishBatchCallback state.batchID
        .batchCatch)) } cause start onClaimed

/-- `invokeBatchThenObserved`. -/
def invokeBatchThenObserved (state : BatchState) (start : Time) (onClaimed : Engine Time) :
    Engine (Option GoError × Time) :=
  invokeObserved r .batchThen
    { workflowID := state.batchID
      key := "batch_then:" ++ state.batchID
      ready := state.completed && !state.cancelled
      retained := do
        let callbacks ← readBatchCallbacks state.batchID
        return callbacks.onThen
      release := ask (.registry (.finishBatchCallback state.batchID
        .batchThen)) } none start onClaimed

/-- `invokeBatchFinallyObserved`. -/
def invokeBatchFinallyObserved (state : BatchState) (start : Time) (onClaimed : Engine Time) :
    Engine (Option GoError × Time) :=
  invokeObserved r .batchFinally
    { workflowID := state.batchID
      key := "batch_finally:" ++ state.batchID
      ready := state.completed
      retained := do
        let callbacks ← readBatchCallbacks state.batchID
        return callbacks.onFinally
      release := ask (.registry (.finishBatchCallback state.batchID
        .batchFinally)) } none start onClaimed

/-- Read the chain of a callback and invoke it. -/
def withCallbackChain (start : Time) (invoke : ChainState -> Engine (Option GoError × Time)) :
    Engine (Option GoError × Time) := do
  if env.chainID = "" then
    return (some (.text "chain callback requires chain_id"), start)
  else
    match ← r.store.getChain env.chainID with
    | .error error =>
      return (some (uncommittedMutationError "read chain callback state" error), start)
    | .ok state => invoke state

/-- Read the batch of a callback and invoke it. -/
def withCallbackBatch (start : Time) (invoke : BatchState -> Engine (Option GoError × Time)) :
    Engine (Option GoError × Time) := do
  if env.batchID = "" then
    return (some (.text "batch callback requires batch_id"), start)
  else
    match ← r.store.getBatch env.batchID with
    | .error error =>
      return (some (uncommittedMutationError "read batch callback state" error), start)
    | .ok state => invoke state

/-- Route a callback delivery to its kind. -/
def invokeCallback (start : Time) (onClaimed : Engine Time) : Engine (Option GoError × Time) :=
  let cause := if env.error = "" then none else some (.text env.error)
  match env.callbackKind with
  | .chainCatch =>
    withCallbackChain r env start fun state =>
      invokeChainCatchObserved r state cause start onClaimed
  | .chainFinally =>
    withCallbackChain r env start fun state =>
      invokeChainFinallyObserved r state start onClaimed
  | .batchCatch =>
    withCallbackBatch r env start fun state =>
      invokeBatchCatchObserved r state cause start onClaimed
  | .batchThen =>
    withCallbackBatch r env start fun state =>
      invokeBatchThenObserved r state start onClaimed
  | .batchFinally =>
    withCallbackBatch r env start fun state =>
      invokeBatchFinallyObserved r state start onClaimed
  | .unknown _ => return (some (.text "unknown callback kind"), start)

/-- Report that the key of a callback was claimed. -/
def emitCallbackStarted : Engine Time := do
  let start ← readClock
  let id ← newID "evt"
  emit context
    { eventID := .minted id
      kind := .callbackStarted
      dispatchID := env.dispatchID
      jobID := env.jobID
      chainID := env.chainID
      batchID := env.batchID
      jobType := env.job.jobType
      jobKey := storedJobEventKey env.job
      queue := env.job.options.queue
      time := start }
  return start

/-- Report how a callback ended. -/
def emitCallbackEnded (kind : EventKind) (start : Time) (error : Option GoError) : Engine Unit := do
  let id ← newID "evt"
  let finished ← readClock
  let time ← readClock
  emit context
    { eventID := .minted id
      kind := kind
      dispatchID := env.dispatchID
      jobID := env.jobID
      chainID := env.chainID
      batchID := env.batchID
      jobType := env.job.jobType
      jobKey := storedJobEventKey env.job
      queue := env.job.options.queue
      duration := finished - start
      time := time
      error := error }

/-- `handleCallbackEnvelope`. -/
def handleCallbackEnvelope : Engine (Option GoError) := do
  let start ← readClock
  let (result, start) ← invokeCallback r env start (emitCallbackStarted context env)
  match result with
  | some error =>
    if error.isSentinel "workflow callback already invoked" then
      return none
    else if error.isUncommitted then return some error
    else
      emitCallbackEnded context env .callbackFailed start (some error)
      return some error
  | none =>
    emitCallbackEnded context env .callbackSucceeded start none
    return none

/-- `invokeCallbackInline`. -/
def invokeCallbackInline (base : Envelope) (kind : CallbackKind) (error : Option GoError) :
    Engine (Option GoError) := do
  match ← callbackEnvelope base kind error with
  | none => return none
  | some callback => handleCallbackEnvelope r context callback

/-! ## Builders -/

/-- An application job; encoding its payload may fail. -/
structure Job where
  jobType : String
  payload : Except GoError (List UInt8)
  options : JobOptions := {}

/-- `toStoredJob`. -/
def toStoredJob (job : Job) : Except GoError StoredJob :=
  if job.jobType = "" then .error (.text "bus job type is required")
  else
    match job.payload with
    | .error error => .error error
    | .ok payload =>
      .ok { jobType := job.jobType, payload := payload, options := job.options }

/-- A builder's queue is the default of jobs that select none. -/
def withDefaultQueue (queue : String) (job : StoredJob) : StoredJob :=
  if queue ≠ "" ∧ job.options.queue = "" then
    { job with options := { job.options with queue := queue } }
  else job

end JobQueue.Workflow
