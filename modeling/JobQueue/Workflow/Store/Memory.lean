import JobQueue.Collections.KeyedList
import JobQueue.Workflow.Store.Dispositions
import Mathlib.Logic.Function.Basic

/-!
# The in-memory workflow store

Every method of `memoryStore` runs under one mutex, so each is a function from
the store to its result and the store it leaves behind. The clock reading a
method takes is an argument. Go maps are partial functions, except the member
map of a batch, whose size matters and which is a keyed list.
-/

namespace JobQueue.Workflow

/-- A stored chain with the identifiers whose success was recorded. -/
structure MemoryChain where
  state : ChainState
  completedNode : String -> Bool

/-- Durable markers of one batch member. -/
structure BatchJobStatus where
  started : Bool := false
  done : Bool := false
  failed : Bool := false
  deriving DecidableEq, Repr

/-- A stored batch with the status of every member. -/
structure MemoryBatch where
  state : BatchState
  jobs : List (String × BatchJobStatus)
  deriving DecidableEq, Repr

/-- Contents of the in-memory store. -/
structure MemoryStore where
  chains : String -> Option MemoryChain
  batch : String -> Option MemoryBatch
  callbacks : String -> Option Time
  transitionReceipts : TransitionReceiptKey -> Option TransitionReceipt

/-- The state of a chain that has just been recorded. -/
@[simp] def ChainRecord.start (record : ChainRecord) (createdAt updatedAt : Time) : ChainState where
  chainID := record.chainID
  dispatchID := record.dispatchID
  queue := record.queue
  nodes := record.nodes
  nextIndex := 0
  createdAt := createdAt
  updatedAt := updatedAt

/-- The state of a batch that has just been recorded. -/
@[simp] def BatchRecord.start (record : BatchRecord) (createdAt updatedAt : Time) : BatchState where
  batchID := record.batchID
  dispatchID := record.dispatchID
  name := record.name
  queue := record.queue
  allowFailed := record.allowFailed
  total := record.jobs.length
  pending := record.jobs.length
  createdAt := createdAt
  updatedAt := updatedAt

/-- The receipt that a complete claim leaves. -/
def claimedReceipt (kind : WorkflowKind) (workflowID workflowDispatchID : String)
    (workflowCreatedAt : Time) (memberID : String) (outcome : BatchJobOutcome)
    (claim : TransitionClaim) (aggregateCompleted aggregateCancelled : Bool)
    (now : Time) : TransitionReceipt where
  version := transitionReceiptVersion
  eventSchemaVersion := eventSchemaVersion
  workflowKind := kind
  workflowID := workflowID
  workflowDispatchID := workflowDispatchID
  workflowCreatedAt := workflowCreatedAt
  memberID := memberID
  outcome := outcome
  owner := claim
  aggregateCompleted := aggregateCompleted
  aggregateCancelled := aggregateCancelled
  createdAt := now

namespace MemoryStore

/-- `NewMemoryStore`. -/
def empty : MemoryStore where
  chains := fun _ => none
  batch := fun _ => none
  callbacks := fun _ => none
  transitionReceipts := fun _ => none

variable (store : MemoryStore)

/-! ## Receipts -/

/-- Drop the receipts of one workflow. -/
def deleteTransitionReceipts (kind : WorkflowKind) (workflowID : String) : MemoryStore :=
  { store with
    transitionReceipts := fun key =>
      if key.workflowKind = kind ∧ key.workflowID = workflowID then none
      else store.transitionReceipts key }

/-- The receipt of one member, if a settlement owner left one. -/
def transitionReceipt (kind : WorkflowKind) (workflowID memberID : String) :
    Option TransitionReceipt :=
  store.transitionReceipts { workflowKind := kind, workflowID := workflowID, memberID := memberID }

/-- Persist provenance only for a complete claim. -/
def recordTransitionReceipt (kind : WorkflowKind)
    (workflowID workflowDispatchID : String) (workflowCreatedAt : Time) (memberID : String)
    (outcome : BatchJobOutcome) (claim : TransitionClaim)
    (aggregateCompleted aggregateCancelled : Bool) (now : Time) :
    Option TransitionReceipt × MemoryStore :=
  if claim.valid then
    let receipt := claimedReceipt kind workflowID workflowDispatchID workflowCreatedAt memberID
      outcome claim aggregateCompleted aggregateCancelled now
    (some receipt,
      { store with
        transitionReceipts :=
          Function.update store.transitionReceipts
            { workflowKind := kind, workflowID := workflowID,
              memberID := memberID } (some receipt) })
  else (none, store)

/-! ## Chains -/

/-- Replace one stored chain. -/
def setChain (chainID : String) (chain : MemoryChain) : MemoryStore :=
  { store with chains := Function.update store.chains chainID (some chain) }

/-- The chain that a valid record installs. -/
def createdChain (record : ChainRecord) (now : Time) : MemoryChain where
  state := record.start record.createdAt now
  completedNode := fun _ => false

/-- Install a complete chain, dropping the receipts of an earlier one with the
same identifier. -/
def createChain (record : ChainRecord) (now : Time) : Option GoError × MemoryStore :=
  match validateChainRecord record with
  | some error => (some error, store)
  | none =>
    (none, (store.deleteTransitionReceipts .chain record.chainID).setChain record.chainID
      (createdChain record now))

/-- Claim the success of a node and advance past it. -/
def advanceChainOutcome (chainID completedNode : String) (claim : TransitionClaim) (now : Time) :
    Except GoError ChainAdvanceResult × MemoryStore :=
  match store.chains chainID with
  | none => (.error .notFound, store)
  | some chain =>
    match chainNodeSuccessDisposition chain.state completedNode with
    | .error error => (.error error, store)
    | .ok successOwned =>
      match chainNodeAdvanceDisposition chain.state completedNode with
      | .error error => (.error error, store)
      | .ok disposition =>
        if disposition.claimable = false then
          if dispatchMismatch chain.state.dispatchID claim.dispatchID then
            (.ok { state := chain.state }, store)
          else
            (.ok
              { state := chain.state
                next := disposition.next
                done := disposition.done
                successOwned := successOwned
                receipt :=
                  store.transitionReceipt .chain chainID completedNode },
              store)
        else if
            dispatchMismatch chain.state.dispatchID claim.dispatchID then
          (.error (.text ("chain " ++ quoted chainID ++ " dispatch mismatch")), store)
        else
          let completed := Function.update chain.completedNode completedNode true
          let advanced : ChainState :=
            { chain.state with nextIndex := chain.state.nextIndex + 1, updatedAt := now }
          if (advanced.nodes.length : Int) ≤ advanced.nextIndex then
            let state := { advanced with completed := true }
            let recorded :=
              (store.setChain chainID { state := state, completedNode := completed }
              ).recordTransitionReceipt .chain chainID state.dispatchID
                state.createdAt completedNode .succeeded claim true false
                now
            (.ok
              { state := state
                done := true
                successOwned := true
                claimedNow := true
                receipt := recorded.1 },
              recorded.2)
          else
            let recorded :=
              (store.setChain chainID { state := advanced, completedNode := completed }
              ).recordTransitionReceipt .chain chainID
                advanced.dispatchID advanced.createdAt completedNode
                .succeeded claim false false now
            (.ok
              { state := advanced
                next := advanced.nodes[advanced.nextIndex.toNat]?
                successOwned := true
                claimedNow := true
                receipt := recorded.1 },
              recorded.2)

/-- Stored failure text of a cause; a nil cause keeps the earlier text. -/
def failureText (current : String) : Option GoError -> String
  | none => current
  | some cause => cause.message

/-- Claim terminal failure of the node the chain is waiting for. -/
def failChainOutcome (chainID nodeID : String) (cause : Option GoError)
    (claim : TransitionClaim) (now : Time) :
    Except GoError ChainFailureResult × MemoryStore :=
  match store.chains chainID with
  | none => (.error .notFound, store)
  | some chain =>
    match chainNodeFailureDisposition chain.state nodeID with
    | .error error => (.error error, store)
    | .ok disposition =>
      if disposition.claimable = false then
        if dispatchMismatch chain.state.dispatchID claim.dispatchID then
          (.ok { state := chain.state }, store)
        else
          (.ok
            { state := chain.state
              owned := disposition.owned
              receipt := store.transitionReceipt .chain chainID nodeID },
            store)
      else if
          dispatchMismatch chain.state.dispatchID claim.dispatchID then
        (.error (.text ("chain " ++ quoted chainID ++ " dispatch mismatch")), store)
      else
        let state : ChainState :=
          { chain.state with
            failed := true
            failure := failureText chain.state.failure cause
            updatedAt := now }
        let recorded :=
          (store.setChain chainID { chain with state := state }
          ).recordTransitionReceipt .chain chainID state.dispatchID
            state.createdAt nodeID .failed claim false false now
        (.ok
          { state := state, owned := true, claimedNow := true, receipt := recorded.1 },
          recorded.2)

/-- Record a terminal cause for unfinished work only. -/
def failChain (chainID : String) (cause : Option GoError) (now : Time) :
    Option GoError × MemoryStore :=
  match store.chains chainID with
  | none => (some .notFound, store)
  | some chain =>
    if chain.state.completed = false ∧ chain.state.failed = false then
      (none, store.setChain chainID
          { chain with
            state :=
              { chain.state with
                failed := true
                failure := failureText chain.state.failure cause
                updatedAt := now } })
    else (none, store)

/-- Read a chain. -/
def getChain (chainID : String) : Except GoError ChainState :=
  match store.chains chainID with
  | none => .error .notFound
  | some chain => .ok chain.state

/-- Remove one transient recording state. -/
def discardChain (chainID : String) : MemoryStore :=
  { store with chains := Function.update store.chains chainID none }
    |>.deleteTransitionReceipts .chain chainID

/-- The receipt of a node, refused when it belongs to another incarnation of
the chain or cannot be interpreted. -/
def chainTransitionReceipt (chainID nodeID : String) : Except GoError (Option TransitionReceipt) :=
  match store.chains chainID with
  | none => .error .notFound
  | some chain =>
    match store.transitionReceipt .chain chainID nodeID with
    | none => .ok none
    | some receipt =>
      if receipt.workflowDispatchID ≠ chain.state.dispatchID ∨
          receipt.workflowCreatedAt ≠ chain.state.createdAt then
        .error (.text ("chain " ++ quoted chainID ++
          " transition receipt does not match current workflow" ++
          " incarnation"))
      else
        match validateTransitionReceiptSupport receipt with
        | some error => .error error
        | none => .ok (some receipt)

/-! ## Batches -/

/-- Replace one stored batch. -/
def setBatch (batchID : String) (batch : MemoryBatch) : MemoryStore :=
  { store with batch := Function.update store.batch batchID (some batch) }

/-- The batch that a valid record installs. -/
def createdBatch (record : BatchRecord) (now : Time) : MemoryBatch where
  state := record.start record.createdAt now
  jobs := record.jobs.map fun job => (job.jobID, {})

/-- Install aggregate and per-job state together. -/
def createBatch (record : BatchRecord) (now : Time) : Option GoError × MemoryStore :=
  match validateBatchRecord record with
  | some error => (some error, store)
  | none =>
    (none, (store.deleteTransitionReceipts .batch record.batchID).setBatch record.batchID
      (createdBatch record now))

/-- Record that a member began, without touching the counters. -/
def markBatchJobStarted (batchID jobID : String) (now : Time) : Option GoError × MemoryStore :=
  match store.batch batchID with
  | none => (some .notFound, store)
  | some batch =>
    match KeyedList.find jobID batch.jobs with
    | none => (some .notFound, store)
    | some status =>
      (none, store.setBatch batchID
          { state := { batch.state with updatedAt := now }
            jobs := KeyedList.replace jobID { status with started := true } batch.jobs })

/-- The aggregate after one member settles for the first time. -/
def settledState (state : BatchState) (requestedFailure : Bool) (now : Time) : BatchState :=
  let pending := state.pending - 1
  let failFast := requestedFailure && !state.allowFailed
  { state with
    pending := pending
    processed := state.processed + 1
    failed := if requestedFailure then state.failed + 1 else state.failed
    cancelled := if failFast then true else state.cancelled
    completed :=
      if failFast then true
      else if pending ≤ 0 then true
      else state.completed
    updatedAt := now }

/-- Commit the first outcome of a member together with the counters. -/
def settleBatchOutcome (batchID jobID : String) (outcome : BatchJobOutcome)
    (claim : TransitionClaim) (now : Time) :
    Except GoError BatchSettlementResult × MemoryStore :=
  if outcome ≠ .succeeded ∧ outcome ≠ .failed then
    (.error (.text ("unsupported batch job outcome " ++ quoted outcome.text)), store)
  else
    match store.batch batchID with
    | none => (.error .notFound, store)
    | some batch =>
      match KeyedList.find jobID batch.jobs with
      | none => (.error .notFound, store)
      | some status =>
        let requestedFailure := decide (outcome = .failed)
        if status.done then
          if dispatchMismatch batch.state.dispatchID claim.dispatchID then
            (.ok { state := batch.state }, store)
          else
            let state := { batch.state with updatedAt := now }
            (.ok
              { state := state
                owned := status.failed == requestedFailure
                receipt := store.transitionReceipt .batch batchID jobID },
              store.setBatch batchID { batch with state := state })
        else if
            dispatchMismatch batch.state.dispatchID claim.dispatchID then
          (.error (.text ("batch " ++ quoted batchID ++ " dispatch mismatch")), store)
        else
          let state := settledState batch.state requestedFailure now
          let aggregateCompleted := !batch.state.completed && state.completed
          let recorded :=
            (store.setBatch batchID
              { state := state
                jobs := KeyedList.replace jobID
                  { status with done := true, failed := requestedFailure }
                  batch.jobs }
            ).recordTransitionReceipt .batch batchID state.dispatchID
              state.createdAt jobID outcome claim aggregateCompleted
              (aggregateCompleted && state.cancelled) now
          (.ok
            { state := state, owned := true, claimedNow := true, receipt := recorded.1 },
            recorded.2)

/-- Mark a batch terminal, whatever its state. -/
def cancelBatch (batchID : String) (now : Time) : Option GoError × MemoryStore :=
  match store.batch batchID with
  | none => (some .notFound, store)
  | some batch =>
    (none, store.setBatch batchID
        { batch with
          state :=
            { batch.state with cancelled := true, completed := true, updatedAt := now } })

/-- Read a batch. -/
def getBatch (batchID : String) : Except GoError BatchState :=
  match store.batch batchID with
  | none => .error .notFound
  | some batch => .ok batch.state

/-- Remove one transient recording state. -/
def discardBatch (batchID : String) : MemoryStore :=
  { store with batch := Function.update store.batch batchID none }
    |>.deleteTransitionReceipts .batch batchID

/-- The receipt of a member, refused when it belongs to another incarnation of
the batch or cannot be interpreted. -/
def batchTransitionReceipt (batchID jobID : String) : Except GoError (Option TransitionReceipt) :=
  match store.batch batchID with
  | none => .error .notFound
  | some batch =>
    match store.transitionReceipt .batch batchID jobID with
    | none => .ok none
    | some receipt =>
      if receipt.workflowDispatchID ≠ batch.state.dispatchID ∨
          receipt.workflowCreatedAt ≠ batch.state.createdAt then
        .error (.text ("batch " ++ quoted batchID ++
          " transition receipt does not match current workflow" ++
          " incarnation"))
      else
        match validateTransitionReceiptSupport receipt with
        | some error => .error error
        | none => .ok (some receipt)

/-! ## Callbacks and retention -/

/-- Reserve a callback key. -/
def markCallbackInvoked (key : String) (now : Time) : Bool × MemoryStore :=
  match store.callbacks key with
  | some _ => (false, store)
  | none =>
    (true, { store with callbacks := Function.update store.callbacks key now })

/-- A chain that retention may remove. -/
def chainExpired (chain : MemoryChain) (before : Time) : Bool :=
  (chain.state.completed || chain.state.failed) && decide (chain.state.updatedAt < before)

/-- A batch that retention may remove. -/
def batchExpired (batch : MemoryBatch) (before : Time) : Bool :=
  batch.state.completed && decide (batch.state.updatedAt < before)

/-- Remove expired terminal workflows with their receipts, and expired callback
markers. -/
def prune (before : Time) : MemoryStore where
  chains := fun id =>
    (store.chains id).filter fun chain => !chainExpired chain before
  batch := fun id =>
    (store.batch id).filter fun batch => !batchExpired batch before
  callbacks := fun key =>
    (store.callbacks key).filter fun createdAt => decide (before ≤ createdAt)
  transitionReceipts := fun key =>
    let owned :=
      match key.workflowKind with
      | .chain => (store.chains key.workflowID).any (chainExpired · before)
      | .batch => (store.batch key.workflowID).any (batchExpired · before)
    if owned then none else store.transitionReceipts key

end MemoryStore

end JobQueue.Workflow
