import JobQueue.Workflow.Store.BatchTransitions

/-!
# The SQL workflow store: tables, statements and transactions

A database holds the rows of the workflow tables. Every statement is a
function of the database. A transaction takes its row locks with the guarded
update it begins with, so its body is a function of the database as well; it
aborts, is rolled back with a result, or yields the database to commit.

Instants are kept as the columns keep them, cut to whole milliseconds. Schema
creation and the key limits of particular engines only add errors that any
statement may return anyway.
-/

namespace JobQueue.Workflow

/-- The zero value of `time.Time`, the first instant of year one. -/
def zeroTime : Time := -62135596800000000000

/-- An instant as a millisecond column returns it. -/
def storedInstant (time : Time) : Time := time / 1000000 * 1000000

/-- Rows of the workflow tables. -/
structure Database where
  chains : String -> Option ChainState
  chainCompletedNodes : String -> String -> Bool
  batches : String -> Option BatchState
  batchJobs : String -> List (String × BatchJobStatus)
  callbackInvocations : String -> Option Time
  transitionReceipts : List (TransitionReceiptKey × TransitionReceipt)

/-- How the body of a transaction ends. -/
inductive TxBody (β : Type)
  | aborted (error : GoError)
  | rolledBack (result : β)
  | committed (result : β) (db : Database)

/-! ## Receipts -/

/-- `sameTransitionReceipt` compares every field except the timestamp. -/
def sameTransitionReceipt (want persisted : TransitionReceipt) : Bool :=
  decide ({ want with createdAt := 0 } = { persisted with createdAt := 0 })

/-- Checks made on every receipt row that is read. -/
def checkReceiptRow (receipt : TransitionReceipt) : Option GoError :=
  if receipt.version ≠ transitionReceiptVersion ∨
      receipt.eventSchemaVersion ≠ eventSchemaVersion then
    validateTransitionReceiptSupport receipt
  else if receipt.owner.attempt < 0 then
    some (.text ("workflow transition receipt has invalid attempt " ++
      toString receipt.owner.attempt))
  else if receipt.aggregateCancelled ∧ ¬receipt.aggregateCompleted then
    some (.text "workflow transition receipt cancellation is not completed")
  else if ¬receipt.outcome.supported then
    some (.text ("workflow transition receipt has invalid outcome " ++ quoted receipt.outcome.text))
  else if ¬receipt.owner.valid then
    some (.text "workflow transition receipt has incomplete owner identity")
  else none

/-- The receipt reads that run on the database or inside a transaction. -/
structure TransitionReceiptQueryer (m : Type -> Type) where
  row : TransitionReceiptKey -> m (Except GoError (Option TransitionReceipt))
  memberOutcomes : TransitionReceipt -> m (Except GoError (List BatchJobOutcome))

section Queries

variable {m : Type -> Type} [Monad m]

/-- Read one receipt. -/
def getTransitionReceipt (queryer : TransitionReceiptQueryer m) (kind : WorkflowKind)
    (workflowID memberID : String) :
    m (Except GoError (Option TransitionReceipt)) := do
  match ← queryer.row { workflowKind := kind, workflowID := workflowID, memberID := memberID } with
  | .error error => return .error error
  | .ok none => return .ok none
  | .ok (some receipt) =>
    match checkReceiptRow receipt with
    | some error => return .error error
    | none => return .ok (some receipt)

/-- The aggregate row maps to exactly one member receipt of the same claim. -/
def validateBatchAggregateReceiptOwner
    (queryer : TransitionReceiptQueryer m) (aggregate : TransitionReceipt) :
    m (Option GoError) := do
  match ← queryer.memberOutcomes aggregate with
  | .error error => return some error
  | .ok [outcome] =>
    if outcome = aggregate.outcome then return none
    else
      return some (.text ("batch " ++ quoted aggregate.workflowID ++
        " aggregate transition receipt does not match member outcome"))
  | .ok outcomes =>
    return some (.text ("batch " ++ quoted aggregate.workflowID ++
      " aggregate transition receipt owner matches " ++
      toString outcomes.length ++ " member receipts, want exactly one"))

/-- A member receipt with the aggregate ownership of its claim. -/
def mergeAggregateReceipt (batchID : String) (aggregate receipt : TransitionReceipt) :
    Except GoError (Option TransitionReceipt) :=
  if aggregate.workflowDispatchID ≠ receipt.workflowDispatchID ∨
      aggregate.workflowCreatedAt ≠ receipt.workflowCreatedAt then
    .error (.text ("batch " ++ quoted batchID ++
      " aggregate transition receipt does not match member workflow" ++
      " incarnation"))
  else if aggregate.owner = receipt.owner then
    .ok (some
      { receipt with
        aggregateCompleted := aggregate.aggregateCompleted
        aggregateCancelled := aggregate.aggregateCancelled })
  else .ok (some receipt)

/-- Read a member receipt together with the aggregate row of its batch. -/
def getBatchTransitionReceipt (queryer : TransitionReceiptQueryer m) (batchID jobID : String) :
    m (Except GoError (Option TransitionReceipt)) := do
  match ← getTransitionReceipt queryer .batch batchID jobID with
  | .error error => return .error error
  | .ok member =>
    match ← getTransitionReceipt queryer .batch batchID "" with
    | .error error => return .error error
    | .ok none => return .ok member
    | .ok (some aggregate) =>
      if ¬aggregate.aggregateCompleted then
        return .error (.text ("batch " ++ quoted batchID ++
          " aggregate transition receipt does not own completion"))
      else if aggregate.aggregateCancelled ∧
          aggregate.outcome ≠ .failed then
        return .error (.text ("batch " ++ quoted batchID ++
          " aggregate transition receipt cancellation does not own" ++
          " failure"))
      else
        match ← validateBatchAggregateReceiptOwner queryer aggregate with
        | some error => return .error error
        | none =>
          match member with
          | none => return .ok none
          | some receipt => return mergeAggregateReceipt batchID aggregate receipt

end Queries

namespace Database

/-- A freshly created schema. -/
def empty : Database where
  chains := fun _ => none
  chainCompletedNodes := fun _ _ => false
  batches := fun _ => none
  batchJobs := fun _ => []
  callbackInvocations := fun _ => none
  transitionReceipts := []

variable (db : Database)

/-- Outcomes of the member receipts written by the claim of an aggregate. -/
def memberOutcomes (aggregate : TransitionReceipt) : List BatchJobOutcome :=
  (db.transitionReceipts.filter fun row =>
    decide (row.1.workflowKind = aggregate.workflowKind) &&
      row.1.workflowID == aggregate.workflowID && row.1.memberID != "" &&
      row.2.workflowDispatchID == aggregate.workflowDispatchID &&
      row.2.workflowCreatedAt == aggregate.workflowCreatedAt &&
      decide (row.2.owner = aggregate.owner)).map fun row => row.2.outcome

/-- Receipt reads inside a transaction. -/
def queryer : TransitionReceiptQueryer Id where
  row := fun key => .ok (KeyedList.find key db.transitionReceipts)
  memberOutcomes := fun aggregate => .ok (db.memberOutcomes aggregate)

/-- Write the owner of a transition in the transaction that makes it. Rows of
an earlier incarnation are replaced; an existing row of this one must agree. -/
def insertTransitionReceipt (receipt : TransitionReceipt) :
    Except GoError (Option TransitionReceipt × Database) :=
  if receipt.owner.valid then
    let key : TransitionReceiptKey :=
      { workflowKind := receipt.workflowKind
        workflowID := receipt.workflowID
        memberID := receipt.memberID }
    let kept := db.transitionReceipts.filter fun row =>
      !(decide (row.1 = key) && (row.2.workflowDispatchID != receipt.workflowDispatchID ||
          row.2.workflowCreatedAt != receipt.workflowCreatedAt))
    let rows :=
      match KeyedList.find key kept with
      | some _ => kept
      | none => kept ++ [(key, { receipt with createdAt := storedInstant receipt.createdAt })]
    let inserted : Database := { db with transitionReceipts := rows }
    match (getTransitionReceipt inserted.queryer receipt.workflowKind
        receipt.workflowID receipt.memberID : Id _) with
    | .error error => .error error
    | .ok none => .error (.text "workflow transition receipt insert was not readable")
    | .ok (some persisted) =>
      if sameTransitionReceipt receipt persisted then
        .ok (some persisted, inserted)
      else
        .error (.text ("workflow transition receipt for " ++
          receipt.workflowKind.text ++ " " ++ quoted receipt.workflowID ++
          " member " ++ quoted receipt.memberID ++
          " conflicts with its persisted owner"))
  else .ok (none, db)

/-! ## Chains -/

/-- Insert a chain row; the identifier is the primary key. -/
def insertChain (record : ChainRecord) (now : Time) : Except GoError Database :=
  match db.chains record.chainID with
  | some _ => .error (.text "duplicate key")
  | none =>
    let created := storedInstant (if record.createdAt = zeroTime then now else record.createdAt)
    .ok
      { db with
        chains := Function.update db.chains record.chainID (some (record.start created created)) }

/-- The guard of every chain update: the row is still where it was read. -/
def chainUnmoved (chainID : String) (nextIndex : Int) : Option ChainState :=
  (db.chains chainID).filter fun row =>
    decide (row.nextIndex = nextIndex) && !row.completed && !row.failed

/-- Replace one chain row. -/
def setChain (chainID : String) (row : ChainState) : Database :=
  { db with chains := Function.update db.chains chainID (some row) }

/-- Body of the transaction that advances a chain read as `state`. -/
def advanceChainBody (chainID completedNode : String) (state : ChainState)
    (claim : TransitionClaim) (now : Time) :
    TxBody (Option (ChainState × Option TransitionReceipt)) :=
  match db.chainUnmoved chainID state.nextIndex with
  | none => .rolledBack none
  | some row =>
    let completes := decide ((state.nodes.length : Int) ≤ state.nextIndex + 1)
    let advanced : ChainState :=
      { state with
        nextIndex := state.nextIndex + 1
        completed := state.completed || completes
        updatedAt := now }
    let updated : Database :=
      { db with
        chainCompletedNodes := fun id node =>
          db.chainCompletedNodes id node || (id == chainID && node == completedNode) }
    let updated := updated.setChain chainID
      { row with
        nextIndex := row.nextIndex + 1
        completed := row.completed || completes
        updatedAt := storedInstant now }
    match updated.insertTransitionReceipt
        (claimedReceipt .chain chainID advanced.dispatchID advanced.createdAt completedNode
          .succeeded claim advanced.completed false now) with
    | .error error => .aborted error
    | .ok (receipt, final) => .committed (some (advanced, receipt)) final

/-- Body of the transaction that fails a chain read as `state`. -/
def failChainBody (chainID nodeID : String) (state : ChainState)
    (cause : Option GoError) (claim : TransitionClaim) (now : Time) :
    TxBody (Option (ChainState × Option TransitionReceipt)) :=
  match db.chainUnmoved chainID state.nextIndex with
  | none => .rolledBack none
  | some row =>
    let message := (cause.map GoError.message).getD ""
    let failed : ChainState := { state with failed := true, failure := message, updatedAt := now }
    let updated := db.setChain chainID
      { row with failed := true, failure := message, updatedAt := storedInstant now }
    match updated.insertTransitionReceipt
        (claimedReceipt .chain chainID failed.dispatchID failed.createdAt nodeID .failed claim
          false false now) with
    | .error error => .aborted error
    | .ok (receipt, final) => .committed (some (failed, receipt)) final

/-- The single statement of `FailChain`. -/
def failChain (chainID : String) (cause : Option GoError) (now : Time) : Database :=
  match db.chains chainID with
  | none => db
  | some row =>
    if row.completed || row.failed then db
    else
      db.setChain chainID
        { row with
          failed := true
          failure := (cause.map GoError.message).getD ""
          updatedAt := storedInstant now }

/-! ## Batches -/

/-- Body of the transaction that inserts a batch with its members. -/
def insertBatchBody (record : BatchRecord) (now : Time) : TxBody Unit :=
  match db.batches record.batchID with
  | some _ => .aborted (.text "duplicate key")
  | none =>
    let created := storedInstant (if record.createdAt = zeroTime then now else record.createdAt)
    .committed ()
      { db with
        batches := Function.update db.batches record.batchID (some (record.start created created))
        batchJobs := Function.update db.batchJobs record.batchID
          (record.jobs.map fun job => (job.jobID, {})) }

/-- Mark one member started, with the number of rows it changed. -/
def startMember (batchID jobID : String) : Nat × Database :=
  match KeyedList.find jobID (db.batchJobs batchID) with
  | none => (0, db)
  | some status =>
    (1,
      { db with
        batchJobs := Function.update db.batchJobs batchID
          (KeyedList.replace jobID { status with started := true } (db.batchJobs batchID)) })

/-- Replace one batch row. -/
def setBatch (batchID : String) (row : BatchState) : Database :=
  { db with batches := Function.update db.batches batchID (some row) }

/-- The aggregate update of one settlement. -/
def settledRow (row : BatchState) (isFailure : Bool) (now : Time) : BatchState :=
  { row with
    cancelled := if isFailure && !row.allowFailed then true else row.cancelled
    completed :=
      if row.pending ≤ 1 ∨ (isFailure && !row.allowFailed) then true
      else row.completed
    pending := if 0 < row.pending then row.pending - 1 else 0
    processed := row.processed + 1
    failed := if isFailure then row.failed + 1 else row.failed
    updatedAt := storedInstant now }

/-- What a settlement transaction reports. -/
structure SettlementRow where
  state : BatchState
  owned : Bool
  claimed : Bool
  receipt : Option TransitionReceipt := none
  deriving DecidableEq, Repr

/-- Write the member receipt of a settlement and, when it made the batch
terminal, the aggregate row that names the same owner. -/
def insertSettlementReceipts (batchID jobID : String) (before after : BatchState)
    (outcome : BatchJobOutcome) (claim : TransitionClaim) (now : Time) :
    Except GoError (Option TransitionReceipt × Database) :=
  let receipt := claimedReceipt .batch batchID after.dispatchID after.createdAt jobID outcome claim
    false false now
  match db.insertTransitionReceipt receipt with
  | .error error => .error error
  | .ok (none, written) => .ok (none, written)
  | .ok (some member, written) =>
    if !before.completed && after.completed then
      match written.insertTransitionReceipt
          { receipt with
            memberID := ""
            aggregateCompleted := true
            aggregateCancelled := after.cancelled } with
      | .error error => .error error
      | .ok (none, final) => .ok (some member, final)
      | .ok (some aggregate, final) =>
        if aggregate.owner = claim then
          .ok (some
            { member with
              aggregateCompleted := true
              aggregateCancelled := after.cancelled }, final)
        else .ok (some member, final)
    else .ok (some member, written)

/-- Body of the transaction that settles one member (`markBatchTerminal`). -/
def settleBatchBody (batchID jobID : String) (isFailure : Bool)
    (claim : TransitionClaim) (now : Time) : TxBody SettlementRow :=
  match db.batches batchID with
  | none => .aborted .notFound
  | some initial =>
    match KeyedList.find jobID (db.batchJobs batchID) with
    | none => .aborted .notFound
    | some status =>
      let mismatch := dispatchMismatch initial.dispatchID claim.dispatchID
      if status.done then
        if mismatch then
          .rolledBack { state := initial, owned := false, claimed := false }
        else
          let state := { initial with updatedAt := storedInstant now }
          let updated := db.setBatch batchID state
          match (getBatchTransitionReceipt updated.queryer batchID jobID : Id _) with
          | .error error => .aborted error
          | .ok receipt =>
            .committed
              { state := state
                owned := status.failed == isFailure
                claimed := false
                receipt := receipt } updated
      else if mismatch then
        .aborted (.text ("batch " ++ quoted batchID ++ " dispatch mismatch"))
      else
        let state := settledRow initial isFailure now
        let updated : Database :=
          { db with
            batchJobs := Function.update db.batchJobs batchID (KeyedList.replace jobID
                { started := true, done := true, failed := isFailure }
                (db.batchJobs batchID)) }
        match (updated.setBatch batchID state).insertSettlementReceipts
            batchID jobID initial state
            (if isFailure then .failed else .succeeded) claim now with
        | .error error => .aborted error
        | .ok (receipt, final) =>
          .committed { state := state, owned := true, claimed := true, receipt := receipt } final

/-- The single statement of `CancelBatch`; no row is not an error. -/
def cancelBatch (batchID : String) (now : Time) : Database :=
  match db.batches batchID with
  | none => db
  | some row =>
    db.setBatch batchID
      { row with cancelled := true, completed := true, updatedAt := storedInstant now }

/-! ## Callbacks and retention -/

/-- Claim a callback key unless a row exists. -/
def insertCallbackInvocation (key : String) (now : Time) : Bool × Database :=
  match db.callbackInvocations key with
  | some _ => (false, db)
  | none =>
    (true,
      { db with
        callbackInvocations :=
          Function.update db.callbackInvocations key (some (storedInstant now)) })

/-- A chain row that retention removes. -/
def chainExpired (row : ChainState) (cutoff : Time) : Bool :=
  (row.completed || row.failed) && decide (row.updatedAt < cutoff)

/-- A batch row that retention removes. -/
def batchExpired (row : BatchState) (cutoff : Time) : Bool :=
  row.completed && decide (row.updatedAt < cutoff)

/-- The transaction of `Prune`: dependent rows go with their parents. -/
def prune (before : Time) : Database :=
  let cutoff := storedInstant before
  { chains := fun id =>
      (db.chains id).filter fun row => !chainExpired row cutoff
    chainCompletedNodes := fun id node =>
      db.chainCompletedNodes id node && !(db.chains id).any (chainExpired · cutoff)
    batches := fun id =>
      (db.batches id).filter fun row => !batchExpired row cutoff
    batchJobs := fun id =>
      if (db.batches id).any (batchExpired · cutoff) then []
      else db.batchJobs id
    callbackInvocations := fun key =>
      (db.callbackInvocations key).filter fun created =>
        decide (cutoff ≤ created)
    transitionReceipts :=
      db.transitionReceipts.filter fun row =>
        match row.1.workflowKind with
        | .chain => !(db.chains row.1.workflowID).any (chainExpired · cutoff)
        | .batch => !(db.batches row.1.workflowID).any (batchExpired · cutoff) }

end Database

end JobQueue.Workflow
