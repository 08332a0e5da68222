import JobQueue.Workflow.Operations

/-!
# Workflow stores as programs

A store is a collection of engine programs, one for each method. Methods that
only some stores have are optional, as the engine probes for them at run time.
The two built-in stores have all of them: the memory store asks for one atomic
call, the SQL store for a sequence of statements.
-/

namespace JobQueue.Workflow

/-- Methods of `outcomeStore`. -/
structure OutcomeStore where
  failChainNode : String -> String -> Option GoError -> Engine (Except GoError (ChainState × Bool))
  settleBatchJob : String -> String -> BatchJobOutcome ->
    Engine (Except GoError (BatchState × Bool))

/-- Methods of `transitionReceiptStore`. -/
structure TransitionReceiptStore where
  chainTransitionReceipt : String -> String -> Engine (Except GoError (Option TransitionReceipt))
  batchTransitionReceipt : String -> String -> Engine (Except GoError (Option TransitionReceipt))

/-- A workflow store with the optional capabilities the engine probes for. -/
structure Store where
  createChain : ChainRecord -> Engine (Option GoError)
  advanceChain : String -> String -> Engine (Except GoError (Option ChainNode × Bool))
  failChain : String -> Option GoError -> Engine (Option GoError)
  getChain : String -> Engine (Except GoError ChainState)
  createBatch : BatchRecord -> Engine (Option GoError)
  markBatchJobStarted : String -> String -> Engine (Option GoError)
  markBatchJobSucceeded : String -> String -> Engine (Except GoError (BatchState × Bool))
  markBatchJobFailed : String -> String -> Engine (Except GoError (BatchState × Bool))
  cancelBatch : String -> Engine (Option GoError)
  getBatch : String -> Engine (Except GoError BatchState)
  markCallbackInvoked : String -> Engine (Except GoError Bool)
  outcomeStore : Option OutcomeStore := none
  chainAdvanceStore :
    Option (String -> String -> TransitionClaim ->
      Engine (Except GoError ChainAdvanceResult)) := none
  chainFailureStore :
    Option (String -> String -> Option GoError -> TransitionClaim ->
      Engine (Except GoError ChainFailureResult)) := none
  batchSettlementStore :
    Option (String -> String -> BatchJobOutcome -> TransitionClaim ->
      Engine (Except GoError BatchSettlementResult)) := none
  transitionReceiptStore : Option TransitionReceiptStore := none

/-- The answer of a call that only matters when it succeeds. -/
def failureOf {β : Type} : Except GoError β -> Option GoError
  | .error error => some error
  | .ok _ => none

/-! ## The memory store -/

namespace MemoryStore

/-- `settleBatchOutcome` with its compatibility projection. -/
def settleBatchJob (batchID jobID : String) (outcome : BatchJobOutcome) :
    Engine (Except GoError BatchSettlementResult) :=
  ask (.memory (.settleBatchOutcome batchID jobID outcome {}))

/-- The memory store as the engine calls it. -/
def methods : Store where
  createChain := fun record => ask (.memory (.createChain record))
  advanceChain := fun chainID nodeID => do
    let answer ← ask (.memory (.advanceChainOutcome chainID nodeID {}))
    return (answer : Except GoError ChainAdvanceResult).map fun result =>
      (result.next, result.done)
  failChain := fun chainID cause => ask (.memory (.failChain chainID cause))
  getChain := fun chainID => ask (.memory (.getChain chainID))
  createBatch := fun record => ask (.memory (.createBatch record))
  markBatchJobStarted := fun batchID jobID =>
    ask (.memory (.markBatchJobStarted batchID jobID))
  markBatchJobSucceeded := fun batchID jobID => do
    let answer ← settleBatchJob batchID jobID .succeeded
    return answer.map fun result => (result.state, result.state.completed)
  markBatchJobFailed := fun batchID jobID => do
    let answer ← settleBatchJob batchID jobID .failed
    return answer.map fun result => (result.state, result.state.completed)
  cancelBatch := fun batchID => ask (.memory (.cancelBatch batchID))
  getBatch := fun batchID => ask (.memory (.getBatch batchID))
  markCallbackInvoked := fun key => do
    let marked ← ask (.memory (.markCallbackInvoked key))
    return .ok marked
  outcomeStore := some
    { failChainNode := fun chainID nodeID cause => do
        let answer ← ask (.memory (.failChainOutcome chainID nodeID cause {}))
        return (answer : Except GoError ChainFailureResult).map fun result =>
          (result.state, result.owned)
      settleBatchJob := fun batchID jobID outcome => do
        let answer ← settleBatchJob batchID jobID outcome
        return answer.map fun result => (result.state, result.owned) }
  chainAdvanceStore := some fun chainID nodeID claim =>
    ask (.memory (.advanceChainOutcome chainID nodeID claim))
  chainFailureStore := some fun chainID nodeID cause claim =>
    ask (.memory (.failChainOutcome chainID nodeID cause claim))
  batchSettlementStore := some fun batchID jobID outcome claim =>
    ask (.memory (.settleBatchOutcome batchID jobID outcome claim))
  transitionReceiptStore := some
    { chainTransitionReceipt := fun chainID nodeID =>
        ask (.memory (.chainTransitionReceipt chainID nodeID))
      batchTransitionReceipt := fun batchID jobID =>
        ask (.memory (.batchTransitionReceipt batchID jobID)) }

end MemoryStore

/-! ## The SQL store -/

namespace SqlStore

/-- `GetChain`. -/
def getChain (chainID : String) : Engine (Except GoError ChainState) := do
  match (← ask (.sql (.selectChain chainID)) : Except GoError (Option ChainState)) with
  | .error error => return .error error
  | .ok none => return .error .notFound
  | .ok (some state) => return .ok state

/-- `GetBatch`. -/
def getBatch (batchID : String) : Engine (Except GoError BatchState) := do
  match (← ask (.sql (.selectBatch batchID)) : Except GoError (Option BatchState)) with
  | .error error => return .error error
  | .ok none => return .error .notFound
  | .ok (some state) => return .ok state

/-- Receipt reads outside a transaction. -/
def queryer : TransitionReceiptQueryer Engine where
  row := fun key => ask (.sql (.selectReceipt key))
  memberOutcomes := fun aggregate =>
    ask (.sql (.selectMemberOutcomes aggregate))

/-- `chainTransitionReceipt`. -/
def chainTransitionReceipt (chainID nodeID : String) :
    Engine (Except GoError (Option TransitionReceipt)) := do
  match ← getChain chainID with
  | .error error => return .error error
  | .ok state =>
    match ← getTransitionReceipt queryer .chain chainID nodeID with
    | .error error => return .error error
    | .ok none => return .ok none
    | .ok (some receipt) =>
      if receipt.workflowDispatchID ≠ state.dispatchID ∨
          receipt.workflowCreatedAt ≠ state.createdAt then
        return .error (.text ("chain " ++ quoted chainID ++
          " transition receipt does not match current workflow" ++
          " incarnation"))
      else return .ok (some receipt)

/-- `batchTransitionReceipt`. -/
def batchTransitionReceipt (batchID jobID : String) :
    Engine (Except GoError (Option TransitionReceipt)) := do
  match ← getBatch batchID with
  | .error error => return .error error
  | .ok state =>
    match ← getBatchTransitionReceipt queryer batchID jobID with
    | .error error => return .error error
    | .ok none => return .ok none
    | .ok (some receipt) =>
      if receipt.workflowDispatchID ≠ state.dispatchID ∨
          receipt.workflowCreatedAt ≠ state.createdAt then
        return .error (.text ("batch " ++ quoted batchID ++
          " transition receipt does not match current workflow" ++
          " incarnation"))
      else return .ok (some receipt)

/-! ### Advancing a chain -/

/-- Answer a success that cannot be claimed from a state that was read. -/
def settledAdvance (chainID completedNode : String) (claim : TransitionClaim) (state : ChainState)
    (successOwned : Bool) (disposition : AdvanceDisposition) :
    Engine (Except GoError ChainAdvanceResult) := do
  if dispatchMismatch state.dispatchID claim.dispatchID then
    return .ok { state := state }
  else
    match ← chainTransitionReceipt chainID completedNode with
    | .error error => return .error error
    | .ok receipt =>
      return .ok
        { state := state
          next := disposition.next
          done := disposition.done
          successOwned := successOwned
          receipt := receipt }

/-- Both dispositions of a node, in the order in which they are checked. -/
def advanceDispositions (state : ChainState) (nodeID : String) :
    Except GoError (Bool × AdvanceDisposition) :=
  match chainNodeSuccessDisposition state nodeID with
  | .error error => .error error
  | .ok successOwned =>
    match chainNodeAdvanceDisposition state nodeID with
    | .error error => .error error
    | .ok disposition => .ok (successOwned, disposition)

theorem advance_of_advanceDispositions
    (disposed : advanceDispositions state nodeID = .ok (owned, disposition)) :
    chainNodeAdvanceDisposition state nodeID = .ok disposition := by
  unfold advanceDispositions at disposed
  split at disposed
  · cases disposed
  split at disposed
  · cases disposed
  · cases disposed
    assumption

/-- `readCommittedChainAdvance`: resolve a commit whose answer was lost. -/
def readCommittedChainAdvance
    (chainID nodeID : String) (claim : TransitionClaim) (commitErr : GoError) :
    Engine (Except GoError ChainAdvanceResult) := do
  if ¬claim.valid then return .error commitErr
  else
    match ← chainTransitionReceipt chainID nodeID with
    | .error _ => return .error commitErr
    | .ok none => return .error commitErr
    | .ok (some receipt) =>
      if receipt.owner ≠ claim ∨ receipt.outcome ≠ .succeeded then
        return .error commitErr
      else
        match ← getChain chainID with
        | .error _ => return .error commitErr
        | .ok state =>
          if receipt.workflowDispatchID ≠ state.dispatchID ∨
              receipt.workflowCreatedAt ≠ state.createdAt then
            return .error commitErr
          else
            match advanceDispositions state nodeID with
            | .error _ => return .error commitErr
            | .ok (false, _) => return .error commitErr
            | .ok (true, disposition) =>
              return .ok
                { state := state
                  next := disposition.next
                  done := disposition.done
                  successOwned := true
                  claimedNow := true
                  receipt := some receipt }

/-- The state after the guarded update matched no row. -/
def lostAdvance (chainID completedNode : String) (claim : TransitionClaim) :
    Engine (Except GoError ChainAdvanceResult) := do
  match ← getChain chainID with
  | .error error => return .error error
  | .ok state =>
    match advanceDispositions state completedNode with
    | .error error => return .error error
    | .ok (successOwned, disposition) =>
      if disposition.claimable = false then
        settledAdvance chainID completedNode claim state successOwned disposition
      else if dispatchMismatch state.dispatchID claim.dispatchID then
        return .error (.text ("chain " ++ quoted chainID ++ " dispatch mismatch"))
      else
        return .error (.text ("chain " ++ quoted chainID ++ " node " ++
          quoted completedNode ++ " could not claim success"))

/-- `advanceChainOutcome`: read the chain, then claim the success in a guarded
transaction. -/
def advanceChainOutcome (chainID completedNode : String) (claim : TransitionClaim) :
    Engine (Except GoError ChainAdvanceResult) := do
  match ← getChain chainID with
  | .error error => return .error error
  | .ok state =>
    match advanceDispositions state completedNode with
    | .error error => return .error error
    | .ok (successOwned, disposition) =>
      if disposition.claimable = false then
        settledAdvance chainID completedNode claim state successOwned disposition
      else if dispatchMismatch state.dispatchID claim.dispatchID then
        return .error (.text ("chain " ++ quoted chainID ++ " dispatch mismatch"))
      else
        match (← ask (.sql (.advanceChain chainID completedNode state
            claim)) :
            TxAnswer (Option (ChainState × Option TransitionReceipt))) with
        | .failed error => return .error error
        | .uncertain error => readCommittedChainAdvance chainID completedNode claim error
        | .finished none => lostAdvance chainID completedNode claim
        | .finished (some (advanced, receipt)) =>
          if advanced.completed then
            return .ok
              { state := advanced
                done := true
                successOwned := true
                claimedNow := true
                receipt := receipt }
          else
            return .ok
              { state := advanced
                next := advanced.nodes[advanced.nextIndex.toNat]?
                successOwned := true
                claimedNow := true
                receipt := receipt }

/-! ### Failing a chain -/

/-- Answer a failure that cannot be claimed from a state that was read. -/
def settledFailure (chainID nodeID : String) (claim : TransitionClaim) (state : ChainState)
    (owned : Bool) : Engine (Except GoError ChainFailureResult) := do
  if dispatchMismatch state.dispatchID claim.dispatchID then
    return .ok { state := state }
  else
    match ← chainTransitionReceipt chainID nodeID with
    | .error error => return .error error
    | .ok receipt => return .ok { state := state, owned := owned, receipt := receipt }

/-- `readCommittedChainFailure`: resolve a commit whose answer was lost. -/
def readCommittedChainFailure
    (chainID nodeID : String) (claim : TransitionClaim) (commitErr : GoError) :
    Engine (Except GoError ChainFailureResult) := do
  if ¬claim.valid then return .error commitErr
  else
    match ← chainTransitionReceipt chainID nodeID with
    | .error _ => return .error commitErr
    | .ok none => return .error commitErr
    | .ok (some receipt) =>
      if receipt.owner ≠ claim ∨ receipt.outcome ≠ .failed ∨
          receipt.aggregateCompleted ∨ receipt.aggregateCancelled then
        return .error commitErr
      else
        match ← getChain chainID with
        | .error _ => return .error commitErr
        | .ok state =>
          if receipt.workflowDispatchID ≠ state.dispatchID ∨
              receipt.workflowCreatedAt ≠ state.createdAt then
            return .error commitErr
          else
            match chainNodeFailureDisposition state nodeID with
            | .error _ => return .error commitErr
            | .ok disposition =>
              if ¬disposition.owned ∨ ¬state.failed ∨
                  state.completed then
                return .error commitErr
              else
                return .ok
                  { state := state, owned := true, claimedNow := true, receipt := some receipt }

/-- The state after the guarded update matched no row. -/
def lostFailure (chainID nodeID : String) (claim : TransitionClaim) :
    Engine (Except GoError ChainFailureResult) := do
  match ← getChain chainID with
  | .error error => return .error error
  | .ok state =>
    match chainNodeFailureDisposition state nodeID with
    | .error error => return .error error
    | .ok disposition =>
      if disposition.claimable = false then
        settledFailure chainID nodeID claim state disposition.owned
      else if dispatchMismatch state.dispatchID claim.dispatchID then
        return .error (.text ("chain " ++ quoted chainID ++ " dispatch mismatch"))
      else
        return .error (.text ("chain " ++ quoted chainID ++ " node " ++
          quoted nodeID ++ " could not claim failure"))

/-- `failChainOutcome`: read the chain, then claim the failure in a guarded
transaction. -/
def failChainOutcome (chainID nodeID : String) (cause : Option GoError)
    (claim : TransitionClaim) : Engine (Except GoError ChainFailureResult) := do
  match ← getChain chainID with
  | .error error => return .error error
  | .ok state =>
    match chainNodeFailureDisposition state nodeID with
    | .error error => return .error error
    | .ok disposition =>
      if disposition.claimable = false then
        settledFailure chainID nodeID claim state disposition.owned
      else if dispatchMismatch state.dispatchID claim.dispatchID then
        return .error (.text ("chain " ++ quoted chainID ++ " dispatch mismatch"))
      else
        match (← ask (.sql (.failChainNode chainID nodeID state cause
            claim)) :
            TxAnswer (Option (ChainState × Option TransitionReceipt))) with
        | .failed error => return .error error
        | .uncertain error => readCommittedChainFailure chainID nodeID claim error
        | .finished none => lostFailure chainID nodeID claim
        | .finished (some (failed, receipt)) =>
          return .ok { state := failed, owned := true, claimedNow := true, receipt := receipt }

/-! ### Batches -/

/-- `readCommittedBatchSettlement`: resolve a commit whose answer was lost. -/
def readCommittedBatchSettlement (batchID jobID : String) (outcome : BatchJobOutcome)
    (claim : TransitionClaim) (commitErr : GoError) :
    Engine (Except GoError BatchSettlementResult) := do
  if ¬claim.valid then return .error commitErr
  else
    match ← batchTransitionReceipt batchID jobID with
    | .error _ => return .error commitErr
    | .ok none => return .error commitErr
    | .ok (some receipt) =>
      if receipt.owner ≠ claim ∨ receipt.outcome ≠ outcome then
        return .error commitErr
      else
        match ← getBatch batchID with
        | .error _ => return .error commitErr
        | .ok state =>
          return .ok { state := state, owned := true, claimedNow := true, receipt := some receipt }

/-- `markBatchTerminal`. -/
def markBatchTerminal (batchID jobID : String) (outcome : BatchJobOutcome)
    (claim : TransitionClaim) :
    Engine (Except GoError BatchSettlementResult) := do
  match (← ask (.sql (.settleBatch batchID jobID
      (decide (outcome = .failed)) claim)) :
      TxAnswer Database.SettlementRow) with
  | .failed error => return .error error
  | .uncertain error => readCommittedBatchSettlement batchID jobID outcome claim error
  | .finished row =>
    return .ok
      { state := row.state, owned := row.owned, claimedNow := row.claimed, receipt := row.receipt }

/-- `settleBatchOutcome`. -/
def settleBatchOutcome (batchID jobID : String) (outcome : BatchJobOutcome)
    (claim : TransitionClaim) :
    Engine (Except GoError BatchSettlementResult) :=
  match outcome with
  | .succeeded => markBatchTerminal batchID jobID .succeeded claim
  | .failed => markBatchTerminal batchID jobID .failed claim
  | .unsupported text => return .error (.text ("unsupported batch job outcome " ++ quoted text))

/-- `CreateBatch`. -/
def createBatch (record : BatchRecord) : Engine (Option GoError) := do
  match validateBatchRecord record with
  | some error => return some error
  | none =>
    match (← ask (.sql (.insertBatch record)) : TxAnswer Unit) with
    | .failed error => return some error
    | .uncertain error => return some error
    | .finished _ => return none

/-- `MarkBatchJobStarted`. -/
def markBatchJobStarted (batchID jobID : String) : Engine (Option GoError) := do
  match (← ask (.sql (.startMember batchID jobID)) : Except GoError Nat) with
  | .error error => return some error
  | .ok (_ + 1) => return none
  | .ok 0 =>
    match (← ask (.sql (.selectMember batchID jobID)) : Except GoError (Option BatchJobStatus)) with
    | .error error => return some error
    | .ok none => return some .notFound
    | .ok (some _) => return none

/-- The SQL store as the engine calls it. -/
def methods : Store where
  createChain := fun record => do
    match validateChainRecord record with
    | some error => return some error
    | none =>
      let answer ← ask (.sql (.insertChain record))
      return failureOf (answer : Except GoError Unit)
  advanceChain := fun chainID nodeID => do
    let answer ← advanceChainOutcome chainID nodeID {}
    return answer.map fun result => (result.next, result.done)
  failChain := fun chainID cause => do
    let answer ← ask (.sql (.failChain chainID cause))
    return failureOf (answer : Except GoError Unit)
  getChain := getChain
  createBatch := createBatch
  markBatchJobStarted := markBatchJobStarted
  markBatchJobSucceeded := fun batchID jobID => do
    let answer ← settleBatchOutcome batchID jobID .succeeded {}
    return answer.map fun result => (result.state, result.state.completed)
  markBatchJobFailed := fun batchID jobID => do
    let answer ← settleBatchOutcome batchID jobID .failed {}
    return answer.map fun result => (result.state, result.state.completed)
  cancelBatch := fun batchID => do
    let answer ← ask (.sql (.cancelBatch batchID))
    return failureOf (answer : Except GoError Unit)
  getBatch := getBatch
  markCallbackInvoked := fun key =>
    ask (.sql (.insertCallbackInvocation key))
  outcomeStore := some
    { failChainNode := fun chainID nodeID cause => do
        let answer ← failChainOutcome chainID nodeID cause {}
        return answer.map fun result => (result.state, result.owned)
      settleBatchJob := fun batchID jobID outcome => do
        let answer ← settleBatchOutcome batchID jobID outcome {}
        return answer.map fun result => (result.state, result.owned) }
  chainAdvanceStore := some advanceChainOutcome
  chainFailureStore := some failChainOutcome
  batchSettlementStore := some settleBatchOutcome
  transitionReceiptStore := some
    { chainTransitionReceipt := chainTransitionReceipt
      batchTransitionReceipt := batchTransitionReceipt }

end SqlStore

/-- The stores this repository provides. -/
inductive StoreKind
  | memory
  | sql
  deriving DecidableEq, Repr

/-- The methods of a built-in store. -/
def StoreKind.methods : StoreKind -> Store
  | .memory => MemoryStore.methods
  | .sql => SqlStore.methods

end JobQueue.Workflow
