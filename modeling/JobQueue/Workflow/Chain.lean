import JobQueue.Workflow.Runtime

/-!
# Chains

The programs that dispatch a chain, deliver one of its nodes and recover a
delivery whose outcome was committed before it was settled. A recovery step
answers `none` when it leaves the delivery to the ordinary path.
-/

namespace JobQueue.Workflow

variable (r : Runtime) (context : DeliveryContext) (env : Envelope)
  (outcome : StoredJobOutcome) (state : ChainState)

/-! ## Transitions -/

/-- `failChainNode`: stores without the atomic capability confirm the state. -/
def failChainNode (chainID nodeID : String) (cause : Option GoError) :
    Engine (Except GoError (ChainState × Bool)) :=
  match r.store.outcomeStore with
  | some store => store.failChainNode chainID nodeID cause
  | none => do
      match ← r.store.getChain chainID with
      | .error error => return .error error
      | .ok state =>
        match chainNodeFailureDisposition state nodeID with
        | .error error => return .error error
        | .ok disposition =>
          if ¬disposition.claimable then
            return .ok (state, disposition.owned)
          else
            match ← r.store.failChain chainID cause with
            | some error => return .error error
            | none =>
              match ← r.store.getChain chainID with
              | .error error => return .error error
              | .ok state =>
                match chainNodeFailureDisposition state nodeID with
                | .error error => return .error error
                | .ok disposition =>
                  if disposition.claimable then
                    return .error (.text ("chain store accepted failure without" ++
                        " terminal state"))
                  else return .ok (state, disposition.owned)

/-- `failChainNodeOutcome`. -/
def failChainNodeOutcome (chainID nodeID : String) (cause : Option GoError)
    (claim : TransitionClaim) : Engine (Except GoError ChainFailureResult) :=
  match r.store.chainFailureStore with
  | some failChainOutcome => failChainOutcome chainID nodeID cause claim
  | none => do
      let answer ← failChainNode r chainID nodeID cause
      return answer.map fun result =>
        { state := result.1, owned := result.2, claimedNow := result.2 }

/-- The state a store without ownership reports: none. -/
def unreportedChainState : ChainState where
  chainID := ""
  dispatchID := ""
  queue := ""
  nodes := []
  nextIndex := 0
  createdAt := zeroTime
  updatedAt := zeroTime

/-- `advanceChainNode`. -/
def advanceChainNode (chainID nodeID : String) (claim : TransitionClaim) :
    Engine (Except GoError ChainAdvanceResult) :=
  match r.store.chainAdvanceStore with
  | some advanceChainOutcome => advanceChainOutcome chainID nodeID claim
  | none => do
      let answer ← r.store.advanceChain chainID nodeID
      return answer.map fun result =>
        { state := unreportedChainState
          next := result.1
          done := result.2
          successOwned := true
          claimedNow := true }

/-- `observedChainFailure`: the committed cause survives redelivery. -/
def observedChainFailure (current : Option GoError) : Option GoError :=
  if state.failure = "" ∨ current.map GoError.message = some state.failure then current
  else if current.any GoError.isPermanent then
    some (GoError.text state.failure).asPermanent
  else some (.text state.failure)

/-! ## Continuation -/

/-- The envelope of a chain node. -/
def chainNodeEnvelope (dispatchID chainID jobID : String) (node : ChainNode) : Envelope where
  dispatchID := dispatchID
  kind := .chainNode
  chainID := chainID
  nodeID := node.nodeID
  jobID := jobID
  job := node.job

/-- `dispatchChainSuccessor`. -/
def dispatchChainSuccessor (next : Option ChainNode) : Engine (Option GoError) := do
  match next with
  | none =>
    return some (uncommittedMutationError "dispatch next chain node"
      (.text "chain store omitted successor"))
  | some node =>
    let id ← newID "job"
    let result ← dispatchEnvelope .chainNode (chainNodeEnvelope env.dispatchID env.chainID id node)
    match acceptedExecutionError result with
    | some executionError =>
      ask (.recordSynchronousChainError executionError)
      return none
    | none =>
      match result with
      | some error => return some (uncommittedMutationError "dispatch next chain node" error)
      | none => return none

/-! ## Recovery -/

/-- `recoverCommittedChainSuccessor`. -/
def recoverCommittedChainSuccessor (index : Nat) : Engine (Option GoError) :=
  if state.completed ∨ state.failed ∨ state.nextIndex ≠ index + 1 then
    return none
  else dispatchChainSuccessor env state.nodes[state.nextIndex.toNat]?

/-- A receipt describes the node and incarnation of a chain state. -/
def receiptMatchesChain (receipt : TransitionReceipt) : Bool :=
  decide (receipt.workflowKind = .chain) &&
    receipt.workflowID == env.chainID && receipt.memberID == env.nodeID &&
    receipt.workflowDispatchID == state.dispatchID &&
    receipt.workflowCreatedAt == state.createdAt

/-- The recovered delivery reports what its generation committed. -/
def reportRecoveredChainSuccess
    (index : Nat) (outcome : StoredJobOutcome) : Engine (Option GoError) := do
  if index + 1 = state.nodes.length then
    emitStoredJobOutcome context outcome
    emitFact context .chainCompleted (chainFactID .chainCompleted env) env none
    return none
  else
    emitStoredJobOutcome context outcome
    emitFact context .chainAdvanced (chainFactID .chainAdvanced env) env none
    recoverCommittedChainSuccessor env state index

/-- Recovery of a success once its receipt was read. -/
def recoverChainReceipt (provenance : DeliveryProvenance)
    (env : Envelope) (state : ChainState) (index : Nat)
    (receipt : TransitionReceipt) : Engine (Option GoError) := do
  let refuse (error : GoError) : Option GoError :=
    some (uncommittedMutationError "recover committed chain success" error)
  if ¬receiptMatchesChain env state receipt then
    return refuse (.text "transition receipt does not match chain state")
  else
    match validateRecoveredTransitionReceipt env receipt false with
    | some error => return refuse error
    | none =>
      if receipt.outcome ≠ .succeeded then
        return refuse (.text "transition receipt does not own success")
      else if receipt.aggregateCancelled then
        return refuse (.text "successful chain receipt cannot own cancellation")
      else if receipt.aggregateCompleted ≠
          decide (index + 1 = state.nodes.length) then
        return refuse (.text ("transition receipt completion does not match chain node" ++
            " position"))
      else if ¬transitionReceiptOwnsRecoveredFacts env receipt
          provenance then
        recoverCommittedChainSuccessor env state index
      else
        let observed ← readClock
        match recoveredStoredJobSuccess env receipt observed with
        | .error error => return refuse error
        | .ok outcome => reportRecoveredChainSuccess context env state index outcome

/-- `recoverCommittedChainSuccess`. -/
def recoverCommittedChainSuccess : Engine (Option (Option GoError)) := do
  let refuse (error : GoError) : Option (Option GoError) :=
    some (some (uncommittedMutationError "recover committed chain success" error))
  match recoveredDeliveryProvenance context with
  | none => return none
  | some provenance =>
    match ← r.store.getChain env.chainID with
    | .error error => return refuse error
    | .ok state =>
      if state.chainID ≠ env.chainID then
        return refuse (.text ("requested chain " ++ quoted env.chainID ++
          " returned state for " ++ quoted state.chainID))
      else if dispatchMismatch state.dispatchID env.dispatchID then
        return refuse (.text ("chain " ++ quoted env.chainID ++ " dispatch mismatch"))
      else
        match chainNodePosition state.nodes env.nodeID with
        | none => return refuse (missingNodeError state env.nodeID)
        | some index =>
          match chainNodeSuccessDisposition state env.nodeID with
          | .error error => return refuse error
          | .ok successOwned =>
            if (state.nodes[index]?).map (·.job) ≠ some env.job then
              return refuse (.text ("chain " ++ quoted env.chainID ++
                " node " ++ quoted env.nodeID ++ " job mismatch"))
            else if ¬successOwned then return none
            else
              match r.store.transitionReceiptStore with
              | none =>
                let result ← recoverCommittedChainSuccessor env state index
                return some result
              | some receipts =>
                match ← receipts.chainTransitionReceipt env.chainID env.nodeID with
                | .error error => return refuse error
                | .ok none =>
                  let result ← recoverCommittedChainSuccessor env state index
                  return some result
                | .ok (some receipt) =>
                  let result ← recoverChainReceipt context provenance env state index receipt
                  return some result

/-- The permanent failure that a committed chain failure is settled with. -/
def committedChainFailure : GoError :=
  if state.failure = "" then
    (GoError.text ("chain " ++ quoted env.chainID ++ " node " ++
      quoted env.nodeID ++ " was already committed as failed;" ++
      " original cause was empty")).asPermanent
  else (GoError.text state.failure).asPermanent

/-- Why the receipt of a failed node cannot be trusted, if it cannot. -/
def refuseFailureReceipt (receipt : TransitionReceipt) : Option GoError :=
  if ¬receiptMatchesChain env state receipt then
    some (.text "transition receipt does not match chain state")
  else if receipt.outcome ≠ .failed then
    some (.text "transition receipt does not own failure")
  else if receipt.aggregateCompleted ∨ receipt.aggregateCancelled then
    some (.text "failed chain receipt cannot own completion")
  else validateRecoveredTransitionReceipt env receipt false

/-- `recoverCommittedChainFailure`. -/
def recoverCommittedChainFailure : Engine (Option (Option GoError)) := do
  let refuse (error : GoError) : Option (Option GoError) :=
    some (some (uncommittedMutationError "recover committed chain failure" error))
  match recoveredDeliveryProvenance context with
  | none => return none
  | some _ =>
    match ← r.store.getChain env.chainID with
    | .error error => return refuse error
    | .ok state =>
      if state.chainID ≠ env.chainID then
        return refuse (.text ("requested chain " ++ quoted env.chainID ++
          " returned state for " ++ quoted state.chainID))
      else if dispatchMismatch state.dispatchID env.dispatchID then
        return refuse (.text ("chain " ++ quoted env.chainID ++ " dispatch mismatch"))
      else if ¬state.failed ∨ state.completed then return none
      else
        match chainNodePosition state.nodes env.nodeID with
        | none => return refuse (missingNodeError state env.nodeID)
        | some index =>
          match chainNodeFailureDisposition state env.nodeID with
          | .error error => return refuse error
          | .ok disposition =>
            if ¬disposition.owned then return none
            else if
                (state.nodes[index]?).map (·.job) ≠ some env.job then
              return refuse (.text ("chain " ++ quoted env.chainID ++
                " node " ++ quoted env.nodeID ++ " job mismatch"))
            else
              match r.store.transitionReceiptStore with
              | none => return none
              | some receipts =>
                match ← receipts.chainTransitionReceipt env.chainID env.nodeID with
                | .error error => return refuse error
                | .ok none => return none
                | .ok (some receipt) =>
                  match refuseFailureReceipt env state receipt with
                  | some error => return refuse error
                  | none => return some (some (committedChainFailure env state))

/-- Try the failure recovery, then the success recovery. -/
def recoverCommittedChain : Engine (Option (Option GoError)) := do
  match ← recoverCommittedChainFailure r context env with
  | some result => return some result
  | none => recoverCommittedChainSuccess r context env

/-! ## Delivery -/

/-- The failed attempt claimed the failure: report it and schedule the
callbacks. -/
def reportChainFailure : Engine (Option GoError) := do
  let observed := observedChainFailure state outcome.error
  emitStoredJobOutcome context { outcome with error := observed }
  emitFresh context .chainFailed env observed
  let _ ← dispatchCallback env .chainCatch observed
  let _ ← dispatchCallback env .chainFinally none
  ask (.registry (.cleanupChainCallbacks env.chainID))
  return outcome.error

/-- A committed failure that this delivery did not claim. -/
def settleLostChainFailure (owned : Bool) : Engine (Option GoError) := do
  match recoveredDeliveryProvenance context with
  | none => return none
  | some _ =>
    if owned then
      match ← recoverCommittedChainFailure r context outcome.env with
      | some result => return result
      | none => return outcome.error
    else
      match ← recoverCommittedChain r context outcome.env with
      | some result => return result
      | none => return none

/-- `handleInternalChainNode` after an attempt that ends in failure. -/
def failChainDelivery : Engine (Option GoError) := do
  match ← failChainNodeOutcome r env.chainID env.nodeID outcome.error
      (transitionClaimFromOutcome context outcome) with
  | .error error => return some (uncommittedMutationError "fail chain" error)
  | .ok failed =>
    markDeliveryTransitionCommitted failed.claimedNow failed.receipt.isSome
    if ¬failed.owned ∨ ¬failed.claimedNow then
      settleLostChainFailure r context outcome failed.owned
    else if failed.state.completed then return none
    else if ¬failed.state.failed then
      return some (uncommittedMutationError "confirm chain failure"
        (.text "chain store accepted failure without terminal state"))
    else reportChainFailure context env outcome failed.state

/-- A committed success that this delivery did not claim. -/
def settleLostChainSuccess (advance : ChainAdvanceResult) : Engine (Option GoError) := do
  if ¬advance.successOwned then return none
  else
    match recoveredDeliveryProvenance context with
    | some _ =>
      match ← recoverCommittedChainSuccess r context outcome.env with
      | some result => return result
      | none =>
        return some
          (uncommittedMutationError "recover committed chain success"
            (.text ("store reported success ownership without advanced" ++ " state")))
    | none =>
      if advance.done then
        match chainNodePosition advance.state.nodes env.nodeID with
        | none => return none
        | some index =>
          if advance.state.completed ∧
              index + 1 = advance.state.nodes.length then
            ask (.registry (.prepareChainSuccessCallbacks env.chainID))
            let _ ← dispatchCallback env .chainFinally none
            ask (.registry (.cleanupChainCallbacks env.chainID))
            return none
          else return none
      else dispatchChainSuccessor env advance.next

/-- The last success of a chain: report completion and schedule the
callback. -/
def reportChainCompletion : Engine (Option GoError) := do
  -- Rows of old SQL stores may be failed and completed; completion wins.
  if ¬state.completed ∧ state.failed then return none
  else if ¬state.completed then
    return some (uncommittedMutationError "confirm chain completion"
      (.text "chain store returned done without terminal state"))
  else
    match chainNodePosition state.nodes env.nodeID with
    | none =>
      return some (uncommittedMutationError "confirm chain completion"
        (.text "chain store returned done for an unknown node"))
    | some index =>
      if index + 1 ≠ state.nodes.length then return none
      else
        emitStoredJobOutcome context outcome
        ask (.registry (.prepareChainSuccessCallbacks env.chainID))
        emitFact context .chainCompleted (chainFactID .chainCompleted env) env none
        let _ ← dispatchCallback env .chainFinally none
        ask (.registry (.cleanupChainCallbacks env.chainID))
        return none

/-- `handleInternalChainNode` after an attempt that succeeded. -/
def advanceChainDelivery : Engine (Option GoError) := do
  match ← advanceChainNode r env.chainID env.nodeID
      (transitionClaimFromOutcome context outcome) with
  | .error error => return some (uncommittedMutationError "advance chain" error)
  | .ok advance =>
    markDeliveryTransitionCommitted advance.claimedNow advance.receipt.isSome
    if ¬advance.claimedNow then
      settleLostChainSuccess r context env outcome advance
    else if advance.done then
      if advance.state.chainID = "" then
        match ← r.store.getChain env.chainID with
        | .error error => return some (uncommittedMutationError "confirm chain completion" error)
        | .ok state => reportChainCompletion context env outcome state
      else reportChainCompletion context env outcome advance.state
    else
      emitStoredJobOutcome context outcome
      emitFact context .chainAdvanced (chainFactID .chainAdvanced env) env none
      dispatchChainSuccessor env advance.next

/-- The ordinary path of `handleInternalChainNode`. -/
def executeChainNode : Engine (Option GoError) := do
  let outcome ← executeStoredJobAttempt context env
  match classifyAttempt outcome.attempt outcome.error with
  | .retry => return outcome.error
  | .redeliver => return outcome.error
  | .failed => failChainDelivery r context env outcome
  | .succeeded => advanceChainDelivery r context env outcome

/-- `handleInternalChainNode`. -/
def handleInternalChainNode : Engine (Option GoError) := do
  match recoveredDeliveryProvenance context with
  | none => executeChainNode r context env
  | some _ =>
    let env := applyDeliveryAttempt context env
    match ← recoverCommittedChain r context env with
    | some result => return result
    | none => executeChainNode r context env

/-! ## Dispatch -/

/-- A chain builder with its closures. -/
structure ChainBuilder where
  jobs : List Job
  queue : String := ""
  callbacks : ChainCallbacks := {}

/-- Give every job of a chain its node. -/
def chainNodes (queue chainID : String) : List Job -> Engine (Except GoError (List ChainNode))
  | [] => return .ok []
  | job :: jobs => do
      match toStoredJob job with
      | .error error => return .error error
      | .ok stored =>
        let id ← newID "n"
        match ← chainNodes queue chainID jobs with
        | .error error => return .error error
        | .ok nodes =>
          return .ok
            ({ nodeID := chainID ++ "_" ++ id, job := withDefaultQueue queue stored } :: nodes)

/-- The initial enqueue was rejected: fail the chain and run its callbacks. -/
def rejectInitialNode (dispatchID chainID : String) (first : ChainNode) (error : GoError) :
    Engine (String × Option GoError) := do
  match ← failChainNode r chainID first.nodeID (some error) with
  | .error failErr =>
    return (chainID, some (uncommittedMutationError "fail chain after initial dispatch rejection"
      (.join error failErr)))
  | .ok (_, owned) =>
    if ¬owned then return (chainID, some error)
    else
      let base : Envelope :=
        { dispatchID := dispatchID, kind := .chainNode, chainID := chainID, job := first.job }
      emitFresh context .chainFailed base (some error)
      match ← r.store.getChain chainID with
      | .error stateErr =>
        return (chainID, some (.join error (uncommittedMutationError
          "read chain after initial dispatch rejection" stateErr)))
      | .ok _ =>
        let catchErr ← invokeCallbackInline r context base .chainCatch (some error)
        let finallyErr ← invokeCallbackInline r context base .chainFinally none
        ask (.registry (.cleanupChainCallbacks chainID))
        return (chainID, GoError.joinAll [some error, catchErr, finallyErr])

/-- Enqueue the first node of a stored chain. -/
def dispatchInitialNode (dispatchID chainID : String)
    (first : ChainNode) : Engine (String × Option GoError) := do
  emitFresh context .chainStarted
    { dispatchID := dispatchID, kind := .chainNode, chainID := chainID, job := first.job } none
  let id ← newID "job"
  let result ← dispatchEnvelope .chainNode (chainNodeEnvelope dispatchID chainID id first)
  match result with
  | some error =>
    match acceptedExecutionError (some error) with
    | some executionError => return (chainID, some executionError)
    | none => rejectInitialNode r context dispatchID chainID first error
  | none =>
    let executionError ← ask .synchronousChainError
    return (chainID, executionError)

/-- `chainBuilder.Dispatch`. -/
def ChainBuilder.dispatch (b : ChainBuilder) (r : Runtime) (context : DeliveryContext) :
    Engine (String × Option GoError) := do
  if b.jobs = [] then
    return ("", some (.text "chain requires at least one job"))
  else
    let chainID ← newID "chn"
    let dispatchID ← newID "dsp"
    match ← chainNodes b.queue chainID b.jobs with
    | .error error => return ("", some error)
    | .ok nodes =>
      let createdAt ← readClock
      match ← r.store.createChain
          { chainID := chainID
            dispatchID := dispatchID
            queue := b.queue
            nodes := nodes
            createdAt := createdAt } with
      | some error => return ("", some error)
      | none =>
        if ¬r.ephemeralCallbacksDisabled ∧ b.callbacks.any then
          ask (.registry (.registerChain chainID b.callbacks))
        match nodes with
        | [] => return (chainID, none)
        | first :: _ => dispatchInitialNode r context dispatchID chainID first

end JobQueue.Workflow
