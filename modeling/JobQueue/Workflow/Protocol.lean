import JobQueue.Workflow.Broker
import JobQueue.Interleaving.Invariant

/-!
# The protocol of the engine programs

What matters about an engine program for the state of workflows is small: which
transitions it asks the store for, which terminal facts it reports, which
messages it enqueues and which handlers it starts. Everything else is quiet.
The phases below follow a program through these operations; the moves say when
each of them may happen and what the answer allows next.

The protocol mentions no state of the system. That the programs keep to it is
a fact about their text, and every statement about runs is derived from it.
-/

namespace JobQueue.Workflow

open Interleaving

/-! ## Quiet operations -/

/-- Facts about the end of a workflow. -/
def EventKind.terminal : EventKind -> Bool
  | .chainCompleted => true
  | .chainFailed => true
  | .batchCompleted => true
  | .batchFailed => true
  | .batchCancelled => true
  | _ => false

/-- Memory calls that leave chains and batch aggregates alone. -/
def MemoryCall.quiet : MemoryCall -> Bool
  | .getChain _ => true
  | .chainTransitionReceipt _ _ => true
  | .markBatchJobStarted _ _ => true
  | .getBatch _ => true
  | .batchTransitionReceipt _ _ => true
  | .markCallbackInvoked _ => true
  | _ => false

/-- Statements that leave chains and batch aggregates alone. -/
def Statement.quiet : Statement -> Bool
  | .selectChain _ => true
  | .selectReceipt _ => true
  | .selectMemberOutcomes _ => true
  | .startMember _ _ => true
  | .selectMember _ _ => true
  | .selectBatch _ => true
  | .insertCallbackInvocation _ => true
  | _ => false

/-- Operations that change no workflow, report no end of one, start no handler
and enqueue nothing but callbacks. -/
def Op.quiet : Op -> Bool
  | .newID _ => true
  | .now => true
  | .emit event _ => !event.kind.terminal
  | .lookupHandler _ => true
  | .handle _ => false
  | .runCallback _ _ _ => true
  | .runProgress _ => true
  | .registry _ => true
  | .busDispatch kind _ => decide (kind = .callback)
  | .markDeliveryApplicationStateCommitted => true
  | .recordSynchronousChainError _ => true
  | .synchronousChainError => true
  | .memory call => call.quiet
  | .sql statement => statement.quiet

/-! ## Deliveries -/

namespace Delivery

variable (d : Delivery)

/-- The envelope of the delivered message. -/
abbrev env : Envelope := d.message.env

/-- The attempt this delivery makes. -/
def attempt : DeliveryAttempt :=
  deliveryAttempt d.context d.env

/-- The envelope with the attempt number of this delivery. -/
def executed : Envelope :=
  applyDeliveryAttempt d.context d.env

/-- The claim this delivery makes on a transition. -/
def claim : TransitionClaim where
  deliveryID := d.context.generationID
  attempt := d.executed.attempt
  dispatchID := d.env.dispatchID
  jobID := d.env.jobID
  jobFingerprint := storedJobReceiptFingerprint d.env.job

@[simp] theorem executed_chainID : d.executed.chainID = d.env.chainID := by
  unfold executed applyDeliveryAttempt
  split <;> rfl

@[simp] theorem executed_nodeID : d.executed.nodeID = d.env.nodeID := by
  unfold executed applyDeliveryAttempt
  split <;> rfl

@[simp] theorem executed_batchID : d.executed.batchID = d.env.batchID := by
  unfold executed applyDeliveryAttempt
  split <;> rfl

@[simp] theorem executed_jobID : d.executed.jobID = d.env.jobID := by
  unfold executed applyDeliveryAttempt
  split <;> rfl

/-- The delivery recovers an unsettled one. -/
def recovered : Bool :=
  (recoveredDeliveryProvenance d.context).isSome

end Delivery

/-- The error is classified as a redelivery. -/
def IsUncommittedResult (result : Option GoError) : Prop :=
  ∃ error, result = some error ∧ error.isUncommitted = true

/-- The enqueue was accepted, as far as the caller can tell. -/
def accepted (answer : Option GoError) : Bool :=
  answer.isNone || (acceptedExecutionError answer).isSome

/-- The outcome that an attempt asks the store to settle. -/
def settlementOf (d : Delivery) (error : Option GoError) : Option BatchJobOutcome :=
  match classifyAttempt d.attempt error with
  | .succeeded => some .succeeded
  | .failed => some .failed
  | .retry => none
  | .redeliver => none

/-! ## Phases -/

/-- How far a program has come. -/
inductive Phase
  /-- Only quiet operations remain. -/
  | idle
  | direct
  -- Dispatch of a chain.
  | chainDispatch
  | chainMinted (chainID : String)
  | chainStored (record : ChainRecord)
  | chainPosting (record : ChainRecord) (first : ChainNode) (jobID : String)
  | chainRejected (record : ChainRecord) (first : ChainNode) (error : GoError)
  | chainRefused (record : ChainRecord)
  | chainDispatched (record : ChainRecord)
  -- Delivery of a node.
  | node (d : Delivery) (seen : Option ChainState)
  | nodeRan (d : Delivery) (error : Option GoError)
  | nodeLost (d : Delivery)
  | nodeFailed (d : Delivery)
  | nodeReported (d : Delivery)
  | nodeAdvanced (d : Delivery) (advance : ChainAdvanceResult)
  | nodePosting (d : Delivery) (next : ChainNode) (jobID : String)
  | nodePosted (d : Delivery) (answer : Option GoError)
  -- Delivery of a node over the SQL store.
  | sqlNode (d : Delivery)
  | sqlUnsure (d : Delivery)
  | sqlCompleted (d : Delivery)
  -- Dispatch of a batch.
  | batchDispatch
  | batchMinted (batchID : String)
  | batchStored (record : BatchRecord)
  | batchRejected (record : BatchRecord)
  | batchCancelled (record : BatchRecord) (reported : Nat)
  -- Delivery of a member; `clean` once a successful end was read.
  | member (d : Delivery) (clean : Bool)
  | memberRan (d : Delivery) (error : Option GoError)
  | memberUnsure (d : Delivery) (outcome : BatchJobOutcome) (owns : Bool)
  | settled (d : Delivery) (outcome : BatchJobOutcome)
      (settlement : BatchSettlementResult) (reported : Nat)

/-! ## Moves -/

/-- Moves of a program that dispatches a chain. -/
inductive ChainDispatchMoves : Moves Op Op.Answer Phase
  | mint (id : String) : ChainDispatchMoves .chainDispatch (.newID "chn") id (.chainMinted id)
  | create (record : ChainRecord) :
      ChainDispatchMoves (.chainMinted record.chainID)
        (.memory (.createChain record)) none (.chainStored record)
  | createRefused (record : ChainRecord) (error : GoError) :
      ChainDispatchMoves (.chainMinted record.chainID)
        (.memory (.createChain record)) (some error) .idle
  | insert (record : ChainRecord) :
      ChainDispatchMoves (.chainMinted record.chainID)
        (.sql (.insertChain record)) (.ok ()) (.chainStored record)
  | insertRefused (record : ChainRecord) (error : GoError) :
      ChainDispatchMoves (.chainMinted record.chainID)
        (.sql (.insertChain record)) (.error error) .idle
  | mintJob (record : ChainRecord) (first : ChainNode) (id : String)
      (head : record.nodes[0]? = some first) :
      ChainDispatchMoves (.chainStored record) (.newID "job") id (.chainPosting record first id)
  | post (record : ChainRecord) (first : ChainNode) (id : String)
      (answer : Option GoError) (taken : accepted answer = true) :
      ChainDispatchMoves (.chainPosting record first id)
        (.busDispatch .chainNode (chainNodeEnvelope record.dispatchID record.chainID id first))
        answer (.chainDispatched record)
  | postRejected (record : ChainRecord) (first : ChainNode) (id : String)
      (error : GoError) (refused : accepted (some error) = false) :
      ChainDispatchMoves (.chainPosting record first id)
        (.busDispatch .chainNode (chainNodeEnvelope record.dispatchID record.chainID id first))
        (some error) (.chainRejected record first error)
  | fail (record : ChainRecord) (first : ChainNode) (error : GoError)
      (failed : ChainFailureResult) (owned : failed.owned = true) :
      ChainDispatchMoves (.chainRejected record first error)
        (.memory (.failChainOutcome record.chainID first.nodeID (some error) {})) (.ok failed)
        (.chainRefused record)
  | failLost (record : ChainRecord) (first : ChainNode) (error : GoError)
      (failed : ChainFailureResult) (lost : failed.owned = false) :
      ChainDispatchMoves (.chainRejected record first error)
        (.memory (.failChainOutcome record.chainID first.nodeID (some error) {})) (.ok failed)
        (.chainDispatched record)
  | failRefused (record : ChainRecord) (first : ChainNode) (error refusal : GoError) :
      ChainDispatchMoves (.chainRejected record first error)
        (.memory (.failChainOutcome record.chainID first.nodeID (some error) {})) (.error refusal)
        (.chainDispatched record)
  | failSql (record : ChainRecord) (first : ChainNode) (error : GoError)
      (state failed : ChainState) (receipt : Option TransitionReceipt) :
      ChainDispatchMoves (.chainRejected record first error)
        (.sql (.failChainNode record.chainID first.nodeID state (some error) {}))
        (.finished (some (failed, receipt))) (.chainRefused record)
  | failSqlOther (record : ChainRecord) (first : ChainNode) (error : GoError) (state : ChainState)
      (answer : TxAnswer (Option (ChainState × Option TransitionReceipt))) :
      ChainDispatchMoves (.chainRejected record first error)
        (.sql (.failChainNode record.chainID first.nodeID state (some error) {})) answer
        (.chainRejected record first error)
  | sawFailed (record : ChainRecord) (first : ChainNode) (error : GoError)
      (state : ChainState) (failed : state.failed = true) :
      ChainDispatchMoves (.chainRejected record first error) (.sql (.selectChain record.chainID))
        (.ok (some state)) (.chainRefused record)
  | report (record : ChainRecord) (event : Event) (deferred : Bool)
      (kind : event.kind = .chainFailed) (about : event.chainID = record.chainID) :
      ChainDispatchMoves (.chainRefused record) (.emit event deferred) () (.chainDispatched record)

/-- Moves of a program that delivers a chain node over the memory store. -/
inductive NodeMoves : Moves Op Op.Answer Phase
  | unregistered (d : Delivery) (seen : Option ChainState) :
      NodeMoves (.node d seen) (.lookupHandler d.env.job.jobType) false
        (.nodeRan d (some (missingHandlerError d.env.job.jobType)))
  | handle (d : Delivery) (seen : Option ChainState) (error : Option GoError) :
      NodeMoves (.node d seen) (.handle d.executed) error (.nodeRan d error)
  | saw (d : Delivery) (seen : Option ChainState) (state : ChainState)
      (recovering : d.recovered = true) :
      NodeMoves (.node d seen) (.memory (.getChain d.env.chainID)) (.ok state)
        (.node d (some state))
  | recoverPost (d : Delivery) (state : ChainState) (next : ChainNode)
      (id : String) (recovering : d.recovered = true)
      (offered : state.nodes[state.nextIndex.toNat]? = some next) :
      NodeMoves (.node d (some state)) (.newID "job") id (.nodePosting d next id)
  | recoverReport (d : Delivery) (seen : Option ChainState) (event : Event) (deferred : Bool)
      (recovering : d.recovered = true) (kind : event.kind = .chainCompleted) :
      NodeMoves (.node d seen) (.emit event deferred) () (.node d seen)
  | failRefused (d : Delivery) (error : Option GoError) (refusal : GoError)
      (decided : settlementOf d error = some .failed) :
      NodeMoves (.nodeRan d error)
        (.memory (.failChainOutcome d.env.chainID d.env.nodeID error d.claim))
        (.error refusal) (.nodeRan d error)
  | fail (d : Delivery) (error : Option GoError) (failed : ChainFailureResult)
      (decided : settlementOf d error = some .failed) (claimed : failed.claimedNow = true) :
      NodeMoves (.nodeRan d error)
        (.memory (.failChainOutcome d.env.chainID d.env.nodeID error d.claim))
        (.ok failed) (.nodeFailed d)
  | failLost (d : Delivery) (error : Option GoError) (failed : ChainFailureResult)
      (decided : settlementOf d error = some .failed)
      (lost : failed.owned = false ∨ failed.claimedNow = false) (ordinary : d.recovered = false) :
      NodeMoves (.nodeRan d error)
        (.memory (.failChainOutcome d.env.chainID d.env.nodeID error d.claim))
        (.ok failed) (.nodeLost d)
  | failRecovered (d : Delivery) (error : Option GoError)
      (failed : ChainFailureResult) (recovering : d.recovered = true) :
      NodeMoves (.nodeRan d error)
        (.memory (.failChainOutcome d.env.chainID d.env.nodeID error d.claim))
        (.ok failed) (.node d none)
  | report (d : Delivery) (event : Event) (deferred : Bool) (kind : event.kind = .chainFailed)
      (about : event.chainID = d.env.chainID) :
      NodeMoves (.nodeFailed d) (.emit event deferred) () (.nodeReported d)
  | advanceRefused (d : Delivery) (error : Option GoError)
      (refusal : GoError) (decided : settlementOf d error = some .succeeded) :
      NodeMoves (.nodeRan d error)
        (.memory (.advanceChainOutcome d.env.chainID d.env.nodeID d.claim))
        (.error refusal) (.nodeRan d error)
  | advance (d : Delivery) (error : Option GoError) (advance : ChainAdvanceResult)
      (decided : settlementOf d error = some .succeeded) :
      NodeMoves (.nodeRan d error)
        (.memory (.advanceChainOutcome d.env.chainID d.env.nodeID d.claim))
        (.ok advance) (.nodeAdvanced d advance)
  | advanceRecovered (d : Delivery) (error : Option GoError)
      (advance : ChainAdvanceResult) (recovering : d.recovered = true) :
      NodeMoves (.nodeRan d error)
        (.memory (.advanceChainOutcome d.env.chainID d.env.nodeID d.claim))
        (.ok advance) (.node d none)
  | confirm (d : Delivery) (advance : ChainAdvanceResult) (state : ChainState) :
      NodeMoves (.nodeAdvanced d advance) (.memory (.getChain d.env.chainID)) (.ok state)
        (.nodeAdvanced d { advance with state := state })
  | complete (d : Delivery) (advance : ChainAdvanceResult) (event : Event) (deferred : Bool)
      (completed : advance.state.completed = true) (claimed : advance.claimedNow = true)
      (kind : event.kind = .chainCompleted) (about : event.chainID = d.env.chainID) :
      NodeMoves (.nodeAdvanced d advance) (.emit event deferred) () (.nodeAdvanced d advance)
  | mintJob (d : Delivery) (advance : ChainAdvanceResult) (next : ChainNode)
      (id : String) (offered : advance.next = some next) :
      NodeMoves (.nodeAdvanced d advance) (.newID "job") id (.nodePosting d next id)
  | post (d : Delivery) (next : ChainNode) (id : String) (answer : Option GoError) :
      NodeMoves (.nodePosting d next id)
        (.busDispatch .chainNode (chainNodeEnvelope d.env.dispatchID d.env.chainID id next))
        answer (.nodePosted d answer)

/-- Moves of a program that delivers a chain node over the SQL store. -/
inductive SqlNodeMoves : Moves Op Op.Answer Phase
  | handle (d : Delivery) (error : Option GoError) :
      SqlNodeMoves (.sqlNode d) (.handle d.executed) error (.sqlNode d)
  | post (d : Delivery) (env : Envelope) (answer : Option GoError)
      (about : env.chainID = d.env.chainID) :
      SqlNodeMoves (.sqlNode d) (.busDispatch .chainNode env) answer (.sqlNode d)
  | recoverReport (d : Delivery) (event : Event) (deferred : Bool) (recovering : d.recovered = true)
      (kind : event.kind = .chainCompleted) :
      SqlNodeMoves (.sqlNode d) (.emit event deferred) () (.sqlNode d)
  | fail (d : Delivery) (state failed : ChainState)
      (cause : Option GoError) (receipt : Option TransitionReceipt) :
      SqlNodeMoves (.sqlNode d)
        (.sql (.failChainNode d.env.chainID d.env.nodeID state cause d.claim))
        (.finished (some (failed, receipt))) (.nodeFailed d)
  | failOther (d : Delivery) (state : ChainState) (cause : Option GoError)
      (answer : TxAnswer (Option (ChainState × Option TransitionReceipt))) :
      SqlNodeMoves (.sqlNode d)
        (.sql (.failChainNode d.env.chainID d.env.nodeID state cause d.claim)) answer (.sqlNode d)
  | failUnsure (d : Delivery) (state : ChainState) (cause : Option GoError) (error : GoError) :
      SqlNodeMoves (.sqlNode d)
        (.sql (.failChainNode d.env.chainID d.env.nodeID state cause d.claim))
        (.uncertain error) (.sqlUnsure d)
  | confirmFail (d : Delivery) (receipt : TransitionReceipt) (owner : receipt.owner = d.claim)
      (valid : d.claim.valid = true) (outcome : receipt.outcome = .failed) :
      SqlNodeMoves (.sqlUnsure d) (.sql (.selectReceipt
          { workflowKind := .chain, workflowID := d.env.chainID,
            memberID := d.env.nodeID })) (.ok (some receipt)) (.nodeFailed d)
  | advance (d : Delivery) (state advanced : ChainState) (receipt : Option TransitionReceipt)
      (completed : advanced.completed = true) (running : state.completed = false) :
      SqlNodeMoves (.sqlNode d) (.sql (.advanceChain d.env.chainID d.env.nodeID state d.claim))
        (.finished (some (advanced, receipt))) (.sqlCompleted d)
  | advanceOther (d : Delivery) (state : ChainState)
      (answer : TxAnswer (Option (ChainState × Option TransitionReceipt))) :
      SqlNodeMoves (.sqlNode d) (.sql (.advanceChain d.env.chainID d.env.nodeID state d.claim))
        answer (.sqlNode d)
  | sawCompleted (d : Delivery) (state : ChainState) (completed : state.completed = true) :
      SqlNodeMoves (.sqlNode d) (.sql (.selectChain d.env.chainID))
        (.ok (some state)) (.sqlCompleted d)
  | complete (d : Delivery) (event : Event) (deferred : Bool) (kind : event.kind = .chainCompleted)
      (about : event.chainID = d.env.chainID) :
      SqlNodeMoves (.sqlCompleted d) (.emit event deferred) () (.sqlCompleted d)

/-- Moves of a program that dispatches a batch. -/
inductive BatchDispatchMoves : Moves Op Op.Answer Phase
  | mint (id : String) : BatchDispatchMoves .batchDispatch (.newID "bat") id (.batchMinted id)
  | create (record : BatchRecord) :
      BatchDispatchMoves (.batchMinted record.batchID)
        (.memory (.createBatch record)) none (.batchStored record)
  | createRefused (record : BatchRecord) (error : GoError) :
      BatchDispatchMoves (.batchMinted record.batchID)
        (.memory (.createBatch record)) (some error) .idle
  | insert (record : BatchRecord) :
      BatchDispatchMoves (.batchMinted record.batchID)
        (.sql (.insertBatch record)) (.finished ()) (.batchStored record)
  | insertOther (record : BatchRecord) (answer : TxAnswer Unit) :
      BatchDispatchMoves (.batchMinted record.batchID) (.sql (.insertBatch record)) answer .idle
  | post (record : BatchRecord) (job : BatchJob) (answer : Option GoError)
      (listed : job ∈ record.jobs) (taken : accepted answer = true) :
      BatchDispatchMoves (.batchStored record)
        (.busDispatch .batchJob (batchJobEnvelope record.dispatchID record.batchID job))
        answer (.batchStored record)
  | postRejected (record : BatchRecord) (job : BatchJob) (error : GoError)
      (listed : job ∈ record.jobs) (refused : accepted (some error) = false) :
      BatchDispatchMoves (.batchStored record)
        (.busDispatch .batchJob (batchJobEnvelope record.dispatchID record.batchID job))
        (some error) (.batchRejected record)
  | cancel (record : BatchRecord) :
      BatchDispatchMoves (.batchRejected record) (.memory (.cancelBatch record.batchID)) none
        (.batchCancelled record 0)
  | cancelRefused (record : BatchRecord) (error : GoError) :
      BatchDispatchMoves (.batchRejected record)
        (.memory (.cancelBatch record.batchID)) (some error) .idle
  | cancelSql (record : BatchRecord) :
      BatchDispatchMoves (.batchRejected record) (.sql (.cancelBatch record.batchID)) (.ok ())
        (.batchCancelled record 0)
  | cancelSqlRefused (record : BatchRecord) (error : GoError) :
      BatchDispatchMoves (.batchRejected record)
        (.sql (.cancelBatch record.batchID)) (.error error) .idle
  | reportFailed (record : BatchRecord) (event : Event) (deferred : Bool)
      (kind : event.kind = .batchFailed) (about : event.batchID = record.batchID) :
      BatchDispatchMoves (.batchCancelled record 0) (.emit event deferred) ()
        (.batchCancelled record 1)
  | reportCancelled (record : BatchRecord) (event : Event) (deferred : Bool)
      (kind : event.kind = .batchCancelled) (about : event.batchID = record.batchID) :
      BatchDispatchMoves (.batchCancelled record 1) (.emit event deferred) ()
        (.batchCancelled record 2)

/-- A batch that ended without being cancelled. -/
def BatchState.succeeded (state : BatchState) : Bool :=
  state.completed && !state.cancelled

/-- The result of a settlement that a transaction reports. -/
def settlementOfRow (row : Database.SettlementRow) : BatchSettlementResult where
  state := row.state
  owned := row.owned
  claimedNow := row.claimed
  receipt := row.receipt

/-- Moves of a program that delivers a batch member. -/
inductive MemberMoves : Moves Op Op.Answer Phase
  | unregistered (d : Delivery) (clean : Bool) :
      MemberMoves (.member d clean) (.lookupHandler d.env.job.jobType) false
        (.memberRan d (some (missingHandlerError d.env.job.jobType)))
  | handle (d : Delivery) (clean : Bool) (error : Option GoError) :
      MemberMoves (.member d clean) (.handle d.executed) error (.memberRan d error)
  | saw (d : Delivery) (clean : Bool) (state : BatchState) (succeeded : state.succeeded = true) :
      MemberMoves (.member d clean) (.memory (.getBatch d.env.batchID)) (.ok state) (.member d true)
  | sawSql (d : Delivery) (clean : Bool) (state : BatchState) (succeeded : state.succeeded = true) :
      MemberMoves (.member d clean) (.sql (.selectBatch d.env.batchID))
        (.ok (some state)) (.member d true)
  | recoverReport (d : Delivery) (event : Event) (deferred : Bool)
      (kind : event.kind = .batchCompleted) (about : event.batchID = d.env.batchID) :
      MemberMoves (.member d true) (.emit event deferred) () (.member d true)
  | settleRefused (d : Delivery) (error : Option GoError) (outcome : BatchJobOutcome)
      (refusal : GoError) (decided : settlementOf d error = some outcome) :
      MemberMoves (.memberRan d error)
        (.memory (.settleBatchOutcome d.env.batchID d.env.jobID outcome d.claim)) (.error refusal)
        (.memberRan d error)
  | settle (d : Delivery) (error : Option GoError) (outcome : BatchJobOutcome)
      (settlement : BatchSettlementResult) (decided : settlementOf d error = some outcome) :
      MemberMoves (.memberRan d error)
        (.memory (.settleBatchOutcome d.env.batchID d.env.jobID outcome d.claim)) (.ok settlement)
        (.settled d outcome settlement 0)
  | settleRecovered (d : Delivery) (error : Option GoError) (outcome : BatchJobOutcome)
      (settlement : BatchSettlementResult) (decided : settlementOf d error = some outcome)
      (recovering : d.recovered = true) :
      MemberMoves (.memberRan d error)
        (.memory (.settleBatchOutcome d.env.batchID d.env.jobID outcome d.claim)) (.ok settlement)
        (.member d false)
  | settleSqlFailed (d : Delivery) (error : Option GoError) (outcome : BatchJobOutcome)
      (refusal : GoError) (decided : settlementOf d error = some outcome) :
      MemberMoves (.memberRan d error)
        (.sql (.settleBatch d.env.batchID d.env.jobID (decide (outcome = .failed)) d.claim))
        (.failed refusal) (.memberRan d error)
  | settleSql (d : Delivery) (error : Option GoError) (outcome : BatchJobOutcome)
      (row : Database.SettlementRow) (decided : settlementOf d error = some outcome) :
      MemberMoves (.memberRan d error)
        (.sql (.settleBatch d.env.batchID d.env.jobID (decide (outcome = .failed)) d.claim))
        (.finished row) (.settled d outcome (settlementOfRow row) 0)
  | settleSqlRecovered (d : Delivery) (error : Option GoError) (outcome : BatchJobOutcome)
      (row : Database.SettlementRow) (decided : settlementOf d error = some outcome)
      (recovering : d.recovered = true) :
      MemberMoves (.memberRan d error)
        (.sql (.settleBatch d.env.batchID d.env.jobID (decide (outcome = .failed)) d.claim))
        (.finished row) (.member d false)
  | settleSqlUnsure (d : Delivery) (error : Option GoError) (outcome : BatchJobOutcome)
      (refusal : GoError) (decided : settlementOf d error = some outcome) :
      MemberMoves (.memberRan d error)
        (.sql (.settleBatch d.env.batchID d.env.jobID (decide (outcome = .failed)) d.claim))
        (.uncertain refusal) (.memberUnsure d outcome false)
  | sawOwnership (d : Delivery) (outcome : BatchJobOutcome) (owns : Bool) (memberID : String)
      (receipt : TransitionReceipt) (owner : receipt.owner = d.claim) (valid : d.claim.valid = true)
      (cancelled : receipt.aggregateCancelled = true) :
      MemberMoves (.memberUnsure d outcome owns) (.sql (.selectReceipt
          { workflowKind := .batch, workflowID := d.env.batchID,
            memberID := memberID })) (.ok (some receipt))
        (.memberUnsure d outcome true)
  | confirm (d : Delivery) (outcome : BatchJobOutcome) (owns : Bool) (state : BatchState)
      (receipt : TransitionReceipt) (owned : receipt.aggregateCancelled = true -> owns = true) :
      MemberMoves (.memberUnsure d outcome owns) (.sql (.selectBatch d.env.batchID))
        (.ok (some state)) (.settled d outcome
          { state := state, owned := true, claimedNow := true, receipt := some receipt } 0)
  | reportFailed (d : Delivery) (settlement : BatchSettlementResult) (event : Event)
      (deferred : Bool) (claimed : settlement.claimedNow = true)
      (owns : batchSettlementOwnsTerminal settlement .failed = true)
      (cancelled : settlement.state.cancelled = true) (kind : event.kind = .batchFailed)
      (about : event.batchID = d.env.batchID) :
      MemberMoves (.settled d .failed settlement 0) (.emit event deferred) ()
        (.settled d .failed settlement 1)
  | reportCancelled (d : Delivery) (settlement : BatchSettlementResult) (event : Event)
      (deferred : Bool) (claimed : settlement.claimedNow = true)
      (owns : batchSettlementOwnsTerminal settlement .failed = true)
      (cancelled : settlement.state.cancelled = true) (kind : event.kind = .batchCancelled)
      (about : event.batchID = d.env.batchID) :
      MemberMoves (.settled d .failed settlement 1) (.emit event deferred) ()
        (.settled d .failed settlement 2)
  | reportCompleted (d : Delivery) (outcome : BatchJobOutcome) (settlement : BatchSettlementResult)
      (reported : Nat) (event : Event) (deferred : Bool) (claimed : settlement.claimedNow = true)
      (succeeded : settlement.state.succeeded = true) (kind : event.kind = .batchCompleted)
      (about : event.batchID = d.env.batchID) :
      MemberMoves (.settled d outcome settlement reported)
        (.emit event deferred) () (.settled d outcome settlement reported)

/-- Moves of the engine programs. -/
inductive EngineMoves : Moves Op Op.Answer Phase
  | quiet (phase : Phase) (operation : Op) (answer : operation.Answer)
      (quiet : operation.quiet = true) :
      EngineMoves phase operation answer phase
  | direct (env : Envelope) (error : Option GoError) :
      EngineMoves .direct (.handle env) error .direct
  | chainDispatch {phase after : Phase} {operation : Op}
      {answer : operation.Answer}
      (move : ChainDispatchMoves phase operation answer after) :
      EngineMoves phase operation answer after
  | node {phase after : Phase} {operation : Op} {answer : operation.Answer}
      (move : NodeMoves phase operation answer after) :
      EngineMoves phase operation answer after
  | sqlNode {phase after : Phase} {operation : Op}
      {answer : operation.Answer}
      (move : SqlNodeMoves phase operation answer after) :
      EngineMoves phase operation answer after
  | batchDispatch {phase after : Phase} {operation : Op}
      {answer : operation.Answer}
      (move : BatchDispatchMoves phase operation answer after) :
      EngineMoves phase operation answer after
  | member {phase after : Phase} {operation : Op} {answer : operation.Answer}
      (move : MemberMoves phase operation answer after) :
      EngineMoves phase operation answer after

/-! ## Results -/

/-- An attempt that is left to the worker, or an infrastructure error. -/
def Unsettled (d : Delivery) (error result : Option GoError) : Prop :=
  (result = error ∧ settlementOf d error = none) ∨ IsUncommittedResult result

/-- What a delivery may return in a phase. -/
def DeliveryStop (result : Option GoError) : Phase -> Prop
  | .node d _ => d.recovered = true
  | .nodeRan d error => Unsettled d error result
  | .nodeAdvanced _ advance =>
    (result = none ∧ (advance.done = true ∨
      (advance.claimedNow = false ∧ advance.successOwned = false))) ∨
    IsUncommittedResult result
  | .nodePosted _ answer =>
    if accepted answer then result = none else IsUncommittedResult result
  | .member d _ => d.recovered = true ∨ IsUncommittedResult result
  | .memberRan d error => Unsettled d error result
  | .memberUnsure _ _ _ => IsUncommittedResult result
  | .idle => True
  | .direct => True
  | .nodeLost _ => True
  | .nodeFailed _ => True
  | .nodeReported _ => True
  | .sqlNode _ => True
  | .sqlUnsure _ => True
  | .sqlCompleted _ => True
  | .settled _ _ _ _ => True
  | _ => False

variable (kind : StoreKind)

/-- What the dispatch of a chain may return in a phase. Over the memory store
it does not return before it has tried to fail a rejected chain. -/
def ChainStop (chainID : String) : Phase -> Prop
  | .idle => chainID = ""
  | .chainDispatch => chainID = ""
  | .chainMinted _ => chainID = ""
  | .chainStored record => chainID = record.chainID ∧ record.nodes = []
  | .chainRejected record _ _ => kind = .sql ∧ chainID = record.chainID
  | .chainRefused record => chainID = record.chainID
  | .chainDispatched record => chainID = record.chainID
  | _ => False

/-- Phases in which the dispatch of a batch may return. -/
def BatchStop : Phase -> Prop
  | .idle => True
  | .batchDispatch => True
  | .batchMinted _ => True
  | .batchStored _ => True
  | .batchRejected _ => True
  | .batchCancelled _ _ => True
  | _ => False

/-- The results a program may return in a phase. -/
def EngineStop (phase : Phase) : Result -> Prop
  | .delivery result => DeliveryStop result phase
  | .chain chainID _ => ChainStop kind chainID phase
  | .batch _ _ => BatchStop phase

/-- The phase in which a delivery starts. -/
def deliveryPhase (d : Delivery) : Phase :=
  match d.message.kind, kind with
  | .direct, _ => .direct
  | .chainNode, .memory => .node d none
  | .chainNode, .sql => .sqlNode d
  | .batchJob, _ => .member d false
  | .callback, _ => .idle

/-- The phase in which the program of a move starts. -/
def EngineEntry (label : Nat) (world : World) : Move -> Phase -> Prop
  | .dispatchChain _ _, phase => phase = .chainDispatch
  | .dispatchBatch _ _, phase => phase = .batchDispatch
  | .deliver _ _, phase =>
    ∃ d, KeyedList.find label world.handling = some d ∧ phase = deliveryPhase kind d
  | _, _ => False

/-- The protocol of the engine programs over a built-in store. -/
def engineProtocol : Protocol World Op Op.Answer Result Move Phase where
  moves := EngineMoves
  stop := EngineStop kind
  entry := EngineEntry kind

end JobQueue.Workflow
