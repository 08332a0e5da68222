import JobQueue.Runtime.Errors

/-!
# Workflow records

The persisted data of chains, batches and transition receipts, as the workflow
store declares it. Integers of the source are `Int`, byte slices are lists of
bytes (nil and empty identified), and instants are nanoseconds.
-/

namespace JobQueue.Workflow

/-- An instant in nanoseconds. -/
abbrev Time := Int

/-- Delivery policy carried through the versioned workflow envelope. -/
structure JobOptions where
  queue : String := ""
  delay : Int := 0
  timeout : Int := 0
  retry : Int := 0
  backoff : Int := 0
  uniqueFor : Int := 0
  deriving DecidableEq, Repr

/-- The version-one logical job embedded in state and envelopes. -/
structure StoredJob where
  jobType : String
  payload : List UInt8 := []
  options : JobOptions := {}
  deriving DecidableEq, Repr

/-- A stable node identifier bound to its serialized job. -/
structure ChainNode where
  nodeID : String
  job : StoredJob
  deriving DecidableEq, Repr

/-- Immutable data required to create a chain. -/
structure ChainRecord where
  chainID : String
  dispatchID : String
  queue : String
  nodes : List ChainNode
  createdAt : Time
  deriving DecidableEq, Repr

/-- Persisted execution view of a chain. -/
structure ChainState where
  chainID : String
  dispatchID : String
  queue : String
  nodes : List ChainNode
  nextIndex : Int
  completed : Bool := false
  failed : Bool := false
  failure : String := ""
  createdAt : Time
  updatedAt : Time
  deriving DecidableEq, Repr

/-- A stable member identifier bound to its serialized job. -/
structure BatchJob where
  jobID : String
  job : StoredJob
  deriving DecidableEq, Repr

/-- Immutable data required to create a batch. -/
structure BatchRecord where
  batchID : String
  dispatchID : String
  name : String
  queue : String
  allowFailed : Bool
  jobs : List BatchJob
  createdAt : Time
  deriving DecidableEq, Repr

/-- Durable result that first settled one member. The source type is a string
with two supported values; every other text is rejected by the store. -/
inductive BatchJobOutcome
  | succeeded
  | failed
  | unsupported (text : String)
  deriving DecidableEq, Repr

/-- The string value of an outcome. -/
def BatchJobOutcome.text : BatchJobOutcome -> String
  | .succeeded => "succeeded"
  | .failed => "failed"
  | .unsupported text => text

/-- Persisted aggregate execution view of a batch. -/
structure BatchState where
  batchID : String
  dispatchID : String
  name : String
  queue : String
  allowFailed : Bool
  total : Int
  pending : Int
  processed : Int := 0
  failed : Int := 0
  cancelled : Bool := false
  completed : Bool := false
  createdAt : Time
  updatedAt : Time
  deriving DecidableEq, Repr

/-- Identity of the physical delivery that asks for a transition. A job
fingerprint is a digest of every field of a stored job; it is represented by
the job it was computed from, and the empty fingerprint by `none`. -/
structure TransitionClaim where
  deliveryID : String := ""
  attempt : Int := 0
  dispatchID : String := ""
  jobID : String := ""
  jobFingerprint : Option StoredJob := none
  deriving DecidableEq, Repr

/-- Every identity field required for durable provenance is present. -/
def TransitionClaim.valid (claim : TransitionClaim) : Bool :=
  claim.deliveryID != "" && decide (0 ≤ claim.attempt) &&
    claim.dispatchID != "" && claim.jobID != "" &&
    claim.jobFingerprint.isSome

/-- The workflow family a receipt belongs to. -/
inductive WorkflowKind
  | chain
  | batch
  deriving DecidableEq, Repr

/-- The string value of a workflow kind. -/
def WorkflowKind.text : WorkflowKind -> String
  | .chain => "chain"
  | .batch => "batch"

/-- Durable provenance of one committed transition. -/
structure TransitionReceipt where
  version : Int
  eventSchemaVersion : Int
  workflowKind : WorkflowKind
  workflowID : String
  workflowDispatchID : String
  workflowCreatedAt : Time
  memberID : String
  outcome : BatchJobOutcome
  owner : TransitionClaim
  aggregateCompleted : Bool
  aggregateCancelled : Bool
  createdAt : Time
  deriving DecidableEq, Repr

/-- Key of a receipt. -/
structure TransitionReceiptKey where
  workflowKind : WorkflowKind
  workflowID : String
  memberID : String
  deriving DecidableEq, Repr

/-- Receipt format written by this runtime. -/
def transitionReceiptVersion : Int := 1

/-- Version of the shared observer envelope. -/
def eventSchemaVersion : Int := 1

/-- This runtime can interpret the receipt and the facts rebuilt from it. -/
def TransitionReceipt.supported (receipt : TransitionReceipt) : Bool :=
  decide (receipt.version = transitionReceiptVersion) &&
    decide (receipt.eventSchemaVersion = Workflow.eventSchemaVersion)

/-- Fail closed on receipts this worker cannot interpret. -/
def validateTransitionReceiptSupport (receipt : TransitionReceipt) : Option GoError :=
  if receipt.supported then none
  else some (.wrap "unsupported workflow transition receipt"
    (.text ("receipt version " ++ toString receipt.version ++
      ", event schema " ++ toString receipt.eventSchemaVersion)))

/-- Outcome of a chain advancement: the logical success owner and the physical
delivery that claimed it are separate facts. -/
structure ChainAdvanceResult where
  state : ChainState
  next : Option ChainNode := none
  done : Bool := false
  successOwned : Bool := false
  claimedNow : Bool := false
  receipt : Option TransitionReceipt := none
  deriving DecidableEq, Repr

/-- Outcome of a chain failure. -/
structure ChainFailureResult where
  state : ChainState
  owned : Bool := false
  claimedNow : Bool := false
  receipt : Option TransitionReceipt := none
  deriving DecidableEq, Repr

/-- Outcome of a member settlement. -/
structure BatchSettlementResult where
  state : BatchState
  owned : Bool := false
  claimedNow : Bool := false
  receipt : Option TransitionReceipt := none
  deriving DecidableEq, Repr

/-- A persisted dispatch identity and a claim's contradict each other; an empty
identity on either side never does. -/
def dispatchMismatch (stored claimed : String) : Bool :=
  stored != "" && claimed != "" && stored != claimed

end JobQueue.Workflow
