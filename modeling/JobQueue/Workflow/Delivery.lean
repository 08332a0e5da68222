import JobQueue.Workflow.Records

/-!
# Deliveries and facts

The envelope is the version-one message of the workflow protocol; encoding and
decoding it are inverse, so a message is its envelope. A delivery context
carries what a worker attaches to one physical invocation of a handler. Events
are the facts the engine reports to observers.

Digests are represented by what they are computed from: a job key by the type
and payload it hashes, a stable fact identifier by the kind and identity it
hashes.
-/

namespace JobQueue.Workflow

/-! ## Envelopes -/

/-- Ephemeral callbacks that can be delivered. -/
inductive CallbackKind
  | chainCatch
  | chainFinally
  | batchCatch
  | batchThen
  | batchFinally
  | unknown (text : String)
  deriving DecidableEq, Repr

/-- Wire names of the workflow deliveries. -/
inductive DeliveryType
  | direct
  | chainNode
  | batchJob
  | callback
  deriving DecidableEq, Repr

/-- Version of the delivery envelope. -/
def schemaVersion : Int := 1

/-- The message of one workflow delivery. -/
structure Envelope where
  schemaVersion : Int := Workflow.schemaVersion
  dispatchID : String
  kind : DeliveryType
  jobID : String := ""
  chainID : String := ""
  batchID : String := ""
  nodeID : String := ""
  attempt : Int := 0
  job : StoredJob
  callbackKind : CallbackKind := .unknown ""
  error : String := ""
  deriving DecidableEq, Repr

/-! ## Delivery context -/

/-- Settlement generation of a delivery and of the unsettled one it recovers. -/
structure DeliveryProvenance where
  generationID : String := ""
  recoveredGenerationID : String := ""
  recovered : Bool := false
  deriving DecidableEq, Repr

/-- What a worker attaches to one invocation of a handler. -/
structure DeliveryContext where
  attempt : Option DeliveryAttempt := none
  provenance : Option DeliveryProvenance := none
  /-- The driver owns a settlement boundary after the handler. -/
  settlement : Bool := false
  deriving DecidableEq, Repr

/-- `recoveredDeliveryProvenance`: evidence that an earlier generation of this
delivery stayed unsettled. -/
def recoveredDeliveryProvenance (context : DeliveryContext) : Option DeliveryProvenance :=
  match context.provenance with
  | some provenance => if provenance.recovered then some provenance else none
  | none => none

/-- The attempt that a delivery of an envelope makes. -/
def deliveryAttempt (context : DeliveryContext) (env : Envelope) : DeliveryAttempt :=
  match context.attempt with
  | some attempt => attempt
  | none => { number := env.attempt, maxRetry := env.job.options.retry }

/-- `applyDeliveryAttempt`: the worker's attempt number replaces the stale one
of the envelope. -/
def applyDeliveryAttempt (context : DeliveryContext) (env : Envelope) : Envelope :=
  match context.attempt with
  | some attempt => { env with attempt := attempt.number }
  | none => env

/-! ## Events -/

/-- Workflow lifecycle facts. -/
inductive EventKind
  | dispatchStarted
  | dispatchSucceeded
  | dispatchFailed
  | jobStarted
  | jobSucceeded
  | jobFailed
  | chainStarted
  | chainAdvanced
  | chainCompleted
  | chainFailed
  | batchStarted
  | batchProgressed
  | batchCompleted
  | batchFailed
  | batchCancelled
  | callbackStarted
  | callbackSucceeded
  | callbackFailed
  deriving DecidableEq, Repr

/-- Correlation of facts about the same logical job. -/
structure JobKey where
  jobType : String
  payload : List UInt8
  deriving DecidableEq, Repr

/-- `storedJobEventKey`. -/
def storedJobEventKey (job : StoredJob) : JobKey where
  jobType := job.jobType
  payload := job.payload

/-- Identity that a stable fact identifier is computed from. -/
structure FactIdentity where
  fields : List String
  key : JobKey
  queue : String
  attempt : Option Int := none
  deriving DecidableEq, Repr

/-- Identifier of one event. -/
inductive EventID
  | minted (id : String)
  | stable (kind : EventKind) (identity : FactIdentity)
  deriving DecidableEq, Repr

/-- One workflow fact with its correlation. -/
structure Event where
  schemaVersion : Int := eventSchemaVersion
  eventID : EventID
  kind : EventKind
  dispatchID : String := ""
  jobID : String := ""
  chainID : String := ""
  batchID : String := ""
  attempt : Int := 0
  jobType : String := ""
  jobKey : JobKey
  queue : String := ""
  duration : Time := 0
  time : Time
  error : Option GoError := none
  deriving DecidableEq, Repr

/-- `eventWaitsForDeliverySettlement`: positive facts that would be false if the
acknowledgement of the delivery stayed unresolved. -/
def eventWaitsForDeliverySettlement : EventKind -> Bool
  | .jobSucceeded => true
  | .chainAdvanced => true
  | .chainCompleted => true
  | .batchProgressed => true
  | .batchCompleted => true
  | .callbackSucceeded => true
  | _ => false

/-- `chainFactID`. -/
def chainFactID (kind : EventKind) (env : Envelope) : EventID :=
  .stable kind
    { fields := [env.dispatchID, env.chainID, env.nodeID, env.jobID, env.job.jobType]
      key := storedJobEventKey env.job
      queue := env.job.options.queue }

/-- `batchFactID`. -/
def batchFactID (kind : EventKind) (env : Envelope) : EventID :=
  .stable kind
    { fields := [env.dispatchID, env.batchID, env.jobID, env.job.jobType]
      key := storedJobEventKey env.job
      queue := env.job.options.queue }

/-- `uncommittedMutationError`: infrastructure failure of a named operation. -/
def uncommittedMutationError (operation : String) (error : GoError) : GoError :=
  (GoError.wrap operation error).asUncommitted

@[simp] theorem isUncommitted_uncommittedMutationError :
    (uncommittedMutationError operation error).isUncommitted = true :=
  GoError.isUncommitted_asUncommitted _

/-- `storedJobReceiptFingerprint`, represented by the digested job. -/
def storedJobReceiptFingerprint (job : StoredJob) : Option StoredJob :=
  some job

/-- The outcome of an attempt until its workflow mutation commits. -/
structure StoredJobOutcome where
  env : Envelope
  attempt : DeliveryAttempt
  started : Time := 0
  finished : Time := 0
  error : Option GoError := none
  deriving DecidableEq, Repr

/-- `transitionClaimFromOutcome`: the physical generation that executes the
attempt. -/
def transitionClaimFromOutcome (context : DeliveryContext) (outcome : StoredJobOutcome) :
    TransitionClaim where
  deliveryID := (context.provenance.map (·.generationID)).getD ""
  attempt := outcome.env.attempt
  dispatchID := outcome.env.dispatchID
  jobID := outcome.env.jobID
  jobFingerprint := storedJobReceiptFingerprint outcome.env.job

end JobQueue.Workflow
