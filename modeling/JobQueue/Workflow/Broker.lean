import JobQueue.Workflow.Batch

/-!
# The engine over a message broker

Programs of the engine run against a broker and one built-in store. A worker
takes any message of the broker and runs its handler; when the handler returns,
the message goes back to the broker exactly when the result is classified as a
retry or a redelivery. The environment may also put further copies of a
message into the broker, prune the store, let time pass and dispatch new
workflows.

Every choice that the code leaves open is an input: random identifiers (which
must be fresh), handler results, whether an enqueue is accepted, rejected or
answered with an error although it was accepted, and faults of the database.

Besides the state of the system the world keeps a history: facts reported,
handlers started, transitions committed and messages produced, newest first.
Only statements about runs read the history.
-/

namespace JobQueue.Workflow

open Interleaving

/-! ## Stored workflows -/

/-- The state of a built-in store. -/
inductive Backend
  | memory (store : MemoryStore)
  | sql (db : Database)

namespace Backend

/-- A built-in store before its first use. -/
def empty : StoreKind -> Backend
  | .memory => .memory MemoryStore.empty
  | .sql => .sql Database.empty

/-- The stored chain. -/
def chain : Backend -> String -> Option ChainState
  | .memory store, id => (store.chains id).map (·.state)
  | .sql db, id => db.chains id

/-- The success of a node was recorded. -/
def committed : Backend -> String -> String -> Bool
  | .memory store, id, nodeID => (store.chains id).any (·.completedNode nodeID)
  | .sql db, id, nodeID => db.chainCompletedNodes id nodeID

/-- The stored batch with its members. -/
def batch : Backend -> String -> Option MemoryBatch
  | .memory store, id => store.batch id
  | .sql db, id =>
    (db.batches id).map fun state =>
      { state := state, jobs := db.batchJobs id }

/-- `Prune`. -/
def prune : Backend -> Time -> Backend
  | .memory store, before => .memory (store.prune before)
  | .sql db, before => .sql (db.prune before)

end Backend

/-! ## History -/

/-- Committed changes of terminal flags. -/
inductive Transition
  | chainCompleted (chainID : String)
  | chainFailed (chainID : String)
  | batchCompleted (batchID : String)
  /-- Cancelled by the failure of a member, or by `CancelBatch`. -/
  | batchCancelled (batchID : String) (member : Option String)
  deriving DecidableEq, Repr

/-- Flags of a chain that an operation set. -/
def chainTransitions (chainID : String) : Option ChainState -> Option ChainState -> List Transition
  | some before, some after =>
    (if !before.completed && after.completed then
      [.chainCompleted chainID] else []) ++
    (if !before.failed && after.failed then [.chainFailed chainID] else [])
  | _, _ => []

/-- Flags of a batch that an operation set. -/
def batchTransitions (batchID : String) (member : Option String) :
    Option MemoryBatch -> Option MemoryBatch -> List Transition
  | some before, some after =>
    (if !before.state.completed && after.state.completed &&
        !after.state.cancelled then [.batchCompleted batchID] else []) ++
    (if !before.state.cancelled && after.state.cancelled then
      [.batchCancelled batchID member] else [])
  | _, _ => []

/-- The workflow whose terminal flags an operation can set. -/
inductive Target
  | none
  | chain (chainID : String)
  | batch (batchID : String) (member : Option String)
  deriving DecidableEq, Repr

/-- The target of a memory call. -/
def MemoryCall.target : MemoryCall -> Target
  | .advanceChainOutcome chainID _ _ => .chain chainID
  | .failChainOutcome chainID _ _ _ => .chain chainID
  | .failChain chainID _ => .chain chainID
  | .settleBatchOutcome batchID jobID _ _ => .batch batchID (some jobID)
  | .cancelBatch batchID => .batch batchID none
  | _ => .none

/-- The target of a statement. -/
def Statement.target : Statement -> Target
  | .advanceChain chainID _ _ _ => .chain chainID
  | .failChainNode chainID _ _ _ _ => .chain chainID
  | .failChain chainID _ => .chain chainID
  | .settleBatch batchID jobID _ _ => .batch batchID (some jobID)
  | .cancelBatch batchID => .batch batchID none
  | _ => .none

/-- Flags that an operation set on its target. -/
def Target.transitions (before after : Backend) : Target -> List Transition
  | .none => []
  | .chain chainID => chainTransitions chainID (before.chain chainID) (after.chain chainID)
  | .batch batchID member =>
    batchTransitions batchID member (before.batch batchID) (after.batch batchID)

/-- A message of the transport. -/
structure Message where
  kind : DeliveryType
  env : Envelope
  deriving DecidableEq, Repr

/-- A message in the hands of a worker. -/
structure Delivery where
  message : Message
  context : DeliveryContext
  deriving DecidableEq, Repr

/-- The start of an application handler, with the chain stored then and those
of its nodes whose success was recorded. -/
structure Start where
  label : Nat
  kind : DeliveryType
  env : Envelope
  chain : Option ChainState
  committed : List String
  deriving DecidableEq, Repr

/-! ## The world -/

/-- State of the system and its history. -/
structure World where
  backend : Backend
  clock : Time := 0
  registry : CallbackRegistry := .empty
  /-- Identifiers in use, each with the program it was generated for. -/
  ids : List (String × Nat) := []
  /-- Settlement generations given to deliveries. -/
  generations : List String := []
  broker : List Message := []
  handling : List (Nat × Delivery) := []
  produced : List Message := []
  facts : List (Nat × Event) := []
  starts : List Start := []
  transitions : List (Nat × Transition) := []
  /-- Chains whose initial enqueue was rejected. -/
  rejected : List String := []
  /-- Chains whose dispatch has returned. -/
  returned : List String := []

/-- How the transport answers an enqueue. -/
inductive Enqueue
  | accepted
  /-- Accepted and executed inline, which failed. -/
  | executed (error : GoError)
  | rejected (error : GoError)
  /-- Accepted, but answered with an error. -/
  | ambiguous (error : GoError)
  deriving DecidableEq, Repr

/-- The message reached the broker. -/
def Enqueue.accepts : Enqueue -> Bool
  | .accepted => true
  | .executed _ => true
  | .rejected _ => false
  | .ambiguous _ => true

/-- What the caller is told. -/
def Enqueue.answer : Enqueue -> Option GoError
  | .accepted => none
  | .executed error => some (.acceptedExecution error)
  | .rejected error => some error
  | .ambiguous error => some error

/-- A rejection does not claim acceptance. -/
def Enqueue.possible : Enqueue -> Bool
  | .accepted => true
  | .executed _ => true
  | .rejected error => error.acceptedDispatchExecutionError.isNone
  | .ambiguous error => error.acceptedDispatchExecutionError.isNone

/-- Choices left open by operations. -/
inductive Choice
  | plain
  | suffix (text : String)
  | registered (known : Bool)
  | result (error : Option GoError)
  | enqueue (outcome : Enqueue)
  | fault (fault : Fault)
  deriving DecidableEq, Repr

/-- Results of the programs. -/
inductive Result
  | delivery (error : Option GoError)
  | chain (chainID : String) (error : Option GoError)
  | batch (batchID : String) (error : Option GoError)
  deriving DecidableEq, Repr

namespace World

/-- A world in which nothing has happened. -/
def initial (kind : StoreKind) : World where
  backend := .empty kind

variable (w : World)

/-- Put an accepted message on the transport. -/
def produce (message : Message) : World :=
  { w with broker := message :: w.broker, produced := message :: w.produced }

/-- Note the outcome of an enqueue. -/
def enqueue (message : Message) (outcome : Enqueue) : World :=
  if outcome.accepts then w.produce message else w

variable (label : Nat)

/-- Note a chain whose first message was rejected: programs that handle no
delivery enqueue only first messages. -/
def noteRejection (message : Message) (outcome : Enqueue) : World :=
  if message.kind = .chainNode ∧ (KeyedList.find label w.handling).isNone ∧
      outcome.answer.isSome ∧
      (acceptedExecutionError outcome.answer).isNone then
    { w with rejected := message.env.chainID :: w.rejected }
  else w

/-- The start of a handler in this world. -/
def starting (env : Envelope) : Start where
  label := label
  kind := ((KeyedList.find label w.handling).map (·.message.kind)).getD .direct
  env := env
  chain := w.backend.chain env.chainID
  committed :=
    ((w.backend.chain env.chainID).map fun state =>
      (state.nodes.map (·.nodeID)).filter (w.backend.committed env.chainID)).getD []

/-- Note the start of a handler. -/
def start (env : Envelope) : World :=
  { w with starts := w.starting label env :: w.starts }

/-- Replace the backend and note the flags that were set on a target. -/
def commit (target : Target) (after : Backend) : World :=
  { w with
    backend := after
    transitions :=
      (target.transitions w.backend after).map (fun entry => (label, entry)) ++ w.transitions }

/-- Perform one operation of a program. -/
def exec (w : World) :
    (operation : Op) -> Choice -> Option (Option operation.Answer × World)
  | .newID kind, .suffix text =>
    let id := kind ++ "_" ++ text
    if (KeyedList.find id w.ids).isSome then none
    else some (some id, { w with ids := (id, label) :: w.ids })
  | .now, .plain => some (some w.clock, w)
  | .emit event _, .plain => some (some (), { w with facts := (label, event) :: w.facts })
  | .lookupHandler _, .registered known => some (some known, w)
  | .handle env, .result error => some (some error, w.start label env)
  | .runCallback _ _ _, .result error => some (some error, w)
  | .runProgress _, .plain => some (some (), w)
  | .registry call, .plain =>
    some (some (call.run w.registry).1, { w with registry := (call.run w.registry).2 })
  | .busDispatch kind env, .enqueue outcome =>
    if outcome.possible then
      some (some outcome.answer,
        (w.enqueue { kind := kind, env := env } outcome).noteRejection label
          { kind := kind, env := env } outcome)
    else none
  | .markDeliveryApplicationStateCommitted, .plain => some (some (), w)
  | .recordSynchronousChainError _, .plain => some (some (), w)
  | .synchronousChainError, .result error => some (some error, w)
  | .memory call, .plain =>
    match w.backend with
    | .memory store =>
      some (some (call.run store w.clock).1,
        w.commit label call.target (.memory (call.run store w.clock).2))
    | .sql _ => none
  | .sql statement, .plain =>
    match w.backend with
    | .memory _ => none
    | .sql db =>
      some (some (statement.run db w.clock none).1, w.commit label statement.target
          (.sql (statement.run db w.clock none).2))
  | .sql statement, .fault fault =>
    match w.backend with
    | .memory _ => none
    | .sql db =>
      some (some (statement.run db w.clock (some fault)).1, w.commit label statement.target
          (.sql (statement.run db w.clock (some fault)).2))
  | _, _ => none

/-- The worker keeps the message after this result. -/
def Delivery.keeps (delivery : Delivery) (error : Option GoError) : Bool :=
  match classifyAttempt (deliveryAttempt delivery.context delivery.message.env) error with
  | .retry => true
  | .redeliver => true
  | .succeeded => false
  | .failed => false

/-- Settle a program that returned. -/
def finish (result : Result) (w : World) : Option World :=
  match result with
  | .delivery error =>
    match KeyedList.find label w.handling with
    | none => none
    | some delivery =>
      some
        { w with
          handling := KeyedList.erase label w.handling
          broker :=
            if Delivery.keeps delivery error then
              delivery.message :: w.broker
            else w.broker }
  | .chain chainID _ => some { w with returned := chainID :: w.returned }
  | .batch _ _ => some w

end World

/-! ## The machine -/

/-- Moves of the environment. -/
inductive Move
  | dispatchChain (builder : ChainBuilder) (context : DeliveryContext)
  | dispatchBatch (builder : BatchBuilder) (context : DeliveryContext)
  | deliver (index : Nat) (context : DeliveryContext)
  | duplicate (index : Nat)
  | prune (before : Time)
  | tick (duration : Nat)

namespace DeliveryContext

/-- The generation a delivery settles. -/
def generationID (context : DeliveryContext) : String :=
  (context.provenance.map (·.generationID)).getD ""

end DeliveryContext

namespace Broker

/-- The runtime over a built-in store. -/
def runtime (kind : StoreKind) (callbacksDisabled : Bool) : Runtime where
  store := kind.methods
  ephemeralCallbacksDisabled := callbacksDisabled

variable (r : Runtime)

/-- The handler of a delivery as a program of the machine. -/
def deliveryProgram (delivery : Delivery) : Engine Result := do
  let error ← handleDelivery r delivery.context delivery.message.kind delivery.message.env
  return .delivery error

/-- A chain dispatch as a program of the machine. -/
def chainProgram (builder : ChainBuilder) (context : DeliveryContext) :
    Engine Result := do
  let answer ← builder.dispatch r context
  return .chain answer.1 answer.2

/-- A batch dispatch as a program of the machine. -/
def batchProgram (builder : BatchBuilder) (context : DeliveryContext) :
    Engine Result := do
  let answer ← builder.dispatch r context
  return .batch answer.1 answer.2

/-- Hand a message to a worker. A generation is never given out twice. -/
def deliver (label : Nat) (w : World) (index : Nat) (context : DeliveryContext) :
    Option (World × Delivery) :=
  match w.broker[index]? with
  | none => none
  | some message =>
    if context.generationID ≠ "" ∧ context.generationID ∈ w.generations then none
    else
      let delivery : Delivery := { message := message, context := context }
      some
        ({ w with
            broker := w.broker.eraseIdx index
            handling := (label, delivery) :: w.handling
            generations := context.generationID :: w.generations },
          delivery)

/-- A move of the environment. -/
def external (label : Nat) (w : World) :
    Move -> Option (World × Option (Engine Result))
  | .dispatchChain builder context => some (w, some (chainProgram r builder context))
  | .dispatchBatch builder context => some (w, some (batchProgram r builder context))
  | .deliver index context =>
    (deliver label w index context).map fun outcome =>
      (outcome.1, some (deliveryProgram r outcome.2))
  | .duplicate index =>
    (w.produced[index]?).map fun message =>
      ({ w with broker := message :: w.broker }, none)
  | .prune before => some ({ w with backend := w.backend.prune before }, none)
  | .tick duration => some ({ w with clock := w.clock + duration }, none)

/-- The engine over a broker and a built-in store. -/
def machine (kind : StoreKind) (callbacksDisabled : Bool) :
    Machine World Op Op.Answer Result Choice Move where
  exec := World.exec
  finish := World.finish
  external := external (runtime kind callbacksDisabled)

/-- Configurations of the machine. -/
abbrev Configuration : Type := Config World Op Op.Answer Result

/-- Conditions on its steps. -/
abbrev StepCondition : Type := Condition World Op Op.Answer Move

/-- A configuration in which nothing has happened. -/
def start (kind : StoreKind) : Configuration :=
  Config.initial (World.initial kind)

/-- Steps of one program with these choices, one after another. -/
def perform (label : Nat) (choices : List Choice) : List (Action Choice Move) :=
  choices.map (.run label)

end Broker

end JobQueue.Workflow
