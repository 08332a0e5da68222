import JobQueue.Collections.KeyedTable
import JobQueue.Interleaving.Invariant
import JobQueue.Runtime.Errors
import Mathlib.Data.List.Perm.Basic
import Mathlib.Logic.Function.Basic

/-!
# Lifecycle of the queue runtimes

`nativeQueueRuntime` and `externalQueueRuntime` guard their lifecycle flags,
their handler tables and the count of leased operations with one mutex. Here a
critical section is one operation. Waiting for a channel, calling a backend
and returning from it are operations of their own, so every other call may come
in between. A wait may end at any moment because its context is done, and a
backend may answer any error.

A continuation permit is an atomic flag that is never set again once it was
cleared, so a critical section that scans the permits of a context can be taken
to happen when it reads the flag that decides.

The two runtimes have one state here. The worker of a native runtime is its
`runtime`, which it has from construction on; an external runtime constructs
its worker when it is started and forgets it when the worker was shut down.
-/

namespace JobQueue.Lifecycle

open Interleaving

/-- The two runtimes. -/
inductive Kind
  | native
  | external
  deriving DecidableEq, Repr

/-- An application handler, known by its identity. -/
structure Handler where
  identity : Nat
  deriving DecidableEq, Repr

/-- A worker backend, known by its identity. -/
abbrev Worker : Type := Nat

/-- The `runtime` of a native runtime. -/
def nativeBackend : Worker := 0

/-- The error of a refused call. -/
def errQueuerShuttingDown : GoError := .sentinel "queue is shutting down"

/-! ## Leased operations -/

/-- `runtimeOperationState` and the idle channels it has made so far. A
channel is known by how many were made before it. -/
structure OperationState where
  active : Int := 0
  idle : Option Nat := none
  made : Nat := 0
  closed : List Nat := []
  deriving DecidableEq, Repr

namespace OperationState

/-- Count one more operation. -/
def acquire (operations : OperationState) : OperationState :=
  { operations with
    active := operations.active + 1
    idle := if operations.active = 0 then some operations.made
      else operations.idle
    made := if operations.active = 0 then operations.made + 1
      else operations.made }

/-- One operation less, and whether an idle waiter should be released. -/
def release (operations : OperationState) : Bool × OperationState :=
  (operations.active - 1 = 0 && operations.idle.isSome,
    { operations with active := operations.active - 1 })

/-- Close the idle channel. -/
def markIdle (operations : OperationState) : OperationState :=
  { operations with closed := operations.idle.toList ++ operations.closed, idle := none }

end OperationState

/-! ## Continuation permits -/

/-- The token of a `ContinuationScope`. -/
abbrev Scope : Type := Nat

/-- The token that a runtime allocates for its own scope. -/
def newContinuationScope : Scope := 0

/-- A continuation permit. -/
structure Permit where
  scope : Scope
  identity : Nat
  deriving DecidableEq, Repr

/-- The permits a context carries. -/
structure Context where
  permits : List Permit := []
  deriving DecidableEq, Repr

/-- `ContinuationScope.Owns`, given the permits that are still active. -/
def owns (scope : Scope) (active : List Permit) (ctx : Context) : Bool :=
  ctx.permits.any fun permit => permit.scope = scope && permit ∈ active

/-! ## Handlers -/

/-- `handlerSlots` and the slots it points to. -/
structure Slots where
  handlerSlots : KeyedTable String Nat := .empty
  handlers : List Handler := []

/-- `runtimeHandlerSlot.invoke`: the handler that is called. -/
def Slots.invoke (slots : Slots) (slot : Nat) : Option Handler :=
  slots.handlers[slot]?

/-- Store a handler in its slot. -/
def updateRuntimeHandlerSlot
    (slots : Slots) (jobType : String) : Option Handler -> Slots × Option Nat
  | none => (slots, none)
  | some handler =>
    match slots.handlerSlots.get jobType with
    | some slot => ({ slots with handlers := slots.handlers.set slot handler }, some slot)
    | none =>
      ({ handlerSlots :=
          slots.handlerSlots.set jobType slots.handlers.length
         handlers := slots.handlers ++ [handler] },
        some slots.handlers.length)

/-- The `Register` calls a backend has received, oldest first: a job type and
the slot behind the trampoline, if the handler was not nil. -/
abbrev Backend : Type := List (String × Option Nat)

/-- The slot behind the trampoline that a backend calls for a job type. -/
def Backend.target (backend : Backend) (jobType : String) : Option Nat :=
  (backend.reverse.find? fun call => call.1 = jobType).bind Prod.snd

/-- Install a slot once per type. -/
def installRuntimeHandler (backend : Backend) (registrations : List String) (jobType : String)
    (handler : Option Handler) (slot : Option Nat) : Backend × List String :=
  match handler with
  | none => (backend ++ [(jobType, none)], registrations)
  | some _ =>
    if jobType ∈ registrations then (backend, registrations)
    else (backend ++ [(jobType, slot)], jobType :: registrations)

/-! ## State -/

/-- `nativeQueueRuntimeState` and `externalQueueRuntimeState`. An attempt is
known by the call that made it. -/
structure RuntimeState where
  registered : KeyedTable String Handler := .empty
  slots : Slots := {}
  worker : Option Worker := none
  /-- `runtimeRegistrations` and `workerRegistrations`. -/
  registrations : List String := []
  started : Bool := false
  draining : Bool := false
  closed : Bool := false
  start : Option Nat := none
  shutdown : Option Nat := none
  operations : OperationState := {}
  continuation : Option Scope := some newContinuationScope
  workers : Int := 0

/-- A runtime, the channels and backends it uses, and what its callers do. -/
structure World where
  state : RuntimeState
  /-- The error of a start attempt, once its `done` channel is closed. -/
  startDone : Nat -> Option (Option GoError) := fun _ => none
  /-- The error of a shutdown attempt, once its `done` channel is closed. -/
  shutdownDone : Nat -> Option (Option GoError) := fun _ => none
  backends : Worker -> Backend := fun _ => []
  nextWorker : Worker
  /-- The continuation permits that are active. -/
  permits : List Permit := []
  nextPermit : Nat := 0
  /-- The calls that hold an operation lease. -/
  leases : List Nat := []
  /-- The calls whose start attempt is in progress. -/
  starting : List Nat := []
  /-- The calls whose shutdown attempt is in progress. -/
  shuttingDown : List Nat := []
  /-- The backends whose `StartWorkers` was invoked. -/
  activated : List Worker := []
  /-- The backends whose worker drain returned nil since. -/
  drained : List Worker := []
  /-- The `Register` calls that have completed, newest first. -/
  completed : List (String × Handler) := []

/-- A new runtime. -/
def World.new : Kind -> Int -> World
  | .native, workers =>
    { state := { worker := some nativeBackend, workers := workers }
      nextWorker := nativeBackend + 1 }
  | .external, workers => { state := { workers := workers }, nextWorker := 0 }

namespace World

/-! ## Critical sections -/

/-- The scope, made on first use. -/
def continuationScopeLocked (state : RuntimeState) : Scope × RuntimeState :=
  match state.continuation with
  | some scope => (scope, state)
  | none =>
    (newContinuationScope, { state with continuation := some newContinuationScope })

/-- Whether the lifecycle gate refuses an operation. -/
def refuses (world : World) (ctx : Context) (allowContinuation : Bool) : Bool :=
  world.state.closed || (world.state.draining && (!allowContinuation ||
    !owns (continuationScopeLocked world.state).1 world.permits ctx))

/-- Admit an operation. -/
def acquireOperation (label : Nat) (ctx : Context) (allowContinuation : Bool) (world : World) :
    Option GoError × World :=
  let state := (continuationScopeLocked world.state).2
  if world.refuses ctx allowContinuation then
    (some errQueuerShuttingDown, { world with state := state })
  else
    (none,
      { world with
        state := { state with operations := state.operations.acquire }
        leases := label :: world.leases })

/-- End an operation. -/
def releaseOperation (label : Nat) (world : World) : World :=
  let released := world.state.operations.release
  { world with
    state :=
      { world.state with
        operations :=
          if released.1 then released.2.markIdle else released.2 }
    leases := world.leases.erase label }

/-- Update the slot of a job type. -/
def updateSlot (entry : String × Handler) (world : World) : Option Nat × World :=
  let updated := updateRuntimeHandlerSlot world.state.slots entry.1 (some entry.2)
  (updated.2, { world with state := { world.state with slots := updated.1 } })

/-- Install the trampoline of a job type on a backend. -/
def installOn (worker : Worker) (entry : String × Handler) (slot : Option Nat)
    (world : World) : World :=
  let installed :=
    installRuntimeHandler (world.backends worker) world.state.registrations
      entry.1 (some entry.2) slot
  { world with
    state := { world.state with registrations := installed.2 }
    backends := Function.update world.backends worker installed.1 }

/-- The body of the loops that install the registered handlers. -/
def install (worker : Worker) (world : World) (entry : String × Handler) : World :=
  let updated := world.updateSlot entry
  updated.2.installOn worker entry updated.1

/-- The loop over `registered`, in the order in which the map is ranged. -/
def catchUp (worker : Worker) (order : List (String × Handler)) (world : World) : World :=
  order.foldl (install worker) world

/-- Enter a handler into `registered`. -/
def recordHandler (entry : String × Handler) (world : World) : World :=
  { world with
    state :=
      { world.state with registered := world.state.registered.set entry.1 entry.2 }
    completed := entry :: world.completed }

/-- The critical section of `Register`. -/
def register (jobType : String) (handler : Handler) (world : World) : World :=
  let entry := (jobType, handler)
  let updated := (world.recordHandler entry).updateSlot entry
  match world.state.worker with
  | some worker =>
    if !world.state.draining &&
        (world.state.start.isSome || world.state.started) then
      updated.2.installOn worker entry updated.1
    else updated.2
  | none => updated.2

/-- Set the count before the start. -/
def setWorkers (count : Int) (world : World) : World :=
  if !world.state.started && !world.state.draining && !world.state.closed &&
      world.state.start.isNone && count > 0 then
    { world with state := { world.state with workers := count } }
  else world

/-- How `StartWorkers` leaves its first critical section. -/
inductive StartEntry
  | refused
  | started
  | joined (attempt : Nat)
  | began (worker : Option Worker) (workers : Int)
  deriving DecidableEq, Repr

/-- The part of the first critical section that the runtimes share. -/
def enterStart (label : Nat) (world : World) : StartEntry × World :=
  if world.state.closed || world.state.draining then (.refused, world)
  else if world.state.started then (.started, world)
  else
    match world.state.start with
    | some attempt => (.joined attempt, world)
    | none =>
      (.began world.state.worker world.state.workers,
        { world with
          state := { world.state with start := some label }
          starting := label :: world.starting })

/-- The first critical section of the native `StartWorkers`, which also
installs the handlers. -/
def enterNativeStart (label : Nat) (order : List (String × Handler)) (world : World) :
    StartEntry × World :=
  match enterStart label world with
  | (.began worker workers, entered) => (.began worker workers, entered.catchUp nativeBackend order)
  | other => other

/-- The second critical section of the external `StartWorkers`. -/
def publishWorker (worker : Worker) (order : List (String × Handler)) (world : World) : World :=
  catchUp worker order { world with state := { world.state with worker := some worker } }

/-- The last critical section of `StartWorkers`. Only the external runtime
sets a worker here. -/
def leaveStart (label : Nat) (worker : Option Worker) (err : Option GoError)
    (world : World) : World :=
  { world with
    state :=
      { world.state with
        worker := worker.or world.state.worker
        started := err.isNone || world.state.started
        start := none }
    startDone := Function.update world.startDone label (some err)
    starting := world.starting.erase label }

/-- How `Shutdown` leaves its first critical section. -/
inductive ShutdownEntry
  | starting (attempt : Nat)
  | joined (attempt : Nat)
  | closed
  | began (worker : Option Worker) (idle : Option Nat)
  deriving DecidableEq, Repr

/-- The first critical section of `Shutdown`. -/
def enterShutdown (label : Nat) (world : World) : ShutdownEntry × World :=
  match world.state.start with
  | some attempt =>
    (.starting attempt, { world with state := { world.state with draining := true } })
  | none =>
    match world.state.shutdown with
    | some attempt => (.joined attempt, world)
    | none =>
      if world.state.closed then (.closed, world)
      else
        (.began world.state.worker world.state.operations.idle,
          { world with
            state :=
              { world.state with draining := true, shutdown := some label }
            shuttingDown := label :: world.shuttingDown })

/-- The critical section after the external worker was shut down. -/
def forgetWorker (world : World) : World :=
  { world with state := { world.state with worker := none, registrations := [], started := false } }

/-- The last critical section of `Shutdown`. -/
def leaveShutdown (kind : Kind) (label : Nat) (err : Option GoError) (world : World) : World :=
  { world with
    state :=
      if err.isNone then
        { world.state with
          shutdown := none
          started := if kind = .native then false else world.state.started
          draining := false
          closed := true }
      else { world.state with shutdown := none }
    shutdownDone := Function.update world.shutdownDone label (some err)
    shuttingDown := world.shuttingDown.erase label }

/-- The handler that a backend invokes for a job type. -/
def invokes (world : World) (worker : Worker) (jobType : String) : Option Handler :=
  (Backend.target (world.backends worker) jobType).bind world.state.slots.invoke

end World

/-! ## Operations -/

/-- What calls of a runtime ask for. -/
inductive Op
  | acquireOperation (ctx : Context) (allowContinuation : Bool)
  /-- The backend call that a lease guards. -/
  | operate
  | releaseOperation
  | register (jobType : String) (handler : Handler)
  | setWorkers (count : Int)
  | enterStart (kind : Kind)
  /-- The worker factory. -/
  | newWorker (workers : Int)
  | publishWorker (worker : Worker)
  /-- Invoke the backend's `StartWorkers`. -/
  | startWorkers (worker : Worker)
  /-- The backend's `StartWorkers` returns. -/
  | startReturned (worker : Worker)
  | leaveStart (worker : Option Worker) (err : Option GoError)
  | waitForRuntimeStart (attempt : Nat)
  | waitForRuntimeStartCompletion (attempt : Nat)
  | enterShutdown
  | waitForRuntimeShutdown (attempt : Nat)
  /-- Receive from an idle channel, or from the context. -/
  | waitIdle (idle : Nat)
  /-- Invoke `DrainWorkers`, or `Shutdown` of an external worker. -/
  | drainWorkers (worker : Worker)
  | drainReturned (worker : Worker)
  | forgetWorker
  /-- Read the idle channel again. -/
  | snapshotIdle
  /-- Invoke `Shutdown` of the producer backend. -/
  | producerShutdown
  | producerReturned
  | leaveShutdown (kind : Kind) (err : Option GoError)
  deriving DecidableEq, Repr

/-- What an operation answers. -/
@[reducible] def Op.Answer : Op -> Type
  | .acquireOperation _ _ => Option GoError
  | .operate => Option GoError
  | .releaseOperation => Unit
  | .register _ _ => Unit
  | .setWorkers _ => Unit
  | .enterStart _ => World.StartEntry
  | .newWorker _ => Except GoError Worker
  | .publishWorker _ => Unit
  | .startWorkers _ => Unit
  | .startReturned _ => Option GoError
  | .leaveStart _ _ => Unit
  | .waitForRuntimeStart _ => Option GoError
  | .waitForRuntimeStartCompletion _ => Option GoError
  | .enterShutdown => World.ShutdownEntry
  | .waitForRuntimeShutdown _ => Option GoError
  | .waitIdle _ => Option GoError
  | .drainWorkers _ => Unit
  | .drainReturned _ => Option GoError
  | .forgetWorker => Unit
  | .snapshotIdle => Option Nat
  | .producerShutdown => Unit
  | .producerReturned => Option GoError
  | .leaveShutdown _ _ => Unit

/-- How a call of a runtime ends. -/
inductive Result
  | returned (err : Option GoError)
  /-- `Shutdown` called itself more often than the model lets it. -/
  | cut
  deriving DecidableEq, Repr

/-- Programs of calls. -/
abbrev Call : Type -> Type := Prog Op Op.Answer

/-- Perform one operation. -/
def ask (operation : Op) : Call operation.Answer := Prog.perform operation

/-! ## Programs -/

/-- An operation that `acquireOperation` guards, such as `Dispatch`. -/
def guarded (ctx : Context) (allowContinuation : Bool) : Call Result := do
  match ← ask (.acquireOperation ctx allowContinuation) with
  | some err => pure (.returned (some err))
  | none => do
      let err ← ask .operate
      ask .releaseOperation
      pure (.returned err)

/-- Register a handler. -/
def register (jobType : String) (handler : Option Handler) : Call Result :=
  match handler with
  | none => pure (.returned none)
  | some handler =>
    if jobType = "" then pure (.returned none)
    else do
      ask (.register jobType handler)
      pure (.returned none)

/-- Set the count of workers. -/
def setWorkers (count : Int) : Call Result := do
  ask (.setWorkers count)
  pure (.returned none)

/-- Call the backend's `StartWorkers`. -/
def callStartWorkers (worker : Worker) : Call (Option GoError) := do
  ask (.startWorkers worker)
  ask (.startReturned worker)

/-- Wait for the admitted operations. -/
def waitForRuntimeOperations : Option Nat -> Call (Option GoError)
  | none => pure none
  | some idle => ask (.waitIdle idle)

/-- Call the worker drain of a backend. -/
def callDrain (worker : Worker) : Call (Option GoError) := do
  ask (.drainWorkers worker)
  ask (.drainReturned worker)

/-- The second wait for operations and the call of the producer's
`Shutdown`. -/
def shutdownProducer : Call (Option GoError) := do
  let idle ← ask .snapshotIdle
  match ← waitForRuntimeOperations idle with
  | some err => pure (some err)
  | none => do
      ask .producerShutdown
      ask .producerReturned

namespace NativeQueueRuntime

/-- Start the native backend. -/
def startWorkers : Call Result := do
  match ← ask (.enterStart .native) with
  | .refused => pure (.returned (some errQueuerShuttingDown))
  | .started => pure (.returned none)
  | .joined attempt => do
      let err ← ask (.waitForRuntimeStart attempt)
      pure (.returned err)
  | .began _ _ => do
      let err ← callStartWorkers nativeBackend
      ask (.leaveStart none err)
      pure (.returned err)

/-- What a shutdown attempt does between its first and its last critical
section. -/
def cleanUp (idle : Option Nat) : Call (Option GoError) := do
  match ← waitForRuntimeOperations idle with
  | some err => pure (some err)
  | none => do
      match ← callDrain nativeBackend with
      | some err => pure (some err)
      | none => shutdownProducer

end NativeQueueRuntime

namespace ExternalQueueRuntime

/-- The worker at hand, or one from the factory. -/
def obtainWorker : Option Worker -> Int -> Call (Except GoError Worker)
  | some worker, _ => pure (.ok worker)
  | none, workers => ask (.newWorker workers)

/-- Start the external workers. -/
def startWorkers : Call Result := do
  match ← ask (.enterStart .external) with
  | .refused => pure (.returned (some errQueuerShuttingDown))
  | .started => pure (.returned none)
  | .joined attempt => do
      let err ← ask (.waitForRuntimeStart attempt)
      pure (.returned err)
  | .began worker workers => do
      match ← obtainWorker worker workers with
      | .error err => do
          ask (.leaveStart none (some err))
          pure (.returned (some err))
      | .ok worker => do
          ask (.publishWorker worker)
          let err ← callStartWorkers worker
          ask (.leaveStart (some worker) err)
          pure (.returned err)

/-- What a shutdown attempt does between its first and its last critical
section. -/
def cleanUp (worker : Option Worker) (idle : Option Nat) : Call (Option GoError) := do
  match ← waitForRuntimeOperations idle with
  | some err => pure (some err)
  | none =>
    match worker with
    | none => shutdownProducer
    | some worker => do
        match ← callDrain worker with
        | some err => pure (some err)
        | none => do
            ask .forgetWorker
            shutdownProducer

end ExternalQueueRuntime

namespace Kind

/-- `StartWorkers` of a runtime. -/
def startWorkers : Kind -> Call Result
  | .native => NativeQueueRuntime.startWorkers
  | .external => ExternalQueueRuntime.startWorkers

/-- Shut down what was started. -/
def cleanUp (worker : Option Worker) (idle : Option Nat) : Kind -> Call (Option GoError)
  | .native => NativeQueueRuntime.cleanUp idle
  | .external => ExternalQueueRuntime.cleanUp worker idle

/-- `Shutdown`, which calls itself when a start was in progress. It does so at most
once, so a depth of two is never exhausted. -/
def shutdown (kind : Kind) : Nat -> Call Result
  | 0 => pure .cut
  | depth + 1 => do
      match ← ask .enterShutdown with
      | .starting attempt => do
          match ← ask (.waitForRuntimeStartCompletion attempt) with
          | some err => pure (.returned (some err))
          | none => kind.shutdown depth
      | .joined attempt => do
          let err ← ask (.waitForRuntimeShutdown attempt)
          pure (.returned err)
      | .closed => pure (.returned none)
      | .began worker idle => do
          let err ← kind.cleanUp worker idle
          ask (.leaveShutdown kind err)
          pure (.returned err)

end Kind

/-! ## Machine -/

/-- What an operation leaves open. -/
inductive Choice
  /-- Go on: a channel is ready, or a backend answers nil. -/
  | go
  /-- The context is done, or a backend answers an error. -/
  | fail (err : GoError)
  /-- The order in which a map is ranged. -/
  | order (entries : List (String × Handler))
  deriving DecidableEq, Repr

/-- Receive from a `done` channel. -/
def receive (done : Option (Option GoError)) (world : World) :
    Choice -> Option (Option (Option GoError) × World)
  | .go => done.map fun err => (some err, world)
  | .fail err => some (some (some err), world)
  | .order _ => none

/-- A call of a backend returns. -/
def answer (succeeded world : World) : Choice -> Option (Option (Option GoError) × World)
  | .go => some (some none, succeeded)
  | .fail err => some (some (some err), world)
  | .order _ => none

/-- What an operation does. -/
def exec (label : Nat) (world : World) :
    (operation : Op) -> Choice -> Option (Option operation.Answer × World)
  | .acquireOperation ctx allowContinuation, _ =>
    let acquired := world.acquireOperation label ctx allowContinuation
    some (some acquired.1, acquired.2)
  | .operate, choice => answer world world choice
  | .releaseOperation, _ => some (some (), world.releaseOperation label)
  | .register jobType handler, _ => some (some (), world.register jobType handler)
  | .setWorkers count, _ => some (some (), world.setWorkers count)
  | .enterStart .native, .order entries =>
    if entries.Perm world.state.registered.entries then
      let entered := world.enterNativeStart label entries
      some (some entered.1, entered.2)
    else none
  | .enterStart .external, _ =>
    let entered := world.enterStart label
    some (some entered.1, entered.2)
  | .newWorker _, .go =>
    some (some (.ok world.nextWorker), { world with nextWorker := world.nextWorker + 1 })
  | .newWorker _, .fail err => some (some (.error err), world)
  | .publishWorker worker, .order entries =>
    if entries.Perm world.state.registered.entries then
      some (some (), world.publishWorker worker entries)
    else none
  | .startWorkers worker, _ =>
    some (some (),
      { world with
        activated := worker :: world.activated
        drained := world.drained.filter (· ≠ worker) })
  | .startReturned _, choice => answer world world choice
  | .leaveStart worker err, _ => some (some (), world.leaveStart label worker err)
  | .waitForRuntimeStart attempt, choice => receive (world.startDone attempt) world choice
  | .waitForRuntimeStartCompletion attempt, choice =>
    receive ((world.startDone attempt).map fun _ => none) world choice
  | .enterShutdown, _ =>
    let entered := world.enterShutdown label
    some (some entered.1, entered.2)
  | .waitForRuntimeShutdown attempt, choice => receive (world.shutdownDone attempt) world choice
  | .waitIdle idle, choice =>
    receive (if idle ∈ world.state.operations.closed then some none
      else none) world choice
  | .drainWorkers _, _ => some (some (), world)
  | .drainReturned worker, choice =>
    answer { world with drained := worker :: world.drained } world choice
  | .forgetWorker, _ => some (some (), world.forgetWorker)
  | .snapshotIdle, _ => some (some world.state.operations.idle, world)
  | .producerShutdown, _ => some (some (), world)
  | .producerReturned, choice => answer world world choice
  | .leaveShutdown kind err, _ => some (some (), world.leaveShutdown kind label err)
  | .enterStart .native, _ => none
  | .newWorker _, _ => none
  | .publishWorker _, _ => none

/-- What callers and backends may do. -/
inductive Move
  | guarded (ctx : Context) (allowContinuation : Bool)
  | register (jobType : String) (handler : Option Handler)
  | setWorkers (count : Int)
  | startWorkers
  | shutdown
  /-- A backend starts a delivery of a job type, which issues a permit. -/
  | deliver (worker : Worker) (jobType : String)
  /-- A handler returns, which releases its permit. -/
  | settle (permit : Permit)
  deriving DecidableEq, Repr

/-- The world after a delivery has begun. -/
def World.issue (world : World) : World :=
  { world with
    permits :=
      ⟨(World.continuationScopeLocked world.state).1, world.nextPermit⟩ :: world.permits
    nextPermit := world.nextPermit + 1 }

/-- What the surroundings do. -/
def external (kind : Kind) (_label : Nat) (world : World) :
    Move -> Option (World × Option (Call Result))
  | .guarded ctx allowContinuation => some (world, some (guarded ctx allowContinuation))
  | .register jobType handler => some (world, some (register jobType handler))
  | .setWorkers count => some (world, some (setWorkers count))
  | .startWorkers => some (world, some kind.startWorkers)
  | .shutdown => some (world, some (kind.shutdown 2))
  | .deliver worker jobType => (world.invokes worker jobType).map fun _ => (world.issue, none)
  | .settle permit => some ({ world with permits := world.permits.erase permit }, none)

/-- A runtime that any number of calls use. -/
def machine (kind : Kind) : Machine World Op Op.Answer Result Choice Move where
  exec := exec
  finish := fun _ _ world => some world
  external := external kind

/-- Configurations of a runtime and its calls. -/
abbrev Configuration : Type := Config World Op Op.Answer Result

/-- A runtime that nobody has called. -/
def initial (kind : Kind) (workers : Int) : Configuration :=
  .initial (.new kind workers)

/-- A worker drain returned nil. -/
def Op.drained : (operation : Op) -> operation.Answer -> Bool
  | .drainReturned _, none => true
  | _, _ => false

/-- The backend that starts a delivery. -/
def Move.deliverer : Move -> Option Worker
  | .deliver worker _ => some worker
  | _ => none

/-- Every continuation permit is released before the worker drain of its
backend returns nil. -/
def permitsExpire : Condition World Op Op.Answer Move where
  operation := fun _ before operation answer _ =>
    operation.drained answer = true -> before.permits = []
  external := fun before move _ =>
    move.deliverer.all (fun worker => worker ∉ before.drained) = true

instance : permitsExpire.Testable where
  operation := fun _ before operation answer _ =>
    inferInstanceAs (Decidable (operation.drained answer = true -> before.permits = []))
  external := fun before move _ =>
    inferInstanceAs (Decidable (move.deliverer.all (fun worker => worker ∉ before.drained) = true))

/-- No `Shutdown` begins: none enters its first critical section. -/
def noShutdown : Condition World Op Op.Answer Move where
  operation := fun _ _ operation _ _ => operation ≠ .enterShutdown
  external := fun _ _ _ => True

instance : noShutdown.Testable where
  operation := fun _ _ operation _ _ =>
    inferInstanceAs (Decidable (operation ≠ .enterShutdown))
  external := fun _ _ _ => .isTrue trivial

end JobQueue.Lifecycle
