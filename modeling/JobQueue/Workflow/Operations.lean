import JobQueue.Interleaving.Machine
import JobQueue.Workflow.Delivery
import JobQueue.Workflow.Store.Sql

/-!
# Operations of the workflow engine

The engine is a collection of sequential programs. What they ask of their
surroundings are the operations below: identifiers and clock readings, observer
notifications, application handlers and callbacks, the registry of ephemeral
callbacks, the transport, and the calls of a workflow store. Between two
operations of one program every other program may run.

A call of the memory store is one operation because a mutex covers it. The SQL
store issues statements and transactions, each of which may fail, with or
without having taken effect.
-/

namespace JobQueue.Workflow

open Interleaving

/-! ## Calls of the memory store -/

/-- Methods of the memory store. -/
inductive MemoryCall
  | createChain (record : ChainRecord)
  | advanceChainOutcome (chainID nodeID : String) (claim : TransitionClaim)
  | failChainOutcome (chainID nodeID : String) (cause : Option GoError) (claim : TransitionClaim)
  | failChain (chainID : String) (cause : Option GoError)
  | getChain (chainID : String)
  | chainTransitionReceipt (chainID nodeID : String)
  | createBatch (record : BatchRecord)
  | markBatchJobStarted (batchID jobID : String)
  | settleBatchOutcome (batchID jobID : String) (outcome : BatchJobOutcome)
      (claim : TransitionClaim)
  | cancelBatch (batchID : String)
  | getBatch (batchID : String)
  | batchTransitionReceipt (batchID jobID : String)
  | markCallbackInvoked (key : String)

namespace MemoryCall

/-- What each method returns. -/
def Answer : MemoryCall -> Type
  | .createChain _ => Option GoError
  | .advanceChainOutcome _ _ _ => Except GoError ChainAdvanceResult
  | .failChainOutcome _ _ _ _ => Except GoError ChainFailureResult
  | .failChain _ _ => Option GoError
  | .getChain _ => Except GoError ChainState
  | .chainTransitionReceipt _ _ => Except GoError (Option TransitionReceipt)
  | .createBatch _ => Option GoError
  | .markBatchJobStarted _ _ => Option GoError
  | .settleBatchOutcome _ _ _ _ => Except GoError BatchSettlementResult
  | .cancelBatch _ => Option GoError
  | .getBatch _ => Except GoError BatchState
  | .batchTransitionReceipt _ _ => Except GoError (Option TransitionReceipt)
  | .markCallbackInvoked _ => Bool

/-- Run a method at an instant. -/
def run (store : MemoryStore) (now : Time) : (call : MemoryCall) -> call.Answer × MemoryStore
  | .createChain record => store.createChain record now
  | .advanceChainOutcome chainID nodeID claim => store.advanceChainOutcome chainID nodeID claim now
  | .failChainOutcome chainID nodeID cause claim =>
    store.failChainOutcome chainID nodeID cause claim now
  | .failChain chainID cause => store.failChain chainID cause now
  | .getChain chainID => (store.getChain chainID, store)
  | .chainTransitionReceipt chainID nodeID => (store.chainTransitionReceipt chainID nodeID, store)
  | .createBatch record => store.createBatch record now
  | .markBatchJobStarted batchID jobID => store.markBatchJobStarted batchID jobID now
  | .settleBatchOutcome batchID jobID outcome claim =>
    store.settleBatchOutcome batchID jobID outcome claim now
  | .cancelBatch batchID => store.cancelBatch batchID now
  | .getBatch batchID => (store.getBatch batchID, store)
  | .batchTransitionReceipt batchID jobID => (store.batchTransitionReceipt batchID jobID, store)
  | .markCallbackInvoked key => store.markCallbackInvoked key now

end MemoryCall

/-! ## Statements of the SQL store -/

/-- Statements and transactions of the SQL store. -/
inductive Statement
  | insertChain (record : ChainRecord)
  | selectChain (chainID : String)
  | failChain (chainID : String) (cause : Option GoError)
  | selectReceipt (key : TransitionReceiptKey)
  | selectMemberOutcomes (aggregate : TransitionReceipt)
  | startMember (batchID jobID : String)
  | selectMember (batchID jobID : String)
  | cancelBatch (batchID : String)
  | selectBatch (batchID : String)
  | insertCallbackInvocation (key : String)
  | advanceChain (chainID nodeID : String) (state : ChainState) (claim : TransitionClaim)
  | failChainNode (chainID nodeID : String) (state : ChainState)
      (cause : Option GoError) (claim : TransitionClaim)
  | insertBatch (record : BatchRecord)
  | settleBatch (batchID jobID : String) (isFailure : Bool) (claim : TransitionClaim)

/-- How a transaction ends for its caller. An error of the commit itself
leaves open whether the transaction took effect. -/
inductive TxAnswer (β : Type)
  | failed (error : GoError)
  | finished (result : β)
  | uncertain (error : GoError)

/-- A fault of the database during one statement. -/
inductive Fault
  /-- The statement, or one inside a transaction, failed. -/
  | refused (error : GoError)
  /-- The answer was lost, after the statement or commit took effect or not. -/
  | lost (error : GoError) (applied : Bool)
  deriving DecidableEq, Repr

namespace Statement

/-- What each statement returns. -/
def Answer : Statement -> Type
  | .insertChain _ => Except GoError Unit
  | .selectChain _ => Except GoError (Option ChainState)
  | .failChain _ _ => Except GoError Unit
  | .selectReceipt _ => Except GoError (Option TransitionReceipt)
  | .selectMemberOutcomes _ => Except GoError (List BatchJobOutcome)
  | .startMember _ _ => Except GoError Nat
  | .selectMember _ _ => Except GoError (Option BatchJobStatus)
  | .cancelBatch _ => Except GoError Unit
  | .selectBatch _ => Except GoError (Option BatchState)
  | .insertCallbackInvocation _ => Except GoError Bool
  | .advanceChain _ _ _ _ => TxAnswer (Option (ChainState × Option TransitionReceipt))
  | .failChainNode _ _ _ _ _ => TxAnswer (Option (ChainState × Option TransitionReceipt))
  | .insertBatch _ => TxAnswer Unit
  | .settleBatch _ _ _ _ => TxAnswer Database.SettlementRow

/-- Answer and effect of a single statement under a fault. -/
def execute {β : Type} (db : Database) (effect : Except GoError β × Database) :
    Option Fault -> Except GoError β × Database
  | none => effect
  | some (.refused error) => (.error error, db)
  | some (.lost error applied) => (.error error, if applied then effect.2 else db)

/-- Answer and effect of a transaction under a fault. -/
def transact {β : Type} (db : Database) : TxBody β -> Option Fault -> TxAnswer β × Database
  | .aborted error, none => (.failed error, db)
  | .rolledBack result, none => (.finished result, db)
  | .committed result final, none => (.finished result, final)
  | _, some (.refused error) => (.failed error, db)
  | .committed _ final, some (.lost error applied) =>
    (.uncertain error, if applied then final else db)
  | .aborted _, some (.lost error _) => (.failed error, db)
  | .rolledBack _, some (.lost error _) => (.failed error, db)

/-- Run a statement at an instant, possibly under a fault. -/
def run (db : Database) (now : Time) (fault : Option Fault) :
    (statement : Statement) -> statement.Answer × Database
  | .insertChain record =>
    execute db (match db.insertChain record now with
      | .error error => (.error error, db)
      | .ok inserted => (.ok (), inserted)) fault
  | .selectChain chainID => execute db (.ok (db.chains chainID), db) fault
  | .failChain chainID cause => execute db (.ok (), db.failChain chainID cause now) fault
  | .selectReceipt key => execute db (.ok (KeyedList.find key db.transitionReceipts), db) fault
  | .selectMemberOutcomes aggregate => execute db (.ok (db.memberOutcomes aggregate), db) fault
  | .startMember batchID jobID =>
    execute db (.ok (db.startMember batchID jobID).1, (db.startMember batchID jobID).2) fault
  | .selectMember batchID jobID =>
    execute db (.ok (KeyedList.find jobID (db.batchJobs batchID)), db) fault
  | .cancelBatch batchID => execute db (.ok (), db.cancelBatch batchID now) fault
  | .selectBatch batchID => execute db (.ok (db.batches batchID), db) fault
  | .insertCallbackInvocation key =>
    execute db
      (.ok (db.insertCallbackInvocation key now).1, (db.insertCallbackInvocation key now).2) fault
  | .advanceChain chainID nodeID state claim =>
    transact db (db.advanceChainBody chainID nodeID state claim now) fault
  | .failChainNode chainID nodeID state cause claim =>
    transact db (db.failChainBody chainID nodeID state cause claim now) fault
  | .insertBatch record => transact db (db.insertBatchBody record now) fault
  | .settleBatch batchID jobID isFailure claim =>
    transact db (db.settleBatchBody batchID jobID isFailure claim now) fault

end Statement

/-! ## The registry of ephemeral callbacks -/

/-- Which closures of a chain are retained. -/
structure ChainCallbacks where
  onCatch : Bool := false
  onFinally : Bool := false
  deriving DecidableEq, Repr

/-- Which closures of a batch are retained. -/
structure BatchCallbacks where
  onProgress : Bool := false
  onThen : Bool := false
  onCatch : Bool := false
  onFinally : Bool := false
  deriving DecidableEq, Repr

/-- Process-local closures of the workflows a runtime has dispatched. -/
structure CallbackRegistry where
  chainCallbacks : String -> Option ChainCallbacks
  batchCallbacks : String -> Option BatchCallbacks

/-- Accesses to the registry under its lock. -/
inductive RegistryCall
  | registerChain (chainID : String) (callbacks : ChainCallbacks)
  | prepareChainSuccessCallbacks (chainID : String)
  | finishChainCallback (chainID : String) (kind : CallbackKind)
  | cleanupChainCallbacks (chainID : String)
  | chainCallbacks (chainID : String)
  | registerBatch (batchID : String) (callbacks : BatchCallbacks)
  | prepareBatchTerminalCallbacks (batchID : String) (succeeded hasFailures : Bool)
  | finishBatchCallback (batchID : String) (kind : CallbackKind)
  | cleanupBatchCallbacks (batchID : String)
  | batchCallbacks (batchID : String)

namespace CallbackRegistry

/-- A registry without closures. -/
def empty : CallbackRegistry where
  chainCallbacks := fun _ => none
  batchCallbacks := fun _ => none

/-- Change the closures of a retained chain; an entry is kept while the test
holds. -/
def updateChain (registry : CallbackRegistry) (chainID : String)
    (change : ChainCallbacks -> ChainCallbacks)
    (keep : ChainCallbacks -> Bool) : CallbackRegistry :=
  match registry.chainCallbacks chainID with
  | none => registry
  | some callbacks =>
    { registry with
      chainCallbacks := Function.update registry.chainCallbacks chainID
        (if keep (change callbacks) then some (change callbacks) else none) }

/-- Change the closures of a retained batch; an entry is kept while the test
holds. -/
def updateBatch (registry : CallbackRegistry) (batchID : String)
    (change : BatchCallbacks -> BatchCallbacks)
    (keep : BatchCallbacks -> Bool) : CallbackRegistry :=
  match registry.batchCallbacks batchID with
  | none => registry
  | some callbacks =>
    { registry with
      batchCallbacks := Function.update registry.batchCallbacks batchID
        (if keep (change callbacks) then some (change callbacks) else none) }

end CallbackRegistry

/-- Some closure of the chain remains. -/
def ChainCallbacks.any (callbacks : ChainCallbacks) : Bool :=
  callbacks.onCatch || callbacks.onFinally

/-- Some closure of the batch remains. -/
def BatchCallbacks.any (callbacks : BatchCallbacks) : Bool :=
  callbacks.onProgress || callbacks.onThen || callbacks.onCatch || callbacks.onFinally

namespace RegistryCall

/-- What each access returns. -/
def Answer : RegistryCall -> Type
  | .chainCallbacks _ => ChainCallbacks
  | .batchCallbacks _ => BatchCallbacks
  | _ => Unit

/-- Run an access. -/
def run (registry : CallbackRegistry) : (call : RegistryCall) -> call.Answer × CallbackRegistry
  | .registerChain chainID callbacks =>
    ((),
      { registry with
        chainCallbacks := Function.update registry.chainCallbacks chainID (some callbacks) })
  | .prepareChainSuccessCallbacks chainID =>
    ((), registry.updateChain chainID (fun callbacks => { callbacks with onCatch := false })
      fun _ => true)
  | .finishChainCallback chainID kind =>
    ((), registry.updateChain chainID (fun callbacks =>
        match kind with
        | .chainCatch => { callbacks with onCatch := false }
        | .chainFinally => { callbacks with onFinally := false }
        | _ => callbacks)
      ChainCallbacks.any)
  | .cleanupChainCallbacks chainID => ((), registry.updateChain chainID id ChainCallbacks.any)
  | .chainCallbacks chainID => ((registry.chainCallbacks chainID).getD {}, registry)
  | .registerBatch batchID callbacks =>
    ((),
      { registry with
        batchCallbacks := Function.update registry.batchCallbacks batchID (some callbacks) })
  | .prepareBatchTerminalCallbacks batchID succeeded hasFailures =>
    ((), registry.updateBatch batchID (fun callbacks =>
        { callbacks with
          onProgress := false
          onCatch := callbacks.onCatch && !(succeeded && !hasFailures)
          onThen := callbacks.onThen && succeeded })
      BatchCallbacks.any)
  | .finishBatchCallback batchID kind =>
    ((), registry.updateBatch batchID (fun callbacks =>
        match kind with
        | .batchThen => { callbacks with onThen := false }
        | .batchCatch => { callbacks with onCatch := false }
        | .batchFinally => { callbacks with onFinally := false }
        | _ => callbacks)
      BatchCallbacks.any)
  | .cleanupBatchCallbacks batchID => ((), registry.updateBatch batchID id BatchCallbacks.any)
  | .batchCallbacks batchID => ((registry.batchCallbacks batchID).getD {}, registry)

end RegistryCall

/-! ## Operations -/

/-- What an engine program can ask for. -/
inductive Op
  /-- A random identifier with a given leading part. -/
  | newID (kind : String)
  | now
  /-- Report a fact, now or once the delivery is settled. -/
  | emit (event : Event) (deferred : Bool)
  | lookupHandler (jobType : String)
  /-- Run the application handler inside the middleware. -/
  | handle (env : Envelope)
  /-- Run an ephemeral closure. -/
  | runCallback (kind : CallbackKind) (workflowID : String) (cause : Option GoError)
  | runProgress (state : BatchState)
  | registry (call : RegistryCall)
  /-- Enqueue a message on the transport. -/
  | busDispatch (kind : DeliveryType) (env : Envelope)
  | markDeliveryApplicationStateCommitted
  /-- The first error of an inline continuation, for the dispatch that waits. -/
  | recordSynchronousChainError (error : GoError)
  | synchronousChainError
  | memory (call : MemoryCall)
  | sql (statement : Statement)

/-- Answers to operations. -/
def Op.Answer : Op -> Type
  | .newID _ => String
  | .now => Time
  | .emit _ _ => Unit
  | .lookupHandler _ => Bool
  | .handle _ => Option GoError
  | .runCallback _ _ _ => Option GoError
  | .runProgress _ => Unit
  | .registry call => call.Answer
  | .busDispatch _ _ => Option GoError
  | .markDeliveryApplicationStateCommitted => Unit
  | .recordSynchronousChainError _ => Unit
  | .synchronousChainError => Option GoError
  | .memory call => call.Answer
  | .sql statement => statement.Answer

/-- A program of the engine. -/
abbrev Engine (ρ : Type) : Type := Prog Op Op.Answer ρ

/-- Ask for one operation. -/
abbrev ask (operation : Op) : Engine operation.Answer :=
  Prog.perform operation

end JobQueue.Workflow
