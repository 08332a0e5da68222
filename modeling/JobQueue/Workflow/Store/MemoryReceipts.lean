import JobQueue.Workflow.Store.BatchRuns
import JobQueue.Workflow.Store.ChainRuns

/-!
# Receipts of the memory store

A run interleaves calls on chains and on batches. One call drops a receipt
only with its workflow, keeps it, or records it together with the transition it
is about. Hence every stored receipt agrees with the workflow it belongs to,
and none changes while its workflow is neither re-created nor removed.
-/

namespace JobQueue.Workflow

/-- A mutating call of the memory store. -/
inductive StoreCall
  | chain (call : ChainCall)
  | batch (call : BatchCall)

namespace StoreCall

/-- The store a call leaves behind. -/
def apply (store : MemoryStore) : StoreCall -> MemoryStore
  | .chain call => call.apply store
  | .batch call => call.apply store

/-- Only unfinished batches are cancelled explicitly. -/
def Allowed (store : MemoryStore) : StoreCall -> Prop
  | .batch (.cancelBatch batchID _) =>
    ((store.batch batchID).any fun batch => batch.state.completed) = false
  | _ => True

instance (store : MemoryStore) (call : StoreCall) : Decidable (call.Allowed store) := by
  unfold Allowed
  split <;> infer_instance

/-- The call installs a fresh workflow under an identifier. -/
def creates (kind : WorkflowKind) (workflowID : String) : StoreCall -> Prop
  | .chain call => kind = .chain ∧ call.creates workflowID
  | .batch call => kind = .batch ∧ call.creates workflowID

instance (kind : WorkflowKind) (workflowID : String) (call : StoreCall) :
    Decidable (call.creates kind workflowID) := by
  cases call <;> unfold creates <;> infer_instance

end StoreCall

namespace MemoryStore

/-- The workflow is stored. -/
def holds (store : MemoryStore) (kind : WorkflowKind) (workflowID : String) : Bool :=
  match kind with
  | .chain => (store.chains workflowID).isSome
  | .batch => (store.batch workflowID).isSome

/-- The store after a list of calls. -/
def runCalls (store : MemoryStore) (calls : List StoreCall) : MemoryStore :=
  Replay.run StoreCall.apply store calls

/-- Every call of the list is allowed where it is made. -/
def Permitted (store : MemoryStore) (calls : List StoreCall) : Prop :=
  Replay.History StoreCall.apply (fun state call => call.Allowed state) store calls

instance (store : MemoryStore) (calls : List StoreCall) : Decidable (Permitted store calls) :=
  Replay.decidableHistory _ _ store calls

/-- The calls are allowed, and none re-creates or removes the workflow. -/
def Retains (kind : WorkflowKind) (workflowID : String) (store : MemoryStore)
    (calls : List StoreCall) : Prop :=
  Replay.History StoreCall.apply
    (fun state call => call.Allowed state ∧ ¬call.creates kind workflowID ∧
      (call.apply state).holds kind workflowID = true)
    store calls

instance (kind : WorkflowKind) (workflowID : String) (store : MemoryStore)
    (calls : List StoreCall) :
    Decidable (Retains kind workflowID store calls) :=
  Replay.decidableHistory _ _ store calls

/-- No call re-creates or removes the workflow. -/
def Keeps (kind : WorkflowKind) (workflowID : String) (store : MemoryStore)
    (calls : List StoreCall) : Prop :=
  Replay.History StoreCall.apply
    (fun state call => ¬call.creates kind workflowID ∧
      (call.apply state).holds kind workflowID = true)
    store calls

instance (kind : WorkflowKind) (workflowID : String) (store : MemoryStore)
    (calls : List StoreCall) :
    Decidable (Keeps kind workflowID store calls) :=
  Replay.decidableHistory _ _ store calls

theorem keeps_of_retains {store : MemoryStore} (retains : store.Retains kind workflowID calls) :
    store.Keeps kind workflowID calls := by
  induction calls generalizing store with
  | nil => exact trivial
  | cons call calls ih => exact ⟨retains.1.2, ih retains.2⟩

end MemoryStore

/-! ## What receipts say -/

/-- The receipt belongs to a member of this incarnation of a workflow, and its
owner claimed it for the same dispatch. -/
structure ReceiptFor (kind : WorkflowKind) (workflow member dispatch : String)
    (created : Time) (receipt : TransitionReceipt) : Prop where
  workflowKind : receipt.workflowKind = kind
  workflowID : receipt.workflowID = workflow
  memberID : receipt.memberID = member
  workflowDispatchID : receipt.workflowDispatchID = dispatch
  workflowCreatedAt : receipt.workflowCreatedAt = created
  supported : receipt.supported = true
  owner : receipt.owner.valid = true
  dispatchID : dispatchMismatch dispatch receipt.owner.dispatchID = false

/-- The transition of a chain that a receipt is about. -/
inductive NodeOutcome (state : ChainState) (index : Nat) (receipt : TransitionReceipt) : Prop
  | success (outcome : receipt.outcome = .succeeded) (passed : (index : Int) < state.nextIndex)
      (completed : receipt.aggregateCompleted = decide (index + 1 = state.nodes.length))
  | failure (outcome : receipt.outcome = .failed) (current : (index : Int) = state.nextIndex)
      (failed : state.failed = true) (incomplete : receipt.aggregateCompleted = false)

/-- A receipt of a chain node agrees with the chain. -/
structure NodeReceipt (state : ChainState) (chainID nodeID : String)
    (receipt : TransitionReceipt) : Prop where
  belongs : ReceiptFor .chain chainID nodeID state.dispatchID state.createdAt receipt
  uncancelled : receipt.aggregateCancelled = false
  transition : ∃ index, chainNodePosition state.nodes nodeID = some index ∧
    NodeOutcome state index receipt

/-- A receipt of a batch member agrees with the batch, up to a cancellation
after its end. -/
structure JobReceipt (batch : MemoryBatch) (batchID jobID : String)
    (receipt : TransitionReceipt) : Prop where
  belongs : ReceiptFor .batch batchID jobID batch.state.dispatchID batch.state.createdAt receipt
  outcome : receipt.outcome.supported
  settled : ∃ status, KeyedList.find jobID batch.jobs = some status ∧ status.done = true
  cancellation : receipt.aggregateCancelled = true ->
    receipt.aggregateCompleted = true ∧ receipt.outcome = .failed
  completed : receipt.aggregateCompleted = true -> batch.state.completed = true

theorem receiptFor_claimedReceipt (valid : claim.valid = true)
    (matching : dispatchMismatch workflowDispatchID claim.dispatchID = false) :
    ReceiptFor kind workflowID memberID workflowDispatchID workflowCreatedAt
      (claimedReceipt kind workflowID workflowDispatchID
        workflowCreatedAt memberID outcome claim aggregateCompleted
        aggregateCancelled now) :=
  ⟨rfl, rfl, rfl, rfl, rfl, rfl, valid, matching⟩

/-! ## Receipts along the steps of a workflow -/

/-- The receipt of a node agrees with the chain after every step. -/
theorem NodeReceipt.step {transition : Option ChainTransition}
    (agrees : NodeReceipt chain.state chainID nodeID receipt)
    (step : ChainStep chain transition after) :
    NodeReceipt after.state chainID nodeID receipt := by
  obtain ⟨belongs, uncancelled, index, position, outcome⟩ := agrees
  have running : chain.state.terminal = false -> receipt.outcome = .succeeded ∧
      (index : Int) < chain.state.nextIndex ∧
      receipt.aggregateCompleted = decide (index + 1 = chain.state.nodes.length) := by
    intro unfinished
    cases outcome with
    | success outcome passed completed => exact ⟨outcome, passed, completed⟩
    | failure outcome current failed => simp [ChainState.terminal, failed] at unfinished
  cases step with
  | kept => exact ⟨belongs, uncancelled, index, position, outcome⟩
  | succeeded other now current =>
    obtain ⟨outcome, passed, completed⟩ := running current.1
    refine ⟨belongs, uncancelled, index, position, .success outcome ?_ completed⟩
    simp only [ChainState.advance]
    omega
  | failed other cause now current =>
    obtain ⟨outcome, passed, completed⟩ := running current.1
    exact ⟨belongs, uncancelled, index, position, .success outcome passed completed⟩
  | abandoned cause now unfinished =>
    obtain ⟨outcome, passed, completed⟩ := running unfinished
    exact ⟨belongs, uncancelled, index, position, .success outcome passed completed⟩

/-- A node with a receipt is not the one its chain waits for. -/
theorem NodeReceipt.not_isCurrent (agrees : NodeReceipt state chainID nodeID receipt) :
    ¬state.IsCurrent nodeID := by
  rintro ⟨unfinished, other, found, here⟩
  obtain ⟨_, _, index, position, outcome⟩ := agrees
  cases Option.some.inj (position.symm.trans found)
  cases outcome with
  | success _ passed _ => omega
  | failure _ _ failed _ => simp [ChainState.terminal, failed] at unfinished

/-- A batch that ended without cancellation has no unsettled member. -/
theorem MemoryBatch.Consistent.cancelled_of_unsettled
    {batch : MemoryBatch} (consistent : batch.Consistent cancelRan)
    (completed : batch.state.completed = true)
    (found : KeyedList.find jobID batch.jobs = some status)
    (unsettled : status.done = false) : batch.state.cancelled = true := by
  rcases consistent.completed_iff.mp completed with exhausted | cancelled
  · have none : batch.jobs.countP (fun entry => !entry.2.done) = 0 := by
      have counted := consistent.pending_eq
      omega
    have settled := List.countP_eq_zero.mp none _ (KeyedList.mem_of_find_eq_some found)
    simp [unsettled] at settled
  · exact cancelled

/-- The receipt of a member stands after every step of the batch. -/
theorem JobReceipt.step (stands : JobReceipt batch batchID jobID receipt)
    (step : BatchStep batch effect after) :
    JobReceipt after batchID jobID receipt := by
  obtain ⟨belongs, outcome, ⟨status, found, done⟩, cancellation, completed⟩ := stands
  cases step with
  | kept | refreshed => exact ⟨belongs, outcome, ⟨status, found, done⟩, cancellation, completed⟩
  | started other begun now present =>
    refine ⟨belongs, outcome, ?_, cancellation, completed⟩
    by_cases same : jobID = other
    · subst same
      rw [found, Option.some_inj] at present
      subst present
      exact ⟨_, KeyedList.find_replace_self found, done⟩
    · exact ⟨status, (KeyedList.find_replace_of_ne same).trans found, done⟩
  | settled other waiting made now supported present unsettled =>
    have different : jobID ≠ other := by
      rintro rfl
      rw [found, Option.some_inj] at present
      rw [present, unsettled] at done
      cases done
    refine ⟨belongs, outcome, ⟨status, (KeyedList.find_replace_of_ne different).trans found, done⟩,
      cancellation, ?_⟩
    intro owned
    simp [MemoryStore.settledMember, MemoryStore.settledState, completed owned]
  | cancelled now => exact ⟨belongs, outcome, ⟨status, found, done⟩, cancellation, fun _ => rfl⟩

/-- Only cancelling it after its end changes whether a finished batch is
cancelled. -/
theorem MemoryBatch.Consistent.cancelled_step {batch : MemoryBatch}
    (consistent : batch.Consistent cancelRan) (step : BatchStep batch effect after)
    (unfinished : effect = .cancelled -> batch.state.completed = false)
    (completed : batch.state.completed = true) :
    after.state.cancelled = batch.state.cancelled := by
  cases step with
  | kept | refreshed | started => rfl
  | settled other waiting made now supported present unsettled =>
    have cancelled := consistent.cancelled_of_unsettled completed present unsettled
    simp [MemoryStore.settledMember, MemoryStore.settledState, cancelled]
  | cancelled now =>
    rw [unfinished rfl] at completed
    cases completed

/-! ## What one call does -/

namespace MemoryStore

/-- The receipt of the node that just succeeded agrees with the chain. -/
theorem nodeReceipt_advance {chain : MemoryChain} (sound : chain.Sound)
    (current : chain.state.IsCurrent nodeID) (valid : claim.valid = true)
    (matching : dispatchMismatch chain.state.dispatchID claim.dispatchID = false) :
    NodeReceipt (chain.state.advance now) chainID nodeID
      (claimedReceipt .chain chainID chain.state.dispatchID
        chain.state.createdAt nodeID .succeeded claim
        (chain.state.advance now).completed false now) := by
  obtain ⟨unfinished, index, position, here⟩ := current
  simp only [ChainState.terminal, Bool.or_eq_false_iff] at unfinished
  have inRange := sound.ordered.nextIndex_lt unfinished.1
  refine ⟨receiptFor_claimedReceipt valid matching, rfl, index, position, .success rfl ?_ ?_⟩
  · simp only [ChainState.advance]
    omega
  · simp only [claimedReceipt, ChainState.advance, unfinished.1, Bool.false_or, decide_eq_decide]
    omega

/-- The receipt of the member that just settled agrees with the batch. -/
theorem jobReceipt_settled {batch : MemoryBatch} (consistent : batch.Consistent cancelRan)
    (supported : outcome.supported) (found : KeyedList.find jobID batch.jobs = some status)
    (valid : claim.valid = true)
    (matching : dispatchMismatch batch.state.dispatchID claim.dispatchID = false)
    (settles : after = settledMember batch jobID status (decide (outcome = .failed)) now) :
    JobReceipt after batchID jobID (claimedReceipt .batch batchID batch.state.dispatchID
        batch.state.createdAt jobID outcome claim
        (crossesTerminal batch.state after.state)
        (crossesTerminal batch.state after.state && after.state.cancelled)
        now) := by
  subst settles
  refine ⟨receiptFor_claimedReceipt valid matching, supported,
    ⟨_, KeyedList.find_replace_self found, rfl⟩, ?_, ?_⟩
  · intro cancelled
    simp only [claimedReceipt, Bool.and_eq_true] at cancelled
    refine ⟨cancelled.1, ?_⟩
    have unfinished : batch.state.completed = false := by
      have crosses := cancelled.1
      simp only [crossesTerminal, Bool.and_eq_true, Bool.not_eq_true'] at crosses
      exact crosses.1
    have live : batch.state.cancelled = false := by
      cases flagged : batch.state.cancelled with
      | false => rfl
      | true =>
        have ended := consistent.completed_iff.mpr (.inr flagged)
        rw [unfinished] at ended
        cases ended
    have flagged := cancelled.2
    simp only [settledMember, settledState, live] at flagged
    by_contra different
    simp [claimedReceipt] at different
    simp [different] at flagged
  · intro crosses
    simp only [claimedReceipt, crossesTerminal, Bool.and_eq_true] at crosses
    exact crosses.2

end MemoryStore

/-- The call installs no workflow. -/
def StoreCall.Plain (call : StoreCall) : Prop :=
  ∀ kind workflowID, ¬call.creates kind workflowID

/-- Everything a call can do to a store of well-formed chains. -/
inductive StoreChange (store : MemoryStore) (call : StoreCall) : MemoryStore -> Prop
  | kept (plain : call.Plain) : StoreChange store call store
  | pruned (before : Time) (plain : call.Plain) : StoreChange store call (store.prune before)
  | chainCreated (record : ChainRecord) (now : Time) (valid : validateChainRecord record = none)
      (same : call = .chain (.createChain record now)) :
      StoreChange store call (store.createChain record now).2
  | batchCreated (record : BatchRecord) (now : Time) (valid : validateBatchRecord record = none)
      (same : call = .batch (.createBatch record now)) :
      StoreChange store call (store.createBatch record now).2
  | chainDiscarded (chainID : String) (plain : call.Plain) :
      StoreChange store call (store.discardChain chainID)
  | batchDiscarded (batchID : String) (plain : call.Plain) :
      StoreChange store call (store.discardBatch batchID)
  | chainStepped {chainID : String} {chain next : MemoryChain}
      {transition : Option ChainTransition} (plain : call.Plain)
      (stored : store.chains chainID = some chain)
      (step : ChainStep chain transition next) :
      StoreChange store call (store.setChain chainID next)
  | batchStepped {batchID : String} {batch next : MemoryBatch}
      {effect : BatchEffect} (plain : call.Plain)
      (stored : store.batch batchID = some batch)
      (step : BatchStep batch effect next)
      (allowed : call.Allowed store -> effect = .cancelled -> batch.state.completed = false) :
      StoreChange store call (store.setBatch batchID next)
  | nodeClaimed {chainID nodeID : String} {chain next : MemoryChain}
      {transition : Option ChainTransition} {outcome : BatchJobOutcome}
      {claim : TransitionClaim} {completed : Bool} {now : Time}
      (plain : call.Plain)
      (stored : store.chains chainID = some chain)
      (current : chain.state.IsCurrent nodeID)
      (step : ChainStep chain transition next)
      (agrees : claim.valid = true -> NodeReceipt next.state chainID nodeID
        (claimedReceipt .chain chainID chain.state.dispatchID
          chain.state.createdAt nodeID outcome claim completed false now)) :
      StoreChange store call
        ((store.setChain chainID next).recordTransitionReceipt .chain chainID
          chain.state.dispatchID chain.state.createdAt nodeID outcome claim
          completed false now).2
  | memberClaimed {batchID jobID : String} {batch : MemoryBatch}
      {status : BatchJobStatus} {outcome : BatchJobOutcome}
      {claim : TransitionClaim} {now : Time} (plain : call.Plain)
      (stored : store.batch batchID = some batch)
      (supported : outcome.supported)
      (found : KeyedList.find jobID batch.jobs = some status)
      (unsettled : status.done = false)
      (matching : dispatchMismatch batch.state.dispatchID claim.dispatchID = false) :
      StoreChange store call (store.claimSettlement batch batchID jobID status outcome claim now).2

variable {store : MemoryStore}

theorem ChainCall.change (sound : store.ChainsSound) (call : ChainCall) :
    StoreChange store (.chain call) (call.apply store) := by
  cases call with
  | createChain record now =>
    cases checked : validateChainRecord record with
    | some error =>
      rw [apply, MemoryStore.createChain_of_error store checked]
      refine .kept fun kind chainID created => ?_
      rw [created.2.2] at checked
      cases checked
    | none => exact .chainCreated record now checked rfl
  | advanceChainOutcome chainID nodeID claim now =>
    have plain : (StoreCall.chain
      (.advanceChainOutcome chainID nodeID claim now)).Plain := fun _ _ => And.right
    rw [apply]
    cases stored : store.chains chainID with
    | none =>
      rw [MemoryStore.advanceChainOutcome, stored]
      exact .kept plain
    | some chain =>
      have answer := MemoryStore.advanceChainOutcome_cases stored
        (sound chainID chain stored).ordered nodeID claim now
      generalize store.advanceChainOutcome chainID nodeID claim now = result at answer ⊢
      cases answer with
      | refused | foreign | replayed => exact .kept plain
      | claimed current matching =>
        exact .nodeClaimed plain stored current (.succeeded nodeID now current) fun valid =>
          MemoryStore.nodeReceipt_advance (sound chainID chain stored) current valid matching
  | failChainOutcome chainID nodeID cause claim now =>
    have plain : (StoreCall.chain
      (.failChainOutcome chainID nodeID cause claim now)).Plain := fun _ _ => And.right
    rw [apply]
    cases stored : store.chains chainID with
    | none =>
      rw [MemoryStore.failChainOutcome, stored]
      exact .kept plain
    | some chain =>
      have answer := MemoryStore.failChainOutcome_cases stored
        (sound chainID chain stored).ordered nodeID cause claim now
      generalize store.failChainOutcome chainID nodeID cause claim now = result at answer ⊢
      cases answer with
      | refused | foreign | completed | replayed => exact .kept plain
      | claimed current matching =>
        exact .nodeClaimed plain stored current (.failed nodeID cause now current) fun valid => by
            obtain ⟨_, index, position, here⟩ := current
            exact ⟨receiptFor_claimedReceipt valid matching, rfl, index, position,
              .failure rfl here rfl rfl⟩
  | failChain chainID cause now =>
    rw [apply]
    cases stored : store.chains chainID with
    | none =>
      rw [MemoryStore.failChain, stored]
      exact .kept fun _ _ => And.right
    | some chain =>
      rcases MemoryStore.failChain_cases stored cause now with ⟨running, failed⟩ | ⟨_, failed⟩
      · rw [failed]
        exact .chainStepped (fun _ _ => And.right) stored (.abandoned cause now running)
      · rw [failed]
        exact .kept fun _ _ => And.right
  | prune before => exact .pruned before fun _ _ => And.right
  | discardChain chainID => exact .chainDiscarded chainID fun _ _ => And.right

theorem BatchCall.change (call : BatchCall) :
    StoreChange store (.batch call) (call.apply store) := by
  cases call with
  | createBatch record now =>
    cases checked : validateBatchRecord record with
    | some error =>
      rw [apply, MemoryStore.createBatch, checked]
      refine .kept fun kind batchID created => ?_
      rw [created.2.2] at checked
      cases checked
    | none => exact .batchCreated record now checked rfl
  | markBatchJobStarted batchID jobID now =>
    rw [apply, MemoryStore.markBatchJobStarted]
    split
    · exact .kept fun _ _ => And.right
    · rename_i batch stored
      split
      · exact .kept fun _ _ => And.right
      · rename_i status found
        exact .batchStepped (fun _ _ => And.right) stored (.started jobID status now found)
          (by simp)
  | settleBatchOutcome batchID jobID outcome claim now =>
    have plain : (StoreCall.batch
      (.settleBatchOutcome batchID jobID outcome claim now)).Plain := fun _ _ => And.right
    rw [apply]
    cases stored : store.batch batchID with
    | none =>
      rw [MemoryStore.settleBatchOutcome, stored]
      split <;> exact .kept plain
    | some batch =>
      have answer := MemoryStore.settleBatchOutcome_cases stored jobID outcome claim now
      generalize store.settleBatchOutcome batchID jobID outcome claim now = result at answer ⊢
      cases answer with
      | refused | foreign => exact .kept plain
      | replayed => exact .batchStepped plain stored (.refreshed now) (by simp)
      | claimed status supported found unsettled matching =>
        exact .memberClaimed plain stored supported found unsettled matching
  | cancelBatch batchID now =>
    rw [apply, MemoryStore.cancelBatch]
    split
    · exact .kept fun _ _ => And.right
    · rename_i batch stored
      refine .batchStepped (fun _ _ => And.right) stored (.cancelled now) fun allowed _ => ?_
      simpa [StoreCall.Allowed, stored] using allowed
  | prune before => exact .pruned before fun _ _ => And.right
  | discardBatch batchID => exact .batchDiscarded batchID fun _ _ => And.right

/-! ## What one call does to a receipt -/

namespace MemoryStore

/-- Only the recorded member gets a new receipt, and only from a complete
claim. -/
theorem transitionReceipt_recordTransitionReceipt (store : MemoryStore) :
    (store.recordTransitionReceipt other target workflowDispatchID
      workflowCreatedAt member outcome claim aggregateCompleted
      aggregateCancelled now).2.transitionReceipt kind workflowID memberID =
      if claim.valid ∧ kind = other ∧ workflowID = target ∧ memberID = member
      then some (claimedReceipt other target workflowDispatchID
        workflowCreatedAt member outcome claim aggregateCompleted
        aggregateCancelled now)
      else store.transitionReceipt kind workflowID memberID := by
  unfold transitionReceipt recordTransitionReceipt
  by_cases valid : claim.valid = true
  · rw [if_pos valid]
    simp [valid, Function.update_apply, claimedReceipt]
  · rw [if_neg valid, if_neg (fun all => valid all.1)]

theorem holds_setChain (stored : store.chains chainID = some chain) :
    (store.setChain chainID next).holds kind workflowID = store.holds kind workflowID := by
  cases kind with
  | chain =>
    simp only [holds, setChain_chains, Function.update_apply]
    split
    · simp [*]
    · rfl
  | batch => rfl

theorem holds_setBatch {batch : MemoryBatch} (stored : store.batch batchID = some batch) :
    (store.setBatch batchID next).holds kind workflowID = store.holds kind workflowID := by
  cases kind with
  | chain => rfl
  | batch =>
    simp only [holds, setBatch_batch, Function.update_apply]
    split
    · simp [*]
    · rfl

theorem holds_recordTransitionReceipt :
    (store.recordTransitionReceipt other target workflowDispatchID
      workflowCreatedAt member outcome claim aggregateCompleted
      aggregateCancelled now).2.holds kind workflowID =
      store.holds kind workflowID := by
  unfold recordTransitionReceipt
  split <;> rfl

end MemoryStore

/-- What a call can do to the receipt of a member of a workflow. -/
inductive ReceiptStep (store after : MemoryStore) (call : StoreCall) :
    WorkflowKind -> String -> String -> Prop
  | dropped {kind : WorkflowKind} {workflowID memberID : String}
      (gone : after.transitionReceipt kind workflowID memberID = none)
      (disturbed : call.creates kind workflowID ∨ after.holds kind workflowID = false) :
      ReceiptStep store after call kind workflowID memberID
  | kept {kind : WorkflowKind} {workflowID memberID : String}
      (same : after.transitionReceipt kind workflowID memberID =
        store.transitionReceipt kind workflowID memberID)
      (undisturbed : store.holds kind workflowID = true ->
        ¬call.creates kind workflowID ∧ after.holds kind workflowID = true) :
      ReceiptStep store after call kind workflowID memberID
  | node {chainID nodeID : String} {chain next : MemoryChain}
      {receipt : TransitionReceipt}
      (stored : store.chains chainID = some chain)
      (current : chain.state.IsCurrent nodeID)
      (recorded : after.transitionReceipt .chain chainID nodeID = some receipt)
      (stepped : after.chains chainID = some next)
      (agrees : NodeReceipt next.state chainID nodeID receipt) :
      ReceiptStep store after call .chain chainID nodeID
  | member {batchID jobID : String} {batch next : MemoryBatch}
      {status : BatchJobStatus} {receipt : TransitionReceipt}
      (stored : store.batch batchID = some batch)
      (found : KeyedList.find jobID batch.jobs = some status)
      (unsettled : status.done = false)
      (recorded : after.transitionReceipt .batch batchID jobID = some receipt)
      (stepped : after.batch batchID = some next)
      (others : ∀ other, other ≠ jobID ->
        KeyedList.find other next.jobs = KeyedList.find other batch.jobs)
      (crosses : receipt.aggregateCompleted = true ->
        batch.state.completed = false ∧ receipt.aggregateCancelled = next.state.cancelled)
      (agrees : ∀ cancelRan, batch.Consistent cancelRan -> JobReceipt next batchID jobID receipt) :
      ReceiptStep store after call .batch batchID jobID

/-- A receipt deleted exactly when its workflow expires goes with the workflow,
or is kept with it. -/
theorem receiptStep_expired (plain : call.Plain) (expired : Bool)
    (receipt : after.transitionReceipt kind workflowID memberID =
      if expired then none else store.transitionReceipt kind workflowID memberID)
    (holds : after.holds kind workflowID = (store.holds kind workflowID && !expired)) :
    ReceiptStep store after call kind workflowID memberID := by
  cases expired with
  | true => exact .dropped receipt (.inr (holds.trans (Bool.and_false _)))
  | false => exact .kept receipt fun held => ⟨plain _ _, holds.trans (by rw [held]; rfl)⟩

/-- Retention drops a receipt with its workflow, or keeps both. -/
theorem receiptStep_prune (plain : call.Plain) :
    ReceiptStep store (store.prune before) call kind workflowID memberID := by
  cases kind with
  | chain =>
    refine receiptStep_expired plain _ rfl ?_
    cases stored : store.chains workflowID <;> simp [MemoryStore.holds, MemoryStore.prune, stored]
  | batch =>
    refine receiptStep_expired plain _ rfl ?_
    cases stored : store.batch workflowID <;> simp [MemoryStore.holds, MemoryStore.prune, stored]

/-- A workflow that is installed or removed loses its receipts; the others keep
theirs. -/
theorem receiptStep_reset
    (receipts : after.transitionReceipts =
      (store.deleteTransitionReceipts target targetID).transitionReceipts)
    (disturbed : call.creates target targetID ∨ after.holds target targetID = false)
    (others : ∀ kind workflowID, ¬(kind = target ∧ workflowID = targetID) ->
      ¬call.creates kind workflowID ∧ after.holds kind workflowID = store.holds kind workflowID) :
    ReceiptStep store after call kind workflowID memberID := by
  by_cases own : kind = target ∧ workflowID = targetID
  · obtain ⟨rfl, rfl⟩ := own
    refine .dropped ?_ disturbed
    rw [MemoryStore.transitionReceipt, receipts]
    exact if_pos ⟨rfl, rfl⟩
  · obtain ⟨uncreated, same⟩ := others kind workflowID own
    refine .kept ?_ fun held => ⟨uncreated, same.trans held⟩
    rw [MemoryStore.transitionReceipt, receipts]
    exact if_neg own

/-- Every change makes one of the listed steps on a receipt. -/
theorem StoreChange.receiptStep (change : StoreChange store call after) :
    ReceiptStep store after call kind workflowID memberID := by
  cases change with
  | kept plain => exact .kept rfl fun held => ⟨plain _ _, held⟩
  | pruned before plain => exact receiptStep_prune plain
  | chainCreated record now valid same =>
    subst same
    rw [MemoryStore.createChain, valid]
    refine receiptStep_reset rfl (.inl ⟨rfl, rfl, valid⟩) fun kind workflowID other =>
        ⟨fun created => other ⟨created.1, created.2.1.symm⟩, ?_⟩
    cases kind with
    | chain => simp [MemoryStore.holds, show workflowID ≠ record.chainID from
        fun same => other ⟨rfl, same⟩]
    | batch => rfl
  | batchCreated record now valid same =>
    subst same
    rw [MemoryStore.createBatch, valid]
    refine receiptStep_reset rfl (.inl ⟨rfl, rfl, valid⟩) fun kind workflowID other =>
        ⟨fun created => other ⟨created.1, created.2.1.symm⟩, ?_⟩
    cases kind with
    | chain => rfl
    | batch => simp [MemoryStore.holds, show workflowID ≠ record.batchID from
        fun same => other ⟨rfl, same⟩]
  | chainDiscarded chainID plain =>
    refine receiptStep_reset rfl (.inr (by simp [MemoryStore.holds, MemoryStore.discardChain]))
      fun kind workflowID other => ⟨plain _ _, ?_⟩
    cases kind with
    | chain => simp [MemoryStore.holds, MemoryStore.discardChain,
        show workflowID ≠ chainID from fun same => other ⟨rfl, same⟩]
    | batch => rfl
  | batchDiscarded batchID plain =>
    refine receiptStep_reset rfl (.inr (by simp [MemoryStore.holds, MemoryStore.discardBatch]))
      fun kind workflowID other => ⟨plain _ _, ?_⟩
    cases kind with
    | chain => rfl
    | batch => simp [MemoryStore.holds, MemoryStore.discardBatch,
        show workflowID ≠ batchID from fun same => other ⟨rfl, same⟩]
  | chainStepped plain stored step =>
    exact .kept rfl fun held => ⟨plain _ _, (MemoryStore.holds_setChain stored).trans held⟩
  | batchStepped plain stored step allowed =>
    exact .kept rfl fun held => ⟨plain _ _, (MemoryStore.holds_setBatch stored).trans held⟩
  | @nodeClaimed chainID nodeID chain next transition outcome claim completed
      now plain stored current step agrees =>
    by_cases own : claim.valid = true ∧ kind = .chain ∧ workflowID = chainID ∧ memberID = nodeID
    · obtain ⟨valid, rfl, rfl, rfl⟩ := own
      refine .node stored current ?_ ?_ (agrees valid)
      · rw [MemoryStore.transitionReceipt_recordTransitionReceipt, if_pos ⟨valid, rfl, rfl, rfl⟩]
      · simp
    · refine .kept ?_ fun held => ⟨plain _ _, ?_⟩
      · rw [MemoryStore.transitionReceipt_recordTransitionReceipt, if_neg own]
        rfl
      · rw [MemoryStore.holds_recordTransitionReceipt, MemoryStore.holds_setChain stored, held]
  | @memberClaimed batchID jobID batch status outcome claim now plain stored
      supported found unsettled matching =>
    by_cases own : claim.valid = true ∧ kind = .batch ∧ workflowID = batchID ∧ memberID = jobID
    · obtain ⟨valid, rfl, rfl, rfl⟩ := own
      refine .member stored found unsettled ?_ (by
        rw [MemoryStore.claimSettlement_batch, Function.update_self])
        (fun other different => KeyedList.find_replace_of_ne different)
        (fun crosses => ?_) fun cancelRan consistent =>
          MemoryStore.jobReceipt_settled consistent supported found valid matching rfl
      · rw [MemoryStore.claimSettlement, MemoryStore.transitionReceipt_recordTransitionReceipt,
          if_pos ⟨valid, rfl, rfl, rfl⟩]
      · refine ⟨?_, Bool.and_eq_right_iff_imp.mpr fun _ => crosses⟩
        simp only [claimedReceipt, MemoryStore.crossesTerminal,
          Bool.and_eq_true, Bool.not_eq_true'] at crosses
        exact crosses.1
    · refine .kept ?_ fun held => ⟨plain _ _, ?_⟩
      · rw [MemoryStore.claimSettlement,
          MemoryStore.transitionReceipt_recordTransitionReceipt, if_neg own]
        rfl
      · rw [MemoryStore.claimSettlement, MemoryStore.holds_recordTransitionReceipt,
          MemoryStore.holds_setBatch stored, held]

/-- Every call makes one of the listed steps on a receipt. -/
theorem StoreCall.receiptStep (sound : store.ChainsSound) (call : StoreCall) (memberID : String) :
    ReceiptStep store (call.apply store) call kind workflowID memberID := by
  cases call with
  | chain call => exact (call.change sound).receiptStep
  | batch call => exact call.change.receiptStep

/-! ## What one call does to a workflow -/

variable {call : StoreCall}

/-- A chain stored after a call was created by it, or was stored before and made
one of the listed steps. -/
theorem StoreCall.chain_cases (sound : store.ChainsSound)
    (stored : (call.apply store).chains chainID = some next) :
    (call.creates .chain chainID ∧ ∃ record now, record.chainID = chainID ∧
        validateChainRecord record = none ∧
        next = MemoryStore.createdChain record now) ∨
      ∃ chain transition, store.chains chainID = some chain ∧ ChainStep chain transition next := by
  cases call with
  | chain call =>
    rcases call.stored_cases sound stored with ⟨created, made⟩ | ⟨chain, before, step⟩
    · exact .inl ⟨⟨rfl, created⟩, made⟩
    · exact .inr ⟨chain, _, before, step⟩
  | batch call =>
    refine .inr ⟨next, none, ?_, .kept⟩
    cases call with
    | prune before => exact (Option.filter_eq_some_iff.mp stored).1
    | discardBatch batchID => exact stored
    | _ => simpa [apply, BatchCall.apply] using stored

/-- A batch stored after a call was created by it, or was stored before and made
one of the listed steps; an allowed call cancels it only unfinished. -/
theorem StoreCall.batch_cases (stored : (call.apply store).batch batchID = some next) :
    (call.creates .batch batchID ∧ ∃ record now, record.batchID = batchID ∧
        validateBatchRecord record = none ∧
        next = MemoryStore.createdBatch record now) ∨
      ∃ batch effect, store.batch batchID = some batch ∧
        BatchStep batch effect next ∧ (call.Allowed store ->
          effect = .cancelled -> batch.state.completed = false) := by
  cases call with
  | batch call =>
    rcases call.stored_cases stored with ⟨created, made⟩ | ⟨_, batch, before, step⟩
    · exact .inl ⟨⟨rfl, created⟩, made⟩
    refine .inr ⟨batch, _, before, step, fun allowed cancelled => ?_⟩
    have cancels : true = call.cancels batchID :=
      (decide_eq_true cancelled).symm.trans (call.decide_effect batch)
    cases call with
    | cancelBatch target now =>
      cases beq_iff_eq.mp cancels.symm
      simpa [Allowed, before] using allowed
    | _ => cases cancels
  | chain call =>
    refine .inr ⟨next, .touched, ?_, .kept, by simp⟩
    cases call with
    | prune before => exact (Option.filter_eq_some_iff.mp stored).1
    | discardChain chainID => exact stored
    | _ => simpa [apply, ChainCall.apply] using stored

/-! ## Agreement of receipts and workflows -/

/-- Every stored workflow is well formed, and every stored receipt agrees with
the workflow it belongs to. -/
structure MemoryStore.ReceiptsStand (store : MemoryStore) : Prop where
  chains : store.ChainsSound
  chainID : ∀ chainID chain, store.chains chainID = some chain -> chain.state.chainID = chainID
  batches : ∀ batchID batch, store.batch batchID = some batch ->
    batch.state.batchID = batchID ∧ ∃ cancelRan, batch.Consistent cancelRan
  nodes : ∀ chainID nodeID receipt, store.transitionReceipt .chain chainID nodeID = some receipt ->
    ∃ chain, store.chains chainID = some chain ∧ NodeReceipt chain.state chainID nodeID receipt
  members : ∀ batchID jobID receipt, store.transitionReceipt .batch batchID jobID = some receipt ->
    ∃ batch, store.batch batchID = some batch ∧ JobReceipt batch batchID jobID receipt
  single : ∀ batchID first second receipt other,
    store.transitionReceipt .batch batchID first = some receipt ->
    store.transitionReceipt .batch batchID second = some other ->
    receipt.aggregateCompleted = true -> other.aggregateCompleted = true ->
    first = second

/-- A receipt that completed its batch also tells whether the batch is cancelled. -/
structure MemoryStore.ReceiptsAgree (store : MemoryStore) : Prop extends store.ReceiptsStand where
  cancelled : ∀ batchID jobID receipt batch, store.batch batchID = some batch ->
    store.transitionReceipt .batch batchID jobID = some receipt ->
    receipt.aggregateCompleted = true -> receipt.aggregateCancelled = batch.state.cancelled

namespace MemoryStore.ReceiptsStand

variable {chainID : String} (stand : store.ReceiptsStand)
include stand

theorem node (found : store.transitionReceipt .chain chainID nodeID = some receipt)
    (stored : store.chains chainID = some chain) :
    NodeReceipt chain.state chainID nodeID receipt := by
  obtain ⟨other, present, agrees⟩ := stand.nodes _ _ _ found
  rw [stored, Option.some_inj] at present
  exact present ▸ agrees

theorem member (found : store.transitionReceipt .batch batchID jobID = some receipt)
    (stored : store.batch batchID = some held) : JobReceipt held batchID jobID receipt := by
  obtain ⟨other, present, agrees⟩ := stand.members _ _ _ found
  rw [stored, Option.some_inj] at present
  exact present ▸ agrees

theorem chains_apply : (call.apply store).ChainsSound := by
  intro chainID after stored
  rcases call.chain_cases stand.chains stored with
    ⟨_, record, now, _, valid, rfl⟩ | ⟨chain, transition, before, step⟩
  · exact createdChain_sound now valid
  · exact step.sound (stand.chains chainID chain before)

theorem chainID_apply (stored : (call.apply store).chains chainID = some after) :
    after.state.chainID = chainID := by
  rcases call.chain_cases stand.chains stored with
    ⟨_, record, now, named, _, rfl⟩ | ⟨chain, transition, before, step⟩
  · exact named
  · have named := stand.chainID chainID chain before
    cases step <;> exact named

theorem batches_apply (stored : (call.apply store).batch batchID = some after) :
    after.state.batchID = batchID ∧ ∃ cancelRan, after.Consistent cancelRan := by
  rcases call.batch_cases stored with
    ⟨_, record, now, named, valid, rfl⟩ | ⟨batch, effect, before, step, _⟩
  · exact ⟨named, false, createdBatch_consistent valid⟩
  · obtain ⟨named, cancelRan, consistent⟩ := stand.batches batchID batch before
    refine ⟨?_, _, consistent.step step⟩
    cases step <;> exact named

/-- A chain that is kept and not re-created made a step. -/
theorem chain_kept (stored : store.chains chainID = some chain)
    (undisturbed : ¬call.creates .chain chainID ∧ (call.apply store).holds .chain chainID = true) :
    ∃ after transition, (call.apply store).chains chainID = some after ∧
      ChainStep chain transition after := by
  obtain ⟨after, survives⟩ := Option.isSome_iff_exists.mp undisturbed.2
  obtain ⟨before, transition, present, step⟩ :=
    (call.chain_cases stand.chains survives).resolve_left fun created => undisturbed.1 created.1
  rw [stored, Option.some_inj] at present
  exact ⟨after, transition, survives, present ▸ step⟩

theorem nodes_apply
    (found : (call.apply store).transitionReceipt .chain chainID nodeID = some receipt) :
    ∃ chain, (call.apply store).chains chainID = some chain ∧
      NodeReceipt chain.state chainID nodeID receipt := by
  cases call.receiptStep stand.chains nodeID with
  | dropped gone _ =>
    rw [gone] at found
    cases found
  | kept same undisturbed =>
    rw [same] at found
    obtain ⟨chain, stored, agrees⟩ := stand.nodes _ _ _ found
    obtain ⟨after, transition, survives, step⟩ := stand.chain_kept stored
      (undisturbed (by simp [holds, stored]))
    exact ⟨after, survives, agrees.step step⟩
  | node stored current recorded stepped agrees =>
    rw [recorded, Option.some_inj] at found
    exact ⟨_, stepped, found ▸ agrees⟩

/-- The receipt of a member was there before and its batch made a step, or it is
new and agrees with the batch. -/
theorem member_apply
    (found : (call.apply store).transitionReceipt .batch batchID jobID = some receipt) :
    (∃ batch after effect, store.transitionReceipt .batch batchID jobID = some receipt ∧
        store.batch batchID = some batch ∧
        (call.apply store).batch batchID = some after ∧
        BatchStep batch effect after ∧ (call.Allowed store ->
          effect = .cancelled -> batch.state.completed = false)) ∨
      ∃ after, (call.apply store).batch batchID = some after ∧
        JobReceipt after batchID jobID receipt ∧ (receipt.aggregateCompleted = true ->
          receipt.aggregateCancelled = after.state.cancelled) := by
  cases call.receiptStep stand.chains jobID with
  | dropped gone _ =>
    rw [gone] at found
    cases found
  | kept same undisturbed =>
    rw [same] at found
    obtain ⟨batch, stored, _⟩ := stand.members _ _ _ found
    obtain ⟨uncreated, held⟩ := undisturbed (by simp [holds, stored])
    obtain ⟨after, survives⟩ := Option.isSome_iff_exists.mp held
    obtain ⟨before, effect, present, step⟩ :=
      (call.batch_cases survives).resolve_left fun created => uncreated created.1
    exact .inl ⟨before, after, effect, found, present, survives, step⟩
  | member stored _ _ recorded stepped _ crosses agrees =>
    rw [recorded, Option.some_inj] at found
    subst found
    obtain ⟨_, cancelRan, consistent⟩ := stand.batches batchID _ stored
    exact .inr ⟨_, stepped, agrees cancelRan consistent, fun owned => (crosses owned).2⟩

theorem members_apply
    (found : (call.apply store).transitionReceipt .batch batchID jobID = some receipt) :
    ∃ batch, (call.apply store).batch batchID = some batch ∧
      JobReceipt batch batchID jobID receipt := by
  rcases stand.member_apply found with
    ⟨batch, after, effect, earlier, stored, survives, step, _⟩ |
    ⟨after, survives, agrees⟩
  · exact ⟨after, survives, (stand.member earlier stored).step step⟩
  · exact ⟨after, survives, agrees.1⟩

/-- A member whose receipt owns the completion ended the batch, so the call
that recorded it found the batch unfinished. -/
theorem single_apply
    (found : (call.apply store).transitionReceipt .batch batchID first = some receipt)
    (foundOther : (call.apply store).transitionReceipt .batch batchID second = some other)
    (owns : receipt.aggregateCompleted = true)
    (otherOwns : other.aggregateCompleted = true) : first = second := by
  have ended {jobID : String} {earlier : TransitionReceipt} {batch : MemoryBatch}
      (present : store.transitionReceipt .batch batchID jobID = some earlier)
      (owned : earlier.aggregateCompleted = true)
      (stored : store.batch batchID = some batch)
      (unfinished : batch.state.completed = false) : False := by
    rw [(stand.member present stored).completed owned] at unfinished
    cases unfinished
  cases call.receiptStep stand.chains first with
  | dropped gone _ =>
    rw [gone] at found
    cases found
  | kept same _ =>
    rw [same] at found
    cases call.receiptStep stand.chains second with
    | dropped gone _ =>
      rw [gone] at foundOther
      cases foundOther
    | kept sameOther _ =>
      rw [sameOther] at foundOther
      exact stand.single batchID first second receipt other found foundOther owns otherOwns
    | member stored _ _ recorded _ _ crosses =>
      rw [recorded, Option.some_inj] at foundOther
      exact (ended found owns stored (crosses (foundOther ▸ otherOwns)).1).elim
  | member stored present unsettled recorded stepped _ crosses agrees =>
    rw [recorded, Option.some_inj] at found
    subst found
    cases call.receiptStep stand.chains second with
    | dropped gone _ =>
      rw [gone] at foundOther
      cases foundOther
    | kept sameOther _ =>
      rw [sameOther] at foundOther
      exact (ended foundOther otherOwns stored (crosses owns).1).elim
    | member held _ _ _ steppedOther others =>
      -- One call settles one member: elsewhere the list is unchanged.
      rw [stored, Option.some_inj] at held
      subst held
      rw [stepped, Option.some_inj] at steppedOther
      subst steppedOther
      by_contra different
      obtain ⟨_, cancelRan, consistent⟩ := stand.batches batchID _ stored
      obtain ⟨status, settled, done⟩ := (agrees cancelRan consistent).settled
      rw [others first different, present, Option.some_inj] at settled
      rw [← settled, unsettled] at done
      cases done

/-- Every call keeps the receipts standing. -/
theorem apply (call : StoreCall) : (call.apply store).ReceiptsStand where
  chains := stand.chains_apply
  chainID := fun _ _ => stand.chainID_apply
  batches := fun _ _ => stand.batches_apply
  nodes := fun _ _ _ => stand.nodes_apply
  members := fun _ _ _ => stand.members_apply
  single := fun _ _ _ _ _ => stand.single_apply

omit stand in
theorem empty : MemoryStore.empty.ReceiptsStand where
  chains := chainsSound_empty
  chainID := by simp [MemoryStore.empty]
  batches := by simp [MemoryStore.empty]
  nodes := by simp [MemoryStore.empty, transitionReceipt]
  members := by simp [MemoryStore.empty, transitionReceipt]
  single := by simp [MemoryStore.empty, transitionReceipt]

/-- Every run keeps the receipts standing. -/
theorem runCalls (calls : List StoreCall) : (store.runCalls calls).ReceiptsStand :=
  Replay.run_invariant (fun _ call stand => stand.apply call) stand

/-! ## Receipts are immutable -/

/-- A call that keeps the workflow keeps its receipts. -/
theorem transitionReceipt_apply
    (found : store.transitionReceipt kind workflowID memberID = some receipt)
    (uncreated : ¬call.creates kind workflowID)
    (held : (call.apply store).holds kind workflowID = true) :
    (call.apply store).transitionReceipt kind workflowID memberID = some receipt := by
  cases call.receiptStep stand.chains memberID with
  | dropped _ disturbed =>
    rcases disturbed with created | removed
    · exact absurd created uncreated
    · rw [removed] at held
      cases held
  | kept same _ => exact same.trans found
  | node stored current => exact absurd current (stand.node found stored).not_isCurrent
  | member stored present unsettled =>
    obtain ⟨settled, same, done⟩ := (stand.member found stored).settled
    rw [present, Option.some_inj] at same
    rw [← same, unsettled] at done
    cases done

/-- Receipts do not change while their workflow is kept. -/
theorem transitionReceipt_runCalls
    (found : store.transitionReceipt kind workflowID memberID = some receipt)
    (keeps : store.Keeps kind workflowID calls) :
    (store.runCalls calls).transitionReceipt kind workflowID memberID = some receipt := by
  induction calls generalizing store with
  | nil => exact found
  | cons call calls ih =>
    obtain ⟨⟨uncreated, held⟩, rest⟩ := keeps
    exact ih (stand.apply call) (stand.transitionReceipt_apply found uncreated held) rest

/-- The nodes of a chain do not change while it is kept. -/
theorem nodes_runCalls (stored : store.chains chainID = some chain)
    (keeps : store.Keeps .chain chainID calls) :
    ∃ after, (store.runCalls calls).chains chainID = some after ∧
      after.state.nodes = chain.state.nodes := by
  induction calls generalizing store chain with
  | nil => exact ⟨chain, stored, rfl⟩
  | cons call calls ih =>
    obtain ⟨⟨uncreated, held⟩, rest⟩ := keeps
    obtain ⟨next, transition, survives, step⟩ := stand.chain_kept stored ⟨uncreated, held⟩
    obtain ⟨after, found, same⟩ := ih (stand.apply call) survives rest
    refine ⟨after, found, same.trans ?_⟩
    cases step <;> rfl

end MemoryStore.ReceiptsStand

/-! ## Batches that are cancelled only while they run -/

namespace MemoryStore.ReceiptsAgree

theorem cancelled_apply (agree : store.ReceiptsAgree) (allowed : call.Allowed store)
    (stored : (call.apply store).batch batchID = some next)
    (found : (call.apply store).transitionReceipt .batch batchID jobID = some receipt)
    (owned : receipt.aggregateCompleted = true) :
    receipt.aggregateCancelled = next.state.cancelled := by
  rcases agree.member_apply found with
    ⟨batch, after, effect, known, present, survives, step, unfinished⟩ | ⟨after, survives, _, same⟩
  · rw [stored, Option.some_inj] at survives
    subst survives
    obtain ⟨_, cancelRan, consistent⟩ := agree.batches batchID _ present
    rw [consistent.cancelled_step step (unfinished allowed)
      ((agree.member known present).completed owned)]
    exact agree.cancelled _ _ _ _ present known owned
  · rw [stored, Option.some_inj] at survives
    exact survives ▸ same owned

/-- Every allowed call keeps receipts and workflows in agreement. -/
theorem apply (agree : store.ReceiptsAgree) (call : StoreCall) (allowed : call.Allowed store) :
    (call.apply store).ReceiptsAgree where
  toReceiptsStand := agree.toReceiptsStand.apply call
  cancelled := fun _ _ _ _ => agree.cancelled_apply allowed

theorem empty : MemoryStore.empty.ReceiptsAgree where
  toReceiptsStand := .empty
  cancelled := by simp [MemoryStore.empty]

variable {store : MemoryStore}

/-- Every run of allowed calls keeps receipts and workflows in agreement. -/
theorem runCalls (agree : store.ReceiptsAgree) (permitted : store.Permitted calls) :
    (store.runCalls calls).ReceiptsAgree := by
  induction calls generalizing store with
  | nil => exact agree
  | cons call calls ih => exact ih (agree.apply call permitted.1) permitted.2

/-- A run that retains a workflow is allowed. -/
theorem permitted_of_retains (retains : store.Retains kind workflowID calls) :
    store.Permitted calls := by
  induction calls generalizing store with
  | nil => exact trivial
  | cons call calls ih => exact ⟨retains.1.1, ih retains.2⟩

end MemoryStore.ReceiptsAgree

end JobQueue.Workflow
