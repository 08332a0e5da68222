import JobQueue.Interleaving.Prog
import JobQueue.Workflow.Batch

/-!
# What shared programs ask for

Many proofs confine a program to one class of operations: reads of a call,
operations without effect on a workflow, operations of the store. The parts
that the programs share are followed once, for any class that has what they ask
for.
-/

namespace JobQueue.Workflow

open Interleaving

/-! ## Any class of operations -/

section Listed

variable {listed : Op -> Prop}

/-- Asking for one operation of the class. -/
theorem uses_ask (asked : listed operation) : Uses listed (ask operation) :=
  ⟨asked, fun _ => trivial⟩

theorem uses_storedJobOutcomeFactID (newID : listed (.newID "evt")) :
    Uses listed (storedJobOutcomeFactID kind outcome) := by
  unfold storedJobOutcomeFactID
  split
  · exact Uses.bind (uses_ask newID) fun _ => trivial
  · exact trivial

/-- The recovery of a failure only reads the chain and the receipt. -/
theorem uses_recoverCommittedChainFailure {r : Runtime}
    (chain : Uses listed (r.store.getChain env.chainID))
    (receipt : ∀ receipts, r.store.transitionReceiptStore = some receipts ->
      Uses listed (receipts.chainTransitionReceipt env.chainID env.nodeID)) :
    Uses listed (recoverCommittedChainFailure r context env) := by
  unfold recoverCommittedChainFailure
  split
  · exact trivial
  refine Uses.bind chain fun answer => ?_
  split
  · exact trivial
  split
  · exact trivial
  split
  · exact trivial
  split
  · exact trivial
  split
  · exact trivial
  split
  · exact trivial
  split
  · exact trivial
  split
  · exact trivial
  split
  · exact trivial
  rename_i receipts capable
  refine Uses.bind (receipt receipts capable) fun answer => ?_
  split
  · exact trivial
  · exact trivial
  · split <;> exact trivial

namespace SqlStore

theorem uses_getChain (chain : listed (.sql (.selectChain chainID))) :
    Uses listed (getChain chainID) := by
  refine Uses.bind (uses_ask chain) ?_
  rintro (_ | _ | _) <;> exact trivial

theorem uses_getBatch (batch : listed (.sql (.selectBatch batchID))) :
    Uses listed (getBatch batchID) := by
  refine Uses.bind (uses_ask batch) ?_
  rintro (_ | _ | _) <;> exact trivial

theorem uses_markBatchJobStarted (start : listed (.sql (.startMember batchID jobID)))
    (member : listed (.sql (.selectMember batchID jobID))) :
    Uses listed (markBatchJobStarted batchID jobID) := by
  refine Uses.bind (uses_ask start) ?_
  rintro (_ | _ | _)
  · exact trivial
  · refine Uses.bind (uses_ask member) ?_
    rintro (_ | _ | _) <;> exact trivial
  · exact trivial

theorem uses_getTransitionReceipt
    (row : listed (.sql (.selectReceipt ⟨kind, workflowID, memberID⟩))) :
    Uses listed (getTransitionReceipt queryer kind workflowID memberID) := by
  refine Uses.bind (uses_ask row) ?_
  rintro (_ | _ | receipt)
  · exact trivial
  · exact trivial
  · dsimp only
    split <;> exact trivial

theorem uses_chainTransitionReceipt (chain : listed (.sql (.selectChain chainID)))
    (row : listed (.sql (.selectReceipt ⟨.chain, chainID, nodeID⟩))) :
    Uses listed (chainTransitionReceipt chainID nodeID) := by
  refine Uses.bind (uses_getChain chain) ?_
  rintro (_ | state)
  · exact trivial
  refine Uses.bind (uses_getTransitionReceipt row) ?_
  rintro (_ | _ | receipt)
  · exact trivial
  · exact trivial
  · dsimp only
    split <;> exact trivial

theorem uses_validateBatchAggregateReceiptOwner
    (outcomes : listed (.sql (.selectMemberOutcomes aggregate))) :
    Uses listed (validateBatchAggregateReceiptOwner queryer aggregate) := by
  refine Uses.bind (uses_ask outcomes) fun answer => ?_
  split
  · exact trivial
  · split <;> exact trivial
  · exact trivial

theorem uses_batchTransitionReceipt (batch : listed (.sql (.selectBatch batchID)))
    (row : ∀ key, listed (.sql (.selectReceipt key)))
    (outcomes : ∀ aggregate, listed (.sql (.selectMemberOutcomes aggregate))) :
    Uses listed (batchTransitionReceipt batchID jobID) := by
  have merged : Uses listed (getBatchTransitionReceipt queryer batchID jobID) := by
    refine Uses.bind (uses_getTransitionReceipt (row _)) ?_
    rintro (_ | memberReceipt)
    · exact trivial
    refine Uses.bind (uses_getTransitionReceipt (row _)) ?_
    rintro (_ | _ | aggregate)
    · exact trivial
    · exact trivial
    dsimp only
    split
    · exact trivial
    split
    · exact trivial
    refine Uses.bind (uses_validateBatchAggregateReceiptOwner (outcomes aggregate)) ?_
    rintro (_ | _)
    · cases memberReceipt <;> exact trivial
    · exact trivial
  refine Uses.bind (uses_getBatch batch) ?_
  rintro (_ | state)
  · exact trivial
  refine Uses.bind merged ?_
  rintro (_ | _ | receipt)
  · exact trivial
  · exact trivial
  · dsimp only
    split <;> exact trivial

end SqlStore

end Listed

/-! ## Programs on the side -/

/-- Operations that neither ask the store nor start a handler nor report a fact
nor enqueue a job. -/
def Op.aside : Op -> Bool
  | .newID _ => true
  | .now => true
  | .registry _ => true
  | .busDispatch .callback _ => true
  | .runProgress _ => true
  | .markDeliveryApplicationStateCommitted => true
  | _ => false

/-- The program asks only for such operations. -/
abbrev Aside {ρ : Type} (program : Engine ρ) : Prop :=
  Uses (fun operation : Op => operation.aside = true) program

theorem aside_callbackEnvelope (kind : CallbackKind) :
    Aside (callbackEnvelope base kind error) := by
  have configured : Aside (callbackConfigured base kind) := by
    cases kind <;> first
      | exact trivial
      | exact Uses.bind (uses_ask rfl) fun _ => trivial
  refine Uses.bind configured ?_
  rintro (_ | _)
  · exact trivial
  · exact Uses.bind (uses_ask rfl) fun _ => trivial

theorem aside_dispatchCallback : Aside (dispatchCallback base kind error) := by
  refine Uses.bind (aside_callbackEnvelope kind) ?_
  rintro (_ | _)
  · exact trivial
  · exact uses_ask rfl

theorem aside_markDeliveryTransitionCommitted :
    Aside (markDeliveryTransitionCommitted claimedNow receiptKnown) := by
  unfold markDeliveryTransitionCommitted
  cases claimedNow && receiptKnown
  · exact trivial
  · exact uses_ask rfl

theorem aside_dispatchBatchTerminalCallbacks (state : BatchState) :
    Aside (dispatchBatchTerminalCallbacks env state) := by
  refine Uses.bind (uses_ask rfl) fun _ => ?_
  have rest : Aside (do
      let _ ← dispatchCallback env .batchFinally none
      ask (.registry (.cleanupBatchCallbacks env.batchID))) :=
    Uses.bind aside_dispatchCallback fun _ => uses_ask rfl
  by_cases succeeded : (state.completed && !state.cancelled) = true
  · simp only [succeeded]
    exact Uses.bind aside_dispatchCallback fun _ => rest
  · simp only [succeeded]
    exact rest

theorem aside_invokeBatchProgress (state : BatchState) :
    Aside (invokeBatchProgress state progress) := by
  cases progress
  · exact trivial
  · exact uses_ask rfl

end JobQueue.Workflow
