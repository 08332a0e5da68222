import JobQueue.Interleaving.Log
import JobQueue.Workflow.SqlCalls.Calls

/-!
# What recovery trusts

A recovered delivery acts on what the store presents: the state of its workflow
and the receipt of its transition. Neither is assumed to come from a correct
store. This module states what a receipt has to agree with before it is
believed, and what it means for a delivery to be refused.
-/

namespace JobQueue.Workflow

open Interleaving

/-! ## Receipts -/

/-- The receipt describes this member of this incarnation of a workflow, in a
version that is understood, and its owner executed the job of the envelope. -/
structure ReceiptAgrees (kind : WorkflowKind) (workflowID memberID workflowDispatchID : String)
    (workflowCreatedAt : Time) (env : Envelope) (receipt : TransitionReceipt) : Prop where
  workflowKind : receipt.workflowKind = kind
  workflowID : receipt.workflowID = workflowID
  memberID : receipt.memberID = memberID
  workflowDispatchID : receipt.workflowDispatchID = workflowDispatchID
  workflowCreatedAt : receipt.workflowCreatedAt = workflowCreatedAt
  supported : receipt.supported = true
  owner : receipt.owner.valid = true
  dispatchID : receipt.owner.dispatchID = env.dispatchID
  jobFingerprint : receipt.owner.jobFingerprint = storedJobReceiptFingerprint env.job

/-- The receipt was written by the generation this delivery recovers, in the
attempt and for the job of the envelope. -/
structure ExactOwner (provenance : DeliveryProvenance) (env : Envelope)
    (receipt : TransitionReceipt) : Prop where
  deliveryID : receipt.owner.deliveryID = provenance.recoveredGenerationID
  attempt : receipt.owner.attempt = env.attempt
  jobID : receipt.owner.jobID = env.jobID

theorem exactOwner_of_owns
    (owns : transitionReceiptOwnsRecoveredFacts env receipt provenance = true) :
    ExactOwner provenance env receipt := by
  simp only [transitionReceiptOwnsRecoveredFacts, Bool.and_eq_true, beq_iff_eq] at owns
  exact ⟨owns.1.1.2, owns.1.2, owns.2⟩

/-- A sequence of checks passes when none of them reports. -/
theorem check_eq_none [Decidable reports] :
    (if reports then some error else rest) = none ↔ ¬reports ∧ rest = none := by
  split <;> simp_all

/-- What an accepted receipt guarantees. -/
theorem validateRecoveredTransitionReceipt_eq_none
    (accepted : validateRecoveredTransitionReceipt env receipt requireOwnerJobID = none) :
    receipt.supported = true ∧ receipt.owner.valid = true ∧
      receipt.owner.dispatchID = env.dispatchID ∧
      receipt.owner.jobFingerprint = storedJobReceiptFingerprint env.job ∧
      (requireOwnerJobID = true -> receipt.owner.jobID = env.jobID) := by
  unfold validateRecoveredTransitionReceipt validateTransitionReceiptSupport at accepted
  cases supported : receipt.supported with
  | false => simp [supported] at accepted
  | true =>
    simp only [supported, if_true, check_eq_none, not_not, not_and] at accepted
    exact ⟨rfl, accepted.1, accepted.2.2.2.1, accepted.2.2.2.2.1, accepted.2.2.2.2.2.1⟩

/-- A receipt with a complete owner of the same dispatch and job is
accepted. -/
theorem validateRecoveredTransitionReceipt_of_agrees (supported : receipt.supported = true)
    (owner : receipt.owner.valid = true) (dispatchID : receipt.owner.dispatchID = env.dispatchID)
    (jobFingerprint : receipt.owner.jobFingerprint = storedJobReceiptFingerprint env.job)
    (jobID : receipt.owner.jobID = env.jobID) :
    validateRecoveredTransitionReceipt env receipt requireOwnerJobID = none := by
  have complete := owner
  simp only [TransitionClaim.valid, Bool.and_eq_true, bne_iff_ne, ne_eq] at complete
  rw [dispatchID, jobID] at complete
  simp [validateRecoveredTransitionReceipt, validateTransitionReceiptSupport,
    supported, owner, dispatchID, jobFingerprint, jobID, complete]

/-- The exact owner of an accepted success can report it. -/
theorem recoveredStoredJobSuccess_of_exact
    (accepted : validateRecoveredTransitionReceipt env receipt true = none)
    (succeeded : receipt.outcome = .succeeded)
    (owner : ExactOwner provenance env receipt) (observed : Time) :
    ∃ outcome, recoveredStoredJobSuccess env receipt observed = .ok outcome := by
  simp [recoveredStoredJobSuccess, validateRecoveredTransitionFactIdentity,
    succeeded, accepted, owner.attempt]

theorem Op.nonempty_answer (operation : Op) : Nonempty operation.Answer := by
  cases operation with
  | newID | now | emit | lookupHandler | handle | runCallback | runProgress
  | busDispatch | markDeliveryApplicationStateCommitted
  | recordSynchronousChainError | synchronousChainError =>
    first
    | exact ⟨()⟩
    | exact ⟨("" : String)⟩
    | exact ⟨(0 : Time)⟩
    | exact ⟨true⟩
    | exact ⟨(none : Option GoError)⟩
  | registry call =>
    cases call <;> first
      | exact ⟨()⟩
      | exact ⟨({} : ChainCallbacks)⟩
      | exact ⟨({} : BatchCallbacks)⟩
  | memory call =>
    cases call <;> first
      | exact ⟨(none : Option GoError)⟩
      | exact ⟨Except.error GoError.notFound⟩
      | exact ⟨true⟩
  | sql statement =>
    cases statement <;> first
      | exact ⟨Except.error GoError.notFound⟩
      | exact ⟨TxAnswer.failed GoError.notFound⟩

/-! ## Stores -/

/-- Operations of a workflow store. -/
def Op.stored : Op -> Bool
  | .memory _ => true
  | .sql _ => true
  | _ => false

/-- The program only asks the store. -/
abbrev Stored {ρ : Type} (program : Engine ρ) : Prop :=
  Uses (fun operation : Op => operation.stored = true) program

/-- The methods a delivery calls only ask the store: they start no handler,
report nothing and enqueue nothing themselves. -/
structure Store.Passive (store : Store) : Prop where
  getChain : ∀ chainID, Stored (store.getChain chainID)
  failChain : ∀ chainID cause, Stored (store.failChain chainID cause)
  advanceChain : ∀ chainID nodeID, Stored (store.advanceChain chainID nodeID)
  getBatch : ∀ batchID, Stored (store.getBatch batchID)
  outcomeStore : ∀ methods, store.outcomeStore = some methods ->
    ∀ chainID nodeID cause, Stored (methods.failChainNode chainID nodeID cause)
  chainAdvanceStore : ∀ advance, store.chainAdvanceStore = some advance ->
    ∀ chainID nodeID claim, Stored (advance chainID nodeID claim)
  chainFailureStore : ∀ fail, store.chainFailureStore = some fail ->
    ∀ chainID nodeID cause claim, Stored (fail chainID nodeID cause claim)
  chainTransitionReceipt : ∀ receipts, store.transitionReceiptStore = some receipts ->
    ∀ chainID nodeID, Stored (receipts.chainTransitionReceipt chainID nodeID)
  batchTransitionReceipt : ∀ receipts, store.transitionReceiptStore = some receipts ->
    ∀ batchID jobID, Stored (receipts.batchTransitionReceipt batchID jobID)

/-- The memory store is passive: each method is one call. -/
theorem MemoryStore.methods_passive : MemoryStore.methods.Passive where
  getChain := fun _ => ⟨rfl, fun _ => trivial⟩
  failChain := fun _ _ => ⟨rfl, fun _ => trivial⟩
  advanceChain := fun _ _ => ⟨rfl, fun _ => trivial⟩
  getBatch := fun _ => ⟨rfl, fun _ => trivial⟩
  outcomeStore := by
    rintro _ ⟨⟩ _ _ _
    exact ⟨rfl, fun _ => trivial⟩
  chainAdvanceStore := by
    rintro _ ⟨⟩ _ _ _
    exact ⟨rfl, fun _ => trivial⟩
  chainFailureStore := by
    rintro _ ⟨⟩ _ _ _ _
    exact ⟨rfl, fun _ => trivial⟩
  chainTransitionReceipt := by
    rintro _ ⟨⟩ _ _
    exact ⟨rfl, fun _ => trivial⟩
  batchTransitionReceipt := by
    rintro _ ⟨⟩ _ _
    exact ⟨rfl, fun _ => trivial⟩

namespace SqlStore

theorem stored_sql : Stored (ask (.sql statement)) :=
  ⟨rfl, fun _ => trivial⟩

theorem stored_batchTransitionReceipt (batchID jobID : String) :
    Stored (batchTransitionReceipt batchID jobID) :=
  uses_batchTransitionReceipt rfl (fun _ => rfl) fun _ => rfl

/-- The calls on a chain only issue the statements of their protocol. -/
theorem stored_of_meets {ρ : Type} {program : Engine ρ} {post : ρ -> ChainCalls.Phase -> Prop}
    (meets : Meets (ChainCalls.CallMoves chainID) program phase post) : Stored program := by
  refine Uses.of_meets Op.nonempty_answer ?_ meets
  rintro _ _ _ _ (_ | _ | _ | ⟨⟨⟩⟩ | _) <;> rfl

theorem stored_advanceChainOutcome (chainID nodeID : String) (claim : TransitionClaim) :
    Stored (advanceChainOutcome chainID nodeID claim) :=
  stored_of_meets (ChainCalls.meets_advanceChainOutcome ⟨.advance, nodeID, claim⟩ rfl)

theorem stored_failChainOutcome (chainID nodeID : String) (cause : Option GoError)
    (claim : TransitionClaim) : Stored (failChainOutcome chainID nodeID cause claim) :=
  stored_of_meets (ChainCalls.meets_failChainOutcome ⟨.fail cause, nodeID, claim⟩ rfl)

/-- The SQL store is passive: its methods only issue statements. -/
theorem methods_passive : methods.Passive where
  getChain := fun _ => uses_getChain rfl
  failChain := fun _ _ => Uses.bind stored_sql fun _ => trivial
  advanceChain := fun _ _ =>
    Uses.bind (stored_advanceChainOutcome _ _ _) fun _ => trivial
  getBatch := fun _ => uses_getBatch rfl
  outcomeStore := by
    rintro _ ⟨⟩ _ _ _
    exact Uses.bind (stored_failChainOutcome _ _ _ _) fun _ => trivial
  chainAdvanceStore := by
    rintro _ ⟨⟩
    exact stored_advanceChainOutcome
  chainFailureStore := by
    rintro _ ⟨⟩
    exact stored_failChainOutcome
  chainTransitionReceipt := by
    rintro _ ⟨⟩ _ _
    exact uses_chainTransitionReceipt rfl rfl
  batchTransitionReceipt := by
    rintro _ ⟨⟩
    exact stored_batchTransitionReceipt

end SqlStore

/-- Both built-in stores are passive. -/
theorem StoreKind.methods_passive (kind : StoreKind) : kind.methods.Passive := by
  cases kind
  · exact MemoryStore.methods_passive
  · exact SqlStore.methods_passive

/-- What a store answers when it is asked for a receipt; `none` when it has no
receipts at all. -/
abbrev PresentedReceipt : Type :=
  Option (Except GoError (Option TransitionReceipt))

/-- The answer cannot be trusted: the read failed, or the receipt does not
agree. -/
def Untrusted (presented : PresentedReceipt) (agrees : TransitionReceipt -> Prop) : Prop :=
  (∃ error, presented = some (.error error)) ∨
    ∃ receipt, presented = some (.ok (some receipt)) ∧ ¬agrees receipt

/-! ## Refusals -/

/-- What a delivery asks for besides its store. -/
def Op.foreign (operation : Op) : Option Op :=
  if operation.stored then none else some operation

theorem stored_of_select_foreign (unseen : select Op.foreign log = []) :
    ∀ entry ∈ log, entry.1.stored = true := by
  intro entry member
  have invisible := List.filterMap_eq_nil_iff.mp unseen entry member
  unfold Op.foreign at invisible
  split at invisible
  · assumption
  · cases invisible

theorem Stored.unseen_foreign {ρ : Type} {program : Engine ρ} (stored : Stored program) :
    Unseen Op.foreign program :=
  Uses.weaken stored fun _ asked => if_pos asked

/-- The recovery ends in an infrastructure error. -/
def Refused (result : Option (Option GoError)) : Prop :=
  ∃ error, result = some (some error) ∧ error.isUncommitted = true

theorem refused_uncommittedMutationError :
    Refused (some (some (uncommittedMutationError operation error))) :=
  ⟨_, rfl, isUncommitted_uncommittedMutationError⟩

/-! ## Surroundings -/

/-- The context of a delivery that recovers an unsettled generation. -/
def recoveringContext : DeliveryContext where
  provenance := some
    { generationID := "next", recoveredGenerationID := "generation", recovered := true }

end JobQueue.Workflow
