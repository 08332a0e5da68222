import JobQueue.Workflow.Recovery.Receipts

/-!
# Recovered batch deliveries fail closed

A recovered delivery of a batch member is followed against an arbitrary batch
state and an arbitrary receipt of a store that keeps receipts. An inconsistent
state or a receipt that disagrees with it is refused. A known receipt ends the
delivery without its handler and callbacks, and the facts it may report are
limited to what the receipt owns.
-/

namespace JobQueue.Workflow

open Interleaving

/-! ## Agreement of state and receipt with the envelope -/

/-- The state belongs to the batch of the envelope and its counters and
completion fit together. -/
structure ConsistentBatch (env : Envelope) (state : BatchState) : Prop where
  batchID : state.batchID = env.batchID
  dispatchID : dispatchMismatch state.dispatchID env.dispatchID = false
  total : 0 < state.total
  pending : 0 ≤ state.pending
  processed : 0 ≤ state.processed
  failed : 0 ≤ state.failed
  counters : state.pending + state.processed = state.total
  failures : state.failed ≤ state.processed
  incomplete : state.completed = false -> state.pending ≠ 0
  complete : state.completed = true -> state.cancelled = false -> state.pending = 0

/-- The receipt belongs to the member of the envelope, and what it owns of the
aggregate fits the state. -/
structure MemberReceipt (env : Envelope) (state : BatchState) (receipt : TransitionReceipt) :
    Prop where
  agrees : ReceiptAgrees .batch env.batchID env.jobID state.dispatchID state.createdAt env receipt
  jobID : receipt.owner.jobID = env.jobID
  cancellation : receipt.aggregateCancelled = true ->
    receipt.aggregateCompleted = true ∧ receipt.outcome = .failed
  completion : receipt.aggregateCompleted = true ->
    state.completed = true ∧ receipt.aggregateCancelled = state.cancelled

theorem validateRecoveredBatchState_eq_none_iff :
    validateRecoveredBatchState env state = none ↔ ConsistentBatch env state := by
  simp only [validateRecoveredBatchState, check_eq_none, not_not, not_or,
    not_and, Int.not_lt, Int.not_le, Bool.not_eq_true, and_true]
  constructor
  · rintro ⟨batch, dispatch, ⟨total, pending, processed, failed, counters,
      failures⟩, incomplete, complete⟩
    exact ⟨batch, dispatch, total, pending, processed, failed, counters,
      failures, incomplete, complete⟩
  · rintro ⟨batch, dispatch, total, pending, processed, failed, counters,
      failures, incomplete, complete⟩
    exact ⟨batch, dispatch, ⟨total, pending, processed, failed, counters,
      failures⟩, incomplete, complete⟩

/-- The shape of a receipt is accepted when the aggregate it owns is the one
that the state shows. -/
theorem validateRecoveredBatchReceiptShape_eq_none_iff :
    validateRecoveredBatchReceiptShape state receipt = none ↔
      (receipt.aggregateCancelled = true ->
        receipt.aggregateCompleted = true ∧ receipt.outcome = .failed) ∧
      (receipt.aggregateCompleted = true -> state.completed = true ∧
          receipt.aggregateCancelled = state.cancelled) := by
  rw [validateRecoveredBatchReceiptShape, check_eq_none, check_eq_none]
  by_cases completed : receipt.aggregateCompleted = true
  · rw [if_neg (not_not.mpr completed), check_eq_none, check_eq_none]
    simp only [completed, not_true_eq_false, and_false, not_false_eq_true,
      true_and, not_and, not_not, ne_eq, and_true, true_imp_iff]
  · rw [if_pos completed]
    constructor
    · rintro ⟨uncancelled, _, _⟩
      exact ⟨fun cancelled => absurd ⟨cancelled, completed⟩ uncancelled,
        fun owned => absurd owned completed⟩
    · rintro ⟨cancellation, _⟩
      have uncancelled : ¬receipt.aggregateCancelled = true :=
        fun cancelled => completed (cancellation cancelled).1
      exact ⟨fun both => uncancelled both.1, fun both => uncancelled both.1, rfl⟩

/-- The three checks of a receipt pass exactly when it proves the settlement of
the member. -/
theorem memberReceipt_iff :
    MemberReceipt env state receipt ↔ receiptMatchesBatch env state receipt = true ∧
        validateRecoveredTransitionReceipt env receipt true = none ∧
        validateRecoveredBatchReceiptShape state receipt = none := by
  constructor
  · rintro ⟨agrees, job, cancellation, completion⟩
    refine ⟨?_, ?_, ?_⟩
    · simp [receiptMatchesBatch, agrees.workflowKind, agrees.workflowID,
        agrees.memberID, agrees.workflowDispatchID, agrees.workflowCreatedAt]
    · exact validateRecoveredTransitionReceipt_of_agrees agrees.supported
        agrees.owner agrees.dispatchID agrees.jobFingerprint job
    · exact validateRecoveredBatchReceiptShape_eq_none_iff.mpr ⟨cancellation, completion⟩
  · rintro ⟨belongs, accepted, shape⟩
    simp only [receiptMatchesBatch, Bool.and_eq_true, decide_eq_true_eq, beq_iff_eq] at belongs
    obtain ⟨⟨⟨⟨kind, workflow⟩, member⟩, dispatch⟩, createdAt⟩ := belongs
    obtain ⟨supported, valid, owner, job, memberJob⟩ :=
      validateRecoveredTransitionReceipt_eq_none accepted
    obtain ⟨cancellation, completion⟩ := validateRecoveredBatchReceiptShape_eq_none_iff.mp shape
    exact ⟨⟨kind, workflow, member, dispatch, createdAt, supported, valid,
      owner, job⟩, memberJob rfl, cancellation, completion⟩

/-! ## What a presented batch leads to -/

/-- A store with receipts presents this state and this receipt. -/
structure PresentsBatch (environment : Environment Op Op.Answer) (store : Store)
    (receipts : TransitionReceiptStore) (env : Envelope) (state : BatchState)
    (presented : Except GoError (Option TransitionReceipt)) : Prop where
  batch : Ensures environment (store.getBatch env.batchID) fun _ answer =>
    answer = .ok state
  receipt : Ensures environment (receipts.batchTransitionReceipt env.batchID env.jobID)
    fun _ answer => answer = presented

/-- What a delivery may ask for once a receipt is known: its store, readings of
the clock, identifiers, and the facts that the receipt owns. -/
inductive RecoveredOp (provenance : DeliveryProvenance) (env : Envelope) (state : BatchState)
    (receipt : TransitionReceipt) : Op -> Prop
  | stored (operation : Op) (asked : operation.stored = true) :
      RecoveredOp provenance env state receipt operation
  | now : RecoveredOp provenance env state receipt .now
  | newID (kind : String) : RecoveredOp provenance env state receipt (.newID kind)
  | succeeded (event : Event) (deferred : Bool)
      (kind : event.kind = .jobSucceeded ∨ event.kind = .batchProgressed)
      (owner : ExactOwner provenance env receipt) (outcome : receipt.outcome = .succeeded) :
      RecoveredOp provenance env state receipt (.emit event deferred)
  | completed (event : Event) (deferred : Bool) (kind : event.kind = .batchCompleted)
      (owner : ExactOwner provenance env receipt) (owned : receipt.aggregateCompleted = true)
      (uncancelled : receipt.aggregateCancelled = false) (complete : state.completed = true)
      (live : state.cancelled = false) (exhausted : state.pending = 0) :
      RecoveredOp provenance env state receipt (.emit event deferred)

section Presented

variable {state : BatchState}

theorem uses_emitFact
    (allowed : ∀ event deferred, event.kind = kind ->
      RecoveredOp provenance env state receipt (.emit event deferred)) :
    Uses (RecoveredOp provenance env state receipt) (emitFact context kind eventID target none) :=
  Uses.bind ⟨.now, fun _ => trivial⟩ fun _ =>
    ⟨allowed _ _ rfl, fun _ => trivial⟩

theorem uses_reportRecoveredBatchCompletion
    (owner : exact = true -> ExactOwner provenance env receipt) :
    Uses (RecoveredOp provenance env state receipt)
      (reportRecoveredBatchCompletion context env state receipt exact) := by
  unfold reportRecoveredBatchCompletion
  split
  · rename_i owns
    simp only [Bool.and_eq_true, Bool.not_eq_true', decide_eq_true_eq] at owns
    obtain ⟨⟨⟨⟨⟨isExact, completed⟩, uncancelled⟩, exhausted⟩, complete⟩, live⟩ := owns
    refine uses_emitFact fun event deferred kind => ?_
    exact .completed event deferred kind (owner isExact) completed uncancelled
      complete live exhausted
  · exact trivial

theorem uses_emitCommittedBatchSuccessFacts (owner : ExactOwner provenance env receipt)
    (succeeded : receipt.outcome = .succeeded) :
    Uses (RecoveredOp provenance env state receipt)
      (emitCommittedBatchSuccessFacts context env outcome) := by
  refine Uses.bind ?_ fun _ => ?_
  · unfold emitStoredJobOutcome
    split
    · exact trivial
    · refine Uses.bind (uses_storedJobOutcomeFactID (.newID _)) fun _ => ⟨?_, fun _ => trivial⟩
      exact .succeeded _ _ (.inl (by simp)) owner succeeded
  · refine uses_emitFact fun event deferred kind => ?_
    exact .succeeded event deferred (.inr kind) owner succeeded

/-- A receipt never makes its delivery ask for more than it owns. -/
theorem uses_recoverBatchReceipt :
    Uses (RecoveredOp provenance env state receipt)
      (recoverBatchReceipt context provenance env state receipt) := by
  simp only [recoverBatchReceipt]
  split
  · exact trivial
  split
  · exact trivial
  split
  · exact trivial
  cases outcome : receipt.outcome with
  | succeeded =>
    dsimp only
    split
    · exact trivial
    rename_i owns
    have owner := exactOwner_of_owns (not_not.mp owns)
    refine Uses.bind ⟨.now, fun _ => trivial⟩ fun observed => ?_
    split
    · exact trivial
    refine Uses.bind (uses_emitCommittedBatchSuccessFacts owner outcome) fun _ => ?_
    exact Uses.bind (uses_reportRecoveredBatchCompletion fun _ => owner) fun _ => trivial
  | failed =>
    exact Uses.bind (uses_reportRecoveredBatchCompletion exactOwner_of_owns) fun _ => trivial
  | unsupported text => exact trivial

/-! ### Refusal -/

/-- A receipt that does not prove the settlement is refused at once. -/
theorem recoverBatchReceipt_refuses (context : DeliveryContext) (provenance : DeliveryProvenance)
    (unproven : ¬MemberReceipt env state receipt) :
    ∃ error, recoverBatchReceipt context provenance env state receipt =
      .ret (some (uncommittedMutationError "recover committed batch transition" error)) := by
  simp only [recoverBatchReceipt]
  split
  · exact ⟨_, rfl⟩
  rename_i belongs
  split
  · exact ⟨_, rfl⟩
  rename_i accepted
  split
  · exact ⟨_, rfl⟩
  rename_i shape
  exact absurd (memberReceipt_iff.mpr ⟨not_not.mp belongs, accepted, shape⟩) unproven

/-- What disagrees is refused, having asked only the store. -/
theorem recoverCommittedBatchTransition_refuses
    (presents : PresentsBatch environment r.store receipts env state presented)
    (passive : r.store.Passive)
    (capable : r.store.transitionReceiptStore = some receipts)
    (recovered : recoveredDeliveryProvenance context = some provenance)
    (disagrees : ¬ConsistentBatch env state ∨
      ∃ receipt, presented = .ok (some receipt) ∧ ¬MemberReceipt env state receipt) :
    Ensures environment (recoverCommittedBatchTransition r context env) fun log result =>
        (∀ entry ∈ log, entry.1.stored = true) ∧ Refused result := by
  unfold recoverCommittedBatchTransition
  simp only [recovered, capable]
  refine Ensures.bind (Ensures.and (Uses.ensures (passive.getBatch _)) presents.batch) ?_
  rintro before _ ⟨stored, rfl⟩
  cases checked : validateRecoveredBatchState env state with
  | some error =>
    simp only [checked]
    exact Ensures.ret ⟨by simpa using stored, refused_uncommittedMutationError⟩
  | none =>
    have consistent := validateRecoveredBatchState_eq_none_iff.mp checked
    obtain ⟨receipt, known, unproven⟩ := disagrees.resolve_left (not_not.mpr consistent)
    simp only [checked]
    refine Ensures.bind (Ensures.and (Uses.ensures (passive.batchTransitionReceipt _ capable _ _))
      presents.receipt) ?_
    rintro middle _ ⟨storedRead, rfl⟩
    obtain ⟨error, refused⟩ := recoverBatchReceipt_refuses context provenance unproven
    simp only [known, refused]
    refine Ensures.ret ⟨?_, refused_uncommittedMutationError⟩
    simpa [or_imp, forall_and] using ⟨stored, storedRead⟩

/-! ### Known receipts -/

/-- A proven failure ends the delivery in the failure it committed, a proven
success ends it without one. -/
theorem ensures_recoverBatchReceipt (proves : MemberReceipt env state receipt) :
    Ensures environment (recoverBatchReceipt context provenance env state receipt) fun _ result =>
        (receipt.outcome = .failed -> result = some (committedMemberFailure env)) ∧
        (receipt.outcome = .succeeded -> result = none) := by
  obtain ⟨belongs, accepted, shape⟩ := memberReceipt_iff.mp proves
  simp only [recoverBatchReceipt, belongs, not_true_eq_false, if_false, accepted, shape]
  cases outcome : receipt.outcome with
  | succeeded =>
    dsimp only
    split
    · exact Ensures.ret ⟨by simp, fun _ => rfl⟩
    rename_i owns
    have owner := exactOwner_of_owns (not_not.mp owns)
    refine Ensures.bind (Ensures.shown _) fun _ observed _ => ?_
    obtain ⟨reported, same⟩ := recoveredStoredJobSuccess_of_exact accepted outcome owner observed
    rw [same]
    refine Ensures.bind (Ensures.shown _) fun _ _ _ => ?_
    refine Ensures.bind (Ensures.shown _) fun _ _ _ => ?_
    exact Ensures.ret ⟨by simp, fun _ => rfl⟩
  | failed =>
    refine Ensures.bind (Ensures.shown _) fun _ _ _ => ?_
    exact Ensures.ret ⟨fun _ => rfl, by simp⟩
  | unsupported text => exact Ensures.ret ⟨by simp, by simp⟩

/-- A known receipt of a consistent batch ends the delivery. -/
theorem recoverCommittedBatchTransition_known {known : BatchState -> Prop}
    (batch : Ensures environment (r.store.getBatch env.batchID)
      fun _ answer => ∃ state, answer = .ok state ∧ known state)
    (read : Ensures environment (receipts.batchTransitionReceipt env.batchID env.jobID)
      fun _ answer => answer = .ok (some receipt))
    (passive : r.store.Passive)
    (capable : r.store.transitionReceiptStore = some receipts)
    (recovered : recoveredDeliveryProvenance context = some provenance)
    (consistent : ∀ state, known state -> ConsistentBatch env state)
    (proves : ∀ state, known state -> MemberReceipt env state receipt) :
    Ensures environment (recoverCommittedBatchTransition r context env)
      fun log result => ∃ state final, known state ∧ result = some final ∧
        (∀ entry ∈ log, RecoveredOp provenance env state receipt entry.1) ∧
        (receipt.outcome = .failed -> final = some (committedMemberFailure env)) ∧
        (receipt.outcome = .succeeded -> final = none) := by
  unfold recoverCommittedBatchTransition
  simp only [recovered, capable]
  refine Ensures.bind (Ensures.and (Uses.ensures (passive.getBatch _)) batch) ?_
  rintro before _ ⟨stored, state, rfl, presented⟩
  have checked := validateRecoveredBatchState_eq_none_iff.mpr (consistent state presented)
  simp only [checked]
  refine Ensures.bind (Ensures.and
      (Uses.ensures (passive.batchTransitionReceipt _ capable _ _)) read) ?_
  rintro middle _ ⟨storedRead, rfl⟩
  refine Ensures.bind (Ensures.and (Uses.ensures uses_recoverBatchReceipt)
      (ensures_recoverBatchReceipt (proves state presented))) ?_
  rintro after final ⟨used, ends⟩
  refine Ensures.ret ⟨state, final, presented, rfl, ?_, ends⟩
  intro entry member
  simp only [List.append_nil, List.mem_append] at member
  rcases member with early | middle | late
  · exact .stored _ (stored entry early)
  · exact .stored _ (storedRead entry middle)
  · exact used entry late

end Presented

/-! ## Recovery fails closed -/

theorem classifyAttempt_committedMemberFailure :
    classifyAttempt attempt (some (committedMemberFailure env)) = .failed := by
  simp [classifyAttempt, committedMemberFailure, GoError.asPermanent,
    GoError.isPermanent, GoError.isUncommitted]

/-- A recovered delivery of a batch member ends. It is redelivered, having
asked only the store, when the state is inconsistent or a known receipt
disagrees with it. With a proven receipt it runs neither handler nor callback
and reports only what the receipt owns, and a failed receipt fails it. -/
theorem batch_recovery_fails_closed {r : Runtime} {receipts : TransitionReceiptStore}
    {context : DeliveryContext} {provenance : DeliveryProvenance}
    (passive : r.store.Passive)
    (capable : r.store.transitionReceiptStore = some receipts)
    (recovered : recoveredDeliveryProvenance context = some provenance)
    (env : Envelope) (environment : Environment Op Op.Answer)
    (state : BatchState) (presented : Except GoError (Option TransitionReceipt))
    (presents : PresentsBatch environment r.store receipts
      (applyDeliveryAttempt context env) state presented) :
    let delivered := applyDeliveryAttempt context env
    let handling := handleInternalBatchJob r context env
    (∃ log result, Logs environment handling log result) ∧
      ((¬ConsistentBatch delivered state ∨ ∃ receipt, presented = .ok (some receipt) ∧
            ¬MemberReceipt delivered state receipt) ->
        Ensures environment handling fun log result =>
          (∀ entry ∈ log, entry.1.stored = true) ∧
            ∀ attempt, classifyAttempt attempt result = .redeliver) ∧
      ∀ receipt, presented = .ok (some receipt) -> ConsistentBatch delivered state ->
        MemberReceipt delivered state receipt -> Ensures environment handling fun log result =>
          (∀ entry ∈ log, RecoveredOp provenance delivered state receipt entry.1) ∧
          (receipt.outcome = .failed -> ∀ attempt, classifyAttempt attempt result = .failed) ∧
          (receipt.outcome = .succeeded -> result = none) := by
  intro delivered handling
  refine ⟨Logs.exists_run environment handling, ?_, ?_⟩
  · intro disagrees
    simp only [handling, handleInternalBatchJob, recovered]
    refine Ensures.bind (recoverCommittedBatchTransition_refuses presents
      passive capable recovered disagrees) ?_
    rintro log _ ⟨stored, error, rfl, uncommitted⟩
    exact Ensures.ret ⟨by simpa using stored,
      fun attempt => classifyAttempt_of_isUncommitted uncommitted⟩
  · rintro receipt rfl consistent proves
    simp only [handling, handleInternalBatchJob, recovered]
    refine Ensures.bind (recoverCommittedBatchTransition_known
      (Ensures.weaken presents.batch fun _ _ same => ⟨state, same, rfl⟩)
      presents.receipt passive capable recovered
      (by rintro _ rfl; exact consistent)
      (by rintro _ rfl; exact proves)) ?_
    rintro log _ ⟨_, final, rfl, rfl, used, failed, succeeded⟩
    refine Ensures.ret ⟨by simpa using used, ?_, succeeded⟩
    intro outcome attempt
    rw [failed outcome]
    exact classifyAttempt_committedMemberFailure

/-- A batch of two members, one of which failed. -/
def halfFailedBatch : BatchState where
  batchID := "batch"
  dispatchID := "dispatch"
  name := ""
  queue := ""
  allowFailed := true
  total := 2
  pending := 1
  processed := 1
  failed := 1
  createdAt := 0
  updatedAt := 0

/-- The message of the failed member. -/
def failedMemberEnvelope : Envelope where
  dispatchID := "dispatch"
  kind := .batchJob
  batchID := "batch"
  jobID := "job"
  job := { jobType := "a" }

/-- The receipt of its failure. -/
def failedMemberReceipt : TransitionReceipt where
  version := 1
  eventSchemaVersion := 1
  workflowKind := .batch
  workflowID := "batch"
  workflowDispatchID := "dispatch"
  workflowCreatedAt := 0
  memberID := "job"
  outcome := .failed
  owner :=
    { deliveryID := "generation", dispatchID := "dispatch", jobID := "job",
      jobFingerprint := some { jobType := "a" } }
  aggregateCompleted := false
  aggregateCancelled := false
  createdAt := 0

/-- Surroundings in which the memory store presents one batch and one
receipt. -/
def presentingBatch (state : BatchState) (receipt : TransitionReceipt) :
    Environment Op Op.Answer where
  answers
    | .memory (.getBatch _) => fun answer => answer = .ok state
    | .memory (.batchTransitionReceipt _ _) => fun answer => answer = .ok (some receipt)
    | _ => fun _ => True
  total := by
    intro operation
    split
    · exact ⟨_, rfl⟩
    · exact ⟨_, rfl⟩
    · exact (Op.nonempty_answer operation).elim fun answer => ⟨answer, trivial⟩

theorem batch_recovery_fails_closed_failed_member :
    ∃ log result, Logs (presentingBatch halfFailedBatch failedMemberReceipt)
        (handleInternalBatchJob { store := MemoryStore.methods }
          recoveringContext failedMemberEnvelope) log result ∧
        ∀ attempt, classifyAttempt attempt result = .failed := by
  have presents : PresentsBatch (presentingBatch halfFailedBatch failedMemberReceipt)
      MemoryStore.methods
      { chainTransitionReceipt := fun chainID nodeID =>
          ask (.memory (.chainTransitionReceipt chainID nodeID))
        batchTransitionReceipt := fun batchID jobID =>
          ask (.memory (.batchTransitionReceipt batchID jobID)) }
      failedMemberEnvelope halfFailedBatch (.ok (some failedMemberReceipt)) :=
    ⟨Ensures.perform fun _ allowed => allowed, Ensures.perform fun _ allowed => allowed⟩
  obtain ⟨⟨log, result, runs⟩, _, known⟩ := batch_recovery_fails_closed
    (r := { store := MemoryStore.methods }) MemoryStore.methods_passive rfl
    (show recoveredDeliveryProvenance recoveringContext = some _ from rfl)
    failedMemberEnvelope _ halfFailedBatch (.ok (some failedMemberReceipt))
    presents
  have consistent : ConsistentBatch failedMemberEnvelope halfFailedBatch :=
    validateRecoveredBatchState_eq_none_iff.mp rfl
  have proves : MemberReceipt failedMemberEnvelope halfFailedBatch
      failedMemberReceipt := memberReceipt_iff.mpr ⟨rfl, rfl, rfl⟩
  exact ⟨log, result, runs, (known _ rfl consistent proves log result runs).2.1 rfl⟩

end JobQueue.Workflow
