import JobQueue.Workflow.Store.ChainTransitions

/-!
# What one batch transition can do

A settlement is refused, answered from the stored outcome of the member, or
claimed: the member becomes done and the counters move with it. Every later
argument about batches uses this inversion.
-/

namespace JobQueue.Workflow

/-- The two outcomes the stores accept. -/
def BatchJobOutcome.supported (outcome : BatchJobOutcome) : Prop :=
  outcome = .succeeded ∨ outcome = .failed

instance (outcome : BatchJobOutcome) : Decidable outcome.supported := by
  unfold BatchJobOutcome.supported
  infer_instance

namespace MemoryStore

variable (store : MemoryStore)

@[simp] theorem setBatch_batch (batch : MemoryBatch) :
    (store.setBatch batchID batch).batch = Function.update store.batch batchID (some batch) := rfl

/-- A member after its first settlement. -/
def settledMember (batch : MemoryBatch) (jobID : String) (status : BatchJobStatus)
    (failure : Bool) (now : Time) : MemoryBatch where
  state := settledState batch.state failure now
  jobs := KeyedList.replace jobID { status with done := true, failed := failure } batch.jobs

/-- The settlement that makes an unfinished batch terminal. -/
def crossesTerminal (before after : BatchState) : Bool :=
  !before.completed && after.completed

/-- The store after a settlement is claimed. -/
def claimSettlement (batch : MemoryBatch) (batchID jobID : String)
    (status : BatchJobStatus) (outcome : BatchJobOutcome) (claim : TransitionClaim) (now : Time) :
    Option TransitionReceipt × MemoryStore :=
  let after := settledMember batch jobID status (decide (outcome = .failed)) now
  (store.setBatch batchID after).recordTransitionReceipt .batch batchID
    batch.state.dispatchID batch.state.createdAt jobID outcome claim
    (crossesTerminal batch.state after.state)
    (crossesTerminal batch.state after.state && after.state.cancelled) now

/-- Everything `settleBatchOutcome` can do to a stored batch. -/
inductive SettlementOutcome (store : MemoryStore) (batch : MemoryBatch) (batchID jobID : String)
    (outcome : BatchJobOutcome) (claim : TransitionClaim) (now : Time) :
    Except GoError BatchSettlementResult × MemoryStore -> Prop
  | refused (error : GoError)
      (reason : ¬outcome.supported ∨ KeyedList.find jobID batch.jobs = none ∨
        dispatchMismatch batch.state.dispatchID claim.dispatchID = true) :
      SettlementOutcome store batch batchID jobID outcome claim now (.error error, store)
  | foreign (mismatch :
        dispatchMismatch batch.state.dispatchID claim.dispatchID = true) :
      SettlementOutcome store batch batchID jobID outcome claim now
        (.ok { state := batch.state }, store)
  | replayed (status : BatchJobStatus) (found : KeyedList.find jobID batch.jobs = some status)
      (done : status.done = true) :
      SettlementOutcome store batch batchID jobID outcome claim now (.ok
          { state := { batch.state with updatedAt := now }
            owned := status.failed == decide (outcome = .failed)
            receipt := store.transitionReceipt .batch batchID jobID },
          store.setBatch batchID { batch with state := { batch.state with updatedAt := now } })
  | claimed (status : BatchJobStatus) (supported : outcome.supported)
      (found : KeyedList.find jobID batch.jobs = some status) (unsettled : status.done = false)
      (matching : dispatchMismatch batch.state.dispatchID claim.dispatchID = false) :
      SettlementOutcome store batch batchID jobID outcome claim now (.ok
          { state :=
              settledState batch.state (decide (outcome = .failed)) now
            owned := true
            claimedNow := true
            receipt :=
              (store.claimSettlement batch batchID jobID status outcome claim now).1 },
          (store.claimSettlement batch batchID jobID status outcome claim now).2)

variable {store}

/-- Settling a member of a stored batch does one of the four listed things. -/
theorem settleBatchOutcome_cases {batch : MemoryBatch} (stored : store.batch batchID = some batch)
    (jobID : String) (outcome : BatchJobOutcome) (claim : TransitionClaim)
    (now : Time) :
    SettlementOutcome store batch batchID jobID outcome claim now
      (store.settleBatchOutcome batchID jobID outcome claim now) := by
  by_cases supported : outcome.supported
  · have accepted : ¬(outcome ≠ .succeeded ∧ outcome ≠ .failed) := by
      rintro ⟨notSucceeded, notFailed⟩
      exact supported.elim notSucceeded notFailed
    simp only [settleBatchOutcome, if_neg accepted, stored]
    cases found : KeyedList.find jobID batch.jobs with
    | none => exact .refused _ (.inr (.inl found))
    | some status =>
      cases done : status.done with
      | true =>
        cases mismatch : dispatchMismatch batch.state.dispatchID claim.dispatchID with
        | true =>
          simp only [done, if_true]
          exact .foreign mismatch
        | false =>
          simp only [done, if_true]
          exact .replayed status found done
      | false =>
        cases mismatch : dispatchMismatch batch.state.dispatchID claim.dispatchID with
        | true =>
          simp only [done]
          exact .refused _ (.inr (.inr mismatch))
        | false =>
          simp only [done]
          exact .claimed status supported found done mismatch
  · have rejected : outcome ≠ .succeeded ∧ outcome ≠ .failed := not_or.mp supported
    rw [settleBatchOutcome, if_pos rejected]
    exact .refused _ (.inl supported)

variable (store)

/-- Claiming a settlement replaces the stored batch and no other. -/
@[simp] theorem claimSettlement_batch (batch : MemoryBatch) :
    (store.claimSettlement batch batchID jobID status outcome claim now).2.batch
      = Function.update store.batch batchID (some (settledMember batch jobID status
            (decide (outcome = .failed)) now)) := by
  unfold claimSettlement recordTransitionReceipt
  split <;> rfl

/-- Settling a member of one batch leaves every other batch alone. -/
theorem settleBatchOutcome_batch_of_ne (different : batchID ≠ target) :
    (store.settleBatchOutcome target jobID outcome claim now).2.batch batchID =
      store.batch batchID := by
  cases stored : store.batch target with
  | none =>
    unfold settleBatchOutcome
    split
    · rfl
    · simp [stored]
  | some batch =>
    have answer := settleBatchOutcome_cases stored jobID outcome claim now
    generalize store.settleBatchOutcome target jobID outcome claim now = result at answer
    cases answer with
    | refused => rfl
    | foreign => rfl
    | replayed => rw [setBatch_batch, Function.update_of_ne different]
    | claimed => rw [claimSettlement_batch, Function.update_of_ne different]

/-! Batch calls leave the chains alone. -/

@[simp] theorem createBatch_chains : (store.createBatch record now).2.chains = store.chains := by
  unfold createBatch
  split <;> rfl

@[simp] theorem markBatchJobStarted_chains :
    (store.markBatchJobStarted batchID jobID now).2.chains = store.chains := by
  unfold markBatchJobStarted
  split
  · rfl
  · split <;> rfl

@[simp] theorem cancelBatch_chains : (store.cancelBatch batchID now).2.chains = store.chains := by
  unfold cancelBatch
  split <;> rfl

@[simp] theorem settleBatchOutcome_chains :
    (store.settleBatchOutcome batchID jobID outcome claim now).2.chains = store.chains := by
  unfold settleBatchOutcome
  split
  · rfl
  split
  · rfl
  split
  · rfl
  dsimp only
  split
  · split <;> rfl
  split
  · rfl
  · rw [recordTransitionReceipt_chains]
    rfl

end MemoryStore

end JobQueue.Workflow
